import Mathlib.Algebra.Group.Nat.Defs
import Mathlib.Data.List.Induction
import VendorDispatch.Proofs.Work

/-!
A number that is written to a request or to a reply is read back from it.

* `ByteOrder.number?`: the number that some bytes of a message spell; `ByteOrder.Spells` says place
  by place which number that is (`number?_eq_some_iff`).
* `ClientM.read`, `ClientM.write`: reading and writing a field of the current request in place.
  `Client.FieldAt`: what they do to each other, and when they fail.
* `Reply.lastPut`: the number that was put last into a field of a reply. `Reply.Carries.put` is one
  put, `Reply.exists_carries` is any number of them.
* `fields_round_trip`: all of it.
-/

namespace VendorDispatch

/-! ### The numbers of a message -/

namespace ByteOrder

variable {order : ByteOrder} {bs : List UInt8} {start n x k : Nat}

/-- The number that `n` bytes of a message spell, if the message reaches that far. -/
def number? (order : ByteOrder) (bs : List UInt8) (start n : Nat) : Option Nat :=
  (slice? bs start n).map order.decode

/-- How many of `n` bytes are less significant than the byte at place `k`. -/
def weight (order : ByteOrder) (n k : Nat) : Nat :=
  match order with
  | little => k
  | big => n - 1 - k

/-- The `n` bytes of a message from `start` on are the digits of `x` to the base 256. -/
def Spells (order : ByteOrder) (bs : List UInt8) (start n x : Nat) : Prop :=
  ∀ k, k < n → bs[start + k]? = some (UInt8.ofNat (x / 256 ^ order.weight n k))

/-- The digit of a place, in little-endian order. -/
lemma getElem?_littleEndian (hk : k < n) :
    (littleEndian n x)[k]? = some (UInt8.ofNat (x / 256 ^ k)) := by
  induction n generalizing x k with
  | zero => exact absurd hk (Nat.not_lt_zero k)
  | succ n ih =>
      cases k with
      | zero => rw [littleEndian, List.getElem?_cons_zero, pow_zero, Nat.div_one]
      | succ k =>
          rw [littleEndian, List.getElem?_cons_succ, ih (Nat.lt_of_succ_lt_succ hk),
            Nat.div_div_eq_div_mul, pow_succ']

/-- The digit of a place, in either order. -/
lemma getElem?_encode (order : ByteOrder) (hk : k < n) :
    (order.encode n x)[k]? = some (UInt8.ofNat (x / 256 ^ order.weight n k)) := by
  cases order with
  | little => exact getElem?_littleEndian hk
  | big =>
      have hlen : k < (littleEndian n x).length := by rwa [length_littleEndian]
      rw [encode, List.getElem?_reverse hlen, length_littleEndian]
      exact getElem?_littleEndian (by omega)

/-- A number of at least one byte is spelled where its encoding stands. -/
lemma spells_iff_slice? (hn : 0 < n) :
    order.Spells bs start n x ↔ slice? bs start n = some (order.encode n x) := by
  rw [slice?_eq_some_iff]
  constructor
  · intro h
    -- The last of the bytes is there, so the message reaches far enough.
    have hlast := (List.getElem?_eq_some_iff.mp (h (n - 1) (by omega))).1
    refine ⟨by omega, List.ext_getElem? fun k => ?_⟩
    by_cases hk : k < n
    · rw [List.getElem?_take_of_lt hk, List.getElem?_drop, h k hk, getElem?_encode order hk]
    · rw [List.getElem?_eq_none (by simp; omega), List.getElem?_eq_none (by simp; omega)]
  · rintro ⟨-, hbytes⟩ k hk
    rw [← getElem?_encode order hk, ← hbytes, List.getElem?_take_of_lt hk, List.getElem?_drop]

/-- What is read off `n` bytes is the number that they spell. -/
lemma number?_eq_some_iff (hn : 0 < n) :
    order.number? bs start n = some x ↔ x < byteRange n ∧ order.Spells bs start n x := by
  rw [number?, spells_iff_slice? hn, Option.map_eq_some_iff]
  constructor
  · rintro ⟨run, hrun, rfl⟩
    have hlen := length_of_slice? hrun
    have hlt := order.decode_lt run
    have hbytes := order.encode_decode run
    rw [hlen] at hlt hbytes
    exact ⟨hlt, by rw [hrun, hbytes]⟩
  · rintro ⟨hlt, hslice⟩
    exact ⟨_, hslice, by rw [order.decode_encode, Nat.mod_eq_of_lt hlt]⟩

end ByteOrder

/-! ### Fields of the current request -/

/-- Work on a client in place. What was done before a fault stays done. -/
abbrev ClientM := EStateM Fault Client

namespace ClientM

/-- Breaks the work off at a field that does not end inside the address space. -/
def checkField (offset : Nat) : ClientM Unit :=
  if fieldAddressable offset then return () else throw (.abort .panicked)

/-- Reads a field of the request. -/
def read (offset : Nat) : ClientM UInt32 := do
  checkField offset
  MonadExcept.ofExcept (((← get).readWord offset).mapError .error)

/-- Replaces a field of the request. -/
def write (offset : Nat) (value : UInt32) : ClientM Unit := do
  checkField offset
  set (← MonadExcept.ofExcept (((← get).writeWord offset value).mapError .error))

section

variable {c d : Client} {offset : Nat} {value : UInt32} {e : ProtocolError}
  (ho : fieldAddressable offset = true)

include ho

lemma checkField_eq (c : Client) : checkField offset c = .ok () c := by
  rw [checkField, if_pos ho]
  rfl

/-- Where the end of a field can be computed, to read the field is to decode its bytes. -/
lemma read_eq (c : Client) : read offset c =
    (MonadExcept.ofExcept ((c.readWord offset).mapError .error) : ClientM UInt32) c :=
  bind_of_ok (checkField_eq ho c)

/-- And to write it is to overwrite its bytes. -/
lemma write_eq (c : Client) (value : UInt32) : write offset value c =
    (MonadExcept.ofExcept ((c.writeWord offset value).mapError .error) >>= set : ClientM Unit) c :=
  bind_of_ok (checkField_eq ho c)

lemma read_of_ok (h : c.readWord offset = .ok value) : read offset c = .ok value c := by
  rw [read_eq ho, h]
  rfl

lemma read_of_error (h : c.readWord offset = .error e) :
    read offset c = .error (.error e) c := by
  rw [read_eq ho, h]
  rfl

lemma write_of_ok (h : c.writeWord offset value = .ok d) : write offset value c = .ok () d := by
  rw [write_eq ho, h]
  rfl

lemma write_of_error (h : c.writeWord offset value = .error e) :
    write offset value c = .error (.error e) c := by
  rw [write_eq ho, h]
  rfl

end

end ClientM

namespace Client

variable {c d : Client} {offset : Nat} {value : UInt32}

lemma readWord_eq_ok (h : c.readWord offset = .ok value) :
    c.byteOrder.number? c.request offset 4 = some value.toNat := by
  rw [readWord] at h
  rw [ByteOrder.number?]
  cases hrun : slice? c.request offset 4 with
  | none => rw [hrun] at h; cases h
  | some run =>
      rw [hrun] at h
      cases h
      have hlt := c.byteOrder.decode_lt run
      rw [length_of_slice? hrun] at hlt
      rw [Option.map_some, UInt32.toNat_ofNat_of_lt' hlt]

/-- Writing back what was read changes nothing. -/
lemma writeWord_readWord (h : c.readWord offset = .ok value) :
    c.writeWord offset value = .ok c := by
  have hle := readWord_eq_ok_iff.mp ⟨value, h⟩
  obtain ⟨run, hrun⟩ := Option.isSome_iff_exists.mp (isSome_slice?.mpr hle)
  have hvalue := (readWord_of_slice? hrun).symm.trans h
  cases hvalue
  rw [writeWord, if_pos hle, encode_decode_word _ (length_of_slice? hrun), overwrite_slice? hrun]

/-- Reading and writing the field of a client's request at an offset. -/
structure FieldAt (c : Client) (offset : Nat) : Prop where
  /-- Both fail where the request ends before the field does, and then change nothing. -/
  short : c.request.length < offset + 4 →
    ClientM.read offset c = .error (.error .badLength) c ∧
      ∀ value, ClientM.write offset value c = .error (.error .badLength) c
  /-- Where the field is there, the number that it spells in the client's order is read. Nothing
  changes by that, nor by writing it back. -/
  read : offset + 4 ≤ c.request.length → ∃ value, ClientM.read offset c = .ok value c ∧
    c.byteOrder.number? c.request offset 4 = some value.toNat ∧
      ClientM.write offset value c = .ok () c
  /-- Every number can be written to it, and reads back. Everything beside the four bytes stays. -/
  write : offset + 4 ≤ c.request.length → ∀ value, ∃ request,
    ClientM.write offset value c = .ok () { c with request } ∧
      ClientM.read offset { c with request } = .ok value { c with request } ∧
      c.byteOrder.number? request offset 4 = some value.toNat ∧
      request.length = c.request.length ∧
      ∀ i, i < offset ∨ offset + 4 ≤ i → request[i]? = c.request[i]?
  /-- The callbacks of vendors are given the same answers, and make no mistake. -/
  callbacks : ∀ {σ δ : Type},
    (Program.readField c offset : Program σ δ _) = .done (c.readWord offset) ∧
      ∀ value, (Program.writeField c offset value : Program σ δ _) =
        .done (c.writeWord offset value)

/-- Every field whose end can be computed is one that can be read and written. -/
lemma fieldAt (c : Client) (ho : fieldAddressable offset = true) : c.FieldAt offset where
  short hlt := ⟨ClientM.read_of_error ho (readWord_eq_error_iff.mpr ⟨rfl, hlt⟩),
    fun _ => ClientM.write_of_error ho (writeWord_eq_error_iff.mpr ⟨rfl, hlt⟩)⟩
  read hle := by
    obtain ⟨value, hread⟩ := readWord_eq_ok_iff.mpr hle
    exact ⟨value, ClientM.read_of_ok ho hread, readWord_eq_ok hread,
      ClientM.write_of_ok ho (writeWord_readWord hread)⟩
  write hle value := by
    obtain ⟨d, hwrite⟩ : ∃ d, c.writeWord offset value = .ok d := writeWord_eq_ok_iff.mpr hle
    have hread := readWord_writeWord hwrite
    obtain ⟨-, rfl⟩ := writeWord_eq_ok hwrite
    have hroom : offset + (c.byteOrder.encode 4 value.toNat).length ≤ c.request.length := by
      rwa [ByteOrder.length_encode]
    refine ⟨_, ClientM.write_of_ok ho hwrite, ClientM.read_of_ok ho hread, readWord_eq_ok hread,
      length_overwrite hroom, ?_⟩
    rintro i (hi | hi)
    · exact getElem?_overwrite_of_lt hroom hi
    · exact getElem?_overwrite_of_le hroom (by rwa [ByteOrder.length_encode])
  callbacks := ⟨if_pos ho, fun _ => if_pos ho⟩

end Client

/-! ### Fields of a reply -/

namespace Reply

variable {c : Client} {puts : List (Nat × UInt32)} {r : Reply} {offset other : Nat}

/-- The byte offsets of the words after the header of a reply. -/
def IsDataOffset (offset : Nat) : Prop := 8 ≤ offset ∧ offset + 4 ≤ size ∧ 4 ∣ offset

instance (offset : Nat) : Decidable (IsDataOffset offset) :=
  inferInstanceAs (Decidable (8 ≤ offset ∧ offset + 4 ≤ size ∧ 4 ∣ offset))

/-- The number that was put last at an offset, and zero if none was. -/
def lastPut (puts : List (Nat × UInt32)) (offset : Nat) : UInt32 :=
  ((puts.filter fun put => put.1 = offset).getLast?.map Prod.snd).getD 0

/-- The last put at an offset counts. -/
lemma lastPut_concat (puts : List (Nat × UInt32)) (offset other : Nat) (value : UInt32) :
    lastPut (puts ++ [(offset, value)]) other =
      if offset = other then value else lastPut puts other := by
  rw [lastPut, List.filter_append]
  by_cases h : offset = other <;> simp [h, lastPut]

/-- Different words have no byte in common. -/
lemma IsDataOffset.disjoint (ho : IsDataOffset offset) (hu : IsDataOffset other)
    (hne : offset ≠ other) : other + 4 ≤ offset ∨ offset + 4 ≤ other := by
  obtain ⟨-, -, i, rfl⟩ := ho
  obtain ⟨-, -, j, rfl⟩ := hu
  omega

/-- A reply to a client after the given puts. -/
structure Carries (c : Client) (puts : List (Nat × UInt32)) (r : Reply) : Prop where
  order : r.order = c.byteOrder
  length : r.bytes.length = 32
  /-- It starts with the mark of a reply. -/
  mark : slice? r.bytes 0 2 = some [1, 0]
  /-- The number of the request follows, in the client's order. -/
  sequence : c.byteOrder.number? r.bytes 2 2 = some c.sequence.toNat
  /-- There is nothing after the reply. -/
  extra : c.byteOrder.number? r.bytes 4 4 = some 0
  /-- Each word has the number that was put last, in the client's order. -/
  word : ∀ offset, IsDataOffset offset →
    c.byteOrder.number? r.bytes offset 4 = some (lastPut puts offset).toNat

/-- The number of the request stands in the header. -/
lemma number?_sequence_header (c : Client) :
    c.byteOrder.number? (header c).bytes 2 2 = some c.sequence.toNat := by
  have hslice := slice?_append_middle [mark, 0] (c.byteOrder.encode 2 c.sequence.toNat)
    (List.replicate (size - 4) 0)
  rw [ByteOrder.length_encode] at hslice
  have hvalue := c.byteOrder.decode_encode 2 c.sequence.toNat
  rw [ByteOrder.number?, header]
  exact (congrArg _ hslice).trans
    (congrArg some (hvalue.trans (Nat.mod_eq_of_lt c.sequence.toNat_lt)))

/-- The words after the first one are zero. -/
lemma number?_word_header (c : Client) (hmin : 4 ≤ offset) (hmax : offset + 4 ≤ size) :
    c.byteOrder.number? (header c).bytes offset 4 = some 0 := by
  obtain ⟨i, rfl⟩ := Nat.exists_eq_add_of_le hmin
  have hlen : ([mark, 0] ++ c.byteOrder.encode 2 c.sequence.toNat).length = 4 := by simp
  have hskip := slice?_append_right ([mark, 0] ++ c.byteOrder.encode 2 c.sequence.toNat)
    (List.replicate (size - 4) 0) i 4
  have hzeros : slice? (List.replicate (size - 4) 0) i 4 = some [0, 0, 0, 0] := by
    rw [slice?_eq_some_iff, List.length_replicate, List.drop_replicate, List.take_replicate,
      Nat.min_eq_left (by omega)]
    exact ⟨by omega, rfl⟩
  rw [hlen, hzeros] at hskip
  rw [ByteOrder.number?, header, hskip]
  cases c.byteOrder <;> rfl

/-- A header without puts carries zeros and the sequence number. -/
lemma carries_header (c : Client) : (header c).Carries c [] where
  order := rfl
  length := length_header c
  mark := rfl
  sequence := number?_sequence_header c
  extra := number?_word_header c (Nat.le_refl 4) (by decide)
  word _ ho := number?_word_header c (Nat.le_trans (by decide) ho.1) ho.2.1

/-- One more put. -/
lemma Carries.put (h : r.Carries c puts) (ho : IsDataOffset offset) (value : UInt32) :
    ∃ s, r.put? offset value = some s ∧ s.Carries c (puts ++ [(offset, value)]) := by
  obtain ⟨hmin, hmax, -⟩ := id ho
  obtain ⟨s, hs⟩ : ∃ s, r.put? offset value = some s :=
    Option.isSome_iff_exists.mp (isSome_put?.mpr (h.length ▸ hmax))
  have stays {start n : Nat} (hn : start + n ≤ offset ∨ offset + 4 ≤ start) :
      c.byteOrder.number? s.bytes start n = c.byteOrder.number? r.bytes start n :=
    congrArg (Option.map c.byteOrder.decode) (slice?_put?_of_disjoint hs hn)
  refine ⟨s, hs, (order_put? hs).trans h.order, (length_put? hs).trans h.length, ?mark,
    (stays (by omega)).trans h.sequence, (stays (by omega)).trans h.extra,
    fun other hother => ?word⟩
  case mark => rw [slice?_put?_of_disjoint hs (by omega), h.mark]
  case word =>
    rw [lastPut_concat]
    split_ifs with hsame
    · subst hsame
      rw [ByteOrder.number?, slice?_put? hs, h.order, Option.map_some, ByteOrder.decode_encode]
      exact congrArg some (Nat.mod_eq_of_lt value.toNat_lt)
    · exact (stays (ho.disjoint hother hsame)).trans (h.word other hother)

/-- Any number of puts, one after the other. -/
lemma exists_carries (c : Client) (hputs : ∀ put ∈ puts, IsDataOffset put.1) :
    ∃ r, (header c).putAll? puts = some r ∧ r.Carries c puts := by
  -- From the end, because `lastPut` asks for the last put first.
  induction puts using List.reverseRecOn with
  | nil => exact ⟨_, rfl, carries_header c⟩
  | append_singleton puts last ih =>
      rw [List.forall_mem_append, List.forall_mem_singleton] at hputs
      obtain ⟨r, hr, hcarries⟩ := ih hputs.1
      obtain ⟨s, hs, hnext⟩ := hcarries.put hputs.2 last.2
      refine ⟨s, ?_, hnext⟩
      rw [putAll?_append, hr, Option.bind_some, putAll?, hs]
      rfl

end Reply

/-- Numbers are read back as they were written. What is read off the bytes of a message is the
number whose digits they are, in the given order. A field of a request whose end can be computed is
read and written exactly where the request has its four bytes; it holds what was written last, and
nothing else has changed. A reply to which words are put holds what was put last into each, after
the mark of a reply and the number of the request. -/
theorem fields_round_trip :
    (∀ (order : ByteOrder) (bs : List UInt8) (start n x : Nat), 0 < n →
      (order.number? bs start n = some x ↔ x < byteRange n ∧ order.Spells bs start n x)) ∧
    (∀ (c : Client) (offset : Nat), fieldAddressable offset = true → c.FieldAt offset) ∧
    ∀ (c : Client) (puts : List (Nat × UInt32)), (∀ put ∈ puts, Reply.IsDataOffset put.1) →
      ∃ r, (Reply.header c).putAll? puts = some r ∧ r.Carries c puts :=
  ⟨fun _ _ _ _ _ => ByteOrder.number?_eq_some_iff, fun c _ => c.fieldAt,
    fun c _ => Reply.exists_carries c⟩

/-- A big-endian client with a field that lies across two words of its request, one that the request
does not reach, and a reply in which one word is put twice. -/
theorem fields_round_trip_swapped :
    let c : Client :=
      { id := ⟨7⟩, swapped := true, sequence := 0x1234, request := [1, 2, 3, 4, 5, 6, 7, 8] }
    0 < 4 ∧ c.byteOrder.Spells c.request 3 4 0x04050607 ∧
    fieldAddressable 3 = true ∧ fieldAddressable 5 = true ∧
    ClientM.read 3 c = .ok 0x04050607 c ∧
    (∃ request, ClientM.write 3 0x0a0b0c0d c = .ok () { c with request } ∧
      ClientM.read 3 { c with request } = .ok 0x0a0b0c0d { c with request } ∧
      request[2]? = some 3 ∧ request[7]? = some 8) ∧
    ClientM.write 5 0x0a0b0c0d c = .error (.error .badLength) c ∧
    ∃ r, (Reply.header c).putAll? [(8, 1), (28, 5), (8, 2)] = some r ∧
      c.byteOrder.number? r.bytes 2 2 = some 0x1234 ∧ c.byteOrder.number? r.bytes 8 4 = some 2 ∧
      c.byteOrder.number? r.bytes 12 4 = some 0 ∧ c.byteOrder.number? r.bytes 28 4 = some 5 := by
  intro c
  have hpos : 0 < 4 := by decide
  have hacross : fieldAddressable 3 = true := by decide
  have hpast : fieldAddressable 5 = true := by decide
  have hputs : ∀ put ∈ [(8, 1), (28, 5), (8, (2 : UInt32))], Reply.IsDataOffset put.1 := by decide
  obtain ⟨digits, field, reply⟩ := fields_round_trip
  have across := field c 3 hacross
  -- the value that is read is the one that is spelled
  obtain ⟨value, hread, hvalue, -⟩ := across.read (by decide)
  have hspelled : c.byteOrder.number? c.request 3 4 = some 0x04050607 := by decide
  obtain rfl : 0x04050607 = value :=
    UInt32.toNat_inj.mp (Option.some.inj (hspelled.symm.trans hvalue))
  obtain ⟨request, hwrite, hback, -, -, hkept⟩ := across.write (by decide) 0x0a0b0c0d
  obtain ⟨r, hr, hcarries⟩ := reply c _ hputs
  exact ⟨hpos, ((digits _ _ _ _ _ hpos).mp hspelled).2, hacross, hpast, hread,
    ⟨request, hwrite, hback, hkept 2 (by decide), hkept 7 (by decide)⟩,
    ((field c 5 hpast).short (by decide)).2 _, r, hr, hcarries.sequence,
    hcarries.word 8 (by decide), hcarries.word 12 (by decide), hcarries.word 28 (by decide)⟩

end VendorDispatch
