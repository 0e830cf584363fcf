/-!
Byte strings: numbers in a fixed count of bytes, reading a run of bytes, and overwriting one.

* `ofLittleEndian_littleEndian`, `littleEndian_ofLittleEndian`: writing a number in `n` bytes and
  reading it back are inverse to each other, up to the bits that do not fit.
* `ByteOrder.decode_encode`, `ByteOrder.encode_decode`: the same for either byte order.
* `slice?_eq_some_iff`: a run of bytes can be read exactly when the string reaches its end.
* `slice?_overwrite`, `slice?_overwrite_of_disjoint`, `getElem?_overwrite_of_lt`,
  `getElem?_overwrite_of_le`, `length_overwrite`: an overwritten run reads back, and nothing outside
  it changes.
-/

namespace VendorDispatch

/-! ### Numbers in a fixed count of bytes -/

/-- The low `n` bytes of a number, least significant first. -/
def littleEndian : Nat → Nat → List UInt8
  | 0, _ => []
  | n + 1, x => UInt8.ofNat x :: littleEndian n (x / 256)

/-- The number that a string of bytes spells, least significant byte first. -/
def ofLittleEndian : List UInt8 → Nat
  | [] => 0
  | b :: bs => b.toNat + 256 * ofLittleEndian bs

/-- How many numbers `n` bytes can spell. -/
def byteRange : Nat → Nat
  | 0 => 1
  | n + 1 => 256 * byteRange n

@[simp] theorem length_littleEndian (n x : Nat) : (littleEndian n x).length = n := by
  induction n generalizing x with
  | zero => rfl
  | succ n ih => simp [littleEndian, ih]

/-- Reading back what was written gives the bits that fit. -/
theorem ofLittleEndian_littleEndian (n x : Nat) :
    ofLittleEndian (littleEndian n x) = x % byteRange n := by
  induction n generalizing x with
  | zero => exact (Nat.mod_one x).symm
  | succ n ih =>
    rw [byteRange, Nat.mod_mul, ← ih, littleEndian, ofLittleEndian, UInt8.toNat_ofNat']

/-- Writing what was read gives the bytes back. -/
theorem littleEndian_ofLittleEndian (bs : List UInt8) :
    littleEndian bs.length (ofLittleEndian bs) = bs := by
  induction bs with
  | nil => rfl
  | cons b bs ih =>
    have hb : b.toNat < 256 := b.toNat_lt
    have hq : (b.toNat + 256 * ofLittleEndian bs) / 256 = ofLittleEndian bs := by omega
    have hm : UInt8.ofNat (b.toNat + 256 * ofLittleEndian bs) = b := by
      apply UInt8.toNat_inj.mp
      rw [UInt8.toNat_ofNat']
      omega
    rw [List.length_cons, ofLittleEndian, littleEndian, hq, hm, ih]

/-- What a string of bytes spells is in the range of its length. -/
theorem ofLittleEndian_lt (bs : List UInt8) : ofLittleEndian bs < byteRange bs.length := by
  induction bs with
  | nil => exact Nat.one_pos
  | cons b bs ih =>
    have hb : b.toNat < 256 := b.toNat_lt
    rw [ofLittleEndian, List.length_cons, byteRange]
    omega

/-! ### Byte orders -/

/-- Which byte of a number comes first. -/
inductive ByteOrder
  /-- The least significant byte comes first. -/
  | little
  /-- The most significant byte comes first. -/
  | big
  deriving DecidableEq, Repr, Inhabited

namespace ByteOrder

/-- The low `n` bytes of a number in the given order. -/
def encode (order : ByteOrder) (n x : Nat) : List UInt8 :=
  match order with
  | little => littleEndian n x
  | big => (littleEndian n x).reverse

/-- The number that a string of bytes spells in the given order. -/
def decode (order : ByteOrder) (bs : List UInt8) : Nat :=
  match order with
  | little => ofLittleEndian bs
  | big => ofLittleEndian bs.reverse

@[simp] theorem length_encode (order : ByteOrder) (n x : Nat) :
    (order.encode n x).length = n := by
  cases order <;> simp [encode]

/-- A number that is written is read back, modulo the width of the field. -/
theorem decode_encode (order : ByteOrder) (n x : Nat) :
    order.decode (order.encode n x) = x % byteRange n := by
  cases order <;> simp [encode, decode, ofLittleEndian_littleEndian]

theorem encode_decode (order : ByteOrder) (bs : List UInt8) :
    order.encode bs.length (order.decode bs) = bs := by
  cases order with
  | little => exact littleEndian_ofLittleEndian bs
  | big =>
    have h := littleEndian_ofLittleEndian bs.reverse
    rw [List.length_reverse] at h
    simp [encode, decode, h]

theorem decode_lt (order : ByteOrder) (bs : List UInt8) :
    order.decode bs < byteRange bs.length := by
  cases order with
  | little => exact ofLittleEndian_lt bs
  | big => simpa [decode] using ofLittleEndian_lt bs.reverse

end ByteOrder

/-! ### Runs of bytes -/

/-- The number of bytes that an address can name. -/
def addressSpace : Nat := 0x10000000000000000

/-- The `n` bytes from position `start` on, if the string reaches that far. -/
def slice? (bs : List UInt8) (start n : Nat) : Option (List UInt8) :=
  if start + n ≤ bs.length then some ((bs.drop start).take n) else none

/-- Replaces the bytes from a position on by the given ones. -/
def overwrite (bs : List UInt8) (start : Nat) (new : List UInt8) : List UInt8 :=
  bs.take start ++ new ++ bs.drop (start + new.length)

/-- A run of bytes is there if all of it is. -/
theorem slice?_eq_some_iff {bs run : List UInt8} {start n : Nat} :
    slice? bs start n = some run ↔
      start + n ≤ bs.length ∧ (bs.drop start).take n = run := by
  rw [slice?]
  by_cases h : start + n ≤ bs.length <;> simp [h]

theorem isSome_slice? {bs : List UInt8} {start n : Nat} :
    (slice? bs start n).isSome ↔ start + n ≤ bs.length := by
  unfold slice?
  split <;> simp_all

theorem length_of_slice? {bs run : List UInt8} {start n : Nat}
    (h : slice? bs start n = some run) : run.length = n := by
  obtain ⟨hle, rfl⟩ := slice?_eq_some_iff.mp h
  simp
  omega

theorem slice?_append_right (a b : List UInt8) (start n : Nat) :
    slice? (a ++ b) (a.length + start) n = slice? b start n := by
  have hd : (a ++ b).drop (a.length + start) = b.drop start := by
    rw [← List.drop_drop, List.drop_left]
  simp only [slice?, List.length_append, Nat.add_assoc, Nat.add_le_add_iff_left, hd]

/-- The first of several runs. -/
theorem slice?_append_left (a b : List UInt8) : slice? (a ++ b) 0 a.length = some a := by
  rw [slice?_eq_some_iff]
  simp

/-- The middle one of three runs. -/
theorem slice?_append_middle (a b c : List UInt8) :
    slice? (a ++ b ++ c) a.length b.length = some b := by
  rw [List.append_assoc, ← Nat.add_zero a.length, slice?_append_right, slice?_append_left]

theorem length_overwrite {bs new : List UInt8} {start : Nat}
    (h : start + new.length ≤ bs.length) : (overwrite bs start new).length = bs.length := by
  simp [overwrite]
  omega

/-- Bytes before the overwritten run stay. -/
theorem getElem?_overwrite_of_lt {bs new : List UInt8} {start i : Nat}
    (h : start + new.length ≤ bs.length) (hi : i < start) :
    (overwrite bs start new)[i]? = bs[i]? := by
  have h₁ : i < (bs.take start ++ new).length := by simp; omega
  have h₂ : i < (bs.take start).length := by simp; omega
  rw [overwrite, List.getElem?_append_left h₁, List.getElem?_append_left h₂,
    List.getElem?_take_of_lt hi]

/-- Bytes after the overwritten run stay. -/
theorem getElem?_overwrite_of_le {bs new : List UInt8} {start i : Nat}
    (h : start + new.length ≤ bs.length) (hi : start + new.length ≤ i) :
    (overwrite bs start new)[i]? = bs[i]? := by
  have hl : (bs.take start ++ new).length = start + new.length := by simp; omega
  rw [overwrite, List.getElem?_append_right (by omega), hl, List.getElem?_drop]
  congr 1
  omega

/-- The overwritten run reads back. -/
theorem slice?_overwrite {bs new : List UInt8} {start : Nat}
    (h : start + new.length ≤ bs.length) :
    slice? (overwrite bs start new) start new.length = some new := by
  rw [slice?_eq_some_iff, length_overwrite h]
  refine ⟨h, ?_⟩
  have hl : (bs.take start).length = start := by simp; omega
  rw [overwrite, List.append_assoc, List.drop_append, hl]
  simp

/-- A run beside the overwritten one stays. -/
theorem slice?_overwrite_of_disjoint {bs new : List UInt8} {start i n : Nat}
    (h : start + new.length ≤ bs.length) (hi : i + n ≤ start ∨ start + new.length ≤ i) :
    slice? (overwrite bs start new) i n = slice? bs i n := by
  have hbytes : ((overwrite bs start new).drop i).take n = (bs.drop i).take n := by
    refine List.ext_getElem? fun j => ?_
    rw [List.getElem?_take, List.getElem?_take]
    split
    · next hj =>
      rw [List.getElem?_drop, List.getElem?_drop]
      rcases hi with hi | hi
      · exact getElem?_overwrite_of_lt h (by omega)
      · exact getElem?_overwrite_of_le h (by omega)
    · rfl
  rw [slice?, slice?, length_overwrite h, hbytes]

/-- Writing the bytes that are already there changes nothing. -/
theorem overwrite_slice? {bs run : List UInt8} {start n : Nat}
    (h : slice? bs start n = some run) : overwrite bs start run = bs := by
  have hn := length_of_slice? h
  obtain ⟨_, rfl⟩ := slice?_eq_some_iff.mp h
  rw [overwrite, hn, List.append_assoc]
  have : (bs.drop start).take n ++ bs.drop (start + n) = bs.drop start := by
    rw [← List.drop_drop, List.take_append_drop]
  rw [this, List.take_append_drop]

end VendorDispatch
