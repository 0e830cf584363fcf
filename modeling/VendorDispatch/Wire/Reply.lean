import VendorDispatch.Wire.Field

/-!
Replies of 32 bytes, in the client's byte order: the reply mark, the sequence number of the
request, and 32-bit fields.

* `Reply.length_header`, `Reply.length_put?`: every reply is 32 bytes long.
* `Reply.isSome_put?`: a field can be put exactly where the reply has four bytes.
* `Reply.slice?_put?`, `Reply.slice?_put?_of_disjoint`: what a field holds once it is put, and that
  the others stay.
-/

namespace VendorDispatch

/-- A reply under construction. -/
structure Reply where
  /-- The bytes of the reply. -/
  bytes : List UInt8
  /-- The order of its numbers. -/
  order : ByteOrder
  deriving DecidableEq, Repr

namespace Reply

/-- The number of bytes of a reply. -/
def size : Nat := 32

/-- The first byte of every reply. -/
def mark : UInt8 := 1

/-- A reply with its header filled in and every field zero. -/
def header (c : Client) : Reply where
  bytes := [mark, 0] ++ c.byteOrder.encode 2 c.sequence.toNat ++ List.replicate (size - 4) 0
  order := c.byteOrder

/-- Puts a 32-bit field. There is none past the end of the reply. -/
def put? (r : Reply) (offset : Nat) (value : UInt32) : Option Reply :=
  if offset + 4 ≤ r.bytes.length then
    some { r with bytes := overwrite r.bytes offset (r.order.encode 4 value.toNat) }
  else
    none

/-- Puts fields one after the other. -/
def putAll? (r : Reply) : List (Nat × UInt32) → Option Reply
  | [] => some r
  | (offset, value) :: rest => (r.put? offset value).bind fun r => r.putAll? rest

theorem length_header (c : Client) : (header c).bytes.length = size := by
  simp [header, size]

/-- A value can be put if the reply reaches its end. -/
theorem put?_eq_some_iff {r s : Reply} {offset : Nat} {value : UInt32} :
    r.put? offset value = some s ↔ offset + 4 ≤ r.bytes.length ∧
      { r with bytes := overwrite r.bytes offset (r.order.encode 4 value.toNat) } = s := by
  rw [put?]
  by_cases hle : offset + 4 ≤ r.bytes.length <;> simp [hle]

theorem isSome_put? {r : Reply} {offset : Nat} {value : UInt32} :
    (r.put? offset value).isSome ↔ offset + 4 ≤ r.bytes.length := by
  simp only [Option.isSome_iff_exists, put?_eq_some_iff, exists_and_left, exists_eq', and_true]

section Put

variable {r s : Reply} {offset : Nat} {value : UInt32} (h : r.put? offset value = some s)

include h

/-- To put a value leaves the length alone. -/
theorem length_put? : s.bytes.length = r.bytes.length := by
  obtain ⟨hle, rfl⟩ := put?_eq_some_iff.mp h
  exact length_overwrite (by simpa using hle)

theorem order_put? : s.order = r.order := by
  obtain ⟨-, rfl⟩ := put?_eq_some_iff.mp h
  rfl

/-- The field holds the number. -/
theorem slice?_put? : slice? s.bytes offset 4 = some (r.order.encode 4 value.toNat) := by
  obtain ⟨hle, rfl⟩ := put?_eq_some_iff.mp h
  have hw : offset + (r.order.encode 4 value.toNat).length ≤ r.bytes.length := by
    simpa using hle
  have hs := slice?_overwrite hw
  rwa [ByteOrder.length_encode] at hs

/-- A field beside it stays. -/
theorem slice?_put?_of_disjoint {i n : Nat} (hi : i + n ≤ offset ∨ offset + 4 ≤ i) :
    slice? s.bytes i n = slice? r.bytes i n := by
  obtain ⟨hle, rfl⟩ := put?_eq_some_iff.mp h
  exact slice?_overwrite_of_disjoint (by simpa using hle) (by simpa using hi)

end Put

/-- Values may be put in two parts. -/
theorem putAll?_append (r : Reply) (puts more : List (Nat × UInt32)) :
    r.putAll? (puts ++ more) = (r.putAll? puts).bind fun s => s.putAll? more := by
  induction puts generalizing r with
  | nil => rfl
  | cons put rest ih =>
    simp only [List.cons_append, putAll?, ih, Option.bind_assoc]

end Reply

end VendorDispatch
