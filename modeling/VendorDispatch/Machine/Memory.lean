import Mathlib.Algebra.Group.Nat.Defs
import VendorDispatch.Bytes

/-!
The memory of a machine with 64-bit addresses.

Addresses wrap around at the end of the address space, so an area is given by its start and its
size, and nothing has to be said about where it lies.

* `Memory.read` and `Memory.store` read a number from a run of bytes and replace a run of bytes.
* `Memory.Holds` says which bytes are at an address. A string of bytes that is put together from two
  is held if both are (`holds_append`).
* `holds_store`, `agreesOutside_store`, `Holds.congr`: what is held after a store, where nothing has
  changed, and what is held in a memory that agrees with another.
* `read_of_holds`: a number that is held is read back.
-/

namespace VendorDispatch

/-- An address of the machine's memory. -/
abbrev Address := BitVec 64

namespace Address

/-- The address a number of bytes behind another. -/
@[irreducible] def after (a : Address) (n : Nat) : Address := a + BitVec.ofNat 64 n

/-- How many bytes an address lies behind another. -/
def distance (a x : Address) : Nat := (x - a).toNat

/-- Whether an address is a multiple of a number. -/
def IsAligned (a : Address) (n : Nat) : Prop := a.toNat % n = 0

instance (a : Address) (n : Nat) : Decidable (a.IsAligned n) :=
  inferInstanceAs (Decidable (a.toNat % n = 0))

variable (a : Address) (m n : Nat)

theorem add_ofNat : a + BitVec.ofNat 64 n = a.after n := by rw [after]

@[simp] theorem after_zero : a.after 0 = a := by
  rw [after, BitVec.add_zero]

/-- Two distances add up. -/
@[simp] theorem after_after : (a.after m).after n = a.after (m + n) := by
  rw [after, after, after, BitVec.add_assoc, BitVec.ofNat_add]

theorem zero_after : (0 : Address).after n = BitVec.ofNat 64 n := by
  rw [after]
  exact BitVec.zero_add _

/-- An address is reached over its distance. -/
theorem after_distance (x : Address) : a.after (a.distance x) = x := by
  simp only [after, distance]
  bv_omega

theorem after_of_sub : (a - BitVec.ofNat 64 n).after n = a := by
  rw [after, BitVec.sub_add_cancel]

/-- A part of the distance can be taken back. -/
theorem after_sub : a.after (m + n) - BitVec.ofNat 64 n = a.after m := by
  simp only [after]
  bv_omega

theorem distance_after_le : a.distance (a.after n) ≤ n := by
  simp only [after, distance]
  bv_omega

/-- Distances within the address space reach different addresses. -/
theorem after_inj {m n : Nat} (hm : m < addressSpace) (hn : n < addressSpace) :
    a.after m = a.after n ↔ m = n := by
  simp only [after, addressSpace] at *
  constructor
  · intro h
    bv_omega
  · rintro rfl
    rfl

/-- Whole multiples of sixteen bytes keep an address aligned. -/
theorem isAligned_after {n : Nat} (hn : n % 16 = 0) :
    (a.after n).IsAligned 16 ↔ a.IsAligned 16 := by
  simp only [IsAligned, after]
  bv_omega

end Address

/-- An area of the memory. -/
structure Area where
  /-- The address of its first byte. -/
  start : Address
  /-- The number of its bytes. -/
  size : Nat

namespace Area

/-- Whether an address lies in the area. -/
def Contains (r : Area) (x : Address) : Prop := r.start.distance x < r.size

instance (r : Area) (x : Address) : Decidable (r.Contains x) :=
  inferInstanceAs (Decidable (r.start.distance x < r.size))

/-- Whether every byte of one area lies in another. -/
def Within (r u : Area) : Prop := ∀ x, r.Contains x → u.Contains x

/-- Whether two areas have no byte in common. -/
def Apart (r u : Area) : Prop := ∀ x, r.Contains x → ¬ u.Contains x

/-- An area contains what is reached within its size. -/
theorem contains_iff {r : Area} {x : Address} :
    r.Contains x ↔ ∃ i < r.size, x = r.start.after i := by
  constructor
  · intro h
    exact ⟨_, h, (r.start.after_distance x).symm⟩
  · rintro ⟨i, hi, rfl⟩
    exact Nat.lt_of_le_of_lt (Address.distance_after_le _ _) hi

/-- A piece of an area is within it. -/
theorem within_after {a : Address} {j n size : Nat} (h : j + n ≤ size) :
    (Area.mk (a.after j) n).Within (Area.mk a size) := by
  intro x hx
  obtain ⟨i, hi, rfl⟩ := contains_iff.mp hx
  exact contains_iff.mpr ⟨j + i, Nat.lt_of_lt_of_le (Nat.add_lt_add_left hi j) h, by simp⟩

/-- Two pieces of an area that do not overlap are apart. -/
theorem apart_after {a : Address} {j k m n : Nat} (h : j + m ≤ k ∨ k + n ≤ j)
    (hj : j + m ≤ addressSpace) (hk : k + n ≤ addressSpace) :
    (Area.mk (a.after j) m).Apart (Area.mk (a.after k) n) := by
  intro x hx hx'
  obtain ⟨i, hi, rfl⟩ := contains_iff.mp hx
  obtain ⟨i', hi', hsame⟩ := contains_iff.mp hx'
  simp only [Address.after_after] at hi hi' hsame
  rw [Address.after_inj a (by omega) (by omega)] at hsame
  omega

theorem within_of_le {a : Address} {n size : Nat} (h : n ≤ size) :
    (Area.mk a n).Within (Area.mk a size) :=
  fun _ hx => Nat.lt_of_lt_of_le hx h

/-- Two areas that are told by numbers are apart if the numbers are. -/
theorem apart_of_le {j k m n : Nat} (h : j + m ≤ k ∨ k + n ≤ j) (hj : j + m ≤ addressSpace)
    (hk : k + n ≤ addressSpace) :
    (Area.mk (BitVec.ofNat 64 j) m).Apart (Area.mk (BitVec.ofNat 64 k) n) := by
  have happart := apart_after (a := 0) h hj hk
  rwa [Address.zero_after, Address.zero_after] at happart

/-- What lies behind an area is apart from it. -/
theorem apart_behind {a : Address} {m n : Nat} (h : m + n ≤ addressSpace) :
    (Area.mk (a.after m) n).Apart (Area.mk a m) := by
  have happart := apart_after (a := a) (j := m) (k := 0) (m := n) (n := m) (.inr (by omega)) h
    (by omega)
  rwa [Address.after_zero] at happart

/-- What is within areas that are apart is apart. -/
theorem Apart.mono {r r' u u' : Area} (h : r.Apart u) (hr : r'.Within r) (hu : u'.Within u) :
    r'.Apart u' :=
  fun x hx hx' => h x (hr x hx) (hu x hx')

end Area

/-! ### Memory -/

/-- What is in the memory: a byte at each address. -/
abbrev Memory := Address → UInt8

/-- The bytes of a number, least significant first. -/
def toBytes {bits : Nat} (v : BitVec bits) : List UInt8 := littleEndian (bits / 8) v.toNat

namespace Memory

/-- The bytes from an address on. -/
def bytes (m : Memory) (a : Address) (n : Nat) : List UInt8 :=
  (List.range n).map fun i => m (a.after i)

/-- The number of the given size at an address. -/
@[irreducible] def read (m : Memory) (bits : Nat) (a : Address) : BitVec bits :=
  BitVec.ofNat bits (ofLittleEndian (m.bytes a (bits / 8)))

/-- Replaces the bytes from an address on. -/
@[irreducible] def store (m : Memory) (a : Address) (new : List UInt8) : Memory :=
  fun x => (new[a.distance x]?).getD (m x)

/-- Whether the given bytes are at an address. -/
def Holds (m : Memory) (a : Address) (bs : List UInt8) : Prop := m.bytes a bs.length = bs

/-- Whether two memories have the same bytes in an area. -/
def AgreesOn (r : Area) (m u : Memory) : Prop := ∀ x, r.Contains x → u x = m x

/-- Whether two memories have the same bytes outside of an area. -/
def AgreesOutside (r : Area) (m u : Memory) : Prop := ∀ x, ¬ r.Contains x → u x = m x

end Memory

/-! ### Bytes of numbers -/

theorem byteRange_eq (n : Nat) : byteRange n = 2 ^ (8 * n) := by
  induction n with
  | zero => rfl
  | succ n ih => rw [byteRange, ih, Nat.mul_succ, Nat.pow_add, Nat.mul_comm]

@[simp] theorem length_toBytes {bits : Nat} (v : BitVec bits) : (toBytes v).length = bits / 8 :=
  length_littleEndian _ _

/-- The bytes of a number of whole bytes spell the number. -/
theorem ofLittleEndian_toBytes {bits : Nat} (hbits : 8 * (bits / 8) = bits) (v : BitVec bits) :
    ofLittleEndian (toBytes v) = v.toNat := by
  rw [toBytes, ofLittleEndian_littleEndian, byteRange_eq, hbits, Nat.mod_eq_of_lt v.isLt]

namespace Memory

variable {m u : Memory} {a : Address} {bs new : List UInt8}

@[simp] theorem length_bytes (m : Memory) (a : Address) (n : Nat) : (m.bytes a n).length = n := by
  simp [bytes]

/-- The bytes of two pieces in a row. -/
theorem bytes_add (m : Memory) (a : Address) (k n : Nat) :
    m.bytes a (k + n) = m.bytes a k ++ m.bytes (a.after k) n := by
  simp [bytes, List.range_add]

/-! ### Held bytes -/

/-- A memory holds bytes if each of them is in its place. -/
theorem holds_iff : m.Holds a bs ↔ ∀ i (h : i < bs.length), m (a.after i) = bs[i] := by
  rw [Holds, bytes]
  constructor
  · intro h i hi
    have hget := congrArg (·[i]?) h
    simpa [hi] using hget
  · intro h
    refine List.ext_getElem (by simp) fun i _ hi => ?_
    simpa using h i hi

/-- Two strings of bytes are held one behind the other if both are held. -/
theorem holds_append {cs : List UInt8} :
    m.Holds a (bs ++ cs) ↔ m.Holds a bs ∧ m.Holds (a.after bs.length) cs := by
  rw [Holds, List.length_append, bytes_add]
  exact ⟨fun h => List.append_inj h (by simp), fun ⟨h, h'⟩ => congr (congrArg HAppend.hAppend h) h'⟩

theorem holds_nil (m : Memory) (a : Address) : m.Holds a [] := rfl

/-- A number that is held is read back. -/
theorem read_of_holds {bits : Nat} (hbits : 8 * (bits / 8) = bits) {v : BitVec bits}
    (h : m.Holds a (toBytes v)) : m.read bits a = v := by
  rw [Holds, length_toBytes] at h
  rw [read, h, ofLittleEndian_toBytes hbits, BitVec.ofNat_toNat, BitVec.setWidth_eq]

/-! ### Memories that agree -/

theorem AgreesOutside.refl (r : Area) (m : Memory) : AgreesOutside r m m := fun _ _ => rfl

/-- Two changes within one area. -/
theorem AgreesOutside.trans {r : Area} {v : Memory} (h : AgreesOutside r m u)
    (h' : AgreesOutside r u v) : AgreesOutside r m v :=
  fun x hx => (h' x hx).trans (h x hx)

/-- A change within an area is one within a wider one. -/
theorem AgreesOutside.mono {r w : Area} (h : AgreesOutside r m u) (hw : r.Within w) :
    AgreesOutside w m u :=
  fun x hx => h x fun hr => hx (hw x hr)

/-- A change elsewhere does not show here. -/
theorem AgreesOutside.agreesOn {r w : Area} (h : AgreesOutside r m u) (hw : w.Apart r) :
    AgreesOn w m u :=
  fun x hx => h x (hw x hx)

theorem AgreesOn.trans {r : Area} {v : Memory} (h : AgreesOn r m u) (h' : AgreesOn r u v) :
    AgreesOn r m v :=
  fun x hx => (h' x hx).trans (h x hx)

theorem AgreesOn.mono {r w : Area} (h : AgreesOn r m u) (hw : w.Within r) : AgreesOn w m u :=
  fun x hx => h x (hw x hx)

/-- A string of bytes is still held in a memory that agrees where it is. -/
theorem Holds.congr (h : m.Holds a bs) (hagree : AgreesOn ⟨a, bs.length⟩ m u) : u.Holds a bs :=
  holds_iff.mpr fun i hi =>
    (hagree _ (Area.contains_iff.mpr ⟨i, hi, rfl⟩)).trans (holds_iff.mp h i hi)

/-! ### Stores -/

/-- Bytes are stored where they are stored, and nowhere else. -/
theorem agreesOutside_store (m : Memory) (a : Address) (new : List UInt8) :
    AgreesOutside ⟨a, new.length⟩ m (m.store a new) := by
  intro x hx
  rw [store, List.getElem?_eq_none (Nat.le_of_not_lt hx), Option.getD_none]

/-- What was stored is there. -/
theorem holds_store (m : Memory) (a : Address) (h : new.length ≤ addressSpace) :
    (m.store a new).Holds a new := by
  refine holds_iff.mpr fun i hi => ?_
  have hdistance : a.distance (a.after i) = i := by
    have hlt : i < addressSpace := Nat.lt_of_lt_of_le hi h
    simp only [Address.distance, Address.after, addressSpace] at hlt ⊢
    bv_omega
  simp [store, hdistance, hi]

end Memory

end VendorDispatch
