/-!
The kinds of access that a resource look-up can ask for, and sets of them.

* `AccessMode.bits_ofBits?`: a number stands for a set exactly when it has no unknown bit, and then
  it is the set's own number.
-/

namespace VendorDispatch

/-- A set of kinds of access, one bit for each kind. -/
structure AccessMode where
  /-- The members, least significant bit first: read, write, destroy, create, get attributes. -/
  members : BitVec 5
  deriving DecidableEq, Repr, Inhabited

namespace AccessMode

/-- Reading the resource. -/
def read : AccessMode := ⟨1⟩

/-- Writing the resource. -/
def write : AccessMode := ⟨2⟩

/-- Destroying the resource. -/
def destroy : AccessMode := ⟨4⟩

/-- Creating the resource. -/
def create : AccessMode := ⟨8⟩

/-- Asking for the resource's attributes. -/
def getAttributes : AccessMode := ⟨16⟩

/-- No access at all. -/
def empty : AccessMode := ⟨0⟩

/-- Every kind of access. -/
def all : AccessMode := ⟨31⟩

/-- The number that stands for a set. -/
def bits (m : AccessMode) : UInt32 :=
  UInt32.ofNat m.members.toNat

/-- The set that a number stands for, less the bits that stand for nothing. -/
def ofBitsTruncate (n : UInt32) : AccessMode :=
  ⟨BitVec.ofNat 5 n.toNat⟩

/-- The set that a number stands for, if every bit of it stands for a kind of access. -/
def ofBits? (n : UInt32) : Option AccessMode :=
  if (ofBitsTruncate n).bits = n then some (ofBitsTruncate n) else none

/-- The members of either set. -/
def union (a b : AccessMode) : AccessMode := ⟨a.members ||| b.members⟩

/-- The members of both sets. -/
def inter (a b : AccessMode) : AccessMode := ⟨a.members &&& b.members⟩

/-- The members of exactly one of the sets. -/
def symmDiff (a b : AccessMode) : AccessMode := ⟨a.members ^^^ b.members⟩

/-- The kinds of access that are not members. -/
def compl (a : AccessMode) : AccessMode := ⟨~~~ a.members⟩

/-- The members of the first set that are not members of the second. -/
def diff (a b : AccessMode) : AccessMode := a.inter b.compl

/-- Whether every member of the second set is one of the first. -/
def contains (a b : AccessMode) : Bool := a.inter b = b

/-- Whether the sets share a member. -/
def intersects (a b : AccessMode) : Bool := a.inter b ≠ empty

/-- The kinds of access, each with its name. -/
def kinds : List (AccessMode × String) :=
  [(read, "READ"), (write, "WRITE"), (destroy, "DESTROY"), (create, "CREATE"),
   (getAttributes, "GET_ATTR")]

/-- The names of the members, in order. -/
def text (a : AccessMode) : String :=
  if a = empty then
    "(empty)"
  else
    " | ".intercalate ((kinds.filter fun k => a.contains k.1).map Prod.snd)

/-- A mode that was read from bits has these bits. -/
theorem bits_ofBits? {n : UInt32} {m : AccessMode} (h : ofBits? n = some m) : m.bits = n := by
  rw [ofBits?] at h
  split at h <;> simp_all

/-- And the bits of a mode are read back. -/
theorem ofBits?_bits (m : AccessMode) : ofBits? m.bits = some m := by
  have h : ofBitsTruncate m.bits = m := by
    have := m.members.isLt
    simp only [ofBitsTruncate, bits, UInt32.toNat_ofNat']
    rw [Nat.mod_eq_of_lt (by omega), BitVec.ofNat_toNat, BitVec.setWidth_eq]
  rw [ofBits?, h, if_pos rfl]

end AccessMode

end VendorDispatch
