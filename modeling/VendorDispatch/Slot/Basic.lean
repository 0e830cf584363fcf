import VendorDispatch.Assoc
import VendorDispatch.Error

/-!
Slots: the places that entry point names have in every dispatch table.

Slots are handed out in order and never taken back, so a slot means the same function everywhere.

* `SlotRegistry.assign` gives a new name the next slot. A known name keeps its slot, also when the
  registry is full.
* `SlotRegistry.lookup_add`, `SlotRegistry.name?_add`: what a new name changes.
* `SlotRegistry.assign_of_lookup`, `SlotRegistry.assign_eq_ok_iff`: the two ways in which an
  assignment succeeds.
-/

namespace VendorDispatch

/-- A place in every dispatch table. -/
structure Slot where
  /-- The place, from zero. -/
  number : UInt32
  deriving DecidableEq, Repr, Inhabited

/-- The number of places of a dispatch table, and of stubs in a stub region. -/
def maxSlots : Nat := 4096

/-- The number of bytes of a function pointer. -/
def pointerSize : Nat := 8

namespace Slot

/-- The place as an index. -/
def index (s : Slot) : Nat := s.number.toNat

/-- The slot with the given index. -/
def ofIndex (i : Nat) : Slot := ⟨UInt32.ofNat i⟩

/-- The distance of the slot's function pointer from the start of a dispatch table, in bytes. -/
def byteOffset (s : Slot) : Nat := s.index * pointerSize

/-- A slot has the index that it was made of. -/
theorem index_ofIndex {i : Nat} (h : i < UInt32.size) : (ofIndex i).index = i := by
  simpa [ofIndex, index] using Nat.mod_eq_of_lt h

end Slot

/-- Whether a text can name an entry point. -/
def isEntryPointName (name : String) : Bool :=
  !name.isEmpty && !name.toList.contains '\x00'

/-- The names that have a slot. -/
structure SlotRegistry where
  /-- The names, in the order of their slots. -/
  names : Array String := #[]
  /-- The slot of each name. -/
  slots : Assoc String Slot := .empty
  /-- How many of them were known from the start. -/
  staticCount : Nat := 0
  /-- How many names the registry can hold. -/
  capacity : Nat
  deriving Repr

namespace SlotRegistry

/-- The registry without names. -/
def empty (capacity : Nat) : SlotRegistry := { capacity }

/-- The number of names. -/
def size (r : SlotRegistry) : Nat := r.names.size

/-- The slot of a name. -/
def lookup (r : SlotRegistry) (name : String) : Option Slot := r.slots.get? name

/-- The name of a slot. -/
def name? (r : SlotRegistry) (s : Slot) : Option String := r.names[s.index]?

/-- The registry after a name got the next slot. -/
def add (r : SlotRegistry) (name : String) : SlotRegistry :=
  { r with names := r.names.push name, slots := r.slots.insert name (Slot.ofIndex r.size) }

/-- The slot of a name, which is the next one if the name is new. -/
def assign (r : SlotRegistry) (name : String) : Except Error (Slot × SlotRegistry) :=
  match r.lookup name with
  | some s => .ok (s, r)
  | none =>
    if !isEntryPointName name then
      .error .invalidEntryPointName
    else if r.capacity ≤ r.size then
      .error .slotsExhausted
    else
      .ok (Slot.ofIndex r.size, r.add name)

/-- The registry after a name was assigned, if that is possible. -/
def assigned (r : SlotRegistry) (name : String) : SlotRegistry :=
  match r.assign name with
  | .ok (_, r) => r
  | .error _ => r

/-- The slots from an index on, each with its name. -/
def slotsFrom (r : SlotRegistry) (first : Nat) : List (Slot × String) :=
  ((r.names.toList.drop first).zipIdx first).map fun e => (Slot.ofIndex e.2, e.1)

/-- The registry of a process in which the given names are known from the start. -/
def ofKnown (capacity : Nat) (names : List String) : SlotRegistry :=
  let r := names.foldl assigned (empty capacity)
  { r with staticCount := r.size }

/-! ### A new name -/

@[simp] theorem names_add (r : SlotRegistry) (name : String) :
    (r.add name).names = r.names.push name := rfl

@[simp] theorem capacity_add (r : SlotRegistry) (name : String) :
    (r.add name).capacity = r.capacity := rfl

@[simp] theorem size_add (r : SlotRegistry) (name : String) : (r.add name).size = r.size + 1 :=
  Array.size_push name

/-- A name that is added has the next slot. -/
theorem lookup_add (r : SlotRegistry) (name other : String) :
    (r.add name).lookup other =
      if other = name then some (Slot.ofIndex r.size) else r.lookup other :=
  Assoc.get?_insert _ _ _ _

/-- The next slot has the name that is added. -/
theorem name?_add (r : SlotRegistry) (name : String) (s : Slot) :
    (r.add name).name? s = if s.index = r.size then some name else r.name? s :=
  Array.getElem?_push

/-! ### Assignment -/

/-- A known name keeps its slot. -/
theorem assign_of_lookup {r : SlotRegistry} {name : String} {s : Slot}
    (h : r.lookup name = some s) : r.assign name = .ok (s, r) := by
  rw [assign, h]

/-- A new name that is valid gets the next slot, while there is room. -/
theorem assign_of_lookup_eq_none {r : SlotRegistry} {name : String}
    (h : r.lookup name = none) (hn : isEntryPointName name) (hc : r.size < r.capacity) :
    r.assign name = .ok (Slot.ofIndex r.size, r.add name) := by
  rw [assign, h]
  simp [hn, Nat.not_le.mpr hc]

/-- Assignment succeeds for known names, and for valid names while there is room. -/
theorem assign_eq_ok_iff {r : SlotRegistry} {name : String} :
    (∃ p, r.assign name = .ok p) ↔
      (∃ s, r.lookup name = some s) ∨ isEntryPointName name ∧ r.size < r.capacity := by
  cases h : r.lookup name with
  | some s => simp [assign_of_lookup h]
  | none =>
    rw [assign, h]
    by_cases hn : isEntryPointName name <;> by_cases hc : r.capacity ≤ r.size <;>
      simp [hn, hc, Nat.not_lt.mpr, Nat.lt_of_not_le]

end SlotRegistry

end VendorDispatch
