import VendorDispatch.Slot.Basic

/-!
Dispatch tables: one vendor's functions, by slot.

A table has a place for every slot from the start. A place holds the no-op function until the vendor
has been asked for the slot's name, and for good if the vendor has no such function.

* `DispatchTable.fixUp` asks for every name that the registry has learned since the last time.
* `DispatchTable.entry` is what stands in a slot's place. `entry_new`, `entry_resolve`: what it is at
  the start, and after the vendor has been asked for a name.
-/

namespace VendorDispatch

/-- What a look-up finds. The type `φ` is that of the vendors' functions. -/
inductive Entry (φ : Type)
  /-- There is no such place. -/
  | null
  /-- The function that does nothing. -/
  | noop
  /-- A vendor's function. -/
  | function (f : φ)
  deriving DecidableEq, Repr, Inhabited

/-- The function in a place that may hold none. -/
def Entry.ofOption {φ : Type} : Option φ → Entry φ
  | some f => .function f
  | none => .noop

/-- The table that is current where no vendor's table is: every place holds the no-op function. -/
def noopEntry {φ : Type} (s : Slot) : Entry φ := if s.index < maxSlots then .noop else .null

/-- One vendor's functions, by slot. -/
structure DispatchTable (φ : Type) where
  /-- The vendor's function of a name. It is told how many questions came before, so it may answer
  the same question differently another time. -/
  provide : Nat → String → Option φ
  /-- The function in each place; none stands for the no-op function. -/
  places : Vector (Option φ) maxSlots := Vector.replicate maxSlots none
  /-- The number of slots whose names the vendor has been asked for. -/
  resolved : Nat := 0
  /-- The number of questions that the vendor has been asked. -/
  questions : Nat := 0

namespace DispatchTable

variable {φ : Type}

/-- The table of a vendor that has not been asked for anything. -/
def new (provide : Nat → String → Option φ) : DispatchTable φ := { provide }

/-- What stands in a slot's place. -/
def entry (t : DispatchTable φ) (s : Slot) : Entry φ :=
  match t.places[s.index]? with
  | some f => .ofOption f
  | none => .null

/-- Asks the vendor for a slot's name and fills the slot's place. A name that no vendor could read
to its end is not asked for. Returns the names asked for. -/
def resolve (t : DispatchTable φ) (s : Slot) (name : String) : DispatchTable φ × List String :=
  if name.toList.contains '\x00' then
    ({ t with places := t.places.setIfInBounds s.index none }, [])
  else
    let f := t.provide t.questions name
    ({ t with
        places := t.places.setIfInBounds s.index f
        questions := t.questions + 1 }, [name])

/-- Asks for several slots, one after the other. Returns the names asked for, in order. -/
def resolveEach (t : DispatchTable φ) : List (Slot × String) → DispatchTable φ × List String
  | [] => (t, [])
  | (s, name) :: rest =>
    let (t, asked) := t.resolve s name
    let (t, more) := t.resolveEach rest
    (t, asked ++ more)

/-- Asks for every slot that the registry has handed out since the last time. Returns the names
asked for, in order. -/
def fixUp (t : DispatchTable φ) (r : SlotRegistry) : DispatchTable φ × List String :=
  if r.size ≤ t.resolved then
    (t, [])
  else
    let (t, asked) := t.resolveEach (r.slotsFrom t.resolved)
    ({ t with resolved := r.size }, asked)

/-- What the vendor answers to the next question. A name that no vendor could read to its end has no
function. -/
def answer (t : DispatchTable φ) (name : String) : Option φ :=
  if name.toList.contains '\x00' then none else t.provide t.questions name

/-- In a new table every function does nothing. -/
theorem entry_new (provide : Nat → String → Option φ) (s : Slot) :
    (new provide).entry s = noopEntry s := by
  simp only [entry, new, noopEntry, Vector.getElem?_replicate]
  split
  · next h =>
    split at h
    · next hs => cases h; rw [if_pos hs]; rfl
    · cases h
  · next h =>
    split at h
    · cases h
    · next hs => rw [if_neg hs]

/-- Asking for a slot's name fills the slot's place and no other. -/
theorem entry_resolve (t : DispatchTable φ) {s : Slot} (h : s.index < maxSlots) (name : String)
    (u : Slot) :
    (t.resolve s name).1.entry u =
      if u.index = s.index then .ofOption (t.answer name) else t.entry u := by
  have filled (f : Option φ) :
      (match (t.places.setIfInBounds s.index f)[u.index]? with
        | some f => Entry.ofOption f
        | none => .null) = if u.index = s.index then .ofOption f else t.entry u := by
    rw [Vector.getElem?_setIfInBounds]
    by_cases hu : s.index = u.index
    · simp [hu.symm, h]
    · simp [hu, Ne.symm hu, entry]
  by_cases hz : name.toList.contains '\x00'
  · simp only [resolve, entry, answer, if_pos hz]
    exact filled none
  · simp only [resolve, entry, answer, if_neg hz]
    exact filled _

/-- The table as text: the given text for its address, and how many slots it has asked for. -/
def text (t : DispatchTable φ) (addressText : String) : String :=
  "DispatchTable \x7b address: " ++ addressText ++ ", resolved: " ++ toString t.resolved ++ " \x7d"

end DispatchTable

end VendorDispatch
