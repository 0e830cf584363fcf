import Mathlib.Tactic.Common
import VendorDispatch.Switchboard.Table

/-!
How a vendor's table fills up: every slot is asked for once, in order, and the answer stays.

* `SlotRegistry.Valid`: what is true of every registry: every slot has a place in every table, and
  a vendor can read every name.
* `DispatchTable.Filled`: the vendor has been asked for the names of the first slots and for nothing
  else.
* `DispatchTable.Follows`: a table that has been asked for the first names of a registry, up to its
  own counter. `Follows.fixUp_of_size_le`: after a fix-up it has been asked for all of them.
-/

namespace VendorDispatch

variable {φ : Type}

/-! ### Registries -/

/-- What is true of every registry: it holds names that a vendor can read, and no more than a table
has places. -/
structure SlotRegistry.Valid (r : SlotRegistry) : Prop where
  capacity : r.capacity ≤ maxSlots
  size : r.size ≤ maxSlots
  readable : ∀ name ∈ r.names.toList, name.toList.contains '\x00' = false

namespace SlotRegistry

variable {r u : SlotRegistry} {name : String} {s : Slot}

/-- The name of an entry point has no zero character, and so a vendor can be asked for it. -/
lemma isEntryPointName_readable (h : isEntryPointName name = true) :
    name.toList.contains '\x00' = false := by
  simp only [isEntryPointName, Bool.and_eq_true, Bool.not_eq_true'] at h
  exact h.2

/-- A name that is assigned was known, or it is new and comes after the others. -/
lemma assign_eq_ok (h : r.assign name = .ok (s, u)) :
    u = r ∨ r.lookup name = none ∧ isEntryPointName name = true ∧ r.size < r.capacity ∧
      u = r.add name := by
  rw [assign] at h
  split at h
  · cases h
    exact .inl rfl
  · next hnone =>
    split_ifs at h with hname hfull
    cases h
    exact .inr ⟨hnone, by simpa using hname, Nat.lt_of_not_le hfull, rfl⟩

/-- A new name that is one of an entry point keeps the registry valid. -/
lemma Valid.add (h : r.Valid) (hname : isEntryPointName name = true)
    (hroom : r.size < r.capacity) : (r.add name).Valid where
  capacity := h.capacity
  size := by
    rw [size_add]
    exact Nat.lt_of_lt_of_le hroom h.capacity
  readable n hn := by
    rw [names_add, Array.toList_push, List.mem_append, List.mem_singleton] at hn
    rcases hn with hn | rfl
    · exact h.readable n hn
    · exact isEntryPointName_readable hname

/-- So does whatever is assigned. -/
lemma Valid.assign (h : r.Valid) (hu : r.assign name = .ok (s, u)) : u.Valid := by
  rcases assign_eq_ok hu with rfl | ⟨-, hname, hroom, rfl⟩
  · exact h
  · exact h.add hname hroom

lemma Valid.assigned (h : r.Valid) (name : String) : (r.assigned name).Valid := by
  rw [SlotRegistry.assigned]
  split
  · next hu => exact h.assign hu
  · exact h

lemma valid_ofKnown (names : List String) : (ofKnown maxSlots names).Valid := by
  have hfold : ∀ (r : SlotRegistry), r.Valid → (names.foldl SlotRegistry.assigned r).Valid := by
    induction names with
    | nil => exact fun _ hr => hr
    | cons name names ih => exact fun r hr => ih _ (hr.assigned name)
  have hempty : (empty maxSlots).Valid :=
    ⟨Nat.le_refl _, Nat.zero_le _, List.forall_mem_nil _⟩
  have h := hfold _ hempty
  exact ⟨h.capacity, h.size, h.readable⟩

end SlotRegistry

/-! ### Tables -/

namespace DispatchTable

/-- The vendor has been asked for the given names, one for each of the first slots, and every other
place holds the no-op function. -/
structure Filled (t : DispatchTable φ) (names : List String) : Prop where
  questions : t.questions = names.length
  entry : ∀ s, t.entry s =
    names[s.index]?.elim (noopEntry s) fun name => .ofOption (t.provide s.index name)

variable {t : DispatchTable φ} {names : List String} {name : String}

lemma filled_new (provide : Nat → String → Option φ) : (new provide).Filled [] where
  questions := rfl
  entry s := by
    rw [entry_new]
    rfl

/-- A vendor is asked once for a name that it can read. -/
lemma resolve_of_readable (t : DispatchTable φ) (s : Slot)
    (hname : name.toList.contains '\x00' = false) :
    (t.resolve s name).1.provide = t.provide ∧ (t.resolve s name).1.questions = t.questions + 1 ∧
      (t.resolve s name).2 = [name] := by
  rw [resolve, hname]
  exact ⟨rfl, rfl, rfl⟩

/-- The next place is filled. -/
lemma Filled.resolve (h : t.Filled names) (hlen : names.length < maxSlots)
    (hname : name.toList.contains '\x00' = false) :
    (t.resolve (Slot.ofIndex names.length) name).1.Filled (names ++ [name]) := by
  obtain ⟨hprovide, hquestions, -⟩ := t.resolve_of_readable (Slot.ofIndex names.length) hname
  have hindex : (Slot.ofIndex names.length).index = names.length :=
    Slot.index_ofIndex (Nat.lt_trans hlen (by decide))
  refine ⟨by rw [hquestions, h.questions, List.length_append]; rfl, fun s => ?_⟩
  rw [entry_resolve t (by rw [hindex]; exact hlen) name s, hprovide, hindex]
  split_ifs with hs
  · rw [hs, List.getElem?_append_right (Nat.le_refl _), Nat.sub_self, answer, hname, h.questions]
    rfl
  · rw [h.entry s]
    rcases Nat.lt_or_gt_of_ne hs with hlt | hgt
    · rw [List.getElem?_append_left hlt]
    · rw [List.getElem?_eq_none (Nat.le_of_lt hgt), List.getElem?_eq_none]
      rw [List.length_append, List.length_singleton]
      exact hgt

/-- Names that have the next slots, each with its slot. -/
def nextSlots (first : Nat) (names : List String) : List (Slot × String) :=
  (names.zipIdx first).map fun e => (Slot.ofIndex e.2, e.1)

/-- The next places are filled in order. -/
lemma Filled.resolveEach (h : t.Filled names) (rest : List String)
    (hlen : (names ++ rest).length ≤ maxSlots)
    (hrest : ∀ name ∈ rest, name.toList.contains '\x00' = false) :
    (t.resolveEach (nextSlots names.length rest)).1.Filled (names ++ rest) ∧
      (t.resolveEach (nextSlots names.length rest)).1.provide = t.provide ∧
      (t.resolveEach (nextSlots names.length rest)).2 = rest := by
  induction rest generalizing t names with
  | nil =>
      rw [List.append_nil]
      exact ⟨h, rfl, rfl⟩
  | cons name rest ih =>
      have hname := hrest name List.mem_cons_self
      have hroom : names.length < maxSlots := by
        rw [List.length_append, List.length_cons] at hlen
        omega
      -- the name goes to the next free place, and the rest behind it
      have happend : names ++ name :: rest = names ++ [name] ++ rest := by simp
      obtain ⟨hprovide, -, hasked⟩ := t.resolve_of_readable (Slot.ofIndex names.length) hname
      have hnext := ih (h.resolve hroom hname) (by rwa [← happend]) fun n hn =>
        hrest n (List.mem_cons_of_mem name hn)
      rw [List.length_append, List.length_singleton] at hnext
      have hslots : nextSlots names.length (name :: rest) =
          (Slot.ofIndex names.length, name) :: nextSlots (names.length + 1) rest := rfl
      rw [hslots, DispatchTable.resolveEach, happend]
      dsimp only
      rw [hasked, hnext.2.1, hnext.2.2]
      exact ⟨hnext.1, hprovide, rfl⟩

/-- The table has been asked for the first names of a registry, up to its counter, and for nothing
else. -/
structure Follows (t : DispatchTable φ) (r : SlotRegistry) : Prop where
  le : t.resolved ≤ r.size
  filled : t.Filled (r.names.toList.take t.resolved)

variable {r : SlotRegistry}

lemma follows_new (provide : Nat → String → Option φ) (r : SlotRegistry) :
    (new provide).Follows r where
  le := Nat.zero_le _
  filled := filled_new provide

/-- A new name changes nothing about what a table has been asked for. -/
lemma Follows.add (h : t.Follows r) (name : String) : t.Follows (r.add name) where
  le := by
    rw [SlotRegistry.size_add]
    exact Nat.le_succ_of_le h.le
  filled := by
    have hle : t.resolved ≤ r.names.toList.length := h.le
    rw [SlotRegistry.names_add, Array.toList_push, List.take_append_of_le_length hle]
    exact h.filled

/-- A fix-up asks for all names that are missing, in order. -/
lemma Follows.fixUp_of_size_le (h : t.Follows r) (hsize : r.size ≤ maxSlots)
    (hreadable : ∀ name ∈ r.names.toList, name.toList.contains '\x00' = false) :
    (t.fixUp r).1.Follows r ∧ (t.fixUp r).1.resolved = r.size ∧
      (t.fixUp r).1.provide = t.provide ∧ (t.fixUp r).2 = r.names.toList.drop t.resolved := by
  rw [DispatchTable.fixUp]
  split_ifs with hdone
  · -- nothing is missing
    have heq := Nat.le_antisymm h.le hdone
    refine ⟨h, heq, rfl, ?_⟩
    rw [List.drop_eq_nil_of_le]
    exact hdone
  · -- the names from the first missing one on are resolved, into the places behind the others
    have hlength : (r.names.toList.take t.resolved).length = t.resolved := by
      rw [List.length_take]
      exact Nat.min_eq_left h.le
    have heach := h.filled.resolveEach (r.names.toList.drop t.resolved)
      (by rw [List.take_append_drop]; exact hsize)
      fun name hname => hreadable name (List.mem_of_mem_drop hname)
    rw [hlength, List.take_append_drop] at heach
    have hslots : r.slotsFrom t.resolved = nextSlots t.resolved (r.names.toList.drop t.resolved) :=
      rfl
    rw [hslots]
    dsimp only
    refine ⟨⟨Nat.le_refl _, ?_⟩, rfl, heach.2.1, heach.2.2⟩
    have htake : r.names.toList.take r.size = r.names.toList := List.take_length
    rw [htake]
    exact ⟨heach.1.questions, heach.1.entry⟩

/-- A fix-up of a table catches up with a valid registry. -/
lemma Follows.fixUp (h : t.Follows r) (hr : r.Valid) :
    (t.fixUp r).1.Follows r ∧ (t.fixUp r).1.resolved = r.size ∧
      (t.fixUp r).1.provide = t.provide ∧ (t.fixUp r).2 = r.names.toList.drop t.resolved :=
  h.fixUp_of_size_le hr.size hr.readable

/-- What stands in the places of a table that has been asked for every name. -/
lemma Follows.entry (h : t.Follows r) (hdone : t.resolved = r.size) (s : Slot) :
    t.entry s = (r.name? s).elim (noopEntry s) fun name => .ofOption (t.provide s.index name) := by
  have htake : r.names.toList.take r.size = r.names.toList := List.take_length
  rw [h.filled.entry s, hdone, htake, Array.getElem?_toList]
  rfl

end DispatchTable

end VendorDispatch
