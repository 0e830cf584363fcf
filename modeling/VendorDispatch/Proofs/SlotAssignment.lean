import Mathlib.Data.List.Induction
import VendorDispatch.Proofs.Filling

/-!
Slots and names correspond to each other, whatever names a registry was asked to assign.

* `SlotRegistry.Compact`: what is true of every registry: the names in the order of their slots and
  the slots of the names say the same, every name can name an entry point, and there are no more
  than there is room for. Assignment keeps it (`Compact.assigned`).
* `SlotRegistry.Grows`: a registry that knows the names of another one, in the same slots, and
  perhaps more.
* `Compact.eq_of_lookup`, `Compact.mem_slotsFrom_iff`: different names have different slots, and
  the list of slots and names says the same as each of the two.
* `SlotRegistry.Answers`, `slots_match_names`: what a registry answers after any calls, said of the
  calls alone.
-/

namespace VendorDispatch

@[simp] lemma Slot.ofIndex_index (s : Slot) : Slot.ofIndex s.index = s := by
  simp [Slot.ofIndex, Slot.index]

lemma Slot.index_inj {s t : Slot} : s.index = t.index ↔ s = t :=
  ⟨fun h => by rw [← s.ofIndex_index, h, t.ofIndex_index], congrArg Slot.index⟩

/-- The name of an entry point is not empty, and has no zero character. -/
lemma isEntryPointName_iff {name : String} :
    isEntryPointName name = true ↔ name ≠ "" ∧ '\x00' ∉ name.toList := by
  simp [isEntryPointName]

namespace SlotRegistry

variable {r u v : SlotRegistry} {name other : String} {s : Slot}

/-! ### What is true of every registry -/

/-- A name has a slot exactly if it stands in the slot's place, each can name an entry point, there
are no more of them than there is room for, and every slot has a number. -/
structure Compact (r : SlotRegistry) : Prop where
  lookup_eq_some_iff : ∀ {name s}, r.lookup name = some s ↔ r.name? s = some name
  valid : ∀ name ∈ r.names.toList, isEntryPointName name = true
  size_le : r.size ≤ r.capacity
  capacity_le : r.capacity ≤ UInt32.size

lemma compact_empty {capacity : Nat} (h : capacity ≤ UInt32.size) : (empty capacity).Compact where
  lookup_eq_some_iff := by simp [lookup, name?, empty]
  valid := List.forall_mem_nil _
  size_le := Nat.zero_le _
  capacity_le := h

lemma name?_eq_some_lt (h : r.name? s = some name) : s.index < r.size :=
  (Array.getElem?_eq_some_iff.mp h).1

/-- The slots that have a name are the first ones. -/
lemma exists_name?_iff : (∃ name, r.name? s = some name) ↔ s.index < r.size := by
  simp [name?, ← Option.isSome_iff_exists, size]

/-- The names and the slots of the names stay in step when a new name is added to both. -/
lemma Compact.lookup_add_eq_some_iff (h : r.Compact) (hnew : r.lookup name = none)
    (hroom : r.size < UInt32.size) :
    (r.add name).lookup other = some s ↔ (r.add name).name? s = some other := by
  have hindex : (Slot.ofIndex r.size).index = r.size := Slot.index_ofIndex hroom
  rw [lookup_add, name?_add]
  by_cases hlast : s.index = r.size
  · -- The new place had no name before, so no other name has its slot.
    have hs : Slot.ofIndex r.size = s := Slot.index_inj.mp (hindex.trans hlast.symm)
    have hno : r.lookup other ≠ some s := fun hother =>
      Nat.ne_of_lt (name?_eq_some_lt (h.lookup_eq_some_iff.mp hother)) hlast
    rw [if_pos hlast, hs]
    split_ifs with hsame
    · simp [hsame]
    · simp [hno, Ne.symm hsame]
  · have hs : Slot.ofIndex r.size ≠ s := fun hs => hlast (hs ▸ hindex)
    rw [if_neg hlast, ← h.lookup_eq_some_iff]
    split_ifs with hsame
    · simp [hs, hsame, hnew]
    · rfl

/-- A new name takes the next place. -/
lemma Compact.add (h : r.Compact) (hnew : r.lookup name = none)
    (hname : isEntryPointName name = true) (hroom : r.size < r.capacity) :
    (r.add name).Compact where
  lookup_eq_some_iff := h.lookup_add_eq_some_iff hnew (Nat.lt_of_lt_of_le hroom h.capacity_le)
  valid n hn := by
    rw [names_add, Array.toList_push, List.mem_append, List.mem_singleton] at hn
    rcases hn with hn | rfl
    · exact h.valid n hn
    · exact hname
  size_le := by
    rw [size_add, capacity_add]
    exact hroom
  capacity_le := h.capacity_le

/-- Whatever is assigned, the registry stays compact. -/
lemma Compact.assign (h : r.Compact) (hu : r.assign name = .ok (s, u)) : u.Compact := by
  rcases assign_eq_ok hu with rfl | ⟨hnew, hname, hroom, rfl⟩
  · exact h
  · exact h.add hnew hname hroom

lemma Compact.assigned (h : r.Compact) (name : String) : (r.assigned name).Compact := by
  rw [SlotRegistry.assigned]
  split
  · next hu => exact h.assign hu
  · exact h

/-- Different names have different slots. -/
lemma Compact.eq_of_lookup (h : r.Compact) (hname : r.lookup name = some s)
    (hother : r.lookup other = some s) : name = other := by
  rw [h.lookup_eq_some_iff] at hname hother
  exact Option.some.inj (hname.symm.trans hother)

/-! ### Registries that grow -/

/-- The registry `u` knows the names of `r`, in the same slots, and perhaps more. -/
structure Grows (r u : SlotRegistry) : Prop where
  names : r.names.toList <+: u.names.toList
  capacity : u.capacity = r.capacity

lemma Grows.refl (r : SlotRegistry) : r.Grows r := ⟨List.prefix_rfl, rfl⟩

lemma Grows.trans (h : r.Grows u) (h' : u.Grows v) : r.Grows v :=
  ⟨h.names.trans h'.names, h'.capacity.trans h.capacity⟩

/-- A registry that grows has no fewer names. -/
lemma Grows.size_le (h : r.Grows u) : r.size ≤ u.size := by
  simpa [size] using h.names.length_le

lemma grows_add (r : SlotRegistry) (name : String) : r.Grows (r.add name) where
  names := by
    rw [names_add, Array.toList_push]
    exact List.prefix_append _ _
  capacity := rfl

/-- To assign a name takes none back. -/
lemma grows_of_assign (h : r.assign name = .ok (s, u)) : r.Grows u := by
  rcases assign_eq_ok h with rfl | ⟨-, -, -, rfl⟩
  · exact .refl u
  · exact r.grows_add name

lemma grows_assigned (r : SlotRegistry) (name : String) : r.Grows (r.assigned name) := by
  rw [assigned]
  split
  · next h => exact grows_of_assign h
  · exact .refl r

/-- A slot keeps its name. -/
lemma Grows.name? (h : r.Grows u) (hs : r.name? s = some name) : u.name? s = some name := by
  obtain ⟨rest, hrest⟩ := h.names
  have hlt : s.index < r.names.toList.length := name?_eq_some_lt hs
  rw [SlotRegistry.name?, ← Array.getElem?_toList] at hs ⊢
  rw [← hrest, List.getElem?_append_left hlt, hs]

/-- A name keeps its slot. -/
lemma Grows.lookup (h : r.Grows u) (hr : r.Compact) (hu : u.Compact)
    (hs : r.lookup name = some s) : u.lookup name = some s := by
  rw [hr.lookup_eq_some_iff] at hs
  rw [hu.lookup_eq_some_iff]
  exact h.name? hs

/-- A full registry does not grow any more. -/
lemma Grows.names_eq_of_full (h : r.Grows u) (hu : u.Compact) (hfull : r.size = r.capacity) :
    u.names = r.names := by
  have hle : u.names.toList.length ≤ r.names.toList.length := by
    have hroom := hu.size_le
    rw [h.capacity, ← hfull] at hroom
    simpa [size] using hroom
  rw [← Array.toList_inj, h.names.eq_of_length_le hle]

/-! ### One assignment -/

/-- An assigned name has the slot that was answered. -/
lemma lookup_of_assign (hu : r.assign name = .ok (s, u)) : u.lookup name = some s := by
  cases hlook : r.lookup name with
  | some t =>
      rw [assign_of_lookup hlook] at hu
      cases hu
      exact hlook
  | none =>
      obtain ⟨hname, hroom⟩ : isEntryPointName name = true ∧ r.size < r.capacity := by
        simpa [hlook] using assign_eq_ok_iff.mp ⟨_, hu⟩
      rw [assign_of_lookup_eq_none hlook hname hroom] at hu
      cases hu
      rw [lookup_add, if_pos rfl]

/-- What is answered for a new name. -/
lemma assign_of_new (hnew : r.lookup name = none) :
    r.assign name = if isEntryPointName name = false then .error .invalidEntryPointName
      else if r.capacity ≤ r.size then .error .slotsExhausted
      else .ok (Slot.ofIndex r.size, r.add name) := by
  rw [assign, hnew]
  cases isEntryPointName name <;> rfl

/-- A new name is invalid if it is not one of an entry point. -/
lemma assign_eq_invalid_iff (hnew : r.lookup name = none) :
    r.assign name = .error .invalidEntryPointName ↔ isEntryPointName name = false := by
  rw [assign_of_new hnew]
  split_ifs <;> simp_all

/-- A valid new name is refused if there is no room. -/
lemma assign_eq_exhausted_iff (hnew : r.lookup name = none)
    (hname : isEntryPointName name = true) :
    r.assign name = .error .slotsExhausted ↔ r.capacity ≤ r.size := by
  rw [assign_of_new hnew, hname]
  split_ifs <;> simp_all

/-- An assignment gives no slot away but the one that it answers. -/
lemma lookup_assigned (hs : (r.assigned other).lookup name = some s) :
    r.lookup name = some s ∨ other = name ∧ ∃ u, r.assign name = .ok (s, u) := by
  cases hassign : r.assign other with
  | error e =>
      rw [SlotRegistry.assigned, hassign] at hs
      exact .inl hs
  | ok p =>
      obtain ⟨t, u⟩ := p
      rw [SlotRegistry.assigned, hassign] at hs
      rcases assign_eq_ok hassign with rfl | ⟨-, -, -, hadd⟩
      · exact .inl hs
      by_cases hname : name = other
      · subst hname
        have hsame := (lookup_of_assign hassign).symm.trans hs
        exact .inr ⟨rfl, u, Option.some.inj hsame ▸ hassign⟩
      · have hs' : u.lookup name = some s := hs
        rw [hadd, lookup_add, if_neg hname] at hs'
        exact .inl hs'

lemma Compact.mem_of_lookup (h : r.Compact) (hs : r.lookup name = some s) :
    name ∈ r.names.toList := by
  rw [h.lookup_eq_some_iff, name?, ← Array.getElem?_toList] at hs
  exact List.mem_of_getElem? hs

/-! ### The list of slots and names -/

/-- The slots from an index on, with their names, are listed, and nothing else is. -/
theorem Compact.mem_slotsFrom_iff (h : r.Compact) {first : Nat} :
    (s, name) ∈ r.slotsFrom first ↔ first ≤ s.index ∧ r.name? s = some name := by
  have hsize : r.names.size ≤ UInt32.size := Nat.le_trans h.size_le h.capacity_le
  simp only [slotsFrom, List.mem_map, Prod.mk.injEq, Prod.exists,
    List.mk_mem_zipIdx_iff_le_and_getElem?_sub, List.getElem?_drop, Array.getElem?_toList, name?]
  constructor
  · rintro ⟨n, i, ⟨hle, hn⟩, rfl, rfl⟩
    rw [Nat.add_sub_cancel' hle] at hn
    obtain ⟨hlt, -⟩ := Array.getElem?_eq_some_iff.mp hn
    rw [Slot.index_ofIndex (by omega)]
    exact ⟨hle, hn⟩
  · rintro ⟨hle, hn⟩
    refine ⟨name, s.index, ⟨hle, ?_⟩, Slot.ofIndex_index s, rfl⟩
    rwa [Nat.add_sub_cancel' hle]

/-- The list is in the order of slots. -/
theorem Compact.pairwise_slotsFrom (h : r.Compact) (first : Nat) :
    (r.slotsFrom first).Pairwise fun a b => a.1.index < b.1.index := by
  have hsize : r.names.size ≤ UInt32.size := Nat.le_trans h.size_le h.capacity_le
  rw [List.pairwise_iff_getElem]
  intro i j hi hj hij
  simp only [slotsFrom, List.length_map, List.length_zipIdx, List.length_drop,
    Array.length_toList] at hi hj
  simp only [slotsFrom, List.getElem_map, List.getElem_zipIdx]
  rw [Slot.index_ofIndex (by omega), Slot.index_ofIndex (by omega)]
  omega

/-! ### Any number of assignments -/

/-- The registry after several names were assigned, as far as that was possible. -/
def assignedEach (r : SlotRegistry) (names : List String) : SlotRegistry := names.foldl assigned r

lemma assignedEach_append (r : SlotRegistry) (names later : List String) :
    r.assignedEach (names ++ later) = (r.assignedEach names).assignedEach later :=
  List.foldl_append

lemma assignedEach_cons (r : SlotRegistry) (name : String) (later : List String) :
    r.assignedEach (name :: later) = (r.assigned name).assignedEach later := rfl

lemma Compact.assignedEach (h : r.Compact) (names : List String) :
    (r.assignedEach names).Compact := by
  induction names generalizing r with
  | nil => exact h
  | cons name names ih => exact ih (h.assigned name)

lemma grows_assignedEach (r : SlotRegistry) (names : List String) :
    r.Grows (r.assignedEach names) := by
  induction names generalizing r with
  | nil => exact .refl r
  | cons name names ih => exact (r.grows_assigned name).trans (ih _)

lemma assigned_of_assign (h : r.assign name = .ok (s, u)) : r.assigned name = u := by
  rw [assigned, h]

/-- A name has a slot exactly if one of the calls answered it. -/
lemma lookup_assignedEach_iff (h : r.Compact) (hempty : r.names = #[]) {calls : List String} :
    (r.assignedEach calls).lookup name = some s ↔
      ∃ before later u, calls = before ++ name :: later ∧
        (r.assignedEach before).assign name = .ok (s, u) := by
  constructor
  · induction calls using List.reverseRecOn with
    | nil =>
        intro hs
        have hmem := h.mem_of_lookup hs
        simp [hempty] at hmem
    | append_singleton calls last ih =>
        intro hs
        rw [assignedEach_append] at hs
        rcases lookup_assigned hs with hs | ⟨rfl, u, hu⟩
        · obtain ⟨before, later, u, rfl, hu⟩ := ih hs
          exact ⟨before, later ++ [last], u, by simp, hu⟩
        · exact ⟨calls, [], u, rfl, hu⟩
  · rintro ⟨before, later, u, rfl, hu⟩
    have hbefore := h.assignedEach before
    rw [assignedEach_append, assignedEach_cons, assigned_of_assign hu]
    exact (grows_assignedEach u later).lookup (hbefore.assign hu)
      ((hbefore.assign hu).assignedEach later) (lookup_of_assign hu)

/-- What a registry with room for `capacity` names answers after any calls. -/
structure Answers (capacity : Nat) (calls : List String) (r : SlotRegistry) : Prop where
  /-- The slots that have a name are the first ones. -/
  assigned : ∀ s, (∃ name, r.name? s = some name) ↔ s.index < r.size
  /-- A slot has a name exactly if the name has the slot. -/
  inverse : ∀ s name, r.name? s = some name ↔ r.lookup name = some s
  /-- Different names have different slots. -/
  distinct : ∀ s name other, r.lookup name = some s → r.lookup other = some s → name = other
  /-- A name has a slot exactly if one of the calls answered it. -/
  answered : ∀ name s, r.lookup name = some s ↔
    ∃ before later u, calls = before ++ name :: later ∧
      ((empty capacity).assignedEach before).assign name = .ok (s, u)
  /-- A name that has a slot keeps it, whatever is assigned later, also in a full registry. -/
  stable : ∀ name s, r.lookup name = some s → ∀ later,
    (r.assignedEach later).assign name = .ok (s, r.assignedEach later)
  /-- Some texts are no names. -/
  invalid : ∀ name, r.lookup name = none →
    (r.assign name = .error .invalidEntryPointName ↔ name = "" ∨ '\x00' ∈ name.toList)
  /-- A new name is refused if there is no room. -/
  exhausted : ∀ name, r.lookup name = none → name ≠ "" → '\x00' ∉ name.toList →
    (r.assign name = .error .slotsExhausted ↔ r.size = capacity)
  /-- A new name has the next slot. -/
  next : ∀ name, r.lookup name = none → name ≠ "" → '\x00' ∉ name.toList → r.size ≠ capacity →
    ∃ s u, r.assign name = .ok (s, u) ∧ s.index = r.size ∧
      u.size = r.size + 1 ∧ u.name? s = some name
  /-- A name that is refused, or has a slot already, changes nothing. -/
  unchanged : ∀ name, (∃ e, r.assign name = .error e) ∨ (∃ s, r.lookup name = some s) →
    (empty capacity).assignedEach (calls ++ [name]) = r
  /-- The slots from an index on, with their names, are listed, and nothing else is. -/
  listed : ∀ first s name,
    (s, name) ∈ r.slotsFrom first ↔ first ≤ s.index ∧ r.name? s = some name
  /-- The list is in the order of slots. -/
  ordered : ∀ first, (r.slotsFrom first).Pairwise fun a b => a.1.index < b.1.index

/-- Whatever names a registry was asked to assign, its slots and names correspond to each other. -/
theorem slots_match_names {capacity : Nat} (hcapacity : capacity ≤ UInt32.size)
    (calls : List String) :
    Answers capacity calls ((empty capacity).assignedEach calls) := by
  have hempty := compact_empty hcapacity
  have h := hempty.assignedEach calls
  have hroom : ((empty capacity).assignedEach calls).capacity = capacity :=
    ((empty capacity).grows_assignedEach calls).capacity
  have answered : ∀ name s, ((empty capacity).assignedEach calls).lookup name = some s ↔
      ∃ before later u, calls = before ++ name :: later ∧
        ((empty capacity).assignedEach before).assign name = .ok (s, u) :=
    fun name s => lookup_assignedEach_iff hempty rfl
  have same (name : String) : (empty capacity).assignedEach (calls ++ [name]) =
      ((empty capacity).assignedEach calls).assigned name := assignedEach_append _ _ _
  -- from here on only what is known of the registry counts, not how it came about
  generalize (empty capacity).assignedEach calls = r at h hroom answered same
  refine ⟨fun s => exists_name?_iff, fun s name => h.lookup_eq_some_iff.symm,
    fun s name other => h.eq_of_lookup, answered, fun name s hs later => ?stable,
    fun name hnew => ?invalid, fun name hnew hne hnul => ?exhausted,
    fun name hnew hne hnul hlt => ?next, fun name hidle => ?unchanged,
    fun first s name => h.mem_slotsFrom_iff, h.pairwise_slotsFrom⟩
  case stable =>
    have hgrows := r.grows_assignedEach later
    exact assign_of_lookup (hgrows.lookup h (h.assignedEach later) hs)
  case invalid =>
    rw [assign_eq_invalid_iff hnew, ← Bool.not_eq_true, isEntryPointName_iff]
    tauto
  case exhausted =>
    rw [assign_eq_exhausted_iff hnew (isEntryPointName_iff.mpr ⟨hne, hnul⟩), hroom]
    have hle := h.size_le
    omega
  case next =>
    have hlt' : r.size < r.capacity := by
      have hle := h.size_le
      omega
    have hu := assign_of_lookup_eq_none hnew (isEntryPointName_iff.mpr ⟨hne, hnul⟩) hlt'
    have hindex : (Slot.ofIndex r.size).index = r.size :=
      Slot.index_ofIndex (Nat.lt_of_lt_of_le hlt' h.capacity_le)
    exact ⟨_, _, hu, hindex, size_add _ _,
      (h.assign hu).lookup_eq_some_iff.mp (lookup_of_assign hu)⟩
  case unchanged =>
    rw [same]
    rcases hidle with ⟨e, he⟩ | ⟨s, hs⟩
    · rw [SlotRegistry.assigned, he]
    · exact assigned_of_assign (assign_of_lookup hs)

/-- A registry with room for two names, which was asked for four. -/
def smallRegistry : SlotRegistry := (empty 2).assignedEach ["glClear", "", "glFlush", "glFinish"]

/-- A registry of two places that is full. -/
theorem slots_match_names_full :
    2 ≤ UInt32.size ∧ smallRegistry.lookup "glFlush" = some (.ofIndex 1) ∧
      smallRegistry.assign "glFinish" = .error .slotsExhausted ∧
      smallRegistry.assign "glFlush" = .ok (.ofIndex 1, smallRegistry) := by
  have hroom : 2 ≤ UInt32.size := by decide
  have answers := slots_match_names hroom ["glClear", "", "glFlush", "glFinish"]
  have known : smallRegistry.lookup "glFlush" = some (.ofIndex 1) := by decide +kernel
  have new : smallRegistry.lookup "glFinish" = none := by decide +kernel
  exact ⟨hroom, known,
    (answers.exhausted _ new (by decide) (by decide)).mpr (by decide +kernel),
    answers.stable _ _ known []⟩

end SlotRegistry

end VendorDispatch
