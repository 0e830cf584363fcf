import Mathlib.Data.List.Nodup
import VendorDispatch.Proofs.SlotAssignment

/-!
Fix-ups one after the other come to the same as one fix-up.

A registry grows, and now and then a vendor's table is fixed up against it. However the two
alternate, the vendor is asked for each name once, in the order of slots, and the table is the one
that a single fix-up against the same registry makes.

* `Upkeep`: a registry, a table, and what the table's vendor was asked for. `Upkeep.run`: any
  assignments and fix-ups, in any order.
* `SlotRegistry.Listing`: the names of a registry are different and can be read.
* `Upkeep.Kept`: what is true at every time; `Kept.turn` is the step and `Kept.run` the run.
* `Upkeep.Extends`: what an earlier time tells about a later one.
* `fixUps_eq_one_fixUp`: all of it, said of the turns alone.
-/

namespace VendorDispatch

variable {φ : Type}

/-! ### The names of a registry -/

namespace SlotRegistry

variable {r : SlotRegistry} {name : String}

/-- The names are different, a name without a slot is none of them, and a vendor can read each. -/
structure Listing (r : SlotRegistry) : Prop where
  lookup_eq_none_iff : ∀ {name}, r.lookup name = none ↔ name ∉ r.names.toList
  nodup : r.names.toList.Nodup
  readable : ∀ name ∈ r.names.toList, name.toList.contains '\x00' = false

lemma listing_empty (capacity : Nat) : (empty capacity).Listing where
  lookup_eq_none_iff := by simp [lookup, empty]
  nodup := List.nodup_nil
  readable := List.forall_mem_nil _

/-- A new name is listed behind the others. -/
lemma Listing.add (h : r.Listing) (hnew : r.lookup name = none)
    (hname : isEntryPointName name = true) : (r.add name).Listing where
  lookup_eq_none_iff := by
    intro other
    rw [lookup_add, names_add, Array.toList_push, List.mem_append, List.mem_singleton, not_or,
      ← h.lookup_eq_none_iff]
    split_ifs with hsame <;> simp [hsame]
  nodup := by
    rw [names_add, Array.toList_push, ← List.concat_eq_append]
    exact List.Nodup.concat (h.lookup_eq_none_iff.mp hnew) h.nodup
  readable n hn := by
    rw [names_add, Array.toList_push, List.mem_append, List.mem_singleton] at hn
    rcases hn with hn | rfl
    · exact h.readable n hn
    · exact isEntryPointName_readable hname

/-- Assigning a name lists it, unless it is refused or was listed before. -/
lemma Listing.assigned (h : r.Listing) (name : String) : (r.assigned name).Listing := by
  rw [SlotRegistry.assigned]
  split
  · next hu =>
    rcases assign_eq_ok hu with rfl | ⟨hnew, hname, -, rfl⟩
    · exact h
    · exact h.add hnew hname
  · exact h

lemma listing_ofKnown (capacity : Nat) (known : List String) :
    (ofKnown capacity known).Listing := by
  have hfold : ((empty capacity).assignedEach known).Listing := by
    induction known using List.reverseRecOn with
    | nil => exact listing_empty capacity
    | append_singleton known last ih =>
        rw [assignedEach_append]
        exact ih.assigned last
  exact ⟨hfold.lookup_eq_none_iff, hfold.nodup, hfold.readable⟩

end SlotRegistry

/-! ### Tables that were asked for the same names -/

namespace DispatchTable

variable {t u : DispatchTable φ} {r : SlotRegistry} {names : List String} {s : Slot}

/-- The entry of a slot stands in its place. -/
lemma entry_ofIndex (t : DispatchTable φ) {i : Nat} (h : i < maxSlots) :
    t.entry (Slot.ofIndex i) = .ofOption t.places[i] := by
  have hindex : (Slot.ofIndex i).index = i := Slot.index_ofIndex (Nat.lt_trans h (by decide))
  rw [entry, hindex, Vector.getElem?_eq_getElem h]

lemma ofOption_inj {f g : Option φ} : Entry.ofOption f = .ofOption g ↔ f = g := by
  cases f <;> cases g <;> simp [Entry.ofOption]

/-- Tables of one vendor that were asked for the same names are the same. -/
lemma Filled.eq (ht : t.Filled names) (hu : u.Filled names) (hprovide : t.provide = u.provide)
    (hresolved : t.resolved = u.resolved) : t = u := by
  have hplaces : t.places = u.places := by
    ext i hi : 1
    rw [← ofOption_inj, ← entry_ofIndex t hi, ← entry_ofIndex u hi, ht.entry, hu.entry, hprovide]
  have hquestions : t.questions = u.questions := ht.questions.trans hu.questions.symm
  cases t
  cases u
  simp_all

/-- A slot whose name was asked for holds the answer. -/
lemma Follows.entry_of_lt (h : t.Follows r) {name : String} (hs : s.index < t.resolved)
    (hname : r.name? s = some name) :
    t.entry s = .ofOption (t.provide s.index name) := by
  rw [h.filled.entry, List.getElem?_take_of_lt hs, Array.getElem?_toList]
  rw [SlotRegistry.name?] at hname
  rw [hname]
  rfl

/-- A slot whose name was not asked for holds the no-op function. -/
lemma Follows.entry_of_le (h : t.Follows r) (hs : t.resolved ≤ s.index) :
    t.entry s = noopEntry s := by
  rw [h.filled.entry, List.getElem?_eq_none]
  · rfl
  · rw [List.length_take]
    exact Nat.le_trans (Nat.min_le_left _ _) hs

end DispatchTable

/-! ### Assignments and fix-ups -/

/-- A registry, the table of one vendor, and the names that the vendor was asked for, in order. -/
structure Upkeep (φ : Type) where
  registry : SlotRegistry
  table : DispatchTable φ
  asked : List String := []

/-- What is done to a registry and a table. -/
inductive Upkeep.Turn
  /-- The registry is asked for a name's slot. -/
  | assign (name : String)
  /-- The table is fixed up. -/
  | fixUp
  deriving DecidableEq, Repr

namespace Upkeep

open DispatchTable SlotRegistry

/-- A registry in which the given names are known from the start, and a table that has not been
fixed up. -/
def start (capacity : Nat) (known : List String) (provide : Nat → String → Option φ) :
    Upkeep φ where
  registry := ofKnown capacity known
  table := new provide

/-- One turn. -/
def turn (u : Upkeep φ) : Turn → Upkeep φ
  | .assign name => { u with registry := u.registry.assigned name }
  | .fixUp =>
    let (table, more) := u.table.fixUp u.registry
    { u with table, asked := u.asked ++ more }

/-- Any turns, one after the other. -/
def run (u : Upkeep φ) (turns : List Turn) : Upkeep φ := turns.foldl turn u

variable {u v : Upkeep φ} {provide : Nat → String → Option φ} {turns later : List Turn} {t : Turn}

lemma run_append (u : Upkeep φ) (turns later : List Turn) :
    u.run (turns ++ later) = (u.run turns).run later := List.foldl_append

/-- One turn after another. -/
lemma run_concat (u : Upkeep φ) (turns : List Turn) (t : Turn) :
    u.run (turns ++ [t]) = (u.run turns).turn t := run_append u turns [t]

/-- No turn takes back a name. -/
lemma grows_turn (u : Upkeep φ) (t : Turn) : u.registry.Grows (u.turn t).registry := by
  cases t with
  | assign name => exact u.registry.grows_assigned name
  | fixUp => exact .refl _

/-- No run does. -/
lemma grows_run (u : Upkeep φ) (turns : List Turn) : u.registry.Grows (u.run turns).registry := by
  induction turns using List.reverseRecOn with
  | nil => exact .refl _
  | append_singleton turns last ih =>
      rw [run_concat]
      exact ih.trans (grows_turn _ last)

/-- What is true at every time: the vendor was asked for the names of the first slots, up to the
table's counter, once each, and for nothing else. -/
structure Kept (provide : Nat → String → Option φ) (u : Upkeep φ) : Prop where
  listing : u.registry.Listing
  follows : u.table.Follows u.registry
  provide_eq : u.table.provide = provide
  asked_eq : u.asked = u.registry.names.toList.take u.table.resolved

lemma kept_start (capacity : Nat) (known : List String) (provide : Nat → String → Option φ) :
    (start capacity known provide).Kept provide where
  listing := listing_ofKnown capacity known
  follows := follows_new provide _
  provide_eq := rfl
  asked_eq := rfl

/-- An assignment leaves the table behind the registry, if it was. -/
lemma Kept.assign (h : u.Kept provide) (name : String) :
    (u.turn (.assign name)).Kept provide where
  listing := h.listing.assigned name
  follows := by
    have hle := h.follows.le
    have hfilled := h.follows.filled
    obtain ⟨rest, hrest⟩ := (u.registry.grows_assigned name).names
    refine ⟨Nat.le_trans hle (u.registry.grows_assigned name).size_le, ?_⟩
    rw [turn, ← hrest, List.take_append_of_le_length hle]
    exact hfilled
  provide_eq := h.provide_eq
  asked_eq := by
    obtain ⟨rest, hrest⟩ := (u.registry.grows_assigned name).names
    rw [turn, ← hrest, List.take_append_of_le_length h.follows.le]
    exact h.asked_eq

/-- A fix-up against a registry that has no more slots than the table has places. -/
lemma Kept.fixUp (h : u.Kept provide) (hsize : u.registry.size ≤ maxSlots) :
    (u.turn .fixUp).Kept provide ∧ (u.turn .fixUp).table.resolved = u.registry.size := by
  obtain ⟨hfollows, hdone, hprovide, hmore⟩ :=
    h.follows.fixUp_of_size_le hsize h.listing.readable
  refine ⟨⟨h.listing, hfollows, hprovide.trans h.provide_eq, ?_⟩, hdone⟩
  have hall : u.registry.names.toList.take u.registry.size = u.registry.names.toList :=
    List.take_length
  rw [turn]
  dsimp only
  rw [h.asked_eq, hmore, List.take_append_drop, hdone, hall]

/-- Every turn keeps the table in order, and takes back no answer. -/
lemma Kept.turn (h : u.Kept provide) (hsize : u.registry.size ≤ maxSlots) (t : Turn) :
    (u.turn t).Kept provide ∧ u.table.resolved ≤ (u.turn t).table.resolved := by
  cases t with
  | assign name => exact ⟨h.assign name, Nat.le_refl _⟩
  | fixUp =>
      obtain ⟨hkept, hdone⟩ := h.fixUp hsize
      exact ⟨hkept, hdone ▸ h.follows.le⟩

/-- So does every run. -/
lemma Kept.run (h : u.Kept provide) (turns : List Turn)
    (hsize : (u.run turns).registry.size ≤ maxSlots) :
    (u.run turns).Kept provide ∧ u.table.resolved ≤ (u.run turns).table.resolved := by
  induction turns using List.reverseRecOn with
  | nil => exact ⟨h, Nat.le_refl _⟩
  | append_singleton turns last ih =>
      rw [run_concat] at hsize ⊢
      have hbefore := Nat.le_trans (grows_turn _ last).size_le hsize
      obtain ⟨hkept, hle⟩ := ih hbefore
      obtain ⟨hnext, hle'⟩ := hkept.turn hbefore last
      exact ⟨hnext, Nat.le_trans hle hle'⟩

/-- A table that has been asked for every name is the one that a single fix-up makes, and its vendor
was asked for the same names in the same order. -/
lemma Kept.eq_new_fixUp (h : u.Kept provide) (hsize : u.registry.size ≤ maxSlots)
    (hdone : u.table.resolved = u.registry.size) :
    (new provide).fixUp u.registry = (u.table, u.asked) := by
  obtain ⟨hfollows, hresolved, hprovide, hasked⟩ :=
    (follows_new provide u.registry).fixUp_of_size_le hsize h.listing.readable
  have hfilled := hfollows.filled
  rw [hresolved, ← hdone] at hfilled
  have htable : ((new provide).fixUp u.registry).1 = u.table :=
    hfilled.eq h.follows.filled (hprovide.trans h.provide_eq.symm) (hresolved.trans hdone.symm)
  have hnames : ((new provide).fixUp u.registry).2 = u.asked := by
    have hall : u.registry.names.toList.take u.registry.size = u.registry.names.toList :=
      List.take_length
    rw [hasked, h.asked_eq, hdone, hall]
    rfl
  exact Prod.ext htable hnames

/-! ### Earlier and later times -/

/-- What an earlier time tells about a later one: the counter is no lower, the names that were asked
for come first, and a place that was resolved holds what it held. -/
structure Extends (u v : Upkeep φ) : Prop where
  resolved_le : u.table.resolved ≤ v.table.resolved
  asked : u.asked <+: v.asked
  entry : ∀ s, s.index < u.table.resolved → v.table.entry s = u.table.entry s

/-- A table that was in order earlier is extended by what it is later. -/
lemma Kept.extends (hu : u.Kept provide) (hv : v.Kept provide)
    (hgrows : u.registry.Grows v.registry) (hle : u.table.resolved ≤ v.table.resolved) :
    u.Extends v where
  resolved_le := hle
  asked := by
    obtain ⟨rest, hrest⟩ := hgrows.names
    rw [hu.asked_eq, hv.asked_eq, ← List.take_append_of_le_length hu.follows.le, hrest]
    exact List.take_prefix_take_left hle
  entry s hs := by
    obtain ⟨name, hname⟩ := exists_name?_iff.mpr (Nat.lt_of_lt_of_le hs hu.follows.le)
    rw [hu.follows.entry_of_lt hs hname, hu.provide_eq,
      hv.follows.entry_of_lt (Nat.lt_of_lt_of_le hs hle) (hgrows.name? hname), hv.provide_eq]

/-- Assignments say nothing to a table. -/
lemma run_of_not_mem (u : Upkeep φ) (h : .fixUp ∉ turns) :
    (u.run turns).table = u.table ∧ (u.run turns).asked = u.asked := by
  induction turns using List.reverseRecOn with
  | nil => exact ⟨rfl, rfl⟩
  | append_singleton turns last ih =>
      rw [List.mem_append, List.mem_singleton, not_or] at h
      rw [run_concat]
      cases last with
      | assign name => exact ih h.1
      | fixUp => exact absurd rfl h.2

/-- What has come of any turns that started with `g`. -/
structure InOrder (provide : Nat → String → Option φ) (g : Upkeep φ) (turns : List Turn) :
    Prop where
  /-- The vendor was asked for the names of the slots below the counter, slot after slot, and for
  nothing else. -/
  asked_at : ∀ i name, (g.run turns).asked[i]? = some name ↔
    i < (g.run turns).table.resolved ∧ (g.run turns).registry.name? (.ofIndex i) = some name
  /-- It was asked for no name twice. -/
  once : (g.run turns).asked.Nodup
  /-- The counter is no higher than the number of slots. -/
  resolved_le : (g.run turns).table.resolved ≤ (g.run turns).registry.size
  /-- After a fix-up the counter is the number of slots. -/
  resolved_eq : ∀ before later, turns = before ++ .fixUp :: later →
    (g.run (before ++ [.fixUp])).table.resolved = (g.run (before ++ [.fixUp])).registry.size
  /-- Whatever was resolved at an earlier time has stayed as it was. -/
  extends_earlier : ∀ before later, turns = before ++ later → (g.run before).Extends (g.run turns)
  /-- The last fix-up has left the table of a vendor that was fixed up once, and the vendor was
  asked for the same names in the same order. -/
  one_fixUp : ∀ before later, turns = before ++ .fixUp :: later → .fixUp ∉ later →
    (new provide).fixUp (g.run before).registry = ((g.run turns).table, (g.run turns).asked)
  /-- Without a fix-up the table is new. -/
  no_fixUp : .fixUp ∉ turns → (g.run turns).table = new provide ∧ (g.run turns).asked = []
  /-- A slot below the counter holds what the vendor answered to the slot's name. -/
  answered : ∀ s name, s.index < (g.run turns).table.resolved →
    (g.run turns).registry.name? s = some name →
      (g.run turns).table.entry s = .ofOption (provide s.index name)
  /-- Every other slot holds the no-op function. -/
  unresolved : ∀ s, (g.run turns).table.resolved ≤ s.index → s.index < maxSlots →
    (g.run turns).table.entry s = .noop

/-- However assignments and fix-ups alternate, the fix-ups come to the same as a single one, as long
as there are no more slots than a table has places. The vendor may even answer differently the more
questions it was asked: a name is the same question, by its number, in both cases. -/
theorem fixUps_eq_one_fixUp (capacity : Nat) (known : List String)
    (provide : Nat → String → Option φ) (turns : List Turn)
    (hsize : ((start capacity known provide).run turns).registry.size ≤ maxSlots) :
    InOrder provide (start capacity known provide) turns := by
  have hstart := kept_start capacity known provide
  generalize hg : start capacity known provide = g at hsize hstart
  -- the table was in order at every earlier moment, when there were no more slots than now
  have kept : ∀ before later, turns = before ++ later → (g.run before).Kept provide ∧
      (g.run before).registry.size ≤ maxSlots := by
    rintro before later rfl
    rw [run_append] at hsize
    have hbefore := Nat.le_trans (grows_run _ later).size_le hsize
    exact ⟨(hstart.run before hbefore).1, hbefore⟩
  obtain ⟨h, -⟩ := kept turns [] (List.append_nil _).symm
  refine ⟨fun i name => ?asked_at, ?once, h.follows.le, fun before later hturns => ?resolved_eq,
    fun before later hturns => ?extends_earlier, fun before later hturns hlast => ?one_fixUp,
    fun hnone => ?no_fixUp, fun s name hs hname => ?answered, fun s hs hlt => ?unresolved⟩
  case asked_at =>
    rw [h.asked_eq, List.getElem?_take]
    split_ifs with hi
    · have hindex : (Slot.ofIndex i).index = i :=
        Slot.index_ofIndex (Nat.lt_of_lt_of_le hi (Nat.le_trans h.follows.le
          (Nat.le_trans hsize (by decide))))
      rw [SlotRegistry.name?, hindex, Array.getElem?_toList]
      exact ⟨fun hn => ⟨hi, hn⟩, And.right⟩
    · simp [hi]
  case once =>
    rw [h.asked_eq]
    exact h.listing.nodup.sublist (List.take_sublist _ _)
  case resolved_eq =>
    obtain ⟨hbefore, hroom⟩ := kept before (.fixUp :: later) hturns
    rw [run_concat]
    exact (hbefore.fixUp hroom).2
  case extends_earlier =>
    obtain ⟨hbefore, -⟩ := kept before later hturns
    rw [hturns, run_append] at hsize h ⊢
    exact hbefore.extends h (grows_run _ later) (hbefore.run later hsize).2
  case one_fixUp =>
    obtain ⟨hbefore, hroom⟩ := kept before (.fixUp :: later) hturns
    obtain ⟨hfixed, hdone⟩ := hbefore.fixUp hroom
    have hrun : g.run turns = ((g.run before).turn .fixUp).run later := by
      rw [hturns, run_append]
      rfl
    obtain ⟨htable, hasked⟩ := run_of_not_mem ((g.run before).turn .fixUp) hlast
    rw [hrun, htable, hasked]
    exact hfixed.eq_new_fixUp hroom hdone
  case no_fixUp =>
    obtain ⟨htable, hasked⟩ := run_of_not_mem g hnone
    rw [htable, hasked, ← hg]
    exact ⟨rfl, rfl⟩
  case answered =>
    rw [h.follows.entry_of_lt hs hname, h.provide_eq]
  case unresolved =>
    rw [h.follows.entry_of_le hs, noopEntry, if_pos hlt]

/-- A vendor that has one function. -/
def oneFunction : Nat → String → Option Unit := fun _ name =>
  if name = "glAnswer" then some () else none

/-- A vendor is asked for two names in two fix-ups, and a third fix-up asks for nothing. -/
theorem fixUps_eq_one_fixUp_oneFunction :
    let turns : List Turn := [.assign "glMissing", .fixUp, .assign "glAnswer", .fixUp, .fixUp]
    let u := (start 8 [] oneFunction).run turns
    u.registry.size ≤ maxSlots ∧ u.asked = ["glMissing", "glAnswer"] ∧
      u.table.entry (.ofIndex 0) = .noop ∧ u.table.entry (.ofIndex 1) = .function () := by
  intro turns u
  have hsize : u.registry.size ≤ maxSlots := by decide +kernel
  have hasked : u.asked = ["glMissing", "glAnswer"] := by decide +kernel
  have order := fixUps_eq_one_fixUp 8 [] oneFunction turns hsize
  have first := (order.asked_at 0 "glMissing").mp (congrArg (fun asked => asked[0]?) hasked)
  have second := (order.asked_at 1 "glAnswer").mp (congrArg (fun asked => asked[1]?) hasked)
  exact ⟨hsize, hasked, order.answered (.ofIndex 0) _ first.1 first.2,
    order.answered (.ofIndex 1) _ second.1 second.2⟩

end Upkeep

end VendorDispatch
