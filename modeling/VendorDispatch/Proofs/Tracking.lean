import VendorDispatch.Proofs.Filling
import VendorDispatch.Switchboard.Call

/-!
Which tables are kept up with the registry: the ones that somebody keeps alive.

* `Switchboard.Sound`: what is true of every state of a process: every table has been asked for the
  first names of the registry, and every live table is tracked.
* `Switchboard.UpToDate`: a table that has been asked for every name.
* `Switchboard.Advances`: what every operation does to tables: none is lost, each keeps the vendor
  that it was made for, and a live one stays up to date.
* `Sound.advances_modifyTable`, `Sound.resolves_fixUp`, `Sound.advances_createTable`,
  `Sound.assign`, `sameTables_entryPoint`: the operations on tables and names.
-/

namespace VendorDispatch.Switchboard

variable {φ : Type} {p q : Switchboard φ} {t u : TableId}

/-! ### Questions and holders -/

/-- The names that a table's vendor has been asked for, in order. -/
def questionsTo (p : Switchboard φ) (t : TableId) : List String :=
  ((p.asked.filter fun a => a.1 = t).map Prod.snd).reverse

/-- A count that is kept for every table. -/
def tally (p : Switchboard φ) (field : TableRecord φ → Nat) (t : TableId) : Nat :=
  ((p.table? t).map field).getD 0

/-- The number of calls under way that use a table. -/
def usersOf (p : Switchboard φ) (t : TableId) : Nat := p.tally TableRecord.users t

/-- The number of threads that keep a table alive. -/
def ownersOf (p : Switchboard φ) (t : TableId) : Nat := p.tally TableRecord.owners t

/-- A count of holders is the one in the table's record. -/
lemma tally_of_eq_some {field : TableRecord φ → Nat} {r : TableRecord φ}
    (hr : p.table? t = some r) : p.tally field t = field r := by
  rw [tally, hr]
  rfl

/-- A table is alive if somebody holds on to it. -/
lemma isAlive_iff :
    p.isAlive t = true ↔ 0 < p.handlesOn t + p.usersOf t + p.ownersOf t := by
  rw [isAlive, handlesOn, usersOf, ownersOf, tally, tally]
  cases p.table? t <;> simp [TableRecord.isAlive]

/-- A table that somebody holds on to has a record. -/
lemma exists_of_counted (h : 0 < p.handlesOn t + p.usersOf t + p.ownersOf t) :
    ∃ r, p.table? t = some r ∧ r.isAlive = true := by
  rw [← isAlive_iff, isAlive, Option.any_eq_true] at h
  exact h

/-- The table has been asked for every name that has a slot. -/
def UpToDate (p : Switchboard φ) (t : TableId) : Prop :=
  ∃ r, p.table? t = some r ∧ r.table.resolved = p.registry.size

/-- What is true of every state of a process. -/
structure Sound (p : Switchboard φ) : Prop where
  registry : p.registry.Valid
  follows : ∀ t r, p.table? t = some r → r.table.Follows p.registry
  questions : ∀ t r, p.table? t = some r →
    p.questionsTo t = p.registry.names.toList.take r.table.resolved
  unasked : ∀ t, p.table? t = none → p.questionsTo t = []
  tracked : ∀ t, p.isAlive t = true → t ∈ p.tracked

/-- What an operation does to tables: none is lost, each keeps the vendor that it was made for, and
a live one stays up to date. -/
structure Advances (p q : Switchboard φ) : Prop where
  sound : q.Sound
  table : ∀ t r, p.table? t = some r →
    ∃ r', q.table? t = some r' ∧ r'.table.provide = r.table.provide
  upToDate : ∀ t, p.isAlive t = true → p.UpToDate t → q.UpToDate t

/-- The same calls and threads hold on to tables. -/
structure SameHolders (p q : Switchboard φ) : Prop where
  users : ∀ t, q.usersOf t = p.usersOf t
  owners : ∀ t, q.ownersOf t = p.ownersOf t

lemma Sound.advances_self (h : p.Sound) : p.Advances p :=
  ⟨h, fun _ r hr => ⟨r, hr, rfl⟩, fun _ _ => id⟩

/-! ### Holding on to tables -/

/-- The record of one table changes, and no other. -/
lemma table?_modifyTable (p : Switchboard φ) (t : TableId) (f : TableRecord φ → TableRecord φ)
    (u : TableId) :
    (p.modifyTable t f).table? u = if u = t then (p.table? u).map f else p.table? u := by
  simp only [table?, modifyTable, List.getElem?_modify]
  by_cases h : u = t
  · subst h
    simp
  · have hne : t.index ≠ u.index := fun hi => h (by cases t; cases u; simp_all)
    simp [h, hne]

/-- So do the counts of its holders. -/
lemma tally_modifyTable {field : TableRecord φ → Nat} {r : TableRecord φ}
    (hr : p.table? t = some r) (f : TableRecord φ → TableRecord φ) (u : TableId) :
    (p.modifyTable t f).tally field u = if u = t then field (f r) else p.tally field u := by
  rw [tally, table?_modifyTable]
  split_ifs with h
  · rw [h, hr]
    rfl
  · rfl

/-- Whoever begins or stops to hold on to a table leaves the table itself alone. Nobody brings back
a table that nobody held on to. -/
lemma Sound.advances_modifyTable (h : p.Sound) {f : TableRecord φ → TableRecord φ}
    (hf : ∀ r, (f r).table = r.table)
    (halive : ∀ r, p.table? t = some r → (f r).isAlive = true → r.isAlive = true) :
    p.Advances (p.modifyTable t f) := by
  -- every table is as before, with other holders at most
  have htable : ∀ u r, (p.modifyTable t f).table? u = some r →
      ∃ r', p.table? u = some r' ∧ r.table = r'.table ∧ (r.isAlive = true → r'.isAlive = true) := by
    intro u r hr
    rw [table?_modifyTable] at hr
    split_ifs at hr with hu
    · subst hu
      obtain ⟨r', hr', rfl⟩ := Option.map_eq_some_iff.mp hr
      exact ⟨r', hr', hf r', halive r' hr'⟩
    · exact ⟨r, hr, rfl, id⟩
  have hkept : ∀ u r, p.table? u = some r →
      ∃ r', (p.modifyTable t f).table? u = some r' ∧ r'.table = r.table := by
    intro u r hr
    rw [table?_modifyTable, hr]
    split_ifs
    · exact ⟨f r, rfl, hf r⟩
    · exact ⟨r, rfl, rfl⟩
  refine ⟨⟨h.registry, fun u r hr => ?_, fun u r hr => ?_, fun u hu => ?_, fun u hu => ?_⟩,
    fun u r hr => ?_, ?_⟩
  · obtain ⟨r', hr', heq, -⟩ := htable u r hr
    rw [heq]
    exact h.follows u r' hr'
  · obtain ⟨r', hr', heq, -⟩ := htable u r hr
    rw [heq]
    exact h.questions u r' hr'
  · rw [table?_modifyTable] at hu
    refine h.unasked u ?_
    split_ifs at hu
    · exact Option.map_eq_none_iff.mp hu
    · exact hu
  · rw [isAlive, Option.any_eq_true] at hu
    obtain ⟨r, hr, hlive⟩ := hu
    obtain ⟨r', hr', -, hlive'⟩ := htable u r hr
    refine h.tracked u ?_
    rw [isAlive, hr', Option.any_some, hlive' hlive]
  · obtain ⟨r', hr', heq⟩ := hkept u r hr
    exact ⟨r', hr', by rw [heq]⟩
  · rintro u - ⟨r, hr, hdone⟩
    obtain ⟨r', hr', heq⟩ := hkept u r hr
    exact ⟨r', hr', by rw [heq]; exact hdone⟩

/-! ### Looking names up -/

/-- The table's record as it was before anything was asked: the vendor and the holders. -/
def blank (r : TableRecord φ) : TableRecord φ := { r with table := .new r.table.provide }

/-- Tables have the same vendors and the same holders. -/
def SameRecords (p q : Switchboard φ) : Prop :=
  ∀ t, (q.table? t).map blank = (p.table? t).map blank

lemma SameRecords.table (h : p.SameRecords q) {r : TableRecord φ} (hr : p.table? t = some r) :
    ∃ r', q.table? t = some r' ∧ r'.table.provide = r.table.provide := by
  have hrecord := h t
  rw [hr, Option.map_some, Option.map_eq_some_iff] at hrecord
  obtain ⟨r', hr', heq⟩ := hrecord
  exact ⟨r', hr', congrArg (fun x => x.table.provide) heq⟩

/-- The same tables are alive. -/
lemma SameRecords.isAlive (h : p.SameRecords q) (t : TableId) : q.isAlive t = p.isAlive t := by
  have hany : ∀ v : Switchboard φ,
      v.isAlive t = ((v.table? t).map blank).any TableRecord.isAlive := by
    intro v
    rw [Option.any_map]
    rfl
  rw [hany, hany, h]

/-- The counts of holders are the same. -/
lemma SameRecords.tally (h : p.SameRecords q) {field : TableRecord φ → Nat}
    (hfield : field ∘ blank = field) (t : TableId) : q.tally field t = p.tally field t := by
  rw [Switchboard.tally, Switchboard.tally, ← hfield, ← Option.map_map, ← Option.map_map, h]

lemma SameRecords.sameHolders (h : p.SameRecords q) : p.SameHolders q :=
  ⟨h.tally rfl, h.tally rfl⟩

/-- Names were looked up in tables, and nothing else happened. -/
structure Resolves (p q : Switchboard φ) : Prop where
  sound : q.Sound
  registry : q.registry = p.registry
  threads : q.threads = p.threads
  records : p.SameRecords q
  upToDate : ∀ t, p.UpToDate t → q.UpToDate t

/-- Names resolved in two turns are resolved. -/
lemma Resolves.trans {v : Switchboard φ} (h : p.Resolves q) (h' : q.Resolves v) :
    p.Resolves v where
  sound := h'.sound
  registry := h'.registry.trans h.registry
  threads := h'.threads.trans h.threads
  records t := (h'.records t).trans (h.records t)
  upToDate t ht := h'.upToDate t (h.upToDate t ht)

/-- To resolve names is a way to go on. -/
lemma Resolves.advances (h : p.Resolves q) : p.Advances q :=
  ⟨h.sound, fun _ _ => h.records.table, fun t _ => h.upToDate t⟩

lemma Sound.resolves_self (h : p.Sound) : p.Resolves p :=
  ⟨h, rfl, rfl, fun _ => rfl, fun _ => id⟩

lemma registry_fixUp (p : Switchboard φ) (t : TableId) : (p.fixUp t).registry = p.registry := by
  rw [fixUp]
  split <;> rfl

lemma threads_fixUp (p : Switchboard φ) (t : TableId) : (p.fixUp t).threads = p.threads := by
  rw [fixUp]
  split <;> rfl

lemma tracked_fixUp (p : Switchboard φ) (t : TableId) : (p.fixUp t).tracked = p.tracked := by
  rw [fixUp]
  split <;> rfl

lemma region_fixUp (p : Switchboard φ) (t : TableId) : (p.fixUp t).region = p.region := by
  rw [fixUp]
  split <;> rfl

lemma length_tables_fixUp (p : Switchboard φ) (t : TableId) :
    (p.fixUp t).tables.length = p.tables.length := by
  rw [fixUp]
  split
  · rfl
  · exact List.length_set

/-- What no fix-up changes, several leave alone too. -/
lemma fixUpEach_eq {α : Type} {f : Switchboard φ → α} (hf : ∀ p t, f (p.fixUp t) = f p)
    (ts : List TableId) (p : Switchboard φ) : f (ts.foldl fixUp p) = f p := by
  induction ts generalizing p with
  | nil => rfl
  | cons t ts ih => exact (ih _).trans (hf p t)

/-- A fix-up changes the entries of one table. -/
lemma table?_fixUp (p : Switchboard φ) (t u : TableId) :
    (p.fixUp t).table? u =
      if u = t then (p.table? u).map fun r => { r with table := (r.table.fixUp p.registry).1 }
      else p.table? u := by
  rw [fixUp]
  split
  · next hnone =>
    split_ifs with h
    · rw [h, hnone]
      rfl
    · rfl
  · next r hr =>
    obtain ⟨hlt, -⟩ := List.getElem?_eq_some_iff.mp hr
    split_ifs with h
    · rw [h, hr]
      exact List.getElem?_set_self hlt
    · refine List.getElem?_set_ne fun hi => h ?_
      cases t
      cases u
      simp_all

/-- The vendor of that table is asked for what is missing, and nobody else. -/
lemma questionsTo_fixUp {r : TableRecord φ} (hr : p.table? t = some r) (u : TableId) :
    (p.fixUp t).questionsTo u =
      p.questionsTo u ++ if u = t then (r.table.fixUp p.registry).2 else [] := by
  rw [fixUp, hr]
  simp only [questionsTo, List.filter_append, List.map_append, List.reverse_append]
  congr 1
  rw [List.filter_reverse, List.map_reverse, List.reverse_reverse, List.filter_map, List.map_map]
  split_ifs with h
  · subst h
    simp [Function.comp_def]
  · simp [Function.comp_def, Ne.symm h]

/-- A fix-up leaves holders and vendors alone. -/
lemma Sound.sameRecords_fixUp (h : p.Sound) (t : TableId) : p.SameRecords (p.fixUp t) := by
  intro u
  rw [table?_fixUp]
  split_ifs
  · cases hr : p.table? u with
    | none => rfl
    | some r =>
        obtain ⟨-, -, hprovide, -⟩ := (h.follows u r hr).fixUp h.registry
        simp only [Option.map_some, blank, hprovide]
  · rfl

/-- A fix-up asks for names in the order of slots, of its table alone. -/
lemma Sound.sound_fixUp (h : p.Sound) {r : TableRecord φ} (hr : p.table? t = some r) :
    (p.fixUp t).Sound := by
  -- the table itself catches up with the registry
  obtain ⟨hfollows, hdone, -, hasked⟩ := (h.follows t r hr).fixUp h.registry
  refine ⟨?_, fun u v hv => ?_, fun u v hv => ?_, fun u hu => ?_, fun u hu => ?_⟩
  · rw [registry_fixUp]
    exact h.registry
  · rw [registry_fixUp]
    rw [table?_fixUp] at hv
    split_ifs at hv with hu
    · subst hu
      rw [hr] at hv
      cases hv
      exact hfollows
    · exact h.follows u v hv
  · -- its vendor is asked for what is missing, and no other one
    rw [registry_fixUp, questionsTo_fixUp hr]
    rw [table?_fixUp] at hv
    split_ifs at hv ⊢ with hu
    · subst hu
      rw [hr] at hv
      cases hv
      have hall : p.registry.names.toList.take p.registry.size = p.registry.names.toList :=
        List.take_length
      rw [h.questions u r hr, hasked, List.take_append_drop, hdone, hall]
    · rw [List.append_nil]
      exact h.questions u v hv
  · rw [table?_fixUp] at hu
    split_ifs at hu with heq
    · rw [heq, hr] at hu
      cases hu
    · rw [questionsTo_fixUp hr, if_neg heq, List.append_nil]
      exact h.unasked u hu
  · rw [tracked_fixUp]
    rw [(h.sameRecords_fixUp t).isAlive] at hu
    exact h.tracked u hu

/-- After a fix-up, its table has been asked for every name. -/
lemma Sound.upToDate_fixUp (h : p.Sound) {r : TableRecord φ} (hr : p.table? t = some r) :
    (p.fixUp t).UpToDate t := by
  rw [UpToDate, registry_fixUp]
  exact ⟨_, by rw [table?_fixUp, if_pos rfl, hr]; rfl, ((h.follows t r hr).fixUp h.registry).2.1⟩

/-- A fix-up leaves the other tables alone. -/
lemma Sound.resolves_fixUp (h : p.Sound) (t : TableId) : p.Resolves (p.fixUp t) := by
  cases hr : p.table? t with
  | none =>
      have hsame : p.fixUp t = p := by rw [fixUp, hr]
      rw [hsame]
      exact h.resolves_self
  | some r =>
      refine ⟨h.sound_fixUp hr, registry_fixUp p t, threads_fixUp p t, h.sameRecords_fixUp t, ?_⟩
      rintro u ⟨v, hv, hsize⟩
      by_cases hu : u = t
      · rw [hu]
        exact h.upToDate_fixUp hr
      · rw [UpToDate, registry_fixUp, table?_fixUp, if_neg hu]
        exact ⟨v, hv, hsize⟩

/-- Fix-ups of several tables bring all of them up to date. -/
lemma Sound.resolves_fixUpEach (h : p.Sound) (ts : List TableId) :
    p.Resolves (ts.foldl fixUp p) ∧
      ∀ t ∈ ts, ∀ r, p.table? t = some r → (ts.foldl fixUp p).UpToDate t := by
  induction ts generalizing p with
  | nil => exact ⟨h.resolves_self, fun t ht => absurd ht List.not_mem_nil⟩
  | cons u ts ih =>
      have hfirst := h.resolves_fixUp u
      obtain ⟨hrest, heach⟩ := ih hfirst.sound
      refine ⟨hfirst.trans hrest, fun t ht r hr => ?_⟩
      rcases List.mem_cons.mp ht with rfl | ht
      · exact hrest.upToDate t (h.upToDate_fixUp hr)
      · obtain ⟨r', hr', -⟩ := hfirst.records.table hr
        exact heach t ht r' hr'

/-! ### New tables and new names -/

/-- The names, the tables and the questions are the same. -/
structure SameTables (p q : Switchboard φ) : Prop where
  registry : q.registry = p.registry
  tables : q.tables = p.tables
  tracked : q.tracked = p.tracked
  asked : q.asked = p.asked

lemma SameTables.table? (h : p.SameTables q) : q.table? = p.table? := by
  funext t
  rw [Switchboard.table?, Switchboard.table?, h.tables]

/-- What is up to date depends on tables and names only. -/
lemma SameTables.upToDate_iff (h : p.SameTables q) : q.UpToDate t ↔ p.UpToDate t := by
  rw [UpToDate, UpToDate, h.table?, h.registry]

/-- The same tables have the same holders. -/
lemma SameTables.sameHolders (h : p.SameTables q) : p.SameHolders q := by
  have hsame : p.SameRecords q := fun t => by rw [h.table?]
  exact hsame.sameHolders

/-- What is said of tables holds of the same tables. -/
lemma SameTables.sound (h : p.SameTables q) (hp : p.Sound) : q.Sound := by
  have hquestions : q.questionsTo = p.questionsTo := by
    funext t
    rw [questionsTo, questionsTo, h.asked]
  have halive : q.isAlive = p.isAlive := by
    funext t
    rw [isAlive, isAlive, h.table?]
  constructor
  · rw [h.registry]
    exact hp.registry
  · rw [h.table?, h.registry]
    exact hp.follows
  · rw [h.table?, h.registry, hquestions]
    exact hp.questions
  · rw [h.table?, hquestions]
    exact hp.unasked
  · rw [halive, h.tracked]
    exact hp.tracked

/-- What an operation did to tables, it did also if something else happened besides. -/
lemma Advances.of_sameTables {v : Switchboard φ} (h : p.Advances q) (hv : q.SameTables v) :
    p.Advances v where
  sound := hv.sound h.sound
  table := by
    rw [hv.table?]
    exact h.table
  upToDate t halive ht := hv.upToDate_iff.mpr (h.upToDate t halive ht)

/-- A new table is added behind the others. -/
lemma table?_createTable (p : Switchboard φ) (provide : Nat → String → Option φ) (u : TableId) :
    (p.createTable provide).2.table? u =
      if u = (p.createTable provide).1 then some { table := .new provide } else p.table? u := by
  by_cases h : u = (p.createTable provide).1
  · rw [if_pos h, h]
    exact List.getElem?_concat_length
  · have hne : u.index ≠ p.tables.length := fun hi => h (congrArg TableId.mk hi)
    rw [if_neg h]
    rcases Nat.lt_or_gt_of_ne hne with hlt | hgt
    · exact List.getElem?_append_left hlt
    · have hold : p.table? u = none := List.getElem?_eq_none (Nat.le_of_lt hgt)
      rw [hold]
      refine List.getElem?_eq_none ?_
      rw [createTable, List.length_append, List.length_singleton]
      exact hgt

/-- Its number was unused. -/
lemma table?_fst_createTable (p : Switchboard φ) (provide : Nat → String → Option φ) :
    p.table? (p.createTable provide).1 = none :=
  List.getElem?_eq_none (Nat.le_refl _)

/-- Nobody else gains or loses holders by it. -/
lemma tally_createTable (p : Switchboard φ) (provide : Nat → String → Option φ)
    {field : TableRecord φ → Nat} (hfield : field { table := .new provide } = 0) (t : TableId) :
    (p.createTable provide).2.tally field t = p.tally field t := by
  rw [tally, tally, table?_createTable]
  split_ifs with ht
  · rw [ht, p.table?_fst_createTable provide]
    exact hfield
  · rfl

lemma sameHolders_createTable (p : Switchboard φ) (provide : Nat → String → Option φ) :
    p.SameHolders (p.createTable provide).2 :=
  ⟨p.tally_createTable provide rfl, p.tally_createTable provide rfl⟩

/-- A new table is tracked from the start. Those that are no longer tracked then are dead. -/
lemma Sound.advances_createTable (h : p.Sound) (provide : Nat → String → Option φ) :
    p.Advances (p.createTable provide).2 := by
  have hnone := p.table?_fst_createTable provide
  -- the new table has a number of its own
  have hold : ∀ u r, p.table? u = some r → (p.createTable provide).2.table? u = some r := by
    intro u r hr
    rw [table?_createTable, if_neg, hr]
    rintro rfl
    rw [hnone] at hr
    cases hr
  refine ⟨⟨h.registry, fun u r hr => ?_, fun u r hr => ?_, fun u hu => ?_, fun u hu => ?_⟩,
    fun u r hr => ⟨r, hold u r hr, rfl⟩, ?_⟩
  · rw [table?_createTable] at hr
    split_ifs at hr with hnew
    · cases hr
      exact DispatchTable.follows_new provide p.registry
    · exact h.follows u r hr
  · rw [table?_createTable] at hr
    split_ifs at hr with hnew
    · cases hr
      exact h.unasked u (hnew ▸ hnone)
    · exact h.questions u r hr
  · rw [table?_createTable] at hu
    split_ifs at hu with hnew
    exact h.unasked u hu
  · rw [isAlive, table?_createTable] at hu
    refine List.mem_append.mpr ?_
    split_ifs at hu with hnew
    · -- a table that is alive is the new one, or was tracked and is not forgotten
      exact .inr (List.mem_singleton.mpr hnew)
    · exact .inl (List.mem_filter.mpr ⟨h.tracked u hu, hu⟩)
  · rintro u - ⟨r, hr, hdone⟩
    exact ⟨r, hold u r hr, hdone⟩

/-- Either nothing happens, or a new name is looked up in the tables that somebody keeps alive, and
the others are forgotten. -/
lemma assign_cases (p : Switchboard φ) (name : String) :
    (p.assign name).2 = p ∨
      p.registry.lookup name = none ∧ isEntryPointName name = true ∧
        p.registry.size < p.registry.capacity ∧
        (p.assign name).2 = p.liveTracked.foldl fixUp { p with
          registry := p.registry.add name
          tracked := p.liveTracked } := by
  rw [Switchboard.assign]
  split
  · exact .inl rfl
  · next s registry hassign =>
    rcases SlotRegistry.assign_eq_ok hassign with rfl | ⟨hnew, hname, hroom, rfl⟩
    · rw [if_neg (Nat.lt_irrefl _)]
      exact .inl rfl
    · have hgrows : p.registry.size < (p.registry.add name).size := by
        rw [SlotRegistry.size_add]
        exact Nat.lt_succ_self _
      rw [if_pos hgrows]
      exact .inr ⟨hnew, hname, hroom, rfl⟩

/-- A new name is looked up in every table that somebody keeps alive. -/
lemma Sound.assign (h : p.Sound) (name : String) :
    p.Advances (p.assign name).2 ∧ p.SameHolders (p.assign name).2 ∧
      (p.assign name).2.threads = p.threads := by
  rcases p.assign_cases name with hsame | ⟨-, hname, hroom, hassign⟩
  · rw [hsame]
    exact ⟨h.advances_self, ⟨fun _ => rfl, fun _ => rfl⟩, rfl⟩
  · -- The name is known and dead tables are forgotten, but no table has been asked for it.
    have hknown : Sound { p with
        registry := p.registry.add name
        tracked := p.liveTracked } := by
      refine ⟨h.registry.add hname hroom, fun u r hr => (h.follows u r hr).add name,
        fun u r hr => ?_, h.unasked, fun u hu => List.mem_filter.mpr ⟨h.tracked u hu, hu⟩⟩
      have hle : r.table.resolved ≤ p.registry.names.toList.length := (h.follows u r hr).le
      rw [SlotRegistry.names_add, Array.toList_push, List.take_append_of_le_length hle]
      exact h.questions u r hr
    obtain ⟨hresolves, heach⟩ := hknown.resolves_fixUpEach p.liveTracked
    have hholders := hresolves.records.sameHolders
    rw [hassign]
    refine ⟨⟨hresolves.sound, fun u r hr => hresolves.records.table hr, ?_⟩,
      ⟨hholders.users, hholders.owners⟩, hresolves.threads⟩
    rintro u halive ⟨r, hr, -⟩
    exact heach u (List.mem_filter.mpr ⟨h.tracked u halive, halive⟩) r hr

/-- The stub of a name changes nothing about names and tables. -/
lemma sameTables_entryPoint (p : Switchboard φ) (name : String) :
    (p.assign name).2.SameTables (p.entryPoint name).2 ∧
      (p.entryPoint name).2.threads = (p.assign name).2.threads := by
  rw [Switchboard.entryPoint]
  rcases p.assign name with ⟨_ | s, q⟩
  · exact ⟨⟨rfl, rfl, rfl, rfl⟩, rfl⟩
  · dsimp only
    split
    · exact ⟨⟨rfl, rfl, rfl, rfl⟩, rfl⟩
    · split <;> exact ⟨⟨rfl, rfl, rfl, rfl⟩, rfl⟩

/-! ### The start -/

/-- At the start there are names and perhaps stubs, and nothing else. -/
lemma eq_of_start {registry : SlotRegistry} {region : Option StubRegion}
    (started : start registry region = .ok p) : ∃ region, p = { registry, region } := by
  cases region with
  | none =>
      cases started
      exact ⟨none, rfl⟩
  | some first =>
      rw [start] at started
      cases hregion : first.generateAll ((registry.slotsFrom 0).map Prod.fst) with
      | error e =>
          rw [hregion] at started
          cases started
      | ok region =>
          rw [hregion] at started
          cases started
          exact ⟨some region, rfl⟩

/-- The switchboard is sound from the start. -/
lemma sound_of_start {names : List String} {region : Option StubRegion}
    (started : start (.ofKnown maxSlots names) region = .ok p) : p.Sound := by
  obtain ⟨region, rfl⟩ := eq_of_start started
  exact {
    registry := SlotRegistry.valid_ofKnown names
    follows := fun T r hr => by cases hr
    questions := fun T r hr => by cases hr
    unasked := fun T _ => rfl
    tracked := fun T hT => by cases hT }

end VendorDispatch.Switchboard
