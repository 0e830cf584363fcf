import VendorDispatch.Proofs.Latch

/-!
The table that is current on a thread is the one that the thread keeps alive, and every table that
somebody keeps alive is tracked.

* `Crew.board_turn_cases`: a thread that takes its turn performs one action at most.
* `Switchboard.TrackedOnce`: every tracked table exists and is tracked once.
  `Switchboard.Prunes`: only new tables are added to those that are tracked, and only dead ones are
  left out. Every action does no more than that (`prunes_perform`).
* `Crew.not_isAlive_of_untracked`: a table that is left out is dead for good.
* `Crew.Coherent`, `current_tables_are_kept`: what is true wherever threads get.
-/

namespace VendorDispatch

variable {φ : Type} {t : ThreadId} {T : TableId}

/-! ### Which tables are tracked -/

namespace Switchboard

variable {p q v : Switchboard φ}

/-- Every tracked table exists, and is tracked once. -/
structure TrackedOnce (p : Switchboard φ) : Prop where
  nodup : p.tracked.Nodup
  made : ∀ T ∈ p.tracked, T.index < p.tables.length

/-- No table is lost, only new ones are added to those that are tracked, and only dead ones are left
out. -/
structure Prunes (p q : Switchboard φ) : Prop where
  length : p.tables.length ≤ q.tables.length
  kept : ∀ T ∈ p.tracked, p.isAlive T = true → T ∈ q.tracked
  old : ∀ T ∈ q.tracked, T ∈ p.tracked ∨ p.tables.length ≤ T.index
  once : p.TrackedOnce → q.TrackedOnce

/-- The same tables are tracked. -/
lemma prunes_of_tracked (htracked : q.tracked = p.tracked)
    (hlength : q.tables.length = p.tables.length) : p.Prunes q where
  length := Nat.le_of_eq hlength.symm
  kept _ hT _ := htracked ▸ hT
  old _ hT := .inl (htracked ▸ hT)
  once h := ⟨htracked ▸ h.nodup, fun T hT => hlength ▸ h.made T (htracked ▸ hT)⟩

/-- Dead tables are left out. -/
lemma prunes_of_liveTracked (htracked : q.tracked = p.liveTracked)
    (hlength : q.tables.length = p.tables.length) : p.Prunes q where
  length := Nat.le_of_eq hlength.symm
  kept T hT halive := by
    rw [htracked]
    exact List.mem_filter.mpr ⟨hT, halive⟩
  old T hT := by
    rw [htracked] at hT
    exact .inl (List.mem_filter.mp hT).1
  once h := by
    refine ⟨by rw [htracked]; exact h.nodup.filter _, fun T hT => ?_⟩
    rw [htracked] at hT
    rw [hlength]
    exact h.made T (List.mem_filter.mp hT).1

/-- A new table is added, and dead ones are left out. -/
lemma prunes_createTable (p : Switchboard φ) (provide : Nat → String → Option φ) :
    p.Prunes (p.createTable provide).2 where
  length := by
    rw [createTable, List.length_append]
    exact Nat.le_add_right _ _
  kept T hT halive := List.mem_append_left _ (List.mem_filter.mpr ⟨hT, halive⟩)
  old T hT := by
    rcases List.mem_append.mp hT with hT | hT
    · exact .inl (List.mem_filter.mp hT).1
    · obtain rfl := List.mem_singleton.mp hT
      exact .inr (Nat.le_refl _)
  once h := by
    constructor
    · -- the new table has the next number, which none before it has
      refine List.nodup_append.mpr ⟨h.nodup.filter _, List.nodup_singleton _, fun T hT S hS => ?_⟩
      obtain rfl := List.mem_singleton.mp hS
      rintro rfl
      exact Nat.lt_irrefl _ (h.made _ (List.mem_filter.mp hT).1)
    · intro T hT
      rw [createTable, List.length_append, List.length_singleton]
      rcases List.mem_append.mp hT with hT | hT
      · exact Nat.lt_succ_of_lt (h.made T (List.mem_filter.mp hT).1)
      · obtain rfl := List.mem_singleton.mp hT
        exact Nat.lt_succ_self _

lemma prunes_assign (p : Switchboard φ) (name : String) : p.Prunes (p.assign name).2 := by
  rcases p.assign_cases name with hsame | ⟨-, -, -, hassign⟩
  · rw [hsame]
    exact prunes_of_tracked rfl rfl
  · rw [hassign]
    exact prunes_of_liveTracked (fixUpEach_eq tracked_fixUp _ _)
      (fixUpEach_eq (f := fun p => p.tables.length) length_tables_fixUp _ _)

/-- Every action leaves out dead tables only. -/
theorem prunes_perform (p : Switchboard φ) (a : Action φ) : p.Prunes (a.perform p).2 := by
  cases a with
  | assign name => exact p.prunes_assign name
  | entryPoint name =>
      -- to make a stub is to assign the name, as far as tables are concerned
      obtain ⟨same, -⟩ := p.sameTables_entryPoint name
      obtain ⟨length, kept, old, once⟩ := p.prunes_assign name
      have htracked : (p.entryPoint name).2.tracked = (p.assign name).2.tracked := same.tracked
      have htables : (p.entryPoint name).2.tables = (p.assign name).2.tables := same.tables
      rw [← htracked] at kept old
      rw [← htables] at length
      refine ⟨length, kept, old, fun h => ⟨?_, ?_⟩⟩
      · exact htracked ▸ (once h).nodup
      · exact htables ▸ htracked ▸ (once h).made
  | createTable provide => exact p.prunes_createTable provide
  | fixUp T => exact prunes_of_tracked (p.tracked_fixUp T) (p.length_tables_fixUp T)
  | takeHandle T | dropHandle T | beginUse T | endUse T | releaseOwner T =>
      exact prunes_of_tracked rfl (List.length_modify _ _ _)
  | replaceOwner v new =>
      cases new with
      | none => exact prunes_of_tracked rfl rfl
      | some T => exact prunes_of_tracked rfl (List.length_modify _ _ _)
  | _ => exact prunes_of_tracked rfl rfl

/-- What a thread is told when it asks for its current table and is not interrupted. -/
lemma call_getCurrent (p : Switchboard φ) (t : ThreadId) :
    (p.call t .getCurrent).1 = (p.threads t).cell.table? := by
  rw [← (threads_countThread p t t).1]
  refine (congrArg Prod.fst (Task.run_bind (Facade.countThread t) _ p)).trans ?_
  generalize ((Facade.countThread t).run p).2 = q
  simp only [Task.perform, Bind.bind, Task.bind, Task.run, Action.perform]
  cases (q.threads t).cell <;> rfl

end Switchboard

/-! ### Wherever threads get -/

namespace Crew

variable {b c d e : Crew φ}

/-- A thread that takes its turn performs one action at most. -/
lemma board_turn_cases (c : Crew φ) (t : ThreadId) :
    (c.turn t).board = c.board ∨ ∃ a : Action φ, (c.turn t).board = (a.perform c.board).2 := by
  cases htask : c.tasks t with
  | done => exact .inl (congrArg board (turn_of_done htask))
  | act a next => exact .inr ⟨a, board_turn htask⟩

lemma Step.prunes (s : Step c d) : c.board.Prunes d.board := by
  have turned (c : Crew φ) (t : ThreadId) : c.board.Prunes (c.turn t).board := by
    rcases c.board_turn_cases t with hsame | ⟨a, ha⟩
    · rw [hsame]
      exact Switchboard.prunes_of_tracked rfl rfl
    · rw [ha]
      exact c.board.prunes_perform a
  cases s with
  | turn t => exact turned c t
  | @start t call =>
      exact turned ((c.ending t call.isLast).assign t ((call.task t).bind fun _ => .done ())) t

lemma Leads.trackedOnce (k : Leads b c) (h : b.board.TrackedOnce) : c.board.TrackedOnce :=
  k.keeps (P := fun c => c.board.TrackedOnce) (fun _ _ hc s => s.prunes.once hc) h

/-- A table that is left out is dead for good. -/
lemma not_isAlive_of_untracked (k : Leads d e) (sane : d.Sane) (hT : T.index < d.board.tables.length)
    (untracked : T ∉ d.board.tracked) : e.board.isAlive T = false := by
  have old : T.index < e.board.tables.length ∧ T ∉ e.board.tracked := by
    refine k.keeps (P := fun e => T.index < e.board.tables.length ∧ T ∉ e.board.tracked)
      (fun c d hc s => ⟨Nat.lt_of_lt_of_le hc.1 s.prunes.length, fun hd => ?_⟩) ⟨hT, untracked⟩
    rcases s.prunes.old T hd with hold | hnew
    · exact hc.2 hold
    · exact Nat.not_lt.mpr hnew hc.1
  obtain ⟨grip, g, -⟩ := (sane.leads k).1
  rw [← Bool.not_eq_true]
  exact fun halive => old.2 (g.sound.tracked T halive)

/-- What is true of threads at work, wherever they get. -/
structure Coherent (c : Crew φ) : Prop where
  /-- Between its calls, the table that a thread is told to be current is the one that it keeps
  alive. -/
  current : ∀ t, c.tasks t = .done () → c.ended t = false →
    (c.board.call t .getCurrent).1 = Facade.currentTable c.board t
  /-- The table that the cell of a thread names is alive, also in the middle of a call. -/
  reached : ∀ t T, c.ended t = false → (c.board.threads t).cell = .vendor T →
    c.board.isAlive T = true
  /-- A table that a thread keeps alive is alive. -/
  owned : ∀ t T, Facade.currentTable c.board t = some T → c.board.isAlive T = true
  /-- A table that is alive is tracked, and once. -/
  tracked : ∀ T, c.board.isAlive T = true → c.board.tracked.count T = 1
  /-- A table that a step leaves out was dead before the step, and stays dead. -/
  kept : ∀ d, Step c d → ∀ T ∈ c.board.tracked, T ∉ d.board.tracked →
    c.board.isAlive T = false ∧ ∀ e, Leads d e → e.board.isAlive T = false

/-- Whatever threads do, the table that is current on a thread is the one that it keeps alive, and
every table that somebody keeps alive is tracked. -/
theorem current_tables_are_kept {names : List String} {region : Option StubRegion}
    {p : Switchboard φ} (started : Switchboard.start (.ofKnown maxSlots names) region = .ok p)
    (leads : Leads { board := p } c) : c.Coherent := by
  have sane : c.Sane := ((sane_start started).leads leads).1
  have once : c.board.TrackedOnce := by
    obtain ⟨region, rfl⟩ := Switchboard.eq_of_start started
    exact leads.trackedOnce ⟨List.nodup_nil, fun T hT => absurd hT List.not_mem_nil⟩
  obtain ⟨grip, g, hnone⟩ := sane
  refine ⟨fun t idle running => ?current, fun t T running hcell => ?reached, fun t T howner => ?owned,
    fun T halive => ?tracked, fun d s T hT huntracked => ⟨?dead, fun e k => ?forever⟩⟩
  case current =>
    have hidle : (grip t).Idle := by
      have h := g.tasks t
      rwa [idle] at h
    have hrunning : (grip t).last = false := (g.last t).trans running
    rw [Switchboard.call_getCurrent, Facade.currentTable, (g.shows t).cell, (g.shows t).owner]
    cases howner : (grip t).owner with
    | some T =>
        rw [hidle.owned hrunning T howner]
        rfl
    | none =>
        cases hcell : (grip t).cell with
        | noop => rfl
        | vendor T =>
            -- A thread between calls uses no table, so it would have to own this one.
            rcases hidle.covered hrunning T hcell with hk | ⟨hk, -⟩
            · cases howner.symm.trans hk
            · cases hidle.use.symm.trans hk
  case reached =>
    exact g.isAlive (g.covered t ((g.last t).trans running) T ((g.shows t).cell.symm.trans hcell))
  case owned => exact g.isAlive (.inl ((g.shows t).owner.symm.trans howner))
  case tracked => exact List.count_eq_one_of_mem once.nodup (g.sound.tracked T halive)
  case dead =>
    rw [← Bool.not_eq_true]
    exact fun halive => huntracked (s.prunes.kept T hT halive)
  case forever =>
    have hlength := Nat.lt_of_lt_of_le (once.made T hT) s.prunes.length
    exact not_isAlive_of_untracked k (Sane.step ⟨grip, g, hnone⟩ s).1 hlength huntracked

/-- The thread that has made its table current drops its handle on it. -/
def handleDropped : Crew Nat :=
  tableCurrent.onBoard (tableCurrent.board.call ⟨0⟩ (.dropHandle ⟨0⟩)).2

theorem current_tables_are_kept_dropped :
    Switchboard.start (.ofKnown maxSlots ["glClear"]) none =
        .ok ({ registry := .ofKnown maxSlots ["glClear"], region := none } : Switchboard Nat) ∧
      Leads { board := { registry := .ofKnown maxSlots ["glClear"], region := none } }
        handleDropped ∧
      handleDropped.board.handlesOn ⟨0⟩ = 0 ∧ handleDropped.board.isAlive ⟨0⟩ = true ∧
      handleDropped.board.tracked.count ⟨0⟩ = 1 ∧
      (handleDropped.board.call ⟨0⟩ .getCurrent).1 = Facade.currentTable handleDropped.board ⟨0⟩ := by
  have started : Switchboard.start (.ofKnown maxSlots ["glClear"]) none =
      .ok ({ registry := .ofKnown maxSlots ["glClear"], region := none } : Switchboard Nat) := rfl
  have held : tableMade.board.Admits (.makeCurrent ⟨0⟩) := by
    rw [Switchboard.Admits]
    decide +kernel
  have held' : tableCurrent.board.Admits (.dropHandle ⟨0⟩) := by
    rw [Switchboard.Admits]
    decide +kernel
  have made : Step { board := { registry := .ofKnown maxSlots ["glClear"], region := none } }
      tableMade := @Step.start _ _ ⟨0⟩ (.createTable fun n _ => some n) rfl rfl trivial
  have current : Leads tableMade tableCurrent := leads_call_of_not_isLast rfl rfl held rfl
  have dropped : Leads tableCurrent handleDropped := leads_call_of_not_isLast rfl rfl held' rfl
  have leads := ((Leads.refl _).step made).trans (current.trans dropped)
  have coherent := current_tables_are_kept started leads
  have owner : Facade.currentTable handleDropped.board ⟨0⟩ = some ⟨0⟩ := by decide +kernel
  have alive := coherent.owned ⟨0⟩ ⟨0⟩ owner
  exact ⟨started, leads, by decide +kernel, alive, coherent.tracked ⟨0⟩ alive,
    coherent.current ⟨0⟩ rfl rfl⟩

end Crew

end VendorDispatch
