import Mathlib.Algebra.BigOperators.Group.Finset.Piecewise
import VendorDispatch.Proofs.Grip
import VendorDispatch.Switchboard.Interleaving

/-!
A current table reaches every name that has a slot, whatever threads do.

* `Backed`: a count covers what all threads together hold.
* `Crew.Guarded`: what is true of threads at work, together with what each of them holds on to. It
  survives every action of a safe task (`Guarded.act`), and so every step and every run of several
  steps (`Sane.step`, `Sane.leads`).
* `current_reaches_every_name`: what a look-up finds on a thread whose current table is a vendor's.
-/

namespace VendorDispatch

variable {φ : Type} {t : ThreadId} {T : TableId}

/-! ### Counts -/

/-- The count covers what any number of threads hold together. -/
def Backed (count : Nat) (held : ThreadId → Nat) : Prop :=
  ∀ threads : Finset ThreadId, ∑ t ∈ threads, held t ≤ count

section Backed

variable {n m : Nat} {held : ThreadId → Nat}

lemma Backed.le (h : Backed n held) (t : ThreadId) : held t ≤ n := by
  have hone := h {t}
  rwa [Finset.sum_singleton] at hone

/-- One thread holds on to something else, and the count follows. -/
lemma Backed.update {grip : ThreadId → Grip} {k : Grip} (f : Grip → Nat)
    (h : Backed n fun u => f (grip u)) (hk : n + f k ≤ m + f (grip t)) :
    Backed m fun u => f (Function.update grip t k u) := by
  intro threads
  simp only [Function.apply_update (fun _ => f) grip t k]
  -- What the other threads hold together with `t` is covered, so what they hold alone leaves room.
  have hrest := h (insert t (threads \ {t}))
  rw [Finset.sum_insert (by simp)] at hrest
  by_cases ht : t ∈ threads
  · rw [Finset.sum_update_of_mem ht]
    omega
  · rw [Finset.sum_update_of_notMem ht]
    rw [Finset.sdiff_singleton_eq_erase, Finset.erase_eq_of_notMem ht] at hrest
    omega

lemma backed_zero : Backed n fun _ => 0 := by
  intro threads
  rw [Finset.sum_const_zero]
  exact Nat.zero_le n

end Backed

/-! ### What a thread sees of its own state -/

namespace Switchboard

variable {p q : Switchboard φ} {grip : ThreadId → Grip} {k : Grip} {a : Action φ}

/-- What a thread holds on to is what its state says. -/
structure Shows (p : Switchboard φ) (t : ThreadId) (h : Grip) : Prop where
  cell : (p.threads t).cell = h.cell
  owner : (p.threads t).owner = h.owner

lemma threads_modifyThread (p : Switchboard φ) (t : ThreadId) (f : ThreadState → ThreadState)
    (u : ThreadId) :
    (p.modifyThread t f).threads u = if u = t then f (p.threads t) else p.threads u :=
  rfl

/-- One thread's state changes. -/
lemma shows_modifyThread (shows : ∀ u, p.Shows u (grip u)) {f : ThreadState → ThreadState}
    (hf : (f (p.threads t)).cell = k.cell ∧ (f (p.threads t)).owner = k.owner) :
    ∀ u, (p.modifyThread t f).Shows u (Function.update grip t k u) := by
  refine (Function.forall_update_iff grip fun u h => (p.modifyThread t f).Shows u h).mpr
    ⟨?_, fun u hu => ?_⟩
  · have hself : (p.modifyThread t f).threads t = f (p.threads t) := by
      rw [threads_modifyThread, if_pos rfl]
    exact ⟨by rw [hself, hf.1], by rw [hself, hf.2]⟩
  · have hother : (p.modifyThread t f).threads u = p.threads u := by
      rw [threads_modifyThread, if_neg hu]
    exact ⟨by rw [hother, (shows u).cell], by rw [hother, (shows u).owner]⟩

/-- No thread's state changes. -/
lemma shows_of_threads (shows : ∀ u, p.Shows u (grip u)) (same : q.threads = p.threads)
    (hcell : k.cell = (grip t).cell) (howner : k.owner = (grip t).owner) :
    ∀ u, q.Shows u (Function.update grip t k u) := by
  refine (Function.forall_update_iff grip fun u h => q.Shows u h).mpr ⟨?_, fun u _ => ?_⟩
  · exact ⟨by rw [same, hcell, (shows t).cell], by rw [same, howner, (shows t).owner]⟩
  · exact ⟨by rw [same, (shows u).cell], by rw [same, (shows u).owner]⟩

/-- An action changes the state of the thread that performs it as the thread expects, and of no
other. -/
lemma Sound.shows_perform (hp : p.Sound) (shows : ∀ u, p.Shows u (grip u))
    (allowed : (grip t).Allows t a) :
    ∀ u, (a.perform p).2.Shows u (Function.update grip t ((grip t).after a) u) := by
  -- All but three actions leave the states of threads alone.
  have still : ∀ k, (a.perform p).2.threads = p.threads → k.cell = (grip t).cell →
      k.owner = (grip t).owner → ∀ u, (a.perform p).2.Shows u (Function.update grip t k u) :=
    fun _ => shows_of_threads shows
  cases a with
  | swapSeen v =>
      cases allowed
      exact shows_modifyThread (k := (grip t).settled) (f := fun s => { s with seen := true })
        shows ⟨(shows t).cell, (shows t).owner⟩
  | storeCell v table =>
      cases allowed
      exact shows_modifyThread (k := { (grip t).settled with cell := table })
        (f := fun s => { s with cell := table }) shows ⟨rfl, (shows t).owner⟩
  | replaceOwner v new =>
      obtain ⟨rfl, -⟩ := allowed
      have h := shows_modifyThread (k := (grip v).after (.replaceOwner v new : Action φ))
        (f := fun s => { s with owner := new }) shows ⟨(shows v).cell, rfl⟩
      cases new <;> exact fun u => ⟨(h u).cell, (h u).owner⟩
  | assign name => exact still _ (hp.assign name).2.2 rfl rfl
  | entryPoint name =>
      exact still _ ((p.sameTables_entryPoint name).2.trans (hp.assign name).2.2) rfl rfl
  | fixUp S => exact still _ (p.threads_fixUp S) rfl rfl
  | _ => exact still _ rfl rfl rfl

/-- What a thread foresees is what it is told. -/
lemma foresees_perform {h : Grip} (shows : p.Shows t h) (allowed : h.Allows t a) :
    h.Foresees a (a.perform p).1 := by
  cases a with
  | loadCell v =>
      cases allowed
      exact shows.cell
  | replaceOwner v new =>
      obtain ⟨rfl, -⟩ := allowed
      exact shows.owner
  | _ => trivial

end Switchboard

/-! ### Threads at work -/

namespace Crew

variable {c d : Crew φ} {grip : ThreadId → Grip}

/-- What is true of threads at work, together with what each of them holds on to. -/
structure Guarded (c : Crew φ) (grip : ThreadId → Grip) : Prop where
  sound : c.board.Sound
  shows : ∀ t, c.board.Shows t (grip t)
  last : ∀ t, (grip t).last = c.ended t
  covered : ∀ t, (grip t).Covered
  users : ∀ T, Backed (c.board.usersOf T) fun t => (grip t).uses T
  owners : ∀ T, Backed (c.board.ownersOf T) fun t => (grip t).owns T
  ready : ∀ t T, (grip t).Keeps T → c.board.UpToDate T
  tasks : ∀ t, (c.tasks t).Safe t (fun _ k => k.Idle) (grip t)

/-- What a thread keeps is alive. -/
lemma Guarded.isAlive (g : c.Guarded grip) (hk : (grip t).Keeps T) : c.board.isAlive T = true :=
  Switchboard.isAlive_of_keeps ((g.users T).le t) ((g.owners T).le t) hk

/-- One thread holds on to something else, and has something else to do. -/
lemma safe_assign (tasks : ∀ u, (c.tasks u).Safe u (fun _ h => h.Idle) (grip u))
    {task : Task φ Unit} {k : Grip} (safe : task.Safe t (fun _ h => h.Idle) k) (u : ThreadId) :
    ((c.assign t task).tasks u).Safe u (fun _ h => h.Idle) (Function.update grip t k u) := by
  by_cases hu : u = t
  · subst hu
    rwa [tasks_assign, Function.update_self]
  · have hother : (c.assign t task).tasks u = c.tasks u := if_neg hu
    rw [hother, Function.update_of_ne hu]
    exact tasks u

/-- A thread performs an action of a safe task. -/
lemma Guarded.act (g : c.Guarded grip) {a : Action φ} {next : a.Answer → Task φ Unit}
    (task : c.tasks t = .act a next)
    (handle : ∀ T, (grip t).handle = some T → 0 < c.board.handlesOn T) :
    (c.turn t).Guarded (Function.update grip t ((grip t).after a)) ∧
      c.board.Advances (c.turn t).board := by
  have safe := g.tasks t
  rw [task] at safe
  obtain ⟨allowed, covered, rest⟩ := safe
  have backs : c.board.Backs (grip t) :=
    ⟨handle, fun T => (g.users T).le t, fun T => (g.owners T).le t⟩
  have moves := g.sound.moves_perform backs allowed
  have hturn : c.turn t =
      (c.assign t (next (a.perform c.board).1)).onBoard (a.perform c.board).2 := by
    rw [turn, task]
  rw [hturn]
  refine ⟨⟨moves.advances.sound, g.sound.shows_perform g.shows allowed, ?last, ?covered, ?users,
    ?owners, ?ready, ?tasks⟩, moves.advances⟩
  case last =>
    exact (Function.forall_update_iff grip fun u k => k.last = c.ended u).mpr
      ⟨((grip t).last_after a).trans (g.last t), fun u _ => g.last u⟩
  case covered =>
    exact (Function.forall_update_iff grip fun _ k => k.Covered).mpr
      ⟨covered, fun u _ => g.covered u⟩
  case users => exact fun T => (g.users T).update (fun k => k.uses T) (moves.users T)
  case owners => exact fun T => (g.owners T).update (fun k => k.owns T) (moves.owners T)
  case ready =>
    refine (Function.forall_update_iff grip fun _ k =>
      ∀ T, k.Keeps T → (a.perform c.board).2.UpToDate T).mpr ⟨fun T hk => ?_, fun u _ T hk => ?_⟩
    · exact g.sound.upToDate_perform backs allowed (g.ready t) hk
    -- Another thread's table stays up to date because that thread keeps it alive.
    · exact moves.advances.upToDate T (g.isAlive hk) (g.ready u T hk)
  case tasks =>
    exact safe_assign g.tasks (rest _ (Switchboard.foresees_perform (g.shows t) allowed))

/-- Every call begins with an action. -/
lemma exists_act (t : ThreadId) (call : Call φ) :
    ∃ (a : Action φ) (next : a.Answer → Task φ Unit),
      ((call.task t).bind fun _ => .done ()) = .act a next := by
  cases call <;> exact ⟨_, _, rfl⟩

/-- A thread that may make a call makes it. -/
lemma Guarded.begin (g : c.Guarded grip) (call : Call φ) (idle : c.tasks t = .done ())
    (running : c.ended t = false) :
    ((c.ending t call.isLast).assign t ((call.task t).bind fun _ => .done ())).Guarded
      (Function.update grip t ((grip t).begun call)) := by
  have hidle : (grip t).Idle := by
    have h := g.tasks t
    rwa [idle] at h
  have hrunning : (grip t).last = false := (g.last t).trans running
  have safe := Task.safe_task (t := t) call hidle hrunning
  obtain ⟨handle, hbegun⟩ := (grip t).begun_eq call
  -- the call begins with what the thread holds, so only the thread's own part changes
  refine ⟨g.sound, ?shows, ?last, ?covered, ?users, ?owners, ?ready, ?tasks⟩
  case shows =>
    refine (Function.forall_update_iff grip fun u k => c.board.Shows u k).mpr
      ⟨?_, fun u _ => g.shows u⟩
    rw [hbegun]
    exact ⟨(g.shows t).cell, (g.shows t).owner⟩
  case last =>
    refine (Function.forall_update_iff grip fun u k =>
      k.last = (c.ended u || (decide (u = t) && call.isLast))).mpr ⟨?_, fun u hu => ?_⟩
    · simp [hbegun, g.last t]
    · simp [hu, g.last u]
  case covered =>
    refine (Function.forall_update_iff grip fun _ k => k.Covered).mpr ⟨?_, fun u _ => g.covered u⟩
    rw [hbegun]
    exact fun _ => hidle.covered hrunning
  case users =>
    intro T
    refine (g.users T).update (fun k => k.uses T) ?_
    rw [hbegun]
    exact Nat.le_refl _
  case owners =>
    intro T
    refine (g.owners T).update (fun k => k.owns T) ?_
    rw [hbegun]
    exact Nat.le_refl _
  case ready =>
    refine (Function.forall_update_iff grip fun _ k => ∀ T, k.Keeps T → c.board.UpToDate T).mpr
      ⟨?_, fun u _ => g.ready u⟩
    rw [hbegun]
    exact g.ready t
  case tasks =>
    have tasks : ∀ u, ((c.ending t call.isLast).tasks u).Safe u (fun _ k => k.Idle) (grip u) :=
      g.tasks
    exact safe_assign tasks (safe.bind fun _ _ => id)

/-- Threads are guarded between their steps, where no caller's handle counts. -/
def Sane (c : Crew φ) : Prop := ∃ grip, c.Guarded grip ∧ ∀ t, (grip t).handle = none

/-- What a step does. -/
theorem Sane.step (h : c.Sane) (s : Step c d) : d.Sane ∧ c.board.Advances d.board := by
  obtain ⟨grip, g, hnone⟩ := h
  cases s with
  | turn t =>
      cases htask : c.tasks t with
      | done =>
          -- a thread without a call does nothing
          have hturn : c.turn t = c := by rw [turn, htask]
          rw [hturn]
          exact ⟨⟨grip, g, hnone⟩, g.sound.advances_self⟩
      | act a next =>
          obtain ⟨g', advances⟩ := g.act htask fun T hT => by rw [hnone t] at hT; cases hT
          exact ⟨⟨_, g', (Function.forall_update_iff grip fun _ k => k.handle = none).mpr
            ⟨(grip t).handle_after a, fun u _ => hnone u⟩⟩, advances⟩
  | @start t call idle running admits =>
      -- a call starts with its first action
      obtain ⟨a, next, htask⟩ := exists_act t call
      have begun : ((c.ending t call.isLast).assign t
          ((call.task t).bind fun _ => .done ())).tasks t = .act a next := by
        rw [tasks_assign, htask]
      obtain ⟨g', advances⟩ := (g.begin call idle running).act begun fun T hT => by
        rw [Function.update_self] at hT
        exact Grip.handlesOn_of_begun (hnone t) admits hT
      rw [Function.update_self, Function.update_idem] at g'
      refine ⟨⟨_, g', ?_⟩, advances⟩
      exact (Function.forall_update_iff grip fun _ k => k.handle = none).mpr
        ⟨Grip.handle_after _ a, fun u _ => hnone u⟩

/-- What steps do: threads stay guarded, and no table is lost or gets another vendor. -/
theorem Sane.leads {b : Crew φ} (h : b.Sane) (k : Leads b c) :
    c.Sane ∧ ∀ T r, b.board.table? T = some r →
      ∃ r', c.board.table? T = some r' ∧ r'.table.provide = r.table.provide := by
  refine k.keeps (P := fun c => c.Sane ∧ ∀ T r, b.board.table? T = some r →
      ∃ r', c.board.table? T = some r' ∧ r'.table.provide = r.table.provide)
    (fun c d hc s => ?_) ⟨h, fun T r hr => ⟨r, hr, rfl⟩⟩
  obtain ⟨hd, advances⟩ := hc.1.step s
  refine ⟨hd, fun T r hr => ?_⟩
  obtain ⟨r', hr', heq⟩ := hc.2 T r hr
  obtain ⟨r'', hr'', heq'⟩ := advances.table T r' hr'
  exact ⟨r'', hr'', heq'.trans heq⟩

/-- At the start no thread holds on to anything. -/
lemma sane_start {names : List String} {region : Option StubRegion} {p : Switchboard φ}
    (started : Switchboard.start (.ofKnown maxSlots names) region = .ok p) :
    Sane { board := p } := by
  have sound := Switchboard.sound_of_start started
  obtain ⟨region, rfl⟩ := Switchboard.eq_of_start started
  have covered : Grip.Covered {} := fun _ T hT => by cases hT
  refine ⟨fun _ => {}, ⟨sound, fun _ => ⟨rfl, rfl⟩, fun _ => rfl, fun _ => covered,
    fun T => backed_zero, fun T => backed_zero, fun _ T hT => ?_,
    fun _ => ⟨rfl, rfl, covered, fun _ => nofun⟩⟩, fun _ => rfl⟩
  rcases hT with hT | ⟨hT, -⟩ <;> cases hT

end Crew

/-! ### Looking up -/

/-- Every action that the task may perform preserves `V`. -/
def Task.Preserves {α : Type} (V : Switchboard φ → Prop) : Task φ α → Prop
  | .done _ => True
  | .act a next => (∀ p, V p → V (a.perform p).2) ∧ ∀ answer, (next answer).Preserves V

lemma Task.Preserves.run {α : Type} {V : Switchboard φ → Prop} {task : Task φ α}
    {p : Switchboard φ} (h : task.Preserves V) (hp : V p) : V (task.run p).2 := by
  induction task generalizing p with
  | done => exact hp
  | act a next ih => exact ih _ (h.2 _) (h.1 p hp)

namespace Switchboard

variable {p q : Switchboard φ}

/-- The tables and the cells are the same. -/
structure SameView (p q : Switchboard φ) : Prop where
  tables : q.tables = p.tables
  cell : ∀ t, (q.threads t).cell = (p.threads t).cell

/-- Counting a thread changes neither tables nor cells. -/
lemma preserves_countThread (p : Switchboard φ) (t : ThreadId) :
    (Facade.countThread t).Preserves p.SameView := by
  -- the flag that the thread was counted is no part of the view
  have seen : ∀ q, p.SameView q →
      p.SameView (q.modifyThread t fun s => { s with seen := true }) := by
    refine fun q hq => ⟨hq.tables, fun u => ?_⟩
    rw [threads_modifyThread]
    split_ifs with hu
    · rw [hu]
      exact hq.cell t
    · exact hq.cell u
  refine ⟨fun q hq => ⟨hq.tables, hq.cell⟩, fun (multithreaded : Bool) => ?_⟩
  cases multithreaded with
  | true => trivial
  | false =>
      refine ⟨seen, fun (seen : Bool) => ?_⟩
      cases seen with
      | true => trivial
      | false =>
          refine ⟨fun q hq => ⟨hq.tables, hq.cell⟩, fun (claimed : Bool) => ?_⟩
          cases claimed with
          | false => trivial
          | true =>
              refine ⟨fun q hq => ⟨hq.tables, hq.cell⟩, fun (already : Bool) => ?_⟩
              cases already with
              | false => exact ⟨fun q hq => ⟨hq.tables, hq.cell⟩, fun _ => trivial⟩
              | true => trivial

/-- What a look-up that is not interrupted returns. -/
lemma call_lookup (p : Switchboard φ) (t : ThreadId) (s : Slot) :
    (p.call t (.lookup s)).1 =
      if maxSlots ≤ s.index then .null else p.entry (p.threads t).cell s := by
  have view := (p.preserves_countThread t).run ⟨rfl, fun _ => rfl⟩
  refine (congrArg Prod.fst (Task.run_bind (Facade.countThread t) _ p)).trans ?_
  split_ifs with hs
  · rfl
  · have hentry : ∀ table, ((Facade.countThread t).run p).2.entry table s = p.entry table s := by
      intro table
      cases table with
      | noop => rfl
      | vendor T => simp only [entry, table?, view.tables]
    exact (hentry _).trans (congrArg (fun table => p.entry table s) (view.cell t))

/-- What a look-up finds in a table that has been asked for every name. -/
lemma Sound.call_lookup (h : p.Sound) {r : TableRecord φ} (hr : p.table? T = some r)
    (hdone : r.table.resolved = p.registry.size) (hcell : (p.threads t).cell = .vendor T)
    (s : Slot) :
    (p.call t (.lookup s)).1 = p.entry (.vendor T) s ∧
      p.entry (.vendor T) s =
        (p.registry.name? s).elim (noopEntry s) fun name =>
          .ofOption (r.table.provide s.index name) := by
  have hentry : p.entry (.vendor T) s = (p.registry.name? s).elim (noopEntry s) fun name =>
      .ofOption (r.table.provide s.index name) := by
    simp only [entry, hr]
    exact (h.follows T r hr).entry hdone s
  refine ⟨?_, hentry⟩
  rw [Switchboard.call_lookup, hcell]
  split_ifs with hs
  · have hnone : p.registry.name? s = none :=
      Array.getElem?_eq_none (Nat.le_trans h.registry.size hs)
    rw [hentry, hnone, Option.elim_none, noopEntry, if_neg (Nat.not_lt.mpr hs)]
  · rfl

end Switchboard

/-- A current table reaches every name that has a slot. A table was created, threads then made calls
in any order, each interrupted by others between any two actions, and now the table is current on a
thread that has not ended. Then the vendor has been asked for the names that have a slot, once each
and in order, and a look-up on the thread returns what the vendor answered for the slot's name. It
returns the no-op function for a slot without a name, and the null pointer beyond the last place. A
look-up that was interrupted before it read the table reads the same. -/
theorem current_reaches_every_name {names : List String} {region : Option StubRegion}
    {p : Switchboard φ} {b c : Crew φ} {creator t : ThreadId} {T : TableId}
    {provide : Nat → String → Option φ}
    (started : Switchboard.start (.ofKnown maxSlots names) region = .ok p)
    (before : Crew.Leads { board := p } b)
    (idle : b.tasks creator = .done ()) (running : b.ended creator = false)
    (created : (b.board.createTable provide).1 = T)
    (after : Crew.Leads (b.start creator (.createTable provide)) c)
    (alive : c.ended t = false) (current : (c.board.threads t).cell = .vendor T) :
    c.board.questionsTo T = c.board.registry.names.toList ∧
      (∀ s name, c.board.registry.name? s = some name →
        (c.board.call t (.lookup s)).1 = .ofOption (provide s.index name)) ∧
      (∀ s, c.board.registry.name? s = none → s.index < maxSlots →
        (c.board.call t (.lookup s)).1 = .noop) ∧
      (∀ s, maxSlots ≤ s.index → (c.board.call t (.lookup s)).1 = .null) ∧
      ∀ table s next, c.tasks t = .act (.loadEntry table s) next →
        c.board.entry table s = (c.board.call t (.lookup s)).1 := by
  have sane : b.Sane := ((Crew.sane_start started).leads before).1
  have creates : Crew.Step b (b.start creator (.createTable provide)) :=
    .start idle running trivial
  obtain ⟨sane', -⟩ := sane.step creates
  obtain ⟨⟨grip, g, -⟩, kept⟩ := sane'.leads after
  -- The vendor is the one that the table was created for.
  have hnew : (b.start creator (.createTable provide)).board.table? T =
      some { table := .new provide } := by
    have hboard : (b.start creator (.createTable provide)).board =
        (b.board.createTable provide).2 :=
      congrArg Crew.board (Crew.turn_assign_act _ creator (.createTable provide) _)
    rw [hboard, Switchboard.table?_createTable, if_pos created.symm]
  obtain ⟨r, hr, hprovide⟩ := kept T _ hnew
  -- The thread keeps its current table alive, so it has been asked for every name.
  have running' : (grip t).last = false := (g.last t).trans alive
  have cell : (grip t).cell = .vendor T := (g.shows t).cell.symm.trans current
  obtain ⟨r', hr', hdone⟩ := g.ready t T (g.covered t running' T cell)
  obtain rfl : r = r' := Option.some.inj (hr.symm.trans hr')
  have hlookup := g.sound.call_lookup hr hdone current
  have hprovide' : r.table.provide = provide := hprovide
  rw [hprovide'] at hlookup
  refine ⟨?_, fun s name hs => ?_, fun s hs hlt => ?_, fun s hs => ?_, fun table s next htask => ?_⟩
  · rw [g.sound.questions T r hr, hdone]
    exact List.take_length
  · rw [(hlookup s).1, (hlookup s).2, hs, Option.elim_some]
  · rw [(hlookup s).1, (hlookup s).2, hs, Option.elim_none, noopEntry, if_pos hlt]
  · rw [Switchboard.call_lookup, if_pos hs]
  · have safe := g.tasks t
    rw [htask] at safe
    have htable : table = (grip t).cell := safe.1
    rw [htable, cell, (hlookup s).1]

/-- A process in which the name of one entry point is known from the start. A thread has created a
table. -/
def tableMade : Crew Nat :=
  ({ board := { registry := .ofKnown maxSlots ["glClear"], region := none } } : Crew Nat).start ⟨0⟩
    (.createTable fun n _ => some n)

/-- The thread has made its table current. -/
def tableCurrent : Crew Nat :=
  tableMade.onBoard (tableMade.board.call ⟨0⟩ (.makeCurrent ⟨0⟩)).2

/-- Another thread has asked for the slot of a new name. -/
def nameKnown : Crew Nat :=
  tableCurrent.onBoard (tableCurrent.board.call ⟨1⟩ (.slot "glFlush")).2

theorem new_name_reached :
    nameKnown.board.registry.name? (.ofIndex 1) = some "glFlush" ∧
      (nameKnown.board.call ⟨0⟩ (.lookup (.ofIndex 1))).1 = .function 1 := by
  have started : Switchboard.start (.ofKnown maxSlots ["glClear"]) none =
      .ok ({ registry := .ofKnown maxSlots ["glClear"], region := none } : Switchboard Nat) := rfl
  have handle : tableMade.board.Admits (.makeCurrent ⟨0⟩) := by
    rw [Switchboard.Admits]
    decide +kernel
  have makes : Crew.Leads tableMade tableCurrent := Crew.leads_call_of_not_isLast rfl rfl handle rfl
  have asks : tableCurrent.board.Admits (.slot "glFlush") := trivial
  have knows : Crew.Leads tableCurrent nameKnown := Crew.leads_call_of_not_isLast rfl rfl asks rfl
  have current : (nameKnown.board.threads ⟨0⟩).cell = .vendor ⟨0⟩ := by decide +kernel
  have name : nameKnown.board.registry.name? (.ofIndex 1) = some "glFlush" := by decide +kernel
  have reached := current_reaches_every_name started (.refl _) rfl rfl rfl (makes.trans knows) rfl
    current
  exact ⟨name, reached.2.1 _ _ name⟩

end VendorDispatch
