import VendorDispatch.Proofs.StubTable

/-!
The latch that tells a process with one thread from a process with several, and the process-wide
pointer that it guards.

As long as calls are not interrupted the latch is exact: it is closed when two threads were counted,
and the pointer is null from then on. A thread that is interrupted between its test of the latch and
its store can still store a table that comes too late; it then finds the latch closed and makes the
pointer null again.

* `latch_is_exact`: what the latch and the pointer are after any calls.
* `Task.Spares`, `Task.Clears`, `Task.Careful`: a task that stores no table once the latch is
  closed, one that is about to make the pointer null, and one that does the first at every point
  where it is not about to store and then do the second. Every call is careful
  (`Call.heeds_task`).
* `Crew.Closed`: what threads at work do to the pointer once the latch is closed and the pointer
  null. Every step keeps it (`Closed.step`).
* `late_store_is_taken_back`: the pointer stays null but for tables that come too late.
* `pointer_comes_back`: one that does.
-/

namespace VendorDispatch

variable {φ : Type}

/-! ### Whole calls -/

/-- A thread has set no table. -/
lemma lastSet_eq_none_iff {calls : List (ThreadId × Call φ)} {t : ThreadId} :
    lastSet calls t = none ↔ ∀ c, (t, c) ∈ calls → c.sets? = none := by
  rw [lastSet, latest, List.getLast?_eq_none_iff, List.filterMap_eq_nil_iff]
  constructor
  · intro h c hc
    simpa using h (t, c) hc
  · rintro h ⟨u, c⟩ hc
    by_cases hu : u = t
    · subst hu
      simpa using h c hc
    · simp [hu]

namespace Switchboard

variable {p : Switchboard φ} {counted : ThreadId → Prop} {last : ThreadId → Option TableRef}

/-- The latch is closed exactly if two threads were counted. -/
lemma Latched.multithreaded_iff (h : p.Latched counted last) :
    p.multithreaded = true ↔ ∃ u v, u ≠ v ∧ counted u ∧ counted v := by
  cases h with
  | unused hnone hmulti =>
      rw [hmulti]
      exact ⟨fun h => (Bool.false_ne_true h).elim, fun ⟨u, _, _, hu, _⟩ => (hnone u hu).elim⟩
  | single u hone hmulti =>
      rw [hmulti]
      refine ⟨fun h => (Bool.false_ne_true h).elim, fun ⟨v, w, hne, hv, hw⟩ => ?_⟩
      exact (hne (((hone v).mp hv).trans ((hone w).mp hw).symm)).elim
  | shared u v hne hu hv hmulti => exact ⟨fun _ => ⟨u, v, hne, hu, hv⟩, fun _ => hmulti⟩

/-- With the latch closed the pointer is null. -/
lemma Latched.global_eq_none (h : p.Latched counted last) (hp : p.multithreaded = true) :
    p.global = none := by
  cases h with
  | unused _ _ _ hglobal => exact hglobal
  | single _ _ hmulti =>
      rw [hmulti] at hp
      cases hp
  | shared _ _ _ _ _ _ hglobal => exact hglobal

end Switchboard

/-- After any calls the latch is closed exactly if two threads were counted. Until then the pointer
is null if no thread was counted. If one was, the pointer is null as long as that thread has set no
table, and repeats the thread's cell from then on, which holds what the thread set last. Once the
latch is closed it stays closed, and the pointer null, whatever calls follow. -/
theorem latch_is_exact {registry : SlotRegistry} {region : Option StubRegion} {p : Switchboard φ}
    (started : Switchboard.start registry region = .ok p) (calls : List (ThreadId × Call φ)) :
    ((p.run calls).multithreaded = true ↔ ∃ u v, u ≠ v ∧ Counted calls u ∧ Counted calls v) ∧
      ((p.run calls).multithreaded = false →
        ((∀ u, ¬ Counted calls u) → (p.run calls).global = none) ∧
        ∀ u, Counted calls u →
          ((∀ c, (u, c) ∈ calls → c.sets? = none) → (p.run calls).global = none) ∧
          ∀ table, lastSet calls u = some table →
            (p.run calls).global = some ((p.run calls).threads u).cell ∧
              ((p.run calls).threads u).cell = table) ∧
      ((p.run calls).multithreaded = true → ∀ later,
        (p.run (calls ++ later)).multithreaded = true ∧ (p.run (calls ++ later)).global = none) := by
  have tells : ∀ calls, (p.run calls).TellsOf calls := Switchboard.tellsOf_run started
  have closed : ∀ calls, (p.run calls).multithreaded = true ↔
      ∃ u v, u ≠ v ∧ Counted calls u ∧ Counted calls v :=
    fun calls => (tells calls).latched.multithreaded_iff
  refine ⟨closed calls, fun hopen => ⟨fun hnone => ?unused, fun u hu => ?single⟩,
    fun hclosed later => ?shared⟩
  case unused =>
    rcases (tells calls).latched.global_cases with hglobal | ⟨u, hu, -⟩
    · exact hglobal
    · exact (hnone u ((hu u).mpr rfl)).elim
  case single =>
    -- With the latch open nobody else was counted.
    have only : ∀ v, Counted calls v ↔ v = u := by
      refine fun v => ⟨fun hv => ?_, fun hv => hv ▸ hu⟩
      by_contra hne
      rw [(closed calls).mpr ⟨v, u, hne, hv, hu⟩] at hopen
      cases hopen
    have hglobal := (tells calls).latched.global_of_only only
    refine ⟨fun hsets => ?_, fun table hlast => ?_⟩
    · rw [hglobal, lastSet_eq_none_iff.mpr hsets]
    · rw [hglobal, (tells calls).cell, hlast]
      exact ⟨rfl, rfl⟩
  case shared =>
    obtain ⟨u, v, hne, ⟨c, hc, hcounts⟩, d, hd, hdcounts⟩ := (closed calls).mp hclosed
    have hlater : (p.run (calls ++ later)).multithreaded = true :=
      (closed _).mpr ⟨u, v, hne, ⟨c, List.mem_append_left later hc, hcounts⟩,
        d, List.mem_append_left later hd, hdcounts⟩
    exact ⟨hlater, (tells _).latched.global_eq_none hlater⟩

/-- The pointer repeats the table that the only thread has made current, until another thread asks
for its own. -/
theorem latch_is_exact_second :
    pointerStart = .ok pointerBoard ∧
      (pointerBoard.run pointerCalls).global = some (.vendor ⟨0⟩) ∧
      ∀ later, (pointerBoard.run (pointerCalls ++ [(⟨1⟩, .getCurrent)] ++ later)).global = none := by
  obtain ⟨-, hopen, -⟩ := latch_is_exact pointerStart_eq pointerCalls
  obtain ⟨-, -, hclosed⟩ := latch_is_exact pointerStart_eq (pointerCalls ++ [(⟨1⟩, .getCurrent)])
  have single : (pointerBoard.run pointerCalls).multithreaded = false := by decide +kernel
  have shared : (pointerBoard.run (pointerCalls ++ [(⟨1⟩, .getCurrent)])).multithreaded = true := by
    decide +kernel
  have last : lastSet pointerCalls ⟨0⟩ = some (.vendor ⟨0⟩) := by decide +kernel
  have counted : Counted pointerCalls ⟨0⟩ := ⟨_, List.mem_cons_self, rfl⟩
  obtain ⟨hglobal, hcell⟩ := ((hopen single).2 ⟨0⟩ counted).2 _ last
  exact ⟨pointerStart_eq, hglobal.trans (congrArg some hcell), fun later => (hclosed shared later).2⟩

/-! ### What a thread may still do when the latch is closed -/

/-- The action stores a table in the pointer. -/
def Action.Restores : Action φ → Prop
  | storeGlobal (some _) => True
  | _ => False

/-- The action may get the answer when the latch is closed. -/
def Action.Told : (a : Action φ) → a.Answer → Prop
  | loadMultithreaded, answer => answer = true
  | swapMultithreaded, answer => answer = true
  | _, _ => True

namespace Switchboard

variable {p : Switchboard φ} {a : Action φ}

/-- The pointer changes only when it is stored. -/
lemma global_perform (h : ∀ table, a ≠ .storeGlobal table) : (a.perform p).2.global = p.global := by
  cases a with
  | storeGlobal table => exact (h table rfl).elim
  | assign name => exact (p.sameLatch_assign name).global
  | entryPoint name => exact (p.sameLatch_entryPoint name).global
  | fixUp T => exact (p.sameLatch_fixUp T).global
  | replaceOwner t table => cases table <;> rfl
  | _ => rfl

/-- The latch stays closed. -/
lemma multithreaded_perform (a : Action φ) (h : p.multithreaded = true) :
    (a.perform p).2.multithreaded = true := by
  cases a with
  | swapMultithreaded => rfl
  | assign name => exact (p.sameLatch_assign name).multithreaded.trans h
  | entryPoint name => exact (p.sameLatch_entryPoint name).multithreaded.trans h
  | fixUp T => exact (p.sameLatch_fixUp T).multithreaded.trans h
  | replaceOwner t table => cases table <;> exact h
  | _ => exact h

/-- Whoever reads the closed latch is told so. -/
lemma told_perform (a : Action φ) (h : p.multithreaded = true) : a.Told (a.perform p).1 := by
  cases a with
  | loadMultithreaded | swapMultithreaded => exact h
  | _ => trivial

end Switchboard

namespace Task

variable {α β : Type} {possible : (a : Action φ) → a.Answer → Prop} {task : Task φ α}
  {f : α → Task φ β}

/-- With answers that are possible, the task never stores a table in the pointer. -/
def Spares (possible : (a : Action φ) → a.Answer → Prop) : Task φ α → Prop
  | done _ => True
  | act a next => ¬ a.Restores ∧ ∀ answer, possible a answer → (next answer).Spares possible

/-- The task is about to make the pointer null, at once or when it has read the closed latch. -/
def Clears : Task φ α → Prop
  | act (.storeGlobal none) _ => True
  | act .loadMultithreaded next => ∃ rest, next true = act (.storeGlobal none) rest
  | _ => False

/-- The task is about to store a table in the pointer, and to make it null if the latch is closed by
then. -/
def Pending (task : Task φ α) : Prop :=
  ∃ table next, task = act (.storeGlobal (some table)) next ∧ (next ()).Clears ∧
    (next ()).Spares Action.Told

/-- Wherever the task gets, it stores no table once the latch is closed, unless it is about to. -/
def Careful : Task φ α → Prop
  | done _ => True
  | act a next =>
    ((act a next).Spares Action.Told ∨ (act a next).Pending) ∧ ∀ answer, (next answer).Careful

lemma Spares.mono {fewer : (a : Action φ) → a.Answer → Prop} (h : task.Spares possible)
    (hle : ∀ a answer, fewer a answer → possible a answer) : task.Spares fewer := by
  induction task with
  | done => trivial
  | act a next ih => exact ⟨h.1, fun answer ha => ih answer (h.2 answer (hle a answer ha))⟩

/-- Work that spares the pointer, followed by work that does. -/
lemma Spares.bind (h : task.Spares possible) (hf : ∀ a, (f a).Spares possible) :
    (task.bind f).Spares possible := by
  induction task with
  | done a => exact hf a
  | act a next ih => exact ⟨h.1, fun answer ha => ih answer (h.2 answer ha)⟩

lemma Clears.bind (h : task.Clears) : (task.bind f).Clears := by
  cases task with
  | done => exact h.elim
  | act a next =>
      cases a with
      | storeGlobal table =>
          cases table with
          | none => trivial
          | some => exact h.elim
      | loadMultithreaded =>
          obtain ⟨rest, hrest⟩ := h
          exact ⟨fun answer => (rest answer).bind f, congrArg (Task.bind · f) hrest⟩
      | _ => exact h.elim

lemma Pending.bind (h : task.Pending) (hf : ∀ a, (f a).Spares Action.Told) :
    (task.bind f).Pending := by
  obtain ⟨table, next, rfl, hclears, hspares⟩ := h
  exact ⟨table, fun answer => (next answer).bind f, rfl, hclears.bind, hspares.bind hf⟩

/-- A task that has read the closed latch is next to make the pointer null. -/
lemma Clears.next {a : Action φ} {next : a.Answer → Task φ α} (h : (act a next).Clears)
    (ha : ∀ table, a ≠ .storeGlobal table) {answer : a.Answer} (told : a.Told answer) :
    (next answer).Clears := by
  cases a with
  | storeGlobal table => exact (ha table rfl).elim
  | loadMultithreaded =>
      obtain ⟨rest, hrest⟩ := h
      cases told
      rw [hrest]
      trivial
  | _ => exact h.elim

lemma Careful.spares_or_pending (h : task.Careful) : task.Spares Action.Told ∨ task.Pending := by
  cases task with
  | done => exact .inl trivial
  | act a next => exact h.1

/-- A task that never stores a table is careful. -/
lemma Spares.careful (h : task.Spares fun _ _ => True) : task.Careful := by
  induction task with
  | done => trivial
  | act a next ih =>
      exact ⟨.inl (h.mono fun _ _ _ => trivial), fun answer => ih answer (h.2 answer trivial)⟩

/-- Work that is careful with the pointer, followed by work that spares it. -/
lemma Careful.bind (h : task.Careful) (hf : ∀ a, (f a).Spares Action.Told)
    (hcareful : ∀ a, (f a).Careful) : (task.bind f).Careful := by
  induction task with
  | done a => exact hcareful a
  | act a next ih =>
      refine ⟨?_, fun answer => ih answer (h.2 answer)⟩
      rcases h.1 with hspares | hpending
      · exact .inl (hspares.bind hf)
      · exact .inr (hpending.bind hf)

end Task

/-! ### Every call is careful -/

/-- The task is careful, and spares the pointer if the latch is closed when it begins. -/
def Task.Heeds {α : Type} (task : Task φ α) : Prop := task.Spares Action.Told ∧ task.Careful

section Heeds

variable {α β : Type} {task : Task φ α} {f : α → Task φ β}

lemma Task.Spares.heeds (h : task.Spares fun _ _ => True) : task.Heeds :=
  ⟨h.mono fun _ _ _ => trivial, h.careful⟩

lemma Task.Heeds.bind (h : task.Heeds) (hf : ∀ a, (f a).Heeds) : (task.bind f).Heeds :=
  ⟨h.1.bind fun a => (hf a).1, h.2.bind (fun a => (hf a).1) fun a => (hf a).2⟩

lemma Task.heeds_done (a : α) : (Task.done a : Task φ α).Heeds := ⟨trivial, trivial⟩

/-- Counting a thread stores no table. -/
lemma spares_countThread (t : ThreadId) :
    (Facade.countThread t : Task φ Unit).Spares fun _ _ => True := by
  refine ⟨not_false, fun (multithreaded : Bool) _ => ?_⟩
  cases multithreaded with
  | true => trivial
  | false =>
      refine ⟨not_false, fun (seen : Bool) _ => ?_⟩
      cases seen with
      | true => trivial
      | false =>
          refine ⟨not_false, fun (claimed : Bool) _ => ?_⟩
          cases claimed with
          | false => trivial
          | true =>
              refine ⟨not_false, fun (already : Bool) _ => ?_⟩
              cases already with
              | false => exact ⟨not_false, fun _ _ => trivial⟩
              | true => trivial

/-- Makes the pointer null if the latch was found closed. -/
def clearIf (multithreaded : Bool) : Task φ Unit :=
  if multithreaded then Task.perform (.storeGlobal none) else pure ()

lemma spares_clearIf (multithreaded : Bool) :
    (clearIf multithreaded : Task φ Unit).Spares fun _ _ => True := by
  cases multithreaded with
  | true => exact ⟨not_false, fun _ _ => trivial⟩
  | false => trivial

/-- A thread that makes a table current stores it only after it has found the latch open, and then
looks again. -/
lemma heeds_setCurrent (t : ThreadId) (table : TableRef) :
    (Facade.setCurrent t table : Task φ Unit).Heeds := by
  -- the last steps first: the second look, the store before it, and the test before that
  have look : (Task.act .loadMultithreaded clearIf : Task φ Unit).Spares fun _ _ => True :=
    ⟨not_false, fun answer _ => spares_clearIf answer⟩
  have store : (Task.act (.storeGlobal (some table)) fun _ =>
      .act .loadMultithreaded clearIf : Task φ Unit).Careful :=
    ⟨.inr ⟨table, _, rfl, ⟨_, rfl⟩, look.heeds.1⟩, fun _ => look.careful⟩
  have test : (Task.act .loadMultithreaded fun multithreaded : Bool =>
      if multithreaded then Task.perform (.storeGlobal none)
      else .act (.storeGlobal (some table)) fun _ => .act .loadMultithreaded clearIf :
      Task φ Unit).Heeds := by
    have hclosed : (Task.perform (.storeGlobal none) : Task φ Unit).Spares fun _ _ => True :=
      spares_clearIf true
    refine ⟨⟨not_false, ?_⟩, .inl ⟨not_false, ?_⟩, fun (multithreaded : Bool) => ?_⟩
    · rintro _ rfl
      exact hclosed.heeds.1
    · rintro _ rfl
      exact hclosed.heeds.1
    · cases multithreaded with
      | true => exact hclosed.careful
      | false => exact store
  refine (spares_countThread t).heeds.bind fun _ => ?_
  exact ⟨⟨not_false, fun _ _ => test.1⟩, .inl ⟨not_false, fun _ _ => test.1⟩, fun _ => test.2⟩

/-- Releasing a table stores nothing in the pointer. -/
lemma spares_release (old : Option TableId) :
    Task.Spares (φ := φ) (fun _ _ => True) (do
      if let some old := old then
        Task.perform (.releaseOwner old)) := by
  cases old with
  | none => trivial
  | some T => exact ⟨not_false, fun _ _ => trivial⟩

/-- A thread that gives up a table stores nothing in the pointer. -/
lemma spares_replaceOwner (t : ThreadId) (table : Option TableId) {rest : Option TableId → Task φ α}
    (hrest : ∀ old, (rest old).Spares fun _ _ => True) :
    (Task.act (.replaceOwner t table) rest).Spares fun _ _ => True :=
  ⟨not_false, fun old _ => hrest old⟩

/-- A thread stores a table only after it has found the latch open, and then looks again. -/
lemma Call.heeds_task (t : ThreadId) (call : Call φ) : (call.task t).Heeds := by
  -- Most calls count the thread and store no table, or do not even count it.
  have counts : ∀ {β : Type} {rest : Unit → Task φ β}, ((rest ()).Spares fun _ _ => True) →
      ((Facade.countThread t).bind rest).Heeds := fun hrest =>
    ((spares_countThread t).bind fun _ => hrest).heeds
  have still : ∀ a : Action φ, ¬ a.Restores → (Task.perform a).Spares fun _ _ => True :=
    fun _ ha => ⟨ha, fun _ _ => trivial⟩
  cases call with
  | slot name => exact counts (still (.assign name) not_false)
  | procAddress name => exact counts (still (.entryPoint name) not_false)
  | createTable provide => exact (still (.createTable provide) not_false).heeds
  | copyHandle T => exact (still (.takeHandle T) not_false).heeds
  | dropHandle T => exact (still (.dropHandle T) not_false).heeds
  | makeCurrent T =>
      have finish : ∀ old : Option TableId, Task.Spares (φ := φ) (fun _ _ => True) (do
          if let some old := old then
            Task.perform (.releaseOwner old)
          Task.perform (.endUse T)) := by
        intro old
        cases old with
        | none => exact still (.endUse T) not_false
        | some S => exact ⟨not_false, fun _ _ => still (.endUse T) not_false⟩
      have hset := (heeds_setCurrent t (.vendor T)).bind fun _ =>
        (spares_replaceOwner t (some T) finish).heeds
      have first : (Task.act (.beginUse T) fun _ => Task.act (.fixUp T) fun _ => Task.done () :
          Task φ Unit).Spares fun _ _ => True := ⟨not_false, fun _ _ => still (.fixUp T) not_false⟩
      exact first.heeds.bind fun _ => hset
  | loseCurrent =>
      exact (heeds_setCurrent t .noop).bind fun _ =>
        (spares_replaceOwner t none spares_release).heeds
  | getCurrent =>
      refine counts ⟨not_false, fun (table : TableRef) _ => ?_⟩
      cases table <;> trivial
  | lookup s =>
      refine counts ?_
      split_ifs
      · trivial
      · exact ⟨not_false, fun table _ => still (.loadEntry table s) not_false⟩
  | endThread => exact (spares_replaceOwner t none spares_release).heeds

end Heeds

/-! ### Threads at work -/

namespace Crew

variable {b c d : Crew φ}

lemma tasks_assign_apply (t u : ThreadId) (task : Task φ Unit) :
    (c.assign t task).tasks u = if u = t then task else c.tasks u := rfl

section Turn

variable {t : ThreadId} {a : Action φ} {next : a.Answer → Task φ Unit}

lemma board_turn (h : c.tasks t = .act a next) : (c.turn t).board = (a.perform c.board).2 := by
  rw [turn, h]
  rfl

lemma tasks_turn (h : c.tasks t = .act a next) (u : ThreadId) :
    (c.turn t).tasks u = if u = t then next (a.perform c.board).1 else c.tasks u := by
  rw [turn, h]
  rfl

lemma turn_of_done (h : c.tasks t = .done ()) : c.turn t = c := by
  rw [turn, h]

end Turn

/-- What every thread has still to do is careful. -/
def Careful (c : Crew φ) : Prop := ∀ t, (c.tasks t).Careful

lemma Careful.assign (h : c.Careful) (t : ThreadId) {task : Task φ Unit} (ht : task.Careful) :
    (c.assign t task).Careful := by
  intro u
  rw [tasks_assign_apply]
  split_ifs
  · exact ht
  · exact h u

/-- Every turn of a thread leaves careful work. -/
lemma Careful.turn (h : c.Careful) (t : ThreadId) : (c.turn t).Careful := by
  cases htask : c.tasks t with
  | done => rwa [turn_of_done htask]
  | act a next =>
      intro u
      have ht := h t
      rw [htask] at ht
      rw [tasks_turn htask]
      split_ifs
      · exact ht.2 _
      · exact h u

/-- So does every step of the crew. -/
lemma Careful.step (h : c.Careful) (s : Step c d) : d.Careful := by
  cases s with
  | turn t => exact h.turn t
  | @start t call _ _ _ =>
      have hcall : ((call.task t).bind fun _ => .done ()).Careful :=
        ((call.heeds_task t).bind fun _ => Task.heeds_done ()).2
      have hending : (c.ending t call.isLast).Careful := h
      exact (hending.assign t hcall).turn t

lemma careful_of_leads {p : Switchboard φ} (h : Leads { board := p } b) : b.Careful :=
  h.keeps (fun _ _ hc s => hc.step s) fun _ => trivial

/-- What threads make of the pointer, once the latch is closed and the pointer null in `b`. Only a
thread that was about to store a table in `b` may store one, and it then makes the pointer null. -/
structure Closed (b c : Crew φ) : Prop where
  multithreaded : c.board.multithreaded = true
  careful : c.Careful
  late : ∀ t, (c.tasks t).Spares Action.Told ∨ c.tasks t = b.tasks t
  global : c.board.global = none ∨ ∃ t table next,
    b.tasks t = .act (.storeGlobal (some table)) next ∧ c.board.global = some table ∧
      (c.tasks t).Clears

/-- A thread performs an action that stores no table. -/
lemma Closed.turn_of_spares (h : Closed b c) {t : ThreadId} (ht : (c.tasks t).Spares Action.Told) :
    Closed b (c.turn t) := by
  cases htask : c.tasks t with
  | done => rwa [turn_of_done htask]
  | act a next =>
      rw [htask] at ht
      obtain ⟨hrestores, hnext⟩ := ht
      have told := Switchboard.told_perform a h.multithreaded
      refine ⟨?multithreaded, h.careful.turn t, fun u => ?late, ?global⟩
      case multithreaded =>
        rw [board_turn htask]
        exact Switchboard.multithreaded_perform a h.multithreaded
      case late =>
        rw [tasks_turn htask]
        split_ifs
        · exact .inl (hnext _ told)
        · exact h.late u
      case global =>
        rw [board_turn htask]
        by_cases ha : ∃ table, a = .storeGlobal table
        · obtain ⟨table, rfl⟩ := ha
          -- a thread that stores a table would not be one that spares the pointer
          cases table with
          | none => exact .inl rfl
          | some table => exact (hrestores trivial).elim
        · have hstore : ∀ table, a ≠ .storeGlobal table := fun table he => ha ⟨table, he⟩
          rw [Switchboard.global_perform hstore]
          refine h.global.imp_right ?_
          rintro ⟨u, table, rest, hpending, hglobal, hclears⟩
          refine ⟨u, table, rest, hpending, hglobal, ?_⟩
          rw [tasks_turn htask]
          split_ifs with hu
          · rw [hu, htask] at hclears
            exact hclears.next hstore told
          · exact hclears

/-- A thread performs its next action. -/
lemma Closed.turn (h : Closed b c) (t : ThreadId) : Closed b (c.turn t) := by
  rcases h.late t with hspares | hlate
  · exact h.turn_of_spares hspares
  rcases (h.careful t).spares_or_pending with hspares | ⟨table, next, htask, hclears, hspares⟩
  · exact h.turn_of_spares hspares
  -- The thread stores its table, and is then about to make the pointer null.
  have hboard := board_turn htask
  refine ⟨?_, h.careful.turn t, fun u => ?_, .inr ⟨t, table, next, hlate ▸ htask, ?_, ?_⟩⟩
  · rw [hboard]
    exact h.multithreaded
  · rw [tasks_turn htask]
    split_ifs
    · exact .inl hspares
    · exact h.late u
  · rw [hboard]
    rfl
  · rw [tasks_turn htask, if_pos rfl]
    exact hclears

/-- A thread makes a call, or performs its next action. -/
lemma Closed.step (h : Closed b c) (s : Step c d) : Closed b d := by
  cases s with
  | turn t => exact h.turn t
  | @start t call idle _ _ =>
      have hheeds : ((call.task t).bind fun _ => .done ()).Heeds :=
        (call.heeds_task t).bind fun _ => Task.heeds_done ()
      have hending : (c.ending t call.isLast).Careful := h.careful
      have begun : Closed b ((c.ending t call.isLast).assign t
          ((call.task t).bind fun _ => .done ())) := by
        refine ⟨h.multithreaded, hending.assign t hheeds.2, fun u => ?late, ?global⟩
        case late =>
          rw [tasks_assign_apply]
          split_ifs
          · exact .inl hheeds.1
          · exact h.late u
        case global =>
          refine h.global.imp_right ?_
          rintro ⟨u, table, next, hpending, hglobal, hclears⟩
          refine ⟨u, table, next, hpending, hglobal, ?_⟩
          -- The thread that makes the call had nothing else to do.
          have hu : u ≠ t := by
            rintro rfl
            rw [idle] at hclears
            exact hclears
          rwa [tasks_assign_apply, if_neg hu]
      exact begun.turn t

/-- Steps after the latch is closed and the pointer null. -/
lemma closed_of_leads {p : Switchboard φ} (before : Leads { board := p } b)
    (closed : b.board.multithreaded = true) (null : b.board.global = none) (after : Leads b c) :
    Closed b c :=
  after.keeps (fun _ _ hc s => hc.step s)
    ⟨closed, careful_of_leads before, fun _ => .inr rfl, .inl null⟩

end Crew

/-- Threads make calls, each interrupted by others between any two actions. Once the latch is closed
and the pointer null, the latch stays closed. The pointer stays null, but for a table that a thread
stores that was about to store it by then, because it had found the latch open before; that thread
is then about to make the pointer null again. No other thread comes to store a table any more. -/
theorem late_store_is_taken_back {p : Switchboard φ} {b c : Crew φ}
    (before : Crew.Leads { board := p } b) (closed : b.board.multithreaded = true)
    (null : b.board.global = none) (after : Crew.Leads b c) :
    c.board.multithreaded = true ∧
      (c.board.global = none ∨ ∃ t table next,
        b.tasks t = .act (.storeGlobal (some table)) next ∧ c.board.global = some table ∧
          (c.tasks t).Clears) ∧
      ∀ t table next, c.tasks t = .act (.storeGlobal (some table)) next →
        b.tasks t = .act (.storeGlobal (some table)) next := by
  have h := Crew.closed_of_leads before closed null after
  refine ⟨h.multithreaded, h.global, fun t table next htask => ?_⟩
  rcases h.late t with hspares | hlate
  · rw [htask] at hspares
    exact (hspares.1 trivial).elim
  · exact hlate ▸ htask

/-! ### A table that comes too late -/

/-- A process in which no name has a slot, and which has no stubs. -/
def bareBoard : Switchboard Nat := { registry := .ofKnown maxSlots [], region := none }

/-- A thread makes no vendor's table current, and has found the latch open. -/
def storing : Crew Nat :=
  (((((Crew.start { board := bareBoard } ⟨0⟩ .loseCurrent).turn ⟨0⟩).turn ⟨0⟩).turn ⟨0⟩).turn ⟨0⟩)

/-- Another thread has closed the latch, and is about to make the pointer null. -/
def closing : Crew Nat :=
  (((storing.start ⟨1⟩ .getCurrent).turn ⟨1⟩).turn ⟨1⟩).turn ⟨1⟩

lemma leads_storing : Crew.Leads { board := bareBoard } storing := by
  have start : Crew.Leads { board := bareBoard } (.start { board := bareBoard } ⟨0⟩ .loseCurrent) :=
    .step (.refl _) (.start rfl rfl trivial)
  exact (((start.step (.turn _ _)).step (.turn _ _)).step (.turn _ _)).step (.turn _ _)

lemma leads_closing : Crew.Leads { board := bareBoard } closing := by
  have start : Crew.Leads storing (storing.start ⟨1⟩ .getCurrent) :=
    .step (.refl _) (.start rfl rfl trivial)
  exact (((leads_storing.trans start).step (.turn _ _)).step (.turn _ _)).step (.turn _ _)

/-- The other thread has closed the latch and made the pointer null. Then the first thread stores
its table, and the pointer is not null. -/
theorem pointer_comes_back :
    Crew.Leads { board := bareBoard } closing ∧ closing.board.multithreaded = true ∧
      (∃ next, closing.tasks ⟨1⟩ = .act (.storeGlobal none) next) ∧
      (closing.turn ⟨1⟩).board.multithreaded = true ∧ (closing.turn ⟨1⟩).board.global = none ∧
      Crew.Leads (closing.turn ⟨1⟩) ((closing.turn ⟨1⟩).turn ⟨0⟩) ∧
      ((closing.turn ⟨1⟩).turn ⟨0⟩).board.global = some .noop :=
  ⟨leads_closing, rfl, ⟨_, rfl⟩, rfl, rfl, .step (.refl _) (.turn _ _), rfl⟩

/-- The table that came too late is the one that the first thread was about to store. -/
theorem late_store_is_taken_back_noop :
    Crew.Leads { board := bareBoard } (closing.turn ⟨1⟩) ∧
      (closing.turn ⟨1⟩).board.multithreaded = true ∧ (closing.turn ⟨1⟩).board.global = none ∧
      Crew.Leads (closing.turn ⟨1⟩) ((closing.turn ⟨1⟩).turn ⟨0⟩) ∧
      ∃ t table next, (closing.turn ⟨1⟩).tasks t = .act (.storeGlobal (some table)) next ∧
        (((closing.turn ⟨1⟩).turn ⟨0⟩).tasks t).Clears := by
  have before := leads_closing.step (.turn closing ⟨1⟩)
  have after : Crew.Leads (closing.turn ⟨1⟩) ((closing.turn ⟨1⟩).turn ⟨0⟩) :=
    .step (.refl _) (.turn _ _)
  obtain ⟨-, hnull | ⟨t, table, next, hpending, -, hclears⟩, -⟩ :=
    late_store_is_taken_back before rfl rfl after
  · cases hnull
  · exact ⟨before, rfl, rfl, after, t, table, next, hpending, hclears⟩

end VendorDispatch
