import VendorDispatch.Switchboard.Call

/-!
Threads that run together, taking turns between actions.

* A `Crew` is the state of a process together with what every thread has still to do.
* `Crew.Step` lets one thread make a call or perform its next action; `Crew.Leads` is any number of
  such steps.
* `Crew.Leads.keeps`: what every step keeps holds wherever steps lead.
* `Crew.leads_call`: a call that is not interrupted does what `Switchboard.call` says.
-/

namespace VendorDispatch

/-- Threads at work on the state of a process. -/
structure Crew (φ : Type) where
  /-- The state of the process. -/
  board : Switchboard φ
  /-- What each thread has still to do. -/
  tasks : ThreadId → Task φ Unit := fun _ => .done ()
  /-- Whether a thread is ending, or has ended. It makes no more calls. -/
  ended : ThreadId → Bool := fun _ => false

namespace Crew

variable {φ : Type}

/-- The crew in which a thread has something else to do. -/
def assign (c : Crew φ) (t : ThreadId) (task : Task φ Unit) : Crew φ :=
  { c with tasks := fun u => if u = t then task else c.tasks u }

/-- The crew on another state of the process. -/
def onBoard (c : Crew φ) (p : Switchboard φ) : Crew φ := { c with board := p }

/-- The crew in which a thread ends, if this is said of it. -/
def ending (c : Crew φ) (t : ThreadId) (isLast : Bool) : Crew φ :=
  { c with ended := fun u => c.ended u || (u = t && isLast) }

/-- The crew when a thread has performed its next action. -/
def turn (c : Crew φ) (t : ThreadId) : Crew φ :=
  match c.tasks t with
  | .done () => c
  | .act action next =>
    (c.assign t (next (action.perform c.board).1)).onBoard (action.perform c.board).2

/-- The crew when a thread has made a call and performed its first action. -/
def start (c : Crew φ) (t : ThreadId) (call : Call φ) : Crew φ :=
  ((c.ending t call.isLast).assign t ((call.task t).bind fun _ => .done ())).turn t

/-- One thread makes a call, or performs its next action. -/
inductive Step : Crew φ → Crew φ → Prop
  /-- A thread that has nothing else to do makes a call. -/
  | start {c : Crew φ} {t : ThreadId} {call : Call φ} :
    c.tasks t = .done () → c.ended t = false → c.board.Admits call → Step c (c.start t call)
  /-- A thread performs its next action. -/
  | turn (c : Crew φ) (t : ThreadId) : Step c (c.turn t)

/-- The threads get from one crew to the other. -/
inductive Leads : Crew φ → Crew φ → Prop
  /-- By no step. -/
  | refl (c : Crew φ) : Leads c c
  /-- By one more step. -/
  | step {b c d : Crew φ} : Leads b c → Step c d → Leads b d

/-- A crew that goes on twice goes on. -/
theorem Leads.trans {b c d : Crew φ} (h : Leads b c) (k : Leads c d) : Leads b d := by
  induction k with
  | refl => exact h
  | step _ s ih => exact .step ih s

/-- What every step keeps holds wherever steps lead. -/
theorem Leads.keeps {P : Crew φ → Prop} (kept : ∀ c d, P c → Step c d → P d) {c d : Crew φ}
    (h : Leads c d) (hc : P c) : P d := by
  induction h with
  | refl => exact hc
  | step _ s ih => exact kept _ _ ih s

/-! ### Threads that are not interrupted -/

theorem tasks_assign (c : Crew φ) (t : ThreadId) (task : Task φ Unit) :
    (c.assign t task).tasks t = task := if_pos rfl

theorem assign_assign (c : Crew φ) (t : ThreadId) (task other : Task φ Unit) :
    (c.assign t task).assign t other = c.assign t other := by
  simp only [assign, Crew.mk.injEq, true_and, and_true]
  funext u
  split <;> rfl

theorem assign_eq_self {c : Crew φ} {t : ThreadId} {task : Task φ Unit} (h : c.tasks t = task) :
    c.assign t task = c := by
  obtain ⟨board, tasks, ended⟩ := c
  simp only [assign, Crew.mk.injEq, true_and, and_true]
  funext u
  split
  · next hu => exact hu ▸ h.symm
  · rfl

/-- A thread performs its next action and goes on with the rest. -/
theorem turn_assign_act (c : Crew φ) (t : ThreadId) (action : Action φ)
    (next : action.Answer → Task φ Unit) :
    (c.assign t (.act action next)).turn t =
      (c.onBoard (action.perform c.board).2).assign t (next (action.perform c.board).1) := by
  rw [turn, tasks_assign]
  simp only [assign_assign]
  rfl

theorem turn_assign_done (c : Crew φ) (t : ThreadId) :
    (c.assign t (.done ())).turn t = c.assign t (.done ()) := by
  rw [turn, tasks_assign]

/-- A thread that is not interrupted finishes its task. -/
theorem leads_run (c : Crew φ) (t : ThreadId) (task : Task φ Unit) :
    Leads (c.assign t task) ((c.onBoard (task.run c.board).2).assign t (.done ())) := by
  induction task generalizing c with
  | done => exact .refl _
  | act action next ih =>
    have first := Step.turn (c.assign t (.act action next)) t
    rw [turn_assign_act] at first
    exact (Leads.step (.refl _) first).trans (ih _ _)

/-- The first action of a task included, a thread that is not interrupted finishes it. -/
theorem leads_turn_run (c : Crew φ) (t : ThreadId) (task : Task φ Unit) :
    Leads ((c.assign t task).turn t) ((c.onBoard (task.run c.board).2).assign t (.done ())) := by
  cases task with
  | done =>
    rw [turn_assign_done]
    exact .refl _
  | act action next =>
    rw [turn_assign_act]
    exact leads_run _ _ _

/-- A call that is not interrupted does what it does alone. -/
theorem leads_call {c : Crew φ} {t : ThreadId} {call : Call φ} (idle : c.tasks t = .done ())
    (running : c.ended t = false) (admitted : c.board.Admits call) :
    Leads c ((c.ending t call.isLast).onBoard (c.board.call t call).2) := by
  have rest := leads_turn_run (c.ending t call.isLast) t ((call.task t).bind fun _ => .done ())
  rw [Task.run_bind] at rest
  have last : ((c.ending t call.isLast).onBoard (c.board.call t call).2).assign t (.done ()) =
      (c.ending t call.isLast).onBoard (c.board.call t call).2 := assign_eq_self idle
  exact (Leads.step (.refl c) (.start idle running admitted)).trans (last ▸ rest)

theorem ending_false (c : Crew φ) (t : ThreadId) : c.ending t false = c := by
  simp [ending]

/-- A call that is not interrupted, and is not the thread's last, changes the state of the process
alone. -/
theorem leads_call_of_not_isLast {c : Crew φ} {t : ThreadId} {call : Call φ}
    (idle : c.tasks t = .done ()) (running : c.ended t = false) (admitted : c.board.Admits call)
    (more : call.isLast = false) : Leads c (c.onBoard (c.board.call t call).2) := by
  have leads := leads_call idle running admitted
  rwa [more, ending_false] at leads

end Crew

end VendorDispatch
