import VendorDispatch.Switchboard.State

/-!
The indivisible actions that threads perform on the state of a process, and tasks made of them.

A task is a tree whose branches are the answers it may get. Run alone it is a function of the
state; several tasks run together by taking turns between actions.

* `Action.perform` is the effect of one action.
* `Task.run` runs a task to its end without interruption.
* `Task.run_bind`: running one task after the other.
-/

namespace VendorDispatch

/-- An indivisible action. The type `φ` is that of the vendors' functions. -/
inductive Action (φ : Type)
  /-- Reads whether a second thread has used dispatch. -/
  | loadMultithreaded
  /-- Sets that a second thread has used dispatch, and answers whether it was set. -/
  | swapMultithreaded
  /-- Sets that a thread has used dispatch, and answers whether it was set. -/
  | swapClaimed
  /-- Counts a thread, and answers whether it was counted. -/
  | swapSeen (thread : ThreadId)
  /-- Stores the process-wide pointer. -/
  | storeGlobal (table : Option TableRef)
  /-- Stores a thread's cell. -/
  | storeCell (thread : ThreadId) (table : TableRef)
  /-- Reads a thread's cell. -/
  | loadCell (thread : ThreadId)
  /-- Reads a place of a table. -/
  | loadEntry (table : TableRef) (slot : Slot)
  /-- Under the lock, gives a name its slot. -/
  | assign (name : String)
  /-- Under the lock, gives a name its slot and its stub. -/
  | entryPoint (name : String)
  /-- Under the lock, adds a table. -/
  | createTable (provide : Nat → String → Option φ)
  /-- Under the lock, looks up in a table the names that it has not been asked for. -/
  | fixUp (table : TableId)
  /-- Takes one more handle on a table. -/
  | takeHandle (table : TableId)
  /-- Drops a handle on a table. -/
  | dropHandle (table : TableId)
  /-- A call starts to use a table, and keeps it alive until it stops. -/
  | beginUse (table : TableId)
  /-- A call stops using a table. -/
  | endUse (table : TableId)
  /-- Replaces the table that a thread keeps alive, and answers the one before, which is kept alive
  until it is released. -/
  | replaceOwner (thread : ThreadId) (table : Option TableId)
  /-- Releases a table that a thread kept alive. -/
  | releaseOwner (table : TableId)

namespace Action

variable {φ : Type}

/-- What an action answers. -/
def Answer : Action φ → Type
  | loadMultithreaded => Bool
  | swapMultithreaded => Bool
  | swapClaimed => Bool
  | swapSeen _ => Bool
  | storeGlobal _ => Unit
  | storeCell .. => Unit
  | loadCell _ => TableRef
  | loadEntry .. => Entry φ
  | assign _ => Option Slot
  | entryPoint _ => Option Nat
  | createTable _ => TableId
  | fixUp _ => Unit
  | takeHandle _ => Unit
  | dropHandle _ => Unit
  | beginUse _ => Unit
  | endUse _ => Unit
  | replaceOwner .. => Option TableId
  | releaseOwner _ => Unit

/-- The answer of an action, and the state after it. -/
def perform (p : Switchboard φ) : (a : Action φ) → a.Answer × Switchboard φ
  | loadMultithreaded => (p.multithreaded, p)
  | swapMultithreaded => (p.multithreaded, { p with multithreaded := true })
  | swapClaimed => (p.claimed, { p with claimed := true })
  | swapSeen t => ((p.threads t).seen, p.modifyThread t fun s => { s with seen := true })
  | storeGlobal table => ((), { p with global := table })
  | storeCell t table => ((), p.modifyThread t fun s => { s with cell := table })
  | loadCell t => ((p.threads t).cell, p)
  | loadEntry table slot => (p.entry table slot, p)
  | assign name => p.assign name
  | entryPoint name => p.entryPoint name
  | createTable provide => p.createTable provide
  | fixUp t => ((), p.fixUp t)
  | takeHandle t => ((), p.modifyTable t fun r => { r with handles := r.handles + 1 })
  | dropHandle t => ((), p.modifyTable t fun r => { r with handles := r.handles - 1 })
  | beginUse t => ((), p.modifyTable t fun r => { r with users := r.users + 1 })
  | endUse t => ((), p.modifyTable t fun r => { r with users := r.users - 1 })
  | replaceOwner t table =>
    let q := p.modifyThread t fun s => { s with owner := table }
    ((p.threads t).owner,
      match table with
      | some new => q.modifyTable new fun r => { r with owners := r.owners + 1 }
      | none => q)
  | releaseOwner t => ((), p.modifyTable t fun r => { r with owners := r.owners - 1 })

end Action

/-- What a thread does, up to the value of type `α` that it returns. -/
inductive Task (φ α : Type) : Type
  /-- Returns a value. -/
  | done (value : α)
  /-- Performs an action and goes on with its answer. -/
  | act (action : Action φ) (next : action.Answer → Task φ α)

namespace Task

variable {φ α β γ : Type}

/-- Continues with another task. -/
def bind : Task φ α → (α → Task φ β) → Task φ β
  | done a, f => f a
  | act action next, f => act action fun r => (next r).bind f

instance : Monad (Task φ) where
  pure := done
  bind := bind

/-- Performs an action and returns its answer. -/
def perform (action : Action φ) : Task φ action.Answer := act action done

/-- Runs a task to its end. -/
def run : Task φ α → Switchboard φ → α × Switchboard φ
  | done a, p => (a, p)
  | act action next, p =>
    match action.perform p with
    | (answer, p) => (next answer).run p

theorem bind_done (t : Task φ α) : t.bind done = t := by
  induction t <;> simp_all [bind]

/-- Tasks in a row may be grouped in any way. -/
theorem bind_assoc (t : Task φ α) (f : α → Task φ β) (g : β → Task φ γ) :
    (t.bind f).bind g = t.bind fun a => (f a).bind g := by
  induction t <;> simp_all [bind]

/-- Running one task after the other. -/
theorem run_bind (t : Task φ α) (f : α → Task φ β) (p : Switchboard φ) :
    (t.bind f).run p = (f (t.run p).1).run (t.run p).2 := by
  induction t generalizing p with
  | done a => rfl
  | act action next ih => exact ih _ _

end Task

end VendorDispatch
