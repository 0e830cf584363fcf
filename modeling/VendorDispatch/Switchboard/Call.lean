import VendorDispatch.Switchboard.Facade

/-!
Calls of the facade, as data, and runs of whole calls.

* `Call.task` is what a thread does for a call; `Switchboard.call` performs a call without
  interruption, and `Switchboard.run` performs several.
* `Switchboard.Admits` holds of a call that its caller may make: a table that it names is one on
  which somebody holds a handle.
-/

namespace VendorDispatch

/-- A call of the facade, with its arguments. -/
inductive Call (φ : Type)
  /-- Asks for the slot of a name. -/
  | slot (name : String)
  /-- Asks for the address of the stub of a name. -/
  | procAddress (name : String)
  /-- Adds a vendor's table. -/
  | createTable (provide : Nat → String → Option φ)
  /-- Takes one more handle on a table. -/
  | copyHandle (table : TableId)
  /-- Drops a handle on a table. -/
  | dropHandle (table : TableId)
  /-- Makes a table current. -/
  | makeCurrent (table : TableId)
  /-- Makes no vendor's table current. -/
  | loseCurrent
  /-- Asks for the current table. -/
  | getCurrent
  /-- Asks for the function for a slot. -/
  | lookup (s : Slot)
  /-- The thread ends. -/
  | endThread

namespace Call

variable {φ : Type}

/-- What a call returns. -/
def Answer : Call φ → Type
  | slot _ => Option Slot
  | procAddress _ => Option Nat
  | createTable _ => TableId
  | copyHandle _ => Unit
  | dropHandle _ => Unit
  | makeCurrent _ => Unit
  | loseCurrent => Unit
  | getCurrent => Option TableId
  | lookup _ => Entry φ
  | endThread => Unit

/-- What a thread does for a call. -/
def task (t : ThreadId) : (c : Call φ) → Task φ c.Answer
  | slot name => Facade.slot t name
  | procAddress name => Facade.procAddress t name
  | createTable provide => Facade.createTable provide
  | copyHandle table => Task.perform (.takeHandle table)
  | dropHandle table => Task.perform (.dropHandle table)
  | makeCurrent table => Facade.makeCurrent t table
  | loseCurrent => Facade.loseCurrent t
  | getCurrent => Facade.getCurrent t
  | lookup s => Facade.lookup t s
  | endThread => Facade.endThread t

/-- Whether a call counts the calling thread as using dispatch. -/
def isCounted : Call φ → Bool
  | slot _ | procAddress _ | makeCurrent _ | loseCurrent | getCurrent | lookup _ => true
  | createTable _ | copyHandle _ | dropHandle _ | endThread => false

/-- Whether the calling thread makes no more calls. -/
def isLast : Call φ → Bool
  | endThread => true
  | _ => false

end Call

namespace Switchboard

variable {φ : Type}

/-- Performs a call without interruption. -/
def call (p : Switchboard φ) (t : ThreadId) (c : Call φ) : c.Answer × Switchboard φ :=
  (c.task t).run p

/-- Performs calls of threads one after the other. -/
def run (p : Switchboard φ) (calls : List (ThreadId × Call φ)) : Switchboard φ :=
  calls.foldl (fun p c => (p.call c.1 c.2).2) p

theorem run_nil (p : Switchboard φ) : p.run [] = p := rfl

theorem run_cons (p : Switchboard φ) (t : ThreadId) (c : Call φ)
    (rest : List (ThreadId × Call φ)) :
    p.run ((t, c) :: rest) = (p.call t c).2.run rest := rfl

/-- Calls may be run in two parts. -/
theorem run_append (p : Switchboard φ) (first rest : List (ThreadId × Call φ)) :
    p.run (first ++ rest) = (p.run first).run rest := List.foldl_append

/-- The number of handles on a table that are held outside of the process state. -/
def handlesOn (p : Switchboard φ) (table : TableId) : Nat :=
  ((p.table? table).map TableRecord.handles).getD 0

/-- A call that its caller may make: it has the handle that it uses. -/
def Admits (p : Switchboard φ) : Call φ → Prop
  | .makeCurrent table | .copyHandle table | .dropHandle table => 0 < p.handlesOn table
  | _ => True

/-- Calls that their callers may make, one after the other: each has the handle that it uses, and a
thread that has ended makes no more calls. -/
inductive AdmitsAll : Switchboard φ → List (ThreadId × Call φ) → Prop
  /-- No call. -/
  | nil (p : Switchboard φ) : AdmitsAll p []
  /-- One more call, before the others. -/
  | cons {p : Switchboard φ} {t : ThreadId} {c : Call φ} {rest : List (ThreadId × Call φ)} :
    p.Admits c → (c.isLast → ∀ d ∈ rest, d.1 ≠ t) → AdmitsAll (p.call t c).2 rest →
      AdmitsAll p ((t, c) :: rest)

end Switchboard

end VendorDispatch
