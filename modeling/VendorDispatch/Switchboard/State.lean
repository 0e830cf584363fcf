import VendorDispatch.Slot.KnownNames
import VendorDispatch.Stub.Region
import VendorDispatch.Switchboard.Table

/-!
The state of a process that dispatches: the names that have a slot, the stubs, the vendors' tables,
and what every thread has made current.

Every thread has a cell of its own, which names its current table. A process-wide pointer repeats
the cell while only one thread has used dispatch, so that stubs can find the table without asking;
the second thread that uses dispatch makes it null for good.

* `Switchboard.assign` gives a name its slot. A new name is looked up in every table at once.
* `Switchboard.fixUp` looks up in one table the names that it has not been asked for.
* `Switchboard.stubTable` is the table that a stub reaches on a thread.
-/

namespace VendorDispatch

/-- Names a thread. Names of threads are not used twice. -/
structure ThreadId where
  /-- The thread's number. -/
  index : Nat
  deriving DecidableEq, Repr, Inhabited

/-- Names a vendor's table. -/
structure TableId where
  /-- The table's place in the order of creation. -/
  index : Nat
  deriving DecidableEq, Repr, Inhabited

/-- What a cell points to. -/
inductive TableRef
  /-- The table of no-op functions. -/
  | noop
  /-- A vendor's table. -/
  | vendor (t : TableId)
  deriving DecidableEq, Repr, Inhabited

/-- What a thread keeps for itself. -/
structure ThreadState where
  /-- The thread's current table. -/
  cell : TableRef := .noop
  /-- Whether the thread has been counted as using dispatch. -/
  seen : Bool := false
  /-- The table that the thread keeps alive because it is current. -/
  owner : Option TableId := none
  deriving DecidableEq, Repr, Inhabited

/-- A vendor's table, and who keeps it alive. -/
structure TableRecord (φ : Type) where
  /-- The table. -/
  table : DispatchTable φ
  /-- The number of handles that are held outside of the process state. -/
  handles : Nat := 1
  /-- The number of calls under way that use the table. -/
  users : Nat := 0
  /-- The number of threads that keep the table alive. -/
  owners : Nat := 0

namespace TableRecord

variable {φ : Type}

/-- Whether anybody keeps the table alive. -/
def isAlive (r : TableRecord φ) : Bool := 0 < r.handles + r.users + r.owners

end TableRecord

/-- The state of a process that dispatches. -/
structure Switchboard (φ : Type) where
  /-- Set once a second thread has used dispatch. -/
  multithreaded : Bool := false
  /-- Set once a thread has used dispatch. -/
  claimed : Bool := false
  /-- The process-wide pointer; none stands for the null pointer. -/
  global : Option TableRef := none
  /-- What each thread keeps for itself. -/
  threads : ThreadId → ThreadState := fun _ => {}
  /-- The names that have a slot. -/
  registry : SlotRegistry
  /-- The stubs, if this process has any. -/
  region : Option StubRegion
  /-- The vendors' tables, in the order of creation. -/
  tables : List (TableRecord φ) := []
  /-- The tables in which new names are looked up. -/
  tracked : List TableId := []
  /-- The names that vendors have been asked for, and in which table, the latest first. -/
  asked : List (TableId × String) := []

namespace Switchboard

variable {φ : Type} (p : Switchboard φ)

/-! ### Threads -/

/-- Changes what a thread keeps for itself. -/
def modifyThread (t : ThreadId) (f : ThreadState → ThreadState) : Switchboard φ :=
  { p with threads := fun u => if u = t then f (p.threads t) else p.threads u }

/-! ### Tables -/

/-- A vendor's table and who keeps it alive. -/
def table? (t : TableId) : Option (TableRecord φ) := p.tables[t.index]?

/-- Whether anybody keeps a table alive. -/
def isAlive (t : TableId) : Bool := (p.table? t).any TableRecord.isAlive

/-- Changes a table's record. -/
def modifyTable (t : TableId) (f : TableRecord φ → TableRecord φ) : Switchboard φ :=
  { p with tables := p.tables.modify t.index f }

/-- What stands in a slot's place of a table. -/
def entry (table : TableRef) (s : Slot) : Entry φ :=
  match table with
  | .noop => noopEntry s
  | .vendor t =>
    match p.table? t with
    | some r => r.table.entry s
    | none => .null

/-- Looks up in a table the names that it has not been asked for. -/
def fixUp (t : TableId) : Switchboard φ :=
  match p.table? t with
  | none => p
  | some r =>
    let (table, names) := r.table.fixUp p.registry
    { p with
      tables := p.tables.set t.index { r with table }
      asked := (names.map fun name => (t, name)).reverse ++ p.asked }

/-- The tracked tables that somebody keeps alive. -/
def liveTracked : List TableId := p.tracked.filter p.isAlive

/-- Adds a vendor's table, and forgets the tracked tables that nobody keeps alive. The caller holds
a handle on the new table. -/
def createTable (provide : Nat → String → Option φ) : TableId × Switchboard φ :=
  let t : TableId := ⟨p.tables.length⟩
  (t, { p with
    tables := p.tables ++ [{ table := .new provide }]
    tracked := p.liveTracked ++ [t] })

/-! ### Names and stubs -/

/-- The slot of a name. A new name is looked up in every live table at once, so that no table has to
be made current again before the name can be reached. -/
def assign (name : String) : Option Slot × Switchboard φ :=
  match p.registry.assign name with
  | .error _ => (none, p)
  | .ok (s, registry) =>
    let q := { p with registry }
    if p.registry.size < registry.size then
      let live := q.liveTracked
      (some s, live.foldl fixUp { q with tracked := live })
    else
      (some s, q)

/-- The address of the stub of a name. -/
def entryPoint (name : String) : Option Nat × Switchboard φ :=
  match p.assign name with
  | (none, p) => (none, p)
  | (some s, p) =>
    match p.region with
    | none => (none, p)
    | some region =>
      match region.generate s with
      | .error _ => (none, p)
      | .ok (address, region) => (some address, { p with region := some region })

/-- The table that a stub reaches on a thread. -/
def stubTable (model : StorageModel) (t : ThreadId) : TableRef :=
  match model with
  | .threadLocal => (p.threads t).cell
  | .threadSpecific => p.global.getD (p.threads t).cell

/-- The function that a call of the stub at an address reaches on a thread. -/
def stubTarget (t : ThreadId) (address : Nat) : Option (Entry φ) := do
  let region ← p.region
  let s ← region.slotForAddress? address
  return p.entry (p.stubTable region.model t) s

/-! ### The start -/

/-- A process in which nothing has been used: the given names have slots, and stubs if there is a
region for them. -/
def start (registry : SlotRegistry) (region : Option StubRegion) : Except Error (Switchboard φ) :=
  match region with
  | none => .ok { registry, region := none }
  | some region => do
    let region ← region.generateAll ((registry.slotsFrom 0).map Prod.fst)
    return { registry, region := some region }

end Switchboard

end VendorDispatch
