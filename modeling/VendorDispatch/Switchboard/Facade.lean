import VendorDispatch.Switchboard.Action

/-!
What window-system libraries ask of the process: slots and stubs of names, tables, and making a
table current.

Most of these operations count the calling thread as using dispatch. The first thread that is
counted may use the process-wide pointer; the second makes it null for good.

* `Facade.setCurrent` stores a thread's cell, and the process-wide pointer as long as no second
  thread is counted.
* `Facade.makeCurrent` and `Facade.loseCurrent` also keep the current table alive.
-/

namespace VendorDispatch.Facade

variable {φ : Type}

/-! ### The current table -/

/-- Counts the calling thread as using dispatch. The second thread to be counted makes the
process-wide pointer null. -/
def countThread (t : ThreadId) : Task φ Unit := do
  let multithreaded : Bool ← Task.perform .loadMultithreaded
  if multithreaded then
    return ()
  let seen : Bool ← Task.perform (.swapSeen t)
  if seen then
    return ()
  let claimed : Bool ← Task.perform .swapClaimed
  if claimed then
    let already : Bool ← Task.perform .swapMultithreaded
    if !already then
      Task.perform (.storeGlobal none)

/-- Makes a table current on the calling thread. A second thread may be counted between the test
and the store of the process-wide pointer, so the test is repeated after it. -/
def setCurrent (t : ThreadId) (table : TableRef) : Task φ Unit := do
  countThread t
  Task.perform (.storeCell t table)
  let multithreaded : Bool ← Task.perform .loadMultithreaded
  if multithreaded then
    Task.perform (.storeGlobal none)
  else
    Task.perform (.storeGlobal (some table))
    let multithreaded : Bool ← Task.perform .loadMultithreaded
    if multithreaded then
      Task.perform (.storeGlobal none)

/-- The vendor's table that is current on the calling thread. -/
def getCurrent (t : ThreadId) : Task φ (Option TableId) := do
  countThread t
  let table : TableRef ← Task.perform (.loadCell t)
  match table with
  | .noop => return none
  | .vendor id => return some id

/-- The calling thread's function for a slot. -/
def lookup (t : ThreadId) (s : Slot) : Task φ (Entry φ) := do
  countThread t
  if maxSlots ≤ s.index then
    return .null
  let table : TableRef ← Task.perform (.loadCell t)
  Task.perform (.loadEntry table s)

/-! ### Names -/

/-- The slot of a name. -/
def slot (t : ThreadId) (name : String) : Task φ (Option Slot) := do
  countThread t
  Task.perform (.assign name)

/-- The address of the stub of a name. -/
def procAddress (t : ThreadId) (name : String) : Task φ (Option Nat) := do
  countThread t
  Task.perform (.entryPoint name)

/-! ### Tables -/

/-- Adds a vendor's table; the caller holds a handle on it. -/
def createTable (provide : Nat → String → Option φ) : Task φ TableId :=
  Task.perform (.createTable provide)

/-- Makes a table current on the calling thread, and keeps it alive. The table that was current
before is released only when the thread can no longer reach it. -/
def makeCurrent (t : ThreadId) (table : TableId) : Task φ Unit := do
  Task.perform (.beginUse table)
  Task.perform (.fixUp table)
  setCurrent t (.vendor table)
  let previous : Option TableId ← Task.perform (.replaceOwner t (some table))
  if let some old := previous then
    Task.perform (.releaseOwner old)
  Task.perform (.endUse table)

/-- Makes no vendor's table current on the calling thread. -/
def loseCurrent (t : ThreadId) : Task φ Unit := do
  setCurrent t .noop
  let previous : Option TableId ← Task.perform (.replaceOwner t none)
  if let some old := previous then
    Task.perform (.releaseOwner old)

/-- What happens when a thread ends: the table that it kept alive is released. -/
def endThread (t : ThreadId) : Task φ Unit := do
  let previous : Option TableId ← Task.perform (.replaceOwner t none)
  if let some old := previous then
    Task.perform (.releaseOwner old)

/-- The table that the calling thread keeps alive. -/
def currentTable (p : Switchboard φ) (t : ThreadId) : Option TableId := (p.threads t).owner

/-! ### Addresses -/

/-- The addresses of stubs: the first, and the one behind the last. -/
def publicEntryRange (p : Switchboard φ) : Option (Nat × Nat) :=
  p.region.map fun r => (r.start, r.limit)

/-- The slot whose stub starts at an address. -/
def slotForAddress (p : Switchboard φ) (address : Nat) : Option Slot :=
  p.region.bind fun r => r.slotForAddress? address

end VendorDispatch.Facade
