import VendorDispatch.Router.Journal

/-!
The state that callbacks act on, and work on it.

Work either returns a value or is broken off. Either way what was done so far stays done, so the
state after work that was broken off is the state at that moment.
-/

namespace VendorDispatch

/-- Why the work on a request was broken off, leaving everything as it stood. -/
inductive Abort
  /-- A mistake that the code itself detects: the program would stop here. -/
  | panicked
  /-- Requests were forwarded from within forwarded requests beyond the allowed depth. -/
  | nestedTooDeep
  deriving DecidableEq, Repr, Inhabited

/-- The state that callbacks act on. -/
structure Session (σ δ : Type) where
  /-- The world of the window system and the vendors. -/
  world : σ
  /-- Who owns what. -/
  ownership : Ownership δ
  /-- What has happened so far, the latest first. -/
  journal : List (Event δ) := []

/-- Work on a session. Breaking off keeps what was done so far. -/
abbrev SessionM (σ δ : Type) := EStateM Abort (Session σ δ)

namespace SessionM

variable {σ δ α : Type}

/-- Enters an event into the journal. -/
def record (e : Event δ) : SessionM σ δ Unit :=
  modify fun s => { s with journal := e :: s.journal }

/-- The world. -/
def world : SessionM σ δ σ := do return (← get).world

/-- Replaces the world. -/
def setWorld (w : σ) : SessionM σ δ Unit := modify fun s => { s with world := w }

/-- Who owns what. -/
def ownership : SessionM σ δ (Ownership δ) := do return (← get).ownership

/-- Replaces who owns what. -/
def setOwnership (o : Ownership δ) : SessionM σ δ Unit := modify fun s => { s with ownership := o }

/-- Stops because of a mistake. -/
def panic : SessionM σ δ α := throw .panicked

end SessionM

end VendorDispatch
