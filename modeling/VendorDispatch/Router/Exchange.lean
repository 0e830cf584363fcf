import VendorDispatch.Router.Environment

/-!
The router's own work on one request of one client.

An exchange is the client together with the session. The work stops early with a protocol error,
which answers the client, or is broken off; either way what was done so far stays done.
-/

namespace VendorDispatch

/-- One request being served. -/
structure Exchange (σ δ : Type) where
  /-- The client whose request it is. -/
  client : Client
  /-- The state that callbacks act on. -/
  session : Session σ δ

/-- Why the work on a request stops early. -/
inductive Fault
  /-- The request is answered by an error. -/
  | error (e : ProtocolError)
  /-- The work is broken off. -/
  | abort (a : Abort)
  deriving DecidableEq, Repr

/-- The router's work on a request. -/
abbrev ExchangeM (σ δ : Type) := EStateM Fault (Exchange σ δ)

namespace ExchangeM

variable {σ δ α : Type}

/-- The client. -/
def client : ExchangeM σ δ Client := do return (← get).client

/-- Changes the client. -/
def modifyClient (f : Client → Client) : ExchangeM σ δ Unit :=
  modify fun x => { x with client := f x.client }

/-- Answers the request by an error. -/
def fail (e : ProtocolError) : ExchangeM σ δ α := throw (.error e)

/-- Answers the request by an error about a value. -/
def failAt (value : UInt32) (e : ProtocolError) : ExchangeM σ δ α := do
  modifyClient fun c => { c with errorValue := value }
  fail e

/-- Continues with a value, or answers the request by the error in its place. -/
def ofExcept : Except ProtocolError α → ExchangeM σ δ α
  | .ok a => return a
  | .error e => fail e

/-- Works on the session alone. -/
def onSession (work : SessionM σ δ α) : ExchangeM σ δ α := fun x =>
  match work x.session with
  | .ok a s => .ok a { x with session := s }
  | .error a s => .error (.abort a) { x with session := s }

/-- Lets a vendor work on the client: the client is then as the vendor left it, and the vendor's
error answers the request. -/
def onClient (work : Client → SessionM σ δ (Client × Except ProtocolError α)) :
    ExchangeM σ δ α := do
  let (c, result) ← onSession (work (← client))
  modifyClient fun _ => c
  ofExcept result

/-- Does the work and returns the error that answers the request, if there is one. -/
def attempt (work : ExchangeM σ δ α) : ExchangeM σ δ (Except ProtocolError α) := fun x =>
  match work x with
  | .ok a y => .ok (.ok a) y
  | .error (.error e) y => .ok (.error e) y
  | .error (.abort a) y => .error (.abort a) y

/-- The 32-bit number at a byte offset of the request. -/
def readWord (offset : Nat) : ExchangeM σ δ UInt32 := do
  ofExcept ((← client).readWord offset)

/-- Changes the tags of the client, which has a table from then on. -/
def modifyTags (f : TagTable δ → TagTable δ) : ExchangeM σ δ Unit := do
  let id := (← client).id
  onSession do SessionM.setOwnership ((← SessionM.ownership).modifyTags id f)

/-- Writes a reply with the given fields. Every field must lie inside the reply. -/
def sendReply (fields : List (Nat × UInt32)) : ExchangeM σ δ Unit := do
  let c ← client
  match (Reply.header c).putAll? fields with
  | some r => modifyClient fun c => c.writeReply r.bytes
  | none => throw (.abort .panicked)

end ExchangeM

end VendorDispatch
