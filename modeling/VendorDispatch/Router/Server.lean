import VendorDispatch.Router.Dispatcher

/-!
The router as a whole.

A generation runs from `Server.beginGeneration`, which initializes the vendors, to
`Server.endGeneration`, which lets them go. In between, `Server.serve` serves the requests of
clients. Every operation that may call vendors answers with a `Step`: its result, the journal of
what happened, and the router afterwards.
-/

namespace VendorDispatch

/-- The router, with the window system and the world around it. -/
structure Server (σ δ : Type) where
  /-- The window system. -/
  host : WindowSystem σ
  /-- The world of the window system and the vendors. -/
  world : σ
  /-- The vendors. -/
  registry : Registry σ δ := {}
  /-- Who owns what. -/
  ownership : Ownership δ
  /-- What is known about opcodes and vendor codes. -/
  dispatcher : Dispatcher σ δ := .initial
  /-- The extension's registration in the current generation. -/
  extension : Option ExtensionEntry := none
  /-- How deep forwarded requests may nest. -/
  nestingLimit : Nat

/-- What an operation of the router did. -/
structure Step (σ δ α : Type) where
  /-- What it returned, unless it was broken off. -/
  result : Except Abort α
  /-- What happened, in order. -/
  journal : List (Event δ)
  /-- The router afterwards. -/
  server : Server σ δ

namespace Server

variable {σ δ α : Type}

/-- A router without vendors, between generations. -/
def new (host : WindowSystem σ) (world : σ) (nestingLimit : Nat) : Server σ δ where
  host := host
  world := world
  ownership := .vacant (host.screenCount world)
  nestingLimit := nestingLimit

/-- The number of the extension's first error; zero between generations. -/
def errorBase (s : Server σ δ) : UInt8 :=
  match s.extension with
  | some entry => entry.errorBase
  | none => 0

/-- The number sent to a client for an error. -/
def errorCode (s : Server σ δ) (e : ProtocolError) : UInt8 := e.code s.errorBase

/-- The number of screens. -/
def screenCount (s : Server σ δ) : Nat := s.host.screenCount s.world

/-- What stays fixed while callbacks run. -/
def environment (s : Server σ δ) : Environment σ δ where
  host := s.host
  registry := s.registry
  errorBase := s.errorBase
  nestingLimit := s.nestingLimit

/-- The state that callbacks act on, with an empty journal. -/
def session (s : Server σ δ) : Session σ δ where
  world := s.world
  ownership := s.ownership

/-- The router with the state that callbacks left. -/
def withSession (s : Server σ δ) (t : Session σ δ) : Server σ δ :=
  { s with world := t.world, ownership := t.ownership }

/-- Runs work on the session as one operation. -/
def runSession (s : Server σ δ) (work : SessionM σ δ α) : Step σ δ α :=
  match work s.session with
  | .ok a t => ⟨.ok a, t.journal.reverse, s.withSession t⟩
  | .error a t => ⟨.error a, t.journal.reverse, s.withSession t⟩

/-! ### Vendors -/

/-- Registers a vendor. It takes part from the next generation on. -/
def createVendor (s : Server σ δ) (interface : VendorInterface σ δ) :
    Except Error (VendorId × Server σ δ) := do
  let (id, registry) ← s.registry.create interface
  return (id, { s with registry })

/-- Frees a vendor that takes no part in the current generation. -/
def destroyVendor (s : Server σ δ) (vendor : VendorId) : Except Error (Server σ δ) := do
  return { s with registry := ← s.registry.destroy vendor }

/-! ### Generations -/

/-- Calls the initialization of a vendor, if it has one. -/
def initVendor (env : Environment σ δ) (entry : ExtensionEntry) (vendor : VendorId) :
    SessionM σ δ (Except Error Unit) :=
  match (env.registry.interface? vendor).bind VendorInterface.init with
  | none => return .ok ()
  | some init => env.calling vendor (.init entry) (env.interpret (init entry vendor))

/-- Calls the initialization of the given vendors in turn. One that fails is taken out of the
generation and loses its screens. -/
def initVendors (entry : ExtensionEntry) :
    List VendorId → Server σ δ → List (Event δ) → Step σ δ Unit
  | [], s, journal => ⟨.ok (), journal, s⟩
  | vendor :: rest, s, journal =>
    let step := s.runSession (initVendor s.environment entry vendor)
    let journal := journal ++ step.journal
    match step.result with
    | .error a => ⟨.error a, journal, step.server⟩
    | .ok (.ok ()) => initVendors entry rest step.server journal
    | .ok (.error _) =>
      let left := { step.server with
        registry := step.server.registry.demote vendor
        ownership := step.server.ownership.unassignScreens vendor }
      initVendors entry rest left journal

/-- Starts a generation: nobody owns anything, nothing is learned yet, and every complete vendor is
initialized, in the order of registration. -/
def beginGeneration (s : Server σ δ) (entry : ExtensionEntry) : Step σ δ (Except Error Unit) :=
  match s.extension with
  | some _ => ⟨.ok (.error .extensionAlreadyInitialized), [], s⟩
  | none =>
    let opened := { s with
      registry := s.registry.beginGeneration
      ownership := .vacant s.screenCount
      dispatcher := s.dispatcher.reset
      extension := some entry }
    let step := initVendors entry opened.registry.active opened []
    ⟨step.result.map Except.ok, step.journal, step.server⟩

/-- Calls the close-down of the given vendors in turn. -/
def closeVendors (env : Environment σ δ) (entry : ExtensionEntry) :
    List VendorId → SessionM σ δ Unit
  | [] => return ()
  | vendor :: rest => do
    if let some closeDown := (env.registry.interface? vendor).bind VendorInterface.closeDown then
      env.calling vendor (.closeDown entry) do
        SessionM.setWorld (closeDown entry (← SessionM.world))
    closeVendors env entry rest

/-- Ends a generation: nobody owns anything, nothing is learned, and every initialized vendor is
closed down, in the order of registration. If the window system is shutting down, every vendor is
freed. -/
def endGeneration (s : Server σ δ) : Step σ δ (Except Error Unit) :=
  match s.extension with
  | none => ⟨.ok (.error .extensionNotInitialized), [], s⟩
  | some entry =>
    let closed := { s with
      registry := s.registry.endGeneration
      ownership := .vacant s.screenCount
      dispatcher := s.dispatcher.reset
      extension := none }
    let step := closed.runSession
      (closeVendors closed.environment entry s.registry.initializedIds)
    let left := step.server
    let cleared :=
      if left.host.isExiting left.world then { left with registry := left.registry.clear }
      else left
    ⟨step.result.map Except.ok, step.journal, cleared⟩

/-! ### Requests -/

/-- Serves the current request of a client. Replies are written to the client; an error is for the
window system to send. -/
def serve (s : Server σ δ) (client : Client) :
    Step σ δ (Client × Except ProtocolError Unit) :=
  match s.extension with
  | none => ⟨.ok (client, .error .badRequest), [], s⟩
  | some _ =>
    match s.dispatcher.resolve s.environment client s.session with
    | .error a t => ⟨.error a, t.journal.reverse, s.withSession t⟩
    | .ok (.error e, d) t =>
      ⟨.ok (client, .error e), t.journal.reverse, { s.withSession t with dispatcher := d }⟩
    | .ok (.ok target, d) t =>
      let finish (x : Exchange σ δ) (result : Except Abort (Except ProtocolError Unit)) :=
        ⟨result.map fun r => (x.client, r), x.session.journal.reverse,
          { s.withSession x.session with dispatcher := d }⟩
      match target.serve s.environment { client, session := t } with
      | .ok () x => finish x (.ok (.ok ()))
      | .error (.error e) x => finish x (.ok (.error e))
      | .error (.abort a) x => finish x (.error a)

/-- Drops the tags of a client that has disconnected. -/
def clientGone (s : Server σ δ) (client : ClientId) : Server σ δ :=
  { s with ownership := s.ownership.clientGone client }

/-- Forgets a resource that the window system has destroyed. -/
def resourceFreed (s : Server σ δ) (id : Xid) : Server σ δ :=
  { s with ownership := s.ownership.removeXid id }

/-- Runs a program on behalf of a vendor, outside of its callbacks. -/
def perform (s : Server σ δ) (p : Program σ δ α) : Step σ δ α :=
  s.runSession (s.environment.interpret p)

end Server

end VendorDispatch
