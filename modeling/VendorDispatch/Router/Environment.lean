import VendorDispatch.Router.Session
import VendorDispatch.Router.Vendor.Registry

/-!
The exports: what the calls of a vendor do, and how a callback's program runs.

* `Environment.perform` is the effect of one export call.
* `Environment.serveWith` hands a request to a vendor, which must be initialized.
* `Environment.interpret` runs a program. A request that a vendor forwards while serving a forwarded
  request is nested; the environment limits the depth of nesting, so every program ends.
-/

namespace VendorDispatch

/-- What stays fixed while callbacks run. -/
structure Environment (σ δ : Type) where
  /-- The window system. -/
  host : WindowSystem σ
  /-- The vendors. -/
  registry : Registry σ δ
  /-- The number of the extension's first error. -/
  errorBase : UInt8
  /-- How deep forwarded requests may nest. -/
  nestingLimit : Nat

namespace Environment

variable {σ δ α : Type} (env : Environment σ δ)

/-! ### Questions to the window system -/

/-- The screen of a drawable. -/
def lookupDrawable (id : Xid) (access : AccessMode) : SessionM σ δ (Option Nat) := do
  SessionM.record (.drawableAsked id access)
  return env.host.lookupDrawable (← SessionM.world) id access

/-- Whether a client may use an id for a new resource. -/
def legalNewResource (id : Xid) (client : Client) : SessionM σ δ Bool := do
  SessionM.record (.resourceAsked id client.id)
  return env.host.legalNewResource (← SessionM.world) id client

/-! ### Export calls -/

/-- The owner of a resource. An id without an owner of its own may still be a drawable, which
belongs to the owner of its screen. -/
def vendorOfXid (id : Xid) : SessionM σ δ (Option VendorId) := do
  match (← SessionM.ownership).xids.get? id with
  | some vendor => return some vendor
  | none =>
    let screen ← env.lookupDrawable id .getAttributes
    return screen.bind (← SessionM.ownership).screenVendor

/-- Makes an initialized vendor the owner of a screen. -/
def setScreenVendor (screen : Nat) (vendor : VendorId) : SessionM σ δ (Except Error Unit) := do
  if !env.registry.contains vendor then
    return .error .unknownVendor
  else if !env.registry.isInitialized vendor then
    return .error .vendorNotInitialized
  else if env.host.screenCount (← SessionM.world) ≤ screen then
    return .error .badScreen
  else
    match (← SessionM.ownership).setScreenVendor? screen vendor with
    | none => return .error .badScreen
    | some o =>
      SessionM.setOwnership o
      return .ok ()

/-- Makes a registered vendor the owner of a resource, and says whether it did. -/
def addXid (id : Xid) (vendor : VendorId) : SessionM σ δ Bool := do
  if env.registry.contains vendor then
    let (added, o) := (← SessionM.ownership).addXid id vendor
    SessionM.setOwnership o
    return added
  else
    return false

/-- Forgets the owner of a resource. -/
def removeXid (id : Xid) : SessionM σ δ Unit := do
  SessionM.setOwnership ((← SessionM.ownership).removeXid id)

/-- The owner of a client's live tag. -/
def vendorOfTag (client : ClientId) (tag : ContextTag) : SessionM σ δ (Option VendorId) := do
  return ((← SessionM.ownership).lookupTag client tag).bind TagInfo.owner

/-- The private data on a tag, for the vendor that owns it. -/
def tagData (client : ClientId) (tag : ContextTag) (vendor : VendorId) :
    SessionM σ δ (Option (Option δ)) := do
  match (← SessionM.ownership).lookupTag client tag with
  | none => return none
  | some e => return if e.owner = some vendor then some e.data else none

/-- Replaces the private data on a tag, for the vendor that owns it, and says whether it did. The
client has a table of tags from then on. -/
def setTagData (client : ClientId) (tag : ContextTag) (vendor : VendorId) (data : Option δ) :
    SessionM σ δ Bool := do
  let o ← SessionM.ownership
  let owned := ((o.lookupTag client tag).bind TagInfo.owner) = some vendor
  SessionM.setOwnership <| o.modifyTags client fun t =>
    if owned then t.modify tag fun e => { e with data } else t
  return owned

/-- Does what an export call asks for. -/
def perform : (request : ExportCall δ) → SessionM σ δ request.Answer
  | .setScreenVendor screen vendor => env.setScreenVendor screen vendor
  | .screenVendor screen => do return (← SessionM.ownership).screenVendor screen
  | .addXid id vendor => env.addXid id vendor
  | .xidVendor id => env.vendorOfXid id
  | .removeXid id => removeXid id
  | .tagVendor client tag => vendorOfTag client tag
  | .tagData client tag vendor => tagData client tag vendor
  | .setTagData client tag vendor data => setTagData client tag vendor data
  | .errorBase => return env.errorBase
  | .screenCount => do return env.host.screenCount (← SessionM.world)
  | .isExiting => do return env.host.isExiting (← SessionM.world)
  | .lookupDrawable id access => env.lookupDrawable id access
  | .legalNewResource id client => env.legalNewResource id client

/-! ### Programs -/

/-- Runs a program, with the given way to forward requests. -/
def runWith
    (forward : VendorId → Client → SessionM σ δ (Client × Except ProtocolError Unit)) :
    Program σ δ α → SessionM σ δ α
  | .done a => return a
  | .readWorld next => do runWith forward (next (← SessionM.world))
  | .writeWorld w next => do
    SessionM.setWorld w
    runWith forward next
  | .note n next => do
    SessionM.record (.noted n)
    runWith forward next
  | .call request next => do
    let answer ← env.perform request
    SessionM.record (.exported request answer)
    runWith forward (next answer)
  | .forward vendor client next => do
    runWith forward (next (← forward vendor client))
  | .panic => SessionM.panic

/-- The handler of forwarded requests of a vendor, if the vendor is initialized. -/
def requestHandler? (vendor : VendorId) : Option (RequestHandler σ δ) :=
  ((env.registry.get? vendor).filter Vendor.initialized).bind fun v => v.interface.handleRequest

/-- The handler by which a vendor binds and releases contexts. -/
def makeCurrentHandler? (vendor : VendorId) : Option (MakeCurrentHandler σ δ) :=
  (env.registry.interface? vendor).bind VendorInterface.makeCurrent

/-- Enters the call of a callback and its return into the journal, around the callback's work. -/
def calling (vendor : VendorId) (callback : Callback δ)
    (work : SessionM σ δ callback.Answer) : SessionM σ δ callback.Answer := do
  SessionM.record (.called vendor (env.registry.isInitialized vendor) callback)
  let answer ← work
  SessionM.record (.returned vendor callback answer)
  return answer

/-- Hands a client's current request to a vendor. A vendor that is not initialized cannot serve
it. -/
def serveWith
    (forward : VendorId → Client → SessionM σ δ (Client × Except ProtocolError Unit))
    (vendor : VendorId) (client : Client) :
    SessionM σ δ (Client × Except ProtocolError Unit) :=
  match env.requestHandler? vendor with
  | none => return (client, .error .badImplementation)
  | some handler =>
    env.calling vendor (.request client) (env.runWith forward (handler client))

/-- Hands on a request from within a callback, with the given number of further levels allowed. -/
def forwardNested :
    Nat → VendorId → Client → SessionM σ δ (Client × Except ProtocolError Unit)
  | 0, _, _ => throw .nestedTooDeep
  | depth + 1, vendor, client => env.serveWith (forwardNested depth) vendor client

/-- Runs a program. -/
def interpret (p : Program σ δ α) : SessionM σ δ α :=
  env.runWith (env.forwardNested env.nestingLimit) p

/-- Hands a client's current request to a vendor. -/
def forward (vendor : VendorId) (client : Client) :
    SessionM σ δ (Client × Except ProtocolError Unit) :=
  env.serveWith (env.forwardNested env.nestingLimit) vendor client

end Environment

end VendorDispatch
