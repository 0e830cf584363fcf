import VendorDispatch.Router.Exchange
import VendorDispatch.Router.Route

/-!
Requests that the router hands on: to the owner of a screen, a resource or a tag, or to every
active vendor.

* `RoutedRequest.serve` keeps the owners of resources in step with what the request creates or
  destroys.
* `Forwarding.single` routes by the tag that every opcode from 100 up carries.
* `Forwarding.broadcast` shows every active vendor the request as the client sent it.
-/

namespace VendorDispatch

variable {σ δ : Type} (env : Environment σ δ)

namespace Forwarding

/-- Hands the request to a vendor. -/
def forward (vendor : VendorId) : ExchangeM σ δ Unit :=
  ExchangeM.onClient (env.forward vendor)

/-- The owner of a tag of the client. -/
def tagVendor (tag : ContextTag) : ExchangeM σ δ VendorId := do
  let c ← ExchangeM.client
  match ← ExchangeM.onSession (Environment.vendorOfTag c.id tag) with
  | some vendor => return vendor
  | none => ExchangeM.failAt tag (.extension .badContextTag)

/-- The owner of a resource; `e` answers the request when there is none. -/
def xidVendor (id : Xid) (e : ProtocolError) : ExchangeM σ δ VendorId := do
  match ← ExchangeM.onSession (env.vendorOfXid id) with
  | some vendor => return vendor
  | none => ExchangeM.failAt id e

/-- A request from opcode 100 up goes to the owner of its tag. -/
def single : ExchangeM σ δ Unit := do
  let tag ← ExchangeM.readWord 4
  forward env (← tagVendor tag)

/-- Copying between contexts goes to the owner of the tag, or of the source context when the tag is
zero. -/
def copyContext : ExchangeM σ δ Unit := do
  let source ← ExchangeM.readWord 4
  let tag ← ExchangeM.readWord 16
  if tag ≠ 0 then
    forward env (← tagVendor tag)
  else
    forward env (← xidVendor env source (.extension .badContext))

/-- Swapping buffers goes to the owner of the tag, or of the drawable when the tag is zero. -/
def swapBuffers : ExchangeM σ δ Unit := do
  let tag ← ExchangeM.readWord 4
  let drawable ← ExchangeM.readWord 8
  if tag ≠ 0 then
    forward env (← tagVendor tag)
  else
    forward env (← xidVendor env drawable (.extension .badDrawable))

/-- Hands the request to each of the vendors in turn, whatever they answer. Each of them finds the
given bytes, and so does whoever looks at the request afterwards. -/
def broadcastTo (sent : List UInt8) : List VendorId → ExchangeM σ δ Unit
  | [] => return ()
  | vendor :: rest => do
    discard (ExchangeM.attempt (forward env vendor))
    ExchangeM.modifyClient fun c => { c with request := sent }
    broadcastTo sent rest

/-- Client information goes to every active vendor, exactly as the client sent it. -/
def broadcast : ExchangeM σ δ Unit := do
  let sent := (← ExchangeM.client).request
  broadcastTo env sent env.registry.active

end Forwarding

namespace RoutedRequest

variable (r : RoutedRequest)

/-- The owner of the routing field. -/
def owner (field : UInt32) : ExchangeM σ δ (Option VendorId) := do
  match r.route with
  | .screen => ExchangeM.onSession do return (← SessionM.ownership).screenVendor field.toNat
  | .xid => ExchangeM.onSession (env.vendorOfXid field)
  | .tag =>
    let c ← ExchangeM.client
    ExchangeM.onSession (Environment.vendorOfTag c.id field)

/-- The id of the resource that the request creates. The window system may refuse it. -/
def newXid : ExchangeM σ δ (Option Xid) := do
  match r.adds with
  | none => return none
  | some offset =>
    let id ← ExchangeM.readWord offset
    let c ← ExchangeM.client
    if ← ExchangeM.onSession (env.legalNewResource id c) then
      return some id
    else
      ExchangeM.failAt id .badIDChoice

/-- The id of the resource that the request destroys. -/
def oldXid : ExchangeM σ δ (Option Xid) := do
  match r.removes with
  | none => return none
  | some offset => return some (← ExchangeM.readWord offset)

/-- Finds the owner and hands the request to it. A resource that the request creates belongs to the
owner from before it is asked, unless the owner fails; one that the request destroys is forgotten
if the owner succeeds. The ids are those of the request as the client sent it, even if the owner
changes the request. -/
def serve : ExchangeM σ δ Unit := do
  let field ← ExchangeM.readWord r.offset
  let created ← r.newXid env
  match ← r.owner env field with
  | none => ExchangeM.failAt field r.failsWith
  | some vendor =>
    let destroyed ← r.oldXid
    if let some id := created then
      unless ← ExchangeM.onSession (env.addXid id vendor) do
        ExchangeM.fail .badAlloc
    match ← ExchangeM.attempt (Forwarding.forward env vendor) with
    | .ok () =>
      if let some id := destroyed then
        ExchangeM.onSession (Environment.removeXid id)
    | .error e =>
      if let some id := created then
        ExchangeM.onSession (Environment.removeXid id)
      ExchangeM.fail e

end RoutedRequest

end VendorDispatch
