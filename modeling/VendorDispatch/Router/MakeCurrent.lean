import VendorDispatch.Router.Exchange

/-!
Making a context current for a client.

A request names the tag to let go of and the context, drawable and read drawable to bind. The old
owner is asked to release its tag first, then the new owner to bind under a new tag; switching is
not atomic, so if the new owner refuses, nothing is current. A request that asks for what the old
tag already stands for is answered by that tag, and no vendor is asked.

* `MakeCurrent.Encoding` is one of the three spellings of the request, and `MakeCurrent.read` reads
  any of them.
* `MakeCurrent.serve` is the switch.
-/

namespace VendorDispatch

namespace MakeCurrent

variable {σ δ : Type}

/-- What a client asks to make current. -/
structure Switch where
  /-- The tag to let go of; zero for none. -/
  oldTag : ContextTag
  /-- The drawable to draw to. -/
  drawable : Xid
  /-- The drawable to read from. -/
  readDrawable : Xid
  /-- The context to bind; zero for none. -/
  context : Xid
  deriving DecidableEq, Repr, Inhabited

/-- Whether a tag already stands for what the client asks for. -/
def Switch.isHeldBy (q : Switch) (e : TagInfo δ) : Bool :=
  e.context = q.context && e.drawable = q.drawable && e.readDrawable = q.readDrawable

/-- The spellings of the request. -/
inductive Encoding
  /-- One drawable to draw to and to read from. -/
  | oneDrawable
  /-- A drawable to draw to and one to read from. -/
  | twoDrawables
  /-- The same, as a vendor-private request. -/
  | vendorPrivate
  deriving DecidableEq, Repr, Inhabited

/-- Reads the request in one of its spellings. -/
def read : Encoding → ExchangeM σ δ Switch
  | .oneDrawable => do
    let drawable ← ExchangeM.readWord 4
    let context ← ExchangeM.readWord 8
    let oldTag ← ExchangeM.readWord 12
    return { oldTag, drawable, readDrawable := drawable, context }
  | .twoDrawables => do
    let oldTag ← ExchangeM.readWord 4
    let drawable ← ExchangeM.readWord 8
    let readDrawable ← ExchangeM.readWord 12
    let context ← ExchangeM.readWord 16
    return { oldTag, drawable, readDrawable, context }
  | .vendorPrivate => do
    let oldTag ← ExchangeM.readWord 8
    let drawable ← ExchangeM.readWord 12
    let readDrawable ← ExchangeM.readWord 16
    let context ← ExchangeM.readWord 20
    return { oldTag, drawable, readDrawable, context }

variable (env : Environment σ δ)

/-- What stands behind the tag to let go of. -/
def oldEntry (tag : ContextTag) : ExchangeM σ δ (Option (TagInfo δ)) := do
  if tag = 0 then
    return none
  else
    let c ← ExchangeM.client
    match (← ExchangeM.onSession SessionM.ownership).lookupTag c.id tag with
    | some e => return some e
    | none => ExchangeM.failAt tag (.extension .badContextTag)

/-- The owner of the context to bind. -/
def newVendor (context : Xid) : ExchangeM σ δ (Option VendorId) := do
  if context = 0 then
    return none
  else
    match ← ExchangeM.onSession (env.vendorOfXid context) with
    | some vendor => return some vendor
    | none => ExchangeM.failAt context (.extension .badContext)

/-- Asks a vendor to bind or to release. -/
def ask (vendor : VendorId) (q : MakeCurrentRequest δ) : ExchangeM σ δ (Option δ) :=
  match env.makeCurrentHandler? vendor with
  | none => ExchangeM.fail .badImplementation
  | some handler =>
    ExchangeM.onClient fun c =>
      env.calling vendor (.makeCurrent c q) (env.interpret (handler c q))

/-- Asks the owner of a tag to release it. The tag is free once the owner agrees. -/
def release (old : TagInfo δ) : ExchangeM σ δ Unit := do
  match old.owner with
  | none => ExchangeM.fail .badImplementation
  | some vendor =>
    discard (ask env vendor { oldTag := old.tag, oldData := old.data })
    ExchangeM.modifyTags fun t => t.free old.tag

/-- Claims a tag of the client for a vendor. -/
def claimTag (vendor : VendorId) : ExchangeM σ δ ContextTag := do
  let c ← ExchangeM.client
  match (← ExchangeM.onSession SessionM.ownership).allocateTag? c.id vendor with
  | some (tag, o) =>
    ExchangeM.onSession (SessionM.setOwnership o)
    return tag
  | none => throw (.abort .panicked)

/-- Asks a vendor to bind under a new tag. The tag is free again if the vendor refuses. -/
def bind (vendor : VendorId) (q : Switch) : ExchangeM σ δ ContextTag := do
  let tag ← claimTag vendor
  let asked ← ExchangeM.attempt <| ask env vendor
    { drawable := q.drawable, readDrawable := q.readDrawable, context := q.context, newTag := tag }
  match asked with
  | .ok data =>
    ExchangeM.modifyTags fun t => t.modify tag fun e =>
      { e with data, context := q.context, drawable := q.drawable, readDrawable := q.readDrawable }
    return tag
  | .error e =>
    ExchangeM.modifyTags fun t => t.free tag
    ExchangeM.fail e

/-- Lets go of the old tag and binds the new context. -/
def switchTo (q : Switch) (old : Option (TagInfo δ)) (vendor : Option VendorId) :
    ExchangeM σ δ ContextTag := do
  if let some e := old then
    release env e
  match vendor with
  | some v => bind env v q
  | none => return 0

/-- The tag that answers the request. -/
def newTag (q : Switch) (old : Option (TagInfo δ)) (vendor : Option VendorId) :
    ExchangeM σ δ ContextTag :=
  match old, vendor with
  | some e, some _ => if q.isHeldBy e then return e.tag else switchTo env q old vendor
  | _, _ => switchTo env q old vendor

/-- Makes what a client asks for current, and replies with its tag. -/
def switch (q : Switch) : ExchangeM σ δ Unit := do
  let old ← oldEntry q.oldTag
  let vendor ← newVendor env q.context
  let tag ← newTag env q old vendor
  ExchangeM.sendReply [(8, tag)]

/-- Serves a make-current request in one of its spellings. -/
def serve (encoding : Encoding) : ExchangeM σ δ Unit := do
  switch env (← read encoding)

end MakeCurrent

end VendorDispatch
