import VendorDispatch.Router.Forwarding
import VendorDispatch.Router.MakeCurrent

/-!
Finding what serves a request, and serving it.

The dispatcher knows what serves each minor opcode below 100 and each vendor code. What it does not
know it asks the active vendors for, once: whatever they answer is kept for the generation, also
that nobody answers.

* `Dispatcher.resolve` finds the target of a request; `Target.serve` runs it.
* `Dispatcher.reset` forgets what was learned and keeps the count of queries.
-/

namespace VendorDispatch

variable {σ δ : Type}

/-- A handler that a vendor offered, with the opcode and the code that it was asked for. -/
structure Procedure (σ δ : Type) where
  /-- The vendor that offered it. -/
  vendor : VendorId
  /-- The minor opcode that was asked for. -/
  minor : UInt8
  /-- The vendor code that was asked for. -/
  code : UInt32
  /-- What it does. -/
  run : RequestHandler σ δ

/-- What serves a request. -/
inductive Target (σ δ : Type)
  /-- The router replies with the version of the extension. -/
  | version
  /-- The router makes a context current. -/
  | makeCurrent (encoding : MakeCurrent.Encoding)
  /-- The request goes to the owner of a tag or a context. -/
  | copyContext
  /-- The request goes to the owner of a tag or a drawable. -/
  | swapBuffers
  /-- The request goes to every active vendor. -/
  | clientInfo
  /-- The request goes to the owner of its tag. -/
  | single
  /-- The request goes to the owner of its routing field. -/
  | routed (r : RoutedRequest)
  /-- A handler that a vendor offered serves the request. -/
  | procedure (p : Procedure σ δ)
  /-- Nobody serves the request. -/
  | unclaimed

/-- What is known about a minor opcode. -/
inductive OpcodeEntry (σ δ : Type)
  /-- It has a target of its own. -/
  | target (t : Target σ δ)
  /-- The vendor code in the request decides. -/
  | byVendorCode

namespace Target

variable (env : Environment σ δ)

/-- Serves the current request of the client. -/
def serve : Target σ δ → ExchangeM σ δ Unit
  | version => ExchangeM.sendReply [(8, extensionVersion.1), (12, extensionVersion.2)]
  | makeCurrent encoding => MakeCurrent.serve env encoding
  | copyContext => Forwarding.copyContext env
  | swapBuffers => Forwarding.swapBuffers env
  | clientInfo => Forwarding.broadcast env
  | single => Forwarding.single env
  | routed r => r.serve env
  | procedure p =>
    ExchangeM.onClient fun c =>
      env.calling p.vendor (.procedure p.minor p.code c) (env.interpret (p.run c))
  | unclaimed => ExchangeM.fail .badRequest

end Target

/-- The number of opcodes with an entry of their own. -/
def opcodeCount : Nat := Opcode.firstSingle.toNat

/-- What is known about opcodes and vendor codes. -/
structure Dispatcher (σ δ : Type) where
  /-- What is known about each minor opcode below 100. -/
  opcodes : Vector (Option (OpcodeEntry σ δ)) opcodeCount
  /-- What serves each known vendor code. -/
  codes : Assoc UInt32 (Target σ δ)
  /-- How often the active vendors have been asked. -/
  queries : Nat := 0

namespace Dispatcher

/-- The opcodes that the router serves itself. -/
def builtins : List (UInt8 × OpcodeEntry σ δ) :=
  [(Opcode.queryVersion, .target .version),
   (Opcode.makeCurrent, .target (.makeCurrent .oneDrawable)),
   (Opcode.makeContextCurrent, .target (.makeCurrent .twoDrawables)),
   (Opcode.copyContext, .target .copyContext),
   (Opcode.swapBuffers, .target .swapBuffers),
   (Opcode.clientInfo, .target .clientInfo),
   (Opcode.setClientInfoARB, .target .clientInfo),
   (Opcode.setClientInfo2ARB, .target .clientInfo),
   (Opcode.vendorPrivate, .byVendorCode),
   (Opcode.vendorPrivateWithReply, .byVendorCode)]

/-- The opcodes that are known from the start. -/
def preset : List (UInt8 × OpcodeEntry σ δ) :=
  builtins ++ routedRequests.map fun r => (r.opcode, .target (.routed r))

/-- The entries of the opcodes that are known from the start. -/
def presetOpcodes : Vector (Option (OpcodeEntry σ δ)) opcodeCount :=
  preset.foldl (fun v e => v.setIfInBounds e.1.toNat (some e.2)) (Vector.replicate opcodeCount none)

/-- The vendor codes that are known from the start. -/
def presetCodes : Assoc UInt32 (Target σ δ) :=
  Assoc.empty.insert makeCurrentReadCode (.makeCurrent .vendorPrivate)

/-- The dispatcher that has learned nothing. -/
def initial : Dispatcher σ δ where
  opcodes := presetOpcodes
  codes := presetCodes

/-- Forgets what was learned. -/
def reset (d : Dispatcher σ δ) : Dispatcher σ δ := { initial with queries := d.queries }

/-! ### Asking the vendors -/

variable (env : Environment σ δ)

/-- Asks vendors in turn, up to the first that offers a handler. -/
def askEach (minor : UInt8) (code : UInt32) :
    List VendorId → SessionM σ δ (Option (Procedure σ δ))
  | [] => return none
  | vendor :: rest => do
    match (env.registry.interface? vendor).bind VendorInterface.dispatchAddress with
    | none => askEach minor code rest
    | some offer =>
      let (answer, world) := offer minor code (← SessionM.world)
      let _ ← env.calling vendor (.query minor code) do
        SessionM.setWorld world
        return answer.isSome
      match answer with
      | some run => return some { vendor, minor, code, run }
      | none => askEach minor code rest

/-- What the active vendors offer for a minor opcode and a vendor code. -/
def query (minor : UInt8) (code : UInt32) : SessionM σ δ (Target σ δ) := do
  match ← askEach env minor code env.registry.active with
  | some p => return .procedure p
  | none => return .unclaimed

/-! ### Resolution -/

/-- The entry of an opcode below 100, learned from the vendors if it is not known. -/
def resolveOpcode (d : Dispatcher σ δ) (minor : UInt8) (h : minor.toNat < opcodeCount) :
    SessionM σ δ (OpcodeEntry σ δ × Dispatcher σ δ) := do
  match d.opcodes[minor.toNat] with
  | some entry => return (entry, d)
  | none =>
    let target ← query env minor 0
    return (.target target,
      { d with
        opcodes := d.opcodes.set minor.toNat (some (.target target))
        queries := d.queries + 1 })

/-- The target of a vendor code, learned from the vendors if it is not known. -/
def resolveCode (d : Dispatcher σ δ) (minor : UInt8) (code : UInt32) :
    SessionM σ δ (Target σ δ × Dispatcher σ δ) := do
  match d.codes.get? code with
  | some target => return (target, d)
  | none =>
    let target ← query env minor code
    return (target, { d with codes := d.codes.insert code target, queries := d.queries + 1 })

/-- The target of a client's current request. -/
def resolve (d : Dispatcher σ δ) (client : Client) :
    SessionM σ δ (Except ProtocolError (Target σ δ) × Dispatcher σ δ) := do
  match client.minorOpcode with
  | .error e => return (.error e, d)
  | .ok minor =>
    if h : minor.toNat < opcodeCount then
      match ← resolveOpcode env d minor h with
      | (.target target, d) => return (.ok target, d)
      | (.byVendorCode, d) =>
        match client.readWord 4 with
        | .error e => return (.error e, d)
        | .ok code =>
          let (target, d) ← resolveCode env d minor code
          return (.ok target, d)
    else
      return (.ok .single, d)

end Dispatcher

end VendorDispatch
