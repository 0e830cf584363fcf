import VendorDispatch.Router.Vendor.Program

/-!
The callbacks that a vendor hands to the router.

* `VendorInterface.validate` checks that the required callbacks are present; only the one for
  initialization is optional.
-/

namespace VendorDispatch

/-- Serves the current request of a client, and may change the client on the way. -/
abbrev RequestHandler (σ δ : Type) :=
  Client → Program σ δ (Client × Except ProtocolError Unit)

/-- What a vendor is asked to make current, or to release. -/
structure MakeCurrentRequest (δ : Type) where
  /-- The tag to release; zero when binding. -/
  oldTag : ContextTag := 0
  /-- The private data on the tag to release. -/
  oldData : Option δ := none
  /-- The drawable to draw to. -/
  drawable : Xid := 0
  /-- The drawable to read from. -/
  readDrawable : Xid := 0
  /-- The context to bind; zero when releasing. -/
  context : Xid := 0
  /-- The tag that the binding gets; zero when releasing. -/
  newTag : ContextTag := 0
  deriving DecidableEq, Repr, Inhabited

/-- Binds or releases a context for a client. An accepted binding returns the private data to store
on its tag. -/
abbrev MakeCurrentHandler (σ δ : Type) :=
  Client → MakeCurrentRequest δ → Program σ δ (Client × Except ProtocolError (Option δ))

/-- The callbacks that a vendor hands to the router. -/
structure VendorInterface (σ δ : Type) where
  /-- The version that the vendor was built for. -/
  abi : AbiVersion := .current
  /-- Called once in each generation, with the vendor's own handle. -/
  init : Option (ExtensionEntry → VendorId → Program σ δ (Except Error Unit)) := none
  /-- Called at the end of each generation. -/
  closeDown : Option (ExtensionEntry → σ → σ) := none
  /-- Serves requests that the router forwards. -/
  handleRequest : Option (RequestHandler σ δ) := none
  /-- Offers a handler for a minor opcode and a vendor code. -/
  dispatchAddress : Option (UInt8 → UInt32 → σ → Option (RequestHandler σ δ) × σ) := none
  /-- Binds and releases contexts. -/
  makeCurrent : Option (MakeCurrentHandler σ δ) := none

namespace VendorInterface

variable {σ δ : Type}

/-- Checks that the required callbacks are present. Only the one for initialization is optional. -/
def validate (i : VendorInterface σ δ) : Except Error Unit :=
  if i.closeDown.isSome ∧ i.handleRequest.isSome ∧ i.dispatchAddress.isSome ∧
      i.makeCurrent.isSome then
    .ok ()
  else
    .error .missingVendorCallbacks

/-- Whether the required callbacks are present. -/
def isComplete (i : VendorInterface σ δ) : Bool := i.validate.toBool

/-- The interface as text: its version, and which callbacks are present. -/
def text (i : VendorInterface σ δ) : String :=
  "ServerImports \x7b abi_version: " ++ i.abi.text ++
    ", extension_init: " ++ toString i.init.isSome ++
    ", extension_close_down: " ++ toString i.closeDown.isSome ++
    ", handle_request: " ++ toString i.handleRequest.isSome ++
    ", get_dispatch_address: " ++ toString i.dispatchAddress.isSome ++
    ", make_current: " ++ toString i.makeCurrent.isSome ++ " \x7d"

end VendorInterface

end VendorDispatch
