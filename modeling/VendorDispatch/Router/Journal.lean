import VendorDispatch.Router.Vendor.Interface

/-!
The journal: what happened between the router, the vendors and the window system, in order.

Every call of a vendor's callback is entered when it is made, with its arguments and with the
vendor's standing at that moment, and again when it returns, with what it returned. Between the two
stand the questions asked of the window system, the export calls of the vendor, and its notes.
-/

namespace VendorDispatch

/-- A call of a vendor's callback, with its arguments. -/
inductive Callback (δ : Type)
  /-- Prepare for a generation. -/
  | init (entry : ExtensionEntry)
  /-- Let go of everything at the end of a generation. -/
  | closeDown (entry : ExtensionEntry)
  /-- Serve the client's current request. -/
  | request (client : Client)
  /-- Offer a handler for a minor opcode and a vendor code. -/
  | query (minor : UInt8) (code : UInt32)
  /-- Serve the client's current request with the handler offered for an opcode and a code. -/
  | procedure (minor : UInt8) (code : UInt32) (client : Client)
  /-- Bind or release a context for the client. -/
  | makeCurrent (client : Client) (request : MakeCurrentRequest δ)

/-- What a callback returns. -/
def Callback.Answer {δ : Type} : Callback δ → Type
  | init _ => Except Error Unit
  | closeDown _ => Unit
  | request _ => Client × Except ProtocolError Unit
  | query .. => Bool
  | procedure .. => Client × Except ProtocolError Unit
  | makeCurrent .. => Client × Except ProtocolError (Option δ)

/-- One entry of the journal. -/
inductive Event (δ : Type)
  /-- The router calls a vendor, which is or is not initialized at that moment. -/
  | called (vendor : VendorId) (initialized : Bool) (callback : Callback δ)
  /-- A callback returns. For a query the answer says whether a handler was offered. -/
  | returned (vendor : VendorId) (callback : Callback δ) (answer : callback.Answer)
  /-- The window system is asked for the screen of a drawable. -/
  | drawableAsked (id : Xid) (access : AccessMode)
  /-- The window system is asked whether a client may use an id. -/
  | resourceAsked (id : Xid) (client : ClientId)
  /-- A vendor made an export call. -/
  | exported (request : ExportCall δ) (answer : request.Answer)
  /-- A vendor left a note. -/
  | noted (text : δ)

end VendorDispatch
