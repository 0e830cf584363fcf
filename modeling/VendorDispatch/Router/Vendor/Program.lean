import VendorDispatch.Error
import VendorDispatch.Wire.Field
import VendorDispatch.Wire.Reply
import VendorDispatch.Router.Ownership

/-!
What a vendor's callback does, as a program.

A callback computes on values of its own, among them the client that it was given, and acts on the
rest of the system through the constructors of `Program`: it reads and replaces the world, calls
the exports of the router, hands a request on to a vendor, and leaves notes. A program is a tree
whose branches are the answers it may get, so a statement about all programs is a statement about
all vendors.

* `Program.bind_assoc`, `Program.bind_done`: programs form a monad.
-/

namespace VendorDispatch

/-- The calls that the router exports to vendors, apart from handing on a request. -/
inductive ExportCall (δ : Type)
  /-- Makes a vendor the owner of a screen. -/
  | setScreenVendor (screen : Nat) (vendor : VendorId)
  /-- Asks for the owner of a screen. -/
  | screenVendor (screen : Nat)
  /-- Makes a vendor the owner of a resource. -/
  | addXid (id : Xid) (vendor : VendorId)
  /-- Asks for the owner of a resource or of the screen it is on. -/
  | xidVendor (id : Xid)
  /-- Forgets the owner of a resource. -/
  | removeXid (id : Xid)
  /-- Asks for the owner of a client's tag. -/
  | tagVendor (client : ClientId) (tag : ContextTag)
  /-- Asks for the private data on a tag that the named vendor owns. -/
  | tagData (client : ClientId) (tag : ContextTag) (vendor : VendorId)
  /-- Replaces the private data on a tag that the named vendor owns. -/
  | setTagData (client : ClientId) (tag : ContextTag) (vendor : VendorId) (data : Option δ)
  /-- Asks for the number of the extension's first error. -/
  | errorBase
  /-- Asks the window system for the number of screens. -/
  | screenCount
  /-- Asks the window system whether it is shutting down. -/
  | isExiting
  /-- Asks the window system for the screen of a drawable. -/
  | lookupDrawable (id : Xid) (access : AccessMode)
  /-- Asks the window system whether a client may use an id. -/
  | legalNewResource (id : Xid) (client : Client)

/-- What an export call answers. -/
def ExportCall.Answer {δ : Type} : ExportCall δ → Type
  | setScreenVendor .. => Except Error Unit
  | screenVendor _ => Option VendorId
  | addXid .. => Bool
  | xidVendor _ => Option VendorId
  | removeXid _ => Unit
  | tagVendor .. => Option VendorId
  | tagData .. => Option (Option δ)
  | setTagData .. => Bool
  | errorBase => UInt8
  | screenCount => Nat
  | isExiting => Bool
  | lookupDrawable .. => Option Nat
  | legalNewResource .. => Bool

/-- What a callback does, up to the value of type `α` that it returns. The type `σ` is that of the
world, `δ` that of private data and notes. -/
inductive Program (σ δ α : Type) : Type
  /-- Returns a value. -/
  | done (value : α)
  /-- Reads the world. -/
  | readWorld (next : σ → Program σ δ α)
  /-- Replaces the world. -/
  | writeWorld (world : σ) (next : Program σ δ α)
  /-- Leaves a note in the journal. -/
  | note (text : δ) (next : Program σ δ α)
  /-- Makes an export call. -/
  | call (request : ExportCall δ) (next : request.Answer → Program σ δ α)
  /-- Hands the current request of a client to a vendor. The vendor may change the client. -/
  | forward (vendor : VendorId) (client : Client)
      (next : Client × Except ProtocolError Unit → Program σ δ α)
  /-- Breaks off, because of a mistake in the callback. -/
  | panic

namespace Program

variable {σ δ α β γ : Type}

/-- Continues with another program. -/
def bind : Program σ δ α → (α → Program σ δ β) → Program σ δ β
  | done a, f => f a
  | readWorld next, f => readWorld fun w => (next w).bind f
  | writeWorld w next, f => writeWorld w (next.bind f)
  | note n next, f => note n (next.bind f)
  | call request next, f => call request fun a => (next a).bind f
  | forward vendor client next, f => forward vendor client fun r => (next r).bind f
  | panic, _ => panic

instance : Monad (Program σ δ) where
  pure := done
  bind := bind

theorem bind_done (p : Program σ δ α) : p.bind done = p := by
  induction p <;> simp_all [bind]

/-- Programs in a row may be grouped in any way. -/
theorem bind_assoc (p : Program σ δ α) (f : α → Program σ δ β) (g : β → Program σ δ γ) :
    (p.bind f).bind g = p.bind fun a => (f a).bind g := by
  induction p <;> simp_all [bind]

/-! ### Steps that a callback is made of -/

/-- Makes an export call and returns its answer. -/
def ask (request : ExportCall δ) : Program σ δ request.Answer := call request done

/-- Leaves a note. -/
def leaveNote (n : δ) : Program σ δ Unit := note n (done ())

/-- Hands the client's current request to a vendor. -/
def forwardRequest (vendor : VendorId) (client : Client) :
    Program σ δ (Client × Except ProtocolError Unit) :=
  forward vendor client done

/-- Continues with a value that is there unless the callback made a mistake. -/
def ofOption : Option α → Program σ δ α
  | some a => done a
  | none => panic

/-- Reads a field of the client's request. A field past the end of the address space is a mistake
of the callback. -/
def readField (client : Client) (offset : Nat) : Program σ δ (Except ProtocolError UInt32) :=
  if fieldAddressable offset then done (client.readWord offset) else panic

/-- Writes a field of the client's request. A field past the end of the address space is a mistake
of the callback. -/
def writeField (client : Client) (offset : Nat) (value : UInt32) :
    Program σ δ (Except ProtocolError Client) :=
  if fieldAddressable offset then done (client.writeWord offset value) else panic

/-- Writes a reply with the given fields to the client. A field past the end of the reply is a
mistake of the callback. -/
def sendReply (client : Client) (fields : List (Nat × UInt32)) : Program σ δ Client :=
  ofOption (((Reply.header client).putAll? fields).map fun r => client.writeReply r.bytes)

end Program

end VendorDispatch
