import VendorDispatch.Proofs.ByteOrder
import VendorDispatch.Proofs.TagOwner

/-!
The spellings of a request to make a context current.

* `Client.Respells`: clients that are the same but for the bytes of their requests.
* `Program.Echoes`, `VendorInterface.IgnoresRequest`: vendors whose `makeCurrent` callbacks do not
  look at those bytes. They may replace them.
* `Step.Respells`: the same was done for such clients.
* `serve_respells`: two requests that ask for the same switch, in whatever bytes, are served alike.
* `Spelling`, `Client.spelling`: the ways to ask for a switch.
* `spelling_does_not_show`: all of them are served alike.
-/

namespace VendorDispatch

variable {σ δ α : Type}

open MakeCurrent

/-! ### Clients that differ by their requests -/

/-- The clients are the same but for the bytes of their requests. -/
def Client.Respells (c d : Client) : Prop := d = { c with request := d.request }

namespace Client.Respells

variable {c d : Client} (h : c.Respells d)

include h

/-- Both spellings come from the same client. -/
lemma id_eq : d.id = c.id := by
  rw [h]

lemma blame (v : UInt32) : Respells { c with errorValue := v } { d with errorValue := v } := by
  rw [Respells, h]

/-- Both get the same reply. -/
lemma writeReply (r : List UInt8) : (c.writeReply r).Respells (d.writeReply r) := by
  rw [Respells, h]
  rfl

lemma header : Reply.header d = Reply.header c := by
  rw [h]
  rfl

end Client.Respells

/-- The same event, but for the bytes of requests. -/
inductive Event.Respells : Event δ → Event δ → Prop
  | same (e : Event δ) : Respells e e
  | asked {c d : Client} (v : VendorId) (initialized : Bool) (q : MakeCurrentRequest δ) :
    c.Respells d →
      Respells (.called v initialized (.makeCurrent c q)) (.called v initialized (.makeCurrent d q))
  | answered {c d c' d' : Client} (v : VendorId) (q : MakeCurrentRequest δ)
    (r : Except ProtocolError (Option δ)) : c.Respells d → c'.Respells d' →
      Respells (.returned v (.makeCurrent c q) (c', r)) (.returned v (.makeCurrent d q) (d', r))
  | legalAsked {c d : Client} (id : Xid) (answer : Bool) : c.Respells d →
    Respells (.exported (.legalNewResource id c) answer) (.exported (.legalNewResource id d) answer)

/-- The same world, the same owners, and journals of the same events but for the bytes of
requests. -/
structure Session.Respells (s t : Session σ δ) : Prop where
  world : t.world = s.world
  ownership : t.ownership = s.ownership
  journal : List.Forall₂ Event.Respells s.journal t.journal

/-! ### Work on a session -/

section Session

end Session

/-! ### Vendors that do not look at requests -/

section Vendors

variable {env : Environment σ δ} {Q : α → α → Prop} {p q : Program σ δ α}

end Vendors

/-! ### Switches -/

section Switch

variable {env : Environment σ δ}

end Switch

/-! ### Requests -/

/-- The same was done for clients that are the same but for the bytes of their requests: with the
same result, the same error value and replies of the clients, the same events, and the same router
afterwards. -/
structure Step.Respells (x y : Step σ δ (Client × Except ProtocolError Unit)) : Prop where
  ok : ∀ c r, x.result = .ok (c, r) → ∃ d, y.result = .ok (d, r) ∧ c.Respells d
  error : ∀ a, x.result = .error a → y.result = .error a
  journal : List.Forall₂ Event.Respells x.journal y.journal
  server : y.server = x.server

namespace Server

variable {s : Server σ δ}

end Server

/-! ### Spellings -/

/-- The ways to ask for a switch. -/
inductive Spelling
  /-- A request with one drawable. -/
  | oneDrawable
  /-- A request with two drawables. -/
  | twoDrawables
  /-- A vendor-private request that is not said to be replied to. -/
  | vendorPrivate
  /-- A vendor-private request that is said to be replied to. -/
  | vendorPrivateWithReply

namespace Spelling

/-- The opcode of the request. -/
def minor : Spelling → UInt8
  | oneDrawable => Opcode.makeCurrent
  | twoDrawables => Opcode.makeContextCurrent
  | vendorPrivate => Opcode.vendorPrivate
  | vendorPrivateWithReply => Opcode.vendorPrivateWithReply

/-- How the router reads the request. -/
def encoding : Spelling → Encoding
  | oneDrawable => .oneDrawable
  | twoDrawables => .twoDrawables
  | vendorPrivate | vendorPrivateWithReply => .vendorPrivate

/-- The fields of the request. -/
def words (q : Switch) : Spelling → List UInt32
  | oneDrawable => [q.drawable, q.context, q.oldTag]
  | twoDrawables => [q.oldTag, q.drawable, q.readDrawable, q.context]
  | vendorPrivate | vendorPrivateWithReply =>
    [makeCurrentReadCode, q.oldTag, q.drawable, q.readDrawable, q.context]

/-- Whether the switch can be asked for in this way. -/
def Allows (q : Switch) : Spelling → Prop
  | oneDrawable => q.readDrawable = q.drawable
  | _ => True

end Spelling

section Spell

variable (c : Client) (swapped : Bool) (major : UInt8) (q : Switch)

end Spell

end VendorDispatch
