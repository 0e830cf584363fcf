import VendorDispatch.Proofs.Callback
import VendorDispatch.Router.Server

/-!
What serving a request keeps.

Apart from binding and releasing contexts, the router serves requests by the effects that vendors
have at their disposal as well, so whatever those keep is kept by serving.

* `OnSession`: an invariant of sessions, said of exchanges.
* `Upheld.single`, `Upheld.copyContext`, `Upheld.swapBuffers`, `Upheld.broadcast`, `Kept.routed`:
  the ways to hand on a request.
* `Upheld.serve`, `Kept.serve`: the service of every target.
-/

namespace VendorDispatch

variable {σ δ α β : Type}

/-! ### Invariants of sessions during an exchange -/

/-- The session of an exchange satisfies the invariant. -/
def OnSession (I : Session σ δ → Prop) (x : Exchange σ δ) : Prop := I x.session

section OnSession

variable {I : Session σ δ → Prop}

/-- Work on the session keeps what is said of the session. -/
lemma keeps_onSession {work : SessionM σ δ α} (h : Keeps I work) :
    Keeps (OnSession I) (ExchangeM.onSession work) :=
  fun x hx => ends_onSession.mpr (h x.session hx)

/-- So does a vendor that is shown the client, whatever it hands back. -/
lemma keeps_onClient {work : Client → SessionM σ δ (Client × Except ProtocolError α)}
    (h : ∀ c, Keeps I (work c)) : Keeps (OnSession I) (ExchangeM.onClient work) := by
  intro x hx
  refine ends_onClient.mpr ((h x.client x.session hx).mono ?_ fun _ _ => id)
  rintro ⟨c, r⟩ s hs
  cases r <;> exact hs

/-- To catch an error keeps what the work keeps that fails. -/
lemma keeps_attempt {J : Exchange σ δ → Prop} {work : ExchangeM σ δ α} (h : Keeps J work) :
    Keeps J (ExchangeM.attempt work) := by
  intro x hx
  refine ends_attempt.mpr ((h x hx).mono (fun _ _ => id) ?_)
  rintro (e | a) y hy <;> exact hy

lemma keeps_client : Keeps (OnSession I) (ExchangeM.client : ExchangeM σ δ Client) :=
  fun _ hx => hx

lemma keeps_modifyClient (f : Client → Client) :
    Keeps (OnSession I) (ExchangeM.modifyClient f : ExchangeM σ δ Unit) := fun _ hx => hx

lemma keeps_fail (e : ProtocolError) :
    Keeps (OnSession I) (ExchangeM.fail e : ExchangeM σ δ α) := fun _ hx => hx

/-- Nothing comes after a failure. -/
lemma keeps_fail_bind (e : ProtocolError) (f : α → ExchangeM σ δ β) :
    Keeps (OnSession I) (ExchangeM.fail e >>= f) := fun _ hx => hx

/-- To name a value to blame changes only the client. -/
lemma keeps_failAt (v : UInt32) (e : ProtocolError) :
    Keeps (OnSession I) (ExchangeM.failAt v e : ExchangeM σ δ α) := fun _ hx => hx

/-- To read a field changes nothing. -/
lemma keeps_readWord (offset : Nat) :
    Keeps (OnSession I) (ExchangeM.readWord offset : ExchangeM σ δ UInt32) := by
  intro x hx
  rw [ends_readWord]
  cases x.client.readWord offset <;> exact hx

/-- A reply changes only the client, also when it has no room. -/
lemma keeps_sendReply (fields : List (Nat × UInt32)) :
    Keeps (OnSession I) (ExchangeM.sendReply fields : ExchangeM σ δ Unit) := by
  intro x hx
  rw [ends_sendReply]
  cases (Reply.header x.client).putAll? fields <;> exact hx

/-- To look up the owner of a tag changes nothing. -/
lemma keeps_tagVendor (tag : ContextTag) :
    Keeps (OnSession I) (Forwarding.tagVendor tag : ExchangeM σ δ VendorId) := by
  refine keeps_client.bind fun c => (keeps_onSession fun _ hs => hs).bind fun v => ?_
  cases v with
  | none => exact keeps_failAt _ _
  | some v => exact .pure v

/-- To read what a request destroys changes nothing. -/
lemma keeps_oldXid (r : RoutedRequest) :
    Keeps (OnSession I) (r.oldXid : ExchangeM σ δ (Option Xid)) := by
  rw [RoutedRequest.oldXid]
  split
  · exact .pure _
  · exact (keeps_readWord _).bind fun _ => .pure _

end OnSession

/-! ### Requests that are handed on -/

namespace Environment.Upheld

variable {env : Environment σ δ} {I : Session σ δ → Prop} (h : env.Upheld I)

include h

lemma keeps_vendorOfXid (id : Xid) : Keeps I (env.vendorOfXid id) :=
  fun _ hs => ends_vendorOfXid.mpr (h.lookedUp id hs)

/-- A request that is handed on keeps what vendors keep. -/
lemma keeps_forward (vendor : VendorId) : Keeps (OnSession I) (Forwarding.forward env vendor) :=
  keeps_onClient (h.forward vendor)

/-- To look up the owner of a resource is a question to the window system at most. -/
lemma keeps_xidVendor (id : Xid) (e : ProtocolError) :
    Keeps (OnSession I) (Forwarding.xidVendor env id e) := by
  refine (keeps_onSession (h.keeps_vendorOfXid id)).bind fun v => ?_
  cases v with
  | none => exact keeps_failAt _ _
  | some v => exact .pure v

/-- Serving a request about one tag. -/
lemma single : Keeps (OnSession I) (Forwarding.single env) :=
  (keeps_readWord 4).bind fun tag => (keeps_tagVendor tag).bind h.keeps_forward

/-- Serving a request to copy from one context to another. -/
lemma copyContext : Keeps (OnSession I) (Forwarding.copyContext env) := by
  refine (keeps_readWord 4).bind fun source => (keeps_readWord 16).bind fun tag => ?_
  split_ifs
  · exact (keeps_tagVendor tag).bind h.keeps_forward
  · exact (h.keeps_xidVendor source _).bind h.keeps_forward

/-- Serving a request to swap buffers. -/
lemma swapBuffers : Keeps (OnSession I) (Forwarding.swapBuffers env) := by
  refine (keeps_readWord 4).bind fun tag => (keeps_readWord 8).bind fun drawable => ?_
  split_ifs
  · exact (keeps_tagVendor tag).bind h.keeps_forward
  · exact (h.keeps_xidVendor drawable _).bind h.keeps_forward

/-- Showing a request to several vendors in turn. -/
lemma broadcastTo (sent : List UInt8) (vendors : List VendorId) :
    Keeps (OnSession I) (Forwarding.broadcastTo env sent vendors) := by
  induction vendors with
  | nil => exact .pure _
  | cons vendor rest ih =>
      exact (keeps_attempt (h.keeps_forward vendor)).discard.bind fun _ =>
        (keeps_modifyClient _).bind fun _ => ih

lemma broadcast : Keeps (OnSession I) (Forwarding.broadcast env) :=
  keeps_client.bind fun _ => h.broadcastTo _ _

lemma keeps_legalNewResource (id : Xid) (c : Client) : Keeps I (env.legalNewResource id c) :=
  fun s hs => h.enter s (.resourceAsked id c.id) trivial not_false hs

/-- To read what a request creates is a question to the window system at most. -/
lemma keeps_newXid (r : RoutedRequest) : Keeps (OnSession I) (r.newXid env) := by
  rw [RoutedRequest.newXid]
  split
  · exact .pure _
  · refine (keeps_readWord _).bind fun id => keeps_client.bind fun c =>
      (keeps_onSession (h.keeps_legalNewResource id c)).bind fun legal => ?_
    cases legal
    · exact keeps_failAt _ _
    · exact .pure _

/-- So is finding the owner of a routing field. -/
lemma keeps_owner (r : RoutedRequest) (field : UInt32) :
    Keeps (OnSession I) (r.owner env field) := by
  rw [RoutedRequest.owner]
  split
  · exact keeps_onSession fun _ hs => hs
  · exact keeps_onSession (h.keeps_vendorOfXid field)
  · exact keeps_client.bind fun c => keeps_onSession fun _ hs => hs

/-- Forwarding a request, and going on either way. -/
lemma keeps_forwardThen (vendor : VendorId)
    {f : Except ProtocolError Unit → ExchangeM σ δ Unit} (hok : Keeps (OnSession I) (f (.ok ())))
    (hfailed : ∀ e, Keeps (OnSession I) (f (.error e))) :
    Keeps (OnSession I) (ExchangeM.attempt (Forwarding.forward env vendor) >>= f) := by
  refine (keeps_attempt (h.keeps_forward vendor)).bind fun result => ?_
  rcases result with e | _
  · exact hfailed e
  · exact hok

/-- Serving a target keeps the invariant, if binding and releasing contexts does, and creating and
destroying resources does, and the vendor of a learned procedure is initialized. -/
lemma serve {target : Target σ δ}
    (hm : ∀ encoding, target = .makeCurrent encoding →
      Keeps (OnSession I) (MakeCurrent.serve env encoding))
    (hp : ∀ p, target = .procedure p → env.registry.isInitialized p.vendor = true)
    (hr : ∀ r, target = .routed r → Keeps (OnSession I) (r.serve env)) :
    Keeps (OnSession I) (target.serve env) := by
  cases target with
  | version => exact keeps_sendReply _
  | makeCurrent encoding => exact hm encoding rfl
  | copyContext => exact h.copyContext
  | swapBuffers => exact h.swapBuffers
  | clientInfo => exact h.broadcast
  | single => exact h.single
  | routed r => exact hr r rfl
  | procedure p =>
      refine keeps_onClient fun c => ?_
      exact h.calling (.procedure p.minor p.code c) (hp p rfl) trivial (h.interpret (p.run c))
  | unclaimed => exact keeps_fail _

end Environment.Upheld

namespace Environment.Kept

variable {env : Environment σ δ} {I : Session σ δ → Prop} (h : env.Kept I)

include h

/-- To remove a resource keeps what survives such a removal. -/
lemma keeps_forget (id : Xid) :
    Keeps (OnSession I) (ExchangeM.onSession (Environment.removeXid id) : ExchangeM σ δ Unit) :=
  keeps_onSession (h.keeps_removeXid id)

/-- Serving a request that is routed by one field, and may create or destroy a resource. -/
lemma routed (r : RoutedRequest) : Keeps (OnSession I) (r.serve env) := by
  refine (keeps_readWord _).bind fun field => (h.upheld.keeps_newXid r).bind fun created =>
    (h.upheld.keeps_owner r field).bind fun owner => ?_
  cases owner with
  | none => exact keeps_failAt _ _
  | some vendor =>
      -- an owner was found; what it leaves behind is forgotten or kept
      refine (keeps_oldXid r).bind fun destroyed => ?_
      cases created with
      | none =>
          refine h.upheld.keeps_forwardThen vendor ?_ fun e => keeps_fail e
          cases destroyed with
          | none => exact .pure _
          | some id => exact h.keeps_forget id
      | some id =>
          refine (keeps_onSession (h.keeps_addXid id vendor)).bind fun added => ?_
          cases added with
          | false => exact keeps_fail_bind _ _
          | true =>
              refine h.upheld.keeps_forwardThen vendor ?_ fun e =>
                (h.keeps_forget id).bind fun _ => keeps_fail e
              cases destroyed with
              | none => exact .pure _
              | some id => exact h.keeps_forget id

/-! ### Every target -/

/-- Serving a target keeps the invariant, if binding and releasing contexts does and the vendor of a
learned procedure is initialized. -/
lemma serve {target : Target σ δ}
    (hm : ∀ encoding, target = .makeCurrent encoding →
      Keeps (OnSession I) (MakeCurrent.serve env encoding))
    (hp : ∀ p, target = .procedure p → env.registry.isInitialized p.vendor = true) :
    Keeps (OnSession I) (target.serve env) :=
  h.upheld.serve hm hp fun r _ => h.routed r

end Environment.Kept

end VendorDispatch
