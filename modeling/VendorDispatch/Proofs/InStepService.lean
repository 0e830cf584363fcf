import VendorDispatch.Proofs.Caching
import VendorDispatch.Proofs.InStep

/-!
Serving requests in two runs in step.

What serves a request reads fields, looks up owners, changes the client's own tags and lets vendors
work on the client. None of it tells apart what a `Likeness` does not.

* `Likeness.Exchanges`: the requests that are being served in two runs.
* `MakeCurrent.Stepwise`: two runs that take every step of a switch in step, and so the whole of it.
* `inStep_serve`: every target serves clients that are alike in step.
* `Dispatcher.Same`, `inStep_resolve`: the same target is found, with the same questions.
* `Step.Like`, `Server.Like`, `Server.Like.serve`: one request, as an operation.
-/

namespace VendorDispatch

variable {σ δ α : Type}

/-- The requests that are being served in two runs. -/
structure Likeness.Exchanges (L : Likeness σ) (O : Ownership δ → Ownership δ → Prop)
    (x y : Exchange σ δ) : Prop where
  client : L.Alike x.client y.client
  session : L.Sessions O x.session y.session

/-- A routed request whose fields are fields, and that changes owners only if it may. -/
structure RoutedRequest.Respects (L : Likeness σ) (r : RoutedRequest) : Prop where
  offset : IsField r.offset
  adds : ∀ offset, r.adds = some offset → IsField offset ∧ L.Transfers
  removes : ∀ offset, r.removes = some offset → IsField offset ∧ L.Transfers

/-- The router reads whole words of routed requests only. -/
lemma RoutedRequest.respects {L : Likeness σ} (ht : L.Transfers) {r : RoutedRequest}
    (hr : r ∈ routedRequests) : r.Respects L := by
  have hfields : ∀ r ∈ routedRequests, IsField r.offset ∧
      (∀ offset ∈ r.adds, IsField offset) ∧ ∀ offset ∈ r.removes, IsField offset := by decide
  obtain ⟨ho, ha, hm⟩ := hfields r hr
  exact ⟨ho, fun offset h => ⟨ha offset h, ht⟩, fun offset h => ⟨hm offset h, ht⟩⟩

/-! ### Work on exchanges -/

/-- Two exchanges whose clients are related, and so are their sessions. -/
structure Exchange.Beside (A : Client → Client → Prop) (R : Session σ δ → Session σ δ → Prop)
    (x y : Exchange σ δ) : Prop where
  client : A x.client y.client
  session : R x.session y.session

lemma Likeness.exchanges_eq (L : Likeness σ) (O : Ownership δ → Ownership δ → Prop) :
    L.Exchanges O = Exchange.Beside L.Alike (L.Sessions O) :=
  funext fun _ => funext fun _ => propext ⟨fun h => ⟨h.client, h.session⟩, fun h => ⟨h.1, h.2⟩⟩

section Beside

variable {A : Client → Client → Prop} {R : Session σ δ → Session σ δ → Prop}

lemma beside_client :
    InStep (Exchange.Beside A R) A (ExchangeM.client : ExchangeM σ δ Client) ExchangeM.client :=
  fun _ _ hxy => .ok hxy.client hxy

/-- A change of both clients that keeps them alike. -/
lemma beside_modifyClient {f g : Client → Client} (hfg : ∀ c d, A c d → A (f c) (g d)) :
    InStep (Exchange.Beside A R) Eq (ExchangeM.modifyClient f : ExchangeM σ δ Unit)
      (ExchangeM.modifyClient g) :=
  fun _ _ hxy => .ok rfl ⟨hfg _ _ hxy.client, hxy.session⟩

/-- Work on both sessions in step leaves the clients alone. -/
lemma beside_onSession {β : Type} {Q : α → β → Prop} {x : SessionM σ δ α} {y : SessionM σ δ β}
    (h : InStep R Q x y) :
    InStep (Exchange.Beside A R) Q (ExchangeM.onSession x) (ExchangeM.onSession y) := by
  intro s t hst
  have hxy := h _ _ hst.session
  simp only [ExchangeM.onSession]
  generalize x s.session = u at hxy
  generalize y t.session = v at hxy
  cases hxy with
  | ok hab h => exact .ok hab ⟨hst.client, h⟩
  | error h => exact .error ⟨hst.client, h⟩

end Beside

section Outcomes

variable {E : Exchange σ δ → Exchange σ δ → Prop}

/-- Both requests fail with the same error. -/
lemma inStep_fail {β : Type} {Q : α → β → Prop} (e : ProtocolError) :
    InStep E Q (ExchangeM.fail e : ExchangeM σ δ α) (ExchangeM.fail e : ExchangeM σ δ β) :=
  fun _ _ hxy => .error hxy

/-- Nothing comes after a failure. -/
lemma inStep_fail_bind {β : Type} {Q : β → β → Prop} (e : ProtocolError)
    (f g : α → ExchangeM σ δ β) : InStep E Q (ExchangeM.fail e >>= f) (ExchangeM.fail e >>= g) :=
  fun _ _ hxy => .error hxy

/-- A result that was computed before ends both runs alike. -/
lemma inStep_ofExcept (r : Except ProtocolError α) :
    InStep E Eq (ExchangeM.ofExcept r : ExchangeM σ δ α) (ExchangeM.ofExcept r) := by
  cases r with
  | ok a => exact .pure rfl
  | error e => exact inStep_fail e

/-- An error is caught in both runs, or in neither. -/
lemma inStep_attempt {x y : ExchangeM σ δ α} (h : InStep E Eq x y) :
    InStep E Eq (ExchangeM.attempt x) (ExchangeM.attempt y) := by
  intro s t hst
  have hxy := h _ _ hst
  simp only [ExchangeM.attempt]
  generalize x s = u at hxy
  generalize y t = v at hxy
  cases hxy with
  | ok hab h =>
      subst hab
      exact .ok rfl h
  | @error e _ _ h =>
      cases e with
      | error e => exact .ok rfl h
      | abort a => exact .error h

end Outcomes

section Beside

variable {A : Client → Client → Prop} {R : Session σ δ → Session σ δ → Prop}

/-- Both requests fail with the same error and the same value to blame. -/
lemma beside_failAt {Q : α → α → Prop} (v : UInt32) (e : ProtocolError)
    (hv : ∀ c d, A c d → A { c with errorValue := v } { d with errorValue := v }) :
    InStep (Exchange.Beside A R) Q (ExchangeM.failAt v e : ExchangeM σ δ α)
      (ExchangeM.failAt v e) :=
  (beside_modifyClient hv).bindSame fun _ => inStep_fail e

/-- A vendor that is shown both clients in step hands back clients that are alike. -/
lemma beside_onClient {x y : Client → SessionM σ δ (Client × Except ProtocolError α)}
    (h : ∀ c d, A c d → InStep R (fun r u => A r.1 u.1 ∧ r.2 = u.2) (x c) (y d)) :
    InStep (Exchange.Beside A R) Eq (ExchangeM.onClient x) (ExchangeM.onClient y) := by
  refine beside_client.bind fun c d hcd => (beside_onSession (h c d hcd)).bind ?_
  rintro ⟨c, r⟩ ⟨d, u⟩ ⟨hcd, hru⟩
  obtain rfl : r = u := hru
  exact (beside_modifyClient fun _ _ _ => hcd).bindSame fun _ => inStep_ofExcept r

/-- Replies with the same fields. -/
lemma beside_sendReply {fields : List (Nat × UInt32)}
    (hreply : ∀ c d, A c d → Option.Rel (fun r u => A (c.writeReply r.bytes) (d.writeReply u.bytes))
      ((Reply.header c).putAll? fields) ((Reply.header d).putAll? fields)) :
    InStep (Exchange.Beside A R) Eq (ExchangeM.sendReply fields : ExchangeM σ δ Unit)
      (ExchangeM.sendReply fields) := by
  intro x y hxy
  have hrel := hreply _ _ hxy.client
  have hread (z : Exchange σ δ) : ExchangeM.client z = .ok z.client z := rfl
  rw [ExchangeM.sendReply, bind_of_ok (hread x), bind_of_ok (hread y)]
  generalize (Reply.header x.client).putAll? fields = r at hrel
  generalize (Reply.header y.client).putAll? fields = u at hrel
  cases hrel with
  | some h => exact .ok rfl ⟨h, hxy.session⟩
  | none => exact .error hxy

end Beside

/-! ### The steps of a switch -/

/-- Two routers that take the steps of a switch in step, up to `E`. -/
structure MakeCurrent.Stepwise (E : Exchange σ δ → Exchange σ δ → Prop) (e f : Environment σ δ) :
    Prop where
  oldEntry : ∀ tag, InStep E Eq (oldEntry tag) (oldEntry tag)
  newVendor : ∀ context, InStep E Eq (newVendor e context) (newVendor f context)
  ask : ∀ v q, InStep E Eq (ask e v q) (ask f v q)
  claimTag : ∀ v, InStep E Eq (claimTag v) (claimTag v)
  modifyTags : ∀ g, InStep E Eq (ExchangeM.modifyTags g) (ExchangeM.modifyTags g)
  sendReply : ∀ tag : ContextTag,
    InStep E Eq (ExchangeM.sendReply [(8, tag)]) (ExchangeM.sendReply [(8, tag)])

namespace MakeCurrent.Stepwise

variable {E : Exchange σ δ → Exchange σ δ → Prop} {e f : Environment σ δ}
  (h : MakeCurrent.Stepwise E e f)

include h

/-- A tag is released in step. -/
lemma release (old : TagInfo δ) :
    InStep E Eq (MakeCurrent.release e old) (MakeCurrent.release f old) := by
  rw [MakeCurrent.release, MakeCurrent.release]
  cases old.owner with
  | none => exact inStep_fail _
  | some v => exact (h.ask v _).discard.bindSame fun _ => h.modifyTags _

/-- A context is bound in step. -/
lemma bindTag (v : VendorId) (q : MakeCurrent.Switch) :
    InStep E Eq (MakeCurrent.bind e v q) (MakeCurrent.bind f v q) := by
  refine (h.claimTag v).bindSame fun tag => (inStep_attempt (h.ask v _)).bindSame fun asked => ?_
  cases asked with
  | ok data => exact (h.modifyTags _).bindSame fun _ => .pure rfl
  | error error => exact (h.modifyTags _).bindSame fun _ => inStep_fail error

/-- The vendors of a switch are asked in step. -/
lemma switchTo (q : MakeCurrent.Switch) (old : Option (TagInfo δ)) (vendor : Option VendorId) :
    InStep E Eq (MakeCurrent.switchTo e q old vendor)
      (MakeCurrent.switchTo f q old vendor) := by
  have hbind : InStep E Eq
      (vendor.elim (pure 0) fun v => MakeCurrent.bind e v q)
      (vendor.elim (pure 0) fun v => MakeCurrent.bind f v q) := by
    cases vendor with
    | none => exact .pure rfl
    | some v => exact h.bindTag v q
  cases old with
  | none => cases vendor <;> exact hbind
  | some entry => cases vendor <;> exact (h.release entry).bindSame fun _ => hbind

/-- The old tag answers in both runs, or in neither. -/
lemma newTag (q : MakeCurrent.Switch) (old : Option (TagInfo δ)) (vendor : Option VendorId) :
    InStep E Eq (MakeCurrent.newTag e q old vendor)
      (MakeCurrent.newTag f q old vendor) := by
  have hswitch := h.switchTo q old vendor
  unfold MakeCurrent.newTag
  split
  · split_ifs
    · exact .pure rfl
    · exact hswitch
  · exact hswitch

/-- The whole switch. -/
lemma switch (q : MakeCurrent.Switch) :
    InStep E Eq (MakeCurrent.switch e q) (MakeCurrent.switch f q) :=
  (h.oldEntry _).bindSame fun old => (h.newVendor _).bindSame fun vendor =>
    (h.newTag q old vendor).bindSame fun tag => h.sendReply tag

end MakeCurrent.Stepwise

section Exchange

variable {L : Likeness σ} {O : Ownership δ → Ownership δ → Prop}

lemma inStep_client :
    InStep (L.Exchanges O) L.Alike (ExchangeM.client : ExchangeM σ δ Client) ExchangeM.client :=
  fun _ _ hxy => .ok hxy.client hxy

lemma inStep_modifyClient {f g : Client → Client}
    (hfg : ∀ c d, L.Alike c d → L.Alike (f c) (g d)) :
    InStep (L.Exchanges O) Eq (ExchangeM.modifyClient f : ExchangeM σ δ Unit)
      (ExchangeM.modifyClient g) :=
  L.exchanges_eq O ▸ beside_modifyClient hfg

lemma inStep_failAt {Q : α → α → Prop} (v : UInt32) (e : ProtocolError) :
    InStep (L.Exchanges O) Q (ExchangeM.failAt v e : ExchangeM σ δ α) (ExchangeM.failAt v e) :=
  L.exchanges_eq O ▸ beside_failAt v e fun _ _ hcd => L.blame v hcd

/-- A word of the request is read in step. -/
lemma inStep_readWord {offset : Nat} (ho : IsField offset) :
    InStep (L.Exchanges O) Eq (ExchangeM.readWord offset : ExchangeM σ δ UInt32)
      (ExchangeM.readWord offset) := by
  refine inStep_client.bind fun c d hcd => ?_
  rw [L.readWord_eq hcd ho]
  exact inStep_ofExcept _

/-- Work on the session in step is part of the work on a request. -/
lemma inStep_onSession {β : Type} {Q : α → β → Prop} {x : SessionM σ δ α} {y : SessionM σ δ β}
    (h : InStep (L.Sessions O) Q x y) :
    InStep (L.Exchanges O) Q (ExchangeM.onSession x) (ExchangeM.onSession y) :=
  L.exchanges_eq O ▸ beside_onSession h

/-- A vendor is shown the client in step. -/
lemma inStep_onClient {x y : Client → SessionM σ δ (Client × Except ProtocolError α)}
    (h : ∀ c d, L.Alike c d → InStep (L.Sessions O) L.Answers (x c) (y d)) :
    InStep (L.Exchanges O) Eq (ExchangeM.onClient x) (ExchangeM.onClient y) :=
  L.exchanges_eq O ▸ beside_onClient h

/-- A reply is sent in step. -/
lemma inStep_sendReply {fields : List (Nat × UInt32)} (hf : ∀ f ∈ fields, IsField f.1) :
    InStep (L.Exchanges O) Eq (ExchangeM.sendReply fields : ExchangeM σ δ Unit)
      (ExchangeM.sendReply fields) :=
  L.exchanges_eq O ▸ beside_sendReply fun _ _ hcd => L.reply hcd hf

section Owned

variable (hO : L.Owned O)

include hO

/-- The tags of the client are changed in step. -/
lemma inStep_modifyTags (f : TagTable δ → TagTable δ) :
    InStep (L.Exchanges O) Eq (ExchangeM.modifyTags f : ExchangeM σ δ Unit)
      (ExchangeM.modifyTags f) := by
  refine inStep_client.bind fun c d hcd => inStep_onSession ?_
  rw [L.id_eq hcd]
  exact inStep_ownership.bind fun o p ho =>
    inStep_setOwnership (hO.modifyTags ho (L.id_eq hcd ▸ L.shared hcd) f)

/-! ### Requests that are handed on -/

/-- The owner of a tag is found in step. -/
lemma inStep_tagVendor (tag : ContextTag) :
    InStep (L.Exchanges O) Eq (Forwarding.tagVendor tag : ExchangeM σ δ VendorId)
      (Forwarding.tagVendor tag) := by
  refine inStep_client.bind fun c d hcd => ?_
  rw [← L.id_eq hcd]
  refine (inStep_onSession (inStep_vendorOfTag hO (L.shared hcd) tag)).bindSame fun v => ?_
  cases v with
  | some vendor => exact .pure rfl
  | none => exact inStep_failAt _ _

variable {e f : Environment σ δ} (h : e.Like L f)

include h

lemma inStep_handOn (v : VendorId) :
    InStep (L.Exchanges O) Eq (Forwarding.forward e v) (Forwarding.forward f v) :=
  inStep_onClient fun _ _ hcd => inStep_forward h hO v hcd

/-- The owner of a resource is found in step, or both requests fail. -/
lemma inStep_xidVendor (id : Xid) (error : ProtocolError) :
    InStep (L.Exchanges O) Eq (Forwarding.xidVendor e id error)
      (Forwarding.xidVendor f id error) := by
  refine (inStep_onSession (inStep_vendorOfXid h hO id)).bindSame fun v => ?_
  cases v with
  | some vendor => exact .pure rfl
  | none => exact inStep_failAt _ _

/-- A request about one tag is served in step. -/
lemma inStep_single :
    InStep (L.Exchanges O) Eq (Forwarding.single e) (Forwarding.single f) :=
  (inStep_readWord (by decide)).bindSame fun tag =>
    (inStep_tagVendor hO tag).bindSame fun v => inStep_handOn hO h v

/-- A request to copy from one context to another is served in step. -/
lemma inStep_copyContext :
    InStep (L.Exchanges O) Eq (Forwarding.copyContext e) (Forwarding.copyContext f) := by
  refine (inStep_readWord (by decide)).bindSame fun source =>
    (inStep_readWord (by decide)).bindSame fun tag => ?_
  split_ifs
  · exact (inStep_tagVendor hO tag).bindSame fun v => inStep_handOn hO h v
  · exact (inStep_xidVendor hO h source _).bindSame fun v => inStep_handOn hO h v

/-- A request to swap buffers is served in step. -/
lemma inStep_swapBuffers :
    InStep (L.Exchanges O) Eq (Forwarding.swapBuffers e) (Forwarding.swapBuffers f) := by
  refine (inStep_readWord (by decide)).bindSame fun tag =>
    (inStep_readWord (by decide)).bindSame fun drawable => ?_
  split_ifs
  · exact (inStep_tagVendor hO tag).bindSame fun v => inStep_handOn hO h v
  · exact (inStep_xidVendor hO h drawable _).bindSame fun v => inStep_handOn hO h v

/-- Every vendor finds the request of the client, and so does whoever looks at it afterwards. -/
lemma inStep_broadcastTo {c d : Client} (hcd : L.Alike c d) (vendors : List VendorId) :
    InStep (L.Exchanges O) Eq (Forwarding.broadcastTo e c.request vendors)
      (Forwarding.broadcastTo f d.request vendors) := by
  induction vendors with
  | nil => exact .pure rfl
  | cons v rest ih =>
      exact (inStep_attempt (inStep_handOn hO h v)).discard.bindSame fun _ =>
        (inStep_modifyClient fun _ _ hab => L.restore hab hcd).bindSame fun _ => ih

/-- A request is shown to all vendors in step. -/
lemma inStep_broadcast :
    InStep (L.Exchanges O) Eq (Forwarding.broadcast e) (Forwarding.broadcast f) := by
  refine inStep_client.bind fun c d hcd => ?_
  rw [h.registry.active]
  exact inStep_broadcastTo hO h hcd _

/-! ### Routed requests -/

section Routed

variable {r : RoutedRequest} (hr : r.Respects L)

/-- The owner of the routing field is found in step. -/
lemma inStep_owner (field : UInt32) :
    InStep (L.Exchanges O) Eq (r.owner e field) (r.owner f field) := by
  rw [RoutedRequest.owner, RoutedRequest.owner]
  cases r.route with
  | screen =>
      refine inStep_onSession (inStep_ownership.bind fun o p ho => .pure ?_)
      rw [hO.screenVendor ho]
  | xid => exact inStep_onSession (inStep_vendorOfXid h hO field)
  | tag =>
      refine inStep_client.bind fun c d hcd => inStep_onSession ?_
      rw [← L.id_eq hcd]
      exact inStep_vendorOfTag hO (L.shared hcd) field

/-- Forwarding a request, and going on either way. -/
lemma inStep_forwardThen (v : VendorId)
    {next next' : Except ProtocolError Unit → ExchangeM σ δ Unit}
    (hok : InStep (L.Exchanges O) Eq (next (.ok ())) (next' (.ok ())))
    (hfailed : ∀ error, InStep (L.Exchanges O) Eq (next (.error error)) (next' (.error error))) :
    InStep (L.Exchanges O) Eq (ExchangeM.attempt (Forwarding.forward e v) >>= next)
      (ExchangeM.attempt (Forwarding.forward f v) >>= next') := by
  refine (inStep_attempt (inStep_handOn hO h v)).bindSame fun answer => ?_
  rcases answer with error | _
  · exact hfailed error
  · exact hok

include hr

omit hO in
/-- What a request creates is read in step. -/
lemma inStep_newXid :
    InStep (L.Exchanges O) (fun a b => a = b ∧ (a.isSome → L.Transfers)) (r.newXid e)
      (r.newXid f) := by
  rw [RoutedRequest.newXid, RoutedRequest.newXid]
  cases ha : r.adds with
  | none => exact .pure ⟨rfl, fun hsome => by cases hsome⟩
  | some offset =>
      obtain ⟨ho, ht⟩ := hr.adds offset ha
      refine (inStep_readWord ho).bindSame fun id => inStep_client.bind fun c d hcd =>
        (inStep_onSession (inStep_legalNewResource h id hcd)).bindSame fun legal => ?_
      split_ifs
      · exact .pure ⟨rfl, fun _ => ht⟩
      · exact inStep_failAt _ _

omit hO h in
/-- What a request destroys is read in step. -/
lemma inStep_oldXid :
    InStep (L.Exchanges O) (fun a b => a = b ∧ (a.isSome → L.Transfers))
      (r.oldXid : ExchangeM σ δ (Option Xid)) r.oldXid := by
  rw [RoutedRequest.oldXid]
  cases ha : r.removes with
  | none => exact .pure ⟨rfl, fun hsome => by cases hsome⟩
  | some offset =>
      obtain ⟨ho, ht⟩ := hr.removes offset ha
      exact (inStep_readWord ho).bindSame fun _ => .pure ⟨rfl, fun _ => ht⟩

omit h hr in
lemma inStep_forget (ht : L.Transfers) (id : Xid) :
    InStep (L.Exchanges O) Eq
      (ExchangeM.onSession (Environment.removeXid id) : ExchangeM σ δ Unit)
      (ExchangeM.onSession (Environment.removeXid id)) :=
  inStep_onSession (inStep_removeXid hO ht id)

/-- A routed request is served in step. -/
lemma inStep_routed : InStep (L.Exchanges O) Eq (r.serve e) (r.serve f) := by
  refine (inStep_readWord hr.offset).bindSame fun field => (inStep_newXid h hr).bind ?_
  rintro created _ ⟨rfl, hcreated⟩
  refine (inStep_owner hO h field).bindSame fun vendor => ?_
  cases vendor with
  | none => exact inStep_failAt _ _
  | some v =>
      -- an owner was found in both runs, the same one
      refine (inStep_oldXid hr).bind ?_
      rintro destroyed _ ⟨rfl, hdestroyed⟩
      cases created with
      | none =>
          refine inStep_forwardThen hO h v ?_ fun error => inStep_fail error
          cases destroyed with
          | none => exact .pure rfl
          | some id => exact inStep_forget hO (hdestroyed rfl) id
      | some id =>
          have ht := hcreated rfl
          refine (inStep_onSession (inStep_addXid h hO ht id v)).bindSame fun added => ?_
          cases added with
          | false => exact inStep_fail_bind _ _ _
          | true =>
              refine inStep_forwardThen hO h v ?_ fun error =>
                (inStep_forget hO ht id).bindSame fun _ => inStep_fail error
              cases destroyed with
              | none => exact .pure rfl
              | some id => exact inStep_forget hO ht id

end Routed

/-! ### Making contexts current -/

omit hO h in
lemma inStep_read (encoding : MakeCurrent.Encoding) :
    InStep (L.Exchanges O) Eq (MakeCurrent.read encoding : ExchangeM σ δ MakeCurrent.Switch)
      (MakeCurrent.read encoding) := by
  cases encoding with
  | oneDrawable =>
      exact (inStep_readWord (by decide)).bindSame fun _ => (inStep_readWord (by decide)).bindSame
        fun _ => (inStep_readWord (by decide)).bindSame fun _ => .pure rfl
  | twoDrawables | vendorPrivate =>
      exact (inStep_readWord (by decide)).bindSame fun _ => (inStep_readWord (by decide)).bindSame
        fun _ => (inStep_readWord (by decide)).bindSame fun _ =>
          (inStep_readWord (by decide)).bindSame fun _ => .pure rfl

omit h in
/-- The entry of the old tag is found in step. -/
lemma inStep_oldEntry (tag : ContextTag) :
    InStep (L.Exchanges O) Eq
      (MakeCurrent.oldEntry tag : ExchangeM σ δ (Option (TagInfo δ)))
      (MakeCurrent.oldEntry tag) := by
  rw [MakeCurrent.oldEntry]
  split_ifs
  · exact .pure rfl
  · refine inStep_client.bind fun c d hcd =>
      (inStep_onSession inStep_ownership).bind fun o p ho => ?_
    rw [hO.lookupTag ho (L.shared hcd), L.id_eq hcd]
    cases p.lookupTag d.id tag with
    | some e => exact .pure rfl
    | none => exact inStep_failAt _ _

/-- The owner of the new context is found in step. -/
lemma inStep_newVendor (context : Xid) :
    InStep (L.Exchanges O) Eq (MakeCurrent.newVendor e context)
      (MakeCurrent.newVendor f context) := by
  rw [MakeCurrent.newVendor, MakeCurrent.newVendor]
  split_ifs
  · exact .pure rfl
  · refine (inStep_onSession (inStep_vendorOfXid h hO context)).bindSame fun v => ?_
    cases v with
    | some vendor => exact .pure rfl
    | none => exact inStep_failAt _ _

/-- A vendor is asked to bind or to release in step. -/
lemma inStep_ask (v : VendorId) (q : MakeCurrentRequest δ) :
    InStep (L.Exchanges O) Eq (MakeCurrent.ask e v q) (MakeCurrent.ask f v q) := by
  rw [MakeCurrent.ask, MakeCurrent.ask, h.makeCurrentHandler?]
  cases hh : e.makeCurrentHandler? v with
  | none => exact inStep_fail _
  | some handler =>
      exact inStep_onClient fun c d hcd => inStep_calling h v (.makeCurrent q hcd)
        (inStep_interpret h hO (h.respects_makeCurrentHandler hh q hcd))

omit h in
/-- The same tag is free in both runs. -/
lemma inStep_claimTag (v : VendorId) :
    InStep (L.Exchanges O) Eq (MakeCurrent.claimTag v : ExchangeM σ δ ContextTag)
      (MakeCurrent.claimTag v) := by
  refine inStep_client.bind fun c d hcd =>
    (inStep_onSession inStep_ownership).bind fun o p ho => ?_
  have hc := L.shared hcd
  rw [← L.id_eq hcd, Ownership.allocateTag?, Ownership.allocateTag?, hO.tagsOf ho hc]
  cases (p.tagsOf c.id).allocate? v with
  | none => exact .throw _
  | some claimed =>
      exact (inStep_onSession (inStep_setOwnership (hO.setTags _ hc ho))).bindSame fun _ =>
        .pure rfl

/-- A request to make a context current is served in step. -/
lemma inStep_makeCurrent (encoding : MakeCurrent.Encoding) :
    InStep (L.Exchanges O) Eq (MakeCurrent.serve e encoding) (MakeCurrent.serve f encoding) := by
  have hsteps : MakeCurrent.Stepwise (L.Exchanges O) e f := {
    oldEntry := inStep_oldEntry hO
    newVendor := inStep_newVendor hO h
    ask := inStep_ask hO h
    claimTag := inStep_claimTag hO
    modifyTags := inStep_modifyTags hO
    sendReply := fun tag => inStep_sendReply (by simp [IsField]) }
  exact (inStep_read encoding).bindSame fun q => hsteps.switch q

/-! ### Every target -/

/-- A target that can serve clients that are alike in step: its routed request changes owners only
if it may, and its learned handler tells no such clients apart. -/
def Target.Respects (L : Likeness σ) : Target σ δ → Prop
  | .routed r => r.Respects L
  | .procedure p => RequestHandler.Respects L p.run
  | _ => True

omit hO h in
/-- A target that suits a request tells no clients apart if its handler does not. -/
lemma Target.Suits.respects {registry : Registry σ δ} {c : Client} {target : Target σ δ}
    (hs : target.Suits registry c) (ht : L.Transfers)
    (hp : ∀ p, target = .procedure p → RequestHandler.Respects L p.run) : target.Respects L := by
  cases target with
  | routed r => exact RoutedRequest.respects ht (hs.routed r rfl).1
  | procedure p => exact hp p rfl
  | _ => trivial

/-- Every target serves clients that are alike in step. -/
lemma inStep_serve {target : Target σ δ} (ht : target.Respects L) :
    InStep (L.Exchanges O) Eq (target.serve e) (target.serve f) := by
  cases target with
  | version => exact inStep_sendReply (by decide)
  | makeCurrent encoding => exact inStep_makeCurrent hO h encoding
  | copyContext => exact inStep_copyContext hO h
  | swapBuffers => exact inStep_swapBuffers hO h
  | clientInfo => exact inStep_broadcast hO h
  | single => exact inStep_single hO h
  | routed r => exact inStep_routed hO h ht
  | procedure p =>
      exact inStep_onClient fun c d hcd => inStep_calling h p.vendor (.procedure p.minor p.code hcd)
        (inStep_interpret h hO (ht c d hcd))
  | unclaimed => exact inStep_fail _

end Owned

end Exchange

/-! ### Finding what serves a request -/

/-- Two dispatchers that know the same. Their counts of queries differ as `m` and `n` do. -/
structure Dispatcher.Same (m n : Nat) (d u : Dispatcher σ δ) : Prop where
  opcodes : d.opcodes = u.opcodes
  codes : d.codes = u.codes
  queries : d.queries + n = u.queries + m

lemma Dispatcher.Same.refl (d : Dispatcher σ δ) : Same 0 0 d d := ⟨rfl, rfl, rfl⟩

/-- Dispatchers that agree, and have asked equally often, are equal. -/
lemma Dispatcher.Same.eq {d u : Dispatcher σ δ} (h : d.Same 0 0 u) : d = u := by
  obtain ⟨opcodes, codes, queries⟩ := d
  obtain ⟨ho, hc, hq⟩ := h
  obtain rfl : opcodes = u.opcodes := ho
  obtain rfl : codes = u.codes := hc
  obtain rfl : queries = u.queries := hq
  rfl

/-- The counts of queries are all that is left of what was learned. -/
lemma Dispatcher.same_reset {m n : Nat} {d u : Dispatcher σ δ}
    (h : d.queries + n = u.queries + m) : d.reset.Same m n u.reset := by
  have hopcodes : d.reset.opcodes = u.reset.opcodes := rfl
  have hcodes : d.reset.codes = u.reset.codes := rfl
  have hqueries (x : Dispatcher σ δ) : x.reset.queries = x.queries := by simp only [reset]
  exact ⟨hopcodes, hcodes, by rw [hqueries, hqueries, h]⟩

section Resolve

open Dispatcher

variable {L : Likeness σ} {O : Ownership δ → Ownership δ → Prop} {e f : Environment σ δ}
  (h : e.Like L f) (hw : L.Worlds = Eq)

include h hw

/-- The vendors are asked in the same order, and offer the same. -/
lemma inStep_askEach (minor : UInt8) (code : UInt32) (vendors : List VendorId) :
    InStep (L.Sessions O) Eq (askEach e minor code vendors) (askEach f minor code vendors) := by
  induction vendors with
  | nil => exact .pure rfl
  | cons v rest ih =>
      rw [askEach, askEach, h.registry.interface?]
      cases (e.registry.interface? v).bind VendorInterface.dispatchAddress with
      | none => exact ih
      | some offer =>
          refine inStep_world.bind fun w u hwu => ?_
          obtain rfl : w = u := by rwa [hw] at hwu
          have hworld : L.Worlds (offer minor code w).2 (offer minor code w).2 := by rw [hw]
          refine (inStep_calling h v (.query minor code)
            ((inStep_setWorld hworld).bindSame fun _ => .pure rfl)).bindSame fun _ => ?_
          cases (offer minor code w).1 with
          | some run => exact .pure rfl
          | none => exact ih

/-- The vendors are asked for a handler in step. -/
lemma inStep_query (minor : UInt8) (code : UInt32) :
    InStep (L.Sessions O) Eq (query e minor code) (query f minor code) := by
  rw [query, query, h.registry.active]
  refine (inStep_askEach h hw minor code _).bindSame fun found => ?_
  cases found <;> exact .pure rfl

variable {m n : Nat} {d u : Dispatcher σ δ} (hdu : d.Same m n u)

include hdu

/-- The handler of an opcode is found in step. -/
lemma inStep_resolveOpcode (minor : UInt8) (hi : minor.toNat < opcodeCount) :
    InStep (L.Sessions O) (fun x y => x.1 = y.1 ∧ x.2.Same m n y.2) (resolveOpcode e d minor hi)
      (resolveOpcode f u minor hi) := by
  rw [resolveOpcode, resolveOpcode, hdu.opcodes]
  cases u.opcodes[minor.toNat] with
  | some entry => exact .pure ⟨rfl, hdu⟩
  | none =>
      refine (inStep_query h hw minor 0).bindSame fun target => .pure ⟨rfl, rfl, hdu.codes, ?_⟩
      have := hdu.queries
      dsimp only
      omega

/-- The handler of a vendor code is found in step. -/
lemma inStep_resolveCode (minor : UInt8) (code : UInt32) :
    InStep (L.Sessions O) (fun x y => x.1 = y.1 ∧ x.2.Same m n y.2) (resolveCode e d minor code)
      (resolveCode f u minor code) := by
  rw [resolveCode, resolveCode, hdu.codes]
  cases u.codes.get? code with
  | some target => exact .pure ⟨rfl, hdu⟩
  | none =>
      refine (inStep_query h hw minor code).bindSame fun target => .pure ⟨rfl, hdu.opcodes, rfl, ?_⟩
      have := hdu.queries
      dsimp only
      omega

/-- The same target is found for clients that are alike, by the same questions. -/
lemma inStep_resolve {c b : Client} (hcb : L.Alike c b) :
    InStep (L.Sessions O) (fun x y => x.1 = y.1 ∧ x.2.Same m n y.2) (d.resolve e c)
      (u.resolve f b) := by
  rw [resolve, resolve, L.minorOpcode_eq hcb, L.readWord_eq hcb (by decide)]
  cases b.minorOpcode with
  | error error => exact .pure ⟨rfl, hdu⟩
  | ok minor =>
      dsimp only
      split_ifs with hi
      · refine (inStep_resolveOpcode h hw hdu minor hi).bind ?_
        rintro ⟨entry, d⟩ ⟨_, u⟩ ⟨rfl, hdu⟩
        cases entry with
        | target t => exact .pure ⟨rfl, hdu⟩
        | byVendorCode =>
            cases b.readWord 4 with
            | error error => exact .pure ⟨rfl, hdu⟩
            | ok code =>
                refine (inStep_resolveCode h hw hdu minor code).bind ?_
                rintro ⟨t, d⟩ ⟨_, u⟩ ⟨rfl, hdu⟩
                exact .pure ⟨rfl, hdu⟩
      · exact .pure ⟨rfl, hdu⟩

end Resolve

/-! ### One request as an operation -/

/-- What an operation returned, and the session that it left. -/
def Step.outcome (step : Step σ δ α) : EStateM.Result Abort (Session σ δ) α :=
  match step.result with
  | .ok a => .ok a step.session
  | .error e => .error e step.session

lemma Step.leftState_outcome (step : Step σ δ α) : leftState step.outcome = step.session := by
  rw [Step.outcome]
  cases step.result <;> rfl

/-- What two operations did agrees. -/
def Step.Like (L : Likeness σ) (O : Ownership δ → Ownership δ → Prop) (Q : α → α → Prop)
    (x y : Step σ δ α) : Prop :=
  Agree (L.Sessions O) Q x.outcome y.outcome

namespace Step.Like

variable {L : Likeness σ} {O : Ownership δ → Ownership δ → Prop} {Q : α → α → Prop}
  {x y : Step σ δ α} (h : x.Like L O Q y)

include h

lemma session : L.Sessions O x.session y.session := by
  rw [← x.leftState_outcome, ← y.leftState_outcome]
  exact h.leftState

lemma journal : List.Forall₂ (Event.Like L) x.journal y.journal := by
  have hj : List.Forall₂ (Event.Like L) x.journal.reverse y.journal.reverse := h.session.journal
  exact List.forall₂_reverse_iff.mp hj

/-- If one run ends with an answer, so does the other. -/
lemma of_ok {a : α} (hx : x.result = .ok a) : ∃ b, y.result = .ok b ∧ Q a b := by
  rw [Step.Like, Step.outcome, Step.outcome, hx] at h
  rcases hy : y.result with e | b <;> rw [hy] at h <;> cases h
  next hab _ => exact ⟨b, rfl, hab⟩

/-- If one run is broken off, so is the other. -/
lemma of_error {e : Abort} (hx : x.result = .error e) : y.result = .error e := by
  rw [Step.Like, Step.outcome, Step.outcome, hx] at h
  rcases hy : y.result with e' | b <;> rw [hy] at h <;> cases h
  rfl

lemma result_eq (hQ : ∀ a b, Q a b → a = b) : x.result = y.result := by
  rcases hx : x.result with e | a
  · exact (h.of_error hx).symm
  · obtain ⟨b, hy, hab⟩ := h.of_ok hx
    rw [hy, hQ a b hab]

end Step.Like

namespace Server

/-- Two routers, to be told apart by nothing that counts. -/
structure Like (L : Likeness σ) (O : Ownership δ → Ownership δ → Prop) (s t : Server σ δ) :
    Prop where
  environment : s.environment.Like L t.environment
  extension : t.extension = s.extension
  session : L.Sessions O s.session t.session

variable {L : Likeness σ} {O : Ownership δ → Ownership δ → Prop} {s t : Server σ δ}

/-- Routers with the same vendors, which tell nothing apart that counts as the same. -/
lemma Like.of_sameVendors (h : s.SameVendors t) (host : s.host.Respects L)
    (vendors : s.registry.Every (VendorInterface.Respects L))
    (session : L.Sessions O s.session t.session) : s.Like L O t where
  environment := {
    host := h.host
    errorBase := by
      change t.errorBase = s.errorBase
      rw [Server.errorBase, Server.errorBase, h.extension]
    nestingLimit := h.nestingLimit
    registry := by
      change s.registry.Same t.registry
      rw [h.registry]
      exact .refl _
    respects := host
    vendors := vendors }
  extension := h.extension
  session := session

/-- The outcome of the work on a request, as that of an operation. -/
lemma answered_like {x y : EStateM.Result Fault (Exchange σ δ) Unit}
    (hxy : Agree (L.Exchanges O) Eq x y) :
    (s.answered x).Like L O L.Answers (t.answered y) := by
  have hsession (s : Server σ δ) (x : EStateM.Result Fault (Exchange σ δ) Unit) :
      (s.answered x).session = x.casesOn (fun _ x => x.session) fun _ x => x.session := by
    rcases x with ⟨_, x⟩ | ⟨_ | _, x⟩ <;> simp [answered, Step.session, withSession]
  have hst : L.Sessions O (s.answered x).session (t.answered y).session := by
    rw [hsession, hsession]
    cases hxy with
    | ok _ h | error h => exact h.session
  cases hxy with
  | ok _ h => exact .ok ⟨h.client, rfl⟩ hst
  | @error e _ _ h =>
      cases e with
      | error e => exact .ok ⟨h.client, rfl⟩ hst
      | abort a => exact .error hst

namespace Like

variable (h : s.Like L O t) (hO : L.Owned O) {c b : Client} (hcb : L.Alike c b)

include h hO hcb

/-- Serving what was found for a request. -/
lemma serve_of_resolve {found : Except ProtocolError (Target σ δ)} {d u : Dispatcher σ δ}
    {s' t' : Session σ δ} (he : s.extension ≠ none)
    (hs : s.dispatcher.resolve s.environment c s.session = .ok (found, d) s')
    (ht : t.dispatcher.resolve t.environment b t.session = .ok (found, u) t')
    (hst : L.Sessions O s' t') (hfound : ∀ target, found = .ok target → target.Respects L) :
    (s.serve c).Like L O L.Answers (t.serve b) := by
  rw [Server.serve_of_resolve he hs, Server.serve_of_resolve (h.extension ▸ he) ht]
  refine answered_like ?_
  have hserve : InStep (L.Exchanges O) Eq (serveFound s.environment found)
      (serveFound t.environment found) := by
    cases found with
    | error e => exact inStep_fail_bind e _ _
    | ok target => exact inStep_serve hO h.environment (hfound target rfl)
  exact hserve _ _ ⟨hcb, hst⟩

/-- Requests of clients that are alike are served in step. -/
lemma serve (hw : L.Worlds = Eq) {m n : Nat} (hd : s.dispatcher.Same m n t.dispatcher)
    (hfound : ∀ target d s', s.dispatcher.resolve s.environment c s.session =
      .ok (.ok target, d) s' → target.Respects L) :
    (s.serve c).Like L O L.Answers (t.serve b) ∧
      (s.serve c).server.dispatcher.Same m n (t.serve b).server.dispatcher := by
  by_cases he : s.extension = none
  · have he' := h.extension ▸ he
    rw [Server.serve, he, Server.serve, he']
    exact ⟨.ok ⟨hcb, rfl⟩ h.session, hd⟩
  · -- both requests are resolved in step, so both are served or both break off
    have hres := inStep_resolve (O := O) h.environment hw hd hcb _ _ h.session
    rcases hs : s.dispatcher.resolve s.environment c s.session with ⟨⟨found, d⟩, s'⟩ | ⟨a, s'⟩
    · rcases ht : t.dispatcher.resolve t.environment b t.session with ⟨⟨found', u⟩, t'⟩ | ⟨a, t'⟩
      all_goals
        rw [hs, ht] at hres
        cases hres
      next hdu hst =>
        obtain ⟨rfl, hdu⟩ := hdu
        refine ⟨h.serve_of_resolve hO hcb he hs ht hst ?_, ?_⟩
        · rintro target rfl
          exact hfound target d s' hs
        · rw [Server.serve_of_resolve he hs, Server.serve_of_resolve (h.extension ▸ he) ht,
            answered_dispatcher, answered_dispatcher]
          exact hdu
    · rcases ht : t.dispatcher.resolve t.environment b t.session with ⟨⟨found', u⟩, t'⟩ | ⟨a', t'⟩
      all_goals
        rw [hs, ht] at hres
        cases hres
      next hst =>
        obtain ⟨entry, he⟩ := Option.ne_none_iff_exists'.mp he
        rw [Server.serve, he, Server.serve, h.extension, he]
        dsimp only
        rw [hs, ht]
        exact ⟨.error (by simpa [Step.session, withSession] using hst), hd⟩

end Like

/-! ### The same clients -/

/-- Routers with the same vendors, as far as look-ups can tell. -/
lemma like_equal (host : t.host = s.host) (world : t.world = s.world)
    (registry : s.registry.Same t.registry) (ownership : t.ownership = s.ownership)
    (extension : t.extension = s.extension) (nestingLimit : t.nestingLimit = s.nestingLimit) :
    s.Like .equal Eq t where
  environment := Environment.like_equal host
    (by rw [environment, environment, errorBase, errorBase, extension]) nestingLimit registry
  extension := extension
  session := ⟨world.symm, ownership.symm, .nil⟩

/-- The same requests are served in step. -/
lemma Like.serve_equal (h : s.Like .equal Eq t) (hs : s.Sound) {m n : Nat}
    (hd : s.dispatcher.Same m n t.dispatcher) (c : Client) :
    (s.serve c).Like .equal Eq (Likeness.equal : Likeness σ).Answers (t.serve c) ∧
      (s.serve c).server.dispatcher.Same m n (t.serve c).server.dispatcher := by
  refine h.serve (Likeness.owned_eq _) ⟨rfl, trivial⟩ rfl hd ?_
  intro target d s' hr
  have hI := (s.environment.kept_const True).upheld.surveyed
  have hres := hs.dispatcher.resolve hI hs.active c (s := s.session) trivial
  rw [Ends, hr] at hres
  exact (hres.2.2 target rfl).respects trivial fun p _ => p.run.respects_equal

end Server

/-! ### A small world -/

/-- A window system that always answers the same respects everything. -/
lemma WindowSystem.respects_blank (L : Likeness Unit) (screens : Nat) :
    (blank screens).Respects L where
  screenCount _ := rfl
  lookupDrawable _ := rfl
  legalNewResource _ _ _ := rfl
  isExiting _ := rfl

/-- So does a vendor that always answers the same. -/
lemma VendorInterface.respects_obliging (L : Likeness Unit) (screen : Nat) (data : Option δ) :
    (obliging screen data).Respects L where
  handleRequest := by
    rintro handler ⟨⟩ c d hcd
    exact .done ⟨hcd, rfl⟩
  makeCurrent := by
    rintro handler ⟨⟩ c d q hcd
    exact .done ⟨hcd, rfl⟩

end VendorDispatch
