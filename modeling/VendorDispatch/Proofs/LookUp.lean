import VendorDispatch.Proofs.Service

/-!
What the router does before it hands on a request: it reads the request and looks up who is to serve
it, and it changes nothing on the way.

* `Exchange.Agrees`: an exchange in which the window system was asked questions, and nothing else
  has happened.
* `Exchange.Declines`: the request is answered by an error before it has reached anybody.
* `LooksUp`: work that finds a value or declines the request.
* `ends_routed`: a request that may create or destroy a resource. The new resource is recorded before
  the owner is asked, and one of the two is forgotten when the owner has answered.
-/

namespace VendorDispatch

variable {σ δ α β : Type}

/-! ### Exchanges that agree -/

/-- The window system is asked a question. -/
def Event.IsQuestion : Event δ → Prop
  | .drawableAsked .. => True
  | .resourceAsked .. => True
  | _ => False

instance : (e : Event δ) → Decidable e.IsQuestion
  | .drawableAsked .. | .resourceAsked .. => isTrue trivial
  | .called .. | .returned .. | .exported .. | .noted _ => isFalse id

/-- Nothing has changed, but the window system was asked questions. -/
structure Exchange.Agrees (x y : Exchange σ δ) : Prop where
  client : y.client = x.client
  world : y.session.world = x.session.world
  ownership : y.session.ownership = x.session.ownership
  journal : ∃ asked, (∀ e ∈ asked, e.IsQuestion) ∧
    y.session.journal = asked ++ x.session.journal

/-- The request is answered by an error about a value, and nothing else has changed. -/
def Exchange.Declines (x : Exchange σ δ) : Fault → Exchange σ δ → Prop
  | .error _, y => ∃ z v, x.Agrees z ∧ y = z.withClient { z.client with errorValue := v }
  | .abort _, _ => False

namespace Exchange

variable {x y z : Exchange σ δ}

lemma Agrees.refl (x : Exchange σ δ) : x.Agrees x :=
  ⟨rfl, rfl, rfl, [], List.forall_mem_nil _, rfl⟩

/-- Two look-ups in a row change nothing that one does not. -/
lemma Agrees.trans (h : x.Agrees y) (h' : y.Agrees z) : x.Agrees z := by
  obtain ⟨asked, hasked, hj⟩ := h.journal
  obtain ⟨asked', hasked', hj'⟩ := h'.journal
  refine ⟨h'.client.trans h.client, h'.world.trans h.world, h'.ownership.trans h.ownership,
    asked' ++ asked, List.forall_mem_append.mpr ⟨hasked', hasked⟩, ?_⟩
  rw [hj', hj, List.append_assoc]

/-- A question to the window system. -/
lemma agrees_enter (x : Exchange σ δ) {e : Event δ} (he : e.IsQuestion) :
    x.Agrees (x.withSession (x.session.enter e)) :=
  ⟨rfl, rfl, rfl, [e], List.forall_mem_singleton.mpr he, rfl⟩

/-- The owner of a resource is asked for. -/
lemma agrees_lookedUp (x : Exchange σ δ) (id : Xid) :
    x.Agrees (x.withSession (x.session.lookedUp id)) := by
  rw [Session.lookedUp]
  split
  · exact .refl x
  · exact x.agrees_enter trivial

/-- The request is answered by an error that is not about a value. -/
lemma Agrees.declines_self (h : x.Agrees y) (e : ProtocolError) : x.Declines (.error e) y :=
  ⟨y, y.client.errorValue, h, rfl⟩

/-- The request is answered by an error about a value. -/
lemma Agrees.declines_at (h : x.Agrees y) (v : UInt32) {e : ProtocolError} :
    x.Declines (.error e) (y.withClient { y.client with errorValue := v }) :=
  ⟨y, v, h, rfl⟩

/-- What is declined later is declined from the start. -/
lemma Agrees.declines (h : x.Agrees y) {f : Fault} (hz : y.Declines f z) : x.Declines f z := by
  cases f with
  | error e =>
      obtain ⟨w, v, hw, rfl⟩ := hz
      exact ⟨w, v, h.trans hw, rfl⟩
  | abort a => exact hz

end Exchange

/-! ### Looking things up -/

/-- Work that finds a value with `P` or declines the request. -/
def LooksUp (P : Exchange σ δ → α → Prop) (work : ExchangeM σ δ α) : Prop :=
  ∀ x, Ends work x (fun a y => x.Agrees y ∧ P x a) x.Declines

section LooksUp

variable {x : Exchange σ δ} {P : Exchange σ δ → β → Prop} {work : ExchangeM σ δ β}
  {f : β → ExchangeM σ δ α}

/-- What comes after a value was looked up. -/
lemma LooksUp.before {post : α → Exchange σ δ → Prop} {fault : Fault → Exchange σ δ → Prop}
    (h : LooksUp P work) (hdeclined : ∀ f y, x.Declines f y → fault f y)
    (hf : ∀ b y, x.Agrees y → P x b → Ends (f b) y post fault) :
    Ends (work >>= f) x post fault :=
  ends_bind.mpr ((h x).mono (fun b y hy => hf b y hy.1 hy.2) hdeclined)

lemma LooksUp.mono {Q : Exchange σ δ → β → Prop} (h : LooksUp P work)
    (hPQ : ∀ x a, P x a → Q x a) : LooksUp Q work :=
  fun x => (h x).mono (fun a _ hy => ⟨hy.1, hPQ x a hy.2⟩) fun _ _ => id

lemma looksUp_pure {P : Exchange σ δ → α → Prop} {a : α} (h : ∀ x, P x a) :
    LooksUp P (pure a : ExchangeM σ δ α) := fun x => ⟨.refl x, h x⟩

lemma looksUp_client :
    LooksUp (fun x c => c = x.client) (ExchangeM.client : ExchangeM σ δ Client) :=
  fun x => ⟨.refl x, rfl⟩

/-- To read a field is a look-up. -/
lemma looksUp_readWord (offset : Nat) :
    LooksUp (fun x v => x.client.readWord offset = .ok v)
      (ExchangeM.readWord offset : ExchangeM σ δ UInt32) := by
  intro x
  rw [ends_readWord]
  cases hv : x.client.readWord offset with
  | ok v => exact ⟨.refl x, hv⟩
  | error e => exact (Exchange.Agrees.refl x).declines_self e

/-- Reading off who owns what. -/
lemma looksUp_onOwnership (f : Ownership δ → α) :
    LooksUp (fun x a => a = f x.session.ownership)
      (ExchangeM.onSession (f <$> SessionM.ownership) : ExchangeM σ δ α) :=
  fun x => ⟨.refl x, rfl⟩

variable {env : Environment σ δ}

lemma looksUp_vendorOfXid (id : Xid) :
    LooksUp (fun x v => v = env.ownerOfXid x.session id)
      (ExchangeM.onSession (env.vendorOfXid id)) := by
  intro x
  exact ends_onSession.mpr (ends_vendorOfXid.mpr ⟨x.agrees_lookedUp id, rfl⟩)

lemma looksUp_tagVendor (tag : ContextTag) :
    LooksUp (fun _ _ => True) (Forwarding.tagVendor tag : ExchangeM σ δ VendorId) := by
  intro x
  refine looksUp_client.before (fun _ _ => id) fun c y hy _ => ?_
  refine (looksUp_onOwnership fun o => (o.lookupTag c.id tag).bind TagInfo.owner).before
    (fun _ _ => hy.declines) fun v z hz _ => ?_
  cases v with
  | none => exact ends_failAt.mpr ((hy.trans hz).declines_at tag)
  | some v => exact ⟨hy.trans hz, trivial⟩

lemma looksUp_xidVendor (id : Xid) (e : ProtocolError) :
    LooksUp (fun _ _ => True) (Forwarding.xidVendor env id e) := by
  intro x
  refine (looksUp_vendorOfXid id).before (fun _ _ => fun h => h) fun v y hy _ => ?_
  cases v with
  | none => exact ends_failAt.mpr (hy.declines_at id)
  | some v => exact ⟨hy, trivial⟩

end LooksUp

/-! ### Requests that create or destroy a resource -/

namespace RoutedRequest

variable (r : RoutedRequest)

/-- The id of the resource that a client's request creates. -/
def created? (c : Client) : Option Xid := r.adds.bind fun offset => (c.readWord offset).toOption

/-- The id of the resource that a client's request destroys. -/
def destroyed? (c : Client) : Option Xid :=
  r.removes.bind fun offset => (c.readWord offset).toOption

end RoutedRequest

/-- The resource that a request creates is recorded as the vendor's, if there is one. -/
def Exchange.Records (x : Exchange σ δ) (v : VendorId) : Option Xid → Exchange σ δ → Prop
  | none, y => y = x
  | some id, y => (x.session.ownership.addXid id v).1 = true ∧
    y = x.withSession (x.session.withOwnership (x.session.ownership.addXid id v).2)

/-- The exchange without a resource that was created or destroyed, if there is one. -/
def Exchange.forget (x : Exchange σ δ) : Option Xid → Exchange σ δ
  | none => x
  | some id => x.withSession (x.session.withOwnership (x.session.ownership.removeXid id))

section Routed

variable {env : Environment σ δ} {r : RoutedRequest} {x : Exchange σ δ}

@[simp] lemma Exchange.journal_forget (x : Exchange σ δ) (id? : Option Xid) :
    (x.forget id?).session.journal = x.session.journal := by
  cases id? <;> rfl

lemma Exchange.get?_xids_forget (x : Exchange σ δ) (id? : Option Xid) (k : Xid) :
    (x.forget id?).session.ownership.xids.get? k =
      if id? = some k then none else x.session.ownership.xids.get? k := by
  cases id? with
  | none => simp [forget]
  | some id => simp [forget, eq_comm]

/-- The owner of a resource after one was recorded, which had no owner before. -/
lemma Exchange.Records.get?_xids {y : Exchange σ δ} {v : VendorId} {id? : Option Xid}
    (h : x.Records v id? y) (k : Xid) :
    y.session.ownership.xids.get? k =
        (if id? = some k then some v else x.session.ownership.xids.get? k) ∧
      (id? = some k → x.session.ownership.xids.get? k = none) ∧
      y.session.journal = x.session.journal := by
  cases id? with
  | none =>
      obtain rfl : y = x := h
      simp
  | some id =>
      obtain ⟨ha, rfl⟩ := h
      refine ⟨?_, ?_, rfl⟩
      · simp [Ownership.get?_xids_addXid ha, eq_comm]
      · rintro ⟨⟩
        exact (Ownership.addXid_fst_iff.mp ha).2

/-- Forgetting the resource that was just recorded gives everything back. -/
lemma Exchange.Records.forget {y : Exchange σ δ} {v : VendorId} {id? : Option Xid}
    (h : x.Records v id? y) : y.forget id? = x := by
  cases id? with
  | none => exact h
  | some id =>
      obtain ⟨ha, rfl⟩ := h
      have hback := Ownership.removeXid_addXid ha
      simp only [Exchange.forget, Exchange.withSession, Session.withOwnership, hback]

/-- So is reading what a request creates. -/
lemma looksUp_newXid : LooksUp (fun x id => id = r.created? x.client) (r.newXid env) := by
  rw [RoutedRequest.newXid]
  split
  · next h => exact looksUp_pure fun x => by rw [RoutedRequest.created?, h, Option.bind_none]
  · next offset h =>
    intro x
    refine (looksUp_readWord offset).before (fun _ _ => id) fun id y hy hid => ?_
    refine looksUp_client.before (fun _ _ => hy.declines) fun c z hz hc => ?_
    rw [ends_bind, ends_onSession]
    have hasked := (hy.trans hz).trans (z.agrees_enter (e := .resourceAsked id c.id) trivial)
    change Ends (if env.host.legalNewResource z.session.world id c = true then _ else _)
      (z.withSession (z.session.enter (.resourceAsked id c.id))) _ _
    split_ifs
    · refine ⟨hasked, ?_⟩
      change some id = r.created? x.client
      rw [RoutedRequest.created?, h, Option.bind_some, hid]
      rfl
    · exact ends_failAt.mpr (hasked.declines_at id)

/-- So is reading what it destroys. -/
lemma looksUp_oldXid :
    LooksUp (fun x id => id = r.destroyed? x.client) (r.oldXid : ExchangeM σ δ (Option Xid)) := by
  rw [RoutedRequest.oldXid]
  split
  · next h => exact looksUp_pure fun x => by rw [RoutedRequest.destroyed?, h, Option.bind_none]
  · next offset h =>
    intro x
    refine (looksUp_readWord offset).before (fun _ _ => id) fun id y hy hid => ⟨hy, ?_⟩
    change some id = r.destroyed? x.client
    rw [RoutedRequest.destroyed?, h, Option.bind_some, hid]
    rfl

/-- So is finding the owner of its field. -/
lemma looksUp_owner (field : UInt32) :
    LooksUp (fun x v => r.route = .screen → v = x.session.ownership.screenVendor field.toNat)
      (r.owner env field) := by
  rw [RoutedRequest.owner]
  split
  · exact (looksUp_onOwnership fun o => o.screenVendor field.toNat).mono fun _ _ h _ => h
  · next h => exact (looksUp_vendorOfXid field).mono fun _ _ _ hs => by cases h.symm.trans hs
  · next h =>
    intro x
    refine looksUp_client.before (fun _ _ => id) fun c y hy _ => ?_
    refine (looksUp_onOwnership (fun o => (o.lookupTag c.id field).bind TagInfo.owner) y).mono
      (fun _ _ hz => ⟨hy.trans hz.1, fun hs => ?_⟩) fun _ _ => hy.declines
    cases h.symm.trans hs

/-- A routed request is declined, or handed to the owner of its routing field. A resource that it
creates is recorded before, and forgotten if the owner fails; one that it destroys is forgotten if
the owner succeeds. -/
lemma ends_routed {post : Unit → Exchange σ δ → Prop} {fault : Fault → Exchange σ δ → Prop}
    (hdeclined : ∀ f y, x.Declines f y → fault f y)
    (hserve : ∀ v y z, x.Agrees y →
      (r.route = .screen → ∃ i, x.client.readWord r.offset = .ok i ∧
        x.session.ownership.screenVendor i.toNat = some v) →
      y.Records v (r.created? x.client) z →
      Ends (Forwarding.forward env v) z (fun _ w => post () (w.forget (r.destroyed? x.client)))
        fun f w =>
          match f with
          | .error e => fault (.error e) (w.forget (r.created? x.client))
          | .abort a => fault (.abort a) w) :
    Ends (r.serve env) x post fault := by
  -- each look-up declines the request, or leaves it as it was
  refine (looksUp_readWord r.offset).before hdeclined fun field y₁ h₁ hfield => ?_
  refine looksUp_newXid.before (fun f y h => hdeclined f y (h₁.declines h)) fun created y₂ h₂ hc => ?_
  have hx₂ := h₁.trans h₂
  refine (looksUp_owner field).before (fun f y h => hdeclined f y (hx₂.declines h))
    fun owner y₃ h₃ howner => ?_
  have hx₃ := hx₂.trans h₃
  rw [h₁.client] at hc
  rw [hx₂.ownership] at howner
  cases owner with
  | none => exact hdeclined _ _ (hx₃.declines_at field)
  | some v =>
      refine looksUp_oldXid.before (fun f y h => hdeclined f y (hx₃.declines h))
        fun destroyed y h₄ hd => ?_
      have hx := hx₃.trans h₄
      rw [hx₃.client] at hd
      have hv := fun z => hserve v y z hx fun hroute => ⟨field, hfield, (howner hroute).symm⟩
      -- the vendor is called; what was created is recorded before
      rw [← hc, ← hd] at hv
      cases created with
      | none =>
          refine ends_bind.mpr (ends_attempt.mpr ((hv y rfl).mono (fun _ w hw => ?_) ?_))
          · cases destroyed <;> exact hw
          · rintro (e | a) w hw <;> exact hw
      | some id =>
          refine ends_bind.mpr (ends_onSession.mpr (ends_addXid (fun _ ha => ?_) ?_))
          · refine ends_bind.mpr (ends_attempt.mpr ((hv _ ⟨ha, rfl⟩).mono (fun _ w hw => ?_) ?_))
            · cases destroyed <;> exact hw
            · rintro (e | a) w hw <;> exact hw
          · exact hdeclined _ _ (hx.declines_self _)

end Routed

end VendorDispatch
