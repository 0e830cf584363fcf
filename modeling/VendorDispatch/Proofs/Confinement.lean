import VendorDispatch.Proofs.Operation

/-!
Vendors that act for nobody but the client that they are given.

Nothing keeps a vendor from storing data on the tags of any client, or from handing on the request
of another client. One that does neither leaves the tables of all other clients alone, and so does
a request to make a context current among such vendors.

* `Program.ActsFor`, `VendorInterface.ActsForClient`: the programs that act for one client, and the
  vendors that act for the client that they are given.
* `Session.Elsewhere`: the tables of all clients but one.
* `interpret_elsewhere`: what vendors that act for one client leave alone (`perform_elsewhere`,
  `runWith_elsewhere`).
* `makeCurrent_elsewhere`: what a switch leaves alone.
-/

namespace VendorDispatch

variable {σ δ α : Type}

/-! ### Programs that act for one client -/

/-- The call stores no data on a tag of any other client. -/
def ExportCall.ActsFor (client : ClientId) : ExportCall δ → Prop
  | setTagData c .. => c = client
  | _ => True

/-- Whatever the program is told, it stores data and hands on requests for this client only. Of a
forwarded request it may rely on one thing: the client comes back with the id it was sent with. -/
def Program.ActsFor (client : ClientId) : Program σ δ α → Prop
  | .done _ => True
  | .readWorld next => ∀ w, (next w).ActsFor client
  | .writeWorld _ next => next.ActsFor client
  | .note _ next => next.ActsFor client
  | .call request next => request.ActsFor client ∧ ∀ answer, (next answer).ActsFor client
  | .forward _ c next => c.id = client ∧ ∀ r, r.1.id = c.id → (next r).ActsFor client
  | .panic => True

/-- The callbacks that are given a client act for that client. -/
structure VendorInterface.ActsForClient (i : VendorInterface σ δ) : Prop where
  handleRequest : ∀ handler, i.handleRequest = some handler → ∀ c, (handler c).ActsFor c.id
  makeCurrent : ∀ handler, i.makeCurrent = some handler → ∀ c q, (handler c q).ActsFor c.id

/-- All registered vendors act for the client that they are given. -/
def Registry.ActsForClient (r : Registry σ δ) : Prop :=
  ∀ v i, r.interface? v = some i → i.ActsForClient

lemma VendorInterface.actsForClient_obliging (screen : Nat) (data : Option δ) :
    (obliging screen data).ActsForClient where
  handleRequest handler h c := by
    cases h
    trivial
  makeCurrent handler h c q := by
    cases h
    trivial

/-! ### The other clients -/

/-- The tables of all other clients are the ones of `o`. -/
def Session.Elsewhere (client : ClientId) (o : Ownership δ) (s : Session σ δ) : Prop :=
  ∀ d, d ≠ client → s.ownership.tagsOf? d = o.tagsOf? d

section Elsewhere

variable {env : Environment σ δ} {client : ClientId} {o : Ownership δ} {s : Session σ δ}

/-- A change of the client's own tags does not show elsewhere. -/
lemma Session.Elsewhere.modifyTags (h : s.Elsewhere client o) (f : TagTable δ → TagTable δ) :
    (s.withOwnership (s.ownership.modifyTags client f)).Elsewhere client o :=
  fun d hd => (s.ownership.tagsOf?_modifyTags_of_ne hd f).trans (h d hd)

/-- Screens are not tags. -/
lemma setScreenVendor_elsewhere (screen : Nat) (v : VendorId) :
    Keeps (Session.Elsewhere client o) (env.setScreenVendor screen v) := by
  intro s hs
  rw [Environment.setScreenVendor]
  split_ifs
  · exact hs
  · exact hs
  · rw [ends_bind, ends_world]
    split_ifs
    · exact hs
    · rw [ends_bind, ends_ownership]
      cases ho : s.ownership.setScreenVendor? screen v with
      | none => exact hs
      | some u => exact fun d hd => (Ownership.tagsOf?_setScreenVendor? ho d).trans (hs d hd)

/-- An export call that acts for the client leaves the others alone. -/
lemma perform_elsewhere {request : ExportCall δ} (h : request.ActsFor client) :
    Keeps (Session.Elsewhere client o) (env.perform request) := by
  intro s hs
  cases request with
  | setScreenVendor screen v => exact setScreenVendor_elsewhere screen v s hs
  | addXid id v =>
      exact ends_addXid (fun _ _ d hd => (s.ownership.tagsOf?_addXid id v d).trans (hs d hd)) hs
  | xidVendor id =>
      refine ends_vendorOfXid.mpr fun d hd => ?_
      rw [Session.ownership_lookedUp]
      exact hs d hd
  | setTagData c tag v data =>
      obtain rfl : c = client := h
      exact hs.modifyTags _
  | tagData c tag v => exact ends_tagData.mpr hs
  | screenVendor | removeXid | tagVendor | errorBase | screenCount | isExiting | lookupDrawable
  | legalNewResource => exact hs

/-! ### Programs of vendors -/

variable {forward : VendorId → Client → SessionM σ δ (Client × Except ProtocolError Unit)}

/-- A program that acts for the client leaves the others alone, if forwarded requests do. -/
lemma runWith_elsewhere
    (hf : ∀ v c, c.id = client → Keeps (Session.Elsewhere client o) (forward v c))
    (hid : ∀ v c s, Ends (forward v c) s (fun r _ => r.1.id = c.id) fun _ _ => True)
    {p : Program σ δ α} (hp : p.ActsFor client) :
    Keeps (Session.Elsewhere client o) (env.runWith forward p) := by
  induction p with
  | done a => exact .pure a
  | readWorld next ih => exact fun s hs => ends_bind.mpr (ih s.world (hp s.world) s hs)
  | writeWorld w next ih => exact fun s hs => ends_bind.mpr (ih hp _ hs)
  | note n next ih => exact fun s hs => ends_bind.mpr (ih hp _ hs)
  | call request next ih =>
      obtain ⟨hrequest, hnext⟩ := hp
      refine (perform_elsewhere hrequest).bind fun answer s hs => ends_bind.mpr ?_
      exact ih answer (hnext answer) _ hs
  | forward v c next ih =>
      obtain ⟨hc, hnext⟩ := hp
      intro s hs
      refine ends_bind.mpr (((hid v c s).and (hf v c hc s hs)).mono ?_ fun _ _ h => h.2)
      exact fun r t h => ih r (hnext r h.1) t h.2
  | panic => exact .throw _

/-- A call leaves the others alone if the work of the callback does. -/
lemma calling_elsewhere {v : VendorId} (callback : Callback δ)
    {work : SessionM σ δ callback.Answer} (hw : Keeps (Session.Elsewhere client o) work) :
    Keeps (Session.Elsewhere client o) (env.calling v callback work) :=
  fun _ hs => (ends_calling callback).mpr (hw _ hs)

/-- A request that is handed on stays with its client, at any depth of nesting. -/
lemma forwardNested_elsewhere (hr : env.registry.KeepsClient) (ha : env.registry.ActsForClient) :
    ∀ depth v (c : Client), c.id = client →
      Keeps (Session.Elsewhere client o) (env.forwardNested depth v c)
  | 0, _, _, _ => .throw _
  | depth + 1, v, c, hc => by
      rw [Environment.forwardNested, Environment.serveWith]
      cases hh : env.requestHandler? v with
      | none => exact .pure _
      | some handler =>
          obtain ⟨-, w, hw, hi⟩ := Environment.isInitialized_of_requestHandler? hh
          have hw' : env.registry.interface? v = some w.interface := by
            rw [Registry.interface?, hw, Option.map_some]
          have hacts : (handler c).ActsFor client := hc ▸ (ha v _ hw').handleRequest handler hi c
          exact calling_elsewhere (.request c) (runWith_elsewhere
            (forwardNested_elsewhere hr ha depth) (forwardNested_returns hr depth) hacts)

/-- A program that acts for the client leaves the others alone, among vendors that do as well. -/
lemma interpret_elsewhere (hr : env.registry.KeepsClient) (ha : env.registry.ActsForClient)
    {p : Program σ δ α} (hp : p.ActsFor client) :
    Keeps (Session.Elsewhere client o) (env.interpret p) :=
  runWith_elsewhere (forwardNested_elsewhere hr ha env.nestingLimit)
    (forwardNested_returns hr env.nestingLimit) hp

end Elsewhere

/-! ### Switching contexts -/

/-- The exchange is with the client, and the tables of all other clients are the ones of `o`. -/
structure Exchange.Confined (client : ClientId) (o : Ownership δ) (x : Exchange σ δ) : Prop where
  id : x.client.id = client
  elsewhere : x.session.Elsewhere client o

section Switching

open MakeCurrent

variable {env : Environment σ δ} {client : ClientId} {o : Ownership δ}

/-- A request that changes its client's tags is confined to them. -/
lemma Exchange.Confined.modifyTags {x : Exchange σ δ} (h : x.Confined client o)
    (f : TagTable δ → TagTable δ) : (x.modifyTags f).Confined client o := by
  obtain ⟨rfl, hs⟩ := h
  exact ⟨rfl, hs.modifyTags f⟩

/-- So is asking a vendor to bind or to release. -/
lemma ask_confined (hr : env.registry.KeepsClient) (ha : env.registry.ActsForClient) (v : VendorId)
    (q : MakeCurrentRequest δ) : Keeps (Exchange.Confined client o) (ask env v q) := by
  rintro x ⟨rfl, hx⟩
  rw [ask]
  cases hv : env.makeCurrentHandler? v with
  | none => exact ⟨rfl, hx⟩
  | some handler =>
      have hid := hr.handsBack v handler hv x.client q
      rw [Environment.makeCurrentHandler?, Option.bind_eq_some_iff] at hv
      obtain ⟨i, hi, hh⟩ := hv
      have hacts := (ha v i hi).makeCurrent handler hh x.client q
      have hcalled : (x.session.enter (.called v (env.registry.isInitialized v)
          (.makeCurrent x.client q))).Elsewhere x.client.id o := hx
      refine ends_onClient.mpr ((ends_calling (.makeCurrent x.client q)).mpr ?_)
      refine ((hid _).and (interpret_elsewhere hr ha hacts _ hcalled)).mono ?_ fun _ _ h => ⟨rfl, h.2⟩
      rintro ⟨c, data | e⟩ s ⟨hc, hs⟩ <;> exact ⟨hc, hs⟩

lemma release_confined (hr : env.registry.KeepsClient) (ha : env.registry.ActsForClient)
    (old : TagInfo δ) : Keeps (Exchange.Confined client o) (release env old) := by
  rw [release]
  cases old.owner with
  | none => exact fun x hx => hx
  | some v => exact (ask_confined hr ha v _).discard.bind fun _ x hx => hx.modifyTags _

/-- So is claiming a tag. -/
lemma claimTag_confined (v : VendorId) :
    Keeps (Exchange.Confined client o) (claimTag v : ExchangeM σ δ ContextTag) := by
  rintro x ⟨rfl, hx⟩
  rw [claimTag, ends_bind, ends_client, ends_bind, ends_onSession, ends_ownership]
  cases ho : x.session.ownership.allocateTag? x.client.id v with
  | none => exact ⟨rfl, hx⟩
  | some r =>
      refine ⟨rfl, fun d hd => ?_⟩
      exact (Ownership.tagsOf?_allocateTag?_of_ne ho hd).trans (hx d hd)

lemma bind_confined (hr : env.registry.KeepsClient) (ha : env.registry.ActsForClient) (v : VendorId)
    (q : Switch) : Keeps (Exchange.Confined client o) (bind env v q) := by
  refine (claimTag_confined v).bind fun tag => Keeps.bind ?_ fun asked => ?_
  · intro x hx
    refine ends_attempt.mpr ((ask_confined hr ha v _ x hx).mono (fun _ _ h => h) ?_)
    rintro (e | a) y hy <;> exact hy
  · cases asked with
    | ok data => exact fun x hx => hx.modifyTags _
    | error e => exact fun x hx => hx.modifyTags _

lemma switchTo_confined (hr : env.registry.KeepsClient) (ha : env.registry.ActsForClient)
    (q : Switch) (old : Option (TagInfo δ)) (vendor : Option VendorId) :
    Keeps (Exchange.Confined client o) (switchTo env q old vendor) := fun _ hx =>
  ends_switchTo (fun _ => hx) (fun e _ => release_confined hr ha e _ hx) (fun _ _ => id) fun v _ =>
    bind_confined hr ha v q

/-- A switch leaves the tables of other clients alone. -/
lemma makeCurrent_elsewhere (hr : env.registry.KeepsClient) (ha : env.registry.ActsForClient)
    (encoding : Encoding) :
    Keeps (Exchange.Confined client o) (MakeCurrent.serve env encoding) := by
  intro x hx
  have hreply : ∀ (tag : ContextTag) (y : Exchange σ δ), y.Confined client o →
      Ends (ExchangeM.sendReply [(8, tag)]) y (fun _ => Exchange.Confined client o)
        fun _ => Exchange.Confined client o :=
    fun tag y hy => ends_replyTag fun _ _ => ⟨hy.id, hy.elsewhere⟩
  rw [MakeCurrent.serve, ends_bind, ends_read]
  cases hq : decode x.client encoding with
  | error e => exact hx
  | ok q =>
      have hs : (x.withSession (q.sought x.session)).Confined client o := by
        refine ⟨hx.id, fun d hd => ?_⟩
        rw [Exchange.session_withSession, Switch.ownership_sought]
        exact hx.elsewhere d hd
      refine ends_switch rfl (fun _ _ => ⟨hx.id, hx.elsewhere⟩) (fun _ _ => ⟨hs.id, hs.elsewhere⟩)
        (fun e v _ _ _ => hreply e.tag _ hs) fun _ _ _ => ?_
      exact (switchTo_confined hr ha q _ _ _ hs).mono (fun tag y hy => hreply tag y hy)
        fun _ _ => id

end Switching

end VendorDispatch
