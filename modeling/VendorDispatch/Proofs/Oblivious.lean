import VendorDispatch.Proofs.Work
import VendorDispatch.Router.Dispatcher

/-!
Whatever serves a request is oblivious to the past: it enters events into the journal, and never
reads the ones that are there. It asks no vendor for a handler.

* `Commutes`: work that does the same after a change of its state as before it; `Commutes.bind`
  carries that over to two pieces of work in a row.
* `Revision`: a change of the journal that does not touch what is entered later, unless that is a
  query. Older events can be put below the journal, and queries can be taken out of it.
* `commutes_interpret`, `commutes_serve`: every program of every vendor, and whatever serves a
  request, commutes with every revision.
* `session_entered`, `exchange_entered`: so it only enters events into the journal, and no queries.
-/

namespace VendorDispatch

section Commutes

variable {ε S α β : Type} {f : S → S}

/-- The outcome of work, with another state. -/
def mapState (f : S → S) : EStateM.Result ε S α → EStateM.Result ε S α
  | .ok a s => .ok a (f s)
  | .error e s => .error e (f s)

/-- Work that does the same whether the state is changed before it or after it. -/
def Commutes (f : S → S) (work : EStateM ε S α) : Prop :=
  ∀ s, work (f s) = mapState f (work s)

namespace Commutes

lemma pure (a : α) : Commutes f (pure a : EStateM ε S α) := fun _ => rfl

lemma throw (e : ε) : Commutes f (throw e : EStateM ε S α) := fun _ => rfl

/-- Two pieces of work in a row, neither of which looks at what is revised. -/
lemma bind {x : EStateM ε S β} {g : β → EStateM ε S α} (hx : Commutes f x)
    (hg : ∀ b, Commutes f (g b)) : Commutes f (x >>= g) := by
  intro s
  simp only [Bind.bind, EStateM.bind, hx s]
  cases x s with
  | ok b t => exact hg b t
  | error e t => rfl

/-- A returned value does not depend on what is revised, and so neither does what is made of it. -/
lemma map {x : EStateM ε S β} (g : β → α) (hx : Commutes f x) : Commutes f (g <$> x) := by
  intro s
  simp only [Functor.map, EStateM.map, hx s]
  cases x s <;> rfl

lemma discard {x : EStateM ε S β} (hx : Commutes f x) : Commutes f (discard x) := hx.map _

end Commutes

end Commutes

/-! ### Revisions of the journal -/

variable {σ δ α : Type}

/-- A vendor is asked for a handler. -/
def Callback.isQuery : Callback δ → Bool
  | .query .. => true
  | _ => false

/-- A vendor is asked for a handler, or answers. -/
def Event.isQuery : Event δ → Bool
  | .called _ _ (.query ..) => true
  | .returned _ (.query ..) _ => true
  | _ => false

/-- A change of the journal that leaves alone what is entered later, unless that is a query. -/
structure Revision (δ : Type) where
  /-- The revised journal. -/
  apply : List (Event δ) → List (Event δ)
  apply_cons : ∀ e journal, e.isQuery = false → apply (e :: journal) = e :: apply journal

/-- Older events are put below those of the journal. -/
def Revision.below (older : List (Event δ)) : Revision δ := ⟨(· ++ older), fun _ _ _ => rfl⟩

/-- Queries are taken out of the journal. -/
def Revision.withoutQueries : Revision δ where
  apply journal := journal.filter fun e => !e.isQuery
  apply_cons e journal he := List.filter_cons_of_pos (by rw [he, Bool.not_false])

variable {ρ : Revision δ}

/-! ### Work on a session -/

/-- The session with its journal revised. -/
def Session.revise (ρ : Revision δ) (s : Session σ δ) : Session σ δ :=
  { s with journal := ρ.apply s.journal }

/-- The session with older events below those of its journal. -/
abbrev Session.atop (older : List (Event δ)) : Session σ δ → Session σ δ :=
  Session.revise (.below older)

section Session

/-- An event that is no question is entered in front, where the revision does not reach. -/
lemma commutes_record {e : Event δ} (he : e.isQuery = false) :
    Commutes (Session.revise ρ) (SessionM.record e : SessionM σ δ Unit) := by
  intro s
  have hentered : (s.revise ρ).enter e = (s.enter e).revise ρ :=
    congrArg (fun journal => ({ s with journal } : Session σ δ)) (ρ.apply_cons e s.journal he).symm
  exact congrArg (EStateM.Result.ok ()) hentered

lemma commutes_world : Commutes (Session.revise ρ) (SessionM.world : SessionM σ δ σ) :=
  fun _ => rfl

lemma commutes_setWorld (w : σ) :
    Commutes (Session.revise ρ) (SessionM.setWorld w : SessionM σ δ Unit) := fun _ => rfl

/-- The owners are not revised. -/
lemma commutes_ownership :
    Commutes (Session.revise ρ) (SessionM.ownership : SessionM σ δ (Ownership δ)) :=
  fun _ => rfl

lemma commutes_setOwnership (o : Ownership δ) :
    Commutes (Session.revise ρ) (SessionM.setOwnership o : SessionM σ δ Unit) := fun _ => rfl

variable (env : Environment σ δ)

/-- A question to the window system goes by its world. -/
lemma commutes_lookupDrawable (id : Xid) (access : AccessMode) :
    Commutes (Session.revise ρ) (env.lookupDrawable id access) :=
  (commutes_record rfl).bind fun _ => commutes_world.bind fun _ => .pure _

lemma commutes_legalNewResource (id : Xid) (client : Client) :
    Commutes (Session.revise ρ) (env.legalNewResource id client) :=
  (commutes_record rfl).bind fun _ => commutes_world.bind fun _ => .pure _

/-- The owner of a resource is found by the owners, or by the window system. -/
lemma commutes_vendorOfXid (id : Xid) : Commutes (Session.revise ρ) (env.vendorOfXid id) := by
  refine commutes_ownership.bind fun o => ?_
  cases o.xids.get? id with
  | some vendor => exact .pure _
  | none =>
      exact (commutes_lookupDrawable env id _).bind fun _ =>
        commutes_ownership.bind fun _ => .pure _

/-- A screen is assigned by what is registered and owned. -/
lemma commutes_setScreenVendor (screen : Nat) (vendor : VendorId) :
    Commutes (Session.revise ρ) (env.setScreenVendor screen vendor) := by
  rw [Environment.setScreenVendor]
  split_ifs
  · exact .pure _
  · exact .pure _
  · refine commutes_world.bind fun w => ?_
    split_ifs
    · exact .pure _
    · refine commutes_ownership.bind fun o => ?_
      cases o.setScreenVendor? screen vendor with
      | none => exact .pure _
      | some u => exact (commutes_setOwnership u).bind fun _ => .pure _

/-- A resource is recorded by what is registered and owned. -/
lemma commutes_addXid (id : Xid) (vendor : VendorId) :
    Commutes (Session.revise ρ) (env.addXid id vendor) := by
  rw [Environment.addXid]
  split_ifs
  · exact commutes_ownership.bind fun o => (commutes_setOwnership _).bind fun _ => .pure _
  · exact .pure _

lemma commutes_removeXid (id : Xid) :
    Commutes (Session.revise ρ) (Environment.removeXid id : SessionM σ δ Unit) :=
  commutes_ownership.bind fun _ => commutes_setOwnership _

/-- The owner of a tag is told by its entry. -/
lemma commutes_vendorOfTag (client : ClientId) (tag : ContextTag) :
    Commutes (Session.revise ρ)
      (Environment.vendorOfTag client tag : SessionM σ δ (Option VendorId)) :=
  commutes_ownership.bind fun _ => .pure _

/-- Private data is told by the entry of its tag. -/
lemma commutes_tagData (client : ClientId) (tag : ContextTag) (vendor : VendorId) :
    Commutes (Session.revise ρ)
      (Environment.tagData client tag vendor : SessionM σ δ (Option (Option δ))) := by
  refine commutes_ownership.bind fun o => ?_
  cases o.lookupTag client tag <;> exact .pure _

/-- Private data is stored in the entry of its tag. -/
lemma commutes_setTagData (client : ClientId) (tag : ContextTag) (vendor : VendorId)
    (data : Option δ) :
    Commutes (Session.revise ρ)
      (Environment.setTagData client tag vendor data : SessionM σ δ Bool) :=
  commutes_ownership.bind fun _ => (commutes_setOwnership _).bind fun _ => .pure _

/-- No export call looks at what is revised. -/
lemma commutes_perform (request : ExportCall δ) :
    Commutes (Session.revise ρ) (env.perform request) := by
  cases request with
  | setScreenVendor screen vendor => exact commutes_setScreenVendor env screen vendor
  | screenVendor screen => exact commutes_ownership.bind fun _ => .pure _
  | addXid id vendor => exact commutes_addXid env id vendor
  | xidVendor id => exact commutes_vendorOfXid env id
  | removeXid id => exact commutes_removeXid id
  | tagVendor client tag => exact commutes_vendorOfTag client tag
  | tagData client tag vendor => exact commutes_tagData client tag vendor
  | setTagData client tag vendor data => exact commutes_setTagData client tag vendor data
  | errorBase => exact .pure _
  | screenCount => exact commutes_world.bind fun _ => .pure _
  | isExiting => exact commutes_world.bind fun _ => .pure _
  | lookupDrawable id access => exact commutes_lookupDrawable env id access
  | legalNewResource id client => exact commutes_legalNewResource env id client

/-- A program is oblivious if the way to forward requests is. -/
lemma commutes_runWith
    {forward : VendorId → Client → SessionM σ δ (Client × Except ProtocolError Unit)}
    (hf : ∀ vendor client, Commutes (Session.revise ρ) (forward vendor client))
    (p : Program σ δ α) : Commutes (Session.revise ρ) (env.runWith forward p) := by
  induction p with
  | done a => exact .pure a
  | readWorld next ih => exact commutes_world.bind fun w => ih w
  | writeWorld w next ih => exact (commutes_setWorld w).bind fun _ => ih
  | note n next ih => exact (commutes_record rfl).bind fun _ => ih
  | call request next ih =>
      exact (commutes_perform env request).bind fun answer =>
        (commutes_record rfl).bind fun _ => ih answer
  | forward vendor client next ih => exact (hf vendor client).bind fun r => ih r
  | panic => exact .throw _

/-- A vendor that is called, but not asked for a handler, is called in both alike. -/
lemma commutes_calling (vendor : VendorId) {callback : Callback δ}
    (hc : callback.isQuery = false)
    {work : SessionM σ δ callback.Answer} (hwork : Commutes (Session.revise ρ) work) :
    Commutes (Session.revise ρ) (env.calling vendor callback work) := by
  have hcalled (initialized) : (Event.called vendor initialized callback).isQuery = false := by
    cases callback with
    | query => cases hc
    | _ => rfl
  have hreturned (answer) : (Event.returned vendor callback answer).isQuery = false := by
    cases callback with
    | query => cases hc
    | _ => rfl
  exact (commutes_record (hcalled _)).bind fun _ => hwork.bind fun answer =>
    (commutes_record (hreturned answer)).bind fun _ => .pure _

/-- Neither does a vendor that is handed a request, as long as handing on does not. -/
lemma commutes_serveWith
    {forward : VendorId → Client → SessionM σ δ (Client × Except ProtocolError Unit)}
    (hf : ∀ vendor client, Commutes (Session.revise ρ) (forward vendor client))
    (vendor : VendorId) (client : Client) :
    Commutes (Session.revise ρ) (env.serveWith forward vendor client) := by
  rw [Environment.serveWith]
  cases env.requestHandler? vendor with
  | none => exact .pure _
  | some handler => exact commutes_calling env vendor rfl (commutes_runWith env hf _)

/-- Nor does a request that is handed on, at any depth of nesting. -/
lemma commutes_forwardNested (depth : Nat) (vendor : VendorId) (client : Client) :
    Commutes (Session.revise ρ) (env.forwardNested depth vendor client) := by
  induction depth generalizing vendor client with
  | zero => exact .throw _
  | succ depth ih => exact commutes_serveWith env ih vendor client

/-- No program looks at what is revised. -/
lemma commutes_interpret (p : Program σ δ α) :
    Commutes (Session.revise ρ) (env.interpret p) :=
  commutes_runWith env (commutes_forwardNested env _) p

/-- No request that is handed on does. -/
lemma commutes_forward (vendor : VendorId) (client : Client) :
    Commutes (Session.revise ρ) (env.forward vendor client) :=
  commutes_serveWith env (commutes_forwardNested env _) vendor client

end Session

/-! ### Work on an exchange -/

/-- The exchange with its journal revised. -/
def Exchange.revise (ρ : Revision δ) (x : Exchange σ δ) : Exchange σ δ :=
  x.withSession (x.session.revise ρ)

/-- The exchange with older events below those of its journal. -/
abbrev Exchange.atop (older : List (Event δ)) : Exchange σ δ → Exchange σ δ :=
  Exchange.revise (.below older)

section Exchange

lemma commutes_client : Commutes (Exchange.revise ρ) (ExchangeM.client : ExchangeM σ δ Client) :=
  fun _ => rfl

lemma commutes_modifyClient (g : Client → Client) :
    Commutes (Exchange.revise ρ) (ExchangeM.modifyClient g : ExchangeM σ δ Unit) := fun _ => rfl

lemma commutes_fail (e : ProtocolError) :
    Commutes (Exchange.revise ρ) (ExchangeM.fail e : ExchangeM σ δ α) := fun _ => rfl

/-- Nothing comes after a failure. -/
lemma commutes_fail_bind {β : Type} (e : ProtocolError) (g : α → ExchangeM σ δ β) :
    Commutes (Exchange.revise ρ) (ExchangeM.fail e >>= g) := fun _ => rfl

/-- The value to blame is the client's. -/
lemma commutes_failAt (v : UInt32) (e : ProtocolError) :
    Commutes (Exchange.revise ρ) (ExchangeM.failAt v e : ExchangeM σ δ α) := fun _ => rfl

/-- A result that was computed before stays what it is. -/
lemma commutes_ofExcept (r : Except ProtocolError α) :
    Commutes (Exchange.revise ρ) (ExchangeM.ofExcept r : ExchangeM σ δ α) := by
  cases r <;> exact fun _ => rfl

/-- A field of the request is the client's. -/
lemma commutes_readWord (offset : Nat) :
    Commutes (Exchange.revise ρ) (ExchangeM.readWord offset : ExchangeM σ δ UInt32) :=
  commutes_client.bind fun _ => commutes_ofExcept _

/-- Work on the session that looks away stays so as part of the work on a request. -/
lemma commutes_onSession {work : SessionM σ δ α} (hwork : Commutes (Session.revise ρ) work) :
    Commutes (Exchange.revise ρ) (ExchangeM.onSession work) := by
  intro x
  have h : work (x.revise ρ).session = mapState (Session.revise ρ) (work x.session) :=
    hwork x.session
  rw [ExchangeM.onSession, ExchangeM.onSession, h]
  cases work x.session <;> rfl

/-- So does a vendor that is shown the client. -/
lemma commutes_onClient {work : Client → SessionM σ δ (Client × Except ProtocolError α)}
    (hwork : ∀ c, Commutes (Session.revise ρ) (work c)) :
    Commutes (Exchange.revise ρ) (ExchangeM.onClient work) :=
  commutes_client.bind fun c => (commutes_onSession (hwork c)).bind fun _ =>
    (commutes_modifyClient _).bind fun _ => commutes_ofExcept _

/-- An error is caught in both alike. -/
lemma commutes_attempt {work : ExchangeM σ δ α} (hwork : Commutes (Exchange.revise ρ) work) :
    Commutes (Exchange.revise ρ) (ExchangeM.attempt work) := by
  intro x
  rw [ExchangeM.attempt, ExchangeM.attempt, hwork x]
  rcases work x with ⟨a, y⟩ | ⟨⟨e⟩ | ⟨a⟩, y⟩ <;> rfl

lemma commutes_modifyTags (g : TagTable δ → TagTable δ) :
    Commutes (Exchange.revise ρ) (ExchangeM.modifyTags g : ExchangeM σ δ Unit) := fun _ => rfl

/-- A reply is the client's. -/
lemma commutes_sendReply (fields : List (Nat × UInt32)) :
    Commutes (Exchange.revise ρ) (ExchangeM.sendReply fields : ExchangeM σ δ Unit) := by
  refine commutes_client.bind fun c => ?_
  cases (Reply.header c).putAll? fields with
  | some r => exact commutes_modifyClient _
  | none => exact .throw _

variable (env : Environment σ δ)

/-! ### Requests that are handed on -/

/-- A request is handed on alike. -/
lemma commutes_handOn (vendor : VendorId) :
    Commutes (Exchange.revise ρ) (Forwarding.forward env vendor) :=
  commutes_onClient (commutes_forward env vendor)

/-- The owner of a tag is found alike. -/
lemma commutes_tagVendor (tag : ContextTag) :
    Commutes (Exchange.revise ρ) (Forwarding.tagVendor tag : ExchangeM σ δ VendorId) := by
  refine commutes_client.bind fun c =>
    (commutes_onSession (commutes_vendorOfTag c.id tag)).bind fun v => ?_
  cases v with
  | some vendor => exact .pure _
  | none => exact commutes_failAt _ _

/-- The owner of a resource is found alike, or the request fails alike. -/
lemma commutes_xidVendor (id : Xid) (e : ProtocolError) :
    Commutes (Exchange.revise ρ) (Forwarding.xidVendor env id e) := by
  refine (commutes_onSession (commutes_vendorOfXid env id)).bind fun v => ?_
  cases v with
  | some vendor => exact .pure _
  | none => exact commutes_failAt _ _

lemma commutes_single : Commutes (Exchange.revise ρ) (Forwarding.single env) :=
  (commutes_readWord _).bind fun _ => (commutes_tagVendor _).bind (commutes_handOn env)

lemma commutes_copyContext : Commutes (Exchange.revise ρ) (Forwarding.copyContext env) := by
  refine (commutes_readWord _).bind fun source => (commutes_readWord _).bind fun tag => ?_
  split_ifs
  · exact (commutes_tagVendor _).bind (commutes_handOn env)
  · exact (commutes_xidVendor env _ _).bind (commutes_handOn env)

lemma commutes_swapBuffers : Commutes (Exchange.revise ρ) (Forwarding.swapBuffers env) := by
  refine (commutes_readWord _).bind fun tag => (commutes_readWord _).bind fun drawable => ?_
  split_ifs
  · exact (commutes_tagVendor _).bind (commutes_handOn env)
  · exact (commutes_xidVendor env _ _).bind (commutes_handOn env)

/-- The vendors are shown the request alike, in the same order. -/
lemma commutes_broadcastTo (sent : List UInt8) (vendors : List VendorId) :
    Commutes (Exchange.revise ρ) (Forwarding.broadcastTo env sent vendors) := by
  induction vendors with
  | nil => exact .pure _
  | cons vendor rest ih =>
      exact (commutes_attempt (commutes_handOn env vendor)).discard.bind fun _ =>
        (commutes_modifyClient _).bind fun _ => ih

lemma commutes_broadcast : Commutes (Exchange.revise ρ) (Forwarding.broadcast env) :=
  commutes_client.bind fun _ => commutes_broadcastTo env _ _

section Routed

variable (r : RoutedRequest)

/-- The owner of the routing field is found alike. -/
lemma commutes_owner (field : UInt32) : Commutes (Exchange.revise ρ) (r.owner env field) := by
  rw [RoutedRequest.owner]
  cases r.route with
  | screen => exact commutes_onSession (commutes_ownership.bind fun _ => .pure _)
  | xid => exact commutes_onSession (commutes_vendorOfXid env field)
  | tag =>
      exact commutes_client.bind fun c => commutes_onSession (commutes_vendorOfTag c.id field)

/-- What a request creates is read, and refused, alike. -/
lemma commutes_newXid : Commutes (Exchange.revise ρ) (r.newXid env) := by
  rw [RoutedRequest.newXid]
  cases r.adds with
  | none => exact .pure _
  | some offset =>
      refine (commutes_readWord _).bind fun id => commutes_client.bind fun c =>
        (commutes_onSession (commutes_legalNewResource env id c)).bind fun legal => ?_
      split_ifs
      · exact .pure _
      · exact commutes_failAt _ _

/-- What a request destroys is read alike. -/
lemma commutes_oldXid :
    Commutes (Exchange.revise ρ) (r.oldXid : ExchangeM σ δ (Option Xid)) := by
  rw [RoutedRequest.oldXid]
  cases r.removes with
  | none => exact .pure _
  | some offset => exact (commutes_readWord _).bind fun _ => .pure _

/-- Forwarding a request, and going on either way. -/
lemma commutes_forwardThen (vendor : VendorId)
    {next : Except ProtocolError Unit → ExchangeM σ δ Unit}
    (hok : Commutes (Exchange.revise ρ) (next (.ok ())))
    (hfailed : ∀ e, Commutes (Exchange.revise ρ) (next (.error e))) :
    Commutes (Exchange.revise ρ)
      (ExchangeM.attempt (Forwarding.forward env vendor) >>= next) := by
  refine (commutes_attempt (commutes_handOn env vendor)).bind fun answer => ?_
  rcases answer with e | _
  · exact hfailed e
  · exact hok

lemma commutes_forget (id : Xid) :
    Commutes (Exchange.revise ρ)
      (ExchangeM.onSession (Environment.removeXid id) : ExchangeM σ δ Unit) :=
  commutes_onSession (commutes_removeXid id)

/-- A routed request is served alike. -/
lemma commutes_routed : Commutes (Exchange.revise ρ) (r.serve env) := by
  refine (commutes_readWord _).bind fun field => (commutes_newXid env r).bind fun created =>
    (commutes_owner env r field).bind fun vendor => ?_
  cases vendor with
  | none => exact commutes_failAt _ _
  | some vendor =>
      -- no step from the owner on reads what is revised
      refine (commutes_oldXid r).bind fun destroyed => ?_
      cases created with
      | none =>
          refine commutes_forwardThen env vendor ?_ fun e => commutes_fail e
          cases destroyed with
          | none => exact .pure _
          | some id => exact commutes_forget id
      | some id =>
          refine (commutes_onSession (commutes_addXid env id vendor)).bind fun added => ?_
          cases added with
          | false => exact commutes_fail_bind _ _
          | true =>
              refine commutes_forwardThen env vendor ?_ fun e =>
                (commutes_forget id).bind fun _ => commutes_fail e
              cases destroyed with
              | none => exact .pure _
              | some id => exact commutes_forget id

end Routed

/-! ### Making contexts current -/

/-- The fields of a switch are read alike. -/
lemma commutes_read (encoding : MakeCurrent.Encoding) :
    Commutes (Exchange.revise ρ)
      (MakeCurrent.read encoding : ExchangeM σ δ MakeCurrent.Switch) := by
  cases encoding with
  | oneDrawable =>
      exact (commutes_readWord _).bind fun _ => (commutes_readWord _).bind fun _ =>
        (commutes_readWord _).bind fun _ => .pure _
  | twoDrawables | vendorPrivate =>
      exact (commutes_readWord _).bind fun _ => (commutes_readWord _).bind fun _ =>
        (commutes_readWord _).bind fun _ => (commutes_readWord _).bind fun _ => .pure _

/-- The entry of the old tag is found alike. -/
lemma commutes_oldEntry (tag : ContextTag) :
    Commutes (Exchange.revise ρ)
      (MakeCurrent.oldEntry tag : ExchangeM σ δ (Option (TagInfo δ))) := by
  rw [MakeCurrent.oldEntry]
  split_ifs
  · exact .pure _
  · refine commutes_client.bind fun c => (commutes_onSession commutes_ownership).bind fun o => ?_
    cases o.lookupTag c.id tag with
    | some e => exact .pure _
    | none => exact commutes_failAt _ _

/-- The owner of the new context is found alike. -/
lemma commutes_newVendor (context : Xid) :
    Commutes (Exchange.revise ρ) (MakeCurrent.newVendor env context) := by
  rw [MakeCurrent.newVendor]
  split_ifs
  · exact .pure _
  · refine (commutes_onSession (commutes_vendorOfXid env context)).bind fun v => ?_
    cases v with
    | some vendor => exact .pure _
    | none => exact commutes_failAt _ _

/-- A vendor is asked to bind or to release alike. -/
lemma commutes_ask (vendor : VendorId) (q : MakeCurrentRequest δ) :
    Commutes (Exchange.revise ρ) (MakeCurrent.ask env vendor q) := by
  rw [MakeCurrent.ask]
  cases env.makeCurrentHandler? vendor with
  | none => exact commutes_fail _
  | some handler =>
      exact commutes_onClient fun c => commutes_calling env vendor rfl (commutes_interpret env _)

lemma commutes_release (old : TagInfo δ) :
    Commutes (Exchange.revise ρ) (MakeCurrent.release env old) := by
  rw [MakeCurrent.release]
  cases old.owner with
  | none => exact commutes_fail _
  | some vendor => exact (commutes_ask env vendor _).discard.bind fun _ => commutes_modifyTags _

/-- A tag is claimed alike, since the tables are the same. -/
lemma commutes_claimTag (vendor : VendorId) :
    Commutes (Exchange.revise ρ)
      (MakeCurrent.claimTag vendor : ExchangeM σ δ ContextTag) := by
  refine commutes_client.bind fun c => (commutes_onSession commutes_ownership).bind fun o => ?_
  cases o.allocateTag? c.id vendor with
  | some claimed => exact (commutes_onSession (commutes_setOwnership _)).bind fun _ => .pure _
  | none => exact .throw _

lemma commutes_bindTag (vendor : VendorId) (q : MakeCurrent.Switch) :
    Commutes (Exchange.revise ρ) (MakeCurrent.bind env vendor q) := by
  refine (commutes_claimTag vendor).bind fun tag =>
    (commutes_attempt (commutes_ask env vendor _)).bind fun asked => ?_
  cases asked with
  | ok data => exact (commutes_modifyTags _).bind fun _ => .pure _
  | error e => exact (commutes_modifyTags _).bind fun _ => commutes_fail e

/-- The vendors of a switch are asked alike. -/
lemma commutes_switchTo (q : MakeCurrent.Switch) (old : Option (TagInfo δ))
    (vendor : Option VendorId) :
    Commutes (Exchange.revise ρ) (MakeCurrent.switchTo env q old vendor) := by
  have hbind : Commutes (Exchange.revise ρ)
      (vendor.elim (pure 0) fun v => MakeCurrent.bind env v q) := by
    cases vendor with
    | none => exact .pure _
    | some v => exact commutes_bindTag env v q
  cases old with
  | none => cases vendor <;> exact hbind
  | some e => cases vendor <;> exact (commutes_release env e).bind fun _ => hbind

/-- The old tag answers in both, or in neither. -/
lemma commutes_newTag (q : MakeCurrent.Switch) (old : Option (TagInfo δ))
    (vendor : Option VendorId) :
    Commutes (Exchange.revise ρ) (MakeCurrent.newTag env q old vendor) := by
  have hswitch : Commutes (Exchange.revise ρ) (MakeCurrent.switchTo env q old vendor) :=
    commutes_switchTo env q old vendor
  unfold MakeCurrent.newTag
  split
  · split_ifs
    · exact .pure _
    · exact hswitch
  · exact hswitch

lemma commutes_makeCurrent (encoding : MakeCurrent.Encoding) :
    Commutes (Exchange.revise ρ) (MakeCurrent.serve env encoding) :=
  (commutes_read encoding).bind fun q => (commutes_oldEntry _).bind fun old =>
    (commutes_newVendor env _).bind fun vendor => (commutes_newTag env q old vendor).bind fun _ =>
      commutes_sendReply _

/-! ### Every target -/

/-- Whatever serves a request does the same whatever the journal holds already. -/
lemma commutes_serve (target : Target σ δ) :
    Commutes (Exchange.revise ρ) (target.serve env) := by
  cases target with
  | version => exact commutes_sendReply _
  | makeCurrent encoding => exact commutes_makeCurrent env encoding
  | copyContext => exact commutes_copyContext env
  | swapBuffers => exact commutes_swapBuffers env
  | clientInfo => exact commutes_broadcast env
  | single => exact commutes_single env
  | routed r => exact commutes_routed env r
  | procedure p =>
      exact commutes_onClient fun c =>
        commutes_calling env p.vendor rfl (commutes_interpret env (p.run c))
  | unclaimed => exact commutes_fail _

end Exchange

/-! ### What is entered -/

/-- Events were entered into a journal, and no queries. -/
def Entered (older journal : List (Event δ)) : Prop :=
  ∃ new, journal = new ++ older ∧ ∀ e ∈ new, e.isQuery = false

/-- The queries in the journal are the ones that were there. -/
lemma Entered.queries {older journal : List (Event δ)} (h : Entered older journal) :
    journal.reverse.filter Event.isQuery = older.reverse.filter Event.isQuery := by
  obtain ⟨new, rfl, hnew⟩ := h
  have hnone : new.reverse.filter Event.isQuery = [] :=
    List.filter_eq_nil_iff.mpr fun e he => by simp [hnew e (List.mem_reverse.mp he)]
  rw [List.reverse_append, List.filter_append, hnone, List.append_nil]

/-- Work that commutes with every revision only enters events, and no queries. -/
lemma Commutes.entered {ε S : Type} (revise : Revision δ → S → S) (journal : S → List (Event δ))
    (hjournal : ∀ ρ s, journal (revise ρ s) = ρ.apply (journal s)) {work : EStateM ε S α}
    (h : ∀ ρ, Commutes (revise ρ) work) {blank : S}
    (hblank : revise .withoutQueries blank = blank) (older : List (Event δ)) :
    Ends work (revise (.below older) blank) (fun _ t => Entered older (journal t))
      fun _ t => Entered older (journal t) := by
  have hnone {t : S} (ht : revise .withoutQueries t = t) : ∀ e ∈ journal t, e.isQuery = false := by
    have hfilter : (journal t).filter (fun e => !e.isQuery) = journal t :=
      (hjournal .withoutQueries t).symm.trans (congrArg journal ht)
    exact fun e he => by simpa using List.filter_eq_self.mp hfilter e he
  have hbelow : work (revise (.below older) blank) =
      mapState (revise (.below older)) (work blank) := h _ blank
  have hwithout : work (revise .withoutQueries blank) =
      mapState (revise .withoutQueries) (work blank) := h _ blank
  rw [hblank] at hwithout
  rw [Ends, hbelow]
  rcases hwork : work blank with ⟨a, t⟩ | ⟨e, t⟩ <;> rw [hwork] at hwithout
  · exact ⟨journal t, hjournal _ t, hnone (EStateM.Result.ok.inj hwithout).2.symm⟩
  · exact ⟨journal t, hjournal _ t, hnone (EStateM.Result.error.inj hwithout).2.symm⟩

/-- Work on a session that is oblivious to the past only enters events, and no queries. -/
lemma session_entered {work : SessionM σ δ α} (h : ∀ ρ, Commutes (Session.revise ρ) work)
    (s : Session σ δ) :
    Ends work s (fun _ t => Entered s.journal t.journal) fun _ t => Entered s.journal t.journal :=
  have hblank : ({ s with journal := [] } : Session σ δ).revise .withoutQueries =
    { s with journal := [] } := rfl
  Commutes.entered Session.revise Session.journal (fun _ _ => rfl) h hblank s.journal

/-- Work on an exchange that is oblivious to the past only enters events, and no queries. -/
lemma exchange_entered {work : ExchangeM σ δ α} (h : ∀ ρ, Commutes (Exchange.revise ρ) work)
    (x : Exchange σ δ) :
    Ends work x (fun _ y => Entered x.session.journal y.session.journal)
      fun _ y => Entered x.session.journal y.session.journal :=
  have hblank : (x.withSession { x.session with journal := [] }).revise .withoutQueries =
    x.withSession { x.session with journal := [] } := rfl
  Commutes.entered Exchange.revise (fun y => y.session.journal) (fun _ _ => rfl) h hblank
    x.session.journal

end VendorDispatch
