import VendorDispatch.Proofs.ActiveVendors
import VendorDispatch.Proofs.Caching
import VendorDispatch.Proofs.LookUp

/-!
Which vendor serves a request that is handed on to one vendor, and what the router does about it.

* `Routing`, `Client.routing?`: the field by which a request names its vendor, the answer if nobody
  owns that field, and the resource that the request creates or destroys.
* `Target.Reads`: the targets that hand on such requests, with the fields that they read.
* `Exchange.GoesOn`: work that begins by asking the window system questions.
* `Routing.serve`: the one service that every such target comes to (`Target.Reads.goesOn`), and
  `handOver_of_recordable`, `forward_of_some`: what it does.
* `Server.Declines`, `Server.Delivers`: the two ways in which such a request can end. A vendor that
  hands nothing on is the only one that is called (`Delivers.calls`).
* `routed_request_reaches_owner`: the request reaches the owner of its field, or nobody.
-/

namespace VendorDispatch

variable {σ δ α β : Type}

/-! ### The field that names the vendor -/

/-- How a request names the one vendor that serves it. -/
structure Routing where
  /-- What the routing field holds. -/
  route : Route
  /-- The routing field. -/
  field : UInt32
  /-- The answer when nobody owns the routing field. -/
  failsWith : ProtocolError
  /-- The resource that the request creates. -/
  created : Option Xid := none
  /-- The resource that the request destroys. -/
  destroyed : Option Xid := none
  deriving DecidableEq, Repr

namespace Routing

/-- A request that names a tag. -/
def byTag (tag : ContextTag) : Routing :=
  { route := .tag, field := tag, failsWith := .extension .badContextTag }

/-- A request that names a tag, or a resource when the tag is zero. -/
def byTagOr (tag : ContextTag) (id : Xid) (failsWith : ProtocolError) : Routing :=
  if tag ≠ 0 then byTag tag else { route := .xid, field := id, failsWith }

end Routing

/-- The 32-bit number at a byte offset of the current request, if the request is long enough. -/
def Client.word? (c : Client) (offset : Nat) : Option UInt32 := (c.readWord offset).toOption

/-- How a request with the fields of a routed request names its vendor. -/
def RoutedRequest.routing? (r : RoutedRequest) (c : Client) : Option Routing := do
  let field ← c.word? r.offset
  let created ← r.adds.mapM c.word?
  let destroyed ← r.removes.mapM c.word?
  return { route := r.route, field, failsWith := r.failsWith, created, destroyed }

/-- How the current request names the one vendor that serves it, if it is such a request and has
all its fields. -/
def Client.routing? (c : Client) : Option Routing := do
  let minor ← c.minorOpcode.toOption
  if minor = Opcode.copyContext then
    let source ← c.word? 4
    let tag ← c.word? 16
    return .byTagOr tag source (.extension .badContext)
  else if minor = Opcode.swapBuffers then
    let tag ← c.word? 4
    let drawable ← c.word? 8
    return .byTagOr tag drawable (.extension .badDrawable)
  else if Opcode.firstSingle ≤ minor then
    return .byTag (← c.word? 4)
  else
    (← RoutedRequest.find? minor).routing? c

/-- The owner of a routing field of a client. -/
def Route.owner (env : Environment σ δ) (s : Session σ δ) (client : ClientId) (field : UInt32) :
    Route → Option VendorId
  | screen => s.ownership.screenVendor field.toNat
  | xid => env.ownerOfXid s field
  | tag => (s.ownership.lookupTag client field).bind TagInfo.owner

/-- The target hands on the client's current request by these fields. -/
inductive Target.Reads (c : Client) : Target σ δ → Routing → Prop
  | copyContext {source tag : UInt32} : c.readWord 4 = .ok source → c.readWord 16 = .ok tag →
    Reads c .copyContext (.byTagOr tag source (.extension .badContext))
  | swapBuffers {tag drawable : UInt32} : c.readWord 4 = .ok tag → c.readWord 8 = .ok drawable →
    Reads c .swapBuffers (.byTagOr tag drawable (.extension .badDrawable))
  | single {tag : UInt32} : c.readWord 4 = .ok tag → Reads c .single (.byTag tag)
  | routed {r : RoutedRequest} {q : Routing} : r.routing? c = some q → Reads c (.routed r) q

lemma Client.word?_eq_some_iff {c : Client} {offset : Nat} {w : UInt32} :
    c.word? offset = some w ↔ c.readWord offset = .ok w :=
  toOption_eq_some_iff

/-- A request that is handed on to one vendor is resolved without asking anybody. -/
lemma Dispatcher.Sound.resolve_of_routing? {env : Environment σ δ} {d : Dispatcher σ δ}
    {registry : Registry σ δ} (hd : d.Sound registry) {c : Client} {q : Routing}
    (h : c.routing? = some q) (s : Session σ δ) :
    ∃ target : Target σ δ, target.Reads c q ∧ d.resolve env c s = .ok (.ok target, d) s := by
  obtain ⟨minor, hminor, h⟩ := Option.bind_eq_some_iff.mp h
  have hm := toOption_eq_some_iff.mp hminor
  split_ifs at h with hcopy hswap hsingle
  · obtain ⟨source, hsource, h⟩ := Option.bind_eq_some_iff.mp h
    obtain ⟨tag, htag, h⟩ := Option.bind_eq_some_iff.mp h
    cases h
    subst hcopy
    exact ⟨.copyContext, .copyContext (Client.word?_eq_some_iff.mp hsource)
      (Client.word?_eq_some_iff.mp htag),
      hd.resolve_of_preset hm (by decide) (by simp [preset, builtins]) s⟩
  · obtain ⟨tag, htag, h⟩ := Option.bind_eq_some_iff.mp h
    obtain ⟨drawable, hdrawable, h⟩ := Option.bind_eq_some_iff.mp h
    cases h
    subst hswap
    exact ⟨.swapBuffers, .swapBuffers (Client.word?_eq_some_iff.mp htag)
      (Client.word?_eq_some_iff.mp hdrawable),
      hd.resolve_of_preset hm (by decide) (by simp [preset, builtins]) s⟩
  · obtain ⟨tag, htag, h⟩ := Option.bind_eq_some_iff.mp h
    cases h
    exact ⟨.single, .single (Client.word?_eq_some_iff.mp htag), resolve_of_single hm hsingle s⟩
  · obtain ⟨r, hr, h⟩ := Option.bind_eq_some_iff.mp h
    exact ⟨.routed r, .routed h, hd.resolve_of_find? hm hsingle hr s⟩

/-! ### Work that begins with questions -/

/-- The work asks the window system questions, and then goes on as `rest`. -/
def Exchange.GoesOn (x : Exchange σ δ) (work rest : ExchangeM σ δ α) : Prop :=
  ∃ y, x.Agrees y ∧ work x = rest y

namespace Exchange.GoesOn

variable {x : Exchange σ δ} {work rest : ExchangeM σ δ α} {f : α → ExchangeM σ δ β} {a : α}

lemma refl (x : Exchange σ δ) (work : ExchangeM σ δ α) : x.GoesOn work work :=
  ⟨x, .refl x, rfl⟩

/-- The work asks questions and finds a value. -/
lemma of_ends (h : Ends work x (fun b y => x.Agrees y ∧ b = a) fun _ _ => False) :
    x.GoesOn work (pure a) := by
  obtain ⟨_, y, hwork, hy, rfl⟩ := h.exists_ok
  exact ⟨y, hy, hwork⟩

/-- What comes after a value was found. -/
lemma found (h : x.GoesOn work (pure a)) {rest : ExchangeM σ δ β}
    (hf : ∀ y, x.Agrees y → y.GoesOn (f a) rest) : x.GoesOn (work >>= f) rest := by
  obtain ⟨y, hy, hwork⟩ := h
  obtain ⟨z, hz, hrest⟩ := hf y hy
  exact ⟨z, hy.trans hz, (bind_of_ok hwork).trans hrest⟩

/-- What goes on the same way is followed by the same. -/
lemma bind (h : x.GoesOn work rest) : x.GoesOn (work >>= f) (rest >>= f) := by
  obtain ⟨y, hy, hwork⟩ := h
  refine ⟨y, hy, ?_⟩
  simp only [Bind.bind, EStateM.bind, hwork]

end Exchange.GoesOn

section LookUps

variable {env : Environment σ δ} {x : Exchange σ δ}

/-- Questions change no owners. -/
lemma owner_of_agrees {y : Exchange σ δ} (h : x.Agrees y) (route : Route) (field : UInt32) :
    route.owner env y.session y.client.id field = route.owner env x.session x.client.id field := by
  cases route with
  | screen => rw [Route.owner, Route.owner, h.ownership]
  | xid =>
      rw [Route.owner, Route.owner, Environment.ownerOfXid, Environment.ownerOfXid, h.ownership,
        h.world]
  | tag => rw [Route.owner, Route.owner, h.ownership, h.client]

/-- A word that is there is read. -/
lemma goesOn_readWord {offset : Nat} {w : UInt32} (h : x.client.readWord offset = .ok w) :
    x.GoesOn (ExchangeM.readWord offset) (pure w) := by
  refine .of_ends (ends_readWord.mpr ?_)
  rw [h]
  exact ⟨.refl x, rfl⟩

lemma goesOn_client : x.GoesOn ExchangeM.client (pure x.client) :=
  .of_ends ⟨.refl x, rfl⟩

/-- Reading off who owns what. -/
lemma goesOn_onOwnership (f : Ownership δ → α) :
    x.GoesOn (ExchangeM.onSession (f <$> SessionM.ownership)) (pure (f x.session.ownership)) :=
  .of_ends ⟨.refl x, rfl⟩

lemma goesOn_vendorOfXid (id : Xid) :
    x.GoesOn (ExchangeM.onSession (env.vendorOfXid id)) (pure (env.ownerOfXid x.session id)) :=
  .of_ends (ends_onSession.mpr (ends_vendorOfXid.mpr ⟨x.agrees_lookedUp id, rfl⟩))

lemma goesOn_legalNewResource (id : Xid) (c : Client) :
    x.GoesOn (ExchangeM.onSession (env.legalNewResource id c))
      (pure (env.host.legalNewResource x.session.world id c)) :=
  .of_ends ⟨x.agrees_enter (e := .resourceAsked id c.id) trivial, rfl⟩

/-- The owner of a routing field, or the error about the field if nobody owns it. -/
def orFail (field : UInt32) (e : ProtocolError) : Option VendorId → ExchangeM σ δ VendorId
  | some v => pure v
  | none => ExchangeM.failAt field e

/-- The owner of a tag is found, or the request fails. -/
lemma goesOn_tagVendor (tag : ContextTag) :
    x.GoesOn (Forwarding.tagVendor tag) (orFail tag (.extension .badContextTag)
      (Route.tag.owner env x.session x.client.id tag)) := by
  refine goesOn_client.found fun y hy => ?_
  refine (goesOn_onOwnership fun o => (o.lookupTag x.client.id tag).bind TagInfo.owner).found
    fun z _ => ?_
  rw [hy.ownership]
  exact .refl z _

/-- The owner of a resource is found, or the request fails. -/
lemma goesOn_xidVendor (id : Xid) (e : ProtocolError) :
    x.GoesOn (Forwarding.xidVendor env id e) (orFail id e
      (Route.xid.owner env x.session x.client.id id)) :=
  (goesOn_vendorOfXid id).found fun y _ => .refl y _

/-- The owner is the one that the route of the request tells. -/
lemma goesOn_owner (r : RoutedRequest) (field : UInt32) :
    x.GoesOn (r.owner env field)
      (pure (r.route.owner env x.session x.client.id field)) := by
  rw [RoutedRequest.owner]
  cases r.route with
  | screen => exact goesOn_onOwnership fun o => o.screenVendor field.toNat
  | xid => exact goesOn_vendorOfXid field
  | tag =>
      refine goesOn_client.found fun y hy => ?_
      rw [Route.owner, ← hy.ownership]
      exact goesOn_onOwnership fun o => (o.lookupTag x.client.id field).bind TagInfo.owner

/-- The resource that a request creates, or the error about it if it is not legal. -/
def orRefuse (legal : Xid → Bool) : Option Xid → ExchangeM σ δ (Option Xid)
  | none => pure none
  | some id => if legal id then pure (some id) else ExchangeM.failAt id .badIDChoice

lemma orRefuse_of_legal {legal : Xid → Bool} {created : Option Xid}
    (h : ∀ id ∈ created, legal id = true) :
    (orRefuse legal created : ExchangeM σ δ (Option Xid)) = pure created := by
  cases created with
  | none => rfl
  | some id => exact if_pos (h id rfl)

/-- What is created is read, and may be refused. -/
lemma goesOn_newXid {r : RoutedRequest} {created : Option Xid}
    (h : r.adds.mapM x.client.word? = some created) :
    x.GoesOn (r.newXid env)
      (orRefuse (fun id => env.host.legalNewResource x.session.world id x.client) created) := by
  rw [RoutedRequest.newXid]
  split
  · next hadds =>
    rw [hadds] at h
    cases h
    exact .refl x _
  · next offset hadds =>
    rw [hadds] at h
    obtain ⟨id, hid, rfl⟩ := Option.map_eq_some_iff.mp h
    refine (goesOn_readWord (Client.word?_eq_some_iff.mp hid)).found fun y hy =>
      goesOn_client.found fun z hz => (goesOn_legalNewResource id y.client).found fun w _ => ?_
    rw [(hy.trans hz).world, hy.client]
    exact .refl w _

lemma goesOn_oldXid {r : RoutedRequest} {destroyed : Option Xid}
    (h : r.removes.mapM x.client.word? = some destroyed) :
    x.GoesOn r.oldXid (pure destroyed) := by
  rw [RoutedRequest.oldXid]
  split
  · next hremoves =>
    rw [hremoves] at h
    cases h
    exact .refl x _
  · next offset hremoves =>
    rw [hremoves] at h
    obtain ⟨id, hid, rfl⟩ := Option.map_eq_some_iff.mp h
    exact (goesOn_readWord (Client.word?_eq_some_iff.mp hid)).found fun y _ => .refl y _

end LookUps

/-! ### Handing over -/

namespace Routing

/-- Hands the request to the vendor, and forgets what is gone when the vendor has answered. -/
def deliver (q : Routing) (env : Environment σ δ) (v : VendorId) : ExchangeM σ δ Unit := do
  match ← ExchangeM.attempt (Forwarding.forward env v) with
  | .ok () =>
    if let some id := q.destroyed then
      ExchangeM.onSession (Environment.removeXid id)
  | .error e =>
    if let some id := q.created then
      ExchangeM.onSession (Environment.removeXid id)
    ExchangeM.fail e

/-- What is left to do for a request once its owner is known. -/
def handOver (q : Routing) (env : Environment σ δ) (v : VendorId) : ExchangeM σ δ Unit := do
  if let some id := q.created then
    unless ← ExchangeM.onSession (env.addXid id v) do
      ExchangeM.fail .badAlloc
  q.deliver env v

/-- The service of a request, once the window system has been asked whether the new resource is
legal and who owns the routing field. -/
def serve (q : Routing) (env : Environment σ δ) (legal : Xid → Bool) (owner : Option VendorId) :
    ExchangeM σ δ Unit := do
  let _ ← orRefuse legal q.created
  q.handOver env (← orFail q.field q.failsWith owner)

variable {env : Environment σ δ}

/-- A request that creates and destroys nothing is handed on. -/
lemma handOver_of_none {q : Routing} (hc : q.created = none) (hd : q.destroyed = none) :
    q.handOver env = Forwarding.forward env := by
  funext v x
  rw [handOver, hc]
  simp only [deliver, hc, hd, bind, EStateM.bind, ExchangeM.attempt]
  rcases Forwarding.forward env v x with ⟨_, y⟩ | ⟨_ | _, y⟩ <;> rfl

end Routing

/-- A routed request comes to the service of its fields. -/
lemma RoutedRequest.goesOn {env : Environment σ δ} {r : RoutedRequest} {x : Exchange σ δ}
    {q : Routing} (hq : r.routing? x.client = some q) :
    x.GoesOn (r.serve env)
      (q.serve env (fun id => env.host.legalNewResource x.session.world id x.client)
        (q.route.owner env x.session x.client.id q.field)) := by
  obtain ⟨field, hfield, hq⟩ := Option.bind_eq_some_iff.mp hq
  obtain ⟨created, hcreated, hq⟩ := Option.bind_eq_some_iff.mp hq
  obtain ⟨destroyed, hdestroyed, hq⟩ := Option.bind_eq_some_iff.mp hq
  cases hq
  refine (goesOn_readWord (Client.word?_eq_some_iff.mp hfield)).found fun y hy => ?_
  rw [← owner_of_agrees hy]
  rw [← hy.client] at hcreated hdestroyed
  have hnew : y.GoesOn (r.newXid env) _ := goesOn_newXid hcreated
  rw [hy.world, hy.client] at hnew
  -- the fields are all there; the first thing that can go wrong is what is created
  by_cases hlegal : ∀ id ∈ created, env.host.legalNewResource x.session.world id x.client = true
  · rw [orRefuse_of_legal hlegal] at hnew
    rw [Routing.serve, orRefuse_of_legal hlegal]
    refine hnew.found fun z hz => (goesOn_owner r field).found fun w hw => ?_
    rw [owner_of_agrees hz]
    cases r.route.owner env y.session y.client.id field with
    | none => exact .refl w _
    | some v =>
        rw [← (hz.trans hw).client] at hdestroyed
        exact (goesOn_oldXid hdestroyed).found fun u _ => .refl u _
  · obtain ⟨id, hid, hrefused⟩ : ∃ id ∈ created,
        ¬ env.host.legalNewResource x.session.world id x.client = true := by simpa using hlegal
    obtain rfl : created = some id := hid
    rw [Routing.serve, orRefuse, if_neg hrefused]
    rw [orRefuse, if_neg hrefused] at hnew
    exact hnew.bind

section Target

variable {env : Environment σ δ} {x : Exchange σ δ} {legal : Xid → Bool}

/-- A request that creates and destroys nothing is handed to its owner, once that is found. -/
lemma Exchange.GoesOn.handOn {q : Routing} (hc : q.created = none) (hd : q.destroyed = none)
    {work : ExchangeM σ δ VendorId} {owner : Option VendorId}
    (h : x.GoesOn work (orFail q.field q.failsWith owner)) :
    x.GoesOn (work >>= Forwarding.forward env) (q.serve env legal owner) := by
  rw [Routing.serve, hc, Routing.handOver_of_none hc hd]
  exact h.bind

lemma goesOn_byTag (tag : ContextTag) :
    x.GoesOn (Forwarding.tagVendor tag >>= Forwarding.forward env)
      ((Routing.byTag tag).serve env legal (Route.tag.owner env x.session x.client.id tag)) :=
  (goesOn_tagVendor tag).handOn rfl rfl

/-- A request by a tag or a resource goes to the owner of the tag, unless the tag is zero. -/
lemma goesOn_byTagOr (tag : ContextTag) (id : Xid) (e : ProtocolError) :
    x.GoesOn
      (if tag ≠ 0 then Forwarding.tagVendor tag >>= Forwarding.forward env
        else Forwarding.xidVendor env id e >>= Forwarding.forward env)
      ((Routing.byTagOr tag id e).serve env legal
        ((Routing.byTagOr tag id e).route.owner env x.session x.client.id
          (Routing.byTagOr tag id e).field)) := by
  rw [Routing.byTagOr]
  split_ifs with htag
  · exact goesOn_byTag tag
  · exact (goesOn_xidVendor id e).handOn rfl rfl

/-- Every target that hands on a request by some fields comes to the service of these fields. -/
lemma Target.Reads.goesOn {target : Target σ δ} {q : Routing} (h : target.Reads x.client q) :
    x.GoesOn (target.serve env)
      (q.serve env (fun id => env.host.legalNewResource x.session.world id x.client)
        (q.route.owner env x.session x.client.id q.field)) := by
  cases h with
  | @copyContext source tag hsource htag =>
      refine (goesOn_readWord hsource).found fun y hy => ?_
      rw [← hy.client] at htag
      refine (goesOn_readWord htag).found fun z hz => ?_
      rw [← owner_of_agrees (hy.trans hz)]
      exact goesOn_byTagOr tag source _
  | @swapBuffers tag drawable htag hdrawable =>
      refine (goesOn_readWord htag).found fun y hy => ?_
      rw [← hy.client] at hdrawable
      refine (goesOn_readWord hdrawable).found fun z hz => ?_
      rw [← owner_of_agrees (hy.trans hz)]
      exact goesOn_byTagOr tag drawable _
  | @single tag htag =>
      refine (goesOn_readWord htag).found fun y hy => ?_
      rw [← owner_of_agrees hy]
      exact goesOn_byTag tag
  | routed hq => exact RoutedRequest.goesOn hq

end Target

/-! ### What handing over does -/

namespace Routing

/-- The resource that the request creates can be recorded as the vendor's. -/
def Recordable (q : Routing) (registry : Registry σ δ) (o : Ownership δ) (v : VendorId) : Prop :=
  ∀ id ∈ q.created, id ≠ 0 ∧ o.xids.get? id = none ∧ registry.contains v = true

/-- The owners once the resource that the request creates is recorded as the vendor's. -/
def record (q : Routing) (v : VendorId) (o : Ownership δ) : Ownership δ :=
  q.created.elim o fun id => (o.addXid id v).2

/-- The owners once the vendor has answered: a resource that the request destroys is forgotten if
the vendor succeeded, and one that it creates if the vendor failed. -/
def settle (q : Routing) (answer : Except ProtocolError Unit) (o : Ownership δ) : Ownership δ :=
  match answer with
  | .ok () => q.destroyed.elim o o.removeXid
  | .error _ => q.created.elim o o.removeXid

end Routing

section HandOver

variable {env : Environment σ δ} {q : Routing} {v : VendorId} {x : Exchange σ δ}

/-- The exchange with the owners settled. -/
def Exchange.settled (x : Exchange σ δ) (q : Routing) (answer : Except ProtocolError Unit) :
    Exchange σ δ :=
  x.withSession (x.session.withOwnership (q.settle answer x.session.ownership))

/-- The exchange with the new resource recorded. -/
def Exchange.recorded (x : Exchange σ δ) (q : Routing) (v : VendorId) : Exchange σ δ :=
  x.withSession (x.session.withOwnership (q.record v x.session.ownership))

/-- What cannot be recorded is refused before the owner is called. -/
lemma handOver_of_not_recordable (h : ¬ q.Recordable env.registry x.session.ownership v) :
    q.handOver env v x = .error (.error .badAlloc) x := by
  obtain ⟨id, hid, hnot⟩ : ∃ id ∈ q.created, ¬ (id ≠ 0 ∧
      x.session.ownership.xids.get? id = none ∧ env.registry.contains v = true) := by
    simpa only [Routing.Recordable, not_forall, exists_prop] using h
  have hadd : env.addXid id v x.session = .ok false x.session := by
    refine addXid_of_not ?_
    rintro ⟨hv, ha⟩
    obtain ⟨h0, hnone⟩ := Ownership.addXid_fst_iff.mp ha
    exact hnot ⟨h0, hnone, hv⟩
  rw [Routing.handOver, hid]
  dsimp only
  rw [bind_of_ok (onSession_of_ok hadd)]
  rfl

/-- What can be recorded is recorded, and the owner is called. -/
lemma handOver_of_recordable (h : q.Recordable env.registry x.session.ownership v) :
    q.handOver env v x = q.deliver env v (x.recorded q v) := by
  rw [Routing.handOver, Exchange.recorded, Routing.record]
  cases hc : q.created with
  | none => rfl
  | some id =>
      obtain ⟨h0, hnone, hv⟩ := h id hc
      have hadd := addXid_of_fst hv (Ownership.addXid_fst_iff.mpr ⟨h0, hnone⟩)
      dsimp only
      rw [bind_of_ok (onSession_of_ok hadd)]
      rfl

/-- After the call, what was destroyed or could not be created is forgotten. -/
lemma deliver_eq (x : Exchange σ δ) :
    q.deliver env v x =
      match Forwarding.forward env v x with
      | .ok () y => .ok () (y.settled q (.ok ()))
      | .error (.error e) y => .error (.error e) (y.settled q (.error e))
      | .error (.abort a) y => .error (.abort a) y := by
  simp only [Routing.deliver, bind, EStateM.bind, ExchangeM.attempt, Exchange.settled,
    Routing.settle]
  rcases Forwarding.forward env v x with ⟨_, y⟩ | ⟨_ | _, y⟩
  · cases q.destroyed <;> rfl
  · cases q.created <;> rfl
  · rfl

lemma settled_recorded {registry : Registry σ δ} (h : q.Recordable registry x.session.ownership v)
    (e : ProtocolError) : (x.recorded q v).settled q (.error e) = x := by
  rw [Exchange.settled, Exchange.recorded, Routing.settle, Routing.record]
  cases hc : q.created with
  | none => rfl
  | some id =>
      obtain ⟨h0, hnone, -⟩ := h id hc
      have hback := Ownership.removeXid_addXid (Ownership.addXid_fst_iff.mpr ⟨h0, hnone⟩ :
        (x.session.ownership.addXid id v).1 = true)
      simp only [Option.elim, Exchange.withSession, Session.withOwnership, hback]

/-- An initialized vendor can be asked to serve requests. -/
lemma Environment.exists_requestHandler? (h : env.registry.Orderly)
    (hv : env.registry.isInitialized v = true) :
    ∃ handler, env.requestHandler? v = some handler := by
  obtain ⟨w, hw, hi⟩ := Registry.isInitialized_iff.mp hv
  obtain ⟨-, hhandler, -⟩ := VendorInterface.isComplete_iff.mp (h.complete v w hw hi)
  rw [requestHandler?, hw, Option.filter_some, if_pos hi, Option.bind_some]
  exact Option.isSome_iff_exists.mp hhandler

/-- A vendor without a handler answers nothing. -/
lemma forward_of_none (h : env.requestHandler? v = none) :
    Forwarding.forward env v x = .error (.error .badImplementation) x := by
  have hserve : env.forward v x.client x.session =
      .ok (x.client, .error .badImplementation) x.session := by
    rw [Environment.forward, Environment.serveWith, h]
    rfl
  change (ExchangeM.onSession (env.forward v x.client) >>= _) x = _
  rw [bind_of_ok (onSession_of_ok hserve)]
  rfl

lemma forward_of_some {handler : RequestHandler σ δ} (h : env.requestHandler? v = some handler) :
    Forwarding.forward env v x =
      match env.interpret (handler x.client)
        (x.session.enter (.called v true (.request x.client))) with
      | .ok (d, .ok ()) t => .ok () ⟨d, t.enter (.returned v (.request x.client) (d, .ok ()))⟩
      | .ok (d, .error e) t =>
        .error (.error e) ⟨d, t.enter (.returned v (.request x.client) (d, .error e))⟩
      | .error a t => .error (.abort a) (x.withSession t) := by
  have hv := (Environment.isInitialized_of_requestHandler? h).1
  have hserve : env.forward v x.client x.session =
      match env.interpret (handler x.client)
        (x.session.enter (.called v true (.request x.client))) with
      | .ok r t => .ok r (t.enter (.returned v (.request x.client) r))
      | .error a t => .error a t := by
    rw [Environment.forward, Environment.serveWith, h, ← hv]
    change (env.interpret (handler x.client) >>= _)
      (x.session.enter (.called v (env.registry.isInitialized v) (.request x.client))) = _
    simp only [bind, EStateM.bind]
    cases env.interpret (handler x.client)
      (x.session.enter (.called v (env.registry.isInitialized v) (.request x.client))) <;> rfl
  change (ExchangeM.onSession (env.forward v x.client) >>= _) x = _
  simp only [bind, EStateM.bind, ExchangeM.onSession, hserve]
  rcases env.interpret (handler x.client)
    (x.session.enter (.called v true (.request x.client))) with ⟨⟨d, _ | _⟩, t⟩ | ⟨a, t⟩ <;> rfl

end HandOver

/-! ### Who is called -/

/-- The call that an event is, if it is one. -/
def Event.call? : Event δ → Option (VendorId × Callback δ)
  | .called v _ callback => some (v, callback)
  | _ => none

lemma Event.IsQuestion.call? {e : Event δ} (h : e.IsQuestion) : e.call? = none := by
  cases e <;> first | rfl | exact h.elim

/-- The calls of vendors so far, the latest first. -/
def Session.calls (s : Session σ δ) : List (VendorId × Callback δ) :=
  s.journal.filterMap Event.call?

/-- Whatever the program is told, it hands no request on. -/
def Program.HandsOnNothing : Program σ δ α → Prop
  | .done _ => True
  | .readWorld next => ∀ w, (next w).HandsOnNothing
  | .writeWorld _ next => next.HandsOnNothing
  | .note _ next => next.HandsOnNothing
  | .call _ next => ∀ answer, (next answer).HandsOnNothing
  | .forward .. => False
  | .panic => True

section Calls

variable {env : Environment σ δ} {calls : List (VendorId × Callback δ)}

lemma Session.calls_enter (s : Session σ δ) {e : Event δ} (he : e.call? = none) :
    (s.enter e).calls = s.calls :=
  List.filterMap_cons_none he

lemma setScreenVendor_journal {P : List (Event δ) → Prop} (screen : Nat) (v : VendorId) :
    Keeps (fun s => P s.journal) (env.setScreenVendor screen v) := by
  intro s hs
  rw [Environment.setScreenVendor]
  split_ifs
  · exact hs
  · exact hs
  · rw [ends_bind, ends_world]
    split_ifs
    · exact hs
    · rw [ends_bind, ends_ownership]
      cases s.ownership.setScreenVendor? screen v <;> exact hs

/-- What is true of the journal stays true while an export call is answered, if it stays true when
the window system is asked a question. -/
lemma perform_journal {P : List (Event δ) → Prop}
    (hP : ∀ e journal, e.IsQuestion → P journal → P (e :: journal)) (request : ExportCall δ) :
    Keeps (fun s => P s.journal) (env.perform request) := by
  intro s hs
  cases request with
  | setScreenVendor screen v => exact setScreenVendor_journal screen v s hs
  | addXid id v => exact ends_addXid (fun _ _ => hs) hs
  | xidVendor id =>
      refine ends_vendorOfXid.mpr ?_
      rw [Session.lookedUp]
      split
      · exact hs
      · exact hP _ _ trivial hs
  | tagData c tag v => exact ends_tagData.mpr hs
  | lookupDrawable | legalNewResource => exact hP _ _ trivial hs
  | screenVendor | removeXid | tagVendor | setTagData | errorBase | screenCount | isExiting =>
      exact hs

/-- An export call calls nobody. -/
lemma perform_calls (request : ExportCall δ) :
    Keeps (fun s => s.calls = calls) (env.perform request) :=
  perform_journal (P := fun journal => journal.filterMap Event.call? = calls)
    (fun _ _ he h => (List.filterMap_cons_none he.call?).trans h) request

/-- A program that hands no request on calls nobody. -/
lemma runWith_calls
    {forward : VendorId → Client → SessionM σ δ (Client × Except ProtocolError Unit)}
    {p : Program σ δ α} (hp : p.HandsOnNothing) :
    Keeps (fun s => s.calls = calls) (env.runWith forward p) := by
  induction p with
  | done a => exact .pure a
  | readWorld next ih => exact fun s hs => ends_bind.mpr (ih s.world (hp s.world) s hs)
  | writeWorld w next ih => exact fun s hs => ends_bind.mpr (ih hp _ hs)
  | note n next ih =>
      exact fun s hs => ends_bind.mpr (ih hp _ ((s.calls_enter rfl).trans hs))
  | call request next ih =>
      refine (perform_calls request).bind fun answer s hs => ends_bind.mpr ?_
      exact ih answer (hp answer) _ ((s.calls_enter rfl).trans hs)
  | forward v c next ih => exact hp.elim
  | panic => exact .throw _

end Calls

/-! ### What comes of a request -/

namespace Server

/-- The request is answered by an error about a value. The window system may have been asked
questions; nobody is called, and nothing changes. -/
def Declines (s : Server σ δ) (c : Client) (value : UInt32) (e : ProtocolError) : Prop :=
  ∃ asked, (∀ ev ∈ asked, ev.IsQuestion) ∧
    s.serve c = ⟨.ok ({ c with errorValue := value }, .error e), asked, s⟩

/-- The window system may be asked questions, and the resource that the request creates is recorded.
Then the vendor is called with the request as the client sent it, and what it answers is the answer
to the request. The router calls nobody else: in between, the vendor's handler is run. -/
def Delivers (s : Server σ δ) (c : Client) (q : Routing) (v : VendorId) : Prop :=
  ∃ handler asked during,
    s.environment.requestHandler? v = some handler ∧ (∀ ev ∈ asked, ev.IsQuestion) ∧
    match s.environment.interpret (handler c)
      ⟨s.world, q.record v s.ownership, .called v true (.request c) :: asked⟩ with
    | .ok (d, r) t =>
      t.journal = during ++ .called v true (.request c) :: asked ∧
      s.serve c = ⟨.ok (d, r), t.journal.reverse ++ [.returned v (.request c) (d, r)],
        s.withSession (t.withOwnership (q.settle r t.ownership))⟩
    | .error a t =>
      t.journal = during ++ .called v true (.request c) :: asked ∧
      s.serve c = ⟨.error a, t.journal.reverse, s.withSession t⟩

variable {s : Server σ δ} {c : Client} {q : Routing}

/-- A request that is handed on to one vendor comes to the service of its fields. -/
lemma serve_of_routing? (hs : s.Sound) (he : s.extension ≠ none) (hq : c.routing? = some q) :
    ∃ asked, (∀ ev ∈ asked, ev.IsQuestion) ∧
      s.serve c = s.answered (q.serve s.environment
        (fun id => s.host.legalNewResource s.world id c)
        (q.route.owner s.environment s.session c.id q.field)
        ⟨c, { s.session with journal := asked }⟩) := by
  obtain ⟨target, hreads, hresolve⟩ :=
    hs.dispatcher.resolve_of_routing? hq s.session
  obtain ⟨⟨d, world, ownership, journal⟩, ⟨hc, hw, ho, asked, hasked, hj⟩, hserve⟩ :
      Exchange.GoesOn ⟨c, s.session⟩ (target.serve s.environment) _ := hreads.goesOn
  dsimp only at hc hw ho hj
  rw [hc, hw, ho, hj, session, List.append_nil] at hserve
  exact ⟨asked, hasked, (serve_of_resolve he hresolve).trans (congrArg s.answered hserve)⟩

/-- A request that was answered by an error about a value, and before that by nothing. -/
lemma Declines.of_serve {value : UInt32} {e : ProtocolError} {asked : List (Event δ)}
    (hasked : ∀ ev ∈ asked, ev.IsQuestion)
    (h : s.serve c = s.answered (.error (.error e)
      ⟨{ c with errorValue := value }, { s.session with journal := asked }⟩)) :
    s.Declines c value e :=
  ⟨asked.reverse, fun ev hev => hasked ev (List.mem_reverse.mp hev), h⟩

/-- A request that was handed to a vendor with a handler. -/
lemma Delivers.of_serve {v : VendorId} {handler : RequestHandler σ δ} {asked : List (Event δ)}
    (hh : s.environment.requestHandler? v = some handler) (hasked : ∀ ev ∈ asked, ev.IsQuestion)
    (h : s.serve c = s.answered (q.deliver s.environment v
      ⟨c, ⟨s.world, q.record v s.ownership, asked⟩⟩)) :
    s.Delivers c q v := by
  have hextends := interpret_extends s.environment (handler c)
    ⟨s.world, q.record v s.ownership, .called v true (.request c) :: asked⟩
  rw [Ends] at hextends
  rw [deliver_eq, forward_of_some hh] at h
  dsimp only [Session.enter] at h
  rcases hrun : s.environment.interpret (handler c)
    ⟨s.world, q.record v s.ownership, .called v true (.request c) :: asked⟩ with
    ⟨⟨d, r⟩, t⟩ | ⟨a, t⟩
  all_goals
    rw [hrun] at h hextends
    obtain ⟨during, hduring⟩ := hextends
    refine ⟨handler, asked, during, hh, hasked, ?_⟩
    rw [hrun]
  · refine ⟨hduring.symm, ?_⟩
    rw [← List.reverse_cons]
    cases r <;> exact h
  · exact ⟨hduring.symm, h⟩

/-- Nobody but the vendor is called, unless the vendor hands a request on. -/
lemma Delivers.calls {v : VendorId} (h : s.Delivers c q v)
    (hp : ∀ handler ∈ s.environment.requestHandler? v, (handler c).HandsOnNothing) :
    (s.serve c).journal.filterMap Event.call? = [(v, .request c)] := by
  obtain ⟨handler, asked, during, hh, hasked, hrun⟩ := h
  have hnone : asked.filterMap Event.call? = [] :=
    List.filterMap_eq_nil_iff.mpr fun e he => (hasked e he).call?
  have hcalls : Ends (s.environment.interpret (handler c)) _
      (fun _ t => t.calls = [(v, .request c)]) fun _ t => t.calls = [(v, .request c)] :=
    runWith_calls (hp handler hh)
      ⟨s.world, q.record v s.ownership, .called v true (.request c) :: asked⟩
      (congrArg (List.cons (v, Callback.request c)) hnone)
  rw [Ends] at hcalls
  rcases hi : s.environment.interpret (handler c)
    ⟨s.world, q.record v s.ownership, .called v true (.request c) :: asked⟩ with
    ⟨⟨d, r⟩, t⟩ | ⟨a, t⟩
  all_goals rw [hi] at hrun hcalls
  · rw [hrun.2, List.filterMap_append, List.filterMap_reverse]
    exact congrArg (fun l => List.reverse l ++ []) hcalls
  · rw [hrun.2, List.filterMap_reverse]
    exact congrArg List.reverse hcalls

end Server

/-- A request that is handed on to one vendor reaches the owner of its routing field, and nobody
else. If the window system refuses the resource that it creates, or nobody owns the field, or the
resource cannot be recorded, or the owner is not initialized, the request is answered by an error,
the first of these in this order, nobody is called and nothing changes. Otherwise the owner is called
once with the request as the client sent it, and its answer is the answer; nobody else is called,
unless the owner hands a request on. -/
theorem routed_request_reaches_owner {s : Server σ δ} (hs : s.Reachable) (he : s.extension ≠ none)
    {c : Client} {q : Routing} (hq : c.routing? = some q) :
    (∀ id ∈ q.created, s.host.legalNewResource s.world id c = false →
      s.Declines c id .badIDChoice) ∧
    ((∀ id ∈ q.created, s.host.legalNewResource s.world id c = true) →
      (q.route.owner s.environment s.session c.id q.field = none →
        s.Declines c q.field q.failsWith) ∧
      ∀ v, q.route.owner s.environment s.session c.id q.field = some v →
        (¬ q.Recordable s.registry s.ownership v → s.Declines c c.errorValue .badAlloc) ∧
        (q.Recordable s.registry s.ownership v → s.registry.isInitialized v = false →
          s.Declines c c.errorValue .badImplementation) ∧
        (q.Recordable s.registry s.ownership v → s.registry.isInitialized v = true →
          s.Delivers c q v ∧
          ((∀ handler ∈ s.environment.requestHandler? v, (handler c).HandsOnNothing) →
            (s.serve c).journal.filterMap Event.call? = [(v, .request c)]))) := by
  have hsound := hs.sound
  obtain ⟨asked, hasked, hserve⟩ := Server.serve_of_routing? hsound he hq
  -- one check after the other, in the order of the code; each turns the service into what is left
  refine ⟨fun id hid hrefused => ?_, fun hlegal => ?_⟩
  · rw [Routing.serve, hid, orRefuse, if_neg (by rw [hrefused]; decide)] at hserve
    exact .of_serve hasked hserve
  rw [Routing.serve, orRefuse_of_legal hlegal] at hserve
  refine ⟨fun howner => ?_, fun v howner => ?_⟩
  · rw [howner] at hserve
    exact .of_serve hasked hserve
  rw [howner] at hserve
  have hserve : s.serve c = s.answered
      (q.handOver s.environment v ⟨c, { s.session with journal := asked }⟩) := hserve
  -- what is created is recorded for the owner, if it can be, before the owner is called
  refine ⟨fun hnot => ?_, fun hrecord hv => ?_, fun hrecord hv => ?_⟩
  · rw [handOver_of_not_recordable hnot] at hserve
    exact .of_serve hasked hserve
  · -- without a handler nobody is called, and what was recorded is forgotten
    have hnone : s.environment.requestHandler? v = none :=
      Environment.requestHandler?_eq_none hv
    rw [handOver_of_recordable hrecord, deliver_eq, forward_of_none hnone] at hserve
    dsimp only at hserve
    rw [settled_recorded hrecord] at hserve
    exact .of_serve hasked hserve
  · obtain ⟨handler, hh⟩ : ∃ handler, s.environment.requestHandler? v = some handler :=
      Environment.exists_requestHandler? hs.orderly hv
    rw [handOver_of_recordable hrecord] at hserve
    have hdelivers : s.Delivers c q v := .of_serve hh hasked hserve
    exact ⟨hdelivers, hdelivers.calls⟩

/-- A generation with one vendor, which owns a screen. -/
def tenanted : Server Unit Nat :=
  .reached [.createVendor (.obliging 0 none), .beginGeneration .sample]

/-- A client asks for a new context on that screen. -/
def askingTenant : Client := .asking 7 Opcode.createContext [5, 33, 0, 0, 1]

/-- The request names its vendor by the screen, and creates a resource. -/
def tenantRouting : Routing :=
  { route := .screen, field := 0, failsWith := .badMatch, created := some 5 }

/-- The vendor is asked for the context, which it owns from then on. -/
theorem routed_request_reaches_owner_of_screen :
    tenanted.Reachable ∧ tenanted.extension ≠ none ∧ askingTenant.routing? = some tenantRouting ∧
      tenantRouting.route.owner tenanted.environment tenanted.session ⟨7⟩ 0 = some ⟨0⟩ ∧
      tenanted.Delivers askingTenant tenantRouting ⟨0⟩ := by
  have hlead : (Server.new (.blank 1) () 4).Leads
      [.createVendor (.obliging 0 none), .beginGeneration .sample] tenanted :=
    .of_run (by decide +kernel)
  have hreach : tenanted.Reachable := hlead.reachable (.new _ _ _)
  have he : tenanted.extension ≠ none := by decide +kernel
  have hq : askingTenant.routing? = some tenantRouting := by decide +kernel
  have howner : tenantRouting.route.owner tenanted.environment tenanted.session ⟨7⟩ 0 =
      some ⟨0⟩ := by decide +kernel
  have hrecord : tenantRouting.Recordable tenanted.registry tenanted.ownership ⟨0⟩ := by
    rintro _ ⟨⟩
    exact ⟨by decide, by decide +kernel, by decide +kernel⟩
  obtain ⟨-, hlegal⟩ := routed_request_reaches_owner hreach he hq
  obtain ⟨-, howned⟩ := hlegal fun _ _ => rfl
  exact ⟨hreach, he, hq, howner, ((howned ⟨0⟩ howner).2.2 hrecord (by decide +kernel)).1⟩

/-! ### An owner that is gone -/

/-- A vendor that came too late for the generation claims a context, and is destroyed. -/
def orphaning : List (Operation Unit Nat) :=
  [.beginGeneration .sample, .createVendor (.obliging 0 none),
    .perform (.call (.addXid 5 ⟨0⟩) fun _ => .done ()), .destroyVendor ⟨0⟩]

/-- The router after that. -/
def orphaned : Server Unit Nat := .reached orphaning

/-- A request about a context whose owner is no longer registered, and that creates nothing, is
answered as if the owner were not initialized. -/
theorem orphan_is_not_badAlloc :
    orphaned.Reachable ∧ orphaned.extension ≠ none ∧
      (Client.asking 7 Opcode.isDirect [5]).routing? =
        some { route := .xid, field := 5, failsWith := .extension .badContext } ∧
      Route.xid.owner orphaned.environment orphaned.session ⟨7⟩ 5 = some ⟨0⟩ ∧
      orphaned.registry.contains ⟨0⟩ = false ∧
      (orphaned.serve (.asking 7 Opcode.isDirect [5])).result =
        .ok (.asking 7 Opcode.isDirect [5], .error .badImplementation) := by
  have hlead : (Server.new (.blank 1) () 4).Leads orphaning orphaned := .of_run (by decide +kernel)
  exact ⟨hlead.reachable (.new _ _ _), by decide +kernel, by decide +kernel, by decide +kernel,
    by decide +kernel, by decide +kernel⟩

end VendorDispatch
