import Mathlib.Data.List.Induction
import VendorDispatch.Proofs.InStepService

/-!
Clients that work with their own tags do not get in each other's way.

* `TagRequest`, `Client.tagRequest?`: the requests by which a client works with its tags. They are
  resolved without asking anybody (`resolve_of_tagRequest?`), and one that names a tag that is not
  live is refused (`TagRequest.refuses`).
* `Ownership.SameBut`, `Ownership.SameTo`: what such a request may change, and what its client sees.
* `VendorInterface.DependsOnClient`, `Server.Separates`: vendors that do for a client nothing that
  depends on any other, in any of the given worlds.
* `Server.Separated`: vendors that also hand back the client that they were given; without that,
  one client's operations reach another's tags (`clients_interfere`).
* `SameTo.apply_own`: an operation of a client, next to the same operation of that client alone.
* `clients_do_not_interfere`: each client finds what it would find if it were alone.
-/

namespace VendorDispatch

variable {σ δ α : Type}

/-! ### Requests on tags -/

/-- The requests by which a client works with its tags. -/
inductive TagRequest
  /-- Making a context current. -/
  | makeCurrent (encoding : MakeCurrent.Encoding)
  /-- Copying between contexts. -/
  | copyContext
  /-- Swapping buffers. -/
  | swapBuffers
  /-- A request that is routed by its tag. -/
  | routed (r : RoutedRequest)
  /-- A request from opcode 100 up. -/
  | single
  deriving DecidableEq, Repr

/-- The request on tags that the client asks for, if it does. -/
def Client.tagRequest? (c : Client) : Option TagRequest :=
  match c.makeCurrentEncoding?, c.minorOpcode with
  | some encoding, _ => some (.makeCurrent encoding)
  | none, .error _ => none
  | none, .ok minor =>
    if minor = Opcode.copyContext then
      some .copyContext
    else if minor = Opcode.swapBuffers then
      some .swapBuffers
    else if Opcode.firstSingle ≤ minor then
      some .single
    else
      ((RoutedRequest.find? minor).filter fun r => r.route = .tag).map .routed

namespace TagRequest

/-- What serves the request. -/
def target : TagRequest → Target σ δ
  | makeCurrent encoding => .makeCurrent encoding
  | copyContext => .copyContext
  | swapBuffers => .swapBuffers
  | routed r => .routed r
  | single => .single

/-- The tag that the request names. Where a request may do without a tag, zero stands for none. -/
def tag (c : Client) : TagRequest → Except ProtocolError ContextTag
  | makeCurrent encoding => do return (← MakeCurrent.decode c encoding).oldTag
  | copyContext => do
    let _ ← c.readWord 4
    c.readWord 16
  | swapBuffers => do
    let tag ← c.readWord 4
    let _ ← c.readWord 8
    return tag
  | routed _ | single => c.readWord 4

end TagRequest

lemma Client.routed_of_tagRequest? {c : Client} {r : RoutedRequest}
    (h : c.tagRequest? = some (.routed r)) : r ∈ routedRequests ∧ r.route = .tag := by
  rw [Client.tagRequest?] at h
  split at h
  · cases h
  · cases h
  · split_ifs at h
    all_goals try cases h
    obtain ⟨u, hu, hur⟩ := Option.map_eq_some_iff.mp h
    obtain rfl := TagRequest.routed.inj hur
    obtain ⟨hu, htag⟩ := Option.filter_eq_some_iff.mp hu
    exact ⟨List.mem_of_find?_eq_some hu, by simpa using htag⟩

/-- The fields of the requests that are routed by their tag. -/
lemma RoutedRequest.eq_byTag :
    ∀ r ∈ routedRequests, r.route = .tag → r = byTag r.opcode r.name := by
  decide

/-- Requests on tags change no owners of resources. -/
lemma TagRequest.respects (L : Likeness σ) {c : Client} {q : TagRequest}
    (h : c.tagRequest? = some q) : (q.target : Target σ δ).Respects L := by
  cases q with
  | routed r =>
      obtain ⟨hr, htag⟩ := Client.routed_of_tagRequest? h
      have hfield : IsField 4 := by decide
      change r.Respects L
      rw [RoutedRequest.eq_byTag r hr htag]
      exact ⟨hfield, by rintro _ ⟨⟩, by rintro _ ⟨⟩⟩
  | makeCurrent | copyContext | swapBuffers | single => trivial

/-- A request on tags is resolved without asking anybody. -/
lemma Dispatcher.Sound.resolve_of_tagRequest? {env : Environment σ δ} {d : Dispatcher σ δ}
    {registry : Registry σ δ} (hd : d.Sound registry) {c : Client} {q : TagRequest}
    (h : c.tagRequest? = some q) (s : Session σ δ) :
    d.resolve env c s = .ok (.ok q.target, d) s := by
  rw [Client.tagRequest?] at h
  split at h
  · next henc =>
    cases h
    exact hd.resolve_of_makeCurrentEncoding? henc s
  · cases h
  · next minor _ hm =>
    split_ifs at h with hcopy hswap hsingle
    · cases h
      subst hcopy
      exact hd.resolve_of_preset hm (by decide) (by simp [preset, builtins, TagRequest.target]) s
    · cases h
      subst hswap
      exact hd.resolve_of_preset hm (by decide) (by simp [preset, builtins, TagRequest.target]) s
    · cases h
      exact resolve_of_single hm hsingle s
    · obtain ⟨r, hr, rfl⟩ := Option.map_eq_some_iff.mp h
      exact hd.resolve_of_find? hm hsingle (Option.filter_eq_some_iff.mp hr).1 s

/-! ### Tags that are not live -/

section Refused

variable {env : Environment σ δ} {tag : ContextTag} {x : Exchange σ δ}

/-- The exchange after its request was refused for the tag that it names. -/
def Exchange.blaming (x : Exchange σ δ) (tag : ContextTag) : Exchange σ δ :=
  x.withClient { x.client with errorValue := tag }

/-- Work that is answered by the error for a tag that is not live, and does nothing else. -/
def RefusesTag (tag : ContextTag) (x : Exchange σ δ) (work : ExchangeM σ δ α) : Prop :=
  Ends work x (fun _ _ => False) fun f y =>
    f = .error (.extension .badContextTag) ∧ y = x.blaming tag

namespace RefusesTag

lemma bind {β : Type} {work : ExchangeM σ δ β} {f : β → ExchangeM σ δ α}
    (h : RefusesTag tag x work) : RefusesTag tag x (work >>= f) :=
  ends_bind.mpr (h.mono (fun _ _ => False.elim) fun _ _ => id)

lemma readWord {offset : Nat} {v : UInt32} {f : UInt32 → ExchangeM σ δ α}
    (hv : x.client.readWord offset = .ok v) (h : RefusesTag tag x (f v)) :
    RefusesTag tag x (ExchangeM.readWord offset >>= f) := by
  rw [RefusesTag, ends_bind, ends_readWord, hv]
  exact h

end RefusesTag

/-- Nobody owns a tag that is not live. -/
lemma vendorOfTag_of_not_live {client : ClientId} {s : Session σ δ}
    (h : s.ownership.lookupTag client tag = none) :
    (Environment.vendorOfTag client tag : SessionM σ δ _) s = .ok none s := by
  change EStateM.Result.ok ((s.ownership.lookupTag client tag).bind TagInfo.owner) s = _
  rw [h]
  rfl

/-- A tag that is not live has no owner. -/
lemma tagVendor_refuses (h : x.session.ownership.lookupTag x.client.id tag = none) :
    RefusesTag tag x (Forwarding.tagVendor tag) := by
  rw [RefusesTag, Forwarding.tagVendor, ends_bind, ends_client, ends_bind, ends_onSession, Ends,
    vendorOfTag_of_not_live h]
  exact ⟨rfl, rfl⟩

/-- A request that names a tag that is not live for its client is refused, and nobody is called. -/
lemma TagRequest.refuses {q : TagRequest} (hq : x.client.tagRequest? = some q)
    (htag : q.tag x.client = .ok tag) (hne : tag ≠ 0)
    (h : x.session.ownership.lookupTag x.client.id tag = none) :
    RefusesTag tag x (q.target.serve env) := by
  have hforward (v : VendorId → ExchangeM σ δ Unit) :
      RefusesTag tag x (Forwarding.tagVendor tag >>= v) := (tagVendor_refuses h).bind
  cases q with
  | makeCurrent encoding =>
      obtain ⟨switch, hd, htag⟩ := bind_eq_ok_iff.mp htag
      cases htag
      change RefusesTag switch.oldTag x (MakeCurrent.read encoding >>= MakeCurrent.switch env)
      rw [RefusesTag, ends_bind, MakeCurrent.ends_read, hd]
      dsimp only
      rw [MakeCurrent.switch, ends_bind, MakeCurrent.ends_oldEntry, if_neg hne, h]
      exact ⟨rfl, rfl⟩
  | copyContext =>
      obtain ⟨source, hsource, htag⟩ := bind_eq_ok_iff.mp htag
      refine .readWord hsource (.readWord htag ?_)
      rw [if_pos hne]
      exact hforward _
  | swapBuffers =>
      obtain ⟨old, hold, htag⟩ := bind_eq_ok_iff.mp htag
      obtain ⟨drawable, hdrawable, htag⟩ := bind_eq_ok_iff.mp htag
      cases htag
      refine .readWord hold (.readWord hdrawable ?_)
      rw [if_pos hne]
      exact hforward _
  | routed r =>
      obtain ⟨hr, hroute⟩ := Client.routed_of_tagRequest? hq
      change RefusesTag tag x (r.serve env)
      rw [RoutedRequest.eq_byTag r hr hroute]
      refine .readWord htag ?_
      -- It creates nothing, and its owner is the one of its tag.
      refine ends_bind.mpr (ends_bind.mpr ?_)
      refine ends_bind.mpr (ends_client.mpr ?_)
      rw [ends_onSession, Ends, vendorOfTag_of_not_live h]
      exact ⟨rfl, rfl⟩
  | single => exact .readWord htag (hforward _)

end Refused

/-! ### What belongs to a client -/

/-- Owners that differ by nothing but the tags of one client. -/
structure Ownership.SameBut (a : ClientId) (o u : Ownership δ) : Prop where
  xids : u.xids = o.xids
  screens : u.screens = o.screens
  others : ∀ b, b ≠ a → u.tagsOf? b = o.tagsOf? b

/-- Owners that are the same to one client. -/
structure Ownership.SameTo (a : ClientId) (o u : Ownership δ) : Prop where
  xids : u.xids = o.xids
  screens : u.screens = o.screens
  tags : u.tagsOf? a = o.tagsOf? a

namespace Ownership

variable {a b : ClientId} {o p u : Ownership δ}

lemma SameBut.refl (a : ClientId) (o : Ownership δ) : o.SameBut a o := ⟨rfl, rfl, fun _ _ => rfl⟩

lemma SameTo.refl (a : ClientId) (o : Ownership δ) : o.SameTo a o := ⟨rfl, rfl, rfl⟩

lemma SameBut.setTags (h : o.SameBut a u) (table : TagTable δ) :
    o.SameBut a (u.setTags a table) where
  xids := h.xids
  screens := h.screens
  others b hb := by rw [tagsOf?_setTags, if_neg hb, h.others b hb]

lemma SameTo.setTags (h : o.SameTo a u) (table : TagTable δ) :
    (o.setTags a table).SameTo a (u.setTags a table) where
  xids := h.xids
  screens := h.screens
  tags := by rw [tagsOf?_setTags, tagsOf?_setTags, if_pos rfl, if_pos rfl]

lemma sameBut_clientGone (a : ClientId) (o : Ownership δ) : o.SameBut a (o.clientGone a) where
  xids := rfl
  screens := rfl
  others b hb := by
    rw [clientGone, tagsOf?, tagsOf?]
    exact (Assoc.get?_erase _ _ _).trans (if_neg hb)

/-- What one client changes is the same to all others. -/
lemma SameBut.sameTo (h : o.SameBut a p) (hab : b ≠ a) (hb : o.SameTo b u) : p.SameTo b u where
  xids := hb.xids.trans h.xids.symm
  screens := hb.screens.trans h.screens.symm
  tags := hb.tags.trans (h.others b hab).symm

/-- Owners in two runs of one client, each different from where its run began by nothing but the
tags of the client, which are the same. -/
structure Beside (a : ClientId) (o p : Ownership δ) (o' p' : Ownership δ) : Prop where
  left : o.SameBut a o'
  right : p.SameBut a p'
  same : o'.SameTo a p'

end Ownership

/-- For one client, in any of the given worlds: what is done for the client does not depend on the
world, uses the tags of no other client, and leaves the owners of screens and resources alone. -/
def Likeness.ofClient (W : σ → Prop) (a : ClientId) : Likeness σ :=
  .among (· = a) (fun w v => W w ∧ W v) False

/-- Owners beside each other stay so, whatever is done for the client. -/
lemma Likeness.owned_ofClient (W : σ → Prop) (a : ClientId) (o p : Ownership δ) :
    (ofClient W a).Owned (Ownership.Beside a o p) where
  xids h := h.same.xids.symm
  screens h := h.same.screens.symm
  tagsOf? h hc := by
    obtain rfl : _ = a := hc
    exact h.same.tags.symm
  withXids _ ht _ := ht.elim
  withScreens _ ht _ := ht.elim
  setTags table hc h := by
    obtain rfl : _ = a := hc
    exact ⟨h.left.setTags table, h.right.setTags table, h.same.setTags table⟩

/-- What a vendor does for a client depends on nothing but the client with its request and the
arguments of the call, in any of the given worlds, and uses the tags of no other client. Whom the
vendor hands back is left open. -/
structure VendorInterface.DependsOnClient (W : σ → Prop) (i : VendorInterface σ δ) : Prop where
  handleRequest : ∀ handler, i.handleRequest = some handler → ∀ c,
    (handler c).InStep (.ofClient W c.id) Eq (handler c)
  makeCurrent : ∀ handler, i.makeCurrent = some handler → ∀ c q,
    (handler c q).InStep (.ofClient W c.id) Eq (handler c q)

/-- Programs in step that hand back their own client. -/
lemma Program.InStep.answers {W : σ → Prop} {a : ClientId}
    {p q : Program σ δ (Client × Except ProtocolError α)} (h : p.InStep (.ofClient W a) Eq q)
    (hp : p.Returns fun r => r.1.id = a) :
    p.InStep (.ofClient W a) (Likeness.ofClient W a).Answers q := by
  induction h with
  | done hab =>
      subst hab
      exact .done ⟨⟨rfl, hp⟩, rfl⟩
  | readWorld _ ih => exact .readWorld fun w v hwv => ih w v hwv (hp w)
  | readLeft _ ih => exact .readLeft fun w v hwv => ih w v hwv (hp w)
  | readRight _ ih => exact .readRight fun w v hwv => ih w v hwv hp
  | writeWorld hwv _ ih => exact .writeWorld hwv (ih hp)
  | writeLeft hw _ ih => exact .writeLeft hw (ih hp)
  | writeRight hv _ ih => exact .writeRight hv (ih hp)
  | note n _ ih => exact .note n (ih hp)
  | call hr _ ih => exact .call hr fun answer => ih answer (hp answer)
  | legal hcd _ ih => exact .legal hcd fun answer => ih answer (hp answer)
  | forward v hcd _ ih =>
      -- a forwarded request comes back for the same client
      exact .forward v hcd fun r u hru => ih r u hru (hp r (hru.1.2.trans hcd.2.symm))
  | panic => exact .panic

/-- A vendor that depends on the client alone and hands it back does the same for the same client,
whatever is current elsewhere. -/
lemma VendorInterface.DependsOnClient.respects {W : σ → Prop} {i : VendorInterface σ δ}
    (h : i.DependsOnClient W) (hk : i.KeepsClient) (a : ClientId) : i.Respects (.ofClient W a) where
  handleRequest := by
    rintro handler hi c _ ⟨rfl, rfl⟩
    exact (h.handleRequest handler hi c).answers (hk.handleRequest handler hi c)
  makeCurrent := by
    rintro handler hi c _ q ⟨rfl, rfl⟩
    exact (h.makeCurrent handler hi c q).answers (hk.makeCurrent handler hi c q)

/-! ### One operation of a client -/

/-- The client that an operation is about, if it serves a request on tags or drops the tags of a
client that has disconnected. -/
def Operation.tagClient? : Operation σ δ → Option ClientId
  | serve c => c.tagRequest?.map fun _ => c.id
  | clientGone a => some a
  | _ => none

/-- Two operations did the same to a client. -/
structure Step.SameTo (a : ClientId) (x y : Step σ δ α) : Prop where
  result : y.result = x.result
  journal : y.journal = x.journal
  tags : y.server.ownership.tagsOf? a = x.server.ownership.tagsOf? a

/-- Two deeds of the same operation that did the same to a client. -/
inductive Deed.SameTo (a : ClientId) : Deed σ δ → Deed σ δ → Prop
  | intro {op : Operation σ δ} {x y : Step σ δ op.Answer} :
    x.SameTo a y → SameTo a ⟨op, x⟩ ⟨op, y⟩

namespace Server

/-- In any of the given worlds, of which the present one is one, the window system and the vendors
do for each client what depends on that client alone. -/
structure Separates (W : σ → Prop) (s : Server σ δ) : Prop where
  world : W s.world
  host : ∀ a, s.host.Respects (.ofClient W a)
  vendors : s.registry.Every (VendorInterface.DependsOnClient W)

/-- The vendors also hand back the client that they were given. -/
structure Separated (W : σ → Prop) (s : Server σ δ) : Prop extends Separates W s where
  keepsClient : s.registry.KeepsClient

/-- Routers that are the same to one client. -/
structure SameTo (a : ClientId) (s t : Server σ δ) : Prop where
  vendors : s.SameVendors t
  ownership : s.ownership.SameTo a t.ownership

variable {W : σ → Prop} {a b : ClientId} {s t : Server σ δ}

lemma SameTo.refl (a : ClientId) (s : Server σ δ) : s.SameTo a s :=
  ⟨.refl s, .refl a _⟩

/-- An operation of a client leaves the vendors alone. -/
lemma apply_sameVendors {op : Operation σ δ} (hop : op.tagClient? = some a) :
    s.SameVendors (s.apply op).server := by
  cases op with
  | serve c => exact s.serve_sameVendors c
  | clientGone b => exact ⟨rfl, rfl, rfl, rfl⟩
  | createVendor | destroyVendor | beginGeneration | endGeneration | resourceFreed | perform
  | changeWorld => cases hop

namespace Separated

variable (h : s.Separated W)

include h

lemma respects (a : ClientId) : s.registry.Every (VendorInterface.Respects (.ofClient W a)) :=
  fun v i hi => (h.vendors v i hi).respects (h.keepsClient v i hi) a

/-- Serving a client in two routers that are the same to it. -/
lemma serve_like (hs : s.Sound) (ht : t.Sound) (h' : W t.world) {c : Client}
    (hst : s.SameTo c.id t) {q : TagRequest} (hq : c.tagRequest? = some q) :
    (s.serve c).Like (.ofClient W c.id) (Ownership.Beside c.id s.ownership t.ownership)
      (Likeness.ofClient W c.id).Answers (t.serve c) := by
  have hlike : s.Like (.ofClient W c.id) (Ownership.Beside c.id s.ownership t.ownership) t :=
    .of_sameVendors hst.vendors (h.host c.id) (h.respects c.id)
      ⟨⟨h.world, h'⟩, ⟨.refl _ _, .refl _ _, hst.ownership⟩, .nil⟩
  by_cases he : s.extension = none
  · have he' := hst.vendors.extension.trans he
    rw [Server.serve, he, Server.serve, he']
    exact .ok ⟨⟨rfl, rfl⟩, rfl⟩ hlike.session
  · exact hlike.serve_of_resolve (Likeness.owned_ofClient W c.id _ _) ⟨rfl, rfl⟩ he
      (hs.dispatcher.resolve_of_tagRequest? hq s.session)
      (ht.dispatcher.resolve_of_tagRequest? hq t.session) hlike.session fun target htarget => by
        cases htarget
        exact TagRequest.respects _ hq

/-- An operation of a client, in two routers that are the same to it, does the same and changes
nothing but the tags of the client. -/
lemma apply_beside (hs : s.Sound) (ht : t.Sound) (h' : W t.world) (hst : s.SameTo a t)
    {op : Operation σ δ} (hop : op.tagClient? = some a) :
    (s.apply op).SameTo a (t.apply op) ∧
      Ownership.Beside a s.ownership t.ownership (s.apply op).server.ownership
        (t.apply op).server.ownership ∧
      W (s.apply op).server.world ∧ W (t.apply op).server.world := by
  cases op with
  | serve c =>
      obtain ⟨q, hq, rfl⟩ := Option.map_eq_some_iff.mp hop
      have hlike := h.serve_like hs ht h' hst hq
      have hbeside := hlike.session.ownership
      refine ⟨⟨?_, ?_, hbeside.same.tags⟩, hbeside, hlike.session.world⟩
      · exact (hlike.result_eq fun _ _ => Likeness.eq_of_answers).symm
      · exact (Event.eq_of_forall₂_like hlike.journal).symm
  | clientGone b =>
      obtain rfl : b = a := Option.some.inj hop
      -- the client has no tags left, in either router
      have htags (o : Ownership δ) : (o.clientGone b).tagsOf? b = none := by
        rw [Ownership.clientGone, Ownership.tagsOf?]
        exact (Assoc.get?_erase _ _ _).trans (if_pos rfl)
      have hsame : (t.ownership.clientGone b).tagsOf? b = (s.ownership.clientGone b).tagsOf? b := by
        rw [htags, htags]
      exact ⟨⟨rfl, rfl, hsame⟩, ⟨Ownership.sameBut_clientGone b _,
        Ownership.sameBut_clientGone b _, ⟨hst.ownership.xids, hst.ownership.screens, hsame⟩⟩,
        h.world, h'⟩
  | createVendor | destroyVendor | beginGeneration | endGeneration | resourceFreed | perform
  | changeWorld => cases hop

/-- The router after an operation of a client. -/
lemma apply (hs : s.Sound) {op : Operation σ δ} (hop : op.tagClient? = some a) :
    (s.apply op).server.Separated W where
  world := (h.apply_beside hs hs h.world (.refl a s) hop).2.2.1
  host := by
    rw [(s.apply_sameVendors hop).host]
    exact h.host
  vendors := by
    rw [(s.apply_sameVendors hop).registry]
    exact h.vendors
  keepsClient := by
    rw [(s.apply_sameVendors hop).registry]
    exact h.keepsClient

end Separated

/-- An operation of a client leaves the routers the same to it. -/
lemma SameTo.apply_own (h : s.Separated W) (hs : s.Sound) (ht : t.Sound) (h' : W t.world)
    (hst : s.SameTo a t) {op : Operation σ δ} (hop : op.tagClient? = some a) :
    (s.apply op).server.SameTo a (t.apply op).server := by
  have hvendors := hst.vendors.trans (t.apply_sameVendors hop)
  exact ⟨(s.apply_sameVendors hop).symm.trans hvendors,
    (h.apply_beside hs ht h' hst hop).2.1.same⟩

/-- An operation of another client leaves the routers the same to this one. -/
lemma SameTo.apply_other (h : s.Separated W) (hs : s.Sound) (hst : s.SameTo a t)
    {op : Operation σ δ} (hop : op.tagClient? = some b) (hab : a ≠ b) :
    (s.apply op).server.SameTo a t := by
  have hbeside := (h.apply_beside hs hs h.world (.refl b s) hop).2.1
  exact ⟨(s.apply_sameVendors hop).symm.trans hst.vendors,
    hbeside.left.sameTo hab hst.ownership⟩

end Server

/-! ### Interleaved operations -/

/-- The operations that are about a client. -/
def operationsOf (a : ClientId) (ops : List (Operation σ δ)) : List (Operation σ δ) :=
  ops.filter fun op => op.tagClient? = some a

/-- The deeds that are about a client. -/
def deedsOf (a : ClientId) (deeds : List (Deed σ δ)) : List (Deed σ δ) :=
  deeds.filter fun d => d.operation.tagClient? = some a

section Interleaved

variable {a : ClientId} {op : Operation σ δ}

lemma operationsOf_cons_self (h : op.tagClient? = some a) (ops : List (Operation σ δ)) :
    operationsOf a (op :: ops) = op :: operationsOf a ops :=
  List.filter_cons_of_pos (by simpa using h)

lemma operationsOf_cons_of_ne (h : op.tagClient? ≠ some a) (ops : List (Operation σ δ)) :
    operationsOf a (op :: ops) = operationsOf a ops :=
  List.filter_cons_of_neg (by simpa using h)

lemma deedsOf_cons_self (h : op.tagClient? = some a) (x : Step σ δ op.Answer)
    (deeds : List (Deed σ δ)) : deedsOf a (⟨op, x⟩ :: deeds) = ⟨op, x⟩ :: deedsOf a deeds :=
  List.filter_cons_of_pos (by simpa using h)

lemma deedsOf_cons_of_ne (h : op.tagClient? ≠ some a) (x : Step σ δ op.Answer)
    (deeds : List (Deed σ δ)) : deedsOf a (⟨op, x⟩ :: deeds) = deedsOf a deeds :=
  List.filter_cons_of_neg (by simpa using h)

end Interleaved

namespace Server

variable {W : σ → Prop} {a : ClientId} {s t : Server σ δ}

/-- Interleaved operations of clients, next to those of one client alone: the deeds of the client
are the same, as far as the run gets. -/
lemma Separated.run_beside (h : s.Separated W) (hs : s.Sound) (ht : t.Sound) (h' : W t.world)
    (hst : s.SameTo a t) {ops : List (Operation σ δ)}
    (hops : ∀ op ∈ ops, op.tagClient? ≠ none) :
    ∃ deeds, deeds <+: t.run (operationsOf a ops) ∧
      List.Forall₂ (Deed.SameTo a) (deedsOf a (s.run ops)) deeds ∧
      ∀ s', s.Leads ops s' → deeds = t.run (operationsOf a ops) ∧
        ∃ t', t.Leads (operationsOf a ops) t' ∧ s'.SameTo a t' := by
  induction ops generalizing s t with
  | nil =>
      refine ⟨[], List.nil_prefix, .nil, fun s' hlead => ⟨rfl, t, .nil, ?_⟩⟩
      rw [hlead.nil_inv]
      exact hst
  | cons op rest ih =>
      obtain ⟨b, hop⟩ := Option.ne_none_iff_exists'.mp (hops op List.mem_cons_self)
      have hrest := fun o ho => hops o (List.mem_cons_of_mem op ho)
      have hs' := h.apply hs hop
      have hbroken {e : Abort} (hr : (s.apply op).result = .error e) {s' : Server σ δ} :
          ¬ s.Leads (op :: rest) s' := by
        intro hlead
        obtain ⟨⟨x, hx⟩, -⟩ := hlead.cons_inv
        rw [hr] at hx
        cases hx
      -- The single run moves only with the operations of its own client.
      by_cases hab : a = b
      · subst hab
        obtain ⟨hsame, -, -, hw⟩ := h.apply_beside hs ht h' hst hop
        rw [operationsOf_cons_self hop]
        cases hr : (s.apply op).result with
        | error e =>
            rw [run_cons_of_error hr, run_cons_of_error (hsame.result.trans hr),
              deedsOf_cons_self hop]
            exact ⟨_, List.prefix_rfl, .cons (.intro hsame) .nil, fun _ hl => (hbroken hr hl).elim⟩
        | ok x =>
            have hr' : (t.apply op).result = .ok x := hsame.result.trans hr
            obtain ⟨deeds, hprefix, hdeeds, hlead⟩ :=
              ih hs' (hs.apply op) (ht.apply op) hw (hst.apply_own h hs ht h' hop) hrest
            rw [run_cons_of_ok hr, run_cons_of_ok hr', deedsOf_cons_self hop]
            refine ⟨_ :: deeds, (List.prefix_cons_inj _).mpr hprefix,
              .cons (.intro hsame) hdeeds, fun s' hl => ?_⟩
            obtain ⟨rfl, t', ht', hst'⟩ := hlead s' hl.uncons
            exact ⟨rfl, t', .cons hr' ht', hst'⟩
      · have hne : op.tagClient? ≠ some a := fun ha => hab (Option.some.inj (ha.symm.trans hop))
        rw [operationsOf_cons_of_ne hne]
        cases hr : (s.apply op).result with
        | error e =>
            rw [run_cons_of_error hr, deedsOf_cons_of_ne hne]
            exact ⟨[], List.nil_prefix, .nil, fun _ hl => (hbroken hr hl).elim⟩
        | ok x =>
            obtain ⟨deeds, hprefix, hdeeds, hlead⟩ :=
              ih hs' (hs.apply op) ht h' (hst.apply_other h hs hop hab) hrest
            rw [run_cons_of_ok hr, deedsOf_cons_of_ne hne]
            exact ⟨deeds, hprefix, hdeeds, fun s' hl => hlead s' hl.uncons⟩

/-- The router after interleaved operations of clients. -/
lemma Separated.leads (h : s.Separated W) (hs : s.Sound) {ops : List (Operation σ δ)}
    (hops : ∀ op ∈ ops, op.tagClient? ≠ none) (hl : s.Leads ops t) : t.Separated W := by
  induction hl with
  | nil => exact h
  | concat op _ hu _ ih =>
      obtain ⟨b, hop⟩ :=
        Option.ne_none_iff_exists'.mp (hops op (List.mem_append_right _ List.mem_cons_self))
      exact (ih fun o ho => hops o (List.mem_append_left _ ho)).apply (hu.sound hs) hop

/-- If no client's own operations are broken off, they are not when interleaved. -/
lemma Separated.leads_of_own (h : s.Separated W) (hs : s.Sound) {ops : List (Operation σ δ)}
    (hops : ∀ op ∈ ops, op.tagClient? ≠ none)
    (hown : ∀ a, ∃ u, s.Leads (operationsOf a ops) u) : ∃ t, s.Leads ops t := by
  induction ops using List.reverseRecOn with
  | nil => exact ⟨s, .nil⟩
  | append_singleton ops op ih =>
      have hinit := fun o ho => hops o (List.mem_append_left _ ho)
      have hsplit (a : ClientId) : ∃ u w, s.Leads (operationsOf a ops) u ∧
          u.Leads (operationsOf a [op]) w := by
        obtain ⟨w, hw⟩ := hown a
        rw [operationsOf, List.filter_append] at hw
        obtain ⟨u, hu, hw⟩ := hw.split
        exact ⟨u, w, hu, hw⟩
      obtain ⟨t, ht⟩ := ih hinit fun a =>
        let ⟨u, _, hu, _⟩ := hsplit a
        ⟨u, hu⟩
      obtain ⟨b, hop⟩ :=
        Option.ne_none_iff_exists'.mp (hops op (List.mem_append_right _ List.mem_cons_self))
      -- The last operation is not broken off when its client is alone, and so not here either.
      obtain ⟨u, w, hu, hw⟩ := hsplit b
      rw [operationsOf_cons_self hop] at hw
      obtain ⟨⟨x, hx⟩, -⟩ := hw.cons_inv
      obtain ⟨_, -, -, hlead⟩ := h.run_beside (a := b) hs hs h.world (.refl b s) hinit
      obtain ⟨-, u', hu', hsame⟩ := hlead t ht
      obtain rfl := hu.unique hu'
      have hu := h.leads hs (fun o ho => hinit o (List.mem_of_mem_filter ho)) hu
      have ht' := h.leads hs hinit ht
      obtain ⟨hsame, -⟩ := ht'.apply_beside (ht.sound hs) (hu'.sound hs) hu.world hsame hop
      exact ⟨_, .concat op x ht (hsame.result.symm.trans hx)⟩

/-- A request that names a tag that is not live for its client is refused; nothing happens. -/
lemma serve_refuses (hs : s.Sound) (he : s.extension ≠ none) {c : Client} {q : TagRequest}
    (hq : c.tagRequest? = some q) {tag : ContextTag} (htag : q.tag c = .ok tag) (hne : tag ≠ 0)
    (hl : s.ownership.lookupTag c.id tag = none) :
    s.serve c =
      ⟨.ok ({ c with errorValue := tag }, .error (.extension .badContextTag)), [], s⟩ := by
  rw [serve_of_resolve he (hs.dispatcher.resolve_of_tagRequest? hq s.session)]
  have hrefuses : RefusesTag tag ⟨c, s.session⟩ (q.target.serve s.environment) :=
    TagRequest.refuses hq htag hne hl
  have hserve : serveFound s.environment (.ok q.target) ⟨c, s.session⟩ =
      .error (.error (.extension .badContextTag)) (Exchange.blaming ⟨c, s.session⟩ tag) := by
    change q.target.serve s.environment ⟨c, s.session⟩ = _
    rw [RefusesTag, Ends] at hrefuses
    rcases hx : q.target.serve s.environment ⟨c, s.session⟩ with ⟨_, y⟩ | ⟨f, y⟩ <;>
      rw [hx] at hrefuses
    · exact hrefuses.elim
    · rw [hrefuses.1, hrefuses.2]
  rw [hserve]
  rfl

end Server

/-- Clients do not interfere when they work with their own tags: they make contexts current, copy
between contexts, swap buffers, send requests that are routed by a tag, and disconnect. The vendors
do for each of them what depends on that client alone, and hand it back as the same client. However
their operations are interleaved, each client gets the results, error values, replies, tag numbers
and vendor calls that it would get if it were alone, as far as the run gets before some vendor
breaks it off, and in the end its table of tags is the same; the run is broken off only if the
operations of some client alone are. All along, a request that names a tag that is not live for its
own client is refused, whoever else holds a tag of that number. -/
theorem clients_do_not_interfere {W : σ → Prop} {s : Server σ δ} (hs : s.Reachable)
    (h : s.Separates W) (hkeeps : s.registry.KeepsClient) {ops : List (Operation σ δ)}
    (hops : ∀ op ∈ ops, op.tagClient? ≠ none) :
    (∀ a, ∃ deeds, deeds <+: s.run (operationsOf a ops) ∧
      List.Forall₂ (Deed.SameTo a) (deedsOf a (s.run ops)) deeds) ∧
    ((∃ t, s.Leads ops t) ↔ ∀ a, ∃ u, s.Leads (operationsOf a ops) u) ∧
    ∀ t, s.Leads ops t →
      (∀ a, List.Forall₂ (Deed.SameTo a) (deedsOf a (s.run ops)) (s.run (operationsOf a ops)) ∧
        ∀ u, s.Leads (operationsOf a ops) u →
          u.ownership.tagsOf? a = t.ownership.tagsOf? a) ∧
      (t.extension ≠ none → ∀ c q tag, c.tagRequest? = some q → q.tag c = .ok tag → tag ≠ 0 →
        t.ownership.lookupTag c.id tag = none →
        t.serve c =
          ⟨.ok ({ c with errorValue := tag }, .error (.extension .badContextTag)), [], t⟩) := by
  have hsound := hs.sound
  have h : s.Separated W := ⟨h, hkeeps⟩
  have hbeside (a : ClientId) := h.run_beside (a := a) hsound hsound h.world (.refl a s) hops
  refine ⟨fun a => ?_, ⟨?_, h.leads_of_own hsound hops⟩, fun t ht => ⟨fun a => ?_, ?_⟩⟩
  · obtain ⟨deeds, hprefix, hdeeds, -⟩ := hbeside a
    exact ⟨deeds, hprefix, hdeeds⟩
  · rintro ⟨t, ht⟩ a
    obtain ⟨_, -, -, hlead⟩ := hbeside a
    obtain ⟨-, u, hu, -⟩ := hlead t ht
    exact ⟨u, hu⟩
  · obtain ⟨deeds, -, hdeeds, hlead⟩ := hbeside a
    obtain ⟨rfl, u, hu, hsame⟩ := hlead t ht
    refine ⟨hdeeds, fun u' hu' => ?_⟩
    rw [hu'.unique hu, hsame.ownership.tags]
  · intro he c q tag hq htag hne hl
    exact Server.serve_refuses (ht.sound hsound) he hq htag hne hl

/-- A vendor that stores data on the first tag of every client whose request it gets. -/
def VendorInterface.marking : VendorInterface Unit Nat :=
  { obliging 0 (some 42) with
    handleRequest := some fun c =>
      .call (.setTagData c.id 1 ⟨0⟩ (some c.sequence.toNat)) fun _ => .done (c, .ok ()) }

/-- A vendor is registered, and a client creates a context of it. -/
def sharedStart (i : VendorInterface Unit Nat) : List (Operation Unit Nat) :=
  [.createVendor i, .beginGeneration .sample,
    .serve (.asking 8 Opcode.createContext [5, 33, 0, 0, 1])]

/-- The router that two clients share. -/
def sharedServer (i : VendorInterface Unit Nat) : Server Unit Nat := .reached (sharedStart i)

lemma separates_sharedServer {i : VendorInterface Unit Nat} (hi : i.DependsOnClient fun _ => True)
    (hlead : (Server.new (.blank 1) () 4).Leads (sharedStart i) (sharedServer i))
    (hhost : (sharedServer i).host = .blank 1) : (sharedServer i).Separates fun _ => True := by
  refine ⟨trivial, fun a => hhost ▸ WindowSystem.respects_blank _ 1,
    hlead.every Registry.every_empty fun j hj => ?_⟩
  simp only [sharedStart, List.mem_cons, Operation.createVendor.injEq, reduceCtorEq, or_false,
    List.not_mem_nil] at hj
  exact hj ▸ hi

/-- Two clients bind the context under tags of the same number, and one of them disconnects. -/
def interleaved : List (Operation Unit Nat) :=
  [.serve (.asking 7 Opcode.makeContextCurrent [0, 6, 7, 5]),
    .serve (.asking 8 Opcode.makeContextCurrent [0, 6, 7, 5]),
    .serve (.asking 8 Opcode.render [1]), .serve (.asking 7 102 [1]), .clientGone ⟨8⟩,
    .serve (.asking 7 Opcode.swapBuffers [1, 6])]

set_option maxRecDepth 8000 in
/-- The client that stays has its tag, and the other one is refused. -/
theorem clients_do_not_interfere_interleaved :
    (sharedServer .marking).Reachable ∧ (sharedServer .marking).Separates (fun _ => True) ∧
      (sharedServer .marking).registry.KeepsClient ∧
      (∀ op ∈ interleaved, op.tagClient? ≠ none) ∧
      ∃ t u, (sharedServer .marking).Leads interleaved t ∧
        (sharedServer .marking).Leads (operationsOf ⟨7⟩ interleaved) u ∧
        (t.ownership.lookupTag ⟨7⟩ 1).isSome ∧
        u.ownership.tagsOf? ⟨7⟩ = t.ownership.tagsOf? ⟨7⟩ ∧
        (t.serve (.asking 8 Opcode.swapBuffers [1, 6])).result =
          .ok ({ Client.asking 8 Opcode.swapBuffers [1, 6] with errorValue := 1 },
            .error (.extension .badContextTag)) := by
  have hlead : (Server.new (.blank 1) () 4).Leads (sharedStart .marking) (sharedServer .marking) :=
    .of_run (by decide +kernel)
  have hreach : (sharedServer .marking).Reachable := hlead.reachable (.new _ _ _)
  -- the vendor looks at the client, but hands back the one that it was shown
  have hkeeps : (sharedServer .marking).registry.KeepsClient := by
    refine hlead.keepsClient Registry.keepsClient_empty ?_
    rintro op (_ | ⟨_, _ | ⟨_, _ | ⟨_, ⟨⟩⟩⟩⟩)
    · refine ⟨?_, (VendorInterface.keepsClient_obliging 0 (some 42)).makeCurrent⟩
      rintro handler ⟨⟩ c _
      rfl
    all_goals trivial
  have hseparates : (sharedServer .marking).Separates (fun _ => True) := by
    refine separates_sharedServer ⟨?_, ?_⟩ hlead rfl
    · rintro handler ⟨⟩ c
      exact .call rfl fun _ => .done rfl
    · rintro handler ⟨⟩ c q
      exact .done rfl
  have hops : ∀ op ∈ interleaved, op.tagClient? ≠ none := by decide +kernel
  have hrun : (sharedServer .marking).Leads interleaved _ := .of_run (by decide +kernel)
  obtain ⟨-, hown, hall⟩ := clients_do_not_interfere hreach hseparates hkeeps hops
  obtain ⟨u, hu⟩ := hown.mp ⟨_, hrun⟩ ⟨7⟩
  obtain ⟨hclient, hrefused⟩ := hall _ hrun
  refine ⟨hreach, hseparates, hkeeps, hops, _, u, hrun, hu, by decide +kernel,
    (hclient ⟨7⟩).2 u hu, ?_⟩
  rw [hrefused (by decide +kernel) (.asking 8 Opcode.swapBuffers [1, 6]) .swapBuffers 1
    (by decide +kernel) (by decide +kernel) (by decide) (by decide +kernel)]

/-! ### Clients that interfere -/

/-- Each client finds what it would find if its own operations were all there is. -/
def Server.KeepsApart (s : Server σ δ) (ops : List (Operation σ δ)) : Prop :=
  ∀ a, List.Forall₂ (Deed.SameTo a) (deedsOf a (s.run ops)) (s.run (operationsOf a ops)) ∧
    (s.after (s.run (operationsOf a ops))).ownership.tagsOf? a =
      (s.after (s.run ops)).ownership.tagsOf? a

/-- A vendor that breaks off when one client asks for something. -/
def VendorInterface.fragile : VendorInterface Unit Nat :=
  { obliging 0 none with
    handleRequest := some fun c => if c.id = ⟨7⟩ then .panic else .done (c, .ok ()) }

/-- Two clients bind the same context with drawables of their own. -/
def bindings : List (Operation Unit Nat) :=
  [.serve (.asking 8 Opcode.makeContextCurrent [0, 8, 9, 5]),
    .serve (.asking 7 Opcode.makeContextCurrent [0, 6, 7, 5])]

/-- Two clients swap the buffers of the same drawable. -/
def swaps : List (Operation Unit Nat) :=
  [.serve (.asking 7 Opcode.swapBuffers [0, 5]), .serve (.asking 8 Opcode.swapBuffers [0, 5])]

set_option maxRecDepth 8000 in
/-- A vendor that does the same for everybody, and hands back the same client to everybody, enters
the drawables of one client on the tag of the other. And a vendor that breaks off serving one client
leaves the other unserved. -/
theorem clients_interfere :
    ((sharedServer (.confused 0 none)).Reachable ∧
      (sharedServer (.confused 0 none)).Separates (fun _ => True) ∧
      (∀ op ∈ bindings, op.tagClient? ≠ none) ∧
      ¬ (sharedServer (.confused 0 none)).KeepsApart bindings) ∧
    (sharedServer .fragile).Reachable ∧ (sharedServer .fragile).Separates (fun _ => True) ∧
      (∀ op ∈ swaps, op.tagClient? ≠ none) ∧ ¬ (sharedServer .fragile).KeepsApart swaps := by
  have hconfused : (Server.new (.blank 1) () 4).Leads (sharedStart (.confused 0 none))
      (sharedServer (.confused 0 none)) := .of_run (by decide +kernel)
  have hfragile : (Server.new (.blank 1) () 4).Leads (sharedStart .fragile)
      (sharedServer .fragile) := .of_run (by decide +kernel)
  refine ⟨⟨hconfused.reachable (.new _ _ _), ?_, by decide +kernel, fun h => ?_⟩,
    hfragile.reachable (.new _ _ _), ?_, by decide +kernel, fun h => ?_⟩
  · refine separates_sharedServer ⟨?_, ?_⟩ hconfused rfl
    · rintro handler ⟨⟩ c
      exact .done rfl
    · rintro handler ⟨⟩ c q
      exact .done rfl
  · -- the tag that was bound by the one shows the drawables of the other
    have hentry := congrArg (Option.bind · fun table => table.lookup 1) (h ⟨8⟩).2
    exact absurd hentry (by decide +kernel)
  · refine separates_sharedServer ⟨?_, ?_⟩ hfragile rfl
    · rintro handler ⟨⟩ c
      -- whether it breaks off is decided by the request, not by the client
      dsimp only
      split_ifs
      · exact .panic
      · exact .done rfl
    · rintro handler ⟨⟩ c q
      exact .done rfl
  · -- alone, the other client is served once more
    exact absurd (h ⟨8⟩).1.length_eq (by decide +kernel)

end VendorDispatch
