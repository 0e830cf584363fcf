import VendorDispatch.Proofs.LookUp
import VendorDispatch.Proofs.Operation

/-!
What a failed request leaves behind.

The router answers a request by an error at many places, at some of them after it has recorded the
owner of a new resource or claimed a tag. Unless a vendor was handed the request, whatever was done
is undone.

* `Event.IsServing`: a vendor is handed the request, or asked to bind or to release.
* `Ownership.SameFor`: owners that differ by nothing but the room in the tag table of one client.
* `Exchange.Spares`: what the router alone does to an exchange that it answers by an error.
* `failed_request_is_atomic`: a request that fails without having reached a vendor leaves everything
  as it was, but the error value of its client and the room in the client's tag table.
-/

namespace VendorDispatch

variable {σ δ α β : Type}

/-! ### Serving calls -/

/-- A call by which a vendor serves a request, as opposed to one that asks it for a handler. -/
def Callback.Serves : Callback δ → Prop
  | request _ => True
  | procedure .. => True
  | makeCurrent .. => True
  | _ => False

/-- A vendor is called to serve a request. -/
def Event.IsServing : Event δ → Prop
  | .called _ _ callback => callback.Serves
  | _ => False

/-- A vendor was called to serve the request. -/
def HasServed (s : Session σ δ) : Prop := ∃ e ∈ s.journal, e.IsServing

/-- What has happened stays in the journal. -/
lemma HasServed.enter {s : Session σ δ} (h : HasServed s) (e : Event δ) :
    HasServed (s.enter e) := by
  obtain ⟨d, hd, hs⟩ := h
  exact ⟨d, List.mem_cons_of_mem e hd, hs⟩

lemma hasServed_call (s : Session σ δ) (v : VendorId) (initialized : Bool) (callback : Callback δ)
    (h : callback.Serves) : HasServed (s.enter (.called v initialized callback)) :=
  ⟨_, List.mem_cons_self, h⟩

/-- What has happened stays in the journal. -/
lemma stable_hasServed (env : Environment σ δ) : env.Stable HasServed :=
  env.stable_journal (P := fun journal => ∃ e ∈ journal, e.IsServing) fun e _ ⟨d, hd, hs⟩ =>
    ⟨d, List.mem_cons_of_mem e hd, hs⟩

/-! ### Owners that stay the same -/

/-- Resources, screens and tags are owned as before. Only the table of one client may have been
created or have grown. -/
structure Ownership.SameFor (client : ClientId) (o u : Ownership δ) : Prop where
  xids : u.xids = o.xids
  screens : u.screens = o.screens
  tags : ∀ d tag, u.lookupTag d tag = o.lookupTag d tag
  others : ∀ d, d ≠ client → u.tagsOf? d = o.tagsOf? d
  capacity : (o.tagsOf client).capacity ≤ (u.tagsOf client).capacity

namespace Ownership

variable {o u : Ownership δ} {client : ClientId} {vendor : VendorId} {tag : ContextTag}

lemma SameFor.refl (client : ClientId) (o : Ownership δ) : o.SameFor client o :=
  ⟨rfl, rfl, fun _ _ => rfl, fun _ _ => rfl, Nat.le_refl _⟩

/-- A tag that is free again at once leaves nothing behind but room. -/
lemma Numbered.sameFor_unclaim (h : o.Numbered)
    (ha : o.allocateTag? client vendor = some (tag, u)) :
    o.SameFor client (u.modifyTags client fun t => t.free tag) := by
  have hfresh := h.fresh_of_allocateTag? ha
  have hlook := h.lookupTag_allocateTag? ha
  rw [Ownership.allocateTag?, Option.map_eq_some_iff] at ha
  obtain ⟨⟨tag', t⟩, ht, he⟩ := ha
  cases he
  refine ⟨rfl, rfl, ?_, ?_, ?_⟩
  · intro d b
    rw [lookupTag_free, hlook]
    split_ifs with hb
    · rw [hb.1, hb.2, hfresh.2]
    · rfl
  · intro d hd
    rw [tagsOf?_modifyTags_of_ne _ hd, tagsOf?_setTags, if_neg hd]
  · rw [tagsOf_modifyTags, if_pos rfl, TagTable.capacity_free, tagsOf_setTags, if_pos rfl]
    exact TagTable.capacity_le_of_allocate? ht

end Ownership

/-! ### Failing cleanly -/

/-- The client is the same but for its error value, and the owners are the same but for the room in
the client's table. -/
structure Exchange.Spares (x y : Exchange σ δ) : Prop where
  client : ∃ v, y.client = { x.client with errorValue := v }
  ownership : x.session.ownership.SameFor x.client.id y.session.ownership

/-- A request that is answered by an error has reached a vendor, or has left the exchange alone. -/
def CleanFault (x : Exchange σ δ) : Fault → Exchange σ δ → Prop
  | .error _, y => HasServed y.session ∨ x.Spares y
  | .abort _, _ => True

/-- Work that fails cleanly. -/
def FailsCleanly (work : ExchangeM σ δ α) : Prop :=
  ∀ x, x.session.ownership.Numbered → Ends work x (fun _ _ => True) (CleanFault x)

section Clean

variable {x y : Exchange σ δ}

lemma Exchange.Spares.refl (x : Exchange σ δ) : x.Spares x :=
  ⟨⟨x.client.errorValue, rfl⟩, .refl _ _⟩

lemma Exchange.Agrees.spares (h : x.Agrees y) : x.Spares y where
  client := ⟨x.client.errorValue, h.client⟩
  ownership := by
    rw [h.ownership]
    exact .refl _ _

/-- A request that is declined fails cleanly. -/
lemma Exchange.Declines.clean {f : Fault} (h : x.Declines f y) : CleanFault x f y := by
  cases f with
  | error e =>
      obtain ⟨z, v, hz, rfl⟩ := h
      exact .inr ⟨⟨v, by rw [Exchange.client_withClient, hz.client]⟩, hz.spares.ownership⟩
  | abort a => trivial

/-- A clean fault of what comes later is one of the whole. -/
lemma Exchange.Agrees.cleanFault (h : x.Agrees y) {f : Fault} {z : Exchange σ δ}
    (hz : CleanFault y f z) : CleanFault x f z := by
  cases f with
  | abort a => trivial
  | error e =>
      refine Or.imp_right (fun hs => ?_) hz
      have hc := hs.client
      have ho := hs.ownership
      rw [h.client] at hc ho
      rw [h.ownership] at ho
      exact ⟨hc, ho⟩

/-- Looking things up first does not spoil what fails cleanly. -/
lemma LooksUp.failsCleanly {P : Exchange σ δ → β → Prop} {work : ExchangeM σ δ β}
    {f : β → ExchangeM σ δ α} (h : LooksUp P work) (hf : ∀ b, FailsCleanly (f b)) :
    FailsCleanly (work >>= f) := fun _ hx =>
  h.before (fun _ _ hy => hy.clean) fun b y hy _ =>
    (hf b y (hy.ownership ▸ hx)).mono (fun _ _ => id) fun _ _ => hy.cleanFault

end Clean

/-! ### Requests that are handed on -/

section Forwarding

variable {env : Environment σ δ}

/-- A request that is handed on reaches its vendor, or the vendor is not there to serve it. -/
lemma ends_forward {x : Exchange σ δ} (v : VendorId) :
    Ends (Forwarding.forward env v) x (fun _ y => HasServed y.session) fun f y =>
      HasServed y.session ∨ f = .error .badImplementation ∧ y = x := by
  refine ends_onClient.mpr ?_
  rw [Environment.forward, Environment.serveWith]
  cases hh : env.requestHandler? v with
  | none => exact .inr ⟨rfl, rfl⟩
  | some handler =>
      have hk := (stable_hasServed env).kept.upheld
      have hcalled := hasServed_call x.session v (env.registry.isInitialized v)
        (.request x.client) trivial
      refine (ends_calling (.request x.client)).mpr
        ((hk.interpret (handler x.client) _ hcalled).mono ?_ fun _ _ => .inl)
      rintro ⟨c, _ | _⟩ s hs
      · exact .inl (hs.enter _)
      · exact hs.enter _

/-- A request that is handed on fails before the vendor is called, or has been served. -/
lemma failsCleanly_forward (v : VendorId) : FailsCleanly (Forwarding.forward env v) := by
  intro x _
  refine (ends_forward v).mono (fun _ _ _ => trivial) ?_
  rintro f y (hy | ⟨rfl, rfl⟩)
  · cases f with
    | error e => exact .inl hy
    | abort a => trivial
  · exact .inr (.refl _)

lemma failsCleanly_single : FailsCleanly (Forwarding.single env) :=
  (looksUp_readWord 4).failsCleanly fun tag =>
    (looksUp_tagVendor tag).failsCleanly failsCleanly_forward

lemma failsCleanly_copyContext : FailsCleanly (Forwarding.copyContext env) := by
  refine (looksUp_readWord 4).failsCleanly fun source =>
    (looksUp_readWord 16).failsCleanly fun tag => ?_
  split_ifs
  · exact (looksUp_tagVendor tag).failsCleanly failsCleanly_forward
  · exact (looksUp_xidVendor source _).failsCleanly failsCleanly_forward

lemma failsCleanly_swapBuffers : FailsCleanly (Forwarding.swapBuffers env) := by
  refine (looksUp_readWord 4).failsCleanly fun tag =>
    (looksUp_readWord 8).failsCleanly fun drawable => ?_
  split_ifs
  · exact (looksUp_tagVendor tag).failsCleanly failsCleanly_forward
  · exact (looksUp_xidVendor drawable _).failsCleanly failsCleanly_forward

/-- Showing a request to every active vendor is not answered by an error. -/
lemma ends_broadcastTo (sent : List UInt8) (vendors : List VendorId) (x : Exchange σ δ) :
    Ends (Forwarding.broadcastTo env sent vendors) x (fun _ _ => True)
      fun f _ => ∃ a, f = .abort a := by
  induction vendors generalizing x with
  | nil => trivial
  | cons v rest ih =>
      refine ends_bind.mpr (ends_discard.mpr (ends_attempt.mpr ?_))
      refine (ends_forward v).mono (fun _ y _ => ends_bind.mpr (ih _)) fun f y _ => ?_
      cases f with
      | error e => exact ends_bind.mpr (ih _)
      | abort a => exact ⟨a, rfl⟩

lemma failsCleanly_broadcast : FailsCleanly (Forwarding.broadcast env) := by
  refine looksUp_client.failsCleanly fun c x _ => (ends_broadcastTo _ _ x).mono (fun _ _ => id) ?_
  rintro f y ⟨a, rfl⟩
  trivial

/-- A new resource is forgotten again when its owner cannot be reached. -/
lemma failsCleanly_routed (r : RoutedRequest) : FailsCleanly (r.serve env) := by
  intro x _
  refine ends_routed (fun _ _ h => h.clean) fun v y z hy _ hz => ?_
  refine (ends_forward v).mono (fun _ _ _ => trivial) ?_
  rintro (e | a) w (hw | ⟨-, rfl⟩)
  · left
    cases r.created? x.client <;> exact hw
  · right
    rw [hz.forget]
    exact hy.spares
  · trivial
  · trivial

end Forwarding

/-! ### Switching contexts -/

section Switching

open MakeCurrent

variable {env : Environment σ δ} {x : Exchange σ δ}

/-- Looking for the owner of the new context is asking questions. -/
lemma Exchange.agrees_sought (x : Exchange σ δ) (q : Switch) :
    x.Agrees (x.withSession (q.sought x.session)) := by
  rw [Switch.sought]
  split_ifs
  · exact .refl x
  · exact x.agrees_lookedUp _

/-- A tag that was claimed for a vendor which cannot be asked is free again. -/
lemma bind_failsCleanly (v : VendorId) (q : Switch) : FailsCleanly (bind env v q) := by
  intro x hx
  have hs := (stable_hasServed env).switchable
  refine ends_bindTag Environment.handsBack_any (fun _ => hs.upheld) (fun tag o _ _ => ?_) ?_ ?_ ?_
    (fun _ => trivial) fun _ _ _ _ => trivial
  · exact hasServed_call _ v _ (.makeCurrent x.client (q.toBind tag)) trivial
  · exact fun _ _ _ _ _ _ => trivial
  · exact fun tag s c e h _ => .inl (h.enter _)
  · intro tag o ho _
    exact .inr ⟨⟨x.client.errorValue, rfl⟩, hx.sameFor_unclaim ho⟩

/-- The owner of the old tag is asked to release it, unless it cannot be asked. -/
lemma release_failsCleanly {old : TagInfo δ} (hold : old.owner.isSome) :
    Ends (release env old) x (fun _ y => HasServed y.session) (CleanFault x) := by
  have hs := (stable_hasServed env).switchable
  obtain ⟨v, hv⟩ := Option.isSome_iff_exists.mp hold
  refine ends_release Environment.handsBack_any hs.upheld hv (fun _ => ?_) ?_ ?_ ?_
    fun _ _ _ => trivial
  · exact hasServed_call _ v _ (.makeCurrent x.client old.toRelease) trivial
  · exact fun s c data h _ => h.enter _
  · exact fun s c e h _ => .inl (h.enter _)
  · exact fun _ => .inr (.refl _)

/-- The vendors of a switch fail after one of them was asked, or nothing has changed. -/
lemma switchTo_failsCleanly {q : Switch} {old : Option (TagInfo δ)} (vendor : Option VendorId)
    (hold : ∀ e, old = some e → e.owner.isSome) (hx : x.session.ownership.Numbered) :
    Ends (switchTo env q old vendor) x (fun _ _ => True) (CleanFault x) := by
  -- Between the two vendors, the old owner has been asked or nothing has happened yet.
  refine ends_switchTo (M := fun y => HasServed y.session ∨ y = x) (fun _ => .inr rfl)
    (fun e he => (release_failsCleanly (hold e he)).mono (fun _ _ => .inl) fun _ _ => id)
    (fun _ _ _ => trivial) fun v _ y hy => ?_
  rcases hy with hy | rfl
  · refine ((stable_hasServed env).switchable.bindTag v q y hy).mono (fun _ _ _ => trivial) ?_
    rintro (e | a) z hz
    · exact .inl hz
    · trivial
  · exact bind_failsCleanly v q y hx

lemma failsCleanly_makeCurrent (encoding : Encoding) :
    FailsCleanly (MakeCurrent.serve env encoding) := by
  intro x hx
  have hreply : ∀ (tag : ContextTag) (y : Exchange σ δ),
      Ends (ExchangeM.sendReply [(8, tag)]) y (fun _ _ => True) (CleanFault x) :=
    fun tag y => ends_replyTag fun _ _ => trivial
  rw [MakeCurrent.serve, ends_bind, ends_read]
  cases hq : decode x.client encoding with
  | error e => exact .inr (.refl _)
  | ok q =>
      have hsought := x.agrees_sought q
      refine ends_switch rfl ?_ ?_ (fun e _ _ _ _ => hreply e.tag _) fun _ _ _ => ?_
      · exact fun _ _ => ((Exchange.Agrees.refl x).declines_at q.oldTag).clean
      · exact fun _ _ => (hsought.declines_at q.context).clean
      · exact (switchTo_failsCleanly _ (fun _ => Ownership.isSome_owner_of_lookupTag)
          (hsought.ownership ▸ hx)).mono (fun tag y _ => hreply tag y) fun _ _ => hsought.cleanFault

end Switching

/-! ### Every request -/

/-- The service of every target fails cleanly. -/
lemma Target.failsCleanly (env : Environment σ δ) (t : Target σ δ) :
    FailsCleanly (t.serve env) := by
  cases t with
  | version =>
      intro x _
      refine ends_sendReply.mpr ?_
      split <;> trivial
  | makeCurrent encoding => exact failsCleanly_makeCurrent encoding
  | copyContext => exact failsCleanly_copyContext
  | swapBuffers => exact failsCleanly_swapBuffers
  | clientInfo => exact failsCleanly_broadcast
  | single => exact failsCleanly_single
  | routed r => exact failsCleanly_routed r
  -- a procedure of a vendor that fails has served the request before
  | procedure p =>
      intro x _
      have hcalled := hasServed_call x.session p.vendor (env.registry.isInitialized p.vendor)
        (.procedure p.minor p.code x.client) trivial
      refine ends_onClient.mpr ((ends_calling (.procedure p.minor p.code x.client)).mpr ?_)
      refine ((stable_hasServed env).kept.upheld.interpret (p.run x.client) _ hcalled).mono ?_
        fun _ _ _ => trivial
      rintro ⟨c, e | _⟩ s hs
      · exact .inl (hs.enter _)
      · trivial
  | unclaimed => exact fun x _ => .inr (.refl x)

/-- A request that fails without having reached a vendor leaves the vendors, the owners, the request
and the replies alone: nothing differs but the error value of the client, what the dispatcher has
learned, and the room in the client's table of tags. -/
theorem failed_request_is_atomic {s : Server σ δ} (hs : s.Reachable) {c d : Client}
    {e : ProtocolError} (hfail : (s.serve c).result = .ok (d, .error e))
    (hquiet : ∀ ev ∈ (s.serve c).journal, ¬ ev.IsServing) :
    s.SameVendors (s.serve c).server ∧
      s.ownership.SameFor c.id (s.serve c).server.ownership ∧
      ∃ v, d = { c with errorValue := v } := by
  have hsound := Server.Reachable.of_kept Server.sound_new (fun _ op _ h _ => h.apply op) hs
  refine ⟨s.serve_sameVendors c, ?_⟩
  have hserve : (s.serve c).Leaves
      (fun r t => ∀ e, r.2 = .error e → HasServed t ∨
        s.ownership.SameFor c.id t.ownership ∧ ∃ v, r.1 = { c with errorValue := v })
      fun _ _ => True := by
    refine hsound.serve_leaves (s.environment.surveyed_ownership s.ownership) rfl ?_
      (fun _ _ _ => trivial) fun target u _ _ hu => ?_
    · -- resolution fails, and has changed no owner
      intro e u hu _ _
      rw [hu]
      exact .inr ⟨.refl _ _, c.errorValue, rfl⟩
    · -- the target fails, after a vendor served the request or without a trace
      have hnum : u.ownership.Numbered := by
        rw [hu]
        exact hsound.ownership.tags
      refine (target.failsCleanly s.environment ⟨c, u⟩ hnum).mono (fun _ _ _ e he => by cases he) ?_
      rintro (e | a) y hy
      · intro _ _
        refine Or.imp_right (fun h => ⟨?_, h.client⟩) hy
        rw [← hu]
        exact h.ownership
      · trivial
  rw [Step.Leaves, hfail] at hserve
  rcases hserve e rfl with ⟨ev, hev, hserving⟩ | h
  · exact (hquiet ev (List.mem_reverse.mp hev) hserving).elim
  · exact h

/-! ### A vendor that cannot bind -/

/-- A vendor without a callback to bind contexts takes no part in a generation, but it can still be
made the owner of a context. -/
def VendorInterface.unbinding : VendorInterface Unit Nat :=
  { obliging 0 none with makeCurrent := none }

/-- A generation in which that vendor owns a context. -/
def unboundStart : List (Operation Unit Nat) :=
  [.createVendor .unbinding, .beginGeneration .sample,
    .perform (.call (.addXid 5 ⟨0⟩) fun _ => .done ())]

/-- The router of that generation. -/
def unboundServer : Server Unit Nat :=
  (Server.new (.blank 1) () 4).after ((Server.new (.blank 1) () 4).run unboundStart)

/-- A client asks to bind that context. -/
def askingUnbound : Client := .asking 7 Opcode.makeContextCurrent [0, 6, 7, 5]

/-- The tag that was claimed for the vendor is free again, and the client has a table. -/
theorem failed_request_is_atomic_unbound :
    unboundServer.Reachable ∧
      (unboundServer.serve askingUnbound).result = .ok (askingUnbound, .error .badImplementation) ∧
      ((unboundServer.serve askingUnbound).server.ownership.tagsOf? ⟨7⟩).isSome ∧
      unboundServer.ownership.SameFor ⟨7⟩
        (unboundServer.serve askingUnbound).server.ownership := by
  have hlead : (Server.new (.blank 1) () 4).Leads unboundStart unboundServer :=
    .of_run (by decide +kernel)
  have hreach : unboundServer.Reachable := hlead.reachable (.new _ _ _)
  have hfail : (unboundServer.serve askingUnbound).result =
      .ok (askingUnbound, .error .badImplementation) := by decide +kernel
  have hquiet : ∀ e ∈ (unboundServer.serve askingUnbound).journal, ¬ e.IsServing := by
    have hnone : (unboundServer.serve askingUnbound).journal.isEmpty := by decide +kernel
    rw [List.isEmpty_iff.mp hnone]
    exact List.forall_mem_nil _
  exact ⟨hreach, hfail, by decide +kernel, (failed_request_is_atomic hreach hfail hquiet).2.1⟩

end VendorDispatch
