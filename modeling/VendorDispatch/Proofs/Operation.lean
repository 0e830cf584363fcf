import VendorDispatch.Proofs.Registry
import VendorDispatch.Proofs.Switching
import VendorDispatch.Router.History

/-!
Invariants of the router, operation by operation.

* `Step.Leaves`: what an operation returns and the session that it leaves, or what it leaves when it
  is broken off.
* `Server.Sound`: what holds of every router that operations lead to (`Sound.apply`).
* `Sound.serve_leaves`, `initVendors_keeps`, `closeVendors_keeps`: the operations that call vendors.
-/

namespace VendorDispatch

variable {σ δ α : Type}

/-! ### Work as an operation -/

/-- The session that an operation left. -/
def Step.session (step : Step σ δ α) : Session σ δ where
  world := step.server.world
  ownership := step.server.ownership
  journal := step.journal.reverse

/-- The operation returns a value and leaves a session with `post`, or it is broken off and leaves
one with `fault`. -/
def Step.Leaves (step : Step σ δ α) (post : α → Session σ δ → Prop)
    (fault : Abort → Session σ δ → Prop) : Prop :=
  match step.result with
  | .ok a => post a step.session
  | .error e => fault e step.session

/-- An invariant of the session after an operation, whether or not it was broken off. -/
lemma Step.Leaves.session {step : Step σ δ α} {I : Session σ δ → Prop}
    (h : step.Leaves (fun _ => I) fun _ => I) : I step.session := by
  rw [Step.Leaves] at h
  cases hr : step.result <;> rw [hr] at h <;> exact h

/-- The outcome of a request, told by the exchange at its end. -/
def Answers (post : Client × Except ProtocolError Unit → Session σ δ → Prop)
    (fault : Abort → Session σ δ → Prop) : Fault → Exchange σ δ → Prop
  | .error e, x => post (x.client, .error e) x.session
  | .abort a, x => fault a x.session

/-- Two routers with the same vendors and the same surroundings, between the same operations. -/
structure Server.SameVendors (s t : Server σ δ) : Prop where
  host : t.host = s.host
  registry : t.registry = s.registry
  extension : t.extension = s.extension
  nestingLimit : t.nestingLimit = s.nestingLimit

namespace Server.SameVendors

variable {σ δ : Type} {s t u : Server σ δ}

lemma refl (s : Server σ δ) : s.SameVendors s := ⟨rfl, rfl, rfl, rfl⟩

lemma symm (h : s.SameVendors t) : t.SameVendors s :=
  ⟨h.host.symm, h.registry.symm, h.extension.symm, h.nestingLimit.symm⟩

lemma trans (h : s.SameVendors t) (h' : t.SameVendors u) : s.SameVendors u :=
  ⟨h'.host.trans h.host, h'.registry.trans h.registry, h'.extension.trans h.extension,
    h'.nestingLimit.trans h.nestingLimit⟩

end Server.SameVendors

/-- The handle that an operation gave out. -/
def Deed.handle? : Deed σ δ → Option VendorId
  | ⟨.createVendor _, step⟩ =>
    match (step.result : Except Abort (Except Error VendorId)) with
    | .ok (.ok id) => some id
    | _ => none
  | _ => none

/-- A vendor that the operation registers leaves the id of a client alone. -/
def Operation.KeepsClient : Operation σ δ → Prop
  | createVendor i => i.KeepsClient
  | _ => True

namespace Server

variable {s : Server σ δ}

section RunSession

variable {work : SessionM σ δ α} {post : α → Session σ δ → Prop}
  {fault : Abort → Session σ δ → Prop}

/-- What work on a session ends with is what it leaves. -/
lemma runSession_leaves (h : Ends work s.session post fault) :
    (s.runSession work).Leaves post fault := by
  rw [Ends] at h
  rw [runSession, Step.Leaves]
  cases hw : work s.session <;> rw [hw] at h <;> simpa [Step.session, withSession] using h

/-- Work on a session changes no vendor. -/
lemma runSession_sameVendors (s : Server σ δ) (work : SessionM σ δ α) :
    s.SameVendors (s.runSession work).server := by
  rw [runSession]
  cases work s.session <;> exact ⟨rfl, rfl, rfl, rfl⟩

lemma runSession_dispatcher (s : Server σ δ) (work : SessionM σ δ α) :
    (s.runSession work).server.dispatcher = s.dispatcher := by
  rw [runSession]
  cases work s.session <;> rfl

end RunSession

end Server

/-! ### What is true of every router -/

/-- Who owns what, and who may: tables are numbered, and screens belong to initialized vendors. -/
structure Ownership.Sound (r : Registry σ δ) (o : Ownership δ) : Prop where
  tags : o.Numbered
  screens : ∀ i v, o.screenVendor i = some v → r.isInitialized v = true

lemma Ownership.sound_vacant (r : Registry σ δ) (screenCount : Nat) :
    (vacant screenCount : Ownership δ).Sound r where
  tags := numbered_vacant screenCount
  screens i v h := by
    rw [screenVendor_vacant] at h
    cases h

lemma Ownership.screenVendor_addXid (o : Ownership δ) (id : Xid) (v : VendorId) (i : Nat) :
    (o.addXid id v).2.screenVendor i = o.screenVendor i := by
  rw [addXid]
  split_ifs <;> rfl

lemma Ownership.screenVendor_allocateTag? {o u : Ownership δ} {client : ClientId} {v : VendorId}
    {tag : ContextTag} (h : o.allocateTag? client v = some (tag, u)) (i : Nat) :
    u.screenVendor i = o.screenVendor i := by
  rw [allocateTag?, Option.map_eq_some_iff] at h
  obtain ⟨⟨tag', t⟩, -, he⟩ := h
  cases he
  rfl

lemma Ownership.Sound.allocateTag? {r : Registry σ δ} {o u : Ownership δ} (h : o.Sound r)
    {client : ClientId} {v : VendorId} {tag : ContextTag}
    (ho : o.allocateTag? client v = some (tag, u)) : u.Sound r where
  tags := h.tags.allocateTag? ho
  screens i w hi := by
    rw [screenVendor_allocateTag? ho] at hi
    exact h.screens i w hi

lemma Ownership.Sound.modifyTags {r : Registry σ δ} {o : Ownership δ} (h : o.Sound r)
    {client : ClientId} {f : TagTable δ → TagTable δ} (hf : ∀ t, t.Numbered → (f t).Numbered) :
    (o.modifyTags client f).Sound r :=
  ⟨h.tags.modifyTags hf, h.screens⟩

/-- Neither vendors nor switches can upset it. -/
lemma stable_sound (env : Environment σ δ) :
    env.Stable fun s => s.ownership.Sound env.registry where
  kept :=
    { withWorld := fun _ _ h => h
      enter := fun _ _ _ h => h
      setScreenVendor := by
        intro s screen vendor o hv ho h
        refine ⟨(kept_numbered env).setScreenVendor s screen vendor o hv ho h.tags, ?_⟩
        intro i v hi
        rw [Session.ownership_withOwnership, Ownership.screenVendor_setScreenVendor? ho] at hi
        split_ifs at hi
        · -- a screen is assigned to vendors that are initialized
          cases hi
          exact hv
        · exact h.screens i v hi
      -- owners of resources are no part of it
      addXid := by
        intro s id vendor hv h
        refine ⟨(kept_numbered env).addXid s id vendor hv h.tags, ?_⟩
        intro i v hi
        rw [Session.ownership_withOwnership, Ownership.screenVendor_addXid] at hi
        exact h.screens i v hi
      removeXid := fun _ _ h => ⟨h.tags, h.screens⟩
      tagVendor := fun _ _ _ h => h
      tagData := fun _ _ _ _ h => h
      setTagData := fun s client tag vendor data ho h =>
        ⟨(kept_numbered env).setTagData s client tag vendor data ho h.tags, h.screens⟩
      touchTags := fun s client tag vendor data ho h =>
        ⟨(kept_numbered env).touchTags s client tag vendor data ho h.tags, h.screens⟩ }
  asked _ _ _ _ _ h := h
  answered _ _ _ _ _ h := h
  claim s client v tag o _ ho h := h.allocateTag? ho
  -- entries come and go under their own number
  unclaim s client v tag o ho h := (h.allocateTag? ho).modifyTags fun _ ht => ht.free _
  free _ _ _ h := h.modifyTags fun _ ht => ht.free _
  bound _ _ tag q data h := h.modifyTags fun _ ht => ht.modify tag (f := q.bound data) fun _ => rfl

/-- What is true of every router: active vendors are initialized, the dispatcher knows what it
should, and there are no tags between generations. -/
structure Server.Sound (s : Server σ δ) : Prop where
  ownership : s.ownership.Sound s.registry
  active : ∀ v ∈ s.registry.active, s.registry.isInitialized v = true
  dispatcher : s.dispatcher.Sound s.registry
  idle : s.extension = none → ∀ client tag, s.ownership.lookupTag client tag = none

namespace Server

variable {s : Server σ δ}

/-! ### Requests -/

section Serve

variable {c : Client} {post : Client × Except ProtocolError Unit → Session σ δ → Prop}
  {fault : Abort → Session σ δ → Prop}

/-- Serving a request changes no vendor. -/
lemma serve_sameVendors (s : Server σ δ) (c : Client) : s.SameVendors (s.serve c).server := by
  rw [serve]
  cases s.extension with
  | none => exact ⟨rfl, rfl, rfl, rfl⟩
  | some entry =>
      rcases s.dispatcher.resolve s.environment c s.session with ⟨⟨_ | target, d⟩, t⟩ | ⟨a, t⟩
      · exact ⟨rfl, rfl, rfl, rfl⟩
      · dsimp only
        rcases target.serve s.environment ⟨c, t⟩ with ⟨_, x⟩ | ⟨_ | _, x⟩ <;>
          exact ⟨rfl, rfl, rfl, rfl⟩
      · exact ⟨rfl, rfl, rfl, rfl⟩

/-- What the service of a target leaves, after the request was resolved to it. -/
lemma serve_leaves_of_resolve {entry : ExtensionEntry} (he : s.extension = some entry)
    {target : Target σ δ} {d : Dispatcher σ δ} {t : Session σ δ}
    (hr : s.dispatcher.resolve s.environment c s.session = .ok (.ok target, d) t)
    (h : Ends (target.serve s.environment) ⟨c, t⟩ (fun _ x => post (x.client, .ok ()) x.session)
      (Answers post fault)) :
    (s.serve c).Leaves post fault := by
  rw [Ends] at h
  rw [serve, he]
  simp only [hr]
  rcases hx : target.serve s.environment ⟨c, t⟩ with ⟨_, x⟩ | ⟨e | a, x⟩ <;> rw [hx] at h <;>
    simpa [Step.Leaves, Step.session, withSession, Answers, Except.map] using h

/-- What serving a request leaves, from what the service of each suitable target leaves. Finding the
target keeps the invariant. -/
lemma Sound.serve_leaves (hs : s.Sound) {I : Session σ δ → Prop}
    (hI : s.environment.Surveyed I) (h0 : I s.session) (hearly : ∀ e u, I u → post (c, .error e) u)
    (habort : ∀ a u, I u → fault a u)
    (hserve : ∀ (target : Target σ δ) u, s.extension ≠ none → target.Suits s.registry c → I u →
      Ends (target.serve s.environment) ⟨c, u⟩ (fun _ x => post (x.client, .ok ()) x.session)
        (Answers post fault)) :
    (s.serve c).Leaves post fault := by
  cases he : s.extension with
  | none =>
      rw [serve, he]
      exact hearly _ _ h0
  | some entry =>
      -- finding the target may ask vendors, and may be broken off
      have hres := hs.dispatcher.resolve hI hs.active c h0
      rw [Ends] at hres
      rcases hr : s.dispatcher.resolve s.environment c s.session with ⟨⟨e | target, d⟩, t⟩ | ⟨a, t⟩
      · rw [hr] at hres
        rw [serve, he]
        simp only [hr]
        simpa [Step.Leaves, Step.session, withSession] using hearly e t hres.1
      · rw [hr] at hres
        have hne : s.extension ≠ none := by
          rw [he]
          exact Option.some_ne_none entry
        exact serve_leaves_of_resolve he hr (hserve target t hne (hres.2.2 target rfl) hres.1)
      · rw [hr] at hres
        rw [serve, he]
        simp only [hr]
        simpa [Step.Leaves, Step.session, withSession] using habort a t hres

/-- What a request to make a context current leaves. Nobody is asked who serves it. -/
lemma Sound.serve_leaves_of_makeCurrentEncoding? (hs : s.Sound) (he : s.extension ≠ none)
    {encoding : MakeCurrent.Encoding} (hc : c.makeCurrentEncoding? = some encoding)
    (h : Ends (MakeCurrent.serve s.environment encoding) ⟨c, s.session⟩
      (fun _ x => post (x.client, .ok ()) x.session) (Answers post fault)) :
    (s.serve c).Leaves post fault := by
  obtain ⟨entry, he⟩ := Option.ne_none_iff_exists'.mp he
  exact serve_leaves_of_resolve he (hs.dispatcher.resolve_of_makeCurrentEncoding? hc s.session) h

/-- What a routed request leaves. Nobody is asked who serves it. -/
lemma Sound.serve_leaves_of_routed (hs : s.Sound) (he : s.extension ≠ none) {r : RoutedRequest}
    (hr : r ∈ routedRequests) (hm : c.minorOpcode = .ok r.opcode)
    (h : Ends (r.serve s.environment) ⟨c, s.session⟩
      (fun _ x => post (x.client, .ok ()) x.session) (Answers post fault)) :
    (s.serve c).Leaves post fault := by
  obtain ⟨entry, he⟩ := Option.ne_none_iff_exists'.mp he
  have hpreset : (r.opcode, .target (.routed r)) ∈ (Dispatcher.preset (σ := σ) (δ := δ)) :=
    Dispatcher.routed_mem_preset.mpr ⟨hr, rfl⟩
  have hlt : ∀ q ∈ routedRequests, q.opcode.toNat < opcodeCount := by decide
  exact serve_leaves_of_resolve he
    (hs.dispatcher.resolve_of_preset hm (hlt r hr) hpreset s.session) h

lemma Sound.serve_dispatcher (hs : s.Sound) (c : Client) :
    (s.serve c).server.dispatcher.Sound s.registry := by
  have hI := (s.environment.kept_const True).upheld.surveyed
  rw [serve]
  cases s.extension with
  | none => exact hs.dispatcher
  | some entry =>
      have hres := hs.dispatcher.resolve hI hs.active c (s := s.session) trivial
      rw [Ends] at hres
      rcases hr : s.dispatcher.resolve s.environment c s.session with ⟨⟨_ | target, d⟩, t⟩ | ⟨a, t⟩
      · rw [hr] at hres
        exact hres.2.1
      · rw [hr] at hres
        dsimp only
        rcases target.serve s.environment ⟨c, t⟩ with ⟨_, x⟩ | ⟨_ | _, x⟩ <;> exact hres.2.1
      · exact hs.dispatcher

/-- Serving a request keeps every invariant that vendors keep, if making a context current does. -/
lemma Sound.serve_keeps_of_switch (hs : s.Sound) {I : Session σ δ → Prop}
    (hI : s.environment.Kept I) (h0 : I s.session)
    (hm : ∀ encoding, s.extension ≠ none → c.makeCurrentEncoding? = some encoding →
      Keeps (OnSession I) (MakeCurrent.serve s.environment encoding)) :
    I (s.serve c).session := by
  refine Step.Leaves.session (hs.serve_leaves hI.upheld.surveyed h0 (fun _ _ => id) (fun _ _ => id) ?_)
  intro target u he ht hu
  have hkeep : Keeps (OnSession I) (target.serve s.environment) :=
    hI.serve (fun encoding htarget => hm encoding he (ht.makeCurrent encoding htarget)) ht.procedure
  refine (hkeep ⟨c, u⟩ hu).mono (fun _ _ => id) ?_
  rintro (e | a) x hx <;> exact hx

/-- Serving a request keeps every invariant that switching contexts keeps. -/
lemma Sound.serve_keeps (hs : s.Sound) {I : Session σ δ → Prop} (hI : s.environment.Stable I)
    (h0 : I s.session) (c : Client) : I (s.serve c).session :=
  hs.serve_keeps_of_switch hI.kept h0 fun encoding _ _ => hI.switchable.serve encoding

/-- Serving a request that is not routed keeps every invariant that switching contexts keeps. -/
lemma Sound.serve_keeps_of_unrouted (hs : s.Sound) {I : Session σ δ → Prop}
    (hI : s.environment.Switchable I) (h0 : I s.session)
    (hc : s.extension ≠ none → ∀ r ∈ routedRequests, c.minorOpcode ≠ .ok r.opcode) :
    I (s.serve c).session := by
  refine Step.Leaves.session (hs.serve_leaves hI.upheld.surveyed h0 (fun _ _ => id)
    (fun _ _ => id) ?_)
  intro target u he ht hu
  have hkeep : Keeps (OnSession I) (target.serve s.environment) :=
    hI.upheld.serve (fun encoding _ => hI.serve encoding) ht.procedure fun r hr =>
      ((hc he r (ht.routed r hr).1) (ht.routed r hr).2).elim
  refine (hkeep ⟨c, u⟩ hu).mono (fun _ _ => id) ?_
  rintro (e | a) x hx <;> exact hx

/-- Serving a request that is not to make a context current keeps every invariant that vendors
keep. -/
lemma Sound.serve_keeps_of_other (hs : s.Sound) {I : Session σ δ → Prop}
    (hI : s.environment.Kept I) (h0 : I s.session)
    (hc : ¬ (s.extension ≠ none ∧ ∃ encoding, c.makeCurrentEncoding? = some encoding)) :
    I (s.serve c).session :=
  hs.serve_keeps_of_switch hI h0 fun encoding he henc => (hc ⟨he, encoding, henc⟩).elim

end Serve

/-- A program on behalf of a vendor keeps every invariant. -/
lemma perform_upholds {I : Session σ δ → Prop} (hI : s.environment.Upheld I) (h0 : I s.session)
    (p : Program σ δ α) : I (s.perform p).session :=
  (runSession_leaves (hI.interpret p s.session h0)).session

/-- What a vendor does on its own keeps what no vendor can upset. -/
lemma perform_keeps {I : Session σ δ → Prop} (hI : s.environment.Kept I) (h0 : I s.session)
    (p : Program σ δ α) : I (s.perform p).session :=
  perform_upholds hI.upheld h0 p

/-! ### The start of a generation -/

lemma keeps_initVendor {env : Environment σ δ} {I : Session σ δ → Prop} (hI : env.Upheld I)
    (entry : ExtensionEntry) {v : VendorId} (hv : env.registry.isInitialized v = true) :
    Keeps I (initVendor env entry v) := by
  rw [initVendor]
  cases (env.registry.interface? v).bind VendorInterface.init with
  | none => exact .pure _
  | some init => exact hI.calling (.init entry) hv trivial (hI.interpret _)

section Init

variable {I : Registry σ δ → Ownership δ → List (Event δ) → Prop}
  (hkept : ∀ (s : Server σ δ) journal,
    s.environment.Upheld fun t => I s.registry t.ownership (journal ++ t.journal.reverse))
  (hdemote : ∀ r o journal v, I r o journal → I (r.demote v) (o.unassignScreens v) journal)

include hkept hdemote

/-- Initializing vendors keeps an invariant of the vendors, the owners and the journal so far. -/
lemma initVendors_keeps (entry : ExtensionEntry) {vendors : List VendorId} (hn : vendors.Nodup)
    {s : Server σ δ} (hv : ∀ v ∈ vendors, s.registry.isInitialized v = true)
    {journal : List (Event δ)} (h0 : I s.registry s.ownership journal) :
    I (initVendors entry vendors s journal).server.registry
      (initVendors entry vendors s journal).server.ownership
      (initVendors entry vendors s journal).journal := by
  induction vendors generalizing s journal with
  | nil => exact h0
  | cons v rest ih =>
      obtain ⟨hvr, hn⟩ := List.nodup_cons.mp hn
      have hstart : I s.registry s.session.ownership (journal ++ s.session.journal.reverse) := by
        rw [session, List.reverse_nil, List.append_nil]
        exact h0
      -- the first vendor is initialized on top of the journal so far
      have hwork := keeps_initVendor (hkept s journal) entry (hv v List.mem_cons_self) _ hstart
      have hsame := s.runSession_sameVendors (initVendor s.environment entry v)
      have hstep := (runSession_leaves hwork).session
      rw [Step.session, List.reverse_reverse] at hstep
      have hrest : ∀ w ∈ rest, s.registry.isInitialized w = true :=
        fun w hw => hv w (List.mem_cons_of_mem v hw)
      rw [initVendors]
      dsimp only
      -- it breaks off, or fails and is left out, or takes part
      rcases (s.runSession (initVendor s.environment entry v)).result with a | (e | _)
      · dsimp only
        rw [hsame.registry]
        exact hstep
      · refine ih hn ?_ ?_
        · intro w hw
          -- the vendors are different, so the others are still initialized
          have hne : w ≠ v := fun h => hvr (h ▸ hw)
          dsimp only
          rw [hsame.registry, Registry.isInitialized_demote, hrest w hw]
          simpa using hne
        · rw [hsame.registry]
          exact hdemote _ _ _ _ hstep
      · refine ih hn ?_ ?_
        · rw [hsame.registry]
          exact hrest
        · rw [hsame.registry]
          exact hstep

/-- Starting a generation keeps an invariant that holds when nobody owns anything. -/
lemma beginGeneration_keeps (hs : s.extension = none) (entry : ExtensionEntry)
    (h0 : I s.registry.beginGeneration (.vacant s.screenCount) []) :
    I (s.beginGeneration entry).server.registry (s.beginGeneration entry).server.ownership
      (s.beginGeneration entry).journal := by
  rw [beginGeneration, hs]
  exact initVendors_keeps hkept hdemote entry (Registry.nodup_active_beginGeneration _)
    (fun v hv => Registry.isInitialized_beginGeneration hv) h0

end Init

lemma initVendors_frame (entry : ExtensionEntry) (vendors : List VendorId) (s : Server σ δ)
    (journal : List (Event δ)) :
    (initVendors entry vendors s journal).server.extension = s.extension ∧
      (initVendors entry vendors s journal).server.dispatcher = s.dispatcher := by
  induction vendors generalizing s journal with
  | nil => exact ⟨rfl, rfl⟩
  | cons v rest ih =>
      have hsame := (s.runSession_sameVendors (initVendor s.environment entry v)).extension
      have hd := s.runSession_dispatcher (initVendor s.environment entry v)
      rw [initVendors]
      dsimp only
      rcases (s.runSession (initVendor s.environment entry v)).result with a | (e | _)
      · exact ⟨hsame, hd⟩
      · obtain ⟨he, hdisp⟩ := ih { (s.runSession (initVendor s.environment entry v)).server with
          registry := (s.runSession (initVendor s.environment entry v)).server.registry.demote v
          ownership :=
            (s.runSession (initVendor s.environment entry v)).server.ownership.unassignScreens v }
          (journal ++ (s.runSession (initVendor s.environment entry v)).journal)
        exact ⟨he.trans hsame, hdisp.trans hd⟩
      · obtain ⟨he, hdisp⟩ := ih (s.runSession (initVendor s.environment entry v)).server
          (journal ++ (s.runSession (initVendor s.environment entry v)).journal)
        exact ⟨he.trans hsame, hdisp.trans hd⟩

/-- A generation starts with nothing learned. -/
lemma beginGeneration_frame (hs : s.extension = none) (entry : ExtensionEntry) :
    (s.beginGeneration entry).server.extension = some entry ∧
      (s.beginGeneration entry).server.dispatcher = s.dispatcher.reset := by
  rw [beginGeneration, hs]
  exact initVendors_frame entry _ _ _

/-- A generation that starts does so without an error. -/
lemma beginGeneration_ok (hs : s.extension = none) {entry : ExtensionEntry}
    {a : Except Error Unit} (ha : (s.beginGeneration entry).result = .ok a) : a = .ok () := by
  rw [beginGeneration, hs] at ha
  dsimp only at ha
  cases hr : (initVendors entry _ _ _).result <;> rw [hr] at ha <;> cases ha
  rfl

/-- There is one generation at a time. -/
lemma beginGeneration_of_some {e : ExtensionEntry} (hs : s.extension = some e)
    (entry : ExtensionEntry) :
    s.beginGeneration entry = ⟨.ok (.error .extensionAlreadyInitialized), [], s⟩ := by
  rw [beginGeneration, hs]

/-! ### The end of a generation -/

/-- The router whose generation is over, before its vendors are told. -/
def closed (s : Server σ δ) : Server σ δ :=
  { s with
    registry := s.registry.endGeneration
    ownership := .vacant s.screenCount
    dispatcher := s.dispatcher.reset
    extension := none }

/-- The vendors being told that the generation of the router is over. -/
def closing (s : Server σ δ) (entry : ExtensionEntry) : Step σ δ Unit :=
  s.closed.runSession (closeVendors s.closed.environment entry s.registry.initializedIds)

section Close

variable {I : Session σ δ → Prop} (hw : ∀ s w, I s → I (s.withWorld w))
  (hcalled : ∀ s v initialized entry, I s →
    I (s.enter (.called v initialized (.closeDown entry))))
  (hreturned : ∀ s v entry, I s → I (s.enter (.returned v (.closeDown entry) ())))

include hw hcalled hreturned

lemma closeVendors_keeps (env : Environment σ δ) (entry : ExtensionEntry)
    (vendors : List VendorId) : Keeps I (closeVendors env entry vendors) := by
  induction vendors with
  | nil => exact .pure _
  | cons v rest ih =>
      rw [closeVendors]
      cases (env.registry.interface? v).bind VendorInterface.closeDown with
      | none => exact ih
      | some closeDown =>
          refine Keeps.bind ?_ fun _ => ih
          intro s hs
          refine (ends_calling (.closeDown entry)).mpr ?_
          exact hreturned _ v entry (hw _ _ (hcalled s v _ entry hs))

/-- Ending a generation keeps an invariant that holds when nobody owns anything. -/
lemma endGeneration_keeps {entry : ExtensionEntry} (hs : s.extension = some entry)
    (h0 : I ⟨s.world, .vacant s.screenCount, []⟩) : I s.endGeneration.session := by
  have hclose := closeVendors_keeps hw hcalled hreturned s.closed.environment entry
    s.registry.initializedIds s.closed.session h0
  have h : I (s.closing entry).session := (runSession_leaves hclose).session
  rw [endGeneration, hs]
  dsimp only [Step.session]
  split_ifs <;> exact h

end Close

/-- After a generation no vendor is initialized and nothing is learned. -/
lemma endGeneration_frame {entry : ExtensionEntry} (hs : s.extension = some entry) :
    s.endGeneration.server.extension = none ∧
      s.endGeneration.server.dispatcher = s.dispatcher.reset ∧
      (s.endGeneration.server.registry = s.registry.endGeneration ∨
        s.endGeneration.server.registry = s.registry.endGeneration.clear) := by
  have hsame : s.closed.SameVendors (s.closing entry).server := s.closed.runSession_sameVendors _
  have hd : (s.closing entry).server.dispatcher = s.closed.dispatcher :=
    s.closed.runSession_dispatcher _
  rw [endGeneration, hs]
  dsimp only
  split_ifs
  · exact ⟨hsame.extension, hd, .inr (congrArg Registry.clear hsame.registry)⟩
  · exact ⟨hsame.extension, hd, .inl hsame.registry⟩

/-- After a generation nobody owns anything. -/
lemma ownership_endGeneration {entry : ExtensionEntry} (hs : s.extension = some entry) :
    s.endGeneration.server.ownership = .vacant s.screenCount :=
  endGeneration_keeps (I := fun t => t.ownership = .vacant s.screenCount)
    (fun _ _ h => h) (fun _ _ _ _ h => h) (fun _ _ _ h => h) hs rfl

/-- A generation that ends does so without an error. -/
lemma endGeneration_ok {entry : ExtensionEntry} (hs : s.extension = some entry)
    {a : Except Error Unit} (ha : s.endGeneration.result = .ok a) : a = .ok () := by
  rw [endGeneration, hs] at ha
  dsimp only at ha
  cases hr : (runSession _ (closeVendors _ entry _)).result <;> rw [hr] at ha <;> cases ha
  rfl

/-- There is no generation to end. -/
lemma endGeneration_of_none (hs : s.extension = none) :
    s.endGeneration = ⟨.ok (.error .extensionNotInitialized), [], s⟩ := by
  rw [endGeneration, hs]

/-! ### Registration -/

/-- A vendor that was registered is in the registry, and nothing else has changed. -/
lemma createVendor_of_ok {i : VendorInterface σ δ} {id : VendorId} {t : Server σ δ}
    (h : s.createVendor i = .ok (id, t)) :
    ∃ r, s.registry.create i = .ok (id, r) ∧ t = { s with registry := r } := by
  rw [createVendor] at h
  rcases hc : s.registry.create i with e | ⟨id', r⟩ <;> rw [hc] at h
  · cases h
  · cases h
    exact ⟨r, rfl, rfl⟩

/-- A vendor that was freed is out of the registry, and nothing else has changed. -/
lemma destroyVendor_of_ok {v : VendorId} {t : Server σ δ} (h : s.destroyVendor v = .ok t) :
    ∃ r, s.registry.destroy v = .ok r ∧ t = { s with registry := r } := by
  rw [destroyVendor] at h
  rcases hc : s.registry.destroy v with e | r <;> rw [hc] at h
  · cases h
  · cases h
    exact ⟨r, rfl, rfl⟩

/-! Who is registered changes nobody's share and calls nobody. -/

@[simp] lemma ownership_createVendor (s : Server σ δ) (i : VendorInterface σ δ) :
    (s.apply (.createVendor i)).server.ownership = s.ownership := by
  rw [Server.apply]
  rcases hc : s.createVendor i with e | ⟨id, t⟩
  · rfl
  · obtain ⟨r, -, rfl⟩ := createVendor_of_ok hc
    rfl

@[simp] lemma journal_createVendor (s : Server σ δ) (i : VendorInterface σ δ) :
    (s.apply (.createVendor i)).journal = [] := by
  rw [Server.apply]
  rcases s.createVendor i with e | ⟨id, t⟩ <;> rfl

@[simp] lemma ownership_destroyVendor (s : Server σ δ) (v : VendorId) :
    (s.apply (.destroyVendor v)).server.ownership = s.ownership := by
  rw [Server.apply]
  rcases hc : s.destroyVendor v with e | t
  · rfl
  · obtain ⟨r, -, rfl⟩ := destroyVendor_of_ok hc
    rfl

@[simp] lemma journal_destroyVendor (s : Server σ δ) (v : VendorId) :
    (s.apply (.destroyVendor v)).journal = [] := by
  rw [Server.apply]
  rcases s.destroyVendor v with e | t <;> rfl

/-! ### Every operation -/

/-- Other vendors, of which the same are initialized. -/
lemma Sound.withRegistry (hs : s.Sound) {r : Registry σ δ} (ha : r.active = s.registry.active)
    (hi : ∀ v, r.isInitialized v = s.registry.isInitialized v) :
    { s with registry := r }.Sound where
  ownership := ⟨hs.ownership.tags, fun i v hv => (hi v).trans (hs.ownership.screens i v hv)⟩
  active v hv := (hi v).trans (hs.active v (ha ▸ hv))
  dispatcher := hs.dispatcher.mono fun v hv => (hi v).trans hv
  idle := hs.idle

/-- A generation that starts leaves a sound router. -/
lemma Sound.beginGeneration (hs : s.Sound) (entry : ExtensionEntry) :
    (s.beginGeneration entry).server.Sound := by
  cases he : s.extension with
  | some e =>
      rw [beginGeneration_of_some he]
      exact hs
  | none =>
      obtain ⟨hext, hdisp⟩ := beginGeneration_frame he entry
      have hI : (s.beginGeneration entry).server.ownership.Sound
            (s.beginGeneration entry).server.registry ∧
          ∀ v ∈ (s.beginGeneration entry).server.registry.active,
            (s.beginGeneration entry).server.registry.isInitialized v = true := by
        refine beginGeneration_keeps
          (I := fun r o _ => o.Sound r ∧ ∀ v ∈ r.active, r.isInitialized v = true) ?_ ?_ he entry ?_
        · exact fun s _ =>
            ((stable_sound s.environment).kept.and (Environment.kept_const _ _)).upheld
        · -- a vendor that fails gives up its screens before it is left out
          rintro r o journal v ⟨ho, ha⟩
          refine ⟨⟨ho.tags, fun i w hw => ?_⟩, fun w hw => ?_⟩
          · rw [Ownership.screenVendor_unassignScreens] at hw
            split_ifs at hw with hne
            have hwv : w ≠ v := fun h => hne (h ▸ hw)
            rw [Registry.isInitialized_demote, ho.screens i w hw]
            simpa using hwv
          · obtain ⟨hw, hwv⟩ := Registry.mem_active_demote.mp hw
            rw [Registry.isInitialized_demote, ha w hw]
            simpa using hwv
        · exact ⟨Ownership.sound_vacant _ _,
            fun v hv => Registry.isInitialized_beginGeneration hv⟩
      refine ⟨hI.1, hI.2, ?_, ?_⟩
      · rw [hdisp]
        exact Dispatcher.sound_reset _ _
      · rw [hext]
        exact fun h => (Option.some_ne_none _ h).elim

/-- So does one that ends. -/
lemma Sound.endGeneration (hs : s.Sound) : s.endGeneration.server.Sound := by
  cases he : s.extension with
  | none =>
      rw [endGeneration_of_none he]
      exact hs
  | some entry =>
      obtain ⟨hext, hdisp, hreg⟩ := endGeneration_frame he
      have hown := ownership_endGeneration he
      refine ⟨?_, ?_, ?_, ?_⟩
      · rw [hown]
        exact Ownership.sound_vacant _ _
      · rcases hreg with h | h <;> rw [h] <;> exact fun v hv => by cases hv
      · rw [hdisp]
        exact Dispatcher.sound_reset _ _
      · intro _ client tag
        rw [hown]
        rfl

/-- Between generations no program can bring a tag to life. -/
lemma kept_idle (env : Environment σ δ) :
    env.Kept fun s => ∀ client tag, s.ownership.lookupTag client tag = none := by
  refine kept_lookups env (P := fun f => ∀ client tag, f client tag = none) ?_
  intro f client tag data h d b
  simp only [h, Option.map_none, ite_self]

/-- A request that is served leaves a sound router. -/
lemma Sound.serve (hs : s.Sound) (c : Client) : (s.serve c).server.Sound := by
  have hsame := s.serve_sameVendors c
  have hown := hs.serve_keeps (stable_sound s.environment) hs.ownership c
  refine ⟨?_, ?_, ?_, ?_⟩
  · rw [hsame.registry]
    exact hown
  · rw [hsame.registry]
    exact hs.active
  · rw [hsame.registry]
    exact hs.serve_dispatcher c
  · intro he
    rw [hsame.extension] at he
    rw [Server.serve, he]
    exact hs.idle he

lemma Sound.perform (hs : s.Sound) (p : Program σ δ α) : (s.perform p).server.Sound := by
  have hsame := s.runSession_sameVendors (s.environment.interpret p)
  have hown := perform_keeps (stable_sound s.environment).kept hs.ownership p
  refine ⟨?_, ?_, ?_, ?_⟩
  · rw [Server.perform, hsame.registry]
    exact hown
  · rw [Server.perform, hsame.registry]
    exact hs.active
  · rw [Server.perform, hsame.registry, runSession_dispatcher]
    exact hs.dispatcher
  · intro he
    rw [Server.perform, hsame.extension] at he
    exact perform_keeps (kept_idle s.environment) (hs.idle he) p

/-- Every operation leaves a sound router, also one that is broken off. -/
lemma Sound.apply (hs : s.Sound) (op : Operation σ δ) : (s.apply op).server.Sound := by
  cases op with
  | createVendor i =>
      rw [Server.apply]
      rcases hc : s.createVendor i with e | ⟨id, t⟩
      · exact hs
      · obtain ⟨r, hr, rfl⟩ := createVendor_of_ok hc
        exact hs.withRegistry (Registry.active_create hr) (Registry.isInitialized_create hr)
  | destroyVendor v =>
      rw [Server.apply]
      rcases hc : s.destroyVendor v with e | t
      · exact hs
      · obtain ⟨r, hr, rfl⟩ := destroyVendor_of_ok hc
        exact hs.withRegistry (Registry.active_destroy hr) (Registry.isInitialized_destroy hr)
  | beginGeneration entry => exact hs.beginGeneration entry
  | endGeneration => exact hs.endGeneration
  | serve c => exact hs.serve c
  | clientGone client =>
      refine ⟨⟨hs.ownership.tags.clientGone client, hs.ownership.screens⟩, hs.active,
        hs.dispatcher, ?_⟩
      intro he d tag
      have hd := hs.idle he d tag
      rw [Server.apply, Server.clientGone, Ownership.lookupTag_clientGone, hd, ite_self]
  | resourceFreed id =>
      exact ⟨⟨hs.ownership.tags, hs.ownership.screens⟩, hs.active, hs.dispatcher, hs.idle⟩
  | perform program => exact hs.perform program
  | changeWorld change => exact ⟨hs.ownership, hs.active, hs.dispatcher, hs.idle⟩

/-- What operations do to the owners: they stay, or are all gone, or a generation starts, a request is
served, a vendor acts on its own, a client disconnects or a resource is freed. -/
lemma apply_ownership {P : Ownership δ → Prop} (op : Operation σ δ) (hsame : P s.ownership)
    (hvacant : P (.vacant s.screenCount))
    (hbegin : ∀ entry, s.extension = none → P (s.beginGeneration entry).server.ownership)
    (hserve : ∀ c, op = .serve c → P (s.serve c).server.ownership)
    (hperform : ∀ program : Program σ δ Unit, P (s.perform program).server.ownership)
    (hgone : ∀ client, P (s.ownership.clientGone client))
    (hfreed : ∀ id, P (s.ownership.removeXid id)) : P (s.apply op).server.ownership := by
  cases op with
  | createVendor i =>
      rw [ownership_createVendor]
      exact hsame
  | destroyVendor v =>
      rw [ownership_destroyVendor]
      exact hsame
  | beginGeneration entry =>
      rw [Server.apply]
      cases he : s.extension with
      | some e =>
          rw [beginGeneration_of_some he]
          exact hsame
      | none => exact hbegin entry he
  | endGeneration =>
      rw [Server.apply]
      cases he : s.extension with
      | none =>
          rw [endGeneration_of_none he]
          exact hsame
      | some entry =>
          rw [ownership_endGeneration he]
          exact hvacant
  | serve c => exact hserve c rfl
  | clientGone client => exact hgone client
  | resourceFreed id => exact hfreed id
  | perform program => exact hperform program
  | changeWorld change => exact hsame

/-- What operations do to the registry: vendors come and go one at a time, and generations start and
end. -/
lemma apply_registry {P : Registry σ δ → Prop} (op : Operation σ δ) (hsame : P s.registry)
    (hcreate : ∀ i id r, op = .createVendor i → s.registry.create i = .ok (id, r) → P r)
    (hdestroy : ∀ v r, op = .destroyVendor v → s.registry.destroy v = .ok r → P r)
    (hbegin : P s.registry.beginGeneration) (hdemote : ∀ r v, P r → P (r.demote v))
    (hend : op = .endGeneration → s.extension ≠ none →
      P s.registry.endGeneration ∧ P s.registry.endGeneration.clear) :
    P (s.apply op).server.registry := by
  cases op with
  | createVendor i =>
      rw [Server.apply]
      rcases hc : s.createVendor i with e | ⟨id, t⟩
      · exact hsame
      · obtain ⟨r, hr, rfl⟩ := createVendor_of_ok hc
        exact hcreate i id r rfl hr
  | destroyVendor v =>
      rw [Server.apply]
      rcases hc : s.destroyVendor v with e | t
      · exact hsame
      · obtain ⟨r, hr, rfl⟩ := destroyVendor_of_ok hc
        exact hdestroy v r rfl hr
  | beginGeneration entry =>
      rw [Server.apply]
      cases he : s.extension with
      | some e =>
          rw [beginGeneration_of_some he]
          exact hsame
      | none =>
          -- a generation that starts demotes the vendors that fail
          exact beginGeneration_keeps (I := fun r _ _ => P r)
            (fun s _ => (s.environment.kept_const _).upheld) (fun r _ _ v h => hdemote r v h) he
            entry hbegin
  | endGeneration =>
      rw [Server.apply]
      cases he : s.extension with
      | none =>
          rw [endGeneration_of_none he]
          exact hsame
      | some entry =>
          have hne : s.extension ≠ none := fun h => by rw [he] at h; cases h
          -- one that ends may clear the registry
          obtain ⟨hended, hcleared⟩ := hend rfl hne
          rcases (endGeneration_frame he).2.2 with h | h <;> rw [h]
          · exact hended
          · exact hcleared
  | serve c =>
      rw [Server.apply, (s.serve_sameVendors c).registry]
      exact hsame
  | perform program =>
      have hreg : (s.apply (.perform program)).server.registry = s.registry :=
        (s.runSession_sameVendors (s.environment.interpret program)).registry
      rw [hreg]
      exact hsame
  | clientGone | resourceFreed | changeWorld => exact hsame

/-- What is true of the callbacks of every vendor stays true, if it is true of those that the
operation registers. -/
lemma apply_every {P : VendorInterface σ δ → Prop} (hr : s.registry.Every P)
    {op : Operation σ δ} (hop : ∀ i, op = .createVendor i → P i) :
    (s.apply op).server.registry.Every P := by
  refine apply_registry op hr ?_ ?_ hr.beginGeneration (fun r v h => h.demote v) fun _ _ =>
    ⟨hr.endGeneration, Registry.Every.clear _⟩
  · intro i id r hi hc
    exact hr.create (hop i hi) hc
  · rintro v r rfl hd
    exact hr.destroy hd

/-- An operation keeps the clients' ids out of the vendors' reach if the vendor that it registers
does. -/
lemma apply_keepsClient (hr : s.registry.KeepsClient) {op : Operation σ δ} (hop : op.KeepsClient) :
    (s.apply op).server.registry.KeepsClient :=
  apply_every (P := VendorInterface.KeepsClient) hr fun i hi => by
    subst hi
    exact hop

/-- No handle is ever taken back. -/
lemma length_places_apply (s : Server σ δ) (op : Operation σ δ) :
    s.registry.places.length ≤ (s.apply op).server.registry.places.length := by
  refine apply_registry op (P := fun r => s.registry.places.length ≤ r.places.length)
    (Nat.le_refl _) ?_ ?_ (by simp) (by simp) (by simp)
  · intro i id r _ hc
    rw [Registry.length_create hc]
    omega
  · intro v r _ hd
    exact Nat.le_of_eq (Registry.length_destroy hd).symm

/-- A handle that was given out keeps its meaning as long as the generation lasts and the vendor is
not destroyed. -/
lemma contains_apply {op : Operation σ δ} {v : VendorId} (hv : v.index < s.registry.places.length)
    (hend : op = .endGeneration → s.extension = none)
    (hd : op = .destroyVendor v → ∀ t, s.destroyVendor v ≠ .ok t) :
    (s.apply op).server.registry.contains v = s.registry.contains v := by
  refine apply_registry op (P := fun r => r.contains v = s.registry.contains v) rfl ?_ ?_ (by simp)
    (by simp) fun hop he => (he (hend hop)).elim
  · intro i id r _ hc
    have hne : v ≠ id := by
      rintro rfl
      have hid := (Registry.get?_create hc v).1
      omega
    rw [Registry.contains_create hc]
    simp [hne]
  · rintro w r rfl hr
    have hne : v ≠ w := by
      rintro rfl
      have hok : s.destroyVendor v = .ok { s with registry := r } := by
        rw [destroyVendor, hr]
        rfl
      exact hd rfl _ hok
    rw [Registry.contains_destroy hr]
    simp [hne]

/-- A vendor that is destroyed is no longer registered. -/
lemma contains_destroyVendor {v : VendorId} (h : s.destroyVendor v = .ok t) :
    t.registry.contains v = false := by
  obtain ⟨r, hr, rfl⟩ := destroyVendor_of_ok h
  simp [Registry.contains_destroy hr]

lemma sound_new (host : WindowSystem σ) (world : σ) (nestingLimit : Nat) :
    (new host world nestingLimit : Server σ δ).Sound where
  ownership := Ownership.sound_vacant _ _
  active v hv := by cases hv
  dispatcher := Dispatcher.sound_reset _ Dispatcher.initial
  idle _ _ _ := rfl

lemma Reachable.sound (h : s.Reachable) : s.Sound :=
  h.of_kept sound_new fun _ op _ hs _ => hs.apply op

end Server

/-! ### Operations in a row -/

/-- Operations, none of which is broken off, lead from one router to another. -/
inductive Server.Leads (s : Server σ δ) : List (Operation σ δ) → Server σ δ → Prop
  /-- No operation. -/
  | nil : Leads s [] s
  /-- One more operation. -/
  | concat {ops : List (Operation σ δ)} {t : Server σ δ} (op : Operation σ δ) (a : op.Answer) :
    Leads s ops t → (t.apply op).result = .ok a → Leads s (ops ++ [op]) (t.apply op).server

namespace Server.Leads

variable {s t : Server σ δ} {ops : List (Operation σ δ)}

lemma sound (h : s.Leads ops t) (hs : s.Sound) : t.Sound := by
  induction h with
  | nil => exact hs
  | concat op a _ _ ih => exact ih.apply op

lemma every {P : VendorInterface σ δ → Prop} (h : s.Leads ops t) (hs : s.registry.Every P)
    (hops : ∀ i, .createVendor i ∈ ops → P i) : t.registry.Every P := by
  induction h with
  | nil => exact hs
  | concat op a _ _ ih =>
      refine apply_every (ih fun i hi => hops i (List.mem_append_left _ hi)) ?_
      rintro i rfl
      exact hops i (List.mem_append_right _ List.mem_cons_self)

lemma keepsClient (h : s.Leads ops t) (hs : s.registry.KeepsClient)
    (hops : ∀ op ∈ ops, op.KeepsClient) : t.registry.KeepsClient :=
  h.every (P := VendorInterface.KeepsClient) hs fun i hi => hops (.createVendor i) hi

lemma nil_inv (h : s.Leads [] t) : t = s := by
  generalize hops : ([] : List (Operation σ δ)) = ops at h
  cases h with
  | nil => rfl
  | concat op a _ _ => simp at hops

lemma concat_inv {op : Operation σ δ} (h : s.Leads (ops ++ [op]) t) :
    ∃ u, s.Leads ops u ∧ t = (u.apply op).server := by
  generalize hl : ops ++ [op] = l at h
  cases h with
  | nil => simp at hl
  | concat op' a h' _ =>
      obtain ⟨rfl, hop⟩ := List.append_inj' hl rfl
      obtain rfl := List.singleton_inj.mp hop
      exact ⟨_, h', rfl⟩

/-- Operations lead to one router only. -/
lemma unique {u : Server σ δ} (h : s.Leads ops t) (h' : s.Leads ops u) : t = u := by
  induction h generalizing u with
  | nil => exact h'.nil_inv.symm
  | concat op a _ _ ih =>
      obtain ⟨w, hw, rfl⟩ := h'.concat_inv
      rw [ih hw]

lemma reachable (h : s.Leads ops t) (hs : s.Reachable) : t.Reachable := by
  induction h with
  | nil => exact hs
  | concat op a _ ha ih => exact .apply op a ih ha

/-- One more operation, before the others. -/
lemma cons {op : Operation σ δ} {a : op.Answer} (ha : (s.apply op).result = .ok a)
    (h : (s.apply op).server.Leads ops t) : s.Leads (op :: ops) t := by
  induction h with
  | nil => exact .concat op a .nil ha
  | concat op' b _ hb ih => exact .concat op' b ih hb

/-- The first operation is not broken off, and the others lead on from there. -/
lemma cons_inv {op : Operation σ δ} (h : s.Leads (op :: ops) t) :
    (∃ a, (s.apply op).result = .ok a) ∧ (s.apply op).server.Leads ops t := by
  generalize hl : op :: ops = l at h
  induction h generalizing ops with
  | nil => cases hl
  | @concat init u op' b hinit hb ih =>
      cases init with
      | nil =>
          obtain ⟨rfl, rfl⟩ := List.cons.inj hl
          obtain rfl := hinit.nil_inv
          exact ⟨⟨b, hb⟩, .nil⟩
      | cons o init =>
          obtain ⟨rfl, rfl⟩ := List.cons.inj hl
          obtain ⟨hfirst, hrest⟩ := ih rfl
          exact ⟨hfirst, .concat op' b hrest hb⟩

/-- The operations after the first one. -/
lemma uncons {op : Operation σ δ} (h : s.Leads (op :: ops) t) :
    (s.apply op).server.Leads ops t :=
  h.cons_inv.2

/-- Operations in two parts. -/
lemma split {first second : List (Operation σ δ)} (h : s.Leads (first ++ second) t) :
    ∃ u, s.Leads first u ∧ u.Leads second t := by
  induction first generalizing s with
  | nil => exact ⟨s, .nil, h⟩
  | cons op first ih =>
      obtain ⟨⟨a, ha⟩, hrest⟩ := h.cons_inv
      obtain ⟨u, hu, ht⟩ := ih hrest
      exact ⟨u, .cons ha hu, ht⟩

/-- A run in which nothing is broken off leads to the router after it. -/
lemma of_run (h : ∀ d ∈ s.run ops, d.step.result.toBool = true) :
    s.Leads ops (s.after (s.run ops)) := by
  induction ops generalizing s with
  | nil => exact .nil
  | cons op rest ih =>
      cases hr : (s.apply op).result with
      | error a =>
          rw [Server.run_cons_of_error hr] at h
          have hop := h _ List.mem_cons_self
          rw [hr] at hop
          cases hop
      | ok a =>
          rw [Server.run_cons_of_ok hr] at h ⊢
          rw [Server.after_cons]
          exact cons hr (ih fun d hd => h d (List.mem_cons_of_mem _ hd))

end Server.Leads

/-! ### A small world -/

/-- A window system with screens, but without drawables. -/
def WindowSystem.blank (screens : Nat) : WindowSystem Unit where
  screenCount _ := screens
  lookupDrawable _ _ _ := none
  legalNewResource _ _ _ := true
  isExiting _ := false

/-- A vendor that takes a screen when a generation starts, and accepts whatever it is asked. -/
def VendorInterface.obliging (screen : Nat) (data : Option δ) : VendorInterface Unit δ where
  init := some fun _ v => .call (.setScreenVendor screen v) fun _ => .done (.ok ())
  closeDown := some fun _ w => w
  handleRequest := some fun c => .done (c, .ok ())
  dispatchAddress := some fun _ _ w => (none, w)
  makeCurrent := some fun c _ => .done (c, .ok data)

lemma VendorInterface.keepsClient_obliging (screen : Nat) (data : Option δ) :
    (obliging screen data).KeepsClient where
  handleRequest handler h c := by
    cases h
    rfl
  makeCurrent handler h c q := by
    cases h
    rfl

/-- A vendor that takes whatever client it is asked about for the client eight, and hands that one
back. -/
def VendorInterface.confused (screen : Nat) (data : Option δ) : VendorInterface Unit δ :=
  { obliging screen data with
    makeCurrent := some fun c _ => .done ({ c with id := ⟨8⟩ }, .ok data) }

/-- A client with a request of the given minor opcode and words. -/
def Client.asking (id : UInt32) (minor : UInt8) (words : List UInt32) : Client where
  id := ⟨id⟩
  request := Client.requestOfWords { id := ⟨id⟩ } 150 minor words

/-- The registration of the extension in a small world. -/
def ExtensionEntry.sample : ExtensionEntry := ⟨"GLX", 150, 160, 90⟩

/-- The router after the given operations, from one without vendors. -/
def Server.reached (ops : List (Operation Unit Nat)) : Server Unit Nat :=
  (Server.new (.blank 1) () 4).after ((Server.new (.blank 1) () 4).run ops)

end VendorDispatch
