import VendorDispatch.Proofs.ActiveVendors
import VendorDispatch.Proofs.InStepService

/-!
Nothing leaks from one generation to the next.

Two routers between generations may have seen different requests, resources, screens, tags and
handlers. If they have the same vendors, nothing that happens from the next generation on tells them
apart, apart from the number of times the vendors have been asked for handlers.

* `eq_of_inStep`: work in step for equal sessions is the same work, if it does not look at the
  journal; `interpret_same` and `initVendor_same` for environments with the same vendors.
* `Server.Twin`: routers that are the same but for a constant difference of their counts of queries,
  and `Server.Twin.apply`: every operation keeps them so.
* `Operation.Registers`: an operation that registers a vendor. Its handle is the number of handles
  that were given out before, so `generation_starts_afresh` has the two runs agree, deed by deed, if
  equally many were given out or none is asked for.
* `freed_handle_shows`: a vendor that came and went before shows in the next handle.
-/

namespace VendorDispatch

variable {σ δ α : Type}

/-! ### The same work -/

/-- Work in step on equal sessions is the same work, if it does not look at the journal. -/
lemma eq_of_inStep {x y : SessionM σ δ α}
    (h : InStep ((Likeness.equal : Likeness σ).Sessions Eq) Eq x y)
    (hx : ∀ older, Commutes (Session.atop older) x)
    (hy : ∀ older, Commutes (Session.atop older) y) : x = y := by
  funext s
  have hs : Session.atop s.journal { s with journal := [] } = s := rfl
  have hfrom := h { s with journal := [] } { s with journal := [] } ⟨rfl, rfl, .nil⟩
  have hsame : x { s with journal := [] } = y { s with journal := [] } := by
    generalize x { s with journal := [] } = u at hfrom
    generalize y { s with journal := [] } = v at hfrom
    cases hfrom with
    | ok hab hst => rw [hab, Likeness.eq_of_sessions hst]
    | error hst => rw [Likeness.eq_of_sessions hst]
  rw [← hs, hx, hy, hsame]

section Same

variable {e f : Environment σ δ} (h : e.Like .equal f)

include h

/-- A program does the same among the same vendors. -/
lemma interpret_same (p : Program σ δ α) : f.interpret p = e.interpret p :=
  (eq_of_inStep (inStep_interpret h (Likeness.owned_eq _) p.inStep_self)
    (fun _ => commutes_interpret e p) fun _ => commutes_interpret f p).symm

/-- A vendor is called alike among the same vendors. -/
lemma calling_same (v : VendorId) (callback : Callback δ) (work : SessionM σ δ callback.Answer) :
    f.calling v callback work = e.calling v callback work := by
  rw [Environment.calling, h.registry.isInitialized, ← Environment.calling]

lemma initVendor_same (entry : ExtensionEntry) (v : VendorId) :
    Server.initVendor f entry v = Server.initVendor e entry v := by
  rw [Server.initVendor, Server.initVendor, h.registry.interface?]
  cases (e.registry.interface? v).bind VendorInterface.init with
  | none => rfl
  | some init =>
      exact (calling_same h v (.init entry) _).trans
        (congrArg (e.calling v (.init entry)) (interpret_same h (init entry v)))

/-- The vendors are told of the end alike. -/
lemma closeVendors_same (entry : ExtensionEntry) (vendors : List VendorId) :
    Server.closeVendors f entry vendors = Server.closeVendors e entry vendors := by
  induction vendors with
  | nil => rfl
  | cons v rest ih =>
      rw [Server.closeVendors, Server.closeVendors, h.registry.interface?, ih]
      cases (e.registry.interface? v).bind VendorInterface.closeDown with
      | none => rfl
      | some closeDown =>
          exact congrArg (· >>= fun _ => Server.closeVendors e entry rest)
            (calling_same h v (.closeDown entry) _)

end Same

/-! ### The same vendors -/

namespace Registry

variable {r u : Registry σ δ}

/-- Registries with the same callbacks, of which nobody is initialized. -/
lemma same_of_uninitialized (hi : ∀ v, u.interface? v = r.interface? v) (hr : r.Orderly)
    (hu : u.Orderly) (hrv : ∀ v, r.isInitialized v = false)
    (huv : ∀ v, u.isInitialized v = false) : r.Same u where
  get? v := by
    -- a vendor that is not initialized is told by its callbacks
    have hflag (x : Registry σ δ) (hx : ∀ v, x.isInitialized v = false) :
        x.get? v = (x.interface? v).map fun i => { interface := i } := by
      have hxv := hx v
      rw [isInitialized] at hxv
      rw [interface?]
      cases hg : x.get? v with
      | none => rfl
      | some w =>
          rw [hg] at hxv
          obtain ⟨i, b⟩ := w
          obtain rfl : b = false := hxv
          rfl
    rw [hflag u huv, hflag r hrv, hi]
  active := by
    -- the active vendors are the initialized ones
    have hnil (x : Registry σ δ) (hx : x.Orderly) (hxv : ∀ v, x.isInitialized v = false) :
        x.active = [] := by
      refine List.eq_nil_iff_forall_not_mem.mpr fun v hv => ?_
      have hv' := (hx.mem_active v).mp hv
      rw [hxv v] at hv'
      cases hv'
    rw [hnil u hu huv, hnil r hr hrv]

/-- Only vendors built for this version of the interface are registered. -/
lemma isCompatibleWith_of_create {i : VendorInterface σ δ} {v : VendorId} {u : Registry σ δ}
    (h : r.create i = .ok (v, u)) : i.abi.isCompatibleWith .current = true := by
  rw [Registry.create] at h
  split_ifs at h with hc
  exact hc

namespace Same

lemma ids (h : r.Same u) : u.ids = r.ids :=
  eq_of_pairwise u.pairwise_ids r.pairwise_ids fun v => by rw [mem_ids, mem_ids, h.contains]

/-- The same vendors are initialized. -/
lemma initializedIds (h : r.Same u) : u.initializedIds = r.initializedIds := by
  rw [Registry.initializedIds, h.ids, funext h.isInitialized, ← Registry.initializedIds]

/-- As many handles were given out, so the next one is the same. -/
lemma create (h : r.Same u) (hlen : r.places.length = u.places.length)
    {i : VendorInterface σ δ} {v : VendorId} {r' : Registry σ δ} (hr : r.create i = .ok (v, r')) :
    ∃ u', u.create i = .ok (v, u') ∧ r'.Same u' := by
  have hu : u.create i =
      .ok (⟨u.places.length⟩, { u with places := u.places ++ [some { interface := i }] }) := by
    rw [Registry.create, if_pos (isCompatibleWith_of_create hr)]
  have hv : v = ⟨u.places.length⟩ := by
    obtain ⟨k⟩ := v
    rw [← hlen]
    exact congrArg VendorId.mk (get?_create hr ⟨k⟩).1
  refine ⟨_, hu.trans (by rw [hv]), ?_, ?_⟩
  · intro j
    rw [(get?_create hu j).2, (get?_create hr j).2, h.get?, hv]
  · rw [active_create hr, ← h.active]

/-- A vendor that is refused by one is refused by the other. -/
lemma create_error (h : r.create i = .error e) : u.create i = .error e := by
  rw [Registry.create] at h ⊢
  split_ifs at h ⊢
  exact h

/-- A vendor that can be freed in one can be freed in the other. -/
lemma destroy (h : r.Same u) {v : VendorId} {r' : Registry σ δ} (hr : r.destroy v = .ok r') :
    ∃ u', u.destroy v = .ok u' ∧ r'.Same u' := by
  obtain ⟨w, hw, hi⟩ := get?_of_destroy hr
  have hu : u.destroy v = .ok { u with places := u.places.set v.index none } := by
    rw [Registry.destroy, h.get?, hw]
    simp [hi]
  refine ⟨_, hu, fun j => ?_, ?_⟩
  · rw [get?_destroy hu, get?_destroy hr, h.get?]
  · rw [active_destroy hr, ← h.active]

/-- A vendor that cannot be freed in one cannot be freed in the other. -/
lemma destroy_error (h : r.Same u) {v : VendorId} {e : Error} (hr : r.destroy v = .error e) :
    u.destroy v = .error e := by
  rw [Registry.destroy] at hr ⊢
  rw [h.get?]
  split at hr
  · exact hr
  · split_ifs at hr ⊢
    exact hr

lemma beginGeneration (h : r.Same u) : r.beginGeneration.Same u.beginGeneration where
  get? w := by rw [get?_beginGeneration, get?_beginGeneration, h.get?]
  active := by
    rw [Registry.beginGeneration, Registry.beginGeneration]
    dsimp only
    rw [h.ids, funext h.interface?]

lemma demote (h : r.Same u) (v : VendorId) : (r.demote v).Same (u.demote v) where
  get? w := by rw [get?_demote, get?_demote, h.get?]
  active := by rw [Registry.demote, Registry.demote, h.active]

lemma endGeneration (h : r.Same u) : r.endGeneration.Same u.endGeneration where
  get? w := by rw [get?_endGeneration, get?_endGeneration, h.get?]
  active := rfl

end Same

lemma same_clear (r u : Registry σ δ) : r.clear.Same u.clear where
  get? w := by rw [get?_clear, get?_clear]
  active := rfl

end Registry

/-- The operation registers a vendor. A vendor built for another version of the interface is
refused. -/
def Operation.Registers : Operation σ δ → Prop
  | createVendor i => i.abi.isCompatibleWith .current = true
  | _ => False

/-! ### Routers that cannot be told apart -/

/-- Two routers that are the same to everybody. What they know of their vendors by look-ups is the
same, and their counts of queries differ as `m` and `n` do. -/
structure Server.Twin (m n : Nat) (s t : Server σ δ) : Prop where
  host : t.host = s.host
  world : t.world = s.world
  registry : s.registry.Same t.registry
  ownership : t.ownership = s.ownership
  dispatcher : s.dispatcher.Same m n t.dispatcher
  extension : t.extension = s.extension
  nestingLimit : t.nestingLimit = s.nestingLimit

/-- What two operations did is the same to everybody. -/
structure Step.Twin (m n : Nat) (x y : Step σ δ α) : Prop where
  result : y.result = x.result
  journal : y.journal = x.journal
  server : x.server.Twin m n y.server

/-- Two deeds of the same operation, the same to everybody. -/
inductive Deed.Twin (m n : Nat) : Deed σ δ → Deed σ δ → Prop
  | intro {op : Operation σ δ} {x y : Step σ δ op.Answer} :
    x.Twin m n y → Twin m n ⟨op, x⟩ ⟨op, y⟩

namespace Server.Twin

variable {m n : Nat} {s t : Server σ δ} (h : s.Twin m n t)

include h

/-- Twins are alike in the sense of runs in step. -/
lemma like : s.Like .equal Eq t :=
  like_equal h.host h.world h.registry h.ownership h.extension h.nestingLimit

lemma session : t.session = s.session := by
  rw [Server.session, h.world, h.ownership, ← Server.session]

lemma withSession (u : Session σ δ) : (s.withSession u).Twin m n (t.withSession u) :=
  ⟨h.host, rfl, h.registry, rfl, h.dispatcher, h.extension, h.nestingLimit⟩

/-- Work on the session ends alike in twins. -/
lemma runSession (work : SessionM σ δ α) : (s.runSession work).Twin m n (t.runSession work) := by
  rw [Server.runSession, Server.runSession, h.session]
  cases work s.session <;> exact ⟨rfl, rfl, h.withSession _⟩

lemma perform (p : Program σ δ α) : (s.perform p).Twin m n (t.perform p) := by
  rw [Server.perform, Server.perform, interpret_same h.like.environment]
  exact h.runSession _

/-- A request is served alike in twins. -/
lemma serve (hs : s.Sound) (c : Client) : (s.serve c).Twin m n (t.serve c) := by
  obtain ⟨hstep, hd⟩ := h.like.serve_equal hs h.dispatcher c
  have hsame := s.serve_sameVendors c
  have hsame' := t.serve_sameVendors c
  have hu := Likeness.eq_of_sessions hstep.session
  refine ⟨(hstep.result_eq fun _ _ => Likeness.eq_of_answers).symm, ?_, ?_⟩
  · exact (Event.eq_of_forall₂_like hstep.journal).symm
  · exact ⟨by rw [hsame'.host, hsame.host, h.host], (congrArg Session.world hu).symm,
      by rw [hsame'.registry, hsame.registry]; exact h.registry,
      (congrArg Session.ownership hu).symm, hd,
      by rw [hsame'.extension, hsame.extension, h.extension],
      by rw [hsame'.nestingLimit, hsame.nestingLimit, h.nestingLimit]⟩

/-- The vendors are initialized alike in twins. -/
lemma initVendors (entry : ExtensionEntry) (vendors : List VendorId) (journal : List (Event δ)) :
    (initVendors entry vendors s journal).Twin m n (initVendors entry vendors t journal) := by
  induction vendors generalizing s t journal with
  | nil => exact ⟨rfl, rfl, h⟩
  | cons v rest ih =>
      have hstep := h.runSession (initVendor s.environment entry v)
      have hsame : initVendor t.environment entry v = initVendor s.environment entry v :=
        initVendor_same h.like.environment entry v
      rw [Server.initVendors, Server.initVendors, hsame]
      dsimp only
      rw [hstep.result, hstep.journal]
      rcases (s.runSession (initVendor s.environment entry v)).result with a | (e | _)
      · exact ⟨rfl, rfl, hstep.server⟩
      · refine ih ?_ _
        exact ⟨hstep.server.host, hstep.server.world, hstep.server.registry.demote v,
          congrArg (Ownership.unassignScreens · v) hstep.server.ownership,
          hstep.server.dispatcher, hstep.server.extension, hstep.server.nestingLimit⟩
      · exact ih hstep.server _

lemma screenCount : t.screenCount = s.screenCount := by
  rw [Server.screenCount, h.host, h.world, ← Server.screenCount]

/-- A generation ends alike in twins. -/
lemma endGeneration : s.endGeneration.Twin m n t.endGeneration := by
  cases he : s.extension with
  | none =>
      rw [endGeneration_of_none he, endGeneration_of_none (h.extension.trans he)]
      exact ⟨rfl, rfl, h⟩
  | some entry =>
      -- the state is reset before the vendors are called, so they are called in the same state
      have hclosed : s.closed.Twin m n t.closed :=
        ⟨h.host, h.world, h.registry.endGeneration, congrArg Ownership.vacant h.screenCount,
          Dispatcher.same_reset h.dispatcher.queries, rfl, h.nestingLimit⟩
      have hclose : t.closing entry = t.closed.runSession
          (closeVendors s.closed.environment entry s.registry.initializedIds) := by
        rw [closing, closeVendors_same hclosed.like.environment, h.registry.initializedIds]
      have hclosing : (s.closing entry).Twin m n (t.closing entry) := by
        rw [hclose]
        exact hclosed.runSession _
      have hend (r : Server σ δ) (hr : r.extension = some entry) : r.endGeneration =
          ⟨(r.closing entry).result.map .ok, (r.closing entry).journal,
            if (r.closing entry).server.host.isExiting (r.closing entry).server.world then
              { (r.closing entry).server with
                registry := (r.closing entry).server.registry.clear }
            else (r.closing entry).server⟩ := by
        rw [Server.endGeneration, hr]
        rfl
      rw [hend s he, hend t (h.extension.trans he)]
      refine ⟨congrArg (Except.map Except.ok) hclosing.result, hclosing.journal, ?_⟩
      -- whether the window system exits is a question to the same world
      have hexit : (t.closing entry).server.host.isExiting (t.closing entry).server.world =
          (s.closing entry).server.host.isExiting (s.closing entry).server.world := by
        rw [hclosing.server.host, hclosing.server.world]
      simp only [hexit]
      split_ifs
      · exact ⟨hclosing.server.host, hclosing.server.world, Registry.same_clear _ _,
          hclosing.server.ownership, hclosing.server.dispatcher, hclosing.server.extension,
          hclosing.server.nestingLimit⟩
      · exact hclosing.server

omit h

/-- A generation that starts leaves nothing of what differed before. -/
lemma of_beginGeneration (hs : s.extension = none) (ht : t.extension = none)
    (host : t.host = s.host) (world : t.world = s.world) (registry : s.registry.Same t.registry)
    (nestingLimit : t.nestingLimit = s.nestingLimit)
    (queries : s.dispatcher.queries + n = t.dispatcher.queries + m) (entry : ExtensionEntry) :
    (s.beginGeneration entry).Twin m n (t.beginGeneration entry) := by
  have hscreens : t.screenCount = s.screenCount := by
    rw [Server.screenCount, host, world, ← Server.screenCount]
  rw [Server.beginGeneration, Server.beginGeneration, hs, ht]
  dsimp only
  rw [registry.beginGeneration.active]
  -- what differed before is reset here
  have hopened : ({ s with
      registry := s.registry.beginGeneration
      ownership := .vacant s.screenCount
      dispatcher := s.dispatcher.reset
      extension := some entry } : Server σ δ).Twin m n { t with
      registry := t.registry.beginGeneration
      ownership := .vacant t.screenCount
      dispatcher := t.dispatcher.reset
      extension := some entry } :=
    ⟨host, world, registry.beginGeneration, congrArg Ownership.vacant hscreens,
      Dispatcher.same_reset queries, rfl, nestingLimit⟩
  have hinit := hopened.initVendors entry s.registry.beginGeneration.active []
  exact ⟨congrArg (Except.map Except.ok) hinit.result, hinit.journal, hinit.server⟩

include h

/-- A generation starts alike in twins. -/
lemma beginGeneration (entry : ExtensionEntry) :
    (s.beginGeneration entry).Twin m n (t.beginGeneration entry) := by
  cases he : s.extension with
  | some e =>
      rw [beginGeneration_of_some he, beginGeneration_of_some (h.extension.trans he)]
      exact ⟨rfl, rfl, h⟩
  | none =>
      exact of_beginGeneration he (h.extension.trans he) h.host h.world h.registry h.nestingLimit
        h.dispatcher.queries entry

/-- Every operation is the same to everybody. A new vendor needs the same handle. -/
lemma apply (hs : s.Sound) (op : Operation σ δ)
    (hcreate : op.Registers → s.registry.places.length = t.registry.places.length) :
    (s.apply op).Twin m n (t.apply op) := by
  cases op with
  | createVendor i =>
      rw [Server.apply, Server.apply, createVendor, createVendor]
      rcases hr : s.registry.create i with e | ⟨v, r⟩
      · rw [Registry.Same.create_error hr]
        exact ⟨rfl, rfl, h⟩
      · have hlen := hcreate (Registry.isCompatibleWith_of_create hr)
        -- the handle is the number of handles that were given out before
        obtain ⟨u, hu, hru⟩ := h.registry.create hlen hr
        rw [hu]
        exact ⟨rfl, rfl, ⟨h.host, h.world, hru, h.ownership, h.dispatcher, h.extension,
          h.nestingLimit⟩⟩
  | destroyVendor v =>
      rw [Server.apply, Server.apply, destroyVendor, destroyVendor]
      rcases hr : s.registry.destroy v with e | r
      · rw [h.registry.destroy_error hr]
        exact ⟨rfl, rfl, h⟩
      · obtain ⟨u, hu, hru⟩ := h.registry.destroy hr
        rw [hu]
        exact ⟨rfl, rfl, ⟨h.host, h.world, hru, h.ownership, h.dispatcher, h.extension,
          h.nestingLimit⟩⟩
  | beginGeneration entry => exact h.beginGeneration entry
  | endGeneration => exact h.endGeneration
  | serve c => exact h.serve hs c
  | clientGone client =>
      exact ⟨rfl, rfl, ⟨h.host, h.world, h.registry, congrArg (Ownership.clientGone · client)
        h.ownership, h.dispatcher, h.extension, h.nestingLimit⟩⟩
  | resourceFreed id =>
      exact ⟨rfl, rfl, ⟨h.host, h.world, h.registry, congrArg (Ownership.removeXid · id)
        h.ownership, h.dispatcher, h.extension, h.nestingLimit⟩⟩
  | perform program => exact h.perform program
  | changeWorld change =>
      exact ⟨rfl, rfl, ⟨h.host, congrArg change h.world, h.registry, h.ownership, h.dispatcher,
        h.extension, h.nestingLimit⟩⟩

end Server.Twin

/-! ### Whole runs -/

namespace Server

variable {s t : Server σ δ}

/-- How many handles were given out. -/
lemma length_places_of_not_registers (s : Server σ δ) {op : Operation σ δ} (hop : ¬ op.Registers) :
    (s.apply op).server.registry.places.length = s.registry.places.length := by
  refine apply_registry op (P := fun r => r.places.length = s.registry.places.length) rfl ?_
    (fun _ _ _ hd => Registry.length_destroy hd) (by simp) (by simp) (by simp)
  rintro i _ _ rfl hr
  exact (hop (Registry.isCompatibleWith_of_create hr)).elim

/-- Twins with as many handles given out stay so. -/
lemma Twin.length_places_apply {m n : Nat} (h : s.Twin m n t) {op : Operation σ δ}
    (hlen : s.registry.places.length = t.registry.places.length) :
    (s.apply op).server.registry.places.length = (t.apply op).server.registry.places.length := by
  by_cases hop : op.Registers
  · cases op with
    | createVendor i =>
        rw [Server.apply, Server.apply, createVendor, createVendor]
        rcases hr : s.registry.create i with e | ⟨v, r⟩
        · rw [Registry.Same.create_error hr]
          exact hlen
        · obtain ⟨u, hu, -⟩ := h.registry.create hlen hr
          rw [hu]
          show r.places.length = u.places.length
          rw [Registry.length_create hr, Registry.length_create hu, hlen]
    | destroyVendor | beginGeneration | endGeneration | serve | clientGone | resourceFreed | perform
    | changeWorld => exact hop.elim
  · rw [s.length_places_of_not_registers hop, t.length_places_of_not_registers hop, hlen]

/-- Runs of routers that cannot be told apart. -/
lemma Twin.run {m n : Nat} (h : s.Twin m n t) (hs : s.Sound) {ops : List (Operation σ δ)}
    (hcreate : s.registry.places.length = t.registry.places.length ∨
      ∀ op ∈ ops, ¬ op.Registers) :
    List.Forall₂ (Deed.Twin m n) (s.run ops) (t.run ops) := by
  induction ops generalizing s t with
  | nil => exact .nil
  | cons op rest ih =>
      have hstep := h.apply hs op fun hop => hcreate.resolve_right fun hnone =>
        hnone op List.mem_cons_self hop
      rw [Server.run, Server.run]
      refine .cons (.intro hstep) ?_
      rw [hstep.result]
      cases (s.apply op).result with
      | error a => exact .nil
      | ok a =>
          refine ih hstep.server (hs.apply op) (hcreate.imp (h.length_places_apply ·) ?_)
          exact fun hnone o ho => hnone o (List.mem_cons_of_mem op ho)

end Server

/-- Take two routers between generations, with the same window system in the same world and with the
same vendors under the same handles. From the next generation on they do the same, operation by
operation: the results, the replies, the callbacks that are called and everything else that happens
are the same, and so are the routers afterwards, but for a constant difference of their counts of
queries. Handles are never used again, so if a vendor is registered on the way, the routers must have
given out the same number of handles before. -/
theorem generation_starts_afresh {s t : Server σ δ} (hs : s.Reachable) (ht : t.Reachable)
    (hsx : s.extension = none) (htx : t.extension = none) (host : t.host = s.host)
    (world : t.world = s.world) (nestingLimit : t.nestingLimit = s.nestingLimit)
    (vendors : ∀ v, t.registry.interface? v = s.registry.interface? v) (entry : ExtensionEntry)
    (ops : List (Operation σ δ))
    (hcreate : s.registry.places.length = t.registry.places.length ∨
      ∀ op ∈ ops, ¬ op.Registers) :
    List.Forall₂ (Deed.Twin s.dispatcher.queries t.dispatcher.queries)
      (s.run (.beginGeneration entry :: ops)) (t.run (.beginGeneration entry :: ops)) := by
  have hsame := Registry.same_of_uninitialized vendors hs.orderly ht.orderly (hs.idle hsx)
    (ht.idle htx)
  have hbegin := Server.Twin.of_beginGeneration hsx htx host world hsame nestingLimit
    (Nat.add_comm _ _) entry
  rw [Server.run, Server.run]
  refine .cons (.intro hbegin) ?_
  have hresult : (t.apply (.beginGeneration entry)).result =
      (s.apply (.beginGeneration entry)).result := hbegin.result
  rw [hresult]
  cases (s.apply (.beginGeneration entry)).result with
  | error a => exact .nil
  | ok a =>
      refine hbegin.server.run (hs.sound.apply (.beginGeneration entry)) (hcreate.imp_left ?_)
      intro hlen
      have hop : ¬ (Operation.beginGeneration entry : Operation σ δ).Registers := id
      exact (s.length_places_of_not_registers hop).trans
        (hlen.trans (t.length_places_of_not_registers hop).symm)

/-- A vendor is registered. -/
def registration : List (Operation Unit Nat) := [.createVendor (.obliging 0 none)]

/-- The vendor gets a resource, a client binds it, somebody asks for an unknown opcode, and the
generation is over. -/
def firstGeneration : List (Operation Unit Nat) :=
  registration ++ [.beginGeneration .sample,
    .perform (.call (.addXid 5 ⟨0⟩) fun _ => .done ()),
    .serve (.asking 7 Opcode.makeCurrent [6, 5, 0]), .serve (.asking 7 90 []), .endGeneration]

/-- The resource is gone, and so is the tag. -/
def nextGeneration : List (Operation Unit Nat) :=
  [.serve (.asking 7 Opcode.makeCurrent [6, 5, 0]), .serve (.asking 7 Opcode.render [1]),
    .serve (.asking 7 90 [])]

set_option maxRecDepth 8000 in
/-- A router in its second generation does what it would do in its first, although it has asked its
vendor once more. -/
theorem generation_starts_afresh_second :
    (Server.reached registration).Reachable ∧ (Server.reached firstGeneration).Reachable ∧
      (Server.reached registration).dispatcher.queries = 0 ∧
      (Server.reached firstGeneration).dispatcher.queries = 1 ∧
      List.Forall₂ (Deed.Twin 0 1)
        ((Server.reached registration).run (.beginGeneration .sample :: nextGeneration))
        ((Server.reached firstGeneration).run (.beginGeneration .sample :: nextGeneration)) := by
  have hs : (Server.reached registration).Reachable :=
    have hlead : (Server.new (.blank 1) () 4).Leads registration (.reached registration) :=
      .of_run (by decide +kernel)
    hlead.reachable (.new _ _ _)
  have ht : (Server.reached firstGeneration).Reachable :=
    have hlead : (Server.new (.blank 1) () 4).Leads firstGeneration (.reached firstGeneration) :=
      .of_run (by decide +kernel)
    hlead.reachable (.new _ _ _)
  have hsq : (Server.reached registration).dispatcher.queries = 0 := by decide +kernel
  have htq : (Server.reached firstGeneration).dispatcher.queries = 1 := by decide +kernel
  -- nobody came or went, so the handles are the same
  have hplaces : (Server.reached firstGeneration).registry.places =
      (Server.reached registration).registry.places := rfl
  have hvendors (v : VendorId) : (Server.reached firstGeneration).registry.interface? v =
      (Server.reached registration).registry.interface? v := by
    rw [Registry.interface?, Registry.get?, hplaces, ← Registry.get?,
      ← Registry.interface?]
  have hruns := generation_starts_afresh hs ht (by decide +kernel) (by decide +kernel) rfl rfl rfl
    hvendors .sample nextGeneration (.inl (congrArg List.length hplaces.symm))
  rw [hsq, htq] at hruns
  exact ⟨hs, ht, hsq, htq, hruns⟩

/-! ### Handles that were given out before -/

/-- Deeds that are twins give out the same handle, if any. -/
lemma Deed.Twin.handle?_eq {m n : Nat} {d e : Deed σ δ} (h : d.Twin m n e) :
    e.handle? = d.handle? := by
  obtain @⟨op, x, y, hxy⟩ := h
  cases op with
  | createVendor i =>
      rw [Deed.handle?, Deed.handle?, hxy.result]
  | _ => rfl

/-- A second vendor is registered, and freed again. -/
def freedRegistration : List (Operation Unit Nat) :=
  registration ++ [.createVendor (.obliging 0 none), .destroyVendor ⟨1⟩]

/-- A vendor that is registered in the next generation. -/
def lateRegistration : List (Operation Unit Nat) := [.createVendor (.obliging 0 none)]

/-- Two routers between generations have the same vendor under the same handle. One of them had
another vendor before, and the next vendor gets another handle from it. -/
theorem freed_handle_shows :
    (Server.reached registration).Reachable ∧ (Server.reached freedRegistration).Reachable ∧
      (Server.reached registration).extension = none ∧
      (Server.reached freedRegistration).extension = none ∧
      (Server.reached freedRegistration).host = (Server.reached registration).host ∧
      (Server.reached freedRegistration).world = (Server.reached registration).world ∧
      (Server.reached freedRegistration).nestingLimit = (Server.reached registration).nestingLimit ∧
      (∀ v, (Server.reached freedRegistration).registry.interface? v =
        (Server.reached registration).registry.interface? v) ∧
      ∀ m n, ¬ List.Forall₂ (Deed.Twin m n)
        ((Server.reached registration).run (.beginGeneration .sample :: lateRegistration))
        ((Server.reached freedRegistration).run (.beginGeneration .sample :: lateRegistration)) := by
  have hs : (Server.new (.blank 1) () 4).Leads registration (.reached registration) :=
    .of_run (by decide +kernel)
  have ht : (Server.new (.blank 1) () 4).Leads freedRegistration (.reached freedRegistration) :=
    .of_run (by decide +kernel)
  refine ⟨hs.reachable (.new _ _ _), ht.reachable (.new _ _ _), by decide +kernel,
    by decide +kernel, rfl, rfl, rfl, ?_, fun m n h => ?_⟩
  · rintro ⟨_ | _ | k⟩ <;> rfl
  · have hhandles := List.forall₂_map_left_iff.mpr
      (List.forall₂_map_right_iff.mpr (h.imp fun _ _ hd => hd.handle?_eq.symm))
    rw [List.forall₂_eq_eq_eq] at hhandles
    exact absurd hhandles (by decide +kernel)

end VendorDispatch
