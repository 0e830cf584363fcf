import VendorDispatch.Proofs.ActiveVendors
import VendorDispatch.Proofs.InStepService

/-!
A generation calls its vendors when it starts and when it ends, and these calls pair up.

* `initCalls`, `closeCalls`, `initFailures`: the calls by which vendors prepare for a generation and
  let go of it, and the vendors that failed to prepare, read off a journal.
* `Event.IsService`: an event of neither kind. Programs and requests enter no others
  (`interpret_service`, `apply_service`).
* `initVendors_prepared`, `closeVendors_calls`: which vendors are called at the start and at the end.
* `init_and_closeDown_pair`: a generation that has started closes down the vendors it has prepared,
  each of them once, whatever happens in between.
-/

namespace VendorDispatch

variable {σ δ α : Type}

/-! ### Calls at the start and at the end of a generation -/

namespace Event

/-- A vendor is asked to prepare for a generation. -/
def initCall? : Event δ → Option (VendorId × ExtensionEntry)
  | .called v _ (.init entry) => some (v, entry)
  | _ => none

/-- A vendor is asked to let go of everything. -/
def closeCall? : Event δ → Option (VendorId × ExtensionEntry)
  | .called v _ (.closeDown entry) => some (v, entry)
  | _ => none

/-- A vendor fails to prepare for a generation. -/
def initFailure? : Event δ → Option VendorId
  | .returned v (.init _) (.error _) => some v
  | _ => none

/-- The event is no call at the start or at the end of a generation, nor the failure of one. -/
structure IsService (e : Event δ) : Prop where
  initCall? : e.initCall? = none
  closeCall? : e.closeCall? = none
  initFailure? : e.initFailure? = none

lemma Like.isService {L : Likeness σ} {a b : Event δ} (h : Event.Like L a b) : a.IsService := by
  cases h with
  | called v i h => cases h <;> exact ⟨rfl, rfl, rfl⟩
  | returned v h hru => cases h <;> exact ⟨rfl, rfl, rfl⟩
  | drawableAsked | resourceAsked | exported | legalAsked | noted => exact ⟨rfl, rfl, rfl⟩

end Event

/-- The vendors that were asked to prepare for a generation, with what they were told, in order. -/
def initCalls (journal : List (Event δ)) : List (VendorId × ExtensionEntry) :=
  journal.filterMap Event.initCall?

/-- The vendors that were asked to let go of everything, with what they were told, in order. -/
def closeCalls (journal : List (Event δ)) : List (VendorId × ExtensionEntry) :=
  journal.filterMap Event.closeCall?

/-- The vendors that failed to prepare for a generation, in order. -/
def initFailures (journal : List (Event δ)) : List VendorId :=
  journal.filterMap Event.initFailure?

section Append

variable (first second : List (Event δ))

@[simp] lemma initCalls_append :
    initCalls (first ++ second) = initCalls first ++ initCalls second :=
  List.filterMap_append

@[simp] lemma closeCalls_append :
    closeCalls (first ++ second) = closeCalls first ++ closeCalls second :=
  List.filterMap_append

@[simp] lemma initFailures_append :
    initFailures (first ++ second) = initFailures first ++ initFailures second :=
  List.filterMap_append

end Append

/-- Nothing but service. -/
def OnlyService (journal : List (Event δ)) : Prop := ∀ e ∈ journal, e.IsService

namespace OnlyService

variable {journal : List (Event δ)} (h : OnlyService journal)

include h

@[simp] lemma initCalls_eq : initCalls journal = [] :=
  List.filterMap_eq_nil_iff.mpr fun e he => (h e he).initCall?

@[simp] lemma closeCalls_eq : closeCalls journal = [] :=
  List.filterMap_eq_nil_iff.mpr fun e he => (h e he).closeCall?

@[simp] lemma initFailures_eq : initFailures journal = [] :=
  List.filterMap_eq_nil_iff.mpr fun e he => (h e he).initFailure?

lemma reverse : OnlyService journal.reverse :=
  fun e he => h e (List.mem_reverse.mp he)

end OnlyService

/-- An empty journal tells of no start and no end. -/
lemma onlyService_nil : OnlyService ([] : List (Event δ)) := fun _ he => by cases he

/-- Events that are compared with others are service. -/
lemma onlyService_of_forall₂ {L : Likeness σ} {l m : List (Event δ)}
    (h : List.Forall₂ (Event.Like L) l m) : OnlyService l := by
  intro e he
  induction h with
  | nil => cases he
  | cons hab _ ih =>
      rcases List.mem_cons.mp he with rfl | he
      · exact hab.isService
      · exact ih he

/-- The vendors with the required callbacks, in the order of registration. -/
def Registry.complete (r : Registry σ δ) : List VendorId :=
  r.ids.filter fun v => (r.interface? v).any VendorInterface.isComplete

lemma Registry.interface?_demote (r : Registry σ δ) (id v : VendorId) :
    (r.demote id).interface? v = r.interface? v := by
  rw [interface?, get?_demote, interface?]
  split_ifs
  · rw [Option.map_map]
    rfl
  · rfl

lemma Registry.interface?_mapVendors (r : Registry σ δ) {f : Vendor σ δ → Vendor σ δ}
    (hf : ∀ v, (f v).interface = v.interface) (v : VendorId) :
    (r.mapVendors f).interface? v = r.interface? v := by
  rw [interface?, get?_mapVendors, interface?, Option.map_map]
  exact congrArg (Option.map · (r.get? v)) (funext hf)

lemma Registry.SameActive.trans {r u x : Registry σ δ} (h : r.SameActive u) (h' : u.SameActive x) :
    r.SameActive x where
  active := h'.active.trans h.active
  interface? v hv := (h'.interface? v (h.active ▸ hv)).trans (h.interface? v hv)

/-- Whether a vendor has a callback to prepare for a generation. -/
def Registry.hasInit (r : Registry σ δ) (v : VendorId) : Bool :=
  ((r.interface? v).bind VendorInterface.init).isSome

/-- Whether a vendor has a callback to let go of everything. -/
def Registry.hasCloseDown (r : Registry σ δ) (v : VendorId) : Bool :=
  ((r.interface? v).bind VendorInterface.closeDown).isSome

/-! ### Service -/

/-- A program of a vendor calls nobody at the start or at the end of a generation. -/
lemma interpret_service (env : Environment σ δ) (p : Program σ δ α) (s : Session σ δ) :
    Ends (env.interpret p) s (fun _ t => ∃ new, t.journal = new ++ s.journal ∧ OnlyService new)
      fun _ t => ∃ new, t.journal = new ++ s.journal ∧ OnlyService new := by
  have hself := inStep_interpret (Environment.like_equal (e := env) rfl rfl rfl (.refl _))
    (Likeness.owned_eq _) p.inStep_self { s with journal := [] } { s with journal := [] }
    ⟨rfl, rfl, .nil⟩
  have hcommutes : Commutes (Session.atop s.journal) (env.interpret p) := commutes_interpret env p
  have hatop := hcommutes { s with journal := [] }
  have hs : Session.atop s.journal { s with journal := [] } = s := rfl
  rw [hs] at hatop
  rw [Ends, hatop]
  have hnew := onlyService_of_forall₂ hself.leftState.journal
  rcases hx : env.interpret p { s with journal := [] } with ⟨a, t⟩ | ⟨e, t⟩ <;> rw [hx] at hnew
  · exact ⟨t.journal, rfl, hnew⟩
  · exact ⟨t.journal, rfl, hnew⟩

namespace Server

variable {s t : Server σ δ}

/-- The router does the same as itself, and calls nobody at the start or at the end of a generation
while it serves a request. -/
lemma serve_service (hs : s.Sound) (c : Client) : OnlyService (s.serve c).journal := by
  have hself := ((like_equal rfl rfl (.refl _) rfl rfl rfl : s.Like .equal Eq s).serve_equal hs
    (.refl _) c).1
  exact onlyService_of_forall₂ hself.journal

/-- A vendor that acts on its own starts and ends nothing. -/
lemma perform_service (s : Server σ δ) (p : Program σ δ α) :
    OnlyService (s.perform p).journal := by
  obtain ⟨new, hnew, h⟩ :=
    (runSession_leaves (interpret_service s.environment p s.session)).session
  have hj : (s.perform p).journal.reverse = new ++ [] := hnew
  rw [List.append_nil, List.reverse_eq_iff] at hj
  rw [hj]
  exact h.reverse

/-- Within a generation, no operation but its end calls vendors at the start or at the end of a
generation. -/
lemma apply_service (hs : s.Sound) (he : s.extension ≠ none) {op : Operation σ δ}
    (hop : op ≠ .endGeneration) : OnlyService (s.apply op).journal := by
  cases op with
  | createVendor i =>
      rw [journal_createVendor]
      exact onlyService_nil
  | destroyVendor v =>
      rw [journal_destroyVendor]
      exact onlyService_nil
  | beginGeneration entry =>
      obtain ⟨e, he⟩ := Option.ne_none_iff_exists'.mp he
      rw [Server.apply, beginGeneration_of_some he]
      exact onlyService_nil
  | endGeneration => exact (hop rfl).elim
  | serve c => exact serve_service hs c
  | perform program => exact s.perform_service program
  | clientGone | resourceFreed | changeWorld => exact onlyService_nil

/-! ### The start of a generation -/

/-- What the journal says of vendors that were asked to prepare for a generation, of which some
failed. -/
structure Prepared (r : Registry σ δ) (entry : ExtensionEntry) (vendors failed : List VendorId)
    (journal : List (Event δ)) : Prop where
  initCalls : initCalls journal = (vendors.filter r.hasInit).map (·, entry)
  closeCalls : closeCalls journal = []
  initFailures : initFailures journal = failed

/-- Vendors that were prepared, followed by others that were. -/
lemma Prepared.append {r : Registry σ δ} {entry : ExtensionEntry} {vendors failed : List VendorId}
    {journal : List (Event δ)} (h : Prepared r entry vendors failed journal)
    {vendors' failed' : List VendorId} {journal' : List (Event δ)}
    (h' : Prepared r entry vendors' failed' journal') :
    Prepared r entry (vendors ++ vendors') (failed ++ failed') (journal ++ journal') where
  initCalls := by simp [h.initCalls, h'.initCalls]
  closeCalls := by simp [h.closeCalls, h'.closeCalls]
  initFailures := by simp [h.initFailures, h'.initFailures]

/-- What was prepared is told by the callbacks alone. -/
lemma Prepared.congr {r u : Registry σ δ} {entry : ExtensionEntry} {vendors failed : List VendorId}
    {journal : List (Event δ)} (h : Prepared u entry vendors failed journal)
    (hru : ∀ v, u.interface? v = r.interface? v) : Prepared r entry vendors failed journal := by
  have hinit : u.hasInit = r.hasInit := by
    funext v
    rw [Registry.hasInit, hru, ← Registry.hasInit]
  exact ⟨hinit ▸ h.initCalls, h.closeCalls, h.initFailures⟩

/-- A vendor is asked to prepare if it has a callback for that, and fails if the callback does. -/
lemma initVendor_prepared (entry : ExtensionEntry) (v : VendorId) {a : Except Error Unit}
    (ha : (s.runSession (initVendor s.environment entry v)).result = .ok a) :
    Prepared s.registry entry [v] (if a.toBool then [] else [v])
      (s.runSession (initVendor s.environment entry v)).journal := by
  have hends : Ends (initVendor s.environment entry v) s.session
      (fun a t => Prepared s.registry entry [v] (if a.toBool then [] else [v]) t.journal.reverse)
      fun _ _ => True := by
    rw [initVendor]
    cases hi : (s.environment.registry.interface? v).bind VendorInterface.init with
    | none =>
        have hinit : s.registry.hasInit v = false := by
          rw [Registry.hasInit, show s.registry = s.environment.registry from rfl, hi]
          rfl
        -- without a callback nobody is called
        refine ⟨?_, rfl, rfl⟩
        rw [List.filter_singleton, hinit]
        rfl
    | some init =>
        have hinit : s.registry.hasInit v = true := by
          rw [Registry.hasInit, show s.registry = s.environment.registry from rfl, hi]
          rfl
        refine (ends_calling (.init entry)).mpr
          ((interpret_service s.environment (init entry v) _).mono ?_ fun _ _ _ => trivial)
        rintro a t ⟨new, hnew, hservice⟩
        have hrev := hservice.reverse
        -- between the call and its answer stands what the vendor does, which is no call to vendors
        have hj : (t.enter (.returned v (.init entry) a)).journal.reverse =
            [.called v (s.environment.registry.isInitialized v) (.init entry)] ++ new.reverse ++
              [.returned v (.init entry) a] := by
          rw [Session.journal_enter, hnew, List.reverse_cons, List.reverse_append]
          rfl
        rw [hj]
        constructor
        · rw [initCalls_append, initCalls_append, hrev.initCalls_eq, List.filter_singleton, hinit]
          rfl
        · rw [closeCalls_append, closeCalls_append, hrev.closeCalls_eq]
          rfl
        · rw [initFailures_append, initFailures_append, hrev.initFailures_eq]
          cases a <;> rfl
  have hleaves := runSession_leaves hends
  rw [Step.Leaves, ha] at hleaves
  simpa [Step.session] using hleaves

/-- The vendors are asked in turn, and those that fail are out of the generation. -/
lemma initVendors_prepared (entry : ExtensionEntry) {vendors : List VendorId} {s : Server σ δ}
    {journal : List (Event δ)} (h : (initVendors entry vendors s journal).result = .ok ()) :
    ∃ new, (initVendors entry vendors s journal).journal = journal ++ new ∧
      Prepared s.registry entry vendors (initFailures new) new ∧
      (initVendors entry vendors s journal).server.registry.active =
        s.registry.active.filter (fun v => v ∉ initFailures new) ∧
      ∀ v, (initVendors entry vendors s journal).server.registry.interface? v =
        s.registry.interface? v := by
  induction vendors generalizing s journal with
  | nil =>
      exact ⟨[], by simp [initVendors], ⟨rfl, rfl, rfl⟩, by simp [initVendors, initFailures],
        fun _ => rfl⟩
  | cons v rest ih =>
      have hreg := (s.runSession_sameVendors (initVendor s.environment entry v)).registry
      rw [initVendors] at h ⊢
      dsimp only at h ⊢
      cases ha : (s.runSession (initVendor s.environment entry v)).result with
      | error a =>
          rw [ha] at h
          cases h
      | ok a =>
          have hv := initVendor_prepared entry v ha
          rw [ha] at h
          cases a with
          | ok _ =>
              -- the first vendor takes part
              obtain ⟨new, hj, hp, hactive, hinterface⟩ := ih h
              rw [hreg] at hp hactive hinterface
              refine ⟨_ ++ new, hj.trans (List.append_assoc _ _ _), ?_, ?_, hinterface⟩
              · rw [initFailures_append, hv.initFailures]
                exact hv.append hp
              · rw [initFailures_append, hv.initFailures]
                exact hactive
          | error e =>
              obtain ⟨new, hj, hp, hactive, hinterface⟩ := ih h
              -- it fails, and the others go on without it; its callbacks stay
              have hdemote := Registry.interface?_demote s.registry v
              dsimp only at hp
              rw [hreg] at hp
              refine ⟨_ ++ new, hj.trans (List.append_assoc _ _ _), ?_, ?_, ?_⟩
              · rw [initFailures_append, hv.initFailures]
                exact hv.append (hp.congr hdemote)
              · rw [initFailures_append, hv.initFailures]
                refine hactive.trans ?_
                dsimp only
                rw [hreg, Registry.demote, List.filter_filter]
                exact List.filter_congr fun w _ => by simp [Except.toBool, Bool.and_comm]
              · intro w
                refine (hinterface w).trans ?_
                dsimp only
                rw [hreg, hdemote]

/-- A generation that starts has asked every complete vendor to prepare, and those that did not fail
take part in it. -/
lemma beginGeneration_prepared {entry : ExtensionEntry}
    (h : (s.beginGeneration entry).result = .ok (.ok ())) :
    Prepared s.registry entry s.registry.complete (initFailures (s.beginGeneration entry).journal)
        (s.beginGeneration entry).journal ∧
      (s.beginGeneration entry).server.registry.active =
        s.registry.complete.filter (fun v => v ∉ initFailures (s.beginGeneration entry).journal) ∧
      ∀ v, (s.beginGeneration entry).server.registry.interface? v = s.registry.interface? v := by
  have hinterface (v : VendorId) :
      s.registry.beginGeneration.interface? v = s.registry.interface? v := by
    refine s.registry.interface?_mapVendors (fun w => ?_) v
    split_ifs <;> rfl
  rw [beginGeneration] at h ⊢
  cases he : s.extension with
  | some e =>
      rw [he] at h
      cases h
  | none =>
      rw [he] at h
      dsimp only at h ⊢
      -- the generation has started, so no vendor broke off
      have hok : (initVendors entry s.registry.beginGeneration.active
          { s with
            registry := s.registry.beginGeneration
            ownership := .vacant s.screenCount
            dispatcher := s.dispatcher.reset
            extension := some entry } []).result = .ok () := by
        cases hr : (initVendors entry _ _ _).result with
        | ok _ => rfl
        | error a =>
            rw [hr] at h
            cases h
      obtain ⟨new, hj, hp, hactive, hi⟩ := initVendors_prepared entry hok
      rw [List.nil_append] at hj
      rw [hj]
      exact ⟨hp.congr hinterface, hactive, fun v => (hi v).trans (hinterface v)⟩

/-! ### Within a generation -/

/-- Operations other than its end leave the participants of a generation alone. -/
lemma Leads.sameActive {ops : List (Operation σ δ)} (h : s.Leads ops t) (hs : s.Sound)
    (he : s.extension ≠ none) (hops : ∀ op ∈ ops, op ≠ .endGeneration) :
    t.extension = s.extension ∧ s.registry.SameActive t.registry := by
  induction h with
  | nil => exact ⟨rfl, .refl _⟩
  | @concat ops u op a hu _ ih =>
      obtain ⟨hext, hsame⟩ := ih fun o ho => hops o (List.mem_append_left _ ho)
      have hop := hops op (List.mem_append_right _ List.mem_cons_self)
      have hue : u.extension ≠ none := hext ▸ he
      exact ⟨(apply_extension hue hop).trans hext,
        hsame.trans ((hu.sound hs).apply_sameActive hue hop)⟩

/-- No vendor is called at the start or at the end of a generation while the generation lasts. -/
lemma run_service (hs : s.Sound) (he : s.extension ≠ none) {ops : List (Operation σ δ)}
    (hops : ∀ op ∈ ops, op ≠ .endGeneration) {d : Deed σ δ} (hd : d ∈ s.run ops) :
    OnlyService d.step.journal := by
  induction ops generalizing s with
  | nil => cases hd
  | cons op rest ih =>
      have hop := hops op List.mem_cons_self
      cases hr : (s.apply op).result with
      | error a =>
          rw [run_cons_of_error hr, List.mem_singleton] at hd
          subst hd
          exact apply_service hs he hop
      | ok a =>
          rw [run_cons_of_ok hr, List.mem_cons] at hd
          rcases hd with rfl | hd
          · exact apply_service hs he hop
          · exact ih (hs.apply op) (by rwa [apply_extension he hop])
              (fun o ho => hops o (List.mem_cons_of_mem op ho)) hd

/-! ### The end of a generation -/

/-- The vendors are told in turn that the generation is over, and none of them can object. -/
lemma closeVendors_calls (env : Environment σ δ) (entry : ExtensionEntry)
    (vendors : List VendorId) (u : Session σ δ) :
    Ends (closeVendors env entry vendors) u
      (fun _ v => ∃ new, v.journal = new ++ u.journal ∧ initCalls new.reverse = [] ∧
        closeCalls new.reverse = (vendors.filter env.registry.hasCloseDown).map (·, entry))
      fun _ _ => False := by
  induction vendors generalizing u with
  | nil => exact ⟨[], rfl, rfl, rfl⟩
  | cons v rest ih =>
      rw [closeVendors]
      cases hc : (env.registry.interface? v).bind VendorInterface.closeDown with
      | none =>
          have hv : env.registry.hasCloseDown v = false := by rw [Registry.hasCloseDown, hc]; rfl
          rw [List.filter_cons_of_neg (by simp [hv])]
          -- without a callback nobody is called
          exact ih u
      | some closeDown =>
          have hv : env.registry.hasCloseDown v = true := by rw [Registry.hasCloseDown, hc]; rfl
          rw [List.filter_cons_of_pos hv]
          refine ends_bind.mpr ((ends_calling (.closeDown entry)).mpr ?_)
          refine (ih _).mono ?_ fun _ _ => id
          rintro _ w ⟨new, hj, hinit, hclose⟩
          -- the calls of the others come after the call and the answer of this one
          refine ⟨new ++ [.returned v (.closeDown entry) (),
            .called v (env.registry.isInitialized v) (.closeDown entry)], ?_, ?_, ?_⟩
          · rw [hj, List.append_assoc]
            rfl
          · rw [List.reverse_append, initCalls_append, hinit]
            rfl
          · rw [List.reverse_append, closeCalls_append, hclose]
            rfl

/-- A generation ends by telling its participants so. -/
lemma endGeneration_calls {entry : ExtensionEntry} (he : s.extension = some entry) :
    s.endGeneration.result = .ok (.ok ()) ∧ initCalls s.endGeneration.journal = [] ∧
      closeCalls s.endGeneration.journal =
        (s.registry.initializedIds.filter s.registry.hasCloseDown).map (·, entry) := by
  have hends := closeVendors_calls s.closed.environment entry s.registry.initializedIds
    s.closed.session
  have hleaves : (s.closing entry).Leaves _ _ := runSession_leaves hends
  -- vendors are demoted before they are told, but keep their callbacks
  have hclose : s.closed.registry.hasCloseDown = s.registry.hasCloseDown := by
    funext v
    have hv : s.registry.endGeneration.interface? v = s.registry.interface? v :=
      s.registry.interface?_mapVendors (f := fun w => { w with initialized := false })
        (fun _ => rfl) v
    rw [Registry.hasCloseDown, Registry.hasCloseDown, ← hv]
    rfl
  have hj : s.endGeneration.journal = (s.closing entry).journal := by
    rw [endGeneration, he]
    rfl
  have hr : s.endGeneration.result = (s.closing entry).result.map .ok := by
    rw [endGeneration, he]
    rfl
  rw [Step.Leaves] at hleaves
  rw [hj, hr]
  -- to tell them cannot be broken off
  cases hres : (s.closing entry).result with
  | error a =>
      rw [hres] at hleaves
      exact hleaves.elim
  | ok _ =>
      rw [hres] at hleaves
      obtain ⟨new, hnew, hinit, hcalls⟩ := hleaves
      have hnew' : (s.closing entry).journal.reverse = new ++ [] := hnew
      rw [List.append_nil, List.reverse_eq_iff] at hnew'
      rw [hnew']
      exact ⟨rfl, hinit, by rw [hcalls, ← hclose]; rfl⟩

end Server

/-- A generation that starts asks every complete vendor to prepare that has a callback for it, once
and in the order of registration, and no other vendor. Whatever happens until it ends, no vendor is
asked again. Its end cannot fail: it closes down those complete vendors that have not failed to
prepare, once and in the same order, with the registration they were given at the start. A second
start during a generation, and an end outside of one, fail, call nobody and change nothing. -/
theorem init_and_closeDown_pair {s : Server σ δ} (hs : s.Reachable) (entry : ExtensionEntry) :
    (s.extension ≠ none →
      s.beginGeneration entry = ⟨.ok (.error .extensionAlreadyInitialized), [], s⟩) ∧
    (s.extension = none →
      s.endGeneration = ⟨.ok (.error .extensionNotInitialized), [], s⟩) ∧
    ((s.beginGeneration entry).result = .ok (.ok ()) →
      initCalls (s.beginGeneration entry).journal =
          (s.registry.complete.filter s.registry.hasInit).map (·, entry) ∧
        closeCalls (s.beginGeneration entry).journal = [] ∧
        ∀ ops : List (Operation σ δ), (∀ op ∈ ops, op ≠ .endGeneration) →
          (∀ d ∈ (s.beginGeneration entry).server.run ops,
            initCalls d.step.journal = [] ∧ closeCalls d.step.journal = []) ∧
          ∀ t, (s.beginGeneration entry).server.Leads ops t →
            t.endGeneration.result = .ok (.ok ()) ∧ initCalls t.endGeneration.journal = [] ∧
              closeCalls t.endGeneration.journal =
                (s.registry.complete.filter fun v =>
                  v ∉ initFailures (s.beginGeneration entry).journal).map (·, entry)) := by
  refine ⟨fun he => ?_, Server.endGeneration_of_none, fun hok => ?_⟩
  · obtain ⟨e, he⟩ := Option.ne_none_iff_exists'.mp he
    exact Server.beginGeneration_of_some he entry
  obtain ⟨hprepared, hactive, hinterface⟩ := Server.beginGeneration_prepared hok
  have hidle : s.extension = none := by
    rcases he : s.extension with _ | e
    · rfl
    · rw [Server.beginGeneration_of_some he] at hok
      cases hok
  have hext := (Server.beginGeneration_frame hidle entry).1
  have hne : (s.beginGeneration entry).server.extension ≠ none := by simp [hext]
  have hreach : (s.beginGeneration entry).server.Reachable :=
    .apply (.beginGeneration entry) (.ok ()) hs hok
  refine ⟨hprepared.initCalls, hprepared.closeCalls, fun ops hops => ⟨fun d hd => ?_, ?_⟩⟩
  · have hservice := Server.run_service hreach.sound hne hops hd
    exact ⟨hservice.initCalls_eq, hservice.closeCalls_eq⟩
  intro t ht
  obtain ⟨htext, hsame⟩ := ht.sameActive hreach.sound hne hops
  obtain ⟨hr, hinit, hclose⟩ := Server.endGeneration_calls (htext.trans hext)
  have hids : t.registry.initializedIds = s.registry.complete.filter
      fun v => v ∉ initFailures (s.beginGeneration entry).journal := by
    rw [← (ht.reachable hreach).orderly.active_eq, hsame.active, hactive]
  refine ⟨hr, hinit, ?_⟩
  rw [hclose, hids, List.filter_eq_self.mpr]
  -- Every participant is complete, and so it has a callback to let go.
  intro v hv
  have hcomplete := (List.mem_filter.mp (List.mem_filter.mp hv).1).2
  rw [Option.any_eq_true] at hcomplete
  obtain ⟨i, hi, hc⟩ := hcomplete
  have hvt : t.registry.interface? v = some i := by
    rw [hsame.interface? v (by rw [hactive]; exact hv), hinterface, hi]
  rw [Registry.hasCloseDown, hvt, Option.bind_some]
  exact (VendorInterface.isComplete_iff.mp hc).1

/-- Four vendors are registered: one that prepares, one that fails to, one without a required
callback, and one that need not prepare. -/
def mixedRegistration : List (Operation Unit Nat) :=
  [.createVendor (.obliging 0 none),
    .createVendor { VendorInterface.obliging 0 none with
      init := some fun _ _ => .done (.error .failed) },
    .createVendor { VendorInterface.obliging 0 none with makeCurrent := none },
    .createVendor { VendorInterface.obliging 0 none with init := none }]

/-- The router after the four vendors are registered. -/
def mixedVendors : Server Unit Nat := .reached mixedRegistration

/-- A vendor is registered, the one that failed is freed, and somebody tries to start another
generation. -/
def meanwhile : List (Operation Unit Nat) :=
  [.createVendor (.obliging 0 none), .destroyVendor ⟨1⟩, .beginGeneration .sample]

/-- The first and the last of the four vendors are closed down. -/
theorem init_and_closeDown_pair_mixed :
    mixedVendors.Reachable ∧
      (mixedVendors.beginGeneration .sample).result = .ok (.ok ()) ∧
      (∀ op ∈ meanwhile, op ≠ .endGeneration) ∧
      initCalls (mixedVendors.beginGeneration .sample).journal =
        [(⟨0⟩, .sample), (⟨1⟩, .sample)] ∧
      ∃ t, (mixedVendors.beginGeneration .sample).server.Leads meanwhile t ∧
        closeCalls t.endGeneration.journal = [(⟨0⟩, .sample), (⟨3⟩, .sample)] := by
  have hlead : (Server.new (.blank 1) () 4).Leads mixedRegistration mixedVendors :=
    .of_run (by decide +kernel)
  have hreach : mixedVendors.Reachable := hlead.reachable (.new _ _ _)
  have hok : (mixedVendors.beginGeneration .sample).result = .ok (.ok ()) := by decide +kernel
  have hops : ∀ op ∈ meanwhile, op ≠ .endGeneration := by simp [meanwhile]
  have hrun : (mixedVendors.beginGeneration .sample).server.Leads meanwhile _ :=
    .of_run (by decide +kernel)
  obtain ⟨-, -, hpair⟩ := init_and_closeDown_pair hreach .sample
  obtain ⟨hinit, -, hlater⟩ := hpair hok
  obtain ⟨-, -, hclose⟩ := (hlater meanwhile hops).2 _ hrun
  refine ⟨hreach, hok, hops, hinit.trans (by decide +kernel), _, hrun, hclose.trans ?_⟩
  decide +kernel

end VendorDispatch
