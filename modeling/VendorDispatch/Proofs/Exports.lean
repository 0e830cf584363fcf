import VendorDispatch.Proofs.Confinement
import VendorDispatch.Proofs.Ledger

/-!
What a vendor can change through the exports, and what it cannot.

All that the exports let a vendor change is who owns a screen or a resource, and the private data on
a tag that it names together with its owner. What has changed can be read off the calls that were
accepted, and a call is refused for one reason only.

* `screenAfter`, `dataAfter`: the owner of a screen and the private data on a tag after the export
  calls in a journal; `ownerAfter` does the same for resources.
* `Environment.AnswersRightly`: the answers that export calls get.
* `Environment.Effects`: what lies between two sessions, told by the events between them.
  `preserved_effects`: every export call adds its own event, so every program of every vendor has
  these effects and no others.
* `exports_effects`: all of it, of a program that runs on a router.
-/

namespace VendorDispatch

variable {σ δ α : Type}

/-! ### What accepted calls change -/

/-- The owner of a screen after an event. -/
def Event.reassign (screen : Nat) (owner : Option VendorId) : Event δ → Option VendorId
  | .exported (.setScreenVendor i v) (.ok ()) => if i = screen then some v else owner
  | _ => owner

/-- The owner of a screen after the events of a journal. -/
def screenAfter (screen : Nat) (journal : List (Event δ)) (owner : Option VendorId) :
    Option VendorId :=
  journal.foldl (Event.reassign screen) owner

/-- The private data on a tag of a client after an event. A tag that is not live has none. -/
def Event.restore (client : ClientId) (tag : ContextTag) (data : Option (Option δ)) :
    Event δ → Option (Option δ)
  | .exported (.setTagData c t _ new) true =>
    if c = client ∧ t = tag then data.map fun _ => new else data
  | _ => data

/-- The private data on a tag of a client after the events of a journal. -/
def dataAfter (client : ClientId) (tag : ContextTag) (journal : List (Event δ))
    (data : Option (Option δ)) : Option (Option δ) :=
  journal.foldl (Event.restore client tag) data

/-- The entry without the private data. -/
def TagInfo.bare (e : TagInfo δ) : TagInfo δ := { e with data := none }

/-! ### What calls answer -/

namespace Environment

variable (env : Environment σ δ)

/-- Why a vendor is refused a screen. -/
def refusal (v : VendorId) : Error :=
  if !env.registry.contains v then .unknownVendor
  else if !env.registry.isInitialized v then .vendorNotInitialized
  else .badScreen

/-- The answer to an export call is the right one, when some events have happened since `s`. -/
def AnswersRightly (s : Session σ δ) (before : List (Event δ)) : Event δ → Prop
  | .exported (.setTagData c tag v _) stored =>
    stored = true ↔ (s.ownership.lookupTag c tag).bind TagInfo.owner = some v
  | .exported (.setScreenVendor i v) (.ok ()) =>
    env.registry.contains v = true ∧ env.registry.isInitialized v = true ∧
      i < s.ownership.screens.length
  | .exported (.setScreenVendor _ v) (.error e) => e = env.refusal v
  | .exported (.addXid id v) added =>
    added = true ↔ env.registry.contains v = true ∧ id ≠ 0 ∧
      ownerAfter id before (s.ownership.xids.get? id) = none
  | _ => True

variable {env} {s t : Session σ δ} {events : List (Event δ)}

/-- A vendor may have a screen if it is initialized and there is such a screen. -/
def MayAssign (t : Session σ δ) (i : Nat) (v : VendorId) : Prop :=
  env.registry.isInitialized v = true ∧ i < env.host.screenCount t.world ∧
    i < t.ownership.screens.length

/-- A screen changes its owner. -/
lemma perform_setScreenVendor_of_mayAssign {i : Nat} {v : VendorId} (h : env.MayAssign t i v) :
    env.perform (.setScreenVendor i v) t =
      .ok (.ok ()) (t.withOwnership
        { t.ownership with screens := t.ownership.screens.set i (some v) }) := by
  obtain ⟨hi, hw, hs⟩ := h
  have hscreen : t.ownership.setScreenVendor? i v =
      some { t.ownership with screens := t.ownership.screens.set i (some v) } := by
    rw [Ownership.setScreenVendor?, if_pos hs]
  have hends : Ends (env.setScreenVendor i v) t (fun answer u => answer = .ok () ∧ u =
      t.withOwnership { t.ownership with screens := t.ownership.screens.set i (some v) })
      fun _ _ => False := by
    rw [setScreenVendor, Registry.contains_of_isInitialized hi, hi]
    refine ends_bind.mpr (ends_world.mpr ?_)
    rw [if_neg (Nat.not_le.mpr hw)]
    refine ends_bind.mpr (ends_ownership.mpr ?_)
    rw [hscreen]
    exact ⟨rfl, rfl⟩
  obtain ⟨_, _, hwork, rfl, rfl⟩ := hends.exists_ok
  exact hwork

/-- A screen is refused for the reason that the error says, and nothing happens. -/
lemma perform_setScreenVendor_of_not {i : Nat} {v : VendorId} (h : ¬ env.MayAssign t i v) :
    env.perform (.setScreenVendor i v) t = .ok (.error (env.refusal v)) t := by
  have hends : Ends (env.setScreenVendor i v) t
      (fun answer u => answer = .error (env.refusal v) ∧ u = t) fun _ _ => False := by
    rw [setScreenVendor, refusal]
    split_ifs with hc hi
    · exact ⟨rfl, rfl⟩
    · exact ⟨rfl, rfl⟩
    · refine ends_bind.mpr (ends_world.mpr ?_)
      split_ifs with hw
      · exact ⟨rfl, rfl⟩
      · have hs : ¬ i < t.ownership.screens.length := fun hs =>
          h ⟨by simpa using hi, Nat.lt_of_not_le hw, hs⟩
        refine ends_bind.mpr (ends_ownership.mpr ?_)
        rw [Ownership.setScreenVendor?, if_neg hs]
        exact ⟨rfl, rfl⟩
  obtain ⟨_, _, hwork, rfl, rfl⟩ := hends.exists_ok
  exact hwork

/-- What lies between two sessions, told by the events between them. -/
structure Effects (env : Environment σ δ) (s : Session σ δ) (events : List (Event δ))
    (t : Session σ δ) : Prop where
  /-- The events were entered into the journal. -/
  journal : t.journal = events.reverse ++ s.journal
  /-- The same tags are live, and all about them is the same but the private data. -/
  tags : ∀ c tag, (t.ownership.lookupTag c tag).map TagInfo.bare =
    (s.ownership.lookupTag c tag).map TagInfo.bare
  /-- The private data on a tag is what was stored last. -/
  data : ∀ c tag, (t.ownership.lookupTag c tag).map TagInfo.data =
    dataAfter c tag events ((s.ownership.lookupTag c tag).map TagInfo.data)
  /-- There are as many screens. -/
  screens : t.ownership.screens.length = s.ownership.screens.length
  /-- The owner of a screen is the vendor that it was given to last. -/
  screen : ∀ i, t.ownership.screenVendor i = screenAfter i events (s.ownership.screenVendor i)
  /-- The owner of a resource is the vendor that added it, unless it was removed again. -/
  xid : ∀ k, t.ownership.xids.get? k = ownerAfter k events (s.ownership.xids.get? k)
  /-- The answers to the calls are right. -/
  answers : ∀ before e later, events = before ++ e :: later → env.AnswersRightly s before e

lemma Effects.refl (env : Environment σ δ) (s : Session σ δ) : env.Effects s [] s where
  journal := rfl
  tags _ _ := rfl
  data _ _ := rfl
  screens := rfl
  screen _ := rfl
  xid _ := rfl
  answers before e later h := by simp at h

/-- The owner of a tag is the same. -/
lemma Effects.owner (h : env.Effects s events t) (c : ClientId) (tag : ContextTag) :
    (t.ownership.lookupTag c tag).bind TagInfo.owner =
      (s.ownership.lookupTag c tag).bind TagInfo.owner := by
  have hbare : ∀ e : Option (TagInfo δ), e.bind TagInfo.owner =
      (e.map TagInfo.bare).bind TagInfo.owner := by
    rintro (_ | e) <;> rfl
  rw [hbare, h.tags, ← hbare]

/-- One more event, with what it does. -/
lemma Effects.enter (h : env.Effects s events t) {o : Ownership δ} {e : Event δ}
    (htags : ∀ c tag, (o.lookupTag c tag).map TagInfo.bare =
      (t.ownership.lookupTag c tag).map TagInfo.bare)
    (hdata : ∀ c tag, (o.lookupTag c tag).map TagInfo.data =
      e.restore c tag ((t.ownership.lookupTag c tag).map TagInfo.data))
    (hscreens : o.screens.length = t.ownership.screens.length)
    (hscreen : ∀ i, o.screenVendor i = e.reassign i (t.ownership.screenVendor i))
    (hxid : ∀ k, o.xids.get? k = e.rebook k (t.ownership.xids.get? k))
    (hright : env.AnswersRightly s events e) :
    env.Effects s (events ++ [e]) ((t.withOwnership o).enter e) where
  journal := by
    rw [Session.journal_enter, Session.journal_withOwnership, h.journal, List.reverse_append]
    rfl
  tags c tag := (htags c tag).trans (h.tags c tag)
  data c tag := by
    rw [dataAfter, List.foldl_concat, ← dataAfter, ← h.data]
    exact hdata c tag
  screens := hscreens.trans h.screens
  screen i := by
    rw [screenAfter, List.foldl_concat, ← screenAfter, ← h.screen]
    exact hscreen i
  xid k := by
    rw [ownerAfter, List.foldl_concat, ← ownerAfter, ← h.xid]
    exact hxid k
  answers before d later hsplit := by
    -- the answer in question is the new one, or was given before
    rcases List.eq_nil_or_concat later with rfl | ⟨later, x, rfl⟩
    · obtain ⟨rfl, hd⟩ := List.append_inj' hsplit rfl
      cases hd
      exact hright
    · rw [List.concat_eq_append, ← List.cons_append, ← List.append_assoc] at hsplit
      exact h.answers before d later (List.append_inj' hsplit rfl).1

/-- One more event that moves nothing. -/
lemma Effects.enter_same (h : env.Effects s events t) {e : Event δ}
    (hdata : ∀ c tag data, e.restore c tag data = data)
    (hscreen : ∀ i owner, e.reassign i owner = owner)
    (hxid : ∀ k owner, e.rebook k owner = owner) (hright : env.AnswersRightly s events e) :
    env.Effects s (events ++ [e]) (t.enter e) :=
  h.enter (o := t.ownership) (fun _ _ => rfl) (fun c tag => (hdata c tag _).symm) rfl
    (fun i => (hscreen i _).symm) (fun k => (hxid k _).symm) hright

/-- An event that is no answer to an export call. -/
lemma Effects.enter_of_not_isExported (h : env.Effects s events t) {e : Event δ}
    (he : ¬ e.IsExported) : env.Effects s (events ++ [e]) (t.enter e) := by
  cases e with
  | exported => exact (he trivial).elim
  | called | returned | drawableAsked | resourceAsked | noted =>
      exact h.enter_same (fun _ _ _ => rfl) (fun _ _ => rfl) (fun _ _ => rfl) trivial

lemma Effects.setScreenVendor (h : env.Effects s events t) (i : Nat) (v : VendorId) :
    Ends (env.perform (.setScreenVendor i v)) t
      (fun answer u => ∃ events, env.Effects s events
        (u.enter (.exported (.setScreenVendor i v) answer)))
      fun _ _ => False := by
  by_cases hmay : env.MayAssign t i v
  · rw [Ends, perform_setScreenVendor_of_mayAssign hmay]
    obtain ⟨hi, -, hs⟩ := hmay
    have hset : t.ownership.setScreenVendor? i v =
        some { t.ownership with screens := t.ownership.screens.set i (some v) } := by
      rw [Ownership.setScreenVendor?, if_pos hs]
    refine ⟨_, h.enter (fun c tag => ?_) (fun c tag => ?_) ?_ (fun j => ?_) (fun k => rfl) ?_⟩
    · rw [Ownership.lookupTag_setScreenVendor? hset]
    · rw [Ownership.lookupTag_setScreenVendor? hset]
      rfl
    · exact List.length_set
    · rw [Ownership.screenVendor_setScreenVendor? hset, Event.reassign]
      simp only [eq_comm]
    · exact ⟨Registry.contains_of_isInitialized hi, hi, h.screens ▸ hs⟩
  · rw [Ends, perform_setScreenVendor_of_not hmay]
    exact ⟨_, h.enter_same (fun _ _ _ => rfl) (fun _ _ => rfl) (fun _ _ => rfl) rfl⟩

lemma Effects.addXid (h : env.Effects s events t) (id : Xid) (v : VendorId) :
    Ends (env.addXid id v) t
      (fun answer u => ∃ events, env.Effects s events (u.enter (.exported (.addXid id v) answer)))
      fun _ _ => False := by
  by_cases hadd : env.registry.contains v = true ∧ (t.ownership.addXid id v).1 = true
  · rw [Ends, addXid_of_fst hadd.1 hadd.2]
    obtain ⟨hv, ha⟩ := hadd
    refine ⟨_, h.enter (fun c tag => ?_) (fun c tag => ?_) ?_ (fun j => ?_) (fun k => ?_) ?_⟩
    · rw [Ownership.lookupTag_addXid]
    · rw [Ownership.lookupTag_addXid]
      rfl
    · rw [Ownership.addXid]
      split_ifs <;> rfl
    · exact Ownership.screenVendor_addXid _ id v j
    · rw [Ownership.get?_xids_addXid ha, Event.rebook]
      simp only [eq_comm]
    · obtain ⟨hzero, hfree⟩ := Ownership.addXid_fst_iff.mp ha
      exact iff_of_true rfl ⟨hv, hzero, (h.xid id).symm.trans hfree⟩
  · rw [Ends, addXid_of_not hadd]
    refine ⟨_, h.enter_same (fun _ _ _ => rfl) (fun _ _ => rfl) (fun _ _ => rfl) ?_⟩
    refine iff_of_false Bool.false_ne_true ?_
    rintro ⟨hv, hzero, hfree⟩
    exact hadd ⟨hv, Ownership.addXid_fst_iff.mpr ⟨hzero, (h.xid id).trans hfree⟩⟩

lemma Effects.setTagData (h : env.Effects s events t) (c : ClientId) (tag : ContextTag)
    (v : VendorId) (data : Option δ) :
    Ends (Environment.setTagData c tag v data) t
      (fun answer u => ∃ events, env.Effects s events
        (u.enter (.exported (.setTagData c tag v data) answer)))
      fun _ _ => False := by
  rw [Environment.setTagData, ends_bind, ends_ownership]
  by_cases ho : ((t.ownership.lookupTag c tag).bind TagInfo.owner) = some v
  · simp only [ho, if_true, decide_true, ends_bind, ends_setOwnership, ends_pure]
    -- the owner's data is stored: the entry differs in its data only
    have hlook := fun d b => Ownership.lookupTag_modify t.ownership c d tag b
      (f := fun e => { e with data }) fun _ => rfl
    refine ⟨_, h.enter (fun d b => ?_) (fun d b => ?_) rfl (fun j => rfl) (fun k => rfl) ?_⟩
    · rw [hlook]
      split_ifs
      · rw [Option.map_map]
        rfl
      · rfl
    · rw [hlook, Event.restore]
      simp only [eq_comm (a := c), eq_comm (a := tag)]
      split_ifs
      · rw [Option.map_map, Option.map_map]
        rfl
      · rfl
    · exact iff_of_true rfl (h.owner c tag ▸ ho)
  · simp only [ho, if_false, decide_false, ends_bind, ends_setOwnership, ends_pure]
    -- somebody else is refused
    have hlook := Ownership.lookupTag_touchTags t.ownership c
    refine ⟨_, h.enter (fun d b => ?_) (fun d b => ?_) rfl (fun j => rfl) (fun k => rfl) ?_⟩
    · exact congrArg (Option.map TagInfo.bare) (hlook d b)
    · exact congrArg (Option.map TagInfo.data) (hlook d b)
    · exact iff_of_false Bool.false_ne_true (h.owner c tag ▸ ho)

/-- The window system may be asked for the screen of an id. -/
lemma Effects.lookedUp (h : env.Effects s events t) (id : Xid) :
    ∃ events, env.Effects s events (t.lookedUp id) := by
  rw [Session.lookedUp]
  split
  · exact ⟨_, h⟩
  · exact ⟨_, h.enter_of_not_isExported not_false⟩

/-- Every export call adds its own event, with its effect, to those before. -/
lemma preserved_effects (env : Environment σ δ) (s : Session σ δ) :
    env.Preserved fun t => ∃ events, env.Effects s events t where
  withWorld t w := fun ⟨events, h⟩ =>
    ⟨events, h.journal, h.tags, h.data, h.screens, h.screen, h.xid, h.answers⟩
  enter t e _ he := fun ⟨_, h⟩ => ⟨_, h.enter_of_not_isExported he⟩
  exported request t := by
    rintro ⟨events, h⟩
    cases request with
    -- these change something
    | setScreenVendor i v =>
        exact (h.setScreenVendor i v).mono (fun _ _ h => h) fun _ _ => False.elim
    | addXid id v => exact (h.addXid id v).mono (fun _ _ h => h) fun _ _ => False.elim
    | setTagData c tag v data =>
        exact (h.setTagData c tag v data).mono (fun _ _ h => h) fun _ _ => False.elim
    | removeXid id =>
        refine ⟨_, h.enter (fun _ _ => rfl) (fun _ _ => rfl) rfl (fun _ => rfl) (fun k => ?_)
          trivial⟩
        rw [Ownership.get?_xids_removeXid]
        simp only [Event.rebook, eq_comm]
    -- these are answered, and change nothing
    | xidVendor id =>
        obtain ⟨_, hasked⟩ := h.lookedUp id
        exact ends_vendorOfXid.mpr
          ⟨_, hasked.enter_same (fun _ _ _ => rfl) (fun _ _ => rfl) (fun _ _ => rfl) trivial⟩
    | lookupDrawable id access =>
        have hasked := h.enter_of_not_isExported (e := .drawableAsked id access) not_false
        exact ⟨_, hasked.enter_same (fun _ _ _ => rfl) (fun _ _ => rfl) (fun _ _ => rfl) trivial⟩
    | legalNewResource id client =>
        have hasked := h.enter_of_not_isExported (e := .resourceAsked id client.id) not_false
        exact ⟨_, hasked.enter_same (fun _ _ _ => rfl) (fun _ _ => rfl) (fun _ _ => rfl) trivial⟩
    | tagData c tag v =>
        exact ends_tagData.mpr
          ⟨_, h.enter_same (fun _ _ _ => rfl) (fun _ _ => rfl) (fun _ _ => rfl) trivial⟩
    | tagVendor | screenVendor | errorBase | screenCount | isExiting =>
        exact ⟨_, h.enter_same (fun _ _ _ => rfl) (fun _ _ => rfl) (fun _ _ => rfl) trivial⟩

end Environment

/-! ### Programs -/

/-- Whatever program of a vendor runs on a router, with whatever requests it forwards: the vendors
are the same; the tags, the screens and the resources have changed as the accepted calls say and not
otherwise; calls were refused for the reasons that they were told. Among vendors that act for the
client that they are given, only the tags of this client were touched. -/
theorem exports_effects (s : Server σ δ) (p : Program σ δ α) :
    s.SameVendors (s.perform p).server ∧
    (s.perform p).server.dispatcher = s.dispatcher ∧
    s.environment.Effects s.session (s.perform p).journal (s.perform p).session ∧
    (∀ client, p.ActsFor client → s.registry.KeepsClient → s.registry.ActsForClient →
      ∀ d, d ≠ client → (s.perform p).server.ownership.tagsOf? d = s.ownership.tagsOf? d) ∧
    ∀ (i : Nat) (v : VendorId) (t : Session σ δ),
      (s.environment.MayAssign t i v →
        s.environment.perform (.setScreenVendor i v) t =
          .ok (.ok ()) (t.withOwnership
            { t.ownership with screens := t.ownership.screens.set i (some v) })) ∧
      (¬ s.environment.MayAssign t i v →
        s.environment.perform (.setScreenVendor i v) t =
          .ok (.error (s.environment.refusal v)) t) := by
  refine ⟨s.runSession_sameVendors _, s.runSession_dispatcher _, ?_, fun client hp hr ha d hd => ?_,
    fun i v t => ⟨Environment.perform_setScreenVendor_of_mayAssign,
      Environment.perform_setScreenVendor_of_not⟩⟩
  · obtain ⟨events, h⟩ := (Server.runSession_leaves
      ((s.environment.preserved_effects s.session).interpret p s.session ⟨[], .refl _ _⟩)).session
    have hevents : (s.perform p).journal.reverse = events.reverse ++ [] := h.journal
    rw [List.append_nil, List.reverse_inj] at hevents
    rw [hevents]
    exact h
  · have hkeeps : Keeps (Session.Elsewhere client s.ownership) (s.environment.interpret p) :=
      interpret_elsewhere hr ha hp
    exact (Server.runSession_leaves (hkeeps s.session fun _ _ => rfl)).session d hd

end VendorDispatch
