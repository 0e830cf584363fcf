import VendorDispatch.Proofs.Operation

/-!
The protocol by which contexts are bound and released, one tag of one client at a time.

* `TagPhase`: where a tag stands, with the entry that the client's table has for it.
* `TagPhase.Step`, `TagPhase.Trace`: what may happen to the tag next. A tag is bound while nobody
  owns it, and released by the vendor that bound it, which is shown the private data of that moment.
* `TagHistory`: the same over the deeds of a run; a client that disconnects and a generation that
  ends leave the tag free.
* `run_follows_protocol`: every run follows the protocol.
-/

namespace VendorDispatch

variable {σ δ : Type}

/-! ### The protocol -/

/-- Where a tag of a client stands. -/
inductive TagPhase (δ : Type)
  /-- Nobody owns the tag. -/
  | free
  /-- The owner of the tag is asked to bind a context. -/
  | binding (e : TagInfo δ) (c : Client) (q : MakeCurrentRequest δ)
  /-- The owner of the tag has bound a context. -/
  | bound (e : TagInfo δ)
  /-- The owner of the tag is asked to release it. -/
  | releasing (e : TagInfo δ) (c : Client) (q : MakeCurrentRequest δ)

namespace TagPhase

/-- The entry of the tag; a tag that nobody owns has none. -/
def entry? : TagPhase δ → Option (TagInfo δ)
  | free => none
  | binding e _ _ => some e
  | bound e => some e
  | releasing e _ _ => some e

/-- The owner of the tag. -/
def owner? (p : TagPhase δ) : Option VendorId := p.entry?.bind TagInfo.owner

/-- The phase after the owner stored private data. -/
def store (data : Option δ) : TagPhase δ → TagPhase δ
  | free => free
  | binding e c q => binding { e with data } c q
  | bound e => bound { e with data }
  | releasing e c q => releasing { e with data } c q

/-- No vendor is being asked about the tag. -/
def IsSettled : TagPhase δ → Prop
  | free => True
  | binding .. => False
  | bound _ => True
  | releasing .. => False

end TagPhase

/-- What a vendor is asked to bind or to release names the tag. Zero stands for no tag. -/
def MakeCurrentRequest.Names (q : MakeCurrentRequest δ) (tag : ContextTag) : Prop :=
  tag ≠ 0 ∧ (q.oldTag = tag ∨ q.newTag = tag)

/-- The events that are about a tag of a client. -/
def Event.Concerns (client : ClientId) (tag : ContextTag) : Event δ → Prop
  | .called _ _ (.makeCurrent c q) => c.id = client ∧ q.Names tag
  | .returned _ (.makeCurrent c q) _ => c.id = client ∧ q.Names tag
  | .exported (.tagVendor c t) _ => c = client ∧ t = tag
  | .exported (.tagData c t _) _ => c = client ∧ t = tag
  | .exported (.setTagData c t _ _) _ => c = client ∧ t = tag
  | _ => False

namespace TagPhase

/-- What an event does to a tag of a client, and which events may happen. -/
inductive Step (client : ClientId) (tag : ContextTag) : TagPhase δ → Event δ → TagPhase δ → Prop
  /-- An event about something else. -/
  | other (p : TagPhase δ) {e : Event δ} : ¬ e.Concerns client tag → Step client tag p e p
  /-- A vendor is asked to bind under the tag. Only a tag that nobody owns is bound. -/
  | bindAsked (v : VendorId) (initialized : Bool) (q : MakeCurrent.Switch) {c : Client} :
    c.id = client → Step client tag .free (.called v initialized (.makeCurrent c (q.toBind tag)))
      (.binding (.claimed tag v) c (q.toBind tag))
  /-- The binding is accepted. -/
  | bindAccepted {v : VendorId} (q : MakeCurrent.Switch) (c d : Client) {e : TagInfo δ}
    (data : Option δ) : e.owner = some v →
      Step client tag (.binding e c (q.toBind tag))
        (.returned v (.makeCurrent c (q.toBind tag)) (d, .ok data)) (.bound (q.bound data e))
  /-- The binding is refused, and nobody owns the tag. -/
  | bindRefused {v : VendorId} (q : MakeCurrentRequest δ) (c d : Client) {e : TagInfo δ}
    (reason : ProtocolError) : e.owner = some v →
      Step client tag (.binding e c q) (.returned v (.makeCurrent c q) (d, .error reason)) .free
  /-- The owner is asked to release the tag, and shown the private data on it. -/
  | releaseAsked {v : VendorId} (initialized : Bool) {c : Client} {e : TagInfo δ} :
    c.id = client → e.owner = some v →
      Step client tag (.bound e) (.called v initialized (.makeCurrent c e.toRelease))
        (.releasing e c e.toRelease)
  /-- The release is accepted, and nobody owns the tag. -/
  | releaseAccepted {v : VendorId} (q : MakeCurrentRequest δ) (c d : Client) {e : TagInfo δ}
    (data : Option δ) : e.owner = some v →
      Step client tag (.releasing e c q) (.returned v (.makeCurrent c q) (d, .ok data)) .free
  /-- The release is refused, and the tag stays as it is. -/
  | releaseRefused {v : VendorId} (q : MakeCurrentRequest δ) (c d : Client) {e : TagInfo δ}
    (reason : ProtocolError) : e.owner = some v →
      Step client tag (.releasing e c q) (.returned v (.makeCurrent c q) (d, .error reason))
        (.bound e)
  /-- The owner stores private data. -/
  | stored {p : TagPhase δ} {v : VendorId} (data : Option δ) : p.owner? = some v →
    Step client tag p (.exported (.setTagData client tag v data) true) (p.store data)
  /-- Nobody but the owner can store private data. -/
  | notStored {p : TagPhase δ} {v : VendorId} (data : Option δ) : p.owner? ≠ some v →
    Step client tag p (.exported (.setTagData client tag v data) false) p
  /-- Whoever asks for the owner is told the truth. -/
  | ownerTold (p : TagPhase δ) : Step client tag p (.exported (.tagVendor client tag) p.owner?) p
  /-- Nobody but the owner is told the private data. -/
  | dataTold (p : TagPhase δ) (v : VendorId) :
    Step client tag p (.exported (.tagData client tag v) (p.entry?.bind fun e => e.dataFor v)) p

/-- What a sequence of events does to a tag of a client. -/
inductive Trace (client : ClientId) (tag : ContextTag) :
    TagPhase δ → List (Event δ) → TagPhase δ → Prop
  /-- Nothing happens. -/
  | nil (p : TagPhase δ) : Trace client tag p [] p
  /-- An event happens, and then the others. -/
  | cons {p q r : TagPhase δ} {e : Event δ} {events : List (Event δ)} :
    Step client tag p e q → Trace client tag q events r → Trace client tag p (e :: events) r

lemma Trace.concat {client : ClientId} {tag : ContextTag} {p q r : TagPhase δ} {e : Event δ}
    {events : List (Event δ)} (h : Trace client tag p events q) (he : Step client tag q e r) :
    Trace client tag p (events ++ [e]) r := by
  induction h with
  | nil p => exact .cons he (.nil r)
  | cons hd _ ih => exact .cons hd (ih he)

lemma Trace.append {client : ClientId} {tag : ContextTag} {p q r : TagPhase δ}
    {first second : List (Event δ)} (h : Trace client tag p first q)
    (h' : Trace client tag q second r) : Trace client tag p (first ++ second) r := by
  induction h with
  | nil p => exact h'
  | cons hd _ ih => exact .cons hd (ih h')

/-- A sequence of events in two parts. -/
lemma Trace.split {client : ClientId} {tag : ContextTag} {p r : TagPhase δ}
    {first second : List (Event δ)} (h : Trace client tag p (first ++ second) r) :
    ∃ q, Trace client tag p first q ∧ Trace client tag q second r := by
  induction first generalizing p with
  | nil => exact ⟨p, .nil p, h⟩
  | cons e rest ih =>
      cases h with
      | cons he hrest =>
          obtain ⟨q, hq, hsecond⟩ := ih hrest
          exact ⟨q, .cons he hq, hsecond⟩

end TagPhase

/-- An operation that leaves the client without tags: it has disconnected, or a generation ends. -/
def Deed.Drops (client : ClientId) : Deed σ δ → Prop
  | ⟨.clientGone gone, _⟩ => gone = client
  | ⟨.endGeneration, step⟩ => ∀ e, step.result ≠ .ok (.error e)
  | _ => False

instance (client : ClientId) : (d : Deed σ δ) → Decidable (d.Drops client)
  | ⟨.clientGone gone, _⟩ => inferInstanceAs (Decidable (gone = client))
  | ⟨.endGeneration, ⟨.ok (.error e), _, _⟩⟩ => isFalse fun h => h e rfl
  | ⟨.endGeneration, ⟨.ok (.ok ()), _, _⟩⟩ => isTrue fun _ h => by cases h
  | ⟨.endGeneration, ⟨.error _, _, _⟩⟩ => isTrue fun _ h => by cases h
  | ⟨.createVendor _, _⟩ | ⟨.destroyVendor _, _⟩ | ⟨.beginGeneration _, _⟩ | ⟨.serve _, _⟩
  | ⟨.resourceFreed _, _⟩ | ⟨.perform _, _⟩ | ⟨.changeWorld _, _⟩ => isFalse id

/-- What deeds do to a tag of a client. -/
inductive TagHistory (client : ClientId) (tag : ContextTag) :
    TagPhase δ → List (Deed σ δ) → TagPhase δ → Prop
  /-- Nothing was done. -/
  | nil (p : TagPhase δ) : TagHistory client tag p [] p
  /-- A deed that leaves the tags of the client to the vendors. -/
  | deed {p q r : TagPhase δ} {d : Deed σ δ} {deeds : List (Deed σ δ)} : ¬ d.Drops client →
    TagPhase.Trace client tag p d.step.journal q → TagHistory client tag q deeds r →
    TagHistory client tag p (d :: deeds) r
  /-- A deed before which the tags of the client are dropped. -/
  | drop {p q r : TagPhase δ} {d : Deed σ δ} {deeds : List (Deed σ δ)} : d.Drops client →
    TagPhase.Trace client tag .free d.step.journal q → TagHistory client tag q deeds r →
    TagHistory client tag p (d :: deeds) r

/-- Binding names no other tag than the new one. -/
lemma MakeCurrent.Switch.eq_of_names_toBind {q : MakeCurrent.Switch} {t tag : ContextTag}
    (h : (q.toBind t : MakeCurrentRequest δ).Names tag) : t = tag :=
  h.2.resolve_left h.1.symm

/-- Releasing names no other tag than the old one. -/
lemma TagInfo.eq_of_names_toRelease {e : TagInfo δ} {tag : ContextTag}
    (h : e.toRelease.Names tag) : e.tag = tag :=
  h.2.resolve_right h.1.symm

/-! ### Sessions that follow the protocol -/

/-- The tag has gone from phase `p` to a phase with `K`, and the table of the client agrees. -/
structure Tracked (client : ClientId) (tag : ContextTag) (p : TagPhase δ) (K : TagPhase δ → Prop)
    (s : Session σ δ) : Prop where
  numbered : s.ownership.Numbered
  phase : ∃ q, K q ∧ TagPhase.Trace client tag p s.journal.reverse q ∧
    s.ownership.lookupTag client tag = q.entry?

section Tracked

variable {client : ClientId} {tag : ContextTag} {p : TagPhase δ} {K L : TagPhase δ → Prop}
  {s : Session σ δ}

lemma Tracked.mono (h : Tracked client tag p K s) (hK : ∀ q, K q → L q) :
    Tracked client tag p L s := by
  obtain ⟨q, hq, ht⟩ := h.phase
  exact ⟨h.numbered, q, hK q hq, ht⟩

/-- One more event, of the kind that the protocol admits. -/
lemma Tracked.enter (h : Tracked client tag p K s) {e : Event δ}
    (he : ∀ q, K q → s.ownership.lookupTag client tag = q.entry? →
      ∃ r, L r ∧ TagPhase.Step client tag q e r ∧ r.entry? = q.entry?) :
    Tracked client tag p L (s.enter e) := by
  obtain ⟨q, hq, ht, hl⟩ := h.phase
  obtain ⟨r, hr, hstep, hqr⟩ := he q hq hl
  refine ⟨h.numbered, r, hr, ?_, ?_⟩
  · rw [Session.journal_enter, List.reverse_cons]
    exact ht.concat hstep
  · rw [Session.ownership_enter, hl, hqr]

/-- One more event, about something else. -/
lemma Tracked.other (h : Tracked client tag p K s) {e : Event δ} (he : ¬ e.Concerns client tag) :
    Tracked client tag p K (s.enter e) :=
  h.enter fun q hq _ => ⟨q, hq, .other q he, rfl⟩

/-- Other owners, but not of the tag. -/
lemma Tracked.withOwnership (h : Tracked client tag p K s) {o : Ownership δ} (hn : o.Numbered)
    (ho : o.lookupTag client tag = s.ownership.lookupTag client tag) :
    Tracked client tag p K (s.withOwnership o) := by
  obtain ⟨q, hq, ht, hl⟩ := h.phase
  exact ⟨hn, q, hq, ht, ho.trans hl⟩

end Tracked

/-- What concerns no tag at all does not concern this one. -/
lemma Event.not_concerns_of_admits {env : Environment σ δ} {e : Event δ} (he : env.Admits e)
    (client : ClientId) (tag : ContextTag) : ¬ e.Concerns client tag := by
  cases e with
  | called v b callback =>
      cases callback with
      | makeCurrent c q => exact absurd he.2.2 id
      | init | closeDown | request | query | procedure => exact id
  | returned v callback answer =>
      cases callback with
      | makeCurrent c q => exact absurd he id
      | init | closeDown | request | query | procedure => exact id
  | exported request answer =>
      cases request with
      | tagVendor | tagData | setTagData => exact absurd he id
      | _ => exact id
  | drawableAsked | resourceAsked | noted => exact id

/-- What no vendor can upset: a tag stays within phases that storing private data does not leave,
and whatever the vendors are told about it is true. -/
lemma kept_tracked (env : Environment σ δ) (client : ClientId) (tag : ContextTag)
    (p : TagPhase δ) {K : TagPhase δ → Prop} (hK : ∀ q data, K q → K (q.store data)) :
    env.Kept (Tracked client tag p K) where
  withWorld s w h := ⟨h.numbered, h.phase⟩
  enter s e he h := h.other (Event.not_concerns_of_admits he client tag)
  setScreenVendor s screen v o hv ho h :=
    h.withOwnership ((kept_numbered env).setScreenVendor s screen v o hv ho h.numbered)
      (Ownership.lookupTag_setScreenVendor? ho client tag)
  addXid s xid v hv h :=
    h.withOwnership ((kept_numbered env).addXid s xid v hv h.numbered)
      (Ownership.lookupTag_addXid _ xid v client tag)
  removeXid s xid h := h.withOwnership h.numbered rfl
  -- being told of the tag moves it, and of any other tag leaves it
  tagVendor s c t h := by
    by_cases hct : c = client ∧ t = tag
    · obtain ⟨rfl, rfl⟩ := hct
      refine h.enter fun q hq hl => ⟨q, hq, ?_, rfl⟩
      rw [hl]
      exact .ownerTold q
    · exact h.other hct
  tagData s c t v h := by
    by_cases hct : c = client ∧ t = tag
    · obtain ⟨rfl, rfl⟩ := hct
      refine h.enter fun q hq hl => ⟨q, hq, ?_, rfl⟩
      rw [hl]
      exact .dataTold q v
    · exact h.other hct
  -- stored data appears in the entry of this tag and of no other
  setTagData s c t v data ho h := by
    have hn : (s.ownership.modifyTags c fun u => u.modify t fun e => { e with data }).Numbered :=
      h.numbered.modifyTags fun _ hu => hu.modify _ fun _ => rfl
    have hlookup := Ownership.lookupTag_modify s.ownership c client t tag
      (f := fun e => { e with data }) fun _ => rfl
    by_cases hct : c = client ∧ t = tag
    · obtain ⟨rfl, rfl⟩ := hct
      rw [if_pos ⟨rfl, rfl⟩] at hlookup
      obtain ⟨q, hq, ht, hl⟩ := h.phase
      refine ⟨hn, q.store data, hK q data hq, ?_, ?_⟩
      · rw [Session.journal_enter, List.reverse_cons]
        refine ht.concat (.stored data ?_)
        rw [TagPhase.owner?, ← hl]
        exact ho
      · rw [Session.ownership_enter, Session.ownership_withOwnership, hlookup, hl]
        cases q <;> rfl
    · refine Tracked.other (h.withOwnership hn ?_) hct
      rw [hlookup, if_neg fun hc => hct ⟨hc.1.symm, hc.2.symm⟩]
  -- what is refused for an outsider changes no entry
  touchTags s c t v data ho h := by
    have hn : (s.ownership.modifyTags c id).Numbered := h.numbered.modifyTags fun _ ht => ht
    have hs := h.withOwnership hn (Ownership.lookupTag_touchTags _ c client tag)
    by_cases hct : c = client ∧ t = tag
    · obtain ⟨rfl, rfl⟩ := hct
      refine hs.enter fun q hq hl => ⟨q, hq, .notStored data ?_, rfl⟩
      rw [TagPhase.owner?, ← hl, Session.ownership_withOwnership, Ownership.lookupTag_touchTags]
      exact ho
    · exact hs.other hct

/-! ### Switches that follow the protocol -/

lemma TagPhase.isSettled_store (q : TagPhase δ) (data : Option δ) (h : q.IsSettled) :
    (q.store data).IsSettled := by
  cases q with
  | free => trivial
  | bound e => trivial
  | binding | releasing => cases h

lemma TagPhase.eq_free {q : TagPhase δ} (h : q.entry? = none) : q = .free := by
  cases q with
  | free => rfl
  | binding | bound | releasing => cases h

lemma TagPhase.IsSettled.eq_bound {q : TagPhase δ} (hq : q.IsSettled) {e : TagInfo δ}
    (h : q.entry? = some e) : q = .bound e := by
  cases q with
  | bound d =>
      cases h
      rfl
  | free => cases h
  | binding | releasing => cases hq

/-- A vendor is asked by the given call to release the tag. -/
def TagPhase.Releases (v : VendorId) (c : Client) (q : MakeCurrentRequest δ)
    (p : TagPhase δ) : Prop :=
  ∃ e, p = .releasing e c q ∧ e.owner = some v

lemma TagPhase.Releases.store {v : VendorId} {c : Client} {q : MakeCurrentRequest δ}
    (p : TagPhase δ) (data : Option δ) (h : p.Releases v c q) : (p.store data).Releases v c q := by
  obtain ⟨e, rfl, he⟩ := h
  exact ⟨{ e with data }, rfl, he⟩

/-- A vendor is asked by the given call to bind under the tag. -/
def TagPhase.Binds (v : VendorId) (c : Client) (q : MakeCurrentRequest δ)
    (p : TagPhase δ) : Prop :=
  ∃ e, p = .binding e c q ∧ e.owner = some v

/-- Where a tag stands while a vendor is asked to bind under the tag `t` of the client `c`. -/
def TagPhase.During (client : ClientId) (tag : ContextTag) (v : VendorId) (c : Client)
    (q : MakeCurrent.Switch) (t : ContextTag) (p : TagPhase δ) : Prop :=
  if c.id = client ∧ t = tag then p.Binds v c (q.toBind t) else p.IsSettled

lemma TagPhase.During.store {client : ClientId} {tag t : ContextTag} {v : VendorId} {c : Client}
    {q : MakeCurrent.Switch} (p : TagPhase δ) (data : Option δ)
    (h : p.During client tag v c q t) : (p.store data).During client tag v c q t := by
  unfold During at h ⊢
  split_ifs at h ⊢
  · obtain ⟨e, rfl, he⟩ := h
    exact ⟨{ e with data }, rfl, he⟩
  · exact isSettled_store p data h

section Binding

variable {client : ClientId} {tag t : ContextTag} {p : TagPhase δ} {v : VendorId} {c d : Client}
  {q : MakeCurrent.Switch} {s : Session σ δ}

/-- A vendor is asked to bind under a new tag. -/
lemma Tracked.bindAsked (h : Tracked client tag p TagPhase.IsSettled s) {o : Ownership δ}
    (ho : s.ownership.allocateTag? c.id v = some (t, o)) (initialized : Bool) :
    Tracked client tag p (TagPhase.During client tag v c q t)
      ((s.withOwnership o).enter (.called v initialized (.makeCurrent c (q.toBind t)))) := by
  have hn := h.numbered.allocateTag? ho
  have hlookup := h.numbered.lookupTag_allocateTag? ho client tag
  by_cases hct : c.id = client ∧ t = tag
  · -- the new tag itself: it was free, since a tag that is live is not given out
    obtain ⟨rfl, rfl⟩ := hct
    obtain ⟨r, hrs, htr, hl⟩ := h.phase
    have hfresh := (h.numbered.fresh_of_allocateTag? ho).2
    obtain rfl := TagPhase.eq_free (hl.symm.trans hfresh)
    refine ⟨hn, .binding (.claimed t v) c (q.toBind t), ?_, ?_, ?_⟩
    · rw [TagPhase.During, if_pos ⟨rfl, rfl⟩]
      exact ⟨_, rfl, rfl⟩
    · rw [Session.journal_enter, List.reverse_cons]
      exact htr.concat (.bindAsked v _ q rfl)
    · rw [if_pos ⟨rfl, rfl⟩] at hlookup
      exact hlookup
  · -- another tag is not named by the request
    rw [if_neg fun h => hct ⟨h.1.symm, h.2.symm⟩] at hlookup
    have hother : ¬ (c.id = client ∧ (q.toBind t : MakeCurrentRequest δ).Names tag) :=
      fun h => hct ⟨h.1, MakeCurrent.Switch.eq_of_names_toBind h.2⟩
    have hs := (h.withOwnership hn hlookup).other
      (e := .called v initialized (.makeCurrent c (q.toBind t))) hother
    refine hs.mono fun r hrs => ?_
    rw [TagPhase.During, if_neg hct]
    exact hrs

/-- The answer of a vendor that was asked to bind under another tag. -/
lemma Tracked.answerOther (h : Tracked client tag p (TagPhase.During client tag v c q t) s)
    (hct : ¬ (c.id = client ∧ t = tag)) (r : Client × Except ProtocolError (Option δ)) :
    Tracked client tag p TagPhase.IsSettled
      (s.enter (.returned v (.makeCurrent c (q.toBind t)) r)) := by
  have hother : ¬ (c.id = client ∧ (q.toBind t : MakeCurrentRequest δ).Names tag) :=
    fun h => hct ⟨h.1, MakeCurrent.Switch.eq_of_names_toBind h.2⟩
  refine Tracked.other (h.mono fun d hd => ?_) hother
  rw [TagPhase.During, if_neg hct] at hd
  exact hd

/-- The vendor that was asked to bind accepts. -/
lemma Tracked.bindAccepted (h : Tracked client tag p (TagPhase.During client tag v c q t) s)
    (hc : d.id = c.id) (data : Option δ) :
    Tracked client tag p TagPhase.IsSettled
      ((s.enter (.returned v (.makeCurrent c (q.toBind t)) (d, .ok data))).withOwnership
        (s.ownership.modifyTags d.id fun u => u.modify t (q.bound data))) := by
  have hn : (s.ownership.modifyTags d.id fun u => u.modify t (q.bound data)).Numbered :=
    h.numbered.modifyTags fun _ hu => hu.modify _ fun _ => rfl
  have hmod := Ownership.lookupTag_modify s.ownership d.id client t tag (f := q.bound data)
    fun _ => rfl
  by_cases hct : c.id = client ∧ t = tag
  · obtain ⟨r, hrs, htr, hl⟩ := h.phase
    rw [TagPhase.During, if_pos hct] at hrs
    obtain ⟨rfl, rfl⟩ := hct
    obtain ⟨e, rfl, he⟩ := hrs
    refine ⟨hn, .bound (q.bound data e), trivial, ?_, ?_⟩
    · have hstep := htr.concat (.bindAccepted q c d data he)
      rw [← List.reverse_cons] at hstep
      exact hstep
    · rw [if_pos ⟨hc.symm, rfl⟩, hl] at hmod
      exact hmod
  · refine (h.answerOther hct (d, .ok data)).withOwnership hn ?_
    rw [if_neg fun h => hct ⟨hc.symm.trans h.1.symm, h.2.symm⟩] at hmod
    exact hmod

/-- The vendor that was asked to bind refuses. -/
lemma Tracked.bindRefused (h : Tracked client tag p (TagPhase.During client tag v c q t) s)
    (hc : d.id = c.id) (reason : ProtocolError) :
    Tracked client tag p TagPhase.IsSettled
      ((s.enter (.returned v (.makeCurrent c (q.toBind t)) (d, .error reason))).withOwnership
        (s.ownership.modifyTags d.id fun u => u.free t)) := by
  have hn : (s.ownership.modifyTags d.id fun u => u.free t).Numbered :=
    h.numbered.modifyTags fun _ hu => hu.free _
  have hfree := Ownership.lookupTag_free s.ownership d.id client t tag
  by_cases hct : c.id = client ∧ t = tag
  · obtain ⟨r, hrs, htr, -⟩ := h.phase
    rw [TagPhase.During, if_pos hct] at hrs
    obtain ⟨rfl, rfl⟩ := hct
    obtain ⟨e, rfl, he⟩ := hrs
    refine ⟨hn, .free, trivial, ?_, ?_⟩
    · have hstep := htr.concat (.bindRefused (q.toBind t) c d reason he)
      rw [← List.reverse_cons] at hstep
      exact hstep
    · rw [if_pos ⟨hc.symm, rfl⟩] at hfree
      exact hfree
  · refine (h.answerOther hct (d, .error reason)).withOwnership hn ?_
    rw [if_neg fun h => hct ⟨hc.symm.trans h.1.symm, h.2.symm⟩] at hfree
    exact hfree

/-- A tag that is claimed and free again at once is as it was. -/
lemma Tracked.unclaim (h : Tracked client tag p TagPhase.IsSettled s) {o : Ownership δ}
    (ho : s.ownership.allocateTag? c.id v = some (t, o)) :
    Tracked client tag p TagPhase.IsSettled
      (s.withOwnership (o.modifyTags c.id fun u => u.free t)) := by
  have hback : (o.modifyTags c.id fun u => u.free t).lookupTag client tag =
      s.ownership.lookupTag client tag := by
    rw [Ownership.lookupTag_free, h.numbered.lookupTag_allocateTag? ho client tag]
    split_ifs with hct
    · obtain ⟨rfl, rfl⟩ := hct
      exact (h.numbered.fresh_of_allocateTag? ho).2.symm
    · rfl
  exact h.withOwnership ((h.numbered.allocateTag? ho).modifyTags fun _ hu => hu.free _) hback

end Binding

section Switching

variable {env : Environment σ δ} {client : ClientId} {tag : ContextTag} {p : TagPhase δ}
  {x : Exchange σ δ}

/-- Releasing a tag that is live follows the protocol. -/
lemma release_tracked (hr : env.registry.KeepsClient)
    (hx : Tracked client tag p TagPhase.IsSettled x.session) {old : TagInfo δ}
    (hold : x.session.ownership.lookupTag x.client.id old.tag = some old) :
    Ends (MakeCurrent.release env old) x
      (fun _ y => y.client.id = x.client.id ∧ Tracked client tag p TagPhase.IsSettled y.session)
      (Answers (fun _ => Tracked client tag p TagPhase.IsSettled) fun _ =>
        Tracked client tag p fun _ => True) := by
  obtain ⟨v, hv⟩ := Option.isSome_iff_exists.mp (Ownership.isSome_owner_of_lookupTag hold)
  by_cases hct : x.client.id = client ∧ old.tag = tag
  · -- the tag itself: the vendor keeps it in the phase of being released
    obtain ⟨rfl, rfl⟩ := hct
    have hA := kept_tracked env x.client.id old.tag p
      (TagPhase.Releases.store (v := v) (c := x.client) (q := old.toRelease))
    refine MakeCurrent.ends_release hr.handsBack hA.upheld hv ?_ ?_ ?_
      (fun _ => hx) fun _ _ hs => hs.mono fun _ _ => trivial
    · refine fun _ => hx.enter fun q hq hl => ?_
      obtain rfl := hq.eq_bound (hl.symm.trans hold)
      exact ⟨.releasing old x.client old.toRelease, ⟨old, rfl, hv⟩, .releaseAsked _ rfl hv, rfl⟩
    · intro s c data hs hc
      obtain ⟨q, ⟨e, rfl, he⟩, htr, -⟩ := hs.phase
      refine ⟨hc, hs.numbered.modifyTags fun _ ht => ht.free _, .free, trivial, ?_, ?_⟩
      · have hstep := htr.concat (.releaseAccepted old.toRelease x.client c data he)
        rw [← List.reverse_cons] at hstep
        exact hstep
      · have hfree := Ownership.lookupTag_free s.ownership c.id x.client.id old.tag old.tag
        rw [if_pos ⟨hc.symm, rfl⟩] at hfree
        exact hfree
    · intro s c reason hs _
      refine hs.enter ?_
      rintro _ ⟨e, rfl, he⟩ _
      exact ⟨.bound e, trivial, .releaseRefused old.toRelease x.client c reason he, rfl⟩
  · -- another tag, or a tag of another client
    have hother : ¬ (x.client.id = client ∧ old.toRelease.Names tag) :=
      fun h => hct ⟨h.1, TagInfo.eq_of_names_toRelease h.2⟩
    refine MakeCurrent.ends_release hr.handsBack
      (kept_tracked env client tag p TagPhase.isSettled_store).upheld hv (fun _ => hx.other hother)
      ?_ ?_ (fun _ => hx) fun _ _ hs => hs.mono fun _ _ => trivial
    · intro s c data hs hc
      have hs' : Tracked client tag p TagPhase.IsSettled
          (s.enter (.returned v (.makeCurrent x.client old.toRelease) (c, .ok data))) :=
        hs.other hother
      refine ⟨hc, hs'.withOwnership (hs.numbered.modifyTags fun _ ht => ht.free _) ?_⟩
      have hfree := Ownership.lookupTag_free s.ownership c.id client old.tag tag
      rw [if_neg fun h => hct ⟨hc.symm.trans h.1.symm, h.2.symm⟩] at hfree
      exact hfree
    · exact fun s c reason hs _ => hs.other hother

/-- Binding under a new tag follows the protocol. -/
lemma bind_tracked (hr : env.registry.KeepsClient)
    (hx : Tracked client tag p TagPhase.IsSettled x.session) (v : VendorId)
    (q : MakeCurrent.Switch) :
    Ends (MakeCurrent.bind env v q) x
      (fun _ y => Tracked client tag p TagPhase.IsSettled y.session)
      (Answers (fun _ => Tracked client tag p TagPhase.IsSettled) fun _ =>
        Tracked client tag p fun _ => True) := by
  refine MakeCurrent.ends_bindTag hr.handsBack
    (A := fun t => Tracked client tag p (TagPhase.During client tag v x.client q t))
    (fun t => (kept_tracked env client tag p TagPhase.During.store).upheld) ?_ ?_ ?_ ?_
    (fun _ => hx.mono fun _ _ => trivial) fun _ _ _ hs => hs.mono fun _ _ => trivial
  · exact fun t o ho _ => hx.bindAsked ho _
  · exact fun t s c data hs hc => hs.bindAccepted hc data
  · exact fun t s c reason hs hc => hs.bindRefused hc reason
  · exact fun t o ho _ => hx.unclaim ho

/-- A switch follows the protocol. -/
lemma switchTo_tracked (hr : env.registry.KeepsClient)
    (hx : Tracked client tag p TagPhase.IsSettled x.session) (q : MakeCurrent.Switch)
    {old : Option (TagInfo δ)}
    (hold : ∀ e, old = some e → x.session.ownership.lookupTag x.client.id e.tag = some e)
    (vendor : Option VendorId) :
    Ends (MakeCurrent.switchTo env q old vendor) x
      (fun _ y => Tracked client tag p TagPhase.IsSettled y.session)
      (Answers (fun _ => Tracked client tag p TagPhase.IsSettled) fun _ =>
        Tracked client tag p fun _ => True) := by
  refine MakeCurrent.ends_switchTo
    (M := fun y => Tracked client tag p TagPhase.IsSettled y.session) (fun _ => hx) ?_ ?_ ?_
  · exact fun e he =>
      (release_tracked hr hx (hold e he)).mono (fun _ y hy => hy.2) fun _ _ => id
  · exact fun _ _ hy => hy
  · exact fun v _ y hy => bind_tracked hr hy v q

/-- Serving a request to make a context current follows the protocol. -/
lemma makeCurrent_tracked (hr : env.registry.KeepsClient)
    (hx : Tracked client tag p TagPhase.IsSettled x.session) (encoding : MakeCurrent.Encoding) :
    Ends (MakeCurrent.serve env encoding) x
      (fun _ y => Tracked client tag p TagPhase.IsSettled y.session)
      (Answers (fun _ => Tracked client tag p TagPhase.IsSettled) fun _ =>
        Tracked client tag p fun _ => True) := by
  have hA := kept_tracked env client tag p TagPhase.isSettled_store
  -- the reply tells a tag, and moves none
  have hreply : ∀ t (y : Exchange σ δ), Tracked client tag p TagPhase.IsSettled y.session →
      Ends (ExchangeM.sendReply [(8, t)]) y
        (fun _ z => Tracked client tag p TagPhase.IsSettled z.session)
        (Answers (fun _ => Tracked client tag p TagPhase.IsSettled) fun _ =>
          Tracked client tag p fun _ => True) :=
    fun t y hy => MakeCurrent.ends_replyTag fun _ _ => hy
  rw [MakeCurrent.serve, ends_bind, MakeCurrent.ends_read]
  cases hq : MakeCurrent.decode x.client encoding with
  | error e => exact hx
  | ok q =>
      have hsought : Tracked client tag p TagPhase.IsSettled (q.sought x.session) :=
        q.upheld_sought hA.upheld hx
      refine MakeCurrent.ends_switch rfl (fun _ _ => hx) (fun _ _ => hsought)
        (fun e v _ _ _ => hreply _ _ hsought) fun _ _ _ => ?_
      refine (switchTo_tracked hr hsought q ?_ _).mono (fun t y hy => hreply t y hy)
        fun _ _ => id
      -- the old tag is still looked up as it was: the search asks vendors, but changes no entry
      intro e he
      rw [Exchange.client_withSession, Exchange.session_withSession,
        MakeCurrent.Switch.ownership_sought, hx.numbered.tag_of_lookupTag he]
      exact he

end Switching

/-! ### Operations that follow the protocol -/

section Operations

variable {α : Type} {client : ClientId} {tag : ContextTag} {p : TagPhase δ} {s : Server σ δ}

/-- An operation that leaves the tag tracked, and settled unless it is broken off. -/
lemma Step.Leaves.tracked {step : Step σ δ α}
    (h : step.Leaves (fun _ => Tracked client tag p TagPhase.IsSettled) fun _ =>
      Tracked client tag p fun _ => True) :
    ∃ q, TagPhase.Trace client tag p step.journal q ∧
      step.server.ownership.lookupTag client tag = q.entry? ∧
      ∀ a, step.result = .ok a → q.IsSettled := by
  rw [Step.Leaves] at h
  cases hr : step.result with
  | ok a =>
      rw [hr] at h
      obtain ⟨q, hq, ht, hl⟩ := h.phase
      rw [Step.session, List.reverse_reverse] at ht
      exact ⟨q, ht, hl, fun _ _ => hq⟩
  | error a =>
      rw [hr] at h
      obtain ⟨q, -, ht, hl⟩ := h.phase
      rw [Step.session, List.reverse_reverse] at ht
      refine ⟨q, ht, hl, fun b hb => by cases hb⟩

/-- The start of a generation finds and leaves the tag free. -/
lemma beginGeneration_tracked (hs : s.Sound) (hp : p.IsSettled)
    (hl : s.ownership.lookupTag client tag = p.entry?) (entry : ExtensionEntry) :
    ∃ q, q.IsSettled ∧ TagPhase.Trace client tag p (s.beginGeneration entry).journal q ∧
      (s.beginGeneration entry).server.ownership.lookupTag client tag = q.entry? := by
  cases he : s.extension with
  | some e =>
      rw [Server.beginGeneration_of_some he]
      exact ⟨p, hp, .nil p, hl⟩
  | none =>
      -- between generations no tag is live, so the phase before is the free one
      obtain rfl := TagPhase.eq_free (hl.symm.trans (hs.idle he client tag))
      have h := Server.beginGeneration_keeps (s := s)
        (I := fun _ o journal => ∃ q, TagPhase.Trace client tag .free journal q ∧
          o.Numbered ∧ q.IsSettled ∧ o.lookupTag client tag = q.entry?) ?_ ?_ he entry ?_
      · obtain ⟨q, ht, -, hq, hlq⟩ := h
        exact ⟨q, hq, ht, hlq⟩
      · intro u journal
        -- the trace so far is what one callback extends
        have hk := fun m =>
          (u.environment.kept_const (TagPhase.Trace client tag .free journal m)).and
            (kept_tracked u.environment client tag m TagPhase.isSettled_store)
        refine ((Environment.Kept.ofExists hk).congr fun t => ⟨?_, ?_⟩).upheld
        · rintro ⟨m, hm, hn, q, hq, ht, hlq⟩
          exact ⟨q, hm.append ht, hn, hq, hlq⟩
        · rintro ⟨q, ht, hn, hq, hlq⟩
          obtain ⟨m, hm, ht⟩ := ht.split
          exact ⟨m, hm, hn, q, hq, ht, hlq⟩
      · rintro r o journal v ⟨q, ht, hn, hq, hlq⟩
        exact ⟨q, ht, hn, hq, hlq⟩
      · exact ⟨.free, .nil _, Ownership.numbered_vacant _, trivial, rfl⟩

/-- The end of a generation leaves the tag free. -/
lemma endGeneration_tracked {entry : ExtensionEntry} (he : s.extension = some entry)
    (client : ClientId) (tag : ContextTag) :
    ∃ q, q.IsSettled ∧ TagPhase.Trace client tag .free s.endGeneration.journal q ∧
      s.endGeneration.server.ownership.lookupTag client tag = q.entry? := by
  have h : Tracked client tag .free TagPhase.IsSettled s.endGeneration.session := by
    refine Server.endGeneration_keeps (fun s w h => ⟨h.numbered, h.phase⟩) ?_ ?_ he ?_
    · exact fun s v b entry h => h.other id
    · exact fun s v entry h => h.other id
    · exact ⟨Ownership.numbered_vacant _, .free, trivial, .nil _, rfl⟩
  obtain ⟨q, hq, ht, hl⟩ := h.phase
  rw [Step.session, List.reverse_reverse] at ht
  exact ⟨q, hq, ht, hl⟩

/-- A generation that ends is a deed that drops the tags. -/
lemma endGeneration_drops {entry : ExtensionEntry} (he : s.extension = some entry) :
    Deed.Drops client (⟨.endGeneration, s.apply .endGeneration⟩ : Deed σ δ) := by
  intro e h
  rw [Server.apply, Server.endGeneration, he] at h
  dsimp only at h
  cases hr : (s.closing entry).result with
  | ok a =>
      rw [Server.closing, Server.closed] at hr
      rw [hr] at h
      cases h
  | error a =>
      rw [Server.closing, Server.closed] at hr
      rw [hr] at h
      cases h

/-- Every operation follows the protocol. -/
lemma apply_tracked (hs : s.Sound) (hr : s.registry.KeepsClient) (hp : p.IsSettled)
    (hl : s.ownership.lookupTag client tag = p.entry?) (op : Operation σ δ) :
    ∃ q, TagHistory client tag p [⟨op, s.apply op⟩] q ∧
      (s.apply op).server.ownership.lookupTag client tag = q.entry? ∧
      ∀ a, (s.apply op).result = .ok a → q.IsSettled := by
  have hstart : Tracked client tag p TagPhase.IsSettled s.session :=
    ⟨hs.ownership.tags, p, hp, .nil p, hl⟩
  have hkept := kept_tracked s.environment client tag p TagPhase.isSettled_store
  cases op with
  -- the registry knows nothing of tags
  | createVendor i =>
      refine ⟨p, .deed id ?_ (.nil p), ?_, fun _ _ => hp⟩
      · simp only [Server.journal_createVendor]
        exact .nil p
      · rw [Server.ownership_createVendor]
        exact hl
  | destroyVendor v =>
      refine ⟨p, .deed id ?_ (.nil p), ?_, fun _ _ => hp⟩
      · simp only [Server.journal_destroyVendor]
        exact .nil p
      · rw [Server.ownership_destroyVendor]
        exact hl
  -- the ends of a generation
  | beginGeneration entry =>
      obtain ⟨q, hq, ht, hlq⟩ := beginGeneration_tracked hs hp hl entry
      exact ⟨q, .deed id ht (.nil q), hlq, fun _ _ => hq⟩
  | endGeneration =>
      cases he : s.extension with
      | none =>
          rw [Server.apply, Server.endGeneration_of_none he]
          exact ⟨p, .deed (fun h => h _ rfl) (.nil p) (.nil p), hl, fun _ _ => hp⟩
      | some entry =>
          obtain ⟨q, hq, ht, hlq⟩ := endGeneration_tracked he client tag
          exact ⟨q, .drop (endGeneration_drops he) ht (.nil q), hlq, fun _ _ => hq⟩
  | serve c =>
      -- only a request to make a context current asks vendors about tags
      by_cases hm : s.extension ≠ none ∧ ∃ encoding, c.makeCurrentEncoding? = some encoding
      · obtain ⟨he, encoding, henc⟩ := hm
        have hleaves : (s.serve c).Leaves
            (fun _ => Tracked client tag p TagPhase.IsSettled)
            fun _ => Tracked client tag p fun _ => True :=
          hs.serve_leaves_of_makeCurrentEncoding? he henc
            (makeCurrent_tracked (x := ⟨c, s.session⟩) hr hstart encoding)
        obtain ⟨q, ht, hlq, hq⟩ := hleaves.tracked
        exact ⟨q, .deed id ht (.nil q), hlq, hq⟩
      · obtain ⟨q, hq, ht, hlq⟩ := (hs.serve_keeps_of_other hkept hstart hm).phase
        rw [Step.session, List.reverse_reverse] at ht
        exact ⟨q, .deed id ht (.nil q), hlq, fun _ _ => hq⟩
  | clientGone gone =>
      have hgone := Ownership.lookupTag_clientGone s.ownership gone client tag
      by_cases hc : client = gone
      · -- the client's tags are dropped unasked, whatever their phase
        rw [if_pos hc] at hgone
        exact ⟨.free, .drop hc.symm (.nil _) (.nil _), hgone, fun _ _ => trivial⟩
      · rw [if_neg hc] at hgone
        exact ⟨p, .deed (fun h => hc h.symm) (.nil p) (.nil p), hgone.trans hl, fun _ _ => hp⟩
  | resourceFreed id =>
      exact ⟨p, .deed (fun h => h) (.nil p) (.nil p), hl, fun _ _ => hp⟩
  | perform program =>
      have h := Server.perform_keeps hkept hstart program
      obtain ⟨q, hq, ht, hlq⟩ := h.phase
      rw [Step.session, List.reverse_reverse] at ht
      exact ⟨q, .deed id ht (.nil q), hlq, fun _ _ => hq⟩
  | changeWorld change => exact ⟨p, .deed id (.nil p) (.nil p), hl, fun _ _ => hp⟩

end Operations

lemma TagHistory.cons {client : ClientId} {tag : ContextTag} {p q r : TagPhase δ} {d : Deed σ δ}
    {deeds : List (Deed σ δ)} (h : TagHistory client tag p [d] q)
    (h' : TagHistory client tag q deeds r) : TagHistory client tag p (d :: deeds) r := by
  cases h with
  | deed hd ht hn =>
      cases hn
      exact .deed hd ht h'
  | drop hd ht hn =>
      cases hn
      exact .drop hd ht h'

/-- A run from a router at rest follows the protocol. -/
lemma run_tracked {client : ClientId} {tag : ContextTag} {ops : List (Operation σ δ)}
    (hops : ∀ op ∈ ops, op.KeepsClient) {s : Server σ δ}
    (hs : s.Sound) (hr : s.registry.KeepsClient) {p : TagPhase δ} (hp : p.IsSettled)
    (hl : s.ownership.lookupTag client tag = p.entry?) :
    ∃ q, TagHistory client tag p (s.run ops) q ∧
      (s.after (s.run ops)).ownership.lookupTag client tag = q.entry? ∧
      ((∀ d ∈ (s.run ops).getLast?, ∃ a, d.step.result = .ok a) → q.IsSettled) := by
  induction ops generalizing s p with
  | nil => exact ⟨p, .nil p, hl, fun _ => hp⟩
  | cons op rest ih =>
      obtain ⟨q, hq, hlq, hset⟩ := apply_tracked hs hr hp hl op
      cases hres : (s.apply op).result with
      | error a =>
          rw [Server.run_cons_of_error hres]
          refine ⟨q, hq, hlq, fun hok => ?_⟩
          obtain ⟨b, hb⟩ := hok _ rfl
          exact hset b hb
      | ok a =>
          have hop := hops op List.mem_cons_self
          obtain ⟨r, hrest, hlr, hsetr⟩ := ih (fun o ho => hops o (List.mem_cons_of_mem op ho))
            (hs.apply op) (Server.apply_keepsClient hr hop) (hset a hres) hlq
          rw [Server.run_cons_of_ok hres, Server.after_cons]
          refine ⟨r, hq.cons hrest, hlr, fun hok => hsetr fun d hd => hok d ?_⟩
          rw [Option.mem_def] at hd ⊢
          rw [List.getLast?_cons, hd]
          rfl

/-- Every run follows the protocol, for every client and every tag, as long as vendors leave the id
of the client alone; and at its end the client's table has the entry that the protocol says. -/
theorem run_follows_protocol (host : WindowSystem σ) (world : σ) (nestingLimit : Nat)
    (ops : List (Operation σ δ)) (hops : ∀ op ∈ ops, op.KeepsClient) (client : ClientId)
    (tag : ContextTag) :
    let deeds := (Server.new host world nestingLimit).run ops
    ∃ p, TagHistory client tag .free deeds p ∧
      ((Server.new host world nestingLimit).after deeds).ownership.lookupTag client tag = p.entry? ∧
      ((∀ d ∈ deeds.getLast?, ∃ a, d.step.result = .ok a) → p.IsSettled) :=
  run_tracked hops (Server.sound_new host world nestingLimit) Registry.keepsClient_empty
    trivial rfl

/-- A client binds a context of a screen's vendor, and then the same context with other
drawables. -/
def rebinding : List (Operation Unit Nat) :=
  [.createVendor (.obliging 0 (some 42)), .beginGeneration .sample,
    .serve (.asking 7 Opcode.createContext [5, 33, 0, 0, 1]),
    .serve (.asking 7 Opcode.makeContextCurrent [0, 6, 7, 5]),
    .serve (.asking 7 Opcode.makeContextCurrent [1, 8, 9, 5])]

/-- The tag was released and bound again. -/
theorem rebinding_follows_protocol :
    (∀ op ∈ rebinding, op.KeepsClient) ∧
      ∃ p, TagHistory ⟨7⟩ 1 .free ((Server.new (.blank 1) () 4).run rebinding) p ∧
        p.entry? = some
          { tag := 1, owner := some ⟨0⟩, data := some 42, context := 5, drawable := 8,
            readDrawable := 9 } := by
  have hops : ∀ op ∈ rebinding, op.KeepsClient := by
    intro op hop
    simp only [rebinding, List.mem_cons, List.not_mem_nil, or_false] at hop
    rcases hop with rfl | rfl | rfl | rfl | rfl
    · exact VendorInterface.keepsClient_obliging 0 (some 42)
    all_goals trivial
  have hend : ((Server.new (.blank 1) () 4).after
      ((Server.new (.blank 1) () 4).run rebinding)).ownership.lookupTag ⟨7⟩ 1 =
        some { tag := 1, owner := some ⟨0⟩, data := some 42, context := 5, drawable := 8,
               readDrawable := 9 } := by
    decide +kernel
  obtain ⟨p, hp, hl, -⟩ := run_follows_protocol (.blank 1) () 4 rebinding hops ⟨7⟩ 1
  exact ⟨hops, p, hp, hl.symm.trans hend⟩

end VendorDispatch
