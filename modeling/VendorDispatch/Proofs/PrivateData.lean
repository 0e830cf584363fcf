import VendorDispatch.Proofs.TagProtocol

/-!
Who gets to see the private data on a tag.

The journal alone says what a vendor may be shown. A tag is handed to a vendor that is asked to
bind under it; from then on the vendor stores data on it, until the tag is released or refused, the
client disconnects or the generation ends. This is a tenure of the tag, and nothing outlives it.

* `Moment`, `timeline`: what happens to the tags of a client in the course of deeds.
* `Tenure`, `Tenure.after`, `tenure`: whose the tag is after some moments, and what was stored on it
  since it was handed to its owner.
* `TagPhase.Agrees`: the protocol's phase and the tenure tell the same (`Step.agrees`), so what a
  step of the protocol shows a vendor is the latest data of the vendor's own tenure (`Step.latest`).
* `Server.Sound.apply_forall`: what is true of every event that vendors and switches enter into the
  journal is true of the journal of every operation.
* `ShownInTenure`: data is shown in the name of the tag's owner only, as the owner stored it last in
  its tenure. `handed_out_in_tenure`: this is so among vendors that hand back their client.
* `data_crosses_owners`: the name of the owner is no secret, so any vendor can be told the data in
  that name; and a vendor that hands back another client puts its data on that client's tag.
-/

namespace VendorDispatch

variable {σ δ : Type}

/-! ### Moments -/

/-- What may matter to the tags of a client. -/
inductive Moment (δ : Type)
  /-- The client's tags are dropped: it has disconnected, or a generation ends. -/
  | dropped
  /-- An event. -/
  | happened (e : Event δ)

/-- The moments of a deed. -/
def Deed.moments (client : ClientId) (d : Deed σ δ) : List (Moment δ) :=
  (if d.Drops client then [.dropped] else []) ++ d.step.journal.map .happened

/-- The moments of deeds, in order. -/
def timeline (client : ClientId) (deeds : List (Deed σ δ)) : List (Moment δ) :=
  deeds.flatMap (Deed.moments client)

/-! ### Tenures -/

/-- A vendor's time as the owner of a tag. -/
structure Tenure (δ : Type) where
  /-- The vendor that was asked to bind under the tag. -/
  owner : VendorId
  /-- What was stored on the tag since then and by whom, the latest first. -/
  stored : List (VendorId × Option δ) := []

namespace Tenure

/-- The data stored last; none if nothing was stored. -/
def latest (t : Tenure δ) : Option δ := t.stored.head?.bind Prod.snd

/-- The tenure after a vendor stored data. -/
def store (v : VendorId) (data : Option δ) (t : Tenure δ) : Tenure δ :=
  { t with stored := (v, data) :: t.stored }

/-- What an event does to the tenure of a tag of a client. It starts when a vendor is asked to bind
under the tag, and ends when the vendor refuses or agrees to release the tag. Whoever agrees to bind
stores what it returns. -/
def after (client : ClientId) (tag : ContextTag) (t : Option (Tenure δ)) :
    Event δ → Option (Tenure δ)
  | .called v _ (.makeCurrent c q) =>
    if c.id = client ∧ q.newTag = tag then some { owner := v } else t
  | .returned v (.makeCurrent c q) (_, .ok data) =>
    if c.id = client ∧ q.newTag = tag then t.map (store v data)
    else if c.id = client ∧ q.oldTag = tag then none
    else t
  | .returned _ (.makeCurrent c q) (_, .error _) =>
    if c.id = client ∧ q.newTag = tag then none else t
  | .exported (.setTagData c u v data) true =>
    if c = client ∧ u = tag then t.map (store v data) else t
  | _ => t

/-- What a moment does to the tenure of a tag of a client. -/
def next (client : ClientId) (tag : ContextTag) (t : Option (Tenure δ)) :
    Moment δ → Option (Tenure δ)
  | .dropped => none
  | .happened e => after client tag t e

end Tenure

/-- The tenure of a tag of a client after some moments, at first of nobody. -/
def tenure (client : ClientId) (tag : ContextTag) (moments : List (Moment δ)) :
    Option (Tenure δ) :=
  moments.foldl (Tenure.next client tag) none

/-- Private data that a vendor is shown. -/
structure Disclosure (δ : Type) where
  /-- The client whose tag it is. -/
  client : ClientId
  /-- The tag. -/
  tag : ContextTag
  /-- The vendor. -/
  vendor : VendorId
  /-- The data. -/
  data : Option δ
  deriving DecidableEq

/-- What an event shows to a vendor: a vendor is asked to release a tag, or it is told the data that
it asked for. -/
def Event.disclosure? : Event δ → Option (Disclosure δ)
  | .called v _ (.makeCurrent c q) =>
    if q.oldTag = 0 then none else some ⟨c.id, q.oldTag, v, q.oldData⟩
  | .exported (.tagData c tag v) answer => answer.map fun data => ⟨c, tag, v, data⟩
  | _ => none

/-- The calls and the answers that show data to a vendor. -/
lemma Event.of_disclosure? {e : Event δ} {s : Disclosure δ} (h : e.disclosure? = some s) :
    (∃ b c q, e = .called s.vendor b (.makeCurrent c q) ∧ q.oldTag ≠ 0 ∧ c.id = s.client ∧
      q.oldTag = s.tag ∧ q.oldData = s.data) ∨
    e = .exported (.tagData s.client s.tag s.vendor) (some s.data) := by
  cases e with
  | called v b callback =>
      cases callback with
      | makeCurrent c q =>
          rw [disclosure?] at h
          split_ifs at h with h0
          cases h
          exact .inl ⟨b, c, q, rfl, h0, rfl, rfl, rfl⟩
      | _ => cases h
  | exported request answer =>
      cases request with
      | tagData c tag v =>
          obtain ⟨data, hdata, rfl⟩ := Option.map_eq_some_iff.mp h
          cases hdata
          exact .inr rfl
      | _ => cases h
  | _ => cases h

lemma Event.concerns_of_disclosure? {e : Event δ} {s : Disclosure δ} (h : e.disclosure? = some s) :
    e.Concerns s.client s.tag := by
  rcases of_disclosure? h with ⟨b, c, q, rfl, h0, hc, hq, -⟩ | rfl
  · exact ⟨hc, fun hs => h0 (hq.trans hs), .inl hq⟩
  · exact ⟨rfl, rfl⟩

/-! ### Phases and tenures -/

namespace TagPhase

variable {client : ClientId} {tag : ContextTag} {p q r : TagPhase δ} {e : Event δ}
  {t : Option (Tenure δ)}

/-- The entry of a tag tells what the tenure does: who owns the tag and what was stored last. Only
the owner has stored anything. -/
structure Tells (tag : ContextTag) (e : TagInfo δ) (t : Tenure δ) : Prop where
  tag : e.tag = tag
  owner : e.owner = some t.owner
  data : e.data = t.latest
  own : ∀ s ∈ t.stored, s.1 = t.owner

/-- The phase of a tag of a client agrees with its tenure. -/
def Agrees (client : ClientId) (tag : ContextTag) : TagPhase δ → Option (Tenure δ) → Prop
  | free, t => t = none
  | binding e c q, t => (∃ u, t = some u ∧ Tells tag e u) ∧ c.id = client ∧ q.newTag = tag
  | bound e, t => ∃ u, t = some u ∧ Tells tag e u
  | releasing e c q, t =>
    (∃ u, t = some u ∧ Tells tag e u) ∧ c.id = client ∧ q.newTag = 0 ∧ q.oldTag = tag

/-- The owner stores data. -/
lemma Tells.store {e d : TagInfo δ} {u : Tenure δ} {v : VendorId} {data : Option δ}
    (h : Tells tag e u) (hv : e.owner = some v) (htag : d.tag = e.tag) (howner : d.owner = e.owner)
    (hdata : d.data = data) : Tells tag d (u.store v data) where
  tag := htag.trans h.tag
  owner := howner.trans h.owner
  data := hdata
  own s hs := by
    have hu : v = u.owner := Option.some.inj (hv.symm.trans h.owner)
    rcases List.mem_cons.mp hs with rfl | hs
    · exact hu
    · exact h.own s hs

lemma Agrees.of_entry? (h : p.Agrees client tag t) {e : TagInfo δ} (he : p.entry? = some e) :
    ∃ u, t = some u ∧ Tells tag e u := by
  cases p with
  | free => cases he
  | bound d =>
      cases he
      exact h
  | binding d c q | releasing d c q =>
      cases he
      exact h.1

/-- The data that the owner stored is the latest. -/
lemma Agrees.store (h : p.Agrees client tag t) {v : VendorId} (hv : p.owner? = some v)
    (data : Option δ) : (p.store data).Agrees client tag (t.map (Tenure.store v data)) := by
  cases p with
  | free => cases hv
  | bound e =>
      obtain ⟨u, rfl, hu⟩ := h
      exact ⟨_, rfl, hu.store hv rfl rfl rfl⟩
  | binding e c q | releasing e c q =>
      obtain ⟨⟨u, rfl, hu⟩, hq⟩ := h
      exact ⟨⟨_, rfl, hu.store hv rfl rfl rfl⟩, hq⟩

/-- An event about something else leaves the tenure as it is. -/
lemma after_of_not_concerns (htag : tag ≠ 0) (he : ¬ e.Concerns client tag) :
    Tenure.after client tag t e = t := by
  cases e with
  | called v b callback =>
      cases callback with
      | makeCurrent c q => exact if_neg fun h => he ⟨h.1, htag, .inr h.2⟩
      | _ => rfl
  | returned v callback answer =>
      cases callback with
      | makeCurrent c q =>
          obtain ⟨d, reason | data⟩ := answer
          · exact if_neg fun h => he ⟨h.1, htag, .inr h.2⟩
          · rw [Tenure.after, if_neg fun h => he ⟨h.1, htag, .inr h.2⟩,
              if_neg fun h => he ⟨h.1, htag, .inl h.2⟩]
      | _ => rfl
  | exported request answer =>
      cases request with
      | setTagData c u v data =>
          cases answer with
          | true => exact if_neg he
          | false => rfl
      | _ => rfl
  | _ => rfl

/-- Every step of the protocol takes phase and tenure along. -/
lemma Step.agrees (htag : tag ≠ 0) (h : Step client tag p e q) (hp : p.Agrees client tag t) :
    q.Agrees client tag (Tenure.after client tag t e) := by
  cases h with
  | other _ he =>
      rw [after_of_not_concerns htag he]
      exact hp
  -- the data of a tenure starts with its binding
  | bindAsked v b s hc =>
      rw [Tenure.after, if_pos ⟨hc, rfl⟩]
      exact ⟨⟨_, rfl, rfl, rfl, rfl, by simp⟩, hc, rfl⟩
  | bindAccepted s c d data hv =>
      obtain ⟨⟨u, rfl, hu⟩, hc, hq⟩ := hp
      rw [Tenure.after, if_pos ⟨hc, hq⟩]
      exact ⟨_, rfl, hu.store hv rfl rfl rfl⟩
  | bindRefused s c d reason hv =>
      obtain ⟨-, hc, hq⟩ := hp
      exact if_pos ⟨hc, hq⟩
  -- a release is told apart from a binding by the new tag, which is zero
  | @releaseAsked v b c d hc hv =>
      obtain ⟨u, rfl, hu⟩ := hp
      have hzero : ¬ (c.id = client ∧ d.toRelease.newTag = tag) := fun h => htag h.2.symm
      rw [Tenure.after, if_neg hzero]
      exact ⟨⟨u, rfl, hu⟩, hc, rfl, hu.tag⟩
  | releaseAccepted s c d data hv =>
      obtain ⟨-, hc, hnew, hold⟩ := hp
      rw [Tenure.after, if_neg fun h => htag (h.2.symm.trans hnew), if_pos ⟨hc, hold⟩]
      exact rfl
  | releaseRefused s c d reason hv =>
      obtain ⟨hu, -, hnew, -⟩ := hp
      rw [Tenure.after, if_neg fun h => htag (h.2.symm.trans hnew)]
      exact hu
  -- in between the owner may replace the data
  | stored data hv =>
      rw [Tenure.after, if_pos ⟨rfl, rfl⟩]
      exact hp.store hv data
  | notStored | ownerTold | dataTold => exact hp

/-- The latest data of a tenure, for its owner. -/
def Latest (t : Option (Tenure δ)) (v : VendorId) (data : Option δ) : Prop :=
  ∃ u, t = some u ∧ u.owner = v ∧ data = u.latest ∧ ∀ s ∈ u.stored, s.1 = v

lemma Tells.latest {e : TagInfo δ} {u : Tenure δ} {v : VendorId} (h : Tells tag e u)
    (hv : e.owner = some v) : Latest (some u) v e.data := by
  have hu : u.owner = v := Option.some.inj (h.owner.symm.trans hv)
  exact ⟨u, rfl, hu, h.data, fun s hs => (h.own s hs).trans hu⟩

/-- What a step of the protocol shows a vendor is the latest data of its own tenure. -/
lemma Step.latest (h : Step client tag p e q) (hp : p.Agrees client tag t) {v : VendorId}
    {data : Option δ} (he : e.disclosure? = some ⟨client, tag, v, data⟩) : Latest t v data := by
  cases h with
  | other _ hother => exact (hother (Event.concerns_of_disclosure? he)).elim
  | bindAsked w b s hc => cases he
  | releaseAsked b hc hv =>
      obtain ⟨_, _, _, ⟨⟩, -, -, -, rfl⟩ | ⟨⟨⟩⟩ := Event.of_disclosure? he
      obtain ⟨u, rfl, hu⟩ := hp
      exact hu.latest hv
  | dataTold _ w =>
      obtain ⟨data', hdata, hs⟩ := Option.map_eq_some_iff.mp he
      cases hs
      obtain ⟨e, hentry, hfor⟩ := Option.bind_eq_some_iff.mp hdata
      obtain ⟨u, rfl, hu⟩ := hp.of_entry? hentry
      rw [TagInfo.dataFor] at hfor
      split_ifs at hfor with hv
      cases hfor
      exact hu.latest hv
  | _ => cases he

/-- What moments do to a tag of a client. -/
inductive Passes (client : ClientId) (tag : ContextTag) :
    TagPhase δ → List (Moment δ) → TagPhase δ → Prop
  /-- Nothing happens. -/
  | nil (p : TagPhase δ) : Passes client tag p [] p
  /-- The tags of the client are dropped, and then the others happen. -/
  | dropped {p r : TagPhase δ} {moments : List (Moment δ)} :
    Passes client tag .free moments r → Passes client tag p (.dropped :: moments) r
  /-- An event happens, and then the others. -/
  | happened {p q r : TagPhase δ} {e : Event δ} {moments : List (Moment δ)} :
    Step client tag p e q → Passes client tag q moments r →
      Passes client tag p (.happened e :: moments) r

lemma Trace.passes {events : List (Event δ)} {moments : List (Moment δ)}
    (h : Trace client tag p events q) (h' : Passes client tag q moments r) :
    Passes client tag p (events.map .happened ++ moments) r := by
  induction h with
  | nil p => exact h'
  | cons hstep _ ih => exact .happened hstep (ih h')

/-- The tags of a client pass through the phases of its history. -/
lemma passes_timeline {deeds : List (Deed σ δ)} (h : TagHistory client tag p deeds q) :
    Passes client tag p (timeline client deeds) q := by
  induction h with
  | nil p => exact .nil p
  | @deed p q r d deeds hd ht _ ih =>
      have hmoments : d.moments client = d.step.journal.map .happened := by
        rw [Deed.moments, if_neg hd, List.nil_append]
      rw [timeline, List.flatMap_cons, hmoments]
      exact ht.passes ih
  | @drop p q r d deeds hd ht _ ih =>
      have hmoments : d.moments client = .dropped :: d.step.journal.map .happened := by
        rw [Deed.moments, if_pos hd, List.singleton_append]
      rw [timeline, List.flatMap_cons, hmoments]
      exact .dropped (ht.passes ih)

/-- Moments in two parts. -/
lemma Passes.split {first second : List (Moment δ)}
    (h : Passes client tag p (first ++ second) r) :
    ∃ q, Passes client tag p first q ∧ Passes client tag q second r := by
  induction first generalizing p with
  | nil => exact ⟨p, .nil p, h⟩
  | cons m rest ih =>
      cases h with
      | dropped h =>
          obtain ⟨q, hq, hsecond⟩ := ih h
          exact ⟨q, .dropped hq, hsecond⟩
      | happened hstep h =>
          obtain ⟨q, hq, hsecond⟩ := ih h
          exact ⟨q, .happened hstep hq, hsecond⟩

/-- Phase and tenure stay in agreement. -/
lemma Passes.agrees (htag : tag ≠ 0) {moments : List (Moment δ)}
    (h : Passes client tag p moments q) (hp : p.Agrees client tag t) :
    q.Agrees client tag (moments.foldl (Tenure.next client tag) t) := by
  induction h generalizing t with
  | nil p => exact hp
  | dropped _ ih => exact ih rfl
  | happened hstep _ ih => exact ih (hstep.agrees htag hp)

/-- Wherever a vendor is shown data, it is the latest of its own tenure. -/
lemma Passes.latest (htag : tag ≠ 0) {past future : List (Moment δ)}
    (h : Passes client tag .free (past ++ .happened e :: future) r) {v : VendorId}
    {data : Option δ} (he : e.disclosure? = some ⟨client, tag, v, data⟩) :
    Latest (tenure client tag past) v data := by
  obtain ⟨q, hpast, hrest⟩ := h.split
  cases hrest with
  | happened hstep _ => exact hstep.latest (hpast.agrees htag rfl) he

/-- The entry of the tag tells whose tenure it is, and what was stored last. -/
lemma Agrees.tells (h : p.Agrees client tag t) :
    Option.map (fun e => (e.owner, e.data)) p.entry? =
      t.map fun u => (some u.owner, u.latest) := by
  cases hp : p.entry? with
  | none =>
      obtain rfl := eq_free hp
      obtain rfl : t = none := h
      rfl
  | some e =>
      obtain ⟨u, rfl, hu⟩ := h.of_entry? hp
      rw [Option.map_some, Option.map_some, hu.owner, hu.data]

end TagPhase

/-! ### The tag zero -/

/-- Nobody is told private data on the tag zero, which is no tag. -/
def Event.SparesZero : Event δ → Prop
  | .exported (.tagData _ tag _) answer => tag = 0 → answer = none
  | _ => True

lemma stable_sparesZero (env : Environment σ δ) :
    env.Stable fun s => ∀ e ∈ s.journal, e.SparesZero where
  kept :=
    { withWorld := fun _ _ h => h
      enter := fun s e he h => by
        refine List.forall_mem_cons.mpr ⟨?_, h⟩
        cases e with
        | exported request answer =>
            cases request with
            | tagData => exact he.elim
            | _ => trivial
        | _ => trivial
      setScreenVendor := fun _ _ _ _ _ _ h => h
      addXid := fun _ _ _ _ h => h
      removeXid := fun _ _ h => h
      tagVendor := fun s client tag h => List.forall_mem_cons.mpr ⟨trivial, h⟩
      tagData := fun s client tag v h => by
        refine List.forall_mem_cons.mpr ⟨?_, h⟩
        -- no entry stands at tag zero
        rintro rfl
        rw [Ownership.lookupTag_zero]
        rfl
      setTagData := fun s client tag v data hv h => List.forall_mem_cons.mpr ⟨trivial, h⟩
      touchTags := fun s client tag v data hv h => List.forall_mem_cons.mpr ⟨trivial, h⟩ }
  asked _ _ _ _ _ h := List.forall_mem_cons.mpr ⟨trivial, h⟩
  answered _ _ _ _ _ h := List.forall_mem_cons.mpr ⟨trivial, h⟩
  claim _ _ _ _ _ _ _ h := h
  unclaim _ _ _ _ _ _ h := h
  free _ _ _ h := h
  bound _ _ _ _ _ h := h

/-- What is true of every event that vendors and switches enter into the journal is true of the
journal of an operation. -/
lemma Server.Sound.apply_forall {s : Server σ δ} (hs : s.Sound) {P : Event δ → Prop}
    (hstable : ∀ env : Environment σ δ, env.Stable fun t => ∀ e ∈ t.journal, P e)
    (hclose : ∀ v initialized entry,
      P (.called v initialized (.closeDown entry)) ∧ P (.returned v (.closeDown entry) ()))
    (op : Operation σ δ) : ∀ e ∈ (s.apply op).journal, P e := by
  have hnil : ∀ e ∈ ([] : List (Event δ)), P e := List.forall_mem_nil P
  have hsession : ∀ {α : Type} {step : Step σ δ α}, (∀ e ∈ step.session.journal, P e) →
      ∀ e ∈ step.journal, P e := by
    intro α step h e he
    exact h e (List.mem_reverse.mpr he)
  cases op with
  | createVendor i =>
      rw [Server.journal_createVendor]
      exact hnil
  | destroyVendor v =>
      rw [Server.journal_destroyVendor]
      exact hnil
  | beginGeneration entry =>
      rw [Server.apply]
      cases he : s.extension with
      | some e =>
          rw [Server.beginGeneration_of_some he]
          exact hnil
      | none =>
          -- the callbacks of the vendors add to the journal one after the other
          refine Server.beginGeneration_keeps (I := fun _ _ journal => ∀ e ∈ journal, P e) ?_
            (fun _ _ _ _ h => h) he entry hnil
          intro t journal
          refine Environment.Kept.upheld (Environment.Kept.congr
            ((t.environment.kept_const (∀ e ∈ journal, P e)).and (hstable _).kept) fun u => ?_)
          rw [List.forall_mem_append]
          simp only [List.mem_reverse]
  | endGeneration =>
      rw [Server.apply]
      cases he : s.extension with
      | none =>
          rw [Server.endGeneration_of_none he]
          exact hnil
      | some entry =>
          -- a generation that ends calls the vendors without a switch
          exact hsession (Server.endGeneration_keeps (I := fun t => ∀ e ∈ t.journal, P e)
            (fun _ _ h => h) (fun _ v b entry h => List.forall_mem_cons.mpr ⟨(hclose v b entry).1, h⟩)
            (fun _ v entry h => List.forall_mem_cons.mpr ⟨(hclose v true entry).2, h⟩) he hnil)
  | serve c => exact hsession (hs.serve_keeps (hstable _) hnil c)
  | perform program => exact hsession (Server.perform_keeps (hstable _).kept hnil program)
  | clientGone | resourceFreed | changeWorld => exact hnil

/-- No vendor is shown private data on the tag zero. -/
lemma Event.SparesZero.ne_zero {e : Event δ} (he : e.SparesZero) {s : Disclosure δ}
    (hs : e.disclosure? = some s) : s.tag ≠ 0 := by
  rcases of_disclosure? hs with ⟨b, c, q, rfl, h0, -, hq, -⟩ | rfl
  · exact fun h => h0 (hq.trans h)
  · exact fun h => by cases he h

lemma sparesZero_of_mem_timeline {host : WindowSystem σ} {world : σ} {nestingLimit : Nat}
    {ops : List (Operation σ δ)} {client : ClientId} {e : Event δ}
    (he : .happened e ∈ timeline client ((Server.new host world nestingLimit).run ops)) :
    e.SparesZero := by
  obtain ⟨d, hd, hmoment⟩ := List.mem_flatMap.mp he
  have hmem : e ∈ d.step.journal := by
    rw [Deed.moments, List.mem_append] at hmoment
    rcases hmoment with hmoment | hmoment
    · split_ifs at hmoment <;> simp at hmoment
    · simpa using hmoment
  obtain ⟨s, hs, hstep⟩ := (Server.Reachable.new host world nestingLimit).run hd
  rw [hstep] at hmem
  exact hs.sound.apply_forall stable_sparesZero (fun _ _ _ => ⟨trivial, trivial⟩) _ e hmem

/-- Wherever private data on the tag is shown in the name of a vendor, it is the vendor's own tenure,
and the data is what the vendor stored last in it. -/
def ShownInTenure (client : ClientId) (tag : ContextTag) (deeds : List (Deed σ δ)) : Prop :=
  ∀ past e future v data, timeline client deeds = past ++ .happened e :: future →
    e.disclosure? = some ⟨client, tag, v, data⟩ →
    ∃ t, tenure client tag past = some t ∧ t.owner = v ∧ data = t.latest ∧ ∀ s ∈ t.stored, s.1 = v

/-- Private data on a tag is shown in the name of the owner of the tag only: what was stored last
since the owner was asked to bind under the tag, by the owner itself. Nothing is left of what was
stored before the tag was released or refused, the client disconnected or a generation ended. At the
end of a run the client's table says the same. The vendors are such that hand back the client that
they were given. -/
theorem handed_out_in_tenure (host : WindowSystem σ) (world : σ) (nestingLimit : Nat)
    (ops : List (Operation σ δ)) (hops : ∀ op ∈ ops, op.KeepsClient) (client : ClientId)
    (tag : ContextTag) :
    let deeds := (Server.new host world nestingLimit).run ops
    ShownInTenure client tag deeds ∧
    (tag ≠ 0 →
      ((((Server.new host world nestingLimit).after deeds).ownership.lookupTag client tag).map
          fun e => (e.owner, e.data)) =
        (tenure client tag (timeline client deeds)).map fun t => (some t.owner, t.latest)) := by
  intro deeds
  have hsettled : (TagPhase.free : TagPhase δ).IsSettled := trivial
  have hfree : (Server.new host world nestingLimit : Server σ δ).ownership.lookupTag client tag =
      TagPhase.free.entry? := rfl
  obtain ⟨p, hp, hl, -⟩ := run_tracked hops (Server.sound_new host world nestingLimit)
    Registry.keepsClient_empty hsettled hfree
  have hpasses := TagPhase.passes_timeline hp
  refine ⟨fun past e future v data hsplit he => ?_, fun htag => ?_⟩
  · have hmem : .happened e ∈ timeline client deeds := by simp [hsplit]
    have htag : tag ≠ 0 := (sparesZero_of_mem_timeline hmem).ne_zero he
    rw [hsplit] at hpasses
    exact hpasses.latest htag he
  · rw [hl]
    exact (hpasses.agrees htag rfl).tells

/-- A client binds a context. The vendor replaces the private data, and another vendor tries to.
Then the client binds the same context with other drawables. -/
def replacing : List (Operation Unit Nat) :=
  [.createVendor (.obliging 0 (some 42)), .createVendor (.obliging 1 none),
    .beginGeneration .sample, .serve (.asking 7 Opcode.createContext [5, 33, 0, 0, 1]),
    .serve (.asking 7 Opcode.makeContextCurrent [0, 6, 7, 5]),
    .perform (.call (.setTagData ⟨7⟩ 1 ⟨0⟩ (some 43)) fun _ => .done ()),
    .perform (.call (.setTagData ⟨7⟩ 1 ⟨1⟩ (some 44)) fun _ => .done ()),
    .serve (.asking 7 Opcode.makeContextCurrent [1, 8, 9, 5])]

/-- When the tag is released, the vendor is shown what it stored last. -/
theorem handed_out_in_tenure_replaced :
    (∀ op ∈ replacing, op.KeepsClient) ∧
      ∃ past e future,
        timeline ⟨7⟩ ((Server.new (.blank 2) () 4).run replacing) = past ++ .happened e :: future ∧
        e.disclosure? = some ⟨⟨7⟩, 1, ⟨0⟩, some 43⟩ ∧
        ∃ t, tenure ⟨7⟩ 1 past = some t ∧ t.owner = ⟨0⟩ ∧ some 43 = t.latest := by
  have hops : ∀ op ∈ replacing, op.KeepsClient := by
    intro op hop
    simp only [replacing, List.mem_cons, List.not_mem_nil, or_false] at hop
    rcases hop with rfl | rfl | rfl | rfl | rfl | rfl | rfl | rfl
    · exact VendorInterface.keepsClient_obliging 0 (some 42)
    · exact VendorInterface.keepsClient_obliging 1 none
    all_goals trivial
  have hshown : ((timeline ⟨7⟩ ((Server.new (.blank 2) () 4).run replacing)).any fun
      | .happened e => e.disclosure? = some ⟨⟨7⟩, 1, ⟨0⟩, some 43⟩
      | .dropped => false) = true := by decide +kernel
  obtain ⟨_ | e, hmem, he⟩ := List.any_eq_true.mp hshown
  · cases he
  · obtain ⟨past, future, hsplit⟩ := List.append_of_mem hmem
    have he := of_decide_eq_true he
    obtain ⟨t, ht, howner, hdata, -⟩ :=
      (handed_out_in_tenure (.blank 2) () 4 replacing hops ⟨7⟩ 1).1 past e future _ _ hsplit he
    exact ⟨hops, past, e, future, hsplit, he, t, ht, howner, hdata⟩

/-! ### Data of other vendors -/

/-- Private data that is shown at a moment. -/
def Moment.disclosure? : Moment δ → Option (Disclosure δ)
  | dropped => none
  | happened e => e.disclosure?

/-- The tenure at a given moment at which data is shown. -/
lemma ShownInTenure.latest_eq {client : ClientId} {tag : ContextTag} {deeds : List (Deed σ δ)}
    (h : ShownInTenure client tag deeds) {k : Nat} {v : VendorId} {data : Option δ}
    (hk : (timeline client deeds)[k]?.bind Moment.disclosure? = some ⟨client, tag, v, data⟩) :
    (tenure client tag ((timeline client deeds).take k)).map Tenure.latest = some data := by
  obtain ⟨_ | e, hm, he⟩ := Option.bind_eq_some_iff.mp hk
  · cases he
  · obtain ⟨hlt, hm⟩ := List.getElem?_eq_some_iff.mp hm
    have hsplit : timeline client deeds = (timeline client deeds).take k ++
        .happened e :: (timeline client deeds).drop (k + 1) := by
      rw [← hm, List.getElem_cons_drop, List.take_append_drop]
    obtain ⟨t, ht, -, hdata, -⟩ := h _ e _ v data hsplit he
    rw [ht, hdata]
    rfl

/-- The vendor that an event calls. -/
def Event.callee? : Event δ → Option VendorId
  | .called v _ _ => some v
  | _ => none

/-- A vendor that has just been called is told private data of another vendor. -/
def Deed.CrossesOwners (d : Deed σ δ) : Prop :=
  ∃ e ∈ d.step.journal.zip d.step.journal.tail, ∃ v ∈ e.1.callee?, ∃ s ∈ e.2.disclosure?,
    s.vendor ≠ v

instance (d : Deed σ δ) : Decidable d.CrossesOwners :=
  inferInstanceAs (Decidable (∃ e ∈ d.step.journal.zip d.step.journal.tail, ∃ v ∈ e.1.callee?,
    ∃ s ∈ e.2.disclosure?, s.vendor ≠ v))

/-- A vendor that asks for the data of another one, in whose name it asks. -/
def VendorInterface.peeking : VendorInterface Unit Nat :=
  { obliging 1 none with
    handleRequest := some fun c => .call (.tagData c.id 1 ⟨0⟩) fun _ => .done (c, .ok ()) }

/-- A client binds a context, and sends a request to the vendor of another screen. -/
def peeked : List (Operation Unit Nat) :=
  [.createVendor (.obliging 0 (some 42)), .createVendor .peeking, .beginGeneration .sample,
    .serve (.asking 7 Opcode.createContext [5, 33, 0, 0, 1]),
    .serve (.asking 7 Opcode.makeContextCurrent [0, 6, 7, 5]),
    .serve (.asking 7 Opcode.createContext [9, 33, 1, 0, 1])]

/-- A client binds a context of one vendor, and another client binds one of a vendor that confuses
clients, under a tag of the same number. Then the first client releases its tag. -/
def mistaken : List (Operation Unit Nat) :=
  [.createVendor (.obliging 0 (some 42)), .createVendor (.confused 1 (some 9)),
    .beginGeneration .sample, .serve (.asking 8 Opcode.createContext [5, 33, 0, 0, 1]),
    .serve (.asking 8 Opcode.createContext [9, 33, 1, 0, 1]),
    .serve (.asking 8 Opcode.makeContextCurrent [0, 6, 7, 5]),
    .serve (.asking 7 Opcode.makeContextCurrent [0, 8, 8, 9]),
    .serve (.asking 8 Opcode.makeContextCurrent [1, 0, 0, 0])]

/-- A vendor is told the data of another one whose name it knows; and the data of a vendor that
confuses clients is shown to the owner of the other client's tag. -/
theorem data_crosses_owners :
    (∃ d ∈ (Server.new (.blank 2) () 4).run peeked, d.CrossesOwners) ∧
      ¬ ShownInTenure ⟨8⟩ 1 ((Server.new (.blank 2) () 4).run mistaken) := by
  refine ⟨by decide +kernel, fun h => ?_⟩
  have hshown : (timeline ⟨8⟩ ((Server.new (.blank 2) () 4).run mistaken))[16]?.bind
      Moment.disclosure? = some ⟨⟨8⟩, 1, ⟨0⟩, some 9⟩ := by decide +kernel
  exact absurd (h.latest_eq hshown) (by decide +kernel)

end VendorDispatch
