import VendorDispatch.Proofs.Resolution
import VendorDispatch.Proofs.TagTable

/-!
The steps by which a context is made current.

A vendor is asked with the invariant `A` set up by the call itself; the vendor's work keeps `A`,
whatever it does, and what follows the answer is left to the caller of these rules.

* `Environment.HandsBack`: how the client that a vendor hands back compares to the one it was given.
* `ends_ask`, `ends_release`, `ends_bindTag`: asking a vendor, and what the router does with the
  answer.
* `ends_switchTo`, `ends_switch`: the whole switch, in terms of its steps.
* `Environment.Switchable`, `Environment.Stable`: an invariant that switching contexts keeps as well
  (`Switchable.serve`).
-/

namespace VendorDispatch

variable {σ δ α : Type} {env : Environment σ δ} {x : Exchange σ δ}

/-! ### Handing the client over -/

/-- Vendors that are asked to bind or to release hand back a client with `C`. -/
def Environment.HandsBack (env : Environment σ δ) (C : Client → Client → Prop) : Prop :=
  ∀ v handler, env.makeCurrentHandler? v = some handler → ∀ c q s,
    Ends (env.interpret (handler c q)) s (fun r _ => C c r.1) fun _ _ => True

lemma Environment.handsBack_any : env.HandsBack fun _ _ => True := by
  intro v handler _ c q s
  rw [Ends]
  split <;> trivial

lemma Registry.KeepsClient.handsBack (h : env.registry.KeepsClient) :
    env.HandsBack fun c d => d.id = c.id := by
  intro v handler hv c q s
  rw [Environment.makeCurrentHandler?, Option.bind_eq_some_iff] at hv
  obtain ⟨i, hi, hh⟩ := hv
  exact interpret_returns h ((h v i hi).makeCurrent handler hh c q) s

/-- The exchange after a vendor was asked, and returned with the session at `s`. -/
def Exchange.answered (x : Exchange σ δ) (v : VendorId) (q : MakeCurrentRequest δ)
    (s : Session σ δ) (c : Client) (r : Except ProtocolError (Option δ)) : Exchange σ δ :=
  (x.withSession (s.enter (.returned v (.makeCurrent x.client q) (c, r)))).withClient c

/-- What the owner of a tag is asked when the tag is to be released. -/
def TagInfo.toRelease (e : TagInfo δ) : MakeCurrentRequest δ :=
  { oldTag := e.tag, oldData := e.data }

namespace MakeCurrent

/-- What a vendor is asked when it is to bind under a tag. -/
def Switch.toBind (q : Switch) (tag : ContextTag) : MakeCurrentRequest δ :=
  { drawable := q.drawable, readDrawable := q.readDrawable, context := q.context, newTag := tag }

/-- The entry of a tag after a binding was accepted. -/
def Switch.bound (q : Switch) (data : Option δ) (e : TagInfo δ) : TagInfo δ :=
  { e with data, context := q.context, drawable := q.drawable, readDrawable := q.readDrawable }

@[simp] lemma Switch.isHeldBy_bound (q : Switch) (data : Option δ) (e : TagInfo δ) :
    q.isHeldBy (q.bound data e) = true := by
  simp [Switch.isHeldBy, Switch.bound]

/-- The table of a client has an entry for the old tag, and it stands for what is asked for. -/
def Switch.IsHeld (q : Switch) (o : Ownership δ) (client : ClientId) : Prop :=
  ∃ e, o.lookupTag client q.oldTag = some e ∧ q.isHeldBy e = true

/-- Who is to bind the new context, if there is one. -/
def Switch.newOwner (q : Switch) (env : Environment σ δ) (s : Session σ δ) : Option VendorId :=
  if q.context = 0 then none else env.ownerOfXid s q.context

lemma Switch.newOwner_of_eq_zero {q : Switch} (h : q.context = 0) (s : Session σ δ) :
    q.newOwner env s = none :=
  if_pos h

lemma Switch.newOwner_of_ne_zero {q : Switch} (h : q.context ≠ 0) (s : Session σ δ) :
    q.newOwner env s = env.ownerOfXid s q.context :=
  if_neg h

/-- Who is to bind has something to bind. -/
lemma Switch.context_ne_zero {q : Switch} {s : Session σ δ} {v : VendorId}
    (h : q.newOwner env s = some v) : q.context ≠ 0 := by
  intro h0
  rw [newOwner_of_eq_zero h0] at h
  cases h

/-- The session after the owner of the new context was looked for. -/
def Switch.sought (q : Switch) (s : Session σ δ) : Session σ δ :=
  if q.context = 0 then s else s.lookedUp q.context

@[simp] lemma Switch.ownership_sought (q : Switch) (s : Session σ δ) :
    (q.sought s).ownership = s.ownership := by
  rw [sought]
  split_ifs <;> simp

/-- Looking for an owner keeps every invariant. -/
lemma Switch.upheld_sought {I : Session σ δ → Prop} (h : env.Upheld I) (q : Switch) {s : Session σ δ}
    (hs : I s) : I (q.sought s) := by
  rw [sought]
  split_ifs
  · exact hs
  · exact h.lookedUp _ hs

/-! ### The parties of a switch -/

section Parties

variable {fault : Fault → Exchange σ δ → Prop}

lemma ends_oldEntry {tag : ContextTag} {post : Option (TagInfo δ) → Exchange σ δ → Prop} :
    Ends (oldEntry tag) x post fault ↔
      if tag = 0 then
        post none x
      else
        match x.session.ownership.lookupTag x.client.id tag with
        | some e => post (some e) x
        | none =>
          fault (.error (.extension .badContextTag))
            (x.withClient { x.client with errorValue := tag }) := by
  rw [oldEntry]
  split_ifs with h0
  · exact Iff.rfl
  · rw [ends_bind, ends_client, ends_bind, ends_onSession, ends_ownership]
    cases x.session.ownership.lookupTag x.client.id tag <;> exact Iff.rfl

lemma ends_newVendor {context : Xid} {post : Option VendorId → Exchange σ δ → Prop} :
    Ends (newVendor env context) x post fault ↔
      if context = 0 then
        post none x
      else
        match env.ownerOfXid x.session context with
        | some v => post (some v) (x.withSession (x.session.lookedUp context))
        | none =>
          fault (.error (.extension .badContext))
            ((x.withSession (x.session.lookedUp context)).withClient
              { x.client with errorValue := context }) := by
  rw [newVendor]
  split_ifs with h0
  · exact Iff.rfl
  · rw [ends_bind, ends_onSession, ends_vendorOfXid]
    cases env.ownerOfXid x.session context <;> exact Iff.rfl

end Parties

/-! ### Asking a vendor -/

section Ask

variable {C : Client → Client → Prop} {v : VendorId} {fault : Fault → Exchange σ δ → Prop}

/-- Asking a vendor. One without a handler cannot be asked. -/
lemma ends_ask (hC : env.HandsBack C) {A : Session σ δ → Prop} (hA : env.Upheld A)
    {q : MakeCurrentRequest δ} {post : Option δ → Exchange σ δ → Prop}
    (hcall : (env.makeCurrentHandler? v).isSome → A (x.session.enter
      (.called v (env.registry.isInitialized v) (.makeCurrent x.client q))))
    (hok : ∀ s c data, A s → C x.client c → post data (x.answered v q s c (.ok data)))
    (hrefused : ∀ s c e, A s → C x.client c →
      fault (.error e) (x.answered v q s c (.error e)))
    (habsent : env.makeCurrentHandler? v = none → fault (.error .badImplementation) x)
    (habort : ∀ s a, A s → fault (.abort a) (x.withSession s)) :
    Ends (ask env v q) x post fault := by
  rw [ask]
  cases hv : env.makeCurrentHandler? v with
  | none => exact habsent hv
  | some handler =>
      refine ends_onClient.mpr ((ends_calling (.makeCurrent x.client q)).mpr ?_)
      have hkeep := hA.interpret (handler x.client q) _ (hcall (by rw [hv, Option.isSome_some]))
      refine (hkeep.and (hC v handler hv x.client q _)).mono ?_ fun a s hs => habort s a hs.1
      rintro ⟨c, data | e⟩ s ⟨hs, hc⟩
      · exact hrefused s c _ hs hc
      · exact hok s c _ hs hc

/-- Releasing a tag. -/
lemma ends_release (hC : env.HandsBack C) {A : Session σ δ → Prop} (hA : env.Upheld A)
    {old : TagInfo δ} (hv : old.owner = some v) {post : Unit → Exchange σ δ → Prop}
    (hcall : (env.makeCurrentHandler? v).isSome → A (x.session.enter
      (.called v (env.registry.isInitialized v) (.makeCurrent x.client old.toRelease))))
    (hok : ∀ s c data, A s → C x.client c →
      post () ((x.answered v old.toRelease s c (.ok data)).modifyTags fun t => t.free old.tag))
    (hrefused : ∀ s c e, A s → C x.client c →
      fault (.error e) (x.answered v old.toRelease s c (.error e)))
    (habsent : env.makeCurrentHandler? v = none → fault (.error .badImplementation) x)
    (habort : ∀ s a, A s → fault (.abort a) (x.withSession s)) :
    Ends (release env old) x post fault := by
  rw [release, hv]
  refine ends_bind.mpr (ends_discard.mpr ?_)
  exact ends_ask hC hA hcall (fun s c data hs hc => ends_modifyTags.mpr (hok s c data hs hc))
    hrefused habsent habort

/-- Binding under a new tag. The invariant may speak about the tag. -/
lemma ends_bindTag (hC : env.HandsBack C) {A : ContextTag → Session σ δ → Prop}
    (hA : ∀ tag, env.Upheld (A tag)) {q : Switch} {post : ContextTag → Exchange σ δ → Prop}
    (hcall : ∀ tag o, x.session.ownership.allocateTag? x.client.id v = some (tag, o) →
      (env.makeCurrentHandler? v).isSome → A tag ((x.session.withOwnership o).enter
        (.called v (env.registry.isInitialized v) (.makeCurrent x.client (q.toBind tag)))))
    (hok : ∀ tag s c data, A tag s → C x.client c →
      post tag ((x.answered v (q.toBind tag) s c (.ok data)).modifyTags fun t =>
        t.modify tag (q.bound data)))
    (hrefused : ∀ tag s c e, A tag s → C x.client c →
      fault (.error e) ((x.answered v (q.toBind tag) s c (.error e)).modifyTags fun t =>
        t.free tag))
    (habsent : ∀ tag o, x.session.ownership.allocateTag? x.client.id v = some (tag, o) →
      env.makeCurrentHandler? v = none → fault (.error .badImplementation)
        ((x.withSession (x.session.withOwnership o)).modifyTags fun t => t.free tag))
    (hfull : x.session.ownership.allocateTag? x.client.id v = none → fault (.abort .panicked) x)
    (habort : ∀ tag s a, A tag s → fault (.abort a) (x.withSession s)) :
    Ends (bind env v q) x post fault := by
  rw [bind, ends_bind, claimTag, ends_bind, ends_client, ends_bind, ends_onSession, ends_ownership]
  cases ho : x.session.ownership.allocateTag? x.client.id v with
  | none =>
      exact hfull ho
  | some r =>
      obtain ⟨tag, o⟩ := r
      dsimp only
      rw [ends_bind, ends_onSession, ends_setOwnership, ends_pure, ends_bind, ends_attempt]
      exact ends_ask hC (hA tag) (hcall tag o ho) (hok tag) (hrefused tag) (habsent tag o ho)
        (habort tag)

/-- Letting go of the old tag and binding anew, with what holds in between. -/
lemma ends_switchTo {q : Switch} {old : Option (TagInfo δ)} {vendor : Option VendorId}
    {post : ContextTag → Exchange σ δ → Prop} {M : Exchange σ δ → Prop}
    (hkeep : old = none → M x)
    (hrelease : ∀ e, old = some e → Ends (release env e) x (fun _ => M) fault)
    (hpost : vendor = none → ∀ y, M y → post 0 y)
    (hbind : ∀ v, vendor = some v → ∀ y, M y → Ends (bind env v q) y post fault) :
    Ends (switchTo env q old vendor) x post fault := by
  have hnew : ∀ y, M y →
      Ends (match vendor with | some v => bind env v q | none => pure 0) y post fault := by
    intro y hy
    cases vendor with
    | none => exact hpost rfl y hy
    | some v => exact hbind v rfl y hy
  cases old with
  | none => exact hnew x (hkeep rfl)
  | some e => exact ends_bind.mpr ((hrelease e rfl).mono (fun _ => hnew) fun _ _ => id)

end Ask

/-! ### The whole switch -/

/-- The reply always has room for the tag. -/
lemma ends_replyTag {tag : ContextTag} {post : Unit → Exchange σ δ → Prop}
    {fault : Fault → Exchange σ δ → Prop}
    (h : ∀ r, (Reply.header x.client).put? 8 tag = some r →
      post () (x.withClient (x.client.writeReply r.bytes))) :
    Ends (ExchangeM.sendReply [(8, tag)]) x post fault := by
  have hroom : ((Reply.header x.client).put? 8 tag).isSome := by
    rw [Reply.isSome_put?, Reply.length_header]
    decide
  obtain ⟨r, hr⟩ := Option.isSome_iff_exists.mp hroom
  rw [ends_sendReply, Reply.putAll?, hr]
  exact h r hr

/-- A switch finds the entry of the old tag and the owner of the new context, or fails; then it
answers by the old tag if that stands for the same already, or asks the vendors. -/
lemma ends_switch {q : Switch} {old : Option (TagInfo δ)} {post : Unit → Exchange σ δ → Prop}
    {fault : Fault → Exchange σ δ → Prop}
    (hold : x.session.ownership.lookupTag x.client.id q.oldTag = old)
    (hbadTag : q.oldTag ≠ 0 → old = none → fault (.error (.extension .badContextTag))
      (x.withClient { x.client with errorValue := q.oldTag }))
    (hbadContext : q.context ≠ 0 → env.ownerOfXid x.session q.context = none →
      fault (.error (.extension .badContext)) ((x.withSession (q.sought x.session)).withClient
        { x.client with errorValue := q.context }))
    (hheld : ∀ e v, old = some e → q.newOwner env x.session = some v → q.isHeldBy e = true →
      Ends (ExchangeM.sendReply [(8, e.tag)]) (x.withSession (q.sought x.session)) post fault)
    (hswitch : (old = none → q.oldTag = 0) →
      (q.context ≠ 0 → ∃ v, env.ownerOfXid x.session q.context = some v) →
      (∀ e, old = some e → q.context ≠ 0 → q.isHeldBy e = false) →
      Ends (switchTo env q old (q.newOwner env x.session)) (x.withSession (q.sought x.session))
        (fun tag y => Ends (ExchangeM.sendReply [(8, tag)]) y post fault) fault) :
    Ends (switch env q) x post fault := by
  -- the second half: the new context, once the old tag was found
  have hnew : (old = none → q.oldTag = 0) → Ends (newVendor env q.context) x
      (fun vendor y => Ends (newTag env q old vendor) y
        (fun tag z => Ends (ExchangeM.sendReply [(8, tag)]) z post fault) fault) fault := by
    intro hnone
    rw [ends_newVendor]
    by_cases hc : q.context = 0
    · have hs := hswitch hnone (fun h => (h hc).elim) fun _ _ h => (h hc).elim
      rw [Switch.newOwner, if_pos hc, Switch.sought, if_pos hc] at hs
      rw [if_pos hc]
      cases old <;> exact hs
    · -- a context is to be current, so its owner is looked up
      have hb := hbadContext hc
      rw [if_neg hc]
      simp only [Switch.newOwner, Switch.sought, if_neg hc] at hb hheld hswitch
      cases hv : env.ownerOfXid x.session q.context with
      | none => exact hb hv
      | some v =>
          rw [hv] at hswitch
          have hs := hswitch hnone fun _ => ⟨v, rfl⟩
          cases old with
          | none => exact hs fun e he => by cases he
          | some e =>
              cases hq : q.isHeldBy e with
              | true =>
                  simp only [newTag, hq, if_true]
                  exact hheld e v rfl hv hq
              | false =>
                  simp only [newTag, hq]
                  refine hs fun d hd _ => ?_
                  cases hd
                  exact hq
  -- the first half: the old tag
  rw [switch, ends_bind, ends_oldEntry]
  simp only [ends_bind]
  by_cases h0 : q.oldTag = 0
  · rw [h0, Ownership.lookupTag_zero] at hold
    subst hold
    rw [if_pos h0]
    exact hnew fun _ => h0
  · rw [if_neg h0, hold]
    cases old with
    | none => exact hbadTag h0 rfl
    | some e => exact hnew fun h => by cases h

end MakeCurrent

/-! ### Invariants that a switch keeps -/

/-- An invariant of sessions that every export call keeps and every step of a switch. A tag is
claimed for a vendor that can be asked; for any other vendor it is free again at once. -/
structure Environment.Switchable (env : Environment σ δ) (I : Session σ δ → Prop) : Prop where
  upheld : env.Upheld I
  asked : ∀ s v initialized c q, I s → I (s.enter (.called v initialized (.makeCurrent c q)))
  answered : ∀ s v c q r, I s → I (s.enter (.returned v (.makeCurrent c q) r))
  claim : ∀ s client v tag o, (env.makeCurrentHandler? v).isSome →
    s.ownership.allocateTag? client v = some (tag, o) → I s → I (s.withOwnership o)
  unclaim : ∀ s client v tag o, s.ownership.allocateTag? client v = some (tag, o) → I s →
    I (s.withOwnership (o.modifyTags client fun t => t.free tag))
  free : ∀ s client tag, I s →
    I (s.withOwnership (s.ownership.modifyTags client fun t => t.free tag))
  bound : ∀ s client tag (q : MakeCurrent.Switch) data, I s →
    I (s.withOwnership (s.ownership.modifyTags client fun t => t.modify tag (q.bound data)))

/-- An invariant of sessions that every effect of the exports keeps and every step of a switch. -/
structure Environment.Stable (env : Environment σ δ) (I : Session σ δ → Prop) : Prop where
  kept : env.Kept I
  asked : ∀ s v initialized c q, I s → I (s.enter (.called v initialized (.makeCurrent c q)))
  answered : ∀ s v c q r, I s → I (s.enter (.returned v (.makeCurrent c q) r))
  claim : ∀ s client v tag o, (env.makeCurrentHandler? v).isSome →
    s.ownership.allocateTag? client v = some (tag, o) → I s → I (s.withOwnership o)
  unclaim : ∀ s client v tag o, s.ownership.allocateTag? client v = some (tag, o) → I s →
    I (s.withOwnership (o.modifyTags client fun t => t.free tag))
  free : ∀ s client tag, I s →
    I (s.withOwnership (s.ownership.modifyTags client fun t => t.free tag))
  bound : ∀ s client tag (q : MakeCurrent.Switch) data, I s →
    I (s.withOwnership (s.ownership.modifyTags client fun t => t.modify tag (q.bound data)))

/-- An invariant of the journal alone, which no further event can upset. -/
lemma Environment.stable_journal (env : Environment σ δ) {P : List (Event δ) → Prop}
    (hP : ∀ e journal, P journal → P (e :: journal)) : env.Stable fun s => P s.journal where
  kept := env.kept_journal fun e journal _ h => hP e journal h
  asked _ _ _ _ _ h := hP _ _ h
  answered _ _ _ _ _ h := hP _ _ h
  claim _ _ _ _ _ _ _ h := h
  unclaim _ _ _ _ _ _ h := h
  free _ _ _ h := h
  bound _ _ _ _ _ h := h

/-- What has happened stays in the journal. -/
lemma Environment.stable_suffix (env : Environment σ δ) (older : List (Event δ)) :
    env.Stable fun s => older <:+ s.journal :=
  env.stable_journal fun e _ h => h.trans (List.suffix_cons e _)

namespace MakeCurrent

variable {I : Session σ δ → Prop}

/-- Releasing a tag keeps what no vendor can upset, if asking the owner and freeing the tag does. -/
lemma keeps_release (hI : env.Upheld I)
    (hasked : ∀ s v initialized c q, I s → I (s.enter (.called v initialized (.makeCurrent c q))))
    (hanswered : ∀ s v c q r, I s → I (s.enter (.returned v (.makeCurrent c q) r)))
    (hfree : ∀ s client tag, I s →
      I (s.withOwnership (s.ownership.modifyTags client fun t => t.free tag)))
    (old : TagInfo δ) : Keeps (OnSession I) (release env old) := by
  intro x hx
  cases hv : old.owner with
  | none =>
      rw [release, hv]
      exact hx
  | some v =>
      refine ends_release Environment.handsBack_any hI hv (fun _ => hasked _ _ _ _ _ hx) ?_ ?_
        (fun _ => hx) fun _ _ hs => hs
      · exact fun s c data hs _ => hfree _ _ _ (hanswered _ _ _ _ _ hs)
      · exact fun s c e hs _ => hanswered _ _ _ _ _ hs

/-- Letting go of the old tag and binding anew keeps what releasing and binding keep. -/
lemma keeps_switchTo (hrelease : ∀ old, Keeps (OnSession I) (release env old))
    (hbind : ∀ v q, Keeps (OnSession I) (bind env v q)) (q : Switch) (old : Option (TagInfo δ))
    (vendor : Option VendorId) : Keeps (OnSession I) (switchTo env q old vendor) := fun _ hx =>
  ends_switchTo (fun _ => hx) (fun e _ => hrelease e _ hx) (fun _ _ => id) fun v _ => hbind v q

/-- Serving a request to make a context current keeps what releasing and binding keep, if no vendor
can upset it. -/
lemma keeps_serve (hI : env.Upheld I) (hrelease : ∀ old, Keeps (OnSession I) (release env old))
    (hbind : ∀ v q, Keeps (OnSession I) (bind env v q)) (encoding : Encoding) :
    Keeps (OnSession I) (MakeCurrent.serve env encoding) := by
  intro x hx
  rw [MakeCurrent.serve, ends_bind, ends_read]
  cases hq : decode x.client encoding with
  | error e => exact hx
  | ok q =>
      have hs : OnSession I (x.withSession (q.sought x.session)) := q.upheld_sought hI hx
      refine ends_switch rfl (fun _ _ => hx) (fun _ _ => hs)
        (fun e v _ _ _ => keeps_sendReply _ _ hs) fun _ _ _ => ?_
      exact (keeps_switchTo hrelease hbind q _ _ _ hs).mono
        (fun tag y hy => keeps_sendReply _ _ hy) fun _ _ => id

end MakeCurrent

namespace Environment.Switchable

open MakeCurrent

variable {I : Session σ δ → Prop} (h : env.Switchable I)

include h

lemma release (old : TagInfo δ) : Keeps (OnSession I) (release env old) :=
  keeps_release h.upheld h.asked h.answered h.free old

lemma bindTag (v : VendorId) (q : Switch) : Keeps (OnSession I) (bind env v q) := by
  intro x hx
  refine ends_bindTag handsBack_any (fun _ => h.upheld) ?_ ?_ ?_ ?_ (fun _ => hx)
    fun _ _ _ hs => hs
  · exact fun tag o ho hv => h.asked _ _ _ _ _ (h.claim _ _ _ _ _ hv ho hx)
  · exact fun tag s c data hs _ => h.bound _ _ _ _ _ (h.answered _ _ _ _ _ hs)
  · exact fun tag s c e hs _ => h.free _ _ _ (h.answered _ _ _ _ _ hs)
  · exact fun tag o ho _ => h.unclaim x.session x.client.id v tag o ho hx

/-- Serving a request to make a context current keeps the invariant. -/
lemma serve (encoding : Encoding) : Keeps (OnSession I) (MakeCurrent.serve env encoding) :=
  keeps_serve h.upheld h.release h.bindTag encoding

end Environment.Switchable

lemma Environment.Stable.switchable {I : Session σ δ → Prop} (h : env.Stable I) :
    env.Switchable I where
  upheld := h.kept.upheld
  asked := h.asked
  answered := h.answered
  claim := h.claim
  unclaim := h.unclaim
  free := h.free
  bound := h.bound

end VendorDispatch
