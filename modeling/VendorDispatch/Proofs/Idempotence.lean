import VendorDispatch.Proofs.Atomicity
import VendorDispatch.Proofs.Caching
import VendorDispatch.Proofs.SwitchEffect
import VendorDispatch.Proofs.TagProtocol

/-!
Asking for what is current already.

* `Event.Frees`, `Event.Overwrites`: a tag is freed, or a vendor that confuses clients binds
  something else under it.
* `Session.Guards`: a tag stands for what a request asks for as long as it is not lost; this
  survives vendors, and every switch of every client (`keeps_guards`).
* `Server.Leads.isHeld`: whatever is done meanwhile, a tag that is not lost stands for what it stood
  for.
* `makeCurrent_idempotent`: asking again for what a tag stands for is answered by the tag and does
  nothing, as often as one likes; asking for anything else goes to the owner of the tag.
* `live_tag_does_not_answer`: that the tag is live is not enough, since a vendor that confuses clients
  overwrites a tag that stays live.
-/

namespace VendorDispatch

variable {σ δ : Type}

open MakeCurrent

/-! ### Tags that are lost -/

/-- A client's tag is freed: a vendor has agreed to release it, or refused to bind under it. -/
def Event.Frees (client : ClientId) (tag : ContextTag) : Event δ → Prop
  | .returned _ (.makeCurrent _ q) (d, answer) =>
    d.id = client ∧ (q.oldTag = tag ∧ answer.toBool = true ∨ q.newTag = tag ∧ answer.toBool = false)
  | _ => False

instance (client : ClientId) (tag : ContextTag) :
    (e : Event δ) → Decidable (e.Frees client tag)
  | .returned _ (.makeCurrent _ q) (d, answer) =>
    inferInstanceAs (Decidable (d.id = client ∧
      (q.oldTag = tag ∧ answer.toBool = true ∨ q.newTag = tag ∧ answer.toBool = false)))
  | .returned _ (.init _) _ | .returned _ (.closeDown _) _ | .returned _ (.request _) _
  | .returned _ (.query ..) _ | .returned _ (.procedure ..) _
  | .called .. | .exported .. | .drawableAsked .. | .resourceAsked .. | .noted _ => isFalse id

/-- A vendor was asked to bind another client's tag of this number, accepts, and hands this client
back. What it binds is entered on the tag of this client, which stays live. -/
def Event.Overwrites (client : ClientId) (tag : ContextTag) : Event δ → Prop
  | .returned _ (.makeCurrent c q) (d, answer) =>
    d.id = client ∧ c.id ≠ client ∧ q.newTag = tag ∧ answer.toBool = true
  | _ => False

instance (client : ClientId) (tag : ContextTag) :
    (e : Event δ) → Decidable (e.Overwrites client tag)
  | .returned _ (.makeCurrent c q) (d, answer) =>
    inferInstanceAs (Decidable
      (d.id = client ∧ c.id ≠ client ∧ q.newTag = tag ∧ answer.toBool = true))
  | .returned _ (.init _) _ | .returned _ (.closeDown _) _ | .returned _ (.request _) _
  | .returned _ (.query ..) _ | .returned _ (.procedure ..) _
  | .called .. | .exported .. | .drawableAsked .. | .resourceAsked .. | .noted _ => isFalse id

/-- A client's tag no longer stands for what it stood for. -/
def Event.LosesTag (client : ClientId) (tag : ContextTag) (e : Event δ) : Prop :=
  e.Frees client tag ∨ e.Overwrites client tag

/-- A deed in the course of which a client's tag is freed. -/
def Deed.Frees (client : ClientId) (tag : ContextTag) (d : Deed σ δ) : Prop :=
  d.Drops client ∨ ∃ e ∈ d.step.journal, e.Frees client tag

instance (client : ClientId) (tag : ContextTag) (d : Deed σ δ) :
    Decidable (d.Frees client tag) :=
  inferInstanceAs (Decidable (d.Drops client ∨ ∃ e ∈ d.step.journal, e.Frees client tag))

/-- A deed in the course of which a vendor confuses another client with this one. -/
def Deed.Overwrites (client : ClientId) (tag : ContextTag) (d : Deed σ δ) : Prop :=
  ∃ e ∈ d.step.journal, e.Overwrites client tag

instance (client : ClientId) (tag : ContextTag) (d : Deed σ δ) :
    Decidable (d.Overwrites client tag) :=
  inferInstanceAs (Decidable (∃ e ∈ d.step.journal, e.Overwrites client tag))

/-- A deed after which a client's tag may stand for something else. -/
def Deed.LosesTag (client : ClientId) (tag : ContextTag) (d : Deed σ δ) : Prop :=
  d.Frees client tag ∨ d.Overwrites client tag

/-- A client has lost a tag in the session. -/
def Session.HasLost (client : ClientId) (tag : ContextTag) (s : Session σ δ) : Prop :=
  ∃ e ∈ s.journal, e.LosesTag client tag

lemma Session.HasLost.enter {client : ClientId} {tag : ContextTag} {s : Session σ δ}
    (h : s.HasLost client tag) (e : Event δ) : (s.enter e).HasLost client tag := by
  obtain ⟨d, hd, hlost⟩ := h
  exact ⟨d, List.mem_cons_of_mem e hd, hlost⟩

lemma kept_hasLost (env : Environment σ δ) (client : ClientId) (tag : ContextTag) :
    env.Kept (Session.HasLost client tag) :=
  (env.stable_journal (P := fun journal => ∃ e ∈ journal, e.LosesTag client tag)
    fun e _ ⟨d, hd, hlost⟩ => ⟨d, List.mem_cons_of_mem e hd, hlost⟩).kept

/-! ### Tags that are guarded -/

/-- The tables are in order, and the old tag of a request stands for what the request asks for,
unless the client has lost it. -/
structure Session.Guards (client : ClientId) (p : Switch) (s : Session σ δ) : Prop where
  numbered : s.ownership.Numbered
  held : s.HasLost client p.oldTag ∨ p.IsHeld s.ownership client

section Guards

variable {env : Environment σ δ} {client : ClientId} {p : Switch} {s : Session σ δ}

lemma MakeCurrent.Switch.IsHeld.congr {o u : Ownership δ} (h : p.IsHeld o client)
    (hu : u.lookupTag client p.oldTag = o.lookupTag client p.oldTag) : p.IsHeld u client := by
  obtain ⟨e, he, hheld⟩ := h
  exact ⟨e, hu.trans he, hheld⟩

/-- Vendors store data on tags, and that is all they do to them. -/
lemma kept_guards (env : Environment σ δ) (client : ClientId) (p : Switch) :
    env.Kept (Session.Guards client p) := by
  have hheld := kept_lookups env
    (P := fun f => ∃ e, f client p.oldTag = some e ∧ p.isHeldBy e = true) ?_
  · refine ((kept_numbered env).and ((kept_hasLost env client p.oldTag).or hheld)).congr fun s => ?_
    exact ⟨fun h => ⟨h.1, h.2⟩, fun h => ⟨h.numbered, h.held⟩⟩
  · rintro f d b data ⟨e, he, hheld⟩
    dsimp only
    rw [he]
    split_ifs
    · exact ⟨{ e with data }, rfl, hheld⟩
    · exact ⟨e, rfl, hheld⟩

lemma Session.Guards.enter (h : s.Guards client p) (e : Event δ) : (s.enter e).Guards client p :=
  ⟨h.numbered, h.held.imp_left fun hlost => hlost.enter e⟩

/-- Other owners, but not of the tag. -/
lemma Session.Guards.withOwnership (h : s.Guards client p) {o : Ownership δ} (hn : o.Numbered)
    (ho : o.lookupTag client p.oldTag = s.ownership.lookupTag client p.oldTag) :
    (s.withOwnership o).Guards client p :=
  ⟨hn, h.held.imp_right fun hheld => hheld.congr ho⟩

/-- A vendor answers, and the answer changes a tag of the client that it hands back. If that is the
guarded tag, the client has lost it. -/
lemma Session.Guards.answered (h : s.Guards client p) {v : VendorId} {c d : Client}
    {q : MakeCurrentRequest δ} {r : Except ProtocolError (Option δ)} (tag : ContextTag)
    {o : Ownership δ} (hn : o.Numbered)
    (ho : ¬ (client = d.id ∧ p.oldTag = tag) →
      o.lookupTag client p.oldTag = s.ownership.lookupTag client p.oldTag)
    (hlost : d.id = client → tag = p.oldTag →
      s.HasLost client p.oldTag ∨
        Event.LosesTag client p.oldTag (.returned v (.makeCurrent c q) (d, r))) :
    ((s.enter (.returned v (.makeCurrent c q) (d, r))).withOwnership o).Guards client p := by
  by_cases hct : client = d.id ∧ p.oldTag = tag
  · refine ⟨hn, .inl ?_⟩
    rcases hlost hct.1.symm hct.2.symm with hlost | hloses
    · exact hlost.enter _
    · exact ⟨_, List.mem_cons_self, hloses⟩
  · exact (h.enter _).withOwnership hn (ho hct)

lemma keeps_guards_release (old : TagInfo δ) :
    Keeps (OnSession (Session.Guards client p)) (release env old) := by
  intro x hx
  cases hv : old.owner with
  | none =>
      rw [release, hv]
      exact hx
  | some v =>
      refine ends_release Environment.handsBack_any (kept_guards env client p).upheld hv
        (fun _ => hx.enter _) (fun s c data hs _ => ?_) (fun s c e hs _ => hs.enter _)
        (fun _ => hx) fun _ _ hs => hs
      refine hs.answered old.tag (hs.numbered.modifyTags fun _ ht => ht.free _) ?_
        fun hd htag => .inr (.inl ⟨hd, .inl ⟨htag, rfl⟩⟩)
      exact fun hct => (Ownership.lookupTag_free _ _ _ _ _).trans (if_neg hct)

/-- A vendor is asked to bind a new tag, which is not the guarded one. -/
lemma keeps_guards_bind (v : VendorId) (q : Switch) :
    Keeps (OnSession (Session.Guards client p)) (bind env v q) := by
  intro x hx
  -- Another client may well be given a tag of the same number.
  let A (tag : ContextTag) (s : Session σ δ) : Prop := s.Guards client p ∧
    (s.HasLost client p.oldTag ∨ ¬ (client = x.client.id ∧ p.oldTag = tag))
  have hA (tag : ContextTag) : env.Upheld (A tag) :=
    ((kept_guards env client p).and ((kept_hasLost env client p.oldTag).or
      (env.kept_const _))).upheld
  have hclaimed : ∀ tag o, x.session.ownership.allocateTag? x.client.id v = some (tag, o) →
      A tag (x.session.withOwnership o) := by
    intro tag o ho
    have hn := hx.numbered.allocateTag? ho
    rcases hx.held with hlost | hheld
    · exact ⟨⟨hn, .inl hlost⟩, .inl hlost⟩
    · have hnew : ¬ (client = x.client.id ∧ p.oldTag = tag) := by
        rintro ⟨rfl, rfl⟩
        obtain ⟨e, he, -⟩ := hheld
        rw [(hx.numbered.fresh_of_allocateTag? ho).2] at he
        cases he
      refine ⟨hx.withOwnership hn ?_, .inr hnew⟩
      rw [hx.numbered.lookupTag_allocateTag? ho, if_neg hnew]
  have hother {tag : ContextTag} {s : Session σ δ} (h : A tag s) (htag : tag = p.oldTag) :
      s.HasLost client p.oldTag ∨ x.client.id ≠ client :=
    h.2.imp_right fun hnew hc => hnew ⟨hc.symm, htag.symm⟩
  refine ends_bindTag Environment.handsBack_any hA ?_ ?_ ?_ ?_ (fun _ => hx)
    fun _ _ _ hs => hs.1
  · intro tag o ho _
    exact ⟨(hclaimed tag o ho).1.enter _, (hclaimed tag o ho).2.imp_left fun h => h.enter _⟩
  · intro tag s c data hs _
    refine hs.1.answered tag
      (hs.1.numbered.modifyTags fun _ ht => ht.modify tag (f := q.bound data) fun _ => rfl) ?_
      fun hd htag => (hother hs htag).imp_right fun hc => .inr ⟨hd, hc, htag, rfl⟩
    exact fun hct => (Ownership.lookupTag_modify _ _ _ _ _ (f := q.bound data) fun _ => rfl).trans
      (if_neg hct)
  · intro tag s c e hs _
    refine hs.1.answered tag (hs.1.numbered.modifyTags fun _ ht => ht.free _) ?_
      fun hd htag => .inr (.inl ⟨hd, .inr ⟨htag, rfl⟩⟩)
    exact fun hct => (Ownership.lookupTag_free _ _ _ _ _).trans (if_neg hct)
  · intro tag o ho _
    have hs := hclaimed tag o ho
    have hn : (o.modifyTags x.client.id fun t => t.free tag).Numbered :=
      hs.1.numbered.modifyTags fun _ ht => ht.free _
    rcases hs.2 with hlost | hnew
    · exact ⟨hn, .inl hlost⟩
    · exact hs.1.withOwnership hn
        ((Ownership.lookupTag_free _ _ _ _ _).trans (if_neg hnew))

/-- What a client asks to make current disturbs no guarded tag, unless the tag is lost. -/
lemma keeps_guards (encoding : Encoding) :
    Keeps (OnSession (Session.Guards client p)) (MakeCurrent.serve env encoding) :=
  keeps_serve (kept_guards env client p).upheld keeps_guards_release keeps_guards_bind encoding

end Guards

/-! ### Operations -/

section Operations

variable {s t : Server σ δ} {client : ClientId} {p : Switch}

/-- A client loses no tag in the session that a deed leaves, if it loses none by the deed. -/
lemma not_hasLost_of_not_losesTag {op : Operation σ δ} {tag : ContextTag}
    (h : ¬ Deed.LosesTag client tag ⟨op, s.apply op⟩) :
    ¬ (s.apply op).session.HasLost client tag := by
  rintro ⟨e, he, hfrees | hoverwrites⟩
  · exact h (.inl (.inr ⟨e, List.mem_reverse.mp he, hfrees⟩))
  · exact h (.inr ⟨e, List.mem_reverse.mp he, hoverwrites⟩)

/-- Between generations no tag is live. -/
lemma Server.Sound.extension_ne_none (hs : s.Sound) {tag : ContextTag} {e : TagInfo δ}
    (he : s.ownership.lookupTag client tag = some e) : s.extension ≠ none := by
  intro hnone
  rw [hs.idle hnone] at he
  cases he

/-- Whatever is done, a tag that is not lost stands for what it stood for. -/
lemma Server.Sound.isHeld_apply (hs : s.Sound) (h : p.IsHeld s.ownership client)
    {op : Operation σ δ} (hop : ¬ Deed.LosesTag client p.oldTag ⟨op, s.apply op⟩) :
    p.IsHeld (s.apply op).server.ownership client := by
  have hstart : s.session.Guards client p := ⟨hs.ownership.tags, .inr h⟩
  have hend : (s.apply op).session.Guards client p →
      p.IsHeld (s.apply op).server.ownership client :=
    fun hg => hg.held.resolve_left (not_hasLost_of_not_losesTag hop)
  -- a tag lives only within a generation
  have hext : s.extension ≠ none := by
    obtain ⟨e, he, -⟩ := h
    exact hs.extension_ne_none he
  cases op with
  | createVendor i =>
      rw [Server.ownership_createVendor]
      exact h
  | destroyVendor v =>
      rw [Server.ownership_destroyVendor]
      exact h
  | beginGeneration entry =>
      -- a second generation does not start within the first
      obtain ⟨e, he⟩ := Option.ne_none_iff_exists'.mp hext
      rw [Server.apply, Server.beginGeneration_of_some he]
      exact h
  | endGeneration =>
      obtain ⟨e, he⟩ := Option.ne_none_iff_exists'.mp hext
      exact (hop (.inl (.inl (endGeneration_drops he)))).elim
  | serve c =>
      exact hend (hs.serve_keeps_of_switch (kept_guards s.environment client p) hstart
        fun encoding _ _ => keeps_guards encoding)
  | clientGone gone =>
      refine h.congr ((Ownership.lookupTag_clientGone s.ownership gone client p.oldTag).trans ?_)
      exact if_neg fun hc => hop (.inl (.inl hc.symm))
  | resourceFreed id => exact h
  | perform program =>
      exact hend (Server.perform_keeps (kept_guards s.environment client p) hstart program)
  | changeWorld change => exact h

/-- However many operations, a tag that is not lost on the way stands for what it stood for. -/
lemma Server.Leads.isHeld {ops : List (Operation σ δ)} (hl : s.Leads ops t) (hs : s.Sound)
    (h : p.IsHeld s.ownership client)
    (hops : ∀ d ∈ s.run ops, ¬ d.LosesTag client p.oldTag) :
    p.IsHeld t.ownership client := by
  induction ops generalizing s with
  | nil =>
      rw [hl.nil_inv]
      exact h
  | cons op rest ih =>
      obtain ⟨⟨a, ha⟩, hrest⟩ := hl.cons_inv
      rw [Server.run_cons_of_ok ha, List.forall_mem_cons] at hops
      exact ih hrest (hs.apply op) (hs.isHeld_apply h hops.1) hops.2

end Operations

/-! ### Requests -/

section Requests

variable {env : Environment σ δ} {x : Exchange σ δ} {s : Server σ δ} {c : Client} {q : Switch}

/-- A tag that was bound stands for what was asked for. -/
lemma bind_isHeldBy (v : VendorId) :
    Ends (bind env v q) x
      (fun tag y => ∀ e, y.session.ownership.lookupTag y.client.id tag = some e →
        q.isHeldBy e = true)
      fun _ _ => True := by
  refine ends_bindTag Environment.handsBack_any (fun _ => (env.kept_const True).upheld)
    (fun _ _ _ _ => trivial) ?_ (fun _ _ _ _ _ _ => trivial) (fun _ _ _ _ => trivial)
    (fun _ => trivial) fun _ _ _ _ => trivial
  intro tag s d data _ _ e he
  have hbound := Ownership.lookupTag_modify s.ownership d.id d.id tag tag (f := q.bound data)
    fun _ => rfl
  rw [if_pos ⟨rfl, rfl⟩] at hbound
  obtain ⟨old, -, rfl⟩ := Option.map_eq_some_iff.mp (hbound.symm.trans he)
  exact q.isHeldBy_bound data old

/-- A tag in a reply stands for what was asked for, if it is live. -/
lemma makeCurrent_isHeldBy (hn : x.session.ownership.Numbered) {encoding : Encoding}
    (hq : decode x.client encoding = .ok q) :
    Ends (MakeCurrent.serve env encoding) x
      (fun _ y => ∃ tag, y.client.replyTag? = some tag ∧ (tag ≠ 0 → q.context ≠ 0 ∧
        ∀ e, y.session.ownership.lookupTag y.client.id tag = some e → q.isHeldBy e = true))
      fun _ _ => True := by
  rw [MakeCurrent.serve, ends_bind, ends_read, hq]
  refine ends_switch rfl (fun _ _ => trivial) (fun _ _ => trivial) ?_ ?_
  · -- the old tag answers
    intro e v he hv hheld
    refine ends_replyTag fun r hput => ⟨e.tag, Client.replyTag?_writeReply hput, fun _ =>
      ⟨Switch.context_ne_zero hv, fun e' he' => ?_⟩⟩
    rw [Exchange.session_withClient, Exchange.session_withSession, q.ownership_sought,
      hn.tag_of_lookupTag he] at he'
    obtain rfl := Option.some_inj.mp (he'.symm.trans he)
    exact hheld
  · -- a vendor is asked
    intro _ _ _
    -- the tag of the reply is zero, or the one that the binding filled in
    have hswitch : Ends (switchTo env q (x.session.ownership.lookupTag x.client.id q.oldTag)
        (q.newOwner env x.session)) (x.withSession (q.sought x.session))
        (fun tag y => tag ≠ 0 → q.context ≠ 0 ∧ ∀ e,
          y.session.ownership.lookupTag y.client.id tag = some e → q.isHeldBy e = true)
        fun _ _ => True := by
      refine ends_switchTo (M := fun _ => True) (fun _ => trivial) ?_ ?_ ?_
      · intro e _
        rw [Ends]
        split <;> trivial
      · exact fun _ _ _ h => (h rfl).elim
      · exact fun v hv y _ => (bind_isHeldBy v).mono
          (fun _ _ hz _ => ⟨Switch.context_ne_zero hv, hz⟩) fun _ _ => id
    exact hswitch.mono (fun tag y hy => ends_replyTag fun r hput =>
      ⟨tag, Client.replyTag?_writeReply hput, hy⟩) fun _ _ => id

/-- The same, for a request that succeeded. -/
lemma Server.Sound.isHeld_serve (hs : s.Sound) (hq : c.switch? = some q) {d : Client}
    (hok : (s.serve c).result = .ok (d, .ok ())) {tag : ContextTag}
    (htag : d.replyTag? = some tag) (h0 : tag ≠ 0)
    (hlive : ((s.serve c).server.ownership.lookupTag d.id tag).isSome) :
    q.context ≠ 0 ∧
      Switch.IsHeld { q with oldTag := tag } (s.serve c).server.ownership d.id := by
  have hext : s.extension ≠ none := by
    intro he
    rw [Server.serve, he] at hok
    cases hok
  obtain ⟨encoding, henc, hdecode⟩ := Client.exists_of_switch? hq
  have hserve : Ends (MakeCurrent.serve s.environment encoding) ⟨c, s.session⟩ _ _ :=
    makeCurrent_isHeldBy hs.ownership.tags hdecode
  have hleaves : (s.serve c).Leaves
      (fun r t => r.2 = .ok () → ∃ tag, r.1.replyTag? = some tag ∧ (tag ≠ 0 → q.context ≠ 0 ∧
        ∀ e, t.ownership.lookupTag r.1.id tag = some e → q.isHeldBy e = true))
      fun _ _ => True := by
    refine hs.serve_leaves_of_makeCurrentEncoding? hext henc (hserve.mono (fun _ _ h _ => h) ?_)
    rintro (e | a) y -
    · rintro ⟨⟩
    · trivial
  rw [Step.Leaves, hok] at hleaves
  -- the reply is the one that was sent
  obtain ⟨tag', htag', hstands⟩ := hleaves rfl
  obtain rfl : tag = tag' := Option.some_inj.mp (htag.symm.trans htag')
  obtain ⟨hcontext, hheld⟩ := hstands h0
  obtain ⟨e, he⟩ := Option.isSome_iff_exists.mp hlive
  exact ⟨hcontext, e, he, hheld e he⟩

/-- The owner of the new context was found. -/
lemma MakeCurrent.Switch.ownerOfXid_ne_none {s : Session σ δ} {v : VendorId}
    (h : q.newOwner env s = some v) : env.ownerOfXid s q.context ≠ none := by
  rw [newOwner_of_ne_zero (context_ne_zero h)] at h
  rw [h]
  exact Option.some_ne_none v

/-- Looking for the owner of the new context enters questions into the journal, and nothing else
changes. -/
lemma Exchange.exists_asked (x : Exchange σ δ) (q : Switch) :
    ∃ asked : List (Event δ), (∀ e ∈ asked, e.IsQuestion) ∧
      q.sought x.session = ⟨x.session.world, x.session.ownership, asked ++ x.session.journal⟩ := by
  obtain ⟨-, hworld, hown, asked, hasked, hjournal⟩ := x.agrees_sought q
  exact ⟨asked, hasked, congr (congrArg₂ Session.mk hworld hown) hjournal⟩

/-- A request that asks for what the old tag stands for is answered by the old tag. No vendor is
asked. -/
lemma makeCurrent_of_isHeld (hn : x.session.ownership.Numbered) {encoding : Encoding}
    (hq : decode x.client encoding = .ok q) (hheld : q.IsHeld x.session.ownership x.client.id)
    {v : VendorId} (hv : q.newOwner env x.session = some v) :
    ∃ d, x.client.RepliedWith q.oldTag d ∧ MakeCurrent.serve env encoding x =
      .ok () ((x.withSession (q.sought x.session)).withClient d) := by
  obtain ⟨e, he, hheld⟩ := hheld
  have hends : Ends (MakeCurrent.serve env encoding) x
      (fun _ y => ∃ d, x.client.RepliedWith q.oldTag d ∧
        y = (x.withSession (q.sought x.session)).withClient d)
      fun _ _ => False := by
    rw [MakeCurrent.serve, ends_bind, ends_read, hq]
    refine ends_switch he (by rintro - ⟨⟩) (fun _ => Switch.ownerOfXid_ne_none hv) ?_
      fun _ _ hnot => ?_
    · rintro e' - ⟨⟩ - -
      refine ends_replyTag fun r hput => ⟨_, ?_, rfl⟩
      rw [hn.tag_of_lookupTag he] at hput
      exact Client.repliedWith_of_put? hput
    · rw [hnot e rfl (Switch.context_ne_zero hv)] at hheld
      cases hheld
  obtain ⟨_, _, hserve, d, hd, rfl⟩ := hends.exists_ok
  exact ⟨d, hd, hserve⟩

/-- The request is answered by the tag: nobody is asked but the window system, and nothing changes
but that the reply is written to the client. -/
def Server.AnswersBy (s : Server σ δ) (c : Client) (tag : ContextTag) : Prop :=
  ∃ d asked, c.RepliedWith tag d ∧ (∀ e ∈ asked, e.IsQuestion) ∧
    s.serve c = ⟨.ok (d, .ok ()), asked, s⟩

/-- Whoever asks for what the old tag stands for is answered by the old tag. -/
lemma Server.Sound.answersBy_of_isHeld (hs : s.Sound) (hq : c.switch? = some q)
    (hheld : q.IsHeld s.ownership c.id) {v : VendorId}
    (hv : q.newOwner s.environment s.session = some v) : s.AnswersBy c q.oldTag := by
  obtain ⟨encoding, henc, hdecode⟩ := Client.exists_of_switch? hq
  have hext : s.extension ≠ none := by
    obtain ⟨e, he, -⟩ := hheld
    exact hs.extension_ne_none he
  obtain ⟨d, hd, hserve⟩ := makeCurrent_of_isHeld (x := ⟨c, s.session⟩) hs.ownership.tags hdecode
    hheld hv
  obtain ⟨asked, hasked, hsought⟩ := (⟨c, s.session⟩ : Exchange σ δ).exists_asked q
  refine ⟨d, asked.reverse, hd, fun a ha => hasked a (List.mem_reverse.mp ha), ?_⟩
  rw [serve_of_resolve hext (hs.dispatcher.resolve_of_makeCurrentEncoding? henc s.session)]
  have hfound : serveFound s.environment (.ok (.makeCurrent encoding)) ⟨c, s.session⟩ =
      .ok () ⟨d, q.sought s.session⟩ := hserve
  rw [hfound, hsought]
  change Step.mk _ (asked ++ []).reverse s = _
  rw [List.append_nil]

/-- Requests that are answered by a tag may be repeated. -/
lemma Server.run_of_answersBy {tag : ContextTag} {bs : List Client}
    (h : ∀ b ∈ bs, s.AnswersBy b tag) :
    s.run (bs.map .serve) = bs.map fun b => ⟨.serve b, s.serve b⟩ := by
  induction bs with
  | nil => rfl
  | cons b rest ih =>
      obtain ⟨hb, hrest⟩ := List.forall_mem_cons.mp h
      obtain ⟨d, asked, -, -, hserve⟩ := hb
      have hok : (s.apply (.serve b)).result = .ok (d, .ok ()) := congrArg Step.result hserve
      have hsame : (s.apply (.serve b)).server = s := congrArg Step.server hserve
      rw [List.map_cons, Server.run_cons_of_ok hok, hsame, ih hrest]
      rfl

/-- Of all vendors the owner of the old tag was called first, to release it. The owner of the new
context had been looked for by then. -/
def Environment.CallsOwner (env : Environment σ δ) (x : Exchange σ δ) (q : Switch) (e : TagInfo δ)
    (v : VendorId) (s : Session σ δ) : Prop :=
  .called v (env.registry.isInitialized v) (.makeCurrent x.client e.toRelease) ::
    (q.sought x.session).journal <:+ s.journal

/-- A request that asks for something else than the old tag stands for goes to the owner of the tag
first. -/
lemma makeCurrent_calls_owner {encoding : Encoding} (hq : decode x.client encoding = .ok q)
    {e : TagInfo δ} (he : x.session.ownership.lookupTag x.client.id q.oldTag = some e)
    (hnot : q.isHeldBy e = false) {w : VendorId} (hw : q.newOwner env x.session = some w)
    {v : VendorId} (hv : e.owner = some v) (hasked : (env.makeCurrentHandler? v).isSome) :
    Ends (MakeCurrent.serve env encoding) x (fun _ => OnSession (env.CallsOwner x q e v))
      fun _ => OnSession (env.CallsOwner x q e v) := by
  -- Once the owner is called, the call stays where it is.
  have hstable : env.Stable (env.CallsOwner x q e v) := env.stable_suffix _
  have hrelease : Ends (release env e) (x.withSession (q.sought x.session))
      (fun _ => OnSession (env.CallsOwner x q e v))
      fun _ => OnSession (env.CallsOwner x q e v) := by
    refine ends_release Environment.handsBack_any hstable.kept.upheld hv (fun _ => List.suffix_rfl)
      (fun t d data ht _ => hstable.free _ _ _ (hstable.answered _ _ _ _ _ ht))
      (fun t d reason ht _ => hstable.answered _ _ _ _ _ ht) (fun hnone => ?_) fun _ _ ht => ht
    rw [hnone] at hasked
    cases hasked
  have hswitch : Ends (switchTo env q (some e) (q.newOwner env x.session))
      (x.withSession (q.sought x.session)) (fun _ => OnSession (env.CallsOwner x q e v))
      fun _ => OnSession (env.CallsOwner x q e v) := by
    refine ends_switchTo (by rintro ⟨⟩) ?_ (fun _ _ => id) fun w _ => hstable.switchable.bindTag w q
    rintro e' ⟨⟩
    exact hrelease
  rw [MakeCurrent.serve, ends_bind, ends_read, hq]
  refine ends_switch he (by rintro - ⟨⟩) (fun _ hnone => (Switch.ownerOfXid_ne_none hw hnone).elim)
    ?_ fun _ _ _ => hswitch.mono (fun tag y hy => keeps_sendReply _ _ hy) fun _ _ => id
  rintro e' - ⟨⟩ - hheld
  rw [hnot] at hheld
  cases hheld

/-- Whoever asks for something else than the old tag stands for goes to the owner of the tag
first. -/
lemma Server.Sound.calls_owner (hs : s.Sound) (hq : c.switch? = some q) {e : TagInfo δ}
    (he : s.ownership.lookupTag c.id q.oldTag = some e) (hnot : q.isHeldBy e = false)
    {w : VendorId} (hw : q.newOwner s.environment s.session = some w) {v : VendorId}
    (hv : e.owner = some v) (hasked : (s.environment.makeCurrentHandler? v).isSome) :
    ∃ asked rest, (∀ a ∈ asked, a.IsQuestion) ∧ (s.serve c).journal =
      asked ++ .called v (s.registry.isInitialized v) (.makeCurrent c e.toRelease) :: rest := by
  obtain ⟨encoding, henc, hdecode⟩ := Client.exists_of_switch? hq
  obtain ⟨asked, hquestions, hsought⟩ := (⟨c, s.session⟩ : Exchange σ δ).exists_asked q
  have hserve := makeCurrent_calls_owner (x := ⟨c, s.session⟩) hdecode he hnot hw hv hasked
  have hleaves : (s.serve c).Leaves (fun _ => s.environment.CallsOwner ⟨c, s.session⟩ q e v)
      fun _ => s.environment.CallsOwner ⟨c, s.session⟩ q e v := by
    refine hs.serve_leaves_of_makeCurrentEncoding? (hs.extension_ne_none he) henc
      (hserve.mono (fun _ _ => id) ?_)
    rintro (reason | a) y hy <;> exact hy
  obtain ⟨during, hduring⟩ := hleaves.session
  rw [hsought] at hduring
  refine ⟨asked.reverse, during.reverse, fun a ha => hquestions a (List.mem_reverse.mp ha), ?_⟩
  let call : Event δ := .called v (s.registry.isInitialized v) (.makeCurrent c e.toRelease)
  have hall : (s.serve c).journal.reverse = during ++ call :: (asked ++ []) := hduring.symm
  calc (s.serve c).journal
    _ = (s.serve c).journal.reverse.reverse := (List.reverse_reverse _).symm
    _ = (during ++ call :: (asked ++ [])).reverse := congrArg List.reverse hall
    _ = asked.reverse ++ call :: during.reverse := by simp

/-- A tag stays live in the course of operations: it is live at the start, and is not freed. -/
structure Server.StaysLive (s : Server σ δ) (ops : List (Operation σ δ)) (client : ClientId)
    (tag : ContextTag) : Prop where
  live : (s.ownership.lookupTag client tag).isSome
  kept : ∀ d ∈ s.run ops, ¬ d.Frees client tag

/-- Making a context current is idempotent. A request succeeds with a tag, and any operations follow
during which the tag stays live, and no vendor confuses a client that binds a tag of the same number
with this client. Then the tag stands for what was asked for. As long as the context has an owner,
asking for the same again with this old tag is answered by the tag, in all spellings and however
often: nobody is asked but the window system, and the router stays as it is. Asking for anything
else with this old tag, as long as it has an owner, goes to the owner of the tag before any other
vendor. -/
theorem makeCurrent_idempotent (hs : s.Reachable) (hq : c.switch? = some q) {d : Client}
    (hok : (s.serve c).result = .ok (d, .ok ())) {tag : ContextTag}
    (htag : d.replyTag? = some tag) (h0 : tag ≠ 0) {ops : List (Operation σ δ)} {t : Server σ δ}
    (hops : (s.serve c).server.Leads ops t) (hlive : (s.serve c).server.StaysLive ops d.id tag)
    (hapart : ∀ deed ∈ (s.serve c).server.run ops, ¬ deed.Overwrites d.id tag) :
    ((t.environment.ownerOfXid t.session q.context).isSome → ∀ bs : List Client,
      (∀ b ∈ bs, b.id = d.id ∧ b.switch? = some { q with oldTag := tag }) →
        t.run (bs.map .serve) = (bs.map fun b => ⟨.serve b, t.serve b⟩) ∧
          ∀ b ∈ bs, t.AnswersBy b tag) ∧
    ∃ e, t.ownership.lookupTag d.id tag = some e ∧ e.context = q.context ∧
      e.drawable = q.drawable ∧ e.readDrawable = q.readDrawable ∧
      ∀ b p v, b.id = d.id → b.switch? = some p → p.oldTag = tag → p.context ≠ 0 →
        (t.environment.ownerOfXid t.session p.context).isSome →
        (p.context ≠ e.context ∨ p.drawable ≠ e.drawable ∨ p.readDrawable ≠ e.readDrawable) →
        e.owner = some v → (t.environment.makeCurrentHandler? v).isSome →
          ∃ asked rest, (∀ a ∈ asked, a.IsQuestion) ∧ (t.serve b).journal = asked ++
            .called v (t.registry.isInitialized v) (.makeCurrent b e.toRelease) :: rest := by
  obtain ⟨hcontext, hheld⟩ := hs.sound.isHeld_serve hq hok htag h0 hlive.live
  have hsound := hs.sound.apply (.serve c)
  have hheld := hops.isHeld hsound hheld fun deed hdeed hlost =>
    hlost.elim (hlive.kept deed hdeed) (hapart deed hdeed)
  have hsound' : t.Sound := hops.sound hsound
  -- the entry stands for what was asked, and nothing since has taken it away
  refine ⟨fun howner bs hbs => ?_, ?_⟩
  · -- asking for the same
    obtain ⟨v, hv⟩ := Option.isSome_iff_exists.mp howner
    have hanswers : ∀ b ∈ bs, t.AnswersBy b tag := by
      intro b hb
      obtain ⟨hid, hb⟩ := hbs b hb
      rw [← hid] at hheld
      exact hsound'.answersBy_of_isHeld hb hheld ((Switch.newOwner_of_ne_zero hcontext _).trans hv)
    exact ⟨Server.run_of_answersBy hanswers, hanswers⟩
  · -- asking for anything else
    obtain ⟨e, he, hstands⟩ := hheld
    obtain ⟨⟨hctx, hdraw⟩, hread⟩ : (e.context = q.context ∧ e.drawable = q.drawable) ∧
        e.readDrawable = q.readDrawable := by
      simpa [Switch.isHeldBy] using hstands
    refine ⟨e, he, hctx, hdraw, hread, ?_⟩
    rintro b p v hid hp rfl hp0 howner hdiffers hv hasked
    obtain ⟨w, hw⟩ := Option.isSome_iff_exists.mp howner
    rw [← hid] at he
    refine hsound'.calls_owner hp he ?_ ((Switch.newOwner_of_ne_zero hp0 _).trans hw) hv hasked
    rw [Switch.isHeldBy]
    simp only [Bool.and_eq_false_iff, decide_eq_false_iff_not]
    tauto

end Requests

/-! ### Clients that take turns -/

/-- A client creates a context. -/
def beforeTurns : List (Operation Unit Nat) :=
  [.createVendor (.obliging 0 (some 42)), .beginGeneration .sample,
    .serve (.asking 7 Opcode.createContext [5, 33, 0, 0, 1])]

/-- The router before the client makes the context current for the first time. -/
def turning : Server Unit Nat := .reached beforeTurns

/-- What happens while the context is current: the owner of its tag stores other data, the client
binds and releases another tag, and another client binds the same context. -/
def turns : List (Operation Unit Nat) :=
  [.perform (.call (.setTagData ⟨7⟩ 1 ⟨0⟩ (some 9)) fun _ => .done ()),
    .serve (.asking 7 Opcode.makeContextCurrent [0, 8, 8, 5]),
    .serve (.asking 7 Opcode.makeContextCurrent [2, 0, 0, 0]),
    .serve (.asking 8 Opcode.makeContextCurrent [0, 6, 7, 5])]

/-- The router after the client has made the context current. -/
def turned : Server Unit Nat := (turning.serve askingFirst).server

/-- Two spellings of the request for what is current. -/
def askingStill : List Client :=
  [askingAgain, .asking 7 Opcode.vendorPrivate [makeCurrentReadCode, 1, 6, 7, 5]]

/-- The client asks to read from the drawable that it draws to. -/
def askingElse : Client := .asking 7 Opcode.makeCurrent [6, 5, 1]

/-- After several turns the client asks twice for what is current, and nothing happens; it asks for
another read drawable, and the owner is asked to release the tag, and is shown the new data. -/
theorem makeCurrent_idempotent_turned :
    turning.Reachable ∧ turned.StaysLive turns ⟨7⟩ 1 ∧
    (∀ d ∈ turned.run turns, ¬ d.Overwrites ⟨7⟩ 1) ∧
    (∀ b ∈ askingStill, (turned.after (turned.run turns)).AnswersBy b 1) ∧
    ∃ asked rest, ((turned.after (turned.run turns)).serve askingElse).journal =
      asked ++ .called ⟨0⟩ true (.makeCurrent askingElse { oldTag := 1, oldData := some 9 }) ::
        rest := by
  have hstart : (Server.new (.blank 1) () 4).Leads beforeTurns turning :=
    .of_run (by decide +kernel)
  have hreach : turning.Reachable := hstart.reachable (.new _ _ _)
  have hok : (turning.serve askingFirst).result =
      .ok ({ askingFirst with replies := [firstTagReply] }, .ok ()) := by decide +kernel
  have hops : turned.Leads turns (turned.after (turned.run turns)) := .of_run (by decide +kernel)
  have hlive : turned.StaysLive turns ⟨7⟩ 1 := ⟨by decide +kernel, by decide +kernel⟩
  have hapart : ∀ d ∈ turned.run turns, ¬ d.Overwrites ⟨7⟩ 1 := by decide +kernel
  have htag : Client.replyTag? { askingFirst with replies := [firstTagReply] } = some 1 := by
    decide +kernel
  obtain ⟨hagain, e, he, hctx, hdraw, hread, helse⟩ :=
    makeCurrent_idempotent hreach (q := ⟨0, 6, 7, 5⟩) (by decide +kernel) hok htag (by decide) hops
      hlive hapart
  have hbound : (turned.after (turned.run turns)).ownership.lookupTag ⟨7⟩ 1 =
      some ⟨1, some ⟨0⟩, some 9, 5, 6, 7⟩ := by decide +kernel
  obtain rfl := Option.some_inj.mp (he.symm.trans hbound)
  refine ⟨hreach, hlive, hapart,
    (hagain (by decide +kernel) askingStill (by decide +kernel)).2, ?_⟩
  obtain ⟨asked, rest, -, hjournal⟩ := helse askingElse ⟨1, 6, 6, 5⟩ ⟨0⟩ rfl (by decide +kernel) rfl
    (by decide) (by decide +kernel) (by decide) rfl (by decide +kernel)
  have hinit : (turned.after (turned.run turns)).registry.isInitialized ⟨0⟩ = true := by
    decide +kernel
  rw [hinit] at hjournal
  exact ⟨asked, rest, hjournal⟩

/-! ### A tag that is live, and stands for something else -/

/-- Asking again is answered by the tag: a request succeeds with a tag, the given operations follow,
the context still has an owner, and the client asks for the same with this old tag. -/
def Server.AnswersAgain (s : Server σ δ) (c : Client) (ops : List (Operation σ δ)) : Prop :=
  ∀ q d tag t b, c.switch? = some q → (s.serve c).result = .ok (d, .ok ()) →
    d.replyTag? = some tag → (s.serve c).server.Leads ops t →
    (t.environment.ownerOfXid t.session q.context).isSome → b.id = d.id →
    b.switch? = some { q with oldTag := tag } → t.AnswersBy b tag

/-- The router does not answer again if some vendor is called then. -/
lemma Server.not_answersAgain {s t : Server σ δ} {c d b : Client} {q : Switch}
    {ops : List (Operation σ δ)} {tag : ContextTag} (hq : c.switch? = some q)
    (hok : (s.serve c).result = .ok (d, .ok ())) (htag : d.replyTag? = some tag)
    (hops : (s.serve c).server.Leads ops t)
    (howner : (t.environment.ownerOfXid t.session q.context).isSome) (hid : b.id = d.id)
    (hb : b.switch? = some { q with oldTag := tag })
    (hcalled : ∃ e ∈ (t.serve b).journal, ¬ e.IsQuestion) : ¬ s.AnswersAgain c ops := by
  intro h
  obtain ⟨_, asked, -, hasked, hserve⟩ := h q d tag t b hq hok htag hops howner hid hb
  obtain ⟨e, he, hnot⟩ := hcalled
  rw [hserve] at he
  exact hnot (hasked e he)

/-- A client creates a context of one vendor, and another one of a vendor that confuses clients. -/
def beforeConfusion : List (Operation Unit Nat) :=
  [.createVendor (.obliging 0 (some 42)), .createVendor (.confused 1 none),
    .beginGeneration .sample, .serve (.asking 8 Opcode.createContext [5, 33, 0, 0, 1]),
    .serve (.asking 8 Opcode.createContext [9, 33, 1, 0, 1])]

/-- The router before the client binds the first of its contexts. -/
def confusing : Server Unit Nat :=
  (Server.new (.blank 2) () 4).after ((Server.new (.blank 2) () 4).run beforeConfusion)

/-- The client binds it. -/
def bindingFirst : Client := .asking 8 Opcode.makeContextCurrent [0, 6, 7, 5]

/-- Another client binds the second context, and its vendor hands back the first client. -/
def confusedTurn : List (Operation Unit Nat) :=
  [.serve (.asking 7 Opcode.makeContextCurrent [0, 8, 8, 9])]

/-- The client binds its context with other drawables, under the tag that is free again. -/
def reboundTurn : List (Operation Unit Nat) :=
  [.serve (.asking 8 Opcode.makeContextCurrent [1, 8, 9, 5])]

/-- A tag that was never freed stands for something else, once a vendor has confused another client
with the tag's; and so does one that an operation has freed and bound again, although the tag is live
before the operation and after it. In both cases asking for what the tag stood for calls vendors. -/
theorem live_tag_does_not_answer :
    confusing.Reachable ∧
    (∀ ops ∈ [confusedTurn, reboundTurn], ¬ confusing.AnswersAgain bindingFirst ops) ∧
    (confusing.serve bindingFirst).server.StaysLive confusedTurn ⟨8⟩ 1 ∧
    (((confusing.serve bindingFirst).server.ownership.lookupTag ⟨8⟩ 1).isSome ∧
      ∀ d ∈ (confusing.serve bindingFirst).server.run reboundTurn,
        (d.step.server.ownership.lookupTag ⟨8⟩ 1).isSome) := by
  have hstart : (Server.new (.blank 2) () 4).Leads beforeConfusion confusing :=
    .of_run (by decide +kernel)
  have hok : (confusing.serve bindingFirst).result =
      .ok ({ bindingFirst with replies := [firstTagReply] }, .ok ()) := by decide +kernel
  have htag : Client.replyTag? { bindingFirst with replies := [firstTagReply] } = some 1 := by
    decide +kernel
  refine ⟨hstart.reachable (.new _ _ _), ?_, ⟨by decide +kernel, by decide +kernel⟩,
    by decide +kernel, by decide +kernel⟩
  intro ops hops
  have hcases : ops = confusedTurn ∨ ops = reboundTurn := by simpa using hops
  rcases hcases with rfl | rfl <;>
    exact Server.not_answersAgain (q := ⟨0, 6, 7, 5⟩)
      (b := .asking 8 Opcode.makeContextCurrent [1, 6, 7, 5]) (by decide +kernel) hok htag
      (.of_run (by decide +kernel)) (by decide +kernel) rfl (by decide +kernel) (by decide +kernel)

end VendorDispatch
