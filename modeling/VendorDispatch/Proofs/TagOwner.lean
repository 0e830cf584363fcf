import VendorDispatch.Proofs.Operation

/-!
Whose vendor is current behind a tag.

* `Client.replyTag?`: the tag in the reply to a request to make a context current.
* `Server.Binds`, `Server.BoundDuring`: the request that bound a tag to what it stands for ever
  since. It succeeded with this tag, and the owner of the tag was the owner of the context then.
* `makeCurrent_owner`: the tag in a reply stands for what the request asks for, and its owner is the
  vendor that owned the context when the tag was bound. That is this request, unless the old tag
  stood for the same already.
* `recreated_context_keeps_owner`: the owner of the context may be another one by then.
-/

namespace VendorDispatch

variable {σ δ : Type}

/-! ### Replies -/

/-- The tag in the last reply to the client. -/
def Client.replyTag? (c : Client) : Option ContextTag :=
  c.replies.getLast?.bind fun r =>
    (slice? r 8 4).map fun bytes => UInt32.ofNat (c.byteOrder.decode bytes)

lemma Client.replyTag?_writeReply {c : Client} {tag : ContextTag} {r : Reply}
    (h : (Reply.header c).put? 8 tag = some r) : (c.writeReply r.bytes).replyTag? = some tag := by
  have hbytes : slice? r.bytes 8 4 = some (c.byteOrder.encode 4 tag.toNat) := Reply.slice?_put? h
  rw [replyTag?, Client.writeReply, List.getLast?_concat, Option.bind_some, hbytes,
    Option.map_some]
  exact congrArg some (decode_encode_word c.byteOrder tag)

/-! ### Live tags -/

/-- Every live tag satisfies `G`. -/
def Ownership.AllLive (G : ClientId → ContextTag → TagInfo δ → Prop) (o : Ownership δ) : Prop :=
  ∀ client tag e, o.lookupTag client tag = some e → G client tag e

/-- A statement about live tags that does not mind what private data they carry. -/
def IgnoresData (G : ClientId → ContextTag → TagInfo δ → Prop) : Prop :=
  ∀ client tag e data, G client tag e → G client tag { e with data }

/-- The tables are in order, and every live tag satisfies `G`. -/
structure Session.Fine (G : ClientId → ContextTag → TagInfo δ → Prop) (s : Session σ δ) :
    Prop where
  numbered : s.ownership.Numbered
  live : s.ownership.AllLive G

section Fine

variable {G : ClientId → ContextTag → TagInfo δ → Prop}

lemma kept_fine (env : Environment σ δ) (hG : IgnoresData G) : env.Kept (Session.Fine G) := by
  have hlive := kept_lookups env
    (P := fun f => ∀ client tag e, f client tag = some e → G client tag e) ?_
  · refine ((kept_numbered env).and hlive).congr fun s => ⟨fun h => ⟨h.1, h.2⟩, fun h => ?_⟩
    exact ⟨h.numbered, h.live⟩
  · intro f client tag data h d b e he
    dsimp only at he
    split_ifs at he
    · obtain ⟨e', he', rfl⟩ := Option.map_eq_some_iff.mp he
      exact hG _ _ _ data (h d b e' he')
    · exact h d b e he

lemma Session.Fine.free {s : Session σ δ} (h : s.Fine G) (client : ClientId) (tag : ContextTag) :
    (s.withOwnership (s.ownership.modifyTags client fun t => t.free tag)).Fine G := by
  refine ⟨h.numbered.modifyTags fun _ ht => ht.free _, ?_⟩
  intro d b e he
  rw [Session.ownership_withOwnership, Ownership.lookupTag_free] at he
  split_ifs at he
  exact h.live d b e he

end Fine

/-- A vendor has just claimed the tag, and every other live tag satisfies `G`. -/
structure Session.Claimed (G : ClientId → ContextTag → TagInfo δ → Prop) (client : ClientId)
    (v : VendorId) (tag : ContextTag) (s : Session σ δ) : Prop where
  numbered : s.ownership.Numbered
  ne_zero : tag ≠ 0
  entry : ∃ data, s.ownership.lookupTag client tag = some { tag, owner := some v, data }
  others : s.ownership.AllLive fun d b e => ¬ (d = client ∧ b = tag) → G d b e

/-- A tag is bound to what a request asks for, and every other live tag satisfies `G`. -/
structure Session.Bound (G : ClientId → ContextTag → TagInfo δ → Prop) (client : ClientId)
    (v : VendorId) (q : MakeCurrent.Switch) (tag : ContextTag) (s : Session σ δ) : Prop where
  numbered : s.ownership.Numbered
  ne_zero : tag ≠ 0
  entry : ∃ data, s.ownership.lookupTag client tag = some (q.bound data (.claimed tag v))
  others : s.ownership.AllLive fun d b e => ¬ (d = client ∧ b = tag) → G d b e

section Switching

variable {env : Environment σ δ} {G : ClientId → ContextTag → TagInfo δ → Prop}
  {x : Exchange σ δ}

lemma kept_claimed (env : Environment σ δ) (hG : IgnoresData G) (client : ClientId) (v : VendorId)
    (tag : ContextTag) : env.Kept (Session.Claimed G client v tag) := by
  have hlook := kept_lookups env (P := fun f =>
    (∃ data, f client tag = some { tag, owner := some v, data }) ∧
      ∀ d b e, f d b = some e → ¬ (d = client ∧ b = tag) → G d b e) ?_
  · refine (((kept_numbered env).and (env.kept_const (tag ≠ 0))).and hlook).congr fun s => ?_
    exact ⟨fun h => ⟨h.1.1, h.1.2, h.2.1, h.2.2⟩,
      fun h => ⟨⟨h.numbered, h.ne_zero⟩, h.entry, h.others⟩⟩
  · rintro f d₀ b₀ data₀ ⟨⟨data, hentry⟩, hothers⟩
    refine ⟨?_, ?_⟩
    · dsimp only
      split_ifs
      · exact ⟨data₀, by rw [hentry]; rfl⟩
      · exact ⟨data, hentry⟩
    · intro d b e he hne
      dsimp only at he
      split_ifs at he
      · obtain ⟨e', he', rfl⟩ := Option.map_eq_some_iff.mp he
        exact hG _ _ _ data₀ (hothers d b e' he' hne)
      · exact hothers d b e he hne

/-- Releasing a tag leaves the others alone. -/
lemma release_fine (hG : IgnoresData G) (hr : env.registry.KeepsClient)
    (hx : x.session.Fine G) (old : TagInfo δ) :
    Ends (MakeCurrent.release env old) x
      (fun _ y => y.client.id = x.client.id ∧ y.session.Fine G)
      (Answers (fun _ => Session.Fine G) fun _ _ => True) := by
  cases hv : old.owner with
  | none =>
      rw [MakeCurrent.release, hv]
      exact hx
  | some v =>
      refine MakeCurrent.ends_release hr.handsBack (kept_fine env hG).upheld hv
        (fun _ => ⟨hx.numbered, hx.live⟩) ?_ ?_ (fun _ => hx) fun _ _ _ => trivial
      · intro s c data hs hc
        have hfree := hs.free c.id old.tag
        exact ⟨hc, hfree.numbered, hfree.live⟩
      · exact fun s c e hs _ => ⟨hs.numbered, hs.live⟩

/-- An accepted binding stands for what was asked, and leaves the others alone. -/
lemma bind_bound (hG : IgnoresData G) (hr : env.registry.KeepsClient) (hx : x.session.Fine G)
    (v : VendorId) (q : MakeCurrent.Switch) :
    Ends (MakeCurrent.bind env v q) x
      (fun tag y => y.session.Bound G x.client.id v q tag)
      (Answers (fun _ => Session.Fine G) fun _ _ => True) := by
  have hbacks : ∀ (o : Ownership δ) tag, o.Numbered →
      (o.AllLive fun d b e => ¬ (d = x.client.id ∧ b = tag) → G d b e) →
      (o.modifyTags x.client.id fun t => t.free tag).AllLive G := by
    intro o tag _ ho d b e he
    rw [Ownership.lookupTag_free] at he
    split_ifs at he with hdb
    exact ho d b e he hdb
  refine MakeCurrent.ends_bindTag hr.handsBack (A := Session.Claimed G x.client.id v)
    (fun tag => (kept_claimed env hG x.client.id v tag).upheld) ?_ ?_ ?_ ?_ (fun _ => trivial)
    fun _ _ _ _ => trivial
  · -- a tag is claimed: it was free, and its entry names the new owner
    intro tag o ho _
    have hlookup := hx.numbered.lookupTag_allocateTag? ho
    refine ⟨hx.numbered.allocateTag? ho, (hx.numbered.fresh_of_allocateTag? ho).1, ⟨none, ?_⟩, ?_⟩
    · exact (hlookup x.client.id tag).trans (if_pos ⟨rfl, rfl⟩)
    · intro d b e he hne
      have he' : o.lookupTag d b = some e := he
      rw [hlookup, if_neg hne] at he'
      exact hx.live d b e he'
  · intro tag s c data hs hc
    -- the vendor accepts: the entry says what was asked, the others are as before
    obtain ⟨old, hentry⟩ := hs.entry
    have hmod := fun d b => Ownership.lookupTag_modify s.ownership c.id d tag b
      (f := q.bound data) fun _ => rfl
    refine ⟨hs.numbered.modifyTags fun _ ht => ht.modify _ fun _ => rfl, hs.ne_zero, ⟨data, ?_⟩, ?_⟩
    · have h := hmod x.client.id tag
      rw [if_pos ⟨hc.symm, rfl⟩, hentry] at h
      exact h
    · intro d b e he hne
      have he' : (s.ownership.modifyTags c.id fun t => t.modify tag (q.bound data)).lookupTag d b =
          some e := he
      rw [hmod, if_neg fun h => hne ⟨h.1.trans hc, h.2⟩] at he'
      exact hs.others d b e he' hne
  · -- it refuses, or cannot be asked: the claimed tag is given back
    intro tag s c reason hs hc
    refine ⟨hs.numbered.modifyTags fun _ ht => ht.free _, ?_⟩
    have h := hbacks s.ownership tag hs.numbered hs.others
    rw [← hc] at h
    exact h
  · intro tag o ho _
    have hlookup := hx.numbered.lookupTag_allocateTag? ho
    have hn := hx.numbered.allocateTag? ho
    refine ⟨hn.modifyTags fun _ ht => ht.free _, hbacks o tag hn ?_⟩
    intro d b e he hne
    rw [hlookup, if_neg hne] at he
    exact hx.live d b e he

/-- What a request to make a context current leaves when it succeeds with a tag. -/
structure Session.MadeCurrent (env : Environment σ δ) (s : Session σ δ) (client : ClientId)
    (q : MakeCurrent.Switch) (tag : ContextTag) (e : TagInfo δ) (t : Session σ δ) : Prop where
  ne_zero : tag ≠ 0
  entry : t.ownership.lookupTag client tag = some e
  stored : q.isHeldBy e = true
  held : q.IsHeld s.ownership client →
    tag = q.oldTag ∧ s.ownership.lookupTag client tag = some e
  owner : ¬ q.IsHeld s.ownership client → e.owner = env.ownerOfXid s q.context

/-- What a request to make a context current leaves: nothing new if it only lets go of a tag, and
otherwise one tag, which is the one in the reply. -/
def Session.Switched (env : Environment σ δ) (G : ClientId → ContextTag → TagInfo δ → Prop)
    (s : Session σ δ) (client : ClientId) (q : MakeCurrent.Switch) (y : Exchange σ δ) : Prop :=
  if q.context = 0 then y.session.Fine G
  else ∃ tag e, y.client.replyTag? = some tag ∧ y.session.ownership.Numbered ∧
    s.MadeCurrent env client q tag e y.session ∧
    y.session.ownership.AllLive fun d b e => ¬ (d = client ∧ b = tag) → G d b e

/-- Switching, when the old tag does not stand for what is asked for. -/
lemma switchTo_bound (hG : IgnoresData G) (hr : env.registry.KeepsClient)
    (hx : x.session.Fine G) (q : MakeCurrent.Switch) (old : Option (TagInfo δ))
    (vendor : Option VendorId) :
    Ends (MakeCurrent.switchTo env q old vendor) x
      (fun tag y =>
        match vendor with
        | none => y.session.Fine G
        | some v => y.session.Bound G x.client.id v q tag)
      (Answers (fun _ => Session.Fine G) fun _ _ => True) := by
  refine MakeCurrent.ends_switchTo
    (M := fun y => y.client.id = x.client.id ∧ y.session.Fine G) (fun _ => ⟨rfl, hx⟩) ?_ ?_ ?_
  · exact fun e _ => release_fine hG hr hx e
  · rintro rfl y ⟨-, hy⟩
    exact hy
  · rintro v rfl y ⟨hc, hy⟩
    rw [← hc]
    exact bind_bound hG hr hy v q

/-- What serving a request to make a context current leaves. -/
lemma makeCurrent_switched (hG : IgnoresData G) (hr : env.registry.KeepsClient)
    (hx : x.session.Fine G) (encoding : MakeCurrent.Encoding) :
    Ends (MakeCurrent.serve env encoding) x
      (fun _ y => ∃ q, MakeCurrent.decode x.client encoding = .ok q ∧
        x.session.Switched env G x.client.id q y)
      (Answers (fun _ => Session.Fine G) fun _ _ => True) := by
  rw [MakeCurrent.serve, ends_bind, MakeCurrent.ends_read]
  cases hq : MakeCurrent.decode x.client encoding with
  | error e => exact hx
  | ok q =>
      have hsought : (q.sought x.session).Fine G := q.upheld_sought (kept_fine env hG).upheld hx
      refine MakeCurrent.ends_switch rfl (fun _ _ => hx) (fun _ _ => hsought) ?_ ?_
      · -- the old tag answers
        intro e v he hv hheld
        have hc : q.context ≠ 0 := MakeCurrent.Switch.context_ne_zero hv
        have htag : e.tag = q.oldTag := hx.numbered.tag_of_lookupTag he
        refine MakeCurrent.ends_replyTag fun r hput => ⟨q, rfl, ?_⟩
        rw [Session.Switched, if_neg hc]
        refine ⟨e.tag, e, Client.replyTag?_writeReply hput, hsought.numbered,
          ⟨?_, ?_, hheld, ?_, ?_⟩, ?_⟩
        · rintro h0
          rw [← htag, h0, Ownership.lookupTag_zero] at he
          cases he
        · have hsame := congrArg (fun o => o.lookupTag x.client.id q.oldTag)
            (q.ownership_sought x.session)
          rw [htag]
          exact hsame.trans he
        · exact fun _ => ⟨htag, htag ▸ he⟩
        · exact fun h => (h ⟨e, he, hheld⟩).elim
        · exact fun d b e' he' _ => hsought.live d b e' he'
      · -- a vendor is asked
        intro _ hfound hnot
        refine (switchTo_bound hG hr hsought q _ _).mono ?_ fun _ _ => id
        intro tag y hy
        refine MakeCurrent.ends_replyTag fun r hput => ⟨q, rfl, ?_⟩
        by_cases hc : q.context = 0
        · rw [MakeCurrent.Switch.newOwner_of_eq_zero hc] at hy
          rw [Session.Switched, if_pos hc]
          exact ⟨hy.numbered, hy.live⟩
        · -- a context is bound, so it has an owner, and the old tag did not stand for it
          obtain ⟨v, hv⟩ := hfound hc
          rw [MakeCurrent.Switch.newOwner_of_ne_zero hc, hv] at hy
          rw [Session.Switched, if_neg hc]
          obtain ⟨data, hentry⟩ := hy.entry
          have hnotHeld : ¬ q.IsHeld x.session.ownership x.client.id := by
            rintro ⟨e, he, hheld⟩
            rw [hnot e he hc] at hheld
            cases hheld
          refine ⟨tag, q.bound data (.claimed tag v), Client.replyTag?_writeReply hput,
            hy.numbered, ⟨hy.ne_zero, hentry, ?_, ?_, ?_⟩, hy.others⟩
          · exact q.isHeldBy_bound data _
          · exact fun h => (hnotHeld h).elim
          · exact fun _ => hv.symm

end Switching

/-! ### Histories of tags -/

/-- The tag of the client stands for what the entry says, whatever its private data is by now. -/
def Ownership.Has (o : Ownership δ) (client : ClientId) (e : TagInfo δ) : Prop :=
  ∃ data, o.lookupTag client e.tag = some { e with data }

/-- The request binds the entry. It asks for what the entry stands for, its old tag does not stand
for that already, and it succeeds and names the tag of the entry in its reply. The owner of the
entry is the owner of the context at that moment. -/
def Server.Binds (s : Server σ δ) (c : Client) (e : TagInfo δ) : Prop :=
  ∃ q d, c.switch? = some q ∧ q.isHeldBy e = true ∧ ¬ q.IsHeld s.ownership c.id ∧
    (s.serve c).result = .ok (d, .ok ()) ∧ d.replyTag? = some e.tag ∧
    e.owner = s.environment.ownerOfXid s.session q.context

/-- One of the operations was the request of the client that bound the entry. It left the tag with
this entry, and so did every operation since. -/
def Server.BoundDuring (s : Server σ δ) (ops : List (Operation σ δ)) (client : ClientId)
    (e : TagInfo δ) : Prop :=
  ∃ before c after t, ops = before ++ .serve c :: after ∧ s.Leads before t ∧ c.id = client ∧
    t.Binds c e ∧ ∀ since u, since <+: after → (t.serve c).server.Leads since u →
      u.ownership.Has client e

/-- One more operation that leaves the tag with the entry. -/
lemma Server.BoundDuring.append {s u : Server σ δ} {ops : List (Operation σ δ)} {client : ClientId}
    {e : TagInfo δ} (h : s.BoundDuring ops client e) {op : Operation σ δ}
    (hlead : s.Leads (ops ++ [op]) u) (hu : u.ownership.Has client e) :
    s.BoundDuring (ops ++ [op]) client e := by
  obtain ⟨before, c, after, t, rfl, ht, hc, hbinds, hsince⟩ := h
  rw [List.append_assoc, List.cons_append] at hlead
  refine ⟨before, c, after ++ [op], t, by simp, ht, hc, hbinds, fun since v hprefix hv => ?_⟩
  rcases List.prefix_concat_iff.mp hprefix with rfl | hprefix
  · obtain ⟨t', ht', hrest⟩ := hlead.split
    obtain rfl := ht.unique ht'
    rw [hv.unique hrest.uncons]
    exact hu
  · exact hsince since v hprefix hv

lemma Server.ignoresData_boundDuring (s : Server σ δ) (ops : List (Operation σ δ)) :
    IgnoresData fun client _ e => s.BoundDuring ops client e :=
  fun _ _ _ _ h => h

section Histories

variable {s : Server σ δ} {G : ClientId → ContextTag → TagInfo δ → Prop}

/-- What a request to make a context current leaves, whoever may have learned what. -/
lemma serve_switched (hs : s.Sound) (hr : s.registry.KeepsClient) (hG : IgnoresData G)
    (hlive : s.ownership.AllLive G) (he : s.extension ≠ none) {c : Client}
    {encoding : MakeCurrent.Encoding} (henc : c.makeCurrentEncoding? = some encoding) :
    (s.serve c).Leaves
      (fun r t =>
        match r.2 with
        | .ok () => ∃ q, c.switch? = some q ∧
          s.session.Switched s.environment G c.id q ⟨r.1, t⟩
        | .error _ => t.Fine G)
      fun _ _ => True := by
  have hfine : s.session.Fine G := ⟨hs.ownership.tags, hlive⟩
  have hr' : s.environment.registry.KeepsClient := hr
  have hserve := makeCurrent_switched (x := ⟨c, s.session⟩) hG hr' hfine encoding
  refine hs.serve_leaves_of_makeCurrentEncoding? he henc (hserve.mono ?_ ?_)
  · rintro _ y ⟨q, hq, hy⟩
    refine ⟨q, ?_, hy⟩
    rw [Client.switch?, henc, Option.bind_some]
    have hq' : MakeCurrent.decode c encoding = .ok q := hq
    rw [hq']
    rfl
  · rintro (e | a) y hy
    · exact hy
    · trivial

/-- After a request, every live tag is one from before or was bound by the request. -/
lemma serve_live (hs : s.Sound) (hr : s.registry.KeepsClient) (hG : IgnoresData G)
    (hlive : s.ownership.AllLive G) {c : Client} {r : Client × Except ProtocolError Unit}
    (hok : (s.serve c).result = .ok r) :
    (s.serve c).server.ownership.AllLive fun d b e => G d b e ∨ d = c.id ∧ s.Binds c e := by
  have hfine : s.session.Fine G := ⟨hs.ownership.tags, hlive⟩
  by_cases hm : s.extension ≠ none ∧ ∃ encoding, c.makeCurrentEncoding? = some encoding
  · obtain ⟨he, encoding, henc⟩ := hm
    have h := serve_switched hs hr hG hlive he henc
    rw [Step.Leaves, hok] at h
    obtain ⟨d, e | _⟩ := r
    · exact fun d b e he => .inl (h.live d b e he)
    · obtain ⟨q, hq, hswitched⟩ := h
      rw [Session.Switched] at hswitched
      split_ifs at hswitched with hc
      · exact fun d b e he => .inl (hswitched.live d b e he)
      · obtain ⟨tag, e, hreply, hn, hmade, hothers⟩ := hswitched
        intro d' b e' he'
        -- the tag in the reply is either the old one, which stands as before, or newly bound
        by_cases hnew : d' = c.id ∧ b = tag
        · obtain ⟨rfl, rfl⟩ := hnew
          obtain rfl : e' = e := Option.some_inj.mp (he'.symm.trans hmade.entry)
          have htag : e'.tag = b := hn.tag_of_lookupTag he'
          by_cases hheld : q.IsHeld s.session.ownership c.id
          · exact .inl (hlive _ _ _ (hmade.held hheld).2)
          · exact .inr ⟨rfl, q, d, hq, hmade.stored, hheld, hok, htag.symm ▸ hreply, hmade.owner hheld⟩
        · exact .inl (hothers d' b e' he' hnew)
  · have h := hs.serve_keeps_of_other (kept_fine s.environment hG) hfine hm
    exact fun d b e he => .inl (h.live d b e he)

/-- After an operation that serves no request, every live tag is one from before. -/
lemma apply_live (hG : IgnoresData G) (hs : s.Sound) (hlive : s.ownership.AllLive G)
    {op : Operation σ δ} (hop : ∀ c, op ≠ .serve c) :
    (s.apply op).server.ownership.AllLive G := by
  have hfine : s.session.Fine G := ⟨hs.ownership.tags, hlive⟩
  have hvacant : (Ownership.vacant s.screenCount : Ownership δ).AllLive G := by
    intro d b e he
    cases he
  refine Server.apply_ownership (P := fun o => o.AllLive G) op hlive hvacant (fun entry he => ?_)
    (fun c hc => (hop c hc).elim)
    (fun program => (Server.perform_keeps (kept_fine s.environment hG) hfine program).live)
    (fun gone d b e he => ?_) fun _ => hlive
  · -- a new generation starts without tags, and its callbacks bind none
    refine Server.beginGeneration_keeps (I := fun _ o _ => o.Numbered ∧ o.AllLive G)
      (fun u _ => ?_) (fun r o journal v h => h) he entry
      ⟨Ownership.numbered_vacant _, hvacant⟩ |>.2
    refine ((kept_fine u.environment hG).congr fun t => ?_).upheld
    exact ⟨fun h => ⟨h.numbered, h.live⟩, fun h => ⟨h.1, h.2⟩⟩
  · rw [Ownership.lookupTag_clientGone] at he
    split_ifs at he
    exact hlive d b e he

/-- Every live tag was bound by an earlier request of its client. -/
lemma Server.Leads.boundDuring {start : Server σ δ} {ops : List (Operation σ δ)}
    (h : start.Leads ops s) (hs : start.Sound) (hr : start.registry.KeepsClient)
    (hops : ∀ op ∈ ops, op.KeepsClient)
    (hlive : ∀ client tag, start.ownership.lookupTag client tag = none) :
    s.ownership.AllLive fun client _ e => start.BoundDuring ops client e := by
  induction h with
  | nil =>
      intro d b e he
      rw [hlive] at he
      cases he
  | @concat ops t op a hlead hok ih =>
      have hops' : ∀ o ∈ ops, o.KeepsClient := fun o ho => hops o (List.mem_append_left _ ho)
      have hsound := hlead.sound hs
      have hkeeps := hlead.keepsClient hr hops'
      intro client b e he
      have htag : e.tag = b := (hsound.apply op).ownership.tags.tag_of_lookupTag he
      have hhas : (t.apply op).server.ownership.Has client e := ⟨e.data,
        (congrArg ((t.apply op).server.ownership.lookupTag client) htag).trans he⟩
      have hold : start.BoundDuring ops client e → start.BoundDuring (ops ++ [op]) client e :=
        fun h => h.append (.concat op a hlead hok) hhas
      by_cases hop : ∃ c, op = .serve c
      · -- only a request binds tags
        obtain ⟨c, rfl⟩ := hop
        rcases serve_live hsound hkeeps (start.ignoresData_boundDuring ops) (ih hops') hok client b e
          he with h | ⟨rfl, hbinds⟩
        · exact hold h
        · -- this request bound the tag, and nothing has happened since
          refine ⟨ops, c, [], t, rfl, hlead, rfl, hbinds, fun since u hprefix hu => ?_⟩
          obtain rfl := List.prefix_nil.mp hprefix
          rw [hu.nil_inv]
          exact hhas
      · exact hold (apply_live (start.ignoresData_boundDuring ops) hsound (ih hops')
          (fun c hc => hop ⟨c, hc⟩) client b e he)

/-- A request that succeeds in making a context current replies with a live tag that stands for what
the request asks for. Its owner is the owner of the context at that moment, unless the old tag stood
for the same already: then the old tag answers, as it was, and its owner owned the context when the
tag was bound. -/
theorem makeCurrent_owner {host : WindowSystem σ} {world : σ} {nestingLimit : Nat}
    {ops : List (Operation σ δ)} {s : Server σ δ}
    (h : (Server.new host world nestingLimit).Leads ops s) (hops : ∀ op ∈ ops, op.KeepsClient)
    {c : Client} {q : MakeCurrent.Switch} (hq : c.switch? = some q) (hcontext : q.context ≠ 0)
    {d : Client} (hok : (s.serve c).result = .ok (d, .ok ())) :
    ∃ tag e, d.replyTag? = some tag ∧ tag ≠ 0 ∧
      (s.serve c).server.ownership.lookupTag c.id tag = some e ∧
      e.context = q.context ∧ e.drawable = q.drawable ∧ e.readDrawable = q.readDrawable ∧
      (¬ q.IsHeld s.ownership c.id →
        e.owner = s.environment.ownerOfXid s.session q.context) ∧
      (q.IsHeld s.ownership c.id →
        tag = q.oldTag ∧ s.ownership.lookupTag c.id tag = some e ∧
          (Server.new host world nestingLimit).BoundDuring ops c.id e) := by
  let start : Server σ δ := Server.new host world nestingLimit
  have hsound := h.sound (Server.sound_new host world nestingLimit)
  have hkeeps := h.keepsClient Registry.keepsClient_empty hops
  have hbound := h.boundDuring (Server.sound_new host world nestingLimit)
    Registry.keepsClient_empty hops fun _ _ => rfl
  have hext : s.extension ≠ none := by
    intro he
    rw [Server.serve, he] at hok
    cases hok
  obtain ⟨encoding, henc, -⟩ := Client.exists_of_switch? hq
  have hleaves := serve_switched hsound hkeeps (start.ignoresData_boundDuring ops) hbound hext henc
  rw [Step.Leaves, hok] at hleaves
  -- the client's switch is the one that was decoded
  obtain ⟨q', hq', hswitched⟩ := hleaves
  obtain rfl : q = q' := Option.some_inj.mp (hq.symm.trans hq')
  rw [Session.Switched, if_neg hcontext] at hswitched
  obtain ⟨tag, e, hreply, -, hmade, -⟩ := hswitched
  obtain ⟨⟨hctx, hdraw⟩, hread⟩ : (e.context = q.context ∧ e.drawable = q.drawable) ∧
      e.readDrawable = q.readDrawable := by
    simpa [MakeCurrent.Switch.isHeldBy] using hmade.stored
  refine ⟨tag, e, hreply, hmade.ne_zero, hmade.entry, hctx, hdraw, hread, hmade.owner, ?_⟩
  -- the old tag answers: it was live before, so an earlier request bound it
  intro hheld
  obtain ⟨htag, hlook⟩ := hmade.held hheld
  exact ⟨htag, hlook, hbound c.id tag e hlook⟩

end Histories

/-! ### A context that is created again -/

/-- A request that succeeds in making a context current replies with a live tag that stands for what
the request asks for, and its owner is the owner of the context at that moment. -/
def Server.OwnerAgrees (s : Server σ δ) (c : Client) : Prop :=
  ∀ q d, c.switch? = some q → q.context ≠ 0 → (s.serve c).result = .ok (d, .ok ()) →
    ∃ tag e, d.replyTag? = some tag ∧ tag ≠ 0 ∧
      (s.serve c).server.ownership.lookupTag c.id tag = some e ∧
      e.context = q.context ∧ e.drawable = q.drawable ∧ e.readDrawable = q.readDrawable ∧
      e.owner = s.environment.ownerOfXid s.session q.context

/-- A client binds a context of one vendor, destroys it, and creates it again on the screen of
another vendor. -/
def recreation : List (Operation Unit Nat) :=
  [.createVendor (.obliging 0 none), .createVendor (.obliging 1 none), .beginGeneration .sample,
    .serve (.asking 7 Opcode.createContext [5, 33, 0, 0, 1]),
    .serve (.asking 7 Opcode.makeContextCurrent [0, 6, 7, 5]),
    .serve (.asking 7 Opcode.destroyContext [5]),
    .serve (.asking 7 Opcode.createContext [5, 33, 1, 0, 1])]

/-- The router after the context was created again. -/
def recreated : Server Unit Nat :=
  (Server.new (.blank 2) () 4).after ((Server.new (.blank 2) () 4).run recreation)

/-- The client asks for what is current behind its tag already. -/
def askingAgain : Client := .asking 7 Opcode.makeContextCurrent [1, 6, 7, 5]

/-- A client creates a context of a vendor that hands back another client. -/
def confusion : List (Operation Unit Nat) :=
  [.createVendor (.confused 0 none), .beginGeneration .sample,
    .serve (.asking 7 Opcode.createContext [5, 33, 0, 0, 1])]

/-- The router of a vendor that hands back another client. -/
def confused : Server Unit Nat :=
  (Server.new (.blank 1) () 4).after ((Server.new (.blank 1) () 4).run confusion)

/-- The client asks for a context for the first time. -/
def askingFirst : Client := .asking 7 Opcode.makeContextCurrent [0, 6, 7, 5]

/-- The first reply to a client, with the tag one. -/
def firstTagReply : List UInt8 := [1, 0, 0, 0, 0, 0, 0, 0, 1] ++ List.replicate 23 0

/-- The tag of a context that was created again keeps its owner; and a vendor that hands back
another client leaves a tag that stands for nothing. -/
theorem recreated_context_keeps_owner :
    ((Server.new (.blank 2) () 4).Leads recreation recreated ∧
      ¬ recreated.OwnerAgrees askingAgain) ∧
    (Server.new (.blank 1) () 4).Leads confusion confused ∧ ¬ confused.OwnerAgrees askingFirst := by
  refine ⟨⟨.of_run (by decide +kernel), fun h => ?_⟩, .of_run (by decide +kernel), fun h => ?_⟩
  · -- the context was destroyed and created on the other screen, and the tag still answers
    have hres : (recreated.serve askingAgain).result =
        .ok ({ askingAgain with replies := [firstTagReply] }, .ok ()) := by
      decide +kernel
    have hlook : (recreated.serve askingAgain).server.ownership.lookupTag ⟨7⟩ 1 =
        some { tag := 1, owner := some ⟨0⟩, context := 5, drawable := 6, readDrawable := 7 } := by
      decide +kernel
    have hnow : recreated.environment.ownerOfXid recreated.session 5 = some ⟨1⟩ := by
      decide +kernel
    obtain ⟨tag, e, hreply, -, he, -, -, -, howner⟩ :=
      h ⟨1, 6, 7, 5⟩ _ (by decide +kernel) (by decide) hres
    obtain rfl : tag = 1 := Option.some_inj.mp (hreply.symm.trans (by decide +kernel))
    obtain rfl := Option.some_inj.mp (he.symm.trans hlook)
    rw [hnow] at howner
    cases howner
  · -- the vendor hands back another client, whose tag of that number is filled in
    have hres : (confused.serve askingFirst).result =
        .ok ({ askingFirst with id := ⟨8⟩, replies := [firstTagReply] }, .ok ()) := by
      decide +kernel
    have hlook : (confused.serve askingFirst).server.ownership.lookupTag ⟨7⟩ 1 =
        some { tag := 1, owner := some ⟨0⟩ } := by
      decide +kernel
    obtain ⟨tag, e, hreply, -, he, hctx, -⟩ :=
      h ⟨0, 6, 7, 5⟩ _ (by decide +kernel) (by decide) hres
    obtain rfl : tag = 1 := Option.some_inj.mp (hreply.symm.trans (by decide +kernel))
    obtain rfl := Option.some_inj.mp (he.symm.trans hlook)
    cases hctx

/-- In the history of a context that was created again, the old tag answers and its owner stays. -/
theorem makeCurrent_owner_recreated :
    (Server.new (.blank 2) () 4).Leads recreation recreated ∧
      (∀ op ∈ recreation, op.KeepsClient) ∧ (MakeCurrent.Switch.mk 1 6 7 5).context ≠ 0 ∧
      ∃ e, recreated.ownership.lookupTag ⟨7⟩ 1 = some e ∧ e.owner = some ⟨0⟩ ∧
        (Server.new (.blank 2) () 4).BoundDuring recreation ⟨7⟩ e := by
  have hlead : (Server.new (.blank 2) () 4).Leads recreation recreated :=
    .of_run (by decide +kernel)
  have hops : ∀ op ∈ recreation, op.KeepsClient := by
    intro op hop
    simp only [recreation, List.mem_cons, List.not_mem_nil, or_false] at hop
    rcases hop with rfl | rfl | rfl | rfl | rfl | rfl | rfl
    · exact VendorInterface.keepsClient_obliging 0 none
    · exact VendorInterface.keepsClient_obliging 1 none
    all_goals trivial
  have hres : (recreated.serve askingAgain).result =
      .ok ({ askingAgain with replies := [firstTagReply] }, .ok ()) := by
    decide +kernel
  have hlook : recreated.ownership.lookupTag ⟨7⟩ 1 =
      some { tag := 1, owner := some ⟨0⟩, context := 5, drawable := 6, readDrawable := 7 } := by
    decide +kernel
  obtain ⟨tag, e, -, -, -, -, -, -, -, hheld⟩ :=
    makeCurrent_owner hlead hops (q := ⟨1, 6, 7, 5⟩) (by decide +kernel) (by decide) hres
  obtain ⟨rfl, he, hbound⟩ := hheld ⟨_, hlook, by decide⟩
  obtain rfl := Option.some_inj.mp (he.symm.trans hlook)
  exact ⟨hlead, hops, by decide, _, hlook, rfl, hbound⟩

end VendorDispatch
