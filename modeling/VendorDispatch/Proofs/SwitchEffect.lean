import VendorDispatch.Proofs.Confinement
import VendorDispatch.Proofs.Inquiries
import VendorDispatch.Proofs.TagOwner

/-!
What a request to make a context current does to the tags of its client.

The old owner is asked to release its tag, and the new owner to bind under a new tag. Switching is
not atomic: if the old owner agrees and the new owner refuses, nothing is current.

* `Dialogue`: whom a switch asks, and for what.
* `Conclusion`: how the client is answered.
* `makeCurrent_concludes`: both, for every request to make a context current, and what the tags of
  the client are bound to then.
* `TagEffect`: what becomes of the tags of all clients (`Concludes.tagEffect`).
* `makeCurrent_effect`: the exact effect of the request.
-/

namespace VendorDispatch

variable {σ δ : Type}

/-! ### The whole switch -/

/-- Whom a switch asks. The owner of the old entry is asked to release it; then, if it agreed, the
new owner is asked to bind. -/
structure Dialogue (c : Client) (q : MakeCurrent.Switch) (g : ContextTag → Option (TagInfo δ))
    (old : Option (TagInfo δ)) (owner : Option VendorId) (release bind : Option (Inquiry δ)) :
    Prop where
  releases : ∀ a ∈ release, ∃ e, old = some e ∧ a.Releases c e
  binds : ∀ b ∈ bind, ∃ v, owner = some v ∧
    b.Binds (handedBack c release.toList) v q (release.toList.foldl Inquiry.settle g)
  released : ∀ b ∈ bind, ∀ e, old = some e → ∃ a ∈ release, a.accepted = true

/-- A switch that stops before the new owner is asked. -/
lemma Dialogue.of_releases {c : Client} {q : MakeCurrent.Switch}
    {g : ContextTag → Option (TagInfo δ)} {old : Option (TagInfo δ)} {owner : Option VendorId}
    {release : Option (Inquiry δ)} (h : ∀ a ∈ release, ∃ e, old = some e ∧ a.Releases c e) :
    Dialogue c q g old owner release none where
  releases := h
  binds := by rintro b ⟨⟩
  released := by rintro b ⟨⟩

/-- The request asks for what the old tag stands for already. -/
def MakeCurrent.Switch.IsUnchanged (q : MakeCurrent.Switch) (o : Ownership δ) (client : ClientId) :
    Prop :=
  q.context ≠ 0 ∧ q.IsHeld o client

/-- One reply of 32 bytes with the tag is written to the client, and nothing else happens to it. -/
structure Client.RepliedWith (c : Client) (tag : ContextTag) (d : Client) : Prop where
  reply : ∃ bytes : List UInt8, bytes.length = 32 ∧ d = c.writeReply bytes
  tag : d.replyTag? = some tag

/-- How a switch answers its client. If nothing changes, nobody is asked and the old tag answers.
Otherwise a success means that the old owner released the old tag and that the new owner bound the
context under the tag in the reply, as far as there is a tag to release and a context to bind. A
failure means that no binding was accepted, and then the router writes nothing. -/
structure Conclusion (o : Ownership δ) (c : Client) (q : MakeCurrent.Switch)
    (release bind : Option (Inquiry δ)) (d : Client) (r : Except ProtocolError Unit) : Prop where
  unchanged : q.IsUnchanged o c.id → release = none ∧ bind = none
  replied : r = .ok () → ∃ tag, (handedBack c (release.toList ++ bind.toList)).RepliedWith tag d ∧
    (tag = 0 ↔ q.context = 0) ∧ (q.IsUnchanged o c.id → tag = q.oldTag) ∧
      (¬ q.IsUnchanged o c.id → (q.oldTag ≠ 0 → ∃ a ∈ release, a.accepted = true) ∧
        (q.context ≠ 0 → ∃ b ∈ bind, b.accepted = true ∧ b.request.newTag = tag))
  failed : ∀ e, r = .error e → (∀ b ∈ bind, b.accepted = false) ∧
    ∃ v, d = { handedBack c (release.toList ++ bind.toList) with errorValue := v }

/-- The exchange after a switch, told by the session and the client at its start. -/
structure Exchange.Concludes (env : Environment σ δ) (s : Session σ δ) (c : Client)
    (q : MakeCurrent.Switch) (release bind : Option (Inquiry δ)) (r : Except ProtocolError Unit)
    (y : Exchange σ δ) : Prop where
  dialogue : Dialogue c q (s.ownership.bindings c.id) (s.ownership.lookupTag c.id q.oldTag)
    (q.newOwner env s) release bind
  conclusion : Conclusion s.ownership c q release bind y.client r
  session : y.session.Stands c.id
    ((release.toList ++ bind.toList).foldl Inquiry.settle (s.ownership.bindings c.id))
    (release.toList ++ bind.toList)

section Switching

variable {env : Environment σ δ} {c : Client} {g : ContextTag → Option (TagInfo δ)}
  {x : Exchange σ δ}

/-- Letting go of the old tag and binding anew. -/
lemma switchTo_reaches (hr : env.registry.KeepsClient) (hx : x.Reaches c g [])
    {old : Option (TagInfo δ)} (hold : ∀ e, old = some e → e.owner.isSome) (q : MakeCurrent.Switch)
    (owner : Option VendorId) :
    Ends (MakeCurrent.switchTo env q old owner) x
      (fun tag y => ∃ release bind, Dialogue c q g old owner release bind ∧
        (∀ e, old = some e → ∃ a ∈ release, a.accepted = true) ∧
        (owner = none → bind = none ∧ tag = 0) ∧
        (∀ v, owner = some v → ∃ b ∈ bind, b.accepted = true ∧ b.request.newTag = tag) ∧
          y.Reaches c g (release.toList ++ bind.toList))
      (OnError fun _ y => ∃ release bind, Dialogue c q g old owner release bind ∧
        (∀ b ∈ bind, b.accepted = false) ∧ y.Reaches c g (release.toList ++ bind.toList)) := by
  have hxc : x.client = c := hx.client
  -- Between the two vendors the old tag is free, or there was none.
  refine MakeCurrent.ends_switchTo (M := fun y => ∃ release : Option (Inquiry δ),
    (∀ a ∈ release, ∃ e, old = some e ∧ a.Releases c e) ∧
      (∀ e, old = some e → ∃ a ∈ release, a.accepted = true) ∧ y.Reaches c g release.toList) ?_ ?_
    ?_ ?_
  · rintro rfl
    exact ⟨none, by rintro a ⟨⟩, by rintro e ⟨⟩, hx⟩
  · rintro e rfl
    obtain ⟨v, hv⟩ := Option.isSome_iff_exists.mp (hold e rfl)
    refine (release_reaches hr hx hv).mono ?_ ?_
    · rintro _ y ⟨a, ha, haccepted, hy⟩
      refine ⟨some a, ?_, fun _ _ => ⟨a, rfl, haccepted⟩, hy⟩
      rintro b ⟨⟩
      exact ⟨e, rfl, hxc ▸ ha⟩
    · rintro (e' | a) y hy
      · obtain ⟨release, hrelease, hy⟩ := hy
        refine ⟨release, none, .of_releases fun a ha => ⟨e, rfl, hxc ▸ (hrelease a ha).1⟩,
          by rintro b ⟨⟩, ?_⟩
        rw [Option.toList_none, List.append_nil]
        exact hy
      · trivial
  · rintro rfl y ⟨release, hrelease, haccepted, hy⟩
    refine ⟨release, none, .of_releases hrelease, haccepted, fun _ => ⟨rfl, rfl⟩,
      by rintro v ⟨⟩, ?_⟩
    rw [Option.toList_none, List.append_nil]
    exact hy
  · rintro v rfl y ⟨release, hrelease, haccepted, hy⟩
    have hyc := hy.client
    refine (bind_reaches hr hy v q).mono ?_ ?_
    · rintro tag z ⟨b, hb, htag, hbaccepted, hz⟩
      rw [hyc] at hb
      refine ⟨release, some b, ⟨hrelease, ?_, fun _ _ => haccepted⟩, haccepted, by rintro ⟨⟩,
        fun _ _ => ⟨b, rfl, hbaccepted, htag⟩, hz⟩
      rintro b ⟨⟩
      exact ⟨v, rfl, hb⟩
    · rintro (e | a) z hz
      · obtain ⟨bind, hbind, hz⟩ := hz
        rw [hyc] at hbind
        exact ⟨release, bind, ⟨hrelease, fun b hb => ⟨v, rfl, (hbind b hb).1⟩,
          fun _ _ => haccepted⟩, fun b hb => (hbind b hb).2, hz⟩
      · trivial

/-- A switch that fails before anybody is asked. -/
lemma Exchange.concludes_declined {s : Session σ δ} (q : MakeCurrent.Switch)
    (hs : s.Stands x.client.id (x.session.ownership.bindings x.client.id) []) (v : UInt32)
    (e : ProtocolError) :
    ((x.withSession s).withClient { x.client with errorValue := v }).Concludes env x.session x.client
      q none none (.error e) where
  dialogue := .of_releases (by rintro a ⟨⟩)
  conclusion := ⟨fun _ => ⟨rfl, rfl⟩, by rintro ⟨⟩, fun _ _ => ⟨by rintro b ⟨⟩, v, rfl⟩⟩
  session := hs

lemma Client.repliedWith_of_put? {tag : ContextTag} {r : Reply}
    (h : (Reply.header c).put? 8 tag = some r) : c.RepliedWith tag (c.writeReply r.bytes) where
  reply := ⟨r.bytes, (Reply.length_put? h).trans (Reply.length_header c), rfl⟩
  tag := replyTag?_writeReply h

/-- Whom a request to make a context current asks, how it is answered, and what the tags of the
client are bound to then. -/
lemma makeCurrent_concludes (hr : env.registry.KeepsClient)
    (hnum : x.session.ownership.Numbered) (hasked : x.session.inquiries = [])
    {encoding : MakeCurrent.Encoding} {q : MakeCurrent.Switch}
    (hq : MakeCurrent.decode x.client encoding = .ok q) :
    Ends (MakeCurrent.serve env encoding) x
      (fun _ y => ∃ release bind, y.Concludes env x.session x.client q release bind (.ok ()))
      (OnError fun e y => ∃ release bind,
        y.Concludes env x.session x.client q release bind (.error e)) := by
  have hstart : x.session.Stands x.client.id (x.session.ownership.bindings x.client.id) [] :=
    ⟨hnum, rfl, hasked⟩
  have hsought := q.upheld_sought (kept_stands env _ _ _).upheld hstart
  have hx : (x.withSession (q.sought x.session)).Reaches x.client
      (x.session.ownership.bindings x.client.id) [] := ⟨rfl, rfl, hsought⟩
  rw [MakeCurrent.serve, ends_bind, MakeCurrent.ends_read, hq]
  refine MakeCurrent.ends_switch rfl
    (fun _ _ => ⟨none, none, x.concludes_declined q hstart q.oldTag _⟩)
    (fun _ _ => ⟨none, none, x.concludes_declined q hsought q.context _⟩) ?_ ?_
  · -- the old tag answers
    intro e v he hv hheld
    have hcontext : q.context ≠ 0 := MakeCurrent.Switch.context_ne_zero hv
    have htag : e.tag = q.oldTag := hnum.tag_of_lookupTag he
    have hunchanged : q.IsUnchanged x.session.ownership x.client.id := ⟨hcontext, e, he, hheld⟩
    refine MakeCurrent.ends_replyTag fun r hput => ⟨none, none, ?_, ⟨fun _ => ⟨rfl, rfl⟩, ?_, ?_⟩,
      hsought⟩
    · exact .of_releases (by rintro a ⟨⟩)
    · intro _
      refine ⟨e.tag, Client.repliedWith_of_put? hput, ⟨fun h0 => ?_, fun h0 => (hcontext h0).elim⟩,
        fun _ => htag, fun h => (h hunchanged).elim⟩
      rw [← htag, h0, Ownership.lookupTag_zero] at he
      cases he
    · rintro e ⟨⟩
  · -- a vendor is asked
    intro hnone hfound hnot
    have hchanged : ¬ q.IsUnchanged x.session.ownership x.client.id := by
      rintro ⟨hc, e, he, hheld⟩
      rw [hnot e he hc] at hheld
      cases hheld
    refine (switchTo_reaches hr hx (fun _ => Ownership.isSome_owner_of_lookupTag) q
      (q.newOwner env x.session)).mono ?_ ?_
    · rintro tag y ⟨release, bind, hd, hreleased, hunbound, hbound, hy⟩
      -- a binding that the new owner accepted is the tag of the reply
      have hbind : q.context ≠ 0 → ∃ b ∈ bind, b.accepted = true ∧ b.request.newTag = tag := by
        intro hc
        obtain ⟨v, hv⟩ := hfound hc
        exact hbound v ((MakeCurrent.Switch.newOwner_of_ne_zero hc x.session).trans hv)
      refine MakeCurrent.ends_replyTag fun r hput => ⟨release, bind, hd,
        ⟨fun h => (hchanged h).elim, fun _ => ⟨tag, ?_, ⟨?_, ?_⟩, fun h => (hchanged h).elim,
          fun _ => ⟨?_, hbind⟩⟩, by rintro e ⟨⟩⟩, hy.session⟩
      · rw [← hy.client]
        exact Client.repliedWith_of_put? hput
      · intro h0
        by_contra hc
        obtain ⟨b, hb, -, htag⟩ := hbind hc
        obtain ⟨v, -, hbinds⟩ := hd.binds b hb
        -- a tag that was given out is not zero
        exact hbinds.ne_zero (htag.trans h0)
      · intro hc
        exact (hunbound (MakeCurrent.Switch.newOwner_of_eq_zero hc x.session)).2
      · intro h0
        cases he : x.session.ownership.lookupTag x.client.id q.oldTag with
        | none => exact (h0 (hnone he)).elim
        | some e => exact hreleased e he
    · -- one of the two owners refuses, or a vendor breaks off
      rintro (e | a) y hy
      · obtain ⟨release, bind, hd, hrefused, hy⟩ := hy
        exact ⟨release, bind, hd, ⟨fun h => (hchanged h).elim, by rintro ⟨⟩,
          fun _ _ => ⟨hrefused, y.client.errorValue, by rw [← hy.client]⟩⟩, hy.session⟩
      · trivial

end Switching

/-! ### The effect on the tags -/

/-- What a switch does to the tags of its client and of all others. -/
structure TagEffect (client : ClientId) (q : MakeCurrent.Switch) (release bind : Option (Inquiry δ))
    (o u : Ownership δ) : Prop where
  live : ∀ tag, (u.lookupTag client tag).isSome ↔
    (o.lookupTag client tag).isSome ∧ ¬ (tag = q.oldTag ∧ ∃ a ∈ release, a.accepted = true) ∨
      ∃ b ∈ bind, b.accepted = true ∧ b.request.newTag = tag
  bound : ∀ b ∈ bind, b.accepted = true → ∃ data,
    u.lookupTag client b.request.newTag = some { b.entry with data }
  kept : ∀ tag d e, o.lookupTag client tag = some d → u.lookupTag client tag = some e →
    ¬ (∃ b ∈ bind, b.accepted = true ∧ b.request.newTag = tag) →
      e.owner = d.owner ∧ e.context = d.context ∧ e.drawable = d.drawable ∧
        e.readDrawable = d.readDrawable
  others : ∀ d, d ≠ client → u.tagsOf? d = o.tagsOf? d

namespace Dialogue

variable {c : Client} {q : MakeCurrent.Switch} {g : ContextTag → Option (TagInfo δ)}
  {old : Option (TagInfo δ)} {owner : Option VendorId} {release bind : Option (Inquiry δ)}

/-- The bindings after the old tag was released, or was not. -/
lemma settle_release (h : Dialogue c q g old owner release bind)
    (htag : ∀ e, old = some e → e.tag = q.oldTag) (tag : ContextTag) :
    release.toList.foldl Inquiry.settle g tag =
      if tag = q.oldTag ∧ release.any Inquiry.accepted = true then none else g tag := by
  cases release with
  | none => simp
  | some a =>
      obtain ⟨e, he, ha⟩ := h.releases a rfl
      have hold : a.request.oldTag = q.oldTag := by
        rw [ha.request]
        exact htag e he
      have hnew : a.request.newTag = 0 := by
        rw [ha.request]
        rfl
      rw [Option.toList_some, List.foldl_cons, List.foldl_nil]
      cases haccepted : a.accepted with
      | true => simp [Inquiry.settle_of_release haccepted hnew, hold, haccepted]
      | false => simp [Inquiry.settle_of_refused haccepted, haccepted]

/-- The bindings after the whole switch, of the new tag. -/
lemma settle_bind (h : Dialogue c q g old owner release bind) {b : Inquiry δ} (hb : b ∈ bind)
    (haccepted : b.accepted = true) :
    (release.toList ++ bind.toList).foldl Inquiry.settle g b.request.newTag = some b.entry := by
  obtain rfl : bind = some b := hb
  obtain ⟨v, -, hbinds⟩ := h.binds b rfl
  rw [Option.toList_some, List.foldl_concat, Inquiry.settle_of_bind haccepted hbinds.ne_zero]
  exact if_pos rfl

/-- The bindings after the whole switch, of all other tags. -/
lemma settle_other (h : Dialogue c q g old owner release bind) {tag : ContextTag}
    (hother : ¬ ∃ b ∈ bind, b.accepted = true ∧ b.request.newTag = tag) :
    (release.toList ++ bind.toList).foldl Inquiry.settle g tag =
      release.toList.foldl Inquiry.settle g tag := by
  cases bind with
  | none => rw [Option.toList_none, List.append_nil]
  | some b =>
      rw [Option.toList_some, List.foldl_concat]
      cases haccepted : b.accepted with
      | true =>
          obtain ⟨v, -, hbinds⟩ := h.binds b rfl
          rw [Inquiry.settle_of_bind haccepted hbinds.ne_zero]
          exact if_neg fun htag => hother ⟨b, rfl, haccepted, htag.symm⟩
      | false => rw [Inquiry.settle_of_refused haccepted]

end Dialogue

/-- What the answers do to the bindings, told of the tags. -/
lemma Exchange.Concludes.tagEffect {env : Environment σ δ} {s : Session σ δ} {c : Client}
    {q : MakeCurrent.Switch} {release bind : Option (Inquiry δ)} {r : Except ProtocolError Unit}
    {y : Exchange σ δ} (h : y.Concludes env s c q release bind r) (hnum : s.ownership.Numbered)
    (hothers : y.session.Elsewhere c.id s.ownership) :
    TagEffect c.id q release bind s.ownership y.session.ownership := by
  have hbindings := congrFun h.session.bindings
  have hsettled := h.dialogue.settle_release fun e he => hnum.tag_of_lookupTag he
  have hreleased : release.any Inquiry.accepted = true ↔ ∃ a ∈ release, a.accepted = true := by
    cases release <;> simp
  refine ⟨fun tag => ?_, fun b hb haccepted => ?_, fun tag d e hd he hnew => ?_, hothers⟩
  · rw [← Ownership.isSome_bindings, hbindings, ← Ownership.isSome_bindings]
    -- a tag lives if it was bound now, or lived before and was not released
    by_cases hnew : ∃ b ∈ bind, b.accepted = true ∧ b.request.newTag = tag
    · obtain ⟨b, hb, haccepted, rfl⟩ := hnew
      rw [h.dialogue.settle_bind hb haccepted]
      exact ⟨fun _ => .inr ⟨b, hb, haccepted, rfl⟩, fun _ => rfl⟩
    · rw [h.dialogue.settle_other hnew, hsettled, ← hreleased]
      by_cases hgone : tag = q.oldTag ∧ release.any Inquiry.accepted = true
      · rw [if_pos hgone]
        constructor
        · rintro ⟨⟩
        · exact fun hl => (hl.elim (fun hold => hold.2 hgone) hnew).elim
      · rw [if_neg hgone]
        exact ⟨fun hl => .inl ⟨hl, hgone⟩, fun hl => (hl.resolve_right hnew).1⟩
  · -- the new entry stands for what was asked; only its data is the vendor's
    have hentry := hbindings b.request.newTag
    rw [h.dialogue.settle_bind hb haccepted, Ownership.bindings] at hentry
    obtain ⟨e, he, hbinding⟩ := Option.map_eq_some_iff.mp hentry
    refine ⟨e.data, ?_⟩
    rw [he, ← hbinding]
    rfl
  · -- an entry that was not touched keeps what it stands for
    have hsame := hbindings tag
    rw [h.dialogue.settle_other hnew, hsettled] at hsame
    split_ifs at hsame
    · rw [Ownership.bindings, he] at hsame
      cases hsame
    · exact Ownership.same_of_bindings hsame hd he

/-! ### Requests -/

section Requests

variable {s : Server σ δ} {c : Client} {encoding : MakeCurrent.Encoding}

/-- A request that is too short is answered by an error, and nothing happens. -/
lemma Server.Sound.serve_of_short (hs : s.Sound) (henc : c.makeCurrentEncoding? = some encoding)
    (hshort : c.switch? = none) :
    (s.serve c).Leaves (fun r t => (∃ e, r.2 = .error e) ∧ r.1 = c ∧ t = s.session)
      fun _ _ => True := by
  by_cases he : s.extension = none
  · rw [Server.serve, he]
    exact ⟨⟨_, rfl⟩, rfl, rfl⟩
  · refine hs.serve_leaves_of_makeCurrentEncoding? he henc ?_
    rw [MakeCurrent.serve, ends_bind, MakeCurrent.ends_read]
    dsimp only
    cases hq : MakeCurrent.decode c encoding with
    | error e => exact ⟨⟨e, rfl⟩, rfl, rfl⟩
    | ok q =>
        rw [Client.switch?, henc, Option.bind_some, hq] at hshort
        cases hshort

/-- Whom a request asks that is long enough, how it is answered, and what it leaves. -/
lemma Server.Sound.serve_concludes (hs : s.Sound) (hr : s.registry.KeepsClient)
    (ha : s.registry.ActsForClient) {q : MakeCurrent.Switch} (hq : c.switch? = some q) :
    (s.serve c).Leaves
      (fun r t => ∃ release bind,
        (Exchange.mk r.1 t).Concludes s.environment s.session c q release bind r.2 ∧
          t.Elsewhere c.id s.ownership)
      fun _ _ => True := by
  obtain ⟨encoding, henc, hdecode⟩ := Client.exists_of_switch? hq
  let x : Exchange σ δ := ⟨c, s.session⟩
  by_cases he : s.extension = none
  · rw [Server.serve, he]
    have hstart : s.session.Stands c.id (s.ownership.bindings c.id) [] :=
      ⟨hs.ownership.tags, rfl, rfl⟩
    exact ⟨none, none, x.concludes_declined q hstart c.errorValue _, fun _ _ => rfl⟩
  · have hr' : s.environment.registry.KeepsClient := hr
    have hconcludes := makeCurrent_concludes (x := x) hr' hs.ownership.tags rfl hdecode
    have hconfined := makeCurrent_elsewhere (o := s.ownership) hr' ha encoding x ⟨rfl, fun _ _ => rfl⟩
    refine hs.serve_leaves_of_makeCurrentEncoding? he henc ((hconcludes.and hconfined).mono ?_ ?_)
    · rintro _ y ⟨⟨release, bind, hy⟩, hothers⟩
      exact ⟨release, bind, hy, hothers.elsewhere⟩
    · rintro (e | a) y ⟨hy, hothers⟩
      · obtain ⟨release, bind, hy⟩ := hy
        exact ⟨release, bind, hy, hothers.elsewhere⟩
      · trivial

/-- The exact effect of a request to make a context current, among vendors that leave the id of their
client alone and act for nobody else. Too short a request fails and changes nothing. Otherwise at
most two vendors are asked, one to release the old tag and one to bind, and what they answer decides
how the request is answered and what becomes of the tags: the old tag is gone if its owner agreed,
the new tag is live if its owner agreed, and all other tags, of this client and of others, stay as
they are. -/
theorem makeCurrent_effect (hs : s.Reachable) (hr : s.registry.KeepsClient)
    (ha : s.registry.ActsForClient) (henc : c.makeCurrentEncoding? = some encoding) {d : Client}
    {r : Except ProtocolError Unit} (hres : (s.serve c).result = .ok (d, r)) :
    (c.switch? = none → (∃ e, r = .error e) ∧ d = c ∧ (s.serve c).journal = [] ∧
      (s.serve c).server.ownership = s.ownership) ∧
    ∀ q, c.switch? = some q → ∃ release bind,
      inquiries (s.serve c).journal = release.toList ++ bind.toList ∧
      Dialogue c q (s.ownership.bindings c.id) (s.ownership.lookupTag c.id q.oldTag)
        (q.newOwner s.environment s.session) release bind ∧
      Conclusion s.ownership c q release bind d r ∧
      TagEffect c.id q release bind s.ownership (s.serve c).server.ownership := by
  have hsound := hs.sound
  refine ⟨fun hshort => ?_, fun q hq => ?_⟩
  · have hleaves := hsound.serve_of_short henc hshort
    rw [Step.Leaves, hres] at hleaves
    obtain ⟨hfails, hsame, hsession⟩ := hleaves
    refine ⟨hfails, hsame, List.reverse_eq_nil_iff.mp (congrArg Session.journal hsession),
      congrArg Session.ownership hsession⟩
  · have hleaves := hsound.serve_concludes hr ha hq
    rw [Step.Leaves, hres] at hleaves
    obtain ⟨release, bind, hconcludes, hothers⟩ := hleaves
    refine ⟨release, bind, ?_, hconcludes.dialogue, hconcludes.conclusion,
      hconcludes.tagEffect hsound.ownership.tags hothers⟩
    rw [← hconcludes.session.inquiries, Session.inquiries, Step.session, List.reverse_reverse]

end Requests

/-! ### A binding that is refused -/

/-- A vendor that stores data on the tag under which it is asked to bind, and then refuses. -/
def VendorInterface.refusing (vendor : VendorId) (screen : Nat) : VendorInterface Unit Nat :=
  { obliging screen none with
    makeCurrent := some fun c q =>
      .call (.setTagData c.id q.newTag vendor (some 9)) fun _ => .done (c, .error .badMatch) }

/-- Two clients bind a context of one vendor, and there is a context of a vendor that refuses. -/
def refusal : List (Operation Unit Nat) :=
  [.createVendor (.obliging 0 (some 42)), .createVendor (.refusing ⟨1⟩ 1), .beginGeneration .sample,
    .serve (.asking 7 Opcode.createContext [5, 33, 0, 0, 1]),
    .serve (.asking 7 Opcode.createContext [6, 33, 1, 0, 1]),
    .serve (.asking 7 Opcode.makeContextCurrent [0, 6, 7, 5]),
    .serve (.asking 8 Opcode.makeContextCurrent [0, 6, 7, 5])]

/-- The router before the switch that is refused. -/
def refused : Server Unit Nat :=
  (Server.new (.blank 2) () 4).after ((Server.new (.blank 2) () 4).run refusal)

/-- The client asks to switch to the context of the vendor that refuses. -/
def askingRefused : Client := .asking 7 Opcode.makeContextCurrent [1, 6, 7, 6]

/-- The old owner releases its tag and the new owner refuses: nothing is current for the client, and
what is current for the other client stays. -/
theorem makeCurrent_effect_refused :
    refused.Reachable ∧ refused.registry.KeepsClient ∧ refused.registry.ActsForClient ∧
      (refused.serve askingRefused).result = .ok (askingRefused, .error .badMatch) ∧
      (refused.ownership.lookupTag ⟨7⟩ 1).isSome ∧ (refused.ownership.lookupTag ⟨8⟩ 1).isSome ∧
      ∃ a b, inquiries (refused.serve askingRefused).journal = [a, b] ∧ a.accepted = true ∧
        b.accepted = false ∧ b.request.newTag = 1 ∧
        TagEffect ⟨7⟩ ⟨1, 6, 7, 6⟩ (some a) (some b) refused.ownership
          (refused.serve askingRefused).server.ownership := by
  have hlead : (Server.new (.blank 2) () 4).Leads refusal refused := .of_run (by decide +kernel)
  have hreach : refused.Reachable := hlead.reachable (.new _ _ _)
  have hvendors : refused.registry.Every fun i => i.KeepsClient ∧ i.ActsForClient := by
    refine hlead.every Registry.every_empty fun i hi => ?_
    simp only [refusal, List.mem_cons, Operation.createVendor.injEq, reduceCtorEq, or_false,
      List.not_mem_nil] at hi
    rcases hi with rfl | rfl
    · exact ⟨VendorInterface.keepsClient_obliging 0 (some 42),
        VendorInterface.actsForClient_obliging 0 (some 42)⟩
    · refine ⟨⟨?_, ?_⟩, ?_, ?_⟩
      · exact (VendorInterface.keepsClient_obliging 1 none).handleRequest
      · rintro handler ⟨⟩ c q answer
        rfl
      · exact (VendorInterface.actsForClient_obliging 1 none).handleRequest
      · rintro handler ⟨⟩ c q
        exact ⟨rfl, fun _ => trivial⟩
  -- the vendors keep to their client
  have hkeeps : refused.registry.KeepsClient := fun v i hi => (hvendors v i hi).1
  have hacts : refused.registry.ActsForClient := fun v i hi => (hvendors v i hi).2
  have henc : askingRefused.makeCurrentEncoding? = some .twoDrawables := by decide +kernel
  have hq : askingRefused.switch? = some ⟨1, 6, 7, 6⟩ := by decide +kernel
  have hres : (refused.serve askingRefused).result = .ok (askingRefused, .error .badMatch) := by
    decide +kernel
  have hasked : (inquiries (refused.serve askingRefused).journal).map
      (fun a => (a.accepted, a.request.newTag)) = [(true, 0), (false, 1)] := by decide +kernel
  obtain ⟨release, bind, hinquiries, -, -, heffect⟩ :=
    (makeCurrent_effect hreach hkeeps hacts henc hres).2 _ hq
  -- two inquiries are made, so there is a release and a binding
  rw [hinquiries] at hasked
  cases release with
  | none => cases bind <;> simp at hasked
  | some a =>
      cases bind with
      | none => simp at hasked
      | some b =>
          simp only [Option.toList_some, List.singleton_append, List.map_cons, List.map_nil,
            List.cons.injEq, Prod.mk.injEq, and_true] at hasked
          obtain ⟨⟨ha, -⟩, hb, htag⟩ := hasked
          exact ⟨hreach, hkeeps, hacts, hres, by decide +kernel, by decide +kernel, a, b, hinquiries,
            ha, hb, htag, heffect⟩

end VendorDispatch
