import Mathlib.Data.List.Basic
import VendorDispatch.Proofs.Switching

/-!
What vendors are asked in the course of a switch, and what their answers do.

A vendor that is asked to bind or to release may refuse. What the tags of the client are bound to
afterwards follows from the answers alone, and the answers stand in the journal.

* `Inquiry`, `inquiries`: what the vendors were asked and what they answered.
* `Ownership.bindings`, `Inquiry.settle`: what the tags of a client are bound to, and what an answer
  does to that.
* `Session.Stands`: the bindings and the inquiries so far. No vendor can upset them (`kept_stands`).
* `Exchange.Reaches`: the exchange after some inquiries. Releasing and binding add one inquiry each
  (`release_reaches`, `bind_reaches`).
-/

namespace VendorDispatch

variable {σ δ : Type}

/-! ### Inquiries -/

/-- A vendor was asked to bind or to release, and answered. -/
structure Inquiry (δ : Type) where
  /-- The vendor. -/
  vendor : VendorId
  /-- The client, as the vendor was given it. -/
  client : Client
  /-- What the vendor was asked. -/
  request : MakeCurrentRequest δ
  /-- The client, as the vendor handed it back. -/
  handedBack : Client
  /-- What the vendor answered. -/
  answer : Except ProtocolError (Option δ)

/-- Whether the vendor agreed. -/
def Inquiry.accepted (a : Inquiry δ) : Bool := a.answer.toBool

/-- The inquiry that an event ends. -/
def Event.inquiry? : Event δ → Option (Inquiry δ)
  | .returned v (.makeCurrent c q) (d, r) => some ⟨v, c, q, d, r⟩
  | _ => none

/-- The inquiries of a journal, in order. -/
def inquiries (journal : List (Event δ)) : List (Inquiry δ) := journal.filterMap Event.inquiry?

/-- The client as it was handed back last, by whoever was asked. -/
def handedBack (c : Client) (asked : List (Inquiry δ)) : Client :=
  (asked.getLast?.map Inquiry.handedBack).getD c

@[simp] lemma handedBack_concat (c : Client) (asked : List (Inquiry δ)) (a : Inquiry δ) :
    handedBack c (asked ++ [a]) = a.handedBack := by
  rw [handedBack, List.getLast?_concat, Option.map_some, Option.getD_some]

/-- No vendor can ask another one to bind or to release. -/
lemma Environment.Enters.inquiry? {env : Environment σ δ} {e : Event δ} (h : env.Enters e) :
    e.inquiry? = none := by
  rcases h with h | ⟨request, answer, rfl⟩
  · cases e with
    | returned v callback answer =>
        cases callback with
        | makeCurrent c q => exact h.elim
        | _ => rfl
    | _ => rfl
  · rfl

/-! ### Bindings -/

/-- What stands behind a tag, apart from the private data. -/
def TagInfo.binding (e : TagInfo δ) : TagInfo δ := { e with data := none }

/-- What the live tags of a client are bound to. -/
def Ownership.bindings (o : Ownership δ) (client : ClientId) (tag : ContextTag) :
    Option (TagInfo δ) :=
  (o.lookupTag client tag).map TagInfo.binding

lemma Ownership.isSome_bindings (o : Ownership δ) (client : ClientId) (tag : ContextTag) :
    (o.bindings client tag).isSome = (o.lookupTag client tag).isSome :=
  Option.isSome_map

/-- Tags whose bindings agree differ by nothing but the private data. -/
lemma Ownership.same_of_bindings {o u : Ownership δ} {client : ClientId} {tag : ContextTag}
    (h : u.bindings client tag = o.bindings client tag) {d e : TagInfo δ}
    (hd : o.lookupTag client tag = some d) (he : u.lookupTag client tag = some e) :
    e.owner = d.owner ∧ e.context = d.context ∧ e.drawable = d.drawable ∧
      e.readDrawable = d.readDrawable := by
  rw [bindings, bindings, hd, he, Option.map_some, Option.map_some, Option.some_inj] at h
  obtain ⟨-, howner, -, hcontext, hdrawable, hread⟩ := TagInfo.mk.inj h
  exact ⟨howner, hcontext, hdrawable, hread⟩

/-- The entry of a tag after the vendor agreed to bind under it. -/
def Inquiry.entry (a : Inquiry δ) : TagInfo δ where
  tag := a.request.newTag
  owner := some a.vendor
  context := a.request.context
  drawable := a.request.drawable
  readDrawable := a.request.readDrawable

/-- What an answer does to the bindings of the client's tags. A request without a new tag asks to
release. -/
def Inquiry.settle (g : ContextTag → Option (TagInfo δ)) (a : Inquiry δ) (tag : ContextTag) :
    Option (TagInfo δ) :=
  if a.accepted then
    if a.request.newTag = 0 then
      if tag = a.request.oldTag then none else g tag
    else
      if tag = a.request.newTag then some a.entry else g tag
  else
    g tag

section Settle

variable {g : ContextTag → Option (TagInfo δ)} {a : Inquiry δ}

lemma Inquiry.settle_of_refused (h : a.accepted = false) : settle g a = g := by
  funext tag
  rw [settle, h]
  rfl

lemma Inquiry.settle_of_release (h : a.accepted = true) (h0 : a.request.newTag = 0) :
    settle g a = fun tag => if tag = a.request.oldTag then none else g tag := by
  funext tag
  rw [settle, if_pos h, if_pos h0]

lemma Inquiry.settle_of_bind (h : a.accepted = true) (h0 : a.request.newTag ≠ 0) :
    settle g a = fun tag => if tag = a.request.newTag then some a.entry else g tag := by
  funext tag
  rw [settle, if_pos h, if_neg h0]

end Settle

/-! ### Sessions -/

/-- The inquiries so far. -/
def Session.inquiries (s : Session σ δ) : List (Inquiry δ) :=
  VendorDispatch.inquiries s.journal.reverse

lemma Session.inquiries_enter (s : Session σ δ) (e : Event δ) :
    (s.enter e).inquiries = s.inquiries ++ e.inquiry?.toList := by
  rw [inquiries, inquiries, VendorDispatch.inquiries, VendorDispatch.inquiries, journal_enter,
    List.reverse_cons, List.filterMap_append]
  cases h : e.inquiry? <;> simp [h]

/-- The tables are in order, the tags of the client are bound as `g` tells, and these are the
inquiries so far. -/
structure Session.Stands (client : ClientId) (g : ContextTag → Option (TagInfo δ))
    (asked : List (Inquiry δ)) (s : Session σ δ) : Prop where
  numbered : s.ownership.Numbered
  bindings : s.ownership.bindings client = g
  inquiries : s.inquiries = asked

section Stands

variable {client : ClientId} {g : ContextTag → Option (TagInfo δ)} {asked : List (Inquiry δ)}
  {s : Session σ δ}

/-- No vendor can upset the bindings of a tag, nor ask another vendor. -/
lemma kept_stands (env : Environment σ δ) (client : ClientId)
    (g : ContextTag → Option (TagInfo δ)) (asked : List (Inquiry δ)) :
    env.Kept (Session.Stands client g asked) := by
  have hbindings := kept_lookups env
    (P := fun f => (fun tag => (f client tag).map TagInfo.binding) = g) ?_
  · have hasked := env.kept_journal (P := fun journal => inquiries journal.reverse = asked) ?_
    · refine (((kept_numbered env).and hbindings).and hasked).congr fun s => ?_
      exact ⟨fun h => ⟨h.1.1, h.1.2, h.2⟩, fun h => ⟨⟨h.numbered, h.bindings⟩, h.inquiries⟩⟩
    · intro e journal he hj
      rw [inquiries, List.reverse_cons, List.filterMap_append, List.filterMap_cons, he.inquiry?,
        List.filterMap_nil, List.append_nil]
      exact hj
  · intro f d b data hf
    rw [← hf]
    funext tag
    dsimp only
    split_ifs
    · rw [Option.map_map]
      rfl
    · rfl

/-- An event that ends no inquiry. -/
lemma Session.Stands.enter (h : s.Stands client g asked) {e : Event δ} (he : e.inquiry? = none) :
    (s.enter e).Stands client g asked where
  numbered := h.numbered
  bindings := h.bindings
  inquiries := by
    rw [Session.inquiries_enter, he, h.inquiries]
    exact List.append_nil asked

/-- A vendor answers. -/
lemma Session.Stands.answered (h : s.Stands client g asked) (v : VendorId) (c d : Client)
    (q : MakeCurrentRequest δ) (r : Except ProtocolError (Option δ)) :
    (s.enter (.returned v (.makeCurrent c q) (d, r))).Stands client g
      (asked ++ [⟨v, c, q, d, r⟩]) where
  numbered := h.numbered
  bindings := h.bindings
  inquiries := by
    rw [Session.inquiries_enter, h.inquiries]
    rfl

/-- A tag is free again. -/
lemma Session.Stands.free (h : s.Stands client g asked) (tag : ContextTag) :
    (s.withOwnership (s.ownership.modifyTags client fun t => t.free tag)).Stands client
      (fun b => if b = tag then none else g b) asked where
  numbered := h.numbered.modifyTags fun _ ht => ht.free _
  bindings := by
    funext b
    rw [← h.bindings, Session.ownership_withOwnership, Ownership.bindings, Ownership.lookupTag_free,
      Ownership.bindings]
    by_cases hb : b = tag <;> simp [hb]
  inquiries := h.inquiries

/-- A new tag is claimed, which was bound to nothing. -/
lemma Session.Stands.claim (h : s.Stands client g asked) {v : VendorId} {tag : ContextTag}
    {o : Ownership δ} (ho : s.ownership.allocateTag? client v = some (tag, o)) :
    tag ≠ 0 ∧ g tag = none ∧ (s.withOwnership o).Stands client
      (fun b => if b = tag then some (.claimed tag v) else g b) asked := by
  have hlook := h.numbered.lookupTag_allocateTag? ho
  have hfresh := h.numbered.fresh_of_allocateTag? ho
  refine ⟨hfresh.1, ?_, h.numbered.allocateTag? ho, ?_, h.inquiries⟩
  · rw [← h.bindings, Ownership.bindings, hfresh.2, Option.map_none]
  · funext b
    rw [← h.bindings, Session.ownership_withOwnership, Ownership.bindings, hlook,
      Ownership.bindings]
    by_cases hb : b = tag
    · simp [hb, TagInfo.binding, TagInfo.claimed]
    · simp [hb]

/-- A tag that was bound to nothing is free again. -/
lemma Session.Stands.unclaim {tag : ContextTag} {e : TagInfo δ} (hg : g tag = none)
    (h : s.Stands client (fun b => if b = tag then some e else g b) asked) :
    (s.withOwnership (s.ownership.modifyTags client fun t => t.free tag)).Stands client g
      asked := by
  have hsame : (fun b => if b = tag then none else if b = tag then some e else g b) = g := by
    funext b
    split_ifs with hb
    · rw [hb, hg]
    · rfl
  have hfree := h.free tag
  rw [hsame] at hfree
  exact hfree

/-- What a request asks for is stored on the tag that was claimed for it. -/
lemma Session.Stands.bound {tag : ContextTag} {v : VendorId}
    (h : s.Stands client (fun b => if b = tag then some (.claimed tag v) else g b) asked)
    (q : MakeCurrent.Switch) (data : Option δ) :
    (s.withOwnership (s.ownership.modifyTags client fun t => t.modify tag (q.bound data))).Stands
      client (fun b => if b = tag then some (q.bound none (.claimed tag v)) else g b) asked where
  numbered := h.numbered.modifyTags fun _ ht => ht.modify _ fun _ => rfl
  bindings := by
    funext b
    have hb := congrFun h.bindings b
    rw [Ownership.bindings] at hb
    rw [Session.ownership_withOwnership, Ownership.bindings,
      Ownership.lookupTag_modify _ _ _ _ _ (f := q.bound data) fun _ => rfl]
    by_cases htag : b = tag
    · rw [if_pos htag] at hb
      obtain ⟨e, he, hbinding⟩ := Option.map_eq_some_iff.mp hb
      rw [if_pos ⟨rfl, htag⟩, if_pos htag, he, Option.map_some, Option.map_some, ← hbinding]
      rfl
    · rw [if_neg htag] at hb
      rw [if_neg fun hn => htag hn.2, if_neg htag, hb]
  inquiries := h.inquiries

end Stands

/-! ### Exchanges -/

/-- The exchange with a client after some inquiries. What the client's tags are bound to follows from
the bindings at the start and the answers, and the client is as it was handed back last. -/
structure Exchange.Reaches (c : Client) (g : ContextTag → Option (TagInfo δ))
    (asked : List (Inquiry δ)) (y : Exchange σ δ) : Prop where
  id : y.client.id = c.id
  client : y.client = handedBack c asked
  session : y.session.Stands c.id (asked.foldl Inquiry.settle g) asked

/-- The owner of an entry is asked to release it. -/
structure Inquiry.Releases (a : Inquiry δ) (c : Client) (e : TagInfo δ) : Prop where
  vendor : e.owner = some a.vendor
  client : a.client = c
  request : a.request = e.toRelease

/-- A vendor is asked to bind what a client asks for, under a tag that is bound to nothing. -/
structure Inquiry.Binds (a : Inquiry δ) (c : Client) (v : VendorId) (q : MakeCurrent.Switch)
    (g : ContextTag → Option (TagInfo δ)) : Prop where
  vendor : a.vendor = v
  client : a.client = c
  request : a.request = q.toBind a.request.newTag
  ne_zero : a.request.newTag ≠ 0
  fresh : g a.request.newTag = none

/-- A statement about the exchange, if the request is answered by an error. -/
def OnError (P : ProtocolError → Exchange σ δ → Prop) : Fault → Exchange σ δ → Prop
  | .error e, y => P e y
  | .abort _, _ => True

section Stages

variable {env : Environment σ δ} {c : Client} {g : ContextTag → Option (TagInfo δ)}
  {asked : List (Inquiry δ)} {x : Exchange σ δ}

lemma Exchange.stands_modifyTags {client : ClientId} {f : TagTable δ → TagTable δ}
    (hc : x.client.id = client)
    (h : (x.session.withOwnership (x.session.ownership.modifyTags client f)).Stands client g asked) :
    (x.modifyTags f).session.Stands client g asked := by
  subst hc
  exact h

/-- One more inquiry, after which the client is as the vendor handed it back. -/
lemma Exchange.Reaches.concat {a : Inquiry δ} {y : Exchange σ δ} (hid : a.handedBack.id = c.id)
    (hclient : y.client = a.handedBack)
    (hs : y.session.Stands c.id (Inquiry.settle (asked.foldl Inquiry.settle g) a) (asked ++ [a])) :
    y.Reaches c g (asked ++ [a]) where
  id := (congrArg Client.id hclient).trans hid
  client := by rw [hclient, handedBack_concat]
  session := by
    rw [List.foldl_concat]
    exact hs

/-- A vendor that is asked to release a tag agrees and the tag is free, or it refuses, or it cannot
be asked. -/
lemma release_reaches (hr : env.registry.KeepsClient) (hx : x.Reaches c g asked) {old : TagInfo δ}
    {v : VendorId} (hv : old.owner = some v) :
    Ends (MakeCurrent.release env old) x
      (fun _ y => ∃ a : Inquiry δ, a.Releases x.client old ∧ a.accepted = true ∧
        y.Reaches c g (asked ++ [a]))
      (OnError fun _ y => ∃ release : Option (Inquiry δ),
        (∀ a ∈ release, a.Releases x.client old ∧ a.accepted = false) ∧
          y.Reaches c g (asked ++ release.toList)) := by
  refine MakeCurrent.ends_release hr.handsBack
    (kept_stands env c.id (asked.foldl Inquiry.settle g) asked).upheld hv
    (fun _ => hx.session.enter rfl) ?_ ?_ ?_ fun _ _ _ => trivial
  · intro s d data hs hd
    have hdc : d.id = c.id := hd.trans hx.id
    refine ⟨⟨v, x.client, old.toRelease, d, .ok data⟩, ⟨hv, rfl, rfl⟩, rfl, .concat hdc rfl ?_⟩
    rw [Inquiry.settle_of_release rfl rfl]
    exact Exchange.stands_modifyTags hdc ((hs.answered v x.client d old.toRelease _).free old.tag)
  · intro s d e hs hd
    refine ⟨some ⟨v, x.client, old.toRelease, d, .error e⟩, ?_, .concat (hd.trans hx.id) rfl ?_⟩
    · rintro a ⟨⟩
      exact ⟨⟨hv, rfl, rfl⟩, rfl⟩
    · rw [Inquiry.settle_of_refused rfl]
      exact hs.answered v x.client d old.toRelease _
  · intro _
    refine ⟨none, by rintro a ⟨⟩, ?_⟩
    rw [Option.toList_none, List.append_nil]
    exact hx

/-- A vendor that is asked to bind agrees and the new tag is bound, or it refuses, or it cannot be
asked; then the tag is free again. -/
lemma bind_reaches (hr : env.registry.KeepsClient) (hx : x.Reaches c g asked) (v : VendorId)
    (q : MakeCurrent.Switch) :
    Ends (MakeCurrent.bind env v q) x
      (fun tag y => ∃ a : Inquiry δ, a.Binds x.client v q (asked.foldl Inquiry.settle g) ∧
        a.request.newTag = tag ∧ a.accepted = true ∧ y.Reaches c g (asked ++ [a]))
      (OnError fun _ y => ∃ bind : Option (Inquiry δ),
        (∀ a ∈ bind, a.Binds x.client v q (asked.foldl Inquiry.settle g) ∧ a.accepted = false) ∧
          y.Reaches c g (asked ++ bind.toList)) := by
  let bindings := asked.foldl Inquiry.settle g
  -- while the vendor is asked, the claimed tag stands, and it was free before
  have hkept : ∀ tag, env.Upheld fun s => (tag ≠ 0 ∧ bindings tag = none) ∧
      s.Stands c.id (fun b => if b = tag then some (.claimed tag v) else bindings b) asked :=
    fun tag => ((env.kept_const _).and (kept_stands env _ _ _)).upheld
  have hclaim : ∀ tag o, x.session.ownership.allocateTag? x.client.id v = some (tag, o) →
      (tag ≠ 0 ∧ bindings tag = none) ∧ (x.session.withOwnership o).Stands c.id
        (fun b => if b = tag then some (.claimed tag v) else bindings b) asked := by
    intro tag o ho
    rw [hx.id] at ho
    obtain ⟨h0, hnone, hs⟩ := hx.session.claim ho
    exact ⟨⟨h0, hnone⟩, hs⟩
  refine MakeCurrent.ends_bindTag hr.handsBack hkept ?_ ?_ ?_ ?_ (fun _ => trivial)
    fun _ _ _ _ => trivial
  · -- the vendor is asked
    intro tag o ho _
    obtain ⟨hfresh, hs⟩ := hclaim tag o ho
    exact ⟨hfresh, hs.enter rfl⟩
  · -- it agrees
    rintro tag s d data ⟨⟨h0, hnone⟩, hs⟩ hd
    have hdc : d.id = c.id := hd.trans hx.id
    refine ⟨⟨v, x.client, q.toBind tag, d, .ok data⟩, ⟨rfl, rfl, rfl, h0, hnone⟩, rfl, rfl,
      .concat hdc rfl ?_⟩
    rw [Inquiry.settle_of_bind rfl h0]
    exact Exchange.stands_modifyTags hdc ((hs.answered v x.client d (q.toBind tag) _).bound q data)
  · -- it refuses
    rintro tag s d e ⟨⟨h0, hnone⟩, hs⟩ hd
    have hdc : d.id = c.id := hd.trans hx.id
    refine ⟨some ⟨v, x.client, q.toBind tag, d, .error e⟩, ?_, .concat hdc rfl ?_⟩
    · rintro a ⟨⟩
      exact ⟨⟨rfl, rfl, rfl, h0, hnone⟩, rfl⟩
    · rw [Inquiry.settle_of_refused rfl]
      exact Exchange.stands_modifyTags hdc ((hs.answered v x.client d (q.toBind tag) _).unclaim hnone)
  · -- it has no handler, and was not asked
    intro tag o ho _
    obtain ⟨⟨-, hnone⟩, hs⟩ := hclaim tag o ho
    refine ⟨none, by rintro a ⟨⟩, ?_⟩
    rw [Option.toList_none, List.append_nil]
    exact ⟨hx.id, hx.client, Exchange.stands_modifyTags hx.id (hs.unclaim hnone)⟩

end Stages

end VendorDispatch
