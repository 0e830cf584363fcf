import VendorDispatch.Proofs.Callback

/-!
The tags of a client, and what operations do to them.

* `TagTable.Numbered`, `Ownership.Numbered`: every entry of a table carries the tag of its place, so
  what is found under a tag carries it (`Numbered.tag_of_lookup`).
* `lookupTag_allocateTag?`: a new tag is not zero, was not live, and disturbs no other.
* `kept_tables`, `kept_numbered`, `kept_lookups`: no vendor can upset the numbering, nor anything
  about tables and tags but the private data on tags.
-/

namespace VendorDispatch

variable {σ δ : Type}

/-! ### Tables -/

/-- The table has a tag for every place, and every place has an entry with its tag. -/
structure TagTable.Numbered (t : TagTable δ) : Prop where
  capacity_lt : t.capacity < UInt32.size
  tag : ∀ i e, t.entries[i]? = some e → e.tag = tagAt i

namespace TagTable

variable {t u : TagTable δ} {tag : ContextTag} {vendor : VendorId}

lemma numbered_empty : ({} : TagTable δ).Numbered where
  capacity_lt := Nat.two_pow_pos 32
  tag _ _ he := by cases he

/-- What is found under a tag carries it. -/
lemma Numbered.tag_of_lookup (h : t.Numbered) {e : TagInfo δ} (he : t.lookup tag = some e) :
    e.tag = tag := by
  cases hp : place? tag with
  | none => simp [lookup, hp] at he
  | some i =>
      rw [lookup_of_place? hp, Option.filter_eq_some_iff] at he
      have hlt : i < t.entries.length := (List.getElem?_eq_some_iff.mp he.1).1
      have hs : i + 1 < UInt32.size := Nat.lt_of_le_of_lt hlt h.capacity_lt
      rw [h.tag i e he.1]
      exact place?_inj (place?_tagAt hs) hp

/-- A freed entry has no number to be wrong. -/
lemma Numbered.free (h : t.Numbered) (tag : ContextTag) : (t.free tag).Numbered := by
  rw [TagTable.free]
  cases hp : place? tag with
  | none => exact h
  | some i =>
      refine ⟨?_, ?_⟩
      · have hc := h.capacity_lt
        simpa [capacity] using hc
      · intro j e he
        rw [List.getElem?_set] at he
        split_ifs at he with hij hlt
        · cases he
          have hs : j + 1 < UInt32.size := by
            have hc := h.capacity_lt
            rw [capacity] at hc
            omega
          exact place?_inj (hij ▸ hp) (place?_tagAt hs)
        · exact h.tag j e he

/-- An entry may change, as long as its number stays. -/
lemma Numbered.modify (h : t.Numbered) (tag : ContextTag) {f : TagInfo δ → TagInfo δ}
    (hf : ∀ e, (f e).tag = e.tag) : (t.modify tag f).Numbered := by
  rw [TagTable.modify]
  cases hp : place? tag with
  | none => exact h
  | some i =>
      refine ⟨?_, ?_⟩
      · have hc := h.capacity_lt
        simpa [capacity] using hc
      · intro j e he
        rw [List.getElem?_modify] at he
        cases hj : t.entries[j]? with
        | none => simp [hj] at he
        | some d =>
            have hd := h.tag j d hj
            rw [hj, Option.map_eq_map, Option.map_some, Option.some.injEq] at he
            subst he
            split_ifs
            · exact hd
            · rw [hf]
              exact hd
            · exact hd

/-- A table with the place of the tag claimed. -/
lemma Numbered.claim (h : t.Numbered) (i : Nat) (vendor : VendorId) :
    (t.claim i vendor).2.Numbered := by
  refine ⟨?_, ?_⟩
  · have hc := h.capacity_lt
    simpa [TagTable.claim, capacity] using hc
  · intro j e he
    simp only [TagTable.claim, List.getElem?_set] at he
    split_ifs at he with hij hlt
    · cases he
      rw [hij]
      rfl
    · exact h.tag j e he

/-- A table that grows keeps its entries in their places. -/
lemma Numbered.grown (h : t.Numbered) (hs : t.grownCapacity < UInt32.size) :
    t.grown.Numbered := by
  refine ⟨?_, ?_⟩
  · rw [capacity_grown]
    exact hs
  · intro j e he
    rcases Nat.lt_or_ge j t.entries.length with hlt | hge
    · rw [TagTable.grown, List.getElem?_append_left hlt] at he
      exact h.tag j e he
    · rw [TagTable.grown, List.getElem?_append_right hge, List.getElem?_map,
        Option.map_eq_some_iff] at he
      obtain ⟨k, hk, rfl⟩ := he
      obtain ⟨hlt, hk⟩ := List.getElem?_eq_some_iff.mp hk
      rw [List.getElem_range'] at hk
      subst hk
      have hjk : t.capacity + 1 * (j - t.entries.length) = j := by
        rw [capacity]
        omega
      rw [hjk]
      rfl

/-- A new entry has the number of its place. -/
lemma Numbered.allocate? (h : t.Numbered) (ha : t.allocate? vendor = some (tag, u)) :
    u.Numbered := by
  rw [TagTable.allocate?] at ha
  split at ha
  · next i _ =>
    cases ha
    exact h.claim i vendor
  · split at ha
    · next hs =>
      cases ha
      exact (h.grown hs).claim _ vendor
    · cases ha

/-- A new tag is not zero. -/
lemma Numbered.ne_zero_of_allocate? (h : t.Numbered)
    (ha : t.allocate? vendor = some (tag, u)) : tag ≠ 0 := by
  rintro rfl
  have hl := (lookup_allocate? h.capacity_lt ha 0).2
  simp at hl

/-! ### Room -/

lemma capacity_free (t : TagTable δ) (tag : ContextTag) : (t.free tag).capacity = t.capacity := by
  rw [TagTable.free]
  cases place? tag <;> simp [capacity]

lemma capacity_modify (t : TagTable δ) (tag : ContextTag) (f : TagInfo δ → TagInfo δ) :
    (t.modify tag f).capacity = t.capacity := by
  rw [TagTable.modify]
  cases place? tag <;> simp [capacity]

/-- To hand out a tag takes no room away. -/
lemma capacity_le_of_allocate? (h : t.allocate? vendor = some (tag, u)) :
    t.capacity ≤ u.capacity := by
  rw [TagTable.allocate?] at h
  split at h
  · cases h
    simp [capacity]
  · split_ifs at h
    cases h
    have hgrown := t.capacity_lt_grownCapacity
    rw [← capacity_grown] at hgrown
    simpa [claim, capacity] using Nat.le_of_lt hgrown

end TagTable

/-! ### All clients -/

/-- Every client has a numbered table. -/
def Ownership.Numbered (o : Ownership δ) : Prop := ∀ client, (o.tagsOf client).Numbered

namespace Ownership

variable {o u : Ownership δ} {client : ClientId} {tag : ContextTag} {vendor : VendorId}

/-- Owners without tags. -/
lemma numbered_vacant (screenCount : Nat) : (vacant screenCount : Ownership δ).Numbered :=
  fun _ => TagTable.numbered_empty

@[simp] lemma lookupTag_vacant (screenCount : Nat) (client : ClientId) (tag : ContextTag) :
    (vacant screenCount : Ownership δ).lookupTag client tag = none := rfl

/-- Zero is no tag. -/
@[simp] lemma lookupTag_zero (o : Ownership δ) (client : ClientId) : o.lookupTag client 0 = none := by
  rw [lookupTag_eq, TagTable.lookup_zero]

/-- Live tags have owners. -/
lemma isSome_owner_of_lookupTag {e : TagInfo δ} (h : o.lookupTag client tag = some e) :
    e.owner.isSome = true := by
  rw [lookupTag_eq] at h
  exact TagTable.isSome_owner_of_lookup h

/-- What is found under a tag carries it. -/
lemma Numbered.tag_of_lookupTag (h : o.Numbered) {e : TagInfo δ}
    (he : o.lookupTag client tag = some e) : e.tag = tag := by
  rw [lookupTag_eq] at he
  exact (h client).tag_of_lookup he

/-- Another table for one client. -/
lemma Numbered.setTags (h : o.Numbered) {t : TagTable δ} (ht : t.Numbered) :
    (o.setTags client t).Numbered := by
  intro d
  rw [tagsOf_setTags]
  split_ifs
  · exact ht
  · exact h d

/-- A change of the table of one client. -/
lemma Numbered.modifyTags (h : o.Numbered) {f : TagTable δ → TagTable δ}
    (hf : ∀ t : TagTable δ, t.Numbered → (f t).Numbered) : (o.modifyTags client f).Numbered :=
  h.setTags (hf _ (h client))

/-- A tag that is handed out. -/
lemma Numbered.allocateTag? (h : o.Numbered) (ha : o.allocateTag? client vendor = some (tag, u)) :
    u.Numbered := by
  rw [Ownership.allocateTag?, Option.map_eq_some_iff] at ha
  obtain ⟨⟨tag', t⟩, ht, he⟩ := ha
  cases he
  exact h.setTags ((h client).allocate? ht)

/-- A client that is gone. -/
lemma Numbered.clientGone (h : o.Numbered) (client : ClientId) :
    (o.clientGone client).Numbered := by
  intro d
  rw [tagsOf, tagsOf?, Ownership.clientGone, Assoc.get?_erase]
  split_ifs
  · exact TagTable.numbered_empty
  · exact h d

/-- A new tag is not zero and was not live. -/
lemma Numbered.fresh_of_allocateTag? (h : o.Numbered)
    (ha : o.allocateTag? client vendor = some (tag, u)) :
    tag ≠ 0 ∧ o.lookupTag client tag = none := by
  rw [Ownership.allocateTag?, Option.map_eq_some_iff] at ha
  obtain ⟨⟨tag', t⟩, ht, he⟩ := ha
  cases he
  refine ⟨(h client).ne_zero_of_allocate? ht, ?_⟩
  rw [lookupTag_eq]
  exact (TagTable.lookup_allocate? (h client).capacity_lt ht 0).1

/-- A new tag is found with its new owner and nothing else, and no other tag is disturbed. -/
lemma Numbered.lookupTag_allocateTag? (h : o.Numbered)
    (ha : o.allocateTag? client vendor = some (tag, u)) (d : ClientId) (b : ContextTag) :
    u.lookupTag d b =
      if d = client ∧ b = tag then some (.claimed tag vendor) else o.lookupTag d b := by
  rw [Ownership.allocateTag?, Option.map_eq_some_iff] at ha
  obtain ⟨⟨tag', t⟩, ht, he⟩ := ha
  cases he
  rw [lookupTag_eq, tagsOf_setTags, lookupTag_eq]
  by_cases hd : d = client
  · subst hd
    rw [if_pos rfl, (TagTable.lookup_allocate? (h d).capacity_lt ht b).2]
    simp
  · simp [hd]

/-- To free a tag takes away its entry, and no other. -/
lemma lookupTag_free (o : Ownership δ) (client d : ClientId) (tag b : ContextTag) :
    (o.modifyTags client fun t => t.free tag).lookupTag d b =
      if d = client ∧ b = tag then none else o.lookupTag d b := by
  rw [lookupTag_modifyTags, TagTable.lookup_free, ← lookupTag_eq]
  split_ifs <;> simp_all

/-- A change of a live tag that keeps it live. -/
lemma lookupTag_modify (o : Ownership δ) (client d : ClientId) (tag b : ContextTag)
    {f : TagInfo δ → TagInfo δ} (hf : ∀ e, (f e).owner = e.owner) :
    (o.modifyTags client fun t => t.modify tag f).lookupTag d b =
      if d = client ∧ b = tag then (o.lookupTag d b).map f else o.lookupTag d b := by
  rw [lookupTag_modifyTags, TagTable.lookup_modify, ← lookupTag_eq]
  have hlive : ((o.lookupTag client b).map f).filter (fun e => !e.isFree) =
      (o.lookupTag client b).map f := by
    cases he : o.lookupTag client b with
    | none => rfl
    | some e =>
        have ho := isSome_owner_of_lookupTag he
        rw [← hf] at ho
        rw [Option.map_some, Option.filter_some, TagInfo.isFree, Option.isNone_eq_false_iff.mpr ho]
        rfl
  rw [hlive]
  split_ifs <;> simp_all

/-- A client's table that is made, but not changed, has the tags from before. -/
@[simp] lemma lookupTag_touchTags (o : Ownership δ) (client d : ClientId) (b : ContextTag) :
    (o.modifyTags client id).lookupTag d b = o.lookupTag d b := by
  rw [lookupTag_modifyTags, id, ← lookupTag_eq]
  split_ifs with hd
  · rw [hd]
  · rfl

/-! ### What does not touch tags, and what only tags touch -/

/-- Claiming a tag changes neither the owners of resources nor those of screens. -/
lemma xids_allocateTag? (h : o.allocateTag? client vendor = some (tag, u)) :
    u.xids = o.xids ∧ u.screens = o.screens := by
  rw [Ownership.allocateTag?, Option.map_eq_some_iff] at h
  obtain ⟨⟨tag', t⟩, -, he⟩ := h
  cases he
  exact ⟨rfl, rfl⟩

/-- To record a resource leaves tags alone. -/
lemma tagsOf?_addXid (o : Ownership δ) (id : Xid) (vendor : VendorId) (d : ClientId) :
    (o.addXid id vendor).2.tagsOf? d = o.tagsOf? d := by
  rw [addXid]
  split_ifs <;> rfl

@[simp] lemma lookupTag_addXid (o : Ownership δ) (id : Xid) (vendor : VendorId) (d : ClientId)
    (b : ContextTag) : (o.addXid id vendor).2.lookupTag d b = o.lookupTag d b := by
  rw [lookupTag, tagsOf?_addXid, lookupTag]

@[simp] lemma lookupTag_removeXid (o : Ownership δ) (id : Xid) (d : ClientId) (b : ContextTag) :
    (o.removeXid id).lookupTag d b = o.lookupTag d b := rfl

@[simp] lemma lookupTag_unassignScreens (o : Ownership δ) (vendor : VendorId) (d : ClientId)
    (b : ContextTag) : (o.unassignScreens vendor).lookupTag d b = o.lookupTag d b := rfl

/-- So does assigning a screen. -/
lemma tagsOf?_setScreenVendor? {screen : Nat} (h : o.setScreenVendor? screen vendor = some u)
    (d : ClientId) : u.tagsOf? d = o.tagsOf? d := by
  rw [setScreenVendor?] at h
  split_ifs at h
  cases h
  rfl

/-- Every tag is found as before. -/
lemma lookupTag_setScreenVendor? {screen : Nat} (h : o.setScreenVendor? screen vendor = some u)
    (d : ClientId) (b : ContextTag) : u.lookupTag d b = o.lookupTag d b := by
  rw [lookupTag, tagsOf?_setScreenVendor? h, lookupTag]

lemma tagsOf_addXid (o : Ownership δ) (id : Xid) (vendor : VendorId) (d : ClientId) :
    (o.addXid id vendor).2.tagsOf d = o.tagsOf d := by
  rw [tagsOf, tagsOf?_addXid, tagsOf]

/-- And so is every resource. -/
lemma xids_setScreenVendor? {screen : Nat} (h : o.setScreenVendor? screen vendor = some u) :
    u.xids = o.xids := by
  rw [setScreenVendor?] at h
  split_ifs at h
  cases h
  rfl

lemma tagsOf_setScreenVendor? {screen : Nat} (h : o.setScreenVendor? screen vendor = some u)
    (d : ClientId) : u.tagsOf d = o.tagsOf d := by
  rw [tagsOf, tagsOf?_setScreenVendor? h, tagsOf]

/-! ### Other clients -/

/-- Tags of another client are as before. -/
lemma tagsOf?_modifyTags_of_ne (o : Ownership δ) {d : ClientId} (hd : d ≠ client)
    (f : TagTable δ → TagTable δ) : (o.modifyTags client f).tagsOf? d = o.tagsOf? d := by
  rw [modifyTags, tagsOf?_setTags, if_neg hd]

/-- So are they when a tag is handed out. -/
lemma tagsOf?_allocateTag?_of_ne (h : o.allocateTag? client vendor = some (tag, u)) {d : ClientId}
    (hd : d ≠ client) : u.tagsOf? d = o.tagsOf? d := by
  rw [allocateTag?, Option.map_eq_some_iff] at h
  obtain ⟨⟨tag', t⟩, -, he⟩ := h
  cases he
  rw [tagsOf?_setTags, if_neg hd]

end Ownership

/-- What is said of every client's table, whatever private data are on its tags, no vendor can
upset. -/
lemma kept_tables (env : Environment σ δ) {P : TagTable δ → Prop}
    (hP : ∀ t tag data, P t → P (t.modify tag fun e => { e with data })) :
    env.Kept fun s => ∀ client, P (s.ownership.tagsOf client) where
  withWorld _ _ h := h
  enter _ _ _ h := h
  setScreenVendor _ _ _ _ _ ho h d := by
    rw [Session.ownership_withOwnership, Ownership.tagsOf_setScreenVendor? ho]
    exact h d
  addXid _ _ _ _ h d := by
    rw [Session.ownership_withOwnership, Ownership.tagsOf_addXid]
    exact h d
  removeXid _ _ h := h
  tagVendor _ _ _ h := h
  tagData _ _ _ _ h := h
  setTagData _ client tag _ data _ h d := by
    rw [Session.ownership_enter, Session.ownership_withOwnership, Ownership.tagsOf_modifyTags]
    split_ifs
    · exact hP _ tag data (h client)
    · exact h d
  touchTags _ client _ _ _ _ h d := by
    rw [Session.ownership_enter, Session.ownership_withOwnership, Ownership.tagsOf_modifyTags]
    split_ifs
    · exact h client
    · exact h d

/-- No vendor can upset the numbering. -/
lemma kept_numbered (env : Environment σ δ) : env.Kept fun s => s.ownership.Numbered :=
  kept_tables env fun _ tag _ h => h.modify tag fun _ => rfl

/-- What is said of the live tags, but not of the private data on them, no vendor can upset. -/
lemma kept_lookups (env : Environment σ δ)
    {P : (ClientId → ContextTag → Option (TagInfo δ)) → Prop}
    (hP : ∀ f client tag data, P f → P fun d b =>
      if d = client ∧ b = tag then (f d b).map fun e => { e with data } else f d b) :
    env.Kept fun s => P s.ownership.lookupTag where
  withWorld _ _ h := h
  enter _ _ _ h := h
  setScreenVendor s _ _ o _ ho h := by
    have hsame : o.lookupTag = s.ownership.lookupTag :=
      funext fun d => funext fun b => Ownership.lookupTag_setScreenVendor? ho d b
    rw [Session.ownership_withOwnership, hsame]
    exact h
  addXid s id v _ h := by
    have hsame : (s.ownership.addXid id v).2.lookupTag = s.ownership.lookupTag :=
      funext fun d => funext fun b => Ownership.lookupTag_addXid _ id v d b
    rw [Session.ownership_withOwnership, hsame]
    exact h
  removeXid _ _ h := h
  tagVendor _ _ _ h := h
  tagData _ _ _ _ h := h
  setTagData s client tag _ data _ h := by
    -- the one export call that shows in the entries
    have hstored : (s.ownership.modifyTags client fun t =>
        t.modify tag fun e => { e with data }).lookupTag = fun d b =>
          if d = client ∧ b = tag then (s.ownership.lookupTag d b).map fun e => { e with data }
          else s.ownership.lookupTag d b :=
      funext fun d => funext fun b => Ownership.lookupTag_modify _ _ _ _ _ fun _ => rfl
    rw [Session.ownership_enter, Session.ownership_withOwnership, hstored]
    exact hP _ client tag data h
  touchTags s client _ _ _ _ h := by
    have hsame : (s.ownership.modifyTags client id).lookupTag = s.ownership.lookupTag :=
      funext fun d => funext fun b => Ownership.lookupTag_touchTags _ client d b
    rw [Session.ownership_enter, Session.ownership_withOwnership, hsame]
    exact h

end VendorDispatch
