import VendorDispatch.Proofs.Operation

/-!
Who owns what, and whether the owner is registered.

* `Ownership.ownerOf?`: the owner of a resource, a screen or a live tag.
* `Ownership.GrantsOnly`: what is owned anew is owned by vendors with a property. The operations on
  owners compose (`GrantsOnly.trans`), and so do the steps of vendors and of switches
  (`stable_grants`).
* `Server.Sound.apply_grants`: no operation makes a vendor an owner that is not registered.
* `Server.contains_apply`: destroying a vendor is what takes it out of the registry, as long as the
  generation lasts.
* `owner_registered`: every owner was registered when it became the owner, and is registered unless
  it was destroyed since.
* `destroyed_vendor_owns`: a vendor that was destroyed may still own a resource.
-/

namespace VendorDispatch

variable {σ δ : Type}

/-! ### Owners -/

/-- What a vendor can own. -/
inductive Holding
  /-- A resource. -/
  | resource (id : Xid)
  /-- A screen. -/
  | screen (index : Nat)
  /-- A tag of a client. -/
  | tag (client : ClientId) (tag : ContextTag)

namespace Ownership

variable {o u w : Ownership δ} {R : VendorId → Prop} {v : VendorId} {client : ClientId}
  {tag : ContextTag}

/-- The owner of a resource, of a screen or of a live tag. -/
def ownerOf? (o : Ownership δ) : Holding → Option VendorId
  | .resource id => o.xids.get? id
  | .screen i => o.screenVendor i
  | .tag client tag => (o.lookupTag client tag).bind TagInfo.owner

/-- Whoever owns something in `u` that it does not own in `o` satisfies `R`. -/
def GrantsOnly (R : VendorId → Prop) (o u : Ownership δ) : Prop :=
  ∀ g v, u.ownerOf? g = some v → o.ownerOf? g = some v ∨ R v

lemma GrantsOnly.refl (o : Ownership δ) : o.GrantsOnly R o := fun _ _ => .inl

/-- Owners that are replaced twice are replaced by vendors of the same kind. -/
lemma GrantsOnly.trans (h : o.GrantsOnly R u) (h' : u.GrantsOnly R w) : o.GrantsOnly R w := by
  intro g v hv
  rcases h' g v hv with hu | hR
  · exact h g v hu
  · exact .inr hR

/-- Nothing is owned anew. -/
lemma GrantsOnly.of_forall (h : ∀ g, u.ownerOf? g = o.ownerOf? g ∨ u.ownerOf? g = none) :
    o.GrantsOnly R u := by
  intro g v hv
  rcases h g with hg | hg
  · exact .inl (hg.symm.trans hv)
  · rw [hg] at hv
    cases hv

@[simp] lemma ownerOf?_vacant (screenCount : Nat) (g : Holding) :
    (vacant screenCount : Ownership δ).ownerOf? g = none := by
  cases g with
  | resource id => rfl
  | screen i => exact screenVendor_vacant screenCount i
  | tag client tag => simp [ownerOf?]

lemma grantsOnly_vacant (screenCount : Nat) : o.GrantsOnly R (vacant screenCount) :=
  .of_forall fun g => .inr (ownerOf?_vacant screenCount g)

/-- The tags alone change. -/
lemma GrantsOnly.of_tags (hx : u.xids = o.xids) (hs : u.screens = o.screens)
    (h : ∀ d b v, (u.lookupTag d b).bind TagInfo.owner = some v →
      (o.lookupTag d b).bind TagInfo.owner = some v ∨ R v) : o.GrantsOnly R u := by
  intro g v hv
  cases g with
  | resource id => exact .inl (by rwa [ownerOf?, hx] at hv)
  | screen i =>
      refine .inl ?_
      rwa [ownerOf?, screenVendor, hs] at hv
  | tag d b => exact h d b v hv

/-! ### What each operation on owners grants -/

/-- To record a resource makes its vendor an owner. -/
lemma grantsOnly_addXid (id : Xid) (hv : R v) : o.GrantsOnly R (o.addXid id v).2 := by
  intro g w hw
  cases g with
  | resource j =>
      cases ha : (o.addXid id v).1 with
      | false =>
          rw [addXid_of_fst_eq_false ha] at hw
          exact .inl hw
      | true =>
          rw [ownerOf?, get?_xids_addXid ha] at hw
          split_ifs at hw
          · cases hw
            exact .inr hv
          · exact .inl hw
  | screen i => exact .inl (by rwa [ownerOf?, screenVendor_addXid] at hw)
  | tag d b => exact .inl (by rwa [ownerOf?, lookupTag_addXid] at hw)

/-- To remove a resource makes nobody an owner. -/
lemma grantsOnly_removeXid (id : Xid) : o.GrantsOnly R (o.removeXid id) := by
  refine .of_forall fun g => ?_
  cases g with
  | resource j =>
      rw [ownerOf?, ownerOf?, get?_xids_removeXid]
      split_ifs
      · exact .inr rfl
      · exact .inl rfl
  | screen i => exact .inl rfl
  | tag d b => exact .inl rfl

/-- To assign a screen makes its vendor an owner. -/
lemma grantsOnly_setScreenVendor? {screen : Nat} (hv : R v)
    (h : o.setScreenVendor? screen v = some u) : o.GrantsOnly R u := by
  intro g w hw
  cases g with
  | resource id =>
      rw [setScreenVendor?] at h
      split_ifs at h
      cases h
      exact .inl hw
  | screen i =>
      rw [ownerOf?, screenVendor_setScreenVendor? h] at hw
      split_ifs at hw
      · cases hw
        exact .inr hv
      · exact .inl hw
  | tag d b => exact .inl (by rwa [ownerOf?, lookupTag_setScreenVendor? h] at hw)

lemma grantsOnly_unassignScreens (v : VendorId) : o.GrantsOnly R (o.unassignScreens v) := by
  refine .of_forall fun g => ?_
  cases g with
  | resource id => exact .inl rfl
  | screen i =>
      rw [ownerOf?, ownerOf?, screenVendor_unassignScreens]
      split_ifs
      · exact .inr rfl
      · exact .inl rfl
  | tag d b => exact .inl rfl

lemma grantsOnly_clientGone (client : ClientId) : o.GrantsOnly R (o.clientGone client) := by
  refine .of_forall fun g => ?_
  cases g with
  | resource id => exact .inl rfl
  | screen i => exact .inl rfl
  | tag d b =>
      rw [ownerOf?, ownerOf?, lookupTag_clientGone]
      split_ifs
      · exact .inr rfl
      · exact .inl rfl

/-- A change of what stands behind a tag, other than its owner. -/
lemma grantsOnly_modify (client : ClientId) (tag : ContextTag) {f : TagInfo δ → TagInfo δ}
    (hf : ∀ e, (f e).owner = e.owner) :
    o.GrantsOnly R (o.modifyTags client fun t => t.modify tag f) := by
  refine .of_tags rfl rfl fun d b v hv => .inl ?_
  rw [lookupTag_modify _ _ _ _ _ hf] at hv
  split_ifs at hv
  · cases he : o.lookupTag d b with
    | none =>
        rw [he] at hv
        cases hv
    | some e =>
        rw [he, Option.map_some, Option.bind_some, hf] at hv
        exact hv
  · exact hv

lemma grantsOnly_touchTags (client : ClientId) : o.GrantsOnly R (o.modifyTags client id) := by
  refine .of_tags rfl rfl fun d b v hv => .inl ?_
  rwa [lookupTag_touchTags] at hv

lemma grantsOnly_free (client : ClientId) (tag : ContextTag) :
    o.GrantsOnly R (o.modifyTags client fun t => t.free tag) := by
  refine .of_tags rfl rfl fun d b v hv => .inl ?_
  rw [lookupTag_free] at hv
  split_ifs at hv
  · cases hv
  · exact hv

/-- To hand out a tag makes its vendor an owner. -/
lemma grantsOnly_allocateTag? (ho : o.Numbered) (hv : R v)
    (h : o.allocateTag? client v = some (tag, u)) : o.GrantsOnly R u := by
  obtain ⟨hx, hs⟩ := xids_allocateTag? h
  refine .of_tags hx hs fun d b w hw => ?_
  rw [ho.lookupTag_allocateTag? h] at hw
  split_ifs at hw
  · cases hw
    exact .inr hv
  · exact .inl hw

/-- A tag that is claimed and free again at once. -/
lemma grantsOnly_unclaim (ho : o.Numbered) (h : o.allocateTag? client v = some (tag, u)) :
    o.GrantsOnly R (u.modifyTags client fun t => t.free tag) := by
  obtain ⟨hx, hs⟩ := xids_allocateTag? h
  refine .of_tags hx hs fun d b w hw => .inl ?_
  rw [lookupTag_free, ho.lookupTag_allocateTag? h] at hw
  split_ifs at hw
  · cases hw
  · exact hw

end Ownership

/-! ### What vendors and switches grant -/

lemma Environment.contains_of_makeCurrentHandler? {env : Environment σ δ} {v : VendorId}
    (h : (env.makeCurrentHandler? v).isSome) : env.registry.contains v = true := by
  rw [Environment.makeCurrentHandler?, Option.isSome_bind, Option.any_eq_true] at h
  obtain ⟨i, hi, -⟩ := h
  rw [Registry.interface?, Option.map_eq_some_iff] at hi
  obtain ⟨w, hw, -⟩ := hi
  rw [Registry.contains, hw]
  rfl

/-- Vendors make only registered vendors owners, and so do switches. -/
lemma stable_grants {env : Environment σ δ} {R : VendorId → Prop}
    (hR : ∀ v, env.registry.contains v = true → R v) (o : Ownership δ) :
    env.Stable fun s => s.ownership.Numbered ∧ o.GrantsOnly R s.ownership where
  kept :=
    { withWorld := fun _ _ h => h
      enter := fun _ _ _ h => h
      setScreenVendor := fun s screen v u hv hu h =>
        ⟨(kept_numbered env).setScreenVendor s screen v u hv hu h.1, h.2.trans
          (Ownership.grantsOnly_setScreenVendor? (hR v (Registry.contains_of_isInitialized hv)) hu)⟩
      addXid := fun s id v hv h =>
        ⟨(kept_numbered env).addXid s id v hv h.1,
          h.2.trans (Ownership.grantsOnly_addXid id (hR v hv))⟩
      removeXid := fun _ id h => ⟨h.1, h.2.trans (Ownership.grantsOnly_removeXid id)⟩
      tagVendor := fun _ _ _ h => h
      tagData := fun _ _ _ _ h => h
      setTagData := fun s client tag v data hv h =>
        ⟨(kept_numbered env).setTagData s client tag v data hv h.1,
          h.2.trans (Ownership.grantsOnly_modify client tag fun _ => rfl)⟩
      touchTags := fun s client tag v data hv h =>
        ⟨(kept_numbered env).touchTags s client tag v data hv h.1,
          h.2.trans (Ownership.grantsOnly_touchTags client)⟩ }
  -- a switch makes owner of a tag whoever it asks, so that vendor is registered
  asked _ _ _ _ _ h := h
  answered _ _ _ _ _ h := h
  claim _ _ v _ _ hv hu h :=
    ⟨h.1.allocateTag? hu, h.2.trans (Ownership.grantsOnly_allocateTag? h.1
      (hR v (Environment.contains_of_makeCurrentHandler? hv)) hu)⟩
  unclaim _ _ _ _ _ hu h :=
    ⟨(h.1.allocateTag? hu).modifyTags fun _ ht => ht.free _,
      h.2.trans (Ownership.grantsOnly_unclaim h.1 hu)⟩
  free _ client tag h :=
    ⟨h.1.modifyTags fun _ ht => ht.free _, h.2.trans (Ownership.grantsOnly_free client tag)⟩
  bound _ client tag q data h :=
    ⟨h.1.modifyTags fun _ ht => ht.modify tag (f := q.bound data) fun _ => rfl,
      h.2.trans (Ownership.grantsOnly_modify client tag fun _ => rfl)⟩

/-! ### What operations grant -/

namespace Server

variable {s t : Server σ δ} {v : VendorId}

/-- A generation that ends leaves nobody an owner. -/
lemma ownerOf?_endGeneration {entry : ExtensionEntry} (he : s.extension = some entry)
    (g : Holding) : s.endGeneration.server.ownership.ownerOf? g = none := by
  rw [ownership_endGeneration he]
  exact Ownership.ownerOf?_vacant _ g

/-- A generation that starts makes owners of registered vendors only. -/
lemma beginGeneration_grants (he : s.extension = none) (entry : ExtensionEntry) :
    s.ownership.GrantsOnly (fun v => s.registry.contains v = true)
      (s.beginGeneration entry).server.ownership := by
  have h := beginGeneration_keeps (s := s)
    (I := fun r o _ => (∀ v, r.contains v = true → s.registry.contains v = true) ∧ o.Numbered ∧
      s.ownership.GrantsOnly (fun v => s.registry.contains v = true) o)
    (fun u journal => ?_) (fun r o journal v h => ?_) he entry ?_
  · exact h.2.2
  · refine Environment.Kept.upheld ?_
    by_cases hr : ∀ v, u.registry.contains v = true → s.registry.contains v = true
    · exact (stable_grants hr s.ownership).kept.congr fun _ => ⟨fun h => ⟨hr, h⟩, fun h => h.2⟩
    · exact (u.environment.kept_const False).congr fun _ => ⟨False.elim, fun h => hr h.1⟩
  · obtain ⟨hr, ho, hgrants⟩ := h
    refine ⟨fun w hw => hr w ?_, ho, hgrants.trans (Ownership.grantsOnly_unassignScreens v)⟩
    rwa [Registry.contains_demote] at hw
  · refine ⟨fun w hw => ?_, Ownership.numbered_vacant _, Ownership.grantsOnly_vacant _⟩
    rwa [Registry.contains_beginGeneration] at hw

/-- No operation makes a vendor an owner that is not registered. -/
lemma Sound.apply_grants (hs : s.Sound) (op : Operation σ δ) :
    s.ownership.GrantsOnly (fun v => s.registry.contains v = true)
      (s.apply op).server.ownership := by
  have hstable :=
    stable_grants (fun v (hv : s.environment.registry.contains v = true) => hv) s.ownership
  have hstart : s.session.ownership.Numbered ∧ s.ownership.GrantsOnly
      (fun v => s.environment.registry.contains v = true) s.session.ownership :=
    ⟨hs.ownership.tags, .refl _⟩
  exact apply_ownership (P := s.ownership.GrantsOnly fun v => s.registry.contains v = true) op
    (.refl _) (Ownership.grantsOnly_vacant _) (fun entry he => beginGeneration_grants he entry)
    (fun c _ => (hs.serve_keeps hstable hstart c).2)
    (fun program => (perform_keeps hstable.kept hstart program).2)
    Ownership.grantsOnly_clientGone Ownership.grantsOnly_removeXid

/-! ### Owners in the course of operations -/

/-- An operation makes a registered vendor the owner. -/
def Grants (s : Server σ δ) (op : Operation σ δ) (g : Holding) (v : VendorId) : Prop :=
  s.registry.contains v = true ∧ s.ownership.ownerOf? g ≠ some v ∧
    (s.apply op).server.ownership.ownerOf? g = some v

/-- One of the operations destroys the vendor. -/
def Destroys (s : Server σ δ) (ops : List (Operation σ δ)) (v : VendorId) : Prop :=
  ∃ before after t, ops = before ++ .destroyVendor v :: after ∧ s.Leads before t ∧
    ∃ u, t.destroyVendor v = .ok u

lemma not_destroys_nil : ¬ s.Destroys [] v := by
  rintro ⟨before, after, t, h, -⟩
  simp at h

/-- The vendor is freed by the last operation, or before. -/
lemma destroys_concat {ops : List (Operation σ δ)} (h : s.Leads ops t) (op : Operation σ δ) :
    s.Destroys (ops ++ [op]) v ↔
      s.Destroys ops v ∨ op = .destroyVendor v ∧ ∃ u, t.destroyVendor v = .ok u := by
  constructor
  · rintro ⟨before, after, w, hops, hw, hu⟩
    rcases List.eq_nil_or_concat after with rfl | ⟨rest, last, rfl⟩
    · obtain ⟨rfl, hop⟩ := List.append_inj' hops rfl
      rw [h.unique hw]
      exact .inr ⟨List.singleton_inj.mp hop, hu⟩
    · have hsplit : ops ++ [op] = (before ++ .destroyVendor v :: rest) ++ [last] := by
        simpa using hops
      exact .inl ⟨before, rest, w, (List.append_inj' hsplit rfl).1, hw, hu⟩
  · rintro (⟨before, after, w, rfl, hw⟩ | ⟨rfl, hu⟩)
    · exact ⟨before, after ++ [op], w, by simp, hw⟩
    · exact ⟨ops, [], t, rfl, h, hu⟩

/-- The vendor became the owner while it was registered, and is registered unless it was destroyed
since. -/
def Granted (start : Server σ δ) (ops : List (Operation σ δ)) (s : Server σ δ) (g : Holding)
    (v : VendorId) : Prop :=
  ∃ before op after t, ops = before ++ op :: after ∧ start.Leads before t ∧ t.Grants op g v ∧
    (t.apply op).server.Leads after s ∧
    (s.registry.contains v = true ↔ ¬ (t.apply op).server.Destroys after v)

lemma Leads.length_places {ops : List (Operation σ δ)} (h : s.Leads ops t) :
    s.registry.places.length ≤ t.registry.places.length := by
  induction h with
  | nil => exact Nat.le_refl _
  | concat op a _ _ ih => exact Nat.le_trans ih (length_places_apply _ op)

lemma Granted.lt {start : Server σ δ} {ops : List (Operation σ δ)} {g : Holding}
    (h : start.Granted ops s g v) : v.index < s.registry.places.length := by
  obtain ⟨before, op, after, t, -, -, hgrants, hlead, -⟩ := h
  have ht := Registry.lt_of_contains hgrants.1
  have hop := length_places_apply t op
  have hs := hlead.length_places
  omega

/-- One more operation, after which there still is an owner. -/
lemma Granted.concat {start : Server σ δ} {ops : List (Operation σ δ)} {g : Holding}
    (h : start.Granted ops s g v) {op : Operation σ δ} {a : op.Answer}
    (ha : (s.apply op).result = .ok a) (hend : op = .endGeneration → s.extension = none) :
    start.Granted (ops ++ [op]) (s.apply op).server g v := by
  have hlt := h.lt
  obtain ⟨before, op', after, t, rfl, ht, hgrants, hlead, hreg⟩ := h
  refine ⟨before, op', after ++ [op], t, by simp, ht, hgrants, .concat op a hlead ha, ?_⟩
  rw [destroys_concat hlead]
  by_cases hd : op = .destroyVendor v ∧ ∃ u, s.destroyVendor v = .ok u
  · obtain ⟨rfl, u, hu⟩ := hd
    have hgone : (s.apply (.destroyVendor v)).server.registry.contains v = false := by
      rw [Server.apply, hu]
      exact contains_destroyVendor hu
    simp [hgone, hu]
  · rw [contains_apply hlt hend fun hop u hu => hd ⟨hop, u, hu⟩]
    simp only [hd, or_false, hreg]

/-- Every owner became one while it was registered. -/
lemma Leads.granted {start : Server σ δ} {ops : List (Operation σ δ)} (h : start.Leads ops s)
    (hs : start.Sound) (hvacant : ∀ g, start.ownership.ownerOf? g = none) {g : Holding}
    (hv : s.ownership.ownerOf? g = some v) : start.Granted ops s g v := by
  induction h with
  | nil =>
      rw [hvacant] at hv
      cases hv
  | @concat ops t op a hlead ha ih =>
      -- a generation that ends takes away all that is owned
      have hend : op = .endGeneration → t.extension = none := by
        rintro rfl
        cases he : t.extension with
        | none => rfl
        | some entry =>
            have hnone := ownerOf?_endGeneration he g
            cases hnone.symm.trans hv
      by_cases hold : t.ownership.ownerOf? g = some v
      · exact (ih hold).concat ha hend
      · -- the operation made the vendor an owner, so it was registered at that moment
        have hreg : t.registry.contains v = true :=
          ((hlead.sound hs).apply_grants op g v hv).resolve_left hold
        -- and the operation did not free the vendor
        have hspared : op = .destroyVendor v → ∀ u, t.destroyVendor v ≠ .ok u := by
          rintro rfl
          rw [ownership_destroyVendor] at hv
          exact (hold hv).elim
        have hstill : (t.apply op).server.registry.contains v = true :=
          (contains_apply (Registry.lt_of_contains hreg) hend hspared).trans hreg
        exact ⟨ops, op, [], t, rfl, hlead, ⟨hreg, hold, hv⟩, .nil,
          iff_of_true hstill not_destroys_nil⟩

end Server

/-- Every owner became one while it was registered, and it is registered unless it was destroyed
since. The owners of screens are initialized. -/
theorem owner_registered {host : WindowSystem σ} {world : σ} {nestingLimit : Nat}
    {ops : List (Operation σ δ)} {s : Server σ δ}
    (h : (Server.new host world nestingLimit).Leads ops s) {g : Holding} {v : VendorId}
    (hv : s.ownership.ownerOf? g = some v) :
    (∀ i, g = .screen i → s.registry.isInitialized v = true) ∧
      (Server.new host world nestingLimit).Granted ops s g v := by
  have hsound := Server.sound_new (δ := δ) host world nestingLimit
  refine ⟨?_, h.granted hsound (Ownership.ownerOf?_vacant _) hv⟩
  rintro i rfl
  exact (h.sound hsound).ownership.screens i v hv

/-! ### A vendor that is destroyed -/

/-- Every owner is registered. -/
def Server.OwnersRegistered (s : Server σ δ) : Prop :=
  ∀ g v, s.ownership.ownerOf? g = some v → s.registry.contains v = true

/-- A vendor claims a resource, and is destroyed before it takes part in a generation. -/
def abandonment : List (Operation Unit Nat) :=
  [.createVendor (.obliging 0 none), .perform (.call (.addXid 5 ⟨0⟩) fun _ => .done ()),
    .destroyVendor ⟨0⟩]

/-- The router after its only vendor was destroyed. -/
def abandoned : Server Unit Nat :=
  (Server.new (.blank 1) () 4).after ((Server.new (.blank 1) () 4).run abandonment)

/-- A vendor that was destroyed still owns a resource. -/
theorem destroyed_vendor_owns : abandoned.Reachable ∧ ¬ abandoned.OwnersRegistered := by
  have hlead : (Server.new (.blank 1) () 4).Leads abandonment abandoned :=
    .of_run (by decide +kernel)
  refine ⟨hlead.reachable (.new _ _ _), fun h => ?_⟩
  have hgone : abandoned.registry.contains ⟨0⟩ = false := by decide +kernel
  have howner : abandoned.ownership.ownerOf? (.resource 5) = some ⟨0⟩ := by decide +kernel
  rw [h _ _ howner] at hgone
  cases hgone

/-- The vendor that was destroyed claimed the resource while it was registered. -/
theorem owner_registered_abandoned :
    (Server.new (.blank 1) () 4).Leads abandonment abandoned ∧
      abandoned.ownership.ownerOf? (.resource 5) = some ⟨0⟩ ∧
      (Server.new (.blank 1) () 4).Granted abandonment abandoned (.resource 5) ⟨0⟩ := by
  have hlead : (Server.new (.blank 1) () 4).Leads abandonment abandoned :=
    .of_run (by decide +kernel)
  have howner : abandoned.ownership.ownerOf? (.resource 5) = some ⟨0⟩ := by decide +kernel
  exact ⟨hlead, howner, (owner_registered hlead howner).2⟩

end VendorDispatch
