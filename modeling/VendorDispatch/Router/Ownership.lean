import VendorDispatch.Assoc
import VendorDispatch.Router.Tag
import VendorDispatch.Router.WindowSystem

/-!
Which vendor owns what: resources, screens, and the context tags of each client.

* `Ownership.addXid` never replaces an owner and never maps the id zero.
* `Ownership.tagsOf` and `Ownership.lookupTag` read a client's tags; `Ownership.modifyTags` gives
  the client a table on first use.
* `lookupTag_modifyTags`, `lookupTag_clientGone`: changing one client's tags leaves those of others
  alone.
* `removeXid_addXid`: forgetting a resource that was just added gives everything back.
-/

namespace VendorDispatch

/-- Who owns each resource, each screen and each tag. -/
structure Ownership (δ : Type) where
  /-- The owners of resources. -/
  xids : Assoc Xid VendorId := .empty
  /-- The owner of each screen, in the order of screens. -/
  screens : List (Option VendorId) := []
  /-- The tags of each client that has a table. -/
  clients : Assoc ClientId (TagTable δ) := .empty

namespace Ownership

variable {δ : Type}

instance : Inhabited (Ownership δ) := ⟨{}⟩

/-- The state in which nobody owns anything. -/
def vacant (screenCount : Nat) : Ownership δ where
  screens := List.replicate screenCount none

/-! ### Resources -/

/-- Records the owner of a resource, and says whether it did. The id zero is refused, and so is an
id that already has an owner. -/
def addXid (o : Ownership δ) (id : Xid) (vendor : VendorId) : Bool × Ownership δ :=
  if id = 0 ∨ o.xids.contains id then
    (false, o)
  else
    (true, { o with xids := o.xids.insert id vendor })

/-- Forgets a resource. -/
def removeXid (o : Ownership δ) (id : Xid) : Ownership δ :=
  { o with xids := o.xids.erase id }

/-- The number of resources that have an owner of their own. -/
def xidCount (o : Ownership δ) : Nat := o.xids.size

/-! ### Screens -/

/-- The owner of a screen. -/
def screenVendor (o : Ownership δ) (screen : Nat) : Option VendorId :=
  o.screens[screen]?.join

/-- Gives a screen to a vendor, if there is such a screen. -/
def setScreenVendor? (o : Ownership δ) (screen : Nat) (vendor : VendorId) : Option (Ownership δ) :=
  if screen < o.screens.length then
    some { o with screens := o.screens.set screen (some vendor) }
  else
    none

/-- Takes every screen away from a vendor. -/
def unassignScreens (o : Ownership δ) (vendor : VendorId) : Ownership δ :=
  { o with screens := o.screens.map fun s => if s = some vendor then none else s }

/-! ### Tags -/

/-- The tags of a client that has a table. -/
def tagsOf? (o : Ownership δ) (client : ClientId) : Option (TagTable δ) :=
  o.clients.get? client

/-- The tags of a client; a client without a table has none. -/
def tagsOf (o : Ownership δ) (client : ClientId) : TagTable δ :=
  (o.tagsOf? client).getD {}

/-- What stands behind a live tag of a client. -/
def lookupTag (o : Ownership δ) (client : ClientId) (tag : ContextTag) : Option (TagInfo δ) :=
  (o.tagsOf? client).bind fun t => t.lookup tag

/-- Stores the tags of a client. -/
def setTags (o : Ownership δ) (client : ClientId) (t : TagTable δ) : Ownership δ :=
  { o with clients := o.clients.insert client t }

/-- Changes the tags of a client, which has a table from then on. -/
def modifyTags (o : Ownership δ) (client : ClientId) (f : TagTable δ → TagTable δ) : Ownership δ :=
  o.setTags client (f (o.tagsOf client))

/-- Claims a tag of a client for a vendor. -/
def allocateTag? (o : Ownership δ) (client : ClientId) (vendor : VendorId) :
    Option (ContextTag × Ownership δ) :=
  ((o.tagsOf client).allocate? vendor).map fun (tag, t) => (tag, o.setTags client t)

/-- Drops every tag of a client. -/
def clientGone (o : Ownership δ) (client : ClientId) : Ownership δ :=
  { o with clients := o.clients.erase client }

/-! ### Look-ups after each operation -/

/-- A resource is recorded if it is not zero and has no owner. -/
theorem addXid_fst_iff {o : Ownership δ} {id : Xid} {vendor : VendorId} :
    (o.addXid id vendor).1 ↔ id ≠ 0 ∧ o.xids.get? id = none := by
  cases hg : o.xids.get? id <;> by_cases h0 : id = 0 <;> simp [addXid, Assoc.contains, hg, h0]

/-- A resource that is recorded has its vendor as owner, and all others keep theirs. -/
theorem get?_xids_addXid {o : Ownership δ} {id : Xid} {vendor : VendorId}
    (h : (o.addXid id vendor).1) (j : Xid) :
    (o.addXid id vendor).2.xids.get? j = if j = id then some vendor else o.xids.get? j := by
  rw [addXid] at h ⊢
  split <;> simp_all [Assoc.get?_insert]

/-- A resource that is not recorded changes nothing. -/
theorem addXid_of_fst_eq_false {o : Ownership δ} {id : Xid} {vendor : VendorId}
    (h : (o.addXid id vendor).1 = false) : (o.addXid id vendor).2 = o := by
  rw [addXid] at h ⊢
  split <;> simp_all

/-- A resource that is removed has no owner. -/
@[simp] theorem get?_xids_removeXid (o : Ownership δ) (id j : Xid) :
    (o.removeXid id).xids.get? j = if j = id then none else o.xids.get? j :=
  Assoc.get?_erase _ _ _

/-- Forgetting a resource that was just added gives everything back. -/
theorem removeXid_addXid {o : Ownership δ} {id : Xid} {vendor : VendorId}
    (h : (o.addXid id vendor).1) : (o.addXid id vendor).2.removeXid id = o := by
  have hn := (addXid_fst_iff.mp h).2
  rw [addXid] at h ⊢
  split
  · simp_all
  · simp only [removeXid, Assoc.erase_insert_of_get?_eq_none vendor hn]

/-- A screen that is assigned has its vendor, and all others keep theirs. -/
theorem screenVendor_setScreenVendor? {o u : Ownership δ} {screen : Nat} {vendor : VendorId}
    (h : o.setScreenVendor? screen vendor = some u) (i : Nat) :
    u.screenVendor i = if i = screen then some vendor else o.screenVendor i := by
  rw [setScreenVendor?] at h
  split at h
  · next hlt =>
    cases h
    by_cases hi : i = screen
    · subst hi
      simp [screenVendor, hlt]
    · rw [if_neg hi, screenVendor, screenVendor]
      simp only
      rw [List.getElem?_set_ne (Ne.symm hi)]
  · cases h

theorem screenVendor_unassignScreens (o : Ownership δ) (vendor : VendorId) (i : Nat) :
    (o.unassignScreens vendor).screenVendor i =
      if o.screenVendor i = some vendor then none else o.screenVendor i := by
  simp only [screenVendor, unassignScreens, List.getElem?_map]
  have h : ∀ x : Option (Option VendorId),
      (x.map fun s => if s = some vendor then none else s).join =
        if x.join = some vendor then none else x.join := by
    rintro (_ | s)
    · rfl
    · by_cases hs : s = some vendor <;> simp [hs]
  exact h _

theorem screenVendor_vacant (screenCount i : Nat) :
    (vacant screenCount : Ownership δ).screenVendor i = none := by
  simp only [screenVendor, vacant, List.getElem?_replicate]
  split <;> rfl

theorem lookupTag_eq (o : Ownership δ) (client : ClientId) (tag : ContextTag) :
    o.lookupTag client tag = (o.tagsOf client).lookup tag := by
  rw [lookupTag, tagsOf]
  cases o.tagsOf? client with
  | none => simp [TagTable.lookup]
  | some t => rfl

theorem tagsOf?_setTags (o : Ownership δ) (client d : ClientId) (t : TagTable δ) :
    (o.setTags client t).tagsOf? d = if d = client then some t else o.tagsOf? d :=
  Assoc.get?_insert _ _ _ _

theorem tagsOf_setTags (o : Ownership δ) (client d : ClientId) (t : TagTable δ) :
    (o.setTags client t).tagsOf d = if d = client then t else o.tagsOf d := by
  rw [tagsOf, tagsOf?_setTags, tagsOf]
  split <;> rfl

theorem tagsOf_modifyTags (o : Ownership δ) (client d : ClientId) (f : TagTable δ → TagTable δ) :
    (o.modifyTags client f).tagsOf d = if d = client then f (o.tagsOf client) else o.tagsOf d :=
  tagsOf_setTags _ _ _ _

/-- A change of the tags of one client shows for that client only. -/
theorem lookupTag_modifyTags (o : Ownership δ) (client d : ClientId)
    (f : TagTable δ → TagTable δ) (tag : ContextTag) :
    (o.modifyTags client f).lookupTag d tag =
      if d = client then (f (o.tagsOf client)).lookup tag else o.lookupTag d tag := by
  rw [lookupTag_eq, tagsOf_modifyTags, lookupTag_eq]
  split <;> rfl

/-- The tags of a client that is gone are gone. -/
theorem lookupTag_clientGone (o : Ownership δ) (client d : ClientId) (tag : ContextTag) :
    (o.clientGone client).lookupTag d tag = if d = client then none else o.lookupTag d tag := by
  simp only [lookupTag, tagsOf?, clientGone, Assoc.get?_erase]
  split <;> rfl

end Ownership

end VendorDispatch
