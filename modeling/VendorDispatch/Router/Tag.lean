import VendorDispatch.Router.Vendor.Identity
import VendorDispatch.Wire.Client

/-!
Context tags. A client names its current contexts by tags; the router hands them out, so that no
vendor can be handed a tag or the private data of another.

A table holds the tags of one client. Tag `n` is the entry at place `n - 1`, and an entry without
an owner is free. Zero is never a tag.

* `TagTable.allocate?` claims the lowest free tag; a table without a free entry grows to sixteen
  entries first, and to twice its entries from then on.
* `TagTable.lookup` finds live tags only, and `TagTable.modify` changes live tags only.
* `TagTable.free` empties an entry; the table never shrinks.
* `lookup_free`, `lookup_modify`, `lookup_allocate?`: what each operation does to look-ups.
-/

namespace VendorDispatch

/-- A tag as a client sees it. -/
abbrev ContextTag := UInt32

/-- What stands behind one tag. The type `δ` is that of the vendors' private data. -/
structure TagInfo (δ : Type) where
  /-- The tag itself. -/
  tag : ContextTag := 0
  /-- The vendor whose context is current; a free entry has none. -/
  owner : Option VendorId := none
  /-- What the owner stored on the tag. -/
  data : Option δ := none
  /-- The context that is current. -/
  context : Xid := 0
  /-- The drawable that is drawn to. -/
  drawable : Xid := 0
  /-- The drawable that is read from. -/
  readDrawable : Xid := 0
  deriving DecidableEq, Repr, Inhabited

namespace TagInfo

variable {δ : Type}

/-- The free entry for a tag. -/
def empty (tag : ContextTag) : TagInfo δ := { tag }

/-- Whether the entry has no owner. -/
def isFree (e : TagInfo δ) : Bool := e.owner.isNone

/-- The entry for a tag that a vendor has just claimed. -/
def claimed (tag : ContextTag) (vendor : VendorId) : TagInfo δ := { tag, owner := some vendor }

@[simp] theorem isFree_empty (tag : ContextTag) : (empty tag : TagInfo δ).isFree = true := rfl

@[simp] theorem isFree_claimed (tag : ContextTag) (vendor : VendorId) :
    (claimed tag vendor : TagInfo δ).isFree = false := rfl

end TagInfo

/-- The tags of one client. -/
structure TagTable (δ : Type) where
  /-- The entries, from tag 1 on. -/
  entries : List (TagInfo δ) := []
  deriving DecidableEq, Repr, Inhabited

namespace TagTable

variable {δ : Type}

/-- The number of entries of a table when its first tag is claimed. -/
def initialCapacity : Nat := 16

/-- The number of entries, free or not. -/
def capacity (t : TagTable δ) : Nat := t.entries.length

/-- The entries that are not free, in the order of their tags. -/
def live (t : TagTable δ) : List (TagInfo δ) := t.entries.filter fun e => !e.isFree

/-- The number of live tags. -/
def liveCount (t : TagTable δ) : Nat := t.live.length

/-- The place of a tag in the table; zero has none. -/
def place? (tag : ContextTag) : Option Nat :=
  if tag = 0 then none else some (tag.toNat - 1)

/-- The tag of a place. -/
def tagAt (i : Nat) : ContextTag := UInt32.ofNat (i + 1)

/-- The entry of a live tag. -/
def lookup (t : TagTable δ) (tag : ContextTag) : Option (TagInfo δ) :=
  (place? tag).bind fun i => t.entries[i]?.filter fun e => !e.isFree

/-- Changes the entry of a live tag. -/
def modify (t : TagTable δ) (tag : ContextTag) (f : TagInfo δ → TagInfo δ) : TagTable δ :=
  match place? tag with
  | none => t
  | some i => ⟨t.entries.modify i fun e => if e.isFree then e else f e⟩

/-- Makes a tag free, and forgets everything about it. -/
def free (t : TagTable δ) (tag : ContextTag) : TagTable δ :=
  match place? tag with
  | none => t
  | some i => ⟨t.entries.set i (.empty tag)⟩

/-! ### Allocation -/

/-- The number of entries of a full table after it has grown. -/
def grownCapacity (t : TagTable δ) : Nat :=
  if t.capacity = 0 then initialCapacity else t.capacity * 2

/-- A full table after it has grown; the new entries are free. -/
def grown (t : TagTable δ) : TagTable δ :=
  ⟨t.entries ++
    (List.range' t.capacity (t.grownCapacity - t.capacity)).map fun i => .empty (tagAt i)⟩

/-- Claims the tag of a place for a vendor. Nothing is left of what stood there. -/
def claim (t : TagTable δ) (i : Nat) (vendor : VendorId) : ContextTag × TagTable δ :=
  (tagAt i, ⟨t.entries.set i (.claimed (tagAt i) vendor)⟩)

/-- Claims the lowest free tag for a vendor. There is none if the table would have to grow past the
largest tag. -/
def allocate? (t : TagTable δ) (vendor : VendorId) : Option (ContextTag × TagTable δ) :=
  match t.entries.findIdx? TagInfo.isFree with
  | some i => some (t.claim i vendor)
  | none =>
    if t.grownCapacity < UInt32.size then some (t.grown.claim t.capacity vendor) else none

/-! ### Places -/

/-- The first place belongs to tag one. -/
theorem place?_eq_some_iff {tag : ContextTag} {i : Nat} :
    place? tag = some i ↔ tag.toNat = i + 1 := by
  have h0 : tag = 0 ↔ tag.toNat = 0 := by
    rw [← UInt32.toNat_inj]
    rfl
  rw [place?]
  split
  · simp_all
  · simp_all
    omega

/-- Distinct tags have distinct places. -/
theorem place?_inj {a b : ContextTag} {i : Nat} (ha : place? a = some i) (hb : place? b = some i) :
    a = b := by
  rw [place?_eq_some_iff] at ha hb
  exact UInt32.toNat_inj.mp (ha.trans hb.symm)

theorem place?_tagAt {i : Nat} (h : i + 1 < UInt32.size) : place? (tagAt i) = some i := by
  rw [place?_eq_some_iff, tagAt, UInt32.toNat_ofNat', Nat.mod_eq_of_lt h]

@[simp] theorem lookup_zero (t : TagTable δ) : t.lookup 0 = none := rfl

/-- A tag is live if the entry in its place is not free. -/
theorem lookup_of_place? {t : TagTable δ} {tag : ContextTag} {i : Nat} (h : place? tag = some i) :
    t.lookup tag = t.entries[i]?.filter fun e => !e.isFree := by
  rw [lookup, h, Option.bind_some]

/-- A tag that is found has an owner. -/
theorem isSome_owner_of_lookup {t : TagTable δ} {tag : ContextTag} {e : TagInfo δ}
    (h : t.lookup tag = some e) : e.owner.isSome := by
  simp only [lookup, Option.bind_eq_some_iff, Option.filter_eq_some_iff] at h
  obtain ⟨i, _, _, he⟩ := h
  cases ho : e.owner <;> simp_all [TagInfo.isFree]

/-! ### Look-ups after each operation -/

/-- A freed tag is not live, and all others are as before. -/
theorem lookup_free (t : TagTable δ) (a b : ContextTag) :
    (t.free a).lookup b = if b = a then none else t.lookup b := by
  cases ha : place? a with
  | none =>
    -- only zero has no place
    have h0 : a = 0 := by
      rw [place?] at ha
      split at ha <;> simp_all
    subst h0
    by_cases hb : b = 0 <;> simp [free, ha, hb]
  | some i =>
    by_cases hb : b = a
    · subst hb
      rw [lookup_of_place? ha, free, ha, if_pos rfl, List.getElem?_set_self']
      cases t.entries[i]? <;> simp
    · rw [if_neg hb]
      cases hp : place? b with
      | none => rw [lookup, lookup, hp, Option.bind_none, Option.bind_none]
      | some j =>
        -- another tag has another place
        have hij : i ≠ j := fun h => hb (place?_inj hp (h ▸ ha))
        rw [lookup_of_place? hp, lookup_of_place? hp, free, ha]
        simp only
        rw [List.getElem?_set_ne hij]

/-- A live tag changes its entry, and all others are as before. -/
theorem lookup_modify (t : TagTable δ) (a b : ContextTag) (f : TagInfo δ → TagInfo δ) :
    (t.modify a f).lookup b =
      if b = a then ((t.lookup b).map f).filter fun e => !e.isFree else t.lookup b := by
  cases ha : place? a with
  | none =>
    -- only zero has no place
    have h0 : a = 0 := by
      rw [place?] at ha
      split at ha <;> simp_all
    subst h0
    by_cases hb : b = 0 <;> simp [modify, ha, hb]
  | some i =>
    by_cases hb : b = a
    · subst hb
      rw [if_pos rfl, lookup_of_place? ha, lookup_of_place? ha, modify, ha]
      simp only [List.getElem?_modify_eq]
      cases t.entries[i]? with
      | none => rfl
      | some e => cases he : e.isFree <;> simp [Option.filter_some, he]
    · rw [if_neg hb]
      cases hp : place? b with
      | none => rw [lookup, lookup, hp, Option.bind_none, Option.bind_none]
      | some j =>
        -- another tag has another place
        have hij : i ≠ j := fun h => hb (place?_inj hp (h ▸ ha))
        rw [lookup_of_place? hp, lookup_of_place? hp, modify, ha]
        simp [hij]

/-- A claimed place holds its tag, and the tags of other places stay. -/
theorem lookup_claim {t : TagTable δ} {i : Nat} (hi : i < t.entries.length)
    (hs : i + 1 < UInt32.size) (vendor : VendorId) (b : ContextTag) :
    (t.claim i vendor).2.lookup b =
      if b = tagAt i then some (.claimed (tagAt i) vendor) else t.lookup b := by
  have ha := place?_tagAt hs
  by_cases hb : b = tagAt i
  · subst hb
    rw [lookup_of_place? ha, claim]
    simp [hi, Option.filter_some]
  · rw [if_neg hb]
    cases hp : place? b with
    | none => rw [lookup, lookup, hp, Option.bind_none, Option.bind_none]
    | some j =>
      have hij : i ≠ j := fun h => hb (place?_inj hp (h ▸ ha))
      rw [lookup_of_place? hp, lookup_of_place? hp, claim]
      simp only
      rw [List.getElem?_set_ne hij]

/-- Growing adds free entries only, so it changes no look-up. -/
theorem lookup_grown (t : TagTable δ) (b : ContextTag) : t.grown.lookup b = t.lookup b := by
  cases hp : place? b with
  | none => rw [lookup, lookup, hp, Option.bind_none, Option.bind_none]
  | some j =>
    rw [lookup_of_place? hp, lookup_of_place? hp, grown]
    by_cases hj : j < t.entries.length
    · rw [List.getElem?_append_left hj]
    · have hj := Nat.not_lt.mp hj
      rw [List.getElem?_append_right hj, List.getElem?_eq_none hj, List.getElem?_map]
      cases (List.range' t.capacity (t.grownCapacity - t.capacity))[j - t.entries.length]? <;>
        simp [Option.filter_some]

theorem capacity_lt_grownCapacity (t : TagTable δ) : t.capacity < t.grownCapacity := by
  rw [grownCapacity]
  split
  · next h => rw [h]; decide
  · omega

theorem capacity_grown (t : TagTable δ) : t.grown.capacity = t.grownCapacity := by
  have := t.capacity_lt_grownCapacity
  simp only [capacity, grown, List.length_append, List.length_map, List.length_range'] at *
  omega

/-- A new tag was not live, is found with its new owner and nothing else, and no other look-up
changes. -/
theorem lookup_allocate? {t u : TagTable δ} {vendor : VendorId} {tag : ContextTag}
    (hcap : t.capacity < UInt32.size) (h : t.allocate? vendor = some (tag, u)) (b : ContextTag) :
    t.lookup tag = none ∧
      u.lookup b = if b = tag then some (.claimed tag vendor) else t.lookup b := by
  rw [allocate?] at h
  split at h
  · -- there is a free place
    next i hi =>
    cases h
    obtain ⟨hlt, hfree, _⟩ := List.findIdx?_eq_some_iff_getElem.mp hi
    have hs : i + 1 < UInt32.size := by
      have : i < t.capacity := hlt
      omega
    refine ⟨?_, lookup_claim hlt hs vendor b⟩
    rw [lookup_of_place? (place?_tagAt hs), List.getElem?_eq_getElem hlt]
    simp [Option.filter_some, hfree]
  · next hnone =>
    split at h
    · -- the table is full and grows; the tag gets the first of the new places
      next hsize =>
      cases h
      have hlt : t.capacity < t.grown.entries.length := by
        have := t.capacity_lt_grownCapacity
        rw [← capacity_grown] at this
        exact this
      have hs : t.capacity + 1 < UInt32.size := by
        have := t.capacity_lt_grownCapacity
        omega
      refine ⟨?_, ?_⟩
      · have hout : t.entries[t.capacity]? = none := List.getElem?_eq_none (Nat.le_refl _)
        rw [lookup_of_place? (place?_tagAt hs), hout]
        rfl
      · rw [← lookup_grown t b]
        exact lookup_claim hlt hs vendor b
    · cases h

end TagTable

end VendorDispatch
