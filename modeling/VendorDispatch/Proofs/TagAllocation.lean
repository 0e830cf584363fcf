import Mathlib.Algebra.Group.Nat.Defs
import Mathlib.Data.List.Nodup
import Mathlib.Data.List.Perm.Basic
import Mathlib.Order.Bounds.Basic
import VendorDispatch.Proofs.TagTable

/-!
The table of tags as an allocator.

A history lists the calls on a table with what they answered, the latest first. What a table does is
said of its history alone, without a look at places and free entries.

* `liveTags`, `peakTags`: the live tags after a history, and the most that were live at one time.
* `TagTable.Reached`: the tables that histories lead to.
* `TagTable.Numbered.liveCount_eq`: tables count the tags that they find.
* `TagTable.Fits`: the room of a table, as the most tags that it ever held leave it.
* `TagTable.Follows`, `TagTable.least_free_allocator`: a table finds what its history made live,
  hands out the least tag that is not live, and has the least room that the history asks for.
-/

namespace VendorDispatch

variable {δ : Type}

/-! ### Counting keys -/

namespace Assoc

variable {κ ν : Type} [DecidableEq κ] {m : Assoc κ ν} {k : κ}

/-- No key has two pairs. -/
def OneEach (m : Assoc κ ν) : Prop := (m.entries.map Prod.fst).Nodup

omit [DecidableEq κ] in
lemma oneEach_empty : (empty : Assoc κ ν).OneEach := List.nodup_nil

lemma mem_keys_iff : k ∈ m.entries.map Prod.fst ↔ (m.get? k).isSome = true := by
  rw [get?, Option.isSome_map, List.find?_isSome, List.mem_map]
  simp only [decide_eq_true_eq]

lemma OneEach.erase (h : m.OneEach) (k : κ) : (m.erase k).OneEach :=
  List.Nodup.sublist (List.filter_sublist.map Prod.fst) h

lemma OneEach.insert (h : m.OneEach) (k : κ) (v : ν) : (m.insert k v).OneEach := by
  refine List.nodup_cons.mpr ⟨?_, h.erase k⟩
  rw [mem_keys_iff, get?_erase_self]
  exact Bool.false_ne_true

/-- A new key is one key more. -/
lemma size_insert_of_get?_eq_none (v : ν) (h : m.get? k = none) :
    (m.insert k v).size = m.size + 1 := by
  rw [size, insert, erase_of_get?_eq_none h, List.length_cons, size]

end Assoc

/-! ### Histories -/

/-- A call on a table of tags, with what it was given and what it answered. -/
inductive TagDeed (δ : Type)
  /-- The vendor was handed the tag. -/
  | allocated (vendor : VendorId) (tag : ContextTag)
  /-- The tag was freed. -/
  | freed (tag : ContextTag)
  /-- The entry of the tag was looked up and written to, if the tag was found. -/
  | written (tag : ContextTag) (change : TagInfo δ → TagInfo δ)

/-- The live tags with their entries, after one more call. -/
def TagDeed.enter (live : Assoc ContextTag (TagInfo δ)) :
    TagDeed δ → Assoc ContextTag (TagInfo δ)
  | .allocated vendor tag => live.insert tag (.claimed tag vendor)
  | .freed tag => live.erase tag
  | .written tag change =>
    match live.get? tag with
    | none => live
    | some e => if (change e).isFree then live.erase tag else live.insert tag (change e)

/-- The live tags with their entries, after a history. -/
def liveTags : List (TagDeed δ) → Assoc ContextTag (TagInfo δ)
  | [] => .empty
  | deed :: earlier => deed.enter (liveTags earlier)

/-- The most tags that were live at one time in a history. -/
def peakTags : List (TagDeed δ) → Nat
  | [] => 0
  | deed :: earlier => max (peakTags earlier) (liveTags (deed :: earlier)).size

/-- The history leads from the table without entries to this table. -/
inductive TagTable.Reached : List (TagDeed δ) → TagTable δ → Prop
  /-- A new table has no history. -/
  | new : Reached [] {}
  /-- A tag is handed out. -/
  | allocated {earlier : List (TagDeed δ)} {t u : TagTable δ} {vendor : VendorId}
      {tag : ContextTag} (before : Reached earlier t)
      (answer : t.allocate? vendor = some (tag, u)) : Reached (.allocated vendor tag :: earlier) u
  /-- A tag is freed, whether it is live or not. -/
  | freed {earlier : List (TagDeed δ)} {t : TagTable δ} (before : Reached earlier t)
      (tag : ContextTag) : Reached (.freed tag :: earlier) (t.free tag)
  /-- Fields of an entry are written to, but the tag in it is not. -/
  | written {earlier : List (TagDeed δ)} {t : TagTable δ} (before : Reached earlier t)
      (tag : ContextTag) {change : TagInfo δ → TagInfo δ}
      (keeps : ∀ e, (change e).tag = e.tag) :
      Reached (.written tag change :: earlier) (t.modify tag change)

lemma oneEach_liveTags (deeds : List (TagDeed δ)) : (liveTags deeds).OneEach := by
  induction deeds with
  | nil => exact Assoc.oneEach_empty
  | cons deed earlier ih =>
      rw [liveTags]
      cases deed with
      | allocated vendor tag => exact ih.insert tag _
      | freed tag => exact ih.erase tag
      | written tag change =>
          rw [TagDeed.enter]
          split
          · exact ih
          · split_ifs
            · exact ih.erase tag
            · exact ih.insert tag _

/-- What a call has written is what is found. -/
lemma get?_liveTags_written (earlier : List (TagDeed δ)) (tag b : ContextTag)
    (change : TagInfo δ → TagInfo δ) :
    (liveTags (.written tag change :: earlier)).get? b =
      if b = tag then (((liveTags earlier).get? b).map change).filter fun e => !e.isFree
      else (liveTags earlier).get? b := by
  rw [liveTags, TagDeed.enter]
  split
  · next hnone =>
    split_ifs with hb
    · rw [hb, hnone]
      rfl
    · rfl
  · next e he =>
    by_cases hb : b = tag
    · subst hb
      rw [if_pos rfl, he, Option.map_some, Option.filter_some]
      by_cases hfree : (change e).isFree = true <;> simp [hfree]
    · rw [if_neg hb]
      split_ifs
      · rw [Assoc.get?_erase, if_neg hb]
      · rw [Assoc.get?_insert, if_neg hb]

/-- Without a tag handed out none was ever live. -/
lemma liveTags_eq_empty {deeds : List (TagDeed δ)}
    (h : ∀ vendor tag, .allocated vendor tag ∉ deeds) :
    liveTags deeds = .empty ∧ peakTags deeds = 0 := by
  induction deeds with
  | nil => exact ⟨rfl, rfl⟩
  | cons deed earlier ih =>
      obtain ⟨hlive, hpeak⟩ := ih fun vendor tag hmem => h vendor tag (List.mem_cons_of_mem _ hmem)
      have hnext : liveTags (deed :: earlier) = .empty := by
        rw [liveTags, hlive]
        cases deed with
        | allocated vendor tag => exact (h vendor tag List.mem_cons_self).elim
        | freed | written => rfl
      refine ⟨hnext, ?_⟩
      rw [peakTags, hnext, hpeak]
      rfl

/-- A tag handed out was live. -/
lemma peakTags_pos {deeds : List (TagDeed δ)} {vendor : VendorId} {tag : ContextTag}
    (h : .allocated vendor tag ∈ deeds) : 0 < peakTags deeds := by
  induction deeds with
  | nil => cases h
  | cons deed earlier ih =>
      rw [peakTags]
      rcases List.mem_cons.mp h with rfl | hmem
      · exact Nat.lt_of_lt_of_le (Nat.succ_pos _) (Nat.le_max_right _ _)
      · exact Nat.lt_of_lt_of_le (ih hmem) (Nat.le_max_left _ _)

/-! ### Entries and tags -/

namespace TagTable

variable {t u : TagTable δ} {tag : ContextTag} {vendor : VendorId}

/-- A table without a free entry is full. -/
lemma liveCount_eq_capacity (h : t.entries.findIdx? TagInfo.isFree = none) :
    t.liveCount = t.capacity := by
  rw [List.findIdx?_eq_none_iff] at h
  rw [liveCount, live, List.filter_eq_self.mpr fun e he => by simp [h e he], capacity]

/-- A new tag is that of the first free place. It is a place of the table as it was, or the table
was full and has grown. -/
lemma allocate?_place (h : t.allocate? vendor = some (tag, u)) :
    ∃ i, tag = tagAt i ∧ i < u.capacity ∧
      (∀ j, j < i → ∃ e, t.entries[j]? = some e ∧ e.isFree = false) ∧
      (u.capacity = t.capacity ∨ t.liveCount = t.capacity ∧ u.capacity = t.grownCapacity) := by
  rw [allocate?] at h
  split at h
  · next i hi =>
    cases h
    obtain ⟨hlt, -, hbefore⟩ := List.findIdx?_eq_some_iff_getElem.mp hi
    have hcap : (t.claim i vendor).2.capacity = t.capacity := by simp [claim, capacity]
    refine ⟨i, rfl, hcap ▸ hlt, fun j hj => ?_, .inl hcap⟩
    exact ⟨t.entries[j], List.getElem?_eq_getElem _, by simpa using hbefore j hj⟩
  · next hnone =>
    split_ifs at h
    cases h
    have hfull := liveCount_eq_capacity hnone
    rw [List.findIdx?_eq_none_iff] at hnone
    have hcap : (t.grown.claim t.capacity vendor).2.capacity = t.grownCapacity := by
      rw [← capacity_grown]
      simp [claim, capacity]
    refine ⟨t.capacity, rfl, hcap ▸ t.capacity_lt_grownCapacity, fun j hj => ?_,
      .inr ⟨hfull, hcap⟩⟩
    exact ⟨t.entries[j], List.getElem?_eq_getElem _, hnone _ (List.getElem_mem _)⟩

/-- There is a tag to hand out unless the table is full and too large to grow. -/
lemma exists_allocate? (vendor : VendorId)
    (h : t.liveCount = t.capacity → t.grownCapacity < UInt32.size) :
    ∃ tag u, t.allocate? vendor = some (tag, u) := by
  rw [allocate?]
  split
  · exact ⟨_, _, rfl⟩
  · next hnone =>
    rw [if_pos (h (liveCount_eq_capacity hnone))]
    exact ⟨_, _, rfl⟩

/-- All tags below a new tag are live. -/
lemma Numbered.isSome_lookup_of_lt (h : t.Numbered) (ha : t.allocate? vendor = some (tag, u))
    {b : ContextTag} (hb : 1 ≤ b) (hlt : b < tag) : (t.lookup b).isSome = true := by
  obtain ⟨i, rfl, hi, hbefore, -⟩ := allocate?_place ha
  have hcap := (h.allocate? ha).capacity_lt
  have hi' : (tagAt i).toNat = i + 1 := place?_eq_some_iff.mp (place?_tagAt (by omega))
  have hb' : 1 ≤ b.toNat := UInt32.le_iff_toNat_le.mp hb
  have hlt' : b.toNat < i + 1 := hi' ▸ UInt32.lt_iff_toNat_lt.mp hlt
  have hp : place? b = some (b.toNat - 1) := place?_eq_some_iff.mpr (by omega)
  obtain ⟨e, he, hfree⟩ := hbefore (b.toNat - 1) (by omega)
  rw [lookup_of_place? hp, he]
  simp [Option.filter_some, hfree]

/-- A live entry is found under its tag. -/
lemma Numbered.lookup_of_mem (h : t.Numbered) {e : TagInfo δ} (he : e ∈ t.live) :
    t.lookup e.tag = some e := by
  obtain ⟨hmem, hfree⟩ := List.mem_filter.mp he
  obtain ⟨i, hi⟩ := List.mem_iff_getElem?.mp hmem
  have hlt : i < t.capacity := (List.getElem?_eq_some_iff.mp hi).1
  have hs : i + 1 < UInt32.size := Nat.lt_of_le_of_lt hlt h.capacity_lt
  rw [h.tag i e hi, lookup_of_place? (place?_tagAt hs), hi, Option.filter_some, if_pos hfree]

/-- What is found is a live entry. -/
lemma mem_live_of_lookup {e : TagInfo δ} (h : t.lookup tag = some e) : e ∈ t.live := by
  obtain ⟨i, -, he⟩ := Option.bind_eq_some_iff.mp h
  obtain ⟨he, hfree⟩ := Option.filter_eq_some_iff.mp he
  exact List.mem_filter.mpr ⟨List.mem_of_getElem? he, hfree⟩

/-- No two entries have one tag. -/
lemma Numbered.nodup_tags (h : t.Numbered) : (t.entries.map TagInfo.tag).Nodup := by
  have htags : t.entries.map TagInfo.tag = (List.range t.capacity).map tagAt := by
    refine List.ext_getElem (by simp [capacity]) fun i hi _ => ?_
    rw [List.getElem_map, List.getElem_map, List.getElem_range]
    exact h.tag i _ (List.getElem?_eq_getElem _)
  rw [htags]
  refine List.Nodup.map_on (fun i hi j hj hij => ?_) List.nodup_range
  rw [List.mem_range] at hi hj
  have hcap := h.capacity_lt
  have hp := place?_tagAt (i := i) (by omega)
  rw [hij, place?_tagAt (i := j) (by omega)] at hp
  exact (Option.some.inj hp).symm

/-- The entries that are live are as many as the tags that are found. -/
lemma Numbered.liveCount_eq (h : t.Numbered) {m : Assoc ContextTag (TagInfo δ)} (hm : m.OneEach)
    (hlook : ∀ tag, t.lookup tag = m.get? tag) : t.liveCount = m.size := by
  have hnodup : (t.live.map TagInfo.tag).Nodup :=
    h.nodup_tags.sublist (List.filter_sublist.map TagInfo.tag)
  have hperm : List.Perm (t.live.map TagInfo.tag) (m.entries.map Prod.fst) := by
    refine (List.perm_ext_iff_of_nodup hnodup hm).mpr fun b => ?_
    rw [Assoc.mem_keys_iff, ← hlook, List.mem_map, Option.isSome_iff_exists]
    constructor
    · rintro ⟨e, he, rfl⟩
      exact ⟨e, h.lookup_of_mem he⟩
    · rintro ⟨e, he⟩
      exact ⟨e, mem_live_of_lookup he, h.tag_of_lookup he⟩
  have hlength := hperm.length_eq
  rwa [List.length_map, List.length_map] at hlength

lemma liveCount_le_capacity (t : TagTable δ) : t.liveCount ≤ t.capacity :=
  List.length_filter_le _ _

lemma liveCount_eq_countP (t : TagTable δ) : t.liveCount = t.entries.countP fun e => !e.isFree :=
  List.countP_eq_length_filter.symm

/-- A change that leaves live entries live makes no tag live or free. -/
lemma liveCount_modify (t : TagTable δ) (tag : ContextTag) {f : TagInfo δ → TagInfo δ}
    (hf : ∀ e, (f e).owner = e.owner) : (t.modify tag f).liveCount = t.liveCount := by
  rw [modify]
  cases place? tag with
  | none => rfl
  | some i =>
      have hlive : ∀ e : TagInfo δ, (if e.isFree then e else f e).isFree = e.isFree := by
        intro e
        split_ifs
        · rfl
        · rw [TagInfo.isFree, hf, TagInfo.isFree]
      rw [liveCount_eq_countP, liveCount_eq_countP]
      dsimp only
      generalize t.entries = entries
      induction entries generalizing i with
      | nil => rw [List.modify_nil]
      | cons e entries ih =>
          cases i with
          | zero => rw [List.modify_zero_cons, List.countP_cons, List.countP_cons, hlive]
          | succ i => rw [List.modify_succ_cons, List.countP_cons, List.countP_cons, ih]

/-- A tag that is freed is one live tag less, or was not live. -/
lemma liveCount_free_le (t : TagTable δ) (tag : ContextTag) :
    (t.free tag).liveCount ≤ t.liveCount := by
  rw [free]
  cases place? tag with
  | none => exact Nat.le_refl _
  | some i =>
      rw [liveCount_eq_countP, liveCount_eq_countP]
      dsimp only
      rcases Nat.lt_or_ge i t.entries.length with hlt | hge
      · rw [List.countP_set hlt, TagInfo.isFree_empty, Bool.not_true, if_neg Bool.false_ne_true]
        exact Nat.sub_le _ _
      · rw [List.set_eq_of_length_le hge]

/-- A tag that is not found is not written to. -/
lemma modify_of_lookup_eq_none (h : t.lookup tag = none) (f : TagInfo δ → TagInfo δ) :
    t.modify tag f = t := by
  rw [modify]
  cases hp : place? tag with
  | none => rfl
  | some i =>
      rw [lookup_of_place? hp, Option.filter_eq_none_iff] at h
      refine congrArg TagTable.mk (List.ext_getElem? fun j => ?_)
      rw [List.getElem?_modify]
      split_ifs with hij
      · subst hij
        cases he : t.entries[i]? with
        | none => rfl
        | some e =>
            have hfree : e.isFree = true := by simpa using h e he
            simp [hfree]
      · simp

/-! ### Room -/

/-- The room of a table in which so many tags were live at one time: none for no tags, and else the
least that doubling reaches. -/
def Fits (peak capacity : Nat) : Prop :=
  peak = 0 ∧ capacity = 0 ∨
    ∃ k, capacity = initialCapacity * 2 ^ k ∧ 0 < peak ∧ peak ≤ capacity ∧
      (k = 0 ∨ initialCapacity * 2 ^ (k - 1) < peak)

variable {peak capacity : Nat}

lemma Fits.le (h : Fits peak capacity) : peak ≤ capacity := by
  obtain ⟨hpeak, -⟩ | ⟨k, -, -, hle, -⟩ := h
  · omega
  · exact hle

/-- The room is the least that doubling reaches. -/
lemma Fits.isLeast (h : Fits peak capacity) (hpeak : 0 < peak) :
    IsLeast {c | (∃ k, c = initialCapacity * 2 ^ k) ∧ peak ≤ c} capacity := by
  obtain ⟨hzero, -⟩ | ⟨k, hk, -, hle, hhalf⟩ := h
  · omega
  refine ⟨⟨⟨k, hk⟩, hle⟩, ?_⟩
  rintro c ⟨⟨j, rfl⟩, hj⟩
  rw [hk]
  refine Nat.mul_le_mul_left _ (Nat.pow_le_pow_right (by omega) ?_)
  -- With a smaller exponent, half the room would have been enough.
  by_contra hlt
  have hmono : initialCapacity * 2 ^ j ≤ initialCapacity * 2 ^ (k - 1) :=
    Nat.mul_le_mul_left _ (Nat.pow_le_pow_right (by omega) (by omega))
  omega

/-- A tag more in a table that has room for it. -/
lemma Fits.max_of_le (h : Fits peak capacity) {n : Nat} (hn : n ≤ capacity)
    (hpos : 0 < capacity) : Fits (max peak n) capacity := by
  obtain ⟨-, hzero⟩ | ⟨k, hk, hpeak, hle, hhalf⟩ := h
  · omega
  · exact .inr ⟨k, hk, by omega, by omega, by omega⟩

/-- A tag more in a table that is full. -/
lemma Fits.grown (h : Fits peak t.capacity) :
    Fits (max peak (t.capacity + 1)) t.grownCapacity := by
  rw [grownCapacity]
  obtain ⟨hnone, hzero⟩ | ⟨k, hk, hpeak, hle, -⟩ := h
  · rw [if_pos hzero]
    refine .inr ⟨0, rfl, by omega, ?_, .inl rfl⟩
    rw [initialCapacity]
    omega
  · have hne : t.capacity ≠ 0 := by omega
    rw [if_neg hne]
    refine .inr ⟨k + 1, by rw [hk, Nat.pow_succ, Nat.mul_assoc], by omega, by omega, .inr ?_⟩
    rw [Nat.add_sub_cancel, ← hk]
    omega

/-- A table with fewer than `2 ^ 31` entries can double. -/
lemma Fits.grownCapacity_lt (h : Fits peak t.capacity) (hlt : t.capacity < 2 ^ 31) :
    t.grownCapacity < UInt32.size := by
  rw [grownCapacity]
  split_ifs with hzero
  · decide
  obtain ⟨-, hz⟩ | ⟨k, hk, -, -, -⟩ := h
  · exact absurd hz hzero
  have hsum : t.capacity = 2 ^ (k + 4) := by
    rw [hk, initialCapacity, Nat.pow_add, Nat.mul_comm]
  have hk' : k + 4 < 31 := (Nat.pow_lt_pow_iff_right (by omega)).mp (hsum ▸ hlt)
  have hle : 2 ^ (k + 4) ≤ 2 ^ 30 := Nat.pow_le_pow_right (by omega) (by omega)
  have hsize : UInt32.size = 2 ^ 32 := rfl
  omega

end TagTable

/-! ### What a history makes of a table -/

/-- What is known of a table by its history. -/
structure TagTable.Kept (deeds : List (TagDeed δ)) (t : TagTable δ) : Prop where
  numbered : t.Numbered
  lookup : ∀ tag, t.lookup tag = (liveTags deeds).get? tag
  room : Fits (peakTags deeds) t.capacity

namespace TagTable

variable {deeds earlier : List (TagDeed δ)} {t u : TagTable δ} {tag : ContextTag}
  {vendor : VendorId}

lemma Kept.liveCount_eq (h : Kept deeds t) : t.liveCount = (liveTags deeds).size :=
  h.numbered.liveCount_eq (oneEach_liveTags deeds) h.lookup

/-- A call that hands out no tag leaves the room as it was. -/
lemma Kept.room_of_capacity_eq {deed : TagDeed δ} (h : Kept earlier t) (hu : u.Numbered)
    (hlook : ∀ tag, u.lookup tag = (liveTags (deed :: earlier)).get? tag)
    (hcap : u.capacity = t.capacity) : Fits (peakTags (deed :: earlier)) u.capacity := by
  have hsize : (liveTags (deed :: earlier)).size ≤ u.capacity := by
    rw [← hu.liveCount_eq (oneEach_liveTags _) hlook]
    exact u.liveCount_le_capacity
  rw [peakTags]
  rcases Nat.eq_zero_or_pos u.capacity with hzero | hpos
  · have hle := h.room.le
    have hnone : max (peakTags earlier) (liveTags (deed :: earlier)).size = 0 := by omega
    exact .inl ⟨hnone, hzero⟩
  · have hroom := h.room
    rw [← hcap] at hroom
    exact hroom.max_of_le hsize hpos

/-- A tag that is handed out. -/
lemma Kept.allocated (h : Kept earlier t) (ha : t.allocate? vendor = some (tag, u)) :
    Kept (.allocated vendor tag :: earlier) u := by
  have hlook : ∀ b, u.lookup b = (liveTags (.allocated vendor tag :: earlier)).get? b := by
    intro b
    rw [(lookup_allocate? h.numbered.capacity_lt ha b).2, liveTags, TagDeed.enter,
      Assoc.get?_insert, h.lookup b]
  have hu := h.numbered.allocate? ha
  refine ⟨hu, hlook, ?_⟩
  obtain ⟨i, -, hi, -, hsame | ⟨hfull, hgrown⟩⟩ := allocate?_place ha
  · -- there was a free place, and the table keeps its room
    have hsize : (liveTags (.allocated vendor tag :: earlier)).size ≤ u.capacity := by
      rw [← hu.liveCount_eq (oneEach_liveTags _) hlook]
      exact u.liveCount_le_capacity
    rw [hsame] at hi hsize ⊢
    exact h.room.max_of_le hsize (by omega)
  · -- the table was full, and has grown for one tag more
    have hnew : (liveTags earlier).get? tag = none := by
      rw [← h.lookup]
      exact (lookup_allocate? h.numbered.capacity_lt ha tag).1
    have hsize : (liveTags (.allocated vendor tag :: earlier)).size = t.capacity + 1 := by
      rw [liveTags, TagDeed.enter, Assoc.size_insert_of_get?_eq_none _ hnew, ← h.liveCount_eq,
        hfull]
    rw [hgrown, peakTags, hsize]
    exact h.room.grown

lemma Kept.freed (h : Kept earlier t) (tag : ContextTag) :
    Kept (.freed tag :: earlier) (t.free tag) := by
  have hlook : ∀ b, (t.free tag).lookup b = (liveTags (.freed tag :: earlier)).get? b := by
    intro b
    rw [lookup_free, liveTags, TagDeed.enter, Assoc.get?_erase, h.lookup b]
  have hu := h.numbered.free tag
  exact ⟨hu, hlook, h.room_of_capacity_eq hu hlook (capacity_free t tag)⟩

lemma Kept.written (h : Kept earlier t) (tag : ContextTag) {change : TagInfo δ → TagInfo δ}
    (hkeeps : ∀ e, (change e).tag = e.tag) :
    Kept (.written tag change :: earlier) (t.modify tag change) := by
  have hlook : ∀ b, (t.modify tag change).lookup b =
      (liveTags (.written tag change :: earlier)).get? b := by
    intro b
    rw [lookup_modify, get?_liveTags_written, h.lookup b]
  have hu := h.numbered.modify tag hkeeps
  exact ⟨hu, hlook, h.room_of_capacity_eq hu hlook (capacity_modify t tag change)⟩

/-- Every history keeps what is known of its table. -/
lemma Reached.kept (h : Reached deeds t) : Kept deeds t := by
  induction h with
  | new => exact ⟨numbered_empty, fun _ => by simp [TagTable.lookup, liveTags], .inl ⟨rfl, rfl⟩⟩
  | allocated _ answer ih => exact ih.allocated answer
  | freed _ tag ih => exact ih.freed tag
  | written _ tag keeps ih => exact ih.written tag keeps

/-- As long as fewer than `2 ^ 31` tags are live there is a tag to hand out: the least that is not
live, without anything of what its entry held before. -/
lemma Kept.allocates (h : Kept deeds t) (hfew : (liveTags deeds).size < 2 ^ 31)
    (vendor : VendorId) :
    ∃ tag u, t.allocate? vendor = some (tag, u) ∧
      IsLeast {b | 1 ≤ b ∧ (liveTags deeds).get? b = none} tag ∧
      u.lookup tag = some (.claimed tag vendor) := by
  obtain ⟨tag, u, ha⟩ := exists_allocate? vendor fun hfull =>
    h.room.grownCapacity_lt (by rwa [← hfull, h.liveCount_eq])
  obtain ⟨hnew, hfound⟩ := lookup_allocate? h.numbered.capacity_lt ha tag
  refine ⟨tag, u, ha, ⟨⟨?_, by rw [← h.lookup, hnew]⟩, ?_⟩, by rw [hfound, if_pos rfl]⟩
  · have hne := h.numbered.ne_zero_of_allocate? ha
    rw [ne_eq, ← UInt32.toNat_inj] at hne
    exact UInt32.le_iff_toNat_le.mpr (Nat.one_le_iff_ne_zero.mpr hne)
  · rintro b ⟨hb, hfree⟩
    by_contra hlt
    have hlive := h.numbered.isSome_lookup_of_lt ha hb (UInt32.not_le.mp hlt)
    rw [h.lookup, hfree] at hlive
    cases hlive

/-- The table is a least-free allocator with this history. -/
structure Follows (deeds : List (TagDeed δ)) (t : TagTable δ) : Prop where
  /-- The live tags are found and no others, each with what was last written to it. -/
  lookup : ∀ tag, t.lookup tag = (liveTags deeds).get? tag
  /-- A live tag is not zero, and its entry carries it. -/
  tag_eq : ∀ tag e, (liveTags deeds).get? tag = some e → e.tag = tag ∧ tag ≠ 0
  /-- A tag that is not live is not found for writing either. -/
  modify : ∀ tag change, (liveTags deeds).get? tag = none → t.modify tag change = t
  /-- The least tag that is not live is handed out, empty but for its owner. -/
  allocate : (liveTags deeds).size < 2 ^ 31 → ∀ vendor, ∃ tag u,
    t.allocate? vendor = some (tag, u) ∧
      IsLeast {b | 1 ≤ b ∧ (liveTags deeds).get? b = none} tag ∧
      u.lookup tag = some (.claimed tag vendor) ∧ ∀ b, b ≠ tag → u.lookup b = t.lookup b
  /-- Freeing makes a tag not live, and nothing else. -/
  free : ∀ tag b, (t.free tag).lookup b = if b = tag then none else t.lookup b
  liveCount : t.liveCount = (liveTags deeds).size
  /-- Before the first tag is handed out there are no entries. -/
  capacity_zero : (∀ vendor tag, .allocated vendor tag ∉ deeds) → t.capacity = 0
  /-- From then on the table has doubled its sixteen entries as often as it had to. -/
  capacity : ∀ vendor tag, .allocated vendor tag ∈ deeds →
    IsLeast {c | (∃ k, c = 16 * 2 ^ k) ∧ peakTags deeds ≤ c} t.capacity

/-- Whatever a table of tags went through, it is a least-free allocator. -/
theorem least_free_allocator (h : Reached deeds t) : Follows deeds t where
  lookup := h.kept.lookup
  tag_eq tag e he := by
    rw [← h.kept.lookup] at he
    refine ⟨h.kept.numbered.tag_of_lookup he, ?_⟩
    rintro rfl
    cases he
  modify tag change hnone := modify_of_lookup_eq_none (by rw [h.kept.lookup, hnone]) change
  allocate hfew vendor := by
    obtain ⟨tag, u, ha, hleast, hfound⟩ := h.kept.allocates hfew vendor
    refine ⟨tag, u, ha, hleast, hfound, fun b hb => ?_⟩
    rw [(lookup_allocate? h.kept.numbered.capacity_lt ha b).2, if_neg hb]
  free := lookup_free t
  liveCount := h.kept.liveCount_eq
  capacity_zero hnone := by
    have hroom := h.kept.room
    rw [(liveTags_eq_empty hnone).2] at hroom
    obtain ⟨-, hzero⟩ | ⟨-, -, hpeak, -⟩ := hroom
    · exact hzero
    · exact (Nat.lt_irrefl 0 hpeak).elim
  capacity vendor tag hmem := h.kept.room.isLeast (peakTags_pos hmem)

end TagTable

section Orphaned

/-- The history of two tags, one of which is written to and then loses its owner. -/
def forsaken : List (TagDeed Nat) :=
  [.written 1 fun e => { e with owner := none },
    .written 1 fun e => { e with data := some 7, context := 5 }, .allocated ⟨0⟩ 2, .allocated ⟨0⟩ 1]

/-- The next vendor gets the tag without an owner, and nothing that was on it. -/
theorem least_free_allocator_forsaken :
    ∃ t : TagTable Nat, TagTable.Reached (.allocated ⟨1⟩ 1 :: forsaken) t ∧
      TagTable.Follows (.allocated ⟨1⟩ 1 :: forsaken) t ∧
      t.lookup 1 = some (.claimed 1 ⟨1⟩) ∧ t.liveCount = 2 ∧ t.capacity = 16 := by
  have two : TagTable.Reached (δ := Nat) [.allocated ⟨0⟩ 2, .allocated ⟨0⟩ 1] _ :=
    .allocated (.allocated .new rfl) rfl
  have forgotten : TagTable.Reached forsaken _ :=
    .written (.written two 1 (by intro; rfl)) 1 (by intro; rfl)
  have handed : TagTable.Reached (.allocated ⟨1⟩ 1 :: forsaken) _ := .allocated forgotten rfl
  exact ⟨_, handed, TagTable.least_free_allocator handed, rfl, rfl, rfl⟩

end Orphaned

end VendorDispatch
