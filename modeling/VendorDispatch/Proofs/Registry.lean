import Mathlib.Data.List.Nodup
import VendorDispatch.Proofs.Callback

/-!
Who is registered and who is initialized, operation by operation.

* `contains_create`, `contains_destroy`: registration alone adds and removes vendors, apart from
  `contains_clear`.
* `isInitialized_beginGeneration`, `isInitialized_demote`: the vendors of a generation are those
  that were marked at its start, less those whose initialization failed.
* `length_create` and the lemmas after it: handles are given out one after the other, and none is
  taken back.
* `Registry.Every`: a statement about the callbacks of every vendor. No operation changes them
  (`Every.create` and the lemmas after it).
-/

namespace VendorDispatch

namespace Registry

variable {σ δ : Type} {r u : Registry σ δ} {i : VendorInterface σ δ} {id v : VendorId}

/-- Only a registered vendor is initialized. -/
lemma isInitialized_iff :
    r.isInitialized v = true ↔ ∃ w, r.get? v = some w ∧ w.initialized = true := by
  rw [isInitialized, Option.any_eq_true]

/-- An initialized vendor is registered. -/
lemma contains_of_isInitialized (h : r.isInitialized v = true) : r.contains v = true := by
  obtain ⟨w, hw, -⟩ := isInitialized_iff.mp h
  rw [contains, hw]
  rfl

/-! ### Registration -/

/-- A new vendor is registered from then on, and nobody else is. -/
lemma contains_create (h : r.create i = .ok (id, u)) (v : VendorId) :
    u.contains v = (decide (v = id) || r.contains v) := by
  have hg := (get?_create h v).2
  rw [contains, contains, hg]
  by_cases hv : v = id <;> simp [hv]

/-- A freed vendor is not registered any more, and everybody else is as before. -/
lemma contains_destroy (h : r.destroy id = .ok u) (v : VendorId) :
    u.contains v = (decide (v ≠ id) && r.contains v) := by
  rw [contains, contains, get?_destroy h]
  by_cases hv : v = id <;> simp [hv]

/-- Only a registered vendor that takes no part in the generation is freed. -/
lemma get?_of_destroy (h : r.destroy id = .ok u) :
    ∃ w, r.get? id = some w ∧ w.initialized = false := by
  rw [destroy] at h
  cases hg : r.get? id with
  | none => simp [hg] at h
  | some w =>
      cases hw : w.initialized with
      | false => exact ⟨w, rfl, hw⟩
      | true => simp [hg, hw] at h

/-- A new vendor is not initialized, and the others are as before. -/
lemma isInitialized_create (h : r.create i = .ok (id, u)) (v : VendorId) :
    u.isInitialized v = r.isInitialized v := by
  obtain ⟨hid, hg⟩ := get?_create h v
  rw [isInitialized, isInitialized, hg]
  split_ifs with hv
  · subst hv
    rw [get?_eq_none_of_le (Nat.le_of_eq hid.symm)]
    rfl
  · rfl

/-- To free a vendor initializes nobody, and the freed one was not initialized. -/
lemma isInitialized_destroy (h : r.destroy id = .ok u) (v : VendorId) :
    u.isInitialized v = r.isInitialized v := by
  rw [isInitialized, isInitialized, get?_destroy h]
  split_ifs with hv
  · subst hv
    obtain ⟨w, hw, hi⟩ := get?_of_destroy h
    simp [hw, hi]
  · rfl

/-- A new vendor takes no part in the generation. -/
lemma active_create (h : r.create i = .ok (id, u)) : u.active = r.active := by
  rw [create] at h
  split at h
  · cases h
    rfl
  · cases h

/-- A vendor that can be freed took no part in it. -/
lemma active_destroy (h : r.destroy id = .ok u) : u.active = r.active := by
  rw [destroy] at h
  split at h
  · cases h
  · split at h
    · cases h
    · cases h
      rfl

/-! ### Generations -/

@[simp] lemma contains_beginGeneration (r : Registry σ δ) (v : VendorId) :
    r.beginGeneration.contains v = r.contains v := by
  rw [contains, contains, get?_beginGeneration, Option.isSome_map]

@[simp] lemma contains_demote (r : Registry σ δ) (id v : VendorId) :
    (r.demote id).contains v = r.contains v := by
  rw [contains, contains, get?_demote]
  split_ifs
  · rw [Option.isSome_map]
  · rfl

@[simp] lemma contains_endGeneration (r : Registry σ δ) (v : VendorId) :
    r.endGeneration.contains v = r.contains v := by
  rw [contains, contains, get?_endGeneration, Option.isSome_map]

@[simp] lemma contains_clear (r : Registry σ δ) (v : VendorId) : r.clear.contains v = false := by
  rw [contains, get?_clear]
  rfl

/-- The vendors that a generation starts with are initialized. -/
lemma isInitialized_beginGeneration (h : v ∈ r.beginGeneration.active) :
    r.beginGeneration.isInitialized v = true := by
  obtain ⟨-, hc⟩ := List.mem_filter.mp h
  rw [interface?, Option.any_map, Option.any_eq_true] at hc
  obtain ⟨w, hw, hc⟩ := hc
  have hw' : r.beginGeneration.get? v = some { w with initialized := true } := by
    rw [get?_beginGeneration, hw, Option.map_some]
    rw [if_pos hc]
  exact isInitialized_iff.mpr ⟨_, hw', rfl⟩

/-- No vendor is initialized twice. -/
lemma nodup_active_beginGeneration (r : Registry σ δ) : r.beginGeneration.active.Nodup := by
  have hinj : Function.Injective VendorId.mk := fun a b h => by
    cases h
    rfl
  have hall := List.Nodup.map hinj (List.nodup_range (n := r.places.length))
  exact (hall.filter _).filter _

/-- A vendor that is demoted is not initialized any more. -/
lemma isInitialized_demote (r : Registry σ δ) (id v : VendorId) :
    (r.demote id).isInitialized v = (decide (v ≠ id) && r.isInitialized v) := by
  rw [isInitialized, isInitialized, get?_demote]
  split_ifs with hv
  · cases r.get? v <;> simp [hv]
  · simp [hv]

/-- A vendor that is taken out of the generation is no longer active. -/
lemma mem_active_demote : v ∈ (r.demote id).active ↔ v ∈ r.active ∧ v ≠ id := by
  simp [demote]

/-! ### Handles that were given out -/

/-- A registered vendor has a handle that was given out. -/
lemma lt_of_contains (h : r.contains v = true) : v.index < r.places.length := by
  obtain ⟨w, hw⟩ := Option.isSome_iff_exists.mp h
  exact lt_of_get?_eq_some hw

/-- A new vendor takes a new place. -/
lemma length_create (h : r.create i = .ok (id, u)) : u.places.length = r.places.length + 1 := by
  rw [create] at h
  split at h
  · cases h
    simp
  · cases h

/-- A freed vendor leaves its place empty. -/
lemma length_destroy (h : r.destroy id = .ok u) : u.places.length = r.places.length := by
  rw [destroy] at h
  split at h
  · cases h
  · split at h
    · cases h
    · cases h
      simp

@[simp] lemma length_beginGeneration (r : Registry σ δ) :
    r.beginGeneration.places.length = r.places.length := by
  simp [beginGeneration, mapVendors]

@[simp] lemma length_demote (r : Registry σ δ) (id : VendorId) :
    (r.demote id).places.length = r.places.length := by
  simp [demote]

@[simp] lemma length_endGeneration (r : Registry σ δ) :
    r.endGeneration.places.length = r.places.length := by
  simp [endGeneration, mapVendors]

@[simp] lemma length_clear (r : Registry σ δ) : r.clear.places.length = r.places.length := by
  simp [clear]

/-! ### Callbacks -/

/-- The callbacks of every vendor satisfy `P`. -/
def Every (P : VendorInterface σ δ → Prop) (r : Registry σ δ) : Prop :=
  ∀ v i, r.interface? v = some i → P i

section Every

variable {P : VendorInterface σ δ → Prop}

/-- No callbacks but the ones that were there before. -/
lemma Every.mono (h : r.Every P)
    (hi : ∀ v i, u.interface? v = some i → r.interface? v = some i) : u.Every P :=
  fun v i hv => h v i (hi v i hv)

/-- A new vendor joins the others if its callbacks are like theirs. -/
lemma Every.create (h : r.Every P) (hi : P i) (hc : r.create i = .ok (id, u)) : u.Every P := by
  intro v j hv
  rw [interface?, (get?_create hc v).2] at hv
  split_ifs at hv
  · cases hv
    exact hi
  · exact h v j hv

/-- The vendors that stay are as they were. -/
lemma Every.destroy (h : r.Every P) (hd : r.destroy id = .ok u) : u.Every P := by
  refine h.mono fun v j hv => ?_
  rw [interface?, get?_destroy hd] at hv
  split_ifs at hv
  · cases hv
  · exact hv

/-- What is said of callbacks does not depend on the state of the vendors. -/
lemma Every.mapVendors (h : r.Every P) {f : Vendor σ δ → Vendor σ δ}
    (hf : ∀ w, (f w).interface = w.interface) : (r.mapVendors f).Every P := by
  refine h.mono fun v j hv => ?_
  rw [interface?, get?_mapVendors, Option.map_map] at hv
  rw [interface?, ← hv]
  congr 1
  funext w
  exact (hf w).symm

lemma Every.beginGeneration (h : r.Every P) : r.beginGeneration.Every P :=
  h.mapVendors fun w => by split <;> rfl

lemma Every.endGeneration (h : r.Every P) : r.endGeneration.Every P :=
  h.mapVendors fun _ => rfl

lemma Every.demote (h : r.Every P) (id : VendorId) : (r.demote id).Every P := by
  refine h.mono fun v j hv => ?_
  rw [interface?, get?_demote] at hv
  split_ifs at hv
  · rw [Option.map_map] at hv
    exact hv
  · exact hv

/-- Of no vendors anything is true. -/
lemma Every.clear (r : Registry σ δ) : r.clear.Every P := by
  intro v j hv
  rw [interface?, get?_clear] at hv
  cases hv

lemma every_empty : ({} : Registry σ δ).Every P := by
  intro v j hv
  rw [interface?, get?_eq_none_of_le (Nat.zero_le _)] at hv
  cases hv

end Every

lemma keepsClient_empty : ({} : Registry σ δ).KeepsClient := every_empty

end Registry

end VendorDispatch
