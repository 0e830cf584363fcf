import VendorDispatch.Router.Vendor.Interface

/-!
The registry of all vendors.

* `Registry.create` never uses a handle twice; `Registry.destroy` refuses an initialized vendor.
* `Registry.beginGeneration` initializes every vendor whose callbacks are complete,
  `Registry.demote` takes back one whose initialization failed, and `Registry.endGeneration` takes
  back all of them.
* `get?_create`, `get?_destroy`, `get?_beginGeneration`, `get?_demote`, `get?_endGeneration`,
  `get?_clear`: what each operation does to look-ups.
-/

namespace VendorDispatch

/-- A registered vendor. -/
structure Vendor (σ δ : Type) where
  /-- Its callbacks. -/
  interface : VendorInterface σ δ
  /-- Whether it takes part in the current generation. -/
  initialized : Bool := false

/-- All vendors. Everything else refers to them by their handles. -/
structure Registry (σ δ : Type) where
  /-- The vendors in the order of registration; a destroyed one leaves a gap. -/
  places : List (Option (Vendor σ δ)) := []
  /-- The vendors that take part in the current generation, in the order of registration. -/
  active : List VendorId := []

namespace Registry

variable {σ δ : Type}

instance : Inhabited (Registry σ δ) := ⟨{}⟩

/-! ### Look-ups -/

/-- The vendor that a handle names. -/
def get? (r : Registry σ δ) (id : VendorId) : Option (Vendor σ δ) :=
  r.places[id.index]?.join

/-- Whether a handle names a vendor. -/
def contains (r : Registry σ δ) (id : VendorId) : Bool := (r.get? id).isSome

/-- Whether a handle names an initialized vendor. -/
def isInitialized (r : Registry σ δ) (id : VendorId) : Bool :=
  (r.get? id).any Vendor.initialized

/-- The handles of all vendors, in the order of registration. -/
def ids (r : Registry σ δ) : List VendorId :=
  ((List.range r.places.length).map VendorId.mk).filter r.contains

/-- The number of vendors. -/
def size (r : Registry σ δ) : Nat := r.ids.length

/-- Whether there is no vendor. -/
def isEmpty (r : Registry σ δ) : Bool := r.size = 0

/-- The callbacks of the vendor that a handle names. -/
def interface? (r : Registry σ δ) (id : VendorId) : Option (VendorInterface σ δ) :=
  (r.get? id).map Vendor.interface

/-! ### Registration -/

/-- Registers a vendor under a new handle. A vendor without all required callbacks is kept, but
takes part in no generation. -/
def create (r : Registry σ δ) (interface : VendorInterface σ δ) :
    Except Error (VendorId × Registry σ δ) :=
  if interface.abi.isCompatibleWith .current then
    .ok (⟨r.places.length⟩, { r with places := r.places ++ [some { interface }] })
  else
    .error .incompatibleAbiVersion

/-- Frees a vendor that takes no part in the current generation. -/
def destroy (r : Registry σ δ) (id : VendorId) : Except Error (Registry σ δ) :=
  match r.get? id with
  | none => .error .unknownVendor
  | some vendor =>
    if vendor.initialized then
      .error .vendorInitialized
    else
      .ok { r with places := r.places.set id.index none }

/-! ### Generations -/

/-- Changes every vendor. -/
def mapVendors (r : Registry σ δ) (f : Vendor σ δ → Vendor σ δ) : Registry σ δ :=
  { r with places := r.places.map (Option.map f) }

/-- Initializes every vendor whose required callbacks are present. -/
def beginGeneration (r : Registry σ δ) : Registry σ δ :=
  let marked := r.mapVendors fun v =>
    if v.interface.isComplete then { v with initialized := true } else v
  { marked with
    active := r.ids.filter fun id => (r.interface? id).any VendorInterface.isComplete }

/-- Takes a vendor out of the current generation. -/
def demote (r : Registry σ δ) (id : VendorId) : Registry σ δ where
  places := r.places.modify id.index (Option.map fun v => { v with initialized := false })
  active := r.active.filter fun a => a ≠ id

/-- The initialized vendors, in the order of registration. -/
def initializedIds (r : Registry σ δ) : List VendorId := r.ids.filter r.isInitialized

/-- Takes every vendor out of the current generation. -/
def endGeneration (r : Registry σ δ) : Registry σ δ :=
  { r.mapVendors (fun v => { v with initialized := false }) with active := [] }

/-- Frees every vendor. Their handles are not used again. -/
def clear (r : Registry σ δ) : Registry σ δ where
  places := r.places.map fun _ => none
  active := []

/-! ### Look-ups after each operation -/

/-- A handle that was not given out yet stands for nobody. -/
theorem get?_eq_none_of_le {r : Registry σ δ} {id : VendorId} (h : r.places.length ≤ id.index) :
    r.get? id = none := by
  rw [get?, List.getElem?_eq_none h]
  rfl

theorem lt_of_get?_eq_some {r : Registry σ δ} {id : VendorId} {v : Vendor σ δ}
    (h : r.get? id = some v) : id.index < r.places.length := by
  apply Nat.lt_of_not_le
  intro hle
  rw [get?_eq_none_of_le hle] at h
  cases h

/-- A new vendor has a handle that was never used, and no other look-up changes. -/
theorem get?_create {r u : Registry σ δ} {interface : VendorInterface σ δ} {id : VendorId}
    (h : r.create interface = .ok (id, u)) (j : VendorId) :
    id.index = r.places.length ∧
      u.get? j = if j = id then some { interface } else r.get? j := by
  rw [create] at h
  split at h
  · cases h
    refine ⟨rfl, ?_⟩
    by_cases hj : j = ⟨r.places.length⟩
    · subst hj
      simp [get?]
    · rw [if_neg hj, get?, get?]
      have hne : j.index ≠ r.places.length := fun e => hj (by cases j; simp_all)
      rcases Nat.lt_or_ge j.index r.places.length with hlt | hge
      · rw [List.getElem?_append_left hlt]
      · rw [List.getElem?_eq_none hge, List.getElem?_eq_none]
        simp
        omega
  · cases h

/-- A vendor that is freed is not found any more. -/
theorem get?_destroy {r u : Registry σ δ} {id : VendorId} (h : r.destroy id = .ok u)
    (j : VendorId) : u.get? j = if j = id then none else r.get? j := by
  rw [destroy] at h
  split at h
  · cases h
  · next v hv =>
    split at h
    · cases h
    · cases h
      have hlt := lt_of_get?_eq_some hv
      by_cases hj : j = id
      · subst hj
        simp [get?, hlt]
      · have hne : id.index ≠ j.index := fun e => hj (by cases j; cases id; simp_all)
        rw [if_neg hj, get?, get?]
        simp only
        rw [List.getElem?_set_ne hne]

/-- A change of all vendors changes each of them. -/
theorem get?_mapVendors (r : Registry σ δ) (f : Vendor σ δ → Vendor σ δ) (j : VendorId) :
    (r.mapVendors f).get? j = (r.get? j).map f := by
  simp only [get?, mapVendors, List.getElem?_map]
  cases r.places[j.index]? <;> rfl

/-- A complete vendor is initialized when a generation starts. -/
theorem get?_beginGeneration (r : Registry σ δ) (j : VendorId) :
    r.beginGeneration.get? j = (r.get? j).map fun v =>
      if v.interface.isComplete then { v with initialized := true } else v :=
  get?_mapVendors r _ j

theorem get?_demote (r : Registry σ δ) (id j : VendorId) :
    (r.demote id).get? j =
      if j = id then (r.get? j).map fun v => { v with initialized := false } else r.get? j := by
  simp only [get?, demote]
  by_cases hj : j = id
  · subst hj
    rw [if_pos rfl, List.getElem?_modify_eq]
    cases r.places[j.index]? <;> rfl
  · have hne : id.index ≠ j.index := fun e => hj (by cases j; cases id; simp_all)
    rw [if_neg hj]
    simp [hne]

theorem get?_endGeneration (r : Registry σ δ) (j : VendorId) :
    r.endGeneration.get? j = (r.get? j).map fun v => { v with initialized := false } :=
  get?_mapVendors r _ j

theorem get?_clear (r : Registry σ δ) (j : VendorId) : r.clear.get? j = none := by
  simp only [get?, clear, List.getElem?_map]
  cases r.places[j.index]? <;> rfl

end Registry

end VendorDispatch
