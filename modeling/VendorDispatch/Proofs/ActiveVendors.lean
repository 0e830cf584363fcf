import Mathlib.Data.List.Perm.Basic
import VendorDispatch.Proofs.Operation

/-!
Who takes part in the current generation.

The registry keeps this twice, as a flag of each vendor and as the list of active vendors, and the
owners of screens depend on it too.

* `Registry.Orderly`: the list is in the order of registration, it names the vendors with the flag
  and no others, and these have the required callbacks.
* `Registry.Orderly.create`, `Registry.Orderly.demote` and the lemmas between them: every operation
  on the registry leaves it orderly, so every operation of the router does (`orderly_apply`).
* `Server.Idle.apply`: between generations no vendor takes part.
* `active_vendors`: all of this, and who owns screens, of every router that operations lead to.
-/

namespace VendorDispatch

variable {σ δ : Type}

/-! ### The list and the flags -/

namespace Registry

variable {r u : Registry σ δ} {i : VendorInterface σ δ} {id v : VendorId}

/-- The active vendors are the initialized ones, in the order of registration, and every one of them
has the required callbacks. -/
structure Orderly (r : Registry σ δ) : Prop where
  sorted : r.active.Pairwise fun a b => a.index < b.index
  mem_active : ∀ v, v ∈ r.active ↔ r.isInitialized v = true
  complete : ∀ v w, r.get? v = some w → w.initialized = true → w.interface.isComplete = true

/-- Handles are listed in the order in which they were given out. -/
lemma pairwise_ids (r : Registry σ δ) : r.ids.Pairwise fun a b => a.index < b.index := by
  have hrange : ((List.range r.places.length).map VendorId.mk).Pairwise
      fun a b => a.index < b.index :=
    List.pairwise_map.mpr List.pairwise_lt_range
  exact hrange.filter _

lemma mem_ids : v ∈ r.ids ↔ r.contains v = true := by
  have hlt : r.contains v = true → v.index < r.places.length := lt_of_contains
  have hrange : v ∈ (List.range r.places.length).map VendorId.mk ↔ v.index < r.places.length := by
    cases v
    simp
  rw [ids, List.mem_filter, hrange]
  exact ⟨fun h => h.2, fun h => ⟨hlt h, h⟩⟩

/-- The initialized vendors are those that say so. -/
lemma mem_initializedIds : v ∈ r.initializedIds ↔ r.isInitialized v = true := by
  rw [initializedIds, List.mem_filter, mem_ids]
  exact ⟨fun h => h.2, fun h => ⟨contains_of_isInitialized h, h⟩⟩

/-- Two lists in the order of registration that name the same vendors are the same. -/
lemma eq_of_pairwise {first second : List VendorId}
    (hfirst : first.Pairwise fun a b => a.index < b.index)
    (hsecond : second.Pairwise fun a b => a.index < b.index)
    (h : ∀ v, v ∈ first ↔ v ∈ second) : first = second := by
  have hnodup : ∀ l : List VendorId, l.Pairwise (fun a b => a.index < b.index) → l.Nodup :=
    fun l hl => hl.imp fun hab he => by simp [he] at hab
  have hperm : first.Perm second :=
    (List.perm_ext_iff_of_nodup (hnodup _ hfirst) (hnodup _ hsecond)).mpr h
  refine hperm.eq_of_pairwise (fun a b _ _ hab hba => ?_) hfirst hsecond
  omega

/-- Who takes part is initialized, in the order of handles. -/
lemma Orderly.active_eq (h : r.Orderly) : r.active = r.initializedIds := by
  refine eq_of_pairwise h.sorted (r.pairwise_ids.filter _) fun v => ?_
  rw [h.mem_active, mem_initializedIds]

/-! ### Operations on the registry -/

lemma orderly_empty : ({} : Registry σ δ).Orderly where
  sorted := .nil
  mem_active v := by simp [isInitialized, get?]
  complete v w hw := by simp [get?] at hw

/-- A registry without initialized vendors. -/
lemma orderly_of_none (hactive : r.active = []) (h : ∀ v, r.isInitialized v = false) :
    r.Orderly where
  sorted := by
    rw [hactive]
    exact .nil
  mem_active v := by simp [hactive, h v]
  complete v w hw hi := by
    have hv : r.isInitialized v = true := isInitialized_iff.mpr ⟨w, hw, hi⟩
    rw [h v] at hv
    cases hv

/-- A new vendor does not take part. -/
lemma Orderly.create (h : r.Orderly) (hc : r.create i = .ok (id, u)) : u.Orderly where
  sorted := by
    rw [active_create hc]
    exact h.sorted
  mem_active v := by rw [active_create hc, isInitialized_create hc, h.mem_active]
  complete v w hw hi := by
    rw [(get?_create hc v).2] at hw
    split_ifs at hw
    · cases hw
      cases hi
    · exact h.complete v w hw hi

/-- A vendor that takes part cannot be freed. -/
lemma Orderly.destroy (h : r.Orderly) (hd : r.destroy id = .ok u) : u.Orderly where
  sorted := by
    rw [active_destroy hd]
    exact h.sorted
  mem_active v := by rw [active_destroy hd, isInitialized_destroy hd, h.mem_active]
  complete v w hw hi := by
    rw [get?_destroy hd] at hw
    split_ifs at hw
    exact h.complete v w hw hi

/-- The vendors with the required callbacks take part, whoever took part before. -/
lemma Orderly.beginGeneration (h : r.Orderly) : r.beginGeneration.Orderly := by
  -- who is initialized has the callbacks, whether from before or since now
  have hcomplete : ∀ v w, r.beginGeneration.get? v = some w → w.initialized = true →
      w.interface.isComplete = true := by
    intro v w hw hi
    rw [get?_beginGeneration, Option.map_eq_some_iff] at hw
    obtain ⟨w', hw', rfl⟩ := hw
    split_ifs at hi ⊢ with hc
    · exact hc
    · exact h.complete v w' hw' hi
  refine ⟨r.pairwise_ids.filter _, fun v => ⟨isInitialized_beginGeneration, fun hv => ?_⟩,
    hcomplete⟩
  obtain ⟨w, hw, hi⟩ := isInitialized_iff.mp hv
  have hc := hcomplete v w hw hi
  rw [get?_beginGeneration, Option.map_eq_some_iff] at hw
  obtain ⟨w', hw', rfl⟩ := hw
  -- and who has them is registered and takes part
  have hc' : w'.interface.isComplete = true := by
    split_ifs at hc with hif
    · exact hif
    · exact hc
  refine List.mem_filter.mpr ⟨mem_ids.mpr ?_, ?_⟩
  · rw [contains, hw', Option.isSome_some]
  · rw [interface?, hw', Option.map_some, Option.any_some, hc']

/-- A vendor that failed takes no part. -/
lemma Orderly.demote (h : r.Orderly) (id : VendorId) : (r.demote id).Orderly where
  sorted := h.sorted.filter _
  mem_active v := by
    rw [mem_active_demote, isInitialized_demote, h.mem_active]
    simp [and_comm]
  complete v w hw hi := by
    rw [get?_demote] at hw
    split_ifs at hw
    · obtain ⟨w', -, rfl⟩ := Option.map_eq_some_iff.mp hw
      cases hi
    · exact h.complete v w hw hi

/-- Nobody is initialized when a generation has ended. -/
@[simp] lemma isInitialized_endGeneration (r : Registry σ δ) (v : VendorId) :
    r.endGeneration.isInitialized v = false := by
  rw [isInitialized, get?_endGeneration]
  cases r.get? v <;> rfl

@[simp] lemma isInitialized_clear (r : Registry σ δ) (v : VendorId) :
    r.clear.isInitialized v = false := by
  rw [isInitialized, get?_clear]
  rfl

lemma orderly_endGeneration (r : Registry σ δ) : r.endGeneration.Orderly :=
  orderly_of_none rfl r.isInitialized_endGeneration

lemma orderly_clear (r : Registry σ δ) : r.clear.Orderly :=
  orderly_of_none rfl r.isInitialized_clear

end Registry

/-! ### Operations of the router -/

namespace Server

variable {s : Server σ δ}

/-- Every operation leaves the registry orderly, also one that is broken off. -/
lemma orderly_apply (h : s.registry.Orderly) (op : Operation σ δ) :
    (s.apply op).server.registry.Orderly := by
  refine apply_registry op h (fun _ _ _ _ hc => h.create hc) (fun _ _ _ hd => h.destroy hd)
    h.beginGeneration (fun _ v hr => hr.demote v) fun _ _ => ?_
  exact ⟨Registry.orderly_endGeneration _, Registry.orderly_clear _⟩

/-- Between generations no vendor takes part. -/
def Idle (s : Server σ δ) : Prop :=
  s.extension = none → ∀ v, s.registry.isInitialized v = false

lemma Idle.of_sameVendors {t : Server σ δ} (h : s.Idle) (hsame : s.SameVendors t) : t.Idle := by
  rw [Idle, hsame.extension, hsame.registry]
  exact h

/-- Every operation leaves a router without initialized vendors between generations. -/
lemma Idle.apply (h : s.Idle) (op : Operation σ δ) : (s.apply op).server.Idle := by
  cases op with
  | createVendor i =>
      rw [Server.apply]
      rcases hc : s.createVendor i with e | ⟨id, t⟩
      · exact h
      · obtain ⟨r, hr, rfl⟩ := createVendor_of_ok hc
        exact fun he v => (Registry.isInitialized_create hr v).trans (h he v)
  | destroyVendor v =>
      rw [Server.apply]
      rcases hc : s.destroyVendor v with e | t
      · exact h
      · obtain ⟨r, hr, rfl⟩ := destroyVendor_of_ok hc
        exact fun he v => (Registry.isInitialized_destroy hr v).trans (h he v)
  | beginGeneration entry =>
      rw [Server.apply]
      cases he : s.extension with
      | some e =>
          rw [beginGeneration_of_some he]
          exact h
      | none =>
          -- a generation has started, so this is not a time between generations
          intro hnone
          rw [(beginGeneration_frame he entry).1] at hnone
          cases hnone
  | endGeneration =>
      rw [Server.apply]
      cases he : s.extension with
      | none =>
          rw [endGeneration_of_none he]
          exact h
      | some entry =>
          -- the end of a generation demotes all vendors, whether it clears the registry or not
          obtain ⟨-, -, hr | hr⟩ := endGeneration_frame he <;> intro _ v <;> simp [hr]
  | serve c => exact h.of_sameVendors (s.serve_sameVendors c)
  | perform program => exact h.of_sameVendors (s.runSession_sameVendors _)
  | clientGone | resourceFreed | changeWorld => exact h

namespace Reachable

lemma orderly (h : s.Reachable) : s.registry.Orderly :=
  h.of_kept (P := fun s => s.registry.Orderly) (fun _ _ _ => Registry.orderly_empty)
    fun _ op _ hs _ => orderly_apply hs op

lemma idle (h : s.Reachable) : s.Idle :=
  h.of_kept (P := Idle) (fun _ _ _ _ _ => rfl) fun _ op _ hs _ => hs.apply op

end Reachable

end Server

lemma VendorInterface.isComplete_iff {i : VendorInterface σ δ} :
    i.isComplete = true ↔ i.closeDown.isSome = true ∧ i.handleRequest.isSome = true ∧
      i.dispatchAddress.isSome = true ∧ i.makeCurrent.isSome = true := by
  rw [isComplete, validate]
  split_ifs with h
  · exact iff_of_true rfl h
  · exact iff_of_false Bool.false_ne_true h

/-- The active vendors are the registered and initialized ones, in the order of registration. They
have the required callbacks, and nobody else owns a screen. Between generations there are none. -/
theorem active_vendors {s : Server σ δ} (h : s.Reachable) :
    s.registry.active.Pairwise (fun a b => a.index < b.index) ∧
    (∀ v, v ∈ s.registry.active ↔
      s.registry.contains v = true ∧ s.registry.isInitialized v = true) ∧
    s.registry.active = s.registry.initializedIds ∧
    (∀ v w, s.registry.get? v = some w → w.initialized = true →
      w.interface.closeDown.isSome = true ∧ w.interface.handleRequest.isSome = true ∧
        w.interface.dispatchAddress.isSome = true ∧ w.interface.makeCurrent.isSome = true) ∧
    (s.extension = none → ∀ v, s.registry.isInitialized v = false) ∧
    ∀ i v, s.ownership.screenVendor i = some v →
      s.registry.contains v = true ∧ s.registry.isInitialized v = true := by
  have hregistered : ∀ v, s.registry.isInitialized v = true →
      s.registry.contains v = true ∧ s.registry.isInitialized v = true :=
    fun v hv => ⟨Registry.contains_of_isInitialized hv, hv⟩
  refine ⟨h.orderly.sorted, fun v => ?_, h.orderly.active_eq, fun v w hw hi => ?_, h.idle,
    fun i v hv => hregistered v (h.sound.ownership.screens i v hv)⟩
  · rw [h.orderly.mem_active]
    exact ⟨hregistered v, And.right⟩
  · exact VendorInterface.isComplete_iff.mp (h.orderly.complete v w hw hi)

/-- A vendor that gives a screen to another vendor and one to itself, and then fails to
initialize. -/
def VendorInterface.resigning : VendorInterface Unit δ :=
  { obliging 0 none with
    init := some fun _ v => .call (.setScreenVendor 0 ⟨0⟩) fun _ =>
      .call (.setScreenVendor 1 v) fun _ => .done (.error .failed) }

/-- A generation starts with two vendors, the second of which fails. -/
def resignation : List (Operation Unit Nat) :=
  [.createVendor (.obliging 0 none), .createVendor .resigning, .beginGeneration .sample]

/-- The router after the second vendor has failed. -/
def resigned : Server Unit Nat :=
  (Server.new (.blank 2) () 4).after ((Server.new (.blank 2) () 4).run resignation)

/-- The first vendor alone is active, and it owns the screen that the second one gave to it. -/
theorem active_vendors_resigned :
    resigned.Reachable ∧ resigned.registry.active = [⟨0⟩] ∧
      resigned.ownership.screens = [some ⟨0⟩, none] ∧
      resigned.registry.initializedIds = [⟨0⟩] ∧ resigned.registry.isInitialized ⟨0⟩ = true := by
  have hlead : (Server.new (.blank 2) () 4).Leads resignation resigned :=
    .of_run (by decide +kernel)
  have hreach : resigned.Reachable := hlead.reachable (.new _ _ _)
  have hactive : resigned.registry.active = [⟨0⟩] := by decide +kernel
  have hscreens : resigned.ownership.screens = [some ⟨0⟩, none] := by decide +kernel
  obtain ⟨-, -, heq, -, -, howner⟩ := active_vendors hreach
  have hzero : resigned.ownership.screenVendor 0 = some ⟨0⟩ := by
    rw [Ownership.screenVendor, hscreens]
    rfl
  exact ⟨hreach, hactive, hscreens, heq.symm.trans hactive, (howner 0 ⟨0⟩ hzero).2⟩

end VendorDispatch
