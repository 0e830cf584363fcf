import Mathlib.Data.List.Induction
import Mathlib.Data.List.Forall2
import VendorDispatch.Proofs.ActiveVendors

/-!
The handle of a vendor names this vendor for good, and nobody once the vendor is gone.

* `Registry.Move`, `Registry.afterMoves`: everything that is ever done to a registry, in any order.
  `Registry.handles`: the handles that were given out.
* `contains_moved_iff`: what one move does to who is registered. `contains_afterMoves_iff`: the
  registered vendors are those whose handles were given out, less those that were freed.
* `Registry.Lacks`: the registry knows nothing about a handle, and no call that names it succeeds.
  `Orderly.lacks`: so it is with every vendor that is not registered.
* `Server.moves_apply`, `Server.moves_run`: the router does nothing else to its registry.
* `handles_never_reused`: all of it.
-/

namespace VendorDispatch

variable {σ δ : Type}

namespace Registry

/-! ### Moves -/

/-- What is done to a registry. -/
inductive Move (σ δ : Type)
  /-- A vendor is registered. -/
  | create (interface : VendorInterface σ δ)
  /-- A vendor is freed. -/
  | destroy (vendor : VendorId)
  /-- The complete vendors are initialized. -/
  | beginGeneration
  /-- A vendor is taken out of the generation. -/
  | demote (vendor : VendorId)
  /-- Every vendor is taken out of the generation. -/
  | endGeneration
  /-- Every vendor is freed. -/
  | clear

/-- The registry after a move. One that is refused changes nothing. -/
def moved (r : Registry σ δ) : Move σ δ → Registry σ δ
  | .create i =>
    match r.create i with
    | .ok (_, u) => u
    | .error _ => r
  | .destroy v =>
    match r.destroy v with
    | .ok u => u
    | .error _ => r
  | .beginGeneration => r.beginGeneration
  | .demote v => r.demote v
  | .endGeneration => r.endGeneration
  | .clear => r.clear

/-- The handle that a move gives out. -/
def handle? (r : Registry σ δ) : Move σ δ → Option VendorId
  | .create i =>
    match r.create i with
    | .ok (id, _) => some id
    | .error _ => none
  | .destroy _ | .beginGeneration | .demote _ | .endGeneration | .clear => none

/-- The move frees a vendor. -/
def Frees (r : Registry σ δ) : Move σ δ → VendorId → Prop
  | .destroy w, v => v = w ∧ ∃ u, r.destroy w = .ok u
  | .clear, v => r.contains v = true
  | .create _, _ | .beginGeneration, _ | .demote _, _ | .endGeneration, _ => False

/-- The registry after several moves. -/
def afterMoves (r : Registry σ δ) (moves : List (Move σ δ)) : Registry σ δ := moves.foldl moved r

/-- The handles that several moves give out, in order. -/
def handles (r : Registry σ δ) : List (Move σ δ) → List VendorId
  | [] => []
  | m :: rest => (r.handle? m).toList ++ (r.moved m).handles rest

/-- One of several moves frees a vendor. -/
def Freed (r : Registry σ δ) : List (Move σ δ) → VendorId → Prop
  | [], _ => False
  | m :: rest, v => r.Frees m v ∨ (r.moved m).Freed rest v

variable {r u : Registry σ δ} {m : Move σ δ} {moves : List (Move σ δ)} {v : VendorId}

/-- A vendor that is freed was registered. -/
lemma Frees.contains (h : r.Frees m v) : r.contains v = true := by
  cases m with
  | destroy w =>
      obtain ⟨rfl, u, hu⟩ := h
      obtain ⟨w, hw, -⟩ := get?_of_destroy hu
      rw [Registry.contains, hw]
      rfl
  | clear => exact h
  | create | beginGeneration | demote | endGeneration => exact h.elim

/-- After a move a vendor is registered exactly if the move gave out its handle, or it was
registered before and the move did not free it. -/
lemma contains_moved_iff (r : Registry σ δ) (m : Move σ δ) (v : VendorId) :
    (r.moved m).contains v = true ↔
      r.handle? m = some v ∨ r.contains v = true ∧ ¬ r.Frees m v := by
  cases m with
  | create i =>
      rw [moved, handle?]
      rcases hc : r.create i with e | ⟨id, u⟩
      · simp [Frees]
      · rw [contains_create hc]
        simp [Frees, eq_comm (a := v)]
  | destroy w =>
      rw [moved, handle?]
      rcases hd : r.destroy w with e | u
      · simp [Frees, hd]
      · rw [contains_destroy hd]
        simp [Frees, hd, and_comm]
  | beginGeneration | demote | endGeneration => simp [moved, handle?, Frees]
  | clear => simp [moved, handle?, Frees]

/-- A new handle is greater than all handles before. -/
lemma length_of_handle? (h : r.handle? m = some v) :
    v.index = r.places.length ∧ (r.moved m).places.length = r.places.length + 1 := by
  cases m with
  | create i =>
      rw [handle?] at h
      rw [moved]
      rcases hc : r.create i with e | ⟨id, u⟩ <;> rw [hc] at h
      · cases h
      · cases h
        exact ⟨(get?_create hc v).1, length_create hc⟩
  | destroy | beginGeneration | demote | endGeneration | clear => cases h

/-- No move takes back a place. -/
lemma length_le_moved (r : Registry σ δ) (m : Move σ δ) :
    r.places.length ≤ (r.moved m).places.length := by
  cases m with
  | create i =>
      rw [moved]
      rcases hc : r.create i with e | ⟨id, u⟩
      · exact Nat.le_refl _
      · exact Nat.le_of_lt (Nat.lt_of_succ_le (Nat.le_of_eq (length_create hc).symm))
  | destroy w =>
      rw [moved]
      rcases hd : r.destroy w with e | u
      · exact Nat.le_refl _
      · exact Nat.le_of_eq (length_destroy hd).symm
  | beginGeneration | demote | endGeneration | clear => simp [moved]

/-- Every move leaves the registry in order. -/
lemma Orderly.moved (h : r.Orderly) (m : Move σ δ) : (r.moved m).Orderly := by
  cases m with
  | create i =>
      rw [Registry.moved]
      rcases hc : r.create i with e | ⟨id, u⟩
      · exact h
      · exact h.create hc
  | destroy w =>
      rw [Registry.moved]
      rcases hd : r.destroy w with e | u
      · exact h
      · exact h.destroy hd
  | beginGeneration => exact h.beginGeneration
  | demote w => exact h.demote w
  | endGeneration => exact orderly_endGeneration r
  | clear => exact orderly_clear r

/-! ### Moves one after the other -/

lemma afterMoves_append (r : Registry σ δ) (moves later : List (Move σ δ)) :
    r.afterMoves (moves ++ later) = (r.afterMoves moves).afterMoves later := List.foldl_append

lemma afterMoves_concat (r : Registry σ δ) (moves : List (Move σ δ)) (m : Move σ δ) :
    r.afterMoves (moves ++ [m]) = (r.afterMoves moves).moved m := r.afterMoves_append moves [m]

lemma handles_append (r : Registry σ δ) (moves later : List (Move σ δ)) :
    r.handles (moves ++ later) = r.handles moves ++ (r.afterMoves moves).handles later := by
  induction moves generalizing r with
  | nil => rfl
  | cons m moves ih => rw [List.cons_append, handles, ih, handles, List.append_assoc]; rfl

/-- The last move gives out its handle last. -/
lemma handles_concat (r : Registry σ δ) (moves : List (Move σ δ)) (m : Move σ δ) :
    r.handles (moves ++ [m]) = r.handles moves ++ ((r.afterMoves moves).handle? m).toList := by
  rw [handles_append, handles, handles, List.append_nil]

lemma handles_demote (r : Registry σ δ) (failed : List VendorId) :
    r.handles (failed.map .demote) = [] := by
  induction failed generalizing r with
  | nil => rfl
  | cons v failed ih => exact ih (r.demote v)

lemma Orderly.afterMoves (h : r.Orderly) (moves : List (Move σ δ)) :
    (r.afterMoves moves).Orderly := by
  induction moves generalizing r with
  | nil => exact h
  | cons m moves ih => exact ih (h.moved m)

/-- Handles are given out in order, from the first one that was not given out yet. -/
lemma pairwise_handles (r : Registry σ δ) (moves : List (Move σ δ)) :
    (r.handles moves).Pairwise (fun a b => a.index < b.index) ∧
      ∀ v ∈ r.handles moves, r.places.length ≤ v.index := by
  induction moves generalizing r with
  | nil => exact ⟨.nil, fun v hv => by cases hv⟩
  | cons m moves ih =>
      obtain ⟨hsorted, hle⟩ := ih (r.moved m)
      rw [handles]
      cases hm : r.handle? m with
      | none => exact ⟨hsorted, fun v hv => Nat.le_trans (r.length_le_moved m) (hle v hv)⟩
      | some w =>
          obtain ⟨hindex, hlength⟩ := length_of_handle? hm
          have hlt : ∀ v ∈ (r.moved m).handles moves, w.index < v.index := fun v hv => by
            have := hle v hv
            omega
          refine ⟨List.pairwise_cons.mpr ⟨hlt, hsorted⟩, fun v hv => ?_⟩
          rcases List.mem_cons.mp hv with rfl | hv
          · exact Nat.le_of_eq hindex.symm
          · have := hlt v hv
            omega

/-- What was freed by the last move, or before. -/
lemma freed_concat_iff (r : Registry σ δ) (moves : List (Move σ δ)) (m : Move σ δ)
    (v : VendorId) :
    r.Freed (moves ++ [m]) v ↔ r.Freed moves v ∨ (r.afterMoves moves).Frees m v := by
  induction moves generalizing r with
  | nil => simp [Freed, afterMoves]
  | cons n moves ih =>
      rw [List.cons_append, Freed, ih, Freed, or_assoc]
      rfl

/-- A vendor that is freed has a handle that was given out. -/
lemma Freed.lt (h : r.Freed moves v) : v.index < (r.afterMoves moves).places.length := by
  induction moves using List.reverseRecOn with
  | nil => exact h.elim
  | append_singleton moves last ih =>
      rw [afterMoves_concat]
      rcases (r.freed_concat_iff moves last v).mp h with h | h
      · exact Nat.lt_of_lt_of_le (ih h) (length_le_moved _ last)
      · exact Nat.lt_of_lt_of_le (lt_of_contains h.contains) (length_le_moved _ last)

/-- The registered vendors are those whose handles were given out, less those that were freed. -/
lemma contains_afterMoves_iff :
    (({} : Registry σ δ).afterMoves moves).contains v = true ↔
      v ∈ ({} : Registry σ δ).handles moves ∧ ¬ ({} : Registry σ δ).Freed moves v := by
  induction moves using List.reverseRecOn with
  | nil => simp [afterMoves, handles, contains, get?]
  | append_singleton moves last ih =>
      rw [afterMoves_concat, contains_moved_iff, ih, handles_concat, List.mem_append,
        Option.mem_toList, freed_concat_iff]
      constructor
      · rintro (hnew | ⟨⟨hold, hkept⟩, hlast⟩)
        · -- What was freed was registered, so its handle would not be new any more.
          have hindex := (length_of_handle? hnew).1
          refine ⟨.inr hnew, ?_⟩
          rintro (h | h)
          · exact Nat.ne_of_lt h.lt hindex
          · exact Nat.ne_of_lt (lt_of_contains h.contains) hindex
        · exact ⟨.inl hold, fun h => h.elim hkept hlast⟩
      · rintro ⟨hold | hnew, hkept⟩
        · exact .inr ⟨⟨hold, fun h => hkept (.inl h)⟩, fun h => hkept (.inr h)⟩
        · exact .inl hnew

/-! ### Handles that name nobody -/

/-- The registry knows nothing about a handle, and no call that names it succeeds or changes
anything. -/
structure Lacks (r : Registry σ δ) (v : VendorId) : Prop where
  contains : r.contains v = false
  isInitialized : r.isInitialized v = false
  active : v ∉ r.active
  ids : v ∉ r.ids
  destroy : r.destroy v = .error .unknownVendor
  setScreenVendor : ∀ (env : Environment σ δ), env.registry = r → ∀ screen s,
    env.perform (.setScreenVendor screen v) s = .ok (.error .unknownVendor) s
  addXid : ∀ (env : Environment σ δ), env.registry = r → ∀ id s,
    env.perform (.addXid id v) s = .ok false s

/-- A handle that is not registered is refused everywhere. -/
lemma Orderly.lacks (h : r.Orderly) (hv : r.contains v = false) : r.Lacks v := by
  have hnone : r.get? v = none := by
    rw [contains, Option.isSome_eq_false_iff, Option.isNone_iff_eq_none] at hv
    exact hv
  have hinit : r.isInitialized v = false := by
    rw [isInitialized, hnone]
    rfl
  refine ⟨hv, hinit, fun ha => ?_, fun hi => ?_, ?_, fun env he screen s => ?_,
    fun env he id s => ?_⟩
  · rw [h.mem_active, hinit] at ha
    cases ha
  · rw [mem_ids, hv] at hi
    cases hi
  · rw [Registry.destroy, hnone]
  · rw [Environment.perform, Environment.setScreenVendor, he, hv]
    rfl
  · rw [Environment.perform, Environment.addXid, he, hv]
    rfl

/-- What any moves, from a registry without vendors on, do to handles. -/
structure HandlesLast (moves : List (Move σ δ)) : Prop where
  /-- Each handle is greater than every one before. -/
  increasing : (({} : Registry σ δ).handles moves).Pairwise fun a b => a.index < b.index
  /-- A handle names a vendor exactly if it was given out and the vendor was not freed. -/
  contains_iff : ∀ v, (({} : Registry σ δ).afterMoves moves).contains v = true ↔
    v ∈ ({} : Registry σ δ).handles moves ∧ ¬ ({} : Registry σ δ).Freed moves v
  /-- A vendor that was freed is gone for good. -/
  freed : ∀ v, ({} : Registry σ δ).Freed moves v → (({} : Registry σ δ).afterMoves moves).Lacks v
  /-- A handle that was not given out names nobody. -/
  unused : ∀ v, v ∉ ({} : Registry σ δ).handles moves →
    (({} : Registry σ δ).afterMoves moves).Lacks v

lemma handlesLast (moves : List (Move σ δ)) : HandlesLast moves := by
  have horderly := (orderly_empty (σ := σ) (δ := δ)).afterMoves moves
  have hlacks : ∀ v, ¬ (({} : Registry σ δ).afterMoves moves).contains v = true →
      (({} : Registry σ δ).afterMoves moves).Lacks v :=
    fun v hv => horderly.lacks (Bool.not_eq_true _ |>.mp hv)
  refine ⟨(pairwise_handles _ moves).1, fun v => contains_afterMoves_iff, fun v hv => ?_,
    fun v hv => ?_⟩
  · exact hlacks v fun h => (contains_afterMoves_iff.mp h).2 hv
  · exact hlacks v fun h => hv (contains_afterMoves_iff.mp h).1

end Registry

/-! ### The router -/

/-- What an operation does to the registry. -/
def Operation.Moves : Operation σ δ → List (Registry.Move σ δ) → Prop
  | .createVendor i, moves => moves = [.create i]
  | .destroyVendor v, moves => moves = [.destroy v]
  | .beginGeneration _, moves =>
    moves = [] ∨ ∃ failed : List VendorId, moves = .beginGeneration :: failed.map .demote
  | .endGeneration, moves =>
    moves = [] ∨ moves = [.endGeneration] ∨ moves = [.endGeneration, .clear]
  | .serve _, moves | .clientGone _, moves | .resourceFreed _, moves | .perform _, moves
  | .changeWorld _, moves => moves = []

namespace Server

open Registry

variable {s : Server σ δ}

/-- An operation makes the moves that it may make, and no others, and gives out the handles that
they give out. -/
lemma moves_apply (s : Server σ δ) (op : Operation σ δ) :
    ∃ moves, op.Moves moves ∧ (s.apply op).server.registry = s.registry.afterMoves moves ∧
      s.registry.handles moves = (Deed.handle? ⟨op, s.apply op⟩).toList := by
  cases op with
  | createVendor i =>
      refine ⟨[.create i], rfl, ?_⟩
      rw [Server.apply]
      rcases hc : s.registry.create i with e | ⟨id, r⟩
      · simp [createVendor, hc, afterMoves, moved, handles, handle?, Deed.handle?]
      · simp [createVendor, hc, afterMoves, moved, handles, handle?, Deed.handle?]
  | destroyVendor v =>
      refine ⟨[.destroy v], rfl, ?_⟩
      rw [Server.apply]
      rcases hd : s.registry.destroy v with e | r
      · simp [destroyVendor, hd, afterMoves, moved, handles, handle?, Deed.handle?]
      · simp [destroyVendor, hd, afterMoves, moved, handles, handle?, Deed.handle?]
  | beginGeneration entry =>
      rw [Server.apply]
      cases he : s.extension with
      | some e =>
          refine ⟨[], .inl rfl, ?_, rfl⟩
          rw [beginGeneration_of_some he]
          rfl
      | none =>
          -- each vendor whose start fails is demoted, and these are all the moves
          obtain ⟨failed, hfailed⟩ : ∃ failed : List VendorId,
              (s.beginGeneration entry).server.registry =
                s.registry.beginGeneration.afterMoves (failed.map .demote) := by
            refine beginGeneration_keeps
              (I := fun r _ _ => ∃ failed : List VendorId,
                r = s.registry.beginGeneration.afterMoves (failed.map .demote))
              (fun s _ => (s.environment.kept_const _).upheld) ?_ he entry ⟨[], rfl⟩
            rintro r _ _ v ⟨failed, rfl⟩
            refine ⟨failed ++ [v], ?_⟩
            rw [List.map_append, afterMoves_append]
            rfl
          exact ⟨.beginGeneration :: failed.map .demote, .inr ⟨failed, rfl⟩, hfailed,
            handles_demote s.registry.beginGeneration failed⟩
  | endGeneration =>
      rw [Server.apply]
      cases he : s.extension with
      | none =>
          refine ⟨[], .inl rfl, ?_, rfl⟩
          rw [endGeneration_of_none he]
          rfl
      | some entry =>
          -- when the window system exits, the vendors are let go as well
          obtain ⟨-, -, hr | hr⟩ := endGeneration_frame he
          · exact ⟨[.endGeneration], .inr (.inl rfl), hr, rfl⟩
          · exact ⟨[.endGeneration, .clear], .inr (.inr rfl), hr, rfl⟩
  | serve c => exact ⟨[], rfl, (s.serve_sameVendors c).registry, rfl⟩
  | perform program =>
      exact ⟨[], rfl, (s.runSession_sameVendors (s.environment.interpret program)).registry, rfl⟩
  | clientGone | resourceFreed | changeWorld => exact ⟨[], rfl, rfl, rfl⟩

/-- The operations of a run make the moves that they may make, one operation after the other, and
give out the handles that these give out. -/
lemma moves_run (s : Server σ δ) (ops : List (Operation σ δ)) :
    ∃ moves : List (List (Move σ δ)),
      List.Forall₂ (fun d moves => d.operation.Moves moves) (s.run ops) moves ∧
      (s.after (s.run ops)).registry = s.registry.afterMoves moves.flatten ∧
      s.registry.handles moves.flatten = (s.run ops).filterMap Deed.handle? := by
  induction ops generalizing s with
  | nil => exact ⟨[], .nil, rfl, rfl⟩
  | cons op rest ih =>
      obtain ⟨moves, hmoves, hregistry, hhandles⟩ := s.moves_apply op
      have hhead : ∀ deeds : List (Deed σ δ),
          List.filterMap Deed.handle? (⟨op, s.apply op⟩ :: deeds) =
            s.registry.handles moves ++ deeds.filterMap Deed.handle? := by
        intro deeds
        rw [hhandles, List.filterMap_cons]
        cases Deed.handle? ⟨op, s.apply op⟩ <;> rfl
      cases hr : (s.apply op).result with
      | error a =>
          rw [run_cons_of_error hr]
          refine ⟨[moves], .cons hmoves .nil, ?_, ?_⟩
          · rw [List.flatten_singleton]
            exact hregistry
          · rw [hhead, List.flatten_singleton]
            exact (List.append_nil _).symm
      | ok a =>
          -- the moves of one operation, followed by those of the rest
          obtain ⟨later, hlater, hregistry', hhandles'⟩ := ih (s.apply op).server
          rw [run_cons_of_ok hr]
          refine ⟨moves :: later, .cons hmoves hlater, ?_, ?_⟩
          · rw [after_cons, List.flatten_cons, afterMoves_append, ← hregistry]
            exact hregistry'
          · rw [hhead, List.flatten_cons, handles_append, ← hregistry, hhandles']

/-- A vendor of another major version is refused, and nothing changes. -/
lemma apply_createVendor_of_incompatible (s : Server σ δ) {i : VendorInterface σ δ}
    (h : i.abi.major ≠ AbiVersion.current.major) :
    s.apply (.createVendor i) = ⟨.ok (.error .incompatibleAbiVersion), [], s⟩ := by
  have hc : s.registry.create i = .error .incompatibleAbiVersion := by
    rw [create, AbiVersion.isCompatibleWith]
    simp [h]
  rw [Server.apply, createVendor, hc]
  rfl

/-- Where destroying a vendor fails, nothing changes. -/
lemma apply_destroyVendor_of_error (s : Server σ δ) {v : VendorId} {e : Error}
    (h : s.registry.destroy v = .error e) :
    s.apply (.destroyVendor v) = ⟨.ok (.error e), [], s⟩ := by
  rw [Server.apply, destroyVendor, h]
  rfl

end Server

/-- Handles are given out in increasing order, and the handle of a vendor that was freed names
nobody ever again, in whatever order a registry is worked on. This is all that the router does to
its registry, and what it refuses changes nothing. -/
theorem handles_never_reused :
    (∀ moves : List (Registry.Move σ δ), Registry.HandlesLast moves) ∧
    (∀ (host : WindowSystem σ) (world : σ) (nestingLimit : Nat) (ops : List (Operation σ δ)),
      ∃ moves : List (List (Registry.Move σ δ)),
        List.Forall₂ (fun d moves => d.operation.Moves moves)
          ((Server.new host world nestingLimit).run ops) moves ∧
        ((Server.new host world nestingLimit).after
            ((Server.new host world nestingLimit).run ops)).registry =
          ({} : Registry σ δ).afterMoves moves.flatten ∧
        ({} : Registry σ δ).handles moves.flatten =
          ((Server.new host world nestingLimit).run ops).filterMap Deed.handle?) ∧
    (∀ (s : Server σ δ) (i : VendorInterface σ δ), i.abi.major ≠ AbiVersion.current.major →
      s.apply (.createVendor i) = ⟨.ok (.error .incompatibleAbiVersion), [], s⟩) ∧
    ∀ (s : Server σ δ) (v : VendorId) (e : Error), s.registry.destroy v = .error e →
      s.apply (.destroyVendor v) = ⟨.ok (.error e), [], s⟩ :=
  ⟨Registry.handlesLast, fun host world nestingLimit ops =>
      (Server.new host world nestingLimit).moves_run ops,
    fun s _ => s.apply_createVendor_of_incompatible, fun s _ _ => s.apply_destroyVendor_of_error⟩

/-- A vendor that is not destroyed during its generation, but after it, and another vendor. -/
def Registry.replacement : List (Registry.Move Unit Nat) :=
  [.create (.obliging 0 none), .beginGeneration, .destroy ⟨0⟩, .endGeneration, .destroy ⟨0⟩,
    .create (.obliging 0 none)]

/-- The second vendor has a handle of its own, and the first one's is of no use any more. -/
theorem handles_never_reused_replacement :
    ({} : Registry Unit Nat).handles Registry.replacement = [⟨0⟩, ⟨1⟩] ∧
      (({} : Registry Unit Nat).afterMoves Registry.replacement).Lacks ⟨0⟩ ∧
      (({} : Registry Unit Nat).afterMoves Registry.replacement).contains ⟨1⟩ = true := by
  have last := handles_never_reused.1 Registry.replacement
  have hfreed : ({} : Registry Unit Nat).Freed Registry.replacement ⟨0⟩ :=
    .inr (.inr (.inr (.inr (.inl ⟨rfl, _, rfl⟩))))
  exact ⟨by decide +kernel, last.freed _ hfreed, by decide +kernel⟩

end VendorDispatch
