import VendorDispatch.Proofs.Caching

/-!
Where the handlers come from that the dispatcher has learned.

* `Procedure.Offered`: an active vendor offers the handler, in some world.
* `Dispatcher.Knows`: the handlers that a dispatcher has learned. After a reset it knows none
  (`not_knows_reset`).
* `resolve_offered`: a handler that is found for a request is offered, and so are those that are
  known afterwards.
* `Server.Reachable.knowsOffered`: every handler that the router knows is offered by a vendor that
  takes part in the generation.
-/

namespace VendorDispatch

variable {σ δ : Type}

/-- One of the active vendors offers the handler for its opcode and code, in some world. -/
def Procedure.Offered (r : Registry σ δ) (p : Procedure σ δ) : Prop :=
  p.vendor ∈ r.active ∧ ∃ i offer w, r.interface? p.vendor = some i ∧
    i.dispatchAddress = some offer ∧ (offer p.minor p.code w).1 = some p.run

/-- An offer stands as long as the vendor takes part. -/
lemma Procedure.Offered.sameActive {r u : Registry σ δ} {p : Procedure σ δ} (hp : p.Offered r)
    (h : r.SameActive u) : p.Offered u := by
  obtain ⟨hv, i, offer, w, hi, hrest⟩ := hp
  exact ⟨h.active ▸ hv, i, offer, w, (h.interface? _ hv).trans hi, hrest⟩

/-- The handlers that a dispatcher has learned. -/
inductive Dispatcher.Knows (d : Dispatcher σ δ) : Procedure σ δ → Prop
  | opcode {i : Nat} (hi : i < opcodeCount) {p : Procedure σ δ} :
    d.opcodes[i] = some (.target (.procedure p)) → Knows d p
  | code (code : UInt32) {p : Procedure σ δ} : d.codes.get? code = some (.procedure p) → Knows d p

namespace Dispatcher

/-- A dispatcher that has learned nothing knows no handlers. -/
lemma not_knows_reset (d : Dispatcher σ δ) (p : Procedure σ δ) : ¬ d.reset.Knows p := by
  -- It is sound even if there are no vendors at all.
  have hsound := d.sound_reset ({} : Registry σ δ)
  have hlearned : ¬ (Target.procedure p).Learned ({} : Registry σ δ) := by
    simp [Target.Learned, Registry.isInitialized, Registry.get?]
  rintro (⟨hi, h⟩ | ⟨code, h⟩)
  · rcases hsound.opcodes _ hi _ h with hp | ⟨t, ht, hl⟩
    · obtain ⟨k, hk, -⟩ := (presetOpcodes_eq_some_iff hi).mp hp
      exact procedure_notMem_preset hk
    · cases ht
      exact hlearned hl
  · rcases hsound.codes code _ h with ⟨ht, -⟩ | hl
    · cases ht
    · exact hlearned hl

/-! ### Learning -/

variable {env : Environment σ δ} {d : Dispatcher σ δ}

/-- What a vendor among the active ones answers is what it offers. -/
lemma askEach_offered (minor : UInt8) (code : UInt32) {vendors : List VendorId}
    (hv : ∀ v ∈ vendors, v ∈ env.registry.active) (s : Session σ δ) :
    Ends (askEach env minor code vendors) s (fun r _ => ∀ p, r = some p → p.Offered env.registry)
      fun _ _ => False := by
  induction vendors generalizing s with
  | nil => exact fun p hp => by cases hp
  | cons vendor rest ih =>
      have hrest := fun v hm => hv v (List.mem_cons_of_mem _ hm)
      rw [askEach]
      split
      · exact ih hrest s
      · -- the vendor is asked, and what it answers is an offer of its own
        next offer hoffer =>
        obtain ⟨i, hi, ho⟩ := Option.bind_eq_some_iff.mp hoffer
        refine ends_bind.mpr (ends_world.mpr ?_)
        have hask : Ends (env.calling vendor (.query minor code)
            (do
              SessionM.setWorld (offer minor code s.world).2
              return (offer minor code s.world).1.isSome : SessionM σ δ Bool)) s
            (fun _ _ => True) fun _ _ => False := (ends_calling (.query minor code)).mpr trivial
        refine ends_bind.mpr (hask.mono ?_ fun _ _ => id)
        intro _ t _
        split
        · next run hrun =>
          rintro p ⟨⟩
          exact ⟨hv vendor List.mem_cons_self, i, offer, s.world, hi, ho, hrun⟩
        · exact ih hrest t

lemma query_offered (minor : UInt8) (code : UInt32) (s : Session σ δ) :
    Ends (query env minor code) s (fun t _ => ∀ p, t = .procedure p → p.Offered env.registry)
      fun _ _ => False := by
  rw [query]
  refine ends_bind.mpr ((askEach_offered minor code (fun _ => id) s).mono ?_ fun _ _ => id)
  rintro (_ | p) t hp
  · rintro _ ⟨⟩
  · rintro _ ⟨⟩
    exact hp p rfl

variable (hd : ∀ p, d.Knows p → p.Offered env.registry)

include hd

/-- A handler that is found for an opcode is offered. -/
lemma resolveOpcode_offered {minor : UInt8} (hi : minor.toNat < opcodeCount) (s : Session σ δ) :
    Ends (resolveOpcode env d minor hi) s
      (fun r _ => (∀ p, r.2.Knows p → p.Offered env.registry) ∧
        ∀ p, r.1 = .target (.procedure p) → p.Offered env.registry)
      fun _ _ => False := by
  cases he : d.opcodes[minor.toNat] with
  | some entry =>
      rw [Ends, resolveOpcode_of_eq_some hi he]
      refine ⟨hd, ?_⟩
      rintro p rfl
      exact hd p (.opcode hi he)
  | none =>
      rw [Dispatcher.resolveOpcode, he]
      refine ends_bind.mpr ((query_offered minor 0 s).mono ?_ fun _ _ => id)
      intro t u ht
      refine ⟨?_, ?_⟩
      · rintro p (⟨hj, h⟩ | ⟨code, h⟩)
        · -- a handler that is known now is the one that was learned, or was known before
          rw [Vector.getElem_set] at h
          split_ifs at h
          · cases h
            exact ht p rfl
          · exact hd p (.opcode hj h)
        · exact hd p (.code code h)
      · rintro p ⟨⟩
        exact ht p rfl

/-- So is one that is found for a vendor code. -/
lemma resolveCode_offered (minor : UInt8) (code : UInt32) (s : Session σ δ) :
    Ends (resolveCode env d minor code) s
      (fun r _ => (∀ p, r.2.Knows p → p.Offered env.registry) ∧
        ∀ p, r.1 = .procedure p → p.Offered env.registry)
      fun _ _ => False := by
  cases hc : d.codes.get? code with
  | some t =>
      rw [Ends, resolveCode_of_eq_some hc]
      refine ⟨hd, ?_⟩
      rintro p rfl
      exact hd p (.code code hc)
  | none =>
      rw [Dispatcher.resolveCode, hc]
      refine ends_bind.mpr ((query_offered minor code s).mono ?_ fun _ _ => id)
      intro t u ht
      refine ⟨?_, ht⟩
      rintro p (⟨hj, h⟩ | ⟨code', h⟩)
      · exact hd p (.opcode hj h)
      · rw [Assoc.get?_insert] at h
        split_ifs at h
        · cases h
          exact ht p rfl
        · exact hd p (.code code' h)

/-- A handler that is found for a request is offered, and so are those that are known then. Finding
it is never broken off. -/
lemma resolve_offered (c : Client) (s : Session σ δ) :
    Ends (d.resolve env c) s
      (fun r _ => (∀ p, r.2.Knows p → p.Offered env.registry) ∧
        ∀ p, r.1 = .ok (.procedure p) → p.Offered env.registry)
      fun _ _ => False := by
  rw [Dispatcher.resolve]
  cases c.minorOpcode with
  | error e => exact ⟨hd, by simp⟩
  | ok minor =>
      by_cases hi : minor.toNat < opcodeCount
      · simp only [dif_pos hi]
        refine ends_bind.mpr ((resolveOpcode_offered hd hi s).mono ?_ fun _ _ => id)
        rintro ⟨entry, d'⟩ u ⟨hd', he⟩
        cases entry with
        | target t =>
            refine ⟨hd', ?_⟩
            rintro p ⟨⟩
            exact he p rfl
        | byVendorCode =>
            cases c.readWord 4 with
            | error e => exact ⟨hd', by simp⟩
            | ok code =>
                -- the code decides, after the opcode was found
                refine ends_bind.mpr ((resolveCode_offered hd' minor code u).mono ?_ fun _ _ => id)
                rintro ⟨t, d''⟩ w ⟨hd'', ht⟩
                refine ⟨hd'', ?_⟩
                rintro p ⟨⟩
                exact ht p rfl
      · simp only [dif_neg hi]
        exact ⟨hd, by simp⟩

end Dispatcher

namespace Server

variable {s : Server σ δ}

/-- The handlers that are known after a request are offered if those from before are. -/
lemma serve_offered (he : s.extension ≠ none)
    (h : ∀ p, s.dispatcher.Knows p → p.Offered s.registry) (c : Client) {p : Procedure σ δ}
    (hp : (s.serve c).server.dispatcher.Knows p) : p.Offered s.registry := by
  have hres : Ends (s.dispatcher.resolve s.environment c) s.session _ _ :=
    Dispatcher.resolve_offered h c s.session
  obtain ⟨⟨found, d⟩, t, hr, hknown, -⟩ := hres.exists_ok
  rw [serve_of_resolve he hr, answered_dispatcher] at hp
  exact hknown p hp

/-- The router knows no handlers but those that participants of its generation offer. -/
structure KnowsOffered (s : Server σ δ) : Prop where
  sound : s.Sound
  offered : ∀ p, s.dispatcher.Knows p → s.extension ≠ none ∧ p.Offered s.registry

/-- Whatever is done, every handler that is known is offered. -/
lemma KnowsOffered.apply (h : s.KnowsOffered) (op : Operation σ δ) :
    (s.apply op).server.KnowsOffered := by
  refine ⟨h.sound.apply op, fun p hp => ?_⟩
  -- nothing is learned outside of requests, and within a generation every offer stands
  have hother (hserve : op.request? = none) (hbegin : ∀ entry, op ≠ .beginGeneration entry)
      (hend : op ≠ .endGeneration) :
      (s.apply op).server.extension ≠ none ∧ p.Offered (s.apply op).server.registry := by
    rw [apply_dispatcher hserve hbegin hend] at hp
    obtain ⟨he, hoffered⟩ := h.offered p hp
    exact ⟨apply_extension he hend ▸ he, hoffered.sameActive (h.sound.apply_sameActive he hend)⟩
  cases op with
  | serve c =>
      by_cases he : s.extension = none
      · have hserve : s.serve c = ⟨.ok (c, .error .badRequest), [], s⟩ := by rw [serve, he]
        rw [Server.apply, hserve] at hp ⊢
        exact h.offered p hp
      · have hsame := s.serve_sameVendors c
        rw [Server.apply, hsame.extension, hsame.registry]
        exact ⟨he, serve_offered he (fun p hp => (h.offered p hp).2) c hp⟩
  | beginGeneration entry =>
      cases he : s.extension with
      | some e =>
          rw [Server.apply, beginGeneration_of_some he] at hp ⊢
          exact h.offered p hp
      | none =>
          rw [Server.apply, (beginGeneration_frame he entry).2] at hp
          exact (Dispatcher.not_knows_reset _ p hp).elim
  | endGeneration =>
      cases he : s.extension with
      | some e =>
          rw [Server.apply, (endGeneration_frame he).2.1] at hp
          exact (Dispatcher.not_knows_reset _ p hp).elim
      | none =>
          rw [Server.apply, endGeneration_of_none he] at hp ⊢
          exact h.offered p hp
  | createVendor | destroyVendor | clientGone | resourceFreed | perform | changeWorld =>
      exact hother rfl (by simp) (by simp)

/-- Every handler that the router knows is offered by a vendor that takes part in the generation. -/
lemma Reachable.knowsOffered (h : s.Reachable) : s.KnowsOffered :=
  h.of_kept (fun host world limit => ⟨sound_new host world limit, fun p hp =>
    (Dispatcher.not_knows_reset .initial p hp).elim⟩) fun _ op _ hs _ => hs.apply op

end Server

end VendorDispatch
