import VendorDispatch.Proofs.Oblivious
import VendorDispatch.Proofs.Operation

/-!
What the dispatcher keeps of the vendors' answers does not show, as long as their answers do not
change.

* `Client.demand`: what a request needs from the vendors: nothing, a handler for its opcode, or one
  for its vendor code. `Client.Settled`: why it needs nothing.
* `Dispatcher.resolveAnew`, `Server.runAnew`: a router that keeps no answers and asks for each
  request anew. A `Naming` says which opcode it names to the vendors beside a vendor code.
* `Dispatcher.Remembers`: what a dispatcher has kept is what the vendors offer, for each vendor code
  under the opcode of the first request with that code.
* `Server.Transparent`: a router and one that asks anew do the same.
* `caches_transparent`: they do, if the latter names the opcode of the first request with a code.
  `ownOpcode_not_transparent`: they need not, if it names the opcode of the request itself.
-/

namespace VendorDispatch

variable {σ δ α : Type}

/-! ### What a request needs from the vendors -/

/-- What a request needs from the vendors before it can be served. -/
inductive Demand (σ δ : Type)
  /-- Nothing: the router knows what serves it, or answers it with an error. -/
  | settled (result : Except ProtocolError (Target σ δ))
  /-- A handler for an opcode that has no target of its own. -/
  | forOpcode (minor : UInt8)
  /-- A handler for the vendor code of a vendor-private request of the given opcode. -/
  | forCode (minor : UInt8) (code : UInt32)

/-- What a client's current request needs from the vendors. -/
def Client.demand (c : Client) : Demand σ δ :=
  match c.minorOpcode with
  | .error e => .settled (.error e)
  | .ok minor =>
    if h : minor.toNat < opcodeCount then
      match Dispatcher.presetOpcodes[minor.toNat] with
      | none => .forOpcode minor
      | some (.target t) => .settled (.ok t)
      | some .byVendorCode =>
        match c.readWord 4 with
        | .error e => .settled (.error e)
        | .ok code =>
          if code = makeCurrentReadCode then .settled (.ok (.makeCurrent .vendorPrivate))
          else .forCode minor code
    else
      .settled (.ok .single)

/-- The vendor code and the opcode of a vendor-private request. -/
def Client.vendorCall? (c : Client) : Option (UInt32 × UInt8) := do
  let minor ← c.minorOpcode.toOption
  let code ← (c.readWord 4).toOption
  if minor = Opcode.vendorPrivate ∨ minor = Opcode.vendorPrivateWithReply then
    some (code, minor)
  else
    none

/-- The opcode of the first vendor-private request with a code. -/
def firstUse? (earlier : List Client) (code : UInt32) : Option UInt8 :=
  (earlier.filterMap Client.vendorCall?).lookup code

/-! ### A router without memory -/

/-- Which opcode is named to the vendors beside a vendor code, from the requests that were served
before and the opcode of the request itself. -/
abbrev Naming := List Client → UInt8 → UInt32 → UInt8

/-- The opcode of the request itself. -/
def ownOpcode : Naming := fun _ minor _ => minor

/-- The opcode of the first request with the same code. -/
def firstOpcode : Naming := fun earlier minor code => (firstUse? earlier code).getD minor

/-- The target of a client's current request, asked of the vendors whatever they have said
before. -/
def Dispatcher.resolveAnew (env : Environment σ δ) (named : UInt8 → UInt32 → UInt8)
    (c : Client) : SessionM σ δ (Except ProtocolError (Target σ δ)) :=
  match c.demand with
  | .settled result => return result
  | .forOpcode minor => Except.ok <$> query env minor 0
  | .forCode minor code => Except.ok <$> query env (named minor code) code

namespace Server

/-- The operation that ends with the given outcome of the work on a request. -/
def answered (s : Server σ δ) :
    EStateM.Result Fault (Exchange σ δ) Unit → Step σ δ (Client × Except ProtocolError Unit)
  | .ok () x => ⟨.ok (x.client, .ok ()), x.session.journal.reverse, s.withSession x.session⟩
  | .error (.error e) x =>
    ⟨.ok (x.client, .error e), x.session.journal.reverse, s.withSession x.session⟩
  | .error (.abort a) x => ⟨.error a, x.session.journal.reverse, s.withSession x.session⟩

/-- Serves the current request of a client, and keeps none of the vendors' answers. -/
def serveAnew (s : Server σ δ) (named : UInt8 → UInt32 → UInt8) (c : Client) :
    Step σ δ (Client × Except ProtocolError Unit) :=
  match s.extension with
  | none => ⟨.ok (c, .error .badRequest), [], s⟩
  | some _ =>
    let work : ExchangeM σ δ Unit := do
      let found ← ExchangeM.onSession (Dispatcher.resolveAnew s.environment named c)
      Target.serve s.environment (← ExchangeM.ofExcept found)
    s.answered (work { client := c, session := s.session })

/-- Performs an operation, and keeps none of the vendors' answers. -/
def applyAnew (s : Server σ δ) (named : UInt8 → UInt32 → UInt8) :
    (op : Operation σ δ) → Step σ δ op.Answer
  | .serve c => s.serveAnew named c
  | .createVendor interface => s.apply (.createVendor interface)
  | .destroyVendor v => s.apply (.destroyVendor v)
  | .beginGeneration entry => s.apply (.beginGeneration entry)
  | .endGeneration => s.apply .endGeneration
  | .clientGone client => s.apply (.clientGone client)
  | .resourceFreed id => s.apply (.resourceFreed id)
  | .perform program => s.apply (.perform program)
  | .changeWorld change => s.apply (.changeWorld change)

end Server

/-- The request that an operation serves. -/
def Operation.request? : Operation σ δ → Option Client
  | .serve c => some c
  | _ => none

namespace Server

/-- Performs operations one after the other, up to one that is broken off, and keeps none of the
vendors' answers. -/
def runAnew (s : Server σ δ) (naming : Naming) (earlier : List Client) :
    List (Operation σ δ) → List (Deed σ δ)
  | [] => []
  | op :: rest =>
    let step := s.applyAnew (naming earlier) op
    ⟨op, step⟩ ::
      match step.result with
      | .ok _ => step.server.runAnew naming (earlier ++ op.request?.toList) rest
      | .error _ => []

/-- What is found to serve a request. -/
def target? (s : Server σ δ) (c : Client) : Option (Except ProtocolError (Target σ δ)) :=
  match s.dispatcher.resolve s.environment c s.session with
  | .ok (found, _) _ => some found
  | .error _ _ => none

/-- What is found to serve a request when the vendors are asked anew. -/
def targetAnew? (s : Server σ δ) (named : UInt8 → UInt32 → UInt8) (c : Client) :
    Option (Except ProtocolError (Target σ δ)) :=
  match Dispatcher.resolveAnew s.environment named c s.session with
  | .ok found _ => some found
  | .error _ _ => none

end Server

/-! ### Doing the same -/

/-- Two operations did the same, apart from asking vendors for handlers and from what the
dispatcher knows afterwards. -/
structure Step.Alike (x y : Step σ δ α) : Prop where
  result : x.result = y.result
  journal : x.journal.filter (fun e => !e.isQuery) = y.journal.filter (fun e => !e.isQuery)
  server : { x.server with dispatcher := y.server.dispatcher } = y.server

/-- The same operation did the same. -/
inductive Deed.Alike : Deed σ δ → Deed σ δ → Prop
  | intro {op : Operation σ δ} {x y : Step σ δ op.Answer} : x.Alike y → Alike ⟨op, x⟩ ⟨op, y⟩

/-- For the given operations, nobody can tell whether the router keeps the vendors' answers: every
operation does the same, and the same is found to serve every request. -/
structure Server.Transparent (s : Server σ δ) (naming : Naming) (ops : List (Operation σ δ)) :
    Prop where
  deeds : List.Forall₂ Deed.Alike (s.run ops) (s.runAnew naming [] ops)
  targets : ∀ before c after t, ops = before ++ .serve c :: after → s.Leads before t →
    t.target? c = t.targetAnew? (naming (before.filterMap Operation.request?)) c

/-- The handlers that a vendor offers depend on the opcode and the code alone. -/
def VendorInterface.OffersPurely (i : VendorInterface σ δ) : Prop :=
  ∀ offer, i.dispatchAddress = some offer →
    ∃ f : UInt8 → UInt32 → Option (RequestHandler σ δ),
      ∀ minor code w, offer minor code w = (f minor code, w)

/-- The handlers that the active vendors offer depend on the opcode and the code alone. -/
def Registry.OffersPurely (r : Registry σ δ) : Prop :=
  ∀ v ∈ r.active, ∀ i, r.interface? v = some i → i.OffersPurely

/-! ### What the vendors offer -/

/-- The handler that a vendor offers in a world. -/
def Registry.offer? (r : Registry σ δ) (w : σ) (minor : UInt8) (code : UInt32) (v : VendorId) :
    Option (Procedure σ δ) :=
  ((r.interface? v).bind VendorInterface.dispatchAddress).bind fun offer =>
    (offer minor code w).1.map fun run => ⟨v, minor, code, run⟩

/-- What the active vendors offer in a world, in the order of registration. -/
def Registry.offered (r : Registry σ δ) (w : σ) (minor : UInt8) (code : UInt32) : Target σ δ :=
  match r.active.findSome? (r.offer? w minor code) with
  | some p => .procedure p
  | none => .unclaimed

/-- What serves a request, given what the vendors offer in a world. -/
def Registry.targetOf (r : Registry σ δ) (w : σ) (named : UInt8 → UInt32 → UInt8) (c : Client) :
    Except ProtocolError (Target σ δ) :=
  match c.demand with
  | .settled result => result
  | .forOpcode minor => .ok (r.offered w minor 0)
  | .forCode minor code => .ok (r.offered w (named minor code) code)

/-- Vendors were asked for handlers in between, and nothing else has happened. -/
def Session.Queried (s t : Session σ δ) : Prop :=
  ∃ asked : List (Event δ), (∀ e ∈ asked, e.isQuery = true) ∧
    t = { s with journal := asked ++ s.journal }

lemma Session.Queried.refl (s : Session σ δ) : s.Queried s :=
  ⟨[], List.forall_mem_nil _, rfl⟩

lemma Session.Queried.trans {s t u : Session σ δ} (h : s.Queried t) (h' : t.Queried u) :
    s.Queried u := by
  obtain ⟨asked, hasked, rfl⟩ := h
  obtain ⟨asked', hasked', rfl⟩ := h'
  exact ⟨asked' ++ asked, List.forall_mem_append.mpr ⟨hasked', hasked⟩, by simp⟩

namespace Dispatcher

variable {env : Environment σ δ} {s : Session σ δ}

/-- Vendors whose offers depend on nothing else offer what they would offer in any world. -/
lemma ends_askEach {vendors : List VendorId} (w : σ) (minor : UInt8) (code : UInt32)
    (hpure : ∀ v ∈ vendors, ∀ i, env.registry.interface? v = some i → i.OffersPurely) :
    Ends (askEach env minor code vendors) s
      (fun p t => p = vendors.findSome? (env.registry.offer? w minor code) ∧ s.Queried t)
      fun _ _ => False := by
  induction vendors generalizing s with
  | nil => exact ⟨rfl, .refl s⟩
  | cons v rest ih =>
      have hrest := fun u hu => hpure u (List.mem_cons_of_mem _ hu)
      rw [askEach, List.findSome?_cons]
      split
      · -- the vendor offers nothing, and is not asked
        next hnone =>
        rw [Registry.offer?, hnone]
        exact ih hrest
      · next offer hsome =>
        obtain ⟨i, hi, hoffer⟩ := Option.bind_eq_some_iff.mp hsome
        obtain ⟨f, hf⟩ := hpure v List.mem_cons_self i hi offer hoffer
        rw [ends_bind, ends_world, Registry.offer?, hsome, Option.bind_some]
        simp only [hf]
        refine ends_bind.mpr ((ends_calling (.query minor code)).mpr ?_)
        -- it is asked, and that is all that the journal shows
        have hasked (answer : Bool) : s.Queried
            ((s.enter (.called v (env.registry.isInitialized v) (.query minor code))).enter
              (.returned v (.query minor code) answer)) :=
          ⟨[_, _], by simp [Event.isQuery], rfl⟩
        cases hm : f minor code with
        | some run => exact ⟨rfl, hasked true⟩
        | none =>
            exact (ih hrest).mono (fun p t ht => ⟨ht.1, (hasked false).trans ht.2⟩) fun _ _ => id

lemma ends_query (hpure : env.registry.OffersPurely) (w : σ) (minor : UInt8) (code : UInt32) :
    Ends (query env minor code) s
      (fun t u => t = env.registry.offered w minor code ∧ s.Queried u) fun _ _ => False := by
  rw [query, ends_bind]
  refine (ends_askEach w minor code hpure).mono ?_ fun _ _ => id
  rintro p t ⟨hp, ht⟩
  rw [Registry.offered, ← hp]
  cases p <;> exact ⟨rfl, ht⟩

/-- Asking anew finds what the vendors offer. -/
lemma ends_resolveAnew (hpure : env.registry.OffersPurely) (w : σ)
    (named : UInt8 → UInt32 → UInt8) (c : Client) :
    Ends (resolveAnew env named c) s
      (fun found t => found = env.registry.targetOf w named c ∧ s.Queried t)
      fun _ _ => False := by
  rw [resolveAnew, Registry.targetOf]
  cases c.demand with
  | settled result => exact ⟨rfl, .refl s⟩
  | forOpcode minor =>
      exact ends_map.mpr ((ends_query hpure w minor 0).mono
        (fun t u h => ⟨congrArg Except.ok h.1, h.2⟩) fun _ _ => id)
  | forCode minor code =>
      exact ends_map.mpr ((ends_query hpure w _ code).mono
        (fun t u h => ⟨congrArg Except.ok h.1, h.2⟩) fun _ _ => id)

end Dispatcher

/-! ### What requests need -/

namespace Client

variable {c : Client} {minor : UInt8} {code : UInt32}

/-- Why nothing is needed for a request. -/
inductive Settled (c : Client) : Except ProtocolError (Target σ δ) → Prop
  /-- It has no opcode. -/
  | noOpcode {e : ProtocolError} : c.minorOpcode = .error e → Settled c (.error e)
  /-- The opcode is beyond the table. -/
  | single {minor : UInt8} : c.minorOpcode = .ok minor → ¬ minor.toNat < opcodeCount →
    Settled c (.ok .single)
  /-- The opcode has a target of its own. -/
  | preset {minor : UInt8} {t : Target σ δ} : c.minorOpcode = .ok minor →
    (hi : minor.toNat < opcodeCount) →
    Dispatcher.presetOpcodes[minor.toNat] = some (.target t) → Settled c (.ok t)
  /-- It is vendor-private and has no vendor code. -/
  | noCode {minor : UInt8} {e : ProtocolError} : c.minorOpcode = .ok minor →
    (hi : minor.toNat < opcodeCount) →
    (Dispatcher.presetOpcodes (σ := σ) (δ := δ))[minor.toNat] = some .byVendorCode →
    c.readWord 4 = .error e → Settled c (.error e)
  /-- It is vendor-private and makes a context current. -/
  | readCode {minor : UInt8} : c.minorOpcode = .ok minor →
    (hi : minor.toNat < opcodeCount) →
    (Dispatcher.presetOpcodes (σ := σ) (δ := δ))[minor.toNat] = some .byVendorCode →
    c.readWord 4 = .ok makeCurrentReadCode → Settled c (.ok (.makeCurrent .vendorPrivate))

lemma settled_of_demand {result : Except ProtocolError (Target σ δ)}
    (h : c.demand = .settled result) : c.Settled result := by
  unfold demand at h
  split at h
  · -- the request has no opcode
    next e he =>
    cases h
    exact .noOpcode he
  · next m hm =>
    split_ifs at h with hi
    · split at h
      · cases h
      · next t ht =>
        cases h
        exact .preset hm hi ht
      · -- the opcode is one of those with a vendor code
        next hp =>
        split at h
        · next e he =>
          cases h
          exact .noCode hm hi hp he
        · next code hcode =>
          split_ifs at h with hread
          cases h
          subst hread
          exact .readCode hm hi hp hcode
    · cases h
      -- the opcode is beyond the table
      exact .single hm hi

lemma demand_eq_forOpcode (h : c.demand = (.forOpcode minor : Demand σ δ)) :
    c.minorOpcode = .ok minor ∧ ∃ hi : minor.toNat < opcodeCount,
      (Dispatcher.presetOpcodes (σ := σ) (δ := δ))[minor.toNat] = none := by
  unfold demand at h
  split at h
  · cases h
  · next m hm =>
    split at h
    · next hi =>
      split at h
      · next hp =>
        cases h
        exact ⟨hm, hi, hp⟩
      · cases h
      · split at h
        · cases h
        · split_ifs at h
    · cases h

lemma demand_eq_forCode (h : c.demand = (.forCode minor code : Demand σ δ)) :
    c.minorOpcode = .ok minor ∧ c.readWord 4 = .ok code ∧ code ≠ makeCurrentReadCode ∧
      ∃ hi : minor.toNat < opcodeCount,
        (Dispatcher.presetOpcodes (σ := σ) (δ := δ))[minor.toNat] = some .byVendorCode := by
  unfold demand at h
  split at h
  · cases h
  · next m hm =>
    split at h
    · next hi =>
      split at h
      · cases h
      · cases h
      · next hp =>
        split at h
        · cases h
        · next k hk =>
          split_ifs at h with hne
          cases h
          exact ⟨hm, hk, hne, hi, hp⟩
    · cases h

/-- A handler for a vendor code is needed for exactly the vendor-private requests that the router
does not serve itself. -/
lemma demand_eq_forCode_iff :
    c.demand = (.forCode minor code : Demand σ δ) ↔
      c.vendorCall? = some (code, minor) ∧ code ≠ makeCurrentReadCode := by
  constructor
  · intro h
    obtain ⟨hm, hk, hne, hi, hp⟩ := demand_eq_forCode h
    -- both opcodes with a vendor code are known from the start
    have hmem := (Dispatcher.presetOpcodes_eq_some_iff_mem hi).mp hp
    refine ⟨?_, hne⟩
    simp [vendorCall?, hm, hk, Except.toOption, Dispatcher.byVendorCode_mem_preset hmem]
  · rintro ⟨h, hne⟩
    cases hm : c.minorOpcode with
    | error e => simp [vendorCall?, hm, Except.toOption] at h
    | ok m =>
        cases hk : c.readWord 4 with
        | error e => simp [vendorCall?, hm, hk, Except.toOption] at h
        | ok k =>
            simp only [vendorCall?, hm, hk, Except.toOption] at h
            simp at h
            obtain ⟨hor, rfl, rfl⟩ := h
            have hmem : (m, .byVendorCode) ∈ (Dispatcher.preset (σ := σ) (δ := δ)) := by
              rcases hor with rfl | rfl <;> simp [Dispatcher.preset, Dispatcher.builtins]
            have hi : m.toNat < opcodeCount := by rcases hor with rfl | rfl <;> decide
            have hp := (Dispatcher.presetOpcodes_eq_some_iff_mem hi).mpr hmem
            unfold demand
            simp only [hm, dif_pos hi, hp, hk, if_neg hne]

end Client

/-- A request with another code, or without one, is no use of a code. -/
lemma firstUse?_concat_of_ne {earlier : List Client} {c : Client} {code : UInt32}
    (h : ∀ minor, c.vendorCall? ≠ some (code, minor)) :
    firstUse? (earlier ++ [c]) code = firstUse? earlier code := by
  rw [firstUse?, List.filterMap_append, List.lookup_append, ← firstUse?]
  cases hc : c.vendorCall? with
  | none => simp [hc]
  | some call =>
      obtain ⟨k, m⟩ := call
      have hk : (code == k) = false := by
        rw [beq_eq_false_iff_ne]
        rintro rfl
        exact h m hc
      simp [hc, List.lookup_cons, hk]

/-- A request with a code is its first use, unless there was one before. -/
lemma firstUse?_concat_self {earlier : List Client} {c : Client} {code : UInt32} {minor : UInt8}
    (h : c.vendorCall? = some (code, minor)) :
    firstUse? (earlier ++ [c]) code = some ((firstUse? earlier code).getD minor) := by
  rw [firstUse?, List.filterMap_append, List.lookup_append, ← firstUse?]
  cases firstUse? earlier code <;> simp [h]

/-! ### What the dispatcher remembers -/

/-- What the dispatcher knows is what it knew from the start and what the vendors offer, for each
vendor code under the opcode of the first request with that code. -/
structure Dispatcher.Remembers (r : Registry σ δ) (w : σ) (earlier : List Client)
    (d : Dispatcher σ δ) : Prop where
  known : ∀ i (hi : i < opcodeCount) entry,
    presetOpcodes[i] = some entry → d.opcodes[i] = some entry
  opcodes : ∀ (minor : UInt8) (hi : minor.toNat < opcodeCount) entry,
    (presetOpcodes (σ := σ) (δ := δ))[minor.toNat] = none → d.opcodes[minor.toNat] = some entry →
      entry = .target (r.offered w minor 0)
  readCode : d.codes.get? makeCurrentReadCode = some (.makeCurrent .vendorPrivate)
  codes : ∀ code, code ≠ makeCurrentReadCode →
    d.codes.get? code = (firstUse? earlier code).map fun minor => r.offered w minor code

namespace Dispatcher

variable {env : Environment σ δ} {r : Registry σ δ} {d : Dispatcher σ δ} {w : σ}
  {earlier : List Client} {c : Client} {minor : UInt8} {code : UInt32} {s : Session σ δ}

lemma remembers_reset (r : Registry σ δ) (w : σ) (d : Dispatcher σ δ) :
    d.reset.Remembers r w [] where
  known _ _ _ h := h
  opcodes minor hi entry hnone hsome := by
    have h : presetOpcodes[minor.toNat] = some entry := hsome
    rw [hnone] at h
    cases h
  readCode := Assoc.get?_insert_self _ _ _
  codes code hne := by
    change presetCodes.get? code = _
    rw [presetCodes, Assoc.get?_insert, if_neg hne]
    rfl

/-- A request that needs no vendor code teaches the dispatcher nothing about codes. -/
lemma Remembers.concat (hd : d.Remembers r w earlier)
    (hc : ∀ minor code, c.demand ≠ (.forCode minor code : Demand σ δ)) :
    d.Remembers r w (earlier ++ [c]) where
  known := hd.known
  opcodes := hd.opcodes
  readCode := hd.readCode
  codes code hne := by
    have hother : ∀ minor, c.vendorCall? ≠ some (code, minor) := fun minor hcall =>
      hc minor code (Client.demand_eq_forCode_iff.mpr ⟨hcall, hne⟩)
    rw [hd.codes code hne, firstUse?_concat_of_ne hother]

/-- What the vendors offer for an opcode is remembered. -/
lemma Remembers.learnOpcode (hd : d.Remembers r w earlier) (hi : minor.toNat < opcodeCount)
    (hnone : (presetOpcodes (σ := σ) (δ := δ))[minor.toNat] = none) (queries : Nat) :
    { d with
      opcodes := d.opcodes.set minor.toNat (some (.target (r.offered w minor 0)))
      queries }.Remembers r w earlier where
  known i hi' entry hp := by
    have hne : minor.toNat ≠ i := by
      rintro rfl
      rw [hnone] at hp
      cases hp
    rw [Vector.getElem_set_ne _ _ hne]
    exact hd.known i hi' entry hp
  opcodes m hi' entry hp hset := by
    rw [Vector.getElem_set] at hset
    split_ifs at hset with hmi
    · obtain rfl := UInt8.toNat_inj.mp hmi
      cases hset
      rfl
    · exact hd.opcodes m hi' entry hp hset
  readCode := hd.readCode
  codes := hd.codes

/-- A request with another code, or without one, is no first use. -/
lemma firstUse?_concat_other (h : c.vendorCall? = some (code, minor)) {k : UInt32} (hk : k ≠ code) :
    firstUse? (earlier ++ [c]) k = firstUse? earlier k := by
  refine firstUse?_concat_of_ne fun m hm => hk ?_
  rw [h] at hm
  cases hm
  rfl

/-- What the vendors offer for a vendor code that is used for the first time is remembered. -/
lemma Remembers.learnCode (hd : d.Remembers r w earlier)
    (hc : c.vendorCall? = some (code, minor)) (hne : code ≠ makeCurrentReadCode)
    (hfirst : firstUse? earlier code = none) (queries : Nat) :
    { d with codes := d.codes.insert code (r.offered w minor code), queries }.Remembers r w
      (earlier ++ [c]) where
  known := hd.known
  opcodes := hd.opcodes
  readCode := by
    rw [Assoc.get?_insert, if_neg hne.symm]
    exact hd.readCode
  codes k hkr := by
    rw [Assoc.get?_insert]
    split_ifs with hk
    · subst hk
      rw [firstUse?_concat_self hc, hfirst]
      rfl
    · rw [hd.codes k hkr, firstUse?_concat_other hc hk]

/-- A vendor code that was used before teaches the dispatcher nothing. -/
lemma Remembers.again (hd : d.Remembers r w earlier) (hc : c.vendorCall? = some (code, minor))
    {first : UInt8} (hfirst : firstUse? earlier code = some first) :
    d.Remembers r w (earlier ++ [c]) where
  known := hd.known
  opcodes := hd.opcodes
  readCode := hd.readCode
  codes k hkr := by
    by_cases hk : k = code
    · subst hk
      rw [hd.codes k hkr, firstUse?_concat_self hc, hfirst]
      rfl
    · rw [hd.codes k hkr, firstUse?_concat_other hc hk]

/-- Nobody is asked for a request that is settled. -/
lemma resolve_of_settled (hknown : ∀ i (hi : i < opcodeCount) entry,
      presetOpcodes[i] = some entry → d.opcodes[i] = some entry)
    (hread : d.codes.get? makeCurrentReadCode = some (.makeCurrent .vendorPrivate))
    {result : Except ProtocolError (Target σ δ)} (h : c.demand = .settled result) :
    d.resolve env c s = .ok (result, d) s := by
  rw [resolve]
  cases Client.settled_of_demand h with
  | noOpcode he =>
      rw [he]
      rfl
  | single hm hi =>
      rw [hm]
      dsimp only
      rw [dif_neg hi]
      rfl
  | preset hm hi ht =>
      rw [hm]
      dsimp only
      rw [dif_pos hi, bind_of_ok (resolveOpcode_of_eq_some hi (hknown _ hi _ ht) s)]
      rfl
  | noCode hm hi hp he =>
      rw [hm]
      dsimp only
      rw [dif_pos hi, bind_of_ok (resolveOpcode_of_eq_some hi (hknown _ hi _ hp) s)]
      dsimp only
      rw [he]
      rfl
  | readCode hm hi hp hcode =>
      rw [hm]
      dsimp only
      rw [dif_pos hi, bind_of_ok (resolveOpcode_of_eq_some hi (hknown _ hi _ hp) s)]
      dsimp only
      rw [hcode]
      dsimp only
      rw [bind_of_ok (resolveCode_of_eq_some hread s)]
      rfl

/-- The vendors are asked for an opcode unless they were asked before. -/
lemma Remembers.ends_resolveOpcode (hd : d.Remembers env.registry w earlier)
    (hpure : env.registry.OffersPurely) (hi : minor.toNat < opcodeCount)
    (hnone : (presetOpcodes (σ := σ) (δ := δ))[minor.toNat] = none) :
    Ends (resolveOpcode env d minor hi) s
      (fun found t => found.1 = .target (env.registry.offered w minor 0) ∧ s.Queried t ∧
        found.2.Remembers env.registry w earlier)
      fun _ _ => False := by
  cases he : d.opcodes[minor.toNat] with
  | some entry =>
      obtain rfl := hd.opcodes minor hi entry hnone he
      rw [Ends, resolveOpcode_of_eq_some hi he s]
      exact ⟨rfl, .refl s, hd⟩
  | none =>
      rw [resolveOpcode, he]
      refine ends_bind.mpr ((ends_query hpure w minor 0).mono ?_ fun _ _ => id)
      rintro t u ⟨rfl, hu⟩
      exact ⟨rfl, hu, hd.learnOpcode hi hnone _⟩

/-- The vendors are asked for a vendor code when it is used for the first time. -/
lemma Remembers.ends_resolveCode (hd : d.Remembers env.registry w earlier)
    (hpure : env.registry.OffersPurely) (hc : c.vendorCall? = some (code, minor))
    (hne : code ≠ makeCurrentReadCode) :
    Ends (resolveCode env d minor code) s
      (fun found t =>
        found.1 = env.registry.offered w (firstOpcode earlier minor code) code ∧ s.Queried t ∧
          found.2.Remembers env.registry w (earlier ++ [c]))
      fun _ _ => False := by
  have hcode := hd.codes code hne
  cases hfirst : firstUse? earlier code with
  | some first =>
      rw [hfirst, Option.map_some] at hcode
      rw [Ends, resolveCode_of_eq_some hcode s, firstOpcode, hfirst]
      exact ⟨rfl, .refl s, hd.again hc hfirst⟩
  | none =>
      rw [hfirst, Option.map_none] at hcode
      rw [resolveCode, hcode, firstOpcode, hfirst]
      refine ends_bind.mpr ((ends_query hpure w minor code).mono ?_ fun _ _ => id)
      rintro t u ⟨rfl, hu⟩
      exact ⟨rfl, hu, hd.learnCode hc hne hfirst _⟩

/-- What the dispatcher finds is what the vendors offer, and it remembers that. -/
lemma Remembers.ends_resolve (hd : d.Remembers env.registry w earlier)
    (hpure : env.registry.OffersPurely) (c : Client) :
    Ends (d.resolve env c) s
      (fun found t => found.1 = env.registry.targetOf w (firstOpcode earlier) c ∧ s.Queried t ∧
        found.2.Remembers env.registry w (earlier ++ [c]))
      fun _ _ => False := by
  rw [Registry.targetOf]
  cases h : (c.demand : Demand σ δ) with
  -- nobody is asked, and nothing is learned
  | settled result =>
      rw [Ends, resolve_of_settled hd.known hd.readCode h]
      exact ⟨rfl, .refl s, hd.concat fun _ _ hc => by rw [h] at hc; cases hc⟩
  -- the handler of an opcode is learned
  | forOpcode minor =>
      obtain ⟨hm, hi, hnone⟩ := Client.demand_eq_forOpcode h
      rw [resolve, hm]
      dsimp only
      rw [dif_pos hi]
      refine ends_bind.mpr ((hd.ends_resolveOpcode hpure hi hnone).mono ?_ fun _ _ => id)
      rintro ⟨entry, u⟩ t ⟨rfl, ht, hu⟩
      exact ⟨rfl, ht, hu.concat fun _ _ hc => by rw [h] at hc; cases hc⟩
  -- the handler of a vendor code is learned
  | forCode minor code =>
      obtain ⟨hm, hk, hne, hi, hp⟩ := Client.demand_eq_forCode h
      have hc := (Client.demand_eq_forCode_iff.mp h).1
      rw [resolve, hm]
      dsimp only
      rw [dif_pos hi]
      refine ends_bind_of_ok (resolveOpcode_of_eq_some hi (hd.known _ hi _ hp) s) ?_
      rw [hk]
      refine ends_bind.mpr ((hd.ends_resolveCode hpure hc hne).mono ?_ fun _ _ => id)
      rintro ⟨t, u⟩ v ⟨ht, hv, hu⟩
      exact ⟨congrArg Except.ok ht, hv, hu⟩

end Dispatcher

/-! ### Active vendors stay the same -/

/-- The same vendors are active, with the same callbacks. -/
structure Registry.SameActive (r u : Registry σ δ) : Prop where
  active : u.active = r.active
  interface? : ∀ v ∈ r.active, u.interface? v = r.interface? v

namespace Registry.SameActive

variable {r u : Registry σ δ}

lemma refl (r : Registry σ δ) : r.SameActive r := ⟨rfl, fun _ _ => rfl⟩

/-- A new vendor is not active yet. -/
lemma create {i : VendorInterface σ δ} {id : VendorId} (h : r.create i = .ok (id, u))
    (hr : ∀ v ∈ r.active, r.isInitialized v = true) : r.SameActive u where
  active := active_create h
  interface? v hv := by
    obtain ⟨hid, hg⟩ := get?_create h v
    have hlt := lt_of_contains (contains_of_isInitialized (hr v hv))
    have hne : v ≠ id := by
      rintro rfl
      omega
    rw [Registry.interface?, hg, if_neg hne, ← Registry.interface?]

/-- An active vendor is not freed. -/
lemma destroy {id : VendorId} (h : r.destroy id = .ok u)
    (hr : ∀ v ∈ r.active, r.isInitialized v = true) : r.SameActive u where
  active := active_destroy h
  interface? v hv := by
    obtain ⟨w, hw, hi⟩ := get?_of_destroy h
    have hne : v ≠ id := by
      rintro rfl
      have hinit := hr v hv
      rw [isInitialized, hw, Option.any_some, hi] at hinit
      cases hinit
    rw [Registry.interface?, get?_destroy h, if_neg hne, ← Registry.interface?]

lemma offered (h : r.SameActive u) (w : σ) (minor : UInt8) (code : UInt32) :
    u.offered w minor code = r.offered w minor code := by
  have hfind : u.active.findSome? (u.offer? w minor code) =
      r.active.findSome? (r.offer? w minor code) := by
    rw [h.active, ← List.head?_filterMap, ← List.head?_filterMap]
    congr 1
    refine List.filterMap_congr fun v hv => ?_
    rw [Registry.offer?, Registry.offer?, h.interface? v hv]
  rw [Registry.offered, Registry.offered, hfind]

lemma offersPurely (h : r.SameActive u) (hr : r.OffersPurely) : u.OffersPurely := by
  intro v hv i hi
  rw [h.active] at hv
  rw [h.interface? v hv] at hi
  exact hr v hv i hi

lemma remembers (h : r.SameActive u) {w : σ} {earlier : List Client} {d : Dispatcher σ δ}
    (hd : d.Remembers r w earlier) : d.Remembers u w earlier where
  known := hd.known
  opcodes minor hi entry hnone hsome := by
    rw [h.offered]
    exact hd.opcodes minor hi entry hnone hsome
  readCode := hd.readCode
  codes code hne := by
    rw [hd.codes code hne]
    congr 1
    funext minor
    exact (h.offered w minor code).symm

end Registry.SameActive

namespace Server

variable {s : Server σ δ} {op : Operation σ δ}

/-- Within a generation no vendor becomes active, and an active one is neither replaced nor
freed. -/
lemma Sound.apply_sameActive (hs : s.Sound) (he : s.extension ≠ none)
    (hop : op ≠ .endGeneration) : s.registry.SameActive (s.apply op).server.registry := by
  cases op with
  -- a vendor that comes is not active, and one that goes was not
  | createVendor i =>
      rw [Server.apply]
      rcases hc : s.createVendor i with e | ⟨id, t⟩
      · exact .refl _
      · obtain ⟨r, hr, rfl⟩ := createVendor_of_ok hc
        exact .create hr hs.active
  | destroyVendor v =>
      rw [Server.apply]
      rcases hc : s.destroyVendor v with e | t
      · exact .refl _
      · obtain ⟨r, hr, rfl⟩ := destroyVendor_of_ok hc
        exact .destroy hr hs.active
  | beginGeneration entry =>
      obtain ⟨e, he⟩ := Option.ne_none_iff_exists'.mp he
      rw [Server.apply, beginGeneration_of_some he]
      exact .refl _
  | endGeneration => exact (hop rfl).elim
  -- vendors that are called do not touch the registry
  | serve c =>
      rw [Server.apply, (s.serve_sameVendors c).registry]
      exact .refl _
  | perform program =>
      have hreg : (s.apply (.perform program)).server.registry = s.registry :=
        (s.runSession_sameVendors (s.environment.interpret program)).registry
      rw [hreg]
      exact .refl _
  | clientGone | resourceFreed | changeWorld => exact .refl _

/-- Only its end ends a generation. -/
lemma apply_extension (he : s.extension ≠ none) (hop : op ≠ .endGeneration) :
    (s.apply op).server.extension = s.extension := by
  cases op with
  | createVendor i =>
      rw [apply]
      rcases hc : s.createVendor i with e | ⟨id, t⟩
      · rfl
      · obtain ⟨r, -, rfl⟩ := createVendor_of_ok hc
        rfl
  | destroyVendor v =>
      rw [apply]
      rcases hc : s.destroyVendor v with e | t
      · rfl
      · obtain ⟨r, -, rfl⟩ := destroyVendor_of_ok hc
        rfl
  | beginGeneration entry =>
      obtain ⟨e, he⟩ := Option.ne_none_iff_exists'.mp he
      rw [apply, beginGeneration_of_some he]
  | endGeneration => exact (hop rfl).elim
  | serve c => exact (s.serve_sameVendors c).extension
  | perform program =>
      exact (s.runSession_sameVendors (s.environment.interpret program)).extension
  | clientGone | resourceFreed | changeWorld => rfl

/-! ### One operation -/

lemma answered_mapState (s : Server σ δ) (older : List (Event δ))
    (outcome : EStateM.Result Fault (Exchange σ δ) Unit) :
    s.answered (mapState (Exchange.atop older) outcome) =
      { s.answered outcome with journal := older.reverse ++ (s.answered outcome).journal } := by
  rcases outcome with ⟨_, x⟩ | ⟨_ | _, x⟩ <;>
    simp [answered, mapState, Exchange.revise, Session.revise, Revision.below, Exchange.withSession,
      withSession]

/-- What was asked before a request is served shows as queries only. -/
lemma answered_alike (s : Server σ δ) (d u : Dispatcher σ δ) {asked asked' : List (Event δ)}
    (h : ∀ e ∈ asked, e.isQuery = true) (h' : ∀ e ∈ asked', e.isQuery = true)
    (outcome : EStateM.Result Fault (Exchange σ δ) Unit) :
    ({ s with dispatcher := d }.answered (mapState (Exchange.atop asked) outcome)).Alike
      ({ s with dispatcher := u }.answered (mapState (Exchange.atop asked') outcome)) := by
  have hnone (l : List (Event δ)) (hl : ∀ e ∈ l, e.isQuery = true) :
      l.reverse.filter (fun e => !e.isQuery) = [] := by
    rw [List.filter_eq_nil_iff]
    intro e he
    simp [hl e (List.mem_reverse.mp he)]
  rw [answered_mapState, answered_mapState]
  constructor
  · rcases outcome with ⟨_, x⟩ | ⟨_ | _, x⟩ <;> rfl
  · rw [List.filter_append, List.filter_append, hnone asked h, hnone asked' h']
    rcases outcome with ⟨_, x⟩ | ⟨_ | _, x⟩ <;> rfl
  · rcases outcome with ⟨_, x⟩ | ⟨_ | _, x⟩ <;> rfl

/-- Serves what was found for a request. -/
def serveFound (env : Environment σ δ) (found : Except ProtocolError (Target σ δ)) :
    ExchangeM σ δ Unit := do
  Target.serve env (← ExchangeM.ofExcept found)

lemma commutes_serveFound {ρ : Revision δ} (env : Environment σ δ)
    (found : Except ProtocolError (Target σ δ)) :
    Commutes (Exchange.revise ρ) (serveFound env found) :=
  (commutes_ofExcept found).bind (commutes_serve env)

lemma serve_of_resolve (he : s.extension ≠ none) {c : Client}
    {found : Except ProtocolError (Target σ δ)} {d : Dispatcher σ δ} {t : Session σ δ}
    (hr : s.dispatcher.resolve s.environment c s.session = .ok (found, d) t) :
    s.serve c = { s with dispatcher := d }.answered (serveFound s.environment found ⟨c, t⟩) := by
  unfold serve
  split
  · next hnone => exact (he hnone).elim
  · simp only [hr]
    cases found with
    | error e => rfl
    | ok target =>
        have hserve : serveFound s.environment (.ok target) ⟨c, t⟩ =
            target.serve s.environment ⟨c, t⟩ := rfl
        rw [hserve]
        dsimp only
        rcases target.serve s.environment ⟨c, t⟩ with ⟨_, x⟩ | ⟨_ | _, x⟩ <;> rfl

lemma serveAnew_of_resolveAnew (he : s.extension ≠ none) {named : UInt8 → UInt32 → UInt8}
    {c : Client} {found : Except ProtocolError (Target σ δ)} {t : Session σ δ}
    (hr : Dispatcher.resolveAnew s.environment named c s.session = .ok found t) :
    s.serveAnew named c = s.answered (serveFound s.environment found ⟨c, t⟩) := by
  obtain ⟨entry, he⟩ := Option.ne_none_iff_exists'.mp he
  have hfound : ExchangeM.onSession (Dispatcher.resolveAnew s.environment named c) ⟨c, s.session⟩ =
      .ok found ⟨c, t⟩ := by
    rw [ExchangeM.onSession, hr]
  rw [serveAnew, he]
  dsimp only
  rw [bind_of_ok hfound]
  rfl

/-! ### Within a generation -/

/-- A router within a generation whose dispatcher remembers what its vendors offer. -/
structure Within (w : σ) (earlier : List Client) (s : Server σ δ) : Prop where
  sound : s.Sound
  extension : s.extension ≠ none
  pure : s.registry.OffersPurely
  remembers : s.dispatcher.Remembers s.registry w earlier

variable {w : σ} {earlier : List Client}

/-- The router and one that asks anew find the same, and the former remembers it. -/
lemma Within.resolve (h : s.Within w earlier) (c : Client) :
    ∃ found d t t', s.dispatcher.resolve s.environment c s.session = .ok (found, d) t ∧
      Dispatcher.resolveAnew s.environment (firstOpcode earlier) c s.session = .ok found t' ∧
      s.session.Queried t ∧ s.session.Queried t' ∧
      d.Remembers s.registry w (earlier ++ [c]) := by
  have hkept : Ends (s.dispatcher.resolve s.environment c) s.session _ _ :=
    Dispatcher.Remembers.ends_resolve h.remembers h.pure c
  have hanew : Ends (Dispatcher.resolveAnew s.environment (firstOpcode earlier) c) s.session _ _ :=
    Dispatcher.ends_resolveAnew h.pure w (firstOpcode earlier) c
  obtain ⟨⟨found, d⟩, t, hr, hfound, ht, hd⟩ := hkept.exists_ok
  obtain ⟨found', t', hr', hfound', ht'⟩ := hanew.exists_ok
  obtain rfl : found' = found := hfound'.trans hfound.symm
  exact ⟨found', d, t, t', hr, hr', ht, ht', hd⟩

/-- Serving a request and serving it anew do the same. -/
lemma Within.serve_alike (h : s.Within w earlier) (u : Dispatcher σ δ) (c : Client) :
    (s.serve c).Alike ({ s with dispatcher := u }.serveAnew (firstOpcode earlier) c) := by
  obtain ⟨found, d, t, t', hr, hr', ⟨asked, hasked, rfl⟩, ⟨asked', hasked', rfl⟩, -⟩ := h.resolve c
  have hwork (older : List (Event δ)) :
      serveFound s.environment found
          ⟨c, { s.session with journal := older ++ s.session.journal }⟩ =
        mapState (Exchange.atop older) (serveFound s.environment found ⟨c, s.session⟩) := by
    have hcommutes : Commutes (Exchange.atop older) (serveFound s.environment found) :=
      commutes_serveFound s.environment found
    rw [← hcommutes ⟨c, s.session⟩]
    simp [Exchange.revise, Session.revise, Revision.below, Exchange.withSession, session]
  have hanew : { s with dispatcher := u }.serveAnew (firstOpcode earlier) c =
      { s with dispatcher := u }.answered (serveFound s.environment found
        ⟨c, { s.session with journal := asked' ++ s.session.journal }⟩) :=
    serveAnew_of_resolveAnew (s := { s with dispatcher := u }) h.extension hr'
  rw [serve_of_resolve h.extension hr, hanew, hwork asked, hwork asked']
  exact s.answered_alike d u hasked hasked' _

lemma runSession_alike (s : Server σ δ) (u : Dispatcher σ δ) (work : SessionM σ δ α) :
    (s.runSession work).Alike ({ s with dispatcher := u }.runSession work) := by
  have hsession : { s with dispatcher := u }.session = s.session := rfl
  rw [runSession, runSession, hsession]
  rcases work s.session with ⟨a, t⟩ | ⟨a, t⟩ <;> exact ⟨rfl, rfl, rfl⟩

/-- An operation and the same one done anew do the same. -/
lemma Within.apply_alike (h : s.Within w earlier) (u : Dispatcher σ δ)
    (hop : op ≠ .endGeneration) :
    (s.apply op).Alike ({ s with dispatcher := u }.applyAnew (firstOpcode earlier) op) := by
  cases op with
  | serve c => exact h.serve_alike u c
  | createVendor i =>
      simp only [applyAnew, Server.apply, createVendor]
      rcases s.registry.create i with e | ⟨id, r⟩ <;> exact ⟨rfl, rfl, rfl⟩
  | destroyVendor v =>
      simp only [applyAnew, Server.apply, destroyVendor]
      rcases s.registry.destroy v with e | r <;> exact ⟨rfl, rfl, rfl⟩
  | beginGeneration entry =>
      obtain ⟨e, he⟩ := Option.ne_none_iff_exists'.mp h.extension
      rw [applyAnew, Server.apply, Server.apply, beginGeneration_of_some he,
        beginGeneration_of_some (s := { s with dispatcher := u }) he]
      exact ⟨rfl, rfl, rfl⟩
  | endGeneration => exact (hop rfl).elim
  | perform program =>
      exact s.runSession_alike u (s.environment.interpret program)
  | clientGone | resourceFreed | changeWorld => exact ⟨rfl, rfl, rfl⟩

lemma answered_dispatcher (s : Server σ δ) (outcome : EStateM.Result Fault (Exchange σ δ) Unit) :
    (s.answered outcome).server.dispatcher = s.dispatcher := by
  rcases outcome with ⟨_, x⟩ | ⟨_ | _, x⟩ <;> rfl

/-- Between requests, only the start and the end of a generation touch what the dispatcher knows. -/
lemma apply_dispatcher (hserve : op.request? = none) (hbegin : ∀ entry, op ≠ .beginGeneration entry)
    (hend : op ≠ .endGeneration) : (s.apply op).server.dispatcher = s.dispatcher := by
  cases op with
  | serve c => cases hserve
  | createVendor i =>
      simp only [Server.apply, createVendor]
      rcases s.registry.create i with e | ⟨id, r⟩ <;> rfl
  | destroyVendor v =>
      simp only [Server.apply, destroyVendor]
      rcases s.registry.destroy v with e | r <;> rfl
  | beginGeneration entry => exact (hbegin entry rfl).elim
  | endGeneration => exact (hend rfl).elim
  | perform program => exact runSession_dispatcher _ _
  | clientGone | resourceFreed | changeWorld => rfl

/-- What the dispatcher knows after an operation. -/
lemma Within.remembers_apply (h : s.Within w earlier) (hop : op ≠ .endGeneration) :
    (s.apply op).server.dispatcher.Remembers s.registry w (earlier ++ op.request?.toList) := by
  have hsame : op.request? = none → (s.apply op).server.dispatcher = s.dispatcher →
      (s.apply op).server.dispatcher.Remembers s.registry w (earlier ++ op.request?.toList) := by
    intro hnone hd
    rw [hnone, hd, Option.toList_none, List.append_nil]
    exact h.remembers
  cases op with
  | serve c =>
      obtain ⟨found, d, t, t', hr, -, -, -, hd⟩ := h.resolve c
      rw [Server.apply, serve_of_resolve h.extension hr, answered_dispatcher]
      exact hd
  | beginGeneration entry =>
      obtain ⟨e, he⟩ := Option.ne_none_iff_exists'.mp h.extension
      refine hsame rfl ?_
      rw [Server.apply, beginGeneration_of_some he]
  | createVendor | destroyVendor | endGeneration | perform | clientGone | resourceFreed
  | changeWorld => exact hsame rfl (apply_dispatcher rfl (by simp) hop)

/-- Operations other than its end stay within the generation. -/
lemma Within.apply (h : s.Within w earlier) (hop : op ≠ .endGeneration) :
    (s.apply op).server.Within w (earlier ++ op.request?.toList) := by
  have hsame := h.sound.apply_sameActive h.extension hop
  refine ⟨h.sound.apply op, ?_, hsame.offersPurely h.pure, hsame.remembers (h.remembers_apply hop)⟩
  rw [apply_extension h.extension hop]
  exact h.extension

/-- Runs within a generation stay within it. -/
lemma Leads.within {g t : Server σ δ} {ops : List (Operation σ δ)} (h : g.Leads ops t)
    (hg : g.Within w []) (hops : ∀ op ∈ ops, op ≠ .endGeneration) :
    t.Within w (ops.filterMap Operation.request?) := by
  induction h with
  | nil => exact hg
  | concat op a _ _ ih =>
      have hinit := ih fun o ho => hops o (List.mem_append_left _ ho)
      have hlast := hinit.apply (hops op (List.mem_append_right _ List.mem_cons_self))
      rw [List.filterMap_append]
      cases hr : op.request? with
      | none => simpa [hr] using hlast
      | some c => simpa [hr] using hlast

/-- Every operation of a run does the same as in a run that asks anew. -/
lemma Within.run_alike (h : s.Within w earlier) (u : Dispatcher σ δ) {ops : List (Operation σ δ)}
    (hops : ∀ op ∈ ops, op ≠ .endGeneration) :
    List.Forall₂ Deed.Alike (s.run ops)
      ({ s with dispatcher := u }.runAnew firstOpcode earlier ops) := by
  induction ops generalizing s u earlier with
  | nil => exact .nil
  | cons op rest ih =>
      have hop := hops op List.mem_cons_self
      have halike := h.apply_alike u hop
      have hnext := h.apply hop
      have hrest := fun o ho => hops o (List.mem_cons_of_mem op ho)
      rw [runAnew]
      refine .cons (.intro halike) ?_
      rw [← halike.result]
      cases (s.apply op).result with
      | error a => exact .nil
      | ok a =>
          have hrun := ih hnext
            ({ s with dispatcher := u }.applyAnew (firstOpcode earlier) op).server.dispatcher hrest
          rw [halike.server] at hrun
          exact hrun

end Server

/-! ### Transparency -/

/-- Within a generation whose vendors offer handlers by opcode and code alone, nobody can tell
whether the router keeps the vendors' answers, if asking anew means to name the opcode of the first
vendor-private request with the same code. -/
theorem caches_transparent {s : Server σ δ} (hs : s.Reachable) {entry : ExtensionEntry}
    (hbegin : (s.beginGeneration entry).result = .ok (.ok ()))
    (hpure : (s.beginGeneration entry).server.registry.OffersPurely)
    {ops : List (Operation σ δ)} (hops : ∀ op ∈ ops, op ≠ .endGeneration) :
    (s.beginGeneration entry).server.Transparent firstOpcode ops := by
  have hsound := Server.Reachable.of_kept Server.sound_new (fun _ op _ h _ => h.apply op) hs
  have hidle : s.extension = none := by
    rcases he : s.extension with _ | e
    · rfl
    · rw [Server.beginGeneration_of_some he] at hbegin
      cases hbegin
  obtain ⟨hext, hdisp⟩ := Server.beginGeneration_frame hidle entry
  have hwithin : (s.beginGeneration entry).server.Within s.world [] := by
    refine ⟨hsound.beginGeneration entry, by rw [hext]; exact Option.some_ne_none _, hpure, ?_⟩
    rw [hdisp]
    exact Dispatcher.remembers_reset _ _ _
  constructor
  · exact hwithin.run_alike (s.beginGeneration entry).server.dispatcher hops
  · rintro before c after t rfl ht
    have hbefore := ht.within hwithin fun op hop => hops op (List.mem_append_left _ hop)
    obtain ⟨found, d, u, u', hr, hr', -⟩ := hbefore.resolve c
    rw [Server.target?, Server.targetAnew?, hr, hr']

/-! ### Two spellings of one vendor code -/

/-- A vendor that offers a handler for one opcode and one vendor code, and for nothing else. -/
def VendorInterface.offering (minor : UInt8) (code : UInt32) : VendorInterface Unit Nat :=
  { obliging 0 none with
    dispatchAddress := some fun m k w =>
      (if m = minor ∧ k = code then some fun c => .done (c, .ok ()) else none, w) }

/-- The router of one such vendor, which offers a handler for requests without replies. -/
def oneSpelling : Server Unit Nat :=
  .reached [.createVendor (.offering Opcode.vendorPrivate 5)]

/-- A client uses the vendor code in a request with a reply, and then in one without. -/
def bothSpellings : List (Operation Unit Nat) :=
  [.serve (.asking 7 Opcode.vendorPrivateWithReply [5]),
    .serve (.asking 7 Opcode.vendorPrivate [5])]

lemma reachable_oneSpelling : oneSpelling.Reachable :=
  have hlead : (Server.new (.blank 1) () 4).Leads
      [.createVendor (.offering Opcode.vendorPrivate 5)] oneSpelling := .of_run (by decide +kernel)
  hlead.reachable (.new _ _ _)

lemma offersPurely_oneSpelling :
    (oneSpelling.beginGeneration .sample).server.registry.OffersPurely := by
  intro v hv i hi
  have hactive : (oneSpelling.beginGeneration .sample).server.registry.active = [⟨0⟩] := by
    decide +kernel
  rw [hactive, List.mem_singleton] at hv
  subst hv
  have hinterface : (oneSpelling.beginGeneration .sample).server.registry.interface? ⟨0⟩ =
      some (.offering Opcode.vendorPrivate 5) := rfl
  rw [hinterface] at hi
  cases hi
  intro offer hoffer
  cases hoffer
  exact ⟨_, fun _ _ _ => rfl⟩

/-- The error that answers the request that an operation served. -/
def Deed.error? : Deed σ δ → Option ProtocolError
  | ⟨.serve _, step⟩ =>
    match step.result with
    | .ok (_, .error e) => some e
    | _ => none
  | _ => none

lemma Deed.Alike.error?_eq {d e : Deed σ δ} (h : d.Alike e) : d.error? = e.error? := by
  cases h with
  | @intro op x y h =>
      cases op with
      | serve c => rw [Deed.error?, Deed.error?, h.result]
      | _ => rfl

lemma map_error?_eq {l m : List (Deed σ δ)} (h : List.Forall₂ Deed.Alike l m) :
    l.map Deed.error? = m.map Deed.error? := by
  induction h with
  | nil => rfl
  | cons h _ ih => rw [List.map_cons, List.map_cons, h.error?_eq, ih]

/-- The second request gets the answer to the first. Asked anew under the request's own opcode, the
vendor would serve it. -/
theorem ownOpcode_not_transparent :
    oneSpelling.Reachable ∧
      (oneSpelling.beginGeneration .sample).result = .ok (.ok ()) ∧
      (oneSpelling.beginGeneration .sample).server.registry.OffersPurely ∧
      (∀ op ∈ bothSpellings, op ≠ .endGeneration) ∧
      ((oneSpelling.beginGeneration .sample).server.run bothSpellings).map Deed.error? =
        [some .badRequest, some .badRequest] ∧
      ((oneSpelling.beginGeneration .sample).server.runAnew ownOpcode [] bothSpellings).map
        Deed.error? = [some .badRequest, none] ∧
      ¬ (oneSpelling.beginGeneration .sample).server.Transparent ownOpcode bothSpellings := by
  have hresult : (oneSpelling.beginGeneration .sample).result = .ok (.ok ()) := by decide +kernel
  have hops : ∀ op ∈ bothSpellings, op ≠ .endGeneration := by simp [bothSpellings]
  have hkept : ((oneSpelling.beginGeneration .sample).server.run bothSpellings).map Deed.error? =
      [some .badRequest, some .badRequest] := by decide +kernel
  have hanew : ((oneSpelling.beginGeneration .sample).server.runAnew ownOpcode []
      bothSpellings).map Deed.error? = [some .badRequest, none] := by decide +kernel
  refine ⟨reachable_oneSpelling, hresult, offersPurely_oneSpelling, hops, hkept, hanew, fun h => ?_⟩
  have herrors := map_error?_eq h.deeds
  rw [hkept, hanew] at herrors
  cases herrors

/-- Asked anew under the opcode of the first request, the vendor refuses both. -/
theorem caches_transparent_oneSpelling :
    oneSpelling.Reachable ∧
      (oneSpelling.beginGeneration .sample).result = .ok (.ok ()) ∧
      (oneSpelling.beginGeneration .sample).server.registry.OffersPurely ∧
      (∀ op ∈ bothSpellings, op ≠ .endGeneration) ∧
      (oneSpelling.beginGeneration .sample).server.Transparent firstOpcode bothSpellings := by
  have hresult : (oneSpelling.beginGeneration .sample).result = .ok (.ok ()) := by decide +kernel
  have hops : ∀ op ∈ bothSpellings, op ≠ .endGeneration := by simp [bothSpellings]
  exact ⟨reachable_oneSpelling, hresult, offersPurely_oneSpelling, hops,
    caches_transparent reachable_oneSpelling hresult offersPurely_oneSpelling hops⟩

end VendorDispatch
