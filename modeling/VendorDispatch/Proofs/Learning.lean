import Mathlib.Data.Finset.Card
import VendorDispatch.Proofs.Lifecycle

/-!
Handlers are asked for once. This needs nothing of the vendors: what they offer may depend on the
world, and they may change their minds.

* `HandlerKey`, `Client.handlerKey?`: what a request has to be known of before it can be served.
* `Environment.Asks`: the vendors are asked in turn, up to the first that offers a handler. The
  dispatcher does this (`Dispatcher.askEach_eq`), and learns the outcome (`Dispatcher.learn`).
* `serve_of_no_key`, `serve_of_known`, `serve_of_unknown`: the three ways in which a request is
  served. `apply_queries`: at no other time is anybody asked.
* `Server.Knows`: what the dispatcher knows after operations within a generation. One more operation
  keeps it so (`Learning.knows_apply`), and a run does (`Leads.learning`).
* `handlers_learned_once`: every handler is asked for at the first request that needs it, later
  requests get the same one, and generations forget all of them.
-/

namespace VendorDispatch

variable {σ δ : Type}

/-! ### Keys -/

/-- What a handler is learned for. -/
inductive HandlerKey
  /-- A minor opcode that has no target of its own. -/
  | opcode (minor : UInt8)
  /-- A vendor code that the router does not serve itself. -/
  | vendorCode (code : UInt32)
  deriving DecidableEq, Repr

/-- The vendor code that vendors are asked for. -/
def HandlerKey.askedCode : HandlerKey → UInt32
  | opcode _ => 0
  | vendorCode code => code

/-- The opcodes that the router serves itself or routes to one vendor. -/
def servedOpcodes : List UInt8 :=
  [Opcode.queryVersion, Opcode.makeCurrent, Opcode.makeContextCurrent, Opcode.copyContext,
    Opcode.swapBuffers, Opcode.clientInfo, Opcode.setClientInfoARB, Opcode.setClientInfo2ARB,
    Opcode.vendorPrivate, Opcode.vendorPrivateWithReply] ++
    routedRequests.map RoutedRequest.opcode

/-- What a handler is learned for to serve a request, if it is long enough to tell. -/
def Client.handlerKey? (c : Client) : Option HandlerKey :=
  match c.minorOpcode with
  | .error _ => none
  | .ok minor =>
    if minor = Opcode.vendorPrivate ∨ minor = Opcode.vendorPrivateWithReply then
      match c.readWord 4 with
      | .error _ => none
      | .ok code => if code = makeCurrentReadCode then none else some (.vendorCode code)
    else if minor < Opcode.firstSingle ∧ minor ∉ servedOpcodes then
      some (.opcode minor)
    else
      none

/-- The key of what a request needs from the vendors. -/
def Demand.key? : Demand σ δ → Option HandlerKey
  | settled _ => none
  | forOpcode minor => some (.opcode minor)
  | forCode _ code => some (.vendorCode code)

lemma mem_servedOpcodes {minor : UInt8} :
    minor ∈ servedOpcodes ↔
      ∃ entry, (minor, entry) ∈ (Dispatcher.preset : List (UInt8 × OpcodeEntry σ δ)) := by
  have hkeys : (Dispatcher.preset : List (UInt8 × OpcodeEntry σ δ)).map Prod.fst = servedOpcodes :=
    rfl
  simp [← hkeys]

/-- An opcode is known from the start if it is one of the served ones. -/
lemma presetOpcodes_eq_none_iff {minor : UInt8} (hi : minor.toNat < opcodeCount) :
    (Dispatcher.presetOpcodes (σ := σ) (δ := δ))[minor.toNat] = none ↔ minor ∉ servedOpcodes := by
  rw [mem_servedOpcodes (σ := σ) (δ := δ), Option.eq_none_iff_forall_ne_some, not_exists]
  exact forall_congr' fun entry => not_congr (Dispatcher.presetOpcodes_eq_some_iff_mem hi)

/-- The vendor-private opcodes, and no others, have their targets by vendor code. -/
lemma presetOpcodes_eq_byVendorCode_iff {minor : UInt8} (hi : minor.toNat < opcodeCount) :
    (Dispatcher.presetOpcodes (σ := σ) (δ := δ))[minor.toNat] = some .byVendorCode ↔
      minor = Opcode.vendorPrivate ∨ minor = Opcode.vendorPrivateWithReply := by
  rw [Dispatcher.presetOpcodes_eq_some_iff_mem hi]
  constructor
  · exact Dispatcher.byVendorCode_mem_preset
  · rintro (rfl | rfl) <;> simp [Dispatcher.preset, Dispatcher.builtins]

lemma lt_of_vendorPrivate {minor : UInt8}
    (h : minor = Opcode.vendorPrivate ∨ minor = Opcode.vendorPrivateWithReply) :
    minor.toNat < opcodeCount := by
  rcases h with rfl | rfl <;> decide

/-- A request has the key of what it needs from the vendors. -/
lemma Client.handlerKey?_eq (c : Client) : c.handlerKey? = (c.demand : Demand σ δ).key? := by
  unfold handlerKey? demand
  cases c.minorOpcode with
  | error e => rfl
  | ok minor =>
      dsimp only
      by_cases hi : minor.toNat < opcodeCount
      · -- The table of opcodes has an entry for exactly the served ones, so each entry decides
        -- which of the two branches is taken.
        have hlt : minor < Opcode.firstSingle := UInt8.lt_iff_toNat_lt.mpr hi
        have hnone := presetOpcodes_eq_none_iff (σ := σ) (δ := δ) hi
        have hcode := presetOpcodes_eq_byVendorCode_iff (σ := σ) (δ := δ) hi
        rw [dif_pos hi]
        rcases hp : (Dispatcher.presetOpcodes (σ := σ) (δ := δ))[minor.toNat] with _ | (t | _)
        · have hserved := hnone.mp hp
          have hprivate := mt hcode.mpr fun h => nomatch hp.symm.trans h
          rw [if_neg hprivate, if_pos ⟨hlt, hserved⟩]
          rfl
        · have hserved := mt hnone.mpr fun h => nomatch hp.symm.trans h
          have hprivate := mt hcode.mpr fun h => nomatch hp.symm.trans h
          rw [if_neg hprivate, if_neg fun h => hserved h.2]
          rfl
        · rw [if_pos (hcode.mp hp)]
          cases c.readWord 4 with
          | error e => rfl
          | ok code =>
              dsimp only
              split_ifs <;> rfl
      · have hprivate : ¬ (minor = Opcode.vendorPrivate ∨ minor = Opcode.vendorPrivateWithReply) :=
          mt lt_of_vendorPrivate hi
        have hlt : ¬ minor < Opcode.firstSingle := mt UInt8.lt_iff_toNat_lt.mp hi
        rw [dif_neg hi, if_neg hprivate, if_neg fun h => hlt h.1]
        rfl

/-- A request with a key has an opcode without a target, or it is vendor-private and has a vendor
code that the router does not serve. -/
lemma Client.cases_of_handlerKey? (σ δ : Type) {c : Client} {key : HandlerKey}
    (h : c.handlerKey? = some key) :
    (∃ minor, key = .opcode minor ∧ c.minorOpcode = .ok minor ∧
      ∃ hi : minor.toNat < opcodeCount,
        (Dispatcher.presetOpcodes (σ := σ) (δ := δ))[minor.toNat] = none) ∨
    ∃ minor code, key = .vendorCode code ∧ c.minorOpcode = .ok minor ∧ c.readWord 4 = .ok code ∧
      code ≠ makeCurrentReadCode ∧ ∃ hi : minor.toNat < opcodeCount,
        (Dispatcher.presetOpcodes (σ := σ) (δ := δ))[minor.toNat] = some .byVendorCode := by
  rw [handlerKey?_eq (σ := σ) (δ := δ)] at h
  cases hdemand : (c.demand : Demand σ δ) with
  | settled => rw [hdemand] at h; cases h
  | forOpcode minor =>
      rw [hdemand] at h
      cases h
      exact .inl ⟨minor, rfl, demand_eq_forOpcode hdemand⟩
  | forCode minor code =>
      rw [hdemand] at h
      cases h
      exact .inr ⟨minor, code, rfl, demand_eq_forCode hdemand⟩

/-- The router knows what serves a request without a key, or which error answers it. -/
lemma Client.settled_of_handlerKey? {c : Client} (h : c.handlerKey? = none) :
    ∃ result, (c.demand : Demand σ δ) = .settled result := by
  rw [handlerKey?_eq (σ := σ) (δ := δ)] at h
  cases hdemand : (c.demand : Demand σ δ) with
  | settled result => exact ⟨result, rfl⟩
  | forOpcode | forCode => rw [hdemand] at h; cases h

/-! ### Asking the vendors -/

/-- The callback by which a vendor offers handlers. It may change the world, and its offers may
depend on it. -/
abbrev Offering (σ δ : Type) := UInt8 → UInt32 → σ → Option (RequestHandler σ δ) × σ

/-- The callback by which a vendor offers handlers, if it has one. -/
def Registry.offering? (r : Registry σ δ) (v : VendorId) : Option (Offering σ δ) :=
  (r.interface? v).bind VendorInterface.dispatchAddress

namespace Environment

variable (env : Environment σ δ) (minor : UInt8) (code : UInt32)

/-- The entries in the journal for a vendor that is asked and answers. -/
def asked (v : VendorId) (answer : Bool) : List (Event δ) :=
  [.called v (env.registry.isInitialized v) (.query minor code),
    .returned v (.query minor code) answer]

/-- Vendors are asked in turn for a handler, each in the world that the one before it left, up to
the first that offers one. The entries in the journal tell who was asked. -/
inductive Asks : List VendorId → σ → List (Event δ) → Option (Procedure σ δ) → σ → Prop
  /-- Nobody is left to ask. -/
  | nobody (w : σ) : Asks [] w [] none w
  /-- A vendor that offers no handlers is not asked. -/
  | skip {v : VendorId} {vendors : List VendorId} {w u : σ} {journal : List (Event δ)}
    {found : Option (Procedure σ δ)} : env.registry.offering? v = none →
    Asks vendors w journal found u → Asks (v :: vendors) w journal found u
  /-- A vendor offers nothing, and the next one is asked. -/
  | refusal {v : VendorId} {vendors : List VendorId} {offering : Offering σ δ} {w w' u : σ}
    {journal : List (Event δ)} {found : Option (Procedure σ δ)} :
    env.registry.offering? v = some offering → offering minor code w = (none, w') →
    Asks vendors w' journal found u →
    Asks (v :: vendors) w (env.asked minor code v false ++ journal) found u
  /-- A vendor offers a handler, and nobody else is asked. -/
  | offer {v : VendorId} {vendors : List VendorId} {offering : Offering σ δ} {w u : σ}
    {run : RequestHandler σ δ} :
    env.registry.offering? v = some offering → offering minor code w = (some run, u) →
    Asks (v :: vendors) w (env.asked minor code v true) (some ⟨v, minor, code, run⟩) u

variable {env minor code} {vendors : List VendorId} {w u : σ} {journal : List (Event δ)}
  {found : Option (Procedure σ δ)}

lemma exists_asks (env : Environment σ δ) (minor : UInt8) (code : UInt32) (vendors : List VendorId)
    (w : σ) : ∃ journal found u, env.Asks minor code vendors w journal found u := by
  induction vendors generalizing w with
  | nil => exact ⟨_, _, _, .nobody w⟩
  | cons v vendors ih =>
      cases ho : env.registry.offering? v with
      | none =>
          obtain ⟨journal, found, u, h⟩ := ih w
          exact ⟨_, _, _, .skip ho h⟩
      | some offering =>
          rcases ha : offering minor code w with ⟨_ | run, w'⟩
          · obtain ⟨journal, found, u, h⟩ := ih w'
            exact ⟨_, _, _, .refusal ho ha h⟩
          · exact ⟨_, _, _, .offer ho ha⟩

lemma Asks.isQuery (h : env.Asks minor code vendors w journal found u) :
    ∀ e ∈ journal, e.isQuery = true := by
  induction h with
  | nobody => exact List.forall_mem_nil _
  | skip _ _ ih => exact ih
  | refusal _ _ _ ih => simpa [asked, Event.isQuery] using ih
  | offer => simp [asked, Event.isQuery]

end Environment

/-- What serves a request for which the vendors were asked: the handler that one of them offered, or
nobody. -/
def Target.ofProcedure? : Option (Procedure σ δ) → Target σ δ
  | some p => .procedure p
  | none => .unclaimed

namespace Dispatcher

section Ask

variable {env : Environment σ δ} {minor : UInt8} {code : UInt32} {vendors : List VendorId} {w u : σ}
  {journal : List (Event δ)} {found : Option (Procedure σ δ)} {s : Session σ δ}

lemma askEach_of_skip {v : VendorId} (h : env.registry.offering? v = none) :
    askEach env minor code (v :: vendors) s = askEach env minor code vendors s := by
  rw [Registry.offering?] at h
  rw [askEach, h]

/-- The session after a vendor was asked and has answered, and has left another world. -/
def answeredBy (env : Environment σ δ) (minor : UInt8) (code : UInt32) (v : VendorId)
    (answer : Bool) (w : σ) (s : Session σ δ) : Session σ δ :=
  ((s.enter (.called v (env.registry.isInitialized v) (.query minor code))).withWorld w).enter
    (.returned v (.query minor code) answer)

section Offering

variable {v : VendorId} {offering : Offering σ δ} (h : env.registry.offering? v = some offering)

include h

/-- The others are asked if a vendor offers nothing. -/
lemma askEach_of_refusal (ha : offering minor code s.world = (none, w)) :
    askEach env minor code (v :: vendors) s =
      askEach env minor code vendors (answeredBy env minor code v false w s) := by
  have hworld : (SessionM.world : SessionM σ δ σ) s = .ok s.world s := rfl
  rw [Registry.offering?] at h
  rw [askEach, h]
  dsimp only
  rw [bind_of_ok hworld, ha]
  rfl

/-- Nobody else is asked if a vendor offers a handler. -/
lemma askEach_of_offer {run : RequestHandler σ δ}
    (ha : offering minor code s.world = (some run, w)) :
    askEach env minor code (v :: vendors) s =
      .ok (some ⟨v, minor, code, run⟩) (answeredBy env minor code v true w s) := by
  have hworld : (SessionM.world : SessionM σ δ σ) s = .ok s.world s := rfl
  rw [Registry.offering?] at h
  rw [askEach, h]
  dsimp only
  rw [bind_of_ok hworld, ha]
  rfl

end Offering

/-- The router asks the vendors in turn. -/
lemma askEach_eq (h : env.Asks minor code vendors w journal found u) (hs : s.world = w) :
    askEach env minor code vendors s =
      .ok found { s with world := u, journal := journal.reverse ++ s.journal } := by
  induction h generalizing s with
  | nobody w =>
      subst hs
      rfl
  | skip ho _ ih =>
      rw [askEach_of_skip ho]
      exact ih hs
  | refusal ho ha _ ih =>
      subst hs
      rw [askEach_of_refusal ho ha, ih rfl]
      simp [Environment.asked, answeredBy, Session.enter, Session.withWorld]
  | offer ho ha =>
      subst hs
      rw [askEach_of_offer ho ha]
      rfl

lemma query_eq (h : env.Asks minor code env.registry.active w journal found u) (hs : s.world = w) :
    query env minor code s =
      .ok (.ofProcedure? found) { s with world := u, journal := journal.reverse ++ s.journal } := by
  rw [query, bind_of_ok (askEach_eq h hs)]
  cases found <;> rfl

end Ask

/-! ### What the dispatcher knows -/

/-- What a dispatcher knows about a key. -/
def known? (d : Dispatcher σ δ) : HandlerKey → Option (OpcodeEntry σ δ)
  | .opcode minor => d.opcodes[minor.toNat]?.join
  | .vendorCode code => (d.codes.get? code).map .target

/-- The dispatcher that knows one more target, from one more query. -/
def learn (d : Dispatcher σ δ) (key : HandlerKey) (t : Target σ δ) : Dispatcher σ δ :=
  match key with
  | .opcode minor =>
    { d with
      opcodes := d.opcodes.setIfInBounds minor.toNat (some (.target t))
      queries := d.queries + 1 }
  | .vendorCode code => { d with codes := d.codes.insert code t, queries := d.queries + 1 }

variable {d : Dispatcher σ δ} {c : Client} {key : HandlerKey} {env : Environment σ δ}
  {s : Session σ δ}

@[simp] lemma queries_learn (d : Dispatcher σ δ) (key : HandlerKey) (t : Target σ δ) :
    (d.learn key t).queries = d.queries + 1 := by
  cases key <;> rfl

lemma known?_opcode {minor : UInt8} (hi : minor.toNat < opcodeCount) :
    d.known? (.opcode minor) = d.opcodes[minor.toNat] := by
  rw [known?, Vector.getElem?_eq_getElem hi, Option.join_some]

/-- What was learned for a request is known, and what was known of others still is. -/
lemma known?_learn (hc : c.handlerKey? = some key) (t : Target σ δ) (k : HandlerKey) :
    (d.learn key t).known? k = if k = key then some (.target t) else d.known? k := by
  rcases Client.cases_of_handlerKey? σ δ hc with ⟨minor, rfl, -, hi, -⟩ | ⟨-, code, rfl, -⟩
  · cases k with
    | vendorCode code => rfl
    | opcode m =>
        rw [learn, known?, Vector.getElem?_setIfInBounds, known?]
        by_cases hm : m = minor
        · simp [hm, hi]
        · have hne : minor.toNat ≠ m.toNat := fun h => hm (UInt8.toNat_inj.mp h).symm
          simp [hm, hne]
  · cases k with
    | opcode m => rfl
    | vendorCode code' =>
        rw [learn, known?, Assoc.get?_insert, known?]
        by_cases hcode : code' = code <;> simp [hcode]

/-- A dispatcher that has forgotten what it learned knows the opcodes that were known from the
start. -/
lemma known?_reset_opcode (d : Dispatcher σ δ) (minor : UInt8) (entry : OpcodeEntry σ δ) :
    d.reset.known? (.opcode minor) = some entry ↔ (minor, entry) ∈ preset := by
  have hlt : ∀ m ∈ servedOpcodes, m.toNat < opcodeCount := by decide +kernel
  by_cases hi : minor.toNat < opcodeCount
  · have hreset : d.reset.opcodes = presetOpcodes := rfl
    rw [known?_opcode hi]
    simp only [hreset]
    exact presetOpcodes_eq_some_iff_mem hi
  · rw [known?, Vector.getElem?_eq_none (Nat.le_of_not_lt hi)]
    refine iff_of_false nofun fun h => hi (hlt minor ?_)
    exact mem_servedOpcodes.mpr ⟨entry, h⟩

/-- A dispatcher that has forgotten what it learned knows one vendor code. -/
lemma known?_reset_vendorCode (d : Dispatcher σ δ) (code : UInt32) (entry : OpcodeEntry σ δ) :
    d.reset.known? (.vendorCode code) = some entry ↔
      code = makeCurrentReadCode ∧ entry = .target (.makeCurrent .vendorPrivate) := by
  have hcodes : d.reset.codes.get? code =
      if code = makeCurrentReadCode then some (.makeCurrent .vendorPrivate) else none :=
    Assoc.get?_insert _ _ _ _
  rw [known?, hcodes]
  split_ifs with hcode
  · simp [hcode, eq_comm]
  · simp [hcode]

/-- A dispatcher that has forgotten what it learned does not know what the vendors are to be asked
for. -/
lemma known?_reset_of_key (d : Dispatcher σ δ) (hc : c.handlerKey? = some key) :
    d.reset.known? key = none := by
  refine Option.eq_none_iff_forall_ne_some.mpr fun entry hentry => ?_
  rcases Client.cases_of_handlerKey? σ δ hc with
    ⟨minor, rfl, -, hi, hnone⟩ | ⟨-, code, rfl, -, -, hne, -⟩
  · have hmem := (known?_reset_opcode d minor entry).mp hentry
    exact nomatch hnone.symm.trans ((presetOpcodes_eq_some_iff_mem hi).mpr hmem)
  · exact hne ((known?_reset_vendorCode d code entry).mp hentry).1

/-- Nobody is asked for what is known. -/
lemma resolve_of_known {r : Registry σ δ} (hd : d.Sound r) (hc : c.handlerKey? = some key)
    {t : Target σ δ} (hknown : d.known? key = some (.target t)) :
    d.resolve env c s = .ok (.ok t, d) s := by
  rcases Client.cases_of_handlerKey? σ δ hc with
    ⟨minor, rfl, hm, hi, -⟩ | ⟨minor, code, rfl, hm, hk, -, hi, hp⟩
  · rw [known?_opcode hi] at hknown
    exact resolve_of_resolveOpcode hm hi (resolveOpcode_of_eq_some hi hknown s)
  · obtain ⟨_, ht, heq⟩ := Option.map_eq_some_iff.mp hknown
    cases heq
    exact resolve_of_resolveCode hm hi (hd.known _ hi _ hp) hk (resolveCode_of_eq_some ht s)

/-- The vendors are asked for what is not known, and the dispatcher learns what they answer. -/
lemma resolve_of_unknown {r : Registry σ δ} (hd : d.Sound r) (hc : c.handlerKey? = some key)
    (hknown : d.known? key = none) {minor : UInt8} (hm : c.minorOpcode = .ok minor) {u : σ}
    {asked : List (Event δ)} {found : Option (Procedure σ δ)}
    (h : env.Asks minor key.askedCode env.registry.active s.world asked found u) :
    d.resolve env c s = .ok (.ok (.ofProcedure? found), d.learn key (.ofProcedure? found))
      { s with world := u, journal := asked.reverse ++ s.journal } := by
  -- The vendors are asked under the opcode of this request, also for a vendor code.
  have hquery := query_eq h rfl
  rcases Client.cases_of_handlerKey? σ δ hc with
    ⟨m, rfl, hm', hi, -⟩ | ⟨m, code, rfl, hm', hk, -, hi, hp⟩
  · obtain rfl := Except.ok.inj (hm.symm.trans hm')
    rw [known?_opcode hi] at hknown
    rw [HandlerKey.askedCode] at hquery
    have hset (x : Option (OpcodeEntry σ δ)) : d.opcodes.set minor.toNat x hi =
        d.opcodes.setIfInBounds minor.toNat x :=
      Vector.ext fun i _ => by rw [Vector.getElem_set, Vector.getElem_setIfInBounds]
    refine resolve_of_resolveOpcode hm hi ?_
    rw [resolveOpcode, hknown]
    dsimp only
    rw [bind_of_ok hquery, hset]
    rfl
  · obtain rfl := Except.ok.inj (hm.symm.trans hm')
    have hnone : d.codes.get? code = none := Option.map_eq_none_iff.mp hknown
    rw [HandlerKey.askedCode] at hquery
    refine resolve_of_resolveCode hm hi (hd.known _ hi _ hp) hk ?_
    rw [resolveCode, hnone]
    dsimp only
    rw [bind_of_ok hquery]
    rfl

end Dispatcher

/-! ### Who is asked in one operation -/

namespace Server

variable {s : Server σ δ} {c : Client} {op : Operation σ δ}

/-- The active vendors are asked for a handler for a client's request. -/
def Asks (s : Server σ δ) (c : Client) (key : HandlerKey) (asked : List (Event δ))
    (found : Option (Procedure σ δ)) (w : σ) : Prop :=
  ∃ minor, c.minorOpcode = .ok minor ∧
    s.environment.Asks minor key.askedCode s.registry.active s.world asked found w

/-- A client's request is served by the handler that was found for it. -/
structure ServedBy (s : Server σ δ) (c : Client) (found : Option (Procedure σ δ))
    (asked : List (Event δ)) (w : σ) : Prop where
  /-- The vendors are asked as told, and nobody is asked while the request is served. -/
  queries : (s.serve c).journal.filter Event.isQuery = asked
  /-- After that the handler serves the request, in the world that the vendors left. -/
  work : ∃ d, s.serve c = { s with dispatcher := d }.answered
    ((Target.ofProcedure? found).serve s.environment
      ⟨c, { s.session with world := w, journal := asked.reverse }⟩)
  /-- Without a handler the request is refused. -/
  refused : found = none → (s.serve c).result = .ok (c, .error .badRequest)

lemma answered_queries {work : ExchangeM σ δ Unit} {x : Exchange σ δ}
    (h : ∀ ρ, Commutes (Exchange.revise ρ) work) :
    (s.answered (work x)).journal.filter Event.isQuery =
      x.session.journal.reverse.filter Event.isQuery := by
  have hends := exchange_entered h x
  rw [Ends] at hends
  rcases hw : work x with ⟨_, y⟩ | ⟨_ | _, y⟩ <;> rw [hw] at hends <;>
    exact hends.queries

/-- Nobody is asked while a request is served, once it is known what serves it. -/
lemma serve_queries (he : s.extension ≠ none) {found : Except ProtocolError (Target σ δ)}
    {d : Dispatcher σ δ} {t : Session σ δ}
    (hr : s.dispatcher.resolve s.environment c s.session = .ok (found, d) t) :
    (s.serve c).journal.filter Event.isQuery = t.journal.reverse.filter Event.isQuery := by
  rw [serve_of_resolve he hr]
  exact answered_queries fun _ => commutes_serveFound s.environment found

lemma servedBy_of_resolve (he : s.extension ≠ none) {found : Option (Procedure σ δ)}
    {d : Dispatcher σ δ} {asked : List (Event δ)} {w : σ}
    (hr : s.dispatcher.resolve s.environment c s.session =
      .ok (.ok (.ofProcedure? found), d) { s.session with world := w, journal := asked.reverse })
    (hasked : ∀ e ∈ asked, e.isQuery = true) : s.ServedBy c found asked w where
  queries := by
    rw [serve_queries he hr, List.reverse_reverse, List.filter_eq_self.mpr hasked]
  work := ⟨d, serve_of_resolve he hr⟩
  refused := by
    rintro rfl
    rw [serve_of_resolve he hr]
    rfl

/-- What serves a request without a key is found without asking anybody. -/
lemma resolve_of_no_key (hs : s.Sound) (hc : c.handlerKey? = none) :
    ∃ result, c.demand = .settled result ∧ s.dispatcher.resolve s.environment c s.session =
      .ok (result, s.dispatcher) s.session := by
  obtain ⟨result, hsettled⟩ := c.settled_of_handlerKey? (σ := σ) (δ := δ) hc
  exact ⟨result, hsettled,
    Dispatcher.resolve_of_settled hs.dispatcher.known hs.dispatcher.readCode hsettled⟩

/-- A request without a key is served without asking anybody. -/
lemma serve_of_no_key (hs : s.Sound) (he : s.extension ≠ none) (hc : c.handlerKey? = none) :
    (s.serve c).journal.filter Event.isQuery = [] ∧
      (s.serve c).server.dispatcher = s.dispatcher := by
  obtain ⟨result, -, hr⟩ := resolve_of_no_key hs hc
  refine ⟨serve_queries he hr, ?_⟩
  rw [serve_of_resolve he hr, answered_dispatcher]

variable {key : HandlerKey}

/-- A request whose handler is known is served by it without asking anybody. -/
lemma serve_of_known (hs : s.Sound) (he : s.extension ≠ none) (hc : c.handlerKey? = some key)
    {found : Option (Procedure σ δ)}
    (hknown : s.dispatcher.known? key = some (.target (.ofProcedure? found))) :
    s.ServedBy c found [] s.world ∧ (s.serve c).server.dispatcher = s.dispatcher := by
  have hr : s.dispatcher.resolve s.environment c s.session =
      .ok (.ok (.ofProcedure? found), s.dispatcher) s.session :=
    Dispatcher.resolve_of_known hs.dispatcher hc hknown
  refine ⟨servedBy_of_resolve he hr (List.forall_mem_nil _), ?_⟩
  rw [serve_of_resolve he hr, answered_dispatcher]

/-- The vendors are asked for a handler that is not known, and what they offer serves the
request. -/
lemma serve_of_unknown (hs : s.Sound) (he : s.extension ≠ none) (hc : c.handlerKey? = some key)
    (hknown : s.dispatcher.known? key = none) :
    ∃ found asked w, s.Asks c key asked found w ∧ s.ServedBy c found asked w ∧
      (s.serve c).server.dispatcher = s.dispatcher.learn key (.ofProcedure? found) := by
  obtain ⟨minor, hm⟩ : ∃ minor, c.minorOpcode = .ok minor := by
    rcases Client.cases_of_handlerKey? σ δ hc with ⟨minor, -, hm, -⟩ | ⟨minor, -, -, hm, -⟩ <;>
      exact ⟨minor, hm⟩
  obtain ⟨asked, found, w, hasks⟩ :=
    Environment.exists_asks s.environment minor key.askedCode s.registry.active s.world
  have hr := Dispatcher.resolve_of_unknown (s := s.session) hs.dispatcher hc hknown hm hasks
  have hjournal : asked.reverse ++ s.session.journal = asked.reverse := List.append_nil _
  rw [hjournal] at hr
  refine ⟨found, asked, w, ⟨minor, hm, hasks⟩, servedBy_of_resolve he hr hasks.isQuery, ?_⟩
  rw [serve_of_resolve he hr, answered_dispatcher]

/-! ### Operations that ask nobody -/

lemma runSession_queries {α : Type} {work : SessionM σ δ α}
    (h : ∀ ρ, Commutes (Session.revise ρ) work) :
    (s.runSession work).journal.filter Event.isQuery = [] := by
  have hends := session_entered h s.session
  rw [Ends] at hends
  rw [runSession]
  cases hw : work s.session <;> rw [hw] at hends <;> exact hends.queries

lemma commutes_initVendor {ρ : Revision δ} (env : Environment σ δ) (entry : ExtensionEntry)
    (v : VendorId) : Commutes (Session.revise ρ) (initVendor env entry v) := by
  rw [initVendor]
  cases (env.registry.interface? v).bind VendorInterface.init with
  | none => exact .pure _
  | some init => exact commutes_calling env v rfl (commutes_interpret env _)

lemma commutes_closeVendors {ρ : Revision δ} (env : Environment σ δ) (entry : ExtensionEntry)
    (vendors : List VendorId) : Commutes (Session.revise ρ) (closeVendors env entry vendors) := by
  induction vendors with
  | nil => exact .pure _
  | cons v rest ih =>
      rw [closeVendors]
      cases (env.registry.interface? v).bind VendorInterface.closeDown with
      | none => exact ih
      | some closeDown =>
          refine (commutes_calling env v rfl ?_).bind fun _ => ih
          exact commutes_world.bind fun _ => commutes_setWorld _

lemma initVendors_queries (entry : ExtensionEntry) (vendors : List VendorId) (s : Server σ δ)
    {journal : List (Event δ)} (h : journal.filter Event.isQuery = []) :
    (initVendors entry vendors s journal).journal.filter Event.isQuery = [] := by
  induction vendors generalizing s journal with
  | nil => exact h
  | cons v rest ih =>
      have hstep : (journal ++
          (s.runSession (initVendor s.environment entry v)).journal).filter Event.isQuery = [] := by
        rw [List.filter_append, h, List.nil_append]
        exact runSession_queries fun _ => commutes_initVendor s.environment entry v
      rw [initVendors]
      dsimp only
      rcases (s.runSession (initVendor s.environment entry v)).result with a | (e | _)
      · exact hstep
      · exact ih _ hstep
      · exact ih _ hstep

/-- Vendors are asked for handlers when requests are served, and at no other time. -/
lemma apply_queries (hop : op.request? = none) :
    (s.apply op).journal.filter Event.isQuery = [] := by
  cases op with
  | createVendor i => rw [journal_createVendor, List.filter_nil]
  | destroyVendor v => rw [journal_destroyVendor, List.filter_nil]
  | beginGeneration entry =>
      rw [apply, beginGeneration]
      cases s.extension with
      | some => rfl
      | none => exact initVendors_queries entry _ _ rfl
  | endGeneration =>
      rw [apply, endGeneration]
      cases s.extension with
      | none => rfl
      | some entry => exact runSession_queries fun _ => commutes_closeVendors _ entry _
  | serve c => cases hop
  | perform p => exact runSession_queries fun _ => commutes_interpret s.environment p
  | clientGone | resourceFreed | changeWorld => rfl

/-! ### A generation learns every handler once -/

/-- The keys of the requests among operations, in order. -/
def handlerKeys (ops : List (Operation σ δ)) : List HandlerKey :=
  (ops.filterMap Operation.request?).filterMap Client.handlerKey?

section Keys

variable {ops : List (Operation σ δ)} {key : HandlerKey}

lemma handlerKeys_concat (ops : List (Operation σ δ)) (op : Operation σ δ) :
    handlerKeys (ops ++ [op]) =
      handlerKeys ops ++ (op.request?.bind Client.handlerKey?).toList := by
  rw [handlerKeys, List.filterMap_append, List.filterMap_append, ← handlerKeys]
  rcases hr : op.request? with _ | c
  · simp [hr]
  · rcases hk : c.handlerKey? with _ | key <;> simp [hr, hk]

lemma handlerKeys_concat_of_key {c : Client} (hc : c.handlerKey? = some key) :
    handlerKeys (ops ++ [.serve c]) = handlerKeys ops ++ [key] := by
  rw [handlerKeys_concat, Operation.request?, Option.bind_some, hc, Option.toList_some]

end Keys

/-- What the active vendors offered for the first request with a key. -/
def FirstFound (g : Server σ δ) (ops : List (Operation σ δ)) (key : HandlerKey)
    (found : Option (Procedure σ δ)) : Prop :=
  ∃ before c after t asked w, ops = before ++ .serve c :: after ∧ key ∉ handlerKeys before ∧
    c.handlerKey? = some key ∧ g.Leads before t ∧ t.Asks c key asked found w

/-- What a dispatcher knows within a generation, after the given operations. -/
structure Knows (g : Server σ δ) (ops : List (Operation σ δ)) (d : Dispatcher σ δ) : Prop where
  queries : d.queries = g.dispatcher.queries + (handlerKeys ops).toFinset.card
  fresh : ∀ (c : Client) key, c.handlerKey? = some key → key ∉ handlerKeys ops →
    d.known? key = none
  learned : ∀ key ∈ handlerKeys ops, ∃ found, g.FirstFound ops key found ∧
    d.known? key = some (.target (.ofProcedure? found))

variable {g t : Server σ δ} {ops : List (Operation σ δ)} {d : Dispatcher σ δ}

lemma FirstFound.concat {found : Option (Procedure σ δ)} (h : g.FirstFound ops key found)
    (op : Operation σ δ) : g.FirstFound (ops ++ [op]) key found := by
  obtain ⟨before, c, after, t, asked, w, rfl, hrest⟩ := h
  exact ⟨before, c, after ++ [op], t, asked, w, List.append_assoc _ _ _, hrest⟩

/-- Operations without new keys teach nothing. -/
lemma Knows.concat (h : g.Knows ops d) {op : Operation σ δ}
    (hkeys : ∀ k, op.request?.bind Client.handlerKey? = some k → k ∈ handlerKeys ops) :
    g.Knows (ops ++ [op]) d := by
  have hmem (k : HandlerKey) : k ∈ handlerKeys (ops ++ [op]) ↔ k ∈ handlerKeys ops := by
    rw [handlerKeys_concat, List.mem_append, Option.mem_toList]
    exact or_iff_left_of_imp fun hk => hkeys k hk
  refine ⟨?_, fun c k hc hk => h.fresh c k hc (mt (hmem k).mpr hk), fun k hk => ?_⟩
  · have hsame : (handlerKeys (ops ++ [op])).toFinset = (handlerKeys ops).toFinset :=
      Finset.ext fun k => by rw [List.mem_toFinset, List.mem_toFinset, hmem k]
    rw [h.queries, hsame]
  · obtain ⟨found, hfound, hknown⟩ := h.learned k ((hmem k).mp hk)
    exact ⟨found, hfound.concat op, hknown⟩

/-- A request with a new key teaches what the vendors answer. -/
lemma Knows.learn (h : g.Knows ops d) (hlead : g.Leads ops t) (hc : c.handlerKey? = some key)
    (hkey : key ∉ handlerKeys ops) {found : Option (Procedure σ δ)} {asked : List (Event δ)}
    {w : σ} (hasks : t.Asks c key asked found w) :
    g.Knows (ops ++ [.serve c]) (d.learn key (.ofProcedure? found)) := by
  have hkeys : handlerKeys (ops ++ [.serve c]) = handlerKeys ops ++ [key] :=
    handlerKeys_concat_of_key hc
  constructor
  · -- The key is new, so there is one key more.
    have hcard : (handlerKeys ops ++ [key]).toFinset.card =
        (handlerKeys ops).toFinset.card + 1 := by
      rw [List.toFinset_append, List.toFinset_cons, List.toFinset_nil, Finset.union_comm]
      exact Finset.card_insert_of_notMem (mt List.mem_toFinset.mp hkey)
    rw [Dispatcher.queries_learn, h.queries, hkeys, hcard, Nat.add_assoc]
  · intro c' k hc' hk
    rw [hkeys, List.mem_append, List.mem_singleton, not_or] at hk
    rw [Dispatcher.known?_learn hc, if_neg hk.2]
    exact h.fresh c' k hc' hk.1
  · intro k hk
    rw [hkeys, List.mem_append, List.mem_singleton] at hk
    by_cases hkk : k = key
    · -- This request is the first one with its key.
      subst hkk
      refine ⟨found, ⟨ops, c, [], t, asked, w, rfl, hkey, hc, hlead, hasks⟩, ?_⟩
      rw [Dispatcher.known?_learn hc, if_pos rfl]
    · obtain ⟨found', hfound, hknown⟩ := h.learned k (hk.resolve_right hkk)
      refine ⟨found', hfound.concat _, ?_⟩
      rw [Dispatcher.known?_learn hc, if_neg hkk, hknown]

/-- A router that operations have led to within a generation. -/
structure Learning (g : Server σ δ) (ops : List (Operation σ δ)) (t : Server σ δ) : Prop where
  sound : t.Sound
  extension : t.extension ≠ none
  leads : g.Leads ops t
  knows : g.Knows ops t.dispatcher

lemma Learning.serve_first (h : g.Learning ops t) (hc : c.handlerKey? = some key)
    (hkey : key ∉ handlerKeys ops) :
    ∃ found asked w, t.Asks c key asked found w ∧ t.ServedBy c found asked w ∧
      (t.serve c).server.dispatcher = t.dispatcher.learn key (.ofProcedure? found) :=
  serve_of_unknown h.sound h.extension hc (h.knows.fresh c key hc hkey)

lemma Learning.serve_again (h : g.Learning ops t) (hc : c.handlerKey? = some key)
    (hkey : key ∈ handlerKeys ops) :
    ∃ found, g.FirstFound ops key found ∧ t.ServedBy c found [] t.world ∧
      (t.serve c).server.dispatcher = t.dispatcher := by
  obtain ⟨found, hfirst, hknown⟩ := h.knows.learned key hkey
  exact ⟨found, hfirst, serve_of_known h.sound h.extension hc hknown⟩

/-- What the dispatcher knows after one more operation. -/
lemma Learning.knows_apply (h : g.Learning ops t) (hop : op ≠ .endGeneration) :
    g.Knows (ops ++ [op]) (t.apply op).server.dispatcher := by
  have hother (hr : op.request? = none) (hd : (t.apply op).server.dispatcher = t.dispatcher) :
      g.Knows (ops ++ [op]) (t.apply op).server.dispatcher := by
    rw [hd]
    exact h.knows.concat fun k hk => by rw [hr] at hk; cases hk
  cases op with
  | serve c =>
      rcases hc : c.handlerKey? with _ | key
      · rw [apply, (serve_of_no_key h.sound h.extension hc).2]
        refine h.knows.concat fun k hk => ?_
        cases hc.symm.trans hk
      · by_cases hkey : key ∈ handlerKeys ops
        · obtain ⟨found, -, -, hd⟩ := h.serve_again hc hkey
          rw [apply, hd]
          refine h.knows.concat fun k hk => ?_
          obtain rfl := Option.some.inj (hc.symm.trans hk)
          exact hkey
        · obtain ⟨found, asked, w, hasks, -, hd⟩ := h.serve_first hc hkey
          rw [apply, hd]
          exact h.knows.learn h.leads hc hkey hasks
  | beginGeneration entry =>
      -- No generation starts within a generation, so nothing is forgotten.
      obtain ⟨e, he⟩ := Option.ne_none_iff_exists'.mp h.extension
      exact hother rfl (by rw [apply, beginGeneration_of_some he])
  | createVendor | destroyVendor | endGeneration | perform | clientGone | resourceFreed
  | changeWorld => exact hother rfl (apply_dispatcher rfl (by simp) hop)

/-- Every run within a generation learns. -/
lemma Leads.learning (h : g.Leads ops t) (hs : g.Sound) (he : g.extension ≠ none)
    (hg : g.Knows [] g.dispatcher) (hops : ∀ op ∈ ops, op ≠ .endGeneration) :
    g.Learning ops t := by
  induction h with
  | nil => exact ⟨hs, he, .nil, hg⟩
  | concat op a hlead ha ih =>
      have hinit := ih fun o ho => hops o (List.mem_append_left _ ho)
      have hop := hops op (List.mem_append_right _ List.mem_cons_self)
      refine ⟨hinit.sound.apply op, ?_, .concat op a hlead ha, hinit.knows_apply hop⟩
      rw [apply_extension hinit.extension hop]
      exact hinit.extension

/-- A generation that has led to a router asks for every handler once. -/
structure LearnsOnce (g : Server σ δ) (ops : List (Operation σ δ)) (t : Server σ δ) : Prop where
  /-- The vendors were asked once for every key. -/
  queries : t.dispatcher.queries = g.dispatcher.queries + (handlerKeys ops).toFinset.card
  /-- The active vendors are asked for a handler when a request needs it for the first time. -/
  first : ∀ c key, c.handlerKey? = some key → key ∉ handlerKeys ops →
    ∃ found asked w, t.Asks c key asked found w ∧ t.ServedBy c found asked w ∧
      (t.serve c).server.dispatcher.queries = t.dispatcher.queries + 1
  /-- Later requests with the same key are served by what was found then, and nobody is asked. -/
  later : ∀ c key, c.handlerKey? = some key → key ∈ handlerKeys ops →
    ∃ found, g.FirstFound ops key found ∧ t.ServedBy c found [] t.world ∧
      (t.serve c).server.dispatcher = t.dispatcher
  /-- Nobody is asked for a request that has no key. -/
  keyless : ∀ c, c.handlerKey? = none → (t.serve c).journal.filter Event.isQuery = [] ∧
    (t.serve c).server.dispatcher = t.dispatcher

lemma Learning.learnsOnce (h : g.Learning ops t) : g.LearnsOnce ops t where
  queries := h.knows.queries
  first c key hc hkey := by
    obtain ⟨found, asked, w, hasks, hserved, hd⟩ := h.serve_first hc hkey
    exact ⟨found, asked, w, hasks, hserved, by rw [hd, Dispatcher.queries_learn]⟩
  later c key hc hkey := h.serve_again hc hkey
  keyless c hc := serve_of_no_key h.sound h.extension hc

end Server

/-- One dispatcher is left when another one forgets what it has learned. -/
structure Dispatcher.Forgets (d u : Dispatcher σ δ) : Prop where
  /-- The queries still count. -/
  queries : u.queries = d.queries
  /-- The opcodes that were known from the start are known, and no others. -/
  opcodes : ∀ minor entry, u.known? (.opcode minor) = some entry ↔ (minor, entry) ∈ preset
  /-- The vendor code that was known from the start is known, and no other. -/
  codes : ∀ code entry, u.known? (.vendorCode code) = some entry ↔
    code = makeCurrentReadCode ∧ entry = .target (.makeCurrent .vendorPrivate)

lemma Dispatcher.forgets_reset (d : Dispatcher σ δ) : d.Forgets d.reset where
  queries := by rw [reset]
  opcodes := d.known?_reset_opcode
  codes := d.known?_reset_vendorCode

/-- Within a generation the active vendors are asked for a handler at the first request that needs
one, in the order of registration, and later requests get what was found then, whatever the vendors
would say now. Nobody is asked at any other time. Both ends of the generation forget what was
learned. -/
theorem handlers_learned_once {s : Server σ δ} (hs : s.Reachable) {entry : ExtensionEntry}
    (hbegin : (s.beginGeneration entry).result = .ok (.ok ())) {ops : List (Operation σ δ)}
    (hops : ∀ op ∈ ops, op ≠ .endGeneration) {t : Server σ δ}
    (ht : (s.beginGeneration entry).server.Leads ops t) :
    (s.beginGeneration entry).server.LearnsOnce ops t ∧
      t.registry.active.Pairwise (fun a b => a.index < b.index) ∧
      t.registry.active = (s.beginGeneration entry).server.registry.active ∧
      (∀ op, op.request? = none → (t.apply op).journal.filter Event.isQuery = []) ∧
      (∀ d : Dispatcher σ δ, d.Forgets d.reset) ∧
      (s.beginGeneration entry).server.dispatcher = s.dispatcher.reset ∧
      t.endGeneration.server.dispatcher = t.dispatcher.reset := by
  have hidle : s.extension = none := by
    rcases he : s.extension with _ | e
    · rfl
    · rw [Server.beginGeneration_of_some he] at hbegin
      cases hbegin
  obtain ⟨hext, hdisp⟩ := Server.beginGeneration_frame hidle entry
  have hsound := hs.sound.beginGeneration entry
  have hne : (s.beginGeneration entry).server.extension ≠ none := by
    rw [hext]
    exact Option.some_ne_none _
  -- the generation starts knowing nothing
  have hempty : (s.beginGeneration entry).server.Knows []
      (s.beginGeneration entry).server.dispatcher := by
    refine ⟨rfl, fun c key hc _ => ?_, nofun⟩
    rw [hdisp, Dispatcher.known?_reset_of_key _ hc]
  have hlearning := ht.learning hsound hne hempty hops
  have hreach : t.Reachable := ht.reachable (.apply (.beginGeneration entry) _ hs hbegin)
  obtain ⟨e, he⟩ := Option.ne_none_iff_exists'.mp hlearning.extension
  have hactive := (ht.sameActive hsound hne hops).2.active
  exact ⟨hlearning.learnsOnce, hreach.orderly.sorted, hactive, fun op => Server.apply_queries,
    Dispatcher.forgets_reset, hdisp, (Server.endGeneration_frame he).2.1⟩

/-! ### A vendor that changes its mind -/

/-- A vendor that counts how often it is asked, and offers a handler every other time. -/
def VendorInterface.fickle : VendorInterface Nat Nat where
  closeDown := some fun _ w => w
  handleRequest := some fun c => .done (c, .ok ())
  dispatchAddress := some fun _ _ w => (if w % 2 = 1 then some fun c => .done (c, .ok ()) else none,
    w + 1)
  makeCurrent := some fun c _ => .done (c, .ok none)

/-- A world in which the vendor has not been asked yet. -/
def unasked : Server Nat Nat :=
  .new { screenCount := fun _ => 1, lookupDrawable := fun _ _ _ => none,
         legalNewResource := fun _ _ _ => true, isExiting := fun _ => false } 0 4

/-- The router of the vendor, between generations. -/
def fickleServer : Server Nat Nat := unasked.after (unasked.run [.createVendor .fickle])

/-- A client uses two vendor codes. -/
def fickleRequests : List (Operation Nat Nat) :=
  [.serve (.asking 7 Opcode.vendorPrivate [5]), .serve (.asking 7 Opcode.vendorPrivate [6])]

/-- The router after these requests. -/
def fickleLearned : Server Nat Nat :=
  (fickleServer.beginGeneration .sample).server.after
    ((fickleServer.beginGeneration .sample).server.run fickleRequests)

/-- The vendor refuses the first code and serves the second, and it would refuse both now. It is
asked neither about the one nor about the other. -/
theorem handlers_learned_once_fickle :
    fickleServer.Reachable ∧ (fickleServer.beginGeneration .sample).result = .ok (.ok ()) ∧
      (∀ op ∈ fickleRequests, op ≠ .endGeneration) ∧
      (fickleServer.beginGeneration .sample).server.Leads fickleRequests fickleLearned ∧
      fickleLearned.world = 2 ∧ fickleLearned.dispatcher.queries = 2 ∧
      (∃ found, (fickleServer.beginGeneration .sample).server.FirstFound fickleRequests
          (.vendorCode 6) found ∧
        fickleLearned.ServedBy (.asking 7 Opcode.vendorPrivate [6]) found [] 2) ∧
      (fickleLearned.serve (.asking 7 Opcode.vendorPrivate [5])).result.map Prod.snd =
        .ok (.error .badRequest) ∧
      (fickleLearned.serve (.asking 7 Opcode.vendorPrivate [6])).result.map Prod.snd =
        .ok (.ok ()) := by
  have hcreated : unasked.Leads [.createVendor .fickle] fickleServer := .of_run (by decide +kernel)
  have hreach : fickleServer.Reachable := hcreated.reachable (.new _ _ _)
  have hbegin : (fickleServer.beginGeneration .sample).result = .ok (.ok ()) := by decide +kernel
  have hops : ∀ op ∈ fickleRequests, op ≠ .endGeneration := by simp [fickleRequests]
  have hlead : (fickleServer.beginGeneration .sample).server.Leads fickleRequests fickleLearned :=
    .of_run (by decide +kernel)
  have hworld : fickleLearned.world = 2 := by decide +kernel
  have honce := (handlers_learned_once hreach hbegin hops hlead).1
  obtain ⟨found, hfirst, hserved, -⟩ := honce.later (.asking 7 Opcode.vendorPrivate [6])
    (.vendorCode 6) (by decide +kernel) (by decide +kernel)
  rw [hworld] at hserved
  have hqueries : fickleLearned.dispatcher.queries = 0 + 2 :=
    honce.queries.trans (by decide +kernel)
  exact ⟨hreach, hbegin, hops, hlead, hworld, hqueries, ⟨found, hfirst, hserved⟩, by decide +kernel,
    by decide +kernel⟩

end VendorDispatch
