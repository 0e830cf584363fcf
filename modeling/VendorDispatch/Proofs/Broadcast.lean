import VendorDispatch.Proofs.Routing

/-!
Requests that go to every active vendor.

* `outerCalls`: the calls that the router makes of its own accord, as against those that a vendor
  brings about by handing a request on. They are read off the journal: the latter stand between a
  call and its return (`staysInside_interpret`).
* `Environment.Tour`: the vendors are called in turn, each with the client as the one before it left
  it, but with the request as it was sent.
* `broadcastTo_tour`: showing a request to vendors is such a tour; `Tour.request`, `Tour.calls`: what
  is left of the request after it, and who is called on it.
* `clientInfo_reaches_every_vendor`: the requests about the client itself are shown to every active
  vendor, and succeed.
-/

namespace VendorDispatch

variable {σ δ α β : Type}

/-- The minor opcodes of the requests by which a client tells the vendors about itself. -/
def clientInfoOpcodes : List UInt8 :=
  [Opcode.clientInfo, Opcode.setClientInfoARB, Opcode.setClientInfo2ARB]

/-! ### Calls inside of calls -/

/-- The number of calls that have not returned, after one more event. -/
def Event.depthAfter (depth : Nat) : Event δ → Nat
  | .called .. => depth + 1
  | .returned .. => depth - 1
  | _ => depth

/-- The calls in a stretch of the journal that stand inside of no other call. The stretch begins
inside of `depth` calls, and its first event is the earliest one. -/
def outerCalls (depth : Nat) : List (Event δ) → List (VendorId × Callback δ)
  | [] => []
  | e :: rest =>
    (if depth = 0 then e.call?.toList else []) ++ outerCalls (e.depthAfter depth) rest

/-- As many calls return in the stretch as are made in it. Whatever comes after it is inside of the
calls that it is inside of itself. -/
def Balanced (stretch : List (Event δ)) : Prop :=
  ∀ depth rest, outerCalls (depth + 1) (stretch ++ rest) = outerCalls (depth + 1) rest

/-- The stretch does not leave the call that it is in. -/
def StaysIn (stretch : List (Event δ)) : Prop :=
  ∀ depth, outerCalls (depth + 1) stretch = []

section Stretches

variable {first second : List (Event δ)}

lemma Balanced.nil : Balanced ([] : List (Event δ)) := fun _ _ => rfl

/-- Calls that all returned, followed by calls that all returned. -/
lemma Balanced.append (h : Balanced first) (h' : Balanced second) : Balanced (first ++ second) := by
  intro depth rest
  rw [List.append_assoc, h, h']

lemma Balanced.staysIn (h : Balanced first) : StaysIn first := by
  intro depth
  have hnil := h depth []
  rwa [List.append_nil] at hnil

lemma Balanced.append_staysIn (h : Balanced first) (h' : StaysIn second) :
    StaysIn (first ++ second) :=
  fun depth => (h depth second).trans (h' depth)

/-- An event that is neither a call nor a return. -/
lemma balanced_singleton {e : Event δ} (he : ∀ depth, e.depthAfter depth = depth) :
    Balanced [e] := by
  intro depth rest
  rw [List.singleton_append, outerCalls, he, if_neg (Nat.succ_ne_zero depth), List.nil_append]

lemma Event.IsQuestion.depthAfter {e : Event δ} (h : e.IsQuestion) (depth : Nat) :
    e.depthAfter depth = depth := by
  cases e <;> first | rfl | exact h.elim

variable {v : VendorId} {initialized : Bool} {callback : Callback δ} {answer : callback.Answer}

/-- A call, what happens in it, and its return. -/
lemma outerCalls_call {inside : List (Event δ)} (h : Balanced inside) (rest : List (Event δ)) :
    outerCalls 0 (.called v initialized callback :: inside ++ .returned v callback answer :: rest) =
      (v, callback) :: outerCalls 0 rest := by
  have hinside : outerCalls 1 (inside ++ .returned v callback answer :: rest) =
      outerCalls 1 (.returned v callback answer :: rest) := h 0 _
  exact congrArg (List.cons (v, callback)) hinside

/-- A call that does not return. -/
lemma outerCalls_open {inside : List (Event δ)} (h : StaysIn inside) :
    outerCalls 0 (.called v initialized callback :: inside) = [(v, callback)] :=
  congrArg (List.cons (v, callback)) (h 0)

/-- A call and its answer around calls that all returned. -/
lemma Balanced.call (h : Balanced first) :
    Balanced (.called v initialized callback :: first ++ [.returned v callback answer]) := by
  intro depth rest
  have hinside : outerCalls (depth + 2) (first ++ .returned v callback answer :: rest) =
      outerCalls (depth + 2) (.returned v callback answer :: rest) := h (depth + 1) _
  rw [List.append_assoc]
  exact hinside

lemma StaysIn.call (h : StaysIn first) : StaysIn (.called v initialized callback :: first) :=
  fun depth => h (depth + 1)

end Stretches

/-! ### What a callback enters -/

/-- The work adds a stretch to the journal that is balanced, or is broken off before it has left the
call that it is done in. -/
def StaysInside (work : SessionM σ δ α) : Prop :=
  ∀ s, Ends work s
    (fun _ t => ∃ added, t.journal.reverse = s.journal.reverse ++ added ∧ Balanced added)
    fun _ t => ∃ added, t.journal.reverse = s.journal.reverse ++ added ∧ StaysIn added

section StaysInside

variable {work : SessionM σ δ α} {env : Environment σ δ}

lemma StaysInside.pure (a : α) : StaysInside (pure a : SessionM σ δ α) :=
  fun _ => ⟨[], (List.append_nil _).symm, .nil⟩

lemma StaysInside.throw (e : Abort) : StaysInside (throw e : SessionM σ δ α) :=
  fun _ => ⟨[], (List.append_nil _).symm, Balanced.nil.staysIn⟩

/-- Two pieces of work that stay inside a call do so in a row. -/
lemma StaysInside.bind {f : α → SessionM σ δ β} (h : StaysInside work)
    (hf : ∀ a, StaysInside (f a)) : StaysInside (work >>= f) := by
  intro s
  refine ends_bind.mpr ((h s).mono ?_ fun _ _ => id)
  rintro a t ⟨added, hadded, hbalanced⟩
  refine (hf a t).mono ?_ ?_
  · rintro b u ⟨more, hmore, hb⟩
    exact ⟨added ++ more, by rw [hmore, hadded, List.append_assoc], hbalanced.append hb⟩
  · rintro e u ⟨more, hmore, hb⟩
    exact ⟨added ++ more, by rw [hmore, hadded, List.append_assoc], hbalanced.append_staysIn hb⟩

lemma staysInside_record {e : Event δ} (he : ∀ depth, e.depthAfter depth = depth) :
    StaysInside (SessionM.record e : SessionM σ δ Unit) :=
  fun _ => ⟨[e], List.reverse_cons, balanced_singleton he⟩

lemma staysInside_perform (request : ExportCall δ) : StaysInside (env.perform request) := by
  intro s
  have hasks : Keeps (fun t => ∃ added, t.journal.reverse = s.journal.reverse ++ added ∧
      Balanced added) (env.perform request) := by
    refine perform_journal (P := fun journal => ∃ added,
      journal.reverse = s.journal.reverse ++ added ∧ Balanced added) ?_ request
    rintro e journal he ⟨added, hadded, h⟩
    refine ⟨added ++ [e], ?_, h.append (balanced_singleton he.depthAfter)⟩
    rw [List.reverse_cons, hadded, List.append_assoc]
  refine (hasks s ⟨[], (List.append_nil _).symm, .nil⟩).mono (fun _ _ => id) ?_
  exact fun _ _ ⟨added, hadded, h⟩ => ⟨added, hadded, h.staysIn⟩

lemma staysInside_calling (v : VendorId) (callback : Callback δ)
    {work : SessionM σ δ callback.Answer} (h : StaysInside work) :
    StaysInside (env.calling v callback work) := by
  intro s
  refine (ends_calling callback).mpr ((h _).mono ?_ ?_)
  · rintro answer t ⟨added, hadded, hbalanced⟩
    refine ⟨.called v (env.registry.isInitialized v) callback :: added ++
      [.returned v callback answer], ?_, hbalanced.call⟩
    rw [Session.journal_enter, List.reverse_cons, hadded, Session.journal_enter, List.reverse_cons]
    simp only [List.append_assoc, List.cons_append, List.nil_append]
  · rintro e t ⟨added, hadded, hstays⟩
    refine ⟨.called v (env.registry.isInitialized v) callback :: added, ?_, hstays.call⟩
    rw [hadded, Session.journal_enter, List.reverse_cons, List.append_assoc, List.singleton_append]

variable {forward : VendorId → Client → SessionM σ δ (Client × Except ProtocolError Unit)}

/-- A program stays inside if the requests do that it hands on. -/
lemma staysInside_runWith (hf : ∀ v c, StaysInside (forward v c)) (p : Program σ δ α) :
    StaysInside (env.runWith forward p) := by
  induction p with
  | done a => exact .pure a
  | readWorld next ih => exact fun s => ends_bind.mpr (ih s.world s)
  | writeWorld w next ih => exact fun s => ends_bind.mpr (ih (s.withWorld w))
  | note n next ih => exact (staysInside_record fun _ => rfl).bind fun _ => ih
  | call request next ih =>
      exact (staysInside_perform request).bind fun answer =>
        (staysInside_record fun _ => rfl).bind fun _ => ih answer
  | forward v c next ih => exact (hf v c).bind ih
  | panic => exact .throw _

/-- A request that is handed on stays inside, at any depth of nesting. -/
lemma staysInside_forwardNested :
    ∀ depth v c, StaysInside (env.forwardNested depth v c)
  | 0, _, _ => .throw _
  | depth + 1, v, c => by
      rw [Environment.forwardNested, Environment.serveWith]
      cases env.requestHandler? v with
      | none => exact .pure _
      | some handler =>
          exact staysInside_calling v (.request c)
            (staysInside_runWith (staysInside_forwardNested depth) _)

/-- Whatever a vendor does, at whatever depth of nesting, happens inside of the call of the
vendor. -/
lemma staysInside_interpret (env : Environment σ δ) (p : Program σ δ α) :
    StaysInside (env.interpret p) :=
  staysInside_runWith (staysInside_forwardNested env.nestingLimit) p

end StaysInside

/-! ### From vendor to vendor -/

/-- The vendors serve requests in turn, up to one whose work is broken off. Each of them is given
the client as the one before it left it, but with the request that was sent. -/
inductive Environment.Tour (env : Environment σ δ) (sent : List UInt8) :
    List VendorId → Exchange σ δ → Except Abort Unit → Exchange σ δ → Prop
  /-- There is nobody left. -/
  | done {x : Exchange σ δ} : Tour env sent [] x (.ok ()) x
  /-- A vendor returns, with whatever answer, and the tour goes on. -/
  | visit {v : VendorId} {rest : List VendorId} {handler : RequestHandler σ δ} {x y : Exchange σ δ}
    {answer : Client × Except ProtocolError Unit} {t : Session σ δ} {outcome : Except Abort Unit} :
    env.requestHandler? v = some handler →
    env.interpret (handler x.client) (x.session.enter (.called v true (.request x.client))) =
      .ok answer t →
    Tour env sent rest ⟨{ answer.1 with request := sent },
      t.enter (.returned v (.request x.client) answer)⟩ outcome y →
    Tour env sent (v :: rest) x outcome y
  /-- The work of a vendor is broken off, and the tour ends. -/
  | breakOff {v : VendorId} {rest : List VendorId} {handler : RequestHandler σ δ} {x : Exchange σ δ}
    {a : Abort} {t : Session σ δ} :
    env.requestHandler? v = some handler →
    env.interpret (handler x.client) (x.session.enter (.called v true (.request x.client))) =
      .error a t →
    Tour env sent (v :: rest) x (.error a) (x.withSession t)

/-- What the router's work on a request comes to when it ends without an error for the client. -/
def Exchange.outcome (x : Exchange σ δ) :
    Except Abort Unit → EStateM.Result Fault (Exchange σ δ) Unit
  | .ok () => .ok () x
  | .error a => .error (.abort a) x

section Tour

variable {env : Environment σ δ} {v : VendorId} {x y : Exchange σ δ} {sent : List UInt8}
  {vendors : List VendorId} {outcome : Except Abort Unit}

/-- Asking a vendor to serve a request, whatever it answers. -/
lemma discard_attempt_forward {handler : RequestHandler σ δ}
    (h : env.requestHandler? v = some handler) :
    discard (ExchangeM.attempt (Forwarding.forward env v)) x =
      match env.interpret (handler x.client)
        (x.session.enter (.called v true (.request x.client))) with
      | .ok answer t => .ok () ⟨answer.1, t.enter (.returned v (.request x.client) answer)⟩
      | .error a t => .error (.abort a) (x.withSession t) := by
  simp only [discard, Functor.discard, Functor.mapConst, EStateM.map, ExchangeM.attempt,
    Function.comp, forward_of_some h]
  rcases env.interpret (handler x.client)
    (x.session.enter (.called v true (.request x.client))) with ⟨⟨d, _ | _⟩, t⟩ | ⟨a, t⟩ <;> rfl

/-- Whatever a vendor answers to the request, the others are shown it as well. -/
lemma broadcastTo_tour (h : ∀ v ∈ vendors, ∃ handler, env.requestHandler? v = some handler)
    (sent : List UInt8) (x : Exchange σ δ) :
    ∃ outcome y, env.Tour sent vendors x outcome y ∧
      Forwarding.broadcastTo env sent vendors x = y.outcome outcome := by
  induction vendors generalizing x with
  | nil => exact ⟨.ok (), x, .done, rfl⟩
  | cons v rest ih =>
      obtain ⟨handler, hv⟩ := h v List.mem_cons_self
      have hvisit := discard_attempt_forward hv (x := x)
      cases hrun : env.interpret (handler x.client)
          (x.session.enter (.called v true (.request x.client))) with
      | error a t =>
          rw [hrun] at hvisit
          -- the vendor breaks off
          refine ⟨.error a, x.withSession t, .breakOff hv hrun, ?_⟩
          rw [Forwarding.broadcastTo]
          simp only [bind, EStateM.bind, hvisit]
          rfl
      | ok answer t =>
          rw [hrun] at hvisit
          -- it answers, and the next vendor finds the request restored
          obtain ⟨outcome, y, htour, hrest⟩ := ih (fun w hw => h w (List.mem_cons_of_mem v hw))
            ⟨{ answer.1 with request := sent }, t.enter (.returned v (.request x.client) answer)⟩
          refine ⟨outcome, y, .visit hv hrun htour, ?_⟩
          rw [Forwarding.broadcastTo, bind_of_ok hvisit]
          exact hrest

/-- Whoever looks at the request afterwards finds it as it was sent. -/
lemma Environment.Tour.request (h : env.Tour sent vendors x outcome y)
    (hx : x.client.request = sent) : y.client.request = sent := by
  induction h with
  | done => exact hx
  | visit _ _ _ ih => exact ih rfl
  | breakOff => exact hx

/-- The calls are those of the vendors, each with the request as it was sent. -/
def Shown (sent : List UInt8) : List VendorId → List (VendorId × Callback δ) → Prop :=
  List.Forall₂ fun v call => call.1 = v ∧ ∃ b : Client, call.2 = .request b ∧ b.request = sent

/-- The work of the vendor for a client with the request is broken off. -/
def Environment.BreaksOff (env : Environment σ δ) (sent : List UInt8) (v : VendorId) (a : Abort) :
    Prop :=
  ∃ handler b s t, env.requestHandler? v = some handler ∧ b.request = sent ∧
    env.interpret (handler b) s = .error a t

/-- Who is called on a tour: every vendor, or those up to the one whose work is broken off. -/
def Environment.Calls (env : Environment σ δ) (sent : List UInt8) (vendors : List VendorId)
    (calls : List (VendorId × Callback δ)) : Except Abort Unit → Prop
  | .ok () => Shown sent vendors calls
  | .error a => ∃ before v after, vendors = before ++ v :: after ∧
      Shown sent (before ++ [v]) calls ∧ env.BreaksOff sent v a

/-- One more vendor that returns, before the others. -/
lemma Environment.Calls.cons {calls : List (VendorId × Callback δ)}
    (h : env.Calls sent vendors calls outcome) {b : Client} (hb : b.request = sent) :
    env.Calls sent (v :: vendors) ((v, .request b) :: calls) outcome := by
  rcases outcome with a | _
  · obtain ⟨before, w, after, rfl, hshown, hbreaks⟩ := h
    exact ⟨v :: before, w, after, rfl, .cons ⟨rfl, b, rfl, hb⟩ hshown, hbreaks⟩
  · exact .cons ⟨rfl, b, rfl, hb⟩ h

/-- Whatever the client is, the vendor hands no request on. -/
def Environment.HandsOnNothing (env : Environment σ δ) (v : VendorId) : Prop :=
  ∀ handler ∈ env.requestHandler? v, ∀ b, (handler b).HandsOnNothing

/-- What a program enters that hands no request on. -/
lemma filterMap_call?_of_handsOnNothing {p : Program σ δ α} (hp : p.HandsOnNothing)
    {s t : Session σ δ} {inside : List (Event δ)}
    (hinside : t.journal.reverse = s.journal.reverse ++ inside)
    (hrun : (∃ a, env.interpret p s = .ok a t) ∨ ∃ e, env.interpret p s = .error e t) :
    inside.filterMap Event.call? = [] := by
  have hcalls : Ends (env.interpret p) s (fun _ u => u.calls = s.calls)
      fun _ u => u.calls = s.calls := runWith_calls hp s rfl
  have hsame : t.calls = s.calls := by
    obtain ⟨a, hrun⟩ | ⟨e, hrun⟩ := hrun <;> rw [Ends, hrun] at hcalls <;> exact hcalls
  have hreverse := congrArg (List.filterMap Event.call?) hinside
  rw [List.filterMap_append, List.filterMap_reverse, List.filterMap_reverse, ← Session.calls,
    ← Session.calls, hsame] at hreverse
  exact List.self_eq_append_right.mp hreverse

/-- The router calls the vendors in turn, and nobody else. If no vendor hands a request on, there
are no other calls at all. -/
lemma Environment.Tour.calls (h : env.Tour sent vendors x outcome y)
    (hx : x.client.request = sent) :
    ∃ added, y.session.journal.reverse = x.session.journal.reverse ++ added ∧
      env.Calls sent vendors (outerCalls 0 added) outcome ∧
      ((∀ v ∈ vendors, env.HandsOnNothing v) →
        added.filterMap Event.call? = outerCalls 0 added) := by
  induction h with
  | done => exact ⟨[], (List.append_nil _).symm, .nil, fun _ => rfl⟩
  | @visit v rest handler x y answer t outcome hv hrun _ ih =>
      have hinside := staysInside_interpret env (handler x.client)
        (x.session.enter (.called v true (.request x.client)))
      rw [Ends, hrun] at hinside
      obtain ⟨inside, hinside, hbalanced⟩ := hinside
      obtain ⟨added, hadded, hcalls, hall⟩ := ih rfl
      -- what the vendor does is between its call and its answer, and so not an outer call
      have houter : outerCalls 0 (.called v true (.request x.client) :: inside ++
          .returned v (.request x.client) answer :: added) =
          (v, .request x.client) :: outerCalls 0 added := outerCalls_call hbalanced added
      refine ⟨.called v true (.request x.client) :: inside ++
        .returned v (.request x.client) answer :: added, ?_, houter ▸ hcalls.cons hx,
        fun hnothing => ?_⟩
      · rw [hadded, Session.journal_enter, List.reverse_cons, hinside, Session.journal_enter,
          List.reverse_cons]
        simp only [List.append_assoc, List.cons_append, List.nil_append]
      · -- a vendor that hands nothing on calls nobody
        have hnone : inside.filterMap Event.call? = [] :=
          filterMap_call?_of_handsOnNothing (hnothing v List.mem_cons_self handler hv x.client)
            hinside (.inl ⟨_, hrun⟩)
        have hrest := hall fun w hw => hnothing w (List.mem_cons_of_mem v hw)
        refine Eq.trans ?_ houter.symm
        rw [← hrest, List.filterMap_append, List.filterMap_cons, hnone]
        rfl
  | @breakOff v rest handler x a t hv hrun =>
      have hinside := staysInside_interpret env (handler x.client)
        (x.session.enter (.called v true (.request x.client)))
      rw [Ends, hrun] at hinside
      obtain ⟨inside, hinside, hstays⟩ := hinside
      refine ⟨.called v true (.request x.client) :: inside, ?_, ?_, fun hnothing => ?_⟩
      · rw [Exchange.session_withSession, hinside, Session.journal_enter, List.reverse_cons,
          List.append_assoc, List.singleton_append]
      · -- the vendor that broke off is the last one that was called
        rw [outerCalls_open hstays]
        exact ⟨[], v, rest, rfl, .cons ⟨rfl, _, rfl, hx⟩ .nil, handler, _, _, _, hv, hx, hrun⟩
      · have hnone : inside.filterMap Event.call? = [] :=
          filterMap_call?_of_handsOnNothing (hnothing v List.mem_cons_self handler hv x.client)
            hinside (.inr ⟨_, hrun⟩)
        rw [outerCalls_open hstays, List.filterMap_cons, hnone]
        rfl

end Tour

/-! ### What comes of the request -/

/-- The opcodes are known from the start. -/
lemma clientInfo_mem_preset {minor : UInt8} (h : minor ∈ clientInfoOpcodes) :
    (minor, .target .clientInfo) ∈ (Dispatcher.preset (σ := σ) (δ := δ)) := by
  refine List.mem_append_left _ ?_
  simp only [clientInfoOpcodes, List.mem_cons, List.not_mem_nil, or_false] at h
  rcases h with rfl | rfl | rfl <;> simp [Dispatcher.builtins]

/-- A request by which a client tells about itself is shown to every active vendor in turn, in the
order of registration, and each of them finds it as the client sent it. It succeeds whatever the
vendors answer, and is afterwards as the client sent it, unless the work of a vendor is broken off.
The router calls nobody else, and if no vendor hands a request on, nobody else is called. -/
theorem clientInfo_reaches_every_vendor {s : Server σ δ} (hs : s.Reachable)
    (he : s.extension ≠ none) {c : Client} {minor : UInt8} (hm : c.minorOpcode = .ok minor)
    (hinfo : minor ∈ clientInfoOpcodes) :
    s.registry.active = s.registry.initializedIds ∧
    ∃ outcome y, s.environment.Tour c.request s.registry.active ⟨c, s.session⟩ outcome y ∧
      (s.serve c).result = outcome.map (fun _ => (y.client, .ok ())) ∧
      y.client.request = c.request ∧
      s.environment.Calls c.request s.registry.active (outerCalls 0 (s.serve c).journal) outcome ∧
      ((∀ v ∈ s.registry.active, s.environment.HandsOnNothing v) →
        (s.serve c).journal.filterMap Event.call? = outerCalls 0 (s.serve c).journal) := by
  have hbelow : ∀ minor ∈ clientInfoOpcodes, minor.toNat < opcodeCount := by decide +kernel
  -- these opcodes are known from the start, and lead to the broadcast
  have hresolve : s.dispatcher.resolve s.environment c s.session =
      .ok (.ok .clientInfo, s.dispatcher) s.session :=
    hs.sound.dispatcher.resolve_of_preset hm (hbelow minor hinfo) (clientInfo_mem_preset hinfo) _
  have hserve : s.serve c = s.answered (Forwarding.broadcastTo s.environment c.request
      s.registry.active ⟨c, s.session⟩) := Server.serve_of_resolve he hresolve
  -- every active vendor has a handler to be called
  have hhandlers : ∀ v ∈ s.registry.active,
      ∃ handler, s.environment.requestHandler? v = some handler := fun v hv =>
    Environment.exists_requestHandler? hs.orderly ((hs.orderly.mem_active v).mp hv)
  obtain ⟨outcome, y, htour, hbroadcast⟩ := broadcastTo_tour hhandlers c.request ⟨c, s.session⟩
  obtain ⟨added, hadded, hcalls, hall⟩ := htour.calls rfl
  rw [Server.session, List.reverse_nil, List.nil_append] at hadded
  have hjournal : (s.serve c).journal = added := by
    rw [hserve, hbroadcast, ← hadded]
    cases outcome <;> rfl
  refine ⟨hs.orderly.active_eq, outcome, y, htour, ?_, htour.request rfl, ?_⟩
  · rw [hserve, hbroadcast]
    cases outcome <;> rfl
  · rw [hjournal]
    exact ⟨hcalls, hall⟩

/-- A vendor that hands an empty request on to the next vendor, leaves a longer one to the client,
and fails. -/
def VendorInterface.meddling : VendorInterface Unit δ :=
  { obliging 0 none with
    handleRequest := some fun c => .forward ⟨1⟩ { c with request := [] } fun r =>
      .done ({ r.1 with request := 7 :: c.request }, .error .badLength) }

/-- A generation with that vendor and another one after it. -/
def meddled : Server Unit Nat :=
  .reached [.createVendor .meddling, .createVendor (.obliging 0 none), .beginGeneration .sample]

/-- The second vendor is called twice, but once by the router, and then with the request as the
client sent it. -/
theorem clientInfo_reaches_every_vendor_of_meddled :
    meddled.Reachable ∧ meddled.extension ≠ none ∧
      Shown (Client.asking 7 Opcode.clientInfo [1, 4]).request [⟨0⟩, ⟨1⟩]
        (outerCalls 0 (meddled.serve (.asking 7 Opcode.clientInfo [1, 4])).journal) ∧
      (meddled.serve (.asking 7 Opcode.clientInfo [1, 4])).result =
        .ok (.asking 7 Opcode.clientInfo [1, 4], .ok ()) ∧
      ((meddled.serve (.asking 7 Opcode.clientInfo [1, 4])).journal.filterMap Event.call?).map
        Prod.fst = [⟨0⟩, ⟨1⟩, ⟨1⟩] := by
  have hlead : (Server.new (.blank 1) () 4).Leads [.createVendor .meddling,
      .createVendor (.obliging 0 none), .beginGeneration .sample] meddled :=
    .of_run (by decide +kernel)
  have hreach : meddled.Reachable := hlead.reachable (.new _ _ _)
  have he : meddled.extension ≠ none := by decide +kernel
  have hactive : meddled.registry.active = [⟨0⟩, ⟨1⟩] := by decide +kernel
  have hresult : (meddled.serve (.asking 7 Opcode.clientInfo [1, 4])).result =
      .ok (.asking 7 Opcode.clientInfo [1, 4], .ok ()) := by decide +kernel
  have hm : (Client.asking 7 Opcode.clientInfo [1, 4]).minorOpcode = .ok Opcode.clientInfo := by
    decide
  obtain ⟨-, outcome, y, -, houtcome, -, hcalls, -⟩ :=
    clientInfo_reaches_every_vendor hreach he hm (by decide)
  rw [hresult] at houtcome
  rw [hactive] at hcalls
  rcases outcome with a | _
  · cases houtcome
  · exact ⟨hreach, he, hcalls, hresult, by decide +kernel⟩

end VendorDispatch
