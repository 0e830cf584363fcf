import VendorDispatch.Proofs.Atomicity
import VendorDispatch.Proofs.Learning
import VendorDispatch.Proofs.Routing

/-!
Requests that are too short.

* `Client.fieldsEnd`, `Client.TooShort`: how many bytes the router needs of a request, by its opcode
  and its vendor code; the request is too short if it has fewer, or no opcode.
* `Target.fieldsEnd`: how many bytes the service of a target needs. `Target.serve_of_lt`: with fewer
  of them the service ends before it has done anything.
* `Session.Blames`: the vendor that was called last has answered by an error.
  `Target.serve_blamed`: with enough bytes nothing but a vendor complains about the length.
* `badLength_iff_tooShort`: the router complains about the length of those requests that are too
  short, and of no others.
-/

namespace VendorDispatch

variable {σ δ α : Type}

/-! ### How long a request has to be -/

/-- The number of bytes up to the end of the fields that name the vendor and the new resource. -/
def RoutedRequest.fieldsEnd (r : RoutedRequest) : Nat :=
  max (r.offset + 4) (r.adds.elim 0 (· + 4))

/-- The number of bytes up to the end of the last field that the router reads for an opcode. -/
def opcodeFieldsEnd (minor : UInt8) : Nat :=
  if Opcode.firstSingle ≤ minor then 8
  else if minor = Opcode.makeCurrent then 16
  else if minor = Opcode.makeContextCurrent ∨ minor = Opcode.copyContext then 20
  else if minor = Opcode.swapBuffers then 12
  else if minor = Opcode.vendorPrivate ∨ minor = Opcode.vendorPrivateWithReply then 8
  else (RoutedRequest.find? minor).elim 0 RoutedRequest.fieldsEnd

namespace Client

/-- The number of bytes up to the end of the last field that the router reads of the current
request. It reads more fields of a vendor-private request that makes a context current. -/
def fieldsEnd (c : Client) (minor : UInt8) : Nat :=
  if c.makeCurrentEncoding? = some .vendorPrivate then 24 else opcodeFieldsEnd minor

/-- The current request has no opcode, or it ends before the last field that the router reads of
it does. -/
def TooShort (c : Client) : Prop :=
  match c.minorOpcode with
  | .error _ => True
  | .ok minor => c.request.length < c.fieldsEnd minor

lemma tooShort_of_error {c : Client} {e : ProtocolError} (h : c.minorOpcode = .error e) :
    c.TooShort := by
  rw [TooShort, h]
  trivial

lemma tooShort_iff {c : Client} {minor : UInt8} (h : c.minorOpcode = .ok minor) :
    c.TooShort ↔ c.request.length < c.fieldsEnd minor := by
  rw [TooShort, h]

instance (c : Client) : Decidable c.TooShort :=
  match h : c.minorOpcode with
  | .error _ => isTrue (tooShort_of_error h)
  | .ok _ => decidable_of_iff _ (tooShort_iff h).symm

lemma minorOpcode_eq_error {c : Client} {e : ProtocolError} (h : c.minorOpcode = .error e) :
    e = .badLength := by
  rw [minorOpcode] at h
  split at h <;> cases h
  rfl

end Client

/-! ### Too few bytes -/

/-- The number of bytes up to the end of the last field that the service of a target reads. -/
def Target.fieldsEnd : Target σ δ → Nat
  | makeCurrent .oneDrawable => 16
  | makeCurrent .twoDrawables => 20
  | makeCurrent .vendorPrivate => 24
  | copyContext => 20
  | swapBuffers => 12
  | single => 8
  | routed r => r.fieldsEnd
  | version | clientInfo | procedure _ | unclaimed => 0

section Short

variable {env : Environment σ δ} {x : Exchange σ δ}

/-- The work ends before it has done anything, because the request is too short. -/
def ExchangeM.FindsShort (x : Exchange σ δ) (work : ExchangeM σ δ α) : Prop :=
  work x = .error (.error .badLength) x

/-- Of several fields that are read one after the other, one is not there. -/
lemma findsShort_readWord {offset : Nat} {f : UInt32 → ExchangeM σ δ α}
    (h : offset + 4 ≤ x.client.request.length → ∀ v, ExchangeM.FindsShort x (f v)) :
    ExchangeM.FindsShort x (ExchangeM.readWord offset >>= f) := by
  cases hr : x.client.readWord offset with
  | error e =>
      obtain ⟨rfl, -⟩ := Client.readWord_eq_error_iff.mp hr
      have hread : ExchangeM.readWord offset x = .error (.error .badLength) x := by
        rw [ExchangeM.readWord]
        change ExchangeM.ofExcept (x.client.readWord offset) x = _
        rw [hr]
        rfl
      rw [ExchangeM.FindsShort]
      simp only [bind, EStateM.bind, hread]
  | ok v =>
      have hread : ExchangeM.readWord offset x = .ok v x := by
        rw [ExchangeM.readWord]
        change ExchangeM.ofExcept (x.client.readWord offset) x = _
        rw [hr]
        rfl
      rw [ExchangeM.FindsShort, bind_of_ok hread]
      exact h (Client.readWord_eq_ok_iff.mp ⟨v, hr⟩) v

lemma findsShort_of_lt {offset : Nat} {f : UInt32 → ExchangeM σ δ α}
    (h : x.client.request.length < offset + 4) :
    ExchangeM.FindsShort x (ExchangeM.readWord offset >>= f) :=
  findsShort_readWord fun hle => by omega

lemma ExchangeM.FindsShort.bind {β : Type} {work : ExchangeM σ δ β} {f : β → ExchangeM σ δ α}
    (h : ExchangeM.FindsShort x work) : ExchangeM.FindsShort x (work >>= f) := by
  rw [ExchangeM.FindsShort] at h ⊢
  simp only [Bind.bind, EStateM.bind, h]

lemma findsShort_read {encoding : MakeCurrent.Encoding}
    (h : x.client.request.length < (Target.makeCurrent encoding : Target σ δ).fieldsEnd) :
    ExchangeM.FindsShort x (MakeCurrent.read encoding) := by
  cases encoding with
  | oneDrawable =>
      exact findsShort_readWord fun _ _ => findsShort_readWord fun _ _ => findsShort_of_lt h
  | twoDrawables | vendorPrivate =>
      exact findsShort_readWord fun _ _ => findsShort_readWord fun _ _ =>
        findsShort_readWord fun _ _ => findsShort_of_lt h

lemma findsShort_routed {r : RoutedRequest} (h : x.client.request.length < r.fieldsEnd) :
    ExchangeM.FindsShort x (r.serve env) := by
  refine findsShort_readWord fun hoffset _ => ExchangeM.FindsShort.bind ?_
  rw [RoutedRequest.fieldsEnd] at h
  rw [RoutedRequest.newXid]
  split
  · next hadds =>
    rw [hadds, Option.elim_none] at h
    omega
  · next offset hadds =>
    rw [hadds, Option.elim_some] at h
    exact findsShort_of_lt (by omega)

/-- The service of a request that is too short ends before it has done anything. -/
lemma Target.serve_of_lt {t : Target σ δ} (h : x.client.request.length < t.fieldsEnd) :
    t.serve env x = .error (.error .badLength) x := by
  cases t with
  | makeCurrent encoding => exact (findsShort_read h).bind
  | copyContext => exact findsShort_readWord fun _ _ => findsShort_of_lt h
  | swapBuffers => exact findsShort_readWord fun _ _ => findsShort_of_lt h
  | single => exact findsShort_of_lt h
  | routed r => exact findsShort_routed h
  | version | clientInfo | procedure | unclaimed => exact (Nat.not_lt_zero _ h).elim

end Short

/-! ### Enough bytes -/

/-- A vendor has answered a request, or has refused to bind or to release a context, by an error. -/
def Event.Fails (e : ProtocolError) : Event δ → Prop
  | .returned _ (.request _) (_, answer) => answer = .error e
  | .returned _ (.procedure ..) (_, answer) => answer = .error e
  | .returned _ (.makeCurrent ..) (_, answer) => answer = .error e
  | _ => False

/-- The last thing that has happened is that a vendor failed with the error, after it was called. -/
def Session.Blames (s : Session σ δ) (e : ProtocolError) : Prop :=
  ∃ v initialized callback answer during older,
    (Event.returned v callback answer : Event δ).Fails e ∧
    s.journal = .returned v callback answer :: during ++ .called v initialized callback :: older

/-- If the request is answered by the error, that is the doing of a vendor. -/
def Blamed (e : ProtocolError) : Fault → Exchange σ δ → Prop
  | .error e', y => e' = e → y.session.Blames e
  | .abort _, _ => True

section Blame

variable {env : Environment σ δ} {x : Exchange σ δ} {e : ProtocolError} {v : VendorId}

/-- An error of the router's own. -/
lemma blamed_of_ne {e' : ProtocolError} (h : e' ≠ e) : Blamed e (.error e') x :=
  fun he => (h he).elim

/-- A vendor that was called returns with the error. -/
lemma Session.blames_enter {s : Session σ δ} {initialized : Bool} {callback : Callback δ}
    {answer : callback.Answer} {older : List (Event δ)}
    (h : .called v initialized callback :: older <:+ s.journal)
    (hfails : (Event.returned v callback answer).Fails e) :
    (s.enter (.returned v callback answer)).Blames e := by
  obtain ⟨during, hduring⟩ := h
  exact ⟨v, initialized, callback, answer, during, older, hfails,
    congrArg (List.cons _) hduring.symm⟩

/-- Handing the request to a vendor. -/
lemma forward_blamed (he : e ≠ .badImplementation) :
    Ends (Forwarding.forward env v) x (fun _ _ => True) (Blamed e) := by
  refine ends_onClient.mpr ?_
  rw [Environment.forward, Environment.serveWith]
  cases env.requestHandler? v with
  | none => exact blamed_of_ne he.symm
  | some handler =>
      refine (ends_calling (.request x.client)).mpr
        (((env.stable_suffix _).kept.upheld.interpret (handler x.client) _ List.suffix_rfl).mono ?_
          fun _ _ _ => trivial)
      rintro ⟨c, e' | _⟩ s hs
      · rintro rfl
        exact Session.blames_enter hs rfl
      · trivial

/-- Serving a request with a handler that a vendor offered. -/
lemma procedure_blamed (p : Procedure σ δ) :
    Ends ((Target.procedure p).serve env) x (fun _ _ => True) (Blamed e) := by
  refine ends_onClient.mpr ((ends_calling (.procedure p.minor p.code x.client)).mpr
    (((env.stable_suffix _).kept.upheld.interpret (p.run x.client) _ List.suffix_rfl).mono ?_
      fun _ _ _ => trivial))
  rintro ⟨c, e' | _⟩ s hs
  · rintro rfl
    exact Session.blames_enter hs rfl
  · trivial

/-- Serving a request that is handed on to one vendor. The errors that the router has for it itself
are others. -/
lemma routing_blamed {q : Routing} (hq : e ≠ q.failsWith) (hid : e ≠ .badIDChoice)
    (halloc : e ≠ .badAlloc) (himpl : e ≠ .badImplementation) (legal : Xid → Bool)
    (owner : Option VendorId) :
    Ends (q.serve env legal owner) x (fun _ _ => True) (Blamed e) := by
  -- the vendor is called, if what is created can be recorded
  have hhandOver (v : VendorId) : Ends (q.handOver env v) x (fun _ _ => True) (Blamed e) := by
    by_cases hrecord : q.Recordable env.registry x.session.ownership v
    · have hforward : Ends (Forwarding.forward env v) (x.recorded q v) (fun _ _ => True)
          (Blamed e) := forward_blamed himpl
      rw [Ends] at hforward ⊢
      rw [handOver_of_recordable hrecord, deliver_eq]
      rcases hf : Forwarding.forward env v (x.recorded q v) with ⟨_, y⟩ | ⟨e' | a, y⟩
      · trivial
      · rw [hf] at hforward
        exact hforward
      · trivial
    · rw [Ends, handOver_of_not_recordable hrecord]
      exact blamed_of_ne halloc.symm
  -- there is an owner to be called
  have howner : Ends (do q.handOver env (← orFail q.field q.failsWith owner)) x (fun _ _ => True)
      (Blamed e) := by
    cases owner with
    | none => exact blamed_of_ne hq.symm
    | some v => exact hhandOver v
  rw [Routing.serve]
  -- the identifier of what is created may be refused first
  cases hcreated : q.created with
  | none => exact howner
  | some id =>
      by_cases hlegal : legal id = true
      · rw [orRefuse, if_pos hlegal]
        exact howner
      · rw [orRefuse, if_neg hlegal]
        exact blamed_of_ne hid.symm

/-- The router has no complaint about the length when nobody owns the routing field. -/
lemma Target.Reads.failsWith_ne {c : Client} {t : Target σ δ} {q : Routing} (h : t.Reads c q)
    (ht : ∀ r, t = .routed r → r ∈ routedRequests) : q.failsWith ≠ .badLength := by
  have htable : ∀ r ∈ routedRequests, r.failsWith ≠ .badLength := by decide
  cases h with
  | copyContext | swapBuffers =>
      rw [Routing.byTagOr]
      split_ifs <;> simp [Routing.byTag]
  | single => simp [Routing.byTag]
  | @routed r q hq =>
      obtain ⟨field, -, hq⟩ := Option.bind_eq_some_iff.mp hq
      obtain ⟨created, -, hq⟩ := Option.bind_eq_some_iff.mp hq
      obtain ⟨destroyed, -, hq⟩ := Option.bind_eq_some_iff.mp hq
      cases hq
      exact htable r (ht r rfl)

/-- A field that is long enough is there. -/
lemma Client.exists_word? {c : Client} {offset : Nat} (h : offset + 4 ≤ c.request.length) :
    ∃ w, c.word? offset = some w := by
  obtain ⟨w, hw⟩ := readWord_eq_ok_iff.mpr h
  exact ⟨w, word?_eq_some_iff.mpr hw⟩

/-- A request that is long enough has all fields of a routed request. The resource that it destroys
is named by its routing field. -/
lemma RoutedRequest.exists_routing? {r : RoutedRequest} (hr : r ∈ routedRequests) {c : Client}
    (h : r.fieldsEnd ≤ c.request.length) : ∃ q, r.routing? c = some q := by
  have hremoves : ∀ r ∈ routedRequests, r.removes = none ∨ r.removes = some r.offset := by decide
  rw [fieldsEnd] at h
  obtain ⟨field, hfield⟩ := c.exists_word? (le_of_max_le_left h)
  have hcreated : ∃ created, r.adds.mapM c.word? = some created := by
    cases hadds : r.adds with
    | none => exact ⟨none, rfl⟩
    | some offset =>
        rw [hadds, Option.elim_some] at h
        obtain ⟨id, hid⟩ := c.exists_word? (le_of_max_le_right h)
        exact ⟨some id, by simp [hid]⟩
  have hdestroyed : ∃ destroyed, r.removes.mapM c.word? = some destroyed := by
    rcases hremoves r hr with hnone | hsome
    · exact ⟨none, by rw [hnone]; rfl⟩
    · exact ⟨some field, by simp [hsome, hfield]⟩
  obtain ⟨created, hcreated⟩ := hcreated
  obtain ⟨destroyed, hdestroyed⟩ := hdestroyed
  exact ⟨_, by rw [routing?, hfield, hcreated, hdestroyed]; rfl⟩

/-- A request that is handed on and is long enough. -/
lemma Target.Reads.blamed {t : Target σ δ} {q : Routing} (h : t.Reads x.client q)
    (ht : ∀ r, t = .routed r → r ∈ routedRequests) :
    Ends (t.serve env) x (fun _ _ => True) (Blamed .badLength) := by
  obtain ⟨y, -, hserve⟩ : x.GoesOn (t.serve env) _ := h.goesOn
  rw [Ends, hserve]
  exact routing_blamed (h.failsWith_ne ht).symm (by decide) (by decide) (by decide) _ _

section Switch

open MakeCurrent

lemma release_blamed (old : TagInfo δ) (he : e ≠ .badImplementation) :
    Ends (release env old) x (fun _ _ => True) (Blamed e) := by
  cases hv : old.owner with
  | none =>
      rw [release, hv]
      exact blamed_of_ne he.symm
  | some v =>
      refine ends_release Environment.handsBack_any (env.stable_suffix _).kept.upheld hv
        (fun _ => List.suffix_rfl) (fun _ _ _ _ _ => trivial) ?_ (fun _ => blamed_of_ne he.symm)
        fun _ _ _ => trivial
      rintro s c e' hs - rfl
      exact Session.blames_enter hs rfl

lemma bindTag_blamed (q : Switch) (he : e ≠ .badImplementation) :
    Ends (bind env v q) x (fun _ _ => True) (Blamed e) := by
  have hcalled (tag : ContextTag) := (env.stable_suffix
    (.called v (env.registry.isInitialized v) (.makeCurrent x.client (q.toBind tag)) ::
      x.session.journal)).kept.upheld
  refine ends_bindTag Environment.handsBack_any hcalled (fun _ _ _ _ => List.suffix_rfl)
    (fun _ _ _ _ _ _ => trivial) ?_ (fun _ _ _ _ => blamed_of_ne he.symm) (fun _ => trivial)
    fun _ _ _ _ => trivial
  rintro tag s c e' hs - rfl
  exact Session.blames_enter hs rfl

/-- A request to make a context current that is long enough. -/
lemma makeCurrent_blamed {encoding : Encoding} {q : Switch}
    (hq : decode x.client encoding = .ok q) :
    Ends (MakeCurrent.serve env encoding) x (fun _ _ => True) (Blamed .badLength) := by
  have himpl : ProtocolError.badLength ≠ .badImplementation := by decide
  have hreply (tag : ContextTag) (y : Exchange σ δ) :
      Ends (ExchangeM.sendReply [(8, tag)]) y (fun _ _ => True) (Blamed .badLength) :=
    ends_replyTag fun _ _ => trivial
  rw [MakeCurrent.serve, ends_bind, ends_read, hq]
  refine ends_switch rfl (fun _ _ => blamed_of_ne (by decide)) (fun _ _ => blamed_of_ne (by decide))
    (fun e _ _ _ _ => hreply e.tag _) fun _ _ _ => ?_
  exact ends_switchTo (M := fun _ => True) (fun _ => trivial)
    (fun old _ => release_blamed old himpl) (fun _ y _ => hreply 0 y) fun v _ y _ =>
      (bindTag_blamed q himpl).mono (fun tag y _ => hreply tag y) fun _ _ => id

lemma exists_decode {c : Client} {encoding : Encoding}
    (h : (Target.makeCurrent encoding : Target σ δ).fieldsEnd ≤ c.request.length) :
    ∃ q, decode c encoding = .ok q := by
  -- every field of the spelling is within the request
  have hread (offset : Nat) (hle : offset + 4 ≤ c.request.length) :
      ∃ w, c.readWord offset = .ok w := Client.readWord_eq_ok_iff.mpr hle
  cases encoding with
  | oneDrawable =>
      have hlength : 16 ≤ c.request.length := h
      obtain ⟨drawable, h4⟩ := hread 4 (by omega)
      obtain ⟨context, h8⟩ := hread 8 (by omega)
      obtain ⟨oldTag, h12⟩ := hread 12 (by omega)
      exact ⟨_, by rw [decode, h4, h8, h12]; rfl⟩
  | twoDrawables =>
      have hlength : 20 ≤ c.request.length := h
      obtain ⟨oldTag, h4⟩ := hread 4 (by omega)
      obtain ⟨drawable, h8⟩ := hread 8 (by omega)
      obtain ⟨readDrawable, h12⟩ := hread 12 (by omega)
      obtain ⟨context, h16⟩ := hread 16 (by omega)
      exact ⟨_, by rw [decode, h4, h8, h12, h16]; rfl⟩
  | vendorPrivate =>
      have hlength : 24 ≤ c.request.length := h
      obtain ⟨oldTag, h8⟩ := hread 8 (by omega)
      obtain ⟨drawable, h12⟩ := hread 12 (by omega)
      obtain ⟨readDrawable, h16⟩ := hread 16 (by omega)
      obtain ⟨context, h20⟩ := hread 20 (by omega)
      exact ⟨_, by rw [decode, h8, h12, h16, h20]; rfl⟩

end Switch

/-- A request that is long enough is not answered by an error about its length, unless a vendor
answers so. -/
lemma Target.serve_blamed {t : Target σ δ} (ht : ∀ r, t = .routed r → r ∈ routedRequests)
    (h : t.fieldsEnd ≤ x.client.request.length) :
    Ends (t.serve env) x (fun _ _ => True) (Blamed .badLength) := by
  -- the fields that are read are within the request
  have hread (offset : Nat) (hle : offset + 4 ≤ x.client.request.length) :
      ∃ w, x.client.readWord offset = .ok w := Client.readWord_eq_ok_iff.mpr hle
  cases t with
  | version =>
      refine ends_sendReply.mpr ?_
      split <;> trivial
  | makeCurrent encoding =>
      obtain ⟨q, hq⟩ := exists_decode h
      exact makeCurrent_blamed hq
  | copyContext =>
      have hlength : 20 ≤ x.client.request.length := h
      obtain ⟨source, hsource⟩ := hread 4 (by omega)
      obtain ⟨tag, htag⟩ := hread 16 (by omega)
      exact (Target.Reads.copyContext hsource htag).blamed ht
  | swapBuffers =>
      have hlength : 12 ≤ x.client.request.length := h
      obtain ⟨tag, htag⟩ := hread 4 (by omega)
      obtain ⟨drawable, hdrawable⟩ := hread 8 (by omega)
      exact (Target.Reads.swapBuffers htag hdrawable).blamed ht
  | clientInfo =>
      refine ends_bind.mpr ((ends_broadcastTo _ _ _).mono (fun _ _ => id) ?_)
      rintro f y ⟨a, rfl⟩
      trivial
  | single =>
      obtain ⟨tag, htag⟩ := hread 4 h
      exact (Target.Reads.single htag).blamed ht
  | routed r =>
      obtain ⟨q, hq⟩ := RoutedRequest.exists_routing? (ht r rfl) h
      exact (Target.Reads.routed hq).blamed ht
  | procedure p => exact procedure_blamed p
  | unclaimed => exact blamed_of_ne (by decide)

end Blame

/-! ### The target of a request -/

/-- The bytes that are needed for an opcode with a target are those that the target needs. -/
lemma opcodeFieldsEnd_of_mem_preset {minor : UInt8} {t : Target σ δ}
    (h : (minor, .target t) ∈ Dispatcher.preset) :
    opcodeFieldsEnd minor = t.fieldsEnd ∧
      ¬ (minor = Opcode.vendorPrivate ∨ minor = Opcode.vendorPrivateWithReply) ∧
      ∀ r, t = .routed r → r ∈ routedRequests := by
  have htable : ∀ r ∈ routedRequests, opcodeFieldsEnd r.opcode = r.fieldsEnd ∧
      ¬ (r.opcode = Opcode.vendorPrivate ∨ r.opcode = Opcode.vendorPrivateWithReply) := by decide
  rcases List.mem_append.mp h with hbuiltin | hrouted
  · simp only [Dispatcher.builtins, List.mem_cons, Prod.mk.injEq, OpcodeEntry.target.injEq,
      reduceCtorEq, and_false, List.not_mem_nil, or_false] at hbuiltin
    rcases hbuiltin with ⟨rfl, rfl⟩ | ⟨rfl, rfl⟩ | ⟨rfl, rfl⟩ | ⟨rfl, rfl⟩ | ⟨rfl, rfl⟩ |
      ⟨rfl, rfl⟩ | ⟨rfl, rfl⟩ | ⟨rfl, rfl⟩ <;> exact ⟨rfl, by decide, by rintro _ ⟨⟩⟩
  · obtain ⟨r, hr, heq⟩ := List.mem_map.mp hrouted
    cases heq
    obtain ⟨hend, hprivate⟩ := htable r hr
    refine ⟨hend, hprivate, ?_⟩
    rintro _ ⟨⟩
    exact hr

/-- Nothing is read for an opcode that the router does not serve. -/
lemma opcodeFieldsEnd_of_notMem {minor : UInt8} (hlt : minor < Opcode.firstSingle)
    (h : minor ∉ servedOpcodes) : opcodeFieldsEnd minor = 0 := by
  have hne (served : UInt8) (hserved : served ∈ servedOpcodes) : minor ≠ served := by
    rintro rfl
    exact h hserved
  have hfind : RoutedRequest.find? minor = none := by
    refine List.find?_eq_none.mpr fun r hr => ?_
    have hopcode := hne r.opcode (List.mem_append_right _ (List.mem_map_of_mem hr))
    simpa using hopcode.symm
  rw [opcodeFieldsEnd, if_neg (UInt8.not_le.mpr hlt), if_neg (hne _ (by decide)),
    if_neg (not_or.mpr ⟨hne _ (by decide), hne _ (by decide)⟩), if_neg (hne _ (by decide)),
    if_neg (not_or.mpr ⟨hne _ (by decide), hne _ (by decide)⟩), hfind]
  rfl

namespace Client

variable {c : Client} {minor : UInt8}

lemma fieldsEnd_of_not_private (hm : c.minorOpcode = .ok minor)
    (h : ¬ (minor = Opcode.vendorPrivate ∨ minor = Opcode.vendorPrivateWithReply)) :
    c.fieldsEnd minor = opcodeFieldsEnd minor := by
  have hencoding : c.makeCurrentEncoding? ≠ some .vendorPrivate := by
    rw [makeCurrentEncoding?, hm]
    dsimp only
    rw [if_neg h]
    split_ifs <;> simp
  rw [fieldsEnd, if_neg hencoding]

lemma fieldsEnd_of_private (hm : c.minorOpcode = .ok minor)
    (h : minor = Opcode.vendorPrivate ∨ minor = Opcode.vendorPrivateWithReply) :
    c.fieldsEnd minor = if c.readWord 4 = .ok makeCurrentReadCode then 24 else 8 := by
  have hend : opcodeFieldsEnd minor = 8 := by rcases h with rfl | rfl <;> decide
  have hencoding : c.makeCurrentEncoding? =
      if c.readWord 4 = .ok makeCurrentReadCode then some .vendorPrivate else none := by
    rw [makeCurrentEncoding?, hm]
    rcases h with rfl | rfl <;> rfl
  rw [fieldsEnd, hencoding, hend]
  split_ifs <;> simp_all

/-- A request that is answered by an error before it is known what serves it is too short. -/
lemma tooShort_of_demand {e : ProtocolError} (h : (c.demand : Demand σ δ) = .settled (.error e)) :
    c.TooShort ∧ e = .badLength := by
  cases settled_of_demand h with
  | noOpcode he => exact ⟨tooShort_of_error he, minorOpcode_eq_error he⟩
  | noCode hm hi hp he =>
      obtain ⟨rfl, hlt⟩ := readWord_eq_error_iff.mp he
      have hne : c.readWord 4 ≠ .ok makeCurrentReadCode := by
        rw [he]
        rintro ⟨⟩
      rw [tooShort_iff hm,
        fieldsEnd_of_private hm ((presetOpcodes_eq_byVendorCode_iff hi).mp hp), if_neg hne]
      exact ⟨hlt, rfl⟩

/-- A request whose target is known is too short if it is too short for the target. -/
lemma fieldsEnd_of_demand {t : Target σ δ} (h : c.demand = .settled (.ok t)) :
    (∀ r, t = .routed r → r ∈ routedRequests) ∧
      (c.TooShort ↔ c.request.length < t.fieldsEnd) := by
  cases settled_of_demand h with
  | @single minor hm hi =>
      have hsingle : Opcode.firstSingle ≤ minor := UInt8.le_iff_toNat_le.mpr (Nat.le_of_not_lt hi)
      rw [tooShort_iff hm, fieldsEnd_of_not_private hm (mt lt_of_vendorPrivate hi),
        opcodeFieldsEnd, if_pos hsingle]
      exact ⟨by rintro _ ⟨⟩, Iff.rfl⟩
  | preset hm hi ht =>
      obtain ⟨hend, hprivate, hrouted⟩ :=
        opcodeFieldsEnd_of_mem_preset ((Dispatcher.presetOpcodes_eq_some_iff_mem hi).mp ht)
      rw [tooShort_iff hm, fieldsEnd_of_not_private hm hprivate, hend]
      exact ⟨hrouted, Iff.rfl⟩
  | readCode hm hi hp hcode =>
      rw [tooShort_iff hm,
        fieldsEnd_of_private hm ((presetOpcodes_eq_byVendorCode_iff hi).mp hp), if_pos hcode]
      exact ⟨by rintro _ ⟨⟩, Iff.rfl⟩

/-- A request that takes a handler of a vendor is long enough to tell which one. -/
lemma not_tooShort_of_key (σ δ : Type) {key : HandlerKey} (h : c.handlerKey? = some key) :
    ¬ c.TooShort := by
  rcases cases_of_handlerKey? σ δ h with
    ⟨minor, -, hm, hi, hnone⟩ | ⟨minor, code, -, hm, hcode, hne, hi, hp⟩
  · have hprivate := mt (presetOpcodes_eq_byVendorCode_iff hi).mpr
      fun hp => nomatch hnone.symm.trans hp
    rw [tooShort_iff hm, fieldsEnd_of_not_private hm hprivate,
      opcodeFieldsEnd_of_notMem (UInt8.lt_iff_toNat_lt.mpr hi)
        ((presetOpcodes_eq_none_iff hi).mp hnone)]
    exact Nat.not_lt_zero _
  · have hlength : 4 + 4 ≤ c.request.length := readWord_eq_ok_iff.mp ⟨code, hcode⟩
    have hother : c.readWord 4 ≠ .ok makeCurrentReadCode := by
      rw [hcode]
      exact fun he => hne (Except.ok.inj he)
    rw [tooShort_iff hm,
      fieldsEnd_of_private hm ((presetOpcodes_eq_byVendorCode_iff hi).mp hp), if_neg hother]
    omega

end Client

/-! ### Every request -/

namespace Server

variable {s : Server σ δ} {c : Client}

/-- A request with a key is served by the handler that was learned for it, now or before, or by
nobody. -/
lemma exists_servedBy (hs : s.Sound) (he : s.extension ≠ none) {key : HandlerKey}
    (hc : c.handlerKey? = some key) : ∃ found asked w, s.ServedBy c found asked w := by
  -- only procedures are learned, and that there is none
  have hlearned {t : Target σ δ} (ht : t.Learned s.registry) :
      ∃ found, t = .ofProcedure? found := by
    cases t with
    | procedure p => exact ⟨some p, rfl⟩
    | unclaimed => exact ⟨none, rfl⟩
    | version | makeCurrent | copyContext | swapBuffers | clientInfo | single | routed => cases ht
  -- a key stands for no request that the router serves itself
  have hknown {entry : OpcodeEntry σ δ} (hentry : s.dispatcher.known? key = some entry) :
      ∃ found, entry = .target (.ofProcedure? found) := by
    rcases Client.cases_of_handlerKey? σ δ hc with
      ⟨minor, rfl, -, hi, hnone⟩ | ⟨-, code, rfl, -, -, hne, -⟩
    · rw [Dispatcher.known?_opcode hi] at hentry
      rcases hs.dispatcher.opcodes _ hi _ hentry with hp | ⟨t, rfl, ht⟩
      · exact nomatch hnone.symm.trans hp
      · obtain ⟨found, rfl⟩ := hlearned ht
        exact ⟨found, rfl⟩
    · obtain ⟨t, ht, rfl⟩ := Option.map_eq_some_iff.mp hentry
      rcases hs.dispatcher.codes code t ht with ⟨-, rfl⟩ | hl
      · exact (hne rfl).elim
      · obtain ⟨found, rfl⟩ := hlearned hl
        exact ⟨found, rfl⟩
  -- so the handler is found now, or was found before
  cases hk : s.dispatcher.known? key with
  | none =>
      obtain ⟨found, asked, w, -, hserved, -⟩ := serve_of_unknown hs he hc hk
      exact ⟨found, asked, w, hserved⟩
  | some entry =>
      obtain ⟨found, rfl⟩ := hknown hk
      exact ⟨found, [], s.world, (serve_of_known hs he hc hk).1⟩

/-- A request that is too short is refused, and nothing has happened. -/
lemma serve_of_tooShort (hs : s.Sound) (he : s.extension ≠ none) (h : c.TooShort) :
    s.serve c = ⟨.ok (c, .error .badLength), [], s⟩ := by
  cases hkey : c.handlerKey? with
  | some key => exact (Client.not_tooShort_of_key σ δ hkey h).elim
  | none =>
      obtain ⟨result, hdemand, hresolve⟩ := resolve_of_no_key hs hkey
      rw [serve_of_resolve he hresolve]
      rcases result with e | t
      · obtain ⟨-, rfl⟩ := Client.tooShort_of_demand hdemand
        rfl
      · have hserve : t.serve s.environment ⟨c, s.session⟩ =
            .error (.error .badLength) ⟨c, s.session⟩ :=
          t.serve_of_lt ((Client.fieldsEnd_of_demand hdemand).2.mp h)
        exact congrArg s.answered hserve

end Server

/-- The last thing that has happened is that a vendor failed with the error, after it was called. -/
def Step.Blames (step : Step σ δ α) (e : ProtocolError) : Prop :=
  ∃ v initialized callback answer before during,
    (Event.returned v callback answer : Event δ).Fails e ∧
    step.journal = before ++ .called v initialized callback :: during ++
      [.returned v callback answer]

/-- An error for which the work on a request has a vendor to blame. -/
lemma answered_blames {s : Server σ δ} {work : ExchangeM σ δ Unit} {x : Exchange σ δ}
    {e : ProtocolError} (h : Ends work x (fun _ _ => True) (Blamed e)) {d : Client}
    (hresult : (s.answered (work x)).result = .ok (d, .error e)) :
    (s.answered (work x)).Blames e := by
  rw [Ends] at h
  rcases hw : work x with ⟨_, y⟩ | ⟨e' | a, y⟩ <;> rw [hw] at h hresult
  · cases hresult
  · cases hresult
    obtain ⟨v, initialized, callback, answer, during, older, hfails, hjournal⟩ := h rfl
    refine ⟨v, initialized, callback, answer, older.reverse, during.reverse, hfails, ?_⟩
    change y.session.journal.reverse = _
    simp [hjournal]
  · cases hresult

/-- A request that is long enough is served by a target that it is long enough for. -/
lemma exists_target_of_not_tooShort {s : Server σ δ} (hs : s.Sound) (he : s.extension ≠ none)
    {c : Client} (h : ¬ c.TooShort) :
    ∃ (t : Target σ δ) (u : Server σ δ) (x : Exchange σ δ),
      (∀ r, t = .routed r → r ∈ routedRequests) ∧ t.fieldsEnd ≤ x.client.request.length ∧
        s.serve c = u.answered (t.serve s.environment x) := by
  cases hkey : c.handlerKey? with
  | some key =>
      obtain ⟨found, asked, w, hserved⟩ := Server.exists_servedBy hs he hkey
      obtain ⟨dispatcher, hserve⟩ := hserved.work
      refine ⟨_, _, _, ?_, ?_, hserve⟩
      · cases found <;> rintro _ ⟨⟩
      · cases found <;> exact Nat.zero_le _
  | none =>
      obtain ⟨result, hdemand, hresolve⟩ := Server.resolve_of_no_key hs hkey
      rcases result with e | t
      · exact (h (Client.tooShort_of_demand hdemand).1).elim
      · obtain ⟨hrouted, hlt⟩ := Client.fieldsEnd_of_demand hdemand
        exact ⟨t, s, ⟨c, s.session⟩, hrouted, Nat.le_of_not_lt (mt hlt.mpr h),
          Server.serve_of_resolve he hresolve⟩

/-- Of a request that is long enough, nobody but a vendor says that its length is wrong. -/
lemma blames_of_not_tooShort {s : Server σ δ} (hs : s.Sound) (he : s.extension ≠ none)
    {c d : Client} (h : ¬ c.TooShort)
    (hresult : (s.serve c).result = .ok (d, .error .badLength)) :
    (s.serve c).Blames .badLength := by
  obtain ⟨t, u, x, ht, hend, hserve⟩ := exists_target_of_not_tooShort hs he h
  rw [hserve] at hresult ⊢
  exact answered_blames (Target.serve_blamed ht hend) hresult

/-- The router refuses a request for its length exactly if the request is too short: it has no
opcode, or it ends before the last field that the router reads of it does. In that case nobody is
asked anything and nothing changes. Of any other request nobody but a vendor that was called says
that its length is wrong. -/
theorem badLength_iff_tooShort {s : Server σ δ} (hs : s.Reachable) (he : s.extension ≠ none)
    (c : Client) :
    (c.TooShort ↔ (∃ d, (s.serve c).result = .ok (d, .error .badLength)) ∧
      ∀ ev ∈ (s.serve c).journal, ev.call? = none) ∧
    (c.TooShort → s.serve c = ⟨.ok (c, .error .badLength), [], s⟩) ∧
    (¬ c.TooShort → ∀ d, (s.serve c).result = .ok (d, .error .badLength) →
      (s.serve c).Blames .badLength) := by
  have hshort (h : c.TooShort) : s.serve c = ⟨.ok (c, .error .badLength), [], s⟩ :=
    Server.serve_of_tooShort hs.sound he h
  have hlong (h : ¬ c.TooShort) (d : Client)
      (hresult : (s.serve c).result = .ok (d, .error .badLength)) :
      (s.serve c).Blames .badLength :=
    blames_of_not_tooShort hs.sound he h hresult
  refine ⟨⟨fun h => ?_, fun ⟨⟨d, hresult⟩, hquiet⟩ => ?_⟩, hshort, hlong⟩
  · rw [hshort h]
    exact ⟨⟨c, rfl⟩, List.forall_mem_nil _⟩
  · by_contra h
    obtain ⟨v, initialized, callback, answer, before, during, -, hjournal⟩ := hlong h d hresult
    have hcall := hquiet (.called v initialized callback) (by simp [hjournal])
    cases hcall

/-- A vendor that finds every request too short. -/
def VendorInterface.exacting : VendorInterface Unit δ :=
  { obliging 0 none with handleRequest := some fun c => .done (c, .error .badLength) }

/-- A generation with that vendor, which owns a screen. -/
def exacted : Server Unit Nat := .reached [.createVendor .exacting, .beginGeneration .sample]

/-- A request for a context whose screen is missing is refused by the router, and one that is
complete by the vendor. -/
theorem badLength_iff_tooShort_of_screen :
    exacted.Reachable ∧ exacted.extension ≠ none ∧
      exacted.serve (.asking 7 Opcode.createContext [5, 33]) =
        ⟨.ok (.asking 7 Opcode.createContext [5, 33], .error .badLength), [], exacted⟩ ∧
      ¬ (Client.asking 7 Opcode.createContext [5, 33, 0]).TooShort ∧
      (exacted.serve (.asking 7 Opcode.createContext [5, 33, 0])).Blames .badLength := by
  have hlead : (Server.new (.blank 1) () 4).Leads
      [.createVendor .exacting, .beginGeneration .sample] exacted := .of_run (by decide +kernel)
  have hreach : exacted.Reachable := hlead.reachable (.new _ _ _)
  have he : exacted.extension ≠ none := by decide +kernel
  have hlong : ¬ (Client.asking 7 Opcode.createContext [5, 33, 0]).TooShort := by decide
  obtain ⟨-, hshort, -⟩ :=
    badLength_iff_tooShort hreach he (.asking 7 Opcode.createContext [5, 33])
  obtain ⟨-, -, hblames⟩ :=
    badLength_iff_tooShort hreach he (.asking 7 Opcode.createContext [5, 33, 0])
  exact ⟨hreach, he, hshort (by decide), hlong,
    hblames hlong (.asking 7 Opcode.createContext [5, 33, 0]) (by decide +kernel)⟩

end VendorDispatch
