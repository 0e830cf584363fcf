import VendorDispatch.Proofs.Service

/-!
Which target a request is resolved to.

* `Client.makeCurrentEncoding?`, `Client.switch?`: the requests to make a context current, and what
  they ask for.
* `Dispatcher.Sound`: the dispatcher knows the preset targets, and beyond them only that nobody
  claims a key or a procedure of an initialized vendor.
* `resolve_of_makeCurrentEncoding?`: a request to make a context current is resolved without
  asking anybody.
* `Environment.Surveyed`: an invariant that asking vendors for handlers keeps.
* `Sound.resolve`: what resolution keeps, and what it finds.
-/

namespace VendorDispatch

variable {σ δ : Type}

/-! ### Requests to make a context current -/

namespace MakeCurrent

/-- What a request in one of the spellings asks for. -/
def decode (c : Client) : Encoding → Except ProtocolError Switch
  | .oneDrawable => do
    let drawable ← c.readWord 4
    let context ← c.readWord 8
    let oldTag ← c.readWord 12
    return { oldTag, drawable, readDrawable := drawable, context }
  | .twoDrawables => do
    let oldTag ← c.readWord 4
    let drawable ← c.readWord 8
    let readDrawable ← c.readWord 12
    let context ← c.readWord 16
    return { oldTag, drawable, readDrawable, context }
  | .vendorPrivate => do
    let oldTag ← c.readWord 8
    let drawable ← c.readWord 12
    let readDrawable ← c.readWord 16
    let context ← c.readWord 20
    return { oldTag, drawable, readDrawable, context }

/-- Reading a request changes nothing. -/
lemma ends_read {encoding : Encoding} {x : Exchange σ δ} {post : Switch → Exchange σ δ → Prop}
    {fault : Fault → Exchange σ δ → Prop} :
    Ends (read encoding) x post fault ↔
      match decode x.client encoding with
      | .ok q => post q x
      | .error e => fault (.error e) x := by
  cases encoding <;> simp only [read, decode, ends_bind, ends_readWord, ends_pure]
  · cases x.client.readWord 4 <;> [rfl; skip]
    cases x.client.readWord 8 <;> [rfl; skip]
    cases x.client.readWord 12 <;> rfl
  · cases x.client.readWord 4 <;> [rfl; skip]
    cases x.client.readWord 8 <;> [rfl; skip]
    cases x.client.readWord 12 <;> [rfl; skip]
    cases x.client.readWord 16 <;> rfl
  · cases x.client.readWord 8 <;> [rfl; skip]
    cases x.client.readWord 12 <;> [rfl; skip]
    cases x.client.readWord 16 <;> [rfl; skip]
    cases x.client.readWord 20 <;> rfl

end MakeCurrent

/-- The spelling in which the current request asks to make a context current, if it does. -/
def Client.makeCurrentEncoding? (c : Client) : Option MakeCurrent.Encoding :=
  match c.minorOpcode with
  | .error _ => none
  | .ok minor =>
    if minor = Opcode.makeCurrent then
      some .oneDrawable
    else if minor = Opcode.makeContextCurrent then
      some .twoDrawables
    else if minor = Opcode.vendorPrivate ∨ minor = Opcode.vendorPrivateWithReply then
      if c.readWord 4 = .ok makeCurrentReadCode then some .vendorPrivate else none
    else
      none

/-- What the current request asks to make current, if it does and is long enough. -/
def Client.switch? (c : Client) : Option MakeCurrent.Switch :=
  c.makeCurrentEncoding?.bind fun encoding => (MakeCurrent.decode c encoding).toOption

lemma toOption_eq_some_iff {ε α : Type} {x : Except ε α} {a : α} :
    x.toOption = some a ↔ x = .ok a := by
  cases x <;> simp [Except.toOption]

lemma Client.exists_of_switch? {c : Client} {q : MakeCurrent.Switch} (hq : c.switch? = some q) :
    ∃ encoding, c.makeCurrentEncoding? = some encoding ∧ MakeCurrent.decode c encoding = .ok q := by
  rw [Client.switch?, Option.bind_eq_some_iff] at hq
  obtain ⟨encoding, henc, hd⟩ := hq
  exact ⟨encoding, henc, toOption_eq_some_iff.mp hd⟩

/-! ### Asking for handlers -/

/-- An invariant of sessions that asking initialized vendors for handlers keeps. They may change the
world, and the journal tells who was asked; nobody gets to own anything. -/
structure Environment.Surveyed (env : Environment σ δ) (I : Session σ δ → Prop) : Prop where
  withWorld : ∀ s w, I s → I (s.withWorld w)
  called : ∀ s v minor code, env.registry.isInitialized v = true → I s →
    I (s.enter (.called v (env.registry.isInitialized v) (.query minor code)))
  returned : ∀ s v minor code offered, I s →
    I (s.enter (.returned v (.query minor code) offered))

lemma Environment.Upheld.surveyed {env : Environment σ δ} {I : Session σ δ → Prop}
    (h : env.Upheld I) : env.Surveyed I where
  withWorld := h.withWorld
  called s _ _ _ hv hs := h.enter s _ ⟨hv, hv, trivial⟩ not_false hs
  returned s _ _ _ _ hs := h.enter s _ trivial not_false hs

/-- Asking for handlers leaves everybody what they own. -/
lemma Environment.surveyed_ownership (env : Environment σ δ) (o : Ownership δ) :
    env.Surveyed fun s => s.ownership = o where
  withWorld _ _ h := h
  called _ _ _ _ _ h := h
  returned _ _ _ _ _ h := h

/-! ### What the dispatcher knows -/

namespace Dispatcher

section Preset

variable (l : List (UInt8 × OpcodeEntry σ δ)) (v : Vector (Option (OpcodeEntry σ δ)) opcodeCount)
  {i : Nat} (hi : i < opcodeCount)

/-- An entry after storing a list of them is one of the list or was there before. -/
lemma mem_of_foldl_set {entry : OpcodeEntry σ δ}
    (h : (l.foldl (fun v e => v.setIfInBounds e.1.toNat (some e.2)) v)[i] = some entry) :
    (∃ k, (k, entry) ∈ l ∧ k.toNat = i) ∨ v[i] = some entry := by
  induction l generalizing v with
  | nil => exact .inr h
  | cons e l ih =>
      rcases ih _ h with ⟨k, hk, hki⟩ | hv
      · exact .inl ⟨k, List.mem_cons_of_mem _ hk, hki⟩
      · rw [Vector.getElem_setIfInBounds] at hv
        split_ifs at hv with he
        · cases hv
          exact .inl ⟨e.1, List.mem_cons_self, he⟩
        · exact .inr hv

/-- A place that no entry of the list is stored at is as before. -/
lemma foldl_set_of_ne (h : ∀ e ∈ l, e.1.toNat ≠ i) :
    (l.foldl (fun v e => v.setIfInBounds e.1.toNat (some e.2)) v)[i] = v[i] := by
  induction l generalizing v with
  | nil => rfl
  | cons e l ih =>
      rw [List.foldl_cons, ih _ fun d hd => h d (List.mem_cons_of_mem _ hd),
        Vector.getElem_setIfInBounds, if_neg (h e List.mem_cons_self)]

/-- Every entry of a list without repeated opcodes is there after storing the list. -/
lemma foldl_set_of_mem {k : UInt8} {entry : OpcodeEntry σ δ} (hn : (l.map Prod.fst).Nodup)
    (h : (k, entry) ∈ l) (hk : k.toNat = i) :
    (l.foldl (fun v e => v.setIfInBounds e.1.toNat (some e.2)) v)[i] = some entry := by
  induction l generalizing v with
  | nil => cases h
  | cons e l ih =>
      rw [List.map_cons, List.nodup_cons] at hn
      rcases List.mem_cons.mp h with rfl | h
      · rw [List.foldl_cons, foldl_set_of_ne, Vector.getElem_setIfInBounds, if_pos hk]
        intro d hd hdi
        have hdk : d.1 = k := UInt8.toNat_inj.mp (hdi.trans hk.symm)
        have hmem := List.mem_map_of_mem (f := Prod.fst) hd
        rw [hdk] at hmem
        exact hn.1 hmem
      · exact ih _ hn.2 h

end Preset

lemma nodup_preset : ((preset : List (UInt8 × OpcodeEntry σ δ)).map Prod.fst).Nodup := by
  have h : (preset : List (UInt8 × OpcodeEntry σ δ)).map Prod.fst =
      [7, 5, 26, 10, 11, 20, 33, 35, 16, 17] ++ routedRequests.map RoutedRequest.opcode := rfl
  rw [h]
  decide

/-- The entries that are known from the start. -/
lemma presetOpcodes_eq_some_iff {i : Nat} (hi : i < opcodeCount) {entry : OpcodeEntry σ δ} :
    presetOpcodes[i] = some entry ↔ ∃ k, (k, entry) ∈ preset ∧ k.toNat = i := by
  constructor
  · intro h
    rcases mem_of_foldl_set preset _ hi h with hk | hv
    · exact hk
    · rw [Vector.getElem_replicate] at hv
      cases hv
  · rintro ⟨k, hk, hki⟩
    exact foldl_set_of_mem preset _ hi nodup_preset hk hki

/-- The entry of an opcode that is known from the start. -/
lemma presetOpcodes_eq_some_iff_mem {minor : UInt8} (hi : minor.toNat < opcodeCount)
    {entry : OpcodeEntry σ δ} :
    presetOpcodes[minor.toNat] = some entry ↔ (minor, entry) ∈ preset := by
  rw [presetOpcodes_eq_some_iff hi]
  constructor
  · rintro ⟨k, hk, hkm⟩
    exact UInt8.toNat_inj.mp hkm ▸ hk
  · exact fun h => ⟨minor, h, rfl⟩

end Dispatcher

/-- What the active vendors were found to offer for a key: a procedure of an initialized vendor, or
nothing. -/
def Target.Learned (r : Registry σ δ) : Target σ δ → Prop
  | .procedure p => r.isInitialized p.vendor = true
  | .unclaimed => True
  | _ => False

/-- The dispatcher knows what it knew from the start, and what it learned. -/
structure Dispatcher.Sound (r : Registry σ δ) (d : Dispatcher σ δ) : Prop where
  known : ∀ i (hi : i < opcodeCount) entry,
    presetOpcodes[i] = some entry → d.opcodes[i] = some entry
  opcodes : ∀ i (hi : i < opcodeCount) entry, d.opcodes[i] = some entry →
    presetOpcodes[i] = some entry ∨ ∃ t, entry = .target t ∧ t.Learned r
  readCode : d.codes.get? makeCurrentReadCode = some (.makeCurrent .vendorPrivate)
  codes : ∀ code t, d.codes.get? code = some t →
    t = .makeCurrent .vendorPrivate ∧ code = makeCurrentReadCode ∨ t.Learned r

namespace Dispatcher

/-- A dispatcher that has learned nothing is sound, whoever is initialized. -/
lemma sound_reset (r : Registry σ δ) (d : Dispatcher σ δ) : d.reset.Sound r where
  known _ _ _ h := h
  opcodes _ _ _ h := .inl h
  readCode := Assoc.get?_insert_self _ _ _
  codes code t h := by
    have hg : (presetCodes : Assoc UInt32 (Target σ δ)).get? code = some t := h
    rw [presetCodes, Assoc.get?_insert] at hg
    split_ifs at hg with hc
    · cases hg
      exact .inl ⟨rfl, hc⟩
    · cases hg

variable {env : Environment σ δ} {d : Dispatcher σ δ} {I : Session σ δ → Prop}

/-- A sound dispatcher stays sound as long as initialized vendors stay initialized. -/
lemma Sound.mono {r u : Registry σ δ} (hd : d.Sound r)
    (h : ∀ v, r.isInitialized v = true → u.isInitialized v = true) : d.Sound u := by
  have hl : ∀ t : Target σ δ, t.Learned r → t.Learned u := by
    intro t ht
    cases t with
    | procedure p => exact h _ ht
    | unclaimed => trivial
    | version | makeCurrent | copyContext | swapBuffers | clientInfo | single | routed => cases ht
  refine ⟨hd.known, ?_, hd.readCode, ?_⟩
  · intro i hi entry he
    rcases hd.opcodes i hi entry he with hp | ⟨t, rfl, ht⟩
    · exact .inl hp
    · exact .inr ⟨t, rfl, hl t ht⟩
  · intro code t ht
    exact (hd.codes code t ht).imp_right (hl t)

/-! ### Learning -/

/-- Vendors are asked in turn, all of them initialized, and the first offer is taken. -/
lemma askEach_keeps (h : env.Surveyed I) (minor : UInt8) (code : UInt32) {vendors : List VendorId}
    (hv : ∀ v ∈ vendors, env.registry.isInitialized v = true) {s : Session σ δ} (hs : I s) :
    Ends (askEach env minor code vendors) s
      (fun r t => I t ∧ ∀ p, r = some p → env.registry.isInitialized p.vendor = true)
      fun _ => I := by
  induction vendors generalizing s with
  | nil => exact ⟨hs, by simp⟩
  | cons vendor rest ih =>
      have hrest := fun v hm => hv v (List.mem_cons_of_mem _ hm)
      rw [askEach]
      split
      · exact ih hrest hs
      · next offer _ =>
        rw [ends_bind, ends_world]
        -- the vendor is active, and so may be called
        have hask : Ends (env.calling vendor (.query minor code)
            (do
              SessionM.setWorld (offer minor code s.world).2
              return (offer minor code s.world).1.isSome : SessionM σ δ Bool)) s
            (fun _ => I) fun _ => I :=
          (ends_calling (.query minor code)).mpr (h.returned _ _ _ _ _ (h.withWorld _ _
            (h.called _ _ _ _ (hv vendor List.mem_cons_self) hs)))
        refine ends_bind.mpr (hask.mono ?_ fun _ _ => id)
        intro _ t ht
        -- its offer is taken, or the others are asked
        split
        · refine ⟨ht, fun p hp => ?_⟩
          cases hp
          exact hv vendor List.mem_cons_self
        · exact ih hrest ht

lemma query_keeps (h : env.Surveyed I)
    (hv : ∀ v ∈ env.registry.active, env.registry.isInitialized v = true) (minor : UInt8)
    (code : UInt32) {s : Session σ δ} (hs : I s) :
    Ends (query env minor code) s (fun t u => I u ∧ t.Learned env.registry) fun _ => I := by
  rw [query, ends_bind]
  refine (askEach_keeps h minor code hv hs).mono ?_ fun _ _ => id
  rintro (_ | p) t ⟨ht, hp⟩
  · exact ⟨ht, trivial⟩
  · exact ⟨ht, hp p rfl⟩

/-! ### Resolution -/

lemma resolveOpcode_of_eq_some {minor : UInt8} (hi : minor.toNat < opcodeCount)
    {entry : OpcodeEntry σ δ} (he : d.opcodes[minor.toNat] = some entry) (s : Session σ δ) :
    resolveOpcode env d minor hi s = .ok (entry, d) s := by
  rw [resolveOpcode, he]
  rfl

lemma resolveCode_of_eq_some {minor : UInt8} {code : UInt32} {t : Target σ δ}
    (ht : d.codes.get? code = some t) (s : Session σ δ) :
    resolveCode env d minor code s = .ok (t, d) s := by
  rw [resolveCode, ht]
  rfl

section Resolve

variable {c : Client} {minor : UInt8} {code : UInt32} {t : Target σ δ} {u : Dispatcher σ δ}
  {s s' : Session σ δ} (hm : c.minorOpcode = .ok minor) (hi : minor.toNat < opcodeCount)

include hm

/-- A request whose opcode has a target is resolved to it. -/
lemma resolve_of_resolveOpcode (h : resolveOpcode env d minor hi s = .ok (.target t, u) s') :
    d.resolve env c s = .ok (.ok t, u) s' := by
  rw [resolve, hm]
  simp only [dif_pos hi]
  rw [bind_of_ok h]
  rfl

/-- A vendor-private request is resolved to the target of its vendor code. -/
lemma resolve_of_resolveCode (he : d.opcodes[minor.toNat] = some .byVendorCode)
    (hc : c.readWord 4 = .ok code) (h : resolveCode env d minor code s = .ok (t, u) s') :
    d.resolve env c s = .ok (.ok t, u) s' := by
  rw [resolve, hm]
  simp only [dif_pos hi]
  rw [bind_of_ok (resolveOpcode_of_eq_some hi he s), hc]
  simp only
  rw [bind_of_ok h]
  rfl

end Resolve

/-- An opcode that is known from the start is resolved without asking anybody. -/
lemma Sound.resolve_of_preset {r : Registry σ δ} (hd : d.Sound r) {c : Client} {minor : UInt8}
    {t : Target σ δ} (hm : c.minorOpcode = .ok minor) (hi : minor.toNat < opcodeCount)
    (ht : (minor, .target t) ∈ preset) (s : Session σ δ) :
    d.resolve env c s = .ok (.ok t, d) s :=
  have he := hd.known _ hi _ ((presetOpcodes_eq_some_iff_mem hi).mpr ht)
  resolve_of_resolveOpcode hm hi (resolveOpcode_of_eq_some hi he s)

/-- A vendor-private request with a known code is resolved without asking anybody. -/
lemma Sound.resolve_of_code {r : Registry σ δ} (hd : d.Sound r) {c : Client} {minor : UInt8}
    {code : UInt32} {t : Target σ δ} (hm : c.minorOpcode = .ok minor)
    (hi : minor.toNat < opcodeCount) (hp : (minor, .byVendorCode) ∈ (preset (σ := σ) (δ := δ)))
    (hc : c.readWord 4 = .ok code) (ht : d.codes.get? code = some t) (s : Session σ δ) :
    d.resolve env c s = .ok (.ok t, d) s :=
  have he := hd.known _ hi _ ((presetOpcodes_eq_some_iff_mem hi).mpr hp)
  resolve_of_resolveCode hm hi he hc (resolveCode_of_eq_some ht s)

/-- A request to make a context current is resolved without asking anybody. -/
lemma Sound.resolve_of_makeCurrentEncoding? {r : Registry σ δ} (hd : d.Sound r) {c : Client}
    {encoding : MakeCurrent.Encoding} (h : c.makeCurrentEncoding? = some encoding)
    (s : Session σ δ) :
    d.resolve env c s = .ok (.ok (.makeCurrent encoding), d) s := by
  rw [Client.makeCurrentEncoding?] at h
  split at h
  · cases h
  · next minor hm =>
    split_ifs at h with h1 h2 h3 h4
    · cases h
      subst h1
      exact hd.resolve_of_preset hm (by decide) (by simp [preset, builtins]) s
    · cases h
      subst h2
      exact hd.resolve_of_preset hm (by decide) (by simp [preset, builtins]) s
    · cases h
      rcases h3 with rfl | rfl
      · exact hd.resolve_of_code hm (by decide) (by simp [preset, builtins]) h4 hd.readCode s
      · exact hd.resolve_of_code hm (by decide) (by simp [preset, builtins]) h4 hd.readCode s

lemma makeCurrent_mem_preset {minor : UInt8} {encoding : MakeCurrent.Encoding}
    (h : (minor, .target (.makeCurrent encoding)) ∈ (preset (σ := σ) (δ := δ))) :
    minor = Opcode.makeCurrent ∧ encoding = .oneDrawable ∨
      minor = Opcode.makeContextCurrent ∧ encoding = .twoDrawables := by
  simpa [preset, builtins] using h

lemma byVendorCode_mem_preset {minor : UInt8}
    (h : (minor, .byVendorCode) ∈ (preset (σ := σ) (δ := δ))) :
    minor = Opcode.vendorPrivate ∨ minor = Opcode.vendorPrivateWithReply := by
  simpa [preset, builtins] using h

lemma routed_mem_preset {minor : UInt8} {q : RoutedRequest} :
    (minor, .target (.routed q)) ∈ (preset (σ := σ) (δ := δ)) ↔
      q ∈ routedRequests ∧ q.opcode = minor := by
  simp [preset, builtins, and_comm]

/-- A request that is routed to one vendor is resolved without asking anybody. -/
lemma Sound.resolve_of_find? {r : Registry σ δ} (hd : d.Sound r) {c : Client} {minor : UInt8}
    {q : RoutedRequest} (hm : c.minorOpcode = .ok minor) (hsingle : ¬ Opcode.firstSingle ≤ minor)
    (hq : RoutedRequest.find? minor = some q) (s : Session σ δ) :
    d.resolve env c s = .ok (.ok (.routed q), d) s := by
  have hi : minor.toNat < opcodeCount :=
    Nat.lt_of_not_le fun hle => hsingle (UInt8.le_iff_toNat_le.mpr hle)
  have hopcode : q.opcode = minor := by simpa using List.find?_some hq
  exact hd.resolve_of_preset hm hi
    (routed_mem_preset.mpr ⟨List.mem_of_find?_eq_some hq, hopcode⟩) s

/-- A request from opcode 100 up is resolved without asking anybody. -/
lemma resolve_of_single {c : Client} {minor : UInt8} (hm : c.minorOpcode = .ok minor)
    (hsingle : Opcode.firstSingle ≤ minor) (s : Session σ δ) :
    d.resolve env c s = .ok (.ok .single, d) s := by
  have hi : ¬ minor.toNat < opcodeCount := Nat.not_lt.mpr (UInt8.le_iff_toNat_le.mp hsingle)
  rw [resolve, hm]
  simp only [dif_neg hi]
  rfl

lemma procedure_notMem_preset {minor : UInt8} {p : Procedure σ δ} :
    (minor, .target (.procedure p)) ∉ preset := by
  simp [preset, builtins]

/-- What is found for an opcode is known from the start or learned. -/
lemma Sound.resolveOpcode (hd : d.Sound env.registry) (h : env.Surveyed I)
    (hv : ∀ v ∈ env.registry.active, env.registry.isInitialized v = true) {minor : UInt8}
    (hi : minor.toNat < opcodeCount) {s : Session σ δ} (hs : I s) :
    Ends (resolveOpcode env d minor hi) s
      (fun r u => I u ∧ r.2.Sound env.registry ∧
        ((minor, r.1) ∈ preset ∨ ∃ t, r.1 = .target t ∧ t.Learned env.registry))
      fun _ => I := by
  cases he : d.opcodes[minor.toNat] with
  | some entry =>
      rw [Ends, resolveOpcode_of_eq_some hi he]
      refine ⟨hs, hd, (hd.opcodes _ hi _ he).imp_left fun hp => ?_⟩
      obtain ⟨k, hk, hkm⟩ := (presetOpcodes_eq_some_iff hi).mp hp
      rw [UInt8.toNat_inj] at hkm
      exact hkm ▸ hk
  | none =>
      rw [Dispatcher.resolveOpcode, he]
      refine ends_bind.mpr ((query_keeps h hv minor 0 hs).mono ?_ fun _ _ => id)
      rintro t u ⟨hu, ht⟩
      refine ⟨hu, ⟨?_, ?_, hd.readCode, hd.codes⟩, .inr ⟨t, rfl, ht⟩⟩
      · -- what was known keeps its place, since this place was empty
        intro i hi' entry hp
        have hne : minor.toNat ≠ i := by
          rintro rfl
          rw [hd.known _ hi _ hp] at he
          cases he
        rw [Vector.getElem_set_ne _ _ hne]
        exact hd.known i hi' entry hp
      · -- and what is put into it was learned
        intro i hi' entry hp
        rw [Vector.getElem_set] at hp
        split_ifs at hp with hmi
        · cases hp
          exact .inr ⟨t, rfl, ht⟩
        · exact hd.opcodes i hi' entry hp

/-- What is found for a vendor code is the one that the router serves itself or learned. -/
lemma Sound.resolveCode (hd : d.Sound env.registry) (h : env.Surveyed I)
    (hv : ∀ v ∈ env.registry.active, env.registry.isInitialized v = true) (minor : UInt8)
    (code : UInt32) {s : Session σ δ} (hs : I s) :
    Ends (resolveCode env d minor code) s
      (fun r u => I u ∧ r.2.Sound env.registry ∧
        (r.1 = .makeCurrent .vendorPrivate ∧ code = makeCurrentReadCode ∨
          r.1.Learned env.registry))
      fun _ => I := by
  cases hc : d.codes.get? code with
  | some t =>
      rw [Ends, resolveCode_of_eq_some hc]
      exact ⟨hs, hd, hd.codes code t hc⟩
  | none =>
      rw [Dispatcher.resolveCode, hc]
      refine ends_bind.mpr ((query_keeps h hv minor code hs).mono ?_ fun _ _ => id)
      rintro t u ⟨hu, ht⟩
      refine ⟨hu, ⟨hd.known, hd.opcodes, ?_, ?_⟩, .inr ht⟩
      · -- the code that the router serves itself is never learned
        have hne : makeCurrentReadCode ≠ code := by
          rintro rfl
          rw [hd.readCode] at hc
          cases hc
        rw [Assoc.get?_insert, if_neg hne]
        exact hd.readCode
      · intro j t' hj
        rw [Assoc.get?_insert] at hj
        split_ifs at hj with hjc
        · cases hj
          exact .inr ht
        · exact hd.codes j t' hj

end Dispatcher

/-- A request of the client may be resolved to the target. -/
structure Target.Suits (r : Registry σ δ) (c : Client) (t : Target σ δ) : Prop where
  makeCurrent : ∀ encoding, t = .makeCurrent encoding → c.makeCurrentEncoding? = some encoding
  routed : ∀ q, t = .routed q → q ∈ routedRequests ∧ c.minorOpcode = .ok q.opcode
  procedure : ∀ p, t = .procedure p → r.isInitialized p.vendor = true

lemma Target.Learned.suits {r : Registry σ δ} {c : Client} {t : Target σ δ} (h : t.Learned r) :
    t.Suits r c := by
  refine ⟨?_, ?_, ?_⟩
  · rintro encoding rfl
    cases h
  · rintro q rfl
    cases h
  · rintro p rfl
    exact h

/-- The target that an opcode has from the start. -/
lemma Target.suits_of_mem_preset {r : Registry σ δ} {c : Client} {minor : UInt8} {t : Target σ δ}
    (hm : c.minorOpcode = .ok minor) (h : (minor, .target t) ∈ Dispatcher.preset) :
    t.Suits r c := by
  refine ⟨?_, ?_, ?_⟩
  · rintro encoding rfl
    rcases Dispatcher.makeCurrent_mem_preset h with ⟨rfl, rfl⟩ | ⟨rfl, rfl⟩
    · simp [Client.makeCurrentEncoding?, hm]
    · simp [Client.makeCurrentEncoding?, hm, Opcode.makeCurrent, Opcode.makeContextCurrent]
  · rintro q rfl
    obtain ⟨hq, rfl⟩ := Dispatcher.routed_mem_preset.mp h
    exact ⟨hq, hm⟩
  · rintro p rfl
    exact absurd h Dispatcher.procedure_notMem_preset

/-- The spelling of a vendor-private request with the code of the router. -/
lemma Client.makeCurrentEncoding?_of_code {c : Client} {minor : UInt8}
    (hm : c.minorOpcode = .ok minor)
    (hp : minor = Opcode.vendorPrivate ∨ minor = Opcode.vendorPrivateWithReply)
    (hc : c.readWord 4 = .ok makeCurrentReadCode) :
    c.makeCurrentEncoding? = some .vendorPrivate := by
  rcases hp with rfl | rfl <;>
    simp [Client.makeCurrentEncoding?, hm, hc, Opcode.makeCurrent, Opcode.makeContextCurrent,
      Opcode.vendorPrivate, Opcode.vendorPrivateWithReply]

/-- Resolution asks initialized vendors only, stays sound, and finds a suitable target. -/
lemma Dispatcher.Sound.resolve {env : Environment σ δ} {d : Dispatcher σ δ}
    {I : Session σ δ → Prop} (hd : d.Sound env.registry) (h : env.Surveyed I)
    (hv : ∀ v ∈ env.registry.active, env.registry.isInitialized v = true) (c : Client)
    {s : Session σ δ} (hs : I s) :
    Ends (d.resolve env c) s
      (fun r u => I u ∧ r.2.Sound env.registry ∧
        ∀ t, r.1 = .ok t → t.Suits env.registry c)
      fun _ => I := by
  rw [Dispatcher.resolve]
  cases hm : c.minorOpcode with
  | error e => exact ⟨hs, hd, by simp⟩
  | ok minor =>
      by_cases hi : minor.toNat < opcodeCount
      · simp only [dif_pos hi]
        refine ends_bind.mpr ((hd.resolveOpcode h hv hi hs).mono ?_ fun _ _ => id)
        rintro ⟨entry, d'⟩ u ⟨hu, hd', he⟩
        cases entry with
        | target t =>
            refine ⟨hu, hd', ?_⟩
            intro t' ht'
            cases ht'
            rcases he with hp | ⟨t', ht', hl⟩
            · exact Target.suits_of_mem_preset hm hp
            · cases ht'
              exact hl.suits
        | byVendorCode =>
            -- the code decides, after it was read behind the opcode
            have hp : minor = Opcode.vendorPrivate ∨ minor = Opcode.vendorPrivateWithReply := by
              rcases he with hp | ⟨t', ht', -⟩
              · exact Dispatcher.byVendorCode_mem_preset hp
              · cases ht'
            cases hc : c.readWord 4 with
            | error e => exact ⟨hu, hd', by simp⟩
            | ok code =>
                refine ends_bind.mpr ((hd'.resolveCode h hv minor code hu).mono ?_ fun _ _ => id)
                rintro ⟨t, d''⟩ w ⟨hw, hd'', ht⟩
                refine ⟨hw, hd'', ?_⟩
                intro t' ht'
                cases ht'
                rcases ht with ⟨rfl, rfl⟩ | hl
                · refine ⟨?_, by rintro q ⟨⟩, by rintro p ⟨⟩⟩
                  rintro encoding ⟨⟩
                  exact Client.makeCurrentEncoding?_of_code hm hp hc
                · exact hl.suits
      · simp only [dif_neg hi]
        refine ⟨hs, hd, ?_⟩
        rintro t ht
        cases ht
        exact ⟨by simp, by simp, by simp⟩

end VendorDispatch
