import VendorDispatch.Proofs.Operation

/-!
Which vendors are called for requests.

A stray call is one that serves a request and is made to a vendor that is not initialized.

* `OnlyStray`: the vendors that stray calls in a journal are made to.
* `Server.StraysTo`: the requests to make a context current that ask a vendor although it is not
  initialized.
* `stray_call_iff`: there are no other stray calls, and these are made.
* `stray_call_of_failed_init`: a vendor whose initialization failed is called.
-/

namespace VendorDispatch

variable {σ δ : Type}

/-! ### Stray calls -/

/-- The callbacks by which requests are served, as opposed to those that start and end a
generation. -/
def Callback.IsService : Callback δ → Prop
  | init _ => False
  | closeDown _ => False
  | _ => True

/-- A call that serves a request, of a vendor that is not initialized. -/
def Event.IsStray : Event δ → Prop
  | .called _ initialized callback => initialized = false ∧ callback.IsService
  | _ => False

instance : DecidablePred (Callback.IsService (δ := δ)) := fun callback =>
  match callback with
  | .init _ | .closeDown _ => .isFalse id
  | .request _ | .query _ _ | .procedure _ _ _ | .makeCurrent _ _ => .isTrue trivial

instance : DecidablePred (Event.IsStray (δ := δ)) := fun e =>
  match e with
  | .called _ initialized callback =>
    inferInstanceAs (Decidable (initialized = false ∧ callback.IsService))
  | .returned _ _ _ | .drawableAsked _ _ | .resourceAsked _ _ | .exported _ _ | .noted _ =>
    .isFalse id

/-- The return of a vendor that agreed to release a tag. -/
def Event.IsRelease : Event δ → Prop
  | .returned _ (.makeCurrent _ q) (_, .ok _) => q.newTag = 0
  | _ => False

/-- The only stray calls in a journal ask vendors with `V` to bind or to release. -/
def OnlyStray (V : VendorId → Prop) (journal : List (Event δ)) : Prop :=
  ∀ e ∈ journal, e.IsStray → ∃ v c q, e = .called v false (.makeCurrent c q) ∧ V v

section Journal

variable {env : Environment σ δ} {V W : VendorId → Prop} {journal : List (Event δ)}

lemma OnlyStray.mono (h : OnlyStray V journal) (hV : ∀ v, V v → W v) : OnlyStray W journal := by
  intro e he hs
  obtain ⟨v, c, q, rfl, hv⟩ := h e he hs
  exact ⟨v, c, q, rfl, hV v hv⟩

lemma OnlyStray.cons (h : OnlyStray V journal) {e : Event δ} (he : ¬ e.IsStray) :
    OnlyStray V (e :: journal) := by
  intro d hd hs
  rcases List.mem_cons.mp hd with rfl | hd
  · exact (he hs).elim
  · exact h d hd hs

/-- A vendor is asked to bind or to release. -/
lemma OnlyStray.ask (h : OnlyStray V journal) {v : VendorId} {initialized : Bool}
    (hv : initialized = false → V v) (c : Client) (q : MakeCurrentRequest δ) :
    OnlyStray V (.called v initialized (.makeCurrent c q) :: journal) := by
  intro d hd hs
  rcases List.mem_cons.mp hd with rfl | hd
  · obtain ⟨rfl, -⟩ := hs
    exact ⟨v, c, q, rfl, hv rfl⟩
  · exact h d hd hs

lemma Environment.Enters.not_isStray {e : Event δ} (h : env.Enters e) : ¬ e.IsStray := by
  rintro hs
  rcases h with h | ⟨request, answer, rfl⟩
  · cases e with
    | called v b callback =>
        rw [hs.1] at h
        cases h.1
    | returned | drawableAsked | resourceAsked | exported | noted => exact hs
  · exact hs

lemma Environment.Enters.not_isRelease {e : Event δ} (h : env.Enters e) : ¬ e.IsRelease := by
  rintro hs
  rcases h with h | ⟨request, answer, rfl⟩
  · cases e with
    | returned v callback answer =>
        cases callback with
        | makeCurrent c q => exact h
        | init | closeDown | request | query | procedure => exact hs
    | called | drawableAsked | resourceAsked | exported | noted => exact hs
  · exact hs

/-- The work of vendors makes no stray calls. -/
lemma kept_onlyStray (env : Environment σ δ) (V : VendorId → Prop) :
    env.Kept fun s => OnlyStray V s.journal :=
  env.kept_journal fun _ _ he h => h.cons he.not_isStray

/-- The work of vendors releases no tag. -/
lemma kept_noRelease (env : Environment σ δ) :
    env.Kept fun s => ∀ e ∈ s.journal, ¬ e.IsRelease := by
  refine env.kept_journal (P := fun journal => ∀ e ∈ journal, ¬ e.IsRelease) ?_
  intro e journal he h d hd
  rcases List.mem_cons.mp hd with rfl | hd
  · exact he.not_isRelease
  · exact h d hd

end Journal

/-! ### Stray calls of a switch -/

/-- The vendor can be asked to bind and to release although it is not initialized. -/
def Environment.IsUnguarded (env : Environment σ δ) (v : VendorId) : Prop :=
  env.registry.isInitialized v = false ∧ (env.makeCurrentHandler? v).isSome

/-- The vendor was asked to bind or to release. -/
def Environment.HasAsked (env : Environment σ δ) (v : VendorId) (journal : List (Event δ)) : Prop :=
  ∃ c q, .called v (env.registry.isInitialized v) (.makeCurrent c q) ∈ journal

/-- The vendor owns the tag to let go of, or is to bind and it is its turn. -/
def Involved (old : Option (TagInfo δ)) (vendor : Option VendorId) (journal : List (Event δ))
    (v : VendorId) : Prop :=
  (∃ e, old = some e ∧ e.owner = some v) ∨
    vendor = some v ∧ (old = none ∨ ∃ e ∈ journal, e.IsRelease)

section Involved

variable {old : Option (TagInfo δ)} {e : TagInfo δ} {vendor : Option VendorId}
  {journal : List (Event δ)} {v : VendorId}

lemma involved_iff (h : old = none ∨ ∃ r ∈ journal, r.IsRelease) :
    Involved old vendor journal v ↔ (∃ e, old = some e ∧ e.owner = some v) ∨ vendor = some v := by
  simp only [Involved, h, and_true]

lemma involved_of_no_release (h : ∀ r ∈ journal, ¬ r.IsRelease) :
    Involved (some e) vendor journal v ↔ e.owner = some v := by
  refine ⟨?_, fun hv => .inl ⟨e, rfl, hv⟩⟩
  rintro (⟨e', he, hv⟩ | ⟨-, he | ⟨r, hr, hrel⟩⟩)
  · cases he
    exact hv
  · cases he
  · exact (h r hr hrel).elim

end Involved

/-- The stray calls are made to those vendors with `A` that can be asked and are not initialized. -/
structure Environment.StraysExactly (env : Environment σ δ) (A : VendorId → Prop)
    (journal : List (Event δ)) : Prop where
  only : OnlyStray (fun v => env.IsUnguarded v ∧ A v) journal
  all : ∀ v, env.IsUnguarded v → A v → env.HasAsked v journal

lemma Environment.StraysExactly.congr {env : Environment σ δ} {A B : VendorId → Prop}
    {journal : List (Event δ)} (h : env.StraysExactly A journal) (hAB : ∀ v, A v ↔ B v) :
    env.StraysExactly B journal where
  only := h.only.mono fun v hv => ⟨hv.1, (hAB v).mp hv.2⟩
  all v hu hv := h.all v hu ((hAB v).mpr hv)

section Switching

variable {env : Environment σ δ} {x : Exchange σ δ} {v : VendorId}
  {P : List (Event δ) → Prop}
  (hP : ∀ e journal, env.Enters e → P journal → P (e :: journal))
  (hcall : env.IsUnguarded v ∨ env.registry.isInitialized v = true → ∀ c q journal, P journal →
    P (.called v (env.registry.isInitialized v) (.makeCurrent c q) :: journal))
  (hreturn : ∀ c q r journal, P journal → P (.returned v (.makeCurrent c q) r :: journal))

lemma kept_hasAsked (env : Environment σ δ) (v : VendorId) :
    env.Kept fun s => env.HasAsked v s.journal := by
  refine env.kept_journal (P := fun journal => env.HasAsked v journal) ?_
  rintro e journal _ ⟨c, q, h⟩
  exact ⟨c, q, List.mem_cons_of_mem _ h⟩

lemma Environment.HasAsked.cons {journal : List (Event δ)} (h : env.HasAsked v journal)
    (e : Event δ) : env.HasAsked v (e :: journal) := by
  obtain ⟨c, q, h⟩ := h
  exact ⟨c, q, List.mem_cons_of_mem _ h⟩

lemma Environment.HasAsked.mono {journal later : List (Event δ)} (h : env.HasAsked v journal)
    (hsub : journal ⊆ later) : env.HasAsked v later := by
  obtain ⟨c, q, h⟩ := h
  exact ⟨c, q, hsub h⟩

lemma Environment.isUnguarded_or (h : (env.makeCurrentHandler? v).isSome) :
    env.IsUnguarded v ∨ env.registry.isInitialized v = true := by
  cases hv : env.registry.isInitialized v with
  | true => exact .inr rfl
  | false => exact .inl ⟨hv, h⟩

include hP hcall hreturn

/-- Releasing a tag asks its owner, if it has a handler. -/
lemma release_calls {old : TagInfo δ} (hv : old.owner = some v) (hx : P x.session.journal) :
    Ends (MakeCurrent.release env old) x
      (fun _ y => P y.session.journal ∧ env.HasAsked v y.session.journal ∧
        ∃ e ∈ y.session.journal, e.IsRelease)
      (Answers
        (fun _ t => P t.journal ∧ ((env.makeCurrentHandler? v).isSome → env.HasAsked v t.journal) ∧
          ((∀ e ∈ x.session.journal, ¬ e.IsRelease) → ∀ e ∈ t.journal, ¬ e.IsRelease))
        fun _ t => P t.journal) := by
  -- what the vendor exports while it is asked is no release
  have hA : env.Kept fun s => (P s.journal ∧ env.HasAsked v s.journal) ∧
      ((∀ e ∈ x.session.journal, ¬ e.IsRelease) → ∀ e ∈ s.journal, ¬ e.IsRelease) := by
    refine ((env.kept_journal hP).and (kept_hasAsked env v)).and ?_
    refine env.kept_journal (P := fun journal =>
      (∀ e ∈ x.session.journal, ¬ e.IsRelease) → ∀ e ∈ journal, ¬ e.IsRelease) ?_
    intro e journal he h h0 d hd
    rcases List.mem_cons.mp hd with rfl | hd
    · exact he.not_isRelease
    · exact h h0 d hd
  refine MakeCurrent.ends_release Environment.handsBack_any hA.upheld hv ?_ ?_ ?_ ?_ ?_
  · -- the vendor is asked to release, which is the one stray call here
    intro hh
    refine ⟨⟨hcall (env.isUnguarded_or hh) _ _ _ hx, _, _, List.mem_cons_self⟩, fun h0 d hd => ?_⟩
    rcases List.mem_cons.mp hd with rfl | hd
    · exact id
    · exact h0 d hd
  · rintro s c data ⟨⟨hs, hasked⟩, -⟩ _
    exact ⟨hreturn _ _ _ _ hs, hasked.cons _, _, List.mem_cons_self, rfl⟩
  · -- it refuses, so nothing was released
    rintro s c reason ⟨⟨hs, hasked⟩, hnone⟩ _
    refine ⟨hreturn _ _ _ _ hs, fun _ => hasked.cons _, fun h0 d hd => ?_⟩
    rcases List.mem_cons.mp hd with rfl | hd
    · exact id
    · exact hnone h0 d hd
  · -- it has no handler, so it cannot have been asked
    intro habsent
    refine ⟨hx, fun h => ?_, id⟩
    rw [habsent] at h
    cases h
  · exact fun s a hs => hs.1.1

/-- Binding asks the vendor, if it has a handler and there is a tag left. -/
lemma bind_calls (q : MakeCurrent.Switch) (hx : P x.session.journal) :
    Ends (MakeCurrent.bind env v q) x
      (fun _ y => P y.session.journal ∧ env.HasAsked v y.session.journal)
      (Answers
        (fun _ t => P t.journal ∧ ((env.makeCurrentHandler? v).isSome → env.HasAsked v t.journal))
        fun _ t => P t.journal) := by
  have hA : env.Kept fun s => P s.journal ∧ env.HasAsked v s.journal :=
    (env.kept_journal hP).and (kept_hasAsked env v)
  refine MakeCurrent.ends_bindTag Environment.handsBack_any (fun _ => hA.upheld) ?_ ?_ ?_ ?_
    (fun _ => hx) fun _ s a hs => hs.1
  · exact fun tag o _ hh => ⟨hcall (env.isUnguarded_or hh) _ _ _ hx, _, _, List.mem_cons_self⟩
  · exact fun tag s c data hs _ => ⟨hreturn _ _ _ _ hs.1, hs.2.cons _⟩
  · exact fun tag s c reason hs _ => ⟨hreturn _ _ _ _ hs.1, fun _ => hs.2.cons _⟩
  · intro tag o _ habsent
    refine ⟨hx, fun h => ?_⟩
    rw [habsent] at h
    cases h

end Switching

section Switching

variable {env : Environment σ δ} {x : Exchange σ δ} {V : VendorId → Prop}

/-- One more stray call, of a vendor with `V`. -/
lemma OnlyStray.call {v : VendorId} (hV : env.IsUnguarded v → V v)
    (hv : env.IsUnguarded v ∨ env.registry.isInitialized v = true) (c : Client)
    (q : MakeCurrentRequest δ) (journal : List (Event δ)) (h : OnlyStray V journal) :
    OnlyStray V (.called v (env.registry.isInitialized v) (.makeCurrent c q) :: journal) := by
  refine h.ask (fun hfalse => ?_) c q
  rcases hv with hu | hinit
  · exact hV hu
  · rw [hfalse] at hinit
    cases hinit

/-- Binding, after all stray calls so far were made to vendors with `V`. -/
lemma bind_strays {w : VendorId} (q : MakeCurrent.Switch) (hw : env.IsUnguarded w → V w)
    (hx : OnlyStray V x.session.journal) :
    Ends (MakeCurrent.bind env w q) x
      (fun _ y => x.session.journal ⊆ y.session.journal ∧ OnlyStray V y.session.journal ∧
        env.HasAsked w y.session.journal)
      (Answers
        (fun _ t => x.session.journal ⊆ t.journal ∧ OnlyStray V t.journal ∧
          (env.IsUnguarded w → env.HasAsked w t.journal))
        fun _ t => x.session.journal ⊆ t.journal ∧ OnlyStray V t.journal) := by
  refine (bind_calls (P := fun journal => x.session.journal ⊆ journal ∧ OnlyStray V journal)
    ?_ ?_ ?_ q ⟨List.Subset.refl _, hx⟩).mono ?_ ?_
  · exact fun e journal he h => ⟨List.subset_cons_of_subset e h.1, h.2.cons he.not_isStray⟩
  · exact fun hv c r journal h =>
      ⟨List.subset_cons_of_subset _ h.1, h.2.call hw hv c r journal⟩
  · exact fun c r answer journal h => ⟨List.subset_cons_of_subset _ h.1, h.2.cons id⟩
  · exact fun _ y hy => ⟨hy.1.1, hy.1.2, hy.2⟩
  · rintro (e | a) y hy
    · exact ⟨hy.1.1, hy.1.2, fun hu => hy.2 hu.2⟩
    · exact hy

/-- Releasing a tag makes the stray call of its owner, and no others. -/
lemma release_strays (e : TagInfo δ) (hclean : OnlyStray (fun _ => False) x.session.journal)
    (hnone : ∀ r ∈ x.session.journal, ¬ r.IsRelease) :
    Ends (MakeCurrent.release env e) x
      (fun _ y => env.StraysExactly (fun v => e.owner = some v) y.session.journal ∧
        ∃ r ∈ y.session.journal, r.IsRelease)
      (Answers
        (fun _ t => env.StraysExactly (fun v => e.owner = some v) t.journal ∧
          ∀ r ∈ t.journal, ¬ r.IsRelease)
        fun _ t => OnlyStray (fun v => env.IsUnguarded v ∧ e.owner = some v) t.journal) := by
  cases hw : e.owner with
  | none =>
      rw [MakeCurrent.release, hw]
      exact ⟨⟨hclean.mono fun v h => h.elim, fun v _ h => by cases h⟩, hnone⟩
  | some w =>
      have hall : ∀ journal : List (Event δ), (env.IsUnguarded w → env.HasAsked w journal) →
          ∀ v, env.IsUnguarded v → some w = some v → env.HasAsked v journal := by
        rintro journal hasked v hu hv
        obtain rfl := Option.some_inj.mp hv
        exact hasked hu
      refine (release_calls (fun ev journal hev h => h.cons hev.not_isStray)
        (OnlyStray.call (V := fun v => env.IsUnguarded v ∧ some w = some v) fun hu => ⟨hu, rfl⟩)
        (fun c q r journal h => h.cons id) hw (hclean.mono fun v h => h.elim)).mono ?_ ?_
      · rintro _ y ⟨hy, hasked, hrel⟩
        exact ⟨⟨hy, hall _ fun _ => hasked⟩, hrel⟩
      · rintro (reason | a) y hy
        · obtain ⟨hy, hasked, hrel⟩ := hy
          exact ⟨⟨hy, hall _ fun hu => hasked hu.2⟩, hrel hnone⟩
        · exact hy

/-- A switch makes the stray calls of the involved vendors, and no others. -/
lemma switchTo_strays (q : MakeCurrent.Switch) (old : Option (TagInfo δ))
    (vendor : Option VendorId) (hclean : OnlyStray (fun _ => False) x.session.journal)
    (hnone : ∀ e ∈ x.session.journal, ¬ e.IsRelease) :
    Ends (MakeCurrent.switchTo env q old vendor) x
      (fun _ y => env.StraysExactly (Involved old vendor y.session.journal) y.session.journal)
      (Answers (fun _ t => env.StraysExactly (Involved old vendor t.journal) t.journal) fun _ t =>
        OnlyStray (fun v => env.IsUnguarded v ∧ Involved old vendor t.journal v) t.journal) := by
  refine MakeCurrent.ends_switchTo
    (M := fun y => env.StraysExactly (fun v => ∃ e, old = some e ∧ e.owner = some v)
      y.session.journal ∧ (old = none ∨ ∃ r ∈ y.session.journal, r.IsRelease)) ?_ ?_ ?_ ?_
  · -- there is no old tag
    rintro rfl
    refine ⟨⟨hclean.mono fun v h => h.elim, ?_⟩, .inl rfl⟩
    rintro v _ ⟨e, he, -⟩
    cases he
  · -- the old tag is released, or its release is refused and that is all
    rintro e rfl
    have hold : ∀ v, e.owner = some v ↔ ∃ e', some e = some e' ∧ e'.owner = some v := by simp
    refine (release_strays e hclean hnone).mono (fun _ y hy => ⟨hy.1.congr hold, .inr hy.2⟩) ?_
    rintro (reason | a) y hy
    · exact Environment.StraysExactly.congr hy.1 fun v => (involved_of_no_release hy.2).symm
    · exact OnlyStray.mono hy fun v hv => ⟨hv.1, .inl ((hold v).mp hv.2)⟩
  · -- nothing is to be bound
    rintro rfl y ⟨hy, hturn⟩
    exact hy.congr fun v => by simp [involved_iff hturn]
  · -- its turn has come for the new owner
    rintro w rfl y ⟨hy, hturn⟩
    have hinv : ∀ journal : List (Event δ), y.session.journal ⊆ journal → ∀ v,
        Involved old (some w) journal v ↔ (∃ e, old = some e ∧ e.owner = some v) ∨ v = w := by
      intro journal hsub v
      rw [involved_iff (hturn.imp_right fun ⟨r, hr, hrel⟩ => ⟨r, hsub hr, hrel⟩)]
      simp [eq_comm]
    have hall : ∀ journal : List (Event δ), y.session.journal ⊆ journal →
        (env.IsUnguarded w → env.HasAsked w journal) →
        ∀ v, env.IsUnguarded v → Involved old (some w) journal v → env.HasAsked v journal := by
      intro journal hsub hasked v hu hv
      rcases (hinv journal hsub v).mp hv with hv | rfl
      · exact (hy.all v hu hv).mono hsub
      · exact hasked hu
    -- the stray calls until then are those of the old owner
    have hbefore : OnlyStray (fun v => env.IsUnguarded v ∧
        ((∃ e, old = some e ∧ e.owner = some v) ∨ v = w)) y.session.journal :=
      hy.only.mono fun v hv => ⟨hv.1, .inl hv.2⟩
    refine (bind_strays q (fun hu => ⟨hu, .inr rfl⟩) hbefore).mono ?_ ?_
    · rintro _ z ⟨hsub, hz, hasked⟩
      exact ⟨hz.mono fun v hv => ⟨hv.1, (hinv _ hsub v).mpr hv.2⟩, hall _ hsub fun _ => hasked⟩
    · rintro (reason | a) z hz
      · obtain ⟨hsub, hz, hasked⟩ := hz
        exact ⟨hz.mono fun v hv => ⟨hv.1, (hinv _ hsub v).mpr hv.2⟩, hall _ hsub hasked⟩
      · exact hz.2.mono fun v hv => ⟨hv.1, (hinv _ hz.1 v).mpr hv.2⟩

/-- A request makes it the turn of the vendor: its tag and its context are known, the old tag does
not stand for what it asks for, and the vendor owns the old tag, or owns the context and the old tag
has been released. -/
def MakeCurrent.Switch.Asks (q : MakeCurrent.Switch) (env : Environment σ δ) (s : Session σ δ)
    (client : ClientId) (journal : List (Event δ)) (v : VendorId) : Prop :=
  (q.context ≠ 0 → (env.ownerOfXid s q.context).isSome) ∧
    (q.context ≠ 0 → ¬ q.IsHeld s.ownership client) ∧
    ((∃ e, s.ownership.lookupTag client q.oldTag = some e ∧ e.owner = some v) ∨
      q.newOwner env s = some v ∧ (q.oldTag = 0 ∨ ∃ e ∈ journal, e.IsRelease))

/-- Whose turn it is when the tag and the context are known and not current. -/
lemma MakeCurrent.Switch.asks_iff_involved {q : MakeCurrent.Switch} {s : Session σ δ}
    {client : ClientId} {journal : List (Event δ)} {v : VendorId}
    (hzero : s.ownership.lookupTag client q.oldTag = none → q.oldTag = 0)
    (hfound : q.context ≠ 0 → ∃ w, env.ownerOfXid s q.context = some w)
    (hnot : q.context ≠ 0 → ¬ q.IsHeld s.ownership client) :
    q.Asks env s client journal v ↔
      Involved (s.ownership.lookupTag client q.oldTag) (q.newOwner env s) journal v := by
  constructor
  · rintro ⟨-, -, h⟩
    refine h.imp_right fun ho => ⟨ho.1, ho.2.imp_left fun h0 => ?_⟩
    rw [h0, Ownership.lookupTag_zero]
  · intro h
    refine ⟨fun hc => ?_, hnot, h.imp_right fun ho => ⟨ho.1, ho.2.imp_left hzero⟩⟩
    obtain ⟨w, hw⟩ := hfound hc
    simp [hw]

/-- A request to make a context current makes the stray calls of the vendors whose turn it is, and
no others. -/
lemma makeCurrent_strays {encoding : MakeCurrent.Encoding}
    (hclean : OnlyStray (fun _ => False) x.session.journal)
    (hnone : ∀ e ∈ x.session.journal, ¬ e.IsRelease) {q : MakeCurrent.Switch}
    (hq : MakeCurrent.decode x.client encoding = .ok q) :
    Ends (MakeCurrent.serve env encoding) x
      (fun _ y => env.StraysExactly (q.Asks env x.session x.client.id y.session.journal)
        y.session.journal)
      (Answers
        (fun _ t => env.StraysExactly (q.Asks env x.session x.client.id t.journal) t.journal)
        fun _ t => OnlyStray (fun v => env.IsUnguarded v ∧
          q.Asks env x.session x.client.id t.journal v) t.journal) := by
  -- on the ways that ask nobody there is no stray call, and it is nobody's turn
  have hidle : ∀ journal : List (Event δ), OnlyStray (fun _ => False) journal →
      (∀ v, ¬ q.Asks env x.session x.client.id journal v) →
      env.StraysExactly (q.Asks env x.session x.client.id journal) journal :=
    fun journal hj hno => ⟨hj.mono fun v h => h.elim, fun v _ hv => (hno v hv).elim⟩
  have hsought := q.upheld_sought
    ((kept_onlyStray env fun _ => False).and (kept_noRelease env)).upheld
    (s := x.session) ⟨hclean, hnone⟩
  rw [MakeCurrent.serve, ends_bind, MakeCurrent.ends_read, hq]
  refine MakeCurrent.ends_switch rfl ?_ ?_ ?_ ?_
  · intro h0 hold
    refine hidle _ hclean ?_
    rintro v ⟨-, -, ⟨e, he, -⟩ | ⟨-, h | ⟨r, hr, hrel⟩⟩⟩
    · cases hold.symm.trans he
    · exact h0 h
    · exact hnone r hr hrel
  · intro hc howner
    refine hidle _ hsought.1 ?_
    rintro v ⟨hfound, -⟩
    simpa [howner] using hfound hc
  · intro e v he hv hheld
    refine MakeCurrent.ends_replyTag fun r _ => hidle _ hsought.1 ?_
    rintro w ⟨-, hnot, -⟩
    exact hnot (MakeCurrent.Switch.context_ne_zero hv) ⟨e, he, hheld⟩
  · intro hzero hfound hnot
    have hasks : ∀ (journal : List (Event δ)) v, q.Asks env x.session x.client.id journal v ↔
        Involved (x.session.ownership.lookupTag x.client.id q.oldTag) (q.newOwner env x.session)
          journal v := by
      refine fun journal v => MakeCurrent.Switch.asks_iff_involved hzero hfound ?_
      rintro hc ⟨e, he, hheld⟩
      simp [hnot e he hc] at hheld
    refine (switchTo_strays q _ _ hsought.1 hsought.2).mono ?_ ?_
    · exact fun tag y hy => MakeCurrent.ends_replyTag fun r _ => hy.congr fun v => (hasks _ v).symm
    · rintro (e | a) y hy
      · exact Environment.StraysExactly.congr hy fun v => (hasks _ v).symm
      · exact OnlyStray.mono hy fun v hv => ⟨hv.1, (hasks _ v).mpr hv.2⟩

end Switching

/-! ### Stray calls of operations -/

/-- Serving the request asks a vendor that is not initialized. -/
def Server.StraysTo (s : Server σ δ) (c : Client) (v : VendorId) : Prop :=
  s.extension ≠ none ∧ s.environment.IsUnguarded v ∧
    ∃ q, c.switch? = some q ∧ q.Asks s.environment s.session c.id (s.serve c).journal v

section Operations

variable {s : Server σ δ} {V : VendorId → Prop}

lemma OnlyStray.of_mem {journal later : List (Event δ)} (h : OnlyStray V journal)
    (hsub : later ⊆ journal) : OnlyStray V later := fun e he => h e (hsub he)

lemma onlyStray_nil : OnlyStray V ([] : List (Event δ)) := fun e he => by cases he

lemma onlyStray_reverse {journal : List (Event δ)} :
    OnlyStray V journal.reverse ↔ OnlyStray V journal :=
  ⟨fun h => h.of_mem fun _ => List.mem_reverse.mpr, fun h => h.of_mem fun _ => List.mem_reverse.mp⟩

/-- The start of a generation makes no stray calls. -/
lemma beginGeneration_strays (entry : ExtensionEntry) :
    OnlyStray (fun _ => False) (s.beginGeneration entry).journal := by
  cases he : s.extension with
  | some e =>
      rw [Server.beginGeneration_of_some he]
      exact onlyStray_nil
  | none =>
      refine Server.beginGeneration_keeps
        (I := fun _ _ journal => OnlyStray (fun _ => False) journal)
        (fun u journal => ?_) (fun r o journal v h => h) he entry onlyStray_nil
      refine (u.environment.kept_journal
        (P := fun later => OnlyStray (fun _ => False) (journal ++ later.reverse)) ?_).upheld
      intro e later hent h
      refine (h.cons hent.not_isStray).of_mem fun d hd => ?_
      simp only [List.reverse_cons, List.mem_append, List.mem_cons, List.mem_reverse,
        List.not_mem_nil, or_false] at hd ⊢
      tauto

/-- The end of a generation makes no stray calls. -/
lemma endGeneration_strays : OnlyStray (fun _ => False) s.endGeneration.journal := by
  cases he : s.extension with
  | none =>
      rw [Server.endGeneration_of_none he]
      exact onlyStray_nil
  | some entry =>
      have h := Server.endGeneration_keeps (I := fun t => OnlyStray (fun _ => False) t.journal)
        (fun _ _ h => h) (fun _ v b entry h => h.cons fun hs => hs.2)
        (fun _ v entry h => h.cons id) he onlyStray_nil
      exact onlyStray_reverse.mp h

/-- A request that does not ask to make anything current makes no stray calls. -/
lemma serve_strays_of_other (hs : s.Sound) {c : Client}
    (hc : s.extension ≠ none → c.switch? = none) :
    OnlyStray (fun _ => False) (s.serve c).journal := by
  refine onlyStray_reverse.mp ?_
  by_cases hm : s.extension ≠ none ∧ ∃ encoding, c.makeCurrentEncoding? = some encoding
  · -- the request is too short, and is refused before anybody is asked
    obtain ⟨he, encoding, henc⟩ := hm
    have hleaves : (s.serve c).Leaves (fun _ t => OnlyStray (fun _ => False) t.journal)
        fun _ t => OnlyStray (fun _ => False) t.journal := by
      refine hs.serve_leaves_of_makeCurrentEncoding? he henc ?_
      rw [MakeCurrent.serve, ends_bind, MakeCurrent.ends_read]
      cases hd : MakeCurrent.decode c encoding with
      | error e => exact onlyStray_nil
      | ok q =>
          have hnone := hc he
          rw [Client.switch?, henc, Option.bind_some, hd] at hnone
          cases hnone
    exact hleaves.session
  · exact hs.serve_keeps_of_other (I := fun t => OnlyStray (fun _ => False) t.journal)
      (kept_onlyStray s.environment fun _ => False) onlyStray_nil hm

/-- The stray calls of a request to make a context current. -/
lemma serve_strays (hs : s.Sound) (he : s.extension ≠ none) {c : Client}
    {q : MakeCurrent.Switch} (hq : c.switch? = some q) :
    OnlyStray (s.StraysTo c) (s.serve c).journal ∧
      ((∃ r, (s.serve c).result = .ok r) → ∀ v, s.StraysTo c v →
        s.environment.HasAsked v (s.serve c).journal) := by
  obtain ⟨encoding, henc, hdecode⟩ := Client.exists_of_switch? hq
  -- the vendors that are concerned are those that the switch asks
  have hiff : ∀ v, s.StraysTo c v ↔ s.environment.IsUnguarded v ∧
      q.Asks s.environment s.session c.id (s.serve c).journal v := by
    intro v
    refine ⟨?_, fun h => ⟨he, h.1, q, hq, h.2⟩⟩
    rintro ⟨-, hu, q', hq', hasks⟩
    obtain rfl := Option.some_inj.mp (hq.symm.trans hq')
    exact ⟨hu, hasks⟩
  -- the journal is entered from its end
  have hasks : ∀ (journal : List (Event δ)) v,
      q.Asks s.environment s.session c.id journal.reverse v ↔
        q.Asks s.environment s.session c.id journal v := by
    intro journal v
    simp only [MakeCurrent.Switch.Asks, List.mem_reverse]
  have hleaves : (s.serve c).Leaves
      (fun _ t => s.environment.StraysExactly
        (q.Asks s.environment s.session c.id t.journal) t.journal)
      fun _ t => OnlyStray (fun v => s.environment.IsUnguarded v ∧
        q.Asks s.environment s.session c.id t.journal v) t.journal :=
    hs.serve_leaves_of_makeCurrentEncoding? he henc
      (makeCurrent_strays (x := ⟨c, s.session⟩) onlyStray_nil (fun e he => by cases he) hdecode)
  have honly : OnlyStray (fun v => s.environment.IsUnguarded v ∧
      q.Asks s.environment s.session c.id (s.serve c).journal.reverse v)
      (s.serve c).journal.reverse := by
    rw [Step.Leaves] at hleaves
    cases hr : (s.serve c).result with
    | ok r =>
        rw [hr] at hleaves
        exact hleaves.only
    | error a =>
        rw [hr] at hleaves
        exact hleaves
  refine ⟨?_, ?_⟩
  · refine (onlyStray_reverse.mp honly).mono fun v hv => ?_
    exact (hiff v).mpr ⟨hv.1, (hasks _ v).mp hv.2⟩
  · rintro ⟨r, hr⟩ v hv
    rw [Step.Leaves, hr] at hleaves
    obtain ⟨hu, hv⟩ := (hiff v).mp hv
    have hasked : s.environment.HasAsked v (s.serve c).journal.reverse :=
      hleaves.all v hu ((hasks _ v).mpr hv)
    exact hasked.mono fun e he => List.mem_reverse.mp he

/-- The only calls for requests to a vendor that is not initialized ask it to bind or to release for
a request to make a context current, when it is its turn; and then it is called. -/
theorem stray_call_iff (hs : s.Reachable) (op : Operation σ δ) (v : VendorId) :
    (∀ callback, callback.IsService → .called v false callback ∈ (s.apply op).journal →
      (∃ d q, callback = .makeCurrent d q) ∧ ∃ c, op = .serve c ∧ s.StraysTo c v) ∧
    ((∃ a, (s.apply op).result = .ok a) → (∃ c, op = .serve c ∧ s.StraysTo c v) →
      ∃ d q, .called v false (.makeCurrent d q) ∈ (s.apply op).journal) := by
  have hsound : s.Sound :=
    Server.Reachable.of_kept Server.sound_new (fun s op a hs _ => hs.apply op) hs
  have hclean : ∀ {journal : List (Event δ)}, OnlyStray (fun _ => False) journal →
      ∀ callback, callback.IsService → .called v false callback ∈ journal →
        (∃ d q, callback = .makeCurrent d q) ∧ ∃ c, op = .serve c ∧ s.StraysTo c v := by
    intro journal h callback hcallback he
    obtain ⟨w, c, q, -, hfalse⟩ := h _ he ⟨rfl, hcallback⟩
    exact hfalse.elim
  cases op with
  | serve c =>
      -- only a switch calls vendors that are not initialized
      by_cases hm : s.extension ≠ none ∧ ∃ q, c.switch? = some q
      · obtain ⟨hext, q, hq⟩ := hm
        obtain ⟨honly, hall⟩ := serve_strays hsound hext hq
        refine ⟨fun callback hcallback he => ?_, ?_⟩
        · obtain ⟨w, d, r, hw, hstrays⟩ := honly _ he ⟨rfl, hcallback⟩
          cases hw
          exact ⟨⟨d, r, rfl⟩, c, rfl, hstrays⟩
        · rintro hok ⟨c', hc', hstrays⟩
          cases hc'
          obtain ⟨d, r, hasked⟩ := hall hok v hstrays
          have hfalse : s.environment.registry.isInitialized v = false := hstrays.2.1.1
          rw [hfalse] at hasked
          exact ⟨d, r, hasked⟩
      · refine ⟨hclean (serve_strays_of_other hsound fun he => ?_), ?_⟩
        · cases hq : c.switch? with
          | none => rfl
          | some q => exact (hm ⟨he, q, hq⟩).elim
        · rintro - ⟨c', hc', hext, -, q, hq, -⟩
          cases hc'
          exact (hm ⟨hext, q, hq⟩).elim
  -- any other operation makes no stray call, and is not a request
  | beginGeneration entry => exact ⟨hclean (beginGeneration_strays entry), by rintro _ ⟨c, ⟨⟩, -⟩⟩
  | endGeneration => exact ⟨hclean endGeneration_strays, by rintro _ ⟨c, ⟨⟩, -⟩⟩
  | perform program =>
      have h := Server.perform_keeps (kept_onlyStray s.environment fun _ => False) onlyStray_nil
        program
      exact ⟨hclean (onlyStray_reverse.mp h), by rintro _ ⟨c, ⟨⟩, -⟩⟩
  | createVendor i =>
      rw [Server.journal_createVendor]
      exact ⟨hclean onlyStray_nil, by rintro _ ⟨c, ⟨⟩, -⟩⟩
  | destroyVendor w =>
      rw [Server.journal_destroyVendor]
      exact ⟨hclean onlyStray_nil, by rintro _ ⟨c, ⟨⟩, -⟩⟩
  | clientGone | resourceFreed | changeWorld =>
      exact ⟨hclean onlyStray_nil, by rintro _ ⟨c, ⟨⟩, -⟩⟩

end Operations

/-! ### A vendor that failed to start -/

/-- A vendor that claims a context, and then fails to initialize. -/
def VendorInterface.failing (context : Xid) : VendorInterface Unit δ :=
  { obliging 0 none with
    init := some fun _ v => .call (.addXid context v) fun _ => .done (.error .failed) }

/-- A generation starts without the only vendor. -/
def failedStart : List (Operation Unit Nat) :=
  [.createVendor (.failing 5), .beginGeneration .sample]

/-- The router of a generation without vendors. -/
def startedWithout : Server Unit Nat :=
  (Server.new (.blank 1) () 4).after ((Server.new (.blank 1) () 4).run failedStart)

/-- A client asks for the context that the vendor claimed. -/
def askingClaimed : Client := .asking 7 Opcode.makeContextCurrent [0, 6, 7, 5]

/-- A vendor is called for a request although its initialization failed. -/
theorem stray_call_of_failed_init :
    startedWithout.Reachable ∧
      ∃ e ∈ (startedWithout.apply (.serve askingClaimed)).journal, e.IsStray := by
  have hlead : (Server.new (.blank 1) () 4).Leads failedStart startedWithout :=
    .of_run (by decide +kernel)
  exact ⟨hlead.reachable (.new _ _ _), by decide +kernel⟩

/-- The vendor whose initialization failed is called because the context is its own. -/
theorem stray_call_iff_failed_init :
    startedWithout.Reachable ∧ startedWithout.StraysTo askingClaimed ⟨0⟩ ∧
      ∃ d q, .called ⟨0⟩ false (.makeCurrent d q) ∈
        (startedWithout.apply (.serve askingClaimed)).journal := by
  have hlead : (Server.new (.blank 1) () 4).Leads failedStart startedWithout :=
    .of_run (by decide +kernel)
  have hreach : startedWithout.Reachable := hlead.reachable (.new _ _ _)
  have hstrays : startedWithout.StraysTo askingClaimed ⟨0⟩ := by
    refine ⟨by decide +kernel, ⟨by decide +kernel, by decide +kernel⟩, ⟨0, 6, 7, 5⟩,
      by decide +kernel, fun _ => by decide +kernel, ?_, .inr ⟨by decide +kernel, .inl rfl⟩⟩
    rintro - ⟨e, he, -⟩
    have hnone : startedWithout.session.ownership.lookupTag askingClaimed.id 0 = none := by
      decide +kernel
    cases hnone.symm.trans he
  have hok : ∃ a, (startedWithout.apply (.serve askingClaimed)).result = .ok a := by
    have h : (startedWithout.serve askingClaimed).result.toBool = true := by decide +kernel
    cases hr : (startedWithout.serve askingClaimed).result with
    | error a =>
        rw [hr] at h
        cases h
    | ok a => exact ⟨a, hr⟩
  have hcalled := (stray_call_iff hreach (.serve askingClaimed) ⟨0⟩).2 hok ⟨_, rfl, hstrays⟩
  exact ⟨hreach, hstrays, hcalled⟩

end VendorDispatch
