import VendorDispatch.Proofs.Work

/-!
What the callback of a vendor can do.

A callback reaches the router through its exports only, so every invariant that the single effects
below keep is kept by every program of every vendor, at any depth of nesting.

* `Environment.ownerOfXid`: the answer of `Environment.vendorOfXid`, which changes nothing but the
  journal.
* `Environment.Admits`: the events that concern no tag.
* `Environment.Preserved`: an invariant that is kept by every export call with its entry in the
  journal; `Preserved.interpret` carries it over to programs.
* `Environment.Upheld`: an invariant that is kept by every effect of an export call with its entry
  in the journal, and so by programs (`Upheld.interpret`) and forwarded requests (`Upheld.forward`).
* `Environment.Kept`: an invariant that is kept by the effects of export calls and by their entries
  one by one.
* `Program.Returns`, `VendorInterface.KeepsClient`: what a program returns whatever it is told, and
  the vendors that leave the id of the client they are given alone (`interpret_returns`).
-/

namespace VendorDispatch

variable {σ δ α : Type}

/-! ### Owners of resources -/

/-- The owner of a resource, or of the screen it is on. -/
def Environment.ownerOfXid (env : Environment σ δ) (s : Session σ δ) (id : Xid) :
    Option VendorId :=
  match s.ownership.xids.get? id with
  | some vendor => some vendor
  | none =>
    (env.host.lookupDrawable s.world id .getAttributes).bind s.ownership.screenVendor

/-- The session after the owner of a resource was asked for: the window system was asked about an
id without an owner of its own. -/
def Session.lookedUp (s : Session σ δ) (id : Xid) : Session σ δ :=
  match s.ownership.xids.get? id with
  | some _ => s
  | none => s.enter (.drawableAsked id .getAttributes)

lemma ends_vendorOfXid {env : Environment σ δ} {s : Session σ δ} {id : Xid}
    {post : Option VendorId → Session σ δ → Prop} {fault : Abort → Session σ δ → Prop} :
    Ends (env.vendorOfXid id) s post fault ↔ post (env.ownerOfXid s id) (s.lookedUp id) := by
  rw [Environment.vendorOfXid, ends_bind, ends_ownership, Environment.ownerOfXid,
    Session.lookedUp]
  cases s.ownership.xids.get? id <;> rfl

@[simp] lemma Session.ownership_lookedUp (s : Session σ δ) (id : Xid) :
    (s.lookedUp id).ownership = s.ownership := by
  rw [Session.lookedUp]
  split <;> rfl

/-- A call and a return, with the work of the callback between them. -/
lemma ends_calling {env : Environment σ δ} {vendor : VendorId} (callback : Callback δ)
    {work : SessionM σ δ callback.Answer} {s : Session σ δ}
    {post : callback.Answer → Session σ δ → Prop} {fault : Abort → Session σ δ → Prop} :
    Ends (env.calling vendor callback work) s post fault ↔
      Ends work (s.enter (.called vendor (env.registry.isInitialized vendor) callback))
        (fun answer t => post answer (t.enter (.returned vendor callback answer))) fault := by
  rw [Environment.calling, ends_bind, ends_record, ends_bind]
  exact Iff.rfl

/-! ### Effects -/

/-- The callbacks by which a vendor prepares for a generation and serves requests, apart from the
one that binds and releases contexts. -/
def Callback.IsPlain : Callback δ → Prop
  | init _ => True
  | closeDown _ => False
  | request _ => True
  | query .. => True
  | procedure .. => True
  | makeCurrent .. => False

/-- The events that concern no tag: plain callbacks of initialized vendors, questions to the window
system, notes, and the export calls about other things. -/
def Environment.Admits (env : Environment σ δ) : Event δ → Prop
  | .called vendor initialized callback =>
    initialized = true ∧ env.registry.isInitialized vendor = true ∧ callback.IsPlain
  | .returned _ callback _ => callback.IsPlain
  | .exported (.tagVendor ..) _ => False
  | .exported (.tagData ..) _ => False
  | .exported (.setTagData ..) _ => False
  | _ => True

/-- An export call that changed who owns a screen or a resource. -/
def Event.Transfers : Event δ → Prop
  | .exported (.setScreenVendor ..) (.ok ()) => True
  | .exported (.addXid ..) true => True
  | .exported (.removeXid _) _ => True
  | _ => False

/-- The private data, for a vendor that may own the tag. -/
def TagInfo.dataFor (e : TagInfo δ) (vendor : VendorId) : Option (Option δ) :=
  if e.owner = some vendor then some e.data else none

lemma ends_tagData {client : ClientId} {tag : ContextTag} {vendor : VendorId} {s : Session σ δ}
    {post : Option (Option δ) → Session σ δ → Prop} {fault : Abort → Session σ δ → Prop} :
    Ends (Environment.tagData client tag vendor) s post fault ↔
      post ((s.ownership.lookupTag client tag).bind fun e => e.dataFor vendor) s := by
  rw [Environment.tagData, ends_bind, ends_ownership]
  cases s.ownership.lookupTag client tag <;> rfl

/-- A resource gets an owner, or nothing happens. -/
lemma ends_addXid {env : Environment σ δ} {id : Xid} {vendor : VendorId} {s : Session σ δ}
    {post : Bool → Session σ δ → Prop} {fault : Abort → Session σ δ → Prop}
    (hadded : env.registry.contains vendor = true → (s.ownership.addXid id vendor).1 = true →
      post true (s.withOwnership (s.ownership.addXid id vendor).2))
    (hrefused : post false s) : Ends (env.addXid id vendor) s post fault := by
  rw [Environment.addXid]
  split_ifs with hv
  · rw [ends_bind, ends_ownership]
    dsimp only
    rw [ends_bind, ends_setOwnership]
    cases ha : (s.ownership.addXid id vendor).1 with
    | true => exact hadded hv ha
    | false =>
        rw [Ownership.addXid_of_fst_eq_false ha]
        exact hrefused
  · exact hrefused

lemma addXid_of_fst {env : Environment σ δ} {id : Xid} {v : VendorId} {s : Session σ δ}
    (hv : env.registry.contains v = true) (ha : (s.ownership.addXid id v).1 = true) :
    env.addXid id v s = .ok true (s.withOwnership (s.ownership.addXid id v).2) := by
  have hwork : env.addXid id v s =
      .ok (s.ownership.addXid id v).1 (s.withOwnership (s.ownership.addXid id v).2) := by
    rw [Environment.addXid, if_pos hv]
    rfl
  rwa [ha] at hwork

lemma addXid_of_not {env : Environment σ δ} {id : Xid} {v : VendorId} {s : Session σ δ}
    (h : ¬ (env.registry.contains v = true ∧ (s.ownership.addXid id v).1 = true)) :
    env.addXid id v s = .ok false s := by
  have hends : Ends (env.addXid id v) s (fun added t => added = false ∧ t = s) fun _ _ => False :=
    ends_addXid (fun hv ha => (h ⟨hv, ha⟩).elim) ⟨rfl, rfl⟩
  obtain ⟨_, _, hwork, rfl, rfl⟩ := hends.exists_ok
  exact hwork

/-- The answer to an export call. -/
def Event.IsExported : Event δ → Prop
  | .exported .. => True
  | _ => False

lemma Event.Transfers.isExported {e : Event δ} (h : e.Transfers) : e.IsExported := by
  cases e with
  | exported => trivial
  | called | returned | drawableAsked | resourceAsked | noted => exact h.elim

/-- An invariant of sessions that every export call keeps together with its entry in the journal,
whatever the call does, and every other event that concerns no tag. -/
structure Environment.Preserved (env : Environment σ δ) (I : Session σ δ → Prop) : Prop where
  withWorld : ∀ s w, I s → I (s.withWorld w)
  enter : ∀ s e, env.Admits e → ¬ e.IsExported → I s → I (s.enter e)
  exported : ∀ request s, I s →
    Ends (env.perform request) s (fun answer t => I (t.enter (.exported request answer))) fun _ => I

/-- An invariant of sessions that every effect of an export call keeps together with its entry in
the journal, and every other event that concerns no tag. -/
structure Environment.Upheld (env : Environment σ δ) (I : Session σ δ → Prop) : Prop where
  withWorld : ∀ s w, I s → I (s.withWorld w)
  enter : ∀ s e, env.Admits e → ¬ e.Transfers → I s → I (s.enter e)
  setScreenVendor : ∀ s screen vendor o, env.registry.isInitialized vendor = true →
    s.ownership.setScreenVendor? screen vendor = some o → I s →
    I ((s.withOwnership o).enter (.exported (.setScreenVendor screen vendor) (.ok ())))
  addXid : ∀ s id vendor, env.registry.contains vendor = true →
    (s.ownership.addXid id vendor).1 = true → I s →
    I ((s.withOwnership (s.ownership.addXid id vendor).2).enter
      (.exported (.addXid id vendor) true))
  removeXid : ∀ s id, I s →
    I ((s.withOwnership (s.ownership.removeXid id)).enter (.exported (.removeXid id) ()))
  tagVendor : ∀ s client tag, I s →
    I (s.enter (.exported (.tagVendor client tag)
      ((s.ownership.lookupTag client tag).bind TagInfo.owner)))
  tagData : ∀ s client tag vendor, I s →
    I (s.enter (.exported (.tagData client tag vendor)
      ((s.ownership.lookupTag client tag).bind fun e => e.dataFor vendor)))
  setTagData : ∀ s client tag vendor data,
    ((s.ownership.lookupTag client tag).bind TagInfo.owner) = some vendor → I s →
    I ((s.withOwnership (s.ownership.modifyTags client fun t =>
      t.modify tag fun e => { e with data })).enter
        (.exported (.setTagData client tag vendor data) true))
  touchTags : ∀ s client tag vendor data,
    ((s.ownership.lookupTag client tag).bind TagInfo.owner) ≠ some vendor → I s →
    I ((s.withOwnership (s.ownership.modifyTags client id)).enter
      (.exported (.setTagData client tag vendor data) false))

/-- An invariant of sessions that every effect of the exports keeps, and every event that concerns
no tag. -/
structure Environment.Kept (env : Environment σ δ) (I : Session σ δ → Prop) : Prop where
  withWorld : ∀ s w, I s → I (s.withWorld w)
  enter : ∀ s e, env.Admits e → I s → I (s.enter e)
  setScreenVendor : ∀ s screen vendor o, env.registry.isInitialized vendor = true →
    s.ownership.setScreenVendor? screen vendor = some o → I s → I (s.withOwnership o)
  addXid : ∀ s id vendor, env.registry.contains vendor = true → I s →
    I (s.withOwnership (s.ownership.addXid id vendor).2)
  removeXid : ∀ s id, I s → I (s.withOwnership (s.ownership.removeXid id))
  tagVendor : ∀ s client tag, I s →
    I (s.enter (.exported (.tagVendor client tag)
      ((s.ownership.lookupTag client tag).bind TagInfo.owner)))
  tagData : ∀ s client tag vendor, I s →
    I (s.enter (.exported (.tagData client tag vendor)
      ((s.ownership.lookupTag client tag).bind fun e => e.dataFor vendor)))
  setTagData : ∀ s client tag vendor data,
    ((s.ownership.lookupTag client tag).bind TagInfo.owner) = some vendor → I s →
    I ((s.withOwnership (s.ownership.modifyTags client fun t =>
      t.modify tag fun e => { e with data })).enter
        (.exported (.setTagData client tag vendor data) true))
  touchTags : ∀ s client tag vendor data,
    ((s.ownership.lookupTag client tag).bind TagInfo.owner) ≠ some vendor → I s →
    I ((s.withOwnership (s.ownership.modifyTags client id)).enter
      (.exported (.setTagData client tag vendor data) false))

/-- What is kept step by step is kept by whole export calls. -/
lemma Environment.Kept.upheld {env : Environment σ δ} {I : Session σ δ → Prop} (h : env.Kept I) :
    env.Upheld I where
  withWorld := h.withWorld
  enter s e he _ hs := h.enter s e he hs
  setScreenVendor s i v o hv ho hs := h.enter _ _ trivial (h.setScreenVendor s i v o hv ho hs)
  addXid s id v hv _ hs := h.enter _ _ trivial (h.addXid s id v hv hs)
  removeXid s id hs := h.enter _ _ trivial (h.removeXid s id hs)
  tagVendor := h.tagVendor
  tagData := h.tagData
  setTagData := h.setTagData
  touchTags := h.touchTags

/-- What says nothing about the session. -/
lemma Environment.kept_const (env : Environment σ δ) (P : Prop) : env.Kept fun _ => P := by
  constructor <;> intros <;> assumption

/-- The events that the work of vendors enters into the journal: the ones that concern no tag, and
all export calls. -/
def Environment.Enters (env : Environment σ δ) (e : Event δ) : Prop :=
  env.Admits e ∨ ∃ request answer, e = .exported request answer

/-- An invariant of the journal alone. -/
lemma Environment.kept_journal (env : Environment σ δ) {P : List (Event δ) → Prop}
    (hP : ∀ e journal, env.Enters e → P journal → P (e :: journal)) :
    env.Kept fun s => P s.journal where
  withWorld _ _ h := h
  enter s e he h := hP e s.journal (.inl he) h
  setScreenVendor _ _ _ _ _ _ h := h
  addXid _ _ _ _ h := h
  removeXid _ _ h := h
  tagVendor s _ _ h := hP _ s.journal (.inr ⟨_, _, rfl⟩) h
  tagData s _ _ _ h := hP _ s.journal (.inr ⟨_, _, rfl⟩) h
  setTagData s _ _ _ _ _ h := hP _ s.journal (.inr ⟨_, _, rfl⟩) h
  touchTags s _ _ _ _ _ h := hP _ s.journal (.inr ⟨_, _, rfl⟩) h

namespace Environment.Kept

variable {env : Environment σ δ} {I : Session σ δ → Prop}

/-- Two invariants at once. -/
lemma and (h : env.Kept I) {J : Session σ δ → Prop} (h' : env.Kept J) :
    env.Kept fun s => I s ∧ J s where
  withWorld s w hs := ⟨h.withWorld s w hs.1, h'.withWorld s w hs.2⟩
  enter s e he hs := ⟨h.enter s e he hs.1, h'.enter s e he hs.2⟩
  setScreenVendor s i v o hv ho hs :=
    ⟨h.setScreenVendor s i v o hv ho hs.1, h'.setScreenVendor s i v o hv ho hs.2⟩
  addXid s id v hv hs := ⟨h.addXid s id v hv hs.1, h'.addXid s id v hv hs.2⟩
  removeXid s id hs := ⟨h.removeXid s id hs.1, h'.removeXid s id hs.2⟩
  tagVendor s c tag hs := ⟨h.tagVendor s c tag hs.1, h'.tagVendor s c tag hs.2⟩
  tagData s c tag v hs := ⟨h.tagData s c tag v hs.1, h'.tagData s c tag v hs.2⟩
  setTagData s c tag v d ho hs :=
    ⟨h.setTagData s c tag v d ho hs.1, h'.setTagData s c tag v d ho hs.2⟩
  touchTags s c tag v d ho hs := ⟨h.touchTags s c tag v d ho hs.1, h'.touchTags s c tag v d ho hs.2⟩

/-- An invariant with a parameter that stays the same. -/
lemma ofExists {ι : Sort*} {J : ι → Session σ δ → Prop} (h : ∀ i, env.Kept (J i)) :
    env.Kept fun s => ∃ i, J i s where
  withWorld s w := fun ⟨i, hs⟩ => ⟨i, (h i).withWorld s w hs⟩
  enter s e he := fun ⟨i, hs⟩ => ⟨i, (h i).enter s e he hs⟩
  setScreenVendor s n v o hv ho := fun ⟨i, hs⟩ => ⟨i, (h i).setScreenVendor s n v o hv ho hs⟩
  addXid s id v hv := fun ⟨i, hs⟩ => ⟨i, (h i).addXid s id v hv hs⟩
  removeXid s id := fun ⟨i, hs⟩ => ⟨i, (h i).removeXid s id hs⟩
  tagVendor s c tag := fun ⟨i, hs⟩ => ⟨i, (h i).tagVendor s c tag hs⟩
  tagData s c tag v := fun ⟨i, hs⟩ => ⟨i, (h i).tagData s c tag v hs⟩
  setTagData s c tag v d ho := fun ⟨i, hs⟩ => ⟨i, (h i).setTagData s c tag v d ho hs⟩
  touchTags s c tag v d ho := fun ⟨i, hs⟩ => ⟨i, (h i).touchTags s c tag v d ho hs⟩

/-- One of two invariants. -/
lemma or (h : env.Kept I) {J : Session σ δ → Prop} (h' : env.Kept J) :
    env.Kept fun s => I s ∨ J s where
  withWorld s w := .imp (h.withWorld s w) (h'.withWorld s w)
  enter s e he := .imp (h.enter s e he) (h'.enter s e he)
  setScreenVendor s i v o hv ho :=
    .imp (h.setScreenVendor s i v o hv ho) (h'.setScreenVendor s i v o hv ho)
  addXid s id v hv := .imp (h.addXid s id v hv) (h'.addXid s id v hv)
  removeXid s id := .imp (h.removeXid s id) (h'.removeXid s id)
  tagVendor s c tag := .imp (h.tagVendor s c tag) (h'.tagVendor s c tag)
  tagData s c tag v := .imp (h.tagData s c tag v) (h'.tagData s c tag v)
  setTagData s c tag v d ho := .imp (h.setTagData s c tag v d ho) (h'.setTagData s c tag v d ho)
  touchTags s c tag v d ho := .imp (h.touchTags s c tag v d ho) (h'.touchTags s c tag v d ho)

/-- The same invariant in other words. -/
lemma congr (h : env.Kept I) {J : Session σ δ → Prop} (hJ : ∀ s, I s ↔ J s) : env.Kept J := by
  have hIJ : I = J := funext fun s => propext (hJ s)
  exact hIJ ▸ h

lemma keeps_addXid (h : env.Kept I) (id : Xid) (vendor : VendorId) :
    Keeps I (env.addXid id vendor) := by
  intro s hs
  rw [Environment.addXid]
  split_ifs with h1
  · exact h.addXid _ _ _ h1 hs
  · exact hs

lemma keeps_removeXid (h : env.Kept I) (id : Xid) :
    Keeps I (Environment.removeXid id : SessionM σ δ Unit) :=
  fun _ hs => h.removeXid _ _ hs

end Environment.Kept

namespace Environment.Upheld

variable {env : Environment σ δ} {I : Session σ δ → Prop}

/-- An effect of the window system's answers, of which there is none but a journal entry. -/
lemma lookedUp (h : env.Upheld I) {s : Session σ δ} (id : Xid) (hs : I s) : I (s.lookedUp id) := by
  rw [Session.lookedUp]
  split
  · exact hs
  · exact h.enter _ _ trivial not_false hs

/-- A screen that changes its owner, or an error. -/
lemma ends_setScreenVendor (h : env.Upheld I) (screen : Nat) (vendor : VendorId)
    {s : Session σ δ} (hs : I s) :
    Ends (env.setScreenVendor screen vendor) s
      (fun answer t => I (t.enter (.exported (.setScreenVendor screen vendor) answer)))
      fun _ => I := by
  rw [Environment.setScreenVendor]
  split_ifs with h1 h2
  · exact h.enter s _ trivial not_false hs
  · exact h.enter s _ trivial not_false hs
  · rw [ends_bind, ends_world]
    split_ifs with h3
    · exact h.enter s _ trivial not_false hs
    · rw [ends_bind, ends_ownership]
      cases ho : s.ownership.setScreenVendor? screen vendor with
      | none => exact h.enter s _ trivial not_false hs
      | some o => exact h.setScreenVendor _ _ _ _ (by simpa using h2) ho hs

/-- A resource that gets an owner, or stays as it is. -/
lemma ends_addXid (h : env.Upheld I) (id : Xid) (vendor : VendorId) {s : Session σ δ} (hs : I s) :
    Ends (env.addXid id vendor) s
      (fun added t => I (t.enter (.exported (.addXid id vendor) added))) fun _ => I := by
  refine VendorDispatch.ends_addXid (fun hv ha => h.addXid s id vendor hv ha hs) ?_
  exact h.enter s _ trivial not_false hs

/-- A refused change of private data may leave a new table behind, but no tag in it. -/
lemma ends_setTagData (h : env.Upheld I) (client : ClientId) (tag : ContextTag) (vendor : VendorId)
    (data : Option δ) {s : Session σ δ} (hs : I s) :
    Ends (Environment.setTagData client tag vendor data) s
      (fun stored t => I (t.enter (.exported (.setTagData client tag vendor data) stored)))
      fun _ => I := by
  rw [Environment.setTagData, ends_bind, ends_ownership]
  by_cases ho : ((s.ownership.lookupTag client tag).bind TagInfo.owner) = some vendor
  · simp only [ho, if_true, decide_true, ends_bind, ends_setOwnership, ends_pure]
    exact h.setTagData _ _ _ _ _ ho hs
  · simp only [ho, if_false, decide_false, ends_bind, ends_setOwnership, ends_pure]
    exact h.touchTags _ _ _ _ _ ho hs

/-- An export call, entered into the journal with its answer. -/
lemma exported (h : env.Upheld I) (request : ExportCall δ) {s : Session σ δ} (hs : I s) :
    Ends (env.perform request) s (fun answer t => I (t.enter (.exported request answer)))
      fun _ => I := by
  cases request with
  | setScreenVendor screen vendor => exact h.ends_setScreenVendor screen vendor hs
  | addXid id vendor => exact h.ends_addXid id vendor hs
  | removeXid id => exact h.removeXid _ _ hs
  | xidVendor id => exact ends_vendorOfXid.mpr (h.enter _ _ trivial not_false (h.lookedUp id hs))
  | setTagData client tag vendor data => exact h.ends_setTagData client tag vendor data hs
  | lookupDrawable id access =>
      exact h.enter _ _ trivial not_false (h.enter _ _ trivial not_false hs)
  | legalNewResource id client =>
      exact h.enter _ _ trivial not_false (h.enter _ _ trivial not_false hs)
  | tagVendor client tag => exact h.tagVendor _ _ _ hs
  | tagData client tag vendor => exact ends_tagData.mpr (h.tagData _ _ _ _ hs)
  | screenVendor | errorBase | screenCount | isExiting =>
      exact h.enter _ _ trivial not_false hs

/-- What every effect keeps, every export call keeps. -/
lemma preserved (h : env.Upheld I) : env.Preserved I where
  withWorld := h.withWorld
  enter s e he hx hs := h.enter s e he (fun ht => hx ht.isExported) hs
  exported request _ hs := h.exported request hs

end Environment.Upheld

/-- A vendor with a handler of forwarded requests is initialized. -/
lemma Environment.isInitialized_of_requestHandler? {env : Environment σ δ} {vendor : VendorId}
    {handler : RequestHandler σ δ} (h : env.requestHandler? vendor = some handler) :
    env.registry.isInitialized vendor = true ∧
      ∃ v, env.registry.get? vendor = some v ∧ v.interface.handleRequest = some handler := by
  rw [Environment.requestHandler?, Option.bind_eq_some_iff] at h
  obtain ⟨v, hv, hh⟩ := h
  rw [Option.filter_eq_some_iff] at hv
  refine ⟨?_, v, hv.1, hh⟩
  rw [Registry.isInitialized, hv.1]
  exact hv.2

lemma Environment.requestHandler?_eq_none {env : Environment σ δ} {v : VendorId}
    (hv : env.registry.isInitialized v = false) :
    env.requestHandler? v = none := by
  cases hh : env.requestHandler? v with
  | none => rfl
  | some handler =>
      rw [(isInitialized_of_requestHandler? hh).1] at hv
      cases hv

namespace Environment.Preserved

variable {env : Environment σ δ} {I : Session σ δ → Prop}
  {forward : VendorId → Client → SessionM σ δ (Client × Except ProtocolError Unit)}

/-- A program keeps the invariant if forwarded requests do. -/
lemma runWith (h : env.Preserved I) (hf : ∀ v c, Keeps I (forward v c)) (p : Program σ δ α) :
    Keeps I (env.runWith forward p) := by
  induction p with
  | done a => exact .pure a
  | readWorld next ih => exact fun s hs => ends_bind.mpr (ih s.world s hs)
  | writeWorld w next ih => exact fun s hs => ends_bind.mpr (ih _ (h.withWorld s w hs))
  | note n next ih => exact fun s hs => ends_bind.mpr (ih _ (h.enter s _ trivial not_false hs))
  | call request next ih =>
      intro s hs
      rw [Environment.runWith, ends_bind]
      exact (h.exported request s hs).mono (fun answer t ht => ih answer _ ht) fun _ _ => id
  | forward vendor client next ih => exact (hf vendor client).bind ih
  | panic => exact .throw _

/-- A plain callback keeps the invariant if its work does. -/
lemma calling (h : env.Preserved I) {vendor : VendorId} (callback : Callback δ)
    (hv : env.registry.isInitialized vendor = true) (hc : callback.IsPlain)
    {work : SessionM σ δ callback.Answer} (hw : Keeps I work) :
    Keeps I (env.calling vendor callback work) := by
  intro s hs
  have hcalled : env.Admits (.called vendor (env.registry.isInitialized vendor) callback) :=
    ⟨hv, hv, hc⟩
  refine (ends_calling callback).mpr ((hw _ (h.enter _ _ hcalled not_false hs)).mono ?_
    fun _ _ => id)
  intro answer t ht
  exact h.enter _ (.returned vendor callback answer) hc not_false ht

lemma serveWith (h : env.Preserved I) (hf : ∀ v c, Keeps I (forward v c)) (vendor : VendorId)
    (client : Client) : Keeps I (env.serveWith forward vendor client) := by
  rw [Environment.serveWith]
  cases hh : env.requestHandler? vendor with
  | none => exact .pure _
  | some handler =>
      have hv := Environment.isInitialized_of_requestHandler? hh
      exact h.calling (.request client) hv.1 trivial (h.runWith hf _)

/-- Forwarded requests keep the invariant at every depth. -/
lemma forwardNested (h : env.Preserved I) :
    ∀ depth v c, Keeps I (env.forwardNested depth v c)
  | 0, _, _ => .throw _
  | depth + 1, v, c => h.serveWith (h.forwardNested depth) v c

/-- Every program keeps the invariant. -/
lemma interpret (h : env.Preserved I) (p : Program σ δ α) : Keeps I (env.interpret p) :=
  h.runWith (h.forwardNested env.nestingLimit) p

end Environment.Preserved

namespace Environment.Upheld

variable {env : Environment σ δ} {I : Session σ δ → Prop}

/-- A plain callback keeps the invariant if its work does. -/
lemma calling (h : env.Upheld I) {vendor : VendorId} (callback : Callback δ)
    (hv : env.registry.isInitialized vendor = true) (hc : callback.IsPlain)
    {work : SessionM σ δ callback.Answer} (hw : Keeps I work) :
    Keeps I (env.calling vendor callback work) :=
  h.preserved.calling callback hv hc hw

/-- Every program keeps the invariant. -/
lemma interpret (h : env.Upheld I) (p : Program σ δ α) : Keeps I (env.interpret p) :=
  h.preserved.interpret p

/-- Every forwarded request keeps the invariant. -/
lemma forward (h : env.Upheld I) (vendor : VendorId) (client : Client) :
    Keeps I (env.forward vendor client) :=
  h.preserved.serveWith (h.preserved.forwardNested env.nestingLimit) vendor client

end Environment.Upheld

/-- What has happened stays in the journal. -/
lemma interpret_extends (env : Environment σ δ) (p : Program σ δ α) (s : Session σ δ) :
    Ends (env.interpret p) s (fun _ t => s.journal <:+ t.journal)
      fun _ t => s.journal <:+ t.journal :=
  have hkept := env.kept_journal (P := fun journal => s.journal <:+ journal) fun e _ _ h =>
    h.trans (List.suffix_cons e _)
  hkept.upheld.interpret p s List.suffix_rfl

/-! ### What a program returns -/

/-- Whatever the program is told, it returns a value with `Q`. Of a forwarded request it may rely
on one thing: the client comes back with the id it was sent with. -/
def Program.Returns (Q : α → Prop) : Program σ δ α → Prop
  | .done a => Q a
  | .readWorld next => ∀ w, (next w).Returns Q
  | .writeWorld _ next => next.Returns Q
  | .note _ next => next.Returns Q
  | .call _ next => ∀ answer, (next answer).Returns Q
  | .forward _ client next => ∀ r, r.1.id = client.id → (next r).Returns Q
  | .panic => True

/-- The callbacks that are given a client leave its id alone. -/
structure VendorInterface.KeepsClient (i : VendorInterface σ δ) : Prop where
  handleRequest : ∀ handler, i.handleRequest = some handler → ∀ c,
    (handler c).Returns fun r => r.1.id = c.id
  makeCurrent : ∀ handler, i.makeCurrent = some handler → ∀ c q,
    (handler c q).Returns fun r => r.1.id = c.id

/-- All registered vendors leave the id of the client alone. -/
def Registry.KeepsClient (r : Registry σ δ) : Prop :=
  ∀ v i, r.interface? v = some i → i.KeepsClient

section Returns

variable {env : Environment σ δ} {Q : α → Prop}
  {forward : VendorId → Client → SessionM σ δ (Client × Except ProtocolError Unit)}

lemma runWith_returns
    (hf : ∀ v c s, Ends (forward v c) s (fun r _ => r.1.id = c.id) fun _ _ => True)
    {p : Program σ δ α} (hp : p.Returns Q) (s : Session σ δ) :
    Ends (env.runWith forward p) s (fun a _ => Q a) fun _ _ => True := by
  induction p generalizing s with
  | done a => exact hp
  | readWorld next ih => exact ends_bind.mpr (ih s.world (hp s.world) s)
  | writeWorld w next ih => exact ends_bind.mpr (ih hp _)
  | note n next ih => exact ends_bind.mpr (ih hp _)
  | call request next ih =>
      rw [Environment.runWith, ends_bind, Ends]
      cases env.perform request s with
      | ok answer t => exact ih answer (hp answer) _
      | error e t => trivial
  | forward vendor client next ih =>
      rw [Environment.runWith, ends_bind]
      exact (hf vendor client s).mono (fun r t hr => ih r (hp r hr) t) fun _ _ => id
  | panic => trivial

lemma forwardNested_returns (hr : env.registry.KeepsClient) :
    ∀ depth v c s, Ends (env.forwardNested depth v c) s (fun r _ => r.1.id = c.id) fun _ _ => True
  | 0, _, _, _ => trivial
  | depth + 1, v, c, s => by
      rw [Environment.forwardNested, Environment.serveWith]
      cases hh : env.requestHandler? v with
      | none => rfl
      | some handler =>
          obtain ⟨-, w, hw, hi⟩ := Environment.isInitialized_of_requestHandler? hh
          have hw' : env.registry.interface? v = some w.interface := by
            rw [Registry.interface?, hw, Option.map_some]
          have hp := (hr v _ hw').handleRequest handler hi c
          exact (ends_calling (.request c)).mpr
            (runWith_returns (forwardNested_returns hr depth) hp _)

/-- What a program returns, among vendors that leave the id of the client alone. -/
lemma interpret_returns (hr : env.registry.KeepsClient) {p : Program σ δ α} (hp : p.Returns Q)
    (s : Session σ δ) : Ends (env.interpret p) s (fun a _ => Q a) fun _ _ => True :=
  runWith_returns (forwardNested_returns hr env.nestingLimit) hp s

end Returns

end VendorDispatch
