import VendorDispatch.Proofs.Callback
import VendorDispatch.Proofs.Registry

/-!
Two runs in step.

What the router does for a client may be compared with what it does elsewhere: for a client that
spells its numbers differently, among other clients, or after another past. The two runs go through
the same steps, and this module says so once for everything that vendors do.

* `InStep`: two pieces of work that take related states to related states, and are broken off
  together; `InStep.bind` carries that over to two pieces of work in a row.
* `Likeness`: which clients, worlds and events count as the same. Its fields say what the router
  relies on: clients that are alike have the same id and the same fields.
* `Likeness.Owned`: a relation of owners that the exports cannot tell apart.
* `Program.InStep`: two programs that make the same calls; `inStep_interpret` and `inStep_forward`
  run them, at any depth of nesting.
-/

namespace VendorDispatch

section InStep

variable {ε S α β γ η : Type}

/-- Two outcomes agree: both are values, related by `Q`, or both are broken off for the same
reason. The states that are left are related by `R`. -/
inductive Agree (R : S → S → Prop) (Q : α → β → Prop) :
    EStateM.Result ε S α → EStateM.Result ε S β → Prop
  | ok {a : α} {b : β} {s t : S} : Q a b → R s t → Agree R Q (.ok a s) (.ok b t)
  | error {e : ε} {s t : S} : R s t → Agree R Q (.error e s) (.error e t)

/-- The state that is left, whether or not the work was broken off. -/
def leftState : EStateM.Result ε S α → S
  | .ok _ s | .error _ s => s

/-- Outcomes that agree leave states that agree, also those that are broken off. -/
lemma Agree.leftState {R : S → S → Prop} {Q : α → β → Prop} {x : EStateM.Result ε S α}
    {y : EStateM.Result ε S β} (h : Agree R Q x y) : R (leftState x) (leftState y) := by
  cases h with
  | ok _ hst | error hst => exact hst

/-- Two pieces of work whose outcomes agree whenever they start from related states. -/
def InStep (R : S → S → Prop) (Q : α → β → Prop) (x : EStateM ε S α) (y : EStateM ε S β) : Prop :=
  ∀ s t, R s t → Agree R Q (x s) (y t)

namespace InStep

variable {R : S → S → Prop} {P : γ → η → Prop} {Q : α → β → Prop}

lemma pure {a : α} {b : β} (h : Q a b) :
    InStep R Q (pure a : EStateM ε S α) (pure b : EStateM ε S β) :=
  fun _ _ hst => .ok h hst

lemma throw (e : ε) : InStep R Q (throw e : EStateM ε S α) (throw e : EStateM ε S β) :=
  fun _ _ hst => .error hst

/-- Two pieces of work in a row stay in step if the second ones do on values that agree. -/
lemma bind {x : EStateM ε S γ} {y : EStateM ε S η} {f : γ → EStateM ε S α} {g : η → EStateM ε S β}
    (hx : InStep R P x y) (hf : ∀ a b, P a b → InStep R Q (f a) (g b)) :
    InStep R Q (x >>= f) (y >>= g) := by
  intro s t hst
  have hxy := hx s t hst
  simp only [Bind.bind, EStateM.bind]
  generalize x s = u at hxy
  generalize y t = v at hxy
  cases hxy with
  | ok hab h => exact hf _ _ hab _ _ h
  | error h => exact .error h

/-- Two pieces of work that follow the same value. -/
lemma bindSame {x y : EStateM ε S γ} {f : γ → EStateM ε S α} {g : γ → EStateM ε S β}
    (hx : InStep R Eq x y) (hf : ∀ a, InStep R Q (f a) (g a)) :
    InStep R Q (x >>= f) (y >>= g) :=
  hx.bind fun a _ hab => hab ▸ hf a

/-- Work whose value is not needed stays in step. -/
lemma discard {x : EStateM ε S γ} {y : EStateM ε S η} (hx : InStep R P x y) :
    InStep R Eq (discard x) (discard y) := by
  intro s t hst
  have hxy := hx s t hst
  simp only [Functor.discard, Functor.mapConst, Function.comp, EStateM.map]
  generalize x s = u at hxy
  generalize y t = v at hxy
  cases hxy with
  | ok _ h => exact .ok rfl h
  | error h => exact .error h

end InStep

end InStep

/-! ### What counts as the same -/

/-- The byte offsets of the fields of requests and replies: they follow the header. -/
def IsField (offset : Nat) : Prop := 4 ≤ offset ∧ 4 ∣ offset

instance (offset : Nat) : Decidable (IsField offset) :=
  inferInstanceAs (Decidable (4 ≤ offset ∧ 4 ∣ offset))

/-- What counts as the same in two runs of the router. -/
structure Likeness (σ : Type) where
  /-- The clients that count as the same. -/
  Alike : Client → Client → Prop
  /-- The worlds that count as the same. -/
  Worlds : σ → σ → Prop
  /-- The clients whose tags are the same. -/
  Shared : ClientId → Prop
  /-- Whether screens and resources may change their owners. -/
  Transfers : Prop
  id_eq : ∀ {c d}, Alike c d → c.id = d.id
  shared : ∀ {c d}, Alike c d → Shared c.id
  minorOpcode_eq : ∀ {c d}, Alike c d → c.minorOpcode = d.minorOpcode
  readWord_eq : ∀ {c d offset}, Alike c d → IsField offset →
    c.readWord offset = d.readWord offset
  blame : ∀ {c d} v, Alike c d → Alike { c with errorValue := v } { d with errorValue := v }
  restore : ∀ {c d c₀ d₀}, Alike c d → Alike c₀ d₀ →
    Alike { c with request := c₀.request } { d with request := d₀.request }
  reply : ∀ {c d fields}, Alike c d → (∀ f ∈ fields, IsField f.1) →
    Option.Rel (fun r u => Alike (c.writeReply r.bytes) (d.writeReply u.bytes))
      ((Reply.header c).putAll? fields) ((Reply.header d).putAll? fields)

variable {σ δ α β : Type}

/-- The same answer of a callback, about clients that are alike. -/
def Likeness.Answers (L : Likeness σ) (r u : Client × Except ProtocolError α) : Prop :=
  L.Alike r.1 u.1 ∧ r.2 = u.2

/-- The owners in two runs, as far as the exports can tell. -/
structure Likeness.Owned (L : Likeness σ) (O : Ownership δ → Ownership δ → Prop) : Prop where
  xids : ∀ {o p}, O o p → o.xids = p.xids
  screens : ∀ {o p}, O o p → o.screens = p.screens
  tagsOf? : ∀ {o p client}, O o p → L.Shared client → o.tagsOf? client = p.tagsOf? client
  withXids : ∀ {o p} xids, L.Transfers → O o p → O { o with xids } { p with xids }
  withScreens : ∀ {o p} screens, L.Transfers → O o p → O { o with screens } { p with screens }
  setTags : ∀ {o p client} table, L.Shared client → O o p →
    O (o.setTags client table) (p.setTags client table)

namespace Likeness.Owned

variable {L : Likeness σ} {O : Ownership δ → Ownership δ → Prop} (hO : L.Owned O)
  {o p : Ownership δ} {client : ClientId}

include hO

/-- Screens have the same owners in both. -/
lemma screenVendor (h : O o p) : o.screenVendor = p.screenVendor := by
  funext i
  rw [Ownership.screenVendor, hO.screens h, ← Ownership.screenVendor]

/-- Tags of a shared client are the same in both. -/
lemma lookupTag (h : O o p) (hc : L.Shared client) : o.lookupTag client = p.lookupTag client := by
  funext tag
  rw [Ownership.lookupTag, hO.tagsOf? h hc, ← Ownership.lookupTag]

lemma tagsOf (h : O o p) (hc : L.Shared client) : o.tagsOf client = p.tagsOf client := by
  rw [Ownership.tagsOf, hO.tagsOf? h hc, ← Ownership.tagsOf]

/-- Changing the tags of a shared client leaves owners that agree. -/
lemma modifyTags (h : O o p) (hc : L.Shared client) (f : TagTable δ → TagTable δ) :
    O (o.modifyTags client f) (p.modifyTags client f) := by
  rw [Ownership.modifyTags, Ownership.modifyTags, hO.tagsOf h hc]
  exact hO.setTags _ hc h

end Likeness.Owned

/-! ### Events -/

/-- Callbacks with the same arguments, and how their answers compare. The callbacks by which a
generation starts and ends are not among them. -/
inductive Callback.Like (L : Likeness σ) :
    (a b : Callback δ) → (a.Answer → b.Answer → Prop) → Prop
  | request {c d : Client} : L.Alike c d → Like L (.request c) (.request d) L.Answers
  | query (minor : UInt8) (code : UInt32) : Like L (.query minor code) (.query minor code) Eq
  | procedure {c d : Client} (minor : UInt8) (code : UInt32) : L.Alike c d →
    Like L (.procedure minor code c) (.procedure minor code d) L.Answers
  | makeCurrent {c d : Client} (q : MakeCurrentRequest δ) : L.Alike c d →
    Like L (.makeCurrent c q) (.makeCurrent d q) L.Answers

/-- The same event, about clients that are alike. -/
inductive Event.Like (L : Likeness σ) : Event δ → Event δ → Prop
  | called {a b : Callback δ} {Q : a.Answer → b.Answer → Prop} (v : VendorId) (i : Bool) :
    Callback.Like L a b Q → Like L (.called v i a) (.called v i b)
  | returned {a b : Callback δ} {Q : a.Answer → b.Answer → Prop} {r : a.Answer} {u : b.Answer}
    (v : VendorId) : Callback.Like L a b Q → Q r u → Like L (.returned v a r) (.returned v b u)
  | drawableAsked (id : Xid) (access : AccessMode) :
    Like L (.drawableAsked id access) (.drawableAsked id access)
  | resourceAsked (id : Xid) (client : ClientId) :
    Like L (.resourceAsked id client) (.resourceAsked id client)
  | exported (request : ExportCall δ) (answer : request.Answer) :
    Like L (.exported request answer) (.exported request answer)
  | legalAsked {c d : Client} (id : Xid) (answer : Bool) : L.Alike c d →
    Like L (.exported (.legalNewResource id c) answer) (.exported (.legalNewResource id d) answer)
  | noted (n : δ) : Like L (.noted n) (.noted n)

/-- The sessions of two runs. -/
structure Likeness.Sessions (L : Likeness σ) (O : Ownership δ → Ownership δ → Prop)
    (s t : Session σ δ) : Prop where
  world : L.Worlds s.world t.world
  ownership : O s.ownership t.ownership
  journal : List.Forall₂ (Event.Like L) s.journal t.journal

/-! ### Vendors and the window system -/

/-- An export call that both runs may make: it is about clients whose tags are the same, and changes
owners only if it may. -/
def ExportCall.Within (L : Likeness σ) : ExportCall δ → Prop
  | .setScreenVendor .. | .addXid .. | .removeXid _ => L.Transfers
  | .tagVendor client _ | .tagData client _ _ | .setTagData client _ _ _ => L.Shared client
  | .legalNewResource .. => False
  | _ => True

/-- Two programs that make the same calls and return values related by `Q`. The world may also be
read or replaced in one run alone, if the other cannot tell. -/
inductive Program.InStep (L : Likeness σ) (Q : α → α → Prop) :
    Program σ δ α → Program σ δ α → Prop
  | done {a b : α} : Q a b → InStep L Q (.done a) (.done b)
  | readWorld {f g : σ → Program σ δ α} : (∀ w v, L.Worlds w v → InStep L Q (f w) (g v)) →
    InStep L Q (.readWorld f) (.readWorld g)
  | readLeft {f : σ → Program σ δ α} {q : Program σ δ α} :
    (∀ w v, L.Worlds w v → InStep L Q (f w) q) → InStep L Q (.readWorld f) q
  | readRight {p : Program σ δ α} {g : σ → Program σ δ α} :
    (∀ w v, L.Worlds w v → InStep L Q p (g v)) → InStep L Q p (.readWorld g)
  | writeWorld {w v : σ} {p q : Program σ δ α} : L.Worlds w v → InStep L Q p q →
    InStep L Q (.writeWorld w p) (.writeWorld v q)
  | writeLeft {w : σ} {p q : Program σ δ α} : (∀ u v, L.Worlds u v → L.Worlds w v) →
    InStep L Q p q → InStep L Q (.writeWorld w p) q
  | writeRight {v : σ} {p q : Program σ δ α} : (∀ u w, L.Worlds u w → L.Worlds u v) →
    InStep L Q p q → InStep L Q p (.writeWorld v q)
  | note (n : δ) {p q : Program σ δ α} : InStep L Q p q → InStep L Q (.note n p) (.note n q)
  | call {request : ExportCall δ} {f g : request.Answer → Program σ δ α} : request.Within L →
    (∀ answer, InStep L Q (f answer) (g answer)) → InStep L Q (.call request f) (.call request g)
  | legal {id : Xid} {c d : Client} {f g : Bool → Program σ δ α} : L.Alike c d →
    (∀ answer, InStep L Q (f answer) (g answer)) →
    InStep L Q (.call (.legalNewResource id c) f) (.call (.legalNewResource id d) g)
  | forward (v : VendorId) {c d : Client}
    {f g : Client × Except ProtocolError Unit → Program σ δ α} : L.Alike c d →
    (∀ r u, L.Answers r u → InStep L Q (f r) (g u)) →
    InStep L Q (.forward v c f) (.forward v d g)
  | panic : InStep L Q .panic .panic

/-- The window system answers the same. -/
structure WindowSystem.Respects (L : Likeness σ) (host : WindowSystem σ) : Prop where
  screenCount : ∀ {w v}, L.Worlds w v → host.screenCount w = host.screenCount v
  lookupDrawable : ∀ {w v}, L.Worlds w v → host.lookupDrawable w = host.lookupDrawable v
  legalNewResource : ∀ {w v c d} id, L.Worlds w v → L.Alike c d →
    host.legalNewResource w id c = host.legalNewResource v id d
  isExiting : ∀ {w v}, L.Worlds w v → host.isExiting w = host.isExiting v

/-- A handler of requests does the same for clients that are alike. -/
def RequestHandler.Respects (L : Likeness σ) (handler : RequestHandler σ δ) : Prop :=
  ∀ c d, L.Alike c d → (handler c).InStep L L.Answers (handler d)

/-- The callbacks that are given a client do the same for clients that are alike. -/
structure VendorInterface.Respects (L : Likeness σ) (i : VendorInterface σ δ) : Prop where
  handleRequest : ∀ handler, i.handleRequest = some handler →
    RequestHandler.Respects L handler
  makeCurrent : ∀ handler, i.makeCurrent = some handler → ∀ c d q, L.Alike c d →
    (handler c q).InStep L L.Answers (handler d q)

/-- Registries that look-ups cannot tell apart. -/
structure Registry.Same (r u : Registry σ δ) : Prop where
  get? : ∀ v, u.get? v = r.get? v
  active : u.active = r.active

namespace Registry.Same

variable {r u : Registry σ δ} (h : r.Same u)

lemma refl (r : Registry σ δ) : r.Same r := ⟨fun _ => rfl, rfl⟩

include h

/-- The same vendors are registered. -/
lemma contains (v : VendorId) : u.contains v = r.contains v := by
  rw [Registry.contains, h.get?, ← Registry.contains]

/-- The same vendors are initialized. -/
lemma isInitialized (v : VendorId) : u.isInitialized v = r.isInitialized v := by
  rw [Registry.isInitialized, h.get?, ← Registry.isInitialized]

/-- They have the same callbacks. -/
lemma interface? (v : VendorId) : u.interface? v = r.interface? v := by
  rw [Registry.interface?, h.get?, ← Registry.interface?]

end Registry.Same

/-- The environments of two runs. -/
structure Environment.Like (L : Likeness σ) (e f : Environment σ δ) : Prop where
  host : f.host = e.host
  errorBase : f.errorBase = e.errorBase
  nestingLimit : f.nestingLimit = e.nestingLimit
  registry : e.registry.Same f.registry
  respects : e.host.Respects L
  vendors : e.registry.Every (VendorInterface.Respects L)

namespace Environment.Like

variable {L : Likeness σ} {e f : Environment σ δ} (h : e.Like L f)

include h

/-- The same vendor handles a request in both runs. -/
lemma requestHandler? (v : VendorId) : f.requestHandler? v = e.requestHandler? v := by
  rw [Environment.requestHandler?, h.registry.get?, ← Environment.requestHandler?]

/-- The same vendor is asked to bind in both runs. -/
lemma makeCurrentHandler? (v : VendorId) : f.makeCurrentHandler? v = e.makeCurrentHandler? v := by
  rw [Environment.makeCurrentHandler?, h.registry.interface?, ← Environment.makeCurrentHandler?]

/-- A vendor that handles requests respects the likeness. -/
lemma respects_requestHandler {v : VendorId} {handler : RequestHandler σ δ}
    (hh : e.requestHandler? v = some handler) : handler.Respects L := by
  obtain ⟨-, w, hw, hi⟩ := Environment.isInitialized_of_requestHandler? hh
  have hv : e.registry.interface? v = some w.interface := by
    rw [Registry.interface?, hw, Option.map_some]
  exact (h.vendors v _ hv).handleRequest handler hi

/-- A vendor that is asked to bind respects the likeness. -/
lemma respects_makeCurrentHandler {v : VendorId} {handler : MakeCurrentHandler σ δ}
    (hh : e.makeCurrentHandler? v = some handler) {c d : Client} (q : MakeCurrentRequest δ)
    (hcd : L.Alike c d) : (handler c q).InStep L L.Answers (handler d q) := by
  obtain ⟨i, hv, hi⟩ := Option.bind_eq_some_iff.mp hh
  exact (h.vendors v i hv).makeCurrent handler hi c d q hcd

end Environment.Like

namespace Program.InStep

variable {L : Likeness σ} {P : α → α → Prop} {Q : β → β → Prop}

/-- Programs in a row. -/
lemma bind {p q : Program σ δ α} {f g : α → Program σ δ β} (h : p.InStep L P q)
    (hf : ∀ a b, P a b → (f a).InStep L Q (g b)) : (p.bind f).InStep L Q (q.bind g) := by
  induction h with
  | done hab => exact hf _ _ hab
  | readWorld _ ih => exact .readWorld fun w v hwv => ih w v hwv
  | readLeft _ ih => exact .readLeft fun w v hwv => ih w v hwv
  | readRight _ ih => exact .readRight fun w v hwv => ih w v hwv
  | writeWorld hwv _ ih => exact .writeWorld hwv ih
  | writeLeft hw _ ih => exact .writeLeft hw ih
  | writeRight hv _ ih => exact .writeRight hv ih
  | note n _ ih => exact .note n ih
  | call hw _ ih => exact .call hw ih
  | legal hcd _ ih => exact .legal hcd ih
  | forward v hcd _ ih => exact .forward v hcd ih
  | panic => exact .panic

/-- Programs in step may be told to agree on less. -/
lemma mono {Q : α → α → Prop} {p q : Program σ δ α} (h : p.InStep L P q)
    (hQ : ∀ a b, P a b → Q a b) : p.InStep L Q q := by
  have hbind := h.bind (f := .done) (g := .done) fun a b hab => .done (hQ a b hab)
  rwa [Program.bind_done, Program.bind_done] at hbind

/-- A field of the request is the same number. -/
lemma readField {c d : Client} {offset : Nat} (hcd : L.Alike c d) (ho : IsField offset) :
    (Program.readField c offset : Program σ δ _).InStep L Eq (Program.readField d offset) := by
  rw [Program.readField, Program.readField, L.readWord_eq hcd ho]
  split_ifs
  · exact .done rfl
  · exact .panic

/-- Replies with the same fields. -/
lemma sendReply {c d : Client} {fields : List (Nat × UInt32)} (hcd : L.Alike c d)
    (hf : ∀ f ∈ fields, IsField f.1) :
    (Program.sendReply c fields : Program σ δ _).InStep L L.Alike (Program.sendReply d fields) := by
  rw [Program.sendReply, Program.sendReply]
  have hreply := L.reply hcd hf
  generalize (Reply.header c).putAll? fields = r at hreply
  generalize (Reply.header d).putAll? fields = u at hreply
  cases hreply with
  | some h => exact .done h
  | none => exact .panic

end Program.InStep

/-! ### Work on a session -/

section Session

variable {L : Likeness σ} {O : Ownership δ → Ownership δ → Prop} {e f : Environment σ δ}

/-- Events that are alike are entered in step. -/
lemma inStep_record {a b : Event δ} (h : Event.Like L a b) :
    InStep (L.Sessions O) Eq (SessionM.record a : SessionM σ δ Unit) (SessionM.record b) :=
  fun _ _ hst => .ok rfl ⟨hst.world, hst.ownership, .cons h hst.journal⟩

lemma inStep_world :
    InStep (L.Sessions O) L.Worlds (SessionM.world : SessionM σ δ σ) SessionM.world :=
  fun _ _ hst => .ok hst.world hst

lemma inStep_setWorld {w v : σ} (h : L.Worlds w v) :
    InStep (L.Sessions O) Eq (SessionM.setWorld w : SessionM σ δ Unit) (SessionM.setWorld v) :=
  fun _ _ hst => .ok rfl ⟨h, hst.ownership, hst.journal⟩

lemma inStep_ownership :
    InStep (L.Sessions O) O (SessionM.ownership : SessionM σ δ (Ownership δ))
      SessionM.ownership :=
  fun _ _ hst => .ok hst.ownership hst

lemma inStep_setOwnership {o p : Ownership δ} (h : O o p) :
    InStep (L.Sessions O) Eq (SessionM.setOwnership o : SessionM σ δ Unit)
      (SessionM.setOwnership p) :=
  fun _ _ hst => .ok rfl ⟨hst.world, h, hst.journal⟩

section Window

variable (h : e.Like L f)

include h

/-- The window system is asked for a drawable in step. -/
lemma inStep_lookupDrawable (id : Xid) (access : AccessMode) :
    InStep (L.Sessions O) Eq (e.lookupDrawable id access) (f.lookupDrawable id access) := by
  refine (inStep_record (.drawableAsked id access)).bindSame fun _ =>
    inStep_world.bind fun w v hwv => .pure ?_
  rw [h.host, h.respects.lookupDrawable hwv]

/-- The window system is asked about a new resource in step. -/
lemma inStep_legalNewResource (id : Xid) {c d : Client} (hcd : L.Alike c d) :
    InStep (L.Sessions O) Eq (e.legalNewResource id c) (f.legalNewResource id d) := by
  rw [Environment.legalNewResource, Environment.legalNewResource, L.id_eq hcd]
  refine (inStep_record (.resourceAsked id d.id)).bindSame fun _ =>
    inStep_world.bind fun w v hwv => .pure ?_
  rw [h.host, h.respects.legalNewResource id hwv hcd]

end Window

section Exports

variable (h : e.Like L f) (hO : L.Owned O)

include hO

/-- A resource is removed in step, in runs that may change owners. -/
lemma inStep_removeXid (ht : L.Transfers) (id : Xid) :
    InStep (L.Sessions O) Eq (Environment.removeXid id : SessionM σ δ Unit)
      (Environment.removeXid id) := by
  refine inStep_ownership.bind fun o p ho => inStep_setOwnership ?_
  rw [Ownership.removeXid, Ownership.removeXid, hO.xids ho]
  exact hO.withXids _ ht ho

/-- The owner of a tag is told in step. -/
lemma inStep_vendorOfTag {client : ClientId} (hc : L.Shared client) (tag : ContextTag) :
    InStep (L.Sessions O) Eq (Environment.vendorOfTag client tag : SessionM σ δ _)
      (Environment.vendorOfTag client tag) := by
  refine inStep_ownership.bind fun o p ho => .pure ?_
  rw [hO.lookupTag ho hc]

/-- Private data is told in step. -/
lemma inStep_tagData {client : ClientId} (hc : L.Shared client) (tag : ContextTag)
    (vendor : VendorId) :
    InStep (L.Sessions O) Eq (Environment.tagData client tag vendor : SessionM σ δ _)
      (Environment.tagData client tag vendor) := by
  refine inStep_ownership.bind fun o p ho => ?_
  rw [hO.lookupTag ho hc]
  cases p.lookupTag client tag <;> exact .pure rfl

/-- Private data is stored in step. -/
lemma inStep_setTagData {client : ClientId} (hc : L.Shared client) (tag : ContextTag)
    (vendor : VendorId) (data : Option δ) :
    InStep (L.Sessions O) Eq (Environment.setTagData client tag vendor data : SessionM σ δ _)
      (Environment.setTagData client tag vendor data) := by
  refine inStep_ownership.bind fun o p ho => ?_
  rw [hO.lookupTag ho hc]
  exact (inStep_setOwnership (hO.modifyTags ho hc _)).bindSame fun _ => .pure rfl

include h

/-- The owner of a resource is found in step. -/
lemma inStep_vendorOfXid (id : Xid) :
    InStep (L.Sessions O) Eq (e.vendorOfXid id) (f.vendorOfXid id) := by
  refine inStep_ownership.bind fun o p ho => ?_
  rw [hO.xids ho]
  cases p.xids.get? id with
  | some vendor => exact .pure rfl
  | none =>
      refine (inStep_lookupDrawable h id _).bindSame fun screen =>
        inStep_ownership.bind fun o p ho => .pure ?_
      rw [hO.screenVendor ho]

/-- A screen is assigned in step, in runs that may change owners. -/
lemma inStep_setScreenVendor (ht : L.Transfers) (screen : Nat) (vendor : VendorId) :
    InStep (L.Sessions O) Eq (e.setScreenVendor screen vendor)
      (f.setScreenVendor screen vendor) := by
  rw [Environment.setScreenVendor, Environment.setScreenVendor, h.registry.contains,
    h.registry.isInitialized, h.host]
  split_ifs
  · exact .pure rfl
  · exact .pure rfl
  · refine inStep_world.bind fun w v hwv => ?_
    rw [h.respects.screenCount hwv]
    split_ifs
    · exact .pure rfl
    · refine inStep_ownership.bind fun o p ho => ?_
      rw [Ownership.setScreenVendor?, Ownership.setScreenVendor?, hO.screens ho]
      by_cases hs : screen < p.screens.length
      · simp only [if_pos hs]
        exact (inStep_setOwnership (hO.withScreens _ ht ho)).bindSame fun _ => .pure rfl
      · simp only [if_neg hs]
        exact .pure rfl

/-- A resource is recorded in step, in runs that may change owners. -/
lemma inStep_addXid (ht : L.Transfers) (id : Xid) (vendor : VendorId) :
    InStep (L.Sessions O) Eq (e.addXid id vendor) (f.addXid id vendor) := by
  rw [Environment.addXid, Environment.addXid, h.registry.contains]
  split_ifs
  · refine inStep_ownership.bind fun o p ho => ?_
    rw [Ownership.addXid, Ownership.addXid, hO.xids ho]
    split_ifs
    · exact (inStep_setOwnership ho).bindSame fun _ => .pure rfl
    · exact (inStep_setOwnership (hO.withXids _ ht ho)).bindSame fun _ => .pure rfl
  · exact .pure rfl

/-- An export call that both runs may make. -/
lemma inStep_perform {request : ExportCall δ} (hr : request.Within L) :
    InStep (L.Sessions O) Eq (e.perform request) (f.perform request) := by
  cases request with
  | setScreenVendor screen vendor => exact inStep_setScreenVendor h hO hr screen vendor
  | screenVendor screen =>
      refine inStep_ownership.bind fun o p ho => .pure ?_
      rw [hO.screenVendor ho]
  | addXid id vendor => exact inStep_addXid h hO hr id vendor
  | xidVendor id => exact inStep_vendorOfXid h hO id
  | removeXid id => exact inStep_removeXid hO hr id
  | tagVendor client tag => exact inStep_vendorOfTag hO hr tag
  | tagData client tag vendor => exact inStep_tagData hO hr tag vendor
  | setTagData client tag vendor data => exact inStep_setTagData hO hr tag vendor data
  | errorBase => exact .pure h.errorBase.symm
  | screenCount =>
      refine inStep_world.bind fun w v hwv => .pure ?_
      rw [h.host]
      exact h.respects.screenCount hwv
  | isExiting =>
      refine inStep_world.bind fun w v hwv => .pure ?_
      rw [h.host]
      exact h.respects.isExiting hwv
  | lookupDrawable id access => exact inStep_lookupDrawable h id access
  | legalNewResource id client => exact hr.elim

end Exports

/-! ### Programs -/

/-- A call and a return, with the work of the callback between them. -/
lemma inStep_calling (h : e.Like L f) {a b : Callback δ} {Q : a.Answer → b.Answer → Prop}
    (v : VendorId) (hab : Callback.Like L a b Q) {x : SessionM σ δ a.Answer}
    {y : SessionM σ δ b.Answer} (hxy : InStep (L.Sessions O) Q x y) :
    InStep (L.Sessions O) Q (e.calling v a x) (f.calling v b y) := by
  rw [Environment.calling, Environment.calling, h.registry.isInitialized]
  exact (inStep_record (.called v _ hab)).bindSame fun _ => hxy.bind fun r u hru =>
    (inStep_record (.returned v hab hru)).bindSame fun _ => .pure hru

section Programs

variable {forward forward' : VendorId → Client → SessionM σ δ (Client × Except ProtocolError Unit)}
  (h : e.Like L f) (hO : L.Owned O)

include h hO

/-- Programs in step run in step, if forwarded requests do. -/
lemma inStep_runWith
    (hf : ∀ v c d, L.Alike c d → InStep (L.Sessions O) L.Answers (forward v c) (forward' v d))
    {Q : α → α → Prop} {p q : Program σ δ α} (hpq : p.InStep L Q q) :
    InStep (L.Sessions O) Q (e.runWith forward p) (f.runWith forward' q) := by
  induction hpq with
  | done hab => exact .pure hab
  | readWorld _ ih => exact inStep_world.bind ih
  | readLeft _ ih => exact fun s t hst => ih _ _ hst.world s t hst
  | readRight _ ih => exact fun s t hst => ih _ _ hst.world s t hst
  | writeWorld hwv _ ih => exact (inStep_setWorld hwv).bindSame fun _ => ih
  | writeLeft hw _ ih =>
      exact fun s t hst => ih _ t ⟨hw _ _ hst.world, hst.ownership, hst.journal⟩
  | writeRight hv _ ih =>
      exact fun s t hst => ih s _ ⟨hv _ _ hst.world, hst.ownership, hst.journal⟩
  | note n _ ih => exact (inStep_record (.noted n)).bindSame fun _ => ih
  | @call request _ _ hr _ ih =>
      exact (inStep_perform h hO hr).bindSame fun answer =>
        (inStep_record (.exported request answer)).bindSame fun _ => ih answer
  | legal hcd _ ih =>
      exact (inStep_legalNewResource h _ hcd).bindSame fun answer =>
        (inStep_record (.legalAsked _ answer hcd)).bindSame fun _ => ih answer
  | forward v hcd _ ih => exact (hf v _ _ hcd).bind ih
  | panic => exact .throw _

/-- Handing on a request that both runs hand on. -/
lemma inStep_serveWith
    (hf : ∀ v c d, L.Alike c d → InStep (L.Sessions O) L.Answers (forward v c) (forward' v d))
    (v : VendorId) {c d : Client} (hcd : L.Alike c d) :
    InStep (L.Sessions O) L.Answers (e.serveWith forward v c) (f.serveWith forward' v d) := by
  rw [Environment.serveWith, Environment.serveWith, h.requestHandler?]
  cases hh : e.requestHandler? v with
  | none => exact .pure ⟨hcd, rfl⟩
  | some handler =>
      have hrun := (h.respects_requestHandler hh) c d hcd
      exact inStep_calling h v (.request hcd) (inStep_runWith h hO hf hrun)

/-- A request is handed on in step, at any depth of nesting. -/
lemma inStep_forwardNested (depth : Nat) (v : VendorId) {c d : Client} (hcd : L.Alike c d) :
    InStep (L.Sessions O) L.Answers (e.forwardNested depth v c) (f.forwardNested depth v d) := by
  induction depth generalizing v c d with
  | zero => exact .throw _
  | succ depth ih => exact inStep_serveWith h hO (fun v _ _ hcd => ih v hcd) v hcd

/-- Programs in step run in step. -/
lemma inStep_interpret {Q : α → α → Prop} {p q : Program σ δ α} (hpq : p.InStep L Q q) :
    InStep (L.Sessions O) Q (e.interpret p) (f.interpret q) := by
  rw [Environment.interpret, Environment.interpret, h.nestingLimit]
  exact inStep_runWith h hO (fun v _ _ hcd => inStep_forwardNested h hO _ v hcd) hpq

/-- Vendors serve clients that are alike in step. -/
lemma inStep_forward (v : VendorId) {c d : Client} (hcd : L.Alike c d) :
    InStep (L.Sessions O) L.Answers (e.forward v c) (f.forward v d) := by
  rw [Environment.forward, Environment.forward, h.nestingLimit]
  exact inStep_serveWith h hO (fun v _ _ hcd => inStep_forwardNested h hO _ v hcd) v hcd

end Programs

end Session

/-! ### The same clients -/

/-- The same clients in both runs, out of those with the given ids. -/
def Likeness.among (K : ClientId → Prop) (Worlds : σ → σ → Prop) (Transfers : Prop) :
    Likeness σ where
  Alike c d := c = d ∧ K c.id
  Worlds := Worlds
  Shared := K
  Transfers := Transfers
  id_eq h := congrArg Client.id h.1
  shared h := h.2
  minorOpcode_eq h := congrArg Client.minorOpcode h.1
  readWord_eq h _ := by rw [h.1]
  blame v h := ⟨by rw [h.1], h.2⟩
  restore h h₀ := ⟨by rw [h.1, h₀.1], h.2⟩
  reply := by
    rintro c _ fields ⟨rfl, hc⟩ _
    cases (Reply.header c).putAll? fields with
    | none => exact .none
    | some r => exact .some ⟨rfl, hc⟩

section Among

variable {K : ClientId → Prop} {Worlds : σ → σ → Prop} {Transfers : Prop}

/-- Answers that are alike among equals are equal. -/
lemma Likeness.eq_of_answers {r u : Client × Except ProtocolError α}
    (h : (among K Worlds Transfers).Answers r u) : r = u :=
  Prod.ext h.1.1 h.2

/-- For the same clients, the same events. -/
lemma Event.Like.eq {a b : Event δ} (h : Event.Like (.among K Worlds Transfers) a b) : a = b := by
  cases h with
  | called v i hab =>
      cases hab with
      | request h | procedure _ _ h | makeCurrent _ h => rw [h.1]
      | query => rfl
  | returned v hab hru =>
      cases hab with
      | request h | procedure _ _ h | makeCurrent _ h =>
          obtain ⟨rfl, -⟩ := h
          rw [Likeness.eq_of_answers hru]
      | query => rw [hru]
  | legalAsked _ _ h => rw [h.1]
  | drawableAsked | resourceAsked | exported | noted => rfl

/-- Journals that are alike among equals are equal. -/
lemma Event.eq_of_forall₂_like {l m : List (Event δ)}
    (h : List.Forall₂ (Event.Like (.among K Worlds Transfers)) l m) : l = m :=
  List.forall₂_eq_eq_eq ▸ h.imp fun _ _ => Event.Like.eq

end Among

/-- Every client and every world is like itself alone. -/
def Likeness.equal : Likeness σ := .among (fun _ => True) Eq True

/-- The same owners are the same to everybody. -/
lemma Likeness.owned_eq (L : Likeness σ) : L.Owned (Eq : Ownership δ → Ownership δ → Prop) where
  xids h := congrArg Ownership.xids h
  screens h := congrArg Ownership.screens h
  tagsOf? h _ := by rw [h]
  withXids _ _ h := by rw [h]
  withScreens _ _ h := by rw [h]
  setTags _ _ h := by rw [h]

lemma Likeness.eq_of_sessions {s t : Session σ δ} (h : equal.Sessions Eq s t) : s = t := by
  obtain ⟨w, o, j⟩ := s
  obtain ⟨hw, ho, hj⟩ := h
  obtain rfl : w = t.world := hw
  obtain rfl : o = t.ownership := ho
  obtain rfl : j = t.journal := Event.eq_of_forall₂_like hj
  rfl

/-- Every program is in step with itself. -/
lemma Program.inStep_self (p : Program σ δ α) : p.InStep .equal Eq p := by
  induction p with
  | done a => exact .done rfl
  | readWorld next ih =>
      refine .readWorld ?_
      rintro w _ rfl
      exact ih w
  | writeWorld w next ih => exact .writeWorld rfl ih
  | note n next ih => exact .note n ih
  | call request next ih =>
      cases request with
      | legalNewResource id c => exact .legal ⟨rfl, trivial⟩ ih
      | _ => exact .call trivial ih
  | forward v c next ih =>
      refine .forward v ⟨rfl, trivial⟩ fun r u hru => ?_
      obtain rfl := Likeness.eq_of_answers hru
      exact ih r
  | panic => exact .panic

/-- Every vendor tells no two clients alike that are equal. -/
lemma RequestHandler.respects_equal (handler : RequestHandler σ δ) :
    RequestHandler.Respects .equal handler := by
  rintro c _ ⟨rfl, -⟩
  exact (handler c).inStep_self.mono fun r _ h => h ▸ ⟨⟨rfl, trivial⟩, rfl⟩

lemma VendorInterface.respects_equal (i : VendorInterface σ δ) : i.Respects .equal where
  handleRequest handler _ := handler.respects_equal
  makeCurrent := by
    rintro handler - c _ q ⟨rfl, -⟩
    exact (handler c q).inStep_self.mono fun r _ h => h ▸ ⟨⟨rfl, trivial⟩, rfl⟩

lemma WindowSystem.respects_equal (host : WindowSystem σ) : host.Respects .equal where
  screenCount h := congrArg host.screenCount h
  lookupDrawable h := congrArg host.lookupDrawable h
  legalNewResource id hw hc := by rw [hw, hc.1]
  isExiting h := congrArg host.isExiting h

/-- Environments with the same vendors, as far as look-ups can tell. -/
lemma Environment.like_equal {e f : Environment σ δ} (host : f.host = e.host)
    (errorBase : f.errorBase = e.errorBase) (nestingLimit : f.nestingLimit = e.nestingLimit)
    (registry : e.registry.Same f.registry) : e.Like .equal f :=
  ⟨host, errorBase, nestingLimit, registry, e.host.respects_equal, fun _ i _ => i.respects_equal⟩

end VendorDispatch
