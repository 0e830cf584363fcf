import VendorDispatch.Proofs.Registry
import VendorDispatch.Proofs.Service

/-!
Work that never panics.

* `Avoids`: work that never stops with a given fault, wherever it starts.
* `Program.NeverPanics`, `VendorInterface.NeverPanics`, `Registry.NeverPanics`: callbacks without a
  mistake, whatever they are told.
* `avoids_interpret`, `avoids_forward`, `avoids_ask`: among such vendors neither a program panics,
  nor a forwarded request, at any depth of nesting, nor the question to bind or to release.
* `avoids_broadcast`, `avoids_tagVendor`, `avoids_xidVendor`, `avoids_owner`: client information,
  and the ways to find the owner of a request.
-/

namespace VendorDispatch

variable {σ δ α β : Type}

/-! ### Faults that do not occur -/

section Avoids

variable {ε S : Type} {e : ε}

/-- Work that never stops with the fault, wherever it starts. -/
def Avoids (e : ε) (work : EStateM ε S α) : Prop :=
  ∀ s, Ends work s (fun _ _ => True) fun e' _ => e' ≠ e

lemma Avoids.pure (a : α) : Avoids e (pure a : EStateM ε S α) := fun _ => trivial

/-- Another fault is not this one. -/
lemma Avoids.throw {e' : ε} (h : e' ≠ e) : Avoids e (throw e' : EStateM ε S α) := fun _ => h

/-- Two pieces of work in a row stop with no fault that neither of them stops with. -/
lemma Avoids.bind {x : EStateM ε S β} {f : β → EStateM ε S α} (hx : Avoids e x)
    (hf : ∀ b, Avoids e (f b)) : Avoids e (x >>= f) :=
  fun s => ends_bind.mpr ((hx s).mono (fun b t _ => hf b t) fun _ _ => id)

/-- Work whose value is not needed stops with the same faults. -/
lemma Avoids.discard {x : EStateM ε S β} (hx : Avoids e x) : Avoids e (discard x) :=
  fun s => ends_discard.mpr (hx s)

end Avoids

/-- The fault of the work on a request that panics. -/
abbrev Fault.panicked : Fault := .abort .panicked

section Exchange

/-- An error answers the request, and is no panic. -/
lemma avoids_fail (e : ProtocolError) :
    Avoids .panicked (ExchangeM.fail e : ExchangeM σ δ α) := fun _ => nofun

/-- Neither is an error that names a value. -/
lemma avoids_failAt (v : UInt32) (e : ProtocolError) :
    Avoids .panicked (ExchangeM.failAt v e : ExchangeM σ δ α) := fun _ => nofun

lemma avoids_modifyClient (f : Client → Client) :
    Avoids .panicked (ExchangeM.modifyClient f : ExchangeM σ δ Unit) := fun _ => trivial

lemma avoids_modifyTags (f : TagTable δ → TagTable δ) :
    Avoids .panicked (ExchangeM.modifyTags f : ExchangeM σ δ Unit) := fun _ => trivial

lemma avoids_client : Avoids .panicked (ExchangeM.client : ExchangeM σ δ Client) :=
  fun _ => trivial

/-- A result that was computed before is no panic. -/
lemma avoids_ofExcept (r : Except ProtocolError α) :
    Avoids .panicked (ExchangeM.ofExcept r : ExchangeM σ δ α) := by
  cases r with
  | ok a => exact .pure a
  | error e => exact avoids_fail e

/-- The work on a request panics where the work on its session does. -/
lemma avoids_onSession {work : SessionM σ δ α} (h : Avoids .panicked work) :
    Avoids .panicked (ExchangeM.onSession work) := fun x =>
  ends_onSession.mpr ((h x.session).mono (fun _ _ => id) fun _ _ ha hf => ha (Fault.abort.inj hf))

/-- To show the client to a vendor panics where the vendor does. -/
lemma avoids_onClient {work : Client → SessionM σ δ (Client × Except ProtocolError α)}
    (h : ∀ c, Avoids .panicked (work c)) : Avoids .panicked (ExchangeM.onClient work) :=
  avoids_client.bind fun c => (avoids_onSession (h c)).bind fun r =>
    (avoids_modifyClient _).bind fun _ => avoids_ofExcept r.2

/-- To catch errors adds no panic. -/
lemma avoids_attempt {work : ExchangeM σ δ α} (h : Avoids .panicked work) :
    Avoids .panicked (ExchangeM.attempt work) := by
  refine fun x => ends_attempt.mpr ((h x).mono (fun _ _ => id) ?_)
  rintro (e | a) _ ha
  · trivial
  · exact ha

/-- Every field of a reply has room in it. -/
def Reply.HasRoom (fields : List (Nat × UInt32)) : Prop := ∀ f ∈ fields, f.1 + 4 ≤ size

/-- Fields that a reply has room for can all be put. -/
lemma Reply.isSome_putAll? {r : Reply} {fields : List (Nat × UInt32)} (h : HasRoom fields)
    (hr : r.bytes.length = size) : (r.putAll? fields).isSome = true := by
  induction fields generalizing r with
  | nil => rfl
  | cons f rest ih =>
      obtain ⟨s, hs⟩ := Option.isSome_iff_exists.mp
        (isSome_put?.mpr (hr.symm ▸ h f List.mem_cons_self) : (r.put? f.1 f.2).isSome)
      rw [putAll?, hs, Option.bind_some]
      exact ih (fun g hg => h g (List.mem_cons_of_mem _ hg)) ((length_put? hs).trans hr)

/-- A reply is sent if it has room for its fields. -/
lemma avoids_sendReply {fields : List (Nat × UInt32)} (h : Reply.HasRoom fields) :
    Avoids .panicked (ExchangeM.sendReply fields : ExchangeM σ δ Unit) := by
  intro x
  obtain ⟨r, hr⟩ := Option.isSome_iff_exists.mp
    (Reply.isSome_putAll? h (Reply.length_header x.client))
  rw [ends_sendReply, hr]
  trivial

end Exchange

/-! ### Callbacks -/

/-- Whatever the program is told, it does not panic. -/
def Program.NeverPanics : Program σ δ α → Prop
  | .done _ => True
  | .readWorld next => ∀ w, (next w).NeverPanics
  | .writeWorld _ next => next.NeverPanics
  | .note _ next => next.NeverPanics
  | .call _ next => ∀ answer, (next answer).NeverPanics
  | .forward _ _ next => ∀ r, (next r).NeverPanics
  | .panic => False

/-- The callbacks that serve requests never panic, and neither do the handlers that the vendor
offers. -/
structure VendorInterface.NeverPanics (i : VendorInterface σ δ) : Prop where
  handleRequest : ∀ handler, i.handleRequest = some handler → ∀ c, (handler c).NeverPanics
  makeCurrent : ∀ handler, i.makeCurrent = some handler → ∀ c q, (handler c q).NeverPanics
  offers : ∀ offer, i.dispatchAddress = some offer → ∀ minor code w handler,
    (offer minor code w).1 = some handler → ∀ c, (handler c).NeverPanics

/-- The callbacks of all registered vendors never panic. -/
def Registry.NeverPanics (r : Registry σ δ) : Prop := r.Every VendorInterface.NeverPanics

variable {env : Environment σ δ}

lemma avoids_vendorOfXid {a : Abort} (id : Xid) : Avoids a (env.vendorOfXid id) :=
  fun _ => ends_vendorOfXid.mpr trivial

lemma avoids_addXid {a : Abort} (id : Xid) (v : VendorId) : Avoids a (env.addXid id v) :=
  fun _ => ends_addXid (fun _ _ => trivial) trivial

lemma avoids_setScreenVendor {a : Abort} (screen : Nat) (v : VendorId) :
    Avoids a (env.setScreenVendor screen v) := by
  rw [Environment.setScreenVendor]
  split_ifs
  · exact .pure _
  · exact .pure _
  · refine Avoids.bind (fun _ => trivial) fun w => ?_
    split_ifs
    · exact .pure _
    · refine Avoids.bind (fun _ => trivial) fun o => ?_
      split
      · exact .pure _
      · exact fun _ => trivial

/-- No export call is ever broken off. -/
lemma avoids_perform {a : Abort} (request : ExportCall δ) : Avoids a (env.perform request) := by
  cases request with
  | setScreenVendor screen v => exact avoids_setScreenVendor screen v
  | addXid id v => exact avoids_addXid id v
  | xidVendor id => exact avoids_vendorOfXid id
  | tagData client tag v => exact fun _ => ends_tagData.mpr trivial
  | screenVendor | removeXid | tagVendor | setTagData | errorBase | screenCount | isExiting
  | lookupDrawable | legalNewResource => exact fun _ => trivial

/-- A call of a vendor stops with no fault that the vendor's work does not stop with. -/
lemma avoids_calling {a : Abort} {v : VendorId} (callback : Callback δ)
    {work : SessionM σ δ callback.Answer} (h : Avoids a work) :
    Avoids a (env.calling v callback work) :=
  fun _ => (ends_calling callback).mpr ((h _).mono (fun _ _ => id) fun _ _ => id)

section Programs

variable {forward : VendorId → Client → SessionM σ δ (Client × Except ProtocolError Unit)}

/-- A program that never panics by itself does not panic by what it asks of the router, as long as
requests that it hands on do not panic. -/
lemma avoids_runWith (hf : ∀ v c, Avoids .panicked (forward v c)) {p : Program σ δ α}
    (hp : p.NeverPanics) : Avoids .panicked (env.runWith forward p) := by
  induction p with
  | done a => exact .pure a
  | readWorld next ih => exact Avoids.bind (fun _ => trivial) fun w => ih w (hp w)
  | writeWorld w next ih => exact Avoids.bind (fun _ => trivial) fun _ => ih hp
  | note n next ih => exact Avoids.bind (fun _ => trivial) fun _ => ih hp
  | call request next ih =>
      exact (avoids_perform request).bind fun answer =>
        Avoids.bind (fun _ => trivial) fun _ => ih answer (hp answer)
  | forward vendor client next ih => exact (hf vendor client).bind fun r => ih r (hp r)
  | panic => exact hp.elim

variable (hv : env.registry.NeverPanics)

include hv

/-- A vendor that is handed a request does not panic either. -/
lemma avoids_serveWith (hf : ∀ v c, Avoids .panicked (forward v c)) (v : VendorId) (c : Client) :
    Avoids .panicked (env.serveWith forward v c) := by
  rw [Environment.serveWith]
  cases hh : env.requestHandler? v with
  | none => exact .pure _
  | some handler =>
      obtain ⟨-, w, hw, hi⟩ := Environment.isInitialized_of_requestHandler? hh
      have hw' : env.registry.interface? v = some w.interface := by
        rw [Registry.interface?, hw, Option.map_some]
      exact avoids_calling (.request c)
        (avoids_runWith hf ((hv v _ hw').handleRequest handler hi c))

/-- A forwarded request that is nested too deep is broken off, but not by a panic. -/
lemma avoids_forwardNested : ∀ depth v c, Avoids .panicked (env.forwardNested depth v c)
  | 0, _, _ => .throw nofun
  | depth + 1, v, c => avoids_serveWith hv (avoids_forwardNested depth) v c

/-- Programs are run without a panic, at any depth of nesting. -/
lemma avoids_interpret {p : Program σ δ α} (hp : p.NeverPanics) :
    Avoids .panicked (env.interpret p) :=
  avoids_runWith (avoids_forwardNested hv env.nestingLimit) hp

/-- To hand a request on is done without a panic. -/
lemma avoids_forward (v : VendorId) : Avoids .panicked (Forwarding.forward env v) :=
  avoids_onClient fun c => avoids_serveWith hv (avoids_forwardNested hv env.nestingLimit) v c

/-- To ask a vendor to bind or to release is done without a panic. -/
lemma avoids_ask (v : VendorId) (q : MakeCurrentRequest δ) :
    Avoids .panicked (MakeCurrent.ask env v q) := by
  rw [MakeCurrent.ask]
  cases hm : env.makeCurrentHandler? v with
  | none => exact avoids_fail _
  | some handler =>
      obtain ⟨i, hi, hh⟩ := Option.bind_eq_some_iff.mp hm
      exact avoids_onClient fun c => avoids_calling (.makeCurrent c q)
        (avoids_interpret hv ((hv v i hi).makeCurrent handler hh c q))

/-- Whatever the vendors answer, client information is shown to the next one. -/
lemma avoids_broadcastTo (sent : List UInt8) (vendors : List VendorId) :
    Avoids .panicked (Forwarding.broadcastTo env sent vendors) := by
  induction vendors with
  | nil => exact .pure _
  | cons v rest ih =>
      exact (avoids_attempt (avoids_forward hv v)).discard.bind fun _ =>
        (avoids_modifyClient _).bind fun _ => ih

/-- To show a request to all vendors is done without a panic. -/
lemma avoids_broadcast : Avoids .panicked (Forwarding.broadcast env) :=
  avoids_client.bind fun _ => avoids_broadcastTo hv _ _

end Programs

/-! ### Owners -/

section Owners

/-- Going on with an owner, or answering by an error if there is none. -/
lemma avoids_ownerOr {work : SessionM σ δ (Option VendorId)} (h : Avoids .panicked work)
    (value : UInt32) (e : ProtocolError) :
    Avoids .panicked (do
      match ← ExchangeM.onSession work with
      | some v => return v
      | none => ExchangeM.failAt value e : ExchangeM σ δ VendorId) := by
  refine (avoids_onSession h).bind fun owner => ?_
  cases owner with
  | none => exact avoids_failAt _ _
  | some v => exact .pure v

/-- The owner of a tag is found, or the request fails. -/
lemma avoids_tagVendor (tag : ContextTag) :
    Avoids .panicked (Forwarding.tagVendor tag : ExchangeM σ δ VendorId) :=
  avoids_client.bind fun c =>
    have hwork : Avoids .panicked (Environment.vendorOfTag c.id tag : SessionM σ δ _) :=
      fun _ => trivial
    avoids_ownerOr hwork _ _

/-- The owner of a resource is found, or the request fails. -/
lemma avoids_xidVendor (id : Xid) (e : ProtocolError) :
    Avoids .panicked (Forwarding.xidVendor env id e) :=
  avoids_ownerOr (avoids_vendorOfXid id) _ _

/-- The owner of the routing field is found without a panic. -/
lemma avoids_owner (r : RoutedRequest) (field : UInt32) :
    Avoids .panicked (r.owner env field) := by
  rw [RoutedRequest.owner]
  split
  · exact avoids_onSession fun _ => trivial
  · exact avoids_onSession (avoids_vendorOfXid field)
  · exact avoids_client.bind fun c => avoids_onSession fun _ => trivial

end Owners

end VendorDispatch
