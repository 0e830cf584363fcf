import VendorDispatch.Router.Server

/-!
Histories of a router: operations performed one after the other.

* `Server.apply` performs one operation, and `Server.run` performs several; nothing is performed
  after an operation that was broken off.
* `Server.Reachable` holds of the routers that operations lead to, from a router without vendors
  whose operations were not broken off. What holds of a new router and is kept by every operation
  holds of all of them (`Server.Reachable.of_kept`).
-/

namespace VendorDispatch

/-- An operation of the router, with its arguments. -/
inductive Operation (σ δ : Type)
  /-- Registers a vendor. -/
  | createVendor (interface : VendorInterface σ δ)
  /-- Frees a vendor. -/
  | destroyVendor (vendor : VendorId)
  /-- Starts a generation. -/
  | beginGeneration (entry : ExtensionEntry)
  /-- Ends a generation. -/
  | endGeneration
  /-- Serves the current request of a client. -/
  | serve (client : Client)
  /-- A client has disconnected. -/
  | clientGone (client : ClientId)
  /-- The window system has destroyed a resource. -/
  | resourceFreed (id : Xid)
  /-- Runs a program on behalf of a vendor, outside of its callbacks. -/
  | perform (program : Program σ δ Unit)
  /-- The world changes by itself, as when the window system gets another screen. -/
  | changeWorld (change : σ → σ)

/-- What an operation returns. -/
def Operation.Answer {σ δ : Type} : Operation σ δ → Type
  | createVendor _ => Except Error VendorId
  | destroyVendor _ => Except Error Unit
  | beginGeneration _ => Except Error Unit
  | endGeneration => Except Error Unit
  | serve _ => Client × Except ProtocolError Unit
  | clientGone _ => Unit
  | resourceFreed _ => Unit
  | perform _ => Unit
  | changeWorld _ => Unit

/-- An operation, and what it did. -/
structure Deed (σ δ : Type) where
  /-- The operation. -/
  operation : Operation σ δ
  /-- What it did. -/
  step : Step σ δ operation.Answer

namespace Server

variable {σ δ : Type}

/-- Performs an operation. -/
def apply (s : Server σ δ) : (op : Operation σ δ) → Step σ δ op.Answer
  | .createVendor interface =>
    match s.createVendor interface with
    | .ok (id, t) => ⟨.ok (.ok id), [], t⟩
    | .error e => ⟨.ok (.error e), [], s⟩
  | .destroyVendor vendor =>
    match s.destroyVendor vendor with
    | .ok t => ⟨.ok (.ok ()), [], t⟩
    | .error e => ⟨.ok (.error e), [], s⟩
  | .beginGeneration entry => s.beginGeneration entry
  | .endGeneration => s.endGeneration
  | .serve client => s.serve client
  | .clientGone client => ⟨.ok (), [], s.clientGone client⟩
  | .resourceFreed id => ⟨.ok (), [], s.resourceFreed id⟩
  | .perform program => s.perform program
  | .changeWorld change => ⟨.ok (), [], { s with world := change s.world }⟩

/-- Performs operations one after the other, up to one that is broken off. -/
def run (s : Server σ δ) : List (Operation σ δ) → List (Deed σ δ)
  | [] => []
  | op :: rest =>
    let step := s.apply op
    ⟨op, step⟩ ::
      match step.result with
      | .ok _ => run step.server rest
      | .error _ => []

/-- The router after deeds, the last of which left it as it is. -/
def after (s : Server σ δ) (deeds : List (Deed σ δ)) : Server σ δ :=
  match deeds.getLast? with
  | some d => d.step.server
  | none => s

theorem run_nil (s : Server σ δ) : s.run [] = [] := rfl

/-- After an operation the others follow. -/
theorem run_cons_of_ok {s : Server σ δ} {op : Operation σ δ} {a : op.Answer}
    (h : (s.apply op).result = .ok a) (rest : List (Operation σ δ)) :
    s.run (op :: rest) = ⟨op, s.apply op⟩ :: (s.apply op).server.run rest := by
  simp only [run, h]

/-- An operation that is broken off is the last one. -/
theorem run_cons_of_error {s : Server σ δ} {op : Operation σ δ} {a : Abort}
    (h : (s.apply op).result = .error a) (rest : List (Operation σ δ)) :
    s.run (op :: rest) = [⟨op, s.apply op⟩] := by
  simp only [run, h]

theorem after_nil (s : Server σ δ) : s.after [] = s := rfl

theorem after_cons (s : Server σ δ) (d : Deed σ δ) (deeds : List (Deed σ δ)) :
    s.after (d :: deeds) = d.step.server.after deeds := by
  cases deeds with
  | nil => rfl
  | cons e deeds => simp only [after, List.getLast?_cons_cons]; rw [List.getLast?_cons]

/-! ### Reachable routers -/

/-- The routers that operations lead to. -/
inductive Reachable : Server σ δ → Prop
  /-- A router without vendors, between generations. -/
  | new (host : WindowSystem σ) (world : σ) (nestingLimit : Nat) :
    Reachable (Server.new host world nestingLimit)
  /-- The router after one more operation, which was not broken off. -/
  | apply {s : Server σ δ} (op : Operation σ δ) (a : op.Answer) :
    Reachable s → (s.apply op).result = .ok a → Reachable (s.apply op).server

/-- What holds of every new router and is kept by every operation holds of every reachable one. -/
theorem Reachable.of_kept {P : Server σ δ → Prop}
    (start : ∀ host world nestingLimit, P (Server.new host world nestingLimit))
    (kept : ∀ s op a, P s → (s.apply op).result = .ok a → P (s.apply op).server)
    {s : Server σ δ} (h : s.Reachable) : P s := by
  induction h with
  | new host world nestingLimit => exact start host world nestingLimit
  | apply op a _ result ih => exact kept _ op a ih result

/-- Every deed of a run starts at a router that is reachable if the first one is. -/
theorem Reachable.run {s : Server σ δ} (h : s.Reachable) {ops : List (Operation σ δ)}
    {d : Deed σ δ} (hd : d ∈ s.run ops) :
    ∃ t : Server σ δ, t.Reachable ∧ d.step = t.apply d.operation := by
  induction ops generalizing s with
  | nil => cases hd
  | cons op rest ih =>
    cases hr : (s.apply op).result with
    | error a =>
      rw [run_cons_of_error hr, List.mem_singleton] at hd
      subst hd
      exact ⟨s, h, rfl⟩
    | ok a =>
      rw [run_cons_of_ok hr, List.mem_cons] at hd
      rcases hd with rfl | hd
      · exact ⟨s, h, rfl⟩
      · exact ih (.apply op a h hr) hd

end Server

end VendorDispatch
