import VendorDispatch.Machine.Memory

/-!
Processors that run code out of memory.

An instruction is fetched at the address of the state, decoded, and executed. It goes on within the
code, calls a function, or jumps to an address out of a register or out of memory, which is how
code is left for good. A function that is called is not run instruction by instruction: it is given
by what it does between its call and its return.

* `Processor.Leaves` says that code which is entered in one state is left in another.
* `Leaves.unique`: there is at most one such state.
-/

namespace VendorDispatch

/-- What an instruction leads to. -/
inductive Transfer (S : Type)
  /-- The next instruction of the code. -/
  | next (s : S)
  /-- The first instruction of a function, which is to return. -/
  | call (s : S)
  /-- An instruction elsewhere. The code is left for good. -/
  | leave (s : S)

/-- A processor with states of type `S` and instructions of type `I`. -/
structure Processor (S I : Type) where
  /-- The address of the current instruction. -/
  address : S → Address
  /-- What is in the memory. -/
  memory : S → Memory
  /-- The bytes of an instruction. -/
  encode : I → List UInt8
  /-- The instruction at an address. -/
  decode : Memory → Address → Option I
  /-- What an instruction does at the address of the state, unless the processor stops. -/
  execute : I → S → Option (Transfer S)
  /-- An instruction is decoded from its bytes. -/
  decode_of_holds : ∀ {m a i}, m.Holds a (encode i) → decode m a = some i

namespace Processor

variable {S I : Type} (P : Processor S I)

/-- What the current instruction leads to, unless the processor stops. -/
def step (s : S) : Option (Transfer S) :=
  (P.decode (P.memory s) (P.address s)).bind fun i => P.execute i s

/-- The code goes on: by the next instruction, or by a call of a function that returns. What a
function makes of the state in which it is entered is given by `function`. -/
inductive Move (function : S → Option S) (s t : S) : Prop
  | next : P.step s = some (.next t) → Move function s t
  | call (u : S) : P.step s = some (.call u) → function u = some t → Move function s t

/-- The code goes on for any number of moves. -/
inductive Reaches (function : S → Option S) : S → S → Prop
  | refl (s : S) : Reaches function s s
  | head {s t u : S} : P.Move function s t → Reaches function t u → Reaches function s u

/-- The code that is entered in the first state is left by a jump, in the second one. -/
def Leaves (function : S → Option S) (s t : S) : Prop :=
  ∃ u, P.Reaches function s u ∧ P.step u = some (.leave t)

/-- One function, at an address. -/
def functionAt (a : Address) (f : S → S) (s : S) : Option S :=
  if P.address s = a then some (f s) else none

variable {P} {function : S → Option S} {s t u : S}

/-- What is reached from a state that is reached. -/
theorem Reaches.trans (h : P.Reaches function s t) (h' : P.Reaches function t u) :
    P.Reaches function s u := by
  induction h with
  | refl => exact h'
  | head hmove _ ih => exact .head hmove (ih h')

theorem Reaches.leaves (h : P.Reaches function s t) (h' : P.Leaves function t u) :
    P.Leaves function s u := by
  obtain ⟨v, hv, hleave⟩ := h'
  exact ⟨v, h.trans hv, hleave⟩

theorem Move.unique (h : P.Move function s t) (h' : P.Move function s u) : t = u := by
  rcases h with h | ⟨v, h, hv⟩ <;> rcases h' with h' | ⟨v', h', hv'⟩ <;> rw [h] at h' <;> cases h'
  · rfl
  · exact Option.some.inj (hv.symm.trans hv')

/-- Code is left in at most one way. -/
theorem Leaves.unique {t' : S} (h : P.Leaves function s t) (h' : P.Leaves function s t') :
    t = t' := by
  have stays {v w x : S} (hmove : P.Move function v w) : P.step v ≠ some (.leave x) := by
    rcases hmove with hstep | ⟨_, hstep, _⟩ <;> simp [hstep]
  obtain ⟨u, hu, hleave⟩ := h
  obtain ⟨u', hu', hleave'⟩ := h'
  induction hu with
  | refl =>
    cases hu' with
    | refl => simpa using hleave.symm.trans hleave'
    | head hmove _ => exact absurd hleave (stays hmove)
  | head hmove _ ih =>
    cases hu' with
    | refl => exact absurd hleave' (stays hmove)
    | head hmove' hu' =>
      obtain rfl := hmove.unique hmove'
      exact ih hleave hu'

/-- Code is left in one way only. -/
theorem Leaves.iff_eq {t' : S} (h : P.Leaves function s t) : P.Leaves function s t' ↔ t' = t :=
  ⟨fun h' => h'.unique h, fun heq => heq ▸ h⟩

end Processor

end VendorDispatch
