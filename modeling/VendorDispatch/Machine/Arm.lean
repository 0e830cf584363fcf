import Mathlib.Algebra.Group.Nat.Defs
import Mathlib.Control.Basic
import Mathlib.Logic.Function.Basic
import VendorDispatch.Machine.Processor
import VendorDispatch.Stub.Arm

/-!
The 64-bit Arm, as far as stubs use it, and its standard calling convention.

* `Arm.decode` reads the instruction forms of stubs from their words; `Arm.decode_word` says that it
  reads every instruction back.
* `Arm.execute` is what the instructions do. An access through a stack pointer that is not aligned
  stops the processor.
* `Arm.Returns` is what the calling convention asks of a function.
-/

namespace VendorDispatch.Arm

/-- The state of the processor. -/
structure State where
  /-- The general registers. -/
  registers : Register → BitVec 64
  /-- The vector registers. -/
  vectors : VectorRegister → BitVec 128
  /-- The address of the word on top of the stack. -/
  stackPointer : Address
  /-- The address that thread-local data is found from. -/
  threadPointer : Address
  /-- The address of the current instruction. -/
  programCounter : Address
  /-- What is in the memory. -/
  memory : Memory

namespace State

variable (s : State)

/-- Replaces a general register. -/
def setRegister (r : Register) (v : BitVec 64) : State :=
  { s with registers := Function.update s.registers r v }

/-- Replaces a vector register. -/
def setVector (r : VectorRegister) (v : BitVec 128) : State :=
  { s with vectors := Function.update s.vectors r v }

/-- Goes on at another address. -/
def jump (a : Address) : State := { s with programCounter := a }

/-- Lowers the stack pointer by the size of two numbers and writes them there. -/
def push {bits : Nat} (v w : BitVec bits) : State :=
  let new := toBytes v ++ toBytes w
  let place := s.stackPointer - BitVec.ofNat 64 new.length
  { s with stackPointer := place, memory := s.memory.store place new }

/-- Raises the stack pointer. -/
def raiseStack (n : Nat) : State := { s with stackPointer := s.stackPointer.after n }

/-- The address at a distance that counts instructions. -/
def atDistance {bits : Nat} (distance : BitVec bits) : Address :=
  s.programCounter + distance.signExtend 64 * 4

variable {s} {a : Address} {v : BitVec 64} {q r : Register}

@[simp] theorem registers_jump : (s.jump a).registers = s.registers := rfl

@[simp] theorem registers_setRegister_self : (s.setRegister r v).registers r = v := by
  simp [setRegister]

@[simp] theorem setRegister_setRegister (w : BitVec 64) :
    (s.setRegister r v).setRegister r w = s.setRegister r w := by
  simp [setRegister]

/-- The other registers keep their content. -/
theorem registers_setRegister (hq : q ≠ r) : (s.setRegister r v).registers q = s.registers q := by
  simp [setRegister, hq]

end State

/-! ### Instructions -/

/-- The number in a run of bits of a word. -/
def field (w : BitVec 32) (start size : Nat) : Nat := w.toNat / 2 ^ start % 2 ^ size

/-- The general register that a run of five bits names. -/
def register? (w : BitVec 32) (start : Nat) : Option Register :=
  if h : field w start 5 < 31 then some ⟨_, h⟩ else none

/-- The vector register that a run of five bits names. -/
def vectorRegister (w : BitVec 32) (start : Nat) : VectorRegister :=
  ⟨field w start 5, Nat.mod_lt _ (by decide)⟩

/-- Reads an instruction from its word. The first bits tell the form, and the bits between the
operands have to be those of the form as well. -/
def decode (w : BitVec 32) : Option Instruction :=
  match field w 24 8 with
  | 0x58 => do return .loadLiteral (← register? w 0) (BitVec.ofNat 19 (field w 5 19))
  | 0xb4 => do return .branchIfZero (← register? w 0) (BitVec.ofNat 19 (field w 5 19))
  | 0xd5 =>
    if field w 5 27 = 0x6a9de82 then do
      return .loadThreadPointer (← register? w 0)
    else if w = 0xd503201f then
      some .idle
    else
      none
  | 0xf9 => do
    guard (field w 10 22 = 0x3e5000)
    return .loadIndirect (← register? w 0) (← register? w 5)
  | 0xf8 => do
    guard (field w 21 11 = 0x7c3 ∧ field w 10 6 = 0x1a)
    return .loadIndexed (← register? w 0) (← register? w 5) (← register? w 16)
  | 0xd6 =>
    if field w 10 22 = 0x3587c0 ∧ field w 0 5 = 0 then do
      return .branchTo (← register? w 5)
    else if field w 10 22 = 0x358fc0 ∧ field w 0 5 = 0 then do
      return .callTo (← register? w 5)
    else
      none
  | 0xa9 => do
    guard (field w 22 10 = 0x2a6 ∧ field w 15 7 = 126 ∧ field w 5 5 = 31)
    return .pushPair (← register? w 0) (← register? w 10)
  | 0xa8 => do
    guard (field w 22 10 = 0x2a3 ∧ field w 15 7 = 2 ∧ field w 5 5 = 31)
    return .popPair (← register? w 0) (← register? w 10)
  | 0xad => do
    guard (field w 22 10 = 0x2b6 ∧ field w 15 7 = 126 ∧ field w 5 5 = 31)
    return .pushVectors (vectorRegister w 0) (vectorRegister w 10)
  | 0xac => do
    guard (field w 22 10 = 0x2b3 ∧ field w 15 7 = 2 ∧ field w 5 5 = 31)
    return .popVectors (vectorRegister w 0) (vectorRegister w 10)
  | 0x91 => do
    guard (field w 10 22 = 0x244000 ∧ field w 5 5 = 31)
    return .copyStack (← register? w 0)
  | 0xaa => do
    guard (field w 21 11 = 0x550 ∧ field w 10 6 = 0 ∧ field w 5 5 = 31)
    return .copy (← register? w 0) (← register? w 16)
  | _ => do
    guard (field w 26 6 = 0x05)
    return .branch (BitVec.ofNat 26 (field w 0 26))

/-- The number of two runs of bits in a row. -/
theorem toNat_append {m n : Nat} (x : BitVec m) (y : BitVec n) :
    (x ++ y).toNat = x.toNat * 2 ^ n + y.toNat := by
  rw [BitVec.toNat_append, ← Nat.shiftLeft_add_eq_or_of_lt y.isLt, Nat.shiftLeft_eq]

theorem toNat_bits {n : Nat} (hn : n ≤ 32) (r : Fin n) : (Instruction.bits r).toNat = r.val :=
  Nat.mod_eq_of_lt (Nat.lt_of_lt_of_le r.isLt hn)

/-- A register is read back from its five bits. -/
theorem register?_eq_some {w : BitVec 32} {start : Nat} {r : Register}
    (h : field w start 5 = (Instruction.bits r).toNat) : register? w start = some r := by
  rw [toNat_bits (by decide)] at h
  rw [register?, dif_pos (h ▸ r.isLt)]
  exact congrArg some (Fin.ext h)

theorem vectorRegister_eq {w : BitVec 32} {start : Nat} {r : VectorRegister}
    (h : field w start 5 = (Instruction.bits r).toNat) : vectorRegister w start = r :=
  Fin.ext (h.trans (toNat_bits (by decide) r))

section Fields

variable {w : BitVec 32} (x n t : BitVec 5)

/-- The fields of a word that ends in a 19-bit distance and a register. -/
theorem fields_of_distance {form : BitVec 8} {d : BitVec 19} (h : w = form ++ d ++ t) :
    field w 24 8 = form.toNat ∧ field w 5 19 = d.toNat ∧ field w 0 5 = t.toNat := by
  subst h
  simp only [field, toNat_append]
  omega

/-- The fields of a word that ends in two registers. -/
theorem fields_of_two {form : BitVec 22} (h : w = form ++ n ++ t) :
    field w 24 8 = form.toNat / 2 ^ 14 ∧ field w 10 22 = form.toNat ∧ field w 5 5 = n.toNat ∧
      field w 0 5 = t.toNat := by
  subst h
  simp only [field, toNat_append]
  omega

/-- The fields of a word with a scaled 7-bit distance and three registers. -/
theorem fields_of_pair {form : BitVec 10} {d : BitVec 7} (h : w = form ++ d ++ x ++ n ++ t) :
    field w 24 8 = form.toNat / 2 ^ 2 ∧ field w 22 10 = form.toNat ∧ field w 15 7 = d.toNat ∧
      field w 10 5 = x.toNat ∧ field w 5 5 = n.toNat ∧ field w 0 5 = t.toNat := by
  subst h
  simp only [field, toNat_append]
  omega

/-- The fields of a word with three registers and six bits between them. -/
theorem fields_of_three {form : BitVec 11} {d : BitVec 6} (h : w = form ++ x ++ d ++ n ++ t) :
    field w 24 8 = form.toNat / 2 ^ 3 ∧ field w 21 11 = form.toNat ∧ field w 16 5 = x.toNat ∧
      field w 10 6 = d.toNat ∧ field w 5 5 = n.toNat ∧ field w 0 5 = t.toNat := by
  subst h
  simp only [field, toNat_append]
  omega

end Fields

/-- Every instruction is read back from its word. -/
theorem decode_word (i : Instruction) : decode i.word = some i := by
  -- the word is a variable, so that no step computes it in full
  obtain ⟨w, hw⟩ : ∃ w, w = i.word := ⟨_, rfl⟩
  rw [← hw]
  cases i with
  | idle | loadThreadPointer t | branchTo n | callTo n | copyStack d =>
    subst hw
    decide +revert
  -- the rest is decided by fields of the word
  | loadLiteral t d | branchIfZero t d =>
    obtain ⟨hform, hd, ht⟩ := fields_of_distance _ hw
    simp [decode, hform, hd, register?_eq_some ht]
  | branch d =>
    have hform : field w 26 6 = 0x05 ∧ field w 24 8 / 4 = 0x05 ∧ field w 0 26 = d.toNat := by
      subst hw
      simp only [field, Instruction.word, toNat_append, BitVec.toNat_ofNat]
      omega
    have hother : ∀ n, n / 4 ≠ 0x05 → field w 24 8 ≠ n := by
      rintro _ hn rfl
      exact hn hform.2.1
    simp [decode, guard, hform.1, hform.2.2, hother]
  | loadIndirect t n =>
    obtain ⟨hform, hrest, hn, ht⟩ := fields_of_two _ _ hw
    simp [decode, guard, hform, hrest, register?_eq_some hn, register?_eq_some ht]
  | pushPair t u | popPair t u =>
    obtain ⟨hform, hrest, hd, hu, hn, ht⟩ := fields_of_pair _ _ _ hw
    simp [decode, guard, hform, hrest, hd, hn, register?_eq_some hu, register?_eq_some ht,
      Instruction.down, Instruction.up, Instruction.special]
  | pushVectors t u | popVectors t u =>
    obtain ⟨hform, hrest, hd, hu, hn, ht⟩ := fields_of_pair _ _ _ hw
    simp [decode, guard, hform, hrest, hd, hn, vectorRegister_eq hu, vectorRegister_eq ht,
      Instruction.down, Instruction.up, Instruction.special]
  | loadIndexed t n m =>
    obtain ⟨hform, hrest, hm, hd, hn, ht⟩ := fields_of_three _ _ _ hw
    simp [decode, guard, hform, hrest, hd, register?_eq_some hn, register?_eq_some hm,
      register?_eq_some ht]
  | copy d m =>
    obtain ⟨hform, hrest, hm, hd, hn, ht⟩ := fields_of_three _ _ _ hw
    simp [decode, guard, hform, hrest, hd, hn, register?_eq_some hm, register?_eq_some ht,
      Instruction.special]

/-! ### Execution -/

/-- What an instruction does, unless the processor stops. What loading twice into one register does
is left open, so the processor stops there too. -/
def execute (i : Instruction) (s : State) : Option (Transfer State) :=
  let next := s.programCounter.after 4
  match i with
  | .loadThreadPointer t => some (.next ((s.setRegister t s.threadPointer).jump next))
  | .loadLiteral t distance =>
    some (.next ((s.setRegister t (s.memory.read 64 (s.atDistance distance))).jump next))
  | .loadIndirect t n =>
    some (.next ((s.setRegister t (s.memory.read 64 (s.registers n))).jump next))
  | .loadIndexed t n m =>
    some (.next ((s.setRegister t (s.memory.read 64 (s.registers n + s.registers m))).jump next))
  | .branchIfZero t distance =>
    some (.next (s.jump (if s.registers t = 0 then s.atDistance distance else next)))
  | .branch distance => some (.next (s.jump (s.atDistance distance)))
  | .branchTo n => some (.leave (s.jump (s.registers n)))
  | .callTo n => some (.call ((s.setRegister 30 next).jump (s.registers n)))
  | .pushPair t u =>
    if s.stackPointer.IsAligned 16 then
      some (.next ((s.push (s.registers t) (s.registers u)).jump next))
    else
      none
  | .popPair t u =>
    if s.stackPointer.IsAligned 16 ∧ t ≠ u then
      some (.next ((((s.setRegister t (s.memory.read 64 s.stackPointer)).setRegister u
        (s.memory.read 64 (s.stackPointer.after 8))).raiseStack 16).jump next))
    else
      none
  | .pushVectors t u =>
    if s.stackPointer.IsAligned 16 then
      some (.next ((s.push (s.vectors t) (s.vectors u)).jump next))
    else
      none
  | .popVectors t u =>
    if s.stackPointer.IsAligned 16 ∧ t ≠ u then
      some (.next ((((s.setVector t (s.memory.read 128 s.stackPointer)).setVector u
        (s.memory.read 128 (s.stackPointer.after 16))).raiseStack 32).jump next))
    else
      none
  | .copyStack d => some (.next ((s.setRegister d s.stackPointer).jump next))
  | .copy d m => some (.next ((s.setRegister d (s.registers m)).jump next))
  | .idle => some (.next (s.jump next))

/-- The processor. -/
def processor : Processor State Instruction where
  address := State.programCounter
  memory := State.memory
  encode := Instruction.encode
  decode m a := decode (m.read 32 a)
  execute := execute
  decode_of_holds := by
    intro m a i h
    rw [Memory.read_of_holds (by decide) (v := i.word) h]
    exact decode_word i

/-! ### The calling convention -/

/-- The registers that a function must leave as they are. -/
def calleeSaved : List Register := [19, 20, 21, 22, 23, 24, 25, 26, 27, 28, 29]

/-- The vector registers whose lower half a function must leave as it is. -/
def calleeSavedVectors : List VectorRegister := [8, 9, 10, 11, 12, 13, 14, 15]

/-- The registers that pass arguments or the address of a result, and the one after them. -/
def argumentRegisters : List Register := [0, 1, 2, 3, 4, 5, 6, 7, 8, 9]

/-- The vector registers that pass arguments. -/
def argumentVectors : List VectorRegister := [0, 1, 2, 3, 4, 5, 6, 7]

/-- The area of the given size below the stack pointer. -/
def State.below (s : State) (n : Nat) : Area := ⟨s.stackPointer - BitVec.ofNat 64 n, n⟩

/-- What the calling convention asks of a function that is entered in the first state, with the
return address in register 30, and returns in the second one. The stack has the given number of
bytes, which stay. All else may have changed. -/
structure Returns (size : Nat) (s t : State) : Prop where
  address : t.programCounter = s.registers 30
  stackPointer : t.stackPointer = s.stackPointer
  saved : ∀ r ∈ calleeSaved, t.registers r = s.registers r
  savedVectors : ∀ r ∈ calleeSavedVectors,
    (t.vectors r).setWidth 64 = (s.vectors r).setWidth 64
  stack : Memory.AgreesOn ⟨s.stackPointer, size⟩ s.memory t.memory

/-- A function at an address is entered in the second state, by a call out of code that was entered
in the first one. The stack is aligned as the calling convention asks, it has grown by the given
number of bytes, and the memory is otherwise the same. -/
structure Calls (a : Address) (used : Nat) (s u : State) : Prop where
  address : u.programCounter = a
  stackPointer : u.stackPointer = s.stackPointer - BitVec.ofNat 64 used
  aligned : u.stackPointer.IsAligned 16
  threadPointer : u.threadPointer = s.threadPointer
  memory : Memory.AgreesOutside (s.below used) s.memory u.memory

/-- A function at an address follows the calling convention where it is called out of code that was
entered in a state, when the stack has grown by `used` bytes. It gives the stack back with the
`kept` bytes that were there first, it returns the given result, and the code stays as it is. -/
def Obeys (f : State → State) (a : Address) (used kept : Nat) (code : Area) (result : BitVec 64)
    (s : State) : Prop :=
  ∀ u, Calls a used s u →
    Returns (used + kept) u (f u) ∧ (f u).registers 0 = result ∧
      Memory.AgreesOn code u.memory (f u).memory

/-- A call that was entered in the first state is passed on in the second one: the arguments in
registers are there, the return address, what has to be given back to the caller, and the given
number of bytes on the stack. -/
structure Passes (kept : Nat) (s t : State) : Prop where
  arguments : ∀ r ∈ argumentRegisters, t.registers r = s.registers r
  vectors : ∀ r ∈ argumentVectors, t.vectors r = s.vectors r
  returnAddress : t.registers 30 = s.registers 30
  saved : ∀ r ∈ calleeSaved, t.registers r = s.registers r
  savedVectors : ∀ r ∈ calleeSavedVectors,
    (t.vectors r).setWidth 64 = (s.vectors r).setWidth 64
  stackPointer : t.stackPointer = s.stackPointer
  stack : Memory.AgreesOn ⟨s.stackPointer, kept⟩ s.memory t.memory

end VendorDispatch.Arm
