import Mathlib.Data.Fintype.Basic
import Mathlib.Tactic.FinCases
import VendorDispatch.Machine.Processor
import VendorDispatch.Stub.X86

/-!
The 64-bit x86, as far as stubs use it, and its System V calling convention.

* `X86.decode` reads the instruction forms of stubs from their bytes; `X86.decode_encode` says that
  it reads every instruction back.
* `X86.execute` is what the instructions do. A vector access that is not aligned stops the
  processor.
* `X86.Returns` is what the calling convention asks of a function.
-/

namespace VendorDispatch.X86

/-- The state of the processor. Of the flags there is the one that stubs read. -/
structure State where
  /-- The general registers. -/
  registers : Register → BitVec 64
  /-- The vector registers. -/
  vectors : Fin 16 → BitVec 128
  /-- Whether the last result was zero. -/
  zeroFlag : Bool
  /-- The address that thread-local data is found from. -/
  threadPointer : Address
  /-- The address of the current instruction. -/
  instructionPointer : Address
  /-- What is in the memory. -/
  memory : Memory

namespace State

variable (s : State)

/-- The address of the word on top of the stack. -/
def stackPointer : Address := s.registers .rsp

/-- Replaces a general register. -/
def setRegister (r : Register) (v : BitVec 64) : State :=
  { s with registers := Function.update s.registers r v }

/-- Replaces a vector register. -/
def setVector (r : Fin 16) (v : BitVec 128) : State :=
  { s with vectors := Function.update s.vectors r v }

/-- Goes on at another address. -/
def jump (a : Address) : State := { s with instructionPointer := a }

/-- Writes the bytes of a number to the memory. -/
def store {bits : Nat} (a : Address) (v : BitVec bits) : State :=
  { s with memory := s.memory.store a (toBytes v) }

/-- Lowers the stack pointer by a word and stores a word there. -/
def push (v : BitVec 64) : State :=
  (s.setRegister .rsp (s.stackPointer - 8)).store (s.stackPointer - 8) v

/-- Raises the stack pointer by a word and puts the word from there into a register. -/
def pop (r : Register) : State :=
  (s.setRegister .rsp (s.stackPointer.after 8)).setRegister r (s.memory.read 64 s.stackPointer)

/-- Moves the stack pointer by arithmetic, which sets the flag. -/
def moveStack (a : Address) : State := { s.setRegister .rsp a with zeroFlag := a = 0 }

variable {s} {a : Address} {v : BitVec 64} {q r : Register}

@[simp] theorem stackPointer_jump : (s.jump a).stackPointer = s.stackPointer := rfl

@[simp] theorem stackPointer_push : (s.push v).stackPointer = s.stackPointer - 8 := rfl

@[simp] theorem memory_push :
    (s.push v).memory = s.memory.store (s.stackPointer - 8) (toBytes v) := rfl

/-- A push moves the stack pointer, and no other register. -/
theorem registers_push (hq : q ≠ .rsp) : (s.push v).registers q = s.registers q :=
  Function.update_of_ne hq _ _

/-- A pop raises the stack pointer. -/
theorem stackPointer_pop (hr : r ≠ .rsp) : (s.pop r).stackPointer = s.stackPointer.after 8 :=
  Function.update_of_ne hr.symm _ _

@[simp] theorem registers_pop_self :
    (s.pop r).registers r = s.memory.read 64 s.stackPointer :=
  Function.update_self _ _ _

/-- It changes the register that is popped, and no other. -/
theorem registers_pop (hq : q ≠ .rsp) (hqr : q ≠ r) : (s.pop r).registers q = s.registers q :=
  (Function.update_of_ne hqr _ _).trans (Function.update_of_ne hq _ _)

@[simp] theorem stackPointer_moveStack : (s.moveStack a).stackPointer = a := rfl

/-- To move the stack changes the stack pointer only. -/
theorem registers_moveStack (hq : q ≠ .rsp) : (s.moveStack a).registers q = s.registers q :=
  Function.update_of_ne hq _ _

end State

/-! ### Instructions -/

/-- The general register with a number below 16. -/
def Register.ofNumber : Nat → Register
  | 0 => .rax | 1 => .rcx | 2 => .rdx | 3 => .rbx | 4 => .rsp | 5 => .rbp | 6 => .rsi | 7 => .rdi
  | 8 => .r8 | 9 => .r9 | 10 => .r10 | 11 => .r11 | 12 => .r12 | 13 => .r13 | 14 => .r14
  | _ => .r15

/-- A 32-bit displacement or immediate as a 64-bit number of the same sign. -/
def extend32 (n : UInt32) : BitVec 64 := n.toBitVec.signExtend 64

/-- An 8-bit displacement as a 64-bit number of the same sign. -/
def extend8 (n : UInt8) : BitVec 64 := n.toBitVec.signExtend 64

/-- Reads a 32-bit field. -/
def readField32 (bs : List UInt8) : UInt32 := UInt32.ofNat (ofLittleEndian (bs.take 4))

/-- Reads an instruction whose opcode holds the number of a register; `bank` is added to it. -/
def decodeStackOperation (bank : Nat) (opcode : UInt8) : Option Instruction :=
  if 0x50 ≤ opcode ∧ opcode < 0x58 then
    some (.push (.ofNumber (opcode.toNat - 0x50 + bank)))
  else if 0x58 ≤ opcode ∧ opcode < 0x60 then
    some (.pop (.ofNumber (opcode.toNat - 0x58 + bank)))
  else
    none

/-- Reads the operand bytes of a vector register and a place on the stack: the register is in the
middle of the first byte, around it are the two forms, without and with an offset. -/
def decodeStackOperand : List UInt8 → Option (VectorRegister × UInt8)
  | mode :: 0x24 :: rest =>
    let v : VectorRegister := ⟨mode.toNat / 8 % 8, Nat.mod_lt _ (by decide)⟩
    if mode &&& 0xc7 = 0x04 then
      some (v, 0)
    else if mode &&& 0xc7 = 0x44 then
      rest.head?.map fun offset => (v, offset)
    else
      none
  | _ => none

/-- Reads the first instruction of a string of bytes. -/
def decode : List UInt8 → Option Instruction
  | 0x64 :: 0x48 :: 0x8b :: 0x04 :: 0x25 :: rest => some (.loadThread (readField32 rest))
  | 0x48 :: 0x8b :: 0x05 :: rest => some (.loadRelative (readField32 rest))
  | 0x48 :: 0x8b :: 0x00 :: _ => some .loadIndirect
  | 0x48 :: 0x85 :: 0xc0 :: _ => some .testZero
  | 0x48 :: 0x81 :: 0xec :: rest => some (.lowerStack (readField32 rest))
  | 0x48 :: 0x81 :: 0xc4 :: rest => some (.raiseStack (readField32 rest))
  | 0x74 :: displacement :: _ => some (.jumpIfZero displacement)
  | 0xff :: 0xa0 :: rest => some (.jumpTable (readField32 rest))
  | 0xff :: 0x15 :: rest => some (.callRelative (readField32 rest))
  | 0xe9 :: rest => some (.jump (readField32 rest))
  | 0x66 :: 0x0f :: 0x7f :: rest => (decodeStackOperand rest).map fun o => .storeVector o.2 o.1
  | 0x66 :: 0x0f :: 0x6f :: rest => (decodeStackOperand rest).map fun o => .loadVector o.1 o.2
  | 0x41 :: opcode :: _ => decodeStackOperation 8 opcode
  | 0xcc :: _ => some .trap
  | opcode :: _ => decodeStackOperation 0 opcode
  | [] => none

/-- The number of bytes of the longest instruction. -/
def longestInstruction : Nat := 15

/-- A field of four bytes is read back. -/
theorem readField32_field32 (n : UInt32) (rest : List UInt8) :
    readField32 (Instruction.field32 n ++ rest) = n := by
  have hlen : (Instruction.field32 n).length = 4 := length_littleEndian _ _
  rw [readField32, List.take_left' hlen, Instruction.field32, ofLittleEndian_littleEndian]
  exact (congrArg UInt32.ofNat (Nat.mod_eq_of_lt n.toNat_lt)).trans n.ofNat_toNat

/-- An operand on the stack is read back. -/
theorem decodeStackOperand_stackOperand (v : VectorRegister) (offset : UInt8)
    (rest : List UInt8) :
    decodeStackOperand (Instruction.stackOperand v offset ++ rest) = some (v, offset) := by
  by_cases h : offset = 0
  · subst h
    fin_cases v <;> rfl
  · rw [Instruction.stackOperand, if_neg h]
    fin_cases v <;> rfl

/-- Every instruction is read back from its bytes. -/
theorem decode_encode (i : Instruction) (rest : List UInt8) :
    decode (i.encode ++ rest) = some i := by
  cases i with
  | loadThread n => exact congrArg (some ∘ Instruction.loadThread) (readField32_field32 n rest)
  | loadRelative n => exact congrArg (some ∘ Instruction.loadRelative) (readField32_field32 n rest)
  | jumpTable n => exact congrArg (some ∘ Instruction.jumpTable) (readField32_field32 n rest)
  | jump n => exact congrArg (some ∘ Instruction.jump) (readField32_field32 n rest)
  | callRelative n => exact congrArg (some ∘ Instruction.callRelative) (readField32_field32 n rest)
  | lowerStack n => exact congrArg (some ∘ Instruction.lowerStack) (readField32_field32 n rest)
  | raiseStack n => exact congrArg (some ∘ Instruction.raiseStack) (readField32_field32 n rest)
  | storeVector offset v =>
    exact congrArg (Option.map fun o => Instruction.storeVector o.2 o.1)
      (decodeStackOperand_stackOperand v offset rest)
  | loadVector v offset =>
    exact congrArg (Option.map fun o => Instruction.loadVector o.1 o.2)
      (decodeStackOperand_stackOperand v offset rest)
  | push r => cases r <;> rfl
  | pop r => cases r <;> rfl
  | loadIndirect | testZero | jumpIfZero | trap => rfl

/-! ### Execution -/

/-- The register that a vector argument is passed in. -/
def VectorRegister.full (v : VectorRegister) : Fin 16 := v.castLE (by decide)

/-- What an instruction does, unless the processor stops. The instruction pointer moves to the next
instruction first, so that displacements count from there. -/
def execute (i : Instruction) (s : State) : Option (Transfer State) :=
  let s := s.jump (s.instructionPointer.after i.encode.length)
  match i with
  | .loadThread offset =>
    some (.next (s.setRegister .rax (s.memory.read 64 (s.threadPointer + extend32 offset))))
  | .loadRelative displacement =>
    some (.next (s.setRegister .rax
      (s.memory.read 64 (s.instructionPointer + extend32 displacement))))
  | .loadIndirect => some (.next (s.setRegister .rax (s.memory.read 64 (s.registers .rax))))
  | .testZero => some (.next { s with zeroFlag := s.registers .rax = 0 })
  | .jumpIfZero displacement =>
    some (.next (if s.zeroFlag then s.jump (s.instructionPointer + extend8 displacement) else s))
  | .jumpTable displacement =>
    some (.leave (s.jump (s.memory.read 64 (s.registers .rax + extend32 displacement))))
  | .jump displacement => some (.next (s.jump (s.instructionPointer + extend32 displacement)))
  | .callRelative displacement =>
    some (.call ((s.push s.instructionPointer).jump
      (s.memory.read 64 (s.instructionPointer + extend32 displacement))))
  | .push r => some (.next (s.push (s.registers r)))
  | .pop r => some (.next (s.pop r))
  | .lowerStack amount => some (.next (s.moveStack (s.stackPointer - extend32 amount)))
  | .raiseStack amount => some (.next (s.moveStack (s.stackPointer + extend32 amount)))
  | .storeVector offset v =>
    let place := s.stackPointer + extend8 offset
    if place.IsAligned 16 then some (.next (s.store place (s.vectors v.full))) else none
  | .loadVector v offset =>
    let place := s.stackPointer + extend8 offset
    if place.IsAligned 16 then some (.next (s.setVector v.full (s.memory.read 128 place))) else none
  | .trap => none

/-- What the processor fetches at once is enough for every instruction of a stub. -/
theorem length_encode_le (i : Instruction) : i.encode.length ≤ longestInstruction := by
  cases i with
  | push r => cases r <;> decide
  | pop r => cases r <;> decide
  | storeVector offset v | loadVector v offset =>
    simp only [Instruction.encode, Instruction.stackOperand]
    split <;> exact Nat.le_of_ble_eq_true rfl
  | _ => exact Nat.le_of_ble_eq_true rfl

/-- The processor. -/
def processor : Processor State Instruction where
  address := State.instructionPointer
  memory := State.memory
  encode := Instruction.encode
  decode m a := decode (m.bytes a longestInstruction)
  execute := execute
  decode_of_holds := by
    intro m a i h
    rw [← Nat.add_sub_cancel' (length_encode_le i), Memory.bytes_add, h]
    exact decode_encode i _

/-! ### The calling convention -/

/-- The registers that a function must leave as they are, besides the stack pointer. -/
def calleeSaved : List Register := [.rbx, .rbp, .r12, .r13, .r14, .r15]

/-- The area of the given size below the stack pointer. -/
def State.below (s : State) (n : Nat) : Area := ⟨s.stackPointer - BitVec.ofNat 64 n, n⟩

/-- What the calling convention asks of a function that is entered in the first state, with the
return address on top of the stack, and returns in the second one. The stack has the given number
of bytes; those above the return address stay. All else may have changed. -/
structure Returns (size : Nat) (s t : State) : Prop where
  address : t.instructionPointer = s.memory.read 64 s.stackPointer
  stackPointer : t.stackPointer = s.stackPointer.after 8
  saved : ∀ r ∈ calleeSaved, t.registers r = s.registers r
  stack : Memory.AgreesOn ⟨s.stackPointer.after 8, size - 8⟩ s.memory t.memory

/-- A function at an address is entered in the second state, by a call out of code that was entered
in the first one. The stack is aligned as the calling convention asks, it has grown by the given
number of bytes, and the memory is otherwise the same. -/
structure Calls (a : Address) (used : Nat) (s u : State) : Prop where
  address : u.instructionPointer = a
  stackPointer : u.stackPointer = s.stackPointer - BitVec.ofNat 64 used
  aligned : (u.stackPointer.after 8).IsAligned 16
  threadPointer : u.threadPointer = s.threadPointer
  memory : Memory.AgreesOutside (s.below used) s.memory u.memory

/-- A function at an address follows the calling convention where it is called out of code that was
entered in a state, when the stack has grown by `used` bytes. It gives the stack back with the
`kept` bytes that were there first, it returns the given result, and the code stays as it is. -/
def Obeys (f : State → State) (a : Address) (used kept : Nat) (code : Area) (result : BitVec 64)
    (s : State) : Prop :=
  ∀ u, Calls a used s u →
    Returns (used + kept) u (f u) ∧ (f u).registers .rax = result ∧
      Memory.AgreesOn code u.memory (f u).memory

/-- A call that was entered in the first state is passed on in the second one: the arguments in
registers are there, what has to be given back to the caller, and the given number of bytes on the
stack, the return address first. -/
structure Passes (kept : Nat) (s t : State) : Prop where
  arguments : ∀ r ∈ argumentRegisters, t.registers r = s.registers r
  vectors : ∀ v ∈ argumentVectors, t.vectors v.full = s.vectors v.full
  saved : ∀ r ∈ calleeSaved, t.registers r = s.registers r
  stackPointer : t.stackPointer = s.stackPointer
  stack : Memory.AgreesOn ⟨s.stackPointer, kept⟩ s.memory t.memory

end VendorDispatch.X86
