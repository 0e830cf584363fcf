import VendorDispatch.Stub.Basic

/-!
Stubs for the 64-bit x86.

* `X86.Instruction` has the instruction forms that the stubs use, and `X86.Instruction.encode` their
  bytes.
* `X86.threadLocalStub` and `X86.threadSpecificStub` are the two stubs.
-/

namespace VendorDispatch.X86

/-- The general registers, in the order of their numbers. -/
inductive Register
  | rax | rcx | rdx | rbx | rsp | rbp | rsi | rdi | r8 | r9 | r10 | r11 | r12 | r13 | r14 | r15
  deriving DecidableEq, Repr, Inhabited

/-- The number of a register. -/
def Register.number : Register → Nat
  | rax => 0 | rcx => 1 | rdx => 2 | rbx => 3 | rsp => 4 | rbp => 5 | rsi => 6 | rdi => 7
  | r8 => 8 | r9 => 9 | r10 => 10 | r11 => 11 | r12 => 12 | r13 => 13 | r14 => 14 | r15 => 15

/-- A vector register that the calling convention passes arguments in. -/
abbrev VectorRegister := Fin 8

/-- The instruction forms that stubs use. Displacements count from the end of the instruction. -/
inductive Instruction
  /-- Loads the word at an offset from the thread pointer into `rax`. -/
  | loadThread (offset : UInt32)
  /-- Loads the word at a displacement from this instruction into `rax`. -/
  | loadRelative (displacement : UInt32)
  /-- Loads the word that `rax` points to into `rax`. -/
  | loadIndirect
  /-- Compares `rax` with zero. -/
  | testZero
  /-- Jumps by a short displacement if the comparison found zero. -/
  | jumpIfZero (displacement : UInt8)
  /-- Jumps to the address in the word at a displacement from `rax`. -/
  | jumpTable (displacement : UInt32)
  /-- Jumps by a displacement. -/
  | jump (displacement : UInt32)
  /-- Calls the address in the word at a displacement from this instruction. -/
  | callRelative (displacement : UInt32)
  /-- Pushes a register on the stack. -/
  | push (r : Register)
  /-- Pops a register off the stack. -/
  | pop (r : Register)
  /-- Lowers the stack pointer. -/
  | lowerStack (amount : UInt32)
  /-- Raises the stack pointer. -/
  | raiseStack (amount : UInt32)
  /-- Stores a vector register at an offset from the stack pointer; the address must be a multiple
  of 16. -/
  | storeVector (offset : UInt8) (v : VectorRegister)
  /-- Loads a vector register from an offset from the stack pointer; the address must be a multiple
  of 16. -/
  | loadVector (v : VectorRegister) (offset : UInt8)
  /-- Stops the program. -/
  | trap
  deriving DecidableEq, Repr

namespace Instruction

/-- A 32-bit field. -/
def field32 (n : UInt32) : List UInt8 := littleEndian 4 n.toNat

/-- An instruction whose opcode holds a register number; registers from 8 up take a mark before
it. -/
def withRegister (opcode : Nat) (r : Register) : List UInt8 :=
  (if 8 ≤ r.number then [0x41] else []) ++ [UInt8.ofNat (opcode + r.number % 8)]

/-- The operand bytes of a vector register and a place on the stack. The offset zero has a form of
its own. -/
def stackOperand (v : VectorRegister) (offset : UInt8) : List UInt8 :=
  if offset = 0 then
    [UInt8.ofNat (0x04 + 8 * v.val), 0x24]
  else
    [UInt8.ofNat (0x44 + 8 * v.val), 0x24, offset]

/-- The bytes of an instruction. -/
def encode : Instruction → List UInt8
  | loadThread offset => [0x64, 0x48, 0x8b, 0x04, 0x25] ++ field32 offset
  | loadRelative displacement => [0x48, 0x8b, 0x05] ++ field32 displacement
  | loadIndirect => [0x48, 0x8b, 0x00]
  | testZero => [0x48, 0x85, 0xc0]
  | jumpIfZero displacement => [0x74, displacement]
  | jumpTable displacement => [0xff, 0xa0] ++ field32 displacement
  | jump displacement => [0xe9] ++ field32 displacement
  | callRelative displacement => [0xff, 0x15] ++ field32 displacement
  | push r => withRegister 0x50 r
  | pop r => withRegister 0x58 r
  | lowerStack amount => [0x48, 0x81, 0xec] ++ field32 amount
  | raiseStack amount => [0x48, 0x81, 0xc4] ++ field32 amount
  | storeVector offset v => [0x66, 0x0f, 0x7f] ++ stackOperand v offset
  | loadVector v offset => [0x66, 0x0f, 0x6f] ++ stackOperand v offset
  | trap => [0xcc]

end Instruction

/-- The bytes of a sequence of instructions. -/
def assemble (is : List Instruction) : List UInt8 := is.flatMap Instruction.encode

/-! ### The stubs -/

/-- Reads the current table out of the thread's cell and jumps through it. -/
def threadLocalCode (tlsOffset displacement : UInt32) : List Instruction :=
  [.loadThread tlsOffset, .jumpTable displacement, .trap]

/-- The registers that pass integer arguments. -/
def argumentRegisters : List Register := [.rdi, .rsi, .rdx, .rcx, .r8, .r9]

/-- The registers that pass vector arguments. -/
def argumentVectors : List VectorRegister := [0, 1, 2, 3, 4, 5, 6, 7]

/-- The place on the stack where a vector argument is kept. -/
def vectorPlace (v : VectorRegister) : UInt8 := UInt8.ofNat (16 * v.val)

/-- The room for the vector arguments, and one word more, so that their places are multiples
of 16. -/
def vectorRoom : UInt32 := 0x88

/-- Reads the process-wide pointer and jumps through it. If it is null, the arguments are saved,
the resolver is asked for the thread's table, the arguments are restored, and the jump is taken
with the answer. -/
def threadSpecificCode (displacement : UInt32) : List Instruction :=
  [.loadRelative 0x99, .loadIndirect, .testZero, .jumpIfZero 6, .jumpTable displacement] ++
  argumentRegisters.map .push ++
  [.lowerStack vectorRoom] ++
  argumentVectors.map (fun v => .storeVector (vectorPlace v) v) ++
  [.callRelative 0x4f] ++
  argumentVectors.map (fun v => .loadVector v (vectorPlace v)) ++
  [.raiseStack vectorRoom] ++
  argumentRegisters.reverse.map .pop ++
  [.jump 0xffffff73, .trap, .trap, .trap, .trap]

/-- The stub that reads the thread's cell. -/
def threadLocalStub (tlsOffset displacement : UInt32) : List UInt8 :=
  assemble (threadLocalCode tlsOffset displacement)

/-- The stub that reads the process-wide pointer: its code, then the address of the pointer and
that of the resolver. -/
def threadSpecificStub (displacement : UInt32) (currentGlobal resolver : UInt64) : List UInt8 :=
  assemble (threadSpecificCode displacement) ++
    littleEndian 8 currentGlobal.toNat ++ littleEndian 8 resolver.toNat

end VendorDispatch.X86
