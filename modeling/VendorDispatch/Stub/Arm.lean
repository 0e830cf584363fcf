import VendorDispatch.Stub.Basic

/-!
Stubs for the 64-bit Arm.

* `Arm.Instruction` has the instruction forms that the stubs use, and `Arm.Instruction.word` their
  32-bit words.
* `Arm.threadLocalStub` and `Arm.threadSpecificStub` are the two stubs.
-/

namespace VendorDispatch.Arm

/-- A general register, by its number. -/
abbrev Register := Fin 31

/-- A vector register, by its number. -/
abbrev VectorRegister := Fin 32

/-- Numbers stand for general registers. -/
instance neZeroRegister : @NeZero Nat Zero.ofOfNat0 31 := ⟨by decide⟩

/-- Numbers stand for vector registers. -/
instance neZeroVectorRegister : @NeZero Nat Zero.ofOfNat0 32 := ⟨by decide⟩

/-- The instruction forms that stubs use. Distances count instructions from this one. -/
inductive Instruction
  /-- Loads the thread pointer. -/
  | loadThreadPointer (t : Register)
  /-- Loads the word at a distance from this instruction. -/
  | loadLiteral (t : Register) (distance : BitVec 19)
  /-- Loads the word that a register points to. -/
  | loadIndirect (t n : Register)
  /-- Loads the word at the sum of two registers. -/
  | loadIndexed (t n m : Register)
  /-- Branches by a distance if a register is zero. -/
  | branchIfZero (t : Register) (distance : BitVec 19)
  /-- Branches by a distance. -/
  | branch (distance : BitVec 26)
  /-- Branches to the address in a register. -/
  | branchTo (n : Register)
  /-- Calls the address in a register. -/
  | callTo (n : Register)
  /-- Lowers the stack pointer by 16 and stores two registers there. -/
  | pushPair (t u : Register)
  /-- Loads two registers from the stack and raises the stack pointer by 16. -/
  | popPair (t u : Register)
  /-- Lowers the stack pointer by 32 and stores two vector registers there. -/
  | pushVectors (t u : VectorRegister)
  /-- Loads two vector registers from the stack and raises the stack pointer by 32. -/
  | popVectors (t u : VectorRegister)
  /-- Copies the stack pointer to a register. -/
  | copyStack (d : Register)
  /-- Copies a register to another. -/
  | copy (d m : Register)
  /-- Does nothing. -/
  | idle
  deriving DecidableEq, Repr

namespace Instruction

/-- The five bits that name a register. -/
def bits {n : Nat} (r : Fin n) : BitVec 5 := BitVec.ofNat 5 r.val

/-- The five bits that name the stack pointer, or zero where a source is meant. -/
def special : BitVec 5 := 31

/-- The scaled distance by which two registers move the stack pointer down. -/
def down : BitVec 7 := -2

/-- The scaled distance by which two registers move the stack pointer up. -/
def up : BitVec 7 := 2

/-- The word of an instruction. -/
def word : Instruction → BitVec 32
  | loadThreadPointer t => 0x6a9de82#27 ++ bits t
  | loadLiteral t distance => 0x58#8 ++ distance ++ bits t
  | loadIndirect t n => 0x3e5000#22 ++ bits n ++ bits t
  | loadIndexed t n m => 0x7c3#11 ++ bits m ++ 0x1a#6 ++ bits n ++ bits t
  | branchIfZero t distance => 0xb4#8 ++ distance ++ bits t
  | branch distance => 0x05#6 ++ distance
  | branchTo n => 0x3587c0#22 ++ bits n ++ 0#5
  | callTo n => 0x358fc0#22 ++ bits n ++ 0#5
  | pushPair t u => 0x2a6#10 ++ down ++ bits u ++ special ++ bits t
  | popPair t u => 0x2a3#10 ++ up ++ bits u ++ special ++ bits t
  | pushVectors t u => 0x2b6#10 ++ down ++ bits u ++ special ++ bits t
  | popVectors t u => 0x2b3#10 ++ up ++ bits u ++ special ++ bits t
  | copyStack d => 0x244000#22 ++ special ++ bits d
  | copy d m => 0x550#11 ++ bits m ++ 0#6 ++ special ++ bits d
  | idle => 0xd503201f

/-- The bytes of an instruction. -/
def encode (i : Instruction) : List UInt8 := littleEndian 4 i.word.toNat

end Instruction

/-- The bytes of a sequence of instructions. -/
def assemble (is : List Instruction) : List UInt8 := is.flatMap Instruction.encode

/-! ### The stubs -/

/-- The first register that a call may change without saving it. -/
def scratch : Register := 16

/-- The second register that a call may change without saving it. -/
def scratch2 : Register := 17

/-- Reads the current table at an offset from the thread pointer and branches through it. Only the
two scratch registers change. -/
def threadLocalCode : List Instruction :=
  [.loadThreadPointer scratch,
   .loadLiteral scratch2 5,
   .loadIndexed scratch scratch scratch2,
   .loadLiteral scratch2 5,
   .loadIndexed scratch scratch scratch2,
   .branchTo scratch]

/-- Reads the process-wide pointer and branches through it. If it is null, the arguments and the
frame are saved, the resolver is asked for the thread's table, everything is restored, and the
branch is taken with the answer. -/
def threadSpecificCode : List Instruction :=
  [.loadLiteral scratch 32,
   .loadIndirect scratch scratch,
   .branchIfZero scratch 4,
   .loadLiteral scratch2 33,
   .loadIndexed scratch scratch scratch2,
   .branchTo scratch,
   .pushPair 29 30,
   .copyStack 29,
   .pushPair 0 1,
   .pushPair 2 3,
   .pushPair 4 5,
   .pushPair 6 7,
   .pushPair 8 9,
   .pushVectors 0 1,
   .pushVectors 2 3,
   .pushVectors 4 5,
   .pushVectors 6 7,
   .loadLiteral scratch 17,
   .callTo scratch,
   .copy scratch 0,
   .popVectors 6 7,
   .popVectors 4 5,
   .popVectors 2 3,
   .popVectors 0 1,
   .popPair 8 9,
   .popPair 6 7,
   .popPair 4 5,
   .popPair 2 3,
   .popPair 0 1,
   .popPair 29 30,
   .branch (-27),
   .idle]

/-- The stub that reads the thread's cell: its code, then the offset of the cell and the place of
the slot in a table. -/
def threadLocalStub (tlsOffset : Int64) (displacement : UInt32) : List UInt8 :=
  assemble threadLocalCode ++
    littleEndian 8 tlsOffset.toUInt64.toNat ++ littleEndian 8 displacement.toNat

/-- The stub that reads the process-wide pointer: its code, then the address of the pointer, that
of the resolver, and the place of the slot in a table. -/
def threadSpecificStub (displacement : UInt32) (currentGlobal resolver : UInt64) : List UInt8 :=
  assemble threadSpecificCode ++ littleEndian 8 currentGlobal.toNat ++
    littleEndian 8 resolver.toNat ++ littleEndian 8 displacement.toNat

end VendorDispatch.Arm
