import VendorDispatch.Bytes
import VendorDispatch.Slot.Basic

/-!
What a stub is made for: an architecture, a way to find the calling thread's table, a slot, and the
addresses that are patched into the code.

* `slotDisplacement` is the place of a slot's function pointer in a table, if an instruction can
  hold it.
-/

namespace VendorDispatch

/-- How a stub finds the current table of the calling thread. -/
inductive StorageModel
  /-- It reads the thread's own cell, at a fixed offset from the thread pointer. -/
  | threadLocal
  /-- It reads the process-wide pointer, and calls the resolver when that is null. -/
  | threadSpecific
  deriving DecidableEq, Repr, Inhabited

/-- The name of a storage model. -/
def StorageModel.name : StorageModel → String
  | threadLocal => "ThreadLocal"
  | threadSpecific => "ThreadSpecific"

/-- The architectures that stubs are written for. -/
inductive Architecture
  /-- The 64-bit x86, with its System V calling convention. -/
  | x86_64
  /-- The 64-bit Arm, with its standard calling convention. -/
  | aarch64
  deriving DecidableEq, Repr, Inhabited

namespace Architecture

/-- The name of an architecture. -/
def name : Architecture → String
  | x86_64 => "x86_64"
  | aarch64 => "aarch64"

/-- The distance between consecutive stubs, in bytes; always a power of two. -/
def stubSize : Architecture → StorageModel → Nat
  | x86_64, .threadLocal => 16
  | aarch64, .threadLocal => 64
  | _, .threadSpecific => 256

/-- The byte that fills a stub behind its code: a trap on x86-64, and part of an undefined
instruction on AArch64. -/
def padding : Architecture → UInt8
  | x86_64 => 0xcc
  | aarch64 => 0

theorem stubSize_pos (a : Architecture) (m : StorageModel) : 0 < a.stubSize m := by
  cases a <;> cases m <;> decide

end Architecture

/-- What is patched into every stub. -/
structure StubParams where
  /-- The offset of the thread's cell from the thread pointer. -/
  tlsOffset : Int64 := 0
  /-- The address of the process-wide pointer. -/
  currentGlobal : UInt64 := 0
  /-- The address of the function that returns the calling thread's table. -/
  resolver : UInt64 := 0
  deriving DecidableEq, Repr, Inhabited

/-- Whether a number fits a signed 32-bit field. -/
def FitsInt32 (n : Int) : Prop := -0x80000000 ≤ n ∧ n < 0x80000000

instance (n : Int) : Decidable (FitsInt32 n) :=
  inferInstanceAs (Decidable (-0x80000000 ≤ n ∧ n < 0x80000000))

/-- The distance of a slot's function pointer from the start of a table, as a signed 32-bit
displacement. -/
def slotDisplacement (s : Slot) : Except Error UInt32 :=
  if FitsInt32 s.byteOffset then .ok (UInt32.ofNat s.byteOffset) else .error .invalidSlot

/-- The place of a slot's word fits its field for the first 2 ^ 28 slots. -/
theorem fitsInt32_byteOffset_iff {s : Slot} : FitsInt32 s.byteOffset ↔ s.index < 0x10000000 := by
  have h : s.byteOffset = s.index * 8 := rfl
  constructor <;> intro hs
  · have := hs.2
    omega
  · exact ⟨by omega, by omega⟩

/-- A slot further out is refused. -/
theorem slotDisplacement_eq_ok_iff {s : Slot} :
    (∃ d, slotDisplacement s = .ok d) ↔ s.index < 0x10000000 := by
  refine Iff.trans ?_ fitsInt32_byteOffset_iff
  rw [slotDisplacement]
  by_cases h : FitsInt32 s.byteOffset
  · rw [if_pos h]
    exact ⟨fun _ => h, fun _ => ⟨_, rfl⟩⟩
  · rw [if_neg h]
    exact ⟨nofun, fun h' => absurd h' h⟩

end VendorDispatch
