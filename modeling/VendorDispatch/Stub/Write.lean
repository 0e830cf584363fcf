import VendorDispatch.Stub.X86
import VendorDispatch.Stub.Arm

/-!
Writing the stub of a slot.

* `stubCode` is the stub, of exactly the architecture's stub size. The slot is checked before the
  offset of the thread's cell.
* `writeStub` puts it at the start of a buffer, and leaves the buffer alone if there is none.
-/

namespace VendorDispatch

/-- Fills up a stub behind its code. -/
def padTo (size : Nat) (fill : UInt8) (code : List UInt8) : List UInt8 :=
  code ++ List.replicate (size - code.length) fill

/-- The low 32 bits of an offset from the thread pointer. -/
def tlsField (offset : Int64) : UInt32 := offset.toUInt64.toUInt32

/-- The code of the stub for a slot. On x86-64 an instruction must hold the offset of the thread's
cell, so not every offset will do. -/
def stubBody (arch : Architecture) (model : StorageModel) (s : Slot) (p : StubParams) :
    Except Error (List UInt8) := do
  let displacement ← slotDisplacement s
  match arch, model with
  | .x86_64, .threadLocal =>
    if FitsInt32 p.tlsOffset.toInt then
      return X86.threadLocalStub (tlsField p.tlsOffset) displacement
    else
      throw .threadLocalStorageUnavailable
  | .x86_64, .threadSpecific =>
    return X86.threadSpecificStub displacement p.currentGlobal p.resolver
  | .aarch64, .threadLocal => return Arm.threadLocalStub p.tlsOffset displacement
  | .aarch64, .threadSpecific =>
    return Arm.threadSpecificStub displacement p.currentGlobal p.resolver

/-- The stub for a slot, filled up to its full size. -/
def stubCode (arch : Architecture) (model : StorageModel) (s : Slot) (p : StubParams) :
    Except Error (List UInt8) := do
  return padTo (arch.stubSize model) arch.padding (← stubBody arch model s p)

/-- Writes the stub for a slot at the start of a buffer. -/
def writeStub (arch : Architecture) (model : StorageModel) (s : Slot) (p : StubParams)
    (buffer : List UInt8) : Except Error (List UInt8) := do
  return overwrite buffer 0 (← stubCode arch model s p)

end VendorDispatch
