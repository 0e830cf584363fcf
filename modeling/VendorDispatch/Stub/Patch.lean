import VendorDispatch.Stub.Write

/-!
Writing a stub over what is in a buffer: a template is copied into it, and the fields of the
template are patched.

* `stubFields` has the fields of each stub, with their places.
* `StubField.encode` and `StubField.decode` are the bytes of a field and the number that they stand
  for.
* `writeStubInPlace` changes the buffer step by step, after all that can fail.
-/

namespace VendorDispatch

/-- What a field of a stub holds. -/
inductive StubValue
  /-- The distance of the slot's function pointer from the start of a table. -/
  | slot
  /-- The offset of the thread's cell from the thread pointer. -/
  | tlsOffset
  /-- The address of the process-wide pointer. -/
  | currentGlobal
  /-- The address of the resolver. -/
  | resolver
  deriving DecidableEq, Repr

namespace StubValue

/-- The number for a slot and the parameters of the stubs. -/
def of (s : Slot) (p : StubParams) : StubValue → Int
  | slot => 8 * s.index
  | tlsOffset => p.tlsOffset.toInt
  | currentGlobal => p.currentGlobal.toNat
  | resolver => p.resolver.toNat

/-- Whether the number can be negative. -/
def isSigned : StubValue → Bool
  | tlsOffset => true
  | _ => false

end StubValue

/-- A field of a stub. -/
structure StubField where
  /-- What it holds. -/
  value : StubValue
  /-- The place of its first byte. -/
  start : Nat
  /-- The number of its bytes. -/
  size : Nat
  deriving DecidableEq, Repr

namespace StubField

/-- The bytes for a number. -/
def encode (f : StubField) (n : Int) : List UInt8 :=
  littleEndian f.size (n % (byteRange f.size : Int)).toNat

/-- The number that bytes stand for. -/
def decode (f : StubField) (bs : List UInt8) : Int :=
  if f.value.isSigned then
    (ofLittleEndian bs : Int).bmod (byteRange f.size)
  else
    ofLittleEndian bs

end StubField

/-- The fields of a stub, in the order in which they are patched. -/
def stubFields : Architecture → StorageModel → List StubField
  | .x86_64, .threadLocal => [⟨.tlsOffset, 0x05, 4⟩, ⟨.slot, 0x0b, 4⟩]
  | .x86_64, .threadSpecific =>
    [⟨.slot, 0x11, 4⟩, ⟨.currentGlobal, 0xa0, 8⟩, ⟨.resolver, 0xa8, 8⟩]
  | .aarch64, .threadLocal => [⟨.tlsOffset, 0x18, 8⟩, ⟨.slot, 0x20, 8⟩]
  | .aarch64, .threadSpecific =>
    [⟨.currentGlobal, 0x80, 8⟩, ⟨.resolver, 0x88, 8⟩, ⟨.slot, 0x90, 8⟩]

/-- A stub whose fields are zero. -/
def stubTemplate : Architecture → StorageModel → List UInt8
  | .x86_64, .threadLocal => X86.threadLocalStub 0 0
  | .x86_64, .threadSpecific => X86.threadSpecificStub 0 0 0
  | .aarch64, .threadLocal => Arm.threadLocalStub 0 0
  | .aarch64, .threadSpecific => Arm.threadSpecificStub 0 0 0

/-- Copies a template to the start of a buffer and fills up the rest. -/
def copyTemplate (template : List UInt8) (fill : UInt8) (out : List UInt8) : List UInt8 :=
  padTo out.length fill template

/-- Writes the fields of a stub. -/
def patchFields (fields : List StubField) (s : Slot) (p : StubParams) (out : List UInt8) :
    List UInt8 :=
  fields.foldl (fun out f => overwrite out f.start (f.encode (f.value.of s p))) out

/-- The offset of the thread's cell has to fit where an instruction holds it. -/
def checkOffset (p : StubParams) : Architecture → StorageModel → Except Error Unit
  | .x86_64, .threadLocal =>
    if FitsInt32 p.tlsOffset.toInt then .ok () else .error .threadLocalStorageUnavailable
  | _, _ => .ok ()

/-- Writes the stub for a slot over what is in a buffer. -/
def writeStubInPlace (arch : Architecture) (model : StorageModel) (s : Slot) (p : StubParams) :
    EStateM Error (List UInt8) Unit := do
  discard (MonadExcept.ofExcept (slotDisplacement s))
  MonadExcept.ofExcept (checkOffset p arch model)
  modify (copyTemplate (stubTemplate arch model) arch.padding)
  modify (patchFields (stubFields arch model) s p)

end VendorDispatch
