import VendorDispatch.Stub.Memory
import VendorDispatch.Stub.Write

/-!
The region of generated stubs. The stub of slot `n` starts `n` stub sizes from the start of the
region, so addresses and slots convert into each other by arithmetic.

* `StubRegion.generate` writes a slot's stub the first time it is asked for.
* `StubRegion.slotForAddress?` recognizes the start of a generated stub.
* `address_of_generate`, `hasStub_generate`: where the stub is, and which slots have one afterwards.
-/

namespace VendorDispatch

/-- A region with room for a stub of every slot. -/
structure StubRegion where
  /-- The architecture that the stubs are written for. -/
  arch : Architecture
  /-- How the stubs find the current table. -/
  model : StorageModel
  /-- What is patched into the stubs. -/
  params : StubParams
  /-- The memory that the stubs are in. -/
  memory : ExecutableMemory
  /-- Which slots have a stub. -/
  generated : Vector Bool maxSlots := Vector.replicate maxSlots false

namespace StubRegion

variable (r : StubRegion)

/-- The distance between consecutive stubs. -/
def stubSize : Nat := r.arch.stubSize r.model

/-- The address of the first stub. -/
def start : Nat := r.memory.executable

/-- The address of the stub with the given index. -/
def stubAddress (i : Nat) : Nat := r.start + i * r.stubSize

/-- The address behind the last stub. -/
def limit : Nat := r.stubAddress maxSlots

/-- Whether the slot with the given index has a stub. -/
def hasStub (i : Nat) : Bool := (r.generated[i]?).getD false

/-- Asks the system for a region. There is no answer if its length cannot be rounded to whole
pages. -/
def create? (k : Kernel) (arch : Architecture) (model : StorageModel) (params : StubParams) :
    Option (Except Error StubRegion) :=
  (ExecutableMemory.map? k (maxSlots * arch.stubSize model)).map fun memory => do
    return { arch, model, params, memory := ← memory }

/-- The address of a slot's stub, which is written first if there is none yet. -/
def generate (s : Slot) : Except Error (Nat × StubRegion) :=
  let i := s.index
  if maxSlots ≤ i then
    .error .invalidSlot
  else if r.hasStub i then
    .ok (r.stubAddress i, r)
  else do
    let code ← stubCode r.arch r.model s r.params
    return (r.stubAddress i,
      { r with
        memory := r.memory.write (i * r.stubSize) code
        generated := r.generated.setIfInBounds i true })

/-- The address of a stub depends on its slot only. -/
theorem address_of_generate {r u : StubRegion} {s : Slot} {address : Nat}
    (h : r.generate s = .ok (address, u)) : address = r.stubAddress s.index := by
  simp only [generate] at h
  split at h
  · cases h
  · split at h
    · cases h
      rfl
    · cases hc : stubCode r.arch r.model s r.params <;> rw [hc] at h <;> cases h
      rfl

/-- A slot that was asked for has a stub, and no other slot gets one. -/
theorem hasStub_generate {r u : StubRegion} {s : Slot} {address : Nat}
    (h : r.generate s = .ok (address, u)) (i : Nat) :
    u.hasStub i = (i = s.index || r.hasStub i) := by
  simp only [generate] at h
  split at h
  · cases h
  · next hs =>
    split at h
    · next hg =>
      cases h
      by_cases hi : i = s.index
      · simp [hi, hg]
      · simp [hi]
    · cases hc : stubCode r.arch r.model s r.params <;> rw [hc] at h <;> cases h
      simp only [hasStub, Vector.getElem?_setIfInBounds]
      by_cases hi : s.index = i
      · simp [hi.symm, Nat.lt_of_not_le hs]
      · simp [hi, Ne.symm hi]

/-- Writes the stubs of the given slots. -/
def generateAll (r : StubRegion) : List Slot → Except Error StubRegion
  | [] => .ok r
  | s :: rest => do
    let (_, r) ← r.generate s
    r.generateAll rest

/-- The address of a slot's stub, if there is one. -/
def addressOf? (s : Slot) : Option Nat :=
  if r.hasStub s.index then some (r.stubAddress s.index) else none

/-- The slot whose stub starts at an address. -/
def slotForAddress? (address : Nat) : Option Slot :=
  if address < r.start ∨ r.limit ≤ address then
    none
  else
    let distance := address - r.start
    let i := distance / r.stubSize
    if distance % r.stubSize = 0 ∧ r.hasStub i then some (Slot.ofIndex i) else none

/-- The bytes in the place of a slot's stub. -/
def stubBytes (s : Slot) : List UInt8 := r.memory.read (s.index * r.stubSize) r.stubSize

/-- The region as text: what its stubs are, and the given text for its start. -/
def text (startText : String) : String :=
  "EntryPoints \x7b arch: \"" ++ r.arch.name ++ "\", model: " ++ r.model.name ++ ", start: " ++
    startText ++ ", stub_size: " ++ toString r.stubSize ++ " \x7d"

end StubRegion

end VendorDispatch
