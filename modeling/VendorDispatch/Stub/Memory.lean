import VendorDispatch.Bytes
import VendorDispatch.Error

/-!
Memory for stubs.

The preferred layout is one mapping that can be read, written and run. A system that refuses such a
mapping is asked for a nameless file instead, which is mapped twice: once to be written and once to
be run. Both views show the same bytes.

* `wholePages` is the least whole number of pages that holds a length (`le_wholePages`,
  `wholePages_le`). Close to the end of the address space it cannot be computed, and `roundToPages?`
  has no answer.
* `ExecutableMemory.map?` asks the system for memory.
* `ExecutableMemory.read` and `ExecutableMemory.write` are the bytes seen through either view.
-/

namespace VendorDispatch

/-- What the system answers when it is asked for memory. A refusal carries an error number. -/
structure Kernel where
  /-- Maps memory that can be read, written and run; answers its address. -/
  mapAnonymous : Nat → Except Int Nat
  /-- Creates a nameless file. -/
  createFile : Except Int Unit
  /-- Gives the file a length. -/
  resizeFile : Nat → Except Int Unit
  /-- Maps the file to be written; answers the address. -/
  mapWritable : Nat → Except Int Nat
  /-- Maps the file to be run; answers the address. -/
  mapExecutable : Nat → Except Int Nat

/-- The number of bytes of a page. -/
def pageSize : Nat := 4096

/-- Whether a length can be rounded up. A page is added to it first, and the sum must stay inside
the address space. -/
def CanRound (len : Nat) : Prop := max len 1 + pageSize < addressSpace

instance (len : Nat) : Decidable (CanRound len) :=
  inferInstanceAs (Decidable (max len 1 + pageSize < addressSpace))

/-- The least whole number of pages, and at least one, that holds a length. -/
def wholePages (len : Nat) : Nat := (max len 1 + pageSize - 1) / pageSize * pageSize

/-- The least whole number of pages, and at least one, that holds a length, if it can be
computed. -/
def roundToPages? (len : Nat) : Option Nat :=
  if CanRound len then some (wholePages len) else none

/-- Memory for stubs, seen through one view or through two. -/
structure ExecutableMemory where
  /-- The address of the view that is run. -/
  executable : Nat
  /-- The address of the view that is written. -/
  writable : Nat
  /-- The number of bytes. -/
  size : Nat
  /-- The bytes, by their distance from the start of either view. -/
  content : Nat → UInt8 := fun _ => 0

namespace ExecutableMemory

/-- Whether the memory is seen through two views. -/
def isDual (m : ExecutableMemory) : Bool := m.writable ≠ m.executable

/-- Asks for a nameless file and maps it twice. -/
def mapTwice (k : Kernel) (size : Nat) : Except Error ExecutableMemory := do
  k.createFile.mapError .executableMemoryMapFailed
  (k.resizeFile size).mapError .executableMemoryMapFailed
  let writable ← (k.mapWritable size).mapError .executableMemoryMapFailed
  let executable ← (k.mapExecutable size).mapError .executableMemoryProtectFailed
  return { executable, writable, size }

/-- Asks for memory of at least the given length, which is all zero. There is no answer if the
length cannot be rounded to whole pages. -/
def map? (k : Kernel) (len : Nat) : Option (Except Error ExecutableMemory) :=
  (roundToPages? len).map fun size =>
    match k.mapAnonymous size with
    | .ok address => .ok { executable := address, writable := address, size }
    | .error _ => mapTwice k size

/-- The bytes from a distance on, through either view. -/
def read (m : ExecutableMemory) (start n : Nat) : List UInt8 :=
  (List.range n).map fun i => m.content (start + i)

/-- Writes bytes from a distance on. -/
def write (m : ExecutableMemory) (start : Nat) (bytes : List UInt8) : ExecutableMemory :=
  { m with
    content := fun i =>
      if start ≤ i then (bytes[i - start]?).getD (m.content i) else m.content i }

/-- What is written is read back. -/
theorem read_write (m : ExecutableMemory) (start : Nat) (bytes : List UInt8) :
    (m.write start bytes).read start bytes.length = bytes := by
  apply List.ext_getElem?
  intro i
  by_cases h : i < bytes.length
  · simp [read, write, h]
  · simp [read, Nat.not_lt.mp h]

/-- Bytes outside of what is written stay. -/
theorem content_write_of_disjoint {m : ExecutableMemory} {start i : Nat} {bytes : List UInt8}
    (h : i < start ∨ start + bytes.length ≤ i) : (m.write start bytes).content i = m.content i := by
  simp only [write]
  split
  · next hs =>
    rw [List.getElem?_eq_none (by omega), Option.getD_none]
  · rfl

end ExecutableMemory

theorem roundToPages?_eq_some_iff {len size : Nat} :
    roundToPages? len = some size ↔ CanRound len ∧ wholePages len = size := by
  rw [roundToPages?]
  split <;> simp_all

theorem le_wholePages (len : Nat) : len ≤ wholePages len := by
  simp only [wholePages, pageSize]
  omega

/-- No smaller number of pages, other than none, holds a length. -/
theorem wholePages_le {len pages : Nat} (h : len ≤ pages * pageSize) (hp : 0 < pages) :
    wholePages len ≤ pages * pageSize := by
  simp only [wholePages, pageSize] at *
  omega

/-- The rounded length is a whole number of pages. -/
theorem wholePages_mod (len : Nat) : wholePages len % pageSize = 0 :=
  Nat.mul_mod_left _ _

end VendorDispatch
