import Mathlib.Order.Bounds.Basic
import Mathlib.Tactic.Common
import VendorDispatch.Stub.Memory

/-!
Memory for stubs is the least whole number of pages that holds what was asked for.

* `LeastPages`: rounding up, as arithmetic without bounds has it (`leastPages_wholePages`).
* `roundChecked?`: rounding up step by step, where every sum, difference and product has to stay
  inside the address space. `roundChecked?_eq`: only the first sum can leave it.
* `ExecutableMemory.Mapped`: all that the answers of a system can lead to, with one case for each
  way through `ExecutableMemory.map?` (`mapped_of_map?`).
* `memory_covers_length`: which memory there is for a length, and which lengths overflow.
  `last_page_overflows`: one of them is a whole number of pages already.
-/

namespace VendorDispatch

/-! ### Rounding up -/

section Rounding

variable {len size n : Nat}

lemma wholePages_pos (len : Nat) : 0 < wholePages len := by
  simp only [wholePages, pageSize]
  omega

/-- The least positive multiple of the page size that is no less than a length. -/
def LeastPages (len size : Nat) : Prop :=
  IsLeast {n | 0 < n ∧ pageSize ∣ n ∧ len ≤ n} size

/-- Rounding up finds the least number of bytes in whole pages. -/
lemma leastPages_wholePages (len : Nat) : LeastPages len (wholePages len) := by
  refine ⟨⟨wholePages_pos len, Nat.dvd_of_mod_eq_zero (wholePages_mod len), le_wholePages len⟩, ?_⟩
  rintro n ⟨hpos, ⟨pages, rfl⟩, hle⟩
  rw [Nat.mul_comm] at hle ⊢
  exact wholePages_le hle (Nat.pos_of_mul_pos_left hpos)

lemma LeastPages.eq (h : LeastPages len size) : size = wholePages len :=
  IsLeast.unique h (leastPages_wholePages len)

/-- A sum or a product, if it stays inside the address space. -/
def inAddressSpace? (n : Nat) : Option Nat := if n < addressSpace then some n else none

/-- A difference, if there is enough to take it from. -/
def subtract? (n k : Nat) : Option Nat := if k ≤ n then some (n - k) else none

/-- Rounds a length up to whole pages, and checks every step. -/
def roundChecked? (len : Nat) : Option Nat := do
  let sum ← inAddressSpace? (max len 1 + pageSize)
  let last ← subtract? sum 1
  inAddressSpace? (last / pageSize * pageSize)

/-- If the sum stays inside the address space, so does everything after it. -/
lemma roundChecked?_eq (len : Nat) : roundChecked? len = roundToPages? len := by
  rw [roundChecked?, roundToPages?]
  by_cases h : CanRound len
  · -- What comes after the sum is no more than the sum.
    have hsum : inAddressSpace? (max len 1 + pageSize) = some (max len 1 + pageSize) := if_pos h
    have hlast : subtract? (max len 1 + pageSize) 1 = some (max len 1 + pageSize - 1) :=
      if_pos (Nat.le_add_left_of_le (by decide))
    have hproduct : wholePages len < addressSpace :=
      calc wholePages len
          ≤ max len 1 + pageSize - 1 := Nat.div_mul_le_self _ _
        _ ≤ max len 1 + pageSize := Nat.sub_le _ _
        _ < addressSpace := h
    rw [hsum, if_pos h, Option.bind_eq_bind, Option.bind_some, hlast, Option.bind_some]
    exact if_pos hproduct
  · have hsum : inAddressSpace? (max len 1 + pageSize) = none := if_neg h
    rw [hsum, if_neg h]
    rfl

/-- The length zero is rounded like the length one, so the page that is added decides alone. -/
lemma canRound_iff : CanRound len ↔ len + pageSize < addressSpace := by
  simp only [CanRound, pageSize, addressSpace]
  omega

/-- The rounding overflows if the length and a page do. -/
lemma roundToPages?_eq_none_iff : roundToPages? len = none ↔ addressSpace ≤ len + pageSize := by
  rw [roundToPages?, ite_eq_right_iff, canRound_iff]
  simp

/-- Which lengths whole pages inside the address space can hold. -/
lemma wholePages_lt_iff : wholePages len < addressSpace ↔ len + pageSize ≤ addressSpace := by
  simp only [wholePages, pageSize, addressSpace]
  omega

lemma exists_leastPages_lt_iff :
    (∃ size, LeastPages len size ∧ size < addressSpace) ↔ len + pageSize ≤ addressSpace := by
  rw [← wholePages_lt_iff]
  constructor
  · rintro ⟨size, hsize, hlt⟩
    rwa [hsize.eq] at hlt
  · exact fun hlt => ⟨_, leastPages_wholePages len, hlt⟩

end Rounding

/-! ### What a system answers -/

namespace ExecutableMemory

/-- What becomes of a file that is to be mapped twice. -/
inductive MappedTwice (k : Kernel) (size : Nat) : Except Error ExecutableMemory → Prop
  /-- There is no file. -/
  | noFile {errno : Int} : k.createFile = .error errno →
    MappedTwice k size (.error (.executableMemoryMapFailed errno))
  /-- The file cannot be that long. -/
  | tooLong {errno : Int} : k.createFile = .ok () → k.resizeFile size = .error errno →
    MappedTwice k size (.error (.executableMemoryMapFailed errno))
  /-- The file cannot be mapped to be written. -/
  | notWritable {errno : Int} : k.createFile = .ok () → k.resizeFile size = .ok () →
    k.mapWritable size = .error errno →
    MappedTwice k size (.error (.executableMemoryMapFailed errno))
  /-- The file cannot be mapped to be run. -/
  | notExecutable {writable : Nat} {errno : Int} : k.createFile = .ok () →
    k.resizeFile size = .ok () → k.mapWritable size = .ok writable →
    k.mapExecutable size = .error errno →
    MappedTwice k size (.error (.executableMemoryProtectFailed errno))
  /-- There are two views of the file. -/
  | views {writable executable : Nat} : k.createFile = .ok () → k.resizeFile size = .ok () →
    k.mapWritable size = .ok writable → k.mapExecutable size = .ok executable →
    MappedTwice k size (.ok { executable, writable, size })

/-- What becomes of a request for `size` bytes. -/
inductive Mapped (k : Kernel) (size : Nat) : Except Error ExecutableMemory → Prop
  /-- There is one view, which can be written and run. -/
  | view {address : Nat} : k.mapAnonymous size = .ok address →
    Mapped k size (.ok { executable := address, writable := address, size })
  /-- The system refuses that, and is asked for a file. -/
  | twice {errno : Int} {result : Except Error ExecutableMemory} :
    k.mapAnonymous size = .error errno → MappedTwice k size result → Mapped k size result

variable {k : Kernel} {size len : Nat} {m : ExecutableMemory} {e : Error}
  {result : Except Error ExecutableMemory}

lemma mappedTwice (k : Kernel) (size : Nat) : MappedTwice k size (mapTwice k size) := by
  unfold mapTwice
  cases hfile : k.createFile with
  | error errno => exact .noFile hfile
  | ok =>
      cases hlength : k.resizeFile size with
      | error errno => exact .tooLong hfile hlength
      | ok =>
          cases hwritable : k.mapWritable size with
          | error errno => exact .notWritable hfile hlength hwritable
          | ok writable =>
              cases hexecutable : k.mapExecutable size with
              | error errno => exact .notExecutable hfile hlength hwritable hexecutable
              | ok executable => exact .views hfile hlength hwritable hexecutable

/-- The answers of the system decide what becomes of a length that can be rounded. -/
lemma mapped_of_map? (h : map? k len = some result) :
    len + pageSize < addressSpace ∧ Mapped k (wholePages len) result := by
  obtain ⟨size, hsize, rfl⟩ := Option.map_eq_some_iff.mp h
  obtain ⟨hround, rfl⟩ := roundToPages?_eq_some_iff.mp hsize
  refine ⟨canRound_iff.mp hround, ?_⟩
  split
  · next hview => exact .view hview
  · next hview => exact .twice hview (mappedTwice k _)

/-- To map memory panics if the rounding does. -/
lemma map?_eq_none_iff : map? k len = none ↔ addressSpace ≤ len + pageSize := by
  rw [map?, Option.map_eq_none_iff, roundToPages?_eq_none_iff]

/-- New memory is as long as was asked for, and zero. -/
lemma Mapped.of_ok (h : Mapped k size (.ok m)) : m.size = size ∧ m.content = fun _ => 0 := by
  cases h with
  | view => exact ⟨rfl, rfl⟩
  | twice _ h =>
      cases h
      exact ⟨rfl, rfl⟩

lemma Mapped.of_error (h : Mapped k size (.error e)) : ∃ errno,
    e = .executableMemoryMapFailed errno ∨ e = .executableMemoryProtectFailed errno := by
  cases h with
  | twice _ h =>
      cases h with
      | noFile | tooLong | notWritable => exact ⟨_, .inl rfl⟩
      | notExecutable => exact ⟨_, .inr rfl⟩

/-- New memory is zero, and there is enough of it. -/
lemma map?_eq_ok (h : map? k len = some (.ok m)) : len ≤ m.size ∧ m.content = fun _ => 0 := by
  obtain ⟨hsize, hcontent⟩ := (mapped_of_map? h).2.of_ok
  exact ⟨hsize ▸ le_wholePages len, hcontent⟩

/-- What there can be for `len` bytes. -/
structure Covers (k : Kernel) (len : Nat) (result : Except Error ExecutableMemory) : Prop where
  /-- Memory is of the least whole number of pages that holds them, inside the address space. -/
  size : ∀ m, result = .ok m → LeastPages len m.size ∧ m.size < addressSpace
  /-- A failure is one of mapping or of protection. -/
  error : ∀ e, result = .error e → ∃ errno,
    e = .executableMemoryMapFailed errno ∨ e = .executableMemoryProtectFailed errno
  /-- The system was asked for the same number of bytes throughout, and its answers led to this. -/
  mapped : ∃ size, LeastPages len size ∧ Mapped k size result

lemma covers_of_map? (h : map? k len = some result) : Covers k len result := by
  obtain ⟨hround, hmapped⟩ := mapped_of_map? h
  have hleast := leastPages_wholePages len
  refine ⟨?size, ?error, _, hleast, hmapped⟩
  case size =>
    rintro m rfl
    rw [hmapped.of_ok.1]
    exact ⟨hleast, wholePages_lt_iff.mpr (Nat.le_of_lt hround)⟩
  case error =>
    rintro e rfl
    exact hmapped.of_error

/-- Whatever a system answers, a length comes to memory of the least whole number of pages, through
one view or two, or to one of two failures, unless rounding it up overflows. That happens if the
length and one page reach the end of the address space, and only then. Whole pages inside the
address space could hold one such length, the least. -/
theorem memory_covers_length (k : Kernel) (len : Nat) :
    (map? k len = none ↔ addressSpace ≤ len + pageSize) ∧
    (roundChecked? len = none ↔ addressSpace ≤ len + pageSize) ∧
    ((∃ size, LeastPages len size ∧ size < addressSpace) ↔ len + pageSize ≤ addressSpace) ∧
    ∀ result, map? k len = some result → Covers k len result :=
  ⟨map?_eq_none_iff, by rw [roundChecked?_eq, roundToPages?_eq_none_iff], exists_leastPages_lt_iff,
    fun _ => covers_of_map?⟩

/-- A system that refuses memory that can be both written and run, and long files. -/
def frugalKernel : Kernel where
  mapAnonymous _ := .error 12
  createFile := .ok ()
  resizeFile size := if 0x8000000000000000 ≤ size then .error 22 else .ok ()
  mapWritable _ := .ok 0x200000
  mapExecutable _ := .ok 0x100000

/-- The length of all pages but the last is a whole number of pages, and overflows. -/
theorem last_page_overflows :
    let len := addressSpace - pageSize
    len < addressSpace ∧ LeastPages len len ∧ roundChecked? len = none ∧
      map? frugalKernel len = none := by
  intro len
  have hpages : wholePages len = len := by decide
  have hleast := leastPages_wholePages len
  rw [hpages] at hleast
  have hover : addressSpace ≤ len + pageSize := by decide
  refine ⟨by decide, hleast, ?_, map?_eq_none_iff.mpr hover⟩
  rw [roundChecked?_eq, roundToPages?_eq_none_iff]
  exact hover

/-- Through two views, a length that is not a whole number of pages. -/
theorem memory_covers_length_twice :
    ∃ m, map? frugalKernel 5000 = some (.ok m) ∧ m.isDual = true ∧ LeastPages 5000 m.size ∧
      m.size = 8192 := by
  obtain ⟨-, -, -, hcovers⟩ := memory_covers_length frugalKernel 5000
  have hmap : map? frugalKernel 5000 = some (.ok
      { executable := 0x100000, writable := 0x200000, size := 8192 }) := rfl
  exact ⟨_, hmap, rfl, ((hcovers _ hmap).size _ rfl).1, rfl⟩

end ExecutableMemory

end VendorDispatch
