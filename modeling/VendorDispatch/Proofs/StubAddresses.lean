import Mathlib.Tactic.Common
import VendorDispatch.Proofs.SlotAssignment
import VendorDispatch.Proofs.StubMemory
import VendorDispatch.Stub.Region

/-!
Addresses of stubs and slots correspond to each other, and a stub that was written stays as it is.

* `length_stubCode`: a stub fills its place exactly, so writing one leaves the others alone
  (`ExecutableMemory.read_write_of_disjoint`).
* `stubCode_eq_ok_iff`: which stubs can be written at all.
* `StubRegion.generate_eq_ok`, `StubRegion.generate_eq_error_iff`: all that asking for a stub can
  do.
* `StubRegion.Faithful`: what asking for stubs keeps true: where a stub was written there is the
  code of its slot, and elsewhere nothing.
* `StubRegion.slotForAddress?_eq_some_iff`, `StubRegion.slotAtWord?_eq`: the slot of an address, in
  numbers and in machine words.
* `StubRegion.Serves`, `addresses_match_slots`: what a region answers after it was asked for any
  stubs.
-/

namespace VendorDispatch

/-! ### The code of a stub -/

lemma X86.length_threadLocalStub (tlsOffset displacement : UInt32) :
    (X86.threadLocalStub tlsOffset displacement).length = 16 := rfl

lemma X86.length_threadSpecificStub (displacement : UInt32) (currentGlobal resolver : UInt64) :
    (X86.threadSpecificStub displacement currentGlobal resolver).length = 176 := by
  have hcode : ((X86.threadSpecificCode displacement).map fun i => i.encode.length).sum = 160 := rfl
  simp [X86.threadSpecificStub, X86.assemble, List.length_flatMap, hcode]

lemma Arm.length_assemble (is : List Arm.Instruction) :
    (Arm.assemble is).length = 4 * is.length := by
  induction is with
  | nil => rfl
  | cons i is ih =>
      have hi : i.encode.length = 4 := length_littleEndian _ _
      simp only [Arm.assemble, List.flatMap_cons, List.length_append, List.length_cons] at ih ⊢
      omega

lemma Arm.length_threadLocalStub (tlsOffset : Int64) (displacement : UInt32) :
    (Arm.threadLocalStub tlsOffset displacement).length = 40 := by
  simp [Arm.threadLocalStub, Arm.length_assemble, Arm.threadLocalCode]

lemma Arm.length_threadSpecificStub (displacement : UInt32) (currentGlobal resolver : UInt64) :
    (Arm.threadSpecificStub displacement currentGlobal resolver).length = 152 := by
  simp [Arm.threadSpecificStub, Arm.length_assemble, Arm.threadSpecificCode]

/-- Whether the offset of the thread's cell fits where stubs hold it. -/
def StubParams.Patchable (arch : Architecture) (model : StorageModel) (p : StubParams) : Prop :=
  arch = .x86_64 → model = .threadLocal → FitsInt32 p.tlsOffset.toInt

variable {arch : Architecture} {model : StorageModel} {params : StubParams} {s : Slot}
  {code : List UInt8}

/-- The code of a stub, without what fills it up, is no longer than its place. -/
lemma length_stubBody_le (h : stubBody arch model s params = .ok code) :
    code.length ≤ arch.stubSize model := by
  obtain ⟨displacement, -, h⟩ := bind_eq_ok_iff.mp h
  cases arch <;> cases model
  case x86_64.threadLocal =>
    split_ifs at h
    cases h
    exact Nat.le_of_eq (X86.length_threadLocalStub _ displacement)
  case x86_64.threadSpecific =>
    cases h
    rw [X86.length_threadSpecificStub]
    decide
  case aarch64.threadLocal =>
    cases h
    rw [Arm.length_threadLocalStub]
    decide
  case aarch64.threadSpecific =>
    cases h
    rw [Arm.length_threadSpecificStub]
    decide

/-- A stub fills its place exactly. -/
theorem length_stubCode (h : stubCode arch model s params = .ok code) :
    code.length = arch.stubSize model := by
  obtain ⟨body, hbody, h⟩ := bind_eq_ok_iff.mp h
  cases h
  have hle := length_stubBody_le hbody
  simp only [padTo, List.length_append, List.length_replicate]
  omega

/-- A stub can be written if its slot's displacement and the offset of the thread's cell fit. -/
theorem stubCode_eq_ok_iff :
    (∃ code, stubCode arch model s params = .ok code) ↔
      s.index < 0x10000000 ∧ params.Patchable arch model := by
  rw [← slotDisplacement_eq_ok_iff]
  constructor
  · rintro ⟨code, h⟩
    obtain ⟨body, hbody, -⟩ := bind_eq_ok_iff.mp h
    obtain ⟨displacement, hd, hbody⟩ := bind_eq_ok_iff.mp hbody
    refine ⟨⟨displacement, hd⟩, ?_⟩
    rintro rfl rfl
    by_contra hfits
    simp only [if_neg hfits] at hbody
    cases hbody
  · rintro ⟨⟨displacement, hd⟩, hfits⟩
    rw [stubCode, stubBody, hd]
    cases arch <;> cases model
    case x86_64.threadLocal =>
      simp only [if_pos (hfits rfl rfl)]
      exact ⟨_, rfl⟩
    all_goals exact ⟨_, rfl⟩

/-- In a buffer of its size, a stub is all there is. -/
lemma writeStub_of_length {buffer : List UInt8} (hbuffer : buffer.length = arch.stubSize model)
    (h : stubCode arch model s params = .ok code) :
    writeStub arch model s params buffer = .ok code := by
  have hlength : code.length = buffer.length := (length_stubCode h).trans hbuffer.symm
  have hover : overwrite buffer 0 code = code := by simp [overwrite, hlength]
  rw [writeStub, h]
  exact congrArg Except.ok hover

/-- Every stub of a slot that is near enough can be written, if its offset fits. -/
lemma exists_writeStub (hs : s.index < 0x10000000) (hpatch : params.Patchable arch model)
    (buffer : List UInt8) : ∃ stub, writeStub arch model s params buffer = .ok stub := by
  obtain ⟨code, hcode⟩ := stubCode_eq_ok_iff.mpr ⟨hs, hpatch⟩
  refine ⟨overwrite buffer 0 code, ?_⟩
  rw [writeStub, hcode]
  rfl

/-- Writing a stub keeps the length of a buffer that has room for it. -/
lemma length_writeStub {buffer stub : List UInt8} (hbuffer : arch.stubSize model ≤ buffer.length)
    (h : writeStub arch model s params buffer = .ok stub) : stub.length = buffer.length := by
  obtain ⟨code, hcode, h⟩ := bind_eq_ok_iff.mp h
  cases h
  refine length_overwrite ?_
  rwa [length_stubCode hcode, Nat.zero_add]

/-- A stub that was written starts with its code. -/
lemma exists_stubBody {buffer stub : List UInt8}
    (h : writeStub arch model s params buffer = .ok stub) :
    ∃ code rest, stubBody arch model s params = .ok code ∧ stub = code ++ rest := by
  obtain ⟨full, hfull, h⟩ := bind_eq_ok_iff.mp h
  obtain ⟨code, hcode, hfull⟩ := bind_eq_ok_iff.mp hfull
  cases hfull
  cases h
  exact ⟨code, _, hcode, List.append_assoc code _ _⟩

namespace ExecutableMemory

/-- Bytes beside the written ones stay. -/
lemma read_write_of_disjoint {m : ExecutableMemory} {first start n : Nat}
    (h : first + n ≤ start ∨ start + code.length ≤ first) :
    (m.write start code).read first n = m.read first n := by
  refine List.map_congr_left fun i hi => content_write_of_disjoint ?_
  have hlt := List.mem_range.mp hi
  omega

end ExecutableMemory

/-! ### Asking for one stub -/

namespace StubRegion

variable {r u v : StubRegion} {address : Nat} {e : Error}

/-- All that asking for a stub can do when it succeeds. -/
theorem generate_eq_ok (h : r.generate s = .ok (address, u)) :
    s.index < maxSlots ∧ address = r.stubAddress s.index ∧
      (r.hasStub s.index = true ∧ u = r ∨
        ∃ code, stubCode r.arch r.model s r.params = .ok code ∧
          u = { r with
            memory := r.memory.write (s.index * r.stubSize) code
            generated := r.generated.setIfInBounds s.index true }) := by
  simp only [generate] at h
  split_ifs at h with hfar hstub
  · cases h
    exact ⟨Nat.lt_of_not_le hfar, rfl, .inl ⟨hstub, rfl⟩⟩
  · obtain ⟨code, hcode, h⟩ := bind_eq_ok_iff.mp h
    cases h
    exact ⟨Nat.lt_of_not_le hfar, rfl, .inr ⟨code, hcode, rfl⟩⟩

/-- A stub is refused if there is no place for it, or if its code cannot be made. -/
theorem generate_eq_error_iff :
    r.generate s = .error e ↔
      maxSlots ≤ s.index ∧ e = .invalidSlot ∨
        s.index < maxSlots ∧ r.hasStub s.index = false ∧
          stubCode r.arch r.model s r.params = .error e := by
  simp only [generate]
  split_ifs with hfar hstub
  · -- there is no place for it
    constructor
    · intro h
      cases h
      exact .inl ⟨hfar, rfl⟩
    · rintro (⟨-, rfl⟩ | ⟨hlt, -⟩)
      · rfl
      · omega
  · -- there is a stub already, and nothing can fail
    simp [hfar, hstub]
  · have hlt := Nat.lt_of_not_le hfar
    cases stubCode r.arch r.model s r.params with
    | error e' =>
        -- it has to be written
        change Except.error e' = Except.error e ↔ _
        simp [hfar, hlt, hstub]
    | ok code =>
        constructor
        · intro h
          cases h
        · simp [hfar]

/-- The region `u` is laid out as `r` is, and perhaps has more stubs. -/
structure SameLayout (r u : StubRegion) : Prop where
  arch : u.arch = r.arch
  model : u.model = r.model
  params : u.params = r.params
  start : u.start = r.start
  size : u.memory.size = r.memory.size
  stubs : ∀ i, r.hasStub i = true → u.hasStub i = true

namespace SameLayout

lemma refl (r : StubRegion) : r.SameLayout r := ⟨rfl, rfl, rfl, rfl, rfl, fun _ h => h⟩

lemma trans (h : r.SameLayout u) (h' : u.SameLayout v) : r.SameLayout v :=
  ⟨h'.arch.trans h.arch, h'.model.trans h.model, h'.params.trans h.params,
    h'.start.trans h.start, h'.size.trans h.size, fun i hi => h'.stubs i (h.stubs i hi)⟩

lemma stubSize (h : r.SameLayout u) : u.stubSize = r.stubSize := by
  rw [StubRegion.stubSize, StubRegion.stubSize, h.arch, h.model]

lemma stubAddress (h : r.SameLayout u) (i : Nat) : u.stubAddress i = r.stubAddress i := by
  rw [StubRegion.stubAddress, StubRegion.stubAddress, h.start, h.stubSize]

lemma limit (h : r.SameLayout u) : u.limit = r.limit := h.stubAddress maxSlots

/-- A stub keeps its address. -/
lemma addressOf? (h : r.SameLayout u) (hs : r.addressOf? s = some address) :
    u.addressOf? s = some address := by
  simp only [StubRegion.addressOf?, Option.ite_none_right_eq_some, Option.some.injEq] at hs ⊢
  exact ⟨h.stubs _ hs.1, (h.stubAddress _).trans hs.2⟩

end SameLayout

/-- To make a stub moves no other one. -/
lemma sameLayout_generate (h : r.generate s = .ok (address, u)) : r.SameLayout u := by
  have stubs (i : Nat) (hi : r.hasStub i = true) : u.hasStub i = true := by
    simp [hasStub_generate h, hi]
  obtain ⟨-, -, ⟨-, rfl⟩ | ⟨code, -, rfl⟩⟩ := generate_eq_ok h
  · exact .refl u
  · exact ⟨rfl, rfl, rfl, rfl, rfl, stubs⟩

/-! ### Where stubs were written -/

/-- Where a stub was written there is the code of its slot, and elsewhere nothing. -/
structure Faithful (r : StubRegion) : Prop where
  written : ∀ s, r.hasStub s.index = true →
    stubCode r.arch r.model s r.params = .ok (r.stubBytes s)
  blank : ∀ s, r.hasStub s.index = false → r.stubBytes s = List.replicate r.stubSize 0

/-- A region that was made is empty, and has room for all stubs. -/
lemma create?_eq_ok {k : Kernel} (h : create? k arch model params = some (.ok r)) :
    r.arch = arch ∧ r.model = model ∧ r.params = params ∧
      maxSlots * arch.stubSize model ≤ r.memory.size ∧ (∀ i, r.hasStub i = false) ∧
      r.Faithful := by
  obtain ⟨memory, hmemory, h⟩ := Option.map_eq_some_iff.mp h
  obtain ⟨m, rfl, h⟩ := bind_eq_ok_iff.mp h
  cases h
  obtain ⟨hsize, hcontent⟩ := ExecutableMemory.map?_eq_ok hmemory
  have hstub (i : Nat) : ({ arch, model, params, memory := m } : StubRegion).hasStub i = false := by
    rw [hasStub, Vector.getElem?_replicate]
    split_ifs <;> rfl
  refine ⟨rfl, rfl, rfl, hsize, hstub, fun s hs => ?_, fun s _ => ?_⟩
  · rw [hstub] at hs
    cases hs
  · simp [stubBytes, ExecutableMemory.read, hcontent, List.map_const']

/-- A new stub is its code, and the others stay. -/
lemma Faithful.generate (h : r.Faithful) (hu : r.generate s = .ok (address, u)) :
    u.Faithful := by
  obtain ⟨-, -, ⟨-, rfl⟩ | ⟨code, hcode, hwrite⟩⟩ := generate_eq_ok hu
  · exact h
  have hstub := hasStub_generate hu
  have hlayout := sameLayout_generate hu
  have hlength : code.length = r.stubSize := length_stubCode hcode
  -- the stub that was written is its code, and those beside it are as they were
  have hself : u.stubBytes s = code := by
    have hread := r.memory.read_write (s.index * r.stubSize) code
    rw [hlength] at hread
    subst hwrite
    exact hread
  have hother (t : Slot) (ht : t.index ≠ s.index) : u.stubBytes t = r.stubBytes t := by
    subst hwrite
    refine ExecutableMemory.read_write_of_disjoint ?_
    rw [hlength]
    rcases Nat.lt_or_gt_of_ne ht with hlt | hlt
    · exact .inl (Nat.succ_mul _ _ ▸ Nat.mul_le_mul_right _ hlt)
    · exact .inr (Nat.succ_mul _ _ ▸ Nat.mul_le_mul_right _ hlt)
  constructor
  · intro t ht
    rw [hlayout.arch, hlayout.model, hlayout.params]
    by_cases hts : t.index = s.index
    · obtain rfl := Slot.index_inj.mp hts
      rw [hself, hcode]
    · rw [hother t hts]
      rw [hstub] at ht
      exact h.written t (by simpa [hts] using ht)
  · intro t ht
    rw [hstub] at ht
    obtain ⟨hts, ht⟩ : t.index ≠ s.index ∧ r.hasStub t.index = false := by simpa using ht
    rw [hother t hts, hlayout.stubSize]
    exact h.blank t ht

/-- In such a region, a stub can be had if there is a place for it and its code can be made. -/
lemma Faithful.generate_eq_ok_iff (h : r.Faithful) :
    (∃ p, r.generate s = .ok p) ↔ s.index < maxSlots ∧ r.params.Patchable r.arch r.model := by
  have hfits : s.index < maxSlots → s.index < 0x10000000 := by
    intro hlt
    have hmax : maxSlots = 4096 := rfl
    omega
  cases hr : r.generate s with
  | ok p =>
      refine ⟨fun _ => ?_, fun _ => ⟨p, rfl⟩⟩
      obtain ⟨hlt, -, ⟨hstub, -⟩ | ⟨code, hcode, -⟩⟩ := generate_eq_ok hr
      · exact ⟨hlt, (stubCode_eq_ok_iff.mp ⟨_, h.written s hstub⟩).2⟩
      · exact ⟨hlt, (stubCode_eq_ok_iff.mp ⟨_, hcode⟩).2⟩
  | error e =>
      refine ⟨nofun, fun ⟨hlt, hpatch⟩ => ?_⟩
      obtain ⟨code, hcode⟩ := stubCode_eq_ok_iff.mpr ⟨hfits hlt, hpatch⟩
      rcases generate_eq_error_iff.mp hr with ⟨hfar, -⟩ | ⟨-, -, he⟩
      · omega
      · rw [hcode] at he
        cases he

/-! ### Addresses -/

/-- Only slots of the table have stubs. -/
lemma lt_of_hasStub {i : Nat} (h : r.hasStub i = true) : i < maxSlots := by
  by_contra hlt
  rw [hasStub, Vector.getElem?_eq_none (Nat.le_of_not_lt hlt)] at h
  cases h

lemma stubSize_pos (r : StubRegion) : 0 < r.stubSize := Architecture.stubSize_pos _ _

/-- The address of a stub is told if the stub is there. -/
lemma addressOf?_eq_some_iff :
    r.addressOf? s = some address ↔ r.hasStub s.index = true ∧ r.stubAddress s.index = address := by
  rw [addressOf?, Option.ite_none_right_eq_some, Option.some.injEq]

/-- Every stub starts within the region. -/
lemma stubAddress_lt_limit (r : StubRegion) {i : Nat} (h : i < maxSlots) :
    r.stubAddress i < r.limit :=
  Nat.add_lt_add_left (Nat.mul_lt_mul_of_pos_right h r.stubSize_pos) _

/-- An address has a slot exactly if the slot's stub starts there. -/
theorem slotForAddress?_eq_some_iff :
    r.slotForAddress? address = some s ↔ r.addressOf? s = some address := by
  rw [addressOf?_eq_some_iff, slotForAddress?, Option.ite_none_left_eq_some,
    Option.ite_none_right_eq_some, Option.some.injEq, not_or, Nat.not_lt, Nat.not_le]
  constructor
  · rintro ⟨⟨hstart, -⟩, ⟨hmod, hstub⟩, rfl⟩
    have hlt := lt_of_hasStub hstub
    rw [Slot.index_ofIndex (Nat.lt_trans hlt (by decide))]
    refine ⟨hstub, ?_⟩
    rw [stubAddress, Nat.div_mul_cancel (Nat.dvd_of_mod_eq_zero hmod)]
    omega
  · rintro ⟨hstub, rfl⟩
    have hstart : r.start ≤ r.stubAddress s.index := Nat.le_add_right _ _
    have hdistance : r.stubAddress s.index - r.start = s.index * r.stubSize :=
      Nat.add_sub_cancel_left _ _
    simp only [hdistance, Nat.mul_mod_left, Nat.mul_div_cancel _ r.stubSize_pos, hstub,
      Slot.ofIndex_index]
    exact ⟨⟨hstart, r.stubAddress_lt_limit (lt_of_hasStub hstub)⟩, ⟨trivial, trivial⟩, trivial⟩

/-- The slot whose stub starts at an address, in machine words: the distance from the first stub
is masked and divided. -/
def slotAtWord? (r : StubRegion) (address : UInt64) : Option Slot :=
  if address < UInt64.ofNat r.start ∨ UInt64.ofNat r.limit ≤ address then
    none
  else
    let distance := address - UInt64.ofNat r.start
    let i := (distance / UInt64.ofNat r.stubSize).toNat
    if distance &&& (UInt64.ofNat r.stubSize - 1) = 0 ∧ r.hasStub i then
      some (Slot.ofIndex i)
    else
      none

lemma isPowerOfTwo_stubSize (r : StubRegion) : Nat.isPowerOfTwo r.stubSize := by
  rw [stubSize]
  cases r.arch <;> cases r.model
  case x86_64.threadLocal => exact ⟨4, rfl⟩
  case aarch64.threadLocal => exact ⟨6, rfl⟩
  all_goals exact ⟨8, rfl⟩

/-- A distance that the mask leaves nothing of is a whole number of stubs. -/
lemma and_mask_eq_zero_iff {size distance : UInt64} (h : Nat.isPowerOfTwo size.toNat) :
    distance &&& (size - 1) = 0 ↔ distance.toNat % size.toNat = 0 := by
  obtain ⟨k, hk⟩ := h
  have hpos : 0 < size.toNat := hk ▸ Nat.two_pow_pos k
  have hone : (1 : UInt64) ≤ size := by
    rw [UInt64.le_iff_toNat_le]
    exact hpos
  rw [← UInt64.toNat_inj, UInt64.toNat_and, UInt64.toNat_sub_of_le _ _ hone, hk]
  exact Eq.congr_left (Nat.and_two_pow_sub_one_eq_mod _ k)

/-- In a region that does not wrap around, machine words give the same slot as numbers. -/
theorem slotAtWord?_eq (h : r.limit < addressSpace) (a : UInt64) :
    r.slotAtWord? a = r.slotForAddress? a.toNat := by
  -- nothing of the region is cut off when it is made a word
  have hstart : r.start ≤ r.limit := Nat.le_add_right _ _
  have hsize : r.stubSize ≤ r.limit :=
    Nat.le_trans (Nat.le_mul_of_pos_left _ (by decide)) (Nat.le_add_left _ _)
  have hspace : addressSpace = UInt64.size := rfl
  have start_toNat : (UInt64.ofNat r.start).toNat = r.start :=
    UInt64.toNat_ofNat_of_lt (by omega)
  have limit_toNat : (UInt64.ofNat r.limit).toNat = r.limit :=
    UInt64.toNat_ofNat_of_lt (by omega)
  have size_toNat : (UInt64.ofNat r.stubSize).toNat = r.stubSize :=
    UInt64.toNat_ofNat_of_lt (by omega)
  have hpower : Nat.isPowerOfTwo (UInt64.ofNat r.stubSize).toNat := by
    rw [size_toNat]
    exact r.isPowerOfTwo_stubSize
  have hrange : (a < UInt64.ofNat r.start ∨ UInt64.ofNat r.limit ≤ a) ↔
      (a.toNat < r.start ∨ r.limit ≤ a.toNat) := by
    rw [UInt64.lt_iff_toNat_lt, UInt64.le_iff_toNat_le, start_toNat, limit_toNat]
  simp only [slotAtWord?, slotForAddress?, hrange]
  by_cases hout : a.toNat < r.start ∨ r.limit ≤ a.toNat
  · rw [if_pos hout, if_pos hout]
  · have hle : UInt64.ofNat r.start ≤ a := by
      rw [UInt64.le_iff_toNat_le, start_toNat]
      omega
    simp only [if_neg hout, and_mask_eq_zero_iff hpower, UInt64.toNat_div,
      UInt64.toNat_sub_of_le _ _ hle, start_toNat, size_toNat]

/-! ### Asking for any number of stubs -/

/-- The region after a stub was asked for, if it could be written. -/
def ask (r : StubRegion) (s : Slot) : StubRegion :=
  match r.generate s with
  | .ok (_, u) => u
  | .error _ => r

/-- The region after several stubs were asked for. -/
def askEach (r : StubRegion) (calls : List Slot) : StubRegion := calls.foldl ask r

lemma ask_of_generate (h : r.generate s = .ok (address, u)) : r.ask s = u := by
  rw [ask, h]

lemma ask_of_error (h : r.generate s = .error e) : r.ask s = r := by
  rw [ask, h]

lemma sameLayout_ask (r : StubRegion) (s : Slot) : r.SameLayout (r.ask s) := by
  rw [ask]
  split
  · next h => exact sameLayout_generate h
  · exact .refl r

lemma Faithful.ask (h : r.Faithful) (s : Slot) : (r.ask s).Faithful := by
  rw [StubRegion.ask]
  split
  · next hu => exact h.generate hu
  · exact h

/-- A stub that is there was there before, or was asked for. -/
lemma hasStub_ask {i : Nat} (h : (r.ask s).hasStub i = true) :
    r.hasStub i = true ∨ s.index = i ∧ ∃ p, r.generate s = .ok p := by
  cases hu : r.generate s with
  | error e =>
      rw [ask_of_error hu] at h
      exact .inl h
  | ok p =>
      rw [ask_of_generate hu, hasStub_generate hu, Bool.or_eq_true, decide_eq_true_iff] at h
      rcases h with rfl | h
      · exact .inr ⟨rfl, p, rfl⟩
      · exact .inl h

lemma askEach_append (r : StubRegion) (calls later : List Slot) :
    r.askEach (calls ++ later) = (r.askEach calls).askEach later := List.foldl_append

/-- However many stubs are asked for, the region stays where it is. -/
lemma sameLayout_askEach (r : StubRegion) (calls : List Slot) : r.SameLayout (r.askEach calls) := by
  induction calls generalizing r with
  | nil => exact .refl r
  | cons s calls ih => exact (r.sameLayout_ask s).trans (ih _)

/-- And all of its stubs are their code. -/
lemma Faithful.askEach (h : r.Faithful) (calls : List Slot) : (r.askEach calls).Faithful := by
  induction calls generalizing r with
  | nil => exact h
  | cons s calls ih => exact ih (h.ask s)

/-- A slot has a stub exactly if one of the calls was answered with it. -/
lemma hasStub_askEach_iff (h : ∀ i, r.hasStub i = false) {calls : List Slot} :
    (r.askEach calls).hasStub s.index = true ↔
      ∃ before later p, calls = before ++ s :: later ∧
        (r.askEach before).generate s = .ok p := by
  constructor
  · induction calls using List.reverseRecOn with
    | nil =>
        intro hs
        rw [askEach, List.foldl_nil, h] at hs
        cases hs
    | append_singleton calls last ih =>
        intro hs
        rw [askEach_append] at hs
        rcases hasStub_ask hs with hs | ⟨hlast, p, hp⟩
        · obtain ⟨before, later, p, rfl, hp⟩ := ih hs
          exact ⟨before, later ++ [last], p, by simp, hp⟩
        · obtain rfl := Slot.index_inj.mp hlast
          exact ⟨calls, [], p, rfl, hp⟩
  · rintro ⟨before, later, ⟨address, u⟩, rfl, hu⟩
    have hstub : u.hasStub s.index = true := by simp [hasStub_generate hu]
    rw [askEach_append]
    refine (sameLayout_askEach _ later).stubs _ ?_
    rwa [ask_of_generate hu]

/-- What a region answers after any calls. It was `fresh` when it was made. -/
structure Serves (arch : Architecture) (model : StorageModel) (params : StubParams)
    (fresh : StubRegion) (calls : List Slot) (r : StubRegion) : Prop where
  /-- There are only so many stubs, and their addresses are in order. -/
  address : ∀ s a u, r.generate s = .ok (a, u) →
    s.index < maxSlots ∧ a = fresh.start + s.index * arch.stubSize model
  /-- Stubs can be had for all slots that have a place, or for none. -/
  succeeds : ∀ s, (∃ p, r.generate s = .ok p) ↔
    s.index < maxSlots ∧ params.Patchable arch model
  /-- What is refused changes nothing. -/
  refused : ∀ s e, r.generate s = .error e → fresh.askEach (calls ++ [s]) = r
  /-- A slot has an address exactly if one of the calls was answered with it. -/
  known : ∀ s a, r.addressOf? s = some a ↔
    a = fresh.start + s.index * arch.stubSize model ∧
      ∃ before later p, calls = before ++ s :: later ∧ (fresh.askEach before).generate s = .ok p
  /-- An address has a slot exactly if it is the slot's. -/
  inverse : ∀ a s, r.slotForAddress? a = some s ↔ r.addressOf? s = some a
  /-- Machine words give the same answer. -/
  machine : ∀ a : UInt64, r.slotAtWord? a = r.slotForAddress? a.toNat
  /-- The bytes of a stub are those that are written for its slot, whatever is asked for later. -/
  written : ∀ s a, r.addressOf? s = some a → ∀ later buffer,
    buffer.length = arch.stubSize model →
      writeStub arch model s params buffer = .ok ((r.askEach later).stubBytes s)
  /-- The place of a stub that was not written is zero. -/
  blank : ∀ s, r.addressOf? s = none →
    r.stubBytes s = List.replicate (arch.stubSize model) 0
  /-- All stubs are inside the memory. -/
  inside : ∀ s : Slot, s.index < maxSlots → (s.index + 1) * arch.stubSize model ≤ r.memory.size

/-- Whatever stubs a region was asked for, its slots and addresses correspond to each other, and
every stub is as it was written first. -/
theorem addresses_match_slots {k : Kernel} {fresh : StubRegion}
    (hfresh : create? k arch model params = some (.ok fresh)) (hlimit : fresh.limit < addressSpace)
    (calls : List Slot) : Serves arch model params fresh calls (fresh.askEach calls) := by
  obtain ⟨rfl, rfl, rfl, hsize, hempty, hfaithful⟩ := create?_eq_ok hfresh
  have h := hfaithful.askEach calls
  have hlayout := fresh.sameLayout_askEach calls
  have hstub (s : Slot) : (fresh.askEach calls).hasStub s.index = true ↔
      ∃ before later p, calls = before ++ s :: later ∧ (fresh.askEach before).generate s = .ok p :=
    hasStub_askEach_iff hempty
  have same (s : Slot) : fresh.askEach (calls ++ [s]) = (fresh.askEach calls).ask s :=
    askEach_append fresh calls [s]
  -- from here on only what is known of the region counts, not how it came about
  generalize fresh.askEach calls = r at h hlayout hstub same
  refine ⟨fun s a u hu => ?address, fun s => ?succeeds, fun s e he => ?refused, fun s a => ?known,
    fun a s => slotForAddress?_eq_some_iff, slotAtWord?_eq (hlayout.limit ▸ hlimit),
    fun s a hs later buffer hbuffer => ?written, fun s hs => ?blank, fun s hs => ?inside⟩
  case address =>
    obtain ⟨hlt, rfl, -⟩ := generate_eq_ok hu
    exact ⟨hlt, hlayout.stubAddress _⟩
  case succeeds =>
    rw [h.generate_eq_ok_iff, hlayout.arch, hlayout.model, hlayout.params]
  case refused => rw [same, ask_of_error he]
  case known =>
    rw [addressOf?_eq_some_iff, hstub, hlayout.stubAddress]
    exact and_comm.trans (and_congr_left' eq_comm)
  case written =>
    have hlater := hlayout.trans (r.sameLayout_askEach later)
    have hcode := (h.askEach later).written s
      ((r.sameLayout_askEach later).stubs _ (addressOf?_eq_some_iff.mp hs).1)
    rw [hlater.arch, hlater.model, hlater.params] at hcode
    exact writeStub_of_length hbuffer hcode
  case blank =>
    have hnone : r.hasStub s.index = false := by
      rw [← Bool.not_eq_true]
      intro hstub
      rw [addressOf?, if_pos hstub] at hs
      cases hs
    have hblank := h.blank s hnone
    rwa [hlayout.stubSize] at hblank
  case inside =>
    rw [hlayout.size]
    exact Nat.le_trans (Nat.mul_le_mul_right _ hs) hsize

/-- A system that refuses memory that can be both written and run. -/
def strictKernel : Kernel where
  mapAnonymous _ := .error 13
  createFile := .ok ()
  resizeFile _ := .ok ()
  mapWritable _ := .ok 0x200000
  mapExecutable _ := .ok 0x100000

/-- The region that such a system makes room for. -/
def strictRegion : StubRegion where
  arch := .x86_64
  model := .threadLocal
  params := { tlsOffset := -64 }
  memory := { executable := 0x100000, writable := 0x200000, size := 0x10000 }

/-- A region of a kernel that maps it far up, where one stub is made. -/
theorem addresses_match_slots_strict :
    create? strictKernel .x86_64 .threadLocal { tlsOffset := -64 } = some (.ok strictRegion) ∧
      strictRegion.limit < addressSpace ∧ strictRegion.memory.isDual = true ∧
      (strictRegion.askEach [⟨7⟩, ⟨4096⟩, ⟨7⟩]).slotForAddress? 0x100070 = some ⟨7⟩ ∧
      (strictRegion.askEach [⟨7⟩, ⟨4096⟩, ⟨7⟩]).slotForAddress? 0x100071 = none := by
  have hfresh : create? strictKernel .x86_64 .threadLocal { tlsOffset := -64 } =
      some (.ok strictRegion) := rfl
  have hlimit : strictRegion.limit < addressSpace := by decide
  have before := addresses_match_slots hfresh hlimit []
  have after := addresses_match_slots hfresh hlimit [⟨7⟩, ⟨4096⟩, ⟨7⟩]
  obtain ⟨p, hp⟩ := (before.succeeds ⟨7⟩).mpr ⟨by decide, fun _ _ => by decide⟩
  refine ⟨hfresh, hlimit, by decide, (after.inverse _ _).mpr ((after.known _ _).mpr
    ⟨by decide, [], _, p, rfl, hp⟩), Option.eq_none_iff_forall_ne_some.mpr fun s hs => ?_⟩
  obtain ⟨haddress, -⟩ := (after.known _ _).mp ((after.inverse _ _).mp hs)
  simp only [strictRegion, start, Architecture.stubSize] at haddress
  omega

end StubRegion

end VendorDispatch
