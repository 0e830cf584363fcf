import Mathlib.Data.Int.ModEq
import Mathlib.Tactic.Common
import VendorDispatch.Proofs.StubAddresses
import VendorDispatch.Stub.Patch

/-!
What a stub says can be read off its bytes.

* `StubField.decode_encode`: a number that fits a field is read back from it.
* `layOut`: fixed bytes with fields between them. `patchFields_layOut` is what patching the fields
  does, `slice?_layOut` and `getElem?_layOut` are the bytes inside and outside of the fields.
* `stubPieces`: how each stub is laid out. `stubTemplate_eq` and `stubCode_eq_layOut`: the template
  and the stub that is made at once have this layout.
* `writeStubInPlace_eq`: writing a stub in place is to make it, and to put it over the buffer.
* `decode_stubCode`, `getElem?_stubCode`, `slot_eq_of_stubCode`: the numbers of a stub, its other
  bytes and its slot.
* `stub_fields_decode`: all of it, and when a stub cannot be written.
-/

namespace VendorDispatch

/-! ### Numbers in fields -/

namespace StubField

variable (f : StubField) {n : Int}

/-- Whether a number is one that the bytes of the field can stand for. -/
def Fits (n : Int) : Prop :=
  if f.value.isSigned then
    -((byteRange f.size : Int) / 2) ≤ n ∧ n < ((byteRange f.size : Int) + 1) / 2
  else
    0 ≤ n ∧ n < byteRange f.size

@[simp] lemma length_encode : (f.encode n).length = f.size := length_littleEndian _ _

lemma byteRange_pos (k : Nat) : 0 < byteRange k := by
  induction k with
  | zero => exact Nat.one_pos
  | succ k ih => exact Nat.mul_pos (by decide) ih

/-- A number that fits a field can be read back. -/
lemma decode_encode (h : f.Fits n) : f.decode (f.encode n) = n := by
  have hpos : (0 : Int) < byteRange f.size := by exact_mod_cast byteRange_pos f.size
  have hlow : 0 ≤ n % (byteRange f.size : Int) := Int.emod_nonneg n (Int.ne_of_gt hpos)
  have hhigh : n % (byteRange f.size : Int) < byteRange f.size := Int.emod_lt_of_pos n hpos
  have hread : (ofLittleEndian (f.encode n) : Int) = n % (byteRange f.size : Int) := by
    rw [encode, ofLittleEndian_littleEndian, Nat.mod_eq_of_lt (by omega), Int.toNat_of_nonneg hlow]
  rw [decode, hread]
  rw [Fits] at h
  split_ifs at h ⊢ with hsigned
  · rw [Int.emod_bmod]
    exact Int.bmod_eq_of_le h.1 h.2
  · exact Int.emod_eq_of_lt h.1 h.2

end StubField

/-! ### Fields between fixed bytes -/

/-- Fixed bytes with the content of a field behind them, and so on. -/
def layOut (content : StubField → List UInt8) :
    List (List UInt8 × StubField) → List UInt8 → List UInt8
  | [], rest => rest
  | (fixed, f) :: pieces, rest => fixed ++ (content f ++ layOut content pieces rest)

/-- Whether fields are where they say if they are laid out from a place on. -/
def Placed : Nat → List (List UInt8 × StubField) → Prop
  | _, [] => True
  | start, (fixed, f) :: pieces => f.start = start + fixed.length ∧ Placed (f.start + f.size) pieces

section LayOut

variable {content content' : StubField → List UInt8} {pieces : List (List UInt8 × StubField)}
  {before rest : List UInt8} {slot : Slot} {p : StubParams}

/-- A piece is replaced by one of the same length. -/
lemma overwrite_append {old new : List UInt8} (h : new.length = old.length) :
    overwrite (before ++ (old ++ rest)) before.length new = before ++ (new ++ rest) := by
  rw [overwrite, List.take_left, h, ← List.drop_drop, List.drop_left, List.drop_left,
    List.append_assoc]

/-- Patching fields puts their numbers where other content was. -/
lemma patchFields_layOut (before : List UInt8) (hplaced : Placed before.length pieces)
    (hcontent : ∀ f, (content f).length = f.size) :
    patchFields (pieces.map Prod.snd) slot p (before ++ layOut content pieces rest) =
      before ++ layOut (fun f => f.encode (f.value.of slot p)) pieces rest := by
  -- The first field is patched behind `before`, and then belongs to what is before the others.
  induction pieces generalizing before with
  | nil => rfl
  | cons piece pieces ih =>
      obtain ⟨fixed, f⟩ := piece
      obtain ⟨hstart, hrest⟩ := hplaced
      rw [← List.length_append] at hstart
      have hpatch : overwrite (before ++ (fixed ++ (content f ++ layOut content pieces rest)))
          f.start (f.encode (f.value.of slot p)) =
            before ++ fixed ++ f.encode (f.value.of slot p) ++ layOut content pieces rest := by
        rw [hstart, ← List.append_assoc, overwrite_append, ← List.append_assoc]
        rw [f.length_encode, hcontent]
      have hnext : f.start + f.size =
          (before ++ fixed ++ f.encode (f.value.of slot p)).length := by
        rw [List.length_append, f.length_encode, hstart]
      rw [hnext] at hrest
      calc patchFields (f :: pieces.map Prod.snd) slot p
              (before ++ layOut content ((fixed, f) :: pieces) rest)
        _ = patchFields (pieces.map Prod.snd) slot p
              (before ++ fixed ++ f.encode (f.value.of slot p) ++ layOut content pieces rest) :=
            congrArg (patchFields (pieces.map Prod.snd) slot p) hpatch
        _ = before ++ fixed ++ f.encode (f.value.of slot p) ++
              layOut (fun f => f.encode (f.value.of slot p)) pieces rest := ih _ hrest
        _ = before ++
              layOut (fun f => f.encode (f.value.of slot p)) ((fixed, f) :: pieces) rest := by
            simp only [layOut, List.append_assoc]

/-- The bytes of a field. -/
lemma slice?_layOut (before : List UInt8) (hplaced : Placed before.length pieces)
    (hcontent : ∀ f, (content f).length = f.size) :
    ∀ f ∈ pieces.map Prod.snd,
      slice? (before ++ layOut content pieces rest) f.start f.size = some (content f) := by
  induction pieces generalizing before with
  | nil => nofun
  | cons piece pieces ih =>
      obtain ⟨fixed, f⟩ := piece
      obtain ⟨hstart, hrest⟩ := hplaced
      rw [← List.length_append] at hstart
      have hassoc : before ++ layOut content ((fixed, f) :: pieces) rest =
          before ++ fixed ++ content f ++ layOut content pieces rest := by
        simp only [layOut, List.append_assoc]
      have hnext : f.start + f.size = (before ++ fixed ++ content f).length := by
        rw [List.length_append, hcontent, hstart]
      rw [hnext] at hrest
      rw [hassoc, List.map_cons, List.forall_mem_cons]
      refine ⟨?_, ih _ hrest⟩
      have h := slice?_append_right (before ++ fixed) (content f ++ layOut content pieces rest) 0
        (content f).length
      rw [slice?_append_left, Nat.add_zero, hcontent, ← hstart, ← List.append_assoc] at h
      exact h

/-- Bytes outside of the fields do not depend on what is in the fields. -/
lemma getElem?_layOut {start i : Nat} (hplaced : Placed start pieces)
    (hcontent : ∀ f, (content f).length = f.size) (hcontent' : ∀ f, (content' f).length = f.size)
    (hi : ∀ f ∈ pieces.map Prod.snd, start + i < f.start ∨ f.start + f.size ≤ start + i) :
    (layOut content pieces rest)[i]? = (layOut content' pieces rest)[i]? := by
  induction pieces generalizing start i with
  | nil => rfl
  | cons piece pieces ih =>
      obtain ⟨fixed, f⟩ := piece
      obtain ⟨hstart, hrest⟩ := hplaced
      simp only [List.map_cons, List.forall_mem_cons] at hi
      rw [layOut, layOut]
      rcases Nat.lt_or_ge i fixed.length with hlt | hge
      · rw [List.getElem?_append_left hlt, List.getElem?_append_left hlt]
      · -- The place is not within the first field, so it is behind it.
        have hbehind : f.size ≤ i - fixed.length := by
          have := hi.1
          omega
        rw [List.getElem?_append_right hge, List.getElem?_append_right hge,
          List.getElem?_append_right (by rwa [hcontent]),
          List.getElem?_append_right (by rwa [hcontent']), hcontent, hcontent']
        refine ih hrest fun g hg => ?_
        have := hi.2 g hg
        omega

/-- What comes behind the fields is not part of them. -/
lemma layOut_append (more : List UInt8) :
    layOut content pieces (rest ++ more) = layOut content pieces rest ++ more := by
  induction pieces with
  | nil => rfl
  | cons piece pieces ih => simp only [layOut, ih, List.append_assoc]

/-- The length of what is laid out is independent of the content of its fields. -/
lemma length_layOut (hcontent : ∀ f, (content f).length = f.size)
    (hcontent' : ∀ f, (content' f).length = f.size) :
    (layOut content pieces rest).length = (layOut content' pieces rest).length := by
  induction pieces with
  | nil => rfl
  | cons piece pieces ih => simp only [layOut, List.length_append, hcontent, hcontent', ih]

end LayOut

/-! ### The layout of the stubs -/

/-- What is before each field of a stub. -/
def stubPieces : Architecture → StorageModel → List (List UInt8 × StubField)
  | .x86_64, .threadLocal =>
    [([0x64, 0x48, 0x8b, 0x04, 0x25], ⟨.tlsOffset, 0x05, 4⟩), ([0xff, 0xa0], ⟨.slot, 0x0b, 4⟩)]
  | .x86_64, .threadSpecific =>
    [(X86.assemble ((X86.threadSpecificCode 0).take 4) ++ [0xff, 0xa0], ⟨.slot, 0x11, 4⟩),
      (X86.assemble ((X86.threadSpecificCode 0).drop 5), ⟨.currentGlobal, 0xa0, 8⟩),
      ([], ⟨.resolver, 0xa8, 8⟩)]
  | .aarch64, .threadLocal =>
    [(Arm.assemble Arm.threadLocalCode, ⟨.tlsOffset, 0x18, 8⟩), ([], ⟨.slot, 0x20, 8⟩)]
  | .aarch64, .threadSpecific =>
    [(Arm.assemble Arm.threadSpecificCode, ⟨.currentGlobal, 0x80, 8⟩), ([], ⟨.resolver, 0x88, 8⟩),
      ([], ⟨.slot, 0x90, 8⟩)]

/-- What is behind the last field of a stub. -/
def stubRest : Architecture → StorageModel → List UInt8
  | .x86_64, .threadLocal => [0xcc]
  | _, _ => []

section Layout

variable {arch : Architecture} {model : StorageModel} {slot : Slot} {p : StubParams}

/-- The pieces of a template have the fields of the stub, in their order. -/
lemma map_stubPieces : (stubPieces arch model).map Prod.snd = stubFields arch model := by
  cases arch <;> cases model <;> rfl

/-- Every field stands where the pieces before it end. -/
lemma placed_stubPieces : Placed 0 (stubPieces arch model) := by
  cases arch <;> cases model
  case x86_64.threadLocal => exact ⟨rfl, rfl, trivial⟩
  case x86_64.threadSpecific =>
    have hlength : (X86.assemble ((X86.threadSpecificCode 0).drop 5)).length = 139 := by
      rw [X86.assemble, List.length_flatMap]
      rfl
    exact ⟨rfl, by simp only [hlength], rfl, trivial⟩
  case aarch64.threadLocal =>
    simp [stubPieces, Placed, Arm.length_assemble, Arm.threadLocalCode]
  case aarch64.threadSpecific =>
    simp [stubPieces, Placed, Arm.length_assemble, Arm.threadSpecificCode]

/-- The stub with the given content of its fields. -/
lemma stub_eq_layOut {content : StubField → List UInt8} (displacement tlsField : UInt32)
    (tlsOffset : Int64) (currentGlobal resolver : UInt64)
    (hdisplacement : ∀ start size,
      content ⟨.slot, start, size⟩ = littleEndian size displacement.toNat)
    (hfield : content ⟨.tlsOffset, 0x05, 4⟩ = littleEndian 4 tlsField.toNat)
    (hoffset : content ⟨.tlsOffset, 0x18, 8⟩ = littleEndian 8 tlsOffset.toUInt64.toNat)
    (hcurrentGlobal : ∀ start,
      content ⟨.currentGlobal, start, 8⟩ = littleEndian 8 currentGlobal.toNat)
    (hresolver : ∀ start, content ⟨.resolver, start, 8⟩ = littleEndian 8 resolver.toNat) :
    layOut content (stubPieces arch model) (stubRest arch model) =
      match arch, model with
      | .x86_64, .threadLocal => X86.threadLocalStub tlsField displacement
      | .x86_64, .threadSpecific => X86.threadSpecificStub displacement currentGlobal resolver
      | .aarch64, .threadLocal => Arm.threadLocalStub tlsOffset displacement
      | .aarch64, .threadSpecific =>
        Arm.threadSpecificStub displacement currentGlobal resolver := by
  cases arch <;> cases model
  case x86_64.threadLocal =>
    simp only [stubPieces, stubRest, layOut, hfield, hdisplacement]
    rfl
  case x86_64.threadSpecific =>
    have hcode : X86.threadSpecificCode displacement = (X86.threadSpecificCode 0).take 4 ++
        ([.jumpTable displacement] ++ (X86.threadSpecificCode 0).drop 5) := rfl
    simp only [stubPieces, stubRest, layOut, hdisplacement, hcurrentGlobal, hresolver,
      X86.threadSpecificStub, hcode, X86.assemble, List.flatMap_append, List.flatMap_singleton,
      X86.Instruction.encode, X86.Instruction.field32, List.append_assoc, List.append_nil,
      List.nil_append]
  case aarch64.threadLocal =>
    simp only [stubPieces, stubRest, layOut, hoffset, hdisplacement, Arm.threadLocalStub,
      List.append_assoc, List.append_nil, List.nil_append]
  case aarch64.threadSpecific =>
    simp only [stubPieces, stubRest, layOut, hdisplacement, hcurrentGlobal, hresolver,
      Arm.threadSpecificStub, List.append_assoc, List.append_nil, List.nil_append]

/-- A template is laid out with zeros in its fields. -/
lemma stubTemplate_eq :
    stubTemplate arch model =
      layOut (fun f => littleEndian f.size 0) (stubPieces arch model) (stubRest arch model) := by
  rw [stub_eq_layOut 0 0 0 0 0 (fun _ _ => rfl) rfl rfl (fun _ => rfl) fun _ => rfl]
  cases arch <;> cases model <;> rfl

/-- Digits beyond the field are cut off. -/
lemma littleEndian_mod (k x : Nat) : littleEndian k (x % byteRange k) = littleEndian k x := by
  rw [← ofLittleEndian_littleEndian]
  have h := littleEndian_ofLittleEndian (littleEndian k x)
  rwa [length_littleEndian] at h

/-- A number and the one that is kept for it modulo a power of two have the same bytes. -/
lemma encode_eq {f : StubField} {x : Nat} {n : Int} (h : (x : Int) ≡ n [ZMOD byteRange f.size]) :
    f.encode n = littleEndian f.size x := by
  rw [StubField.encode, ← h, ← Int.natCast_mod, Int.toNat_natCast, littleEndian_mod]

/-- The numbers of a stub fit its fields. -/
lemma fits_of_patchable (hslot : FitsInt32 (8 * slot.index)) (hp : p.Patchable arch model) :
    ∀ f ∈ stubFields arch model, f.Fits (f.value.of slot p) := by
  have hfour : byteRange 4 = 0x100000000 := rfl
  have height : byteRange 8 = 0x10000000000000000 := rfl
  have hlow := p.tlsOffset.le_toInt
  have hhigh := p.tlsOffset.toInt_lt
  have hcurrentGlobal := p.currentGlobal.toNat_lt
  have hresolver := p.resolver.toNat_lt
  have hoffset : FitsInt32 p.tlsOffset.toInt ∨ ¬ (arch = .x86_64 ∧ model = .threadLocal) := by
    by_cases h : arch = .x86_64 ∧ model = .threadLocal
    · exact .inl (hp h.1 h.2)
    · exact .inr h
  simp only [FitsInt32] at hslot hoffset
  cases arch <;> cases model <;>
    simp [stubFields, StubField.Fits, StubValue.of, StubValue.isSigned, hfour, height]
      at hoffset ⊢ <;>
    omega

lemma toUInt64_modEq (offset : Int64) :
    (offset.toUInt64.toNat : Int) ≡ offset.toInt [ZMOD byteRange 8] := by
  have hint : offset.toInt = (offset.toUInt64.toNat : Int).bmod (byteRange 8) :=
    BitVec.toInt_eq_toNat_bmod offset.toBitVec
  rw [hint, Int.ModEq, Int.bmod_emod]

/-- The field of the thread's offset is the offset, modulo its width. -/
lemma tlsField_modEq (offset : Int64) :
    ((tlsField offset).toNat : Int) ≡ offset.toInt [ZMOD byteRange 4] := by
  have hfield : (tlsField offset).toNat = offset.toUInt64.toNat % byteRange 4 := rfl
  have hdvd : (byteRange 4 : Int) ∣ byteRange 8 := by decide
  rw [hfield, Int.natCast_mod]
  exact (Int.mod_modEq _ _).trans ((toUInt64_modEq offset).of_dvd hdvd)

/-- A stub is laid out with the bytes of its numbers. -/
lemma stubBody_eq_layOut {code : List UInt8} (h : stubBody arch model slot p = .ok code) :
    code = layOut (fun f => f.encode (f.value.of slot p)) (stubPieces arch model)
      (stubRest arch model) := by
  obtain ⟨displacement, hdisplacement, hbody⟩ := bind_eq_ok_iff.mp h
  have hslot : (displacement.toNat : Int) = 8 * slot.index := by
    rw [slotDisplacement] at hdisplacement
    split_ifs at hdisplacement with hfits
    cases hdisplacement
    have hlt := hfits.2
    have hoffset : slot.byteOffset = slot.index * 8 := rfl
    rw [UInt32.toNat_ofNat']
    omega
  rw [stub_eq_layOut displacement (tlsField p.tlsOffset) p.tlsOffset p.currentGlobal p.resolver
    (fun _ _ => encode_eq (by rw [hslot]; rfl)) (encode_eq (tlsField_modEq _))
    (encode_eq (toUInt64_modEq _)) (fun _ => encode_eq rfl) fun _ => encode_eq rfl]
  -- One stub has a field that may be too small, and is not made if it is.
  cases arch <;> cases model
  case x86_64.threadLocal =>
    simp only at hbody
    split_ifs at hbody
    exact (Except.ok.inj hbody).symm
  all_goals exact (Except.ok.inj hbody).symm

/-- What is behind the last field of a stub that is filled up. -/
def stubTail (arch : Architecture) (model : StorageModel) : List UInt8 :=
  stubRest arch model ++
    List.replicate (arch.stubSize model - (stubTemplate arch model).length) arch.padding

/-- A padded template is laid out with zeros in its fields. -/
lemma padTo_stubTemplate :
    padTo (arch.stubSize model) arch.padding (stubTemplate arch model) =
      layOut (fun f => littleEndian f.size 0) (stubPieces arch model) (stubTail arch model) := by
  rw [stubTail, layOut_append, ← stubTemplate_eq, padTo]

/-- A stub that is filled up is laid out with the bytes of its numbers. -/
lemma stubCode_eq_layOut {code : List UInt8} (h : stubCode arch model slot p = .ok code) :
    code = layOut (fun f => f.encode (f.value.of slot p)) (stubPieces arch model)
      (stubTail arch model) := by
  obtain ⟨body, hbody, h⟩ := bind_eq_ok_iff.mp h
  cases h
  have hbody := stubBody_eq_layOut hbody
  have hlength : body.length = (stubTemplate arch model).length := by
    rw [hbody, stubTemplate_eq]
    exact length_layOut (fun f => f.length_encode) fun f => length_littleEndian _ _
  rw [stubTail, layOut_append, ← hbody, padTo, hlength]

end Layout

/-! ### Writing a stub in place -/

section Write

variable {arch : Architecture} {model : StorageModel} {slot : Slot} {p : StubParams}
  {buffer code : List UInt8}

/-- A template that is patched is the stub. -/
lemma patched_eq (hbuffer : buffer.length = arch.stubSize model)
    (h : stubCode arch model slot p = .ok code) :
    patchFields (stubFields arch model) slot p
      (copyTemplate (stubTemplate arch model) arch.padding buffer) = code := by
  rw [copyTemplate, hbuffer, padTo_stubTemplate, stubCode_eq_layOut h, ← map_stubPieces]
  exact patchFields_layOut [] placed_stubPieces fun f => length_littleEndian _ _

lemma fitsInt32_byteOffset : FitsInt32 slot.byteOffset ↔ FitsInt32 (8 * slot.index) := by
  have hoffset : (slot.byteOffset : Int) = 8 * slot.index := by
    have h : slot.byteOffset = slot.index * 8 := rfl
    omega
  rw [hoffset]

lemma slotDisplacement_of_fits (h : FitsInt32 (8 * slot.index)) :
    slotDisplacement slot = .ok (UInt32.ofNat slot.byteOffset) :=
  if_pos (fitsInt32_byteOffset.mpr h)

lemma slotDisplacement_of_not_fits (h : ¬ FitsInt32 (8 * slot.index)) :
    slotDisplacement slot = .error .invalidSlot :=
  if_neg (mt fitsInt32_byteOffset.mp h)

lemma checkOffset_of_patchable (hp : p.Patchable arch model) :
    checkOffset p arch model = .ok () := by
  cases arch <;> cases model
  case x86_64.threadLocal => exact if_pos (hp rfl rfl)
  all_goals rfl

lemma checkOffset_of_not_patchable (hp : ¬ p.Patchable arch model) :
    checkOffset p arch model = .error .threadLocalStorageUnavailable := by
  cases arch <;> cases model
  case x86_64.threadLocal => exact if_neg fun hfits => hp fun _ _ => hfits
  all_goals exact absurd (fun harch hmodel => by cases harch <;> cases hmodel) hp

lemma stubCode_of_slot (h : ¬ FitsInt32 (8 * slot.index)) :
    stubCode arch model slot p = .error .invalidSlot := by
  rw [stubCode, stubBody, slotDisplacement_of_not_fits h]
  rfl

lemma stubCode_of_offset (h : FitsInt32 (8 * slot.index)) (hp : ¬ p.Patchable arch model) :
    stubCode arch model slot p = .error .threadLocalStorageUnavailable := by
  rw [stubCode, stubBody, slotDisplacement_of_fits h]
  cases arch <;> cases model
  case x86_64.threadLocal =>
    have hfits : ¬ FitsInt32 p.tlsOffset.toInt := fun hfits => hp fun _ _ => hfits
    exact congrArg (· >>= fun code => pure (padTo _ _ code)) (if_neg hfits)
  all_goals exact absurd (fun harch hmodel => by cases harch <;> cases hmodel) hp

/-- A slot that is too far leaves the buffer alone. -/
lemma writeStubInPlace_of_slot (h : ¬ FitsInt32 (8 * slot.index)) :
    writeStubInPlace arch model slot p buffer = .error .invalidSlot buffer := by
  rw [writeStubInPlace, slotDisplacement_of_not_fits h]
  rfl

/-- So does an offset that does not fit. -/
lemma writeStubInPlace_of_offset (h : FitsInt32 (8 * slot.index)) (hp : ¬ p.Patchable arch model) :
    writeStubInPlace arch model slot p buffer = .error .threadLocalStorageUnavailable buffer := by
  rw [writeStubInPlace, slotDisplacement_of_fits h, checkOffset_of_not_patchable hp]
  rfl

/-- Otherwise the template is copied, and its fields are patched. -/
lemma writeStubInPlace_of_patchable (h : FitsInt32 (8 * slot.index)) (hp : p.Patchable arch model) :
    writeStubInPlace arch model slot p buffer = .ok () (patchFields (stubFields arch model) slot p
      (copyTemplate (stubTemplate arch model) arch.padding buffer)) := by
  rw [writeStubInPlace, slotDisplacement_of_fits h, checkOffset_of_patchable hp]
  rfl

/-- Writing a stub in place is to make it, and to put it over what is in the buffer. -/
lemma writeStubInPlace_eq (hbuffer : buffer.length = arch.stubSize model) :
    writeStubInPlace arch model slot p buffer =
      match stubCode arch model slot p with
      | .ok code => .ok () code
      | .error e => .error e buffer := by
  by_cases hslot : FitsInt32 (8 * slot.index)
  · by_cases hp : p.Patchable arch model
    · obtain ⟨code, hcode⟩ := stubCode_eq_ok_iff.mpr
        ⟨fitsInt32_byteOffset_iff.mp (fitsInt32_byteOffset.mpr hslot), hp⟩
      rw [writeStubInPlace_of_patchable hslot hp, patched_eq hbuffer hcode, hcode]
    · rw [writeStubInPlace_of_offset hslot hp, stubCode_of_offset hslot hp]
  · rw [writeStubInPlace_of_slot hslot, stubCode_of_slot hslot]

lemma writeStubInPlace_eq_ok_iff (hbuffer : buffer.length = arch.stubSize model) :
    writeStubInPlace arch model slot p buffer = .ok () code ↔
      stubCode arch model slot p = .ok code := by
  rw [writeStubInPlace_eq hbuffer]
  cases stubCode arch model slot p with
  | ok => simp
  | error => simp

lemma writeStub_eq_ok_iff (hbuffer : buffer.length = arch.stubSize model) :
    writeStub arch model slot p buffer = .ok code ↔
      writeStubInPlace arch model slot p buffer = .ok () code := by
  rw [writeStubInPlace_eq_ok_iff hbuffer]
  refine ⟨fun h => ?_, writeStub_of_length hbuffer⟩
  obtain ⟨code', hcode', -⟩ := bind_eq_ok_iff.mp h
  rw [hcode', ← writeStub_of_length hbuffer hcode', h]

lemma writeStub_eq_error_iff (hbuffer : buffer.length = arch.stubSize model) {e : Error} :
    writeStub arch model slot p buffer = .error e ↔
      writeStubInPlace arch model slot p buffer = .error e buffer := by
  rw [writeStubInPlace_eq hbuffer]
  cases hcode : stubCode arch model slot p with
  | ok code => simp [writeStub_of_length hbuffer hcode]
  | error e' =>
      have hwrite : writeStub arch model slot p buffer = .error e' := by
        rw [writeStub, hcode]
        rfl
      simp [hwrite]

end Write

/-! ### What is written -/

section Written

variable {arch : Architecture} {model : StorageModel} {slot : Slot} {p : StubParams}
  {buffer code : List UInt8}

/-- Every field of a stub can be read back. -/
lemma slice?_stubCode (h : stubCode arch model slot p = .ok code) :
    ∀ f ∈ stubFields arch model,
      slice? code f.start f.size = some (f.encode (f.value.of slot p)) := by
  rw [stubCode_eq_layOut h, ← map_stubPieces]
  exact slice?_layOut [] placed_stubPieces fun f => f.length_encode

/-- The numbers in the fields of a stub are read back. -/
lemma decode_stubCode (h : stubCode arch model slot p = .ok code) :
    ∀ f ∈ stubFields arch model,
      (slice? code f.start f.size).map f.decode = some (f.value.of slot p) := by
  intro f hf
  obtain ⟨hslot, hp⟩ := stubCode_eq_ok_iff.mp ⟨code, h⟩
  have hfits := fits_of_patchable (fitsInt32_byteOffset.mp (fitsInt32_byteOffset_iff.mpr hslot)) hp
  rw [slice?_stubCode h f hf, Option.map_some, f.decode_encode (hfits f hf)]

/-- What is outside of the fields is as in the template. -/
lemma getElem?_stubCode (h : stubCode arch model slot p = .ok code) {i : Nat}
    (hi : ∀ f ∈ stubFields arch model, i < f.start ∨ f.start + f.size ≤ i) :
    code[i]? = (padTo (arch.stubSize model) arch.padding (stubTemplate arch model))[i]? := by
  rw [stubCode_eq_layOut h, padTo_stubTemplate]
  rw [← map_stubPieces] at hi
  exact getElem?_layOut placed_stubPieces (fun f => f.length_encode)
    (fun f => length_littleEndian _ _) (by simpa only [Nat.zero_add] using hi)

lemma length_stubTemplate :
    ∀ f ∈ stubFields arch model, f.start + f.size ≤ (stubTemplate arch model).length := by
  cases arch <;> cases model
  all_goals
    simp only [stubTemplate, X86.length_threadLocalStub, X86.length_threadSpecificStub,
      Arm.length_threadLocalStub, Arm.length_threadSpecificStub]
    decide

/-- Stubs are filled up with the padding of the architecture. -/
lemma getElem?_stubCode_of_le (h : stubCode arch model slot p = .ok code) {i : Nat}
    (hi : (stubTemplate arch model).length ≤ i) (hlt : i < arch.stubSize model) :
    code[i]? = some arch.padding := by
  rw [getElem?_stubCode h fun f hf => .inr (Nat.le_trans (length_stubTemplate f hf) hi), padTo,
    List.getElem?_append_right hi, List.getElem?_replicate_of_lt]
  omega

/-- The slot of a stub can be read off its code. -/
lemma slot_eq_of_stubCode {slot' : Slot} {p' : StubParams}
    (h : stubCode arch model slot p = .ok code) (h' : stubCode arch model slot' p' = .ok code) :
    slot' = slot := by
  obtain ⟨f, hf, hvalue⟩ : ∃ f ∈ stubFields arch model, f.value = .slot := by
    cases arch <;> cases model <;> simp [stubFields]
  have hsame := (decode_stubCode h' f hf).symm.trans (decode_stubCode h f hf)
  rw [hvalue, Option.some.injEq] at hsame
  have hindex : slot'.index = slot.index := by
    simpa [StubValue.of] using hsame
  exact Slot.index_inj.mp hindex

end Written

/-- A stub is its template with the slot and the parameters in its fields. In a buffer of its size,
it is written in place with the same result; that fails exactly if the place of the slot does not
fit, which is found first, or the offset of the thread's cell, and then the buffer stays as it is.
What is written does not depend on what was there. Each number is read back from its field,
everything else is the same for all slots and parameters, and no two slots have the same stub. -/
theorem stub_fields_decode {arch : Architecture} {model : StorageModel} {slot : Slot}
    {p : StubParams} {buffer : List UInt8} (hbuffer : buffer.length = arch.stubSize model) :
    let write := writeStubInPlace arch model
    (∀ stub, writeStub arch model slot p buffer = .ok stub ↔ write slot p buffer = .ok () stub) ∧
    (∀ e, writeStub arch model slot p buffer = .error e ↔ write slot p buffer = .error e buffer) ∧
    ((∃ stub, write slot p buffer = .ok () stub) ↔
      FitsInt32 (8 * slot.index) ∧ p.Patchable arch model) ∧
    (¬ FitsInt32 (8 * slot.index) → write slot p buffer = .error .invalidSlot buffer) ∧
    (FitsInt32 (8 * slot.index) → ¬ p.Patchable arch model →
      write slot p buffer = .error .threadLocalStorageUnavailable buffer) ∧
    ∀ stub, write slot p buffer = .ok () stub →
      stub.length = arch.stubSize model ∧
      (∀ other, other.length = arch.stubSize model → write slot p other = .ok () stub) ∧
      (∀ f ∈ stubFields arch model,
        (slice? stub f.start f.size).map f.decode = some (f.value.of slot p)) ∧
      (∀ i < arch.stubSize model,
        (∀ f ∈ stubFields arch model, i < f.start ∨ f.start + f.size ≤ i) →
          stub[i]? = (padTo (arch.stubSize model) arch.padding (stubTemplate arch model))[i]?) ∧
      (∀ i < arch.stubSize model, (stubTemplate arch model).length ≤ i →
        stub[i]? = some arch.padding) ∧
      ∀ slot' p' other, other.length = arch.stubSize model →
        write slot' p' other = .ok () stub → slot' = slot := by
  intro write
  refine ⟨fun _ => writeStub_eq_ok_iff hbuffer, fun _ => writeStub_eq_error_iff hbuffer, ?_,
    writeStubInPlace_of_slot, writeStubInPlace_of_offset, fun stub hstub => ?_⟩
  · constructor
    · rintro ⟨stub, hstub⟩
      obtain ⟨hslot, hp⟩ :=
        stubCode_eq_ok_iff.mp ⟨stub, (writeStubInPlace_eq_ok_iff hbuffer).mp hstub⟩
      exact ⟨fitsInt32_byteOffset.mp (fitsInt32_byteOffset_iff.mpr hslot), hp⟩
    · rintro ⟨hslot, hp⟩
      exact ⟨_, writeStubInPlace_of_patchable hslot hp⟩
  · have hcode := (writeStubInPlace_eq_ok_iff hbuffer).mp hstub
    exact ⟨length_stubCode hcode, fun other hother => (writeStubInPlace_eq_ok_iff hother).mpr hcode,
      decode_stubCode hcode, fun i _ hi => getElem?_stubCode hcode hi,
      fun i hlt hi => getElem?_stubCode_of_le hcode hi hlt, fun slot' p' other hother hother' =>
        slot_eq_of_stubCode hcode ((writeStubInPlace_eq_ok_iff hother).mp hother')⟩

/-- The stub of slot 300 with a cell in front of the thread pointer, and two stubs that cannot be
written. -/
theorem stub_three_hundred_read_back :
    let buffer : List UInt8 := List.replicate 16 0xff
    let near : StubParams := ⟨-64, 0, 0⟩
    let far : StubParams := ⟨0x80000000, 0, 0⟩
    let write := writeStubInPlace .x86_64 .threadLocal
    buffer.length = Architecture.x86_64.stubSize .threadLocal ∧
    (∃ stub, write ⟨300⟩ near buffer = .ok () stub ∧
      (slice? stub 5 4).map (StubField.decode ⟨.tlsOffset, 5, 4⟩) = some (-64) ∧
      (slice? stub 11 4).map (StubField.decode ⟨.slot, 11, 4⟩) = some 2400 ∧
      ∀ p, write ⟨301⟩ p buffer ≠ .ok () stub) ∧
    (¬ FitsInt32 (8 * (⟨0x10000000⟩ : Slot).index) ∧
      write ⟨0x10000000⟩ far buffer = .error .invalidSlot buffer) ∧
    FitsInt32 (8 * (⟨300⟩ : Slot).index) ∧ ¬ far.Patchable .x86_64 .threadLocal ∧
      write ⟨300⟩ far buffer = .error .threadLocalStorageUnavailable buffer := by
  intro buffer near far write
  have hbuffer : buffer.length = Architecture.x86_64.stubSize .threadLocal := rfl
  have hslot : FitsInt32 (8 * (⟨300⟩ : Slot).index) := by decide
  have hlarge : ¬ FitsInt32 (8 * (⟨0x10000000⟩ : Slot).index) := by decide
  have hnear : near.Patchable .x86_64 .threadLocal := fun _ _ => by decide
  have hfar : ¬ far.Patchable .x86_64 .threadLocal := fun h => absurd (h rfl rfl) (by decide)
  obtain ⟨-, -, hwritten, -, -, hread⟩ :=
    @stub_fields_decode _ _ ⟨300⟩ near _ hbuffer
  obtain ⟨-, -, -, hinvalid, -, -⟩ :=
    @stub_fields_decode _ _ ⟨0x10000000⟩ far _ hbuffer
  obtain ⟨-, -, -, -, hunavailable, -⟩ :=
    @stub_fields_decode _ _ ⟨300⟩ far _ hbuffer
  obtain ⟨stub, hstub⟩ := hwritten.mpr ⟨hslot, hnear⟩
  obtain ⟨-, -, hfields, -, -, hsame⟩ := hread stub hstub
  refine ⟨hbuffer, ⟨stub, hstub, hfields _ (.head _), hfields _ (.tail _ (.head _)),
    fun p hp => ?_⟩, ⟨hlarge, hinvalid hlarge⟩, hslot, hfar, hunavailable hslot hfar⟩
  exact absurd (hsame ⟨301⟩ p buffer hbuffer hp) (by decide)

end VendorDispatch
