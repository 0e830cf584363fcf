import Mathlib.Tactic.Common
import VendorDispatch.Machine.Arm
import VendorDispatch.Proofs.StraightCode
import VendorDispatch.Proofs.StubAddresses

/-!
What the processor does when it runs a stub for the 64-bit Arm.

* `straight_pushes`, `straight_pops`: any registers are put on the stack, and come back from there.
  `content` is what an instruction stores or loads, so that one lemma covers pairs of general and of
  vector registers.
* `straight_save`, `straight_restore`: the same for the arguments and the frame.
* `Loaded`: where the pieces of the stub are in the memory (`loaded_of_holds`).
* `reaches_asked`, `reaches_call`, `reaches_back`, `reaches_resolved`: from one piece to the next.
* `leaves_threadLocal`, `leaves_of_set`, `exists_leaves_of_null`: the ways through a stub.
* `stub_branches_through_table`: a stub leads to the slot's function in the current table of the
  thread, and passes the call on as it came.
-/

namespace VendorDispatch.Arm

open Processor

variable {s t u : State} {a : Address} {m : Memory} {i : Instruction} {is : List Instruction}

/-! ### Registers on the stack -/

/-- The bytes on the stack that an instruction stores or loads, where registers are as in the given
state. -/
def content (s : State) : Instruction → List UInt8
  | .pushPair t u | .popPair t u => toBytes (s.registers t) ++ toBytes (s.registers u)
  | .pushVectors t u | .popVectors t u => toBytes (s.vectors t) ++ toBytes (s.vectors u)
  | _ => []

/-- Whether an instruction puts registers on the stack. -/
def Instruction.isPush : Instruction → Bool
  | .pushPair _ _ | .pushVectors _ _ => true
  | _ => false

/-- Whether an instruction takes two different registers off the stack. -/
def Instruction.isPop : Instruction → Bool
  | .popPair t u => t ≠ u
  | .popVectors t u => t ≠ u
  | _ => false

/-- The general registers that an instruction takes off the stack. -/
def Instruction.popped : Instruction → List Register
  | .popPair t u => [t, u]
  | _ => []

/-- The vector registers that an instruction takes off the stack. -/
def Instruction.poppedVectors : Instruction → List VectorRegister
  | .popVectors t u => [t, u]
  | _ => []

/-- Where a push puts two values. -/
lemma push_eq {bits : Nat} {v w : BitVec bits}
    (hstack : s.stackPointer = a.after (toBytes v ++ toBytes w).length) :
    s.push v w =
      { s with stackPointer := a, memory := s.memory.store a (toBytes v ++ toBytes w) } := by
  have hplace : s.stackPointer - BitVec.ofNat 64 (toBytes v ++ toBytes w).length = a := by
    rw [hstack]
    simpa using a.after_sub 0 (toBytes v ++ toBytes w).length
  rw [State.push, hplace]

lemma length_content_le (s : State) (i : Instruction) : (content s i).length ≤ 32 := by
  cases i <;> simp [content]

/-- Registers that are pushed are on the stack, the first one of the two on top. -/
lemma straight_push (hi : i.isPush) (hstack : s.stackPointer = a.after (content s i).length)
    (haligned : s.stackPointer.IsAligned 16) :
    ∃ t, processor.Straight ⟨a, (content s i).length⟩ [i] s t ∧ t.stackPointer = a ∧
      t.registers = s.registers ∧ t.vectors = s.vectors ∧ t.threadPointer = s.threadPointer ∧
      t.memory.Holds a (content s i) := by
  have hexecute : processor.execute i s = some (.next
      { s with
        stackPointer := a
        memory := s.memory.store a (content s i)
        programCounter := s.programCounter.after 4 }) := by
    cases i with
    | pushPair t u | pushVectors t u =>
        simp only [processor, execute, if_pos haligned, push_eq hstack]
        rfl
    | _ => cases hi
  exact ⟨_, .single hexecute rfl (Memory.agreesOutside_store _ _ _), rfl, rfl, rfl, rfl,
    Memory.holds_store _ _ (Nat.le_trans (length_content_le s i) (by decide))⟩

lemma content_congr (hregisters : t.registers = s.registers) (hvectors : t.vectors = s.vectors) :
    content t = content s := by
  funext i
  cases i <;> simp only [content, hregisters, hvectors]

/-- A push moves the stack by whole multiples of sixteen bytes. -/
lemma isAligned_content (i : Instruction) :
    (a.after (content s i).length).IsAligned 16 ↔ a.IsAligned 16 := by
  refine a.isAligned_after ?_
  cases i <;> simp [content]

/-- Registers that are pushed are on the stack, the last ones on top. -/
lemma straight_pushes (his : ∀ i ∈ is, i.isPush)
    (hlen : (is.flatMap (content s)).length ≤ addressSpace)
    (hstack : s.stackPointer = a.after (is.flatMap (content s)).length)
    (haligned : s.stackPointer.IsAligned 16) :
    ∃ t, processor.Straight ⟨a, (is.flatMap (content s)).length⟩ is s t ∧ t.stackPointer = a ∧
      t.registers = s.registers ∧ t.vectors = s.vectors ∧ t.threadPointer = s.threadPointer ∧
      t.memory.Holds a (is.reverse.flatMap (content s)) := by
  induction is generalizing s with
  | nil =>
      exact ⟨s, .nil s, by simpa using hstack, rfl, rfl, rfl, Memory.holds_nil _ _⟩
  | cons i is ih =>
      rw [List.forall_mem_cons] at his
      rw [List.flatMap_cons, List.length_append, Nat.add_comm] at hlen hstack ⊢
      rw [← Address.after_after] at hstack
      obtain ⟨u, hu, hustack, huregisters, huvectors, huthread, huheld⟩ :=
        straight_push his.1 hstack haligned
      have hcontent := content_congr huregisters huvectors
      rw [← hcontent] at hlen
      obtain ⟨t, ht, htstack, htregisters, htvectors, htthread, htheld⟩ :=
        ih (s := u) his.2 (by omega) (by rw [hustack, hcontent])
          (by rwa [hustack, ← isAligned_content (s := s) i, ← hstack])
      rw [hcontent] at ht htheld hlen
      have hbelow : (is.reverse.flatMap (content s)).length = (is.flatMap (content s)).length := by
        simp [List.length_flatMap]
      refine ⟨t, (hu.mono (Area.within_after (Nat.le_refl _))).append
        (ht.mono (Area.within_of_le (Nat.le_add_right _ _))), htstack,
        htregisters.trans huregisters, htvectors.trans huvectors, htthread.trans huthread, ?_⟩
      -- The other registers are pushed below the first ones, and leave them in place.
      have hkept := huheld.congr (ht.memory_agrees.agreesOn (Area.apart_behind hlen))
      rw [List.reverse_cons, List.flatMap_append, List.flatMap_singleton, Memory.holds_append,
        hbelow]
      exact ⟨htheld, hkept⟩

/-- Two registers are given their values, and the others keep theirs. -/
lemma update_pair {α β : Type} [DecidableEq α] {f g : α → β} {x y : α} {v w : β} (hne : x ≠ y)
    (hv : v = g x) (hw : w = g y) :
    (∀ r ∈ [x, y], Function.update (Function.update f x v) y w r = g r) ∧
      ∀ r ∉ [x, y], Function.update (Function.update f x v) y w r = f r := by
  refine ⟨fun r hr => ?_, fun r hr => ?_⟩
  · simp only [List.mem_cons, List.not_mem_nil, or_false] at hr
    rcases hr with rfl | rfl
    · rw [Function.update_of_ne hne, Function.update_self, hv]
    · rw [Function.update_self, hw]
  · simp only [List.mem_cons, List.not_mem_nil, or_false, not_or] at hr
    rw [Function.update_of_ne hr.2, Function.update_of_ne hr.1]

/-- Registers that are popped get what is held on top of the stack. -/
lemma straight_pop (hi : i.isPop) (hstack : u.stackPointer = a) (haligned : a.IsAligned 16)
    (hheld : u.memory.Holds a (content s i)) :
    ∃ t, processor.Straight ⟨a, 0⟩ [i] u t ∧ t.stackPointer = a.after (content s i).length ∧
      t.memory = u.memory ∧ (∀ r ∈ i.popped, t.registers r = s.registers r) ∧
      (∀ r ∉ i.popped, t.registers r = u.registers r) ∧
      (∀ r ∈ i.poppedVectors, t.vectors r = s.vectors r) ∧
      ∀ r ∉ i.poppedVectors, t.vectors r = u.vectors r := by
  subst hstack
  cases i with
  | popPair x y =>
      have hne : x ≠ y := of_decide_eq_true hi
      rw [content, Memory.holds_append, length_toBytes] at hheld
      obtain ⟨hloaded, hothers⟩ := update_pair (f := u.registers) hne
        (Memory.read_of_holds (by decide) hheld.1) (Memory.read_of_holds (by decide) hheld.2)
      exact ⟨_, .single (if_pos ⟨haligned, hne⟩) rfl (.refl _ _), rfl, rfl, hloaded, hothers, nofun,
        fun _ _ => rfl⟩
  | popVectors x y =>
      have hne : x ≠ y := of_decide_eq_true hi
      rw [content, Memory.holds_append, length_toBytes] at hheld
      obtain ⟨hloaded, hothers⟩ := update_pair (f := u.vectors) hne
        (Memory.read_of_holds (by decide) hheld.1) (Memory.read_of_holds (by decide) hheld.2)
      exact ⟨_, .single (if_pos ⟨haligned, hne⟩) rfl (.refl _ _), rfl, rfl, nofun, fun _ _ => rfl,
        hloaded, hothers⟩
  | _ => cases hi

/-- Registers that are popped get what is held on the stack. -/
lemma straight_pops (his : ∀ i ∈ is, i.isPop) (hstack : u.stackPointer = a)
    (haligned : a.IsAligned 16) (hheld : u.memory.Holds a (is.flatMap (content s))) :
    ∃ t, processor.Straight ⟨a, 0⟩ is u t ∧
      t.stackPointer = a.after (is.flatMap (content s)).length ∧ t.memory = u.memory ∧
      (∀ r ∈ is.flatMap Instruction.popped, t.registers r = s.registers r) ∧
      (∀ r ∉ is.flatMap Instruction.popped, t.registers r = u.registers r) ∧
      (∀ r ∈ is.flatMap Instruction.poppedVectors, t.vectors r = s.vectors r) ∧
      ∀ r ∉ is.flatMap Instruction.poppedVectors, t.vectors r = u.vectors r := by
  induction is generalizing u a with
  | nil =>
      exact ⟨u, .nil u, by simpa using hstack, rfl, nofun, fun _ _ => rfl, nofun, fun _ _ => rfl⟩
  | cons i is ih =>
      rw [List.forall_mem_cons] at his
      rw [List.flatMap_cons, Memory.holds_append] at hheld
      obtain ⟨v, hv, hvstack, hvmemory, hvpopped, hvkept, hvvectors, hvkept'⟩ :=
        straight_pop his.1 hstack haligned hheld.1
      obtain ⟨t, ht, htstack, htmemory, htpopped, htkept, htvectors, htkept'⟩ :=
        ih his.2 hvstack ((isAligned_content i).mpr haligned) (hvmemory ▸ hheld.2)
      simp only [List.flatMap_cons, List.mem_append, not_or, List.length_append]
      refine ⟨t, hv.append (ht.mono nofun), by rw [htstack, Address.after_after],
        htmemory.trans hvmemory, fun r hr => ?_, fun r hr => ?_, fun r hr => ?_, fun r hr => ?_⟩
      · -- A register that is popped twice has the same content both times.
        by_cases h : r ∈ is.flatMap Instruction.popped
        · exact htpopped r h
        · rw [htkept r h, hvpopped r (hr.resolve_right h)]
      · rw [htkept r hr.2, hvkept r hr.1]
      · by_cases h : r ∈ is.flatMap Instruction.poppedVectors
        · exact htvectors r h
        · rw [htkept' r h, hvvectors r (hr.resolve_right h)]
      · rw [htkept' r hr.2, hvkept' r hr.1]

/-! ### The arguments on the stack -/

/-- Puts the arguments on the stack. -/
def argumentCode : List Instruction :=
  [.pushPair 0 1, .pushPair 2 3, .pushPair 4 5, .pushPair 6 7, .pushPair 8 9,
    .pushVectors 0 1, .pushVectors 2 3, .pushVectors 4 5, .pushVectors 6 7]

/-- Makes a frame and puts the arguments on the stack. -/
def saveCode : List Instruction := [.pushPair 29 30] ++ ([.copyStack 29] ++ argumentCode)

/-- Takes the arguments and the frame off the stack. -/
def restoreCode : List Instruction :=
  [.popVectors 6 7, .popVectors 4 5, .popVectors 2 3, .popVectors 0 1,
    .popPair 8 9, .popPair 6 7, .popPair 4 5, .popPair 2 3, .popPair 0 1, .popPair 29 30]

/-- What the end of the stub takes off the stack is what its start put there. -/
lemma content_restoreCode (s : State) :
    restoreCode.flatMap (content s) =
      argumentCode.reverse.flatMap (content s) ++ content s (.pushPair 29 30) := by
  simp [restoreCode, argumentCode, content]

lemma length_content_argumentCode (s : State) :
    (argumentCode.flatMap (content s)).length = 208 := by
  simp [argumentCode, content]

lemma length_content_restoreCode (s : State) :
    (restoreCode.flatMap (content s)).length = 224 := by
  simp [restoreCode, content]

/-- The frame and the arguments are pushed, and the frame pointer is set. -/
lemma straight_save (hstack : s.stackPointer = a.after 224)
    (haligned : s.stackPointer.IsAligned 16) :
    ∃ t, processor.Straight ⟨a, 224⟩ saveCode s t ∧ t.stackPointer = a ∧
      (∀ r ≠ 29, t.registers r = s.registers r) ∧ t.vectors = s.vectors ∧
      t.threadPointer = s.threadPointer ∧ t.memory.Holds a (restoreCode.flatMap (content s)) := by
  have hframe : (content s (.pushPair 29 30)).length = 16 := by simp [content]
  obtain ⟨u, hu, hustack, huregisters, huvectors, huthread, huheld⟩ :=
    straight_push (s := s) (a := a.after 208) (i := .pushPair 29 30) rfl
      (by rw [hstack, hframe, Address.after_after]) haligned
  -- the frame pointer is set in between
  let v := (u.setRegister 29 u.stackPointer).jump (u.programCounter.after 4)
  have hv : processor.Straight ⟨a, 0⟩ [.copyStack 29] u v := .single rfl rfl (.refl _ _)
  have hvregisters (r) (hr : r ≠ 29) : v.registers r = s.registers r := by
    rw [← huregisters]
    exact Function.update_of_ne hr _ _
  have hvvectors : v.vectors = s.vectors := huvectors
  have hcontent : argumentCode.reverse.flatMap (content v) =
      argumentCode.reverse.flatMap (content s) := by
    simp [argumentCode, content, hvregisters, hvvectors]
  have hpushes : ∀ i ∈ argumentCode, i.isPush := by decide
  obtain ⟨t, ht, htstack, htregisters, htvectors, htthread, htheld⟩ :=
    straight_pushes (s := v) (a := a) hpushes
      (by rw [length_content_argumentCode]; decide)
      (by rw [length_content_argumentCode]; exact hustack)
      (by
        change u.stackPointer.IsAligned 16
        rwa [hustack, ← isAligned_content (s := s) (.pushPair 29 30), hframe, Address.after_after,
          ← hstack])
  rw [hcontent] at htheld
  rw [length_content_argumentCode] at ht
  rw [hframe] at hu
  -- the arguments lie below the frame
  have hbelow : (argumentCode.reverse.flatMap (content s)).length = 208 := by
    simp [argumentCode, content]
  refine ⟨t, (hu.mono (Area.within_after (by decide))).append ((hv.mono nofun).append
    (ht.mono (Area.within_of_le (by decide)))), htstack, fun r hr => ?_, htvectors.trans hvvectors,
    htthread.trans huthread, ?_⟩
  · rw [htregisters, hvregisters r hr]
  · have hkept := huheld.congr (ht.memory_agrees.agreesOn
      (hframe ▸ Area.apart_behind (by decide)))
    rw [content_restoreCode, Memory.holds_append, hbelow]
    exact ⟨htheld, hkept⟩

/-- The arguments and the frame are taken off the stack. -/
lemma straight_restore (hstack : u.stackPointer = a) (haligned : a.IsAligned 16)
    (hheld : u.memory.Holds a (restoreCode.flatMap (content s))) :
    ∃ t, processor.Straight ⟨a, 0⟩ restoreCode u t ∧ t.stackPointer = a.after 224 ∧
      t.memory = u.memory ∧
      (∀ r ∈ argumentRegisters ++ [29, 30], t.registers r = s.registers r) ∧
      (∀ r ∉ argumentRegisters ++ [29, 30], t.registers r = u.registers r) ∧
      (∀ r ∈ argumentVectors, t.vectors r = s.vectors r) ∧
      ∀ r ∉ argumentVectors, t.vectors r = u.vectors r := by
  have hpopped (r) : r ∈ restoreCode.flatMap Instruction.popped ↔
      r ∈ argumentRegisters ++ [29, 30] := by
    revert r
    decide
  have hpoppedVectors (r) : r ∈ restoreCode.flatMap Instruction.poppedVectors ↔
      r ∈ argumentVectors := by
    revert r
    decide
  obtain ⟨t, ht, htstack, htmemory, hregisters, hothers, hvectors, hothers'⟩ :=
    straight_pops (by decide) hstack haligned hheld
  rw [length_content_restoreCode] at htstack
  simp only [hpopped] at hregisters hothers
  simp only [hpoppedVectors] at hvectors hothers'
  exact ⟨t, ht, htstack, htmemory, hregisters, hothers, hvectors, hothers'⟩

/-! ### The stub in the memory -/

/-- Reads the process-wide pointer. -/
def inquiryCode : List Instruction := [.loadLiteral scratch 32, .loadIndirect scratch scratch]

/-- Replaces the address in the scratch register by the word that lies at an offset from it. The
offset is at a distance in the code. -/
def lookUpCode (distance : BitVec 19) : List Instruction :=
  [.loadLiteral scratch2 distance, .loadIndexed scratch scratch scratch2]

/-- The code that reads the process-wide pointer is in the memory, piece by piece, with the place
of the slot's word. -/
structure Loaded (m : Memory) (a : Address) (n : Nat) (p : StubParams) : Prop where
  inquiry : m.Holds a (processor.assemble inquiryCode)
  test : m.Holds (a.after 0x08) (processor.assemble [.branchIfZero scratch 4])
  lookUp : m.Holds (a.after 0x0c) (processor.assemble (lookUpCode 33))
  branch : m.Holds (a.after 0x14) (processor.assemble [.branchTo scratch])
  save : m.Holds (a.after 0x18) (processor.assemble saveCode)
  ask : m.Holds (a.after 0x44) (processor.assemble [.loadLiteral scratch 17])
  call : m.Holds (a.after 0x48) (processor.assemble [.callTo scratch])
  answer : m.Holds (a.after 0x4c) (processor.assemble [.copy scratch 0])
  restore : m.Holds (a.after 0x50) (processor.assemble restoreCode)
  back : m.Holds (a.after 0x78) (processor.assemble [.branch (-27)])
  currentGlobal : m.Holds (a.after 0x80) (toBytes p.currentGlobal.toBitVec)
  resolver : m.Holds (a.after 0x88) (toBytes p.resolver.toBitVec)
  slot : m.Holds (a.after 0x90) (toBytes (BitVec.ofNat 64 n))

/-- The field of the slot holds the place of the slot's word. -/
lemma littleEndian_slotDisplacement {slot : Slot} {displacement : UInt32}
    (h : slotDisplacement slot = .ok displacement) :
    littleEndian 8 displacement.toNat = toBytes (BitVec.ofNat 64 (8 * slot.index)) := by
  rw [slotDisplacement] at h
  split_ifs at h with hfits
  cases h
  have hlt := hfits.2
  have hoffset : slot.byteOffset = 8 * slot.index := Nat.mul_comm _ _
  rw [hoffset] at hlt ⊢
  rw [toBytes, UInt32.toNat_ofNat', BitVec.toNat_ofNat, Nat.mod_eq_of_lt (by omega),
    Nat.mod_eq_of_lt (by omega)]

/-- The stub is made of the pieces that the lemmas below run. -/
lemma threadSpecificCode_eq :
    threadSpecificCode = inquiryCode ++ ([.branchIfZero scratch 4] ++ (lookUpCode 33 ++
      ([.branchTo scratch] ++ (saveCode ++ ([.loadLiteral scratch 17] ++ ([.callTo scratch] ++
        ([.copy scratch 0] ++ (restoreCode ++ ([.branch (-27)] ++ [.idle]))))))))) :=
  rfl

lemma length_processor_assemble (is : List Instruction) :
    (processor.assemble is).length = 4 * is.length :=
  length_assemble is

/-- A stub that is in memory has its pieces and its literals at their places. -/
lemma loaded_of_holds {n : Nat} {displacement : UInt32} {p : StubParams}
    (hslot : littleEndian 8 displacement.toNat = toBytes (BitVec.ofNat 64 n))
    (h : m.Holds a (threadSpecificStub displacement p.currentGlobal p.resolver)) :
    Loaded m a n p := by
  have hcode : threadSpecificStub displacement p.currentGlobal p.resolver =
      processor.assemble threadSpecificCode ++ toBytes p.currentGlobal.toBitVec ++
        toBytes p.resolver.toBitVec ++ toBytes (BitVec.ofNat 64 n) := by
    rw [← hslot]
    rfl
  rw [hcode, threadSpecificCode_eq] at h
  simp only [assemble_append (P := processor), List.append_assoc, Memory.holds_append,
    Address.after_after, length_processor_assemble] at h
  obtain ⟨inquiry, test, lookUp, branch, save, ask, call, answer, restore, back, -, currentGlobal,
    resolver, slot⟩ := h
  exact ⟨inquiry, test, lookUp, branch, save, ask, call, answer, restore, back, currentGlobal,
    resolver, slot⟩

/-! ### Running the stub -/

section Run

variable (function : State → Option State) {p : StubParams} {n : Nat}

/-- The processor executes the instruction whose word it finds. -/
lemma step_of_code (h : s.memory.Holds s.programCounter (processor.assemble [i])) :
    processor.step s = processor.execute i s := by
  have hcode : processor.assemble [i] = i.encode := List.append_nil i.encode
  rw [hcode] at h
  exact step_of_holds (P := processor) (i := i) h

lemma atDistance_eq {bits : Nat} {distance : BitVec bits}
    (h : distance.signExtend 64 * 4 = BitVec.ofNat 64 n) :
    s.atDistance distance = s.programCounter.after n := by
  rw [State.atDistance, h, Address.add_ofNat]

/-- A literal is loaded from its place behind the code. -/
lemma straight_loadLiteral {r : Register} {distance : BitVec 19} {v : BitVec 64}
    (h : s.memory.Holds (s.atDistance distance) (toBytes v)) :
    processor.Straight ⟨a, 0⟩ [.loadLiteral r distance] s
      ((s.setRegister r v).jump (s.programCounter.after 4)) := by
  rw [← Memory.read_of_holds (by decide) h]
  exact .single rfl rfl (.refl _ _)

/-- The scratch registers when the address in the first of them is replaced by the word that lies
at an offset from it. -/
def State.lookedUp (s : State) (offset : BitVec 64) : State :=
  (s.setRegister scratch2 offset).setRegister scratch
    (s.memory.read 64 (s.registers scratch + offset))

lemma scratch_lookedUp (offset : BitVec 64) :
    (s.lookedUp offset).registers scratch = s.memory.read 64 (s.registers scratch + offset) :=
  State.registers_setRegister_self

/-- An offset is loaded, and the word at it replaces the register. -/
lemma straight_lookUp {distance : BitVec 19} {offset : BitVec 64}
    (h : s.memory.Holds (s.atDistance distance) (toBytes offset)) :
    processor.Straight ⟨a, 0⟩ (lookUpCode distance) s
      ((s.lookedUp offset).jump (s.programCounter.after 8)) := by
  let x := (s.setRegister scratch2 offset).jump (s.programCounter.after 4)
  have hword : x.registers scratch + x.registers scratch2 = s.registers scratch + offset := by
    rw [State.registers_jump, State.registers_setRegister (by decide),
      State.registers_setRegister_self]
  have hnext : (s.programCounter.after 4).after 4 = s.programCounter.after 8 :=
    Address.after_after _ 4 4
  have hx : processor.execute (.loadIndexed scratch scratch scratch2) x =
      some (.next ((s.lookedUp offset).jump (s.programCounter.after 8))) := by
    rw [State.lookedUp, ← hword, ← hnext]
    rfl
  exact (straight_loadLiteral h).append (.single hx hnext.symm (.refl _ _))

/-- A branch to the word that was looked up leaves the code. -/
lemma leaves_lookUp {distance : BitVec 19} {offset : BitVec 64}
    (hoffset : s.memory.Holds (s.atDistance distance) (toBytes offset))
    (hcode : s.memory.Holds s.programCounter (processor.assemble (lookUpCode distance)))
    (hbranch : s.memory.Holds (s.programCounter.after 8) (processor.assemble [.branchTo scratch])) :
    processor.Leaves function s ((s.lookedUp offset).jump
      (s.memory.read 64 (s.registers scratch + offset))) := by
  have hstep : processor.step ((s.lookedUp offset).jump (s.programCounter.after 8)) =
      some (.leave ((s.lookedUp offset).jump
        (s.memory.read 64 (s.registers scratch + offset)))) := by
    rw [step_of_code (s := (s.lookedUp offset).jump (s.programCounter.after 8)) hbranch,
      ← scratch_lookedUp offset]
    rfl
  have hreaches : processor.Reaches function s _ :=
    (straight_lookUp (a := s.programCounter) hoffset).reaches hcode fun _ _ => nofun
  exact hreaches.leaves ⟨_, .refl _, hstep⟩

/-- The state in which the process-wide pointer is found. -/
def State.asked (s : State) (current : BitVec 64) : State :=
  (s.setRegister scratch current).jump (s.programCounter.after 0x08)

/-- The pointer is loaded through its literal. -/
lemma straight_inquiry {currentGlobal : Address}
    (h : s.memory.Holds (s.programCounter.after 0x80) (toBytes currentGlobal)) :
    processor.Straight ⟨s.programCounter, 0⟩ inquiryCode s
      (s.asked (s.memory.read 64 currentGlobal)) := by
  let x := (s.setRegister scratch currentGlobal).jump (s.programCounter.after 4)
  have hplace : s.atDistance (32 : BitVec 19) = s.programCounter.after 0x80 :=
    atDistance_eq (by decide)
  have hx : processor.Straight ⟨s.programCounter, 0⟩ [.loadLiteral scratch 32] s x :=
    straight_loadLiteral (hplace ▸ h)
  have hpointer : x.registers scratch = currentGlobal := by
    rw [State.registers_jump, State.registers_setRegister_self]
  have hnext : x.programCounter.after 4 = s.programCounter.after 0x08 := Address.after_after _ 4 4
  have hy : processor.execute (.loadIndirect scratch scratch) x =
      some (.next (s.asked (s.memory.read 64 currentGlobal))) := by
    rw [State.asked, ← hnext, ← State.setRegister_setRegister (v := currentGlobal)]
    simp only [processor, execute, hpointer]
    rfl
  exact hx.append (.single hy hnext.symm (.refl _ _))

/-- The branch is taken if the pointer is null. -/
lemma step_asked {current : BitVec 64}
    (h : s.memory.Holds (s.programCounter.after 0x08)
      (processor.assemble [.branchIfZero scratch 4])) :
    processor.step (s.asked current) = some (.next ((s.asked current).jump
      (s.programCounter.after (if current = 0 then 0x18 else 0x0c)))) := by
  have hnext : (s.programCounter.after 0x08).after 4 = s.programCounter.after 0x0c :=
    Address.after_after _ 0x08 4
  have htarget : (s.asked current).atDistance (4 : BitVec 19) = s.programCounter.after 0x18 :=
    (atDistance_eq (n := 16) (by decide)).trans (Address.after_after _ 0x08 16)
  have hcurrent : (s.asked current).registers scratch = current := by
    rw [State.asked, State.registers_jump, State.registers_setRegister_self]
  rw [step_of_code (s := s.asked current) h]
  simp only [processor, execute, hcurrent, htarget]
  split_ifs
  · rfl
  · rw [← hnext]
    rfl

/-- The first instructions lead to the branch if the process-wide pointer is set, and to the call
of the resolver if it is null. -/
lemma reaches_asked (h : Loaded s.memory s.programCounter n p) :
    let current := s.memory.read 64 p.currentGlobal.toBitVec
    processor.Reaches function s ((s.asked current).jump
      (s.programCounter.after (if current = 0 then 0x18 else 0x0c))) := by
  intro current
  exact ((straight_inquiry h.currentGlobal).reaches h.inquiry fun _ _ => nofun).trans
    (.head (.next (step_asked h.test)) (.refl _))

/-- The branch through the table in the scratch register. -/
lemma leaves_of_loaded {base : Address} (haddress : s.programCounter = base.after 0x0c)
    (h : Loaded s.memory base n p) :
    processor.Leaves function s ((s.lookedUp (BitVec.ofNat 64 n)).jump
      (s.memory.read 64 (Address.after (s.registers scratch) n))) := by
  have hplace : s.atDistance (33 : BitVec 19) = base.after 0x90 := by
    rw [atDistance_eq (n := 0x84) (by decide), haddress, Address.after_after]
  have hbranch := h.branch
  have hlookUp := h.lookUp
  have hnext : s.programCounter.after 8 = base.after 0x14 := by
    rw [haddress, Address.after_after]
  rw [← hnext] at hbranch
  rw [← haddress] at hlookUp
  rw [← Address.add_ofNat]
  exact leaves_lookUp function (hplace ▸ h.slot) hlookUp hbranch

/-- The resolver is called with its address out of the stub. -/
lemma reaches_ask {base : Address} (haddress : s.programCounter = base.after 0x44)
    (h : Loaded s.memory base n p) :
    ∃ t u, processor.Reaches function s t ∧ processor.step t = some (.call u) ∧
      u.programCounter = p.resolver.toBitVec ∧ u.registers 30 = base.after 0x4c ∧
      (∀ r ≠ scratch, r ≠ 30 → u.registers r = s.registers r) ∧ u.vectors = s.vectors ∧
      u.stackPointer = s.stackPointer ∧ u.threadPointer = s.threadPointer ∧
      u.memory = s.memory := by
  let t := (s.setRegister scratch p.resolver.toBitVec).jump (s.programCounter.after 4)
  have hplace : s.atDistance (17 : BitVec 19) = base.after 0x88 := by
    rw [atDistance_eq (n := 0x44) (by decide), haddress, Address.after_after]
  -- the address is loaded
  have ht : processor.Straight ⟨base, 0⟩ [.loadLiteral scratch 17] s t :=
    straight_loadLiteral (hplace ▸ h.resolver)
  have hask := h.ask
  rw [← haddress] at hask
  have htaddress : t.programCounter = base.after 0x48 := by
    have hnext : t.programCounter = s.programCounter.after 4 := rfl
    rw [hnext, haddress, Address.after_after]
  have hresolver : t.registers scratch = p.resolver.toBitVec := by
    rw [State.registers_jump, State.registers_setRegister_self]
  have hreturn : t.programCounter.after 4 = base.after 0x4c := by
    rw [htaddress, Address.after_after]
  -- and called; the link register gets the address behind the call
  have hstep : processor.step t =
      some (.call ((t.setRegister 30 (base.after 0x4c)).jump p.resolver.toBitVec)) := by
    have hcall := h.call
    rw [← htaddress] at hcall
    rw [step_of_code (s := t) hcall, ← hreturn, ← hresolver]
    rfl
  refine ⟨t, _, ht.reaches hask fun _ _ => nofun, hstep, rfl, ?_, fun r hr hr' => ?_, rfl, rfl, rfl,
    rfl⟩
  · rw [State.registers_jump, State.registers_setRegister_self]
  · rw [State.registers_jump, State.registers_setRegister hr', State.registers_jump,
      State.registers_setRegister hr]

/-- The call of the resolver is reached with the arguments and the frame on the stack. -/
lemma reaches_call {base : Address} (haddress : s.programCounter = base.after 0x18)
    (hstack : s.stackPointer = a.after 224) (haligned : s.stackPointer.IsAligned 16)
    (hcode : ∀ m, Memory.AgreesOutside ⟨a, 224⟩ s.memory m → Loaded m base n p)
    (hapart : (Area.mk base 152).Apart ⟨a, 224⟩) :
    ∃ t u, processor.Reaches function s t ∧ processor.step t = some (.call u) ∧
      u.programCounter = p.resolver.toBitVec ∧ u.stackPointer = a ∧
      u.threadPointer = s.threadPointer ∧ Memory.AgreesOutside ⟨a, 224⟩ s.memory u.memory ∧
      u.registers 30 = base.after 0x4c ∧
      (∀ r, r ≠ scratch → r ≠ 29 → r ≠ 30 → u.registers r = s.registers r) ∧
      u.vectors = s.vectors ∧ u.memory.Holds a (restoreCode.flatMap (content s)) := by
  obtain ⟨v, hv, hvstack, hvregisters, hvvectors, hvthread, hvheld⟩ := straight_save hstack haligned
  have hvmemory : Memory.AgreesOutside ⟨a, 224⟩ s.memory v.memory := hv.memory_agrees
  have hvaddress : v.programCounter = base.after 0x44 := by
    have h : v.programCounter = s.programCounter.after 0x2c := hv.address_eq
    rw [h, haddress, Address.after_after]
  have hreaches : processor.Reaches function s v := by
    have hsave := (hcode s.memory (.refl _ _)).save
    have hpiece : (Area.mk (base.after 0x18) 0x2c).Apart ⟨a, 224⟩ :=
      hapart.mono (Area.within_after (by decide)) (fun _ h => h)
    rw [← haddress] at hsave hpiece
    exact hv.reaches hsave hpiece
  obtain ⟨t, u, ht, hstep, huaddress, hureturn, huregisters, huvectors, hustack, huthread,
    humemory⟩ := reaches_ask function hvaddress (hcode v.memory hvmemory)
  refine ⟨t, u, hreaches.trans ht, hstep, huaddress, hustack.trans hvstack,
    huthread.trans hvthread, humemory ▸ hvmemory, hureturn, fun r hr hr' hr'' => ?_,
    huvectors.trans hvvectors, humemory ▸ hvheld⟩
  rw [huregisters r hr hr'', hvregisters r hr']

/-- Behind the call, the answer is put into the scratch register, the arguments and the frame are
taken off the stack, and the branch through the table is reached. -/
lemma reaches_back {base : Address} (haddress : u.programCounter = base.after 0x4c)
    (hstack : u.stackPointer = a) (haligned : a.IsAligned 16)
    (hheld : u.memory.Holds a (restoreCode.flatMap (content s))) (h : Loaded u.memory base n p) :
    ∃ t, processor.Reaches function u t ∧ t.programCounter = base.after 0x0c ∧
      t.stackPointer = a.after 224 ∧ t.memory = u.memory ∧
      t.registers scratch = u.registers 0 ∧
      (∀ r ∈ argumentRegisters ++ [29, 30], t.registers r = s.registers r) ∧
      (∀ r ∉ argumentRegisters ++ [29, 30], r ≠ scratch → t.registers r = u.registers r) ∧
      (∀ r ∈ argumentVectors, t.vectors r = s.vectors r) ∧
      ∀ r ∉ argumentVectors, t.vectors r = u.vectors r := by
  -- the answer is moved out of the way of the arguments
  let v := (u.setRegister scratch (u.registers 0)).jump (u.programCounter.after 4)
  have hv : processor.Straight ⟨a, 0⟩ [.copy scratch 0] u v := .single rfl rfl (.refl _ _)
  have hvaddress : v.programCounter = base.after 0x50 := by
    have hnext : v.programCounter = u.programCounter.after 4 := rfl
    rw [hnext, haddress, Address.after_after]
  obtain ⟨t, ht, htstack, htmemory, harguments, hothers, hvectors, hothers'⟩ :=
    straight_restore (u := v) hstack haligned hheld
  have htaddress : t.programCounter = base.after 0x78 := by
    have hend : t.programCounter = v.programCounter.after 0x28 := ht.address_eq
    rw [hend, hvaddress, Address.after_after]
  -- and the branch goes back to where the table is used
  have hplace : t.atDistance (-27 : BitVec 26) = base.after 0x0c := by
    have hback : (-27 : BitVec 26).signExtend 64 * 4 = -BitVec.ofNat 64 0x6c := by decide
    rw [State.atDistance, hback, htaddress, ← BitVec.sub_eq_add_neg]
    exact base.after_sub 0x0c 0x6c
  have hstep : processor.step t = some (.next (t.jump (base.after 0x0c))) := by
    have hback := h.back
    rw [← htaddress] at hback
    rw [step_of_code (htmemory ▸ hback), ← hplace]
    rfl
  have hreaches : processor.Reaches function u t := by
    have hanswer := h.answer
    have hrestore := h.restore
    rw [← haddress] at hanswer
    rw [← hvaddress] at hrestore
    exact (hv.reaches hanswer fun _ _ => nofun).trans (ht.reaches hrestore fun _ _ => nofun)
  refine ⟨t.jump (base.after 0x0c), hreaches.trans (.head (.next hstep) (.refl _)), rfl, htstack,
    htmemory, ?_, harguments, fun r hr hr' => ?_, hvectors, hothers'⟩
  · rw [State.registers_jump, hothers scratch (by decide), State.registers_jump,
      State.registers_setRegister_self]
  · rw [State.registers_jump, hothers r hr, State.registers_jump, State.registers_setRegister hr']

/-- If the process-wide pointer is null, the resolver is called, and its answer is used. -/
lemma reaches_resolved {base : Address} {f : State → State} {kept : Nat} {own : BitVec 64}
    (haddress : s.programCounter = base.after 0x18) (haligned : s.stackPointer.IsAligned 16)
    (hkept : 224 + kept ≤ addressSpace) {code : Area}
    (hcode : ∀ m, Memory.AgreesOn code s.memory m → Loaded m base n p)
    (hwithin : (Area.mk base 152).Within code) (hapart : code.Apart (s.below 224))
    (hf : Obeys f p.resolver.toBitVec 224 kept code own s) :
    ∃ u t, Calls p.resolver.toBitVec 224 s u ∧
      processor.Reaches (functionAt processor p.resolver.toBitVec f) s t ∧
      t.programCounter = base.after 0x0c ∧ t.registers scratch = own ∧
      t.memory = (f u).memory ∧ Memory.AgreesOn code s.memory t.memory ∧ Passes kept s t := by
  obtain ⟨a, ha⟩ : ∃ a, a = s.stackPointer - 224 := ⟨_, rfl⟩
  have hbelow : s.below 224 = ⟨a, 224⟩ := by
    rw [ha]
    rfl
  have hstack : s.stackPointer = a.after 224 := by
    rw [ha]
    exact (Address.after_of_sub _ 224).symm
  have haligned' : a.IsAligned 16 := by
    rwa [hstack, Address.isAligned_after _ (by decide)] at haligned
  obtain ⟨t, u, ht, hstep, huaddress, hustack, huthread, humemory, hureturn, huregisters, huvectors,
    huheld⟩ := reaches_call (functionAt processor p.resolver.toBitVec f) haddress hstack
      haligned (fun m hm => hcode m (hm.agreesOn (hbelow ▸ hapart)))
      (hbelow ▸ hapart.mono hwithin (fun _ h => h))
  have hcalls : Calls p.resolver.toBitVec 224 s u :=
    ⟨huaddress, hustack.trans ha, hustack ▸ haligned', huthread, hbelow ▸ humemory⟩
  obtain ⟨hreturns, hresult, hstays⟩ := hf u hcalls
  -- Neither the stub's stores nor the resolver reach the code, so the rest of it can still be run.
  have hstays' := (humemory.agreesOn (hbelow ▸ hapart)).trans hstays
  have hbehind : Memory.AgreesOn ⟨a, 224 + kept⟩ u.memory (f u).memory := hustack ▸ hreturns.stack
  obtain ⟨v, hv, hvaddress, hvstack, hvmemory, hvscratch, harguments, hothers, hvectors,
      hothers'⟩ :=
    reaches_back (functionAt processor p.resolver.toBitVec f) (s := s) (u := f u) (a := a)
      (hreturns.address.trans hureturn) (hreturns.stackPointer.trans hustack) haligned'
      (huheld.congr (hbehind.mono (Area.within_of_le (by
        rw [length_content_restoreCode]
        exact Nat.le_add_right _ _))))
      (hcode _ hstays')
  -- What the stub has saved it restores, and the resolver gives back the rest.
  have hregisters (r) (hr : r ∈ argumentRegisters ++ [29, 30] ∨ r ∈ calleeSaved) :
      v.registers r = s.registers r := by
    by_cases hr' : r ∈ argumentRegisters ++ [29, 30]
    · exact harguments r hr'
    · have hsaved := hr.resolve_left hr'
      have hne : r ≠ scratch ∧ r ≠ 29 ∧ r ≠ 30 := by
        clear * - hr' hsaved
        revert r
        decide
      rw [hothers r hr' hne.1, hreturns.saved r hsaved, huregisters r hne.1 hne.2.1 hne.2.2]
  refine ⟨u, v, hcalls, ht.trans (.head (.call u hstep (if_pos huaddress)) hv), hvaddress,
    hvscratch.trans hresult, hvmemory, hvmemory ▸ hstays', ?_⟩
  have hpart : (Area.mk (a.after 224) kept).Within ⟨a, 224 + kept⟩ :=
    Area.within_after (Nat.le_refl _)
  exact {
    arguments := fun r hr => hregisters r (.inl (List.mem_append_left _ hr))
    vectors := hvectors
    returnAddress := hregisters 30 (.inl (by decide))
    saved := fun r hr => hregisters r (.inr hr)
    savedVectors := fun r hr => by
      have hr' : r ∉ argumentVectors := by
        clear * - hr
        revert r
        decide
      rw [hothers' r hr', hreturns.savedVectors r hr, huvectors]
    stackPointer := hvstack.trans hstack.symm
    stack := by
      rw [hvmemory, hstack]
      exact (humemory.agreesOn (Area.apart_behind hkept)).trans (hbehind.mono hpart) }

/-! ### The ways through a stub -/

/-- The stub is made of two look-ups. -/
lemma threadLocalCode_eq :
    threadLocalCode = [.loadThreadPointer scratch] ++ (lookUpCode 5 ++
      (lookUpCode 5 ++ [.branchTo scratch])) :=
  rfl

/-- The code that reads the thread's cell is left through the table that is found there. -/
lemma leaves_threadLocal {displacement : UInt32} {offset : Int64}
    (hslot : littleEndian 8 displacement.toNat = toBytes (BitVec.ofNat 64 n))
    (h : s.memory.Holds s.programCounter (threadLocalStub offset displacement)) :
    let table : Address := s.memory.read 64 (s.threadPointer + offset.toBitVec)
    let target := s.memory.read 64 (table.after n)
    processor.Leaves function s
      (((s.setRegister scratch2 (BitVec.ofNat 64 n)).setRegister scratch target).jump target) := by
  intro table target
  have hcode : threadLocalStub offset displacement = processor.assemble threadLocalCode ++
      toBytes offset.toBitVec ++ toBytes (BitVec.ofNat 64 n) := by
    rw [← hslot]
    rfl
  rw [hcode, threadLocalCode_eq] at h
  simp only [assemble_append (P := processor), List.append_assoc, Memory.holds_append,
    Address.after_after, length_processor_assemble] at h
  obtain ⟨hpointer, hcell, hlookUp, hbranch, hoffset, hslot⟩ := h
  let x := (s.setRegister scratch s.threadPointer).jump (s.programCounter.after 4)
  have hx : processor.Straight ⟨s.programCounter, 0⟩ [.loadThreadPointer scratch] s x :=
    .single rfl rfl (.refl _ _)
  -- The cell is looked up at its offset from the thread pointer, and then the slot's word at its
  -- offset from the table.
  let y := (x.lookedUp offset.toBitVec).jump (s.programCounter.after 0x0c)
  have hnext : x.programCounter.after 8 = s.programCounter.after 0x0c := Address.after_after _ 4 8
  have hxplace : x.atDistance (5 : BitVec 19) = s.programCounter.after 0x18 :=
    (atDistance_eq (n := 0x14) (by decide)).trans (Address.after_after _ 4 0x14)
  have hyplace : y.atDistance (5 : BitVec 19) = s.programCounter.after 0x20 :=
    (atDistance_eq (n := 0x14) (by decide)).trans (Address.after_after _ 0x0c 0x14)
  have hy : processor.Straight ⟨s.programCounter, 0⟩ (lookUpCode 5) x y := by
    have hlooked := straight_lookUp (s := x) (a := s.programCounter) (hxplace ▸ hoffset)
    rwa [hnext] at hlooked
  have hreaches : processor.Reaches function s y :=
    (hx.reaches hpointer fun _ _ => nofun).trans (hy.reaches hcell fun _ _ => nofun)
  have hybranch : y.memory.Holds (y.programCounter.after 8)
      (processor.assemble [.branchTo scratch]) := by
    have h : y.programCounter.after 8 = s.programCounter.after 0x14 := Address.after_after _ 0x0c 8
    rw [h]
    exact hbranch
  have hleaves := leaves_lookUp function (s := y) (hyplace ▸ hslot) hlookUp hybranch
  have htable : y.registers scratch = table := by
    rw [State.registers_jump, scratch_lookedUp, State.registers_jump,
      State.registers_setRegister_self]
    rfl
  have hregisters : (y.lookedUp (BitVec.ofNat 64 n)).registers =
      ((s.setRegister scratch2 (BitVec.ofNat 64 n)).setRegister scratch target).registers := by
    have hword : y.memory.read 64 (y.registers scratch + BitVec.ofNat 64 n) = target := by
      rw [htable, Address.add_ofNat]
      rfl
    funext r
    simp only [State.lookedUp, hword]
    simp only [y, x, State.jump, State.lookedUp, State.setRegister, Function.update_apply]
    split_ifs <;> rfl
  have hfinal : (y.lookedUp (BitVec.ofNat 64 n)).jump target =
      ((s.setRegister scratch2 (BitVec.ofNat 64 n)).setRegister scratch target).jump target :=
    congrArg (fun registers => { s with registers, programCounter := target }) hregisters
  rw [htable, Address.add_ofNat] at hleaves
  rw [← hfinal]
  exact hreaches.leaves hleaves

lemma registers_lookedUp {r : Register} {offset : BitVec 64} (hr : r ≠ scratch)
    (hr' : r ≠ scratch2) : ((s.lookedUp offset).jump a).registers r = s.registers r := by
  rw [State.registers_jump, State.lookedUp, State.registers_setRegister hr,
    State.registers_setRegister hr']

lemma registers_asked {r : Register} {current : BitVec 64} (hr : r ≠ scratch) :
    ((s.asked current).jump a).registers r = s.registers r := by
  rw [State.registers_jump, State.asked, State.registers_jump, State.registers_setRegister hr]

lemma scratch_asked (current : BitVec 64) :
    ((s.asked current).jump a).registers scratch = current := by
  rw [State.registers_jump, State.asked, State.registers_jump, State.registers_setRegister_self]

/-- What passes a call on twice passes it on. -/
lemma Passes.trans {kept : Nat} (h : Passes kept s t) (h' : Passes kept t u) :
    Passes kept s u where
  arguments r hr := (h'.arguments r hr).trans (h.arguments r hr)
  vectors r hr := (h'.vectors r hr).trans (h.vectors r hr)
  returnAddress := h'.returnAddress.trans h.returnAddress
  saved r hr := (h'.saved r hr).trans (h.saved r hr)
  savedVectors r hr := (h'.savedVectors r hr).trans (h.savedVectors r hr)
  stackPointer := h'.stackPointer.trans h.stackPointer
  stack := h.stack.trans (h.stackPointer ▸ h'.stack)

/-- A call is passed on if only the scratch registers change. -/
lemma passes_of_registers {kept : Nat}
    (hregisters : ∀ r, r ≠ scratch → r ≠ scratch2 → t.registers r = s.registers r)
    (hvectors : t.vectors = s.vectors) (hstack : t.stackPointer = s.stackPointer)
    (hmemory : t.memory = s.memory) : Passes kept s t where
  arguments r hr :=
    hregisters r (by rintro rfl; revert hr; decide) (by rintro rfl; revert hr; decide)
  vectors r _ := congrFun hvectors r
  returnAddress := hregisters 30 (by decide) (by decide)
  saved r hr :=
    hregisters r (by rintro rfl; revert hr; decide) (by rintro rfl; revert hr; decide)
  savedVectors r _ := by rw [hvectors]
  stackPointer := hstack
  stack _ _ := congrFun hmemory _

/-- If the process-wide pointer is set, the branch goes through it, and only the scratch registers
change. -/
lemma leaves_of_set (h : Loaded s.memory s.programCounter n p) {current : Address}
    (hcurrent : s.memory.read 64 p.currentGlobal.toBitVec = current) (hset : current ≠ 0) :
    ∃ t, processor.Leaves function s t ∧
      t.programCounter = s.memory.read 64 (current.after n) ∧
      (∀ r, r ≠ scratch → r ≠ scratch2 → t.registers r = s.registers r) ∧
      t.vectors = s.vectors ∧ t.stackPointer = s.stackPointer ∧ t.memory = s.memory := by
  have hasked := reaches_asked function h
  simp only [hcurrent, if_neg hset] at hasked
  have hleaves := leaves_of_loaded function (n := n) (p := p)
    (s := (s.asked current).jump (s.programCounter.after 0x0c)) rfl h
  rw [scratch_asked] at hleaves
  exact ⟨_, hasked.leaves hleaves, rfl, fun r hr hr' =>
    (registers_lookedUp hr hr').trans (registers_asked hr), rfl, rfl, rfl⟩

/-- If the process-wide pointer is null, the branch goes through the resolver's answer. -/
lemma exists_leaves_of_null {f : State → State} {kept : Nat} {own : Address} {code : Area}
    (hcode : ∀ m, Memory.AgreesOn code s.memory m → Loaded m s.programCounter n p)
    (hwithin : (Area.mk s.programCounter 152).Within code) (hapart : code.Apart (s.below 224))
    (haligned : s.stackPointer.IsAligned 16) (hkept : 224 + kept ≤ addressSpace)
    (hf : Obeys f p.resolver.toBitVec 224 kept code own s)
    (hnull : s.memory.read 64 p.currentGlobal.toBitVec = 0) :
    ∃ u t, Calls p.resolver.toBitVec 224 s u ∧
      processor.Leaves (functionAt processor p.resolver.toBitVec f) s t ∧
      t.programCounter = t.memory.read 64 (own.after n) ∧ t.memory = (f u).memory ∧
      Passes kept s t := by
  have hasked := reaches_asked (functionAt processor p.resolver.toBitVec f)
    (hcode s.memory fun _ _ => rfl)
  simp only [hnull, if_pos] at hasked
  obtain ⟨u, t, hcalls, ht, htaddress, htable, htmemory, htcode, hpasses⟩ :=
    reaches_resolved (s := (s.asked 0).jump (s.programCounter.after 0x18)) rfl haligned hkept hcode
      hwithin hapart fun u hu =>
        hf u ⟨hu.address, hu.stackPointer, hu.aligned, hu.threadPointer, hu.memory⟩
  have hleaves := leaves_of_loaded (functionAt processor p.resolver.toBitVec f)
    htaddress (hcode t.memory htcode)
  rw [htable] at hleaves
  have hbefore : Passes kept s ((s.asked 0).jump (s.programCounter.after 0x18)) :=
    passes_of_registers (fun _ hr _ => registers_asked hr) rfl rfl rfl
  exact ⟨u, _, ⟨hcalls.address, hcalls.stackPointer, hcalls.aligned, hcalls.threadPointer,
    hcalls.memory⟩, (hasked.trans ht).leaves hleaves, rfl, htmemory,
    (hbefore.trans hpasses).trans
      (passes_of_registers (fun _ hr hr' => registers_lookedUp hr hr') rfl rfl rfl)⟩

end Run

/-! ### What a stub does -/

/-- The stub of every slot that a table has can be written, and leads to the slot's function in the
current table of the thread: to the address in the slot's word of the table. With a cell of the
thread, only the scratch registers change. With the process-wide pointer, the table is the one that
it points to, or else the resolver's answer; the call is passed on as it came. -/
theorem stub_branches_through_table {slot : Slot} (hslot : slot.index < maxSlots) (p : StubParams)
    (buffer : List UInt8) :
    (∃ stub, writeStub .aarch64 .threadLocal slot p buffer = .ok stub ∧
      ∀ (function : State → Option State) (s : State), s.memory.Holds s.programCounter stub →
        let table : Address := s.memory.read 64 (s.threadPointer + p.tlsOffset.toBitVec)
        let target := s.memory.read 64 (table.after (8 * slot.index))
        ∀ t, processor.Leaves function s t ↔
          t = ((s.setRegister scratch2 (BitVec.ofNat 64 (8 * slot.index))).setRegister scratch
            target).jump target) ∧
    ∃ stub, writeStub .aarch64 .threadSpecific slot p buffer = .ok stub ∧
      ∀ (f : State → State) (s : State) (kept : Nat) (own : Address),
        let code : Area := ⟨s.programCounter, stub.length⟩
        s.memory.Holds s.programCounter stub → code.Apart (s.below 224) →
        s.stackPointer.IsAligned 16 → 224 + kept ≤ addressSpace →
        Obeys f p.resolver.toBitVec 224 kept code own s →
        let current : Address := s.memory.read 64 p.currentGlobal.toBitVec
        let table := if current = 0 then own else current
        ∃ t, (∀ u, processor.Leaves (functionAt processor p.resolver.toBitVec f) s u ↔ u = t) ∧
          t.programCounter = t.memory.read 64 (table.after (8 * slot.index)) ∧
          Passes kept s t ∧ (current ≠ 0 → t.memory = s.memory) ∧
          (current = 0 → ∃ u, Calls p.resolver.toBitVec 224 s u ∧ t.memory = (f u).memory) := by
  have hfits : slot.index < 0x10000000 := by
    have hmax : maxSlots = 4096 := rfl
    omega
  have hwritten (model : StorageModel) :
      ∃ stub, writeStub .aarch64 model slot p buffer = .ok stub :=
    exists_writeStub hfits (by rintro ⟨⟩) buffer
  constructor
  · -- a cell of the thread
    obtain ⟨stub, hstub⟩ := hwritten .threadLocal
    refine ⟨stub, hstub, ?_⟩
    intro function s hcode table target t
    obtain ⟨body, rest, hbody, rfl⟩ := exists_stubBody hstub
    obtain ⟨displacement, hd, hbody⟩ := bind_eq_ok_iff.mp hbody
    obtain rfl : threadLocalStub p.tlsOffset displacement = body := Except.ok.inj hbody
    exact (leaves_threadLocal function (littleEndian_slotDisplacement hd)
      (Memory.holds_append.mp hcode).1).iff_eq
  · -- the process-wide pointer
    obtain ⟨stub, hstub⟩ := hwritten .threadSpecific
    refine ⟨stub, hstub, ?_⟩
    intro f s kept own code hcode hapart haligned hkept hf current table
    obtain ⟨body, rest, hbody, rfl⟩ := exists_stubBody hstub
    obtain ⟨displacement, hd, hbody⟩ := bind_eq_ok_iff.mp hbody
    obtain rfl : threadSpecificStub displacement p.currentGlobal p.resolver = body :=
      Except.ok.inj hbody
    have hloaded (m) (hm : Memory.AgreesOn code s.memory m) :
        Loaded m s.programCounter (8 * slot.index) p :=
      loaded_of_holds (littleEndian_slotDisplacement hd)
        (Memory.holds_append.mp (hcode.congr hm)).1
    by_cases hnull : current = 0
    · -- the pointer is null, and the resolver is asked
      have hwithin : (Area.mk s.programCounter 152).Within code := by
        refine Area.within_of_le ?_
        rw [List.length_append, length_threadSpecificStub]
        exact Nat.le_add_right _ _
      obtain ⟨u, t, hcalls, ht, htaddress, htmemory, hpasses⟩ :=
        exists_leaves_of_null hloaded hwithin hapart haligned hkept hf hnull
      exact ⟨t, fun _ => ht.iff_eq, by simpa [table, hnull] using htaddress, hpasses,
        fun h => absurd hnull h, fun _ => ⟨u, hcalls, htmemory⟩⟩
    · -- the pointer tells the table
      obtain ⟨t, ht, htaddress, hregisters, hvectors, hstack, hmemory⟩ :=
        leaves_of_set (functionAt processor p.resolver.toBitVec f)
          (hloaded s.memory fun _ _ => rfl) rfl hnull
      exact ⟨t, fun _ => ht.iff_eq, by simpa only [table, if_neg hnull, hmemory] using htaddress,
        passes_of_registers hregisters hvectors hstack hmemory, fun _ => hmemory,
        fun h => absurd h hnull⟩

/-- A function that returns a number, and changes every register that it may. -/
def answering (own : BitVec 64) (s : State) : State where
  registers r := if r ∈ calleeSaved then s.registers r else own
  vectors r := (s.vectors r).setWidth 64 |>.setWidth 128
  stackPointer := s.stackPointer
  threadPointer := s.threadPointer
  programCounter := s.registers 30
  memory := s.memory

lemma obeys_answering (own : BitVec 64) (a : Address) (used kept : Nat) (code : Area) (s : State) :
    Obeys (answering own) a used kept code own s := fun _ _ =>
  ⟨{ address := rfl
     stackPointer := rfl
     saved := fun _ hr => if_pos hr
     savedVectors := fun _ _ => by
       refine BitVec.eq_of_toNat_eq ?_
       simp [answering]
     stack := fun _ _ => rfl }, rfl, fun _ _ => rfl⟩

/-- A call through a stub whose process-wide pointer is null, in a thread whose table is at
`0x300000`: the resolver changes all registers that it may. And one through a stub that reads the
cell right before the thread pointer. -/
theorem stub_asks_answering_function :
    let p : StubParams := { tlsOffset := -8, currentGlobal := 0x100000, resolver := 0x200000 }
    let buffer : List UInt8 := List.replicate 256 0
    (⟨5⟩ : Slot).index < maxSlots ∧
    (∃ stub : List UInt8, ∃ s : State,
      writeStub .aarch64 .threadLocal ⟨5⟩ p buffer = .ok stub ∧
      s.memory.Holds s.programCounter stub ∧
      ∃ t, ∀ u, processor.Leaves (fun _ => none) s u ↔ u = t) ∧
    ∃ stub : List UInt8, ∃ s : State,
      writeStub .aarch64 .threadSpecific ⟨5⟩ p buffer = .ok stub ∧
      s.memory.Holds s.programCounter stub ∧
      (Area.mk s.programCounter stub.length).Apart (s.below 224) ∧
      s.stackPointer.IsAligned 16 ∧ 224 + 8 ≤ addressSpace ∧
      Obeys (answering 0x300000) 0x200000 224 8 ⟨s.programCounter, stub.length⟩ 0x300000 s ∧
      s.memory.read 64 0x100000 = 0 ∧
      ∃ t, (∀ u, processor.Leaves (functionAt processor 0x200000 (answering 0x300000)) s u ↔
          u = t) ∧
        t.programCounter = t.memory.read 64 0x300028 ∧ Passes 8 s t := by
  intro p buffer
  have hslot : (⟨5⟩ : Slot).index < maxSlots := by decide
  have hbuffer : buffer.length = 256 := List.length_replicate
  let blank : Memory := fun _ => 0
  let entry (stub : List UInt8) : State :=
    { registers := fun _ => 1, vectors := fun _ => 7, stackPointer := 0x7fff0000
      threadPointer := 0x500000, programCounter := 0x400000
      memory := blank.store 0x400000 stub }
  have hheld {stub : List UInt8} (hlength : stub.length = 256) :
      (entry stub).memory.Holds (entry stub).programCounter stub :=
    Memory.holds_store _ _ (by simp [hlength, addressSpace])
  obtain ⟨⟨stub, hstub, hlocal⟩, stub', hstub', hspecific⟩ :=
    stub_branches_through_table hslot p buffer
  have hlength : stub.length = 256 :=
    (length_writeStub (by rw [hbuffer]; decide) hstub).trans hbuffer
  have hlength' : stub'.length = 256 :=
    (length_writeStub (by rw [hbuffer]; decide) hstub').trans hbuffer
  have hcell := hlocal (fun _ => none) (entry stub) (hheld hlength)
  refine ⟨hslot, ⟨stub, entry stub, hstub, hheld hlength, _, hcell⟩, stub', entry stub', hstub',
    hheld hlength', ?_⟩
  -- code, stack and pointer are apart from each other
  have hapart : (Area.mk 0x400000 stub'.length).Apart ((entry stub').below 224) := by
    have hstack : (entry stub').stackPointer = 0x7fff0000 := rfl
    rw [State.below, hstack, hlength']
    exact Area.apart_of_le (j := 0x400000) (k := 0x7ffeff20) (by decide) (by decide) (by decide)
  have haligned : (entry stub').stackPointer.IsAligned 16 := by
    change Address.IsAligned 0x7fff0000 16
    decide
  have hnull : (entry stub').memory.read 64 0x100000 = 0 := by
    have hblank : blank.Holds 0x100000 (toBytes (0 : BitVec 64)) := rfl
    have hcell : (Area.mk 0x100000 8).Apart ⟨0x400000, stub'.length⟩ := by
      rw [hlength']
      exact Area.apart_of_le (j := 0x100000) (k := 0x400000) (by decide) (by decide) (by decide)
    exact Memory.read_of_holds (by decide)
      (hblank.congr ((Memory.agreesOutside_store _ _ _).agreesOn hcell))
  have hobeys := obeys_answering 0x300000 0x200000 224 8 ⟨0x400000, stub'.length⟩ (entry stub')
  -- the pointer is null, so the answer is the table
  obtain ⟨t, ht, htaddress, hpasses, -, -⟩ := hspecific (answering 0x300000) (entry stub') 8
    0x300000 (hheld hlength') hapart haligned (by decide) hobeys
  have hnull' : (entry stub').memory.read 64 p.currentGlobal.toBitVec = 0 := hnull
  have hword : Address.after 0x300000 (8 * (⟨5⟩ : Slot).index) = 0x300028 := by
    rw [Address.after]
    decide
  rw [if_pos hnull', hword] at htaddress
  exact ⟨hapart, haligned, by decide, hobeys, hnull, t, ht, htaddress, hpasses⟩

end VendorDispatch.Arm
