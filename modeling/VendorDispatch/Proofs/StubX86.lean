import Mathlib.Tactic.Common
import VendorDispatch.Machine.X86
import VendorDispatch.Proofs.StraightCode
import VendorDispatch.Proofs.StubAddresses

/-!
What the processor does when it runs a stub for the 64-bit x86.

* `straight_save`, `straight_restore`: the arguments of a call are put on the stack, and come back
  from there. Each is put together from one lemma for one instruction and an induction on the
  registers.
* `Loaded`: where the pieces of the stub are in the memory (`loaded_of_holds`).
* `reaches_asked`, `reaches_call`, `reaches_back`, `reaches_resolved`: from one piece to the next.
* `leaves_threadLocal`, `leaves_of_set`, `exists_leaves_of_null`: the ways through a stub.
* `stub_jumps_through_table`: a stub leads to the slot's function in the current table of the
  thread, and passes the call on as it came.
-/

namespace VendorDispatch.X86

open Processor

/-! ### Numbers in instructions -/

lemma extend32_ofNat {n : Nat} (h : n < 0x80000000) :
    extend32 (UInt32.ofNat n) = BitVec.ofNat 64 n := by
  have hn : (BitVec.ofNat 32 n).toNat = n := by
    rw [BitVec.toNat_ofNat]
    omega
  have hmsb : (BitVec.ofNat 32 n).msb = false := by
    rw [BitVec.msb_eq_decide, hn]
    exact decide_eq_false (by omega)
  rw [extend32, UInt32.toBitVec_ofNat', BitVec.signExtend_eq_setWidth_of_msb_false hmsb]
  refine BitVec.eq_of_toNat_eq ?_
  rw [BitVec.toNat_setWidth, hn, BitVec.toNat_ofNat]

/-- The field of the slot holds the place of the slot's word. -/
lemma extend32_slotDisplacement {slot : Slot} {displacement : UInt32}
    (h : slotDisplacement slot = .ok displacement) :
    extend32 displacement = BitVec.ofNat 64 (8 * slot.index) := by
  rw [slotDisplacement] at h
  split_ifs at h with hfits
  cases h
  have hlt := hfits.2
  rw [Nat.mul_comm 8]
  exact extend32_ofNat (by omega)

/-- The field of the thread's offset holds the offset. -/
lemma extend32_tlsField {offset : Int64} (h : FitsInt32 offset.toInt) :
    extend32 (tlsField offset) = offset.toBitVec := by
  have hfield : (tlsField offset).toBitVec = offset.toBitVec.setWidth 32 := rfl
  have hint : offset.toBitVec.toInt = offset.toInt := rfl
  have hwidth : 2 ^ min 64 32 = 0x100000000 := rfl
  obtain ⟨hlow, hhigh⟩ := h
  refine BitVec.eq_of_toInt_eq ?_
  rw [extend32, hfield, BitVec.toInt_signExtend, BitVec.toInt_setWidth, hwidth,
    Int.bmod_bmod_of_dvd (by decide), ← Int.bmod_bmod_of_dvd (m := 2 ^ 64) (by decide),
    ← BitVec.toInt_eq_toNat_bmod, hint]
  exact Int.bmod_eq_of_le (by omega) (by omega)

/-! ### Pieces of code -/

variable {s : State} {a : Address} {m : Memory}

/-- One register is pushed. -/
lemma straight_push (r : Register) (hstack : s.stackPointer = a.after 8) :
    ∃ t, processor.Straight ⟨a, 8⟩ [.push r] s t ∧ t.stackPointer = a ∧
      (∀ q ≠ .rsp, t.registers q = s.registers q) ∧ t.vectors = s.vectors ∧
      t.memory.Holds a (toBytes (s.registers r)) := by
  have hplace : s.stackPointer - 8 = a := by
    rw [hstack]
    simpa using a.after_sub 0 8
  have hstores := Memory.agreesOutside_store s.memory a (toBytes (s.registers r))
  rw [length_toBytes] at hstores
  rw [← hplace] at hstores ⊢
  exact ⟨_, .single rfl rfl hstores, rfl, fun q hq => State.registers_push hq, rfl,
    Memory.holds_store _ _ (by simp [addressSpace])⟩

/-- Registers that are pushed are on the stack, the last one on top. -/
lemma straight_pushes (rs : List Register) (hrs : .rsp ∉ rs) (hlen : 8 * rs.length ≤ addressSpace)
    (hstack : s.stackPointer = a.after (8 * rs.length)) :
    ∃ t, processor.Straight ⟨a, 8 * rs.length⟩ (rs.map .push) s t ∧ t.stackPointer = a ∧
      (∀ q ≠ .rsp, t.registers q = s.registers q) ∧ t.vectors = s.vectors ∧
      t.memory.Holds a (rs.reverse.flatMap fun r => toBytes (s.registers r)) := by
  induction rs generalizing s with
  | nil => exact ⟨s, .nil s, by simpa using hstack, fun _ _ => rfl, rfl, Memory.holds_nil _ _⟩
  | cons r rs ih =>
      simp only [List.mem_cons, not_or, List.length_cons, Nat.mul_succ] at hrs hlen hstack ⊢
      obtain ⟨u, hu, hustack, huregisters, huvectors, huheld⟩ :=
        straight_push (a := a.after (8 * rs.length)) r (by simpa using hstack)
      obtain ⟨t, ht, htstack, htregisters, htvectors, htheld⟩ := ih hrs.2 (by omega) hustack
      have hrest : (rs.reverse.flatMap fun q => toBytes (u.registers q)) =
          rs.reverse.flatMap fun q => toBytes (s.registers q) := by
        refine List.flatMap_congr fun q hq => ?_
        rw [huregisters q (by rintro rfl; exact hrs.2 (List.mem_reverse.mp hq))]
      have hbelow : (rs.reverse.flatMap fun q => toBytes (s.registers q)).length =
          8 * rs.length := by
        simp [List.length_flatMap, Nat.mul_comm]
      refine ⟨t, (hu.mono (Area.within_after (Nat.le_refl _))).append (ht.mono ?_), htstack,
        fun q hq => (htregisters q hq).trans (huregisters q hq), htvectors.trans huvectors, ?_⟩
      · exact Area.within_of_le (Nat.le_add_right _ _)
      · -- The other registers are pushed below the first one, and leave it in place.
        have hkept := huheld.congr
          (ht.memory_agrees.agreesOn (Area.apart_behind (by simpa using hlen)))
        rw [List.reverse_cons, List.flatMap_append, List.flatMap_singleton, Memory.holds_append,
          hbelow, ← hrest]
        exact ⟨htheld, hkept⟩

/-- The place of a vector register, 16 bytes for each. -/
lemma vectorPlace_eq (hstack : s.stackPointer = a) (v : VectorRegister) :
    s.stackPointer + extend8 (vectorPlace v) = a.after (16 * v.val) := by
  have hoffset : extend8 (vectorPlace v) = BitVec.ofNat 64 (16 * v.val) := by
    revert v
    decide
  rw [hstack, hoffset, Address.after]

lemma vectorPlace_isAligned (ha : a.IsAligned 16) (v : VectorRegister) :
    (a.after (16 * v.val)).IsAligned 16 :=
  (a.isAligned_after (Nat.mul_mod_right 16 v.val)).mpr ha

/-- One vector is stored in its place. -/
lemma straight_storeVector (v : VectorRegister) (hstack : s.stackPointer = a)
    (ha : a.IsAligned 16) :
    ∃ t, processor.Straight ⟨a.after (16 * v.val), 16⟩ [.storeVector (vectorPlace v) v] s t ∧
      t.registers = s.registers ∧ t.vectors = s.vectors ∧
      t.memory.Holds (a.after (16 * v.val)) (toBytes (s.vectors v.full)) := by
  have haligned := vectorPlace_isAligned ha v
  have hstores := Memory.agreesOutside_store s.memory (a.after (16 * v.val))
    (toBytes (s.vectors v.full))
  rw [length_toBytes] at hstores
  rw [← vectorPlace_eq hstack] at haligned hstores ⊢
  exact ⟨_, .single (if_pos haligned) rfl hstores, rfl, rfl,
    Memory.holds_store _ _ (by simp [addressSpace])⟩

/-- One vector is loaded from its place. -/
lemma straight_loadVector (v : VectorRegister) {value : BitVec 128} (hstack : s.stackPointer = a)
    (ha : a.IsAligned 16) (hheld : s.memory.Holds (a.after (16 * v.val)) (toBytes value)) :
    ∃ t, processor.Straight ⟨a, 0⟩ [.loadVector v (vectorPlace v)] s t ∧
      t.registers = s.registers ∧ t.memory = s.memory ∧
      t.vectors = Function.update s.vectors v.full value := by
  have haligned := vectorPlace_isAligned ha v
  rw [← Memory.read_of_holds (by decide) hheld]
  rw [← vectorPlace_eq hstack] at haligned ⊢
  exact ⟨_, .single (if_pos haligned) rfl (.refl _ _), rfl, rfl, rfl⟩

/-- The places of vector registers are apart from each other. -/
lemma apart_of_ne {v w : VectorRegister} (h : v ≠ w) :
    (Area.mk (a.after (16 * v.val)) 16).Apart ⟨a.after (16 * w.val), 16⟩ := by
  have hne : v.val ≠ w.val := fun hval => h (Fin.ext hval)
  have hspace : 144 ≤ addressSpace := by decide
  exact Area.apart_after (by omega) (by omega) (by omega)

/-- Vector registers that are stored are at their places, and nothing else is stored. -/
lemma straight_storeVectors (vs : List VectorRegister) (hvs : vs.Nodup)
    (hstack : s.stackPointer = a) (ha : a.IsAligned 16) :
    ∃ t, processor.Straight ⟨a, 128⟩ (vs.map fun v => .storeVector (vectorPlace v) v) s t ∧
      t.registers = s.registers ∧ t.vectors = s.vectors ∧
      (∀ v ∈ vs, t.memory.Holds (a.after (16 * v.val)) (toBytes (s.vectors v.full))) ∧
      ∀ v ∉ vs, Memory.AgreesOn ⟨a.after (16 * v.val), 16⟩ s.memory t.memory := by
  induction vs generalizing s with
  | nil => exact ⟨s, .nil s, rfl, rfl, nofun, fun _ _ _ _ => rfl⟩
  | cons v vs ih =>
      rw [List.nodup_cons] at hvs
      obtain ⟨u, hu, huregisters, huvectors, huheld⟩ := straight_storeVector v hstack ha
      obtain ⟨t, ht, htregisters, htvectors, htheld, htkept⟩ :=
        ih (s := u) hvs.2 ((congrFun huregisters .rsp).trans hstack)
      refine ⟨t, (hu.mono (Area.within_after (by omega))).append ht, htregisters.trans huregisters,
        htvectors.trans huvectors, ?_, ?_⟩
      · rw [List.forall_mem_cons, ← huvectors]
        exact ⟨(huvectors ▸ huheld).congr (htkept v hvs.1), htheld⟩
      · intro w hw x hx
        rw [List.mem_cons, not_or] at hw
        rw [htkept w hw.2 x hx]
        exact hu.memory_agrees x (apart_of_ne hw.1 x hx)

/-- Vector registers that are loaded get what is held at their places. -/
lemma straight_loadVectors {vs : List VectorRegister} {value : VectorRegister → BitVec 128}
    (hvs : vs.Nodup) (hstack : s.stackPointer = a) (ha : a.IsAligned 16)
    (hheld : ∀ v ∈ vs, s.memory.Holds (a.after (16 * v.val)) (toBytes (value v))) :
    ∃ t, processor.Straight ⟨a, 0⟩ (vs.map fun v => .loadVector v (vectorPlace v)) s t ∧
      t.registers = s.registers ∧ t.memory = s.memory ∧
      (∀ v ∈ vs, t.vectors v.full = value v) ∧ ∀ v ∉ vs, t.vectors v.full = s.vectors v.full := by
  induction vs generalizing s with
  | nil => exact ⟨s, .nil s, rfl, rfl, nofun, fun _ _ => rfl⟩
  | cons v vs ih =>
      rw [List.nodup_cons] at hvs
      rw [List.forall_mem_cons] at hheld
      obtain ⟨u, hu, huregisters, humemory, huvectors⟩ := straight_loadVector v hstack ha hheld.1
      obtain ⟨t, ht, htregisters, htmemory, htvectors, htkept⟩ :=
        ih (s := u) hvs.2 ((congrFun huregisters .rsp).trans hstack) (humemory ▸ hheld.2)
      refine ⟨t, hu.append ht, htregisters.trans huregisters, htmemory.trans humemory, ?_, ?_⟩
      · rw [List.forall_mem_cons, htkept v hvs.1, huvectors, Function.update_self]
        exact ⟨rfl, htvectors⟩
      · intro w hw
        rw [List.mem_cons, not_or] at hw
        have hfull : w.full ≠ v.full := fun h => hw.1 (Fin.castLE_injective _ h)
        rw [htkept w hw.2, huvectors, Function.update_of_ne hfull]

/-- One register is popped. -/
lemma straight_pop {r : Register} (hr : r ≠ .rsp) {value : BitVec 64} (hstack : s.stackPointer = a)
    (hheld : s.memory.Holds a (toBytes value)) :
    ∃ t, processor.Straight ⟨a, 0⟩ [.pop r] s t ∧ t.stackPointer = a.after 8 ∧
      t.vectors = s.vectors ∧ t.memory = s.memory ∧ t.registers r = value ∧
      ∀ q, q ≠ .rsp → q ≠ r → t.registers q = s.registers q := by
  rw [← Memory.read_of_holds (by decide) hheld, ← hstack]
  exact ⟨_, .single rfl rfl (.refl _ _), State.stackPointer_pop hr, rfl, rfl,
    State.registers_pop_self, fun q hq hqr => State.registers_pop hq hqr⟩

/-- Registers that are popped get what is held on the stack. -/
lemma straight_pops {rs : List Register} (hrs : .rsp ∉ rs) (hnodup : rs.Nodup)
    (value : Register → BitVec 64) (hstack : s.stackPointer = a)
    (hheld : s.memory.Holds a (rs.flatMap fun r => toBytes (value r))) :
    ∃ t, processor.Straight ⟨a, 0⟩ (rs.map .pop) s t ∧
      t.stackPointer = a.after (8 * rs.length) ∧ t.vectors = s.vectors ∧ t.memory = s.memory ∧
      (∀ r ∈ rs, t.registers r = value r) ∧
      ∀ q ≠ .rsp, q ∉ rs → t.registers q = s.registers q := by
  induction rs generalizing s a with
  | nil => exact ⟨s, .nil s, by simpa using hstack, rfl, rfl, nofun, fun _ _ _ => rfl⟩
  | cons r rs ih =>
      rw [List.mem_cons, not_or] at hrs
      rw [List.nodup_cons] at hnodup
      rw [List.flatMap_cons, Memory.holds_append, length_toBytes] at hheld
      obtain ⟨u, hu, hustack, huvectors, humemory, hur, huregisters⟩ :=
        straight_pop (Ne.symm hrs.1) hstack hheld.1
      obtain ⟨t, ht, htstack, htvectors, htmemory, htregisters, htkept⟩ :=
        ih hrs.2 hnodup.2 hustack (humemory ▸ hheld.2)
      refine ⟨t, hu.append (ht.mono nofun), ?_, htvectors.trans huvectors,
        htmemory.trans humemory, ?_, ?_⟩
      · rw [htstack, Address.after_after, List.length_cons, Nat.mul_succ, Nat.add_comm]
      · rw [List.forall_mem_cons, htkept r (Ne.symm hrs.1) hnodup.1, hur]
        exact ⟨rfl, htregisters⟩
      · intro q hq hqr
        rw [List.mem_cons, not_or] at hqr
        rw [htkept q hq hqr.2, huregisters q hq hqr.1]

/-- No instruction changes where thread-local data is found. -/
lemma threadPointer_of_execute {i : Instruction} {t : State}
    (h : processor.execute i s = some (.next t)) : t.threadPointer = s.threadPointer := by
  cases i with
  | storeVector | loadVector =>
      obtain ⟨-, h⟩ := Option.ite_none_right_eq_some.mp h
      cases h
      rfl
  | jumpIfZero displacement =>
      cases h
      split_ifs <;> rfl
  | jumpTable | callRelative | trap => cases h
  | _ =>
      cases h
      rfl

lemma threadPointer_of_straight {area : Area} {is : List Instruction} {t : State}
    (h : processor.Straight area is s t) : t.threadPointer = s.threadPointer := by
  induction h with
  | nil => rfl
  | cons hexecute _ _ _ ih => exact ih.trans (threadPointer_of_execute hexecute)

/-! ### The arguments on the stack -/

/-- Puts the arguments on the stack. -/
def saveCode : List Instruction :=
  argumentRegisters.map .push ++ ([.lowerStack vectorRoom] ++
    argumentVectors.map fun v => .storeVector (vectorPlace v) v)

/-- Takes the arguments off the stack. -/
def restoreCode : List Instruction :=
  (argumentVectors.map fun v => .loadVector v (vectorPlace v)) ++ ([.raiseStack vectorRoom] ++
    argumentRegisters.reverse.map .pop)

/-- The arguments of a call are on the stack: the vector registers first, and the general ones
behind the room for them. -/
structure Saved (s : State) (a : Address) (m : Memory) : Prop where
  vectors : ∀ v ∈ argumentVectors, m.Holds (a.after (16 * v.val)) (toBytes (s.vectors v.full))
  registers : m.Holds (a.after 136)
    (argumentRegisters.reverse.flatMap fun r => toBytes (s.registers r))

/-- What was saved stays so while its place is left alone. -/
lemma Saved.congr {u : Memory} (h : Saved s a m) (hagree : Memory.AgreesOn ⟨a, 184⟩ m u) :
    Saved s a u where
  vectors v hv := (h.vectors v hv).congr (hagree.mono (Area.within_after (by
    rw [length_toBytes]
    omega)))
  registers := h.registers.congr (hagree.mono (Area.within_after (Nat.le_refl _)))

/-- The arguments are saved: general registers above, vectors below. -/
lemma straight_save (hstack : s.stackPointer = a.after 184) (ha : a.IsAligned 16) :
    ∃ t, processor.Straight ⟨a, 184⟩ saveCode s t ∧ t.stackPointer = a ∧
      (∀ q ≠ .rsp, t.registers q = s.registers q) ∧ Saved s a t.memory := by
  obtain ⟨u, hu, hustack, huregisters, huvectors, huheld⟩ :=
    straight_pushes (s := s) (a := a.after 136) argumentRegisters (by decide) (by decide)
      (by rw [hstack, Address.after_after]; rfl)
  let v := (u.jump (u.instructionPointer.after
    (Instruction.lowerStack vectorRoom).encode.length)).moveStack (u.stackPointer - 136)
  have hv : processor.Straight ⟨a, 0⟩ [.lowerStack vectorRoom] u v :=
    .single rfl rfl (.refl _ _)
  have hvstack : v.stackPointer = a := by
    have hlower := a.after_sub 0 136
    rw [Nat.zero_add, ← hustack, Address.after_zero] at hlower
    exact hlower
  obtain ⟨t, ht, htregisters, htvectors, htheld, -⟩ :=
    straight_storeVectors (s := v) argumentVectors (by decide) hvstack ha
  have hstraight := (hu.mono (Area.within_after (Nat.le_refl _))).append
    ((hv.mono nofun).append (ht.mono (Area.within_of_le (by decide))))
  -- The general registers fill the upper 48 of the 184 bytes. The vectors go into the lower 128,
  -- and eight bytes between them stay free.
  refine ⟨t, hstraight, (congrFun htregisters .rsp).trans hvstack, ?_, ?_, ?_⟩
  · intro q hq
    rw [htregisters, ← huregisters q hq]
    exact State.registers_moveStack hq
  · intro w hw
    rw [← huvectors]
    exact htheld w hw
  · have hbehind : (Area.mk (a.after 136) 48).Apart ⟨a, 128⟩ :=
      (Area.apart_behind (by decide)).mono (fun _ h => h) (Area.within_of_le (by decide))
    exact huheld.congr (ht.memory_agrees.agreesOn hbehind)

/-- The arguments are restored from where they were saved. -/
lemma straight_restore {u : State} (hstack : u.stackPointer = a) (ha : a.IsAligned 16)
    (h : Saved s a u.memory) :
    ∃ t, processor.Straight ⟨a, 0⟩ restoreCode u t ∧ t.stackPointer = a.after 184 ∧
      t.memory = u.memory ∧ (∀ r ∈ argumentRegisters, t.registers r = s.registers r) ∧
      (∀ v ∈ argumentVectors, t.vectors v.full = s.vectors v.full) ∧
      ∀ q ≠ .rsp, q ∉ argumentRegisters → t.registers q = u.registers q := by
  obtain ⟨v, hv, hvregisters, hvmemory, hvvectors, -⟩ :=
    straight_loadVectors (by decide) hstack ha h.vectors
  -- between vectors and general registers, the stack is raised past the vectors
  let w := (v.jump (v.instructionPointer.after
    (Instruction.raiseStack vectorRoom).encode.length)).moveStack (v.stackPointer + 136)
  have hw : processor.Straight ⟨a, 0⟩ [.raiseStack vectorRoom] v w := .single rfl rfl (.refl _ _)
  have hwstack : w.stackPointer = a.after 136 :=
    (v.stackPointer.add_ofNat 136).trans
      (congrArg (Address.after · 136) ((congrFun hvregisters .rsp).trans hstack))
  have hwheld : w.memory.Holds (a.after 136)
      (argumentRegisters.reverse.flatMap fun r => toBytes (s.registers r)) :=
    hvmemory.symm ▸ h.registers
  obtain ⟨t, ht, htstack, htvectors, htmemory, htregisters, htkept⟩ :=
    straight_pops (by decide) (by decide) s.registers hwstack hwheld
  refine ⟨t, hv.append (hw.append (ht.mono nofun)), ?_, htmemory.trans hvmemory, ?_, ?_, ?_⟩
  · rw [htstack, Address.after_after]
    rfl
  · exact fun r hr => htregisters r (List.mem_reverse.mpr hr)
  · intro x hx
    rw [htvectors]
    exact hvvectors x hx
  · intro q hq hqr
    rw [htkept q hq (mt List.mem_reverse.mp hqr), ← hvregisters]
    exact State.registers_moveStack hq

/-! ### The stub in the memory -/

/-- Reads the process-wide pointer. -/
def inquiryCode : List Instruction := [.loadRelative 0x99, .loadIndirect, .testZero]

/-- The code that reads the process-wide pointer is in the memory, piece by piece. -/
structure Loaded (m : Memory) (a : Address) (displacement : UInt32) (p : StubParams) : Prop where
  inquiry : m.Holds a (processor.assemble inquiryCode)
  test : m.Holds (a.after 0x0d) (Instruction.jumpIfZero 6).encode
  jump : m.Holds (a.after 0x0f) (Instruction.jumpTable displacement).encode
  save : m.Holds (a.after 0x15) (processor.assemble saveCode)
  call : m.Holds (a.after 0x53) (Instruction.callRelative 0x4f).encode
  restore : m.Holds (a.after 0x59) (processor.assemble restoreCode)
  back : m.Holds (a.after 0x97) (Instruction.jump 0xffffff73).encode
  currentGlobal : m.Holds (a.after 0xa0) (toBytes p.currentGlobal.toBitVec)
  resolver : m.Holds (a.after 0xa8) (toBytes p.resolver.toBitVec)

/-- The stub is made of the pieces that the lemmas below run. -/
lemma threadSpecificStub_eq (displacement : UInt32) (p : StubParams) :
    threadSpecificStub displacement p.currentGlobal p.resolver =
      processor.assemble inquiryCode ++ ((Instruction.jumpIfZero 6).encode ++
        ((Instruction.jumpTable displacement).encode ++ (processor.assemble saveCode ++
          ((Instruction.callRelative 0x4f).encode ++ (processor.assemble restoreCode ++
            ((Instruction.jump 0xffffff73).encode ++
              (processor.assemble [.trap, .trap, .trap, .trap] ++
                (toBytes p.currentGlobal.toBitVec ++ toBytes p.resolver.toBitVec)))))))) := by
  rfl

/-- A stub that is in memory has its pieces and its literals at their places. -/
lemma loaded_of_holds {displacement : UInt32} {p : StubParams}
    (h : m.Holds a (threadSpecificStub displacement p.currentGlobal p.resolver)) :
    Loaded m a displacement p := by
  rw [threadSpecificStub_eq] at h
  simp only [Memory.holds_append, Address.after_after] at h
  obtain ⟨inquiry, test, jump, save, call, restore, back, -, currentGlobal, resolver⟩ := h
  exact ⟨inquiry, test, jump, save, call, restore, back, currentGlobal, resolver⟩

/-! ### Running the stub -/

section Run

variable (function : State → Option State) {displacement : UInt32} {p : StubParams} {n : Nat}

/-- The state in which the process-wide pointer is found. -/
def State.asked (s : State) (current : BitVec 64) : State :=
  { (s.setRegister .rax current).jump (s.instructionPointer.after 0x0d) with
    zeroFlag := current = 0 }

/-- The pointer is loaded through its literal, and tested. -/
lemma straight_inquiry {currentGlobal : Address}
    (h : s.memory.Holds (s.instructionPointer.after 0xa0) (toBytes currentGlobal)) :
    processor.Straight ⟨s.instructionPointer, 0⟩ inquiryCode s
      (s.asked (s.memory.read 64 currentGlobal)) := by
  have hplace : s.instructionPointer.after 7 + extend32 0x99 = s.instructionPointer.after 0xa0 :=
    (Address.add_ofNat _ 0x99).trans (Address.after_after _ 7 0x99)
  have hread : s.memory.read 64 (s.instructionPointer.after 7 + extend32 0x99) = currentGlobal := by
    rw [hplace]
    exact Memory.read_of_holds (by decide) h
  let x := (s.setRegister .rax currentGlobal).jump (s.instructionPointer.after 7)
  let y := (s.setRegister .rax (s.memory.read 64 currentGlobal)).jump
    (s.instructionPointer.after 0x0a)
  have hx : processor.execute (.loadRelative 0x99) s = some (.next x) := by
    simp only [x, ← hread]
    rfl
  have hy : processor.execute .loadIndirect x = some (.next y) := by
    simp [processor, execute, x, y, State.setRegister, State.jump, Instruction.encode]
  have hz : processor.execute .testZero y =
      some (.next (s.asked (s.memory.read 64 currentGlobal))) := by
    simp [processor, execute, y, State.asked, State.setRegister, State.jump, Instruction.encode]
  exact .cons hx rfl (.refl _ _) (.cons hy (Address.after_after _ 7 3).symm (.refl _ _)
    (.cons hz (Address.after_after _ 10 3).symm (.refl _ _) (.nil _)))

lemma step_of_encode {i : Instruction} (h : s.memory.Holds s.instructionPointer i.encode) :
    processor.step s = processor.execute i s :=
  step_of_holds (P := processor) (i := i) h

/-- A jump through a table leaves the code, for the address in the slot's word. -/
lemma leaves_jumpTable
    (h : s.memory.Holds s.instructionPointer (Instruction.jumpTable displacement).encode)
    (hslot : extend32 displacement = BitVec.ofNat 64 n) :
    processor.Leaves function s
      (s.jump (s.memory.read 64 (Address.after (s.registers .rax) n))) := by
  refine ⟨s, .refl s, ?_⟩
  rw [step_of_encode h, ← Address.add_ofNat, ← hslot]
  rfl

/-- The jump is taken if the pointer is null. -/
lemma step_asked {current : BitVec 64}
    (h : s.memory.Holds (s.instructionPointer.after 0x0d) (Instruction.jumpIfZero 6).encode) :
    processor.step (s.asked current) = some (.next ((s.asked current).jump
      (s.instructionPointer.after (if current = 0 then 0x15 else 0x0f)))) := by
  have hbehind : (s.instructionPointer.after 0x0d).after 2 = s.instructionPointer.after 0x0f :=
    Address.after_after _ 0x0d 2
  have htarget : (s.instructionPointer.after 0x0f) + extend8 6 = s.instructionPointer.after 0x15 :=
    (Address.add_ofNat _ 6).trans (Address.after_after _ 0x0f 6)
  rw [step_of_encode (s := s.asked current) h]
  by_cases hzero : current = 0
  · rw [if_pos hzero, ← htarget, ← hbehind]
    simp [processor, execute, State.asked, State.jump, hzero, Instruction.encode]
  · rw [if_neg hzero, ← hbehind]
    simp [processor, execute, State.asked, State.jump, Instruction.encode]
    exact fun h => absurd h hzero

/-- The first instructions lead to the jump if the process-wide pointer is set, and to the call of
the resolver if it is null. -/
lemma reaches_asked (h : Loaded s.memory s.instructionPointer displacement p) :
    let current := s.memory.read 64 p.currentGlobal.toBitVec
    processor.Reaches function s ((s.asked current).jump
      (s.instructionPointer.after (if current = 0 then 0x15 else 0x0f))) := by
  intro current
  exact ((straight_inquiry h.currentGlobal).reaches h.inquiry fun _ _ => nofun).trans
    (.head (.next (step_asked h.test)) (.refl _))

/-- The resolver is called through its literal. -/
lemma step_call {base : Address} (haddress : s.instructionPointer = base.after 0x53)
    (h : Loaded s.memory base displacement p) :
    processor.step s = some (.call ((s.push (base.after 0x59)).jump p.resolver.toBitVec)) := by
  have hreturn : s.instructionPointer.after 6 = base.after 0x59 := by
    rw [haddress, Address.after_after]
  have hplace : base.after 0x59 + extend32 0x4f = base.after 0xa8 :=
    (Address.add_ofNat _ 0x4f).trans (Address.after_after _ 0x59 0x4f)
  have hresolver : s.memory.read 64 (base.after 0x59 + extend32 0x4f) = p.resolver.toBitVec := by
    rw [hplace]
    exact Memory.read_of_holds (by decide) h.resolver
  rw [step_of_encode (haddress ▸ h.call), ← hresolver, ← hreturn]
  rfl

/-- The call of the resolver is reached with the arguments on the stack, below them the address
behind the call. -/
lemma reaches_call {base : Address} (haddress : s.instructionPointer = base.after 0x15)
    (hstack : s.stackPointer = a.after 192) (haligned : (a.after 8).IsAligned 16)
    (hcode : ∀ m, Memory.AgreesOutside ⟨a, 192⟩ s.memory m → Loaded m base displacement p)
    (hapart : (Area.mk base 176).Apart ⟨a, 192⟩) :
    ∃ t u, processor.Reaches function s t ∧ processor.step t = some (.call u) ∧
      u.instructionPointer = p.resolver.toBitVec ∧ u.stackPointer = a ∧
      u.threadPointer = s.threadPointer ∧ Memory.AgreesOutside ⟨a, 192⟩ s.memory u.memory ∧
      (∀ q ≠ .rsp, u.registers q = s.registers q) ∧ u.memory.Holds a (toBytes (base.after 0x59)) ∧
      Saved s (a.after 8) u.memory := by
  obtain ⟨t, ht, htstack, htregisters, htsaved⟩ :=
    straight_save (s := s) (a := a.after 8) (by rw [hstack, Address.after_after]) haligned
  -- the arguments are saved
  have htmemory : Memory.AgreesOutside ⟨a, 192⟩ s.memory t.memory :=
    ht.memory_agrees.mono (Area.within_after (Nat.le_refl _))
  have htaddress : t.instructionPointer = base.after 0x53 := by
    have h : t.instructionPointer = s.instructionPointer.after 0x3e := ht.address_eq
    rw [h, haddress, Address.after_after]
  have hreaches : processor.Reaches function s t := by
    have hsave := (hcode s.memory (.refl _ _)).save
    have hpiece : (Area.mk (base.after 0x15) 0x3e).Apart ⟨a.after 8, 184⟩ :=
      hapart.mono (Area.within_after (by decide)) (Area.within_after (by decide))
    rw [← haddress] at hsave hpiece
    exact ht.reaches hsave hpiece
  -- the call stores the address behind it below them
  have hplace : t.stackPointer - 8 = a := by
    rw [htstack]
    simpa using a.after_sub 0 8
  have hthread := threadPointer_of_straight ht
  let u := (t.push (base.after 0x59)).jump p.resolver.toBitVec
  have humemory : u.memory = t.memory.store a (toBytes (base.after 0x59)) := by
    rw [← hplace]
    rfl
  have huregisters (q) (hq : q ≠ .rsp) : u.registers q = s.registers q := by
    rw [← htregisters q hq]
    exact State.registers_push (v := base.after 0x59) hq
  have hstores := Memory.agreesOutside_store t.memory a (toBytes (base.after 0x59))
  rw [length_toBytes, ← humemory] at hstores
  have hreturn : u.memory.Holds a (toBytes (base.after 0x59)) := by
    rw [humemory]
    exact Memory.holds_store _ _ (by simp [addressSpace])
  exact ⟨t, u, hreaches, step_call htaddress (hcode t.memory htmemory), rfl, hplace, hthread,
    htmemory.trans (hstores.mono (Area.within_of_le (by decide))), huregisters, hreturn,
    htsaved.congr (hstores.agreesOn (Area.apart_behind (by decide)))⟩

/-- Behind the call, the arguments are taken off the stack, and the jump through the table is
reached. -/
lemma reaches_back {u : State} {base : Address} (haddress : u.instructionPointer = base.after 0x59)
    (hstack : u.stackPointer = a) (haligned : a.IsAligned 16) (hsaved : Saved s a u.memory)
    (hcode : Loaded u.memory base displacement p) :
    ∃ t, processor.Reaches function u t ∧ t.instructionPointer = base.after 0x0f ∧
      t.stackPointer = a.after 184 ∧ t.memory = u.memory ∧
      (∀ r ∈ argumentRegisters, t.registers r = s.registers r) ∧
      (∀ v ∈ argumentVectors, t.vectors v.full = s.vectors v.full) ∧
      ∀ q ≠ .rsp, q ∉ argumentRegisters → t.registers q = u.registers q := by
  obtain ⟨t, ht, htstack, htmemory, harguments, hvectors, hkept⟩ :=
    straight_restore hstack haligned hsaved
  have hrestore := hcode.restore
  rw [← haddress] at hrestore
  have htaddress : t.instructionPointer = base.after 0x97 := by
    have h : t.instructionPointer = u.instructionPointer.after 0x3e := ht.address_eq
    rw [h, haddress, Address.after_after]
  have hplace : t.instructionPointer.after 5 + extend32 0xffffff73 = base.after 0x0f := by
    have hback : extend32 0xffffff73 = -BitVec.ofNat 64 0x8d := by decide
    rw [htaddress, Address.after_after, hback, ← BitVec.sub_eq_add_neg]
    exact base.after_sub 0x0f 0x8d
  have hstep : processor.step t = some (.next (t.jump (base.after 0x0f))) := by
    have hback := hcode.back
    rw [← htaddress, ← htmemory] at hback
    rw [step_of_encode hback, ← hplace]
    rfl
  exact ⟨t.jump (base.after 0x0f), (ht.reaches hrestore fun _ _ => nofun).trans
    (.head (.next hstep) (.refl _)), rfl, htstack, htmemory, harguments, hvectors, hkept⟩

/-- If the process-wide pointer is null, the resolver is called, and its answer is used. -/
lemma reaches_resolved {base : Address} {f : State → State} {kept : Nat} {own : BitVec 64}
    (haddress : s.instructionPointer = base.after 0x15)
    (haligned : (s.stackPointer.after 8).IsAligned 16) (hkept : 192 + kept ≤ addressSpace)
    {code : Area} (hcode : ∀ m, Memory.AgreesOn code s.memory m → Loaded m base displacement p)
    (hwithin : (Area.mk base 176).Within code) (hapart : code.Apart (s.below 192))
    (hf : Obeys f p.resolver.toBitVec 192 kept code own s) :
    ∃ u t, Calls p.resolver.toBitVec 192 s u ∧
      processor.Reaches (functionAt processor p.resolver.toBitVec f) s t ∧
      t.instructionPointer = base.after 0x0f ∧ t.registers .rax = own ∧
      t.memory = (f u).memory ∧ Memory.AgreesOn code s.memory t.memory ∧ Passes kept s t := by
  -- The resolver is entered 192 bytes further down: 184 for the arguments, eight to return to.
  obtain ⟨a, ha⟩ : ∃ a, a = s.stackPointer - 192 := ⟨_, rfl⟩
  have hbelow : s.below 192 = ⟨a, 192⟩ := by
    rw [ha]
    rfl
  have hstack : s.stackPointer = a.after 192 := by
    rw [ha]
    exact (Address.after_of_sub _ 192).symm
  have haligned' : (a.after 8).IsAligned 16 := by
    rw [hstack, Address.after_after] at haligned
    rw [← Address.isAligned_after (n := 192) _ (by decide), Address.after_after]
    exact haligned
  obtain ⟨t, u, ht, hstep, huaddress, hustack, huthread, humemory, huregisters, hreturn, hsaved⟩ :=
    reaches_call (functionAt processor p.resolver.toBitVec f) haddress hstack haligned'
      (fun m hm => hcode m (hm.agreesOn (hbelow ▸ hapart)))
      (hbelow ▸ hapart.mono hwithin (fun _ h => h))
  have hcalls : Calls p.resolver.toBitVec 192 s u :=
    ⟨huaddress, hustack.trans ha, hustack ▸ haligned', huthread, hbelow ▸ humemory⟩
  obtain ⟨hreturns, hresult, hstays⟩ := hf u hcalls
  -- Neither the stub's stores nor the resolver reach the code, so the rest of it can still be run.
  have hstays' := (humemory.agreesOn (hbelow ▸ hapart)).trans hstays
  have hbehind : Memory.AgreesOn ⟨a.after 8, 184 + kept⟩ u.memory (f u).memory := by
    rw [← hustack]
    exact hreturns.stack.mono (Area.within_of_le (by omega))
  obtain ⟨v, hv, hvaddress, hvstack, hvmemory, harguments, hvectors, hothers⟩ :=
    reaches_back (functionAt processor p.resolver.toBitVec f) (s := s) (a := a.after 8) (u := f u)
      (by rw [hreturns.address, hustack, Memory.read_of_holds (by decide) hreturn])
      (by rw [hreturns.stackPointer, hustack]) haligned'
      (hsaved.congr (hbehind.mono (Area.within_of_le (Nat.le_add_right _ _))))
      (hcode _ hstays')
  refine ⟨u, v, hcalls, ht.trans (.head (.call u hstep (if_pos huaddress)) hv), hvaddress, ?_,
    hvmemory, hvmemory ▸ hstays', harguments, hvectors, fun r hr => ?_, ?_, ?_⟩
  · rw [hothers .rax (by decide) (by decide), hresult]
  · have hr' : r ≠ .rsp ∧ r ∉ argumentRegisters := by
      revert r
      decide
    rw [hothers r hr'.1 hr'.2, hreturns.saved r hr, huregisters r hr'.1]
  · rw [hvstack, Address.after_after, hstack]
  · rw [hvmemory, hstack]
    have hpart : (Area.mk (a.after 192) kept).Within ⟨a.after 8, 184 + kept⟩ := by
      simpa using Area.within_after (a := a.after 8) (j := 184) (Nat.le_refl _)
    exact (humemory.agreesOn (Area.apart_behind hkept)).trans (hbehind.mono hpart)

/-- The code that reads the thread's cell is left through the table that is found there. -/
lemma leaves_threadLocal {offset : Int64} (hoffset : FitsInt32 offset.toInt)
    (hslot : extend32 displacement = BitVec.ofNat 64 n)
    (hcode : s.memory.Holds s.instructionPointer
      (threadLocalStub (tlsField offset) displacement)) :
    let table := s.memory.read 64 (s.threadPointer + offset.toBitVec)
    processor.Leaves function s ((s.setRegister .rax table).jump
      (s.memory.read 64 (Address.after table n))) := by
  intro table
  have hpieces : threadLocalStub (tlsField offset) displacement =
      (Instruction.loadThread (tlsField offset)).encode ++
        ((Instruction.jumpTable displacement).encode ++ [0xcc]) := rfl
  rw [hpieces, Memory.holds_append, Memory.holds_append] at hcode
  let t := (s.setRegister .rax table).jump (s.instructionPointer.after 9)
  have hstep : processor.step s = some (.next t) := by
    rw [step_of_encode hcode.1]
    simp only [t, table, ← extend32_tlsField hoffset]
    rfl
  exact (Reaches.head (.next hstep) (.refl t)).leaves
    (leaves_jumpTable function (s := t) hcode.2.1 hslot)

/-! ### Both ways through the stub -/

/-- What passes a call on twice passes it on. -/
lemma Passes.trans {kept : Nat} {t u : State} (h : Passes kept s t) (h' : Passes kept t u) :
    Passes kept s u where
  arguments r hr := (h'.arguments r hr).trans (h.arguments r hr)
  vectors v hv := (h'.vectors v hv).trans (h.vectors v hv)
  saved r hr := (h'.saved r hr).trans (h.saved r hr)
  stackPointer := h'.stackPointer.trans h.stackPointer
  stack := h.stack.trans (h.stackPointer ▸ h'.stack)

lemma passes_jump (kept : Nat) (s : State) (a : Address) : Passes kept s (s.jump a) where
  arguments _ _ := rfl
  vectors _ _ := rfl
  saved _ _ := rfl
  stackPointer := rfl
  stack _ _ := rfl

lemma registers_asked (current : BitVec 64) {q : Register} (hq : q ≠ .rax) :
    ((s.asked current).jump a).registers q = s.registers q :=
  Function.update_of_ne hq _ _

lemma rax_asked (current : BitVec 64) : ((s.asked current).jump a).registers .rax = current := by
  simp [State.asked, State.setRegister, State.jump]

lemma stackPointer_asked (current : BitVec 64) :
    ((s.asked current).jump a).stackPointer = s.stackPointer :=
  registers_asked current (by decide)

lemma passes_asked (s : State) (current : BitVec 64) (a : Address) (kept : Nat) :
    Passes kept s ((s.asked current).jump a) where
  arguments r hr := registers_asked current (by revert r; decide)
  vectors _ _ := rfl
  saved r hr := registers_asked current (by revert r; decide)
  stackPointer := stackPointer_asked current
  stack _ _ := rfl

/-- If the process-wide pointer is set, the jump goes through it, and nothing else happens. -/
lemma leaves_of_set (h : Loaded s.memory s.instructionPointer displacement p)
    (hslot : extend32 displacement = BitVec.ofNat 64 n) {current : Address}
    (hcurrent : s.memory.read 64 p.currentGlobal.toBitVec = current) (hset : current ≠ 0) :
    processor.Leaves function s
      ((s.asked current).jump (s.memory.read 64 (current.after n))) := by
  have hasked := reaches_asked function h
  simp only [hcurrent, if_neg hset] at hasked
  have hleaves := leaves_jumpTable function
    (s := (s.asked current).jump (s.instructionPointer.after 0x0f)) h.jump hslot
  rw [rax_asked] at hleaves
  exact hasked.leaves hleaves

/-- If the process-wide pointer is null, the jump goes through the resolver's answer. -/
lemma exists_leaves_of_null {f : State → State} {kept : Nat} {own : Address} {code : Area}
    (hcode : ∀ m, Memory.AgreesOn code s.memory m → Loaded m s.instructionPointer displacement p)
    (hwithin : (Area.mk s.instructionPointer 176).Within code) (hapart : code.Apart (s.below 192))
    (hslot : extend32 displacement = BitVec.ofNat 64 n)
    (haligned : (s.stackPointer.after 8).IsAligned 16) (hkept : 192 + kept ≤ addressSpace)
    (hf : Obeys f p.resolver.toBitVec 192 kept code own s)
    (hnull : s.memory.read 64 p.currentGlobal.toBitVec = 0) :
    ∃ u t, Calls p.resolver.toBitVec 192 s u ∧
      processor.Leaves (functionAt processor p.resolver.toBitVec f) s t ∧
      t.instructionPointer = t.memory.read 64 (own.after n) ∧ t.memory = (f u).memory ∧
      Passes kept s t := by
  have hasked := reaches_asked (functionAt processor p.resolver.toBitVec f)
    (hcode s.memory fun _ _ => rfl)
  simp only [hnull, if_pos] at hasked
  -- The inquiry moves neither the stack nor the memory: what holds of `s` holds behind it.
  have hstack := stackPointer_asked (s := s) (a := s.instructionPointer.after 0x15) 0
  have hbelow : ((s.asked 0).jump (s.instructionPointer.after 0x15)).below 192 = s.below 192 := by
    rw [State.below, hstack]
    rfl
  obtain ⟨u, t, hcalls, ht, htaddress, htrax, htmemory, htcode, hpasses⟩ :=
    reaches_resolved (s := (s.asked 0).jump (s.instructionPointer.after 0x15)) rfl
      (hstack ▸ haligned) hkept hcode hwithin (hbelow ▸ hapart)
      fun u hu => hf u ⟨hu.address, hstack ▸ hu.stackPointer, hu.aligned, hu.threadPointer,
        hbelow ▸ hu.memory⟩
  have hjump := (hcode t.memory htcode).jump
  rw [← htaddress] at hjump
  have hleaves := leaves_jumpTable (functionAt processor p.resolver.toBitVec f)
    hjump hslot
  rw [htrax] at hleaves
  exact ⟨u, _, ⟨hcalls.address, hstack ▸ hcalls.stackPointer, hcalls.aligned,
    hcalls.threadPointer, hbelow ▸ hcalls.memory⟩, (hasked.trans ht).leaves hleaves, rfl, htmemory,
    ((passes_asked s 0 _ kept).trans hpasses).trans (passes_jump kept t _)⟩

end Run

/-! ### What a stub does -/

lemma isAligned_of_entry (h : s.stackPointer.toNat % 16 = 8) :
    (s.stackPointer.after 8).IsAligned 16 := by
  simp only [Address.IsAligned, Address.after]
  bv_omega

/-- A stub that was written leads to the slot's function in the current table of the thread: to the
address in the slot's word of the table. With a cell of the thread, only `rax` changes. With the
process-wide pointer, the table is the one that it points to, or else the resolver's answer; the
resolver is called with the stack aligned, and the call is passed on as it came. -/
theorem stub_jumps_through_table {slot : Slot} {p : StubParams} {buffer stub : List UInt8} :
    (writeStub .x86_64 .threadLocal slot p buffer = .ok stub →
      ∀ (function : State → Option State) (s : State), s.memory.Holds s.instructionPointer stub →
        let table : Address := s.memory.read 64 (s.threadPointer + p.tlsOffset.toBitVec)
        ∀ t, processor.Leaves function s t ↔ t = (s.setRegister .rax table).jump
          (s.memory.read 64 (table.after (8 * slot.index)))) ∧
    (writeStub .x86_64 .threadSpecific slot p buffer = .ok stub →
      ∀ (f : State → State) (s : State) (kept : Nat) (own : Address),
        let code : Area := ⟨s.instructionPointer, stub.length⟩
        s.memory.Holds s.instructionPointer stub → code.Apart (s.below 192) →
        s.stackPointer.toNat % 16 = 8 → 192 + kept ≤ addressSpace →
        Obeys f p.resolver.toBitVec 192 kept code own s →
        let current : Address := s.memory.read 64 p.currentGlobal.toBitVec
        let table := if current = 0 then own else current
        ∃ t, (∀ u, processor.Leaves (functionAt processor p.resolver.toBitVec f) s u ↔ u = t) ∧
          t.instructionPointer = t.memory.read 64 (table.after (8 * slot.index)) ∧
          Passes kept s t ∧ (current ≠ 0 → t.memory = s.memory) ∧
          (current = 0 → ∃ u, Calls p.resolver.toBitVec 192 s u ∧ t.memory = (f u).memory)) := by
  constructor
  · -- a cell of the thread
    intro hstub function s hcode table t
    obtain ⟨body, rest, hbody, rfl⟩ := exists_stubBody hstub
    obtain ⟨displacement, hslot, hbody⟩ := bind_eq_ok_iff.mp hbody
    simp only at hbody
    split_ifs at hbody with hfits
    cases hbody
    exact (leaves_threadLocal function hfits (extend32_slotDisplacement hslot)
      (Memory.holds_append.mp hcode).1).iff_eq
  · -- the process-wide pointer
    intro hstub f s kept own code hcode hapart haligned hkept hf current table
    obtain ⟨body, rest, hbody, rfl⟩ := exists_stubBody hstub
    obtain ⟨displacement, hslot, hbody⟩ := bind_eq_ok_iff.mp hbody
    cases hbody
    have hloaded (m) (hm : Memory.AgreesOn code s.memory m) :
        Loaded m s.instructionPointer displacement p :=
      loaded_of_holds (Memory.holds_append.mp (hcode.congr hm)).1
    by_cases hnull : current = 0
    · -- the pointer is null, and the resolver is asked
      have hwithin : (Area.mk s.instructionPointer 176).Within code := by
        refine Area.within_of_le ?_
        rw [List.length_append, length_threadSpecificStub]
        exact Nat.le_add_right _ _
      obtain ⟨u, t, hcalls, ht, htaddress, htmemory, hpasses⟩ :=
        exists_leaves_of_null hloaded hwithin hapart (extend32_slotDisplacement hslot)
          (isAligned_of_entry haligned) hkept hf hnull
      exact ⟨t, fun _ => ht.iff_eq, by simpa [table, hnull] using htaddress, hpasses,
        fun h => absurd hnull h, fun _ => ⟨u, hcalls, htmemory⟩⟩
    · -- the pointer tells the table
      have ht := leaves_of_set (functionAt processor p.resolver.toBitVec f)
        (hloaded s.memory fun _ _ => rfl) (extend32_slotDisplacement hslot) rfl hnull
      exact ⟨_, fun _ => ht.iff_eq, by simp only [table, if_neg hnull]; rfl,
        passes_asked s current _ kept, fun _ => rfl, fun h => absurd h hnull⟩

/-- A function that returns a number, and changes every register that it may. -/
def answering (own : BitVec 64) (s : State) : State where
  registers r := if r ∈ calleeSaved then s.registers r else
    if r = .rsp then s.stackPointer.after 8 else own
  vectors _ := 0
  zeroFlag := !s.zeroFlag
  threadPointer := s.threadPointer
  instructionPointer := s.memory.read 64 s.stackPointer
  memory := s.memory

lemma obeys_answering (own : BitVec 64) (a : Address) (used kept : Nat) (code : Area) (s : State) :
    Obeys (answering own) a used kept code own s := fun _ _ =>
  ⟨{ address := rfl
     stackPointer := rfl
     saved := fun _ hr => if_pos hr
     stack := fun _ _ => rfl }, rfl, fun _ _ => rfl⟩

/-- A call through a stub whose process-wide pointer is null, in a thread whose table is at
`0x300000`: the resolver changes all registers that it may. And one through a stub that reads the
cell right before the thread pointer. -/
theorem stub_asks_answering_resolver :
    let p : StubParams := { tlsOffset := -8, currentGlobal := 0x100000, resolver := 0x200000 }
    (∃ stub : List UInt8, ∃ s : State,
      writeStub .x86_64 .threadLocal ⟨5⟩ p (List.replicate 16 0) = .ok stub ∧
      s.memory.Holds s.instructionPointer stub ∧
      ∃ t, ∀ u, processor.Leaves (fun _ => none) s u ↔ u = t) ∧
    ∃ stub : List UInt8, ∃ s : State,
      writeStub .x86_64 .threadSpecific ⟨5⟩ p (List.replicate 256 0) = .ok stub ∧
      s.memory.Holds s.instructionPointer stub ∧
      (Area.mk s.instructionPointer stub.length).Apart (s.below 192) ∧
      s.stackPointer.toNat % 16 = 8 ∧ 192 + 8 ≤ addressSpace ∧
      Obeys (answering 0x300000) 0x200000 192 8 ⟨s.instructionPointer, stub.length⟩ 0x300000 s ∧
      s.memory.read 64 0x100000 = 0 ∧
      ∃ t, (∀ u, processor.Leaves (functionAt processor 0x200000 (answering 0x300000)) s u ↔
          u = t) ∧
        t.instructionPointer = t.memory.read 64 0x300028 ∧ Passes 8 s t := by
  intro p
  let blank : Memory := fun _ => 0
  let entry (stub : List UInt8) : State :=
    { registers := fun _ => 0x7fff0008, vectors := fun _ => 7, zeroFlag := true
      threadPointer := 0x500000, instructionPointer := 0x400000
      memory := blank.store 0x400000 stub }
  have hcode {stub : List UInt8} (hlength : stub.length ≤ 256) :
      (entry stub).memory.Holds (entry stub).instructionPointer stub :=
    Memory.holds_store _ _ (Nat.le_trans hlength (by decide))
  constructor
  · obtain ⟨stub, hstub⟩ : ∃ stub, stubCode .x86_64 .threadLocal ⟨5⟩ p = .ok stub :=
      stubCode_eq_ok_iff.mpr ⟨by decide, fun _ _ => by decide⟩
    have hbuffer : (List.replicate 16 (0 : UInt8)).length = 16 := List.length_replicate
    have hwritten := writeStub_of_length hbuffer hstub
    have hheld := hcode (Nat.le_trans (Nat.le_of_eq (length_stubCode hstub)) (by decide))
    exact ⟨stub, entry stub, hwritten, hheld, _,
      stub_jumps_through_table.1 hwritten (fun _ => none) (entry stub) hheld⟩
  · obtain ⟨stub, hstub⟩ : ∃ stub, stubCode .x86_64 .threadSpecific ⟨5⟩ p = .ok stub :=
      stubCode_eq_ok_iff.mpr ⟨by decide, nofun⟩
    have hlength : stub.length = 256 := length_stubCode hstub
    have hbuffer : (List.replicate 256 (0 : UInt8)).length = 256 := List.length_replicate
    have hwritten := writeStub_of_length hbuffer hstub
    have hheld := hcode (Nat.le_of_eq hlength)
    have hstack : (entry stub).stackPointer = 0x7fff0008 := rfl
    -- code, stack and pointer are apart from each other
    have hapart : (Area.mk 0x400000 stub.length).Apart ((entry stub).below 192) := by
      rw [State.below, hstack, hlength]
      exact Area.apart_of_le (j := 0x400000) (k := 0x7ffeff48) (by decide) (by decide) (by decide)
    have haligned : (entry stub).stackPointer.toNat % 16 = 8 := by
      rw [hstack]
      decide
    have hnull : (entry stub).memory.read 64 0x100000 = 0 := by
      have hblank : blank.Holds 0x100000 (toBytes (0 : BitVec 64)) := rfl
      have hcell : (Area.mk 0x100000 8).Apart ⟨0x400000, stub.length⟩ := by
        rw [hlength]
        exact Area.apart_of_le (j := 0x100000) (k := 0x400000) (by decide) (by decide) (by decide)
      exact Memory.read_of_holds (by decide)
        (hblank.congr ((Memory.agreesOutside_store _ _ _).agreesOn hcell))
    have hobeys := obeys_answering 0x300000 0x200000 192 8 ⟨0x400000, stub.length⟩ (entry stub)
    -- the pointer is null, so the answer is the table
    obtain ⟨t, ht, htaddress, hpasses, -, -⟩ := stub_jumps_through_table.2 hwritten
      (answering 0x300000) (entry stub) 8 0x300000 hheld hapart haligned (by decide) hobeys
    have hnull' : (entry stub).memory.read 64 p.currentGlobal.toBitVec = 0 := hnull
    have hword : Address.after 0x300000 (8 * (⟨5⟩ : Slot).index) = 0x300028 := by
      rw [Address.after]
      decide
    rw [if_pos hnull', hword] at htaddress
    exact ⟨stub, entry stub, hwritten, hheld, hapart, haligned, by decide, hobeys, hnull, t, ht,
      htaddress, hpasses⟩

end VendorDispatch.X86
