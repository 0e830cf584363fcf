import VendorDispatch.Proofs.Latch
import VendorDispatch.Proofs.StubAddresses

/-!
What threads are told about the same name agrees, whoever asks for what and when.

* `SlotRegistry.answer`, `SlotRegistry.Settles`: what is answered when the slot of a name is asked
  for, and that the answer cannot change any more.
* `NameReply`, `Crew.Records`: what threads are told about names, in the order in which it happens.
  `Records.leads`, `exists_records`: every run is recorded. `Records.call`: a call that is not
  interrupted is recorded with what it returns.
* `Switchboard.Named`: the invariant: every reply fits the names and stubs that there are, and every
  stub was there from the start or was told to somebody.
* `Switchboard.Agrees`, `addresses_match_names`: what is answered about names and addresses after
  any run.
-/

namespace VendorDispatch

/-! ### Answers of registries -/

namespace SlotRegistry

variable {r u : SlotRegistry} {name : String} {s : Slot} {x y : Option Slot}

/-- What is answered when the slot of a name is asked for. -/
def answer (r : SlotRegistry) (name : String) : Option Slot := (r.assign name).toOption.map Prod.fst

lemma answer_of_ok (h : r.assign name = .ok (s, u)) : r.answer name = some s := by
  rw [answer, h]
  rfl

lemma answer_of_lookup (h : r.lookup name = some s) : r.answer name = some s :=
  answer_of_ok (assign_of_lookup h)

/-- A slot is answered for a name that has one, and for a new name while there is room. -/
lemma exists_answer_iff :
    (∃ s, r.answer name = some s) ↔
      (∃ s, r.lookup name = some s) ∨ isEntryPointName name = true ∧ r.size < r.capacity := by
  rw [← assign_eq_ok_iff, answer]
  cases r.assign name <;> simp [Except.toOption]

lemma answer_eq_none_iff :
    r.answer name = none ↔
      r.lookup name = none ∧ ¬ (isEntryPointName name = true ∧ r.size < r.capacity) := by
  rw [← not_iff_not, ← ne_eq, Option.ne_none_iff_exists', exists_answer_iff, not_and_or, not_not,
    ← ne_eq, Option.ne_none_iff_exists']

/-- The answer is what a name has, or none, and it stays that way. -/
def Settles (r : SlotRegistry) (name : String) : Option Slot → Prop
  | some s => r.lookup name = some s
  | none => r.answer name = none

lemma Settles.answer (h : r.Settles name x) : r.answer name = x := by
  cases x with
  | none => exact h
  | some s => exact answer_of_lookup h

/-- Once the slot of a name was asked for, the answer is settled. -/
lemma settles_assigned (r : SlotRegistry) (name : String) :
    (r.assigned name).Settles name (r.answer name) := by
  cases hassign : r.assign name with
  | error e =>
      have hnone : r.answer name = none := by
        rw [SlotRegistry.answer, hassign]
        rfl
      have hsame : r.assigned name = r := by rw [SlotRegistry.assigned, hassign]
      rw [hnone, hsame]
      exact hnone
  | ok p =>
      rw [answer_of_ok hassign, assigned_of_assign hassign]
      exact lookup_of_assign hassign

/-- Answers that are settled stay so. -/
lemma Settles.mono (h : r.Settles name x) (hgrows : r.Grows u) (hr : r.Compact) (hu : u.Compact) :
    u.Settles name x := by
  cases x with
  | some s => exact hgrows.lookup hr hu h
  | none =>
      obtain ⟨hnew, hno⟩ := answer_eq_none_iff.mp h
      have hle := hgrows.size_le
      have hcapacity := hgrows.capacity
      refine answer_eq_none_iff.mpr ⟨?_, fun ⟨hname, hroom⟩ => hno ⟨hname, by omega⟩⟩
      by_contra hknown
      obtain ⟨s, hs⟩ := Option.ne_none_iff_exists'.mp hknown
      have hname := hu.valid name (hu.mem_of_lookup hs)
      -- There was no room for the name, so the registry holds the same names still.
      have hfull : r.size = r.capacity :=
        Nat.le_antisymm hr.size_le (Nat.not_lt.mp fun hroom => hno ⟨hname, hroom⟩)
      rw [hu.lookup_eq_some_iff, name?, hgrows.names_eq_of_full hu hfull, ← name?,
        ← hr.lookup_eq_some_iff, hnew] at hs
      cases hs

lemma Compact.index_lt (h : r.Compact) (hs : r.lookup name = some s) : s.index < r.capacity :=
  Nat.lt_of_lt_of_le (name?_eq_some_lt (h.lookup_eq_some_iff.mp hs)) h.size_le

lemma compact_ofKnown {capacity : Nat} (h : capacity ≤ UInt32.size) (names : List String) :
    (ofKnown capacity names).Compact ∧ (ofKnown capacity names).capacity = capacity := by
  have hcompact := (compact_empty h).assignedEach names
  exact ⟨⟨hcompact.lookup_eq_some_iff, hcompact.valid, hcompact.size_le, hcompact.capacity_le⟩,
    ((empty capacity).grows_assignedEach names).capacity⟩

end SlotRegistry

/-! ### What threads are told -/

/-- What a thread was told about a name. -/
inductive NameReply
  /-- The slot of a name, if there is one. -/
  | slot (name : String) (s : Option Slot)
  /-- The address of the stub of a name, if there is one. -/
  | address (name : String) (a : Option Nat)
  deriving DecidableEq

section Records

variable {φ α β : Type}

/-- What an action tells about a name. -/
def Action.reply? (p : Switchboard φ) : Action φ → Option NameReply
  | .assign name => some (.slot name (p.assign name).1)
  | .entryPoint name => some (.address name (p.entryPoint name).1)
  | _ => none

/-- What a task that runs alone is told about names. -/
def Task.replies : Task φ α → Switchboard φ → List NameReply
  | .done _, _ => []
  | .act action next, p =>
    (action.reply? p).toList ++ (next (action.perform p).1).replies (action.perform p).2

lemma Task.replies_bind (task : Task φ α) (f : α → Task φ β) (p : Switchboard φ) :
    (task.bind f).replies p = task.replies p ++ (f (task.run p).1).replies (task.run p).2 := by
  induction task generalizing p with
  | done a => rfl
  | act action next ih =>
      simp only [Task.bind, Task.replies, Task.run, ih, List.append_assoc]

namespace Crew

variable {b c d : Crew φ} {log : List NameReply} {t : ThreadId}

/-- What a thread's next action tells about a name. -/
def replies (c : Crew φ) (t : ThreadId) : List NameReply :=
  match c.tasks t with
  | .done () => []
  | .act action _ => (action.reply? c.board).toList

/-- The crew in which a thread has made a call, and has not begun with it. -/
def called (c : Crew φ) (t : ThreadId) (call : Call φ) : Crew φ :=
  (c.ending t call.isLast).assign t ((call.task t).bind fun _ => .done ())

/-- The threads get from one crew to the other, and are told about names what the log says. -/
inductive Records : Crew φ → List NameReply → Crew φ → Prop
  /-- By no step. -/
  | refl (c : Crew φ) : Records c [] c
  /-- A thread that has nothing else to do makes a call. -/
  | start {b c : Crew φ} {log : List NameReply} {t : ThreadId} {call : Call φ} : Records b log c →
    c.tasks t = .done () → c.ended t = false → c.board.Admits call →
      Records b (log ++ (c.called t call).replies t) (c.start t call)
  /-- A thread performs its next action. -/
  | turn {b c : Crew φ} {log : List NameReply} (t : ThreadId) : Records b log c →
    Records b (log ++ c.replies t) (c.turn t)

lemma Records.leads (h : Records b log c) : Leads b c := by
  induction h with
  | refl => exact .refl _
  | start _ idle running admitted ih => exact .step ih (.start idle running admitted)
  | turn t _ ih => exact .step ih (.turn _ t)

/-- Every run is recorded. -/
lemma exists_records (h : Leads b c) : ∃ log, Records b log c := by
  induction h with
  | refl => exact ⟨[], .refl _⟩
  | step _ hstep ih =>
      obtain ⟨log, hlog⟩ := ih
      cases hstep with
      | start idle running admitted => exact ⟨_, hlog.start idle running admitted⟩
      | turn t => exact ⟨_, hlog.turn t⟩

lemma replies_assign (c : Crew φ) (t : ThreadId) (action : Action φ)
    (next : action.Answer → Task φ Unit) :
    (c.assign t (.act action next)).replies t = (action.reply? c.board).toList := by
  rw [replies, tasks_assign]
  rfl

/-- A thread that is not interrupted is told what its task is told alone. -/
lemma Records.run {task : Task φ Unit} (h : Records b log (c.assign t task)) :
    Records b (log ++ task.replies c.board)
      ((c.onBoard (task.run c.board).2).assign t (.done ())) := by
  induction task generalizing c log with
  | done =>
      rw [Task.replies, List.append_nil]
      exact h
  | act action next ih =>
      have first := h.turn t
      rw [turn_assign_act, replies_assign] at first
      have rest := ih _ first
      rw [List.append_assoc] at rest
      exact rest

/-- The same holds of a thread that performs its first action. -/
lemma Records.turn_run {task : Task φ Unit}
    (h : Records b (log ++ (c.assign t task).replies t) ((c.assign t task).turn t)) :
    Records b (log ++ task.replies c.board)
      ((c.onBoard (task.run c.board).2).assign t (.done ())) := by
  cases task with
  | done =>
      rw [turn_assign_done, replies, tasks_assign] at h
      exact h
  | act action next =>
      rw [turn_assign_act, replies_assign] at h
      have rest := h.run
      rw [List.append_assoc] at rest
      exact rest

/-- A call that is not interrupted is recorded with what it is told. -/
lemma Records.call (h : Records b log c) (t : ThreadId) (call : Call φ) (idle : c.tasks t = .done ())
    (running : c.ended t = false) (admitted : c.board.Admits call) (more : call.isLast = false) :
    Records b (log ++ (call.task t).replies c.board) (c.onBoard (c.board.call t call).2) := by
  have rest := (h.start idle running admitted).turn_run
  rw [Task.replies_bind, Task.replies, List.append_nil, Task.run_bind, more, ending_false] at rest
  have hidle : (c.onBoard (c.board.call t call).2).assign t (.done ()) =
      c.onBoard (c.board.call t call).2 := assign_eq_self idle
  rw [← hidle]
  exact rest

end Crew

end Records

/-! ### The stubs of the start -/

namespace StubRegion

variable {r u : StubRegion}

/-- Writing the stubs of some slots gives stubs to them and to no other slot. -/
lemma generateAll_eq_ok {slots : List Slot} (hr : r.Faithful) (h : r.generateAll slots = .ok u) :
    r.SameLayout u ∧ u.Faithful ∧
      ∀ s : Slot, u.hasStub s.index = true ↔ s ∈ slots ∨ r.hasStub s.index = true := by
  induction slots generalizing r with
  | nil =>
      cases h
      exact ⟨.refl u, hr, fun s => by simp⟩
  | cons t slots ih =>
      obtain ⟨⟨address, v⟩, hv, h⟩ := bind_eq_ok_iff.mp h
      obtain ⟨hlayout, hu, hstub⟩ := ih (hr.generate hv) h
      refine ⟨(sameLayout_generate hv).trans hlayout, hu, fun s => ?_⟩
      rw [hstub, hasStub_generate hv, Bool.or_eq_true, decide_eq_true_iff, Slot.index_inj,
        List.mem_cons, or_left_comm, or_assoc]

/-- The stub of a slot, wherever its code can be made. -/
lemma Faithful.generate_eq (h : r.Faithful) (hpatch : r.params.Patchable r.arch r.model) {s : Slot}
    (hs : s.index < maxSlots) : r.generate s = .ok (r.stubAddress s.index, r.ask s) := by
  obtain ⟨⟨address, u⟩, hu⟩ := h.generate_eq_ok_iff.mpr ⟨hs, hpatch⟩
  rw [hu, ask_of_generate hu, address_of_generate hu]

/-- Stubs of different slots have different addresses. -/
lemma stubAddress_inj (r : StubRegion) {i j : Nat} : r.stubAddress i = r.stubAddress j ↔ i = j := by
  rw [stubAddress, stubAddress, Nat.add_left_cancel_iff]
  exact Nat.mul_left_inj (Nat.ne_of_gt r.stubSize_pos)

end StubRegion

namespace Switchboard

variable {φ : Type} {p q : Switchboard φ} {name : String} {t : ThreadId}

/-! ### Names and stubs of a process -/

/-- Giving a name its slot does what the registry does, and writes no stub. -/
lemma assign_names (p : Switchboard φ) (name : String) :
    (p.assign name).1 = p.registry.answer name ∧
      (p.assign name).2.registry = p.registry.assigned name ∧
      (p.assign name).2.region = p.region := by
  rw [assign, SlotRegistry.answer, SlotRegistry.assigned]
  cases p.registry.assign name with
  | error e => exact ⟨rfl, rfl, rfl⟩
  | ok a =>
      dsimp only
      split_ifs
      · exact ⟨rfl, fixUpEach_eq registry_fixUp _ _, fixUpEach_eq region_fixUp _ _⟩
      · exact ⟨rfl, rfl, rfl⟩

/-- Counting a thread changes neither names nor stubs. -/
lemma countThread_names (p : Switchboard φ) (t : ThreadId) :
    ((Facade.countThread t).run p).2.registry = p.registry ∧
      ((Facade.countThread t).run p).2.region = p.region := by
  rw [run_countThread]
  dsimp only
  split_ifs <;> exact ⟨rfl, rfl⟩

/-- Counting a thread tells nothing about names. -/
lemma replies_countThread (p : Switchboard φ) (t : ThreadId) :
    (Facade.countThread t : Task φ Unit).replies p = [] := by
  cases hm : p.multithreaded <;> cases hs : (p.threads t).seen <;> cases hc : p.claimed <;>
    simp [Facade.countThread, Task.perform, Bind.bind, Task.bind, Task.replies, Action.perform,
      Action.reply?, hm, hs, hc, modifyThread, Pure.pure]

/-- The slot that a thread is told when it asks for a name and is not interrupted. -/
def slotOf (p : Switchboard φ) (t : ThreadId) (name : String) : Option Slot :=
  (p.call t (.slot name)).1

/-- The address that a thread is told when it asks for a name and is not interrupted. -/
def addressOf (p : Switchboard φ) (t : ThreadId) (name : String) : Option Nat :=
  (p.call t (.procAddress name)).1

lemma slotOf_eq (p : Switchboard φ) (t : ThreadId) (name : String) :
    p.slotOf t name = (((Facade.countThread t).run p).2.assign name).1 :=
  congrArg Prod.fst
    (Task.run_bind (Facade.countThread t) (fun _ => Task.perform (.assign name)) p)

lemma addressOf_eq (p : Switchboard φ) (t : ThreadId) (name : String) :
    p.addressOf t name = (((Facade.countThread t).run p).2.entryPoint name).1 :=
  congrArg Prod.fst
    (Task.run_bind (Facade.countThread t) (fun _ => Task.perform (.entryPoint name)) p)

/-- What a call for a slot returns is what is recorded for it. -/
lemma replies_slot (p : Switchboard φ) (t : ThreadId) (name : String) :
    ((Call.slot name).task t).replies p = [.slot name (p.slotOf t name)] := by
  refine (Task.replies_bind (Facade.countThread t) _ p).trans ?_
  rw [replies_countThread, slotOf_eq]
  rfl

/-- What a call for an address returns is what is recorded for it. -/
lemma replies_procAddress (p : Switchboard φ) (t : ThreadId) (name : String) :
    ((Call.procAddress name).task t).replies p = [.address name (p.addressOf t name)] := by
  refine (Task.replies_bind (Facade.countThread t) _ p).trans ?_
  rw [replies_countThread, addressOf_eq]
  rfl

end Switchboard

/-- The reply is settled: the slot is the one that the name has, and the address is that of its
stub. -/
def NameReply.Fits (fresh : StubRegion) (r : SlotRegistry) : NameReply → Prop
  | slot name x => r.Settles name x
  | address name a => ∃ x, r.Settles name x ∧ a = x.map fun s => fresh.stubAddress s.index

lemma NameReply.Fits.mono {fresh : StubRegion} {r u : SlotRegistry} {x : NameReply}
    (h : x.Fits fresh r) (hgrows : r.Grows u) (hr : r.Compact) (hu : u.Compact) :
    x.Fits fresh u := by
  cases x with
  | slot name s => exact SlotRegistry.Settles.mono h hgrows hr hu
  | address name a =>
      obtain ⟨x, hx, ha⟩ := h
      exact ⟨x, hx.mono hgrows hr hu, ha⟩

/-- The slot was known from the start, or somebody was told the address of its stub. -/
def Reached (fresh : StubRegion) (known : SlotRegistry) (log : List NameReply) (s : Slot) : Prop :=
  (∃ name, known.lookup name = some s) ∨
    ∃ name, .address name (some (fresh.stubAddress s.index)) ∈ log

namespace Switchboard

variable {φ : Type} {p q : Switchboard φ} {name : String} {t : ThreadId} {fresh : StubRegion}
  {known : SlotRegistry} {log : List NameReply}

/-! ### The invariant -/

/-- Every reply fits the names and stubs that there are, and every stub was there from the start or
was told to somebody. -/
structure Named (fresh : StubRegion) (known : SlotRegistry) (log : List NameReply)
    (p : Switchboard φ) : Prop where
  compact : p.registry.Compact
  capacity : p.registry.capacity = maxSlots
  patchable : fresh.params.Patchable fresh.arch fresh.model
  region : ∃ r, p.region = some r ∧ fresh.SameLayout r ∧ r.Faithful ∧
    ∀ s : Slot, r.hasStub s.index = true ↔ Reached fresh known log s
  replies : ∀ x ∈ log, x.Fits fresh p.registry

lemma Named.congr (h : p.Named fresh known log) (hregistry : q.registry = p.registry)
    (hregion : q.region = p.region) : q.Named fresh known log := by
  obtain ⟨hcompact, hcapacity, hpatch, hstubs, hreplies⟩ := h
  rw [← hregistry] at hcompact hcapacity hreplies
  rw [← hregion] at hstubs
  exact ⟨hcompact, hcapacity, hpatch, hstubs, hreplies⟩

/-- Every slot that is answered can have a stub. -/
lemma Named.generate_eq (h : p.Named fresh known log) {r : StubRegion} {s : Slot}
    (hlayout : fresh.SameLayout r) (hfaithful : r.Faithful) (hs : p.registry.answer name = some s) :
    r.generate s = .ok (r.stubAddress s.index, r.ask s) := by
  have hsettles := p.registry.settles_assigned name
  rw [hs] at hsettles
  have hlt := (h.compact.assigned name).index_lt hsettles
  rw [(p.registry.grows_assigned name).capacity, h.capacity] at hlt
  refine hfaithful.generate_eq ?_ hlt
  rw [hlayout.params, hlayout.arch, hlayout.model]
  exact h.patchable

/-- Asking for the stub of a name gives the address of the stub of its slot. -/
lemma Named.entryPoint_eq (h : p.Named fresh known log) (name : String) :
    (p.entryPoint name).1 = (p.registry.answer name).map (fun s => fresh.stubAddress s.index) ∧
      (p.entryPoint name).2.registry = p.registry.assigned name ∧
      (p.entryPoint name).2.region =
        p.region.map fun r => (p.registry.answer name).elim r r.ask := by
  obtain ⟨r, hr, hlayout, hfaithful, -⟩ := h.region
  obtain ⟨hfst, hregistry, hregion⟩ := p.assign_names name
  rw [entryPoint]
  rcases hassign : p.assign name with ⟨_ | s, q⟩
  · rw [hassign] at hfst hregistry hregion
    rw [← hfst, hr]
    exact ⟨rfl, hregistry, hregion.trans hr⟩
  · rw [hassign] at hfst hregistry hregion
    have hq : q.region = some r := hregion.trans hr
    rw [← hfst]
    simp only [hq, h.generate_eq hlayout hfaithful hfst.symm, hr]
    exact ⟨congrArg some (hlayout.stubAddress _), hregistry, rfl⟩

/-- A name was assigned, its stub perhaps written, and a thread was told so. -/
lemma Named.told (h : p.Named fresh known log) {x : NameReply}
    (hregistry : q.registry = p.registry.assigned name)
    (hregion : ∃ r, q.region = some r ∧ fresh.SameLayout r ∧ r.Faithful ∧
      ∀ s : Slot, r.hasStub s.index = true ↔ Reached fresh known (log ++ [x]) s)
    (hfits : x.Fits fresh (p.registry.assigned name)) : q.Named fresh known (log ++ [x]) where
  compact := hregistry ▸ h.compact.assigned name
  capacity := by rw [hregistry, (p.registry.grows_assigned name).capacity, h.capacity]
  patchable := h.patchable
  region := hregion
  replies y hy := by
    rw [hregistry]
    rcases List.mem_append.mp hy with hy | hy
    · exact (h.replies y hy).mono (p.registry.grows_assigned name) h.compact
        (h.compact.assigned name)
    · exact List.mem_singleton.mp hy ▸ hfits

/-- A reply about a slot is recorded, and nothing is told about stubs. -/
lemma Named.assign (h : p.Named fresh known log) (name : String) :
    (p.assign name).2.Named fresh known (log ++ [.slot name (p.assign name).1]) := by
  obtain ⟨r, hr, hlayout, hfaithful, hstub⟩ := h.region
  obtain ⟨hfst, hregistry, hregion⟩ := p.assign_names name
  refine h.told hregistry ⟨r, hregion.trans hr, hlayout, hfaithful, fun s => ?_⟩ ?_
  · rw [hstub]
    simp [Reached]
  · rw [hfst]
    exact p.registry.settles_assigned name

/-- A reply about an address is recorded, and its stub is there. -/
lemma Named.entryPoint (h : p.Named fresh known log) (name : String) :
    (p.entryPoint name).2.Named fresh known (log ++ [.address name (p.entryPoint name).1]) := by
  obtain ⟨r, hr, hlayout, hfaithful, hstub⟩ := h.region
  obtain ⟨hfst, hregistry, hregion⟩ := h.entryPoint_eq name
  rw [hr, Option.map_some] at hregion
  refine h.told hregistry ⟨_, hregion, ?_⟩ ⟨_, p.registry.settles_assigned name, hfst⟩
  rw [hfst]
  cases hanswer : p.registry.answer name with
  | none =>
      refine ⟨hlayout, hfaithful, fun s => ?_⟩
      rw [Option.elim_none, hstub]
      simp [Reached]
  | some s =>
      have hgenerate := h.generate_eq hlayout hfaithful hanswer
      refine ⟨hlayout.trans (r.sameLayout_ask s), hfaithful.ask s, fun u => ?_⟩
      rw [Option.elim_some, StubRegion.hasStub_generate hgenerate, Bool.or_eq_true, hstub,
        decide_eq_true_iff]
      simp only [Reached, List.mem_append, List.mem_singleton, exists_or, Option.map_some,
        NameReply.address.injEq, Option.some.injEq, fresh.stubAddress_inj, exists_eq_left]
      -- The slot has a stub now; whether it was known or asked for before makes no difference.
      tauto

/-- Every action keeps the invariant, with what it tells. -/
lemma Named.perform (h : p.Named fresh known log) (a : Action φ) :
    (a.perform p).2.Named fresh known (log ++ (a.reply? p).toList) := by
  have silent : p.Named fresh known (log ++ []) := by rwa [List.append_nil]
  cases a with
  | assign name => exact h.assign name
  | entryPoint name => exact h.entryPoint name
  | fixUp T => exact silent.congr (registry_fixUp p T) (region_fixUp p T)
  | replaceOwner t table => cases table <;> exact silent.congr rfl rfl
  | _ => exact silent.congr rfl rfl

end Switchboard

namespace Crew

variable {φ : Type} {b c : Crew φ} {log : List NameReply} {t : ThreadId} {fresh : StubRegion}
  {known : SlotRegistry}

lemma named_turn (h : c.board.Named fresh known log) (t : ThreadId) :
    (c.turn t).board.Named fresh known (log ++ c.replies t) := by
  rw [replies]
  cases htask : c.tasks t with
  | done =>
      rw [turn_of_done htask, List.append_nil]
      exact h
  | act action next =>
      rw [board_turn htask]
      exact h.perform action

/-- Wherever threads get, what they were told fits the names and stubs that there are. -/
lemma Records.named (h : Records b log c) (hb : b.board.Named fresh known []) :
    c.board.Named fresh known log := by
  induction h with
  | refl => exact hb
  | @start c log t call _ _ _ _ ih =>
      have hcalled : (c.called t call).board.Named fresh known log := ih
      exact named_turn hcalled t
  | turn t _ ih => exact named_turn ih t

end Crew

namespace Switchboard

variable {φ : Type} {p : Switchboard φ} {name : String} {fresh : StubRegion} {log : List NameReply}

/-! ### What is answered -/

/-- At the start the stubs are those of the names that are known. -/
lemma named_start {k : Kernel} {arch : Architecture} {model : StorageModel} {params : StubParams}
    {names : List String} (hfresh : StubRegion.create? k arch model params = some (.ok fresh))
    (hknown : 0 < (SlotRegistry.ofKnown maxSlots names).size)
    (started : start (.ofKnown maxSlots names) (some fresh) = .ok p) :
    p.Named fresh (.ofKnown maxSlots names) [] := by
  have hroom : maxSlots ≤ UInt32.size := by decide
  obtain ⟨hcompact, hcapacity⟩ := SlotRegistry.compact_ofKnown hroom names
  generalize SlotRegistry.ofKnown maxSlots names = known at *
  obtain ⟨-, -, -, -, hempty, hfaithful⟩ := StubRegion.create?_eq_ok hfresh
  obtain ⟨region, hregion, started⟩ := bind_eq_ok_iff.mp started
  cases started
  obtain ⟨hlayout, hstubs, hstub⟩ := StubRegion.generateAll_eq_ok hfaithful hregion
  have hreached (s : Slot) : region.hasStub s.index = true ↔ ∃ name, known.lookup name = some s := by
    simp only [hstub, hempty, Bool.false_eq_true, or_false, List.mem_map, Prod.exists,
      hcompact.mem_slotsFrom_iff, Nat.zero_le, true_and, exists_and_right, exists_eq_right,
      hcompact.lookup_eq_some_iff]
  refine ⟨hcompact, hcapacity, ?_, ⟨region, rfl, hlayout, hstubs, fun s => ?_⟩, nofun⟩
  · -- The stub of the first name was written, so the others can be written too.
    obtain ⟨name, hname⟩ := (SlotRegistry.exists_name?_iff (s := .ofIndex 0)).mpr hknown
    have hfirst := hstubs.written _ ((hreached _).mpr ⟨name, hcompact.lookup_eq_some_iff.mpr hname⟩)
    have hpatch := (stubCode_eq_ok_iff.mp ⟨_, hfirst⟩).2
    rwa [hlayout.params, hlayout.arch, hlayout.model] at hpatch
  · rw [hreached, Reached]
    simp

/-- What is answered about names and addresses after threads were told what the log says, in a
process in which the given names were known from the start. The region was `fresh` when it was
made. -/
structure Agrees (fresh : StubRegion) (names : List String) (log : List NameReply)
    (p : Switchboard φ) : Prop where
  /-- A name has an address if it has a slot, or if it is new and there is room. -/
  succeeds : ∀ t name, (∃ a, p.addressOf t name = some a) ↔
    (∃ s, p.registry.lookup name = some s) ∨
      (name ≠ "" ∧ '\x00' ∉ name.toList) ∧ p.registry.size < maxSlots
  /-- The address of a name is that of the stub of its slot. -/
  together : ∀ t u name, p.addressOf t name =
    (p.slotOf u name).map fun s => fresh.start + s.index * fresh.stubSize
  /-- Whoever asks for a slot again is told the same. -/
  slot : ∀ name s, .slot name s ∈ log → ∀ t, p.slotOf t name = s
  /-- Whoever asks for an address again is told the same. -/
  address : ∀ name a, .address name a ∈ log → ∀ t, p.addressOf t name = a
  /-- Different names have different addresses. -/
  distinct : ∀ name other a b, .address name (some a) ∈ log → .address other (some b) ∈ log →
    (a = b ↔ name = other)
  /-- Addresses are in the range of stubs. -/
  inside : ∀ name a, .address name (some a) ∈ log →
    ∃ first behind, Facade.publicEntryRange p = some (first, behind) ∧ first ≤ a ∧ a < behind
  /-- The address of a name has the slot of the name. -/
  recognized : ∀ name a, .address name (some a) ∈ log →
    ∃ s, Facade.slotForAddress p a = some s ∧ ∀ t, p.slotOf t name = some s
  /-- An address has a slot only if the slot was known from the start or somebody was told the
  address. -/
  reached : ∀ a s, Facade.slotForAddress p a = some s ↔
    a = fresh.start + s.index * fresh.stubSize ∧
      ((∃ name, (SlotRegistry.ofKnown maxSlots names).lookup name = some s) ∨
        ∃ name, .address name (some a) ∈ log)

lemma slotOf_eq_answer (p : Switchboard φ) (t : ThreadId) (name : String) :
    p.slotOf t name = p.registry.answer name := by
  rw [slotOf_eq, (assign_names _ name).1, (p.countThread_names t).1]

lemma Named.addressOf_eq {known : SlotRegistry} (h : p.Named fresh known log) (t : ThreadId)
    (name : String) :
    p.addressOf t name = (p.registry.answer name).map fun s => fresh.stubAddress s.index := by
  obtain ⟨hregistry, hregion⟩ := p.countThread_names t
  rw [Switchboard.addressOf_eq, ((h.congr hregistry hregion).entryPoint_eq name).1, hregistry]

/-- An address that somebody was told is that of the stub of the name's slot. -/
lemma Named.exists_of_address {known : SlotRegistry} (h : p.Named fresh known log) {a : Nat}
    (ha : .address name (some a) ∈ log) :
    ∃ s, p.registry.lookup name = some s ∧ a = fresh.stubAddress s.index := by
  obtain ⟨_ | s, hs, hmap⟩ := h.replies _ ha
  · cases hmap
  · exact ⟨s, hs, Option.some.inj hmap⟩

lemma Named.slotForAddress_eq_some_iff {known : SlotRegistry} (h : p.Named fresh known log)
    {a : Nat} {s : Slot} :
    Facade.slotForAddress p a = some s ↔
      a = fresh.stubAddress s.index ∧ Reached fresh known log s := by
  obtain ⟨r, hr, hlayout, -, hstub⟩ := h.region
  rw [Facade.slotForAddress, hr, Option.bind_some, StubRegion.slotForAddress?_eq_some_iff,
    StubRegion.addressOf?_eq_some_iff, hstub, hlayout.stubAddress]
  exact and_comm.trans (and_congr_left' eq_comm)

/-- Whatever threads ask and whenever they ask it, they are told the same about a name. -/
theorem addresses_match_names {k : Kernel} {arch : Architecture} {model : StorageModel}
    {params : StubParams} {names : List String} {c : Crew φ}
    (hfresh : StubRegion.create? k arch model params = some (.ok fresh))
    (hknown : 0 < (SlotRegistry.ofKnown maxSlots names).size)
    (started : start (.ofKnown maxSlots names) (some fresh) = .ok p)
    (records : Crew.Records { board := p } log c) : Agrees fresh names log c.board := by
  have h : c.board.Named fresh (.ofKnown maxSlots names) log :=
    records.named (named_start hfresh hknown started)
  refine ⟨fun t name => ?succeeds, fun t u name => ?together, fun name s hs t => ?slot,
    fun name a ha t => ?address, fun name other a b ha hb => ?distinct, fun name a ha => ?inside,
    fun name a ha => ?recognized, fun a s => ?reached⟩
  case succeeds =>
    rw [h.addressOf_eq, ← isEntryPointName_iff, ← h.capacity,
      ← SlotRegistry.exists_answer_iff]
    simp
  case together =>
    rw [h.addressOf_eq, slotOf_eq_answer]
    rfl
  case slot =>
    rw [slotOf_eq_answer]
    exact SlotRegistry.Settles.answer (h.replies _ hs)
  case address =>
    obtain ⟨x, hx, rfl⟩ := h.replies _ ha
    rw [h.addressOf_eq, hx.answer]
  case distinct =>
    obtain ⟨s, hs, rfl⟩ := h.exists_of_address ha
    obtain ⟨u, hu, rfl⟩ := h.exists_of_address hb
    rw [fresh.stubAddress_inj, Slot.index_inj]
    constructor
    · rintro rfl
      exact h.compact.eq_of_lookup hs hu
    · rintro rfl
      exact Option.some.inj (hs.symm.trans hu)
  case inside =>
    obtain ⟨s, hs, rfl⟩ := h.exists_of_address ha
    obtain ⟨r, hr, hlayout, -⟩ := h.region
    have hlt := h.compact.index_lt hs
    rw [h.capacity] at hlt
    refine ⟨r.start, r.limit, by rw [Facade.publicEntryRange, hr]; rfl, ?_, ?_⟩
    · rw [hlayout.start]
      exact Nat.le_add_right _ _
    · rw [hlayout.limit]
      exact fresh.stubAddress_lt_limit hlt
  case recognized =>
    obtain ⟨s, hs, rfl⟩ := h.exists_of_address ha
    refine ⟨s, h.slotForAddress_eq_some_iff.mpr ⟨rfl, .inr ⟨name, ha⟩⟩, fun t => ?_⟩
    rw [slotOf_eq_answer]
    exact SlotRegistry.answer_of_lookup hs
  case reached =>
    rw [h.slotForAddress_eq_some_iff]
    refine and_congr_right fun ha => ?_
    rw [Reached, ha]

end Switchboard

/-- A system that maps memory as it is asked to. -/
def plainKernel : Kernel where
  mapAnonymous _ := .ok 0x100000
  createFile := .error 38
  resizeFile _ := .error 38
  mapWritable _ := .error 38
  mapExecutable _ := .error 38

/-- One thread asks for the slot of a new name, and another one for its address. -/
theorem addresses_match_names_new :
    StubRegion.create? plainKernel .x86_64 .threadSpecific {} = some (.ok pointerRegion) ∧
      0 < (SlotRegistry.ofKnown maxSlots ["glClear"]).size ∧ pointerStart = .ok pointerBoard ∧
      ∃ c, Crew.Records { board := pointerBoard }
          [.slot "glFlush" (some (.ofIndex 1)), .address "glFlush" (some 0x100100)] c ∧
        Facade.slotForAddress c.board 0x100100 = some (.ofIndex 1) ∧
        c.board.addressOf ⟨1⟩ "glFlush" = some 0x100100 := by
  have hfresh : StubRegion.create? plainKernel .x86_64 .threadSpecific {} =
      some (.ok pointerRegion) := rfl
  have hknown : 0 < (SlotRegistry.ofKnown maxSlots ["glClear"]).size := by decide +kernel
  have slot : pointerBoard.slotOf ⟨1⟩ "glFlush" = some (.ofIndex 1) := by decide +kernel
  have first := (Crew.Records.refl { board := pointerBoard }).call ⟨1⟩ (.slot "glFlush") rfl rfl
    trivial rfl
  rw [Switchboard.replies_slot, slot] at first
  have second := first.call ⟨0⟩ (.procAddress "glFlush") rfl rfl trivial rfl
  -- The address follows from the slot that the other thread was told.
  have agrees := Switchboard.addresses_match_names hfresh hknown pointerStart_eq first
  rw [Switchboard.replies_procAddress, agrees.together _ ⟨1⟩,
    agrees.slot _ _ (List.mem_singleton_self _)] at second
  have after := Switchboard.addresses_match_names hfresh hknown pointerStart_eq second
  obtain ⟨s, hs, hslot⟩ := after.recognized "glFlush" 0x100100 (.tail _ (.head _))
  have hsame : some s = some (.ofIndex 1) :=
    (hslot ⟨0⟩).symm.trans (after.slot _ _ (.head _) ⟨0⟩)
  rw [hsame] at hs
  exact ⟨hfresh, hknown, pointerStart_eq, _, second, hs,
    after.address _ _ (.tail _ (.head _)) ⟨1⟩⟩

end VendorDispatch
