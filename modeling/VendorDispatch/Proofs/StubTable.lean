import VendorDispatch.Proofs.CurrentTable

/-!
Which table a stub reaches.

A thread-local stub reads the cell of the calling thread. A thread-specific stub reads the
process-wide pointer instead, as long as that is not null. Calling a stub does not count the
calling thread, so a thread that does nothing else does not make the pointer null.

* `lastSet`, `ownedTable`, `Counted`: what the calls of threads say about the table that a thread
  set last, the table that it made current and still owns, and whether it was counted.
* `Switchboard.Tells`: the state of the process agrees with the calls. Every call keeps it
  (`TellsOf.call`), and so does every run of calls (`tellsOf_run`).
* `stub_reaches_own_table_iff`: the cell of a thread is the table that it owns, and a
  thread-specific stub reaches another one only on a thread that was never counted, while exactly
  one thread was.
* `idle_thread_reaches_other_table`: a thread that only calls a stub reaches another thread's table.
-/

namespace VendorDispatch

variable {φ : Type}

/-! ### What calls say about a thread -/

/-- The vendor's table that a cell points to. -/
def TableRef.table? : TableRef → Option TableId
  | .noop => none
  | .vendor T => some T

/-- What a cell of a thread points to that owns the given table, or none. -/
def TableRef.ofOwner (owner : Option TableId) : TableRef := owner.elim .noop .vendor

@[simp] lemma TableRef.ofOwner_table? (table : TableRef) : ofOwner table.table? = table := by
  cases table <;> rfl

namespace Call

/-- The table that a call makes current on the calling thread. -/
def sets? : Call φ → Option TableRef
  | makeCurrent T => some (.vendor T)
  | loseCurrent => some .noop
  | _ => none

/-- The table that a call leaves the calling thread to own, if it changes that. -/
def owns? : Call φ → Option (Option TableId)
  | makeCurrent T => some (some T)
  | loseCurrent | endThread => some none
  | _ => none

lemma owns?_of_not_isLast {c : Call φ} (h : c.isLast = false) :
    c.owns? = c.sets?.map TableRef.table? := by
  cases c with
  | endThread => cases h
  | _ => rfl

end Call

section History

variable {β : Type} {calls : List (ThreadId × Call φ)} {t u v : ThreadId}

/-- The last answer that `f` gives on a call of the thread. -/
def latest (f : Call φ → Option β) (calls : List (ThreadId × Call φ)) (t : ThreadId) : Option β :=
  (calls.filterMap fun c => if c.1 = t then f c.2 else none).getLast?

/-- The table that a thread made current last; also the no-op table counts. -/
def lastSet (calls : List (ThreadId × Call φ)) (t : ThreadId) : Option TableRef :=
  latest Call.sets? calls t

/-- The vendor's table that a thread made current itself, and has not given up by making another
one current, or none, or by ending. -/
def ownedTable (calls : List (ThreadId × Call φ)) (t : ThreadId) : Option TableId :=
  (latest Call.owns? calls t).join

/-- A thread has made a call that counts it as using dispatch. -/
def Counted (calls : List (ThreadId × Call φ)) (t : ThreadId) : Prop :=
  ∃ c, (t, c) ∈ calls ∧ c.isCounted = true

/-- A thread has been counted, and no other thread has. -/
def OnlyCounted (calls : List (ThreadId × Call φ)) (t : ThreadId) : Prop :=
  ∀ v, Counted calls v ↔ v = t

lemma latest_concat (f : Call φ → Option β) (calls : List (ThreadId × Call φ)) (t : ThreadId)
    (c : Call φ) :
    latest f (calls ++ [(t, c)]) =
      Function.update (latest f calls) t ((f c).or (latest f calls t)) := by
  funext v
  rw [latest, List.filterMap_append, List.getLast?_append, Function.update_apply]
  by_cases hv : v = t
  · subst hv
    cases h : f c <;> simp [h, latest]
  · simp [hv, Ne.symm hv, latest]

lemma counted_concat (calls : List (ThreadId × Call φ)) (t : ThreadId) (c : Call φ) :
    Counted (calls ++ [(t, c)]) = fun v => Counted calls v ∨ (v = t ∧ c.isCounted = true) := by
  funext v
  simp only [Counted, List.mem_append, List.mem_singleton, Prod.mk.injEq, eq_iff_iff]
  constructor
  · rintro ⟨d, hd | ⟨rfl, rfl⟩, hc⟩
    · exact .inl ⟨d, hd, hc⟩
    · exact .inr ⟨rfl, hc⟩
  · rintro (⟨d, hd, hc⟩ | ⟨rfl, hc⟩)
    · exact ⟨d, .inl hd, hc⟩
    · exact ⟨c, .inr ⟨rfl, rfl⟩, hc⟩

/-- A thread that has not ended owns the table that it set last. -/
lemma ofOwner_ownedTable (h : ∀ c, (t, c) ∈ calls → c.isLast = false) :
    TableRef.ofOwner (ownedTable calls t) = (lastSet calls t).getD .noop := by
  have heq : ∀ c ∈ calls, (if c.1 = t then c.2.owns? else none) =
      (if c.1 = t then c.2.sets? else none).map TableRef.table? := by
    rintro ⟨u, c⟩ hc
    by_cases hu : u = t
    · subst hu
      rw [if_pos rfl, if_pos rfl, Call.owns?_of_not_isLast (h c hc)]
    · rw [if_neg hu, if_neg hu]
      rfl
  have hmap : latest Call.owns? calls t = (lastSet calls t).map TableRef.table? := by
    rw [lastSet, latest, latest, List.filterMap_congr heq, ← List.map_filterMap, List.getLast?_map]
  rw [ownedTable, hmap]
  cases lastSet calls t with
  | none => rfl
  | some table => exact TableRef.ofOwner_table? table

end History

namespace Switchboard

variable {p q : Switchboard φ} {counted : ThreadId → Prop} {last : ThreadId → Option TableRef}
  {owned : ThreadId → Option TableId} {t : ThreadId}

/-! ### The latch -/

/-- The latch, the process-wide pointer and the threads are the same. -/
structure SameLatch (p q : Switchboard φ) : Prop where
  multithreaded : q.multithreaded = p.multithreaded
  claimed : q.claimed = p.claimed
  global : q.global = p.global
  threads : q.threads = p.threads

lemma SameLatch.refl (p : Switchboard φ) : p.SameLatch p := ⟨rfl, rfl, rfl, rfl⟩

lemma SameLatch.trans {v : Switchboard φ} (h : p.SameLatch q) (h' : q.SameLatch v) :
    p.SameLatch v :=
  ⟨h'.multithreaded.trans h.multithreaded, h'.claimed.trans h.claimed, h'.global.trans h.global,
    h'.threads.trans h.threads⟩

lemma sameLatch_fixUp (p : Switchboard φ) (T : TableId) : p.SameLatch (p.fixUp T) := by
  rw [fixUp]
  split <;> exact ⟨rfl, rfl, rfl, rfl⟩

lemma sameLatch_foldl_fixUp (tables : List TableId) (p : Switchboard φ) :
    p.SameLatch (tables.foldl fixUp p) := by
  induction tables generalizing p with
  | nil => exact .refl p
  | cons T rest ih => exact (p.sameLatch_fixUp T).trans (ih _)

lemma sameLatch_assign (p : Switchboard φ) (name : String) : p.SameLatch (p.assign name).2 := by
  rw [assign]
  split
  · exact .refl p
  · dsimp only
    split_ifs
    · have h := sameLatch_foldl_fixUp (φ := φ)
      exact ⟨(h _ _).multithreaded, (h _ _).claimed, (h _ _).global, (h _ _).threads⟩
    · exact ⟨rfl, rfl, rfl, rfl⟩

lemma sameLatch_entryPoint (p : Switchboard φ) (name : String) :
    p.SameLatch (p.entryPoint name).2 := by
  have h := p.sameLatch_assign name
  rw [entryPoint]
  split
  · next heq =>
      rw [heq] at h
      exact h
  · next heq =>
      rw [heq] at h
      split
      · exact h
      · split
        · exact h
        · exact h.trans ⟨rfl, rfl, rfl, rfl⟩

/-- What counting a thread does. -/
lemma run_countThread (p : Switchboard φ) (t : ThreadId) :
    ((Facade.countThread t).run p).2 =
      if p.multithreaded then p
      else
        let q := p.modifyThread t fun s => { s with seen := true }
        if (p.threads t).seen then q
        else if p.claimed then { q with claimed := true, multithreaded := true, global := none }
        else { q with claimed := true } := by
  cases hm : p.multithreaded <;> cases hs : (p.threads t).seen <;> cases hc : p.claimed <;>
    simp [Facade.countThread, Task.perform, Bind.bind, Task.bind, Task.run, Action.perform, hm, hs,
      hc, modifyThread, Pure.pure]

/-- What making a table current does, apart from counting the thread. -/
lemma run_setCurrent (p : Switchboard φ) (t : ThreadId) (table : TableRef) :
    ((Facade.setCurrent t table).run p).2 =
      let q := ((Facade.countThread t).run p).2
      { q.modifyThread t fun s => { s with cell := table } with
        global := if q.multithreaded then none else some table } := by
  have h := Task.run_bind (Facade.countThread t) (fun _ => do
    Task.perform (.storeCell t table)
    let multithreaded : Bool ← Task.perform .loadMultithreaded
    if multithreaded then
      Task.perform (.storeGlobal none)
    else
      Task.perform (.storeGlobal (some table))
      let multithreaded : Bool ← Task.perform .loadMultithreaded
      if multithreaded then
        Task.perform (.storeGlobal none)) p
  refine (congrArg Prod.snd h).trans ?_
  generalize ((Facade.countThread t).run p).2 = q
  cases hm : q.multithreaded <;>
    simp [Task.perform, Bind.bind, Task.bind, Task.run, Action.perform, hm, modifyThread, Pure.pure]

/-! ### The state agrees with the calls -/

/-- How far the latch has come: no thread was counted, or one was and the process-wide pointer
repeats what it set last, or two were and the pointer is null. -/
inductive Latched (counted : ThreadId → Prop) (last : ThreadId → Option TableRef)
    (p : Switchboard φ) : Prop
  /-- No thread was counted. -/
  | unused : (∀ v, ¬ counted v) → p.multithreaded = false → p.claimed = false →
    p.global = none → (∀ v, (p.threads v).seen = false) → Latched counted last p
  /-- One thread was counted. -/
  | single (u : ThreadId) : (∀ v, counted v ↔ v = u) → p.multithreaded = false →
    p.claimed = true → p.global = last u → (∀ v, (p.threads v).seen = true ↔ v = u) →
    Latched counted last p
  /-- Two threads were counted. -/
  | shared (u v : ThreadId) : u ≠ v → counted u → counted v → p.multithreaded = true →
    p.global = none → Latched counted last p

/-- The state of the process agrees with which threads were counted, which table each of them set
last, and which one each of them owns. -/
structure Tells (counted : ThreadId → Prop) (last : ThreadId → Option TableRef)
    (owned : ThreadId → Option TableId) (p : Switchboard φ) : Prop where
  latched : p.Latched counted last
  cell : ∀ v, (p.threads v).cell = (last v).getD .noop
  owner : ∀ v, (p.threads v).owner = owned v
  fresh : ∀ v, ¬ counted v → last v = none

/-- The process-wide pointer is null, or repeats what the only thread that was counted set last. -/
lemma Latched.global_cases (h : p.Latched counted last) :
    p.global = none ∨ ∃ u, (∀ v, counted v ↔ v = u) ∧ p.global = last u := by
  cases h with
  | unused _ _ _ hglobal => exact .inl hglobal
  | single u hu _ _ hglobal => exact .inr ⟨u, hu, hglobal⟩
  | shared _ _ _ _ _ _ hglobal => exact .inl hglobal

/-- The only thread that was counted repeats in the process-wide pointer what it set last. -/
lemma Latched.global_of_only (h : p.Latched counted last) (ht : ∀ v, counted v ↔ v = t) :
    p.global = last t := by
  cases h with
  | unused hnone => exact (hnone t ((ht t).mpr rfl)).elim
  | single u hu _ _ hglobal =>
      obtain rfl : t = u := (hu t).mp ((ht t).mpr rfl)
      exact hglobal
  | shared u v hne hu hv => exact (hne (((ht u).mp hu).trans ((ht v).mp hv).symm)).elim

lemma Latched.congr (h : p.Latched counted last) (same : p.SameLatch q) :
    q.Latched counted last := by
  obtain ⟨hm, hc, hg, ht⟩ := same
  cases h with
  | unused hnone hmulti hclaimed hglobal hseen =>
      exact .unused hnone (hm.trans hmulti) (hc.trans hclaimed) (hg.trans hglobal)
        (by rwa [ht])
  | single u hone hmulti hclaimed hglobal hseen =>
      exact .single u hone (hm.trans hmulti) (hc.trans hclaimed) (hg.trans hglobal) (by rwa [ht])
  | shared u v hne hu hv hmulti hglobal =>
      exact .shared u v hne hu hv (hm.trans hmulti) (hg.trans hglobal)

lemma Tells.congr (h : p.Tells counted last owned) (same : p.SameLatch q) :
    q.Tells counted last owned where
  latched := h.latched.congr same
  cell v := by rw [same.threads, h.cell]
  owner v := by rw [same.threads, h.owner]
  fresh := h.fresh

/-- The thread is counted. -/
lemma Latched.countThread (h : p.Latched counted last) (fresh : ¬ counted t → last t = none) :
    ((Facade.countThread t).run p).2.Latched (fun v => counted v ∨ v = t) last := by
  rw [run_countThread]
  cases h with
  -- the first thread
  | unused hnone hmulti hclaimed hglobal hseen =>
      rw [if_neg (by simp [hmulti]), if_neg (by simp [hseen t]), if_neg (by simp [hclaimed])]
      refine .single t (fun v => by simp [hnone v]) hmulti rfl ?_ fun v => ?_
      · exact hglobal.trans (fresh (hnone t)).symm
      · by_cases hv : v = t
        · simp [threads_modifyThread, hv]
        · simp [threads_modifyThread, hv, hseen v]
  -- the same thread again, or the second one
  | single u hone hmulti hclaimed hglobal hseen =>
      rw [if_neg (by simp [hmulti])]
      by_cases hu : t = u
      · rw [if_pos ((hseen t).mpr hu)]
        refine .single u (fun v => ?_) hmulti hclaimed hglobal fun v => ?_
        · rw [hone v, hu, or_self]
        · by_cases hv : v = t
          · simp [threads_modifyThread, hv, hu]
          · simp [threads_modifyThread, hv, hseen v]
      · rw [if_neg fun hs => hu ((hseen t).mp hs), if_pos hclaimed]
        exact .shared u t (Ne.symm hu) (.inl ((hone u).mpr rfl)) (.inr rfl) rfl rfl
  -- one of many
  | shared u v hne hu hv hmulti hglobal =>
      rw [if_pos hmulti]
      exact .shared u v hne (.inl hu) (.inl hv) hmulti hglobal

/-- Counting a thread changes no cell, and no table is given up for it. -/
lemma threads_countThread (p : Switchboard φ) (t v : ThreadId) :
    (((Facade.countThread t).run p).2.threads v).cell = (p.threads v).cell ∧
      (((Facade.countThread t).run p).2.threads v).owner = (p.threads v).owner := by
  have hseen : ((p.modifyThread t fun s => { s with seen := true }).threads v).cell =
        (p.threads v).cell ∧
      ((p.modifyThread t fun s => { s with seen := true }).threads v).owner =
        (p.threads v).owner := by
    rw [threads_modifyThread]
    split_ifs with hv
    · rw [hv]
      exact ⟨rfl, rfl⟩
    · exact ⟨rfl, rfl⟩
  rw [run_countThread]
  dsimp only
  split_ifs
  · exact ⟨rfl, rfl⟩
  all_goals exact hseen

lemma Tells.countThread (h : p.Tells counted last owned) (t : ThreadId) :
    ((Facade.countThread t).run p).2.Tells (fun v => counted v ∨ v = t) last owned where
  latched := h.latched.countThread (h.fresh t)
  cell v := by rw [(threads_countThread p t v).1, h.cell]
  owner v := by rw [(threads_countThread p t v).2, h.owner]
  fresh v hv := h.fresh v fun hc => hv (.inl hc)

/-- The thread's state changes, but not whether it was counted. -/
lemma Latched.modifyThread (h : p.Latched counted last) {f : ThreadState → ThreadState}
    (hf : ∀ s, (f s).seen = s.seen) (t : ThreadId) :
    (p.modifyThread t f).Latched counted last := by
  have hseen : ∀ v, ((p.modifyThread t f).threads v).seen = (p.threads v).seen := by
    intro v
    rw [threads_modifyThread]
    split_ifs with hv
    · rw [hf, hv]
    · rfl
  cases h with
  | unused hnone hmulti hclaimed hglobal hp =>
      exact .unused hnone hmulti hclaimed hglobal fun v => (hseen v).trans (hp v)
  | single u hone hmulti hclaimed hglobal hp =>
      exact .single u hone hmulti hclaimed hglobal fun v => by rw [hseen, hp]
  | shared u v hne hu hv hmulti hglobal => exact .shared u v hne hu hv hmulti hglobal

/-- A thread that was counted sets a table, and the process-wide pointer follows. -/
lemma Latched.storeGlobal (h : p.Latched counted last) (ht : counted t) (table : TableRef) :
    { p with global := if p.multithreaded then none else some table }.Latched counted
      (Function.update last t (some table)) := by
  cases h with
  | unused hnone => exact (hnone t ht).elim
  | single u hone hmulti hclaimed hglobal hp =>
      obtain rfl : t = u := (hone t).mp ht
      refine .single t hone hmulti hclaimed ?_ hp
      rw [Function.update_self]
      exact if_neg (by simp [hmulti])
  | shared u v hne hu hv hmulti hglobal => exact .shared u v hne hu hv hmulti (if_pos hmulti)

/-- The thread makes a table current. -/
lemma Tells.setCurrent (h : p.Tells counted last owned) (t : ThreadId) (table : TableRef) :
    ((Facade.setCurrent t table).run p).2.Tells (fun v => counted v ∨ v = t)
      (Function.update last t (some table)) owned := by
  have hcount := h.countThread t
  rw [run_setCurrent]
  generalize ((Facade.countThread t).run p).2 = q at hcount
  refine ⟨?latched, fun v => ?cell, fun v => ?owner, fun v hv => ?fresh⟩
  case latched =>
    exact (hcount.latched.storeGlobal (.inr rfl) table).modifyThread
      (f := fun s => { s with cell := table }) (fun _ => rfl) t
  case cell =>
    have hcell := hcount.cell v
    simp only [threads_modifyThread, Function.update_apply]
    split_ifs
    · rfl
    · exact hcell
  case owner =>
    have howner := hcount.owner v
    simp only [threads_modifyThread]
    split_ifs with hv
    · rwa [← hv]
    · exact howner
  case fresh =>
    have hne : v ≠ t := fun he => hv (.inr he)
    rw [Function.update_of_ne hne]
    exact hcount.fresh v hv

/-- The thread owns another table, or none. -/
lemma Tells.replaceOwner (h : p.Tells counted last owned) (t : ThreadId) (table : Option TableId) :
    ((Action.replaceOwner t table).perform p).2.Tells counted last
      (Function.update owned t table) := by
  have hmodify : (p.modifyThread t fun s => { s with owner := table }).Tells counted last
      (Function.update owned t table) := by
    refine ⟨?latched, fun v => ?cell, fun v => ?owner, h.fresh⟩
    case latched =>
      exact h.latched.modifyThread (f := fun s => { s with owner := table }) (fun _ => rfl) t
    case cell =>
      have hcell := h.cell v
      rw [threads_modifyThread]
      split_ifs with hv
      · rwa [← hv]
      · exact hcell
    case owner =>
      rw [threads_modifyThread, Function.update_apply]
      split_ifs
      · rfl
      · exact h.owner v
  cases table with
  | none => exact hmodify
  | some T => exact hmodify.congr ⟨rfl, rfl, rfl, rfl⟩

/-! ### Runs of calls -/

section Calls

variable {α : Type} {c : Call φ} {calls : List (ThreadId × Call φ)}

/-- The thread is counted, and does nothing else that the latch shows. -/
lemma Tells.counting (h : p.Tells counted last owned) {rest : Unit → Task φ α}
    (hrest : ∀ q, (rest ()).Preserves (SameLatch q)) :
    (((Facade.countThread t).bind rest).run p).2.Tells (fun v => counted v ∨ v = t) last owned := by
  rw [Task.run_bind]
  exact (h.countThread t).congr ((hrest _).run (.refl _))

/-- The thread owns another table, or none, and does nothing else that the latch shows. -/
lemma Tells.owning (h : p.Tells counted last owned) (t : ThreadId) (table : Option TableId)
    {rest : Option TableId → Task φ α} (hrest : ∀ old q, (rest old).Preserves (SameLatch q)) :
    ((Task.act (.replaceOwner t table) rest).run p).2.Tells counted last
      (Function.update owned t table) :=
  (h.replaceOwner t table).congr ((hrest _ _).run (.refl _))

/-- The thread makes a table current, then owns another table, or none, and does nothing else that
the latch shows. -/
lemma Tells.setting (h : p.Tells counted last owned) (t : ThreadId) (table : TableRef)
    (owner : Option TableId) {rest : Option TableId → Task φ α}
    (hrest : ∀ old q, (rest old).Preserves (SameLatch q)) :
    (((Facade.setCurrent t table).bind fun _ => .act (.replaceOwner t owner) rest).run p).2.Tells
      (fun v => counted v ∨ v = t) (Function.update last t (some table))
      (Function.update owned t owner) := by
  rw [Task.run_bind]
  exact (h.setCurrent t table).owning t owner hrest

/-- Releasing a table does nothing that the latch shows. -/
lemma preserves_release (q : Switchboard φ) (old : Option TableId) :
    Task.Preserves (SameLatch q) (do
      if let some old := old then
        Task.perform (.releaseOwner old)) := by
  cases old with
  | none => trivial
  | some T => exact ⟨fun _ hu => hu.trans ⟨rfl, rfl, rfl, rfl⟩, fun _ => trivial⟩

/-- Releasing a table and ending its use does nothing that the latch shows. -/
lemma preserves_endUse (q : Switchboard φ) (T : TableId) (old : Option TableId) :
    Task.Preserves (SameLatch q) (do
      if let some old := old then
        Task.perform (.releaseOwner old)
      Task.perform (.endUse T)) := by
  have ends : (Task.perform (.endUse T)).Preserves (SameLatch q) :=
    ⟨fun _ hu => hu.trans ⟨rfl, rfl, rfl, rfl⟩, fun _ => trivial⟩
  cases old with
  | none => exact ends
  | some T => exact ⟨fun _ hu => hu.trans ⟨rfl, rfl, rfl, rfl⟩, fun _ => ends⟩

/-- The state of the process agrees with the calls that were made. -/
def TellsOf (p : Switchboard φ) (calls : List (ThreadId × Call φ)) : Prop :=
  p.Tells (Counted calls) (lastSet calls) (ownedTable calls)

lemma tellsOf_concat :
    q.TellsOf (calls ++ [(t, c)]) ↔
      q.Tells (fun v => Counted calls v ∨ (v = t ∧ c.isCounted = true))
        (Function.update (lastSet calls) t (c.sets?.or (lastSet calls t)))
        (Function.update (ownedTable calls) t (c.owns?.getD (ownedTable calls t))) := by
  have hlast : lastSet (calls ++ [(t, c)]) =
      Function.update (lastSet calls) t (c.sets?.or (lastSet calls t)) :=
    latest_concat Call.sets? calls t c
  have howned : ownedTable (calls ++ [(t, c)]) =
      Function.update (ownedTable calls) t (c.owns?.getD (ownedTable calls t)) := by
    funext v
    rw [ownedTable, latest_concat, Function.update_apply, Function.update_apply]
    cases c.owns? <;> split_ifs <;> simp_all [ownedTable]
  rw [TellsOf, counted_concat, hlast, howned]

/-- Every call keeps the agreement. -/
lemma TellsOf.call (h : p.TellsOf calls) (t : ThreadId) (c : Call φ) :
    (p.call t c).2.TellsOf (calls ++ [(t, c)]) := by
  -- What a call that touches no more than tables does to the latch.
  have still : ∀ {q : Switchboard φ}, p.SameLatch q → c.isCounted = false → c.sets? = none →
      c.owns? = none → q.TellsOf (calls ++ [(t, c)]) := by
    intro q same hc hs ho
    simpa [tellsOf_concat, hc, hs, ho] using Tells.congr h same
  have counts : ∀ {q : Switchboard φ},
      q.Tells (fun v => Counted calls v ∨ v = t) (lastSet calls) (ownedTable calls) →
      c.isCounted = true → c.sets? = none → c.owns? = none → q.TellsOf (calls ++ [(t, c)]) := by
    intro q hq hc hs ho
    simpa [tellsOf_concat, hc, hs, ho] using hq
  cases c with
  | slot name =>
      refine counts (Tells.counting h fun q => ?_) rfl rfl rfl
      exact ⟨fun u hu => hu.trans (u.sameLatch_assign name), fun _ => trivial⟩
  | procAddress name =>
      refine counts (Tells.counting h fun q => ?_) rfl rfl rfl
      exact ⟨fun u hu => hu.trans (u.sameLatch_entryPoint name), fun _ => trivial⟩
  | getCurrent =>
      refine counts (Tells.counting h fun q => ⟨fun _ hu => hu, fun (table : TableRef) => ?_⟩)
        rfl rfl rfl
      cases table <;> trivial
  | lookup s =>
      refine counts (Tells.counting h fun q => ?_) rfl rfl rfl
      split_ifs
      · trivial
      · exact ⟨fun _ hu => hu, fun _ => ⟨fun _ hu => hu, fun _ => trivial⟩⟩
  | createTable provide => exact still ⟨rfl, rfl, rfl, rfl⟩ rfl rfl rfl
  | copyHandle T => exact still ⟨rfl, rfl, rfl, rfl⟩ rfl rfl rfl
  | dropHandle T => exact still ⟨rfl, rfl, rfl, rfl⟩ rfl rfl rfl
  | makeCurrent T =>
      have ready : (p.modifyTable T fun r => { r with users := r.users + 1 }).Tells
          (Counted calls) (lastSet calls) (ownedTable calls) := Tells.congr h ⟨rfl, rfl, rfl, rfl⟩
      have hset : (p.call t (.makeCurrent T)).2.Tells _ _ _ :=
        (ready.congr (sameLatch_fixUp _ T)).setting t (.vendor T) (some T) fun old q =>
          preserves_endUse q T old
      rw [tellsOf_concat]
      simpa [Call.isCounted, Call.sets?, Call.owns?] using hset
  | loseCurrent =>
      have hset : (p.call t .loseCurrent).2.Tells _ _ _ :=
        Tells.setting h t .noop none fun old q => preserves_release q old
      rw [tellsOf_concat]
      simpa [Call.isCounted, Call.sets?, Call.owns?] using hset
  | endThread =>
      have hset : (p.call t .endThread).2.Tells _ _ _ :=
        Tells.owning h t none fun old q => preserves_release q old
      rw [tellsOf_concat]
      simpa [Call.isCounted, Call.sets?, Call.owns?] using hset

/-- After any calls from the start on, the state of the process agrees with them. -/
lemma tellsOf_run {registry : SlotRegistry} {region : Option StubRegion}
    (started : start registry region = .ok p) (calls : List (ThreadId × Call φ)) :
    (p.run calls).TellsOf calls := by
  obtain ⟨region, rfl⟩ := eq_of_start started
  induction calls using List.reverseRecOn with
  | nil =>
      have nobody : ∀ v, ¬ Counted ([] : List (ThreadId × Call φ)) v := by
        rintro v ⟨c, hc, -⟩
        cases hc
      exact ⟨.unused nobody rfl rfl rfl fun _ => rfl, fun _ => rfl, fun _ => rfl, fun _ _ => rfl⟩
  | append_singleton calls last ih =>
      rw [run_append]
      exact ih.call last.1 last.2

end Calls

end Switchboard

/-! ### What stubs reach -/

/-- A thread that has not ended finds in its cell the table that it made current and still owns, or
the no-op table, and a thread-local stub reaches that table. A thread-specific stub reaches another
one exactly if one other thread, and nobody else, was counted, and that thread set a vendor's table
last. It then reaches that table, also after the other thread has ended, where the thread itself
has the no-op table. -/
theorem stub_reaches_own_table_iff {registry : SlotRegistry} {region : Option StubRegion}
    {p : Switchboard φ} (started : Switchboard.start registry region = .ok p)
    {calls : List (ThreadId × Call φ)} {t : ThreadId}
    (running : ∀ c, (t, c) ∈ calls → c.isLast = false) :
    ((p.run calls).threads t).owner = ownedTable calls t ∧
    ((p.run calls).threads t).cell = .ofOwner (ownedTable calls t) ∧
    (p.run calls).stubTable .threadLocal t = ((p.run calls).threads t).cell ∧
    ((p.run calls).stubTable .threadSpecific t ≠ ((p.run calls).threads t).cell ↔
      ∃ u T, u ≠ t ∧ OnlyCounted calls u ∧ lastSet calls u = some (.vendor T)) ∧
    ∀ u T, u ≠ t → OnlyCounted calls u → lastSet calls u = some (.vendor T) →
      (p.run calls).stubTable .threadSpecific t = .vendor T ∧
        ((p.run calls).threads t).cell = .noop := by
  have tells : (p.run calls).TellsOf calls := Switchboard.tellsOf_run started calls
  generalize p.run calls = q at tells ⊢
  -- A thread that was not counted has set no table.
  have idle : ∀ u, u ≠ t → OnlyCounted calls u → (q.threads t).cell = .noop := by
    intro u hu honly
    have hfresh : lastSet calls t = none := tells.fresh t fun h => hu ((honly t).mp h).symm
    rw [tells.cell, hfresh, Option.getD_none]
  have other : ∀ u T, u ≠ t → OnlyCounted calls u → lastSet calls u = some (.vendor T) →
      q.stubTable .threadSpecific t = .vendor T ∧ (q.threads t).cell = .noop := by
    intro u T hu honly hlast
    refine ⟨?_, idle u hu honly⟩
    rw [Switchboard.stubTable, tells.latched.global_of_only honly, hlast, Option.getD_some]
  refine ⟨tells.owner t, ?_, rfl, ⟨fun hne => ?_, ?_⟩, other⟩
  · rw [tells.cell, ofOwner_ownedTable running]
  · rw [Switchboard.stubTable] at hne
    rcases tells.latched.global_cases with hglobal | ⟨u, honly, hglobal⟩
    · rw [hglobal] at hne
      exact (hne rfl).elim
    · rw [hglobal] at hne
      rcases eq_or_ne u t with rfl | hu
      · rw [tells.cell] at hne
        cases hlast : lastSet calls u <;> simp [hlast] at hne
      · rw [idle u hu honly] at hne
        match hlast : lastSet calls u with
        | none => simp [hlast] at hne
        | some .noop => simp [hlast] at hne
        | some (.vendor T) => exact ⟨u, T, hu, honly, hlast⟩
  · rintro ⟨u, T, hu, honly, hlast⟩ heq
    obtain ⟨hstub, hcell⟩ := other u T hu honly hlast
    rw [heq, hcell] at hstub
    cases hstub

/-! ### A thread that only calls a stub -/

/-- A region for stubs that read the process-wide pointer. -/
def pointerRegion : StubRegion where
  arch := .x86_64
  model := .threadSpecific
  params := {}
  memory := { executable := 0x100000, writable := 0x100000, size := 0x100000 }

/-- A process with such stubs, in which the name of one entry point is known from the start. -/
def pointerStart : Except Error (Switchboard Nat) :=
  Switchboard.start (.ofKnown maxSlots ["glClear"]) (some pointerRegion)

/-- The state that the process starts in. -/
def pointerBoard : Switchboard Nat :=
  pointerStart.toOption.getD { registry := .ofKnown maxSlots [], region := none }

lemma pointerStart_eq : pointerStart = .ok pointerBoard := by
  have started : pointerStart.toOption.isSome = true := by decide +kernel
  rw [pointerBoard]
  cases hstart : pointerStart with
  | error e =>
      rw [hstart] at started
      cases started
  | ok p => rfl

/-- A thread asks for a stub, and makes a table current. No other thread makes a call. -/
def pointerCalls : List (ThreadId × Call Nat) :=
  [(⟨0⟩, .procAddress "glClear"), (⟨0⟩, .createTable fun n _ => some n), (⟨0⟩, .makeCurrent ⟨0⟩)]

/-- A thread that makes no call of its own and only calls a stub, whose address another thread
asked for, reaches the table of that thread. -/
theorem idle_thread_reaches_other_table :
    pointerStart = .ok pointerBoard ∧ pointerBoard.AdmitsAll pointerCalls ∧
      (∀ c, (⟨1⟩, c) ∉ pointerCalls) ∧
      (pointerBoard.call ⟨0⟩ (.procAddress "glClear")).1 = some 0x100000 ∧
      ((pointerBoard.run pointerCalls).threads ⟨1⟩).cell = .noop ∧
      ((pointerBoard.run pointerCalls).threads ⟨1⟩).owner = none ∧
      (pointerBoard.run pointerCalls).stubTable .threadSpecific ⟨1⟩ = .vendor ⟨0⟩ ∧
      (pointerBoard.run pointerCalls).stubTarget ⟨1⟩ 0x100000 = some (.function 0) := by
  have handle : ((pointerBoard.call ⟨0⟩ (.procAddress "glClear")).2.call ⟨0⟩
      (.createTable fun n _ => some n)).2.handlesOn ⟨0⟩ = 1 := by decide +kernel
  have admits : pointerBoard.AdmitsAll pointerCalls := by
    refine .cons trivial (fun h => by cases h) (.cons trivial (fun h => by cases h)
      (.cons ?_ (fun h => by cases h) (.nil _)))
    rw [Switchboard.Admits, handle]
    exact Nat.one_pos
  have address : (show Option Nat from (pointerBoard.call ⟨0⟩ (.procAddress "glClear")).1) =
      some 0x100000 := by decide +kernel
  exact ⟨pointerStart_eq, admits, fun c hc => by simp [pointerCalls] at hc, address,
    by decide +kernel, by decide +kernel, by decide +kernel, by decide +kernel⟩

/-- The thread reaches another table because the other thread alone was counted. -/
theorem stub_reaches_own_table_iff_idle :
    pointerStart = .ok pointerBoard ∧ (∀ c, (⟨1⟩, c) ∈ pointerCalls → c.isLast = false) ∧
      (pointerBoard.run pointerCalls).stubTable .threadSpecific ⟨1⟩ ≠
        ((pointerBoard.run pointerCalls).threads ⟨1⟩).cell := by
  have running : ∀ c, (⟨1⟩, c) ∈ pointerCalls → c.isLast = false := by
    intro c hc
    simp [pointerCalls] at hc
  have only : OnlyCounted pointerCalls ⟨0⟩ := by
    intro v
    refine ⟨?_, ?_⟩
    · rintro ⟨c, hc, -⟩
      simp only [pointerCalls, List.mem_cons, Prod.mk.injEq, List.not_mem_nil, or_false] at hc
      rcases hc with ⟨rfl, -⟩ | ⟨rfl, -⟩ | ⟨rfl, -⟩ <;> rfl
    · rintro rfl
      exact ⟨_, List.mem_cons_self, rfl⟩
  have last : lastSet pointerCalls ⟨0⟩ = some (.vendor ⟨0⟩) := by decide +kernel
  obtain ⟨-, -, -, hiff, -⟩ := stub_reaches_own_table_iff pointerStart_eq running
  exact ⟨pointerStart_eq, running, hiff.mpr ⟨⟨0⟩, ⟨0⟩, by decide, only, last⟩⟩

end VendorDispatch
