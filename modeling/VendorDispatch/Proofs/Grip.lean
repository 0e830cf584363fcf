import VendorDispatch.Proofs.Tracking

/-!
What a thread holds on to in the course of a call, and why the table that it reaches stays alive and
up to date meanwhile.

* `Grip`: what a thread holds on to, as its own actions tell (`Grip.after`), whatever other threads
  do in between. `Grip.Covered`: the current table is one that the thread keeps alive, and in which
  all names have been looked up.
* `Task.Safe`: a task each of whose actions the thread may perform, and which leaves the current
  table covered. `safe_task`: every call of the facade is safe.
* `Sound.moves_perform`, `Sound.upToDate_perform`: what an action does to tables, and that those
  that a thread keeps alive stay up to date.
-/

namespace VendorDispatch

variable {φ α β : Type} {p q : Switchboard φ} {t : ThreadId} {T : TableId}

/-! ### What a thread holds on to -/

/-- What a thread holds on to. -/
structure Grip where
  /-- The thread's current table. -/
  cell : TableRef := .noop
  /-- The table that the thread keeps alive because it is current. -/
  owner : Option TableId := none
  /-- The table that the call under way uses. -/
  use : Option TableId := none
  /-- Whether the call has looked up all names in the table that it uses. -/
  ready : Bool := false
  /-- The table that was kept alive before, and is not released yet. -/
  release : Option TableId := none
  /-- The table on which the caller of the call that begins has a handle. -/
  handle : Option TableId := none
  /-- Whether the thread makes no more calls. -/
  last : Bool := false

namespace Grip

variable {h k : Grip}

/-- The thread keeps a table alive, and has looked up all names in it. -/
def Keeps (h : Grip) (T : TableId) : Prop := h.owner = some T ∨ h.use = some T ∧ h.ready = true

/-- A thread that may still read its current table keeps it alive. -/
def Covered (h : Grip) : Prop := h.last = false → ∀ T, h.cell = .vendor T → h.Keeps T

/-- Between calls a thread keeps its current table alive and nothing else. -/
structure Idle (h : Grip) : Prop where
  use : h.use = none
  release : h.release = none
  covered : h.Covered
  owned : h.last = false → ∀ T, h.owner = some T → h.cell = .vendor T

/-- How many users of a table the thread is. -/
def uses (h : Grip) (T : TableId) : Nat := if h.use = some T then 1 else 0

/-- How many owners of a table the thread is. -/
def owns (h : Grip) (T : TableId) : Nat :=
  (if h.owner = some T then 1 else 0) + if h.release = some T then 1 else 0

/-- An action that a thread may perform: it writes its own state only, reads the table that its cell
names, and touches the holders of tables only where it is one of them or becomes one. -/
def Allows (t : ThreadId) (h : Grip) : Action φ → Prop
  | .swapSeen u | .storeCell u _ | .loadCell u => u = t
  | .loadEntry table _ => table = h.cell
  | .takeHandle T | .dropHandle T => h.handle = some T
  | .beginUse T => h.handle = some T ∧ h.use = none
  | .endUse T => h.use = some T
  | .replaceOwner u new =>
    u = t ∧ h.release = none ∧ ∀ T, new = some T → h.use = some T ∧ h.ready = true
  | .releaseOwner T => h.release = some T
  | _ => True

/-- What a thread holds on to after an action. What its caller has a handle on counts at the first
action only: another thread may drop the handle afterwards. -/
def after (h : Grip) : Action φ → Grip
  | .storeCell _ table => { h with handle := none, cell := table }
  | .fixUp T => { h with handle := none, ready := h.ready || decide (h.use = some T) }
  | .beginUse T => { h with handle := none, use := some T, ready := false }
  | .endUse _ => { h with handle := none, use := none }
  | .replaceOwner _ new => { h with handle := none, owner := new, release := h.owner }
  | .releaseOwner _ => { h with handle := none, release := none }
  | _ => { h with handle := none }

/-- An answer that the thread can foresee. -/
def Foresees (h : Grip) : (a : Action φ) → a.Answer → Prop
  | .loadCell _, table => table = h.cell
  | .replaceOwner _ _, old => old = h.owner
  | _, _ => True

/-- What a thread holds on to once its caller's handle no longer counts. -/
def settled (h : Grip) : Grip := { h with handle := none }

/-- What a thread holds on to when a call begins. -/
def begun (h : Grip) : Call φ → Grip
  | .makeCurrent T | .copyHandle T | .dropHandle T => { h with handle := some T }
  | .endThread => { h with last := true }
  | _ => h

lemma handle_after (h : Grip) (a : Action φ) : (h.after a).handle = none := by
  cases a <;> rfl

lemma last_after (h : Grip) (a : Action φ) : (h.after a).last = h.last := by
  cases a <;> rfl

/-- A call that begins counts on handles that its caller has. -/
lemma handlesOn_of_begun {call : Call φ} (settled : h.handle = none) (admits : p.Admits call)
    (hT : (h.begun call).handle = some T) : 0 < p.handlesOn T := by
  cases call with
  | makeCurrent S | copyHandle S | dropHandle S =>
      cases hT
      exact admits
  | _ => cases settled.symm.trans hT

lemma begun_eq (h : Grip) (call : Call φ) :
    ∃ handle, h.begun call = { h with handle, last := h.last || call.isLast } := by
  cases call with
  | endThread => exact ⟨h.handle, by simp [begun, Call.isLast]⟩
  | makeCurrent T | copyHandle T | dropHandle T =>
      exact ⟨some T, by simp [begun, Call.isLast]⟩
  | _ => exact ⟨h.handle, by simp [begun, Call.isLast]⟩

/-- Whatever a thread keeps after an action it kept before, or the action looked up all names in a
table that the thread uses. -/
lemma keeps_of_after {a : Action φ} (allowed : h.Allows t a) (hk : (h.after a).Keeps T) :
    h.Keeps T ∨ a = .fixUp T ∧ h.use = some T := by
  cases a with
  -- to look up all names is what makes a table ready
  | fixUp S =>
      rcases hk with hk | ⟨huse, hready⟩
      · exact .inl (.inl hk)
      · rcases Bool.or_eq_true _ _ ▸ hready with hready | hS
        · exact .inl (.inr ⟨huse, hready⟩)
        · have heq : h.use = some S := of_decide_eq_true hS
          cases heq.symm.trans huse
          exact .inr ⟨rfl, heq⟩
  | beginUse S =>
      rcases hk with hk | ⟨-, hready⟩
      · exact .inl (.inl hk)
      · cases hready
  | endUse S =>
      rcases hk with hk | ⟨huse, -⟩
      · exact .inl (.inl hk)
      · cases huse
  -- a thread owns only what it used before
  | replaceOwner v new =>
      rcases hk with hk | hk
      · exact .inl (.inr (allowed.2.2 T hk))
      · exact .inl (.inr hk)
  | _ => exact .inl hk

end Grip

/-! ### Safe tasks -/

/-- The thread may perform every action of the task, and its current table stays covered; `post`
holds of what the task returns and of what the thread holds on to then. -/
def Task.Safe (t : ThreadId) (post : α → Grip → Prop) : Task φ α → Grip → Prop
  | .done a, h => post a h
  | .act action next, h =>
    h.Allows t action ∧ (h.after action).Covered ∧
      ∀ answer, h.Foresees action answer → (next answer).Safe t post (h.after action)

namespace Task

variable {post : β → Grip → Prop} {mid : α → Grip → Prop} {h : Grip}

lemma Safe.bind {task : Task φ α} {f : α → Task φ β} (first : task.Safe t mid h)
    (rest : ∀ a k, mid a k → (f a).Safe t post k) : (task.bind f).Safe t post h := by
  induction task generalizing h with
  | done a => exact rest a h first
  | act action next ih =>
      exact ⟨first.1, first.2.1, fun answer hanswer => ih answer (first.2.2 answer hanswer)⟩

lemma safe_act {action : Action φ} {f : action.Answer → Task φ β} (allowed : h.Allows t action)
    (covered : (h.after action).Covered)
    (rest : ∀ answer, h.Foresees action answer → (f answer).Safe t post (h.after action)) :
    (perform action >>= f).Safe t post h :=
  ⟨allowed, covered, rest⟩

lemma safe_perform {action : Action φ} {post : action.Answer → Grip → Prop}
    (allowed : h.Allows t action) (covered : (h.after action).Covered)
    (rest : ∀ answer, h.Foresees action answer → post answer (h.after action)) :
    (perform action).Safe t post h :=
  ⟨allowed, covered, rest⟩

/-- Counting a thread changes nothing that it holds on to. -/
lemma safe_countThread (covered : h.Covered) :
    (Facade.countThread t : Task φ Unit).Safe t (fun _ k => k = h.settled) h := by
  refine safe_act trivial covered fun (multithreaded : Bool) _ => ?_
  cases multithreaded with
  | true => exact rfl
  | false =>
      change Safe t _ _ h.settled
      refine safe_act rfl covered fun (seen : Bool) _ => ?_
      cases seen with
      | true => exact rfl
      | false =>
          change Safe t _ _ h.settled
          refine safe_act trivial covered fun (claimed : Bool) _ => ?_
          cases claimed with
          | false => exact rfl
          | true =>
              change Safe t _ _ h.settled
              refine safe_act trivial covered fun (already : Bool) _ => ?_
              change Safe t _ _ h.settled
              cases already with
              | false => exact safe_perform trivial covered fun _ _ => rfl
              | true => exact rfl

/-- A thread may make a table current that it keeps. -/
lemma safe_setCurrent {table : TableRef} (covered : h.Covered)
    (keeps : ∀ T, table = .vendor T → h.Keeps T) :
    (Facade.setCurrent t table : Task φ Unit).Safe t
      (fun _ k => k = { h.settled with cell := table }) h := by
  have covered' : Grip.Covered { h.settled with cell := table } := fun _ => keeps
  refine (safe_countThread covered).bind fun _ k hk => ?_
  subst hk
  refine safe_act rfl covered' fun _ _ => ?_
  refine safe_act trivial covered' fun (multithreaded : Bool) _ => ?_
  cases multithreaded with
  | true => exact safe_perform trivial covered' fun _ _ => rfl
  | false =>
      refine safe_act trivial covered' fun _ _ => ?_
      refine safe_act trivial covered' fun (multithreaded : Bool) _ => ?_
      cases multithreaded with
      | true => exact safe_perform trivial covered' fun _ _ => rfl
      | false => exact rfl

/-- A thread keeps the new table alive before it releases the one that was current before. -/
lemma safe_makeCurrent (idle : h.Idle) (running : h.last = false) :
    (Facade.makeCurrent t T : Task φ Unit).Safe t (fun _ k => k.Idle)
      { h with handle := some T } := by
  obtain ⟨cell, owner, use, ready, release, handle, last⟩ := h
  obtain ⟨rfl, rfl, covered, -⟩ := idle
  have kept : ∀ S, cell = .vendor S → owner = some S := fun S hS =>
    (covered running S hS).resolve_right fun hk => by cases hk.1
  have before : ∀ ready, Grip.Covered ⟨cell, owner, some T, ready, none, none, last⟩ :=
    fun _ _ S hS => .inl (kept S hS)
  have owned : ∀ use release, Grip.Covered ⟨.vendor T, some T, use, true, release, none, last⟩ :=
    fun _ _ _ S hS => .inl (by cases hS; rfl)
  have same : last = false → ∀ S, some T = some S → TableRef.vendor T = .vendor S :=
    fun _ S hS => by cases hS; rfl
  -- From the fix-up on the new table may become current; the call keeps it alive itself.
  have fixed : Grip.after ⟨cell, owner, some T, false, none, none, last⟩ (.fixUp T : Action φ) =
      ⟨cell, owner, some T, true, none, none, last⟩ := by
    simp [Grip.after]
  refine safe_act ⟨rfl, rfl⟩ (before false) fun _ _ => ?_
  refine safe_act trivial (fixed ▸ before true) fun _ _ => ?_
  change Safe t _ _
    (Grip.after ⟨cell, owner, some T, false, none, none, last⟩ (.fixUp T : Action φ))
  rw [fixed]
  refine Safe.bind (safe_setCurrent (before true) ?_) fun _ k hk => ?_
  · rintro S ⟨rfl⟩
    exact .inr ⟨rfl, rfl⟩
  subst hk
  refine safe_act ⟨rfl, rfl, ?_⟩ (owned _ _) fun (previous : Option TableId) hprevious => ?_
  · rintro S ⟨rfl⟩
    exact ⟨rfl, rfl⟩
  cases previous with
  | none =>
      exact safe_perform rfl (owned _ _) fun _ _ => ⟨rfl, hprevious.symm, owned _ _, same⟩
  | some old =>
      refine safe_act hprevious.symm (owned _ _) fun _ _ => ?_
      exact safe_perform rfl (owned _ _) fun _ _ => ⟨rfl, rfl, owned _ _, same⟩

/-- A thread that has no vendor's table current, or makes no more calls, may stop to keep one
alive. -/
lemma safe_release {f : Option TableId → Task φ Unit}
    (hnone : f none = .done ()) (hsome : ∀ old, f (some old) = perform (.releaseOwner old))
    (use : h.use = none) (release : h.release = none) (unread : h.last = false → h.cell = .noop) :
    (perform (.replaceOwner t none) >>= f).Safe t (fun _ k => k.Idle) h := by
  obtain ⟨cell, owner, _, ready, _, handle, last⟩ := h
  cases use
  cases release
  have covered : ∀ release, Grip.Covered ⟨cell, none, none, ready, release, none, last⟩ :=
    fun _ running S hS => absurd ((unread running).symm.trans hS) TableRef.noConfusion
  refine safe_act ⟨rfl, rfl, fun S hS => by cases hS⟩ (covered owner)
    fun (previous : Option TableId) hprevious => ?_
  cases previous with
  | none =>
      rw [hnone]
      exact ⟨rfl, hprevious.symm, covered _, fun _ => nofun⟩
  | some old =>
      rw [hsome]
      exact safe_perform hprevious.symm (covered none) fun _ _ => ⟨rfl, rfl, covered _, fun _ => nofun⟩

/-- Every call of the facade is safe, and leaves the thread as calls find it. -/
theorem safe_task (call : Call φ) (idle : h.Idle) (running : h.last = false) :
    (call.task t).Safe t (fun _ k => k.Idle) (h.begun call) := by
  have counted : Grip.Idle h.settled := ⟨idle.use, idle.release, idle.covered, idle.owned⟩
  cases call with
  | slot name =>
      refine Safe.bind (safe_countThread idle.covered) fun _ k hk => ?_
      subst hk
      exact safe_perform trivial idle.covered fun _ _ => counted
  | procAddress name =>
      refine Safe.bind (safe_countThread idle.covered) fun _ k hk => ?_
      subst hk
      exact safe_perform trivial idle.covered fun _ _ => counted
  -- these leave the thread uncounted
  | createTable provide => exact safe_perform trivial idle.covered fun _ _ => counted
  | copyHandle S => exact safe_perform rfl idle.covered fun _ _ => counted
  | dropHandle S => exact safe_perform rfl idle.covered fun _ _ => counted
  | makeCurrent S => exact safe_makeCurrent idle running
  | loseCurrent =>
      refine Safe.bind (safe_setCurrent idle.covered fun S hS => by cases hS) fun _ k hk => ?_
      subst hk
      exact safe_release rfl (fun _ => rfl) idle.use idle.release fun _ => rfl
  -- these look at the table of the thread
  | getCurrent =>
      refine Safe.bind (safe_countThread idle.covered) fun _ k hk => ?_
      subst hk
      refine safe_act rfl idle.covered fun (table : TableRef) _ => ?_
      cases table with
      | noop => exact counted
      | vendor S => exact counted
  | lookup s =>
      refine Safe.bind (safe_countThread idle.covered) fun _ k hk => ?_
      subst hk
      split
      · exact counted
      · refine safe_act rfl idle.covered fun (table : TableRef) htable => ?_
        exact safe_perform htable idle.covered fun _ _ => counted
  | endThread =>
      exact safe_release rfl (fun _ => rfl) idle.use idle.release fun hlast => by cases hlast

end Task

/-! ### What actions do to tables -/

namespace Switchboard

variable {h k : Grip} {a : Action φ}

/-- What a thread holds on to is counted. -/
structure Backs (p : Switchboard φ) (h : Grip) : Prop where
  handle : ∀ T, h.handle = some T → 0 < p.handlesOn T
  uses : ∀ T, h.uses T ≤ p.usersOf T
  owns : ∀ T, h.owns T ≤ p.ownersOf T

/-- Tables advance, and the counts of holders change at least by what the thread takes and at most
by what it gives up. -/
structure Moves (p q : Switchboard φ) (h k : Grip) : Prop where
  advances : p.Advances q
  users : ∀ T, p.usersOf T + k.uses T ≤ q.usersOf T + h.uses T
  owners : ∀ T, p.ownersOf T + k.owns T ≤ q.ownersOf T + h.owns T

lemma Moves.of_sameHolders (advances : p.Advances q) (same : p.SameHolders q)
    (huse : k.use = h.use) (howner : k.owner = h.owner) (hrelease : k.release = h.release) :
    p.Moves q h k where
  advances := advances
  users T := Nat.le_of_eq (by rw [same.users, Grip.uses, Grip.uses, huse])
  owners T := Nat.le_of_eq (by rw [same.owners, Grip.owns, Grip.owns, howner, hrelease])

lemma Moves.sameTables {v : Switchboard φ} (moves : p.Moves q h k) (same : q.SameTables v) :
    p.Moves v h k where
  advances := moves.advances.of_sameTables same
  users T := by
    rw [same.sameHolders.users]
    exact moves.users T
  owners T := by
    rw [same.sameHolders.owners]
    exact moves.owners T

/-- The holders of one table change. -/
lemma Sound.moves_modifyTable (hp : p.Sound) {f : TableRecord φ → TableRecord φ}
    (counted : 0 < p.handlesOn T + p.usersOf T + p.ownersOf T)
    (htable : ∀ r, (f r).table = r.table)
    (husers : ∀ r, r.users = p.usersOf T → r.users + k.uses T ≤ (f r).users + h.uses T)
    (howners : ∀ r, r.owners = p.ownersOf T → r.owners + k.owns T ≤ (f r).owners + h.owns T)
    (hother : ∀ S, S ≠ T → k.uses S ≤ h.uses S ∧ k.owns S ≤ h.owns S) :
    p.Moves (p.modifyTable T f) h k := by
  obtain ⟨r, hr, halive⟩ := exists_of_counted counted
  have hrusers : r.users = p.usersOf T := (tally_of_eq_some hr).symm
  have hrowners : r.owners = p.ownersOf T := (tally_of_eq_some hr).symm
  refine ⟨hp.advances_modifyTable htable fun v hv _ => ?_, fun S => ?_, fun S => ?_⟩
  · cases hr.symm.trans hv
    exact halive
  · -- the users
    have hchanged : (p.modifyTable T f).usersOf S = if S = T then (f r).users else p.usersOf S :=
      tally_modifyTable hr f S
    rw [hchanged]
    split_ifs with hS
    · rw [hS, ← hrusers]
      exact husers r hrusers
    · exact Nat.add_le_add_left (hother S hS).1 _
  · -- the owners
    have hchanged : (p.modifyTable T f).ownersOf S = if S = T then (f r).owners else p.ownersOf S :=
      tally_modifyTable hr f S
    rw [hchanged]
    split_ifs with hS
    · rw [hS, ← hrowners]
      exact howners r hrowners
    · exact Nat.add_le_add_left (hother S hS).2 _

/-- The number of handles on a table changes. -/
lemma Sound.moves_handles (hp : p.Sound) (hb : p.Backs h) (held : h.handle = some T)
    (f : Nat → Nat) :
    p.Moves (p.modifyTable T fun r => { r with handles := f r.handles }) h h.settled := by
  have counted := hb.handle T held
  exact hp.moves_modifyTable (by omega) (fun _ => rfl) (fun _ _ => Nat.le_refl _)
    (fun _ _ => Nat.le_refl _) fun _ _ => ⟨Nat.le_refl _, Nat.le_refl _⟩

/-- A thread becomes the owner of a table that it uses, and does not give up the one before. -/
lemma Sound.moves_replaceOwner (hp : p.Sound) (hb : p.Backs h) {new : Option TableId}
    (allowed : h.Allows t (.replaceOwner t new : Action φ)) :
    p.Moves ((Action.replaceOwner t new).perform p).2 h
      (h.after (.replaceOwner t new : Action φ)) := by
  obtain ⟨-, hrelease, hnew⟩ := allowed
  have howns : ∀ U, (h.after (.replaceOwner t new : Action φ)).owns U =
      (if new = some U then 1 else 0) + h.owns U := by
    intro U
    rw [Grip.owns, Grip.owns, hrelease]
    rfl
  cases new with
  | none =>
      refine Moves.sameTables (q := p) ⟨hp.advances_self, fun _ => Nat.le_refl _, fun U => ?_⟩
        ⟨rfl, rfl, rfl, rfl⟩
      exact Nat.le_of_eq (by rw [howns, if_neg (by simp), Nat.zero_add])
  | some S =>
      -- the thread still uses the table, so the table is alive and can be owned
      have hused : h.uses S = 1 := if_pos (hnew S rfl).1
      have hcount := hb.uses S
      refine Moves.sameTables
        (q := p.modifyTable S fun r => { r with owners := r.owners + 1 }) ?_
        ⟨rfl, rfl, rfl, rfl⟩
      refine hp.moves_modifyTable (by omega) (fun _ => rfl) (fun _ _ => Nat.le_refl _)
        (fun r _ => ?_) fun U hU => ⟨Nat.le_refl _, ?_⟩
      · rw [howns, if_pos rfl]
        dsimp only
        omega
      · exact Nat.le_of_eq (by rw [howns, if_neg (by simpa using Ne.symm hU), Nat.zero_add])

/-- What an action of a thread does to tables, if the thread may perform it. -/
theorem Sound.moves_perform (hp : p.Sound) (hb : p.Backs h) (allowed : h.Allows t a) :
    p.Moves (a.perform p).2 h (h.after a) := by
  have still : ∀ cell, p.Moves p h { h.settled with cell } := fun _ =>
    .of_sameHolders hp.advances_self ⟨fun _ => rfl, fun _ => rfl⟩ rfl rfl rfl
  cases a with
  -- these change no record of a table
  | storeCell v table => exact (still table).sameTables ⟨rfl, rfl, rfl, rfl⟩
  | loadMultithreaded | swapMultithreaded | swapClaimed | swapSeen | storeGlobal | loadCell
  | loadEntry => exact (still h.cell).sameTables ⟨rfl, rfl, rfl, rfl⟩
  -- these change records, but count no holder
  | assign name =>
      obtain ⟨advances, same, -⟩ := hp.assign name
      exact .of_sameHolders advances same rfl rfl rfl
  | entryPoint name =>
      obtain ⟨advances, same, -⟩ := hp.assign name
      obtain ⟨hsame, -⟩ := p.sameTables_entryPoint name
      have moves : p.Moves (p.assign name).2 h h.settled :=
        .of_sameHolders advances same rfl rfl rfl
      exact moves.sameTables hsame
  | createTable provide =>
      exact .of_sameHolders (hp.advances_createTable provide) (p.sameHolders_createTable provide)
        rfl rfl rfl
  | fixUp S =>
      have resolves := hp.resolves_fixUp S
      exact .of_sameHolders resolves.advances resolves.records.sameHolders rfl rfl rfl
  -- these change one count of one table
  | takeHandle S => exact hp.moves_handles hb allowed fun n => n + 1
  | dropHandle S => exact hp.moves_handles hb allowed fun n => n - 1
  | beginUse S =>
      have held := hb.handle S allowed.1
      refine hp.moves_modifyTable (by omega) (fun _ => rfl) (fun r _ => ?_)
        (fun _ _ => Nat.le_refl _) fun U hU => ⟨?_, Nat.le_refl _⟩
      · simp [Grip.uses, Grip.after, allowed.2]
      · simp [Grip.uses, Grip.after, allowed.2, Ne.symm hU]
  | endUse S =>
      have hone : h.uses S = 1 := if_pos allowed
      have hused := hb.uses S
      refine hp.moves_modifyTable (by omega) (fun _ => rfl) (fun r hr => ?_)
        (fun _ _ => Nat.le_refl _) fun U hU => ⟨Nat.zero_le _, Nat.le_refl _⟩
      have hzero : (h.after (.endUse S : Action φ)).uses S = 0 := rfl
      dsimp only
      omega
  | releaseOwner S =>
      have hrelease : h.release = some S := allowed
      have hone : h.owns S = (if h.owner = some S then 1 else 0) + 1 := by
        rw [Grip.owns, if_pos hrelease]
      have howned := hb.owns S
      refine hp.moves_modifyTable (by omega) (fun _ => rfl) (fun _ _ => Nat.le_refl _)
        (fun r hr => ?_) fun U hU => ⟨Nat.le_refl _, Nat.add_le_add_left (Nat.zero_le _) _⟩
      have hafter : (h.after (.releaseOwner S : Action φ)).owns S =
        (if h.owner = some S then 1 else 0) := rfl
      dsimp only
      omega
  | replaceOwner u new =>
      obtain rfl : u = t := allowed.1
      exact hp.moves_replaceOwner hb allowed

/-- A table that a thread keeps is alive. -/
lemma isAlive_of_keeps (uses : h.uses T ≤ p.usersOf T) (owns : h.owns T ≤ p.ownersOf T)
    (hk : h.Keeps T) : p.isAlive T = true := by
  rw [isAlive_iff]
  rcases hk with howner | ⟨huse, -⟩
  · have hpos : 0 < h.owns T := by
      rw [Grip.owns, if_pos howner]
      omega
    omega
  · have hone : h.uses T = 1 := if_pos huse
    omega

/-- Whatever a thread keeps has been looked up completely, whatever it does. -/
theorem Sound.upToDate_perform (hp : p.Sound) (hb : p.Backs h) (allowed : h.Allows t a)
    (ready : ∀ S, h.Keeps S → p.UpToDate S) (hk : (h.after a).Keeps T) :
    (a.perform p).2.UpToDate T := by
  rcases Grip.keeps_of_after allowed hk with hk | ⟨rfl, huse⟩
  · have halive := isAlive_of_keeps (hb.uses T) (hb.owns T) hk
    exact (hp.moves_perform hb allowed).advances.upToDate T halive (ready T hk)
  · have huses : h.uses T = 1 := if_pos huse
    have hle := hb.uses T
    obtain ⟨r, hr, -⟩ := exists_of_counted (p := p) (t := T) (by omega)
    exact hp.upToDate_fixUp hr

end Switchboard

end VendorDispatch
