import Mathlib.Tactic.Common
import VendorDispatch.Router.Exchange

/-!
What work on a session or on an exchange ends with.

Work either returns a value or is broken off, and leaves a state either way. `Ends` says what both
outcomes satisfy, and there is one equation for every step that work is made of, so that a
statement about a whole piece of work unfolds into statements about its steps.

* `Ends`, `ends_bind`: the outcome of work from a given state, and of two pieces of work in a row.
* `Keeps`: work that leaves an invariant in place, also when it is broken off.
* `ends_onSession`, `ends_onClient`, `ends_attempt`: the steps by which an exchange reaches its
  session, lets a vendor at the client, and catches an error.
-/

namespace VendorDispatch

section Ends

variable {ε S α β : Type}

/-- Work started from `s` returns a value and a state with `post`, or is broken off with `fault`. -/
def Ends (work : EStateM ε S α) (s : S) (post : α → S → Prop) (fault : ε → S → Prop) : Prop :=
  match work s with
  | .ok a t => post a t
  | .error e t => fault e t

variable {s : S} {post : α → S → Prop} {fault : ε → S → Prop}

/-- A weaker statement about the outcome. -/
lemma Ends.mono {work : EStateM ε S α} {post' : α → S → Prop} {fault' : ε → S → Prop}
    (h : Ends work s post fault) (hp : ∀ a t, post a t → post' a t)
    (hf : ∀ e t, fault e t → fault' e t) : Ends work s post' fault' := by
  unfold Ends at h ⊢
  cases hw : work s with
  | ok a t => rw [hw] at h; exact hp a t h
  | error e t => rw [hw] at h; exact hf e t h

/-- Two statements about the same outcome. -/
lemma Ends.and {work : EStateM ε S α} {post' : α → S → Prop} {fault' : ε → S → Prop}
    (h : Ends work s post fault) (h' : Ends work s post' fault') :
    Ends work s (fun a t => post a t ∧ post' a t) fun e t => fault e t ∧ fault' e t := by
  unfold Ends at h h' ⊢
  cases hw : work s <;> rw [hw] at h h' <;> exact ⟨h, h'⟩

/-- Work that is never broken off returns a value. -/
lemma Ends.exists_ok {work : EStateM ε S α} (h : Ends work s post fun _ _ => False) :
    ∃ a t, work s = .ok a t ∧ post a t := by
  unfold Ends at h
  cases hw : work s with
  | ok a t => rw [hw] at h; exact ⟨a, t, rfl, h⟩
  | error e t => rw [hw] at h; exact h.elim

/-- A value is returned where the work starts. -/
lemma ends_pure {a : α} : Ends (pure a : EStateM ε S α) s post fault ↔ post a s := Iff.rfl

/-- A fault breaks the work off where it starts. -/
lemma ends_throw {e : ε} : Ends (throw e : EStateM ε S α) s post fault ↔ fault e s := Iff.rfl

/-- Of two pieces of work in a row, the second starts where the first has ended. -/
lemma ends_bind {x : EStateM ε S β} {f : β → EStateM ε S α} :
    Ends (x >>= f) s post fault ↔ Ends x s (fun b t => Ends (f b) t post fault) fault := by
  simp only [Ends, bind, EStateM.bind]
  cases x s <;> rfl

/-- Work that returned a value is followed by the work on that value. -/
lemma bind_of_ok {x : EStateM ε S β} {f : β → EStateM ε S α} {b : β} {t : S} (h : x s = .ok b t) :
    (x >>= f) s = f b t := by
  simp only [bind, EStateM.bind, h]

/-- Work that returned a value is followed by the work on that value. -/
lemma ends_bind_of_ok {x : EStateM ε S β} {f : β → EStateM ε S α} {b : β} {t : S}
    (h : x s = .ok b t) (hf : Ends (f b) t post fault) : Ends (x >>= f) s post fault := by
  rw [Ends, bind_of_ok h]
  exact hf

/-- A returned value may be changed. -/
lemma ends_map {x : EStateM ε S β} {f : β → α} :
    Ends (f <$> x) s post fault ↔ Ends x s (fun b t => post (f b) t) fault := by
  simp only [Ends, Functor.map, EStateM.map]
  cases x s <;> rfl

/-- A returned value may be left out. -/
lemma ends_discard {x : EStateM ε S β} {post : PUnit → S → Prop} :
    Ends (discard x) s post fault ↔ Ends x s (fun _ t => post ⟨⟩ t) fault :=
  ends_map

/-! ### Invariants -/

/-- Work that leaves an invariant in place, whether or not it is broken off. -/
def Keeps (I : S → Prop) (work : EStateM ε S α) : Prop :=
  ∀ s, I s → Ends work s (fun _ => I) fun _ => I

variable {I : S → Prop}

lemma Keeps.pure (a : α) : Keeps I (pure a : EStateM ε S α) := fun _ h => h

lemma Keeps.throw (e : ε) : Keeps I (throw e : EStateM ε S α) := fun _ h => h

/-- Two pieces of work in a row keep what both of them keep. -/
lemma Keeps.bind {x : EStateM ε S β} {f : β → EStateM ε S α} (hx : Keeps I x)
    (hf : ∀ b, Keeps I (f b)) : Keeps I (x >>= f) :=
  fun s h => ends_bind.mpr ((hx s h).mono (fun b t ht => hf b t ht) fun _ _ => id)

/-- Work whose value is not needed keeps what it keeps anyway. -/
lemma Keeps.discard {x : EStateM ε S β} (hx : Keeps I x) : Keeps I (discard x) :=
  fun s h => ends_discard.mpr (hx s h)

end Ends

/-! ### Work on a session -/

section Session

variable {σ δ α : Type}

/-- The session with one more event in its journal. -/
def Session.enter (s : Session σ δ) (e : Event δ) : Session σ δ :=
  { s with journal := e :: s.journal }

/-- The session in another world. -/
def Session.withWorld (s : Session σ δ) (w : σ) : Session σ δ := { s with world := w }

/-- The session with other owners. -/
def Session.withOwnership (s : Session σ δ) (o : Ownership δ) : Session σ δ :=
  { s with ownership := o }

variable (s : Session σ δ)

@[simp] lemma Session.ownership_enter (e : Event δ) : (s.enter e).ownership = s.ownership := rfl

@[simp] lemma Session.journal_enter (e : Event δ) : (s.enter e).journal = e :: s.journal := rfl

@[simp] lemma Session.world_enter (e : Event δ) : (s.enter e).world = s.world := rfl

@[simp] lemma Session.ownership_withWorld (w : σ) : (s.withWorld w).ownership = s.ownership := rfl

@[simp] lemma Session.journal_withWorld (w : σ) : (s.withWorld w).journal = s.journal := rfl

@[simp] lemma Session.ownership_withOwnership (o : Ownership δ) :
    (s.withOwnership o).ownership = o := rfl

@[simp] lemma Session.journal_withOwnership (o : Ownership δ) :
    (s.withOwnership o).journal = s.journal := rfl

@[simp] lemma Session.world_withOwnership (o : Ownership δ) :
    (s.withOwnership o).world = s.world := rfl

variable {s} {fault : Abort → Session σ δ → Prop}

/-- An event is entered into the journal. -/
lemma ends_record {e : Event δ} {post : Unit → Session σ δ → Prop} :
    Ends (SessionM.record e) s post fault ↔ post () (s.enter e) := Iff.rfl

lemma ends_world {post : σ → Session σ δ → Prop} :
    Ends SessionM.world s post fault ↔ post s.world s := Iff.rfl

/-- The window system moves to another world. -/
lemma ends_setWorld {w : σ} {post : Unit → Session σ δ → Prop} :
    Ends (SessionM.setWorld w) s post fault ↔ post () (s.withWorld w) := Iff.rfl

lemma ends_ownership {post : Ownership δ → Session σ δ → Prop} :
    Ends SessionM.ownership s post fault ↔ post s.ownership s := Iff.rfl

/-- The owners are replaced. -/
lemma ends_setOwnership {o : Ownership δ} {post : Unit → Session σ δ → Prop} :
    Ends (SessionM.setOwnership o) s post fault ↔ post () (s.withOwnership o) := Iff.rfl

end Session

/-! ### Work on an exchange -/

section Exchange

variable {σ δ α : Type} {x : Exchange σ δ} {post : α → Exchange σ δ → Prop}
  {fault : Fault → Exchange σ δ → Prop}

/-- The exchange with another session. -/
def Exchange.withSession (x : Exchange σ δ) (s : Session σ δ) : Exchange σ δ :=
  { x with session := s }

/-- The exchange with another client. -/
def Exchange.withClient (x : Exchange σ δ) (c : Client) : Exchange σ δ := { x with client := c }

/-- The exchange with the client's tags changed. -/
def Exchange.modifyTags (x : Exchange σ δ) (f : TagTable δ → TagTable δ) : Exchange σ δ :=
  x.withSession (x.session.withOwnership (x.session.ownership.modifyTags x.client.id f))

@[simp] lemma Exchange.session_withSession (x : Exchange σ δ) (s : Session σ δ) :
    (x.withSession s).session = s := rfl

@[simp] lemma Exchange.client_withSession (x : Exchange σ δ) (s : Session σ δ) :
    (x.withSession s).client = x.client := rfl

@[simp] lemma Exchange.session_withClient (x : Exchange σ δ) (c : Client) :
    (x.withClient c).session = x.session := rfl

@[simp] lemma Exchange.client_withClient (x : Exchange σ δ) (c : Client) :
    (x.withClient c).client = c := rfl

lemma ends_client {post : Client → Exchange σ δ → Prop} :
    Ends ExchangeM.client x post fault ↔ post x.client x := Iff.rfl

/-- The client of a request is changed. -/
lemma ends_modifyClient {f : Client → Client} {post : Unit → Exchange σ δ → Prop} :
    Ends (ExchangeM.modifyClient f) x post fault ↔ post () (x.withClient (f x.client)) := Iff.rfl

/-- A request fails with an error. -/
lemma ends_fail {e : ProtocolError} :
    Ends (ExchangeM.fail e : ExchangeM σ δ α) x post fault ↔ fault (.error e) x := Iff.rfl

/-- A request fails with an error that names the value to blame. -/
lemma ends_failAt {v : UInt32} {e : ProtocolError} :
    Ends (ExchangeM.failAt v e : ExchangeM σ δ α) x post fault ↔
      fault (.error e) (x.withClient { x.client with errorValue := v }) := Iff.rfl

/-- A result that was computed before is returned, or fails the request. -/
lemma ends_ofExcept {r : Except ProtocolError α} :
    Ends (ExchangeM.ofExcept r) x post fault ↔
      match r with
      | .ok a => post a x
      | .error e => fault (.error e) x := by
  cases r <;> rfl

/-- A field of the request is read, or is not there. -/
lemma ends_readWord {offset : Nat} {post : UInt32 → Exchange σ δ → Prop} :
    Ends (ExchangeM.readWord offset) x post fault ↔
      match x.client.readWord offset with
      | .ok v => post v x
      | .error e => fault (.error e) x := by
  rw [ExchangeM.readWord, ends_bind, ends_client, ends_ofExcept]
  cases x.client.readWord offset <;> rfl

/-- Work on the session is part of the work on a request; a fault of it breaks the request off. -/
lemma ends_onSession {work : SessionM σ δ α} :
    Ends (ExchangeM.onSession work) x post fault ↔
      Ends work x.session (fun a s => post a (x.withSession s)) fun e s =>
        fault (.abort e) (x.withSession s) := by
  simp only [Ends, ExchangeM.onSession]
  cases work x.session <;> rfl

/-- Work on the session that returned a value is part of the work on a request. -/
lemma onSession_of_ok {work : SessionM σ δ α} {a : α} {t : Session σ δ}
    (h : work x.session = .ok a t) : ExchangeM.onSession work x = .ok a (x.withSession t) := by
  rw [ExchangeM.onSession, h]
  rfl

/-- A vendor that is shown the client hands back another one, which is the client from then on, and
an answer, which may fail the request. -/
lemma ends_onClient {work : Client → SessionM σ δ (Client × Except ProtocolError α)} :
    Ends (ExchangeM.onClient work) x post fault ↔
      Ends (work x.client) x.session
        (fun r s =>
          match r.2 with
          | .ok a => post a ((x.withSession s).withClient r.1)
          | .error e => fault (.error e) ((x.withSession s).withClient r.1))
        fun e s => fault (.abort e) (x.withSession s) := by
  simp only [ExchangeM.onClient, ends_bind, ends_client, ends_onSession, ends_modifyClient,
    ends_ofExcept]

/-- An error is caught, and only what breaks off the router goes on. -/
lemma ends_attempt {work : ExchangeM σ δ α}
    {post : Except ProtocolError α → Exchange σ δ → Prop} :
    Ends (ExchangeM.attempt work) x post fault ↔
      Ends work x (fun a => post (.ok a)) fun f y =>
        match f with
        | .error e => post (.error e) y
        | .abort a => fault (.abort a) y := by
  simp only [Ends, ExchangeM.attempt]
  rcases work x with ⟨a, y⟩ | ⟨⟨e⟩ | ⟨a⟩, y⟩ <;> rfl

/-- The tags of the client are changed. -/
lemma ends_modifyTags {f : TagTable δ → TagTable δ} {post : Unit → Exchange σ δ → Prop} :
    Ends (ExchangeM.modifyTags f) x post fault ↔ post () (x.modifyTags f) := Iff.rfl

/-- A reply is written in full, or the work is broken off and nothing is. -/
lemma ends_sendReply {fields : List (Nat × UInt32)} {post : Unit → Exchange σ δ → Prop} :
    Ends (ExchangeM.sendReply fields) x post fault ↔
      match (Reply.header x.client).putAll? fields with
      | some r => post () (x.withClient (x.client.writeReply r.bytes))
      | none => fault (.abort .panicked) x := by
  rw [ExchangeM.sendReply, ends_bind, ends_client]
  cases (Reply.header x.client).putAll? fields <;> rfl

end Exchange

end VendorDispatch
