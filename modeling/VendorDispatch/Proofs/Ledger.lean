import VendorDispatch.Proofs.LookUp
import VendorDispatch.Proofs.Operation

/-!
The owners of resources, booked as clients and vendors come and go.

Within a generation a resource gains an owner when a request that creates it succeeds, or when a
vendor adds it; it loses its owner when a request that destroys it succeeds, when a vendor removes
it, or when the window system frees it. The ledger is kept from what requests name, what they return
and what vendors are told, without a look at the owners themselves.

* `creations`, `creationScreens`, `destructions`: what the requests that create and destroy
  resources name, and where.
* `ownerAfter`: the owner of a resource after the export calls in a journal.
* `Server.posted`, `Server.ledger`: what one operation books, and what operations book one after the
  other.
* `xids_eq_ledger`: the ledger agrees with the router; a request that fails leaves the resource that
  it names alone; and an owner is never replaced by another.
-/

namespace VendorDispatch

variable {σ δ α : Type}

/-! ### What requests name -/

/-- The requests that create a resource, and the byte offset of its id. -/
def creations : List (UInt8 × Nat) :=
  [(Opcode.createContext, 4), (Opcode.createNewContext, 4), (Opcode.createContextAttribsARB, 4),
   (Opcode.createGLXPixmap, 16), (Opcode.createPixmap, 16), (Opcode.createPbuffer, 12),
   (Opcode.createWindow, 16)]

/-- The requests that create a resource, and the byte offset of its screen. -/
def creationScreens : List (UInt8 × Nat) :=
  [(Opcode.createContext, 12), (Opcode.createNewContext, 12), (Opcode.createContextAttribsARB, 12),
   (Opcode.createGLXPixmap, 4), (Opcode.createPixmap, 4), (Opcode.createPbuffer, 4),
   (Opcode.createWindow, 4)]

/-- The requests that destroy a resource, and the byte offset of its id. -/
def destructions : List (UInt8 × Nat) :=
  [(Opcode.destroyContext, 4), (Opcode.destroyGLXPixmap, 4), (Opcode.destroyPixmap, 4),
   (Opcode.destroyPbuffer, 4), (Opcode.destroyWindow, 4)]

namespace Client

variable (c : Client)

/-- What the current request names at the offset that is listed for its opcode. -/
def named? (fields : List (UInt8 × Nat)) : Option UInt32 :=
  c.minorOpcode.toOption.bind fun minor =>
    (fields.lookup minor).bind fun offset => (c.readWord offset).toOption

/-- The resource that the current request creates. -/
def creates? : Option Xid := c.named? creations

/-- The resource that the current request destroys. -/
def destroys? : Option Xid := c.named? destructions

/-- The current request creates or destroys the resource. -/
def Names (k : Xid) : Prop := c.creates? = some k ∨ c.destroys? = some k

end Client

/-! ### Bookings -/

/-- The owner of a resource after an event. -/
def Event.rebook (k : Xid) (owner : Option VendorId) : Event δ → Option VendorId
  | .exported (.addXid id v) true => if id = k then some v else owner
  | .exported (.removeXid id) _ => if id = k then none else owner
  | _ => owner

/-- The event adds or removes the resource. -/
def Event.Rebooks (k : Xid) : Event δ → Prop
  | .exported (.addXid id _) true => id = k
  | .exported (.removeXid id) _ => id = k
  | _ => False

/-- The owner of a resource after the events of a journal. -/
def ownerAfter (k : Xid) (journal : List (Event δ)) (owner : Option VendorId) : Option VendorId :=
  journal.foldl (Event.rebook k) owner

/-- No vendor adds or removes the resource that the current request names. -/
def Server.SparesNamed (s : Server σ δ) (c : Client) : Prop :=
  ∀ k, c.Names k → ∀ e ∈ (s.serve c).journal, ¬ e.Rebooks k

/-- The owner of a resource after one more operation. -/
def Server.posted (s : Server σ δ) (k : Xid) (owner : Option VendorId) :
    Operation σ δ → Option VendorId
  | .beginGeneration entry =>
    match (s.beginGeneration entry).result with
    | .ok (.ok ()) => ownerAfter k (s.beginGeneration entry).journal none
    | _ => owner
  | .endGeneration =>
    match s.endGeneration.result with
    | .ok (.ok ()) => none
    | _ => owner
  | .serve c =>
    match (s.serve c).result with
    | .ok (_, .ok ()) =>
      if c.destroys? = some k then
        none
      else if c.creates? = some k then
        (c.named? creationScreens).bind fun screen => s.ownership.screenVendor screen.toNat
      else
        ownerAfter k (s.serve c).journal owner
    | _ => ownerAfter k (s.serve c).journal owner
  | .resourceFreed id => if id = k then none else owner
  | .perform p => ownerAfter k (s.perform p).journal owner
  | .createVendor _ => owner
  | .destroyVendor _ => owner
  | .clientGone _ => owner
  | .changeWorld _ => owner

/-- The owner of a resource after operations. -/
def Server.ledger (k : Xid) : Server σ δ → Option VendorId → List (Operation σ δ) → Option VendorId
  | _, owner, [] => owner
  | s, owner, op :: rest => ledger k (s.apply op).server (s.posted k owner op) rest

lemma Server.Leads.ledger_concat {s t : Server σ δ} {ops : List (Operation σ δ)}
    (h : s.Leads ops t) (k : Xid) (owner : Option VendorId) (op : Operation σ δ) :
    s.ledger k owner (ops ++ [op]) = t.posted k (s.ledger k owner ops) op := by
  induction ops generalizing s owner with
  | nil =>
      obtain rfl := h.nil_inv
      rfl
  | cons first rest ih => exact ih h.uncons _

section Bookings

variable {k : Xid} {journal : List (Event δ)} {owner : Option VendorId}

/-- Events about other resources change nothing. -/
lemma ownerAfter_of_spared (h : ∀ e ∈ journal, ¬ e.Rebooks k) :
    ownerAfter k journal owner = owner := by
  induction journal generalizing owner with
  | nil => rfl
  | cons e journal ih =>
      have he : e.rebook k owner = owner := by
        have hne := h e List.mem_cons_self
        rw [Event.rebook.eq_def]
        split
        · exact if_neg hne
        · exact if_neg hne
        · rfl
      rw [ownerAfter, List.foldl_cons, he]
      exact ih fun d hd => h d (List.mem_cons_of_mem e hd)

/-- An event that moves nothing changes nothing. -/
lemma Event.rebook_of_not_transfers {e : Event δ} (h : ¬ e.Transfers) :
    e.rebook k owner = owner := by
  rw [Event.rebook.eq_def]
  split
  · exact (h trivial).elim
  · exact (h trivial).elim
  · rfl

lemma Event.IsQuestion.not_rebooks {e : Event δ} (h : e.IsQuestion) : ¬ e.Rebooks k := by
  cases e with
  | drawableAsked | resourceAsked => exact not_false
  | called | returned | exported | noted => exact h.elim

end Bookings

/-! ### The owner of a resource during an operation -/

/-- The resource has the owner that the events so far gave it. -/
def Booked (k : Xid) (owner : Option VendorId) (s : Session σ δ) : Prop :=
  s.ownership.xids.get? k = ownerAfter k s.journal.reverse owner

section Booked

variable {k : Xid} {owner : Option VendorId} {s : Session σ δ}

/-- One more event, and what it does to the owner. -/
lemma Booked.enter (h : Booked k owner s) {o : Ownership δ} {e : Event δ}
    (he : o.xids.get? k = e.rebook k (s.ownership.xids.get? k)) :
    Booked k owner ((s.withOwnership o).enter e) := by
  rw [Booked] at h ⊢
  rw [Session.ownership_enter, Session.ownership_withOwnership, he, h, Session.journal_enter,
    Session.journal_withOwnership, List.reverse_cons, ownerAfter, ownerAfter, List.foldl_append]
  rfl

/-- Export calls and switches keep the books. -/
lemma switchable_booked (env : Environment σ δ) (k : Xid) (owner : Option VendorId) :
    env.Switchable (Booked k owner) where
  upheld :=
    { withWorld := fun _ _ h => h
      enter := fun s e _ ht h => h.enter (Event.rebook_of_not_transfers ht).symm
      setScreenVendor := by
        intro s screen v o _ ho h
        refine h.enter ?_
        rw [Ownership.xids_setScreenVendor? ho]
        rfl
      addXid := by
        intro s id v _ ha h
        refine h.enter ?_
        rw [Ownership.get?_xids_addXid ha]
        simp only [Event.rebook, eq_comm]
      removeXid := by
        intro s id h
        refine h.enter ?_
        rw [Ownership.get?_xids_removeXid]
        simp only [Event.rebook, eq_comm]
      tagVendor := fun s _ _ h => h.enter rfl
      tagData := fun s _ _ _ h => h.enter rfl
      setTagData := fun s _ _ _ _ _ h => h.enter rfl
      touchTags := fun s _ _ _ _ _ h => h.enter rfl }
  -- the steps of a switch move tags, and book nothing
  asked s _ _ _ _ h := h.enter rfl
  answered s _ _ _ _ h := h.enter rfl
  claim s _ _ _ o _ ho h := by
    rw [Booked, Session.ownership_withOwnership, (Ownership.xids_allocateTag? ho).1]
    exact h
  unclaim s _ _ _ o ho h := by
    rw [Booked, Session.ownership_withOwnership]
    exact (congrArg (Assoc.get? · k) (Ownership.xids_allocateTag? ho).1).trans h
  free _ _ _ h := h
  bound _ _ _ _ _ h := h

/-- Questions to the window system change no owner. -/
lemma Exchange.Agrees.spares_resource {x y : Exchange σ δ} (h : x.Agrees y)
    (hx : ∀ e ∈ x.session.journal, ¬ e.Rebooks k) : ∀ e ∈ y.session.journal, ¬ e.Rebooks k := by
  obtain ⟨asked, hasked, hj⟩ := h.journal
  rw [hj]
  exact List.forall_mem_append.mpr ⟨fun e he => (hasked e he).not_rebooks, hx⟩

end Booked

/-! ### Routed requests -/

/-- What a routed request that succeeded has made of the owner of a resource. -/
def RoutedRequest.settled (r : RoutedRequest) (c : Client) (o : Ownership δ) (k : Xid)
    (told : Option VendorId) : Option VendorId :=
  if r.destroyed? c = some k then
    none
  else if r.created? c = some k then
    (c.readWord r.offset).toOption.bind fun screen => o.screenVendor screen.toNat
  else
    told

/-- Vendors leave a resource alone that the request creates or destroys. -/
def RoutedRequest.LeftAlone (r : RoutedRequest) (c : Client) (k : Xid)
    (journal : List (Event δ)) : Prop :=
  r.created? c = some k ∨ r.destroyed? c = some k → ∀ e ∈ journal, ¬ e.Rebooks k

/-- A routed request books what it creates and destroys when it succeeds, and nothing when it
fails. -/
lemma routed_posts {env : Environment σ δ} {r : RoutedRequest} {x : Exchange σ δ} {k : Xid}
    (hroute : r.adds ≠ none → r.route = .screen)
    (hx : ∀ e ∈ x.session.journal, ¬ e.Rebooks k) :
    Ends (r.serve env) x
      (fun _ y => r.LeftAlone x.client k y.session.journal →
        y.session.ownership.xids.get? k = r.settled x.client x.session.ownership k
          (ownerAfter k y.session.journal.reverse (x.session.ownership.xids.get? k)))
      fun f y => ∀ e, f = .error e → r.LeftAlone x.client k y.session.journal →
        y.session.ownership.xids.get? k =
          ownerAfter k y.session.journal.reverse (x.session.ownership.xids.get? k) := by
  have hspared : ∀ {journal : List (Event δ)} {owner}, (∀ e ∈ journal, ¬ e.Rebooks k) →
      ownerAfter k journal.reverse owner = owner := fun h =>
    ownerAfter_of_spared fun e he => h e (List.mem_reverse.mp he)
  refine ends_routed ?_ fun v y z hy howner hz => ?_
  · rintro f y hf e rfl -
    obtain ⟨z, v, hz, rfl⟩ := hf
    rw [Exchange.session_withClient, hz.ownership, hspared (hz.spares_resource hx)]
  obtain ⟨hget, hfresh, hjournal⟩ := hz.get?_xids k
  rw [hy.ownership] at hget hfresh
  -- From here on the events book on top of the new resource, if it is the one in question.
  have hstart : Booked k (if r.created? x.client = some k then some v
      else x.session.ownership.xids.get? k) z.session := by
    rw [Booked, hget, hjournal, hspared (hy.spares_resource hx)]
  refine ((switchable_booked env k _).upheld.keeps_forward v z hstart).mono ?_ ?_
  · intro _ w hw hleft
    rw [Exchange.journal_forget] at hleft ⊢
    have hw : w.session.ownership.xids.get? k = _ := hw
    rw [Exchange.get?_xids_forget, hw, RoutedRequest.settled]
    split_ifs with hd hc
    · rfl
    · rw [hspared (hleft (.inl hc))]
      obtain ⟨i, hi, hv⟩ := howner (hroute fun h => by simp [RoutedRequest.created?, h] at hc)
      rw [hi]
      exact hv.symm
    · rfl
  · rintro (e | a) w hw
    · intro _ _ hleft
      rw [Exchange.journal_forget] at hleft ⊢
      have hw : w.session.ownership.xids.get? k = _ := hw
      rw [Exchange.get?_xids_forget, hw]
      split_ifs with hc
      · rw [hspared (hleft (.inl hc)), hfresh hc]
      · rfl
    · rintro e ⟨⟩

/-! ### What one operation books -/

namespace Server

variable {s : Server σ δ} {c : Client} {r : RoutedRequest} {k : Xid}

/-- The table of routed requests names what the requests create and destroy. -/
lemma names_of_routed (hr : r ∈ routedRequests) (hm : c.minorOpcode = .ok r.opcode) :
    c.creates? = r.created? c ∧ c.destroys? = r.destroyed? c ∧
      (r.adds ≠ none → r.route = .screen ∧
        c.named? creationScreens = (c.readWord r.offset).toOption) := by
  have htable : ∀ q ∈ routedRequests, creations.lookup q.opcode = q.adds ∧
      destructions.lookup q.opcode = q.removes ∧
      (q.adds ≠ none → q.route = .screen ∧
        creationScreens.lookup q.opcode = some q.offset) := by decide
  obtain ⟨hadds, hremoves, hscreen⟩ := htable r hr
  have hnamed : ∀ fields, c.named? fields =
      (fields.lookup r.opcode).bind fun offset => (c.readWord offset).toOption := fun fields => by
    rw [Client.named?, hm]
    rfl
  refine ⟨?_, ?_, fun h => ⟨(hscreen h).1, ?_⟩⟩
  · rw [Client.creates?, hnamed, hadds, RoutedRequest.created?]
  · rw [Client.destroys?, hnamed, hremoves, RoutedRequest.destroyed?]
  · rw [hnamed, (hscreen h).2, Option.bind_some]

/-- Only routed requests create and destroy resources. -/
lemma not_names_of_unrouted (hc : ∀ r ∈ routedRequests, c.minorOpcode ≠ .ok r.opcode) :
    c.creates? ≠ some k ∧ c.destroys? ≠ some k := by
  have htable : ∀ p ∈ creations ++ destructions, ∃ q ∈ routedRequests, q.opcode = p.1 := by decide
  have hnamed : ∀ fields ⊆ creations ++ destructions, c.named? fields = none := by
    intro fields hfields
    rw [Client.named?]
    cases hm : c.minorOpcode with
    | error e => rfl
    | ok minor =>
        have hnone : fields.lookup minor = none := by
          refine List.lookup_eq_none_iff.mpr fun p hp => bne_iff_ne.mpr ?_
          rintro rfl
          obtain ⟨q, hq, hqp⟩ := htable p (hfields hp)
          exact hc q hq (hqp ▸ hm)
        rw [Except.toOption, Option.bind_some, hnone, Option.bind_none]
  rw [Client.creates?, Client.destroys?, hnamed _ (List.subset_append_left _ _),
    hnamed _ (List.subset_append_right _ _)]
  exact ⟨(Option.some_ne_none k).symm, (Option.some_ne_none k).symm⟩

lemma Sound.serve_posted (hs : s.Sound) {a : Client × Except ProtocolError Unit}
    (ha : (s.serve c).result = .ok a) (hc : s.SparesNamed c) (k : Xid) :
    (s.serve c).server.ownership.xids.get? k =
      s.posted k (s.ownership.xids.get? k) (.serve c) := by
  cases he : s.extension with
  | none => simp only [posted, Server.serve, he, ownerAfter, List.foldl_nil]
  | some entry =>
      by_cases hrouted : ∃ r ∈ routedRequests, c.minorOpcode = .ok r.opcode
      · obtain ⟨r, hr, hm⟩ := hrouted
        obtain ⟨hcreates, hdestroys, hscreen⟩ := names_of_routed hr hm
        -- a request that creates or destroys: its own booking comes on top of what was exported
        have hleaves : (s.serve c).Leaves
            (fun b t => r.LeftAlone c k t.journal →
              (b.2 = .ok () → t.ownership.xids.get? k = r.settled c s.ownership k
                (ownerAfter k t.journal.reverse (s.ownership.xids.get? k))) ∧
              ∀ e, b.2 = .error e → t.ownership.xids.get? k =
                ownerAfter k t.journal.reverse (s.ownership.xids.get? k))
            fun _ _ => True := by
          have hne : s.extension ≠ none := by
            rw [he]
            exact Option.some_ne_none entry
          refine hs.serve_leaves_of_routed hne hr hm
            ((routed_posts (k := k) (fun h => (hscreen h).1) (List.forall_mem_nil _)).mono ?_ ?_)
          · exact fun _ y hy hleft => ⟨fun _ => hy hleft, fun e h => (by cases h)⟩
          · rintro (e | a) y hy
            · exact fun hleft => ⟨fun h => (by cases h), fun _ _ => hy e rfl hleft⟩
            · trivial
        -- what the request names was left alone on the way
        have hleft : r.LeftAlone c k (s.serve c).session.journal := by
          intro hk e hj
          rw [← hcreates, ← hdestroys] at hk
          exact hc k hk e (List.mem_reverse.mp hj)
        rw [Step.Leaves, ha] at hleaves
        have hget := hleaves hleft
        rw [Step.session, List.reverse_reverse] at hget
        -- a request that failed books nothing of its own
        obtain ⟨d, e | _⟩ := a
        · refine (hget.2 e rfl).trans ?_
          simp only [posted, ha]
        · refine (hget.1 rfl).trans ?_
          simp only [posted, ha, RoutedRequest.settled, hcreates, hdestroys]
          split_ifs with hd hcr
          · rfl
          · have hadds : r.adds ≠ none := fun h => by simp [RoutedRequest.created?, h] at hcr
            rw [(hscreen hadds).2]
          · rfl
      · push Not at hrouted
        -- any other request books what was exported
        have hbooked := hs.serve_keeps_of_unrouted
          (switchable_booked s.environment k (s.ownership.xids.get? k)) (rfl : Booked k _ s.session)
          fun _ => hrouted
        obtain ⟨hcreates, hdestroys⟩ := not_names_of_unrouted (k := k) hrouted
        rw [Booked, Step.session, List.reverse_reverse] at hbooked
        refine hbooked.trans ?_
        obtain ⟨d, e | _⟩ := a
        · simp only [posted, ha]
        · simp only [posted, ha, if_neg hcreates, if_neg hdestroys]

/-- The books before an operation lead to the books after it. -/
lemma Sound.apply_posted (hs : s.Sound) (op : Operation σ δ) {a : op.Answer}
    (ha : (s.apply op).result = .ok a) (hop : ∀ c, op = .serve c → s.SparesNamed c) (k : Xid) :
    (s.apply op).server.ownership.xids.get? k = s.posted k (s.ownership.xids.get? k) op := by
  cases op with
  | createVendor i => rw [ownership_createVendor, posted]
  | destroyVendor v => rw [ownership_destroyVendor, posted]
  | beginGeneration entry =>
      cases he : s.extension with
      | some e => rw [Server.apply, posted, beginGeneration_of_some he]
      | none =>
          -- the books start empty, and every export of the callbacks adds to them
          obtain rfl := beginGeneration_ok he ha
          have ha : (s.beginGeneration entry).result = .ok (.ok ()) := ha
          simp only [posted, ha]
          refine beginGeneration_keeps
            (I := fun _ o journal => o.xids.get? k = ownerAfter k journal none)
            (fun u journal => ?_) (fun _ _ _ _ h => h) he entry rfl
          have hbooked : (fun t : Session σ δ => t.ownership.xids.get? k =
              ownerAfter k (journal ++ t.journal.reverse) none) =
              Booked k (ownerAfter k journal none) := by
            funext t
            rw [ownerAfter, List.foldl_append]
            rfl
          rw [hbooked]
          exact (switchable_booked u.environment k _).upheld
  | endGeneration =>
      cases he : s.extension with
      | none => rw [Server.apply, posted, endGeneration_of_none he]
      | some entry =>
          obtain rfl := endGeneration_ok he ha
          have ha : s.endGeneration.result = .ok (.ok ()) := ha
          simp only [posted, ha]
          rw [Server.apply, ownership_endGeneration he]
          rfl
  -- within the generation
  | serve c => exact hs.serve_posted ha (hop c rfl) k
  | clientGone client => rfl
  | resourceFreed id =>
      rw [Server.apply, resourceFreed, Ownership.get?_xids_removeXid, posted]
      simp only [eq_comm]
  | perform program =>
      have hbooked : Booked k (s.ownership.xids.get? k) (s.perform program).session :=
        perform_upholds (switchable_booked s.environment k _).upheld rfl program
      rw [Booked, Step.session, List.reverse_reverse] at hbooked
      exact hbooked
  | changeWorld change => rfl

end Server

/-! ### Zero -/

/-- Nobody ever owns the resource zero. -/
lemma stable_zero (env : Environment σ δ) :
    env.Stable fun s => s.ownership.xids.get? 0 = none where
  kept :=
    { withWorld := fun _ _ h => h
      enter := fun _ _ _ h => h
      setScreenVendor := fun s _ _ o _ ho h => by
        rw [Session.ownership_withOwnership, Ownership.xids_setScreenVendor? ho]
        exact h
      -- zero is refused, so whatever is added is another resource
      addXid := fun s id v _ h => by
        rw [Session.ownership_withOwnership]
        cases ha : (s.ownership.addXid id v).1 with
        | false =>
            rw [Ownership.addXid_of_fst_eq_false ha]
            exact h
        | true =>
            have hne : (0 : Xid) ≠ id := Ne.symm (Ownership.addXid_fst_iff.mp ha).1
            rw [Ownership.get?_xids_addXid ha, if_neg hne]
            exact h
      removeXid := fun s id h => by
        rw [Session.ownership_withOwnership, Ownership.get?_xids_removeXid, h, ite_self]
      tagVendor := fun _ _ _ h => h
      tagData := fun _ _ _ _ h => h
      setTagData := fun _ _ _ _ _ _ h => h
      touchTags := fun _ _ _ _ _ _ h => h }
  asked _ _ _ _ _ h := h
  answered _ _ _ _ _ h := h
  claim _ _ _ _ o _ ho h := by
    rw [Session.ownership_withOwnership, (Ownership.xids_allocateTag? ho).1]
    exact h
  unclaim _ _ _ _ o ho h :=
    (congrArg (Assoc.get? · 0) (Ownership.xids_allocateTag? ho).1).trans h
  free _ _ _ h := h
  bound _ _ _ _ _ h := h

namespace Server

variable {s : Server σ δ} {c : Client} {r : RoutedRequest} {k : Xid}

/-- No operation makes anybody the owner of zero. -/
lemma Sound.apply_zero (hs : s.Sound) (h : s.ownership.xids.get? 0 = none)
    (op : Operation σ δ) : (s.apply op).server.ownership.xids.get? 0 = none := by
  have hI := stable_zero s.environment
  refine apply_ownership (P := fun o => o.xids.get? 0 = none) op h rfl (fun entry he => ?_)
    (fun c _ => hs.serve_keeps hI h c) (fun program => perform_keeps hI.kept h program)
    (fun _ => h) fun id => ?_
  · -- the new generation starts from an empty table
    exact beginGeneration_keeps (I := fun _ o _ => o.xids.get? 0 = none)
      (fun u _ => (stable_zero u.environment).kept.upheld) (fun _ _ _ _ h => h) he entry rfl
  · rw [Ownership.get?_xids_removeXid, h, ite_self]

end Server

/-! ### Owners are not replaced -/

/-- A vendor removes the resource. -/
def Event.Removes (k : Xid) : Event δ → Prop
  | .exported (.removeXid id) _ => id = k
  | _ => False

/-- The resource belongs to the vendor, or was removed in the meantime. -/
def StillOwned (k : Xid) (v : VendorId) (s : Session σ δ) : Prop :=
  s.ownership.xids.get? k = some v ∨ ∃ e ∈ s.journal, e.Removes k

section StillOwned

variable {k : Xid} {v : VendorId} {s : Session σ δ}

lemma StillOwned.enter (h : StillOwned k v s) {o : Ownership δ} {e : Event δ}
    (he : s.ownership.xids.get? k = some v → o.xids.get? k = some v ∨ e.Removes k) :
    StillOwned k v ((s.withOwnership o).enter e) := by
  rcases h with h | ⟨d, hd, hr⟩
  · exact (he h).imp_right fun hr => ⟨e, List.mem_cons_self, hr⟩
  · exact .inr ⟨d, List.mem_cons_of_mem e hd, hr⟩

/-- No export call and no step of a switch replaces an owner. -/
lemma switchable_stillOwned (env : Environment σ δ) (k : Xid) (v : VendorId) :
    env.Switchable (StillOwned k v) where
  upheld :=
    { withWorld := fun _ _ h => h
      enter := fun s e _ _ h => h.enter .inl
      setScreenVendor := by
        intro s screen w o _ ho h
        refine h.enter fun hk => .inl ?_
        rw [Ownership.xids_setScreenVendor? ho]
        exact hk
      addXid := by
        intro s id w _ ha h
        refine h.enter fun hk => .inl ?_
        -- a resource that has an owner is not added again
        have hne : k ≠ id := by
          rintro rfl
          cases (Ownership.addXid_fst_iff.mp ha).2.symm.trans hk
        rw [Ownership.get?_xids_addXid ha, if_neg hne]
        exact hk
      -- to remove it is the one way out, and the journal says so
      removeXid := by
        intro s id h
        refine h.enter fun hk => ?_
        rw [Ownership.get?_xids_removeXid]
        by_cases hid : k = id
        · exact .inr hid.symm
        · exact .inl ((if_neg hid).trans hk)
      tagVendor := fun s _ _ h => h.enter .inl
      tagData := fun s _ _ _ h => h.enter .inl
      setTagData := fun s _ _ _ _ _ h => h.enter .inl
      touchTags := fun s _ _ _ _ _ h => h.enter .inl }
  asked s _ _ _ _ h := h.enter .inl
  answered s _ _ _ _ h := h.enter .inl
  claim s _ _ _ o _ ho h := h.imp_left
    ((congrArg (Assoc.get? · k) (Ownership.xids_allocateTag? ho).1).trans ·)
  unclaim s _ _ _ o ho h := h.imp_left
    ((congrArg (Assoc.get? · k) (Ownership.xids_allocateTag? ho).1).trans ·)
  free _ _ _ h := h
  bound _ _ _ _ _ h := h

/-- The resource belongs to nobody else, unless it was removed in the meantime. -/
def NotReplaced (k : Xid) (v : VendorId) (s : Session σ δ) : Prop :=
  ∀ w, s.ownership.xids.get? k = some w → w = v ∨ ∃ e ∈ s.journal, e.Removes k

lemma StillOwned.notReplaced (h : StillOwned k v s) : NotReplaced k v s := by
  intro w hw
  exact h.imp_left fun hv => Option.some.inj (hw.symm.trans hv)

/-- Creating and destroying resources replaces no owner. -/
lemma routed_notReplaced {env : Environment σ δ} {r : RoutedRequest} {x : Exchange σ δ}
    (hx : x.session.ownership.xids.get? k = some v) :
    Ends (r.serve env) x (fun _ y => NotReplaced k v y.session) fun _ y =>
      NotReplaced k v y.session := by
  have hforget : ∀ (y : Exchange σ δ) id?, StillOwned k v y.session →
      NotReplaced k v (y.forget id?).session := by
    intro y id? hy w hw
    rw [Exchange.get?_xids_forget] at hw
    split_ifs at hw
    rw [Exchange.journal_forget]
    exact hy.notReplaced w hw
  -- the request may fail before the vendor is called
  refine ends_routed ?_ fun u y z hy _ hz => ?_
  · rintro (e | a) y hf
    · obtain ⟨z, val, hz, rfl⟩ := hf
      refine StillOwned.notReplaced (.inl ?_)
      rw [Exchange.session_withClient, hz.ownership]
      exact hx
    · exact hf.elim
  -- the vendor is called; what the request creates was free, so it is not `k`
  obtain ⟨hget, hfresh, -⟩ := hz.get?_xids k
  rw [hy.ownership] at hget hfresh
  have hne : r.created? x.client ≠ some k := fun h => by
    cases (hfresh h).symm.trans hx
  rw [if_neg hne] at hget
  have hkeep := (switchable_stillOwned env k v).upheld.keeps_forward u z (.inl (hget.trans hx))
  refine hkeep.mono (fun _ w hw => hforget w _ hw) ?_
  rintro (e | a) w hw
  · exact hforget w _ hw
  · exact hw.notReplaced

end StillOwned

/-- A resource that has an owner keeps it, or a vendor removes it on the way, or a new generation
starts. -/
lemma Server.Sound.apply_notReplaced {s : Server σ δ} (hs : s.Sound) (op : Operation σ δ) {k : Xid}
    {v w : VendorId} (hv : s.ownership.xids.get? k = some v)
    (hw : (s.apply op).server.ownership.xids.get? k = some w) :
    w = v ∨ (∃ e ∈ (s.apply op).journal, e.Removes k) ∨
      s.extension = none ∧ ∃ entry, op = .beginGeneration entry := by
  -- two ways to conclude: the owner is the same, or the operation was tracked
  have hsame : ∀ {t : Server σ δ}, t.ownership.xids.get? k = s.ownership.xids.get? k →
      t.ownership.xids.get? k = some w → w = v := fun h hw =>
    Option.some.inj ((hw.symm.trans h).trans hv)
  have hstep : ∀ {β : Type} {step : Step σ δ β}, NotReplaced k v step.session →
      step.server.ownership.xids.get? k = some w → w = v ∨ ∃ e ∈ step.journal, e.Removes k :=
    fun h hw => (h w hw).imp_right fun ⟨e, he, hr⟩ => ⟨e, List.mem_reverse.mp he, hr⟩
  have hstart : StillOwned k v s.session := .inl hv
  cases op with
  | createVendor i =>
      rw [ownership_createVendor, hv] at hw
      exact .inl (Option.some.inj hw).symm
  | destroyVendor u =>
      rw [ownership_destroyVendor, hv] at hw
      exact .inl (Option.some.inj hw).symm
  | beginGeneration entry =>
      cases he : s.extension with
      | some e =>
          rw [Server.apply, Server.beginGeneration_of_some he] at hw
          exact .inl (hsame rfl hw)
      | none => exact .inr (.inr ⟨rfl, entry, rfl⟩)
  -- with the generation all owners are gone
  | endGeneration =>
      cases he : s.extension with
      | none =>
          rw [Server.apply, Server.endGeneration_of_none he] at hw
          exact .inl (hsame rfl hw)
      | some entry =>
          rw [Server.apply, Server.ownership_endGeneration he] at hw
          cases hw
  | serve c =>
      refine (hstep ?_ hw).imp_right .inl
      -- only the routed requests touch the owners themselves
      by_cases hrouted : s.extension ≠ none ∧ ∃ r ∈ routedRequests, c.minorOpcode = .ok r.opcode
      · obtain ⟨hne, r, hr, hm⟩ := hrouted
        refine Step.Leaves.session (hs.serve_leaves_of_routed hne hr hm
          ((routed_notReplaced hv).mono (fun _ _ h => h) ?_))
        rintro (e | a) y hy <;> exact hy
      · have hkept := hs.serve_keeps_of_unrouted (switchable_stillOwned s.environment k v) hstart
          fun hne r hr hm => hrouted ⟨hne, r, hr, hm⟩
        exact hkept.notReplaced
  | clientGone client => exact .inl (hsame rfl hw)
  | resourceFreed id =>
      rw [Server.apply, Server.resourceFreed, Ownership.get?_xids_removeXid] at hw
      split_ifs at hw
      exact .inl (hsame rfl hw)
  | perform program =>
      have hkept := Server.perform_upholds (switchable_stillOwned s.environment k v).upheld hstart
        program
      exact (hstep hkept.notReplaced hw).imp_right .inl
  | changeWorld change => exact .inl (hsame rfl hw)

/-! ### The ledger and the router -/

/-- If vendors leave alone what the request in progress creates or destroys, the ledger agrees with
the router. A request that fails leaves the resource that it names alone, zero is never owned, and
no owner is replaced by another. -/
theorem xids_eq_ledger {host : WindowSystem σ} {world : σ} {nestingLimit : Nat}
    {ops : List (Operation σ δ)} {s : Server σ δ}
    (h : (Server.new host world nestingLimit).Leads ops s)
    (hspared : ∀ before c after t, ops = before ++ .serve c :: after →
      (Server.new host world nestingLimit).Leads before t → t.SparesNamed c) :
    (∀ k, s.ownership.xids.get? k = (Server.new host world nestingLimit).ledger k none ops) ∧
    (∀ c d e k, (s.serve c).result = .ok (d, .error e) → s.SparesNamed c → c.Names k →
      (s.serve c).server.ownership.xids.get? k = s.ownership.xids.get? k) ∧
    s.ownership.xids.get? 0 = none ∧
    ∀ op k v w, s.ownership.xids.get? k = some v →
      (s.apply op).server.ownership.xids.get? k = some w →
        w = v ∨ (∃ e ∈ (s.apply op).journal, e.Removes k) ∨
          s.extension = none ∧ ∃ entry, op = .beginGeneration entry := by
  have hnew := Server.sound_new (δ := δ) host world nestingLimit
  refine ⟨fun k => ?_, fun c d e k he hc hk => ?_, ?_, fun op k v w => ?_⟩
  · induction h with
    | nil => rfl
    | @concat ops t op a h ha ih =>
        have hbefore := ih fun before c after u hops =>
          hspared before c (after ++ [op]) u (by rw [hops, List.append_assoc, List.cons_append])
        have hop : ∀ c, op = .serve c → t.SparesNamed c := by
          rintro c rfl
          exact hspared ops c [] t rfl h
        rw [h.ledger_concat, (h.sound hnew).apply_posted op ha hop, hbefore]
  · have hposted := (h.sound hnew).serve_posted he hc k
    rw [hposted, Server.posted]
    simp only [he]
    exact ownerAfter_of_spared (hc k hk)
  · clear hspared
    induction h with
    | nil => rfl
    | concat op a h _ ih => exact (h.sound hnew).apply_zero ih op
  · exact (h.sound hnew).apply_notReplaced op

/-! ### A context that is created -/

/-- A vendor made an export call. -/
def Event.IsExport : Event δ → Prop
  | .exported .. => True
  | _ => False

instance : DecidablePred (Event.IsExport (δ := δ)) := fun e =>
  match e with
  | .exported _ _ => .isTrue trivial
  | .called _ _ _ | .returned _ _ _ | .drawableAsked _ _ | .resourceAsked _ _ | .noted _ =>
    .isFalse id

lemma Event.Rebooks.isExport {e : Event δ} {k : Xid} (h : e.Rebooks k) : e.IsExport := by
  cases e with
  | exported => trivial
  | called | returned | drawableAsked | resourceAsked | noted => exact h

/-- A client asks for a new context on the only screen. -/
def askingContext : Client := .asking 7 Opcode.createContext [5, 33, 0, 0, 1]

/-- A generation with one vendor starts. -/
def singleStart : List (Operation Unit Nat) :=
  [.createVendor (.obliging 0 none), .beginGeneration .sample]

/-- The client's context is booked to the vendor of its screen. -/
theorem xids_eq_ledger_created :
    (Server.new (.blank 1) () 4).Leads (singleStart ++ [.serve askingContext])
        (Server.reached (singleStart ++ [.serve askingContext])) ∧
      (Server.new (.blank 1) () 4).ledger 5 none (singleStart ++ [.serve askingContext]) =
        some ⟨0⟩ := by
  have hlead : (Server.new (.blank 1) () 4).Leads (singleStart ++ [.serve askingContext])
      (Server.reached (singleStart ++ [.serve askingContext])) := .of_run (by decide +kernel)
  have hstart : (Server.new (.blank 1) () 4).Leads singleStart (Server.reached singleStart) :=
    .of_run (by decide +kernel)
  have hquiet : ∀ e ∈ ((Server.reached singleStart).serve askingContext).journal,
      ¬ e.IsExport := by decide +kernel
  have hspared : ∀ before c after t,
      singleStart ++ [.serve askingContext] = before ++ .serve c :: after →
      (Server.new (.blank 1) () 4).Leads before t → t.SparesNamed c := by
    intro before c after t hops ht
    rcases before with _ | ⟨a, _ | ⟨b, _ | ⟨d, before⟩⟩⟩
    · cases hops
    · cases hops
    · cases hops
      rw [ht.unique hstart]
      exact fun k _ e he hr => hquiet e he hr.isExport
    · have hlen := congrArg List.length hops
      simp [singleStart] at hlen
  have howner : (Server.reached (singleStart ++ [.serve askingContext])).ownership.xids.get? 5 =
      some ⟨0⟩ := by decide +kernel
  exact ⟨hlead, ((xids_eq_ledger hlead hspared).1 5).symm.trans howner⟩

end VendorDispatch
