import VendorDispatch.Proofs.Calm
import VendorDispatch.Proofs.Ledger
import VendorDispatch.Proofs.Offers
import VendorDispatch.Proofs.TagAllocation

/-!
The checks that the router makes on its own steps, and that none of them ever fails.

A bad request is answered by an error. Some steps cannot answer by one: an opcode is the place of an
entry, the end of a field is computed from its offset, a table of tags doubles, a tag is computed
from its place, an entry that was found has an owner, a field of a reply is written in place.
`Checked` is the service in which each of these steps breaks the work off by a panic where it cannot
be taken.

* `Checked.readWord?`, `Checked.storeAt?`, `Checked.allocate?`: the checked steps, and
  `Checked.serve`: the service that is made of them.
* `Passes`: from a given state, checked work does what the work without checks does, and neither
  panics.
* `Ownership.Roomy`: tables are numbered, and no client has so many live tags that its table could
  not double. No vendor can upset it (`kept_roomy`), nor can the release of a tag.
* `Checked.passes_makeCurrent`, `Checked.passes_routed`, `Checked.passes_target`: serving a request
  passes its checks.
* `Server.Reachable.checks_hold`: no request makes the router panic.
-/

namespace VendorDispatch

variable {σ δ α β : Type}

/-! ### Passing checks -/

section Passes

variable {ε S : Type} {e : ε} {s : S} {post : α → S → Prop}

/-- Started from `s`, the checked work does what the work without checks does: it returns a value
and a state with `post`, or stops, but not with the fault of a check that fails. -/
structure Passes (e : ε) (checked work : EStateM ε S α) (s : S) (post : α → S → Prop) : Prop where
  same : checked s = work s
  ends : Ends work s post fun e' _ => e' ≠ e

/-- Work without checks of its own. -/
lemma Passes.unchecked {work : EStateM ε S α} (h : Ends work s post fun e' _ => e' ≠ e) :
    Passes e work work s post :=
  ⟨rfl, h⟩

/-- Work without checks of its own. -/
lemma Avoids.passes {work : EStateM ε S α} (h : Avoids e work) (s : S) :
    Passes e work work s fun _ _ => True :=
  .unchecked (h s)

/-- Two pieces of work that pass their checks do so in a row. -/
lemma Passes.bind {x y : EStateM ε S β} {f g : β → EStateM ε S α} {mid : β → S → Prop}
    (h : Passes e x y s mid) (hf : ∀ b t, mid b t → Passes e (f b) (g b) t post) :
    Passes e (x >>= f) (y >>= g) s post := by
  obtain ⟨hsame, hends⟩ := h
  refine ⟨?_, ends_bind.mpr (hends.mono (fun b t ht => (hf b t ht).ends) fun _ _ => id)⟩
  rw [Ends] at hends
  simp only [Bind.bind, EStateM.bind, hsame]
  cases hy : y s with
  | error e' t => rfl
  | ok b t =>
      rw [hy] at hends
      exact (hf b t hends).same

end Passes

/-! ### The service with its checks -/

namespace Checked

/-- Goes on with a value that has to be there. -/
def require : Option α → SessionM σ δ α
  | some a => return a
  | none => SessionM.panic

/-- The 32-bit number at a byte offset of a client's request, if the field ends inside the address
space and each of its bytes is there. -/
def readWord? (c : Client) (offset : Nat) : Option (Except ProtocolError UInt32) :=
  if fieldAddressable offset then
    match slice? c.request offset 4 with
    | none => some (.error .badLength)
    | some bs => do
      let bytes ← [0, 1, 2, 3].mapM fun i => bs[i]?
      some (.ok (UInt32.ofNat (c.byteOrder.decode bytes)))
  else
    none

/-- The 32-bit number at a byte offset of the request. -/
def readWord (offset : Nat) : ExchangeM σ δ UInt32 := do
  let c ← ExchangeM.client
  ExchangeM.ofExcept (← ExchangeM.onSession (require (readWord? c offset)))

/-! #### Tags -/

/-- The tag of a place, if there is one. -/
def tagAt? (i : Nat) : Option ContextTag :=
  if i + 1 < UInt32.size then some (TagTable.tagAt i) else none

/-- Claims the tag of a place for a vendor, if the table has the place and the place has a tag. -/
def claim? (t : TagTable δ) (i : Nat) (vendor : VendorId) : Option (ContextTag × TagTable δ) :=
  if i < t.capacity then
    (tagAt? i).map fun tag => (tag, ⟨t.entries.set i (.claimed tag vendor)⟩)
  else
    none

/-- A full table after it has grown, if its entries can be counted and each new one has a tag. -/
def grow? (t : TagTable δ) : Option (TagTable δ) :=
  if t.grownCapacity < addressSpace then do
    let new ← (List.range' t.capacity (t.grownCapacity - t.capacity)).mapM tagAt?
    some ⟨t.entries ++ new.map TagInfo.empty⟩
  else
    none

/-- Claims the lowest free tag for a vendor. -/
def allocate? (t : TagTable δ) (vendor : VendorId) : Option (ContextTag × TagTable δ) :=
  match t.entries.findIdx? TagInfo.isFree with
  | some i => claim? t i vendor
  | none => do claim? (← grow? t) t.capacity vendor

/-! #### Making a context current -/

/-- Reads a request to make a context current. -/
def read : MakeCurrent.Encoding → ExchangeM σ δ MakeCurrent.Switch
  | .oneDrawable => do
    let drawable ← readWord 4
    let context ← readWord 8
    let oldTag ← readWord 12
    return { oldTag, drawable, readDrawable := drawable, context }
  | .twoDrawables => do
    let oldTag ← readWord 4
    let drawable ← readWord 8
    let readDrawable ← readWord 12
    let context ← readWord 16
    return { oldTag, drawable, readDrawable, context }
  | .vendorPrivate => do
    let oldTag ← readWord 8
    let drawable ← readWord 12
    let readDrawable ← readWord 16
    let context ← readWord 20
    return { oldTag, drawable, readDrawable, context }

variable (env : Environment σ δ)

/-- Asks the owner of a tag to release it. The tag has to have an owner. -/
def release (old : TagInfo δ) : ExchangeM σ δ Unit := do
  let vendor ← ExchangeM.onSession (require old.owner)
  discard (MakeCurrent.ask env vendor old.toRelease)
  ExchangeM.modifyTags fun t => t.free old.tag

/-- Claims a tag of the client for a vendor. -/
def claimTag (vendor : VendorId) : ExchangeM σ δ ContextTag := do
  let c ← ExchangeM.client
  let o ← ExchangeM.onSession SessionM.ownership
  let (tag, t) ← ExchangeM.onSession (require (allocate? (o.tagsOf c.id) vendor))
  ExchangeM.onSession (SessionM.setOwnership (o.setTags c.id t))
  return tag

/-- Asks a vendor to bind under a new tag. -/
def bind (vendor : VendorId) (q : MakeCurrent.Switch) : ExchangeM σ δ ContextTag := do
  let tag ← claimTag vendor
  match ← ExchangeM.attempt (MakeCurrent.ask env vendor (q.toBind tag)) with
  | .ok data =>
    ExchangeM.modifyTags fun t => t.modify tag (q.bound data)
    return tag
  | .error e =>
    ExchangeM.modifyTags fun t => t.free tag
    ExchangeM.fail e

/-- Lets go of the old tag and binds the new context. -/
def switchTo (q : MakeCurrent.Switch) (old : Option (TagInfo δ)) (vendor : Option VendorId) :
    ExchangeM σ δ ContextTag := do
  if let some e := old then
    release env e
  match vendor with
  | some v => bind env v q
  | none => return 0

/-- The tag that answers the request. -/
def newTag (q : MakeCurrent.Switch) (old : Option (TagInfo δ)) (vendor : Option VendorId) :
    ExchangeM σ δ ContextTag :=
  match old, vendor with
  | some e, some _ => if q.isHeldBy e then return e.tag else switchTo env q old vendor
  | _, _ => switchTo env q old vendor

/-- Serves a request to make a context current. -/
def makeCurrent (encoding : MakeCurrent.Encoding) : ExchangeM σ δ Unit := do
  let q ← read encoding
  let old ← MakeCurrent.oldEntry q.oldTag
  let vendor ← MakeCurrent.newVendor env q.context
  let tag ← newTag env q old vendor
  ExchangeM.sendReply [(8, tag)]

/-! #### Handing requests on -/

/-- A request from opcode 100 up goes to the owner of its tag. -/
def single : ExchangeM σ δ Unit := do
  let tag ← readWord 4
  Forwarding.forward env (← Forwarding.tagVendor tag)

/-- A request goes to the owner of its tag, or of a resource when the tag is zero. -/
def tagOrXid (tag : ContextTag) (id : Xid) (e : ProtocolError) : ExchangeM σ δ Unit := do
  if tag ≠ 0 then
    Forwarding.forward env (← Forwarding.tagVendor tag)
  else
    Forwarding.forward env (← Forwarding.xidVendor env id e)

/-- Copying between contexts. -/
def copyContext : ExchangeM σ δ Unit := do
  let source ← readWord 4
  let tag ← readWord 16
  tagOrXid env tag source (.extension .badContext)

/-- Swapping buffers. -/
def swapBuffers : ExchangeM σ δ Unit := do
  let tag ← readWord 4
  let drawable ← readWord 8
  tagOrXid env tag drawable (.extension .badDrawable)

/-- The id of the resource that a routed request creates. -/
def newXid (r : RoutedRequest) : ExchangeM σ δ (Option Xid) := do
  match r.adds with
  | none => return none
  | some offset =>
    let id ← readWord offset
    let c ← ExchangeM.client
    if ← ExchangeM.onSession (env.legalNewResource id c) then
      return some id
    else
      ExchangeM.failAt id .badIDChoice

/-- The id of the resource that a routed request destroys. -/
def oldXid (r : RoutedRequest) : ExchangeM σ δ (Option Xid) := do
  match r.removes with
  | none => return none
  | some offset => return some (← readWord offset)

/-- Serves a routed request. -/
def routed (r : RoutedRequest) : ExchangeM σ δ Unit := do
  let field ← readWord r.offset
  let created ← newXid env r
  match ← r.owner env field with
  | none => ExchangeM.failAt field r.failsWith
  | some vendor =>
    let destroyed ← oldXid r
    if let some id := created then
      unless ← ExchangeM.onSession (env.addXid id vendor) do
        ExchangeM.fail .badAlloc
    match ← ExchangeM.attempt (Forwarding.forward env vendor) with
    | .ok () =>
      if let some id := destroyed then
        ExchangeM.onSession (Environment.removeXid id)
    | .error e =>
      if let some id := created then
        ExchangeM.onSession (Environment.removeXid id)
      ExchangeM.fail e

/-- Serves the current request of the client by what was found for it. -/
def target : Target σ δ → ExchangeM σ δ Unit
  | .makeCurrent encoding => makeCurrent env encoding
  | .copyContext => copyContext env
  | .swapBuffers => swapBuffers env
  | .single => single env
  | .routed r => routed env r
  | t => t.serve env

/-! #### Finding what serves a request -/

/-- Stores a value at a place that has to be there. -/
def storeAt? {n : Nat} (v : Vector α n) (i : Nat) (a : α) : Option (Vector α n) :=
  if h : i < n then some (v.set i a h) else none

/-- The entry of an opcode, learned from the vendors if it is not known. -/
def resolveOpcode (d : Dispatcher σ δ) (minor : UInt8) :
    SessionM σ δ (OpcodeEntry σ δ × Dispatcher σ δ) := do
  match ← require d.opcodes[minor.toNat]? with
  | some entry => return (entry, d)
  | none =>
    let target ← Dispatcher.query env minor 0
    let opcodes ← require (storeAt? d.opcodes minor.toNat (some (.target target)))
    return (.target target, { d with opcodes, queries := d.queries + 1 })

/-- The target of a client's current request. -/
def resolve (d : Dispatcher σ δ) (c : Client) :
    SessionM σ δ (Except ProtocolError (Target σ δ) × Dispatcher σ δ) := do
  match c.minorOpcode with
  | .error e => return (.error e, d)
  | .ok minor =>
    if minor.toNat < opcodeCount then
      match ← resolveOpcode env d minor with
      | (.target target, d) => return (.ok target, d)
      | (.byVendorCode, d) =>
        match ← require (readWord? c 4) with
        | .error e => return (.error e, d)
        | .ok code =>
          let (target, d) ← Dispatcher.resolveCode env d minor code
          return (.ok target, d)
    else
      return (.ok .single, d)

/-- Serves the current request of a client. -/
def serve (s : Server σ δ) (c : Client) : Step σ δ (Client × Except ProtocolError Unit) :=
  match s.extension with
  | none => ⟨.ok (c, .error .badRequest), [], s⟩
  | some _ =>
    match resolve s.environment s.dispatcher c s.session with
    | .error a t => ⟨.error a, t.journal.reverse, s.withSession t⟩
    | .ok (found, d) t =>
      let work : ExchangeM σ δ Unit := do
        target s.environment (← ExchangeM.ofExcept found)
      { s with dispatcher := d }.answered (work ⟨c, t⟩)

end Checked

/-! ### Room for tags -/

/-- The table is numbered, and has so few live tags that it may double and still have a tag for
every place. -/
structure TagTable.Roomy (t : TagTable δ) : Prop where
  numbered : t.Numbered
  liveCount_lt : t.liveCount < 2 ^ 31

/-- Every client has a table with room. -/
def Ownership.Roomy (o : Ownership δ) : Prop := ∀ client, (o.tagsOf client).Roomy

lemma TagTable.Roomy.free {t : TagTable δ} (h : t.Roomy) (tag : ContextTag) :
    (t.free tag).Roomy where
  numbered := h.numbered.free tag
  liveCount_lt := Nat.lt_of_le_of_lt (t.liveCount_free_le tag) h.liveCount_lt

lemma Ownership.Roomy.free {o : Ownership δ} (h : o.Roomy) (client : ClientId) (tag : ContextTag) :
    (o.modifyTags client fun t => t.free tag).Roomy := by
  intro d
  rw [tagsOf_modifyTags]
  split_ifs
  · exact (h client).free tag
  · exact h d

/-- No vendor can use up the room. -/
lemma kept_roomy (env : Environment σ δ) : env.Kept fun s => s.ownership.Roomy :=
  kept_tables env fun t tag data h =>
    ⟨h.numbered.modify tag fun _ => rfl,
      (t.liveCount_modify tag (f := fun e => { e with data }) fun _ => rfl).symm ▸ h.liveCount_lt⟩

namespace Checked

lemma tagAt?_of_lt {i : Nat} (h : i + 1 < UInt32.size) : tagAt? i = some (TagTable.tagAt i) :=
  if_pos h

/-- Places that are in range all have a tag. -/
lemma mapM_tagAt?_of_forall_lt {places : List Nat} (h : ∀ i ∈ places, i + 1 < UInt32.size) :
    places.mapM tagAt? = some (places.map TagTable.tagAt) := by
  induction places with
  | nil => rfl
  | cons i places ih =>
      rw [List.mapM_cons, tagAt?_of_lt (h i List.mem_cons_self),
        ih fun j hj => h j (List.mem_cons_of_mem _ hj)]
      rfl

section Table

variable {t : TagTable δ} {vendor : VendorId}

/-- A place of the table that has a tag can be claimed. -/
lemma claim?_of_lt {i : Nat} (hi : i < t.capacity) (hs : i + 1 < UInt32.size) :
    claim? t i vendor = some (t.claim i vendor) := by
  rw [claim?, if_pos hi, tagAt?_of_lt hs]
  rfl

/-- A table that may double has a tag for every new place. -/
lemma grow?_of_lt (h : t.grownCapacity < UInt32.size) : grow? t = some t.grown := by
  have hspace : t.grownCapacity < addressSpace := Nat.lt_trans h (by decide)
  have hnew : ∀ i ∈ List.range' t.capacity (t.grownCapacity - t.capacity), i + 1 < UInt32.size := by
    intro i hi
    rw [List.mem_range'_1] at hi
    omega
  rw [grow?, if_pos hspace, mapM_tagAt?_of_forall_lt hnew, TagTable.grown]
  simp only [Option.bind_eq_bind, Option.bind_some, List.map_map]
  rfl

/-- A table with room has a tag to hand out, and passes every check on the way. -/
lemma allocate?_of_roomy (h : t.Roomy) (vendor : VendorId) :
    allocate? t vendor = t.allocate? vendor ∧ (t.allocate? vendor).isSome = true := by
  have hcap := h.numbered.capacity_lt
  -- A full table has no more entries than live tags, so twice as many still have a tag each.
  have hgrown (hfull : t.liveCount = t.capacity) : t.grownCapacity < UInt32.size := by
    have hlive := h.liveCount_lt
    have hsize : UInt32.size = 2 ^ 32 := rfl
    rw [TagTable.grownCapacity, TagTable.initialCapacity]
    split_ifs <;> omega
  rw [allocate?, TagTable.allocate?]
  cases hfree : t.entries.findIdx? TagInfo.isFree with
  | some i =>
      have hi : i < t.capacity := (List.findIdx?_eq_some_iff_getElem.mp hfree).1
      exact ⟨claim?_of_lt hi (by omega), rfl⟩
  | none =>
      have hsize := hgrown (TagTable.liveCount_eq_capacity hfree)
      have hnew : t.capacity < t.grown.capacity := t.capacity_grown ▸ t.capacity_lt_grownCapacity
      dsimp only
      rw [grow?_of_lt hsize, if_pos hsize]
      have hlt := t.capacity_lt_grownCapacity
      exact ⟨claim?_of_lt hnew (by omega), rfl⟩

end Table

/-! ### Reading requests -/

lemma readWord?_of_fieldAddressable {offset : Nat} (h : fieldAddressable offset = true)
    (c : Client) : readWord? c offset = some (c.readWord offset) := by
  rw [readWord?, if_pos h, Client.readWord]
  cases hs : slice? c.request offset 4 with
  | none => rfl
  | some bs =>
      obtain ⟨a, b, d, e, rfl⟩ := List.length_eq_four.mp (length_of_slice? hs)
      rfl

/-- A field whose end can be computed is read with its check. -/
lemma passes_readWord {offset : Nat} (h : fieldAddressable offset = true) (x : Exchange σ δ) :
    Passes .panicked (readWord offset) (ExchangeM.readWord offset) x fun _ y => y = x := by
  refine ⟨?_, ends_readWord.mpr ?_⟩
  · simp only [readWord, readWord?_of_fieldAddressable h]
    rfl
  · cases x.client.readWord offset with
    | ok v => rfl
    | error e => nofun

lemma passes_read (encoding : MakeCurrent.Encoding) (x : Exchange σ δ) :
    Passes .panicked (read encoding) (MakeCurrent.read encoding) x fun _ y => y = x := by
  cases encoding with
  | oneDrawable =>
      refine (passes_readWord (by decide) x).bind ?_
      rintro drawable _ rfl
      refine (passes_readWord (by decide) _).bind ?_
      rintro context _ rfl
      refine (passes_readWord (by decide) _).bind ?_
      rintro oldTag _ rfl
      exact .unchecked rfl
  | twoDrawables | vendorPrivate =>
      refine (passes_readWord (by decide) x).bind ?_
      rintro oldTag _ rfl
      refine (passes_readWord (by decide) _).bind ?_
      rintro drawable _ rfl
      refine (passes_readWord (by decide) _).bind ?_
      rintro readDrawable _ rfl
      refine (passes_readWord (by decide) _).bind ?_
      rintro context _ rfl
      exact .unchecked rfl

/-! ### Making a context current -/

section Switch

variable {env : Environment σ δ} (hv : env.registry.NeverPanics)

/-- To claim a tag passes its checks, as long as there is room to number them. -/
lemma passes_claimTag (vendor : VendorId) {x : Exchange σ δ} (hx : x.session.ownership.Roomy) :
    Passes .panicked (claimTag vendor) (MakeCurrent.claimTag vendor) x fun _ _ => True := by
  obtain ⟨hsame, hsome⟩ := allocate?_of_roomy (hx x.client.id) vendor
  obtain ⟨⟨tag, t⟩, ha⟩ := Option.isSome_iff_exists.mp hsome
  have hclient : Ends ExchangeM.client x (fun c y => c = x.client ∧ y = x)
      fun f _ => f ≠ .panicked := ⟨rfl, rfl⟩
  refine (Passes.unchecked hclient).bind ?_
  rintro _ y ⟨rfl, rfl⟩
  have howners : Ends (ExchangeM.onSession SessionM.ownership) y
      (fun o z => o = y.session.ownership ∧ z = y) fun f _ => f ≠ .panicked := ⟨rfl, rfl⟩
  refine (Passes.unchecked howners).bind ?_
  rintro _ z ⟨rfl, rfl⟩
  rw [hsame, Ownership.allocateTag?, ha]
  exact ⟨rfl, trivial⟩

/-- What stands behind a live tag has an owner. -/
lemma passes_oldEntry (tag : ContextTag) {x : Exchange σ δ} (hx : x.session.ownership.Roomy) :
    Passes .panicked (MakeCurrent.oldEntry tag) (MakeCurrent.oldEntry tag) x fun old y =>
      y.session.ownership.Roomy ∧ ∀ e, old = some e → e.owner.isSome = true := by
  refine .unchecked (MakeCurrent.ends_oldEntry.mpr ?_)
  split_ifs
  · exact ⟨hx, nofun⟩
  · cases he : x.session.ownership.lookupTag x.client.id tag with
    | none => nofun
    | some e =>
        refine ⟨hx, ?_⟩
        rintro _ ⟨⟩
        exact Ownership.isSome_owner_of_lookupTag he

lemma passes_newVendor (context : Xid) {x : Exchange σ δ} (hx : x.session.ownership.Roomy) :
    Passes .panicked (MakeCurrent.newVendor env context) (MakeCurrent.newVendor env context) x
      fun _ y => y.session.ownership.Roomy := by
  refine .unchecked (MakeCurrent.ends_newVendor.mpr ?_)
  split_ifs
  · exact hx
  · cases env.ownerOfXid x.session context with
    | none => nofun
    | some v =>
        dsimp only
        rw [Exchange.session_withSession, Session.ownership_lookedUp]
        exact hx

include hv

lemma passes_bind (vendor : VendorId) (q : MakeCurrent.Switch) {x : Exchange σ δ}
    (hx : x.session.ownership.Roomy) :
    Passes .panicked (bind env vendor q) (MakeCurrent.bind env vendor q) x fun _ _ => True := by
  refine (passes_claimTag vendor hx).bind fun tag y _ => Avoids.passes ?_ y
  refine (avoids_attempt (avoids_ask hv vendor (q.toBind tag))).bind fun asked => ?_
  rcases asked with e | data
  · exact (avoids_modifyTags _).bind fun _ => avoids_fail e
  · exact (avoids_modifyTags _).bind fun _ => .pure tag

/-- The tag of an entry that has an owner is released, and the tables still have room. -/
lemma passes_release {old : TagInfo δ} (hold : old.owner.isSome = true) {x : Exchange σ δ}
    (hx : x.session.ownership.Roomy) :
    Passes .panicked (release env old) (MakeCurrent.release env old) x
      fun _ y => y.session.ownership.Roomy := by
  obtain ⟨v, hold⟩ := Option.isSome_iff_exists.mp hold
  have hsame : release env old = MakeCurrent.release env old := by
    rw [release, MakeCurrent.release, hold]
    rfl
  have havoids : Avoids .panicked (MakeCurrent.release env old) := by
    rw [MakeCurrent.release, hold]
    exact (avoids_ask hv v _).discard.bind fun _ => avoids_modifyTags _
  have hkeeps := MakeCurrent.keeps_release (kept_roomy env).upheld (fun _ _ _ _ _ h => h)
    (fun _ _ _ _ _ h => h) (fun _ client tag h => Ownership.Roomy.free h client tag) old x hx
  rw [hsame]
  exact .unchecked ((hkeeps.and (havoids x)).mono (fun _ _ h => h.1) fun _ _ h => h.2)

/-- The vendors of a switch are asked without a failing check. -/
lemma passes_switchTo (q : MakeCurrent.Switch) {old : Option (TagInfo δ)}
    (hold : ∀ e, old = some e → e.owner.isSome = true) (vendor : Option VendorId)
    {x : Exchange σ δ} (hx : x.session.ownership.Roomy) :
    Passes .panicked (switchTo env q old vendor) (MakeCurrent.switchTo env q old vendor) x
      fun _ _ => True := by
  have hnew : ∀ y : Exchange σ δ, y.session.ownership.Roomy →
      Passes .panicked (match vendor with | some v => bind env v q | none => pure 0)
        (match vendor with | some v => MakeCurrent.bind env v q | none => pure 0) y
        fun _ _ => True := by
    intro y hy
    cases vendor with
    | none => exact (Avoids.pure 0).passes y
    | some v => exact passes_bind hv v q hy
  cases old with
  | none => exact hnew x hx
  | some e => exact (passes_release hv (hold e rfl) hx).bind fun _ y hy => hnew y hy

lemma passes_newTag (q : MakeCurrent.Switch) {old : Option (TagInfo δ)}
    (hold : ∀ e, old = some e → e.owner.isSome = true) (vendor : Option VendorId)
    {x : Exchange σ δ} (hx : x.session.ownership.Roomy) :
    Passes .panicked (newTag env q old vendor) (MakeCurrent.newTag env q old vendor) x
      fun _ _ => True := by
  have hswitch := passes_switchTo hv q hold vendor hx
  rcases old with _ | e
  · exact hswitch
  · rcases vendor with _ | v
    · exact hswitch
    · rw [newTag, MakeCurrent.newTag]
      split_ifs
      · exact (Avoids.pure e.tag).passes x
      · exact hswitch

/-- Making a context current passes its checks: the entry of a live tag has an owner, and there is
room for the new tag. -/
lemma passes_makeCurrent (encoding : MakeCurrent.Encoding) {x : Exchange σ δ}
    (hx : x.session.ownership.Roomy) :
    Passes .panicked (makeCurrent env encoding) (MakeCurrent.serve env encoding) x
      fun _ _ => True := by
  refine (passes_read encoding x).bind ?_
  rintro q x rfl
  refine (passes_oldEntry q.oldTag hx).bind fun old y ⟨hy, hold⟩ => ?_
  refine (passes_newVendor q.context hy).bind fun vendor z hz => ?_
  refine (passes_newTag hv q hold vendor hz).bind fun tag w _ => ?_
  exact (avoids_sendReply (by simp [Reply.HasRoom, Reply.size])).passes w

end Switch

/-! ### Handing requests on -/

section HandOn

variable {env : Environment σ δ}

/-- What a request creates is read with its check. -/
lemma passes_newXid {r : RoutedRequest} (hr : ∀ offset ∈ r.adds, fieldAddressable offset = true)
    (x : Exchange σ δ) :
    Passes .panicked (newXid env r) (r.newXid env) x fun _ _ => True := by
  rw [newXid, RoutedRequest.newXid]
  cases ha : r.adds with
  | none => exact (Avoids.pure none).passes x
  | some offset =>
      refine (passes_readWord (hr offset ha) x).bind fun id y _ => Avoids.passes ?_ y
      have hlegal (c : Client) : Avoids .panicked (env.legalNewResource id c) := fun _ => trivial
      refine avoids_client.bind fun c => (avoids_onSession (hlegal c)).bind fun legal => ?_
      split_ifs
      · exact .pure _
      · exact avoids_failAt _ _

lemma passes_oldXid {r : RoutedRequest} (hr : ∀ offset ∈ r.removes, fieldAddressable offset = true)
    (x : Exchange σ δ) :
    Passes .panicked (oldXid r) r.oldXid x fun _ _ => True := by
  rw [oldXid, RoutedRequest.oldXid]
  cases hd : r.removes with
  | none => exact (Avoids.pure none).passes x
  | some offset =>
      exact (passes_readWord (hr offset hd) x).bind fun id y _ => (Avoids.pure (some id)).passes y

variable (hv : env.registry.NeverPanics)

include hv

lemma passes_single (x : Exchange σ δ) :
    Passes .panicked (single env) (Forwarding.single env) x fun _ _ => True :=
  (passes_readWord (by decide) x).bind fun tag y _ =>
    ((avoids_tagVendor tag).bind fun v => avoids_forward hv v).passes y

lemma avoids_tagOrXid (tag : ContextTag) (id : Xid) (e : ProtocolError) :
    Avoids .panicked (tagOrXid env tag id e) := by
  rw [tagOrXid]
  split_ifs
  · exact (avoids_tagVendor tag).bind fun v => avoids_forward hv v
  · exact (avoids_xidVendor id e).bind fun v => avoids_forward hv v

lemma passes_copyContext (x : Exchange σ δ) :
    Passes .panicked (copyContext env) (Forwarding.copyContext env) x fun _ _ => True :=
  (passes_readWord (by decide) x).bind fun source y _ =>
    (passes_readWord (by decide) y).bind fun tag z _ => (avoids_tagOrXid hv tag source _).passes z

lemma passes_swapBuffers (x : Exchange σ δ) :
    Passes .panicked (swapBuffers env) (Forwarding.swapBuffers env) x fun _ _ => True :=
  (passes_readWord (by decide) x).bind fun tag y _ =>
    (passes_readWord (by decide) y).bind fun drawable z _ =>
      (avoids_tagOrXid hv tag drawable _).passes z

/-- Serving a routed request passes its checks: all fields of such requests can be addressed. -/
lemma passes_routed {r : RoutedRequest} (hr : r ∈ routedRequests) (x : Exchange σ δ) :
    Passes .panicked (routed env r) (r.serve env) x fun _ _ => True := by
  -- a fact about the list of routed requests
  have haddressable : ∀ r ∈ routedRequests, fieldAddressable r.offset = true ∧
      (∀ offset ∈ r.adds, fieldAddressable offset = true) ∧
      ∀ offset ∈ r.removes, fieldAddressable offset = true := by decide
  obtain ⟨hfield, hadds, hremoves⟩ := haddressable r hr
  have hforget (id : Xid) : Avoids .panicked
      (ExchangeM.onSession (Environment.removeXid id) : ExchangeM σ δ Unit) :=
    avoids_onSession fun _ => trivial
  refine (passes_readWord hfield x).bind fun field y _ =>
    (passes_newXid hadds y).bind fun created z _ =>
      ((avoids_owner r field).passes z).bind fun owner u _ => ?_
  cases owner with
  | none => exact (avoids_failAt _ _).passes u
  | some vendor =>
      refine (passes_oldXid hremoves u).bind fun destroyed w _ => Avoids.passes ?_ w
      -- to call the vendor and to remove what failed or is gone checks nothing
      have hforward : Avoids .panicked (do
          match ← ExchangeM.attempt (Forwarding.forward env vendor) with
          | .ok () =>
            if let some id := destroyed then
              ExchangeM.onSession (Environment.removeXid id)
          | .error e =>
            if let some id := created then
              ExchangeM.onSession (Environment.removeXid id)
            ExchangeM.fail e : ExchangeM σ δ Unit) := by
        refine (avoids_attempt (avoids_forward hv vendor)).bind fun result => ?_
        rcases result with e | _
        · cases created with
          | none => exact avoids_fail e
          | some id => exact (hforget id).bind fun _ => avoids_fail e
        · cases destroyed with
          | none => exact .pure _
          | some id => exact hforget id
      cases created with
      | none => exact hforward
      | some id =>
          refine (avoids_onSession (avoids_addXid id vendor)).bind fun added => ?_
          cases added with
          | false => exact (avoids_fail _).bind fun _ => hforward
          | true => exact hforward

/-- Serving a target passes its checks, if a learned handler is one that never panics. -/
lemma passes_target {t : Target σ δ} (hrouted : ∀ r, t = .routed r → r ∈ routedRequests)
    (hlearned : ∀ p, t = .procedure p → ∀ c, (p.run c).NeverPanics) {x : Exchange σ δ}
    (hx : x.session.ownership.Roomy) :
    Passes .panicked (target env t) (t.serve env) x fun _ _ => True := by
  cases t with
  | version => exact (avoids_sendReply (by simp [Reply.HasRoom, Reply.size])).passes x
  | makeCurrent encoding => exact passes_makeCurrent hv encoding hx
  | copyContext => exact passes_copyContext hv x
  | swapBuffers => exact passes_swapBuffers hv x
  | clientInfo => exact (avoids_broadcast hv).passes x
  | single => exact passes_single hv x
  | routed r => exact passes_routed hv (hrouted r rfl) x
  | procedure p =>
      have hwork : Avoids .panicked ((Target.procedure p).serve env) :=
        avoids_onClient fun c => avoids_calling (.procedure p.minor p.code c)
          (avoids_interpret hv (hlearned p rfl c))
      exact hwork.passes x
  | unclaimed => exact (avoids_fail _).passes x

end HandOn

/-! ### Finding what serves a request -/

/-- The table of opcodes is looked up within its bounds. -/
lemma resolveOpcode_eq (env : Environment σ δ) (d : Dispatcher σ δ) {minor : UInt8}
    (hi : minor.toNat < opcodeCount) :
    resolveOpcode env d minor = Dispatcher.resolveOpcode env d minor hi := by
  rw [resolveOpcode, Dispatcher.resolveOpcode, Vector.getElem?_eq_getElem hi]
  cases d.opcodes[minor.toNat] with
  | some entry => rfl
  | none =>
      simp only [storeAt?, dif_pos hi]
      rfl

/-- Finding what serves a request passes its checks: only opcodes that have a place in the table are
looked up there. -/
lemma resolve_eq (env : Environment σ δ) (d : Dispatcher σ δ) (c : Client) :
    resolve env d c = d.resolve env c := by
  rw [resolve, Dispatcher.resolve]
  cases c.minorOpcode with
  | error e => rfl
  | ok minor =>
      by_cases hi : minor.toNat < opcodeCount
      · simp only [if_pos hi, dif_pos hi, resolveOpcode_eq env d hi,
          readWord?_of_fieldAddressable (show fieldAddressable 4 = true by decide)]
        rfl
      · simp only [if_neg hi, dif_neg hi]

end Checked

/-! ### Every request -/

/-- What holds of every table that is stored, and of one without entries, holds of every client. -/
lemma Ownership.forall_tagsOf {o : Ownership δ} {P : TagTable δ → Prop} (hempty : P {})
    (hstored : ∀ e ∈ o.clients.entries, P e.2) (client : ClientId) : P (o.tagsOf client) := by
  rw [tagsOf, tagsOf?, Assoc.get?]
  cases he : o.clients.entries.find? fun e => e.1 = client with
  | none => exact hempty
  | some e => exact hstored e (List.mem_of_find?_eq_some he)

lemma VendorInterface.neverPanics_obliging (screen : Nat) (data : Option δ) :
    (obliging screen data).NeverPanics where
  handleRequest := by
    rintro handler ⟨⟩ c
    trivial
  makeCurrent := by
    rintro handler ⟨⟩ c q
    trivial
  offers := by
    rintro offer ⟨⟩ minor code w handler ⟨⟩

namespace Server

variable {s : Server σ δ}

/-- An operation that ends with work that does not panic is not broken off by a panic. -/
lemma answered_ne_panicked {work : ExchangeM σ δ Unit} {x : Exchange σ δ}
    (h : Ends work x (fun _ _ => True) fun f _ => f ≠ .panicked) :
    (s.answered (work x)).result ≠ .error .panicked := by
  rw [Ends] at h
  intro hresult
  rcases hw : work x with ⟨_, y⟩ | ⟨e | a, y⟩ <;> rw [hw] at h hresult <;> cases hresult
  exact h rfl

/-- No request makes the router panic, as long as no client holds so many tags that its table could
not double: whatever the bytes of the request are, none of the checks on the way fails, so that the
service with all of them and the one without do the same. Vendors are taken not to panic. -/
theorem Reachable.checks_hold (hs : s.Reachable) (hv : s.registry.NeverPanics)
    (hroom : ∀ client, (s.ownership.tagsOf client).liveCount < 2 ^ 31) (c : Client) :
    Checked.serve s c = s.serve c ∧ (s.serve c).result ≠ .error .panicked := by
  have hoffered := hs.knowsOffered
  have hsound := hoffered.sound
  have hroomy : s.ownership.Roomy := fun client => ⟨hsound.ownership.tags client, hroom client⟩
  cases he : s.extension with
  | none =>
      have hidle : s.serve c = ⟨.ok (c, .error .badRequest), [], s⟩ := by rw [serve, he]
      rw [Checked.serve, he, hidle]
      refine ⟨rfl, ?_⟩
      rintro ⟨⟩
  | some entry =>
      have hne : s.extension ≠ none := he ▸ Option.some_ne_none entry
      -- Vendors that are asked who serves the request get hold of no tag.
      have hfind : Ends (s.dispatcher.resolve s.environment c) s.session _ _ :=
        hsound.dispatcher.resolve (s.environment.surveyed_ownership s.ownership) hsound.active c rfl
      have hfound : Ends (s.dispatcher.resolve s.environment c) s.session _ _ :=
        Dispatcher.resolve_offered (fun p hp => (hoffered.offered p hp).2) c s.session
      obtain ⟨⟨found, d⟩, t, hr, ⟨ht, -, hsuits⟩, -, hlearned⟩ :=
        ((hfind.and hfound).mono (fun _ _ => id) fun _ _ h => h.2).exists_ok
      have hpasses : Passes .panicked
          (do Checked.target s.environment (← ExchangeM.ofExcept found))
          (serveFound s.environment found) ⟨c, t⟩ fun _ _ => True := by
        rcases found with e | target
        · exact (avoids_fail e).passes _
        · refine Checked.passes_target hv (fun r hq => ((hsuits target rfl).routed r hq).1) ?_
            (ht.symm ▸ hroomy)
          rintro p rfl
          obtain ⟨-, i, offer, w, hi, ho, hrun⟩ := hlearned p rfl
          exact (hv p.vendor i hi).offers offer ho p.minor p.code w p.run hrun
      have hchecked : Checked.serve s c = { s with dispatcher := d }.answered
          ((do Checked.target s.environment (← ExchangeM.ofExcept found) : ExchangeM σ δ Unit)
            ⟨c, t⟩) := by
        rw [Checked.serve, he]
        simp only [Checked.resolve_eq, hr]
      rw [hchecked, hpasses.same, serve_of_resolve hne hr]
      exact ⟨rfl, answered_ne_panicked hpasses.ends⟩

/-- A client makes a context current, and lets go of nothing. -/
def askingCurrent : Client := .asking 7 Opcode.makeCurrent [6, 5, 0]

/-- The same request with bytes to spare. -/
def askingMore : Client := { askingCurrent with request := askingCurrent.request ++ [1, 2, 3] }

/-- A client takes as many tags as its table has entries. -/
def crowding : List (Operation Unit Nat) :=
  singleStart ++ .serve askingContext :: List.replicate 16 (.serve askingCurrent)

/-- The client asks for one tag more, and its table doubles. -/
theorem Reachable.checks_hold_growing :
    (reached crowding).Reachable ∧ (reached crowding).registry.NeverPanics ∧
      (∀ client, ((reached crowding).ownership.tagsOf client).liveCount < 2 ^ 31) ∧
      ((reached crowding).ownership.tagsOf ⟨7⟩).capacity = 16 ∧
      Checked.serve (reached crowding) askingMore = (reached crowding).serve askingMore ∧
      ((reached crowding).serve askingMore).result ≠ .error .panicked ∧
      (((reached crowding).serve askingMore).server.ownership.tagsOf ⟨7⟩).capacity = 32 := by
  have hlead : (Server.new (.blank 1) () 4).Leads crowding (reached crowding) :=
    .of_run (by decide +kernel)
  have hreach : (reached crowding).Reachable := hlead.reachable (.new _ _ _)
  have hv : (reached crowding).registry.NeverPanics := by
    refine hlead.every Registry.every_empty fun i hi => ?_
    simp only [crowding, singleStart, List.mem_append, List.mem_cons, List.mem_replicate,
      Operation.createVendor.injEq, reduceCtorEq, or_false, List.not_mem_nil, and_false] at hi
    subst hi
    exact VendorInterface.neverPanics_obliging 0 none
  have hroom : ∀ client, ((reached crowding).ownership.tagsOf client).liveCount < 2 ^ 31 :=
    Ownership.forall_tagsOf (P := fun t => t.liveCount < 2 ^ 31) (by decide) (by decide +kernel)
  obtain ⟨hsame, hresult⟩ := hreach.checks_hold hv hroom askingMore
  exact ⟨hreach, hv, hroom, by decide +kernel, hsame, hresult, by decide +kernel⟩

end Server

end VendorDispatch
