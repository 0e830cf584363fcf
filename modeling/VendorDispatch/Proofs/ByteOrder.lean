import VendorDispatch.Proofs.InStepService
import VendorDispatch.Proofs.Offers

/-!
The byte order of a client does not show.

* `Mirrored`: a little-endian byte string and a big-endian one with the same numbers in the same
  places.
* `Client.Mirrors`, `Likeness.mirror`: a little-endian client and a big-endian one with mirrored
  requests and replies.
* `VendorInterface.IgnoresByteOrder`: vendors that do the same for both; `readField`, `writeField`
  and `sendReply` do (`inStep_writeField`).
* `byteOrder_does_not_show`: a request is served alike in either order.
-/

namespace VendorDispatch

variable {σ δ α : Type}

/-! ### The same numbers in either order -/

/-- Two byte strings of whole words: the same first two bytes, and after them the same 16-bit number
and the same 32-bit numbers, in the first string with the least significant byte first and in the
second with the most significant byte first. -/
structure Mirrored (bs cs : List UInt8) : Prop where
  whole : 4 ∣ bs.length
  length : cs.length = bs.length
  head : ∀ i, i < 2 → cs[i]? = bs[i]?
  half : (slice? cs 2 2).map ByteOrder.big.decode = (slice? bs 2 2).map ByteOrder.little.decode
  word : ∀ i, (slice? cs (4 + 4 * i) 4).map ByteOrder.big.decode =
    (slice? bs (4 + 4 * i) 4).map ByteOrder.little.decode

/-- The bytes of a message: two bytes, a 16-bit number and 32-bit numbers. -/
def message (order : ByteOrder) (first second : UInt8) (half : Nat) (words : List UInt32) :
    List UInt8 :=
  [first, second] ++ order.encode 2 half ++ words.flatMap fun w => order.encode 4 w.toNat

section Message

variable (order : ByteOrder) (first second : UInt8) (half : Nat) (words : List UInt32)

lemma length_words : (words.flatMap fun w => order.encode 4 w.toNat).length = 4 * words.length := by
  induction words with
  | nil => rfl
  | cons w words ih =>
      rw [List.flatMap_cons, List.length_append, ih, ByteOrder.length_encode, List.length_cons]
      omega

lemma length_message : (message order first second half words).length = 4 + 4 * words.length := by
  rw [message, List.length_append, length_words]
  simp

/-- The 16-bit number of a message. -/
lemma half_message :
    (slice? (message order first second half words) 2 2).map order.decode =
      some (half % byteRange 2) := by
  have hslice := slice?_append_middle [first, second] (order.encode 2 half)
    (words.flatMap fun w => order.encode 4 w.toNat)
  rw [ByteOrder.length_encode] at hslice
  rw [message]
  exact (congrArg _ hslice).trans (congrArg some (order.decode_encode 2 half))

/-- The 32-bit numbers of a message. -/
lemma word_message (i : Nat) :
    (slice? (message order first second half words) (4 + 4 * i) 4).map order.decode =
      words[i]?.map UInt32.toNat := by
  have hskip := slice?_append_right ([first, second] ++ order.encode 2 half)
    (words.flatMap fun w => order.encode 4 w.toNat) (4 * i) 4
  have hl : ([first, second] ++ order.encode 2 half).length = 4 := by simp
  rw [hl] at hskip
  rw [message, hskip]
  cases hw : words[i]? with
  | some w =>
      rw [Client.slice?_words order hw, Option.map_some, Option.map_some, order.decode_encode]
      exact congrArg some (Nat.mod_eq_of_lt w.toNat_lt)
  | none =>
      have hle := List.getElem?_eq_none_iff.mp hw
      have hnone : ¬ 4 * i + 4 ≤ 4 * words.length := by omega
      rw [slice?, length_words, if_neg hnone]
      rfl

end Message

/-- A message in little-endian and in big-endian order. -/
lemma mirrored_message (first second : UInt8) (half : Nat) (words : List UInt32) :
    Mirrored (message .little first second half words) (message .big first second half words) where
  whole := by
    rw [length_message]
    omega
  length := by rw [length_message, length_message]
  head i hi := by
    have hfirst (order : ByteOrder) :
        (message order first second half words)[i]? = [first, second][i]? := by
      rw [message, List.append_assoc, List.getElem?_append_left hi]
    rw [hfirst, hfirst]
  half := by rw [half_message, half_message]
  word i := by rw [word_message, word_message]

namespace Mirrored

variable {bs cs : List UInt8} (h : Mirrored bs cs)

include h

/-- The same number, written at the same place. -/
lemma overwrite {offset : Nat} (ho : IsField offset) (hle : offset + 4 ≤ bs.length) (v : UInt32) :
    Mirrored (overwrite bs offset (ByteOrder.little.encode 4 v.toNat))
      (overwrite cs offset (ByteOrder.big.encode 4 v.toNat)) := by
  obtain ⟨hmin, k, rfl⟩ := ho
  have hl : 4 * k + (ByteOrder.little.encode 4 v.toNat).length ≤ bs.length := by
    rwa [ByteOrder.length_encode]
  have hb : 4 * k + (ByteOrder.big.encode 4 v.toNat).length ≤ cs.length := by
    rwa [ByteOrder.length_encode, h.length]
  constructor
  · rw [length_overwrite hl]
    exact h.whole
  · rw [length_overwrite hl, length_overwrite hb, h.length]
  · -- the first words are before every field
    intro i hi
    rw [getElem?_overwrite_of_lt hl (by omega), getElem?_overwrite_of_lt hb (by omega), h.head i hi]
  · -- and so is the length
    rw [slice?_overwrite_of_disjoint hl (by omega), slice?_overwrite_of_disjoint hb (by omega),
      h.half]
  · intro i
    -- the word that was written reads the same in both orders, and no other one has changed
    by_cases hi : 4 + 4 * i = 4 * k
    · have hsl := slice?_overwrite hl
      have hsb := slice?_overwrite hb
      rw [ByteOrder.length_encode] at hsl hsb
      rw [hi, hsl, hsb, Option.map_some, Option.map_some, ByteOrder.decode_encode,
        ByteOrder.decode_encode]
    · rw [slice?_overwrite_of_disjoint hl (by simp only [ByteOrder.length_encode]; omega),
        slice?_overwrite_of_disjoint hb (by simp only [ByteOrder.length_encode]; omega), h.word i]

/-- The same number is read at the same place. -/
lemma slice {offset : Nat} (ho : IsField offset) :
    (slice? cs offset 4).map ByteOrder.big.decode =
      (slice? bs offset 4).map ByteOrder.little.decode := by
  obtain ⟨hmin, k, rfl⟩ := ho
  have hk : 4 * k = 4 + 4 * (k - 1) := by omega
  rw [hk, h.word]

end Mirrored

/-! ### Clients -/

/-- Two clients in the same place, the first of which is little-endian and the second big-endian.
Their requests hold the same numbers, and so do the replies after those that they began with. -/
structure Client.Mirrors (old old' : List (List UInt8)) (c d : Client) : Prop where
  id : d.id = c.id
  sequence : d.sequence = c.sequence
  errorValue : d.errorValue = c.errorValue
  little : c.swapped = false
  big : d.swapped = true
  request : Mirrored c.request d.request
  replies : ∃ new new', c.replies = old ++ new ∧ d.replies = old' ++ new' ∧
    List.Forall₂ Mirrored new new'

namespace Client.Mirrors

variable {old old' : List (List UInt8)} {c d : Client} (h : c.Mirrors old old' d)

include h

lemma byteOrder_little : c.byteOrder = .little := by
  simp [byteOrder, h.little]

lemma byteOrder_big : d.byteOrder = .big := by
  simp [byteOrder, h.big]

lemma minorOpcode_eq : c.minorOpcode = d.minorOpcode := by
  rw [minorOpcode, minorOpcode, h.request.head 1 (by decide)]

/-- The fields of a request are the same numbers. -/
lemma readWord_eq {offset : Nat} (ho : IsField offset) : c.readWord offset = d.readWord offset := by
  have hslice := h.request.slice ho
  rw [readWord, readWord, h.byteOrder_little, h.byteOrder_big]
  rcases hc : slice? c.request offset 4 with _ | bs <;>
    rcases hd : slice? d.request offset 4 with _ | cs <;> rw [hc, hd] at hslice
  · cases hslice
  · cases hslice
  · exact congrArg (fun n => Except.ok (UInt32.ofNat n)) (Option.some.inj hslice).symm

/-- Both write the same number, or both find no room. -/
lemma writeWord {offset : Nat} (ho : IsField offset) (v : UInt32) :
    (∃ c' d', c.writeWord offset v = .ok c' ∧ d.writeWord offset v = .ok d' ∧
      c'.Mirrors old old' d') ∨
    c.writeWord offset v = .error .badLength ∧ d.writeWord offset v = .error .badLength := by
  rw [Client.writeWord, Client.writeWord, h.request.length, h.byteOrder_little, h.byteOrder_big]
  by_cases hle : offset + 4 ≤ c.request.length
  · rw [if_pos hle, if_pos hle]
    exact .inl ⟨_, _, rfl, rfl, h.id, h.sequence, h.errorValue, h.little, h.big,
      h.request.overwrite ho hle v, h.replies⟩
  · rw [if_neg hle, if_neg hle]
    exact .inr ⟨rfl, rfl⟩

/-- A reply with the same numbers. -/
lemma writeReply {r u : List UInt8} (hru : Mirrored r u) :
    (c.writeReply r).Mirrors old old' (d.writeReply u) := by
  obtain ⟨new, new', hc, hd, hnew⟩ := h.replies
  refine ⟨h.id, h.sequence, h.errorValue, h.little, h.big, h.request, new ++ [r], new' ++ [u],
    ?_, ?_, List.rel_append hnew (.cons hru .nil)⟩
  · rw [Client.writeReply, hc, List.append_assoc]
  · rw [Client.writeReply, hd, List.append_assoc]

end Client.Mirrors

/-! ### Replies -/

/-- A reply under construction for either client. -/
structure Reply.Mirrors (r u : Reply) : Prop where
  little : r.order = .little
  big : u.order = .big
  bytes : Mirrored r.bytes u.bytes

/-- The header of a reply is a message of its own. -/
lemma Reply.bytes_header (c : Client) :
    (Reply.header c).bytes =
      message c.byteOrder mark 0 c.sequence.toNat (List.replicate 7 0) := by
  have hzeros : List.replicate (size - 4) 0 =
      (List.replicate 7 (0 : UInt32)).flatMap fun w => c.byteOrder.encode 4 w.toNat := by
    cases c.byteOrder <;> rfl
  rw [Reply.header, message, hzeros]

lemma Client.Mirrors.header {old old' : List (List UInt8)} {c d : Client}
    (h : c.Mirrors old old' d) : (Reply.header c).Mirrors (Reply.header d) where
  little := h.byteOrder_little
  big := h.byteOrder_big
  bytes := by
    rw [Reply.bytes_header, Reply.bytes_header, h.byteOrder_little, h.byteOrder_big, h.sequence]
    exact mirrored_message _ _ _ _

/-- The same numbers fit into both replies. -/
lemma Reply.Mirrors.putAll? {r u : Reply} (h : r.Mirrors u) {fields : List (Nat × UInt32)}
    (hf : ∀ f ∈ fields, IsField f.1) :
    Option.Rel Reply.Mirrors (r.putAll? fields) (u.putAll? fields) := by
  induction fields generalizing r u with
  | nil => exact .some h
  | cons field rest ih =>
      obtain ⟨offset, v⟩ := field
      have ho : IsField offset := hf _ List.mem_cons_self
      rw [Reply.putAll?, Reply.putAll?, Reply.put?, Reply.put?, h.bytes.length, h.little, h.big]
      by_cases hle : offset + 4 ≤ r.bytes.length
      · rw [if_pos hle, if_pos hle]
        exact ih ⟨rfl, rfl, h.bytes.overwrite ho hle v⟩ fun f hm =>
          hf f (List.mem_cons_of_mem _ hm)
      · rw [if_neg hle, if_neg hle]
        exact .none

/-- A little-endian client counts as the same as a big-endian one with the same numbers in its
request, and in its replies after the given ones. -/
def Likeness.mirror (old old' : List (List UInt8)) : Likeness σ where
  Alike := Client.Mirrors old old'
  Worlds := Eq
  Shared _ := True
  Transfers := True
  id_eq h := h.id.symm
  shared _ := trivial
  minorOpcode_eq h := h.minorOpcode_eq
  readWord_eq h ho := h.readWord_eq ho
  blame v h := ⟨h.id, h.sequence, rfl, h.little, h.big, h.request, h.replies⟩
  restore h h₀ := ⟨h.id, h.sequence, h.errorValue, h.little, h.big, h₀.request, h.replies⟩
  reply h hf := by
    have hput := h.header.putAll? hf
    revert hput
    generalize Reply.putAll? _ _ = r
    generalize Reply.putAll? _ _ = u
    rintro (hru | _)
    · exact .some (h.writeReply hru.bytes)
    · exact .none

/-! ### Vendors -/

/-- Programs that write a field of either request. -/
lemma inStep_writeField {old old' : List (List UInt8)} {c d : Client} (h : c.Mirrors old old' d)
    {offset : Nat} (ho : IsField offset) (v : UInt32)
    {next next' : Except ProtocolError Client → Program σ δ α} {Q : α → α → Prop}
    (hok : ∀ c d, c.Mirrors old old' d →
      (next (.ok c)).InStep (.mirror old old') Q (next' (.ok d)))
    (hfailed : (next (.error .badLength)).InStep (.mirror old old') Q
      (next' (.error .badLength))) :
    ((Program.writeField c offset v).bind next).InStep (.mirror old old') Q
      ((Program.writeField d offset v).bind next') := by
  rw [Program.writeField, Program.writeField]
  split_ifs
  · rcases h.writeWord ho v with ⟨c', d', hc, hd, h'⟩ | ⟨hc, hd⟩ <;> rw [hc, hd]
    · exact hok c' d' h'
    · exact hfailed
  · exact .panic

/-- The callbacks that are given a client, and the handlers that the vendor offers, do the same for
a little-endian client and for a big-endian one with the same numbers in its request: they read and
write the fields of requests and replies, which are the words after the header, in the order of the
client, and never look at the order itself. -/
structure VendorInterface.IgnoresByteOrder (i : VendorInterface σ δ) : Prop where
  callbacks : ∀ old old', i.Respects (.mirror old old')
  offers : ∀ offer, i.dispatchAddress = some offer → ∀ minor code w handler,
    (offer minor code w).1 = some handler → ∀ old old', handler.Respects (.mirror old old')

namespace Server

variable {s : Server σ δ}

/-- Whatever serves a request ignores the byte order if all vendors do. -/
lemma KnowsOffered.found_respects (h : s.KnowsOffered)
    (hv : s.registry.Every VendorInterface.IgnoresByteOrder) (old old' : List (List UInt8))
    (c : Client) {target : Target σ δ} {d : Dispatcher σ δ} {t : Session σ δ}
    (hr : s.dispatcher.resolve s.environment c s.session = .ok (.ok target, d) t) :
    target.Respects (.mirror old old') := by
  have hI := (s.environment.kept_const True).upheld.surveyed
  have hres := h.sound.dispatcher.resolve hI h.sound.active c (s := s.session) trivial
  have hoffered : Ends (s.dispatcher.resolve s.environment c) s.session _ _ :=
    Dispatcher.resolve_offered (fun p hp => (h.offered p hp).2) c s.session
  rw [Ends, hr] at hres hoffered
  refine (hres.2.2 target rfl).respects trivial ?_
  rintro p rfl
  obtain ⟨-, i, offer, w, hi, ho, hrun⟩ := hoffered.2 p rfl
  exact (hv p.vendor i hi).offers offer ho p.minor p.code w p.run hrun old old'

lemma eq_of_sameVendors {t : Server σ δ} (h : s.SameVendors t) (world : t.world = s.world)
    (ownership : t.ownership = s.ownership) (dispatcher : t.dispatcher = s.dispatcher) :
    t = s := by
  obtain ⟨_, _, _, _, _, _, _⟩ := t
  obtain ⟨rfl, rfl, rfl, rfl⟩ := h
  obtain rfl : _ = s.world := world
  obtain rfl : _ = s.ownership := ownership
  obtain rfl : _ = s.dispatcher := dispatcher
  rfl

/-- A request is served alike for either client, and leaves the same router. -/
lemma KnowsOffered.serve_mirror (h : s.KnowsOffered)
    (hhost : ∀ old old', s.host.Respects (.mirror old old'))
    (hv : s.registry.Every VendorInterface.IgnoresByteOrder) {old old' : List (List UInt8)}
    {c d : Client} (hcd : c.Mirrors old old' d) :
    (s.serve c).Like (.mirror old old') Eq (Likeness.mirror old old' : Likeness σ).Answers
        (s.serve d) ∧
      (s.serve d).server = (s.serve c).server := by
  have hlike : s.Like (.mirror old old') Eq s :=
    .of_sameVendors (.refl s) (hhost old old') (fun v i hi => (hv v i hi).callbacks old old')
      ⟨rfl, rfl, .nil⟩
  obtain ⟨hserve, hd⟩ := hlike.serve (Likeness.owned_eq _) hcd rfl (.refl _)
    fun target d t hr => h.found_respects hv old old' c hr
  have hvendors := (s.serve_sameVendors c).symm.trans (s.serve_sameVendors d)
  exact ⟨hserve, eq_of_sameVendors hvendors hserve.session.world.symm
    hserve.session.ownership.symm hd.eq.symm⟩

end Server

/-- The client with a request of the given words, in the order that the flag says. -/
def Client.sending (c : Client) (swapped : Bool) (major minor : UInt8) (words : List UInt32) :
    Client :=
  { c with
    swapped
    request := requestOfWords { c with swapped } major minor words }

lemma Client.mirrors_sending (c : Client) (major minor : UInt8) (words : List UInt32) :
    (c.sending false major minor words).Mirrors c.replies c.replies
      (c.sending true major minor words) where
  id := rfl
  sequence := rfl
  errorValue := rfl
  little := rfl
  big := rfl
  request := mirrored_message major minor (1 + words.length) words
  replies := ⟨[], [], (List.append_nil _).symm, (List.append_nil _).symm, .nil⟩

/-- The same was done for a little-endian client and for a big-endian one, whose replies were the
given ones before. -/
structure Step.Mirrors (old : List (List UInt8))
    (x y : Step σ δ (Client × Except ProtocolError Unit)) : Prop where
  ok : ∀ c r, x.result = .ok (c, r) → ∃ d, y.result = .ok (d, r) ∧ c.Mirrors old old d
  error : ∀ a, x.result = .error a → y.result = .error a
  journal : List.Forall₂ (Event.Like (Likeness.mirror old old : Likeness σ)) x.journal y.journal
  server : y.server = x.server

/-- The byte order of a client does not show. Whatever the state of the router, a request of any
opcode with any words is served alike for a client that is little-endian and for one that is
big-endian and otherwise the same: with the same result and error value, the same questions to the
window system, the same calls of vendors with the same numbers, and the same router afterwards. The
replies hold the same numbers, each in the order of its client. The window system and the vendors
read and write numbers in the order of the client. -/
theorem byteOrder_does_not_show {s : Server σ δ} (hs : s.Reachable)
    (hhost : ∀ old old', s.host.Respects (.mirror old old'))
    (hvendors : s.registry.Every VendorInterface.IgnoresByteOrder) (c : Client)
    (major minor : UInt8) (words : List UInt32) :
    (s.serve (c.sending false major minor words)).Mirrors c.replies
      (s.serve (c.sending true major minor words)) := by
  obtain ⟨hlike, hserver⟩ := hs.knowsOffered.serve_mirror hhost hvendors
    (c.mirrors_sending major minor words)
  refine ⟨fun a r hx => ?_, fun a hx => hlike.of_error hx, hlike.journal, hserver⟩
  obtain ⟨⟨b, u⟩, hy, hab, hru⟩ := hlike.of_ok hx
  obtain rfl : r = u := hru
  exact ⟨b, hy, hab⟩

/-- A handler that counts up the first field of the request and replies with both numbers. -/
def countUp : RequestHandler Unit Nat := fun c => do
  match ← Program.readField c 4 with
  | .error e => return (c, .error e)
  | .ok v =>
    match ← Program.writeField c 4 (v + 1) with
    | .error e => return (c, .error e)
    | .ok d => return (← Program.sendReply d [(8, v), (12, v + 1)], .ok ())

lemma respects_countUp (old old' : List (List UInt8)) :
    countUp.Respects (.mirror old old') := by
  intro c d hcd
  refine .bind (.readField hcd (by decide)) ?_
  rintro r _ rfl
  cases r with
  | error e => exact .done ⟨hcd, rfl⟩
  | ok v =>
      refine inStep_writeField hcd (by decide) (v + 1) (fun c d hcd => ?_) (.done ⟨hcd, rfl⟩)
      exact .bind (.sendReply hcd (by simp [IsField])) fun c d hcd => .done ⟨hcd, rfl⟩

/-- A vendor that counts up, also for the vendor code seven. -/
def VendorInterface.counting : VendorInterface Unit Nat :=
  { obliging 0 none with
    handleRequest := some countUp
    dispatchAddress := some fun _ code w => (if code = 7 then some countUp else none, w) }

lemma VendorInterface.ignoresByteOrder_counting : counting.IgnoresByteOrder where
  callbacks old old' := by
    refine ⟨?_, (respects_obliging _ 0 none).makeCurrent⟩
    rintro handler ⟨⟩
    exact respects_countUp old old'
  offers := by
    rintro offer ⟨⟩ minor code w handler hh old old'
    dsimp only at hh
    split_ifs at hh
    cases hh
    exact respects_countUp old old'

/-- The vendor takes part in a generation. -/
def countingStart : List (Operation Unit Nat) := [.createVendor .counting, .beginGeneration .sample]

/-- The router of the vendor that counts up. -/
def countingServer : Server Unit Nat := .reached countingStart

/-- A client at its request number 258. -/
def waitingClient : Client := { id := ⟨7⟩, sequence := 258 }

set_option maxRecDepth 8000 in
/-- The vendor is asked for a handler, and counts up for a client of either order. -/
theorem byteOrder_does_not_show_counting :
    countingServer.Reachable ∧ (∀ old old', countingServer.host.Respects (.mirror old old')) ∧
      countingServer.registry.Every VendorInterface.IgnoresByteOrder ∧
      (countingServer.serve (waitingClient.sending false 150 Opcode.vendorPrivate [7])).Mirrors []
        (countingServer.serve (waitingClient.sending true 150 Opcode.vendorPrivate [7])) ∧
      (countingServer.serve (waitingClient.sending false 150 Opcode.vendorPrivate [7])).result.map
          (fun r => r.1.replies) =
        .ok [[1, 0, 2, 1, 0, 0, 0, 0, 7, 0, 0, 0, 8, 0, 0, 0] ++ List.replicate 16 0] ∧
      (countingServer.serve (waitingClient.sending true 150 Opcode.vendorPrivate [7])).result.map
          (fun r => r.1.replies) =
        .ok [[1, 0, 1, 2, 0, 0, 0, 0, 0, 0, 0, 7, 0, 0, 0, 8] ++ List.replicate 16 0] := by
  have hlead : (Server.new (.blank 1) () 4).Leads countingStart countingServer :=
    .of_run (by decide +kernel)
  have hreach : countingServer.Reachable := hlead.reachable (.new _ _ _)
  have hhost (old old' : List (List UInt8)) : countingServer.host.Respects (.mirror old old') :=
    WindowSystem.respects_blank _ 1
  have hvendors : countingServer.registry.Every VendorInterface.IgnoresByteOrder := by
    refine hlead.every Registry.every_empty fun i hi => ?_
    simp only [countingStart, List.mem_cons, Operation.createVendor.injEq, reduceCtorEq, or_false,
      List.not_mem_nil] at hi
    exact hi ▸ VendorInterface.ignoresByteOrder_counting
  exact ⟨hreach, hhost, hvendors,
    byteOrder_does_not_show hreach hhost hvendors waitingClient 150 Opcode.vendorPrivate [7],
    by decide +kernel, by decide +kernel⟩

end VendorDispatch
