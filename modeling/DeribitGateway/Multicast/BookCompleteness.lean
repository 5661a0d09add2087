import DeribitGateway.Multicast.Parts
import DeribitGateway.Multicast.UdpSnapshot

/-!
# Whole book changes

The exchange splits a book change over `Book` messages, and the messages over frames. The
events stream collects the parts in the channel and hands them to the sequencer with the
last one. The change ids it hands over with them are those of the last part, so the sequencer
cannot tell a change from a suffix of it.

The network and the exchange are those of `LossyFeed`, with the events stream as receiver and
the datagrams of the snapshot socket as its other inputs. Two things make the channel lose
the beginning of a change: it accepts a frame behind one it has not accepted while a change
is unfinished, and it skips the first parts of an instrument that becomes known before the
last one. `book_calls_are_whole` says there is no third.
-/

namespace DeribitGateway

open Function Transducer LossyFeed

/-- Book changes as units: the parts have one instrument and one pair of change ids, and only
    the last one says `isLast`. -/
def bookChanges : Fragmentation Message Sbe.Book where
  fragment
    | .book part => some part
    | _ => none
  last part := part.isLast.toBool
  sameUnit p q := p.instrumentId = q.instrumentId ∧ p.changeId = q.changeId ∧
    p.prevChangeId = q.prevChangeId
  boundary _ := false

variable {S : Type}

/-- The multiplier the book handler uses for a part, if it handles the part at all. -/
def Gateway.bookMultiplier (g : Gateway S) (part : Sbe.Book) : Option ℚ :=
  (g.shared.findInstrument part.instrumentId).map (·.multiplier)

theorem bookMultiplier_congr {g g' : Gateway S} {part : Sbe.Book} (h : g.shared.Grows g'.shared)
    (hk : g'.knows part.instrumentId = g.knows part.instrumentId) :
    g'.bookMultiplier part = g.bookMultiplier part := by
  unfold Gateway.knows at hk
  unfold Gateway.bookMultiplier
  cases hf : g.shared.findInstrument part.instrumentId with
  | none =>
    rw [hf, Option.isSome_none, Option.isSome_eq_false_iff, Option.isNone_iff_eq_none] at hk
    rw [hk]
  | some x =>
    obtain ⟨x', hx', hm⟩ := h _ x hf
    simp only [hx', Option.map_some, hm]

namespace UDPEvents

variable [Sequencer S]

/-- The events stream as the receiver of a lossy feed. Next to the feed it hears, through
    `Shared`, the datagrams of the snapshot socket. -/
def receiver (env : Env) : Receiver (Gateway S) UInt16 UInt16 Message Output Packet where
  frame g channelId sequenceNumber packetLength :=
    onFrame g ⟨packetLength, channelId, sequenceNumber⟩
  message channelId sequenceNumber packetLength :=
    onMessage env ⟨packetLength, channelId, sequenceNumber⟩
  other g packet := (UDPSnapshot.receive env g packet).2

/-- A delivered frame is what `receive` makes of the datagram. -/
theorem receiver_receive (env : Env) (g : Gateway S) (channelId : UInt16)
    (sequenceNumber : UInt32) (packetLength : UInt16) (messages : List Message) :
    (receiver env).receive g channelId sequenceNumber packetLength messages =
      (receive env g ⟨⟨packetLength, channelId, sequenceNumber⟩, messages⟩).2 := by
  unfold Receiver.receive receive Parser.dispatch
  simp only [receiver]
  split <;> simp_all

/-- The feed of the exchange and the gateway that listens to it. -/
abbrev bookSystem (env : Env) :
    Step (Gateway S × (UInt16 → Feed Sbe.Book)) (Action UInt16 UInt16 Message Packet)
      (List Sbe.Book × Message × Output) :=
  step (receiver env) bookChanges

/-- The gateway before the first datagram, and an exchange whose channels count from
    anywhere. -/
def bookStart (S : Type) (first : UInt16 → ℕ) : Gateway S × (UInt16 → Feed Sbe.Book) :=
  (Gateway.init S, fun c => Feed.start (first c))

end UDPEvents

/-! ## The law and its conditions -/

/-- A call of the sequencer carries the bids and the asks of all parts the exchange has sent
    of the change, in order, of which the message is the last. -/
def WholeChange (pending : List Sbe.Book) (m : Message) : Output → Prop
  | .mbpUpdate call => ∃ last, m = .book last ∧ last.isLast.toBool = true ∧
      (∀ part ∈ pending, bookChanges.sameUnit part last) ∧
      call.instrumentId = last.instrumentId ∧ call.changeId = last.changeId ∧
      call.prevChangeId = last.prevChangeId ∧
      call.bids = bidsOf call.multiplier ((pending ++ [last]).flatMap (·.changesList)) ∧
      call.asks = asksOf call.multiplier ((pending ++ [last]).flatMap (·.changesList))
  | _ => True

/-- The instrument of a part has not become known. -/
def StaysKnown (g g' : Gateway S) (part : Sbe.Book) : Prop :=
  g'.knows part.instrumentId = g.knows part.instrumentId

/-- The channel holds nothing, and no change of a known instrument is under way on it. -/
def BetweenChanges (g : Gateway S) (c : UInt16) (pending : List Sbe.Book) : Prop :=
  (g.udpEvents.channel c).bids = [] ∧ (g.udpEvents.channel c).asks = [] ∧
    ∀ part ∈ pending, g.knows part.instrumentId = false

/-! ## Alignment -/

/-- The channel holds the parts sent so far of the change that is under way. -/
def BookAligned (env : Env) (g : Gateway S) (c : UInt16) (pending : List Sbe.Book) : Prop :=
  UDPEvents.publishMarketByPrice env = true →
    (g.udpEvents.channel c).Holds Sbe.Book.changesList g.bookMultiplier pending

variable [Sequencer S] {env : Env}

omit [Sequencer S] in
/-- What neither the channel nor the instruments of the parts feel keeps alignment. -/
theorem BookAligned.congr {g g' : Gateway S} {c : UInt16} {p : List Sbe.Book}
    (h : BookAligned env g c p) (hgrows : g.shared.Grows g'.shared)
    (hbids : (g'.udpEvents.channel c).bids = (g.udpEvents.channel c).bids)
    (hasks : (g'.udpEvents.channel c).asks = (g.udpEvents.channel c).asks)
    (hk : ∀ part ∈ p, StaysKnown g g' part) : BookAligned env g' c p :=
  fun hp => (h hp).congr hbids hasks fun part hpart => bookMultiplier_congr hgrows (hk part hpart)

omit [Sequencer S] in
theorem next_book (p : List Sbe.Book) (book : Sbe.Book) :
    bookChanges.next p (.book book) = if book.isLast.toBool then [] else p ++ [book] := rfl

omit [Sequencer S] in
theorem next_other {m : Message} (p : List Sbe.Book) (h : ∀ book, m ≠ .book book) :
    bookChanges.next p m = p := by
  cases m with
  | book value => exact absurd rfl (h value)
  | _ => rfl

omit [Sequencer S] in
/-- The parts of one change all have the multiplier of its instrument. -/
theorem bookMultiplier_same {g : Gateway S} {p : List Sbe.Book} {book : Sbe.Book}
    (hc : bookChanges.Continues p (.book book)) :
    ∀ part ∈ p, g.bookMultiplier part = g.bookMultiplier book := by
  intro part hpart
  have hsame : bookChanges.sameUnit part book := hc.1 book rfl part hpart
  unfold Gateway.bookMultiplier
  rw [hsame.1]

/-- A book message, first or last of its change or between. -/
theorem bookAligned_book (frame : Frame) {g g' : Gateway S} {p : List Sbe.Book} {book : Sbe.Book}
    (h : BookAligned env g frame.channelId p) (hc : bookChanges.Continues p (.book book))
    (hs : (UDPEvents.onBook env frame g book).1 = some g') :
    BookAligned env g' frame.channelId (bookChanges.next p (.book book)) := by
  intro hp
  have hold := h hp
  rw [next_book]
  obtain ⟨rfl, hp' | hnone⟩ | ⟨instrument, -, hf, ⟨hl, rfl⟩ | ⟨hl, sequencer, rfl⟩⟩ :=
    UDPEvents.onBook_cases hs
  · rw [hp] at hp'
    cases hp'
  · -- the instrument is unknown, and nothing of its change has been collected
    have hk : g'.bookMultiplier book = none := by
      rw [Gateway.bookMultiplier, hnone, Option.map_none]
    cases hl : book.isLast.toBool with
    | false => exact hold.skip hk
    | true =>
      have hskip : ∀ part ∈ p, g'.bookMultiplier part = none :=
        fun part hpart => (bookMultiplier_same hc part hpart).trans hk
      exact .of_empty (hold.bids.trans (collected_skipped hskip))
        (hold.asks.trans (collected_skipped hskip)) (by simp)
  · have hk : g.bookMultiplier book = some instrument.multiplier := by
      rw [Gateway.bookMultiplier, hf, Option.map_some]
    rw [hl, UDPEvents.setChannel_self]
    exact (hold.append hk).congr (Channel.claim_bids _ _) (Channel.claim_asks _ _) fun _ _ => rfl
  · rw [hl]
    exact .of_empty (by simp) (by simp) (by simp)

/-- On an aligned channel the last part completes the lists. -/
theorem wholeChange_of_aligned {frame : Frame} {g : Gateway S} {p : List Sbe.Book} {m : Message}
    {call : BookCall} (h : BookAligned env g frame.channelId p) (hc : bookChanges.Continues p m)
    (ho : .mbpUpdate call ∈ (UDPEvents.onMessage env frame g m).2) :
    WholeChange p m (.mbpUpdate call) := by
  obtain ⟨book, rfl, ho⟩ := UDPEvents.mbpUpdate_of_onMessage ho
  obtain ⟨hp, hl, instrument, hf, hcall | hclear | ⟨update, hupdate⟩⟩ := UDPEvents.mem_onBook ho
  · obtain rfl := Output.mbpUpdate.inj hcall
    have hk : g.bookMultiplier book = some instrument.multiplier := by
      rw [Gateway.bookMultiplier, hf, Option.map_some]
    have hall : ∀ part ∈ p ++ [book], g.bookMultiplier part = some instrument.multiplier := by
      intro part hpart
      rcases List.mem_append.mp hpart with hpart | hpart
      · exact (bookMultiplier_same hc part hpart).trans hk
      · rw [List.mem_singleton.mp hpart, hk]
    obtain ⟨hbids, hasks⟩ := ((h hp).append hk).all hall
    exact ⟨book, rfl, hl, hc.1 book rfl, rfl, rfl, rfl, hbids, hasks⟩
  · cases hclear
  · cases hupdate

/-- The events stream keeps its channels aligned with the feed, and a channel that is aligned
    makes whole calls. -/
theorem book_alignment :
    Alignment (UDPEvents.receiver (S := S) env) bookChanges StaysKnown BetweenChanges
      (BookAligned env) WholeChange where
  frame_self {g g' c n len p} hf h := by
    obtain ⟨hbids, hasks⟩ := UDPEvents.onFrame_accepted hf
    obtain ⟨hshared, -⟩ := UDPEvents.onFrame_frame g ⟨len, c, n⟩
    rw [show UDPEvents.onFrame g ⟨len, c, n⟩ = (true, g') from hf] at hshared
    apply h.congr (hshared ▸ .refl _) hbids hasks
    intro part _
    rw [StaysKnown, Gateway.knows, hshared, Gateway.knows]
  frame_other {g g' c c' n len b p} hf hc h := by
    obtain ⟨hshared, -, hother⟩ := UDPEvents.onFrame_frame g ⟨len, c, n⟩
    rw [show UDPEvents.onFrame g ⟨len, c, n⟩ = (b, g') from hf] at hshared hother
    apply h.congr (hshared ▸ .refl _) (by rw [hother c' hc]) (by rw [hother c' hc])
    intro part _
    rw [StaysKnown, Gateway.knows, hshared, Gateway.knows]
  resync {g c p} h := by
    obtain ⟨hbids, hasks, hk⟩ := h
    intro _
    apply Channel.Holds.of_empty hbids hasks
    intro part hpart
    have := hk part hpart
    rw [Gateway.knows, Option.isSome_eq_false_iff, Option.isNone_iff_eq_none] at this
    rw [Gateway.bookMultiplier, this, Option.map_none]
  message_self {g g' c n len p m} h hc hs hk := by
    by_cases hm : ∃ book, m = .book book
    · obtain ⟨book, rfl⟩ := hm
      exact bookAligned_book ⟨len, c, n⟩ h hc hs
    · have hm' : ∀ book, m ≠ .book book := fun book hb => hm ⟨book, hb⟩
      rw [next_other p hm'] at hk ⊢
      have hgrows := (UDPEvents.onMessage_frame hs).1
      have hchannel := UDPEvents.onMessage_not_book hm' hs
      exact h.congr hgrows (by rw [hchannel]) (by rw [hchannel]) hk
  message_other {g g' c c' n len p m} h hc hs hk := by
    obtain ⟨hgrows, -, hother⟩ := UDPEvents.onMessage_frame hs
    exact h.congr hgrows (by rw [hother c' hc]) (by rw [hother c' hc]) hk
  message_good {g c n len p m o} h hc ho := by
    cases o with
    | mbpUpdate call => exact wholeChange_of_aligned h hc ho
    | _ => trivial
  other {g g' packet c p} h hs hk := by
    obtain ⟨hgrows, hevents⟩ := UDPSnapshot.receive_frame hs
    exact h.congr hgrows (by rw [hevents]) (by rw [hevents]) hk

open UDPEvents

/-- **Whole book changes.** Whatever frames are lost and wherever the gateway joins: if it
    resumes a channel only between changes, and no instrument becomes known while a change of
    it is under way, every call of the sequencer carries a whole change. -/
theorem book_calls_are_whole (env : Env) (first : UInt16 → ℕ)
    (actions : List (Action UInt16 UInt16 Message Packet))
    (hsends : bookChanges.Sends (fun _ => []) actions)
    (hadm : Guarded (bookSystem env)
      (Admissible (receiver (S := S) env) bookChanges StaysKnown BetweenChanges)
      (bookStart S first) actions) :
    ∀ o ∈ (run (bookSystem env) (bookStart S first) actions).2, WholeChange o.1 o.2.1 o.2.2 :=
  sound book_alignment (inStep_start (Gateway.init S) first) hsends hadm

/-- A part of a change with one bid. -/
def bidPart (price : ℚ) (isLast : YesNo) : Sbe.Book :=
  ⟨7, 0, 10, 11, isLast, [⟨.bid, price, 5⟩]⟩

def twoParts : List (Action UInt16 UInt16 Message Packet) :=
  [.frame 0 0 [perpetual, .book (bidPart 100 .no)] true,
    .frame 0 0 [.book (bidPart 102 .yes)] true]

/-- A change in two parts, received whole. -/
theorem book_calls_are_whole_two_parts :
    ([bidPart 100 .no], .book (bidPart 102 .yes),
        .mbpUpdate ⟨7, 1, [⟨100, 5, none⟩, ⟨102, 5, none⟩], [], 11, 10⟩) ∈
      (run (bookSystem Env.plain) (bookStart ChangeIdSequencer fun _ => 5) twoParts).2 ∧
    WholeChange [bidPart 100 .no] (.book (bidPart 102 .yes))
      (.mbpUpdate ⟨7, 1, [⟨100, 5, none⟩, ⟨102, 5, none⟩], [], 11, 10⟩) := by
  have hcall : ([bidPart 100 .no], .book (bidPart 102 .yes),
      .mbpUpdate ⟨7, 1, [⟨100, 5, none⟩, ⟨102, 5, none⟩], [], 11, 10⟩) ∈
        (run (bookSystem Env.plain) (bookStart ChangeIdSequencer fun _ => 5) twoParts).2 := by
    decide +kernel
  refine ⟨hcall, book_calls_are_whole Env.plain (fun _ => 5) twoParts ⟨?_, ?_, trivial⟩ ⟨?_, ?_⟩
    _ hcall⟩
  · simp [Fragmentation.ContinuesAll, Fragmentation.Continues, Fragmentation.next, bookChanges,
      perpetual]
  · simp [Fragmentation.ContinuesAll, Fragmentation.Continues, Fragmentation.next, bookChanges,
      perpetual, bidPart, YesNo.toBool]
  · -- the first frame: the channel is fresh, and the instrument is known before the part
    intro g hg
    obtain ⟨-, rfl⟩ := Prod.mk.inj hg
    refine ⟨fun _ => ⟨rfl, rfl, by simp⟩, ?_, fun t ht => ⟨?_, fun _ _ => trivial⟩⟩
    · intro t ht
      obtain rfl := Option.some.inj ht
      refine settled_of_single 0 (fun c hc => by simp [hc]) ?_
      intro f hf
      simp [Feed.advance, Feed.accept, Fragmentation.next, bookChanges, perpetual] at hf
    · obtain rfl := Option.some.inj ht
      intro t ht
      obtain rfl := Option.some.inj ht
      refine settled_of_single 0 (fun c hc => by simp [hc]) ?_
      intro f hf
      obtain rfl := List.mem_singleton.mp hf
      rfl
  · -- the second frame: it follows the first, and ends the change
    intro s hs
    obtain rfl := Option.some.inj hs
    refine ⟨?_, fun _ _ => trivial⟩
    intro g hg
    obtain ⟨-, rfl⟩ := Prod.mk.inj hg
    refine ⟨fun h => absurd rfl h, ?_, fun _ _ => trivial⟩
    intro t ht
    obtain rfl := Option.some.inj ht
    refine settled_of_single 0 (fun c hc => by simp [hc]) ?_
    intro f hf
    cases hf

/-- A change in three parts. The frame of the first is lost, the frame of the second reveals
    the gap and is refused, and the frame of the third is accepted: the sequencer gets the
    third part as the whole change. -/
theorem book_call_is_truncated : ¬∀ actions : List (Action UInt16 UInt16 Message Packet),
    bookChanges.Sends (fun _ => []) actions →
      ∀ o ∈ (run (bookSystem Env.plain) (bookStart ChangeIdSequencer fun _ => 5) actions).2,
        WholeChange o.1 o.2.1 o.2.2 := by
  intro h
  have hcall := h
    [.frame 0 0 [perpetual] true, .frame 0 0 [.book (bidPart 100 .no)] false,
      .frame 0 0 [.book (bidPart 101 .no)] true, .frame 0 0 [.book (bidPart 102 .yes)] true]
    (by simp [Fragmentation.Sends, Fragmentation.ContinuesAll, Fragmentation.Continues,
      Fragmentation.next, bookChanges, perpetual, bidPart, YesNo.toBool])
    ([bidPart 100 .no, bidPart 101 .no], .book (bidPart 102 .yes),
      .mbpUpdate ⟨7, 1, [⟨102, 5, none⟩], [], 11, 10⟩)
    (by decide +kernel)
  obtain ⟨last, hlast, -, -, -, -, -, hbids, -⟩ := hcall
  obtain rfl := Message.book.inj hlast
  revert hbids
  decide +kernel

end DeribitGateway
