import DeribitGateway.Multicast.Parts
import DeribitGateway.Multicast.UdpSnapshot

/-!
# Whole snapshots

A book snapshot comes in parts as a book change does, on channels of its own and between a
`SnapshotStart` and a `SnapshotEnd`. The snapshot stream takes the levels of a part if the
channel is ready and the instrument's sequencer is not; it hands them over with the last part
if the channel is ready and holds any. Whether the sequencer is ready is the events stream's
to decide, and it may decide between two parts.

Here the snapshot stream is the receiver of the lossy feed and the datagrams of the events
socket are its other inputs. `snapshot_calls_are_whole` says when no call carries less, or
other, than a whole snapshot.
-/

namespace DeribitGateway

open Function Transducer LossyFeed

/-- Snapshots as units. A cycle begins and ends between them. -/
def snapshots : Fragmentation Message Sbe.Snapshot where
  fragment
    | .snapshot part => some part
    | _ => none
  last part := part.isLastInBook.toBool
  sameUnit p q := p.instrumentId = q.instrumentId
  boundary
    | .snapshotStart | .snapshotEnd => true
    | _ => false

variable {S : Type} [Sequencer S]

/-- The instrument is known, not discarded, and its sequencer waits for a snapshot. -/
def Gateway.awaits (g : Gateway S) (instrumentId : UInt32) : Bool :=
  match g.shared.findInstrument instrumentId with
  | some instrument => !Sequencer.ready instrument.mbpSequencer
  | none => false

/-- The multiplier the snapshot handler uses for a part, if it takes its levels. -/
def Gateway.snapshotMultiplier (g : Gateway S) (part : Sbe.Snapshot) : Option ℚ :=
  match g.shared.findInstrument part.instrumentId with
  | some instrument =>
    if Sequencer.ready instrument.mbpSequencer then none else some instrument.multiplier
  | none => none

theorem snapshotMultiplier_none {g : Gateway S} {part : Sbe.Snapshot} :
    g.snapshotMultiplier part = none ↔ g.awaits part.instrumentId = false := by
  unfold Gateway.snapshotMultiplier Gateway.awaits
  cases g.shared.findInstrument part.instrumentId with
  | none => simp
  | some x => simp

theorem snapshotMultiplier_congr {g g' : Gateway S} {part : Sbe.Snapshot}
    (h : g.shared.Grows g'.shared) (hk : g'.awaits part.instrumentId = g.awaits part.instrumentId) :
    g'.snapshotMultiplier part = g.snapshotMultiplier part := by
  cases ha : g.awaits part.instrumentId with
  | false => rw [snapshotMultiplier_none.mpr ha, snapshotMultiplier_none.mpr (hk.trans ha)]
  | true =>
    rw [ha] at hk
    unfold Gateway.awaits at ha hk
    unfold Gateway.snapshotMultiplier
    cases hf : g.shared.findInstrument part.instrumentId with
    | none => simp [hf] at ha
    | some x =>
      obtain ⟨x', hx', hm⟩ := h _ x hf
      simp only [hf, hx', Bool.not_eq_true'] at ha hk ⊢
      rw [ha, hk, hm]

namespace UDPSnapshot

/-- The snapshot stream as the receiver of a lossy feed. Next to the feed it hears, through
    `Shared`, the datagrams of the events socket. -/
def receiver (env : Env) : Receiver (Gateway S) UInt16 UInt16 Message Output Packet where
  frame g channelId sequenceNumber packetLength :=
    onFrame g ⟨packetLength, channelId, sequenceNumber⟩
  message channelId sequenceNumber packetLength :=
    onMessage env ⟨packetLength, channelId, sequenceNumber⟩
  other g packet := (UDPEvents.receive env g packet).2

/-- A delivered frame is what `receive` makes of the datagram. -/
theorem receiver_receive (env : Env) (g : Gateway S) (channelId : UInt16)
    (sequenceNumber : UInt32) (packetLength : UInt16) (messages : List Message) :
    (receiver env).receive g channelId sequenceNumber packetLength messages =
      (receive env g ⟨⟨packetLength, channelId, sequenceNumber⟩, messages⟩).2 := by
  unfold Receiver.receive receive Parser.dispatch
  simp only [receiver]
  split <;> simp_all

/-- The feed of the exchange and the gateway that listens to it. -/
abbrev snapshotSystem (env : Env) :
    Step (Gateway S × (UInt16 → Feed Sbe.Snapshot)) (Action UInt16 UInt16 Message Packet)
      (List Sbe.Snapshot × Message × Output) :=
  step (receiver env) snapshots

/-- The gateway before the first datagram, and an exchange whose channels count from
    anywhere. -/
def start (S : Type) (first : UInt16 → ℕ) : Gateway S × (UInt16 → Feed Sbe.Snapshot) :=
  (Gateway.init S, fun c => Feed.start (first c))

end UDPSnapshot

/-! ## The law and its conditions -/

/-- A call of the sequencer carries the bids and the asks of all parts of the snapshot, in
    order, of which the message is the last. -/
def WholeSnapshot (pending : List Sbe.Snapshot) (m : Message) : Output → Prop
  | .mbpSnapshot call => ∃ last, m = .snapshot last ∧ last.isLastInBook.toBool = true ∧
      (∀ part ∈ pending, snapshots.sameUnit part last) ∧
      call.instrumentId = last.instrumentId ∧ call.changeId = last.changeId ∧
      call.bids = bidsOf call.multiplier ((pending ++ [last]).flatMap (·.levelsList)) ∧
      call.asks = asksOf call.multiplier ((pending ++ [last]).flatMap (·.levelsList))
  | _ => True

/-- Whether the instrument of a part awaits a snapshot has not changed. -/
def StaysAwaited (g g' : Gateway S) (part : Sbe.Snapshot) : Prop :=
  g'.awaits part.instrumentId = g.awaits part.instrumentId

/-- The channel holds nothing, and if it is inside a cycle no awaited snapshot is under way
    on it. -/
def BetweenSnapshots (g : Gateway S) (c : UInt16) (pending : List Sbe.Snapshot) : Prop :=
  (g.udpSnapshot.channel c).bids = [] ∧ (g.udpSnapshot.channel c).asks = [] ∧
    ((g.udpSnapshot.channel c).ready = true →
      ∀ part ∈ pending, g.awaits part.instrumentId = false)

/-! ## Alignment -/

/-- A ready channel holds the parts sent so far of the snapshot that is under way, and a
    channel that is not ready holds nothing. -/
def SnapshotAligned (env : Env) (g : Gateway S) (c : UInt16) (pending : List Sbe.Snapshot) :
    Prop :=
  UDPSnapshot.publishMarketByPrice env = true →
    ((g.udpSnapshot.channel c).ready = true →
      (g.udpSnapshot.channel c).Holds Sbe.Snapshot.levelsList g.snapshotMultiplier pending) ∧
    ((g.udpSnapshot.channel c).ready = false →
      (g.udpSnapshot.channel c).bids = [] ∧ (g.udpSnapshot.channel c).asks = [])

variable {env : Env}

/-- What neither the channel nor the instruments of the parts feel keeps alignment. -/
theorem SnapshotAligned.congr {g g' : Gateway S} {c : UInt16} {p : List Sbe.Snapshot}
    (h : SnapshotAligned env g c p) (hgrows : g.shared.Grows g'.shared)
    (hbids : (g'.udpSnapshot.channel c).bids = (g.udpSnapshot.channel c).bids)
    (hasks : (g'.udpSnapshot.channel c).asks = (g.udpSnapshot.channel c).asks)
    (hready : (g'.udpSnapshot.channel c).ready = (g.udpSnapshot.channel c).ready)
    (hk : ∀ part ∈ p, StaysAwaited g g' part) : SnapshotAligned env g' c p := by
  intro hp
  rw [hready, hbids, hasks]
  refine ⟨?_, (h hp).2⟩
  intro hr
  exact ((h hp).1 hr).congr hbids hasks fun part hpart =>
    snapshotMultiplier_congr hgrows (hk part hpart)

/-- Between units an aligned channel holds nothing, ready or not. -/
theorem SnapshotAligned.nothing {g : Gateway S} {c : UInt16} (h : SnapshotAligned env g c [])
    (hp : UDPSnapshot.publishMarketByPrice env = true) :
    (g.udpSnapshot.channel c).bids = [] ∧ (g.udpSnapshot.channel c).asks = [] := by
  cases hr : (g.udpSnapshot.channel c).ready with
  | false => exact (h hp).2 hr
  | true => exact ⟨((h hp).1 hr).bids, ((h hp).1 hr).asks⟩

omit [Sequencer S] in
theorem next_snapshot (p : List Sbe.Snapshot) (part : Sbe.Snapshot) :
    snapshots.next p (.snapshot part) = if part.isLastInBook.toBool then [] else p ++ [part] := rfl

omit [Sequencer S] in
theorem next_not_snapshot {m : Message} (p : List Sbe.Snapshot) (h : ∀ part, m ≠ .snapshot part) :
    snapshots.next p m = p := by
  cases m with
  | snapshot value => exact absurd rfl (h value)
  | _ => rfl

/-- The parts of one snapshot are all treated alike. -/
theorem snapshotMultiplier_same {g : Gateway S} {p : List Sbe.Snapshot} {part : Sbe.Snapshot}
    (hc : snapshots.Continues p (.snapshot part)) :
    ∀ q ∈ p, g.snapshotMultiplier q = g.snapshotMultiplier part := by
  intro q hq
  have hsame : q.instrumentId = part.instrumentId := hc.1 part rfl q hq
  unfold Gateway.snapshotMultiplier
  rw [hsame]

/-- A ready channel that holds the parts before holds this one, too, once it has appended
    its levels. -/
theorem appendLevels_holds {g : Gateway S} {c : Channel} {p : List Sbe.Snapshot}
    {part : Sbe.Snapshot} {x : Instrument S}
    (hf : g.shared.findInstrument part.instrumentId = some x) (hr : c.ready = true)
    (h : c.Holds Sbe.Snapshot.levelsList g.snapshotMultiplier p) :
    (UDPSnapshot.appendLevels c x part).Holds Sbe.Snapshot.levelsList g.snapshotMultiplier
      (p ++ [part]) := by
  unfold UDPSnapshot.appendLevels
  cases hs : Sequencer.ready x.mbpSequencer with
  | true =>
    have hk : g.snapshotMultiplier part = none := by simp [Gateway.snapshotMultiplier, hf, hs]
    simpa only [hr, Bool.not_true, Bool.and_false, Bool.false_eq_true, if_false] using h.skip hk
  | false =>
    have hk : g.snapshotMultiplier part = some x.multiplier := by
      simp [Gateway.snapshotMultiplier, hf, hs]
    simpa only [hr, Bool.not_false, Bool.and_true, if_true] using h.append hk

omit [Sequencer S] in
theorem holds_nil {c : Channel} {multiplier : Sbe.Snapshot → Option ℚ} (hbids : c.bids = [])
    (hasks : c.asks = []) : c.Holds Sbe.Snapshot.levelsList multiplier [] :=
  .of_empty hbids hasks (by simp)

/-- A snapshot message, first or last of its snapshot or between. -/
theorem snapshotAligned_snapshot (frame : Frame) {g g' : Gateway S} {p : List Sbe.Snapshot}
    {part : Sbe.Snapshot} (h : SnapshotAligned env g frame.channelId p)
    (hc : snapshots.Continues p (.snapshot part))
    (hs : (UDPSnapshot.onSnapshot env frame g part).1 = some g') :
    SnapshotAligned env g' frame.channelId (snapshots.next p (.snapshot part)) := by
  intro hp
  obtain ⟨hready, hidle⟩ := h hp
  rw [next_snapshot]
  obtain ⟨rfl, hp' | hnone⟩ | ⟨x, -, hf, ⟨hl, rfl⟩ | ⟨hl, shared, -, rfl⟩⟩ :=
    UDPSnapshot.onSnapshot_cases hs
  · rw [hp] at hp'
    cases hp'
  · -- the instrument is unknown, and nothing of its snapshot has been collected
    refine ⟨?_, hidle⟩
    intro hr
    have hk : g'.snapshotMultiplier part = none := by simp [Gateway.snapshotMultiplier, hnone]
    cases hl : part.isLastInBook.toBool with
    | false => exact (hready hr).skip hk
    | true =>
      have hskip : ∀ q ∈ p, g'.snapshotMultiplier q = none :=
        fun q hq => (snapshotMultiplier_same hc q hq).trans hk
      exact holds_nil ((hready hr).bids.trans (collected_skipped hskip))
        ((hready hr).asks.trans (collected_skipped hskip))
  · rw [hl, UDPSnapshot.setChannel_self]
    constructor
    · intro hr
      rw [Channel.claim_ready, UDPSnapshot.appendLevels_ready] at hr
      exact (appendLevels_holds hf hr (hready hr)).congr (Channel.claim_bids _ _)
        (Channel.claim_asks _ _) fun _ _ => rfl
    · intro hr
      rw [Channel.claim_ready, UDPSnapshot.appendLevels_ready] at hr
      rw [Channel.claim_bids, Channel.claim_asks]
      unfold UDPSnapshot.appendLevels
      simpa only [hr, Bool.false_and, Bool.false_eq_true, if_false] using hidle hr
  · rw [hl]
    exact ⟨fun _ => holds_nil (by simp) (by simp), fun _ => by simp⟩

/-- A cycle begins or ends on a channel that holds nothing. -/
theorem snapshotAligned_boundary {g : Gateway S} {c : UInt16} {p : List Sbe.Snapshot}
    {channel : Channel} (h : SnapshotAligned env g c p) (hnil : p = [])
    (hbids : channel.bids = (g.udpSnapshot.channel c).bids)
    (hasks : channel.asks = (g.udpSnapshot.channel c).asks) :
    SnapshotAligned env (UDPSnapshot.setChannel g c channel) c p := by
  subst hnil
  intro hp
  obtain ⟨h1, h2⟩ := h.nothing hp
  rw [UDPSnapshot.setChannel_self]
  exact ⟨fun _ => holds_nil (hbids.trans h1) (hasks.trans h2),
    fun _ => ⟨hbids.trans h1, hasks.trans h2⟩⟩

/-- On an aligned channel the last part completes the lists. -/
theorem wholeSnapshot_of_aligned {frame : Frame} {g : Gateway S} {p : List Sbe.Snapshot}
    {m : Message} {call : SnapshotCall} (h : SnapshotAligned env g frame.channelId p)
    (hc : snapshots.Continues p m)
    (ho : .mbpSnapshot call ∈ (UDPSnapshot.onMessage env frame g m).2) :
    WholeSnapshot p m (.mbpSnapshot call) := by
  obtain ⟨part, rfl, ho⟩ := UDPSnapshot.mbpSnapshot_of_onMessage ho
  obtain ⟨hp, hl, x, hf, hr, hsome, hcall | ⟨update, hupdate⟩⟩ := UDPSnapshot.mem_onSnapshot ho
  · obtain rfl := Output.mbpSnapshot.inj hcall
    rw [UDPSnapshot.appendLevels_ready] at hr
    have hold := appendLevels_holds hf hr ((h hp).1 hr)
    have hsame : ∀ q ∈ p ++ [part], g.snapshotMultiplier q = g.snapshotMultiplier part := by
      intro q hq
      rcases List.mem_append.mp hq with hq | hq
      · exact snapshotMultiplier_same hc q hq
      · rw [List.mem_singleton.mp hq]
    cases hs : Sequencer.ready x.mbpSequencer with
    | true =>
      -- then nothing has been collected, and there is no call
      have hk : g.snapshotMultiplier part = none := by simp [Gateway.snapshotMultiplier, hf, hs]
      have hskip : ∀ q ∈ p ++ [part], g.snapshotMultiplier q = none :=
        fun q hq => (hsame q hq).trans hk
      exact absurd ⟨hold.bids.trans (collected_skipped hskip),
        hold.asks.trans (collected_skipped hskip)⟩ hsome
    | false =>
      have hk : g.snapshotMultiplier part = some x.multiplier := by
        simp [Gateway.snapshotMultiplier, hf, hs]
      obtain ⟨hbids, hasks⟩ := hold.all fun q hq => (hsame q hq).trans hk
      exact ⟨part, rfl, hl, hc.1 part rfl, rfl, rfl, hbids, hasks⟩
  · cases hupdate

/-- The snapshot stream keeps its channels aligned with the feed, and a channel that is
    aligned makes whole calls. -/
theorem snapshot_alignment :
    Alignment (UDPSnapshot.receiver (S := S) env) snapshots StaysAwaited BetweenSnapshots
      (SnapshotAligned env) WholeSnapshot where
  frame_self {g g' c n len p} hf h := by
    obtain ⟨hbids, hasks, hready⟩ := UDPSnapshot.onFrame_accepted hf
    obtain ⟨hshared, -⟩ := UDPSnapshot.onFrame_frame g ⟨len, c, n⟩
    rw [show UDPSnapshot.onFrame g ⟨len, c, n⟩ = (true, g') from hf] at hshared
    apply h.congr (hshared ▸ .refl _) hbids hasks hready
    intro part _
    rw [StaysAwaited, Gateway.awaits, hshared, Gateway.awaits]
  frame_other {g g' c c' n len b p} hf hc h := by
    obtain ⟨hshared, -, hother⟩ := UDPSnapshot.onFrame_frame g ⟨len, c, n⟩
    rw [show UDPSnapshot.onFrame g ⟨len, c, n⟩ = (b, g') from hf] at hshared hother
    apply h.congr (hshared ▸ .refl _) (by rw [hother c' hc]) (by rw [hother c' hc])
      (by rw [hother c' hc])
    intro part _
    rw [StaysAwaited, Gateway.awaits, hshared, Gateway.awaits]
  resync {g c p} h := by
    obtain ⟨hbids, hasks, hk⟩ := h
    exact fun _ => ⟨fun hr => .of_empty hbids hasks fun part hpart =>
      snapshotMultiplier_none.mpr (hk hr part hpart), fun _ => ⟨hbids, hasks⟩⟩
  message_self {g g' c n len p m} h hc hs hk := by
    by_cases hm : ∃ part, m = .snapshot part
    · obtain ⟨part, rfl⟩ := hm
      exact snapshotAligned_snapshot ⟨len, c, n⟩ h hc hs
    · have hm' : ∀ part, m ≠ .snapshot part := fun part hpart => hm ⟨part, hpart⟩
      rw [next_not_snapshot p hm'] at hk ⊢
      by_cases hstart : m = .snapshotStart
      · subst hstart
        obtain rfl := Option.some.inj hs
        exact snapshotAligned_boundary h (hc.2 rfl) rfl rfl
      by_cases hend : m = .snapshotEnd
      · subst hend
        obtain rfl := Option.some.inj hs
        exact snapshotAligned_boundary h (hc.2 rfl) rfl rfl
      have hgrows := (UDPSnapshot.onMessage_frame hs).1
      have hchannel := UDPSnapshot.onMessage_not_cycle ⟨hm', hstart, hend⟩ hs
      exact h.congr hgrows (by rw [hchannel]) (by rw [hchannel]) (by rw [hchannel]) hk
  message_other {g g' c c' n len p m} h hc hs hk := by
    obtain ⟨hgrows, -, hother⟩ := UDPSnapshot.onMessage_frame hs
    exact h.congr hgrows (by rw [hother c' hc]) (by rw [hother c' hc]) (by rw [hother c' hc]) hk
  message_good {g c n len p m o} h hc ho := by
    cases o with
    | mbpSnapshot call => exact wholeSnapshot_of_aligned h hc ho
    | _ => trivial
  other {g g' packet c p} h hs hk := by
    obtain ⟨hgrows, hsnapshot⟩ := UDPEvents.receive_frame hs
    exact h.congr hgrows (by rw [hsnapshot]) (by rw [hsnapshot]) (by rw [hsnapshot]) hk

open UDPSnapshot

/-- **Whole snapshots.** Whatever frames are lost and wherever the gateway joins: if it
    resumes a channel only outside a cycle or between snapshots, and no instrument begins or
    ceases to await a snapshot while one of it is under way, every call of the sequencer
    carries a whole snapshot. -/
theorem snapshot_calls_are_whole (env : Env) (first : UInt16 → ℕ)
    (actions : List (Action UInt16 UInt16 Message Packet))
    (hsends : snapshots.Sends (fun _ => []) actions)
    (hadm : Guarded (snapshotSystem env)
      (Admissible (receiver (S := S) env) snapshots StaysAwaited BetweenSnapshots)
      (start S first) actions) :
    ∀ o ∈ (run (snapshotSystem env) (start S first) actions).2,
      WholeSnapshot o.1 o.2.1 o.2.2 :=
  sound snapshot_alignment (inStep_start (Gateway.init S) first) hsends hadm

/-- A part of a snapshot with one bid. -/
def bidLevel (changeId : UInt64) (price : ℚ) (isLast : YesNo) : Sbe.Snapshot :=
  ⟨7, 0, changeId, isLast, [⟨.bid, price, 5⟩]⟩

def twoLevels : List (Action UInt16 UInt16 Message Packet) :=
  [.frame 0 0 [perpetual, .snapshotStart, .snapshot (bidLevel 10 100 .no)] true,
    .frame 0 0 [.snapshot (bidLevel 10 102 .yes)] true]

/-- A snapshot in two parts, received whole. -/
theorem snapshot_calls_are_whole_two_parts :
    ([bidLevel 10 100 .no], .snapshot (bidLevel 10 102 .yes),
        .mbpSnapshot ⟨7, 1, [⟨100, 5, none⟩, ⟨102, 5, none⟩], [], 10, false⟩) ∈
      (run (snapshotSystem Env.plain) (start ChangeIdSequencer fun _ => 5) twoLevels).2 ∧
    WholeSnapshot [bidLevel 10 100 .no] (.snapshot (bidLevel 10 102 .yes))
      (.mbpSnapshot ⟨7, 1, [⟨100, 5, none⟩, ⟨102, 5, none⟩], [], 10, false⟩) := by
  have hcall : ([bidLevel 10 100 .no], .snapshot (bidLevel 10 102 .yes),
      .mbpSnapshot ⟨7, 1, [⟨100, 5, none⟩, ⟨102, 5, none⟩], [], 10, false⟩) ∈
        (run (snapshotSystem Env.plain) (start ChangeIdSequencer fun _ => 5) twoLevels).2 := by
    decide +kernel
  refine ⟨hcall, snapshot_calls_are_whole Env.plain (fun _ => 5) twoLevels ⟨?_, ?_, trivial⟩
    ⟨?_, ?_⟩ _ hcall⟩
  · simp [Fragmentation.ContinuesAll, Fragmentation.Continues, Fragmentation.next, snapshots,
      perpetual]
  · simp [Fragmentation.ContinuesAll, Fragmentation.Continues, Fragmentation.next, snapshots,
      perpetual, bidLevel, YesNo.toBool]
  · -- the first frame: the channel is fresh, and the instrument is known before the part
    intro g hg
    obtain ⟨-, rfl⟩ := Prod.mk.inj hg
    refine ⟨fun _ => ⟨rfl, rfl, by simp⟩, ?_, fun t ht =>
      ⟨?_, fun t' ht' => ⟨?_, fun _ _ => trivial⟩⟩⟩
    · intro t ht
      obtain rfl := Option.some.inj ht
      refine settled_of_single 0 (fun c hc => by simp [hc]) ?_
      intro f hf
      simp [Feed.advance, Feed.accept, Fragmentation.next, snapshots, perpetual] at hf
    · obtain rfl := Option.some.inj ht
      intro t ht
      obtain rfl := Option.some.inj ht
      refine settled_of_single 0 (fun c hc => by simp [hc]) ?_
      intro f hf
      simp [Feed.advance, Feed.accept, Fragmentation.next, snapshots, perpetual] at hf
    · obtain rfl := Option.some.inj ht
      obtain rfl := Option.some.inj ht'
      intro t ht
      obtain rfl := Option.some.inj ht
      refine settled_of_single 0 (fun c hc => by simp [hc]) ?_
      intro f hf
      obtain rfl := List.mem_singleton.mp hf
      rfl
  · -- the second frame: it follows the first, and ends the snapshot
    intro s hs
    obtain rfl := Option.some.inj hs
    refine ⟨?_, fun _ _ => trivial⟩
    intro g hg
    obtain ⟨-, rfl⟩ := Prod.mk.inj hg
    refine ⟨fun h => absurd rfl h, ?_, fun _ _ => trivial⟩
    intro t ht
    obtain rfl := Option.some.inj ht
    refine settled_of_single 0 (fun c hc => by simp [hc]) ?_
    intro f hf
    cases hf

/-- The race the handler's comment speaks of. The first part of the second snapshot is
    skipped, because the sequencer is ready; then a book change that does not follow makes
    the events stream clear the sequencer; and the second part is handed over alone. -/
theorem snapshot_call_is_truncated : ¬∀ actions : List (Action UInt16 UInt16 Message Packet),
    snapshots.Sends (fun _ => []) actions →
      ∀ o ∈ (run (snapshotSystem Env.plain) (start ChangeIdSequencer fun _ => 5) actions).2,
        WholeSnapshot o.1 o.2.1 o.2.2 := by
  intro h
  have hcall := h
    [.frame 0 0 [perpetual, .snapshotStart, .snapshot (bidLevel 10 100 .yes)] true,
      .frame 0 0 [.snapshot (bidLevel 20 200 .no)] true,
      .other ⟨⟨0, 1, 9⟩, [.book ⟨7, 0, 30, 31, .yes, [⟨.bid, 300, 5⟩]⟩]⟩,
      .frame 0 0 [.snapshot (bidLevel 20 201 .yes)] true]
    (by simp [Fragmentation.Sends, Fragmentation.ContinuesAll, Fragmentation.Continues,
      Fragmentation.next, snapshots, perpetual, bidLevel, YesNo.toBool])
    ([bidLevel 20 200 .no], .snapshot (bidLevel 20 201 .yes),
      .mbpSnapshot ⟨7, 1, [⟨201, 5, none⟩], [], 20, false⟩)
    (by decide +kernel)
  obtain ⟨last, hlast, -, -, -, -, hbids, -⟩ := hcall
  obtain rfl := Message.snapshot.inj hlast
  revert hbids
  decide +kernel

end DeribitGateway
