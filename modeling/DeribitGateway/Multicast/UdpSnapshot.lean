import DeribitGateway.Multicast.UdpEvents

/-!
# `UDPSnapshot` — the snapshot channel

`gateway/udp_snapshot.cpp`: book snapshots, in cycles framed by `SnapshotStart` and
`SnapshotEnd`, and the instruments. The handler of a snapshot part appends its levels while
the channel is ready and the instrument's sequencer is not; the last part hands the
accumulated levels to the sequencer if there are any.
-/

namespace DeribitGateway

open Function Transducer

namespace UDPSnapshot

variable {S : Type}

def publishMarketByPrice (env : Env) : Bool := !env.disableMarketByPrice

def setChannel (g : Gateway S) (channelId : UInt16) (channel : Channel) : Gateway S :=
  { g with udpSnapshot := ⟨update g.udpSnapshot.channel channelId channel⟩ }

@[simp] theorem setChannel_shared (g : Gateway S) (c : UInt16) (channel : Channel) :
    (setChannel g c channel).shared = g.shared := rfl

@[simp] theorem setChannel_self (g : Gateway S) (c : UInt16) (channel : Channel) :
    (setChannel g c channel).udpSnapshot.channel c = channel := by
  simp [setChannel]

theorem setChannel_other (g : Gateway S) {c c' : UInt16} (channel : Channel) (h : c' ≠ c) :
    (setChannel g c channel).udpSnapshot.channel c' = g.udpSnapshot.channel c' := by
  simp [setChannel, h]

/-- `operator()(Frame)` -/
def onFrame (g : Gateway S) (frame : Frame) : Bool × Gateway S :=
  let (result, channel) := (g.udpSnapshot.channel frame.channelId).onFrame frame
  (result, setChannel g frame.channelId channel)

/-- `publish_snapshot` and `request_snapshot` of the snapshot handler. A sequencer given a
    snapshot has no `publish_update` to call. -/
def onCallback (env : Env) (instrument : Instrument S) (snapshot : Sbe.Snapshot) :
    Callback → List Output
  | .publishUpdate _ _ => []
  | .publishSnapshot bids asks exchangeSequence =>
    [.marketByPriceUpdate
      { streamId := env.snapshotStreamId
        exchange := env.exchange
        symbol := instrument.symbol
        bids := bids
        asks := asks
        updateType := .snapshot
        exchangeTimeUtc := snapshot.timestampMs.toInt64
        exchangeSequence := exchangeSequence }]
  | .requestSnapshot => []  -- note! just wait for next snapshot

variable [Sequencer S]

/-- The channel after the levels of one part: they are skipped unless the channel is ready
    and the sequencer is not. -/
def appendLevels (channel : Channel) (instrument : Instrument S) (snapshot : Sbe.Snapshot) :
    Channel :=
  if channel.ready && !Sequencer.ready instrument.mbpSequencer then
    channel.appendAll instrument.multiplier snapshot.levelsList
  else channel

/-- What the sequencer is called with for the last part of a snapshot. -/
def snapshotCall (instrument : Instrument S) (snapshot : Sbe.Snapshot) (channel : Channel) :
    SnapshotCall where
  instrumentId := snapshot.instrumentId
  multiplier := instrument.multiplier
  bids := channel.bids
  asks := channel.asks
  changeId := snapshot.changeId
  force := false

def onSnapshot (env : Env) (frame : Frame) : Step (Gateway S) Sbe.Snapshot Output :=
  fun g snapshot =>
  if !publishMarketByPrice env then (some g, [])
  else
    match g.shared.findInstrument snapshot.instrumentId with
    | none => (some g, [])  -- unknown instrument_id
    | some instrument =>
      let channel := appendLevels (g.udpSnapshot.channel frame.channelId) instrument snapshot
      if !snapshot.isLastInBook.toBool then
        (some (setChannel g frame.channelId (channel.claim snapshot.instrumentId)), [])
      else if channel.ready && !(channel.bids.isEmpty && channel.asks.isEmpty) then
        let called := Sequencer.snapshot instrument.mbpSequencer channel.bids channel.asks
          snapshot.changeId false
        let outputs := Output.mbpSnapshot (snapshotCall instrument snapshot channel) ::
          called.callbacks.flatMap (onCallback env instrument snapshot)
        match called.outcome with
        | .returned =>
          (some { setChannel g frame.channelId channel.clear with
              shared := g.shared.setSequencer snapshot.instrumentId called.state }, outputs)
        | .badState | .failed => (none, outputs)  -- nothing catches here
      else (some (setChannel g frame.channelId channel.clear), [])

def onMessage (env : Env) (frame : Frame) : Step (Gateway S) Message Output := fun g message =>
  match message with
  | .instrument value => (some (g.onInstrument env value), [])
  | .snapshot value => onSnapshot env frame g value
  | .snapshotStart =>
    (some (setChannel g frame.channelId
      (g.udpSnapshot.channel frame.channelId).snapshotStart), [])
  | .snapshotEnd =>
    (some (setChannel g frame.channelId
      (g.udpSnapshot.channel frame.channelId).snapshotEnd), [])
  | .ticker _ | .instrumentV2 => (some g, [])
  | .book _ | .trades _ | .comboLegs | .priceIndex | .rfq => (none, [])  -- log::fatal

/-- One datagram from the snapshot socket. -/
def receive (env : Env) (g : Gateway S) (packet : Packet) :
    Bool × Option (Gateway S) × List Output :=
  Parser.dispatch onFrame (onMessage env) g packet

/-! ## What a message can do -/

/-- The outputs of the snapshot handler: nothing, unless the message is the last part of a
    snapshot on a ready channel that holds levels; then the call and what its callbacks
    publish. -/
theorem mem_onSnapshot {env : Env} {frame : Frame} {g : Gateway S} {snapshot : Sbe.Snapshot}
    {o : Output} (h : o ∈ (onSnapshot env frame g snapshot).2) :
    publishMarketByPrice env = true ∧ snapshot.isLastInBook.toBool = true ∧
      ∃ instrument, g.shared.findInstrument snapshot.instrumentId = some instrument ∧
        (appendLevels (g.udpSnapshot.channel frame.channelId) instrument snapshot).ready = true ∧
        ¬((appendLevels (g.udpSnapshot.channel frame.channelId) instrument snapshot).bids = [] ∧
          (appendLevels (g.udpSnapshot.channel frame.channelId) instrument snapshot).asks = []) ∧
        (o = .mbpSnapshot (snapshotCall instrument snapshot
            (appendLevels (g.udpSnapshot.channel frame.channelId) instrument snapshot)) ∨
          ∃ update, o = .marketByPriceUpdate update) := by
  unfold onSnapshot at h
  cases hp : publishMarketByPrice env with
  | false => simp [hp] at h
  | true =>
    cases hf : g.shared.findInstrument snapshot.instrumentId with
    | none => simp [hp, hf] at h
    | some instrument =>
      cases hl : snapshot.isLastInBook.toBool with
      | false => simp [hp, hf, hl] at h
      | true =>
        refine ⟨rfl, rfl, instrument, rfl, ?_⟩
        simp only [hp, hf, hl, Bool.not_true, Bool.false_eq_true, if_false] at h
        split at h
        · next hready =>
          simp only [Bool.and_eq_true, Bool.not_eq_true', Bool.and_eq_false_iff,
            List.isEmpty_eq_false_iff] at hready
          refine ⟨hready.1, fun he => hready.2.elim (· he.1) (· he.2), ?_⟩
          have h' : o ∈ Output.mbpSnapshot (snapshotCall instrument snapshot
                (appendLevels (g.udpSnapshot.channel frame.channelId) instrument snapshot)) ::
              (Sequencer.snapshot instrument.mbpSequencer
                (appendLevels (g.udpSnapshot.channel frame.channelId) instrument snapshot).bids
                (appendLevels (g.udpSnapshot.channel frame.channelId) instrument snapshot).asks
                snapshot.changeId false).callbacks.flatMap
                (onCallback env instrument snapshot) := by
            split at h <;> exact h
          rcases List.mem_cons.mp h' with h' | h'
          · exact .inl h'
          · obtain ⟨cb, -, ho⟩ := List.mem_flatMap.mp h'
            cases cb with
            | publishUpdate bids asks => simp [onCallback] at ho
            | publishSnapshot bids asks n => exact .inr ⟨_, List.mem_singleton.mp ho⟩
            | requestSnapshot => simp [onCallback] at ho
        · simp at h

/-- Where the snapshot handler leads. -/
theorem onSnapshot_cases {env : Env} {frame : Frame} {g g' : Gateway S} {snapshot : Sbe.Snapshot}
    (h : (onSnapshot env frame g snapshot).1 = some g') :
    g' = g ∧ (publishMarketByPrice env = false ∨
        g.shared.findInstrument snapshot.instrumentId = none) ∨
      ∃ instrument, publishMarketByPrice env = true ∧
        g.shared.findInstrument snapshot.instrumentId = some instrument ∧
        (snapshot.isLastInBook.toBool = false ∧
            g' = setChannel g frame.channelId
              ((appendLevels (g.udpSnapshot.channel frame.channelId) instrument snapshot).claim
                snapshot.instrumentId) ∨
          snapshot.isLastInBook.toBool = true ∧ ∃ shared,
            g.shared.Grows shared ∧
            g' = { setChannel g frame.channelId
                  (appendLevels (g.udpSnapshot.channel frame.channelId) instrument
                    snapshot).clear with shared := shared }) := by
  unfold onSnapshot at h
  cases hp : publishMarketByPrice env with
  | false =>
    simp only [hp, Bool.not_false, if_true, Option.some.injEq] at h
    exact .inl ⟨h.symm, .inl rfl⟩
  | true =>
    cases hf : g.shared.findInstrument snapshot.instrumentId with
    | none =>
      simp only [hp, hf, Bool.not_true, Bool.false_eq_true, if_false, Option.some.injEq] at h
      exact .inl ⟨h.symm, .inr rfl⟩
    | some instrument =>
      refine .inr ⟨instrument, rfl, rfl, ?_⟩
      cases hl : snapshot.isLastInBook.toBool with
      | false =>
        simp only [hp, hf, hl, Bool.not_true, Bool.not_false, Bool.false_eq_true, if_false, if_true,
          Option.some.injEq] at h
        exact .inl ⟨rfl, h.symm⟩
      | true =>
        simp only [hp, hf, hl, Bool.not_true, Bool.false_eq_true, if_false] at h
        refine .inr ⟨rfl, ?_⟩
        split at h
        · split at h
          · exact ⟨_, grows_setSequencer _ _ _, (Option.some.inj h).symm⟩
          · simp at h
          · simp at h
        · exact ⟨g.shared, .refl _, (Option.some.inj h).symm⟩

/-- A message leaves alone the events stream, every other channel, and the instruments but
    for their sequencers. -/
theorem onMessage_frame {env : Env} {frame : Frame} {g g' : Gateway S} {m : Message}
    (h : (onMessage env frame g m).1 = some g') :
    g.shared.Grows g'.shared ∧ g'.udpEvents = g.udpEvents ∧
      ∀ c, c ≠ frame.channelId → g'.udpSnapshot.channel c = g.udpSnapshot.channel c := by
  cases m with
  | instrument value =>
    obtain rfl := Option.some.inj h
    exact ⟨grows_onInstrument env g value, rfl, fun _ _ => rfl⟩
  | snapshot value =>
    obtain ⟨rfl, -⟩ | ⟨instrument, -, -, ⟨-, rfl⟩ | ⟨-, shared, hgrows, rfl⟩⟩ :=
      onSnapshot_cases h
    · exact ⟨.refl _, rfl, fun _ _ => rfl⟩
    · exact ⟨.refl _, rfl, fun c hc => setChannel_other g _ hc⟩
    · exact ⟨hgrows, rfl, fun c hc => setChannel_other g _ hc⟩
  | snapshotStart | snapshotEnd =>
    obtain rfl := Option.some.inj h
    exact ⟨.refl _, rfl, fun c hc => setChannel_other g _ hc⟩
  | ticker _ | instrumentV2 =>
    obtain rfl := Option.some.inj h
    exact ⟨.refl _, rfl, fun _ _ => rfl⟩
  | book _ | trades _ | comboLegs | priceIndex | rfq => simp [onMessage] at h

omit [Sequencer S] in
theorem onFrame_self (g : Gateway S) (frame : Frame) :
    (onFrame g frame).2.udpSnapshot.channel frame.channelId =
      ((g.udpSnapshot.channel frame.channelId).onFrame frame).2 :=
  setChannel_self g frame.channelId _

omit [Sequencer S] in
/-- A frame touches its channel only. -/
theorem onFrame_frame (g : Gateway S) (frame : Frame) :
    (onFrame g frame).2.shared = g.shared ∧
      (onFrame g frame).2.udpEvents = g.udpEvents ∧
      ∀ c, c ≠ frame.channelId →
        (onFrame g frame).2.udpSnapshot.channel c = g.udpSnapshot.channel c :=
  ⟨rfl, rfl, fun _ hc => setChannel_other g _ hc⟩

omit [Sequencer S] in
/-- An accepted frame leaves what the channel holds, and whether it is ready. -/
theorem onFrame_accepted {g g' : Gateway S} {frame : Frame} (h : onFrame g frame = (true, g')) :
    (g'.udpSnapshot.channel frame.channelId).bids =
        (g.udpSnapshot.channel frame.channelId).bids ∧
      (g'.udpSnapshot.channel frame.channelId).asks =
        (g.udpSnapshot.channel frame.channelId).asks ∧
      (g'.udpSnapshot.channel frame.channelId).ready =
        (g.udpSnapshot.channel frame.channelId).ready := by
  obtain ⟨hacc, rfl⟩ := Prod.mk.inj h
  rw [setChannel_self]
  obtain ⟨-, ⟨-, hkept⟩ | ⟨hrefused, -⟩⟩ :=
    Channel.onFrame_cases (g.udpSnapshot.channel frame.channelId) frame
  · exact hkept
  · exact absurd (hrefused.symm.trans hacc) Bool.false_ne_true

/-- Only the messages of the snapshot cycle move the accumulators. -/
theorem onMessage_not_cycle {env : Env} {frame : Frame} {g g' : Gateway S} {m : Message}
    (hm : (∀ part, m ≠ .snapshot part) ∧ m ≠ .snapshotStart ∧ m ≠ .snapshotEnd)
    (h : (onMessage env frame g m).1 = some g') : g'.udpSnapshot = g.udpSnapshot := by
  cases m with
  | snapshot value => exact absurd rfl (hm.1 value)
  | snapshotStart => exact absurd rfl hm.2.1
  | snapshotEnd => exact absurd rfl hm.2.2
  | instrument _ | ticker _ | instrumentV2 =>
    obtain rfl := Option.some.inj h
    rfl
  | book _ | trades _ | comboLegs | priceIndex | rfq => simp [onMessage] at h

/-- Only snapshot messages call the sequencer. -/
theorem mbpSnapshot_of_onMessage {env : Env} {frame : Frame} {g : Gateway S} {m : Message}
    {call : SnapshotCall} (h : .mbpSnapshot call ∈ (onMessage env frame g m).2) :
    ∃ part, m = .snapshot part ∧ .mbpSnapshot call ∈ (onSnapshot env frame g part).2 := by
  cases m with
  | snapshot value => exact ⟨value, rfl, h⟩
  | _ => simp [onMessage] at h

@[simp] theorem appendLevels_ready (c : Channel) (x : Instrument S) (part : Sbe.Snapshot) :
    (appendLevels c x part).ready = c.ready := by
  unfold appendLevels
  split
  · rw [Channel.appendAll_eq]
  · rfl

@[simp] theorem appendLevels_sequence (c : Channel) (x : Instrument S) (part : Sbe.Snapshot) :
    (appendLevels c x part).sequence = c.sequence := by
  unfold appendLevels
  split
  · rw [Channel.appendAll_sequence]
  · rfl

/-- Messages have no say in what becomes of later frames. -/
theorem onMessage_sequence {env : Env} {frame : Frame} {g g' : Gateway S} {m : Message}
    (h : (onMessage env frame g m).1 = some g') (c : UInt16) :
    (g'.udpSnapshot.channel c).sequence = (g.udpSnapshot.channel c).sequence := by
  by_cases hc : c = frame.channelId
  · subst hc
    cases m with
    | snapshot value =>
      obtain ⟨rfl, -⟩ | ⟨x, -, -, ⟨-, rfl⟩ | ⟨-, shared, -, rfl⟩⟩ := onSnapshot_cases h
      · rfl
      · simp
      · simp
    | snapshotStart | snapshotEnd =>
      obtain rfl := Option.some.inj h
      simp
    | instrument _ | ticker _ | instrumentV2 =>
      obtain rfl := Option.some.inj h
      rfl
    | book _ | trades _ | comboLegs | priceIndex | rfq => simp [onMessage] at h
  · rw [(onMessage_frame h).2.2 c hc]

/-- A datagram of the snapshot socket does not touch the events stream. -/
theorem receive_frame {env : Env} {g g' : Gateway S} {packet : Packet}
    (h : (receive env g packet).2.1 = some g') :
    g.shared.Grows g'.shared ∧ g'.udpEvents = g.udpEvents := by
  refine Parser.dispatch_keeps (I := fun t => g.shared.Grows t.shared ∧ t.udpEvents = g.udpEvents)
    ⟨.refl _, rfl⟩ ?_ h
  intro t m t' ht hm
  obtain ⟨hgrows, hevents, -⟩ := onMessage_frame hm
  exact ⟨ht.1.trans hgrows, hevents.trans ht.2⟩

/-- Behind a datagram every channel remembers what the frame handler made it remember. -/
theorem receive_sequence {env : Env} {g g' : Gateway S} {packet : Packet}
    (h : (receive env g packet).2.1 = some g') (c : UInt16) :
    (g'.udpSnapshot.channel c).sequence =
      ((onFrame g packet.frame).2.udpSnapshot.channel c).sequence :=
  Parser.dispatch_keeps
    (I := fun t => (t.udpSnapshot.channel c).sequence =
      ((onFrame g packet.frame).2.udpSnapshot.channel c).sequence)
    rfl (fun _ _ _ ht hm => (onMessage_sequence hm c).trans ht) h

end UDPSnapshot

end DeribitGateway
