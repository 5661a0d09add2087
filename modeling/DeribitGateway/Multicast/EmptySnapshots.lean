import DeribitGateway.Multicast.SnapshotCompleteness

/-!
# Snapshots without levels

A snapshot that its instrument waits for is handed to the sequencer with its last part. The
handler knows by the accumulated levels whether it has been waited for: where there are none
it takes the snapshot for a skipped one. `snapshots_are_handed_over_iff` says so for every run.

Next to the stream runs the record of one channel: whether it is inside a cycle, and the parts
of the snapshot under way, each with the multiplier its instrument was awaited with
(`Cycle`). A channel holds what its record says (`Tracks`).
-/

namespace DeribitGateway

open Function Transducer

namespace UDPSnapshot

variable {S : Type} [Sequencer S] {env : Env}

/-! ## What arrives -/

/-- The header of a datagram on the snapshot socket, one of its messages, or a datagram on the
    events socket. -/
inductive Arrival
  | frame (frame : Frame)
  | message (frame : Frame) (message : Message)
  | events (packet : Packet)

/-- The outputs are those of the snapshot stream. -/
def arrive (env : Env) : Step (Gateway S) Arrival Output := fun g arrival =>
  match arrival with
  | .frame frame => (some (onFrame g frame).2, [])
  | .message frame message => onMessage env frame g message
  | .events packet => ((UDPEvents.receive env g packet).2.1, [])

/-- A datagram is its header and, if that is accepted, its messages. -/
theorem receive_eq_run (g : Gateway S) (packet : Packet) :
    (receive env g packet).2 = run (arrive env) g (.frame packet.frame ::
      if (onFrame g packet.frame).1 then packet.messages.map (.message packet.frame) else []) := by
  have haccepts : (arrive env g (.frame packet.frame)).1 = some (onFrame g packet.frame).2 := rfl
  rw [run_cons_some _ haccepts]
  unfold receive Parser.dispatch
  rcases hf : onFrame g packet.frame with ⟨_ | _, t⟩
  · rfl
  · rw [if_pos rfl, run_map]
    rfl

/-! ## The record of a channel -/

/-- Inside a cycle, the parts of the snapshot under way. -/
abbrev Cycle := Option (List (Sbe.Snapshot × Option ℚ))

/-- A refused frame ends the cycle of its channel. -/
def Cycle.next (channelId : UInt16) (g : Gateway S) (cycle : Cycle) : Arrival → Cycle
  | .frame frame =>
    if frame.channelId = channelId ∧ (onFrame g frame).1 = false then none else cycle
  | .message frame message =>
    if frame.channelId = channelId then
      match message with
      | .snapshotStart => some []
      | .snapshotEnd => none
      | .snapshot part => cycle.map fun parts =>
        if part.isLastInBook.toBool then []
        else parts ++ [(part, g.snapshotMultiplier part)]
      | _ => cycle
    else cycle
  | .events _ => cycle

/-- Snapshots are complete: a part continues the one under way, and a cycle begins and ends
    between snapshots. -/
def WellFormed (channelId : UInt16) (s : Gateway S × Cycle) : Arrival → Prop
  | .message frame (.snapshot part) => frame.channelId = channelId →
    ∀ parts ∈ s.2, ∀ q ∈ parts, q.1.instrumentId = part.instrumentId
  | .message frame .snapshotStart => frame.channelId = channelId → ∀ parts ∈ s.2, parts = []
  | .message frame .snapshotEnd => frame.channelId = channelId → ∀ parts ∈ s.2, parts = []
  | _ => True

/-- The stream next to the record of a channel. -/
def cycles (env : Env) (channelId : UInt16) : Step (Gateway S × Cycle) Arrival Output :=
  tracking (arrive env) (Cycle.next channelId)

/-! ## The law and its condition -/

/-- The instrument waits, and has waited for every part before. -/
def Waits (g : Gateway S) (parts : List (Sbe.Snapshot × Option ℚ)) (part : Sbe.Snapshot) (k : ℚ) :
    Prop :=
  g.snapshotMultiplier part = some k ∧ ∀ q ∈ parts, q.2.isSome = true

def levels (parts : List (Sbe.Snapshot × Option ℚ)) (last : Sbe.Snapshot) : List Level :=
  parts.flatMap (·.1.levelsList) ++ last.levelsList

def Output.mbpSnapshot? : Output → Option SnapshotCall
  | .mbpSnapshot call => some call
  | _ => none

/-- The calls of the sequencer. -/
def calls (os : List Output) : List SnapshotCall := os.filterMap Output.mbpSnapshot?

/-- A snapshot that is waited for is handed over with its last part, once and whole, and not
    before. -/
def HandsOver (env : Env) (channelId : UInt16) (s : Gateway S × Cycle) (arrival : Arrival) : Prop :=
  ∀ frame part parts k, arrival = .message frame (.snapshot part) → frame.channelId = channelId →
    s.2 = some parts → Waits s.1 parts part k →
    calls (arrive env s.1 arrival).2 =
      if part.isLastInBook.toBool then
        [{ instrumentId := part.instrumentId
           multiplier := k
           bids := bidsOf k (levels parts part)
           asks := asksOf k (levels parts part)
           changeId := part.changeId
           force := false }]
      else []

/-- A snapshot that is waited for has a level, and books are published. -/
def HasLevels (env : Env) (channelId : UInt16) (s : Gateway S × Cycle) (arrival : Arrival) : Prop :=
  ∀ frame part parts k, arrival = .message frame (.snapshot part) → frame.channelId = channelId →
    s.2 = some parts → Waits s.1 parts part k → part.isLastInBook.toBool = true →
    publishMarketByPrice env = true ∧
      ∃ level ∈ levels parts part, level.side = .bid ∨ level.side = .ask

/-! ## What a channel holds -/

/-- Of each part the record has the multiplier of its instrument, if it was awaited. -/
structure Tracks (c : Channel) (g : Gateway S) (parts : List (Sbe.Snapshot × Option ℚ)) : Prop where
  ready : c.ready = true
  holds : c.Holds (fun q => q.1.levelsList) (fun q => q.2) parts
  known : ∀ q ∈ parts, ∀ k ∈ q.2, ∃ x, g.shared.findInstrument q.1.instrumentId = some x ∧
    x.multiplier = k

/-- **Outside of a cycle a channel is not ready and holds nothing; inside it holds the parts
    of the snapshot under way.** -/
def Follows (channelId : UInt16) (s : Gateway S × Cycle) : Prop :=
  match s.2 with
  | none => (s.1.udpSnapshot.channel channelId).ready = false ∧
      (s.1.udpSnapshot.channel channelId).Empty
  | some parts => Tracks (s.1.udpSnapshot.channel channelId) s.1 parts

omit [Sequencer S] in
theorem Tracks.congr {c c' : Channel} {g g' : Gateway S}
    {parts : List (Sbe.Snapshot × Option ℚ)} (h : Tracks c g parts)
    (hgrows : g.shared.Grows g'.shared) (hready : c'.ready = c.ready)
    (hbids : c'.bids = c.bids) (hasks : c'.asks = c.asks) :
    Tracks c' g' parts where
  ready := hready.trans h.ready
  holds := h.holds.congr hbids hasks fun _ _ => rfl
  known q hq k hk := by
    obtain ⟨x, hx, rfl⟩ := h.known q hq k hk
    obtain ⟨x', hx', hm⟩ := hgrows _ x hx
    exact ⟨x', hx', hm⟩

omit [Sequencer S] in
theorem tracks_nil {c : Channel} (g : Gateway S) (hready : c.ready = true) (hempty : c.Empty) :
    Tracks c g [] where
  ready := hready
  holds := .of_empty hempty.1 hempty.2 fun _ h => absurd h List.not_mem_nil
  known _ h := absurd h List.not_mem_nil

omit [Sequencer S] in
/-- Whatever leaves the channel alone. -/
theorem Follows.congr {channelId : UInt16} {g g' : Gateway S} {cycle : Cycle}
    (h : Follows channelId (g, cycle)) (hgrows : g.shared.Grows g'.shared)
    (hready : (g'.udpSnapshot.channel channelId).ready = (g.udpSnapshot.channel channelId).ready)
    (hbids : (g'.udpSnapshot.channel channelId).bids = (g.udpSnapshot.channel channelId).bids)
    (hasks : (g'.udpSnapshot.channel channelId).asks = (g.udpSnapshot.channel channelId).asks) :
    Follows channelId (g', cycle) := by
  cases cycle with
  | none => exact ⟨hready.trans h.1, hbids.trans h.2.1, hasks.trans h.2.2⟩
  | some parts => exact Tracks.congr h hgrows hready hbids hasks

theorem snapshotMultiplier_some {g : Gateway S} {part : Sbe.Snapshot} {k : ℚ} :
    g.snapshotMultiplier part = some k ↔ ∃ x, g.shared.findInstrument part.instrumentId = some x ∧
      Sequencer.ready x.mbpSequencer = false ∧ x.multiplier = k := by
  unfold Gateway.snapshotMultiplier
  cases g.shared.findInstrument part.instrumentId with
  | none => simp
  | some x => cases hready : Sequencer.ready x.mbpSequencer <;> simp [hready]

/-- A part of a known instrument is recorded as it is appended. -/
theorem tracks_append {c : Channel} {g : Gateway S} {parts : List (Sbe.Snapshot × Option ℚ)}
    {part : Sbe.Snapshot} {x : Instrument S} (h : Tracks c g parts)
    (hf : g.shared.findInstrument part.instrumentId = some x) :
    Tracks (appendLevels c x part) g (parts ++ [(part, g.snapshotMultiplier part)]) where
  ready := (appendLevels_ready c x part).trans h.ready
  holds := by
    unfold appendLevels Gateway.snapshotMultiplier
    rw [hf, h.ready]
    have hnone : ((part, none) : Sbe.Snapshot × Option ℚ).2 = none := rfl
    have hsome : ((part, some x.multiplier) : Sbe.Snapshot × Option ℚ).2 = some x.multiplier := rfl
    cases hs : Sequencer.ready x.mbpSequencer with
    | true => simpa [hs] using h.holds.skip hnone
    | false => simpa [hs] using h.holds.append hsome
  known := by
    intro q hq k hk
    rcases List.mem_append.mp hq with hq | hq
    · exact h.known q hq k hk
    · obtain rfl := List.mem_singleton.mp hq
      obtain ⟨x, hx, -, hm⟩ := snapshotMultiplier_some.mp hk
      exact ⟨x, hx, hm⟩

/-- Of an unknown instrument nothing has been taken. -/
theorem tracks_unknown {c : Channel} {g : Gateway S} {parts : List (Sbe.Snapshot × Option ℚ)}
    {part : Sbe.Snapshot} (h : Tracks c g parts)
    (hsame : ∀ q ∈ parts, q.1.instrumentId = part.instrumentId)
    (hnone : g.shared.findInstrument part.instrumentId = none) :
    c.Empty ∧ Tracks c g (parts ++ [(part, g.snapshotMultiplier part)]) := by
  have hskipped : ∀ q ∈ parts, q.2 = none := by
    intro q hq
    cases hk : q.2 with
    | none => rfl
    | some k =>
      obtain ⟨x, hx, -⟩ := h.known q hq k hk
      rw [hsame q hq, hnone] at hx
      cases hx
  have hk : g.snapshotMultiplier part = none := by simp [Gateway.snapshotMultiplier, hnone]
  refine ⟨⟨h.holds.bids.trans (collected_skipped hskipped),
    h.holds.asks.trans (collected_skipped hskipped)⟩, h.ready, ?_, ?_⟩
  · have hnone : ((part, none) : Sbe.Snapshot × Option ℚ).2 = none := rfl
    rw [hk]
    exact h.holds.skip hnone
  · intro q hq k hq'
    rcases List.mem_append.mp hq with hq | hq
    · exact h.known q hq k hq'
    · obtain rfl := List.mem_singleton.mp hq
      rw [show g.snapshotMultiplier part = some k from hq'] at hk
      cases hk

/-! ## The step lemma -/

variable {channelId : UInt16}

theorem follows_frame {g : Gateway S} {cycle : Cycle} (h : Follows channelId (g, cycle))
    (frame : Frame) :
    Follows channelId ((onFrame g frame).2, Cycle.next channelId g cycle (.frame frame)) := by
  obtain ⟨hshared, -, hother⟩ := onFrame_frame g frame
  by_cases hc : frame.channelId = channelId
  · subst hc
    have hself := onFrame_self g frame
    obtain ⟨-, ⟨haccepted, hbids, hasks, hready⟩ | ⟨hrefused, hempty, hready⟩⟩ :=
      Channel.onFrame_cases (g.udpSnapshot.channel frame.channelId) frame
    · have hresult : (onFrame g frame).1 = true := haccepted
      rw [Cycle.next, if_neg (by simp [hresult])]
      exact h.congr (hshared ▸ .refl _) (by rw [hself, hready]) (by rw [hself, hbids])
        (by rw [hself, hasks])
    · have hresult : (onFrame g frame).1 = false := hrefused
      rw [Cycle.next, if_pos ⟨rfl, hresult⟩]
      show ((onFrame g frame).2.udpSnapshot.channel frame.channelId).ready = false ∧ _
      rw [hself]
      exact ⟨hready, hempty⟩
  · rw [Cycle.next, if_neg fun h => hc h.1]
    have hsame := hother channelId fun heq => hc heq.symm
    exact h.congr (hshared ▸ .refl _) (by rw [hsame]) (by rw [hsame]) (by rw [hsame])

/-- A part of a snapshot on the channel. -/
theorem follows_snapshot {frame : Frame} {g g' : Gateway S} {cycle : Cycle} {part : Sbe.Snapshot}
    (hpublish : publishMarketByPrice env = true) (h : Follows frame.channelId (g, cycle))
    (hsame : ∀ parts ∈ cycle, ∀ q ∈ parts, q.1.instrumentId = part.instrumentId)
    (hs : (onSnapshot env frame g part).1 = some g') :
    Follows frame.channelId
      (g', Cycle.next frame.channelId g cycle (.message frame (.snapshot part))) := by
  rw [Cycle.next, if_pos rfl]
  obtain ⟨rfl, hp | hnone⟩ | ⟨x, -, hf, ⟨hl, rfl⟩ | ⟨hl, shared, hgrows, rfl⟩⟩ :=
    onSnapshot_cases hs
  · rw [hpublish] at hp
    cases hp
  -- the instrument is not known: nothing has been taken of it before, so nothing is left behind
  · cases cycle with
    | none => exact h
    | some parts =>
      obtain ⟨hempty, htracks⟩ := tracks_unknown h (hsame parts rfl) hnone
      show Follows _ (g', some (if part.isLastInBook.toBool then [] else _))
      split_ifs
      · exact tracks_nil g' (Tracks.ready h) hempty
      · exact htracks
  -- a part that is not the last is appended
  · cases cycle with
    | none =>
      show ((setChannel g frame.channelId _).udpSnapshot.channel frame.channelId).ready = false ∧ _
      obtain ⟨hready, hempty⟩ := h
      have hnothing : appendLevels (g.udpSnapshot.channel frame.channelId) x part =
          g.udpSnapshot.channel frame.channelId := by
        unfold appendLevels
        rw [hready]
        rfl
      rw [setChannel_self, hnothing, Channel.claim_ready]
      exact ⟨hready, (Channel.claim_bids _ _).trans hempty.1,
        (Channel.claim_asks _ _).trans hempty.2⟩
    | some parts =>
      show Follows _ (_, some (if part.isLastInBook.toBool then [] else _))
      rw [hl]
      show Tracks ((setChannel g frame.channelId _).udpSnapshot.channel frame.channelId) _ _
      rw [setChannel_self]
      exact (tracks_append h hf).congr (.refl _) (Channel.claim_ready _ _)
        (Channel.claim_bids _ _) (Channel.claim_asks _ _)
  -- the last part: whatever the sequencer made of the levels, the channel is cleared
  · cases cycle with
    | none =>
      show ((setChannel g frame.channelId _).udpSnapshot.channel frame.channelId).ready = false ∧ _
      rw [setChannel_self]
      exact ⟨(appendLevels_ready _ _ _).trans h.1, rfl, rfl⟩
    | some parts =>
      show Follows _ (_, some (if part.isLastInBook.toBool then [] else _))
      rw [hl]
      show Tracks ((setChannel g frame.channelId _).udpSnapshot.channel frame.channelId) _ _
      rw [setChannel_self]
      exact tracks_nil _ ((appendLevels_ready _ _ _).trans (Tracks.ready h)) ⟨rfl, rfl⟩

omit [Sequencer S] in
/-- A cycle begins or ends on a channel that holds nothing. -/
theorem Follows.empty {g : Gateway S} {cycle : Cycle} (h : Follows channelId (g, cycle))
    (hnil : ∀ parts ∈ cycle, parts = []) : (g.udpSnapshot.channel channelId).Empty := by
  cases cycle with
  | none => exact h.2
  | some parts =>
    obtain rfl := hnil parts rfl
    exact ⟨(Tracks.holds h).bids, (Tracks.holds h).asks⟩

theorem follows_message {frame : Frame} {g g' : Gateway S} {cycle : Cycle} {m : Message}
    (hpublish : publishMarketByPrice env = true) (h : Follows channelId (g, cycle))
    (hwf : WellFormed channelId (g, cycle) (.message frame m))
    (hs : (onMessage env frame g m).1 = some g') :
    Follows channelId (g', Cycle.next channelId g cycle (.message frame m)) := by
  obtain ⟨hgrows, -, hother⟩ := onMessage_frame hs
  by_cases hc : frame.channelId = channelId
  · subst hc
    by_cases hsnapshot : ∃ part, m = .snapshot part
    · obtain ⟨part, rfl⟩ := hsnapshot
      exact follows_snapshot hpublish h (hwf rfl) hs
    by_cases hstart : m = .snapshotStart
    · subst hstart
      have hempty := h.empty (hwf rfl)
      obtain rfl := Option.some.inj hs
      rw [Cycle.next, if_pos rfl]
      refine tracks_nil _ ?_ ?_
      · rw [setChannel_self]
        rfl
      · rw [setChannel_self]
        exact hempty
    by_cases hend : m = .snapshotEnd
    · subst hend
      have hempty := h.empty (hwf rfl)
      obtain rfl := Option.some.inj hs
      rw [Cycle.next, if_pos rfl]
      show ((setChannel g frame.channelId _).udpSnapshot.channel frame.channelId).ready = false ∧ _
      rw [setChannel_self]
      exact ⟨rfl, hempty⟩
    -- no other message touches the levels of a channel
    have hchannel := onMessage_not_cycle
      ⟨fun part hpart => hsnapshot ⟨part, hpart⟩, hstart, hend⟩ hs
    have hstay : Cycle.next frame.channelId g cycle (.message frame m) = cycle := by
      cases m with
      | snapshot part => exact absurd ⟨part, rfl⟩ hsnapshot
      | snapshotStart => exact absurd rfl hstart
      | snapshotEnd => exact absurd rfl hend
      | _ => exact if_pos rfl
    rw [hstay]
    exact h.congr hgrows (by rw [hchannel]) (by rw [hchannel]) (by rw [hchannel])
  · have hstay : Cycle.next channelId g cycle (.message frame m) = cycle := if_neg hc
    have hsame := hother channelId fun heq => hc heq.symm
    rw [hstay]
    exact h.congr hgrows (by rw [hsame]) (by rw [hsame]) (by rw [hsame])

/-- **The step lemma.** -/
theorem follows_step {s s' : Gateway S × Cycle} {arrival : Arrival}
    (hpublish : publishMarketByPrice env = true) (h : Follows channelId s)
    (hwf : WellFormed channelId s arrival) (hs : (cycles env channelId s arrival).1 = some s') :
    Follows channelId s' := by
  obtain ⟨g, cycle⟩ := s
  obtain ⟨g', cycle'⟩ := s'
  obtain ⟨hnext, rfl⟩ := tracking_some hs
  cases arrival with
  | frame frame =>
    obtain rfl := Option.some.inj hnext
    exact follows_frame h frame
  | message frame m => exact follows_message hpublish h hwf hnext
  | events packet =>
    obtain ⟨hgrows, hsnapshot⟩ := UDPEvents.receive_frame hnext
    exact h.congr hgrows (by rw [hsnapshot]) (by rw [hsnapshot]) (by rw [hsnapshot])

/-! ## What is handed over -/

theorem calls_append (os os' : List Output) : calls (os ++ os') = calls os ++ calls os' :=
  List.filterMap_append

omit [Sequencer S] in
/-- Callbacks do not call the sequencer again. -/
theorem callbacks_calls (instrument : Instrument S) (snapshot : Sbe.Snapshot)
    (callbacks : List Callback) :
    calls (callbacks.flatMap (onCallback env instrument snapshot)) = [] := by
  induction callbacks with
  | nil => rfl
  | cons callback callbacks ih =>
    rw [List.flatMap_cons, calls_append, ih]
    cases callback <;> rfl

/-- The calls of the snapshot handler for a known instrument on a ready channel. -/
theorem onSnapshot_calls {frame : Frame} {g : Gateway S} {part : Sbe.Snapshot}
    {x : Instrument S} (hpublish : publishMarketByPrice env = true)
    (hf : g.shared.findInstrument part.instrumentId = some x)
    (hready : (g.udpSnapshot.channel frame.channelId).ready = true) :
    calls (onSnapshot env frame g part).2 =
      let c := appendLevels (g.udpSnapshot.channel frame.channelId) x part
      if part.isLastInBook.toBool = true ∧ ¬c.Empty then [snapshotCall x part c] else [] := by
  have hchannel := (appendLevels_ready (g.udpSnapshot.channel frame.channelId) x part).trans hready
  unfold onSnapshot
  rw [hpublish, hf]
  dsimp only
  generalize appendLevels (g.udpSnapshot.channel frame.channelId) x part = c at hchannel ⊢
  cases hl : part.isLastInBook.toBool with
  | false => simp [calls]
  | true =>
    have hempty : (c.ready && !(c.bids.isEmpty && c.asks.isEmpty)) = true ↔ ¬c.Empty := by
      simpa [hchannel, Channel.Empty] using imp_iff_not_or.symm
    simp only [Bool.not_true, Bool.false_eq_true, if_false, true_and]
    by_cases hc : c.Empty
    · rw [if_neg (hempty.not.mpr (not_not.mpr hc)), if_neg (not_not.mpr hc)]
      rfl
    · rw [if_pos (hempty.mpr hc), if_pos hc]
      have hcalls : calls (Output.mbpSnapshot (snapshotCall x part c) ::
          (Sequencer.snapshot x.mbpSequencer c.bids c.asks part.changeId false).callbacks.flatMap
            (onCallback env x part)) = [snapshotCall x part c] :=
        congrArg (_ :: ·) (callbacks_calls x part _)
      cases (Sequencer.snapshot x.mbpSequencer c.bids c.asks part.changeId false).outcome <;>
        exact hcalls

omit [Sequencer S] in
/-- Both sides of a channel that holds awaited parts only. -/
theorem tracks_levels {c : Channel} {g : Gateway S} {parts : List (Sbe.Snapshot × Option ℚ)}
    {part : Sbe.Snapshot} {k : ℚ} (h : Tracks c g (parts ++ [(part, some k)]))
    (hsame : ∀ q ∈ parts, q.1.instrumentId = part.instrumentId)
    (hwaits : ∀ q ∈ parts, q.2.isSome = true) :
    c.bids = bidsOf k (levels parts part) ∧ c.asks = asksOf k (levels parts part) := by
  obtain ⟨x, hx, hxk⟩ := h.known (part, some k) (by simp) k rfl
  have hall : ∀ q ∈ parts ++ [(part, some k)], q.2 = some k := by
    intro q hq
    rcases List.mem_append.mp hq with hq' | hq'
    · obtain ⟨k', hk'⟩ := Option.isSome_iff_exists.mp (hwaits q hq')
      obtain ⟨x', hx', hm⟩ := h.known q hq k' hk'
      rw [hsame q hq', hx] at hx'
      obtain rfl := Option.some.inj hx'
      rw [hk', ← hm, hxk]
    · rw [List.mem_singleton.mp hq']
  have hlevels : (parts ++ [(part, some k)]).flatMap (fun q => q.1.levelsList) =
      levels parts part := by
    simp [levels]
  rw [← hlevels]
  exact h.holds.all hall

theorem empty_iff_levels {k : ℚ} {items : List Level} :
    bidsOf k items = [] ∧ asksOf k items = [] ↔
      ¬∃ level ∈ items, level.side = .bid ∨ level.side = .ask := by
  simp only [bidsOf, asksOf, List.map_eq_nil_iff, List.filter_eq_nil_iff, decide_eq_true_eq,
    not_exists, not_and, not_or]
  exact ⟨fun h level hmem => ⟨h.1 level hmem, h.2 level hmem⟩,
    fun h => ⟨fun level hmem => (h level hmem).1, fun level hmem => (h level hmem).2⟩⟩

/-- The call for a part that is waited for. -/
theorem waits_calls {frame : Frame} {g : Gateway S} {parts : List (Sbe.Snapshot × Option ℚ)}
    {part : Sbe.Snapshot} {k : ℚ} (hpublish : publishMarketByPrice env = true)
    (h : Tracks (g.udpSnapshot.channel frame.channelId) g parts)
    (hsame : ∀ q ∈ parts, q.1.instrumentId = part.instrumentId) (hwaits : Waits g parts part k) :
    calls (onSnapshot env frame g part).2 =
      if part.isLastInBook.toBool = true ∧
          ∃ level ∈ levels parts part, level.side = .bid ∨ level.side = .ask then
        [{ instrumentId := part.instrumentId
           multiplier := k
           bids := bidsOf k (levels parts part)
           asks := asksOf k (levels parts part)
           changeId := part.changeId
           force := false }]
      else [] := by
  obtain ⟨x, hf, -, hxk⟩ := snapshotMultiplier_some.mp hwaits.1
  have htracks := tracks_append h hf
  rw [hwaits.1] at htracks
  obtain ⟨hbids, hasks⟩ := tracks_levels htracks hsame hwaits.2
  rw [onSnapshot_calls hpublish hf h.ready]
  refine if_congr (and_congr_right fun _ => ?_) ?_ rfl
  · rw [Channel.Empty, hbids, hasks, empty_iff_levels, not_not]
  · rw [snapshotCall, hbids, hasks, hxk]

theorem onSnapshot_silent {frame : Frame} {g : Gateway S} {part : Sbe.Snapshot}
    (h : publishMarketByPrice env = false) : calls (onSnapshot env frame g part).2 = [] := by
  unfold onSnapshot
  rw [h]
  rfl

/-- What one arrival hands over. -/
theorem handsOver_iff {s : Gateway S × Cycle} {arrival : Arrival}
    (h : publishMarketByPrice env = true → Follows channelId s)
    (hwf : WellFormed channelId s arrival) :
    HandsOver env channelId s arrival ↔ HasLevels env channelId s arrival := by
  obtain ⟨g, cycle⟩ := s
  constructor
  · rintro hands frame part parts k rfl rfl hcycle hwaits hlast
    have hcalls := hands frame part parts k rfl rfl hcycle hwaits
    rw [if_pos hlast] at hcalls
    obtain rfl : cycle = some parts := hcycle
    -- there is a call, and the other branches make none
    cases hpublish : publishMarketByPrice env with
    | false =>
      rw [show calls (arrive env g (.message frame (.snapshot part))).2 = [] from
        onSnapshot_silent hpublish] at hcalls
      cases hcalls
    | true =>
      refine ⟨rfl, ?_⟩
      by_contra hnone
      rw [show calls (arrive env g (.message frame (.snapshot part))).2 = _ from
        waits_calls hpublish (h hpublish) (hwf rfl parts rfl) hwaits,
        if_neg fun hlevels => hnone hlevels.2] at hcalls
      cases hcalls
  · rintro hlevels frame part parts k rfl rfl hcycle hwaits
    obtain rfl : cycle = some parts := hcycle
    cases hlast : part.isLastInBook.toBool with
    | true =>
      obtain ⟨hpublish, hexists⟩ := hlevels frame part parts k rfl rfl rfl hwaits hlast
      refine (waits_calls hpublish (h hpublish) (hwf rfl parts rfl) hwaits).trans ?_
      rw [if_pos ⟨hlast, hexists⟩, if_pos rfl]
    | false =>
      rw [if_neg (by decide)]
      cases hpublish : publishMarketByPrice env with
      | false => exact onSnapshot_silent hpublish
      | true =>
        refine (waits_calls hpublish (h hpublish) (hwf rfl parts rfl) hwaits).trans ?_
        rw [if_neg (by simp [hlast])]

/-! ## Runs -/

/-- Before the first datagram, outside of a cycle. -/
abbrev outside (S : Type) : Gateway S × Cycle := (Gateway.init S, none)

/-- **Snapshots that are waited for.** In a run all of them are handed over, once and whole,
    exactly when each of them has a level and books are published. -/
theorem snapshots_are_handed_over_iff (env : Env) (channelId : UInt16) (arrivals : List Arrival)
    (hwf : Guarded (cycles (S := S) env channelId) (WellFormed channelId) (outside S) arrivals) :
    Guarded (cycles env channelId) (HandsOver env channelId) (outside S) arrivals ↔
      Guarded (cycles env channelId) (HasLevels env channelId) (outside S) arrivals := by
  have hkeeps : ∀ (s : Gateway S × Cycle) (i : Arrival) (s' : Gateway S × Cycle),
      (publishMarketByPrice env = true → Follows channelId s) → WellFormed channelId s i →
      (cycles env channelId s i).1 = some s' →
      (publishMarketByPrice env = true → Follows channelId s') :=
    fun s i s' h hi hs hpublish => follows_step hpublish (h hpublish) hi hs
  have hstart : publishMarketByPrice env = true → Follows channelId (outside S) :=
    fun _ => ⟨rfl, rfl, rfl⟩
  exact Guarded.congr hkeeps (fun s i hs hi => handsOver_iff hs hi) hstart hwf

/-- A cycle with one snapshot of instrument 7. -/
def oneSnapshot (part : Sbe.Snapshot) : List Arrival :=
  [.frame ⟨0, 0, 1⟩, .message ⟨0, 0, 1⟩ perpetual, .message ⟨0, 0, 1⟩ .snapshotStart,
    .message ⟨0, 0, 1⟩ (.snapshot part)]

theorem oneSnapshot_wellFormed (part : Sbe.Snapshot) :
    Guarded (cycles Env.plain 0) (WellFormed 0) (outside ChangeIdSequencer)
      (oneSnapshot part) := by
  refine ⟨trivial, fun s hs => ⟨trivial, fun s' hs' => ⟨?_, fun s'' hs'' => ⟨?_, fun _ _ =>
    trivial⟩⟩⟩⟩
  · obtain rfl := Option.some.inj hs
    obtain rfl := Option.some.inj hs'
    intro _ parts hparts
    cases hparts
  · obtain rfl := Option.some.inj hs
    obtain rfl := Option.some.inj hs'
    obtain rfl := Option.some.inj hs''
    intro _ parts hparts q hq
    obtain rfl := Option.some.inj hparts
    cases hq

/-- A snapshot with one bid. -/
theorem oneSnapshot_handed_over :
    Guarded (cycles Env.plain 0) (HandsOver Env.plain 0) (outside ChangeIdSequencer)
      (oneSnapshot (bidLevel 10 100 .yes)) := by
  refine (snapshots_are_handed_over_iff Env.plain 0 _ (oneSnapshot_wellFormed _)).mpr ?_
  refine ⟨?_, fun _ _ => ⟨?_, fun _ _ => ⟨?_, fun _ _ => ⟨?_, fun _ _ => trivial⟩⟩⟩⟩
  · intro frame part parts k h
    cases h
  · intro frame part parts k h
    cases h
  · intro frame part parts k h
    cases h
  · rintro frame part parts k h - - - -
    cases h
    exact ⟨rfl, ⟨.bid, 100, 5⟩, List.mem_append_right _ List.mem_cons_self, .inl rfl⟩

/-- A snapshot of an emptied book. -/
theorem empty_snapshot_not_handed_over : ¬∀ part : Sbe.Snapshot,
    Guarded (cycles Env.plain 0) (HandsOver Env.plain 0) (outside ChangeIdSequencer)
      (oneSnapshot part) := by
  intro h
  obtain ⟨-, h₁⟩ := h ⟨7, 0, 10, .yes, []⟩
  obtain ⟨hands, -⟩ := ((h₁ _ rfl).2 _ rfl).2 _ rfl
  have hcalls := hands ⟨0, 0, 1⟩ ⟨7, 0, 10, .yes, []⟩ [] 1 rfl rfl rfl
    ⟨by decide +kernel, fun q hq => nomatch hq⟩
  revert hcalls
  decide +kernel

end UDPSnapshot

end DeribitGateway
