import DeribitGateway.Multicast.UdpSnapshot

/-!
# Copies of a datagram

A copy of the frame a channel received last is refused, but refused like a gap: the channel
is reset, and loses the parts it holds and the snapshot cycle it is in. A copy that comes
later still moves `previous_sequence_number` backwards, so that the next genuine frame is
refused; there is no re-order buffer (`it's not A+B, so why bother?`).

What remains is `copies_are_harmless`: copies of the last frame of a channel, delivered while
the channel holds nothing and is in no cycle, leave no trace in anything the gateway does.
The proof drops them from the run as stutters. They do leave a trace in `instrument_id`,
which nothing but assertions reads, so states are compared up to that field.
-/

namespace DeribitGateway

open Function Transducer

/-! ## Deliveries and reports -/

inductive Socket
  | events
  | snapshot
  deriving DecidableEq

/-- A datagram that arrives, as the exchange sent it or as a copy. -/
structure Delivery where
  copy : Bool
  socket : Socket
  packet : Packet

/-- The decision about the frame of a delivery, and what its messages made the gateway do. -/
structure Report where
  copy : Bool
  accepted : Bool
  outputs : List Output
  deriving DecidableEq

/-- A copy that is refused. -/
def Report.ignored : Report := ⟨true, false, []⟩

/-- The channel a delivery belongs to. -/
def Delivery.key (d : Delivery) : Socket × UInt16 := (d.socket, d.packet.frame.channelId)

/-- Each copy repeats the delivery before it on its channel; `last` is what came so far. -/
def Copies : (Socket × UInt16 → Option Packet) → List Delivery → Prop
  | _, [] => True
  | last, d :: ds => (d.copy = true → last d.key = some d.packet) ∧
      Copies (update last d.key (some d.packet)) ds

/-- The channel holds nothing and is in no snapshot cycle. -/
def Channel.Idle (c : Channel) : Prop := c.bids = [] ∧ c.asks = [] ∧ c.ready = false

/-- A channel without `instrument_id`. -/
def Channel.forget (c : Channel) : Channel := { c with instrumentId := 0 }

section

variable {S : Type}

def Gateway.channelAt (g : Gateway S) : Socket × UInt16 → Channel
  | (.events, channelId) => g.udpEvents.channel channelId
  | (.snapshot, channelId) => g.udpSnapshot.channel channelId

/-- The gateway up to `instrument_id` in its channels. -/
def Gateway.forget (g : Gateway S) : Gateway S where
  shared := g.shared
  udpEvents := { g.udpEvents with channel := fun c => (g.udpEvents.channel c).forget }
  udpSnapshot := ⟨fun c => (g.udpSnapshot.channel c).forget⟩

end

variable {S : Type} [Sequencer S]

def Gateway.receive (env : Env) (g : Gateway S) :
    Socket → Packet → Bool × Option (Gateway S) × List Output
  | .events, packet => UDPEvents.receive env g packet
  | .snapshot, packet => UDPSnapshot.receive env g packet

def deliver (env : Env) : Step (Gateway S) Delivery Report := fun g d =>
  let (accepted, g', outputs) := g.receive env d.socket d.packet
  (g', [⟨d.copy, accepted, outputs⟩])

/-! ## `instrument_id` does not matter -/

namespace Channel

@[simp] theorem forget_forget (c : Channel) : c.forget.forget = c.forget := rfl

@[simp] theorem forget_bids (c : Channel) : c.forget.bids = c.bids := rfl

@[simp] theorem forget_asks (c : Channel) : c.forget.asks = c.asks := rfl

@[simp] theorem forget_ready (c : Channel) : c.forget.ready = c.ready := rfl

@[simp] theorem forget_appendAll (c : Channel) (multiplier : ℚ) (items : List Level) :
    c.forget.appendAll multiplier items = (c.appendAll multiplier items).forget := by
  rw [appendAll_eq, appendAll_eq]
  rfl

@[simp] theorem forget_claim (c : Channel) (i : UInt32) : (c.claim i).forget = c.forget := by
  unfold claim; split <;> rfl

@[simp] theorem clear_forget (c : Channel) : c.forget.clear = c.clear := rfl

/-- Decisions about frames do not depend on `instrument_id`. -/
theorem forget_onFrame (c : Channel) (f : Frame) :
    (c.forget.onFrame f).1 = (c.onFrame f).1 ∧
      (c.forget.onFrame f).2.forget = (c.onFrame f).2.forget := by
  unfold onFrame accept
  by_cases h1 : f.sequenceNumber = c.previousSequenceNumber + 1
  · simp [h1, forget]
  · by_cases h2 : f.sequenceNumber = c.previousSequenceNumber
    · simp [h2, forget, reset]
    · by_cases h3 : c.initialized = true <;> simp [h1, h2, h3, forget, reset]

end Channel

section

variable {S : Type}

@[simp] theorem forget_shared (g : Gateway S) : g.forget.shared = g.shared := rfl

@[simp] theorem forget_events (g : Gateway S) (c : UInt16) :
    g.forget.udpEvents.channel c = (g.udpEvents.channel c).forget := rfl

@[simp] theorem forget_snapshot (g : Gateway S) (c : UInt16) :
    g.forget.udpSnapshot.channel c = (g.udpSnapshot.channel c).forget := rfl

@[simp] theorem forget_forget (g : Gateway S) : g.forget.forget = g.forget := rfl

theorem forget_withShared (g : Gateway S) (shared : Shared S) :
    ({ g with shared := shared } : Gateway S).forget = { g.forget with shared := shared } := rfl

theorem forget_setEvents (g : Gateway S) (c : UInt16) (channel : Channel) :
    (UDPEvents.setChannel g c channel).forget =
      UDPEvents.setChannel g.forget c channel.forget := by
  have hch : (fun c' => (update g.udpEvents.channel c channel c').forget) =
      update (fun c' => (g.udpEvents.channel c').forget) c channel.forget := by
    funext c'
    by_cases hc : c' = c
    · subst hc
      simp
    · simp [hc]
  simp only [Gateway.forget, UDPEvents.setChannel, hch]

theorem forget_setSnapshot (g : Gateway S) (c : UInt16) (channel : Channel) :
    (UDPSnapshot.setChannel g c channel).forget =
      UDPSnapshot.setChannel g.forget c channel.forget := by
  have hch : (fun c' => (update g.udpSnapshot.channel c channel c').forget) =
      update (fun c' => (g.udpSnapshot.channel c').forget) c channel.forget := by
    funext c'
    by_cases hc : c' = c
    · subst hc
      simp
    · simp [hc]
  simp only [Gateway.forget, UDPSnapshot.setChannel, hch]

theorem forget_unset_events (g : Gateway S) (c : UInt16) :
    UDPEvents.setChannel g.forget c (g.udpEvents.channel c).forget = g.forget := by
  unfold UDPEvents.setChannel
  rw [← forget_events, update_eq_self]

theorem forget_unset_snapshot (g : Gateway S) (c : UInt16) :
    UDPSnapshot.setChannel g.forget c (g.udpSnapshot.channel c).forget = g.forget := by
  unfold UDPSnapshot.setChannel
  rw [← forget_snapshot, update_eq_self]

/-- A step does the same whatever `instrument_id` is in the channels. -/
def Blind {ι ω : Type} (step : Step (Gateway S) ι ω) : Prop :=
  ∀ g i, (step g.forget i).1.map Gateway.forget = (step g i).1.map Gateway.forget ∧
    (step g.forget i).2 = (step g i).2

theorem Blind.respects {ι ω : Type} {step : Step (Gateway S) ι ω} (h : Blind step) :
    Respects step Gateway.forget := by
  intro g g' i hg
  obtain ⟨h1, h2⟩ := h g i
  obtain ⟨h1', h2'⟩ := h g' i
  rw [hg] at h1 h2
  exact ⟨h1.symm.trans h1', h2.symm.trans h2'⟩

end

namespace UDPEvents

theorem onBook_blind (env : Env) (frame : Frame) : Blind (onBook (S := S) env frame) := by
  intro g book
  unfold onBook
  cases hp : publishMarketByPrice env with
  | false => exact ⟨rfl, rfl⟩
  | true =>
    rw [forget_shared]
    cases hf : g.shared.findInstrument book.instrumentId with
    | none => exact ⟨rfl, rfl⟩
    | some x =>
      cases hl : book.isLast.toBool with
      | false =>
        simp [forget_setEvents]
      | true =>
        simp only [forget_events, Channel.forget_appendAll, Channel.forget_bids,
          Channel.forget_asks, Channel.clear_forget, Bool.not_true, Bool.false_eq_true, if_false]
        rcases Sequencer.update x.mbpSequencer _ _ book.changeId book.changeId book.prevChangeId
          with ⟨state, callbacks, outcome⟩
        cases outcome with
        | returned | badState =>
          simp only [Option.map_some, forget_withShared, forget_setEvents, forget_forget]
          exact ⟨trivial, rfl⟩
        | failed => exact ⟨rfl, rfl⟩

theorem onMessage_blind (env : Env) (frame : Frame) : Blind (onMessage (S := S) env frame) := by
  intro g m
  cases m with
  | book value => exact onBook_blind env frame g value
  | trades value =>
    unfold onMessage
    rw [onTrades_next, onTrades_next, onTrades_output, onTrades_output]
    exact ⟨rfl, rfl⟩
  | ticker value =>
    unfold onMessage
    rw [onTicker_next, onTicker_next, onTicker_output, onTicker_output]
    exact ⟨rfl, rfl⟩
  | instrument _ | priceIndex | instrumentV2 | snapshot _ | snapshotStart | snapshotEnd | comboLegs
  | rfq => exact ⟨rfl, rfl⟩

end UDPEvents

namespace UDPSnapshot

@[simp] theorem forget_appendLevels (c : Channel) (x : Instrument S) (part : Sbe.Snapshot) :
    appendLevels c.forget x part = (appendLevels c x part).forget := by
  unfold appendLevels
  rw [Channel.forget_ready, Channel.forget_appendAll]
  split <;> rfl

theorem onSnapshot_blind (env : Env) (frame : Frame) : Blind (onSnapshot (S := S) env frame) := by
  intro g part
  unfold onSnapshot
  cases hp : publishMarketByPrice env with
  | false => exact ⟨rfl, rfl⟩
  | true =>
    rw [forget_shared]
    cases hf : g.shared.findInstrument part.instrumentId with
    | none => exact ⟨rfl, rfl⟩
    | some x =>
      cases hl : part.isLastInBook.toBool with
      | false =>
        simp [forget_setSnapshot]
      | true =>
        simp only [forget_snapshot, forget_appendLevels, Channel.forget_bids, Channel.forget_asks,
          Channel.forget_ready, Channel.clear_forget, Bool.not_true, Bool.false_eq_true, if_false]
        split
        · rcases Sequencer.snapshot x.mbpSequencer _ _ part.changeId false
            with ⟨state, callbacks, outcome⟩
          cases outcome with
          | returned =>
            simp only [Option.map_some, forget_withShared, forget_setSnapshot, forget_forget]
            exact ⟨trivial, rfl⟩
          | badState | failed => exact ⟨rfl, rfl⟩
        · simp [forget_setSnapshot]

theorem onMessage_blind (env : Env) (frame : Frame) : Blind (onMessage (S := S) env frame) := by
  intro g m
  cases m with
  | snapshot value => exact onSnapshot_blind env frame g value
  | snapshotStart | snapshotEnd =>
    simp only [onMessage, Option.map_some, forget_setSnapshot, forget_forget]
    exact ⟨rfl, trivial⟩
  | instrument _ | ticker _ | instrumentV2 | book _ | trades _ | comboLegs | priceIndex | rfq =>
    exact ⟨rfl, rfl⟩

end UDPSnapshot

/-- What the frame handler and the message handlers respect, a datagram respects. -/
theorem Parser.dispatch_respects {σ ω ν : Type} (onFrame : σ → Frame → Bool × σ)
    (onMessage : Frame → Step σ Message ω) (view : σ → ν) (packet : Packet)
    (hframe : ∀ s t, view s = view t → (onFrame s packet.frame).1 = (onFrame t packet.frame).1 ∧
      view (onFrame s packet.frame).2 = view (onFrame t packet.frame).2)
    (hmessage : Respects (onMessage packet.frame) view) {s t : σ} (hst : view s = view t) :
    (dispatch onFrame onMessage s packet).1 = (dispatch onFrame onMessage t packet).1 ∧
      (dispatch onFrame onMessage s packet).2.1.map view =
        (dispatch onFrame onMessage t packet).2.1.map view ∧
      (dispatch onFrame onMessage s packet).2.2 = (dispatch onFrame onMessage t packet).2.2 := by
  obtain ⟨h1, h2⟩ := hframe s t hst
  unfold dispatch
  rcases hs : onFrame s packet.frame with ⟨accepted, s'⟩
  rcases ht : onFrame t packet.frame with ⟨accepted', t'⟩
  rw [hs, ht] at h1 h2
  obtain rfl := h1
  cases accepted with
  | false => exact ⟨rfl, congrArg some h2, rfl⟩
  | true => exact ⟨rfl, hmessage.run s' t' packet.messages h2⟩

omit [Sequencer S] in
theorem events_onFrame_blind (g : Gateway S) (f : Frame) :
    (UDPEvents.onFrame g.forget f).1 = (UDPEvents.onFrame g f).1 ∧
      (UDPEvents.onFrame g.forget f).2.forget = (UDPEvents.onFrame g f).2.forget := by
  obtain ⟨h1, h2⟩ := (g.udpEvents.channel f.channelId).forget_onFrame f
  refine ⟨h1, ?_⟩
  show (UDPEvents.setChannel g.forget _ _).forget = (UDPEvents.setChannel g _ _).forget
  rw [forget_setEvents, forget_setEvents, forget_forget]
  exact congrArg _ h2

omit [Sequencer S] in
theorem snapshot_onFrame_blind (g : Gateway S) (f : Frame) :
    (UDPSnapshot.onFrame g.forget f).1 = (UDPSnapshot.onFrame g f).1 ∧
      (UDPSnapshot.onFrame g.forget f).2.forget = (UDPSnapshot.onFrame g f).2.forget := by
  obtain ⟨h1, h2⟩ := (g.udpSnapshot.channel f.channelId).forget_onFrame f
  refine ⟨h1, ?_⟩
  show (UDPSnapshot.setChannel g.forget _ _).forget = (UDPSnapshot.setChannel g _ _).forget
  rw [forget_setSnapshot, forget_setSnapshot, forget_forget]
  exact congrArg _ h2

theorem deliver_respects (env : Env) : Respects (deliver (S := S) env) Gateway.forget := by
  intro g g' d hg
  obtain ⟨copy, socket, packet⟩ := d
  cases socket with
  | events =>
    obtain ⟨h1, h2, h3⟩ := Parser.dispatch_respects UDPEvents.onFrame (UDPEvents.onMessage env)
      Gateway.forget packet
      (fun s t hst => by
        obtain ⟨hs1, hs2⟩ := events_onFrame_blind s packet.frame
        obtain ⟨ht1, ht2⟩ := events_onFrame_blind t packet.frame
        rw [hst] at hs1 hs2
        exact ⟨hs1.symm.trans ht1, hs2.symm.trans ht2⟩)
      (UDPEvents.onMessage_blind env packet.frame).respects hg
    refine ⟨h2, ?_⟩
    simp only [deliver, Gateway.receive, UDPEvents.receive, h1, h3]
  | snapshot =>
    obtain ⟨h1, h2, h3⟩ := Parser.dispatch_respects UDPSnapshot.onFrame (UDPSnapshot.onMessage env)
      Gateway.forget packet
      (fun s t hst => by
        obtain ⟨hs1, hs2⟩ := snapshot_onFrame_blind s packet.frame
        obtain ⟨ht1, ht2⟩ := snapshot_onFrame_blind t packet.frame
        rw [hst] at hs1 hs2
        exact ⟨hs1.symm.trans ht1, hs2.symm.trans ht2⟩)
      (UDPSnapshot.onMessage_blind env packet.frame).respects hg
    refine ⟨h2, ?_⟩
    simp only [deliver, Gateway.receive, UDPSnapshot.receive, h1, h3]

/-! ## The last number of a channel -/

/-- After a delivery its channel remembers its number, and the others what they remembered. -/
theorem deliver_sequence {env : Env} {g g' : Gateway S} {d : Delivery}
    (h : (deliver env g d).1 = some g') :
    (g'.channelAt d.key).previousSequenceNumber = d.packet.frame.sequenceNumber ∧
      ∀ key, key ≠ d.key → (g'.channelAt key).sequence = (g.channelAt key).sequence := by
  obtain ⟨copy, socket, packet⟩ := d
  cases socket with
  | events =>
    have hreceive : (UDPEvents.receive env g packet).2.1 = some g' := h
    have hseq := UDPEvents.receive_sequence hreceive
    constructor
    · have hself := congrArg Prod.fst (hseq packet.frame.channelId)
      rw [UDPEvents.onFrame_self] at hself
      exact hself.trans (Channel.onFrame_cases _ packet.frame).1
    · intro key hk
      obtain ⟨_ | _, c⟩ := key
      · have hc : c ≠ packet.frame.channelId := fun hc => hk (by rw [hc]; rfl)
        refine (hseq c).trans ?_
        rw [(UDPEvents.onFrame_frame g packet.frame).2.2 c hc]
        rfl
      · have := (UDPEvents.receive_frame hreceive).2
        simp only [Gateway.channelAt, this]
  | snapshot =>
    have hreceive : (UDPSnapshot.receive env g packet).2.1 = some g' := h
    have hseq := UDPSnapshot.receive_sequence hreceive
    constructor
    · have hself := congrArg Prod.fst (hseq packet.frame.channelId)
      rw [UDPSnapshot.onFrame_self] at hself
      exact hself.trans (Channel.onFrame_cases _ packet.frame).1
    · intro key hk
      obtain ⟨_ | _, c⟩ := key
      · have := (UDPSnapshot.receive_frame hreceive).2
        simp only [Gateway.channelAt, this]
      · have hc : c ≠ packet.frame.channelId := fun hc => hk (by rw [hc]; rfl)
        refine (hseq c).trans ?_
        rw [(UDPSnapshot.onFrame_frame g packet.frame).2.2 c hc]
        rfl

theorem last_number {env : Env} {last : Socket × UInt16 → Option Packet} {g g' : Gateway S}
    {d : Delivery}
    (hlast : ∀ key p, last key = some p →
      (g.channelAt key).previousSequenceNumber = p.frame.sequenceNumber)
    (h : (deliver env g d).1 = some g') :
    ∀ key p, update last d.key (some d.packet) key = some p →
      (g'.channelAt key).previousSequenceNumber = p.frame.sequenceNumber := by
  obtain ⟨hself, hother⟩ := deliver_sequence h
  intro key p hp
  by_cases hk : key = d.key
  · subst hk
    rw [update_self, Option.some.injEq] at hp
    exact hp ▸ hself
  · rw [update_of_ne hk] at hp
    exact (congrArg Prod.fst (hother key hk)).trans (hlast key p hp)

/-- Along a run, each copy has the number its channel remembers. -/
theorem guarded_copies (env : Env) {last : Socket × UInt16 → Option Packet} (g : Gateway S)
    {ds : List Delivery}
    (hlast : ∀ key p, last key = some p →
      (g.channelAt key).previousSequenceNumber = p.frame.sequenceNumber)
    (h : Copies last ds) :
    Guarded (deliver env) (fun g d => d.copy = true →
      d.packet.frame.sequenceNumber = (g.channelAt d.key).previousSequenceNumber) g ds := by
  induction ds generalizing last g with
  | nil => trivial
  | cons d ds ih =>
    obtain ⟨hd, hds⟩ := h
    exact ⟨fun hc => (hlast _ _ (hd hc)).symm, fun g' hg' => ih g' (last_number hlast hg') hds⟩

/-! ## Harmless copies -/

omit [Sequencer S] in
/-- Resetting an idle channel changes nothing but `instrument_id`. -/
theorem reset_idle {c : Channel} (h : c.Idle) : c.reset.forget = c.forget := by
  obtain ⟨hbids, hasks, hready⟩ := h
  simp [Channel.reset, Channel.forget, hbids, hasks, hready]

/-- A copy that finds its channel idle is ignored. -/
theorem deliver_repeat (env : Env) {g : Gateway S} {d : Delivery}
    (hcopy : d.copy = true)
    (hnumber : d.packet.frame.sequenceNumber = (g.channelAt d.key).previousSequenceNumber)
    (hidle : (g.channelAt d.key).Idle) :
    (deliver env g d).1.map Gateway.forget = some g.forget ∧
      (deliver env g d).2 = [Report.ignored] := by
  obtain ⟨copy, socket, packet⟩ := d
  obtain rfl : copy = true := hcopy
  cases socket with
  | events =>
    simp only [Delivery.key, Gateway.channelAt] at hnumber hidle
    have hframe : UDPEvents.onFrame g packet.frame =
        (false, UDPEvents.setChannel g packet.frame.channelId
          (g.udpEvents.channel packet.frame.channelId).reset) := by
      unfold UDPEvents.onFrame
      rw [Channel.onFrame_repeat hnumber]
    simp only [deliver, Gateway.receive, UDPEvents.receive, Parser.dispatch, hframe]
    refine ⟨?_, rfl⟩
    rw [Option.map_some, forget_setEvents, reset_idle hidle]
    exact congrArg some (forget_unset_events g _)
  | snapshot =>
    simp only [Delivery.key, Gateway.channelAt] at hnumber hidle
    have hframe : UDPSnapshot.onFrame g packet.frame =
        (false, UDPSnapshot.setChannel g packet.frame.channelId
          (g.udpSnapshot.channel packet.frame.channelId).reset) := by
      unfold UDPSnapshot.onFrame
      rw [Channel.onFrame_repeat hnumber]
    simp only [deliver, Gateway.receive, UDPSnapshot.receive, Parser.dispatch, hframe]
    refine ⟨?_, rfl⟩
    rw [Option.map_some, forget_setSnapshot, reset_idle hidle]
    exact congrArg some (forget_unset_snapshot g _)

/-- Without copies nothing is reported of copies. -/
theorem reports_of_originals {env : Env} {g : Gateway S} {ds : List Delivery}
    (h : ∀ d ∈ ds, d.copy = false) : ∀ r ∈ (run (deliver env) g ds).2, r.copy = false :=
  (run_sound (G := fun _ d => d.copy = false) (I := fun _ => True)
    (fun _ _ _ hd => ⟨fun _ _ => trivial, fun r hr => by rw [List.mem_singleton.mp hr, hd]⟩)
    trivial (guarded_of_forall fun d hd _ => h d hd)).2

/-- **Copies are harmless when they come at once and to an idle channel.** With or without
    them the gateway reports the same of every other delivery, and ends in the same state up
    to `instrument_id`; of a copy it reports that it was refused, and nothing else. -/
theorem copies_are_harmless (env : Env) (deliveries : List Delivery)
    (hcopies : Copies (fun _ => none) deliveries)
    (hidle : Guarded (deliver env) (fun g d => d.copy = true → (g.channelAt d.key).Idle)
      (Gateway.init S) deliveries) :
    (run (deliver env) (Gateway.init S) deliveries).1.map Gateway.forget =
        (run (deliver env) (Gateway.init S) (deliveries.filter (!·.copy))).1.map Gateway.forget ∧
      (run (deliver env) (Gateway.init S) deliveries).2.filter (· ≠ Report.ignored) =
        (run (deliver env) (Gateway.init S) (deliveries.filter (!·.copy))).2 := by
  have hnumber := guarded_copies env (Gateway.init S) (by simp) hcopies
  have hskip := (hnumber.and hidle).mono
    (H := fun g d => d.copy = true → (deliver env g d).1.map Gateway.forget = some g.forget ∧
      (deliver env g d).2.filter (· ≠ Report.ignored) = [])
    (fun g d hgd hc => by
      obtain ⟨hstay, hout⟩ := deliver_repeat env hc (hgd.1 hc) (hgd.2 hc)
      exact ⟨hstay, by rw [hout]; rfl⟩)
  obtain ⟨hstate, hreports⟩ := run_skip Delivery.copy (deliver_respects env) rfl hskip
  refine ⟨hstate, hreports.trans (List.filter_eq_self.mpr ?_)⟩
  intro r hr
  have hr' := reports_of_originals (fun d hd => by simpa using (List.mem_filter.mp hd).2) r hr
  simp only [ne_eq, decide_not, Bool.not_eq_true', decide_eq_false_iff_not]
  rintro rfl
  cases hr'

/-- A datagram of the events socket with one bid of a change of instrument 7. -/
def bidPacket (sequenceNumber : UInt32) (price : ℚ) (isLast : YesNo) : Packet :=
  ⟨⟨0, 0, sequenceNumber⟩,
    [perpetual, .book ⟨7, 0, 10, 11, isLast, [⟨.bid, price, 5⟩]⟩]⟩

/-- A copy between two changes. -/
theorem copies_are_harmless_between_changes :
    (run (deliver Env.plain) (Gateway.init ChangeIdSequencer)
        [⟨false, .events, bidPacket 5 100 .yes⟩, ⟨true, .events, bidPacket 5 100 .yes⟩,
          ⟨false, .events, bidPacket 6 101 .yes⟩]).2.filter (· ≠ Report.ignored) =
      (run (deliver Env.plain) (Gateway.init ChangeIdSequencer)
        [⟨false, .events, bidPacket 5 100 .yes⟩, ⟨false, .events, bidPacket 6 101 .yes⟩]).2 := by
  refine (copies_are_harmless Env.plain
    [⟨false, .events, bidPacket 5 100 .yes⟩, ⟨true, .events, bidPacket 5 100 .yes⟩,
      ⟨false, .events, bidPacket 6 101 .yes⟩] ?_ ?_).2
  · exact ⟨nofun, fun _ => by simp [Delivery.key], nofun, trivial⟩
  · refine ⟨nofun, fun g hg => ⟨?_, fun _ _ => ⟨nofun, fun _ _ => trivial⟩⟩⟩
    intro _
    obtain rfl := Option.some.inj hg
    exact ⟨rfl, rfl, rfl⟩

/-- A copy between the two parts of a change: the sequencer gets the second part only. -/
theorem copy_costs_parts : ¬∀ deliveries : List Delivery, Copies (fun _ => none) deliveries →
    (run (deliver Env.plain) (Gateway.init ChangeIdSequencer) deliveries).2.filter
        (· ≠ Report.ignored) =
      (run (deliver Env.plain) (Gateway.init ChangeIdSequencer)
        (deliveries.filter (!·.copy))).2 := by
  intro h
  have hruns := h
    [⟨false, .events, bidPacket 5 100 .no⟩, ⟨true, .events, bidPacket 5 100 .no⟩,
      ⟨false, .events, bidPacket 6 101 .yes⟩]
    ⟨nofun, fun _ => by simp [Delivery.key], nofun, trivial⟩
  revert hruns
  decide +kernel

end DeribitGateway
