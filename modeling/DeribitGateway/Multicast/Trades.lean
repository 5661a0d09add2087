import Mathlib.Data.List.Nodup
import DeribitGateway.Multicast.UdpSnapshot

/-!
# Trades, once each

Two filters stand before a trade summary: the channel decides about the frame, and
`test_sequence` about each `Trades` message, by the frame's number and the number kept for
the instrument. The first accepts whatever comes after a resynchronisation, and knows nothing
of messages; the second refuses the second message of an instrument in one frame, every frame
behind a restart of the numbering, and forgets what it published once the numbers have
wrapped half-way.

The exchange sends frames, each at a position of its channel and with whatever number it
has; a run is a list of arrivals of these frames, in any order and any number of times. A
log beside the gateway knows the frames accepted so far and, for each instrument, the last
new one that had trades of it. As long as the numbering goes on from that frame (`Continues`),
and a repeated one has not been left behind by it (`Recent`), what `test_sequence` has kept is
that frame's number (`KeepsLatest`), and it agrees with the channel.
-/

namespace DeribitGateway

open Function Transducer

/-- A `Trades` message when it is handled: where in the frame it stands, whether its
    instrument is known, the number kept for the instrument, and the summaries published. -/
structure Handled where
  index : ℕ
  instrumentId : UInt32
  known : Bool
  cached : Option UInt32
  published : ℕ
  deriving DecidableEq

/-- A frame of an events channel as the exchange sends it. -/
structure SentFrame where
  packetLength : UInt16
  sequenceNumber : UInt32
  messages : List Message

/-- Which frame it is: its channel, and its position among all the frames of the channel. -/
structure FrameId where
  channelId : UInt16
  position : ℕ
  deriving DecidableEq

/-- The datagram of a frame, the same each time it is delivered. -/
def SentFrame.packet (frame : SentFrame) (channelId : UInt16) : Packet :=
  ⟨⟨frame.packetLength, channelId, frame.sequenceNumber⟩, frame.messages⟩

/-- An accepted frame: whether it was accepted before, and its `Trades` messages. -/
structure Accepted where
  frameId : FrameId
  packet : Packet
  repeated : Bool
  handled : List Handled

/-- A frame from the events socket, or a datagram from the snapshot socket. -/
inductive Arrival
  | frame (frameId : FrameId)
  | other (packet : Packet)

def Output.isTradeSummary : Output → Bool
  | .tradeSummary _ => true
  | _ => false

/-- The places of the `Trades` messages among `messages`, counted from `start`. -/
def tradesPlaces (start : ℕ) : List Message → List ℕ
  | [] => []
  | .trades _ :: messages => start :: tradesPlaces (start + 1) messages
  | _ :: messages => tradesPlaces (start + 1) messages

/-- The summaries of a run, by frame and place. -/
def publications (accepted : List Accepted) : List (FrameId × ℕ) :=
  accepted.flatMap fun a =>
    a.handled.flatMap fun h => List.replicate h.published (a.frameId, h.index)

/-- The instruments of the `Trades` messages of a frame. -/
def tradesOf (messages : List Message) : List UInt32 :=
  messages.filterMap fun
    | .trades trades => some trades.instrumentId
    | _ => none

/-- The frames accepted so far, and for each instrument the last of them that was new and had
    trades of it. -/
structure FrameLog where
  seen : List FrameId
  latest : UInt32 → Option FrameId

def FrameLog.start : FrameLog := ⟨[], fun _ => none⟩

/-- The log behind an accepted frame. -/
def FrameLog.next (l : FrameLog) (frameId : FrameId) (messages : List Message) : FrameLog :=
  if frameId ∈ l.seen then l
  else
    { seen := frameId :: l.seen
      latest := fun i => if i ∈ tradesOf messages then some frameId else l.latest i }

variable {S : Type} [Sequencer S]

namespace UDPEvents

/-- The message handler next to a counter of messages, with a record of each `Trades`. -/
def tradesStep (env : Env) (frame : Frame) : Step (Gateway S × ℕ) Message Handled :=
  fun (g, index) message =>
    ((onMessage env frame g message).1.map (·, index + 1),
      match message with
      | .trades trades =>
        [{ index := index
           instrumentId := trades.instrumentId
           known := g.knows trades.instrumentId
           cached := g.udpEvents.lastTrades trades.instrumentId
           published := (onMessage env frame g message).2.countP Output.isTradeSummary }]
      | _ => [])

/-- The events stream, fed from what the exchange sends, beside the log. -/
def tradesSystem (exchange : FrameId → SentFrame) (env : Env) :
    Step (Gateway S × FrameLog) Arrival Accepted
  | (g, l), .other packet => ((UDPSnapshot.receive env g packet).2.1.map (·, l), [])
  | (g, l), .frame frameId =>
    let packet := (exchange frameId).packet frameId.channelId
    match onFrame g packet.frame with
    | (false, g') => (some (g', l), [])
    | (true, g') =>
      let (reached, handled) := run (tradesStep env packet.frame) (g', 0) packet.messages
      (reached.map fun s => (s.1, l.next frameId packet.messages),
        [{ frameId, packet, repeated := frameId ∈ l.seen, handled }])

/-! ## What becomes of one message -/

/-- A `Trades` message is published, once, if trades are, its instrument is known and the
    frame is in sequence for it. -/
theorem published_eq {env : Env} {frame : Frame} {s : Gateway S × ℕ} {m : Message} {h : Handled}
    (hh : h ∈ (tradesStep env frame s m).2) :
    h.published = if publishTradeSummary env && h.known && inSequence h.cached frame.sequenceNumber
      then 1 else 0 := by
  obtain ⟨g, index⟩ := s
  cases m with
  | trades trades =>
    obtain rfl := List.mem_singleton.mp hh
    simp only [onMessage, onTrades_output, testSequence_fst, Gateway.knows]
    rcases Option.eq_none_or_eq_some (g.shared.findInstrument trades.instrumentId)
      with hf | ⟨x, hf⟩
    · simp [hf]
    · simp only [hf, Option.map_some, Option.toList_some, Option.isSome_some, Bool.and_true]
      split <;> rfl
  | _ => cases hh

theorem run_published {env : Env} {frame : Frame} {s : Gateway S × ℕ} {ms : List Message} :
    ∀ h ∈ (run (tradesStep env frame) s ms).2,
      h.published = if publishTradeSummary env && h.known &&
        inSequence h.cached frame.sequenceNumber then 1 else 0 :=
  (run_sound (G := fun _ _ => True) (I := fun _ => True)
    (fun _ _ _ _ => ⟨fun _ _ => trivial, fun _ hh => published_eq hh⟩) trivial
    (guarded_of_forall fun _ _ _ => trivial)).2

/-- The records are those of the first `Trades` messages, and of all of them if the process
    goes on. -/
theorem run_places {env : Env} {frame : Frame} {s : Gateway S × ℕ} {ms : List Message} :
    (run (tradesStep env frame) s ms).2.map (·.index) <+: tradesPlaces s.2 ms ∧
      ((run (tradesStep env frame) s ms).1.isNone = false →
        (run (tradesStep env frame) s ms).2.map (·.index) = tradesPlaces s.2 ms) := by
  induction ms generalizing s with
  | nil => exact ⟨List.prefix_rfl, fun _ => rfl⟩
  | cons m ms ih =>
    have hplaces : tradesPlaces s.2 (m :: ms) =
        (tradesStep env frame s m).2.map (·.index) ++ tradesPlaces (s.2 + 1) ms := by
      cases m <;> rfl
    rw [hplaces]
    cases hs : (tradesStep env frame s m).1 with
    | none =>
      rw [run_cons_none ms hs]
      exact ⟨List.prefix_append _ _, fun h => by cases h⟩
    | some t =>
      have hcount : t.2 = s.2 + 1 := by
        obtain ⟨g, -, rfl⟩ := Option.map_eq_some_iff.mp hs
        rfl
      obtain ⟨h1, h2⟩ := ih (s := t)
      rw [run_cons_some ms hs, List.map_append]
      rw [hcount] at h1 h2
      exact ⟨(List.prefix_append_right_inj _).mpr h1, fun h => by rw [h2 h]⟩

/-- Forgetting the counter and the records, this is the stream's own run. -/
theorem run_tradesStep (env : Env) (frame : Frame) (g : Gateway S) (index : ℕ)
    (ms : List Message) :
    (run (tradesStep env frame) (g, index) ms).1.map Prod.fst =
      (run (onMessage env frame) g ms).1 := by
  induction ms generalizing g index with
  | nil => rfl
  | cons m ms ih =>
    cases hm : (onMessage env frame g m).1 with
    | none =>
      have hs : (tradesStep env frame (g, index) m).1 = none := by simp [tradesStep, hm]
      rw [run_cons_none ms hs, run_cons_none ms hm]
      rfl
    | some g' =>
      have hs : (tradesStep env frame (g, index) m).1 = some (g', index + 1) := by
        simp [tradesStep, hm]
      rw [run_cons_some ms hs, run_cons_some ms hm]
      exact ih g' (index + 1)

/-- A frame leads the system where its datagram leads the stream. -/
theorem tradesSystem_frame (exchange : FrameId → SentFrame) (env : Env) (g : Gateway S)
    (l : FrameLog) (frameId : FrameId) :
    (tradesSystem exchange env (g, l) (.frame frameId)).1.map Prod.fst =
      (receive env g ((exchange frameId).packet frameId.channelId)).2.1 := by
  simp only [tradesSystem, receive, Parser.dispatch]
  rcases onFrame g ((exchange frameId).packet frameId.channelId).frame with ⟨_ | _, g'⟩
  · rfl
  · rw [← run_tradesStep env _ g' 0, Option.map_map]
    rfl

end UDPEvents

theorem tradesPlaces_ge {start : ℕ} {ms : List Message} :
    ∀ k ∈ tradesPlaces start ms, start ≤ k := by
  induction ms generalizing start with
  | nil => intro k hk; cases hk
  | cons m ms ih =>
    have hrest : ∀ k ∈ tradesPlaces (start + 1) ms, start ≤ k :=
      fun k hk => Nat.le_of_succ_le (ih k hk)
    cases m with
    | trades t =>
      intro k hk
      rcases List.mem_cons.mp hk with rfl | hk
      · exact le_rfl
      · exact hrest k hk
    | _ => exact hrest

theorem tradesPlaces_nodup {start : ℕ} {ms : List Message} : (tradesPlaces start ms).Nodup := by
  induction ms generalizing start with
  | nil => exact List.nodup_nil
  | cons m ms ih =>
    cases m with
    | trades t =>
      refine List.nodup_cons.mpr ⟨?_, ih⟩
      intro h
      exact absurd (tradesPlaces_ge start h) (Nat.not_succ_le_self start)
    | _ => exact ih

/-! ## Frames that do not end the process -/

/-- The templates an events channel must not carry: their handlers are
    `log::fatal("Unexpected"sv)`. -/
def Message.isUnexpected : Message → Bool
  | .snapshot _ | .snapshotStart | .snapshotEnd | .comboLegs | .rfq => true
  | .instrument _ | .book _ | .trades _ | .ticker _ | .priceIndex | .instrumentV2 => false

/-- The sequencer throws nothing but `BadState`, the one exception the book handler catches. -/
def ThrowsBadStateOnly (S : Type) [Sequencer S] : Prop :=
  ∀ (s : S) (bids asks : List MBPUpdate) (first last previous : UInt64),
    (Sequencer.update s bids asks first last previous).outcome ≠ .failed

namespace UDPEvents

theorem onMessage_goes_on (hthrows : ThrowsBadStateOnly S) {m : Message}
    (hm : m.isUnexpected = false) (env : Env) (frame : Frame) (g : Gateway S) :
    ∃ g', (onMessage env frame g m).1 = some g' := by
  cases m with
  | book book =>
    simp only [onMessage, onBook]
    split
    · exact ⟨g, rfl⟩
    · split
      · exact ⟨g, rfl⟩
      · split
        · exact ⟨_, rfl⟩
        · split
          · exact ⟨_, rfl⟩
          · exact ⟨_, rfl⟩
          · next hfailed => exact absurd hfailed (hthrows _ _ _ _ _ _)
  | trades trades => exact ⟨_, onTrades_next env frame g trades⟩
  | ticker ticker => exact ⟨_, onTicker_next env frame g ticker⟩
  | instrument _ | priceIndex | instrumentV2 => exact ⟨_, rfl⟩
  | snapshot _ | snapshotStart | snapshotEnd | comboLegs | rfq => cases hm

theorem run_goes_on (hthrows : ThrowsBadStateOnly S) (env : Env) (frame : Frame)
    (s : Gateway S × ℕ) {ms : List Message} (hms : ∀ m ∈ ms, m.isUnexpected = false) :
    ∃ s', (run (tradesStep env frame) s ms).1 = some s' := by
  induction ms generalizing s with
  | nil => exact ⟨s, rfl⟩
  | cons m ms ih =>
    obtain ⟨hm, hrest⟩ := List.forall_mem_cons.mp hms
    obtain ⟨g', hg'⟩ := onMessage_goes_on hthrows hm env frame s.1
    have hs : (tradesStep env frame s m).1 = some (g', s.2 + 1) := by simp [tradesStep, hg']
    rw [run_cons_some ms hs]
    exact ih (g', s.2 + 1) hrest

/-! ## One frame -/

theorem tradesOf_cons (m : Message) (ms : List Message) :
    tradesOf (m :: ms) = tradesOf [m] ++ tradesOf ms := by
  cases m <;> rfl

/-- A message finds the number kept before it. -/
theorem tradesStep_cached (env : Env) {frame : Frame} {verdict : Bool} {s : Gateway S × ℕ}
    {m : Message} (hseq : ∀ i ∈ tradesOf [m],
      inSequence (s.1.udpEvents.lastTrades i) frame.sequenceNumber = verdict) :
    ∀ h ∈ (tradesStep env frame s m).2, inSequence h.cached frame.sequenceNumber = verdict := by
  intro h hh
  cases m with
  | trades trades =>
    obtain rfl := List.mem_singleton.mp hh
    exact hseq trades.instrumentId (List.mem_singleton_self _)
  | _ => cases hh

/-- A message that is in sequence leaves the frame's number behind. -/
theorem onMessage_kept {env : Env} {frame : Frame} (henabled : publishTradeSummary env = true)
    {verdict : Bool} {g g' : Gateway S} {m : Message} (hseq : ∀ i ∈ tradesOf [m],
      inSequence (g.udpEvents.lastTrades i) frame.sequenceNumber = verdict)
    (hm : (onMessage env frame g m).1 = some g') (i : UInt32) :
    g'.udpEvents.lastTrades i = if verdict ∧ i ∈ tradesOf [m] then some frame.sequenceNumber
      else g.udpEvents.lastTrades i := by
  by_cases ht : ∃ trades, m = .trades trades
  · obtain ⟨trades, rfl⟩ := ht
    obtain rfl := Option.some.inj ((onTrades_next env frame g trades).symm.trans hm)
    have hown := hseq trades.instrumentId (List.mem_singleton_self _)
    have hof : i ∈ tradesOf [.trades trades] ↔ i = trades.instrumentId := List.mem_singleton
    simp only [henabled, if_true, testSequence_eq, hown, hof]
    cases verdict with
    | true =>
      by_cases hi : i = trades.instrumentId
      · simp [hi]
      · simp [hi, update_of_ne]
    | false => simp
  · have hof : tradesOf [m] = [] := by
      cases m with
      | trades value => exact absurd ⟨value, rfl⟩ ht
      | _ => rfl
    rw [onMessage_not_trades (fun trades h => ht ⟨trades, h⟩) hm, hof]
    simp

/-- In a frame with one `Trades` message per instrument, all in sequence or all out of it, every
    message finds the number kept before the frame; what is in sequence leaves the frame's
    number behind. -/
theorem run_single {env : Env} (frame : Frame) (henabled : publishTradeSummary env = true)
    (verdict : Bool) (s : Gateway S × ℕ) {ms : List Message} (hsingle : (tradesOf ms).Nodup)
    (hseq : ∀ i ∈ tradesOf ms,
      inSequence (s.1.udpEvents.lastTrades i) frame.sequenceNumber = verdict) :
    (∀ h ∈ (run (tradesStep env frame) s ms).2,
        inSequence h.cached frame.sequenceNumber = verdict) ∧
      ∀ s', (run (tradesStep env frame) s ms).1 = some s' → ∀ i,
        s'.1.udpEvents.lastTrades i = if verdict ∧ i ∈ tradesOf ms then some frame.sequenceNumber
          else s.1.udpEvents.lastTrades i := by
  induction ms generalizing s with
  | nil =>
    refine ⟨fun h hh => absurd hh List.not_mem_nil, ?_⟩
    intro s' hs' i
    obtain rfl := Option.some.inj hs'
    simp [tradesOf]
  | cons m ms ih =>
    obtain ⟨g, index⟩ := s
    rw [tradesOf_cons] at hsingle hseq ⊢
    obtain ⟨-, hrest, hother⟩ := List.nodup_append.mp hsingle
    have hhead : ∀ i ∈ tradesOf [m],
        inSequence (g.udpEvents.lastTrades i) frame.sequenceNumber = verdict :=
      fun i hi => hseq i (List.mem_append_left _ hi)
    have hfound := tradesStep_cached env (s := (g, index)) hhead
    cases hm : (onMessage env frame g m).1 with
    | none =>
      have hs : (tradesStep env frame (g, index) m).1 = none := by simp [tradesStep, hm]
      rw [run_cons_none ms hs]
      exact ⟨hfound, fun s' hs' => by cases hs'⟩
    | some g' =>
      have hs : (tradesStep env frame (g, index) m).1 = some (g', index + 1) := by
        simp [tradesStep, hm]
      have hkept := onMessage_kept henabled hhead hm
      -- the others find their numbers as the frame found them
      obtain ⟨hcached, hnumbers⟩ := ih (g', index + 1) hrest fun i hi => by
        have hnone : i ∉ tradesOf [m] := fun h => hother i h i hi rfl
        rw [hkept i, if_neg (fun h => hnone h.2)]
        exact hseq i (List.mem_append_right _ hi)
      rw [run_cons_some ms hs]
      refine ⟨?_, ?_⟩
      · intro h hh
        obtain hh | hh := List.mem_append.mp hh
        · exact hfound h hh
        · exact hcached h hh
      · intro s' hs' i
        rw [hnumbers s' hs' i, hkept i]
        simp only [List.mem_append]
        split_ifs <;> tauto

end UDPEvents

/-! ## The condition on the frames -/

/-- Less than half the range ahead is ahead. -/
theorem ahead_add {p : UInt32} {d : ℕ} (hpos : 0 < d) (hnear : d < 2 ^ 31) :
    ahead p (p + UInt32.ofNat d) = true := by
  have hmid : midpoint.toNat = 2 ^ 31 := by decide
  have hd : (UInt32.ofNat d).toNat = d := by
    rw [UInt32.toNat_ofNat']
    exact Nat.mod_eq_of_lt (by omega)
  have hp := p.toNat_lt
  simp only [ahead, Bool.or_eq_true, Bool.and_eq_true, decide_eq_true_eq, UInt32.lt_iff_toNat_lt,
    UInt32.toNat_add, hd, hmid]
  omega

section

variable (exchange : FrameId → SentFrame)

/-- `b` comes behind `a` on the same channel, by less than half the range, and the numbering has
    not been restarted in between. -/
def Continues (a b : FrameId) : Prop :=
  a.channelId = b.channelId ∧ a.position < b.position ∧ b.position < a.position + 2 ^ 31 ∧
    (exchange b).sequenceNumber =
      (exchange a).sequenceNumber + UInt32.ofNat (b.position - a.position)

/-- The numbers have not come round from `a` to `b`: `b` does not have the lower one, and the
    two are not on different sides of the midpoint. -/
def Recent (a b : FrameId) : Prop :=
  (exchange a).sequenceNumber ≤ (exchange b).sequenceNumber ∧
    (midpoint ≤ (exchange a).sequenceNumber ∨ (exchange b).sequenceNumber ≤ midpoint)

instance (a b : FrameId) : Decidable (Continues exchange a b) :=
  inferInstanceAs (Decidable (_ ∧ _ ∧ _ ∧ _))

instance (a b : FrameId) : Decidable (Recent exchange a b) := inferInstanceAs (Decidable (_ ∧ _))

/-- An accepted frame has at most one `Trades` message per instrument and no template that ends
    the process. If it is new, it continues, for each of these instruments, from the last new
    one that had trades of it; if it is repeated, that one has not left it behind. -/
def InOrder (s : Gateway S × FrameLog) : Arrival → Prop
  | .frame frameId =>
    (UDPEvents.onFrame s.1 ((exchange frameId).packet frameId.channelId).frame).1 = true →
      (tradesOf (exchange frameId).messages).Nodup ∧
      (∀ m ∈ (exchange frameId).messages, m.isUnexpected = false) ∧
      ∀ i ∈ tradesOf (exchange frameId).messages, ∀ a ∈ s.2.latest i,
        if frameId ∈ s.2.seen then Recent exchange frameId a else Continues exchange a frameId
  | .other _ => True

instance (s : Gateway S × FrameLog) : DecidablePred (InOrder exchange s)
  | .frame frameId =>
    -- over the frame's instruments, not over all of `UInt32`
    have : Decidable (∀ i ∈ tradesOf (exchange frameId).messages, ∀ a ∈ s.2.latest i,
        if frameId ∈ s.2.seen then Recent exchange frameId a else Continues exchange a frameId) :=
      List.decidableBAll _ _
    inferInstanceAs (Decidable (_ → _ ∧ _ ∧ _))
  | .other _ => inferInstanceAs (Decidable True)

/-- What `test_sequence` has kept is what the log says, and the log knows a last frame for
    every instrument that frames it has seen had trades of. -/
structure KeepsLatest (s : Gateway S × FrameLog) : Prop where
  kept : ∀ i, s.1.udpEvents.lastTrades i =
    (s.2.latest i).map fun a => (exchange a).sequenceNumber
  known : ∀ a ∈ s.2.seen, ∀ i ∈ tradesOf (exchange a).messages, s.2.latest i ≠ none

variable {exchange}

theorem Continues.ahead {a b : FrameId} (h : Continues exchange a b) :
    ahead (exchange a).sequenceNumber (exchange b).sequenceNumber = true := by
  obtain ⟨-, hlt, hnear, hnumber⟩ := h
  rw [hnumber]
  exact ahead_add (by omega) (by omega)

theorem Recent.not_ahead {a b : FrameId} (h : Recent exchange a b) :
    DeribitGateway.ahead (exchange b).sequenceNumber (exchange a).sequenceNumber = false := by
  obtain ⟨hle, hside⟩ := h
  simp only [DeribitGateway.ahead, Bool.or_eq_false_iff, Bool.and_eq_false_iff,
    decide_eq_false_iff_not, UInt32.not_lt]
  exact ⟨hle, hside⟩

end

/-! ## The records -/

/-- Every `Trades` message of the frame has been handled, and if the frame is new, those for
    known instruments have been published, exactly once. -/
def Accepted.Published (a : Accepted) : Prop :=
  a.handled.map (·.index) = tradesPlaces 0 a.packet.messages ∧
    (a.repeated = false → ∀ h ∈ a.handled, h.known = true → h.published = 1)

instance (a : Accepted) : Decidable a.Published := inferInstanceAs (Decidable (_ ∧ _))

/-- What a frame in order comes to: all its `Trades` messages are handled; if it is new those
    for known instruments are published, once; if it is repeated, none is. -/
structure Accepted.Sound (a : Accepted) : Prop where
  handled : a.handled.map (·.index) = tradesPlaces 0 a.packet.messages
  published : ∀ h ∈ a.handled, h.published = if h.known && !a.repeated then 1 else 0

theorem Accepted.Sound.published_once {a : Accepted} (h : a.Sound) : a.Published := by
  refine ⟨h.handled, ?_⟩
  intro hnew m hm hk
  rw [h.published m hm, hk, hnew]
  rfl

open UDPEvents

variable {exchange : FrameId → SentFrame} {env : Env}

/-! ## One arrival -/

omit [Sequencer S] in
/-- The two filters agree: what `test_sequence` has kept is behind a new frame, and not behind a
    repeated one. -/
theorem KeepsLatest.agrees {s : Gateway S × FrameLog} (h : KeepsLatest exchange s)
    {frameId : FrameId} (horder : ∀ i ∈ tradesOf (exchange frameId).messages, ∀ a ∈ s.2.latest i,
      if frameId ∈ s.2.seen then Recent exchange frameId a else Continues exchange a frameId) :
    ∀ i ∈ tradesOf (exchange frameId).messages,
      inSequence (s.1.udpEvents.lastTrades i) (exchange frameId).sequenceNumber =
        !decide (frameId ∈ s.2.seen) := by
  intro i hi
  rw [h.kept i]
  cases hl : s.2.latest i with
  | none =>
    have hnew : frameId ∉ s.2.seen := fun hseen => h.known frameId hseen i hi hl
    simp [inSequence, hnew]
  | some a =>
    have hside := horder i hi a hl
    by_cases hseen : frameId ∈ s.2.seen
    · rw [if_pos hseen] at hside
      simpa [inSequence, hseen] using hside.not_ahead
    · rw [if_neg hseen] at hside
      simpa [inSequence, hseen] using hside.ahead

omit [Sequencer S] in
/-- The log goes on with the numbers kept. -/
theorem KeepsLatest.next {s : Gateway S × FrameLog} (h : KeepsLatest exchange s) {frameId : FrameId}
    {g' : Gateway S}
    (hkept : ∀ i, g'.udpEvents.lastTrades i =
      if (!decide (frameId ∈ s.2.seen)) ∧ i ∈ tradesOf (exchange frameId).messages then
        some (exchange frameId).sequenceNumber else s.1.udpEvents.lastTrades i) :
    KeepsLatest exchange (g', s.2.next frameId (exchange frameId).messages) := by
  by_cases hseen : frameId ∈ s.2.seen
  · have hnext : s.2.next frameId (exchange frameId).messages = s.2 := if_pos hseen
    rw [hnext]
    refine ⟨fun i => ?_, h.known⟩
    rw [hkept i, ← h.kept i]
    simp [hseen]
  · have hnext : s.2.next frameId (exchange frameId).messages =
        ⟨frameId :: s.2.seen, fun i => if i ∈ tradesOf (exchange frameId).messages then
          some frameId else s.2.latest i⟩ := if_neg hseen
    rw [hnext]
    constructor
    · intro i
      rw [hkept i, h.kept i]
      by_cases hi : i ∈ tradesOf (exchange frameId).messages <;> simp [hi, hseen]
    · intro a ha i hi
      by_cases hi' : i ∈ tradesOf (exchange frameId).messages
      · simp [hi']
      · rcases List.mem_cons.mp ha with rfl | ha
        · exact absurd hi hi'
        · simpa [hi'] using h.known a ha i hi

/-- One arrival: the numbers kept stay those of the log, and the frame is handled as it
    should be. -/
theorem tradesSystem_sound (henabled : publishTradeSummary env = true)
    (hthrows : ThrowsBadStateOnly S) {s : Gateway S × FrameLog} {i : Arrival}
    (h : KeepsLatest exchange s) (horder : InOrder exchange s i) :
    (∀ s', (tradesSystem exchange env s i).1 = some s' → KeepsLatest exchange s') ∧
      ∀ a ∈ (tradesSystem exchange env s i).2, a.Sound := by
  obtain ⟨g, l⟩ := s
  cases i with
  | other packet =>
    refine ⟨?_, fun a ha => absurd ha List.not_mem_nil⟩
    intro s' hs'
    obtain ⟨g', hg', rfl⟩ := Option.map_eq_some_iff.mp hs'
    exact ⟨by rw [(UDPSnapshot.receive_frame hg').2]; exact h.kept, h.known⟩
  | frame frameId =>
    have htrades : (onFrame g ((exchange frameId).packet
        frameId.channelId).frame).2.udpEvents.lastTrades = g.udpEvents.lastTrades := rfl
    simp only [InOrder] at horder
    simp only [tradesSystem]
    rcases hf : onFrame g ((exchange frameId).packet frameId.channelId).frame with ⟨_ | _, g'⟩
    all_goals rw [hf] at htrades horder
    · refine ⟨?_, fun a ha => absurd ha List.not_mem_nil⟩
      intro s' hs'
      obtain rfl := Option.some.inj hs'
      exact ⟨by rw [htrades]; exact h.kept, h.known⟩
    · obtain ⟨hsingle, hexpected, hrange⟩ := horder rfl
      have hagrees := h.agrees hrange
      obtain ⟨t, ht⟩ := run_goes_on hthrows env
        ((exchange frameId).packet frameId.channelId).frame (g', 0) hexpected
      obtain ⟨hcached, hkept⟩ := run_single
        ((exchange frameId).packet frameId.channelId).frame henabled
        (!decide (frameId ∈ l.seen)) (g', 0) hsingle
        fun i hi => by rw [htrades]; exact hagrees i hi
      constructor
      · intro s' hs'
        obtain ⟨t, ht, rfl⟩ := Option.map_eq_some_iff.mp hs'
        refine h.next fun i => ?_
        rw [hkept t ht i, htrades]
        rfl
      · intro a ha
        obtain rfl := List.mem_singleton.mp ha
        constructor
        · exact run_places.2 (by
            rw [show ((exchange frameId).packet frameId.channelId).messages =
              (exchange frameId).messages from rfl, ht]
            rfl)
        · intro m hm
          rw [run_published m hm, henabled, hcached m hm, Bool.true_and]

/-! ## Whole runs -/

/-- A repeated frame publishes nothing. -/
theorem publications_repeated {a : Accepted} (h : a.Sound) (hrep : a.repeated = true) :
    publications [a] = [] := by
  simp only [publications, List.flatMap_cons, List.flatMap_nil, List.append_nil,
    List.flatMap_eq_nil_iff, List.replicate_eq_nil_iff]
  intro m hm
  rw [h.published m hm, hrep]
  simp

theorem publications_append (xs ys : List Accepted) :
    publications (xs ++ ys) = publications xs ++ publications ys := List.flatMap_append

/-- If each message is published at most once, the publications of a frame are some of the
    places of its messages. -/
theorem publications_sublist {a : Accepted} (h : ∀ m ∈ a.handled, m.published ≤ 1) :
    (publications [a]).Sublist (a.handled.map fun m => (a.frameId, m.index)) := by
  obtain ⟨frameId, packet, repeated, handled⟩ := a
  simp only [publications, List.flatMap_cons, List.flatMap_nil, List.append_nil] at h ⊢
  induction handled with
  | nil => exact List.Sublist.refl _
  | cons m ms ih =>
    have hm : (List.replicate m.published (frameId, m.index)).Sublist [(frameId, m.index)] := by
      rcases Nat.le_one_iff_eq_zero_or_eq_one.mp (h m List.mem_cons_self) with h0 | h1
      · rw [h0]
        exact List.nil_sublist _
      · rw [h1]
        exact List.Sublist.refl _
    rw [List.flatMap_cons, List.map_cons, ← List.singleton_append]
    exact hm.append (ih fun m' hm' => h m' (List.mem_cons_of_mem _ hm'))

/-- One frame publishes nothing twice. -/
theorem publications_single {a : Accepted} (h : a.Sound) :
    (publications [a]).Nodup ∧ ∀ key ∈ publications [a], key.1 = a.frameId := by
  have hsub : (publications [a]).Sublist (a.handled.map fun m => (a.frameId, m.index)) :=
    publications_sublist fun m hm => by rw [h.published m hm]; split <;> decide
  refine ⟨hsub.nodup ?_, ?_⟩
  · have hmap : (a.handled.map fun m => (a.frameId, m.index)) =
        (a.handled.map (·.index)).map (Prod.mk a.frameId) := by
      rw [List.map_map]
      rfl
    rw [hmap, h.handled]
    exact tradesPlaces_nodup.map fun _ _ h => (Prod.mk.inj h).2
  · intro key hkey
    obtain ⟨m, -, rfl⟩ := List.mem_map.mp (hsub.subset hkey)
    rfl

/-- What one arrival records: nothing, or one frame, which is repeated if it has been seen and
    has been seen from then on; and nothing is forgotten. -/
theorem tradesSystem_record (exchange : FrameId → SentFrame) (env : Env)
    (s : Gateway S × FrameLog) (i : Arrival) :
    ((tradesSystem exchange env s i).2 = [] ∨ ∃ a, (tradesSystem exchange env s i).2 = [a] ∧
      a.repeated = decide (a.frameId ∈ s.2.seen) ∧
      ∀ t, (tradesSystem exchange env s i).1 = some t → a.frameId ∈ t.2.seen) ∧
    ∀ t, (tradesSystem exchange env s i).1 = some t → s.2.seen ⊆ t.2.seen := by
  obtain ⟨g, l⟩ := s
  cases i with
  | other packet =>
    refine ⟨.inl rfl, ?_⟩
    intro t ht
    obtain ⟨g', -, rfl⟩ := Option.map_eq_some_iff.mp ht
    exact List.Subset.refl _
  | frame frameId =>
    simp only [tradesSystem]
    rcases onFrame g ((exchange frameId).packet frameId.channelId).frame with ⟨_ | _, g'⟩
    · refine ⟨.inl rfl, ?_⟩
      intro t ht
      obtain rfl := Option.some.inj ht
      exact List.Subset.refl _
    · have hnext : l.seen ⊆ (l.next frameId (exchange frameId).messages).seen ∧
          frameId ∈ (l.next frameId (exchange frameId).messages).seen := by
        unfold FrameLog.next
        split
        · next hseen => exact ⟨List.Subset.refl _, hseen⟩
        · exact ⟨List.subset_cons_self _ _, List.mem_cons_self⟩
      refine ⟨.inr ⟨_, rfl, rfl, ?_⟩, ?_⟩
      all_goals
        intro t ht
        obtain ⟨t', -, rfl⟩ := Option.map_eq_some_iff.mp ht
      · exact hnext.2
      · exact hnext.1

/-- What one arrival publishes has not been published by a frame seen before. -/
theorem publications_step {s : Gateway S × FrameLog} {i : Arrival}
    (h : ∀ a ∈ (tradesSystem exchange env s i).2, a.Sound) :
    (publications (tradesSystem exchange env s i).2).Nodup ∧
      ∀ key ∈ publications (tradesSystem exchange env s i).2, key.1 ∉ s.2.seen ∧
        ∀ t, (tradesSystem exchange env s i).1 = some t → key.1 ∈ t.2.seen := by
  obtain ⟨hnil | ⟨a, ha, hrep, hseen⟩, -⟩ := tradesSystem_record exchange env s i
  · rw [hnil]
    exact ⟨List.nodup_nil, fun key hkey => absurd hkey List.not_mem_nil⟩
  · have hsound : a.Sound := h a (by simp [ha])
    obtain ⟨hnodup, hkeys⟩ := publications_single hsound
    rw [ha]
    refine ⟨hnodup, ?_⟩
    intro key hkey
    rw [hkeys key hkey]
    refine ⟨?_, hseen⟩
    intro hbefore
    -- a frame seen before is repeated, and publishes nothing
    rw [publications_repeated hsound (hrep.trans (decide_eq_true hbefore))] at hkey
    cases hkey

theorem publications_nodup {s : Gateway S × FrameLog} {arrivals : List Arrival}
    (h : ∀ a ∈ (run (tradesSystem exchange env) s arrivals).2, a.Sound) :
    (publications (run (tradesSystem exchange env) s arrivals).2).Nodup ∧
      ∀ key ∈ publications (run (tradesSystem exchange env) s arrivals).2,
        key.1 ∉ s.2.seen := by
  induction arrivals generalizing s with
  | nil => exact ⟨List.nodup_nil, fun key hkey => absurd hkey List.not_mem_nil⟩
  | cons i is ih =>
    cases hs : (tradesSystem exchange env s i).1 with
    | none =>
      rw [run_cons_none is hs] at h ⊢
      obtain ⟨hnodup, hkeys⟩ := publications_step h
      exact ⟨hnodup, fun key hkey => (hkeys key hkey).1⟩
    | some t =>
      rw [run_cons_some is hs] at h ⊢
      obtain ⟨hnodup, hkeys⟩ := publications_step fun a ha => h a (List.mem_append_left _ ha)
      obtain ⟨hnodup', hkeys'⟩ := ih fun a ha => h a (List.mem_append_right _ ha)
      rw [publications_append]
      refine ⟨hnodup.append hnodup' ?_, ?_⟩
      · intro key hkey hkey'
        exact hkeys' key hkey' ((hkeys key hkey).2 t hs)
      · intro key hkey
        rcases List.mem_append.mp hkey with hkey | hkey
        · exact (hkeys key hkey).1
        · exact fun hseen => hkeys' key hkey ((tradesSystem_record exchange env s i).2 t hs hseen)

/-- Every frame of a run in order is handled as it should be. -/
theorem run_sound_frames (henabled : publishTradeSummary env = true)
    (hthrows : ThrowsBadStateOnly S) {arrivals : List Arrival}
    (horder : Guarded (tradesSystem exchange env) (InOrder exchange)
      (Gateway.init S, FrameLog.start) arrivals) :
    ∀ a ∈ (run (tradesSystem exchange env) (Gateway.init S, FrameLog.start) arrivals).2,
      a.Sound :=
  (run_sound (I := KeepsLatest exchange)
    (fun _ _ h hg => tradesSystem_sound henabled hthrows h hg)
    ⟨fun _ => rfl, fun _ ha => absurd ha List.not_mem_nil⟩ horder).2

/-- **Trades, once each.** If trades are published, the sequencer throws nothing but `BadState`
    and the frames come in order, every `Trades` message of an accepted frame is
    handled, those of a known instrument in a new frame are published exactly once, and no
    message is published twice in the run. -/
theorem trades_are_published_once (exchange : FrameId → SentFrame) (env : Env)
    (arrivals : List Arrival) (henabled : publishTradeSummary env = true)
    (hthrows : ThrowsBadStateOnly S)
    (horder : Guarded (tradesSystem exchange env) (InOrder exchange)
      (Gateway.init S, FrameLog.start) arrivals) :
    (∀ a ∈ (run (tradesSystem exchange env) (Gateway.init S, FrameLog.start) arrivals).2,
      a.Published) ∧
    (publications
      (run (tradesSystem exchange env) (Gateway.init S, FrameLog.start) arrivals).2).Nodup := by
  have hsound := run_sound_frames henabled hthrows horder
  exact ⟨fun a ha => (hsound a ha).published_once, (publications_nodup hsound).1⟩

/-- Frames that carry one trade of instrument 7 each, numbered across the wrap. -/
def wrappingExchange (frameId : FrameId) : SentFrame :=
  ⟨0, UInt32.ofNat (4294967295 + frameId.position),
    [perpetual, .trades ⟨7, [⟨.buy, 100, 1, 0, 1⟩]⟩]⟩

theorem changeIdSequencer_throws : ThrowsBadStateOnly ChangeIdSequencer := by
  rintro ⟨_ | applied⟩ bids asks first last previous hfailed
  · cases hfailed
  · simp only [Sequencer.update] at hfailed
    split at hfailed <;> cases hfailed

/-- Three frames, of which the second is repeated behind a repeat of the first: the channel
    takes it again, and its trade is not published again. -/
theorem trades_are_published_once_over_wrap :
    (∀ a ∈ (run (tradesSystem wrappingExchange Env.plain)
      (Gateway.init ChangeIdSequencer, FrameLog.start)
      [.frame ⟨0, 0⟩, .frame ⟨0, 1⟩, .frame ⟨0, 0⟩, .frame ⟨0, 1⟩, .frame ⟨0, 2⟩]).2,
      a.Published) ∧
    publications (run (tradesSystem wrappingExchange Env.plain)
      (Gateway.init ChangeIdSequencer, FrameLog.start)
      [.frame ⟨0, 0⟩, .frame ⟨0, 1⟩, .frame ⟨0, 0⟩, .frame ⟨0, 1⟩, .frame ⟨0, 2⟩]).2 =
      [(⟨0, 0⟩, 1), (⟨0, 1⟩, 1), (⟨0, 2⟩, 1)] :=
  ⟨(trades_are_published_once wrappingExchange Env.plain _ rfl changeIdSequencer_throws
    (by decide +kernel)).1, by decide +kernel⟩

/-- Of two messages of one instrument in one frame the second is dropped. -/
theorem second_trades_is_dropped :
    ¬∀ (exchange : FrameId → SentFrame) (arrivals : List Arrival),
      (∀ a ∈ (run (tradesSystem exchange Env.plain)
        (Gateway.init ChangeIdSequencer, FrameLog.start) arrivals).2, a.Published) ∧
      (publications (run (tradesSystem exchange Env.plain)
        (Gateway.init ChangeIdSequencer, FrameLog.start) arrivals).2).Nodup := by
  intro h
  have hpublished := (h (fun _ => ⟨0, 5, [perpetual, .trades ⟨7, [⟨.buy, 100, 1, 0, 1⟩]⟩,
    .trades ⟨7, [⟨.buy, 101, 1, 0, 2⟩]⟩]⟩) [.frame ⟨0, 0⟩]).1
  revert hpublished
  decide +kernel

end DeribitGateway
