import DeribitGateway.Multicast.Trades

/-!
# Trades and the network's losses

The exchange numbers the frames of an events channel consecutively and the network drops some
of them. The gateway gives up more than the network: the first frame behind a gap is refused,
and with it everything in it, because the answer about the frame is also the answer to
`Parser::dispatch`. What it keeps is everything in a frame that follows the frame received
before it, as long as the two numbers `test_sequence` compares are less than half the range
apart.

Positions in the stream are natural numbers, and a frame's number is its position modulo
`2^32`. A journal remembers the first and the last position received, and for each instrument
the position of the last frame handled that had trades of it.
-/

namespace DeribitGateway

open Function Transducer

/-! ## Half the range -/

/-- The number of a frame on the wire. -/
def frameNumber (position : ℕ) : UInt32 := UInt32.ofNat position

@[simp] theorem frameNumber_toNat (n : ℕ) : (frameNumber n).toNat = n % 2 ^ 32 := by
  simp [frameNumber]

theorem frameNumber_succ (n : ℕ) : frameNumber (n + 1) = frameNumber n + 1 := by
  apply UInt32.toNat_inj.mp
  simp

/-- A position less than half the range ahead is ahead on the wire. -/
theorem ahead_of_near {a b : ℕ} (hlt : a < b) (hnear : b < a + 2 ^ 31) :
    ahead (frameNumber a) (frameNumber b) = true := by
  have hb : frameNumber b = frameNumber a + UInt32.ofNat (b - a) := by
    apply UInt32.toNat_inj.mp
    simp only [UInt32.toNat_add, UInt32.toNat_ofNat', frameNumber_toNat]
    omega
  rw [hb]
  exact ahead_add (by omega) (by omega)

/-! ## The system -/

/-- A frame the exchange sends, which the network delivers or drops; or a datagram from the
    snapshot socket. -/
inductive Sent
  | frame (packetLength : UInt16) (messages : List Message) (received : Bool)
  | other (packet : Packet)

structure Journal where
  sent : ℕ
  first : Option ℕ
  last : Option ℕ
  latest : UInt32 → Option ℕ

/-- The journal of a stream whose first frame has position `start`. -/
def Journal.start (start : ℕ) : Journal := ⟨start, none, none, fun _ => none⟩

/-- The journal behind a frame that has been received. -/
def Journal.next (j : Journal) (messages : List Message) (accepted : Bool) : Journal where
  sent := j.sent + 1
  first := some (j.first.getD j.sent)
  last := some j.sent
  latest i := if accepted ∧ i ∈ tradesOf messages then some j.sent else j.latest i

/-- A frame that has been received, and the journal before it. -/
structure Received where
  journal : Journal
  messages : List Message
  accepted : Bool
  handled : List Handled
  ended : Bool

variable {S : Type} [Sequencer S]

open UDPEvents

def lossySystem (env : Env) (channelId : UInt16) : Step (Gateway S × Journal) Sent Received
  | (g, j), .other packet => ((UDPSnapshot.receive env g packet).2.1.map (·, j), [])
  | (g, j), .frame _ _ false => (some (g, { j with sent := j.sent + 1 }), [])
  | (g, j), .frame packetLength messages true =>
    let frame : Frame := ⟨packetLength, channelId, frameNumber j.sent⟩
    match onFrame g frame with
    | (false, g') => (some (g', j.next messages false), [⟨j, messages, false, [], false⟩])
    | (true, g') =>
      let (reached, handled) := run (tradesStep env frame) (g', 0) messages
      (reached.map fun s => (s.1, j.next messages true),
        [⟨j, messages, true, handled, reached.isNone⟩])

/-- A received frame leads the system where it leads the stream. -/
theorem lossySystem_received (env : Env) (channelId : UInt16) (g : Gateway S) (j : Journal)
    (packetLength : UInt16) (messages : List Message) :
    (lossySystem env channelId (g, j) (.frame packetLength messages true)).1.map Prod.fst =
      (receive env g ⟨⟨packetLength, channelId, frameNumber j.sent⟩, messages⟩).2.1 := by
  simp only [lossySystem, receive, Parser.dispatch]
  rcases onFrame g ⟨packetLength, channelId, frameNumber j.sent⟩ with ⟨_ | _, g'⟩
  · rfl
  · rw [← run_tradesStep env _ g' 0, Option.map_map]
    rfl

/-! ## The law -/

/-- The frame follows the one received before it, or is the first and not numbered 0. -/
def Received.Due (r : Received) : Prop :=
  (r.journal.last = none ∧ frameNumber r.journal.sent ≠ 0) ∨
    ∃ p, r.journal.last = some p ∧ r.journal.sent = p + 1

/-- The frame has been accepted, and every `Trades` message of it for a known instrument has
    been published. If no message has ended the process, all have been handled. -/
def Received.Published (r : Received) : Prop :=
  r.accepted = true ∧ (r.ended = false → r.handled.map (·.index) = tradesPlaces 0 r.messages) ∧
    ∀ h ∈ r.handled, h.known = true → h.published = 1

instance (r : Received) : Decidable r.Published := inferInstanceAs (Decidable (_ ∧ _ ∧ _))

/-- The frame does not follow the one received before it, and the channel was not joined at
    frame 0 or 1. -/
def Received.BehindGap (r : Received) : Prop :=
  ∃ f p, r.journal.first = some f ∧ r.journal.last = some p ∧ frameNumber f ≠ 0 ∧
    frameNumber f ≠ 1 ∧ frameNumber r.journal.sent ≠ frameNumber p + 1

/-- At most one `Trades` message per instrument. -/
def Sent.Single : Sent → Prop
  | .frame _ messages _ => (tradesOf messages).Nodup
  | .other _ => True

instance : DecidablePred Sent.Single
  | .frame _ messages _ => inferInstanceAs (Decidable (tradesOf messages).Nodup)
  | .other _ => inferInstanceAs (Decidable True)

/-- What the next action must be like: a frame that is accepted is near, for each of its
    instruments, to the last one handled that had trades of it. -/
def InRange (channelId : UInt16) (s : Gateway S × Journal) : Sent → Prop
  | .frame packetLength messages true =>
    (onFrame s.1 ⟨packetLength, channelId, frameNumber s.2.sent⟩).1 = true →
      ∀ i ∈ tradesOf messages, ∀ a, s.2.latest i = some a → s.2.sent < a + 2 ^ 31
  | _ => True

/-! ## The invariant -/

/-- The channel and the numbers kept for trades say what the journal says. -/
structure Tracks (channelId : UInt16) (s : Gateway S × Journal) : Prop where
  joined : s.2.first = none ↔ s.2.last = none
  fresh : s.2.last = none → (s.1.udpEvents.channel channelId).sequence = (0, false)
  last : ∀ p, s.2.last = some p → p < s.2.sent ∧
    (s.1.udpEvents.channel channelId).previousSequenceNumber = frameNumber p
  first : ∀ f, s.2.first = some f → frameNumber f ≠ 0 → frameNumber f ≠ 1 →
    (s.1.udpEvents.channel channelId).initialized = true
  latest : ∀ i a, s.2.latest i = some a → a < s.2.sent
  kept : ∀ i, s.1.udpEvents.lastTrades i = (s.2.latest i).map frameNumber

omit [Sequencer S] in
theorem tracks_start (channelId : UInt16) (start : ℕ) :
    Tracks channelId (Gateway.init S, Journal.start start) where
  joined := Iff.rfl
  fresh _ := rfl
  last p hp := by cases hp
  first f hf := by cases hf
  latest i a ha := by cases ha
  kept i := rfl

variable {env : Env} {channelId : UInt16}

omit [Sequencer S] in
/-- Which frames the channel accepts, by the journal. -/
theorem Tracks.accepts {s : Gateway S × Journal} (h : Tracks channelId s) (packetLength : UInt16)
    {r : Received} (hr : r.journal = s.2) :
    (r.Due → (onFrame s.1 ⟨packetLength, channelId, frameNumber s.2.sent⟩).1 = true) ∧
      (r.BehindGap → (onFrame s.1 ⟨packetLength, channelId, frameNumber s.2.sent⟩).1 = false) := by
  have haccepts := (s.1.udpEvents.channel channelId).onFrame_accepts
    ⟨packetLength, channelId, frameNumber s.2.sent⟩
  constructor
  · intro hdue
    rw [Received.Due, hr] at hdue
    apply haccepts.mpr
    rcases hdue with ⟨hnone, hzero⟩ | ⟨p, hp, hsucc⟩
    · -- the first frame, at the initial number
      obtain ⟨hprevious, hinitialized⟩ := Prod.mk.inj (h.fresh hnone)
      exact .inr ⟨by rw [hprevious]; exact hzero, hinitialized⟩
    · left
      rw [(h.last p hp).2, hsucc]
      exact frameNumber_succ p
  · intro hgap
    rw [Received.BehindGap, hr] at hgap
    obtain ⟨f, p, hf, hp, hzero, hone, hnext⟩ := hgap
    apply Bool.eq_false_iff.mpr
    intro hacc
    rcases haccepts.mp hacc with hn | ⟨-, hinitialized⟩
    · rw [(h.last p hp).2] at hn
      exact hnext hn
    · rw [h.first f hf hzero hone] at hinitialized
      cases hinitialized

omit [Sequencer S] in
/-- The journal goes on with the channel behind a received frame. -/
theorem Tracks.next {s : Gateway S × Journal} (h : Tracks channelId s) (packetLength : UInt16)
    (messages : List Message) (g' : Gateway S) (accepted : Bool)
    (hchannel : (g'.udpEvents.channel channelId).sequence =
      ((onFrame s.1 ⟨packetLength, channelId, frameNumber s.2.sent⟩).2.udpEvents.channel
        channelId).sequence)
    (hkept : ∀ i, g'.udpEvents.lastTrades i = if accepted ∧ i ∈ tradesOf messages then
      some (frameNumber s.2.sent) else s.1.udpEvents.lastTrades i) :
    Tracks channelId (g', s.2.next messages accepted) := by
  rw [onFrame_self] at hchannel
  obtain ⟨hprevious, hinitialized⟩ := Prod.mk.inj hchannel
  refine ⟨by simp [Journal.next], nofun, ?_, ?_, ?_, ?_⟩
  · intro p hp
    obtain rfl := Option.some.inj hp
    exact ⟨Nat.lt_succ_self _, hprevious.trans (Channel.onFrame_cases _ _).1⟩
  · intro f hf hzero hone
    refine hinitialized.trans ((Channel.onFrame_initialized _ _).mpr ?_)
    cases hfirst : s.2.first with
    | some f' =>
      simp only [Journal.next, hfirst, Option.getD_some, Option.some.injEq] at hf
      exact .inl (h.first f' hfirst (hf ▸ hzero) (hf ▸ hone))
    | none =>
      -- this is the first frame, and the channel still has its initial number
      simp only [Journal.next, hfirst, Option.getD_none, Option.some.injEq] at hf
      obtain ⟨hp, -⟩ := Prod.mk.inj (h.fresh (h.joined.mp hfirst))
      rw [hp]
      subst hf
      exact .inr ⟨hone, hzero⟩
  · intro i a ha
    simp only [Journal.next] at ha ⊢
    split at ha
    · obtain rfl := Option.some.inj ha
      exact Nat.lt_succ_self _
    · exact Nat.lt_succ_of_lt (h.latest i a ha)
  · intro i
    rw [hkept i, h.kept i]
    simp only [Journal.next]
    split <;> rfl

omit [Sequencer S] in
/-- The snapshot socket has no say in any of it. -/
theorem Tracks.other {g g' : Gateway S} {j : Journal} (h : Tracks channelId (g, j))
    (hevents : g'.udpEvents = g.udpEvents) : Tracks channelId (g', j) where
  joined := h.joined
  fresh := by rw [hevents]; exact h.fresh
  last := by rw [hevents]; exact h.last
  first := by rw [hevents]; exact h.first
  latest := h.latest
  kept := by rw [hevents]; exact h.kept

omit [Sequencer S] in
/-- A frame is lost. -/
theorem Tracks.lost {g : Gateway S} {j : Journal} (h : Tracks channelId (g, j)) :
    Tracks channelId (g, { j with sent := j.sent + 1 }) where
  joined := h.joined
  fresh := h.fresh
  last p hp := ⟨Nat.lt_succ_of_lt (h.last p hp).1, (h.last p hp).2⟩
  first := h.first
  latest i a ha := Nat.lt_succ_of_lt (h.latest i a ha)
  kept := h.kept

omit [Sequencer S] in
/-- The trades of a frame in range are in sequence. -/
theorem Tracks.sequenced {g : Gateway S} {j : Journal} (h : Tracks channelId (g, j))
    {packetLength : UInt16} {messages : List Message}
    (hrange : InRange channelId (g, j) (.frame packetLength messages true))
    (hacc : (onFrame g ⟨packetLength, channelId, frameNumber j.sent⟩).1 = true) :
    ∀ i ∈ tradesOf messages,
      inSequence (g.udpEvents.lastTrades i) (frameNumber j.sent) = true := by
  intro i hi
  rw [h.kept i]
  cases hl : j.latest i with
  | none => rfl
  | some a => exact ahead_of_near (h.latest i a hl) (hrange hacc i hi a hl)

/-- Messages have no say in what the channel remembers. -/
theorem run_tradesStep_sequence {frame : Frame} {g : Gateway S} {messages : List Message}
    {t : Gateway S × ℕ} (ht : (run (tradesStep env frame) (g, 0) messages).1 = some t)
    (channelId : UInt16) :
    (t.1.udpEvents.channel channelId).sequence = (g.udpEvents.channel channelId).sequence := by
  have hrun := run_tradesStep env frame g 0 messages
  rw [ht, Option.map_some] at hrun
  exact run_invariant
    (I := fun x => (x.udpEvents.channel channelId).sequence =
      (g.udpEvents.channel channelId).sequence)
    (fun _ _ _ hx hm => (onMessage_sequence hm channelId).trans hx) rfl hrun.symm

theorem lossySystem_sound (henabled : publishTradeSummary env = true) {s : Gateway S × Journal}
    {a : Sent} (h : Tracks channelId s) (hsingle : a.Single) (hrange : InRange channelId s a) :
    (∀ s', (lossySystem env channelId s a).1 = some s' → Tracks channelId s') ∧
      ∀ r ∈ (lossySystem env channelId s a).2,
        (r.Due → r.Published) ∧ (r.BehindGap → r.accepted = false) := by
  obtain ⟨g, j⟩ := s
  cases a with
  | other packet =>
    refine ⟨?_, fun r hr => by cases hr⟩
    intro s' hs'
    obtain ⟨g', hg', rfl⟩ := Option.map_eq_some_iff.mp hs'
    exact h.other (UDPSnapshot.receive_frame hg').2
  | frame packetLength messages received =>
    cases received with
    | false =>
      refine ⟨?_, fun r hr => by cases hr⟩
      intro s' hs'
      obtain rfl := Option.some.inj hs'
      exact h.lost
    | true =>
      have hseq := h.sequenced hrange
      have htrades : (onFrame g ⟨packetLength, channelId,
          frameNumber j.sent⟩).2.udpEvents.lastTrades = g.udpEvents.lastTrades := rfl
      have haccepts := fun r => h.accepts packetLength (r := r)
      have hnext := h.next packetLength messages
      rcases hf : onFrame g ⟨packetLength, channelId, frameNumber j.sent⟩ with ⟨_ | _, g'⟩
      all_goals
        simp only [hf] at haccepts hnext hseq htrades
        simp only [lossySystem, hf]
      · constructor
        · intro s' hs'
          obtain rfl := Option.some.inj hs'
          exact hnext g' false rfl fun i => by simp [htrades]
        · intro r hr
          obtain rfl := List.mem_singleton.mp hr
          exact ⟨fun hdue => absurd ((haccepts _ rfl).1 hdue) Bool.false_ne_true, fun _ => rfl⟩
      · obtain ⟨hcached, hkept⟩ := run_single
          (⟨packetLength, channelId, frameNumber j.sent⟩ : Frame) henabled true (g', 0) hsingle
          fun i hi => by rw [htrades]; exact hseq trivial i hi
        constructor
        · intro s' hs'
          obtain ⟨t, ht, rfl⟩ := Option.map_eq_some_iff.mp hs'
          apply hnext t.1 true (run_tradesStep_sequence ht channelId)
          intro i
          rw [hkept t ht i, htrades]
        · intro r hr
          obtain rfl := List.mem_singleton.mp hr
          refine ⟨fun _ => ⟨rfl, run_places.2, ?_⟩, ?_⟩
          · intro m hm hk
            rw [run_published m hm, henabled, hk, hcached m hm]
            rfl
          · intro hgap
            exact absurd ((haccepts _ rfl).2 hgap).symm Bool.false_ne_true

/-- **What the gateway keeps of what the network delivers.** With at most one `Trades` message
    per instrument in a frame, and trades of an instrument never half the range apart: every
    frame that follows the one received before it, and a first one not numbered 0, is
    accepted and its trades of known instruments are published; and a frame behind a gap is
    refused as a whole, on a channel not joined at frame 0 or 1. -/
theorem received_trades_are_published (env : Env) (channelId : UInt16) (start : ℕ)
    (actions : List Sent) (henabled : publishTradeSummary env = true)
    (hsingle : ∀ a ∈ actions, a.Single)
    (hrange : Guarded (lossySystem env channelId) (InRange channelId)
      (Gateway.init S, Journal.start start) actions) :
    ∀ r ∈ (run (lossySystem env channelId) (Gateway.init S, Journal.start start) actions).2,
      (r.Due → r.Published) ∧ (r.BehindGap → r.accepted = false) :=
  (run_sound (G := fun s a => a.Single ∧ InRange channelId s a) (I := Tracks channelId)
    (fun _ _ h hg => lossySystem_sound henabled h hg.1 hg.2) (tracks_start channelId start)
    ((guarded_of_forall fun a ha _ => hsingle a ha).and hrange)).2

/-- A trade of instrument 7. -/
def trade : Message := .trades ⟨7, [⟨.buy, 100, 1, 0, 1⟩]⟩

/-- Two frames in a row. -/
theorem received_trades_are_published_in_row : ∃ r ∈
    (run (lossySystem Env.plain 0) (Gateway.init ChangeIdSequencer, Journal.start 5)
      [.frame 0 [perpetual, trade] true, .frame 0 [trade] true]).2, r.Due ∧ r.Published := by
  refine ⟨_, List.mem_cons_self, .inl ⟨rfl, by decide⟩, (received_trades_are_published Env.plain 0 5
    [.frame 0 [perpetual, trade] true, .frame 0 [trade] true] rfl ?_ ⟨?_, fun s hs => ⟨?_, ?_⟩⟩ _
    List.mem_cons_self).1 (.inl ⟨rfl, by decide⟩)⟩
  · decide
  · exact fun _ i hi a ha => by cases ha
  · obtain rfl := Option.some.inj hs
    intro _ i hi a ha
    obtain rfl := List.mem_singleton.mp hi
    obtain rfl := Option.some.inj ha
    decide
  · exact fun _ _ => trivial

/-- The frame behind a gap is received and its trade is not published. -/
theorem trade_behind_gap_is_lost : ¬∀ actions : List Sent, (∀ a ∈ actions, a.Single) →
    ∀ r ∈ (run (lossySystem Env.plain 0) (Gateway.init ChangeIdSequencer, Journal.start 5)
      actions).2, r.Published := by
  intro h
  have hpublished := h
    [.frame 0 [perpetual, trade] true, .frame 0 [trade] false, .frame 0 [trade] true]
    (by decide)
  revert hpublished
  decide +kernel

end DeribitGateway
