import DeribitGateway.Lib.SerialNumber
import DeribitGateway.Multicast.UdpEvents

/-!
# `test_sequence` against serial-number order

The events stream keeps, for each instrument, the sequence number of the last `Trades` and of
the last `Ticker` it took (`last_trades_`, `last_ticker_`), and `test_sequence` decides whether
a frame's number comes behind it. The numbers wrap around at `2^32`, so the order to decide by
is `Serial.Ahead` with half the circle at `midpoint`.

What the code computes is `ahead`: any greater number is taken, and any number below the
midpoint behind one above it. Nothing that is ahead is ever refused (`ahead_of_serial`). What is
wrong is taken: a number from before the wrap, which is greater, behind one from after it, and
a number shortly below the midpoint behind one shortly above it. `WithinHalf` says that it is
neither, and over any run of calls that is what all three forms of the law come down to.
-/

namespace DeribitGateway

open Function Serial Transducer

/-- The arguments of `test_sequence`, but for the cache. -/
structure SequenceCall where
  instrumentId : UInt32
  sequenceNumber : UInt32
  deriving DecidableEq

/-- One call, which puts out what it accepts. -/
def testStep : Step (UInt32 → Option UInt32) SequenceCall SequenceCall := fun cache call =>
  let called := testSequence cache call.instrumentId call.sequenceNumber
  (some called.2, if called.1 then [call] else [])

/-- The numbers of an instrument that were accepted, in order. -/
def acceptedNumbers (i : UInt32) (accepted : List SequenceCall) : List ℕ :=
  (accepted.filter (·.instrumentId = i)).map (·.sequenceNumber.toNat)

/-- `s` is ahead of `p`: `0 < (s - p) mod 2^32 < 2^31`. -/
def SerialAhead (p s : UInt32) : Prop := Ahead (2 ^ 31) p.toNat s.toNat

def SerialOpposite (p s : UInt32) : Prop := Opposite (2 ^ 31) p.toNat s.toNat

instance (p s : UInt32) : Decidable (SerialAhead p s) := inferInstanceAs (Decidable (Ahead ..))

instance (p s : UInt32) : Decidable (SerialOpposite p s) :=
  inferInstanceAs (Decidable (Opposite ..))

/-! ## The law -/

/-- A number is accepted exactly if it is ahead of the cached one, numbers half the range apart
    left open, and stored exactly if it is accepted. -/
def FollowsSerialOrder (cache : UInt32 → Option UInt32) (call : SequenceCall) : Prop :=
  let called := testSequence cache call.instrumentId call.sequenceNumber
  ∀ p, cache call.instrumentId = some p →
    (¬SerialOpposite p call.sequenceNumber →
      (called.1 = true ↔ SerialAhead p call.sequenceNumber)) ∧
    called.2 =
      if called.1 then update cache call.instrumentId (some call.sequenceNumber) else cache

/-- A number that the cached one is ahead of is not accepted. -/
def RefusesLate (cache : UInt32 → Option UInt32) (call : SequenceCall) : Prop :=
  ∀ p, cache call.instrumentId = some p → SerialAhead call.sequenceNumber p →
    (testSequence cache call.instrumentId call.sequenceNumber).1 = false

/-- The cached number of an instrument, and those accepted from there on, only move forward. -/
def MovesForward (cache : UInt32 → Option UInt32) (calls : List SequenceCall) : Prop :=
  ∀ i, ((cache i).toList.map (·.toNat) ++
    acceptedNumbers i (run testStep cache calls).2).IsChain (Forward (2 ^ 31))

/-- A greater number is at most half the range above the cached one, and across the midpoint
    numbers are at least that far apart. -/
def WithinHalf (p s : UInt32) : Prop :=
  (p < s → s - p ≤ midpoint) ∧ (s < midpoint → midpoint < p → midpoint ≤ p - s)

instance (p s : UInt32) : Decidable (WithinHalf p s) := inferInstanceAs (Decidable (_ ∧ _))

/-- The number of a call is `WithinHalf` of the cached one. -/
def Comparable (cache : UInt32 → Option UInt32) (call : SequenceCall) : Prop :=
  ∀ p, cache call.instrumentId = some p → WithinHalf p call.sequenceNumber

/-! ## Two numbers -/

theorem midpoint_toNat : midpoint.toNat = 2 ^ 31 := rfl

/-- The comparison of `test_sequence`, on the numbers themselves. -/
theorem ahead_iff (p s : UInt32) :
    ahead p s = true ↔ p.toNat < s.toNat ∨ s.toNat < 2 ^ 31 ∧ 2 ^ 31 < p.toNat := by
  simp only [ahead, Bool.or_eq_true, Bool.and_eq_true, decide_eq_true_eq, UInt32.lt_iff_toNat_lt,
    midpoint_toNat]

theorem withinHalf_iff (p s : UInt32) :
    WithinHalf p s ↔ (p.toNat < s.toNat → s.toNat - p.toNat ≤ 2 ^ 31) ∧
      (s.toNat < 2 ^ 31 → 2 ^ 31 < p.toNat → 2 ^ 31 ≤ p.toNat - s.toNat) := by
  unfold WithinHalf
  refine and_congr (imp_congr_right fun h => ?_) ?_
  · rw [UInt32.le_iff_toNat_le, UInt32.toNat_sub_of_le _ _ (UInt32.le_of_lt h), midpoint_toNat]
  · refine imp_congr_right fun hs => imp_congr_right fun hp => ?_
    rw [UInt32.le_iff_toNat_le, UInt32.toNat_sub_of_le _ _
      (UInt32.le_of_lt (UInt32.lt_trans hs hp)), midpoint_toNat]

/-- What is ahead is accepted. -/
theorem ahead_of_serial {p s : UInt32} (h : SerialAhead p s) : ahead p s = true := by
  rw [ahead_iff]
  have hp := p.toNat_lt
  have hs := s.toNat_lt
  rcases Nat.lt_trichotomy p.toNat s.toNat with hlt | heq | hgt
  · exact .inl hlt
  · rw [SerialAhead, heq] at h
    exact absurd h not_ahead_self
  · rw [SerialAhead, ahead_of_gt hgt (by omega)] at h
    exact .inr (by omega)

/-- What is accepted is ahead, or opposite, exactly for numbers within half the range. -/
theorem withinHalf_iff_forward (p s : UInt32) :
    WithinHalf p s ↔ (ahead p s = true → Forward (2 ^ 31) p.toNat s.toNat) := by
  rw [withinHalf_iff, ahead_iff, forward_iff (by omega)]
  have hp := p.toNat_lt
  have hs := s.toNat_lt
  rcases Nat.lt_trichotomy p.toNat s.toNat with hlt | heq | hgt
  · rw [ahead_of_lt hlt (by omega), opposite_of_lt hlt (by omega)]
    omega
  · rw [heq]
    omega
  · rw [ahead_of_gt hgt (by omega), opposite_of_gt hgt (by omega)]
    omega

/-- The comparison agrees with serial-number order exactly for numbers within half the range. -/
theorem withinHalf_iff_ahead (p s : UInt32) :
    WithinHalf p s ↔ (¬SerialOpposite p s → (ahead p s = true ↔ SerialAhead p s)) := by
  rw [withinHalf_iff_forward, forward_iff (by omega)]
  constructor
  · intro h hopp
    exact ⟨fun ha => (h ha).resolve_right hopp, ahead_of_serial⟩
  · intro h ha
    by_cases hopp : SerialOpposite p s
    · exact .inr hopp
    · exact .inl ((h hopp).mp ha)

/-- What is accepted was not late, exactly for numbers within half the range. -/
theorem withinHalf_iff_late (p s : UInt32) :
    WithinHalf p s ↔ (SerialAhead s p → ahead p s = false) := by
  rw [withinHalf_iff_forward, forward_iff (by omega), ← Bool.not_eq_true]
  have hp : p.toNat < 2 * 2 ^ 31 := p.toNat_lt
  have hs : s.toNat < 2 * 2 ^ 31 := s.toNat_lt
  constructor
  · intro h hlate ha
    rcases h ha with h | h
    · exact h.asymm hp hs hlate
    · exact (h.symm hp hs).not_ahead hlate
  · intro h ha
    by_contra hn
    obtain ⟨hna, hno⟩ := not_or.mp hn
    have hne : p.toNat ≠ s.toNat := by
      intro heq
      rw [UInt32.toNat_inj.mp heq, ahead_iff] at ha
      omega
    exact h (not_not.mp fun hnl => hna ((ahead_iff_not_ahead hp hs hne hno).mpr hnl)) ha

/-! ## One call -/

theorem testStep_eq (cache : UInt32 → Option UInt32) (call : SequenceCall) :
    testStep cache call =
      if inSequence (cache call.instrumentId) call.sequenceNumber then
        (some (update cache call.instrumentId (some call.sequenceNumber)), [call])
      else (some cache, []) := by
  simp only [testStep, testSequence_eq]
  split <;> rfl

theorem followsSerialOrder_iff (cache : UInt32 → Option UInt32) (call : SequenceCall) :
    FollowsSerialOrder cache call ↔ Comparable cache call := by
  refine forall_congr' fun p => imp_congr_right fun hp => ?_
  rw [withinHalf_iff_ahead, testSequence_eq, hp, show inSequence (some p) call.sequenceNumber =
    ahead p call.sequenceNumber from rfl]
  cases ahead p call.sequenceNumber with
  | true => exact and_iff_left rfl
  | false => exact and_iff_left rfl

theorem refusesLate_iff (cache : UInt32 → Option UInt32) (call : SequenceCall) :
    RefusesLate cache call ↔ Comparable cache call := by
  refine forall_congr' fun p => imp_congr_right fun hp => ?_
  rw [withinHalf_iff_late, testSequence_fst, hp]
  rfl

theorem comparable_iff_forward (cache : UInt32 → Option UInt32) (call : SequenceCall) :
    Comparable cache call ↔ (inSequence (cache call.instrumentId) call.sequenceNumber = true →
      ∀ p, cache call.instrumentId = some p →
        Forward (2 ^ 31) p.toNat call.sequenceNumber.toNat) := by
  unfold Comparable
  constructor
  · intro h ha p hp
    rw [hp] at ha
    exact (withinHalf_iff_forward _ _).mp (h p hp) ha
  · intro h p hp
    refine (withinHalf_iff_forward _ _).mpr fun ha => h ?_ p hp
    rw [hp]
    exact ha

/-! ## Runs of calls -/

theorem acceptedNumbers_self (call : SequenceCall) (accepted : List SequenceCall) :
    acceptedNumbers call.instrumentId (call :: accepted) =
      call.sequenceNumber.toNat :: acceptedNumbers call.instrumentId accepted := by
  simp [acceptedNumbers]

theorem acceptedNumbers_other {i : UInt32} {call : SequenceCall} (accepted : List SequenceCall)
    (hi : call.instrumentId ≠ i) :
    acceptedNumbers i (call :: accepted) = acceptedNumbers i accepted := by
  simp [acceptedNumbers, hi]

/-- An accepted number has moved forward, and those that follow move forward from it. -/
theorem movesForward_accepted {cache : UInt32 → Option UInt32} {call : SequenceCall}
    (calls : List SequenceCall)
    (ha : inSequence (cache call.instrumentId) call.sequenceNumber = true) :
    MovesForward cache (call :: calls) ↔
      (∀ p, cache call.instrumentId = some p →
        Forward (2 ^ 31) p.toNat call.sequenceNumber.toNat) ∧
      MovesForward (update cache call.instrumentId (some call.sequenceNumber)) calls := by
  have hstep : testStep cache call =
      (some (update cache call.instrumentId (some call.sequenceNumber)), [call]) := by
    rw [testStep_eq, if_pos ha]
  unfold MovesForward
  rw [run_cons_some calls (congrArg Prod.fst hstep), hstep, List.singleton_append]
  constructor
  · intro h
    have hself := h call.instrumentId
    rw [acceptedNumbers_self] at hself
    constructor
    · intro p hp
      rw [hp] at hself
      exact (List.isChain_cons_cons.mp hself).1
    · intro i
      by_cases hi : call.instrumentId = i
      · subst hi
        rw [update_self]
        exact hself.right_of_append
      · have hother := h i
        rw [acceptedNumbers_other _ hi] at hother
        rwa [update_of_ne (Ne.symm hi)]
  · rintro ⟨hp, h⟩ i
    have hrest := h i
    by_cases hi : call.instrumentId = i
    · subst hi
      rw [update_self] at hrest
      rw [acceptedNumbers_self]
      cases hc : cache call.instrumentId with
      | none => exact hrest
      | some p => exact List.isChain_cons_cons.mpr ⟨hp p hc, hrest⟩
    · rw [update_of_ne (Ne.symm hi)] at hrest
      rwa [acceptedNumbers_other _ hi]

/-- A refused number leaves no trace. -/
theorem movesForward_refused {cache : UInt32 → Option UInt32} {call : SequenceCall}
    (calls : List SequenceCall)
    (ha : inSequence (cache call.instrumentId) call.sequenceNumber = false) :
    MovesForward cache (call :: calls) ↔ MovesForward cache calls := by
  have hstep : testStep cache call = (some cache, []) := by
    rw [testStep_eq, ha]
    rfl
  unfold MovesForward
  rw [run_cons_some calls (congrArg Prod.fst hstep), hstep, List.nil_append]

/-- Accepted numbers only move forward exactly if every number is comparable with the one that
    is cached when it comes. -/
theorem movesForward_iff (cache : UInt32 → Option UInt32) (calls : List SequenceCall) :
    MovesForward cache calls ↔ Guarded testStep Comparable cache calls := by
  induction calls generalizing cache with
  | nil =>
    refine iff_of_true (fun i => ?_) trivial
    cases hc : cache i <;> simp [acceptedNumbers]
  | cons call calls ih =>
    have hguarded : Guarded testStep Comparable cache (call :: calls) ↔
        Comparable cache call ∧ ∀ cache', (testStep cache call).1 = some cache' →
          Guarded testStep Comparable cache' calls := Iff.rfl
    rw [hguarded, testStep_eq, comparable_iff_forward]
    cases ha : inSequence (cache call.instrumentId) call.sequenceNumber with
    | true =>
      rw [movesForward_accepted calls ha]
      simp [ih]
    | false =>
      rw [movesForward_refused calls ha]
      simp [ih]

/-- Where they do, they are positions on a line that only increase, wrapped around. -/
theorem accepted_positions {cache : UInt32 → Option UInt32} {calls : List SequenceCall}
    {i p : UInt32} (hp : cache i = some p) (h : Guarded testStep Comparable cache calls) :
    ∃ positions : List ℕ,
      positions.map (· % (2 * 2 ^ 31)) = acceptedNumbers i (run testStep cache calls).2 ∧
      (p.toNat :: positions).IsChain fun m m' => m < m' ∧ m' ≤ m + 2 ^ 31 := by
  have hchain := (movesForward_iff cache calls).mpr h i
  rw [hp] at hchain
  refine exists_positions (Nat.mod_eq_of_lt p.toNat_lt) ?_ hchain
  intro s hs
  obtain ⟨call, -, rfl⟩ := List.mem_map.mp hs
  exact call.sequenceNumber.toNat_lt

/-- **Serial-number order.** Over any calls, from any cache: each number is accepted exactly if
    it is ahead of the cached one, and stored exactly if it is accepted; no late number is
    accepted; and the accepted numbers of each instrument only move forward. Each of the three
    holds exactly if every number is, when it comes, within half the range of the cached one. -/
theorem serial_order_iff (cache : UInt32 → Option UInt32) (calls : List SequenceCall) :
    (Guarded testStep FollowsSerialOrder cache calls ↔
      Guarded testStep Comparable cache calls) ∧
    (Guarded testStep RefusesLate cache calls ↔ Guarded testStep Comparable cache calls) ∧
    (MovesForward cache calls ↔ Guarded testStep Comparable cache calls) :=
  ⟨⟨Guarded.mono fun _ _ => (followsSerialOrder_iff _ _).mp,
      Guarded.mono fun _ _ => (followsSerialOrder_iff _ _).mpr⟩,
    ⟨Guarded.mono fun _ _ => (refusesLate_iff _ _).mp,
      Guarded.mono fun _ _ => (refusesLate_iff _ _).mpr⟩,
    movesForward_iff cache calls⟩

/-- A packet from before the wrap comes behind one from after it: `2^32 - 3` is taken behind 5,
    although 5 is eight ahead of it. -/
theorem late_before_wrap_accepted :
    (testSequence (fun _ => some 5) 7 4294967293).1 = true ∧ SerialAhead 4294967293 5 ∧
      ¬FollowsSerialOrder (fun _ => some 5) ⟨7, 4294967293⟩ := by
  have hlate : ¬WithinHalf 5 4294967293 := by decide
  refine ⟨by decide, by decide, fun h => hlate ?_⟩
  exact (followsSerialOrder_iff _ _).mp h 5 rfl

/-! ## The caches of the stream -/

namespace UDPEvents

variable {S : Type} [Sequencer S]

/-- The call a message makes on `last_trades_`. -/
def tradesCalls (env : Env) (frame : Frame) : Message → List SequenceCall
  | .trades trades =>
    if publishTradeSummary env then [⟨trades.instrumentId, frame.sequenceNumber⟩] else []
  | _ => []

/-- The call a message makes on `last_ticker_`. -/
def tickerCalls (env : Env) (frame : Frame) : Message → List SequenceCall
  | .ticker ticker =>
    if publishTopOfBook env then [⟨ticker.instrumentId, frame.sequenceNumber⟩] else []
  | _ => []

/-- Nothing but these calls moves the two caches. -/
theorem onMessage_calls {env : Env} {frame : Frame} {g g' : Gateway S} {m : Message}
    (h : (onMessage env frame g m).1 = some g') :
    (run testStep g.udpEvents.lastTrades (tradesCalls env frame m)).1 =
        some g'.udpEvents.lastTrades ∧
      (run testStep g.udpEvents.lastTicker (tickerCalls env frame m)).1 =
        some g'.udpEvents.lastTicker := by
  cases m with
  | trades value =>
    obtain rfl := Option.some.inj ((onTrades_next env frame g value).symm.trans h)
    refine ⟨?_, rfl⟩
    cases hp : publishTradeSummary env <;> simp [tradesCalls, hp, run, testStep]
  | ticker value =>
    obtain rfl := Option.some.inj ((onTicker_next env frame g value).symm.trans h)
    refine ⟨rfl, ?_⟩
    cases hp : publishTopOfBook env <;> simp [tickerCalls, hp, run, testStep]
  | book value =>
    obtain ⟨rfl, -⟩ | ⟨instrument, -, -, ⟨-, rfl⟩ | ⟨-, sequencer, rfl⟩⟩ := onBook_cases h
    · exact ⟨rfl, rfl⟩
    · exact ⟨rfl, rfl⟩
    · exact ⟨rfl, rfl⟩
  | instrument _ | priceIndex | instrumentV2 =>
    obtain rfl := Option.some.inj h
    exact ⟨rfl, rfl⟩
  | snapshot _ | snapshotStart | snapshotEnd | comboLegs | rfq => simp [onMessage] at h

end UDPEvents

end DeribitGateway
