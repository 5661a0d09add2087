import DeribitGateway.Lib.Transducer
import DeribitGateway.Multicast.Channel

/-!
# The state the multicast streams share

`gateway/shared.hpp`, `gateway/instrument.hpp`, `gateway/utils.hpp` and the state of
`UDPEvents` and `UDPSnapshot`. The two streams have channels of their own and share the
instruments, and with each instrument its `mbp_sequencer`.

`market::mbp::Sequencer` is not part of the repository. It enters as a type class
`Sequencer S` without laws: a call answers the sequencer's next state, the callbacks it made,
in order, and how it returned. The same holds of `server::Dispatcher::discard_symbol` and
`utils::is_zero`, which are fields of `Env`.

A map with default-constructed entries (`channel_`) is a total function, any other map a
function into `Option`.
-/

namespace DeribitGateway

open Function Transducer

/-! ## The sequencer -/

/-- What a sequencer asks of its caller. -/
inductive Callback
  | publishUpdate (bids asks : List MBPUpdate)
  | publishSnapshot (bids asks : List MBPUpdate) (exchangeSequence : UInt64)
  | requestSnapshot
  deriving DecidableEq

/-- A call returns, or throws `BadState`, or throws something else. -/
inductive Outcome
  | returned
  | badState
  | failed
  deriving DecidableEq, Repr

structure Called (S : Type) where
  state : S
  callbacks : List Callback
  outcome : Outcome

class Sequencer (S : Type) where
  fresh : S
  ready : S → Bool
  clear : S → S
  /-- `mbp_sequencer(bids, asks, first, last, previous, …)` -/
  update : S → List MBPUpdate → List MBPUpdate → UInt64 → UInt64 → UInt64 → Called S
  /-- `mbp_sequencer(bids, asks, change_id, force, …)` -/
  snapshot : S → List MBPUpdate → List MBPUpdate → UInt64 → Bool → Called S

/-! ## Shared state -/

structure Env where
  exchange : String
  disableTopOfBook : Bool
  disableMarketByPrice : Bool
  disableTradeSummary : Bool
  eventsStreamId : UInt16
  snapshotStreamId : UInt16
  discardSymbol : String → Bool
  isZero : ℚ → Bool

structure Instrument (S : Type) where
  symbol : String
  contractSize : ℚ
  multiplier : ℚ
  discard : Bool
  mbpSequencer : S

structure Shared (S : Type) where
  instruments : UInt32 → Option (Instrument S)

structure UDPEvents where
  channel : UInt16 → Channel
  lastTicker : UInt32 → Option UInt32
  lastTrades : UInt32 → Option UInt32

structure UDPSnapshot where
  channel : UInt16 → Channel

structure Gateway (S : Type) where
  shared : Shared S
  udpEvents : UDPEvents
  udpSnapshot : UDPSnapshot

/-- The gateway before the first datagram. -/
def Gateway.init (S : Type) : Gateway S where
  shared := ⟨fun _ => none⟩
  udpEvents := ⟨fun _ => {}, fun _ => none, fun _ => none⟩
  udpSnapshot := ⟨fun _ => {}⟩

def computeContractsMultiplier (env : Env) (contractSize : ℚ) : ℚ :=
  if env.isZero contractSize then 1 else 1 / contractSize

section

variable {S : Type}

/-- The instrument `find_instrument` runs its callback on. -/
def Shared.findInstrument (shared : Shared S) (instrumentId : UInt32) : Option (Instrument S) :=
  match shared.instruments instrumentId with
  | some instrument => if instrument.discard then none else some instrument
  | none => none

/-- The instrument is in `Shared::instruments` and not discarded. -/
def Gateway.knows (g : Gateway S) (instrumentId : UInt32) : Bool :=
  (g.shared.findInstrument instrumentId).isSome

def Shared.maybeCreateInstrument (shared : Shared S) (instrumentId : UInt32)
    (create : Instrument S) : Shared S :=
  match shared.instruments instrumentId with
  | some _ => shared
  | none => ⟨update shared.instruments instrumentId (some create)⟩

/-- `(*iter).second.mbp_sequencer` after a call. -/
def Shared.setSequencer (shared : Shared S) (instrumentId : UInt32) (sequencer : S) : Shared S :=
  ⟨update shared.instruments instrumentId
    ((shared.instruments instrumentId).map ({ · with mbpSequencer := sequencer }))⟩

/-- The callback of both `operator()(Trace<Instrument>)`. -/
def createInstrument [Sequencer S] (env : Env) (instrument : Sbe.Instrument) : Instrument S where
  symbol := instrument.instrumentName
  contractSize := instrument.contractSize
  multiplier := computeContractsMultiplier env instrument.contractSize
  discard := env.discardSymbol instrument.instrumentName
  mbpSequencer := Sequencer.fresh

/-- `operator()(Trace<Instrument>)`, the same in both streams. -/
def Gateway.onInstrument [Sequencer S] (env : Env) (g : Gateway S) (instrument : Sbe.Instrument) :
    Gateway S :=
  { g with shared :=
      g.shared.maybeCreateInstrument instrument.instrumentId (createInstrument env instrument) }

end

/-! ## What the streams emit -/

/-- `instrument.mbp_sequencer(channel.bids, channel.asks, change_id, change_id,
    prev_change_id, …)` as `UDPEvents` calls it; `multiplier` is that of the instrument. -/
structure BookCall where
  instrumentId : UInt32
  multiplier : ℚ
  bids : List MBPUpdate
  asks : List MBPUpdate
  changeId : UInt64
  prevChangeId : UInt64
  deriving DecidableEq

/-- `instrument.mbp_sequencer(channel.bids, channel.asks, change_id, force, …)` as
    `UDPSnapshot` calls it. -/
structure SnapshotCall where
  instrumentId : UInt32
  multiplier : ℚ
  bids : List MBPUpdate
  asks : List MBPUpdate
  changeId : UInt64
  force : Bool
  deriving DecidableEq

inductive Output
  | mbpUpdate (call : BookCall)
  | mbpSnapshot (call : SnapshotCall)
  | mbpClear (instrumentId : UInt32)
  | marketByPriceUpdate (value : MarketByPriceUpdate)
  | tradeSummary (value : TradeSummary)
  | topOfBook (value : TopOfBook)
  deriving DecidableEq

/-! ## The parser -/

/-- `Parser::dispatch` on a decoded datagram: the handler sees the frame first and, if it
    accepts it, each message in turn. A handler that ends the process ends the loop. -/
def Parser.dispatch {σ ω : Type} (onFrame : σ → Frame → Bool × σ)
    (onMessage : Frame → Step σ Message ω) (s : σ) (packet : Packet) :
    Bool × Option σ × List ω :=
  match onFrame s packet.frame with
  | (false, s') => (false, some s', [])
  | (true, s') => (true, run (onMessage packet.frame) s' packet.messages)

/-- What holds behind the frame handler and is kept by the message handlers holds behind the
    datagram. -/
theorem Parser.dispatch_keeps {σ ω : Type} {onFrame : σ → Frame → Bool × σ}
    {onMessage : Frame → Step σ Message ω} {I : σ → Prop} {s s' : σ} {packet : Packet}
    (hframe : I (onFrame s packet.frame).2)
    (hmessage : ∀ t m t', I t → (onMessage packet.frame t m).1 = some t' → I t')
    (h : (Parser.dispatch onFrame onMessage s packet).2.1 = some s') : I s' := by
  unfold Parser.dispatch at h
  rcases hd : onFrame s packet.frame with ⟨_ | _, t⟩
  · rw [hd] at h hframe
    exact Option.some.inj h ▸ hframe
  · rw [hd] at h hframe
    exact run_invariant hmessage hframe h

/-! ## Lookup lemmas -/

section

variable {S : Type}

theorem findInstrument_some {shared : Shared S} {i : UInt32} {x : Instrument S} :
    shared.findInstrument i = some x ↔ shared.instruments i = some x ∧ x.discard = false := by
  unfold Shared.findInstrument
  cases h : shared.instruments i with
  | none => simp
  | some y =>
    simp only [Option.ite_none_left_eq_some, Bool.not_eq_true, Option.some.injEq]
    constructor
    · rintro ⟨hd, rfl⟩
      exact ⟨rfl, hd⟩
    · rintro ⟨rfl, hd⟩
      exact ⟨hd, rfl⟩

/-- A sequencer's new state changes nothing else about its instrument. -/
theorem findInstrument_setSequencer {shared : Shared S} {i j : UInt32} {sequencer : S} :
    (shared.setSequencer i sequencer).findInstrument j =
      if j = i then (shared.findInstrument j).map ({ · with mbpSequencer := sequencer })
      else shared.findInstrument j := by
  unfold Shared.findInstrument Shared.setSequencer
  by_cases hj : j = i
  · subst hj
    cases h : shared.instruments j with
    | none => simp
    | some x => cases hd : x.discard <;> simp [hd]
  · simp [hj]

/-- An instrument that can be found stays as it is when another one is created. -/
theorem findInstrument_maybeCreate_of_some {shared : Shared S} {i j : UInt32} {x y : Instrument S}
    (h : shared.findInstrument j = some x) :
    (shared.maybeCreateInstrument i y).findInstrument j = some x := by
  unfold Shared.maybeCreateInstrument
  cases hi : shared.instruments i with
  | some z => exact h
  | none =>
    have hji : j ≠ i := by
      rintro rfl
      rw [findInstrument_some, hi] at h
      simp at h
    simpa [Shared.findInstrument, hji] using h

/-! ## Instruments only accrue -/

/-- Every instrument that can be found in `s` can be found in `s'`, with the same
    multiplier. -/
def Shared.Grows (s s' : Shared S) : Prop :=
  ∀ i x, s.findInstrument i = some x →
    ∃ x', s'.findInstrument i = some x' ∧ x'.multiplier = x.multiplier

theorem Shared.Grows.refl (s : Shared S) : s.Grows s := fun _ x h => ⟨x, h, rfl⟩

theorem Shared.Grows.trans {s t u : Shared S} (h : s.Grows t) (h' : t.Grows u) : s.Grows u := by
  intro i x hx
  obtain ⟨y, hy, hyx⟩ := h i x hx
  obtain ⟨z, hz, hzy⟩ := h' i y hy
  exact ⟨z, hz, hzy.trans hyx⟩

theorem grows_setSequencer (s : Shared S) (i : UInt32) (sequencer : S) :
    s.Grows (s.setSequencer i sequencer) := by
  intro j x hx
  rw [findInstrument_setSequencer, hx]
  by_cases hj : j = i
  · exact ⟨{ x with mbpSequencer := sequencer }, by rw [if_pos hj, Option.map_some], rfl⟩
  · exact ⟨x, by rw [if_neg hj], rfl⟩

theorem grows_onInstrument [Sequencer S] (env : Env) (g : Gateway S) (i : Sbe.Instrument) :
    g.shared.Grows (g.onInstrument env i).shared :=
  fun _ x hx => ⟨x, findInstrument_maybeCreate_of_some hx, rfl⟩

end

/-! ## A sequencer that looks at change ids only, and plain settings -/

/-- The last applied change id, once there is one. -/
structure ChangeIdSequencer where
  applied : Option UInt64
  deriving DecidableEq

/-- An update is applied if it follows the last applied one, and a snapshot always; an update
    that comes before any snapshot asks for one. -/
instance : Sequencer ChangeIdSequencer where
  fresh := ⟨none⟩
  ready s := s.applied.isSome
  clear _ := ⟨none⟩
  update s bids asks _ last previous :=
    match s.applied with
    | none => ⟨s, [.requestSnapshot], .returned⟩
    | some applied =>
      if previous = applied then ⟨⟨some last⟩, [.publishUpdate bids asks], .returned⟩
      else ⟨s, [], .badState⟩
  snapshot _ bids asks changeId _ :=
    ⟨⟨some changeId⟩, [.publishSnapshot bids asks changeId], .returned⟩

/-- Everything is published and no symbol is discarded. -/
def Env.plain : Env where
  exchange := "deribit"
  disableTopOfBook := false
  disableMarketByPrice := false
  disableTradeSummary := false
  eventsStreamId := 1
  snapshotStreamId := 2
  discardSymbol _ := false
  isZero size := size = 0

/-- The announcement of instrument 7, with contracts of size one. -/
def perpetual : Message := .instrument ⟨7, 1, "BTC-PERPETUAL"⟩

end DeribitGateway
