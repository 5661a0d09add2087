import Mathlib.Algebra.Order.Ring.Rat
import DeribitGateway.Lib.LossyFeed
import DeribitGateway.Multicast.Gateway

/-!
# `UDPEvents` — the events channel

`gateway/udp_events.cpp`: book changes, trades and tickers. Every handler is a step from the
gateway's state; a step that ends the process (`log::fatal`, or an exception nothing
catches) has no next state.
-/

namespace DeribitGateway

open Function Transducer

/-! ## `test_sequence` -/

/-- `constexpr uint32_t const midpoint = 1 << 31` -/
def midpoint : UInt32 := (1 : UInt32) <<< 31

/-- The comparison of `test_sequence`: `sequence_number` is taken to be ahead of `previous`. -/
def ahead (previous sequenceNumber : UInt32) : Bool :=
  previous < sequenceNumber || (sequenceNumber < midpoint && midpoint < previous)

def testSequence (cache : UInt32 → Option UInt32) (instrumentId sequenceNumber : UInt32) :
    Bool × (UInt32 → Option UInt32) :=
  match cache instrumentId with
  | some previous =>
    if ahead previous sequenceNumber then
      (true, update cache instrumentId (some sequenceNumber))
    else
      (false, cache)  -- out of sequence
  | none => (true, update cache instrumentId (some sequenceNumber))

/-- The number is in sequence after the cached one, if any. -/
def inSequence (cached : Option UInt32) (sequenceNumber : UInt32) : Bool :=
  match cached with
  | some previous => ahead previous sequenceNumber
  | none => true

theorem testSequence_eq (cache : UInt32 → Option UInt32) (i n : UInt32) :
    testSequence cache i n =
      if inSequence (cache i) n then (true, update cache i (some n)) else (false, cache) := by
  unfold testSequence inSequence
  cases cache i <;> rfl

theorem testSequence_fst (cache : UInt32 → Option UInt32) (i n : UInt32) :
    (testSequence cache i n).1 = inSequence (cache i) n := by
  rw [testSequence_eq]
  cases inSequence (cache i) n <;> rfl

/-- A refused number leaves the cache as it is. -/
theorem testSequence_refused {cache cache' : UInt32 → Option UInt32} {i n : UInt32}
    (h : testSequence cache i n = (false, cache')) : cache' = cache := by
  rw [testSequence_eq] at h
  split at h
  · cases h
  · exact (Prod.mk.inj h).2.symm

namespace UDPEvents

variable {S : Type}

def publishTopOfBook (env : Env) : Bool := !env.disableTopOfBook

def publishMarketByPrice (env : Env) : Bool := !env.disableMarketByPrice

def publishTradeSummary (env : Env) : Bool := !env.disableTradeSummary

def setChannel (g : Gateway S) (channelId : UInt16) (channel : Channel) : Gateway S :=
  { g with udpEvents :=
      { g.udpEvents with channel := update g.udpEvents.channel channelId channel } }

@[simp] theorem setChannel_shared (g : Gateway S) (c : UInt16) (channel : Channel) :
    (setChannel g c channel).shared = g.shared := rfl

@[simp] theorem setChannel_self (g : Gateway S) (c : UInt16) (channel : Channel) :
    (setChannel g c channel).udpEvents.channel c = channel := by
  simp [setChannel]

theorem setChannel_other (g : Gateway S) {c c' : UInt16} (channel : Channel) (h : c' ≠ c) :
    (setChannel g c channel).udpEvents.channel c' = g.udpEvents.channel c' := by
  simp [setChannel, h]

/-- `operator()(Frame)` -/
def onFrame (g : Gateway S) (frame : Frame) : Bool × Gateway S :=
  let (result, channel) := (g.udpEvents.channel frame.channelId).onFrame frame
  (result, setChannel g frame.channelId channel)

/-! ## Book -/

variable [Sequencer S]

/-- `create_update` in `operator()(Trace<Book>)` -/
def createUpdate (env : Env) (instrument : Instrument S) (book : Sbe.Book)
    (bids asks : List MBPUpdate) (updateType : UpdateType) (exchangeSequence : UInt64) :
    MarketByPriceUpdate where
  streamId := env.eventsStreamId
  exchange := env.exchange
  symbol := instrument.symbol
  bids := bids
  asks := asks
  updateType := updateType
  exchangeTimeUtc := book.timestampMs.toInt64
  exchangeSequence := exchangeSequence

/-- `publish_update`, `publish_snapshot` and `request_snapshot` of the book handler. -/
def onCallback (env : Env) (instrument : Instrument S) (book : Sbe.Book) :
    Callback → List Output
  | .publishUpdate bids asks =>
    if bids.isEmpty && asks.isEmpty then []  -- note! empty updates are common
    else
      [.marketByPriceUpdate
        (createUpdate env instrument book bids asks .incremental book.changeId)]
  | .publishSnapshot bids asks exchangeSequence =>
    [.marketByPriceUpdate
      (createUpdate env instrument book bids asks .snapshot exchangeSequence)]
  | .requestSnapshot => []  -- note! just wait for snapshot

/-- What the sequencer is called with for the last part of a change. -/
def bookCall (instrument : Instrument S) (book : Sbe.Book) (channel : Channel) : BookCall where
  instrumentId := book.instrumentId
  multiplier := instrument.multiplier
  bids := channel.bids
  asks := channel.asks
  changeId := book.changeId
  prevChangeId := book.prevChangeId

def onBook (env : Env) (frame : Frame) : Step (Gateway S) Sbe.Book Output := fun g book =>
  if !publishMarketByPrice env then (some g, [])
  else
    match g.shared.findInstrument book.instrumentId with
    | none => (some g, [])  -- unknown instrument_id
    | some instrument =>
      let channel := (g.udpEvents.channel frame.channelId).appendAll instrument.multiplier
        book.changesList
      if !book.isLast.toBool then
        (some (setChannel g frame.channelId (channel.claim book.instrumentId)), [])
      else
        let called := Sequencer.update instrument.mbpSequencer channel.bids channel.asks
          book.changeId book.changeId book.prevChangeId
        let outputs := Output.mbpUpdate (bookCall instrument book channel) ::
          called.callbacks.flatMap (onCallback env instrument book)
        let g' (sequencer : S) : Gateway S :=
          { setChannel g frame.channelId channel.clear with
            shared := g.shared.setSequencer book.instrumentId sequencer }
        match called.outcome with
        | .returned => (some (g' called.state), outputs)
        | .badState =>
          (some (g' (Sequencer.clear called.state)), outputs ++ [.mbpClear book.instrumentId])
        | .failed => (none, outputs)

/-! ## Trades and ticker -/

/-- `append_trade` in `operator()(Trace<Trades>)` -/
def appendTrade (instrument : Instrument S) (item : Sbe.TradeItem) : Trade where
  side := item.direction.map
  price := item.price
  quantity := item.amount * instrument.multiplier
  tradeId := toString item.tradeId.toNat

def createTradeSummary (env : Env) (instrument : Instrument S) (trades : Sbe.Trades) :
    TradeSummary where
  streamId := env.eventsStreamId
  exchange := env.exchange
  symbol := instrument.symbol
  trades := trades.tradesList.map (appendTrade instrument)
  exchangeTimeUtc := trades.tradesList.foldl (fun t item => max t item.timestampMs.toInt64) 0

def onTrades (env : Env) (frame : Frame) : Step (Gateway S) Sbe.Trades Output := fun g trades =>
  if !publishTradeSummary env then (some g, [])
  else
    match testSequence g.udpEvents.lastTrades trades.instrumentId frame.sequenceNumber with
    | (false, _) => (some g, [])
    | (true, lastTrades) =>
      let g' := { g with udpEvents := { g.udpEvents with lastTrades } }
      match g.shared.findInstrument trades.instrumentId with
      | none => (some g', [])  -- unknown instrument_id
      | some instrument =>
        (some g', [.tradeSummary (createTradeSummary env instrument trades)])

def createTopOfBook (env : Env) (instrument : Instrument S) (ticker : Sbe.Ticker) :
    TopOfBook where
  streamId := env.eventsStreamId
  exchange := env.exchange
  symbol := instrument.symbol
  bidPrice := ticker.bestBidPrice
  bidQuantity := ticker.bestBidAmount * instrument.multiplier
  askPrice := ticker.bestAskPrice
  askQuantity := ticker.bestAskAmount * instrument.multiplier
  updateType := .snapshot
  exchangeTimeUtc := ticker.timestampMs.toInt64

def onTicker (env : Env) (frame : Frame) : Step (Gateway S) Sbe.Ticker Output := fun g ticker =>
  if !publishTopOfBook env then (some g, [])
  else
    match testSequence g.udpEvents.lastTicker ticker.instrumentId frame.sequenceNumber with
    | (false, _) => (some g, [])
    | (true, lastTicker) =>
      let g' := { g with udpEvents := { g.udpEvents with lastTicker } }
      match g.shared.findInstrument ticker.instrumentId with
      | none => (some g', [])  -- unknown instrument_id
      | some instrument => (some g', [.topOfBook (createTopOfBook env instrument ticker)])

/-! ## The stream -/

def onMessage (env : Env) (frame : Frame) : Step (Gateway S) Message Output := fun g message =>
  match message with
  | .instrument value => (some (g.onInstrument env value), [])
  | .book value => onBook env frame g value
  | .trades value => onTrades env frame g value
  | .ticker value => onTicker env frame g value
  | .priceIndex | .instrumentV2 => (some g, [])
  | .snapshot _ | .snapshotStart | .snapshotEnd | .comboLegs | .rfq => (none, [])  -- log::fatal

/-- One datagram from the events socket. -/
def receive (env : Env) (g : Gateway S) (packet : Packet) :
    Bool × Option (Gateway S) × List Output :=
  Parser.dispatch onFrame (onMessage env) g packet

/-! ## What a message can do -/

/-- The outputs of the book handler: nothing, unless the message is the last part of a change
    of an instrument that can be found; then the call, what its callbacks publish, and a
    `clear` if it threw `BadState`. -/
theorem mem_onBook {env : Env} {frame : Frame} {g : Gateway S} {book : Sbe.Book} {o : Output}
    (h : o ∈ (onBook env frame g book).2) :
    publishMarketByPrice env = true ∧ book.isLast.toBool = true ∧
      ∃ instrument, g.shared.findInstrument book.instrumentId = some instrument ∧
        (o = .mbpUpdate (bookCall instrument book
            ((g.udpEvents.channel frame.channelId).appendAll instrument.multiplier
              book.changesList)) ∨
          o = .mbpClear book.instrumentId ∨ ∃ update, o = .marketByPriceUpdate update) := by
  unfold onBook at h
  cases hp : publishMarketByPrice env with
  | false => simp [hp] at h
  | true =>
    cases hf : g.shared.findInstrument book.instrumentId with
    | none => simp [hp, hf] at h
    | some instrument =>
      cases hl : book.isLast.toBool with
      | false => simp [hp, hf, hl] at h
      | true =>
        refine ⟨rfl, rfl, instrument, rfl, ?_⟩
        have hcb : ∀ cbs : List Callback, o ∈ cbs.flatMap (onCallback env instrument book) →
            ∃ update, o = .marketByPriceUpdate update := by
          intro cbs ho
          obtain ⟨cb, -, ho⟩ := List.mem_flatMap.mp ho
          cases cb with
          | publishUpdate bids asks =>
            simp only [onCallback] at ho
            split at ho
            · simp at ho
            · exact ⟨_, List.mem_singleton.mp ho⟩
          | publishSnapshot bids asks n => exact ⟨_, List.mem_singleton.mp ho⟩
          | requestSnapshot => simp [onCallback] at ho
        simp only [hp, hf, hl, Bool.not_true, Bool.false_eq_true, if_false] at h
        have h' : o ∈ Output.mbpUpdate (bookCall instrument book
              ((g.udpEvents.channel frame.channelId).appendAll instrument.multiplier
                book.changesList)) ::
            (Sequencer.update instrument.mbpSequencer
              ((g.udpEvents.channel frame.channelId).appendAll instrument.multiplier
                book.changesList).bids
              ((g.udpEvents.channel frame.channelId).appendAll instrument.multiplier
                book.changesList).asks book.changeId book.changeId
              book.prevChangeId).callbacks.flatMap (onCallback env instrument book) ∨
            o = .mbpClear book.instrumentId := by
          split at h
          · exact .inl h
          · rcases List.mem_append.mp h with h | h
            · exact .inl h
            · exact .inr (List.mem_singleton.mp h)
          · exact .inl h
        rcases h' with h' | h'
        · rcases List.mem_cons.mp h' with h' | h'
          · exact .inl h'
          · exact .inr (.inr (hcb _ h'))
        · exact .inr (.inl h')

/-- Where the book handler leads. -/
theorem onBook_cases {env : Env} {frame : Frame} {g g' : Gateway S} {book : Sbe.Book}
    (h : (onBook env frame g book).1 = some g') :
    g' = g ∧ (publishMarketByPrice env = false ∨
        g.shared.findInstrument book.instrumentId = none) ∨
      ∃ instrument, publishMarketByPrice env = true ∧
        g.shared.findInstrument book.instrumentId = some instrument ∧
        (book.isLast.toBool = false ∧
            g' = setChannel g frame.channelId
              (((g.udpEvents.channel frame.channelId).appendAll instrument.multiplier
                book.changesList).claim book.instrumentId) ∨
          book.isLast.toBool = true ∧ ∃ sequencer,
            g' = { setChannel g frame.channelId
                  ((g.udpEvents.channel frame.channelId).appendAll instrument.multiplier
                    book.changesList).clear with
                shared := g.shared.setSequencer book.instrumentId sequencer }) := by
  unfold onBook at h
  cases hp : publishMarketByPrice env with
  | false =>
    simp only [hp, Bool.not_false, if_true, Option.some.injEq] at h
    exact .inl ⟨h.symm, .inl rfl⟩
  | true =>
    cases hf : g.shared.findInstrument book.instrumentId with
    | none =>
      simp only [hp, hf, Bool.not_true, Bool.false_eq_true, if_false, Option.some.injEq] at h
      exact .inl ⟨h.symm, .inr rfl⟩
    | some instrument =>
      refine .inr ⟨instrument, rfl, rfl, ?_⟩
      cases hl : book.isLast.toBool with
      | false =>
        simp only [hp, hf, hl, Bool.not_true, Bool.not_false, Bool.false_eq_true, if_false, if_true,
          Option.some.injEq] at h
        exact .inl ⟨rfl, h.symm⟩
      | true =>
        simp only [hp, hf, hl, Bool.not_true, Bool.false_eq_true, if_false] at h
        refine .inr ⟨rfl, ?_⟩
        split at h
        · exact ⟨_, (Option.some.inj h).symm⟩
        · exact ⟨_, (Option.some.inj h).symm⟩
        · simp at h

omit [Sequencer S] in
/-- The trades handler moves nothing but the sequence cache. -/
theorem onTrades_next (env : Env) (frame : Frame) (g : Gateway S) (trades : Sbe.Trades) :
    (onTrades env frame g trades).1 = some { g with udpEvents := { g.udpEvents with
      lastTrades := if publishTradeSummary env then
        (testSequence g.udpEvents.lastTrades trades.instrumentId frame.sequenceNumber).2
        else g.udpEvents.lastTrades } } := by
  unfold onTrades
  cases publishTradeSummary env with
  | false => rfl
  | true =>
    rcases ht : testSequence g.udpEvents.lastTrades trades.instrumentId frame.sequenceNumber
      with ⟨_ | _, cache⟩
    · obtain rfl := testSequence_refused ht
      simp
    · cases g.shared.findInstrument trades.instrumentId <;> simp

omit [Sequencer S] in
/-- The ticker handler moves nothing but its own sequence cache. -/
theorem onTicker_next (env : Env) (frame : Frame) (g : Gateway S) (ticker : Sbe.Ticker) :
    (onTicker env frame g ticker).1 = some { g with udpEvents := { g.udpEvents with
      lastTicker := if publishTopOfBook env then
        (testSequence g.udpEvents.lastTicker ticker.instrumentId frame.sequenceNumber).2
        else g.udpEvents.lastTicker } } := by
  unfold onTicker
  cases publishTopOfBook env with
  | false => rfl
  | true =>
    rcases ht : testSequence g.udpEvents.lastTicker ticker.instrumentId frame.sequenceNumber
      with ⟨_ | _, cache⟩
    · obtain rfl := testSequence_refused ht
      simp
    · cases g.shared.findInstrument ticker.instrumentId <;> simp

omit [Sequencer S] in
/-- The trades handler publishes what is in sequence and of a known instrument. -/
theorem onTrades_output (env : Env) (frame : Frame) (g : Gateway S) (trades : Sbe.Trades) :
    (onTrades env frame g trades).2 =
      if publishTradeSummary env && (testSequence g.udpEvents.lastTrades trades.instrumentId
        frame.sequenceNumber).1 then
        ((g.shared.findInstrument trades.instrumentId).map fun x =>
          .tradeSummary (createTradeSummary env x trades)).toList
      else [] := by
  unfold onTrades
  cases publishTradeSummary env with
  | false => rfl
  | true =>
    rcases testSequence g.udpEvents.lastTrades trades.instrumentId frame.sequenceNumber
      with ⟨_ | _, cache⟩
    · rfl
    · cases g.shared.findInstrument trades.instrumentId <;> rfl

omit [Sequencer S] in
/-- The ticker handler publishes what is in sequence and of a known instrument. -/
theorem onTicker_output (env : Env) (frame : Frame) (g : Gateway S) (ticker : Sbe.Ticker) :
    (onTicker env frame g ticker).2 =
      if publishTopOfBook env && (testSequence g.udpEvents.lastTicker ticker.instrumentId
        frame.sequenceNumber).1 then
        ((g.shared.findInstrument ticker.instrumentId).map fun x =>
          .topOfBook (createTopOfBook env x ticker)).toList
      else [] := by
  unfold onTicker
  cases publishTopOfBook env with
  | false => rfl
  | true =>
    rcases testSequence g.udpEvents.lastTicker ticker.instrumentId frame.sequenceNumber
      with ⟨_ | _, cache⟩
    · rfl
    · cases g.shared.findInstrument ticker.instrumentId <;> rfl

/-- A message leaves alone the snapshot stream, every other channel, and the instruments but
    for their sequencers. -/
theorem onMessage_frame {env : Env} {frame : Frame} {g g' : Gateway S} {m : Message}
    (h : (onMessage env frame g m).1 = some g') :
    g.shared.Grows g'.shared ∧ g'.udpSnapshot = g.udpSnapshot ∧
      ∀ c, c ≠ frame.channelId → g'.udpEvents.channel c = g.udpEvents.channel c := by
  cases m with
  | instrument value =>
    obtain rfl := Option.some.inj h
    exact ⟨grows_onInstrument env g value, rfl, fun _ _ => rfl⟩
  | book value =>
    obtain ⟨rfl, -⟩ | ⟨instrument, -, -, ⟨-, rfl⟩ | ⟨-, sequencer, rfl⟩⟩ := onBook_cases h
    · exact ⟨.refl _, rfl, fun _ _ => rfl⟩
    · exact ⟨.refl _, rfl, fun c hc => setChannel_other g _ hc⟩
    · exact ⟨grows_setSequencer _ _ _, rfl, fun c hc => setChannel_other g _ hc⟩
  | trades value =>
    obtain rfl := Option.some.inj ((onTrades_next env frame g value).symm.trans h)
    exact ⟨.refl _, rfl, fun _ _ => rfl⟩
  | ticker value =>
    obtain rfl := Option.some.inj ((onTicker_next env frame g value).symm.trans h)
    exact ⟨.refl _, rfl, fun _ _ => rfl⟩
  | priceIndex | instrumentV2 =>
    obtain rfl := Option.some.inj h
    exact ⟨.refl _, rfl, fun _ _ => rfl⟩
  | snapshot _ | snapshotStart | snapshotEnd | comboLegs | rfq => simp [onMessage] at h

omit [Sequencer S] in
theorem onFrame_self (g : Gateway S) (frame : Frame) :
    (onFrame g frame).2.udpEvents.channel frame.channelId =
      ((g.udpEvents.channel frame.channelId).onFrame frame).2 :=
  setChannel_self g frame.channelId _

omit [Sequencer S] in
/-- A frame touches its channel only. -/
theorem onFrame_frame (g : Gateway S) (frame : Frame) :
    (onFrame g frame).2.shared = g.shared ∧
      (onFrame g frame).2.udpSnapshot = g.udpSnapshot ∧
      ∀ c, c ≠ frame.channelId →
        (onFrame g frame).2.udpEvents.channel c = g.udpEvents.channel c :=
  ⟨rfl, rfl, fun _ hc => setChannel_other g _ hc⟩

omit [Sequencer S] in
/-- An accepted frame leaves what the channel holds. -/
theorem onFrame_accepted {g g' : Gateway S} {frame : Frame} (h : onFrame g frame = (true, g')) :
    (g'.udpEvents.channel frame.channelId).bids = (g.udpEvents.channel frame.channelId).bids ∧
      (g'.udpEvents.channel frame.channelId).asks =
        (g.udpEvents.channel frame.channelId).asks := by
  obtain ⟨hacc, rfl⟩ := Prod.mk.inj h
  rw [setChannel_self]
  obtain ⟨-, ⟨-, hbids, hasks, -⟩ | ⟨hrefused, -⟩⟩ :=
    Channel.onFrame_cases (g.udpEvents.channel frame.channelId) frame
  · exact ⟨hbids, hasks⟩
  · exact absurd (hrefused.symm.trans hacc) Bool.false_ne_true

/-- Only `Trades` messages move the numbers kept for trades. -/
theorem onMessage_not_trades {env : Env} {frame : Frame} {g g' : Gateway S} {m : Message}
    (hm : ∀ trades, m ≠ .trades trades) (h : (onMessage env frame g m).1 = some g') :
    g'.udpEvents.lastTrades = g.udpEvents.lastTrades := by
  cases m with
  | trades value => exact absurd rfl (hm value)
  | ticker value =>
    obtain rfl := Option.some.inj ((onTicker_next env frame g value).symm.trans h)
    rfl
  | book value =>
    obtain ⟨rfl, -⟩ | ⟨instrument, -, -, ⟨-, rfl⟩ | ⟨-, sequencer, rfl⟩⟩ := onBook_cases h
    · rfl
    · rfl
    · rfl
  | instrument _ | priceIndex | instrumentV2 =>
    obtain rfl := Option.some.inj h
    rfl
  | snapshot _ | snapshotStart | snapshotEnd | comboLegs | rfq => simp [onMessage] at h

/-- Only book messages move the accumulators. -/
theorem onMessage_not_book {env : Env} {frame : Frame} {g g' : Gateway S} {m : Message}
    (hm : ∀ book, m ≠ .book book) (h : (onMessage env frame g m).1 = some g') :
    g'.udpEvents.channel = g.udpEvents.channel := by
  cases m with
  | instrument value =>
    obtain rfl := Option.some.inj h
    rfl
  | book value => exact absurd rfl (hm value)
  | trades value =>
    obtain rfl := Option.some.inj ((onTrades_next env frame g value).symm.trans h)
    rfl
  | ticker value =>
    obtain rfl := Option.some.inj ((onTicker_next env frame g value).symm.trans h)
    rfl
  | priceIndex | instrumentV2 =>
    obtain rfl := Option.some.inj h
    rfl
  | snapshot _ | snapshotStart | snapshotEnd | comboLegs | rfq => simp [onMessage] at h

/-- Only book messages call the sequencer. -/
theorem mbpUpdate_of_onMessage {env : Env} {frame : Frame} {g : Gateway S} {m : Message}
    {call : BookCall} (h : .mbpUpdate call ∈ (onMessage env frame g m).2) :
    ∃ book, m = .book book ∧ .mbpUpdate call ∈ (onBook env frame g book).2 := by
  cases m with
  | book value => exact ⟨value, rfl, h⟩
  | trades value =>
    simp only [onMessage, onTrades_output] at h
    split at h <;> simp at h
  | ticker value =>
    simp only [onMessage, onTicker_output] at h
    split at h <;> simp at h
  | instrument _ | priceIndex | instrumentV2 | snapshot _ | snapshotStart | snapshotEnd | comboLegs
  | rfq => simp [onMessage] at h

/-- Messages have no say in what becomes of later frames. -/
theorem onMessage_sequence {env : Env} {frame : Frame} {g g' : Gateway S} {m : Message}
    (h : (onMessage env frame g m).1 = some g') (c : UInt16) :
    (g'.udpEvents.channel c).sequence = (g.udpEvents.channel c).sequence := by
  by_cases hm : ∃ book, m = .book book
  · obtain ⟨book, rfl⟩ := hm
    by_cases hc : c = frame.channelId
    · subst hc
      obtain ⟨rfl, -⟩ | ⟨instrument, -, -, ⟨-, rfl⟩ | ⟨-, sequencer, rfl⟩⟩ := onBook_cases h
      · rfl
      · simp
      · simp
    · rw [(onMessage_frame h).2.2 c hc]
  · rw [onMessage_not_book (fun book hb => hm ⟨book, hb⟩) h]

/-- A datagram of the events socket does not touch the snapshot stream. -/
theorem receive_frame {env : Env} {g g' : Gateway S} {packet : Packet}
    (h : (receive env g packet).2.1 = some g') :
    g.shared.Grows g'.shared ∧ g'.udpSnapshot = g.udpSnapshot := by
  refine Parser.dispatch_keeps
    (I := fun t => g.shared.Grows t.shared ∧ t.udpSnapshot = g.udpSnapshot)
    ⟨.refl _, rfl⟩ ?_ h
  intro t m t' ht hm
  obtain ⟨hgrows, hsnapshot, -⟩ := onMessage_frame hm
  exact ⟨ht.1.trans hgrows, hsnapshot.trans ht.2⟩

/-- Behind a datagram every channel remembers what the frame handler made it remember. -/
theorem receive_sequence {env : Env} {g g' : Gateway S} {packet : Packet}
    (h : (receive env g packet).2.1 = some g') (c : UInt16) :
    (g'.udpEvents.channel c).sequence =
      ((onFrame g packet.frame).2.udpEvents.channel c).sequence :=
  Parser.dispatch_keeps
    (I := fun t => (t.udpEvents.channel c).sequence =
      ((onFrame g packet.frame).2.udpEvents.channel c).sequence)
    rfl (fun _ _ _ ht hm => (onMessage_sequence hm c).trans ht) h

end UDPEvents

end DeribitGateway
