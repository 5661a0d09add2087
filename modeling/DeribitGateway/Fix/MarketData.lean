import DeribitGateway.Fix.MarketDataMessage
import DeribitGateway.Lib.Emission
import DeribitGateway.Lib.StagedDownload
import DeribitGateway.Shared

/-!
# The market data stream

`MarketData` is the FIX session that subscribes to the symbols of one slice. The master
downloads the list of securities first. A step of it is one call the process makes: the
timer, `subscribe` when new symbols have been announced, a change of the connection, or one
message that the reader has found in the buffer.

Handlers work on the stream next to what it shares with the other streams. What is not in the
repository is a parameter, as for the order entry stream: `Env` and `Context`.
-/

namespace DeribitGateway

namespace MarketData

open StagedDownload Emission

/-- `MarketData::State` -/
inductive State
  | undefined
  | securities
  | subscribe
  | done
  deriving DecidableEq, Repr

/-- `magic_enum::enum_name` -/
def State.name : State → String
  | undefined => "UNDEFINED"
  | securities => "SECURITIES"
  | subscribe => "SUBSCRIBE"
  | done => "DONE"

instance : Stages State where
  undefined := .undefined
  before := [.securities, .subscribe]
  done := .done

end MarketData

structure MarketData (D : Type) where
  streamId : UInt16
  index : ℕ
  master : Bool
  /-- `outbound_.msg_seq_num` -/
  outbound : ℕ
  /-- `inbound_.msg_seq_num` -/
  inbound : ℕ
  ready_ : Bool
  nextHeartbeat : ℤ
  connectionStatus : ConnectionStatus
  download : D
  lastLogonOrHeartbeat : ℤ
  latch : Finset String
  testDisconnectTime : ℤ

namespace MarketData

open StagedDownload Emission

structure Env where
  exchange : String
  accountKey : String
  hasMulticast : Bool
  disableMarketByPrice : Bool
  disableTradeSummary : Bool
  useFixReferenceData : Bool
  cancelOnDisconnect : Bool
  terminateOnMarketDataRequestReject : Bool
  requestTimeout : ℤ
  pingFreq : ℤ
  testMarketDataDisconnect : ℤ
  marketDataMarketDepth : ℕ
  marketDataRequestMaxSize : ℕ
  /-- `Account::create_password` -/
  createPassword : String → String
  /-- `utils::is_zero` -/
  isZero : Double → Bool
  /-- `utils::hash::FNV::compute` -/
  hash : String → UInt64
  /-- `utils::charconv::to_string` -/
  toString : ℤ → String
  /-- `utils::charconv::from_chars`, which may throw. -/
  fromChars : String → Option ℕ
  /-- `utils::charconv::from_chars` of a time, which may throw. -/
  fromCharsTime : String → Option ℤ
  /-- `std::chrono::milliseconds::max()` -/
  maxTime : ℤ
  sideOf : Fix.Side → Side
  optionTypeOf : Fix.PutOrCall → OptionType

/-- `publish_market_by_price` -/
def Env.publishMarketByPrice (env : Env) : Bool := !env.hasMulticast || env.disableMarketByPrice

/-- `publish_trade_summary` -/
def Env.publishTradeSummary (env : Env) : Bool := !env.hasMulticast || env.disableTradeSummary

/-- How the dispatch of a book ends: it returns, throws `BadState`, or throws anything else. -/
inductive Dispatched
  | returned
  | badState
  | failed
  deriving DecidableEq, Repr

structure Context (Y : Type) where
  /-- `trace_info.origin_create_time` -/
  now : ℤ
  /-- `ConnectionManager::refresh` -/
  refreshed : Bool
  /-- Whether `ConnectionManager::send` takes the message of this number. -/
  queued : ℕ → Bool
  /-- `Account::create_raw_data` -/
  rawData : String
  /-- The shared state, as the call finds it. -/
  shared : SharedState Y
  /-- What the controller makes of a `SymbolsUpdate`: the shared state, and `start_from`. -/
  symbolsUpdate : SharedState Y → List String → SharedState Y × ℕ
  /-- `discard_symbol` for the securities of a list, which may throw. -/
  discardSymbol : ℕ → Option Bool
  /-- How the dispatch of a book ends. -/
  marketByPrice : Dispatched

inductive Event
  | timer (now : ℤ)
  | subscribe (startFrom : ℕ)
  | connected
  | disconnected
  | message (header : Fix.Header) (value : Fix.MDInbound)

inductive Output
  | sent (msgSeqNum : ℕ) (message : Fix.MDOutbound) (queued : Bool)
  | streamStatus (value : StreamStatus)
  | externalLatency (value : ExternalLatency)
  | referenceData (value : ReferenceData)
  | symbolsUpdate (symbols : List String)
  | marketByPriceUpdate (value : MarketByPriceUpdate) (isLast : Bool) (dispatched : Dispatched)
  | tradeSummary (value : TradeSummary) (isLast : Bool)
  | statisticsUpdate (value : StatisticsUpdate)
  | closed
  deriving DecidableEq

variable {D Y : Type}

/-- Handlers work on the stream and on what it shares. -/
abbrev Handler (D Y : Type) := Emission.Handler (MarketData D × SharedState Y) Output

/-- `MarketData::ready` -/
def ready (o : MarketData D) : Bool := o.ready_

def initial [Download State D] (streamId : UInt16) (index : ℕ) (master : Bool) : MarketData D :=
  { streamId
    index
    master
    outbound := 0
    inbound := 0
    ready_ := false
    nextHeartbeat := 0
    connectionStatus := .undefined
    download := Download.fresh
    lastLogonOrHeartbeat := 0
    latch := ∅
    testDisconnectTime := 0 }

/-- Change the stream. -/
def set (f : MarketData D → MarketData D) : Handler D Y := modify fun s => (f s.1, s.2)

variable (env : Env) (ctx : Context Y)

/-! ## Sending -/

/-- The number is taken before the connection is asked, and what it answers is ignored. -/
def send (message : Fix.MDOutbound) : Handler D Y := fun (o, shared) =>
  (({ o with outbound := o.outbound + 1 }, shared),
    [.sent (o.outbound + 1) message (ctx.queued (o.outbound + 1))])

/-- `operator()(Trace<ConnectionStatus>)` -/
def publish (connectionStatus : ConnectionStatus) (reason : String) : Handler D Y :=
  fun (o, shared) =>
    (({ o with connectionStatus }, shared),
      [.streamStatus { streamId := o.streamId, account := "", connectionStatus, reason }])

def sendLogon : Handler D Y :=
  let logon : Fix.MDLogon :=
    { heartBtInt := ((env.pingFreq.tdiv 1000000000) % 65536).toNat
      rawData := ctx.rawData
      username := env.accountKey
      password := env.createPassword ctx.rawData
      cancelOnDisconnect := env.cancelOnDisconnect
      unsubscribeExecutionReports := true }
  seq (send ctx (.logon logon)) (set fun o => { o with lastLogonOrHeartbeat := ctx.now })

def sendLogout (text : String) : Handler D Y := send ctx (.logout text)

def sendHeartbeat (testReqId : String) : Handler D Y := send ctx (.heartbeat testReqId)

def sendTestRequest : Handler D Y :=
  seq (send ctx (.testRequest (env.toString ctx.now))) (set fun o =>
    if o.lastLogonOrHeartbeat = 0 then { o with lastLogonOrHeartbeat := ctx.now } else o)

/-- Send a request that has been given the next id. -/
def sendRequest (request : String → Fix.MDOutbound) : Handler D Y := fun (o, shared) =>
  send ctx (request shared.nextRequestId.2) (o, shared.nextRequestId.1)

def downloadSecurities : Handler D Y := sendRequest ctx .securityListRequest

/-! ## Subscriptions -/

/-- A handler for every `maxSize` symbols. There are at most as many rounds as symbols. -/
def eachBatch (maxSize : ℕ) (f : List String → Handler D Y) : ℕ → List String → Handler D Y
  | 0, _ => skip
  | rounds + 1, symbols =>
    if symbols.isEmpty then skip
    else seq (f (symbols.take maxSize)) (eachBatch maxSize f rounds (symbols.drop maxSize))

/-- The requests for `symbols`, each for as many as one request may have. -/
def sendMarketDataRequests (request : List String → String → Fix.MarketDataRequest)
    (symbols : List String) : Handler D Y :=
  let maxSize :=
    if env.marketDataRequestMaxSize ≠ 0 then env.marketDataRequestMaxSize else symbols.length
  eachBatch maxSize (fun noRelatedSym =>
    sendRequest ctx fun requestId => .marketDataRequest (request noRelatedSym requestId))
    symbols.length symbols

def subscription (noRelatedSym : List String) (mdReqId : String) : Fix.MarketDataRequest :=
  { mdReqId
    subscriptionRequestType := .snapshotUpdates
    marketDepth := env.marketDataMarketDepth
    mdUpdateType :=
      if env.marketDataMarketDepth ≠ 0 then .incrementalRefresh else .fullRefresh
    noMdEntryTypes := [.bid, .offer, .trade]
    noRelatedSym }

def unsubscription (noRelatedSym : List String) (mdReqId : String) : Fix.MarketDataRequest :=
  { mdReqId
    subscriptionRequestType := .unsubscribe
    marketDepth := 0
    mdUpdateType := .undefined
    noMdEntryTypes := [.bid, .offer, .trade]
    noRelatedSym }

/-- `subscribe(symbols)` -/
def subscribeSymbols (symbols : List String) : Handler D Y :=
  if symbols.isEmpty then skip else sendMarketDataRequests env ctx (subscription env) symbols

/-- `unsubscribe(symbols)` -/
def unsubscribeSymbols (symbols : List String) : Handler D Y :=
  sendMarketDataRequests env ctx unsubscription symbols

/-- A symbol that is latched already is not subscribed again. -/
def resubscribe (symbol : String) : Handler D Y := fun (o, shared) =>
  if symbol ∈ o.latch then skip (o, shared)
  else seq (set fun o => { o with latch := insert symbol o.latch })
    (seq (unsubscribeSymbols env ctx [symbol]) (subscribeSymbols env ctx [symbol])) (o, shared)

/-- `subscribe(start_from)` -/
def subscribe [Symbols Y] (startFrom : ℕ) : Handler D Y := fun (o, shared) =>
  if o.ready then
    subscribeSymbols env ctx (Symbols.getSlice shared.symbols o.index startFrom) (o, shared)
  else skip (o, shared)

/-! ## Timer and connection -/

def timer (now : ℤ) : Handler D Y := fun (o, shared) =>
  if ctx.refreshed then
    if o.lastLogonOrHeartbeat ≠ 0 ∧ env.requestTimeout ≠ 0 ∧
        env.requestTimeout < now - o.lastLogonOrHeartbeat then
      emit [.closed] (o, shared)
    else if o.connectionStatus = .ready then
      if o.testDisconnectTime ≠ 0 ∧ o.testDisconnectTime < now then
        emit (if env.testMarketDataDisconnect ≠ 0 then [.closed] else []) (o, shared)
      else if o.nextHeartbeat ≤ now then
        sendTestRequest env ctx ({ o with nextHeartbeat := now + env.pingFreq }, shared)
      else skip (o, shared)
    else skip (o, shared)
  else skip (o, shared)

def connected : Handler D Y := seq (sendLogon env ctx) (publish .loginSent "")

/-- Neither `last_logon_or_heartbeat_` nor `latch_` is cleared. -/
def disconnected [Download State D] : Handler D Y :=
  seq (set fun o => { o with outbound := 0, inbound := 0, ready_ := false, nextHeartbeat := 0 })
    (seq (publish .disconnected "") (set fun o =>
      { o with download := Download.reset o.download, testDisconnectTime := 0 }))

/-! ## Download -/

/-- What `MarketData::download` returns. -/
def downloadCount (master : Bool) : State → ℤ
  | .securities => if master then 1 else 0
  | .undefined => 0
  | .subscribe => 0
  | .done => 0

/-- What `MarketData::download` does. -/
def downloadState [Symbols Y] : State → Handler D Y
  | .undefined => skip
  | .securities => fun (o, shared) =>
    if o.master then
      seq (publish .downloading State.securities.name) (downloadSecurities ctx) (o, shared)
    else skip (o, shared)
  | .subscribe => seq (set fun o => { o with ready_ := true }) (subscribe env ctx 0)
  | .done =>
    seq (publish .ready "") (set fun o =>
      if env.testMarketDataDisconnect ≠ 0 then
        { o with testDisconnectTime := ctx.now + env.testMarketDataDisconnect }
      else o)

/-- `download_` has moved. -/
def advance [Symbols Y] (move : MarketData D → D × List State) : Handler D Y := fun (o, shared) =>
  each (downloadState env ctx) (move o).2 ({ o with download := (move o).1 }, shared)

/-! ## Session messages -/

/-- `none`: the test request id could not be parsed. -/
def heartbeat (testReqId : String) : MarketData D × SharedState Y →
    Option ((MarketData D × SharedState Y) × List Output) := fun (o, shared) =>
  let o := { o with lastLogonOrHeartbeat := 0 }
  if testReqId = "" then some ((o, shared), [])
  else (env.fromChars testReqId).map fun sendTime =>
    let latency := (ctx.now - (sendTime : ℤ).bmod 18446744073709551616).tdiv 2
    ((o, shared), [.externalLatency { streamId := o.streamId, account := "", latency }])

/-- `last_logon_or_heartbeat_` is not cleared. -/
def logon [Symbols Y] [Download State D] : Handler D Y :=
  advance env ctx fun o => Download.begin (downloadCount o.master) o.download

def logout : Handler D Y :=
  seq (publish .loggedOut "") (seq (set fun o => { o with ready_ := false })
    (seq (sendLogout ctx "LOGOUT") (emit [.closed])))

/-! ## Securities -/

/-- `protocol::fix::map_security_type` -/
def mapSecurityType (value : String) : SecurityType :=
  if value = "" then .undefined
  else if env.hash value = env.hash "FUT" then .futures
  else if env.hash value = env.hash "OPT" then .option
  else if env.hash value = env.hash "FXSPOT" then .spot
  else .undefined

/-- The date and the time of day, unless there is no date. -/
def combine (datePart timePart : ℤ) : ℤ :=
  if datePart < env.maxTime then datePart + timePart else env.maxTime

/-- What FIX knows about a security. `none`: the time could not be parsed. -/
def referenceData (streamId : UInt16) (item : Fix.Instrument) (discard : Bool) :
    Option ReferenceData :=
  (env.fromCharsTime item.maturityTime).map fun expiryTime =>
    { streamId
      exchange := env.exchange
      symbol := item.symbol
      description := item.securityDesc
      securityType := mapSecurityType env item.securityType
      marketSegment := item.underlyingSymbol
      baseCurrency := item.settlCurrency
      quoteCurrency := item.currency
      settlementCurrency := item.settlCurrency
      commissionCurrency := item.commCurrency
      tickSize := item.minPriceIncrement
      tickSizeSteps := []
      multiplier := item.contractMultiplier
      minTradeVol := item.minTradeVol
      tradeVolStepSize := item.minTradeVol
      optionType := env.optionTypeOf item.putOrCall
      strikeCurrency := item.strikeCurrency
      strikePrice := item.strikePrice
      underlying := item.underlyingSymbol
      issueDate := item.issueDate
      expiryDatetime := combine env item.maturityDate expiryTime
      expiryDatetimeUtc := combine env item.maturityDate expiryTime
      discard }

/-- The loop over a security list: the shared state, what is reported, and the new symbols.
    `none`: an exception, which ends the process. -/
def securities (streamId : UInt16) : ℕ → List Fix.Instrument → SharedState Y →
    Option (SharedState Y × List Output × List String)
  | _, [], shared => some (shared, [], [])
  | i, item :: items, shared =>
    (ctx.discardSymbol i).bind fun discard =>
    (if env.useFixReferenceData then
        (referenceData env streamId item discard).map fun value => [Output.referenceData value]
      else some []).bind fun report =>
    let shared := shared.setMultiplier item.symbol
      (SharedState.computeContractsMultiplier env.isZero item.contractMultiplier)
    -- only new symbols are announced
    let (shared, new) := if discard then (shared, []) else shared.emplaceSymbol item.symbol
    (securities streamId (i + 1) items shared).map fun (shared, reports, symbols) =>
      (shared, report ++ reports, new ++ symbols)

/-- What follows the loop: the download may go on. -/
def checkSecurities [Symbols Y] [Download State D] : Handler D Y :=
  advance env ctx fun o =>
    Download.checkRelaxed (downloadCount o.master) o.download .securities

/-- The controller hears of the new symbols before the download goes on. It has the streams
    subscribe to them, this one included. -/
def announce [Symbols Y] (symbols : List String) : Handler D Y :=
  if symbols.isEmpty then skip
  else fun (o, shared) =>
    let (shared, startFrom) := ctx.symbolsUpdate shared symbols
    seq (emit [.symbolsUpdate symbols]) (subscribe env ctx startFrom) (o, shared)

def securityList [Symbols Y] [Download State D] (noRelatedSym : List Fix.Instrument) :
    MarketData D × SharedState Y → Option ((MarketData D × SharedState Y) × List Output) :=
  fun (o, shared) =>
    (securities env ctx o.streamId 0 noRelatedSym shared).map fun (shared, reports, symbols) =>
      seq (emit reports) (seq (announce env ctx symbols) (checkSecurities env ctx)) (o, shared)

/-! ## Books -/

/-- `validate`: actions that are not supported end the process. -/
def validate (item : Fix.MDEntry) : Bool :=
  item.mdUpdateAction ≠ .deleteThru ∧ item.mdUpdateAction ≠ .deleteFrom ∧
    item.mdUpdateAction ≠ .overlay

def mbpUpdate (item : Fix.MDEntry) : MBPUpdate :=
  { price := item.mdEntryPx, quantity := item.mdEntrySize }

def trade (item : Fix.MDEntry) : Trade :=
  { side := env.sideOf item.side
    price := item.mdEntryPx
    quantity := item.mdEntrySize
    tradeId := item.deribitTradeId
    takerOrderId := item.orderId
    makerOrderId := item.secondaryOrderId }

/-- What the loop over the entries of a refresh has collected. -/
structure Entries where
  bids : List MBPUpdate
  asks : List MBPUpdate
  trades : List Trade
  statistics : List Statistics
  exchangeTimeUtc : ℤ
  deriving DecidableEq

/-- One entry of a refresh. -/
def Entries.add (e : Entries) (item : Fix.MDEntry) : Entries :=
  let e := { e with exchangeTimeUtc := max e.exchangeTimeUtc item.mdEntryDate }
  match item.mdEntryType with
  | .bid => { e with bids := e.bids ++ [mbpUpdate item] }
  | .offer => { e with asks := e.asks ++ [mbpUpdate item] }
  | .trade => { e with trades := e.trades ++ [trade env item] }
  | .indexValue => { e with statistics := e.statistics ++ [⟨.indexValue, item.mdEntryPx⟩] }
  | .settlementPrice =>
    { e with statistics := e.statistics ++ [⟨.settlementPrice, item.mdEntryPx⟩] }
  | .other => e

/-- The loop over the entries of a refresh. -/
def Entries.collect (e : Entries) (noMdEntries : List Fix.MDEntry) : Entries :=
  noMdEntries.foldl (Entries.add env) e

/-- An entry of the book. -/
def isBook (item : Fix.MDEntry) : Bool := item.mdEntryType = .bid ∨ item.mdEntryType = .offer

/-- All entries of the book can be used. -/
def valid (noMdEntries : List Fix.MDEntry) : Bool :=
  noMdEntries.all fun item => !isBook item || validate item

def Entries.hasBook (e : Entries) : Bool := !(e.bids.isEmpty && e.asks.isEmpty)

def marketByPriceUpdate (streamId : UInt16) (symbol : String) (e : Entries)
    (updateType : UpdateType) (header : Fix.Header) : MarketByPriceUpdate :=
  { streamId
    exchange := env.exchange
    symbol
    bids := e.bids
    asks := e.asks
    updateType
    exchangeTimeUtc := e.exchangeTimeUtc
    sendingTimeUtc := header.sendingTime }

def statisticsUpdate (streamId : UInt16) (symbol : String) (e : Entries)
    (updateType : UpdateType) (header : Fix.Header) : StatisticsUpdate :=
  { streamId
    exchange := env.exchange
    symbol
    statistics := e.statistics
    updateType
    exchangeTimeUtc := e.exchangeTimeUtc
    sendingTimeUtc := header.sendingTime }

def publishStatistics (symbol : String) (e : Entries) (updateType : UpdateType)
    (header : Fix.Header) : Handler D Y :=
  if e.statistics.isEmpty then skip
  else fun (o, shared) =>
    emit [.statisticsUpdate (statisticsUpdate env o.streamId symbol e updateType header)]
      (o, shared)

def publishTrades (symbol : String) (e : Entries) (header : Fix.Header) : Handler D Y :=
  if !e.trades.isEmpty && env.publishTradeSummary then fun (o, shared) =>
    emit [.tradeSummary
      { streamId := o.streamId
        exchange := env.exchange
        symbol
        trades := e.trades
        exchangeTimeUtc := e.exchangeTimeUtc
        sendingTimeUtc := header.sendingTime } e.statistics.isEmpty] (o, shared)
  else skip

/-- The book of an incremental refresh, unless the symbol is latched. A bad state has the
    symbol subscribed again. -/
def publishIncremental (symbol : String) (e : Entries) (header : Fix.Header) : Handler D Y :=
  fun (o, shared) =>
    if e.hasBook && env.publishMarketByPrice && symbol ∉ o.latch then
      seq (emit [.marketByPriceUpdate
          (marketByPriceUpdate env o.streamId symbol e .incremental header)
          (e.statistics.isEmpty && e.trades.isEmpty) ctx.marketByPrice])
        (if ctx.marketByPrice = .badState then resubscribe env ctx symbol else skip) (o, shared)
    else skip (o, shared)

/-- The dispatch of the book ends the process. -/
def failsIncremental (o : MarketData D) (symbol : String) (e : Entries) : Bool :=
  e.hasBook && env.publishMarketByPrice && symbol ∉ o.latch && ctx.marketByPrice = .failed

/-- What an incremental refresh collects: two statistics come with every one. -/
def incrementalEntries (value : Fix.MarketDataIncrementalRefresh) : Entries :=
  Entries.collect env
    { bids := [], asks := [], trades := []
      statistics := [⟨.preOpenInterest, value.openInterest⟩,
        ⟨.preSettlementPrice, value.markPrice⟩]
      exchangeTimeUtc := 0 } value.noMdEntries

/-- `none`: `log::fatal`, or an exception. -/
def marketDataIncrementalRefresh (header : Fix.Header)
    (value : Fix.MarketDataIncrementalRefresh) :
    MarketData D × SharedState Y → Option ((MarketData D × SharedState Y) × List Output) :=
  fun (o, shared) =>
    let e := incrementalEntries env value
    if !valid value.noMdEntries || failsIncremental env ctx o value.symbol e then none
    else some (seq (publishIncremental env ctx value.symbol e header)
      (seq (publishTrades env value.symbol e header)
        (publishStatistics env value.symbol e .incremental header)) (o, shared))

/-- What a full refresh collects; trades are dropped. -/
def snapshotEntries (value : Fix.MarketDataSnapshotFullRefresh) : Entries :=
  Entries.collect env
    { bids := [], asks := [], trades := [], statistics := [], exchangeTimeUtc := 0 }
    value.noMdEntries

def publishSnapshot (symbol : String) (e : Entries) (header : Fix.Header) : Handler D Y :=
  fun (o, shared) =>
    if e.hasBook && env.publishMarketByPrice then
      emit [.marketByPriceUpdate
        (marketByPriceUpdate env o.streamId symbol e .snapshot header)
        e.statistics.isEmpty ctx.marketByPrice] (o, shared)
    else skip (o, shared)

/-- The dispatch of the book ends the process: there is no recovery from a bad snapshot. -/
def failsSnapshot (e : Entries) : Bool :=
  e.hasBook && env.publishMarketByPrice && ctx.marketByPrice ≠ .returned

/-- The symbol is unlatched before the entries are looked at. `none`: `log::fatal`, or an
    exception. -/
def marketDataSnapshotFullRefresh (header : Fix.Header)
    (value : Fix.MarketDataSnapshotFullRefresh) :
    MarketData D × SharedState Y → Option ((MarketData D × SharedState Y) × List Output) :=
  fun (o, shared) =>
    let e := snapshotEntries env value
    if !valid value.noMdEntries || failsSnapshot env ctx e then none
    else some (seq (set fun o => { o with latch := o.latch.erase value.symbol })
      (seq (publishSnapshot env ctx value.symbol e header)
        (publishStatistics env value.symbol e .snapshot header)) (o, shared))

/-! ## Steps -/

/-- A gap or a replay is only logged. -/
def check (header : Fix.Header) (o : MarketData D) : MarketData D :=
  { o with inbound := header.msgSeqNum }

variable [Symbols Y] [Download State D]

/-- `parse_helper`. `none`: the process has ended. -/
def parseHelper (header : Fix.Header) (value : Fix.MDInbound)
    (s : MarketData D × SharedState Y) :
    Option ((MarketData D × SharedState Y) × List Output) :=
  match value with
  | .heartbeat testReqId => heartbeat env ctx testReqId s
  | .logon => some (logon env ctx s)
  | .logout => some (logout ctx s)
  | .resendRequest => some (emit [.closed] s)
  | .testRequest testReqId => some (sendHeartbeat ctx testReqId s)
  | .reject => some (skip s)
  | .securityList noRelatedSym => securityList env ctx noRelatedSym s
  | .securityStatus => some (skip s)
  | .marketDataIncrementalRefresh value => marketDataIncrementalRefresh env ctx header value s
  | .marketDataRequestReject =>
    if env.terminateOnMarketDataRequestReject then none else some (skip s)
  | .marketDataSnapshotFullRefresh value => marketDataSnapshotFullRefresh env ctx header value s
  | .marketDataRequest => some (skip s)
  | .other _ => some (skip s)

/-- One call of the stream by the process. `none`: the process has ended. -/
def call (event : Event) (s : MarketData D × SharedState Y) :
    Option ((MarketData D × SharedState Y) × List Output) :=
  match event with
  | .timer now => some (timer env ctx now s)
  | .subscribe startFrom => some (subscribe env ctx startFrom s)
  | .connected => some (connected env ctx s)
  | .disconnected => some (disconnected s)
  | .message header value => parseHelper env ctx header value (check header s.1, s.2)

/-- The stream by itself: the other streams can have changed the shared state meanwhile. -/
def step (env : Env) : Transducer.Step (MarketData D) (Context Y × Event) Output :=
  fun o (ctx, event) =>
    match call env ctx event (o, ctx.shared) with
    | some r => (some r.1.1, r.2)
    | none => (none, [])

/-- The process ends without another output, or the call returns. -/
theorem step_cases (env : Env) (o : MarketData D) (ctx : Context Y) (event : Event) :
    step env o (ctx, event) = (none, []) ∨
    ∃ r, call env ctx event (o, ctx.shared) = some r ∧
      step env o (ctx, event) = (some r.1.1, r.2) := by
  simp only [step]
  cases call env ctx event (o, ctx.shared) with
  | none => exact .inl rfl
  | some r => exact .inr ⟨r, rfl, rfl⟩

/-! ## A session -/

/-- The default settings, without tests. -/
def Env.plain : Env where
  exchange := "deribit"
  accountKey := "key"
  hasMulticast := false
  disableMarketByPrice := false
  disableTradeSummary := false
  useFixReferenceData := true
  cancelOnDisconnect := true
  terminateOnMarketDataRequestReject := false
  requestTimeout := 5000000000
  pingFreq := 30000000000
  testMarketDataDisconnect := 0
  marketDataMarketDepth := 0
  marketDataRequestMaxSize := 0
  createPassword := id
  isZero x := x = some 0
  hash value := value.toUTF8.data.foldl
    (fun key byte => (key ^^^ byte.toUInt64) * 1099511628211) 14695981039346656037
  toString := Int.repr
  fromChars := String.toNat?
  fromCharsTime _ := some 0
  maxTime := 9223372036854775807
  sideOf
    | .buy => .buy
    | .sell => .sell
    | _ => .undefined
  optionTypeOf
    | .call => .call
    | .put => .put
    | .undefined => .undefined

/-- A connection that takes every message. -/
def Context.plain : Context SymbolTable where
  now := 1
  refreshed := true
  queued _ := true
  rawData := ""
  shared := SharedState.initial ⟨9, []⟩
  symbolsUpdate shared symbols :=
    ({ shared with symbols := (Symbols.append shared.symbols symbols).1 },
      (Symbols.append shared.symbols symbols).2.2)
  discardSymbol _ := some false
  marketByPrice := .returned

/-- The only stream, which is the master. -/
abbrev plain : MarketData (Counter State) := initial 1 0 true

/-- Log on, and download no securities. -/
def openSession : List Event :=
  [.connected, .message ⟨1, 1⟩ .logon, .message ⟨2, 1⟩ (.securityList [])]

end MarketData

end DeribitGateway
