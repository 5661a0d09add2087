import DeribitGateway.Json.Message
import DeribitGateway.Lib.Emission
import DeribitGateway.Shared

/-!
# The REST client

`Rest` downloads the currencies and the instruments, when the master of the web socket streams
has asked for them, and the history of symbols that have been subscribed to. It tells the
controller which currencies and symbols are new.

A response is dealt with whatever it is: an error, and an exception of a handler, is logged
(`processResponse`), and the request is committed all the same.
-/

namespace DeribitGateway

structure Rest where
  streamId : UInt16
  connectionStatus : ConnectionStatus
  deriving DecidableEq

namespace Rest

open Emission

/-! ## Requests and responses -/

/-- The requests, and what varies of them. -/
inductive Request
  | getCurrencies
  | getInstruments
  | getChartData (symbol : String)
  deriving DecidableEq

/-- The body of a response that has been decoded. -/
structure Ack (α : Type) where
  errorCode : ℤ
  result : α
  deriving DecidableEq

/-- `web::http::Category`, or `Response::result` throws; decoding a body may throw, too. -/
inductive Response (α : Type)
  | unknown
  | informationalResponse
  | success (body : Option (Ack α))
  | redirection
  | clientError
  | serverError
  | failed
  deriving DecidableEq

structure ChartData where
  ticks : List ℤ
  open_ : List Double
  high : List Double
  low : List Double
  close : List Double
  volume : List Double
  deriving DecidableEq

/-! ## Reports -/

structure Bar where
  beginTimeUtc : ℤ
  confirmed : Bool
  openPrice : Double
  highPrice : Double
  lowPrice : Double
  closePrice : Double
  quantity : Double
  deriving DecidableEq

structure TimeSeriesUpdate where
  streamId : UInt16
  exchange : String
  symbol : String
  interval : ℤ
  bars : List Bar
  updateType : UpdateType
  deriving DecidableEq

/-! ## The client -/

structure Env where
  exchange : String
  useFixReferenceData : Bool
  timeSeriesInterval : ℤ
  /-- `utils::is_zero` -/
  isZero : Double → Bool
  /-- `utils::safe_cast` of milliseconds to a date. -/
  safeCastDate : ℤ → ℤ
  /-- `utils::safe_cast` of milliseconds to a time. -/
  safeCastTime : ℤ → ℤ

structure Context where
  /-- `Client::refresh` -/
  refreshed : Bool
  /-- `RateLimiter::can_request`, for the two downloads. -/
  canRequestCurrencies : Bool
  canRequestInstruments : Bool
  /-- `Queue::dispatch` of the symbols whose history is to be asked for. -/
  dispatch : Dispatch String
  /-- `discard_symbol` for the instruments of a list, which may throw. -/
  discardSymbol : ℕ → Option Bool
  /-- The dispatch of the reference data of an instrument returns: it may throw. -/
  dispatched : ℕ → Bool

inductive Event
  | timer
  | connected
  | disconnected
  | latency (sample : ℤ)
  | getCurrenciesAck (response : Response (List String))
  | getInstrumentsAck (response : Response (List Json.Instrument))
  | getChartDataAck (symbol : String) (response : Response ChartData)
  deriving DecidableEq

inductive Output
  | requested (request : Request)
  | streamStatus (value : StreamStatus)
  | externalLatency (value : ExternalLatency)
  | currenciesUpdate (currencies : List String)
  | referenceData (value : ReferenceData)
  | symbolsUpdate (symbols : List String)
  | timeSeriesUpdate (value : TimeSeriesUpdate)
  deriving DecidableEq

/-- The client, and what it shares. -/
structure Scope (Y R : Type) where
  stream : Rest
  shared : SharedState Y
  requests : Requests R

variable {Y R α : Type}

abbrev Handler (Y R : Type) := Emission.Handler (Scope Y R) Output

/-- `Rest::ready` -/
def ready (o : Rest) : Bool := o.connectionStatus = .ready

def initial (streamId : UInt16) : Rest := { streamId, connectionStatus := .undefined }

/-- `operator()(Trace<ConnectionStatus>)` -/
def publish (connectionStatus : ConnectionStatus) (reason : String) : Handler Y R := fun s =>
  ({ s with stream := { s.stream with connectionStatus } },
    [.streamStatus { streamId := s.stream.streamId, account := "", connectionStatus, reason }])

variable (env : Env) (ctx : Context)

/-! ## Timer and connection -/

section

variable [LimitRequest R]

def checkCurrencies : Handler Y R := fun s =>
  let r := LimitRequest.checkPending s.requests.currencies s.requests.ready
    ctx.canRequestCurrencies
  ({ s with requests := { s.requests with currencies := r.1 } },
    if r.2 then [.requested .getCurrencies] else [])

def checkInstruments : Handler Y R := fun s =>
  let r := LimitRequest.checkPending s.requests.instruments s.requests.ready
    ctx.canRequestInstruments
  ({ s with requests := { s.requests with instruments := r.1 } },
    if r.2 then [.requested .getInstruments] else [])

/-- `check_download` -/
def checkDownload : Handler Y R := seq (checkCurrencies ctx) (checkInstruments ctx)

/-- `check_request_queue`: the history of what the rate limiter lets through is asked for. -/
def checkRequestQueue : Handler Y R := fun s =>
  ({ s with shared := { s.shared with
      timeSeriesRequestQueue := ctx.dispatch.kept s.shared.timeSeriesRequestQueue } },
    (ctx.dispatch.handed s.shared.timeSeriesRequestQueue).map fun symbol =>
      .requested (.getChartData symbol))

def timer : Handler Y R := fun s =>
  if ctx.refreshed ∧ s.stream.ready then
    seq (checkDownload ctx) (fun s => if s.stream.ready then checkRequestQueue ctx s else skip s) s
  else skip s

def connected : Handler Y R := seq (publish .ready "") (checkDownload ctx)

end

def disconnected : Handler Y R := publish .disconnected ""

def latency (sample : ℤ) : Handler Y R := fun s =>
  emit [.externalLatency { streamId := s.stream.streamId, account := "", latency := sample }] s

/-! ## Responses -/

/-- `process_response`. `none`: `log::fatal`. -/
def processResponse (handle : α → Scope Y R → Option (Scope Y R × List Output))
    (response : Response α) (s : Scope Y R) : Option (Scope Y R × List Output) :=
  match response with
  | .unknown => some (skip s)
  | .informationalResponse => some (skip s)
  | .success none => some (skip s)
  | .success (some ack) => if ack.errorCode = 0 then handle ack.result s else some (skip s)
  | .redirection => none
  | .clientError => some (skip s)
  | .serverError => some (skip s)
  | .failed => some (skip s)

/-- The currencies that are new, which are known then. -/
def newCurrencies : List String → SharedState Y → SharedState Y × List String
  | [], shared => (shared, [])
  | currency :: currencies, shared =>
    let r := newCurrencies currencies
      { shared with allCurrencies := insert currency shared.allCurrencies }
    (r.1, if currency ∈ shared.allCurrencies then r.2 else currency :: r.2)

/-- `operator()(Trace<GetCurrenciesAck>)` -/
def getCurrenciesAck (result : List String) : Handler Y R := fun s =>
  let r := newCurrencies result s.shared
  ({ s with shared := r.1 }, if r.2.isEmpty then [] else [.currenciesUpdate r.2])

/-- `to_security_type` -/
def toSecurityType (kind : Json.Kind) (settlementPeriod : Json.SettlementPeriod) : SecurityType :=
  match kind with
  | .undefined => .undefined
  | .future =>
    match settlementPeriod with
    | .undefined => .futures
    | .perpetual => .swap
    | .day => .futures
    | .week => .futures
    | .month => .futures
    | .hour => .futures
  | .option => .option
  | .futureCombo => .futures
  | .optionCombo => .option
  | .spot => .spot

/-- `to_option_type` -/
def toOptionType : Json.OptionType → OptionType
  | .undefined => .undefined
  | .call => .call
  | .put => .put

/-- The amounts of an instrument in contracts, unless contracts have no size. -/
def inContracts (amount contractSize : Double) : Double :=
  if contractSize = some 0 then none else Double.div amount contractSize

def referenceData (streamId : UInt16) (item : Json.Instrument) (discard : Bool) :
    ReferenceData :=
  { streamId
    exchange := env.exchange
    symbol := item.instrumentName
    description := ""
    securityType := toSecurityType item.kind item.settlementPeriod
    marketSegment := item.priceIndex
    baseCurrency := item.baseCurrency
    quoteCurrency := item.quoteCurrency
    settlementCurrency := item.settlementCurrency
    commissionCurrency := ""
    tickSize := item.tickSize
    tickSizeSteps := item.tickSizeSteps.map fun step => ⟨step.abovePrice, step.tickSize⟩
    multiplier := item.contractSize
    minTradeVol := inContracts item.minTradeAmount item.contractSize
    tradeVolStepSize := inContracts item.minTradeAmount item.contractSize
    optionType := toOptionType item.optionType
    strikeCurrency := ""
    strikePrice := item.strike
    underlying := item.priceIndex
    issueDate := env.safeCastDate item.creationTimestamp
    expiryDatetime := 0
    expiryDatetimeUtc := env.safeCastTime item.expirationTimestamp
    discard }

/-- Reference data comes from one of the two protocols. -/
def report (streamId : UInt16) (item : Json.Instrument) (discard : Bool) : List Output :=
  if env.useFixReferenceData then [] else [.referenceData (referenceData env streamId item discard)]

/-- The loop over the instruments: the shared state, what is reported, and the new symbols,
    unless an item has thrown. -/
def instruments (streamId : UInt16) : ℕ → List Json.Instrument → SharedState Y →
    SharedState Y × List Output × Option (List String)
  | _, [], shared => (shared, [], some [])
  | i, item :: items, shared =>
    match ctx.discardSymbol i with
    -- what has been emplaced before stays so
    | none => (shared, [], none)
    | some discard =>
      if env.useFixReferenceData || ctx.dispatched i then
        let shared := shared.setMultiplier item.instrumentName
          (SharedState.computeContractsMultiplier env.isZero item.contractSize)
        let (shared, new) :=
          if discard then (shared, []) else shared.emplaceSymbol item.instrumentName
        let (shared, reports, symbols) := instruments streamId (i + 1) items shared
        (shared, report env streamId item discard ++ reports, symbols.map (new ++ ·))
      else (shared, [], none)

/-- `operator()(Trace<GetInstrumentsAck>)`: when an item throws, the symbols that were found
    new before are not announced. -/
def getInstrumentsAck (result : List Json.Instrument) : Handler Y R := fun s =>
  let (shared, reports, symbols) := instruments env ctx s.stream.streamId 0 result s.shared
  ({ s with shared }, reports ++ match symbols with
    | none => []
    | some [] => []
    | some symbols => [.symbolsUpdate symbols])

/-- A bar for each tick. `none`: an array is shorter, and its end is read over. -/
def ChartData.bars (value : ChartData) : Option (List Bar) :=
  value.ticks.zipIdx.mapM fun (tick, i) => do
    return {
      beginTimeUtc := env.safeCastTime tick
      confirmed := true
      openPrice := ← value.open_[i]?
      highPrice := ← value.high[i]?
      lowPrice := ← value.low[i]?
      closePrice := ← value.close[i]?
      quantity := ← value.volume[i]? }

/-- `operator()(Trace<GetChartDataAck>)` -/
def getChartDataAck (symbol : String) (result : ChartData) (s : Scope Y R) :
    Option (Scope Y R × List Output) :=
  (result.bars env).map fun bars =>
    emit [.timeSeriesUpdate
      { streamId := s.stream.streamId
        exchange := env.exchange
        symbol
        interval := env.timeSeriesInterval
        bars
        updateType := .snapshot }] s

/-! ## Calls -/

section

variable [LimitRequest R]

/-- `request_.currencies.commit` -/
def commitCurrencies : Handler Y R := modify fun s =>
  { s with requests := { s.requests with
      currencies := LimitRequest.commit s.requests.currencies } }

/-- `request_.instruments.commit` -/
def commitInstruments : Handler Y R := modify fun s =>
  { s with requests := { s.requests with
      instruments := LimitRequest.commit s.requests.instruments } }

end

/-- A handler behind one that may end the process. -/
def andThen (r : Option (Scope Y R × List Output)) (f : Handler Y R) :
    Option (Scope Y R × List Output) :=
  r.map fun (s, os) => ((f s).1, os ++ (f s).2)

variable [LimitRequest R]

/-- One call of the client by the process. `none`: the process has ended. -/
def call (event : Event) (s : Scope Y R) : Option (Scope Y R × List Output) :=
  match event with
  | .timer => some (timer ctx s)
  | .connected => some (connected ctx s)
  | .disconnected => some (disconnected s)
  | .latency sample => some (latency sample s)
  | .getCurrenciesAck response =>
    -- committed whatever the response is
    andThen (processResponse (fun result s => some (getCurrenciesAck result s)) response s)
      commitCurrencies
  | .getInstrumentsAck response =>
    andThen
      (processResponse (fun result s => some (getInstrumentsAck env ctx result s)) response s)
      commitInstruments
  | .getChartDataAck symbol response => processResponse (getChartDataAck env symbol) response s

/-- The default settings, with the instruments of the REST client. -/
def Env.plain : Env where
  exchange := "deribit"
  useFixReferenceData := false
  timeSeriesInterval := 60
  isZero x := x = some 0
  safeCastDate time := time.tdiv 86400000
  safeCastTime time := time.tdiv 1000

/-- A perpetual future. -/
def perpetual (instrumentName : String) : Json.Instrument where
  instrumentName
  instrumentId := 1
  kind := .future
  settlementPeriod := .perpetual
  optionType := .undefined
  contractSize := some 10
  minTradeAmount := some 10
  tickSize := some (1 / 2)
  tickSizeSteps := []
  strike := none
  priceIndex := "btc_usd"
  baseCurrency := "BTC"
  quoteCurrency := "USD"
  settlementCurrency := "BTC"
  creationTimestamp := 0
  expirationTimestamp := 0

/-- Nothing throws. -/
def Context.plain : Context where
  refreshed := true
  canRequestCurrencies := true
  canRequestInstruments := true
  dispatch := .upTo 10
  discardSymbol _ := some false
  dispatched _ := true

end Rest

end DeribitGateway
