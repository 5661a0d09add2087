import DeribitGateway.Json.Message
import DeribitGateway.Lib.Emission
import DeribitGateway.Lib.StagedDownload
import DeribitGateway.Lib.Transducer
import DeribitGateway.Shared

/-!
# The web socket stream

`WebSocket` is the session that subscribes to the public channels of one slice of symbols. The
master has the list of currencies and the list of instruments downloaded first: it asks for
them, the REST client carries the requests out, and the timer looks whether a response is
there. When its own download is done, a stream of either kind tells the controller (`Latch`).

Requests go through a queue that a rate limiter empties. How many it lets through is a
parameter, as is what comes from the account, in `Context`.
-/

namespace DeribitGateway

namespace WebSocket

open StagedDownload Emission

/-- `WebSocket::State` -/
inductive State
  | undefined
  | currencies
  | instruments
  | subscribe
  | done
  deriving DecidableEq, Repr

/-- `magic_enum::enum_name` -/
def State.name : State → String
  | undefined => "UNDEFINED"
  | currencies => "CURRENCIES"
  | instruments => "INSTRUMENTS"
  | subscribe => "SUBSCRIBE"
  | done => "DONE"

instance : Stages State where
  undefined := .undefined
  before := [.currencies, .instruments, .subscribe]
  done := .done

end WebSocket

structure WebSocket (W : Type) where
  streamId : UInt16
  index : ℕ
  master : Bool
  topOfBook : String → Option (WebSocket.Layer × Double)
  tradingStatus : String → TradingStatus
  ready_ : Bool
  connectionStatus : ConnectionStatus
  download : W
  subscribeQueue : List Json.Request

namespace WebSocket

open StagedDownload Emission

structure Env where
  exchange : String
  accountKey : String
  hasMulticast : Bool
  disableTopOfBook : Bool
  disableQuote : Bool
  tickerInterval : String
  timeSeriesLookback : ℤ
  /-- `roq::Layer{}` -/
  emptyLayer : Layer
  /-- `utils::is_equal` -/
  isEqual : Layer → Layer → Bool

/-- `publish_top_of_book` -/
def Env.publishTopOfBook (env : Env) : Bool := !env.hasMulticast || env.disableTopOfBook

structure Context where
  /-- `Client::refresh` -/
  refreshed : Bool
  /-- `Queue::dispatch` of the requests. -/
  dispatch : Dispatch Json.Request
  /-- `Account::create_nonce` -/
  nonce : String
  /-- `Account::create_signature` -/
  signature : String
  timestamp : ℤ

inductive Event
  | timer
  | subscribe (startFrom : ℕ)
  | connected
  | disconnected
  | ready
  | close
  | latency (sample : ℤ)
  | message (value : Json.Message)
  | binary

inductive Output
  /-- A request is put into the queue. -/
  | queued (request : Json.Request)
  | sentText (request : Json.Request)
  | streamStatus (value : StreamStatus)
  | externalLatency (value : ExternalLatency)
  | latch
  | marketSegmentStatus (value : MarketSegmentStatus)
  | topOfBook (value : TopOfBook)
  | marketStatus (value : MarketStatus)
  deriving DecidableEq

/-- The stream, and what it shares. -/
structure Scope (W Y R : Type) where
  stream : WebSocket W
  shared : SharedState Y
  requests : Requests R

variable {W Y R : Type}

abbrev Handler (W Y R : Type) := Emission.Handler (Scope W Y R) Output

/-- `WebSocket::ready` -/
def ready (o : WebSocket W) : Bool := o.ready_

def initial [Download State W] (streamId : UInt16) (index : ℕ) (master : Bool) : WebSocket W :=
  { streamId
    index
    master
    topOfBook := fun _ => none
    tradingStatus := fun _ => .undefined
    ready_ := false
    connectionStatus := .undefined
    download := Download.fresh
    subscribeQueue := [] }

/-- Change the stream. -/
def set (f : WebSocket W → WebSocket W) : Handler W Y R :=
  modify fun s => { s with stream := f s.stream }

/-- `subscribe_queue_.emplace_back` -/
def enqueue (request : Json.Request) : Handler W Y R :=
  seq (set fun o => { o with subscribeQueue := o.subscribeQueue ++ [request] })
    (emit [.queued request])

/-- `operator()(Trace<ConnectionStatus>)` -/
def publish (connectionStatus : ConnectionStatus) (reason : String) : Handler W Y R := fun s =>
  ({ s with stream := { s.stream with connectionStatus } },
    [.streamStatus { streamId := s.stream.streamId, account := "", connectionStatus, reason }])

variable (env : Env) (ctx : Context)

def login : Handler W Y R :=
  emit [.sentText (.auth env.accountKey ctx.timestamp ctx.nonce ctx.signature)]

/-! ## Subscriptions -/

def subscribePlatformState : Handler W Y R :=
  enqueue (.publicSubscribe ["platform_state"] .subscribePlatformState)

def subscribeInstrumentState : Handler W Y R :=
  enqueue (.publicSubscribe ["instrument.state.any.any"] .subscribeInstrumentState)

def subscribeQuote (symbols : List String) : Handler W Y R :=
  enqueue (.publicSubscribe (Json.joined "quote." "" symbols) .subscribeQuote)

def subscribeTicker (symbols : List String) : Handler W Y R :=
  enqueue (.publicSubscribe (Json.joined "ticker." ("." ++ env.tickerInterval) symbols)
    .subscribeTicker)

def subscribeChartTrades (symbols : List String) : Handler W Y R :=
  seq (enqueue (.publicSubscribe (Json.joined "chart.trades." ".1" symbols)
      .subscribeChartTrades))
    (modify fun s => { s with shared :=
      { s.shared with timeSeriesRequestQueue := s.shared.timeSeriesRequestQueue ++ symbols } })

/-- `subscribe(symbols)` -/
def subscribeSymbols (symbols : List String) : Handler W Y R :=
  if symbols.isEmpty then skip
  else seq (if env.disableQuote then skip else subscribeQuote symbols)
    (seq (subscribeTicker env symbols)
      (if env.timeSeriesLookback ≠ 0 then subscribeChartTrades symbols else skip))

/-- `subscribe(start_from)` -/
def subscribe [Symbols Y] (startFrom : ℕ) : Handler W Y R := fun s =>
  if s.stream.ready then
    subscribeSymbols env (Symbols.getSlice s.shared.symbols s.stream.index startFrom) s
  else skip s

/-! ## Download -/

/-- What `WebSocket::download` returns. -/
def downloadCount (master : Bool) : State → ℤ
  | .currencies => if master then 1 else 0
  | .instruments => if master then 1 else 0
  | .undefined => 0
  | .subscribe => 0
  | .done => 0

section

variable [LimitRequest R]

def downloadCurrencies : Handler W Y R := modify fun s =>
  { s with requests :=
    { s.requests with currencies := LimitRequest.request s.requests.currencies } }

def downloadInstruments : Handler W Y R := modify fun s =>
  { s with requests :=
    { s.requests with instruments := LimitRequest.request s.requests.instruments } }

/-- What `WebSocket::download` does. -/
def downloadState [Symbols Y] : State → Handler W Y R
  | .undefined => skip
  | .currencies => fun s =>
    if s.stream.master then
      seq (publish .downloading State.currencies.name) downloadCurrencies s
    else skip s
  | .instruments => fun s =>
    if s.stream.master then
      seq (publish .downloading State.instruments.name) downloadInstruments s
    else skip s
  | .subscribe =>
    seq (set fun o => { o with ready_ := true })
      (seq (publish .downloading State.subscribe.name)
        (seq (fun s =>
            if s.stream.master then seq subscribePlatformState subscribeInstrumentState s
            else skip s)
          (subscribe env 0)))
  -- every stream latches, master or not
  | .done => seq (emit [.latch]) (publish .ready "")

/-- `download_` has moved. -/
def advance [Symbols Y] (move : WebSocket W → W × List State) : Handler W Y R := fun s =>
  each (downloadState env) (move s.stream).2
    { s with stream := { s.stream with download := (move s.stream).1 } }

variable [Symbols Y] [Download State W]

def checkCurrencies : Handler W Y R := fun s =>
  if Download.state s.stream.download = .currencies ∧
      LimitRequest.hasResponse s.requests.currencies then
    advance env (fun o => Download.check (downloadCount o.master) o.download .currencies) s
  else skip s

def checkInstruments : Handler W Y R := fun s =>
  if Download.state s.stream.download = .instruments ∧
      LimitRequest.hasResponse s.requests.instruments then
    advance env (fun o => Download.check (downloadCount o.master) o.download .instruments) s
  else skip s

end

/-! ## Timer and connection -/

/-- `check_subscribe_queue`: what the rate limiter lets through is sent. -/
def checkSubscribeQueue : Handler W Y R := fun s =>
  ({ s with stream :=
      { s.stream with subscribeQueue := ctx.dispatch.kept s.stream.subscribeQueue } },
    (ctx.dispatch.handed s.stream.subscribeQueue).map .sentText)

def timer [Symbols Y] [LimitRequest R] [Download State W] : Handler W Y R :=
  if ctx.refreshed then
    seq (fun s => if s.stream.ready then checkSubscribeQueue ctx s else skip s)
      (seq (checkCurrencies env) (checkInstruments env))
  else skip

def disconnected [Download State W] : Handler W Y R :=
  seq (set fun o => { o with ready_ := false })
    (seq (publish .disconnected "") (set fun o =>
      { o with download := Download.reset o.download, subscribeQueue := [] }))

/-- `operator()(Trace<web::socket::Ready>)` -/
def upgraded : Handler W Y R := seq (login env ctx) (publish .loginSent "")

def latency (sample : ℤ) : Handler W Y R := fun s =>
  emit [.externalLatency { streamId := s.stream.streamId, account := "", latency := sample }] s

/-! ## Messages -/

/-- The error of the response is not looked at. -/
def auth [Symbols Y] [LimitRequest R] [Download State W] : Handler W Y R :=
  advance env fun o => Download.begin (downloadCount o.master) o.download

/-- `get_top_of_book`: the multiplier is cached with the layer. -/
def getTopOfBook (s : Scope W Y R) (symbol : String) : Option (Layer × Double) :=
  match s.stream.topOfBook symbol with
  | some entry => some entry
  | none => (s.shared.multiplier symbol).map fun multiplier => (env.emptyLayer, multiplier)

def quote (value : Json.Quote) : Handler W Y R := fun s =>
  if env.publishTopOfBook then
    match getTopOfBook env s value.instrumentName with
    | none => skip s
    | some (layer, multiplier) =>
      let layer' : Layer :=
        { bidPrice := value.bestBidPrice
          bidQuantity := Double.mul multiplier value.bestBidAmount
          askPrice := value.bestAskPrice
          askQuantity := Double.mul multiplier value.bestAskAmount }
      let entry := if env.isEqual layer layer' then layer else layer'
      seq (set fun o => { o with
          topOfBook :=
            Function.update o.topOfBook value.instrumentName (some (entry, multiplier)) })
        (emit (if env.isEqual layer layer' then []
          else [.topOfBook
            { streamId := s.stream.streamId
              exchange := env.exchange
              symbol := value.instrumentName
              layer := layer'
              updateType := .snapshot
              exchangeTimeUtc := value.timestamp }])) s
  else skip s

def ticker (value : Json.Ticker) : Handler W Y R := fun s =>
  let tradingStatus := value.state.tradingStatus
  if tradingStatus ≠ .undefined ∧ s.stream.tradingStatus value.instrumentName ≠ tradingStatus then
    seq (set fun o => { o with
        tradingStatus := Function.update o.tradingStatus value.instrumentName tradingStatus })
      (emit [.marketStatus
        { streamId := s.stream.streamId
          exchange := env.exchange
          symbol := value.instrumentName
          tradingStatus }]) s
  else skip s

/-! ## Steps -/

variable [Symbols Y] [LimitRequest R] [Download State W]

/-- The handlers of the parser. `none`: `log::fatal`. -/
def parse (value : Json.Message) (s : Scope W Y R) : Option (Scope W Y R × List Output) :=
  match value with
  | .auth _ => some (auth env s)
  | .subscribeAck _ => some (skip s)
  -- these channels are the master's
  | .platformState value =>
    if s.stream.master then
      some (emit [.marketSegmentStatus
        (value.marketSegmentStatus s.stream.streamId env.exchange)] s)
    else none
  | .instrumentState => if s.stream.master then some (skip s) else none
  | .quote value => some (quote env value s)
  | .ticker value => some (ticker env value s)
  | .chartTrades _ _ => some (skip s)
  | .userPortfolio _ => none
  | .userChanges _ => none
  | .userOrders => none
  | .userTrades _ => none
  | .getAccountSummaryAck => none
  | .getUserTradesByCurrencyAck _ => none

/-- One call of the stream by the process. `none`: the process has ended. -/
def call (event : Event) (s : Scope W Y R) : Option (Scope W Y R × List Output) :=
  match event with
  | .timer => some (timer env ctx s)
  | .subscribe startFrom => some (subscribe env startFrom s)
  | .connected => some (skip s)
  | .disconnected => some (disconnected s)
  | .ready => some (upgraded env ctx s)
  | .close => some (skip s)
  | .latency sample => some (latency sample s)
  | .message value => parse env value s
  | .binary => none

/-- A call, and what the stream finds shared then. -/
structure Input (Y R : Type) where
  ctx : Context
  shared : SharedState Y
  requests : Requests R
  event : Event

/-- The stream by itself. -/
def step (env : Env) : Transducer.Step (WebSocket W) (Input Y R) Output := fun o i =>
  match call env i.ctx i.event ⟨o, i.shared, i.requests⟩ with
  | some r => (some r.1.stream, r.2)
  | none => (none, [])

/-- The process ends without another output, or the call returns. -/
theorem step_cases (env : Env) (o : WebSocket W) (i : Input Y R) :
    step env o i = (none, []) ∨
    ∃ r, call env i.ctx i.event ⟨o, i.shared, i.requests⟩ = some r ∧
      step env o i = (some r.1.stream, r.2) := by
  simp only [step]
  cases call env i.ctx i.event ⟨o, i.shared, i.requests⟩ with
  | none => exact .inl rfl
  | some r => exact .inr ⟨r, rfl, rfl⟩

/-! ## A session -/

/-- The default settings. -/
def Env.plain : Env where
  exchange := "deribit"
  accountKey := "key"
  hasMulticast := false
  disableTopOfBook := false
  disableQuote := false
  tickerInterval := "100ms"
  timeSeriesLookback := 0
  emptyLayer := ⟨none, none, none, none⟩
  isEqual layer layer' := layer = layer'

/-- A rate limiter that lets ten requests through. -/
def Context.plain : Context where
  refreshed := true
  dispatch := .upTo 10
  nonce := "nonce"
  signature := "signature"
  timestamp := 1

/-- A call that finds two symbols, each in a slice of its own. -/
def Input.plain (event : Event) : Input SymbolTable RequestProgress where
  ctx := .plain
  shared := .initial ⟨0, ["BTC-PERPETUAL", "ETH-PERPETUAL"]⟩
  requests := ⟨.idle, .idle⟩
  event

/-- The stream of the second slice, which is not the master. -/
abbrev plain : WebSocket (Counter State) := initial 4 1 false

end WebSocket

end DeribitGateway
