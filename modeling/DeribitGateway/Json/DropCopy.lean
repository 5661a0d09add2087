import DeribitGateway.Json.Message
import DeribitGateway.Lib.Emission
import DeribitGateway.Lib.StagedDownload
import DeribitGateway.Lib.Transducer
import DeribitGateway.Shared

/-!
# The drop copy stream

`DropCopy` is the web socket session of one account. It subscribes to the private channels,
and asks for what the account has in each currency: for the currencies that are known when the
session opens, for those that the gateway comes to know later, and for none of them before the
gateway says so (`Latch`).
-/

namespace DeribitGateway

namespace DropCopy

open StagedDownload Emission

/-- `DropCopy::State` -/
inductive State
  | undefined
  | subscribeUserPortfolio
  | subscribeUserChanges
  | subscribeUserOrders
  | subscribeUserTrades
  | getAccountSummary
  | getUserTradesByCurrency
  | done
  deriving DecidableEq, Repr

/-- `magic_enum::enum_name` -/
def State.name : State → String
  | undefined => "UNDEFINED"
  | subscribeUserPortfolio => "SUBSCRIBE_USER_PORTFOLIO"
  | subscribeUserChanges => "SUBSCRIBE_USER_CHANGES"
  | subscribeUserOrders => "SUBSCRIBE_USER_ORDERS"
  | subscribeUserTrades => "SUBSCRIBE_USER_TRADES"
  | getAccountSummary => "GET_ACCOUNT_SUMMARY"
  | getUserTradesByCurrency => "GET_USER_TRADES_BY_CURRENCY"
  | done => "DONE"

instance : Stages State where
  undefined := .undefined
  before := [.subscribeUserPortfolio, .subscribeUserChanges, .subscribeUserOrders,
    .subscribeUserTrades, .getAccountSummary, .getUserTradesByCurrency]
  done := .done

end DropCopy

structure DropCopy (C : Type) where
  streamId : UInt16
  /-- `account_.name` -/
  account : String
  /-- `account_.key` -/
  key : String
  currencies : List String
  ready_ : Bool
  connectionStatus : ConnectionStatus
  download : C
  canDownload : Bool
  downloadTradesIsFirst : Bool
  subscribeQueue : List Json.Request

namespace DropCopy

open StagedDownload Emission

structure Env where
  exchange : String
  retryLogon : Bool
  tradesLookback : ℤ
  tradesLookbackOnRestart : ℤ
  /-- `ref_data.multiplier` of `Dispatcher::get_ref_data` -/
  refDataMultiplier : String → Double
  /-- `utils::compute_profit_loss_amount` -/
  computeProfitLossAmount : Side → Double → Double → Double → Double

structure Context where
  /-- `trace_info.origin_create_time_utc` -/
  now : ℤ
  /-- `Client::refresh` -/
  refreshed : Bool
  /-- `Queue::dispatch` of the requests. -/
  dispatch : Dispatch Json.Request
  /-- `Account::create_nonce` -/
  nonce : String
  /-- `Account::create_signature` -/
  signature : String
  timestamp : ℤ
  /-- `Shared::multiplier` -/
  multiplier : String → Option Double

inductive Event
  | currenciesUpdate (currencies : List String)
  | latch
  | timer
  | connected
  | disconnected
  | ready
  | close
  | latency (sample : ℤ)
  | message (value : Json.Message)
  | binary

inductive Output
  /-- A request is put into the queue. -/
  | queued (request : Json.Request)
  | sentText (request : Json.Request)
  | streamStatus (value : StreamStatus)
  | externalLatency (value : ExternalLatency)
  | marketSegmentStatus (value : MarketSegmentStatus)
  | fundsUpdate (value : FundsUpdate)
  | tradeUpdate (value : TradeUpdate) (isLast : Bool)
  | closed
  deriving DecidableEq

variable {C : Type}

abbrev Handler (C : Type) := Emission.Handler (DropCopy C) Output

/-- `DropCopy::ready` -/
def ready (o : DropCopy C) : Bool := o.ready_

def initial [Download State C] (streamId : UInt16) (account key : String) : DropCopy C :=
  { streamId
    account
    key
    currencies := []
    ready_ := false
    connectionStatus := .undefined
    download := Download.fresh
    canDownload := false
    downloadTradesIsFirst := true
    subscribeQueue := [] }

/-- `subscribe_queue_.emplace_back` -/
def enqueue (request : Json.Request) : Handler C := fun o =>
  ({ o with subscribeQueue := o.subscribeQueue ++ [request] }, [.queued request])

/-- `operator()(Trace<ConnectionStatus>)` -/
def publish (connectionStatus : ConnectionStatus) (reason : String) : Handler C := fun o =>
  ({ o with connectionStatus },
    [.streamStatus { streamId := o.streamId, account := o.account, connectionStatus, reason }])

variable (env : Env) (ctx : Context)

/-! ## Requests -/

def login : Handler C := fun o =>
  emit [.sentText (.auth o.key ctx.timestamp ctx.nonce ctx.signature)] o

/-- Also for an empty list. -/
def subscribeUserPortfolio (currencies : List String) : Handler C :=
  enqueue (.privateSubscribe (Json.joined "user.portfolio." "" currencies)
    .subscribeUserPortfolio)

def subscribeUserChanges : Handler C :=
  enqueue (.privateSubscribe ["user.changes.any.any.raw"] .subscribeUserChanges)

def subscribeUserOrders : Handler C :=
  enqueue (.privateSubscribe ["user.orders.any.any.raw"] .subscribeUserOrders)

def subscribeUserTrades : Handler C :=
  enqueue (.privateSubscribe ["user.trades.any.any.raw"] .subscribeUserTrades)

def getAccountSummary (currencies : List String) : Handler C :=
  each (fun currency => enqueue (.getAccountSummary currency)) currencies

/-- `get_download_trades_lookback` -/
def downloadTradesLookback (downloadTradesIsFirst : Bool) : ℤ :=
  if downloadTradesIsFirst ∧ env.tradesLookbackOnRestart ≠ 0 then env.tradesLookbackOnRestart
  else env.tradesLookback

def getUserTradesByCurrency (currencies : List String) : Handler C := fun o =>
  let startTimestamp :=
    (ctx.now - downloadTradesLookback env o.downloadTradesIsFirst).tdiv 1000000
  each (fun currency => enqueue (.getUserTradesByCurrency currency startTimestamp)) currencies o

/-- What the stream asks for in each of `currencies`. -/
def requestCurrencies (currencies : List String) : Handler C :=
  seq (subscribeUserPortfolio currencies)
    (seq (getAccountSummary currencies) (getUserTradesByCurrency env ctx currencies))

/-- `operator()(Trace<CurrenciesUpdate>)` -/
def currenciesUpdate (currencies : List String) : Handler C :=
  seq (modify fun o => { o with currencies := o.currencies ++ currencies }) fun o =>
    if o.ready_ ∧ o.canDownload then requestCurrencies env ctx currencies o else skip o

/-- `operator()(Trace<Latch>)` -/
def latch : Handler C := fun o =>
  if o.canDownload then skip o
  else seq (modify fun o => { o with canDownload := true }) (fun o =>
    if o.ready_ then requestCurrencies env ctx o.currencies o else skip o) o

/-! ## Timer and connection -/

/-- `check_subscribe_queue`: what the rate limiter lets through is sent. -/
def checkSubscribeQueue : Handler C := fun o =>
  ({ o with subscribeQueue := ctx.dispatch.kept o.subscribeQueue },
    (ctx.dispatch.handed o.subscribeQueue).map .sentText)

def timer : Handler C := fun o =>
  if ctx.refreshed ∧ o.ready then checkSubscribeQueue ctx o else skip o

def disconnected [Download State C] : Handler C :=
  seq (modify fun o => { o with ready_ := false })
    (seq (publish .disconnected "") (modify fun o =>
      { o with download := Download.reset o.download, subscribeQueue := [] }))

/-- `operator()(Trace<web::socket::Ready>)` -/
def upgraded : Handler C := seq (login ctx) (publish .loginSent "")

def latency (sample : ℤ) : Handler C := fun o =>
  emit [.externalLatency { streamId := o.streamId, account := o.account, latency := sample }] o

/-! ## Download -/

/-- What `DropCopy::download` returns. -/
def downloadCount : State → ℤ := fun _ => 0

/-- A state of the download that waits for the latch. -/
def latched (state : State) (f : Handler C) : Handler C := fun o =>
  if o.canDownload then seq (publish .downloading state.name) f o else skip o

/-- What `DropCopy::download` does. -/
def downloadState : State → Handler C
  | .undefined => skip
  | .subscribeUserPortfolio =>
    latched .subscribeUserPortfolio fun o => subscribeUserPortfolio o.currencies o
  | .subscribeUserChanges =>
    seq (publish .downloading State.subscribeUserChanges.name) subscribeUserChanges
  | .subscribeUserOrders =>
    seq (publish .downloading State.subscribeUserOrders.name) subscribeUserOrders
  | .subscribeUserTrades =>
    seq (publish .downloading State.subscribeUserTrades.name) subscribeUserTrades
  | .getAccountSummary =>
    latched .getAccountSummary fun o => getAccountSummary o.currencies o
  | .getUserTradesByCurrency =>
    latched .getUserTradesByCurrency fun o => getUserTradesByCurrency env ctx o.currencies o
  | .done => seq (publish .ready "") (modify fun o => { o with ready_ := true })

/-- `download_` has moved. -/
def advance (r : C × List State) : Handler C := fun o =>
  each (downloadState env ctx) r.2 { o with download := r.1 }

/-! ## Messages -/

/-- `none`: `log::fatal`. -/
def auth [Download State C] (errorCode : ℤ) (o : DropCopy C) :
    Option (DropCopy C × List Output) :=
  if errorCode ≠ 0 then
    -- the connection is closed, or `log::fatal`
    if env.retryLogon then some (emit [.closed] o) else none
  else some (advance env ctx (Download.begin downloadCount o.download) o)

def userPortfolio (value : Json.UserPortfolio) : Handler C := fun o =>
  emit [.fundsUpdate
    { streamId := o.streamId
      account := o.account
      currency := value.currency
      marginMode := if value.crossCollateralEnabled then .cross else .isolated
      balance := value.balance
      updateType := .incremental
      exchangeTimeUtc := value.creationTimestamp }] o

/-- The id under which a trade is reported. -/
def externalTradeId (trade : Json.Trade) : String :=
  trade.instrumentName ++ "#" ++ trade.tradeSeq.repr

def fill (trade : Json.Trade) : Fill :=
  let quantity := Double.mul trade.amount ((ctx.multiplier trade.instrumentName).getD (some 1))
  { exchangeTimeUtc := trade.timestamp
    externalTradeId := externalTradeId trade
    quantity
    price := trade.price
    liquidity := trade.liquidity.map
    commissionAmount := trade.fee
    commissionCurrency := trade.feeCurrency
    profitLossAmount := env.computeProfitLossAmount trade.direction.side quantity trade.price
      (env.refDataMultiplier trade.instrumentName) }

/-- `operator()(Trace<Trade>)` -/
def trade (o : DropCopy C) (isDownload : Bool) (trade : Json.Trade) : TradeUpdate :=
  { streamId := o.streamId
    account := o.account
    exchange := env.exchange
    symbol := trade.instrumentName
    side := trade.direction.side
    createTimeUtc := trade.timestamp
    updateTimeUtc := trade.timestamp
    externalOrderId := trade.orderId
    clientOrderId := trade.label
    fills := [fill env ctx trade]
    updateType := if isDownload then .snapshot else .incremental }

/-- The loop over trades, which tells the last one apart. -/
def trades (isDownload : Bool) : List Json.Trade → Handler C
  | [] => skip
  | item :: items =>
    seq (fun o => emit [.tradeUpdate (trade env ctx o isDownload item) items.isEmpty] o)
      (trades isDownload items)

/-- `operator()(Trace<UserTrades>)`: the trades are taken for downloaded ones. -/
def userTrades (data : List Json.Trade) : Handler C :=
  seq (trades env ctx true data) (modify fun o => { o with downloadTradesIsFirst := false })

/-! ## Steps -/

variable [Download State C]

/-- The handlers of the parser. `none`: `log::fatal`. -/
def parse (value : Json.Message) (o : DropCopy C) : Option (DropCopy C × List Output) :=
  match value with
  | .auth errorCode => auth env ctx errorCode o
  | .subscribeAck _ => some (skip o)
  | .platformState value =>
    some (emit [.marketSegmentStatus (value.marketSegmentStatus o.streamId env.exchange)] o)
  | .instrumentState => none
  | .quote _ => none
  | .ticker _ => none
  | .chartTrades _ _ => none
  | .userPortfolio value => some (userPortfolio value o)
  | .userChanges items => some (trades env ctx false items o)
  | .userOrders => some (skip o)
  | .userTrades data => some (userTrades env ctx data o)
  | .getAccountSummaryAck => some (skip o)
  | .getUserTradesByCurrencyAck _ => some (skip o)

/-- One call of the stream by the process. `none`: the process has ended. -/
def call (event : Event) (o : DropCopy C) : Option (DropCopy C × List Output) :=
  match event with
  | .currenciesUpdate currencies => some (currenciesUpdate env ctx currencies o)
  | .latch => some (latch env ctx o)
  | .timer => some (timer ctx o)
  | .connected => some (skip o)
  | .disconnected => some (disconnected o)
  | .ready => some (upgraded ctx o)
  | .close => some (skip o)
  | .latency sample => some (latency sample o)
  | .message value => parse env ctx value o
  | .binary => none

/-- The stream by itself. -/
def step (env : Env) : Transducer.Step (DropCopy C) (Context × Event) Output :=
  fun o (ctx, event) =>
    match call env ctx event o with
    | some r => (some r.1, r.2)
    | none => (none, [])

/-- The process ends without another output, or the call returns. -/
theorem step_cases (env : Env) (o : DropCopy C) (ctx : Context) (event : Event) :
    step env o (ctx, event) = (none, []) ∨
    ∃ r, call env ctx event o = some r ∧ step env o (ctx, event) = (some r.1, r.2) := by
  simp only [step]
  cases call env ctx event o with
  | none => exact .inl rfl
  | some r => exact .inr ⟨r, rfl, rfl⟩

/-! ## A session -/

/-- The default settings. -/
def Env.plain : Env where
  exchange := "deribit"
  retryLogon := false
  tradesLookback := 0
  tradesLookbackOnRestart := 0
  refDataMultiplier _ := some 1
  computeProfitLossAmount side quantity price multiplier :=
    let amount := Double.mul (Double.mul quantity price) multiplier
    match side with
    | .buy => Double.mul (some (-1)) amount
    | .sell => amount
    | .undefined => none

/-- A rate limiter that lets ten requests through. -/
def Context.plain : Context where
  now := 1
  refreshed := true
  dispatch := .upTo 10
  nonce := "nonce"
  signature := "signature"
  timestamp := 1
  multiplier _ := some (some 1)

abbrev plain : DropCopy (Counter State) := initial 3 "a" "key"

end DropCopy

end DeribitGateway
