import DeribitGateway.Fix.MarketDataMessage

/-!
# JSON messages

The requests that the web socket streams send, and the messages they receive, restricted to
the fields the streams fill in or read. Decoding is not modelled: a message is one call of a
handler by the parser.
-/

namespace DeribitGateway

inductive TradingStatus
  | undefined
  | open
  | close
  deriving DecidableEq, Repr

inductive MarginMode
  | isolated
  | cross
  deriving DecidableEq, Repr

namespace Json

/-! ## Requests -/

inductive RequestType
  | auth
  | subscribePlatformState
  | subscribeInstrumentState
  | subscribeQuote
  | subscribeTicker
  | subscribeChartTrades
  | subscribeUserPortfolio
  | subscribeUserChanges
  | subscribeUserOrders
  | subscribeUserTrades
  | getAccountSummary
  | getUserTradesByCurrency
  deriving DecidableEq, Repr

/-- The messages the streams format: the method, what varies of the parameters, and the id. -/
inductive Request
  /-- `public/auth` -/
  | auth (clientId : String) (timestamp : ℤ) (nonce signature : String)
  /-- `public/subscribe` -/
  | publicSubscribe (channels : List String) (id : RequestType)
  /-- `private/subscribe` -/
  | privateSubscribe (channels : List String) (id : RequestType)
  /-- `private/get_account_summary` -/
  | getAccountSummary (currency : String)
  /-- `private/get_user_trades_by_currency` -/
  | getUserTradesByCurrency (currency : String) (startTimestamp : ℤ)
  deriving DecidableEq

/-- `fmt::join` between what comes in front of the first name and behind the last one: without
    names, one channel is left, which has no name. -/
def joined (front back : String) : List String → List String
  | [] => [front ++ back]
  | names => names.map fun name => front ++ name ++ back

/-! ## Enumerations -/

inductive Direction
  | undefined
  | buy
  | sell
  | zero
  deriving DecidableEq, Repr

inductive Liquidity
  | undefined
  | maker
  | taker
  deriving DecidableEq, Repr

inductive State
  | undefined
  | closed
  | open
  | created
  | settled
  | terminated
  | inactive
  | deactivated
  | started
  | settlement
  | delivered
  | locked
  | halted
  deriving DecidableEq, Repr

inductive Kind
  | undefined
  | future
  | option
  | futureCombo
  | optionCombo
  | spot
  deriving DecidableEq, Repr

inductive SettlementPeriod
  | undefined
  | perpetual
  | day
  | week
  | month
  | hour
  deriving DecidableEq, Repr

inductive OptionType
  | undefined
  | call
  | put
  deriving DecidableEq, Repr

/-- `map(Direction)` -/
def Direction.side : Direction → Side
  | undefined => .undefined
  | buy => .buy
  | sell => .sell
  | zero => .undefined

/-- `map(Liquidity)` -/
def Liquidity.map : Liquidity → DeribitGateway.Liquidity
  | undefined => .undefined
  | maker => .maker
  | taker => .taker

/-- `map(State)` -/
def State.tradingStatus : State → TradingStatus
  | .closed => .close
  | .open => .open
  | .halted => .close
  | _ => .undefined

/-! ## Inbound -/

structure PlatformState where
  priceIndex : String
  locked : Bool
  maintenance : Bool
  deriving DecidableEq

structure Quote where
  instrumentName : String
  bestBidPrice : Double
  bestBidAmount : Double
  bestAskPrice : Double
  bestAskAmount : Double
  timestamp : ℤ
  deriving DecidableEq

structure Ticker where
  instrumentName : String
  state : State
  deriving DecidableEq

structure UserPortfolio where
  currency : String
  balance : Double
  crossCollateralEnabled : Bool
  creationTimestamp : ℤ
  deriving DecidableEq

structure Trade where
  instrumentName : String
  tradeSeq : ℤ
  direction : Direction
  amount : Double
  price : Double
  fee : Double
  feeCurrency : String
  liquidity : Liquidity
  orderId : String
  label : String
  timestamp : ℤ
  deriving DecidableEq

/-- A message of a web socket session. -/
inductive Message
  | auth (errorCode : ℤ)
  | subscribeAck (errorCode : ℤ)
  | platformState (value : PlatformState)
  | instrumentState
  | quote (value : Quote)
  | ticker (value : Ticker)
  | chartTrades (symbol : String) (interval : ℕ)
  | userPortfolio (value : UserPortfolio)
  | userChanges (trades : List Trade)
  | userOrders
  | userTrades (data : List Trade)
  | getAccountSummaryAck
  | getUserTradesByCurrencyAck (trades : List Trade)
  deriving DecidableEq

structure TickSizeStep where
  abovePrice : Double
  tickSize : Double
  deriving DecidableEq

/-- An item of `GetInstrumentsAck`. -/
structure Instrument where
  instrumentName : String
  instrumentId : ℤ
  kind : Kind
  settlementPeriod : SettlementPeriod
  optionType : OptionType
  contractSize : Double
  minTradeAmount : Double
  tickSize : Double
  tickSizeSteps : List TickSizeStep
  strike : Double
  priceIndex : String
  baseCurrency : String
  quoteCurrency : String
  settlementCurrency : String
  creationTimestamp : ℤ
  expirationTimestamp : ℤ
  deriving DecidableEq

end Json

/-! ## Reports -/

structure MarketSegmentStatus where
  streamId : UInt16
  exchange : String
  marketSegment : String
  tradingStatus : TradingStatus
  deriving DecidableEq

/-- What both kinds of web socket stream report of the platform. -/
def Json.PlatformState.marketSegmentStatus (value : Json.PlatformState) (streamId : UInt16)
    (exchange : String) : MarketSegmentStatus :=
  { streamId
    exchange
    marketSegment := value.priceIndex
    tradingStatus := if value.locked || value.maintenance then .close else .open }

namespace WebSocket

structure Layer where
  bidPrice : Double
  bidQuantity : Double
  askPrice : Double
  askQuantity : Double
  deriving DecidableEq

structure TopOfBook where
  streamId : UInt16
  exchange : String
  symbol : String
  layer : Layer
  updateType : UpdateType
  exchangeTimeUtc : ℤ
  deriving DecidableEq

structure MarketStatus where
  streamId : UInt16
  exchange : String
  symbol : String
  tradingStatus : TradingStatus
  deriving DecidableEq

end WebSocket

namespace DropCopy

structure FundsUpdate where
  streamId : UInt16
  account : String
  currency : String
  marginMode : MarginMode
  balance : Double
  updateType : UpdateType
  exchangeTimeUtc : ℤ
  deriving DecidableEq

structure Fill where
  exchangeTimeUtc : ℤ
  externalTradeId : String
  quantity : Double
  price : Double
  liquidity : Liquidity
  commissionAmount : Double
  commissionCurrency : String
  profitLossAmount : Double
  deriving DecidableEq

structure TradeUpdate where
  streamId : UInt16
  account : String
  exchange : String
  symbol : String
  side : Side
  createTimeUtc : ℤ
  updateTimeUtc : ℤ
  externalOrderId : String
  clientOrderId : String
  fills : List Fill
  updateType : UpdateType
  deriving DecidableEq

end DropCopy

end DeribitGateway
