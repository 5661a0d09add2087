import DeribitGateway.Fix.Message

/-!
# Market data messages

The messages of the market data session, restricted to the fields the stream reads or fills
in, and what the stream reports. Fields the code leaves at their defaults are left out.
-/

namespace DeribitGateway

inductive SecurityType
  | undefined
  | spot
  | futures
  | swap
  | option
  deriving DecidableEq, Repr

inductive OptionType
  | undefined
  | call
  | put
  deriving DecidableEq, Repr

inductive StatisticsType
  | preOpenInterest
  | preSettlementPrice
  | indexValue
  | settlementPrice
  deriving DecidableEq, Repr

namespace Fix

/-! ## Inbound -/

inductive PutOrCall
  | undefined
  | put
  | call
  deriving DecidableEq, Repr

inductive MDUpdateAction
  | undefined
  | new
  | change
  | delete
  | deleteThru
  | deleteFrom
  | overlay
  deriving DecidableEq, Repr

inductive MDEntryType
  | bid
  | offer
  | trade
  | indexValue
  | settlementPrice
  | other
  deriving DecidableEq, Repr

/-- An item of `MDInc` or `MDFull`. -/
structure MDEntry where
  mdUpdateAction : MDUpdateAction
  mdEntryType : MDEntryType
  mdEntryPx : Double
  mdEntrySize : Double
  mdEntryDate : ℤ
  deribitTradeId : String
  side : Side
  orderId : String
  secondaryOrderId : String
  deriving DecidableEq

structure MarketDataIncrementalRefresh where
  symbol : String
  openInterest : Double
  markPrice : Double
  noMdEntries : List MDEntry
  deriving DecidableEq

structure MarketDataSnapshotFullRefresh where
  symbol : String
  noMdEntries : List MDEntry
  deriving DecidableEq

/-- An item of `SecurityList`. -/
structure Instrument where
  symbol : String
  securityDesc : String
  securityType : String
  putOrCall : PutOrCall
  strikePrice : Double
  strikeCurrency : String
  currency : String
  minPriceIncrement : Double
  underlyingSymbol : String
  issueDate : ℤ
  maturityDate : ℤ
  maturityTime : String
  minTradeVol : Double
  settlCurrency : String
  commCurrency : String
  contractMultiplier : Double
  deriving DecidableEq

/-- A message of the market data session. -/
inductive MDInbound
  | heartbeat (testReqId : String)
  | logon
  | logout
  | resendRequest
  | testRequest (testReqId : String)
  | reject
  | securityList (noRelatedSym : List Instrument)
  | securityStatus
  | marketDataIncrementalRefresh (value : MarketDataIncrementalRefresh)
  | marketDataRequestReject
  | marketDataSnapshotFullRefresh (value : MarketDataSnapshotFullRefresh)
  | marketDataRequest
  | other (msgType : MsgType)
  deriving DecidableEq

/-! ## Outbound -/

inductive SubscriptionRequestType
  | snapshotUpdates
  | unsubscribe
  deriving DecidableEq, Repr

inductive MDUpdateType
  | undefined
  | fullRefresh
  | incrementalRefresh
  deriving DecidableEq, Repr

structure MarketDataRequest where
  mdReqId : String
  subscriptionRequestType : SubscriptionRequestType
  marketDepth : ℕ
  mdUpdateType : MDUpdateType
  noMdEntryTypes : List MDEntryType
  noRelatedSym : List String
  deriving DecidableEq

structure MDLogon extends Logon where
  unsubscribeExecutionReports : Bool
  deriving DecidableEq

inductive MDOutbound
  | logon (value : MDLogon)
  | logout (text : String)
  | heartbeat (testReqId : String)
  | testRequest (testReqId : String)
  | securityListRequest (securityReqId : String)
  | marketDataRequest (value : MarketDataRequest)
  deriving DecidableEq

end Fix

/-! ## Reports -/

structure TickSizeStep where
  minPrice : Double
  tickSize : Double
  deriving DecidableEq

structure ReferenceData where
  streamId : UInt16
  exchange : String
  symbol : String
  description : String
  securityType : SecurityType
  marketSegment : String
  baseCurrency : String
  quoteCurrency : String
  settlementCurrency : String
  commissionCurrency : String
  tickSize : Double
  tickSizeSteps : List TickSizeStep
  multiplier : Double
  minTradeVol : Double
  tradeVolStepSize : Double
  optionType : OptionType
  strikeCurrency : String
  strikePrice : Double
  underlying : String
  issueDate : ℤ
  expiryDatetime : ℤ
  expiryDatetimeUtc : ℤ
  discard : Bool
  deriving DecidableEq

namespace MarketData

structure MBPUpdate where
  price : Double
  quantity : Double
  deriving DecidableEq

structure MarketByPriceUpdate where
  streamId : UInt16
  exchange : String
  symbol : String
  bids : List MBPUpdate
  asks : List MBPUpdate
  updateType : UpdateType
  exchangeTimeUtc : ℤ
  sendingTimeUtc : ℤ
  deriving DecidableEq

structure Trade where
  side : Side
  price : Double
  quantity : Double
  tradeId : String
  takerOrderId : String
  makerOrderId : String
  deriving DecidableEq

structure TradeSummary where
  streamId : UInt16
  exchange : String
  symbol : String
  trades : List Trade
  exchangeTimeUtc : ℤ
  sendingTimeUtc : ℤ
  deriving DecidableEq

structure Statistics where
  type : StatisticsType
  value : Double
  deriving DecidableEq

structure StatisticsUpdate where
  streamId : UInt16
  exchange : String
  symbol : String
  statistics : List Statistics
  updateType : UpdateType
  exchangeTimeUtc : ℤ
  sendingTimeUtc : ℤ
  deriving DecidableEq

end MarketData

end DeribitGateway
