import DeribitGateway.Api

/-!
# FIX messages

The messages of the FIX session, restricted to the fields the order entry stream reads or
fills in (`protocol/fix/*.json`), and what the stream is asked for and reports. Fields the
code leaves at their defaults (`= {}`, `NaN`) are left out.
-/

namespace DeribitGateway

namespace Fix

/-! ## Values -/

inductive MsgType
  | undefined
  | heartbeat
  | testRequest
  | resendRequest
  | reject
  | logon
  | logout
  | newOrderSingle
  | orderCancelReplaceRequest
  | orderCancelRequest
  | orderMassCancelRequest
  | orderMassStatusRequest
  | requestForPositions
  | executionReport
  | orderCancelReject
  | orderMassCancelReport
  | positionReport
  | other
  deriving DecidableEq, Repr

inductive Side
  | undefined
  | buy
  | sell
  | other
  deriving DecidableEq, Repr

inductive OrdType
  | undefined
  | market
  | limit
  | stop
  | stopLimit
  | other
  deriving DecidableEq, Repr

inductive TimeInForce
  | undefined
  | day
  | gtc
  | ioc
  | fok
  | other
  deriving DecidableEq, Repr

inductive ExecType
  | undefined
  | new
  | canceled
  | replaced
  | rejected
  | expired
  | trade
  | orderStatus
  | other
  deriving DecidableEq, Repr

inductive OrdStatus
  | undefined
  | new
  | partiallyFilled
  | filled
  | canceled
  | rejected
  | expired
  | other
  deriving DecidableEq, Repr

inductive MassStatusReqType
  | undefined
  | orders
  | other
  deriving DecidableEq, Repr

inductive FillLiquidityInd
  | undefined
  | addedLiquidity
  | removedLiquidity
  | liquidityRoutedOut
  deriving DecidableEq, Repr

inductive MassCancelRequestType
  | cancelOrdersForSecurity
  | cancelAllOrders
  deriving DecidableEq, Repr

inductive MassCancelResponse
  | undefined
  | cancelRequestRejected
  | other
  deriving DecidableEq, Repr

/-! ## Inbound -/

/-- The numbers of messages have 64 bits in the source, on either side; here they are not
    bounded. -/
structure Header where
  msgSeqNum : ℕ
  sendingTime : ℤ
  deriving DecidableEq, Repr

structure PositionQty where
  symbol : String
  longQty : Double
  shortQty : Double
  deriving DecidableEq

structure Fill where
  fillExecId : String
  fillPx : Double
  fillQty : Double
  fillLiquidityInd : FillLiquidityInd
  deriving DecidableEq

structure ExecutionReport where
  massStatusReqType : MassStatusReqType
  totNumReports : ℕ
  execType : ExecType
  ordStatus : OrdStatus
  deribitLabel : String
  origClOrdId : String
  orderId : String
  symbol : String
  side : Side
  ordType : OrdType
  orderQty : Double
  price : Double
  stopPx : Double
  maxShow : Double
  leavesQty : Double
  cumQty : Double
  avgPx : Double
  lastQty : Double
  lastPx : Double
  text : String
  transactTime : ℤ
  noFills : List Fill
  deriving DecidableEq

structure OrderCancelReject where
  origClOrdId : String
  deribitLabel : String
  text : String
  deriving DecidableEq

structure Reject where
  refSeqNum : ℕ
  refMsgType : MsgType
  sessionRejectReason : String
  text : String
  deriving DecidableEq

structure OrderMassCancelReport where
  clOrdId : String
  massCancelResponse : MassCancelResponse
  totalAffectedOrders : ℕ
  text : String
  deriving DecidableEq

/-- A message from the exchange; `other` is one `parse_helper` does not expect. -/
inductive Inbound
  | heartbeat (testReqId : String)
  | logon
  | logout
  | resendRequest
  | testRequest (testReqId : String)
  | positionReport (noPositions : List PositionQty)
  | executionReport (value : ExecutionReport)
  | orderCancelReject (value : OrderCancelReject)
  | reject (value : Reject)
  | orderMassCancelReport (value : OrderMassCancelReport)
  | other (msgType : MsgType)
  deriving DecidableEq

/-! ## Outbound -/

structure Logon where
  heartBtInt : ℕ
  rawData : String
  username : String
  password : String
  cancelOnDisconnect : Bool
  deriving DecidableEq

structure NewOrderSingle where
  clOrdId : String
  side : Side
  orderQty : Decimal
  price : Decimal
  symbol : String
  execInst : String
  ordType : OrdType
  timeInForce : TimeInForce
  stopPx : Decimal
  deribitLabel : String
  deriving DecidableEq

structure OrderCancelReplaceRequest where
  deribitLabel : String
  symbol : String
  side : Side
  orderQty : Decimal
  ordType : OrdType
  price : Decimal
  deriving DecidableEq

structure OrderCancelRequest where
  deribitLabel : String
  symbol : String
  deriving DecidableEq

structure OrderMassCancelRequest where
  clOrdId : String
  massCancelRequestType : MassCancelRequestType
  symbol : String
  deriving DecidableEq

inductive Outbound
  | logon (value : Logon)
  | logout (text : String)
  | heartbeat (testReqId : String)
  | testRequest (testReqId : String)
  | requestForPositions (posReqId : String)
  | orderMassStatusRequest (massStatusReqId : String)
  | newOrderSingle (value : NewOrderSingle)
  | orderCancelReplaceRequest (value : OrderCancelReplaceRequest)
  | orderCancelRequest (value : OrderCancelRequest)
  | orderMassCancelRequest (value : OrderMassCancelRequest)
  deriving DecidableEq

end Fix

/-! ## Requests -/

structure CreateOrder where
  symbol : String
  side : Side
  orderType : OrderType
  timeInForce : TimeInForce
  executionInstructions : List ExecutionInstruction
  quantity : Double
  price : Double
  stopPrice : Double
  maxShowQuantity : Double
  deriving DecidableEq

structure ModifyOrder where
  quantity : Double
  price : Double
  deriving DecidableEq

structure CancelAllOrders where
  account : String
  orderId : ℕ
  exchange : String
  symbol : String
  side : Side
  strategyId : ℕ
  deriving DecidableEq

/-- The flags of `utils::create_filter`. -/
inductive Filter
  | account
  | orderId
  | exchange
  | symbol
  | side
  | strategyId
  | other
  deriving DecidableEq, Repr

/-- `server::oms::RefData`: decimals of prices and quantities. -/
structure RefData where
  pricePrecision : ℕ
  quantityPrecision : ℕ
  deriving DecidableEq, Repr

/-- `server::oms::Order` -/
structure Order where
  userId : ℕ
  orderId : ℕ
  strategyId : ℕ
  clientOrderId : String
  symbol : String
  side : Side
  orderType : OrderType
  deriving DecidableEq

/-! ## Reports -/

structure StreamStatus where
  streamId : UInt16
  account : String
  connectionStatus : ConnectionStatus
  reason : String
  deriving DecidableEq

structure ExternalLatency where
  streamId : UInt16
  account : String
  latency : ℤ
  deriving DecidableEq

structure Response where
  requestType : RequestType
  origin : Origin
  requestStatus : RequestStatus
  error : Error
  text : String
  requestId : String
  externalOrderId : String
  clientOrderId : String
  quantity : Double
  price : Double
  deriving DecidableEq

structure OrderUpdate where
  account : String
  exchange : String
  symbol : String
  side : Side
  maxShowQuantity : Double
  orderType : OrderType
  timeInForce : TimeInForce
  updateTimeUtc : ℤ
  externalOrderId : String
  clientOrderId : String
  orderStatus : OrderStatus
  quantity : Double
  price : Double
  stopPrice : Double
  remainingQuantity : Double
  tradedQuantity : Double
  averageTradedPrice : Double
  lastTradedQuantity : Double
  lastTradedPrice : Double
  lastLiquidity : Liquidity
  updateType : UpdateType
  sendingTimeUtc : ℤ
  deriving DecidableEq

structure Fill where
  exchangeTimeUtc : ℤ
  externalTradeId : String
  quantity : Double
  price : Double
  liquidity : Liquidity
  profitLossAmount : Double
  deriving DecidableEq

structure TradeUpdate where
  streamId : UInt16
  account : String
  orderId : ℕ
  exchange : String
  symbol : String
  side : Side
  createTimeUtc : ℤ
  updateTimeUtc : ℤ
  externalOrderId : String
  clientOrderId : String
  fills : List Fill
  updateType : UpdateType
  sendingTimeUtc : ℤ
  strategyId : ℕ
  deriving DecidableEq

structure PositionUpdate where
  streamId : UInt16
  account : String
  exchange : String
  symbol : String
  longQuantity : ℚ
  shortQuantity : ℚ
  updateType : UpdateType
  deriving DecidableEq

structure CancelAllOrdersAck where
  streamId : UInt16
  account : String
  orderId : ℕ
  exchange : String
  symbol : String
  side : Side
  origin : Origin
  requestStatus : RequestStatus
  text : String
  requestId : String
  numberOfAffectedOrders : ℕ
  strategyId : ℕ
  deriving DecidableEq

/-- The exceptions of the order actions. -/
inductive Exception
  | notReady (what : String)
  | runtimeError (what : String)
  | rejected (origin : Origin) (error : Error) (what : String)
  deriving DecidableEq

end DeribitGateway
