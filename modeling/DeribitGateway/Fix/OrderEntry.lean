import DeribitGateway.Fix.Download
import DeribitGateway.Fix.Message
import DeribitGateway.Lib.Transducer

/-!
# The order entry stream

`OrderEntry` is the FIX session of one account: it logs on, downloads positions and orders,
forwards order actions, and reports what comes back. A step of it is one call the process
makes: the timer, an order action, a change of the connection, or one message that the
reader has found in the buffer.

What is not in the repository is a parameter. `Env` holds the settings and the functions of
the libraries. `Context` holds what the environment answers in the course of one step: the
time, whether the connection takes a message, and what the order management knows.
-/

namespace DeribitGateway

structure OrderEntry (D : Type) where
  /-- `outbound_.msg_seq_num` -/
  outbound : ℕ
  /-- `inbound_.msg_seq_num` -/
  inbound : ℕ
  connectionStatus : ConnectionStatus
  ready_ : Bool
  nextHeartbeat : ℤ
  download : D
  lastLogonOrHeartbeat : ℤ
  msgSeqNumToRequestId : ℕ → Option String
  testDisconnectTime : ℤ
  testLogonTime : ℤ

namespace OrderEntry

structure Env where
  exchange : String
  account : String
  accountKey : String
  streamId : UInt16
  disableDeribit143 : Bool
  cancelOnDisconnect : Bool
  continueFromParseException : Bool
  requestTimeout : ℤ
  pingFreq : ℤ
  testOrderLogon : ℤ
  testOrderDisconnect : ℤ
  /-- `Account::create_password` -/
  createPassword : String → String
  /-- `utils::is_zero` -/
  isZero : Double → Bool
  /-- `utils::hash::FNV::compute` -/
  hash : String → UInt64
  /-- `utils::charconv::to_string` -/
  toString : ℤ → String
  /-- `utils::charconv::from_chars`, which may throw. -/
  fromChars : String → Option ℕ
  /-- `utils::create_filter` -/
  createFilter : CancelAllOrders → List Filter
  /-- `utils::compute_profit_loss_amount` -/
  computeProfitLossAmount : Side → Double → Double → Double → Double
  mapSide : Side → Fix.Side
  mapOrderType : OrderType → Fix.OrdType
  mapTimeInForce : TimeInForce → Fix.TimeInForce
  sideOf : Fix.Side → Side
  orderTypeOf : Fix.OrdType → OrderType
  orderStatusOf : Fix.OrdStatus → OrderStatus
  liquidityOf : Fix.FillLiquidityInd → Liquidity
  sourceNone : ℕ
  orderIdNone : ℕ
  strategyIdNone : ℕ

structure Context where
  /-- `trace_info.origin_create_time` -/
  now : ℤ
  /-- `ConnectionManager::refresh` -/
  refreshed : Bool
  /-- Whether `ConnectionManager::send` takes the message of this number. -/
  queued : ℕ → Bool
  /-- `request_id_` of `Shared`, the last one drawn by any stream when the step begins. -/
  requestId : UInt32
  /-- The order a report is for. -/
  order : Option Order
  /-- `get_ref_data(...).multiplier` -/
  multiplier : Double
  /-- `Account::create_raw_data` -/
  rawData : String

inductive Event
  | timer (now : ℤ)
  | createOrder (createOrder : CreateOrder) (refData : RefData) (requestId : String)
  | modifyOrder (modifyOrder : ModifyOrder) (order : Order) (refData : RefData)
      (requestId : String)
  | cancelOrder (order : Order) (requestId : String)
  | cancelAllOrders (cancelAllOrders : CancelAllOrders) (requestId : String)
  | connected
  | disconnected
  | message (header : Fix.Header) (value : Fix.Inbound)

inductive Output
  | sent (msgSeqNum : ℕ) (message : Fix.Outbound) (queued : Bool)
  | streamStatus (value : StreamStatus)
  | externalLatency (value : ExternalLatency)
  | positionUpdate (value : PositionUpdate) (isLast : Bool)
  | response (value : Response)
  | orderUpdate (response : Response) (value : OrderUpdate)
  | tradeUpdate (value : TradeUpdate) (userId : ℕ)
  | cancelAllOrdersAck (value : CancelAllOrdersAck)
  | closed
  /-- The order action has returned its stream id. -/
  | returned (streamId : UInt16)
  | threw (exception : Exception)
  deriving DecidableEq

/-- The state a handler leaves behind, and its outputs. -/
abbrev Effect (D : Type) := OrderEntry D × List Output

variable {D : Type}

def Effect.andThen (r : Effect D) (f : OrderEntry D → Effect D) : Effect D :=
  ((f r.1).1, r.2 ++ (f r.1).2)

@[simp] theorem Effect.andThen_fst (r : Effect D) (f : OrderEntry D → Effect D) :
    (r.andThen f).1 = (f r.1).1 := rfl

@[simp] theorem Effect.andThen_snd (r : Effect D) (f : OrderEntry D → Effect D) :
    (r.andThen f).2 = r.2 ++ (f r.1).2 := rfl

/-- `OrderEntry::ready` -/
def ready (o : OrderEntry D) : Bool := o.connectionStatus = .ready

def initial [Download2 D] : OrderEntry D :=
  { outbound := 0
    inbound := 0
    connectionStatus := .undefined
    ready_ := false
    nextHeartbeat := 0
    download := Download2.fresh
    lastLogonOrHeartbeat := 0
    msgSeqNumToRequestId := fun _ => none
    testDisconnectTime := 0
    testLogonTime := 0 }

variable (env : Env) (ctx : Context)

/-! ## Sending -/

/-- The number is taken before the connection is asked, and what it answers is ignored. -/
def send (message : Fix.Outbound) (o : OrderEntry D) : Effect D :=
  ({ o with outbound := o.outbound + 1 },
    [.sent (o.outbound + 1) message (ctx.queued (o.outbound + 1))])

/-- `operator()(Trace<ConnectionStatus>)` -/
def publish (connectionStatus : ConnectionStatus) (reason : String) (o : OrderEntry D) :
    Effect D :=
  ({ o with connectionStatus },
    [.streamStatus { streamId := env.streamId, account := env.account, connectionStatus, reason }])

def sendLogon (o : OrderEntry D) : Effect D :=
  let logon : Fix.Logon :=
    { heartBtInt := ((env.pingFreq.tdiv 1000000000) % 65536).toNat
      rawData := ctx.rawData
      username := env.accountKey
      password := env.createPassword ctx.rawData
      cancelOnDisconnect := env.cancelOnDisconnect }
  (send ctx (.logon logon) o).andThen fun o => ({ o with lastLogonOrHeartbeat := ctx.now }, [])

def sendTestRequest (o : OrderEntry D) : Effect D :=
  (send ctx (.testRequest (env.toString ctx.now)) o).andThen fun o =>
    (if o.lastLogonOrHeartbeat = 0 then { o with lastLogonOrHeartbeat := ctx.now } else o, [])

/-- `Shared::next_request_id` -/
def Context.nextRequestId : String := "roq-" ++ toString (ctx.requestId + 1).toNat

def subscribePositions : OrderEntry D → Effect D :=
  send ctx (.requestForPositions ctx.nextRequestId)

def downloadOrders : OrderEntry D → Effect D :=
  send ctx (.orderMassStatusRequest ctx.nextRequestId)

/-! ## Timer and connection -/

def timer (now : ℤ) (o : OrderEntry D) : Effect D :=
  if ctx.refreshed then
    if o.lastLogonOrHeartbeat ≠ 0 ∧ env.requestTimeout ≠ 0 ∧
        env.requestTimeout < now - o.lastLogonOrHeartbeat then
      (o, [.closed])
    else if o.ready_ then
      if o.testDisconnectTime ≠ 0 ∧ o.testDisconnectTime < now then
        (o, if env.testOrderDisconnect ≠ 0 then [.closed] else [])
      else if o.nextHeartbeat ≤ now then
        sendTestRequest env ctx { o with nextHeartbeat := now + env.pingFreq }
      else (o, [])
    else if o.testLogonTime ≠ 0 ∧ o.testLogonTime < now then
      (sendLogon env ctx { o with testLogonTime := 0 }).andThen (publish env .loginSent "")
    else (o, [])
  else (o, [])

def connected (o : OrderEntry D) : Effect D :=
  ({ o with
      testLogonTime := ctx.now + env.testOrderLogon
      testDisconnectTime :=
        if env.testOrderDisconnect ≠ 0 then ctx.now + env.testOrderDisconnect
        else o.testDisconnectTime }, [])

/-- `msg_seq_num_to_request_id_` is not cleared. -/
def disconnected [Download2 D] (o : OrderEntry D) : Effect D :=
  (publish env .disconnected ""
    { o with outbound := 0, inbound := 0, ready_ := false, nextHeartbeat := 0 }).andThen fun o =>
      ({ o with
          download := Download2.reset o.download
          lastLogonOrHeartbeat := 0
          testLogonTime := 0
          testDisconnectTime := 0 }, [])

/-! ## Order actions -/

/-- `protocol::fix::map` of execution instructions -/
def mapExecutionInstructions (executionInstructions : List ExecutionInstruction) :
    Except Exception String :=
  if executionInstructions.isEmpty then .ok ""
  else if .participateDoNotInitiate ∈ executionInstructions then .ok "6"
  else if .doNotIncrease ∈ executionInstructions then .ok "E"
  else .error (.runtimeError "Not a supported execution instruction")

/-- `emplace` keeps an entry that is there. -/
def emplace (map : ℕ → Option String) (msgSeqNum : ℕ) (requestId : String) : ℕ → Option String :=
  Function.update map msgSeqNum (some ((map msgSeqNum).getD requestId))

/-- How the three actions on one order end: send, remember the number, return. -/
def forward (message : Fix.Outbound) (requestId : String) (o : OrderEntry D) : Effect D :=
  (send ctx message o).andThen fun o =>
    ({ o with msgSeqNumToRequestId := emplace o.msgSeqNumToRequestId o.outbound requestId },
      [.returned env.streamId])

def createOrder (createOrder : CreateOrder) (refData : RefData) (requestId : String)
    (o : OrderEntry D) : Except Exception (Effect D) :=
  if !o.ready then .error (.notReady "not ready")
  else if createOrder.stopPrice.isSome then .error (.runtimeError "stop_price not supported")
  else if createOrder.maxShowQuantity.isSome then
    .error (.runtimeError "max_show_quantity not supported")
  else (mapExecutionInstructions createOrder.executionInstructions).map fun execInst =>
    let newOrderSingle : Fix.NewOrderSingle :=
      { clOrdId := requestId
        side := env.mapSide createOrder.side
        orderQty := ⟨createOrder.quantity, refData.quantityPrecision⟩
        price := ⟨createOrder.price, refData.pricePrecision⟩
        symbol := createOrder.symbol
        execInst
        ordType := env.mapOrderType createOrder.orderType
        timeInForce := env.mapTimeInForce createOrder.timeInForce
        stopPx := ⟨createOrder.stopPrice, refData.pricePrecision⟩
        deribitLabel := requestId }
    forward env ctx (.newOrderSingle newOrderSingle) requestId o

def modifyOrder (modifyOrder : ModifyOrder) (order : Order) (refData : RefData)
    (requestId : String) (o : OrderEntry D) : Except Exception (Effect D) :=
  if !o.ready then .error (.notReady "not ready")
  else
    let orderCancelReplaceRequest : Fix.OrderCancelReplaceRequest :=
      { deribitLabel := order.clientOrderId
        symbol := order.symbol
        side := env.mapSide order.side
        orderQty := ⟨modifyOrder.quantity, refData.quantityPrecision⟩
        ordType := env.mapOrderType order.orderType
        price := ⟨modifyOrder.price, refData.pricePrecision⟩ }
    .ok (forward env ctx (.orderCancelReplaceRequest orderCancelReplaceRequest) requestId o)

def cancelOrder (order : Order) (requestId : String) (o : OrderEntry D) :
    Except Exception (Effect D) :=
  if !o.ready then .error (.notReady "not ready")
  else
    let orderCancelRequest : Fix.OrderCancelRequest :=
      { deribitLabel := order.clientOrderId, symbol := order.symbol }
    .ok (forward env ctx (.orderCancelRequest orderCancelRequest) requestId o)

def massCancelRequestType (filter : List Filter) : Except Exception Fix.MassCancelRequestType :=
  if filter.isEmpty then .ok .cancelAllOrders
  else if .symbol ∈ filter ∧ ∀ flag ∈ filter, flag = .exchange ∨ flag = .symbol then
    .ok .cancelOrdersForSecurity
  else .error (.rejected .gateway .invalidFilter "filter")

def cancelAllOrders (cancelAllOrders : CancelAllOrders) (requestId : String)
    (o : OrderEntry D) : Except Exception (Effect D) :=
  if !o.ready then .error (.notReady "not ready")
  else
    let filter := (env.createFilter cancelAllOrders).filter (· ≠ .account)
    (massCancelRequestType filter).map fun massCancelRequestType =>
      let orderMassCancelRequest : Fix.OrderMassCancelRequest :=
        { clOrdId := requestId, massCancelRequestType, symbol := cancelAllOrders.symbol }
      let ack : CancelAllOrdersAck :=
        { streamId := env.streamId
          account := env.account
          orderId := cancelAllOrders.orderId
          exchange := cancelAllOrders.exchange
          symbol := cancelAllOrders.symbol
          side := cancelAllOrders.side
          origin := .gateway
          requestStatus := .forwarded
          text := ""
          requestId
          numberOfAffectedOrders := 0
          strategyId := cancelAllOrders.strategyId }
      (send ctx (.orderMassCancelRequest orderMassCancelRequest) o).andThen fun o =>
        (o, [.cancelAllOrdersAck ack, .returned env.streamId])

/-! ## Download -/

/-- What `OrderEntry::download` returns. The header report replaces the count of orders. -/
def downloadCount : State → ℤ
  | .positions => 1
  | .orders => 1
  | .undefined => 0
  | .done => 0

/-- What `OrderEntry::download` does. -/
def downloadState (o : OrderEntry D) : State → Effect D
  | .undefined => (o, [])
  | .positions =>
    (publish env .downloading State.positions.name o).andThen (subscribePositions ctx)
  | .orders => (publish env .downloading State.orders.name o).andThen (downloadOrders ctx)
  | .done => (publish env .ready "" o).andThen fun o => ({ o with ready_ := true }, [])

/-- How many request ids `OrderEntry::download` draws. -/
def requestsOf : State → UInt32
  | .positions => 1
  | .orders => 1
  | .undefined => 0
  | .done => 0

/-- The states are entered one after the other, and each goes on from the last request id. -/
def enter (env : Env) : Context → List State → OrderEntry D → Effect D
  | _, [], o => (o, [])
  | ctx, s :: states, o =>
    (downloadState env ctx o s).andThen
      (enter env { ctx with requestId := ctx.requestId + requestsOf s } states)

/-- `download_` has moved. -/
def advance (r : D × List State) (o : OrderEntry D) : Effect D :=
  enter env ctx r.2 { o with download := r.1 }

/-! ## Inbound messages -/

variable [Download2 D]

/-- `none`: the test request id could not be parsed. -/
def heartbeat (testReqId : String) (o : OrderEntry D) : Option (Effect D) :=
  let o := { o with lastLogonOrHeartbeat := 0 }
  if testReqId = "" then some (o, [])
  else (env.fromChars testReqId).map fun sendTime =>
    let latency := (ctx.now - (sendTime : ℤ).bmod 18446744073709551616).tdiv 2
    (o, [.externalLatency { streamId := env.streamId, account := env.account, latency }])

def logon (o : OrderEntry D) : Effect D :=
  advance env ctx (Download2.begin downloadCount o.download) { o with lastLogonOrHeartbeat := 0 }

def logout (o : OrderEntry D) : Effect D :=
  (send ctx (.logout "LOGOUT") { o with ready_ := false }).andThen fun o => (o, [.closed])

def positionUpdates : List Fix.PositionQty → List Output
  | [] => []
  | position :: positions =>
    .positionUpdate
      { streamId := env.streamId
        account := env.account
        exchange := env.exchange
        symbol := position.symbol
        longQuantity := position.longQty.maxZero
        shortQuantity := position.shortQty.maxZero
        updateType := .incremental } positions.isEmpty :: positionUpdates positions

def positionReport (noPositions : List Fix.PositionQty) (o : OrderEntry D) : Effect D :=
  Effect.andThen (o, positionUpdates env noPositions)
    (advance env ctx (Download2.checkRelaxed downloadCount o.download .positions))

/-- `protocol::fix::map_error` -/
def mapError (value : String) : Error :=
  if value = "" then .unknown
  else if env.hash value = env.hash "already_cancelled" then .tooLateToModifyOrCancel
  else if env.hash value = env.hash "canceled" then .undefined
  else if env.hash value = env.hash "not_found" then .tooLateToModifyOrCancel
  else if env.hash value = env.hash "rejected: order is closed" then .tooLateToModifyOrCancel
  else if env.hash value = env.hash "rejected: settlement_in_progress" then .settlementInProgress
  else if env.hash value = env.hash "success" then .undefined
  else .unknown

/-- `protocol::fix::reject_to_error` -/
def rejectToError (reason text : String) : Error :=
  if reason = "" ∧ text = "rate_limit_exceeded" then .requestRateLimitReached else .undefined

/-- Every branch of the source answers no type: create, modify and cancel look alike here. -/
def computeRequestType (_ : Fix.ExecType) (_ : Fix.OrdStatus) : RequestType := .undefined

def computeRequestStatus : Fix.ExecType → Fix.OrdStatus → RequestStatus
  | .rejected, _ => .rejected
  | .canceled, _ => .accepted
  | .orderStatus, .new => .accepted
  | .orderStatus, .partiallyFilled => .accepted
  | .orderStatus, .filled => .accepted
  | .orderStatus, .canceled => .accepted
  | _, _ => .undefined

def findLiquidityIndLoop :
    List Fix.Fill → Fix.FillLiquidityInd → Bool → Fix.FillLiquidityInd
  | [], result, _ => result
  | item :: fills, result, found =>
    if item.fillLiquidityInd ≠ .undefined then
      if !found then findLiquidityIndLoop fills item.fillLiquidityInd true
      else if item.fillLiquidityInd ≠ result then .undefined
      else findLiquidityIndLoop fills result found
    else findLiquidityIndLoop fills result found

def findLiquidityInd (fills : List Fix.Fill) : Fix.FillLiquidityInd :=
  findLiquidityIndLoop fills .undefined false

def computeLastTraded (lastTradedQuantity lastTradedPrice : Double) (fills : List Fix.Fill) :
    Double × Double :=
  if fills.isEmpty then (lastTradedQuantity, lastTradedPrice)
  else
    let sums := fills.foldl
      (fun sums item =>
        (Double.add sums.1 item.fillQty, Double.add sums.2 (Double.mul item.fillQty item.fillPx)))
      ((some 0, some 0) : Double × Double)
    (sums.1, if env.isZero sums.1 then none else Double.div sums.2 sums.1)

/-- Reports name an order by its label, or else by the original id. -/
def clientOrderId (deribitLabel origClOrdId : String) : String :=
  if deribitLabel = "" then origClOrdId else deribitLabel

def updateType (o : OrderEntry D) : UpdateType :=
  if Download2.state o.download ≠ .orders then .incremental else .snapshot

def timeInForce : UpdateType → TimeInForce
  | .snapshot => .gtc
  | _ => .undefined

def executionResponse (r : Fix.ExecutionReport) : Response :=
  { requestType := computeRequestType r.execType r.ordStatus
    origin := .exchange
    requestStatus := computeRequestStatus r.execType r.ordStatus
    error := mapError env r.text
    text := r.text
    requestId := ""
    externalOrderId := r.orderId
    clientOrderId := clientOrderId r.deribitLabel r.origClOrdId
    quantity := r.orderQty
    price := r.price }

def executionOrderUpdate (header : Fix.Header) (r : Fix.ExecutionReport) (o : OrderEntry D) :
    OrderUpdate :=
  let lastTraded := computeLastTraded env r.lastQty r.lastPx r.noFills
  { account := env.account
    exchange := env.exchange
    symbol := r.symbol
    side := env.sideOf r.side
    maxShowQuantity := r.maxShow
    orderType := env.orderTypeOf r.ordType
    timeInForce := timeInForce o.updateType
    updateTimeUtc := r.transactTime
    externalOrderId := r.orderId
    clientOrderId := clientOrderId r.deribitLabel r.origClOrdId
    orderStatus := env.orderStatusOf r.ordStatus
    quantity := r.orderQty
    price := r.price
    stopPrice := r.stopPx
    remainingQuantity := r.leavesQty
    tradedQuantity := r.cumQty
    averageTradedPrice := if r.cumQty.isNone || env.isZero r.cumQty then none else r.avgPx
    lastTradedQuantity := lastTraded.1
    lastTradedPrice := lastTraded.2
    lastLiquidity := env.liquidityOf (findLiquidityInd r.noFills)
    updateType := o.updateType
    sendingTimeUtc := header.sendingTime }

def executionFill (r : Fix.ExecutionReport) (item : Fix.Fill) : Fill :=
  { exchangeTimeUtc := r.transactTime
    externalTradeId := item.fillExecId
    quantity := item.fillQty
    price := item.fillPx
    liquidity := env.liquidityOf item.fillLiquidityInd
    profitLossAmount :=
      env.computeProfitLossAmount (env.sideOf r.side) item.fillQty item.fillPx ctx.multiplier }

def executionTradeUpdate (header : Fix.Header) (r : Fix.ExecutionReport) (o : OrderEntry D) :
    TradeUpdate :=
  { streamId := env.streamId
    account := env.account
    orderId := (ctx.order.map (·.orderId)).getD env.orderIdNone
    exchange := env.exchange
    symbol := r.symbol
    side := env.sideOf r.side
    createTimeUtc := r.transactTime
    updateTimeUtc := r.transactTime
    externalOrderId := r.orderId
    clientOrderId := clientOrderId r.deribitLabel r.origClOrdId
    fills := r.noFills.map (executionFill env ctx r)
    updateType := o.updateType
    sendingTimeUtc := header.sendingTime
    strategyId := (ctx.order.map (·.strategyId)).getD env.strategyIdNone }

/-- A partial fill can overlap a cancel request (#143): the report of the cancel is dropped. -/
def dropped (r : Fix.ExecutionReport) : Bool :=
  !env.disableDeribit143 && r.execType = .canceled && r.ordStatus = .canceled

/-- What an ordinary report that is not dropped publishes. -/
def executionOutputs (header : Fix.Header) (r : Fix.ExecutionReport) (o : OrderEntry D) :
    List Output :=
  .orderUpdate (executionResponse env r) (executionOrderUpdate env header r o) ::
    if r.noFills.isEmpty then []
    else [.tradeUpdate (executionTradeUpdate env ctx header r o)
      ((ctx.order.map (·.userId)).getD env.sourceNone)]

/-- `none`: `log::fatal`. -/
def executionReport (header : Fix.Header) (r : Fix.ExecutionReport) (o : OrderEntry D) :
    Option (Effect D) :=
  match r.massStatusReqType with
  | .undefined =>
    if dropped env r then some (o, [])
    else some (Effect.andThen (o, executionOutputs env ctx header r o)
      (advance env ctx (Download2.checkRelaxed downloadCount o.download .orders)))
  | .orders =>
    -- the header of the download, not an ordinary report
    some (advance env ctx
      (Download2.update downloadCount o.download .orders r.totNumReports) o)
  | .other => none

def orderCancelReject (r : Fix.OrderCancelReject) (o : OrderEntry D) : Effect D :=
  (o, [.response
    { requestType := .undefined
      origin := .exchange
      requestStatus := .rejected
      error := mapError env r.text
      text := r.text
      requestId := ""
      externalOrderId := ""
      clientOrderId := clientOrderId r.deribitLabel r.origClOrdId
      quantity := none
      price := none }])

def messageTypeToRequestType : Fix.MsgType → RequestType
  | .newOrderSingle => .createOrder
  | .orderCancelReplaceRequest => .modifyOrder
  | .orderCancelRequest => .cancelOrder
  | _ => .undefined

/-- `none`: `log::fatal`. -/
def reject (r : Fix.Reject) (o : OrderEntry D) : Option (Effect D) :=
  let requestType := messageTypeToRequestType r.refMsgType
  if requestType ≠ .undefined then
    match o.msgSeqNumToRequestId r.refSeqNum with
    | some requestId =>
      some (o, [.response
        { requestType
          origin := .exchange
          requestStatus := .rejected
          error := rejectToError r.sessionRejectReason r.text
          text := r.text
          requestId
          externalOrderId := ""
          clientOrderId := ""
          quantity := none
          price := none }])
    | none => some (o, [])
  else if r.sessionRejectReason = "99" ∧ r.text = "connection_too_slow" then
    some (o, [.closed])
  else if r.refMsgType = .orderMassCancelRequest ∧ r.text = "rate_limit_exceeded" then
    some (o, [.closed])
  else none

def orderMassCancelReport (r : Fix.OrderMassCancelReport) (o : OrderEntry D) : Effect D :=
  (o, [.cancelAllOrdersAck
    { streamId := env.streamId
      account := env.account
      orderId := 0
      exchange := ""
      symbol := ""
      side := .undefined
      origin := .exchange
      requestStatus :=
        if r.massCancelResponse = .cancelRequestRejected then .rejected else .accepted
      text := r.text
      requestId := r.clOrdId
      numberOfAffectedOrders := r.totalAffectedOrders
      strategyId := 0 }])

/-- A gap or a replay is only logged. -/
def check (header : Fix.Header) (o : OrderEntry D) : OrderEntry D :=
  { o with inbound := header.msgSeqNum }

/-! ## Steps -/

/-- The process goes on. -/
def goesOn (r : Effect D) : Option (OrderEntry D) × List Output := (some r.1, r.2)

/-- `log::fatal` ends the process. -/
def orFatal : Option (Effect D) → Option (OrderEntry D) × List Output
  | some r => goesOn r
  | none => (none, [])

/-- An exception leaves the action, and the state as it was. -/
def orThrow (o : OrderEntry D) :
    Except Exception (Effect D) → Option (OrderEntry D) × List Output
  | .ok r => goesOn r
  | .error e => (some o, [.threw e])

def parseHelper (header : Fix.Header) (o : OrderEntry D) :
    Fix.Inbound → Option (OrderEntry D) × List Output
  | .heartbeat testReqId =>
    match heartbeat env ctx testReqId o with
    | some r => goesOn r
    | none =>
      if env.continueFromParseException then (some { o with lastLogonOrHeartbeat := 0 }, [])
      else (none, [])
  | .logon => goesOn (logon env ctx o)
  | .logout => goesOn (logout ctx o)
  | .resendRequest => (some o, [.closed])
  | .testRequest testReqId => goesOn (send ctx (.heartbeat testReqId) o)
  | .positionReport noPositions => goesOn (positionReport env ctx noPositions o)
  | .executionReport r => orFatal (executionReport env ctx header r o)
  | .orderCancelReject r => goesOn (orderCancelReject env r o)
  | .reject r => orFatal (reject r o)
  | .orderMassCancelReport r => goesOn (orderMassCancelReport env r o)
  | .other _ => (some o, [])

/-- One call of the stream by the process. -/
def step : Transducer.Step (OrderEntry D) (Context × Event) Output := fun o (ctx, event) =>
  match event with
  | .timer now => goesOn (timer env ctx now o)
  | .createOrder value refData requestId =>
    orThrow o (createOrder env ctx value refData requestId o)
  | .modifyOrder value order refData requestId =>
    orThrow o (modifyOrder env ctx value order refData requestId o)
  | .cancelOrder order requestId => orThrow o (cancelOrder env ctx order requestId o)
  | .cancelAllOrders value requestId => orThrow o (cancelAllOrders env ctx value requestId o)
  | .connected => goesOn (connected env ctx o)
  | .disconnected => goesOn (disconnected env o)
  | .message header value => parseHelper env ctx header (check header o) value

/-! ## A session -/

/-- FNV-1a of 64 bits -/
def fnv (value : String) : UInt64 :=
  value.toUTF8.data.foldl (fun key byte => (key ^^^ byte.toUInt64) * 1099511628211)
    14695981039346656037

/-- The default settings, without tests or timeouts. -/
def Env.plain : Env where
  exchange := "deribit"
  account := "A1"
  accountKey := "key"
  streamId := 1
  disableDeribit143 := false
  cancelOnDisconnect := true
  continueFromParseException := false
  requestTimeout := 0
  pingFreq := 30000000000
  testOrderLogon := 0
  testOrderDisconnect := 0
  createPassword := id
  isZero x := x = some 0
  hash := fnv
  toString := Int.repr
  fromChars := String.toNat?
  createFilter c :=
    (if c.account = "" then [] else [.account]) ++ (if c.orderId = 0 then [] else [.orderId]) ++
      (if c.exchange = "" then [] else [.exchange]) ++ (if c.symbol = "" then [] else [.symbol]) ++
      (if c.side = .undefined then [] else [.side]) ++
      (if c.strategyId = 0 then [] else [.strategyId])
  computeProfitLossAmount
    | .buy, quantity, price, multiplier => (quantity.mul (price.mul multiplier)).map (-·)
    | _, quantity, price, multiplier => quantity.mul (price.mul multiplier)
  mapSide
    | .undefined => .undefined
    | .buy => .buy
    | .sell => .sell
  mapOrderType
    | .undefined => .undefined
    | .market => .market
    | .limit => .limit
  mapTimeInForce
    | .gfd => .day
    | .gtc => .gtc
    | .ioc => .ioc
    | .fok => .fok
    | _ => .undefined
  sideOf
    | .buy => .buy
    | .sell => .sell
    | _ => .undefined
  orderTypeOf
    | .market => .market
    | .limit => .limit
    | _ => .undefined
  orderStatusOf
    | .new => .working
    | .partiallyFilled => .working
    | .filled => .completed
    | .canceled => .canceled
    | .rejected => .rejected
    | .expired => .expired
    | _ => .undefined
  liquidityOf
    | .addedLiquidity => .maker
    | .removedLiquidity => .taker
    | _ => .undefined
  sourceNone := 0
  orderIdNone := 0
  strategyIdNone := 0

/-- A connection that takes every message. -/
def Context.plain : Context where
  now := 1
  refreshed := true
  queued _ := true
  requestId := 0
  order := none
  multiplier := some 1
  rawData := ""

def plainOrder : Order :=
  { userId := 1, orderId := 1, strategyId := 0, clientOrderId := "a", symbol := "BTC-PERPETUAL",
    side := .buy, orderType := .limit }

def plainReport : Fix.ExecutionReport where
  massStatusReqType := .undefined
  totNumReports := 0
  execType := .orderStatus
  ordStatus := .new
  deribitLabel := "a"
  origClOrdId := ""
  orderId := "1"
  symbol := "BTC-PERPETUAL"
  side := .buy
  ordType := .limit
  orderQty := some 2
  price := some 100
  stopPx := none
  maxShow := none
  leavesQty := some 2
  cumQty := some 0
  avgPx := none
  lastQty := none
  lastPx := none
  text := ""
  transactTime := 1
  noFills := []

/-- The header of an order download. -/
def downloadHeader (totNumReports : ℕ) : Fix.ExecutionReport :=
  { plainReport with massStatusReqType := .orders, totNumReports, text := "total_reports" }

/-- Connect, log on, and download the positions. -/
def logOn : List Event :=
  [.connected, .timer 2, .message ⟨1, 1⟩ .logon, .message ⟨2, 1⟩ (.positionReport [])]

/-- Log on, and download no orders. -/
def openSession : List Event :=
  logOn ++ [.message ⟨3, 1⟩ (.executionReport (downloadHeader 0))]

end OrderEntry

end DeribitGateway
