import DeribitGateway.Api

/-!
# Multicast messages

What the SBE decoder hands to the gateway (`protocol/sbe/frame.hpp` and the generated
messages of the `deribit.sbe.multicast` schema, restricted to the fields the handlers read)
and what the gateway hands on (the `roq` update types it fills in).

Doubles are exact rationals; a field the code sets to `NaN` is an `Option`, `none` for
`NaN`. Fields of an update that the code leaves at their defaults (`= {}`) are left out. The
exchange's times are unsigned and become `std::chrono::milliseconds`, whose count is signed.
-/

namespace DeribitGateway

/-! ## The exchange's side -/

/-- The 8-byte header of every datagram. -/
structure Frame where
  packetLength : UInt16
  channelId : UInt16
  sequenceNumber : UInt32
  deriving DecidableEq, Repr

inductive YesNo
  | no
  | yes
  | nullValue
  deriving DecidableEq, Repr

/-- The enumerators are 0, 1 and 255: in a condition only `no` is false. -/
def YesNo.toBool : YesNo → Bool
  | no => false
  | yes => true
  | nullValue => true

inductive BookSide
  | ask
  | bid
  | nullValue
  deriving DecidableEq, Repr

inductive Direction
  | buy
  | sell
  | nullValue
  deriving DecidableEq, Repr

/-- An item of `Book.changesList` and of `Snapshot.levelsList`. -/
structure Level where
  side : BookSide
  price : ℚ
  amount : ℚ
  deriving DecidableEq

namespace Sbe

structure Instrument where
  instrumentId : UInt32
  contractSize : ℚ
  instrumentName : String
  deriving DecidableEq

structure Book where
  instrumentId : UInt32
  timestampMs : UInt64
  prevChangeId : UInt64
  changeId : UInt64
  isLast : YesNo
  changesList : List Level
  deriving DecidableEq

structure TradeItem where
  direction : Direction
  price : ℚ
  amount : ℚ
  timestampMs : UInt64
  tradeId : UInt64
  deriving DecidableEq

structure Trades where
  instrumentId : UInt32
  tradesList : List TradeItem
  deriving DecidableEq

structure Ticker where
  instrumentId : UInt32
  timestampMs : UInt64
  bestBidPrice : ℚ
  bestBidAmount : ℚ
  bestAskPrice : ℚ
  bestAskAmount : ℚ
  deriving DecidableEq

structure Snapshot where
  instrumentId : UInt32
  timestampMs : UInt64
  changeId : UInt64
  isLastInBook : YesNo
  levelsList : List Level
  deriving DecidableEq

end Sbe

/-- One message of a datagram, by template (1000 to 1010). The templates whose content no
    handler looks at carry none. -/
inductive Message
  | instrument (value : Sbe.Instrument)
  | book (value : Sbe.Book)
  | trades (value : Sbe.Trades)
  | ticker (value : Sbe.Ticker)
  | snapshot (value : Sbe.Snapshot)
  | snapshotStart
  | snapshotEnd
  | comboLegs
  | priceIndex
  | rfq
  | instrumentV2
  deriving DecidableEq

/-- A datagram: the frame and the messages behind it. -/
structure Packet where
  frame : Frame
  messages : List Message
  deriving DecidableEq

/-! ## The gateway's side -/

/-- `map(BookSide)` -/
def BookSide.map : BookSide → Side
  | ask => .sell
  | bid => .buy
  | nullValue => .undefined

/-- `map(Direction)` -/
def Direction.map : Direction → Side
  | buy => .buy
  | sell => .sell
  | nullValue => .undefined

structure MBPUpdate where
  price : ℚ
  quantity : ℚ
  impliedQuantity : Option ℚ
  deriving DecidableEq

structure MarketByPriceUpdate where
  streamId : UInt16
  exchange : String
  symbol : String
  bids : List MBPUpdate
  asks : List MBPUpdate
  updateType : UpdateType
  exchangeTimeUtc : Int64
  exchangeSequence : UInt64
  deriving DecidableEq

structure Trade where
  side : Side
  price : ℚ
  quantity : ℚ
  tradeId : String
  deriving DecidableEq

structure TradeSummary where
  streamId : UInt16
  exchange : String
  symbol : String
  trades : List Trade
  exchangeTimeUtc : Int64
  deriving DecidableEq

structure TopOfBook where
  streamId : UInt16
  exchange : String
  symbol : String
  bidPrice : ℚ
  bidQuantity : ℚ
  askPrice : ℚ
  askQuantity : ℚ
  updateType : UpdateType
  exchangeTimeUtc : Int64
  deriving DecidableEq

end DeribitGateway
