import Mathlib.Algebra.Order.Ring.Unbundled.Rat

/-!
# The trading API

The enumerations of the API that both the multicast and the FIX streams report in, with the
values the gateway or its mappings use, and the numbers they carry.

A double of a FIX message may be missing, and is `NaN` then: `Double` is an exact rational or
`none`, and arithmetic with `none` gives `none`, as it does with `NaN`.
-/

namespace DeribitGateway

inductive Side
  | undefined
  | buy
  | sell
  deriving DecidableEq, Repr

inductive UpdateType
  | undefined
  | snapshot
  | incremental
  | stale
  deriving DecidableEq, Repr

inductive ConnectionStatus
  | undefined
  | disconnected
  | connecting
  | loginSent
  | downloading
  | ready
  | loggedOut
  deriving DecidableEq, Repr

inductive OrderType
  | undefined
  | market
  | limit
  deriving DecidableEq, Repr

inductive TimeInForce
  | undefined
  | gfd
  | gtc
  | ioc
  | fok
  | gtx
  | gtd
  deriving DecidableEq, Repr

inductive ExecutionInstruction
  | undefined
  | participateDoNotInitiate
  | cancelIfNotBest
  | doNotIncrease
  | doNotReduce
  deriving DecidableEq, Repr

inductive OrderStatus
  | undefined
  | sent
  | accepted
  | suspended
  | working
  | stopped
  | completed
  | expired
  | canceled
  | rejected
  deriving DecidableEq, Repr

inductive Liquidity
  | undefined
  | maker
  | taker
  deriving DecidableEq, Repr

inductive RequestType
  | undefined
  | createOrder
  | modifyOrder
  | cancelOrder
  deriving DecidableEq, Repr

inductive RequestStatus
  | undefined
  | forwarded
  | accepted
  | rejected
  deriving DecidableEq, Repr

inductive Origin
  | undefined
  | gateway
  | exchange
  deriving DecidableEq, Repr

inductive Error
  | undefined
  | unknown
  | tooLateToModifyOrCancel
  | settlementInProgress
  | requestRateLimitReached
  | invalidFilter
  deriving DecidableEq, Repr

/-! ## Doubles -/

abbrev Double := Option ℚ

namespace Double

def add (x y : Double) : Double := x.bind fun a => y.map (a + ·)

def mul (x y : Double) : Double := x.bind fun a => y.map (a * ·)

def div (x y : Double) : Double := x.bind fun a => y.map (a / ·)

/-- `std::max(0.0, x)`, which is zero for `NaN`. -/
def maxZero (x : Double) : ℚ := max 0 (x.getD 0)

end Double

/-- A double and the number of decimals it is printed with. -/
structure Decimal where
  value : Double
  precision : ℕ
  deriving DecidableEq

end DeribitGateway
