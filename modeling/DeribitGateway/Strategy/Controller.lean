import DeribitGateway.Api
import DeribitGateway.Lib.Transducer
import Mathlib.Tactic.Linarith

/-!
# The strategy

`strategy/controller.cpp`: a client of the gateway that runs in its process. When the gateway is
ready it creates one order, waits for the order to work, cancels it, and stops. The controllers
of `bridge` and `fix_bridge` have the same states and do the same; only the way they are told of
events differs.

A step is one call of the controller by its loop: `refresh`, or one event of the dispatcher. The
assertions of the source are not part of the steps. `Expected` is what the one of `Ready` says,
and what those of the two orders rely on; that a new state is not the old one, which is asserted
wherever the state changes, does not follow from it, since a request may fail when the controller
is done.
-/

namespace DeribitGateway

namespace Strategy

open Transducer

/-- `Controller::State` -/
inductive State
  | undefined
  | ready
  | createOrder
  | waitingCreate
  | working
  | cancelOrder
  | waitingCancel
  | done
  deriving DecidableEq, Repr

/-- The order that is created, as far as it is not left at its defaults. -/
structure CreateOrder where
  account : String
  orderId : UInt64
  exchange : String
  symbol : String
  side : Side
  orderType : OrderType
  timeInForce : TimeInForce
  maxShowQuantity : Double
  quantity : Double
  price : Double
  stopPrice : Double
  leverage : Double
  deriving DecidableEq

structure CancelOrder where
  account : String
  orderId : UInt64
  deriving DecidableEq

structure Env where
  /-- `utils::has_request_maybe_completed` -/
  hasRequestMaybeCompleted : RequestStatus → Bool
  /-- `utils::has_request_failed` -/
  hasRequestFailed : RequestStatus → Bool

structure Context where
  /-- `clock::get_system`, when the state changes. -/
  clock : ℤ
  /-- `send` returns; otherwise it throws, which ends the process. -/
  sends : Bool

inductive Event
  | refresh (now : ℤ)
  | downloadEnd (maxOrderId : UInt64)
  | ready
  | orderAck (requestType : RequestType) (requestStatus : RequestStatus)
  | signal
  /-- An event that nothing is done for. -/
  | other
  deriving DecidableEq

inductive Output
  | createOrder (value : CreateOrder)
  | cancelOrder (value : CancelOrder)
  | stop
  deriving DecidableEq

end Strategy

structure Strategy where
  state : Strategy.State
  nextUpdate : ℤ
  maxOrderId : UInt64
  orderId : UInt64
  deriving DecidableEq

namespace Strategy

open Transducer

def initial : Strategy := { state := .undefined, nextUpdate := 0, maxOrderId := 0, orderId := 0 }

/-- `WAIT_THIS_LONG_BEFORE_NEXT_STATE_CHANGE` -/
def waitThisLong : ℤ := 3000000000

/-- `operator()(State)` -/
def enter (ctx : Context) (state : State) (s : Strategy) : Strategy :=
  { s with state, nextUpdate := ctx.clock + waitThisLong }

/-- The order that is created under an id. -/
def newOrder (orderId : UInt64) : CreateOrder :=
  { account := "A1"
    orderId
    exchange := "deribit"
    symbol := "BTC-PERPETUAL"
    side := .sell
    orderType := .limit
    timeInForce := .gtc
    maxShowQuantity := none
    quantity := some 1
    price := some 100000
    stopPrice := none
    leverage := none }

/-- `create_order` -/
def createOrder (ctx : Context) (s : Strategy) : Option Strategy × List Output :=
  let orderId := s.maxOrderId + 1
  if ctx.sends then
    (some { s with maxOrderId := orderId, orderId }, [.createOrder (newOrder orderId)])
  else (none, [])  -- log::fatal

/-- `cancel_order` -/
def cancelOrder (ctx : Context) (s : Strategy) : Option Strategy × List Output :=
  if ctx.sends then (some s, [.cancelOrder { account := "A1", orderId := s.orderId }])
  else (none, [])  -- log::fatal

/-- `refresh`: the state is changed before the order is sent. -/
def refresh (ctx : Context) (now : ℤ) (s : Strategy) : Option Strategy × List Output :=
  if now < s.nextUpdate then (some s, [])
  else
    match s.state with
    | .undefined => (some s, [])
    | .ready => (some (s.enter ctx .createOrder), [])
    | .createOrder => createOrder ctx (s.enter ctx .waitingCreate)
    | .waitingCreate => (some (s.enter ctx .done), [])
    | .working => (some (s.enter ctx .cancelOrder), [])
    | .cancelOrder => cancelOrder ctx (s.enter ctx .waitingCancel)
    | .waitingCancel => (some (s.enter ctx .done), [])
    | .done => (some s, [.stop])

/-- `operator()(Trace<DownloadEnd>)` -/
def downloadEnd (maxOrderId : UInt64) (s : Strategy) : Strategy :=
  if s.maxOrderId < maxOrderId then { s with maxOrderId } else s

/-- `operator()(Trace<OrderAck>)`. The order is not looked at. `none`: `log::fatal`. -/
def orderAck (env : Env) (ctx : Context) (requestType : RequestType)
    (requestStatus : RequestStatus) (s : Strategy) : Option Strategy :=
  if !env.hasRequestMaybeCompleted requestStatus then some s
  else if env.hasRequestFailed requestStatus then some (s.enter ctx .done)
  else
    match requestType with
    | .undefined => none
    | .createOrder => some (s.enter ctx .working)
    | .modifyOrder => none
    | .cancelOrder => some (s.enter ctx .done)

def step (env : Env) : Step Strategy (Context × Event) Output := fun s (ctx, event) =>
  match event with
  | .refresh now => refresh ctx now s
  | .downloadEnd maxOrderId => (some (downloadEnd maxOrderId s), [])
  | .ready => (some (s.enter ctx .ready), [])
  | .orderAck requestType requestStatus =>
    (orderAck env ctx requestType requestStatus s, [])
  | .signal => (some s, [.stop])
  | .other => (some s, [])

/-! ## One order -/

/-- The requests that have not been answered. -/
structure Ledger where
  creating : Bool
  canceling : Bool
  deriving DecidableEq

def Ledger.empty : Ledger := ⟨false, false⟩

/-- An acknowledgement that is final answers the request. -/
def Ledger.hear (env : Env) (l : Ledger) : Event → Ledger
  | .orderAck requestType requestStatus =>
    if env.hasRequestMaybeCompleted requestStatus then
      match requestType with
      | .createOrder => { l with creating := false }
      | .cancelOrder => { l with canceling := false }
      | _ => l
    else l
  | _ => l

def Ledger.record (l : Ledger) : Output → Ledger
  | .createOrder _ => { l with creating := true }
  | .cancelOrder _ => { l with canceling := true }
  | .stop => l

def Ledger.next (env : Env) (l : Ledger) (i : Context × Event) (os : List Output) : Ledger :=
  os.foldl record (l.hear env i.2)

/-- The gateway becomes ready once, as the source asserts, and a final acknowledgement answers a
    request that has been made and not been answered before. -/
def Expected (env : Env) (s : Strategy × Ledger) (i : Context × Event) : Prop :=
  match i.2 with
  | .ready => s.1.state = .undefined
  | .orderAck requestType requestStatus =>
    env.hasRequestMaybeCompleted requestStatus = true →
      requestType = .createOrder ∧ s.2.creating = true ∨
        requestType = .cancelOrder ∧ s.2.canceling = true
  | _ => True

instance (env : Env) : ∀ (s : Strategy × Ledger) (i : Context × Event), Decidable (Expected env s i)
  | s, (_, .ready) => inferInstanceAs (Decidable (s.1.state = .undefined))
  | s, (_, .orderAck requestType requestStatus) => inferInstanceAs (Decidable
      (env.hasRequestMaybeCompleted requestStatus = true →
        requestType = .createOrder ∧ s.2.creating = true ∨
          requestType = .cancelOrder ∧ s.2.canceling = true))
  | _, (_, .refresh _) => isTrue trivial
  | _, (_, .downloadEnd _) => isTrue trivial
  | _, (_, .signal) => isTrue trivial
  | _, (_, .other) => isTrue trivial

/-- What has been sent. -/
def orders (os : List Output) : List Output := os.filter (· ≠ .stop)

/-- Nothing, one order, or one order and its cancellation. -/
inductive OneOrder : List Output → Prop
  | nothing : OneOrder []
  | created (orderId : UInt64) : OneOrder [.createOrder (newOrder orderId)]
  | canceled (orderId : UInt64) :
      OneOrder [.createOrder (newOrder orderId), .cancelOrder { account := "A1", orderId }]

/-- How far the order has come, by the state, the ledger and what has been sent. -/
inductive Progress : Strategy × Ledger → List Output → Prop
  | nothing {s : Strategy}
      (hstate : s.state = .undefined ∨ s.state = .ready ∨ s.state = .createOrder) :
      Progress (s, ⟨false, false⟩) []
  | created {s : Strategy} {creating : Bool}
      (hstate : s.state = .waitingCreate ∨ s.state = .done) :
      Progress (s, ⟨creating, false⟩) [.createOrder (newOrder s.orderId)]
  | working {s : Strategy} (hstate : s.state = .working ∨ s.state = .cancelOrder) :
      Progress (s, ⟨false, false⟩) [.createOrder (newOrder s.orderId)]
  | canceled {s : Strategy} {canceling : Bool}
      (hstate : s.state = .waitingCancel ∨ s.state = .done) :
      Progress (s, ⟨false, canceling⟩)
        [.createOrder (newOrder s.orderId), .cancelOrder { account := "A1", orderId := s.orderId }]

theorem Progress.oneOrder {s : Strategy × Ledger} {os : List Output} (h : Progress s os) :
    OneOrder os := by
  cases h with
  | nothing _ => exact .nothing
  | created _ => exact .created _
  | working _ => exact .created _
  | canceled _ => exact .canceled _

/-- Changes of the ids known, and of the time of the next change, are no progress. -/
theorem Progress.congr {s s' : Strategy} {l : Ledger} {os : List Output} (h : Progress (s, l) os)
    (hstate : s'.state = s.state) (horderId : s'.orderId = s.orderId) :
    Progress (s', l) os := by
  cases h with
  | nothing h => exact .nothing (hstate ▸ h)
  | created h => exact horderId ▸ .created (hstate ▸ h)
  | working h => exact horderId ▸ .working (hstate ▸ h)
  | canceled h => exact horderId ▸ .canceled (hstate ▸ h)

/-- What a call does when it returns, and that it puts out nothing when it does not. -/
def Progresses (os : List Output) (l : Ledger) (r : Option Strategy × List Output) : Prop :=
  match r with
  | (some t, os') => Progress (t, os'.foldl Ledger.record l) (os ++ orders os')
  | (none, os') => os' = []

theorem Progress.stays {s : Strategy} {l : Ledger} {os : List Output} (h : Progress (s, l) os) :
    Progresses os l (some s, []) := by
  simpa only [Progresses, orders, List.filter_nil, List.append_nil, List.foldl_nil] using h

theorem Progress.refresh {ctx : Context} {now : ℤ} {s : Strategy} {l : Ledger}
    {os : List Output} (h : Progress (s, l) os) : Progresses os l (refresh ctx now s) := by
  unfold Strategy.refresh
  split_ifs with hnow
  · exact h.stays
  cases h with
  | nothing hstate =>
    obtain hstate | hstate | hstate := hstate
    · simp only [hstate]
      exact Progress.stays (.nothing (.inl hstate))
    · simp only [hstate]
      exact Progress.stays (.nothing (.inr (.inr rfl)))
    · simp only [hstate, createOrder]
      split_ifs
      · exact .created (.inl rfl)
      · rfl
  | created hstate =>
    obtain hstate | hstate := hstate
    · simp only [hstate]
      exact Progress.stays (.created (.inr rfl))
    · simp only [hstate]
      exact .created (.inr hstate)
  | working hstate =>
    obtain hstate | hstate := hstate
    · simp only [hstate]
      exact Progress.stays (.working (.inr rfl))
    · simp only [hstate, cancelOrder]
      split_ifs
      · exact .canceled (.inl rfl)
      · rfl
  | canceled hstate =>
    obtain hstate | hstate := hstate
    · simp only [hstate]
      exact Progress.stays (.canceled (.inr rfl))
    · simp only [hstate]
      exact .canceled (.inr hstate)

theorem Progress.orderAck {env : Env} {ctx : Context} {requestType : RequestType}
    {requestStatus : RequestStatus} {s : Strategy} {l : Ledger} {os : List Output}
    (h : Progress (s, l) os)
    (hexpected : Expected env (s, l) (ctx, .orderAck requestType requestStatus)) :
    Progresses os (l.hear env (.orderAck requestType requestStatus))
      (orderAck env ctx requestType requestStatus s, []) := by
  simp only [Expected] at hexpected
  simp only [Strategy.orderAck, Ledger.hear]
  by_cases hcompleted : env.hasRequestMaybeCompleted requestStatus = true
  · obtain ⟨rfl, hcreating⟩ | ⟨rfl, hcanceling⟩ := hexpected hcompleted
    · -- only an order that has been created can be acknowledged
      cases h with
      | created hstate =>
        simp only [hcompleted, if_true, Bool.not_true, Bool.false_eq_true, if_false]
        split_ifs
        · exact Progress.stays (.created (.inr rfl))
        · exact Progress.stays (.working (.inl rfl))
      | _ => cases hcreating
    · cases h with
      | canceled hstate =>
        simp only [hcompleted, if_true, Bool.not_true, Bool.false_eq_true, if_false]
        split_ifs
        · exact Progress.stays (.canceled (.inr rfl))
        · exact Progress.stays (.canceled (.inr rfl))
      | _ => cases hcanceling
  · simp only [hcompleted, Bool.not_false, if_true, Bool.false_eq_true, if_false]
    exact h.stays

/-- **The step lemma.** -/
theorem Progress.step {env : Env} {ctx : Context} {event : Event} {s : Strategy} {l : Ledger}
    {os : List Output} (h : Progress (s, l) os) (hexpected : Expected env (s, l) (ctx, event)) :
    Progresses os (l.hear env event) (step env s (ctx, event)) := by
  cases event with
  | refresh now => exact h.refresh
  | downloadEnd maxOrderId =>
    refine Progress.stays (h.congr ?_ ?_)
    · unfold downloadEnd
      split_ifs <;> rfl
    · unfold downloadEnd
      split_ifs <;> rfl
  | ready =>
    cases h with
    | nothing _ => exact Progress.stays (.nothing (.inr (.inl rfl)))
    | created hstate =>
      have hundefined : s.state = .undefined := hexpected
      simp [hundefined] at hstate
    | working hstate =>
      have hundefined : s.state = .undefined := hexpected
      simp [hundefined] at hstate
    | canceled hstate =>
      have hundefined : s.state = .undefined := hexpected
      simp [hundefined] at hstate
  | orderAck requestType requestStatus => exact h.orderAck hexpected
  | signal => exact h.stays
  | other => exact h.stays

/-- **At most one order is created, and at most one cancellation is sent, behind the order and
    for it**, in every run in which the gateway becomes ready once and answers each request at
    most once, however late: also when the request has timed out before. -/
theorem one_order_is_sent (env : Env) (is : List (Context × Event))
    (hexpected : Guarded (keeping (step env) (Ledger.next env)) (Expected env)
      (initial, .empty) is) : OneOrder (orders (run (step env) initial is).2) := by
  have hkeeping := congrArg Prod.snd (run_keeping (step env) (Ledger.next env) initial .empty is)
  rw [← hkeeping]
  have hinitial : Progress (initial, .empty) (orders []) := .nothing (.inl rfl)
  refine run_accumulates (I := fun s os => Progress s (orders os))
    (Q := fun os => OneOrder (orders os)) (fun s os h => h.oneOrder) ?_ hinitial hexpected
  rintro ⟨s, l⟩ os ⟨ctx, event⟩ h hi
  have hstep := h.step hi
  simp only [keeping, Ledger.next, orders, List.filter_append]
  rcases hr : step env s (ctx, event) with ⟨_ | t, os'⟩
  · rw [hr] at hstep
    obtain rfl : os' = [] := hstep
    constructor
    · rw [List.filter_nil, List.append_nil]
      exact h.oneOrder
    · intro t ht
      cases ht
  · rw [hr] at hstep
    have hprogress : Progress (t, os'.foldl Ledger.record (l.hear env event))
        (orders os ++ orders os') := hstep
    refine ⟨hprogress.oneOrder, ?_⟩
    intro t' ht
    obtain rfl := Option.some.inj ht
    exact hprogress

/-- What `utils` makes of the states of a request. -/
def Env.plain : Env where
  hasRequestMaybeCompleted
    | .undefined => false
    | .forwarded => false
    | .accepted => true
    | .rejected => true
  hasRequestFailed requestStatus := requestStatus = .rejected

/-- A call at some time, when orders can be sent. -/
abbrev callAt (clock : ℤ) (event : Event) : Context × Event := (⟨clock, true⟩, event)

/-- The order is acknowledged when its request has timed out, and canceled after that. -/
abbrev lateAck : List (Context × Event) :=
  [callAt 0 (.downloadEnd 41), callAt 0 .ready, callAt 3000000000 (.refresh 3000000000),
    callAt 6000000000 (.refresh 6000000000), callAt 9000000000 (.refresh 9000000000),
    callAt 9000000001 (.orderAck .createOrder .accepted),
    callAt 12000000001 (.refresh 12000000001), callAt 15000000001 (.refresh 15000000001)]

/-- Order 42 is created, and canceled. -/
theorem late_order_is_canceled :
    OneOrder (orders (run (step .plain) initial lateAck).2) ∧
      (run (step .plain) initial lateAck).2 = [.createOrder (newOrder 42),
        .cancelOrder { account := "A1", orderId := 42 }] :=
  ⟨one_order_is_sent .plain lateAck (by decide +kernel), by decide +kernel⟩

/-! ## Pace -/

/-- When the gateway has become ready, when a created order has been acknowledged, and the ids
    that are in use. -/
structure Heard where
  ready : Option ℤ
  acked : Option ℤ
  orderIds : List UInt64

def Heard.nothing : Heard := ⟨none, none, []⟩

def Heard.next (env : Env) (g : Heard) (i : Context × Event) : Heard :=
  match i.2 with
  | .downloadEnd maxOrderId => { g with orderIds := maxOrderId :: g.orderIds }
  | .ready => { g with ready := some i.1.clock }
  | .orderAck .createOrder requestStatus =>
    if env.hasRequestMaybeCompleted requestStatus && !env.hasRequestFailed requestStatus then
      { g with acked := some i.1.clock }
    else g
  | _ => g

/-- The clock does not go back during a call. -/
def Onward : Context × Event → Prop
  | (ctx, .refresh now) => now ≤ ctx.clock
  | _ => True

instance : DecidablePred Onward
  | (ctx, .refresh now) => inferInstanceAs (Decidable (now ≤ ctx.clock))
  | (_, .downloadEnd _) => isTrue trivial
  | (_, .ready) => isTrue trivial
  | (_, .orderAck _ _) => isTrue trivial
  | (_, .signal) => isTrue trivial
  | (_, .other) => isTrue trivial

/-- At least so many waits ago. -/
def Since (waits : ℕ) (past : Option ℤ) (now : ℤ) : Prop :=
  ∃ t, past = some t ∧ t + waits * waitThisLong ≤ now

theorem Since.mono {waits : ℕ} {past : Option ℤ} {now now' : ℤ} (h : Since waits past now)
    (hle : now ≤ now') : Since waits past now' := by
  obtain ⟨t, hpast, hsince⟩ := h
  exact ⟨t, hpast, hsince.trans hle⟩

/-- One more wait. -/
theorem Since.wait {waits : ℕ} {past : Option ℤ} {now clock : ℤ} (h : Since waits past now)
    (hclock : now ≤ clock) : Since (waits + 1) past (clock + waitThisLong) := by
  obtain ⟨t, hpast, hsince⟩ := h
  refine ⟨t, hpast, ?_⟩
  push_cast
  linarith

/-- An order is created two waits after the gateway has become ready, and canceled two waits after
    a created order has been acknowledged. -/
def Paced (g : Heard) (i : Context × Event) : Output → Prop
  | .createOrder _ => ∃ now, i.2 = .refresh now ∧ Since 2 g.ready now
  | .cancelOrder _ => ∃ now, i.2 = .refresh now ∧ Since 2 g.acked now
  | .stop => True

/-- An order is created under an id above all that are in use. -/
def Unused (g : Heard) : Output → Prop
  | .createOrder value => ∀ orderId ∈ g.orderIds, orderId < value.orderId
  | _ => True

/-- What is known of the time of the next change, by state. -/
def Pending (g : Heard) (s : Strategy) : Prop :=
  match s.state with
  | .ready => Since 1 g.ready s.nextUpdate
  | .createOrder => Since 2 g.ready s.nextUpdate
  | .working => Since 1 g.acked s.nextUpdate
  | .cancelOrder => Since 2 g.acked s.nextUpdate
  | _ => True

/-- No id above the last one is in use. -/
def Known (g : Heard) (s : Strategy) : Prop := ∀ orderId ∈ g.orderIds, orderId ≤ s.maxOrderId

/-- What holds when a call returns, and of what it puts out. -/
def Keeps (I : Strategy → Prop) (P : Output → Prop) (r : Option Strategy × List Output) : Prop :=
  (∀ t, r.1 = some t → I t) ∧ ∀ o ∈ r.2, P o

section

variable {I : Strategy → Prop} {P : Output → Prop}

theorem keeps_ended : Keeps I P (none, []) :=
  ⟨fun _ => nofun, fun _ hmem => absurd hmem List.not_mem_nil⟩

theorem keeps_quiet {t : Strategy} (h : I t) : Keeps I P (some t, []) := by
  refine ⟨?_, fun _ hmem => absurd hmem List.not_mem_nil⟩
  intro t' ht
  obtain rfl := Option.some.inj ht
  exact h

theorem keeps_single {t : Strategy} {o : Output} (h : I t) (ho : P o) :
    Keeps I P (some t, [o]) := by
  refine ⟨(keeps_quiet (P := P) h).1, ?_⟩
  intro o' hmem
  obtain rfl := List.mem_singleton.mp hmem
  exact ho

end

variable {env : Env} {ctx : Context} {s t : Strategy} {g : Heard} {requestType : RequestType}
  {requestStatus : RequestStatus}

/-! ### The time -/

theorem Pending.refresh {now : ℤ} (h : Pending g s) (hclock : now ≤ ctx.clock) :
    Keeps (Pending g) (Paced g (ctx, .refresh now)) (refresh ctx now s) := by
  unfold Strategy.refresh
  split_ifs with hnow
  · exact keeps_quiet h
  have hdue : s.nextUpdate ≤ now := not_lt.mp hnow
  have hpending := h
  cases hstate : s.state with
  | undefined => exact keeps_quiet h
  | ready =>
    simp only [Pending, hstate] at hpending
    exact keeps_quiet ((hpending.mono hdue).wait hclock)
  | createOrder =>
    simp only [Pending, hstate] at hpending
    simp only [createOrder]
    split_ifs
    · exact keeps_single trivial ⟨now, rfl, hpending.mono hdue⟩
    · exact keeps_ended
  | waitingCreate => exact keeps_quiet trivial
  | working =>
    simp only [Pending, hstate] at hpending
    exact keeps_quiet ((hpending.mono hdue).wait hclock)
  | cancelOrder =>
    simp only [Pending, hstate] at hpending
    simp only [cancelOrder]
    split_ifs
    · exact keeps_single trivial ⟨now, rfl, hpending.mono hdue⟩
    · exact keeps_ended
  | waitingCancel => exact keeps_quiet trivial
  | done => exact keeps_single h trivial

/-- Only a created order that works is heard of. -/
theorem Heard.next_unheard
    (h : (env.hasRequestMaybeCompleted requestStatus &&
      !env.hasRequestFailed requestStatus) = false)
    (g : Heard) : g.next env (ctx, .orderAck requestType requestStatus) = g := by
  cases requestType <;> simp [Heard.next, h]

theorem Pending.orderAck (h : Pending g s)
    (hack : orderAck env ctx requestType requestStatus s = some t) :
    Pending (g.next env (ctx, .orderAck requestType requestStatus)) t := by
  unfold Strategy.orderAck at hack
  by_cases hcompleted : env.hasRequestMaybeCompleted requestStatus = true
  · by_cases hfailed : env.hasRequestFailed requestStatus = true
    · simp only [hcompleted, hfailed, Bool.not_true, Bool.false_eq_true, if_false, if_true] at hack
      obtain rfl := Option.some.inj hack
      exact trivial
    · simp only [hcompleted, hfailed, Bool.not_true, Bool.false_eq_true, if_false] at hack
      cases requestType with
      | undefined => cases hack
      | modifyOrder => cases hack
      | createOrder =>
        obtain rfl := Option.some.inj hack
        have hnext : g.next env (ctx, .orderAck .createOrder requestStatus) =
            { g with acked := some ctx.clock } := by
          simp [Heard.next, hcompleted, hfailed]
        rw [hnext]
        refine ⟨ctx.clock, rfl, ?_⟩
        simp [enter]
      | cancelOrder =>
        obtain rfl := Option.some.inj hack
        exact trivial
  · simp only [hcompleted, Bool.not_false, if_true] at hack
    obtain rfl := Option.some.inj hack
    rw [Heard.next_unheard (by simp [hcompleted])]
    exact h

/-- **The step lemma** for the time. -/
theorem Pending.step {i : Context × Event} (h : Pending g s) (honward : Onward i) :
    Keeps (Pending (g.next env i)) (Paced g i) (step env s i) := by
  obtain ⟨ctx, event⟩ := i
  cases event with
  | refresh now => exact h.refresh honward
  | downloadEnd maxOrderId =>
    refine keeps_quiet ?_
    unfold downloadEnd
    split_ifs
    · exact h
    · exact h
  | ready =>
    refine keeps_quiet ⟨ctx.clock, rfl, ?_⟩
    simp [enter]
  | orderAck requestType requestStatus =>
    exact ⟨fun t ht => h.orderAck ht, fun _ hmem => absurd hmem List.not_mem_nil⟩
  | signal => exact keeps_single h trivial
  | other => exact keeps_quiet h

/-! ### The ids -/

theorem lt_add_one {m n : UInt64} (hle : m ≤ n) (hmax : n + 1 ≠ 0) : m < n + 1 := by
  have hn : (n + 1).toNat ≠ 0 := fun h => hmax (UInt64.toNat_inj.mp h)
  rw [UInt64.le_iff_toNat_le] at hle
  rw [UInt64.lt_iff_toNat_lt]
  have hlt := n.toNat_lt
  simp only [UInt64.toNat_add, UInt64.reduceToNat] at hn ⊢
  omega

theorem Known.refresh {now : ℤ} (h : Known g s) (hids : s.maxOrderId + 1 ≠ 0) :
    Keeps (Known g) (Unused g) (refresh ctx now s) := by
  have hnext : ∀ orderId ∈ g.orderIds, orderId < s.maxOrderId + 1 :=
    fun orderId hmem => lt_add_one (h orderId hmem) hids
  unfold Strategy.refresh
  split_ifs
  · exact keeps_quiet h
  cases s.state with
  | createOrder =>
    simp only [createOrder]
    split_ifs
    · exact keeps_single (fun orderId hmem => UInt64.le_of_lt (hnext orderId hmem)) hnext
    · exact keeps_ended
  | cancelOrder =>
    simp only [cancelOrder]
    split_ifs
    · exact keeps_single h trivial
    · exact keeps_ended
  | done => exact keeps_single h trivial
  | _ => exact keeps_quiet h

theorem Known.downloadEnd (h : Known g s) (maxOrderId : UInt64) :
    Known { g with orderIds := maxOrderId :: g.orderIds } (downloadEnd maxOrderId s) := by
  unfold Strategy.downloadEnd
  split_ifs with hlt
  · intro orderId hmem
    obtain rfl | hmem := List.mem_cons.mp hmem
    · exact UInt64.le_refl _
    · exact UInt64.le_trans (h orderId hmem) (UInt64.le_of_lt hlt)
  · intro orderId hmem
    obtain rfl | hmem := List.mem_cons.mp hmem
    · exact UInt64.not_lt.mp hlt
    · exact h orderId hmem

/-- An acknowledgement tells of no id. -/
theorem Known.orderAck (h : Known g s)
    (hack : orderAck env ctx requestType requestStatus s = some t) :
    Known (g.next env (ctx, .orderAck requestType requestStatus)) t := by
  have hheard : (g.next env (ctx, .orderAck requestType requestStatus)).orderIds = g.orderIds := by
    cases requestType with
    | createOrder =>
      simp only [Heard.next]
      split_ifs
      · rfl
      · rfl
    | _ => rfl
  have hlast : t.maxOrderId = s.maxOrderId := by
    unfold Strategy.orderAck at hack
    split_ifs at hack
    · exact (congrArg Strategy.maxOrderId (Option.some.inj hack)).symm
    · exact (congrArg Strategy.maxOrderId (Option.some.inj hack)).symm
    · cases requestType with
      | undefined => cases hack
      | modifyOrder => cases hack
      | _ => exact (congrArg Strategy.maxOrderId (Option.some.inj hack)).symm
  rw [Known, hheard, hlast]
  exact h

/-- **The step lemma** for the ids. -/
theorem Known.step {i : Context × Event} (h : Known g s) (hids : s.maxOrderId + 1 ≠ 0) :
    Keeps (Known (g.next env i)) (Unused g) (step env s i) := by
  obtain ⟨ctx, event⟩ := i
  cases event with
  | refresh now => exact h.refresh hids
  | downloadEnd maxOrderId => exact keeps_quiet (h.downloadEnd maxOrderId)
  | ready => exact keeps_quiet h
  | orderAck requestType requestStatus =>
    exact ⟨fun t ht => h.orderAck ht, fun _ hmem => absurd hmem List.not_mem_nil⟩
  | signal => exact keeps_single h trivial
  | other => exact keeps_quiet h

/-! ### Runs -/

/-- What each step keeps, a run next to what has been heard keeps. -/
theorem heard_sound {G : Strategy → Context × Event → Prop} {I : Heard → Strategy → Prop}
    {P : Heard → Context × Event → Output → Prop}
    (hstep : ∀ g s i, I g s → G s i → Keeps (I (g.next env i)) (P g i) (step env s i))
    {is : List (Context × Event)} (hinitial : I .nothing initial)
    (hg : Guarded (step env) G initial is) :
    ∀ o ∈ (run (observe (step env) (Heard.next env) id) (initial, .nothing) is).2,
      P o.1 o.2.1 o.2.2 := by
  refine (run_sound (I := fun s => I s.2 s.1) ?_ hinitial (Guarded.observe hg)).2
  rintro ⟨s, g⟩ i h hi
  obtain ⟨hnext, hout⟩ := hstep g s i h hi
  constructor
  · intro t ht
    obtain ⟨s', hs, rfl⟩ := Option.map_eq_some_iff.mp ht
    exact hnext s' hs
  · intro o ho
    obtain ⟨hseen, hinput, hmem⟩ := mem_observe ho
    rw [hseen, hinput]
    exact hout _ hmem

/-- **Orders are paced**: an order is created two waits after the gateway has become ready, and
    canceled two waits after the acknowledgement of a created order; in every run, whatever comes
    in between. As long as the ids are not used up, an order is created under an id above all
    that have been downloaded. -/
theorem orders_are_paced (env : Env) (is : List (Context × Event)) (honward : ∀ i ∈ is, Onward i) :
    let os := (run (observe (step env) (Heard.next env) id) (initial, .nothing) is).2
    (∀ o ∈ os, Paced o.1 o.2.1 o.2.2) ∧
      (Guarded (step env) (fun s _ => s.maxOrderId + 1 ≠ 0) initial is →
        ∀ o ∈ os, Unused o.1 o.2.2) := by
  constructor
  · refine heard_sound (G := fun _ => Onward) (I := Pending) (P := Paced) ?_ trivial
      (guarded_of_forall fun i hi _ => honward i hi)
    exact fun g s i h honward => h.step honward
  · intro hids
    refine heard_sound (I := Known) (P := fun g _ => Unused g) ?_ ?_ hids
    · exact fun g s i h hids => h.step hids
    · exact fun orderId hmem => absurd hmem List.not_mem_nil

/-- The cancellation of the order that is acknowledged late is six seconds behind, and the order
    is created under the id behind the last one. -/
theorem late_order_is_paced :
    let os := (run (observe (step .plain) (Heard.next .plain) id) (initial, .nothing) lateAck).2
    (∀ o ∈ os, Paced o.1 o.2.1 o.2.2) ∧ (∀ o ∈ os, Unused o.1 o.2.2) ∧
      os.map (fun o => (o.1.acked, o.1.orderIds, o.2.1.2)) =
        [(none, [41], .refresh 6000000000), (some 9000000001, [41], .refresh 15000000001)] := by
  obtain ⟨hpaced, hunused⟩ := orders_are_paced .plain lateAck (by decide +kernel)
  exact ⟨hpaced, hunused (by decide +kernel), by decide +kernel⟩

end Strategy

end DeribitGateway
