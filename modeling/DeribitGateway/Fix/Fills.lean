import Mathlib.Data.List.Fold
import DeribitGateway.Fix.Handlers

/-!
# Fills of execution reports

An ordinary execution report becomes an order update and, if it has fills, one trade update
with all of them. Two reports are different by design: that of a cancel is dropped by default
with all it carries (#143), and one without fills keeps its own last traded quantity.

`reports_are_booked` says what a run books: for each ordinary report that is not dropped, in
order, these updates and no others. `fills_are_conserved` draws the balance of every order.
-/

namespace DeribitGateway

open Transducer

namespace OrderEntry

/-- The sum of quantities, missing if one of them is. -/
def totalQuantity (quantities : List Double) : Double := quantities.foldr Double.add (some 0)

/-- What reaches the books: the last traded quantity of an order, and its fills. -/
inductive Booking
  | order (externalOrderId : String) (lastTradedQuantity : Double)
  | trade (externalOrderId : String) (fills : List Fill)
  deriving DecidableEq

def Output.booking : Output → Option Booking
  | .orderUpdate _ value => some (.order value.externalOrderId value.lastTradedQuantity)
  | .tradeUpdate value _ => some (.trade value.externalOrderId value.fills)
  | _ => none

/-- An execution report that is not the header of a download. -/
def ordinary : Context × Event → Option (Context × Fix.ExecutionReport)
  | (ctx, .message _ (.executionReport r)) =>
    if r.massStatusReqType = .orders then none else some (ctx, r)
  | _ => none

/-- The reports of a run that are to be booked. -/
def booked (env : Env) (is : List (Context × Event)) : List (Context × Fix.ExecutionReport) :=
  (is.filterMap ordinary).filter fun i => !dropped env i.2

/-- What a report is booked as. -/
def bookings (env : Env) (i : Context × Fix.ExecutionReport) : List Booking :=
  .order i.2.orderId
      (if i.2.noFills = [] then i.2.lastQty else totalQuantity (i.2.noFills.map (·.fillQty))) ::
    if i.2.noFills = [] then []
    else [.trade i.2.orderId (i.2.noFills.map (executionFill env i.1 i.2))]

/-- The quantity filled for an order, as booked. -/
def Booking.filled (orderId : String) : Booking → List Double
  | .order _ _ => []
  | .trade externalOrderId fills =>
    if externalOrderId = orderId then fills.map (·.quantity) else []

/-- The quantity filled for an order, as reported. -/
def filled (orderId : String) (i : Context × Fix.ExecutionReport) : List Double :=
  if i.2.orderId = orderId then i.2.noFills.map (·.fillQty) else []

/-! ## The last traded quantity -/

instance : Std.Commutative Double.add where
  comm x y := by
    cases x <;> cases y <;> simp [Double.add, add_comm]

instance : Std.Associative Double.add where
  assoc x y z := by
    cases x <;> cases y <;> cases z <;> simp [Double.add, add_assoc]

/-- The loop of `compute_last_traded` sums the quantities. -/
theorem sums_fst (fills : List Fix.Fill) (sums : Double × Double) :
    (fills.foldl (fun sums item => (Double.add sums.1 item.fillQty,
      Double.add sums.2 (Double.mul item.fillQty item.fillPx))) sums).1 =
      (fills.map (·.fillQty)).foldl Double.add sums.1 := by
  induction fills generalizing sums with
  | nil => rfl
  | cons item fills ih => exact ih _

theorem computeLastTraded_fst (env : Env) (lastTradedQuantity lastTradedPrice : Double)
    (fills : List Fix.Fill) :
    (computeLastTraded env lastTradedQuantity lastTradedPrice fills).1 =
      if fills = [] then lastTradedQuantity else totalQuantity (fills.map (·.fillQty)) := by
  unfold computeLastTraded
  cases fills with
  | nil => rfl
  | cons item fills =>
    rw [if_neg (by simp), if_neg (by simp)]
    exact (sums_fst (item :: fills) _).trans List.foldl_eq_foldr

/-! ## What a step books -/

variable {D : Type} {env : Env} {ctx : Context} {o o' : OrderEntry D}

theorem enter_books (states : List State) :
    (enter env ctx states o).2.filterMap Output.booking = [] := by
  induction states generalizing o ctx with
  | nil => rfl
  | cons s states ih =>
    have hstate : (downloadState env ctx o s).2.filterMap Output.booking = [] := by
      cases s <;> rfl
    rw [enter, Effect.andThen_snd, List.filterMap_append, hstate, ih]
    rfl

theorem advance_books (r : D × List State) :
    (advance env ctx r o).2.filterMap Output.booking = [] := enter_books r.2

theorem positionUpdates_books (noPositions : List Fix.PositionQty) :
    (positionUpdates env noPositions).filterMap Output.booking = [] := by
  induction noPositions with
  | nil => rfl
  | cons position positions ih => exact ih

theorem timer_books (now : ℤ) : (timer env ctx now o).2.filterMap Output.booking = [] := by
  unfold timer sendLogon sendTestRequest
  split_ifs <;> rfl

theorem heartbeat_books {testReqId : String} {e : Effect D}
    (h : heartbeat env ctx testReqId o = some e) : e.2.filterMap Output.booking = [] := by
  unfold heartbeat at h
  by_cases ht : testReqId = ""
  · rw [if_pos ht] at h
    obtain rfl := Option.some.inj h
    rfl
  · rw [if_neg ht] at h
    obtain ⟨_, _, rfl⟩ := Option.map_eq_some_iff.mp h
    rfl

theorem actedOutputs_books {action : Event} {os : List Output}
    (h : ActedOutputs env ctx o action os) : os.filterMap Output.booking = [] := by
  obtain ⟨message, acks, rfl, hacks⟩ := h
  have hnone : acks.filterMap Output.booking = [] := by
    rw [List.filterMap_eq_nil_iff]
    intro a ha
    obtain ⟨-, ack, rfl, -⟩ := hacks a ha
    rfl
  rw [List.cons_append, List.filterMap_cons_none rfl, List.filterMap_append, hnone]
  rfl

variable [Download2 D]

/-- Only execution reports are booked. -/
theorem step_books_nothing {event : Event}
    (hreport : ∀ header r, event ≠ .message header (.executionReport r)) :
    (step env o (ctx, event)).2.filterMap Output.booking = [] := by
  by_cases haction : event.IsAction
  · obtain ⟨_, e, hs⟩ | ⟨_, _, os, hs, hos⟩ := step_action env ctx o haction
    · rw [hs]
      rfl
    · rw [hs]
      exact actedOutputs_books hos
  cases event with
  | timer now => exact timer_books now
  | connected => rfl
  | disconnected => rfl
  | message header value =>
    cases value with
    | heartbeat testReqId =>
      simp only [step, parseHelper]
      cases he : heartbeat env ctx testReqId (check header o) with
      | none => split_ifs <;> rfl
      | some e => exact heartbeat_books he
    | logon => exact advance_books _
    | positionReport noPositions =>
      show (positionUpdates env noPositions ++ (advance env ctx _ _).2).filterMap _ = []
      rw [List.filterMap_append, positionUpdates_books, advance_books]
      rfl
    | executionReport r => exact absurd rfl (hreport header r)
    | reject r =>
      simp only [step, parseHelper, reject]
      split_ifs
      · split <;> rfl
      · rfl
      · rfl
      · rfl
    | _ => rfl
  | _ => exact absurd trivial haction

/-- An ordinary report that is not dropped is booked. -/
theorem executionOutputs_books (header : Fix.Header) (r : Fix.ExecutionReport) :
    (executionOutputs env ctx header r o).filterMap Output.booking = bookings env (ctx, r) := by
  have hlast := computeLastTraded_fst env r.lastQty r.lastPx r.noFills
  unfold executionOutputs bookings
  by_cases hfills : r.noFills = []
  · simp [hfills, Output.booking, executionOrderUpdate, computeLastTraded]
  · simp [hfills, Output.booking, executionOrderUpdate, executionTradeUpdate, hlast]

theorem executionReport_books {header : Fix.Header} {r : Fix.ExecutionReport} {e : Effect D}
    (h : executionReport env ctx header r o = some e) :
    e.2.filterMap Output.booking =
      (booked env [(ctx, .message header (.executionReport r))]).flatMap (bookings env) := by
  unfold executionReport at h
  split at h <;> rename_i hstatus
  · by_cases hdropped : dropped env r
    · rw [if_pos hdropped] at h
      obtain rfl := Option.some.inj h
      simp [booked, ordinary, hstatus, hdropped]
    · rw [if_neg hdropped] at h
      obtain rfl := Option.some.inj h
      rw [Effect.andThen_snd, List.filterMap_append, advance_books, executionOutputs_books]
      simp [booked, ordinary, hstatus, hdropped]
  · obtain rfl := Option.some.inj h
    rw [advance_books]
    simp [booked, ordinary, hstatus]
  · cases h

/-- **The step lemma.** A report is booked once, unless it is a header or dropped. -/
theorem step_books {i : Context × Event} (hs : (step env o i).1 = some o') :
    (step env o i).2.filterMap Output.booking = (booked env [i]).flatMap (bookings env) := by
  obtain ⟨ctx, event⟩ := i
  by_cases hreport : ∃ header r, event = .message header (.executionReport r)
  · obtain ⟨header, r, rfl⟩ := hreport
    simp only [step, parseHelper] at hs ⊢
    cases he : executionReport env ctx header r (check header o) with
    | none => rw [he] at hs; cases hs
    | some e => exact executionReport_books he
  · have hnone : ordinary (ctx, event) = none := by
      cases event with
      | message header value => cases value <;> first | rfl | exact absurd ⟨_, _, rfl⟩ hreport
      | _ => rfl
    rw [step_books_nothing fun header r h => hreport ⟨header, r, h⟩]
    simp [booked, hnone]

/-! ## Runs -/

/-- **What a run books**: every ordinary report that is not dropped, in order, and no more. -/
theorem reports_are_booked {is : List (Context × Event)}
    (hrun : (run (step env) o is).1 = some o') :
    (run (step env) o is).2.filterMap Output.booking =
      (booked env is).flatMap (bookings env) := by
  have hsteps : ∀ (t : OrderEntry D) (i : Context × Event) t', (step env t i).1 = some t' →
      (step env t i).2.filterMap Output.booking = (booked env [i]).flatMap (bookings env) :=
    fun _ _ _ hs => step_books hs
  rw [run_filterMap hsteps hrun]
  clear hrun
  induction is with
  | nil => rfl
  | cons i is ih =>
    have hcons : booked env (i :: is) = booked env [i] ++ booked env is := by
      simp [booked, ← List.filter_append, ← List.filterMap_append]
    rw [List.flatMap_cons, ih, hcons, List.flatMap_append]

omit [Download2 D] in
theorem bookings_filled (orderId : String) (i : Context × Fix.ExecutionReport) :
    (bookings env i).flatMap (Booking.filled orderId) = filled orderId i := by
  unfold bookings filled
  by_cases hfills : i.2.noFills = []
  · simp [hfills, Booking.filled]
  · by_cases horder : i.2.orderId = orderId
    · simp [hfills, horder, Booking.filled, executionFill, Function.comp_def]
    · simp [hfills, horder, Booking.filled]

/-- **Fills are conserved**: what a run books is what was reported, report by report and, in
    total, order by order. -/
theorem fills_are_conserved {is : List (Context × Event)}
    (hrun : (run (step env) o is).1 = some o') :
    (run (step env) o is).2.filterMap Output.booking = (booked env is).flatMap (bookings env) ∧
    ∀ orderId, totalQuantity (((run (step env) o is).2.filterMap Output.booking).flatMap
        (Booking.filled orderId)) =
      totalQuantity ((booked env is).flatMap (filled orderId)) := by
  have hbooked := reports_are_booked hrun
  refine ⟨hbooked, ?_⟩
  intro orderId
  rw [hbooked, List.flatMap_assoc]
  simp only [bookings_filled]

/-- A report of one fill of one contract. -/
def oneFill (execType : Fix.ExecType) (ordStatus : Fix.OrdStatus) : Fix.ExecutionReport :=
  { plainReport with
    execType, ordStatus, leavesQty := some 1, cumQty := some 1, avgPx := some 100,
    lastQty := some 1, lastPx := some 100, noFills := [⟨"t", some 100, some 1, .addedLiquidity⟩] }

theorem two_fills_are_conserved :
    (run (step Env.plain) (initial : OrderEntry DownloadCounter)
      [(.plain, .message ⟨1, 1⟩ (.executionReport (oneFill .orderStatus .partiallyFilled))),
        (.plain, .message ⟨2, 1⟩ (.executionReport (oneFill .orderStatus .filled)))]).2.filterMap
          Output.booking = (booked Env.plain
      [(.plain, .message ⟨1, 1⟩ (.executionReport (oneFill .orderStatus .partiallyFilled))),
        (.plain, .message ⟨2, 1⟩ (.executionReport (oneFill .orderStatus .filled)))]).flatMap
          (bookings Env.plain) :=
  (fills_are_conserved rfl).1

/-- The fill that a dropped report carries is not booked, and what is booked as the last traded
    quantity of a report without fills is not the sum of its fills. -/
theorem dropped_fill_is_lost :
    (¬∀ (is : List (Context × Event)) (o o' : OrderEntry DownloadCounter),
      (run (step Env.plain) o is).1 = some o' →
        ∀ i ∈ is.filterMap ordinary, i.2.noFills ≠ [] →
          Booking.trade i.2.orderId (i.2.noFills.map (executionFill Env.plain i.1 i.2)) ∈
            (run (step Env.plain) o is).2.filterMap Output.booking) ∧
    ¬∀ (is : List (Context × Event)) (o o' : OrderEntry DownloadCounter),
      (run (step Env.plain) o is).1 = some o' →
        ∀ i ∈ booked Env.plain is,
          Booking.order i.2.orderId (totalQuantity (i.2.noFills.map (·.fillQty))) ∈
            (run (step Env.plain) o is).2.filterMap Output.booking := by
  constructor
  · intro h
    have hbooked := h [(.plain, .message ⟨1, 1⟩ (.executionReport (oneFill .canceled .canceled)))]
      initial _ rfl _ (List.mem_singleton_self _) (by decide)
    revert hbooked
    decide +kernel
  · intro h
    have hbooked := h [(.plain, .message ⟨1, 1⟩
      (.executionReport { plainReport with lastQty := some 1 }))]
      initial _ rfl _ (List.mem_singleton_self _)
    revert hbooked
    decide +kernel

end OrderEntry

end DeribitGateway
