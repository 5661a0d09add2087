import DeribitGateway.Json.DropCopyHandlers
import DeribitGateway.Json.Relations
import DeribitGateway.Json.WebSocketHandlers
import DeribitGateway.Lib.Outbox

/-!
# Requests go out in order

Both kinds of web socket stream put their requests into a queue, which the timer empties as far
as the rate limiter lets it, and which a disconnect clears. The log-in does not go through the
queue. So whatever is asked for, and whenever the limiter lets how much through, the requests
of a session are sent in the order in which they were queued, each at most once, and none that
was queued in an earlier session. What has been queued in the session and not been sent waits,
and goes out at the first timer that finds the stream ready and the limiter open
(`requests_are_sent_in_order`).
-/

namespace DeribitGateway

open Emission StagedDownload Outbox

abbrev Json.Request.Queues (request : Json.Request) : Prop := request.IsLogin = false

/-! ## The web socket stream -/

namespace WebSocket

/-- What the outputs say about the queue of requests. -/
def requestQueue : Reading Output Json.Request where
  puts
    | .queued request => [request]
    | _ => []
  takes
    | .sentText request => if request.IsLogin then [] else [request]
    | _ => []
  clears
    | .streamStatus value => value.connectionStatus = .disconnected
    | _ => false

variable {W Y R : Type} {env : Env} {ctx : Context}

/-- The requests are served. -/
abbrev Serves : Scope W Y R → List Output → Scope W Y R → Prop :=
  Serving requestQueue Json.Request.Queues fun s => s.stream.subscribeQueue

theorem ignores_serves [Download State W] :
    Ignores (Serves : Scope W Y R → List Output → Scope W Y R → Prop) where
  composes := composes_serving
  frame _ _ _ _ hqueue := .still hqueue
  report s x h := by
    have hsilent : requestQueue.Silent x := by
      cases x with
      | queued request => exact h.elim
      | sentText request => exact ⟨rfl, if_pos h, rfl⟩
      | streamStatus value => exact ⟨rfl, rfl, decide_eq_false h.2⟩
      | _ => exact ⟨rfl, rfl, rfl⟩
    exact .silent_single hsilent rfl
  enqueue request hqueues _ _ :=
    Serving.put rfl rfl (fun _ ha => List.mem_singleton.mp ha ▸ hqueues) rfl
  subscribeChartTrades symbols _ _ :=
    Serving.put rfl rfl (fun _ ha => List.mem_singleton.mp ha ▸ rfl) rfl
  -- what the rate limiter lets through is taken from the front
  checkSubscribeQueue ctx _ :=
    Serving.take (fun _ hqueues => if_neg (by simp [hqueues])) (fun _ => rfl) (fun _ => rfl)
      (ctx.dispatch.fifo _).symm
  -- what is left is thrown away
  disconnected _ := .clear rfl rfl

/-- A timer, when the limiter lets all through. -/
theorem timer_sends [Symbols Y] [LimitRequest R] [Download State W] {s : Scope W Y R}
    (hrefreshed : ctx.refreshed = true) (hready : s.stream.ready = true)
    (hkept : ctx.dispatch.kept s.stream.subscribeQueue = []) :
    s.stream.subscribeQueue.map .sentText <+: (timer env ctx s).2 := by
  have hsent : (checkSubscribeQueue ctx s).2 = s.stream.subscribeQueue.map .sentText :=
    congrArg (List.map _) (ctx.dispatch.handed_of_kept hkept)
  rw [timer, if_pos hrefreshed, seq_snd, if_pos hready, hsent]
  exact List.prefix_append _ _

end WebSocket

/-! ## The drop copy stream -/

namespace DropCopy

/-- What the outputs say about the queue of requests. -/
def requestQueue : Reading Output Json.Request where
  puts
    | .queued request => [request]
    | _ => []
  takes
    | .sentText request => if request.IsLogin then [] else [request]
    | _ => []
  clears
    | .streamStatus value => value.connectionStatus = .disconnected
    | _ => false

variable {C : Type} {env : Env} {ctx : Context}

/-- The requests are served. -/
abbrev Serves : DropCopy C → List Output → DropCopy C → Prop :=
  Serving requestQueue Json.Request.Queues fun o => o.subscribeQueue

theorem tolerates_serves [Download State C] :
    Tolerates (Serves : DropCopy C → List Output → DropCopy C → Prop) where
  composes := composes_serving
  frame _ _ _ hqueue := .still hqueue
  report o x h := by
    have hsilent : requestQueue.Silent x := by
      cases x with
      | queued request => exact h.elim
      | sentText request => exact ⟨rfl, if_pos h, rfl⟩
      | streamStatus value => exact ⟨rfl, rfl, decide_eq_false h.2⟩
      | _ => exact ⟨rfl, rfl, rfl⟩
    exact .silent_single hsilent rfl
  enqueue request hqueues _ :=
    Serving.put rfl rfl (fun _ ha => List.mem_singleton.mp ha ▸ hqueues) rfl
  -- what the rate limiter lets through is taken from the front
  checkSubscribeQueue ctx _ :=
    Serving.take (fun _ hqueues => if_neg (by simp [hqueues])) (fun _ => rfl) (fun _ => rfl)
      (ctx.dispatch.fifo _).symm
  -- what is left is thrown away
  disconnected _ := .clear rfl rfl

/-- A timer, when the limiter lets all through. -/
theorem timer_sends {o : DropCopy C} (hrefreshed : ctx.refreshed = true) (hready : o.ready = true)
    (hkept : ctx.dispatch.kept o.subscribeQueue = []) :
    o.subscribeQueue.map .sentText <+: (timer ctx o).2 := by
  have hsent : (checkSubscribeQueue ctx o).2 = o.subscribeQueue.map .sentText :=
    congrArg (List.map _) (ctx.dispatch.handed_of_kept hkept)
  rw [timer, if_pos ⟨hrefreshed, hready⟩, hsent]

end DropCopy

/-! ## Sessions -/

/-- **In each session of a web socket stream, and of a drop copy stream, the requests that are
    sent are the first of those that have been queued in it**, in the same order. The others of
    the current session wait, and the timer sends them all when the stream is ready and the rate
    limiter lets them through. -/
theorem requests_are_sent_in_order {W C Y R : Type} [Symbols Y] [LimitRequest R]
    [Download WebSocket.State W] [Download DropCopy.State C] :
    (∀ (env : WebSocket.Env) (streamId : UInt16) (index : ℕ) (master : Bool)
      (calls : List (WebSocket.Input Y R)),
      let r := Transducer.run (WebSocket.step env)
        (.initial streamId index master : WebSocket W) calls
      WebSocket.requestQueue.InOrder r.2 ∧ ∀ o, r.1 = some o →
        WebSocket.requestQueue.Waits r.2 o.subscribeQueue ∧
        ∀ i : WebSocket.Input Y R, i.event = .timer → i.ctx.refreshed = true →
          o.ready = true → i.ctx.dispatch.kept o.subscribeQueue = [] →
          o.subscribeQueue.map .sentText <+: (WebSocket.step env o i).2) ∧
    ∀ (env : DropCopy.Env) (streamId : UInt16) (account key : String)
      (calls : List (DropCopy.Context × DropCopy.Event)),
      let r := Transducer.run (DropCopy.step env)
        (.initial streamId account key : DropCopy C) calls
      DropCopy.requestQueue.InOrder r.2 ∧ ∀ o, r.1 = some o →
        DropCopy.requestQueue.Waits r.2 o.subscribeQueue ∧
        ∀ ctx : DropCopy.Context, ctx.refreshed = true → o.ready = true →
          ctx.dispatch.kept o.subscribeQueue = [] →
          o.subscribeQueue.map .sentText <+: (DropCopy.step env o (ctx, .timer)).2 := by
  constructor
  · intro env streamId index master calls
    have hstep : ∀ (o : WebSocket W) (i : WebSocket.Input Y R),
        WebSocket.step env o i = (none, []) ∨ ∃ t os, WebSocket.step env o i = (some t, os) ∧
          Serving WebSocket.requestQueue Json.Request.Queues WebSocket.subscribeQueue o os t := by
      intro o i
      refine (WebSocket.step_cases env o i).imp_right ?_
      rintro ⟨r, hcall, hreturns⟩
      exact ⟨r.1.stream, r.2, hreturns, WebSocket.ignores_serves.call hcall⟩
    obtain ⟨⟨queue, hserves⟩, hend⟩ :=
      run_serves hstep (s := .initial streamId index master) rfl calls
    refine ⟨hserves.inOrder, ?_⟩
    intro o ho
    refine ⟨(hend o ho).1.waits, ?_⟩
    rintro ⟨ctx, shared, requests, event⟩ rfl hrefreshed hready hkept
    exact WebSocket.timer_sends (s := ⟨o, shared, requests⟩) hrefreshed hready hkept
  · intro env streamId account key calls
    have hstep : ∀ (o : DropCopy C) (i : DropCopy.Context × DropCopy.Event),
        DropCopy.step env o i = (none, []) ∨ ∃ t os, DropCopy.step env o i = (some t, os) ∧
          Serving DropCopy.requestQueue Json.Request.Queues DropCopy.subscribeQueue o os t := by
      rintro o ⟨ctx, event⟩
      refine (DropCopy.step_cases env o ctx event).imp_right ?_
      rintro ⟨r, hcall, hreturns⟩
      exact ⟨r.1, r.2, hreturns, DropCopy.tolerates_serves.call hcall⟩
    obtain ⟨⟨queue, hserves⟩, hend⟩ :=
      run_serves hstep (s := .initial streamId account key) rfl calls
    refine ⟨hserves.inOrder, ?_⟩
    intro o ho
    refine ⟨(hend o ho).1.waits, ?_⟩
    intro ctx hrefreshed hready hkept
    exact DropCopy.timer_sends hrefreshed hready hkept

/-- A log-in, and the timer when the limiter lets a single request through. -/
abbrev webSocketCalls : List (WebSocket.Input SymbolTable RequestProgress) :=
  [.plain .ready, .plain (.message (.auth 0)),
    { WebSocket.Input.plain .timer with
      ctx := { WebSocket.Context.plain with dispatch := .upTo 1 } }]

/-- A log-in, and the timer when the limiter lets two requests through. -/
abbrev dropCopyCalls : List (DropCopy.Context × DropCopy.Event) :=
  [(.plain, .ready), (.plain, .message (.auth 0)),
    ({ DropCopy.Context.plain with dispatch := .upTo 2 }, .timer)]

/-- The last subscription waits, and goes out when the limiter lets it. -/
theorem last_request_waits :
    (∃ o, (Transducer.run (WebSocket.step .plain) WebSocket.plain webSocketCalls).1 = some o ∧
      o.subscribeQueue = [.publicSubscribe ["ticker.ETH-PERPETUAL.100ms"] .subscribeTicker] ∧
      WebSocket.requestQueue.Waits
        (Transducer.run (WebSocket.step .plain) WebSocket.plain webSocketCalls).2
        o.subscribeQueue ∧
      o.subscribeQueue.map .sentText <+: (WebSocket.step .plain o (.plain .timer)).2) ∧
    ∃ o, (Transducer.run (DropCopy.step .plain) DropCopy.plain dropCopyCalls).1 = some o ∧
      o.subscribeQueue = [.privateSubscribe ["user.trades.any.any.raw"] .subscribeUserTrades] ∧
      DropCopy.requestQueue.Waits
        (Transducer.run (DropCopy.step .plain) DropCopy.plain dropCopyCalls).2 o.subscribeQueue ∧
      o.subscribeQueue.map .sentText <+: (DropCopy.step .plain o (.plain, .timer)).2 := by
  obtain ⟨hwebSocket, hdropCopy⟩ := requests_are_sent_in_order (W := Counter WebSocket.State)
    (C := Counter DropCopy.State) (Y := SymbolTable) (R := RequestProgress)
  constructor
  · obtain ⟨hwaits, htimer⟩ := (hwebSocket .plain 4 1 false webSocketCalls).2 _ rfl
    exact ⟨_, rfl, rfl, hwaits, htimer (.plain .timer) rfl rfl rfl rfl⟩
  · obtain ⟨hwaits, htimer⟩ := (hdropCopy .plain 3 "a" "key" dropCopyCalls).2 _ rfl
    exact ⟨_, rfl, rfl, hwaits, htimer .plain rfl rfl rfl⟩

end DeribitGateway
