import DeribitGateway.Controller.OrderActions
import DeribitGateway.Controller.Watching
import DeribitGateway.Json.Relations
import DeribitGateway.Lib.Outbox

/-!
# What the streams share

Two things pass between the streams without the controller. A web socket stream that subscribes
to the charts of symbols puts the symbols into a queue, from which the REST client takes them,
and asks for their history. And the FIX streams, of market data and of all accounts, draw the ids
of their requests from one counter.

Neither goes wrong, whatever the streams are called for and in whatever order: the histories are
asked for in the order of the subscriptions, each at most once, and those not asked for yet wait
(`histories_are_requested_in_order`); and no two requests have the same id, as long as there are
fewer than 2³² of them (`request_ids_are_distinct`).
-/

namespace DeribitGateway

open Emission StagedDownload

/-- The channel that `subscribe_chart_trades` subscribes to. -/
def chartChannel (symbol : String) : String := "chart.trades." ++ symbol ++ ".1"

/-! ## The web socket stream -/

namespace WebSocket

variable {W Y R : Type} {env : Env} {ctx : Context}

/-- The channels of charts that are subscribed to. -/
def Output.charts? : Output → Option (List String)
  | .queued (.publicSubscribe channels .subscribeChartTrades) => some channels
  | _ => none

/-- Symbols are put into the queue with the subscription to their charts. -/
structure Charts (s : Scope W Y R) (os : List Output) (t : Scope W Y R) : Prop where
  requestId : t.shared.requestId = s.shared.requestId
  queue : t.shared.timeSeriesRequestQueue.map chartChannel =
    s.shared.timeSeriesRequestQueue.map chartChannel ++ (os.filterMap Output.charts?).flatten

theorem composes_charts :
    Composes (Charts : Scope W Y R → List Output → Scope W Y R → Prop) where
  refl s := ⟨rfl, by simp⟩
  trans h h' :=
    ⟨h'.requestId.trans h.requestId, by rw [h'.queue, h.queue, List.filterMap_append,
      List.flatten_append, List.append_assoc]⟩

/-- What is shared stays. -/
theorem Charts.still {s t : Scope W Y R} {os : List Output} (hshared : t.shared = s.shared)
    (hos : ∀ x ∈ os, x.charts? = none) : Charts s os t := by
  refine ⟨by rw [hshared], ?_⟩
  rw [hshared, List.filterMap_eq_nil_iff.mpr hos, List.flatten_nil, List.append_nil]

theorem Charts.still_nil {s t : Scope W Y R} (hshared : t.shared = s.shared) : Charts s [] t :=
  .still hshared fun _ hx => absurd hx List.not_mem_nil

theorem Charts.still_single {s t : Scope W Y R} {x : Output} (hshared : t.shared = s.shared)
    (hx : x.charts? = none) : Charts s [x] t :=
  .still hshared fun _ hmem => List.mem_singleton.mp hmem ▸ hx

theorem ignores_charts [Download State W] :
    Ignores (Charts : Scope W Y R → List Output → Scope W Y R → Prop) where
  composes := composes_charts
  frame _ _ hshared _ _ := .still_nil hshared
  report s x h := by
    refine .still_single rfl ?_
    cases x with
    | queued request => exact h.elim
    | _ => rfl
  enqueue request _ hcharts s := by
    refine .still_single rfl ?_
    cases request with
    | publicSubscribe channels id =>
      cases id with
      | subscribeChartTrades => cases hcharts
      | _ => rfl
    | _ => rfl
  subscribeChartTrades symbols hsymbols s := by
    refine ⟨rfl, ?_⟩
    obtain ⟨symbol, symbols, rfl⟩ := List.exists_cons_of_ne_nil hsymbols
    simp [subscribeChartTrades, enqueue, set, Output.charts?, Json.joined, chartChannel]
  checkSubscribeQueue ctx s := by
    refine .still rfl ?_
    intro x hx
    obtain ⟨request, -, rfl⟩ := List.mem_map.mp hx
    rfl
  disconnected _ := .still_single rfl rfl

end WebSocket

/-! ## The REST client -/

namespace Rest

variable {Y R α : Type} {env : Env} {ctx : Context}

/-- The symbol whose history is asked for. -/
def Output.history? : Output → Option String
  | .requested (.getChartData symbol) => some symbol
  | _ => none

/-- The stream that a report comes from. -/
def Output.streamId? : Output → Option UInt16
  | .streamStatus value => some value.streamId
  | .externalLatency value => some value.streamId
  | .referenceData value => some value.streamId
  | .timeSeriesUpdate value => some value.streamId
  | _ => none

/-- Symbols are taken from the front of the queue, and their histories asked for. -/
structure Histories (s : Scope Y R) (os : List Output) (t : Scope Y R) : Prop where
  requestId : t.shared.requestId = s.shared.requestId
  queue : s.shared.timeSeriesRequestQueue =
    os.filterMap Output.history? ++ t.shared.timeSeriesRequestQueue
  labelled : Labelled (fun s => s.stream.streamId) Output.streamId? s os t

theorem composes_histories :
    Composes (Histories : Scope Y R → List Output → Scope Y R → Prop) where
  refl s := ⟨rfl, rfl, composes_labelled.refl s⟩
  trans h h' := by
    refine ⟨h'.requestId.trans h.requestId, ?_, composes_labelled.trans h.labelled h'.labelled⟩
    rw [h.queue, h'.queue, List.filterMap_append, List.append_assoc]

/-- Nothing that is asked for, and reports of the client. -/
def Output.Tells (streamId : UInt16) (x : Output) : Prop :=
  x.history? = none ∧ ∀ id ∈ x.streamId?, id = streamId

theorem Histories.still {s t : Scope Y R} {os : List Output}
    (hid : t.shared.requestId = s.shared.requestId)
    (hqueue : t.shared.timeSeriesRequestQueue = s.shared.timeSeriesRequestQueue)
    (hstream : t.stream.streamId = s.stream.streamId)
    (hos : ∀ x ∈ os, x.Tells s.stream.streamId) : Histories s os t := by
  refine ⟨hid, ?_, hstream, fun x hx => (hos x hx).2⟩
  rw [hqueue, List.filterMap_eq_nil_iff.mpr fun x hx => (hos x hx).1, List.nil_append]

theorem Histories.still_nil {s t : Scope Y R} (hid : t.shared.requestId = s.shared.requestId)
    (hqueue : t.shared.timeSeriesRequestQueue = s.shared.timeSeriesRequestQueue)
    (hstream : t.stream.streamId = s.stream.streamId) : Histories s [] t :=
  .still hid hqueue hstream fun _ hx => absurd hx List.not_mem_nil

theorem Histories.still_single {s t : Scope Y R} {x : Output} (hshared : t.shared = s.shared)
    (hstream : t.stream.streamId = s.stream.streamId) (hx : x.Tells s.stream.streamId) :
    Histories s [x] t :=
  .still (by rw [hshared]) (by rw [hshared]) hstream
    fun _ hmem => List.mem_singleton.mp hmem ▸ hx

theorem tells_other {streamId : UInt16} {x : Output} (hhistory : x.history? = none)
    (hid : x.streamId? = none) : x.Tells streamId :=
  ⟨hhistory, by simp [hid]⟩

theorem tells_report {streamId : UInt16} {x : Output} (hhistory : x.history? = none)
    (hid : x.streamId? = some streamId) : x.Tells streamId :=
  ⟨hhistory, fun _ h => Option.mem_unique h hid⟩

/-- What the rate limiter lets through is taken from the front. -/
theorem checkRequestQueue_histories : Meets Histories (checkRequestQueue ctx : Handler Y R) := by
  intro s
  refine ⟨rfl, ?_, .plain rfl ?_⟩
  · have hself : (fun symbol => (Output.requested (.getChartData symbol)).history?) = some := rfl
    simp only [checkRequestQueue, List.filterMap_map, Function.comp_def]
    rw [hself, List.filterMap_some, ctx.dispatch.fifo]
  · intro x hx
    obtain ⟨symbol, -, rfl⟩ := List.mem_map.mp hx
    rfl

theorem getCurrenciesAck_histories (result : List String) :
    Meets Histories (getCurrenciesAck result : Handler Y R) := by
  intro s
  obtain ⟨known, hshared⟩ := newCurrencies_shared result s.shared
  refine .still ?_ ?_ rfl ?_
  · exact (congrArg SharedState.requestId hshared).trans rfl
  · exact (congrArg SharedState.timeSeriesRequestQueue hshared).trans rfl
  intro x hx
  simp only [getCurrenciesAck] at hx
  split_ifs at hx
  · cases hx
  · obtain rfl := List.mem_singleton.mp hx
    exact tells_other rfl rfl

theorem getInstrumentsAck_histories (env : Env) (ctx : Context) (result : List Json.Instrument) :
    Meets Histories (getInstrumentsAck env ctx result : Handler Y R) := by
  intro s
  obtain ⟨⟨known, multiplier, hshared⟩, hos⟩ :=
    instruments_shared env ctx s.stream.streamId 0 result s.shared
  refine .still ?_ ?_ rfl ?_
  · exact (congrArg SharedState.requestId hshared).trans rfl
  · exact (congrArg SharedState.timeSeriesRequestQueue hshared).trans rfl
  intro x hx
  rcases List.mem_append.mp hx with hx | hx
  · obtain ⟨value, rfl, hid⟩ := hos x hx
    exact tells_report rfl (congrArg some hid)
  · split at hx
    · cases hx
    · cases hx
    · obtain rfl := List.mem_singleton.mp hx
      exact tells_other rfl rfl

theorem tolerates_histories :
    Tolerates (Histories : Scope Y R → List Output → Scope Y R → Prop) where
  composes := composes_histories
  frame s t hshared hstream := .still_nil (by rw [hshared]) (by rw [hshared]) hstream
  report s x h := by
    refine .still_single rfl rfl ?_
    cases x with
    | requested request =>
      cases request with
      | getChartData symbol => exact h.elim
      | _ => exact tells_other rfl rfl
    | streamStatus value => exact tells_report rfl (congrArg some h)
    | externalLatency value => exact tells_report rfl (congrArg some h)
    | timeSeriesUpdate value => exact tells_report rfl (congrArg some h)
    | _ => exact h.elim
  checkRequestQueue _ := checkRequestQueue_histories
  getCurrenciesAck := getCurrenciesAck_histories
  getInstrumentsAck := getInstrumentsAck_histories

/-- A timer, when the limiter lets all through. -/
theorem timer_asks [LimitRequest R] {s : Scope Y R} (hrefreshed : ctx.refreshed = true)
    (hready : s.stream.ready = true)
    (hkept : ctx.dispatch.kept s.shared.timeSeriesRequestQueue = []) :
    ∃ downloads : List Request, (timer ctx s).2 =
      (downloads ++ s.shared.timeSeriesRequestQueue.map Request.getChartData).map .requested := by
  have hmade (made : Bool) (request : Request) : ∃ requests : List Request,
      (if made then [Output.requested request] else []) = requests.map .requested := by
    cases made
    · exact ⟨[], rfl⟩
    · exact ⟨[request], rfl⟩
  have hdownloads : ∃ downloads : List Request,
      (checkDownload ctx s).2 = downloads.map .requested := by
    obtain ⟨currencies, hcurrencies⟩ :
        ∃ requests : List Request, (checkCurrencies ctx s).2 = requests.map .requested :=
      hmade _ .getCurrencies
    obtain ⟨instruments, hinstruments⟩ : ∃ requests : List Request,
        (checkInstruments ctx (checkCurrencies ctx s).1).2 = requests.map .requested :=
      hmade _ .getInstruments
    exact ⟨currencies ++ instruments, by
      rw [checkDownload, seq_snd, hcurrencies, hinstruments, List.map_append]⟩
  obtain ⟨downloads, hdownloads⟩ := hdownloads
  -- the downloads touch neither the connection nor the queue
  have hrest : (checkDownload ctx s).1.stream.ready = true := hready
  have hasked : (checkRequestQueue ctx (checkDownload ctx s).1).2 =
      (s.shared.timeSeriesRequestQueue.map Request.getChartData).map .requested := by
    rw [List.map_map]
    exact congrArg (List.map _) (ctx.dispatch.handed_of_kept hkept)
  refine ⟨downloads, ?_⟩
  rw [timer, if_pos ⟨hrefreshed, hready⟩, seq_snd, hdownloads, if_pos hrest, hasked,
    List.map_append]

end Rest

/-! ## The controller -/

namespace Controller

open Transducer Outbox

variable {Y R W C D : Type}

/-- A subscription to charts, or a request for a history. -/
inductive History
  | charts (channels : List String)
  | asked (symbol : String)

def Output.history? : Output → Option History
  | .webSocket _ value => value.charts?.map .charts
  | .rest value => value.history?.map .asked
  | _ => none

def historyQueue : Reading History String where
  puts
    | .charts channels => channels
    | .asked _ => []
  takes
    | .charts _ => []
    | .asked symbol => [chartChannel symbol]
  clears _ := false

/-- The channels of the symbols whose history is still to be asked for. -/
def waiting (c : Controller Y R W C D) : List String :=
  c.shared.timeSeriesRequestQueue.map chartChannel

/-- Subscriptions put into the queue. -/
theorem charts_serve (subscriptions : List (List String)) (queue : List String) :
    Serves historyQueue queue (subscriptions.map .charts) (queue ++ subscriptions.flatten) := by
  induction subscriptions generalizing queue with
  | nil =>
    rw [List.flatten_nil, List.append_nil]
    exact .nil
  | cons channels subscriptions ih =>
    rw [List.flatten_cons, ← List.append_assoc]
    exact Serves.move (r := historyQueue) (o := .charts channels) rfl (ih (queue ++ channels))

/-- Requests take from the queue. -/
theorem histories_serve (symbols queue : List String) :
    Serves historyQueue (symbols.map chartChannel ++ queue) (symbols.map .asked) queue := by
  induction symbols with
  | nil => exact .nil
  | cons symbol symbols ih =>
    refine Serves.move (r := historyQueue) (o := .asked symbol) rfl ?_
    rwa [show historyQueue.puts (.asked symbol) = [] from rfl, List.append_nil]

/-- Other streams leave the queue alone. -/
theorem silent_serve {α : Type} {f : α → Output} (hf : ∀ x, (f x).history? = none) (os : List α)
    (queue : List String) :
    Serves historyQueue queue (os.filterMap fun x => (f x).history?) queue := by
  rw [List.filterMap_eq_nil_iff.mpr fun x _ => hf x]
  exact .nil

variable [Symbols Y] [LimitRequest R] [Download WebSocket.State W] [Download DropCopy.State C]
  [Download MarketData.State D]

theorem watched_histories (env : Env) :
    Watched env (waiting : Controller Y R W C D → List String) Output.history?
      (fun _ => True) (fun _ _ => False) (Serves historyQueue) where
  composes := ⟨fun _ => .nil, fun h h' => h.trans h'⟩
  told x h := by
    cases x with
    | rest value => cases value <;> first | rfl | exact h.elim
    | webSocket k value => cases value <;> first | rfl | exact h.elim
    | _ => rfl
  aside _ h := h.elim
  dropCopy _ _ _ _ _ _ _ _ := ⟨rfl, fun _ _ _ hy => absurd hy (Option.not_mem_none _)⟩
  symbols _ _ := .nil
  emplaceSymbol _ _ _ := .nil
  createMarketData _ := .nil
  createWebSocket _ := .nil
  rest c ctx event r h := by
    have hqueue : waiting c = (r.2.filterMap Rest.Output.history?).map chartChannel ++
        waiting (c.putRest r.1) := by
      have hmapped := congrArg (List.map chartChannel) (Rest.tolerates_histories.call h).queue
      rwa [List.map_append] at hmapped
    have hasked : (r.2.filterMap Rest.Output.history?).map History.asked =
        r.2.filterMap fun x => Output.history? (.rest x) := List.map_filterMap ..
    rw [hqueue, ← hasked]
    exact histories_serve _ _
  webSocket c k o ctx event r _ h := by
    have hqueue : waiting (c.putWebSocket k r.1) =
        waiting c ++ (r.2.filterMap WebSocket.Output.charts?).flatten :=
      (WebSocket.ignores_charts.call h).queue
    have hcharts : (r.2.filterMap WebSocket.Output.charts?).map History.charts =
        r.2.filterMap fun x => Output.history? (.webSocket k x) := List.map_filterMap ..
    rw [hqueue, ← hcharts]
    exact charts_serve _ _
  marketData c k o ctx event r _ hevent h := by
    have hqueue : waiting (c.putMarketData k r.1) = waiting c :=
      congrArg (List.map chartChannel) (MarketData.call_draws hevent h).timeSeriesRequestQueue
    rw [hqueue]
    exact silent_serve (fun _ => rfl) r.2 _
  securities c k o ctx header noRelatedSym r _ h := by
    have hqueue : waiting (c.putMarketData k (MarketData.check header o, r.1)) = waiting c :=
      congrArg (List.map chartChannel)
        ((MarketData.allows_draws _).securities MarketData.learns_draws o h).timeSeriesRequestQueue
    rw [hqueue]
    exact silent_serve (fun _ => rfl) r.2.1 _
  checkSecurities c k o ctx _ := by
    have hqueue : waiting (c.putMarketData k
        (MarketData.checkSecurities env.marketData ctx (o, c.shared)).1) = waiting c :=
      congrArg (List.map chartChannel)
        ((MarketData.allows_draws _).checkSecurities (o, c.shared)).timeSeriesRequestQueue
    rw [hqueue]
    exact silent_serve (fun _ => rfl) _ _

omit [LimitRequest R] [Download DropCopy.State C] in
/-- Requests are put out as they are. -/
theorem deliverRest_requested (env : Env) (ctx : Context Y) (requests : List Rest.Request)
    (c : Controller Y R W C D) :
    each (deliverRest env ctx) (requests.map .requested) c =
      (c, requests.map fun request => .rest (.requested request)) := by
  induction requests with
  | nil => rfl
  | cons request requests ih =>
    change (_, [_] ++ _) = _
    have hone : deliverRest env ctx (.requested request) c =
        (c, [.rest (.requested request)]) := rfl
    rw [hone, ih]
    rfl

/-- The timer of the REST client, when the limiter lets all through. -/
theorem timer_asks (env : Env) {ctx : Context Y} {c : Controller Y R W C D}
    (hrefreshed : ctx.rest.refreshed = true) (hready : c.rest.ready = true)
    (hkept : ctx.rest.dispatch.kept c.shared.timeSeriesRequestQueue = []) :
    c.shared.timeSeriesRequestQueue.map (fun symbol => .rest (.requested (.getChartData symbol)))
      <:+ (step env c (ctx, .rest .timer)).2 := by
  obtain ⟨downloads, hos⟩ := Rest.timer_asks (s := ⟨c.rest, c.shared, c.requests⟩)
    hrefreshed hready hkept
  have hstep : (step env c (ctx, .rest .timer)).2 =
      (each (deliverRest env ctx) (Rest.timer ctx.rest ⟨c.rest, c.shared, c.requests⟩).2
        (c.putRest (Rest.timer ctx.rest ⟨c.rest, c.shared, c.requests⟩).1)).2 := rfl
  rw [hstep, hos, deliverRest_requested, List.map_append, List.map_map]
  exact List.suffix_append _ _

/-- **Histories are asked for in the order in which charts have been subscribed to**, by
    whichever stream, and each at most once. Those not asked for yet wait, and the timer asks for
    them all when the connection is ready and the rate limiter lets them through. -/
theorem histories_are_requested_in_order (env : Env) (symbols : Y)
    (accounts : List (String × String)) (is : List (Context Y × Event)) :
    let r := run (step env) (initial symbols accounts : Controller Y R W C D) is
    let histories := r.2.filterMap Output.history?
    histories.flatMap historyQueue.takes <+: histories.flatMap historyQueue.puts ∧
    ∀ c, r.1 = some c →
      histories.flatMap historyQueue.takes ++ waiting c = histories.flatMap historyQueue.puts ∧
      ∀ ctx : Context Y, ctx.rest.refreshed = true → c.rest.ready = true →
        ctx.rest.dispatch.kept c.shared.timeSeriesRequestQueue = [] →
        c.shared.timeSeriesRequestQueue.map
          (fun symbol => .rest (.requested (.getChartData symbol))) <:+
            (step env c (ctx, .rest .timer)).2 := by
  have hwatched : Watched env (waiting : Controller Y R W C D → List String) Output.history?
      (fun _ => True) (fun _ _ => False) (Serves historyQueue) := watched_histories env
  obtain ⟨⟨queue, hserves⟩, hend⟩ :=
    hwatched.run (initial symbols accounts) fun i (_ : i ∈ is) _ _ => trivial
  refine ⟨⟨queue, hserves.fifo fun _ => rfl⟩, ?_⟩
  intro c hc
  refine ⟨(hend c hc).fifo fun _ => rfl, ?_⟩
  intro ctx hrefreshed hready hkept
  exact timer_asks env hrefreshed hready hkept

/-- A stream that is not the master logs in, and subscribes to the charts of its symbol. -/
abbrev chartCalls : List (Context SymbolTable × Event) :=
  [.subscribe ["BTC-PERPETUAL", "ETH-PERPETUAL"], .rest .connected,
    .webSocket 1 ⟨.ready, trivial⟩, .webSocket 1 ⟨.message (.auth 0), trivial⟩].map (.plain, ·)

/-- The history waits for the timer. -/
theorem chart_history_waits :
    let env : Env :=
      { Env.plain with webSocket := { WebSocket.Env.plain with timeSeriesLookback := 3600 } }
    ∃ c, (run (step env) plain chartCalls).1 = some c ∧
      waiting c = ["chart.trades.ETH-PERPETUAL.1"] ∧
      ((run (step env) plain chartCalls).2.filterMap Output.history?).flatMap historyQueue.takes ++
          waiting c =
        ((run (step env) plain chartCalls).2.filterMap Output.history?).flatMap
          historyQueue.puts ∧
      [.rest (.requested (.getChartData "ETH-PERPETUAL"))] <:+
        (step env c (.plain, .rest .timer)).2 := by
  intro env
  have hend : (run (step env) plain chartCalls).1.map
      (fun c => (c.rest.ready, c.shared.timeSeriesRequestQueue)) =
        some (true, ["ETH-PERPETUAL"]) := by
    decide +kernel
  obtain ⟨c, hc, hend⟩ := Option.map_eq_some_iff.mp hend
  obtain ⟨hready, hqueue⟩ := Prod.mk.inj hend
  obtain ⟨hwaits, htimer⟩ := (histories_are_requested_in_order env (⟨0, []⟩ : SymbolTable)
    [("a", "key")] chartCalls).2 c hc
  have hasked := htimer .plain rfl hready (by rw [hqueue]; rfl)
  rw [hqueue] at hasked
  refine ⟨c, hc, ?_, hwaits, hasked⟩
  rw [waiting, hqueue]
  rfl

/-! ## Ids of requests -/

def Output.requestId? : Output → Option String
  | .marketData _ value => value.requestId?
  | _ => none

theorem watched_requestIds (env : Env) :
    Watched env (fun c : Controller Y R W C D => c.shared.requestId) Output.requestId?
      (fun _ => True) (fun _ _ => False) Drawn where
  composes := composes_drawn
  told x h := by
    cases x with
    | marketData k value => exact h.elim
    | _ => rfl
  aside _ h := h.elim
  dropCopy _ _ _ _ _ _ _ _ := ⟨rfl, fun _ _ _ hy => absurd hy (Option.not_mem_none _)⟩
  symbols _ _ := rfl
  emplaceSymbol _ _ _ := rfl
  createMarketData _ := rfl
  createWebSocket _ := rfl
  rest c ctx event r h := by
    have hnone : r.2.filterMap (fun x => Output.requestId? (.rest x)) = [] :=
      List.filterMap_eq_nil_iff.mpr fun _ _ => rfl
    rw [hnone]
    exact (Rest.tolerates_histories.call h).requestId
  webSocket c k o ctx event r _ h := by
    have hnone : r.2.filterMap (fun x => Output.requestId? (.webSocket k x)) = [] :=
      List.filterMap_eq_nil_iff.mpr fun _ _ => rfl
    rw [hnone]
    exact (WebSocket.ignores_charts.call h).requestId
  marketData c k o ctx event r _ hevent h := (MarketData.call_draws hevent h).requestIds
  securities c k o ctx header noRelatedSym r _ h :=
    ((MarketData.allows_draws _).securities MarketData.learns_draws o h).requestIds
  checkSecurities c k o ctx _ :=
    have hdraws : MarketData.Draws (o, c.shared)
        (MarketData.checkSecurities env.marketData ctx (o, c.shared)).2
        (MarketData.checkSecurities env.marketData ctx (o, c.shared)).1 :=
      (MarketData.allows_draws _).checkSecurities _
    hdraws.requestIds

end Controller

/-! ## The process -/

namespace Process

open Transducer Parallel

variable {Y R W C D E : Type}

/-- The id of a request, whichever stream sends it. -/
def Output.requestId? : Output → Option String
  | .controller value => value.requestId?
  | .orderEntry _ value => value.requestId?
  | .threw _ => none

/-- The last request id that has been drawn. -/
def lastId (p : Process Y R W C D E) : UInt32 := p.2.shared.requestId

theorem draw_requestId (n : ℕ) (c : Controller Y R W C D) :
    (draw n c).shared.requestId = c.shared.requestId + .ofNat n := by
  have hiterate : ∀ shared : SharedState Y,
      ((fun shared => shared.nextRequestId.1)^[n] shared).requestId =
        shared.requestId + .ofNat n := by
    induction n with
    | zero => exact fun shared => (UInt32.add_zero _).symm
    | succ n ih =>
      intro shared
      rw [Function.iterate_succ_apply, ih, UInt32.ofNat_add, UInt32.add_comm (UInt32.ofNat n),
        ← UInt32.add_assoc]
      rfl
  exact hiterate c.shared

variable [Symbols Y] [LimitRequest R] [Download WebSocket.State W] [Download DropCopy.State C]
  [Download MarketData.State D] [Download2 E]

omit [Symbols Y] [LimitRequest R] [Download WebSocket.State W] [Download DropCopy.State C]
  [Download MarketData.State D] in
/-- An order entry stream draws the ids of its requests. -/
theorem call_draws (env : Env) (p : Process Y R W C D E)
    (i : String × OrderEntry.Context × OrderEntry.Event) :
    Relates lastId (fun o => OrderEntry.Output.requestId? o.2) Drawn p
      (call (streams env) p i) := by
  obtain ⟨account, ctx, event⟩ := i
  obtain ⟨b, hdrawn⟩ := OrderEntry.step_drawn (env.orderEntry account)
    { ctx with requestId := lastId p } (p.1 account) event
  have hids : (call (streams env) p (account, ctx, event)).2.filterMap
        (fun o => OrderEntry.Output.requestId? o.2) =
      (OrderEntry.step (env.orderEntry account) (p.1 account)
        ({ ctx with requestId := lastId p }, event)).2.filterMap OrderEntry.Output.requestId? := by
    simp only [call, List.filterMap_map]
    rfl
  unfold Relates
  rw [hids]
  refine ⟨⟨b, hdrawn⟩, ?_⟩
  intro q hq
  simp only [call, streams, callStream, Option.map_map, Option.map_eq_some_iff] at hq
  obtain ⟨o, -, rfl⟩ := hq
  have hlast : b = lastId (Function.update p.1 account o, draw (((OrderEntry.step
      (env.orderEntry account) (p.1 account)
        ({ ctx with requestId := lastId p }, event)).2.filterMap
          OrderEntry.Output.requestId?).length) p.2) :=
    hdrawn.last.trans (draw_requestId _ _).symm
  exact hlast ▸ hdrawn

/-- Every call draws the ids of its requests. -/
theorem step_draws (env : Env) (accounts : Accounts) (p : Process Y R W C D E)
    (i : Context Y × Event) :
    Relates lastId Output.requestId? Drawn p (step env accounts p i) := by
  have hstreams : ∀ r : Option (Process Y R W C D E) × List (String × OrderEntry.Output),
      Relates lastId (fun o => OrderEntry.Output.requestId? o.2) Drawn p r →
        Relates lastId Output.requestId? Drawn p (ofStreams r) := by
    intro r h
    have hids : (ofStreams r).2.filterMap Output.requestId? =
        r.2.filterMap fun o => OrderEntry.Output.requestId? o.2 := by
      simp only [ofStreams, List.filterMap_map]
      rfl
    unfold Relates
    rw [hids]
    exact h
  have hnone : ∀ os : List Output, os.filterMap Output.requestId? = [] →
      Relates lastId Output.requestId? Drawn p (some p, os) := by
    intro os hos
    unfold Relates
    rw [hos]
    refine ⟨⟨_, rfl⟩, ?_⟩
    intro q hq
    obtain rfl := Option.some.inj hq
    exact rfl
  obtain ⟨ctx, event⟩ := i
  cases event with
  | controller event =>
    have hwatched : Controller.Watched env.controller
        (fun c : Controller Y R W C D => c.shared.requestId) Controller.Output.requestId?
        (fun _ => True) (fun _ _ => False) Drawn := Controller.watched_requestIds env.controller
    obtain ⟨hdrawn, hnext⟩ := hwatched.step p.2 (i := (ctx.controller, event)) fun _ _ => trivial
    have hids : (step env accounts p (ctx, .controller event)).2.filterMap Output.requestId? =
        (Controller.step env.controller p.2 (ctx.controller, event)).2.filterMap
          Controller.Output.requestId? := by
      simp only [step, List.filterMap_map]
      rfl
    unfold Relates
    rw [hids]
    refine ⟨hdrawn, ?_⟩
    intro q hq
    obtain ⟨c, hc, rfl⟩ := Option.map_eq_some_iff.mp hq
    exact hnext c hc
  | timer now =>
    exact hstreams _ (run_shows composes_drawn.refl composes_drawn.trans
      (fun p i _ => call_draws env p i)
      (guarded_of_forall (G := fun _ _ => True) fun _ _ _ => trivial))
  | action account event =>
    simp only [step]
    split_ifs
    · exact hstreams _ (call_draws env p _)
    · exact hnone _ rfl
  | massQuote => exact hnone _ rfl
  | cancelQuotes => exact hnone _ rfl
  | orderEntry account event =>
    simp only [step]
    split_ifs
    · exact hstreams _ (call_draws env p _)
    · exact hnone _ rfl

/-- **No two requests have the same id**, whichever streams send them and in whichever sessions,
    as long as the counter does not wrap: they are numbered from one on. -/
theorem request_ids_are_distinct (env : Env) (symbols : Y) (accounts : Accounts)
    (is : List (Context Y × Event)) {ids : List String}
    (hids : (run (step env accounts)
      (initial symbols accounts : Process Y R W C D E) is).2.filterMap Output.requestId? = ids)
    (hlength : ids.length < 2 ^ 32) :
    ids = (List.range ids.length).map (fun i => "roq-" ++ toString (i + 1)) ∧ ids.Nodup := by
  subst hids
  obtain ⟨⟨b, hdrawn⟩, -⟩ := run_shows composes_drawn.refl composes_drawn.trans
    (fun p i _ => step_draws env accounts p i)
    (guarded_of_forall (G := fun _ _ => True) fun _ (_ : _ ∈ is) _ => trivial)
    (s := (initial symbols accounts : Process Y R W C D E))
  exact ⟨hdrawn.eq_map hlength, hdrawn.nodup hlength⟩

/-- The first account asks for its positions, the master for the securities, and the first account
    for its orders. -/
theorem three_requests_are_distinct :
    (run (step .plain twoAccounts) plain logOns).2.filterMap Output.requestId? =
        ["roq-1", "roq-2", "roq-3"] ∧
      ((run (step .plain twoAccounts) plain logOns).2.filterMap Output.requestId?).Nodup :=
  ⟨by decide +kernel, (request_ids_are_distinct .plain (⟨0, []⟩ : SymbolTable) twoAccounts
    logOns rfl (by decide +kernel)).2⟩

end Process

end DeribitGateway
