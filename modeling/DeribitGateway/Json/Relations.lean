import DeribitGateway.Json.DropCopy
import DeribitGateway.Json.RestHandlers
import DeribitGateway.Json.WebSocket

/-!
# What handlers of the JSON streams have in common

Most handlers of the two kinds of web socket stream report, put requests into their queue, and
change a part of the state that a given result does not look at. For a relation between the
state before a handler, its outputs and the state after, `WebSocket.Tolerates` and
`DropCopy.Tolerates` say that it allows for that; the lemmas behind them draw from it that the
relation holds of every call, unless it speaks of prices. `WebSocket.Ignores` allows for these,
too. Of the REST client, `Rest.Tolerates` leaves the queue of histories and the two downloads to
the relation.
-/

namespace DeribitGateway

open Emission StagedDownload

/-- The log-in, which does not go through the queue. -/
def Json.Request.IsLogin : Json.Request → Bool
  | .auth .. => true
  | _ => false

/-- A subscription to charts, which goes with the queue of histories. -/
def Json.Request.IsCharts : Json.Request → Bool
  | .publicSubscribe _ .subscribeChartTrades => true
  | _ => false

namespace WebSocket

variable {W Y R : Type} {env : Env} {ctx : Context}

/-- A report of a stream, but for the end of a session, and what has nothing to do with its
    queue. -/
def Output.Reports (streamId : UInt16) : Output → Prop
  | .queued _ => False
  | .sentText request => request.IsLogin = true
  | .streamStatus value => value.streamId = streamId ∧ value.connectionStatus ≠ .disconnected
  | .externalLatency value => value.streamId = streamId
  | .latch => True
  | .marketSegmentStatus value => value.streamId = streamId
  | .topOfBook value => value.streamId = streamId
  | .marketStatus value => value.streamId = streamId

/-- What only a quote or a ticker brings. -/
def Output.IsPrice : Output → Bool
  | .topOfBook _ => true
  | .marketStatus _ => true
  | _ => false

/-- The relation allows for reports, and for what touches neither what is shared nor the queue
    nor what is known of prices. -/
structure Tolerates [Download State W] (Q : Scope W Y R → List Output → Scope W Y R → Prop) :
    Prop where
  composes : Composes Q
  frame : ∀ s t : Scope W Y R, t.shared = s.shared → t.stream.streamId = s.stream.streamId →
    t.stream.subscribeQueue = s.stream.subscribeQueue →
    t.stream.topOfBook = s.stream.topOfBook →
    t.stream.tradingStatus = s.stream.tradingStatus → Q s [] t
  report : ∀ (s : Scope W Y R) x, x.Reports s.stream.streamId → x.IsPrice = false → Q s [x] s
  enqueue : ∀ request : Json.Request, request.IsLogin = false → request.IsCharts = false →
    Meets Q (enqueue request)
  subscribeChartTrades : ∀ symbols, symbols ≠ [] → Meets Q (subscribeChartTrades symbols)
  checkSubscribeQueue : ∀ ctx, Meets Q (checkSubscribeQueue ctx)
  disconnected : Meets Q disconnected

namespace Tolerates

variable [Download State W] {Q : Scope W Y R → List Output → Scope W Y R → Prop}

theorem publish (hQ : Tolerates Q) {connectionStatus : ConnectionStatus}
    (h : connectionStatus ≠ .disconnected) (reason : String) :
    Meets Q (publish connectionStatus reason : Handler W Y R) := by
  intro s
  refine hQ.composes.trans (hQ.report s _ ?_ rfl) (hQ.frame s _ rfl rfl rfl rfl rfl)
  exact ⟨rfl, h⟩

theorem subscribeSymbols (hQ : Tolerates Q) (symbols : List String) :
    Meets Q (subscribeSymbols env symbols : Handler W Y R) := by
  apply Meets.ite
  · intro _
    exact hQ.composes.skip
  · intro hempty
    apply hQ.composes.seq
    · exact Meets.ite (fun _ => hQ.composes.skip) fun _ => hQ.enqueue _ rfl rfl
    · apply hQ.composes.seq (hQ.enqueue _ rfl rfl)
      refine Meets.ite (fun _ => hQ.subscribeChartTrades symbols ?_) fun _ => hQ.composes.skip
      simpa using hempty

theorem subscribe [Symbols Y] (hQ : Tolerates Q) (startFrom : ℕ) :
    Meets Q (subscribe env startFrom : Handler W Y R) := by
  intro s
  unfold WebSocket.subscribe
  split_ifs
  · exact hQ.subscribeSymbols _ s
  · exact hQ.composes.refl s

theorem upgraded (hQ : Tolerates Q) : Meets Q (upgraded env ctx : Handler W Y R) :=
  hQ.composes.seq (fun s => hQ.report s _ rfl rfl) (hQ.publish (by decide) "")

variable [Symbols Y] [LimitRequest R]

theorem downloadState (hQ : Tolerates Q) (state : State) :
    Meets Q (downloadState env state : Handler W Y R) := by
  cases state with
  | undefined => exact hQ.composes.skip
  | currencies =>
    intro s
    have hrequest : Meets Q (downloadCurrencies : Handler W Y R) :=
      fun s => hQ.frame s _ rfl rfl rfl rfl rfl
    simp only [WebSocket.downloadState]
    split_ifs
    · exact hQ.composes.seq (hQ.publish (by decide) _) hrequest s
    · exact hQ.composes.refl s
  | instruments =>
    intro s
    have hrequest : Meets Q (downloadInstruments : Handler W Y R) :=
      fun s => hQ.frame s _ rfl rfl rfl rfl rfl
    simp only [WebSocket.downloadState]
    split_ifs
    · exact hQ.composes.seq (hQ.publish (by decide) _) hrequest s
    · exact hQ.composes.refl s
  | subscribe =>
    apply hQ.composes.seq
    · exact fun s => hQ.frame s _ rfl rfl rfl rfl rfl
    · refine hQ.composes.seq (hQ.publish (by decide) _) (hQ.composes.seq ?_ (hQ.subscribe 0))
      intro s
      simp only
      split_ifs
      · exact hQ.composes.seq (hQ.enqueue _ rfl rfl) (hQ.enqueue _ rfl rfl) s
      · exact hQ.composes.refl s
  | done =>
    exact hQ.composes.seq (fun s => hQ.report s _ trivial rfl) (hQ.publish (by decide) _)

theorem advance (hQ : Tolerates Q) (move : WebSocket W → W × List State) :
    Meets Q (advance env move : Handler W Y R) := by
  intro s
  have hmove : Q s [] { s with stream := { s.stream with download := (move s.stream).1 } } :=
    hQ.frame s _ rfl rfl rfl rfl rfl
  exact hQ.composes.after hmove (hQ.composes.each hQ.downloadState _ _)

theorem timer (hQ : Tolerates Q) : Meets Q (timer env ctx : Handler W Y R) := by
  apply Meets.ite
  · intro _
    refine hQ.composes.seq ?_ (hQ.composes.seq ?_ ?_)
    · intro s
      simp only
      split_ifs
      · exact hQ.checkSubscribeQueue ctx s
      · exact hQ.composes.refl s
    · intro s
      unfold checkCurrencies
      split_ifs
      · exact hQ.advance _ s
      · exact hQ.composes.refl s
    · intro s
      unfold checkInstruments
      split_ifs
      · exact hQ.advance _ s
      · exact hQ.composes.refl s
  · intro _
    exact hQ.composes.skip

/-- A message that does not speak of prices. -/
theorem parse (hQ : Tolerates Q) {value : Json.Message} (hquote : ∀ value', value ≠ .quote value')
    (hticker : ∀ value', value ≠ .ticker value') {s : Scope W Y R}
    {r : Scope W Y R × List Output} (h : parse env value s = some r) : Q s r.2 r.1 := by
  cases value with
  | auth errorCode =>
    obtain rfl := Option.some.inj h
    exact hQ.advance _ s
  | platformState value =>
    simp only [WebSocket.parse] at h
    split_ifs at h
    obtain rfl := Option.some.inj h
    exact hQ.report s _ rfl rfl
  | instrumentState =>
    simp only [WebSocket.parse] at h
    split_ifs at h
    obtain rfl := Option.some.inj h
    exact hQ.composes.refl s
  | quote value' => exact absurd rfl (hquote value')
  | ticker value' => exact absurd rfl (hticker value')
  | subscribeAck _ | chartTrades _ _ =>
    obtain rfl := Option.some.inj h
    exact hQ.composes.refl s
  | _ => cases h

/-- **A call** that does not speak of prices. -/
theorem call (hQ : Tolerates Q) {event : Event} (hquote : ∀ value, event ≠ .message (.quote value))
    (hticker : ∀ value, event ≠ .message (.ticker value)) {s : Scope W Y R}
    {r : Scope W Y R × List Output} (h : call env ctx event s = some r) : Q s r.2 r.1 := by
  cases event with
  | timer =>
    obtain rfl := Option.some.inj h
    exact hQ.timer s
  | subscribe startFrom =>
    obtain rfl := Option.some.inj h
    exact hQ.subscribe startFrom s
  | disconnected =>
    obtain rfl := Option.some.inj h
    exact hQ.disconnected s
  | ready =>
    obtain rfl := Option.some.inj h
    exact hQ.upgraded s
  | latency sample =>
    obtain rfl := Option.some.inj h
    exact hQ.report s _ rfl rfl
  | message value =>
    refine hQ.parse ?_ ?_ h
    · rintro value' rfl
      exact hquote value' rfl
    · rintro value' rfl
      exact hticker value' rfl
  | connected | close =>
    obtain rfl := Option.some.inj h
    exact hQ.composes.refl s
  | binary => cases h

end Tolerates

/-- The relation does not look at what is known of prices either. -/
structure Ignores [Download State W] (Q : Scope W Y R → List Output → Scope W Y R → Prop) :
    Prop where
  composes : Composes Q
  frame : ∀ s t : Scope W Y R, t.shared = s.shared → t.stream.streamId = s.stream.streamId →
    t.stream.subscribeQueue = s.stream.subscribeQueue → Q s [] t
  report : ∀ (s : Scope W Y R) x, x.Reports s.stream.streamId → Q s [x] s
  enqueue : ∀ request : Json.Request, request.IsLogin = false → request.IsCharts = false →
    Meets Q (enqueue request)
  subscribeChartTrades : ∀ symbols, symbols ≠ [] → Meets Q (subscribeChartTrades symbols)
  checkSubscribeQueue : ∀ ctx, Meets Q (checkSubscribeQueue ctx)
  disconnected : Meets Q disconnected

namespace Ignores

variable [Download State W] {Q : Scope W Y R → List Output → Scope W Y R → Prop}

theorem tolerates (hQ : Ignores Q) : Tolerates Q where
  composes := hQ.composes
  frame s t hshared hid hqueue _ _ := hQ.frame s t hshared hid hqueue
  report s x hx _ := hQ.report s x hx
  enqueue := hQ.enqueue
  subscribeChartTrades := hQ.subscribeChartTrades
  checkSubscribeQueue := hQ.checkSubscribeQueue
  disconnected := hQ.disconnected

theorem set (hQ : Ignores Q) (f : WebSocket W → WebSocket W)
    (hid : ∀ o, (f o).streamId = o.streamId)
    (hqueue : ∀ o, (f o).subscribeQueue = o.subscribeQueue) :
    Meets Q (set f : Handler W Y R) :=
  fun s => hQ.frame s _ rfl (hid s.stream) (hqueue s.stream)

theorem quote (hQ : Ignores Q) (value : Json.Quote) :
    Meets Q (quote env value : Handler W Y R) := by
  intro s
  unfold WebSocket.quote
  split_ifs
  · split
    · exact hQ.composes.refl s
    · refine hQ.composes.trans (hQ.set _ ?_ ?_ s) ?_
      · exact fun _ => rfl
      · exact fun _ => rfl
      · simp only [emit_apply]
        split_ifs
        · exact hQ.composes.refl _
        · exact hQ.report _ _ rfl
  · exact hQ.composes.refl s

theorem ticker (hQ : Ignores Q) (value : Json.Ticker) :
    Meets Q (ticker env value : Handler W Y R) := by
  intro s
  unfold WebSocket.ticker
  simp only
  split_ifs
  · refine hQ.composes.trans (hQ.set _ ?_ ?_ s) (hQ.report _ _ ?_)
    · exact fun _ => rfl
    · exact fun _ => rfl
    · rfl
  · exact hQ.composes.refl s

/-- **A call.** -/
theorem call [Symbols Y] [LimitRequest R] (hQ : Ignores Q) {event : Event} {s : Scope W Y R}
    {r : Scope W Y R × List Output} (h : call env ctx event s = some r) : Q s r.2 r.1 := by
  by_cases hquote : ∀ value, event ≠ .message (.quote value)
  · by_cases hticker : ∀ value, event ≠ .message (.ticker value)
    · exact hQ.tolerates.call hquote hticker h
    · simp only [not_forall, not_not] at hticker
      obtain ⟨value, rfl⟩ := hticker
      obtain rfl := Option.some.inj h
      exact hQ.ticker value s
  · simp only [not_forall, not_not] at hquote
    obtain ⟨value, rfl⟩ := hquote
    obtain rfl := Option.some.inj h
    exact hQ.quote value s

end Ignores

/-- Of what is shared, only the queue of histories changes. -/
def Waits (s : Scope W Y R) (_ : List Output) (t : Scope W Y R) : Prop :=
  { t.shared with timeSeriesRequestQueue := [] } = { s.shared with timeSeriesRequestQueue := [] }

theorem ignores_waits [Download State W] :
    Ignores (Waits : Scope W Y R → List Output → Scope W Y R → Prop) where
  composes := composes_eq fun s : Scope W Y R => { s.shared with timeSeriesRequestQueue := [] }
  frame s t hshared _ _ := by simp only [Waits, hshared]
  report _ _ _ := rfl
  enqueue _ _ _ _ := rfl
  subscribeChartTrades _ _ _ := rfl
  checkSubscribeQueue _ _ := rfl
  disconnected _ := rfl

end WebSocket

namespace DropCopy

variable {C : Type} {env : Env} {ctx : Context}

/-- A report of a stream, but for the end of a session, and what has nothing to do with its
    queue. -/
def Output.Reports (streamId : UInt16) : Output → Prop
  | .queued _ => False
  | .sentText request => request.IsLogin = true
  | .streamStatus value => value.streamId = streamId ∧ value.connectionStatus ≠ .disconnected
  | .externalLatency value => value.streamId = streamId
  | .marketSegmentStatus value => value.streamId = streamId
  | .fundsUpdate value => value.streamId = streamId
  | .tradeUpdate value _ => value.streamId = streamId
  | .closed => True

/-- The relation allows for reports, and for what does not touch the queue. -/
structure Tolerates [Download State C] (Q : DropCopy C → List Output → DropCopy C → Prop) :
    Prop where
  composes : Composes Q
  frame : ∀ o o' : DropCopy C, o'.streamId = o.streamId → o'.subscribeQueue = o.subscribeQueue →
    Q o [] o'
  report : ∀ (o : DropCopy C) x, x.Reports o.streamId → Q o [x] o
  enqueue : ∀ request : Json.Request, request.IsLogin = false → Meets Q (enqueue request)
  checkSubscribeQueue : ∀ ctx, Meets Q (checkSubscribeQueue ctx)
  disconnected : Meets Q disconnected

namespace Tolerates

variable [Download State C] {Q : DropCopy C → List Output → DropCopy C → Prop}

theorem publish (hQ : Tolerates Q) {connectionStatus : ConnectionStatus}
    (h : connectionStatus ≠ .disconnected) (reason : String) :
    Meets Q (publish connectionStatus reason : Handler C) := by
  intro o
  refine hQ.composes.trans (hQ.report o _ ?_) (hQ.frame o _ rfl rfl)
  exact ⟨rfl, h⟩

theorem getAccountSummary (hQ : Tolerates Q) (currencies : List String) :
    Meets Q (getAccountSummary currencies : Handler C) :=
  hQ.composes.each (fun _ => hQ.enqueue _ rfl) currencies

theorem getUserTradesByCurrency (hQ : Tolerates Q) (currencies : List String) :
    Meets Q (getUserTradesByCurrency env ctx currencies : Handler C) :=
  fun o => hQ.composes.each (fun _ => hQ.enqueue _ rfl) currencies o

theorem requestCurrencies (hQ : Tolerates Q) (currencies : List String) :
    Meets Q (requestCurrencies env ctx currencies : Handler C) :=
  hQ.composes.seq (hQ.enqueue _ rfl) (hQ.composes.seq (hQ.getAccountSummary currencies)
    (hQ.getUserTradesByCurrency currencies))

theorem currenciesUpdate (hQ : Tolerates Q) (currencies : List String) :
    Meets Q (currenciesUpdate env ctx currencies : Handler C) := by
  apply hQ.composes.seq
  · intro o
    exact hQ.frame o _ rfl rfl
  · intro o
    simp only
    split_ifs
    · exact hQ.requestCurrencies currencies o
    · exact hQ.composes.refl o

theorem latch (hQ : Tolerates Q) : Meets Q (latch env ctx : Handler C) := by
  intro o
  unfold DropCopy.latch
  split_ifs
  · exact hQ.composes.refl o
  · refine hQ.composes.seq ?_ ?_ o
    · intro o
      exact hQ.frame o _ rfl rfl
    · intro o
      simp only
      split_ifs
      · exact hQ.requestCurrencies _ o
      · exact hQ.composes.refl o

theorem upgraded (hQ : Tolerates Q) : Meets Q (upgraded ctx : Handler C) :=
  hQ.composes.seq (fun o => hQ.report o _ rfl) (hQ.publish (by decide) "")

theorem latched (hQ : Tolerates Q) (state : State) {f : Handler C} (hf : Meets Q f) :
    Meets Q (latched state f) := by
  intro o
  unfold DropCopy.latched
  split_ifs
  · exact hQ.composes.seq (hQ.publish (by decide) _) hf o
  · exact hQ.composes.refl o

theorem downloadState (hQ : Tolerates Q) (state : State) :
    Meets Q (downloadState env ctx state : Handler C) := by
  cases state with
  | undefined => exact hQ.composes.skip
  | subscribeUserPortfolio => exact hQ.latched _ fun o => hQ.enqueue _ rfl o
  | getAccountSummary => exact hQ.latched _ fun o => hQ.getAccountSummary o.currencies o
  | getUserTradesByCurrency =>
    exact hQ.latched _ fun o => hQ.getUserTradesByCurrency o.currencies o
  | done =>
    apply hQ.composes.seq (hQ.publish (by decide) _)
    intro o
    exact hQ.frame o _ rfl rfl
  | _ => exact hQ.composes.seq (hQ.publish (by decide) _) (hQ.enqueue _ rfl)

theorem trades (hQ : Tolerates Q) (isDownload : Bool) (items : List Json.Trade) :
    Meets Q (trades env ctx isDownload items : Handler C) := by
  induction items with
  | nil => exact hQ.composes.skip
  | cons item items ih => exact hQ.composes.seq (fun o => hQ.report o _ rfl) ih

theorem parse (hQ : Tolerates Q) {value : Json.Message} {o : DropCopy C}
    {r : DropCopy C × List Output} (h : parse env ctx value o = some r) : Q o r.2 r.1 := by
  cases value with
  | auth errorCode =>
    simp only [DropCopy.parse, auth] at h
    split_ifs at h
    · obtain rfl := Option.some.inj h
      exact hQ.report o _ trivial
    · obtain rfl := Option.some.inj h
      have hmove : Q o [] { o with download := (Download.begin downloadCount o.download).1 } :=
        hQ.frame o _ rfl rfl
      exact hQ.composes.after hmove (hQ.composes.each hQ.downloadState _ _)
  | platformState _ | userPortfolio _ =>
    obtain rfl := Option.some.inj h
    exact hQ.report o _ rfl
  | userChanges items =>
    obtain rfl := Option.some.inj h
    exact hQ.trades false items o
  | userTrades data =>
    obtain rfl := Option.some.inj h
    refine hQ.composes.seq (hQ.trades true data) ?_ o
    intro o
    exact hQ.frame o _ rfl rfl
  | subscribeAck _ | userOrders | getAccountSummaryAck | getUserTradesByCurrencyAck _ =>
    obtain rfl := Option.some.inj h
    exact hQ.composes.refl o
  | _ => cases h

/-- **A call.** -/
theorem call (hQ : Tolerates Q) {event : Event} {o : DropCopy C} {r : DropCopy C × List Output}
    (h : call env ctx event o = some r) : Q o r.2 r.1 := by
  cases event with
  | currenciesUpdate currencies =>
    obtain rfl := Option.some.inj h
    exact hQ.currenciesUpdate currencies o
  | latch =>
    obtain rfl := Option.some.inj h
    exact hQ.latch o
  | timer =>
    obtain rfl := Option.some.inj h
    unfold timer
    split_ifs
    · exact hQ.checkSubscribeQueue ctx o
    · exact hQ.composes.refl o
  | disconnected =>
    obtain rfl := Option.some.inj h
    exact hQ.disconnected o
  | ready =>
    obtain rfl := Option.some.inj h
    exact hQ.upgraded o
  | latency sample =>
    obtain rfl := Option.some.inj h
    exact hQ.report o _ rfl
  | message value => exact hQ.parse h
  | connected | close =>
    obtain rfl := Option.some.inj h
    exact hQ.composes.refl o
  | binary => cases h

end Tolerates

end DropCopy

namespace Rest

variable {Y R α : Type} {env : Env} {ctx : Context}

/-- A report of the client, or a request for one of the two downloads. -/
def Output.Reports (streamId : UInt16) : Output → Prop
  | .requested (.getChartData _) => False
  | .requested _ => True
  | .streamStatus value => value.streamId = streamId
  | .externalLatency value => value.streamId = streamId
  | .timeSeriesUpdate value => value.streamId = streamId
  | .currenciesUpdate _ | .referenceData _ | .symbolsUpdate _ => False

/-- Only what is known of the currencies changes. -/
theorem newCurrencies_shared (currencies : List String) (shared : SharedState Y) :
    ∃ known, (newCurrencies currencies shared).1 = { shared with allCurrencies := known } := by
  induction currencies generalizing shared with
  | nil => exact ⟨_, rfl⟩
  | cons currency currencies ih =>
    obtain ⟨known, hknown⟩ := ih { shared with allCurrencies := insert currency _ }
    exact ⟨known, hknown⟩

/-- Only what is known of the symbols changes, and instruments are reported. -/
theorem instruments_shared (env : Env) (ctx : Context) (streamId : UInt16) (i : ℕ)
    (items : List Json.Instrument) (shared : SharedState Y) :
    (∃ known multiplier, (instruments env ctx streamId i items shared).1 =
        { shared with allSymbols := known, multiplier := multiplier }) ∧
      ∀ x ∈ (instruments env ctx streamId i items shared).2.1,
        ∃ value : ReferenceData, x = .referenceData value ∧ value.streamId = streamId := by
  induction items generalizing i shared with
  | nil => exact ⟨⟨_, _, rfl⟩, fun _ hx => absurd hx List.not_mem_nil⟩
  | cons item items ih =>
    by_cases h : Throws env ctx i
    · rw [instruments_throws item items shared h]
      exact ⟨⟨_, _, rfl⟩, fun _ hx => absurd hx List.not_mem_nil⟩
    · obtain ⟨discard, hdiscard⟩ := Option.ne_none_iff_exists'.mp (not_or.mp h).1
      rw [instruments_cons item items shared h hdiscard]
      have hreport : ∀ x ∈ report env streamId item discard,
          ∃ value : ReferenceData, x = .referenceData value ∧ value.streamId = streamId := by
        intro x hx
        unfold report at hx
        split_ifs at hx
        · cases hx
        · obtain rfl := List.mem_singleton.mp hx
          exact ⟨_, rfl, rfl⟩
      cases discard with
      | true =>
        obtain ⟨⟨known, multiplier, hshared⟩, hos⟩ := ih (i + 1) (noted env item shared)
        exact ⟨⟨known, multiplier, hshared⟩,
          fun x hx => (List.mem_append.mp hx).elim (hreport x) (hos x)⟩
      | false =>
        obtain ⟨⟨known, multiplier, hshared⟩, hos⟩ := ih (i + 1)
          ((noted env item shared).emplaceSymbol item.instrumentName).1
        exact ⟨⟨known, multiplier, hshared⟩,
          fun x hx => (List.mem_append.mp hx).elim (hreport x) (hos x)⟩

/-- The relation allows for reports, for what touches nothing that is shared, for the requests
    from the queue of histories, and for what the two downloads bring. -/
structure Tolerates (Q : Scope Y R → List Output → Scope Y R → Prop) : Prop where
  composes : Composes Q
  frame : ∀ s t : Scope Y R, t.shared = s.shared → t.stream.streamId = s.stream.streamId →
    Q s [] t
  report : ∀ (s : Scope Y R) x, x.Reports s.stream.streamId → Q s [x] s
  checkRequestQueue : ∀ ctx, Meets Q (checkRequestQueue ctx)
  getCurrenciesAck : ∀ result, Meets Q (getCurrenciesAck result)
  getInstrumentsAck : ∀ env ctx result, Meets Q (getInstrumentsAck env ctx result)

namespace Tolerates

variable {Q : Scope Y R → List Output → Scope Y R → Prop}

theorem publish (hQ : Tolerates Q) (connectionStatus : ConnectionStatus) (reason : String) :
    Meets Q (publish connectionStatus reason : Handler Y R) := by
  intro s
  refine hQ.composes.trans (hQ.report s _ ?_) (hQ.frame s _ ?_ ?_)
  · exact rfl
  · rfl
  · rfl

/-- A handler of the body of a response. -/
theorem processResponse (hQ : Tolerates Q)
    {handle : α → Scope Y R → Option (Scope Y R × List Output)} {response : Response α}
    {s : Scope Y R} {r : Scope Y R × List Output}
    (hhandle : ∀ result, handle result s = some r → Q s r.2 r.1)
    (h : processResponse handle response s = some r) : Q s r.2 r.1 := by
  obtain ⟨-, rfl⟩ | ⟨result, -, hresult⟩ := processResponse_cases h
  · exact hQ.composes.refl s
  · exact hhandle result hresult

variable [LimitRequest R]

theorem checkDownload (hQ : Tolerates Q) : Meets Q (checkDownload ctx : Handler Y R) := by
  apply hQ.composes.seq
  · intro s
    simp only [checkCurrencies]
    split_ifs
    · refine hQ.composes.trans (hQ.report s _ ?_) (hQ.frame s _ ?_ ?_)
      · trivial
      · rfl
      · rfl
    · exact hQ.frame s _ rfl rfl
  · intro s
    simp only [checkInstruments]
    split_ifs
    · refine hQ.composes.trans (hQ.report s _ ?_) (hQ.frame s _ ?_ ?_)
      · trivial
      · rfl
      · rfl
    · exact hQ.frame s _ rfl rfl

theorem timer (hQ : Tolerates Q) : Meets Q (timer ctx : Handler Y R) := by
  intro s
  unfold Rest.timer
  split_ifs
  · refine hQ.composes.seq hQ.checkDownload ?_ s
    intro s
    show Q s (if s.stream.ready then _ else _ : Scope Y R × List Output).2
      (if s.stream.ready then _ else _ : Scope Y R × List Output).1
    split_ifs
    · exact hQ.checkRequestQueue ctx s
    · exact hQ.composes.refl s
  · exact hQ.composes.refl s

/-- **A call.** -/
theorem call (hQ : Tolerates Q) {event : Event} {s : Scope Y R} {r : Scope Y R × List Output}
    (h : call env ctx event s = some r) : Q s r.2 r.1 := by
  cases event with
  | timer =>
    obtain rfl := Option.some.inj h
    exact hQ.timer s
  | connected =>
    obtain rfl := Option.some.inj h
    exact hQ.composes.seq (hQ.publish _ _) hQ.checkDownload s
  | disconnected =>
    obtain rfl := Option.some.inj h
    exact hQ.publish _ _ s
  | latency sample =>
    obtain rfl := Option.some.inj h
    exact hQ.report s _ rfl
  | getCurrenciesAck response =>
    obtain ⟨⟨t, os⟩, hresponse, rfl⟩ := Option.map_eq_some_iff.mp h
    refine hQ.composes.trans (hQ.processResponse ?_ hresponse) (hQ.frame t _ rfl rfl)
    intro result hresult
    exact Option.some.inj hresult ▸ hQ.getCurrenciesAck result s
  | getInstrumentsAck response =>
    obtain ⟨⟨t, os⟩, hresponse, rfl⟩ := Option.map_eq_some_iff.mp h
    refine hQ.composes.trans (hQ.processResponse ?_ hresponse) (hQ.frame t _ rfl rfl)
    intro result hresult
    exact Option.some.inj hresult ▸ hQ.getInstrumentsAck env ctx result s
  | getChartDataAck symbol response =>
    refine hQ.processResponse ?_ h
    intro result hresult
    obtain ⟨bars, -, rfl⟩ := Option.map_eq_some_iff.mp hresult
    exact hQ.report s _ rfl

end Tolerates

end Rest

end DeribitGateway
