import DeribitGateway.Json.DropCopy

/-!
# What the handlers of the drop copy stream do

`Queues rs` is a handler that puts the requests `rs` into the queue, and `Quiet` a call that
puts none there and leaves the session where it is. The download of a session is a handler of
the first kind, followed by `READY` (`advance_ready`).
-/

namespace DeribitGateway

open Emission StagedDownload

namespace DropCopy

variable {C : Type} {env : Env} {ctx : Context}

/-- The status `READY`. -/
def Output.IsReady : Output → Prop
  | .streamStatus value => value.connectionStatus = .ready
  | _ => False

/-- A request that is no log-in. -/
def Output.IsSent : Output → Prop
  | .sentText (.auth ..) => False
  | .sentText _ => True
  | _ => False

def Output.queued? : Output → Option Json.Request
  | .queued request => some request
  | _ => none

/-- Neither `READY` nor a request is sent. -/
def Silent (os : List Output) : Prop := ∀ x ∈ os, ¬x.IsReady ∧ ¬x.IsSent

theorem silent_nil : Silent [] := fun _ hx => absurd hx List.not_mem_nil

theorem silent_single {x : Output} (hready : ¬x.IsReady) (hsent : ¬x.IsSent) : Silent [x] := by
  intro y hy
  obtain rfl := List.mem_singleton.mp hy
  exact ⟨hready, hsent⟩

theorem Silent.append {os os' : List Output} (h : Silent os) (h' : Silent os') :
    Silent (os ++ os') := by
  intro x hx
  obtain hmem | hmem := List.mem_append.mp hx
  · exact h x hmem
  · exact h' x hmem

/-! ## Requests that are put into the queue -/

/-- The requests `rs` are put into the queue, and the session stays where it is. -/
structure Queues (rs : List Json.Request) (o : DropCopy C) (os : List Output)
    (o' : DropCopy C) : Prop where
  queued : os.filterMap Output.queued? = rs
  subscribeQueue : o'.subscribeQueue = o.subscribeQueue ++ rs
  ready_ : o'.ready_ = o.ready_
  canDownload : o'.canDownload = o.canDownload
  currencies : o'.currencies = o.currencies
  downloadTradesIsFirst : o'.downloadTradesIsFirst = o.downloadTradesIsFirst
  download : o'.download = o.download
  silent : Silent os

theorem Queues.refl (o : DropCopy C) : Queues [] o [] o where
  queued := rfl
  subscribeQueue := (List.append_nil _).symm
  ready_ := rfl
  canDownload := rfl
  currencies := rfl
  downloadTradesIsFirst := rfl
  download := rfl
  silent := silent_nil

theorem Queues.trans {rs rs' : List Json.Request} {o o' o'' : DropCopy C} {os os' : List Output}
    (h : Queues rs o os o') (h' : Queues rs' o' os' o'') :
    Queues (rs ++ rs') o (os ++ os') o'' where
  queued := by rw [List.filterMap_append, h.queued, h'.queued]
  subscribeQueue := by rw [h'.subscribeQueue, h.subscribeQueue, List.append_assoc]
  ready_ := h'.ready_.trans h.ready_
  canDownload := h'.canDownload.trans h.canDownload
  currencies := h'.currencies.trans h.currencies
  downloadTradesIsFirst := h'.downloadTradesIsFirst.trans h.downloadTradesIsFirst
  download := h'.download.trans h.download
  silent := h.silent.append h'.silent

theorem queues_seq {rs rs' : List Json.Request} {f g : Handler C} (hf : Meets (Queues rs) f)
    (hg : Meets (Queues rs') g) : Meets (Queues (rs ++ rs')) (seq f g) :=
  fun o => (hf o).trans (hg (f o).1)

theorem enqueue_queues (request : Json.Request) :
    Meets (Queues [request]) (enqueue request : Handler C) := by
  intro o
  exact ⟨rfl, rfl, rfl, rfl, rfl, rfl, rfl, silent_single id id⟩

theorem each_queues (request : String → Json.Request) (currencies : List String) :
    Meets (Queues (currencies.map request))
      (each (fun currency => enqueue (request currency)) currencies : Handler C) := by
  induction currencies with
  | nil => exact Queues.refl
  | cons currency currencies ih => exact queues_seq (enqueue_queues _) ih

theorem publish_queues {connectionStatus : ConnectionStatus} (h : connectionStatus ≠ .ready)
    (reason : String) : Meets (Queues []) (publish connectionStatus reason : Handler C) := by
  intro o
  exact ⟨rfl, (List.append_nil _).symm, rfl, rfl, rfl, rfl, rfl, silent_single h id⟩

theorem downloading_queues (reason : String) :
    Meets (Queues []) (publish .downloading reason : Handler C) :=
  publish_queues (by simp) reason

/-- When the download of trades of a currency starts. -/
def startTimestamp (env : Env) (ctx : Context) (downloadTradesIsFirst : Bool) : ℤ :=
  (ctx.now - downloadTradesLookback env downloadTradesIsFirst).tdiv 1000000

theorem getUserTradesByCurrency_queues (env : Env) (ctx : Context) (currencies : List String)
    (o : DropCopy C) :
    Queues (currencies.map fun currency => .getUserTradesByCurrency currency
        (startTimestamp env ctx o.downloadTradesIsFirst)) o
      (getUserTradesByCurrency env ctx currencies o).2
      (getUserTradesByCurrency env ctx currencies o).1 :=
  each_queues _ currencies o

/-! ## The requests for currencies -/

/-- The channels of `user.portfolio` among requests. -/
def portfolioChannels (rs : List Json.Request) : List String :=
  rs.flatMap fun
    | .privateSubscribe channels .subscribeUserPortfolio => channels
    | _ => []

/-- The currencies for which account summaries are requested. -/
def accountSummaries (rs : List Json.Request) : List String :=
  rs.filterMap fun
    | .getAccountSummary currency => some currency
    | _ => none

/-- The currencies for which trades are requested. -/
def tradeDownloads (rs : List Json.Request) : List String :=
  rs.filterMap fun
    | .getUserTradesByCurrency currency _ => some currency
    | _ => none

/-- The requests name each of `currencies` once, in order, and nothing else. -/
structure Asks (rs : List Json.Request) (currencies : List String) : Prop where
  portfolio : portfolioChannels rs = currencies.map ("user.portfolio." ++ ·)
  summaries : accountSummaries rs = currencies
  downloads : tradeDownloads rs = currencies

theorem Asks.nil : Asks [] [] := ⟨rfl, rfl, rfl⟩

theorem Asks.append {rs rs' : List Json.Request} {currencies currencies' : List String}
    (h : Asks rs currencies) (h' : Asks rs' currencies') :
    Asks (rs ++ rs') (currencies ++ currencies') where
  portfolio := by
    rw [List.map_append, ← h.portfolio, ← h'.portfolio]
    exact List.flatMap_append
  summaries := by
    rw [accountSummaries, List.filterMap_append]
    exact congrArg₂ _ h.summaries h'.summaries
  downloads := by
    rw [tradeDownloads, List.filterMap_append]
    exact congrArg₂ _ h.downloads h'.downloads

theorem joined_portfolio {currencies : List String} (h : currencies ≠ []) :
    Json.joined "user.portfolio." "" currencies = currencies.map ("user.portfolio." ++ ·) := by
  cases currencies with
  | nil => exact absurd rfl h
  | cons currency currencies => simp [Json.joined]

/-- One request for the channels, and two for each currency. -/
theorem asks_currencies {currencies : List String} (h : currencies ≠ []) (startTimestamp : ℤ) :
    Asks ([.privateSubscribe (Json.joined "user.portfolio." "" currencies)
        .subscribeUserPortfolio] ++ (currencies.map .getAccountSummary ++
          currencies.map fun currency => .getUserTradesByCurrency currency startTimestamp))
      currencies where
  portfolio := by
    simp [portfolioChannels, joined_portfolio h, List.flatMap_map]
  summaries := by
    simp [accountSummaries, List.filterMap_map]
  downloads := by
    simp [tradeDownloads, List.filterMap_map]

/-- What is put into the queue for `currencies`. -/
theorem requestCurrencies_queued (env : Env) (ctx : Context) (currencies : List String)
    (o : DropCopy C) :
    Queues ([.privateSubscribe (Json.joined "user.portfolio." "" currencies)
        .subscribeUserPortfolio] ++ (currencies.map .getAccountSummary ++
          currencies.map fun currency => .getUserTradesByCurrency currency
            (startTimestamp env ctx o.downloadTradesIsFirst))) o
      (requestCurrencies env ctx currencies o).2 (requestCurrencies env ctx currencies o).1 := by
  have hportfolio := enqueue_queues (.privateSubscribe
    (Json.joined "user.portfolio." "" currencies) .subscribeUserPortfolio) o
  have hsummaries := each_queues .getAccountSummary currencies
    (subscribeUserPortfolio currencies o).1
  have hdownloads := getUserTradesByCurrency_queues env ctx currencies
    (getAccountSummary currencies (subscribeUserPortfolio currencies o).1).1
  have hfirst : DropCopy.downloadTradesIsFirst
      (getAccountSummary currencies (subscribeUserPortfolio currencies o).1).1 =
        o.downloadTradesIsFirst :=
    (hportfolio.trans hsummaries).downloadTradesIsFirst
  rw [hfirst] at hdownloads
  exact hportfolio.trans (hsummaries.trans hdownloads)

theorem requestCurrencies_queues (env : Env) (ctx : Context) (currencies : List String)
    (o : DropCopy C) :
    ∃ rs, Queues rs o (requestCurrencies env ctx currencies o).2
        (requestCurrencies env ctx currencies o).1 ∧
      (currencies ≠ [] → Asks rs currencies) :=
  ⟨_, requestCurrencies_queued env ctx currencies o, fun h => asks_currencies h _⟩

/-! ## New currencies, and the latch -/

theorem currenciesUpdate_asks (env : Env) (ctx : Context) {o : DropCopy C}
    (currencies : List String) (h : o.ready_ = true ∧ o.canDownload = true) :
    currenciesUpdate env ctx currencies o = requestCurrencies env ctx currencies
      { o with currencies := o.currencies ++ currencies } := by
  unfold currenciesUpdate
  rw [seq_modify]
  exact if_pos h

theorem currenciesUpdate_waits (env : Env) (ctx : Context) {o : DropCopy C}
    (currencies : List String) (h : ¬(o.ready_ = true ∧ o.canDownload = true)) :
    currenciesUpdate env ctx currencies o =
      ({ o with currencies := o.currencies ++ currencies }, []) := by
  unfold currenciesUpdate
  rw [seq_modify]
  exact if_neg h

theorem latch_asks (env : Env) (ctx : Context) {o : DropCopy C} (hcan : o.canDownload = false)
    (hready : o.ready_ = true) : latch env ctx o =
      requestCurrencies env ctx o.currencies { o with canDownload := true } := by
  unfold latch
  rw [if_neg (by simp [hcan]), seq_modify]
  exact if_pos hready

theorem latch_waits (env : Env) (ctx : Context) {o : DropCopy C} (hready : o.ready_ = false) :
    latch env ctx o = ({ o with canDownload := true }, []) := by
  unfold latch
  split_ifs with hcan
  · obtain ⟨⟩ := o
    simp only at hcan
    rw [hcan]
    rfl
  · rw [seq_modify]
    exact if_neg (by simp [hready])

/-! ## The download of a session -/

/-- What a state of the download puts into the queue. -/
def stateRequests (env : Env) (ctx : Context) (o : DropCopy C) : State → List Json.Request
  | .subscribeUserPortfolio =>
    if o.canDownload then
      [.privateSubscribe (Json.joined "user.portfolio." "" o.currencies) .subscribeUserPortfolio]
    else []
  | .subscribeUserChanges =>
    [.privateSubscribe ["user.changes.any.any.raw"] .subscribeUserChanges]
  | .subscribeUserOrders => [.privateSubscribe ["user.orders.any.any.raw"] .subscribeUserOrders]
  | .subscribeUserTrades => [.privateSubscribe ["user.trades.any.any.raw"] .subscribeUserTrades]
  | .getAccountSummary =>
    if o.canDownload then o.currencies.map .getAccountSummary else []
  | .getUserTradesByCurrency =>
    if o.canDownload then
      o.currencies.map fun currency =>
        .getUserTradesByCurrency currency (startTimestamp env ctx o.downloadTradesIsFirst)
    else []
  | .undefined => []
  | .done => []

theorem latched_queues {state : State} {f : Handler C} {rs : List Json.Request} {o : DropCopy C}
    (hf : Queues rs (publish .downloading state.name o).1
      (f (publish .downloading state.name o).1).2 (f (publish .downloading state.name o).1).1) :
    Queues (if o.canDownload then rs else []) o (latched state f o).2 (latched state f o).1 := by
  unfold latched
  split_ifs
  · exact (downloading_queues state.name o).trans hf
  · exact .refl o

theorem downloadState_queues (env : Env) (ctx : Context) (o : DropCopy C) {state : State}
    (h : state ≠ .done) :
    Queues (stateRequests env ctx o state) o (downloadState env ctx state o).2
      (downloadState env ctx state o).1 := by
  cases state with
  | undefined => exact .refl o
  | subscribeUserPortfolio => exact latched_queues (enqueue_queues _ _)
  | subscribeUserChanges => exact queues_seq (downloading_queues _) (enqueue_queues _) o
  | subscribeUserOrders => exact queues_seq (downloading_queues _) (enqueue_queues _) o
  | subscribeUserTrades => exact queues_seq (downloading_queues _) (enqueue_queues _) o
  | getAccountSummary => exact latched_queues (each_queues _ _ _)
  | getUserTradesByCurrency =>
    exact latched_queues (getUserTradesByCurrency_queues env ctx o.currencies
      (publish .downloading State.getUserTradesByCurrency.name o).1)
  | done => exact absurd rfl h

theorem Queues.stateRequests_eq {rs : List Json.Request} {o o' : DropCopy C} {os : List Output}
    (h : Queues rs o os o') : stateRequests env ctx o' = stateRequests env ctx o := by
  funext state
  simp only [stateRequests, h.canDownload, h.currencies, h.downloadTradesIsFirst]

theorem each_downloadState_queues (env : Env) (ctx : Context) (o : DropCopy C)
    {states : List State} (h : .done ∉ states) :
    Queues (states.flatMap (stateRequests env ctx o)) o
      (each (downloadState env ctx) states o).2 (each (downloadState env ctx) states o).1 := by
  induction states generalizing o with
  | nil => exact .refl o
  | cons state states ih =>
    rw [List.mem_cons, not_or] at h
    have hstate := downloadState_queues env ctx o (Ne.symm h.1)
    have hrest := ih (downloadState env ctx state o).1 h.2
    rw [hstate.stateRequests_eq] at hrest
    rw [List.flatMap_cons]
    exact hstate.trans hrest

/-- A session that is latched when it opens asks for the currencies that are known then. -/
theorem stateRequests_asks {o : DropCopy C} (h : o.canDownload = true → o.currencies ≠ []) :
    Asks (Stages.before.flatMap (stateRequests env ctx o))
      (if o.canDownload then o.currencies else []) := by
  cases hcan : o.canDownload with
  | false =>
    constructor
    all_goals simp [Stages.before, stateRequests, hcan, portfolioChannels, accountSummaries,
      tradeDownloads]
  | true =>
    constructor
    · simp [Stages.before, stateRequests, hcan, portfolioChannels, joined_portfolio (h hcan),
        List.flatMap_map]
    · simp [Stages.before, stateRequests, hcan, accountSummaries, List.filterMap_map]
    · simp [Stages.before, stateRequests, hcan, tradeDownloads, List.filterMap_map]

variable [Download State C] [LawfulDownload State C]

/-- A download that opens a session: what the states before the last one put into the queue,
    and `READY`. -/
structure Opened (env : Env) (ctx : Context) (o : DropCopy C) (os : List Output)
    (o' : DropCopy C) : Prop where
  queued : os.filterMap Output.queued? = Stages.before.flatMap (stateRequests env ctx o)
  subscribeQueue : o'.subscribeQueue =
    o.subscribeQueue ++ Stages.before.flatMap (stateRequests env ctx o)
  ready_ : o'.ready_ = true
  canDownload : o'.canDownload = o.canDownload
  currencies : o'.currencies = o.currencies
  idle : Idle o'.download
  sent : ∀ x ∈ os, ¬x.IsSent

/-- **The download of a session goes through all states at once.** -/
theorem begin_opens (env : Env) (ctx : Context) {o : DropCopy C} (h : Idle o.download) :
    Opened env ctx o (advance env ctx (Download.begin downloadCount o.download) o).2
      (advance env ctx (Download.begin downloadCount o.download) o).1 := by
  have henters := LawfulDownload.begin_enters downloadCount o.download h
  have hentered : (Download.begin downloadCount o.download).2 = Stages.before ++ [.done] :=
    henters.entered_eq.trans (entered_eq_self fun _ _ => rfl)
  have hidle : Idle (Download.begin downloadCount o.download).1 :=
    henters.idle (waiting_eq_none fun _ _ => rfl)
  have hdone : State.done ∉ (Stages.before : List State) := by decide
  generalize Download.begin downloadCount o.download = r at hentered hidle ⊢
  have hqueues : Queues (Stages.before.flatMap (stateRequests env ctx o))
      { o with download := r.1 }
      (each (downloadState env ctx) Stages.before { o with download := r.1 }).2
      (each (downloadState env ctx) Stages.before { o with download := r.1 }).1 := by
    have hsame : stateRequests env ctx { o with download := r.1 } = stateRequests env ctx o := by
      funext state
      simp only [stateRequests]
    rw [← hsame]
    exact each_downloadState_queues env ctx _ hdone
  simp only [advance, hentered, each_append, seq_fst, seq_snd]
  refine ⟨?_, hqueues.subscribeQueue, rfl, hqueues.canDownload, hqueues.currencies, ?_, ?_⟩
  · rw [List.filterMap_append, hqueues.queued]
    exact List.append_nil _
  · have hdownload := hqueues.download
    simp only at hdownload
    rw [← hdownload] at hidle
    exact hidle
  · intro x hx
    obtain hmem | hmem := List.mem_append.mp hx
    · exact (hqueues.silent x hmem).2
    · obtain rfl := List.mem_singleton.mp hmem
      exact id

/-! ## Quiet calls -/

/-- The session stays where it is and nothing is put into the queue; requests are sent from
    there if the stream is ready. -/
structure Quiet (o : DropCopy C) (os : List Output) (o' : DropCopy C) : Prop where
  queued : os.filterMap Output.queued? = []
  subscribeQueue : o'.subscribeQueue <:+ o.subscribeQueue
  ready_ : o'.ready_ = o.ready_
  canDownload : o'.canDownload = o.canDownload
  currencies : o'.currencies = o.currencies
  download : o'.download = o.download
  noReady : ∀ x ∈ os, ¬x.IsReady
  sent : ∀ x ∈ os, x.IsSent → o.ready_ = true

def Event.IsQuiet : Event → Prop
  | .currenciesUpdate _ => False
  | .latch => False
  | .disconnected => False
  | .message (.auth errorCode) => errorCode ≠ 0
  | _ => True

section

omit [Download State C] [LawfulDownload State C]

theorem quiet_skip (o : DropCopy C) : Quiet o [] o where
  queued := rfl
  subscribeQueue := List.suffix_rfl
  ready_ := rfl
  canDownload := rfl
  currencies := rfl
  download := rfl
  noReady _ hx := absurd hx List.not_mem_nil
  sent _ hx := absurd hx List.not_mem_nil

theorem quiet_single (o : DropCopy C) {x : Output} (hqueued : x.queued? = none)
    (hready : ¬x.IsReady) (hsent : ¬x.IsSent) : Quiet o [x] o where
  queued := by simp [hqueued]
  subscribeQueue := List.suffix_rfl
  ready_ := rfl
  canDownload := rfl
  currencies := rfl
  download := rfl
  noReady y hy := by
    obtain rfl := List.mem_singleton.mp hy
    exact hready
  sent y hy h := by
    obtain rfl := List.mem_singleton.mp hy
    exact absurd h hsent

theorem timer_quiet (o : DropCopy C) : Quiet o (timer ctx o).2 (timer ctx o).1 := by
  unfold timer
  split_ifs with h
  · refine ⟨?_, ctx.dispatch.kept_suffix _, rfl, rfl, rfl, rfl, ?_, fun _ _ _ => h.2⟩
    · rw [checkSubscribeQueue, List.filterMap_map]
      exact List.filterMap_eq_nil_iff.mpr fun _ _ => rfl
    · intro x hx
      obtain ⟨request, -, rfl⟩ := List.mem_map.mp hx
      exact id
  · exact quiet_skip o

theorem upgraded_quiet (o : DropCopy C) : Quiet o (upgraded ctx o).2 (upgraded ctx o).1 := by
  refine ⟨rfl, List.suffix_rfl, rfl, rfl, rfl, rfl, ?_, ?_⟩
  · intro x hx
    obtain rfl | hx := List.mem_cons.mp hx
    · exact id
    · obtain rfl := List.mem_singleton.mp hx
      exact nofun
  · intro x hx hsent
    obtain rfl | hx := List.mem_cons.mp hx
    · exact hsent.elim
    · obtain rfl := List.mem_singleton.mp hx
      exact hsent.elim

theorem trades_quiet (env : Env) (ctx : Context) (isDownload : Bool) (items : List Json.Trade)
    (o : DropCopy C) :
    (trades env ctx isDownload items o).1 = o ∧
      Quiet o (trades env ctx isDownload items o).2 o := by
  induction items with
  | nil => exact ⟨rfl, quiet_skip o⟩
  | cons item items ih =>
    refine ⟨ih.1, ih.2.queued, List.suffix_rfl, rfl, rfl, rfl, rfl, ?_, ?_⟩
    · intro x hx
      obtain rfl | hx := List.mem_cons.mp hx
      · exact id
      · exact ih.2.noReady x hx
    · intro x hx hsent
      obtain rfl | hx := List.mem_cons.mp hx
      · exact hsent.elim
      · exact ih.2.sent x hx hsent

end

omit [LawfulDownload State C] in
theorem parse_quiet {value : Json.Message} {o : DropCopy C} {r : DropCopy C × List Output}
    (hquiet : (Event.message value).IsQuiet) (h : parse env ctx value o = some r) :
    Quiet o r.2 r.1 := by
  cases value with
  | auth errorCode =>
    simp only [parse, auth, if_pos (show errorCode ≠ 0 from hquiet)] at h
    split_ifs at h
    obtain rfl := Option.some.inj h
    exact quiet_single o rfl id id
  | platformState value =>
    obtain rfl := Option.some.inj h
    exact quiet_single o rfl id id
  | userPortfolio value =>
    obtain rfl := Option.some.inj h
    exact quiet_single o rfl id id
  | userChanges items =>
    obtain rfl := Option.some.inj h
    obtain ⟨hsame, htrades⟩ := trades_quiet env ctx false items o
    rw [hsame]
    exact htrades
  | userTrades data =>
    obtain rfl := Option.some.inj h
    obtain ⟨hsame, htrades⟩ := trades_quiet env ctx true data o
    simp only [userTrades, seq_fst, seq_snd, modify_apply, List.append_nil, hsame]
    exact ⟨htrades.queued, List.suffix_rfl, rfl, rfl, rfl, rfl, htrades.noReady, htrades.sent⟩
  | subscribeAck errorCode =>
    obtain rfl := Option.some.inj h
    exact quiet_skip o
  | userOrders =>
    obtain rfl := Option.some.inj h
    exact quiet_skip o
  | getAccountSummaryAck =>
    obtain rfl := Option.some.inj h
    exact quiet_skip o
  | getUserTradesByCurrencyAck items =>
    obtain rfl := Option.some.inj h
    exact quiet_skip o
  | _ => cases h

omit [LawfulDownload State C] in
/-- **Quiet calls.** -/
theorem call_quiet {event : Event} {o : DropCopy C} {r : DropCopy C × List Output}
    (hquiet : event.IsQuiet) (h : call env ctx event o = some r) : Quiet o r.2 r.1 := by
  cases event with
  | currenciesUpdate currencies => exact hquiet.elim
  | latch => exact hquiet.elim
  | disconnected => exact hquiet.elim
  | timer =>
    obtain rfl := Option.some.inj h
    exact timer_quiet o
  | ready =>
    obtain rfl := Option.some.inj h
    exact upgraded_quiet o
  | latency sample =>
    obtain rfl := Option.some.inj h
    exact quiet_single o rfl id id
  | message value => exact parse_quiet hquiet h
  | binary => cases h
  | _ =>
    obtain rfl := Option.some.inj h
    exact quiet_skip o

end DropCopy

end DeribitGateway
