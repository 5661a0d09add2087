import DeribitGateway.Fix.BookRecovery
import DeribitGateway.Fix.RequestIds
import DeribitGateway.Lib.Bursts

/-!
# Refreshes, as a client sees them

A refresh is taken apart: its levels go out in a book, its trades in a trade summary, and the
rest in statistics, each of which says whether it is the last one of the refresh. A client that
collects what it sees up to each last one gets the refreshes back (`refreshes_are_framed`):
nothing is left over, no two refreshes run together, none is cut in two, and every level, trade
and statistic that is to be seen is there once, and in order.

What is to be seen of a refresh depends on the settings. An incremental one always shows
something, since two statistics come with it, but its book is left out while the symbol is
latched, which depends on the refreshes before it (`latched`). Of a full one the trades are left
out.
-/

namespace DeribitGateway

open Transducer Emission StagedDownload Bursts

namespace MarketData

variable {D Y : Type} {env : Env} {ctx : Context Y}

/-! ## What is in a refresh -/

def bidsOf (noMdEntries : List Fix.MDEntry) : List MBPUpdate :=
  (noMdEntries.filter fun item => item.mdEntryType = .bid).map mbpUpdate

def asksOf (noMdEntries : List Fix.MDEntry) : List MBPUpdate :=
  (noMdEntries.filter fun item => item.mdEntryType = .offer).map mbpUpdate

def tradesOf (env : Env) (noMdEntries : List Fix.MDEntry) : List Trade :=
  (noMdEntries.filter fun item => item.mdEntryType = .trade).map (trade env)

def statistic? (item : Fix.MDEntry) : Option Statistics :=
  match item.mdEntryType with
  | .indexValue => some ⟨.indexValue, item.mdEntryPx⟩
  | .settlementPrice => some ⟨.settlementPrice, item.mdEntryPx⟩
  | _ => none

/-- What a client is to see of a refresh. -/
structure Refresh where
  symbol : String
  bids : List MBPUpdate
  asks : List MBPUpdate
  trades : List Trade
  statistics : List Statistics

/-- The symbols that are latched behind a call: those whose book has been found bad, and of
    which no full refresh has come since. -/
def latched (env : Env) (latch : Finset String) : Context Y × Event → Finset String
  | (ctx, .message _ (.marketDataIncrementalRefresh value)) =>
    if value.noMdEntries.any isBook && env.publishMarketByPrice &&
        ctx.marketByPrice = .badState then
      insert value.symbol latch
    else latch
  | (_, .message _ (.marketDataSnapshotFullRefresh value)) => latch.erase value.symbol
  | _ => latch

/-- The book is not shown while the symbol is latched. -/
def incremental (env : Env) (latch : Finset String) (value : Fix.MarketDataIncrementalRefresh) :
    Refresh where
  symbol := value.symbol
  bids := if env.publishMarketByPrice && value.symbol ∉ latch then bidsOf value.noMdEntries else []
  asks := if env.publishMarketByPrice && value.symbol ∉ latch then asksOf value.noMdEntries else []
  trades := if env.publishTradeSummary then tradesOf env value.noMdEntries else []
  statistics := ⟨.preOpenInterest, value.openInterest⟩ ::
    ⟨.preSettlementPrice, value.markPrice⟩ :: value.noMdEntries.filterMap statistic?

/-- Trades of a full refresh are not shown. -/
def full (env : Env) (value : Fix.MarketDataSnapshotFullRefresh) : Refresh where
  symbol := value.symbol
  bids := if env.publishMarketByPrice then bidsOf value.noMdEntries else []
  asks := if env.publishMarketByPrice then asksOf value.noMdEntries else []
  trades := []
  statistics := value.noMdEntries.filterMap statistic?

def Refresh.isEmpty (refresh : Refresh) : Bool :=
  refresh.bids.isEmpty && refresh.asks.isEmpty && refresh.trades.isEmpty &&
    refresh.statistics.isEmpty

/-- The refresh that a call brings, unless there is nothing to see of it. -/
def refresh? (env : Env) (latch : Finset String) : Event → Option Refresh
  | .message _ (.marketDataIncrementalRefresh value) => some (incremental env latch value)
  | .message _ (.marketDataSnapshotFullRefresh value) =>
    if (full env value).isEmpty then none else some (full env value)
  | _ => none

/-- The refreshes that calls bring, from the start on. -/
def refreshes (env : Env) (is : List (Context Y × Event)) : List Refresh :=
  (annotate (latched env) ∅ is).filterMap fun i => refresh? env i.1 i.2.2

/-! ## What a client sees -/

def Output.isLast : Output → Bool
  | .marketByPriceUpdate _ isLast _ => isLast
  | .tradeSummary _ isLast => isLast
  | .statisticsUpdate _ => true
  | _ => false

def Output.symbol? : Output → Option String
  | .marketByPriceUpdate value _ _ => some value.symbol
  | .tradeSummary value _ => some value.symbol
  | .statisticsUpdate value => some value.symbol
  | _ => none

def Output.bids : Output → List MBPUpdate
  | .marketByPriceUpdate value _ _ => value.bids
  | _ => []

def Output.asks : Output → List MBPUpdate
  | .marketByPriceUpdate value _ _ => value.asks
  | _ => []

def Output.trades : Output → List Trade
  | .tradeSummary value _ => value.trades
  | _ => []

def Output.statistics : Output → List Statistics
  | .statisticsUpdate value => value.statistics
  | _ => []

/-- The updates are about the symbol of the refresh, and have what is in it. -/
structure Shows (refresh : Refresh) (updates : List Output) : Prop where
  symbol : ∀ x ∈ updates, x.symbol? = some refresh.symbol
  bids : updates.flatMap Output.bids = refresh.bids
  asks : updates.flatMap Output.asks = refresh.asks
  trades : updates.flatMap Output.trades = refresh.trades
  statistics : updates.flatMap Output.statistics = refresh.statistics

/-! ## What is collected -/

/-- The loop sorts the entries. -/
theorem collect_entries (env : Env) (e : Entries) (noMdEntries : List Fix.MDEntry) :
    (e.collect env noMdEntries).bids = e.bids ++ bidsOf noMdEntries ∧
      (e.collect env noMdEntries).asks = e.asks ++ asksOf noMdEntries ∧
      (e.collect env noMdEntries).trades = e.trades ++ tradesOf env noMdEntries ∧
      (e.collect env noMdEntries).statistics =
        e.statistics ++ noMdEntries.filterMap statistic? := by
  unfold Entries.collect
  induction noMdEntries generalizing e with
  | nil => simp [bidsOf, asksOf, tradesOf]
  | cons item items ih =>
    obtain ⟨hbids, hasks, htrades, hstatistics⟩ := ih (e.add env item)
    rw [List.foldl_cons, hbids, hasks, htrades, hstatistics]
    unfold Entries.add bidsOf asksOf tradesOf
    cases htype : item.mdEntryType <;> simp [htype, statistic?]

theorem incremental_entries (env : Env) (value : Fix.MarketDataIncrementalRefresh) :
    (incrementalEntries env value).bids = bidsOf value.noMdEntries ∧
      (incrementalEntries env value).asks = asksOf value.noMdEntries ∧
      (incrementalEntries env value).trades = tradesOf env value.noMdEntries ∧
      (incrementalEntries env value).statistics =
        ⟨.preOpenInterest, value.openInterest⟩ :: ⟨.preSettlementPrice, value.markPrice⟩ ::
          value.noMdEntries.filterMap statistic? := by
  obtain ⟨hbids, hasks, htrades, hstatistics⟩ := collect_entries env
    { bids := [], asks := [], trades := []
      statistics := [⟨.preOpenInterest, value.openInterest⟩,
        ⟨.preSettlementPrice, value.markPrice⟩]
      exchangeTimeUtc := 0 } value.noMdEntries
  exact ⟨hbids, hasks, htrades, hstatistics⟩

theorem full_entries (env : Env) (value : Fix.MarketDataSnapshotFullRefresh) :
    (snapshotEntries env value).bids = bidsOf value.noMdEntries ∧
      (snapshotEntries env value).asks = asksOf value.noMdEntries ∧
      (snapshotEntries env value).statistics = (full env value).statistics := by
  obtain ⟨hbids, hasks, -, hstatistics⟩ := collect_entries env
    { bids := [], asks := [], trades := [], statistics := [], exchangeTimeUtc := 0 }
    value.noMdEntries
  exact ⟨hbids, hasks, hstatistics⟩

/-- Of a book without levels, none are shown. -/
theorem ite_and_isEmpty {bids asks : List MBPUpdate} {shown : Bool} :
    (if shown then bids else []) = (if !(bids.isEmpty && asks.isEmpty) && shown then bids else []) ∧
      (if shown then asks else []) =
        (if !(bids.isEmpty && asks.isEmpty) && shown then asks else []) := by
  cases shown with
  | false => simp
  | true => cases bids <;> cases asks <;> simp

/-! ## What a call shows -/

/-- The updates among the outputs. -/
abbrev updates (os : List Output) : List Output := os.filter Output.IsUpdate

theorem updates_append (os os' : List Output) : updates (os ++ os') = updates os ++ updates os' :=
  List.filter_append ..

theorem allows_quiet (ctx : Context Y) :
    Allows ctx fun (_ : MarketData D × SharedState Y) os _ => updates os = [] where
  composes := ⟨fun _ => rfl, fun h h' => by rw [updates_append, h, h', List.append_nil]⟩
  frame _ _ _ _ := rfl
  report _ x h _ := by rw [updates, List.filter_singleton, h.not_update]; rfl
  request request hrequest s := rfl

theorem updates_publishIncremental (symbol : String) (e : Entries) (header : Fix.Header)
    (s : MarketData D × SharedState Y) :
    updates (publishIncremental env ctx symbol e header s).2 =
      if e.hasBook && env.publishMarketByPrice && symbol ∉ s.1.latch then
        [.marketByPriceUpdate (marketByPriceUpdate env s.1.streamId symbol e .incremental header)
          (e.statistics.isEmpty && e.trades.isEmpty) ctx.marketByPrice]
      else [] := by
  obtain ⟨o, shared⟩ := s
  simp only [publishIncremental]
  split_ifs
  · have hquiet : updates (resubscribe env ctx symbol (o, shared)).2 = [] :=
      (allows_quiet ctx).resubscribe symbol _
    rw [seq_snd, updates_append, emit_apply, hquiet]
    rfl
  · rfl
  · rfl

theorem updates_publishSnapshot (symbol : String) (e : Entries) (header : Fix.Header)
    (s : MarketData D × SharedState Y) :
    updates (publishSnapshot env ctx symbol e header s).2 =
      if e.hasBook && env.publishMarketByPrice then
        [.marketByPriceUpdate (marketByPriceUpdate env s.1.streamId symbol e .snapshot header)
          e.statistics.isEmpty ctx.marketByPrice]
      else [] := by
  unfold publishSnapshot
  split_ifs
  · rfl
  · rfl

theorem updates_publishTrades (symbol : String) (e : Entries) (header : Fix.Header)
    (s : MarketData D × SharedState Y) :
    updates (publishTrades env symbol e header s).2 =
      if !e.trades.isEmpty && env.publishTradeSummary then
        [.tradeSummary
          { streamId := s.1.streamId
            exchange := env.exchange
            symbol
            trades := e.trades
            exchangeTimeUtc := e.exchangeTimeUtc
            sendingTimeUtc := header.sendingTime } e.statistics.isEmpty]
      else [] := by
  unfold publishTrades
  split_ifs
  · rfl
  · rfl

theorem updates_publishStatistics (symbol : String) (e : Entries) (updateType : UpdateType)
    (header : Fix.Header) (s : MarketData D × SharedState Y) :
    updates (publishStatistics env symbol e updateType header s).2 =
      if e.statistics.isEmpty then []
      else [.statisticsUpdate
        (statisticsUpdate env s.1.streamId symbol e updateType header)] := by
  unfold publishStatistics
  split_ifs
  · rfl
  · rfl

/-- **An incremental refresh.** Its statistics come last. -/
theorem incrementalRefresh_becomes {header : Fix.Header}
    {value : Fix.MarketDataIncrementalRefresh} {s : MarketData D × SharedState Y}
    {r : (MarketData D × SharedState Y) × List Output}
    (h : marketDataIncrementalRefresh env ctx header value s = some r) :
    Becomes Output.isLast Shows (some (incremental env s.1.latch value)) (updates r.2) := by
  obtain ⟨o, shared⟩ := s
  simp only [marketDataIncrementalRefresh] at h
  split_ifs at h
  obtain rfl := Option.some.inj h
  obtain ⟨hbids, hasks, htrades, hstatistics⟩ := incremental_entries env value
  generalize incrementalEntries env value = e at *
  have hsome : e.statistics.isEmpty = false := by
    rw [hstatistics]
    rfl
  simp only [seq_snd, updates_append, updates_publishIncremental, updates_publishTrades,
    updates_publishStatistics, hsome, Bool.false_and, Bool.false_eq_true, if_false]
  rw [← List.append_assoc]
  have hbook : (incremental env o.latch value).bids =
        (if e.hasBook && env.publishMarketByPrice && value.symbol ∉ o.latch then e.bids else []) ∧
      (incremental env o.latch value).asks =
        (if e.hasBook && env.publishMarketByPrice && value.symbol ∉ o.latch then e.asks
          else []) := by
    simp only [incremental, Entries.hasBook, hbids, hasks, Bool.and_assoc]
    exact ite_and_isEmpty
  refine ⟨.concat ?_ rfl, ?_, ?_, ?_, ?_, ?_⟩
  · intro x hx
    rcases List.mem_append.mp hx with hx | hx
    · split_ifs at hx
      · obtain rfl := List.mem_singleton.mp hx
        rfl
      · cases hx
    · split_ifs at hx
      · obtain rfl := List.mem_singleton.mp hx
        rfl
      · cases hx
  · intro x hx
    simp only [List.mem_append, List.mem_singleton] at hx
    rcases hx with (hx | hx) | rfl
    · split_ifs at hx
      · obtain rfl := List.mem_singleton.mp hx
        rfl
      · cases hx
    · split_ifs at hx
      · obtain rfl := List.mem_singleton.mp hx
        rfl
      · cases hx
    · rfl
  · rw [hbook.1]
    simp [apply_ite (List.flatMap _), Output.bids, marketByPriceUpdate]
  · rw [hbook.2]
    simp [apply_ite (List.flatMap _), Output.asks, marketByPriceUpdate]
  · simp only [List.flatMap_append, apply_ite (List.flatMap _), List.flatMap_cons,
      List.flatMap_nil, Output.trades, List.append_nil, ite_self, List.nil_append, incremental,
      ← htrades]
    cases env.publishTradeSummary with
    | false => simp
    | true => cases e.trades <;> simp
  · simp [apply_ite (List.flatMap _), Output.statistics, statisticsUpdate, hstatistics,
      incremental]

/-- What there is to see of a full refresh. -/
theorem full_isEmpty (env : Env) (value : Fix.MarketDataSnapshotFullRefresh) :
    (full env value).isEmpty =
      (!((snapshotEntries env value).hasBook && env.publishMarketByPrice) &&
        (snapshotEntries env value).statistics.isEmpty) := by
  obtain ⟨hbids, hasks, hstatistics⟩ := full_entries env value
  simp only [Refresh.isEmpty, Entries.hasBook, hbids, hasks, hstatistics]
  cases hpublish : env.publishMarketByPrice <;> simp [full, hpublish]

/-- The book of a full refresh is shown where it is not empty. -/
theorem full_book (env : Env) (value : Fix.MarketDataSnapshotFullRefresh) :
    let e := snapshotEntries env value
    (full env value).bids = (if e.hasBook && env.publishMarketByPrice then e.bids else []) ∧
      (full env value).asks = (if e.hasBook && env.publishMarketByPrice then e.asks else []) := by
  obtain ⟨hbids, hasks, -⟩ := full_entries env value
  simp only [Entries.hasBook, hbids, hasks, full]
  exact ite_and_isEmpty

/-- **A full refresh.** Its book comes last unless there are statistics. -/
theorem fullRefresh_becomes {header : Fix.Header}
    {value : Fix.MarketDataSnapshotFullRefresh} {s : MarketData D × SharedState Y}
    {r : (MarketData D × SharedState Y) × List Output}
    (h : marketDataSnapshotFullRefresh env ctx header value s = some r) :
    Becomes Output.isLast Shows
      (if (full env value).isEmpty then none else some (full env value)) (updates r.2) := by
  obtain ⟨o, shared⟩ := s
  simp only [marketDataSnapshotFullRefresh] at h
  split_ifs at h
  obtain rfl := Option.some.inj h
  obtain ⟨-, -, hstatistics⟩ := full_entries env value
  obtain ⟨hbids, hasks⟩ := full_book env value
  have hempty := full_isEmpty env value
  generalize snapshotEntries env value = e at *
  have hset : updates (set (fun o => { o with latch := o.latch.erase value.symbol })
    (o, shared) : (MarketData D × SharedState Y) × List Output).2 = [] := rfl
  simp only [seq_snd, updates_append, updates_publishSnapshot, updates_publishStatistics, hset,
    List.nil_append, hempty]
  cases hbook : (e.hasBook && env.publishMarketByPrice) with
  | false =>
    rw [hbook] at hbids hasks
    cases hsome : e.statistics.isEmpty with
    | true => exact rfl
    | false =>
      refine ⟨.single rfl, ?_, hbids.symm, hasks.symm, rfl, ?_⟩
      · intro x hx
        obtain rfl := List.mem_singleton.mp hx
        rfl
      · simpa [statisticsUpdate, Output.statistics] using hstatistics
  | true =>
    rw [hbook] at hbids hasks
    have hbids' : e.bids = (full env value).bids := hbids.symm
    have hasks' : e.asks = (full env value).asks := hasks.symm
    cases hsome : e.statistics.isEmpty with
    | true =>
      refine ⟨.single rfl, ?_, ?_, ?_, rfl, ?_⟩
      · intro x hx
        obtain rfl := List.mem_singleton.mp hx
        rfl
      · simpa [marketByPriceUpdate, Output.bids] using hbids'
      · simpa [marketByPriceUpdate, Output.asks] using hasks'
      · rw [← hstatistics, List.isEmpty_iff.mp hsome]
        rfl
    | false =>
      refine ⟨.cons rfl (.single rfl), ?_, ?_, ?_, rfl, ?_⟩
      · intro x hx
        rcases List.mem_cons.mp hx with rfl | hx
        · rfl
        · obtain rfl := List.mem_singleton.mp hx
          rfl
      · simpa [marketByPriceUpdate, Output.bids] using hbids'
      · simpa [marketByPriceUpdate, Output.asks] using hasks'
      · simpa [statisticsUpdate, Output.statistics] using hstatistics

/-! ## Latched symbols -/

/-- An incremental refresh latches its symbol if its book is found bad. -/
theorem incrementalRefresh_latches {header : Fix.Header}
    {value : Fix.MarketDataIncrementalRefresh} {s : MarketData D × SharedState Y}
    {r : (MarketData D × SharedState Y) × List Output}
    (h : marketDataIncrementalRefresh env ctx header value s = some r) :
    r.1.1.latch =
      latched env s.1.latch (ctx, .message header (.marketDataIncrementalRefresh value)) := by
  obtain ⟨o, shared⟩ := s
  simp only [marketDataIncrementalRefresh] at h
  split_ifs at h
  obtain rfl := Option.some.inj h
  have hR := latchStays_tolerates (D := D) ctx
  have hrest : Meets LatchStays (seq
      (publishTrades env value.symbol (incrementalEntries env value) header)
      (publishStatistics env value.symbol (incrementalEntries env value) .incremental header :
        Handler D Y)) :=
    hR.composes.seq (hR.publishTrades _ _ _) (hR.publishStatistics _ _ _ _)
  rw [seq_fst, (hrest _).1]
  simp only [publishIncremental, latched, incrementalEntries_hasBook]
  cases value.noMdEntries.any isBook with
  | false => simp
  | true =>
    cases env.publishMarketByPrice with
    | false => simp
    | true =>
      by_cases hfree : value.symbol ∈ o.latch
      · simp [hfree]
      · obtain ⟨shared', id, id', hresubscribe⟩ := resubscribe_free env ctx shared hfree
        by_cases hbad : ctx.marketByPrice = .badState
        · simp [hfree, hbad, hresubscribe]
        · simp [hfree, hbad]

/-- Other calls leave the latch alone. -/
theorem latched_other {latch : Finset String} {event : Event}
    (hincremental : ∀ header value, event ≠ .message header (.marketDataIncrementalRefresh value))
    (hsnapshot : ∀ header value,
      event ≠ .message header (.marketDataSnapshotFullRefresh value)) :
    latched env latch (ctx, event) = latch := by
  cases event with
  | message header value =>
    cases value with
    | marketDataIncrementalRefresh value => exact absurd rfl (hincremental header value)
    | marketDataSnapshotFullRefresh value => exact absurd rfl (hsnapshot header value)
    | _ => rfl
  | _ => rfl

/-- A full refresh unlatches its symbol, whatever is in it. -/
theorem fullRefresh_latches {header : Fix.Header}
    {value : Fix.MarketDataSnapshotFullRefresh} {s : MarketData D × SharedState Y}
    {r : (MarketData D × SharedState Y) × List Output}
    (h : marketDataSnapshotFullRefresh env ctx header value s = some r) :
    r.1.1.latch =
      latched env s.1.latch (ctx, .message header (.marketDataSnapshotFullRefresh value)) := by
  obtain ⟨o, shared⟩ := s
  simp only [marketDataSnapshotFullRefresh] at h
  split_ifs at h
  obtain rfl := Option.some.inj h
  have hstatistics : Meets LatchStays
      (publishStatistics env value.symbol (snapshotEntries env value) .snapshot header :
        Handler D Y) :=
    (latchStays_tolerates ctx).publishStatistics _ _ _ _
  rw [seq_fst, seq_fst, (hstatistics _).1]
  simp only [publishSnapshot]
  split_ifs
  · rfl
  · rfl

/-! ## Runs -/

variable [Symbols Y] [Download State D]

/-- A call shows the refresh that it brings, and nothing else. -/
theorem call_becomes {event : Event} {s : MarketData D × SharedState Y}
    {r : (MarketData D × SharedState Y) × List Output} (h : call env ctx event s = some r) :
    Becomes Output.isLast Shows (refresh? env s.1.latch event) (updates r.2) := by
  have hQ := allows_quiet (D := D) ctx
  cases event with
  | timer now =>
    obtain rfl := Option.some.inj h
    exact hQ.timer now s
  | subscribe startFrom =>
    obtain rfl := Option.some.inj h
    exact hQ.subscribe startFrom s
  | connected | disconnected =>
    obtain rfl := Option.some.inj h
    exact rfl
  | message header value =>
    have hparsed : parseHelper env ctx header value (check header s.1, s.2) = some r := h
    cases value with
    | marketDataIncrementalRefresh value =>
      have hrefresh : marketDataIncrementalRefresh env ctx header value (check header s.1, s.2) =
        some r := h
      exact incrementalRefresh_becomes (s := (check header s.1, s.2)) hrefresh
    | marketDataSnapshotFullRefresh value =>
      have hrefresh : marketDataSnapshotFullRefresh env ctx header value
        (check header s.1, s.2) = some r := h
      exact fullRefresh_becomes (s := (check header s.1, s.2)) hrefresh
    | securityList noRelatedSym =>
      have hlist : securityList env ctx noRelatedSym (check header s.1, s.2) = some r := h
      exact hQ.securityList ⟨fun _ _ _ => rfl, fun _ _ _ => rfl⟩ (fun _ _ => rfl) hlist
    | _ =>
      refine hQ.parseHelper ?_ ?_ ?_ hparsed
      · exact nofun
      · exact nofun
      · exact nofun

/-- What a call latches and unlatches. -/
theorem call_latches {event : Event} {s : MarketData D × SharedState Y}
    {r : (MarketData D × SharedState Y) × List Output} (h : call env ctx event s = some r) :
    r.1.1.latch = latched env s.1.latch (ctx, event) := by
  by_cases hincremental :
      ∃ header value, event = .message header (.marketDataIncrementalRefresh value)
  · obtain ⟨header, value, rfl⟩ := hincremental
    exact incrementalRefresh_latches (s := (check header s.1, s.2)) h
  · by_cases hsnapshot :
        ∃ header value, event = .message header (.marketDataSnapshotFullRefresh value)
    · obtain ⟨header, value, rfl⟩ := hsnapshot
      exact fullRefresh_latches (s := (check header s.1, s.2)) h
    · push Not at hincremental hsnapshot
      rw [(call_latch hincremental hsnapshot h).1, latched_other hincremental hsnapshot]

/-- **A client that collects updates up to each last one gets the refreshes back**, in order and
    each as a whole: nothing is left over, and every level, trade and statistic has been seen
    once. -/
theorem refreshes_are_framed (env : Env) (streamId : UInt16) (index : ℕ) (master : Bool)
    (is : List (Context Y × Event))
    (hgoes : (run (step env) (initial streamId index master : MarketData D) is).1.isSome = true) :
    let os := (run (step env) (initial streamId index master : MarketData D) is).2
    (cut Output.isLast (updates os)).2 = [] ∧
      List.Forall₂ Shows (refreshes env is) (cut Output.isLast (updates os)).1 := by
  have hstep : ∀ (o : MarketData D) (latch : Finset String) (i : Context Y × Event) t,
      o.latch = latch → (step env o i).1 = some t →
        Becomes Output.isLast Shows (refresh? env latch i.2) (updates (step env o i).2) ∧
          t.latch = latched env latch i := by
    rintro o latch ⟨ctx, event⟩ t rfl ht
    rcases step_cases env o ctx event with hended | ⟨r, hcall, hreturns⟩
    · rw [hended] at ht
      cases ht
    · rw [hreturns] at ht ⊢
      obtain rfl := Option.some.inj ht
      exact ⟨call_becomes hcall, call_latches hcall⟩
  obtain ⟨o, hrun⟩ := Option.isSome_iff_exists.mp hgoes
  obtain ⟨pieces, hpieces, hall⟩ := run_pieces (I := fun o latch => o.latch = latch)
    (R := fun i => Becomes Output.isLast Shows (refresh? env i.1 i.2.2)) hstep rfl hrun
  dsimp only
  rw [updates, hpieces]
  exact cut_messages hall

/-- A bid, in an incremental refresh behind a trade, or in a full one by itself. -/
abbrev bidAndTrade : Event :=
  .message ⟨1, 1⟩ (.marketDataIncrementalRefresh ⟨"BTC-PERPETUAL", none, none,
    [⟨.new, .trade, some 2, some 1, 1, "7", .buy, "", ""⟩,
      ⟨.new, .bid, some 2, some 5, 1, "", .undefined, "", ""⟩]⟩)

abbrev bidAlone : Event :=
  .message ⟨1, 1⟩ (.marketDataSnapshotFullRefresh ⟨"BTC-PERPETUAL",
    [⟨.new, .bid, some 1, some 5, 1, "", .undefined, "", ""⟩]⟩)

/-- The book of the second refresh is found bad. -/
abbrev badBook : List (Context SymbolTable × Event) :=
  [(.plain, bidAlone), ({ Context.plain with marketByPrice := .badState }, bidAndTrade),
    (.plain, bidAndTrade), (.plain, bidAlone), (.plain, bidAndTrade)]

/-- The book of the third refresh is left out, its trade and statistics are not. -/
theorem latched_book_is_left_out :
    let os := (run (step .plain) MarketData.plain badBook).2
    (refreshes .plain badBook).map (fun refresh => (refresh.bids.length, refresh.trades.length)) =
        [(1, 0), (1, 1), (0, 1), (1, 0), (1, 1)] ∧
      (cut Output.isLast (updates os)).1.map List.length = [1, 3, 2, 1, 3] ∧
      List.Forall₂ Shows (refreshes .plain badBook) (cut Output.isLast (updates os)).1 :=
  ⟨by decide +kernel, by decide +kernel,
    (refreshes_are_framed (D := Counter State) .plain 1 0 true badBook (by decide +kernel)).2⟩

end MarketData

end DeribitGateway
