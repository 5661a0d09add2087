import DeribitGateway.Json.Relations
import DeribitGateway.Lib.Changes

/-!
# Prices, as a client sees them

The web socket stream keeps, for each symbol, the top of the book and the trading status that it
has dispatched last, and dispatches the next one only if it is another. So what a client sees of
a symbol is what is left of the quotes and tickers of that symbol when repetitions are dropped
(`clients_see_changes`), whatever comes in between: other symbols, disconnects, further sessions,
and further lists of instruments. These can change what is known of the multiplier, but a stream
stays with the one that it found at the first quote. Quotes that come before that are dropped.
-/

namespace DeribitGateway

open Transducer Emission StagedDownload Changes

namespace WebSocket

variable {W Y R : Type} {env : Env} {ctx : Context} {symbol : String}

/-! ## What is heard -/

/-- The top of the book that a quote speaks of. -/
def layerOf (multiplier : Double) (value : Json.Quote) : Layer where
  bidPrice := value.bestBidPrice
  bidQuantity := Double.mul multiplier value.bestBidAmount
  askPrice := value.bestAskPrice
  askQuantity := Double.mul multiplier value.bestAskAmount

/-- The multiplier of a symbol, once there has been a quote of it, and what its quotes have
    spoken of since. -/
structure Quoted where
  multiplier : Option Double
  layers : List Layer

def Quoted.hear (env : Env) (symbol : String) (q : Quoted) (i : Input Y R) : Quoted :=
  match i.event with
  | .message (.quote value) =>
    if env.publishTopOfBook = true ∧ value.instrumentName = symbol then
      match q.multiplier.or (i.shared.multiplier symbol) with
      | some multiplier => ⟨some multiplier, q.layers ++ [layerOf multiplier value]⟩
      | none => q
    else q
  | _ => q

/-- What the quotes of a symbol have spoken of, if tops of the book are published at all. -/
def quotes (env : Env) (symbol : String) (is : List (Input Y R)) : List Layer :=
  (is.foldl (Quoted.hear env symbol) ⟨none, []⟩).layers

/-- What a ticker says of the status of a symbol, if anything. -/
def tradingStatus? (symbol : String) (i : Input Y R) : Option TradingStatus :=
  match i.event with
  | .message (.ticker value) =>
    if value.instrumentName = symbol ∧ value.state.tradingStatus ≠ .undefined then
      some value.state.tradingStatus
    else none
  | _ => none

/-! ## What is seen -/

def Output.layer? (symbol : String) : Output → Option Layer
  | .topOfBook value => if value.symbol = symbol then some value.layer else none
  | _ => none

def Output.marketStatus? (symbol : String) : Output → Option TradingStatus
  | .marketStatus value => if value.symbol = symbol then some value.tradingStatus else none
  | _ => none

/-- Two tops of the book that a client can tell apart. -/
abbrev Env.Differ (env : Env) (layer layer' : Layer) : Prop := env.isEqual layer layer' = false

/-- A call that does not speak of prices. -/
structure Keeps (s : Scope W Y R) (os : List Output) (t : Scope W Y R) : Prop where
  topOfBook : t.stream.topOfBook = s.stream.topOfBook
  tradingStatus : t.stream.tradingStatus = s.stream.tradingStatus
  noPrice : ∀ x ∈ os, x.IsPrice = false

theorem composes_keeps : Composes (Keeps : Scope W Y R → List Output → Scope W Y R → Prop) where
  refl _ := ⟨rfl, rfl, fun _ hx => absurd hx List.not_mem_nil⟩
  trans h h' :=
    ⟨h'.topOfBook.trans h.topOfBook, h'.tradingStatus.trans h.tradingStatus, fun x hx =>
      (List.mem_append.mp hx).elim (h.noPrice x) (h'.noPrice x)⟩

theorem Keeps.single {s t : Scope W Y R} {x : Output} (hx : x.IsPrice = false)
    (hbook : t.stream.topOfBook = s.stream.topOfBook)
    (hstatus : t.stream.tradingStatus = s.stream.tradingStatus) : Keeps s [x] t :=
  ⟨hbook, hstatus, fun _ hy => List.mem_singleton.mp hy ▸ hx⟩

theorem tolerates_keeps [Download State W] :
    Tolerates (Keeps : Scope W Y R → List Output → Scope W Y R → Prop) where
  composes := composes_keeps
  frame _ _ _ _ _ hbook hstatus := ⟨hbook, hstatus, fun _ hx => absurd hx List.not_mem_nil⟩
  report _ _ _ hx := .single hx rfl rfl
  enqueue _ _ _ _ := .single rfl rfl rfl
  subscribeChartTrades _ _ _ := .single rfl rfl rfl
  checkSubscribeQueue ctx s := by
    refine ⟨rfl, rfl, ?_⟩
    intro x hx
    obtain ⟨request, -, rfl⟩ := List.mem_map.mp hx
    rfl
  disconnected _ := .single rfl rfl rfl

theorem Keeps.layers {s t : Scope W Y R} {os : List Output} (h : Keeps s os t) :
    os.filterMap (Output.layer? symbol) = [] := by
  apply List.filterMap_eq_nil_iff.mpr
  intro x hx
  cases x with
  | topOfBook value => exact absurd (h.noPrice _ hx) nofun
  | _ => rfl

theorem Keeps.marketStatuses {s t : Scope W Y R} {os : List Output} (h : Keeps s os t) :
    os.filterMap (Output.marketStatus? symbol) = [] := by
  apply List.filterMap_eq_nil_iff.mpr
  intro x hx
  cases x with
  | marketStatus value => exact absurd (h.noPrice _ hx) nofun
  | _ => rfl

/-! ## Quotes -/

/-- What is kept of a symbol is what a client has seen last, and the multiplier. -/
structure Quotes (env : Env) (symbol : String) (o : WebSocket W) (q : Quoted)
    (seen : List Layer) : Prop where
  passed : ∃ last, Passed env.Differ env.emptyLayer q.layers last seen ∧
    o.topOfBook symbol = q.multiplier.map (last, ·)
  fresh : q.multiplier = none → q.layers = []

theorem quotes_initial [Download State W] (env : Env) (symbol : String) (streamId : UInt16)
    (index : ℕ) (master : Bool) :
    Quotes env symbol (initial streamId index master : WebSocket W) ⟨none, []⟩ [] :=
  ⟨⟨_, .start, rfl⟩, fun _ => rfl⟩

/-- What the handler finds: what a client has seen last, and the multiplier if it is known. -/
theorem Quotes.getTopOfBook {s : Scope W Y R} {q : Quoted} {seen : List Layer}
    (h : Quotes env symbol s.stream q seen) :
    ∃ last, Passed env.Differ env.emptyLayer q.layers last seen ∧
      getTopOfBook env s symbol =
        (q.multiplier.or (s.shared.multiplier symbol)).map (last, ·) := by
  obtain ⟨last, hpassed, hbook⟩ := h.passed
  refine ⟨last, hpassed, ?_⟩
  unfold WebSocket.getTopOfBook
  rw [hbook]
  cases hm : q.multiplier with
  | some multiplier => rfl
  | none =>
    -- there has been no quote yet
    rw [h.fresh hm] at hpassed
    rw [hpassed.eq_first]
    rfl

/-- A quote of a symbol whose multiplier is known. -/
theorem quote_eq (hpublish : env.publishTopOfBook = true) {s : Scope W Y R} {value : Json.Quote}
    {layer : Layer} {multiplier : Double}
    (h : WebSocket.getTopOfBook env s value.instrumentName = some (layer, multiplier)) :
    (quote env value s).1.stream = { s.stream with
      topOfBook := Function.update s.stream.topOfBook value.instrumentName (some
        (if env.isEqual layer (layerOf multiplier value) then layer
          else layerOf multiplier value, multiplier)) } ∧
    (quote env value s).2 = if env.isEqual layer (layerOf multiplier value) then []
      else [.topOfBook
        { streamId := s.stream.streamId
          exchange := env.exchange
          symbol := value.instrumentName
          layer := layerOf multiplier value
          updateType := .snapshot
          exchangeTimeUtc := value.timestamp }] := by
  simp only [quote, if_pos hpublish, h]
  exact ⟨rfl, rfl⟩

/-- A quote is dropped if none are published, or the multiplier is not known. -/
theorem quote_dropped {s : Scope W Y R} {value : Json.Quote} (h : env.publishTopOfBook = true →
    WebSocket.getTopOfBook env s value.instrumentName = none) :
    quote env value s = (s, []) := by
  unfold quote
  split_ifs with hpublish
  · rw [h hpublish]
    rfl
  · rfl

theorem Quotes.quote {o : WebSocket W} {i : Input Y R} {q : Quoted} {seen : List Layer}
    (h : Quotes env symbol o q seen) {value : Json.Quote}
    (hevent : i.event = .message (.quote value)) :
    let r := WebSocket.quote env value (⟨o, i.shared, i.requests⟩ : Scope W Y R)
    Quotes env symbol r.1.stream (q.hear env symbol i)
      (seen ++ r.2.filterMap (Output.layer? symbol)) := by
  intro r
  let s : Scope W Y R := ⟨o, i.shared, i.requests⟩
  have hdropped (hr : r = (s, [])) (hheard : q.hear env symbol i = q) :
      Quotes env symbol r.1.stream (q.hear env symbol i)
        (seen ++ r.2.filterMap (Output.layer? symbol)) := by
    rw [hr, hheard, List.filterMap_nil, List.append_nil]
    exact h
  by_cases hpublish : env.publishTopOfBook = true
  · by_cases hsymbol : value.instrumentName = symbol
    · subst hsymbol
      obtain ⟨last, hpassed, hentry⟩ := Quotes.getTopOfBook (s := s) h
      cases hm : q.multiplier.or (i.shared.multiplier value.instrumentName) with
      | none =>
        rw [hm] at hentry
        refine hdropped (quote_dropped fun _ => hentry) ?_
        simp only [Quoted.hear, hevent, hpublish, hm, and_self, if_true]
      | some multiplier =>
        rw [hm] at hentry
        obtain ⟨hnext, hos⟩ := quote_eq hpublish hentry
        have hheard : q.hear env value.instrumentName i =
            ⟨some multiplier, q.layers ++ [layerOf multiplier value]⟩ := by
          simp only [Quoted.hear, hevent, hpublish, hm, and_self, if_true]
        rw [hnext, hos, hheard]
        refine ⟨?_, nofun⟩
        cases heq : env.isEqual last (layerOf multiplier value) with
        | true =>
          refine ⟨last, ?_, Function.update_self _ _ _⟩
          exact (List.append_nil seen).symm ▸ hpassed.drop (by simp [heq])
        | false =>
          refine ⟨layerOf multiplier value, ?_, Function.update_self _ _ _⟩
          have hseen : ([Output.topOfBook
              { streamId := s.stream.streamId
                exchange := env.exchange
                symbol := value.instrumentName
                layer := layerOf multiplier value
                updateType := .snapshot
                exchangeTimeUtc := value.timestamp }]).filterMap
              (Output.layer? value.instrumentName) = [layerOf multiplier value] := by
            simp [Output.layer?]
          exact hseen ▸ hpassed.pass heq
    · -- the entry of another symbol is left alone
      have hheard : q.hear env symbol i = q := by
        simp only [Quoted.hear, hevent, hsymbol, and_false, if_false]
      cases hentry : WebSocket.getTopOfBook env s value.instrumentName with
      | none => exact hdropped (quote_dropped fun _ => hentry) hheard
      | some entry =>
        obtain ⟨hnext, hos⟩ := quote_eq hpublish hentry
        have hsilent : r.2.filterMap (Output.layer? symbol) = [] := by
          rw [hos]
          split_ifs
          · rfl
          · simp [Output.layer?, hsymbol]
        rw [hheard, hsilent, List.append_nil, hnext]
        obtain ⟨last, hpassed, hbook⟩ := h.passed
        refine ⟨⟨last, hpassed, ?_⟩, h.fresh⟩
        exact (Function.update_of_ne (Ne.symm hsymbol) _ _).trans hbook
  · refine hdropped (quote_dropped fun h => absurd h hpublish) ?_
    simp only [Quoted.hear, hevent, hpublish, false_and, Bool.false_eq_true, if_false]

theorem Quotes.frame {o o' : WebSocket W} {q : Quoted} {seen layers : List Layer}
    (h : Quotes env symbol o q seen) (hbook : o'.topOfBook = o.topOfBook) (hsilent : layers = []) :
    Quotes env symbol o' q (seen ++ layers) := by
  rw [hsilent, List.append_nil]
  exact ⟨by simpa only [hbook] using h.passed, h.fresh⟩

/-! ## Tickers -/

/-- What is kept of a symbol is what a client has seen last. -/
abbrev Statuses (symbol : String) (o : WebSocket W) (statuses seen : List TradingStatus) : Prop :=
  Passed (· ≠ ·) .undefined statuses (o.tradingStatus symbol) seen

/-- The status of a symbol that has got another one. -/
theorem ticker_eq {s : Scope W Y R} {value : Json.Ticker}
    (hdefined : value.state.tradingStatus ≠ .undefined)
    (hother : s.stream.tradingStatus value.instrumentName ≠ value.state.tradingStatus) :
    (ticker env value s).1.stream = { s.stream with
      tradingStatus := Function.update s.stream.tradingStatus value.instrumentName
        value.state.tradingStatus } ∧
    (ticker env value s).2 = [.marketStatus
      { streamId := s.stream.streamId
        exchange := env.exchange
        symbol := value.instrumentName
        tradingStatus := value.state.tradingStatus }] := by
  simp only [ticker, if_pos (And.intro hdefined hother)]
  exact ⟨rfl, rfl⟩

theorem Statuses.ticker {s : Scope W Y R} {i : Input Y R} {statuses seen : List TradingStatus}
    (h : Statuses symbol s.stream statuses seen) {value : Json.Ticker}
    (hevent : i.event = .message (.ticker value)) :
    Statuses symbol (ticker env value s).1.stream
      (statuses ++ (tradingStatus? symbol i).toList)
      (seen ++ (ticker env value s).2.filterMap (Output.marketStatus? symbol)) := by
  by_cases hsymbol : value.instrumentName = symbol
  · subst hsymbol
    by_cases hundefined : value.state.tradingStatus = .undefined
    · have hheard : tradingStatus? value.instrumentName i = none := by
        simp [tradingStatus?, hevent, hundefined]
      have hdropped : WebSocket.ticker env value s = (s, []) := by
        simp [WebSocket.ticker, hundefined]
      rw [hheard, hdropped, Option.toList_none, List.append_nil, List.filterMap_nil,
        List.append_nil]
      exact h
    · have hheard : tradingStatus? value.instrumentName i = some value.state.tradingStatus := by
        simp [tradingStatus?, hevent, hundefined]
      rw [hheard]
      by_cases hsame : s.stream.tradingStatus value.instrumentName = value.state.tradingStatus
      · have hdropped : WebSocket.ticker env value s = (s, []) := by
          simp [WebSocket.ticker, hsame]
        rw [hdropped, List.filterMap_nil, List.append_nil]
        exact h.drop fun hne => hne hsame
      · obtain ⟨hnext, hos⟩ := ticker_eq hundefined hsame
        have hupdated : (WebSocket.ticker env value s).1.stream.tradingStatus value.instrumentName =
            value.state.tradingStatus := by
          rw [hnext]
          exact Function.update_self _ _ _
        have hseen : (WebSocket.ticker env value s).2.filterMap
            (Output.marketStatus? value.instrumentName) = [value.state.tradingStatus] := by
          rw [hos]
          simp [Output.marketStatus?]
        rw [Statuses, hupdated, hseen]
        exact h.pass hsame
  · -- the status of another symbol
    have hheard : tradingStatus? symbol i = none := by simp [tradingStatus?, hevent, hsymbol]
    rw [hheard, Option.toList_none, List.append_nil]
    by_cases hdropped : value.state.tradingStatus ≠ .undefined ∧
        s.stream.tradingStatus value.instrumentName ≠ value.state.tradingStatus
    · obtain ⟨hnext, hos⟩ := ticker_eq hdropped.1 hdropped.2
      have hkept : (WebSocket.ticker env value s).1.stream.tradingStatus symbol =
          s.stream.tradingStatus symbol := by
        rw [hnext]
        exact Function.update_of_ne (Ne.symm hsymbol) _ _
      have hsilent : (WebSocket.ticker env value s).2.filterMap
          (Output.marketStatus? symbol) = [] := by
        rw [hos]
        simp [Output.marketStatus?, hsymbol]
      rw [Statuses, hkept, hsilent, List.append_nil]
      exact h
    · have hskip : WebSocket.ticker env value s = (s, []) := by
        simp only [WebSocket.ticker, if_neg hdropped, skip_apply]
      rw [hskip, List.filterMap_nil, List.append_nil]
      exact h

theorem Statuses.frame {o o' : WebSocket W} {statuses seen statuses' : List TradingStatus}
    (h : Statuses symbol o statuses seen) (hstatus : o'.tradingStatus = o.tradingStatus)
    (hsilent : statuses' = []) : Statuses symbol o' statuses (seen ++ statuses') := by
  rw [Statuses, hstatus, hsilent, List.append_nil]
  exact h

/-! ## What does not interfere -/

/-- A ticker leaves the tops of the books alone. -/
theorem ticker_books (value : Json.Ticker) (s : Scope W Y R) :
    (ticker env value s).1.stream.topOfBook = s.stream.topOfBook ∧
      (ticker env value s).2.filterMap (Output.layer? symbol) = [] := by
  unfold ticker
  simp only
  split_ifs
  · exact ⟨rfl, rfl⟩
  · exact ⟨rfl, rfl⟩

/-- A quote leaves the statuses alone. -/
theorem quote_statuses (value : Json.Quote) (s : Scope W Y R) :
    (quote env value s).1.stream.tradingStatus = s.stream.tradingStatus ∧
      (quote env value s).2.filterMap (Output.marketStatus? symbol) = [] := by
  by_cases hpublish : env.publishTopOfBook = true
  · cases hentry : WebSocket.getTopOfBook env s value.instrumentName with
    | none =>
      rw [quote_dropped fun _ => hentry]
      exact ⟨rfl, rfl⟩
    | some entry =>
      obtain ⟨hnext, hos⟩ := quote_eq hpublish hentry
      rw [hnext, hos]
      refine ⟨rfl, ?_⟩
      split_ifs
      · rfl
      · rfl
  · rw [quote_dropped fun h => absurd h hpublish]
    exact ⟨rfl, rfl⟩

/-! ## What a client sees -/

section

variable [Symbols Y] [LimitRequest R] [Download State W]

/-- Where a call reads neither a quote nor a ticker. -/
theorem Keeps.of_call {event : Event} {s : Scope W Y R} {r : Scope W Y R × List Output}
    (hquote : ∀ value, event ≠ .message (.quote value))
    (hticker : ∀ value, event ≠ .message (.ticker value))
    (h : call env ctx event s = some r) : Keeps s r.2 r.1 :=
  tolerates_keeps.call hquote hticker h

theorem step_quotes {o t : WebSocket W} {q : Quoted} {os : List Output} (i : Input Y R)
    (h : Quotes env symbol o q (os.filterMap (Output.layer? symbol)))
    (ht : (step env o i).1 = some t) :
    Quotes env symbol t (q.hear env symbol i)
      ((os ++ (step env o i).2).filterMap (Output.layer? symbol)) := by
  obtain hs | ⟨r, hcall, hs⟩ := step_cases env o i
  · rw [hs] at ht
    cases ht
  · rw [hs] at ht ⊢
    obtain rfl := Option.some.inj ht
    rw [List.filterMap_append]
    by_cases hquote : ∃ value, i.event = .message (.quote value)
    · obtain ⟨value, hevent⟩ := hquote
      rw [hevent] at hcall
      obtain rfl := Option.some.inj hcall
      exact h.quote hevent
    · have hheard : q.hear env symbol i = q := by
        unfold Quoted.hear
        split
        · rename_i value hevent
          exact absurd ⟨value, hevent⟩ hquote
        · rfl
      rw [hheard]
      by_cases hticker : ∃ value, i.event = .message (.ticker value)
      · obtain ⟨value, hevent⟩ := hticker
        rw [hevent] at hcall
        obtain rfl := Option.some.inj hcall
        obtain ⟨hbook, hsilent⟩ := ticker_books value ⟨o, i.shared, i.requests⟩
        exact h.frame hbook hsilent
      · have hkeeps := Keeps.of_call (fun value hevent => hquote ⟨value, hevent⟩)
          (fun value hevent => hticker ⟨value, hevent⟩) hcall
        exact h.frame hkeeps.topOfBook hkeeps.layers

theorem step_statuses {o t : WebSocket W} {statuses : List TradingStatus} {os : List Output}
    (i : Input Y R)
    (h : Statuses symbol o statuses (os.filterMap (Output.marketStatus? symbol)))
    (ht : (step env o i).1 = some t) :
    Statuses symbol t (statuses ++ (tradingStatus? symbol i).toList)
      ((os ++ (step env o i).2).filterMap (Output.marketStatus? symbol)) := by
  obtain hs | ⟨r, hcall, hs⟩ := step_cases env o i
  · rw [hs] at ht
    cases ht
  · rw [hs] at ht ⊢
    obtain rfl := Option.some.inj ht
    rw [List.filterMap_append]
    by_cases hticker : ∃ value, i.event = .message (.ticker value)
    · obtain ⟨value, hevent⟩ := hticker
      rw [hevent] at hcall
      obtain rfl := Option.some.inj hcall
      exact Statuses.ticker (s := ⟨o, i.shared, i.requests⟩) h hevent
    · have hheard : tradingStatus? symbol i = none := by
        unfold tradingStatus?
        split
        · rename_i value hevent
          exact absurd ⟨value, hevent⟩ hticker
        · rfl
      rw [hheard, Option.toList_none, List.append_nil]
      by_cases hquote : ∃ value, i.event = .message (.quote value)
      · obtain ⟨value, hevent⟩ := hquote
        rw [hevent] at hcall
        obtain rfl := Option.some.inj hcall
        obtain ⟨hstatus, hsilent⟩ := quote_statuses value ⟨o, i.shared, i.requests⟩
        exact h.frame hstatus hsilent
      · have hkeeps := Keeps.of_call (fun value hevent => hquote ⟨value, hevent⟩)
          (fun value hevent => hticker ⟨value, hevent⟩) hcall
        exact h.frame hkeeps.tradingStatus hkeeps.marketStatuses

/-- In every run, what a client sees of a symbol are the changes of what is said of it. -/
theorem clients_see_changes (env : Env) (streamId : UInt16) (index : ℕ) (master : Bool)
    (symbol : String) {is : List (Input Y R)}
    (hgoes : (run (step env) (initial streamId index master : WebSocket W) is).1.isSome) :
    let os := (run (step env) (initial streamId index master : WebSocket W) is).2
    env.emptyLayer :: os.filterMap (Output.layer? symbol) =
        (quotes env symbol is).destutter' env.Differ env.emptyLayer ∧
      .undefined :: os.filterMap (Output.marketStatus? symbol) =
        (is.filterMap (tradingStatus? symbol)).destutter' (· ≠ ·) .undefined := by
  intro os
  obtain ⟨t, ht⟩ := Option.isSome_iff_exists.mp hgoes
  have hall : Guarded (step env) (fun _ _ => True)
      (initial streamId index master : WebSocket W) is := guarded_of_forall fun _ _ _ => trivial
  constructor
  · have hquotes := run_follows (R := fun o q os => Quotes env symbol o q
      (os.filterMap (Output.layer? symbol))) (fun o q os i t h _ => step_quotes i h)
      (quotes_initial env symbol streamId index master) hall ht
    obtain ⟨last, hpassed, -⟩ := hquotes.passed
    exact hpassed.eq
  · have hstatuses := run_follows (R := fun o statuses os => Statuses symbol o statuses
      (os.filterMap (Output.marketStatus? symbol))) (fun o q os i t h _ => step_statuses i h)
      .start hall ht
    rw [List.filterMap_eq_flatMap_toList (tradingStatus? symbol), List.flatMap_eq_foldl]
    exact hstatuses.eq

end

/-- A quote of a symbol with a multiplier of 10. -/
def Input.quoting (symbol : String) (bidPrice : ℚ) : Input SymbolTable RequestProgress :=
  let i := Input.plain (.message (.quote
    { instrumentName := symbol
      bestBidPrice := some bidPrice
      bestBidAmount := some 3
      bestAskPrice := some 101
      bestAskAmount := some 2
      timestamp := 1 }))
  { i with shared := i.shared.setMultiplier "BTC-PERPETUAL" (some 10) }

/-- A ticker of a symbol. -/
abbrev Input.ticking (symbol : String) (state : Json.State) : Input SymbolTable RequestProgress :=
  .plain (.message (.ticker ⟨symbol, state⟩))

/-- Two symbols, one of which has no multiplier, and a disconnect. -/
abbrev testedPrices : List (Input SymbolTable RequestProgress) :=
  [.quoting "BTC-PERPETUAL" 99, .quoting "ETH-PERPETUAL" 7, .ticking "BTC-PERPETUAL" .open,
    .plain .disconnected, .quoting "BTC-PERPETUAL" 99, .ticking "ETH-PERPETUAL" .closed,
    .ticking "BTC-PERPETUAL" .open, .quoting "BTC-PERPETUAL" 100,
    .ticking "BTC-PERPETUAL" .closed]

theorem tested_changes :
    let os := (run (step .plain) plain testedPrices).2
    os.filterMap (Output.layer? "BTC-PERPETUAL") =
        [⟨some 99, some 30, some 101, some 20⟩, ⟨some 100, some 30, some 101, some 20⟩] ∧
      os.filterMap (Output.marketStatus? "BTC-PERPETUAL") = [.open, .close] := by
  obtain ⟨hlayers, hstatuses⟩ :=
    clients_see_changes (W := Counter State) .plain 4 1 false "BTC-PERPETUAL"
      (show (run (step .plain) plain testedPrices).1.isSome from rfl)
  have hquotes : (quotes .plain "BTC-PERPETUAL" testedPrices).destutter' Env.plain.Differ
      Env.plain.emptyLayer = [Env.plain.emptyLayer, ⟨some 99, some 30, some 101, some 20⟩,
        ⟨some 100, some 30, some 101, some 20⟩] := by decide +kernel
  have htickers : (testedPrices.filterMap (tradingStatus? "BTC-PERPETUAL")).destutter' (· ≠ ·)
      .undefined = [.undefined, .open, .close] := by decide +kernel
  exact ⟨(List.cons.inj (hlayers.trans hquotes)).2, (List.cons.inj (hstatuses.trans htickers)).2⟩

end WebSocket

end DeribitGateway
