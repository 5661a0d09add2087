import DeribitGateway.Controller.Sharing

/-!
# What can be priced

A quote of the web socket streams is dropped if the multiplier of its symbol is not known. The
multipliers come with the instruments, from the REST client or from a market data stream, and
next to them the clients are told of the instruments. So whatever clients have been told of can
be priced, by all web socket streams, and so can every known symbol but those that clients have
asked for themselves (`told_symbols_are_priced`).
-/

namespace DeribitGateway

open Emission StagedDownload Transducer

/-- The symbols that are known, and the multipliers. -/
abbrev Known := Finset String × (String → Option Double)

def SharedState.known {Y : Type} (shared : SharedState Y) : Known :=
  (shared.allSymbols, shared.multiplier)

/-- No multiplier is forgotten, and there is one for every symbol that clients are told of, and
    for those that become known without being asked for. -/
structure Priced (Asked : String → Prop) (known : Known) (told : List String) (known' : Known) :
    Prop where
  kept : ∀ symbol, (known.2 symbol).isSome → (known'.2 symbol).isSome
  new : ∀ symbol ∈ known'.1, symbol ∈ known.1 ∨ Asked symbol ∨ (known'.2 symbol).isSome
  told : ∀ symbol ∈ told, (known'.2 symbol).isSome

variable {Y R : Type} {Asked : String → Prop}

theorem composes_priced : Composes (Priced Asked) where
  refl _ := ⟨fun _ h => h, fun _ h => .inl h, fun _ h => absurd h List.not_mem_nil⟩
  trans h h' := by
    refine ⟨fun symbol hsome => h'.kept symbol (h.kept symbol hsome), ?_, ?_⟩
    · intro symbol hmem
      rcases h'.new symbol hmem with hmem | hnew
      · rcases h.new symbol hmem with hmem | hasked | hsome
        · exact .inl hmem
        · exact .inr (.inl hasked)
        · exact .inr (.inr (h'.kept symbol hsome))
      · exact .inr hnew
    · intro symbol hmem
      rcases List.mem_append.mp hmem with hmem | hmem
      · exact h'.kept symbol (h.told symbol hmem)
      · exact h'.told symbol hmem

theorem Priced.of_eq {known known' : Known} {told : List String} (hknown : known' = known)
    (htold : told = []) : Priced Asked known told known' := by
  rw [hknown, htold]
  exact composes_priced.refl known

/-- An instrument: its multiplier is noted, and it becomes known unless it is discarded. -/
theorem Priced.instrument (Asked : String → Prop) (shared : SharedState Y) (symbol : String)
    (multiplier : Double) {told : List String} (htold : ∀ symbol' ∈ told, symbol' = symbol)
    (discard : Bool) :
    Priced Asked shared.known told
      (if discard then (shared.setMultiplier symbol multiplier).known
        else ((shared.setMultiplier symbol multiplier).emplaceSymbol symbol).1.known) := by
  have hself : ((shared.setMultiplier symbol multiplier).multiplier symbol).isSome :=
    Option.isSome_iff_exists.mpr ⟨multiplier, Function.update_self _ _ _⟩
  have hkept : ∀ symbol', (shared.multiplier symbol').isSome →
      ((shared.setMultiplier symbol multiplier).multiplier symbol').isSome := by
    intro symbol' hsome
    by_cases heq : symbol' = symbol
    · exact heq ▸ hself
    · exact (congrArg Option.isSome (Function.update_of_ne heq _ _)).trans hsome
  have hnoted : ∀ symbol' ∈ told,
      ((shared.setMultiplier symbol multiplier).multiplier symbol').isSome :=
    fun symbol' hmem => htold symbol' hmem ▸ hself
  cases discard with
  | true => exact ⟨hkept, fun _ hmem => .inl hmem, hnoted⟩
  | false =>
    refine ⟨hkept, ?_, hnoted⟩
    intro symbol' hmem
    rcases Finset.mem_insert.mp hmem with rfl | hmem
    · exact .inr (.inr hself)
    · exact .inl hmem

/-! ## The REST client -/

namespace Rest

variable {env : Env} {ctx : Context}

/-- The symbol of an instrument that clients are told of. -/
def Output.instrument? : Output → Option String
  | .referenceData value => some value.symbol
  | _ => none

/-- What the client does. -/
def Prices (Asked : String → Prop) (s : Scope Y R) (os : List Output) (t : Scope Y R) : Prop :=
  Priced Asked s.shared.known (os.filterMap Output.instrument?) t.shared.known

theorem composes_prices :
    Composes (Prices Asked : Scope Y R → List Output → Scope Y R → Prop) where
  refl s := composes_priced.refl s.shared.known
  trans h h' := by
    unfold Prices
    rw [List.filterMap_append]
    exact composes_priced.trans h h'

theorem instruments_priced (Asked : String → Prop) (env : Env) (ctx : Context)
    (streamId : UInt16) (i : ℕ) (items : List Json.Instrument) (shared : SharedState Y) :
    Priced Asked shared.known
      ((instruments env ctx streamId i items shared).2.1.filterMap Output.instrument?)
      (instruments env ctx streamId i items shared).1.known := by
  induction items generalizing i shared with
  | nil => exact composes_priced.refl _
  | cons item items ih =>
    by_cases h : Throws env ctx i
    · rw [instruments_throws item items shared h]
      exact composes_priced.refl _
    · obtain ⟨discard, hdiscard⟩ := Option.ne_none_iff_exists'.mp (not_or.mp h).1
      rw [instruments_cons item items shared h hdiscard]
      have htold : ∀ symbol ∈ (report env streamId item discard).filterMap Output.instrument?,
          symbol = item.instrumentName := by
        intro symbol hmem
        unfold report at hmem
        split_ifs at hmem
        · cases hmem
        · exact List.mem_singleton.mp hmem
      have hitem := Priced.instrument Asked shared item.instrumentName
        (SharedState.computeContractsMultiplier env.isZero item.contractSize) htold discard
      cases discard with
      | true =>
        simp only [if_true, List.filterMap_append]
        exact composes_priced.trans hitem (ih (i + 1) _)
      | false =>
        simp only [Bool.false_eq_true, if_false, List.filterMap_append]
        exact composes_priced.trans hitem (ih (i + 1) _)

/-- What leaves the symbols alone and does not speak of instruments. -/
theorem Prices.still {s t : Scope Y R} {os : List Output}
    (hknown : t.shared.known = s.shared.known) (hos : ∀ x ∈ os, x.instrument? = none) :
    Prices Asked s os t :=
  .of_eq hknown (List.filterMap_eq_nil_iff.mpr hos)

theorem tolerates_prices :
    Tolerates (Prices Asked : Scope Y R → List Output → Scope Y R → Prop) where
  composes := composes_prices
  frame s t hshared _ := .still (by rw [hshared]) fun _ hx => absurd hx List.not_mem_nil
  report s x h := by
    refine .still rfl ?_
    intro y hy
    obtain rfl := List.mem_singleton.mp hy
    cases y with
    | referenceData value => exact h.elim
    | _ => rfl
  checkRequestQueue ctx s := by
    refine .still rfl ?_
    intro x hx
    obtain ⟨symbol, -, rfl⟩ := List.mem_map.mp hx
    rfl
  getCurrenciesAck result s := by
    obtain ⟨known, hshared⟩ := newCurrencies_shared result s.shared
    refine .still ((congrArg SharedState.known hshared).trans rfl) ?_
    intro x hx
    simp only [getCurrenciesAck] at hx
    split_ifs at hx
    · cases hx
    · obtain rfl := List.mem_singleton.mp hx
      rfl
  getInstrumentsAck env ctx result s := by
    have hloop := instruments_priced Asked env ctx s.stream.streamId 0 result s.shared
    have hnone : (getInstrumentsAck env ctx result s).2.filterMap Output.instrument? =
        (instruments env ctx s.stream.streamId 0 result s.shared).2.1.filterMap
          Output.instrument? := by
      simp only [getInstrumentsAck, List.filterMap_append]
      split
      · exact List.append_nil _
      · exact List.append_nil _
      · exact List.append_nil _
    unfold Prices
    rw [hnone]
    exact hloop

end Rest

/-! ## The market data streams -/

namespace MarketData

variable {D : Type} {env : Env} {ctx : Context Y}

/-- The symbol of an instrument that clients are told of. -/
def Output.instrument? : Output → Option String
  | .referenceData value => some value.symbol
  | _ => none

theorem securities_priced {streamId : UInt16} {i : ℕ} {items : List Fix.Instrument}
    {shared : SharedState Y} {result : SharedState Y × List Output × List String}
    (h : securities env ctx streamId i items shared = some result) :
    Priced Asked shared.known (result.2.1.filterMap Output.instrument?) result.1.known := by
  induction items generalizing i shared result with
  | nil =>
    obtain rfl := Option.some.inj h
    exact composes_priced.refl _
  | cons item items ih =>
    simp only [securities, Option.bind_eq_some_iff, Option.map_eq_some_iff] at h
    obtain ⟨discard, -, report, hreport, rest, hrest, rfl⟩ := h
    have htold : ∀ symbol ∈ report.filterMap Output.instrument?, symbol = item.symbol := by
      intro symbol hmem
      split_ifs at hreport
      · obtain ⟨value, hvalue, rfl⟩ := Option.map_eq_some_iff.mp hreport
        obtain ⟨_, -, rfl⟩ := Option.map_eq_some_iff.mp hvalue
        exact List.mem_singleton.mp hmem
      · obtain rfl := Option.some.inj hreport
        cases hmem
    have hitem := Priced.instrument Asked shared item.symbol
      (SharedState.computeContractsMultiplier env.isZero item.contractMultiplier) htold discard
    simp only [List.filterMap_append]
    cases discard with
    | true => exact composes_priced.trans hitem (ih hrest)
    | false => exact composes_priced.trans hitem (ih hrest)

/-- What the stream does. -/
def Prices (Asked : String → Prop) (s : MarketData D × SharedState Y) (os : List Output)
    (t : MarketData D × SharedState Y) : Prop :=
  Priced Asked s.2.known (os.filterMap Output.instrument?) t.2.known

theorem Prices.still {s t : MarketData D × SharedState Y} {os : List Output}
    (hknown : t.2.known = s.2.known) (hos : ∀ x ∈ os, x.instrument? = none) :
    Prices Asked s os t :=
  .of_eq hknown (List.filterMap_eq_nil_iff.mpr hos)

theorem Prices.single {s t : MarketData D × SharedState Y} {x : Output}
    (hknown : t.2.known = s.2.known) (hx : x.instrument? = none) : Prices Asked s [x] t :=
  .still hknown fun _ hmem => List.mem_singleton.mp hmem ▸ hx

theorem allows_prices (Asked : String → Prop) (ctx : Context Y) :
    Allows ctx (Prices Asked : MarketData D × SharedState Y → List Output →
      MarketData D × SharedState Y → Prop) where
  composes := by
    refine ⟨fun s => composes_priced.refl s.2.known, ?_⟩
    intro s t u os os' h h'
    unfold Prices
    rw [List.filterMap_append]
    exact composes_priced.trans h h'
  frame s t _ hshared := .still (by rw [hshared]) fun _ hx => absurd hx List.not_mem_nil
  report s x hplain _ := by
    refine .single rfl ?_
    cases x with
    | referenceData value => exact hplain.elim
    | _ => rfl
  request _ _ _ := .single rfl rfl

variable [Symbols Y] [Download State D]

theorem call_prices (Asked : String → Prop) {event : Event}
    (hevent : ∀ header noRelatedSym, event ≠ .message header (.securityList noRelatedSym))
    {s : MarketData D × SharedState Y} {r : (MarketData D × SharedState Y) × List Output}
    (h : call env ctx event s = some r) : Prices Asked s r.2 r.1 := by
  refine (allows_prices Asked ctx).call ?_ ?_ ?_ hevent h
  · intro s x hupdate _
    refine .single rfl ?_
    cases x with
    | referenceData value => cases hupdate
    | _ => rfl
  · exact fun _ _ => .single rfl rfl
  · exact fun _ => .single rfl rfl

end MarketData

/-! ## The controller -/

namespace Controller

variable {W C D : Type}

/-- The symbol of an instrument that clients are told of. -/
def Output.instrument? : Output → Option String
  | .rest value => value.instrument?
  | .marketData _ value => value.instrument?
  | _ => none

variable [Symbols Y] [LimitRequest R] [Download WebSocket.State W] [Download DropCopy.State C]
  [Download MarketData.State D]

theorem watched_prices (env : Env) (Asked : String → Prop) :
    Watched env (fun c : Controller Y R W C D => c.shared.known) Output.instrument? Asked
      (fun _ _ => False) (Priced Asked) where
  composes := composes_priced
  told x h := by
    cases x with
    | rest value => cases value <;> first | rfl | exact h.elim
    | marketData k value => exact h.elim
    | _ => rfl
  aside _ h := h.elim
  dropCopy _ _ _ _ _ _ _ _ := ⟨rfl, fun _ _ _ hy => absurd hy (Option.not_mem_none _)⟩
  symbols _ _ := .of_eq rfl rfl
  emplaceSymbol c symbol hasked := by
    refine ⟨fun _ h => h, ?_, fun _ h => absurd h List.not_mem_nil⟩
    intro symbol' hmem
    rcases Finset.mem_insert.mp hmem with rfl | hmem
    · exact .inr (.inl hasked)
    · exact .inl hmem
  createMarketData _ := .of_eq rfl rfl
  createWebSocket _ := .of_eq rfl rfl
  rest c ctx event r h := Rest.tolerates_prices.call h
  webSocket c k o ctx event r _ h := by
    refine .of_eq ?_ (List.filterMap_eq_nil_iff.mpr fun _ _ => rfl)
    exact (congrArg SharedState.known (WebSocket.ignores_waits.call h)).trans rfl
  marketData c k o ctx event r _ hevent h := MarketData.call_prices Asked hevent h
  securities c k o ctx header noRelatedSym r _ h := MarketData.securities_priced h
  checkSecurities c k o ctx _ := by
    have hprices : MarketData.Prices Asked (o, c.shared)
        (MarketData.checkSecurities env.marketData ctx (o, c.shared)).2
        (MarketData.checkSecurities env.marketData ctx (o, c.shared)).1 :=
      (MarketData.allows_prices Asked ctx).checkSecurities _
    exact hprices

/-- **Clients are told of nothing that cannot be priced.** In every state of every run, each
    symbol of an instrument that clients have been told of has a multiplier, and so has each
    known symbol that no client has asked for; and every web socket stream finds it. -/
theorem told_symbols_are_priced (env : Env) (symbols : Y) (accounts : List (String × String))
    {is : List (Context Y × Event)} {c : Controller Y R W C D} {os : List Output}
    (hrun : run (step env) (initial symbols accounts) is = (some c, os)) (symbol : String)
    (hsymbol : symbol ∈ os.filterMap Output.instrument? ∨
      symbol ∈ c.shared.allSymbols ∧ ∀ i ∈ is, symbol ∉ i.2.asked) :
    (c.shared.multiplier symbol).isSome ∧ ∀ o ∈ c.webSocket,
      (WebSocket.getTopOfBook env.webSocket ⟨o, c.shared, c.requests⟩ symbol).isSome := by
  let Asked (symbol : String) : Prop := ∃ i ∈ is, symbol ∈ i.2.asked
  have hwatched : Watched env (fun c : Controller Y R W C D => c.shared.known) Output.instrument?
      Asked (fun _ _ => False) (Priced Asked) := watched_prices env Asked
  have hpriced := (hwatched.run (initial symbols accounts)
    fun i hi symbol hmem => ⟨i, hi, hmem⟩).2 c (congrArg Prod.fst hrun)
  rw [hrun] at hpriced
  have hsome : (c.shared.multiplier symbol).isSome := by
    rcases hsymbol with htold | ⟨hmem, hunasked⟩
    · exact hpriced.told symbol htold
    · rcases hpriced.new symbol hmem with hnone | ⟨i, hi, hasked⟩ | hsome
      · exact absurd hnone (Finset.notMem_empty symbol)
      · exact absurd hasked (hunasked i hi)
      · exact hsome
  refine ⟨hsome, ?_⟩
  intro o _
  unfold WebSocket.getTopOfBook
  cases o.topOfBook symbol with
  | some entry => rfl
  | none => exact (Option.isSome_map ..).trans hsome

/-- A symbol that a client has asked for before, and one that is new. -/
theorem downloaded_symbols_are_priced :
    ∃ c os, run (step .plain) plain subscribeAndDownload = (some c, os) ∧
      (c.shared.multiplier "BTC-PERPETUAL").isSome ∧
      ∀ o ∈ c.webSocket,
        (WebSocket.getTopOfBook .plain ⟨o, c.shared, c.requests⟩ "ETH-PERPETUAL").isSome := by
  obtain ⟨c, hc⟩ : ∃ c, (run (step .plain) plain subscribeAndDownload).1 = some c := ⟨_, rfl⟩
  have hrun : run (step .plain) plain subscribeAndDownload =
      (some c, (run (step .plain) plain subscribeAndDownload).2) := Prod.ext hc rfl
  have htold : (run (step .plain) plain subscribeAndDownload).2.filterMap Output.instrument? =
      ["BTC-PERPETUAL", "BTC-PERPETUAL", "ETH-PERPETUAL"] := by decide +kernel
  refine ⟨c, _, hrun, ?_, ?_⟩
  · refine (told_symbols_are_priced .plain _ _ hrun "BTC-PERPETUAL" (.inl ?_)).1
    rw [htold]
    exact List.mem_cons_self
  · refine (told_symbols_are_priced .plain _ _ hrun "ETH-PERPETUAL" (.inl ?_)).2
    rw [htold]
    exact List.mem_cons_of_mem _ (List.mem_cons_of_mem _ List.mem_cons_self)

end Controller

end DeribitGateway
