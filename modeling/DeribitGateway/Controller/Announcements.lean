import DeribitGateway.Controller.Handlers
import DeribitGateway.Fix.MarketDataHandlers
import DeribitGateway.Json.RestHandlers
import DeribitGateway.Json.WebSocketHandlers

/-!
# Announcements of symbols

Symbols become known one by one, and are announced to the controller together, behind the loop
that has found them. Three loops do so: over the instruments of a response, over a list of
securities, and over what a client subscribes to. Each finds exactly the symbols that it then
announces (`call_emplaces`), and so every symbol that is known has been announced once.

The exception is an exception: an instrument that throws ends the loop, and the symbols found
before are known from then on, but never announced. `SparesNew` excludes it.
-/

namespace DeribitGateway

namespace Controller

open Emission StagedDownload Transducer

variable {Y R W C D : Type} {env : Env} {ctx : Context Y}

/-! ## What is announced -/

def Output.update? : Output → Option (List String)
  | .symbolsUpdate symbols => some symbols
  | _ => none

/-- What the controller is told of new symbols, in order. -/
def updates (os : List Output) : List (List String) := os.filterMap Output.update?

theorem updates_append (os os' : List Output) : updates (os ++ os') = updates os ++ updates os' :=
  List.filterMap_append

theorem updates_map {α : Type} {tag : α → Output} (h : ∀ x, (tag x).update? = none)
    (xs : List α) : updates (xs.map tag) = [] := by
  rw [updates, List.filterMap_map]
  exact List.filterMap_eq_nil_iff.mpr fun x _ => h x

/-- The controller is told `told`, and no symbol becomes known. -/
structure Announces (told : List (List String)) (c : Controller Y R W C D) (os : List Output)
    (c' : Controller Y R W C D) : Prop where
  allSymbols : c'.shared.allSymbols = c.shared.allSymbols
  updates : updates os = told

theorem Announces.trans {told told' : List (List String)} {c c' c'' : Controller Y R W C D}
    {os os' : List Output} (h : Announces told c os c') (h' : Announces told' c' os' c'') :
    Announces (told ++ told') c (os ++ os') c'' where
  allSymbols := h'.allSymbols.trans h.allSymbols
  updates := by rw [updates_append, h.updates, h'.updates]

theorem composes_silent : Composes (Announces [] : Controller Y R W C D → List Output →
    Controller Y R W C D → Prop) :=
  ⟨fun _ => ⟨rfl, rfl⟩, fun h h' => h.trans h'⟩

theorem onDropCopy_silent (ctx : Context Y) (k : ℕ)
    (f : DropCopy.Context → DropCopy.Handler C) :
    Meets (Announces []) (onDropCopy ctx k f : Handler Y R W C D) := by
  apply onDropCopy_meets composes_silent
  intro c o _
  exact ⟨rfl, updates_map (fun _ => rfl) _⟩

theorem latch_silent (env : Env) (ctx : Context Y) :
    Meets (Announces []) (latch env ctx : Handler Y R W C D) := by
  apply composes_silent.seq (fun _ => ⟨rfl, rfl⟩)
  intro c
  exact composes_silent.each (fun k => onDropCopy_silent ctx k _) _ c

theorem currenciesUpdate_silent (env : Env) (ctx : Context Y) (currencies : List String) :
    Meets (Announces []) (currenciesUpdate env ctx currencies : Handler Y R W C D) := by
  apply composes_silent.seq (fun _ => ⟨rfl, rfl⟩)
  intro c
  exact composes_silent.each (fun k => onDropCopy_silent ctx k _) _ c

/-- A stream that changes nothing that is known of the symbols. -/
theorem onMarketData_silent (k : ℕ) {f : MarketData.Handler D Y}
    (h : Meets MarketData.KeepsSymbols f) :
    Meets (Announces []) (onMarketData k f : Handler Y R W C D) := by
  apply onMarketData_meets composes_silent
  intro c o _
  exact ⟨(Prod.mk.inj (h (o, c.shared))).2, updates_map (fun _ => rfl) _⟩

variable [Symbols Y]

theorem subscribeMarketData_silent (env : Env) (ctx : Context Y) (startFrom : ℕ) :
    Meets (Announces []) (subscribeMarketData env ctx startFrom : Handler Y R W C D) := by
  intro c
  refine composes_silent.each ?_ _ c
  intro k
  exact onMarketData_silent k (MarketData.subscribe_keepsSymbols _ _ _)

theorem subscribeWebSocket_silent (env : Env) (startFrom : ℕ) :
    Meets (Announces []) (subscribeWebSocket env startFrom : Handler Y R W C D) := by
  intro c
  refine composes_silent.each ?_ _ c
  intro k
  apply onWebSocket_meets composes_silent
  intro c o _
  exact ⟨(WebSocket.subscribe_rests startFrom ⟨o, c.shared, c.requests⟩).allSymbols,
    updates_map (fun _ => rfl) _⟩

variable [Download WebSocket.State W] [Download MarketData.State D]

theorem symbolsUpdate_announces (env : Env) (ctx : Context Y) (symbols : List String)
    (c : Controller Y R W C D) :
    Announces [symbols] c (symbolsUpdate env ctx symbols c).2
      (symbolsUpdate env ctx symbols c).1 := by
  obtain ⟨grown, hgrows, -, heq⟩ := symbolsUpdate_eq env ctx symbols c
  have hstreams : Meets (Announces [])
      (seq (subscribeMarketData env ctx (Symbols.append c.shared.symbols symbols).2.2)
        (subscribeWebSocket env (Symbols.append c.shared.symbols symbols).2.2) :
          Handler Y R W C D) :=
    composes_silent.seq (subscribeMarketData_silent env ctx _) (subscribeWebSocket_silent env _)
  have hgrown : grown.shared.allSymbols = c.shared.allSymbols := by rw [hgrows.shared]
  obtain ⟨hall, hupdates⟩ := hstreams grown
  rw [heq]
  exact ⟨hall.trans hgrown, congrArg (symbols :: ·) hupdates⟩

/-! ## Calls -/

/-- The symbols that are found become known, and the controller is told of them. -/
def Emplaces (c : Controller Y R W C D) (os : List Output) (c' : Controller Y R W C D) : Prop :=
  Emplaced c.shared.allSymbols (updates os).flatten c'.shared.allSymbols

omit [Symbols Y] [Download WebSocket.State W] [Download MarketData.State D] in
theorem Announces.emplaces {c c' : Controller Y R W C D} {os : List Output}
    (h : Announces [] c os c') : Emplaces c os c' := by
  unfold Emplaces
  rw [h.updates, h.allSymbols]
  exact .refl _

omit [Symbols Y] [Download WebSocket.State W] [Download MarketData.State D] in
/-- A loop has found symbols, before they are announced. -/
theorem Announces.emplaces_of_found {new : List String} {told : List (List String)}
    {c found c' : Controller Y R W C D} {os : List Output} (h : Announces told found os c')
    (htold : told.flatten = new)
    (hfound : Emplaced c.shared.allSymbols new found.shared.allSymbols) : Emplaces c os c' := by
  unfold Emplaces
  rw [h.updates, h.allSymbols, htold]
  exact hfound

omit [Symbols Y] [Download WebSocket.State W] [Download MarketData.State D] in
theorem emplaceSymbols_emplaced (symbols : List String) (shared : SharedState Y) :
    (emplaceSymbols symbols shared).1.symbols = shared.symbols ∧
      Emplaced shared.allSymbols (emplaceSymbols symbols shared).2
        (emplaceSymbols symbols shared).1.allSymbols := by
  induction symbols generalizing shared with
  | nil => exact ⟨rfl, .refl _⟩
  | cons symbol symbols ih =>
    obtain ⟨hsymbols, hemplaced⟩ := ih (shared.emplaceSymbol symbol).1
    exact ⟨hsymbols, (shared.emplaceSymbol_emplaced symbol).trans hemplaced⟩

theorem subscribe_emplaces (env : Env) (ctx : Context Y) (symbols : List String) :
    Meets Emplaces (subscribe env ctx symbols : Handler Y R W C D) := by
  intro c
  exact (symbolsUpdate_announces env ctx _ _).emplaces_of_found List.flatten_singleton
    (emplaceSymbols_emplaced symbols c.shared).2

theorem deliverRest_silent (env : Env) (ctx : Context Y) {x : Rest.Output} (h : x.IsQuiet) :
    Meets (Announces []) (deliverRest env ctx x : Handler Y R W C D) := by
  cases x with
  | currenciesUpdate currencies => exact currenciesUpdate_silent env ctx currencies
  | symbolsUpdate symbols => exact h.elim
  | _ =>
    intro c
    exact ⟨rfl, rfl⟩

theorem deliver_silent (env : Env) (ctx : Context Y) {os : List Rest.Output}
    (h : Rest.Quiet os) :
    Meets (Announces []) (each (deliverRest env ctx) os : Handler Y R W C D) :=
  composes_silent.each_of_mem fun x hx => deliverRest_silent env ctx (h x hx)

omit [Symbols Y] [Download WebSocket.State W] [Download MarketData.State D] in
theorem deliverWebSocket_silent (env : Env) (ctx : Context Y) (k : ℕ) (x : WebSocket.Output) :
    Meets (Announces []) (deliverWebSocket env ctx k x : Handler Y R W C D) := by
  cases x with
  | latch => exact latch_silent env ctx
  | _ =>
    intro c
    exact ⟨rfl, rfl⟩

variable [LimitRequest R]

/-- No instrument that throws comes behind one that is found new. -/
def SparesNew (env : Env) (c : Controller Y R W C D) (i : Context Y × Event) : Prop :=
  ∀ event items, i.2 = .rest event → event.instruments = some items →
    Rest.Spares env.rest i.1.rest 0 items c.shared.allSymbols

theorem callRest_emplaces {event : Rest.Event} {c : Controller Y R W C D}
    {r : Controller Y R W C D × List Output}
    (hspares : ∀ items, event.instruments = some items →
      Rest.Spares env.rest ctx.rest 0 items c.shared.allSymbols)
    (h : callRest env ctx event c = some r) : Emplaces c r.2 r.1 := by
  obtain ⟨⟨s, os⟩, hcall, rfl⟩ := Option.map_eq_some_iff.mp h
  obtain ⟨-, reports, found, hquiet, hemplaced, hos⟩ := Rest.call_brings hcall
  have hreports := deliver_silent env ctx hquiet (c.putRest s)
  simp only at hos
  obtain ⟨rfl, hnone⟩ | rfl := hos
  -- nothing is announced, so nothing may have been found
  · rw [hnone hspares] at hemplaced
    exact hreports.emplaces_of_found rfl hemplaced
  · have hdeliver : Meets (Announces ([] ++ [found]))
        (each (deliverRest env ctx) (reports ++ [.symbolsUpdate found]) : Handler Y R W C D) := by
      intro c
      rw [each_append]
      have hlast := symbolsUpdate_announces env ctx found
        (each (deliverRest env ctx) reports c).1
      have hboth := (deliver_silent env ctx hquiet c).trans hlast
      simp only [each, seq_fst, seq_snd, skip_apply, List.append_nil]
      exact hboth
    exact (hdeliver (c.putRest s)).emplaces_of_found List.flatten_singleton hemplaced

omit [Symbols Y] [Download WebSocket.State W] [Download MarketData.State D] [LimitRequest R] in
theorem callDropCopy_silent [Download DropCopy.State C] {k : ℕ} {event : DropCopy.Event}
    {c : Controller Y R W C D} {r : Controller Y R W C D × List Output}
    (h : callDropCopy env ctx k event c = some r) : Announces [] c r.2 r.1 := by
  unfold callDropCopy at h
  split at h
  · obtain rfl := Option.some.inj h
    exact composes_silent.refl c
  · obtain ⟨⟨o, os⟩, -, rfl⟩ := Option.map_eq_some_iff.mp h
    exact ⟨rfl, updates_map (fun _ => rfl) _⟩

omit [Download MarketData.State D] in
theorem callWebSocket_silent {k : ℕ} {event : WebSocket.Event} {c : Controller Y R W C D}
    {r : Controller Y R W C D × List Output} (h : callWebSocket env ctx k event c = some r) :
    Announces [] c r.2 r.1 := by
  unfold callWebSocket at h
  split at h
  · obtain rfl := Option.some.inj h
    exact composes_silent.refl c
  · obtain ⟨⟨s, os⟩, hcall, rfl⟩ := Option.map_eq_some_iff.mp h
    have hkeeps := (Prod.mk.inj (WebSocket.call_keepsSymbols hcall)).2
    obtain ⟨hall, hupdates⟩ :=
      composes_silent.each (deliverWebSocket_silent env ctx k) os (c.putWebSocket k s)
    exact ⟨hall.trans hkeeps, hupdates⟩

omit [LimitRequest R] in
theorem securityList_emplaces {k : ℕ} {o : MarketData D} {noRelatedSym : List Fix.Instrument}
    {c : Controller Y R W C D} {r : Controller Y R W C D × List Output}
    (h : securityList env ctx k o noRelatedSym c = some r) : Emplaces c r.2 r.1 := by
  obtain ⟨⟨shared, reports, symbols⟩, hloop, rfl⟩ := Option.map_eq_some_iff.mp h
  obtain ⟨-, hemplaced, -⟩ := MarketData.securities_emplaced hloop
  have hreports : Meets (Announces []) (emit (reports.map (.marketData k)) :
      Handler Y R W C D) := by
    intro c
    exact ⟨rfl, updates_map (fun _ => rfl) _⟩
  have hcheck : Meets (Announces []) (onMarketData k
      (MarketData.checkSecurities env.marketData (ctx.marketData k)) : Handler Y R W C D) :=
    onMarketData_silent k (MarketData.checkSecurities_keepsSymbols _ _)
  obtain ⟨told, htold, hnew⟩ : ∃ told : List (List String), told.flatten = symbols ∧
      Meets (Announces told) (if symbols.isEmpty then skip else symbolsUpdate env ctx symbols :
        Handler Y R W C D) := by
    by_cases hempty : symbols.isEmpty = true
    · rw [if_pos hempty]
      exact ⟨[], (List.isEmpty_iff.mp hempty).symm, composes_silent.skip⟩
    · rw [if_neg hempty]
      exact ⟨[symbols], List.flatten_singleton, symbolsUpdate_announces env ctx symbols⟩
  have hall := (hreports (c.putMarketData k (o, shared))).trans ((hnew _).trans (hcheck _))
  refine hall.emplaces_of_found ?_ hemplaced
  rw [List.nil_append, List.append_nil]
  exact htold

variable [Download DropCopy.State C]

/-- **What is found is what is announced.** -/
theorem call_emplaces {event : Event} {c : Controller Y R W C D}
    {r : Controller Y R W C D × List Output} (hspares : SparesNew env c (ctx, event))
    (h : call env ctx event c = some r) : Emplaces c r.2 r.1 := by
  cases event with
  | subscribe symbols =>
    obtain rfl := Option.some.inj h
    exact subscribe_emplaces env ctx symbols c
  | rest event => exact callRest_emplaces (fun items => hspares event items rfl) h
  | dropCopy k event => exact (callDropCopy_silent h).emplaces
  | webSocket k event => exact (callWebSocket_silent h).emplaces
  | marketData k event =>
    simp only [call, callMarketData] at h
    split at h
    · obtain rfl := Option.some.inj h
      exact (composes_silent.refl c).emplaces
    · rename_i o ho
      split at h
      · exact securityList_emplaces h
      · rename_i event' hevent
        obtain ⟨⟨s, os⟩, hcall, rfl⟩ := Option.map_eq_some_iff.mp h
        have hkeeps := (Prod.mk.inj (MarketData.call_keepsSymbols hevent hcall)).2
        exact Announces.emplaces ⟨hkeeps, updates_map (fun _ => rfl) _⟩

/-! ## Once -/

/-- Lists that do not repeat anything between them share nothing. -/
theorem countP_mem_le_one {told : List (List String)} (h : told.flatten.Nodup)
    (symbol : String) : told.countP (symbol ∈ ·) ≤ 1 := by
  have hle : told.countP (symbol ∈ ·) ≤ told.flatten.count symbol := by
    clear h
    induction told with
    | nil => exact le_rfl
    | cons symbols told ih =>
      rw [List.countP_cons, List.flatten_cons, List.count_append]
      split_ifs with hmem
      · have hpos := List.count_pos_iff.mpr (of_decide_eq_true hmem)
        omega
      · omega
  exact hle.trans (List.nodup_iff_count_le_one.mp h symbol)

/-- **Symbols are announced once.** In every run in which no instrument throws behind one that
    is found new, each symbol that is known has been in one announcement, and no symbol in
    two. -/
theorem symbols_are_announced_once (env : Env) (symbols : Y) (accounts : List (String × String))
    {is : List (Context Y × Event)} {c : Controller Y R W C D}
    (hspares : Guarded (step env) (SparesNew env)
      (initial symbols accounts : Controller Y R W C D) is)
    (h : (run (step env) (initial symbols accounts) is).1 = some c) :
    (∀ symbol ∈ c.shared.allSymbols,
      (updates (run (step env) (initial symbols accounts : Controller Y R W C D) is).2).countP
        (symbol ∈ ·) = 1) ∧
    ∀ symbol,
      (updates (run (step env) (initial symbols accounts : Controller Y R W C D) is).2).countP
        (symbol ∈ ·) ≤ 1 := by
  have hrun := run_relates (R := Emplaces) ?_ ?_ ?_ hspares h
  · have honce := countP_mem_le_one hrun.nodup
    refine ⟨?_, honce⟩
    intro symbol hmem
    obtain hnone | hmem := (hrun.after_eq symbol).mp hmem
    · exact absurd hnone (Finset.notMem_empty symbol)
    · obtain ⟨told, htold, hin⟩ := List.mem_flatten.mp hmem
      have hpos := List.countP_pos_iff (p := fun told => decide (symbol ∈ told)).mpr
        ⟨told, htold, decide_eq_true hin⟩
      exact Nat.le_antisymm (honce symbol) hpos
  · intro c
    exact .refl _
  · intro s t u os os' hbefore hbehind
    unfold Emplaces
    rw [updates_append, List.flatten_append]
    exact Emplaced.trans hbefore hbehind
  · rintro c ⟨ctx, event⟩ t hspares hstep
    obtain hended | ⟨r, hcall, hreturns⟩ := step_cases env c ctx event
    · rw [hended] at hstep
      cases hstep
    · rw [hreturns] at hstep ⊢
      obtain rfl := Option.some.inj hstep
      exact call_emplaces hspares hcall

/-- The second instrument throws. -/
abbrev Context.throwing : Context SymbolTable :=
  { Context.plain with rest := { Rest.Context.plain with
      discardSymbol := fun i => if i = 1 then none else some false } }

/-- A download of two instruments. -/
abbrev twoInstruments : Event := .rest (.getInstrumentsAck (.success (some
  ⟨0, [Rest.perpetual "BTC-PERPETUAL", Rest.perpetual "ETH-PERPETUAL"]⟩)))

/-- A client subscribes to the first instrument. The second one throws in the first download. -/
abbrev subscribeAndDownload : List (Context SymbolTable × Event) :=
  [(.plain, .subscribe ["BTC-PERPETUAL"]), (.throwing, twoInstruments), (.plain, twoInstruments)]

/-- The symbol that throws is announced behind the second download, since the one in front of it
    was known before. -/
theorem downloaded_symbol_is_announced_once :
    ∃ c, (run (step .plain) plain subscribeAndDownload).1 = some c ∧
      "ETH-PERPETUAL" ∈ c.shared.allSymbols ∧
      (updates (run (step .plain) plain subscribeAndDownload).2).countP
        ("ETH-PERPETUAL" ∈ ·) = 1 := by
  refine ⟨_, rfl, ?_, ?_⟩
  · decide +kernel
  · refine (symbols_are_announced_once (Y := SymbolTable) (R := RequestProgress)
      (W := Counter WebSocket.State) (C := Counter DropCopy.State) (D := Counter MarketData.State)
      .plain ⟨0, []⟩ [("a", "key")] ?_ rfl).1 "ETH-PERPETUAL" ?_
    · refine ⟨nofun, ?_⟩
      rintro _ ⟨⟩
      refine ⟨?_, ?_⟩
      · rintro _ _ ⟨⟩ ⟨⟩
        exact .inr ⟨fun _ => .inr (by decide +kernel), .inl (.inl rfl)⟩
      · rintro _ ⟨⟩
        refine ⟨?_, fun _ _ => trivial⟩
        rintro _ _ ⟨⟩ ⟨⟩
        apply Rest.spares_of_never
        rintro i (hthrows | ⟨-, hthrows⟩)
        · cases hthrows
        · cases hthrows
    · decide +kernel

/-- Two downloads of the same instruments, of which the second one throws in the first
    download. -/
abbrev downloadTwice : List (Context SymbolTable × Event) :=
  [(.throwing, twoInstruments), (.plain, twoInstruments)]

/-- The first instrument is known from the first download on, and is never announced. -/
theorem symbol_is_never_announced :
    (run (step .plain) plain downloadTwice).1.map (fun c => c.shared.allSymbols) =
      some {"BTC-PERPETUAL", "ETH-PERPETUAL"} ∧
    updates (run (step .plain) plain downloadTwice).2 = [["ETH-PERPETUAL"]] := by
  decide +kernel

end Controller

end DeribitGateway
