import DeribitGateway.Controller.Sharing
import DeribitGateway.Json.DropCopyHandlers

/-!
# The currencies of the drop copies

The REST client finds out which currencies there are, and the controller tells all drop copies
of those that are new. Each of them keeps a list of its own, from which it puts together what it
asks for in a session. However the downloads, the sessions and the latch interleave, the lists
never differ: they are what has been announced so far, in this order and each currency once, and
that is what the client has found (`currencies_agree`).
-/

namespace DeribitGateway

open Emission StagedDownload Transducer

/-! ## Drop copies -/

namespace DropCopy

variable {C : Type} {env : Env} {ctx : Context}

/-- The currencies that a call brings. -/
def Event.currencies : Event → List String
  | .currenciesUpdate currencies => currencies
  | _ => []

theorem downloadState_currencies (state : State) (o : DropCopy C) :
    (downloadState env ctx state o).1.currencies = o.currencies := by
  by_cases hdone : state = .done
  · subst hdone
    rfl
  · exact (downloadState_queues env ctx o hdone).currencies

theorem requestCurrencies_currencies (currencies : List String) (o : DropCopy C) :
    (requestCurrencies env ctx currencies o).1.currencies = o.currencies :=
  (requestCurrencies_queued env ctx currencies o).currencies

theorem currenciesUpdate_currencies (currencies : List String) (o : DropCopy C) :
    (currenciesUpdate env ctx currencies o).1.currencies = o.currencies ++ currencies := by
  by_cases hboth : o.ready_ = true ∧ o.canDownload = true
  · rw [currenciesUpdate_asks env ctx currencies hboth]
    exact requestCurrencies_currencies _ _
  · rw [currenciesUpdate_waits env ctx currencies hboth]

theorem latch_currencies (o : DropCopy C) :
    (latch env ctx o).1.currencies = o.currencies ++ [] := by
  rw [List.append_nil]
  unfold latch
  split_ifs
  · rfl
  · rw [seq_modify]
    split_ifs
    · exact requestCurrencies_currencies _ _
    · rfl

/-- **Currencies are never dropped**, and come with one kind of call only. -/
theorem call_currencies [Download State C] {event : Event} {o : DropCopy C}
    {r : DropCopy C × List Output} (h : call env ctx event o = some r) :
    r.1.currencies = o.currencies ++ event.currencies := by
  by_cases hquiet : event.IsQuiet
  · have hnone : event.currencies = [] := by
      cases event with
      | currenciesUpdate currencies => exact hquiet.elim
      | _ => rfl
    rw [hnone, List.append_nil]
    exact (call_quiet hquiet h).currencies
  · cases event with
    | currenciesUpdate currencies =>
      obtain rfl := Option.some.inj h
      exact currenciesUpdate_currencies currencies o
    | latch =>
      obtain rfl := Option.some.inj h
      exact latch_currencies o
    | disconnected =>
      obtain rfl := Option.some.inj h
      exact (List.append_nil _).symm
    | message value =>
      cases value with
      | auth errorCode =>
        -- the log-in is accepted, and the session begins
        have haccepted : errorCode = 0 := not_not.mp hquiet
        simp only [call, parse, auth, haccepted, ne_eq, not_true_eq_false, if_false] at h
        obtain rfl := Option.some.inj h
        refine Eq.trans ?_ (List.append_nil _).symm
        have hkeeps : Composes fun (o : DropCopy C) (_ : List Output) o' =>
            o'.currencies = o.currencies := composes_eq _
        exact hkeeps.each downloadState_currencies _ { o with download := _ }
      | _ => exact absurd trivial hquiet
    | _ => exact absurd trivial hquiet

end DropCopy

/-! ## The REST client -/

namespace Rest

variable {Y R : Type} {env : Env} {ctx : Context}

def Output.currencies? : Output → Option (List String)
  | .currenciesUpdate currencies => some currencies
  | _ => none

/-- The currencies that are found become known, and the controller is told of them. -/
structure Discovers (s : Scope Y R) (os : List Output) (t : Scope Y R) : Prop where
  emplaced : Emplaced s.shared.allCurrencies (os.filterMap Output.currencies?).flatten
    t.shared.allCurrencies
  nonempty : [] ∉ os.filterMap Output.currencies?

theorem composes_discovers :
    Composes (Discovers : Scope Y R → List Output → Scope Y R → Prop) where
  refl _ := ⟨.refl _, List.not_mem_nil⟩
  trans h h' := by
    refine ⟨?_, ?_⟩
    · rw [List.filterMap_append, List.flatten_append]
      exact h.emplaced.trans h'.emplaced
    · rw [List.filterMap_append, List.mem_append, not_or]
      exact ⟨h.nonempty, h'.nonempty⟩

theorem Discovers.still {s t : Scope Y R} {os : List Output}
    (hknown : t.shared.allCurrencies = s.shared.allCurrencies)
    (hos : ∀ x ∈ os, x.currencies? = none) : Discovers s os t := by
  have hnone : os.filterMap Output.currencies? = [] := List.filterMap_eq_nil_iff.mpr hos
  refine ⟨?_, ?_⟩
  · rw [hnone, hknown]
    exact .refl _
  · rw [hnone]
    exact List.not_mem_nil

theorem newCurrencies_emplaced (currencies : List String) (shared : SharedState Y) :
    Emplaced shared.allCurrencies (newCurrencies currencies shared).2
      (newCurrencies currencies shared).1.allCurrencies := by
  induction currencies generalizing shared with
  | nil => exact .refl _
  | cons currency currencies ih =>
    have hrest := ih { shared with allCurrencies := insert currency shared.allCurrencies }
    simp only [newCurrencies]
    split_ifs with hmem
    · rwa [Finset.insert_eq_of_mem hmem] at hrest ⊢
    · have hfirst : Emplaced shared.allCurrencies [currency]
          (insert currency shared.allCurrencies) := by
        refine ⟨List.nodup_singleton _, ?_, ?_⟩
        · intro currency' hmem'
          rwa [List.mem_singleton.mp hmem']
        · intro currency'
          rw [Finset.mem_insert, List.mem_singleton, or_comm]
      exact hfirst.trans hrest

theorem getCurrenciesAck_discovers (result : List String) :
    Meets Discovers (getCurrenciesAck result : Handler Y R) := by
  intro s
  have hnew := newCurrencies_emplaced result s.shared
  simp only [getCurrenciesAck]
  split_ifs with hempty
  · rw [List.isEmpty_iff.mp hempty] at hnew
    exact ⟨hnew, List.not_mem_nil⟩
  · refine ⟨?_, ?_⟩
    · exact (List.flatten_singleton (l := (newCurrencies result s.shared).2)).symm ▸ hnew
    · intro hmem
      exact hempty (List.isEmpty_iff.mpr (List.mem_singleton.mp hmem).symm)

theorem getInstrumentsAck_discovers (env : Env) (ctx : Context) (result : List Json.Instrument) :
    Meets Discovers (getInstrumentsAck env ctx result : Handler Y R) := by
  intro s
  obtain ⟨⟨known, multiplier, hshared⟩, hos⟩ :=
    instruments_shared env ctx s.stream.streamId 0 result s.shared
  refine .still ?_ ?_
  · exact (congrArg SharedState.allCurrencies hshared).trans rfl
  · intro x hx
    rcases List.mem_append.mp hx with hx | hx
    · obtain ⟨value, rfl, -⟩ := hos x hx
      rfl
    · split at hx
      · cases hx
      · cases hx
      · obtain rfl := List.mem_singleton.mp hx
        rfl

theorem tolerates_discovers :
    Tolerates (Discovers : Scope Y R → List Output → Scope Y R → Prop) where
  composes := composes_discovers
  frame s t hshared _ := .still (by rw [hshared]) fun _ hx => absurd hx List.not_mem_nil
  report s x h := by
    refine .still rfl ?_
    intro y hy
    obtain rfl := List.mem_singleton.mp hy
    cases y with
    | currenciesUpdate currencies => exact h.elim
    | _ => rfl
  checkRequestQueue ctx s := by
    refine .still rfl ?_
    intro x hx
    obtain ⟨symbol, -, rfl⟩ := List.mem_map.mp hx
    rfl
  getCurrenciesAck := getCurrenciesAck_discovers
  getInstrumentsAck := getInstrumentsAck_discovers

end Rest

/-! ## The controller -/

namespace Controller

variable {Y R W C D : Type} {env : Env} {ctx : Context Y}

def Output.currencies? : Output → Option (List String)
  | .currenciesUpdate currencies => some currencies
  | _ => none

/-- What the controller is told of new currencies, in order. -/
def announced (os : List Output) : List (List String) := os.filterMap Output.currencies?

theorem announced_append (os os' : List Output) :
    announced (os ++ os') = announced os ++ announced os' :=
  List.filterMap_append

theorem announced_map {α : Type} {tag : α → Output} (h : ∀ x, (tag x).currencies? = none)
    (xs : List α) : announced (xs.map tag) = [] := by
  rw [announced, List.filterMap_map]
  exact List.filterMap_eq_nil_iff.mpr fun x _ => h x

/-- The controller is told `told`, and all drop copies are, too. -/
structure Passes (told : List (List String)) (c : Controller Y R W C D) (os : List Output)
    (c' : Controller Y R W C D) : Prop where
  allCurrencies : c'.shared.allCurrencies = c.shared.allCurrencies
  dropCopy : c'.dropCopy.map DropCopy.currencies =
    c.dropCopy.map fun o => o.currencies ++ told.flatten
  tells : announced os = told

theorem Passes.trans {told told' : List (List String)} {c c' c'' : Controller Y R W C D}
    {os os' : List Output} (h : Passes told c os c') (h' : Passes told' c' os' c'') :
    Passes (told ++ told') c (os ++ os') c'' where
  allCurrencies := h'.allCurrencies.trans h.allCurrencies
  dropCopy := by
    have hmap (o : DropCopy C → List String) (l : List (DropCopy C)) (new : List String) :
        (l.map fun x => o x ++ new) = (l.map o).map (· ++ new) := by
      rw [List.map_map]
      rfl
    rw [h'.dropCopy, hmap, h.dropCopy, List.map_map, List.flatten_append]
    exact List.map_congr_left fun o _ => List.append_assoc _ _ _
  tells := by rw [announced_append, h.tells, h'.tells]

/-- Nothing is told. -/
theorem Passes.still {c c' : Controller Y R W C D} {os : List Output}
    (hknown : c'.shared.allCurrencies = c.shared.allCurrencies) (hdrop : c'.dropCopy = c.dropCopy)
    (hos : announced os = []) : Passes [] c os c' where
  allCurrencies := hknown
  dropCopy := by
    rw [hdrop]
    exact List.map_congr_left fun o _ => (List.append_nil _).symm
  tells := hos

theorem composes_quiet :
    Composes (Passes [] : Controller Y R W C D → List Output → Controller Y R W C D → Prop) :=
  ⟨fun _ => .still rfl rfl rfl, fun h h' => h.trans h'⟩

/-- What is known of the currencies grows by what the drop copies are told. -/
structure Agrees (c : Controller Y R W C D) (os : List Output) (c' : Controller Y R W C D) :
    Prop where
  emplaced : Emplaced c.shared.allCurrencies (announced os).flatten c'.shared.allCurrencies
  dropCopy : c'.dropCopy.map DropCopy.currencies =
    c.dropCopy.map fun o => o.currencies ++ (announced os).flatten
  nonempty : [] ∉ announced os

theorem composes_agrees :
    Composes (Agrees : Controller Y R W C D → List Output → Controller Y R W C D → Prop) where
  refl _ := ⟨.refl _, (composes_quiet.refl _).dropCopy, List.not_mem_nil⟩
  trans {c c' c'' os os'} h h' := by
    have hpasses : Passes (announced os) c os { c' with shared := c.shared } :=
      ⟨rfl, h.dropCopy, rfl⟩
    have hpasses' : Passes (announced os') { c' with shared := c.shared } os'
        { c'' with shared := c.shared } := ⟨rfl, h'.dropCopy, rfl⟩
    refine ⟨?_, ?_, ?_⟩
    · rw [announced_append, List.flatten_append]
      exact h.emplaced.trans h'.emplaced
    · rw [announced_append]
      exact (hpasses.trans hpasses').dropCopy
    · rw [announced_append, List.mem_append, not_or]
      exact ⟨h.nonempty, h'.nonempty⟩

theorem Passes.agrees {c c' : Controller Y R W C D} {os : List Output} (h : Passes [] c os c') :
    Agrees c os c' := by
  refine ⟨?_, ?_, ?_⟩
  · rw [h.tells, h.allCurrencies]
    exact .refl _
  · rw [h.tells]
    exact h.dropCopy
  · rw [h.tells]
    exact List.not_mem_nil

/-! ## What the drop copies are told -/

/-- The first `n` drop copies run a handler that brings them the currencies `new`. -/
theorem each_onDropCopy {f : DropCopy.Context → DropCopy.Handler C} {new : List String}
    (hf : ∀ ctx o, (f ctx o).1.currencies = o.currencies ++ new) (n : ℕ)
    (c : Controller Y R W C D) :
    let r := each (fun k => onDropCopy ctx k f) (List.range n) c
    r.1.shared = c.shared ∧ announced r.2 = [] ∧
      ∀ j : ℕ, (r.1.dropCopy[j]?).map DropCopy.currencies =
        (c.dropCopy[j]?).map fun o => if j < n then o.currencies ++ new else o.currencies := by
  induction n with
  | zero => exact ⟨rfl, rfl, fun _ => rfl⟩
  | succ n ih =>
    obtain ⟨hshared, hos, hbefore⟩ := ih
    simp only [List.range_succ, each_append, seq_fst, seq_snd, announced_append, hos,
      List.nil_append, each, skip_apply, List.append_nil]
    generalize (each (fun k => onDropCopy ctx k f) (List.range n) c).1 = c' at hshared hbefore ⊢
    unfold onDropCopy
    cases hsome : c'.dropCopy[n]? with
    | none =>
      refine ⟨hshared, rfl, ?_⟩
      intro j
      rw [skip_apply, hbefore j]
      have hn := hbefore n
      rw [hsome] at hn
      by_cases hj : j = n
      · subst hj
        rw [Option.map_eq_none_iff.mp hn.symm]
        rfl
      · have hiff : j < n + 1 ↔ j < n := by omega
        simp only [hiff]
    | some o =>
      refine ⟨hshared, announced_map (fun _ => rfl) _, ?_⟩
      intro j
      simp only [putDropCopy, List.getElem?_set]
      by_cases hj : n = j
      · subst hj
        have hn := hbefore n
        have hlt : n < c'.dropCopy.length := (List.getElem?_eq_some_iff.mp hsome).1
        rw [hsome, Option.map_some] at hn
        obtain ⟨o', ho', hcurrencies⟩ := Option.map_eq_some_iff.mp hn.symm
        rw [if_neg (Nat.lt_irrefl n)] at hcurrencies
        rw [if_pos rfl, if_pos hlt, ho', Option.map_some, Option.map_some, hf, hcurrencies,
          if_pos (Nat.lt_succ_self n)]
      · rw [if_neg hj, hbefore j]
        have hiff : j < n + 1 ↔ j < n := by omega
        simp only [hiff]

/-- All drop copies run it. -/
theorem all_onDropCopy {f : DropCopy.Context → DropCopy.Handler C} {new : List String}
    (hf : ∀ ctx o, (f ctx o).1.currencies = o.currencies ++ new) (c : Controller Y R W C D) :
    let r := each (fun k => onDropCopy ctx k f) (List.range c.dropCopy.length) c
    r.1.shared = c.shared ∧ announced r.2 = [] ∧
      r.1.dropCopy.map DropCopy.currencies = c.dropCopy.map fun o => o.currencies ++ new := by
  obtain ⟨hshared, hos, hall⟩ := each_onDropCopy hf c.dropCopy.length c
  refine ⟨hshared, hos, List.ext_getElem? fun j => ?_⟩
  rw [List.getElem?_map, hall j, List.getElem?_map]
  cases hj : c.dropCopy[j]? with
  | none => rfl
  | some o => rw [Option.map_some, if_pos (List.getElem?_eq_some_iff.mp hj).1, Option.map_some]

theorem currenciesUpdate_passes (env : Env) (ctx : Context Y) (currencies : List String) :
    Meets (Passes [currencies]) (currenciesUpdate env ctx currencies : Handler Y R W C D) := by
  intro c
  obtain ⟨hshared, hos, hall⟩ := all_onDropCopy
    (f := fun ctx => DropCopy.currenciesUpdate env.dropCopy ctx currencies)
    (fun ctx o => DropCopy.currenciesUpdate_currencies currencies o) c
  refine ⟨?_, ?_, ?_⟩
  · exact congrArg SharedState.allCurrencies hshared
  · rw [List.flatten_singleton]
    exact hall
  · exact congrArg (currencies :: ·) hos

theorem latch_passes (env : Env) (ctx : Context Y) :
    Meets (Passes []) (latch env ctx : Handler Y R W C D) := by
  intro c
  obtain ⟨hshared, hos, hall⟩ := all_onDropCopy
    (f := fun ctx => DropCopy.latch env.dropCopy ctx)
    (fun ctx o => DropCopy.latch_currencies o) c
  exact ⟨congrArg SharedState.allCurrencies hshared, hall, hos⟩

/-! ## Symbols -/

/-- A stream that leaves what is known of the currencies alone. -/
theorem onMarketData_quiet (k : ℕ) {f : MarketData.Handler D Y} (h : Meets MarketData.Counts f) :
    Meets (Passes []) (onMarketData k f : Handler Y R W C D) := by
  apply onMarketData_meets composes_quiet
  intro c o _
  refine .still ?_ rfl (announced_map (fun _ => rfl) _)
  exact (congrArg SharedState.allCurrencies (h (o, c.shared))).trans rfl

theorem putWebSocket_quiet {c : Controller Y R W C D} {k : ℕ} {o : WebSocket W}
    {s : WebSocket.Scope W Y R} {os : List WebSocket.Output}
    (h : WebSocket.Waits ⟨o, c.shared, c.requests⟩ os s) :
    (c.putWebSocket k s).shared.allCurrencies = c.shared.allCurrencies :=
  (congrArg SharedState.allCurrencies h).trans rfl

variable [Symbols Y]

theorem subscribeMarketData_quiet (env : Env) (ctx : Context Y) (startFrom : ℕ) :
    Meets (Passes []) (subscribeMarketData env ctx startFrom : Handler Y R W C D) := by
  intro c
  refine composes_quiet.each (fun k => onMarketData_quiet k ?_) _ c
  exact (MarketData.allows_counts _).subscribe startFrom

theorem subscribeWebSocket_quiet [LimitRequest R] [Download WebSocket.State W] (env : Env)
    (startFrom : ℕ) :
    Meets (Passes []) (subscribeWebSocket env startFrom : Handler Y R W C D) := by
  intro c
  refine composes_quiet.each (fun k => onWebSocket_meets composes_quiet ?_) _ c
  intro c o _
  have hcall : WebSocket.call env.webSocket .plain (.subscribe startFrom)
      ⟨o, c.shared, c.requests⟩ = some _ := rfl
  exact .still (putWebSocket_quiet (WebSocket.ignores_waits.call hcall)) rfl
    (announced_map (fun _ => rfl) _)

variable [LimitRequest R] [Download WebSocket.State W] [Download MarketData.State D]

theorem symbolsUpdate_quiet (env : Env) (ctx : Context Y)
    (symbols : List String) :
    Meets (Passes []) (symbolsUpdate env ctx symbols : Handler Y R W C D) := by
  intro c
  obtain ⟨grown, hgrows, -, heq⟩ := symbolsUpdate_eq env ctx symbols c
  have hgrown : Passes [] c [] grown := by
    refine .still ?_ hgrows.dropCopy rfl
    rw [hgrows.shared]
  have hemit : Meets (Passes []) (emit [.symbolsUpdate symbols] : Handler Y R W C D) :=
    fun _ => .still rfl rfl rfl
  rw [heq]
  exact composes_quiet.after hgrown (composes_quiet.seq hemit (composes_quiet.seq
    (subscribeMarketData_quiet env ctx _) (subscribeWebSocket_quiet env _)) grown)

/-! ## Calls -/

/-- What the client has put out is dealt with. -/
theorem deliverRest_passes (env : Env) (ctx : Context Y) (os : List Rest.Output) :
    Meets (Passes (os.filterMap Rest.Output.currencies?))
      (each (deliverRest env ctx) os : Handler Y R W C D) := by
  induction os with
  | nil => exact composes_quiet.skip
  | cons x os ih =>
    have hfirst : Meets (Passes x.currencies?.toList)
        (deliverRest env ctx x : Handler Y R W C D) := by
      cases x with
      | currenciesUpdate currencies => exact currenciesUpdate_passes env ctx currencies
      | symbolsUpdate symbols => exact symbolsUpdate_quiet env ctx symbols
      | _ => exact fun _ => .still rfl rfl rfl
    intro c
    rw [List.filterMap_eq_flatMap_toList, List.flatMap_cons, ← List.filterMap_eq_flatMap_toList]
    exact (hfirst c).trans (ih (deliverRest env ctx x c).1)

theorem callRest_agrees {event : Rest.Event} {c : Controller Y R W C D}
    {r : Controller Y R W C D × List Output} (h : callRest env ctx event c = some r) :
    Agrees c r.2 r.1 := by
  obtain ⟨⟨s, os⟩, hcall, rfl⟩ := Option.map_eq_some_iff.mp h
  have hfound := Rest.tolerates_discovers.call hcall
  have hpasses := deliverRest_passes env ctx os (c.putRest s)
  refine ⟨?_, ?_, ?_⟩
  · rw [hpasses.tells, hpasses.allCurrencies]
    exact hfound.emplaced
  · rw [hpasses.tells]
    exact hpasses.dropCopy
  · rw [hpasses.tells]
    exact hfound.nonempty

omit [Symbols Y] [LimitRequest R] [Download WebSocket.State W] [Download MarketData.State D] in
theorem callDropCopy_agrees [Download DropCopy.State C] {k : ℕ} {event : DropCopy.Event}
    (hevent : event.IsOwn) {c : Controller Y R W C D} {r : Controller Y R W C D × List Output}
    (h : callDropCopy env ctx k event c = some r) : Agrees c r.2 r.1 := by
  unfold callDropCopy at h
  split at h
  · obtain rfl := Option.some.inj h
    exact composes_agrees.refl c
  · rename_i o ho
    obtain ⟨⟨o', os⟩, hcall, rfl⟩ := Option.map_eq_some_iff.mp h
    have hnone : event.currencies = [] := by
      cases event with
      | currenciesUpdate currencies => exact hevent.elim
      | _ => rfl
    have hsame : o'.currencies = o.currencies := by
      have hcurrencies := DropCopy.call_currencies hcall
      rwa [hnone, List.append_nil] at hcurrencies
    refine Passes.agrees ⟨rfl, ?_, announced_map (fun _ => rfl) _⟩
    simp only [putDropCopy, map_set_eq ho hsame, List.flatten_nil, List.append_nil]

omit [Download MarketData.State D] in
theorem callWebSocket_agrees {k : ℕ} {event : WebSocket.Event} {c : Controller Y R W C D}
    {r : Controller Y R W C D × List Output} (h : callWebSocket env ctx k event c = some r) :
    Agrees c r.2 r.1 := by
  unfold callWebSocket at h
  split at h
  · obtain rfl := Option.some.inj h
    exact composes_agrees.refl c
  · obtain ⟨⟨s, os⟩, hcall, rfl⟩ := Option.map_eq_some_iff.mp h
    have hput : Passes [] c [] (c.putWebSocket k s) :=
      .still (putWebSocket_quiet (WebSocket.ignores_waits.call hcall)) rfl rfl
    have hdeliver : Meets (Passes [])
        (each (deliverWebSocket env ctx k) os : Handler Y R W C D) := by
      refine composes_quiet.each (fun x => ?_) os
      cases x with
      | latch => exact latch_passes env ctx
      | _ => exact fun _ => .still rfl rfl rfl
    exact (composes_quiet.after hput (hdeliver _)).agrees

theorem securityList_agrees {k : ℕ} {o : MarketData D} {noRelatedSym : List Fix.Instrument}
    {c : Controller Y R W C D} {r : Controller Y R W C D × List Output}
    (h : securityList env ctx k o noRelatedSym c = some r) : Agrees c r.2 r.1 := by
  obtain ⟨⟨shared, reports, symbols⟩, hloop, rfl⟩ := Option.map_eq_some_iff.mp h
  obtain ⟨known, multiplier, hshared⟩ := MarketData.securities_shared hloop
  have hput : Passes [] c [] (c.putMarketData k (o, shared)) :=
    .still ((congrArg SharedState.allCurrencies hshared).trans rfl) rfl rfl
  have hemit : Meets (Passes []) (emit (reports.map (.marketData k)) : Handler Y R W C D) :=
    fun _ => .still rfl rfl (announced_map (fun _ => rfl) _)
  have hcheck : Meets (Passes []) (onMarketData k
      (MarketData.checkSecurities env.marketData (ctx.marketData k)) : Handler Y R W C D) :=
    onMarketData_quiet k ((MarketData.allows_counts _).checkSecurities)
  refine (composes_quiet.after hput (composes_quiet.seq hemit
    (composes_quiet.seq (Meets.ite ?_ ?_) hcheck) _)).agrees
  · exact fun _ => composes_quiet.skip
  · exact fun _ => symbolsUpdate_quiet env ctx symbols

theorem callMarketData_agrees {k : ℕ} {event : MarketData.Event} {c : Controller Y R W C D}
    {r : Controller Y R W C D × List Output} (h : callMarketData env ctx k event c = some r) :
    Agrees c r.2 r.1 := by
  unfold callMarketData at h
  split at h
  · obtain rfl := Option.some.inj h
    exact composes_agrees.refl c
  · split at h
    · exact securityList_agrees h
    · rename_i event' hevent
      obtain ⟨⟨s, os⟩, hcall, rfl⟩ := Option.map_eq_some_iff.mp h
      have hcounts := MarketData.call_counts hevent hcall
      refine Passes.agrees (.still ?_ rfl (announced_map (fun _ => rfl) _))
      exact (congrArg SharedState.allCurrencies hcounts).trans rfl

theorem subscribe_agrees (env : Env) (ctx : Context Y) (symbols : List String) :
    Meets Agrees (subscribe env ctx symbols : Handler Y R W C D) := by
  intro c
  have hknown (symbols : List String) (shared : SharedState Y) :
      (emplaceSymbols symbols shared).1.allCurrencies = shared.allCurrencies := by
    induction symbols generalizing shared with
    | nil => rfl
    | cons symbol symbols ih => exact ih _
  have hput : Passes [] c [] { c with shared := (emplaceSymbols symbols c.shared).1 } :=
    .still (hknown symbols c.shared) rfl rfl
  exact (composes_quiet.after hput (symbolsUpdate_quiet env ctx _ _)).agrees

variable [Download DropCopy.State C]

/-- **Every call.** -/
theorem call_agrees {event : Event} {c : Controller Y R W C D}
    {r : Controller Y R W C D × List Output} (h : call env ctx event c = some r) :
    Agrees c r.2 r.1 := by
  cases event with
  | subscribe symbols =>
    obtain rfl := Option.some.inj h
    exact subscribe_agrees env ctx symbols c
  | rest event => exact callRest_agrees h
  | dropCopy k event => exact callDropCopy_agrees event.2 h
  | webSocket k event => exact callWebSocket_agrees h
  | marketData k event => exact callMarketData_agrees h

/-- **All drop copies know the same currencies**, in every state of every run: those that have
    been announced, in this order and each once, which are those that the client has found. -/
theorem currencies_agree (env : Env) (symbols : Y) (accounts : List (String × String))
    {is : List (Context Y × Event)} {c : Controller Y R W C D} {os : List Output}
    (hrun : run (step env) (initial symbols accounts) is = (some c, os)) :
    c.dropCopy.map DropCopy.currencies =
        List.replicate accounts.length (announced os).flatten ∧
      (announced os).flatten.Nodup ∧ [] ∉ announced os ∧
      ∀ currency, currency ∈ c.shared.allCurrencies ↔ currency ∈ (announced os).flatten := by
  have hall : Guarded (step env) (fun _ _ => True)
      (initial symbols accounts : Controller Y R W C D) is := guarded_of_forall fun _ _ _ => trivial
  have hrun' := run_relates (R := Agrees) composes_agrees.refl composes_agrees.trans ?_ hall
    (congrArg Prod.fst hrun)
  · rw [hrun] at hrun'
    refine ⟨?_, hrun'.emplaced.nodup, hrun'.nonempty, ?_⟩
    · rw [hrun'.dropCopy, List.eq_replicate_iff]
      refine ⟨by simp [initial], ?_⟩
      intro currencies hmem
      obtain ⟨o, ho, rfl⟩ := List.mem_map.mp hmem
      obtain ⟨k, hk, rfl⟩ := List.mem_mapIdx.mp ho
      exact List.nil_append _
    · intro currency
      have hmem := hrun'.emplaced.after_eq currency
      rw [hmem]
      exact or_iff_right (Finset.notMem_empty currency)
  · rintro c ⟨ctx, event⟩ c' - hstep
    obtain hended | ⟨r, hcall, hreturns⟩ := step_cases env c ctx event
    · rw [hended] at hstep
      cases hstep
    · rw [hreturns] at hstep ⊢
      obtain rfl := Option.some.inj hstep
      exact call_agrees hcall

/-- Two downloads of the currencies, in front of and behind the log-in of a drop copy. -/
abbrev currenciesTwice : List (Context SymbolTable × Event) :=
  [(.plain, .rest (.getCurrenciesAck (.success (some ⟨0, ["BTC", "ETH"]⟩)))),
    (.plain, .dropCopy 1 ⟨.message (.auth 0), trivial⟩),
    (.plain, .rest (.getCurrenciesAck (.success (some ⟨0, ["ETH", "SOL", "SOL"]⟩))))]

/-- A gateway of two accounts. -/
abbrev plainTwo : Controller SymbolTable RequestProgress (Counter WebSocket.State)
    (Counter DropCopy.State) (Counter MarketData.State) :=
  initial ⟨0, []⟩ [("a", "key"), ("b", "key")]

theorem two_drop_copies_agree :
    ∃ c os, run (step .plain) plainTwo currenciesTwice = (some c, os) ∧
      announced os = [["BTC", "ETH"], ["SOL"]] ∧
      c.dropCopy.map DropCopy.currencies = [["BTC", "ETH", "SOL"], ["BTC", "ETH", "SOL"]] := by
  obtain ⟨c, hc⟩ : ∃ c, (run (step .plain) plainTwo currenciesTwice).1 = some c := ⟨_, rfl⟩
  have hrun : run (step .plain) plainTwo currenciesTwice =
      (some c, (run (step .plain) plainTwo currenciesTwice).2) := Prod.ext hc rfl
  have htold : announced (run (step .plain) plainTwo currenciesTwice).2 =
      [["BTC", "ETH"], ["SOL"]] := by decide +kernel
  have hagree := (currencies_agree .plain _ _ hrun).1
  rw [htold] at hagree
  exact ⟨c, _, hrun, htold, hagree⟩

end Controller

end DeribitGateway
