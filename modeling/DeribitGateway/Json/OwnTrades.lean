import DeribitGateway.Json.DropCopy
import Mathlib.Data.List.Nodup

/-!
# Own trades

An own trade reaches the drop copy stream on three ways: live on `user.changes`, live on
`user.trades`, and in the response to a download. The handlers label the first as live, the
second as downloaded, and do nothing with the third. `labels_of_run` says so for a whole run,
and `own_trades_are_labelled_iff` when that is right.
-/

namespace DeribitGateway

open Transducer Emission StagedDownload

namespace DropCopy

variable {C : Type} {env : Env} {ctx : Context}

/-- The trades a report is about, and how it labels them. -/
def Output.label : Output → Option (List String × UpdateType)
  | .tradeUpdate value _ => some (value.fills.map Fill.externalTradeId, value.updateType)
  | _ => none

/-- No trade is reported. -/
abbrev Unlabelled (_ : DropCopy C) (os : List Output) (_ : DropCopy C) : Prop :=
  ∀ x ∈ os, x.label = none

theorem composes_unlabelled :
    Composes (Unlabelled : DropCopy C → List Output → DropCopy C → Prop) :=
  composes_forall fun x : Output => x.label = none

theorem unlabelled_single {x : Output} (hx : x.label = none) (o o' : DropCopy C) :
    Unlabelled o [x] o' := by
  intro y hy
  obtain rfl := List.mem_singleton.mp hy
  exact hx

theorem enqueue_unlabelled (request : Json.Request) :
    Meets Unlabelled (enqueue request : Handler C) :=
  fun _ => unlabelled_single rfl _ _

theorem publish_unlabelled (connectionStatus : ConnectionStatus) (reason : String) :
    Meets Unlabelled (publish connectionStatus reason : Handler C) :=
  fun _ => unlabelled_single rfl _ _

theorem modify_unlabelled (f : DropCopy C → DropCopy C) :
    Meets Unlabelled (modify f : Handler C) := by
  intro o
  exact composes_unlabelled.refl o

theorem requestCurrencies_unlabelled (currencies : List String) :
    Meets Unlabelled (requestCurrencies env ctx currencies : Handler C) := by
  apply composes_unlabelled.seq (enqueue_unlabelled _)
  apply composes_unlabelled.seq
  · exact composes_unlabelled.each (fun _ => enqueue_unlabelled _) currencies
  · intro o
    exact composes_unlabelled.each (fun _ => enqueue_unlabelled _) currencies o

theorem latched_unlabelled (state : State) {f : Handler C} (hf : Meets Unlabelled f) :
    Meets Unlabelled (latched state f) := by
  intro o
  unfold latched
  split_ifs
  · exact composes_unlabelled.seq (publish_unlabelled _ _) hf o
  · exact composes_unlabelled.refl o

theorem downloadState_unlabelled (state : State) :
    Meets Unlabelled (downloadState env ctx state : Handler C) := by
  cases state with
  | undefined => exact composes_unlabelled.skip
  | subscribeUserPortfolio => exact latched_unlabelled _ fun o => enqueue_unlabelled _ o
  | getAccountSummary =>
    apply latched_unlabelled
    intro o
    exact composes_unlabelled.each (fun _ => enqueue_unlabelled _) o.currencies o
  | getUserTradesByCurrency =>
    apply latched_unlabelled
    intro o
    exact composes_unlabelled.each (fun _ => enqueue_unlabelled _) o.currencies o
  | done => exact composes_unlabelled.seq (publish_unlabelled _ _) (modify_unlabelled _)
  | _ => exact composes_unlabelled.seq (publish_unlabelled _ _) (enqueue_unlabelled _)

theorem unlabelled_filterMap {os : List Output} (h : ∀ x ∈ os, x.label = none) :
    os.filterMap Output.label = [] :=
  List.filterMap_eq_nil_iff.mpr h

/-! ## What a message reports -/

/-- The live trades of a message on `user.changes`. -/
def changed : Event → List Json.Trade
  | .message (.userChanges items) => items
  | _ => []

/-- The live trades of a message on `user.trades`. -/
def traded : Event → List Json.Trade
  | .message (.userTrades data) => data
  | _ => []

/-- The trades of the response to a download. -/
def downloaded : Event → List Json.Trade
  | .message (.getUserTradesByCurrencyAck items) => items
  | _ => []

/-- A trade by itself, labelled. -/
def labelled (updateType : UpdateType) (item : Json.Trade) : List String × UpdateType :=
  ([externalTradeId item], updateType)

theorem trades_labels (isDownload : Bool) (items : List Json.Trade) (o : DropCopy C) :
    (trades env ctx isDownload items o).2.filterMap Output.label =
      items.map (labelled (if isDownload then .snapshot else .incremental)) := by
  induction items with
  | nil => rfl
  | cons item items ih => exact congrArg (_ :: ·) ih

variable [Download State C]

theorem parse_unlabelled {value : Json.Message} {o : DropCopy C} {r : DropCopy C × List Output}
    (hchanges : ∀ items, value ≠ .userChanges items) (htrades : ∀ data, value ≠ .userTrades data)
    (h : parse env ctx value o = some r) : Unlabelled o r.2 r.1 := by
  cases value with
  | userChanges items => exact absurd rfl (hchanges items)
  | userTrades data => exact absurd rfl (htrades data)
  | auth errorCode =>
    simp only [parse, auth] at h
    split_ifs at h
    · obtain rfl := Option.some.inj h
      exact unlabelled_single rfl o o
    · obtain rfl := Option.some.inj h
      exact composes_unlabelled.each downloadState_unlabelled _ _
  | subscribeAck errorCode =>
    obtain rfl := Option.some.inj h
    exact composes_unlabelled.refl o
  | platformState value =>
    obtain rfl := Option.some.inj h
    exact unlabelled_single rfl o o
  | userPortfolio value =>
    obtain rfl := Option.some.inj h
    exact unlabelled_single rfl o o
  | userOrders =>
    obtain rfl := Option.some.inj h
    exact composes_unlabelled.refl o
  | getAccountSummaryAck =>
    obtain rfl := Option.some.inj h
    exact composes_unlabelled.refl o
  | getUserTradesByCurrencyAck items =>
    obtain rfl := Option.some.inj h
    exact composes_unlabelled.refl o
  | _ => cases h

theorem call_unlabelled {event : Event} {o : DropCopy C} {r : DropCopy C × List Output}
    (hmessage : ∀ value, event ≠ .message value) (h : call env ctx event o = some r) :
    Unlabelled o r.2 r.1 := by
  cases event with
  | message value => exact absurd rfl (hmessage value)
  | currenciesUpdate currencies =>
    obtain rfl := Option.some.inj h
    refine composes_unlabelled.seq (modify_unlabelled _) ?_ o
    intro o
    simp only
    split_ifs
    · exact requestCurrencies_unlabelled currencies o
    · exact composes_unlabelled.refl o
  | latch =>
    obtain rfl := Option.some.inj h
    unfold latch
    split_ifs
    · exact composes_unlabelled.refl o
    · refine composes_unlabelled.seq (modify_unlabelled _) ?_ o
      intro o
      simp only
      split_ifs
      · exact requestCurrencies_unlabelled o.currencies o
      · exact composes_unlabelled.refl o
  | timer =>
    obtain rfl := Option.some.inj h
    unfold timer
    split_ifs
    · intro x hx
      obtain ⟨request, -, rfl⟩ := List.mem_map.mp hx
      rfl
    · exact composes_unlabelled.refl o
  | disconnected =>
    obtain rfl := Option.some.inj h
    apply composes_unlabelled.seq (modify_unlabelled _)
    exact composes_unlabelled.seq (publish_unlabelled _ _) (modify_unlabelled _)
  | ready =>
    obtain rfl := Option.some.inj h
    exact composes_unlabelled.seq (fun _ => unlabelled_single rfl _ _)
      (publish_unlabelled _ _) o
  | latency sample =>
    obtain rfl := Option.some.inj h
    exact unlabelled_single rfl o o
  | binary => cases h
  | _ =>
    obtain rfl := Option.some.inj h
    exact composes_unlabelled.refl o

/-- The reports of one call. -/
def labels (i : Context × Event) : List (List String × UpdateType) :=
  (changed i.2).map (labelled .incremental) ++ (traded i.2).map (labelled .snapshot)

theorem call_labels {event : Event} {o : DropCopy C} {r : DropCopy C × List Output}
    (h : call env ctx event o = some r) : r.2.filterMap Output.label = labels (ctx, event) := by
  by_cases hmessage : ∀ value, event ≠ .message value
  · rw [unlabelled_filterMap (call_unlabelled hmessage h)]
    cases event with
    | message value => exact absurd rfl (hmessage value)
    | _ => rfl
  · simp only [not_forall, not_not] at hmessage
    obtain ⟨value, rfl⟩ := hmessage
    by_cases hchanges : ∀ items, value ≠ .userChanges items
    · by_cases htrades : ∀ data, value ≠ .userTrades data
      · rw [unlabelled_filterMap (parse_unlabelled hchanges htrades h)]
        cases value with
        | userChanges items => exact absurd rfl (hchanges items)
        | userTrades data => exact absurd rfl (htrades data)
        | _ => rfl
      · simp only [not_forall, not_not] at htrades
        obtain ⟨data, rfl⟩ := htrades
        obtain rfl := Option.some.inj h
        simp only [userTrades, seq_snd, modify_apply, List.append_nil, trades_labels, labels,
          changed, traded, List.map_nil, List.nil_append, if_true]
    · simp only [not_forall, not_not] at hchanges
      obtain ⟨items, rfl⟩ := hchanges
      obtain rfl := Option.some.inj h
      simp only [trades_labels, labels, changed, traded, List.map_nil, List.append_nil,
        Bool.false_eq_true, if_false]

/-- **The reports of a run.** -/
theorem labels_of_run {o o' : DropCopy C} {is : List (Context × Event)}
    (h : (run (step env) o is).1 = some o') :
    (run (step env) o is).2.filterMap Output.label = is.flatMap labels := by
  apply run_filterMap _ h
  rintro o ⟨ctx, event⟩ o' hnext
  obtain hended | ⟨r, hcall, hstep⟩ := step_cases env o ctx event
  · rw [hended] at hnext
    cases hnext
  · rw [hstep]
    exact call_labels hcall

/-- The live trades of a message, on either channel. -/
def live (event : Event) : List Json.Trade := changed event ++ traded event

/-- Without trades on `user.trades` the reports are those of `user.changes`. -/
theorem labels_of_changes {is : List (Context × Event)} (h : ∀ i ∈ is, traded i.2 = []) :
    is.flatMap labels = (is.flatMap fun i => changed i.2).map (labelled .incremental) := by
  induction is with
  | nil => rfl
  | cons i is ih =>
    rw [List.flatMap_cons, List.flatMap_cons, List.map_append,
      ih fun j hj => h j (List.mem_cons_of_mem i hj)]
    simp only [labels, h i List.mem_cons_self, List.map_nil, List.append_nil]

/-- Trades with different ids are labelled differently. -/
theorem labelled_nodup {items : List Json.Trade} (h : (items.map externalTradeId).Nodup)
    (updateType : UpdateType) : (items.map (labelled updateType)).Nodup := by
  have hinjective : Function.Injective fun id : String => ([id], updateType) := by
    intro id id' heq
    exact List.singleton_injective (congrArg Prod.fst heq)
  have hmap := List.Nodup.map hinjective h
  rwa [List.map_map] at hmap

/-- **Each live trade is reported once, as live, and each downloaded trade as downloaded, if
    no trade is reported on `user.trades` and none is downloaded, and only then**, in every run
    in which `user.changes` reports no trade twice. -/
theorem own_trades_are_labelled_iff (env : Env) {o o' : DropCopy C} {is : List (Context × Event)}
    (hrun : (run (step env) o is).1 = some o')
    (honce : ((is.flatMap fun i => changed i.2).map externalTradeId).Nodup) :
    let published := (run (step env) o is).2.filterMap Output.label
    ((∀ item ∈ is.flatMap fun i => live i.2,
        published.count (labelled .incremental item) = 1 ∧ labelled .snapshot item ∉ published) ∧
      ∀ item ∈ is.flatMap fun i => downloaded i.2, labelled .snapshot item ∈ published) ↔
    ∀ i ∈ is, traded i.2 = [] ∧ downloaded i.2 = [] := by
  simp only [labels_of_run hrun]
  constructor
  · rintro ⟨hlive, hdownloaded⟩
    have htraded : ∀ i ∈ is, traded i.2 = [] := by
      intro i hi
      apply List.eq_nil_iff_forall_not_mem.mpr
      intro item hitem
      have hmem : item ∈ is.flatMap fun i => live i.2 :=
        List.mem_flatMap.mpr ⟨i, hi, List.mem_append_right _ hitem⟩
      apply (hlive item hmem).2
      exact List.mem_flatMap.mpr ⟨i, hi, List.mem_append_right _ (List.mem_map_of_mem hitem)⟩
    intro i hi
    refine ⟨htraded i hi, ?_⟩
    apply List.eq_nil_iff_forall_not_mem.mpr
    intro item hitem
    have hsnapshot := hdownloaded item (List.mem_flatMap.mpr ⟨i, hi, hitem⟩)
    rw [labels_of_changes htraded] at hsnapshot
    -- what is left is labelled as live
    obtain ⟨item', -, heq⟩ := List.mem_map.mp hsnapshot
    cases congrArg Prod.snd heq
  · intro hnone
    have htraded : ∀ i ∈ is, traded i.2 = [] := fun i hi => (hnone i hi).1
    rw [labels_of_changes htraded]
    constructor
    · intro item hitem
      obtain ⟨i, hi, hlive⟩ := List.mem_flatMap.mp hitem
      rw [live, htraded i hi, List.append_nil] at hlive
      constructor
      · apply List.count_eq_one_of_mem (labelled_nodup honce _)
        exact List.mem_map_of_mem (List.mem_flatMap.mpr ⟨i, hi, hlive⟩)
      · intro hsnapshot
        obtain ⟨item', -, heq⟩ := List.mem_map.mp hsnapshot
        cases congrArg Prod.snd heq
    · intro item hitem
      obtain ⟨i, hi, hdownloaded⟩ := List.mem_flatMap.mp hitem
      rw [(hnone i hi).2] at hdownloaded
      cases hdownloaded

/-- A live trade. -/
def plainTrade : Json.Trade :=
  { instrumentName := "BTC-PERPETUAL", tradeSeq := 1, direction := .buy, amount := some 10
    price := some 100, fee := some 0, feeCurrency := "BTC", liquidity := .maker
    orderId := "o1", label := "", timestamp := 1 }

/-- A message with a live trade on `user.changes`. -/
abbrev plainChanges : List (Context × Event) :=
  [(Context.plain, .message (.userChanges [plainTrade]))]

/-- A trade that is only reported on `user.changes`. -/
theorem changed_trade_is_labelled :
    ((run (step .plain) plain plainChanges).2.filterMap Output.label).count
      (labelled .incremental plainTrade) = 1 := by
  have hrun : (run (step .plain) plain plainChanges).1 = some plain := rfl
  have hlabels := own_trades_are_labelled_iff .plain hrun (List.nodup_singleton _)
  have hnone : ∀ i ∈ plainChanges, traded i.2 = [] ∧ downloaded i.2 = [] := by
    intro i hi
    obtain rfl := List.mem_singleton.mp hi
    exact ⟨rfl, rfl⟩
  exact ((hlabels.mpr hnone).1 plainTrade (List.mem_singleton.mpr rfl)).1

/-- A live trade on both channels is reported twice, once as downloaded, and a trade that is
    downloaded is not reported. -/
theorem live_trade_is_reported_twice :
    (run (step .plain) plain [(Context.plain, .message (.userChanges [plainTrade])),
        (Context.plain, .message (.userTrades [plainTrade])),
        (Context.plain, .message (.getUserTradesByCurrencyAck [{ plainTrade with tradeSeq := 0 }]))]
      ).2.filterMap Output.label =
      [(["BTC-PERPETUAL#1"], .incremental), (["BTC-PERPETUAL#1"], .snapshot)] := by
  decide +kernel

end DropCopy

end DeribitGateway
