import DeribitGateway.Fix.Handlers
import DeribitGateway.Fix.MarketData
import DeribitGateway.Lib.Decimal

/-!
# Request ids

`Shared::next_request_id` is one counter for all FIX streams. Whatever a stream is called for, it
draws the ids of its requests from there one after the other, and sends a request under each
(`OrderEntry.step_drawn`, `MarketData.Draws`). Which ids an order entry stream draws has no say in
anything else that it does (`OrderEntry.step_blind`). A market data stream besides leaves the
queue of histories alone, and reports under the id of its own stream.

`Allows` is what most handlers have in common here, for any relation between the state before a
handler, its outputs and the state after: they send requests, and report.
-/

namespace DeribitGateway

open Emission StagedDownload

/-- The ids are those behind `a`, one after the other, and `b` is the last one. -/
def Drawn : UInt32 → List String → UInt32 → Prop
  | a, [], b => b = a
  | a, id :: ids, b => id = "roq-" ++ toString (a + 1).toNat ∧ Drawn (a + 1) ids b

theorem composes_drawn : Composes Drawn where
  refl _ := rfl
  trans {a b c ids ids'} h h' := by
    induction ids generalizing a with
    | nil => exact h ▸ h'
    | cons id ids ih => exact ⟨h.1, ih h.2⟩

/-- From zero on, as long as the counter does not wrap. -/
theorem Drawn.eq_map {ids : List String} {b : UInt32} (h : Drawn 0 ids b)
    (hlength : ids.length < 2 ^ 32) :
    ids = (List.range ids.length).map fun i => "roq-" ++ toString (i + 1) := by
  have hfrom : ∀ (n : ℕ) (ids : List String), n + ids.length < 2 ^ 32 →
      Drawn (.ofNat n) ids b →
        ids = (List.range ids.length).map fun i => "roq-" ++ toString (n + i + 1) := by
    intro n ids
    induction ids generalizing n with
    | nil => simp
    | cons id ids ih =>
      rintro hn ⟨rfl, h⟩
      rw [List.length_cons] at hn
      have hnext : UInt32.ofNat n + 1 = .ofNat (n + 1) := by simp
      have hvalue : (UInt32.ofNat (n + 1)).toNat = n + 1 :=
        UInt32.toNat_ofNat_of_lt (show n + 1 < 2 ^ 32 by omega)
      rw [hnext] at h ⊢
      rw [hvalue, List.length_cons, List.range_succ_eq_map, List.map_cons, List.map_map]
      congr 1
      refine (ih (n + 1) (by omega) h).trans (List.map_congr_left fun i _ => ?_)
      simp only [Function.comp_apply, Nat.succ_eq_add_one]
      rw [Nat.add_right_comm n 1 i, Nat.add_assoc n i 1]
  have hzero := hfrom 0 ids (by omega) h
  simpa only [Nat.zero_add] using hzero

/-- No two of them are the same. -/
theorem Drawn.nodup {ids : List String} {b : UInt32} (h : Drawn 0 ids b)
    (hlength : ids.length < 2 ^ 32) : ids.Nodup := by
  rw [h.eq_map hlength]
  refine List.Nodup.map ?_ List.nodup_range
  intro i j hij
  have hname := congrArg String.toList hij
  simp only [String.toList_append, List.append_cancel_left_eq] at hname
  exact Nat.succ_injective (Decimal.toDigits_injective (by simpa [Nat.repr] using hname))

/-- The last of the ids. -/
theorem Drawn.last {a b : UInt32} {ids : List String} (h : Drawn a ids b) :
    b = a + .ofNat ids.length := by
  induction ids generalizing a with
  | nil => simpa [Drawn] using h
  | cons id ids ih =>
    rw [ih h.2, List.length_cons, UInt32.add_assoc]
    congr 1
    rw [Nat.add_comm, UInt32.ofNat_add]
    rfl

/-! ## The order entry stream -/

namespace OrderEntry

variable {D : Type} {env : Env} {ctx : Context} {o : OrderEntry D}

/-- The id of a request. -/
def Output.requestId? : Output → Option String
  | .sent _ (.requestForPositions posReqId) _ => some posReqId
  | .sent _ (.orderMassStatusRequest massStatusReqId) _ => some massStatusReqId
  | _ => none

/-- The output, but for the id of a request. -/
def Output.withoutId : Output → Output
  | .sent msgSeqNum (.requestForPositions _) queued =>
    .sent msgSeqNum (.requestForPositions "") queued
  | .sent msgSeqNum (.orderMassStatusRequest _) queued =>
    .sent msgSeqNum (.orderMassStatusRequest "") queued
  | value => value

/-- Each request is sent under the next id. -/
theorem enter_drawn (ctx : Context) (states : List State) (o : OrderEntry D) :
    ∃ b, Drawn ctx.requestId ((enter env ctx states o).2.filterMap Output.requestId?) b := by
  induction states generalizing ctx o with
  | nil => exact ⟨_, rfl⟩
  | cons s states ih =>
    have hstate : Drawn ctx.requestId ((downloadState env ctx o s).2.filterMap Output.requestId?)
        (ctx.requestId + requestsOf s) := by
      cases s with
      | undefined => exact UInt32.add_zero _
      | positions => exact ⟨rfl, rfl⟩
      | orders => exact ⟨rfl, rfl⟩
      | done => exact UInt32.add_zero _
    obtain ⟨b, hb⟩ := ih { ctx with requestId := ctx.requestId + requestsOf s }
      (downloadState env ctx o s).1
    refine ⟨b, ?_⟩
    rw [enter, Effect.andThen_snd, List.filterMap_append]
    exact composes_drawn.trans hstate hb

/-- Which ids have been drawn has no say in what else the stream does. -/
theorem enter_blind (ctx : Context) (requestId : UInt32) (states : List State)
    (o : OrderEntry D) :
    (enter env { ctx with requestId } states o).1 = (enter env ctx states o).1 ∧
      (enter env { ctx with requestId } states o).2.map Output.withoutId =
        (enter env ctx states o).2.map Output.withoutId := by
  induction states generalizing ctx requestId o with
  | nil => exact ⟨rfl, rfl⟩
  | cons s states ih =>
    have hstate : (downloadState env { ctx with requestId } o s).1 = (downloadState env ctx o s).1 ∧
        (downloadState env { ctx with requestId } o s).2.map Output.withoutId =
          (downloadState env ctx o s).2.map Output.withoutId := by
      cases s <;> exact ⟨rfl, rfl⟩
    obtain ⟨h1, h2⟩ := ih { ctx with requestId := ctx.requestId + requestsOf s }
      (requestId + requestsOf s) (downloadState env ctx o s).1
    simp only [enter, Effect.andThen_fst, Effect.andThen_snd, List.map_append]
    rw [hstate.1, hstate.2]
    exact ⟨h1, congrArg _ h2⟩

variable [Download2 D]

/-- **Which ids have been drawn has no say in what a stream does**, but for the ids it sends. -/
theorem step_blind (env : Env) (ctx : Context) (o : OrderEntry D) (requestId : UInt32)
    (event : Event) :
    (step env o ({ ctx with requestId }, event)).1 = (step env o (ctx, event)).1 ∧
      (step env o ({ ctx with requestId }, event)).2.map Output.withoutId =
        (step env o (ctx, event)).2.map Output.withoutId := by
  cases event with
  | message header value =>
    cases value with
    | logon =>
      obtain ⟨hstate, hout⟩ := enter_blind ctx requestId _ _
      exact ⟨congrArg some hstate, hout⟩
    | positionReport noPositions =>
      obtain ⟨hstate, hout⟩ := enter_blind ctx requestId _ _
      refine ⟨congrArg some hstate, ?_⟩
      simp only [step, parseHelper, goesOn, positionReport, Effect.andThen_snd, List.map_append]
      exact congrArg _ hout
    | executionReport r =>
      simp only [step, parseHelper, executionReport]
      split
      · split
        · exact ⟨rfl, rfl⟩
        · obtain ⟨hstate, hout⟩ := enter_blind ctx requestId _ _
          refine ⟨congrArg some hstate, ?_⟩
          simp only [orFatal, goesOn, Effect.andThen_snd, List.map_append]
          exact congrArg _ hout
      · obtain ⟨hstate, hout⟩ := enter_blind ctx requestId _ _
        exact ⟨congrArg some hstate, hout⟩
      · exact ⟨rfl, rfl⟩
    | _ => exact ⟨rfl, rfl⟩
  | _ => exact ⟨rfl, rfl⟩

/-- An action sends no request. -/
theorem action_requests {event : Event} (h : event.IsAction) :
    (step env o (ctx, event)).2.filterMap Output.requestId? = [] := by
  cases event with
  | createOrder value refData requestId =>
    simp only [step, createOrder]
    split_ifs
    · rfl
    · rfl
    · rfl
    · cases mapExecutionInstructions value.executionInstructions <;> rfl
  | modifyOrder value order refData requestId =>
    simp only [step, modifyOrder]
    split_ifs <;> rfl
  | cancelOrder order requestId =>
    simp only [step, cancelOrder]
    split_ifs <;> rfl
  | cancelAllOrders value requestId =>
    simp only [step, cancelAllOrders]
    split_ifs
    · rfl
    · cases massCancelRequestType ((env.createFilter value).filter (· ≠ .account)) <;> rfl
  | _ => exact h.elim

omit [Download2 D] in
theorem timer_requests (now : ℤ) : (timer env ctx now o).2.filterMap Output.requestId? = [] := by
  unfold timer sendLogon sendTestRequest
  split_ifs <;> rfl

omit [Download2 D] in
theorem heartbeat_requests {testReqId : String} {e : Effect D}
    (h : heartbeat env ctx testReqId o = some e) : e.2.filterMap Output.requestId? = [] := by
  unfold heartbeat at h
  simp only at h
  split_ifs at h
  · obtain rfl := Option.some.inj h
    rfl
  · obtain ⟨_, _, rfl⟩ := Option.map_eq_some_iff.mp h
    rfl

omit [Download2 D] in
theorem positionUpdates_requests (noPositions : List Fix.PositionQty) :
    (positionUpdates env noPositions).filterMap Output.requestId? = [] := by
  induction noPositions with
  | nil => rfl
  | cons position positions ih => exact ih

theorem executionOutputs_requests (header : Fix.Header) (r : Fix.ExecutionReport) :
    (executionOutputs env ctx header r o).filterMap Output.requestId? = [] := by
  unfold executionOutputs
  split_ifs <;> rfl

/-- **The requests of a step** are sent under the next ids. -/
theorem step_drawn (env : Env) (ctx : Context) (o : OrderEntry D) (event : Event) :
    ∃ b, Drawn ctx.requestId ((step env o (ctx, event)).2.filterMap Output.requestId?) b := by
  have hnone : ∀ {os : List Output}, os.filterMap Output.requestId? = [] →
      ∃ b, Drawn ctx.requestId (os.filterMap Output.requestId?) b :=
    fun h => ⟨ctx.requestId, by rw [h]; rfl⟩
  -- what is put out in front of the next states has no ids
  have hadvance : ∀ (front : List Output) (r : D × List State) (o : OrderEntry D),
      front.filterMap Output.requestId? = [] → ∃ b, Drawn ctx.requestId
        ((front ++ (advance env ctx r o).2).filterMap Output.requestId?) b := by
    intro front r o h
    rw [List.filterMap_append, h]
    exact enter_drawn ctx r.2 _
  by_cases haction : event.IsAction
  · exact hnone (action_requests haction)
  · cases event with
    | timer now => exact hnone (timer_requests now)
    | connected => exact hnone rfl
    | disconnected => exact hnone rfl
    | message header value =>
      simp only [step]
      cases value with
      | logon => exact hadvance [] _ _ rfl
      | positionReport noPositions => exact hadvance _ _ _ (positionUpdates_requests noPositions)
      | executionReport r =>
        simp only [parseHelper, executionReport]
        split
        · split_ifs
          · exact hnone rfl
          · exact hadvance _ _ _ (executionOutputs_requests header r)
        · exact hadvance [] _ _ rfl
        · exact hnone rfl
      | heartbeat testReqId =>
        simp only [parseHelper]
        cases he : heartbeat env ctx testReqId (check header o) with
        | none =>
          apply hnone
          split_ifs <;> rfl
        | some e => exact hnone (heartbeat_requests he)
      | reject r =>
        apply hnone
        simp only [parseHelper, reject]
        split_ifs
        · split <;> rfl
        · rfl
        · rfl
        · rfl
      | _ => exact hnone rfl
    | _ => exact absurd trivial haction

end OrderEntry
/-! ## The market data stream -/

namespace MarketData

variable {D Y : Type} {env : Env} {ctx : Context Y}

/-- The id of a request. -/
def Output.requestId? : Output → Option String
  | .sent _ (.securityListRequest securityReqId) _ => some securityReqId
  | .sent _ (.marketDataRequest value) _ => some value.mdReqId
  | _ => none

/-- The stream that a report comes from. -/
def Output.streamId? : Output → Option UInt16
  | .streamStatus value => some value.streamId
  | .externalLatency value => some value.streamId
  | .referenceData value => some value.streamId
  | .marketByPriceUpdate value _ _ => some value.streamId
  | .tradeSummary value _ => some value.streamId
  | .statisticsUpdate value => some value.streamId
  | _ => none

/-- What only a refresh brings. -/
def Output.IsUpdate : Output → Bool
  | .marketByPriceUpdate .. => true
  | .tradeSummary .. => true
  | .statisticsUpdate _ => true
  | _ => false

/-- No instrument, no update, no request, and neither the start of a session nor its end. -/
def Output.IsPlain : Output → Prop
  | .referenceData _ => False
  | .marketByPriceUpdate .. => False
  | .tradeSummary .. => False
  | .statisticsUpdate _ => False
  | .sent _ (.logon _) _ => False
  | .sent _ (.securityListRequest _) _ => False
  | .sent _ (.marketDataRequest _) _ => False
  | .streamStatus value => value.connectionStatus ≠ .disconnected
  | _ => True

theorem Output.IsPlain.not_update {x : Output} (h : x.IsPlain) : x.IsUpdate = false := by
  cases x with
  | marketByPriceUpdate _ _ _ | tradeSummary _ _ | statisticsUpdate _ => exact h.elim
  | _ => rfl

theorem Output.IsPlain.requestId? {x : Output} (h : x.IsPlain) : x.requestId? = none := by
  cases x with
  | sent msgSeqNum message queued =>
    cases message with
    | securityListRequest _ | marketDataRequest _ => exact h.elim
    | _ => rfl
  | _ => rfl

/-! ## What calls have in common -/

/-- A request, as it is sent. -/
def IsRequest (request : String → Fix.MDOutbound) : Prop :=
  ∀ msgSeqNum id queued, (Output.sent msgSeqNum (request id) queued).requestId? = some id

/-- The relation allows for requests, for reports of the stream, and for what touches neither
    the id of the stream nor what is shared. -/
structure Allows (ctx : Context Y)
    (Q : MarketData D × SharedState Y → List Output → MarketData D × SharedState Y → Prop) :
    Prop where
  composes : Composes Q
  frame : ∀ s t, t.1.streamId = s.1.streamId → t.2 = s.2 → Q s [] t
  report : ∀ s x, x.IsPlain → (∀ id ∈ x.streamId?, id = s.1.streamId) → Q s [x] s
  request : ∀ request, IsRequest request → Meets Q (sendRequest ctx request)

namespace Allows

variable {Q : MarketData D × SharedState Y → List Output → MarketData D × SharedState Y → Prop}

theorem set (hQ : Allows ctx Q) (f : MarketData D → MarketData D)
    (h : ∀ o, (f o).streamId = o.streamId) : Meets Q (set f : Handler D Y) :=
  fun s => hQ.frame s _ (h s.1) rfl

theorem send (hQ : Allows ctx Q) {message : Fix.MDOutbound}
    (h : ∀ msgSeqNum queued, (Output.sent msgSeqNum message queued).IsPlain) :
    Meets Q (send ctx message : Handler D Y) := by
  intro s
  refine hQ.composes.trans (hQ.report s _ (h _ _) nofun) ?_
  exact hQ.frame s _ rfl rfl

theorem publish (hQ : Allows ctx Q) {connectionStatus : ConnectionStatus}
    (h : connectionStatus ≠ .disconnected) (reason : String) :
    Meets Q (publish connectionStatus reason : Handler D Y) := by
  intro s
  refine hQ.composes.trans (hQ.report s _ ?_ ?_) (hQ.frame s _ rfl rfl)
  · exact h
  · rintro id ⟨⟩
    rfl

theorem sendTestRequest (hQ : Allows ctx Q) : Meets Q (sendTestRequest env ctx : Handler D Y) := by
  refine hQ.composes.seq (hQ.send ?_) (hQ.set _ ?_)
  · exact fun _ _ => trivial
  · intro o
    split_ifs
    · rfl
    · rfl

/-! ## Subscriptions -/

theorem sendMarketDataRequests (hQ : Allows ctx Q)
    {request : List String → String → Fix.MarketDataRequest}
    (h : ∀ noRelatedSym id, (request noRelatedSym id).mdReqId = id) (symbols : List String) :
    Meets Q (sendMarketDataRequests env ctx request symbols : Handler D Y) := by
  have hbatch (maxSize rounds : ℕ) (symbols : List String) :
      Meets Q (eachBatch maxSize (fun noRelatedSym => sendRequest ctx fun requestId =>
        .marketDataRequest (request noRelatedSym requestId)) rounds symbols : Handler D Y) := by
    induction rounds generalizing symbols with
    | zero => exact hQ.composes.skip
    | succ rounds ih =>
      refine Meets.ite (fun _ => hQ.composes.skip) fun _ => hQ.composes.seq ?_ (ih _)
      exact hQ.request _ fun _ id _ => congrArg some (h _ id)
  exact hbatch _ _ symbols

theorem subscribeSymbols (hQ : Allows ctx Q) (symbols : List String) :
    Meets Q (subscribeSymbols env ctx symbols : Handler D Y) :=
  Meets.ite (fun _ => hQ.composes.skip)
    fun _ => hQ.sendMarketDataRequests (fun _ _ => rfl) symbols

theorem resubscribe (hQ : Allows ctx Q) (symbol : String) :
    Meets Q (resubscribe env ctx symbol : Handler D Y) := by
  rintro ⟨o, shared⟩
  simp only [MarketData.resubscribe]
  split_ifs
  · exact hQ.composes.refl _
  · have hunsubscribe : Meets Q (unsubscribeSymbols env ctx [symbol] : Handler D Y) :=
      hQ.sendMarketDataRequests (fun _ _ => rfl) [symbol]
    refine hQ.composes.seq (hQ.set _ ?_)
      (hQ.composes.seq hunsubscribe (hQ.subscribeSymbols [symbol])) _
    intro o
    rfl

theorem subscribe [Symbols Y] (hQ : Allows ctx Q) (startFrom : ℕ) :
    Meets Q (subscribe env ctx startFrom : Handler D Y) := by
  rintro ⟨o, shared⟩
  simp only [MarketData.subscribe]
  split_ifs
  · exact hQ.subscribeSymbols _ _
  · exact hQ.composes.refl _

/-! ## Timer and download -/

theorem timer (hQ : Allows ctx Q) (now : ℤ) : Meets Q (timer env ctx now : Handler D Y) := by
  rintro ⟨o, shared⟩
  simp only [MarketData.timer]
  split_ifs
  · exact hQ.report _ _ trivial nofun
  · exact hQ.report _ _ trivial nofun
  · exact hQ.composes.refl _
  · have hstart : Q (o, shared) [] ({ o with nextHeartbeat := now + env.pingFreq }, shared) :=
      hQ.frame _ _ rfl rfl
    exact hQ.composes.after hstart (hQ.sendTestRequest _)
  all_goals exact hQ.composes.refl _

theorem downloadState [Symbols Y] (hQ : Allows ctx Q) (state : State) :
    Meets Q (downloadState env ctx state : Handler D Y) := by
  cases state with
  | undefined => exact hQ.composes.skip
  | securities =>
    rintro ⟨o, shared⟩
    simp only [MarketData.downloadState]
    split_ifs
    · exact hQ.composes.seq (hQ.publish (by decide) _) (hQ.request _ fun _ _ _ => rfl) _
    · exact hQ.composes.refl _
  | subscribe => exact hQ.composes.seq (hQ.set _ fun _ => rfl) (hQ.subscribe 0)
  | done =>
    apply hQ.composes.seq (hQ.publish (by decide) _)
    apply hQ.set
    intro o
    split_ifs
    · rfl
    · rfl

theorem advance [Symbols Y] (hQ : Allows ctx Q) (move : MarketData D → D × List State) :
    Meets Q (advance env ctx move : Handler D Y) := by
  intro s
  have hmove : Q s [] ({ s.1 with download := (move s.1).1 }, s.2) := hQ.frame _ _ rfl rfl
  exact hQ.composes.after hmove (hQ.composes.each hQ.downloadState _ _)

theorem logout (hQ : Allows ctx Q) : Meets Q (logout ctx : Handler D Y) := by
  refine hQ.composes.seq (hQ.publish (by decide) _) (hQ.composes.seq (hQ.set _ fun _ => rfl)
    (hQ.composes.seq (hQ.send ?_) fun s => hQ.report s _ trivial nofun))
  exact fun _ _ => trivial

theorem heartbeat (hQ : Allows ctx Q) {testReqId : String} {s : MarketData D × SharedState Y}
    {r : (MarketData D × SharedState Y) × List Output}
    (h : heartbeat env ctx testReqId s = some r) : Q s r.2 r.1 := by
  have hclear : Q s [] ({ s.1 with lastLogonOrHeartbeat := 0 }, s.2) :=
    hQ.frame _ _ rfl rfl
  simp only [MarketData.heartbeat] at h
  split_ifs at h
  · obtain rfl := Option.some.inj h
    exact hclear
  · obtain ⟨_, -, rfl⟩ := Option.map_eq_some_iff.mp h
    refine hQ.composes.trans hclear (hQ.report _ _ trivial ?_)
    rintro id ⟨⟩
    rfl

/-! ## Securities -/

/-- The relation allows for instruments: for symbols that become known, and for reports. -/
structure Learns (Q : MarketData D × SharedState Y → List Output → MarketData D × SharedState Y →
    Prop) : Prop where
  known : ∀ s known multiplier,
    Q s [] (s.1, { s.2 with allSymbols := known, multiplier := multiplier })
  report : ∀ s value, value.streamId = s.1.streamId → Q s [.referenceData value] s

/-- The loop over a security list. -/
theorem securities (hQ : Allows ctx Q) (hlearns : Learns Q) {i : ℕ} {items : List Fix.Instrument}
    {shared : SharedState Y} {result : SharedState Y × List Output × List String}
    (o : MarketData D)
    (h : securities env ctx o.streamId i items shared = some result) :
    Q (o, shared) result.2.1 (o, result.1) := by
  induction items generalizing i shared result with
  | nil =>
    obtain rfl := Option.some.inj h
    exact hQ.composes.refl _
  | cons item items ih =>
    simp only [MarketData.securities, Option.bind_eq_some_iff, Option.map_eq_some_iff] at h
    obtain ⟨discard, -, report, hreport, rest, hrest, rfl⟩ := h
    have hitem : Q (o, shared) report (o, shared) := by
      split_ifs at hreport
      · obtain ⟨value, hvalue, rfl⟩ := Option.map_eq_some_iff.mp hreport
        obtain ⟨_, -, rfl⟩ := Option.map_eq_some_iff.mp hvalue
        exact hlearns.report _ _ rfl
      · obtain rfl := Option.some.inj hreport
        exact hQ.composes.refl _
    refine hQ.composes.trans hitem (hQ.composes.after ?_ (ih hrest))
    cases discard with
    | true => exact hlearns.known (o, shared) _ _
    | false => exact hlearns.known (o, shared) _ _

theorem checkSecurities [Symbols Y] [Download State D] (hQ : Allows ctx Q) :
    Meets Q (checkSecurities env ctx : Handler D Y) :=
  hQ.advance _

/-! ## Books -/

section

variable (hQ : Allows ctx Q) (hupdate : ∀ s x, x.IsUpdate = true →
  (∀ id ∈ x.streamId?, id = s.1.streamId) → Q s [x] s)

include hQ hupdate

theorem publishTrades (symbol : String) (e : Entries) (header : Fix.Header) :
    Meets Q (publishTrades env symbol e header : Handler D Y) := by
  apply Meets.ite
  · intro _ s
    refine hupdate s _ rfl ?_
    rintro id ⟨⟩
    rfl
  · intro _
    exact hQ.composes.skip

theorem publishStatistics (symbol : String) (e : Entries) (updateType : UpdateType)
    (header : Fix.Header) :
    Meets Q (publishStatistics env symbol e updateType header : Handler D Y) := by
  apply Meets.ite
  · intro _
    exact hQ.composes.skip
  · intro _ s
    refine hupdate s _ rfl ?_
    rintro id ⟨⟩
    rfl

theorem publishIncremental (symbol : String) (e : Entries) (header : Fix.Header) :
    Meets Q (publishIncremental env ctx symbol e header : Handler D Y) := by
  rintro ⟨o, shared⟩
  have hbook (isLast : Bool) : Q (o, shared) [.marketByPriceUpdate
      (marketByPriceUpdate env o.streamId symbol e .incremental header) isLast
      ctx.marketByPrice] (o, shared) := by
    refine hupdate _ _ rfl ?_
    rintro id ⟨⟩
    rfl
  simp only [MarketData.publishIncremental]
  split_ifs
  · exact hQ.composes.trans (hbook _) (hQ.resubscribe symbol _)
  · exact hQ.composes.trans (hbook _) (hQ.composes.refl _)
  · exact hQ.composes.refl _

theorem publishSnapshot (symbol : String) (e : Entries) (header : Fix.Header) :
    Meets Q (publishSnapshot env ctx symbol e header : Handler D Y) := by
  rintro ⟨o, shared⟩
  simp only [MarketData.publishSnapshot]
  split_ifs
  · refine hupdate _ _ rfl ?_
    rintro id ⟨⟩
    rfl
  · exact hQ.composes.refl _

theorem marketDataIncrementalRefresh {header : Fix.Header}
    {value : Fix.MarketDataIncrementalRefresh} {s : MarketData D × SharedState Y}
    {r : (MarketData D × SharedState Y) × List Output}
    (h : marketDataIncrementalRefresh env ctx header value s = some r) : Q s r.2 r.1 := by
  simp only [MarketData.marketDataIncrementalRefresh] at h
  split_ifs at h
  obtain rfl := Option.some.inj h
  exact hQ.composes.seq (hQ.publishIncremental hupdate _ _ _) (hQ.composes.seq
    (hQ.publishTrades hupdate _ _ _) (hQ.publishStatistics hupdate _ _ _ _)) s

theorem marketDataSnapshotFullRefresh {header : Fix.Header}
    {value : Fix.MarketDataSnapshotFullRefresh} {s : MarketData D × SharedState Y}
    {r : (MarketData D × SharedState Y) × List Output}
    (h : marketDataSnapshotFullRefresh env ctx header value s = some r) : Q s r.2 r.1 := by
  simp only [MarketData.marketDataSnapshotFullRefresh] at h
  split_ifs at h
  obtain rfl := Option.some.inj h
  have hunlatch : Meets Q
      (MarketData.set fun o => { o with latch := o.latch.erase value.symbol } : Handler D Y) :=
    hQ.set _ fun _ => rfl
  exact hQ.composes.seq hunlatch (hQ.composes.seq
    (hQ.publishSnapshot hupdate _ _ _) (hQ.publishStatistics hupdate _ _ _ _)) s

end

/-! ## Calls -/

variable [Symbols Y] [Download State D]

/-- A message, but for refreshes, and for a list of securities, in the middle of which the
    controller acts. -/
theorem parseHelper (hQ : Allows ctx Q) {header : Fix.Header} {value : Fix.MDInbound}
    (hlist : ∀ noRelatedSym, value ≠ .securityList noRelatedSym)
    (hincremental : ∀ value', value ≠ .marketDataIncrementalRefresh value')
    (hsnapshot : ∀ value', value ≠ .marketDataSnapshotFullRefresh value')
    {s : MarketData D × SharedState Y} {r : (MarketData D × SharedState Y) × List Output}
    (h : parseHelper env ctx header value s = some r) : Q s r.2 r.1 := by
  cases value with
  | heartbeat testReqId => exact hQ.heartbeat h
  | logon =>
    obtain rfl := Option.some.inj h
    exact hQ.advance _ s
  | logout =>
    obtain rfl := Option.some.inj h
    exact hQ.logout s
  | resendRequest =>
    obtain rfl := Option.some.inj h
    exact hQ.report s _ trivial nofun
  | testRequest testReqId =>
    obtain rfl := Option.some.inj h
    refine hQ.send ?_ s
    exact fun _ _ => trivial
  | securityList noRelatedSym => exact absurd rfl (hlist noRelatedSym)
  | marketDataIncrementalRefresh value' => exact absurd rfl (hincremental value')
  | marketDataSnapshotFullRefresh value' => exact absurd rfl (hsnapshot value')
  | marketDataRequestReject =>
    simp only [MarketData.parseHelper] at h
    split_ifs at h
    obtain rfl := Option.some.inj h
    exact hQ.composes.refl s
  | _ =>
    obtain rfl := Option.some.inj h
    exact hQ.composes.refl s

/-- A list of securities, where it does not matter what the controller does with what is
    shared. -/
theorem securityList (hQ : Allows ctx Q) (hlearns : Learns Q)
    (hshared : ∀ s shared, Q s [] (s.1, shared))
    {noRelatedSym : List Fix.Instrument} {s : MarketData D × SharedState Y}
    {r : (MarketData D × SharedState Y) × List Output}
    (h : securityList env ctx noRelatedSym s = some r) : Q s r.2 r.1 := by
  obtain ⟨⟨shared, reports, symbols⟩, hloop, rfl⟩ := Option.map_eq_some_iff.mp h
  have hreports : Q s reports (s.1, shared) := hQ.securities hlearns s.1 hloop
  refine hQ.composes.trans hreports (hQ.composes.seq ?_ hQ.checkSecurities _)
  apply Meets.ite
  · intro _
    exact hQ.composes.skip
  · intro _ s
    refine hQ.composes.after (hshared s _) (hQ.composes.seq ?_ (hQ.subscribe _) _)
    exact fun s => hQ.report s _ trivial nofun

/-- **A call**, but for a list of securities. -/
theorem call (hQ : Allows ctx Q)
    (hupdate : ∀ s x, x.IsUpdate = true → (∀ id ∈ x.streamId?, id = s.1.streamId) → Q s [x] s)
    (hlogon : ∀ message, Meets Q (MarketData.send ctx (.logon message)))
    (hdisconnected : Meets Q (MarketData.publish .disconnected ""))
    {event : Event}
    (hevent : ∀ header noRelatedSym, event ≠ .message header (.securityList noRelatedSym))
    {s : MarketData D × SharedState Y} {r : (MarketData D × SharedState Y) × List Output}
    (h : call env ctx event s = some r) : Q s r.2 r.1 := by
  cases event with
  | timer now =>
    obtain rfl := Option.some.inj h
    exact hQ.timer now s
  | subscribe startFrom =>
    obtain rfl := Option.some.inj h
    exact hQ.subscribe startFrom s
  | connected =>
    obtain rfl := Option.some.inj h
    refine hQ.composes.seq (hQ.composes.seq (hlogon _) (hQ.set _ ?_))
      (hQ.publish (by decide) _) s
    exact fun _ => rfl
  | disconnected =>
    obtain rfl := Option.some.inj h
    refine hQ.composes.seq (hQ.set _ ?_) (hQ.composes.seq hdisconnected (hQ.set _ ?_)) s
    · exact fun _ => rfl
    · exact fun _ => rfl
  | message header value =>
    have hcheck : Q s [] (check header s.1, s.2) := hQ.frame _ _ rfl rfl
    refine hQ.composes.after hcheck ?_
    have hlist : ∀ noRelatedSym, value ≠ .securityList noRelatedSym := by
      rintro noRelatedSym rfl
      exact hevent header noRelatedSym rfl
    have hparsed : MarketData.parseHelper env ctx header value (check header s.1, s.2) = some r := h
    cases value with
    | marketDataIncrementalRefresh value => exact hQ.marketDataIncrementalRefresh hupdate h
    | marketDataSnapshotFullRefresh value => exact hQ.marketDataSnapshotFullRefresh hupdate h
    | _ => exact hQ.parseHelper hlist nofun nofun hparsed

end Allows

/-! ## What is drawn -/

/-- The ids of the requests have been drawn, and nothing else that is shared is looked at. -/
structure Draws (s : MarketData D × SharedState Y) (os : List Output)
    (t : MarketData D × SharedState Y) : Prop where
  requestIds : Drawn s.2.requestId (os.filterMap Output.requestId?) t.2.requestId
  timeSeriesRequestQueue : t.2.timeSeriesRequestQueue = s.2.timeSeriesRequestQueue
  labelled : Labelled (fun s => s.1.streamId) Output.streamId? s os t

theorem composes_draws :
    Composes (Draws : MarketData D × SharedState Y → List Output →
      MarketData D × SharedState Y → Prop) where
  refl s := ⟨rfl, rfl, composes_labelled.refl s⟩
  trans h h' := by
    refine ⟨?_, h'.timeSeriesRequestQueue.trans h.timeSeriesRequestQueue,
      composes_labelled.trans h.labelled h'.labelled⟩
    rw [List.filterMap_append]
    exact composes_drawn.trans h.requestIds h'.requestIds

/-- A report, or a message that is no request. -/
theorem Draws.single {s : MarketData D × SharedState Y} {x : Output}
    (hrequest : x.requestId? = none) (hreport : ∀ id ∈ x.streamId?, id = s.1.streamId) :
    Draws s [x] s := by
  refine ⟨?_, rfl, .single rfl hreport⟩
  rw [List.filterMap_cons, hrequest]
  exact rfl

theorem allows_draws (ctx : Context Y) :
    Allows ctx (Draws : MarketData D × SharedState Y → List Output →
      MarketData D × SharedState Y → Prop) where
  composes := composes_draws
  frame _ _ hstream hshared := ⟨congrArg _ hshared, congrArg _ hshared, .still hstream⟩
  report _ _ hplain hreport := .single hplain.requestId? hreport
  -- a request is sent under the next id
  request request hrequest s := by
    refine ⟨?_, rfl, .single rfl nofun⟩
    simp only [sendRequest, send, List.filterMap_cons, hrequest _ _ _, List.filterMap_nil]
    exact ⟨rfl, rfl⟩

theorem learns_draws : Allows.Learns (Draws : MarketData D × SharedState Y → List Output →
    MarketData D × SharedState Y → Prop) where
  known _ _ _ := ⟨rfl, rfl, .still rfl⟩
  report s value h := by
    refine .single rfl ?_
    rintro id ⟨⟩
    exact h

theorem update_draws (s : MarketData D × SharedState Y) (x : Output) (h : x.IsUpdate = true)
    (hreport : ∀ id ∈ x.streamId?, id = s.1.streamId) : Draws s [x] s := by
  refine .single ?_ hreport
  cases x with
  | sent _ _ _ => cases h
  | _ => rfl

variable [Symbols Y] [Download State D]

/-- **Calls of the stream**, but for a list of securities. -/
theorem call_draws {event : Event}
    (hevent : ∀ header noRelatedSym, event ≠ .message header (.securityList noRelatedSym))
    {s : MarketData D × SharedState Y} {r : (MarketData D × SharedState Y) × List Output}
    (h : call env ctx event s = some r) : Draws s r.2 r.1 := by
  have hQ := allows_draws (D := D) ctx
  refine hQ.call update_draws ?_ ?_ hevent h
  · intro message s
    refine composes_draws.trans (Draws.single ?_ ?_) (hQ.frame s _ rfl rfl)
    · rfl
    · exact nofun
  · intro s
    refine composes_draws.trans (Draws.single rfl ?_) (hQ.frame s _ rfl rfl)
    rintro id ⟨⟩
    rfl

/-! ## What is left alone -/

/-- Of what is shared, only the counter changes. -/
def Counts (s : MarketData D × SharedState Y) (_ : List Output) (t : MarketData D × SharedState Y) :
    Prop :=
  { t.2 with requestId := 0 } = { s.2 with requestId := 0 }

omit [Symbols Y] [Download State D] in
theorem allows_counts (ctx : Context Y) :
    Allows ctx (Counts : MarketData D × SharedState Y → List Output →
      MarketData D × SharedState Y → Prop) where
  composes := composes_eq fun s : MarketData D × SharedState Y => { s.2 with requestId := 0 }
  frame s t _ hshared := by simp only [Counts, hshared]
  report _ _ _ _ := rfl
  request _ _ _ := rfl

theorem call_counts {event : Event}
    (hevent : ∀ header noRelatedSym, event ≠ .message header (.securityList noRelatedSym))
    {s : MarketData D × SharedState Y} {r : (MarketData D × SharedState Y) × List Output}
    (h : call env ctx event s = some r) : Counts s r.2 r.1 :=
  (allows_counts ctx).call (fun _ _ _ _ => rfl) (fun _ _ => rfl) (fun _ => rfl) hevent h

omit [Symbols Y] [Download State D] in
/-- The loop over a security list changes what is known of the symbols. -/
theorem securities_shared {streamId : UInt16} {i : ℕ} {items : List Fix.Instrument}
    {shared : SharedState Y} {result : SharedState Y × List Output × List String}
    (h : securities env ctx streamId i items shared = some result) :
    ∃ known multiplier,
      result.1 = { shared with allSymbols := known, multiplier := multiplier } := by
  induction items generalizing i shared result with
  | nil =>
    obtain rfl := Option.some.inj h
    exact ⟨_, _, rfl⟩
  | cons item items ih =>
    simp only [securities, Option.bind_eq_some_iff, Option.map_eq_some_iff] at h
    obtain ⟨discard, -, report, -, rest, hrest, rfl⟩ := h
    obtain ⟨known, multiplier, hshared⟩ := ih hrest
    cases discard with
    | true => exact ⟨known, multiplier, hshared⟩
    | false => exact ⟨known, multiplier, hshared⟩

end MarketData

end DeribitGateway
