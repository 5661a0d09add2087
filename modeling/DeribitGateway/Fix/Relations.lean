import DeribitGateway.Fix.Handlers
import DeribitGateway.Fix.MarketData

/-!
# What handlers of the FIX streams have in common

Most handlers of the two streams send and report, and change a part of the state that a given
result does not look at. For a relation between the state before a handler, its outputs and
the state after, `OrderEntry.Tolerates` and `MarketData.Tolerates` say that it allows for
that; the lemmas behind them draw from it that the relation holds of the handlers.
-/

namespace DeribitGateway

open Emission StagedDownload

namespace OrderEntry

variable {D : Type} {env : Env} {ctx : Context} {o : OrderEntry D}

/-- The messages that want an answer: a log-on, and a test request. -/
def IsProbe : Fix.Outbound → Prop
  | .logon _ => True
  | .testRequest _ => True
  | _ => False

def Output.IsSent : Output → Prop
  | .sent .. => True
  | _ => False

/-- The relation allows for messages that are no probes, for reports, and for what neither
    touches the sequence number nor the time of the last probe. -/
structure Tolerates (ctx : Context) (R : OrderEntry D → List Output → OrderEntry D → Prop) :
    Prop where
  composes : Composes R
  frame : ∀ o o', o'.outbound = o.outbound →
    o'.lastLogonOrHeartbeat = o.lastLogonOrHeartbeat → R o [] o'
  report : ∀ o x, ¬x.IsSent → R o [x] o
  send : ∀ message, ¬IsProbe message → Meets R (send ctx message)

namespace Tolerates

variable {R : OrderEntry D → List Output → OrderEntry D → Prop}

theorem andThen (hR : Tolerates ctx R) {e : Effect D} {f : OrderEntry D → Effect D}
    (he : R o e.2 e.1) (hf : Meets R f) : R o (e.andThen f).2 (e.andThen f).1 :=
  hR.composes.trans he (hf e.1)

theorem reports (hR : Tolerates ctx R) (o : OrderEntry D) {os : List Output}
    (h : ∀ x ∈ os, ¬x.IsSent) : R o os o := by
  induction os with
  | nil => exact hR.composes.refl o
  | cons x os ih =>
    exact hR.composes.trans (hR.report o x (h x List.mem_cons_self))
      (ih fun y hy => h y (List.mem_cons_of_mem x hy))

/-- A change that the relation does not see, next to a report. -/
theorem reported (hR : Tolerates ctx R) {o' : OrderEntry D} {x : Output} (hx : ¬x.IsSent)
    (hout : o'.outbound = o.outbound)
    (hlast : o'.lastLogonOrHeartbeat = o.lastLogonOrHeartbeat) : R o [x] o' :=
  hR.composes.trans (hR.report o x hx) (hR.frame o o' hout hlast)

theorem publish (hR : Tolerates ctx R) (connectionStatus : ConnectionStatus) (reason : String) :
    Meets R (publish env connectionStatus reason) := by
  intro o
  exact hR.reported id rfl rfl

theorem forward (hR : Tolerates ctx R) {message : Fix.Outbound} (hmessage : ¬IsProbe message)
    (requestId : String) : Meets R (forward env ctx message requestId) := by
  intro o
  apply hR.andThen (hR.send message hmessage o)
  intro o'
  exact hR.reported id rfl rfl

theorem downloadState (hR : Tolerates ctx R) (s : State) :
    Meets R (fun o => downloadState env ctx o s) := by
  intro o
  cases s with
  | undefined => exact hR.composes.refl o
  | positions => exact hR.andThen (hR.publish _ _ o) (hR.send _ id)
  | orders => exact hR.andThen (hR.publish _ _ o) (hR.send _ id)
  | done =>
    apply hR.andThen (hR.publish _ _ o)
    intro o'
    exact hR.frame _ _ rfl rfl

/-- Which request ids have been drawn is not looked at. -/
theorem requestId (hR : Tolerates ctx R) (requestId : UInt32) :
    Tolerates { ctx with requestId } R :=
  ⟨hR.composes, hR.frame, hR.report, hR.send⟩

theorem enter (hR : Tolerates ctx R) (states : List State) : Meets R (enter env ctx states) := by
  induction states generalizing ctx with
  | nil => exact hR.composes.refl
  | cons s states ih =>
    intro o
    exact hR.andThen (hR.downloadState s o) (ih (hR.requestId _))

theorem advance (hR : Tolerates ctx R) (r : D × List State) : Meets R (advance env ctx r) := by
  intro o
  exact hR.composes.trans (hR.frame o { o with download := r.1 } rfl rfl) (hR.enter r.2 _)

theorem logout (hR : Tolerates ctx R) : Meets R (logout ctx) := by
  intro o
  have hready : R o [] { o with ready_ := false } := hR.frame _ _ rfl rfl
  unfold OrderEntry.logout
  apply hR.andThen (hR.composes.trans hready (hR.send (.logout "LOGOUT") id _))
  intro o'
  exact hR.report o' _ id

/-- The timer, which can send either probe. -/
theorem timer (hR : Tolerates ctx R) (hlogon : Meets R (sendLogon env ctx))
    (htest : Meets R (sendTestRequest env ctx)) (now : ℤ) : Meets R (timer env ctx now) := by
  intro o
  have hclosed : R o [.closed] o := hR.report o _ id
  unfold OrderEntry.timer
  split_ifs
  · exact hclosed
  · exact hclosed
  · exact hR.composes.refl o
  · apply hR.composes.after _ (htest _)
    exact hR.frame _ _ rfl rfl
  · exact hR.composes.refl o
  · apply hR.andThen _ (hR.publish _ _)
    apply hR.composes.after _ (hlogon _)
    exact hR.frame _ _ rfl rfl
  · exact hR.composes.refl o
  · exact hR.composes.refl o

variable [Download2 D]

/-- **The order actions.** -/
theorem action (hR : Tolerates ctx R) (o : OrderEntry D) {event : Event} (h : event.IsAction) :
    ∃ o', (step env o (ctx, event)).1 = some o' ∧ R o (step env o (ctx, event)).2 o' := by
  have hthrew : ∀ e, R o [.threw e] o := fun e => hR.report o _ id
  cases event with
  | createOrder value refData requestId =>
    simp only [step, createOrder]
    split_ifs
    · exact ⟨_, rfl, hthrew _⟩
    · exact ⟨_, rfl, hthrew _⟩
    · exact ⟨_, rfl, hthrew _⟩
    · cases mapExecutionInstructions value.executionInstructions with
      | error e => exact ⟨_, rfl, hthrew _⟩
      | ok execInst => exact ⟨_, rfl, hR.forward id requestId o⟩
  | modifyOrder value order refData requestId =>
    simp only [step, modifyOrder]
    split_ifs
    · exact ⟨_, rfl, hthrew _⟩
    · exact ⟨_, rfl, hR.forward id requestId o⟩
  | cancelOrder order requestId =>
    simp only [step, cancelOrder]
    split_ifs
    · exact ⟨_, rfl, hthrew _⟩
    · exact ⟨_, rfl, hR.forward id requestId o⟩
  | cancelAllOrders value requestId =>
    simp only [step, cancelAllOrders]
    split_ifs
    · exact ⟨_, rfl, hthrew _⟩
    · cases massCancelRequestType ((env.createFilter value).filter (· ≠ .account)) with
      | error e => exact ⟨_, rfl, hthrew _⟩
      | ok type =>
        simp only [Except.map, orThrow, goesOn]
        refine ⟨_, rfl, hR.andThen (hR.send (.orderMassCancelRequest _) id o) ?_⟩
        intro o'
        apply hR.reports
        intro x hx hsent
        simp only [List.mem_cons, List.not_mem_nil, or_false] at hx
        obtain rfl | rfl := hx
        · exact hsent
        · exact hsent
  | _ => exact h.elim

omit [Download2 D] in
theorem positionUpdates (hR : Tolerates ctx R) (o : OrderEntry D)
    (positions : List Fix.PositionQty) : R o (positionUpdates env positions) o := by
  induction positions with
  | nil => exact hR.composes.refl o
  | cons position positions ih => exact hR.composes.trans (hR.report o _ id) ih

theorem executionOutputs (hR : Tolerates ctx R) (header : Fix.Header) (r : Fix.ExecutionReport)
    (o : OrderEntry D) : R o (executionOutputs env ctx header r o) o := by
  apply hR.reports
  intro x hx hsent
  unfold OrderEntry.executionOutputs at hx
  split_ifs at hx
  · obtain rfl := List.mem_singleton.mp hx
    exact hsent
  · simp only [List.mem_cons, List.not_mem_nil, or_false] at hx
    obtain rfl | rfl := hx
    · exact hsent
    · exact hsent

theorem executionReport (hR : Tolerates ctx R) {header : Fix.Header} {r : Fix.ExecutionReport}
    {e : Effect D} (h : executionReport env ctx header r o = some e) : R o e.2 e.1 := by
  unfold OrderEntry.executionReport at h
  split at h
  · split_ifs at h
    · obtain rfl := Option.some.inj h
      exact hR.composes.refl o
    · obtain rfl := Option.some.inj h
      exact hR.andThen (hR.executionOutputs header r o) (hR.advance _)
  · obtain rfl := Option.some.inj h
    exact hR.advance _ o
  · cases h

omit [Download2 D] in
theorem reject (hR : Tolerates ctx R) {r : Fix.Reject} {e : Effect D}
    (h : reject r o = some e) : R o e.2 e.1 := by
  unfold OrderEntry.reject at h
  simp only at h
  split_ifs at h
  · split at h
    · obtain rfl := Option.some.inj h
      exact hR.report o _ id
    · obtain rfl := Option.some.inj h
      exact hR.composes.refl o
  · obtain rfl := Option.some.inj h
    exact hR.report o _ id
  · obtain rfl := Option.some.inj h
    exact hR.report o _ id

end Tolerates

/-- Messages that clear the time of the last probe. -/
def Clears : Fix.Inbound → Prop
  | .heartbeat _ => True
  | .logon => True
  | _ => False

/-- **A message that does not clear the time of the last probe** is as the relation says. When
    the process ends it has put out nothing. -/
theorem Tolerates.message [Download2 D]
    {R : OrderEntry D → List Output → OrderEntry D → Prop} (hR : Tolerates ctx R)
    (header : Fix.Header) {value : Fix.Inbound} (h : ¬Clears value) :
    step env o (ctx, .message header value) = (none, []) ∨
    ∃ o', (step env o (ctx, .message header value)).1 = some o' ∧
      R o (step env o (ctx, .message header value)).2 o' := by
  have hcheck : R o [] (check header o) := hR.frame _ _ rfl rfl
  have hquiet : ∀ {e : Effect D}, R (check header o) e.2 e.1 → R o e.2 e.1 := fun he =>
    hR.composes.trans hcheck he
  simp only [step]
  cases value with
  | heartbeat testReqId => exact absurd trivial h
  | logon => exact absurd trivial h
  | logout => exact .inr ⟨_, rfl, hquiet (hR.logout _)⟩
  | resendRequest => exact .inr ⟨_, rfl, hquiet (e := (_, _)) (hR.report _ _ id)⟩
  | testRequest testReqId => exact .inr ⟨_, rfl, hquiet (hR.send _ id _)⟩
  | positionReport noPositions =>
    exact .inr ⟨_, rfl, hquiet (hR.andThen (hR.positionUpdates _ _) (hR.advance _))⟩
  | executionReport r =>
    simp only [parseHelper]
    cases hr : OrderEntry.executionReport env ctx header r (check header o) with
    | none => exact .inl rfl
    | some e => exact .inr ⟨_, rfl, hquiet (hR.executionReport hr)⟩
  | orderCancelReject r => exact .inr ⟨_, rfl, hquiet (e := (_, _)) (hR.report _ _ id)⟩
  | reject r =>
    simp only [parseHelper]
    cases hr : OrderEntry.reject r (check header o) with
    | none => exact .inl rfl
    | some e => exact .inr ⟨_, rfl, hquiet (hR.reject hr)⟩
  | orderMassCancelReport r => exact .inr ⟨_, rfl, hquiet (e := (_, _)) (hR.report _ _ id)⟩
  | other msgType => exact .inr ⟨_, rfl, hcheck⟩

end OrderEntry

namespace MarketData

variable {D Y : Type} {env : Env} {ctx : Context Y}

def IsProbe : Fix.MDOutbound → Prop
  | .logon _ => True
  | .testRequest _ => True
  | _ => False

def Output.IsSent : Output → Prop
  | .sent .. => True
  | _ => False

/-- The relation allows for messages that are no probes, for reports, and for what neither
    touches the sequence number nor the time of the last probe nor the latch. -/
structure Tolerates (ctx : Context Y)
    (R : MarketData D × SharedState Y → List Output → MarketData D × SharedState Y → Prop) :
    Prop where
  composes : Composes R
  frame : ∀ s t, t.1.outbound = s.1.outbound →
    t.1.lastLogonOrHeartbeat = s.1.lastLogonOrHeartbeat → t.1.latch = s.1.latch → R s [] t
  report : ∀ s x, ¬x.IsSent → (∀ value isLast dispatched,
    x ≠ .marketByPriceUpdate value isLast dispatched) → R s [x] s
  send : ∀ message, ¬IsProbe message → (∀ value, message = .marketDataRequest value →
    value.subscriptionRequestType ≠ .unsubscribe) → Meets R (send ctx message)

namespace Tolerates

variable {R : MarketData D × SharedState Y → List Output → MarketData D × SharedState Y → Prop}

theorem set (hR : Tolerates ctx R) {f : MarketData D → MarketData D}
    (h : ∀ o, (f o).outbound = o.outbound ∧
      (f o).lastLogonOrHeartbeat = o.lastLogonOrHeartbeat ∧ (f o).latch = o.latch) :
    Meets R (set f : Handler D Y) := by
  intro s
  obtain ⟨hout, hlast, hlatch⟩ := h s.1
  exact hR.frame _ _ hout hlast hlatch

theorem emit (hR : Tolerates ctx R) {x : Output} (hsent : ¬x.IsSent)
    (hbook : ∀ value isLast dispatched, x ≠ .marketByPriceUpdate value isLast dispatched) :
    Meets R (emit [x]) :=
  fun s => hR.report s x hsent hbook

theorem publish (hR : Tolerates ctx R) (connectionStatus : ConnectionStatus) (reason : String) :
    Meets R (publish connectionStatus reason : Handler D Y) := by
  intro s
  exact hR.composes.trans (hR.report s _ id (by simp)) (hR.frame _ _ rfl rfl rfl)

theorem sendRequest (hR : Tolerates ctx R) {request : String → Fix.MDOutbound}
    (hprobe : ∀ id, ¬IsProbe (request id))
    (hunsubscribe : ∀ id value, request id = .marketDataRequest value →
      value.subscriptionRequestType ≠ .unsubscribe) :
    Meets R (sendRequest ctx request) := by
  intro s
  have hid : R s [] (s.1, s.2.nextRequestId.1) := hR.frame _ _ rfl rfl rfl
  exact hR.composes.trans hid (hR.send _ (hprobe _) (hunsubscribe _) _)

theorem eachBatch (hR : Composes R) {f : List String → Handler D Y}
    (hf : ∀ batch, Meets R (f batch)) (maxSize rounds : ℕ) (symbols : List String) :
    Meets R (eachBatch maxSize f rounds symbols) := by
  induction rounds generalizing symbols with
  | zero => exact hR.skip
  | succ rounds ih => exact Meets.ite (fun _ => hR.skip) fun _ => hR.seq (hf _) (ih _)

theorem subscribeSymbols (hR : Tolerates ctx R) (symbols : List String) :
    Meets R (subscribeSymbols env ctx symbols) := by
  apply Meets.ite
  · intro _
    exact hR.composes.skip
  · intro _
    apply eachBatch hR.composes
    intro batch
    apply hR.sendRequest
    · intro id
      exact fun h => h
    · rintro id value heq
      obtain rfl := Fix.MDOutbound.marketDataRequest.inj heq
      exact nofun

variable [Symbols Y]

theorem subscribe (hR : Tolerates ctx R) (startFrom : ℕ) :
    Meets R (subscribe env ctx startFrom) := by
  rintro ⟨o, shared⟩
  simp only [MarketData.subscribe]
  split_ifs
  · exact hR.subscribeSymbols _ (o, shared)
  · exact hR.composes.refl (o, shared)

theorem downloadState (hR : Tolerates ctx R) (state : State) :
    Meets R (downloadState env ctx state) := by
  cases state with
  | undefined => exact hR.composes.skip
  | securities =>
    rintro ⟨o, shared⟩
    have hrequest : Meets R (downloadSecurities ctx) :=
      hR.sendRequest (fun _ => id) (fun _ _ => nofun)
    simp only [MarketData.downloadState]
    split_ifs
    · exact hR.composes.seq (hR.publish _ _) hrequest (o, shared)
    · exact hR.composes.refl (o, shared)
  | subscribe =>
    apply hR.composes.seq
    · apply hR.set
      intro o
      exact ⟨rfl, rfl, rfl⟩
    · exact hR.subscribe 0
  | done =>
    apply hR.composes.seq (hR.publish _ _)
    apply hR.set
    intro o
    split_ifs
    · exact ⟨rfl, rfl, rfl⟩
    · exact ⟨rfl, rfl, rfl⟩

theorem advance (hR : Tolerates ctx R) (move : MarketData D → D × List State) :
    Meets R (advance env ctx move) := by
  intro s
  have hmove : R s [] ({ s.1 with download := (move s.1).1 }, s.2) := hR.frame _ _ rfl rfl rfl
  exact hR.composes.trans hmove (hR.composes.each hR.downloadState _ _)

omit [Symbols Y] in
theorem logout (hR : Tolerates ctx R) : Meets R (logout ctx) := by
  apply hR.composes.seq (hR.publish _ _)
  apply hR.composes.seq
  · apply hR.set
    intro o
    exact ⟨rfl, rfl, rfl⟩
  · exact hR.composes.seq (hR.send _ id (fun _ => nofun)) (hR.emit id (by simp))

omit [Symbols Y] in
/-- The timer, which can send a test request. -/
theorem timer (hR : Tolerates ctx R) (htest : Meets R (sendTestRequest env ctx)) (now : ℤ) :
    Meets R (timer env ctx now) := by
  rintro ⟨o, shared⟩
  have hskip := hR.composes.refl (o, shared)
  have hclosed : R (o, shared) [.closed] (o, shared) := hR.report _ _ id (by simp)
  simp only [MarketData.timer]
  split_ifs
  · exact hclosed
  · exact hclosed
  · exact hskip
  · apply hR.composes.after _ (htest _)
    exact hR.frame _ _ rfl rfl rfl
  · exact hskip
  · exact hskip
  · exact hskip

omit [Symbols Y] in
theorem connected (hR : Tolerates ctx R) (hlogon : Meets R (sendLogon env ctx)) :
    Meets R (connected env ctx) :=
  hR.composes.seq hlogon (hR.publish _ _)

omit [Symbols Y] in
/-- The loop over a security list reports reference data. -/
theorem securities (hR : Tolerates ctx R) {streamId : UInt16} {i : ℕ}
    {items : List Fix.Instrument} {shared : SharedState Y}
    {result : SharedState Y × List Output × List String}
    (h : securities env ctx streamId i items shared = some result) :
    ∀ s : MarketData D × SharedState Y, R s result.2.1 s := by
  intro s
  induction items generalizing i shared result with
  | nil =>
    obtain rfl := Option.some.inj h
    exact hR.composes.refl s
  | cons item items ih =>
    simp only [MarketData.securities, Option.bind_eq_some_iff, Option.map_eq_some_iff] at h
    obtain ⟨discard, -, report, hreport, rest, hrest, rfl⟩ := h
    apply hR.composes.trans _ (ih hrest)
    split_ifs at hreport
    · obtain ⟨value, -, rfl⟩ := Option.map_eq_some_iff.mp hreport
      exact hR.report s _ id (by simp)
    · obtain rfl := Option.some.inj hreport
      exact hR.composes.refl s

theorem announce (hR : Tolerates ctx R) (symbols : List String) :
    Meets R (announce env ctx symbols) := by
  apply Meets.ite
  · intro _
    exact hR.composes.skip
  · intro _ s
    have hshared : R s [] (s.1, (ctx.symbolsUpdate s.2 symbols).1) := hR.frame _ _ rfl rfl rfl
    apply hR.composes.trans hshared
    exact hR.composes.seq (hR.emit id (by simp)) (hR.subscribe _) _

variable [Download State D]

theorem securityList (hR : Tolerates ctx R) {noRelatedSym : List Fix.Instrument}
    {s : MarketData D × SharedState Y} {r : (MarketData D × SharedState Y) × List Output}
    (h : securityList env ctx noRelatedSym s = some r) : R s r.2 r.1 := by
  obtain ⟨⟨shared, reports, symbols⟩, hloop, rfl⟩ := Option.map_eq_some_iff.mp h
  have hshared : R s [] (s.1, shared) := hR.frame _ _ rfl rfl rfl
  apply hR.composes.trans hshared
  apply hR.composes.trans (hR.securities hloop _)
  exact hR.composes.seq (hR.announce symbols) (hR.advance _) _

omit [Symbols Y] [Download State D] in
theorem publishTrades (hR : Tolerates ctx R) (symbol : String) (e : Entries)
    (header : Fix.Header) : Meets R (publishTrades env symbol e header) := by
  apply Meets.ite
  · intro _ s
    exact hR.report s _ id (by simp)
  · intro _
    exact hR.composes.skip

omit [Symbols Y] [Download State D] in
theorem publishStatistics (hR : Tolerates ctx R) (symbol : String) (e : Entries)
    (updateType : UpdateType) (header : Fix.Header) :
    Meets R (publishStatistics env symbol e updateType header) := by
  apply Meets.ite
  · intro _
    exact hR.composes.skip
  · intro _ s
    exact hR.report s _ id (by simp)

end Tolerates

/-- The relation looks at sequence numbers and probes alone. -/
structure Ignores (ctx : Context Y)
    (R : MarketData D × SharedState Y → List Output → MarketData D × SharedState Y → Prop) :
    Prop where
  composes : Composes R
  frame : ∀ s t, t.1.outbound = s.1.outbound →
    t.1.lastLogonOrHeartbeat = s.1.lastLogonOrHeartbeat → R s [] t
  report : ∀ s x, ¬x.IsSent → R s [x] s
  send : ∀ message, ¬IsProbe message → Meets R (send ctx message)

namespace Ignores

variable {R : MarketData D × SharedState Y → List Output → MarketData D × SharedState Y → Prop}

theorem tolerates (hR : Ignores ctx R) : Tolerates ctx R where
  composes := hR.composes
  frame s t hout hlast _ := hR.frame s t hout hlast
  report s x hsent _ := hR.report s x hsent
  send message hprobe _ := hR.send message hprobe

theorem unsubscribeSymbols (hR : Ignores ctx R) (symbols : List String) :
    Meets R (unsubscribeSymbols env ctx symbols) := by
  apply Tolerates.eachBatch hR.composes
  intro batch s
  have hid : R s [] (s.1, s.2.nextRequestId.1) := hR.frame _ _ rfl rfl
  exact hR.composes.after hid (hR.send _ id _)

theorem resubscribe (hR : Ignores ctx R) (symbol : String) :
    Meets R (resubscribe env ctx symbol) := by
  rintro ⟨o, shared⟩
  simp only [MarketData.resubscribe]
  split_ifs
  · exact hR.composes.refl _
  · refine hR.composes.seq ?_ (hR.composes.seq (hR.unsubscribeSymbols _) ?_) _
    · intro s
      exact hR.frame _ _ rfl rfl
    · exact hR.tolerates.subscribeSymbols _

theorem publishIncremental (hR : Ignores ctx R) (symbol : String) (e : Entries)
    (header : Fix.Header) : Meets R (publishIncremental env ctx symbol e header) := by
  rintro ⟨o, shared⟩
  simp only [MarketData.publishIncremental]
  split_ifs
  · exact hR.composes.seq (fun s => hR.report s _ id) (hR.resubscribe symbol) _
  · exact hR.composes.seq (fun s => hR.report s _ id) hR.composes.skip _
  · exact hR.composes.refl _

theorem publishSnapshot (hR : Ignores ctx R) (symbol : String) (e : Entries)
    (header : Fix.Header) : Meets R (publishSnapshot env ctx symbol e header) := by
  rintro ⟨o, shared⟩
  simp only [MarketData.publishSnapshot]
  split_ifs
  · exact hR.report _ _ id
  · exact hR.composes.refl _

theorem marketDataIncrementalRefresh (hR : Ignores ctx R) {header : Fix.Header}
    {value : Fix.MarketDataIncrementalRefresh} {s : MarketData D × SharedState Y}
    {r : (MarketData D × SharedState Y) × List Output}
    (h : marketDataIncrementalRefresh env ctx header value s = some r) : R s r.2 r.1 := by
  simp only [MarketData.marketDataIncrementalRefresh] at h
  split_ifs at h
  obtain rfl := Option.some.inj h
  apply hR.composes.seq (hR.publishIncremental _ _ _)
  exact hR.composes.seq (hR.tolerates.publishTrades _ _ _)
    (hR.tolerates.publishStatistics _ _ _ _)

theorem marketDataSnapshotFullRefresh (hR : Ignores ctx R) {header : Fix.Header}
    {value : Fix.MarketDataSnapshotFullRefresh} {s : MarketData D × SharedState Y}
    {r : (MarketData D × SharedState Y) × List Output}
    (h : marketDataSnapshotFullRefresh env ctx header value s = some r) : R s r.2 r.1 := by
  simp only [MarketData.marketDataSnapshotFullRefresh] at h
  split_ifs at h
  obtain rfl := Option.some.inj h
  have hunlatch : Meets R (set fun o => { o with latch := o.latch.erase value.symbol }) :=
    fun s => hR.frame _ _ rfl rfl
  exact hR.composes.seq hunlatch
    (hR.composes.seq (hR.publishSnapshot _ _ _) (hR.tolerates.publishStatistics _ _ _ _)) s

/-- A message that is no heartbeat. -/
theorem parseHelper [Symbols Y] [Download State D] (hR : Ignores ctx R) {header : Fix.Header}
    {value : Fix.MDInbound} (hvalue : ∀ testReqId, value ≠ .heartbeat testReqId)
    {s : MarketData D × SharedState Y} {r : (MarketData D × SharedState Y) × List Output}
    (h : parseHelper env ctx header value s = some r) : R s r.2 r.1 := by
  cases value with
  | heartbeat testReqId => exact absurd rfl (hvalue testReqId)
  | logon =>
    obtain rfl := Option.some.inj h
    exact hR.tolerates.advance _ s
  | logout =>
    obtain rfl := Option.some.inj h
    exact hR.tolerates.logout s
  | resendRequest =>
    obtain rfl := Option.some.inj h
    exact hR.report s _ id
  | testRequest testReqId =>
    obtain rfl := Option.some.inj h
    exact hR.send _ id s
  | securityList noRelatedSym => exact hR.tolerates.securityList h
  | marketDataIncrementalRefresh value => exact hR.marketDataIncrementalRefresh h
  | marketDataRequestReject =>
    simp only [MarketData.parseHelper] at h
    split_ifs at h
    obtain rfl := Option.some.inj h
    exact hR.composes.refl s
  | marketDataSnapshotFullRefresh value => exact hR.marketDataSnapshotFullRefresh h
  | _ =>
    obtain rfl := Option.some.inj h
    exact hR.composes.refl s

/-- **A call** that neither ends the session nor brings a heartbeat. -/
theorem call [Symbols Y] [Download State D] (hR : Ignores ctx R)
    (hlogon : Meets R (sendLogon env ctx)) (htest : Meets R (sendTestRequest env ctx))
    {event : Event} (hdisconnected : event ≠ .disconnected)
    (hheartbeat : ∀ header testReqId, event ≠ .message header (.heartbeat testReqId))
    {s : MarketData D × SharedState Y} {r : (MarketData D × SharedState Y) × List Output}
    (h : call env ctx event s = some r) : R s r.2 r.1 := by
  cases event with
  | timer now =>
    obtain rfl := Option.some.inj h
    exact hR.tolerates.timer htest now s
  | subscribe startFrom =>
    obtain rfl := Option.some.inj h
    exact hR.tolerates.subscribe startFrom s
  | connected =>
    obtain rfl := Option.some.inj h
    exact hR.tolerates.connected hlogon s
  | disconnected => exact absurd rfl hdisconnected
  | message header value =>
    have hcheck : R s [] (check header s.1, s.2) := hR.frame _ _ rfl rfl
    apply hR.composes.after hcheck
    apply hR.parseHelper _ h
    intro testReqId heq
    exact hheartbeat header testReqId (by rw [heq])

end Ignores

theorem heartbeat_next {testReqId : String} {s : MarketData D × SharedState Y}
    {r : (MarketData D × SharedState Y) × List Output}
    (h : heartbeat env ctx testReqId s = some r) :
    r.1 = ({ s.1 with lastLogonOrHeartbeat := 0 }, s.2) ∧ ∀ x ∈ r.2, ¬x.IsSent := by
  simp only [heartbeat] at h
  split_ifs at h
  · obtain rfl := Option.some.inj h
    exact ⟨rfl, by simp⟩
  · obtain ⟨_, -, rfl⟩ := Option.map_eq_some_iff.mp h
    refine ⟨rfl, ?_⟩
    intro x hx
    obtain rfl := List.mem_singleton.mp hx
    exact id

end MarketData

end DeribitGateway
