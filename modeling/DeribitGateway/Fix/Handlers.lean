import DeribitGateway.Fix.OrderEntry

/-!
# What a step of the order entry stream can do

The facts about single steps that results about runs are built from.

* `step_action`: an order action either throws and leaves the state as it was, or sends one
  message, whatever the connection answers, and returns.
* `step_keeps`: no other step but `disconnected` touches the request ids, or takes a sequence
  number back.
* `step_quiet`: outside the log-on and the download, a step leaves both undisturbed.
-/

namespace DeribitGateway

namespace OrderEntry

variable {D : Type} {env : Env} {ctx : Context} {o : OrderEntry D}

@[simp] theorem send_fst (message : Fix.Outbound) :
    (send ctx message o).1 = { o with outbound := o.outbound + 1 } := rfl

@[simp] theorem send_snd (message : Fix.Outbound) :
    (send ctx message o).2 = [.sent (o.outbound + 1) message (ctx.queued (o.outbound + 1))] := rfl

/-! ## Order actions -/

/-- Create, modify, cancel, or cancel all. -/
def Event.IsAction : Event → Prop
  | .createOrder .. => True
  | .modifyOrder .. => True
  | .cancelOrder .. => True
  | .cancelAllOrders .. => True
  | _ => False

/-- The request an action on one order is made under. -/
def Event.orderRequest : Event → Option String
  | .createOrder _ _ requestId => some requestId
  | .modifyOrder _ _ _ requestId => some requestId
  | .cancelOrder _ requestId => some requestId
  | _ => none

/-- Instructions that FIX has no code for. -/
def Inexpressible (executionInstructions : List ExecutionInstruction) : Prop :=
  executionInstructions ≠ [] ∧ .participateDoNotInitiate ∉ executionInstructions ∧
    .doNotIncrease ∉ executionInstructions

/-- A filter that no mass cancel request selects. -/
def Unselectable (filter : List Filter) : Prop :=
  filter ≠ [] ∧ ¬(.symbol ∈ filter ∧ ∀ flag ∈ filter, flag = .exchange ∨ flag = .symbol)

/-- An action that the stream has no message for. -/
def Event.Unsupported (env : Env) : Event → Prop
  | .createOrder value _ _ =>
    value.stopPrice.isSome ∨ value.maxShowQuantity.isSome ∨
      Inexpressible value.executionInstructions
  | .cancelAllOrders value _ => Unselectable ((env.createFilter value).filter (· ≠ .account))
  | _ => False

theorem mapExecutionInstructions_cases (executionInstructions : List ExecutionInstruction) :
    (Inexpressible executionInstructions ∧
      ∃ e, mapExecutionInstructions executionInstructions = .error e) ∨
    (¬Inexpressible executionInstructions ∧
      ∃ execInst, mapExecutionInstructions executionInstructions = .ok execInst) := by
  unfold mapExecutionInstructions Inexpressible
  cases executionInstructions with
  | nil => exact .inr ⟨fun h => h.1 rfl, _, rfl⟩
  | cons x xs =>
    simp only [List.isEmpty_cons, Bool.false_eq_true, if_false]
    split_ifs with hpost hreduce
    · exact .inr ⟨fun h => h.2.1 hpost, _, rfl⟩
    · exact .inr ⟨fun h => h.2.2 hreduce, _, rfl⟩
    · exact .inl ⟨⟨by simp, hpost, hreduce⟩, _, rfl⟩

theorem massCancelRequestType_cases (filter : List Filter) :
    (Unselectable filter ∧ ∃ e, massCancelRequestType filter = .error e) ∨
    (¬Unselectable filter ∧ ∃ type, massCancelRequestType filter = .ok type) := by
  unfold massCancelRequestType Unselectable
  cases filter with
  | nil => exact .inr ⟨fun h => h.1 rfl, _, rfl⟩
  | cons x xs =>
    simp only [List.isEmpty_cons, Bool.false_eq_true, if_false]
    split_ifs with h
    · exact .inr ⟨fun h' => h'.2 h, _, rfl⟩
    · exact .inl ⟨⟨by simp, h⟩, _, rfl⟩

/-- The state behind an action that has been sent. -/
def acted (action : Event) (o : OrderEntry D) : OrderEntry D :=
  { o with
    outbound := o.outbound + 1
    msgSeqNumToRequestId :=
      match action.orderRequest with
      | some requestId => emplace o.msgSeqNumToRequestId (o.outbound + 1) requestId
      | none => o.msgSeqNumToRequestId }

/-- What an action that has been sent puts out: the message, for a mass cancel also the
    acknowledgement, and the stream id. -/
def ActedOutputs (env : Env) (ctx : Context) (o : OrderEntry D) (action : Event)
    (os : List Output) : Prop :=
  ∃ message acks, os = .sent (o.outbound + 1) message (ctx.queued (o.outbound + 1)) ::
      acks ++ [.returned env.streamId] ∧
    ∀ a ∈ acks, action.orderRequest = none ∧ ∃ ack : CancelAllOrdersAck,
      a = .cancelAllOrdersAck ack ∧ ack.requestStatus = .forwarded

theorem forward_outputs {action : Event} (message : Fix.Outbound) :
    ActedOutputs env ctx o action
      [.sent (o.outbound + 1) message (ctx.queued (o.outbound + 1)), .returned env.streamId] :=
  ⟨message, [], rfl, by simp⟩

theorem forward_acted {action : Event} {requestId : String} (message : Fix.Outbound)
    (h : action.orderRequest = some requestId) :
    goesOn (forward env ctx message requestId o) = (some (o.acted action),
      [.sent (o.outbound + 1) message (ctx.queued (o.outbound + 1)), .returned env.streamId]) := by
  simp [goesOn, forward, acted, h]

variable [Download2 D]

/-- **The order actions.** -/
theorem step_action (env : Env) (ctx : Context) (o : OrderEntry D) {action : Event}
    (h : action.IsAction) :
    ((o.ready = false ∨ action.Unsupported env) ∧
      ∃ e, step env o (ctx, action) = (some o, [.threw e])) ∨
    (o.ready = true ∧ ¬action.Unsupported env ∧ ∃ os,
      step env o (ctx, action) = (some (o.acted action), os) ∧
        ActedOutputs env ctx o action os) := by
  cases hready : o.ready with
  | false =>
    refine .inl ⟨.inl rfl, .notReady "not ready", ?_⟩
    cases action <;>
      simp_all [step, createOrder, modifyOrder, cancelOrder, cancelAllOrders, orThrow,
        Event.IsAction]
  | true =>
    cases action with
    | createOrder value refData requestId =>
      simp only [step, createOrder, hready, Bool.not_true, Bool.false_eq_true, if_false,
        Event.Unsupported]
      -- the checks, in the order of the source
      split_ifs with hstop hshow
      · exact .inl ⟨.inr (.inl hstop), _, rfl⟩
      · exact .inl ⟨.inr (.inr (.inl hshow)), _, rfl⟩
      · obtain ⟨hinst, e, he⟩ | ⟨hinst, execInst, he⟩ :=
          mapExecutionInstructions_cases value.executionInstructions
        · exact .inl ⟨.inr (.inr (.inr hinst)), e, by rw [he]; rfl⟩
        · have hsupported : ¬(Event.createOrder value refData requestId).Unsupported env := by
            simp [Event.Unsupported, hstop, hshow, hinst]
          rw [he]
          exact .inr ⟨trivial, hsupported, _, forward_acted _ rfl, forward_outputs _⟩
    | modifyOrder value order refData requestId =>
      simp only [step, modifyOrder, hready, Bool.not_true, Bool.false_eq_true, if_false]
      exact .inr ⟨trivial, id, _, forward_acted _ rfl, forward_outputs _⟩
    | cancelOrder order requestId =>
      simp only [step, cancelOrder, hready, Bool.not_true, Bool.false_eq_true, if_false]
      exact .inr ⟨trivial, id, _, forward_acted _ rfl, forward_outputs _⟩
    | cancelAllOrders value requestId =>
      simp only [step, cancelAllOrders, hready, Bool.not_true, Bool.false_eq_true, if_false,
        Event.Unsupported]
      obtain ⟨hfilter, e, he⟩ | ⟨hfilter, type, he⟩ :=
        massCancelRequestType_cases ((env.createFilter value).filter (· ≠ .account))
      · exact .inl ⟨.inr hfilter, e, by rw [he]; rfl⟩
      · -- acknowledged whatever the connection has answered
        refine .inr ⟨trivial, hfilter, _, by rw [he]; rfl, _, [_], rfl, ?_⟩
        intro a ha
        exact ⟨rfl, _, List.mem_singleton.mp ha, rfl⟩
    | _ => exact h.elim

/-! ## Request ids and sequence numbers -/

/-- The request ids stay, and no sequence number is taken back. -/
structure Keeps (o o' : OrderEntry D) : Prop where
  requests : o'.msgSeqNumToRequestId = o.msgSeqNumToRequestId
  outbound : o.outbound ≤ o'.outbound

omit [Download2 D] in
theorem Keeps.refl (o : OrderEntry D) : Keeps o o := ⟨rfl, le_rfl⟩

omit [Download2 D] in
theorem Keeps.trans {o' o'' : OrderEntry D} (h : Keeps o o') (h' : Keeps o' o'') :
    Keeps o o'' :=
  ⟨h'.requests.trans h.requests, h.outbound.trans h'.outbound⟩

omit [Download2 D] in
theorem downloadState_keeps (s : State) : Keeps o (downloadState env ctx o s).1 := by
  cases s with
  | undefined => exact Keeps.refl o
  | positions => exact ⟨rfl, Nat.le_succ _⟩
  | orders => exact ⟨rfl, Nat.le_succ _⟩
  | done => exact ⟨rfl, le_rfl⟩

omit [Download2 D] in
theorem enter_keeps (states : List State) : Keeps o (enter env ctx states o).1 := by
  induction states generalizing o ctx with
  | nil => exact Keeps.refl o
  | cons s states ih => exact (downloadState_keeps s).trans ih

omit [Download2 D] in
theorem advance_keeps (r : D × List State) : Keeps o (advance env ctx r o).1 := by
  have h : Keeps o { o with download := r.1 } := ⟨rfl, le_rfl⟩
  exact h.trans (enter_keeps r.2)

omit [Download2 D] in
/-- The timer does nothing to the state, or probes the session, or logs on. -/
theorem timer_cases (env : Env) (ctx : Context) (o : OrderEntry D) (now : ℤ) :
    (timer env ctx now o).1 = o ∨
    timer env ctx now o =
      sendTestRequest env ctx { o with nextHeartbeat := now + env.pingFreq } ∨
    (o.ready_ = false ∧ timer env ctx now o =
      (sendLogon env ctx { o with testLogonTime := 0 }).andThen (publish env .loginSent "")) := by
  unfold timer
  split_ifs with _ _ hready
  · exact .inl rfl
  · exact .inl rfl
  · exact .inl rfl
  · exact .inr (.inl rfl)
  · exact .inl rfl
  · exact .inr (.inr ⟨Bool.eq_false_iff.mpr hready, rfl⟩)
  · exact .inl rfl
  · exact .inl rfl

omit [Download2 D] in
theorem sendTestRequest_cases (env : Env) (ctx : Context) (o : OrderEntry D) :
    ∃ last : ℤ, (sendTestRequest env ctx o).1 =
      { o with outbound := o.outbound + 1, lastLogonOrHeartbeat := last } := by
  by_cases h : o.lastLogonOrHeartbeat = 0
  · exact ⟨ctx.now, by simp [sendTestRequest, h]⟩
  · exact ⟨o.lastLogonOrHeartbeat, by simp [sendTestRequest, h]⟩

omit [Download2 D] in
theorem timer_keeps (now : ℤ) : Keeps o (timer env ctx now o).1 := by
  obtain h | h | ⟨_, h⟩ := timer_cases env ctx o now
  · rw [h]
    exact Keeps.refl o
  · obtain ⟨last, hs⟩ := sendTestRequest_cases env ctx
      { o with nextHeartbeat := now + env.pingFreq }
    rw [h, hs]
    exact ⟨rfl, Nat.le_succ _⟩
  · rw [h]
    exact ⟨rfl, Nat.le_succ _⟩

omit [Download2 D] in
theorem heartbeat_state {testReqId : String} {e : Effect D}
    (h : heartbeat env ctx testReqId o = some e) : e.1 = { o with lastLogonOrHeartbeat := 0 } := by
  unfold heartbeat at h
  by_cases ht : testReqId = ""
  · rw [if_pos ht] at h
    obtain rfl := Option.some.inj h
    rfl
  · rw [if_neg ht] at h
    obtain ⟨_, _, rfl⟩ := Option.map_eq_some_iff.mp h
    rfl

theorem executionReport_keeps {header : Fix.Header} {r : Fix.ExecutionReport} {e : Effect D}
    (h : executionReport env ctx header r o = some e) : Keeps o e.1 := by
  unfold executionReport at h
  split at h
  · split_ifs at h
    · obtain rfl := Option.some.inj h
      exact Keeps.refl o
    · obtain rfl := Option.some.inj h
      exact advance_keeps _
  · obtain rfl := Option.some.inj h
    exact advance_keeps _
  · cases h

omit [Download2 D] in
theorem reject_state {r : Fix.Reject} {e : Effect D} (h : reject r o = some e) : e.1 = o := by
  unfold reject at h
  simp only at h
  split_ifs at h
  · split at h <;> obtain rfl := Option.some.inj h <;> rfl
  · obtain rfl := Option.some.inj h
    rfl
  · obtain rfl := Option.some.inj h
    rfl

theorem heartbeat_next {header : Fix.Header} {testReqId : String} {o' : OrderEntry D}
    (h : (parseHelper env ctx header o (.heartbeat testReqId)).1 = some o') :
    o' = { o with lastLogonOrHeartbeat := 0 } := by
  simp only [parseHelper] at h
  cases hr : heartbeat env ctx testReqId o with
  | none =>
    rw [hr] at h
    split_ifs at h
    exact (Option.some.inj h).symm
  | some e =>
    rw [hr] at h
    obtain rfl := Option.some.inj h
    exact heartbeat_state hr

theorem reject_next {header : Fix.Header} {r : Fix.Reject} {o' : OrderEntry D}
    (h : (parseHelper env ctx header o (.reject r)).1 = some o') : o' = o := by
  simp only [parseHelper] at h
  cases hr : reject r o with
  | none => rw [hr] at h; cases h
  | some e =>
    rw [hr] at h
    obtain rfl := Option.some.inj h
    exact reject_state hr

theorem parseHelper_keeps {header : Fix.Header} {value : Fix.Inbound} {o' : OrderEntry D}
    (h : (parseHelper env ctx header o value).1 = some o') : Keeps o o' := by
  cases value with
  | heartbeat testReqId =>
    rw [heartbeat_next h]
    exact ⟨rfl, le_rfl⟩
  | logon =>
    obtain rfl := Option.some.inj h
    have hreset : Keeps o { o with lastLogonOrHeartbeat := 0 } := ⟨rfl, le_rfl⟩
    exact hreset.trans (advance_keeps _)
  | positionReport noPositions =>
    obtain rfl := Option.some.inj h
    exact advance_keeps _
  | executionReport r =>
    simp only [parseHelper] at h
    cases hr : executionReport env ctx header r o with
    | none => rw [hr] at h; cases h
    | some e =>
      rw [hr] at h
      obtain rfl := Option.some.inj h
      exact executionReport_keeps hr
  | reject r =>
    rw [reject_next h]
    exact Keeps.refl o
  | logout =>
    obtain rfl := Option.some.inj h
    exact ⟨rfl, Nat.le_succ _⟩
  | testRequest testReqId =>
    obtain rfl := Option.some.inj h
    exact ⟨rfl, Nat.le_succ _⟩
  | _ =>
    obtain rfl := Option.some.inj h
    exact Keeps.refl o

/-- **No other step touches the request ids.** -/
theorem step_keeps {event : Event} {o' : OrderEntry D} (haction : ¬event.IsAction)
    (hdisconnected : event ≠ .disconnected) (h : (step env o (ctx, event)).1 = some o') :
    Keeps o o' := by
  cases event with
  | timer now =>
    obtain rfl := Option.some.inj h
    exact timer_keeps now
  | connected =>
    obtain rfl := Option.some.inj h
    exact ⟨rfl, le_rfl⟩
  | disconnected => exact absurd rfl hdisconnected
  | message header value =>
    have hcheck : Keeps o (check header o) := ⟨rfl, le_rfl⟩
    exact hcheck.trans (parseHelper_keeps h)
  | _ => exact absurd trivial haction

/-! ## Log-on and download -/

/-- The log-on and the download are where they were; at most a log-on has been sent. -/
structure Undisturbed (o o' : OrderEntry D) : Prop where
  ready_ : o'.ready_ = o.ready_
  download : o'.download = o.download
  status : o'.connectionStatus = o.connectionStatus ∨
    (o.ready_ = false ∧ o'.connectionStatus = .loginSent)

omit [Download2 D] in
theorem Undisturbed.refl (o : OrderEntry D) : Undisturbed o o := ⟨rfl, rfl, .inl rfl⟩

omit [Download2 D] in
theorem Undisturbed.not_ready {o' : OrderEntry D} (h : Undisturbed o o')
    (hstatus : o.connectionStatus ≠ .ready) : o'.connectionStatus ≠ .ready := by
  obtain hsame | ⟨-, hsent⟩ := h.status
  · rw [hsame]
    exact hstatus
  · rw [hsent]
    exact nofun

/-- Events that are no part of the log-on, the download or the end of a session. -/
def Event.IsQuiet : Event → Prop
  | .connected => False
  | .disconnected => False
  | .message _ .logon => False
  | .message _ .logout => False
  | .message _ (.positionReport _) => False
  | .message _ (.executionReport _) => False
  | _ => True

omit [Download2 D] in
theorem timer_undisturbed (now : ℤ) : Undisturbed o (timer env ctx now o).1 := by
  obtain ht | ht | ⟨hready, ht⟩ := timer_cases env ctx o now
  · rw [ht]
    exact Undisturbed.refl o
  · obtain ⟨last, hs⟩ := sendTestRequest_cases env ctx
      { o with nextHeartbeat := now + env.pingFreq }
    rw [ht, hs]
    exact ⟨rfl, rfl, .inl rfl⟩
  · rw [ht]
    exact ⟨rfl, rfl, .inr ⟨hready, rfl⟩⟩

/-- **A quiet step** leaves the log-on and the download undisturbed. -/
theorem step_quiet {event : Event} {o' : OrderEntry D} (hquiet : event.IsQuiet)
    (h : (step env o (ctx, event)).1 = some o') : Undisturbed o o' := by
  by_cases haction : event.IsAction
  · obtain ⟨_, e, hs⟩ | ⟨_, _, os, hs, _⟩ := step_action env ctx o haction
    · rw [hs] at h
      obtain rfl := Option.some.inj h
      exact Undisturbed.refl o
    · rw [hs] at h
      obtain rfl := Option.some.inj h
      exact ⟨rfl, rfl, .inl rfl⟩
  · cases event with
    | timer now =>
      obtain rfl := Option.some.inj h
      exact timer_undisturbed now
    | message header value =>
      change (parseHelper env ctx header (check header o) value).1 = some o' at h
      cases value with
      | heartbeat testReqId =>
        rw [heartbeat_next h]
        exact ⟨rfl, rfl, .inl rfl⟩
      | reject r =>
        rw [reject_next h]
        exact ⟨rfl, rfl, .inl rfl⟩
      | logon => exact hquiet.elim
      | logout => exact hquiet.elim
      | positionReport noPositions => exact hquiet.elim
      | executionReport r => exact hquiet.elim
      | _ =>
        obtain rfl := Option.some.inj h
        exact ⟨rfl, rfl, .inl rfl⟩
    | connected => exact hquiet.elim
    | disconnected => exact hquiet.elim
    | _ => exact absurd trivial haction

end OrderEntry

end DeribitGateway
