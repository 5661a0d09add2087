import DeribitGateway.Fix.Numbering

/-!
# Sessions open with a log-on

The counterparty drops a session whose first message is no log-on, or that logs on again. Both
FIX streams keep to that (`sessions_open_with_logon`): in a session the message numbered one is
a log-on, and no other message is one.

The market data stream logs on as soon as it is connected. The order entry stream has the timer
do so, and could be called for an order, by the timer or by a message before. What is assumed is
that the connection is made once in a session, and that the counterparty waits for the log-on.
-/

namespace DeribitGateway

open Transducer Numbering

namespace OrderEntry

variable {D : Type} {env : Env} {ctx : Context} {o o' : OrderEntry D}

def IsLogon : Fix.Outbound → Prop
  | .logon _ => True
  | _ => False

/-- A message is numbered one exactly if it is a log-on. -/
def Output.Opens : Output → Prop
  | .sent msgSeqNum message _ => IsLogon message ↔ msgSeqNum = 1
  | _ => True

/-- The connection is made before anything is sent, and messages come behind. -/
def Proper (o : OrderEntry D) (i : Context × Event) : Prop :=
  match i.2 with
  | .connected => o.outbound = 0
  | .message _ _ => o.outbound ≠ 0
  | _ => True

instance (o : OrderEntry D) (i : Context × Event) : Decidable (Proper o i) := by
  unfold Proper
  split <;> infer_instance

/-- As long as nothing has been sent nothing is ready, and behind the log-on none is due. -/
structure Session (o : OrderEntry D) : Prop where
  ready_ : o.outbound = 0 → o.ready_ = false
  ready : o.outbound = 0 → o.ready = false
  testLogonTime : o.outbound ≠ 0 → o.testLogonTime = 0

/-- A session that is open stays so, without another log-on. -/
def Speaks (o : OrderEntry D) (os : List Output) (o' : OrderEntry D) : Prop :=
  o.outbound ≠ 0 → o'.outbound ≠ 0 ∧ ∀ x ∈ os, x.Opens

theorem composes_speaks :
    Emission.Composes (Speaks : OrderEntry D → List Output → OrderEntry D → Prop) where
  refl _ ho := ⟨ho, fun _ hx => absurd hx List.not_mem_nil⟩
  trans h h' ho := by
    obtain ⟨hmid, hfirst⟩ := h ho
    obtain ⟨hend, hrest⟩ := h' hmid
    exact ⟨hend, fun x hx => (List.mem_append.mp hx).elim (hfirst x) (hrest x)⟩

/-- Behind the first one, messages that are no log-on. -/
theorem send_speaks {message : Fix.Outbound} (h : ¬IsLogon message) :
    Emission.Meets Speaks (send ctx message : OrderEntry D → Effect D) := by
  intro o ho
  refine ⟨Nat.succ_ne_zero _, ?_⟩
  intro x hx
  obtain rfl := List.mem_singleton.mp hx
  constructor
  · exact fun hlogon => absurd hlogon h
  · exact fun hone => absurd (Nat.succ_injective hone) ho

theorem speaks_tolerates (ctx : Context) :
    Tolerates ctx (Speaks : OrderEntry D → List Output → OrderEntry D → Prop) where
  composes := composes_speaks
  frame _ _ hout _ ho := ⟨hout ▸ ho, fun _ hx => absurd hx List.not_mem_nil⟩
  report o x hx ho := by
    refine ⟨ho, ?_⟩
    intro y hy
    obtain rfl := List.mem_singleton.mp hy
    cases y with
    | sent msgSeqNum message queued => exact absurd trivial hx
    | _ => trivial
  send message hprobe := by
    apply send_speaks
    intro hlogon
    cases message with
    | logon value => exact hprobe trivial
    | _ => exact hlogon

theorem sendTestRequest_speaks :
    Emission.Meets Speaks (sendTestRequest env ctx : OrderEntry D → Effect D) := by
  intro o
  apply (speaks_tolerates ctx).andThen (send_speaks id o)
  intro o' ho
  refine ⟨?_, fun _ hx => absurd hx List.not_mem_nil⟩
  simp only
  split_ifs
  · exact ho
  · exact ho

/-! ## No other log-on is due -/

theorem enter_testLogonTime (states : List State) (o : OrderEntry D) :
    (enter env ctx states o).1.testLogonTime = o.testLogonTime := by
  induction states generalizing o ctx with
  | nil => rfl
  | cons s states ih =>
    refine (ih _).trans ?_
    cases s with
    | _ => rfl

theorem advance_testLogonTime (r : D × List State) (o : OrderEntry D) :
    (advance env ctx r o).1.testLogonTime = o.testLogonTime :=
  enter_testLogonTime r.2 _

variable [Download2 D]

theorem executionReport_testLogonTime {header : Fix.Header} {r : Fix.ExecutionReport}
    {e : Effect D} (h : executionReport env ctx header r o = some e) :
    e.1.testLogonTime = o.testLogonTime := by
  unfold executionReport at h
  split at h
  · split_ifs at h
    · obtain rfl := Option.some.inj h
      rfl
    · obtain rfl := Option.some.inj h
      exact advance_testLogonTime _ _
  · obtain rfl := Option.some.inj h
    exact advance_testLogonTime _ _
  · cases h

theorem parseHelper_testLogonTime {header : Fix.Header} {value : Fix.Inbound}
    (h : (parseHelper env ctx header o value).1 = some o') :
    o'.testLogonTime = o.testLogonTime := by
  cases value with
  | heartbeat testReqId => rw [heartbeat_next h]
  | reject r => rw [reject_next h]
  | logon =>
    obtain rfl := Option.some.inj h
    exact advance_testLogonTime _ _
  | positionReport noPositions =>
    obtain rfl := Option.some.inj h
    exact advance_testLogonTime _ _
  | executionReport r =>
    simp only [parseHelper] at h
    cases hr : executionReport env ctx header r o with
    | none =>
      rw [hr] at h
      cases h
    | some e =>
      rw [hr] at h
      obtain rfl := Option.some.inj h
      exact executionReport_testLogonTime hr
  | _ =>
    obtain rfl := Option.some.inj h
    rfl

/-! ## Steps -/

omit [Download2 D] in
/-- Before the log-on the timer sends nothing but the log-on. -/
theorem timer_opens (env : Env) (ctx : Context) (h : Session o) (hout : o.outbound = 0) (now : ℤ) :
    Session (timer env ctx now o).1 ∧ ∀ x ∈ (timer env ctx now o).2, x.Opens := by
  have hstays (os : List Output) (hos : os = [] ∨ os = [.closed]) :
      Session o ∧ ∀ x ∈ os, x.Opens := by
    refine ⟨h, ?_⟩
    intro x hx
    obtain rfl | rfl := hos
    · cases hx
    · obtain rfl := List.mem_singleton.mp hx
      trivial
  unfold timer
  simp only [h.ready_ hout, Bool.false_eq_true, if_false]
  split_ifs
  · exact hstays _ (.inr rfl)
  · -- the log-on is the first message
    refine ⟨⟨nofun, nofun, fun _ => rfl⟩, ?_⟩
    intro x hx
    simp only [sendLogon, send, publish, Effect.andThen, List.append_nil, List.mem_append,
      List.mem_singleton] at hx
    obtain rfl | rfl := hx
    · constructor
      · exact fun _ => congrArg Nat.succ hout
      · exact fun _ => trivial
    · trivial
  · exact hstays _ (.inl rfl)
  · exact hstays _ (.inl rfl)

omit [Download2 D] in
/-- Behind the log-on the timer sends test requests. -/
theorem timer_speaks (env : Env) (ctx : Context) (h : o.testLogonTime = 0) (now : ℤ) :
    Speaks o (timer env ctx now o).2 (timer env ctx now o).1 ∧
      (timer env ctx now o).1.testLogonTime = 0 := by
  have hclosed : Speaks o [.closed] o := (speaks_tolerates ctx).report _ _ id
  have hstays : Speaks o [] o := composes_speaks.refl o
  have hdue : ¬(o.testLogonTime ≠ 0 ∧ o.testLogonTime < now) := fun hdue => hdue.1 h
  unfold timer
  rw [if_neg hdue]
  split_ifs
  · exact ⟨hclosed, h⟩
  · exact ⟨hclosed, h⟩
  · exact ⟨hstays, h⟩
  · have hstart : Speaks o [] { o with nextHeartbeat := now + env.pingFreq } :=
      (speaks_tolerates ctx).frame _ _ rfl rfl
    refine ⟨composes_speaks.after hstart (sendTestRequest_speaks _), ?_⟩
    obtain ⟨last, hs⟩ := sendTestRequest_cases env ctx
      { o with nextHeartbeat := now + env.pingFreq }
    rw [hs]
    exact h
  · exact ⟨hstays, h⟩
  · exact ⟨hstays, h⟩
  · exact ⟨hstays, h⟩

/-- A message that is received in an open session. -/
theorem message_speaks (env : Env) (ctx : Context) (o : OrderEntry D) (header : Fix.Header)
    (value : Fix.Inbound) : step env o (ctx, .message header value) = (none, []) ∨
    ∃ o', (step env o (ctx, .message header value)).1 = some o' ∧
      Speaks o (step env o (ctx, .message header value)).2 o' := by
  have hR := speaks_tolerates (D := D) ctx
  have hcheck : Speaks o [] (check header o) := hR.frame _ _ rfl rfl
  by_cases hclears : Clears value
  · cases value with
    | heartbeat testReqId =>
      simp only [step, parseHelper]
      cases hr : heartbeat env ctx testReqId (check header o) with
      | none =>
        simp only
        split_ifs
        · exact .inr ⟨_, rfl, fun ho => ⟨ho, fun _ hx => absurd hx List.not_mem_nil⟩⟩
        · exact .inl rfl
      | some e =>
        refine .inr ⟨_, rfl, ?_⟩
        intro ho
        rw [heartbeat_state hr]
        refine ⟨ho, ?_⟩
        intro x hx
        unfold heartbeat at hr
        split_ifs at hr
        · obtain rfl := Option.some.inj hr
          cases hx
        · obtain ⟨_, -, rfl⟩ := Option.map_eq_some_iff.mp hr
          obtain rfl := List.mem_singleton.mp hx
          trivial
    | logon =>
      have hanswered : Speaks o [] { check header o with lastLogonOrHeartbeat := 0 } :=
        fun ho => ⟨ho, fun _ hx => absurd hx List.not_mem_nil⟩
      exact .inr ⟨_, rfl, composes_speaks.after hanswered (hR.advance _ _)⟩
    | _ => exact hclears.elim
  · exact hR.message header hclears

/-- **The step lemma.** -/
theorem session_step {i : Context × Event} (h : Session o) (hi : ¬i.2.EndsSession)
    (hproper : Proper o i) :
    (∀ o', (step env o i).1 = some o' → Session o') ∧ ∀ x ∈ (step env o i).2, x.Opens := by
  obtain ⟨ctx, event⟩ := i
  by_cases haction : event.IsAction
  · obtain ⟨-, e, hs⟩ | ⟨hready, -, os, hs, -⟩ := step_action env ctx o haction
    · rw [hs]
      refine ⟨fun o' ho => Option.some.inj ho ▸ h, ?_⟩
      intro x hx
      obtain rfl := List.mem_singleton.mp hx
      trivial
    · have hout : o.outbound ≠ 0 := by
        intro hout
        rw [h.ready hout] at hready
        cases hready
      obtain ⟨o', ho', hspeaks⟩ : ∃ o', (step env o (ctx, event)).1 = some o' ∧
          Speaks o (step env o (ctx, event)).2 o' := (speaks_tolerates ctx).action o haction
      rw [hs] at ho' hspeaks ⊢
      refine ⟨?_, (hspeaks hout).2⟩
      intro o'' ho''
      obtain rfl := Option.some.inj ho''
      exact ⟨nofun, nofun, fun _ => h.testLogonTime hout⟩
  · by_cases hout : o.outbound = 0
    · cases event with
      | timer now =>
        obtain ⟨hnext, hos⟩ := timer_opens env ctx h hout now
        exact ⟨fun o' ho => Option.some.inj ho ▸ hnext, hos⟩
      | connected =>
        refine ⟨?_, fun _ hx => absurd hx List.not_mem_nil⟩
        intro o' ho
        obtain rfl := Option.some.inj ho
        exact ⟨h.ready_, h.ready, fun hne => absurd hout hne⟩
      | disconnected => exact absurd trivial hi
      | message header value => exact absurd hout hproper
      | _ => exact absurd trivial haction
    · have hdue := h.testLogonTime hout
      cases event with
      | timer now =>
        obtain ⟨hspeaks, hlast⟩ := timer_speaks env ctx hdue now
        obtain ⟨hopen, hos⟩ := hspeaks hout
        refine ⟨?_, hos⟩
        intro o' ho
        obtain rfl := Option.some.inj ho
        exact ⟨fun hzero => absurd hzero hopen, fun hzero => absurd hzero hopen, fun _ => hlast⟩
      | connected => exact absurd hproper hout
      | disconnected => exact absurd trivial hi
      | message header value =>
        obtain hended | ⟨o', ho', hspeaks⟩ := message_speaks env ctx o header value
        · rw [hended]
          exact ⟨nofun, fun _ hx => absurd hx List.not_mem_nil⟩
        · obtain ⟨hopen, hos⟩ := hspeaks hout
          refine ⟨?_, hos⟩
          intro o'' ho''
          rw [ho'] at ho''
          obtain rfl := Option.some.inj ho''
          have hlast : o'.testLogonTime = (check header o).testLogonTime :=
            parseHelper_testLogonTime ho'
          exact ⟨fun hzero => absurd hzero hopen, fun hzero => absurd hzero hopen,
            fun _ => hlast.trans hdue⟩
      | _ => exact absurd trivial haction

/-- A session begins with nothing sent. -/
theorem session_opens {before : List (Context × Event)}
    (hopens : Numbering.Opens (fun i : Context × Event => i.2.EndsSession) before)
    (h : (run (step env) (initial : OrderEntry D) before).1 = some o) : Session o := by
  obtain rfl | ⟨before, ⟨ctx, event⟩, rfl, hends⟩ := hopens
  · obtain rfl := Option.some.inj h
    exact ⟨fun _ => rfl, fun _ => rfl, fun hne => absurd rfl hne⟩
  · obtain ⟨t, -, ht⟩ := run_append_single h
    cases event with
    | disconnected =>
      obtain rfl := Option.some.inj ht
      exact ⟨fun _ => rfl, fun _ => rfl, fun hne => absurd rfl hne⟩
    | _ => exact hends.elim

end OrderEntry

namespace MarketData

open StagedDownload

variable {D Y : Type} {env : Env} {ctx : Context Y} {o : MarketData D}

def IsLogon : Fix.MDOutbound → Prop
  | .logon _ => True
  | _ => False

/-- A message is numbered one exactly if it is a log-on. -/
def Output.Opens : Output → Prop
  | .sent msgSeqNum message _ => IsLogon message ↔ msgSeqNum = 1
  | _ => True

/-- The connection is made before anything is sent, and messages come behind. -/
def Proper (o : MarketData D) (i : Context Y × Event) : Prop :=
  match i.2 with
  | .connected => o.outbound = 0
  | .message _ _ => o.outbound ≠ 0
  | _ => True

instance (o : MarketData D) (i : Context Y × Event) : Decidable (Proper o i) := by
  unfold Proper
  split <;> infer_instance

/-- As long as nothing has been sent nothing is ready. -/
structure Session (o : MarketData D) : Prop where
  ready_ : o.outbound = 0 → o.ready_ = false
  status : o.outbound = 0 → o.connectionStatus ≠ .ready

theorem Session.of_open (h : o.outbound ≠ 0) : Session o :=
  ⟨fun hzero => absurd hzero h, fun hzero => absurd hzero h⟩

/-- A session that is open stays so, without another log-on. -/
def Speaks (s : MarketData D × SharedState Y) (os : List Output)
    (t : MarketData D × SharedState Y) : Prop :=
  s.1.outbound ≠ 0 → t.1.outbound ≠ 0 ∧ ∀ x ∈ os, x.Opens

theorem opens_of_not_sent {x : Output} (h : ¬x.IsSent) : x.Opens := by
  cases x with
  | sent msgSeqNum message queued => exact absurd trivial h
  | _ => trivial

/-- Behind the first one, messages that are no log-on. -/
theorem send_speaks {message : Fix.MDOutbound} (h : ¬IsLogon message) :
    Emission.Meets Speaks (send ctx message : Handler D Y) := by
  intro s hs
  refine ⟨Nat.succ_ne_zero _, ?_⟩
  intro x hx
  obtain rfl := List.mem_singleton.mp hx
  constructor
  · exact fun hlogon => absurd hlogon h
  · exact fun hone => absurd (Nat.succ_injective hone) hs

theorem speaks_ignores (ctx : Context Y) :
    Ignores ctx (Speaks : MarketData D × SharedState Y → List Output → _ → Prop) where
  composes := {
    refl := fun _ hs => ⟨hs, fun _ hx => absurd hx List.not_mem_nil⟩
    trans := by
      intro s t u os os' h h' hs
      obtain ⟨hmid, hfirst⟩ := h hs
      obtain ⟨hend, hrest⟩ := h' hmid
      exact ⟨hend, fun x hx => (List.mem_append.mp hx).elim (hfirst x) (hrest x)⟩ }
  frame _ _ hout _ hs := ⟨hout ▸ hs, fun _ hx => absurd hx List.not_mem_nil⟩
  report s x hx hs := by
    refine ⟨hs, ?_⟩
    intro y hy
    obtain rfl := List.mem_singleton.mp hy
    exact opens_of_not_sent hx
  send message hprobe := by
    apply send_speaks
    intro hlogon
    cases message with
    | logon value => exact hprobe trivial
    | _ => exact hlogon

theorem sendTestRequest_speaks :
    Emission.Meets Speaks (sendTestRequest env ctx : Handler D Y) := by
  apply (speaks_ignores ctx).composes.seq (send_speaks id)
  intro s hs
  refine ⟨?_, fun _ hx => absurd hx List.not_mem_nil⟩
  simp only [set, Emission.modify_apply]
  split_ifs
  · exact hs
  · exact hs

/-! ## Steps -/

/-- The log-on is the first message. -/
theorem connected_opens (env : Env) (ctx : Context Y) {s : MarketData D × SharedState Y}
    (hout : s.1.outbound = 0) :
    (connected env ctx s).1.1.outbound ≠ 0 ∧ ∀ x ∈ (connected env ctx s).2, x.Opens := by
  refine ⟨Nat.succ_ne_zero _, ?_⟩
  intro x hx
  simp only [connected, sendLogon, set, send, publish, Emission.seq, Emission.modify,
    List.append_nil, List.mem_append, List.mem_singleton] at hx
  obtain rfl | rfl := hx
  · constructor
    · exact fun _ => congrArg Nat.succ hout
    · exact fun _ => trivial
  · trivial

variable [Symbols Y] [Download State D]

/-- A call in an open session. -/
theorem call_speaks {event : Event} (hconnected : event ≠ .connected)
    (hdisconnected : event ≠ .disconnected) {s : MarketData D × SharedState Y}
    {r : (MarketData D × SharedState Y) × List Output} (h : call env ctx event s = some r) :
    Speaks s r.2 r.1 := by
  have hQ := speaks_ignores (D := D) ctx
  cases event with
  | timer now =>
    obtain rfl := Option.some.inj h
    exact hQ.tolerates.timer sendTestRequest_speaks now s
  | subscribe startFrom =>
    obtain rfl := Option.some.inj h
    exact hQ.tolerates.subscribe startFrom s
  | connected => exact absurd rfl hconnected
  | disconnected => exact absurd rfl hdisconnected
  | message header value =>
    have hparsed : parseHelper env ctx header value (check header s.1, s.2) = some r := h
    have hcheck : Speaks s [] (check header s.1, s.2) := hQ.frame _ _ rfl rfl
    cases value with
    | heartbeat testReqId =>
      have hheard : heartbeat env ctx testReqId (check header s.1, s.2) = some r := hparsed
      obtain ⟨hnext, hsilent⟩ := heartbeat_next hheard
      intro hs
      rw [hnext]
      exact ⟨hs, fun x hx => opens_of_not_sent (hsilent x hx)⟩
    | _ =>
      refine hQ.composes.after hcheck (hQ.parseHelper ?_ hparsed)
      exact fun _ => nofun

/-- Before the log-on nothing is sent but the log-on. -/
theorem call_opens {event : Event} (hdisconnected : event ≠ .disconnected)
    (hmessage : ∀ header value, event ≠ .message header value)
    {s : MarketData D × SharedState Y} (hs : Session s.1) (hout : s.1.outbound = 0)
    {r : (MarketData D × SharedState Y) × List Output} (h : call env ctx event s = some r) :
    Session r.1.1 ∧ ∀ x ∈ r.2, x.Opens := by
  obtain ⟨o, shared⟩ := s
  cases event with
  | timer now =>
    obtain rfl := Option.some.inj h
    simp only [timer, if_neg (hs.status hout)]
    split_ifs
    · refine ⟨hs, ?_⟩
      intro x hx
      obtain rfl := List.mem_singleton.mp hx
      trivial
    · exact ⟨hs, fun _ hx => absurd hx List.not_mem_nil⟩
    · exact ⟨hs, fun _ hx => absurd hx List.not_mem_nil⟩
  | subscribe startFrom =>
    obtain rfl := Option.some.inj h
    have hready : ¬o.ready = true := by
      rw [MarketData.ready, hs.ready_ hout]
      exact Bool.false_ne_true
    simp only [subscribe, if_neg hready]
    exact ⟨hs, fun _ hx => absurd hx List.not_mem_nil⟩
  | connected =>
    obtain rfl := Option.some.inj h
    obtain ⟨hopen, hos⟩ := connected_opens env ctx hout
    exact ⟨.of_open hopen, hos⟩
  | disconnected => exact absurd rfl hdisconnected
  | message header value => exact absurd rfl (hmessage header value)

/-- **The step lemma.** -/
theorem session_step {i : Context Y × Event} (h : Session o) (hi : ¬i.2.EndsSession)
    (hproper : Proper o i) :
    (∀ o', (step env o i).1 = some o' → Session o') ∧ ∀ x ∈ (step env o i).2, x.Opens := by
  obtain ⟨ctx, event⟩ := i
  have hdisconnected : event ≠ .disconnected := by
    rintro rfl
    exact hi trivial
  obtain hended | ⟨r, hcall, hs⟩ := step_cases env o ctx event
  · rw [hended]
    exact ⟨nofun, fun _ hx => absurd hx List.not_mem_nil⟩
  · have hboth : Session r.1.1 ∧ ∀ x ∈ r.2, x.Opens := by
      by_cases hout : o.outbound = 0
      · refine call_opens hdisconnected ?_ h hout hcall
        rintro header value rfl
        exact hproper hout
      · have hconnected : event ≠ .connected := by
          rintro rfl
          exact hout hproper
        obtain ⟨hopen, hos⟩ := call_speaks hconnected hdisconnected hcall hout
        exact ⟨.of_open hopen, hos⟩
    rw [hs]
    refine ⟨?_, hboth.2⟩
    intro o' ho
    obtain rfl := Option.some.inj ho
    exact hboth.1

/-- A session begins with nothing sent. -/
theorem session_opens {streamId : UInt16} {index : ℕ} {master : Bool}
    {before : List (Context Y × Event)}
    (hopens : Numbering.Opens (fun i : Context Y × Event => i.2.EndsSession) before)
    (h : (run (step env) (initial streamId index master : MarketData D) before).1 = some o) :
    Session o := by
  obtain rfl | ⟨before, ⟨ctx, event⟩, rfl, hends⟩ := hopens
  · obtain rfl := Option.some.inj h
    exact ⟨fun _ => rfl, fun _ => nofun⟩
  · obtain ⟨t, -, ht⟩ := run_append_single h
    cases event with
    | disconnected =>
      obtain rfl := Option.some.inj ht
      exact ⟨fun _ => rfl, fun _ => nofun⟩
    | _ => exact hends.elim

end MarketData

/-! ## Sessions -/

/-- **Sessions open with a log-on**: the messages of a session are numbered from one on, and the
    one that is numbered one is a log-on, and no other. -/
theorem sessions_open_with_logon {D E Y : Type} [Download2 D]
    [StagedDownload.Download MarketData.State E] [Symbols Y] (orderEnv : OrderEntry.Env)
    (env : MarketData.Env) (streamId : UInt16) (index : ℕ) (master : Bool) :
    (∀ (before session : List (OrderEntry.Context × OrderEntry.Event)) (o : OrderEntry D),
      Opens (fun i => i.2.EndsSession) before → (∀ i ∈ session, ¬i.2.EndsSession) →
      (run (OrderEntry.step orderEnv) .initial before).1 = some o →
      Guarded (OrderEntry.step orderEnv) OrderEntry.Proper o session →
      let os := (run (OrderEntry.step orderEnv) o session).2
      (∃ n, numbers OrderEntry.Output.numbered os = List.range' 1 n) ∧ ∀ x ∈ os, x.Opens) ∧
    (∀ (before session : List (MarketData.Context Y × MarketData.Event)) (o : MarketData E),
      Opens (fun i => i.2.EndsSession) before → (∀ i ∈ session, ¬i.2.EndsSession) →
      (run (MarketData.step env) (.initial streamId index master) before).1 = some o →
      Guarded (MarketData.step env) MarketData.Proper o session →
      let os := (run (MarketData.step env) o session).2
      (∃ n, numbers MarketData.Output.numbered os = List.range' 1 n) ∧ ∀ x ∈ os, x.Opens) := by
  constructor
  · intro before session o hopens hsession hrun hproper
    have hguarded : Guarded (OrderEntry.step orderEnv)
        (fun o i => OrderEntry.Proper o i ∧ ¬i.2.EndsSession) o session :=
      hproper.and (guarded_of_forall fun i hi _ => hsession i hi)
    refine ⟨(OrderEntry.step_consecutive orderEnv).session_numbers rfl hopens hrun hsession,
      (run_sound ?_ (OrderEntry.session_opens hopens hrun) hguarded).2⟩
    exact fun _ _ h hi => OrderEntry.session_step h hi.2 hi.1
  · intro before session o hopens hsession hrun hproper
    have hguarded : Guarded (MarketData.step env)
        (fun o i => MarketData.Proper o i ∧ ¬i.2.EndsSession) o session :=
      hproper.and (guarded_of_forall fun i hi _ => hsession i hi)
    refine ⟨(MarketData.step_consecutive env).session_numbers rfl hopens hrun hsession,
      (run_sound ?_ (MarketData.session_opens hopens hrun) hguarded).2⟩
    exact fun _ _ h hi => MarketData.session_step h hi.2 hi.1

/-- A session of the order entry stream, in which the counterparty asks for a sign of life. -/
abbrev testedOrderEntry : List (OrderEntry.Context × OrderEntry.Event) :=
  (OrderEntry.openSession ++ [OrderEntry.Event.message ⟨4, 1⟩ (.testRequest "a")]).map (.plain, ·)

/-- And one of the market data stream. -/
abbrev testedMarketData : List (MarketData.Context SymbolTable × MarketData.Event) :=
  (MarketData.openSession ++ [MarketData.Event.message ⟨3, 1⟩ (.testRequest "a")]).map (.plain, ·)

/-- The session of the order entry stream is its second one. -/
theorem tested_sessions_open_with_logon :
    (∃ o : OrderEntry DownloadCounter, (run (OrderEntry.step .plain) .initial
        (testedOrderEntry ++ [(.plain, .disconnected)])).1 = some o ∧
      (∀ x ∈ (run (OrderEntry.step .plain) o testedOrderEntry).2, x.Opens) ∧
      numbers OrderEntry.Output.numbered (run (OrderEntry.step .plain) o testedOrderEntry).2 =
        [1, 2, 3, 4]) ∧
    (∀ x ∈ (run (MarketData.step .plain) MarketData.plain testedMarketData).2, x.Opens) ∧
      numbers MarketData.Output.numbered
        (run (MarketData.step .plain) MarketData.plain testedMarketData).2 = [1, 2, 3] := by
  have hopen := sessions_open_with_logon (D := DownloadCounter)
    (E := StagedDownload.Counter MarketData.State) (Y := SymbolTable) .plain .plain 1 0 true
  constructor
  · refine ⟨_, rfl, ?_, by decide +kernel⟩
    refine (hopen.1 _ _ _ (.inr ⟨testedOrderEntry, (.plain, .disconnected), rfl, trivial⟩) ?_ rfl
      (by decide +kernel)).2
    simp [testedOrderEntry, OrderEntry.openSession, OrderEntry.logOn,
      OrderEntry.Event.EndsSession]
  · refine ⟨?_, by decide +kernel⟩
    refine (hopen.2 [] _ _ (.inl rfl) ?_ rfl (by decide +kernel)).2
    simp [testedMarketData, MarketData.openSession, MarketData.Event.EndsSession]

end DeribitGateway
