import DeribitGateway.Fix.Relations
import DeribitGateway.Lib.Numbering

/-!
# Sequence numbers

Both FIX streams take the next sequence number before they ask the connection, and go on when
it refuses the message. Within a session the numbers of the messages it has taken are
therefore 1, 2, 3, ... exactly if it takes nothing after a refusal.
-/

namespace DeribitGateway

open Transducer Numbering

namespace OrderEntry

variable {D : Type} {env : Env} {ctx : Context}

/-- The number of a message, and whether the connection has taken it. -/
def Output.numbered : Output → Option (ℕ × Bool)
  | .sent msgSeqNum _ queued => some (msgSeqNum, queued)
  | _ => none

def Event.EndsSession : Event → Prop
  | .disconnected => True
  | _ => False

/-- `Numbers`, of the stream. -/
abbrev NumbersSent (o : OrderEntry D) (os : List Output) (o' : OrderEntry D) : Prop :=
  Numbers Output.numbered OrderEntry.outbound o os o'

theorem send_numbers (message : Fix.Outbound) :
    Emission.Meets NumbersSent (send ctx message : OrderEntry D → Effect D) := by
  intro o
  exact ⟨1, rfl, rfl⟩

theorem numbers_tolerates (ctx : Context) :
    Tolerates ctx (NumbersSent : OrderEntry D → List Output → OrderEntry D → Prop) where
  composes := composes_numbers _ _
  frame o o' hout _ := Numbers.of_silent rfl hout
  report o x hx := by
    apply Numbers.of_silent _ rfl
    cases x with
    | sent msgSeqNum message queued => exact absurd trivial hx
    | _ => rfl
  send message _ := send_numbers message

theorem sendLogon_numbers :
    Emission.Meets NumbersSent (sendLogon env ctx : OrderEntry D → Effect D) := by
  intro o
  exact ⟨1, rfl, rfl⟩

theorem sendTestRequest_numbers :
    Emission.Meets NumbersSent (sendTestRequest env ctx : OrderEntry D → Effect D) := by
  intro o
  apply (numbers_tolerates ctx).andThen (send_numbers _ o)
  intro o'
  apply Numbers.of_silent rfl
  simp only
  split_ifs
  · rfl
  · rfl

variable [Download2 D]

theorem logon_numbers : Emission.Meets NumbersSent (logon env ctx : OrderEntry D → Effect D) := by
  intro o
  apply (numbers_tolerates ctx).composes.after _ ((numbers_tolerates ctx).advance _ _)
  exact Numbers.of_silent rfl rfl

/-- Every step within a session numbers what it sends consecutively. -/
theorem step_numbers (env : Env) (ctx : Context) (o : OrderEntry D) {event : Event}
    (h : ¬event.EndsSession) :
    step env o (ctx, event) = (none, []) ∨ ∃ o', (step env o (ctx, event)).1 = some o' ∧
      NumbersSent o (step env o (ctx, event)).2 o' := by
  have hR := numbers_tolerates (D := D) ctx
  by_cases haction : event.IsAction
  · exact .inr (hR.action o haction)
  · cases event with
    | timer now => exact .inr ⟨_, rfl, hR.timer sendLogon_numbers sendTestRequest_numbers now o⟩
    | connected => exact .inr ⟨_, rfl, hR.frame _ _ rfl rfl⟩
    | disconnected => exact absurd trivial h
    | message header value =>
      by_cases hclears : Clears value
      · have hcheck : NumbersSent o [] (check header o) := hR.frame _ _ rfl rfl
        cases value with
        | heartbeat testReqId =>
          simp only [step, parseHelper]
          cases hr : heartbeat env ctx testReqId (check header o) with
          | none =>
            simp only
            split_ifs
            · exact .inr ⟨_, rfl, Numbers.of_silent rfl rfl⟩
            · exact .inl rfl
          | some e =>
            refine .inr ⟨_, rfl, ?_⟩
            unfold heartbeat at hr
            by_cases ht : testReqId = ""
            · rw [if_pos ht] at hr
              obtain rfl := Option.some.inj hr
              exact Numbers.of_silent rfl rfl
            · rw [if_neg ht] at hr
              obtain ⟨_, _, rfl⟩ := Option.map_eq_some_iff.mp hr
              exact Numbers.of_silent rfl rfl
        | logon => exact .inr ⟨_, rfl, hR.composes.after hcheck (logon_numbers _)⟩
        | _ => exact hclears.elim
      · exact hR.message header hclears
    | _ => exact absurd trivial haction

/-- **The order entry stream numbers its messages consecutively.** -/
theorem step_consecutive (env : Env) : Consecutive (step env : Step (OrderEntry D) _ _)
    Output.numbered OrderEntry.outbound (fun i => i.2.EndsSession) where
  restart := by
    rintro o ⟨ctx, event⟩ o' hends h
    cases event with
    | disconnected =>
      obtain rfl := Option.some.inj h
      rfl
    | _ => exact hends.elim
  next := by
    rintro o ⟨ctx, event⟩ h
    obtain hended | ⟨o', hnext, n, hnumbers, hcount⟩ := step_numbers env ctx o h
    · rw [hended]
      exact ⟨0, rfl, fun _ => nofun⟩
    · refine ⟨n, hnumbers, ?_⟩
      intro o'' h''
      rw [hnext] at h''
      obtain rfl := Option.some.inj h''
      exact hcount

end OrderEntry

namespace MarketData

open StagedDownload

variable {D Y : Type} {env : Env} {ctx : Context Y}

/-- The number of a message, and whether the connection has taken it. -/
def Output.numbered : Output → Option (ℕ × Bool)
  | .sent msgSeqNum _ queued => some (msgSeqNum, queued)
  | _ => none

def Event.EndsSession : Event → Prop
  | .disconnected => True
  | _ => False

/-- `Numbers`, of the stream. -/
abbrev NumbersSent (s : MarketData D × SharedState Y) (os : List Output)
    (t : MarketData D × SharedState Y) : Prop :=
  Numbers Output.numbered (fun s : MarketData D × SharedState Y => s.1.outbound) s os t

theorem numbered_of_not_sent {x : Output} (hx : ¬x.IsSent) : numbers Output.numbered [x] = [] := by
  cases x with
  | sent msgSeqNum message queued => exact absurd trivial hx
  | _ => rfl

theorem numbered_of_none_sent {os : List Output} (h : ∀ x ∈ os, ¬x.IsSent) :
    numbers Output.numbered os = [] := by
  induction os with
  | nil => rfl
  | cons x os ih =>
    have happend := numbers_append Output.numbered [x] os
    rw [numbered_of_not_sent (h x List.mem_cons_self),
      ih fun y hy => h y (List.mem_cons_of_mem x hy)] at happend
    exact happend

theorem send_numbers (message : Fix.MDOutbound) :
    Emission.Meets NumbersSent (send ctx message : Handler D Y) := by
  intro s
  exact ⟨1, rfl, rfl⟩

theorem numbers_ignores (ctx : Context Y) :
    Ignores ctx (NumbersSent : MarketData D × SharedState Y → List Output → _ → Prop) where
  composes := composes_numbers _ _
  frame _ _ hout _ := Numbers.of_silent rfl hout
  report _ _ hx := Numbers.of_silent (numbered_of_not_sent hx) rfl
  send message _ := send_numbers message

theorem sendLogon_numbers : Emission.Meets NumbersSent (sendLogon env ctx : Handler D Y) := by
  intro s
  exact ⟨1, rfl, rfl⟩

theorem sendTestRequest_numbers :
    Emission.Meets NumbersSent (sendTestRequest env ctx : Handler D Y) := by
  apply (numbers_ignores ctx).composes.seq (send_numbers _)
  intro s
  apply Numbers.of_silent rfl
  simp only [set, Emission.modify_apply]
  split_ifs
  · rfl
  · rfl

variable [Symbols Y] [Download State D]

/-- Every call within a session numbers what it sends consecutively. -/
theorem call_numbers {event : Event} (h : ¬event.EndsSession)
    {s : MarketData D × SharedState Y} {r : (MarketData D × SharedState Y) × List Output}
    (hr : call env ctx event s = some r) : NumbersSent s r.2 r.1 := by
  by_cases hheartbeat : ∀ header testReqId, event ≠ .message header (.heartbeat testReqId)
  · have hdisconnected : event ≠ .disconnected := by
      rintro rfl
      exact h trivial
    exact (numbers_ignores ctx).call sendLogon_numbers sendTestRequest_numbers hdisconnected
      hheartbeat hr
  · simp only [not_forall, not_not] at hheartbeat
    obtain ⟨header, testReqId, rfl⟩ := hheartbeat
    have hheard : heartbeat env ctx testReqId (check header s.1, s.2) = some r := hr
    obtain ⟨hstate, hsilent⟩ := heartbeat_next hheard
    apply Numbers.of_silent (numbered_of_none_sent hsilent)
    rw [hstate]
    rfl

/-- **The market data stream numbers its messages consecutively.** -/
theorem step_consecutive (env : Env) :
    Consecutive (step env : Step (MarketData D) (Context Y × Event) Output) Output.numbered
      MarketData.outbound (fun i => i.2.EndsSession) where
  restart := by
    rintro o ⟨ctx, event⟩ o' hends h
    cases event with
    | disconnected =>
      obtain rfl := Option.some.inj h
      rfl
    | _ => exact hends.elim
  next := by
    rintro o ⟨ctx, event⟩ h
    obtain hs | ⟨r, hr, hs⟩ := step_cases env o ctx event
    · rw [hs]
      exact ⟨0, rfl, fun _ => nofun⟩
    · obtain ⟨n, hnumbers, hcount⟩ := call_numbers h hr
      rw [hs]
      refine ⟨n, hnumbers, ?_⟩
      intro o' ho
      obtain rfl := Option.some.inj ho
      exact hcount

end MarketData

/-! ## Numbers within a session -/

/-- **Numbering has no holes as long as nothing is taken after a refusal, and only then**, in
    every session of either stream. -/
theorem numbering_has_no_holes_iff {D E Y : Type} [Download2 D]
    [StagedDownload.Download MarketData.State E] [Symbols Y] (orderEnv : OrderEntry.Env)
    (env : MarketData.Env) (streamId : UInt16) (index : ℕ) (master : Bool) :
    (∀ (before session : List (OrderEntry.Context × OrderEntry.Event)) (o : OrderEntry D),
      Opens (fun i => i.2.EndsSession) before → (∀ i ∈ session, ¬i.2.EndsSession) →
      (run (OrderEntry.step orderEnv) .initial before).1 = some o →
      let os := (run (OrderEntry.step orderEnv) o session).2
      (taken OrderEntry.Output.numbered os =
          List.range' 1 (taken OrderEntry.Output.numbered os).length ↔
        Steady (answers OrderEntry.Output.numbered os))) ∧
    (∀ (before session : List (MarketData.Context Y × MarketData.Event)) (o : MarketData E),
      Opens (fun i => i.2.EndsSession) before → (∀ i ∈ session, ¬i.2.EndsSession) →
      (run (MarketData.step env) (.initial streamId index master) before).1 = some o →
      let os := (run (MarketData.step env) o session).2
      (taken MarketData.Output.numbered os =
          List.range' 1 (taken MarketData.Output.numbered os).length ↔
        Steady (answers MarketData.Output.numbered os))) := by
  constructor
  · intro before session o hopens hsession hrun
    exact (OrderEntry.step_consecutive orderEnv).taken_consecutive_iff rfl hopens hrun hsession
  · intro before session o hopens hsession hrun
    exact (MarketData.step_consecutive env).taken_consecutive_iff rfl hopens hrun hsession

/-- A connection that refuses the message of one number. -/
def refusing (msgSeqNum : ℕ) : OrderEntry.Context :=
  { OrderEntry.Context.plain with queued := (· ≠ msgSeqNum) }

/-- A session in which a cancel request is refused, and the next one taken. -/
def refusedCancel : List (OrderEntry.Context × OrderEntry.Event) :=
  OrderEntry.openSession.map (.plain, ·) ++
    [(refusing 4, .cancelOrder OrderEntry.plainOrder "r1"),
      (refusing 4, .cancelOrder OrderEntry.plainOrder "r2")]

/-- The equivalence, for sessions in which everything is taken. -/
theorem plain_sessions_are_numbered :
    (taken OrderEntry.Output.numbered (run (OrderEntry.step .plain)
        (.initial : OrderEntry DownloadCounter) (OrderEntry.openSession.map (.plain, ·))).2 =
        [1, 2, 3]) ∧
      taken MarketData.Output.numbered (run (MarketData.step .plain) MarketData.plain
        (MarketData.openSession.map (.plain, ·))).2 = [1, 2] := by
  have hconsecutive := numbering_has_no_holes_iff (D := DownloadCounter)
    (E := StagedDownload.Counter MarketData.State) (Y := SymbolTable) .plain .plain 1 0 true
  have horder := (hconsecutive.1 [] (OrderEntry.openSession.map (.plain, ·)) .initial (.inl rfl)
    (by simp [OrderEntry.openSession, OrderEntry.logOn, OrderEntry.Event.EndsSession]) rfl).mpr
      (by decide +kernel)
  have hmarket := (hconsecutive.2 [] (MarketData.openSession.map (.plain, ·)) MarketData.plain
    (.inl rfl) (by simp [MarketData.openSession, MarketData.Event.EndsSession]) rfl).mpr
      (by decide +kernel)
  constructor
  · rw [horder]
    decide +kernel
  · rw [hmarket]
    decide +kernel

/-- The number of the refused message is missing: the connection takes 1, 2, 3 and 5. -/
theorem refused_message_leaves_hole :
    taken OrderEntry.Output.numbered (run (OrderEntry.step .plain)
      (.initial : OrderEntry DownloadCounter) refusedCancel).2 = [1, 2, 3, 5] := by
  decide +kernel

end DeribitGateway
