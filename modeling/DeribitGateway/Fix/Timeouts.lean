import DeribitGateway.Fix.Relations

/-!
# Timeouts

The timer closes a connection on which a log-on or a test request has gone unanswered for
longer than the request timeout. One time stands for all of them. The history that runs next
to a stream holds the times of the probes that neither a log-on nor a heartbeat has answered
on the connection they were sent on.

The order entry stream clears its time with every answer and with the connection, so that it
is always the time of such a probe (`Waits`). The market data stream clears it with a
heartbeat alone: `settled` says when it may be the time of another one.

A probe that the connection has refused counts as sent: the streams do not look.
-/

namespace DeribitGateway

open Transducer Emission

/-! ## Probes -/

/-- The request timeout has elapsed since the last probe, if there is one. -/
def TimedOut (requestTimeout lastLogonOrHeartbeat now : ℤ) : Prop :=
  lastLogonOrHeartbeat ≠ 0 ∧ requestTimeout ≠ 0 ∧ requestTimeout < now - lastLogonOrHeartbeat

/-- The probes in `os` have been sent at the time of the call. -/
def probeTimes {ω : Type} (isProbe : ω → Bool) (now : ℤ) (os : List ω) : List ℤ :=
  (os.filter isProbe).map fun _ => now

theorem now_mem_probeTimes {ω : Type} {isProbe : ω → Bool} {now : ℤ} {os : List ω}
    (h : ∃ x ∈ os, isProbe x = true) : now ∈ probeTimes isProbe now os := by
  obtain ⟨x, hx, hprobe⟩ := h
  exact List.mem_map.mpr ⟨x, List.mem_filter.mpr ⟨hx, hprobe⟩, rfl⟩

/-! ## The order entry stream -/

namespace OrderEntry

variable {D : Type} {env : Env} {ctx : Context}

/-- The timer finds the request timeout elapsed. -/
def TimesOut (env : Env) (ctx : Context) (now : ℤ) (o : OrderEntry D) : Prop :=
  ctx.refreshed = true ∧ TimedOut env.requestTimeout o.lastLogonOrHeartbeat now

/-- The timer finds that it is time to test what a disconnect does. -/
def ClosesForTest (env : Env) (ctx : Context) (now : ℤ) (o : OrderEntry D) : Prop :=
  ¬TimesOut env ctx now o ∧ ctx.refreshed = true ∧ o.ready_ = true ∧
    (o.testDisconnectTime ≠ 0 ∧ o.testDisconnectTime < now) ∧ env.testOrderDisconnect ≠ 0

/-- It closes the connection then, and else not. -/
theorem timer_closes_iff {now : ℤ} {o : OrderEntry D} :
    .closed ∈ (timer env ctx now o).2 ↔ TimesOut env ctx now o ∨ ClosesForTest env ctx now o := by
  unfold timer ClosesForTest TimesOut TimedOut
  split_ifs with hrefresh htimeout hready htest hclose hprobe hlogon <;>
    simp_all [sendTestRequest, sendLogon, publish, Effect.andThen]

def Output.isProbe : Output → Bool
  | .sent _ (.logon _) _ => true
  | .sent _ (.testRequest _) _ => true
  | _ => false

/-- The answers to a probe, and the end of the connection it was sent on. -/
def Event.settles : Event → Bool
  | .disconnected => true
  | .message _ (.heartbeat _) => true
  | .message _ .logon => true
  | _ => false

/-- The times of the probes that are unanswered behind a step. -/
def unanswered (times : List ℤ) (i : Context × Event) (os : List Output) : List ℤ :=
  (if i.2.settles then [] else times) ++ probeTimes Output.isProbe i.1.now os

/-- The time of the last probe stays, or is the time of a probe that is sent. -/
def Probed (ctx : Context) (o : OrderEntry D) (os : List Output) (o' : OrderEntry D) : Prop :=
  o'.lastLogonOrHeartbeat = o.lastLogonOrHeartbeat ∨
    (o'.lastLogonOrHeartbeat = ctx.now ∧ ∃ x ∈ os, x.isProbe = true)

theorem composes_probed (ctx : Context) :
    Composes (Probed ctx : OrderEntry D → List Output → OrderEntry D → Prop) := by
  constructor
  · intro o
    exact .inl rfl
  · intro o o' o'' os os' h h'
    obtain hstay' | ⟨hnow', x, hx, hprobe⟩ := h'
    · obtain hstay | ⟨hnow, x, hx, hprobe⟩ := h
      · exact .inl (hstay'.trans hstay)
      · exact .inr ⟨hstay'.trans hnow, x, List.mem_append_left _ hx, hprobe⟩
    · exact .inr ⟨hnow', x, List.mem_append_right _ hx, hprobe⟩

theorem probed_tolerates (ctx : Context) :
    Tolerates ctx (Probed ctx : OrderEntry D → List Output → OrderEntry D → Prop) where
  composes := composes_probed ctx
  frame _ _ _ hlast := .inl hlast
  report _ _ _ := .inl rfl
  send _ _ _ := .inl rfl

theorem sendLogon_probed : Meets (Probed ctx) (sendLogon env ctx : OrderEntry D → Effect D) := by
  intro o
  exact .inr ⟨rfl, _, List.mem_cons_self, rfl⟩

theorem sendTestRequest_probed :
    Meets (Probed ctx) (sendTestRequest env ctx : OrderEntry D → Effect D) := by
  intro o
  by_cases h : o.lastLogonOrHeartbeat = 0
  · refine .inr ⟨?_, _, List.mem_cons_self, rfl⟩
    simp [sendTestRequest, h]
  · refine .inl ?_
    simp [sendTestRequest, h]

/-- The time of the last probe, if there is one, is that of an unanswered one. -/
def Waits (s : OrderEntry D × List ℤ) : Prop :=
  s.1.lastLogonOrHeartbeat ≠ 0 → s.1.lastLogonOrHeartbeat ∈ s.2

theorem Waits.probed {o o' : OrderEntry D} {times times' : List ℤ} {os : List Output}
    (h : Waits (o, times)) (hprobed : Probed ctx o os o') (htimes : times ⊆ times')
    (hsent : probeTimes Output.isProbe ctx.now os ⊆ times') : Waits (o', times') := by
  intro hlast
  obtain hstay | ⟨hnow, hprobe⟩ := hprobed
  · change o'.lastLogonOrHeartbeat ∈ times'
    rw [hstay]
    exact htimes (h (hstay ▸ hlast))
  · change o'.lastLogonOrHeartbeat ∈ times'
    rw [hnow]
    exact hsent (now_mem_probeTimes hprobe)

theorem Waits.of_zero {o : OrderEntry D} (times : List ℤ) (h : o.lastLogonOrHeartbeat = 0) :
    Waits (o, times) :=
  fun hlast => absurd h hlast

variable [Download2 D]

/-- Every step has the stream wait for an unanswered probe, or for none. -/
theorem Waits.step {s t : OrderEntry D × List ℤ} {i : Context × Event} (h : Waits s)
    (ht : (keeping (step env) unanswered s i).1 = some t) : Waits t := by
  obtain ⟨hnext, hhistory⟩ := keeping_some ht
  obtain ⟨o, times⟩ := s
  obtain ⟨o', times'⟩ := t
  obtain ⟨ctx, event⟩ := i
  simp only at hnext hhistory
  subst hhistory
  have hR := probed_tolerates (D := D) ctx
  have hsent : probeTimes Output.isProbe ctx.now (OrderEntry.step env o (ctx, event)).2 ⊆
      unanswered times (ctx, event) (OrderEntry.step env o (ctx, event)).2 :=
    List.subset_append_right _ _
  have hkept : event.settles = false →
      times ⊆ unanswered times (ctx, event) (OrderEntry.step env o (ctx, event)).2 := by
    intro hsettles
    simp [unanswered, hsettles]
  by_cases haction : event.IsAction
  · obtain ⟨o'', ho'', hprobed⟩ := hR.action o haction
    rw [hnext] at ho''
    obtain rfl := Option.some.inj ho''
    refine h.probed hprobed (hkept ?_) hsent
    cases event with
    | message header value => exact haction.elim
    | disconnected => exact haction.elim
    | _ => rfl
  · cases event with
    | timer now =>
      obtain rfl := Option.some.inj hnext
      exact h.probed (hR.timer sendLogon_probed sendTestRequest_probed now o) (hkept rfl) hsent
    | connected =>
      obtain rfl := Option.some.inj hnext
      exact h.probed (.inl rfl) (hkept rfl) hsent
    | disconnected =>
      obtain rfl := Option.some.inj hnext
      exact Waits.of_zero _ rfl
    | message header value =>
      by_cases hclears : Clears value
      · cases value with
        | heartbeat testReqId =>
          have hheard : (parseHelper env ctx header (check header o) (.heartbeat testReqId)).1 =
              some o' := hnext
          obtain rfl := heartbeat_next hheard
          exact Waits.of_zero _ rfl
        | logon =>
          obtain rfl := Option.some.inj hnext
          have hcleared : Waits ({ check header o with lastLogonOrHeartbeat := 0 }, []) :=
            Waits.of_zero _ rfl
          exact hcleared.probed (hR.advance _ _) (List.nil_subset _) hsent
        | _ => exact hclears.elim
      · obtain hended | ⟨o'', ho'', hprobed⟩ := hR.message header hclears
        · rw [hended] at hnext
          cases hnext
        · rw [hnext] at ho''
          obtain rfl := Option.some.inj ho''
          refine h.probed hprobed (hkept ?_) hsent
          cases value with
          | heartbeat testReqId => exact absurd trivial hclears
          | logon => exact absurd trivial hclears
          | _ => rfl
    | _ => exact absurd trivial haction

theorem waits_of_run {is : List (Context × Event)} {s : OrderEntry D × List ℤ}
    (h : (run (keeping (step env) unanswered) (.initial, []) is).1 = some s) : Waits s :=
  run_invariant (fun _ _ _ => Waits.step) (Waits.of_zero [] rfl) h

end OrderEntry

/-! ## The market data stream -/

namespace MarketData

open StagedDownload

variable {D Y : Type} {env : Env} {ctx : Context Y}

/-- The timer finds the request timeout elapsed. -/
def TimesOut (env : Env) (ctx : Context Y) (now : ℤ) (o : MarketData D) : Prop :=
  ctx.refreshed = true ∧ TimedOut env.requestTimeout o.lastLogonOrHeartbeat now

/-- The timer finds that it is time to test what a disconnect does. -/
def ClosesForTest (env : Env) (ctx : Context Y) (now : ℤ) (o : MarketData D) : Prop :=
  ¬TimesOut env ctx now o ∧ ctx.refreshed = true ∧ o.connectionStatus = .ready ∧
    (o.testDisconnectTime ≠ 0 ∧ o.testDisconnectTime < now) ∧ env.testMarketDataDisconnect ≠ 0

/-- It closes the connection then, and else not. -/
theorem timer_closes_iff {now : ℤ} {o : MarketData D} {shared : SharedState Y} :
    .closed ∈ (timer env ctx now (o, shared)).2 ↔
      TimesOut env ctx now o ∨ ClosesForTest env ctx now o := by
  simp only [timer, ClosesForTest, TimesOut, TimedOut]
  split_ifs with hrefresh htimeout hready htest hclose hprobe <;>
    simp_all [sendTestRequest, send, set]

def Output.isProbe : Output → Bool
  | .sent _ (.logon _) _ => true
  | .sent _ (.testRequest _) _ => true
  | _ => false

def Output.isLogon : Output → Bool
  | .sent _ (.logon _) _ => true
  | _ => false

structure Probes where
  /-- The times of the probes that nothing has answered on this connection. -/
  unanswered : List ℤ
  /-- Probes have been answered by a log-on or lost with their connection, and since then
      neither has a heartbeat come nor a log-on been sent. -/
  settled : Bool
  deriving DecidableEq

/-- The probes behind a step. -/
def Probes.next (h : Probes) (i : Context Y × Event) (os : List Output) : Probes :=
  match i.2 with
  | .message _ (.heartbeat _) =>
    { unanswered := probeTimes Output.isProbe i.1.now os, settled := false }
  | .message _ .logon =>
    { unanswered := probeTimes Output.isProbe i.1.now os,
      settled := h.settled || !h.unanswered.isEmpty }
  | .disconnected =>
    { unanswered := probeTimes Output.isProbe i.1.now os,
      settled := h.settled || !h.unanswered.isEmpty }
  | _ =>
    { unanswered := h.unanswered ++ probeTimes Output.isProbe i.1.now os
      settled := h.settled && !os.any Output.isLogon }

/-- The time of the last probe stays, or is the time of a probe that is sent; with a log-on it
    is. -/
structure Probed (ctx : Context Y) (s : MarketData D × SharedState Y) (os : List Output)
    (t : MarketData D × SharedState Y) : Prop where
  last : t.1.lastLogonOrHeartbeat = s.1.lastLogonOrHeartbeat ∨
    (t.1.lastLogonOrHeartbeat = ctx.now ∧ ∃ x ∈ os, x.isProbe = true)
  logon : (∃ x ∈ os, x.isLogon = true) → t.1.lastLogonOrHeartbeat = ctx.now

theorem composes_probed (ctx : Context Y) :
    Composes (Probed ctx : MarketData D × SharedState Y → List Output → _ → Prop) := by
  constructor
  · intro s
    exact ⟨.inl rfl, by simp⟩
  · intro s t u os os' h h'
    constructor
    · obtain hstay' | ⟨hnow', x, hx, hprobe⟩ := h'.last
      · obtain hstay | ⟨hnow, x, hx, hprobe⟩ := h.last
        · exact .inl (hstay'.trans hstay)
        · exact .inr ⟨hstay'.trans hnow, x, List.mem_append_left _ hx, hprobe⟩
      · exact .inr ⟨hnow', x, List.mem_append_right _ hx, hprobe⟩
    · rintro ⟨x, hx, hlogon⟩
      obtain hleft | hright := List.mem_append.mp hx
      · obtain hstay' | ⟨hnow', -⟩ := h'.last
        · exact hstay'.trans (h.logon ⟨x, hleft, hlogon⟩)
        · exact hnow'
      · exact h'.logon ⟨x, hright, hlogon⟩

theorem probed_ignores (ctx : Context Y) :
    Ignores ctx (Probed ctx : MarketData D × SharedState Y → List Output → _ → Prop) where
  composes := composes_probed ctx
  frame _ _ _ hlast := ⟨.inl hlast, by simp⟩
  report _ x hx := by
    refine ⟨.inl rfl, ?_⟩
    rintro ⟨y, hy, hlogon⟩
    obtain rfl := List.mem_singleton.mp hy
    cases y with
    | sent msgSeqNum message queued => exact absurd trivial hx
    | _ => cases hlogon
  send message hprobe s := by
    refine ⟨.inl rfl, ?_⟩
    rintro ⟨y, hy, hlogon⟩
    obtain rfl := List.mem_singleton.mp hy
    cases message with
    | logon value => exact absurd trivial hprobe
    | _ => cases hlogon

theorem sendLogon_probed : Meets (Probed ctx) (sendLogon env ctx : Handler D Y) := by
  intro s
  exact ⟨.inr ⟨rfl, _, List.mem_cons_self, rfl⟩, fun _ => rfl⟩

theorem sendTestRequest_probed : Meets (Probed ctx) (sendTestRequest env ctx : Handler D Y) := by
  intro s
  constructor
  · by_cases h : s.1.lastLogonOrHeartbeat = 0
    · refine .inr ⟨?_, _, List.mem_cons_self, rfl⟩
      simp [sendTestRequest, send, set, h]
    · refine .inl ?_
      simp [sendTestRequest, send, set, h]
  · rintro ⟨y, hy, hlogon⟩
    obtain rfl := List.mem_singleton.mp hy
    cases hlogon

/-- The time of the last probe, if there is one, is that of an unanswered one, unless the
    probes it can be of are settled. -/
def Waits (s : MarketData D × Probes) : Prop :=
  s.1.lastLogonOrHeartbeat ≠ 0 →
    s.2.settled = true ∨ s.1.lastLogonOrHeartbeat ∈ s.2.unanswered

/-- What a call leaves that settles the probes there were. -/
theorem Waits.settle {o o' : MarketData D} {shared shared' : SharedState Y} {h : Probes}
    {os : List Output} (hw : Waits (o, h)) (hprobed : Probed ctx (o, shared) os (o', shared')) :
    Waits (o', { unanswered := probeTimes Output.isProbe ctx.now os
                 settled := h.settled || !h.unanswered.isEmpty }) := by
  intro hne
  obtain hstay | ⟨hnow, hprobe⟩ := hprobed.last
  · left
    simp only at hstay hne ⊢
    rw [hstay] at hne
    obtain hsettled | hmem := hw hne
    · simp only at hsettled
      rw [hsettled, Bool.true_or]
    · have hsome : h.unanswered ≠ [] := List.ne_nil_of_mem hmem
      simp [hsome]
  · right
    simp only at hnow ⊢
    rw [hnow]
    exact now_mem_probeTimes hprobe

/-- What a call leaves that settles no probes. -/
theorem Waits.probed {o o' : MarketData D} {shared shared' : SharedState Y} {h : Probes}
    {os : List Output} (hw : Waits (o, h)) (hprobed : Probed ctx (o, shared) os (o', shared')) :
    Waits (o', { unanswered := h.unanswered ++ probeTimes Output.isProbe ctx.now os
                 settled := h.settled && !os.any Output.isLogon }) := by
  intro hne
  by_cases hlogon : ∃ x ∈ os, x.isLogon = true
  · right
    have hnow := hprobed.logon hlogon
    obtain ⟨x, hx, hx'⟩ := hlogon
    have hprobe : x.isProbe = true := by
      cases x with
      | sent msgSeqNum message queued =>
        cases message with
        | logon value => rfl
        | _ => cases hx'
      | _ => cases hx'
    simp only at hnow ⊢
    rw [hnow]
    exact List.mem_append_right _ (now_mem_probeTimes ⟨x, hx, hprobe⟩)
  · have hnone : os.any Output.isLogon = false := by
      apply List.any_eq_false.mpr
      intro x hx hx'
      exact hlogon ⟨x, hx, hx'⟩
    obtain hstay | ⟨hnow, hprobe⟩ := hprobed.last
    · simp only at hstay hne ⊢
      rw [hstay] at hne ⊢
      obtain hsettled | hmem := hw hne
      · left
        simp only at hsettled
        rw [hsettled, hnone]
        rfl
      · exact .inr (List.mem_append_left _ hmem)
    · right
      simp only at hnow ⊢
      rw [hnow]
      exact List.mem_append_right _ (now_mem_probeTimes hprobe)

variable [Symbols Y] [Download State D]

/-- Every step has the stream wait for an unanswered probe or for none, or its probes are
    settled. -/
theorem Waits.step {s t : MarketData D × Probes} {i : Context Y × Event} (hw : Waits s)
    (ht : (keeping (step env) Probes.next s i).1 = some t) : Waits t := by
  obtain ⟨hnext, hhistory⟩ := keeping_some ht
  obtain ⟨o, h⟩ := s
  obtain ⟨o', h'⟩ := t
  obtain ⟨ctx, event⟩ := i
  simp only at hnext hhistory
  subst hhistory
  obtain hended | ⟨r, hr, hs⟩ := step_cases env o ctx event
  · rw [hended] at hnext
    cases hnext
  · rw [hs] at hnext ⊢
    obtain rfl := Option.some.inj hnext
    have hR := probed_ignores (D := D) ctx
    have hother : event ≠ .disconnected →
        (∀ header testReqId, event ≠ .message header (.heartbeat testReqId)) →
        Probed ctx (o, ctx.shared) r.2 r.1 := fun hdisconnected hheartbeat =>
      hR.call sendLogon_probed sendTestRequest_probed hdisconnected hheartbeat hr
    cases event with
    | timer now => exact hw.probed (hother nofun nofun)
    | subscribe startFrom => exact hw.probed (hother nofun nofun)
    | connected => exact hw.probed (hother nofun nofun)
    | disconnected =>
      obtain rfl := Option.some.inj hr
      have hsilent : Probed ctx (o, ctx.shared) (disconnected (o, ctx.shared)).2
          (disconnected (o, ctx.shared)).1 := ⟨.inl rfl, by simp [disconnected, publish, set,
            Output.isLogon]⟩
      exact hw.settle hsilent
    | message header value =>
      cases value with
      | heartbeat testReqId =>
        have hheard : heartbeat env ctx testReqId (check header o, ctx.shared) = some r := hr
        intro hlast
        rw [(heartbeat_next hheard).1] at hlast
        exact absurd rfl hlast
      -- a log-on answers every probe, but the last time stays
      | logon => exact hw.settle (hother nofun nofun)
      | _ => exact hw.probed (hother nofun nofun)

theorem waits_of_run {streamId : UInt16} {index : ℕ} {master : Bool}
    {is : List (Context Y × Event)} {s : MarketData D × Probes}
    (h : (run (keeping (step env) Probes.next) (.initial streamId index master, ⟨[], false⟩)
      is).1 = some s) : Waits s :=
  run_invariant (fun _ _ _ => Waits.step) (fun hlast => absurd rfl hlast) h

end MarketData

/-! ## Timeouts are justified -/

/-- **A timeout is justified.** A tick at which the order entry stream closes its connection, and
    not for a test, comes when a probe has gone unanswered for longer than the request timeout.
    So does such a tick of the market data stream, unless it comes when the probes are settled. -/
theorem timeouts_are_justified {D E Y : Type} [Download2 D]
    [StagedDownload.Download MarketData.State E] [Symbols Y] (orderEnv : OrderEntry.Env)
    (env : MarketData.Env) (streamId : UInt16) (index : ℕ) (master : Bool) :
    (∀ (is : List (OrderEntry.Context × OrderEntry.Event)) (o : OrderEntry D) (times : List ℤ),
      (run (keeping (OrderEntry.step orderEnv) OrderEntry.unanswered) (.initial, []) is).1 =
        some (o, times) →
      ∀ (ctx : OrderEntry.Context) (now : ℤ),
        .closed ∈ (OrderEntry.step orderEnv o (ctx, .timer now)).2 →
        ¬OrderEntry.ClosesForTest orderEnv ctx now o →
          ∃ t ∈ times, orderEnv.requestTimeout < now - t) ∧
    (∀ (is : List (MarketData.Context Y × MarketData.Event)) (o : MarketData E)
        (h : MarketData.Probes),
      (run (keeping (MarketData.step env) MarketData.Probes.next)
        (.initial streamId index master, ⟨[], false⟩) is).1 = some (o, h) →
      ∀ (ctx : MarketData.Context Y) (now : ℤ), h.settled = false →
        .closed ∈ (MarketData.step env o (ctx, .timer now)).2 →
        ¬MarketData.ClosesForTest env ctx now o →
          ∃ t ∈ h.unanswered, env.requestTimeout < now - t) := by
  constructor
  · intro is o times hrun ctx now hclosed htest
    have htimeout : OrderEntry.TimesOut orderEnv ctx now o :=
      (OrderEntry.timer_closes_iff.mp hclosed).resolve_right htest
    obtain ⟨-, hlast, -, helapsed⟩ := htimeout
    exact ⟨o.lastLogonOrHeartbeat, OrderEntry.waits_of_run hrun hlast, helapsed⟩
  · intro is o h hrun ctx now hsettled hclosed htest
    have htimeout : MarketData.TimesOut env ctx now o :=
      (MarketData.timer_closes_iff.mp hclosed).resolve_right htest
    obtain ⟨-, hlast, -, helapsed⟩ := htimeout
    obtain hsettled' | hmem := MarketData.waits_of_run hrun hlast
    · simp only at hsettled'
      rw [hsettled] at hsettled'
      cases hsettled'
    · exact ⟨o.lastLogonOrHeartbeat, hmem, helapsed⟩

/-- The order entry stream with a request timeout of a second. -/
def impatient : OrderEntry.Env := { OrderEntry.Env.plain with requestTimeout := 1000000000 }

/-- The log-on is sent at a time of 2 s. -/
def OrderEntry.Context.logsOn : OrderEntry.Context := { plain with now := 2000000000 }

/-- The log-on is sent at a time of 1 s. -/
def MarketData.Context.logsOn : MarketData.Context SymbolTable := { plain with now := 1000000000 }

/-- A log-on that is not answered: both streams close their connection for it. -/
theorem unanswered_logon_is_justified :
    (∃ (o : OrderEntry DownloadCounter) (times : List ℤ),
      (run (keeping (OrderEntry.step impatient) OrderEntry.unanswered) (.initial, [])
        [(.plain, .connected), (.logsOn, .timer 2000000000)]).1 = some (o, times) ∧
      (OrderEntry.step impatient o (.plain, .timer 4000000000)).2 = [.closed] ∧
      ∃ t ∈ times, impatient.requestTimeout < 4000000000 - t) ∧
    ∃ (o : MarketData (StagedDownload.Counter MarketData.State)) (h : MarketData.Probes),
      (run (keeping (MarketData.step .plain) MarketData.Probes.next)
        (MarketData.plain, ⟨[], false⟩) [(MarketData.Context.logsOn, .connected)]).1 =
          some (o, h) ∧
      (MarketData.step .plain o (MarketData.Context.plain, .timer 7000000000)).2 = [.closed] ∧
      ∃ t ∈ h.unanswered, MarketData.Env.plain.requestTimeout < 7000000000 - t := by
  have hjustified := timeouts_are_justified (D := DownloadCounter)
    (E := StagedDownload.Counter MarketData.State) (Y := SymbolTable) impatient .plain 1 0 true
  constructor
  · refine ⟨_, _, rfl, rfl, ?_⟩
    refine hjustified.1 [(.plain, .connected), (.logsOn, .timer 2000000000)] _ _ rfl .plain
      4000000000 (List.mem_singleton_self _) ?_
    exact fun htest => htest.1 ⟨rfl, by decide, by decide, by decide⟩
  · refine ⟨_, _, rfl, rfl, ?_⟩
    refine hjustified.2 [(.logsOn, .connected)] _ _ rfl .plain 7000000000 rfl
      (List.mem_singleton_self _) ?_
    exact fun htest => htest.1 ⟨rfl, by decide, by decide, by decide⟩

/-- The log-on is answered, but the download of the securities takes longer than the request
    timeout: the connection is closed although nothing is unanswered. -/
theorem slow_download_is_closed :
    ∃ (o : MarketData (StagedDownload.Counter MarketData.State)) (h : MarketData.Probes),
      (run (keeping (MarketData.step .plain) MarketData.Probes.next)
        (MarketData.plain, ⟨[], false⟩) [(MarketData.Context.logsOn, .connected),
          (.plain, .message ⟨1, 1⟩ .logon)]).1 = some (o, h) ∧
      MarketData.TimesOut .plain MarketData.Context.plain 7000000000 o ∧
      (MarketData.step .plain o (MarketData.Context.plain, .timer 7000000000)).2 = [.closed] ∧
      h.unanswered = [] := by
  refine ⟨_, _, rfl, ⟨rfl, ?_, ?_, ?_⟩, ?_, ?_⟩
  · decide
  · decide
  · decide
  · rfl
  · rfl

end DeribitGateway
