import DeribitGateway.Json.DropCopyHandlers
import DeribitGateway.Json.WebSocketHandlers

/-!
# Ready and authenticated

Both kinds of web socket stream open a session with the response to the log-in. A ghost
remembers the error of the latest response in the session. The web socket stream does not
look at the error, so that only responses without one make sure that what follows is
authenticated; the drop copy stream does, and only a response with an error that finds it
ready is followed by requests.
-/

namespace DeribitGateway

open Transducer Emission StagedDownload

namespace WebSocket

/-- The error code of the latest response to a log-in, in this session. -/
def authenticate {Y R : Type} (latest : Option ℤ) (i : Input Y R) : Option ℤ :=
  match i.event with
  | .message (.auth errorCode) => some errorCode
  | .disconnected => none
  | _ => latest

/-- A response to a log-in carries no error. -/
def Accepted {W Y R : Type} (_ : WebSocket W × Option ℤ) (i : Input Y R) : Prop :=
  ∀ errorCode, i.event = .message (.auth errorCode) → errorCode = 0

variable {W Y R : Type} [Symbols Y] [LimitRequest R] [Download State W] {env : Env}

/-- The session is not open. -/
def Shut (o : WebSocket W) : Prop := o.ready_ = false ∧ Idle o.download

/-- Nothing happens at the timer of a stream whose session is not open. -/
theorem timer_idle (ctx : Context) {s : Scope W Y R} (hready : s.stream.ready_ = false)
    (hidle : Idle s.stream.download) : timer env ctx s = (s, []) := by
  have hcurrencies : Download.state s.stream.download ≠ .currencies := hidle.state_ne nofun nofun
  have hinstruments : Download.state s.stream.download ≠ .instruments :=
    hidle.state_ne nofun nofun
  have hcheck : checkCurrencies env s = (s, []) := if_neg fun h => hcurrencies h.1
  have hcheck' : checkInstruments env s = (s, []) := if_neg fun h => hinstruments h.1
  unfold timer
  split_ifs
  · simp only [seq, ready, hready, Bool.false_eq_true, if_false, skip_apply, hcheck, hcheck',
      List.append_nil]
  · rfl

variable [LawfulDownload State W]

/-- A session that is not open stays so without a log-in. -/
theorem shut_call {ctx : Context} {event : Event}
    (hauth : ∀ errorCode, event ≠ .message (.auth errorCode)) {s : Scope W Y R}
    {r : Scope W Y R × List Output} (h : event ≠ .disconnected → Shut s.stream)
    (hr : call env ctx event s = some r) :
    Shut r.1.stream ∧ ∀ x ∈ r.2, ¬(x.IsReady ∨ x.IsSent) := by
  by_cases hrests : event.Rests
  · have hcall := call_rests hrests hr
    have hopen : event ≠ .disconnected := by
      rintro rfl
      exact hrests
    constructor
    · constructor
      · rw [hcall.ready_]
        exact (h hopen).1
      · rw [hcall.download]
        exact (h hopen).2
    · intro x hx hloud
      have hsilent := hcall.silent x hx
      exact hloud.elim hsilent.not_ready hsilent.not_sent
  · cases event with
    | timer =>
      obtain ⟨hready, hidle⟩ := h nofun
      obtain rfl := Option.some.inj hr
      rw [timer_idle ctx hready hidle]
      exact ⟨⟨hready, hidle⟩, fun _ hx => absurd hx List.not_mem_nil⟩
    | disconnected =>
      obtain rfl := Option.some.inj hr
      refine ⟨⟨rfl, LawfulDownload.reset_idle _⟩, ?_⟩
      intro x hx
      obtain rfl := List.mem_singleton.mp hx
      exact (Or.elim · nofun id)
    | message value =>
      cases value with
      | auth errorCode => exact absurd rfl (hauth errorCode)
      | _ => exact absurd trivial hrests
    | _ => exact absurd trivial hrests

/-- **The step lemma.** -/
theorem shut_step (o : WebSocket W) (latest : Option ℤ) (i : Input Y R)
    (h : latest = some 0 ∨ Shut o) (haccepted : Accepted (o, latest) i)
    (hnext : ¬authenticate latest i = some 0) :
    (∀ o', (step env o i).1 = some o' → Shut o') ∧
      ∀ x ∈ (step env o i).2, ¬(x.IsReady ∨ x.IsSent) := by
  obtain hended | ⟨r, hcall, hstep⟩ := step_cases env o i
  · rw [hended]
    exact ⟨fun _ => nofun, fun _ hx => absurd hx List.not_mem_nil⟩
  · obtain ⟨ctx, shared, requests, event⟩ := i
    have hauth : ∀ errorCode, event ≠ .message (.auth errorCode) := by
      rintro errorCode rfl
      obtain rfl := haccepted errorCode rfl
      exact hnext rfl
    have hshut : event ≠ .disconnected → Shut o := by
      intro hopen
      refine h.resolve_left ?_
      intro hlatest
      apply hnext
      rw [← hlatest]
      cases event with
      | disconnected => exact absurd rfl hopen
      | message value =>
        cases value with
        | auth errorCode => exact absurd rfl (hauth errorCode)
        | _ => rfl
      | _ => rfl
    obtain ⟨hnext, hsilent⟩ := shut_call hauth hshut hcall
    rw [hstep]
    refine ⟨?_, hsilent⟩
    intro o' ho
    obtain rfl := Option.some.inj ho
    exact hnext

end WebSocket

namespace DropCopy

/-- The error code of the latest response to a log-in, in this session. -/
def authenticate (latest : Option ℤ) (i : Context × Event) : Option ℤ :=
  match i.2 with
  | .message (.auth errorCode) => some errorCode
  | .disconnected => none
  | _ => latest

/-- A response to a log-in that carries an error finds the stream not ready, or ends the
    process. -/
def Accepted {C : Type} (env : Env) (s : DropCopy C × Option ℤ) (i : Context × Event) : Prop :=
  ∀ errorCode, i.2 = .message (.auth errorCode) → errorCode ≠ 0 → s.1.ready_ = true →
    env.retryLogon = false

variable {C : Type} [Download State C] {env : Env}

/-- A stream that is not ready stays so without a log-in. -/
theorem shut_call {ctx : Context} {event : Event} (hauth : event ≠ .message (.auth 0))
    {o : DropCopy C} {r : DropCopy C × List Output}
    (h : event ≠ .disconnected → o.ready_ = false) (hr : call env ctx event o = some r) :
    r.1.ready_ = false ∧ ∀ x ∈ r.2, ¬(x.IsReady ∨ x.IsSent) := by
  by_cases hquiet : event.IsQuiet
  · have hcall := call_quiet hquiet hr
    have hready : o.ready_ = false := by
      apply h
      rintro rfl
      exact hquiet
    constructor
    · rw [hcall.ready_]
      exact hready
    · intro x hx hloud
      refine hloud.elim (hcall.noReady x hx) ?_
      intro hsent
      rw [hcall.sent x hx hsent] at hready
      cases hready
  · cases event with
    | currenciesUpdate currencies =>
      have hready := h nofun
      obtain rfl := Option.some.inj hr
      rw [currenciesUpdate_waits env ctx currencies (by simp [hready])]
      exact ⟨hready, fun _ hx => absurd hx List.not_mem_nil⟩
    | latch =>
      have hready := h nofun
      obtain rfl := Option.some.inj hr
      rw [latch_waits env ctx hready]
      exact ⟨hready, fun _ hx => absurd hx List.not_mem_nil⟩
    | disconnected =>
      obtain rfl := Option.some.inj hr
      refine ⟨rfl, ?_⟩
      intro x hx
      obtain rfl := List.mem_singleton.mp hx
      exact (Or.elim · nofun id)
    | message value =>
      cases value with
      | auth errorCode =>
        obtain rfl : errorCode = 0 := not_not.mp hquiet
        exact absurd rfl hauth
      | _ => exact absurd trivial hquiet
    | _ => exact absurd trivial hquiet

/-- **The step lemma.** -/
theorem shut_step (o : DropCopy C) (latest : Option ℤ) (i : Context × Event)
    (h : latest = some 0 ∨ o.ready_ = false) (haccepted : Accepted env (o, latest) i)
    (hnext : ¬authenticate latest i = some 0) :
    (∀ o', (step env o i).1 = some o' → o'.ready_ = false) ∧
      ∀ x ∈ (step env o i).2, ¬(x.IsReady ∨ x.IsSent) := by
  obtain ⟨ctx, event⟩ := i
  obtain hended | ⟨r, hcall, hstep⟩ := step_cases env o ctx event
  · rw [hended]
    exact ⟨fun _ => nofun, fun _ hx => absurd hx List.not_mem_nil⟩
  · have hauth : event ≠ .message (.auth 0) := by
      rintro rfl
      exact hnext rfl
    have hready : event ≠ .disconnected → o.ready_ = false := by
      intro hopen
      by_cases herror : ∃ errorCode, event = .message (.auth errorCode)
      · obtain ⟨errorCode, rfl⟩ := herror
        have hne : errorCode ≠ 0 := by
          rintro rfl
          exact hauth rfl
        by_contra hready
        have hretry := haccepted errorCode rfl hne (by simpa using hready)
        -- the process has ended
        have hnone : call env ctx (.message (.auth errorCode)) o = none := by
          simp only [call, parse, auth, if_pos hne, hretry, Bool.false_eq_true, if_false]
        rw [hnone] at hcall
        cases hcall
      · refine h.resolve_left ?_
        intro hlatest
        apply hnext
        rw [← hlatest]
        cases event with
        | disconnected => exact absurd rfl hopen
        | message value =>
          cases value with
          | auth errorCode => exact absurd ⟨errorCode, rfl⟩ herror
          | _ => rfl
        | _ => rfl
    obtain ⟨hnext, hsilent⟩ := shut_call hauth hready hcall
    rw [hstep]
    refine ⟨?_, hsilent⟩
    intro o' ho
    obtain rfl := Option.some.inj ho
    exact hnext

end DropCopy

/-! ## Sessions -/

/-- **Ready streams are authenticated**: in every run in which no response with an error
    reaches a web socket stream, or a drop copy stream that is ready and goes on, a stream is
    ready, says so and sends requests only in a session whose latest response to a log-in
    carries no error. -/
theorem ready_is_authenticated {W Y R C : Type} [Symbols Y] [LimitRequest R]
    [Download WebSocket.State W] [LawfulDownload WebSocket.State W] [Download DropCopy.State C]
    (env : WebSocket.Env) (dropCopyEnv : DropCopy.Env) (streamId : UInt16) (index : ℕ)
    (master : Bool) (account key : String) :
    (∀ is : List (WebSocket.Input Y R),
      Guarded (observe (WebSocket.step env) WebSocket.authenticate id) WebSocket.Accepted
        ((.initial streamId index master : WebSocket W), none) is →
      let r := run (observe (WebSocket.step env) WebSocket.authenticate id)
        ((.initial streamId index master : WebSocket W), none) is
      (∀ o latest, r.1 = some (o, latest) → o.ready_ = true → latest = some 0) ∧
        ∀ y ∈ r.2, y.2.2.IsReady ∨ y.2.2.IsSent →
          WebSocket.authenticate y.1 y.2.1 = some 0) ∧
    (∀ is : List (DropCopy.Context × DropCopy.Event),
      Guarded (observe (DropCopy.step dropCopyEnv) DropCopy.authenticate id)
        (DropCopy.Accepted dropCopyEnv) ((.initial streamId account key : DropCopy C), none) is →
      let r := run (observe (DropCopy.step dropCopyEnv) DropCopy.authenticate id)
        ((.initial streamId account key : DropCopy C), none) is
      (∀ o latest, r.1 = some (o, latest) → o.ready_ = true → latest = some 0) ∧
        ∀ y ∈ r.2, y.2.2.IsReady ∨ y.2.2.IsSent →
          DropCopy.authenticate y.1 y.2.1 = some 0) := by
  constructor
  · intro is haccepted
    obtain ⟨hlast, hloud⟩ := run_gated WebSocket.shut_step
      (.inr ⟨rfl, LawfulDownload.fresh_idle⟩) haccepted
    refine ⟨?_, hloud⟩
    intro o latest ho hready
    refine (hlast _ ho).resolve_right ?_
    intro hshut
    rw [hshut.1] at hready
    cases hready
  · intro is haccepted
    obtain ⟨hlast, hloud⟩ := run_gated DropCopy.shut_step (.inr rfl) haccepted
    refine ⟨?_, hloud⟩
    intro o latest ho hready
    refine (hlast _ ho).resolve_right ?_
    intro hshut
    rw [hshut] at hready
    cases hready

/-- A log-in that is answered with `errorCode`, and the timer behind it. -/
abbrev webSocketLogin (errorCode : ℤ) : List (WebSocket.Input SymbolTable RequestProgress) :=
  [.plain .ready, .plain (.message (.auth errorCode)), .plain .timer]

/-- A log-in that is accepted, on either stream. -/
theorem plain_sessions_are_authenticated :
    (∃ o latest, (run (observe (WebSocket.step .plain) WebSocket.authenticate id)
        (WebSocket.plain, none) (webSocketLogin 0)).1 = some (o, latest) ∧
      o.ready_ = true ∧ latest = some 0) ∧
    ∃ o latest, (run (observe (DropCopy.step .plain) DropCopy.authenticate id)
        (DropCopy.plain, none) [(DropCopy.Context.plain, .message (.auth 0))]).1 =
          some (o, latest) ∧ o.ready_ = true ∧ latest = some 0 := by
  have hauthenticated := ready_is_authenticated (W := Counter WebSocket.State)
    (Y := SymbolTable) (R := RequestProgress) (C := Counter DropCopy.State)
  constructor
  · refine ⟨_, _, rfl, rfl, ?_⟩
    refine ((hauthenticated .plain .plain 4 1 false "a" "key").1 (webSocketLogin 0) ?_).1
      _ _ rfl rfl
    apply guarded_of_forall
    intro i hi s errorCode hevent
    simp only [webSocketLogin, List.mem_cons, List.not_mem_nil, or_false] at hi
    rcases hi with rfl | rfl | rfl
    · cases hevent
    · cases hevent
      rfl
    · cases hevent
  · refine ⟨_, _, rfl, rfl, ?_⟩
    refine ((hauthenticated .plain .plain 3 0 true "a" "key").2
      [(DropCopy.Context.plain, .message (.auth 0))] ?_).1 _ _ rfl rfl
    exact ⟨fun _ _ _ => nofun, fun _ _ => trivial⟩

/-- A log-in that is refused: the web socket stream says that it is ready, and subscribes. -/
theorem refused_login_is_ready :
    (run (observe (WebSocket.step .plain) WebSocket.authenticate id) (WebSocket.plain, none)
        (webSocketLogin 13004)).1.map (fun s => (s.1.ready_, s.1.connectionStatus, s.2)) =
      some (true, .ready, some 13004) ∧
    .sentText (.publicSubscribe ["ticker.ETH-PERPETUAL.100ms"] .subscribeTicker) ∈
      (run (WebSocket.step .plain) WebSocket.plain (webSocketLogin 13004)).2 := by
  constructor
  · rfl
  · decide +kernel

end DeribitGateway
