import DeribitGateway.Json.DropCopyHandlers
import Mathlib.Data.List.Nodup

/-!
# The currencies of a session

The drop copy stream asks for currencies on three ways: when it hears of new ones, when it is
latched, and when a session opens. `Session` is a history that runs next to the stream: the
currencies it has heard of, and what it has put into the queue since the session began.

`currencies_are_requested_once` is about the runs where the latch finds a session, and a
session the latch, only after a currency is known, and no session opens twice.
`latch_without_currencies` is a run where the latch comes first.
-/

namespace DeribitGateway

open Transducer StagedDownload

namespace DropCopy

/-- The currencies that are known, and what has been put into the queue in this session. -/
structure Session where
  known : List String
  queued : List Json.Request

def Session.next (session : Session) (i : Context × Event) (os : List Output) : Session :=
  match i.2 with
  | .currenciesUpdate currencies =>
    { known := session.known ++ currencies
      queued := session.queued ++ os.filterMap Output.queued? }
  | .disconnected => { session with queued := [] }
  | _ => { session with queued := session.queued ++ os.filterMap Output.queued? }

/-- Updates bring currencies, and new ones alone. A latch that finds the stream ready, and a
    log-in that finds it latched, find a known currency, and a log-in finds it not ready. -/
def Informed {C : Type} (s : DropCopy C × Session) (i : Context × Event) : Prop :=
  match i.2 with
  | .currenciesUpdate currencies =>
    currencies ≠ [] ∧ currencies.Nodup ∧ ∀ currency ∈ currencies, currency ∉ s.2.known
  | .latch => s.1.ready_ = true → s.1.canDownload = false → s.2.known ≠ []
  | .message (.auth errorCode) => errorCode = 0 →
    s.1.ready_ = false ∧ (s.1.canDownload = true → s.2.known ≠ [])
  | _ => True

variable {C : Type} [Download State C] {env : Env} {ctx : Context} {o o' : DropCopy C}
  {session : Session}

/-- What has been asked for in a session: every known currency, once the stream is ready and
    latched, and none before. -/
structure Inquired (s : DropCopy C × Session) : Prop where
  known : s.1.currencies = s.2.known
  nodup : s.2.known.Nodup
  idle : Idle s.1.download
  asks : Asks s.2.queued (if s.1.ready_ && s.1.canDownload then s.2.known else [])
  subscribeQueue : s.1.subscribeQueue <:+ s.2.queued

theorem next_quiet {event : Event} (h : event.IsQuiet) (os : List Output) :
    session.next (ctx, event) os =
      { session with queued := session.queued ++ os.filterMap Output.queued? } := by
  cases event with
  | currenciesUpdate currencies => exact h.elim
  | disconnected => exact h.elim
  | _ => rfl

theorem Inquired.quiet {event : Event} {os : List Output} (h : Inquired (o, session))
    (hevent : event.IsQuiet) (hquiet : Quiet o os o') :
    Inquired (o', session.next (ctx, event) os) := by
  rw [next_quiet hevent, hquiet.queued, List.append_nil]
  refine ⟨hquiet.currencies.trans h.known, h.nodup, ?_, ?_, ?_⟩
  · rw [hquiet.download]
    exact h.idle
  · simp only [hquiet.ready_, hquiet.canDownload]
    exact h.asks
  · exact hquiet.subscribeQueue.trans h.subscribeQueue

/-- Requests that a stream which is ready and latched has put into the queue. -/
theorem Inquired.queues {rs : List Json.Request} {os : List Output} {known : List String}
    {queued : List Json.Request} (hqueues : Queues rs o os o') (hknown : o.currencies = known)
    (hnodup : known.Nodup) (hidle : Idle o.download)
    (hboth : (o.ready_ && o.canDownload) = true) (hasks : Asks (queued ++ rs) known)
    (hsuffix : o.subscribeQueue <:+ queued) :
    Inquired (o', ⟨known, queued ++ os.filterMap Output.queued?⟩) := by
  refine ⟨hqueues.currencies.trans hknown, hnodup, ?_, ?_, ?_⟩
  · rw [hqueues.download]
    exact hidle
  · simp only [hqueues.queued, hqueues.ready_, hqueues.canDownload, hboth, if_true]
    exact hasks
  · simp only [hqueues.queued, hqueues.subscribeQueue]
    obtain ⟨front, hfront⟩ := hsuffix
    exact ⟨front, by rw [← List.append_assoc, hfront]⟩

theorem Inquired.currenciesUpdate {currencies : List String} (h : Inquired (o, session))
    (hinformed : Informed (o, session) (ctx, .currenciesUpdate currencies)) :
    Inquired ((DropCopy.currenciesUpdate env ctx currencies o).1,
      session.next (ctx, .currenciesUpdate currencies)
        (DropCopy.currenciesUpdate env ctx currencies o).2) := by
  obtain ⟨hsome, hnodup, hnew⟩ := hinformed
  have hknown : (session.known ++ currencies).Nodup := by
    refine List.nodup_append.mpr ⟨h.nodup, hnodup, ?_⟩
    rintro currency hmem currency' hmem' rfl
    exact hnew currency hmem' hmem
  have hsame : o.currencies ++ currencies = session.known ++ currencies :=
    congrArg (· ++ currencies) h.known
  have hasked := h.asks
  simp only at hasked
  by_cases hboth : (o.ready_ && o.canDownload) = true
  · rw [currenciesUpdate_asks env ctx currencies (by simpa using hboth)]
    obtain ⟨rs, hqueues, hasks⟩ := requestCurrencies_queues env ctx currencies
      { o with currencies := o.currencies ++ currencies }
    rw [if_pos hboth] at hasked
    exact .queues hqueues hsame hknown h.idle hboth (hasked.append (hasks hsome))
      h.subscribeQueue
  · rw [currenciesUpdate_waits env ctx currencies (by simpa using hboth)]
    simp only [Session.next, List.filterMap_nil, List.append_nil]
    refine ⟨hsame, hknown, h.idle, ?_, h.subscribeQueue⟩
    rw [if_neg hboth] at hasked
    simp only [if_neg hboth]
    exact hasked

theorem Inquired.latch (h : Inquired (o, session))
    (hinformed : Informed (o, session) (ctx, .latch)) :
    Inquired ((DropCopy.latch env ctx o).1,
      session.next (ctx, .latch) (DropCopy.latch env ctx o).2) := by
  have hasked := h.asks
  simp only at hasked
  cases hready : o.ready_ with
  | false =>
    rw [latch_waits env ctx hready]
    simp only [Session.next, List.filterMap_nil, List.append_nil]
    refine ⟨h.known, h.nodup, h.idle, ?_, h.subscribeQueue⟩
    simp only [hready, Bool.false_and] at hasked ⊢
    exact hasked
  | true =>
    cases hcan : o.canDownload with
    | false =>
      rw [latch_asks env ctx hcan hready]
      obtain ⟨rs, hqueues, hasks⟩ := requestCurrencies_queues env ctx o.currencies
        { o with canDownload := true }
      have hsome : o.currencies ≠ [] := by
        rw [h.known]
        exact hinformed hready hcan
      simp only [hcan, Bool.and_false, Bool.false_eq_true, if_false] at hasked
      refine .queues hqueues h.known h.nodup h.idle ?_ ?_ h.subscribeQueue
      · rw [hready]
        rfl
      · have hknown : o.currencies = session.known := h.known
        rw [← hknown]
        exact hasked.append (hasks hsome)
    | true =>
      have hagain : DropCopy.latch env ctx o = (o, []) := if_pos hcan
      rw [hagain]
      simp only [Session.next, List.filterMap_nil, List.append_nil]
      exact h

variable [LawfulDownload State C]

/-- A session opens. -/
theorem Inquired.opens (h : Inquired (o, session))
    (hinformed : Informed (o, session) (ctx, .message (.auth 0))) :
    Inquired ((advance env ctx (Download.begin downloadCount o.download) o).1,
      session.next (ctx, .message (.auth 0))
        (advance env ctx (Download.begin downloadCount o.download) o).2) := by
  obtain ⟨hready, hsome⟩ := hinformed rfl
  have hopened := begin_opens env ctx h.idle
  have hknown : o.currencies = session.known := h.known
  have hasked := h.asks
  simp only at hready hasked
  rw [hready, Bool.false_and, if_neg (by simp)] at hasked
  have hasks : Asks (Stages.before.flatMap (stateRequests env ctx o))
      (if o.canDownload then o.currencies else []) := by
    apply stateRequests_asks
    rw [hknown]
    exact hsome
  refine ⟨hopened.currencies.trans hknown, h.nodup, hopened.idle, ?_, ?_⟩
  · simp only [Session.next, hopened.queued, hopened.ready_, hopened.canDownload,
      Bool.true_and]
    rw [← hknown]
    exact hasked.append hasks
  · simp only [Session.next, hopened.queued, hopened.subscribeQueue]
    obtain ⟨front, hfront⟩ := h.subscribeQueue
    exact ⟨front, by rw [← List.append_assoc, hfront]⟩

/-- **The step lemma.** -/
theorem Inquired.step {s t : DropCopy C × Session} {i : Context × Event} (h : Inquired s)
    (hinformed : Informed s i) (ht : (keeping (step env) Session.next s i).1 = some t) :
    Inquired t := by
  obtain ⟨hnext, hsession⟩ := keeping_some ht
  obtain ⟨o, session⟩ := s
  obtain ⟨o', session'⟩ := t
  obtain ⟨ctx, event⟩ := i
  simp only at hnext hsession
  subst hsession
  obtain hended | ⟨r, hcall, hstep⟩ := step_cases env o ctx event
  · rw [hended] at hnext
    cases hnext
  · rw [hstep] at hnext ⊢
    obtain rfl := Option.some.inj hnext
    by_cases hquiet : event.IsQuiet
    · exact h.quiet hquiet (call_quiet hquiet hcall)
    · cases event with
      | currenciesUpdate currencies =>
        obtain rfl := Option.some.inj hcall
        exact h.currenciesUpdate hinformed
      | latch =>
        obtain rfl := Option.some.inj hcall
        exact h.latch hinformed
      | disconnected =>
        obtain rfl := Option.some.inj hcall
        exact ⟨h.known, h.nodup, LawfulDownload.reset_idle _, Asks.nil, List.nil_suffix⟩
      | message value =>
        cases value with
        | auth errorCode =>
          obtain rfl : errorCode = 0 := not_not.mp hquiet
          obtain rfl := Option.some.inj hcall
          exact h.opens hinformed
        | _ => exact absurd trivial hquiet
      | _ => exact absurd trivial hquiet

theorem inquired_initial (streamId : UInt16) (account key : String) :
    Inquired ((initial streamId account key : DropCopy C), ⟨[], []⟩) :=
  ⟨rfl, List.nodup_nil, LawfulDownload.fresh_idle, Asks.nil, List.nil_suffix⟩

/-- **Every known currency is asked for once in a session, and nothing else is**, in every run
    in which no latch and no log-in comes too early: once the stream is ready and latched the
    requests of the session name the known currencies, before they name none, and the queue
    holds requests of this session alone. -/
theorem currencies_are_requested_once (env : Env) (streamId : UInt16) (account key : String)
    (is : List (Context × Event)) (o : DropCopy C) (session : Session)
    (hinformed : Guarded (keeping (step env) Session.next) Informed
      ((initial streamId account key : DropCopy C), ⟨[], []⟩) is)
    (hrun : (run (keeping (step env) Session.next)
      ((initial streamId account key : DropCopy C), ⟨[], []⟩) is).1 = some (o, session)) :
    session.known.Nodup ∧
    (o.ready_ = true ∧ o.canDownload = true → Asks session.queued session.known) ∧
    (¬(o.ready_ = true ∧ o.canDownload = true) → Asks session.queued []) ∧
    o.subscribeQueue <:+ session.queued ∧
    ∀ ctx : Context, (step env o (ctx, .disconnected)).1.map DropCopy.subscribeQueue = some [] := by
  have h : Inquired (o, session) :=
    (run_sound (P := fun _ => True)
      (fun _ _ hinquired hi => ⟨fun _ ht => hinquired.step hi ht, fun _ _ => trivial⟩)
      (inquired_initial streamId account key) hinformed).1 _ hrun
  have hasks := h.asks
  simp only [Bool.and_eq_true] at hasks
  refine ⟨h.nodup, ?_, ?_, h.subscribeQueue, fun _ => rfl⟩
  · intro hboth
    rwa [if_pos hboth] at hasks
  · intro hboth
    rwa [if_neg hboth] at hasks

/-- A session that opens behind the latch. -/
abbrev latchedSession : List (Context × Event) :=
  [(Context.plain, .currenciesUpdate ["BTC", "ETH"]), (Context.plain, .latch),
    (Context.plain, .message (.auth 0))]

/-- Both currencies are asked for. -/
theorem latched_session_asks :
    ∃ (o : DropCopy (Counter State)) (session : Session),
      (run (keeping (step .plain) Session.next) (plain, ⟨[], []⟩) latchedSession).1 =
        some (o, session) ∧ Asks session.queued ["BTC", "ETH"] := by
  refine ⟨_, _, rfl, ?_⟩
  refine (currencies_are_requested_once .plain 3 "a" "key" latchedSession _ _ ?_ rfl).2.1
    ⟨rfl, rfl⟩
  refine ⟨⟨nofun, by simp, by simp⟩, ?_⟩
  rintro _ ⟨⟩
  refine ⟨nofun, ?_⟩
  rintro _ ⟨⟩
  exact ⟨fun _ => ⟨rfl, fun _ => nofun⟩, fun _ _ => trivial⟩

/-- A latch finds a session before a currency is known: the channel of no currency is asked
    for. -/
theorem latch_without_currencies :
    (run (keeping (step .plain) Session.next) (plain, ⟨[], []⟩)
      [(Context.plain, .message (.auth 0)), (Context.plain, .latch)]).1.map
        (fun s => (s.1.ready_, s.1.canDownload, s.2.known, portfolioChannels s.2.queued)) =
      some (true, true, [], ["user.portfolio."]) := by
  decide +kernel

end DropCopy

end DeribitGateway
