import DeribitGateway.Json.DropCopyHandlers

/-!
# The look-back of the trade downloads

A download of trades starts some time back, and behind a restart of the gateway it may start
further back than later on (`trades_lookback_on_restart`). Which of the two it is, is decided by
`download_trades_is_first_`. The flag is not cleared by the response to a download: the handler
of a live `UserTrades` does that, and nothing else does (`firstBehind`).

`Heard` is a history that runs next to the stream: whether a live message has come, and whether
a download has been answered. The flag says the former (`Remembers`), the look-back should
follow the latter, and `lookbacks_iff` says of any run when that comes to the same.
-/

namespace DeribitGateway

open Transducer StagedDownload Emission

namespace DropCopy

/-- What has come since the start, in all sessions. -/
structure Heard where
  /-- A live `UserTrades`. -/
  live : Bool
  /-- A `GetUserTradesByCurrencyAck`. -/
  answered : Bool

def Heard.none : Heard := ⟨false, false⟩

def Heard.next (heard : Heard) (i : Context × Event) (_ : List Output) : Heard :=
  match i.2 with
  | .message (.userTrades _) => { heard with live := true }
  | .message (.getUserTradesByCurrencyAck _) => { heard with answered := true }
  | _ => heard

/-- The currencies of the trade downloads among requests, and when they start. -/
def downloadStarts (rs : List Json.Request) : List (String × ℤ) :=
  rs.filterMap fun
    | .getUserTradesByCurrency currency startTimestamp => some (currency, startTimestamp)
    | _ => none

/-- The start, in milliseconds, of what lies less than the look-back behind. -/
def startFrom (ctx : Context) (lookback : ℤ) : ℤ := (ctx.now - lookback).tdiv 1000000

variable {C : Type}

/-- The currencies whose trades a call asks for. -/
def requestedCurrencies (o : DropCopy C) : Event → List String
  | .currenciesUpdate currencies => if o.ready_ && o.canDownload then currencies else []
  | .latch => if o.ready_ && !o.canDownload then o.currencies else []
  | .message (.auth errorCode) =>
    if errorCode = 0 ∧ o.canDownload = true then o.currencies else []
  | _ => []

/-! ## The law -/

/-- Downloads look back as far as after a restart until one has been answered, and less far
    behind that. -/
def LooksBack [Download State C] (env : Env) (s : DropCopy C × Heard) (i : Context × Event) :
    Prop :=
  ∀ x ∈ downloadStarts ((step env s.1 i).2.filterMap Output.queued?),
    x.2 = startFrom i.1
      (if s.2.answered then env.tradesLookback else env.tradesLookbackOnRestart)

/-- Trades are only asked for while a live message has come and a download has been answered,
    or neither, unless the two look-backs make no difference. -/
def InStep (env : Env) (s : DropCopy C × Heard) (i : Context × Event) : Prop :=
  requestedCurrencies s.1 i.2 ≠ [] → s.2.live = s.2.answered ∨
    startFrom i.1 env.tradesLookback = startFrom i.1 env.tradesLookbackOnRestart

/-! ## What a call does -/

variable {env : Env} {ctx : Context} {o : DropCopy C} {event : Event} {r : DropCopy C × List Output}

theorem downloadStarts_currencies (currencies : List String) (startTimestamp : ℤ) :
    downloadStarts ([.privateSubscribe (Json.joined "user.portfolio." "" currencies)
        .subscribeUserPortfolio] ++ (currencies.map .getAccountSummary ++
          currencies.map fun currency => .getUserTradesByCurrency currency startTimestamp)) =
      currencies.map (·, startTimestamp) := by
  simp [downloadStarts, List.filterMap_map]

theorem downloadStarts_states (env : Env) (ctx : Context) (o : DropCopy C) :
    downloadStarts (Stages.before.flatMap (stateRequests env ctx o)) =
      (if o.canDownload = true then o.currencies else []).map
        (·, startTimestamp env ctx o.downloadTradesIsFirst) := by
  cases hcan : o.canDownload <;>
    simp [Stages.before, stateRequests, hcan, downloadStarts, List.filterMap_map]

/-- The flag stays as it is. -/
abbrev KeepsFirst (o : DropCopy C) (_ : List Output) (o' : DropCopy C) : Prop :=
  o'.downloadTradesIsFirst = o.downloadTradesIsFirst

theorem downloadState_keepsFirst (env : Env) (ctx : Context) (state : State) :
    Meets KeepsFirst (downloadState env ctx state : Handler C) := by
  intro o
  by_cases h : state = .done
  · subst h
    rfl
  · exact (downloadState_queues env ctx o h).downloadTradesIsFirst

/-- Nothing but a live message clears the flag. -/
def firstBehind (first : Bool) : Event → Bool
  | .message (.userTrades _) => false
  | _ => first

variable [Download State C]

/-- What a call does with the flag and the download of the session, and when the downloads of
    trades start that it asks for. -/
structure Responds (env : Env) (ctx : Context) (o : DropCopy C) (event : Event)
    (r : DropCopy C × List Output) : Prop where
  first : r.1.downloadTradesIsFirst = firstBehind o.downloadTradesIsFirst event
  idle : Idle r.1.download
  starts : downloadStarts (r.2.filterMap Output.queued?) = (requestedCurrencies o event).map
    (·, startTimestamp env ctx o.downloadTradesIsFirst)

/-- A call that puts requests into the queue. -/
theorem Responds.of_queues {rs : List Json.Request} {o₁ : DropCopy C}
    (hqueues : Queues rs o₁ r.2 r.1) (hidle : Idle o₁.download)
    (hfirst : o₁.downloadTradesIsFirst = firstBehind o.downloadTradesIsFirst event)
    (hstarts : downloadStarts rs = (requestedCurrencies o event).map
      (·, startTimestamp env ctx o.downloadTradesIsFirst)) : Responds env ctx o event r where
  first := hqueues.downloadTradesIsFirst.trans hfirst
  idle := by
    rw [hqueues.download]
    exact hidle
  starts := by rw [hqueues.queued, hstarts]

theorem currenciesUpdate_responds (env : Env) (ctx : Context) (currencies : List String)
    (hidle : Idle o.download) :
    Responds env ctx o (.currenciesUpdate currencies) (currenciesUpdate env ctx currencies o) := by
  by_cases h : o.ready_ = true ∧ o.canDownload = true
  · rw [currenciesUpdate_asks env ctx currencies h]
    refine .of_queues (requestCurrencies_queued env ctx currencies _) hidle rfl ?_
    rw [downloadStarts_currencies]
    simp [requestedCurrencies, h]
  · rw [currenciesUpdate_waits env ctx currencies h]
    refine .of_queues (.refl _) hidle rfl ?_
    simp [requestedCurrencies, h, downloadStarts]

theorem latch_responds (env : Env) (ctx : Context) (hidle : Idle o.download) :
    Responds env ctx o .latch (latch env ctx o) := by
  cases hcan : o.canDownload with
  | true =>
    rw [show latch env ctx o = (o, []) from if_pos hcan]
    refine .of_queues (.refl _) hidle rfl ?_
    simp [requestedCurrencies, hcan, downloadStarts]
  | false =>
    cases hready : o.ready_ with
    | true =>
      rw [latch_asks env ctx hcan hready]
      refine .of_queues (requestCurrencies_queued env ctx o.currencies _) hidle rfl ?_
      rw [downloadStarts_currencies]
      simp [requestedCurrencies, hready, hcan]
    | false =>
      rw [latch_waits env ctx hready]
      refine .of_queues (.refl _) hidle rfl ?_
      simp [requestedCurrencies, hready, downloadStarts]

/-- A quiet call asks for nothing, and clears the flag if it is a live message. -/
theorem quiet_responds (hidle : Idle o.download) (hquiet : event.IsQuiet)
    (h : call env ctx event o = some r) : Responds env ctx o event r := by
  have hcall := call_quiet hquiet h
  refine ⟨?_, by rw [hcall.download]; exact hidle, ?_⟩
  · cases event with
    | currenciesUpdate _ | latch | disconnected => exact hquiet.elim
    | binary => cases h
    | timer =>
      obtain rfl := Option.some.inj h
      simp only [timer]
      split_ifs <;> rfl
    | message value =>
      cases value with
      | auth errorCode =>
        simp only [call, parse, auth, if_pos (show errorCode ≠ 0 from hquiet)] at h
        split_ifs at h
        obtain rfl := Option.some.inj h
        rfl
      | userChanges items =>
        obtain rfl := Option.some.inj h
        rw [(trades_quiet env ctx false items o).1]
        rfl
      | instrumentState | quote _ | ticker _ | chartTrades _ _ => cases h
      | _ =>
        obtain rfl := Option.some.inj h
        rfl
    | _ =>
      obtain rfl := Option.some.inj h
      rfl
  · rw [hcall.queued]
    cases event with
    | currenciesUpdate _ | latch | disconnected => exact hquiet.elim
    | message value =>
      cases value with
      | auth errorCode =>
        have hcode : ¬(errorCode = 0 ∧ o.canDownload = true) := fun h => hquiet h.1
        rw [requestedCurrencies, if_neg hcode]
        rfl
      | _ => rfl
    | _ => rfl

variable [LawfulDownload State C]

/-- A session opens. -/
theorem auth_responds (env : Env) (ctx : Context) (hidle : Idle o.download) :
    Responds env ctx o (.message (.auth 0))
      (advance env ctx (Download.begin downloadCount o.download) o) := by
  have hopened := begin_opens env ctx hidle
  refine ⟨?_, hopened.idle, ?_⟩
  · exact (composes_eq DropCopy.downloadTradesIsFirst).each (downloadState_keepsFirst env ctx) _ _
  · rw [hopened.queued, downloadStarts_states]
    simp [requestedCurrencies]

/-- **The step lemma.** -/
theorem call_responds (hidle : Idle o.download) (h : call env ctx event o = some r) :
    Responds env ctx o event r := by
  by_cases hquiet : event.IsQuiet
  · exact quiet_responds hidle hquiet h
  · cases event with
    | currenciesUpdate currencies =>
      obtain rfl := Option.some.inj h
      exact currenciesUpdate_responds env ctx currencies hidle
    | latch =>
      obtain rfl := Option.some.inj h
      exact latch_responds env ctx hidle
    | disconnected =>
      obtain rfl := Option.some.inj h
      exact ⟨rfl, LawfulDownload.reset_idle _, rfl⟩
    | message value =>
      cases value with
      | auth errorCode =>
        obtain rfl : errorCode = 0 := not_not.mp hquiet
        obtain rfl := Option.some.inj h
        exact auth_responds env ctx hidle
      | _ => exact absurd trivial hquiet
    | _ => exact absurd trivial hquiet

omit [LawfulDownload State C] in
/-- A call that ends the process asks for nothing. -/
theorem call_ended (h : call env ctx event o = none) :
    requestedCurrencies o event = [] := by
  cases event with
  | message value =>
    cases value with
    | auth errorCode =>
      have hcode : errorCode ≠ 0 := by
        rintro rfl
        cases h
      exact if_neg fun hboth => hcode hboth.1
    | _ => rfl
  | currenciesUpdate _ | latch => cases h
  | _ => rfl

/-! ## Runs -/

/-- The flag tells whether a live message has come. -/
structure Remembers (s : DropCopy C × Heard) : Prop where
  first : s.1.downloadTradesIsFirst = !s.2.live
  idle : Idle s.1.download

theorem remembers_initial (streamId : UInt16) (account key : String) :
    Remembers ((initial streamId account key : DropCopy C), Heard.none) :=
  ⟨rfl, LawfulDownload.fresh_idle⟩

theorem Remembers.step {s t : DropCopy C × Heard} {i : Context × Event} (h : Remembers s)
    (ht : (keeping (step env) Heard.next s i).1 = some t) : Remembers t := by
  obtain ⟨hnext, hheard⟩ := keeping_some ht
  obtain ⟨o, heard⟩ := s
  obtain ⟨o', heard'⟩ := t
  obtain ⟨ctx, event⟩ := i
  simp only at hnext hheard
  subst hheard
  obtain hended | ⟨r, hcall, hstep⟩ := step_cases env o ctx event
  · rw [hended] at hnext
    cases hnext
  · rw [hstep] at hnext
    obtain rfl := Option.some.inj hnext
    have hresponds := call_responds h.idle hcall
    have hbefore := h.first
    refine ⟨hresponds.first.trans ?_, hresponds.idle⟩
    cases event with
    | message value => cases value <;> first | rfl | exact hbefore
    | _ => exact hbefore

/-- A call looks back as it should exactly if the flag is up to date with the answers, or makes
    no difference. -/
theorem Remembers.looksBack_iff (hrestart : env.tradesLookbackOnRestart ≠ 0)
    {s : DropCopy C × Heard} (h : Remembers s) (i : Context × Event) :
    LooksBack env s i ↔ InStep env s i := by
  obtain ⟨o, heard⟩ := s
  obtain ⟨ctx, event⟩ := i
  have hstart : startTimestamp env ctx o.downloadTradesIsFirst =
      startFrom ctx (if heard.live then env.tradesLookback else env.tradesLookbackOnRestart) := by
    have hfirst : o.downloadTradesIsFirst = !heard.live := h.first
    rw [startTimestamp, downloadTradesLookback, hfirst, startFrom]
    cases heard.live <;> simp [hrestart]
  have hstarts : startFrom ctx
        (if heard.live then env.tradesLookback else env.tradesLookbackOnRestart) =
      startFrom ctx
        (if heard.answered then env.tradesLookback else env.tradesLookbackOnRestart) ↔
      heard.live = heard.answered ∨
        startFrom ctx env.tradesLookback = startFrom ctx env.tradesLookbackOnRestart := by
    cases heard.live <;> cases heard.answered <;> simp [eq_comm]
  unfold LooksBack InStep
  cases hcall : call env ctx event o with
  | none =>
    have hended : DropCopy.step env o (ctx, event) = (none, []) := by
      simp [DropCopy.step, hcall]
    rw [hended, call_ended hcall]
    simp [downloadStarts]
  | some r =>
    have hstep : DropCopy.step env o (ctx, event) = (some r.1, r.2) := by
      simp [DropCopy.step, hcall]
    rw [hstep, (call_responds h.idle hcall).starts, hstart]
    constructor
    · intro hall hne
      obtain ⟨currency, hmem⟩ := List.exists_mem_of_ne_nil _ hne
      exact hstarts.mp (hall _ (List.mem_map_of_mem hmem))
    · intro hin x hx
      obtain ⟨currency, hmem, rfl⟩ := List.mem_map.mp hx
      exact hstarts.mpr (hin (List.ne_nil_of_mem hmem))

/-- **The restart look-back is used once.** In every run of the stream all downloads look back
    as they should exactly if, whenever trades are asked for, a live message has come and a
    download has been answered, or neither, or else the two look-backs come to the same start. -/
theorem lookbacks_iff (hrestart : env.tradesLookbackOnRestart ≠ 0) (streamId : UInt16)
    (account key : String) (is : List (Context × Event)) :
    Guarded (keeping (step env) Heard.next) (LooksBack env)
        ((initial streamId account key : DropCopy C), Heard.none) is ↔
      Guarded (keeping (step env) Heard.next) (InStep env)
        ((initial streamId account key : DropCopy C), Heard.none) is :=
  Guarded.congr (A := fun _ _ => True) (fun _ _ _ hs _ ht => hs.step ht)
    (fun _ i hs _ => hs.looksBack_iff hrestart i) (remembers_initial streamId account key)
    (guarded_of_forall fun _ _ _ => trivial)

/-- A day behind a restart, and else an hour. -/
def Env.dayOnRestart : Env :=
  { Env.plain with tradesLookback := 3600000000000, tradesLookbackOnRestart := 86400000000000 }

/-- The first session asks for the trades of a day. -/
theorem first_session_looks_back :
    Guarded (keeping (step .dayOnRestart) Heard.next) (LooksBack .dayOnRestart)
      (plain, Heard.none) [(Context.plain, .currenciesUpdate ["BTC"]), (Context.plain, .latch),
        (Context.plain, .message (.auth 0))] := by
  refine (lookbacks_iff (by decide) 3 "a" "key" _).mpr ⟨fun h => absurd rfl h, ?_⟩
  rintro _ ⟨⟩
  refine ⟨fun h => absurd rfl h, ?_⟩
  rintro _ ⟨⟩
  exact ⟨fun _ => .inl rfl, fun _ _ => trivial⟩

/-- A download is answered while nothing is traded: the next session asks for a day again. -/
theorem answered_download_repeated :
    ¬Guarded (keeping (step .dayOnRestart) Heard.next) (LooksBack .dayOnRestart)
      (plain, Heard.none) [(Context.plain, .currenciesUpdate ["BTC"]), (Context.plain, .latch),
        (Context.plain, .message (.auth 0)),
        (Context.plain, .message (.getUserTradesByCurrencyAck [])),
        (Context.plain, .disconnected), (Context.plain, .message (.auth 0))] := by
  rintro ⟨-, h⟩
  obtain ⟨-, h⟩ := h _ rfl
  obtain ⟨-, h⟩ := h _ rfl
  obtain ⟨-, h⟩ := h _ rfl
  obtain ⟨-, h⟩ := h _ rfl
  obtain ⟨h, -⟩ := h _ rfl
  exact absurd (h ("BTC", -86399999) (List.mem_singleton.mpr rfl)) (by decide)

/-- A live message comes before the first download: it asks for an hour only. -/
theorem live_trade_shortens_download :
    ¬Guarded (keeping (step .dayOnRestart) Heard.next) (LooksBack .dayOnRestart)
      (plain, Heard.none) [(Context.plain, .currenciesUpdate ["BTC"]),
        (Context.plain, .message (.auth 0)), (Context.plain, .message (.userTrades [])),
        (Context.plain, .latch)] := by
  rintro ⟨-, h⟩
  obtain ⟨-, h⟩ := h _ rfl
  obtain ⟨-, h⟩ := h _ rfl
  obtain ⟨h, -⟩ := h _ rfl
  exact absurd (h ("BTC", -3599999) (List.mem_singleton.mpr rfl)) (by decide)

end DropCopy

end DeribitGateway
