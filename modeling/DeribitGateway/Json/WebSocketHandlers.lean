import DeribitGateway.Json.WebSocket

/-!
# What the handlers of the web socket stream do

`Rests` is a call that leaves the session, the requests and the symbols where they are, and
sends nothing that speaks of the session. All calls but three do so (`call_rests`): a
log-in and a response to a request move the download, and a disconnect ends the session.
-/

namespace DeribitGateway

open Emission StagedDownload

namespace WebSocket

variable {W Y R : Type} {env : Env} {ctx : Context}

/-- The status `READY`. -/
def Output.IsReady : Output → Prop
  | .streamStatus value => value.connectionStatus = .ready
  | _ => False

/-- A request that is no log-in. -/
def Output.IsSent : Output → Prop
  | .sentText (.auth ..) => False
  | .sentText _ => True
  | _ => False

/-- Neither `READY` nor a request, nor what the controller is told. -/
def Output.IsSilent : Output → Prop
  | .streamStatus value => value.connectionStatus ≠ .ready
  | .sentText (.auth ..) => True
  | .sentText _ => False
  | .latch => False
  | _ => True

theorem Output.IsSilent.not_ready {x : Output} (h : x.IsSilent) : ¬x.IsReady := by
  cases x with
  | streamStatus value => exact h
  | _ => exact id

theorem Output.IsSilent.not_sent {x : Output} (h : x.IsSilent) : ¬x.IsSent := by
  cases x with
  | sentText request =>
    cases request with
    | auth => exact id
    | _ => exact fun _ => h
  | _ => exact id

abbrev Silent (os : List Output) : Prop := ∀ x ∈ os, x.IsSilent

theorem silent_nil : Silent [] := fun _ hx => absurd hx List.not_mem_nil

theorem silent_single {x : Output} (h : x.IsSilent) : Silent [x] := by
  intro y hy
  obtain rfl := List.mem_singleton.mp hy
  exact h

/-- The session, the requests and the symbols stay where they are. -/
structure Rests (s : Scope W Y R) (os : List Output) (t : Scope W Y R) : Prop where
  index : t.stream.index = s.stream.index
  master : t.stream.master = s.stream.master
  ready_ : t.stream.ready_ = s.stream.ready_
  download : t.stream.download = s.stream.download
  requests : t.requests = s.requests
  symbols : t.shared.symbols = s.shared.symbols
  allSymbols : t.shared.allSymbols = s.shared.allSymbols
  silent : Silent os

theorem composes_rests : Composes (Rests : Scope W Y R → List Output → Scope W Y R → Prop) where
  refl _ := ⟨rfl, rfl, rfl, rfl, rfl, rfl, rfl, silent_nil⟩
  trans h h' :=
    ⟨h'.index.trans h.index, h'.master.trans h.master, h'.ready_.trans h.ready_,
      h'.download.trans h.download, h'.requests.trans h.requests, h'.symbols.trans h.symbols,
      h'.allSymbols.trans h.allSymbols, fun x hx =>
        (List.mem_append.mp hx).elim (h.silent x) (h'.silent x)⟩

theorem emit_rests {x : Output} (h : x.IsSilent) (s : Scope W Y R) : Rests s [x] s :=
  ⟨rfl, rfl, rfl, rfl, rfl, rfl, rfl, silent_single h⟩

theorem enqueue_rests (request : Json.Request) :
    Meets Rests (enqueue request : Handler W Y R) := by
  intro s
  exact ⟨rfl, rfl, rfl, rfl, rfl, rfl, rfl, silent_single trivial⟩

theorem publish_rests {connectionStatus : ConnectionStatus} (h : connectionStatus ≠ .ready)
    (reason : String) : Meets Rests (publish connectionStatus reason : Handler W Y R) := by
  intro s
  exact ⟨rfl, rfl, rfl, rfl, rfl, rfl, rfl, silent_single h⟩

theorem subscribeChartTrades_rests (symbols : List String) :
    Meets Rests (subscribeChartTrades symbols : Handler W Y R) := by
  apply composes_rests.seq (enqueue_rests _)
  intro s
  exact ⟨rfl, rfl, rfl, rfl, rfl, rfl, rfl, silent_nil⟩

theorem subscribeSymbols_rests (symbols : List String) :
    Meets Rests (subscribeSymbols env symbols : Handler W Y R) := by
  apply Meets.ite
  · intro _
    exact composes_rests.skip
  · intro _
    apply composes_rests.seq
    · exact Meets.ite (fun _ => composes_rests.skip) fun _ => enqueue_rests _
    · apply composes_rests.seq (enqueue_rests _)
      exact Meets.ite (fun _ => subscribeChartTrades_rests symbols) fun _ => composes_rests.skip

theorem subscribe_rests [Symbols Y] (startFrom : ℕ) :
    Meets Rests (subscribe env startFrom : Handler W Y R) := by
  intro s
  unfold subscribe
  split_ifs
  · exact subscribeSymbols_rests _ s
  · exact composes_rests.refl s

theorem upgraded_rests : Meets Rests (upgraded env ctx : Handler W Y R) := by
  apply composes_rests.seq
  · intro s
    exact emit_rests (by trivial) s
  · exact publish_rests (by simp) ""

theorem quote_rests (value : Json.Quote) : Meets Rests (quote env value : Handler W Y R) := by
  intro s
  unfold quote
  split_ifs
  · split
    · exact composes_rests.refl s
    · refine composes_rests.seq ?_ ?_ s
      · intro s
        exact ⟨rfl, rfl, rfl, rfl, rfl, rfl, rfl, silent_nil⟩
      · intro s
        simp only [emit_apply]
        split_ifs
        · exact composes_rests.refl s
        · exact emit_rests (by trivial) s
  · exact composes_rests.refl s

theorem ticker_rests (value : Json.Ticker) : Meets Rests (ticker env value : Handler W Y R) := by
  intro s
  unfold ticker
  simp only
  split_ifs
  · refine composes_rests.seq ?_ ?_ s
    · intro s
      exact ⟨rfl, rfl, rfl, rfl, rfl, rfl, rfl, silent_nil⟩
    · intro s
      exact emit_rests (by trivial) s
  · exact composes_rests.refl s

variable [Symbols Y] [LimitRequest R] [Download State W]

/-- A message that is no response to a log-in. -/
theorem parse_rests {value : Json.Message} (hvalue : ∀ errorCode, value ≠ .auth errorCode)
    {s : Scope W Y R} {r : Scope W Y R × List Output} (h : parse env value s = some r) :
    Rests s r.2 r.1 := by
  cases value with
  | auth errorCode => exact absurd rfl (hvalue errorCode)
  | platformState value =>
    simp only [parse] at h
    split_ifs at h
    obtain rfl := Option.some.inj h
    exact emit_rests (by trivial) s
  | instrumentState =>
    simp only [parse] at h
    split_ifs at h
    obtain rfl := Option.some.inj h
    exact composes_rests.refl s
  | subscribeAck errorCode =>
    obtain rfl := Option.some.inj h
    exact composes_rests.refl s
  | quote value =>
    obtain rfl := Option.some.inj h
    exact quote_rests value s
  | ticker value =>
    obtain rfl := Option.some.inj h
    exact ticker_rests value s
  | chartTrades symbol interval =>
    obtain rfl := Option.some.inj h
    exact composes_rests.refl s
  | _ => cases h

/-- A call that does not move the download and does not empty the queue. -/
def Event.Rests : Event → Prop
  | .timer => False
  | .disconnected => False
  | .message (.auth _) => False
  | _ => True

/-- **Calls at which the session rests.** -/
theorem call_rests {event : Event} (hevent : event.Rests) {s : Scope W Y R}
    {r : Scope W Y R × List Output} (h : call env ctx event s = some r) : Rests s r.2 r.1 := by
  cases event with
  | timer => exact hevent.elim
  | disconnected => exact hevent.elim
  | subscribe startFrom =>
    obtain rfl := Option.some.inj h
    exact subscribe_rests startFrom s
  | ready =>
    obtain rfl := Option.some.inj h
    exact upgraded_rests s
  | latency sample =>
    obtain rfl := Option.some.inj h
    exact emit_rests (by trivial) s
  | message value =>
    refine parse_rests ?_ h
    rintro errorCode rfl
    exact hevent
  | binary => cases h
  | _ =>
    obtain rfl := Option.some.inj h
    exact composes_rests.refl s

/-! ## What is known of the symbols -/

/-- No call changes what is known of the symbols. -/
def KeepsSymbols (s : Scope W Y R) (_ : List Output) (t : Scope W Y R) : Prop :=
  (t.shared.symbols, t.shared.allSymbols) = (s.shared.symbols, s.shared.allSymbols)

omit [Symbols Y] [LimitRequest R] [Download State W] in
theorem composes_keepsSymbols :
    Composes (KeepsSymbols : Scope W Y R → List Output → Scope W Y R → Prop) :=
  composes_eq fun s : Scope W Y R => (s.shared.symbols, s.shared.allSymbols)

omit [Symbols Y] [LimitRequest R] [Download State W] in
theorem Rests.keepsSymbols {s t : Scope W Y R} {os : List Output} (h : Rests s os t) :
    KeepsSymbols s os t :=
  Prod.ext h.symbols h.allSymbols

omit [Download State W] in
theorem downloadState_keepsSymbols (env : Env) (state : State) :
    Meets KeepsSymbols (downloadState env state : Handler W Y R) := by
  have hR : Composes (KeepsSymbols : Scope W Y R → List Output → Scope W Y R → Prop) :=
    composes_keepsSymbols
  cases state with
  | undefined => exact hR.skip
  | currencies =>
    intro s
    simp only [downloadState]
    split_ifs
    · rfl
    · rfl
  | instruments =>
    intro s
    simp only [downloadState]
    split_ifs
    · rfl
    · rfl
  | subscribe =>
    refine hR.seq ?_ (hR.seq ?_ (hR.seq ?_ ?_))
    · intro s
      rfl
    · intro s
      rfl
    · intro s
      simp only
      split_ifs
      · rfl
      · rfl
    · intro s
      exact (subscribe_rests 0 s).keepsSymbols
  | done =>
    intro s
    rfl

/-- **All calls.** -/
theorem call_keepsSymbols {event : Event} {s : Scope W Y R} {r : Scope W Y R × List Output}
    (h : call env ctx event s = some r) : KeepsSymbols s r.2 r.1 := by
  have hadvance (move : WebSocket W → W × List State) (s : Scope W Y R) :
      KeepsSymbols s (advance env move s).2 (advance env move s).1 :=
    composes_keepsSymbols.each (downloadState_keepsSymbols env) _ _
  cases event with
  | timer =>
    obtain rfl := Option.some.inj h
    unfold timer
    split_ifs
    · refine composes_keepsSymbols.seq ?_ (composes_keepsSymbols.seq ?_ ?_) s
      · intro s
        simp only
        split_ifs
        · rfl
        · rfl
      · intro s
        simp only [checkCurrencies]
        split_ifs
        · exact hadvance _ s
        · rfl
      · intro s
        simp only [checkInstruments]
        split_ifs
        · exact hadvance _ s
        · rfl
    · rfl
  | disconnected =>
    obtain rfl := Option.some.inj h
    rfl
  | message value =>
    by_cases hauth : ∃ errorCode, value = .auth errorCode
    · obtain ⟨errorCode, rfl⟩ := hauth
      obtain rfl := Option.some.inj h
      exact hadvance _ s
    · exact (parse_rests (fun errorCode heq => hauth ⟨errorCode, heq⟩) h).keepsSymbols
  | _ => exact (call_rests (by trivial) h).keepsSymbols

end WebSocket

end DeribitGateway
