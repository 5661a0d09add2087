import DeribitGateway.Controller.Handlers
import DeribitGateway.Json.DropCopyHandlers
import DeribitGateway.Json.RestHandlers
import DeribitGateway.Json.WebSocketHandlers

/-!
# The latch

The drop copies hold back what they ask for in each currency until a web socket stream tells
the controller that its download is done (`Latch`). Of these streams only the master waits for
the currencies and the instruments, and it waits for responses, not for what has been made of
them: the REST client commits a request whatever the response is.

A ghost remembers which of the two have been processed (`Acked`). As long as one of them has
not, the downloads are held back (`Shut`), unless one of two things happens, which `Waits`
excludes: a log-in of a stream that is not the master, and a response that is not processed.
-/

namespace DeribitGateway

namespace Controller

open Emission StagedDownload Transducer

variable {Y R W C D : Type} {env : Env} {ctx : Context Y} {acked : Acked}

/-! ## What has been processed -/

/-- A list of instruments is processed: it is handled, and no item throws. -/
def processed (env : Env) (ctx : Context Y) (response : Rest.Response (List Json.Instrument)) :
    Bool :=
  response.body.any fun items => ∀ i < items.length, ¬Rest.Throws env.rest ctx.rest i

/-- The requests of which a response has been processed. -/
structure Acked where
  currencies : Bool
  instruments : Bool
  deriving DecidableEq

def Acked.none : Acked := ⟨false, false⟩

def Acked.Both (acked : Acked) : Prop := acked.currencies = true ∧ acked.instruments = true

def Acked.next (env : Env) (acked : Acked) (i : Context Y × Event) : Acked :=
  match i.2 with
  | .rest (.getCurrenciesAck response) =>
    { acked with currencies := acked.currencies || response.body.isSome }
  | .rest (.getInstrumentsAck response) =>
    { acked with instruments := acked.instruments || processed env i.1 response }
  | _ => acked

/-- What has been processed remains so. -/
theorem Acked.next_mono (env : Env) (acked : Acked) (i : Context Y × Event) :
    (acked.currencies = true → (acked.next env i).currencies = true) ∧
      (acked.instruments = true → (acked.next env i).instruments = true) := by
  unfold Acked.next
  split
  · exact ⟨fun h => by simp [h], id⟩
  · exact ⟨id, fun h => by simp [h]⟩
  · exact ⟨id, id⟩

/-- A request that has been answered has had a response that was processed. -/
structure Answered [LimitRequest R] (acked : Acked) (requests : Requests R) : Prop where
  currencies : LimitRequest.hasResponse requests.currencies = true → acked.currencies = true
  instruments : LimitRequest.hasResponse requests.instruments = true → acked.instruments = true

/-! ## Web socket streams -/

/-- The download of a web socket stream is not ahead of what has been processed. -/
structure Waiting [Download WebSocket.State W] (acked : Acked) (o : WebSocket W) : Prop where
  master : o.master = true → Download.state o.download = .instruments → acked.currencies = true
  other : o.master = false → Idle o.download

/-- A stream that waits, and finds what it waits for. -/
def Held [LimitRequest R] [Download WebSocket.State W] (acked : Acked)
    (s : WebSocket.Scope W Y R) : Prop :=
  Waiting acked s.stream ∧ Answered acked s.requests

theorem waiting_initial [Download WebSocket.State W] [LawfulDownload WebSocket.State W]
    (acked : Acked) (streamId : UInt16) (index : ℕ) (master : Bool) :
    Waiting acked (.initial streamId index master : WebSocket W) where
  master _ hstate := absurd hstate (LawfulDownload.fresh_idle.state_ne nofun nofun)
  other _ := LawfulDownload.fresh_idle

section

variable [Download WebSocket.State W] [LimitRequest R]

/-- The handler of a stream does not tell the controller that the download is done. -/
abbrev Holds (acked : Acked) :
    WebSocket.Scope W Y R → List WebSocket.Output → WebSocket.Scope W Y R → Prop :=
  Preserves (Held acked) (· ≠ .latch)

theorem rests_holds {s t : WebSocket.Scope W Y R} {os : List WebSocket.Output}
    (h : WebSocket.Rests s os t) : Holds acked s os t := by
  rintro ⟨hwaiting, hanswered⟩
  refine ⟨⟨⟨?_, ?_⟩, ?_⟩, ?_⟩
  · rw [h.master, h.download]
    exact hwaiting.master
  · rw [h.master, h.download]
    exact hwaiting.other
  · rw [h.requests]
    exact hanswered
  · rintro x hx rfl
    exact h.silent _ hx

variable [Symbols Y] [LawfulLimitRequest R]

/-- The master asks for the currencies, or for the instruments. -/
theorem asks_holds (env : WebSocket.Env) {state : WebSocket.State}
    (hstate : state = .currencies ∨ state = .instruments) :
    Meets (Holds acked)
      (WebSocket.downloadState env state : WebSocket.Handler W Y R) := by
  intro s
  rintro ⟨hwaiting, hanswered⟩
  obtain rfl | rfl := hstate
  · simp only [WebSocket.downloadState]
    split_ifs
    · refine ⟨⟨⟨hwaiting.master, hwaiting.other⟩, ?_, hanswered.instruments⟩, ?_⟩
      · intro hresponse
        exact hanswered.currencies (LawfulLimitRequest.request_hasResponse _ hresponse)
      · intro x hx
        obtain rfl := List.mem_singleton.mp hx
        intro hlatch
        cases hlatch
    · exact (composes_preserves _ _).refl s ⟨hwaiting, hanswered⟩
  · simp only [WebSocket.downloadState]
    split_ifs
    · refine ⟨⟨⟨hwaiting.master, hwaiting.other⟩, hanswered.currencies, ?_⟩, ?_⟩
      · intro hresponse
        exact hanswered.instruments (LawfulLimitRequest.request_hasResponse _ hresponse)
      · intro x hx
        obtain rfl := List.mem_singleton.mp hx
        intro hlatch
        cases hlatch
    · exact (composes_preserves _ _).refl s ⟨hwaiting, hanswered⟩

/-- The master's download enters one of the two stages in which it waits, or none. -/
theorem advance_holds (env : WebSocket.Env)
    {move : WebSocket W → W × List WebSocket.State} {s : WebSocket.Scope W Y R}
    (hmaster : s.stream.master = true)
    (hentered : ∀ state ∈ (move s.stream).2, state = .currencies ∨ state = .instruments)
    (hstate : Download.state (move s.stream).1 = .instruments → acked.currencies = true) :
    Holds acked s (WebSocket.advance env move s).2 (WebSocket.advance env move s).1 := by
  rintro ⟨-, hanswered⟩
  apply (composes_preserves _ _).each_of_mem fun state hmem => asks_holds env (hentered state hmem)
  refine ⟨⟨fun _ => hstate, ?_⟩, hanswered⟩
  intro hother
  cases hmaster.symm.trans hother

variable [LawfulDownload WebSocket.State W]

theorem auth_holds (env : WebSocket.Env) {s : WebSocket.Scope W Y R}
    (hmaster : s.stream.master = true) :
    Holds acked s (WebSocket.auth env s).2 (WebSocket.auth env s).1 := by
  intro hheld
  apply advance_holds env hmaster ?_ ?_ hheld
  · obtain ⟨-, hstays⟩ | henters :=
      begin_cases (WebSocket.downloadCount s.stream.master) s.stream.download
    · rw [hstays]
      exact nofun
    · rw [hmaster] at henters ⊢
      rw [(henters.single (by decide)).1]
      exact fun state hmem => .inl (List.mem_singleton.mp hmem)
  · obtain ⟨-, hstays⟩ | henters :=
      begin_cases (WebSocket.downloadCount s.stream.master) s.stream.download
    · rw [hstays]
      exact hheld.1.master hmaster
    · rw [hmaster] at henters ⊢
      rw [(henters.single (by decide)).2]
      exact nofun

theorem checkCurrencies_holds (env : WebSocket.Env) :
    Meets (Holds acked) (WebSocket.checkCurrencies env : WebSocket.Handler W Y R) := by
  intro s hheld
  unfold WebSocket.checkCurrencies
  split_ifs with h
  · obtain ⟨hstate, hresponse⟩ := h
    have hmaster : s.stream.master = true := by
      rw [← Bool.not_eq_false]
      intro hother
      exact (hheld.1.other hother).state_ne (s := .currencies) nofun nofun hstate
    have hbefore : WebSocket.State.currencies ∈ Stages.before := by decide
    apply advance_holds env hmaster ?_ ?_ hheld
    · obtain hstays | henters :=
        check_cases (WebSocket.downloadCount s.stream.master) hbefore hstate
      · rw [hstays.entered_eq]
        exact nofun
      · rw [hmaster] at henters ⊢
        rw [(henters.single (by decide)).1]
        exact fun state hmem => .inr (List.mem_singleton.mp hmem)
    · intro _
      exact hheld.2.currencies hresponse
  · exact (composes_preserves _ _).refl s hheld

omit [LawfulLimitRequest R] [LawfulDownload WebSocket.State W] in
/-- A response with the instruments is not there before both have been processed. -/
theorem checkInstruments_holds (env : WebSocket.Env) (hboth : ¬acked.Both) :
    Meets (Holds acked) (WebSocket.checkInstruments env : WebSocket.Handler W Y R) := by
  intro s hheld
  unfold WebSocket.checkInstruments
  split_ifs with h
  · obtain ⟨hstate, hresponse⟩ := h
    -- the stage speaks for the currencies, and the response for the instruments
    refine absurd ⟨hheld.1.master ?_ hstate, hheld.2.instruments hresponse⟩ hboth
    rw [← Bool.not_eq_false]
    intro hother
    exact (hheld.1.other hother).state_ne (s := .instruments) nofun nofun hstate
  · exact (composes_preserves _ _).refl s hheld

/-- **Calls of a web socket stream**, unless it is a log-in of one that is not the master. -/
theorem webSocket_holds {env : WebSocket.Env} {ctx : WebSocket.Context} {event : WebSocket.Event}
    (hboth : ¬acked.Both) {s : WebSocket.Scope W Y R}
    {r : WebSocket.Scope W Y R × List WebSocket.Output}
    (hmaster : ∀ errorCode, event = .message (.auth errorCode) → s.stream.master = true)
    (h : WebSocket.call env ctx event s = some r) : Holds acked s r.2 r.1 := by
  by_cases hrests : event.Rests
  · exact rests_holds (WebSocket.call_rests hrests h)
  · cases event with
    | timer =>
      obtain rfl := Option.some.inj h
      refine Meets.ite (fun _ => ?_) (fun _ => (composes_preserves _ _).skip) s
      refine (composes_preserves _ _).seq ?_
        ((composes_preserves _ _).seq (checkCurrencies_holds env)
          (checkInstruments_holds env hboth))
      intro s hheld
      simp only
      split_ifs
      · refine ⟨⟨⟨hheld.1.master, hheld.1.other⟩, hheld.2⟩, ?_⟩
        intro x hx
        obtain ⟨request, -, rfl⟩ := List.mem_map.mp hx
        exact nofun
      · exact (composes_preserves _ _).refl s hheld
    | disconnected =>
      obtain rfl := Option.some.inj h
      intro hheld
      have hidle := LawfulDownload.reset_idle s.stream.download
      refine ⟨⟨⟨?_, fun _ => hidle⟩, hheld.2⟩, ?_⟩
      · intro _ hstate
        exact absurd hstate (hidle.state_ne nofun nofun)
      · intro x hx
        obtain rfl := List.mem_singleton.mp hx
        exact nofun
    | message value =>
      cases value with
      | auth errorCode =>
        obtain rfl := Option.some.inj h
        exact auth_holds env (hmaster errorCode rfl)
      | _ => exact absurd trivial hrests
    | _ => exact absurd trivial hrests

end

/-! ## Drop copies -/

/-- A download of trades is put into the queue. -/
def IsTradeDownload : DropCopy.Output → Prop
  | .queued (.getUserTradesByCurrency ..) => True
  | _ => False

/-- A drop copy that the latch has not reached holds its downloads back. -/
abbrev HoldsBack : DropCopy C → List DropCopy.Output → DropCopy C → Prop :=
  Preserves (fun o => o.canDownload = false) fun x => ¬IsTradeDownload x

theorem queues_holdsBack {rs : List Json.Request} {o o' : DropCopy C}
    {os : List DropCopy.Output} (h : DropCopy.Queues rs o os o')
    (hrs : o.canDownload = false → DropCopy.tradeDownloads rs = []) : HoldsBack o os o' := by
  intro hcan
  refine ⟨h.canDownload.trans hcan, ?_⟩
  intro x hx htrade
  cases x with
  | queued request =>
    cases request with
    | getUserTradesByCurrency currency startTimestamp =>
      have hmem : .getUserTradesByCurrency currency startTimestamp ∈ rs := by
        rw [← h.queued]
        exact List.mem_filterMap.mpr ⟨_, hx, rfl⟩
      have hdownload : currency ∈ DropCopy.tradeDownloads rs :=
        List.mem_filterMap.mpr ⟨_, hmem, rfl⟩
      rw [hrs hcan] at hdownload
      cases hdownload
    | _ => exact htrade
  | _ => exact htrade

theorem quiet_holdsBack {o o' : DropCopy C} {os : List DropCopy.Output}
    (h : DropCopy.Quiet o os o') : HoldsBack o os o' := by
  intro hcan
  refine ⟨h.canDownload.trans hcan, ?_⟩
  intro x hx htrade
  cases x with
  | queued request =>
    have hqueued : request ∈ os.filterMap DropCopy.Output.queued? :=
      List.mem_filterMap.mpr ⟨_, hx, rfl⟩
    rw [h.queued] at hqueued
    cases hqueued
  | _ => exact htrade

theorem downloadState_holdsBack (env : DropCopy.Env) (ctx : DropCopy.Context)
    (state : DropCopy.State) :
    Meets HoldsBack (DropCopy.downloadState env ctx state : DropCopy.Handler C) := by
  intro o
  by_cases hdone : state = .done
  · subst hdone
    intro hcan
    refine ⟨hcan, ?_⟩
    intro x hx
    obtain rfl := List.mem_singleton.mp hx
    exact id
  · apply queues_holdsBack (DropCopy.downloadState_queues env ctx o hdone)
    intro hcan
    cases state with
    | done => exact absurd rfl hdone
    | _ => simp [DropCopy.stateRequests, DropCopy.tradeDownloads, hcan]

/-- **Calls of a drop copy** before the latch. -/
theorem dropCopy_holdsBack [Download DropCopy.State C] {env : DropCopy.Env}
    {ctx : DropCopy.Context} {event : DropCopy.Event} (hlatch : event ≠ .latch) {o : DropCopy C}
    {r : DropCopy C × List DropCopy.Output} (h : DropCopy.call env ctx event o = some r) :
    HoldsBack o r.2 r.1 := by
  by_cases hquiet : event.IsQuiet
  · exact quiet_holdsBack (DropCopy.call_quiet hquiet h)
  · cases event with
    | currenciesUpdate currencies =>
      obtain rfl := Option.some.inj h
      intro hcan
      rw [DropCopy.currenciesUpdate_waits env ctx currencies (by simp [hcan])]
      exact ⟨hcan, fun _ hx => absurd hx List.not_mem_nil⟩
    | latch => exact absurd rfl hlatch
    | disconnected =>
      obtain rfl := Option.some.inj h
      intro hcan
      refine ⟨hcan, ?_⟩
      intro x hx
      obtain rfl := List.mem_singleton.mp hx
      exact id
    | message value =>
      cases value with
      | auth errorCode =>
        obtain rfl : errorCode = 0 := not_not.mp hquiet
        obtain rfl := Option.some.inj h
        intro hcan
        exact (composes_preserves _ _).each (downloadState_holdsBack env ctx) _ _ hcan
      | _ => exact absurd trivial hquiet
    | _ => exact absurd trivial hquiet

/-! ## The controller -/

/-- The latch, or a download of trades. -/
def Output.IsLatched : Output → Prop
  | .latch => True
  | .dropCopy _ value => IsTradeDownload value
  | _ => False

theorem not_latched_map {α : Type} {tag : α → Output} (h : ∀ x, ¬(tag x).IsLatched)
    (xs : List α) : ∀ y ∈ xs.map tag, ¬y.IsLatched := by
  intro y hy
  obtain ⟨x, -, rfl⟩ := List.mem_map.mp hy
  exact h x

variable [LimitRequest R] [Download WebSocket.State W]

/-- The downloads are held back: no stream is ahead of what has been processed. -/
structure Shut (acked : Acked) (c : Controller Y R W C D) : Prop where
  answered : Answered acked c.requests
  webSocket : ∀ o ∈ c.webSocket, Waiting acked o
  dropCopy : ∀ o ∈ c.dropCopy, o.canDownload = false

abbrev KeepsShut (acked : Acked) :
    Controller Y R W C D → List Output → Controller Y R W C D → Prop :=
  Preserves (Shut acked) fun x => ¬x.IsLatched

theorem Waiting.mono {acked acked' : Acked} {o : WebSocket W} (h : Waiting acked o)
    (hcurrencies : acked.currencies = true → acked'.currencies = true) : Waiting acked' o :=
  ⟨fun hmaster hstate => hcurrencies (h.master hmaster hstate), h.other⟩

omit [Download WebSocket.State W] in
theorem Answered.mono {acked acked' : Acked} {requests : Requests R}
    (h : Answered acked requests) (hcurrencies : acked.currencies = true → acked'.currencies = true)
    (hinstruments : acked.instruments = true → acked'.instruments = true) :
    Answered acked' requests :=
  ⟨fun hresponse => hcurrencies (h.currencies hresponse),
    fun hresponse => hinstruments (h.instruments hresponse)⟩

theorem onDropCopy_keepsShut (ctx : Context Y) (k : ℕ)
    {f : DropCopy.Context → DropCopy.Handler C} (h : ∀ ctx, Meets HoldsBack (f ctx)) :
    Meets (KeepsShut acked) (onDropCopy ctx k f : Handler Y R W C D) := by
  apply onDropCopy_meets (composes_preserves _ _)
  intro c o ho hshut
  obtain ⟨hcan, hquiet⟩ := h _ o (hshut.dropCopy o (List.mem_of_getElem? ho))
  refine ⟨⟨hshut.answered, hshut.webSocket, ?_⟩, ?_⟩
  · intro p hp
    obtain hp | rfl := List.mem_or_eq_of_mem_set hp
    · exact hshut.dropCopy p hp
    · exact hcan
  · intro y hy
    obtain ⟨x, hx, rfl⟩ := List.mem_map.mp hy
    exact hquiet x hx

/-- What a web socket stream leaves behind. -/
theorem Shut.putWebSocket {c : Controller Y R W C D} (h : Shut acked c) (k : ℕ)
    {s : WebSocket.Scope W Y R} (hs : Held acked s) : Shut acked (c.putWebSocket k s) := by
  refine ⟨hs.2, ?_, h.dropCopy⟩
  intro o ho
  obtain ho | rfl := List.mem_or_eq_of_mem_set ho
  · exact h.webSocket o ho
  · exact hs.1

theorem onMarketData_keepsShut (k : ℕ) (f : MarketData.Handler D Y) :
    Meets (KeepsShut acked) (onMarketData k f : Handler Y R W C D) := by
  apply onMarketData_meets (composes_preserves _ _)
  intro c o _ hshut
  exact ⟨⟨hshut.answered, hshut.webSocket, hshut.dropCopy⟩, not_latched_map (fun _ => id) _⟩

theorem currenciesUpdate_keepsShut (env : Env) (ctx : Context Y) (currencies : List String) :
    Meets (KeepsShut acked) (currenciesUpdate env ctx currencies : Handler Y R W C D) := by
  apply (composes_preserves _ _).seq (emit_preserves id)
  intro c
  refine (composes_preserves _ _).each (fun k => onDropCopy_keepsShut ctx k ?_) _ c
  intro ctx o hcan
  rw [DropCopy.currenciesUpdate_waits env.dropCopy ctx currencies (by simp [hcan])]
  exact ⟨hcan, fun _ hx => absurd hx List.not_mem_nil⟩

section

variable [Symbols Y]

theorem subscribeMarketData_keepsShut (env : Env) (ctx : Context Y) (startFrom : ℕ) :
    Meets (KeepsShut acked) (subscribeMarketData env ctx startFrom : Handler Y R W C D) := by
  intro c
  exact (composes_preserves _ _).each (fun k => onMarketData_keepsShut k _) _ c

theorem subscribeWebSocket_keepsShut (env : Env) (startFrom : ℕ) :
    Meets (KeepsShut acked) (subscribeWebSocket env startFrom : Handler Y R W C D) := by
  intro c
  refine (composes_preserves _ _).each (fun k => ?_) _ c
  apply onWebSocket_meets (composes_preserves _ _)
  intro c o ho hshut
  obtain ⟨hheld, -⟩ := rests_holds (WebSocket.subscribe_rests startFrom ⟨o, c.shared, c.requests⟩)
    ⟨hshut.webSocket o (List.mem_of_getElem? ho), hshut.answered⟩
  exact ⟨hshut.putWebSocket k hheld, not_latched_map (fun _ => id) _⟩

variable [LawfulDownload WebSocket.State W] [Download MarketData.State D]

omit [Symbols Y] in
/-- Streams that are created are not masters. -/
theorem Grows.keepsShut {c c' : Controller Y R W C D} (h : Grows c c') (hshut : Shut acked c) :
    Shut acked c' where
  answered := h.requests ▸ hshut.answered
  webSocket := by
    intro o ho
    obtain ⟨k, hk⟩ := List.mem_iff_getElem?.mp ho
    obtain hold | hnew := Nat.lt_or_ge k c.webSocket.length
    · obtain ⟨created, hcreated⟩ := h.webSocket
      rw [← hcreated, List.getElem?_append_left hold] at hk
      exact hshut.webSocket o (List.mem_of_getElem? hk)
    · obtain ⟨streamId, rfl⟩ := h.newWebSocket k o hnew hk
      exact waiting_initial acked streamId k false
  dropCopy := h.dropCopy ▸ hshut.dropCopy

theorem symbolsUpdate_keepsShut (env : Env) (ctx : Context Y) (symbols : List String) :
    Meets (KeepsShut acked) (symbolsUpdate env ctx symbols : Handler Y R W C D) := by
  intro c hshut
  obtain ⟨grown, hgrows, -, heq⟩ := symbolsUpdate_eq env ctx symbols c
  rw [heq]
  refine (composes_preserves _ _).seq (emit_preserves id) ((composes_preserves _ _).seq
    (subscribeMarketData_keepsShut env ctx _) (subscribeWebSocket_keepsShut env _)) grown ?_
  exact hgrows.keepsShut ⟨hshut.answered, hshut.webSocket, hshut.dropCopy⟩

theorem subscribe_keepsShut (env : Env) (ctx : Context Y) (symbols : List String) :
    Meets (KeepsShut acked) (subscribe env ctx symbols : Handler Y R W C D) := by
  intro c hshut
  exact symbolsUpdate_keepsShut env ctx _ _ ⟨hshut.answered, hshut.webSocket, hshut.dropCopy⟩

theorem deliverRest_keepsShut (env : Env) (ctx : Context Y) (x : Rest.Output) :
    Meets (KeepsShut acked) (deliverRest env ctx x : Handler Y R W C D) := by
  cases x with
  | currenciesUpdate currencies => exact currenciesUpdate_keepsShut env ctx currencies
  | symbolsUpdate symbols => exact symbolsUpdate_keepsShut env ctx symbols
  | _ => exact emit_preserves id

end

/-! ## Calls -/

omit [LimitRequest R] [Download WebSocket.State W] in
/-- A response is handled, or not, without a look at the requests. -/
theorem response_requests {α : Type} {handle : α → Rest.Handler Y R} {response : Rest.Response α}
    {s : Rest.Scope Y R} {r : Rest.Scope Y R × List Rest.Output}
    (hhandle : ∀ result, (handle result s).1.requests = s.requests)
    (h : Rest.processResponse (fun result s => some (handle result s)) response s = some r) :
    r.1.requests = s.requests := by
  obtain ⟨-, rfl⟩ | ⟨result, -, heq⟩ := Rest.processResponse_cases h
  · rfl
  · rw [← Option.some.inj heq]
    exact hhandle result

omit [Download WebSocket.State W] in
/-- That a request is made does not answer it. -/
theorem checkDownload_answered [LawfulLimitRequest R] (ctx : Rest.Context) {s : Rest.Scope Y R}
    (hanswered : Answered acked s.requests) :
    Answered acked (Rest.checkDownload ctx s).1.requests where
  currencies hresponse :=
    hanswered.currencies (LawfulLimitRequest.checkPending_hasResponse _ _ _ hresponse)
  instruments hresponse :=
    hanswered.instruments (LawfulLimitRequest.checkPending_hasResponse _ _ _ hresponse)

omit [Download WebSocket.State W] in
/-- **Calls of the REST client.** A response answers the request, whatever it is. -/
theorem rest_answered [LawfulLimitRequest R] {env : Rest.Env} {ctx : Rest.Context}
    {event : Rest.Event} {s : Rest.Scope Y R} {r : Rest.Scope Y R × List Rest.Output}
    (hcurrencies : ∀ response, event = .getCurrenciesAck response → response ≠ .redirection →
      acked.currencies = true)
    (hinstruments : ∀ response, event = .getInstrumentsAck response → response ≠ .redirection →
      acked.instruments = true)
    (h : Rest.call env ctx event s = some r) (hanswered : Answered acked s.requests) :
    Answered acked r.1.requests := by
  cases event with
  | timer =>
    obtain rfl := Option.some.inj h
    unfold Rest.timer
    split_ifs
    · simp only [seq_fst]
      split_ifs
      · exact checkDownload_answered ctx hanswered
      · exact checkDownload_answered ctx hanswered
    · exact hanswered
  | connected =>
    obtain rfl := Option.some.inj h
    exact checkDownload_answered (s := (Rest.publish .ready "" s).1) ctx hanswered
  | disconnected =>
    obtain rfl := Option.some.inj h
    exact hanswered
  | latency sample =>
    obtain rfl := Option.some.inj h
    exact hanswered
  | getCurrenciesAck response =>
    obtain ⟨⟨t, os⟩, hresponse, rfl⟩ := Option.map_eq_some_iff.mp h
    have hsame := response_requests (fun result => rfl) hresponse
    have hcommitted : acked.currencies = true := by
      apply hcurrencies response rfl
      rintro rfl
      cases hresponse
    refine ⟨fun _ => hcommitted, ?_⟩
    show LimitRequest.hasResponse t.requests.instruments = true → _
    rw [hsame]
    exact hanswered.instruments
  | getInstrumentsAck response =>
    obtain ⟨⟨t, os⟩, hresponse, rfl⟩ := Option.map_eq_some_iff.mp h
    have hsame := response_requests (fun result => rfl) hresponse
    have hcommitted : acked.instruments = true := by
      apply hinstruments response rfl
      rintro rfl
      cases hresponse
    refine ⟨?_, fun _ => hcommitted⟩
    show LimitRequest.hasResponse t.requests.currencies = true → _
    rw [hsame]
    exact hanswered.currencies
  | getChartDataAck symbol response =>
    obtain ⟨-, rfl⟩ | ⟨result, -, hresult⟩ := Rest.processResponse_cases h
    · exact hanswered
    · obtain ⟨bars, -, rfl⟩ := Option.map_eq_some_iff.mp hresult
      exact hanswered

/-- A log-in of a stream that is not the master finds both requests processed, and a response
    that does not end the process leaves its request processed. -/
structure Waits (env : Env) (s : Controller Y R W C D × Acked) (i : Context Y × Event) :
    Prop where
  login : ∀ k event errorCode o, i.2 = .webSocket k event →
    event.1 = .message (.auth errorCode) → s.1.webSocket[k]? = some o → o.master = false →
      s.2.Both
  currencies : ∀ response, i.2 = .rest (.getCurrenciesAck response) → response ≠ .redirection →
    (s.2.next env i).currencies = true
  instruments : ∀ response, i.2 = .rest (.getInstrumentsAck response) →
    response ≠ .redirection → (s.2.next env i).instruments = true

theorem callDropCopy_keepsShut [Download DropCopy.State C] {k : ℕ}
    {event : {event : DropCopy.Event // event.IsOwn}} {c : Controller Y R W C D}
    {r : Controller Y R W C D × List Output} (h : callDropCopy env ctx k event.1 c = some r) :
    KeepsShut acked c r.2 r.1 := by
  have hlatch : event.1 ≠ .latch := by
    intro heq
    have hown := event.2
    rw [heq] at hown
    exact hown
  unfold callDropCopy at h
  split at h
  · obtain rfl := Option.some.inj h
    exact (composes_preserves _ _).refl c
  · rename_i o ho
    obtain ⟨⟨p, os⟩, hcall, rfl⟩ := Option.map_eq_some_iff.mp h
    intro hshut
    obtain ⟨hcan, hquiet⟩ :=
      dropCopy_holdsBack hlatch hcall (hshut.dropCopy o (List.mem_of_getElem? ho))
    refine ⟨⟨hshut.answered, hshut.webSocket, ?_⟩, ?_⟩
    · intro q hq
      obtain hq | rfl := List.mem_or_eq_of_mem_set hq
      · exact hshut.dropCopy q hq
      · exact hcan
    · intro y hy
      obtain ⟨x, hx, rfl⟩ := List.mem_map.mp hy
      exact hquiet x hx

variable [Symbols Y] [LawfulDownload WebSocket.State W] [LawfulLimitRequest R]

theorem callWebSocket_keepsShut (hboth : ¬acked.Both) {k : ℕ} {event : WebSocket.Event}
    {c : Controller Y R W C D} {r : Controller Y R W C D × List Output}
    (hmaster : ∀ errorCode o, event = .message (.auth errorCode) → c.webSocket[k]? = some o →
      o.master = true)
    (h : callWebSocket env ctx k event c = some r) : KeepsShut acked c r.2 r.1 := by
  unfold callWebSocket at h
  split at h
  · obtain rfl := Option.some.inj h
    exact (composes_preserves _ _).refl c
  · rename_i o ho
    obtain ⟨⟨s, os⟩, hcall, rfl⟩ := Option.map_eq_some_iff.mp h
    intro hshut
    obtain ⟨hheld, hsilent⟩ := webSocket_holds hboth
      (fun errorCode heq => hmaster errorCode o heq ho) hcall
      ⟨hshut.webSocket o (List.mem_of_getElem? ho), hshut.answered⟩
    refine (composes_preserves _ _).each_of_mem ?_ _ (hshut.putWebSocket k hheld)
    intro x hx c hshut
    cases x with
    | latch => exact absurd rfl (hsilent _ hx)
    | _ => exact emit_preserves id c hshut

variable [Download MarketData.State D]

omit [LawfulLimitRequest R] in
theorem callMarketData_keepsShut {k : ℕ} {event : MarketData.Event} {c : Controller Y R W C D}
    {r : Controller Y R W C D × List Output} (h : callMarketData env ctx k event c = some r) :
    KeepsShut acked c r.2 r.1 := by
  unfold callMarketData at h
  split at h
  · obtain rfl := Option.some.inj h
    exact (composes_preserves _ _).refl c
  · split at h
    · obtain ⟨⟨shared, reports, symbols⟩, -, rfl⟩ := Option.map_eq_some_iff.mp h
      intro hshut
      refine (composes_preserves _ _).seq ?_ ((composes_preserves _ _).seq ?_
        (onMarketData_keepsShut k _)) _ ⟨hshut.answered, hshut.webSocket, hshut.dropCopy⟩
      · intro c hshut
        exact ⟨hshut, not_latched_map (fun _ => id) _⟩
      · exact Meets.ite (fun _ => (composes_preserves _ _).skip)
          fun _ => symbolsUpdate_keepsShut env ctx symbols
    · obtain ⟨⟨s, os⟩, -, rfl⟩ := Option.map_eq_some_iff.mp h
      intro hshut
      exact ⟨⟨hshut.answered, hshut.webSocket, hshut.dropCopy⟩, not_latched_map (fun _ => id) _⟩

variable [Download DropCopy.State C]

/-- **The step lemma.** -/
theorem call_keepsShut {event : Event} {c : Controller Y R W C D} {acked : Acked}
    {r : Controller Y R W C D × List Output} (hboth : ¬acked.Both) (hshut : Shut acked c)
    (hwaits : Waits env (c, acked) (ctx, event)) (h : call env ctx event c = some r) :
    Shut (acked.next env (ctx, event)) r.1 ∧ ∀ x ∈ r.2, ¬x.IsLatched := by
  cases event with
  | subscribe symbols =>
    obtain rfl := Option.some.inj h
    exact subscribe_keepsShut env ctx symbols c hshut
  | rest event =>
    obtain ⟨⟨s, os⟩, hcall, rfl⟩ := Option.map_eq_some_iff.mp h
    -- a response that is processed counts from here on
    obtain ⟨hcurrencies, hinstruments⟩ := acked.next_mono env (ctx, .rest event)
    have hanswered := rest_answered
      (fun response heq => hwaits.currencies response (congrArg _ heq))
      (fun response heq => hwaits.instruments response (congrArg _ heq)) hcall
      (hshut.answered.mono hcurrencies hinstruments)
    refine (composes_preserves _ _).each (deliverRest_keepsShut env ctx) os _ ?_
    exact ⟨hanswered, fun o ho => (hshut.webSocket o ho).mono hcurrencies, hshut.dropCopy⟩
  | dropCopy k event => exact callDropCopy_keepsShut h hshut
  | webSocket k event =>
    refine callWebSocket_keepsShut hboth ?_ h hshut
    intro errorCode o hlogin ho
    rw [← Bool.not_eq_false]
    intro hother
    -- a stream that is not the master goes through all stages at once
    exact hboth (hwaits.login k event errorCode o rfl hlogin ho hother)
  | marketData k event => exact callMarketData_keepsShut h hshut

omit [Symbols Y] in
theorem shut_initial (symbols : Y) (accounts : List (String × String)) :
    Shut .none (initial symbols accounts : Controller Y R W C D) := by
  refine ⟨⟨?_, ?_⟩, ?_, ?_⟩
  · intro hresponse
    cases LawfulLimitRequest.fresh_hasResponse.symm.trans hresponse
  · intro hresponse
    cases LawfulLimitRequest.fresh_hasResponse.symm.trans hresponse
  · intro o ho
    obtain rfl := List.mem_singleton.mp ho
    exact waiting_initial _ _ 0 true
  · intro o ho
    obtain ⟨k, hk, rfl⟩ := List.mem_mapIdx.mp ho
    rfl

/-- A step, next to what has been processed. -/
theorem step_keepsShut {c : Controller Y R W C D} {acked : Acked} {i : Context Y × Event}
    (hgate : acked.Both ∨ Shut acked c) (hwaits : Waits env (c, acked) i) :
    (∀ t, (observe (step env) (Acked.next env) id (c, acked) i).1 = some t →
      t.2.Both ∨ Shut t.2 t.1) ∧
    ∀ x ∈ (observe (step env) (Acked.next env) id (c, acked) i).2, x.2.2.IsLatched → x.1.Both := by
  obtain ⟨ctx, event⟩ := i
  by_cases hboth : acked.Both
  · constructor
    · intro t ht
      obtain ⟨c', -, rfl⟩ := Option.map_eq_some_iff.mp ht
      obtain ⟨hcurrencies, hinstruments⟩ := acked.next_mono env (ctx, event)
      exact .inl ⟨hcurrencies hboth.1, hinstruments hboth.2⟩
    · intro x hx _
      rw [(mem_observe hx).1]
      exact hboth
  · have hshut := hgate.resolve_left hboth
    obtain hended | ⟨r, hcall, hreturns⟩ := step_cases env c ctx event
    · simp only [observe, hended, Option.map_none, List.map_nil]
      exact ⟨fun _ ht => absurd ht (by simp), fun _ hx => absurd hx List.not_mem_nil⟩
    · obtain ⟨hnext, hquiet⟩ := call_keepsShut hboth hshut hwaits hcall
      constructor
      · intro t ht
        obtain ⟨c', hc, rfl⟩ := Option.map_eq_some_iff.mp ht
        rw [hreturns] at hc
        obtain rfl := Option.some.inj hc
        exact .inr hnext
      · intro x hx hlatched
        have hmem := (mem_observe hx).2.2
        rw [hreturns] at hmem
        exact absurd hlatched (hquiet _ hmem)

/-- **Trades are downloaded behind the reference data.** In every run in which no stream but
    the master is logged in before both downloads have been processed, and no response to
    either fails before one has been processed, the latch and the downloads of trades that it
    holds back come after both. -/
theorem downloads_wait_for_reference_data (env : Env) (symbols : Y)
    (accounts : List (String × String)) {is : List (Context Y × Event)}
    (hwaits : Guarded (observe (step env) (Acked.next env) id) (Waits env)
      ((initial symbols accounts : Controller Y R W C D), .none) is) :
    (∀ c acked, (run (observe (step env) (Acked.next env) id)
        ((initial symbols accounts : Controller Y R W C D), .none) is).1 = some (c, acked) →
      ∀ o ∈ c.dropCopy, o.canDownload = true → acked.Both) ∧
    ∀ x ∈ (run (observe (step env) (Acked.next env) id)
        ((initial symbols accounts : Controller Y R W C D), .none) is).2,
      x.2.2.IsLatched → x.1.Both := by
  obtain ⟨hlast, hlatched⟩ := run_sound (I := fun s => s.2.Both ∨ Shut s.2 s.1)
    (P := fun x => x.2.2.IsLatched → x.1.Both) (fun _ _ hgate hi => step_keepsShut hgate hi)
    (.inr (shut_initial symbols accounts)) hwaits
  refine ⟨?_, hlatched⟩
  intro c acked hc o ho hcan
  refine (hlast _ hc).resolve_right ?_
  intro hshut
  cases (hshut.dropCopy o ho).symm.trans hcan

/-- The master logs in, and is told of both downloads in turn. -/
abbrev downloadInTurn : List (Context SymbolTable × Event) :=
  [(.plain, .webSocket 0 ⟨.message (.auth 0), trivial⟩),
    (.plain, .rest (.getCurrenciesAck (.success (some ⟨0, ["BTC"]⟩)))),
    (.plain, .webSocket 0 ⟨.timer, trivial⟩),
    (.plain, .rest (.getInstrumentsAck (.success (some ⟨0, [Rest.perpetual "BTC-PERPETUAL"]⟩)))),
    (.plain, .webSocket 0 ⟨.timer, trivial⟩)]

/-- The latch comes behind both downloads. -/
theorem latch_behind_both_downloads :
    ∃ x ∈ (run (observe (step .plain) (Acked.next .plain) id) (plain, .none) downloadInTurn).2,
      x.2.2 = .latch ∧ x.1.Both := by
  have hwaits : Guarded (observe (step .plain) (Acked.next .plain) id) (Waits .plain)
      (plain, .none) downloadInTurn := by
    refine ⟨⟨?_, (fun _ h => nomatch h), (fun _ h => nomatch h)⟩, fun s _ => guarded_of_forall ?_⟩
    · intro k event errorCode o heq hlogin ho hother
      cases heq
      obtain rfl := List.mem_singleton.mp (List.mem_of_getElem? ho)
      cases hother
    · intro i hi t
      simp only [List.mem_cons, List.not_mem_nil, or_false] at hi
      rcases hi with rfl | rfl | rfl | rfl
      · refine ⟨(fun _ _ _ _ h => nomatch h), ?_, (fun _ h => nomatch h)⟩
        rintro response ⟨⟩ -
        exact Bool.or_true _
      · refine ⟨?_, (fun _ h => nomatch h), (fun _ h => nomatch h)⟩
        rintro k event errorCode o ⟨⟩ ⟨⟩
      · refine ⟨(fun _ _ _ _ h => nomatch h), (fun _ h => nomatch h), ?_⟩
        rintro response ⟨⟩ -
        exact Bool.or_true _
      · refine ⟨?_, (fun _ h => nomatch h), (fun _ h => nomatch h)⟩
        rintro k event errorCode o ⟨⟩ ⟨⟩
  have hlatch : .latch ∈ (run (observe (step .plain) (Acked.next .plain) id) (plain, .none)
      downloadInTurn).2.map (·.2.2) := by
    decide +kernel
  obtain ⟨x, hx, heq⟩ := List.mem_map.mp hlatch
  have hlatched : x.2.2.IsLatched := by
    rw [heq]
    trivial
  have hlater :=
    (downloads_wait_for_reference_data .plain (⟨0, []⟩ : SymbolTable) [("a", "key")] hwaits).2
  exact ⟨x, hx, heq, hlater x hx hlatched⟩

/-- A client subscribes to two symbols, and the stream that is created for the second one is
    logged in when the currencies are known, but the instruments are not. -/
abbrev loginOfSecondStream : List (Context SymbolTable × Event) :=
  [(.plain, .dropCopy 0 ⟨.message (.auth 0), trivial⟩),
    (.plain, .rest (.getCurrenciesAck (.success (some ⟨0, ["BTC"]⟩)))),
    (.plain, .subscribe ["BTC-PERPETUAL", "ETH-PERPETUAL"]),
    (.plain, .webSocket 1 ⟨.message (.auth 0), trivial⟩)]

/-- The request for the currencies fails, and the one for the instruments does not. -/
abbrev failedCurrencies : List (Context SymbolTable × Event) :=
  [(.plain, .webSocket 0 ⟨.message (.auth 0), trivial⟩),
    (.plain, .rest (.getCurrenciesAck .failed)),
    (.plain, .webSocket 0 ⟨.timer, trivial⟩),
    (.plain, .rest (.getInstrumentsAck (.success (some ⟨0, [Rest.perpetual "BTC-PERPETUAL"]⟩)))),
    (.plain, .webSocket 0 ⟨.timer, trivial⟩)]

/-- The trades of a currency are asked for before any multiplier is known; and the latch comes
    though no currency is. -/
theorem trades_do_not_wait :
    (⟨true, false⟩, .latch) ∈ (run (observe (step .plain) (Acked.next .plain) id) (plain, .none)
      loginOfSecondStream).2.map (fun x => (x.1, x.2.2)) ∧
    (⟨true, false⟩, .dropCopy 0 (.queued (.getUserTradesByCurrency "BTC" 0))) ∈
      (run (observe (step .plain) (Acked.next .plain) id) (plain, .none)
        loginOfSecondStream).2.map (fun x => (x.1, x.2.2)) ∧
    (⟨false, true⟩, .latch) ∈ (run (observe (step .plain) (Acked.next .plain) id) (plain, .none)
      failedCurrencies).2.map (fun x => (x.1, x.2.2)) := by
  decide +kernel

end Controller

end DeribitGateway
