import DeribitGateway.Fix.MarketData

/-!
# What the handlers of the market data stream do

`Subscribes symbols` is a call that asks for `symbols`, and leaves the session and what is
known of the symbols where they are. All calls but four do so (`call_subscribes`): a log-on
moves the download, a logout and a disconnect end the session, and a list of securities is
dealt with together with the controller.
-/

namespace DeribitGateway

open Emission StagedDownload

namespace MarketData

variable {D Y : Type} {env : Env} {ctx : Context Y}

/-- The symbols of a subscription request. -/
def symbolsOf : Fix.MDOutbound → List String
  | .marketDataRequest value =>
    if value.subscriptionRequestType = .snapshotUpdates then value.noRelatedSym else []
  | _ => []

def Output.requested : Output → List String
  | .sent _ message _ => symbolsOf message
  | _ => []

/-- The symbols that are asked for, in order. -/
def requested (os : List Output) : List String := os.flatMap Output.requested

theorem requested_append (os os' : List Output) :
    requested (os ++ os') = requested os ++ requested os' :=
  List.flatMap_append

theorem requested_single (x : Output) : requested [x] = x.requested := List.flatMap_singleton ..

/-- `names` are asked for, and the session stays where it is. -/
structure Subscribes (names : List String) (s : MarketData D × SharedState Y)
    (os : List Output) (t : MarketData D × SharedState Y) : Prop where
  index : t.1.index = s.1.index
  master : t.1.master = s.1.master
  ready_ : t.1.ready_ = s.1.ready_
  download : t.1.download = s.1.download
  symbols : t.2.symbols = s.2.symbols
  allSymbols : t.2.allSymbols = s.2.allSymbols
  requested : requested os = names

theorem Subscribes.refl (s : MarketData D × SharedState Y) : Subscribes [] s [] s :=
  ⟨rfl, rfl, rfl, rfl, rfl, rfl, rfl⟩

theorem Subscribes.trans {names names' : List String} {s t u : MarketData D × SharedState Y}
    {os os' : List Output} (h : Subscribes names s os t) (h' : Subscribes names' t os' u) :
    Subscribes (names ++ names') s (os ++ os') u where
  index := h'.index.trans h.index
  master := h'.master.trans h.master
  ready_ := h'.ready_.trans h.ready_
  download := h'.download.trans h.download
  symbols := h'.symbols.trans h.symbols
  allSymbols := h'.allSymbols.trans h.allSymbols
  requested := by rw [requested_append, h.requested, h'.requested]

theorem subscribes_seq {names names' : List String} {f g : Handler D Y}
    (hf : Meets (Subscribes names) f) (hg : Meets (Subscribes names') g) :
    Meets (Subscribes (names ++ names')) (seq f g) :=
  fun s => (hf s).trans (hg (f s).1)

theorem composes_rests :
    Composes (Subscribes [] : MarketData D × SharedState Y → List Output →
      MarketData D × SharedState Y → Prop) :=
  ⟨.refl, fun h h' => h.trans h'⟩

theorem emit_rests {x : Output} (h : x.requested = []) :
    Meets (Subscribes []) (emit [x] : Handler D Y) := by
  intro s
  exact ⟨rfl, rfl, rfl, rfl, rfl, rfl, (requested_single x).trans h⟩

theorem publish_rests (connectionStatus : ConnectionStatus) (reason : String) :
    Meets (Subscribes []) (publish connectionStatus reason : Handler D Y) := by
  intro s
  exact ⟨rfl, rfl, rfl, rfl, rfl, rfl, rfl⟩

/-- A message is handed to the connection. -/
theorem send_subscribes (ctx : Context Y) (message : Fix.MDOutbound)
    (s : MarketData D × SharedState Y) :
    Subscribes (symbolsOf message) s (send ctx message s).2 (send ctx message s).1 :=
  ⟨rfl, rfl, rfl, rfl, rfl, rfl, requested_single _⟩

theorem sendRequest_subscribes (ctx : Context Y) (request : String → Fix.MDOutbound)
    {symbols : List String} (h : ∀ requestId, symbolsOf (request requestId) = symbols)
    (s : MarketData D × SharedState Y) :
    Subscribes symbols s (sendRequest ctx request s).2 (sendRequest ctx request s).1 := by
  have hsend := send_subscribes ctx (request s.2.nextRequestId.2) (s.1, s.2.nextRequestId.1)
  rw [h] at hsend
  exact ⟨hsend.index, hsend.master, hsend.ready_, hsend.download, hsend.symbols,
    hsend.allSymbols, hsend.requested⟩

/-! ## Subscriptions -/

/-- The batches are the list, once there are enough of them. -/
theorem eachBatch_subscribes {maxSize : ℕ} (hmax : 0 < maxSize) {f : List String → Handler D Y}
    (hf : ∀ batch s, Subscribes batch s (f batch s).2 (f batch s).1) {rounds : ℕ}
    {symbols : List String} (hrounds : symbols.length ≤ rounds)
    (s : MarketData D × SharedState Y) :
    Subscribes symbols s (eachBatch maxSize f rounds symbols s).2
      (eachBatch maxSize f rounds symbols s).1 := by
  induction rounds generalizing symbols s with
  | zero =>
    obtain rfl := List.length_eq_zero_iff.mp (Nat.le_zero.mp hrounds)
    exact .refl s
  | succ rounds ih =>
    cases symbols with
    | nil => exact .refl s
    | cons symbol symbols =>
      have hrest : ((symbol :: symbols).drop maxSize).length ≤ rounds := by
        rw [List.length_drop]
        simp only [List.length_cons] at hrounds ⊢
        omega
      have h := (hf ((symbol :: symbols).take maxSize) s).trans (ih hrest _)
      rw [List.take_append_drop] at h
      exact h

theorem subscribeSymbols_subscribes (env : Env) (ctx : Context Y) (symbols : List String)
    (s : MarketData D × SharedState Y) :
    Subscribes symbols s (subscribeSymbols env ctx symbols s).2
      (subscribeSymbols env ctx symbols s).1 := by
  cases symbols with
  | nil => exact .refl s
  | cons symbol symbols =>
    refine eachBatch_subscribes ?_ ?_ le_rfl s
    · split_ifs with h
      · exact Nat.pos_of_ne_zero h
      · exact Nat.succ_pos _
    · intro batch s
      apply sendRequest_subscribes
      intro requestId
      rfl

/-- A stream that is ready asks for the new symbols of its slice. -/
theorem subscribe_subscribes [Symbols Y] (env : Env) (ctx : Context Y) (startFrom : ℕ)
    {s : MarketData D × SharedState Y} (h : s.1.ready_ = true) :
    Subscribes (Symbols.getSlice s.2.symbols s.1.index startFrom) s
      (subscribe env ctx startFrom s).2 (subscribe env ctx startFrom s).1 := by
  have heq : subscribe env ctx startFrom s =
      subscribeSymbols env ctx (Symbols.getSlice s.2.symbols s.1.index startFrom) s := if_pos h
  rw [heq]
  exact subscribeSymbols_subscribes env ctx _ s

theorem subscribe_waits [Symbols Y] (env : Env) (ctx : Context Y) (startFrom : ℕ)
    {s : MarketData D × SharedState Y} (h : s.1.ready_ = false) :
    subscribe env ctx startFrom s = (s, []) := by
  have hready : ¬s.1.ready = true := Bool.eq_false_iff.mp h
  exact if_neg hready

theorem unsubscribeSymbols_rests (env : Env) (ctx : Context Y) (symbols : List String) :
    Meets (Subscribes []) (unsubscribeSymbols env ctx symbols : Handler D Y) := by
  simp only [unsubscribeSymbols, sendMarketDataRequests]
  generalize symbols.length = rounds
  generalize (if env.marketDataRequestMaxSize ≠ 0 then env.marketDataRequestMaxSize else rounds)
    = maxSize
  induction rounds generalizing symbols with
  | zero => exact composes_rests.skip
  | succ rounds ih =>
    apply Meets.ite (fun _ => composes_rests.skip)
    intro _
    apply composes_rests.seq _ (ih _)
    exact sendRequest_subscribes ctx _ fun requestId => rfl

/-- A symbol may be asked for again. -/
theorem resubscribe_subscribes (env : Env) (ctx : Context Y) (symbol : String)
    (s : MarketData D × SharedState Y) :
    ∃ symbols, Subscribes symbols s (resubscribe env ctx symbol s).2
      (resubscribe env ctx symbol s).1 := by
  rcases s with ⟨o, shared⟩
  simp only [resubscribe]
  split_ifs
  · exact ⟨[], .refl _⟩
  · refine ⟨[] ++ ([] ++ [symbol]), subscribes_seq ?_ (subscribes_seq ?_ ?_) (o, shared)⟩
    · intro s
      exact ⟨rfl, rfl, rfl, rfl, rfl, rfl, rfl⟩
    · exact unsubscribeSymbols_rests env ctx [symbol]
    · exact subscribeSymbols_subscribes env ctx [symbol]

/-! ## Timer, connection and session -/

theorem sendLogon_rests : Meets (Subscribes []) (sendLogon env ctx : Handler D Y) := by
  intro s
  exact ⟨rfl, rfl, rfl, rfl, rfl, rfl, rfl⟩

theorem sendTestRequest_rests : Meets (Subscribes []) (sendTestRequest env ctx : Handler D Y) := by
  apply composes_rests.seq
  · intro s
    exact send_subscribes ctx (.testRequest (env.toString ctx.now)) s
  · intro s
    by_cases h : s.1.lastLogonOrHeartbeat = 0
    · simp only [set, modify_apply, if_pos h]
      exact ⟨rfl, rfl, rfl, rfl, rfl, rfl, rfl⟩
    · simp only [set, modify_apply, if_neg h]
      exact .refl s

theorem timer_rests (now : ℤ) : Meets (Subscribes []) (timer env ctx now : Handler D Y) := by
  rintro ⟨o, shared⟩
  simp only [timer]
  split_ifs
  · exact emit_rests rfl _
  · exact emit_rests rfl _
  · exact .refl _
  · obtain ⟨h₁, h₂, h₃, h₄, h₅, h₆, h₇⟩ := sendTestRequest_rests
      ({ o with nextHeartbeat := now + env.pingFreq }, shared)
    exact ⟨h₁, h₂, h₃, h₄, h₅, h₆, h₇⟩
  all_goals exact .refl _

theorem connected_rests : Meets (Subscribes []) (connected env ctx : Handler D Y) :=
  composes_rests.seq sendLogon_rests (publish_rests _ _)

theorem heartbeat_rests {testReqId : String} {s : MarketData D × SharedState Y}
    {r : (MarketData D × SharedState Y) × List Output}
    (h : heartbeat env ctx testReqId s = some r) : Subscribes [] s r.2 r.1 := by
  simp only [heartbeat] at h
  split_ifs at h
  · obtain rfl := Option.some.inj h
    exact ⟨rfl, rfl, rfl, rfl, rfl, rfl, rfl⟩
  · obtain ⟨_, -, rfl⟩ := Option.map_eq_some_iff.mp h
    exact ⟨rfl, rfl, rfl, rfl, rfl, rfl, rfl⟩

/-! ## Books -/

theorem publishTrades_rests (symbol : String) (e : Entries) (header : Fix.Header) :
    Meets (Subscribes []) (publishTrades env symbol e header : Handler D Y) := by
  apply Meets.ite
  · intro _ s
    exact emit_rests rfl s
  · intro _
    exact composes_rests.skip

theorem publishStatistics_rests (symbol : String) (e : Entries) (updateType : UpdateType)
    (header : Fix.Header) :
    Meets (Subscribes []) (publishStatistics env symbol e updateType header : Handler D Y) := by
  apply Meets.ite
  · intro _
    exact composes_rests.skip
  · intro _ s
    exact emit_rests rfl s

theorem publishIncremental_subscribes (env : Env) (ctx : Context Y) (symbol : String)
    (e : Entries) (header : Fix.Header) (s : MarketData D × SharedState Y) :
    ∃ symbols, Subscribes symbols s (publishIncremental env ctx symbol e header s).2
      (publishIncremental env ctx symbol e header s).1 := by
  rcases s with ⟨o, shared⟩
  simp only [publishIncremental]
  split_ifs
  · obtain ⟨symbols, h⟩ := resubscribe_subscribes env ctx symbol (o, shared)
    exact ⟨[] ++ symbols, Subscribes.trans (emit_rests rfl _) h⟩
  · exact ⟨[], composes_rests.seq (emit_rests rfl) composes_rests.skip _⟩
  · exact ⟨[], .refl _⟩

theorem incrementalRefresh_subscribes {header : Fix.Header}
    {value : Fix.MarketDataIncrementalRefresh} {s : MarketData D × SharedState Y}
    {r : (MarketData D × SharedState Y) × List Output}
    (h : marketDataIncrementalRefresh env ctx header value s = some r) :
    ∃ symbols, Subscribes symbols s r.2 r.1 := by
  simp only [marketDataIncrementalRefresh] at h
  split_ifs at h
  obtain rfl := Option.some.inj h
  obtain ⟨symbols, hbook⟩ := publishIncremental_subscribes env ctx value.symbol
    (incrementalEntries env value) header s
  exact ⟨symbols ++ [], hbook.trans
    (composes_rests.seq (publishTrades_rests _ _ _) (publishStatistics_rests _ _ _ _) _)⟩

theorem snapshotFullRefresh_rests {header : Fix.Header}
    {value : Fix.MarketDataSnapshotFullRefresh} {s : MarketData D × SharedState Y}
    {r : (MarketData D × SharedState Y) × List Output}
    (h : marketDataSnapshotFullRefresh env ctx header value s = some r) :
    Subscribes [] s r.2 r.1 := by
  simp only [marketDataSnapshotFullRefresh] at h
  split_ifs at h
  obtain rfl := Option.some.inj h
  refine composes_rests.seq ?_ (composes_rests.seq ?_ (publishStatistics_rests _ _ _ _)) s
  · intro s
    exact ⟨rfl, rfl, rfl, rfl, rfl, rfl, rfl⟩
  · rintro ⟨o, shared⟩
    simp only [publishSnapshot]
    split_ifs
    · exact emit_rests rfl _
    · exact .refl _

/-! ## Calls at which the session rests -/

/-- A book that is bad has its symbol subscribed again. -/
def Event.refreshes : Event → Bool
  | .message _ (.marketDataIncrementalRefresh _) => true
  | _ => false

/-- A call that neither moves the download nor ends the session, nor brings new symbols. -/
def Event.Rests : Event → Prop
  | .subscribe _ => False
  | .disconnected => False
  | .message _ .logon => False
  | .message _ .logout => False
  | .message _ (.securityList _) => False
  | _ => True

/-- The number of a message is noted first. -/
theorem Subscribes.of_check {names : List String} {header : Fix.Header}
    {s t : MarketData D × SharedState Y} {os : List Output}
    (h : Subscribes names (check header s.1, s.2) os t) : Subscribes names s os t :=
  ⟨h.index, h.master, h.ready_, h.download, h.symbols, h.allSymbols, h.requested⟩

variable [Symbols Y] [Download State D]

theorem parseHelper_subscribes {header : Fix.Header} {value : Fix.MDInbound}
    (hrests : (Event.message header value).Rests) {s : MarketData D × SharedState Y}
    {r : (MarketData D × SharedState Y) × List Output}
    (h : parseHelper env ctx header value s = some r) :
    ∃ names, Subscribes names s r.2 r.1 ∧
      ((Event.message header value).refreshes = false → names = []) := by
  cases value with
  | logon => exact hrests.elim
  | logout => exact hrests.elim
  | securityList noRelatedSym => exact hrests.elim
  | heartbeat testReqId => exact ⟨[], heartbeat_rests h, fun _ => rfl⟩
  | resendRequest =>
    obtain rfl := Option.some.inj h
    exact ⟨[], emit_rests rfl s, fun _ => rfl⟩
  | testRequest testReqId =>
    obtain rfl := Option.some.inj h
    exact ⟨[], send_subscribes ctx (.heartbeat testReqId) s, fun _ => rfl⟩
  | marketDataIncrementalRefresh value =>
    obtain ⟨names, hnames⟩ := incrementalRefresh_subscribes h
    exact ⟨names, hnames, nofun⟩
  | marketDataSnapshotFullRefresh value => exact ⟨[], snapshotFullRefresh_rests h, fun _ => rfl⟩
  | marketDataRequestReject =>
    simp only [parseHelper] at h
    split_ifs at h
    obtain rfl := Option.some.inj h
    exact ⟨[], .refl s, fun _ => rfl⟩
  | _ =>
    obtain rfl := Option.some.inj h
    exact ⟨[], .refl s, fun _ => rfl⟩

/-- **Calls at which the session rests.** -/
theorem call_subscribes {event : Event} (hrests : event.Rests)
    {s : MarketData D × SharedState Y} {r : (MarketData D × SharedState Y) × List Output}
    (h : call env ctx event s = some r) :
    ∃ names, Subscribes names s r.2 r.1 ∧ (event.refreshes = false → names = []) := by
  cases event with
  | subscribe startFrom => exact hrests.elim
  | disconnected => exact hrests.elim
  | timer now =>
    obtain rfl := Option.some.inj h
    exact ⟨[], timer_rests now s, fun _ => rfl⟩
  | connected =>
    obtain rfl := Option.some.inj h
    exact ⟨[], connected_rests s, fun _ => rfl⟩
  | message header value =>
    obtain ⟨names, hnames, hnil⟩ := parseHelper_subscribes hrests h
    exact ⟨names, hnames.of_check, hnil⟩

/-! ## What is known of the symbols -/

/-- What is known of the symbols stays where it is. -/
def KeepsSymbols (s : MarketData D × SharedState Y) (_ : List Output)
    (t : MarketData D × SharedState Y) : Prop :=
  (t.2.symbols, t.2.allSymbols) = (s.2.symbols, s.2.allSymbols)

omit [Symbols Y] [Download State D] in
theorem composes_keepsSymbols :
    Composes (KeepsSymbols : MarketData D × SharedState Y → List Output →
      MarketData D × SharedState Y → Prop) :=
  composes_eq fun s : MarketData D × SharedState Y => (s.2.symbols, s.2.allSymbols)

omit [Symbols Y] [Download State D] in
theorem Subscribes.keepsSymbols {names : List String} {s t : MarketData D × SharedState Y}
    {os : List Output} (h : Subscribes names s os t) : KeepsSymbols s os t :=
  Prod.ext h.symbols h.allSymbols

omit [Download State D] in
theorem subscribe_keepsSymbols (env : Env) (ctx : Context Y) (startFrom : ℕ) :
    Meets KeepsSymbols (subscribe env ctx startFrom : Handler D Y) := by
  intro s
  obtain hready | hready := Bool.eq_false_or_eq_true s.1.ready_
  · exact (subscribe_subscribes env ctx startFrom hready).keepsSymbols
  · rw [subscribe_waits env ctx startFrom hready]
    rfl

omit [Download State D] in
theorem downloadState_keepsSymbols (env : Env) (ctx : Context Y) (state : State) :
    Meets KeepsSymbols (downloadState env ctx state : Handler D Y) := by
  cases state with
  | undefined => exact composes_keepsSymbols.skip
  | securities =>
    intro s
    simp only [downloadState]
    split_ifs
    · rfl
    · rfl
  | subscribe =>
    apply composes_keepsSymbols.seq _ (subscribe_keepsSymbols env ctx 0)
    intro s
    rfl
  | done =>
    intro s
    rfl

omit [Download State D] in
theorem advance_keepsSymbols (env : Env) (ctx : Context Y)
    (move : MarketData D → D × List State) :
    Meets KeepsSymbols (advance env ctx move : Handler D Y) := by
  intro s
  exact composes_keepsSymbols.each (downloadState_keepsSymbols env ctx) _ _

theorem checkSecurities_keepsSymbols (env : Env) (ctx : Context Y) :
    Meets KeepsSymbols (checkSecurities env ctx : Handler D Y) :=
  advance_keepsSymbols env ctx _

/-- A call that brings no list of securities. -/
theorem call_keepsSymbols {event : Event}
    (hevent : ∀ header noRelatedSym, event ≠ .message header (.securityList noRelatedSym))
    {s : MarketData D × SharedState Y} {r : (MarketData D × SharedState Y) × List Output}
    (h : call env ctx event s = some r) : KeepsSymbols s r.2 r.1 := by
  cases event with
  | subscribe startFrom =>
    obtain rfl := Option.some.inj h
    exact subscribe_keepsSymbols env ctx startFrom s
  | disconnected =>
    obtain rfl := Option.some.inj h
    rfl
  | timer now =>
    obtain ⟨names, hnames, -⟩ := call_subscribes (by trivial) h
    exact hnames.keepsSymbols
  | connected =>
    obtain ⟨names, hnames, -⟩ := call_subscribes (by trivial) h
    exact hnames.keepsSymbols
  | message header value =>
    cases value with
    | logon =>
      obtain rfl := Option.some.inj h
      exact advance_keepsSymbols env ctx _ (check header s.1, s.2)
    | logout =>
      obtain rfl := Option.some.inj h
      rfl
    | securityList noRelatedSym => exact absurd rfl (hevent header noRelatedSym)
    | _ =>
      obtain ⟨names, hnames, -⟩ := call_subscribes (by trivial) h
      exact hnames.keepsSymbols

/-! ## The download, and the end of a session -/

/-- The stream has become ready, and has asked for its slice. -/
structure Opens (s : MarketData D × SharedState Y) (os : List Output)
    (t : MarketData D × SharedState Y) : Prop where
  index : t.1.index = s.1.index
  ready_ : t.1.ready_ = true
  idle : Idle t.1.download
  symbols : t.2.symbols = s.2.symbols
  allSymbols : t.2.allSymbols = s.2.allSymbols
  requested : requested os = Symbols.getSlice s.2.symbols s.1.index 0

/-- The download waits for the securities. -/
structure Downloads (s : MarketData D × SharedState Y) (os : List Output)
    (t : MarketData D × SharedState Y) : Prop where
  index : t.1.index = s.1.index
  ready_ : t.1.ready_ = s.1.ready_
  state_eq : Download.state t.1.download = .securities
  symbols : t.2.symbols = s.2.symbols
  allSymbols : t.2.allSymbols = s.2.allSymbols
  requested : requested os = []

omit [Symbols Y] in
theorem idle_not_securities {d : D} (h : Idle d) : Download.state d ≠ .securities :=
  h.state_ne nofun nofun

omit [Download State D] in
theorem done_rests (env : Env) (ctx : Context Y) :
    Meets (Subscribes []) (downloadState env ctx .done : Handler D Y) := by
  apply composes_rests.seq (publish_rests _ _)
  intro s
  simp only [set, modify_apply]
  split_ifs
  · exact ⟨rfl, rfl, rfl, rfl, rfl, rfl, rfl⟩
  · exact .refl s

/-- The last two states make the stream ready and ask for its slice. -/
theorem each_opens (env : Env) (ctx : Context Y) (s : MarketData D × SharedState Y)
    (h : Idle s.1.download) :
    Opens s (each (downloadState env ctx) [.subscribe, .done] s).2
      (each (downloadState env ctx) [.subscribe, .done] s).1 := by
  have hready : (set (fun o => { o with ready_ := true }) s).1.1.ready_ = true := rfl
  obtain ⟨hindex, -, hready, hdownload, hsymbols, hall, hrequested⟩ :=
    (subscribe_subscribes env ctx 0 hready).trans (done_rests env ctx _)
  refine ⟨hindex, hready, ?_, hsymbols, hall, ?_⟩
  · exact (congrArg Idle hdownload).mpr h
  · rw [List.append_nil] at hrequested
    simp only [each, seq_snd]
    exact hrequested

/-- The first state of a download that waits for the securities. -/
theorem each_downloads (env : Env) (ctx : Context Y) (s : MarketData D × SharedState Y)
    (hmaster : s.1.master = true) (h : Download.state s.1.download = .securities) :
    Downloads s (each (downloadState env ctx) [.securities] s).2
      (each (downloadState env ctx) [.securities] s).1 := by
  have heq : downloadState env ctx .securities s =
      seq (publish .downloading State.securities.name) (downloadSecurities ctx) s := if_pos hmaster
  simp only [each, seq_fst, seq_snd, skip_apply, List.append_nil, heq]
  exact ⟨rfl, rfl, h, rfl, rfl, rfl⟩

/-- The states of a download that does not wait for securities. -/
theorem each_all_opens (env : Env) (ctx : Context Y) (s : MarketData D × SharedState Y)
    (hmaster : s.1.master = false) (h : Idle s.1.download) :
    Opens s (each (downloadState env ctx) [.securities, .subscribe, .done] s).2
      (each (downloadState env ctx) [.securities, .subscribe, .done] s).1 := by
  have hskip : downloadState env ctx .securities s = (s, []) :=
    if_neg (Bool.eq_false_iff.mp hmaster)
  have heq : each (downloadState env ctx) [.securities, .subscribe, .done] s =
      each (downloadState env ctx) [.subscribe, .done] s := by
    show seq (downloadState env ctx .securities) _ s = _
    simp only [seq, hskip, List.nil_append]
  rw [heq]
  exact each_opens env ctx s h

variable [LawfulDownload State D]

/-- A log-on has the master wait for the securities, and opens the session of any other
    stream. -/
theorem logon_cases (env : Env) (ctx : Context Y) {s : MarketData D × SharedState Y}
    (h : Idle s.1.download) :
    Downloads s (logon env ctx s).2 (logon env ctx s).1 ∨
      Opens s (logon env ctx s).2 (logon env ctx s).1 := by
  have henters := LawfulDownload.begin_enters (downloadCount s.1.master) s.1.download h
  simp only [logon, advance]
  generalize Download.begin (downloadCount s.1.master) s.1.download = r at henters ⊢
  obtain hmaster | hmaster := Bool.eq_false_or_eq_true s.1.master
  · left
    rw [hmaster] at henters
    have hentered : r.2 = [.securities] := henters.entered_eq
    obtain ⟨hindex, hready, hstate, hsymbols, hall, hrequested⟩ :=
      each_downloads env ctx ({ s.1 with download := r.1 }, s.2) hmaster (henters.waits _ rfl).1
    rw [hentered]
    exact ⟨hindex, hready, hstate, hsymbols, hall, hrequested⟩
  · right
    rw [hmaster] at henters
    have hentered : r.2 = [.securities, .subscribe, .done] := henters.entered_eq
    obtain ⟨hindex, hready, hidle, hsymbols, hall, hrequested⟩ :=
      each_all_opens env ctx ({ s.1 with download := r.1 }, s.2) hmaster (henters.idle rfl)
    rw [hentered]
    exact ⟨hindex, hready, hidle, hsymbols, hall, hrequested⟩

/-- What follows a list of securities: the download stays where it is, or the session
    opens. -/
theorem checkSecurities_cases (env : Env) (ctx : Context Y) (s : MarketData D × SharedState Y) :
    (checkSecurities env ctx s).1 = s ∧ (checkSecurities env ctx s).2 = [] ∨
    Download.state s.1.download = .securities ∧
      (Downloads s (checkSecurities env ctx s).2 (checkSecurities env ctx s).1 ∨
        Opens s (checkSecurities env ctx s).2 (checkSecurities env ctx s).1) := by
  have hcases := checkRelaxed_cases (downloadCount s.1.master) s.1.download
    (show State.securities ∈ before from List.mem_cons_self)
  simp only [checkSecurities, advance]
  generalize Download.checkRelaxed (downloadCount s.1.master) s.1.download .securities = r
    at hcases ⊢
  obtain ⟨-, rfl⟩ | ⟨hstate, hstays | ⟨hentered, hidle, -⟩⟩ := hcases
  · exact .inl ⟨rfl, rfl⟩
  · refine .inr ⟨hstate, .inl ?_⟩
    rw [hstays.entered_eq]
    exact ⟨rfl, rfl, hstays.state_eq, rfl, rfl, rfl⟩
  · refine .inr ⟨hstate, .inr ?_⟩
    have hbehind : entered (downloadCount s.1.master) (behind State.securities all) =
        [.subscribe, .done] := by
      cases s.1.master with
      | true => rfl
      | false => rfl
    have hnone : waiting (downloadCount s.1.master) (behind State.securities all) = none := by
      cases s.1.master with
      | true => rfl
      | false => rfl
    obtain ⟨hindex, hready, hidle', hsymbols, hall, hrequested⟩ :=
      each_opens env ctx ({ s.1 with download := r.1 }, s.2) (hidle hnone)
    rw [hentered, hbehind]
    exact ⟨hindex, hready, hidle', hsymbols, hall, hrequested⟩

omit [Symbols Y] [Download State D] [LawfulDownload State D] in
/-- The loop over a list of securities finds symbols new, and asks for none. -/
theorem securities_emplaced {streamId : UInt16} {i : ℕ} {items : List Fix.Instrument}
    {shared : SharedState Y} {result : SharedState Y × List Output × List String}
    (h : securities env ctx streamId i items shared = some result) :
    result.1.symbols = shared.symbols ∧
      Emplaced shared.allSymbols result.2.2 result.1.allSymbols ∧ requested result.2.1 = [] := by
  induction items generalizing i shared result with
  | nil =>
    obtain rfl := Option.some.inj h
    exact ⟨rfl, .refl _, rfl⟩
  | cons item items ih =>
    simp only [securities, Option.bind_eq_some_iff, Option.map_eq_some_iff] at h
    obtain ⟨discard, -, report, hreport, rest, hrest, rfl⟩ := h
    have hnone : requested report = [] := by
      split_ifs at hreport
      · obtain ⟨value, -, rfl⟩ := Option.map_eq_some_iff.mp hreport
        rfl
      · obtain rfl := Option.some.inj hreport
        rfl
    obtain ⟨hsymbols, hemplaced, hrequested⟩ := ih hrest
    rw [requested_append, hnone, hrequested]
    cases discard with
    | true => exact ⟨hsymbols, hemplaced, rfl⟩
    | false => exact ⟨hsymbols, (SharedState.emplaceSymbol_emplaced _ _).trans hemplaced, rfl⟩

/-- The session is over. -/
structure Closes (s : MarketData D × SharedState Y) (os : List Output)
    (t : MarketData D × SharedState Y) : Prop where
  index : t.1.index = s.1.index
  ready_ : t.1.ready_ = false
  symbols : t.2.symbols = s.2.symbols
  allSymbols : t.2.allSymbols = s.2.allSymbols
  requested : requested os = []

omit [Symbols Y] [Download State D] [LawfulDownload State D] in
theorem logout_closes (ctx : Context Y) (s : MarketData D × SharedState Y) :
    Closes s (logout ctx s).2 (logout ctx s).1 ∧ (logout ctx s).1.1.download = s.1.download :=
  ⟨⟨rfl, rfl, rfl, rfl, rfl⟩, rfl⟩

omit [Symbols Y] in
theorem disconnected_closes (s : MarketData D × SharedState Y) :
    Closes s (disconnected s).2 (disconnected s).1 ∧ Idle (disconnected s).1.1.download :=
  ⟨⟨rfl, rfl, rfl, rfl, rfl⟩, LawfulDownload.reset_idle _⟩

end MarketData

end DeribitGateway
