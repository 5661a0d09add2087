import DeribitGateway.Fix.OrderDownload

/-!
# Orders on a session that is logged out

The order entry stream keeps its readiness twice: `ready_` for the timer, and the connection
status for the order actions. A log-out clears the first alone, and leaves the download where
it is. `Login` is a history of log-outs and log-ons that runs next to the stream.

`logged_out_refuses_orders` is about the runs where a log-out finds the stream not ready, no
log-on finds it ready, and no download goes on behind a log-out: there the two records agree,
and every order action is refused between a log-out and the end of the next download.
`order_leaves_after_logout` is a run where the log-out finds the stream ready.
-/

namespace DeribitGateway

open Transducer Download2

namespace OrderEntry

/-- Whether the session has been logged out: since then no log-on has been received, or one
    has and its download is not complete. -/
inductive Login
  | loggedIn
  | loggedOut
  | loggingOn
  deriving DecidableEq

def Output.isReady : Output → Bool
  | .streamStatus value => value.connectionStatus = .ready
  | _ => false

def Login.receive (login : Login) : Event → Login
  | .message _ .logout => .loggedOut
  | .message _ .logon => if login = .loggedOut then .loggingOn else login
  | _ => login

def Login.next (login : Login) (i : Context × Event) (os : List Output) : Login :=
  if login.receive i.2 = .loggingOn ∧ os.any Output.isReady = true then .loggedIn
  else login.receive i.2

/-- A log-out finds the stream not ready, a log-on finds it not ready, and no download that is
    under way goes on behind a log-out. -/
def Orderly {D : Type} [Download2 D] (s : OrderEntry D × Login) (i : Context × Event) : Prop :=
  match i.2 with
  | .message _ .logout => s.1.connectionStatus ≠ .ready
  | .message _ .logon => s.1.ready_ = false
  | .message _ (.positionReport _) => s.2 = .loggedOut → Inactive s.1.download
  | .message _ (.executionReport _) => s.2 = .loggedOut → Inactive s.1.download
  | _ => True

variable {D : Type} [Download2 D] {env : Env} {ctx : Context} {o o' : OrderEntry D}

omit [Download2 D] in
theorem receive_quiet {login : Login} {event : Event} (h : event.IsQuiet) :
    login.receive event = login := by
  cases event with
  | message header value =>
    cases value with
    | logon => exact h.elim
    | logout => exact h.elim
    | _ => rfl
  | _ => rfl

omit [Download2 D] in
theorem next_ne_loggedIn {login : Login} {i : Context × Event} {os : List Output}
    (h : login.next i os ≠ .loggedIn) : login.receive i.2 ≠ .loggedIn := by
  unfold Login.next at h
  split_ifs at h
  · exact absurd rfl h
  · exact h

/-! ## The records of readiness -/

/-- The records agree, and a stream that is ready has no download under way. -/
structure Agrees (o : OrderEntry D) : Prop where
  ready : o.ready_ = true ↔ o.connectionStatus = .ready
  inactive : o.ready_ = true → Inactive o.download

/-- The download has moved: it waits on, it goes on to the next state, or it is done. -/
inductive Moved (o : OrderEntry D) : OrderEntry D → List Output → Prop
  | waits (d : D) (os : List Output) : Moved o { o with download := d } os
  | enters (d : D) (os : List Output) : Moved o
      { o with download := d, connectionStatus := .downloading, outbound := o.outbound + 1 } os
  | done (d : D) (os : List Output) (hinactive : Inactive d)
      (hready : os.any Output.isReady = true) :
      Moved o { o with download := d, connectionStatus := .ready, ready_ := true } os

theorem Agrees.undisturbed (h : Agrees o) (hu : Undisturbed o o') : Agrees o' where
  ready := by
    rw [hu.ready_]
    obtain hsame | ⟨hready, hsent⟩ := hu.status
    · rw [hsame]
      exact h.ready
    · rw [hready, hsent]
      exact ⟨nofun, nofun⟩
  inactive hready := by
    rw [hu.download]
    exact h.inactive (hu.ready_ ▸ hready)

theorem Agrees.moved {os : List Output} (h : Agrees o) (hready : o.ready_ = false)
    (hm : Moved o o' os) : Agrees o' := by
  cases hm with
  | waits d =>
    constructor
    · exact h.ready
    · intro h'
      rw [hready] at h'
      cases h'
  | enters d =>
    constructor
    · rw [hready]
      exact ⟨nofun, nofun⟩
    · intro h'
      rw [hready] at h'
      cases h'
  | done d _ hinactive => exact ⟨⟨fun _ => rfl, fun _ => rfl⟩, fun _ => hinactive⟩

theorem Agrees.not_ready (h : Agrees o) (hactive : ¬Inactive o.download) : o.ready_ = false := by
  cases hready : o.ready_ with
  | false => rfl
  | true => exact absurd (h.inactive hready) hactive

theorem advance_done_ready (env : Env) (ctx : Context) (o : OrderEntry D) {r : D × List State}
    (h : Enters downloadCount r [.done]) :
    (advance env ctx r o).2.any Output.isReady = true := by
  obtain ⟨entered, hentered, hnil, -⟩ := h
  obtain rfl : entered = [] := hnil
  rw [advance, hentered]
  rfl

theorem moved_positions (env : Env) (ctx : Context) (o : OrderEntry D) {r : D × List State}
    (h : Enters downloadCount r [.positions, .orders, .done]) :
    Moved o (advance env ctx r o).1 (advance env ctx r o).2 := by
  rw [(advance_positions env ctx o h).1]
  exact .enters _ _

theorem moved_orders (env : Env) (ctx : Context) (o : OrderEntry D) {r : D × List State}
    (h : Enters downloadCount r [.orders, .done]) (os : List Output) :
    Moved o (advance env ctx r o).1 os := by
  rw [(advance_orders env ctx o h).1]
  exact .enters _ _

theorem moved_done (env : Env) (ctx : Context) (o : OrderEntry D) {r : D × List State}
    (h : Enters downloadCount r [.done]) (os : List Output) :
    Moved o (advance env ctx r o).1 (os ++ (advance env ctx r o).2) := by
  obtain ⟨hnext, hinactive⟩ := advance_done env ctx o h
  rw [hnext]
  apply Moved.done _ _ hinactive
  rw [List.any_append, advance_done_ready env ctx o h, Bool.or_true]

theorem moved_stay (env : Env) (ctx : Context) (o : OrderEntry D) {r : D × List State}
    (h : r.2 = []) (os : List Output) : Moved o (advance env ctx r o).1 os := by
  rw [advance_stay h]
  exact .waits _ _

variable [LawfulDownload2 D]

/-- A position report moves a download that waits for it. -/
theorem positionReport_moves (noPositions : List Fix.PositionQty) :
    (positionReport env ctx noPositions o).1 = o ∨ (¬Inactive o.download ∧
      Moved o (positionReport env ctx noPositions o).1
        (positionReport env ctx noPositions o).2) := by
  by_cases hstate : state o.download = .positions
  · refine .inr ⟨fun h => h.1 hstate, ?_⟩
    by_cases hlast : outstanding o.download = 1
    · exact moved_orders env ctx o
        (LawfulDownload2.positions_done downloadCount _ hstate hlast) _
    · exact moved_stay env ctx o
        (LawfulDownload2.check_more downloadCount _ _ hstate hlast).1 _
  · exact .inl (positionReport_other hstate noPositions)

/-- An execution report moves a download that waits for it. -/
theorem executionReport_moves {header : Fix.Header} {r : Fix.ExecutionReport} {e : Effect D}
    (h : executionReport env ctx header r o = some e) :
    e.1 = o ∨ (¬Inactive o.download ∧ Moved o e.1 e.2) := by
  by_cases hstate : state o.download = .orders
  · unfold executionReport at h
    split at h
    · split_ifs at h
      · obtain rfl := Option.some.inj h
        exact .inl rfl
      · obtain rfl := Option.some.inj h
        refine .inr ⟨fun h => h.2 hstate, ?_⟩
        by_cases hlast : outstanding o.download = 1
        · exact moved_done env ctx o
            (LawfulDownload2.orders_done downloadCount _ hstate hlast) _
        · exact moved_stay env ctx o
            (LawfulDownload2.check_more downloadCount _ _ hstate hlast).1 _
    · obtain rfl := Option.some.inj h
      refine .inr ⟨fun h => h.2 hstate, ?_⟩
      by_cases hnone : (r.totNumReports : ℤ) = 0
      · rw [hnone]
        exact moved_done env ctx o (LawfulDownload2.orders_none downloadCount _ hstate) []
      · exact moved_stay env ctx o
          (LawfulDownload2.update_more downloadCount _ _ _ hstate hnone).1 _
    · cases h
  · exact .inl (executionReport_other hstate h)

/-- A log-on begins the download, or is ignored while one is under way. -/
theorem logon_moves [LawfulRestart D] :
    Moved { o with lastLogonOrHeartbeat := 0 } (logon env ctx o).1 (logon env ctx o).2 := by
  unfold logon
  by_cases hinactive : Inactive o.download
  · exact moved_positions env ctx _ (LawfulDownload2.begin_enters downloadCount _ hinactive)
  · obtain hstay | henters := LawfulRestart.begin_again downloadCount _ hinactive
    · exact moved_stay env ctx _ (by rw [hstay]) _
    · exact moved_positions env ctx _ henters

/-! ## The invariant -/

/-- The records agree, and a session that is logged out is not ready. -/
structure Guards (s : OrderEntry D × Login) : Prop where
  agrees : Agrees s.1
  loggedOut : s.2 ≠ .loggedIn → s.1.connectionStatus ≠ .ready

omit [LawfulDownload2 D] in
theorem Guards.undisturbed {login : Login} {event : Event} {os : List Output}
    (h : Guards (o, login)) (hu : Undisturbed o o') (hreceive : login.receive event = login) :
    Guards (o', login.next (ctx, event) os) where
  agrees := h.agrees.undisturbed hu
  loggedOut hne := by
    have hlogin := next_ne_loggedIn hne
    rw [hreceive] at hlogin
    exact hu.not_ready (h.loggedOut hlogin)

omit [LawfulDownload2 D] in
/-- A download that moves, when no log-out has come since the log-on it belongs to. -/
theorem Guards.moved {login : Login} {event : Event} {os : List Output} (h : Guards (o, login))
    (hready : o.ready_ = false) (hm : Moved o o' os)
    (hreceive : login.receive event = .loggedIn ∨ login.receive event = .loggingOn)
    (hlogin : login.receive event ≠ .loggedIn → login ≠ .loggedIn) :
    Guards (o', login.next (ctx, event) os) where
  agrees := h.agrees.moved hready hm
  loggedOut hne := by
    have hne' := next_ne_loggedIn hne
    cases hm with
    | waits d => exact h.loggedOut (hlogin hne')
    | enters d => exact nofun
    | done d _ hinactive hdone =>
      -- the log-in is complete
      have hlogging : login.receive event = .loggingOn := hreceive.resolve_left hne'
      unfold Login.next at hne
      rw [if_pos ⟨hlogging, hdone⟩] at hne
      exact absurd rfl hne

omit [LawfulDownload2 D] in
theorem Guards.report {login : Login} {header : Fix.Header} {value : Fix.Inbound}
    {os : List Output} (h : Guards (o, login))
    (hreceive : login.receive (.message header value) = login)
    (hmoves : o' = o ∨ (¬Inactive o.download ∧ Moved o o' os))
    (horderly : login = .loggedOut → Inactive o.download) :
    Guards (o', login.next (ctx, .message header value) os) := by
  obtain rfl | ⟨hactive, hm⟩ := hmoves
  · exact h.undisturbed (Undisturbed.refl _) hreceive
  · refine h.moved (h.agrees.not_ready hactive) hm ?_ ?_
    · rw [hreceive]
      cases login with
      | loggedIn => exact .inl rfl
      | loggedOut => exact absurd (horderly rfl) hactive
      | loggingOn => exact .inr rfl
    · rw [hreceive]
      exact id

/-- **The step lemma.** -/
theorem Guards.step [LawfulRestart D] {s t : OrderEntry D × Login} {i : Context × Event}
    (h : Guards s) (horderly : Orderly s i)
    (ht : (keeping (step env) Login.next s i).1 = some t) : Guards t := by
  obtain ⟨hnext, hlogin⟩ := keeping_some ht
  obtain ⟨o, login⟩ := s
  obtain ⟨o', login'⟩ := t
  obtain ⟨ctx, event⟩ := i
  simp only at hnext hlogin
  subst hlogin
  by_cases hquiet : event.IsQuiet
  · exact h.undisturbed (step_quiet hquiet hnext) (receive_quiet hquiet)
  · cases event with
    | connected =>
      obtain rfl := Option.some.inj hnext
      exact h.undisturbed ⟨rfl, rfl, .inl rfl⟩ rfl
    | disconnected =>
      obtain rfl := Option.some.inj hnext
      exact ⟨⟨⟨nofun, nofun⟩, nofun⟩, fun _ => nofun⟩
    | message header value =>
      have hcheck : Guards (check header o, login) := ⟨⟨h.agrees.1, h.agrees.2⟩, h.2⟩
      cases value with
      | logon =>
        obtain rfl := Option.some.inj hnext
        have hprobe : Guards ({ check header o with lastLogonOrHeartbeat := 0 }, login) :=
          ⟨⟨h.agrees.1, h.agrees.2⟩, h.2⟩
        refine hprobe.moved horderly logon_moves ?_ ?_
        · cases login with
          | loggedIn => exact .inl rfl
          | loggedOut => exact .inr rfl
          | loggingOn => exact .inr rfl
        · rintro hne rfl
          exact hne rfl
      | logout =>
        obtain rfl := Option.some.inj hnext
        have hstatus : o.connectionStatus ≠ .ready := horderly
        refine ⟨⟨⟨nofun, ?_⟩, nofun⟩, fun _ => hstatus⟩
        intro hready
        exact absurd hready hstatus
      | positionReport noPositions =>
        obtain rfl := Option.some.inj hnext
        exact hcheck.report rfl (positionReport_moves noPositions) horderly
      | executionReport r =>
        simp only [OrderEntry.step, parseHelper] at hnext ⊢
        cases hr : executionReport env ctx header r (check header o) with
        | none => rw [hr] at hnext; cases hnext
        | some e =>
          rw [hr] at hnext
          obtain rfl := Option.some.inj hnext
          exact hcheck.report rfl (executionReport_moves hr) horderly
      | _ => exact absurd trivial hquiet
    | _ => exact absurd trivial hquiet

omit [LawfulDownload2 D] in
theorem guards_initial : Guards ((initial : OrderEntry D), Login.loggedIn) :=
  ⟨⟨⟨nofun, nofun⟩, nofun⟩, fun h => absurd rfl h⟩

theorem guards_of_run [LawfulRestart D] {is : List (Context × Event)}
    {s : OrderEntry D × Login}
    (horderly : Guarded (keeping (step env) Login.next) Orderly
      ((initial : OrderEntry D), .loggedIn) is)
    (h : (run (keeping (step env) Login.next) (initial, .loggedIn) is).1 = some s) :
    Guards s :=
  (run_sound (P := fun _ => True)
    (fun _ _ hguards hi => ⟨fun _ ht => hguards.step hi ht, fun _ _ => trivial⟩)
    guards_initial horderly).1 s h

omit [LawfulDownload2 D] in
/-- An order action is refused by a stream that is not ready. -/
theorem step_refused (hready : o.connectionStatus ≠ .ready) {action : Event}
    (h : action.IsAction) :
    step env o (ctx, action) = (some o, [.threw (.notReady "not ready")]) := by
  have hnot : o.ready = false := by simp [ready, hready]
  cases action with
  | createOrder value refData requestId => simp [step, createOrder, orThrow, hnot]
  | modifyOrder value order refData requestId => simp [step, modifyOrder, orThrow, hnot]
  | cancelOrder order requestId => simp [step, cancelOrder, orThrow, hnot]
  | cancelAllOrders value requestId => simp [step, cancelAllOrders, orThrow, hnot]
  | _ => exact h.elim

/-- **No order leaves on a session that is logged out.** In an orderly run the two records of
    readiness agree, and between a log-out and the end of the next download every order action
    is refused. -/
theorem logged_out_refuses_orders [LawfulRestart D] (env : Env) (is : List (Context × Event))
    (o : OrderEntry D) (login : Login)
    (horderly : Guarded (keeping (step env) Login.next) Orderly
      ((initial : OrderEntry D), .loggedIn) is)
    (hrun : (run (keeping (step env) Login.next) (initial, .loggedIn) is).1 = some (o, login)) :
    (o.ready_ = true ↔ o.connectionStatus = .ready) ∧
      (login ≠ .loggedIn → ∀ (ctx : Context) (action : Event), action.IsAction →
        step env o (ctx, action) = (some o, [.threw (.notReady "not ready")])) := by
  have h := guards_of_run horderly hrun
  constructor
  · exact h.agrees.ready
  · intro hlogin ctx action haction
    exact step_refused (h.loggedOut hlogin) haction

/-- A log-out while the download is under way. -/
abbrev earlyLogout : List (Context × Event) :=
  [(.plain, .connected), (.plain, .message ⟨1, 1⟩ .logon), (.plain, .message ⟨2, 1⟩ .logout)]

/-- The cancel request behind it is refused. -/
theorem early_logout_refuses_cancel : ∃ o : OrderEntry DownloadCounter,
    (run (keeping (step .plain) Login.next) (initial, .loggedIn) earlyLogout).1 =
        some (o, .loggedOut) ∧
      o.connectionStatus = .downloading ∧
      step .plain o (.plain, .cancelOrder plainOrder "r1") =
        (some o, [.threw (.notReady "not ready")]) := by
  refine ⟨_, rfl, rfl, ?_⟩
  refine (logged_out_refuses_orders .plain earlyLogout _ .loggedOut ?_ rfl).2 nofun .plain _ trivial
  refine ⟨trivial, fun s hs => ?_⟩
  obtain rfl := Option.some.inj hs
  refine ⟨rfl, fun s hs => ?_⟩
  obtain rfl := Option.some.inj hs
  exact ⟨nofun, fun _ _ => trivial⟩

/-- The log-out finds the stream ready, and leaves its connection status so: the next cancel
    request is sent. -/
theorem order_leaves_after_logout :
    ∃ o : OrderEntry DownloadCounter,
      (run (keeping (step .plain) Login.next) (initial, .loggedIn)
        ((openSession ++ [Event.message ⟨4, 1⟩ .logout]).map (.plain, ·))).1 =
          some (o, .loggedOut) ∧
      o.ready_ = false ∧ o.connectionStatus = .ready ∧
      (step .plain o (.plain, .cancelOrder plainOrder "r1")).2 =
        [.sent 5 (.orderCancelRequest ⟨"a", "BTC-PERPETUAL"⟩) true, .returned 1] := by
  refine ⟨_, rfl, ?_, ?_, ?_⟩
  · rfl
  · rfl
  · rfl

end OrderEntry

end DeribitGateway
