import DeribitGateway.Fix.Handlers

/-!
# The download of orders

After the log-on the stream asks for the positions, and after the first position report for the
orders. The reply is a header with the number of reports and then that many status reports;
live reports of the session may come at any time. The download counts: it starts at one, the
header replaces the count, and every ordinary report that is not dropped (#143) takes one off,
whether it belongs to the reply or not.

`orders_are_downloaded` is about the runs where no live report is counted and no status report
dropped: there the stream is ready exactly when the whole reply has been handled. A live report
in front of the header ends the download at once: `live_report_ends_download`.
-/

namespace DeribitGateway

open Transducer Download2

/-! ## The reply -/

namespace OrderEntry

/-- What arrives after the log-on. -/
inductive Arrival
  | positions (header : Fix.Header) (noPositions : List Fix.PositionQty)
  | total (header : Fix.Header) (r : Fix.ExecutionReport)
  | status (header : Fix.Header) (r : Fix.ExecutionReport)
  | live (header : Fix.Header) (r : Fix.ExecutionReport)
  | other (event : Event)

def Arrival.event : Arrival → Event
  | .positions header noPositions => .message header (.positionReport noPositions)
  | .total header r => .message header (.executionReport r)
  | .status header r => .message header (.executionReport r)
  | .live header r => .message header (.executionReport r)
  | .other event => event

/-- Where the reply to the request for orders is. -/
inductive Reply
  | unasked
  | asked
  | remaining (reports : ℕ)
  deriving DecidableEq

def Output.asksOrders : Output → Bool
  | .sent _ (.orderMassStatusRequest _) _ => true
  | _ => false

def Reply.next : Reply → Context × Arrival → List Output → Reply
  | .unasked, (_, .positions _ _), os => if os.any Output.asksOrders then .asked else .unasked
  | .asked, (_, .total _ r), _ => .remaining r.totNumReports
  | .remaining (n + 1), (_, .status _ _), _ => .remaining n
  | reply, _, _ => reply

/-- The header comes once, when the orders have been asked for, and the status reports behind
    it, as many as it says. -/
def Reply.Sends (reply : Reply) : Arrival → Prop
  | .positions _ _ => True
  | .total _ r => r.massStatusReqType = .orders ∧ reply = .asked
  | .status _ r => r.massStatusReqType = .undefined ∧ ∃ n, reply = .remaining (n + 1)
  | .live _ r => r.massStatusReqType = .undefined
  | .other event => event.IsQuiet

variable {D : Type} [Download2 D]

/-- The stream after a log-on, next to the reply. -/
def downloading (env : Env) : Step (OrderEntry D × Reply) (Context × Arrival) Output :=
  keeping (fun o i => step env o (i.1, i.2.event)) Reply.next

/-- The stream has not logged on, or the connection was lost since. -/
structure LoggedOff (o : OrderEntry D) : Prop where
  ready_ : o.ready_ = false
  status : o.connectionStatus ≠ .ready
  download : Inactive o.download

/-- Whether a log-on has been received since the connection was last lost. -/
def Event.loggedOn (b : Bool) : Event → Bool
  | .disconnected => false
  | .message _ .logon => true
  | _ => b

def loggedOn (is : List (Context × Event)) : Bool := is.foldl (fun b i => i.2.loggedOn b) false

/-- While the orders are downloaded no live report is counted and no status report dropped. -/
def CountsReply (env : Env) (s : OrderEntry D × Reply) (i : Context × Arrival) : Prop :=
  match i.2 with
  | .status _ r => dropped env r = false
  | .live _ r => state s.1.download = .orders → dropped env r = true
  | _ => True

/-! ## How the download moves -/

variable {env : Env} {ctx : Context} {o o' : OrderEntry D}

omit [Download2 D] in
theorem advance_stay {r : D × List State} (h : r.2 = []) :
    (advance env ctx r o).1 = { o with download := r.1 } := by
  rw [advance, h]
  rfl

theorem advance_positions (env : Env) (ctx : Context) (o : OrderEntry D) {r : D × List State}
    (h : Enters downloadCount r [.positions, .orders, .done]) :
    (advance env ctx r o).1 =
      { o with download := r.1, connectionStatus := .downloading, outbound := o.outbound + 1 } ∧
    state r.1 = .positions ∧ outstanding r.1 = 1 := by
  obtain ⟨hentered, hstate, hcount⟩ := h
  exact ⟨by rw [advance, hentered]; rfl, hstate, hcount⟩

theorem advance_orders (env : Env) (ctx : Context) (o : OrderEntry D) {r : D × List State}
    (h : Enters downloadCount r [.orders, .done]) :
    (advance env ctx r o).1 =
      { o with download := r.1, connectionStatus := .downloading, outbound := o.outbound + 1 } ∧
    (advance env ctx r o).2.any Output.asksOrders = true ∧
    state r.1 = .orders ∧ outstanding r.1 = 1 := by
  obtain ⟨hentered, hstate, hcount⟩ := h
  exact ⟨by rw [advance, hentered]; rfl, by rw [advance, hentered]; rfl, hstate, hcount⟩

theorem advance_done (env : Env) (ctx : Context) (o : OrderEntry D) {r : D × List State}
    (h : Enters downloadCount r [.done]) :
    (advance env ctx r o).1 =
      { o with download := r.1, connectionStatus := .ready, ready_ := true } ∧
    Inactive r.1 := by
  obtain ⟨entered, hentered, hnil, hinactive⟩ := h
  obtain rfl : entered = [] := hnil
  exact ⟨by rw [advance, hentered]; rfl, hinactive⟩

variable [LawfulDownload2 D]

/-- A position report matters while the positions are downloaded. -/
theorem positionReport_other (h : state o.download ≠ .positions)
    (noPositions : List Fix.PositionQty) : (positionReport env ctx noPositions o).1 = o := by
  show (advance env ctx (checkRelaxed downloadCount o.download .positions) o).1 = o
  rw [LawfulDownload2.other_check _ _ _ h]
  rfl

/-- An ordinary report matters while the orders are downloaded. -/
theorem executionReport_other {header : Fix.Header} {r : Fix.ExecutionReport} {e : Effect D}
    (h : state o.download ≠ .orders) (hr : executionReport env ctx header r o = some e) :
    e.1 = o := by
  unfold executionReport at hr
  split at hr
  · split_ifs at hr
    · obtain rfl := Option.some.inj hr
      rfl
    · obtain rfl := Option.some.inj hr
      show (advance env ctx (checkRelaxed downloadCount o.download .orders) o).1 = o
      rw [LawfulDownload2.other_check _ _ _ h]
      rfl
  · obtain rfl := Option.some.inj hr
    show (advance env ctx (update downloadCount o.download .orders r.totNumReports) o).1 = o
    rw [LawfulDownload2.other_update _ _ _ _ h]
    rfl
  · cases hr

theorem executionReport_next {header : Fix.Header} {r : Fix.ExecutionReport}
    (h : state o.download ≠ .orders)
    (hs : (parseHelper env ctx header o (.executionReport r)).1 = some o') : o' = o := by
  simp only [parseHelper] at hs
  cases hr : executionReport env ctx header r o with
  | none => rw [hr] at hs; cases hs
  | some e =>
    rw [hr] at hs
    obtain rfl := Option.some.inj hs
    exact executionReport_other h hr

/-! ## Before the log-on -/

omit [LawfulDownload2 D] in
theorem LoggedOff.undisturbed (h : LoggedOff o) (hu : Undisturbed o o') : LoggedOff o' where
  ready_ := hu.ready_.trans h.ready_
  status := hu.not_ready h.status
  download := hu.download ▸ h.download

theorem loggedOff_initial : LoggedOff (initial : OrderEntry D) :=
  ⟨rfl, nofun, LawfulDownload2.fresh_inactive⟩

theorem loggedOff_disconnected (o : OrderEntry D) : LoggedOff (disconnected env o).1 :=
  ⟨rfl, nofun, LawfulDownload2.reset_inactive _⟩

/-- Nothing but a log-on moves a stream that is logged off. -/
theorem LoggedOff.step (h : LoggedOff o) {event : Event} (hb : event.loggedOn false = false)
    (hs : (step env o (ctx, event)).1 = some o') : LoggedOff o' := by
  cases event with
  | connected =>
    obtain rfl := Option.some.inj hs
    exact ⟨h.ready_, h.status, h.download⟩
  | disconnected =>
    obtain rfl := Option.some.inj hs
    exact loggedOff_disconnected o
  | message header value =>
    have h' : LoggedOff (check header o) := ⟨h.ready_, h.status, h.download⟩
    cases value with
    | logon => cases hb
    | logout =>
      obtain rfl := Option.some.inj hs
      exact ⟨rfl, h.status, h.download⟩
    | positionReport noPositions =>
      obtain rfl := Option.some.inj hs
      rw [positionReport_other h'.download.1]
      exact h'
    | executionReport r =>
      rw [executionReport_next h'.download.2 hs]
      exact h'
    | _ => exact h.undisturbed (step_quiet (by trivial) hs)
  | _ => exact h.undisturbed (step_quiet (by trivial) hs)

theorem loggedOn_false {b : Bool} {event : Event} (h : event.loggedOn b = false) :
    event = .disconnected ∨ (b = false ∧ event.loggedOn false = false) := by
  unfold Event.loggedOn at h ⊢
  split at h
  · exact .inl rfl
  · cases h
  · exact .inr ⟨h, rfl⟩

theorem LoggedOff.run {is : List (Context × Event)} {b : Bool} (h : b = false → LoggedOff o)
    (hb : is.foldl (fun b i => i.2.loggedOn b) b = false)
    (hrun : (run (OrderEntry.step env) o is).1 = some o') : LoggedOff o' := by
  induction is generalizing b o with
  | nil =>
    obtain rfl := Option.some.inj hrun
    exact h hb
  | cons i is ih =>
    cases hs : (OrderEntry.step env o i).1 with
    | none => rw [run_cons_none is hs] at hrun; cases hrun
    | some t =>
      rw [run_cons_some is hs] at hrun
      refine ih ?_ hb hrun
      intro hevent
      obtain hdisconnected | ⟨hb, hevent⟩ := loggedOn_false hevent
      · obtain ⟨ctx, event⟩ := i
        subst hdisconnected
        obtain rfl := Option.some.inj hs
        exact loggedOff_disconnected o
      · exact (h hb).step hevent hs

/-- After any run in which no log-on has been received since the connection was lost. -/
theorem loggedOff_of_run {is : List (Context × Event)} (hb : loggedOn is = false)
    (hrun : (run (step env) (initial : OrderEntry D) is).1 = some o) : LoggedOff o :=
  LoggedOff.run (fun _ => loggedOff_initial) hb hrun

/-! ## The invariant -/

/-- Waiting for `n` replies in state `s`. -/
structure Waiting (s : State) (n : ℤ) (o : OrderEntry D) : Prop where
  ready_ : o.ready_ = false
  status : o.connectionStatus ≠ .ready
  state : state o.download = s
  outstanding : outstanding o.download = n

structure Done (o : OrderEntry D) : Prop where
  ready_ : o.ready_ = true
  status : o.connectionStatus = .ready
  download : Inactive o.download

/-- **The count is what is missing of the reply.** -/
def Follows (o : OrderEntry D) : Reply → Prop
  | .unasked => Waiting .positions 1 o
  | .asked => Waiting .orders 1 o
  | .remaining 0 => Done o
  | .remaining (n + 1) => Waiting .orders (n + 1) o

omit [LawfulDownload2 D] in
theorem Waiting.undisturbed {s : State} {n : ℤ} (h : Waiting s n o) (hu : Undisturbed o o') :
    Waiting s n o' where
  ready_ := hu.ready_.trans h.ready_
  status := hu.not_ready h.status
  state := hu.download ▸ h.state
  outstanding := hu.download ▸ h.outstanding

omit [LawfulDownload2 D] in
/-- A stream that is ready sends no log-on. -/
theorem Done.undisturbed (h : Done o) (hu : Undisturbed o o') : Done o' where
  ready_ := hu.ready_.trans h.ready_
  status := by
    obtain hstatus | ⟨hready, -⟩ := hu.status
    · exact hstatus.trans h.status
    · rw [h.ready_] at hready
      cases hready
  download := hu.download ▸ h.download

omit [LawfulDownload2 D] in
theorem Follows.undisturbed {reply : Reply} (h : Follows o reply) (hu : Undisturbed o o') :
    Follows o' reply := by
  match reply, h with
  | .unasked, h => exact Waiting.undisturbed h hu
  | .asked, h => exact Waiting.undisturbed h hu
  | .remaining 0, h => exact Done.undisturbed h hu
  | .remaining (n + 1), h => exact Waiting.undisturbed h hu

omit [LawfulDownload2 D] in
/-- Once the orders have been asked for, no position report counts. -/
theorem Follows.positions {reply : Reply} (h : Follows o reply) (hreply : reply ≠ .unasked) :
    state o.download ≠ .positions := by
  match reply, h with
  | .unasked, _ => exact absurd rfl hreply
  | .asked, h => rw [h.state]; decide
  | .remaining 0, h => exact h.download.1
  | .remaining (n + 1), h => rw [h.state]; decide

/-- The log-on begins the download. -/
theorem follows_logon (h : LoggedOff o) : Follows (logon env ctx o).1 .unasked := by
  obtain ⟨hnext, hstate, hcount⟩ := advance_positions env ctx
    { o with lastLogonOrHeartbeat := 0 }
    (LawfulDownload2.begin_enters downloadCount o.download h.download)
  rw [logon, hnext]
  exact ⟨h.ready_, nofun, hstate, hcount⟩

/-- The first position report asks for the orders; no other matters. -/
theorem follows_positions {reply : Reply} (h : Follows o reply) (header : Fix.Header)
    (noPositions : List Fix.PositionQty) :
    Follows (positionReport env ctx noPositions o).1
      (reply.next (ctx, .positions header noPositions)
        (positionReport env ctx noPositions o).2) := by
  by_cases hreply : reply = .unasked
  · subst hreply
    obtain ⟨hnext, hasks, hstate, hcount⟩ := advance_orders env ctx o
      (LawfulDownload2.positions_done downloadCount o.download h.state h.outstanding)
    have hasked : (positionReport env ctx noPositions o).2.any Output.asksOrders = true := by
      simp [positionReport, hasks]
    rw [Reply.next, if_pos hasked]
    show Waiting .orders 1 (advance env ctx _ o).1
    rw [hnext]
    exact ⟨h.ready_, nofun, hstate, hcount⟩
  · have hstay : reply.next (ctx, .positions header noPositions)
        (positionReport env ctx noPositions o).2 = reply := by
      cases reply with
      | unasked => exact absurd rfl hreply
      | asked => rfl
      | remaining n => cases n <;> rfl
    rw [hstay, positionReport_other (h.positions hreply)]
    exact h

/-- The header replaces the count; without reports the download is done. -/
theorem follows_total (h : Waiting .orders 1 o) {header : Fix.Header} {r : Fix.ExecutionReport}
    (htotal : r.massStatusReqType = .orders)
    (hs : (parseHelper env ctx header o (.executionReport r)).1 = some o') :
    Follows o' (.remaining r.totNumReports) := by
  simp only [parseHelper, executionReport, htotal] at hs
  obtain rfl := Option.some.inj hs
  cases hn : r.totNumReports with
  | zero =>
    obtain ⟨hnext, hinactive⟩ := advance_done env ctx o
      (LawfulDownload2.orders_none downloadCount o.download h.state)
    show Done (advance env ctx (update downloadCount o.download .orders 0) o).1
    rw [hnext]
    exact ⟨rfl, rfl, hinactive⟩
  | succ n =>
    obtain ⟨hnone, hstate, hcount⟩ := LawfulDownload2.update_more downloadCount o.download .orders
      ((n + 1 : ℕ) : ℤ) h.state (by omega)
    show Waiting .orders (n + 1) (advance env ctx _ o).1
    rw [advance_stay hnone]
    exact ⟨h.ready_, h.status, hstate, by simpa using hcount⟩

/-- An ordinary report that is not dropped takes one off the count. -/
theorem follows_counted {n : ℕ} (h : Waiting .orders (n + 1) o) {header : Fix.Header}
    {r : Fix.ExecutionReport} (hordinary : r.massStatusReqType = .undefined)
    (hcounted : dropped env r = false)
    (hs : (parseHelper env ctx header o (.executionReport r)).1 = some o') :
    Follows o' (.remaining n) := by
  simp only [parseHelper, executionReport, hordinary, hcounted, Bool.false_eq_true, if_false] at hs
  obtain rfl := Option.some.inj hs
  cases n with
  | zero =>
    obtain ⟨hnext, hinactive⟩ := advance_done env ctx o
      (LawfulDownload2.orders_done downloadCount o.download h.state (by simpa using h.outstanding))
    show Done (advance env ctx _ o).1
    rw [hnext]
    exact ⟨rfl, rfl, hinactive⟩
  | succ n =>
    obtain ⟨hnone, hstate, hcount⟩ := LawfulDownload2.check_more downloadCount o.download .orders
      h.state (by rw [h.outstanding]; omega)
    show Waiting .orders (n + 1) (advance env ctx _ o).1
    rw [advance_stay hnone]
    rw [h.outstanding] at hcount
    exact ⟨h.ready_, h.status, hstate, hcount.trans (by omega)⟩

/-- A report that is dropped, or comes while no orders are downloaded, does nothing. -/
theorem follows_ignored {reply : Reply} (h : Follows o reply) {header : Fix.Header}
    {r : Fix.ExecutionReport} (hordinary : r.massStatusReqType = .undefined)
    (hlive : state o.download = .orders → dropped env r = true)
    (hs : (parseHelper env ctx header o (.executionReport r)).1 = some o') : Follows o' reply := by
  by_cases horders : state o.download = .orders
  · simp only [parseHelper, executionReport, hordinary, hlive horders, if_true] at hs
    obtain rfl := Option.some.inj hs
    exact h
  · rw [executionReport_next horders hs]
    exact h

/-- Live reports and quiet events are no part of the reply. -/
theorem next_live (reply : Reply) (header : Fix.Header) (r : Fix.ExecutionReport)
    (os : List Output) : reply.next (ctx, .live header r) os = reply := by
  cases reply with
  | remaining n => cases n <;> rfl
  | _ => rfl

theorem next_other (reply : Reply) (event : Event) (os : List Output) :
    reply.next (ctx, .other event) os = reply := by
  cases reply with
  | remaining n => cases n <;> rfl
  | _ => rfl

/-- **The step lemma.** -/
theorem follows_step {s s' : OrderEntry D × Reply} {i : Context × Arrival}
    (h : Follows s.1 s.2) (hsends : s.2.Sends i.2) (hcounts : CountsReply env s i)
    (hs : (downloading env s i).1 = some s') : Follows s'.1 s'.2 := by
  obtain ⟨ctx, arrival⟩ := i
  obtain ⟨o, reply⟩ := s
  obtain ⟨o', reply'⟩ := s'
  obtain ⟨hnext, rfl⟩ := keeping_some hs
  -- of the header only the number is noted
  have hchecked : ∀ header, Follows (check header o) reply := by
    intro header
    exact h.undisturbed ⟨rfl, rfl, .inl rfl⟩
  cases arrival with
  | positions header noPositions =>
    obtain rfl := Option.some.inj hnext
    exact follows_positions (hchecked header) header noPositions
  | total header r =>
    obtain ⟨htotal, rfl⟩ := hsends
    exact follows_total (hchecked header) htotal hnext
  | status header r =>
    obtain ⟨hordinary, n, rfl⟩ := hsends
    exact follows_counted (hchecked header) hordinary hcounts hnext
  | live header r =>
    rw [next_live]
    exact follows_ignored (hchecked header) hsends hcounts hnext
  | other event =>
    rw [next_other]
    exact h.undisturbed (step_quiet hsends hnext)

/-- **Every run**: the count follows the reply. -/
theorem follows_run {s s' : OrderEntry D × Reply} {is : List (Context × Arrival)}
    (h : Follows s.1 s.2) (hsends : Guarded (downloading env) (fun s i => s.2.Sends i.2) s is)
    (hcounts : Guarded (downloading env) (CountsReply env) s is)
    (hrun : (run (downloading env) s is).1 = some s') : Follows s'.1 s'.2 :=
  (run_sound (P := fun _ => True)
    (fun _ _ h hg => ⟨fun _ hs => follows_step h hg.1 hg.2 hs, fun _ _ => trivial⟩) h
    (hsends.and hcounts)).1 s' hrun

/-- The stream is ready, by both of its flags, exactly when the whole reply has been handled. -/
def ReadyOnReply (s : OrderEntry D × Reply) : Prop :=
  (s.1.ready_ = true ↔ s.2 = .remaining 0) ∧
  (s.1.connectionStatus = .ready ↔ s.2 = .remaining 0)

omit [LawfulDownload2 D] in
theorem Follows.ready {reply : Reply} (h : Follows o reply) : ReadyOnReply (o, reply) := by
  match reply, h with
  | .unasked, h => exact ⟨by simp [h.ready_], by simp [h.status]⟩
  | .asked, h => exact ⟨by simp [h.ready_], by simp [h.status]⟩
  | .remaining 0, h => exact ⟨by simp [h.ready_], by simp [h.status]⟩
  | .remaining (n + 1), h => exact ⟨by simp [h.ready_], by simp [h.status]⟩

/-- **The download of orders.** -/
theorem orders_are_downloaded (env : Env) (ctx : Context) (before : List (Context × Event))
    (header : Fix.Header) (is : List (Context × Arrival)) {s : OrderEntry D × Reply}
    (hbefore : (run (step env) (initial : OrderEntry D) before).1 = some o)
    (hloggedOn : loggedOn before = false)
    (hstart : (step env o (ctx, .message header .logon)).1 = some o')
    (hsends : Guarded (downloading env) (fun s i => s.2.Sends i.2) (o', .unasked) is)
    (hcounts : Guarded (downloading env) (CountsReply env) (o', .unasked) is)
    (hrun : (run (downloading env) (o', .unasked) is).1 = some s) : ReadyOnReply s := by
  have hoff := loggedOff_of_run hloggedOn hbefore
  have hchecked : LoggedOff (check header o) := ⟨hoff.ready_, hoff.status, hoff.download⟩
  obtain rfl := Option.some.inj hstart
  exact (follows_run (follows_logon hchecked) hsends hcounts hrun).ready

def logOnSent : List (Context × Event) := [(.plain, .connected), (.plain, .timer 2)]

/-- One order is downloaded, and a live report is dropped on the way. -/
def oneOrder : List (Context × Arrival) :=
  [(.plain, .positions ⟨2, 1⟩ []),
    (.plain, .live ⟨3, 1⟩ { plainReport with execType := .canceled, ordStatus := .canceled }),
    (.plain, .total ⟨4, 1⟩ (downloadHeader 1)), (.plain, .status ⟨5, 1⟩ plainReport)]

theorem one_order_is_downloaded : ∃ (o o' : OrderEntry DownloadCounter)
    (s : OrderEntry DownloadCounter × Reply),
    (run (step Env.plain) initial logOnSent).1 = some o ∧
      (step Env.plain o (Context.plain, .message ⟨1, 1⟩ .logon)).1 = some o' ∧
      (run (downloading Env.plain) (o', .unasked) oneOrder).1 = some s ∧ ReadyOnReply s := by
  refine ⟨_, _, _, rfl, rfl, rfl, orders_are_downloaded Env.plain Context.plain logOnSent
    ⟨1, 1⟩ oneOrder rfl rfl rfl ?_ ?_ rfl⟩
  · refine ⟨trivial, fun s hs => ⟨rfl, fun s' hs' =>
      ⟨?_, fun s'' hs'' => ⟨?_, fun _ _ => trivial⟩⟩⟩⟩
    · obtain rfl := Option.some.inj hs
      obtain rfl := Option.some.inj hs'
      exact ⟨rfl, rfl⟩
    · obtain rfl := Option.some.inj hs
      obtain rfl := Option.some.inj hs'
      obtain rfl := Option.some.inj hs''
      exact ⟨rfl, 0, rfl⟩
  · exact ⟨trivial, fun _ _ => ⟨fun _ => rfl, fun _ _ =>
      ⟨trivial, fun _ _ => ⟨rfl, fun _ _ => trivial⟩⟩⟩⟩

/-- A live report that comes before the header is counted, and the stream is ready. -/
theorem live_report_ends_download : ¬∀ (before : List (Context × Event))
    (o o' : OrderEntry DownloadCounter) (header : Fix.Header) (is : List (Context × Arrival))
    (s : OrderEntry DownloadCounter × Reply),
    (run (step Env.plain) initial before).1 = some o → loggedOn before = false →
      (step Env.plain o (Context.plain, .message header .logon)).1 = some o' →
      Guarded (downloading Env.plain) (fun s i => s.2.Sends i.2) (o', .unasked) is →
      (run (downloading Env.plain) (o', .unasked) is).1 = some s → ReadyOnReply s := by
  intro h
  have hready := (h logOnSent _ _ ⟨1, 1⟩
    [(.plain, .positions ⟨2, 1⟩ []), (.plain, .live ⟨3, 1⟩ plainReport)] _ rfl rfl rfl
    ⟨trivial, fun _ _ => ⟨rfl, fun _ _ => trivial⟩⟩ rfl).1.mp rfl
  cases hready

end OrderEntry

end DeribitGateway
