import DeribitGateway.Fix.Fills
import DeribitGateway.Fix.OrderDownload

/-!
# Labels of the download

What an execution report publishes is labelled as downloaded, with a time in force that the
report does not have, or as live. The label is not taken from the report but from the state of
the download. `labels_iff` says when it is right, for runs over any number of connections: as
long as no live report that is published arrives while the orders are downloaded.

The status reports need no condition of their own. While some of them are to come the download
waits for at least as many (`Awaits`).
-/

namespace DeribitGateway

open Transducer Download2

namespace OrderEntry

/-! ## Connections -/

/-- The reply of the connection, if there has been a log-on. -/
def Session.next (session : Option Reply) (i : Context × Arrival) (os : List Output) :
    Option Reply :=
  match i.2 with
  | .other .disconnected => none
  | .other (.message _ .logon) => some (session.getD .unasked)
  | _ => session.map (·.next i os)

/-- The exchange answers one log-on of a connection, and then one request for the orders. -/
def Session.Sends (session : Option Reply) : Arrival → Prop
  | .positions _ _ => True
  | .total _ r => r.massStatusReqType = .orders ∧ session = some .asked
  | .status _ r => r.massStatusReqType = .undefined ∧ ∃ n, session = some (.remaining (n + 1))
  | .live _ r => r.massStatusReqType = .undefined
  | .other (.message _ .logon) => session = none
  | .other (.message _ (.positionReport _)) => False
  | .other (.message _ (.executionReport _)) => False
  | .other _ => True

variable {D : Type} [Download2 D]

/-- The stream next to the replies of its connections. -/
def reporting (env : Env) : Step (OrderEntry D × Option Reply) (Context × Arrival) Output :=
  keeping (fun o i => step env o (i.1, i.2.event)) Session.next

/-! ## Labels -/

/-- What is published of a report is labelled so. -/
def Output.Labelled (updateType : UpdateType) (timeInForce : TimeInForce) : Output → Prop
  | .orderUpdate _ value => value.updateType = updateType ∧ value.timeInForce = timeInForce
  | .tradeUpdate value _ => value.updateType = updateType
  | _ => True

/-- A live report is live, and each of the status reports is downloaded. -/
def Labels (env : Env) (s : OrderEntry D × Option Reply) (i : Context × Arrival) : Prop :=
  match i.2 with
  | .live _ _ => ∀ x ∈ (reporting env s i).2, x.Labelled .incremental .undefined
  | .status _ _ => ∀ x ∈ (reporting env s i).2, x.Labelled .snapshot .gtc
  | _ => True

/-- No live report is published while the orders are downloaded. -/
def LiveOutside (env : Env) (s : OrderEntry D × Option Reply) (i : Context × Arrival) : Prop :=
  match i.2 with
  | .live _ r => state s.1.download = .orders → dropped env r = true
  | _ => True

variable {env : Env} {ctx : Context} {o o' : OrderEntry D}

omit [Download2 D] in
theorem labelled_of_booking {x : Output} (h : x.booking = none) (updateType : UpdateType)
    (timeInForce : TimeInForce) : x.Labelled updateType timeInForce := by
  cases x with
  | orderUpdate response value => cases h
  | tradeUpdate value userId => cases h
  | _ => trivial

/-- All that a report publishes has one label. -/
theorem executionOutputs_labelled (header : Fix.Header) (r : Fix.ExecutionReport) :
    ∀ x ∈ executionOutputs env ctx header r o,
      x.Labelled o.updateType (timeInForce o.updateType) := by
  intro x hx
  unfold executionOutputs at hx
  rcases List.mem_cons.mp hx with rfl | hx
  · exact ⟨rfl, rfl⟩
  · split_ifs at hx
    · cases hx
    · obtain rfl := List.mem_singleton.mp hx
      rfl

/-- The outputs of an ordinary report. -/
theorem parseHelper_report {header : Fix.Header} {r : Fix.ExecutionReport}
    (h : r.massStatusReqType = .undefined) :
    (parseHelper env ctx header o (.executionReport r)).2 =
      if dropped env r then []
      else executionOutputs env ctx header r o ++
        (advance env ctx (checkRelaxed downloadCount o.download .orders) o).2 := by
  simp only [parseHelper, executionReport, h]
  split_ifs <;> rfl

/-- The label is the one of the download, unless nothing is published. -/
theorem report_labelled_iff {header : Fix.Header} {r : Fix.ExecutionReport}
    (h : r.massStatusReqType = .undefined) (updateType : UpdateType) :
    (∀ x ∈ (parseHelper env ctx header o (.executionReport r)).2,
        x.Labelled updateType (timeInForce updateType)) ↔
      (dropped env r = false → o.updateType = updateType) := by
  rw [parseHelper_report h]
  cases hdropped : dropped env r with
  | true => simp
  | false =>
    simp only [Bool.false_eq_true, if_false, forall_const]
    constructor
    · intro hall
      exact (hall _ (List.mem_append_left _ List.mem_cons_self)).1
    · rintro rfl x hx
      rcases List.mem_append.mp hx with hx | hx
      · exact executionOutputs_labelled header r x hx
      · exact labelled_of_booking
          (List.filterMap_eq_nil_iff.mp (advance_books (o := o) _) x hx) _ _

theorem updateType_incremental : o.updateType = .incremental ↔ state o.download ≠ .orders := by
  unfold updateType
  split_ifs with h
  · exact iff_of_true rfl h
  · exact iff_of_false (by decide) (by simpa using h)

theorem updateType_snapshot : o.updateType = .snapshot ↔ state o.download = .orders := by
  unfold updateType
  split_ifs with h
  · exact iff_of_false (by decide) h
  · exact iff_of_true rfl (by simpa using h)

/-- A live report is labelled right exactly when it does not arrive in the download. -/
theorem labels_live_iff {s : OrderEntry D × Option Reply} {header : Fix.Header}
    {r : Fix.ExecutionReport} (h : r.massStatusReqType = .undefined) :
    Labels env s (ctx, .live header r) ↔ LiveOutside env s (ctx, .live header r) := by
  refine (report_labelled_iff h .incremental).trans ?_
  rw [updateType_incremental]
  show (dropped env r = false → state s.1.download ≠ .orders) ↔
    (state s.1.download = .orders → dropped env r = true)
  cases dropped env r <;> simp

/-- A status report is labelled right when it does. -/
theorem labels_status {s : OrderEntry D × Option Reply} {header : Fix.Header}
    {r : Fix.ExecutionReport} (h : r.massStatusReqType = .undefined)
    (hstate : state s.1.download = .orders) : Labels env s (ctx, .status header r) :=
  (report_labelled_iff h .snapshot).mpr fun _ => updateType_snapshot.mpr hstate

/-! ## The invariant -/

variable [LawfulDownload2 D]

/-- **While status reports are to come, the download waits for at least as many.** -/
def Awaits (o : OrderEntry D) : Option Reply → Prop
  | none => Inactive o.download
  | some .unasked => state o.download = .positions ∧ outstanding o.download = 1
  | some .asked => state o.download = .orders
  | some (.remaining 0) => state o.download ≠ .positions
  | some (.remaining (n + 1)) =>
    state o.download = .orders ∧ ((n + 1 : ℕ) : ℤ) ≤ outstanding o.download

omit [LawfulDownload2 D] in
/-- Only the download matters. -/
theorem Awaits.congr {session : Option Reply} (h : Awaits o session)
    (hd : o'.download = o.download) : Awaits o' session := by
  cases session with
  | none => exact (congrArg Inactive hd).mpr h
  | some reply =>
    match reply, h with
    | .unasked, h => exact ⟨by rw [hd]; exact h.1, by rw [hd]; exact h.2⟩
    | .asked, h => exact (congrArg state hd).trans h
    | .remaining 0, h => exact fun hs => h ((congrArg state hd).symm.trans hs)
    | .remaining (n + 1), h => exact ⟨by rw [hd]; exact h.1, by rw [hd]; exact h.2⟩

omit [LawfulDownload2 D] in
theorem Awaits.remaining {n : ℕ} (h : state o.download = .orders)
    (hn : (n : ℤ) ≤ outstanding o.download) : Awaits o (some (.remaining n)) := by
  cases n with
  | zero => show state o.download ≠ .positions; rw [h]; decide
  | succ n => exact ⟨h, hn⟩

omit [LawfulDownload2 D] in
/-- Position reports count before the orders have been asked for. -/
theorem Awaits.not_positions {session : Option Reply} (h : Awaits o session)
    (hs : session ≠ some .unasked) : state o.download ≠ .positions := by
  cases session with
  | none => exact h.1
  | some reply =>
    match reply, h with
    | .unasked, _ => exact absurd rfl hs
    | .asked, h => rw [show state o.download = .orders from h]; decide
    | .remaining 0, h => exact h
    | .remaining (n + 1), h => rw [h.1]; decide

theorem awaits_logon (h : Inactive o.download) : Awaits (logon env ctx o).1 (some .unasked) := by
  obtain ⟨hnext, hstate, hcount⟩ := advance_positions env ctx
    { o with lastLogonOrHeartbeat := 0 }
    (LawfulDownload2.begin_enters downloadCount o.download h)
  rw [logon, hnext]
  exact ⟨hstate, hcount⟩

theorem awaits_positions {session : Option Reply} (h : Awaits o session) (header : Fix.Header)
    (noPositions : List Fix.PositionQty) :
    Awaits (positionReport env ctx noPositions o).1
      (session.map (·.next (ctx, .positions header noPositions)
        (positionReport env ctx noPositions o).2)) := by
  by_cases hs : session = some .unasked
  -- the first positions of a session are what the download waits for
  · subst hs
    obtain ⟨hnext, hasks, hstate, -⟩ := advance_orders env ctx o
      (LawfulDownload2.positions_done downloadCount o.download h.1 h.2)
    have hasked : (positionReport env ctx noPositions o).2.any Output.asksOrders = true := by
      simp [positionReport, hasks]
    rw [Option.map_some, Reply.next, if_pos hasked]
    show state (advance env ctx _ o).1.download = .orders
    rw [hnext]
    exact hstate
  · have hstay : session.map (·.next (ctx, .positions header noPositions)
        (positionReport env ctx noPositions o).2) = session := by
      cases session with
      | none => rfl
      | some reply =>
        cases reply with
        | unasked => exact absurd rfl hs
        | asked => rfl
        | remaining n => cases n <;> rfl
    rw [hstay, positionReport_other (h.not_positions hs)]
    exact h

/-- The header says how many reports are to come. -/
theorem awaits_total (h : state o.download = .orders) {header : Fix.Header}
    {r : Fix.ExecutionReport} (htotal : r.massStatusReqType = .orders)
    (hs : (parseHelper env ctx header o (.executionReport r)).1 = some o') :
    Awaits o' (some (.remaining r.totNumReports)) := by
  simp only [parseHelper, executionReport, htotal] at hs
  obtain rfl := Option.some.inj hs
  cases hn : r.totNumReports with
  | zero =>
    obtain ⟨hnext, hinactive⟩ := advance_done env ctx o
      (LawfulDownload2.orders_none downloadCount o.download h)
    show state (advance env ctx (update downloadCount o.download .orders 0) o).1.download ≠ _
    rw [hnext]
    exact hinactive.1
  | succ n =>
    obtain ⟨hnone, hstate, hcount⟩ := LawfulDownload2.update_more downloadCount o.download .orders
      ((n + 1 : ℕ) : ℤ) h (by omega)
    show Awaits (advance env ctx _ o).1 _
    rw [advance_stay hnone]
    exact ⟨hstate, hcount.ge⟩

/-- A status report takes one off the count at most. -/
theorem awaits_status {n : ℕ} (h : Awaits o (some (.remaining (n + 1)))) {header : Fix.Header}
    {r : Fix.ExecutionReport} (hordinary : r.massStatusReqType = .undefined)
    (hs : (parseHelper env ctx header o (.executionReport r)).1 = some o') :
    Awaits o' (some (.remaining n)) := by
  obtain ⟨horders, hcount⟩ := h
  simp only [parseHelper, executionReport, hordinary] at hs
  split_ifs at hs with hdropped
  · obtain rfl := Option.some.inj hs
    exact Awaits.remaining (o := o) horders (by omega)
  · obtain rfl := Option.some.inj hs
    show Awaits (advance env ctx (checkRelaxed downloadCount o.download .orders) o).1 _
    by_cases hone : outstanding o.download = 1
    · obtain rfl : n = 0 := by omega
      obtain ⟨hnext, hinactive⟩ := advance_done env ctx o
        (LawfulDownload2.orders_done downloadCount o.download horders hone)
      show state (advance env ctx _ o).1.download ≠ _
      rw [hnext]
      exact hinactive.1
    · obtain ⟨hnone, hstate, hless⟩ := LawfulDownload2.check_more downloadCount o.download .orders
        horders hone
      rw [advance_stay hnone]
      exact .remaining hstate (by rw [hless]; omega)

/-- A live report outside of the download leaves it alone. -/
theorem awaits_live {session : Option Reply} (h : Awaits o session) {header : Fix.Header}
    {r : Fix.ExecutionReport} (hordinary : r.massStatusReqType = .undefined)
    (hlive : state o.download = .orders → dropped env r = true)
    (hs : (parseHelper env ctx header o (.executionReport r)).1 = some o') :
    Awaits o' session := by
  by_cases horders : state o.download = .orders
  · simp only [parseHelper, executionReport, hordinary, hlive horders, if_true] at hs
    obtain rfl := Option.some.inj hs
    exact h
  · rw [executionReport_next horders hs]
    exact h

omit [LawfulDownload2 D] in
theorem session_next_live (session : Option Reply) (header : Fix.Header)
    (r : Fix.ExecutionReport) (os : List Output) :
    Session.next session (ctx, .live header r) os = session := by
  cases session with
  | none => rfl
  | some reply => exact congrArg some (next_live reply header r os)

omit [LawfulDownload2 D] in
/-- What is neither a report, nor a log-on, nor the end of a connection. -/
theorem step_download {session : Option Reply} {event : Event}
    (hsends : Session.Sends session (.other event))
    (hlogon : ∀ header, event ≠ .message header .logon)
    (hdisconnected : event ≠ .disconnected) (hs : (step env o (ctx, event)).1 = some o') :
    o'.download = o.download := by
  cases event with
  | connected =>
    obtain rfl := Option.some.inj hs
    rfl
  | disconnected => exact absurd rfl hdisconnected
  | message header value =>
    cases value with
    | logon => exact absurd rfl (hlogon header)
    | logout =>
      obtain rfl := Option.some.inj hs
      rfl
    | positionReport noPositions => exact absurd hsends id
    | executionReport r => exact absurd hsends id
    | _ => exact (step_quiet (by trivial) hs).download
  | _ => exact (step_quiet (by trivial) hs).download

theorem awaits_other {session : Option Reply} (h : Awaits o session) {event : Event}
    (hsends : Session.Sends session (.other event))
    (hs : (step env o (ctx, event)).1 = some o') (os : List Output) :
    Awaits o' (Session.next session (ctx, .other event) os) := by
  by_cases hdisconnected : event = .disconnected
  · subst hdisconnected
    obtain rfl := Option.some.inj hs
    exact LawfulDownload2.reset_inactive _
  · by_cases hlogon : ∃ header, event = .message header .logon
    · obtain ⟨header, rfl⟩ := hlogon
      obtain rfl : session = none := hsends
      obtain rfl := Option.some.inj hs
      exact awaits_logon h
    · have hstay : Session.next session (ctx, .other event) os = session := by
        cases event with
        | disconnected => exact absurd rfl hdisconnected
        | message header value =>
          cases value with
          | logon => exact absurd ⟨header, rfl⟩ hlogon
          | _ => cases session <;> simp [Session.next, next_other]
        | _ => cases session <;> simp [Session.next, next_other]
      rw [hstay]
      exact h.congr (step_download hsends (fun header heq => hlogon ⟨header, heq⟩)
        hdisconnected hs)

/-- **The step lemma.** -/
theorem awaits_step {s s' : OrderEntry D × Option Reply} {i : Context × Arrival}
    (h : Awaits s.1 s.2) (hsends : Session.Sends s.2 i.2) (hlive : LiveOutside env s i)
    (hs : (reporting env s i).1 = some s') : Awaits s'.1 s'.2 := by
  obtain ⟨ctx, arrival⟩ := i
  obtain ⟨o, session⟩ := s
  obtain ⟨o', session'⟩ := s'
  obtain ⟨hnext, rfl⟩ := keeping_some hs
  -- of the header only the number is noted
  have hchecked : ∀ header, Awaits (check header o) session := by
    intro header
    exact h.congr rfl
  cases arrival with
  | positions header noPositions =>
    obtain rfl := Option.some.inj hnext
    exact awaits_positions (hchecked header) header noPositions
  | total header r =>
    obtain ⟨htotal, rfl⟩ := hsends
    exact awaits_total (hchecked header) htotal hnext
  | status header r =>
    obtain ⟨hordinary, n, rfl⟩ := hsends
    exact awaits_status (hchecked header) hordinary hnext
  | live header r =>
    show Awaits o' (Session.next session (ctx, .live header r) _)
    rw [session_next_live]
    exact awaits_live (hchecked header) hsends hlive hnext
  | other event => exact awaits_other h hsends hnext _

/-! ## Runs -/

/-- **Labels.** In a run they are right exactly when no live report that is published arrives
    while the orders are downloaded. -/
theorem labels_iff (env : Env) (is : List (Context × Arrival))
    (hsends : Guarded (reporting (D := D) env) (fun s i => Session.Sends s.2 i.2)
      (initial, none) is) :
    Guarded (reporting (D := D) env) (Labels env) (initial, none) is ↔
      Guarded (reporting (D := D) env) (LiveOutside env) (initial, none) is := by
  constructor
  · intro h
    -- no invariant is needed: a live report is labelled by the state it finds
    refine (h.and hsends).mono ?_
    rintro s ⟨ctx, arrival⟩ ⟨hlabels, hi⟩
    cases arrival with
    | live header r => exact (labels_live_iff hi).mp hlabels
    | _ => trivial
  · intro h
    refine Guarded.weaken (I := fun s : OrderEntry D × Option Reply => Awaits s.1 s.2) ?_ ?_
      LawfulDownload2.fresh_inactive (hsends.and h)
    · intro s i s' hagrees hi hs
      exact awaits_step hagrees hi.1 hi.2 hs
    · rintro s ⟨ctx, arrival⟩ hagrees ⟨hi, hlive⟩
      cases arrival with
      | live header r => exact (labels_live_iff hi).mpr hlive
      | status header r =>
        obtain ⟨hordinary, n, hn⟩ := hi
        rw [hn] at hagrees
        exact labels_status hordinary hagrees.1
      | _ => trivial

/-- Log on, and ask for the orders. -/
def askOrders : List (Context × Arrival) :=
  [(.plain, .other .connected), (.plain, .other (.timer 2)),
    (.plain, .other (.message ⟨1, 1⟩ .logon)), (.plain, .positions ⟨2, 1⟩ [])]

/-- One order is downloaded, and a live report comes behind it. -/
def downloadThenLive : List (Context × Arrival) :=
  askOrders ++ [(.plain, .total ⟨3, 1⟩ (downloadHeader 1)), (.plain, .status ⟨4, 1⟩ plainReport),
    (.plain, .live ⟨5, 1⟩ plainReport)]

theorem downloadThenLive_labels :
    Guarded (reporting (D := DownloadCounter) Env.plain) (Labels Env.plain) (initial, none)
      downloadThenLive := by
  refine (labels_iff Env.plain downloadThenLive ?_).mpr ?_
  · refine ⟨trivial, fun s h => ⟨trivial, fun s' h' => ⟨?_, fun s h'' => ⟨trivial, fun s h₃ =>
      ⟨?_, fun s h₄ => ⟨?_, fun s h₅ => ⟨rfl, fun _ _ => trivial⟩⟩⟩⟩⟩⟩⟩
    · obtain rfl := Option.some.inj h
      obtain rfl := Option.some.inj h'
      rfl
    · obtain rfl := Option.some.inj h
      obtain rfl := Option.some.inj h'
      obtain rfl := Option.some.inj h''
      obtain rfl := Option.some.inj h₃
      exact ⟨rfl, rfl⟩
    · obtain rfl := Option.some.inj h
      obtain rfl := Option.some.inj h'
      obtain rfl := Option.some.inj h''
      obtain rfl := Option.some.inj h₃
      obtain rfl := Option.some.inj h₄
      exact ⟨rfl, 0, rfl⟩
  · refine ⟨trivial, fun s h => ⟨trivial, fun s' h' => ⟨trivial, fun s h'' => ⟨trivial, fun s h₃ =>
      ⟨trivial, fun s h₄ => ⟨trivial, fun s h₅ => ⟨?_, fun _ _ => trivial⟩⟩⟩⟩⟩⟩⟩
    obtain rfl := Option.some.inj h
    obtain rfl := Option.some.inj h'
    obtain rfl := Option.some.inj h''
    obtain rfl := Option.some.inj h₃
    obtain rfl := Option.some.inj h₄
    obtain rfl := Option.some.inj h₅
    intro horders
    exact absurd horders (by decide +kernel)

/-- A live report comes behind the request and before the header. -/
def liveEarly : List (Context × Arrival) := askOrders ++ [(.plain, .live ⟨3, 1⟩ plainReport)]

/-- It is labelled as downloaded. -/
theorem live_report_labelled_downloaded : ¬∀ is : List (Context × Arrival),
    Guarded (reporting (D := DownloadCounter) Env.plain) (fun s i => Session.Sends s.2 i.2)
      (initial, none) is →
    Guarded (reporting (D := DownloadCounter) Env.plain) (Labels Env.plain) (initial, none) is := by
  intro h
  have hlabels := h liveEarly (by
    refine ⟨trivial, fun s hs => ⟨trivial, fun s' hs' => ⟨?_, fun _ _ => ⟨trivial, fun _ _ =>
      ⟨rfl, fun _ _ => trivial⟩⟩⟩⟩⟩
    obtain rfl := Option.some.inj hs
    obtain rfl := Option.some.inj hs'
    rfl)
  have hlast := ((((hlabels.2 _ rfl).2 _ rfl).2 _ rfl).2 _ rfl).1
  exact absurd (hlast _ List.mem_cons_self).1 (by decide +kernel)

end OrderEntry

end DeribitGateway
