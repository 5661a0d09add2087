import DeribitGateway.Fix.Handlers

/-!
# Rejects and the requests they are for

The stream remembers under which sequence number it sent each request, and answers a reject of
that number with the request. Sequence numbers start again with each session, the requests are
not forgotten, and a number that is there is not overwritten: a reject is answered with the
first request that *any* session sent under its number.

The history of a run holds what was sent, in this session and before.
`requests_are_first_sent` is the invariant, and `rejects_are_correlated_iff` says when the
answer is right.
-/

namespace DeribitGateway

open Transducer

namespace OrderEntry

/-- A request, the number it was sent under, and whether the connection took it. -/
structure Sent where
  msgSeqNum : ℕ
  requestId : String
  queued : Bool
  deriving DecidableEq

structure History where
  earlier : List Sent
  current : List Sent

def Output.asSent (requestId : String) : Output → Option Sent
  | .sent n _ queued => some ⟨n, requestId, queued⟩
  | _ => none

def History.next (h : History) : Context × Event → List Output → History
  | (_, .disconnected), _ => { earlier := h.earlier ++ h.current, current := [] }
  | (_, event), os =>
    match event.orderRequest with
    | some requestId => { h with current := h.current ++ os.filterMap (Output.asSent requestId) }
    | none => h

def History.start : History := ⟨[], []⟩

variable {D : Type} [Download2 D]

/-- The stream, next to the history of its run. -/
def recorded (env : Env) : Step (OrderEntry D × History) (Context × Event) Output :=
  keeping (step env) History.next

/-- Without the history this is the stream's own run. -/
theorem run_recorded (env : Env) (o : OrderEntry D) (is : List (Context × Event)) :
    ((run (recorded env) (o, .start) is).1.map Prod.fst,
      (run (recorded env) (o, .start) is).2) = run (step env) o is :=
  run_keeping (step env) History.next o .start is

/-- A reject of number `n` is answered with the request sent under it in this session, and
    not at all if there is none. -/
def Correlated (h : History) (n : ℕ) (os : List Output) : Prop :=
  (∀ a ∈ h.current, a.msgSeqNum = n → a.queued = true →
    ∃ response, os = [.response response] ∧ response.requestId = a.requestId) ∧
  ((∀ a ∈ h.current, a.msgSeqNum = n → a.queued = false) → ∀ response, .response response ∉ os)

/-- The connection took what was sent under number `n`, and the first request an earlier
    session sent under it, if any, was this session's as well. -/
def Unambiguous (h : History) (n : ℕ) : Prop :=
  (∀ a ∈ h.current, a.msgSeqNum = n → a.queued = true) ∧
  ∀ a, h.earlier.find? (·.msgSeqNum = n) = some a →
    ∃ b ∈ h.current, b.msgSeqNum = n ∧ b.requestId = a.requestId

/-! ## The invariant -/

/-- The first request sent under a number. -/
def firstSent (sent : List Sent) (n : ℕ) : Option String :=
  (sent.find? (·.msgSeqNum = n)).map (·.requestId)

theorem firstSent_append_single (sent : List Sent) (a : Sent) :
    firstSent (sent ++ [a]) = emplace (firstSent sent) a.msgSeqNum a.requestId := by
  funext n
  unfold firstSent emplace
  rw [List.find?_append]
  by_cases hn : n = a.msgSeqNum
  · subst hn
    rw [Function.update_self]
    simp [Option.getD_map]
  · rw [Function.update_of_ne hn]
    simp [Ne.symm hn]

structure Recorded (o : OrderEntry D) (h : History) : Prop where
  first : o.msgSeqNumToRequestId = firstSent (h.earlier ++ h.current)
  current_le : ∀ a ∈ h.current, a.msgSeqNum ≤ o.outbound
  unique : ∀ a ∈ h.current, ∀ b ∈ h.current, a.msgSeqNum = b.msgSeqNum → a = b

variable {env : Env} {ctx : Context} {o o' : OrderEntry D} {h : History}

omit [Download2 D] in
theorem Recorded.keeps (hr : Recorded o h) (hk : Keeps o o') : Recorded o' h where
  first := hk.requests.trans hr.first
  current_le a ha := (hr.current_le a ha).trans hk.outbound
  unique := hr.unique

omit [Download2 D] in
/-- A request takes a number that this session has not used. -/
theorem Recorded.request (hr : Recorded o h) {action : Event} {requestId : String}
    (hrequest : action.orderRequest = some requestId) (queued : Bool) :
    Recorded (acted action o)
      { h with current := h.current ++ [⟨o.outbound + 1, requestId, queued⟩] } where
  first := by
    rw [← List.append_assoc, firstSent_append_single, ← hr.first]
    simp [acted, hrequest]
  current_le a ha := by
    rcases List.mem_append.mp ha with ha | ha
    · exact (hr.current_le a ha).trans (Nat.le_succ _)
    · rw [List.mem_singleton.mp ha]
      exact le_rfl
  unique a ha b hb hab := by
    have hnew : ∀ c ∈ h.current, c.msgSeqNum ≠ o.outbound + 1 := by
      intro c hc
      exact Nat.ne_of_lt (Nat.lt_succ_of_le (hr.current_le c hc))
    rcases List.mem_append.mp ha with ha | ha <;> rcases List.mem_append.mp hb with hb | hb
    · exact hr.unique a ha b hb hab
    · obtain rfl := List.mem_singleton.mp hb
      exact absurd hab (hnew a ha)
    · obtain rfl := List.mem_singleton.mp ha
      exact absurd hab.symm (hnew b hb)
    · rw [List.mem_singleton.mp ha, List.mem_singleton.mp hb]

/-- What an action leaves in the history. -/
theorem next_action {action : Event} (haction : action.IsAction) (os : List Output) :
    h.next (ctx, action) os =
      { h with current := h.current ++ match action.orderRequest with
          | some requestId => os.filterMap (Output.asSent requestId)
          | none => [] } := by
  cases action <;> simp_all [History.next, Event.orderRequest, Event.IsAction]

theorem Recorded.action (hr : Recorded o h) {action : Event} (haction : action.IsAction)
    (hs : (step env o (ctx, action)).1 = some o') :
    Recorded o' (h.next (ctx, action) (step env o (ctx, action)).2) := by
  obtain ⟨_, e, hstep⟩ | ⟨_, _, os, hstep, message, acks, rfl, hacks⟩ :=
    step_action env ctx o haction
  · -- it throws, and nothing is sent
    rw [hstep] at hs
    obtain rfl := Option.some.inj hs
    rw [hstep, next_action haction]
    cases action.orderRequest with
    | none => simpa using hr
    | some requestId =>
      have hnone : [Output.threw e].filterMap (Output.asSent requestId) = [] := rfl
      simpa [hnone] using hr
  · rw [hstep] at hs
    obtain rfl := Option.some.inj hs
    rw [hstep, next_action haction]
    cases hrequest : action.orderRequest with
    | none =>
      -- a mass cancel is not remembered
      have hk : Keeps o (acted action o) := ⟨by simp [acted, hrequest], Nat.le_succ _⟩
      simpa using hr.keeps hk
    | some requestId =>
      -- only a mass cancel is acknowledged
      have hnil : acks = [] := by
        rw [List.eq_nil_iff_forall_not_mem]
        intro a ha
        simpa [hrequest] using (hacks a ha).1
      subst hnil
      exact hr.request hrequest _

/-- **The step lemma.** -/
theorem Recorded.step (hr : Recorded o h) {event : Event}
    (hs : (step env o (ctx, event)).1 = some o') :
    Recorded o' (h.next (ctx, event) (step env o (ctx, event)).2) := by
  by_cases hdisconnected : event = .disconnected
  · -- the session ends and its numbers are free again; the requests stay
    subst hdisconnected
    obtain rfl := Option.some.inj hs
    constructor
    · show o.msgSeqNumToRequestId = _
      simpa [History.next] using hr.first
    · simp [History.next]
    · simp [History.next]
  by_cases haction : event.IsAction
  · exact hr.action haction hs
  · -- no request is made
    have hnone : h.next (ctx, event) (OrderEntry.step env o (ctx, event)).2 = h := by
      cases event <;> first | rfl | exact absurd trivial haction | exact absurd rfl hdisconnected
    rw [hnone]
    exact hr.keeps (step_keeps haction hdisconnected hs)

/-- **The invariant of every run.** -/
theorem requests_are_first_sent {is : List (Context × Event)}
    (hrun : (run (recorded env) (initial, .start) is).1 = some (o, h)) : Recorded o h := by
  refine run_invariant (I := fun s => Recorded s.1 s.2) ?_ ?_ hrun
  · intro s i s' hr hs
    obtain ⟨hnext, hhistory⟩ := keeping_some hs
    rw [hhistory]
    exact hr.step hnext
  · exact ⟨rfl, by simp [History.start], by simp [History.start]⟩

/-! ## The answer -/

/-- What a reject of an order action puts out. -/
theorem step_reject (env : Env) (ctx : Context) (o : OrderEntry D) (header : Fix.Header)
    {r : Fix.Reject}
    (htype : messageTypeToRequestType r.refMsgType ≠ .undefined) :
    (o.msgSeqNumToRequestId r.refSeqNum = none ∧
      (step env o (ctx, .message header (.reject r))).2 = []) ∨
    ∃ response : Response, o.msgSeqNumToRequestId r.refSeqNum = some response.requestId ∧
      (step env o (ctx, .message header (.reject r))).2 = [.response response] := by
  simp only [step, parseHelper, reject, if_pos htype]
  cases hrequest : (check header o).msgSeqNumToRequestId r.refSeqNum with
  | none => exact .inl ⟨hrequest, rfl⟩
  | some requestId =>
    refine .inr ⟨_, ?_, rfl⟩
    exact hrequest

/-- The request of this session that a reject of number `n` has to be answered with. -/
def RightAnswer (h : History) (n : ℕ) (answer : Option String) : Prop :=
  (∀ a ∈ h.current, a.msgSeqNum = n → a.queued = true → answer = some a.requestId) ∧
  ((∀ a ∈ h.current, a.msgSeqNum = n → a.queued = false) → answer = none)

theorem correlated_iff_answer (header : Fix.Header) {r : Fix.Reject}
    (htype : messageTypeToRequestType r.refMsgType ≠ .undefined) :
    Correlated h r.refSeqNum (step env o (ctx, .message header (.reject r))).2 ↔
      RightAnswer h r.refSeqNum (o.msgSeqNumToRequestId r.refSeqNum) := by
  obtain ⟨hanswer, hos⟩ | ⟨response, hanswer, hos⟩ :=
    step_reject env ctx o header htype
  · rw [hanswer, hos]
    simp [Correlated, RightAnswer]
  · rw [hanswer, hos]
    constructor
    · rintro ⟨hright, hnone⟩
      constructor
      · intro a ha hn hqueued
        obtain ⟨response', heq, hid⟩ := hright a ha hn hqueued
        obtain rfl : response = response' := by simpa using heq
        rw [hid]
      · intro hall
        exact absurd (List.mem_singleton_self _) (hnone hall response)
    · rintro ⟨hright, hnone⟩
      constructor
      · intro a ha hn hqueued
        exact ⟨response, rfl, Option.some.inj (hright a ha hn hqueued)⟩
      · intro hall
        cases hnone hall

/-- A request of this session has to be the first one under its number, and taken. -/
theorem rightAnswer_used_iff {a : Sent} (ha : a ∈ h.current)
    (hunique : ∀ b ∈ h.current, b.msgSeqNum = a.msgSeqNum → b = a) :
    RightAnswer h a.msgSeqNum (firstSent (h.earlier ++ h.current) a.msgSeqNum) ↔
      Unambiguous h a.msgSeqNum := by
  have hcurrent : h.current.find? (·.msgSeqNum = a.msgSeqNum) = some a := by
    cases hfind : h.current.find? (·.msgSeqNum = a.msgSeqNum) with
    | none => exact absurd (decide_eq_true rfl) (List.find?_eq_none.mp hfind a ha)
    | some b =>
      have hb : b.msgSeqNum = a.msgSeqNum := by simpa using List.find?_some hfind
      rw [hunique b (List.mem_of_find?_eq_some hfind) hb]
  unfold RightAnswer Unambiguous firstSent
  rw [List.find?_append, hcurrent, Option.or_some, Option.map_some]
  constructor
  · rintro ⟨hright, hnone⟩
    -- something is found, so the connection must have taken it
    have hqueued : a.queued = true := by
      by_contra hrefused
      have hfound := hnone fun b hb hn => by
        rw [hunique b hb hn]
        exact Bool.eq_false_iff.mpr hrefused
      cases hfound
    constructor
    · intro b hb hn
      rw [hunique b hb hn]
      exact hqueued
    · intro b hfind
      refine ⟨a, ha, rfl, ?_⟩
      simpa [hfind] using (hright a ha rfl hqueued).symm
  · rintro ⟨hqueued, hearlier⟩
    constructor
    · intro b hb hn _
      rw [hunique b hb hn]
      cases hfind : h.earlier.find? (·.msgSeqNum = a.msgSeqNum) with
      | none => rfl
      | some c =>
        obtain ⟨d, hd, hdn, hid⟩ := hearlier c hfind
        rw [hunique d hd hdn] at hid
        simp [hid]
    · intro hrefused
      exact absurd (hqueued a ha rfl) (by simp [hrefused a ha rfl])

/-- Without a request of this session under the number none may be found. -/
theorem rightAnswer_unused_iff {n : ℕ} (hunused : ∀ a ∈ h.current, a.msgSeqNum ≠ n) :
    RightAnswer h n (firstSent (h.earlier ++ h.current) n) ↔ Unambiguous h n := by
  have hcurrent : h.current.find? (·.msgSeqNum = n) = none := by simpa using hunused
  unfold RightAnswer Unambiguous firstSent
  rw [List.find?_append, hcurrent, Option.or_none]
  constructor
  · rintro ⟨-, hnone⟩
    have hearlier := hnone fun a ha hn => absurd hn (hunused a ha)
    constructor
    · intro a ha hn
      exact absurd hn (hunused a ha)
    · intro a hfind
      simp [hfind] at hearlier
  · rintro ⟨-, hearlier⟩
    constructor
    · intro a ha hn
      exact absurd hn (hunused a ha)
    · intro _
      cases hfind : h.earlier.find? (·.msgSeqNum = n) with
      | none => rfl
      | some a =>
        obtain ⟨b, hb, hbn, -⟩ := hearlier a hfind
        exact absurd hbn (hunused b hb)

/-- **Rejects find their request** exactly where no earlier session has used the number for
    another one, whatever the run. -/
theorem rejects_are_correlated_iff {is : List (Context × Event)}
    (hrun : (run (recorded env) (initial, .start) is).1 = some (o, h)) {r : Fix.Reject}
    (htype : messageTypeToRequestType r.refMsgType ≠ .undefined) (ctx : Context)
    (header : Fix.Header) :
    Correlated h r.refSeqNum (step env o (ctx, .message header (.reject r))).2 ↔
      Unambiguous h r.refSeqNum := by
  have hr := requests_are_first_sent hrun
  rw [correlated_iff_answer header htype, hr.first]
  by_cases hused : ∃ a ∈ h.current, a.msgSeqNum = r.refSeqNum
  · obtain ⟨a, ha, hn⟩ := hused
    rw [← hn]
    exact rightAnswer_used_iff ha fun b hb hbn => hr.unique b hb a ha hbn
  · apply rightAnswer_unused_iff
    intro a ha hn
    exact hused ⟨a, ha, hn⟩

/-- The first cancel request of a session has number 4. -/
def rejectedCancel : Fix.Reject :=
  { refSeqNum := 4, refMsgType := .orderCancelRequest, sessionRejectReason := "", text := "" }

def oneSession : List Event := openSession ++ [.cancelOrder plainOrder "b"]

theorem rejected_cancel_is_correlated_iff :
    ∃ (o : OrderEntry DownloadCounter) (h : History),
      (run (recorded Env.plain) (initial, .start) (oneSession.map (Context.plain, ·))).1 =
        some (o, h) ∧
      (Correlated h 4
          (step Env.plain o (Context.plain, .message ⟨4, 1⟩ (.reject rejectedCancel))).2 ↔
        Unambiguous h 4) := by
  refine ⟨_, _, rfl, ?_⟩
  exact @rejects_are_correlated_iff DownloadCounter _ Env.plain _ _
    (oneSession.map (Context.plain, ·)) rfl rejectedCancel (by decide) Context.plain ⟨4, 1⟩

/-- Two sessions with one request each, under the same number. -/
def twoSessions : List Event :=
  openSession ++ [.cancelOrder plainOrder "a", .disconnected] ++ oneSession

/-- The reject of the second session's request is answered with the first session's. -/
theorem reject_answers_earlier_session : ¬∀ (is : List (Context × Event))
    (o : OrderEntry DownloadCounter) (h : History),
    (run (recorded Env.plain) (initial, .start) is).1 = some (o, h) →
      ∀ header r, messageTypeToRequestType r.refMsgType ≠ .undefined →
        Correlated h r.refSeqNum
          (step Env.plain o (Context.plain, .message header (.reject r))).2 := by
  intro hall
  have hcorrelated := hall (twoSessions.map (Context.plain, ·)) _ _ rfl ⟨4, 1⟩ rejectedCancel
    (by decide)
  obtain ⟨response, hos, hid⟩ := hcorrelated.1 ⟨4, "b", true⟩ (by decide +kernel) rfl rfl
  have hfirst := hos.symm.trans (show _ = [Output.response
    { requestType := .cancelOrder, origin := .exchange, requestStatus := .rejected,
      error := .undefined, text := "", requestId := "a", externalOrderId := "",
      clientOrderId := "", quantity := none, price := none }] by decide +kernel)
  obtain ⟨rfl⟩ := Output.response.inj (List.singleton_inj.mp hfirst)
  exact absurd hid (by decide)

end OrderEntry

end DeribitGateway
