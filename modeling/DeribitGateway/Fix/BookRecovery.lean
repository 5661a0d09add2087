import DeribitGateway.Fix.Relations

/-!
# Recovery of a bad book

A dispatched book can turn out to be in a bad state. The market data stream then latches the
symbol and subscribes to it again; incremental refreshes of a latched symbol are dropped, and
the next full refresh unlatches it. `Recovery` is a history that runs next to the stream: the
symbols that await a snapshot, and those of them for which a full refresh has come without an
entry of the book, so that nothing could be dispatched for it.

`bad_books_recover` is about the runs where no incremental refresh comes for such a symbol.
`empty_refresh_unlatches` is a run where one does.
-/

namespace DeribitGateway

open Transducer Emission StagedDownload

namespace MarketData

variable {D Y : Type} {env : Env} {ctx : Context Y}

/-! ## Entries of the book -/

theorem hasBook_add (e : Entries) (item : Fix.MDEntry) :
    (e.add env item).hasBook = (e.hasBook || isBook item) := by
  unfold Entries.add Entries.hasBook isBook
  cases item.mdEntryType <;> simp

theorem hasBook_collect (e : Entries) (noMdEntries : List Fix.MDEntry) :
    (e.collect env noMdEntries).hasBook = (e.hasBook || noMdEntries.any isBook) := by
  unfold Entries.collect
  induction noMdEntries generalizing e with
  | nil => simp
  | cons item items ih => rw [List.foldl_cons, ih, hasBook_add, List.any_cons, Bool.or_assoc]

theorem incrementalEntries_hasBook (env : Env) (value : Fix.MarketDataIncrementalRefresh) :
    (incrementalEntries env value).hasBook = value.noMdEntries.any isBook :=
  (hasBook_collect _ _).trans (Bool.false_or _)

theorem snapshotEntries_hasBook (env : Env) (value : Fix.MarketDataSnapshotFullRefresh) :
    (snapshotEntries env value).hasBook = value.noMdEntries.any isBook :=
  (hasBook_collect _ _).trans (Bool.false_or _)

/-! ## What a call does with books -/

/-- A dispatched book. -/
def Output.isBook : Output → Prop
  | .marketByPriceUpdate .. => True
  | _ => False

def Output.isUnsubscribe : Output → Prop
  | .sent _ (.marketDataRequest value) _ => value.subscriptionRequestType = .unsubscribe
  | _ => False

/-- Outputs without books, and without messages that unsubscribe. -/
def Silent (os : List Output) : Prop := ∀ x ∈ os, ¬x.isBook ∧ ¬x.isUnsubscribe

theorem silent_nil : Silent [] := fun _ hx => absurd hx List.not_mem_nil

theorem Silent.append {os os' : List Output} (h : Silent os) (h' : Silent os') :
    Silent (os ++ os') := by
  intro x hx
  obtain hmem | hmem := List.mem_append.mp hx
  · exact h x hmem
  · exact h' x hmem

/-- Nothing is latched or unlatched, and no book is dispatched. -/
def LatchStays (s : MarketData D × SharedState Y) (os : List Output)
    (t : MarketData D × SharedState Y) : Prop :=
  t.1.latch = s.1.latch ∧ Silent os

theorem silent_sent {message : Fix.MDOutbound} (n : ℕ) (queued : Bool)
    (h : ∀ value, message = .marketDataRequest value →
      value.subscriptionRequestType ≠ .unsubscribe) : Silent [.sent n message queued] := by
  intro x hx
  obtain rfl := List.mem_singleton.mp hx
  refine ⟨id, ?_⟩
  cases message with
  | marketDataRequest value => exact h value rfl
  | _ => exact id

theorem latchStays_tolerates (ctx : Context Y) :
    Tolerates ctx (LatchStays : MarketData D × SharedState Y → List Output → _ → Prop) where
  composes := by
    constructor
    · intro s
      exact ⟨rfl, silent_nil⟩
    · intro s t u os os' h h'
      exact ⟨h'.1.trans h.1, h.2.append h'.2⟩
  frame _ _ _ _ hlatch := ⟨hlatch, silent_nil⟩
  report s x hsent hbook := by
    refine ⟨rfl, ?_⟩
    intro y hy
    obtain rfl := List.mem_singleton.mp hy
    cases y with
    | sent msgSeqNum message queued => exact absurd trivial hsent
    | marketByPriceUpdate value isLast dispatched => exact absurd rfl (hbook _ _ _)
    | _ => exact ⟨id, id⟩
  send message _ h _ := ⟨rfl, silent_sent _ _ h⟩

theorem sendLogon_latch : Meets LatchStays (sendLogon env ctx : Handler D Y) := by
  intro s
  exact ⟨rfl, silent_sent _ _ fun _ => nofun⟩

theorem sendTestRequest_latch : Meets LatchStays (sendTestRequest env ctx : Handler D Y) := by
  intro s
  refine ⟨?_, silent_sent _ _ fun _ => nofun⟩
  simp only [sendTestRequest, send, set, seq_fst, modify_apply]
  split_ifs
  · rfl
  · rfl

/-- The book an incremental refresh is dispatched as. -/
abbrev incrementalUpdate (env : Env) (o : MarketData D) (header : Fix.Header)
    (value : Fix.MarketDataIncrementalRefresh) : MarketByPriceUpdate :=
  marketByPriceUpdate env o.streamId value.symbol (incrementalEntries env value) .incremental
    header

/-- The book a full refresh is dispatched as. -/
abbrev snapshotUpdate (env : Env) (o : MarketData D) (header : Fix.Header)
    (value : Fix.MarketDataSnapshotFullRefresh) : MarketByPriceUpdate :=
  marketByPriceUpdate env o.streamId value.symbol (snapshotEntries env value) .snapshot header

/-- What a call does with the latch and with books. -/
inductive BookStep (env : Env) (event : Event) (o o' : MarketData D) : List Output → Prop
  | silent {os : List Output}
      (hsnapshot : ∀ header value, event ≠ .message header (.marketDataSnapshotFullRefresh value))
      (hlatch : o'.latch = o.latch) (hos : Silent os) : BookStep env event o o' os
  | incremental {header : Fix.Header} {value : Fix.MarketDataIncrementalRefresh} {isLast : Bool}
      {os : List Output} (hevent : event = .message header (.marketDataIncrementalRefresh value))
      (hbook : value.noMdEntries.any isBook = true) (hfree : value.symbol ∉ o.latch)
      (hlatch : o'.latch = o.latch) (hos : Silent os) :
      BookStep env event o o'
        (.marketByPriceUpdate (incrementalUpdate env o header value) isLast .returned :: os)
  | bad {header : Fix.Header} {value : Fix.MarketDataIncrementalRefresh} {isLast : Bool}
      {n : ℕ} {id id' : String} {queued queued' : Bool} {os : List Output}
      (hevent : event = .message header (.marketDataIncrementalRefresh value))
      (hbook : value.noMdEntries.any isBook = true) (hfree : value.symbol ∉ o.latch)
      (hlatch : o'.latch = insert value.symbol o.latch) (hos : Silent os) :
      BookStep env event o o'
        (.marketByPriceUpdate (incrementalUpdate env o header value) isLast .badState ::
          .sent n (.marketDataRequest (unsubscription [value.symbol] id)) queued ::
          .sent (n + 1) (.marketDataRequest (subscription env [value.symbol] id')) queued' :: os)
  | snapshot {header : Fix.Header} {value : Fix.MarketDataSnapshotFullRefresh} {isLast : Bool}
      {os : List Output} (hevent : event = .message header (.marketDataSnapshotFullRefresh value))
      (hbook : value.noMdEntries.any isBook = true)
      (hlatch : o'.latch = o.latch.erase value.symbol) (hos : Silent os) :
      BookStep env event o o'
        (.marketByPriceUpdate (snapshotUpdate env o header value) isLast .returned :: os)
  | emptied {header : Fix.Header} {value : Fix.MarketDataSnapshotFullRefresh} {os : List Output}
      (hevent : event = .message header (.marketDataSnapshotFullRefresh value))
      (hbook : value.noMdEntries.any isBook = false)
      (hlatch : o'.latch = o.latch.erase value.symbol) (hos : Silent os) :
      BookStep env event o o' os

/-- A request for one symbol fits into one message. -/
theorem sendMarketDataRequests_single (request : List String → String → Fix.MarketDataRequest)
    (symbol : String) :
    (sendMarketDataRequests env ctx request [symbol] : Handler D Y) =
      seq (sendRequest ctx fun requestId => .marketDataRequest (request [symbol] requestId))
        skip := by
  unfold sendMarketDataRequests
  simp only [List.length_singleton, eachBatch, List.isEmpty_cons, Bool.false_eq_true, if_false]
  have htake : ∀ k, k ≠ 0 → [symbol].take k = [symbol] := by
    intro k hk
    exact List.take_of_length_le (by simpa using Nat.one_le_iff_ne_zero.mpr hk)
  by_cases hmax : env.marketDataRequestMaxSize = 0
  · rw [if_neg (not_not.mpr hmax), htake 1 Nat.one_ne_zero]
  · rw [if_pos hmax, htake _ hmax]

/-- A symbol that is not latched is latched, unsubscribed, and subscribed again. -/
theorem resubscribe_free (env : Env) (ctx : Context Y) {o : MarketData D}
    (shared : SharedState Y) {symbol : String} (h : symbol ∉ o.latch) :
    ∃ shared' id id', resubscribe env ctx symbol (o, shared) =
      (({ o with latch := insert symbol o.latch, outbound := o.outbound + 1 + 1 }, shared'),
        [.sent (o.outbound + 1) (.marketDataRequest (unsubscription [symbol] id))
            (ctx.queued (o.outbound + 1)),
          .sent (o.outbound + 1 + 1) (.marketDataRequest (subscription env [symbol] id'))
            (ctx.queued (o.outbound + 1 + 1))]) := by
  refine ⟨shared.nextRequestId.1.nextRequestId.1, shared.nextRequestId.2,
    shared.nextRequestId.1.nextRequestId.2, ?_⟩
  simp only [resubscribe, if_neg h, unsubscribeSymbols, subscribeSymbols, List.isEmpty_cons,
    Bool.false_eq_true, if_false, sendMarketDataRequests_single]
  rfl

theorem publishIncremental_books (hpublish : env.publishMarketByPrice = true) {o : MarketData D}
    {shared : SharedState Y} {header : Fix.Header} {value : Fix.MarketDataIncrementalRefresh}
    (hfails : failsIncremental env ctx o value.symbol (incrementalEntries env value) = false) :
    BookStep env (.message header (.marketDataIncrementalRefresh value)) o
      (publishIncremental env ctx value.symbol (incrementalEntries env value) header
        (o, shared)).1.1
      (publishIncremental env ctx value.symbol (incrementalEntries env value) header
        (o, shared)).2 := by
  simp only [failsIncremental, incrementalEntries_hasBook, hpublish, Bool.and_true,
    Bool.and_eq_false_imp, Bool.and_eq_true, decide_eq_true_eq, decide_eq_false_iff_not,
    and_imp] at hfails
  simp only [publishIncremental, incrementalEntries_hasBook, hpublish, Bool.and_true,
    Bool.and_eq_true, decide_eq_true_eq]
  by_cases hdispatch : value.noMdEntries.any isBook = true ∧ value.symbol ∉ o.latch
  · obtain ⟨hbook, hfree⟩ := hdispatch
    rw [if_pos ⟨hbook, hfree⟩]
    cases houtcome : ctx.marketByPrice with
    | returned => exact .incremental rfl hbook hfree rfl silent_nil
    | badState =>
      obtain ⟨shared', id, id', hresubscribe⟩ := resubscribe_free env ctx shared hfree
      simp only [if_true, seq_fst, seq_snd, emit_apply, hresubscribe]
      exact .bad rfl hbook hfree rfl silent_nil
    | failed => exact absurd houtcome (hfails hbook hfree)
  · rw [if_neg hdispatch]
    refine .silent ?_ rfl silent_nil
    intro header' value' hevent
    cases hevent

theorem publishSnapshot_books (hpublish : env.publishMarketByPrice = true) {o : MarketData D}
    {shared : SharedState Y} {header : Fix.Header} {value : Fix.MarketDataSnapshotFullRefresh}
    (hfails : failsSnapshot env ctx (snapshotEntries env value) = false) :
    BookStep env (.message header (.marketDataSnapshotFullRefresh value)) o
      { o with latch := o.latch.erase value.symbol }
      (publishSnapshot env ctx value.symbol (snapshotEntries env value) header
        ({ o with latch := o.latch.erase value.symbol }, shared)).2 := by
  simp only [failsSnapshot, snapshotEntries_hasBook, hpublish, Bool.and_true,
    Bool.and_eq_false_imp, decide_eq_false_iff_not, not_not] at hfails
  simp only [publishSnapshot, snapshotEntries_hasBook, hpublish, Bool.and_true]
  by_cases hbook : value.noMdEntries.any isBook = true
  · rw [if_pos hbook, hfails hbook]
    exact .snapshot rfl hbook rfl silent_nil
  · rw [if_neg hbook]
    exact .emptied rfl (Bool.eq_false_iff.mpr hbook) rfl silent_nil

/-- Behind the book a call is silent. -/
theorem BookStep.append {event : Event} {o o' o'' : MarketData D} {os os' : List Output}
    (h : BookStep env event o o' os) (hlatch : o''.latch = o'.latch) (hos : Silent os') :
    BookStep env event o o'' (os ++ os') := by
  cases h with
  | silent hsnapshot hlatch' hos' =>
    exact .silent hsnapshot (hlatch.trans hlatch') (hos'.append hos)
  | incremental hevent hbook hfree hlatch' hos' =>
    exact .incremental hevent hbook hfree (hlatch.trans hlatch') (hos'.append hos)
  | bad hevent hbook hfree hlatch' hos' =>
    exact .bad hevent hbook hfree (hlatch.trans hlatch') (hos'.append hos)
  | snapshot hevent hbook hlatch' hos' =>
    exact .snapshot hevent hbook (hlatch.trans hlatch') (hos'.append hos)
  | emptied hevent hbook hlatch' hos' =>
    exact .emptied hevent hbook (hlatch.trans hlatch') (hos'.append hos)

/-- Whether a gap has been logged makes no difference. -/
theorem BookStep.of_check {event : Event} {header : Fix.Header} {o o' : MarketData D}
    {os : List Output} (h : BookStep env event (check header o) o' os) :
    BookStep env event o o' os := by
  cases h with
  | silent hsnapshot hlatch hos => exact .silent hsnapshot hlatch hos
  | incremental hevent hbook hfree hlatch hos => exact .incremental hevent hbook hfree hlatch hos
  | bad hevent hbook hfree hlatch hos => exact .bad hevent hbook hfree hlatch hos
  | snapshot hevent hbook hlatch hos => exact .snapshot hevent hbook hlatch hos
  | emptied hevent hbook hlatch hos => exact .emptied hevent hbook hlatch hos

theorem incrementalRefresh_books (hpublish : env.publishMarketByPrice = true) {o : MarketData D}
    {shared : SharedState Y} {header : Fix.Header} {value : Fix.MarketDataIncrementalRefresh}
    {r : (MarketData D × SharedState Y) × List Output}
    (h : marketDataIncrementalRefresh env ctx header value (o, shared) = some r) :
    BookStep env (.message header (.marketDataIncrementalRefresh value)) o r.1.1 r.2 := by
  simp only [marketDataIncrementalRefresh] at h
  split_ifs at h with hfails
  obtain rfl := Option.some.inj h
  have hok : failsIncremental env ctx o value.symbol (incrementalEntries env value) = false := by
    simp only [Bool.or_eq_true, not_or, Bool.not_eq_true] at hfails
    exact hfails.2
  have hrest : Meets LatchStays (seq
      (publishTrades env value.symbol (incrementalEntries env value) header)
      (publishStatistics env value.symbol (incrementalEntries env value) .incremental header :
        Handler D Y)) := by
    have hR := latchStays_tolerates (D := D) ctx
    exact hR.composes.seq (hR.publishTrades _ _ _) (hR.publishStatistics _ _ _ _)
  exact (publishIncremental_books hpublish hok).append (hrest _).1 (hrest _).2

theorem snapshotFullRefresh_books (hpublish : env.publishMarketByPrice = true)
    {o : MarketData D} {shared : SharedState Y} {header : Fix.Header}
    {value : Fix.MarketDataSnapshotFullRefresh}
    {r : (MarketData D × SharedState Y) × List Output}
    (h : marketDataSnapshotFullRefresh env ctx header value (o, shared) = some r) :
    BookStep env (.message header (.marketDataSnapshotFullRefresh value)) o r.1.1 r.2 := by
  simp only [marketDataSnapshotFullRefresh] at h
  split_ifs at h with hfails
  obtain rfl := Option.some.inj h
  have hok : failsSnapshot env ctx (snapshotEntries env value) = false := by
    simp only [Bool.or_eq_true, not_or, Bool.not_eq_true] at hfails
    exact hfails.2
  have hstatistics : Meets LatchStays
      (publishStatistics env value.symbol (snapshotEntries env value) .snapshot header :
        Handler D Y) :=
    (latchStays_tolerates ctx).publishStatistics _ _ _ _
  have hstate : (publishSnapshot env ctx value.symbol (snapshotEntries env value) header
      ({ o with latch := o.latch.erase value.symbol }, shared)).1.1 =
      { o with latch := o.latch.erase value.symbol } := by
    simp only [publishSnapshot]
    split_ifs
    · rfl
    · rfl
  apply (publishSnapshot_books hpublish hok).append _ (hstatistics _).2
  rw [← hstate]
  exact (hstatistics _).1

theorem disconnected_latch [Download State D] :
    Meets LatchStays (disconnected : Handler D Y) := by
  intro s
  refine ⟨rfl, ?_⟩
  intro x hx
  obtain rfl := List.mem_singleton.mp hx
  exact ⟨id, id⟩

variable [Symbols Y] [Download State D]

/-- A message that is no refresh of a book. -/
theorem parseHelper_latch {header : Fix.Header} {value : Fix.MDInbound}
    (hincremental : ∀ value', value ≠ .marketDataIncrementalRefresh value')
    (hsnapshot : ∀ value', value ≠ .marketDataSnapshotFullRefresh value')
    {s : MarketData D × SharedState Y} {r : (MarketData D × SharedState Y) × List Output}
    (h : parseHelper env ctx header value s = some r) : LatchStays s r.2 r.1 := by
  have hR := latchStays_tolerates (D := D) ctx
  cases value with
  | marketDataIncrementalRefresh value' => exact absurd rfl (hincremental value')
  | marketDataSnapshotFullRefresh value' => exact absurd rfl (hsnapshot value')
  | heartbeat testReqId =>
    have hheard : heartbeat env ctx testReqId s = some r := h
    simp only [heartbeat] at hheard
    split_ifs at hheard
    · obtain rfl := Option.some.inj hheard
      exact ⟨rfl, silent_nil⟩
    · obtain ⟨sendTime, -, rfl⟩ := Option.map_eq_some_iff.mp hheard
      exact ⟨rfl, (hR.report s _ id (by simp)).2⟩
  | logon =>
    obtain rfl := Option.some.inj h
    exact hR.advance _ s
  | logout =>
    obtain rfl := Option.some.inj h
    exact hR.logout s
  | resendRequest =>
    obtain rfl := Option.some.inj h
    exact hR.report s .closed id (by simp)
  | testRequest testReqId =>
    obtain rfl := Option.some.inj h
    refine hR.send (.heartbeat testReqId) id ?_ s
    intro testReqId' hmessage
    cases hmessage
  | securityList noRelatedSym => exact hR.securityList h
  | marketDataRequestReject =>
    simp only [parseHelper] at h
    split_ifs at h
    obtain rfl := Option.some.inj h
    exact ⟨rfl, silent_nil⟩
  | _ =>
    obtain rfl := Option.some.inj h
    exact ⟨rfl, silent_nil⟩

/-- A call that brings no refresh of a book. -/
theorem call_latch {event : Event}
    (hincremental : ∀ header value, event ≠ .message header (.marketDataIncrementalRefresh value))
    (hsnapshot : ∀ header value, event ≠ .message header (.marketDataSnapshotFullRefresh value))
    {s : MarketData D × SharedState Y} {r : (MarketData D × SharedState Y) × List Output}
    (h : call env ctx event s = some r) : LatchStays s r.2 r.1 := by
  have hR := latchStays_tolerates (D := D) ctx
  cases event with
  | timer now =>
    obtain rfl := Option.some.inj h
    exact hR.timer sendTestRequest_latch now s
  | subscribe startFrom =>
    obtain rfl := Option.some.inj h
    exact hR.subscribe startFrom s
  | connected =>
    obtain rfl := Option.some.inj h
    exact hR.connected sendLogon_latch s
  | disconnected =>
    obtain rfl := Option.some.inj h
    exact disconnected_latch s
  | message header value =>
    have hparse : parseHelper env ctx header value (check header s.1, s.2) = some r := h
    have hlatch : LatchStays (check header s.1, s.2) r.2 r.1 :=
      parseHelper_latch (fun value' heq => hincremental header value' (heq ▸ rfl))
        (fun value' heq => hsnapshot header value' (heq ▸ rfl)) hparse
    exact hlatch

/-- **What a call does with books.** -/
theorem call_books (hpublish : env.publishMarketByPrice = true) {event : Event}
    {o : MarketData D} {shared : SharedState Y}
    {r : (MarketData D × SharedState Y) × List Output}
    (h : call env ctx event (o, shared) = some r) : BookStep env event o r.1.1 r.2 := by
  by_cases hincremental :
      ∃ header value, event = .message header (.marketDataIncrementalRefresh value)
  · obtain ⟨header, value, rfl⟩ := hincremental
    have hparse : marketDataIncrementalRefresh env ctx header value (check header o, shared) =
      some r := h
    exact (incrementalRefresh_books hpublish hparse).of_check
  · by_cases hsnapshot :
        ∃ header value, event = .message header (.marketDataSnapshotFullRefresh value)
    · obtain ⟨header, value, rfl⟩ := hsnapshot
      have hparse : marketDataSnapshotFullRefresh env ctx header value (check header o, shared) =
        some r := h
      exact (snapshotFullRefresh_books hpublish hparse).of_check
    · push Not at hincremental hsnapshot
      have hlatch := call_latch hincremental hsnapshot h
      exact .silent hsnapshot hlatch.1 hlatch.2

/-! ## The history -/

/-- The symbols whose last book was bad, and those for which a full refresh without an entry
    of the book has come. -/
structure Recovery where
  awaiting : Finset String
  emptied : Finset String

/-- What an output changes about the symbols whose last book was bad. -/
def awaits (awaiting : Finset String) : Output → Finset String
  | .marketByPriceUpdate value _ .badState => insert value.symbol awaiting
  | .marketByPriceUpdate value _ _ => awaiting.erase value.symbol
  | _ => awaiting

/-- A book starts over. -/
def restarts (emptied : Finset String) : Output → Finset String
  | .marketByPriceUpdate value .. => emptied.erase value.symbol
  | _ => emptied

/-- A full refresh is heard. -/
def hears (emptied : Finset String) : Event → Finset String
  | .message _ (.marketDataSnapshotFullRefresh value) =>
    if value.noMdEntries.any isBook then emptied else insert value.symbol emptied
  | _ => emptied

def Recovery.next (r : Recovery) (i : Context Y × Event) (os : List Output) : Recovery where
  awaiting := os.foldl awaits r.awaiting
  emptied := os.foldl restarts (hears r.emptied i.2)

/-- No book of an incremental refresh comes for a symbol that awaits a snapshot when the full
    refresh has come without an entry of the book. -/
def Unemptied (s : MarketData D × Recovery) (i : Context Y × Event) : Prop :=
  match i.2 with
  | .message _ (.marketDataIncrementalRefresh value) =>
    value.noMdEntries.any isBook = true → value.symbol ∈ s.2.awaiting → value.symbol ∉ s.2.emptied
  | _ => True

theorem awaits_silent {os : List Output} (h : Silent os) (awaiting : Finset String) :
    os.foldl awaits awaiting = awaiting := by
  induction os with
  | nil => rfl
  | cons x os ih =>
    have hx := (h x List.mem_cons_self).1
    rw [List.foldl_cons]
    cases x with
    | marketByPriceUpdate value isLast dispatched => exact absurd trivial hx
    | _ => exact ih fun y hy => h y (List.mem_cons_of_mem _ hy)

theorem restarts_silent {os : List Output} (h : Silent os) (emptied : Finset String) :
    os.foldl restarts emptied = emptied := by
  induction os with
  | nil => rfl
  | cons x os ih =>
    have hx := (h x List.mem_cons_self).1
    rw [List.foldl_cons]
    cases x with
    | marketByPriceUpdate value isLast dispatched => exact absurd trivial hx
    | _ => exact ih fun y hy => h y (List.mem_cons_of_mem _ hy)

/-- What is latched awaits a snapshot, and what awaits one is latched, unless it has been
    unlatched by a full refresh without an entry of the book. -/
structure Recovering (s : MarketData D × Recovery) : Prop where
  latched : ∀ symbol ∈ s.1.latch, symbol ∈ s.2.awaiting
  awaiting : ∀ symbol ∈ s.2.awaiting, symbol ∈ s.1.latch ∨ symbol ∈ s.2.emptied

omit [Symbols Y] [Download State D] in
/-- A free symbol for which an incremental refresh comes does not await a snapshot. -/
theorem Recovering.free {o : MarketData D} {r : Recovery} {header : Fix.Header}
    {value : Fix.MarketDataIncrementalRefresh} (h : Recovering (o, r))
    (hunemptied : Unemptied (o, r) (ctx, .message header (.marketDataIncrementalRefresh value)))
    (hbook : value.noMdEntries.any isBook = true) (hfree : value.symbol ∉ o.latch) :
    value.symbol ∉ r.awaiting := by
  intro hawaits
  obtain hlatched | hemptied := h.awaiting _ hawaits
  · exact hfree hlatched
  · exact hunemptied hbook hawaits hemptied

omit [Symbols Y] [Download State D] in
/-- **The step lemma.** -/
theorem Recovering.step {event : Event} {o o' : MarketData D} {r : Recovery} {os : List Output}
    (h : Recovering (o, r)) (hunemptied : Unemptied (o, r) (ctx, event))
    (hstep : BookStep env event o o' os) : Recovering (o', r.next (ctx, event) os) := by
  cases hstep with
  | silent hsnapshot hlatch hos =>
    have hhears : hears r.emptied event = r.emptied := by
      cases event with
      | message header value =>
        cases value with
        | marketDataSnapshotFullRefresh value => exact absurd rfl (hsnapshot header value)
        | _ => rfl
      | _ => rfl
    constructor
    · simp only [Recovery.next, awaits_silent hos, hlatch]
      exact h.latched
    · simp only [Recovery.next, awaits_silent hos, restarts_silent hos, hhears, hlatch]
      exact h.awaiting
  | @incremental header value isLast os' hevent hbook hfree hlatch hos =>
    subst hevent
    have hnext : r.next (ctx, .message header (.marketDataIncrementalRefresh value))
        (.marketByPriceUpdate (incrementalUpdate env o header value) isLast .returned :: os') =
        ⟨r.awaiting.erase value.symbol, r.emptied.erase value.symbol⟩ := by
      simp only [Recovery.next, List.foldl_cons, awaits, restarts, hears, awaits_silent hos,
        restarts_silent hos]
      rfl
    -- the guard: what is dispatched here does not await a snapshot
    have hfresh := h.free hunemptied hbook hfree
    rw [hnext, Finset.erase_eq_of_notMem hfresh]
    constructor
    · intro symbol hmem
      exact h.latched symbol (hlatch ▸ hmem)
    · intro symbol hmem
      obtain hlatched | hemptied := h.awaiting symbol hmem
      · exact .inl (hlatch ▸ hlatched)
      · refine .inr (Finset.mem_erase.mpr ⟨?_, hemptied⟩)
        rintro rfl
        exact hfresh hmem
  | @bad header value isLast n id id' queued queued' os' hevent hbook hfree hlatch hos =>
    subst hevent
    have hawaiting : ((Output.marketByPriceUpdate (incrementalUpdate env o header value) isLast
        .badState :: .sent n (.marketDataRequest (unsubscription [value.symbol] id)) queued ::
        .sent (n + 1) (.marketDataRequest (subscription env [value.symbol] id')) queued' ::
          os').foldl awaits r.awaiting) = insert value.symbol r.awaiting :=
      awaits_silent hos _
    have hemptied : ((Output.marketByPriceUpdate (incrementalUpdate env o header value) isLast
        .badState :: .sent n (.marketDataRequest (unsubscription [value.symbol] id)) queued ::
        .sent (n + 1) (.marketDataRequest (subscription env [value.symbol] id')) queued' ::
          os').foldl restarts r.emptied) = r.emptied.erase value.symbol :=
      restarts_silent hos _
    constructor
    · intro symbol hmem
      simp only [Recovery.next, hawaiting]
      simp only [hlatch, Finset.mem_insert] at hmem ⊢
      exact hmem.imp_right (h.latched symbol)
    · intro symbol hmem
      simp only [Recovery.next, hears, hawaiting, hemptied] at hmem ⊢
      simp only [hlatch, Finset.mem_insert, Finset.mem_erase] at hmem ⊢
      by_cases heq : symbol = value.symbol
      · exact .inl (.inl heq)
      · exact (h.awaiting symbol (hmem.resolve_left heq)).imp .inr fun hin => ⟨heq, hin⟩
  | @snapshot header value isLast os' hevent hbook hlatch hos =>
    subst hevent
    constructor
    · intro symbol hmem
      simp only [Recovery.next, List.foldl_cons, awaits, awaits_silent hos]
      simp only [hlatch, Finset.mem_erase] at hmem ⊢
      exact hmem.imp_right (h.latched symbol)
    · intro symbol hmem
      simp only [Recovery.next, List.foldl_cons, awaits, restarts, hears, if_pos hbook,
        awaits_silent hos, restarts_silent hos] at hmem ⊢
      simp only [hlatch, Finset.mem_erase] at hmem ⊢
      exact (h.awaiting symbol hmem.2).imp (fun hin => ⟨hmem.1, hin⟩) fun hin => ⟨hmem.1, hin⟩
  | @emptied header value os' hevent hbook hlatch hos =>
    subst hevent
    constructor
    · intro symbol hmem
      simp only [Recovery.next, awaits_silent hos]
      simp only [hlatch, Finset.mem_erase] at hmem
      exact h.latched symbol hmem.2
    · intro symbol hmem
      simp only [Recovery.next, hears, hbook, Bool.false_eq_true, if_false, awaits_silent hos,
        restarts_silent hos] at hmem ⊢
      simp only [hlatch, Finset.mem_erase, Finset.mem_insert]
      by_cases heq : symbol = value.symbol
      · exact .inr (.inl heq)
      · exact (h.awaiting symbol hmem).imp (fun hin => ⟨heq, hin⟩) .inr

/-! ## What a run dispatches -/

/-- A book of one symbol. -/
def Output.IsBookOf (symbol : String) : Output → Prop
  | .marketByPriceUpdate value _ _ => value.symbol = symbol
  | _ => False

/-- A symbol that awaits a snapshot gets a snapshot next. -/
def Recovers (awaiting : Finset String) : List Output → Prop
  | [] => True
  | x :: os =>
    (∀ value isLast dispatched, x = .marketByPriceUpdate value isLast dispatched →
      value.symbol ∈ awaiting → value.updateType = .snapshot) ∧ Recovers (awaits awaiting x) os

/-- Each bad book is followed at once by one request that unsubscribes its symbol and one that
    subscribes to it, and nothing else unsubscribes. -/
inductive Resubscribes (env : Env) : List Output → Prop
  | nil : Resubscribes env []
  | other {x : Output} {os : List Output}
      (hbad : ∀ value isLast, x ≠ .marketByPriceUpdate value isLast .badState)
      (hunsubscribe : ¬x.isUnsubscribe) (h : Resubscribes env os) : Resubscribes env (x :: os)
  | bad {value : MarketByPriceUpdate} {isLast : Bool} {n : ℕ} {id id' : String}
      {queued queued' : Bool} {os : List Output} (h : Resubscribes env os) :
      Resubscribes env (.marketByPriceUpdate value isLast .badState ::
        .sent n (.marketDataRequest (unsubscription [value.symbol] id)) queued ::
        .sent (n + 1) (.marketDataRequest (subscription env [value.symbol] id')) queued' :: os)

section Outputs

omit [Symbols Y] [Download State D]

theorem recovers_append (awaiting : Finset String) (os os' : List Output) :
    Recovers awaiting (os ++ os') ↔
      Recovers awaiting os ∧ Recovers (os.foldl awaits awaiting) os' := by
  induction os generalizing awaiting with
  | nil => simp only [List.nil_append, Recovers, List.foldl_nil, true_and]
  | cons x os ih =>
    simp only [List.cons_append, Recovers, List.foldl_cons, ih]
    exact and_assoc.symm

theorem recovers_silent {os : List Output} (h : Silent os) (awaiting : Finset String) :
    Recovers awaiting os := by
  induction os generalizing awaiting with
  | nil => trivial
  | cons x os ih =>
    refine ⟨?_, ih (fun y hy => h y (List.mem_cons_of_mem x hy)) _⟩
    rintro value isLast dispatched rfl -
    exact absurd trivial (h _ List.mem_cons_self).1

/-- A symbol awaits a snapshot until its next book. -/
theorem awaits_between {symbol : String} {os : List Output} {awaiting : Finset String}
    (h : ∀ x ∈ os, ¬x.IsBookOf symbol) (hmem : symbol ∈ awaiting) :
    symbol ∈ os.foldl awaits awaiting := by
  induction os generalizing awaiting with
  | nil => exact hmem
  | cons x os ih =>
    apply ih (fun y hy => h y (List.mem_cons_of_mem x hy))
    have hx := h x List.mem_cons_self
    cases x with
    | marketByPriceUpdate value isLast dispatched =>
      have hne : symbol ≠ value.symbol := fun heq => hx heq.symm
      cases dispatched with
      | badState => exact Finset.mem_insert_of_mem hmem
      | _ => exact Finset.mem_erase.mpr ⟨hne, hmem⟩
    | _ => exact hmem

/-- Behind a bad book, the next one of the symbol is a snapshot. -/
theorem Recovers.next_is_snapshot {awaiting : Finset String} {os₁ os₂ os₃ : List Output}
    {bad value : MarketByPriceUpdate} {isLast isLast' : Bool} {dispatched : Dispatched}
    (h : Recovers awaiting (os₁ ++ .marketByPriceUpdate bad isLast .badState ::
      (os₂ ++ .marketByPriceUpdate value isLast' dispatched :: os₃)))
    (hbetween : ∀ x ∈ os₂, ¬x.IsBookOf bad.symbol) (hsymbol : value.symbol = bad.symbol) :
    value.updateType = .snapshot := by
  obtain ⟨-, -, hrest⟩ := (recovers_append _ _ _).mp h
  obtain ⟨-, hnext, -⟩ := (recovers_append _ _ _).mp hrest
  apply hnext value isLast' dispatched rfl
  rw [hsymbol]
  exact awaits_between hbetween (Finset.mem_insert_self _ _)

theorem Resubscribes.append {os os' : List Output} (h : Resubscribes env os)
    (h' : Resubscribes env os') : Resubscribes env (os ++ os') := by
  induction h with
  | nil => exact h'
  | other hbad hunsubscribe _ ih => exact .other hbad hunsubscribe ih
  | bad _ ih => exact .bad ih

theorem resubscribes_silent {os : List Output} (h : Silent os) : Resubscribes env os := by
  induction os with
  | nil => exact .nil
  | cons x os ih =>
    have hx := h x List.mem_cons_self
    refine .other ?_ hx.2 (ih fun y hy => h y (List.mem_cons_of_mem x hy))
    rintro value isLast rfl
    exact hx.1 trivial

theorem BookStep.resubscribes {event : Event} {o o' : MarketData D} {os : List Output}
    (h : BookStep env event o o' os) : Resubscribes env os := by
  cases h with
  | silent _ _ hos => exact resubscribes_silent hos
  | incremental _ _ _ _ hos => exact .other (by simp) id (resubscribes_silent hos)
  | bad _ _ _ _ hos => exact .bad (resubscribes_silent hos)
  | snapshot _ _ _ hos => exact .other (by simp) id (resubscribes_silent hos)
  | emptied _ _ _ hos => exact resubscribes_silent hos

theorem Recovering.recovers {event : Event} {o o' : MarketData D} {r : Recovery}
    {os : List Output} (h : Recovering (o, r)) (hunemptied : Unemptied (o, r) (ctx, event))
    (hstep : BookStep env event o o' os) : Recovers r.awaiting os := by
  cases hstep with
  | silent _ _ hos => exact recovers_silent hos _
  | @incremental header value isLast os hevent hbook hfree _ hos =>
    subst hevent
    refine ⟨?_, recovers_silent hos _⟩
    rintro _ _ _ heq hmem
    obtain ⟨rfl, -⟩ := Output.marketByPriceUpdate.inj heq
    exact absurd hmem (h.free hunemptied hbook hfree)
  | @bad header value isLast n id id' queued queued' os hevent hbook hfree _ hos =>
    subst hevent
    refine ⟨?_, ⟨by simp, by simp, recovers_silent hos _⟩⟩
    rintro _ _ _ heq hmem
    obtain ⟨rfl, -⟩ := Output.marketByPriceUpdate.inj heq
    exact absurd hmem (h.free hunemptied hbook hfree)
  | snapshot _ _ _ hos =>
    refine ⟨?_, recovers_silent hos _⟩
    rintro _ _ _ heq -
    obtain ⟨rfl, -⟩ := Output.marketByPriceUpdate.inj heq
    rfl
  | emptied _ _ _ hos => exact recovers_silent hos _

end Outputs

/-- **The run lemma.** -/
theorem run_recovers (hpublish : env.publishMarketByPrice = true)
    {is : List (Context Y × Event)} {s : MarketData D × Recovery} (h : Recovering s)
    (hunemptied : Guarded (keeping (step env) Recovery.next) Unemptied s is) :
    (∀ t, (run (keeping (step env) Recovery.next) s is).1 = some t → Recovering t) ∧
      Recovers s.2.awaiting (run (keeping (step env) Recovery.next) s is).2 := by
  induction is generalizing s with
  | nil =>
    refine ⟨?_, trivial⟩
    intro t ht
    obtain rfl := Option.some.inj ht
    exact h
  | cons i is ih =>
    obtain ⟨o, r⟩ := s
    obtain ⟨ctx, event⟩ := i
    obtain hended | ⟨result, hcall, hstep⟩ := step_cases env o ctx event
    · have hnone : (keeping (step env) Recovery.next (o, r) (ctx, event)).1 = none := by
        simp [keeping, hended]
      rw [run_cons_none is hnone]
      simp only [keeping, hended]
      refine ⟨?_, trivial⟩
      intro t ht
      cases ht
    · have hbooks := call_books hpublish hcall
      have hsome : (keeping (step env) Recovery.next (o, r) (ctx, event)).1 =
          some (result.1.1, r.next (ctx, event) result.2) := by
        simp [keeping, hstep]
      have hout : (keeping (step env) Recovery.next (o, r) (ctx, event)).2 = result.2 := by
        simp [keeping, hstep]
      obtain ⟨hlast, hrest⟩ := ih (h.step hunemptied.1 hbooks) (hunemptied.2 _ hsome)
      rw [run_cons_some is hsome, hout]
      refine ⟨hlast, ?_⟩
      rw [recovers_append]
      exact ⟨h.recovers hunemptied.1 hbooks, hrest⟩

theorem step_resubscribes (hpublish : env.publishMarketByPrice = true) (o : MarketData D)
    (i : Context Y × Event) : Resubscribes env (step env o i).2 := by
  obtain ⟨ctx, event⟩ := i
  obtain hended | ⟨r, hcall, hstep⟩ := step_cases env o ctx event
  · rw [hended]
    exact .nil
  · rw [hstep]
    exact (call_books hpublish hcall).resubscribes

/-- The book of an incremental refresh, for a symbol that is not latched. -/
theorem incremental_unaffected (hpublish : env.publishMarketByPrice = true) {o o' : MarketData D}
    {header : Fix.Header} {value : Fix.MarketDataIncrementalRefresh}
    (hbook : value.noMdEntries.any isBook = true) (hfree : value.symbol ∉ o.latch)
    (h : (step env o (ctx, .message header (.marketDataIncrementalRefresh value))).1 = some o') :
    ∃ isLast os, (step env o (ctx, .message header (.marketDataIncrementalRefresh value))).2 =
      .marketByPriceUpdate (incrementalUpdate env o header value) isLast ctx.marketByPrice ::
        os := by
  obtain hended | ⟨r, hcall, hstep⟩ :=
    step_cases env o ctx (.message header (.marketDataIncrementalRefresh value))
  · rw [hended] at h
    cases h
  · rw [hstep]
    have hrefresh : marketDataIncrementalRefresh env ctx header value
        (check header o, ctx.shared) = some r := hcall
    simp only [marketDataIncrementalRefresh] at hrefresh
    split_ifs at hrefresh
    obtain rfl := Option.some.inj hrefresh
    have hdispatch : ((incrementalEntries env value).hasBook && env.publishMarketByPrice &&
        value.symbol ∉ (check header o).latch) = true := by
      rw [incrementalEntries_hasBook, hbook, hpublish]
      exact decide_eq_true hfree
    simp only [seq_snd, publishIncremental, if_pos hdispatch, emit_apply, List.cons_append,
      List.nil_append]
    exact ⟨_, _, rfl⟩

/-- **A bad book is followed by one request that unsubscribes the symbol and one that
    subscribes to it, and its next book is a snapshot; the other symbols go on**, in every run
    in which no incremental refresh comes behind a full refresh without an entry of the book,
    when a snapshot is awaited. -/
theorem bad_books_recover (env : Env) (hpublish : env.publishMarketByPrice = true)
    (streamId : UInt16) (index : ℕ) (master : Bool) (is : List (Context Y × Event))
    (hunemptied : Guarded (keeping (step env) Recovery.next) Unemptied
      ((initial streamId index master : MarketData D), ⟨∅, ∅⟩) is) :
    (∀ os₁ os₂ os₃ bad isLast value isLast' dispatched,
      (run (step env) (initial streamId index master : MarketData D) is).2 =
        os₁ ++ .marketByPriceUpdate bad isLast .badState ::
          (os₂ ++ .marketByPriceUpdate value isLast' dispatched :: os₃) →
      (∀ x ∈ os₂, ¬x.IsBookOf bad.symbol) → value.symbol = bad.symbol →
      value.updateType = .snapshot) ∧
    Resubscribes env (run (step env) (initial streamId index master : MarketData D) is).2 ∧
    ∀ o r, (run (keeping (step env) Recovery.next)
        ((initial streamId index master : MarketData D), ⟨∅, ∅⟩) is).1 = some (o, r) →
      ∀ (ctx : Context Y) (header : Fix.Header) (value : Fix.MarketDataIncrementalRefresh) o',
        value.symbol ∉ r.awaiting → value.noMdEntries.any isBook = true →
        (step env o (ctx, .message header (.marketDataIncrementalRefresh value))).1 = some o' →
        ∃ isLast os,
          (step env o (ctx, .message header (.marketDataIncrementalRefresh value))).2 =
            .marketByPriceUpdate (incrementalUpdate env o header value) isLast
              ctx.marketByPrice :: os := by
  have hinitial : Recovering ((initial streamId index master : MarketData D), ⟨∅, ∅⟩) :=
    ⟨fun _ => id, fun _ hmem => absurd hmem (Finset.notMem_empty _)⟩
  obtain ⟨hlast, hrecovers⟩ := run_recovers hpublish hinitial hunemptied
  refine ⟨?_, run_outputs .nil .append (step_resubscribes hpublish) is, ?_⟩
  · intro os₁ os₂ os₃ bad isLast value isLast' dispatched heq hbetween hsymbol
    have herase := congrArg Prod.snd (run_keeping (step env) Recovery.next
      (initial streamId index master : MarketData D) ⟨∅, ∅⟩ is)
    rw [← herase] at heq
    simp only at heq
    rw [heq] at hrecovers
    exact hrecovers.next_is_snapshot hbetween hsymbol
  · intro o r ho ctx header value o' hfree hbook hnext
    refine incremental_unaffected hpublish hbook ?_ hnext
    intro hlatched
    exact hfree ((hlast _ ho).latched _ hlatched)

/-- A bid. -/
abbrev plainBid : Fix.MDEntry := ⟨.new, .bid, some 1, some 1, 1, "", .undefined, "", ""⟩

/-- An incremental refresh with one bid. -/
abbrev plainIncremental : Event :=
  .message ⟨1, 1⟩ (.marketDataIncrementalRefresh ⟨"BTC-PERPETUAL", none, none, [plainBid]⟩)

/-- A full refresh. -/
abbrev plainSnapshot (noMdEntries : List Fix.MDEntry) : Event :=
  .message ⟨2, 1⟩ (.marketDataSnapshotFullRefresh ⟨"BTC-PERPETUAL", noMdEntries⟩)

/-- A book that is bad. -/
def Context.bad : Context SymbolTable := { Context.plain with marketByPrice := .badState }

/-- What a reader of the books sees of an output. -/
def Output.book : Output → Option (String × UpdateType × Dispatched)
  | .marketByPriceUpdate value _ dispatched => some (value.symbol, value.updateType, dispatched)
  | _ => none

/-- A bad book, and a full refresh with a bid. -/
abbrev recovery : List (Context SymbolTable × Event) :=
  [(Context.bad, plainIncremental), (Context.plain, plainSnapshot [plainBid])]

/-- The symbol is subscribed again, and the book is replaced. -/
theorem bad_book_recovers :
    Resubscribes .plain (run (step .plain) MarketData.plain recovery).2 ∧
      (run (step .plain) MarketData.plain recovery).2.filterMap Output.book =
        [("BTC-PERPETUAL", .incremental, .badState), ("BTC-PERPETUAL", .snapshot, .returned)] := by
  constructor
  · refine (bad_books_recover .plain rfl 1 0 true recovery ?_).2.1
    constructor
    · intro _ hmem
      exact absurd hmem (Finset.notMem_empty _)
    · intro _ _
      exact ⟨trivial, fun _ _ => trivial⟩
  · decide +kernel

/-- A bad book, and a full refresh without entries: the next book is incremental. -/
theorem empty_refresh_unlatches :
    (run (step .plain) MarketData.plain [(Context.bad, plainIncremental),
      (Context.plain, plainSnapshot []), (Context.plain, plainIncremental)]).2.filterMap
        Output.book = [("BTC-PERPETUAL", .incremental, .badState),
          ("BTC-PERPETUAL", .incremental, .returned)] := by
  decide +kernel

end MarketData

end DeribitGateway
