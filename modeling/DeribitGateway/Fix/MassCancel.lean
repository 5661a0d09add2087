import Mathlib.Data.Set.Basic
import DeribitGateway.Fix.Handlers

/-!
# Mass cancel — what a request selects

A `CancelAllOrders` names the orders to cancel by the fields it gives, and there are two
messages that can be sent for it: all orders, or those of a symbol. The gateway advertises the
fields it can filter by, `OMS_CANCEL_ALL_ORDERS`; which of the two messages is sent, or none, is
decided by the flags of the fields.

The orders a request is about (`CancelAllOrders.Matches`) and those a message selects
(`OrderMassCancelRequest.Selects`) are defined apart, and compared on any set of working orders
of the stream's account. They are the same whenever a message is sent and the request does not
name another account or exchange; a message is sent for all fields that are advertised but for
an exchange alone, which selects all orders and is refused (`mass_cancel_iff`).
-/

namespace DeribitGateway

/-- An order that is working, as far as a `CancelAllOrders` can name it. -/
structure WorkingOrder where
  account : String
  orderId : ℕ
  exchange : String
  symbol : String
  side : Side
  strategyId : ℕ

namespace CancelAllOrders

variable (c : CancelAllOrders)

/-- The field is given. -/
def Gives : Filter → Prop
  | .account => c.account ≠ ""
  | .orderId => c.orderId ≠ 0
  | .exchange => c.exchange ≠ ""
  | .symbol => c.symbol ≠ ""
  | .side => c.side ≠ .undefined
  | .strategyId => c.strategyId ≠ 0
  | .other => False

/-- The order has the value of the field. -/
def Has (order : WorkingOrder) : Filter → Prop
  | .account => order.account = c.account
  | .orderId => order.orderId = c.orderId
  | .exchange => order.exchange = c.exchange
  | .symbol => order.symbol = c.symbol
  | .side => order.side = c.side
  | .strategyId => order.strategyId = c.strategyId
  | .other => True

/-- The order has the value of every field that is given. -/
def Matches (order : WorkingOrder) : Prop := ∀ field, c.Gives field → c.Has order field

end CancelAllOrders

/-- The orders a message is about: all, or those of its symbol. -/
def Fix.OrderMassCancelRequest.Selects (message : Fix.OrderMassCancelRequest)
    (order : WorkingOrder) : Prop :=
  match message.massCancelRequestType with
  | .cancelAllOrders => True
  | .cancelOrdersForSecurity => order.symbol = message.symbol

namespace OrderEntry

open CancelAllOrders

/-- `OMS_CANCEL_ALL_ORDERS` -/
def omsCancelAllOrders : List Filter := [.account, .exchange, .symbol]

theorem mem_omsCancelAllOrders {field : Filter} :
    field ∈ omsCancelAllOrders ↔ field = .account ∨ field = .exchange ∨ field = .symbol := by
  simp [omsCancelAllOrders]

/-- `create_filter` sets the flags of the fields that are given. -/
def FlagsGiven (env : Env) : Prop :=
  ∀ (c : CancelAllOrders) field, field ∈ env.createFilter c ↔ c.Gives field

/-- Only fields that are advertised are given. -/
def Advertised (c : CancelAllOrders) : Prop := ∀ field, c.Gives field → field ∈ omsCancelAllOrders

/-- Working orders of the account on the exchange of the stream. -/
def Working (env : Env) (orders : Set WorkingOrder) : Prop :=
  ∀ order ∈ orders, order.account = env.account ∧ order.exchange = env.exchange

/-- The message selects the orders the request is about, whatever orders there are. -/
def SelectsMatching (env : Env) (c : CancelAllOrders) (message : Fix.OrderMassCancelRequest) :
    Prop :=
  ∀ orders, Working env orders →
    { order ∈ orders | message.Selects order } = { order ∈ orders | c.Matches order }

/-! ## The law -/

variable {D : Type} [Download2 D]

section

variable (env : Env) (ctx : Context) (o : OrderEntry D) (c : CancelAllOrders) (requestId : String)

/-- The message is sent for the request. -/
def Forwards (message : Fix.OrderMassCancelRequest) : Prop :=
  ∃ n queued, .sent n (.orderMassCancelRequest message) queued ∈
    (step env o (ctx, .cancelAllOrders c requestId)).2

/-- The request is refused: nothing is sent and no acknowledgement dispatched, and the stream
    stays as it is. -/
def Refuses : Prop :=
  step env o (ctx, .cancelAllOrders c requestId) =
    (some o, [.threw (.rejected .gateway .invalidFilter "filter")])

structure MassCancelIsRight : Prop where
  answers : (∃ message, Forwards env ctx o c requestId message) ∨ Refuses env ctx o c requestId
  /-- A message that is sent selects what was asked for. -/
  selects : ∀ message, Forwards env ctx o c requestId message → SelectsMatching env c message
  /-- What no message expresses is refused. -/
  refuses : (¬∃ message, SelectsMatching env c message) → Refuses env ctx o c requestId
  /-- What is advertised is not. -/
  advertised : Advertised c → ∃ message, Forwards env ctx o c requestId message

end

/-- An exchange comes with a symbol, and account and exchange are those of the stream. -/
structure Selectable (env : Env) (c : CancelAllOrders) : Prop where
  symbol : c.Gives .exchange → c.Gives .symbol
  account : c.Gives .account → c.account = env.account
  exchange : c.Gives .exchange → c.exchange = env.exchange

/-! ## The request type -/

variable {env : Env} {ctx : Context} {o : OrderEntry D} {c : CancelAllOrders} {requestId : String}

omit [Download2 D] in
theorem mem_filter_iff (hflags : FlagsGiven env) (field : Filter) :
    field ∈ (env.createFilter c).filter (· ≠ .account) ↔ c.Gives field ∧ field ≠ .account := by
  rw [List.mem_filter, hflags c field, decide_eq_true_eq]

omit [Download2 D] in
/-- Without any field but the account, all orders are cancelled. -/
theorem massCancelRequestType_all (hflags : FlagsGiven env)
    (h : ∀ field, c.Gives field → field = .account) :
    massCancelRequestType ((env.createFilter c).filter (· ≠ .account)) = .ok .cancelAllOrders := by
  have hnil : (env.createFilter c).filter (· ≠ .account) = [] := by
    rw [List.eq_nil_iff_forall_not_mem]
    intro field hmem
    obtain ⟨hgives, hne⟩ := (mem_filter_iff hflags field).mp hmem
    exact hne (h field hgives)
  rw [hnil]
  rfl

omit [Download2 D] in
/-- With a symbol, and fields that are advertised, those of the symbol. -/
theorem massCancelRequestType_symbol (hflags : FlagsGiven env) (hsymbol : c.Gives .symbol)
    (h : Advertised c) :
    massCancelRequestType ((env.createFilter c).filter (· ≠ .account)) =
      .ok .cancelOrdersForSecurity := by
  have hmem := (mem_filter_iff hflags .symbol).mpr ⟨hsymbol, by decide⟩
  have hall : ∀ field ∈ (env.createFilter c).filter (· ≠ .account),
      field = .exchange ∨ field = .symbol := by
    intro field hfield
    obtain ⟨hgives, hne⟩ := (mem_filter_iff hflags field).mp hfield
    exact (mem_omsCancelAllOrders.mp (h field hgives)).resolve_left hne
  unfold massCancelRequestType
  rw [if_neg, if_pos ⟨hmem, hall⟩]
  intro hnil
  rw [List.isEmpty_iff.mp hnil] at hmem
  exact List.not_mem_nil hmem

omit [Download2 D] in
/-- With anything else none are. -/
theorem massCancelRequestType_refused (hflags : FlagsGiven env) {field : Filter}
    (hgives : c.Gives field) (hne : field ≠ .account)
    (h : ¬(c.Gives .symbol ∧ Advertised c)) :
    massCancelRequestType ((env.createFilter c).filter (· ≠ .account)) =
      .error (.rejected .gateway .invalidFilter "filter") := by
  have hmem := (mem_filter_iff hflags field).mpr ⟨hgives, hne⟩
  unfold massCancelRequestType
  rw [if_neg, if_neg]
  · rintro ⟨hsymbol, hall⟩
    refine h ⟨((mem_filter_iff hflags .symbol).mp hsymbol).1, ?_⟩
    intro field hgives
    by_cases haccount : field = .account
    · subst haccount
      decide
    · rcases hall field ((mem_filter_iff hflags field).mpr ⟨hgives, haccount⟩) with rfl | rfl <;>
        decide
  · intro hnil
    rw [List.isEmpty_iff.mp hnil] at hmem
    exact List.not_mem_nil hmem

/-! ## What becomes of a request -/

/-- The message that is sent has the request's symbol. -/
theorem forwards_of_ok (hready : o.ready = true) {type : Fix.MassCancelRequestType}
    (htype : massCancelRequestType ((env.createFilter c).filter (· ≠ .account)) = .ok type)
    (message : Fix.OrderMassCancelRequest) :
    Forwards env ctx o c requestId message ↔ message = ⟨requestId, type, c.symbol⟩ := by
  simp only [Forwards, step, cancelAllOrders, hready, Bool.not_true, Bool.false_eq_true, if_false]
  rw [htype]
  simp [orThrow, goesOn, send, Except.map, Effect.andThen]

theorem refuses_of_error (hready : o.ready = true)
    (htype : massCancelRequestType ((env.createFilter c).filter (· ≠ .account)) =
      .error (.rejected .gateway .invalidFilter "filter")) :
    Refuses env ctx o c requestId := by
  simp only [Refuses, step, cancelAllOrders, hready, Bool.not_true, Bool.false_eq_true, if_false]
  rw [htype]
  rfl

/-- Nothing is sent for a request that is refused. -/
theorem not_forwards_of_refuses {message : Fix.OrderMassCancelRequest}
    (h : Refuses env ctx o c requestId) : ¬Forwards env ctx o c requestId message := by
  rintro ⟨n, queued, hsent⟩
  rw [h] at hsent
  simp at hsent

/-! ## What is selected -/

omit [Download2 D] in
/-- The message for a symbol selects what was asked for, and so does the one for all orders
    where no symbol was. -/
theorem selectsMatching {message : Fix.OrderMassCancelRequest} (h : Advertised c)
    (hselectable : Selectable env c)
    (hselects : ∀ order, message.Selects order ↔ (c.Gives .symbol → order.symbol = c.symbol)) :
    SelectsMatching env c message := by
  intro orders hworking
  ext order
  refine and_congr_right fun hmem => ?_
  obtain ⟨haccount, hexchange⟩ := hworking order hmem
  rw [hselects]
  constructor
  · intro hsymbol field hgives
    rcases mem_omsCancelAllOrders.mp (h field hgives) with rfl | rfl | rfl
    · exact haccount.trans (hselectable.account hgives).symm
    · exact hexchange.trans (hselectable.exchange hgives).symm
    · exact hsymbol hgives
  · intro hmatches hgives
    exact hmatches .symbol hgives

omit [Download2 D] in
/-- An order of the symbol is selected by either message, so the request cannot name another
    account or exchange. -/
theorem selectable_of_selectsMatching {message : Fix.OrderMassCancelRequest}
    (hsymbol : message.symbol = c.symbol) (h : SelectsMatching env c message) :
    (c.Gives .account → c.account = env.account) ∧
      (c.Gives .exchange → c.exchange = env.exchange) := by
  let order : WorkingOrder := ⟨env.account, 0, env.exchange, c.symbol, .undefined, 0⟩
  have hworking : Working env {order} := by
    rintro x rfl
    exact ⟨rfl, rfl⟩
  have hselected : message.Selects order := by
    unfold Fix.OrderMassCancelRequest.Selects
    split
    · trivial
    · exact hsymbol.symm
  have hmem : order ∈ { x ∈ ({order} : Set WorkingOrder) | c.Matches x } := by
    rw [← h {order} hworking]
    exact ⟨rfl, hselected⟩
  exact ⟨fun hgives => (hmem.2 .account hgives).symm, fun hgives => (hmem.2 .exchange hgives).symm⟩

/-! ## What is sent -/

/-- One message is sent for a request that is advertised and can be selected, and it selects
    what was asked for. -/
theorem forwards_of_selectable (hflags : FlagsGiven env) (hready : o.ready = true)
    (hadvertised : Advertised c) (hselectable : Selectable env c) :
    ∃ message, SelectsMatching env c message ∧
      ∀ message', Forwards env ctx o c requestId message' ↔ message' = message := by
  by_cases hsymbol : c.Gives .symbol
  · have htype := massCancelRequestType_symbol hflags hsymbol hadvertised
    refine ⟨_, selectsMatching hadvertised hselectable ?_, forwards_of_ok hready htype⟩
    exact fun order => ⟨fun hselected _ => hselected, fun hselected => hselected hsymbol⟩
  · have hall : ∀ field, c.Gives field → field = .account := by
      intro field hgives
      rcases mem_omsCancelAllOrders.mp (hadvertised field hgives) with rfl | rfl | rfl
      · rfl
      · exact absurd (hselectable.symbol hgives) hsymbol
      · exact absurd hgives hsymbol
    have htype := massCancelRequestType_all hflags hall
    refine ⟨_, selectsMatching hadvertised hselectable ?_, forwards_of_ok hready htype⟩
    exact fun order => iff_of_true trivial fun hgives => absurd hgives hsymbol

/-- What is sent for a request that is advertised only selects what was asked for if the
    request can be selected. -/
theorem selectable_of_forwards {message : Fix.OrderMassCancelRequest} (hflags : FlagsGiven env)
    (hready : o.ready = true) (hadvertised : Advertised c)
    (hsent : Forwards env ctx o c requestId message) (hselects : SelectsMatching env c message) :
    Selectable env c := by
  by_cases hsymbol : c.Gives .symbol
  · have htype := massCancelRequestType_symbol hflags hsymbol hadvertised
    obtain rfl := (forwards_of_ok hready htype message).mp hsent
    obtain ⟨haccount, hexchange⟩ := selectable_of_selectsMatching rfl hselects
    exact ⟨fun _ => hsymbol, haccount, hexchange⟩
  · by_cases hall : ∀ field, c.Gives field → field = .account
    · have htype := massCancelRequestType_all hflags hall
      obtain rfl := (forwards_of_ok hready htype message).mp hsent
      obtain ⟨haccount, hexchange⟩ := selectable_of_selectsMatching rfl hselects
      exact ⟨fun hgives => absurd (hall .exchange hgives) (by decide), haccount, hexchange⟩
    · -- an exchange alone: it is refused
      push Not at hall
      obtain ⟨field, hgives, hne⟩ := hall
      have htype := massCancelRequestType_refused hflags hgives hne fun h => hsymbol h.1
      exact absurd hsent (not_forwards_of_refuses (refuses_of_error hready htype))

theorem refuses_of_not_advertised (hflags : FlagsGiven env) (hready : o.ready = true)
    (h : ¬Advertised c) : Refuses env ctx o c requestId := by
  obtain ⟨field, hgives, hfield⟩ : ∃ field, c.Gives field ∧ field ∉ omsCancelAllOrders := by
    simpa [Advertised] using h
  have hne : field ≠ .account := by
    rintro rfl
    exact hfield (by decide)
  exact refuses_of_error hready
    (massCancelRequestType_refused hflags hgives hne fun hsymbol => h hsymbol.2)

/-- **Mass cancel.** A request is answered as it asks, in every state in which the stream is
    ready, exactly if it gives a field that is not advertised, or no exchange without a symbol
    and no account or exchange but those of the stream. -/
theorem mass_cancel_iff (hflags : FlagsGiven env) (hready : o.ready = true) :
    MassCancelIsRight env ctx o c requestId ↔ (Advertised c → Selectable env c) := by
  constructor
  · intro h hadvertised
    obtain ⟨message, hsent⟩ := h.advertised hadvertised
    exact selectable_of_forwards hflags hready hadvertised hsent (h.selects message hsent)
  · intro h
    by_cases hadvertised : Advertised c
    · obtain ⟨message, hselects, hsends⟩ : ∃ message, SelectsMatching env c message ∧
          ∀ message', Forwards env ctx o c requestId message' ↔ message' = message :=
        forwards_of_selectable hflags hready hadvertised (h hadvertised)
      have hsent := (hsends message).mpr rfl
      exact
        { answers := .inl ⟨message, hsent⟩
          selects := fun message' hsent' => (hsends message').mp hsent' ▸ hselects
          refuses := fun hnone => absurd ⟨message, hselects⟩ hnone
          advertised := fun _ => ⟨message, hsent⟩ }
    · have hrefuses : Refuses env ctx o c requestId :=
        refuses_of_not_advertised hflags hready hadvertised
      exact
        { answers := .inr hrefuses
          selects := fun message hsent => absurd hsent (not_forwards_of_refuses hrefuses)
          refuses := fun _ => hrefuses
          advertised := fun h => absurd h hadvertised }

omit [Download2 D] in
theorem plain_flagsGiven : FlagsGiven Env.plain := by
  intro c field
  cases field <;> simp [Env.plain, Gives]

/-- A stream that is ready. -/
def readyEntry : OrderEntry DownloadCounter := { initial with connectionStatus := .ready }

/-- All orders of a symbol on the exchange are cancelled. -/
theorem symbol_is_cancelled : MassCancelIsRight Env.plain .plain readyEntry
    ⟨"A1", 0, "deribit", "BTC-PERPETUAL", .undefined, 0⟩ "roq-1" :=
  (mass_cancel_iff plain_flagsGiven rfl).mpr fun _ =>
    ⟨fun _ => by simp [Gives], fun _ => rfl, fun _ => rfl⟩

/-- All orders on the exchange: advertised, and refused. -/
theorem exchange_is_refused : ¬MassCancelIsRight Env.plain .plain readyEntry
    ⟨"A1", 0, "deribit", "", .undefined, 0⟩ "roq-1" := by
  intro h
  have hadvertised : Advertised ⟨"A1", 0, "deribit", "", .undefined, 0⟩ := by
    intro field hgives
    cases field <;> simp_all [Gives, omsCancelAllOrders]
  obtain ⟨message, n, queued, hsent⟩ := h.advertised hadvertised
  revert hsent
  have hstep : step Env.plain readyEntry
      (.plain, .cancelAllOrders ⟨"A1", 0, "deribit", "", .undefined, 0⟩ "roq-1") =
      (some readyEntry, [.threw (.rejected .gateway .invalidFilter "filter")]) := rfl
  rw [hstep]
  simp

end OrderEntry

end DeribitGateway
