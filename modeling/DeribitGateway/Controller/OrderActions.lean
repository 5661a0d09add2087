import DeribitGateway.Controller.Controller
import DeribitGateway.Fix.RequestIds
import DeribitGateway.Lib.Parallel

/-!
# Order actions

`Controller` also has an order entry stream for each account, and takes the order actions of
clients to the stream of the account they name. The timer is for all of them. `Process` is the
controller together with these streams, which stand in it as components in their world.

What they share with each other and with the rest is the counter of request ids. A stream finds
it where the last stream has left it, and moves it on by one for each request it sends. So the
ids that one account sends depend on what the others do; nothing else does
(`accounts_do_not_interfere`).
-/

namespace DeribitGateway

open Transducer Parallel StagedDownload

/-- What the process calls an order entry stream for by itself. -/
def OrderEntry.Event.IsOwn : OrderEntry.Event → Prop
  | .connected => True
  | .disconnected => True
  | .message .. => True
  | _ => False

/-- The accounts of a configuration, with their keys. -/
structure Accounts where
  accounts : List (String × String)
  nodup : (accounts.map Prod.fst).Nodup

/-- The keys of `order_entry_`, in the order of the map. -/
def Accounts.names (accounts : Accounts) : List String := accounts.accounts.map Prod.fst

/-- The order entry streams by account, and the rest of the controller. -/
abbrev Process (Y R W C D E : Type) := (String → OrderEntry E) × Controller Y R W C D

namespace Process

variable {Y R W C D E : Type}

inductive Exception
  | runtimeError (what : String)
  | notSupported (what : String)
  deriving DecidableEq, Repr

structure Env where
  orderEntry : String → OrderEntry.Env
  controller : Controller.Env

/-- What each of the streams finds during a step. -/
structure Context (Y : Type) where
  orderEntry : String → OrderEntry.Context
  controller : Controller.Context Y

inductive Event
  | controller (event : Controller.Event)
  | timer (now : ℤ)
  /-- A client creates, modifies or cancels an order, or cancels all of them. -/
  | action (account : String) (event : {event : OrderEntry.Event // event.IsAction})
  | massQuote
  | cancelQuotes
  | orderEntry (account : String) (event : {event : OrderEntry.Event // event.IsOwn})

inductive Output
  | controller (value : Controller.Output)
  | orderEntry (account : String) (value : OrderEntry.Output)
  | threw (exception : Exception)
  deriving DecidableEq

variable [LimitRequest R] [Download WebSocket.State W] [Download DropCopy.State C]
  [Download MarketData.State D] [Download2 E]

def initial (symbols : Y) (accounts : Accounts) : Process Y R W C D E :=
  (fun _ => OrderEntry.initial, .initial symbols accounts.accounts)

/-- `get_order_entry` does not find a stream. -/
def unknownAccount (account : String) : Exception :=
  .runtimeError ("Unknown account=\"" ++ account ++ "\"")

def notSupported : Exception := .notSupported "not supported"

/-- A stream has drawn `n` request ids. -/
def draw (n : ℕ) (c : Controller Y R W C D) : Controller Y R W C D :=
  { c with shared := (fun shared => shared.nextRequestId.1)^[n] c.shared }

/-- A call of an order entry stream. It goes on from the last request id of all streams, and draws
    one for each request it sends. -/
def callStream (env : OrderEntry.Env) : Step (OrderEntry E × Controller Y R W C D)
    (OrderEntry.Context × OrderEntry.Event) OrderEntry.Output := fun (o, c) (ctx, event) =>
  let (o', os) := OrderEntry.step env o ({ ctx with requestId := c.shared.requestId }, event)
  (o'.map (·, draw (os.filterMap OrderEntry.Output.requestId?).length c), os)

/-- The order entry streams. -/
def streams (env : Env) : String → Step (OrderEntry E × Controller Y R W C D)
    (OrderEntry.Context × OrderEntry.Event) OrderEntry.Output :=
  fun account => callStream (env.orderEntry account)

/-- Calls of order entry streams, as the process sees them. -/
def ofStreams (r : Option (Process Y R W C D E) × List (String × OrderEntry.Output)) :
    Option (Process Y R W C D E) × List Output :=
  (r.1, r.2.map fun (account, value) => .orderEntry account value)

variable [Symbols Y] (env : Env) (accounts : Accounts)

def step : Step (Process Y R W C D E) (Context Y × Event) Output := fun p (ctx, event) =>
  match event with
  | .controller event =>
    let (c, os) := Controller.step env.controller p.2 (ctx.controller, event)
    (c.map (p.1, ·), os.map .controller)
  -- `dispatch`: one stream after the other
  | .timer now => ofStreams (run (call (streams env)) p
      (accounts.names.map fun account => (account, ctx.orderEntry account, .timer now)))
  | .action account event =>
    if account ∈ accounts.names then
      ofStreams (call (streams env) p (account, ctx.orderEntry account, event.1))
    else (some p, [.threw (unknownAccount account)])
  | .massQuote => (some p, [.threw notSupported])
  | .cancelQuotes => (some p, [.threw notSupported])
  | .orderEntry account event =>
    if account ∈ accounts.names then
      ofStreams (call (streams env) p (account, ctx.orderEntry account, event.1))
    else (some p, [])

/-! ## Each stream by itself -/

/-- A call for a component, or for the controller, which is their world. -/
abbrev Call (Y : Type) :=
  Input String (OrderEntry.Context × OrderEntry.Event) (Controller.Context Y × Controller.Event)

/-- What a call is for the streams and the controller. -/
def input : Context Y × Event → Option (Call Y)
  | (ctx, .controller event) => some (.world (ctx.controller, event))
  | (ctx, .timer now) => some (.all fun account => (ctx.orderEntry account, .timer now))
  | (ctx, .action account event) =>
    if account ∈ accounts.names then some (.one account (ctx.orderEntry account, event.1)) else none
  | (_, .massQuote) => none
  | (_, .cancelQuotes) => none
  | (ctx, .orderEntry account event) =>
    if account ∈ accounts.names then some (.one account (ctx.orderEntry account, event.1)) else none

/-- What a call is for the stream of an account. -/
def view (account : String) : Context Y × Event → Option (OrderEntry.Context × OrderEntry.Event)
  | (_, .controller _) => none
  | (ctx, .timer now) => some (ctx.orderEntry account, .timer now)
  | (ctx, .action account' event) =>
    if account' = account then some (ctx.orderEntry account, event.1) else none
  | (_, .massQuote) => none
  | (_, .cancelQuotes) => none
  | (ctx, .orderEntry account' event) =>
    if account' = account then some (ctx.orderEntry account, event.1) else none

/-- What a client is told of an action that no stream takes. -/
def refusal : Context Y × Event → Option Exception
  | (_, .controller _) => none
  | (_, .timer _) => none
  | (_, .action account _) =>
    if account ∈ accounts.names then none else some (unknownAccount account)
  | (_, .massQuote) => some notSupported
  | (_, .cancelQuotes) => some notSupported
  | (_, .orderEntry ..) => none

/-- What comes from the stream of an account. -/
def Output.of (account : String) : Output → Option OrderEntry.Output
  | .orderEntry account' value => if account' = account then some value else none
  | .controller _ | .threw _ => none

def Output.exception : Output → Option Exception
  | .threw exception => some exception
  | .controller _ | .orderEntry .. => none

/-- What the streams and the controller put out. -/
def Output.ofParallel : (String × OrderEntry.Output) ⊕ Controller.Output → Output
  | .inl (account, value) => .orderEntry account value
  | .inr value => .controller value

theorem ofParallel_outputs (os : List ((String × OrderEntry.Output) ⊕ Controller.Output))
    (account : String) :
    (os.map Output.ofParallel).filterMap (Output.of account) = os.filterMap (from? account) ∧
      (os.map Output.ofParallel).filterMap Output.exception = [] := by
  rw [List.filterMap_map, List.filterMap_map]
  refine ⟨List.filterMap_congr ?_, List.filterMap_eq_nil_iff.mpr ?_⟩
  · rintro (⟨account', value⟩ | value) -
    · rfl
    · rfl
  · rintro (⟨account', value⟩ | value) -
    · rfl
    · rfl

/-- The streams and the controller together. -/
abbrev together : Step (Process Y R W C D E) (Call Y)
    ((String × OrderEntry.Output) ⊕ Controller.Output) :=
  parallel (streams env) (Controller.step env.controller) accounts.names

/-- A call that is for the streams or for the controller. -/
theorem step_input {i : Context Y × Event} {j : Call Y} (h : input accounts i = some j)
    (p : Process Y R W C D E) : step env accounts p i =
      ((together env accounts p j).1, (together env accounts p j).2.map Output.ofParallel) := by
  obtain ⟨ctx, event⟩ := i
  cases event with
  | controller event =>
    obtain rfl := Option.some.inj h
    simp only [step, parallel, List.map_map]
    rfl
  | timer now =>
    obtain rfl := Option.some.inj h
    simp only [step, ofStreams, parallel, List.map_map]
    rfl
  | action account event =>
    simp only [input] at h
    split_ifs at h with hmem
    obtain rfl := Option.some.inj h
    simp only [step, if_pos hmem, ofStreams, parallel, List.map_map]
    rfl
  | massQuote => cases h
  | cancelQuotes => cases h
  | orderEntry account event =>
    simp only [input] at h
    split_ifs at h with hmem
    obtain rfl := Option.some.inj h
    simp only [step, if_pos hmem, ofStreams, parallel, List.map_map]
    rfl

/-- A call that is for neither. -/
theorem step_refusal {i : Context Y × Event} (h : input accounts i = none)
    (p : Process Y R W C D E) :
    step env accounts p i = (some p, ((refusal accounts i).map .threw).toList) := by
  obtain ⟨ctx, event⟩ := i
  cases event with
  | controller event => cases h
  | timer now => cases h
  | action account event =>
    simp only [input] at h
    split_ifs at h with hmem
    simp only [step, refusal, if_neg hmem]
    rfl
  | massQuote => rfl
  | cancelQuotes => rfl
  | orderEntry account event =>
    simp only [input] at h
    split_ifs at h with hmem
    simp only [step, refusal, if_neg hmem]
    rfl

omit [LimitRequest R] [Download WebSocket.State W] [Download DropCopy.State C]
  [Download MarketData.State D] [Download2 E] [Symbols Y] in
/-- What is taken is not refused. -/
theorem refusal_of_input {i : Context Y × Event} {j : Call Y} (h : input accounts i = some j) :
    refusal accounts i = none := by
  obtain ⟨ctx, event⟩ := i
  cases event with
  | action account event =>
    simp only [input] at h
    split_ifs at h with hmem
    exact if_pos hmem
  | massQuote => cases h
  | cancelQuotes => cases h
  | _ => rfl

/-- The process runs on what is for the streams and the controller, and refuses the rest. -/
theorem run_input {p q : Process Y R W C D E} {is : List (Context Y × Event)}
    (h : (run (step env accounts) p is).1 = some q) :
    (run (together env accounts) p (is.filterMap (input accounts))).1 = some q ∧
      (∀ account, (run (step env accounts) p is).2.filterMap (Output.of account) =
        (run (together env accounts) p (is.filterMap (input accounts))).2.filterMap
          (from? account)) ∧
      (run (step env accounts) p is).2.filterMap Output.exception =
        is.filterMap (refusal accounts) := by
  induction is generalizing p with
  | nil => exact ⟨h, fun _ => rfl, rfl⟩
  | cons i is ih =>
    cases hinput : input accounts i with
    | none =>
      have hstep := step_refusal env accounts hinput p
      have hnext : (step env accounts p i).1 = some p := by rw [hstep]
      rw [run_cons_some is hnext] at h ⊢
      obtain ⟨hlast, hstreams, hrefused⟩ := ih h
      rw [List.filterMap_cons_none hinput]
      refine ⟨hlast, ?_, ?_⟩
      · intro account
        rw [List.filterMap_append, hstreams account, hstep]
        cases refusal accounts i <;> rfl
      · rw [List.filterMap_append, hrefused, hstep]
        cases hrefusal : refusal accounts i with
        | none => rw [List.filterMap_cons_none hrefusal]; rfl
        | some exception => rw [List.filterMap_cons_some hrefusal]; rfl
    | some j =>
      have hstep := step_input env accounts hinput p
      cases hs : (step env accounts p i).1 with
      | none =>
        rw [run_cons_none is hs] at h
        cases h
      | some u =>
        have hj : (together env accounts p j).1 = some u := by
          rw [hstep] at hs
          exact hs
        rw [run_cons_some is hs] at h ⊢
        obtain ⟨hlast, hstreams, hrefused⟩ := ih h
        rw [List.filterMap_cons_some hinput, run_cons_some _ hj,
          List.filterMap_cons_none (refusal_of_input accounts hinput)]
        refine ⟨hlast, ?_, ?_⟩
        · intro account
          rw [List.filterMap_append, List.filterMap_append, hstreams account, hstep,
            (ofParallel_outputs _ account).1]
        · rw [List.filterMap_append, hrefused, hstep, (ofParallel_outputs _ "").2,
            List.nil_append]

omit [LimitRequest R] [Download WebSocket.State W] [Download DropCopy.State C]
  [Download MarketData.State D] [Download2 E] [Symbols Y] in
theorem filterMap_view {account : String} (hmem : account ∈ accounts.names)
    (is : List (Context Y × Event)) :
    (is.filterMap (input accounts)).filterMap (Input.view account) =
      is.filterMap (view account) := by
  rw [List.filterMap_filterMap]
  refine List.filterMap_congr fun i _ => ?_
  obtain ⟨ctx, event⟩ := i
  cases event with
  | controller event => rfl
  | timer now => rfl
  | massQuote => rfl
  | cancelQuotes => rfl
  | action account' event =>
    by_cases heq : account' = account
    · subst heq
      simp [input, view, Input.view, hmem]
    · by_cases hmem' : account' ∈ accounts.names
      · simp [input, view, Input.view, hmem', heq]
      · simp [input, view, hmem', heq]
  | orderEntry account' event =>
    by_cases heq : account' = account
    · subst heq
      simp [input, view, Input.view, hmem]
    · by_cases hmem' : account' ∈ accounts.names
      · simp [input, view, Input.view, hmem', heq]
      · simp [input, view, hmem', heq]

omit [LimitRequest R] [Download WebSocket.State W] [Download DropCopy.State C]
  [Download MarketData.State D] [Symbols Y] in
/-- But for its request ids, a stream does in the process what it does by itself. -/
theorem streams_isolated : Isolated OrderEntry.Output.withoutId
    (fun account => OrderEntry.step (env.orderEntry account))
    (streams env : String → Step (OrderEntry E × Controller Y R W C D) _ _) := by
  rintro account o c ⟨ctx, event⟩
  obtain ⟨hstate, hout⟩ :=
    OrderEntry.step_blind (env.orderEntry account) ctx o c.shared.requestId event
  refine ⟨?_, hout⟩
  rw [← hstate]
  simp [streams, callStream, Function.comp_def]

/-- **Accounts do not interfere.** In every run of the process, the stream of an account does what
    it does by itself, with the actions that name the account, what its own connection brings and
    the timer: it gets into the same state, and puts out the same, but for the ids of its requests
    for positions and orders. What no stream takes is refused, and nothing else is. -/
theorem accounts_do_not_interfere (symbols : Y) (is : List (Context Y × Event))
    (hgoes : (run (step env accounts)
      (initial symbols accounts : Process Y R W C D E) is).1.isSome = true) :
    (∀ account ∈ accounts.names,
      (run (OrderEntry.step (env.orderEntry account)) (OrderEntry.initial : OrderEntry E)
          (is.filterMap (view account))).1 =
        (run (step env accounts) (initial symbols accounts : Process Y R W C D E) is).1.map
          (·.1 account) ∧
      (run (OrderEntry.step (env.orderEntry account)) (OrderEntry.initial : OrderEntry E)
          (is.filterMap (view account))).2.map OrderEntry.Output.withoutId =
        ((run (step env accounts) (initial symbols accounts : Process Y R W C D E) is).2.filterMap
          (Output.of account)).map OrderEntry.Output.withoutId) ∧
    (run (step env accounts) (initial symbols accounts : Process Y R W C D E) is).2.filterMap
        Output.exception =
      is.filterMap (refusal accounts) := by
  obtain ⟨q, h⟩ := Option.isSome_iff_exists.mp hgoes
  obtain ⟨hlast, hstreams, hrefused⟩ := run_input env accounts h
  refine ⟨?_, hrefused⟩
  intro account hmem
  obtain ⟨hstate, hout⟩ := run_component (streams_isolated env) accounts.nodup hmem hlast
  rw [filterMap_view accounts hmem] at hstate hout
  rw [h, hstreams account]
  exact ⟨hstate, hout⟩

/-- Two accounts. -/
def twoAccounts : Accounts := ⟨[("A1", "key1"), ("A2", "key2")], by decide⟩

/-- The default settings. -/
def Env.plain : Env := ⟨fun _ => .plain, .plain⟩

/-- Connections that take every message, and nothing throws. -/
def Context.plain : Context SymbolTable := ⟨fun _ => .plain, .plain⟩

/-- A process of two accounts. -/
abbrev plain : Process SymbolTable RequestProgress (Counter WebSocket.State)
    (Counter DropCopy.State) (Counter MarketData.State) DownloadCounter :=
  initial ⟨0, []⟩ twoAccounts

/-- The first account logs on, and asks for its positions; the master asks for the securities; the
    first account asks for its orders, and is ready. -/
def logOns : List (Context SymbolTable × Event) :=
  [.orderEntry "A1" ⟨.connected, trivial⟩, .timer 2,
    .orderEntry "A1" ⟨.message ⟨1, 1⟩ .logon, trivial⟩,
    .controller (.marketData 0 ⟨.connected, trivial⟩),
    .controller (.marketData 0 ⟨.message ⟨1, 1⟩ .logon, trivial⟩),
    .orderEntry "A1" ⟨.message ⟨2, 1⟩ (.positionReport []), trivial⟩,
    .orderEntry "A1" ⟨.message ⟨3, 1⟩
      (.executionReport (OrderEntry.downloadHeader 0)), trivial⟩].map fun event =>
    (.plain, event)

/-- An order for each of three accounts. -/
def threeOrders : List (Context SymbolTable × Event) :=
  logOns ++ [.action "A1" ⟨.cancelOrder OrderEntry.plainOrder "x", trivial⟩,
    .action "A2" ⟨.cancelOrder OrderEntry.plainOrder "y", trivial⟩,
    .action "A3" ⟨.cancelOrder OrderEntry.plainOrder "z", trivial⟩].map fun event =>
      (.plain, event)

/-- The second account is not ready, and the third one is unknown. -/
theorem three_orders_do_not_interfere :
    ((run (step .plain twoAccounts) plain threeOrders).2.filterMap (Output.of "A2")).map
        OrderEntry.Output.withoutId = [.threw (.notReady "not ready")] ∧
      (run (step .plain twoAccounts) plain threeOrders).2.filterMap Output.exception =
        [unknownAccount "A3"] := by
  obtain ⟨hstreams, hrefused⟩ := accounts_do_not_interfere (R := RequestProgress)
    (W := Counter WebSocket.State) (C := Counter DropCopy.State) (D := Counter MarketData.State)
    (E := DownloadCounter) .plain twoAccounts (⟨0, []⟩ : SymbolTable) threeOrders
    (by decide +kernel)
  refine ⟨?_, hrefused.trans (by decide +kernel)⟩
  exact (hstreams "A2" (by decide)).2.symm.trans (by decide +kernel)

end Process

end DeribitGateway
