import DeribitGateway.Fix.MarketData
import DeribitGateway.Json.DropCopy
import DeribitGateway.Json.Rest
import DeribitGateway.Json.WebSocket

/-!
# The controller

`Controller` owns the streams and what they share. It takes what one stream has found out to
the others: new currencies and the latch to the drop copies, and new symbols to the market
data and web socket streams, of which it creates as many as there are slices.

A step is one call of one component by the process, or a subscription of a client. A handler
tells the controller by returning from it an output, and the controller acts on the outputs in
order, when the handler has returned (`deliver`). That is what the source does, except that
there the controller acts while the handler is still running: what is delivered this way is
either the last thing the handler does, or changes nothing that the handler looks at. A list
of securities is not, and has a definition of its own (`securityList`).

The order entry streams take no part in this; `Process` has them next to the controller. The
multicast streams neither take part nor share what it changes.
-/

namespace DeribitGateway

structure Controller (Y R W C D : Type) where
  /-- `stream_id_` -/
  streamId : UInt16
  shared : SharedState Y
  requests : Requests R
  rest : Rest
  dropCopy : List (DropCopy C)
  webSocket : List (WebSocket W)
  marketData : List (MarketData D)

/-- What the process calls a stream for by itself. -/
def DropCopy.Event.IsOwn : DropCopy.Event → Prop
  | .currenciesUpdate _ => False
  | .latch => False
  | _ => True

def WebSocket.Event.IsOwn : WebSocket.Event → Prop
  | .subscribe _ => False
  | _ => True

def MarketData.Event.IsOwn : MarketData.Event → Prop
  | .subscribe _ => False
  | _ => True

namespace Controller

open Emission StagedDownload

structure Env where
  rest : Rest.Env
  dropCopy : DropCopy.Env
  webSocket : WebSocket.Env
  marketData : MarketData.Env

/-- What each of the streams finds during a step. -/
structure Context (Y : Type) where
  rest : Rest.Context
  dropCopy : ℕ → DropCopy.Context
  webSocket : ℕ → WebSocket.Context
  marketData : ℕ → MarketData.Context Y

inductive Event
  /-- A client subscribes. -/
  | subscribe (symbols : List String)
  | rest (event : Rest.Event)
  | dropCopy (k : ℕ) (event : {event : DropCopy.Event // event.IsOwn})
  | webSocket (k : ℕ) (event : {event : WebSocket.Event // event.IsOwn})
  | marketData (k : ℕ) (event : {event : MarketData.Event // event.IsOwn})

inductive Output
  | currenciesUpdate (currencies : List String)
  | symbolsUpdate (symbols : List String)
  | latch
  | rest (value : Rest.Output)
  | dropCopy (k : ℕ) (value : DropCopy.Output)
  | webSocket (k : ℕ) (value : WebSocket.Output)
  | marketData (k : ℕ) (value : MarketData.Output)
  deriving DecidableEq

variable {Y R W C D : Type}

abbrev Handler (Y R W C D : Type) := Emission.Handler (Controller Y R W C D) Output

/-- The constructor, for the names and keys of the accounts: each has an order entry stream,
    too, and the multicast streams come last. -/
def initial [LimitRequest R] [Download WebSocket.State W] [Download DropCopy.State C]
    [Download MarketData.State D] (symbols : Y) (accounts : List (String × String)) :
    Controller Y R W C D :=
  let n := accounts.length
  { streamId := .ofNat (2 * n + 5)
    shared := .initial symbols
    requests := ⟨LimitRequest.fresh, LimitRequest.fresh⟩
    rest := .initial 1
    dropCopy := accounts.mapIdx fun k (name, key) => .initial (.ofNat (n + 2 + k)) name key
    webSocket := [.initial (.ofNat (2 * n + 2)) 0 true]
    marketData := [.initial (.ofNat (2 * n + 3)) 0 true] }

/-! ## Streams -/

/-- What a handler of a drop copy leaves behind. -/
def putDropCopy (k : ℕ) (o : DropCopy C) (c : Controller Y R W C D) : Controller Y R W C D :=
  { c with dropCopy := c.dropCopy.set k o }

/-- What a handler of a web socket stream leaves behind. -/
def putWebSocket (k : ℕ) (s : WebSocket.Scope W Y R) (c : Controller Y R W C D) :
    Controller Y R W C D :=
  { c with
    webSocket := c.webSocket.set k s.stream
    shared := s.shared
    requests := s.requests }

/-- What a handler of a market data stream leaves behind. -/
def putMarketData (k : ℕ) (s : MarketData D × SharedState Y) (c : Controller Y R W C D) :
    Controller Y R W C D :=
  { c with
    marketData := c.marketData.set k s.1
    shared := s.2 }

/-- What a handler of the REST client leaves behind. -/
def putRest (s : Rest.Scope Y R) (c : Controller Y R W C D) : Controller Y R W C D :=
  { c with
    rest := s.stream
    shared := s.shared
    requests := s.requests }

/-- The multipliers are shared. -/
def dropCopyContext (ctx : Context Y) (k : ℕ) (c : Controller Y R W C D) : DropCopy.Context :=
  { ctx.dropCopy k with multiplier := c.shared.multiplier }

/-- Drop copy `k` runs a handler. -/
def onDropCopy (ctx : Context Y) (k : ℕ) (f : DropCopy.Context → DropCopy.Handler C) :
    Handler Y R W C D := fun c =>
  match c.dropCopy[k]? with
  | none => skip c
  | some o =>
    let r := f (c.dropCopyContext ctx k) o
    (c.putDropCopy k r.1, r.2.map (.dropCopy k))

/-- Web socket stream `k` runs a handler that tells the controller nothing. -/
def onWebSocket (k : ℕ) (f : WebSocket.Handler W Y R) : Handler Y R W C D := fun c =>
  match c.webSocket[k]? with
  | none => skip c
  | some o =>
    let r := f ⟨o, c.shared, c.requests⟩
    (c.putWebSocket k r.1, r.2.map (.webSocket k))

/-- Market data stream `k` runs a handler. -/
def onMarketData (k : ℕ) (f : MarketData.Handler D Y) : Handler Y R W C D := fun c =>
  match c.marketData[k]? with
  | none => skip c
  | some o =>
    let r := f (o, c.shared)
    (c.putMarketData k r.1, r.2.map (.marketData k))

variable (env : Env) (ctx : Context Y)

/-! ## What the controller is told -/

/-- `operator()(Trace<CurrenciesUpdate>)` -/
def currenciesUpdate (currencies : List String) : Handler Y R W C D :=
  seq (emit [.currenciesUpdate currencies]) fun c =>
    each (fun k => onDropCopy ctx k fun ctx =>
      DropCopy.currenciesUpdate env.dropCopy ctx currencies) (List.range c.dropCopy.length) c

/-- `operator()(Trace<Latch>)` -/
def latch : Handler Y R W C D :=
  seq (emit [.latch]) fun c =>
    each (fun k => onDropCopy ctx k fun ctx => DropCopy.latch env.dropCopy ctx)
      (List.range c.dropCopy.length) c

/-- A market data stream is created, for the slice behind the last one. -/
def createMarketData [Download MarketData.State D] (c : Controller Y R W C D) :
    Controller Y R W C D :=
  { c with
    streamId := c.streamId + 1
    marketData := c.marketData ++ [.initial (c.streamId + 1) c.marketData.length false] }

/-- A web socket stream is created, for the slice behind the last one. -/
def createWebSocket [Download WebSocket.State W] (c : Controller Y R W C D) :
    Controller Y R W C D :=
  { c with
    streamId := c.streamId + 1
    webSocket := c.webSocket ++ [.initial (c.streamId + 1) c.webSocket.length false] }

/-- `ensure_symbol_slices` -/
def ensureSymbolSlices [Download WebSocket.State W] [Download MarketData.State D] (size : ℕ)
    (c : Controller Y R W C D) : Controller Y R W C D :=
  let c := createMarketData^[size - c.marketData.length] c
  createWebSocket^[size - c.webSocket.length] c

section

variable [Symbols Y]

/-- All market data streams subscribe. -/
def subscribeMarketData (startFrom : ℕ) : Handler Y R W C D := fun c =>
  each (fun k => onMarketData k
    (MarketData.subscribe env.marketData (ctx.marketData k) startFrom))
    (List.range c.marketData.length) c

/-- All web socket streams subscribe. -/
def subscribeWebSocket (startFrom : ℕ) : Handler Y R W C D := fun c =>
  each (fun k => onWebSocket k (WebSocket.subscribe env.webSocket startFrom))
    (List.range c.webSocket.length) c

variable [Download WebSocket.State W] [Download MarketData.State D]

/-- `operator()(Trace<SymbolsUpdate>)` -/
def symbolsUpdate (symbols : List String) : Handler Y R W C D :=
  seq (emit [.symbolsUpdate symbols]) fun c =>
    let (table, size, startFrom) := Symbols.append c.shared.symbols symbols
    -- each slice has its stream before any stream subscribes
    seq (modify (ensureSymbolSlices size))
      (seq (subscribeMarketData env ctx startFrom) (subscribeWebSocket env startFrom))
      { c with shared := { c.shared with symbols := table } }

/-- `all_symbols.emplace` for each symbol of a list, and the symbols that are new. -/
def emplaceSymbols : List String → SharedState Y → SharedState Y × List String
  | [], shared => (shared, [])
  | item :: items, shared =>
    let (shared, new) := shared.emplaceSymbol item
    let (shared, symbols) := emplaceSymbols items shared
    (shared, new ++ symbols)

/-- `operator()(Event<Subscribe>)`, also if no symbol is new. -/
def subscribe (symbols : List String) : Handler Y R W C D := fun c =>
  let (shared, new) := emplaceSymbols symbols c.shared
  symbolsUpdate env ctx new { c with shared }

/-! ## Calls of the streams -/

/-- What the REST client tells the controller is dealt with, and the rest is put out. -/
def deliverRest : Rest.Output → Handler Y R W C D
  | .currenciesUpdate currencies => currenciesUpdate env ctx currencies
  | .symbolsUpdate symbols => symbolsUpdate env ctx symbols
  | value => emit [.rest value]

/-- What a web socket stream tells the controller is dealt with, and the rest is put out. -/
def deliverWebSocket (k : ℕ) : WebSocket.Output → Handler Y R W C D
  | .latch => latch env ctx
  | value => emit [.webSocket k value]

variable [LimitRequest R] [Download DropCopy.State C]

def callRest (event : Rest.Event) (c : Controller Y R W C D) :
    Option (Controller Y R W C D × List Output) :=
  (Rest.call env.rest ctx.rest event ⟨c.rest, c.shared, c.requests⟩).map fun (s, os) =>
    each (deliverRest env ctx) os (c.putRest s)

def callDropCopy (k : ℕ) (event : DropCopy.Event) (c : Controller Y R W C D) :
    Option (Controller Y R W C D × List Output) :=
  match c.dropCopy[k]? with
  | none => some (skip c)
  | some o =>
    (DropCopy.call env.dropCopy (c.dropCopyContext ctx k) event o).map fun (o, os) =>
      (c.putDropCopy k o, os.map (.dropCopy k))

def callWebSocket (k : ℕ) (event : WebSocket.Event) (c : Controller Y R W C D) :
    Option (Controller Y R W C D × List Output) :=
  match c.webSocket[k]? with
  | none => some (skip c)
  | some o =>
    (WebSocket.call env.webSocket (ctx.webSocket k) event ⟨o, c.shared, c.requests⟩).map
      fun (s, os) => each (deliverWebSocket env ctx k) os (c.putWebSocket k s)

/-- A list of securities for stream `k`: the loop, then what the controller makes of the new
    symbols, and then the download of the stream. -/
def securityList (k : ℕ) (o : MarketData D) (noRelatedSym : List Fix.Instrument)
    (c : Controller Y R W C D) : Option (Controller Y R W C D × List Output) :=
  (MarketData.securities env.marketData (ctx.marketData k) o.streamId 0 noRelatedSym
    c.shared).map fun (shared, reports, symbols) =>
      seq (emit (reports.map (.marketData k)))
        (seq (if symbols.isEmpty then skip else symbolsUpdate env ctx symbols)
          (onMarketData k (MarketData.checkSecurities env.marketData (ctx.marketData k))))
        (c.putMarketData k (o, shared))

def callMarketData (k : ℕ) (event : MarketData.Event) (c : Controller Y R W C D) :
    Option (Controller Y R W C D × List Output) :=
  match c.marketData[k]? with
  | none => some (skip c)
  | some o =>
    match event with
    -- the controller acts in the middle of this one
    | .message header (.securityList noRelatedSym) =>
      securityList env ctx k (MarketData.check header o) noRelatedSym c
    | event =>
      (MarketData.call env.marketData (ctx.marketData k) event (o, c.shared)).map
        fun (s, os) => (c.putMarketData k s, os.map (.marketData k))

/-- One call by the process. `none`: the process has ended. -/
def call (event : Event) (c : Controller Y R W C D) :
    Option (Controller Y R W C D × List Output) :=
  match event with
  | .subscribe symbols => some (subscribe env ctx symbols c)
  | .rest event => callRest env ctx event c
  | .dropCopy k event => callDropCopy env ctx k event.1 c
  | .webSocket k event => callWebSocket env ctx k event.1 c
  | .marketData k event => callMarketData env ctx k event.1 c

def step (env : Env) :
    Transducer.Step (Controller Y R W C D) (Context Y × Event) Output :=
  fun c (ctx, event) =>
    match call env ctx event c with
    | some r => (some r.1, r.2)
    | none => (none, [])

/-- The process ends without another output, or the call returns. -/
theorem step_cases (env : Env) (c : Controller Y R W C D) (ctx : Context Y) (event : Event) :
    step env c (ctx, event) = (none, []) ∨
    ∃ r, call env ctx event c = some r ∧ step env c (ctx, event) = (some r.1, r.2) := by
  simp only [step]
  cases call env ctx event c with
  | none => exact .inl rfl
  | some r => exact .inr ⟨r, rfl, rfl⟩

end

/-! ## A gateway -/

/-- The default settings, with the instruments of the REST client. -/
def Env.plain : Env where
  rest := .plain
  dropCopy := .plain
  webSocket := .plain
  marketData := { MarketData.Env.plain with useFixReferenceData := false }

/-- Connections that take every message, and nothing throws. -/
def Context.plain : Context SymbolTable where
  rest := .plain
  dropCopy _ := .plain
  webSocket _ := .plain
  marketData _ := .plain

/-- A gateway of one account, whose slices hold one symbol each. -/
abbrev plain : Controller SymbolTable RequestProgress (Counter WebSocket.State)
    (Counter DropCopy.State) (Counter MarketData.State) :=
  initial ⟨0, []⟩ [("a", "key")]

end Controller

end DeribitGateway
