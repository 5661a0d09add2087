import DeribitGateway.Json.DropCopy
import DeribitGateway.Json.WebSocket
import DeribitGateway.Lib.Decimal
import DeribitGateway.Lib.StringView

/-!
# Channels

The streams ask for channels by name, and the parser reads the name of the channel a
notification is for. `Subscription` are the channels that are asked for, with their names as
the streams format them; `parseChannel` is what the parser makes of a name. `parse_name_iff`
says when a channel is read back as it has been asked for.

The enumeration of the channels is generated from a schema and enters as a function of the
name; `ChannelNames` says that it knows the names of the schema.
-/

namespace DeribitGateway

open StringView

namespace Json

/-- `json::Channel` -/
inductive Channel
  | undefinedInternal
  | unknownInternal
  | changes
  | instrumentState
  | platformState
  | portfolio
  | quote
  | ticker
  | chartTrades
  | orders
  | trades
  deriving DecidableEq, Repr

/-- The names of the schema. -/
def Channel.name : Channel → String
  | undefinedInternal => ""
  | unknownInternal => ""
  | changes => "changes"
  | instrumentState => "instrument_state"
  | platformState => "platform_state"
  | portfolio => "portfolio"
  | quote => "quote"
  | ticker => "ticker"
  | chartTrades => "chart_trades"
  | orders => "orders"
  | trades => "trades"

/-- The generated enumeration maps the names of the schema, and no other name. -/
structure ChannelNames (channelOf : List Char → Channel) : Prop where
  of_name : ∀ channel : Channel, channel.name ≠ "" → channelOf channel.name.toList = channel
  of_other : ∀ token, token ≠ [] → (∀ channel : Channel, token ≠ channel.name.toList) →
    channelOf token = .unknownInternal

/-! ## The parser's side -/

/-- What is between the first two dots, the first of which is at `delim`. -/
def secondToken (name : List Char) (delim : ℕ) : List Char :=
  substr name (delim + 1) ((findFirstOf name '.' (delim + 1)).map (· - (delim + 1)))

def getToken (name : List Char) : List Char :=
  let part := substr name 0 (findFirstOf name '.' 0)
  match findFirstOf name '.' 0 with
  | none => part
  | some delim =>
    if part = "user".toList then secondToken name delim
    else if part = "instrument".toList then
      if secondToken name delim = "state".toList then "instrument_state".toList else []
    else if part = "chart".toList then
      if secondToken name delim = "trades".toList then "chart_trades".toList else []
    else part

example : getToken "ticker.123".toList = "ticker".toList := by decide +kernel
example : getToken "instrument.state.123".toList = "instrument_state".toList := by decide +kernel

/-- What is between the second and the third dot, if there are three. -/
def thirdToken (name : List Char) : List Char :=
  match findFirstOf name '.' 0 with
  | none => []
  | some d1 =>
    match findFirstOf name '.' (d1 + 1) with
    | none => []
    | some d2 =>
      match findFirstOf name '.' (d2 + 1) with
      | none => []
      -- what is behind the third dot is cut out and not used
      | some d3 => substr name (d2 + 1) (some (d3 - d2 - 1))

/-- The channel, the symbol and the interval. -/
def parseChannel (channelOf : List Char → Channel) (name : List Char) :
    Channel × List Char × UInt32 :=
  let token := getToken name
  if token = [] then (.unknownInternal, [], 0)
  else if channelOf token = .chartTrades then (.chartTrades, thirdToken name, 0)
  else (channelOf token, [], 0)

/-! ## The streams' side -/

/-- What the streams subscribe to. -/
inductive Subscription
  | platformState
  | instrumentState
  | quote (symbol : String)
  | ticker (symbol interval : String)
  | chartTrades (symbol : String) (interval : UInt32)
  | portfolio (currency : String)
  | changes
  | orders
  | trades
  deriving DecidableEq

def Subscription.name : Subscription → String
  | platformState => "platform_state"
  | instrumentState => "instrument.state.any.any"
  | quote symbol => "quote." ++ symbol
  | ticker symbol interval => "ticker." ++ symbol ++ "." ++ interval
  | chartTrades symbol interval =>
    "chart.trades." ++ symbol ++ "." ++ toString interval.toNat
  | portfolio currency => "user.portfolio." ++ currency
  | changes => "user.changes.any.any.raw"
  | orders => "user.orders.any.any.raw"
  | trades => "user.trades.any.any.raw"

@[simp] theorem Subscription.quote_name (symbol : String) :
    (quote symbol).name = "quote." ++ symbol := rfl

@[simp] theorem Subscription.ticker_name (symbol interval : String) :
    (ticker symbol interval).name = "ticker." ++ symbol ++ "." ++ interval := rfl

@[simp] theorem Subscription.chartTrades_name (symbol : String) (interval : UInt32) :
    (chartTrades symbol interval).name =
      "chart.trades." ++ symbol ++ "." ++ toString interval.toNat := rfl

@[simp] theorem Subscription.portfolio_name (currency : String) :
    (portfolio currency).name = "user.portfolio." ++ currency := rfl

/-- What the name is to be read as. -/
def Subscription.parsed : Subscription → Channel × List Char × UInt32
  | platformState => (.platformState, [], 0)
  | instrumentState => (.instrumentState, [], 0)
  | quote _ => (.quote, [], 0)
  | ticker _ _ => (.ticker, [], 0)
  | chartTrades symbol interval => (.chartTrades, symbol.toList, interval)
  | portfolio _ => (.portfolio, [], 0)
  | changes => (.changes, [], 0)
  | orders => (.orders, [], 0)
  | trades => (.trades, [], 0)

/-- The channels of a request. -/
def Request.channels : Request → List String
  | .publicSubscribe channels _ => channels
  | .privateSubscribe channels _ => channels
  | _ => []

theorem joined_eq (front back : String) {names : List String} (h : names ≠ []) :
    joined front back names = names.map fun name => front ++ name ++ back := by
  cases names with
  | nil => exact absurd rfl h
  | cons name names => rfl

/-! ## Reading names -/

/-- The name is its first segment. -/
theorem getToken_single {part : List Char} (h : '.' ∉ part) : getToken part = part := by
  have hnone : findFirstOf part '.' 0 = none := findFirstOf_none [] h
  unfold getToken
  rw [hnone]
  rfl

theorem findFirst_segment {part rest : List Char} (h : '.' ∉ part) :
    findFirstOf (part ++ '.' :: rest) '.' 0 = some part.length := by
  have hfirst := findFirstOf_append [] rest h
  rwa [List.nil_append, List.length_nil, Nat.zero_add] at hfirst

/-- Behind a segment that has no meaning of its own nothing is looked at. -/
theorem getToken_first {part rest : List Char} (h : '.' ∉ part) (huser : part ≠ "user".toList)
    (hinstrument : part ≠ "instrument".toList) (hchart : part ≠ "chart".toList) :
    getToken (part ++ '.' :: rest) = part := by
  have hpart : substr (part ++ '.' :: rest) 0 (some part.length) = part :=
    substr_append [] part ('.' :: rest)
  unfold getToken
  rw [findFirst_segment h, hpart]
  dsimp only
  rw [if_neg huser, if_neg hinstrument, if_neg hchart]

theorem secondToken_eq {first second rest : List Char} (h : '.' ∉ second) :
    secondToken (first ++ '.' :: (second ++ '.' :: rest)) first.length = second := by
  have hname : first ++ '.' :: (second ++ '.' :: rest) =
      (first ++ ['.']) ++ (second ++ '.' :: rest) := by simp
  have hlength : first.length + 1 = (first ++ ['.']).length := by simp
  unfold secondToken
  rw [hname, hlength, findFirstOf_append _ _ h, Option.map_some, Nat.add_sub_cancel_left,
    substr_append]

/-- The private channels are named in their second segment. -/
theorem getToken_user {second rest : List Char} (h : '.' ∉ second) :
    getToken ("user".toList ++ '.' :: (second ++ '.' :: rest)) = second := by
  have hdot : '.' ∉ "user".toList := by decide +kernel
  have hpart : substr ("user".toList ++ '.' :: (second ++ '.' :: rest)) 0
      (some "user".toList.length) = "user".toList := substr_append [] _ _
  unfold getToken
  rw [findFirst_segment hdot, hpart]
  dsimp only
  rw [if_pos rfl, secondToken_eq h]

/-- The other channels of two segments have tokens of their own. -/
theorem getToken_chart {rest : List Char} :
    getToken ("chart".toList ++ '.' :: ("trades".toList ++ '.' :: rest)) =
      "chart_trades".toList := by
  have hdot : '.' ∉ "chart".toList := by decide +kernel
  have hpart : substr ("chart".toList ++ '.' :: ("trades".toList ++ '.' :: rest)) 0
      (some "chart".toList.length) = "chart".toList := substr_append [] _ _
  unfold getToken
  rw [findFirst_segment hdot, hpart]
  dsimp only
  rw [if_neg (by decide +kernel), if_neg (by decide +kernel), if_pos rfl,
    secondToken_eq (by decide +kernel), if_pos rfl]

theorem thirdToken_eq (rest : List Char) {first second third : List Char} (hfirst : '.' ∉ first)
    (hsecond : '.' ∉ second) (hthird : '.' ∉ third) :
    thirdToken (first ++ '.' :: (second ++ '.' :: (third ++ '.' :: rest))) = third := by
  have hname₂ : first ++ '.' :: (second ++ '.' :: (third ++ '.' :: rest)) =
      (first ++ ['.']) ++ (second ++ '.' :: (third ++ '.' :: rest)) := by simp
  have hname₃ : first ++ '.' :: (second ++ '.' :: (third ++ '.' :: rest)) =
      (first ++ '.' :: second ++ ['.']) ++ (third ++ '.' :: rest) := by simp
  have hd2 := findFirstOf_append (first ++ ['.']) (third ++ '.' :: rest) hsecond
  have hd3 := findFirstOf_append (first ++ '.' :: second ++ ['.']) rest hthird
  have hcut := substr_append (first ++ '.' :: second ++ ['.']) third ('.' :: rest)
  rw [← hname₂, List.length_append, List.length_singleton] at hd2
  rw [← hname₃] at hd3 hcut
  have hpos : (first ++ '.' :: second ++ ['.']).length = first.length + 1 + second.length + 1 := by
    simp only [List.length_append, List.length_cons, List.length_nil]
    omega
  rw [hpos] at hd3 hcut
  unfold thirdToken
  rw [findFirst_segment hfirst]
  dsimp only
  rw [hd2]
  dsimp only
  rw [hd3]
  dsimp only
  rw [show first.length + 1 + second.length + 1 + third.length - (first.length + 1 + second.length)
    - 1 = third.length by omega, hcut]

/-! ## Names as segments -/

theorem name_quote (symbol : String) : (Subscription.quote symbol).name.toList =
    "quote".toList ++ '.' :: symbol.toList := by simp

theorem name_ticker (symbol interval : String) :
    (Subscription.ticker symbol interval).name.toList =
      "ticker".toList ++ '.' :: (symbol.toList ++ '.' :: interval.toList) := by
  simp

theorem name_chartTrades (symbol : String) (interval : UInt32) :
    (Subscription.chartTrades symbol interval).name.toList = "chart".toList ++ '.' ::
      ("trades".toList ++ '.' :: (symbol.toList ++ '.' :: Nat.toDigits 10 interval.toNat)) := by
  simp

theorem name_portfolio (currency : String) : (Subscription.portfolio currency).name.toList =
    "user".toList ++ '.' :: ("portfolio".toList ++ '.' :: currency.toList) := by
  simp

/-! ## Names are read back -/

section

variable {channelOf : List Char → Channel}

/-- A token of the schema, for every channel but the one with a symbol. -/
theorem parseChannel_eq (names : ChannelNames channelOf) {name : List Char} (channel : Channel)
    (hname : channel.name ≠ "") (hchart : channel ≠ .chartTrades)
    (h : getToken name = channel.name.toList) : parseChannel channelOf name = (channel, [], 0) := by
  have hne : channel.name.toList ≠ [] := fun hnil => hname (String.toList_eq_nil_iff.mp hnil)
  unfold parseChannel
  rw [h]
  dsimp only
  rw [if_neg hne, names.of_name channel hname, if_neg hchart]

theorem parse_chartTrades (names : ChannelNames channelOf) {symbol : String}
    (h : '.' ∉ symbol.toList) (interval : UInt32) :
    parseChannel channelOf (Subscription.chartTrades symbol interval).name.toList =
      (.chartTrades, symbol.toList, 0) := by
  have hfirst : '.' ∉ "chart".toList := by decide +kernel
  have hsecond : '.' ∉ "trades".toList := by decide +kernel
  have hthird := thirdToken_eq (Nat.toDigits 10 interval.toNat) hfirst hsecond h
  have hchannel : channelOf "chart_trades".toList = .chartTrades :=
    names.of_name .chartTrades (by decide)
  rw [name_chartTrades]
  unfold parseChannel
  rw [getToken_chart, hthird]
  dsimp only
  rw [if_neg (by decide +kernel), hchannel, if_pos rfl]

theorem parse_other (names : ChannelNames channelOf) {s : Subscription}
    (h : ∀ symbol interval, s ≠ .chartTrades symbol interval) :
    parseChannel channelOf s.name.toList = s.parsed := by
  cases s with
  | platformState =>
    apply parseChannel_eq names .platformState (by decide) (by decide)
    have hsingle : '.' ∉ "platform_state".toList := by decide +kernel
    exact getToken_single hsingle
  | instrumentState =>
    apply parseChannel_eq names .instrumentState (by decide) (by decide)
    decide +kernel
  | quote symbol =>
    apply parseChannel_eq names .quote (by decide) (by decide)
    rw [name_quote]
    exact getToken_first (by decide +kernel) (by decide +kernel) (by decide +kernel)
      (by decide +kernel)
  | ticker symbol interval =>
    apply parseChannel_eq names .ticker (by decide) (by decide)
    rw [name_ticker]
    exact getToken_first (by decide +kernel) (by decide +kernel) (by decide +kernel)
      (by decide +kernel)
  | chartTrades symbol interval => exact absurd rfl (h symbol interval)
  | portfolio currency =>
    apply parseChannel_eq names .portfolio (by decide) (by decide)
    rw [name_portfolio]
    exact getToken_user (by decide +kernel)
  | changes =>
    apply parseChannel_eq names .changes (by decide) (by decide)
    decide +kernel
  | orders =>
    apply parseChannel_eq names .orders (by decide) (by decide)
    decide +kernel
  | trades =>
    apply parseChannel_eq names .trades (by decide) (by decide)
    decide +kernel

/-- **Names are read back**, but for an interval: it is never read. -/
theorem parse_name_iff (names : ChannelNames channelOf) (s : Subscription)
    (hsymbol : ∀ symbol interval, s = .chartTrades symbol interval → '.' ∉ symbol.toList) :
    parseChannel channelOf s.name.toList = s.parsed ↔
      ∀ symbol interval, s = .chartTrades symbol interval → interval = 0 := by
  by_cases hchart : ∃ symbol interval, s = .chartTrades symbol interval
  · obtain ⟨symbol, interval, rfl⟩ := hchart
    rw [parse_chartTrades names (hsymbol symbol interval rfl)]
    constructor
    · intro h symbol' interval' heq
      cases heq
      exact (congrArg (·.2.2) h).symm
    · intro h
      rw [h symbol interval rfl]
      rfl
  · have hother : ∀ symbol interval, s ≠ .chartTrades symbol interval :=
      fun symbol interval heq => hchart ⟨symbol, interval, heq⟩
    exact iff_of_true (parse_other names hother)
      fun symbol interval heq => absurd heq (hother symbol interval)

end

/-- The channels of the schema. -/
def Channel.named : List Channel :=
  [.changes, .instrumentState, .platformState, .portfolio, .quote, .ticker, .chartTrades, .orders,
    .trades]

/-- An enumeration as it is generated. -/
def Channel.ofName (token : List Char) : Channel :=
  if token = [] then .undefinedInternal
  else (Channel.named.find? (·.name.toList = token)).getD .unknownInternal

theorem channelNames_ofName : ChannelNames Channel.ofName where
  of_name channel h := by
    revert h
    cases channel <;> decide +kernel
  of_other token hne h := by
    have hnone : Channel.named.find? (·.name.toList = token) = none := by
      rw [List.find?_eq_none]
      intro channel _
      simpa using fun heq => h channel heq.symm
    rw [Channel.ofName, if_neg hne, hnone]
    rfl

/-- The name of a chart whose interval is zero. -/
theorem chart_read_back :
    parseChannel Channel.ofName (Subscription.chartTrades "BTC-PERPETUAL" 0).name.toList =
      (.chartTrades, "BTC-PERPETUAL".toList, 0) := by
  refine (parse_name_iff channelNames_ofName (.chartTrades "BTC-PERPETUAL" 0) ?_).mpr ?_
  · rintro symbol interval ⟨⟩
    decide +kernel
  · rintro symbol interval ⟨⟩
    rfl

/-- The interval that is asked for is one minute, and it is read as zero. -/
theorem interval_not_read : ¬∀ (symbol : String) (interval : UInt32), '.' ∉ symbol.toList →
    parseChannel Channel.ofName (Subscription.chartTrades symbol interval).name.toList =
      (Subscription.chartTrades symbol interval).parsed := by
  intro h
  have heq := h "BTC-PERPETUAL" 1 (by decide +kernel)
  rw [parse_chartTrades channelNames_ofName (by decide +kernel)] at heq
  exact absurd (congrArg (·.2.2) heq) (by decide)

end Json

/-! ## What the streams ask for -/

open Json

/-- Among the outputs of the web socket stream, the channels that are asked for. -/
def WebSocket.Output.channels : WebSocket.Output → List String
  | .queued request => request.channels
  | _ => []

/-- The web socket stream asks for the names of its subscriptions. -/
theorem WebSocket.subscribes_names {W Y R : Type} (env : WebSocket.Env) {symbols : List String}
    (h : symbols ≠ []) (s : WebSocket.Scope W Y R) :
    (subscribePlatformState s).2.flatMap Output.channels = [Subscription.platformState.name] ∧
    (subscribeInstrumentState s).2.flatMap Output.channels =
      [Subscription.instrumentState.name] ∧
    (subscribeQuote symbols s).2.flatMap Output.channels =
      (symbols.map fun symbol => (Subscription.quote symbol).name) ∧
    (subscribeTicker env symbols s).2.flatMap Output.channels =
      (symbols.map fun symbol => (Subscription.ticker symbol env.tickerInterval).name) ∧
    (subscribeChartTrades symbols s).2.flatMap Output.channels =
      symbols.map fun symbol => (Subscription.chartTrades symbol 1).name := by
  refine ⟨rfl, rfl, ?_, ?_, ?_⟩
  · show joined "quote." "" symbols ++ [] = _
    simp [joined_eq _ _ h]
  · show joined "ticker." ("." ++ env.tickerInterval) symbols ++ [] = _
    simp [joined_eq _ _ h, String.append_assoc]
  · have hinterval : "." ++ toString (1 : UInt32).toNat = ".1" := by decide +kernel
    show joined "chart.trades." ".1" symbols ++ [] = _
    simp only [joined_eq _ _ h, Subscription.chartTrades_name, String.append_assoc, hinterval,
      List.append_nil]

/-- Among the outputs of the drop copy stream. -/
def DropCopy.Output.channels : DropCopy.Output → List String
  | .queued request => request.channels
  | _ => []

/-- So does the drop copy stream. -/
theorem DropCopy.subscribes_names {C : Type} {currencies : List String} (h : currencies ≠ [])
    (o : DropCopy C) :
    (subscribeUserPortfolio currencies o).2.flatMap Output.channels =
      (currencies.map fun currency => (Subscription.portfolio currency).name) ∧
    (subscribeUserChanges o).2.flatMap Output.channels = [Subscription.changes.name] ∧
    (subscribeUserOrders o).2.flatMap Output.channels = [Subscription.orders.name] ∧
    (subscribeUserTrades o).2.flatMap Output.channels = [Subscription.trades.name] := by
  refine ⟨?_, rfl, rfl, rfl⟩
  show joined "user.portfolio." "" currencies ++ [] = _
  simp [joined_eq _ _ h]

end DeribitGateway
