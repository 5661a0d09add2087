import DeribitGateway.Json.Channel
import DeribitGateway.Lib.Walk

/-!
# The parser of the web socket streams

`dispatch` walks over the members of a message until it knows what the message is, and hands
the message to the handler as that. `unordered_iff` says for which messages the order of the
members makes no difference.

The walk over an object and the classes a message is read as are not the repository's: the walk
visits the members in their order and stops when it is told to, and `Schema` has what is
generated. The keys are compared by their hashes, and the hashes do not collide.
-/

namespace DeribitGateway

namespace Json

/-! ## Values -/

/-- A value, as far as the parser looks into it. -/
inductive Value
  | text (value : String)
  | object (members : List (String × Value))
  | other (raw : String)

abbrev Members := List (String × Value)

/-- `json::RequestType`, as it is read. -/
inductive RequestId
  | undefinedInternal
  | unknownInternal
  | known (type : RequestType)
  deriving DecidableEq

/-- The classes a message can be read as. -/
inductive Event
  | auth
  | subscribeAck
  | getAccountSummaryAck
  | getUserTradesByCurrencyAck
  | platformState
  | instrumentState
  | quote
  | ticker
  | chartTrades
  | userPortfolio
  | userChanges
  | userOrders
  | userTrades
  deriving DecidableEq, Repr

/-- What is generated. Reading a message as a class may throw. -/
structure Schema (D : Type) where
  channelOf : List Char → Channel
  requestTypeOf : String → RequestId
  decode : Event → Members → Option D

/-- A call of the handler; a symbol and an interval come with `ChartTrades`. -/
structure Call (D : Type) where
  event : Event
  value : D
  args : Option (List Char × UInt32) := none
  deriving DecidableEq

/-- What ends the process: `log::fatal`, or an exception, on which the streams terminate. -/
inductive Failure
  | fatal
  | exception
  deriving DecidableEq

/-- What the callbacks capture, with the calls that have been made. -/
structure Parsing (D : Type) where
  result : Bool := false
  calls : List (Call D) := []
  deriving DecidableEq

/-- The names of the schema. -/
def RequestType.name : RequestType → String
  | auth => "auth"
  | subscribePlatformState => "subscribe_platform_state"
  | subscribeInstrumentState => "subscribe_instrument_state"
  | subscribeQuote => "subscribe_quote"
  | subscribeTicker => "subscribe_ticker"
  | subscribeChartTrades => "subscribe_chart_trades"
  | subscribeUserPortfolio => "subscribe_user_portfolio"
  | subscribeUserChanges => "subscribe_user_changes"
  | subscribeUserOrders => "subscribe_user_orders"
  | subscribeUserTrades => "subscribe_user_trades"
  | getAccountSummary => "get_account_summary"
  | getUserTradesByCurrency => "get_user_trades_by_currency"

/-- The request types of the schema. -/
def RequestType.named : List RequestType :=
  [.auth, .subscribePlatformState, .subscribeInstrumentState, .subscribeQuote, .subscribeTicker,
    .subscribeChartTrades, .subscribeUserPortfolio, .subscribeUserChanges, .subscribeUserOrders,
    .subscribeUserTrades, .getAccountSummary, .getUserTradesByCurrency]

/-- An enumeration as it is generated. -/
def RequestId.ofName (id : String) : RequestId :=
  if id = "" then .undefinedInternal
  else ((RequestType.named.find? (·.name = id)).map RequestId.known).getD .unknownInternal

/-- What a message with this id is. -/
def RequestType.event : RequestType → Event
  | .auth => .auth
  | .subscribePlatformState => .subscribeAck
  | .subscribeInstrumentState => .subscribeAck
  | .subscribeQuote => .subscribeAck
  | .subscribeTicker => .subscribeAck
  | .subscribeChartTrades => .subscribeAck
  | .subscribeUserPortfolio => .subscribeAck
  | .subscribeUserChanges => .subscribeAck
  | .subscribeUserOrders => .subscribeAck
  | .subscribeUserTrades => .subscribeAck
  | .getAccountSummary => .getAccountSummaryAck
  | .getUserTradesByCurrency => .getUserTradesByCurrencyAck

/-- What a message of this channel is, if it is a channel that the parser knows. -/
def Channel.event : Channel → Option Event
  | undefinedInternal => none
  | unknownInternal => none
  | platformState => some .platformState
  | instrumentState => some .instrumentState
  | quote => some .quote
  | ticker => some .ticker
  | chartTrades => some .chartTrades
  | portfolio => some .userPortfolio
  | changes => some .userChanges
  | orders => some .userOrders
  | trades => some .userTrades

namespace Parser

section

variable {D : Type} (schema : Schema D)

/-! ## Dispatch -/

def dispatchHelper (message : Members) (p : Parsing D) (event : Event)
    (args : Option (List Char × UInt32)) : Parsing D × Except Failure Bool :=
  match schema.decode event message with
  | none => (p, .error .exception)
  | some value => ({ result := true, calls := p.calls ++ [{ event, value, args }] }, .ok true)

def helperParams (message : Members) (p : Parsing D) (member : String × Value) :
    Parsing D × Except Failure Bool :=
  if member.1 = "channel" then
    match member.2 with
    | .text name =>
      match parseChannel schema.channelOf name.toList with
      | (channel, symbol, interval) =>
        match channel.event with
        | none => (p, .ok true)
        | some event =>
          dispatchHelper schema message p event
            (if channel = .chartTrades then some (symbol, interval) else none)
    | _ => (p, .error .exception)
  else (p, .ok p.result)

def helper (message : Members) (p : Parsing D) (member : String × Value) :
    Parsing D × Except Failure Bool :=
  if member.1 = "id" then
    match member.2 with
    | .text id =>
      match schema.requestTypeOf id with
      | .undefinedInternal => (p, .ok p.result)
      | .unknownInternal => (p, .ok true)
      | .known type => dispatchHelper schema message p type.event none
    | _ => (p, .error .exception)
  else if member.1 = "method" then
    match member.2 with
    | .text method => if method ≠ "subscription" then (p, .error .fatal) else (p, .ok p.result)
    | _ => (p, .error .exception)
  else if member.1 = "params" then
    match member.2 with
    | .object members =>
      match Walk.walk (helperParams schema message) p members with
      | (p', .error failure) => (p', .error failure)
      | (p', .ok ()) => (p', .ok true)
    | _ => (p, .error .exception)
  -- `jsonrpc`, `error`, `result`, and what is not known
  else (p, .ok p.result)

def dispatch (allowUnknown : Bool) (message : Members) : Parsing D × Except Failure Bool :=
  match Walk.walk (helper schema message) {} message with
  | (p, .error failure) => (p, .error failure)
  | (p, .ok ()) => if p.result || allowUnknown then (p, .ok p.result) else (p, .error .fatal)

/-- The calls of the handler, and what is returned, unless the process ends. -/
def outcome (allowUnknown : Bool) (message : Members) : List (Call D) × Option Bool :=
  let r := dispatch schema allowUnknown message
  (r.1.calls, r.2.toOption)

/-! ## Readings -/

/-- What a member makes of a message. -/
inductive Reading (D : Type)
  | handled (call : Call D)
  | unknown
  | refused (failure : Failure)

/-- Where the walk ends with such a member. -/
def Reading.ending : Reading D → Parsing D × Except Failure Unit
  | handled call => ({ result := true, calls := [call] }, .ok ())
  | unknown => ({}, .ok ())
  | refused failure => ({}, .error failure)

def decoded (message : Members) (event : Event) (args : Option (List Char × UInt32)) :
    Reading D :=
  match schema.decode event message with
  | none => .refused .exception
  | some value => .handled { event, value, args }

/-- A message of the channel that a value names. -/
def channelReading (message : Members) : Value → Reading D
  | .text name =>
    match parseChannel schema.channelOf name.toList with
    | (channel, symbol, interval) =>
      match channel.event with
      | none => .unknown
      | some event =>
        decoded schema message event
          (if channel = .chartTrades then some (symbol, interval) else none)
  | _ => .refused .exception

/-- An id that is not empty decides, a method other than the one of notifications, and the
    parameters; no other member does. -/
def reading (message : Members) : String × Value → Option (Reading D)
  | ("id", .text id) =>
    match schema.requestTypeOf id with
    | .undefinedInternal => none
    | .unknownInternal => some .unknown
    | .known type => some (decoded schema message type.event none)
  | ("id", _) => some (.refused .exception)
  | ("method", .text method) => if method = "subscription" then none else some (.refused .fatal)
  | ("method", _) => some (.refused .exception)
  | ("params", .object members) =>
    some (((members.lookup "channel").map (channelReading schema message)).getD .unknown)
  | ("params", _) => some (.refused .exception)
  | _ => none

/-- What is seen of a reading. -/
def Reading.outcome (allowUnknown : Bool) : Reading D → List (Call D) × Option Bool
  | handled call => ([call], some true)
  | unknown => ([], if allowUnknown then some false else none)
  | refused _ => ([], none)

/-! ## The walk as a search -/

/-- What a callback says to such a member. -/
def Reading.answer (r : Reading D) : Parsing D × Except Failure Bool :=
  Walk.answer {} (some r.ending)

theorem dispatchHelper_eq (message : Members) (event : Event)
    (args : Option (List Char × UInt32)) :
    dispatchHelper schema message {} event args = (decoded schema message event args).answer := by
  unfold dispatchHelper decoded
  cases schema.decode event message <;> rfl

theorem helperParams_channel (message : Members) (value : Value) :
    helperParams schema message {} ("channel", value) =
      (channelReading schema message value).answer := by
  unfold helperParams channelReading
  rw [if_pos rfl]
  cases value with
  | text name =>
    dsimp only
    cases (parseChannel schema.channelOf name.toList).1.event with
    | none => rfl
    | some event => exact dispatchHelper_eq schema message event _
  | object members => rfl
  | other raw => rfl

theorem walk_params (message members : Members) :
    Walk.walk (helperParams schema message) {} members =
      (((members.lookup "channel").map (channelReading schema message)).getD .unknown).ending := by
  have hanswer : ∀ member, helperParams schema message {} member =
      Walk.answer {} ((if "channel" == member.1 then some member.2 else none).map
        fun value => (channelReading schema message value).ending) := by
    intro member
    obtain ⟨key, value⟩ := member
    by_cases hkey : key = "channel"
    · subst hkey; exact helperParams_channel schema message value
    · have hne : ("channel" == key) = false := beq_false_of_ne (Ne.symm hkey)
      rw [hne]
      exact if_neg hkey
  rw [Walk.walk_eq hanswer, ← List.lookup_eq_findSome?]
  cases members.lookup "channel" <;> rfl

theorem helper_id (message : Members) (value : Value) :
    helper schema message {} ("id", value) =
      Walk.answer {} ((reading schema message ("id", value)).map Reading.ending) := by
  cases value with
  | text id =>
    cases hid : schema.requestTypeOf id with
    | undefinedInternal => simp [helper, reading, hid, Walk.answer]
    | unknownInternal => simp [helper, reading, hid, Walk.answer, Reading.ending, Except.map]
    | known type =>
      have hhelper := dispatchHelper_eq schema message type.event none
      simpa [helper, reading, hid, Reading.answer] using hhelper
  | object members => rfl
  | other raw => rfl

theorem helper_method (message : Members) (value : Value) :
    helper schema message {} ("method", value) =
      Walk.answer {} ((reading schema message ("method", value)).map Reading.ending) := by
  cases value with
  | text method =>
    by_cases h : method = "subscription"
    · simp [helper, reading, h, Walk.answer]
    · simp [helper, reading, h, Walk.answer, Reading.ending, Except.map]
  | object members => rfl
  | other raw => rfl

theorem helper_params (message : Members) (value : Value) :
    helper schema message {} ("params", value) =
      Walk.answer {} ((reading schema message ("params", value)).map Reading.ending) := by
  cases value with
  | text text => rfl
  | object members =>
    have hhelper : helper schema message {} ("params", .object members) =
        match Walk.walk (helperParams schema message) {} members with
        | (p', .error failure) => (p', .error failure)
        | (p', .ok ()) => (p', .ok true) := by simp [helper]
    have hreading : reading schema message ("params", .object members) =
        some (((members.lookup "channel").map (channelReading schema message)).getD .unknown) := by
      simp [reading]
    rw [hhelper, walk_params, hreading]
    cases ((members.lookup "channel").map (channelReading schema message)).getD .unknown <;> rfl
  | other raw => rfl

/-- The walk passes the members that have no reading. -/
theorem helper_eq (message : Members) (member : String × Value) :
    helper schema message {} member =
      Walk.answer {} ((reading schema message member).map Reading.ending) := by
  obtain ⟨key, value⟩ := member
  by_cases hid : key = "id"
  · subst hid; exact helper_id schema message value
  by_cases hmethod : key = "method"
  · subst hmethod; exact helper_method schema message value
  by_cases hparams : key = "params"
  · subst hparams; exact helper_params schema message value
  simp [helper, reading, hid, hmethod, hparams, Walk.answer]

/-- **The first member that has a reading decides.** -/
theorem outcome_eq (allowUnknown : Bool) (message : Members) :
    outcome schema allowUnknown message =
      ((message.findSome? (reading schema message)).getD .unknown).outcome allowUnknown := by
  unfold outcome dispatch
  rw [Walk.walk_eq (helper_eq schema message)]
  rcases message.findSome? (reading schema message) with _ | call | _ | failure
  · cases allowUnknown <;> rfl
  · rfl
  · cases allowUnknown <;> rfl
  · rfl

/-! ## The order of the members -/

/-- The members of the parameters in another order. -/
inductive MemberRearranged : String × Value → String × Value → Prop
  | same (member : String × Value) : MemberRearranged member member
  | params {members members' : Members} (h : members.Perm members') :
    MemberRearranged ("params", .object members) ("params", .object members')

/-- The members of the message in another order, and those of the parameters. -/
def Rearranged (message message' : Members) : Prop :=
  ∃ middle, message.Perm middle ∧ List.Forall₂ MemberRearranged middle message'

/-- The keys are distinct in the message and in the parameters. -/
structure Distinct (message : Members) : Prop where
  keys : (message.map Prod.fst).Nodup
  params : ∀ members, ("params", Value.object members) ∈ message →
    (members.map Prod.fst).Nodup

/-- The generated classes read the members by their keys. -/
def Unordered : Prop :=
  ∀ event message message', Distinct message → Rearranged message message' →
    schema.decode event message' = schema.decode event message

/-- Both members refer to something unknown, or both end the process; without the flag, the
    unknown ends it. -/
def Reading.Agrees (allowUnknown : Bool) : Reading D → Reading D → Prop
  | unknown, unknown => True
  | refused _, refused _ => True
  | unknown, refused _ => allowUnknown = false
  | refused _, unknown => allowUnknown = false
  | _, _ => False

theorem eq_of_key {message : Members} (h : (message.map Prod.fst).Nodup)
    {x y : String × Value} (hx : x ∈ message) (hy : y ∈ message) (hkey : x.1 = y.1) : x = y :=
  List.inj_on_of_nodup_map h hx hy hkey

/-- A value is looked up wherever it is. -/
theorem lookup_perm {members members' : Members} (h : (members.map Prod.fst).Nodup)
    (hperm : members.Perm members') (key : String) :
    members'.lookup key = members.lookup key := by
  rw [List.lookup_eq_findSome?, List.lookup_eq_findSome?]
  refine (Walk.findSome_perm_iff id).mpr ?_ members' hperm
  intro x hx y hy e e' he he'
  have hfound : ∀ {z : String × Value} {e : Value},
      (if key == z.1 then some z.2 else none) = some e → z.1 = key ∧ z.2 = e := by
    intro z e hz
    split at hz
    case isTrue hkey => exact ⟨(beq_iff_eq.mp hkey).symm, Option.some.inj hz⟩
    case isFalse => cases hz
  obtain ⟨hxkey, rfl⟩ := hfound he
  obtain ⟨hykey, rfl⟩ := hfound he'
  rw [eq_of_key h hx hy (hxkey.trans hykey.symm)]

/-- A member is read alike in whatever order its parameters are. -/
theorem reading_rearranged (message : Members) {x y : String × Value}
    (hparams : ∀ members, x = ("params", .object members) → (members.map Prod.fst).Nodup)
    (h : MemberRearranged x y) : reading schema message x = reading schema message y := by
  cases h with
  | same => rfl
  | @params members members' hperm =>
    simp only [reading]
    rw [lookup_perm (hparams members rfl) hperm]

/-- Acknowledgements are known by their ids. -/
def Event.isAck : Event → Bool
  | .auth | .subscribeAck | .getAccountSummaryAck | .getUserTradesByCurrencyAck => true
  | _ => false

theorem isAck_requestType (type : RequestType) : Event.isAck type.event = true := by
  cases type <;> rfl

theorem isAck_channel {channel : Channel} {event : Event} (h : channel.event = some event) :
    Event.isAck event = false := by
  cases channel <;> cases h <;> rfl

theorem decoded_handled {message : Members} {event : Event}
    {args : Option (List Char × UInt32)} {call : Call D}
    (h : decoded schema message event args = .handled call) : call.event = event := by
  unfold decoded at h
  split at h
  · cases h
  · cases h; rfl

theorem channelReading_handled {message : Members} {value : Value} {call : Call D}
    (h : channelReading schema message value = .handled call) :
    Event.isAck call.event = false := by
  unfold channelReading at h
  split at h
  · dsimp only at h
    split at h
    · cases h
    case h_2 event hevent =>
      rw [decoded_handled schema h]
      exact isAck_channel hevent
  · cases h

/-- The key of a member that leads to a call can be told from the call. -/
theorem reading_handled {message : Members} {x : String × Value} {call : Call D}
    (h : reading schema message x = some (.handled call)) :
    x.1 = if Event.isAck call.event then "id" else "params" := by
  unfold reading at h
  split at h
  case h_1 id =>
    split at h
    · cases h
    · cases h
    · rw [decoded_handled schema (Option.some.inj h), isAck_requestType]
      rfl
  case h_3 method =>
    split at h <;> cases h
  case h_5 members =>
    cases hlookup : members.lookup "channel" with
    | none => simp [hlookup] at h
    | some value =>
      rw [hlookup] at h
      rw [channelReading_handled schema (Option.some.inj h)]
      rfl
  all_goals cases h

/-- What is seen of two members tells them apart, unless they agree. -/
theorem outcome_eq_iff {message : Members} {x y : String × Value} (hkey : x.1 ≠ y.1)
    {r r' : Reading D} (hr : reading schema message x = some r)
    (hr' : reading schema message y = some r') (allowUnknown : Bool) :
    r.outcome allowUnknown = r'.outcome allowUnknown ↔ r.Agrees allowUnknown r' := by
  cases r with
  | handled call =>
    cases r' with
    | handled call' =>
      constructor
      · intro h
        have hcall : call = call' := by simpa [Reading.outcome] using h
        subst hcall
        exact absurd ((reading_handled schema hr).trans (reading_handled schema hr').symm) hkey
      · exact False.elim
    | unknown => simp [Reading.outcome, Reading.Agrees]
    | refused failure => simp [Reading.outcome, Reading.Agrees]
  | unknown => cases r' <;> cases allowUnknown <;> simp [Reading.outcome, Reading.Agrees]
  | refused failure => cases r' <;> cases allowUnknown <;> simp [Reading.outcome, Reading.Agrees]

/-- What is seen, by what is found. -/
def seen (allowUnknown : Bool) (found : Option (Reading D)) : List (Call D) × Option Bool :=
  (found.getD .unknown).outcome allowUnknown

theorem seen_length (allowUnknown : Bool) (found : Option (Reading D)) :
    (seen allowUnknown found).1.length ≤ 1 := by
  rcases found with _ | _ | _ | _ <;> simp [seen, Reading.outcome]

theorem reading_congr {message message' : Members}
    (h : ∀ event, schema.decode event message' = schema.decode event message) :
    reading schema message' = reading schema message := by
  have hdecoded : decoded schema message' = decoded schema message := by
    funext event args
    unfold decoded
    rw [h event]
  have hchannel : channelReading schema message' = channelReading schema message := by
    funext value
    unfold channelReading
    rw [hdecoded]
  funext member
  unfold reading
  rw [hdecoded, hchannel]

/-- A rearranged message is searched as one whose members alone have been rearranged. -/
theorem findSome_rearranged {middle message' : Members}
    (hparams : ∀ members, ("params", Value.object members) ∈ middle →
      (members.map Prod.fst).Nodup)
    (h : List.Forall₂ MemberRearranged middle message') (message : Members) :
    middle.findSome? (reading schema message) = message'.findSome? (reading schema message) := by
  apply Walk.findSome_forall₂
  induction h with
  | nil => exact .nil
  | @cons x y rest rest' hxy _ ih =>
    refine .cons (reading_rearranged schema message ?_ hxy) (ih ?_)
    · intro members hx
      exact hparams members (hx ▸ List.mem_cons_self)
    · intro members hmem
      exact hparams members (List.mem_cons_of_mem x hmem)

theorem outcome_rearranged (hschema : Unordered schema) {message message' middle : Members}
    (hdistinct : Distinct message) (hperm : message.Perm middle)
    (h : List.Forall₂ MemberRearranged middle message') (allowUnknown : Bool) :
    outcome schema allowUnknown message' =
      seen allowUnknown (middle.findSome? (reading schema message)) := by
  have hreading : reading schema message' = reading schema message :=
    reading_congr schema fun event => hschema event message message' hdistinct ⟨middle, hperm, h⟩
  have hparams : ∀ members, ("params", Value.object members) ∈ middle →
      (members.map Prod.fst).Nodup :=
    fun members hmem => hdistinct.params members (hperm.mem_iff.mpr hmem)
  rw [outcome_eq, hreading, ← findSome_rearranged schema hparams h message]
  rfl

/-- **The order makes no difference**, and the handler is called once at most, unless two
    members decide and disagree. -/
theorem unordered_iff (hschema : Unordered schema) {message : Members}
    (hdistinct : Distinct message) (allowUnknown : Bool) :
    (∀ message', Rearranged message message' →
      outcome schema allowUnknown message' = outcome schema allowUnknown message ∧
        (outcome schema allowUnknown message').1.length ≤ 1) ↔
      ∀ x ∈ message, ∀ y ∈ message, x.1 ≠ y.1 → ∀ r r', reading schema message x = some r →
        reading schema message y = some r' → r.Agrees allowUnknown r' := by
  have hsame : ∀ middle : Members, List.Forall₂ MemberRearranged middle middle := fun middle =>
    List.forall₂_same.mpr fun member _ => .same member
  have hmessage : outcome schema allowUnknown message =
      seen allowUnknown (message.findSome? (reading schema message)) :=
    outcome_rearranged schema hschema hdistinct .rfl (hsame message) allowUnknown
  constructor
  -- the two members may come first, each in its turn
  · intro h x hx y hy hkey r r' hr hr'
    rw [← outcome_eq_iff schema hkey hr hr']
    refine (Walk.findSome_perm_iff (seen allowUnknown)).mp ?_ x hx y hy r r' hr hr'
    intro middle hperm
    rw [← hmessage, ← outcome_rearranged schema hschema hdistinct hperm (hsame middle)]
    exact (h middle ⟨middle, hperm, hsame middle⟩).1
  · rintro h message' ⟨middle, hperm, hmiddle⟩
    rw [outcome_rearranged schema hschema hdistinct hperm hmiddle, hmessage]
    refine ⟨(Walk.findSome_perm_iff (seen allowUnknown)).mpr ?_ middle hperm, seen_length ..⟩
    intro x hx y hy r r' hr hr'
    by_cases hkey : x.1 = y.1
    -- a key comes once, so it is one member
    · obtain rfl := eq_of_key hdistinct.keys hx hy hkey
      rw [← hr, ← hr']
    · exact (outcome_eq_iff schema hkey hr hr' allowUnknown).mpr (h x hx y hy hkey r r' hr hr')

end

/-- The classes as they are generated, as far as replies to a logon without an error are read. -/
def logons : Schema Message where
  channelOf := Channel.ofName
  requestTypeOf := RequestId.ofName
  decode event message :=
    if event = .auth ∧ "error" ∉ message.map Prod.fst then some (.auth 0) else none

theorem keys_rearranged {middle message' : Members}
    (h : List.Forall₂ MemberRearranged middle message') :
    middle.map Prod.fst = message'.map Prod.fst := by
  induction h with
  | nil => rfl
  | cons hxy _ ih =>
    rw [List.map_cons, List.map_cons, ih]
    cases hxy <;> rfl

theorem unordered_logons : Unordered logons := by
  rintro event message message' - ⟨middle, hperm, hmiddle⟩
  have hmem : "error" ∉ message'.map Prod.fst ↔ "error" ∉ message.map Prod.fst := by
    rw [← keys_rearranged hmiddle, (hperm.map Prod.fst).mem_iff]
  exact if_congr (and_congr_right fun _ => hmem) rfl rfl

def logonReply : Members :=
  [("jsonrpc", .text "2.0"), ("id", .text "auth"), ("result", .object [])]

theorem logonReply_unordered :
    outcome logons true logonReply.reverse = outcome logons true logonReply ∧
      (outcome logons true logonReply.reverse).1.length ≤ 1 := by
  have hdistinct : Distinct logonReply := ⟨by decide +kernel, by simp [logonReply]⟩
  have hid : ∀ x ∈ logonReply, ∀ r, reading logons logonReply x = some r → x.1 = "id" := by
    intro x hx r hr
    simp only [logonReply, List.mem_cons, List.not_mem_nil, or_false] at hx
    rcases hx with rfl | rfl | rfl
    · cases hr
    · rfl
    · cases hr
  have hreversed : Rearranged logonReply logonReply.reverse :=
    ⟨logonReply.reverse, (List.reverse_perm _).symm,
      List.forall₂_same.mpr fun member _ => .same member⟩
  refine (unordered_iff logons unordered_logons hdistinct true).mpr ?_ _ hreversed
  intro x hx y hy hkey r r' hr hr'
  exact absurd ((hid x hx r hr).trans (hid y hy r' hr').symm) hkey

/-- A heartbeat is unknown and passed over, but not if the method comes first. -/
theorem heartbeat_order_matters : ¬∀ message message', Distinct message →
    Rearranged message message' →
    outcome logons true message' = outcome logons true message := by
  intro h
  have hdistinct : Distinct
      [("params", .object [("type", .text "test_request")]), ("method", .text "heartbeat")] := by
    refine ⟨by decide +kernel, ?_⟩
    intro members hmem
    obtain rfl : members = [("type", .text "test_request")] := by simpa using hmem
    decide +kernel
  have heq := h _ _ hdistinct
    ⟨_, .swap .., .cons (.same ("method", .text "heartbeat")) (.cons (.same _) .nil)⟩
  exact absurd heq (by decide +kernel)

end Parser

end Json

end DeribitGateway
