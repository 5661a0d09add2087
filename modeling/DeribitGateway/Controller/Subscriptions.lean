import DeribitGateway.Controller.Announcements

/-!
# Subscriptions

A symbol is asked for on one of two paths: the stream of its slice is told of new symbols while
it is ready, or becomes ready and asks for its whole slice. `Covers` says of one stream that the
two together have asked for exactly its slice in the session that is under way; it is kept next
to a history of what has been asked for (`Sessions`). Slices are disjoint because what is
announced is new, and cover the symbols because streams are created before anyone is told.

A history counts from one disconnect to the next, and it is assumed that a log-on is answered
once in between (`AnsweredOnce`). A Logout is the end of a session before that: a stream is not
ready behind it and is told of no more symbols, so that from there on what it has asked for may
fall short of its slice.
-/

namespace DeribitGateway

namespace Controller

open Emission StagedDownload Transducer

variable {Y R W C D : Type} {env : Env} {ctx : Context Y}

/-! ## What is asked for -/

/-- The symbols that market data stream `k` asks for. -/
def Output.requestedBy (k : ℕ) : Output → List String
  | .marketData j value => if j = k then value.requested else []
  | _ => []

def requestedBy (k : ℕ) (os : List Output) : List String := os.flatMap (Output.requestedBy k)

theorem requestedBy_append (k : ℕ) (os os' : List Output) :
    requestedBy k (os ++ os') = requestedBy k os ++ requestedBy k os' :=
  List.flatMap_append

theorem requestedBy_self (k : ℕ) (os : List MarketData.Output) :
    requestedBy k (os.map (.marketData k)) = MarketData.requested os := by
  rw [requestedBy, List.flatMap_map, MarketData.requested]
  congr 1
  funext x
  exact if_pos rfl

theorem requestedBy_other {α : Type} {k : ℕ} {tag : α → Output}
    (h : ∀ x, (tag x).requestedBy k = []) (xs : List α) : requestedBy k (xs.map tag) = [] := by
  rw [requestedBy, List.flatMap_map]
  exact List.flatMap_eq_nil_iff.mpr fun x _ => h x

theorem requestedBy_ne {j k : ℕ} (h : j ≠ k) (os : List MarketData.Output) :
    requestedBy k (os.map (.marketData j)) = [] := by
  have hother (x : MarketData.Output) : (Output.marketData j x).requestedBy k = [] := if_neg h
  exact requestedBy_other hother os

/-- What a history knows of a stream: whether the log-on of the session has been answered, what
    has been asked for in the session, and what in earlier sessions. -/
structure Session where
  answered : Bool
  requested : List String
  earlier : List String
  deriving DecidableEq

abbrev Sessions := ℕ → Session

def Sessions.none : Sessions := fun _ => ⟨false, [], []⟩

/-- A disconnect ends the session. -/
def Session.hears (session : Session) : MarketData.Event → Session
  | .disconnected => ⟨false, [], session.earlier ++ session.requested⟩
  | .message _ .logon => { session with answered := true }
  | _ => session

def Session.asks (session : Session) (names : List String) : Session :=
  { session with requested := session.requested ++ names }

/-- What is asked for is noted. -/
def Sessions.after (sessions : Sessions) (os : List Output) : Sessions := fun k =>
  (sessions k).asks (requestedBy k os)

/-- The stream that a call is for. -/
def Sessions.hears (sessions : Sessions) : Event → Sessions
  | .marketData k event => Function.update sessions k ((sessions k).hears event.1)
  | _ => sessions

/-- Asking again for a symbol whose book is bad is not a new subscription. -/
def Event.refreshes : Event → Bool
  | .marketData _ event => event.1.refreshes
  | _ => false

def Sessions.next (sessions : Sessions) (i : Context Y × Event) (os : List Output) : Sessions :=
  if i.2.refreshes then sessions.hears i.2 else (sessions.hears i.2).after os

/-- The log-on of a session is answered once. -/
def AnsweredOnce (s : Controller Y R W C D × Sessions) (i : Context Y × Event) : Prop :=
  ∀ k event header, i.2 = .marketData k event → event.1 = .message header .logon →
    (s.2 k).answered = false

theorem Session.asks_nil (session : Session) : session.asks [] = session := by
  simp [Session.asks]

theorem Session.asks_append (session : Session) (names names' : List String) :
    (session.asks names).asks names' = session.asks (names ++ names') := by
  simp [Session.asks]

theorem Sessions.after_append (sessions : Sessions) (os os' : List Output) :
    (sessions.after os).after os' = sessions.after (os ++ os') := by
  funext k
  simp only [Sessions.after, Session.asks_append, requestedBy_append]

/-! ## One stream -/

variable [Symbols Y] [Download MarketData.State D]

/-- A stream and its session: once it is ready, the session has asked for the slice. -/
structure Covers (k : ℕ) (symbols : Y) (o : MarketData D) (session : Session) : Prop where
  index : o.index = k
  unanswered : session.answered = false →
    Idle o.download ∧ o.ready_ = false ∧ session.requested = []
  ready : o.ready_ = true → session.requested = Symbols.getSlice symbols k 0
  securities : Download.state o.download = .securities →
    o.ready_ = false ∧ session.requested = []
  requested : session.requested <+: Symbols.getSlice symbols k 0
  earlier : ∀ symbol ∈ session.earlier, symbol ∈ Symbols.getSlice symbols k 0

/-- A stream that has just been created. -/
theorem covers_initial [LawfulDownload MarketData.State D] (symbols : Y) (streamId : UInt16)
    (k : ℕ) (master : Bool) {session : Session} (hrequested : session.requested = [])
    (hearlier : session.earlier = []) :
    Covers k symbols (.initial streamId k master : MarketData D) session where
  index := rfl
  unanswered _ := ⟨LawfulDownload.fresh_idle, rfl, hrequested⟩
  ready := nofun
  securities h := absurd h (MarketData.idle_not_securities LawfulDownload.fresh_idle)
  requested := hrequested ▸ List.nil_prefix
  earlier symbol hmem := by
    rw [hearlier] at hmem
    cases hmem

/-- Only the index, the session and the download of a stream count. -/
theorem Covers.congr {k : ℕ} {symbols : Y} {o o' : MarketData D} {session : Session}
    (h : Covers k symbols o session) (hindex : o'.index = o.index) (hready : o'.ready_ = o.ready_)
    (hdownload : o'.download = o.download) : Covers k symbols o' session where
  index := hindex.trans h.index
  unanswered hanswered := by
    rw [hready, hdownload]
    exact h.unanswered hanswered
  ready hready' := h.ready (hready ▸ hready')
  securities hstate := by
    rw [hready]
    exact h.securities (hdownload ▸ hstate)
  requested := h.requested
  earlier := h.earlier

/-- The session opens: its slice is asked for, of which nothing has been asked for before. -/
theorem Covers.opens {k : ℕ} {symbols : Y} {s t : MarketData D × SharedState Y}
    {os : List MarketData.Output} {session : Session} (h : Covers k s.2.symbols s.1 session)
    (hsymbols : s.2.symbols = symbols) (hopens : MarketData.Opens s os t)
    (hanswered : session.answered = true) (hnone : session.requested = []) :
    Covers k symbols t.1 (session.asks (MarketData.requested os)) := by
  subst hsymbols
  have hslice : session.requested ++ MarketData.requested os =
      Symbols.getSlice s.2.symbols k 0 := by
    rw [hnone, List.nil_append, hopens.requested, h.index]
  refine ⟨hopens.index.trans h.index, ?_, fun _ => hslice, ?_, ?_, h.earlier⟩
  · intro hfalse
    cases hanswered.symm.trans hfalse
  · intro hstate
    exact absurd hstate (MarketData.idle_not_securities hopens.idle)
  · exact hslice ▸ List.prefix_rfl

/-- The securities are waited for: nothing has been asked for yet. -/
theorem Covers.downloads {k : ℕ} {symbols : Y} {s t : MarketData D × SharedState Y}
    {os : List MarketData.Output} {session : Session} (h : Covers k symbols s.1 session)
    (hdownloads : MarketData.Downloads s os t) (hanswered : session.answered = true)
    (hready : s.1.ready_ = false) (hnone : session.requested = []) :
    Covers k symbols t.1 (session.asks (MarketData.requested os)) := by
  have hready' := hdownloads.ready_.trans hready
  rw [hdownloads.requested, Session.asks_nil]
  refine ⟨hdownloads.index.trans h.index, ?_, ?_, fun _ => ⟨hready', hnone⟩, h.requested,
    h.earlier⟩
  · intro hfalse
    cases hanswered.symm.trans hfalse
  · intro htrue
    cases hready'.symm.trans htrue

/-- New symbols: a stream that is ready asks for those of its slice. -/
theorem Covers.subscribe [LawfulSymbols Y] (env : MarketData.Env) (ctx : MarketData.Context Y)
    {k : ℕ} {symbols : Y} {o : MarketData D} {session : Session} (h : Covers k symbols o session)
    (new : List String) {shared : SharedState Y}
    (hshared : shared.symbols = (Symbols.append symbols new).1) :
    Covers k (Symbols.append symbols new).1
      (MarketData.subscribe env ctx (Symbols.append symbols new).2.2 (o, shared)).1.1
      (session.asks (MarketData.requested
        (MarketData.subscribe env ctx (Symbols.append symbols new).2.2 (o, shared)).2)) := by
  have hgrows := getSlice_append symbols new k
  have hbegins : Symbols.getSlice symbols k 0 <+:
      Symbols.getSlice (Symbols.append symbols new).1 k 0 := ⟨_, hgrows.symm⟩
  -- a stream that is not ready asks for its whole slice later
  obtain hready | hready := Bool.eq_false_or_eq_true o.ready_
  · have hsubscribes := MarketData.subscribe_subscribes env ctx
      (Symbols.append symbols new).2.2 (s := (o, shared)) hready
    have hslice : session.requested ++ MarketData.requested (MarketData.subscribe env ctx
        (Symbols.append symbols new).2.2 (o, shared)).2 =
          Symbols.getSlice (Symbols.append symbols new).1 k 0 := by
      rw [hsubscribes.requested, h.ready hready, hgrows, ← hshared, ← h.index]
    have hready' := hsubscribes.ready_.trans hready
    refine ⟨hsubscribes.index.trans h.index, ?_, fun _ => hslice, ?_, ?_, ?_⟩
    · intro hanswered
      cases hready.symm.trans (h.unanswered hanswered).2.1
    · intro hstate
      cases hready.symm.trans (h.securities (hsubscribes.download ▸ hstate)).1
    · exact hslice ▸ List.prefix_rfl
    · intro symbol hmem
      exact hbegins.subset (h.earlier symbol hmem)
  · rw [MarketData.subscribe_waits env ctx _ hready]
    simp only [MarketData.requested, List.flatMap_nil, Session.asks_nil]
    refine ⟨h.index, h.unanswered, ?_, h.securities, h.requested.trans hbegins, ?_⟩
    · intro htrue
      cases hready.symm.trans htrue
    · intro symbol hmem
      exact hbegins.subset (h.earlier symbol hmem)

/-- What follows a list of securities. -/
theorem Covers.checkSecurities [LawfulDownload MarketData.State D] (env : MarketData.Env)
    (ctx : MarketData.Context Y) {k : ℕ} {s : MarketData D × SharedState Y} {session : Session}
    (h : Covers k s.2.symbols s.1 session) :
    Covers k s.2.symbols (MarketData.checkSecurities env ctx s).1.1
      (session.asks (MarketData.requested (MarketData.checkSecurities env ctx s).2)) := by
  obtain ⟨hsame, hnone⟩ | ⟨hstate, hmoves⟩ := MarketData.checkSecurities_cases env ctx s
  · rw [hsame, hnone]
    simp only [MarketData.requested, List.flatMap_nil, Session.asks_nil]
    exact h
  · obtain ⟨hready, hrequested⟩ := h.securities hstate
    have hanswered : session.answered = true := by
      rw [← Bool.not_eq_false]
      intro hfalse
      exact MarketData.idle_not_securities (h.unanswered hfalse).1 hstate
    obtain hdownloads | hopens := hmoves
    · exact h.downloads hdownloads hanswered hready hrequested
    · exact h.opens rfl hopens hanswered hrequested

variable [LawfulDownload MarketData.State D]

omit [LawfulDownload MarketData.State D] in
/-- A call at which the session rests. -/
theorem Covers.rests {env : MarketData.Env} {ctx : MarketData.Context Y} {k : ℕ}
    {event : MarketData.Event} (hrests : event.Rests) {symbols : Y}
    {s : MarketData D × SharedState Y} {r : (MarketData D × SharedState Y) × List MarketData.Output}
    {session : Session} (h : Covers k symbols s.1 session)
    (hcall : MarketData.call env ctx event s = some r) :
    Covers k symbols r.1.1 (if event.refreshes then session.hears event
      else (session.hears event).asks (MarketData.requested r.2)) := by
  obtain ⟨names, hsubscribes, hnil⟩ := MarketData.call_subscribes hrests hcall
  have hcovers := h.congr hsubscribes.index hsubscribes.ready_ hsubscribes.download
  have hsession : session.hears event = session := by
    cases event with
    | message header value =>
      cases value with
      | logon => exact hrests.elim
      | _ => rfl
    | disconnected => exact hrests.elim
    | _ => rfl
  rw [hsession]
  split_ifs with hrefreshes
  · exact hcovers
  · rw [hsubscribes.requested, hnil (Bool.eq_false_iff.mpr hrefreshes), Session.asks_nil]
    exact hcovers

/-- A disconnect ends the session, and the next one has asked for nothing. -/
theorem Covers.disconnected {k : ℕ} {symbols : Y} {s : MarketData D × SharedState Y}
    {session : Session} (h : Covers k symbols s.1 session) :
    Covers k symbols (MarketData.disconnected s).1.1
      ((session.hears .disconnected).asks
        (MarketData.requested (MarketData.disconnected s).2)) := by
  obtain ⟨hcloses, hidle⟩ := MarketData.disconnected_closes s
  rw [hcloses.requested, Session.asks_nil]
  refine ⟨hcloses.index.trans h.index, fun _ => ⟨hidle, hcloses.ready_, rfl⟩, ?_, ?_,
    List.nil_prefix, ?_⟩
  · intro htrue
    cases hcloses.ready_.symm.trans htrue
  · intro hstate
    exact absurd hstate (MarketData.idle_not_securities hidle)
  · intro symbol hmem
    obtain hmem | hmem := List.mem_append.mp hmem
    · exact h.earlier symbol hmem
    · exact h.requested.subset hmem

/-- A log-on opens the session of a stream, or begins its download. -/
theorem Covers.logon (env : MarketData.Env) (ctx : MarketData.Context Y) {k : ℕ}
    {s : MarketData D × SharedState Y} {session : Session} (h : Covers k s.2.symbols s.1 session)
    (hunanswered : session.answered = false) (header : Fix.Header) :
    Covers k s.2.symbols (MarketData.logon env ctx s).1.1
      ((session.hears (.message header .logon)).asks
        (MarketData.requested (MarketData.logon env ctx s).2)) := by
  obtain ⟨hidle, hready, hrequested⟩ := h.unanswered hunanswered
  have hanswered : Covers k s.2.symbols s.1 { session with answered := true } :=
    ⟨h.index, nofun, h.ready, h.securities, h.requested, h.earlier⟩
  obtain hdownloads | hopens := MarketData.logon_cases env ctx hidle
  · exact hanswered.downloads hdownloads rfl hready hrequested
  · exact hanswered.opens rfl hopens rfl hrequested

omit [LawfulDownload MarketData.State D] in
/-- Behind a log-out a stream asks for nothing. -/
theorem Covers.logout (ctx : MarketData.Context Y) {k : ℕ} {symbols : Y}
    {s : MarketData D × SharedState Y} {session : Session} (h : Covers k symbols s.1 session)
    (header : Fix.Header) :
    Covers k symbols (MarketData.logout ctx s).1.1
      ((session.hears (.message header .logout)).asks
        (MarketData.requested (MarketData.logout ctx s).2)) := by
  obtain ⟨hcloses, hdownload⟩ := MarketData.logout_closes ctx s
  rw [hcloses.requested, Session.asks_nil]
  refine ⟨hcloses.index.trans h.index, ?_, ?_, ?_, h.requested, h.earlier⟩
  · intro hanswered
    obtain ⟨hidle, -, hrequested⟩ := h.unanswered hanswered
    exact ⟨(congrArg Idle hdownload).mpr hidle, hcloses.ready_, hrequested⟩
  · intro htrue
    cases hcloses.ready_.symm.trans htrue
  · intro hstate
    exact ⟨hcloses.ready_,
      (h.securities ((congrArg Download.state hdownload).symm.trans hstate)).2⟩

/-- **Calls of a stream** that bring no list of securities. -/
theorem Covers.call {env : MarketData.Env} {ctx : MarketData.Context Y} {k : ℕ}
    {event : MarketData.Event} (hown : event.IsOwn)
    (hevent : ∀ header noRelatedSym, event ≠ .message header (.securityList noRelatedSym))
    {s : MarketData D × SharedState Y} {r : (MarketData D × SharedState Y) × List MarketData.Output}
    {session : Session} (h : Covers k s.2.symbols s.1 session)
    (hlogon : ∀ header, event = .message header .logon → session.answered = false)
    (hcall : MarketData.call env ctx event s = some r) :
    Covers k s.2.symbols r.1.1 (if event.refreshes then session.hears event
      else (session.hears event).asks (MarketData.requested r.2)) := by
  by_cases hrests : event.Rests
  · exact h.rests hrests hcall
  · cases event with
    | subscribe startFrom => exact hown.elim
    | disconnected =>
      obtain rfl := Option.some.inj hcall
      exact h.disconnected
    | message header value =>
      have hchecked : Covers k s.2.symbols (MarketData.check header s.1) session :=
        h.congr rfl rfl rfl
      cases value with
      | logon =>
        obtain rfl := Option.some.inj hcall
        exact Covers.logon env ctx (s := (MarketData.check header s.1, s.2)) hchecked
          (hlogon header rfl) header
      | logout =>
        obtain rfl := Option.some.inj hcall
        exact Covers.logout ctx (s := (MarketData.check header s.1, s.2)) hchecked header
      | securityList noRelatedSym => exact absurd rfl (hevent header noRelatedSym)
      | _ => exact absurd trivial hrests
    | _ => exact absurd trivial hrests

/-! ## The other streams -/

section

omit [Symbols Y] [Download MarketData.State D] [LawfulDownload MarketData.State D]

/-- Market data stream `k` is left alone, and so is what is known of the symbols. -/
structure Leaves (k : ℕ) (c : Controller Y R W C D) (os : List Output)
    (c' : Controller Y R W C D) : Prop where
  stream : c'.marketData[k]? = c.marketData[k]?
  requested : requestedBy k os = []
  length : c'.marketData.length = c.marketData.length
  symbols : c'.shared.symbols = c.shared.symbols
  allSymbols : c'.shared.allSymbols = c.shared.allSymbols

theorem composes_leaves (k : ℕ) : Composes (Leaves k : Controller Y R W C D → List Output →
    Controller Y R W C D → Prop) where
  refl _ := ⟨rfl, rfl, rfl, rfl, rfl⟩
  trans h h' :=
    ⟨h'.stream.trans h.stream, by rw [requestedBy_append, h.requested, h'.requested]; rfl,
      h'.length.trans h.length, h'.symbols.trans h.symbols, h'.allSymbols.trans h.allSymbols⟩

theorem onDropCopy_leaves (j k : ℕ) (ctx : Context Y)
    (f : DropCopy.Context → DropCopy.Handler C) :
    Meets (Leaves k) (onDropCopy ctx j f : Handler Y R W C D) := by
  apply onDropCopy_meets (composes_leaves k)
  intro c o _
  exact ⟨rfl, requestedBy_other (fun _ => rfl) _, rfl, rfl, rfl⟩

theorem latch_leaves (k : ℕ) (env : Env) (ctx : Context Y) :
    Meets (Leaves k) (latch env ctx : Handler Y R W C D) := by
  apply (composes_leaves k).seq (fun _ => ⟨rfl, rfl, rfl, rfl, rfl⟩)
  intro c
  exact (composes_leaves k).each (fun j => onDropCopy_leaves j k ctx _) _ c

theorem currenciesUpdate_leaves (k : ℕ) (env : Env) (ctx : Context Y)
    (currencies : List String) :
    Meets (Leaves k) (currenciesUpdate env ctx currencies : Handler Y R W C D) := by
  apply (composes_leaves k).seq (fun _ => ⟨rfl, rfl, rfl, rfl, rfl⟩)
  intro c
  exact (composes_leaves k).each (fun j => onDropCopy_leaves j k ctx _) _ c

/-- Another market data stream. -/
theorem putMarketData_leaves {j k : ℕ} (hjk : j ≠ k) (c : Controller Y R W C D)
    {s : MarketData D × SharedState Y} (os : List MarketData.Output)
    (h : (s.2.symbols, s.2.allSymbols) = (c.shared.symbols, c.shared.allSymbols)) :
    Leaves k c (os.map (.marketData j)) (c.putMarketData j s) where
  stream := List.getElem?_set_ne hjk
  requested := requestedBy_ne hjk os
  length := List.length_set
  symbols := (Prod.mk.inj h).1
  allSymbols := (Prod.mk.inj h).2

end

section

omit [Download MarketData.State D] [LawfulDownload MarketData.State D]

omit [Symbols Y] in
theorem onMarketData_leaves {j k : ℕ} (hjk : j ≠ k) {f : MarketData.Handler D Y}
    (h : Meets MarketData.KeepsSymbols f) :
    Meets (Leaves k) (onMarketData j f : Handler Y R W C D) := by
  apply onMarketData_meets (composes_leaves k)
  intro c o _
  exact putMarketData_leaves hjk c _ (h (o, c.shared))

theorem subscribeWebSocket_leaves (k : ℕ) (env : Env) (startFrom : ℕ) :
    Meets (Leaves k) (subscribeWebSocket env startFrom : Handler Y R W C D) := by
  intro c
  refine (composes_leaves k).each ?_ _ c
  intro j
  apply onWebSocket_meets (composes_leaves k)
  intro c o _
  have hrests : Meets WebSocket.Rests
      (WebSocket.subscribe env.webSocket startFrom : WebSocket.Handler W Y R) :=
    WebSocket.subscribe_rests startFrom
  obtain ⟨-, -, -, -, -, hsymbols, hall, -⟩ := hrests ⟨o, c.shared, c.requests⟩
  exact ⟨rfl, requestedBy_other (fun _ => rfl) _, rfl, hsymbols, hall⟩

/-- What a stream that is there does when all subscribe. -/
theorem subscribeMarketData_at (env : Env) (ctx : Context Y) (startFrom : ℕ) {k : ℕ}
    {c : Controller Y R W C D} {o : MarketData D} (ho : c.marketData[k]? = some o) :
    ∃ shared : SharedState Y, shared.symbols = c.shared.symbols ∧
      (subscribeMarketData env ctx startFrom c).1.marketData[k]? = some
        (MarketData.subscribe env.marketData (ctx.marketData k) startFrom (o, shared)).1.1 ∧
      requestedBy k (subscribeMarketData env ctx startFrom c).2 = MarketData.requested
        (MarketData.subscribe env.marketData (ctx.marketData k) startFrom (o, shared)).2 := by
  have hlt : k < c.marketData.length := (List.getElem?_eq_some_iff.mp ho).1
  obtain ⟨t, os, os', hbefore, hbehind, hos⟩ := (composes_leaves k).each_at
    (List.mem_range.mpr hlt) List.nodup_range
    (fun j hjk => onMarketData_leaves hjk
      (MarketData.subscribe_keepsSymbols env.marketData (ctx.marketData j) startFrom)) c
  have ht : t.marketData[k]? = some o := hbefore.stream.trans ho
  have hlength : k < t.marketData.length := hbefore.length ▸ hlt
  have hself : onMarketData k
      (MarketData.subscribe env.marketData (ctx.marketData k) startFrom) t =
        (t.putMarketData k
          (MarketData.subscribe env.marketData (ctx.marketData k) startFrom (o, t.shared)).1,
          (MarketData.subscribe env.marketData (ctx.marketData k) startFrom
            (o, t.shared)).2.map (.marketData k)) := by
    simp only [onMarketData, ht]
  rw [hself] at hbehind hos
  refine ⟨t.shared, hbefore.symbols, ?_, ?_⟩
  · exact hbehind.stream.trans (List.getElem?_set_self hlength)
  · rw [subscribeMarketData, hos, requestedBy_append, requestedBy_append, hbefore.requested,
      hbehind.requested, requestedBy_self, List.nil_append, List.append_nil]

/-- All streams subscribe, none of which is stream `k`. -/
theorem subscribeMarketData_leaves (env : Env) (ctx : Context Y) (startFrom : ℕ) {k : ℕ}
    {c : Controller Y R W C D} (hk : c.marketData.length ≤ k) :
    Leaves k c (subscribeMarketData env ctx startFrom c).2
      (subscribeMarketData env ctx startFrom c).1 := by
  refine (composes_leaves k).each_of_mem ?_ c
  intro j hj
  have hjk : j ≠ k := by
    have := List.mem_range.mp hj
    omega
  exact onMarketData_leaves hjk
    (MarketData.subscribe_keepsSymbols env.marketData (ctx.marketData j) startFrom)

end

/-! ## New symbols -/

section

variable [Download WebSocket.State W]

omit [LawfulDownload MarketData.State D] in
/-- The table of symbols after an announcement, and the streams. -/
theorem symbolsUpdate_table (env : Env) (ctx : Context Y) (new : List String)
    (c : Controller Y R W C D) :
    (symbolsUpdate env ctx new c).1.shared.symbols =
        (Symbols.append c.shared.symbols new).1 ∧
      (symbolsUpdate env ctx new c).1.shared.allSymbols = c.shared.allSymbols ∧
      (Symbols.append c.shared.symbols new).2.1 ≤
        (symbolsUpdate env ctx new c).1.marketData.length ∧
      c.marketData.length ≤ (symbolsUpdate env ctx new c).1.marketData.length := by
  obtain ⟨grown, hgrows, hsize, heq⟩ := symbolsUpdate_eq env ctx new c
  have hstreams := (composes_leaves grown.marketData.length).trans
    (subscribeMarketData_leaves env ctx (Symbols.append c.shared.symbols new).2.2 le_rfl)
    (subscribeWebSocket_leaves _ env (Symbols.append c.shared.symbols new).2.2 _)
  have hknown : grown.shared.allSymbols = c.shared.allSymbols := by rw [hgrows.shared]
  rw [heq]
  exact ⟨hstreams.symbols.trans (congrArg _ hgrows.shared), hstreams.allSymbols.trans hknown,
    hstreams.length ▸ hsize, hstreams.length ▸ hgrows.marketData.length_le⟩

/-- **A stream hears of new symbols.** One that is there asks for those of its slice if it is
    ready, and one that is created asks for nothing. -/
theorem symbolsUpdate_covers [LawfulSymbols Y] (env : Env) (ctx : Context Y) (new : List String)
    (c : Controller Y R W C D) {k : ℕ} {session : Session}
    (hcovers : ∀ o, c.marketData[k]? = some o → Covers k c.shared.symbols o session)
    (habsent : c.marketData[k]? = none → session.requested = [] ∧ session.earlier = []) :
    (∀ o, (symbolsUpdate env ctx new c).1.marketData[k]? = some o →
      Covers k (Symbols.append c.shared.symbols new).1 o
        (session.asks (requestedBy k (symbolsUpdate env ctx new c).2))) ∧
    (c.marketData[k]? = none → requestedBy k (symbolsUpdate env ctx new c).2 = []) := by
  obtain ⟨grown, hgrows, -, heq⟩ := symbolsUpdate_eq env ctx new c
  rw [heq]
  have hwebSocket := subscribeWebSocket_leaves k env (Symbols.append c.shared.symbols new).2.2
    (subscribeMarketData env ctx (Symbols.append c.shared.symbols new).2.2 grown).1
  have hrequested : requestedBy k (seq (emit [.symbolsUpdate new])
      (seq (subscribeMarketData env ctx (Symbols.append c.shared.symbols new).2.2)
        (subscribeWebSocket env (Symbols.append c.shared.symbols new).2.2)) grown).2 =
      requestedBy k
        (subscribeMarketData env ctx (Symbols.append c.shared.symbols new).2.2 grown).2 := by
    simp only [seq_snd, emit_apply, requestedBy_append, hwebSocket.requested, List.append_nil]
    rfl
  have hstreams : (seq (emit [.symbolsUpdate new])
      (seq (subscribeMarketData env ctx (Symbols.append c.shared.symbols new).2.2)
        (subscribeWebSocket env
          (Symbols.append c.shared.symbols new).2.2)) grown).1.marketData[k]? =
      (subscribeMarketData env ctx (Symbols.append c.shared.symbols new).2.2
        grown).1.marketData[k]? := hwebSocket.stream
  rw [hrequested, hstreams]
  obtain hlt | hle := Nat.lt_or_ge k grown.marketData.length
  · have ho := List.getElem?_eq_getElem hlt
    generalize grown.marketData[k] = o at ho
    obtain ⟨shared, hshared, hstream, hasks⟩ :=
      subscribeMarketData_at env ctx (Symbols.append c.shared.symbols new).2.2 ho
    have hbefore : Covers k c.shared.symbols o session := by
      -- it was there before, or has just been created
      obtain hold | hnew := Nat.lt_or_ge k c.marketData.length
      · apply hcovers
        obtain ⟨created, hcreated⟩ := hgrows.marketData
        rwa [← hcreated, List.getElem?_append_left hold] at ho
      · obtain ⟨streamId, rfl⟩ := hgrows.newMarketData k o hnew ho
        obtain ⟨hnone, hearlier⟩ := habsent (List.getElem?_eq_none hnew)
        exact covers_initial _ streamId k false hnone hearlier
    rw [hasks]
    constructor
    · intro o' ho'
      rw [hstream] at ho'
      obtain rfl := Option.some.inj ho'
      exact hbefore.subscribe _ _ new (hshared.trans (congrArg _ hgrows.shared))
    · intro hnone
      obtain ⟨streamId, rfl⟩ := hgrows.newMarketData k o (List.getElem?_eq_none_iff.mp hnone) ho
      rw [MarketData.subscribe_waits _ _ _ rfl]
      rfl
  · have hleaves := subscribeMarketData_leaves env ctx
      (Symbols.append c.shared.symbols new).2.2 hle
    refine ⟨?_, fun _ => hleaves.requested⟩
    intro o ho
    rw [hleaves.stream, List.getElem?_eq_none hle] at ho
    cases ho

end

/-! ## All streams -/

open LawfulSymbols

variable [LawfulSymbols Y]

/-- Every stream covers its slice, and there are streams for all slices. -/
structure Subscribed (c : Controller Y R W C D) (sessions : Sessions) : Prop where
  covers : ∀ k o, c.marketData[k]? = some o → Covers k c.shared.symbols o (sessions k)
  absent : ∀ k, c.marketData[k]? = none →
    (sessions k).requested = [] ∧ (sessions k).earlier = []
  nodup : (sequence c.shared.symbols).Nodup
  known : ∀ symbol ∈ sequence c.shared.symbols, symbol ∈ c.shared.allSymbols
  length : (sequence c.shared.symbols).length ≤ c.marketData.length * width c.shared.symbols

theorem subscribed_initial [Download WebSocket.State W] [LimitRequest R]
    [Download DropCopy.State C] {symbols : Y} (h : sequence symbols = [])
    (accounts : List (String × String)) :
    Subscribed (initial symbols accounts : Controller Y R W C D) .none where
  covers k o ho := by
    obtain ⟨hlt, rfl⟩ := List.getElem?_eq_some_iff.mp ho
    obtain rfl := Nat.lt_one_iff.mp hlt
    exact covers_initial symbols _ 0 true rfl rfl
  absent _ _ := ⟨rfl, rfl⟩
  nodup := h ▸ List.nodup_nil
  known symbol hmem := by
    have hnil : symbol ∈ ([] : List String) := h ▸ hmem
    cases hnil
  length := by
    show (sequence symbols).length ≤ _
    rw [h]
    exact Nat.zero_le _

omit [LawfulDownload MarketData.State D] in
/-- A call that leaves all streams alone. -/
theorem Subscribed.leaves {c c' : Controller Y R W C D} {sessions : Sessions} {os : List Output}
    (h : Subscribed c sessions) (hleaves : ∀ k, Leaves k c os c') :
    Subscribed c' (sessions.after os) := by
  have hsame : sessions.after os = sessions := by
    funext k
    simp only [Sessions.after, (hleaves k).requested, Session.asks_nil]
  obtain ⟨-, -, hlength, hsymbols, hall⟩ := hleaves 0
  rw [hsame]
  refine ⟨?_, ?_, hsymbols ▸ h.nodup, ?_, ?_⟩
  · intro k o ho
    rw [hsymbols]
    exact h.covers k o ((hleaves k).stream.symm.trans ho)
  · intro k hnone
    exact h.absent k ((hleaves k).stream.symm.trans hnone)
  · rw [hsymbols, hall]
    exact h.known
  · rw [hsymbols, hlength]
    exact h.length

omit [LawfulDownload MarketData.State D] in
theorem Subscribed.seq {f g : Handler Y R W C D} {c : Controller Y R W C D} {sessions : Sessions}
    (hf : Subscribed (f c).1 (sessions.after (f c).2))
    (hg : Subscribed (f c).1 (sessions.after (f c).2) →
      Subscribed (g (f c).1).1 ((sessions.after (f c).2).after (g (f c).1).2)) :
    Subscribed (seq f g c).1 (sessions.after (seq f g c).2) := by
  have h := hg hf
  rw [Sessions.after_append] at h
  exact h

omit [LawfulDownload MarketData.State D] in
/-- A loop has found symbols: none of them is in a slice. -/
theorem Subscribed.found {c : Controller Y R W C D} {sessions : Sessions} {new : List String}
    (h : Subscribed c sessions) (c' : Controller Y R W C D)
    (hmarketData : c'.marketData = c.marketData) (hsymbols : c'.shared.symbols = c.shared.symbols)
    (hfound : Emplaced c.shared.allSymbols new c'.shared.allSymbols) :
    Subscribed c' sessions ∧ ∀ symbol ∈ new, symbol ∉ sequence c'.shared.symbols := by
  rw [hsymbols]
  refine ⟨⟨?_, ?_, hsymbols ▸ h.nodup, ?_, ?_⟩, ?_⟩
  · rw [hmarketData, hsymbols]
    exact h.covers
  · rw [hmarketData]
    exact h.absent
  · intro symbol hmem
    exact (hfound.after_eq symbol).mpr (.inl (h.known symbol (hsymbols ▸ hmem)))
  · rw [hmarketData, hsymbols]
    exact h.length
  · intro symbol hmem hsequence
    exact hfound.new symbol hmem (h.known symbol hsequence)

/-- **New symbols are announced.** -/
theorem Subscribed.symbolsUpdate [Download WebSocket.State W] {c : Controller Y R W C D}
    {sessions : Sessions} (h : Subscribed c sessions) (env : Env) (ctx : Context Y)
    {new : List String} (hnodup : new.Nodup)
    (hnew : ∀ symbol ∈ new, symbol ∉ sequence c.shared.symbols)
    (hknown : ∀ symbol ∈ new, symbol ∈ c.shared.allSymbols) :
    Subscribed (symbolsUpdate env ctx new c).1
      (sessions.after (symbolsUpdate env ctx new c).2) := by
  obtain ⟨htable, hall, hsize, hgrows⟩ := symbolsUpdate_table env ctx new c
  have hstreams (k : ℕ) := symbolsUpdate_covers env ctx new c (h.covers k) (h.absent k)
  refine ⟨?_, ?_, ?_, ?_, ?_⟩
  · intro k o ho
    rw [htable]
    exact (hstreams k).1 o ho
  · intro k hnone
    have hbefore : c.marketData[k]? = none := by
      rw [List.getElem?_eq_none_iff] at hnone ⊢
      exact hgrows.trans hnone
    obtain ⟨hrequested, hearlier⟩ := h.absent k hbefore
    simp only [Sessions.after, Session.asks, (hstreams k).2 hbefore, hrequested]
    exact ⟨rfl, hearlier⟩
  · rw [htable, sequence_append]
    refine List.nodup_append.mpr ⟨h.nodup, hnodup, ?_⟩
    rintro symbol hmem symbol' hmem' rfl
    exact hnew symbol hmem' hmem
  · rw [htable, hall, sequence_append]
    intro symbol hmem
    obtain hmem | hmem := List.mem_append.mp hmem
    · exact h.known symbol hmem
    · exact hknown symbol hmem
  · rw [htable, sequence_append, width_append]
    exact (size_append c.shared.symbols new).trans (Nat.mul_le_mul_right _ hsize)

/-! ## Calls -/

variable [Download WebSocket.State W]

omit [LawfulDownload MarketData.State D] [LawfulSymbols Y] in
theorem deliverRest_leaves (k : ℕ) (env : Env) (ctx : Context Y) {x : Rest.Output}
    (h : x.IsQuiet) : Meets (Leaves k) (deliverRest env ctx x : Handler Y R W C D) := by
  cases x with
  | currenciesUpdate currencies => exact currenciesUpdate_leaves k env ctx currencies
  | symbolsUpdate symbols => exact h.elim
  | _ =>
    intro c
    exact ⟨rfl, rfl, rfl, rfl, rfl⟩

omit [Symbols Y] [Download MarketData.State D] [LawfulDownload MarketData.State D]
  [LawfulSymbols Y] [Download WebSocket.State W] in
theorem deliverWebSocket_leaves (j k : ℕ) (env : Env) (ctx : Context Y) (x : WebSocket.Output) :
    Meets (Leaves k) (deliverWebSocket env ctx j x : Handler Y R W C D) := by
  cases x with
  | latch => exact latch_leaves k env ctx
  | _ =>
    intro c
    exact ⟨rfl, rfl, rfl, rfl, rfl⟩

theorem Subscribed.subscribe {c : Controller Y R W C D} {sessions : Sessions}
    (h : Subscribed c sessions) (env : Env) (ctx : Context Y) (symbols : List String) :
    Subscribed (subscribe env ctx symbols c).1
      (sessions.after (subscribe env ctx symbols c).2) := by
  obtain ⟨hsymbols, hemplaced⟩ := emplaceSymbols_emplaced symbols c.shared
  obtain ⟨hfound, hnew⟩ :=
    h.found { c with shared := (emplaceSymbols symbols c.shared).1 } rfl hsymbols hemplaced
  exact hfound.symbolsUpdate env ctx hemplaced.nodup hnew
    fun symbol hmem => (hemplaced.after_eq symbol).mpr (.inr hmem)

variable [LimitRequest R]

theorem Subscribed.callRest {c : Controller Y R W C D} {sessions : Sessions}
    (h : Subscribed c sessions) {event : Rest.Event} {r : Controller Y R W C D × List Output}
    (hr : callRest env ctx event c = some r) : Subscribed r.1 (sessions.after r.2) := by
  obtain ⟨⟨s, os⟩, hcall, rfl⟩ := Option.map_eq_some_iff.mp hr
  obtain ⟨hsymbols, reports, found, hquiet, hemplaced, hos⟩ := Rest.call_brings hcall
  obtain ⟨hfound, hnew⟩ := h.found (c.putRest s) rfl hsymbols hemplaced
  have hreports (k : ℕ) : Leaves k (c.putRest s) (each (deliverRest env ctx) reports
      (c.putRest s)).2 (each (deliverRest env ctx) reports (c.putRest s)).1 :=
    (composes_leaves k).each_of_mem
      (fun x hx => deliverRest_leaves k env ctx (hquiet x hx)) (c.putRest s)
  simp only at hos
  obtain ⟨rfl, -⟩ | rfl := hos
  · exact hfound.leaves hreports
  · obtain ⟨-, -, -, htable, hall⟩ := hreports 0
    have hlast := (hfound.leaves hreports).symbolsUpdate env ctx hemplaced.nodup
      (htable.symm ▸ hnew)
      (fun symbol hmem => hall.symm ▸ (hemplaced.after_eq symbol).mpr (.inr hmem))
    rw [Sessions.after_append] at hlast
    simp only [each_append, each, seq_fst, seq_snd, skip_apply, List.append_nil]
    exact hlast

omit [LawfulSymbols Y] [Download MarketData.State D] [LawfulDownload MarketData.State D] in
theorem callWebSocket_leaves (k : ℕ) {j : ℕ} {event : WebSocket.Event}
    {c : Controller Y R W C D} {r : Controller Y R W C D × List Output}
    (hr : callWebSocket env ctx j event c = some r) : Leaves k c r.2 r.1 := by
  unfold callWebSocket at hr
  split at hr
  · obtain rfl := Option.some.inj hr
    exact (composes_leaves k).refl c
  · obtain ⟨⟨s, os⟩, hcall, rfl⟩ := Option.map_eq_some_iff.mp hr
    obtain ⟨hsymbols, hall⟩ := Prod.mk.inj (WebSocket.call_keepsSymbols hcall)
    have hput : Leaves k c [] (c.putWebSocket j s) := ⟨rfl, rfl, rfl, hsymbols, hall⟩
    exact (composes_leaves k).after hput
      ((composes_leaves k).each (deliverWebSocket_leaves j k env ctx) os _)

omit [Symbols Y] [LawfulSymbols Y] [Download MarketData.State D] [LawfulDownload MarketData.State D]
  [Download WebSocket.State W] [LimitRequest R] in
theorem callDropCopy_leaves [Download DropCopy.State C] (k : ℕ) {j : ℕ} {event : DropCopy.Event}
    {c : Controller Y R W C D} {r : Controller Y R W C D × List Output}
    (hr : callDropCopy env ctx j event c = some r) : Leaves k c r.2 r.1 := by
  unfold callDropCopy at hr
  split at hr
  · obtain rfl := Option.some.inj hr
    exact (composes_leaves k).refl c
  · obtain ⟨⟨o, os⟩, -, rfl⟩ := Option.map_eq_some_iff.mp hr
    exact ⟨rfl, requestedBy_other (fun _ => rfl) _, rfl, rfl, rfl⟩

/-- A stream has been called by itself. -/
theorem after_update (sessions : Sessions) (k : ℕ) (session : Session)
    (os : List MarketData.Output) :
    Sessions.after (Function.update sessions k session) (os.map (.marketData k)) =
      Function.update sessions k (session.asks (MarketData.requested os)) := by
  funext j
  by_cases hj : j = k
  · subst hj
    simp only [Sessions.after, Function.update_self, requestedBy_self]
  · simp only [Sessions.after, Function.update_of_ne hj, requestedBy_ne (Ne.symm hj),
      Session.asks_nil]

omit [LawfulDownload MarketData.State D] [Download WebSocket.State W] [LimitRequest R] in
theorem Subscribed.putMarketData {c : Controller Y R W C D} {sessions : Sessions}
    (h : Subscribed c sessions) {k : ℕ} {o : MarketData D} (ho : c.marketData[k]? = some o)
    {s : MarketData D × SharedState Y} {session : Session}
    (hsame : (s.2.symbols, s.2.allSymbols) = (c.shared.symbols, c.shared.allSymbols))
    (hcovers : Covers k c.shared.symbols s.1 session) :
    Subscribed (c.putMarketData k s) (Function.update sessions k session) := by
  obtain ⟨hsymbols, hall⟩ := Prod.mk.inj hsame
  have hlt : k < c.marketData.length := (List.getElem?_eq_some_iff.mp ho).1
  have hlength : (c.putMarketData k s).marketData.length = c.marketData.length := List.length_set
  refine ⟨?_, ?_, hsymbols ▸ h.nodup, ?_, ?_⟩
  · intro j p hp
    show Covers j s.2.symbols p _
    rw [hsymbols]
    by_cases hj : j = k
    · subst hj
      obtain rfl := Option.some.inj ((List.getElem?_set_self hlt).symm.trans hp)
      rw [Function.update_self]
      exact hcovers
    · rw [Function.update_of_ne hj]
      exact h.covers j p ((List.getElem?_set_ne (Ne.symm hj)).symm.trans hp)
  · intro j hnone
    rw [List.getElem?_eq_none_iff, hlength] at hnone
    rw [Function.update_of_ne (by omega)]
    exact h.absent j (List.getElem?_eq_none hnone)
  · show ∀ symbol ∈ sequence s.2.symbols, symbol ∈ s.2.allSymbols
    rw [hsymbols, hall]
    exact h.known
  · show (sequence s.2.symbols).length ≤ _ * width s.2.symbols
    rw [hlength, hsymbols]
    exact h.length

omit [Download WebSocket.State W] [LimitRequest R] in
theorem Subscribed.checkSecurities {c : Controller Y R W C D} {sessions : Sessions}
    (h : Subscribed c sessions) (env : MarketData.Env) (ctx : MarketData.Context Y) (k : ℕ) :
    Subscribed (onMarketData k (MarketData.checkSecurities env ctx) c).1
      (sessions.after (onMarketData k (MarketData.checkSecurities env ctx) c).2) := by
  unfold onMarketData
  split
  · exact h.leaves fun j => (composes_leaves j).refl c
  · rename_i o ho
    have hkeeps := MarketData.checkSecurities_keepsSymbols env ctx (o, c.shared)
    have hcovers := Covers.checkSecurities env ctx (s := (o, c.shared)) (h.covers k o ho)
    have hput := h.putMarketData ho hkeeps hcovers
    rw [← after_update, Function.update_eq_self] at hput
    exact hput

omit [LimitRequest R] in
theorem Subscribed.securityList {c : Controller Y R W C D} {sessions : Sessions}
    (h : Subscribed c sessions) {k : ℕ} {o : MarketData D} (ho : c.marketData[k]? = some o)
    (header : Fix.Header) {noRelatedSym : List Fix.Instrument}
    {r : Controller Y R W C D × List Output}
    (hr : securityList env ctx k (MarketData.check header o) noRelatedSym c = some r) :
    Subscribed r.1 (sessions.after r.2) := by
  obtain ⟨⟨shared, reports, new⟩, hloop, rfl⟩ := Option.map_eq_some_iff.mp hr
  obtain ⟨hsymbols, hemplaced, hrequested⟩ := MarketData.securities_emplaced hloop
  have hchecked :
      Subscribed (c.putMarketData k (MarketData.check header o, c.shared)) sessions := by
    have hput := h.putMarketData (s := (MarketData.check header o, c.shared)) ho rfl
      ((h.covers k o ho).congr rfl rfl rfl)
    rwa [Function.update_eq_self] at hput
  obtain ⟨hfound, hnew⟩ :=
    hchecked.found (c.putMarketData k (MarketData.check header o, shared)) rfl hsymbols hemplaced
  have hreports : Subscribed (c.putMarketData k (MarketData.check header o, shared))
      (sessions.after (reports.map (.marketData k))) := by
    apply hfound.leaves
    intro j
    refine ⟨rfl, ?_, rfl, rfl, rfl⟩
    by_cases hj : k = j
    · rw [← hj, requestedBy_self]
      exact hrequested
    · exact requestedBy_ne hj reports
  have hknown (symbol : String) (hmem : symbol ∈ new) : symbol ∈ shared.allSymbols :=
    (hemplaced.after_eq symbol).mpr (.inr hmem)
  refine Subscribed.seq hreports fun _ => Subscribed.seq ?_ fun hupdated => ?_
  · split_ifs
    · exact hreports.leaves fun j => (composes_leaves j).refl _
    · exact hreports.symbolsUpdate env ctx hemplaced.nodup hnew hknown
  · exact hupdated.checkSecurities env.marketData (ctx.marketData k) k

omit [LawfulDownload MarketData.State D] [Download WebSocket.State W] [LimitRequest R] in
/-- A call for a stream that is not there. -/
theorem Subscribed.heard {c : Controller Y R W C D} {sessions : Sessions}
    (h : Subscribed c sessions) {k : ℕ} (hnone : c.marketData[k]? = none)
    (event : MarketData.Event) :
    Subscribed c (Function.update sessions k ((sessions k).hears event)) := by
  obtain ⟨hrequested, hearlier⟩ := h.absent k hnone
  refine ⟨?_, ?_, h.nodup, h.known, h.length⟩
  · intro j o ho
    have hj : j ≠ k := by
      rintro rfl
      cases hnone.symm.trans ho
    rw [Function.update_of_ne hj]
    exact h.covers j o ho
  · intro j hj
    by_cases hjk : j = k
    · subst hjk
      rw [Function.update_self]
      cases event with
      | disconnected => simp [Session.hears, hrequested, hearlier]
      | message header value =>
        cases value with
        | logon => exact ⟨hrequested, hearlier⟩
        | _ => exact ⟨hrequested, hearlier⟩
      | _ => exact ⟨hrequested, hearlier⟩
    · rw [Function.update_of_ne hjk]
      exact h.absent j hj

variable [Download DropCopy.State C]

/-- **One call.** -/
theorem Subscribed.call {c : Controller Y R W C D} {sessions : Sessions}
    (h : Subscribed c sessions) {event : Event} {r : Controller Y R W C D × List Output}
    (hanswered : AnsweredOnce (c, sessions) (ctx, event)) (hr : call env ctx event c = some r) :
    Subscribed r.1 (sessions.next (ctx, event) r.2) := by
  cases event with
  | subscribe symbols =>
    obtain rfl := Option.some.inj hr
    exact h.subscribe env ctx symbols
  | rest event => exact h.callRest hr
  | dropCopy j event => exact h.leaves fun k => callDropCopy_leaves k hr
  | webSocket j event => exact h.leaves fun k => callWebSocket_leaves k hr
  | marketData k event =>
    simp only [Controller.call, callMarketData] at hr
    split at hr
    · rename_i hnone
      obtain rfl := Option.some.inj hr
      have hheard := h.heard hnone event.1
      simp only [Sessions.next, Sessions.hears]
      split_ifs
      · exact hheard
      · exact hheard.leaves fun j => (composes_leaves j).refl c
    · rename_i o ho
      split at hr
      · rename_i header noRelatedSym hevent
        have hsame : sessions.hears (.marketData k event) = sessions := by
          simp only [Sessions.hears, hevent, Session.hears, Function.update_eq_self]
        simp only [Sessions.next, Event.refreshes, hevent, MarketData.Event.refreshes,
          Bool.false_eq_true, if_false, hsame]
        exact h.securityList ho header hr
      · rename_i hevent
        obtain ⟨⟨s, os⟩, hcall, rfl⟩ := Option.map_eq_some_iff.mp hr
        -- the stream by itself; what the others have asked for stays
        have hcovers := Covers.call (s := (o, c.shared)) event.2 hevent (h.covers k o ho)
          (fun header heq => hanswered k event header rfl heq) hcall
        have hput := h.putMarketData ho (MarketData.call_keepsSymbols hevent hcall) hcovers
        simp only [Sessions.next, Sessions.hears, Event.refreshes, after_update]
        by_cases hrefreshes : event.1.refreshes = true
        · rw [if_pos hrefreshes] at hput ⊢
          exact hput
        · rw [if_neg hrefreshes] at hput ⊢
          exact hput

/-! ## What has been announced -/

section

omit [Download MarketData.State D] [LawfulDownload MarketData.State D]
  [Download WebSocket.State W] [LimitRequest R] [Download DropCopy.State C]

/-- The sequence of symbols grows by what is announced. -/
def Extends (c : Controller Y R W C D) (os : List Output) (c' : Controller Y R W C D) : Prop :=
  sequence c'.shared.symbols = sequence c.shared.symbols ++ (updates os).flatten

theorem composes_extends : Composes (Extends : Controller Y R W C D → List Output →
    Controller Y R W C D → Prop) where
  refl _ := (List.append_nil _).symm
  trans {c c' c'' os os'} h h' := by
    unfold Extends at h h' ⊢
    rw [h', h, updates_append, List.flatten_append, List.append_assoc]

/-- Nothing is announced, and the table is left alone. -/
theorem Announces.extends {c c' : Controller Y R W C D} {os : List Output}
    (h : Announces [] c os c') (hsymbols : c'.shared.symbols = c.shared.symbols) :
    Extends c os c' := by
  unfold Extends
  rw [h.updates, hsymbols]
  exact (List.append_nil _).symm

/-- A loop may have found symbols before: the table does not know of them. -/
theorem Extends.of_found {c found c' : Controller Y R W C D} {os : List Output}
    (h : Extends found os c') (hsymbols : found.shared.symbols = c.shared.symbols) :
    Extends c os c' := by
  unfold Extends at h ⊢
  rw [h, hsymbols]

end

omit [LawfulDownload MarketData.State D] [LimitRequest R] [Download DropCopy.State C] in
theorem symbolsUpdate_extends (env : Env) (ctx : Context Y) (new : List String) :
    Meets Extends (symbolsUpdate env ctx new : Handler Y R W C D) := by
  intro c
  unfold Extends
  rw [(symbolsUpdate_table env ctx new c).1, (symbolsUpdate_announces env ctx new c).updates,
    sequence_append, List.flatten_singleton]

omit [LawfulDownload MarketData.State D] [Download DropCopy.State C] in
theorem callRest_extends {event : Rest.Event} {c : Controller Y R W C D}
    {r : Controller Y R W C D × List Output} (h : callRest env ctx event c = some r) :
    Extends c r.2 r.1 := by
  obtain ⟨⟨s, os⟩, hcall, rfl⟩ := Option.map_eq_some_iff.mp h
  obtain ⟨hsymbols, reports, found, hquiet, -, hos⟩ := Rest.call_brings hcall
  have hreport (x : Rest.Output) (hx : x ∈ reports) :
      Meets Extends (deliverRest env ctx x : Handler Y R W C D) := by
    intro c
    exact (deliverRest_silent env ctx (hquiet x hx) c).extends
      (deliverRest_leaves 0 env ctx (hquiet x hx) c).symbols
  simp only at hos
  have hdeliver : Meets Extends (each (deliverRest env ctx) os : Handler Y R W C D) := by
    apply composes_extends.each_of_mem
    obtain ⟨rfl, -⟩ | rfl := hos
    · exact hreport
    · intro x hx
      obtain hx | hx := List.mem_append.mp hx
      · exact hreport x hx
      · obtain rfl := List.mem_singleton.mp hx
        exact symbolsUpdate_extends env ctx found
  exact (hdeliver (c.putRest s)).of_found hsymbols

omit [LawfulDownload MarketData.State D] [LimitRequest R] [Download DropCopy.State C] in
theorem securityList_extends {k : ℕ} {o : MarketData D} {noRelatedSym : List Fix.Instrument}
    {c : Controller Y R W C D} {r : Controller Y R W C D × List Output}
    (h : securityList env ctx k o noRelatedSym c = some r) : Extends c r.2 r.1 := by
  obtain ⟨⟨shared, reports, new⟩, hloop, rfl⟩ := Option.map_eq_some_iff.mp h
  obtain ⟨hsymbols, -, -⟩ := MarketData.securities_emplaced hloop
  have hreports : Meets Extends (emit (reports.map (.marketData k)) : Handler Y R W C D) := by
    intro c
    exact Announces.extends ⟨rfl, updates_map (fun _ => rfl) _⟩ rfl
  have hcheck : Meets Extends (onMarketData k
      (MarketData.checkSecurities env.marketData (ctx.marketData k)) : Handler Y R W C D) := by
    apply onMarketData_meets composes_extends
    intro c o _
    obtain ⟨htable, hall⟩ := Prod.mk.inj (MarketData.checkSecurities_keepsSymbols env.marketData
      (ctx.marketData k) (o, c.shared))
    exact Announces.extends ⟨hall, updates_map (fun _ => rfl) _⟩ htable
  have hnew : Meets Extends (if new.isEmpty then skip else symbolsUpdate env ctx new :
      Handler Y R W C D) := by
    split_ifs
    · exact composes_extends.skip
    · exact symbolsUpdate_extends env ctx new
  have hall := composes_extends.seq hreports (composes_extends.seq hnew hcheck)
  exact (hall (c.putMarketData k (o, shared))).of_found hsymbols

omit [LawfulDownload MarketData.State D] in
theorem call_extends {event : Event} {c : Controller Y R W C D}
    {r : Controller Y R W C D × List Output} (h : call env ctx event c = some r) :
    Extends c r.2 r.1 := by
  cases event with
  | subscribe symbols =>
    obtain rfl := Option.some.inj h
    exact (symbolsUpdate_extends env ctx _ _).of_found (emplaceSymbols_emplaced symbols c.shared).1
  | rest event => exact callRest_extends h
  | dropCopy k event =>
    exact (callDropCopy_silent h).extends (callDropCopy_leaves 0 h).symbols
  | webSocket k event =>
    exact (callWebSocket_silent h).extends (callWebSocket_leaves 0 h).symbols
  | marketData k event =>
    simp only [call, callMarketData] at h
    split at h
    · obtain rfl := Option.some.inj h
      exact composes_extends.refl c
    · rename_i o ho
      split at h
      · exact securityList_extends h
      · rename_i event' hevent
        obtain ⟨⟨s, os⟩, hcall, rfl⟩ := Option.map_eq_some_iff.mp h
        obtain ⟨htable, hall⟩ := Prod.mk.inj (MarketData.call_keepsSymbols hevent hcall)
        exact Announces.extends ⟨hall, updates_map (fun _ => rfl) _⟩ htable

omit [LawfulDownload MarketData.State D] in
/-- **The table is what has been announced**, in the order of the announcements. -/
theorem extends_of_run {is : List (Context Y × Event)} {s t : Controller Y R W C D × Sessions}
    (h : (run (keeping (step env) Sessions.next) s is).1 = some t) :
    Extends s.1 (run (keeping (step env) Sessions.next) s is).2 t.1 := by
  refine run_relates (G := fun _ _ => True) (R := fun s os t => Extends s.1 os t.1)
    (fun s => composes_extends.refl s.1) composes_extends.trans ?_ (guarded_of_forall ?_) h
  · rintro s ⟨ctx, event⟩ t - ht
    obtain ⟨hstep, -⟩ := keeping_some ht
    obtain hended | ⟨r, hcall, hreturns⟩ := step_cases env s.1 ctx event
    · rw [hended] at hstep
      cases hstep
    · rw [hreturns] at hstep
      obtain hr : r.1 = t.1 := Option.some.inj hstep
      show Extends s.1 (step env s.1 (ctx, event)).2 t.1
      rw [hreturns, ← hr]
      exact call_extends hcall
  · exact fun _ _ _ => trivial

/-! ## Once in a session -/

/-- **Runs.** -/
theorem subscribed_of_run (env : Env) {symbols : Y} (hempty : sequence symbols = [])
    (accounts : List (String × String)) {is : List (Context Y × Event)}
    {c : Controller Y R W C D} {sessions : Sessions}
    (hanswered : Guarded (keeping (step env) Sessions.next) AnsweredOnce
      ((initial symbols accounts : Controller Y R W C D), .none) is)
    (hrun : (run (keeping (step env) Sessions.next)
      ((initial symbols accounts : Controller Y R W C D), .none) is).1 = some (c, sessions)) :
    Subscribed c sessions := by
  refine (run_sound (I := fun s => Subscribed s.1 s.2) (P := fun _ => True) ?_
    (subscribed_initial hempty accounts) hanswered).1 _ hrun
  rintro ⟨c, sessions⟩ ⟨ctx, event⟩ h hanswered
  refine ⟨?_, fun _ _ => trivial⟩
  intro t ht
  obtain ⟨hstep, hnext⟩ := keeping_some ht
  obtain hended | ⟨r, hr, hreturns⟩ := step_cases env c ctx event
  · rw [hended] at hstep
    cases hstep
  · rw [hreturns] at hstep hnext
    rw [hnext, ← Option.some.inj hstep]
    exact h.call hanswered hr

omit [Download WebSocket.State W] [LimitRequest R] [Download DropCopy.State C]
  [LawfulDownload MarketData.State D] in
/-- What a stream has ever asked for is of its slice. -/
theorem Subscribed.slice {c : Controller Y R W C D} {sessions : Sessions}
    (h : Subscribed c sessions) {k : ℕ} {symbol : String}
    (hmem : symbol ∈ (sessions k).earlier ++ (sessions k).requested) :
    symbol ∈ Symbols.getSlice c.shared.symbols k 0 := by
  cases ho : c.marketData[k]? with
  | none =>
    obtain ⟨hrequested, hearlier⟩ := h.absent k ho
    rw [hrequested, hearlier] at hmem
    cases hmem
  | some o =>
    have hcovers := h.covers k o ho
    obtain hmem | hmem := List.mem_append.mp hmem
    · exact hcovers.earlier symbol hmem
    · exact hcovers.requested.subset hmem

/-- **Every symbol is subscribed to once in a session.** In every run in which a log-on is
    answered once, the symbols are those that have been announced, in that order; a stream that
    is ready has asked, in the session that is under way, for exactly the symbols of its slice,
    each of them once, and one that is not yet or no longer ready for no others; there is a
    stream for the slice of every symbol; and no two streams have ever asked for the same
    symbol. -/
theorem symbols_are_subscribed_once (env : Env) {symbols : Y} (hempty : sequence symbols = [])
    (accounts : List (String × String)) {is : List (Context Y × Event)}
    {c : Controller Y R W C D} {sessions : Sessions}
    (hanswered : Guarded (keeping (step env) Sessions.next) AnsweredOnce
      ((initial symbols accounts : Controller Y R W C D), .none) is)
    (hrun : (run (keeping (step env) Sessions.next)
      ((initial symbols accounts : Controller Y R W C D), .none) is).1 = some (c, sessions)) :
    sequence c.shared.symbols = (updates (run (keeping (step env) Sessions.next)
      ((initial symbols accounts : Controller Y R W C D), .none) is).2).flatten ∧
    (∀ k o, c.marketData[k]? = some o → o.ready_ = true →
      (sessions k).requested = Symbols.getSlice c.shared.symbols o.index 0) ∧
    (∀ k, (sessions k).requested.Nodup ∧
      (sessions k).requested <+: Symbols.getSlice c.shared.symbols k 0) ∧
    (∀ symbol ∈ sequence c.shared.symbols, ∃ k o, c.marketData[k]? = some o ∧ o.index = k ∧
      symbol ∈ Symbols.getSlice c.shared.symbols k 0) ∧
    ∀ j k symbol, symbol ∈ (sessions j).earlier ++ (sessions j).requested →
      symbol ∈ (sessions k).earlier ++ (sessions k).requested → j = k := by
  have h := subscribed_of_run env hempty accounts hanswered hrun
  have htable := extends_of_run hrun
  refine ⟨?_, ?_, ?_, ?_, ?_⟩
  · have hinitial :
        sequence (initial symbols accounts : Controller Y R W C D).shared.symbols = [] := hempty
    unfold Extends at htable
    rw [htable, hinitial, List.nil_append]
  · intro k o ho hready
    have hcovers := h.covers k o ho
    rw [hcovers.index]
    exact hcovers.ready hready
  · intro k
    cases ho : c.marketData[k]? with
    | none =>
      rw [(h.absent k ho).1]
      exact ⟨List.nodup_nil, List.nil_prefix⟩
    | some o =>
      have hbegins := (h.covers k o ho).requested
      exact ⟨(getSlice_nodup h.nodup k).sublist hbegins.sublist, hbegins⟩
  · intro symbol hmem
    obtain ⟨k, hlt, hin⟩ := getSlice_covers h.length hmem
    exact ⟨k, _, List.getElem?_eq_getElem hlt,
      (h.covers k _ (List.getElem?_eq_getElem hlt)).index, hin⟩
  · intro j k symbol hj hk
    exact getSlice_unique h.nodup (h.slice hj) (h.slice hk)

/-- A client subscribes to a symbol for each of two slices, and the stream that is created for
    the second one logs on. -/
abbrev subscribeAndLogOn : List (Context SymbolTable × Event) :=
  [(.plain, .subscribe ["BTC-PERPETUAL", "ETH-PERPETUAL"]),
    (.plain, .marketData 1 ⟨.connected, trivial⟩),
    (.plain, .marketData 1 ⟨.message ⟨1, 1⟩ .logon, trivial⟩)]

/-- The second stream asks for its slice. -/
theorem second_slice_is_subscribed_once :
    ∃ c sessions o, (run (keeping (step .plain) Sessions.next) (plain, .none)
        subscribeAndLogOn).1 = some (c, sessions) ∧
      c.marketData[1]? = some o ∧ o.ready_ = true ∧
      Symbols.getSlice c.shared.symbols o.index 0 = ["ETH-PERPETUAL"] ∧
      (sessions 1).requested = Symbols.getSlice c.shared.symbols o.index 0 := by
  have hguarded : Guarded (keeping (step .plain) Sessions.next) AnsweredOnce (plain, .none)
      subscribeAndLogOn := by
    refine ⟨(fun _ _ _ h => nomatch h), fun s hs => ?_⟩
    have hsubscribed : (s.2 1).answered = false := by
      rw [(keeping_some hs).2]
      rfl
    refine ⟨?_, fun t ht => ⟨?_, fun _ _ => trivial⟩⟩
    · intro k event header hk hlogon
      cases hk
      cases hlogon
    · intro k event header hk _
      cases hk
      rw [(keeping_some ht).2]
      exact hsubscribed
  have hseen : (run (keeping (step .plain) Sessions.next) (plain, .none) subscribeAndLogOn).1.map
      (fun s => (s.1.marketData[1]?.map fun o => (o.index, o.ready_),
        Symbols.getSlice s.1.shared.symbols 1 0)) =
      some (some (1, true), ["ETH-PERPETUAL"]) := by
    decide +kernel
  obtain ⟨⟨c, sessions⟩, hrun, hreached⟩ := Option.map_eq_some_iff.mp hseen
  obtain ⟨hstream, hslice⟩ := Prod.mk.inj hreached
  obtain ⟨o, ho, hready⟩ := Option.map_eq_some_iff.mp hstream
  obtain ⟨hindex, hready⟩ := Prod.mk.inj hready
  have hempty : sequence (⟨0, []⟩ : SymbolTable) = [] := rfl
  exact ⟨c, sessions, o, hrun, ho, hready, hindex ▸ hslice,
    (symbols_are_subscribed_once .plain hempty [("a", "key")] hguarded hrun).2.1 1 o ho
      hready⟩

end Controller

end DeribitGateway
