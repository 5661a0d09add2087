import Mathlib.Logic.Relator
import DeribitGateway.Fix.MarketData
import DeribitGateway.Json.Rest
import DeribitGateway.Json.WebSocket
import DeribitGateway.Multicast.Gateway

/-!
# The multipliers of a symbol

Amounts are converted into contracts by a multiplier, and there are three places that hold one
for a symbol. `Shared::multiplier` is set by every item of a download; an `Instrument` keeps the
multiplier it was created with, whoever created it; and a web socket stream keeps, with the top
of the book, the multiplier that was shared when the first quote came. Private trades, the
multicast streams and quotes read one of the three each.

`Caches` are the three of them, and a step is an item of a download, an announcement of an
instrument, or a quote, in any order. What is held in the latter two is never changed any more
(`Published`), while the first follows the latest item, so they agree exactly as long as no item
reports something else (`multipliers_agree_iff`).

The last section ties each step to the handler it is a part of.
-/

namespace DeribitGateway

open Function Transducer

namespace Multipliers

structure Env where
  useFixReferenceData : Bool
  /-- `WebSocket::publish_top_of_book_` -/
  publishTopOfBook : Bool
  /-- `utils::is_zero` -/
  isZero : Double → Bool

/-- `Instrument`, without its sequencer. -/
structure CachedInstrument where
  symbol : String
  contractSize : Double
  multiplier : Double
  discard : Bool
  deriving DecidableEq

structure Caches where
  /-- `Shared::multiplier` -/
  multiplier : String → Option Double
  /-- `Shared::instruments` -/
  instruments : UInt32 → Option CachedInstrument
  /-- `WebSocket::top_of_book_` of each stream, without the layers. -/
  topOfBook : ℕ → String → Option Double

/-- What reaches the caches. `discard` is what `discard_symbol` answers, unless it throws. -/
inductive Item
  /-- An item of a `GetInstrumentsAck`. The dispatch of its reference data may throw. -/
  | instrument (item : Json.Instrument) (discard : Option Bool) (dispatched : Bool)
  /-- An item of a `SecurityList`. Its reference data may throw. -/
  | security (item : Fix.Instrument) (discard : Option Bool) (reported : Bool)
  /-- `Instrument` on either multicast stream. -/
  | announcement (instrument : Sbe.Instrument) (discard : Option Bool)
  /-- A `Quote` on a web socket stream. -/
  | quote (stream : ℕ) (value : Json.Quote)

namespace Caches

def empty : Caches := ⟨fun _ => none, fun _ => none, fun _ _ => none⟩

/-- `shared_.multiplier[symbol] = multiplier` -/
def setMultiplier (c : Caches) (symbol : String) (multiplier : Double) : Caches :=
  { c with multiplier := update c.multiplier symbol (some multiplier) }

/-- `Shared::maybe_create_instrument` -/
def maybeCreateInstrument (c : Caches) (instrumentId : UInt32) (instrument : CachedInstrument) :
    Caches :=
  match c.instruments instrumentId with
  | some _ => c
  | none => { c with instruments := update c.instruments instrumentId (some instrument) }

/-- `WebSocket::get_top_of_book`: the shared multiplier is emplaced. -/
def getTopOfBook (c : Caches) (stream : ℕ) (symbol : String) : Caches :=
  match c.topOfBook stream symbol with
  | some _ => c
  | none =>
    match c.multiplier symbol with
    | none => c
    | some multiplier =>
      { c with topOfBook :=
          update c.topOfBook stream (update (c.topOfBook stream) symbol (some multiplier)) }

end Caches

def step (env : Env) : Step Caches Item Empty := fun c item =>
  match item with
  | .instrument item discard dispatched =>
    match discard with
    | none => (some c, [])  -- caught, and logged
    | some discard =>
      let multiplier := SharedState.computeContractsMultiplier env.isZero item.contractSize
      let c := c.maybeCreateInstrument (.ofInt item.instrumentId)
        { symbol := item.instrumentName, contractSize := item.contractSize, multiplier, discard }
      if env.useFixReferenceData || dispatched then
        (some (c.setMultiplier item.instrumentName multiplier), [])
      else (some c, [])
  | .security item discard reported =>
    match discard with
    | none => (none, [])
    | some _ =>
      if env.useFixReferenceData && !reported then (none, [])
      else
        (some (c.setMultiplier item.symbol
          (SharedState.computeContractsMultiplier env.isZero item.contractMultiplier)), [])
  | .announcement instrument discard =>
    -- the callback is not called for an instrument that is there
    if (c.instruments instrument.instrumentId).isSome then (some c, [])
    else
      match discard with
      | none => (none, [])
      | some discard =>
        (some (c.maybeCreateInstrument instrument.instrumentId
          { symbol := instrument.instrumentName
            contractSize := some instrument.contractSize
            multiplier := SharedState.computeContractsMultiplier env.isZero
              (some instrument.contractSize)
            discard }), [])
  | .quote stream value =>
    if env.publishTopOfBook then (some (c.getTopOfBook stream value.instrumentName), [])
    else (some c, [])

/-! ## What is used -/

/-- The multiplier of an instrument that is not discarded, or of a quote. -/
def Caches.Published (c : Caches) (symbol : String) (multiplier : Double) : Prop :=
  (∃ i instrument, c.instruments i = some instrument ∧ instrument.discard = false ∧
      instrument.symbol = symbol ∧ instrument.multiplier = multiplier) ∨
    ∃ stream, c.topOfBook stream symbol = some multiplier

/-- A multiplier that amounts of the symbol are converted with. -/
def Caches.Uses (c : Caches) (symbol : String) (multiplier : Double) : Prop :=
  c.multiplier symbol = some multiplier ∨ c.Published symbol multiplier

/-- No two multipliers are used for one symbol. -/
def Caches.Agree (c : Caches) : Prop := Relator.RightUnique c.Uses

/-- All that is published with goes by this multiplier. -/
def Caches.PublishedBy (c : Caches) (symbol : String) (multiplier : Double) : Prop :=
  ∀ k, c.Published symbol k → k = multiplier

/-- All that is used goes by this multiplier. -/
def Caches.UsedBy (c : Caches) (symbol : String) (multiplier : Double) : Prop :=
  ∀ k, c.Uses symbol k → k = multiplier

/-- An item that sets the shared multiplier reports the one that is published with, and one
    that creates an instrument without doing so the one that is used. -/
def Consistent (env : Env) (c : Caches) : Item → Prop
  | .instrument item discard dispatched =>
    let multiplier := SharedState.computeContractsMultiplier env.isZero item.contractSize
    if discard = none then True
    else if env.useFixReferenceData || dispatched then
      c.PublishedBy item.instrumentName multiplier
    else discard = some false → c.instruments (.ofInt item.instrumentId) = none →
      c.UsedBy item.instrumentName multiplier
  | .security item discard reported =>
    discard ≠ none → (env.useFixReferenceData && !reported) = false →
      c.PublishedBy item.symbol
        (SharedState.computeContractsMultiplier env.isZero item.contractMultiplier)
  | .announcement instrument discard =>
    discard = some false → c.instruments instrument.instrumentId = none →
      c.UsedBy instrument.instrumentName
        (SharedState.computeContractsMultiplier env.isZero (some instrument.contractSize))
  | .quote _ _ => True

/-! ## What the operations change -/

variable {env : Env} {c : Caches}

theorem published_create {i : UInt32} {x : CachedInstrument} (h : c.instruments i = none)
    (symbol : String) (k : Double) :
    (c.maybeCreateInstrument i x).Published symbol k ↔
      (x.discard = false ∧ symbol = x.symbol ∧ k = x.multiplier) ∨ c.Published symbol k := by
  have hcreated : c.maybeCreateInstrument i x =
      { c with instruments := update c.instruments i (some x) } := by
    simp [Caches.maybeCreateInstrument, h]
  rw [hcreated]
  constructor
  · rintro (⟨j, y, hy, hd, rfl, rfl⟩ | ht)
    · by_cases hj : j = i
      · subst hj
        obtain rfl : x = y := by simpa using hy
        exact .inl ⟨hd, rfl, rfl⟩
      · exact .inr (.inl ⟨j, y, by simpa [hj] using hy, hd, rfl, rfl⟩)
    · exact .inr (.inr ht)
  · rintro (⟨hd, rfl, rfl⟩ | ⟨j, y, hy, hd, rfl, rfl⟩ | ht)
    · exact .inl ⟨i, x, by simp, hd, rfl, rfl⟩
    · have hj : j ≠ i := by
        rintro rfl
        rw [h] at hy
        cases hy
      exact .inl ⟨j, y, by simpa [hj] using hy, hd, rfl, rfl⟩
    · exact .inr ht

theorem create_of_some {i : UInt32} {x y : CachedInstrument} (h : c.instruments i = some y) :
    c.maybeCreateInstrument i x = c := by
  simp [Caches.maybeCreateInstrument, h]

/-- At most the instrument's own multiplier comes to those that are published with. -/
theorem Caches.Published.of_create {i : UInt32} {x : CachedInstrument} {symbol : String}
    {k : Double} (hk : (c.maybeCreateInstrument i x).Published symbol k) :
    (symbol = x.symbol ∧ k = x.multiplier) ∨ c.Published symbol k := by
  cases hi : c.instruments i with
  | some y => exact .inr (by rwa [create_of_some hi] at hk)
  | none => exact ((published_create hi symbol k).mp hk).imp_left And.right

theorem Caches.Published.create {symbol : String} {k : Double} (hk : c.Published symbol k)
    (i : UInt32) (x : CachedInstrument) : (c.maybeCreateInstrument i x).Published symbol k := by
  cases hi : c.instruments i with
  | some y => rwa [create_of_some hi]
  | none => exact (published_create hi symbol k).mpr (.inr hk)

theorem multiplier_create (i : UInt32) (x : CachedInstrument) :
    (c.maybeCreateInstrument i x).multiplier = c.multiplier := by
  unfold Caches.maybeCreateInstrument
  cases c.instruments i <;> rfl

/-- A quote uses the multiplier that is shared. -/
theorem uses_getTopOfBook (stream : ℕ) (s symbol : String) (k : Double) :
    (c.getTopOfBook stream s).Uses symbol k ↔ c.Uses symbol k := by
  unfold Caches.getTopOfBook
  cases ht : c.topOfBook stream s with
  | some _ => rfl
  | none =>
    cases hm : c.multiplier s with
    | none => rfl
    | some m =>
      have hentry : ∀ n, update c.topOfBook stream
            (update (c.topOfBook stream) s (some m)) n symbol = some k ↔
          (n = stream ∧ symbol = s ∧ m = k) ∨ c.topOfBook n symbol = some k := by
        intro n
        by_cases hn : n = stream
        · subst hn
          by_cases hs : symbol = s
          · subst hs
            simp [ht]
          · simp [hs]
        · simp [hn]
      constructor
      · rintro (h | h | ⟨n, h⟩)
        · exact .inl h
        · exact .inr (.inl h)
        · rcases (hentry n).mp h with ⟨-, rfl, rfl⟩ | h
          · exact .inl hm
          · exact .inr (.inr ⟨n, h⟩)
      · rintro (h | h | ⟨n, h⟩)
        · exact .inl h
        · exact .inr (.inl h)
        · exact .inr (.inr ⟨n, (hentry n).mpr (.inr h)⟩)

/-! ## When the caches agree -/

/-- One more pair leaves a relation single-valued if it is the only one it may have. -/
theorem rightUnique_insert {α β : Type} {R S : α → β → Prop} {a : α} {b : β}
    (hS : ∀ x y, S x y ↔ (x = a ∧ y = b) ∨ R x y) (hR : Relator.RightUnique R) :
    Relator.RightUnique S ↔ ∀ y, R a y → y = b := by
  constructor
  · intro h y hy
    exact h ((hS a y).mpr (.inr hy)) ((hS a b).mpr (.inl ⟨rfl, rfl⟩))
  · intro h x y z hy hz
    rcases (hS x y).mp hy with ⟨rfl, rfl⟩ | hy
    · rcases (hS x z).mp hz with ⟨-, rfl⟩ | hz
      · rfl
      · exact (h z hz).symm
    · rcases (hS x z).mp hz with ⟨rfl, rfl⟩ | hz
      · exact h y hy
      · exact hR hy hz

theorem agree_of_uses {c' : Caches} (h : ∀ symbol k, c'.Uses symbol k ↔ c.Uses symbol k) :
    c'.Agree ↔ c.Agree := by
  unfold Caches.Agree Relator.RightUnique
  simp only [h]

/-- The shared multiplier is set, behind what may have created an instrument with it. -/
theorem agree_setMultiplier {c' : Caches} {s : String} {k : Double} (hc : c.Agree)
    (hmultiplier : c'.multiplier = c.multiplier)
    (hpublished : ∀ symbol k', c'.Published symbol k' →
      (symbol = s ∧ k' = k) ∨ c.Published symbol k')
    (hkeeps : ∀ symbol k', c.Published symbol k' → c'.Published symbol k') :
    (c'.setMultiplier s k).Agree ↔ c.PublishedBy s k := by
  -- what was shared for `s` is overwritten, so it has no say
  let rest : String → Double → Prop := fun symbol k' =>
    (symbol ≠ s ∧ c.multiplier symbol = some k') ∨ c.Published symbol k'
  have hrest : Relator.RightUnique rest := by
    rintro symbol k₁ k₂ h₁ h₂
    exact hc (h₁.imp_left And.right) (h₂.imp_left And.right)
  have huses : ∀ symbol k', (c'.setMultiplier s k).Uses symbol k' ↔
      (symbol = s ∧ k' = k) ∨ rest symbol k' := by
    intro symbol k'
    have hshared : (c'.setMultiplier s k).multiplier symbol = some k' ↔
        (symbol = s ∧ k' = k) ∨ (symbol ≠ s ∧ c.multiplier symbol = some k') := by
      by_cases hs : symbol = s
      · subst hs
        simp [Caches.setMultiplier, eq_comm]
      · simp [Caches.setMultiplier, hs, hmultiplier]
    constructor
    · rintro (h | h)
      · exact (hshared.mp h).imp_right .inl
      · exact (hpublished symbol k' h).imp_right .inr
    · rintro (h | h | h)
      · exact .inl (hshared.mpr (.inl h))
      · exact .inl (hshared.mpr (.inr h))
      · exact .inr (hkeeps symbol k' h)
  refine (rightUnique_insert huses hrest).trans (forall_congr' fun k' => ?_)
  simp [rest]

/-- An instrument is created. -/
theorem agree_create {i : UInt32} {x : CachedInstrument} (hc : c.Agree)
    (h : c.instruments i = none) :
    (c.maybeCreateInstrument i x).Agree ↔ (x.discard = false → c.UsedBy x.symbol x.multiplier) := by
  cases hd : x.discard with
  | true =>
    refine iff_of_true ((agree_of_uses fun symbol k => ?_).mpr hc) fun h => nomatch h
    unfold Caches.Uses
    rw [multiplier_create, published_create h, hd]
    simp
  | false =>
    rw [forall_prop_of_true rfl]
    refine rightUnique_insert (fun symbol k => ?_) hc
    unfold Caches.Uses
    rw [multiplier_create, published_create h, hd]
    simp only [true_and]
    exact or_left_comm

/-- **The step lemma.** From caches that agree, an item leads to caches that agree exactly if it
    is consistent with them. -/
theorem agree_step_iff (hc : c.Agree) (item : Item) :
    (∀ c', (step env c item).1 = some c' → c'.Agree) ↔ Consistent env c item := by
  cases item with
  | instrument item discard dispatched =>
    cases discard with
    | none => simp [step, Consistent, hc]
    | some discard =>
      cases hset : (env.useFixReferenceData || dispatched) with
      | true =>
        simp only [step, Consistent, hset, if_true, Option.some.injEq, forall_eq', reduceCtorEq,
          if_false]
        exact agree_setMultiplier hc (multiplier_create _ _) (fun _ _ hk => hk.of_create)
          fun _ _ hk => hk.create _ _
      | false =>
        simp only [step, Consistent, hset, Bool.false_eq_true, if_false, Option.some.injEq,
          forall_eq', reduceCtorEq]
        cases hi : c.instruments (.ofInt item.instrumentId) with
        | some y =>
          rw [create_of_some hi]
          simp [hc]
        | none =>
          rw [agree_create hc hi]
          simp
  | security item discard reported =>
    cases discard with
    | none => simp [step, Consistent]
    | some discard =>
      cases hended : (env.useFixReferenceData && !reported) with
      | true => simp [step, Consistent, hended]
      | false =>
        simp only [step, Consistent, hended, Bool.false_eq_true, if_false, Option.some.injEq,
          forall_eq', ne_eq, reduceCtorEq, not_false_eq_true, forall_true_left]
        exact agree_setMultiplier hc rfl (fun _ _ => .inr) (fun _ _ => id)
  | announcement instrument discard =>
    cases hi : c.instruments instrument.instrumentId with
    | some y => simp [step, Consistent, hi, hc]
    | none =>
      cases discard with
      | none => simp [step, Consistent, hi]
      | some discard =>
        simp only [step, Consistent, hi, Option.isSome_none, Bool.false_eq_true, if_false,
          Option.some.injEq, forall_eq', forall_true_left]
        exact agree_create hc hi
  | quote stream value =>
    refine iff_of_true ?_ trivial
    intro c' hc'
    simp only [step] at hc'
    split_ifs at hc'
    · obtain rfl := Option.some.inj hc'
      exact (agree_of_uses (uses_getTopOfBook stream value.instrumentName)).mpr hc
    · exact Option.some.inj hc' ▸ hc

/-! ## Runs -/

/-- The caches agree behind the item. -/
def LeavesAgreed (env : Env) (c : Caches) (item : Item) : Prop :=
  ∀ c', (step env c item).1 = some c' → c'.Agree

theorem agree_empty : Caches.empty.Agree := by
  rintro symbol k k' (h | ⟨i, x, h, -⟩ | ⟨stream, h⟩)
  · cases h
  · cases h
  · cases h

/-- **One multiplier per symbol.** In every run the caches agree in all states that are reached
    exactly if every item is consistent with what is in use when it comes. -/
theorem multipliers_agree_iff (env : Env) (items : List Item) :
    Guarded (step env) (LeavesAgreed env) .empty items ↔
      Guarded (step env) (Consistent env) .empty items :=
  Guarded.congr_of_step (fun _ _ c' _ h => h c') (fun _ item hc => agree_step_iff hc item)
    agree_empty

/-- A second download reports contracts of another size: the quotes and the instrument keep to
    the first one, and own trades go by the second. -/
theorem second_download_disagrees :
    ¬Guarded (step ⟨false, true, (· = some 0)⟩) (LeavesAgreed ⟨false, true, (· = some 0)⟩) .empty
      [.instrument (Rest.perpetual "BTC-PERPETUAL") (some false) true,
        .quote 1 ⟨"BTC-PERPETUAL", some 100, some 10, some 101, some 10, 0⟩,
        .instrument { Rest.perpetual "BTC-PERPETUAL" with contractSize := some 20 } (some false)
          true] := by
  rintro ⟨-, h⟩
  obtain ⟨-, h⟩ := h _ rfl
  obtain ⟨h, -⟩ := h _ rfl
  have hsecond := h _ rfl
  have hquote : some (1 / 10 : ℚ) = some (1 / 20) :=
    hsecond (a := "BTC-PERPETUAL") (.inr (.inr ⟨1, rfl⟩)) (.inl rfl)
  exact absurd hquote (by decide +kernel)

/-! ## The handlers -/

section

variable {Y : Type}

/-- The items that the loop over a download comes to: up to one that throws. -/
def instrumentItems (env : Rest.Env) (ctx : Rest.Context) : ℕ → List Json.Instrument → List Item
  | _, [] => []
  | i, item :: items =>
    .instrument item (ctx.discardSymbol i) (ctx.dispatched i) ::
      if (ctx.discardSymbol i).isSome && (env.useFixReferenceData || ctx.dispatched i) then
        instrumentItems env ctx (i + 1) items
      else []

/-- The shared multipliers are the same behind an item, whether its symbol is new or not. -/
theorem multiplier_emplace (shared : SharedState Y) (discard : Bool) (symbol : String) :
    (if discard then (shared, []) else shared.emplaceSymbol symbol).1.multiplier =
      shared.multiplier := by
  cases discard <;> rfl

/-- The download of the REST client sets the shared multipliers as its items do. -/
theorem instruments_multiplier (env : Rest.Env) (ctx : Rest.Context) (streamId : UInt16)
    (publishTopOfBook : Bool) (i : ℕ) (items : List Json.Instrument) {shared : SharedState Y}
    {c : Caches} (h : shared.multiplier = c.multiplier) :
    ∃ c', (run (step ⟨env.useFixReferenceData, publishTopOfBook, env.isZero⟩) c
        (instrumentItems env ctx i items)).1 = some c' ∧
      (Rest.instruments env ctx streamId i items shared).1.multiplier = c'.multiplier := by
  induction items generalizing i shared c with
  | nil => exact ⟨c, rfl, h⟩
  | cons item items ih =>
    cases hd : ctx.discardSymbol i with
    | none =>
      exact ⟨c, by simp [instrumentItems, hd, run, step], by simp [Rest.instruments, hd, h]⟩
    | some discard =>
      let created := c.maybeCreateInstrument (.ofInt item.instrumentId)
        { symbol := item.instrumentName
          contractSize := item.contractSize
          multiplier := SharedState.computeContractsMultiplier env.isZero item.contractSize
          discard }
      cases hset : (env.useFixReferenceData || ctx.dispatched i) with
      | false =>
        refine ⟨created, by simp [instrumentItems, hd, hset, run, step, created], ?_⟩
        simp [Rest.instruments, hd, hset, h, created, multiplier_create]
      | true =>
        let c' := created.setMultiplier item.instrumentName
          (SharedState.computeContractsMultiplier env.isZero item.contractSize)
        have hnext : (step ⟨env.useFixReferenceData, publishTopOfBook, env.isZero⟩ c
            (.instrument item (some discard) (ctx.dispatched i))).1 = some c' := by
          simp [step, hset, created, c']
        have hshared : (shared.setMultiplier item.instrumentName
            (SharedState.computeContractsMultiplier env.isZero item.contractSize)).multiplier =
              c'.multiplier := by
          simp [SharedState.setMultiplier, Caches.setMultiplier, h, created, c', multiplier_create]
        obtain ⟨c'', hrun, hloop⟩ := ih (i + 1) ((multiplier_emplace _ discard
          item.instrumentName).trans hshared)
        refine ⟨c'', ?_, ?_⟩
        · have hitems : instrumentItems env ctx i (item :: items) =
              .instrument item (some discard) (ctx.dispatched i) ::
                instrumentItems env ctx (i + 1) items := by
            simp [instrumentItems, hd, hset]
          rw [hitems, run_cons_some _ hnext]
          exact hrun
        · rw [← hloop]
          simp [Rest.instruments, hd, hset]

/-- The items of a security list. -/
def securityItems (env : MarketData.Env) (ctx : MarketData.Context Y) :
    ℕ → List Fix.Instrument → List Item
  | _, [] => []
  | i, item :: items =>
    .security item (ctx.discardSymbol i) (env.fromCharsTime item.maturityTime).isSome ::
      securityItems env ctx (i + 1) items

/-- A security list sets the shared multipliers as its items do, or ends the process. -/
theorem securities_multiplier (env : MarketData.Env) (ctx : MarketData.Context Y)
    (streamId : UInt16) (publishTopOfBook : Bool) (i : ℕ) (items : List Fix.Instrument)
    {shared : SharedState Y} {c : Caches} (h : shared.multiplier = c.multiplier) :
    (MarketData.securities env ctx streamId i items shared).map (·.1.multiplier) =
      (run (step ⟨env.useFixReferenceData, publishTopOfBook, env.isZero⟩) c
        (securityItems env ctx i items)).1.map (·.multiplier) := by
  induction items generalizing i shared c with
  | nil => exact congrArg some h
  | cons item items ih =>
    cases hd : ctx.discardSymbol i with
    | none => simp [MarketData.securities, securityItems, hd, run, step]
    | some discard =>
      cases hended : (env.useFixReferenceData &&
          !(env.fromCharsTime item.maturityTime).isSome) with
      | true =>
        simp only [Bool.and_eq_true, Bool.not_eq_true', Option.isSome_eq_false_iff,
          Option.isNone_iff_eq_none] at hended
        simp [MarketData.securities, MarketData.referenceData, securityItems, hd, hended, run, step]
      | false =>
        have hshared : (shared.setMultiplier item.symbol
            (SharedState.computeContractsMultiplier env.isZero
              item.contractMultiplier)).multiplier =
              (c.setMultiplier item.symbol (SharedState.computeContractsMultiplier env.isZero
                item.contractMultiplier)).multiplier := by
          simp [SharedState.setMultiplier, Caches.setMultiplier, h]
        have hrest := ih (i + 1) ((multiplier_emplace _ discard item.symbol).trans hshared)
        have hnext : (step ⟨env.useFixReferenceData, publishTopOfBook, env.isZero⟩ c
            (.security item (some discard) (env.fromCharsTime item.maturityTime).isSome)).1 =
              some (c.setMultiplier item.symbol (SharedState.computeContractsMultiplier env.isZero
                item.contractMultiplier)) := by
          simp only [step, hended, Bool.false_eq_true, if_false]
        obtain ⟨report, hreport⟩ : ∃ report, (if env.useFixReferenceData then
            (MarketData.referenceData env streamId item discard).map fun value =>
              [MarketData.Output.referenceData value]
            else some []) = some report := by
          cases hfix : env.useFixReferenceData with
          | false => exact ⟨_, rfl⟩
          | true =>
            rw [hfix, Bool.true_and, Bool.not_eq_false', Option.isSome_iff_exists] at hended
            obtain ⟨time, htime⟩ := hended
            exact ⟨_, by simp [MarketData.referenceData, htime]; rfl⟩
        rw [securityItems, hd, run_cons_some _ hnext, ← hrest]
        simp only [MarketData.securities, hd, Option.bind_some, hreport, Option.map_map]
        rfl

theorem topOfBook_getTopOfBook (c : Caches) (stream : ℕ) (s symbol : String) :
    (c.getTopOfBook stream s).topOfBook stream symbol =
      if symbol = s then (c.topOfBook stream s).or (c.multiplier s)
      else c.topOfBook stream symbol := by
  unfold Caches.getTopOfBook
  by_cases hs : symbol = s
  · subst hs
    cases ht : c.topOfBook stream symbol <;> cases hm : c.multiplier symbol <;> simp [ht]
  · cases c.topOfBook stream s <;> cases c.multiplier s <;> simp [hs]

theorem getTopOfBook_snd {W R : Type} (env : WebSocket.Env) (s : WebSocket.Scope W Y R)
    (symbol : String) :
    (WebSocket.getTopOfBook env s symbol).map Prod.snd =
      ((s.stream.topOfBook symbol).map Prod.snd).or (s.shared.multiplier symbol) := by
  unfold WebSocket.getTopOfBook
  cases s.stream.topOfBook symbol with
  | some entry => rfl
  | none => cases s.shared.multiplier symbol <;> rfl

/-- A quote moves the cache of its stream as its item does, and what is published for it is
    converted with what is in the cache then. -/
theorem quote_topOfBook {W R : Type} (env : WebSocket.Env) (useFixReferenceData : Bool)
    (isZero : Double → Bool) (s : WebSocket.Scope W Y R) (stream : ℕ) (value : Json.Quote)
    {c : Caches} (hmultiplier : s.shared.multiplier = c.multiplier)
    (htopOfBook : ∀ symbol, (s.stream.topOfBook symbol).map Prod.snd = c.topOfBook stream symbol) :
    ∃ c', (step ⟨useFixReferenceData, env.publishTopOfBook, isZero⟩ c (.quote stream value)).1 =
        some c' ∧
      (∀ symbol, ((WebSocket.quote env value s).1.stream.topOfBook symbol).map Prod.snd =
        c'.topOfBook stream symbol) ∧
      ∀ update, .topOfBook update ∈ (WebSocket.quote env value s).2 →
        ∃ k, c'.topOfBook stream value.instrumentName = some k ∧
          update.layer.bidQuantity = Double.mul k value.bestBidAmount ∧
          update.layer.askQuantity = Double.mul k value.bestAskAmount := by
  cases hp : env.publishTopOfBook with
  | false =>
    refine ⟨c, rfl, ?_, ?_⟩
    · simpa [WebSocket.quote, hp] using htopOfBook
    · simp [WebSocket.quote, hp]
  | true =>
    refine ⟨c.getTopOfBook stream value.instrumentName, rfl, ?_⟩
    have hentry := getTopOfBook_snd env s value.instrumentName
    rw [htopOfBook, hmultiplier] at hentry
    simp only [topOfBook_getTopOfBook, ← hentry]
    unfold WebSocket.quote
    rw [if_pos hp]
    cases hget : WebSocket.getTopOfBook env s value.instrumentName with
    | none =>
      rw [hget] at hentry
      refine ⟨?_, by simp⟩
      intro symbol
      by_cases hs : symbol = value.instrumentName
      · subst hs
        have hnone := (Option.or_eq_none_iff.mp hentry.symm).1
        simp [htopOfBook, hnone]
      · simp [htopOfBook, hs]
    | some entry =>
      obtain ⟨layer, k⟩ := entry
      constructor
      · intro symbol
        by_cases hs : symbol = value.instrumentName
        · subst hs
          simp [WebSocket.set]
        · simp [WebSocket.set, htopOfBook, hs]
      · intro update hupdate
        refine ⟨k, by simp, ?_⟩
        simp only [Emission.seq_snd, WebSocket.set, Emission.modify_apply, Emission.emit_apply,
          List.nil_append] at hupdate
        split_ifs at hupdate
        · cases hupdate
        · obtain rfl := WebSocket.Output.topOfBook.inj (List.mem_singleton.mp hupdate)
          exact ⟨rfl, rfl⟩

/-- An instrument of the multicast streams, as it is cached. -/
def cached {S : Type} (instrument : Instrument S) : CachedInstrument where
  symbol := instrument.symbol
  contractSize := some instrument.contractSize
  multiplier := some instrument.multiplier
  discard := instrument.discard

/-- An announcement creates an instrument as its item does. -/
theorem onInstrument_instruments {S : Type} [Sequencer S] (env : DeribitGateway.Env)
    (g : Gateway S) (instrument : Sbe.Instrument) (useFixReferenceData publishTopOfBook : Bool)
    {isZero : Double → Bool} (hzero : ∀ size, isZero (some size) = env.isZero size) {c : Caches}
    (h : ∀ i, (g.shared.instruments i).map cached = c.instruments i) :
    ∃ c', (step ⟨useFixReferenceData, publishTopOfBook, isZero⟩ c
        (.announcement instrument (some (env.discardSymbol instrument.instrumentName)))).1 =
          some c' ∧
      ∀ i, ((g.onInstrument env instrument).shared.instruments i).map cached =
        c'.instruments i := by
  have hid := h instrument.instrumentId
  cases hi : g.shared.instruments instrument.instrumentId with
  | some x =>
    rw [hi] at hid
    refine ⟨c, by simp [step, ← hid], ?_⟩
    simpa [Gateway.onInstrument, Shared.maybeCreateInstrument, hi] using h
  | none =>
    rw [hi] at hid
    have hmultiplier : SharedState.computeContractsMultiplier isZero
        (some instrument.contractSize) =
          some (computeContractsMultiplier env instrument.contractSize) := by
      rw [SharedState.computeContractsMultiplier, computeContractsMultiplier, hzero]
      cases env.isZero instrument.contractSize <;> rfl
    have hnext : (step ⟨useFixReferenceData, publishTopOfBook, isZero⟩ c
        (.announcement instrument (some (env.discardSymbol instrument.instrumentName)))).1 =
          some (c.maybeCreateInstrument instrument.instrumentId
            (cached (createInstrument env instrument : Instrument S))) := by
      simp [step, ← hid, cached, createInstrument, hmultiplier]
    refine ⟨_, hnext, ?_⟩
    intro i
    simp only [Gateway.onInstrument, Shared.maybeCreateInstrument, hi,
      Caches.maybeCreateInstrument, ← hid, Option.map_none]
    by_cases hsame : i = instrument.instrumentId
    · subst hsame
      simp
    · simpa [hsame] using h i

end

end Multipliers

end DeribitGateway
