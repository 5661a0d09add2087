import DeribitGateway.Json.Rest

/-!
# What the handlers of the REST client do

All calls but one leave what is known of the symbols where it is, and announce none (`Keeps`).
A response to the request for the instruments runs the loop over them, which finds symbols new
one after the other, up to an item that throws (`instruments_finds`); they are announced behind
the loop (`call_brings`).
-/

namespace DeribitGateway

open Emission

namespace Rest

variable {Y R α : Type} {env : Env} {ctx : Context}

/-- No symbols are announced. -/
def Output.IsQuiet : Output → Prop
  | .symbolsUpdate _ => False
  | _ => True

abbrev Quiet (os : List Output) : Prop := ∀ x ∈ os, x.IsQuiet

theorem quiet_nil : Quiet [] := fun _ hx => absurd hx List.not_mem_nil

theorem quiet_single {x : Output} (h : x.IsQuiet) : Quiet [x] := by
  intro y hy
  obtain rfl := List.mem_singleton.mp hy
  exact h

/-- What is known of the symbols stays where it is, and none is announced. -/
structure Keeps (s : Scope Y R) (os : List Output) (t : Scope Y R) : Prop where
  symbols : t.shared.symbols = s.shared.symbols
  allSymbols : t.shared.allSymbols = s.shared.allSymbols
  quiet : Quiet os

theorem composes_keeps : Composes (Keeps : Scope Y R → List Output → Scope Y R → Prop) where
  refl _ := ⟨rfl, rfl, quiet_nil⟩
  trans h h' :=
    ⟨h'.symbols.trans h.symbols, h'.allSymbols.trans h.allSymbols, fun x hx =>
      (List.mem_append.mp hx).elim (h.quiet x) (h'.quiet x)⟩

theorem publish_keeps (connectionStatus : ConnectionStatus) (reason : String) :
    Meets Keeps (publish connectionStatus reason : Handler Y R) := by
  intro s
  exact ⟨rfl, rfl, quiet_single trivial⟩

theorem checkDownload_keeps [LimitRequest R] : Meets Keeps (checkDownload ctx : Handler Y R) := by
  apply composes_keeps.seq
  · intro s
    refine ⟨rfl, rfl, ?_⟩
    simp only [checkCurrencies]
    split_ifs
    · exact quiet_single trivial
    · exact quiet_nil
  · intro s
    refine ⟨rfl, rfl, ?_⟩
    simp only [checkInstruments]
    split_ifs
    · exact quiet_single trivial
    · exact quiet_nil

theorem checkRequestQueue_keeps : Meets Keeps (checkRequestQueue ctx : Handler Y R) := by
  intro s
  refine ⟨rfl, rfl, ?_⟩
  intro x hx
  obtain ⟨symbol, -, rfl⟩ := List.mem_map.mp hx
  trivial

theorem timer_keeps [LimitRequest R] : Meets Keeps (timer ctx : Handler Y R) := by
  intro s
  unfold timer
  split_ifs
  · refine composes_keeps.seq checkDownload_keeps ?_ s
    intro s
    show Keeps s (if s.stream.ready then _ else _ : Scope Y R × List Output).2
      (if s.stream.ready then _ else _ : Scope Y R × List Output).1
    split_ifs
    · exact checkRequestQueue_keeps s
    · exact composes_keeps.refl s
  · exact composes_keeps.refl s

/-! ## Responses -/

/-- The body that is handled. -/
def Response.body : Response α → Option α
  | .success (some ack) => if ack.errorCode = 0 then some ack.result else none
  | _ => none

theorem processResponse_cases {handle : α → Scope Y R → Option (Scope Y R × List Output)}
    {response : Response α} {s : Scope Y R} {r : Scope Y R × List Output}
    (h : processResponse handle response s = some r) :
    (response.body = none ∧ r = (s, [])) ∨
      ∃ result, response.body = some result ∧ handle result s = some r := by
  cases response with
  | success body =>
    cases body with
    | none => exact .inl ⟨rfl, (Option.some.inj h).symm⟩
    | some ack =>
      simp only [processResponse] at h
      split_ifs at h with hcode
      · exact .inr ⟨ack.result, if_pos hcode, h⟩
      · exact .inl ⟨if_neg hcode, (Option.some.inj h).symm⟩
  | redirection => cases h
  | _ => exact .inl ⟨rfl, (Option.some.inj h).symm⟩

theorem newCurrencies_symbols (currencies : List String) (shared : SharedState Y) :
    (newCurrencies currencies shared).1.symbols = shared.symbols ∧
      (newCurrencies currencies shared).1.allSymbols = shared.allSymbols := by
  induction currencies generalizing shared with
  | nil => exact ⟨rfl, rfl⟩
  | cons currency currencies ih => exact ih _

theorem getCurrenciesAck_keeps (result : List String) :
    Meets Keeps (getCurrenciesAck result : Handler Y R) := by
  intro s
  obtain ⟨hsymbols, hall⟩ := newCurrencies_symbols result s.shared
  refine ⟨hsymbols, hall, ?_⟩
  simp only [getCurrenciesAck]
  split_ifs
  · exact quiet_nil
  · exact quiet_single trivial

/-! ## The loop over the instruments -/

/-- An item of a list of instruments throws. -/
def Throws (env : Env) (ctx : Context) (i : ℕ) : Prop :=
  ctx.discardSymbol i = none ∨ env.useFixReferenceData = false ∧ ctx.dispatched i = false

instance (env : Env) (ctx : Context) (i : ℕ) : Decidable (Throws env ctx i) :=
  inferInstanceAs (Decidable (_ ∨ _ ∧ _))

theorem instruments_throws {streamId : UInt16} {i : ℕ} (item : Json.Instrument)
    (items : List Json.Instrument) (shared : SharedState Y) (h : Throws env ctx i) :
    instruments env ctx streamId i (item :: items) shared = (shared, [], none) := by
  obtain h | ⟨hfix, hdispatched⟩ := h
  · simp only [instruments, h]
  · cases hdiscard : ctx.discardSymbol i with
    | none => simp only [instruments, hdiscard]
    | some discard => simp [instruments, hdiscard, hfix, hdispatched]

/-- The multiplier of an instrument is noted. -/
def noted (env : Env) (item : Json.Instrument) (shared : SharedState Y) : SharedState Y :=
  shared.setMultiplier item.instrumentName
    (SharedState.computeContractsMultiplier env.isZero item.contractSize)

/-- An item that does not throw is dealt with, and then the items behind it. -/
theorem instruments_cons {streamId : UInt16} {i : ℕ} {discard : Bool} (item : Json.Instrument)
    (items : List Json.Instrument) (shared : SharedState Y) (h : ¬Throws env ctx i)
    (hdiscard : ctx.discardSymbol i = some discard) :
    instruments env ctx streamId i (item :: items) shared =
      if discard then
        let r := instruments env ctx streamId (i + 1) items (noted env item shared)
        (r.1, report env streamId item true ++ r.2.1, r.2.2)
      else
        let (known, new) := (noted env item shared).emplaceSymbol item.instrumentName
        let r := instruments env ctx streamId (i + 1) items known
        (r.1, report env streamId item false ++ r.2.1, r.2.2.map (new ++ ·)) := by
  simp only [Throws, not_or, not_and, Bool.not_eq_false] at h
  have hpass : (env.useFixReferenceData || ctx.dispatched i) = true := by
    rw [Bool.or_eq_true, or_iff_not_imp_left, Bool.not_eq_true]
    exact h.2
  simp only [instruments, hdiscard, hpass, if_true]
  cases discard with
  | true => simp [noted]
  | false => rfl

theorem report_quiet (env : Env) (streamId : UInt16) (item : Json.Instrument) (discard : Bool) :
    Quiet (report env streamId item discard) := by
  unfold report
  split_ifs
  · exact quiet_nil
  · exact quiet_single trivial

/-- The loop finds symbols new, and answers them unless an item throws. -/
structure Finds (shared : SharedState Y) (new : List String)
    (r : SharedState Y × List Output × Option (List String)) : Prop where
  symbols : r.1.symbols = shared.symbols
  emplaced : Emplaced shared.allSymbols new r.1.allSymbols
  quiet : Quiet r.2.1
  answer : ∀ symbols ∈ r.2.2, symbols = new

theorem instruments_finds (env : Env) (ctx : Context) (streamId : UInt16) (i : ℕ)
    (items : List Json.Instrument) (shared : SharedState Y) :
    ∃ new, Finds shared new (instruments env ctx streamId i items shared) := by
  induction items generalizing i shared with
  | nil => exact ⟨[], rfl, .refl _, quiet_nil, fun symbols h => (Option.some.inj h).symm⟩
  | cons item items ih =>
    by_cases h : Throws env ctx i
    · rw [instruments_throws item items shared h]
      exact ⟨[], rfl, .refl _, quiet_nil, nofun⟩
    · obtain ⟨discard, hdiscard⟩ := Option.ne_none_iff_exists'.mp (not_or.mp h).1
      rw [instruments_cons item items shared h hdiscard]
      have happend {os os' : List Output} (h : Quiet os) (h' : Quiet os') : Quiet (os ++ os') :=
        fun x hx => (List.mem_append.mp hx).elim (h x) (h' x)
      cases discard with
      | true =>
        obtain ⟨new, hsymbols, hemplaced, hquiet, hanswer⟩ := ih (i + 1) (noted env item shared)
        exact ⟨new, hsymbols, hemplaced, happend (report_quiet _ _ _ _) hquiet, hanswer⟩
      | false =>
        have hemplace := SharedState.emplaceSymbol_emplaced (noted env item shared)
          item.instrumentName
        obtain ⟨new, hsymbols, hemplaced, hquiet, hanswer⟩ := ih (i + 1)
          ((noted env item shared).emplaceSymbol item.instrumentName).1
        refine ⟨_, hsymbols, hemplace.trans hemplaced,
          happend (report_quiet _ _ _ _) hquiet, ?_⟩
        intro symbols hmem
        obtain ⟨rest, hrest, rfl⟩ := Option.map_eq_some_iff.mp hmem
        exact congrArg _ (hanswer rest hrest)

/-- No item that throws comes behind one that has been found new: an item in front of it is
    discarded, or known. -/
def Spares (env : Env) (ctx : Context) : ℕ → List Json.Instrument → Finset String → Prop
  | _, [], _ => True
  | i, item :: items, known =>
    Throws env ctx i ∨
      ((∃ j < items.length, Throws env ctx (i + 1 + j)) →
        ctx.discardSymbol i = some true ∨ item.instrumentName ∈ known) ∧
      Spares env ctx (i + 1) items known

theorem spares_of_never (h : ∀ i, ¬Throws env ctx i) (i : ℕ) (items : List Json.Instrument)
    (known : Finset String) : Spares env ctx i items known := by
  induction items generalizing i with
  | nil => trivial
  | cons item items ih =>
    refine .inr ⟨?_, ih (i + 1)⟩
    rintro ⟨j, -, hthrows⟩
    exact absurd hthrows (h (i + 1 + j))

/-- Only an item that throws keeps the loop from its answer. -/
theorem instruments_none {streamId : UInt16} {i : ℕ} {items : List Json.Instrument}
    {shared : SharedState Y} (h : (instruments env ctx streamId i items shared).2.2 = none) :
    ∃ j < items.length, Throws env ctx (i + j) := by
  induction items generalizing i shared with
  | nil => cases h
  | cons item items ih =>
    by_cases hthrows : Throws env ctx i
    · exact ⟨0, Nat.succ_pos _, hthrows⟩
    · obtain ⟨discard, hdiscard⟩ := Option.ne_none_iff_exists'.mp (not_or.mp hthrows).1
      rw [instruments_cons item items shared hthrows hdiscard] at h
      have hrest : ∃ j < items.length, Throws env ctx (i + 1 + j) := by
        cases discard with
        | true => exact ih h
        | false => exact ih (Option.map_eq_none_iff.mp h)
      obtain ⟨j, hj, hthrows⟩ := hrest
      refine ⟨j + 1, Nat.succ_lt_succ hj, ?_⟩
      rwa [Nat.add_right_comm] at hthrows

/-- No symbol is lost by an item that throws behind none that is new. -/
theorem instruments_spares {streamId : UInt16} {i : ℕ} {items : List Json.Instrument}
    {shared : SharedState Y} (hspares : Spares env ctx i items shared.allSymbols)
    (h : (instruments env ctx streamId i items shared).2.2 = none) :
    (instruments env ctx streamId i items shared).1.allSymbols = shared.allSymbols := by
  induction items generalizing i shared with
  | nil => rfl
  | cons item items ih =>
    by_cases hthrows : Throws env ctx i
    · rw [instruments_throws item items shared hthrows]
    · obtain ⟨discard, hdiscard⟩ := Option.ne_none_iff_exists'.mp (not_or.mp hthrows).1
      obtain ⟨hold, hrest⟩ := hspares.resolve_left hthrows
      rw [instruments_cons item items shared hthrows hdiscard] at h ⊢
      cases discard with
      | true => exact ih hrest h
      | false =>
        have hnone := Option.map_eq_none_iff.mp h
        -- an item behind this one throws, so this one was known
        have hknown : item.instrumentName ∈ shared.allSymbols :=
          (hold (instruments_none hnone)).resolve_left (by simp [hdiscard])
        have hsame : ((noted env item shared).emplaceSymbol item.instrumentName).1.allSymbols =
            shared.allSymbols := Finset.insert_eq_of_mem hknown
        rw [← hsame] at hrest
        exact (ih hrest hnone).trans hsame

/-- Symbols have been found, and are announced at the end, unless there are none or an item has
    thrown. -/
structure Brings (spares : Prop) (s : Scope Y R) (os : List Output) (t : Scope Y R) : Prop where
  symbols : t.shared.symbols = s.shared.symbols
  announced : ∃ reports found, Quiet reports ∧
    Emplaced s.shared.allSymbols found t.shared.allSymbols ∧
    (os = reports ∧ (spares → found = []) ∨ os = reports ++ [.symbolsUpdate found])

theorem Keeps.brings {spares : Prop} {s t : Scope Y R} {os : List Output} (h : Keeps s os t) :
    Brings spares s os t where
  symbols := h.symbols
  announced := by
    refine ⟨os, [], h.quiet, ?_, .inl ⟨rfl, fun _ => rfl⟩⟩
    rw [h.allSymbols]
    exact .refl _

theorem getInstrumentsAck_brings (env : Env) (ctx : Context) (result : List Json.Instrument)
    (s : Scope Y R) :
    Brings (Spares env ctx 0 result s.shared.allSymbols) s (getInstrumentsAck env ctx result s).2
      (getInstrumentsAck env ctx result s).1 := by
  obtain ⟨found, hsymbols, hemplaced, hquiet, hanswer⟩ :=
    instruments_finds env ctx s.stream.streamId 0 result s.shared
  refine ⟨hsymbols, _, found, hquiet, hemplaced, ?_⟩
  simp only [getInstrumentsAck]
  cases hsome : (instruments env ctx s.stream.streamId 0 result s.shared).2.2 with
  | none =>
    refine .inl ⟨List.append_nil _, ?_⟩
    intro hspares
    rw [instruments_spares hspares hsome] at hemplaced
    exact hemplaced.eq_nil
  | some symbols =>
    obtain rfl := hanswer symbols hsome
    cases symbols with
    | nil => exact .inl ⟨List.append_nil _, fun _ => rfl⟩
    | cons symbol symbols => exact .inr rfl

variable [LimitRequest R]

/-- The body of a response with the instruments. -/
def Event.instruments : Event → Option (List Json.Instrument)
  | .getInstrumentsAck response => response.body
  | _ => none

theorem commitCurrencies_keeps : Meets Keeps (commitCurrencies : Handler Y R) := by
  intro s
  exact ⟨rfl, rfl, quiet_nil⟩

/-- **Calls of the client.** Only a response with the instruments finds symbols. -/
theorem call_brings {event : Event} {s : Scope Y R} {r : Scope Y R × List Output}
    (h : call env ctx event s = some r) :
    Brings (∀ result, event.instruments = some result →
      Spares env ctx 0 result s.shared.allSymbols) s r.2 r.1 := by
  cases event with
  | timer =>
    obtain rfl := Option.some.inj h
    exact (timer_keeps s).brings
  | connected =>
    obtain rfl := Option.some.inj h
    exact (composes_keeps.seq (publish_keeps _ _) checkDownload_keeps s).brings
  | disconnected =>
    obtain rfl := Option.some.inj h
    exact (publish_keeps _ _ s).brings
  | latency sample =>
    obtain rfl := Option.some.inj h
    exact Keeps.brings ⟨rfl, rfl, quiet_single trivial⟩
  | getCurrenciesAck response =>
    obtain ⟨⟨t, os⟩, hresponse, rfl⟩ := Option.map_eq_some_iff.mp h
    have hkeeps : Keeps s os t := by
      obtain ⟨-, heq⟩ | ⟨result, -, heq⟩ := processResponse_cases hresponse
      · obtain ⟨rfl, rfl⟩ := Prod.mk.inj heq
        exact composes_keeps.refl _
      · have hack := getCurrenciesAck_keeps result s
        rw [Option.some.inj heq] at hack
        exact hack
    exact (composes_keeps.trans hkeeps (commitCurrencies_keeps t)).brings
  | getInstrumentsAck response =>
    obtain ⟨⟨t, os⟩, hresponse, rfl⟩ := Option.map_eq_some_iff.mp h
    obtain ⟨-, heq⟩ | ⟨result, hresult, heq⟩ := processResponse_cases hresponse
    · obtain ⟨rfl, rfl⟩ := Prod.mk.inj heq
      exact Keeps.brings ⟨rfl, rfl, quiet_nil⟩
    · have hack := getInstrumentsAck_brings env ctx result s
      rw [Option.some.inj heq] at hack
      obtain ⟨hsymbols, reports, found, hquiet, hemplaced, hos⟩ := hack
      refine ⟨hsymbols, reports, found, hquiet, hemplaced, ?_⟩
      simp only [commitInstruments, modify_apply, List.append_nil]
      obtain ⟨hnone, hspares⟩ | hsome := hos
      · exact .inl ⟨hnone, fun h => hspares (h result hresult)⟩
      · exact .inr hsome
  | getChartDataAck symbol response =>
    obtain ⟨-, rfl⟩ | ⟨result, -, hresult⟩ := processResponse_cases h
    · exact (composes_keeps.refl s).brings
    · obtain ⟨bars, -, rfl⟩ := Option.map_eq_some_iff.mp hresult
      exact Keeps.brings ⟨rfl, rfl, quiet_single trivial⟩

end Rest

end DeribitGateway
