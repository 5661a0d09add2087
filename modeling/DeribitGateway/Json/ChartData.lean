import DeribitGateway.Json.Rest

/-!
# Chart data — six arrays and one length

A response with the history of a symbol has an array for each component of a bar, decoded one
by one: nothing ties their lengths together. The handler makes a bar for each tick and indexes
the other five by the tick's position.

`commonLength` is how many indices all six have and `barAt` the bar of one of them. The handler
runs `barAt` over the indices of the ticks (`bars_eq`), so it stays inside the arrays, and then
publishes exactly the bars of the common indices, if and only if no array is shorter than the
ticks (`chart_data_safe_iff`).
-/

namespace DeribitGateway

namespace Rest

open Emission

variable {Y R : Type}

namespace ChartData

/-- What the six arrays hold at an index, if all of them have it. -/
def barAt (env : Env) (value : ChartData) (i : ℕ) : Option Bar := do
  return {
    beginTimeUtc := env.safeCastTime (← value.ticks[i]?)
    confirmed := true
    openPrice := ← value.open_[i]?
    highPrice := ← value.high[i]?
    lowPrice := ← value.low[i]?
    closePrice := ← value.close[i]?
    quantity := ← value.volume[i]? }

/-- The number of indices that all arrays have. -/
def commonLength (value : ChartData) : ℕ :=
  min value.ticks.length (min value.open_.length (min value.high.length
    (min value.low.length (min value.close.length value.volume.length))))

/-- No array is shorter than the ticks. -/
structure Fits (value : ChartData) : Prop where
  open_ : value.ticks.length ≤ value.open_.length
  high : value.ticks.length ≤ value.high.length
  low : value.ticks.length ≤ value.low.length
  close : value.ticks.length ≤ value.close.length
  volume : value.ticks.length ≤ value.volume.length

theorem fits_iff (value : ChartData) : value.Fits ↔ value.ticks.length ≤ value.commonLength := by
  unfold commonLength
  constructor
  · rintro ⟨hopen, hhigh, hlow, hclose, hvolume⟩
    omega
  · intro h
    constructor <;> omega

theorem commonLength_le (value : ChartData) : value.commonLength ≤ value.ticks.length :=
  Nat.min_le_left _ _

theorem barAt_isSome (env : Env) (value : ChartData) (i : ℕ) :
    (value.barAt env i).isSome = true ↔ i < value.commonLength := by
  have hlt : ∀ {α : Type} (xs : List α), i < xs.length ↔ ∃ x, xs[i]? = some x := by
    intro α xs
    constructor
    · intro h
      exact ⟨xs[i], List.getElem?_eq_getElem h⟩
    · rintro ⟨x, h⟩
      exact (List.getElem?_eq_some_iff.mp h).1
  unfold commonLength
  simp only [Nat.lt_min, hlt, Option.isSome_iff_exists, barAt, Option.pure_def, Option.bind_eq_bind,
    Option.bind_eq_some_iff, Option.some.injEq]
  constructor
  · rintro ⟨bar, tick, ht, o, ho, h, hh, l, hl, c, hc, v, hv, -⟩
    exact ⟨⟨tick, ht⟩, ⟨o, ho⟩, ⟨h, hh⟩, ⟨l, hl⟩, ⟨c, hc⟩, ⟨v, hv⟩⟩
  · rintro ⟨⟨tick, ht⟩, ⟨o, ho⟩, ⟨h, hh⟩, ⟨l, hl⟩, ⟨c, hc⟩, ⟨v, hv⟩⟩
    exact ⟨_, tick, ht, o, ho, h, hh, l, hl, c, hc, v, hv, rfl⟩

/-- A partial function is defined along a list exactly where its values are all there. -/
theorem mapM_eq_some_iff {α β : Type} {f : α → Option β} {xs : List α} {ys : List β} :
    xs.mapM f = some ys ↔ ys.map some = xs.map f := by
  induction xs generalizing ys with
  | nil => cases ys <;> simp
  | cons x xs ih =>
    rw [List.mapM_cons]
    cases hx : f x with
    | none => cases ys <;> simp [hx]
    | some y =>
      cases ys with
      | nil => cases xs.mapM f <;> simp
      | cons y' ys =>
        simp only [Option.pure_def, Option.bind_eq_bind, Option.bind_some, Option.bind_eq_some_iff,
          Option.some.injEq, List.map_cons, hx, List.cons.injEq]
        constructor
        · rintro ⟨zs, hzs, rfl, rfl⟩
          exact ⟨rfl, ih.mp hzs⟩
        · rintro ⟨rfl, hys⟩
          exact ⟨ys, ih.mpr hys, rfl, rfl⟩

/-- The loop of the handler, by indices alone. -/
theorem bars_eq (env : Env) (value : ChartData) :
    value.bars env = (List.range value.ticks.length).mapM (value.barAt env) := by
  have hticks : (List.range value.ticks.length).map (value.barAt env) =
      value.ticks.zipIdx.map fun p => (do return {
        beginTimeUtc := env.safeCastTime p.1
        confirmed := true
        openPrice := ← value.open_[p.2]?
        highPrice := ← value.high[p.2]?
        lowPrice := ← value.low[p.2]?
        closePrice := ← value.close[p.2]?
        quantity := ← value.volume[p.2]? } : Option Bar) := by
    refine List.ext_getElem? fun i => ?_
    rcases Nat.lt_or_ge i value.ticks.length with hi | hi
    · simp [hi, barAt]
    · simp [hi]
  refine Option.ext fun ys => ?_
  rw [mapM_eq_some_iff, hticks]
  exact mapM_eq_some_iff

/-- The loop stays inside the arrays exactly if none is shorter than the ticks, and makes the
    bars of the common indices then. -/
theorem bars_eq_some_iff (env : Env) (value : ChartData) (bars : List Bar) :
    value.bars env = some bars ↔
      value.Fits ∧ bars.map some = (List.range value.commonLength).map (value.barAt env) := by
  rw [bars_eq, mapM_eq_some_iff, fits_iff]
  constructor
  · intro h
    have hle : value.ticks.length ≤ value.commonLength := by
      by_contra hlt
      have hmem : value.barAt env value.commonLength ∈ bars.map some :=
        h ▸ List.mem_map_of_mem (List.mem_range.mpr (Nat.lt_of_not_le hlt))
      obtain ⟨bar, -, hbar⟩ := List.mem_map.mp hmem
      exact lt_irrefl _ ((value.barAt_isSome env _).mp (by rw [← hbar]; rfl))
    exact ⟨hle, by rw [h, le_antisymm value.commonLength_le hle]⟩
  · rintro ⟨hle, h⟩
    rw [h, le_antisymm value.commonLength_le hle]

theorem exists_bars_iff (env : Env) (value : ChartData) :
    (∃ bars, value.bars env = some bars) ↔ value.Fits := by
  simp only [bars_eq_some_iff]
  refine ⟨fun ⟨_, h, _⟩ => h, fun h => ?_⟩
  obtain ⟨bars, hbars⟩ : ∃ bars : List Bar,
      bars.map some = (List.range value.commonLength).map (value.barAt env) := by
    refine ⟨(List.range value.commonLength).filterMap (value.barAt env), ?_⟩
    rw [List.map_filterMap_some_eq_filter_map_isSome, List.filter_eq_self]
    intro bar hbar
    obtain ⟨i, hi, rfl⟩ := List.mem_map.mp hbar
    exact (value.barAt_isSome env i).mpr (List.mem_range.mp hi)
  exact ⟨bars, h, hbars⟩

end ChartData

variable (env : Env) (symbol : String) (value : ChartData) (s : Scope Y R)

/-- The handler returns, so it has read no array over its end, and it publishes nothing, or
    the bars of the indices that all arrays have. -/
def ChartDataIsSafe : Prop :=
  ∃ t os, getChartDataAck env symbol value s = some (t, os) ∧
    (os = [] ∨ ∃ update, os = [.timeSeriesUpdate update] ∧
      update.bars.map some = (List.range value.commonLength).map (value.barAt env))

/-- **Chart data.** The handler is safe exactly if no array is shorter than the ticks. -/
theorem chart_data_safe_iff : ChartDataIsSafe env symbol value s ↔ value.Fits := by
  constructor
  · rintro ⟨t, os, h, -⟩
    obtain ⟨bars, hbars, -⟩ := Option.map_eq_some_iff.mp h
    exact (value.exists_bars_iff env).mp ⟨bars, hbars⟩
  · intro hfits
    obtain ⟨bars, hbars⟩ := (value.exists_bars_iff env).mpr hfits
    obtain ⟨-, hcommon⟩ := (value.bars_eq_some_iff env bars).mp hbars
    unfold ChartDataIsSafe getChartDataAck
    rw [hbars]
    exact ⟨_, _, rfl, .inr ⟨_, rfl, hcommon⟩⟩

/-- Two ticks and one volume: the volume of the second bar is read behind the end. -/
theorem missing_volume_overread : ¬ChartDataIsSafe Env.plain "BTC-PERPETUAL"
    { ticks := [1000, 61000]
      open_ := [some 1, some 2]
      high := [some 1, some 2]
      low := [some 1, some 2]
      close := [some 1, some 2]
      volume := [some 10] }
    { stream := initial 1
      shared := SharedState.initial (⟨9, []⟩ : SymbolTable)
      requests := (⟨.idle, .idle⟩ : Requests RequestProgress) } := by
  rintro ⟨t, os, h, -⟩
  cases h

end Rest

end DeribitGateway
