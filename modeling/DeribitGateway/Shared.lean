import DeribitGateway.Api
import Mathlib.Data.Finset.Basic

/-!
# What the streams share

The part of `Shared` that the FIX and JSON streams read and write: the symbols and currencies
that are known, the multipliers, and the counter of request ids; and the requests that the web
socket stream makes and the REST client carries out.

`core::Symbols`, which cuts the symbols into slices, is not part of the repository. It enters
as a type class; `LawfulSymbols` says what the streams rely on, and `SymbolTable` is an
instance that behaves so. Nor is `core::limit::Queue`: a call finds how much of a queue the rate
limiter lets through (`Dispatch`), of which nothing is relied on but that it is the front.
-/

namespace DeribitGateway

/-- `core::Symbols`: `append` answers the number of slices and the position of the first of
    the new symbols. -/
class Symbols (Y : Type) where
  append : Y → List String → Y × ℕ × ℕ
  getSlice : Y → ℕ → ℕ → List String

/-- Slice `k` of a sequence cut into pieces of `width`, from position `start` on. -/
def sliceOf (width : ℕ) (symbols : List String) (k start : ℕ) : List String :=
  (symbols.take ((k + 1) * width)).drop (max (k * width) start)

/-- One sequence, which calls append to, cut into slices of fixed size. -/
class LawfulSymbols (Y : Type) [Symbols Y] where
  width : Y → ℕ
  width_pos : ∀ y : Y, 0 < width y
  sequence : Y → List String
  width_append : ∀ (y : Y) (symbols : List String), width (Symbols.append y symbols).1 = width y
  sequence_append : ∀ (y : Y) (symbols : List String),
    sequence (Symbols.append y symbols).1 = sequence y ++ symbols
  /-- The number of slices that cover the sequence. -/
  size_append : ∀ (y : Y) (symbols : List String),
    (sequence y ++ symbols).length ≤ (Symbols.append y symbols).2.1 * width y
  start_append : ∀ (y : Y) (symbols : List String),
    (Symbols.append y symbols).2.2 = (sequence y).length
  getSlice_eq : ∀ (y : Y) (k start : ℕ),
    Symbols.getSlice y k start = sliceOf (width y) (sequence y) k start

/-- A width, which is one more than `extra`, and the sequence. -/
structure SymbolTable where
  extra : ℕ
  sequence : List String
  deriving DecidableEq

instance : Symbols SymbolTable where
  append y symbols :=
    ({ y with sequence := y.sequence ++ symbols },
      ((y.sequence ++ symbols).length + y.extra) / (y.extra + 1), y.sequence.length)
  getSlice y := sliceOf (y.extra + 1) y.sequence

instance : LawfulSymbols SymbolTable where
  width y := y.extra + 1
  width_pos _ := Nat.succ_pos _
  sequence := SymbolTable.sequence
  width_append _ _ := rfl
  sequence_append _ _ := rfl
  size_append y symbols := by
    have h := Nat.lt_mul_div_succ ((y.sequence ++ symbols).length + y.extra) y.extra.succ_pos
    simp only [Symbols.append, Nat.mul_comm _ (y.extra + 1)]
    rw [Nat.mul_add, Nat.succ_eq_add_one, Nat.mul_one] at h
    omega
  start_append _ _ := rfl
  getSlice_eq _ _ _ := rfl

/-! ## Slices -/

/-- What is added to a slice is what is behind `start` in the slice of the longer sequence. -/
theorem sliceOf_append (width : ℕ) (symbols added : List String) (k : ℕ) :
    sliceOf width (symbols ++ added) k 0 =
      sliceOf width symbols k 0 ++ sliceOf width (symbols ++ added) k symbols.length := by
  have hle : k * width ≤ (k + 1) * width := Nat.mul_le_mul_right width k.le_succ
  simp only [sliceOf, Nat.max_zero]
  generalize k * width = front at hle ⊢
  generalize (k + 1) * width = back at hle ⊢
  obtain hshort | hlong := Nat.le_total symbols.length front
  · have hnil : (symbols.take back).drop front = [] :=
      List.drop_eq_nil_of_le ((List.length_take_le' back symbols).trans hshort)
    rw [Nat.max_eq_left hshort, hnil, List.nil_append]
  · have htake : ((symbols ++ added).take back).take symbols.length = symbols.take back := by
      rw [List.take_take, Nat.min_comm, ← List.take_take, List.take_left]
    have hlength : front ≤ (symbols.take back).length := by
      rw [List.length_take]
      exact Nat.le_min.mpr ⟨hle, hlong⟩
    rw [Nat.max_eq_right hlong]
    calc ((symbols ++ added).take back).drop front
        = (symbols.take back ++ ((symbols ++ added).take back).drop symbols.length).drop front := by
          rw [← htake, List.take_append_drop]
      _ = _ := List.drop_append_of_le_length hlength

/-- The sequence is cut into pieces of `width`. -/
theorem mem_sliceOf {width : ℕ} (hwidth : 0 < width) {symbols : List String} {k : ℕ}
    {symbol : String} :
    symbol ∈ sliceOf width symbols k 0 ↔ ∃ i, i / width = k ∧ symbols[i]? = some symbol := by
  simp only [sliceOf, Nat.max_zero, List.mem_iff_getElem?, List.getElem?_drop, List.getElem?_take]
  constructor
  · rintro ⟨n, hn⟩
    split_ifs at hn with hlt
    exact ⟨k * width + n, Nat.div_eq_of_lt_le (Nat.le_add_right _ _) hlt, hn⟩
  · rintro ⟨i, rfl, hi⟩
    have hsum : i / width * width + i % width = i := Nat.div_add_mod' i width
    have hlt : i < (i / width + 1) * width := by
      rw [Nat.mul_comm]
      exact Nat.lt_mul_div_succ i hwidth
    refine ⟨i % width, ?_⟩
    rw [hsum, if_pos hlt, hi]

section

variable {Y : Type} [Symbols Y] [LawfulSymbols Y]

open LawfulSymbols

theorem getSlice_append (y : Y) (symbols : List String) (k : ℕ) :
    Symbols.getSlice (Symbols.append y symbols).1 k 0 = Symbols.getSlice y k 0 ++
      Symbols.getSlice (Symbols.append y symbols).1 k (Symbols.append y symbols).2.2 := by
  simp only [getSlice_eq, sequence_append, width_append, start_append]
  exact sliceOf_append _ _ _ _

/-- A symbol is in one slice. -/
theorem getSlice_unique {y : Y} (h : (sequence y).Nodup) {j k : ℕ} {symbol : String}
    (hj : symbol ∈ Symbols.getSlice y j 0) (hk : symbol ∈ Symbols.getSlice y k 0) : j = k := by
  rw [getSlice_eq, mem_sliceOf (width_pos y)] at hj hk
  obtain ⟨i, rfl, hi⟩ := hj
  obtain ⟨i', rfl, hi'⟩ := hk
  have hlt : i < (sequence y).length := (List.getElem?_eq_some_iff.mp hi).1
  rw [(List.getElem?_inj hlt h).mp (hi.trans hi'.symm)]

theorem getSlice_nodup {y : Y} (h : (sequence y).Nodup) (k : ℕ) :
    (Symbols.getSlice y k 0).Nodup := by
  rw [getSlice_eq]
  exact h.sublist ((List.drop_sublist _ _).trans (List.take_sublist _ _))

/-- Enough slices cover the sequence. -/
theorem getSlice_covers {y : Y} {n : ℕ} (h : (sequence y).length ≤ n * width y) {symbol : String}
    (hmem : symbol ∈ sequence y) : ∃ k < n, symbol ∈ Symbols.getSlice y k 0 := by
  obtain ⟨i, hi⟩ := List.mem_iff_getElem?.mp hmem
  have hlt : i < n * width y := (List.getElem?_eq_some_iff.mp hi).1.trans_le h
  refine ⟨i / width y, Nat.div_lt_of_lt_mul (Nat.mul_comm n _ ▸ hlt), ?_⟩
  rw [getSlice_eq, mem_sliceOf (width_pos y)]
  exact ⟨i, rfl, hi⟩

end

/-! ## Queues -/

/-- One call of `core::limit::Queue::dispatch`: of what waits in the queue, what the rate limiter
    lets through to the callback, and what goes on waiting. -/
structure Dispatch (α : Type) where
  handed : List α → List α
  kept : List α → List α
  /-- It is the front that is let through, and nothing is lost. -/
  fifo : ∀ queue, handed queue ++ kept queue = queue

namespace Dispatch

variable {α : Type} (d : Dispatch α) {queue : List α}

theorem kept_suffix (queue : List α) : d.kept queue <:+ queue := ⟨_, d.fifo queue⟩

/-- Where nothing is held back, all is let through. -/
theorem handed_of_kept (h : d.kept queue = []) : d.handed queue = queue := by
  have hfifo := d.fifo queue
  rwa [h, List.append_nil] at hfifo

/-- A rate limiter that lets so many through. -/
def upTo (permits : ℕ) : Dispatch α where
  handed queue := queue.take permits
  kept queue := queue.drop permits
  fifo queue := List.take_append_drop permits queue

end Dispatch

/-! ## The state -/

/-- `Shared`, without the instruments of the multicast streams. -/
structure SharedState (Y : Type) where
  symbols : Y
  allCurrencies : Finset String
  allSymbols : Finset String
  multiplier : String → Option Double
  /-- `request_id_` -/
  requestId : UInt32
  timeSeriesRequestQueue : List String

/-- Before anything is known. -/
def SharedState.initial {Y : Type} (symbols : Y) : SharedState Y where
  symbols
  allCurrencies := ∅
  allSymbols := ∅
  multiplier := fun _ => none
  requestId := 0
  timeSeriesRequestQueue := []

variable {Y : Type}

/-- `Shared::next_request_id` -/
def SharedState.nextRequestId (shared : SharedState Y) : SharedState Y × String :=
  let requestId := shared.requestId + 1
  ({ shared with requestId }, "roq-" ++ toString requestId.toNat)

def SharedState.setMultiplier (shared : SharedState Y) (symbol : String) (multiplier : Double) :
    SharedState Y :=
  { shared with multiplier := Function.update shared.multiplier symbol (some multiplier) }

/-- `all_symbols.emplace`, and the symbol if it is new. -/
def SharedState.emplaceSymbol (shared : SharedState Y) (symbol : String) :
    SharedState Y × List String :=
  ({ shared with allSymbols := insert symbol shared.allSymbols },
    if symbol ∈ shared.allSymbols then [] else [symbol])

/-- `compute_contracts_multiplier` -/
def SharedState.computeContractsMultiplier (isZero : Double → Bool) (contractSize : Double) :
    Double :=
  if isZero contractSize then some 1 else Double.div (some 1) contractSize

/-! ## Symbols that are new -/

/-- The symbols have been found new one after the other, and are known now. -/
structure Emplaced (before : Finset String) (symbols : List String) (after : Finset String) :
    Prop where
  nodup : symbols.Nodup
  new : ∀ symbol ∈ symbols, symbol ∉ before
  after_eq : ∀ symbol, symbol ∈ after ↔ symbol ∈ before ∨ symbol ∈ symbols

theorem Emplaced.refl (known : Finset String) : Emplaced known [] known where
  nodup := List.nodup_nil
  new _ hmem := absurd hmem List.not_mem_nil
  after_eq symbol := by simp

theorem Emplaced.trans {before known after : Finset String} {symbols symbols' : List String}
    (h : Emplaced before symbols known) (h' : Emplaced known symbols' after) :
    Emplaced before (symbols ++ symbols') after where
  nodup := by
    refine List.nodup_append.mpr ⟨h.nodup, h'.nodup, ?_⟩
    rintro symbol hmem symbol' hmem' rfl
    exact h'.new symbol hmem' ((h.after_eq symbol).mpr (.inr hmem))
  new symbol hmem hbefore := by
    obtain hmem | hmem := List.mem_append.mp hmem
    · exact h.new symbol hmem hbefore
    · exact h'.new symbol hmem ((h.after_eq symbol).mpr (.inl hbefore))
  after_eq symbol := by
    rw [h'.after_eq, h.after_eq, List.mem_append, or_assoc]

theorem Emplaced.eq_nil {known : Finset String} {symbols : List String}
    (h : Emplaced known symbols known) : symbols = [] := by
  cases symbols with
  | nil => rfl
  | cons symbol symbols =>
    have hmem : symbol ∈ symbol :: symbols := List.mem_cons_self
    exact absurd ((h.after_eq symbol).mpr (.inr hmem)) (h.new symbol hmem)

theorem SharedState.emplaceSymbol_emplaced (shared : SharedState Y) (symbol : String) :
    Emplaced shared.allSymbols (shared.emplaceSymbol symbol).2
      (shared.emplaceSymbol symbol).1.allSymbols := by
  unfold SharedState.emplaceSymbol
  by_cases h : symbol ∈ shared.allSymbols
  · rw [if_pos h, Finset.insert_eq_of_mem h]
    exact .refl _
  · rw [if_neg h]
    refine ⟨List.nodup_singleton _, ?_, ?_⟩
    · intro symbol' hmem
      rwa [List.mem_singleton.mp hmem]
    · intro symbol'
      rw [Finset.mem_insert, List.mem_singleton, or_comm]

/-! ## Requests -/

/-- `core::limit::Request`, which is not part of the repository: a request that one component
    makes and another one carries out and commits. -/
class LimitRequest (R : Type) where
  fresh : R
  ready : R → Bool
  hasResponse : R → Bool
  request : R → R
  /-- `check_pending`, when the handler is ready and can make a request: whether it is made. -/
  checkPending : R → Bool → Bool → R × Bool
  commit : R → R

/-- A response is there once the request has been committed. -/
class LawfulLimitRequest (R : Type) [LimitRequest R] : Prop where
  fresh_hasResponse : LimitRequest.hasResponse (LimitRequest.fresh : R) = false
  request_hasResponse : ∀ r : R, LimitRequest.hasResponse (LimitRequest.request r) = true →
    LimitRequest.hasResponse r = true
  checkPending_hasResponse : ∀ (r : R) (ready canRequest : Bool),
    LimitRequest.hasResponse (LimitRequest.checkPending r ready canRequest).1 = true →
      LimitRequest.hasResponse r = true

/-- A request that is wanted, and then under way, and then answered. -/
inductive RequestProgress
  | idle
  | wanted
  | underWay
  | answered
  deriving DecidableEq, Repr

instance : LimitRequest RequestProgress where
  fresh := .idle
  ready r := r ≠ .underWay
  hasResponse r := r = .answered
  request _ := .wanted
  checkPending r ready canRequest :=
    if r = .wanted ∧ ready ∧ canRequest then (.underWay, true) else (r, false)
  commit _ := .answered

instance : LawfulLimitRequest RequestProgress where
  fresh_hasResponse := rfl
  request_hasResponse _ := nofun
  checkPending_hasResponse r ready canRequest := by
    simp only [LimitRequest.checkPending]
    split_ifs
    · exact nofun
    · exact id

/-- `Request` -/
structure Requests (R : Type) where
  currencies : R
  instruments : R

/-- `Request::ready` -/
def Requests.ready {R : Type} [LimitRequest R] (requests : Requests R) : Bool :=
  LimitRequest.ready requests.currencies && LimitRequest.ready requests.instruments

end DeribitGateway
