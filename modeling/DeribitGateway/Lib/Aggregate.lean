import Mathlib.Algebra.BigOperators.Ring.List
import Mathlib.Algebra.Order.BigOperators.Group.List
import Mathlib.Algebra.Order.Field.Basic
import Mathlib.Data.Finset.Max

/-!
# Aggregates — one value of a list of them

The weighted mean of a list is a value between the least and the greatest of the list
(`mean_between`), as long as the weights are positive. That needs nothing but the two
inequalities `le_mean` and `mean_le`, which compare the weighted sum with that of a constant.

A list with gaps agrees on a value if the value is in it and nothing else is, the gaps apart
(`Agrees`).
-/

namespace Aggregate

variable {ι : Type*}

/-! ## Weighted means -/

section

variable {K : Type*} [Field K]

def total (w : ι → K) (items : List ι) : K := (items.map w).sum

/-- The sum of the values, each as often as its weight says. -/
def weighted (w v : ι → K) (items : List ι) : K := (items.map fun i => w i * v i).sum

def mean (w v : ι → K) (items : List ι) : K := weighted w v items / total w items

variable {w v : ι → K} {items : List ι}

theorem total_mul_mean (h : total w items ≠ 0) :
    total w items * mean w v items = weighted w v items :=
  mul_div_cancel₀ _ h

variable [LinearOrder K] [IsStrictOrderedRing K]

theorem total_pos (hne : items ≠ []) (hw : ∀ i ∈ items, 0 < w i) : 0 < total w items := by
  refine List.sum_pos _ ?_ (by simpa using hne)
  intro x hx
  obtain ⟨i, hi, rfl⟩ := List.mem_map.mp hx
  exact hw i hi

theorem le_mean {lo : K} (hne : items ≠ []) (hw : ∀ i ∈ items, 0 < w i)
    (hv : ∀ i ∈ items, lo ≤ v i) : lo ≤ mean w v items := by
  rw [mean, le_div_iff₀ (total_pos hne hw), total, ← List.sum_map_mul_left]
  refine List.sum_le_sum fun i hi => ?_
  rw [mul_comm]
  exact mul_le_mul_of_nonneg_left (hv i hi) (hw i hi).le

theorem mean_le {hi : K} (hne : items ≠ []) (hw : ∀ i ∈ items, 0 < w i)
    (hv : ∀ i ∈ items, v i ≤ hi) : mean w v items ≤ hi := by
  rw [mean, div_le_iff₀ (total_pos hne hw), total, ← List.sum_map_mul_left]
  refine List.sum_le_sum fun i hmem => ?_
  rw [mul_comm hi]
  exact mul_le_mul_of_nonneg_left (hv i hmem) (hw i hmem).le

/-- The mean is between the least and the greatest value. -/
theorem mean_between (hne : items ≠ []) (hw : ∀ i ∈ items, 0 < w i) :
    ∃ lo hi, IsLeast { x | x ∈ items.map v } lo ∧ IsGreatest { x | x ∈ items.map v } hi ∧
      lo ≤ mean w v items ∧ mean w v items ≤ hi := by
  classical
  have hvalues : (items.map v).toFinset.Nonempty := by
    rw [List.toFinset_nonempty_iff]
    simpa using hne
  have hset : { x | x ∈ items.map v } = ((items.map v).toFinset : Set K) := by
    ext x
    simp
  rw [hset]
  obtain ⟨lo, hlo⟩ : ∃ lo, IsLeast ((items.map v).toFinset : Set K) lo :=
    ⟨_, Finset.isLeast_min' _ hvalues⟩
  obtain ⟨hi, hhi⟩ : ∃ hi, IsGreatest ((items.map v).toFinset : Set K) hi :=
    ⟨_, Finset.isGreatest_max' _ hvalues⟩
  have hmem : ∀ i ∈ items, v i ∈ ((items.map v).toFinset : Set K) := by
    intro i hi
    rw [← hset]
    exact List.mem_map_of_mem hi
  exact ⟨lo, hi, hlo, hhi, le_mean hne hw fun i hi => hlo.2 (hmem i hi),
    mean_le hne hw fun i hi => hhi.2 (hmem i hi)⟩

end

/-! ## Agreement -/

variable {α : Type*} {entry : ι → Option α} {items : List ι}

/-- The value is in the list, and every value there is in the list is this one. -/
def Agrees (entry : ι → Option α) (items : List ι) (a : α) : Prop :=
  (∃ i ∈ items, entry i = some a) ∧ ∀ i ∈ items, ∀ b, entry i = some b → b = a

theorem agrees_perm {items' : List ι} {a : α} (h : items.Perm items') :
    Agrees entry items a ↔ Agrees entry items' a := by
  unfold Agrees
  simp only [h.mem_iff]

/-- A gap has no say. -/
theorem agrees_cons_none {i : ι} {a : α} (hi : entry i = none) :
    Agrees entry (i :: items) a ↔ Agrees entry items a := by
  simp [Agrees, hi]

/-- A first value is what the list agrees on, or nothing is. -/
theorem agrees_cons_some {i : ι} {a b : α} (hi : entry i = some b) :
    Agrees entry (i :: items) a ↔ b = a ∧ ∀ j ∈ items, ∀ c, entry j = some c → c = b := by
  unfold Agrees
  constructor
  · rintro ⟨-, hall⟩
    obtain rfl := hall i List.mem_cons_self b hi
    exact ⟨rfl, fun j hj => hall j (List.mem_cons_of_mem i hj)⟩
  · rintro ⟨rfl, hall⟩
    refine ⟨⟨i, List.mem_cons_self, hi⟩, ?_⟩
    intro j hj c hc
    rcases List.mem_cons.mp hj with rfl | hj
    · exact Option.some.inj (hc.symm.trans hi)
    · exact hall j hj c hc

end Aggregate
