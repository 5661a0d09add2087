import Mathlib.Algebra.Field.Rat
import Mathlib.Algebra.Order.Ring.Rat
import DeribitGateway.Fix.Fills
import DeribitGateway.Lib.Aggregate

/-!
# What an execution report says was last traded

A report carries its fills, and the order update made of it has one quantity, one price and one
liquidity indicator for all of them. The two loops, `compute_last_traded` and
`find_liquidity_ind`, go through the fills in order; what they compute has no order: the price
is the mean of the prices weighted by the quantities, and the indicator the one that the fills
which have one agree on.
-/

namespace DeribitGateway

open Aggregate

namespace OrderEntry

def fillQuantity (item : Fix.Fill) : ℚ := item.fillQty.getD 0

def fillPrice (item : Fix.Fill) : ℚ := item.fillPx.getD 0

/-- The indicator of a fill, if it is defined. -/
def fillIndicator (item : Fix.Fill) : Option Fix.FillLiquidityInd :=
  if item.fillLiquidityInd = .undefined then none else some item.fillLiquidityInd

theorem fillIndicator_undefined {item : Fix.Fill} (h : item.fillLiquidityInd = .undefined) :
    fillIndicator item = none :=
  if_pos h

theorem fillIndicator_defined {item : Fix.Fill} (h : item.fillLiquidityInd ≠ .undefined) :
    fillIndicator item = some item.fillLiquidityInd :=
  if_neg h

/-- A fill with a price and a positive quantity. -/
structure Filled (item : Fix.Fill) : Prop where
  quantity : item.fillQty = some (fillQuantity item)
  price : item.fillPx = some (fillPrice item)
  pos : 0 < fillQuantity item

/-! ## Quantity and price -/

/-- The loop of `compute_last_traded`, where nothing is missing. -/
theorem sums_eq {fills : List Fix.Fill} (h : ∀ item ∈ fills, Filled item) (a b : ℚ) :
    fills.foldl (fun sums item => (Double.add sums.1 item.fillQty,
        Double.add sums.2 (Double.mul item.fillQty item.fillPx)))
      ((some a, some b) : Double × Double) =
      (some (a + total fillQuantity fills), some (b + weighted fillQuantity fillPrice fills)) := by
  induction fills generalizing a b with
  | nil => simp [total, weighted]
  | cons item fills ih =>
    have hitem := h item List.mem_cons_self
    have hstep : (Double.add (some a) item.fillQty,
        Double.add (some b) (Double.mul item.fillQty item.fillPx)) =
        (some (a + fillQuantity item), some (b + fillQuantity item * fillPrice item)) := by
      rw [hitem.quantity, hitem.price]
      rfl
    rw [List.foldl_cons, hstep, ih fun i hi => h i (List.mem_cons_of_mem item hi)]
    simp only [total, weighted, List.map_cons, List.sum_cons, add_assoc]

theorem computeLastTraded_eq {env : Env} {fills : List Fix.Fill} (hne : fills ≠ [])
    (h : ∀ item ∈ fills, Filled item)
    (hzero : env.isZero (some (total fillQuantity fills)) = false)
    (lastTradedQuantity lastTradedPrice : Double) :
    computeLastTraded env lastTradedQuantity lastTradedPrice fills =
      (some (total fillQuantity fills), some (mean fillQuantity fillPrice fills)) := by
  have hempty : ¬fills.isEmpty = true := by simpa using hne
  unfold computeLastTraded
  rw [if_neg hempty, sums_eq h, zero_add, zero_add]
  dsimp only
  rw [if_neg (by simp [hzero])]
  rfl

theorem computeLastTraded_perm (env : Env) (lastTradedQuantity lastTradedPrice : Double)
    {fills fills' : List Fix.Fill} (h : fills.Perm fills') :
    computeLastTraded env lastTradedQuantity lastTradedPrice fills =
      computeLastTraded env lastTradedQuantity lastTradedPrice fills' := by
  unfold computeLastTraded
  rw [h.isEmpty_eq, h.foldl_eq' (fun x _ y _ sums => ?_) ((some 0, some 0) : Double × Double)]
  have hassoc : ∀ a b c, Double.add (Double.add a b) c = Double.add a (Double.add b c) :=
    Std.Associative.assoc
  have hcomm : ∀ a b c, Double.add (Double.add a b) c = Double.add (Double.add a c) b := by
    intro a b c
    have hbc : Double.add b c = Double.add c b := Std.Commutative.comm b c
    rw [hassoc, hbc, hassoc]
  rw [hcomm sums.1, hcomm sums.2]

/-! ## The indicator -/

/-- Behind the first defined indicator the loop looks for another one. -/
theorem loop_found {v : Fix.FillLiquidityInd} (fills : List Fix.Fill)
    (h : ∀ item ∈ fills, ∀ w, fillIndicator item = some w → w = v) :
    findLiquidityIndLoop fills v true = v := by
  induction fills with
  | nil => rfl
  | cons item fills ih =>
    have hrest := ih fun i hi => h i (List.mem_cons_of_mem item hi)
    by_cases hitem : item.fillLiquidityInd = .undefined
    · simp [findLiquidityIndLoop, hitem, hrest]
    · have hv : item.fillLiquidityInd = v :=
        h item List.mem_cons_self _ (fillIndicator_defined hitem)
      simp [findLiquidityIndLoop, hv, hrest]

theorem loop_found_other {v : Fix.FillLiquidityInd} (fills : List Fix.Fill)
    (h : ¬∀ item ∈ fills, ∀ w, fillIndicator item = some w → w = v) :
    findLiquidityIndLoop fills v true = .undefined := by
  induction fills with
  | nil => exact absurd (fun _ hi => absurd hi List.not_mem_nil) h
  | cons item fills ih =>
    by_cases hitem : item.fillLiquidityInd = .undefined
    · simp only [findLiquidityIndLoop, hitem, ne_eq, not_true_eq_false, if_false]
      refine ih fun hall => h ?_
      intro i hi w hw
      rcases List.mem_cons.mp hi with rfl | hi
      · rw [fillIndicator_undefined hitem] at hw
        cases hw
      · exact hall i hi w hw
    · by_cases hv : item.fillLiquidityInd = v
      · simp only [findLiquidityIndLoop, hv, ne_eq, not_true_eq_false, if_false, Bool.not_true,
          Bool.false_eq_true, ite_self]
        refine ih fun hall => h ?_
        intro i hi w hw
        rcases List.mem_cons.mp hi with rfl | hi
        · rw [fillIndicator_defined hitem, hv] at hw
          exact (Option.some.inj hw).symm
        · exact hall i hi w hw
      · simp [findLiquidityIndLoop, hitem, hv]

/-- The loop finds what the fills agree on. -/
theorem findLiquidityInd_eq_iff {v : Fix.FillLiquidityInd} (hv : v ≠ .undefined)
    (fills : List Fix.Fill) :
    findLiquidityInd fills = v ↔ Agrees fillIndicator fills v := by
  induction fills with
  | nil => exact iff_of_false (Ne.symm hv) (by simp [Agrees])
  | cons item fills ih =>
    by_cases hitem : item.fillLiquidityInd = .undefined
    · rw [agrees_cons_none (fillIndicator_undefined hitem), ← ih]
      simp [findLiquidityInd, findLiquidityIndLoop, hitem]
    · have hloop : findLiquidityInd (item :: fills) =
          findLiquidityIndLoop fills item.fillLiquidityInd true := by
        simp [findLiquidityInd, findLiquidityIndLoop, hitem]
      rw [agrees_cons_some (fillIndicator_defined hitem), hloop]
      by_cases hall : ∀ i ∈ fills, ∀ w, fillIndicator i = some w → w = item.fillLiquidityInd
      · rw [loop_found fills hall]
        exact ⟨fun h => ⟨h, hall⟩, fun h => h.1⟩
      · rw [loop_found_other fills hall]
        exact iff_of_false (Ne.symm hv) fun h => hall h.2

/-- And finds nothing if they do not agree. -/
theorem findLiquidityInd_undefined_iff (fills : List Fix.Fill) :
    findLiquidityInd fills = .undefined ↔
      ¬∃ v, v ≠ .undefined ∧ Agrees fillIndicator fills v := by
  constructor
  · rintro h ⟨v, hv, hagrees⟩
    exact hv (((findLiquidityInd_eq_iff hv fills).mpr hagrees).symm.trans h)
  · intro h
    by_contra hv
    exact h ⟨_, hv, (findLiquidityInd_eq_iff hv fills).mp rfl⟩

theorem findLiquidityInd_perm {fills fills' : List Fix.Fill} (h : fills.Perm fills') :
    findLiquidityInd fills = findLiquidityInd fills' := by
  by_cases hv : findLiquidityInd fills' = .undefined
  · rw [hv, findLiquidityInd_undefined_iff]
    simpa only [agrees_perm h] using (findLiquidityInd_undefined_iff fills').mp hv
  · exact (findLiquidityInd_eq_iff hv fills).mpr
      ((agrees_perm h).mpr ((findLiquidityInd_eq_iff hv fills').mp rfl))

/-! ## The law -/

/-- What is said of the fills of a report, the report's own last fill apart. -/
structure Aggregated (env : Env) (lastTradedQuantity lastTradedPrice : Double)
    (fills : List Fix.Fill) : Prop where
  /-- The quantity is the sum, and the price, times it, the sum of what was paid; it is between
      the least and the greatest price. -/
  lastTraded : ∃ Q P : ℚ,
    computeLastTraded env lastTradedQuantity lastTradedPrice fills = (some Q, some P) ∧
    Q = (fills.map fillQuantity).sum ∧
    Q * P = (fills.map fun item => fillQuantity item * fillPrice item).sum ∧
    ∃ lo hi, IsLeast { x | x ∈ fills.map fillPrice } lo ∧
      IsGreatest { x | x ∈ fills.map fillPrice } hi ∧ lo ≤ P ∧ P ≤ hi
  /-- The indicator is the one that the fills agree on. -/
  liquidityInd : ∀ v, v ≠ .undefined →
    (findLiquidityInd fills = v ↔ Agrees fillIndicator fills v)
  liquidityInd_undefined : (¬∃ v, v ≠ .undefined ∧ Agrees fillIndicator fills v) →
    findLiquidityInd fills = .undefined
  /-- The fills have no order. -/
  perm : ∀ fills', fills.Perm fills' →
    computeLastTraded env lastTradedQuantity lastTradedPrice fills' =
        computeLastTraded env lastTradedQuantity lastTradedPrice fills ∧
      findLiquidityInd fills' = findLiquidityInd fills

/-- **Aggregating fills.** -/
theorem fills_are_aggregated {env : Env} {fills : List Fix.Fill} (hne : fills ≠ [])
    (h : ∀ item ∈ fills, Filled item)
    (hzero : env.isZero (some (fills.map fillQuantity).sum) = false)
    (lastTradedQuantity lastTradedPrice : Double) :
    Aggregated env lastTradedQuantity lastTradedPrice fills where
  lastTraded := by
    have hpos : ∀ item ∈ fills, 0 < fillQuantity item := fun item hi => (h item hi).pos
    exact ⟨_, _, computeLastTraded_eq hne h hzero _ _, rfl,
      total_mul_mean (total_pos hne hpos).ne', mean_between hne hpos⟩
  liquidityInd v hv := findLiquidityInd_eq_iff hv fills
  liquidityInd_undefined := (findLiquidityInd_undefined_iff fills).mpr
  perm fills' hperm :=
    ⟨(computeLastTraded_perm env _ _ hperm).symm, (findLiquidityInd_perm hperm).symm⟩

theorem two_fills_are_aggregated : Aggregated Env.plain (some 3) (some 104)
    [⟨"t1", some 100, some 1, .addedLiquidity⟩, ⟨"t2", some 104, some 3, .addedLiquidity⟩] :=
  fills_are_aggregated (by decide)
    (by
      intro item hitem
      simp only [List.mem_cons, List.not_mem_nil, or_false] at hitem
      rcases hitem with rfl | rfl <;> exact ⟨rfl, rfl, by decide⟩)
    (by decide +kernel) (some 3) (some 104)

/-- The order update of a report does not depend on the order of its fills. -/
theorem executionOrderUpdate_perm {D : Type} [Download2 D] (env : Env) (header : Fix.Header)
    (r : Fix.ExecutionReport) {fills : List Fix.Fill} (h : r.noFills.Perm fills)
    (o : OrderEntry D) :
    executionOrderUpdate env header { r with noFills := fills } o =
      executionOrderUpdate env header r o := by
  unfold executionOrderUpdate
  rw [computeLastTraded_perm env _ _ h, findLiquidityInd_perm h]

end OrderEntry

end DeribitGateway
