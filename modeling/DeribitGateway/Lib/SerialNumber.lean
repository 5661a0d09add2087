import Mathlib.Data.List.Chain
import Mathlib.Tactic.Common

/-!
# Serial numbers — numbers that wrap around

A counter with `2 * h` values wraps around, so no order on its values is the order of time.
What can be said is how far ahead of `p` a number `s` lies on the circle, and, as long as two
numbers are never `h` or more apart, that decides which of them is the later one: `s` is
`Ahead` of `p` if it is less than half the circle ahead. Two numbers exactly half the circle
apart are `Opposite`, and neither is the later one.

The definitions are modular; everything below them is read off the two comparisons
`ahead_of_lt` and `ahead_of_gt`, which have no modulus left.

`exists_positions` says what a sequence of numbers that only move `Forward` is: the wrapped
image of positions that strictly increase.
-/

namespace Serial

/-- How far `s` lies ahead of `p`. -/
def distance (h p s : ℕ) : ℕ := (2 * h + s - p) % (2 * h)

def Ahead (h p s : ℕ) : Prop := 0 < distance h p s ∧ distance h p s < h

def Opposite (h p s : ℕ) : Prop := distance h p s = h

/-- Ahead, or as far ahead as behind. -/
def Forward (h p s : ℕ) : Prop := 0 < distance h p s ∧ distance h p s ≤ h

instance (h p s : ℕ) : Decidable (Ahead h p s) := inferInstanceAs (Decidable (_ ∧ _))

instance (h p s : ℕ) : Decidable (Opposite h p s) := inferInstanceAs (Decidable (_ = _))

instance (h p s : ℕ) : Decidable (Forward h p s) := inferInstanceAs (Decidable (_ ∧ _))

variable {h p s : ℕ}

theorem distance_of_le (hps : p ≤ s) (hs : s < 2 * h) : distance h p s = s - p := by
  unfold distance
  rw [Nat.add_sub_assoc hps, Nat.add_mod_left, Nat.mod_eq_of_lt (by omega)]

theorem distance_of_gt (hsp : s < p) (hp : p < 2 * h) : distance h p s = 2 * h + s - p := by
  unfold distance
  rw [Nat.mod_eq_of_lt (by omega)]

theorem ahead_of_lt (hps : p < s) (hs : s < 2 * h) : Ahead h p s ↔ s - p < h := by
  unfold Ahead
  rw [distance_of_le hps.le hs]
  omega

theorem ahead_of_gt (hsp : s < p) (hp : p < 2 * h) : Ahead h p s ↔ h < p - s := by
  unfold Ahead
  rw [distance_of_gt hsp hp]
  omega

theorem opposite_of_lt (hps : p < s) (hs : s < 2 * h) : Opposite h p s ↔ s - p = h := by
  unfold Opposite
  rw [distance_of_le hps.le hs]

theorem opposite_of_gt (hsp : s < p) (hp : p < 2 * h) : Opposite h p s ↔ p - s = h := by
  unfold Opposite
  rw [distance_of_gt hsp hp]
  omega

theorem not_ahead_self : ¬Ahead h p p := by
  unfold Ahead distance
  rw [Nat.add_sub_cancel, Nat.mod_self]
  omega

theorem forward_iff (hh : 0 < h) : Forward h p s ↔ Ahead h p s ∨ Opposite h p s := by
  unfold Forward Ahead Opposite
  omega

/-- Of two numbers one is the later one, unless they are the same or opposite. -/
theorem ahead_iff_not_ahead (hp : p < 2 * h) (hs : s < 2 * h) (hne : p ≠ s)
    (hopp : ¬Opposite h p s) : Ahead h p s ↔ ¬Ahead h s p := by
  rcases Nat.lt_or_gt_of_ne hne with hlt | hgt
  · rw [opposite_of_lt hlt hs] at hopp
    rw [ahead_of_lt hlt hs, ahead_of_gt hlt hs]
    omega
  · rw [opposite_of_gt hgt hp] at hopp
    rw [ahead_of_gt hgt hp, ahead_of_lt hgt hp]
    omega

/-- The later of two numbers is not the earlier one as well. -/
theorem Ahead.asymm (hp : p < 2 * h) (hs : s < 2 * h) (ha : Ahead h p s) : ¬Ahead h s p := by
  have hne : p ≠ s := by
    rintro rfl
    exact not_ahead_self ha
  have hopp : ¬Opposite h p s := fun ho => absurd ha.2 (by rw [ho]; exact lt_irrefl h)
  exact (ahead_iff_not_ahead hp hs hne hopp).mp ha

theorem Opposite.symm (hp : p < 2 * h) (hs : s < 2 * h) (ho : Opposite h p s) :
    Opposite h s p := by
  rcases Nat.lt_trichotomy p s with hlt | rfl | hgt
  · exact (opposite_of_gt hlt hs).mpr ((opposite_of_lt hlt hs).mp ho)
  · exact ho
  · exact (opposite_of_lt hgt hp).mpr ((opposite_of_gt hgt hp).mp ho)

theorem Opposite.not_ahead (ho : Opposite h p s) : ¬Ahead h p s :=
  fun ha => absurd ha.2 (by rw [ho]; exact lt_irrefl h)

/-! ## Sequences -/

/-- Numbers that only move forward are positions on a line, wrapped around: the positions
    strictly increase, by at most half the circle at a time. -/
theorem exists_positions {n : ℕ} {numbers : List ℕ}
    (hn : n % (2 * h) = p) (hlt : ∀ s ∈ numbers, s < 2 * h)
    (hchain : (p :: numbers).IsChain (Forward h)) :
    ∃ positions : List ℕ, positions.map (· % (2 * h)) = numbers ∧
      (n :: positions).IsChain fun m m' => m < m' ∧ m' ≤ m + h := by
  induction numbers generalizing n p with
  | nil => exact ⟨[], rfl, List.isChain_singleton n⟩
  | cons s rest ih =>
    obtain ⟨⟨hpos, hle⟩, hrest⟩ := List.isChain_cons_cons.mp hchain
    have hs : s < 2 * h := hlt s List.mem_cons_self
    have hnext : (n + distance h p s) % (2 * h) = s := by
      have hp : p < 2 * h := hn ▸ Nat.mod_lt n (by omega)
      rw [Nat.add_mod, hn]
      rcases Nat.lt_or_ge s p with hgt | hle'
      · rw [distance_of_gt hgt hp, Nat.mod_eq_of_lt (a := 2 * h + s - p) (by omega),
          show p + (2 * h + s - p) = 2 * h + s by omega, Nat.add_mod_left, Nat.mod_eq_of_lt hs]
      · rw [distance_of_le hle' hs, Nat.mod_eq_of_lt (a := s - p) (by omega),
          Nat.add_sub_cancel' hle', Nat.mod_eq_of_lt hs]
    obtain ⟨positions, hmap, hpositions⟩ :=
      ih hnext (fun t ht => hlt t (List.mem_cons_of_mem s ht)) hrest
    refine ⟨(n + distance h p s) :: positions, ?_, ?_⟩
    · rw [List.map_cons, hnext, hmap]
    · exact List.isChain_cons_cons.mpr ⟨⟨by omega, by omega⟩, hpositions⟩

end Serial
