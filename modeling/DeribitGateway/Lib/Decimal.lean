import Mathlib.Data.Nat.Basic
import Mathlib.Data.List.Lex
import Mathlib.Tactic.Common
import Mathlib.Tactic.IntervalCases

/-!
# Decimal numbers as text

Two facts about the decimal digits of natural numbers, as lists of characters:

* padded with zeros to one width, numbers compare as texts the way they compare as numbers,
  whatever follows the digits (`padded_append_lt`);
* a character that is no digit ends the number, so a number and what follows can be read
  back (`toDigits_append_inj`).
-/

namespace Decimal

/-- The last `w` digits of a number. -/
def fixed : ℕ → ℕ → List Char
  | 0, _ => []
  | w + 1, n => fixed w (n / 10) ++ [(n % 10).digitChar]

/-- The digits of a number, with zeros before them up to `w` characters. -/
def padded (w n : ℕ) : List Char := (Nat.toDigits 10 n).leftpad w '0'

theorem fixed_zero (w : ℕ) : fixed w 0 = List.replicate w '0' := by
  induction w with
  | zero => rfl
  | succ w ih =>
    show fixed w 0 ++ ['0'] = List.replicate (w + 1) '0'
    rw [ih, List.replicate_succ']

theorem leftpad_append_single (w : ℕ) (digits : List Char) (c : Char) :
    (digits ++ [c]).leftpad (w + 1) '0' = digits.leftpad w '0' ++ [c] := by
  unfold List.leftpad
  rw [List.length_append, List.length_singleton, Nat.add_sub_add_right, List.append_assoc]

theorem padded_eq_fixed {w n : ℕ} (h : n < 10 ^ (w + 1)) : padded (w + 1) n = fixed (w + 1) n := by
  induction w generalizing n with
  | zero =>
    have hn : n < 10 := h
    unfold padded
    rw [Nat.toDigits_of_lt_base hn]
    show [n.digitChar] = [(n % 10).digitChar]
    rw [Nat.mod_eq_of_lt hn]
  | succ w ih =>
    by_cases hn : n < 10
    · unfold padded
      rw [Nat.toDigits_of_lt_base hn, fixed, Nat.div_eq_of_lt hn, Nat.mod_eq_of_lt hn, fixed_zero]
      rfl
    · have hdiv : n / 10 < 10 ^ (w + 1) := by
        rw [Nat.pow_succ] at h
        exact Nat.div_lt_of_lt_mul (Nat.mul_comm _ 10 ▸ h)
      unfold padded
      rw [Nat.toDigits_of_base_le (by decide) (by omega), leftpad_append_single, fixed, ← ih hdiv]
      rfl

theorem digitChar_lt {d e : ℕ} (h : d < e) (he : e < 10) : d.digitChar < e.digitChar := by
  interval_cases e <;> interval_cases d <;> decide

/-- The same number of digits is compared digit by digit. -/
theorem fixed_append_lt {w n m : ℕ} (h : n < m) (hm : m < 10 ^ w) (s t : List Char) :
    fixed w n ++ s < fixed w m ++ t := by
  induction w generalizing n m s t with
  | zero =>
    rw [Nat.pow_zero] at hm
    omega
  | succ w ih =>
    rw [fixed, fixed, List.append_assoc, List.append_assoc]
    have hdiv : m / 10 < 10 ^ w := by
      rw [Nat.pow_succ] at hm
      exact Nat.div_lt_of_lt_mul (Nat.mul_comm _ 10 ▸ hm)
    by_cases hlt : n / 10 < m / 10
    · exact ih hlt hdiv _ _
    · have heq : n / 10 = m / 10 := by omega
      rw [heq]
      apply List.append_left_lt
      exact List.cons_lt_cons_iff.mpr (.inl (digitChar_lt (by omega) (by omega)))

/-- **Order.** Padded numbers that fit their width compare as texts. -/
theorem padded_append_lt {w n m : ℕ} (h : n < m) (hm : m < 10 ^ (w + 1)) (s t : List Char) :
    padded (w + 1) n ++ s < padded (w + 1) m ++ t := by
  rw [padded_eq_fixed (h.trans hm), padded_eq_fixed hm]
  exact fixed_append_lt h hm s t

/-! ## Reading back -/

theorem takeWhile_toDigits {c : Char} (hc : c.isDigit = false) (n : ℕ) (s : List Char) :
    (Nat.toDigits 10 n ++ c :: s).takeWhile Char.isDigit = Nat.toDigits 10 n := by
  have hdigits : ∀ d ∈ Nat.toDigits 10 n, d.isDigit = true :=
    fun d hd => Nat.isDigit_of_mem_toDigits (by decide) (by decide) hd
  rw [List.takeWhile_append_of_pos hdigits, List.takeWhile_cons_of_neg (by simp [hc]),
    List.append_nil]

theorem toDigits_injective {n m : ℕ} (h : Nat.toDigits 10 n = Nat.toDigits 10 m) : n = m := by
  rw [← Nat.ofDigitChars_ten_toDigits (n := n), h, Nat.ofDigitChars_ten_toDigits]

/-- **Reading back.** A number ends where the first other character is. -/
theorem toDigits_append_inj {c : Char} (hc : c.isDigit = false) {n m : ℕ} {s t : List Char}
    (h : Nat.toDigits 10 n ++ c :: s = Nat.toDigits 10 m ++ c :: t) : n = m := by
  have hdigits := congrArg (List.takeWhile Char.isDigit) h
  rw [takeWhile_toDigits hc, takeWhile_toDigits hc] at hdigits
  exact toDigits_injective hdigits

end Decimal
