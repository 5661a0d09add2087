import Mathlib.Data.List.Destutter

/-!
# Changes — what is passed on of a stream of values

A program keeps the last value that it has passed on, and passes on the next one only if that
has changed. `Passed` says that it has done so for the values so far; what is passed on is then
what `List.destutter'` leaves of them. What counts as a change is arbitrary.
-/

namespace Changes

variable {α : Type*} (R : α → α → Prop) [DecidableRel R]

/-- From `first` on, `passed` is what has been passed on of `values`, and `last` the last of it. -/
structure Passed (first : α) (values : List α) (last : α) (passed : List α) : Prop where
  eq : first :: passed = values.destutter' R first
  last? : last ∈ (first :: passed).getLast?

/-- The next value, behind all others. -/
theorem destutter'_concat {values : List α} {first last value : α}
    (h : last ∈ (values.destutter' R first).getLast?) :
    (values ++ [value]).destutter' R first =
      values.destutter' R first ++ if R last value then [value] else [] := by
  induction values generalizing first with
  | nil =>
    obtain rfl : first = last := Option.some.inj h
    rw [List.nil_append, List.destutter'_singleton]
    split_ifs
    · rfl
    · rfl
  | cons a values ih =>
    rw [List.cons_append]
    by_cases hR : R first a
    · rw [List.destutter'_cons_pos _ hR] at h ⊢
      rw [List.destutter'_cons_pos _ hR, List.cons_append]
      congr 1
      apply ih
      rwa [List.getLast?_cons_of_ne_nil (List.destutter'_ne_nil _ R)] at h
    · rw [List.destutter'_cons_neg _ hR] at h ⊢
      rw [List.destutter'_cons_neg _ hR]
      exact ih h

namespace Passed

variable {R} {first last value : α} {values passed : List α}

theorem start : Passed R first [] first [] := ⟨rfl, rfl⟩

/-- A value that has changed is passed on. -/
theorem pass (h : Passed R first values last passed) (hR : R last value) :
    Passed R first (values ++ [value]) value (passed ++ [value]) := by
  refine ⟨?_, ?_⟩
  · rw [destutter'_concat R (h.eq ▸ h.last?), if_pos hR, ← h.eq, List.cons_append]
  · rw [← List.cons_append, List.getLast?_concat]
    rfl

/-- A value that has not is dropped. -/
theorem drop (h : Passed R first values last passed) (hR : ¬R last value) :
    Passed R first (values ++ [value]) last passed := by
  refine ⟨?_, h.last?⟩
  rw [destutter'_concat R (h.eq ▸ h.last?), if_neg hR, List.append_nil, ← h.eq]

/-- Where nothing has come, the last value is the first one. -/
theorem eq_first (h : Passed R first [] last passed) : last = first := by
  obtain rfl : passed = [] := (List.cons.inj h.eq).2
  exact (Option.some.inj h.last?).symm

end Passed

end Changes
