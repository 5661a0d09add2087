import Mathlib.Data.List.Basic
import Mathlib.Tactic.Common

/-!
# Views of text

Finding a delimiter from a position on, and cutting a view out of a view, as loops over
delimited names do it. A name is a chain of segments without the delimiter in them: what is
found behind a segment is its end (`findFirstOf_append`), and what is cut out between is the
segment (`substr_append`).
-/

namespace StringView

variable {α : Type*} [DecidableEq α]

/-- The position of the first `c` from `pos` on. -/
def findFirstOf (view : List α) (c : α) (pos : ℕ) : Option ℕ :=
  ((view.drop pos).findIdx? (· = c)).map (pos + ·)

/-- `length` items from `pos` on, or all of them. -/
def substr (view : List α) (pos : ℕ) : Option ℕ → List α
  | none => view.drop pos
  | some length => (view.drop pos).take length

theorem findIdx?_append_cons {c : α} {segment back : List α} (h : c ∉ segment) :
    (segment ++ c :: back).findIdx? (· = c) = some segment.length := by
  induction segment with
  | nil => exact (List.findIdx?_cons ..).trans (if_pos (decide_eq_true rfl))
  | cons x segment ih =>
    obtain ⟨hx, hsegment⟩ := not_or.mp (List.mem_cons.not.mp h)
    rw [List.cons_append, List.findIdx?_cons, if_neg (by simpa using Ne.symm hx), ih hsegment]
    rfl

theorem findFirstOf_append (front back : List α) {c : α} {segment : List α} (h : c ∉ segment) :
    findFirstOf (front ++ (segment ++ c :: back)) c front.length =
      some (front.length + segment.length) := by
  rw [findFirstOf, List.drop_left, findIdx?_append_cons h]
  rfl

theorem findFirstOf_none (front : List α) {c : α} {segment : List α} (h : c ∉ segment) :
    findFirstOf (front ++ segment) c front.length = none := by
  rw [findFirstOf, List.drop_left, List.findIdx?_eq_none_iff.mpr]
  · rfl
  · intro x hx
    simpa using fun hxc : x = c => h (hxc ▸ hx)

omit [DecidableEq α] in
theorem substr_append (front segment back : List α) :
    substr (front ++ (segment ++ back)) front.length (some segment.length) = segment := by
  rw [substr, List.drop_left, List.take_left]

end StringView
