import DeribitGateway.Lib.Emission

/-!
# Batches

A list is worked off in pieces of a fixed size. `batches` are the pieces. `loop` is how such a
loop is written: an offset goes up by the size, and each piece is copied to the front of one
buffer that is used again and again. The loop ends, never writes past the buffer, and calls
the handler with the pieces and nothing else (`loop_eq`): what is left in the buffer from a
longer piece is not seen.
-/

namespace Batches

open Emission

variable {α σ ω : Type*}

/-- The pieces of a list, in at most so many rounds. -/
def batches (size : ℕ) : ℕ → List α → List (List α)
  | 0, _ => []
  | rounds + 1, items =>
    if items.isEmpty then [] else items.take size :: batches size rounds (items.drop size)

@[simp] theorem batches_nil (size rounds : ℕ) : batches size rounds ([] : List α) = [] := by
  cases rounds <;> rfl

theorem batches_cons (size rounds : ℕ) (item : α) (items : List α) :
    batches size (rounds + 1) (item :: items) =
      (item :: items).take size :: batches size rounds ((item :: items).drop size) := rfl

/-- Fewer rounds are needed for what is left. -/
theorem length_drop_le {size rounds : ℕ} (hsize : 0 < size) {items : List α}
    (h : items.length ≤ rounds + 1) : (items.drop size).length ≤ rounds := by
  rw [List.length_drop]
  omega

/-- Nothing is lost, nothing comes twice. -/
theorem batches_flatten {size rounds : ℕ} (hsize : 0 < size) {items : List α}
    (hrounds : items.length ≤ rounds) : (batches size rounds items).flatten = items := by
  induction rounds generalizing items with
  | zero =>
    obtain rfl := List.length_eq_zero_iff.mp (Nat.le_zero.mp hrounds)
    rfl
  | succ rounds ih =>
    cases items with
    | nil => rfl
    | cons item items =>
      rw [batches_cons, List.flatten_cons, ih (length_drop_le hsize hrounds),
        List.take_append_drop]

theorem mem_batches {size rounds : ℕ} (hsize : 0 < size) {items batch : List α}
    (h : batch ∈ batches size rounds items) : 0 < batch.length ∧ batch.length ≤ size := by
  induction rounds generalizing items with
  | zero => cases h
  | succ rounds ih =>
    cases items with
    | nil => cases h
    | cons item items =>
      rw [batches_cons] at h
      rcases List.mem_cons.mp h with rfl | h
      · rw [List.length_take, List.length_cons]
        omega
      · exact ih h

/-! ## The loop -/

/-- The items are written over the front of the buffer. -/
def overwrite (items buffer : List α) : List α := items ++ buffer.drop items.length

theorem take_overwrite (items buffer : List α) :
    (overwrite items buffer).take items.length = items := List.take_left

theorem length_overwrite {items buffer : List α} (h : items.length ≤ buffer.length) :
    (overwrite items buffer).length = buffer.length := by
  rw [overwrite, List.length_append, List.length_drop]
  omega

/-- `for (offset = 0;; offset += size)`. There is no result when the rounds are used up, or
    when a piece does not fit the buffer. -/
def loop (size : ℕ) (f : List α → Handler σ ω) (items : List α) :
    ℕ → ℕ → List α → σ → Option (σ × List ω)
  | 0, _, _, _ => none
  | rounds + 1, offset, buffer, s =>
    if items.length ≤ offset then some (s, [])
    else
      let length := min (items.length - offset) size
      if buffer.length < length then none
      else
        let buffer := overwrite ((items.drop offset).take length) buffer
        let r := f (buffer.take length) s
        (loop size f items rounds (offset + size) buffer r.1).map fun r' => (r'.1, r.2 ++ r'.2)

theorem length_slice (items : List α) (offset size : ℕ) :
    ((items.drop offset).take (min (items.length - offset) size)).length =
      min (items.length - offset) size := by
  rw [List.length_take, List.length_drop]
  omega

theorem slice_eq (items : List α) (offset size : ℕ) :
    (items.drop offset).take (min (items.length - offset) size) =
      (items.drop offset).take size := by
  rw [← List.length_drop, Nat.min_comm, ← List.take_take, List.take_length]

/-- One round. -/
theorem loop_succ {size : ℕ} {f : List α → Handler σ ω} {items buffer : List α}
    {rounds offset : ℕ} {s : σ} (hend : ¬items.length ≤ offset) (hbuffer : buffer.length = size) :
    loop size f items (rounds + 1) offset buffer s =
      (loop size f items rounds (offset + size)
        (overwrite ((items.drop offset).take size) buffer)
        (f ((items.drop offset).take size) s).1).map
          fun r => (r.1, (f ((items.drop offset).take size) s).2 ++ r.2) := by
  have hslice := length_slice items offset size
  have htake := take_overwrite
    ((items.drop offset).take (min (items.length - offset) size)) buffer
  rw [hslice, slice_eq] at htake
  rw [loop, if_neg hend]
  dsimp only
  rw [if_neg (by omega), slice_eq, htake]

/-- **The loop calls the handler for each of the batches.** -/
theorem loop_eq {size : ℕ} {f : List α → Handler σ ω} {items buffer : List α}
    {rounds offset : ℕ} {s : σ} (rounds' : ℕ) (hsize : 0 < size ∨ items = [])
    (hbuffer : buffer.length = size) (hrounds : items.length - offset < rounds)
    (hrounds' : items.length - offset ≤ rounds') :
    loop size f items rounds offset buffer s =
      some (each f (batches size rounds' (items.drop offset)) s) := by
  induction rounds generalizing rounds' offset buffer s with
  | zero => omega
  | succ rounds ih =>
    by_cases hend : items.length ≤ offset
    · rw [loop, if_pos hend, List.drop_eq_nil_of_le hend, batches_nil]
      rfl
    · have hpos : 0 < size := by
        rcases hsize with hpos | rfl
        · exact hpos
        · exact absurd (Nat.zero_le offset) hend
      obtain ⟨rounds', rfl⟩ : ∃ n, rounds' = n + 1 := ⟨rounds' - 1, by omega⟩
      have hfits : ((items.drop offset).take size).length ≤ buffer.length := by
        rw [List.length_take]
        omega
      have hne : ¬(items.drop offset).isEmpty = true := by
        rw [List.isEmpty_iff, List.drop_eq_nil_iff]
        exact hend
      rw [loop_succ hend hbuffer,
        ih rounds' ((length_overwrite hfits).trans hbuffer) (by omega) (by omega),
        batches, if_neg hne, List.drop_drop]
      rfl

end Batches
