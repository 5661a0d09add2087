import Mathlib.Data.List.Basic

/-!
# Bursts — what belongs together, and where it ends

What belongs together is put out item by item, and the item at the end says that it is the last
one. A reader who sees nothing but the items cuts behind each last one (`cut`). If each message
becomes a burst, of which only the item at the end is last, or nothing at all, then the reader
gets the bursts back, one for each message, and nothing is left over (`cut_messages`).
-/

namespace Bursts

variable {α ι μ : Type*} {last : α → Bool}

/-- The pieces up to each last item, and what is left over. -/
def cut (last : α → Bool) : List α → List (List α) × List α
  | [] => ([], [])
  | a :: as =>
    if last a then ([a] :: (cut last as).1, (cut last as).2)
    else match (cut last as).1 with
      | [] => ([], a :: (cut last as).2)
      | burst :: bursts => ((a :: burst) :: bursts, (cut last as).2)

/-- The item at the end is last, and no other one is. -/
inductive IsBurst (last : α → Bool) : List α → Prop
  | single {a : α} (h : last a = true) : IsBurst last [a]
  | cons {a : α} {as : List α} (h : last a = false) (hrest : IsBurst last as) :
      IsBurst last (a :: as)

theorem IsBurst.concat {front : List α} {a : α} (hfront : ∀ b ∈ front, last b = false)
    (ha : last a = true) : IsBurst last (front ++ [a]) := by
  induction front with
  | nil => exact .single ha
  | cons b front ih =>
    exact .cons (hfront b List.mem_cons_self) (ih fun c hc => hfront c (List.mem_cons_of_mem b hc))

theorem IsBurst.cut_append {as : List α} (h : IsBurst last as) (bs : List α) :
    cut last (as ++ bs) = (as :: (cut last bs).1, (cut last bs).2) := by
  induction h with
  | single ha => rw [List.singleton_append, cut, if_pos ha]
  | cons ha _ ih =>
    rw [List.cons_append, cut, ih]
    simp only [ha, Bool.false_eq_true, if_false]

/-- What becomes of a message: a burst that shows it, or nothing if there is none. -/
def Becomes (last : α → Bool) (Shows : μ → List α → Prop) : Option μ → List α → Prop
  | none, as => as = []
  | some m, as => IsBurst last as ∧ Shows m as

/-- **A reader gets the messages back**, in order. -/
theorem cut_messages {Shows : μ → List α → Prop} {message : ι → Option μ} {is : List ι}
    {pieces : List (List α)}
    (h : List.Forall₂ (fun i as => Becomes last Shows (message i) as) is pieces) :
    (cut last pieces.flatten).2 = [] ∧
      List.Forall₂ Shows (is.filterMap message) (cut last pieces.flatten).1 := by
  induction h with
  | nil => exact ⟨rfl, .nil⟩
  | @cons i as is pieces hfirst _ ih =>
    rw [List.flatten_cons]
    cases hm : message i with
    | none =>
      rw [hm] at hfirst
      obtain rfl : as = [] := hfirst
      rwa [List.nil_append, List.filterMap_cons_none hm]
    | some m =>
      rw [hm] at hfirst
      obtain ⟨hburst, hshows⟩ := hfirst
      rw [hburst.cut_append, List.filterMap_cons_some hm]
      exact ⟨ih.1, .cons hshows ih.2⟩

end Bursts
