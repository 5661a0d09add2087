import Mathlib.Data.List.Forall2
import Mathlib.Data.List.Perm.Basic

/-!
# Walks

A walk visits the elements of a list one after the other, with a callback that carries a state
and says whether to stop. Where an element that does not stop the walk leaves the state as it
was, the walk is a search for the first that does (`walk_eq`), and `findSome_perm_iff` says when
such a search does not depend on the order.
-/

namespace Walk

variable {α β γ σ ε : Type*}

/-- The callback says whether to stop, or fails. -/
def walk (callback : σ → α → σ × Except ε Bool) : σ → List α → σ × Except ε Unit
  | s, [] => (s, .ok ())
  | s, x :: rest =>
    match callback s x with
    | (s', .error e) => (s', .error e)
    | (s', .ok true) => (s', .ok ())
    | (s', .ok false) => walk callback s' rest

/-- What a callback says that leaves no trace unless it ends the walk. -/
def answer (s : σ) : Option (σ × Except ε Unit) → σ × Except ε Bool
  | none => (s, .ok false)
  | some (s', ended) => (s', ended.map fun _ => true)

/-- **A walk is a search**, when what is passed leaves no trace. -/
theorem walk_eq {callback : σ → α → σ × Except ε Bool} {s : σ} {f : α → Option β}
    {ending : β → σ × Except ε Unit} (h : ∀ x, callback s x = answer s ((f x).map ending))
    (l : List α) : walk callback s l = ((l.findSome? f).map ending).getD (s, .ok ()) := by
  induction l with
  | nil => rfl
  | cons x rest ih =>
    rw [List.findSome?_cons]
    unfold walk
    rw [h x]
    cases f x with
    | none => exact ih
    | some found =>
      rcases hending : ending found with ⟨s', e | _⟩ <;> simp [answer, Except.map, hending]

/-- One element for another that is searched for alike. -/
theorem findSome_forall₂ {f : α → Option β} {l l' : List α}
    (h : List.Forall₂ (fun x y => f x = f y) l l') : l.findSome? f = l'.findSome? f := by
  induction h with
  | nil => rfl
  | cons hxy _ ih => rw [List.findSome?_cons, List.findSome?_cons, hxy, ih]

theorem exists_findSome {f : α → Option β} {l : List α} {x : α} {e : β} (hx : x ∈ l)
    (he : f x = some e) : ∃ y ∈ l, ∃ e', f y = some e' ∧ l.findSome? f = some e' := by
  have hfound : (l.findSome? f).isSome := by
    rw [List.findSome?_isSome_iff]
    exact ⟨x, hx, Option.isSome_of_mem he⟩
  obtain ⟨e', h⟩ := Option.isSome_iff_exists.mp hfound
  obtain ⟨y, hy, he'⟩ := List.exists_of_findSome?_eq_some h
  exact ⟨y, hy, e', he', h⟩

/-- Any element can be made the first. -/
theorem exists_perm_findSome {f : α → Option β} {l : List α} {x : α} {e : β} (hx : x ∈ l)
    (he : f x = some e) : ∃ l', l.Perm l' ∧ l'.findSome? f = some e := by
  obtain ⟨front, back, rfl⟩ := List.append_of_mem hx
  exact ⟨x :: (front ++ back), List.perm_middle, by rw [List.findSome?_cons, he]⟩

/-- **When the order does not matter**: what is found first is seen as what is found anywhere
    else. -/
theorem findSome_perm_iff {f : α → Option β} {l : List α} (g : Option β → γ) :
    (∀ l', l.Perm l' → g (l'.findSome? f) = g (l.findSome? f)) ↔
      ∀ x ∈ l, ∀ y ∈ l, ∀ e e', f x = some e → f y = some e' → g (some e) = g (some e') := by
  constructor
  · intro h x hx y hy e e' he he'
    obtain ⟨l₁, hperm₁, h₁⟩ := exists_perm_findSome hx he
    obtain ⟨l₂, hperm₂, h₂⟩ := exists_perm_findSome hy he'
    calc g (some e) = g (l.findSome? f) := by rw [← h₁, h l₁ hperm₁]
      _ = g (some e') := by rw [← h₂, h l₂ hperm₂]
  · intro h l' hperm
    by_cases hsome : ∃ x ∈ l, ∃ e, f x = some e
    · obtain ⟨x, hx, e, he⟩ := hsome
      obtain ⟨y, hy, e₁, he₁, h₁⟩ := exists_findSome hx he
      obtain ⟨z, hz, e₂, he₂, h₂⟩ := exists_findSome (hperm.mem_iff.mp hx) he
      rw [h₁, h₂]
      exact h z (hperm.mem_iff.mpr hz) y hy e₂ e₁ he₂ he₁
    · have hnone : ∀ x ∈ l, f x = none := fun x hx =>
        Option.eq_none_iff_forall_ne_some.mpr fun e he => hsome ⟨x, hx, e, he⟩
      rw [List.findSome?_eq_none_iff.mpr hnone,
        List.findSome?_eq_none_iff.mpr fun x hx => hnone x (hperm.mem_iff.mpr hx)]

end Walk
