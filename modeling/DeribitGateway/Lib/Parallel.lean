import DeribitGateway.Lib.Transducer

/-!
# Parallel — components in a common world

Components have names, and each of them is a program of its own. They stand in a common world,
which every one of them looks at and changes, and which goes on by itself, too. An input is for
one component, or there is one for each, which they take one after the other, or it is for the
world. The whole ends when a component ends, or the world.

A component is isolated (`Isolated`) if it does by itself what it does there, but for
what `forget` takes from its outputs. Then it does not notice the others, either: what the whole
does under its name is what it does by itself with the inputs for it (`run_component`).
-/

namespace Parallel

open Transducer

variable {κ σ τ ι ε ω ν α : Type*} [DecidableEq κ]

/-- An input for one component, or one for each of them, or one for the world. -/
inductive Input (κ ι ε : Type*)
  | one (k : κ) (i : ι)
  | all (i : κ → ι)
  | world (e : ε)

/-- A component takes an input. -/
def call (step : κ → Step (σ × τ) ι ω) : Step ((κ → σ) × τ) (κ × ι) (κ × ω) := fun s p =>
  ((step p.1 (s.1 p.1, s.2) p.2).1.map fun t => (Function.update s.1 p.1 t.1, t.2),
    (step p.1 (s.1 p.1, s.2) p.2).2.map (p.1, ·))

/-- The components together, in their world. -/
def parallel (step : κ → Step (σ × τ) ι ω) (world : Step τ ε ν) (keys : List κ) :
    Step ((κ → σ) × τ) (Input κ ι ε) ((κ × ω) ⊕ ν) := fun s i =>
  match i with
  | .one k i => ((call step s (k, i)).1, (call step s (k, i)).2.map .inl)
  | .all i =>
    let calls := keys.map fun k => (k, i k)
    ((run (call step) s calls).1, (run (call step) s calls).2.map .inl)
  | .world e => ((world s.2 e).1.map (s.1, ·), (world s.2 e).2.map .inr)

/-- The input for one of the components. -/
def Input.view (k : κ) : Input κ ι ε → Option ι
  | .one k' i => if k' = k then some i else none
  | .all i => some (i k)
  | .world _ => none

/-- What is said under one name. -/
def under {α : Type*} (k : κ) (p : κ × α) : Option α := if p.1 = k then some p.2 else none

@[simp] theorem under_self {α : Type*} (k : κ) (a : α) : under k (k, a) = some a := if_pos rfl

theorem under_other {α : Type*} {k k' : κ} (h : k' ≠ k) (a : α) : under k (k', a) = none :=
  if_neg h

/-- What a component puts out. -/
def from? (k : κ) : (κ × ω) ⊕ ν → Option ω
  | .inl p => under k p
  | .inr _ => none

theorem filterMap_under_map {α : Type*} (k : κ) (as : List α) :
    (as.map (k, ·)).filterMap (under k) = as := by
  rw [List.filterMap_map]
  exact (List.filterMap_congr fun a _ => under_self k a).trans List.filterMap_some

theorem filterMap_under_other {α : Type*} {k k' : κ} (h : k' ≠ k) (as : List α) :
    (as.map (k', ·)).filterMap (under k) = [] := by
  rw [List.filterMap_map, List.filterMap_eq_nil_iff]
  intro a _
  exact under_other h a

theorem filterMap_from_inl (k : κ) (os : List (κ × ω)) :
    (os.map (Sum.inl : κ × ω → (κ × ω) ⊕ ν)).filterMap (from? k) = os.filterMap (under k) := by
  rw [List.filterMap_map]
  rfl

theorem filterMap_from_inr (k : κ) (os : List ν) :
    (os.map (Sum.inr : ν → (κ × ω) ⊕ ν)).filterMap (from? k) = [] := by
  rw [List.filterMap_map, List.filterMap_eq_nil_iff]
  exact fun _ _ => rfl

/-- Where there is an input for each component, there is one for a given one. -/
theorem filterMap_calls {keys : List κ} (hkeys : keys.Nodup) {k : κ} (hk : k ∈ keys)
    (i : κ → ι) : (keys.map fun k => (k, i k)).filterMap (under k) = [i k] := by
  obtain ⟨front, back, rfl⟩ := List.append_of_mem hk
  have hfront : (front.map fun k' => (k', i k')).filterMap (under k) = [] := by
    rw [List.filterMap_map, List.filterMap_eq_nil_iff]
    intro k' hmem
    exact under_other ((List.nodup_append.mp hkeys).2.2 k' hmem k List.mem_cons_self) _
  have hback : (back.map fun k' => (k', i k')).filterMap (under k) = [] := by
    rw [List.filterMap_map, List.filterMap_eq_nil_iff]
    intro k' hmem
    have hnotin : k ∉ back := (List.nodup_cons.mp (List.nodup_append.mp hkeys).2.1).1
    exact under_other (fun h : k' = k => hnotin (h ▸ hmem)) _
  rw [List.map_append, List.map_cons, List.filterMap_append, hfront, List.nil_append,
    List.filterMap_cons_some (under_self k _), hback]

/-! ## Components that do not look at the world -/

/-- In every world a component does what it does by itself, as far as `forget` shows. -/
def Isolated (forget : ω → α) (alone : κ → Step σ ι ω) (step : κ → Step (σ × τ) ι ω) : Prop :=
  ∀ k s m i, (step k (s, m) i).1.map Prod.fst = (alone k s i).1 ∧
    (step k (s, m) i).2.map forget = (alone k s i).2.map forget

variable {forget : ω → α} {alone : κ → Step σ ι ω} {step : κ → Step (σ × τ) ι ω}

/-- What a component does by itself, and what is to be seen of it in the whole. -/
def Matches (forget : ω → α) (r : Option σ × List ω) (s : σ) (os : List ω) : Prop :=
  r.1 = some s ∧ r.2.map forget = os.map forget

/-- A component goes on from where it has got. -/
theorem Matches.append {step : Step σ ι ω} {s t u : σ} {is js : List ι} {os os' : List ω}
    (h : Matches forget (run step s is) t os) (h' : Matches forget (run step t js) u os') :
    Matches forget (run step s (is ++ js)) u (os ++ os') := by
  rw [run_append_some js h.1]
  refine ⟨h'.1, ?_⟩
  rw [List.map_append, List.map_append, h.2, h'.2]

/-- Calls that all return. -/
theorem run_call (hisolated : Isolated forget alone step) (k : κ) {s t : (κ → σ) × τ}
    {ps : List (κ × ι)} (h : (run (call step) s ps).1 = some t) :
    Matches forget (run (alone k) (s.1 k) (ps.filterMap (under k))) (t.1 k)
      ((run (call step) s ps).2.filterMap (under k)) := by
  induction ps generalizing s with
  | nil =>
    obtain rfl := Option.some.inj h
    exact ⟨rfl, rfl⟩
  | cons p ps ih =>
    obtain ⟨k', i⟩ := p
    obtain ⟨hstate, hout⟩ := hisolated k' (s.1 k') s.2 i
    cases hs : (step k' (s.1 k', s.2) i).1 with
    | none =>
      have hnone : (call step s (k', i)).1 = none := by simp [call, hs]
      rw [run_cons_none ps hnone] at h
      cases h
    | some u =>
      have hsome : (call step s (k', i)).1 = some (Function.update s.1 k' u.1, u.2) := by
        simp [call, hs]
      rw [run_cons_some ps hsome] at h ⊢
      have hrest := ih h
      dsimp only at hrest
      rw [List.filterMap_append]
      by_cases hk : k' = k
      · subst hk
        rw [Function.update_self] at hrest
        rw [hs, Option.map_some] at hstate
        have hhead : Matches forget (run (alone k') (s.1 k') [i]) u.1
            ((call step s (k', i)).2.filterMap (under k')) := by
          rw [run_singleton, call, filterMap_under_map]
          exact ⟨hstate.symm, hout.symm⟩
        rw [List.filterMap_cons_some (under_self k' i), ← List.singleton_append]
        exact hhead.append hrest
      · rw [Function.update_of_ne (Ne.symm hk)] at hrest
        rw [List.filterMap_cons_none (under_other hk i), call, filterMap_under_other hk,
          List.nil_append]
        exact hrest

/-- One input of the whole. -/
theorem parallel_component (hisolated : Isolated forget alone step) {world : Step τ ε ν}
    {keys : List κ} (hkeys : keys.Nodup) {k : κ} (hk : k ∈ keys) {s t : (κ → σ) × τ}
    {i : Input κ ι ε} (h : (parallel step world keys s i).1 = some t) :
    Matches forget (run (alone k) (s.1 k) (i.view k).toList) (t.1 k)
      ((parallel step world keys s i).2.filterMap (from? k)) := by
  cases i with
  | one k' i =>
    have hone : (run (call step) s [(k', i)]).1 = some t := by
      rw [run_singleton]
      exact h
    have hcall := run_call hisolated k hone
    have hview : [(k', i)].filterMap (under k) =
        ((Input.one k' i : Input κ ι ε).view k).toList := by
      by_cases hk' : k' = k <;> simp [under, Input.view, hk']
    rw [hview, run_singleton] at hcall
    simp only [parallel, filterMap_from_inl]
    exact hcall
  | all i =>
    have hcall := run_call hisolated k h
    rw [filterMap_calls hkeys hk] at hcall
    simp only [parallel, filterMap_from_inl]
    exact hcall
  | world e =>
    obtain ⟨m, -, rfl⟩ := Option.map_eq_some_iff.mp h
    simp only [parallel, filterMap_from_inr]
    exact ⟨rfl, rfl⟩

/-- **What the whole does under one name is what the component does by itself.** -/
theorem run_component (hisolated : Isolated forget alone step) {world : Step τ ε ν} {keys : List κ}
    (hkeys : keys.Nodup) {k : κ} (hk : k ∈ keys) {s t : (κ → σ) × τ} {is : List (Input κ ι ε)}
    (h : (run (parallel step world keys) s is).1 = some t) :
    Matches forget (run (alone k) (s.1 k) (is.filterMap (Input.view k))) (t.1 k)
      ((run (parallel step world keys) s is).2.filterMap (from? k)) := by
  induction is generalizing s with
  | nil =>
    obtain rfl := Option.some.inj h
    exact ⟨rfl, rfl⟩
  | cons i is ih =>
    cases hs : (parallel step world keys s i).1 with
    | none =>
      rw [run_cons_none is hs] at h
      cases h
    | some u =>
      rw [run_cons_some is hs] at h ⊢
      have hhead := parallel_component hisolated hkeys hk hs
      have hview : (i :: is).filterMap (Input.view k) =
          (i.view k).toList ++ is.filterMap (Input.view k) := by
        cases hi : i.view k with
        | none => rw [List.filterMap_cons_none hi]; rfl
        | some j => rw [List.filterMap_cons_some hi]; rfl
      rw [hview, List.filterMap_append]
      exact hhead.append (ih h)

end Parallel
