import Mathlib.Logic.Function.Basic
import Mathlib.Data.List.Basic
import Mathlib.Tactic.Common

/-!
# Transducers — runs of a program that reads inputs and emits outputs

A program is given by one function: from a state and an input it answers the next state,
or `none` when it has ended, together with what it emitted on the way. A run folds that
function over a list of inputs and keeps every output in order.

Three things are proved about runs, once, and used by every development that instantiates
`Step`:

* `run_sound`, the invariant rule. A property of states that each step preserves holds in
  the state a run reaches, and a property every step's outputs have is a property of all
  outputs of the run. `Guarded` carries what is assumed of the steps: it is defined along
  the run, so a guard speaks about an input *in the state before it*. `run_shows` is the rule for
  a part of the state and of the outputs, and `run_simulates` the one for two readers, one of the
  inputs and one of the outputs.
* `run_observe` and `run_keeping`, the erasure rules. A run can be watched by a ghost that
  sees each input pass, or kept next to a history that sees the outputs as well; forgetting
  either gives back the run.
* `run_skip`, the stuttering rule. Inputs that leave the state alone and emit nothing
  worth keeping can be dropped from a run.
-/

namespace Transducer

variable {σ ι ω γ ν : Type*}

/-- The next state (`none`: the program has ended) and the outputs of one step. -/
abbrev Step (σ ι ω : Type*) := σ → ι → Option σ × List ω

/-- A run: the state reached, unless the program has ended before, and every output. -/
def run (step : Step σ ι ω) : σ → List ι → Option σ × List ω
  | s, [] => (some s, [])
  | s, i :: is =>
    match step s i with
    | (none, os) => (none, os)
    | (some s', os) => ((run step s' is).1, os ++ (run step s' is).2)

@[simp] theorem run_nil (step : Step σ ι ω) (s : σ) : run step s [] = (some s, []) := rfl

theorem run_cons_none {step : Step σ ι ω} {s : σ} {i : ι} (is : List ι)
    (h : (step s i).1 = none) : run step s (i :: is) = (none, (step s i).2) := by
  rcases hs : step s i with ⟨_ | s', os⟩
  · simp [run, hs]
  · simp [hs] at h

theorem run_cons_some {step : Step σ ι ω} {s s' : σ} {i : ι} (is : List ι)
    (h : (step s i).1 = some s') :
    run step s (i :: is) = ((run step s' is).1, (step s i).2 ++ (run step s' is).2) := by
  rcases hs : step s i with ⟨_ | s'', os⟩
  · simp [hs] at h
  · simp only [hs, Option.some.injEq] at h
    subst h
    simp [run, hs]

theorem run_singleton (step : Step σ ι ω) (s : σ) (i : ι) : run step s [i] = step s i := by
  cases hs : (step s i).1 with
  | none => exact (run_cons_none [] hs).trans (Prod.ext hs.symm rfl)
  | some t =>
    rw [run_cons_some [] hs, run_nil, List.append_nil]
    exact Prod.ext hs.symm rfl

/-- What comes behind the end is not looked at. -/
theorem run_append_none {step : Step σ ι ω} {s : σ} {is : List ι} (js : List ι)
    (h : (run step s is).1 = none) : run step s (is ++ js) = run step s is := by
  induction is generalizing s with
  | nil => cases h
  | cons i is ih =>
    cases hs : (step s i).1 with
    | none => rw [List.cons_append, run_cons_none _ hs, run_cons_none _ hs]
    | some t =>
      rw [run_cons_some is hs] at h
      rw [List.cons_append, run_cons_some _ hs, run_cons_some _ hs, ih h]

/-- A run goes on from the state reached. -/
theorem run_append_some {step : Step σ ι ω} {s t : σ} {is : List ι} (js : List ι)
    (h : (run step s is).1 = some t) :
    run step s (is ++ js) = ((run step t js).1, (run step s is).2 ++ (run step t js).2) := by
  induction is generalizing s with
  | nil =>
    obtain rfl := Option.some.inj h
    simp
  | cons i is ih =>
    cases hs : (step s i).1 with
    | none =>
      rw [run_cons_none _ hs] at h
      cases h
    | some u =>
      rw [run_cons_some is hs] at h
      rw [List.cons_append, run_cons_some _ hs, run_cons_some _ hs, ih h, List.append_assoc]

/-- A run reaches the state before its last input. -/
theorem run_append_single {s s' : σ} {is : List ι} {i : ι}
    (h : (run step s (is ++ [i])).1 = some s') :
    ∃ t, (run step s is).1 = some t ∧ (step t i).1 = some s' := by
  cases hs : (run step s is).1 with
  | none =>
    rw [run_append_none _ hs, hs] at h
    cases h
  | some t =>
    rw [run_append_some _ hs] at h
    refine ⟨t, rfl, ?_⟩
    cases hi : (step t i).1 with
    | none =>
      rw [run_cons_none _ hi] at h
      cases h
    | some u =>
      rw [run_cons_some _ hi] at h
      exact h

/-- Inputs that are made of others. -/
theorem run_map {κ : Type*} (step : Step σ κ ω) (f : ι → κ) (s : σ) (is : List ι) :
    run step s (is.map f) = run (fun s i => step s (f i)) s is := by
  induction is generalizing s with
  | nil => rfl
  | cons i is ih =>
    rw [List.map_cons, run, run]
    rcases step s (f i) with ⟨_ | s', os⟩
    · rfl
    · dsimp only
      rw [ih]

/-! ## The invariant rule -/

/-- Every step of the run meets the guard `G` in the state it starts from. -/
def Guarded (step : Step σ ι ω) (G : σ → ι → Prop) : σ → List ι → Prop
  | _, [] => True
  | s, i :: is => G s i ∧ ∀ s', (step s i).1 = some s' → Guarded step G s' is

/-- Whether a run is guarded can be computed. -/
instance decidableGuarded {step : Step σ ι ω} {G : σ → ι → Prop} [∀ s i, Decidable (G s i)] :
    ∀ s is, Decidable (Guarded step G s is)
  | _, [] => isTrue trivial
  | s, i :: is =>
    match hs : (step s i).1 with
    | none => decidable_of_iff (G s i)
      ⟨fun h => ⟨h, fun _ ht => absurd (hs.symm.trans ht) nofun⟩, And.left⟩
    | some t =>
      have : Decidable (Guarded step G t is) := decidableGuarded t is
      decidable_of_iff (G s i ∧ Guarded step G t is)
        ⟨fun h => ⟨h.1, fun _ ht => Option.some.inj (hs.symm.trans ht) ▸ h.2⟩,
          fun h => ⟨h.1, h.2 t hs⟩⟩

theorem Guarded.mono {step : Step σ ι ω} {G H : σ → ι → Prop} (hGH : ∀ s i, G s i → H s i) :
    ∀ {s : σ} {is : List ι}, Guarded step G s is → Guarded step H s is
  | _, [], _ => trivial
  | _, _ :: _, h => ⟨hGH _ _ h.1, fun s' hs => Guarded.mono hGH (h.2 s' hs)⟩

/-- Where an invariant holds, one guard may do for another. -/
theorem Guarded.weaken {step : Step σ ι ω} {I : σ → Prop} {G H : σ → ι → Prop}
    (hstep : ∀ s i s', I s → G s i → (step s i).1 = some s' → I s')
    (hGH : ∀ s i, I s → G s i → H s i) {s : σ} {is : List ι} (hinv : I s)
    (h : Guarded step G s is) : Guarded step H s is := by
  induction is generalizing s with
  | nil => trivial
  | cons i is ih =>
    exact ⟨hGH s i hinv h.1, fun s' hs => ih (hstep s i s' hinv h.1 hs) (h.2 s' hs)⟩

theorem Guarded.and {step : Step σ ι ω} {G H : σ → ι → Prop} :
    ∀ {s : σ} {is : List ι}, Guarded step G s is → Guarded step H s is →
      Guarded step (fun s i => G s i ∧ H s i) s is
  | _, [], _, _ => trivial
  | _, _ :: _, h, h' => ⟨⟨h.1, h'.1⟩, fun s' hs => Guarded.and (h.2 s' hs) (h'.2 s' hs)⟩

/-- Under an assumption that keeps an invariant, guards that come to the same may be exchanged. -/
theorem Guarded.congr {step : Step σ ι ω} {I : σ → Prop} {A G H : σ → ι → Prop}
    (hstep : ∀ s i s', I s → A s i → (step s i).1 = some s' → I s')
    (hGH : ∀ s i, I s → A s i → (G s i ↔ H s i)) {s : σ} {is : List ι} (hinv : I s)
    (hA : Guarded step A s is) : Guarded step G s is ↔ Guarded step H s is := by
  constructor
  · intro h
    exact Guarded.weaken (fun s i s' hs hi => hstep s i s' hs hi.1)
      (fun s i hs hi => (hGH s i hs hi.1).mp hi.2) hinv (hA.and h)
  · intro h
    exact Guarded.weaken (fun s i s' hs hi => hstep s i s' hs hi.1)
      (fun s i hs hi => (hGH s i hs hi.1).mpr hi.2) hinv (hA.and h)

/-- Guards that come to the same may be exchanged where either of them keeps an invariant. -/
theorem Guarded.congr_of_step {step : Step σ ι ω} {I : σ → Prop} {G H : σ → ι → Prop}
    (hstep : ∀ s i s', I s → G s i → (step s i).1 = some s' → I s')
    (hGH : ∀ s i, I s → (G s i ↔ H s i)) {s : σ} {is : List ι} (hinv : I s) :
    Guarded step G s is ↔ Guarded step H s is :=
  ⟨Guarded.weaken hstep (fun s i hs => (hGH s i hs).mp) hinv,
    Guarded.weaken (fun s i s' hs hi => hstep s i s' hs ((hGH s i hs).mpr hi))
      (fun s i hs => (hGH s i hs).mpr) hinv⟩

/-- **The invariant rule.** What every guarded step preserves holds where a guarded run
    ends, and what every guarded step's outputs have, all outputs of the run have. -/
theorem run_sound {step : Step σ ι ω} {G : σ → ι → Prop} {I : σ → Prop} {P : ω → Prop}
    (hstep : ∀ s i, I s → G s i →
      (∀ s', (step s i).1 = some s' → I s') ∧ ∀ o ∈ (step s i).2, P o) :
    ∀ {s : σ} {is : List ι}, I s → Guarded step G s is →
      (∀ s', (run step s is).1 = some s' → I s') ∧ ∀ o ∈ (run step s is).2, P o := by
  intro s is hinv hg
  induction is generalizing s with
  | nil =>
    refine ⟨?_, by simp⟩
    intro s' hs
    simp only [run_nil, Option.some.injEq] at hs
    exact hs ▸ hinv
  | cons i is ih =>
    obtain ⟨hnext, hout⟩ := hstep s i hinv hg.1
    cases hs : (step s i).1 with
    | none => simpa [run_cons_none is hs] using hout
    | some t =>
      obtain ⟨hfin, hrest⟩ := ih (hnext t hs) (hg.2 t hs)
      rw [run_cons_some is hs]
      refine ⟨hfin, ?_⟩
      intro o ho
      rcases List.mem_append.mp ho with h | h
      · exact hout o h
      · exact hrest o h

/-- A guard that looks at the inputs alone. -/
theorem guarded_of_forall {step : Step σ ι ω} {G : σ → ι → Prop} {s : σ} {is : List ι}
    (h : ∀ i ∈ is, ∀ s, G s i) : Guarded step G s is := by
  induction is generalizing s with
  | nil => trivial
  | cons i is ih =>
    exact ⟨h i List.mem_cons_self s, fun _ _ => ih fun j hj => h j (List.mem_cons_of_mem _ hj)⟩

/-- The unguarded case: an invariant of every step is an invariant of every run. -/
theorem run_invariant {step : Step σ ι ω} {I : σ → Prop}
    (hstep : ∀ s i s', I s → (step s i).1 = some s' → I s') {s s' : σ} {is : List ι}
    (hinv : I s) (h : (run step s is).1 = some s') : I s' :=
  (run_sound (G := fun _ _ => True) (P := fun _ => True)
    (fun t i ht _ => ⟨fun t' h' => hstep t i t' ht h', fun _ _ => trivial⟩) hinv
    (guarded_of_forall fun _ _ _ => trivial)).1 s' h

/-- What relates the states around every guarded step, and its outputs, relates the states
    around a run. -/
theorem run_relates {step : Step σ ι ω} {G : σ → ι → Prop} {R : σ → List ω → σ → Prop}
    (hrefl : ∀ s, R s [] s) (htrans : ∀ {s t u os os'}, R s os t → R t os' u → R s (os ++ os') u)
    (hstep : ∀ s i t, G s i → (step s i).1 = some t → R s (step s i).2 t) {s t : σ} {is : List ι}
    (hg : Guarded step G s is) (h : (run step s is).1 = some t) : R s (run step s is).2 t := by
  induction is generalizing s with
  | nil =>
    obtain rfl := Option.some.inj h
    exact hrefl s
  | cons i is ih =>
    cases hs : (step s i).1 with
    | none =>
      rw [run_cons_none is hs] at h
      cases h
    | some u =>
      rw [run_cons_some is hs] at h ⊢
      exact htrans (hstep s i u hg.1 hs) (ih (hg.2 u hs) h)

/-- What `view` shows of the states and `keep` of the outputs is related; when the program has
    ended, to what some state would show. -/
def Relates {β : Type*} (view : σ → ν) (keep : ω → Option β) (Q : ν → List β → ν → Prop) (s : σ)
    (r : Option σ × List ω) : Prop :=
  (∃ v, Q (view s) (r.2.filterMap keep) v) ∧
    ∀ t, r.1 = some t → Q (view s) (r.2.filterMap keep) (view t)

/-- **The rule for what is shown.** What every guarded step relates, a run relates, also one in
    which the program ends. -/
theorem run_shows {β : Type*} {step : Step σ ι ω} {G : σ → ι → Prop} {view : σ → ν}
    {keep : ω → Option β} {Q : ν → List β → ν → Prop} (hrefl : ∀ v, Q v [] v)
    (htrans : ∀ {v v' v'' xs xs'}, Q v xs v' → Q v' xs' v'' → Q v (xs ++ xs') v'')
    (hstep : ∀ s i, G s i → Relates view keep Q s (step s i)) {s : σ} {is : List ι}
    (hg : Guarded step G s is) : Relates view keep Q s (run step s is) := by
  induction is generalizing s with
  | nil =>
    refine ⟨⟨view s, hrefl _⟩, ?_⟩
    intro t ht
    obtain rfl := Option.some.inj ht
    exact hrefl _
  | cons i is ih =>
    have hhead := hstep s i hg.1
    cases hs : (step s i).1 with
    | none =>
      rw [run_cons_none is hs]
      exact ⟨hhead.1, nofun⟩
    | some u =>
      obtain ⟨⟨v, hv⟩, hend⟩ := ih (hg.2 u hs)
      have hseen := hhead.2 u hs
      rw [run_cons_some is hs]
      simp only [Relates, List.filterMap_append]
      exact ⟨⟨v, htrans hseen hv⟩, fun t ht => htrans hseen (hend t ht)⟩

/-- **The simulation rule.** A specification reads the inputs, and a reader the outputs. What
    relates both of them to the state, and is kept by every guarded step, relates what they have
    read when the run ends. -/
theorem run_simulates {α β : Type*} {step : Step σ ι ω} {G : σ → ι → Prop}
    {R : σ → α → β → Prop} {spec : α → ι → α} {read : β → ω → β}
    (hstep : ∀ s a b i t, R s a b → G s i → (step s i).1 = some t →
      R t (spec a i) ((step s i).2.foldl read b)) {s t : σ} {a : α} {b : β} {is : List ι}
    (hinv : R s a b) (hg : Guarded step G s is) (h : (run step s is).1 = some t) :
    R t (is.foldl spec a) ((run step s is).2.foldl read b) := by
  induction is generalizing s a b with
  | nil =>
    obtain rfl := Option.some.inj h
    exact hinv
  | cons i is ih =>
    cases hs : (step s i).1 with
    | none =>
      rw [run_cons_none is hs] at h
      cases h
    | some u =>
      rw [run_cons_some is hs] at h ⊢
      rw [List.foldl_cons, List.foldl_append]
      exact ih (hstep s a b i u hinv hg.1 hs) (hg.2 u hs) h

/-- The same where the reader keeps all outputs. -/
theorem run_follows {α : Type*} {step : Step σ ι ω} {G : σ → ι → Prop}
    {R : σ → α → List ω → Prop} {spec : α → ι → α}
    (hstep : ∀ s a os i t, R s a os → G s i → (step s i).1 = some t →
      R t (spec a i) (os ++ (step s i).2)) {s t : σ} {a : α} {is : List ι}
    (hinv : R s a []) (hg : Guarded step G s is) (h : (run step s is).1 = some t) :
    R t (is.foldl spec a) (run step s is).2 := by
  have hsnoc (os os' : List ω) : os'.foldl (fun os o => os ++ [o]) os = os ++ os' := by
    induction os' generalizing os with
    | nil => exact (List.append_nil os).symm
    | cons o os' ih => rw [List.foldl_cons, ih, List.append_assoc, List.singleton_append]
  have hrun : R t (is.foldl spec a) ((run step s is).2.foldl (fun os o => os ++ [o]) []) := by
    apply run_simulates _ hinv hg h
    intro s a os i t hR hi ht
    rw [hsnoc]
    exact hstep s a os i t hR hi ht
  rwa [hsnoc, List.nil_append] at hrun

/-- **The accumulation rule.** An invariant of the state and of what has been put out so far is
    kept by every guarded step, and what it says of the outputs holds behind the last step, too. -/
theorem run_accumulates {step : Step σ ι ω} {G : σ → ι → Prop} {I : σ → List ω → Prop}
    {Q : List ω → Prop} (hI : ∀ s os, I s os → Q os)
    (hstep : ∀ s os i, I s os → G s i → Q (os ++ (step s i).2) ∧
      ∀ t, (step s i).1 = some t → I t (os ++ (step s i).2)) {s : σ} {os : List ω} {is : List ι}
    (hinv : I s os) (hg : Guarded step G s is) : Q (os ++ (run step s is).2) := by
  induction is generalizing s os with
  | nil => exact (List.append_nil os).symm ▸ hI s os hinv
  | cons i is ih =>
    obtain ⟨hout, hnext⟩ := hstep s os i hinv hg.1
    cases hs : (step s i).1 with
    | none => rwa [run_cons_none is hs]
    | some t =>
      rw [run_cons_some is hs, ← List.append_assoc]
      exact ih (hnext t hs) (hg.2 t hs)

/-- What every step's outputs have, the outputs of the run have together. -/
theorem run_outputs {step : Step σ ι ω} {Q : List ω → Prop} (hnil : Q [])
    (happend : ∀ {os os'}, Q os → Q os' → Q (os ++ os')) (hstep : ∀ s i, Q (step s i).2) {s : σ}
    (is : List ι) : Q (run step s is).2 := by
  induction is generalizing s with
  | nil => exact hnil
  | cons i is ih =>
    cases hs : (step s i).1 with
    | none =>
      rw [run_cons_none is hs]
      exact hstep s i
    | some t =>
      rw [run_cons_some is hs]
      exact happend (hstep s i) ih

/-- The inputs, each next to what a record of those before it holds. -/
def annotate (next : γ → ι → γ) : γ → List ι → List (γ × ι)
  | _, [] => []
  | g, i :: is => (g, i) :: annotate next (next g i) is

/-- **The piecewise rule.** What is kept of the outputs are pieces, one for each input. A piece
    may depend on a record of the inputs, as long as the record stays in step with the state. -/
theorem run_pieces {step : Step σ ι ω} {keep : ω → Bool} {I : σ → γ → Prop} {next : γ → ι → γ}
    {R : γ × ι → List ω → Prop}
    (hstep : ∀ s g i t, I s g → (step s i).1 = some t →
      R (g, i) ((step s i).2.filter keep) ∧ I t (next g i)) {s t : σ} {g : γ} {is : List ι}
    (hinv : I s g) (h : (run step s is).1 = some t) :
    ∃ pieces : List (List ω), (run step s is).2.filter keep = pieces.flatten ∧
      List.Forall₂ R (annotate next g is) pieces := by
  induction is generalizing s g with
  | nil => exact ⟨[], rfl, .nil⟩
  | cons i is ih =>
    cases hs : (step s i).1 with
    | none =>
      rw [run_cons_none is hs] at h
      cases h
    | some u =>
      rw [run_cons_some is hs] at h ⊢
      obtain ⟨hpiece, hnext⟩ := hstep s g i u hinv hs
      obtain ⟨pieces, hpieces, hall⟩ := ih hnext h
      refine ⟨(step s i).2.filter keep :: pieces, ?_, .cons hpiece hall⟩
      rw [List.filter_append, hpieces, List.flatten_cons]

/-- What a run puts out, seen through `keep`, is what its steps put out for each input. -/
theorem run_filterMap {step : Step σ ι ω} {keep : ω → Option ν} {f : ι → List ν}
    (hstep : ∀ s i s', (step s i).1 = some s' → (step s i).2.filterMap keep = f i) {s s' : σ}
    {is : List ι} (h : (run step s is).1 = some s') :
    (run step s is).2.filterMap keep = is.flatMap f := by
  induction is generalizing s with
  | nil => rfl
  | cons i is ih =>
    cases hs : (step s i).1 with
    | none => rw [run_cons_none is hs] at h; cases h
    | some t =>
      rw [run_cons_some is hs] at h ⊢
      rw [List.filterMap_append, hstep s i t hs, ih h, List.flatMap_cons]

/-! ## The erasure rule -/

/-- A ghost `γ` watches the run: `next` moves it on at each input, and every output is
    recorded with what `see` shows of the ghost and the input it was emitted for. -/
def observe (step : Step σ ι ω) (next : γ → ι → γ) (see : γ → ν) :
    Step (σ × γ) ι (ν × ι × ω) :=
  fun s i => ((step s.1 i).1.map (·, next s.2 i), (step s.1 i).2.map (see s.2, i, ·))

theorem observe_none {step : Step σ ι ω} {s : σ} {i : ι} (next : γ → ι → γ) (see : γ → ν)
    (g : γ) (h : (step s i).1 = none) : (observe step next see (s, g) i).1 = none := by
  simp [observe, h]

theorem observe_some {step : Step σ ι ω} {s s' : σ} {i : ι} (next : γ → ι → γ) (see : γ → ν)
    (g : γ) (h : (step s i).1 = some s') :
    (observe step next see (s, g) i).1 = some (s', next g i) := by
  simp [observe, h]

theorem mem_observe {step : Step σ ι ω} {next : γ → ι → γ} {see : γ → ν} {s : σ × γ} {i : ι}
    {o : ν × ι × ω} (h : o ∈ (observe step next see s i).2) :
    o.1 = see s.2 ∧ o.2.1 = i ∧ o.2.2 ∈ (step s.1 i).2 := by
  obtain ⟨o', ho', rfl⟩ := List.mem_map.mp h
  exact ⟨rfl, rfl, ho'⟩

/-- Forgetting the ghost gives back the run. -/
theorem run_observe (step : Step σ ι ω) (next : γ → ι → γ) (see : γ → ν) (s : σ) (g : γ)
    (is : List ι) :
    ((run (observe step next see) (s, g) is).1.map Prod.fst,
      (run (observe step next see) (s, g) is).2.map (·.2.2)) = run step s is := by
  induction is generalizing s g with
  | nil => rfl
  | cons i is ih =>
    cases hs : (step s i).1 with
    | none =>
      rw [run_cons_none is hs, run_cons_none is (observe_none next see g hs)]
      simp [observe, Function.comp_def]
    | some t =>
      rw [run_cons_some is hs, run_cons_some is (observe_some next see g hs), ← ih t (next g i)]
      simp [observe, Function.comp_def]

/-- A guard that does not look at the ghost. -/
theorem Guarded.observe {step : Step σ ι ω} {G : σ → ι → Prop} {next : γ → ι → γ} {see : γ → ν}
    {s : σ} {g : γ} {is : List ι} (h : Guarded step G s is) :
    Guarded (observe step next see) (fun t i => G t.1 i) (s, g) is := by
  induction is generalizing s g with
  | nil => trivial
  | cons i is ih =>
    refine ⟨h.1, ?_⟩
    intro t ht
    obtain ⟨s', hs, rfl⟩ := Option.map_eq_some_iff.mp ht
    exact ih (h.2 s' hs)

/-- **The gate rule.** A program is shut unless the ghost is good, and while it is shut it
    stays shut and puts out nothing loud, as long as the ghost does not become good. What is
    loud is then only put out where the ghost is good. -/
theorem run_gated {step : Step σ ι ω} {next : γ → ι → γ} {G : σ × γ → ι → Prop}
    {good : γ → Prop} {shut : σ → Prop} {loud : ω → Prop}
    (hstep : ∀ s g i, good g ∨ shut s → G (s, g) i → ¬good (next g i) →
      (∀ s', (step s i).1 = some s' → shut s') ∧ ∀ o ∈ (step s i).2, ¬loud o)
    {s : σ} {g : γ} {is : List ι} (h : good g ∨ shut s)
    (hg : Guarded (observe step next id) G (s, g) is) :
    (∀ t, (run (observe step next id) (s, g) is).1 = some t → good t.2 ∨ shut t.1) ∧
      ∀ o ∈ (run (observe step next id) (s, g) is).2, loud o.2.2 → good (next o.1 o.2.1) := by
  refine run_sound (I := fun t => good t.2 ∨ shut t.1) ?_ h hg
  rintro ⟨s, g⟩ i hinv hi
  by_cases hgood : good (next g i)
  · constructor
    · intro t ht
      obtain ⟨s', -, rfl⟩ := Option.map_eq_some_iff.mp ht
      exact .inl hgood
    · intro o ho _
      obtain ⟨hseen, hinput, -⟩ := mem_observe ho
      rw [hseen, hinput]
      exact hgood
  · obtain ⟨hshut, hquiet⟩ := hstep s g i hinv hi hgood
    constructor
    · intro t ht
      obtain ⟨s', hs, rfl⟩ := Option.map_eq_some_iff.mp ht
      exact .inr (hshut s' hs)
    · intro o ho hloud
      exact absurd hloud (hquiet _ (mem_observe ho).2.2)

/-- A run next to a history, which sees each input and what the step has put out for it. -/
def keeping (step : Step σ ι ω) (next : γ → ι → List ω → γ) : Step (σ × γ) ι ω :=
  fun s i => ((step s.1 i).1.map (·, next s.2 i (step s.1 i).2), (step s.1 i).2)

theorem keeping_some {step : Step σ ι ω} {next : γ → ι → List ω → γ} {s t : σ × γ} {i : ι}
    (h : (keeping step next s i).1 = some t) :
    (step s.1 i).1 = some t.1 ∧ t.2 = next s.2 i (step s.1 i).2 := by
  obtain ⟨s', hs, rfl⟩ := Option.map_eq_some_iff.mp h
  exact ⟨hs, rfl⟩

/-- Forgetting the history gives back the run. -/
theorem run_keeping (step : Step σ ι ω) (next : γ → ι → List ω → γ) (s : σ) (g : γ)
    (is : List ι) :
    ((run (keeping step next) (s, g) is).1.map Prod.fst,
      (run (keeping step next) (s, g) is).2) = run step s is := by
  induction is generalizing s g with
  | nil => rfl
  | cons i is ih =>
    cases hs : (step s i).1 with
    | none =>
      rw [run_cons_none is hs, run_cons_none is (by simp [keeping, hs])]
      rfl
    | some t =>
      have hk : (keeping step next (s, g) i).1 = some (t, next g i (step s i).2) := by
        simp [keeping, hs]
      rw [run_cons_some is hs, run_cons_some is hk, ← ih t (next g i (step s i).2)]
      rfl

/-- A run next to a record, which sees the state before each input. -/
def tracking (step : Step σ ι ω) (next : σ → γ → ι → γ) : Step (σ × γ) ι ω :=
  fun s i => ((step s.1 i).1.map (·, next s.1 s.2 i), (step s.1 i).2)

theorem tracking_some {step : Step σ ι ω} {next : σ → γ → ι → γ} {s t : σ × γ} {i : ι}
    (h : (tracking step next s i).1 = some t) :
    (step s.1 i).1 = some t.1 ∧ t.2 = next s.1 s.2 i := by
  obtain ⟨s', hs, rfl⟩ := Option.map_eq_some_iff.mp h
  exact ⟨hs, rfl⟩

/-! ## The stuttering rule -/

/-- What `view` shows of a state decides what it shows of the next one, and the outputs. -/
def Respects (step : Step σ ι ω) (view : σ → ν) : Prop :=
  ∀ s t i, view s = view t →
    (step s i).1.map view = (step t i).1.map view ∧ (step s i).2 = (step t i).2

/-- **Dropping stutters.** If each input `skip` selects changes nothing that `view` shows and
    emits nothing that `keep` keeps, the run without those inputs ends in a state that looks
    the same and emits the same kept outputs. -/
theorem run_skip {step : Step σ ι ω} {view : σ → ν} (skip : ι → Bool) {keep : ω → Bool}
    (hview : Respects step view) {s t : σ} {is : List ι} (hst : view s = view t)
    (h : Guarded step (fun s i => skip i = true →
      (step s i).1.map view = some (view s) ∧ (step s i).2.filter keep = []) s is) :
    (run step s is).1.map view = (run step t (is.filter (!skip ·))).1.map view ∧
      (run step s is).2.filter keep = (run step t (is.filter (!skip ·))).2.filter keep := by
  induction is generalizing s t with
  | nil => exact ⟨congrArg some hst, rfl⟩
  | cons i is ih =>
    obtain ⟨hi, hrest⟩ := h
    cases hk : skip i with
    | true =>
      obtain ⟨hstay, hquiet⟩ := hi hk
      obtain ⟨s', hs', hv⟩ := Option.map_eq_some_iff.mp hstay
      obtain ⟨h1, h2⟩ := ih (hv.trans hst) (hrest s' hs')
      rw [run_cons_some is hs', List.filter_cons_of_neg (by simp [hk])]
      exact ⟨h1, by rw [List.filter_append, hquiet, List.nil_append, h2]⟩
    | false =>
      obtain ⟨hnext, hout⟩ := hview s t i hst
      rw [List.filter_cons_of_pos (by simp [hk])]
      cases hs : (step s i).1 with
      | none =>
        have ht : (step t i).1 = none := by simpa [hs] using hnext.symm
        rw [run_cons_none _ hs, run_cons_none _ ht, hout]
        exact ⟨rfl, rfl⟩
      | some s' =>
        rw [hs] at hnext
        obtain ⟨t', ht, hv⟩ := Option.map_eq_some_iff.mp hnext.symm
        obtain ⟨h1, h2⟩ := ih hv.symm (hrest s' hs)
        rw [run_cons_some _ hs, run_cons_some _ ht, hout, List.filter_append, List.filter_append,
          h2]
        exact ⟨h1, rfl⟩

/-- A run respects what its steps respect. -/
theorem Respects.run {step : Step σ ι ω} {view : σ → ν} (h : Respects step view) :
    Respects (run step) view := by
  intro s t is hst
  induction is generalizing s t with
  | nil => exact ⟨congrArg some hst, rfl⟩
  | cons i is ih =>
    obtain ⟨hnext, hout⟩ := h s t i hst
    cases hs : (step s i).1 with
    | none =>
      have ht : (step t i).1 = none := by simpa [hs] using hnext.symm
      rw [run_cons_none _ hs, run_cons_none _ ht, hout]
      exact ⟨rfl, rfl⟩
    | some s' =>
      rw [hs] at hnext
      obtain ⟨t', ht, hv⟩ := Option.map_eq_some_iff.mp hnext.symm
      obtain ⟨h1, h2⟩ := ih s' t' hv.symm
      rw [run_cons_some _ hs, run_cons_some _ ht, hout, h2]
      exact ⟨h1, rfl⟩

end Transducer
