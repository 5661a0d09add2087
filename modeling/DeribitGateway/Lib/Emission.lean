import DeribitGateway.Lib.Transducer

/-!
# Handlers that emit

A handler takes a state to the next one and emits outputs on the way. `skip`, `seq`, `each`
put handlers together, and `Meets R f` says of a handler what it does: `R` relates the state
before, what is emitted and the state after. A relation that `Composes` holds of what is put
together from handlers it holds of.
-/

namespace Emission

variable {σ ω α : Type*}

/-- A handler: the state it leaves behind, and its outputs. -/
abbrev Handler (σ ω : Type*) := σ → σ × List ω

def skip : Handler σ ω := fun s => (s, [])

/-- Change the state. -/
def modify (f : σ → σ) : Handler σ ω := fun s => (f s, [])

def emit (os : List ω) : Handler σ ω := fun s => (s, os)

/-- One handler after the other. -/
def seq (f g : Handler σ ω) : Handler σ ω := fun s => ((g (f s).1).1, (f s).2 ++ (g (f s).1).2)

/-- A handler for each item of a list, in order. -/
def each (f : α → Handler σ ω) : List α → Handler σ ω
  | [] => skip
  | a :: as => seq (f a) (each f as)

@[simp] theorem skip_apply (s : σ) : (skip : Handler σ ω) s = (s, []) := rfl

@[simp] theorem modify_apply (f : σ → σ) (s : σ) : (modify f : Handler σ ω) s = (f s, []) := rfl

@[simp] theorem emit_apply (os : List ω) (s : σ) : emit os s = (s, os) := rfl

@[simp] theorem seq_fst (f g : Handler σ ω) (s : σ) : (seq f g s).1 = (g (f s).1).1 := rfl

@[simp] theorem seq_snd (f g : Handler σ ω) (s : σ) :
    (seq f g s).2 = (f s).2 ++ (g (f s).1).2 := rfl

theorem seq_modify (f : σ → σ) (g : Handler σ ω) (s : σ) : seq (modify f) g s = g (f s) := rfl

theorem each_append (f : α → Handler σ ω) (as bs : List α) :
    each f (as ++ bs) = seq (each f as) (each f bs) := by
  induction as with
  | nil => rfl
  | cons a as ih =>
    rw [List.cons_append, each, ih]
    funext s
    simp only [each, seq, List.append_assoc]

/-! ## What handlers do -/

/-- From every state, what the handler emits and leaves behind is as `R` says. -/
def Meets (R : σ → List ω → σ → Prop) (f : Handler σ ω) : Prop := ∀ s, R s (f s).2 (f s).1

/-- Doing nothing is as `R` says, and so is one thing after another. -/
structure Composes (R : σ → List ω → σ → Prop) : Prop where
  refl : ∀ s, R s [] s
  trans : ∀ {s t u os os'}, R s os t → R t os' u → R s (os ++ os') u

namespace Composes

variable {R : σ → List ω → σ → Prop} {f g : Handler σ ω}

theorem skip (hR : Composes R) : Meets R (skip : Handler σ ω) := hR.refl

/-- Behind a step that emits nothing. -/
theorem after (hR : Composes R) {s t u : σ} {os : List ω} (h : R s [] t) (h' : R t os u) :
    R s os u :=
  hR.trans h h'

theorem seq (hR : Composes R) (hf : Meets R f) (hg : Meets R g) : Meets R (seq f g) :=
  fun s => hR.trans (hf s) (hg (f s).1)

theorem each_of_mem (hR : Composes R) {f : α → Handler σ ω} {as : List α}
    (hf : ∀ a ∈ as, Meets R (f a)) : Meets R (each f as) := by
  induction as with
  | nil => exact hR.skip
  | cons a as ih =>
    exact hR.seq (hf a List.mem_cons_self) (ih fun b hb => hf b (List.mem_cons_of_mem a hb))

theorem each (hR : Composes R) {f : α → Handler σ ω} (hf : ∀ a, Meets R (f a)) (as : List α) :
    Meets R (each f as) :=
  hR.each_of_mem fun a _ => hf a

/-- A handler for each item, one of which is looked at by itself. -/
theorem each_at (hR : Composes R) {f : α → Handler σ ω} {a : α} {as : List α} (hmem : a ∈ as)
    (hnodup : as.Nodup) (hother : ∀ b, b ≠ a → Meets R (f b)) (s : σ) :
    ∃ t os os', R s os t ∧ R (f a t).1 os' (Emission.each f as s).1 ∧
      (Emission.each f as s).2 = os ++ ((f a t).2 ++ os') := by
  induction as generalizing s with
  | nil => cases hmem
  | cons b as ih =>
    obtain ⟨hb, hnodup⟩ := List.nodup_cons.mp hnodup
    by_cases hab : a = b
    · subst hab
      have hrest : Meets R (Emission.each f as) :=
        hR.each_of_mem fun c hc => hother c fun hca => hb (hca ▸ hc)
      exact ⟨s, [], _, hR.refl s, hrest _, rfl⟩
    · obtain ⟨t, os, os', hbefore, hbehind, hos⟩ :=
        ih ((List.mem_cons.mp hmem).resolve_left hab) hnodup (f b s).1
      refine ⟨t, (f b s).2 ++ os, os', hR.trans (hother b (Ne.symm hab) s) hbefore, hbehind, ?_⟩
      simp only [Emission.each, seq_snd, hos, List.append_assoc]

end Composes

theorem Meets.ite {R : σ → List ω → σ → Prop} {f g : Handler σ ω} {p : Prop} [Decidable p]
    (hf : p → Meets R f) (hg : ¬p → Meets R g) : Meets R (if p then f else g) := by
  split_ifs with h
  · exact hf h
  · exact hg h

/-- Both of two relations. -/
theorem Composes.and {R Q : σ → List ω → σ → Prop} (hR : Composes R) (hQ : Composes Q) :
    Composes fun s os t => R s os t ∧ Q s os t :=
  ⟨fun s => ⟨hR.refl s, hQ.refl s⟩, fun h h' => ⟨hR.trans h.1 h'.1, hQ.trans h.2 h'.2⟩⟩

/-- What `view` shows stays. -/
theorem composes_eq {τ : Type*} (view : σ → τ) :
    Composes fun s (_ : List ω) t => view t = view s :=
  ⟨fun _ => rfl, fun h h' => h'.trans h⟩

/-- Every output is as `P` says. -/
theorem composes_forall (P : ω → Prop) : Composes fun (_ : σ) os _ => ∀ o ∈ os, P o := by
  constructor
  · intro s o ho
    cases ho
  · intro s t u os os' h h' o ho
    obtain hmem | hmem := List.mem_append.mp ho
    · exact h o hmem
    · exact h' o hmem

/-- An invariant is kept, and every output is as `P` says. -/
def Preserves (I : σ → Prop) (P : ω → Prop) (s : σ) (os : List ω) (t : σ) : Prop :=
  I s → I t ∧ ∀ o ∈ os, P o

theorem composes_preserves (I : σ → Prop) (P : ω → Prop) : Composes (Preserves I P) := by
  constructor
  · intro s hs
    exact ⟨hs, fun o ho => absurd ho List.not_mem_nil⟩
  · intro s t u os os' h h' hs
    obtain ⟨ht, hos⟩ := h hs
    obtain ⟨hu, hos'⟩ := h' ht
    exact ⟨hu, fun o ho => (List.mem_append.mp ho).elim (hos o) (hos' o)⟩

theorem emit_preserves {I : σ → Prop} {P : ω → Prop} {x : ω} (h : P x) :
    Meets (Preserves I P) (emit [x]) := by
  intro s hs
  refine ⟨hs, ?_⟩
  intro y hy
  obtain rfl := List.mem_singleton.mp hy
  exact h

/-- What `view` shows stays, and outputs that have a label carry it. -/
structure Labelled {κ : Type*} (view : σ → κ) (label : ω → Option κ) (s : σ) (os : List ω)
    (t : σ) : Prop where
  kept : view t = view s
  labels : ∀ o ∈ os, ∀ k ∈ label o, k = view s

section

variable {κ : Type*} {view : σ → κ} {label : ω → Option κ} {s t : σ} {o : ω} {os : List ω}

theorem composes_labelled : Composes (Labelled view label) where
  refl _ := ⟨rfl, fun _ ho => absurd ho List.not_mem_nil⟩
  trans h h' := by
    refine ⟨h'.kept.trans h.kept, ?_⟩
    intro o ho k hk
    rcases List.mem_append.mp ho with ho | ho
    · exact h.labels o ho k hk
    · exact (h'.labels o ho k hk).trans h.kept

theorem Labelled.still (hkept : view t = view s) : Labelled view label s [] t :=
  ⟨hkept, fun _ ho => absurd ho List.not_mem_nil⟩

/-- Outputs without a label. -/
theorem Labelled.plain (hkept : view t = view s) (hos : ∀ o ∈ os, label o = none) :
    Labelled view label s os t := by
  refine ⟨hkept, ?_⟩
  intro o ho k hk
  rw [hos o ho] at hk
  cases hk

theorem Labelled.single (hkept : view t = view s) (ho : ∀ k ∈ label o, k = view s) :
    Labelled view label s [o] t :=
  ⟨hkept, fun _ hmem => List.mem_singleton.mp hmem ▸ ho⟩

end

end Emission
