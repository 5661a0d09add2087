import DeribitGateway.Lib.Emission
import Mathlib.Data.List.Basic

/-!
# Outboxes — what is put in goes out in order

A program puts items into a queue, takes them from the front, and may throw away what is left.
`Reading` says which of its outputs tell of that, and `Serves` what the outputs do to the queue.
Cut where the queue is emptied, the outputs are sessions, and what goes out in a session is the
front of what has been put in during it (`Serves.inOrder`): nothing overtakes, nothing goes out
twice, and nothing that was left behind goes out later.

What is left in the queue is what has been put in since it was last emptied, and has not gone
out (`Serves.waits`). `Serving` is the same of handlers, whose state holds the queue.
-/

namespace Outbox

variable {σ ω α : Type*}

/-- What outputs say about a queue. -/
structure Reading (ω α : Type*) where
  puts : ω → List α
  takes : ω → List α
  /-- What is left is thrown away. -/
  clears : ω → Bool

/-- The outputs take the queue from one content to another. -/
inductive Serves (r : Reading ω α) : List α → List ω → List α → Prop
  | nil {queue : List α} : Serves r queue [] queue
  | move {queue queue' : List α} {o : ω} {os : List ω} (hkeeps : r.clears o = false)
      (h : Serves r (queue ++ r.puts o) os queue') :
      Serves r (r.takes o ++ queue) (o :: os) queue'
  | clear {queue queue' : List α} {o : ω} {os : List ω} (hclears : r.clears o = true)
      (h : Serves r [] os queue') : Serves r queue (o :: os) queue'

/-- The outputs since the queue was last emptied. -/
def Reading.current (r : Reading ω α) (os : List ω) : List ω := (os.splitOnP r.clears).getLastD []

/-- The queue holds what has been put in since it was last emptied, and has not gone out. -/
def Reading.Waits (r : Reading ω α) (os : List ω) (queue : List α) : Prop :=
  (r.current os).flatMap r.takes ++ queue = (r.current os).flatMap r.puts

/-- In each session, what goes out is the front of what has been put in. -/
def Reading.InOrder (r : Reading ω α) (os : List ω) : Prop :=
  ∀ session ∈ os.splitOnP r.clears, session.flatMap r.takes <+: session.flatMap r.puts

/-- An output that does not tell of the queue. -/
structure Reading.Silent (r : Reading ω α) (o : ω) : Prop where
  puts : r.puts o = []
  takes : r.takes o = []
  keeps : r.clears o = false

namespace Serves

variable {r : Reading ω α} {queue queue' queue'' : List α} {o : ω} {os os' : List ω}

theorem trans (h : Serves r queue os queue') (h' : Serves r queue' os' queue'') :
    Serves r queue (os ++ os') queue'' := by
  induction h with
  | nil => exact h'
  | move hkeeps _ ih => exact .move hkeeps (ih h')
  | clear hclears _ ih => exact .clear hclears (ih h')

theorem put (hkeeps : r.clears o = false) (htakes : r.takes o = []) :
    Serves r queue [o] (queue ++ r.puts o) := by
  have hmove : Serves r (r.takes o ++ queue) [o] (queue ++ r.puts o) := .move hkeeps .nil
  rwa [htakes, List.nil_append] at hmove

theorem silent (h : ∀ o ∈ os, r.Silent o) : Serves r queue os queue := by
  induction os with
  | nil => exact .nil
  | cons o os ih =>
    obtain ⟨hputs, htakes, hkeeps⟩ := h o List.mem_cons_self
    have hfirst : Serves r queue [o] (queue ++ r.puts o) := put hkeeps htakes
    rw [hputs, List.append_nil] at hfirst
    exact hfirst.trans (ih fun o' hmem => h o' (List.mem_cons_of_mem o hmem))

/-- What is at the front is taken, one item after the other. -/
theorem take {f : α → ω} {front : List α} (htakes : ∀ a ∈ front, r.takes (f a) = [a])
    (hputs : ∀ a, r.puts (f a) = []) (hkeeps : ∀ a, r.clears (f a) = false) :
    Serves r (front ++ queue) (front.map f) queue := by
  induction front with
  | nil => exact .nil
  | cons a front ih =>
    have hrest : Serves r (front ++ queue ++ r.puts (f a)) (front.map f) queue := by
      rw [hputs, List.append_nil]
      exact ih fun b hb => htakes b (List.mem_cons_of_mem a hb)
    have hmove := Serves.move (hkeeps a) hrest
    rwa [htakes a List.mem_cons_self] at hmove

/-- The outputs up to where the queue is first emptied, and the sessions behind. -/
theorem split (h : Serves r queue os queue') :
    ∃ first rest, os.splitOnP r.clears = first :: rest ∧
      first.flatMap r.takes <+: queue ++ first.flatMap r.puts ∧
      (∀ session ∈ rest, session.flatMap r.takes <+: session.flatMap r.puts) ∧
      (rest.getLastD first).flatMap r.takes ++ queue' =
        (if rest = [] then queue else []) ++ (rest.getLastD first).flatMap r.puts := by
  induction h with
  | nil => exact ⟨[], [], List.splitOnP_nil, List.nil_prefix, by simp, by simp⟩
  | @move queue queue' o os hkeeps _ ih =>
    obtain ⟨first, rest, hos, hfirst, hrest, hlast⟩ := ih
    refine ⟨o :: first, rest, ?_, ?_, hrest, ?_⟩
    · simp [List.splitOnP_cons_eq_if_modifyHead, hkeeps, hos]
    · rw [List.flatMap_cons, List.flatMap_cons, List.append_assoc, List.prefix_append_right_inj,
        ← List.append_assoc]
      exact hfirst
    · cases rest with
      | nil =>
        simp only [List.getLastD_nil, if_pos, List.flatMap_cons] at hlast ⊢
        rw [List.append_assoc, hlast, List.append_assoc, List.append_assoc]
      | cons second rest => simpa only [List.getLastD_cons, reduceCtorEq, if_false] using hlast
  | @clear queue queue' o os hclears _ ih =>
    obtain ⟨first, rest, hos, hfirst, hrest, hlast⟩ := ih
    refine ⟨[], first :: rest, ?_, List.nil_prefix, ?_, ?_⟩
    · simp [List.splitOnP_cons_eq_if_modifyHead, hclears, hos]
    · intro session hmem
      rcases List.mem_cons.mp hmem with rfl | hmem
      · exact hfirst
      · exact hrest session hmem
    · rw [List.getLastD_cons, hlast, ite_self, if_neg (List.cons_ne_nil first rest)]

/-- **First in, first out**, from an empty queue on. -/
theorem inOrder (h : Serves r [] os queue) : r.InOrder os := by
  obtain ⟨first, rest, hos, hfirst, hrest, -⟩ := h.split
  rw [Reading.InOrder, hos]
  intro session hmem
  rcases List.mem_cons.mp hmem with rfl | hmem
  · exact hfirst
  · exact hrest session hmem

/-- **Nothing is lost.** -/
theorem waits (h : Serves r [] os queue) : r.Waits os queue := by
  obtain ⟨first, rest, hos, -, -, hlast⟩ := h.split
  rw [Reading.Waits, Reading.current, hos, List.getLastD_cons, hlast, ite_self, List.nil_append]

/-- Where nothing is ever thrown away, there is one session. -/
theorem fifo (h : Serves r [] os queue) (hkeeps : ∀ o, r.clears o = false) :
    os.flatMap r.takes ++ queue = os.flatMap r.puts := by
  have hcurrent : r.current os = os := by
    rw [Reading.current, List.splitOnP_eq_singleton fun o _ => hkeeps o]
    rfl
  have hwaits := h.waits
  rwa [Reading.Waits, hcurrent] at hwaits

end Serves

/-! ## Handlers -/

/-- The outputs serve the queue that `V` shows, as long as it holds only what `P` allows. -/
def Serving (r : Reading ω α) (P : α → Prop) (V : σ → List α) (s : σ) (os : List ω) (t : σ) :
    Prop :=
  (∀ a ∈ V s, P a) → Serves r (V s) os (V t) ∧ ∀ a ∈ V t, P a

section

variable {r : Reading ω α} {P : α → Prop} {V : σ → List α} {s t : σ} {o : ω} {os : List ω}

theorem composes_serving : Emission.Composes (Serving r P V) where
  refl _ h := ⟨.nil, h⟩
  trans h h' hs :=
    have ht := h hs
    have hu := h' ht.2
    ⟨ht.1.trans hu.1, hu.2⟩

theorem Serving.silent (hos : ∀ o ∈ os, r.Silent o) (hV : V t = V s) :
    Serving r P V s os t := by
  intro hs
  rw [hV]
  exact ⟨.silent hos, hs⟩

theorem Serving.still (hV : V t = V s) : Serving r P V s [] t := .silent nofun hV

theorem Serving.silent_single (ho : r.Silent o) (hV : V t = V s) :
    Serving r P V s [o] t :=
  .silent (fun _ hmem => List.mem_singleton.mp hmem ▸ ho) hV

theorem Serving.put (hkeeps : r.clears o = false) (htakes : r.takes o = [])
    (hP : ∀ a ∈ r.puts o, P a) (hV : V t = V s ++ r.puts o) :
    Serving r P V s [o] t := by
  intro hs
  rw [hV]
  exact ⟨.put hkeeps htakes, fun a ha => (List.mem_append.mp ha).elim (hs a) (hP a)⟩

theorem Serving.take {f : α → ω} {front : List α} (htakes : ∀ a, P a → r.takes (f a) = [a])
    (hputs : ∀ a, r.puts (f a) = []) (hkeeps : ∀ a, r.clears (f a) = false)
    (hV : V s = front ++ V t) : Serving r P V s (front.map f) t := by
  intro hs
  rw [hV] at hs ⊢
  exact ⟨.take (fun a ha => htakes a (hs a (List.mem_append_left _ ha))) hputs hkeeps,
    fun a ha => hs a (List.mem_append_right _ ha)⟩

theorem Serving.clear (hclears : r.clears o = true) (hV : V t = []) :
    Serving r P V s [o] t := by
  intro _
  rw [hV]
  exact ⟨.clear hclears .nil, by simp⟩

/-- **Runs.** Where each step serves the queue, or ends the program without another output, what
    is put out from an empty queue on serves it, up to what the state holds then. -/
theorem run_serves {ι : Type*} {step : Transducer.Step σ ι ω}
    (hstep : ∀ s i, step s i = (none, []) ∨
      ∃ t os, step s i = (some t, os) ∧ Serving r P V s os t) (hs : V s = []) (is : List ι) :
    (∃ queue, Serves r [] (Transducer.run step s is).2 queue) ∧
      ∀ t, (Transducer.run step s is).1 = some t →
        Serves r [] (Transducer.run step s is).2 (V t) ∧ ∀ a ∈ V t, P a := by
  have hrun : Transducer.Relates V some (fun v os v' =>
      (∀ a ∈ v, P a) → Serves r v os v' ∧ ∀ a ∈ v', P a) s (Transducer.run step s is) := by
    refine Transducer.run_shows (G := fun _ _ => True) (fun _ hv => ⟨.nil, hv⟩) ?_ ?_
      (Transducer.guarded_of_forall fun _ _ _ => trivial)
    · intro v v' v'' os os' h h' hv
      obtain ⟨hserves, hv'⟩ := h hv
      obtain ⟨hserves', hv''⟩ := h' hv'
      exact ⟨hserves.trans hserves', hv''⟩
    · intro s i _
      rcases hstep s i with heq | ⟨t, os, heq, hserving⟩
      · rw [heq]
        refine ⟨⟨V s, fun hv => ⟨.nil, hv⟩⟩, ?_⟩
        intro t ht
        cases ht
      · rw [heq, Transducer.Relates, List.filterMap_some]
        refine ⟨⟨V t, hserving⟩, ?_⟩
        intro t' ht'
        obtain rfl := Option.some.inj ht'
        exact hserving
  rw [Transducer.Relates, List.filterMap_some, hs] at hrun
  have hnil : ∀ a ∈ ([] : List α), P a := fun a hmem => absurd hmem List.not_mem_nil
  obtain ⟨⟨queue, hserves⟩, hend⟩ := hrun
  exact ⟨⟨queue, (hserves hnil).1⟩, fun t ht => hend t ht hnil⟩

end

end Outbox
