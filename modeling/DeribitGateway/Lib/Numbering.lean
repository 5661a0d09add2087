import DeribitGateway.Lib.Emission
import Mathlib.Data.List.Range

/-!
# Numbered senders

A sender numbers what it sends from one on, and starts again with each session. A number is
taken before the channel is asked, which can refuse the message.

`Numbers` says of a handler that it numbers consecutively; it composes, so that it holds of a
sender whose primitive steps have it. `Numbering` says it of the steps of a transducer. Then
`taken_consecutive_iff`: the numbers the channel has taken within one session are
consecutive exactly if it takes nothing after a refusal.
-/

namespace Numbering

open Transducer

variable {σ ι ω : Type*}

section Lists

variable (sent : ω → Option (ℕ × Bool))

/-- The numbers of all messages, in order. -/
def numbers (os : List ω) : List ℕ := (os.filterMap sent).map Prod.fst

/-- The numbers of the messages that the channel has taken, in order. -/
def taken (os : List ω) : List ℕ := ((os.filterMap sent).filter Prod.snd).map Prod.fst

/-- What the channel has answered, in order. -/
def answers (os : List ω) : List Bool := (os.filterMap sent).map Prod.snd

@[simp] theorem numbers_nil : numbers sent [] = [] := rfl

@[simp] theorem numbers_append (os os' : List ω) :
    numbers sent (os ++ os') = numbers sent os ++ numbers sent os' := by
  simp [numbers]

end Lists

/-- Nothing is taken once something has been refused. -/
def Steady (answers : List Bool) : Prop :=
  answers.Pairwise fun earlier later => later = true → earlier = true

instance (answers : List Bool) : Decidable (Steady answers) := by
  unfold Steady
  infer_instance

theorem steady_refused {answers : List Bool} :
    Steady (false :: answers) ↔ ∀ a ∈ answers, a = false := by
  unfold Steady
  rw [List.pairwise_cons]
  constructor
  · rintro ⟨h, -⟩ a ha
    cases a with
    | false => rfl
    | true => exact absurd (h true ha rfl) nofun
  · intro h
    constructor
    · intro a ha htrue
      rw [h a ha] at htrue
      cases htrue
    · apply List.Pairwise.imp_of_mem _ (List.pairwise_of_forall fun _ _ => trivial)
      intro a b _ hb _ htrue
      rw [h b hb] at htrue
      cases htrue

theorem steady_taken {answers : List Bool} : Steady (true :: answers) ↔ Steady answers := by
  unfold Steady
  rw [List.pairwise_cons]
  constructor
  · exact And.right
  · intro h
    exact ⟨fun _ _ _ => rfl, h⟩

/-- Of messages that are numbered consecutively, the ones taken are so exactly if none is
    taken after a refusal. -/
theorem filter_consecutive_iff {sends : List (ℕ × Bool)} {k n : ℕ}
    (h : sends.map Prod.fst = List.range' k n) :
    (sends.filter Prod.snd).map Prod.fst = List.range' k (sends.filter Prod.snd).length ↔
      Steady (sends.map Prod.snd) := by
  induction sends generalizing k n with
  | nil => simp [Steady]
  | cons send sends ih =>
    obtain ⟨number, answer⟩ := send
    cases n with
    | zero => simp at h
    | succ n =>
      simp only [List.map_cons, List.range'_succ, List.cons.injEq] at h
      obtain ⟨rfl, htail⟩ := h
      cases answer with
      | true =>
        simp only [List.filter_cons_of_pos, List.map_cons, List.length_cons, List.range'_succ,
          List.cons.injEq, true_and, steady_taken]
        exact ih htail
      | false =>
        simp only [List.map_cons, steady_refused, Bool.false_eq_true, not_false_eq_true,
          List.filter_cons_of_neg]
        -- a later message has a larger number, so none can be the first
        have hlarger : ∀ m ∈ (sends.filter Prod.snd).map Prod.fst, number < m := by
          intro m hm
          obtain ⟨s, hs, rfl⟩ := List.mem_map.mp hm
          have hmem : s.1 ∈ List.range' (number + 1) n := by
            rw [← htail]
            exact List.mem_map_of_mem (List.mem_of_mem_filter hs)
          exact (List.mem_range'_1.mp hmem).1
        constructor
        · intro htaken a ha
          cases hl : sends.filter Prod.snd with
          | nil =>
            obtain ⟨s, hs, rfl⟩ := List.mem_map.mp ha
            exact Bool.eq_false_iff.mpr (List.filter_eq_nil_iff.mp hl s hs)
          | cons s rest =>
            rw [hl] at htaken hlarger
            simp only [List.map_cons, List.length_cons, List.range'_succ,
              List.cons.injEq] at htaken
            exact absurd (hlarger s.1 (by simp)) (by omega)
        · intro hrefused
          have hnil : sends.filter Prod.snd = [] := by
            apply List.filter_eq_nil_iff.mpr
            intro s hs
            rw [hrefused s.2 (List.mem_map_of_mem hs)]
            exact nofun
          rw [hnil]
          rfl

/-! ## Handlers -/

section Handlers

variable (sent : ω → Option (ℕ × Bool)) (count : σ → ℕ)

/-- What is sent is numbered consecutively, and the count goes on accordingly. -/
def Numbers (s : σ) (os : List ω) (t : σ) : Prop :=
  ∃ n, numbers sent os = List.range' (count s + 1) n ∧ count t = count s + n

theorem composes_numbers : Emission.Composes (Numbers sent count) := by
  constructor
  · intro s
    exact ⟨0, rfl, rfl⟩
  · rintro s t u os os' ⟨n, hn, ht⟩ ⟨m, hm, hu⟩
    refine ⟨n + m, ?_, ?_⟩
    · rw [numbers_append, hn, hm, ht, Nat.add_right_comm, List.range'_append_1]
    · rw [hu, ht, Nat.add_assoc]

variable {sent count}

/-- Outputs that are no messages. -/
theorem Numbers.of_silent {s t : σ} {os : List ω} (hos : numbers sent os = [])
    (h : count t = count s) : Numbers sent count s os t :=
  ⟨0, hos, h⟩

end Handlers

/-! ## Runs -/

/-- The inputs that `ends` selects end the session; every other step numbers consecutively,
    also the one in which the program ends. -/
structure Consecutive (step : Step σ ι ω) (sent : ω → Option (ℕ × Bool)) (count : σ → ℕ)
    (ends : ι → Prop) : Prop where
  restart : ∀ s i s', ends i → (step s i).1 = some s' → count s' = 0
  next : ∀ s i, ¬ends i → ∃ n, numbers sent (step s i).2 = List.range' (count s + 1) n ∧
    ∀ s', (step s i).1 = some s' → count s' = count s + n

/-- The inputs of a new session: there are none before, or the last of them ends one. -/
def Opens (ends : ι → Prop) (is : List ι) : Prop :=
  is = [] ∨ ∃ before i, is = before ++ [i] ∧ ends i

variable {step : Step σ ι ω} {sent : ω → Option (ℕ × Bool)} {count : σ → ℕ} {ends : ι → Prop}

namespace Consecutive

/-- A session starts at zero. -/
theorem opens_zero (hstep : Consecutive step sent count ends) {s s' : σ} {is : List ι}
    (hs : count s = 0) (hopens : Opens ends is) (h : (run step s is).1 = some s') :
    count s' = 0 := by
  obtain rfl | ⟨before, i, rfl, hends⟩ := hopens
  · obtain rfl := Option.some.inj h
    exact hs
  · obtain ⟨t, -, ht⟩ := run_append_single h
    exact hstep.restart t i s' hends ht

/-- Within a session everything is numbered consecutively. -/
theorem run_numbers (hstep : Consecutive step sent count ends) {s : σ} {is : List ι}
    (hsession : ∀ i ∈ is, ¬ends i) :
    ∃ n, numbers sent (run step s is).2 = List.range' (count s + 1) n := by
  induction is generalizing s with
  | nil => exact ⟨0, rfl⟩
  | cons i is ih =>
    obtain ⟨n, hn, hnext⟩ := hstep.next s i (hsession i List.mem_cons_self)
    cases hs : (step s i).1 with
    | none =>
      rw [run_cons_none is hs]
      exact ⟨n, hn⟩
    | some t =>
      rw [run_cons_some is hs]
      obtain ⟨m, hm⟩ := ih (s := t) fun j hj => hsession j (List.mem_cons_of_mem i hj)
      refine ⟨n + m, ?_⟩
      rw [numbers_append, hn, hm, hnext t hs, Nat.add_right_comm, List.range'_append_1]

/-- A session is numbered from one on. -/
theorem session_numbers (hstep : Consecutive step sent count ends) {s s' : σ}
    {is session : List ι} (hs : count s = 0) (hopens : Opens ends is)
    (hrun : (run step s is).1 = some s') (hsession : ∀ i ∈ session, ¬ends i) :
    ∃ n, numbers sent (run step s' session).2 = List.range' 1 n := by
  obtain ⟨n, hn⟩ := hstep.run_numbers (s := s') hsession
  rw [hstep.opens_zero hs hopens hrun] at hn
  exact ⟨n, hn⟩

/-- **No holes, and only then.** -/
theorem taken_consecutive_iff (hstep : Consecutive step sent count ends) {s s' : σ}
    {is session : List ι} (hs : count s = 0) (hopens : Opens ends is)
    (hrun : (run step s is).1 = some s') (hsession : ∀ i ∈ session, ¬ends i) :
    taken sent (run step s' session).2 =
        List.range' 1 (taken sent (run step s' session).2).length ↔
      Steady (answers sent (run step s' session).2) := by
  obtain ⟨n, hn⟩ := hstep.run_numbers (s := s') hsession
  rw [hstep.opens_zero hs hopens hrun] at hn
  have h := filter_consecutive_iff hn
  simpa only [taken, answers, List.length_map] using h

end Consecutive

end Numbering
