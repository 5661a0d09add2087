import Mathlib.Data.Int.Basic
import Mathlib.Data.List.Basic
import Mathlib.Tactic.Common

/-!
# Staged downloads

A download goes through its stages in order. In each it asks for something, is told how many
replies to expect, and goes on once they have come; a stage that expects none is passed
through at once. `Download` is the interface of such a component. It calls its owner back for
every stage it enters, and the owner answers the number of replies: here the operations take
that answer as a function of the stage, and return which stages they have entered.

`LawfulDownload` is what the owner relies on, and `Counter` a component that behaves so.
-/

namespace StagedDownload

/-- The stages before the last one, the last one, and where a download rests before them. -/
class Stages (S : Type) where
  undefined : S
  before : List S
  done : S

export Stages (undefined before done)

variable {S D : Type}

/-- All stages, in order. -/
def all [Stages S] : List S := before ++ [done]

/-- The stages behind `s`. -/
def behind [DecidableEq S] (s : S) : List S → List S
  | [] => []
  | t :: ts => if t = s then ts else behind s ts

/-- The stages gone through from the first of `stages` on. -/
def entered (count : S → ℤ) : List S → List S
  | [] => []
  | s :: stages => if count s = 0 then s :: entered count stages else [s]

/-- The stage that has replies to wait for. -/
def waiting (count : S → ℤ) : List S → Option S
  | [] => none
  | s :: stages => if count s = 0 then waiting count stages else some s

/-- All stages are gone through when none has replies to wait for. -/
theorem entered_eq_self {count : S → ℤ} {stages : List S} (h : ∀ s ∈ stages, count s = 0) :
    entered count stages = stages := by
  induction stages with
  | nil => rfl
  | cons s stages ih =>
    rw [entered, if_pos (h s List.mem_cons_self),
      ih fun t ht => h t (List.mem_cons_of_mem s ht)]

theorem waiting_eq_none {count : S → ℤ} {stages : List S} (h : ∀ s ∈ stages, count s = 0) :
    waiting count stages = none := by
  induction stages with
  | nil => rfl
  | cons s stages ih =>
    rw [waiting, if_pos (h s List.mem_cons_self)]
    exact ih fun t ht => h t (List.mem_cons_of_mem s ht)

class Download (S : outParam Type) (D : Type) where
  fresh : D
  state : D → S
  /-- The replies that have yet to come in the current stage. -/
  outstanding : D → ℤ
  reset : D → D
  begin : (S → ℤ) → D → D × List S
  /-- A reply of a stage that the download is known to be in. -/
  check : (S → ℤ) → D → S → D × List S
  /-- A reply of a stage that the download may have left. -/
  checkRelaxed : (S → ℤ) → D → S → D × List S

open Download

/-- No stage with outstanding replies. -/
def Idle [Stages S] [Download S D] (d : D) : Prop := state d = undefined ∨ state d = done

/-- A download that rests is in no stage where it waits for replies. -/
theorem Idle.state_ne [Stages S] [Download S D] {d : D} (h : Idle d) {s : S}
    (hundefined : s ≠ undefined) (hdone : s ≠ done) : state d ≠ s := by
  rintro rfl
  obtain h | h := h
  · exact hundefined h
  · exact hdone h

/-- `r` has gone through `stages`, up to the first that has replies to wait for. -/
structure Enters [Stages S] [Download S D] (count : S → ℤ) (r : D × List S)
    (stages : List S) : Prop where
  entered_eq : r.2 = entered count stages
  idle : waiting count stages = none → Idle r.1
  waits : ∀ s, waiting count stages = some s → state r.1 = s ∧ outstanding r.1 = count s

/-- The first stage has replies to wait for. -/
theorem Enters.single [Stages S] [Download S D] {count : S → ℤ} {r : D × List S} {s : S}
    {stages : List S} (h : Enters count r (s :: stages)) (hcount : count s ≠ 0) :
    r.2 = [s] ∧ state r.1 = s := by
  have hwaits : waiting count (s :: stages) = some s := if_neg hcount
  exact ⟨h.entered_eq.trans (if_neg hcount), (h.waits s hwaits).1⟩

/-- `r` has stayed in stage `s`, with one reply less to wait for. -/
structure Stays [Download S D] (d : D) (r : D × List S) (s : S) : Prop where
  entered_eq : r.2 = []
  state_eq : state r.1 = s
  outstanding_eq : outstanding r.1 = outstanding d - 1

/-- A download that begins at its first stage, or else ignores being begun again while it is
    under way, and goes on to the next stage with the last reply of the current one. -/
class LawfulDownload (S : outParam Type) (D : Type) [DecidableEq S] [Stages S]
    [Download S D] : Prop where
  fresh_idle : Idle (fresh : D)
  reset_idle : ∀ d : D, Idle (reset d)
  begin_enters : ∀ (count : S → ℤ) (d : D), Idle d → Enters count (begin count d) all
  begin_again : ∀ (count : S → ℤ) (d : D), ¬Idle d →
    begin count d = (d, []) ∨ Enters count (begin count d) all
  check_more : ∀ (count : S → ℤ) (d : D) (s : S), state d = s → outstanding d ≠ 1 →
    Stays d (check count d s) s
  check_last : ∀ (count : S → ℤ) (d : D), ∀ s ∈ before, state d = s → outstanding d = 1 →
    Enters count (check count d s) (behind s all)
  relaxed_more : ∀ (count : S → ℤ) (d : D) (s : S), state d = s → outstanding d ≠ 1 →
    Stays d (checkRelaxed count d s) s
  relaxed_last : ∀ (count : S → ℤ) (d : D), ∀ s ∈ before, state d = s → outstanding d = 1 →
    Enters count (checkRelaxed count d s) (behind s all)
  relaxed_other : ∀ (count : S → ℤ) (d : D) (s : S), state d ≠ s →
    checkRelaxed count d s = (d, [])

open LawfulDownload

section

variable [DecidableEq S] [Stages S] [Download S D] [LawfulDownload S D]

/-- Begun in any stage, a download goes through its stages or stays where it is. -/
theorem begin_cases (count : S → ℤ) (d : D) :
    (¬Idle d ∧ begin count d = (d, [])) ∨ Enters count (begin count d) all := by
  by_cases h : Idle d
  · exact .inr (begin_enters count d h)
  · obtain hstay | henters := begin_again count d h
    · exact .inl ⟨h, hstay⟩
    · exact .inr henters

theorem check_cases (count : S → ℤ) {d : D} {s : S} (hs : s ∈ before) (h : state d = s) :
    Stays d (check count d s) s ∨ Enters count (check count d s) (behind s all) := by
  by_cases hlast : outstanding d = 1
  · exact .inr (check_last count d s hs h hlast)
  · exact .inl (check_more count d s h hlast)

theorem checkRelaxed_cases (count : S → ℤ) (d : D) {s : S} (hs : s ∈ before) :
    (state d ≠ s ∧ checkRelaxed count d s = (d, [])) ∨
    (state d = s ∧ (Stays d (checkRelaxed count d s) s ∨
      Enters count (checkRelaxed count d s) (behind s all))) := by
  by_cases h : state d = s
  · refine .inr ⟨h, ?_⟩
    by_cases hlast : outstanding d = 1
    · exact .inr (relaxed_last count d s hs h hlast)
    · exact .inl (relaxed_more count d s h hlast)
  · exact .inl ⟨h, relaxed_other count d s h⟩

end

/-! ## A download that behaves so -/

structure Counter (S : Type) where
  state : S
  outstanding : ℤ
  deriving DecidableEq

/-- Enter the first of `stages` that has replies to wait for. -/
def Counter.enter (count : S → ℤ) (d : Counter S) : List S → Counter S
  | [] => d
  | s :: stages => if count s = 0 then Counter.enter count ⟨s, 0⟩ stages else ⟨s, count s⟩

/-- A reply of stage `s`. -/
def Counter.reply [DecidableEq S] [Stages S] (count : S → ℤ) (d : Counter S) (s : S) :
    Counter S × List S :=
  if d.state ≠ s then (d, [])
  else if d.outstanding = 1 then
    (Counter.enter count d (behind s all), entered count (behind s all))
  else (⟨s, d.outstanding - 1⟩, [])

instance [DecidableEq S] [Stages S] : Download S (Counter S) where
  fresh := ⟨undefined, 0⟩
  state := Counter.state
  outstanding := Counter.outstanding
  reset _ := ⟨undefined, 0⟩
  begin count d := (Counter.enter count d all, entered count all)
  check := Counter.reply
  checkRelaxed := Counter.reply

variable [DecidableEq S] [Stages S]

theorem Counter.enters (count : S → ℤ) (d : Counter S) {stages : List S}
    (h : stages = [] → Idle d) (hlast : stages = [] ∨ stages.getLast? = some done) :
    Enters count (Counter.enter count d stages, entered count stages) stages := by
  induction stages generalizing d with
  | nil =>
    refine ⟨rfl, fun _ => h rfl, ?_⟩
    intro s hs
    cases hs
  | cons s stages ih =>
    refine ⟨rfl, ?_, ?_⟩
    · intro hnone
      unfold waiting at hnone
      unfold Counter.enter
      split_ifs at hnone ⊢ with hs
      refine (ih ⟨s, 0⟩ ?_ ?_).idle hnone
      · intro hnil
        -- the last stage is where a download rests
        subst hnil
        have hdone : s = done := by simpa using hlast
        exact .inr hdone
      · cases stages with
        | nil => exact .inl rfl
        | cons t stages => exact .inr (by simpa using hlast)
    · intro t ht
      unfold waiting at ht
      unfold Counter.enter
      split_ifs at ht ⊢ with hs
      · refine (ih ⟨s, 0⟩ ?_ ?_).waits t ht
        · intro hnil
          subst hnil
          cases ht
        · cases stages with
          | nil => exact .inl rfl
          | cons t stages => exact .inr (by simpa using hlast)
      · obtain rfl := Option.some.inj ht
        exact ⟨rfl, rfl⟩

theorem behind_getLast {s : S} (hs : s ∈ before) :
    (behind s (all : List S)).getLast? = some done := by
  unfold all
  generalize (before : List S) = stages at hs
  induction stages with
  | nil => cases hs
  | cons t ts ih =>
    simp only [List.cons_append, behind]
    split_ifs with ht
    · simp
    · exact ih ((List.mem_cons.mp hs).resolve_left fun h => ht h.symm)

theorem Counter.reply_more (count : S → ℤ) (d : Counter S) (s : S) (h : d.state = s)
    (hmore : d.outstanding ≠ 1) : Stays d (Counter.reply count d s) s := by
  have hs : Counter.reply count d s = (⟨s, d.outstanding - 1⟩, []) :=
    (if_neg (not_not.mpr h)).trans (if_neg hmore)
  rw [hs]
  exact ⟨rfl, rfl, rfl⟩

theorem Counter.reply_last (count : S → ℤ) (d : Counter S) (s : S) (hs : s ∈ before)
    (h : d.state = s) (hlast : d.outstanding = 1) :
    Enters count (Counter.reply count d s) (behind s all) := by
  have hr : Counter.reply count d s =
      (Counter.enter count d (behind s all), entered count (behind s all)) :=
    (if_neg (not_not.mpr h)).trans (if_pos hlast)
  have hdone := behind_getLast hs
  rw [hr]
  refine Counter.enters count d ?_ (.inr hdone)
  intro hnil
  rw [hnil] at hdone
  cases hdone

instance : LawfulDownload S (Counter S) where
  fresh_idle := .inl rfl
  reset_idle _ := .inl rfl
  begin_enters count d _ := Counter.enters count d (by simp [all]) (.inr (by simp [all]))
  begin_again count d _ :=
    .inr (Counter.enters count d (by simp [all]) (.inr (by simp [all])))
  check_more := Counter.reply_more
  check_last := Counter.reply_last
  relaxed_more := Counter.reply_more
  relaxed_last := Counter.reply_last
  relaxed_other _ _ _ h := if_pos h

end StagedDownload
