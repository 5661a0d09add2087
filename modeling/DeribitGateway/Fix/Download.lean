import Mathlib.Data.Int.Basic

/-!
# `core::Download2`

The order entry stream logs on and then downloads, first the positions and then the orders.
`core::Download2`, which keeps the state and the number of outstanding replies, is not part
of the repository: it enters as a type class. It calls the stream back for each state it
enters, and takes the initial number of outstanding replies from the answer. That number
depends on the state alone, so the operations take it as a function and answer, next to their
own new state, which states they have entered, in order.

`LawfulDownload2` is what the stream relies on. `DownloadCounter` is a download that behaves so.
-/

namespace DeribitGateway

/-- `OrderEntry::State` -/
inductive State
  | undefined
  | positions
  | orders
  | done
  deriving DecidableEq, Repr

/-- `magic_enum::enum_name` -/
def State.name : State → String
  | undefined => "UNDEFINED"
  | positions => "POSITIONS"
  | orders => "ORDERS"
  | done => "DONE"

class Download2 (D : Type) where
  fresh : D
  state : D → State
  /-- The replies that have yet to come in the current state. -/
  outstanding : D → ℤ
  reset : D → D
  begin : (State → ℤ) → D → D × List State
  update : (State → ℤ) → D → State → ℤ → D × List State
  checkRelaxed : (State → ℤ) → D → State → D × List State

/-- No state with outstanding replies. -/
def Inactive {D : Type} [Download2 D] (d : D) : Prop :=
  Download2.state d ≠ .positions ∧ Download2.state d ≠ .orders

/-- `r` has entered the first of `states` that has replies to wait for, or all of them. -/
def Enters {D : Type} [Download2 D] (count : State → ℤ) (r : D × List State) :
    List State → Prop
  | [] => r.2 = [] ∧ Inactive r.1
  | s :: states =>
    if count s = 0 then ∃ entered, r.2 = s :: entered ∧ Enters count (r.1, entered) states
    else r.2 = [s] ∧ Download2.state r.1 = s ∧ Download2.outstanding r.1 = count s

open Download2

/-- A download that begins at the positions, goes on to the next state once nothing is
    outstanding, and is only moved by replies of the current state. -/
class LawfulDownload2 (D : Type) [Download2 D] : Prop where
  fresh_inactive : Inactive (fresh : D)
  reset_inactive : ∀ d : D, Inactive (reset d)
  begin_enters : ∀ (count : State → ℤ) (d : D), Inactive d →
    Enters count (begin count d) [.positions, .orders, .done]
  other_update : ∀ (count : State → ℤ) (d : D) (s : State) (n : ℤ), state d ≠ s →
    update count d s n = (d, [])
  other_check : ∀ (count : State → ℤ) (d : D) (s : State), state d ≠ s →
    checkRelaxed count d s = (d, [])
  update_more : ∀ (count : State → ℤ) (d : D) (s : State) (n : ℤ), state d = s → n ≠ 0 →
    (update count d s n).2 = [] ∧ state (update count d s n).1 = s ∧
      outstanding (update count d s n).1 = n
  check_more : ∀ (count : State → ℤ) (d : D) (s : State), state d = s → outstanding d ≠ 1 →
    (checkRelaxed count d s).2 = [] ∧ state (checkRelaxed count d s).1 = s ∧
      outstanding (checkRelaxed count d s).1 = outstanding d - 1
  positions_done : ∀ (count : State → ℤ) (d : D), state d = .positions → outstanding d = 1 →
    Enters count (checkRelaxed count d .positions) [.orders, .done]
  orders_done : ∀ (count : State → ℤ) (d : D), state d = .orders → outstanding d = 1 →
    Enters count (checkRelaxed count d .orders) [.done]
  orders_none : ∀ (count : State → ℤ) (d : D), state d = .orders →
    Enters count (update count d .orders 0) [.done]

/-- A download that is begun again while it is under way starts over or takes no notice. -/
class LawfulRestart (D : Type) [Download2 D] : Prop where
  begin_again : ∀ (count : State → ℤ) (d : D), ¬Inactive d →
    begin count d = (d, []) ∨ Enters count (begin count d) [.positions, .orders, .done]

/-! ## A download that behaves so -/

structure DownloadCounter where
  state : State
  outstanding : ℤ
  deriving DecidableEq

/-- Enter the first of `states` that has replies to wait for. -/
def DownloadCounter.enter (count : State → ℤ) (d : DownloadCounter) :
    List State → DownloadCounter × List State
  | [] => (d, [])
  | s :: states =>
    if count s = 0 then
      let (d', entered) := DownloadCounter.enter count ⟨s, 0⟩ states
      (d', s :: entered)
    else (⟨s, count s⟩, [s])

/-- The states behind `s`. -/
def State.rest : State → List State
  | undefined => [positions, orders, done]
  | positions => [orders, done]
  | orders => [done]
  | done => []

instance : Download2 DownloadCounter where
  fresh := ⟨.undefined, 0⟩
  state := DownloadCounter.state
  outstanding := DownloadCounter.outstanding
  reset _ := ⟨.undefined, 0⟩
  begin count d := DownloadCounter.enter count d [.positions, .orders, .done]
  update count d s n :=
    if d.state ≠ s then (d, [])
    else if n = 0 then DownloadCounter.enter count d s.rest
    else (⟨s, n⟩, [])
  checkRelaxed count d s :=
    if d.state ≠ s then (d, [])
    else if d.outstanding = 1 then DownloadCounter.enter count d s.rest
    else (⟨s, d.outstanding - 1⟩, [])

theorem DownloadCounter.enters (count : State → ℤ) (d : DownloadCounter) (states : List State)
    (h : states = [] → Inactive d) (hlast : states.getLast? = some .done ∨ states = []) :
    Enters count (DownloadCounter.enter count d states) states := by
  induction states generalizing d with
  | nil => exact ⟨rfl, h rfl⟩
  | cons s states ih =>
    unfold Enters DownloadCounter.enter
    by_cases hs : count s = 0
    · rw [if_pos hs, if_pos hs]
      refine ⟨_, rfl, ih ⟨s, 0⟩ ?_ ?_⟩
      · intro hnil
        -- the last state is none that waits
        subst hnil
        obtain rfl : s = .done := by simpa using hlast
        exact ⟨by decide, by decide⟩
      · cases states with
        | nil => exact .inr rfl
        | cons t states =>
          left
          simpa using hlast
    · rw [if_neg hs, if_neg hs]
      exact ⟨rfl, rfl, rfl⟩

instance : LawfulDownload2 DownloadCounter where
  fresh_inactive := ⟨by decide, by decide⟩
  reset_inactive _ := ⟨nofun, nofun⟩
  begin_enters count d _ := DownloadCounter.enters count d _ nofun (.inl rfl)
  other_update count d s n h := if_pos h
  other_check count d s h := if_pos h
  update_more count d s n h hn := by
    have hs : Download2.update count d s n = (⟨s, n⟩, []) :=
      (if_neg (not_not.mpr h)).trans (if_neg hn)
    rw [hs]
    exact ⟨rfl, rfl, rfl⟩
  check_more count d s h hn := by
    have hs : Download2.checkRelaxed count d s = (⟨s, d.outstanding - 1⟩, []) :=
      (if_neg (not_not.mpr h)).trans (if_neg hn)
    rw [hs]
    exact ⟨rfl, rfl, rfl⟩
  positions_done count d h hn := by
    have hs : Download2.checkRelaxed count d .positions =
        DownloadCounter.enter count d [.orders, .done] :=
      (if_neg (not_not.mpr h)).trans (if_pos hn)
    rw [hs]
    exact DownloadCounter.enters count d _ nofun (.inl rfl)
  orders_done count d h hn := by
    have hs : Download2.checkRelaxed count d .orders = DownloadCounter.enter count d [.done] :=
      (if_neg (not_not.mpr h)).trans (if_pos hn)
    rw [hs]
    exact DownloadCounter.enters count d _ nofun (.inl rfl)
  orders_none count d h := by
    have hs : Download2.update count d .orders 0 = DownloadCounter.enter count d [.done] :=
      (if_neg (not_not.mpr h)).trans (if_pos rfl)
    rw [hs]
    exact DownloadCounter.enters count d _ nofun (.inl rfl)

instance : LawfulRestart DownloadCounter where
  begin_again count d _ := .inr (DownloadCounter.enters count d _ nofun (.inl rfl))

end DeribitGateway
