import Mathlib.Data.List.Basic
import Mathlib.Logic.Function.Basic
import Mathlib.Tactic.Common

/-!
# Price levels — the two sides of a book, and changes to them

A side of a book says what there is at each price, if anything. A change names a price, and what
is there from now on. Changes are replayed in order. Since those of one side leave the other
alone, it makes no difference whether they come one by one, each to its side (`Book.change`), or
side by side (`Book.apply`).
-/

namespace PriceLevels

variable {K V : Type*} [DecidableEq K]

/-- What there is at a price, if anything. -/
abbrev Levels (K V : Type*) := K → Option V

/-- A price, and what is there from now on. -/
abbrev Change (K V : Type*) := K × Option V

def replay (levels : Levels K V) (changes : List (Change K V)) : Levels K V :=
  changes.foldl (fun levels change => Function.update levels change.1 change.2) levels

theorem replay_append_singleton (levels : Levels K V) (changes : List (Change K V))
    (change : Change K V) : replay levels (changes ++ [change]) =
      Function.update (replay levels changes) change.1 change.2 :=
  List.foldl_append

structure Book (K V : Type*) where
  bids : Levels K V
  asks : Levels K V

namespace Book

omit [DecidableEq K] in
/-- Nothing at any price. -/
def empty : Book K V := ⟨fun _ => none, fun _ => none⟩

/-- Changes to both sides, collected side by side. -/
def apply (book : Book K V) (bids asks : List (Change K V)) : Book K V :=
  ⟨replay book.bids bids, replay book.asks asks⟩

/-- A change to one of the sides. -/
def change (book : Book K V) : Change K V ⊕ Change K V → Book K V
  | .inl bid => { book with bids := Function.update book.bids bid.1 bid.2 }
  | .inr ask => { book with asks := Function.update book.asks ask.1 ask.2 }

/-- A bid may wait until what comes in front of it has been applied, whichever side that is of. -/
theorem apply_append_bid (book : Book K V) (bids asks : List (Change K V)) (bid : Change K V) :
    book.apply (bids ++ [bid]) asks = (book.apply bids asks).change (.inl bid) := by
  simp only [apply, change, replay_append_singleton]

theorem apply_append_ask (book : Book K V) (bids asks : List (Change K V)) (ask : Change K V) :
    book.apply bids (asks ++ [ask]) = (book.apply bids asks).change (.inr ask) := by
  simp only [apply, change, replay_append_singleton]

end Book

end PriceLevels
