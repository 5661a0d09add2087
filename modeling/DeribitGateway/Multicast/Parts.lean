import DeribitGateway.Multicast.Channel

/-!
# What a channel holds of a unit in parts

A book change and a book snapshot come in parts. Of each part a channel takes the levels, as
updates of the part's instrument, or takes nothing, because the instrument is not one it
handles. `Channel.Holds` says that a channel's two lists are what these parts contribute, in
order, and the lemmas below are all that the handlers' proofs use of it: one more part, a
different but equal treatment of the parts, and what the lists are when every part counts.
-/

namespace DeribitGateway

variable {φ : Type} {levels : φ → List Level} {multiplier multiplier' : φ → Option ℚ}
  {side : ℚ → List Level → List MBPUpdate}

/-- What parts contribute to one side of a channel; a part without multiplier is skipped. -/
def collected (levels : φ → List Level) (multiplier : φ → Option ℚ)
    (side : ℚ → List Level → List MBPUpdate) (parts : List φ) : List MBPUpdate :=
  parts.flatMap fun part =>
    match multiplier part with
    | some k => side k (levels part)
    | none => []

theorem collected_append_single (parts : List φ) (part : φ) :
    collected levels multiplier side (parts ++ [part]) =
      collected levels multiplier side parts ++ collected levels multiplier side [part] := by
  simp [collected]

theorem collected_single_some {part : φ} {k : ℚ} (h : multiplier part = some k) :
    collected levels multiplier side [part] = side k (levels part) := by
  simp [collected, h]

theorem collected_skipped {parts : List φ} (h : ∀ part ∈ parts, multiplier part = none) :
    collected levels multiplier side parts = [] := by
  rw [collected, List.flatMap_eq_nil_iff]
  intro part hpart
  rw [h part hpart]

theorem collected_congr {parts : List φ}
    (h : ∀ part ∈ parts, multiplier' part = multiplier part) :
    collected levels multiplier' side parts = collected levels multiplier side parts := by
  induction parts with
  | nil => rfl
  | cons part parts ih =>
    have hpart := h part List.mem_cons_self
    have hparts := ih fun p hp => h p (List.mem_cons_of_mem _ hp)
    simp only [collected, List.flatMap_cons, hpart] at hparts ⊢
    rw [hparts]

/-- If every part counts, and alike, their levels are taken as those of one message. -/
theorem collected_all {parts : List φ} {k : ℚ} (hnil : side k [] = [])
    (happend : ∀ xs ys, side k (xs ++ ys) = side k xs ++ side k ys)
    (h : ∀ part ∈ parts, multiplier part = some k) :
    collected levels multiplier side parts = side k (parts.flatMap levels) := by
  induction parts with
  | nil => exact hnil.symm
  | cons part parts ih =>
    have hpart := h part List.mem_cons_self
    have hparts := ih fun p hp => h p (List.mem_cons_of_mem _ hp)
    simp only [collected, List.flatMap_cons, hpart, happend] at hparts ⊢
    rw [hparts]

namespace Channel

structure Holds (levels : φ → List Level) (multiplier : φ → Option ℚ) (c : Channel)
    (parts : List φ) : Prop where
  bids : c.bids = collected levels multiplier bidsOf parts
  asks : c.asks = collected levels multiplier asksOf parts

variable {c c' : Channel} {parts : List φ} {part : φ}

theorem Holds.of_empty (hbids : c.bids = []) (hasks : c.asks = [])
    (h : ∀ part ∈ parts, multiplier part = none) : c.Holds levels multiplier parts :=
  ⟨hbids.trans (collected_skipped h).symm, hasks.trans (collected_skipped h).symm⟩

theorem Holds.congr (h : c.Holds levels multiplier parts) (hbids : c'.bids = c.bids)
    (hasks : c'.asks = c.asks) (hm : ∀ part ∈ parts, multiplier' part = multiplier part) :
    c'.Holds levels multiplier' parts :=
  ⟨by rw [hbids, h.bids, collected_congr hm], by rw [hasks, h.asks, collected_congr hm]⟩

/-- A part that counts is appended. -/
theorem Holds.append {k : ℚ} (h : c.Holds levels multiplier parts)
    (hk : multiplier part = some k) :
    (c.appendAll k (levels part)).Holds levels multiplier (parts ++ [part]) := by
  rw [appendAll_eq]
  refine ⟨?_, ?_⟩
  · rw [collected_append_single, collected_single_some hk, ← h.bids]
  · rw [collected_append_single, collected_single_some hk, ← h.asks]

/-- A part that does not count changes nothing. -/
theorem Holds.skip (h : c.Holds levels multiplier parts) (hk : multiplier part = none) :
    c.Holds levels multiplier (parts ++ [part]) := by
  have hnone : ∀ p ∈ [part], multiplier p = none := by
    intro p hp
    rw [List.mem_singleton.mp hp, hk]
  refine ⟨?_, ?_⟩
  · rw [collected_append_single, collected_skipped hnone, List.append_nil, h.bids]
  · rw [collected_append_single, collected_skipped hnone, List.append_nil, h.asks]

/-- Where every part counts the channel holds the levels of all of them. -/
theorem Holds.all {k : ℚ} (h : c.Holds levels multiplier parts)
    (hk : ∀ part ∈ parts, multiplier part = some k) :
    c.bids = bidsOf k (parts.flatMap levels) ∧ c.asks = asksOf k (parts.flatMap levels) :=
  ⟨h.bids.trans (collected_all (bidsOf_nil k) (bidsOf_append k) hk),
    h.asks.trans (collected_all (asksOf_nil k) (asksOf_append k) hk)⟩

end Channel

end DeribitGateway
