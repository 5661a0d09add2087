import Mathlib.Data.List.Chain
import DeribitGateway.Multicast.Message

/-!
# `Channel` — gap detection and the accumulator of one multicast channel

`gateway/channel.hpp`, `gateway/channel.cpp`. A channel holds the number of the last frame,
the parts of a book change or snapshot that spans several datagrams, and whether a snapshot
cycle is being received. Sequence numbers are `uint32_t`, so the successor wraps.
-/

namespace DeribitGateway

structure Channel where
  instrumentId : UInt32 := 0
  bids : List MBPUpdate := []
  asks : List MBPUpdate := []
  previousSequenceNumber : UInt32 := 0
  initialized : Bool := false
  ready : Bool := false
  deriving DecidableEq

namespace Channel

/-- `Channel::operator()`: is this frame the one that was to be expected? -/
def accept (c : Channel) (frame : Frame) : Bool × Channel :=
  if frame.sequenceNumber = c.previousSequenceNumber + 1 then
    (true, { c with previousSequenceNumber := frame.sequenceNumber })
  else if frame.sequenceNumber = c.previousSequenceNumber then
    (false, c)  -- repeat
  else if c.initialized then
    -- packet drop
    (false, { c with ready := false, previousSequenceNumber := frame.sequenceNumber })
  else
    (true, { c with initialized := true, previousSequenceNumber := frame.sequenceNumber })

/-- What `assert(previous_sequence_number_ == 0)` finds when a frame takes the last branch. -/
def acceptAssert (c : Channel) (frame : Frame) : Bool :=
  frame.sequenceNumber = c.previousSequenceNumber + 1 ||
    frame.sequenceNumber = c.previousSequenceNumber || c.initialized ||
    c.previousSequenceNumber = 0

def reset (c : Channel) : Channel :=
  { c with bids := [], asks := [], instrumentId := 0, ready := false }

def snapshotStart (c : Channel) : Channel := { c with ready := true }

def snapshotEnd (c : Channel) : Channel := { c with ready := false }

/-- `operator()(Frame)` of `UDPEvents` and of `UDPSnapshot`: a channel that refuses a frame
    is reset. -/
def onFrame (c : Channel) (frame : Frame) : Bool × Channel :=
  match c.accept frame with
  | (true, c') => (true, c')
  | (false, c') => (false, c'.reset)

/-! ## The accumulator -/

/-- Nothing is accumulated. -/
def Empty (c : Channel) : Prop := c.bids = [] ∧ c.asks = []

instance (c : Channel) : Decidable c.Empty := inferInstanceAs (Decidable (_ ∧ _))

/-- The update `append_change` and `append_level` build from an item. -/
def mbpUpdate (multiplier : ℚ) (item : Level) : MBPUpdate where
  price := item.price
  quantity := item.amount * multiplier
  impliedQuantity := none

/-- The body of `append_change` and of `append_level`. -/
def append (multiplier : ℚ) (c : Channel) (item : Level) : Channel :=
  match item.side.map with
  | .undefined => c
  | .buy => { c with bids := c.bids ++ [mbpUpdate multiplier item] }
  | .sell => { c with asks := c.asks ++ [mbpUpdate multiplier item] }

/-- `forEach(append)` over the items of one message. -/
def appendAll (multiplier : ℚ) (c : Channel) (items : List Level) : Channel :=
  items.foldl (append multiplier) c

/-- What a message that is not the last of its unit leaves in `instrument_id`. -/
def claim (c : Channel) (instrumentId : UInt32) : Channel :=
  if c.instrumentId = 0 then { c with instrumentId := instrumentId } else c

/-- What the last message of a unit leaves behind. -/
def clear (c : Channel) : Channel := { c with instrumentId := 0, bids := [], asks := [] }

end Channel

/-- The bid changes among `items`, as updates of an instrument. -/
def bidsOf (multiplier : ℚ) (items : List Level) : List MBPUpdate :=
  (items.filter (·.side = .bid)).map (Channel.mbpUpdate multiplier)

/-- The ask changes among `items`, as updates of an instrument. -/
def asksOf (multiplier : ℚ) (items : List Level) : List MBPUpdate :=
  (items.filter (·.side = .ask)).map (Channel.mbpUpdate multiplier)

@[simp] theorem bidsOf_nil (multiplier : ℚ) : bidsOf multiplier [] = [] := rfl

@[simp] theorem asksOf_nil (multiplier : ℚ) : asksOf multiplier [] = [] := rfl

theorem bidsOf_append (multiplier : ℚ) (xs ys : List Level) :
    bidsOf multiplier (xs ++ ys) = bidsOf multiplier xs ++ bidsOf multiplier ys := by
  simp [bidsOf]

theorem asksOf_append (multiplier : ℚ) (xs ys : List Level) :
    asksOf multiplier (xs ++ ys) = asksOf multiplier xs ++ asksOf multiplier ys := by
  simp [asksOf]

namespace Channel

/-- The loop appends exactly the bids to `bids` and the asks to `asks`, in order. -/
theorem appendAll_eq (multiplier : ℚ) (c : Channel) (items : List Level) :
    c.appendAll multiplier items =
      { c with bids := c.bids ++ bidsOf multiplier items,
               asks := c.asks ++ asksOf multiplier items } := by
  induction items generalizing c with
  | nil => simp [appendAll]
  | cons item items ih =>
    rw [appendAll, List.foldl_cons, ← appendAll, ih]
    cases hs : item.side <;> simp [append, BookSide.map, bidsOf, asksOf, hs]

@[simp] theorem clear_bids (c : Channel) : c.clear.bids = [] := rfl
@[simp] theorem clear_asks (c : Channel) : c.clear.asks = [] := rfl

@[simp] theorem claim_bids (c : Channel) (i : UInt32) : (c.claim i).bids = c.bids := by
  unfold claim; split <;> rfl

@[simp] theorem claim_asks (c : Channel) (i : UInt32) : (c.claim i).asks = c.asks := by
  unfold claim; split <;> rfl

@[simp] theorem claim_ready (c : Channel) (i : UInt32) : (c.claim i).ready = c.ready := by
  unfold claim; split <;> rfl

/-- What a frame can do to a channel. -/
theorem onFrame_cases (c : Channel) (f : Frame) :
    (c.onFrame f).2.previousSequenceNumber = f.sequenceNumber ∧
    (((c.onFrame f).1 = true ∧ (c.onFrame f).2.bids = c.bids ∧ (c.onFrame f).2.asks = c.asks ∧
        (c.onFrame f).2.ready = c.ready) ∨
      ((c.onFrame f).1 = false ∧ (c.onFrame f).2.Empty ∧ (c.onFrame f).2.ready = false)) := by
  unfold onFrame accept
  by_cases h1 : f.sequenceNumber = c.previousSequenceNumber + 1
  · simp [h1]
  · by_cases h2 : f.sequenceNumber = c.previousSequenceNumber
    · simp [h2, reset, Empty]
    · by_cases h3 : c.initialized = true <;> simp [h1, h2, h3, reset, Empty]

/-! ## The part that decides about frames -/

/-- The fields the decision about a frame rests on. -/
def sequence (c : Channel) : UInt32 × Bool := (c.previousSequenceNumber, c.initialized)

@[simp] theorem appendAll_sequence (multiplier : ℚ) (c : Channel) (items : List Level) :
    (c.appendAll multiplier items).sequence = c.sequence := by
  rw [appendAll_eq]
  rfl

@[simp] theorem claim_sequence (c : Channel) (i : UInt32) :
    (c.claim i).sequence = c.sequence := by
  unfold claim; split <;> rfl

@[simp] theorem clear_sequence (c : Channel) : c.clear.sequence = c.sequence := rfl

@[simp] theorem snapshotStart_sequence (c : Channel) : c.snapshotStart.sequence = c.sequence := rfl

@[simp] theorem snapshotEnd_sequence (c : Channel) : c.snapshotEnd.sequence = c.sequence := rfl

/-- A frame with the number of the last one is refused, and costs the channel what it
    holds. -/
theorem onFrame_repeat {c : Channel} {f : Frame}
    (h : f.sequenceNumber = c.previousSequenceNumber) : c.onFrame f = (false, c.reset) := by
  simp [onFrame, accept, h]

/-- Which frames are accepted. -/
theorem onFrame_accepts (c : Channel) (f : Frame) :
    (c.onFrame f).1 = true ↔ f.sequenceNumber = c.previousSequenceNumber + 1 ∨
      f.sequenceNumber ≠ c.previousSequenceNumber ∧ c.initialized = false := by
  unfold onFrame accept
  by_cases h1 : f.sequenceNumber = c.previousSequenceNumber + 1
  · simp [h1]
  · by_cases h2 : f.sequenceNumber = c.previousSequenceNumber
    · simp [h2]
    · cases c.initialized <;> simp [h1, h2]

/-- A channel is initialized by the first frame that neither follows nor repeats. -/
theorem onFrame_initialized (c : Channel) (f : Frame) :
    (c.onFrame f).2.initialized = true ↔ c.initialized = true ∨
      f.sequenceNumber ≠ c.previousSequenceNumber + 1 ∧
        f.sequenceNumber ≠ c.previousSequenceNumber := by
  unfold onFrame accept
  by_cases h1 : f.sequenceNumber = c.previousSequenceNumber + 1
  · simp [h1]
  · by_cases h2 : f.sequenceNumber = c.previousSequenceNumber
    · simp [h2, reset]
    · cases c.initialized <;> simp [h1, h2, reset]

end Channel

end DeribitGateway
