import DeribitGateway.Lib.Transducer
import DeribitGateway.Multicast.Channel

/-!
# What a channel detects

The life of one `Channel`: frames arrive, with a reset after each refused one, snapshot
cycles begin and end, and the handlers append to the accumulator and clear it, in any order.
Next to the channel runs a `Track`: the number of the last frame, the frames received since
the latest `SnapshotStart`, and those received since the oldest part that is still
accumulated.

A channel should accept its first frame, accept a later one exactly when it carries the
successor of the number before it, and be ready, or hold parts, only over a contiguous run
of frames (`Observation.Right`). `allRight_iff` says when it does. The first frame decides:
`0` is taken for a repeat of the initial `previous_sequence_number_` and refused, and `1`
for its successor, so that `initialized_` stays unset and the first gap goes unnoticed.
-/

namespace DeribitGateway
namespace Channel

open Transducer

inductive Input
  | frame (frame : Frame)
  | snapshotStart
  | snapshotEnd
  | append (multiplier : ℚ) (items : List Level)
  | claim (instrumentId : UInt32)
  | clear

def handle (c : Channel) : Input → Channel
  | .frame f => (c.onFrame f).2
  | .snapshotStart => c.snapshotStart
  | .snapshotEnd => c.snapshotEnd
  | .append multiplier items => c.appendAll multiplier items
  | .claim instrumentId => c.claim instrumentId
  | .clear => c.clear

structure Track where
  last : Option UInt32 := none
  sinceStart : List UInt32 := []
  sinceFirstPart : List UInt32 := []

def Track.next (t : Track) (c : Channel) : Input → Track
  | .frame f =>
    { last := some f.sequenceNumber
      sinceStart := t.sinceStart ++ [f.sequenceNumber]
      sinceFirstPart := t.sinceFirstPart ++ [f.sequenceNumber] }
  | .snapshotStart => { t with sinceStart := t.last.toList }
  | .append _ _ =>
    { t with sinceFirstPart := if c.Empty then t.last.toList else t.sinceFirstPart }
  | _ => t

/-- One input, with the channel and its track before and after it. -/
structure Observation where
  before : Channel × Track
  input : Input
  after : Channel × Track

def step : Step (Channel × Track) Input Observation := fun s i =>
  let s' := (s.1.handle i, s.2.next s.1 i)
  (some s', [⟨s, i, s'⟩])

/-! ## The law -/

/-- Each frame is the successor of the one before it. -/
def Contiguous (frames : List UInt32) : Prop := frames.IsChain fun p n => n = p + 1

/-- The decision about a frame: the first one is accepted, a later one exactly when it
    follows the one before, and the assertion holds. -/
def DecidesRight (s : Channel × Track) (f : Frame) : Prop :=
  s.1.acceptAssert f = true ∧
    match s.2.last with
    | none => (s.1.onFrame f).1 = true
    | some p => (s.1.onFrame f).1 = true ↔ f.sequenceNumber = p + 1

/-- A ready channel has received every frame since the latest `SnapshotStart` in order, and
    what is accumulated stems from a contiguous run of frames. -/
structure Sound (s : Channel × Track) : Prop where
  start : s.1.ready = true → Contiguous s.2.sinceStart
  parts : ¬s.1.Empty → Contiguous s.2.sinceFirstPart

def Observation.Right (o : Observation) : Prop :=
  (∀ f, o.input = .frame f → DecidesRight o.before f) ∧ Sound o.after

def AllRight (s : Channel × Track) (inputs : List Input) : Prop :=
  ∀ o ∈ (run step s inputs).2, o.Right

theorem allRight_cons {s : Channel × Track} {i : Input} {is : List Input} :
    AllRight s (i :: is) ↔
      ((∀ f, i = .frame f → DecidesRight s f) ∧
        Sound (s.1.handle i, s.2.next s.1 i)) ∧
      AllRight (s.1.handle i, s.2.next s.1 i) is := by
  unfold AllRight
  rw [run_cons_some is rfl]
  simp [step, Observation.Right]

/-! ## The invariant

`Tracked` ties the channel to its track. It needs nothing of a frame except that the
decision about it was right. -/

structure Tracked (s : Channel × Track) : Prop where
  fresh : s.2.last = none → s.1.previousSequenceNumber = 0 ∧ s.1.initialized = false
  last : ∀ n, s.2.last = some n → s.1.previousSequenceNumber = n
  start : s.1.ready = true → Contiguous s.2.sinceStart ∧ s.2.sinceStart.getLast? = s.2.last
  parts : ¬s.1.Empty → Contiguous s.2.sinceFirstPart ∧ s.2.sinceFirstPart.getLast? = s.2.last

theorem Tracked.sound {s : Channel × Track} (h : Tracked s) : Sound s :=
  ⟨fun hr => (h.start hr).1, fun he => (h.parts he).1⟩

theorem tracked_init : Tracked ({}, {}) where
  fresh _ := ⟨rfl, rfl⟩
  last _ h := by cases h
  start h := by cases h
  parts h := absurd ⟨rfl, rfl⟩ h

/-- A contiguous run of frames is continued by the frame after it. -/
theorem contiguous_append {frames : List UInt32} {last : Option UInt32} {n : UInt32}
    (h : Contiguous frames) (hl : frames.getLast? = last) (hn : ∀ p, last = some p → n = p + 1) :
    Contiguous (frames ++ [n]) := by
  refine List.isChain_append.mpr ⟨h, List.isChain_singleton n, ?_⟩
  intro p hp q hq
  obtain rfl : n = q := by simpa using hq
  exact hn p (hl ▸ hp)

theorem tracked_frame {s : Channel × Track} {f : Frame} (h : Tracked s) (hd : DecidesRight s f) :
    Tracked (s.1.handle (.frame f), s.2.next s.1 (.frame f)) := by
  obtain ⟨hprev, hcases⟩ := onFrame_cases s.1 f
  have hnext : (s.1.onFrame f).1 = true → ∀ p, s.2.last = some p → f.sequenceNumber = p + 1 := by
    intro hacc p hp
    have := hd.2
    rw [hp] at this
    exact this.mp hacc
  refine ⟨fun hl => by simp [Track.next] at hl, ?_, ?_, ?_⟩
  · intro n hn
    simp only [Track.next, Option.some.injEq] at hn
    exact hprev.trans hn
  · intro hr
    obtain ⟨hacc, -, -, hready⟩ | ⟨-, -, hready⟩ := hcases
    · obtain ⟨hc, hlast⟩ := h.start (hready ▸ hr)
      exact ⟨contiguous_append hc hlast (hnext hacc), by simp [Track.next]⟩
    · simp only [handle, hready] at hr
      cases hr
  · intro he
    obtain ⟨hacc, hbids, hasks, -⟩ | ⟨-, hempty, -⟩ := hcases
    · have hs : ¬s.1.Empty := by simpa [handle, Empty, hbids, hasks] using he
      obtain ⟨hc, hlast⟩ := h.parts hs
      exact ⟨contiguous_append hc hlast (hnext hacc), by simp [Track.next]⟩
    · exact absurd hempty he

theorem contiguous_toList (last : Option UInt32) :
    Contiguous last.toList ∧ last.toList.getLast? = last := by
  cases last with
  | none => exact ⟨List.isChain_nil, rfl⟩
  | some n => exact ⟨List.isChain_singleton n, rfl⟩

theorem tracked_handle {s : Channel × Track} {i : Input} (h : Tracked s)
    (hi : ∀ f, i = .frame f → DecidesRight s f) :
    Tracked (s.1.handle i, s.2.next s.1 i) := by
  cases i with
  | frame f => exact tracked_frame h (hi f rfl)
  | snapshotStart =>
    exact ⟨h.fresh, h.last, fun _ => contiguous_toList _, h.parts⟩
  | snapshotEnd =>
    exact ⟨h.fresh, h.last, fun hr => by simp [handle, snapshotEnd] at hr, h.parts⟩
  | append multiplier items =>
    simp only [handle, appendAll_eq, Track.next]
    refine ⟨h.fresh, h.last, h.start, ?_⟩
    intro _
    by_cases he : s.1.Empty
    · simpa only [he, if_true] using contiguous_toList _
    · simpa only [he, if_false] using h.parts he
  | claim instrumentId =>
    have hp : (s.1.claim instrumentId).previousSequenceNumber = s.1.previousSequenceNumber ∧
        (s.1.claim instrumentId).initialized = s.1.initialized := by
      unfold claim; split <;> exact ⟨rfl, rfl⟩
    refine ⟨?_, ?_, ?_, ?_⟩
    · intro hl
      rw [handle, hp.1, hp.2]; exact h.fresh hl
    · intro n hn
      rw [handle, hp.1]; exact h.last n hn
    · intro hr
      exact h.start (by simpa [handle] using hr)
    · intro he
      exact h.parts (by simpa [handle, Empty] using he)
  | clear =>
    exact ⟨h.fresh, h.last, h.start, fun he => absurd ⟨rfl, rfl⟩ he⟩

/-! ## When the law holds -/

/-- The numbers of the frames among the inputs. -/
def numbers (inputs : List Input) : List UInt32 :=
  inputs.filterMap fun
    | .frame f => some f.sequenceNumber
    | _ => none

theorem numbers_other {i : Input} (hi : ∀ f, i ≠ .frame f) (is : List Input) :
    numbers (i :: is) = numbers is := by
  cases i with
  | frame f => exact absurd rfl (hi f)
  | _ => rfl

/-- Each frame repeats the one before it or follows it. -/
def Gapless (frames : List UInt32) : Prop := frames.IsChain fun p n => n = p ∨ n = p + 1

/-- The channel is not joined at frame `0`, and if it is joined at frame `1`, no frame is
    ever missing. -/
def JoinsWell : List UInt32 → Prop
  | [] => True
  | n :: ns => n ≠ 0 ∧ (n = 1 → Gapless (n :: ns))

/-- What the frames to come must be like, by what the channel has seen. -/
def Promise (s : Channel × Track) (frames : List UInt32) : Prop :=
  s.1.initialized = false →
    match s.2.last with
    | none => JoinsWell frames
    | some p => Gapless (p :: frames)

/-- One frame: it is decided rightly and the rest keeps its promise exactly if the frames
    from here on keep theirs. -/
theorem promise_frame {s : Channel × Track} {f : Frame} (h : Tracked s) (frames : List UInt32) :
    (DecidesRight s f ∧
        Promise (s.1.handle (.frame f), s.2.next s.1 (.frame f)) frames) ↔
      Promise s (f.sequenceNumber :: frames) := by
  obtain ⟨c, t⟩ := s
  cases hl : t.last with
  | none =>
    -- the first frame of a fresh channel
    obtain ⟨hp, hi⟩ := h.fresh hl
    simp only at hp hi
    by_cases h1 : f.sequenceNumber = 1
    · simp [DecidesRight, Promise, hl, hp, hi, h1, handle, onFrame, accept, acceptAssert,
        Track.next, JoinsWell]
    · by_cases h0 : f.sequenceNumber = 0 <;>
        simp [DecidesRight, Promise, hl, hp, hi, h1, h0, handle, onFrame, accept, acceptAssert,
          Track.next, JoinsWell]
  | some p =>
    have hp := h.last p hl
    simp only at hp
    by_cases h1 : f.sequenceNumber = p + 1
    · simp [DecidesRight, Promise, hl, hp, h1, handle, onFrame, accept, acceptAssert,
        Track.next, Gapless]
    · by_cases h0 : f.sequenceNumber = p
      · simp [DecidesRight, Promise, hl, hp, h0, handle, onFrame, accept, acceptAssert,
          Track.next, Gapless, reset]
      · -- a gap: noticed once `initialized_` is set, otherwise accepted
        cases hi : c.initialized <;>
          simp [DecidesRight, Promise, hl, hp, h1, h0, hi, handle, onFrame, accept,
            acceptAssert, Gapless, reset]

theorem promise_other {s : Channel × Track} {i : Input} (hi : ∀ f, i ≠ .frame f)
    (frames : List UInt32) :
    Promise (s.1.handle i, s.2.next s.1 i) frames ↔ Promise s frames := by
  cases i with
  | frame f => exact absurd rfl (hi f)
  | snapshotStart | snapshotEnd | clear => rfl
  | append multiplier items =>
    simp only [handle, appendAll_eq]
    rfl
  | claim instrumentId =>
    have : (s.1.claim instrumentId).initialized = s.1.initialized := by
      unfold claim; split <;> rfl
    simp [Promise, handle, Track.next, this]

theorem allRight_iff_promise {s : Channel × Track} (h : Tracked s) (inputs : List Input) :
    AllRight s inputs ↔ Promise s (numbers inputs) := by
  induction inputs generalizing s with
  | nil =>
    simp only [AllRight, run_nil, List.not_mem_nil, false_imp_iff, implies_true, true_iff]
    intro _
    split
    · trivial
    · exact List.isChain_singleton _
  | cons i is ih =>
    rw [allRight_cons]
    by_cases hi : ∃ f, i = .frame f
    · obtain ⟨f, rfl⟩ := hi
      have hn : numbers (.frame f :: is) = f.sequenceNumber :: numbers is := rfl
      rw [hn, ← promise_frame h]
      constructor
      · rintro ⟨⟨hd, -⟩, hrest⟩
        exact ⟨hd f rfl, (ih (tracked_handle h hd)).mp hrest⟩
      · rintro ⟨hd, hp⟩
        have ht := tracked_frame h hd
        refine ⟨⟨?_, ht.sound⟩, (ih ht).mpr hp⟩
        intro g hg
        obtain rfl : f = g := by simpa using hg
        exact hd
    · have hi' : ∀ f, i ≠ .frame f := fun f hf => hi ⟨f, hf⟩
      have ht := tracked_handle h (fun f hf => absurd hf (hi' f))
      rw [ih ht, promise_other hi', numbers_other hi']
      exact and_iff_right ⟨fun f hf => absurd hf (hi' f), ht.sound⟩

end Channel

/-- **What a channel detects, exactly.** For every life of a fresh channel: all its decisions
    are right, its assertion never fails and its state is sound throughout, if and only if
    it is not joined at frame `0` and, joined at frame `1`, misses no frame. -/
theorem channel_detects_gaps_iff (inputs : List Channel.Input) :
    Channel.AllRight ({}, {}) inputs ↔ Channel.JoinsWell (Channel.numbers inputs) := by
  rw [Channel.allRight_iff_promise Channel.tracked_init]
  simp [Channel.Promise]

/-- Joined at frame `1`, the channel accepts frame `5` right after it, and the assertion
    fails there. -/
theorem channel_misses_first_gap :
    ¬Channel.AllRight ({}, {}) [.frame ⟨0, 1, 1⟩, .frame ⟨0, 1, 5⟩] := by
  intro h
  have h5 := (h _ (List.mem_cons_of_mem _ List.mem_cons_self)).1 ⟨0, 1, 5⟩ rfl
  exact absurd h5.1 (by decide)

end DeribitGateway
