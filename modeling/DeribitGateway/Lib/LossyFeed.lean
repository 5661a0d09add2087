import Mathlib.Logic.Function.Basic
import Mathlib.Data.List.Basic
import Mathlib.Tactic.Common
import DeribitGateway.Lib.Transducer

/-!
# Lossy numbered feeds that carry fragmented units

A sender numbers the frames of each channel consecutively (on the wire: modulo `2^32`) and
puts messages into them. Some messages are *fragments*: a unit is cut into one or more
fragments that follow each other in the message stream of the channel, possibly over several
frames, and only the final one says that it is the last. The network loses frames. The
receiver, which may join at any time, decides per frame whether it accepts it, and handles
the messages of the frames it accepts.

The system below runs a receiver next to the sender's own record of the feed: how many
frames it has sent, the fragments of the unit that is still unfinished, and what became of
the last frame. The record is a ghost; `step_other`, `step_lost` and `step_received` say
that the receiver's part of a step is the receiver's own.

`sound` is the rule for reassembly. A receiver that accumulates fragments is right as long
as what it has accumulated on a channel is *aligned* with what the sender has sent of the
unfinished unit. `Alignment` lists what has to be shown of one frame, one message and one
foreign input; the rule then speaks about every output of every run whose steps are
`Admissible`: frames resume a channel only where that is harmless, and nothing a pending
fragment depends on changes under it.
-/

namespace LossyFeed

open Transducer Function

variable {σ χ η μ φ ω ι : Type*} [DecidableEq χ]

/-! ## Sender and receiver -/

/-- How the message stream of a channel carries units cut into fragments. `boundary`
    messages may not stand inside a unit. -/
structure Fragmentation (μ φ : Type*) where
  fragment : μ → Option φ
  last : φ → Bool
  sameUnit : φ → φ → Prop
  boundary : μ → Bool

/-- What became of the last frame sent on a channel. -/
inductive Fate
  | lost
  | refused
  | accepted
  deriving DecidableEq, Repr

/-- The sender's record of one channel: frames sent, fragments of the unfinished unit,
    and the fate of the last frame (`lost` before the first one). -/
structure Feed (φ : Type*) where
  sent : ℕ
  pending : List φ
  fate : Fate

/-- A channel on which nothing has been sent; `first` is the number of its first frame. -/
def Feed.start (first : ℕ) : Feed φ := ⟨first, [], .lost⟩

@[simp] theorem Feed.start_pending (first : ℕ) : (Feed.start first : Feed φ).pending = [] := rfl

/-- The receiver: its decision about a frame (with the rest `η` of the frame's header), what
    it does with a message of an accepted frame, and what it does with all other inputs. -/
structure Receiver (σ χ η μ ω ι : Type*) where
  frame : σ → χ → UInt32 → η → Bool × σ
  message : χ → UInt32 → η → Step σ μ ω
  other : Step σ ι ω

/-- The fragments sent of the unfinished unit, one message later. -/
def Fragmentation.next (F : Fragmentation μ φ) (pending : List φ) (m : μ) : List φ :=
  match F.fragment m with
  | none => pending
  | some f => if F.last f then [] else pending ++ [f]

/-- `m` may follow: a fragment continues the unfinished unit, if there is one, and a
    boundary stands between units. -/
def Fragmentation.Continues (F : Fragmentation μ φ) (pending : List φ) (m : μ) : Prop :=
  (∀ f, F.fragment m = some f → ∀ p ∈ pending, F.sameUnit p f) ∧
    (F.boundary m = true → pending = [])

/-- Every message of a frame may follow the ones before it. -/
def Fragmentation.ContinuesAll (F : Fragmentation μ φ) : List φ → List μ → Prop
  | _, [] => True
  | pending, m :: ms => F.Continues pending m ∧ F.ContinuesAll (F.next pending m) ms

/-! ## The system -/

/-- The sender sends a frame on channel `c`, which the network delivers or loses; or the
    receiver reads some other input. -/
inductive Action (χ η μ ι : Type*)
  | frame (c : χ) (h : η) (ms : List μ) (received : Bool)
  | other (i : ι)

/-- The record of a channel one message of an accepted frame later. -/
def Feed.advance (F : Fragmentation μ φ) (feed : Feed φ) (m : μ) : Feed φ :=
  { feed with pending := F.next feed.pending m }

/-- The receiver handles one message of an accepted frame, while the sender's record moves
    past it. Each output is recorded with the fragments sent before the message. -/
def messageStep (R : Receiver σ χ η μ ω ι) (F : Fragmentation μ φ) (c : χ) (n : UInt32) (h : η) :
    Step (σ × (χ → Feed φ)) μ (List φ × μ × ω) :=
  observe (R.message c n h) (fun feeds m => update feeds c ((feeds c).advance F m))
    fun feeds => (feeds c).pending

theorem messageStep_none {R : Receiver σ χ η μ ω ι} {c : χ} {n : UInt32} {h : η}
    {s : σ × (χ → Feed φ)} {m : μ} (F : Fragmentation μ φ)
    (hs : (R.message c n h s.1 m).1 = none) : (messageStep R F c n h s m).1 = none :=
  observe_none _ _ _ hs

theorem messageStep_some {R : Receiver σ χ η μ ω ι} {c : χ} {n : UInt32} {h : η}
    {s : σ × (χ → Feed φ)} {m : μ} {t : σ} (F : Fragmentation μ φ)
    (hs : (R.message c n h s.1 m).1 = some t) :
    (messageStep R F c n h s m).1 = some (t, update s.2 c ((s.2 c).advance F m)) :=
  observe_some _ _ _ hs

/-- The record of a channel after a frame whose messages the receiver does not handle. -/
def Feed.miss (F : Fragmentation μ φ) (feed : Feed φ) (ms : List μ) (fate : Fate) : Feed φ :=
  ⟨feed.sent + 1, ms.foldl F.next feed.pending, fate⟩

/-- The record of a channel when the receiver has accepted a frame and starts on its
    messages. -/
def Feed.accept (feed : Feed φ) : Feed φ := ⟨feed.sent + 1, feed.pending, .accepted⟩

/-- The number of the next frame, as it is on the wire. -/
def Feed.number (feed : Feed φ) : UInt32 := UInt32.ofNat feed.sent

def step (R : Receiver σ χ η μ ω ι) (F : Fragmentation μ φ) :
    Step (σ × (χ → Feed φ)) (Action χ η μ ι) (List φ × μ × ω)
  | (s, feeds), .other i => ((R.other s i).1.map (·, feeds), [])
  | (s, feeds), .frame c _ ms false =>
    (some (s, update feeds c ((feeds c).miss F ms .lost)), [])
  | (s, feeds), .frame c h ms true =>
    match R.frame s c (feeds c).number h with
    | (false, s') => (some (s', update feeds c ((feeds c).miss F ms .refused)), [])
    | (true, s') =>
      run (messageStep R F c (feeds c).number h) (s', update feeds c (feeds c).accept) ms

theorem step_other (R : Receiver σ χ η μ ω ι) (F : Fragmentation μ φ) (s : σ)
    (feeds : χ → Feed φ) (i : ι) :
    (step R F (s, feeds) (.other i)).1.map Prod.fst = (R.other s i).1 := by
  simp [step, Function.comp_def]

theorem step_lost (R : Receiver σ χ η μ ω ι) (F : Fragmentation μ φ) (s : σ)
    (feeds : χ → Feed φ) (c : χ) (h : η) (ms : List μ) :
    (step R F (s, feeds) (.frame c h ms false)).1.map Prod.fst = some s := rfl

/-- What the receiver does with a frame: its decision, then its own run over the messages. -/
def Receiver.receive (R : Receiver σ χ η μ ω ι) (s : σ) (c : χ) (n : UInt32) (h : η)
    (ms : List μ) : Option σ × List ω :=
  match R.frame s c n h with
  | (false, s') => (some s', [])
  | (true, s') => run (R.message c n h) s' ms

/-- Forgetting the sender's record, a delivered frame is what the receiver makes of it. -/
theorem step_received (R : Receiver σ χ η μ ω ι) (F : Fragmentation μ φ) (s : σ)
    (feeds : χ → Feed φ) (c : χ) (h : η) (ms : List μ) :
    ((step R F (s, feeds) (.frame c h ms true)).1.map Prod.fst,
      (step R F (s, feeds) (.frame c h ms true)).2.map (·.2.2)) =
    R.receive s c (feeds c).number h ms := by
  rcases hf : R.frame s c (feeds c).number h with ⟨_ | _, s'⟩
  · simp [step, Receiver.receive, hf]
  · simp only [step, Receiver.receive, hf]
    exact run_observe _ _ _ s' _ ms

/-! ## The sender's part -/

/-- The unfinished units one action later. -/
def Fragmentation.after (F : Fragmentation μ φ) (pending : χ → List φ) :
    Action χ η μ ι → χ → List φ
  | .frame c _ ms _ => update pending c (ms.foldl F.next (pending c))
  | .other _ => pending

/-- The sender keeps to the format: in every frame, lost or not, each message may follow. -/
def Fragmentation.Sends (F : Fragmentation μ φ) : (χ → List φ) → List (Action χ η μ ι) → Prop
  | _, [] => True
  | pending, .other _ :: actions => F.Sends pending actions
  | pending, .frame c _ ms _ :: actions =>
    F.ContinuesAll (pending c) ms ∧
      F.Sends (update pending c (ms.foldl F.next (pending c))) actions

/-- The sender keeps to the format in the next action. -/
def WellFormed (F : Fragmentation μ φ) : σ × (χ → Feed φ) → Action χ η μ ι → Prop
  | (_, feeds), .frame c _ ms _ => F.ContinuesAll (feeds c).pending ms
  | _, .other _ => True

theorem run_messageStep_pending {R : Receiver σ χ η μ ω ι} {F : Fragmentation μ φ} {c : χ}
    {n : UInt32} {h : η} {ms : List μ} {s s' : σ × (χ → Feed φ)}
    (hs : (run (messageStep R F c n h) s ms).1 = some s') :
    (fun c' => (s'.2 c').pending) =
      update (fun c' => (s.2 c').pending) c (ms.foldl F.next (s.2 c).pending) := by
  induction ms generalizing s with
  | nil =>
    obtain rfl := Option.some.inj hs
    exact (update_eq_self c _).symm
  | cons m ms ih =>
    cases ht : (R.message c n h s.1 m).1 with
    | none =>
      rw [run_cons_none ms (messageStep_none F ht)] at hs
      cases hs
    | some t =>
      rw [run_cons_some ms (messageStep_some F ht)] at hs
      rw [ih hs]
      funext c'
      by_cases hc : c' = c
      · subst hc
        simp [Feed.advance]
      · simp [hc]

/-- What is unfinished depends on the sender alone. -/
theorem step_pending {R : Receiver σ χ η μ ω ι} {F : Fragmentation μ φ}
    {s s' : σ × (χ → Feed φ)} {a : Action χ η μ ι} (hs : (step R F s a).1 = some s') :
    (fun c => (s'.2 c).pending) = F.after (fun c => (s.2 c).pending) a := by
  obtain ⟨s, feeds⟩ := s
  -- a frame that is not handled only moves the record on
  have hmiss : ∀ (t : σ) c ms fate,
      (fun c' => ((t, update feeds c ((feeds c).miss F ms fate)).2 c').pending) =
        update (fun c' => (feeds c').pending) c (ms.foldl F.next (feeds c).pending) := by
    intro t c ms fate
    funext c'
    by_cases hc : c' = c
    · subst hc
      simp [Feed.miss]
    · simp [hc]
  cases a with
  | other i =>
    simp only [step, Option.map_eq_some_iff] at hs
    obtain ⟨t, -, rfl⟩ := hs
    rfl
  | frame c h ms received =>
    cases received with
    | false =>
      obtain rfl := Option.some.inj hs
      exact hmiss s c ms .lost
    | true =>
      rcases hf : R.frame s c (feeds c).number h with ⟨_ | _, t⟩
      · simp only [step, hf] at hs
        obtain rfl := Option.some.inj hs
        exact hmiss t c ms .refused
      · simp only [step, hf] at hs
        rw [run_messageStep_pending hs]
        funext c'
        by_cases hc : c' = c
        · subst hc
          simp [Fragmentation.after, Feed.accept]
        · simp [Fragmentation.after, hc]

/-- Along a run, a sender that keeps to the format keeps to it in every action. -/
theorem guarded_wellFormed {R : Receiver σ χ η μ ω ι} {F : Fragmentation μ φ}
    {s : σ × (χ → Feed φ)} {actions : List (Action χ η μ ι)}
    (h : F.Sends (fun c => (s.2 c).pending) actions) :
    Guarded (step R F) (WellFormed F) s actions := by
  induction actions generalizing s with
  | nil => trivial
  | cons a actions ih =>
    cases a with
    | other i =>
      refine ⟨trivial, fun s' hs => ih ?_⟩
      rw [step_pending hs]
      exact h
    | frame c hd ms received =>
      refine ⟨h.1, fun s' hs => ih ?_⟩
      rw [step_pending hs]
      exact h.2

/-! ## Guards -/

/-- Nothing that a pending fragment of a channel in step depends on has changed. -/
def Settled (stays : σ → σ → φ → Prop) (s s' : σ) (feeds : χ → Feed φ) : Prop :=
  ∀ c, (feeds c).fate = .accepted → ∀ f ∈ (feeds c).pending, stays s s' f

omit [DecidableEq χ] in
/-- Where all units but those of one channel are finished, only that channel matters. -/
theorem settled_of_single {stays : σ → σ → φ → Prop} {s s' : σ} {feeds : χ → Feed φ} (c : χ)
    (hother : ∀ c', c' ≠ c → (feeds c').pending = [])
    (h : ∀ f ∈ (feeds c).pending, stays s s' f) : Settled stays s s' feeds := by
  intro c' _ f hf
  by_cases hc : c' = c
  · subst hc
    exact h f hf
  · rw [hother c' hc] at hf
    cases hf

/-- The steps under which accumulation stays right. A frame accepted although the frame
    before it was not resumes the channel in a state `resync` allows; and no message and no
    other input changes what a pending fragment depends on. -/
def Admissible (R : Receiver σ χ η μ ω ι) (F : Fragmentation μ φ) (stays : σ → σ → φ → Prop)
    (resync : σ → χ → List φ → Prop) : σ × (χ → Feed φ) → Action χ η μ ι → Prop
  | (s, feeds), .other i => ∀ s', (R.other s i).1 = some s' → Settled stays s s' feeds
  | _, .frame _ _ _ false => True
  | (s, feeds), .frame c h ms true =>
    ∀ s', R.frame s c (feeds c).number h = (true, s') →
      ((feeds c).fate ≠ .accepted → resync s' c (feeds c).pending) ∧
        Guarded (messageStep R F c (feeds c).number h)
          (fun t m => ∀ t', (messageStep R F c (feeds c).number h t m).1 = some t' →
            Settled stays t.1 t'.1 t'.2)
          (s', update feeds c (feeds c).accept) ms

/-! ## The rule for reassembly -/

/-- What is to be shown of a receiver whose accumulator on channel `c` is `aligned` with
    the fragments pending there, for its outputs to be `good`. -/
structure Alignment (R : Receiver σ χ η μ ω ι) (F : Fragmentation μ φ) (stays : σ → σ → φ → Prop)
    (resync : σ → χ → List φ → Prop) (aligned : σ → χ → List φ → Prop)
    (good : List φ → μ → ω → Prop) : Prop where
  /-- Accepting a frame keeps the channel's accumulator. -/
  frame_self : ∀ {s s' c n h p}, R.frame s c n h = (true, s') → aligned s c p → aligned s' c p
  /-- A frame touches no other channel. -/
  frame_other : ∀ {s s' c c' n h b p}, R.frame s c n h = (b, s') → c' ≠ c → aligned s c' p →
    aligned s' c' p
  /-- Where `resync` allows a channel to resume, it is aligned. -/
  resync : ∀ {s c p}, resync s c p → aligned s c p
  /-- One message keeps its channel aligned … -/
  message_self : ∀ {s s' c n h p m}, aligned s c p → F.Continues p m →
    (R.message c n h s m).1 = some s' → (∀ f ∈ F.next p m, stays s s' f) →
    aligned s' c (F.next p m)
  /-- … and every other one … -/
  message_other : ∀ {s s' c c' n h p m}, aligned s c' p → c' ≠ c →
    (R.message c n h s m).1 = some s' → (∀ f ∈ p, stays s s' f) → aligned s' c' p
  /-- … and its outputs are good. -/
  message_good : ∀ {s c n h p m o}, aligned s c p → F.Continues p m →
    o ∈ (R.message c n h s m).2 → good p m o
  /-- Other inputs keep every channel aligned. -/
  other : ∀ {s s' i c p}, aligned s c p → (R.other s i).1 = some s' →
    (∀ f ∈ p, stays s s' f) → aligned s' c p

section Rule

variable {R : Receiver σ χ η μ ω ι} {F : Fragmentation μ φ} {stays : σ → σ → φ → Prop}
  {resync : σ → χ → List φ → Prop} {aligned : σ → χ → List φ → Prop}
  {good : List φ → μ → ω → Prop}

/-- Every channel in step is aligned. -/
def InStep (aligned : σ → χ → List φ → Prop) (s : σ × (χ → Feed φ)) : Prop :=
  ∀ c, (s.2 c).fate = .accepted → aligned s.1 c (s.2 c).pending

/-- Changing the record of a channel that is not in step leaves only the others to check. -/
theorem inStep_update {s : σ} {feeds : χ → Feed φ} {c : χ} {feed : Feed φ}
    (h : ∀ c', c' ≠ c → (feeds c').fate = .accepted → aligned s c' (feeds c').pending)
    (hf : feed.fate ≠ .accepted) : InStep aligned (s, update feeds c feed) := by
  intro c' hacc
  by_cases hc : c' = c
  · subst hc
    simp only [update_self] at hacc
    exact absurd hacc hf
  · simp only [ne_eq, hc, not_false_eq_true, update_of_ne] at hacc ⊢
    exact h c' hc hacc

/-- The step lemma for one message of an accepted frame. -/
theorem messageStep_sound (A : Alignment R F stays resync aligned good) {c : χ} {n : UInt32}
    {h : η} {ms : List μ} {s : σ × (χ → Feed φ)} (hin : InStep aligned s)
    (hacc : (s.2 c).fate = .accepted) (hms : F.ContinuesAll (s.2 c).pending ms)
    (hg : Guarded (messageStep R F c n h) (fun t m => ∀ t',
      (messageStep R F c n h t m).1 = some t' → Settled stays t.1 t'.1 t'.2) s ms) :
    (∀ s', (run (messageStep R F c n h) s ms).1 = some s' → InStep aligned s') ∧
      ∀ o ∈ (run (messageStep R F c n h) s ms).2, good o.1 o.2.1 o.2.2 := by
  induction ms generalizing s with
  | nil =>
    refine ⟨?_, by simp⟩
    intro s' hs
    simp only [run_nil, Option.some.injEq] at hs
    exact hs ▸ hin
  | cons m ms ih =>
    obtain ⟨hm, hrest⟩ := hms
    have hgood : ∀ o ∈ (messageStep R F c n h s m).2, good o.1 o.2.1 o.2.2 := by
      intro o ho
      obtain ⟨h1, h2, h3⟩ := mem_observe ho
      rw [h1, h2]
      exact A.message_good (hin c hacc) hm h3
    cases hs : (R.message c n h s.1 m).1 with
    | none =>
      rw [run_cons_none ms (messageStep_none F hs)]
      exact ⟨fun s' h' => by simp at h', hgood⟩
    | some t =>
      have hn := messageStep_some (F := F) hs
      have hset := hg.1 _ hn
      have hself : ∀ f ∈ F.next (s.2 c).pending m, stays s.1 t f := by
        intro f hf
        exact hset c (by simpa [Feed.advance] using hacc) f (by simpa [Feed.advance] using hf)
      -- the channel of the frame moves on with the message, the others stand still
      have hin' : InStep aligned (t, update s.2 c ((s.2 c).advance F m)) := by
        intro c' hc'
        by_cases hc : c' = c
        · subst hc
          simpa [Feed.advance] using A.message_self (hin c' hacc) hm hs hself
        · simp only [ne_eq, hc, not_false_eq_true, update_of_ne] at hc' ⊢
          apply A.message_other (hin c' hc') hc hs
          intro f hf
          exact hset c' (by simpa [hc] using hc') f (by simpa [hc] using hf)
      obtain ⟨h1, h2⟩ := ih hin' (by simpa [Feed.advance] using hacc)
        (by simpa [Feed.advance] using hrest) (hg.2 _ hn)
      rw [run_cons_some ms hn]
      refine ⟨h1, ?_⟩
      intro o ho
      rcases List.mem_append.mp ho with h' | h'
      · exact hgood o h'
      · exact h2 o h'

/-- **The rule for reassembly.** In a run whose sender keeps to the format and whose steps
    are admissible, every output for a message is good for the fragments sent before it. -/
theorem sound (A : Alignment R F stays resync aligned good) {s : σ × (χ → Feed φ)}
    {actions : List (Action χ η μ ι)} (hin : InStep aligned s)
    (hsends : F.Sends (fun c => (s.2 c).pending) actions)
    (hadm : Guarded (step R F) (Admissible R F stays resync) s actions) :
    ∀ o ∈ (run (step R F) s actions).2, good o.1 o.2.1 o.2.2 := by
  refine (run_sound (I := InStep aligned) (P := fun o => good o.1 o.2.1 o.2.2)
    ?_ hin ((guarded_wellFormed hsends).and hadm)).2
  intro s a hs ha
  obtain ⟨s, feeds⟩ := s
  obtain ⟨hwf, hadm⟩ := ha
  cases a with
  | other i =>
    refine ⟨?_, by simp [step]⟩
    intro s' hs'
    simp only [step, Option.map_eq_some_iff] at hs'
    obtain ⟨t, ht, rfl⟩ := hs'
    exact fun c hc => A.other (hs c hc) ht fun f hf => hadm t ht c hc f hf
  | frame c h ms received =>
    cases received with
    | false =>
      refine ⟨?_, by simp [step]⟩
      intro s' hs'
      simp only [step, Option.some.injEq] at hs'
      subst hs'
      exact inStep_update (fun c' _ hc' => hs c' hc') (by simp [Feed.miss])
    | true =>
      rcases hf : R.frame s c (feeds c).number h with ⟨_ | _, s'⟩
      · refine ⟨?_, by simp [step, hf]⟩
        intro s'' hs'
        simp only [step, hf, Option.some.injEq] at hs'
        subst hs'
        exact inStep_update (fun c' hc hc' => A.frame_other hf hc (hs c' hc'))
          (by simp [Feed.miss])
      · obtain ⟨hres, hmsgs⟩ := hadm s' hf
        simp only [step, hf]
        refine messageStep_sound A ?_ (by simp [Feed.accept])
          (by simpa [Feed.accept, WellFormed] using hwf) hmsgs
        intro c' hc'
        by_cases hc : c' = c
        · subst hc
          simp only [update_self, Feed.accept] at hc' ⊢
          by_cases hacc : (feeds c').fate = .accepted
          · exact A.frame_self hf (hs c' hacc)
          · exact A.resync (hres hacc)
        · simp only [ne_eq, hc, not_false_eq_true, update_of_ne] at hc' ⊢
          exact A.frame_other hf hc (hs c' hc')

omit [DecidableEq χ] in
/-- A system in which nothing has been received yet is in step. -/
theorem inStep_start (s : σ) (first : χ → ℕ) :
    InStep aligned (s, fun c => Feed.start (first c)) := by
  intro c hc
  simp [Feed.start] at hc

end Rule

end LossyFeed
