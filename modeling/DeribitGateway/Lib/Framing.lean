import DeribitGateway.Lib.Transducer

/-!
# Framing — messages in a stream of bytes

A connection receives a stream in pieces. After each piece it goes over what it has not taken
off the stream yet, message by message, and at the end takes off what it has gone over. A
message can close the connection: nothing is received after that, but what has been received
is gone over to its end.

`reads_stream` says what is handled, however the stream is cut; `reads_independent_iff` says
when it does not depend on how the stream is cut.
-/

namespace Framing

open Transducer

variable {M β σ ω : Type*}

/-- A reader finds the first message of what starts with a complete one, and its length. -/
structure Reader (M β : Type*) where
  encode : M → List β
  first : List β → Option (M × ℕ)
  encode_ne_nil : ∀ m, encode m ≠ []
  first_encode : ∀ m rest, first (encode m ++ rest) = some (m, (encode m).length)
  first_none : ∀ buffer, (∀ m, ¬encode m <+: buffer) → first buffer = none

/-- A connection: what has been received and not been taken off, and what has been taken off. -/
structure Connection (σ β ω : Type*) where
  state : Option σ
  buffer : List β := []
  closed : Bool := false
  outputs : List ω := []
  drained : ℕ := 0

namespace Reader

variable (R : Reader M β)

def stream (ms : List M) : List β := ms.flatMap R.encode

@[simp] theorem stream_nil : R.stream [] = [] := rfl

@[simp] theorem stream_cons (m : M) (ms : List M) :
    R.stream (m :: ms) = R.encode m ++ R.stream ms := rfl

@[simp] theorem stream_append (ms ms' : List M) :
    R.stream (ms ++ ms') = R.stream ms ++ R.stream ms' := List.flatMap_append

theorem first_nil : R.first [] = none :=
  R.first_none [] fun m h => R.encode_ne_nil m (List.prefix_nil.mp h)

/-- No message starts another one. -/
theorem first_partial {m : M} {front back : List β} (h : R.encode m = front ++ back)
    (hback : back ≠ []) : R.first front = none := by
  apply R.first_none
  rintro m' ⟨rest, rfl⟩
  have hm := R.first_encode m []
  have hm' := R.first_encode m' (rest ++ back)
  rw [List.append_nil] at hm
  rw [← List.append_assoc, ← h, hm] at hm'
  have hlength : (R.encode m).length = (R.encode m').length :=
    congrArg Prod.snd (Option.some.inj hm')
  rw [h, List.length_append, List.length_append] at hlength
  exact hback (List.length_eq_zero_iff.mp (by omega))

/-- What has been received of a stream are messages and the start of another one. -/
theorem exists_messages {ms : List M} {received rest : List β}
    (h : received ++ rest = R.stream ms) :
    ∃ front back part, ms = front ++ back ∧ received = R.stream front ++ part ∧
      R.first part = none ∧ part ++ rest = R.stream back := by
  induction ms generalizing received with
  | nil =>
    obtain ⟨rfl, rfl⟩ := List.append_eq_nil_iff.mp h
    exact ⟨[], [], [], rfl, rfl, R.first_nil, rfl⟩
  | cons m ms ih =>
    have hwhole : ∀ received' : List β, received = R.encode m ++ received' →
        received' ++ rest = R.stream ms →
        ∃ front back part, m :: ms = front ++ back ∧ received = R.stream front ++ part ∧
          R.first part = none ∧ part ++ rest = R.stream back := by
      rintro received' rfl hrest
      obtain ⟨front, back, part, rfl, rfl, hpart, hback⟩ := ih hrest
      exact ⟨m :: front, back, part, rfl, by simp, hpart, hback⟩
    rcases List.append_eq_append_iff.mp h with ⟨missing, hm, hrest⟩ | ⟨received', hm, hrest⟩
    · by_cases hmissing : missing = []
      · subst hmissing
        rw [List.append_nil] at hm
        exact hwhole [] (by rw [hm, List.append_nil]) hrest
      · exact ⟨[], m :: ms, received, rfl, rfl, R.first_partial hm hmissing, h⟩
    · exact hwhole received' hm hrest.symm

/-- A reader of finitely many messages, none of which starts another one. -/
def ofCode [DecidableEq β] (code : M → List β) (all : List M) (hall : ∀ m, m ∈ all)
    (hne : ∀ m, code m ≠ []) (hfree : ∀ m m', code m <+: code m' → m = m') : Reader M β where
  encode := code
  first buffer := (all.find? fun m => code m <+: buffer).map fun m => (m, (code m).length)
  encode_ne_nil := hne
  first_encode m rest := by
    have hsome : (all.find? fun m' => code m' <+: code m ++ rest).isSome := by
      rw [List.find?_isSome]
      exact ⟨m, hall m, by simp⟩
    obtain ⟨m', hm'⟩ := Option.isSome_iff_exists.mp hsome
    have hprefix : code m' <+: code m ++ rest := by simpa using List.find?_some hm'
    obtain rfl : m' = m := by
      rcases List.prefix_or_prefix_of_prefix hprefix (List.prefix_append (code m) rest) with h | h
      · exact hfree m' m h
      · exact (hfree m m' h).symm
    rw [hm']
    rfl
  first_none buffer h := by
    rw [List.find?_eq_none.mpr fun m _ => by simpa using h m]
    rfl

/-! ## Reading -/

/-- Go over the buffer; `none`: the program has ended. With the outputs, how much of the buffer
    has been gone over. -/
def loop (step : Step σ M ω) (s : σ) (buffer : List β) : Option σ × List ω × ℕ :=
  if _ : buffer = [] then (some s, [], 0)
  else
    match R.first buffer with
    | none => (some s, [], 0)
    | some (m, bytes) =>
      match step s m with
      | (none, os) => (none, os, 0)
      | (some s', os) =>
        if _ : bytes = 0 then (some s', os, 0)
        else
          let r := loop step s' (buffer.drop bytes)
          (r.1, os ++ r.2.1, bytes + r.2.2)
termination_by buffer.length
decreasing_by
  have hlength : 0 < buffer.length := List.length_pos_iff.mpr ‹¬buffer = []›
  rw [List.length_drop]
  omega

/-- Nothing is received once the connection is closed or the program has ended. -/
def read (closes : ω → Bool) (step : Step σ M ω) (c : Connection σ β ω) (chunk : List β) :
    Connection σ β ω :=
  match c.state with
  | none => c
  | some s =>
    if c.closed then c
    else
      let buffer := c.buffer ++ chunk
      let r := R.loop step s buffer
      match r.1 with
      | none => { c with state := none, buffer, outputs := c.outputs ++ r.2.1 }
      | some s' =>
        { state := some s'
          buffer := buffer.drop r.2.2
          closed := r.2.1.any closes
          outputs := c.outputs ++ r.2.1
          drained := c.drained + r.2.2 }

def reads (closes : ω → Bool) (step : Step σ M ω) (c : Connection σ β ω)
    (chunks : List (List β)) : Connection σ β ω :=
  chunks.foldl (R.read closes step) c

/-! ## A stream -/

variable {R} (closes : ω → Bool) (step : Step σ M ω)

theorem loop_part {part : List β} (h : R.first part = none) (s : σ) :
    R.loop step s part = (some s, [], 0) := by
  unfold loop
  split_ifs
  · rfl
  · rw [h]

/-- One round. -/
theorem loop_message (m : M) (rest : List β) (s : σ) :
    R.loop step s (R.encode m ++ rest) =
      match step s m with
      | (none, os) => (none, os, 0)
      | (some s', os) => ((R.loop step s' rest).1, os ++ (R.loop step s' rest).2.1,
          (R.encode m).length + (R.loop step s' rest).2.2) := by
  have hbuffer : R.encode m ++ rest ≠ [] := fun h =>
    R.encode_ne_nil m (List.append_eq_nil_iff.mp h).1
  have hbytes : (R.encode m).length ≠ 0 := fun h =>
    R.encode_ne_nil m (List.length_eq_zero_iff.mp h)
  rw [loop, dif_neg hbuffer, R.first_encode]
  dsimp only
  rcases step s m with ⟨_ | s', os⟩
  · rfl
  · dsimp only
    rw [dif_neg hbytes, List.drop_left]

/-- **The messages of the buffer are handled in their order**, and no part of another one. -/
theorem loop_stream {part : List β} (hpart : R.first part = none) (ms : List M) (s : σ) :
    (R.loop step s (R.stream ms ++ part)).1 = (run step s ms).1 ∧
    (R.loop step s (R.stream ms ++ part)).2.1 = (run step s ms).2 ∧
    ((run step s ms).1.isSome →
      (R.loop step s (R.stream ms ++ part)).2.2 = (R.stream ms).length) := by
  induction ms generalizing s with
  | nil =>
    rw [stream_nil, List.nil_append, loop_part step hpart]
    exact ⟨rfl, rfl, fun _ => rfl⟩
  | cons m ms ih =>
    rw [stream_cons, List.append_assoc, loop_message]
    rcases hs : step s m with ⟨_ | s', os⟩
    · rw [run_cons_none ms (congrArg Prod.fst hs), hs]
      exact ⟨rfl, rfl, fun h => absurd h (by simp)⟩
    · rw [run_cons_some ms (congrArg Prod.fst hs), hs]
      obtain ⟨hstate, houtputs, htotal⟩ := ih s'
      refine ⟨hstate, congrArg (os ++ ·) houtputs, fun h => ?_⟩
      rw [List.length_append]
      exact congrArg _ (htotal h)

/-- Nothing happens behind the end. -/
theorem reads_done {c : Connection σ β ω} (h : c.state = none ∨ c.closed = true)
    (chunks : List (List β)) : R.reads closes step c chunks = c := by
  induction chunks with
  | nil => rfl
  | cons chunk chunks ih =>
    have hread : R.read closes step c chunk = c := by
      unfold read
      rcases hs : c.state with _ | s
      · rfl
      · exact if_pos (h.resolve_left (by rw [hs]; simp))
    rw [reads, List.foldl_cons, hread]
    exact ih

/-- One piece, with which some messages are complete. -/
theorem read_messages {c : Connection σ β ω} {s : σ} (hs : c.state = some s)
    (hopen : c.closed = false) {chunk part : List β} {ms : List M} (hpart : R.first part = none)
    (h : c.buffer ++ chunk = R.stream ms ++ part) :
    (∃ s', (run step s ms).1 = some s' ∧ R.read closes step c chunk =
      { state := some s'
        buffer := part
        closed := (run step s ms).2.any closes
        outputs := c.outputs ++ (run step s ms).2
        drained := c.drained + (R.stream ms).length }) ∨
    ((run step s ms).1 = none ∧ (R.read closes step c chunk).state = none ∧
      (R.read closes step c chunk).outputs = c.outputs ++ (run step s ms).2) := by
  obtain ⟨hstate, houtputs, htotal⟩ := loop_stream step hpart ms s
  have hread : R.read closes step c chunk =
      match (R.loop step s (R.stream ms ++ part)).1 with
      | none => { c with
          state := none
          buffer := R.stream ms ++ part
          outputs := c.outputs ++ (R.loop step s (R.stream ms ++ part)).2.1 }
      | some s' =>
        { state := some s'
          buffer := (R.stream ms ++ part).drop (R.loop step s (R.stream ms ++ part)).2.2
          closed := (R.loop step s (R.stream ms ++ part)).2.1.any closes
          outputs := c.outputs ++ (R.loop step s (R.stream ms ++ part)).2.1
          drained := c.drained + (R.loop step s (R.stream ms ++ part)).2.2 } := by
    unfold read
    rw [hs, hopen, h]
    rfl
  rw [hread, houtputs, hstate]
  cases hrun : (run step s ms).1 with
  | none => exact .inr ⟨rfl, rfl, rfl⟩
  | some s' =>
    have hdrained := htotal (by rw [hrun]; rfl)
    rw [hdrained, List.drop_left]
    exact .inl ⟨s', rfl, rfl⟩

/-- **However the stream is cut**, the messages are handled in their order, as far as there is
    one that closes the connection at least; while the program goes on, what is taken off the
    stream is what has been handled. -/
theorem reads_stream {c : Connection σ β ω} {s : σ} (hs : c.state = some s)
    (hopen : c.closed = false) (hpart : R.first c.buffer = none) {ms : List M}
    {chunks : List (List β)} (h : c.buffer ++ chunks.flatten = R.stream ms) :
    ∃ front back, ms = front ++ back ∧
      (R.reads closes step c chunks).state = (run step s front).1 ∧
      (R.reads closes step c chunks).outputs = c.outputs ++ (run step s front).2 ∧
      ((run step s front).1.isSome →
        (R.reads closes step c chunks).drained = c.drained + (R.stream front).length) ∧
      (back = [] ∨ (run step s front).2.any closes = true) := by
  induction chunks generalizing c s ms with
  | nil =>
    -- what is in the buffer starts no message, and nothing is to come
    obtain rfl : ms = [] := by
      cases ms with
      | nil => rfl
      | cons m ms =>
        rw [List.flatten_nil, List.append_nil] at h
        rw [h, stream_cons, R.first_encode] at hpart
        cases hpart
    exact ⟨[], [], rfl, hs, (List.append_nil _).symm, fun _ => rfl, .inl rfl⟩
  | cons chunk chunks ih =>
    rw [List.flatten_cons, ← List.append_assoc] at h
    obtain ⟨front, back, part, rfl, hreceived, hpart', hrest⟩ := R.exists_messages h
    have hreads : R.reads closes step c (chunk :: chunks) =
        R.reads closes step (R.read closes step c chunk) chunks := rfl
    rw [hreads]
    rcases read_messages closes step hs hopen hpart' hreceived with
      ⟨s', hrun, hread⟩ | ⟨hrun, hstate, houtputs⟩
    · -- a closed connection does not look at the pieces that come later
      by_cases hclosed : (run step s front).2.any closes = true
      · rw [reads_done closes step (.inr (by rw [hread]; exact hclosed)), hread]
        exact ⟨front, back, rfl, hrun.symm, rfl, fun _ => rfl, .inr hclosed⟩
      · have hopen' : (R.read closes step c chunk).closed = false := by
          rw [hread]
          exact Bool.eq_false_iff.mpr hclosed
        obtain ⟨front', back', rfl, hstate', houtputs', hdrained', hback'⟩ :=
          ih (s := s') (by rw [hread]) hopen' (by rw [hread]; exact hpart')
            (by rw [hread]; exact hrest)
        refine ⟨front ++ front', back', (List.append_assoc ..).symm, ?_⟩
        rw [run_append_some front' hrun]
        refine ⟨hstate', ?_, fun hsome => ?_, ?_⟩
        · rw [houtputs', hread, List.append_assoc]
        · rw [hdrained' hsome, hread, stream_append, List.length_append, Nat.add_assoc]
        · refine hback'.imp_right fun hany => ?_
          rw [List.any_append, hany, Bool.or_true]
    · -- the program has ended: a run over the rest would emit nothing either
      rw [reads_done closes step (.inl hstate)]
      refine ⟨front ++ back, [], (List.append_nil _).symm, ?_⟩
      rw [run_append_none back hrun]
      refine ⟨hstate.trans hrun.symm, houtputs, fun hsome => ?_, .inl rfl⟩
      rw [hrun] at hsome
      cases hsome

end Reader

/-! ## What is handled -/

/-- Each message with the outputs of its handler. -/
def watched (step : Step σ M ω) : Step σ M (M × List ω) := fun s m =>
  ((step s m).1, [(m, (step s m).2)])

/-- One of the outputs of the handler closes the connection. -/
def closing (closes : ω → Bool) (handled : M × List ω) : Bool := handled.2.any closes

/-- The messages that are handled when they come one by one, up to the end of the program. -/
def handled (step : Step σ M ω) (s : σ) (ms : List M) : List M :=
  (run (watched step) s ms).2.map Prod.fst

variable {step : Step σ M ω} {closes : ω → Bool} {s t : σ}

theorem run_watched (ms : List M) : (run (watched step) s ms).1 = (run step s ms).1 := by
  induction ms generalizing s with
  | nil => rfl
  | cons m ms ih =>
    cases hs : (step s m).1 with
    | none =>
      have hw : (watched step s m).1 = none := hs
      rw [run_cons_none ms hw, run_cons_none ms hs]
    | some t =>
      have hw : (watched step s m).1 = some t := hs
      rw [run_cons_some ms hw, run_cons_some ms hs]
      exact ih

theorem handled_cons (m : M) (ms : List M) :
    ∃ rest, handled step s (m :: ms) = m :: rest := by
  unfold handled
  cases hs : (step s m).1 with
  | none =>
    have hw : (watched step s m).1 = none := hs
    exact ⟨[], by rw [run_cons_none ms hw]; rfl⟩
  | some t =>
    have hw : (watched step s m).1 = some t := hs
    exact ⟨handled step t ms, by rw [run_cons_some ms hw]; rfl⟩

/-- While the program goes on, every message is handled. -/
theorem handled_append {front : List M} (back : List M) (h : (run step s front).1 = some t) :
    handled step s (front ++ back) = front ++ handled step t back := by
  induction front generalizing s with
  | nil =>
    obtain rfl := Option.some.inj h
    rfl
  | cons m front ih =>
    cases hs : (step s m).1 with
    | none =>
      rw [run_cons_none front hs] at h
      cases h
    | some u =>
      have hw : (watched step s m).1 = some u := hs
      rw [run_cons_some front hs] at h
      have hrest := ih h
      unfold handled at hrest ⊢
      rw [List.cons_append, run_cons_some _ hw, List.map_append, hrest]
      rfl

theorem handled_eq {ms : List M} (h : (run step s ms).1 = some t) : handled step s ms = ms := by
  have happend := handled_append [] h
  rwa [List.append_nil, show handled step t [] = [] from rfl, List.append_nil] at happend

/-- What has been handled has been handled in the state before it. -/
theorem mem_watched {ms : List M} {m : M} {os : List ω}
    (h : (m, os) ∈ (run (watched step) s ms).2) :
    ∃ front back, ms = front ++ m :: back ∧
      ∃ t, (run step s front).1 = some t ∧ os = (step t m).2 := by
  induction ms generalizing s with
  | nil => cases h
  | cons m' ms ih =>
    have hhead : (m, os) ∈ (watched step s m').2 → ∃ front back, m' :: ms = front ++ m :: back ∧
        ∃ t, (run step s front).1 = some t ∧ os = (step t m).2 := by
      intro h
      obtain ⟨rfl, rfl⟩ := Prod.mk.inj (List.mem_singleton.mp h)
      exact ⟨[], ms, rfl, s, rfl, rfl⟩
    cases hs : (step s m').1 with
    | none =>
      have hw : (watched step s m').1 = none := hs
      rw [run_cons_none ms hw] at h
      exact hhead h
    | some u =>
      have hw : (watched step s m').1 = some u := hs
      rw [run_cons_some ms hw] at h
      rcases List.mem_append.mp h with h | h
      · exact hhead h
      · obtain ⟨front, back, rfl, t, hrun, hos⟩ := ih h
        exact ⟨m' :: front, back, rfl, t, by rw [run_cons_some front hs]; exact hrun, hos⟩

/-- The messages that a connection has handled. -/
def Connection.messages (c : Connection σ β (M × List ω)) : List M := c.outputs.map Prod.fst

/-- A connection from its start. -/
def Reader.receive (R : Reader M β) (closes : ω → Bool) (step : Step σ M ω) (s : σ)
    (chunks : List (List β)) : Connection σ β (M × List ω) :=
  R.reads (closing closes) (watched step) { state := some s } chunks

variable {R : Reader M β}

/-- The handler of `m` closes the connection, and the program goes on. -/
def ClosesAt (closes : ω → Bool) (step : Step σ M ω) (s : σ) (front : List M) (m : M) : Prop :=
  ∃ t, (run step s front).1 = some t ∧ (step t m).1.isSome ∧ (step t m).2.any closes = true

variable (closes step s) in
/-- **What is handled of a stream**, however it is cut. -/
theorem receive_stream {ms : List M} {chunks : List (List β)}
    (h : chunks.flatten = R.stream ms) :
    ∃ front back, ms = front ++ back ∧
      (R.receive closes step s chunks).messages = handled step s front ∧
      ((R.receive closes step s chunks).state.isSome →
        (R.receive closes step s chunks).drained =
          (R.stream (R.receive closes step s chunks).messages).length) ∧
      (back = [] ∨ ∃ before m behind, front = before ++ m :: behind ∧
        ClosesAt closes step s before m) := by
  obtain ⟨front, back, hms, hstate, houtputs, hdrained, hback⟩ :=
    Reader.reads_stream (R := R) (closing closes) (watched step) (c := { state := some s })
      rfl rfl R.first_nil h
  rw [run_watched] at hstate hdrained
  have hmessages : (R.receive closes step s chunks).messages = handled step s front :=
    congrArg (List.map Prod.fst) (houtputs.trans (List.nil_append _))
  have hexact : (R.receive closes step s chunks).state.isSome →
      (R.receive closes step s chunks).drained =
        (R.stream (R.receive closes step s chunks).messages).length := by
    intro hsome
    obtain ⟨t, ht⟩ := Option.isSome_iff_exists.mp hsome
    have hrun : (run step s front).1 = some t := hstate.symm.trans ht
    rw [hmessages, handled_eq hrun]
    exact (hdrained (by rw [hrun]; rfl)).trans (Nat.zero_add _)
  rcases hback with rfl | hany
  · exact ⟨front, [], hms, hmessages, hexact, .inl rfl⟩
  · obtain ⟨⟨m, os⟩, hmem, hcloses⟩ := List.any_eq_true.mp hany
    obtain ⟨before, behind, rfl, t, hrun, rfl⟩ := mem_watched hmem
    cases hm : (step t m).1 with
    | some u =>
      refine ⟨_, back, hms, hmessages, hexact, .inr ⟨before, m, behind, rfl, t, hrun, ?_, hcloses⟩⟩
      rw [hm]
      rfl
    | none =>
      -- The program has ended with the message: what is behind it is not handled anyway.
      have hend : (run (watched step) s (before ++ m :: behind)).1 = none := by
        rw [run_watched, run_append_some _ hrun, run_cons_none _ hm]
      refine ⟨ms, [], (List.append_nil ms).symm, ?_, hexact, .inl rfl⟩
      rw [hmessages, hms]
      unfold handled
      rw [run_append_none back hend]

/-- All at once, everything is handled. -/
theorem receive_whole (ms : List M) :
    (R.receive closes step s [R.stream ms]).messages = handled step s ms := by
  have hbuffer : [] ++ R.stream ms = R.stream ms ++ [] := by simp
  rcases Reader.read_messages (closing closes) (watched step) (c := { state := some s })
    rfl rfl R.first_nil hbuffer with ⟨_, _, hread⟩ | ⟨_, _, houtputs⟩
  · exact congrArg (fun c => List.map Prod.fst c.outputs) hread
  · exact congrArg (List.map Prod.fst) (houtputs.trans (List.nil_append _))

/-- Cut behind a message that closes the connection, the stream ends there. -/
theorem receive_closed {ms : List M} (rest : List β) (hrun : (run step s ms).1 = some t)
    (hcloses : (run (watched step) s ms).2.any (closing closes) = true) :
    (R.receive closes step s [R.stream ms, rest]).messages = ms := by
  have hbuffer : [] ++ R.stream ms = R.stream ms ++ [] := by simp
  rcases Reader.read_messages (closing closes) (watched step) (c := { state := some s })
    rfl rfl R.first_nil hbuffer with ⟨_, _, hread⟩ | ⟨hnone, _, _⟩
  · have hdone := Reader.reads_done (R := R) (closing closes) (watched step)
      (.inr (show (R.read (closing closes) (watched step) { state := some s }
        (R.stream ms)).closed = true by rw [hread]; exact hcloses)) [rest]
    have hreceive : R.receive closes step s [R.stream ms, rest] =
        R.read (closing closes) (watched step) { state := some s } (R.stream ms) := hdone
    rw [hreceive, hread]
    exact handled_eq hrun
  · rw [run_watched, hrun] at hnone
    cases hnone

/-- **It does not matter how the stream is cut**, unless there is a message behind one that
    closes the connection. -/
theorem receive_independent_iff (ms : List M) :
    (∀ chunks chunks' : List (List β), chunks.flatten = R.stream ms →
      chunks'.flatten = R.stream ms → (R.receive closes step s chunks).messages =
        (R.receive closes step s chunks').messages) ↔
    ∀ front m back, ms = front ++ m :: back → ClosesAt closes step s front m → back = [] := by
  constructor
  · rintro h front m back rfl ⟨t, hfront, hsome, hcloses⟩
    obtain ⟨u, hm⟩ := Option.isSome_iff_exists.mp hsome
    cases back with
    | nil => rfl
    | cons m' back =>
      have hrun : (run step s (front ++ [m])).1 = some u := by
        rw [run_append_some [m] hfront, run_cons_some [] hm]
        rfl
      have hclosed : (run (watched step) s (front ++ [m])).2.any (closing closes) = true := by
        rw [run_append_some [m] ((run_watched front).trans hfront), List.any_append]
        have hw : (run (watched step) t [m]).2 = [(m, (step t m).2)] := by
          rw [run_cons_some [] (show (watched step t m).1 = some u from hm)]
          rfl
        rw [hw]
        simp [closing, hcloses]
      -- in one piece `m'` is handled, and cut behind `m` it is not
      have hcut := h [R.stream (front ++ m :: m' :: back)]
        [R.stream (front ++ [m]), R.stream (m' :: back)] (by simp) (by simp)
      have hms : front ++ m :: m' :: back = (front ++ [m]) ++ m' :: back := by simp
      obtain ⟨rest, hrest⟩ : ∃ rest, handled step u (m' :: back) = m' :: rest :=
        handled_cons m' back
      rw [receive_whole, receive_closed _ hrun hclosed, hms, handled_append _ hrun, hrest] at hcut
      simp at hcut
  · intro h
    have hall : ∀ chunks : List (List β), chunks.flatten = R.stream ms →
        (R.receive closes step s chunks).messages = handled step s ms := by
      intro chunks hchunks
      obtain ⟨front, back, rfl, hmessages, -, hback⟩ := receive_stream step closes s hchunks
      rw [hmessages]
      rcases hback with rfl | ⟨before, m, behind, rfl, hcloses⟩
      · rw [List.append_nil]
      · have hnil := h before m (behind ++ back) (by simp) hcloses
        rw [(List.append_eq_nil_iff.mp hnil).2, List.append_nil]
    intro chunks chunks' hchunks hchunks'
    rw [hall chunks hchunks, hall chunks' hchunks']

/-- What is read of the messages, by the pieces their stream comes in. -/
structure ReadsStream (R : Reader M β) (closes : ω → Bool) (step : Step σ M ω) (s : σ)
    (ms : List M) (reads : List (List β) → Connection σ β (M × List ω)) : Prop where
  /-- Messages are handled in their order, up to the last one, or up to one at or behind a
      message that closes the connection; what is drained are the messages handled. -/
  handled : ∀ chunks, chunks.flatten = R.stream ms → ∃ front back, ms = front ++ back ∧
    (reads chunks).messages = Framing.handled step s front ∧
    ((reads chunks).state.isSome →
      (reads chunks).drained = (R.stream (reads chunks).messages).length) ∧
    (back = [] ∨ ∃ before m behind, front = before ++ m :: behind ∧
      ClosesAt closes step s before m)
  /-- The pieces do not matter, unless there is a message behind one that closes the
      connection. -/
  independent_iff : (∀ chunks chunks', chunks.flatten = R.stream ms →
      chunks'.flatten = R.stream ms → (reads chunks).messages = (reads chunks').messages) ↔
    ∀ front m back, ms = front ++ m :: back → ClosesAt closes step s front m → back = []

theorem readsStream (R : Reader M β) (closes : ω → Bool) (step : Step σ M ω) (s : σ)
    (ms : List M) : ReadsStream R closes step s ms (R.receive closes step s) where
  handled _ h := receive_stream step closes s h
  independent_iff := receive_independent_iff ms

end Framing
