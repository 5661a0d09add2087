import DeribitGateway.Sbe.Decoding

/-!
# Malformed datagrams

How many bytes a message takes is what it says itself: the number of elements of its group and
the length of its name. Of the elements, those of a snapshot and of an instrument are visited
before, the others are not, and a name is not looked at. So the parser stays inside of a datagram
if and only if each message that it comes to is as long as it says (`dispatch_inside_iff`).
-/

namespace DeribitGateway

open Flyweight Transducer

namespace Sbe

section

variable (schema : Schema) (t : Template) (message : List UInt8)

/-! ## What a message says -/

/-- The length of an element of the group, which is not the one of the schema if the message is
    of another version. -/
def saidWidth : ℕ := natOf ((message.drop (schema.blockLength t)).take 2)

def saidCount : ℕ := natOf ((message.drop (schema.blockLength t + 2)).take 2)

/-- The length of the name, if it is there. -/
def saidLength (position : ℕ) : ℕ := natOf ((message.drop position).take schema.layout.dataHeader)

/-- Where the elements are, and what is behind them. -/
def opened : ℕ := schema.blockLength t + schema.layout.groupHeader

def visited : ℕ := opened schema t + saidCount schema t message * saidWidth schema t message

/-- The length of the message by what it says; `none` if what says it is not there, or is
    refused. -/
def saidBytes : Option ℕ :=
  match t with
  | .book | .comboLegs | .trades =>
    if opened schema t ≤ message.length then
      schema.encodedLength t (saidCount schema t message) 0
    else none
  | .snapshot =>
    if visited schema t message ≤ message.length then
      schema.encodedLength t (saidCount schema t message) 0
    else none
  | .instrument =>
    if schema.blockLength t + schema.layout.dataHeader ≤ message.length then
      schema.encodedLength t 0 (saidLength schema message (schema.blockLength t))
    else none
  | .instrumentV2 =>
    if visited schema t message + schema.layout.dataHeader ≤ message.length then
      schema.encodedLength t (saidCount schema t message)
        (saidLength schema message (visited schema t message))
    else none
  | .priceIndex | .rfq | .snapshotStart | .snapshotEnd | .ticker => schema.encodedLength t 0 0

/-! ## What is made of it -/

variable {schema t message} {value : View}

theorem wrap_eq_some (h : schema.wrap t message = some value) :
    value = ⟨message, schema.blockLength t, schema.blockLength t⟩ := by
  unfold Schema.wrap at h
  split_ifs at h
  exact (Option.some_inj.mp h).symm

theorem group_wrapped (h : schema.wrap t message = some value) :
    value.group schema.layout = if opened schema t ≤ message.length then
      some (⟨saidWidth schema t message, saidCount schema t message⟩,
        value.seek (opened schema t)) else none := by
  obtain rfl := wrap_eq_some h
  exact View.group_eq _

theorem countedLength_wrapped (h : schema.wrap t message = some value) :
    countedLength schema t value = if opened schema t ≤ message.length then
      schema.encodedLength t (saidCount schema t message) 0 else none := by
  unfold countedLength
  rw [group_wrapped h]
  split_ifs <;> rfl

theorem not_visited_of_not_opened (h : ¬opened schema t ≤ message.length) :
    ¬visited schema t message ≤ message.length :=
  fun hvisited => h ((Nat.le_add_right ..).trans hvisited)

/-- The elements are visited to the last, or one of them is not there. -/
theorem forEach_wrapped (h : schema.wrap t message = some value)
    (hopened : opened schema t ≤ message.length) :
    if visited schema t message ≤ message.length then
      ∃ elements, elements.length = saidCount schema t message ∧
        (value.seek (opened schema t)).forEach (saidWidth schema t message)
          (saidCount schema t message) = some (elements, value.seek (visited schema t message))
    else
      (value.seek (opened schema t)).forEach (saidWidth schema t message)
        (saidCount schema t message) = none := by
  obtain rfl := wrap_eq_some h
  exact View.forEach_eq (v := ⟨message, schema.blockLength t, opened schema t⟩) _ _ hopened

/-- **The computed length is what the message says**, whether it is there or not. -/
theorem computeLength_wrapped (h : schema.wrap t message = some value) :
    computeLength schema t value = saidBytes schema t message := by
  have hcounted := countedLength_wrapped h
  have hgroup := group_wrapped h
  have hrewind : value.rewind = value := by rw [wrap_eq_some h]; rfl
  have hbuffer : value.buffer = message := by rw [wrap_eq_some h]
  cases t with
  | book => exact hcounted
  | comboLegs => exact hcounted
  | trades => exact hcounted
  | instrument =>
    unfold computeLength saidBytes
    dsimp only
    rw [View.dataLength_eq, wrap_eq_some h]
    dsimp only
    split_ifs <;> rfl
  | instrumentV2 =>
    -- the elements are visited to find the name, by the length they say
    unfold computeLength saidBytes
    dsimp only
    rw [hrewind, hgroup]
    by_cases hopened : opened schema .instrumentV2 ≤ message.length
    · have hvisit := forEach_wrapped h hopened
      rw [if_pos hopened, Option.bind_some]
      dsimp only
      split_ifs at hvisit with hvisited
      · obtain ⟨elements, hcount, hvisit⟩ := hvisit
        rw [hvisit, Option.bind_some]
        dsimp only
        rw [hcount, View.dataLength_eq, View.seek_position, View.seek_buffer, hbuffer]
        split_ifs <;> rfl
      · rw [hvisit, if_neg (fun hname => hvisited ((Nat.le_add_right ..).trans hname))]
        rfl
    · rw [if_neg hopened, if_neg (fun hname =>
        not_visited_of_not_opened hopened ((Nat.le_add_right ..).trans hname))]
      rfl
  | snapshot =>
    -- the group is opened twice: for the number, and for the elements
    unfold computeLength saidBytes
    dsimp only
    rw [hgroup]
    by_cases hopened : opened schema .snapshot ≤ message.length
    · have hvisit := forEach_wrapped h hopened
      rw [if_pos hopened, Option.bind_some]
      dsimp only
      rw [View.rewind_seek, hrewind, hgroup, if_pos hopened, Option.bind_some]
      dsimp only
      split_ifs at hvisit with hvisited
      · obtain ⟨elements, -, hvisit⟩ := hvisit
        rw [hvisit, if_pos hvisited]
        rfl
      · rw [hvisit, if_neg hvisited]
        rfl
    · rw [if_neg hopened, if_neg (not_visited_of_not_opened hopened)]
      rfl
  | _ => rfl

/-! ## What is not there -/

variable (schema t message)

/-- Why a message is shorter than it says: of a group that is not visited, elements are not
    there; of one that is visited, they are shorter than those of the schema; a name is not all
    there; or the constructor has not looked whether the block is. -/
def FallsShort : Prop :=
  match t with
  | .book | .comboLegs | .trades =>
    message.length < opened schema t + saidCount schema t message * schema.groupLength t
  | .snapshot => saidWidth schema t message < schema.groupLength t
  | .instrument =>
    message.length < schema.blockLength t + schema.layout.dataHeader +
      saidLength schema message (schema.blockLength t)
  | .instrumentV2 =>
    saidWidth schema t message < schema.groupLength t ∨
      message.length < visited schema t message + schema.layout.dataHeader +
        saidLength schema message (visited schema t message)
  | .priceIndex | .rfq | .snapshotStart | .snapshotEnd | .ticker =>
    message.length < schema.blockLength t

variable {schema t message}

theorem eq_of_encodedLength {count length n : ℕ}
    (h : schema.encodedLength t count length = some n) :
    n = schema.blockLength t +
      (if t.hasGroup then schema.layout.groupHeader + count * schema.groupLength t else 0) +
      (if t.hasName then schema.layout.dataHeader + length else 0) := by
  unfold Schema.encodedLength at h
  by_cases hlimits : count ≤ schema.maxCount ∧ length ≤ schema.maxLength
  · rw [if_pos hlimits] at h
    exact (Option.some_inj.mp h).symm
  · rw [if_neg hlimits] at h
    cases h

/-- Elements that are visited, and are not shorter than those of the schema. -/
theorem le_visited (hwidth : ¬saidWidth schema t message < schema.groupLength t) :
    opened schema t + saidCount schema t message * schema.groupLength t ≤
      visited schema t message :=
  Nat.add_le_add_left (Nat.mul_le_mul_left _ (Nat.not_lt.mp hwidth)) _

/-- **The kinds of messages that are shorter than they say.** -/
theorem fallsShort_of_saidBytes {n : ℕ} (h : saidBytes schema t message = some n)
    (hshort : message.length < n) : FallsShort schema t message := by
  unfold saidBytes at h
  unfold FallsShort
  cases t with
  | book | comboLegs | trades =>
    simp only at h ⊢
    split_ifs at h
    have hn := eq_of_encodedLength h
    simp only [Template.hasGroup, Template.hasName, if_true, Bool.false_eq_true, if_false] at hn
    unfold opened
    omega
  | snapshot =>
    simp only at h ⊢
    split_ifs at h with hvisited
    have hn := eq_of_encodedLength h
    simp only [Template.hasGroup, Template.hasName, if_true, Bool.false_eq_true, if_false] at hn
    by_contra hwidth
    have hle := le_visited hwidth
    unfold opened at hle
    omega
  | instrument =>
    simp only at h ⊢
    split_ifs at h
    have hn := eq_of_encodedLength h
    simp only [Template.hasGroup, Template.hasName, if_true, Bool.false_eq_true, if_false] at hn
    omega
  | instrumentV2 =>
    simp only at h ⊢
    split_ifs at h with hvisited
    have hn := eq_of_encodedLength h
    simp only [Template.hasGroup, Template.hasName, if_true] at hn
    by_contra hall
    obtain ⟨hwidth, hname⟩ := not_or.mp hall
    have hle := le_visited hwidth
    unfold opened at hle
    omega
  | priceIndex | rfq | snapshotStart | snapshotEnd | ticker =>
    simp only at h ⊢
    have hn := eq_of_encodedLength h
    simp only [Template.hasGroup, Template.hasName, Bool.false_eq_true, if_false] at hn
    omega

end

/-! ## Datagrams that are as long as they say -/

section

variable {σ ω : Type} (schema : Schema)

/-- The next message, and its length by what it says. -/
def saidMessage (packet : List UInt8) : Option ((Template × View) × ℕ) :=
  (Template.ofId (natOf ((packet.drop 2).take 2))).bind fun t =>
    (schema.wrap t (packet.drop schema.headerLength)).bind fun value =>
      (saidBytes schema t (packet.drop schema.headerLength)).map fun bytes =>
        ((t, value), schema.headerLength + bytes)

/-- Each message is there as far as it says, up to one that is refused or ends the process. -/
inductive Intact (onMessage : Step σ (Template × View) ω) : σ → List UInt8 → Prop
  | done (s : σ) : Intact onMessage s []
  | unwrapped (s : σ) {packet : List UInt8}
      (hwraps : schema.wraps schema.headerLength packet.length = false) : Intact onMessage s packet
  | refused (s : σ) {packet : List UInt8} (hlength : schema.headerLength ≤ packet.length)
      (hsaid : saidMessage schema packet = none) : Intact onMessage s packet
  | ended {s : σ} {packet : List UInt8} {message : Template × View} {bytes : ℕ}
      (hlength : schema.headerLength ≤ packet.length)
      (hsaid : saidMessage schema packet = some (message, bytes))
      (hends : (onMessage s message).1 = none) : Intact onMessage s packet
  | message {s s' : σ} {packet : List UInt8} {message : Template × View} {bytes : ℕ}
      (hsaid : saidMessage schema packet = some (message, bytes))
      (hlength : bytes ≤ packet.length) (hgoes : (onMessage s message).1 = some s')
      (hrest : Intact onMessage s' (packet.drop bytes)) : Intact onMessage s packet

namespace Parser

variable {schema}

theorem nextMessage_eq (packet : List UInt8) :
    nextMessage schema packet = saidMessage schema packet := by
  unfold nextMessage saidMessage
  cases Template.ofId (natOf ((packet.drop 2).take 2)) with
  | none => rfl
  | some t =>
    rw [Option.bind_some, Option.bind_some]
    cases hvalue : schema.wrap t (packet.drop schema.headerLength) with
    | none => rfl
    | some value =>
      have hrewind : value.rewind = value := by rw [wrap_eq_some hvalue]; rfl
      rw [Option.bind_some, Option.bind_some, computeLength_wrapped hvalue, hrewind]

variable {onMessage : Step σ (Template × View) ω} {s : σ} {packet : List UInt8}

theorem ne_overrun_of_unwrapped (hwraps : schema.wraps schema.headerLength packet.length = false) :
    (loop schema onMessage s packet).1 ≠ .overrun := by
  rw [loop]
  split_ifs <;> simp

/-- One round: the message is not there as far as it says, or it is one of a later round. -/
theorem overrun_iff (hlength : schema.headerLength ≤ packet.length)
    (hwraps : schema.wraps schema.headerLength packet.length = true) :
    (loop schema onMessage s packet).1 = .overrun ↔
      ∃ message bytes s', saidMessage schema packet = some (message, bytes) ∧
        (onMessage s message).1 = some s' ∧ (packet.length < bytes ∨
          (loop schema onMessage s' (packet.drop bytes)).1 = .overrun) := by
  rw [loop_eq schema onMessage s hlength hwraps, nextMessage_eq]
  cases hsaid : saidMessage schema packet with
  | none => simp
  | some said =>
    obtain ⟨message, bytes⟩ := said
    rcases hgoes : onMessage s message with ⟨_ | s', os⟩
    · simp [hgoes]
    · by_cases hbytes : packet.length < bytes <;> simp [hgoes, hbytes]

theorem ne_overrun_of_intact (h : Intact schema onMessage s packet) :
    (loop schema onMessage s packet).1 ≠ .overrun := by
  induction h with
  | done s =>
    rw [loop]
    simp
  | unwrapped s hwraps => exact ne_overrun_of_unwrapped hwraps
  | @refused s packet hlength hsaid =>
    cases hwraps : schema.wraps schema.headerLength packet.length with
    | false => exact ne_overrun_of_unwrapped hwraps
    | true => simp [overrun_iff hlength hwraps, hsaid]
  | @ended s packet message bytes hlength hsaid hends =>
    cases hwraps : schema.wraps schema.headerLength packet.length with
    | false => exact ne_overrun_of_unwrapped hwraps
    | true => simp [overrun_iff hlength hwraps, hsaid, hends]
  | @message s s' packet message bytes hsaid hbytes hgoes _ ih =>
    have hlength : schema.headerLength ≤ packet.length :=
      (le_of_nextMessage schema ((nextMessage_eq packet).trans hsaid)).trans hbytes
    cases hwraps : schema.wraps schema.headerLength packet.length with
    | false => exact ne_overrun_of_unwrapped hwraps
    | true => simp [overrun_iff hlength hwraps, hsaid, hgoes, Nat.not_lt.mpr hbytes, ih]

/-- By induction on the packet: a round that goes on leaves a shorter one. -/
theorem intact_of_ne_overrun (h : (loop schema onMessage s packet).1 ≠ .overrun) :
    Intact schema onMessage s packet := by
  induction hn : packet.length using Nat.strong_induction_on generalizing s packet with
  | h n ih =>
    by_cases hempty : packet = []
    · exact hempty ▸ .done s
    cases hwraps : schema.wraps schema.headerLength packet.length with
    | false => exact .unwrapped s hwraps
    | true =>
      by_cases hlength : schema.headerLength ≤ packet.length
      · rw [Ne, overrun_iff hlength hwraps] at h
        cases hsaid : saidMessage schema packet with
        | none => exact .refused s hlength hsaid
        | some said =>
          obtain ⟨message, bytes⟩ := said
          cases hgoes : (onMessage s message).1 with
          | none => exact .ended hlength hsaid hgoes
          | some s' =>
            have hheader : schema.headerLength ≤ bytes :=
              le_of_nextMessage schema ((nextMessage_eq packet).trans hsaid)
            have hpos := schema.headerLength_pos
            have hbytes : bytes ≤ packet.length := Nat.not_lt.mp fun hlt =>
              h ⟨message, bytes, s', hsaid, hgoes, .inl hlt⟩
            have hshorter : (packet.drop bytes).length < n := by
              rw [List.length_drop]
              omega
            exact .message hsaid hbytes hgoes (ih _ hshorter (fun hover =>
              h ⟨message, bytes, s', hsaid, hgoes, .inr hover⟩) rfl)
      · -- the constructor has not looked at the length, but the subspan is taken
        refine absurd ?_ h
        rw [loop, if_neg hempty, hwraps, if_neg Bool.true_eq_false.mp,
          if_pos (Nat.lt_of_not_le hlength)]

/-- A message that does not reach as far as it says, with its header. -/
theorem fallsShort_of_saidMessage {t : Template} {value : View} {bytes : ℕ}
    (hlength : schema.headerLength ≤ packet.length)
    (h : saidMessage schema packet = some ((t, value), bytes)) (hshort : packet.length < bytes) :
    FallsShort schema t (packet.drop schema.headerLength) := by
  obtain ⟨t', -, h⟩ := Option.bind_eq_some_iff.mp h
  obtain ⟨value', -, h⟩ := Option.bind_eq_some_iff.mp h
  obtain ⟨n, hn, heq⟩ := Option.map_eq_some_iff.mp h
  obtain ⟨hmessage, rfl⟩ := Prod.mk.inj heq
  obtain ⟨rfl, -⟩ := Prod.mk.inj hmessage
  apply fallsShort_of_saidBytes hn
  rw [List.length_drop]
  omega

/-- **The parser stays inside of a datagram** if and only if its messages are as long as they
    say, and one that is not is of one of the kinds of `FallsShort`. The parser comes to an end
    in any case: each message takes its header at least. -/
theorem dispatch_inside_iff (onFrame : σ → Frame → Bool × σ)
    (onMessage : Frame → Step σ (Template × View) ω) (s : σ) {buffer : List UInt8}
    (hsize : Frame.size ≤ buffer.length) :
    (∀ packet message bytes, nextMessage schema packet = some (message, bytes) →
      schema.headerLength ≤ bytes) ∧
    ((dispatch schema onFrame onMessage s buffer).1 ≠ .overrun ↔
      ∀ s', onFrame s (Frame.parseHelper buffer) = (true, s') →
        Intact schema (onMessage (Frame.parseHelper buffer)) s' (buffer.drop Frame.size)) ∧
    ∀ packet t value bytes, schema.headerLength ≤ packet.length →
      saidMessage schema packet = some ((t, value), bytes) → packet.length < bytes →
        FallsShort schema t (packet.drop schema.headerLength) := by
  refine ⟨fun _ _ _ h => le_of_nextMessage schema h, ?_,
    fun _ _ _ _ => fallsShort_of_saidMessage⟩
  unfold dispatch
  rw [if_neg (Nat.not_lt.mpr hsize)]
  dsimp only
  rcases onFrame s (Frame.parseHelper buffer) with ⟨_ | _, s'⟩
  · simp
  · refine ⟨fun h s'' heq => ?_, fun h => ne_overrun_of_intact (h s' rfl)⟩
    obtain rfl := congrArg Prod.snd heq
    exact intact_of_ne_overrun h

end Parser

end

/-! ## Datagrams -/

/-- A frame, and the header and the block of a book that says it has so many changes. -/
def bookOf (count : ℕ) (changes : List UInt8) : List UInt8 :=
  Frame.encode ⟨57, 1, 7⟩ ++ (bytesOf 2 29 ++ bytesOf 2 Template.book.id ++ List.replicate 8 0 ++
    List.replicate 29 0 ++ tested.layout.encodeHeader 18 count ++ changes)

/-- Nothing is read of the message, as if its instrument were not known. -/
def ignoring : Step Unit (Template × View) Unit := fun _ _ => (some (), [])

/-- What the parser takes from it: the header, the block, the group and the changes. -/
theorem saidMessage_bookOf : ∀ count ∈ [1, 2],
    saidMessage tested ((bookOf count (List.replicate 18 0)).drop Frame.size) =
      some ((.book, ⟨(bookOf count (List.replicate 18 0)).drop 20, 29, 29⟩), 49 + count * 18) := by
  decide +kernel

theorem one_change_inside :
    (Parser.dispatch tested (fun _ _ => (true, ())) (fun _ => ignoring) ()
      (bookOf 1 (List.replicate 18 0))).1 ≠ .overrun := by
  refine (Parser.dispatch_inside_iff (fun _ _ => (true, ())) (fun _ => ignoring) ()
    (by decide +kernel)).2.1.mpr fun _ _ => ?_
  exact .message (saidMessage_bookOf 1 (by decide)) (by decide +kernel) rfl (.done ())

/-- A book that says it has two changes, and has one. -/
theorem two_changes_overrun :
    Frame.size ≤ (bookOf 2 (List.replicate 18 0)).length ∧
    (Parser.dispatch tested (fun _ _ => (true, ())) (fun _ => ignoring) ()
      (bookOf 2 (List.replicate 18 0))).1 = .overrun := by
  have hsize : Frame.size ≤ (bookOf 2 (List.replicate 18 0)).length := by decide +kernel
  refine ⟨hsize, ?_⟩
  unfold Parser.dispatch
  rw [if_neg (Nat.not_lt.mpr hsize)]
  dsimp only
  rw [Parser.overrun_iff (by decide +kernel) (by decide +kernel)]
  exact ⟨_, _, (), saidMessage_bookOf 2 (by decide), rfl, .inl (by decide +kernel)⟩

end Sbe

end DeribitGateway
