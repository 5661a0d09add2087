import DeribitGateway.Sbe.Parser

/-!
# Decoding

Messages that are encoded one behind the other, behind a frame, are handed to the handler one by
one as they have been encoded (`decoding_exact`), and the datagram is the one that the gateway's
handlers are modelled on (`dispatch_decoded`).
-/

namespace DeribitGateway

open Flyweight Transducer

namespace Sbe

/-! ## Encoding -/

/-- A message of the schema: the fields, the elements of the group and the name. -/
structure Message (schema : Schema) where
  template : Template
  /-- The header behind the version: the numbers of groups and names, which nothing looks at. -/
  numbers : List UInt8
  block : List UInt8
  elements : List (List UInt8) := []
  name : List UInt8 := []
  length_numbers : 8 + numbers.length = schema.headerLength
  length_block : block.length = schema.blockLength template
  length_elements : ∀ e ∈ elements, e.length = schema.groupLength template
  count_le : elements.length ≤ schema.maxCount
  length_name : name.length ≤ schema.maxLength
  no_group : template.hasGroup = false → elements = []
  no_name : template.hasName = false → name = []

namespace Message

variable {schema : Schema} (m : Message schema)

def groupBytes : List UInt8 :=
  if m.template.hasGroup then
    schema.layout.encodeGroup (schema.groupLength m.template) m.elements
  else []

def nameBytes : List UInt8 := if m.template.hasName then schema.layout.encodeData m.name else []

def body : List UInt8 := m.block ++ (m.groupBytes ++ m.nameBytes)

def header : List UInt8 :=
  bytesOf 2 (schema.blockLength m.template) ++ (bytesOf 2 m.template.id ++
    (bytesOf 2 schema.id ++ (bytesOf 2 schema.version ++ m.numbers)))

def encode : List UInt8 := m.header ++ m.body

/-- The flyweight of the message, where others come behind it. -/
def value (rest : List UInt8) : View where
  buffer := m.body ++ rest
  blockLength := schema.blockLength m.template
  position := schema.blockLength m.template

@[simp] theorem rewind_value (rest : List UInt8) : (m.value rest).rewind = m.value rest := rfl

@[simp] theorem length_header : m.header.length = schema.headerLength := by
  rw [← m.length_numbers]
  simp only [header, List.length_append, length_bytesOf]
  omega

/-! ## Decoding -/

theorem length_groupBytes : m.groupBytes.length = if m.template.hasGroup then
    schema.layout.groupHeader + m.elements.length * schema.groupLength m.template else 0 := by
  unfold groupBytes
  split_ifs
  · exact schema.layout.length_encodeGroup m.length_elements
  · rfl

theorem length_nameBytes : m.nameBytes.length = if m.template.hasName then
    schema.layout.dataHeader + m.name.length else 0 := by
  unfold nameBytes
  split_ifs
  · exact schema.layout.length_encodeData m.name
  · rfl

/-- The length that is made of the numbers is the length of the body. -/
theorem encodedLength_body :
    schema.encodedLength m.template m.elements.length m.name.length = some m.body.length := by
  unfold Schema.encodedLength
  rw [if_pos ⟨m.count_le, m.length_name⟩, body, List.length_append, List.length_append,
    m.length_block, m.length_groupBytes, m.length_nameBytes, Nat.add_assoc]

variable (hs : schema.Lawful) (rest : List UInt8)

include hs

theorem wrap_body : schema.wrap m.template (m.body ++ rest) = some (m.value rest) := by
  have hle : schema.blockLength m.template ≤ (m.body ++ rest).length := by
    rw [← m.length_block, body, List.append_assoc, List.length_append]
    exact Nat.le_add_right ..
  exact if_pos (hs.wraps_of_le _ _ hle)

/-- The group is behind the block. -/
theorem group_value (h : m.template.hasGroup = true) :
    (m.value rest).group schema.layout =
      some (⟨schema.groupLength m.template, m.elements.length⟩,
        (m.value rest).seek (schema.blockLength m.template + schema.layout.groupHeader)) := by
  have hbuffer : (m.value rest).buffer = m.block ++
      (schema.layout.encodeHeader (schema.groupLength m.template) m.elements.length ++
        (m.elements.flatten ++ (m.nameBytes ++ rest))) := by
    show m.body ++ rest = _
    rw [body, groupBytes, if_pos h, Layout.encodeGroup]
    simp only [List.append_assoc]
  exact View.group_encode (hs.groupLength_lt _)
    (m.count_le.trans_lt hs.maxCount_lt) hbuffer m.length_block.symm

/-- So are its elements, and the name is behind them. -/
theorem elements_value (h : m.template.hasGroup = true) :
    (((m.value rest).group schema.layout).bind fun (list, value) =>
      value.forEach list.blockLength list.count) =
      some (m.elements, (m.value rest).seek (m.block ++ m.groupBytes).length) := by
  have hgroup : m.groupBytes =
      schema.layout.encodeGroup (schema.groupLength m.template) m.elements := if_pos h
  have hbuffer : (m.value rest).buffer = m.block ++
      (schema.layout.encodeGroup (schema.groupLength m.template) m.elements ++
        (m.nameBytes ++ rest)) := by
    show m.body ++ rest = _
    rw [body, hgroup]
    simp only [List.append_assoc]
  have hposition : (m.value rest).position = m.block.length := m.length_block.symm
  rw [View.elements_encode (hs.groupLength_lt _)
    (m.count_le.trans_lt hs.maxCount_lt) m.length_elements hbuffer hposition, hposition, hgroup,
    List.length_append]

omit hs in
/-- Without a group, what is behind it is behind the block. -/
theorem value_eq_seek (h : m.template.hasGroup = false) :
    m.value rest = (m.value rest).seek (m.block ++ m.groupBytes).length := by
  rw [groupBytes, h, if_neg Bool.false_ne_true, List.append_nil, m.length_block]
  rfl

/-- The name is behind the block and the group, if there is one. -/
theorem name_value (h : m.template.hasName = true) {value : View}
    (hvalue : value = (m.value rest).seek (m.block ++ m.groupBytes).length) :
    value.dataLength schema.layout = some m.name.length ∧ nameAt schema value = some m.name := by
  have hbuffer : value.buffer =
      (m.block ++ m.groupBytes) ++ (schema.layout.encodeData m.name ++ rest) := by
    subst hvalue
    show m.body ++ rest = _
    rw [body, nameBytes, if_pos h]
    simp only [List.append_assoc]
  have hposition : value.position = (m.block ++ m.groupBytes).length := by
    rw [hvalue, View.seek_position]
  have hlength : m.name.length < 256 ^ schema.layout.dataHeader :=
    m.length_name.trans_lt hs.maxLength_lt
  have hdata := View.dataLength_encode hlength hbuffer hposition
  refine ⟨hdata, ?_⟩
  unfold nameAt
  rw [hdata, Option.bind_some, View.data_encode hlength hbuffer hposition, Option.map_some,
    Option.some_inj]
  exact List.take_length

/-! ## Lengths and names -/

theorem countedLength_value (hgroup : m.template.hasGroup = true)
    (hname : m.template.hasName = false) :
    countedLength schema m.template (m.value rest) = some m.body.length := by
  have hlength := m.encodedLength_body
  rw [m.no_name hname] at hlength
  unfold countedLength
  rw [m.group_value hs rest hgroup, Option.bind_some]
  exact hlength

theorem snapshotLength_value (h : m.template = .snapshot) :
    computeLength schema .snapshot (m.value rest) = some m.body.length := by
  have hgroup : m.template.hasGroup = true := by rw [h]; rfl
  have hlength := m.encodedLength_body
  rw [m.no_name (by rw [h]; rfl), h] at hlength
  have hopen := m.group_value hs rest hgroup
  have hvisit := m.elements_value hs rest hgroup
  rw [hopen, Option.bind_some] at hvisit
  unfold computeLength
  dsimp only at hvisit ⊢
  rw [hopen, Option.bind_some]
  dsimp only
  rw [View.rewind_seek, m.rewind_value, hopen, Option.bind_some]
  dsimp only
  rw [hvisit, Option.bind_some]
  exact hlength

theorem instrumentLength_value (h : m.template = .instrument) :
    computeLength schema .instrument (m.value rest) = some m.body.length := by
  have hname : m.template.hasName = true := by rw [h]; rfl
  have hnone : m.template.hasGroup = false := by rw [h]; rfl
  have hlength := m.encodedLength_body
  rw [m.no_group hnone, h] at hlength
  unfold computeLength
  dsimp only
  rw [(m.name_value hs rest hname (m.value_eq_seek rest hnone)).1, Option.bind_some]
  exact hlength

theorem instrumentV2Length_value (h : m.template = .instrumentV2) :
    computeLength schema .instrumentV2 (m.value rest) = some m.body.length := by
  have hname : m.template.hasName = true := by rw [h]; rfl
  have hgroup : m.template.hasGroup = true := by rw [h]; rfl
  have hlength := m.encodedLength_body
  rw [h] at hlength
  have hopen := m.group_value hs rest hgroup
  have hvisit := m.elements_value hs rest hgroup
  rw [hopen, Option.bind_some] at hvisit
  unfold computeLength
  dsimp only at hvisit ⊢
  rw [m.rewind_value, hopen, Option.bind_some]
  dsimp only
  rw [hvisit, Option.bind_some]
  dsimp only
  rw [(m.name_value hs rest hname rfl).1, Option.bind_some]
  exact hlength

omit hs in
theorem blockLength_value (hgroup : m.template.hasGroup = false)
    (hname : m.template.hasName = false) :
    schema.encodedLength m.template 0 0 = some m.body.length := by
  have hlength := m.encodedLength_body
  rwa [m.no_group hgroup, m.no_name hname] at hlength

/-- **The computed length is the encoded length.** -/
theorem computeLength_value :
    computeLength schema m.template (m.value rest) = some m.body.length := by
  have hcounted := m.countedLength_value hs rest
  have hblock := m.blockLength_value
  cases h : m.template with
  | instrument => exact m.instrumentLength_value hs rest h
  | instrumentV2 => exact m.instrumentV2Length_value hs rest h
  | snapshot => exact m.snapshotLength_value hs rest h
  | book => rw [h] at hcounted; exact hcounted rfl rfl
  | trades => rw [h] at hcounted; exact hcounted rfl rfl
  | comboLegs => rw [h] at hcounted; exact hcounted rfl rfl
  | ticker => rw [h] at hblock; exact hblock rfl rfl
  | snapshotStart => rw [h] at hblock; exact hblock rfl rfl
  | snapshotEnd => rw [h] at hblock; exact hblock rfl rfl
  | priceIndex => rw [h] at hblock; exact hblock rfl rfl
  | rfq => rw [h] at hblock; exact hblock rfl rfl

/-- **The name is the encoded name.** -/
theorem getInstrumentName_value (h : m.template.hasName = true) :
    getInstrumentName schema m.template (m.value rest) = some m.name := by
  cases ht : m.template with
  | instrument =>
    have hnone : m.template.hasGroup = false := by rw [ht]; rfl
    exact (m.name_value hs rest h (m.value_eq_seek rest hnone)).2
  | instrumentV2 =>
    have hgroup : m.template.hasGroup = true := by rw [ht]; rfl
    have hopen := m.group_value hs rest hgroup
    have hvisit := m.elements_value hs rest hgroup
    rw [hopen, Option.bind_some] at hvisit
    unfold getInstrumentName
    dsimp only at hvisit ⊢
    rw [m.rewind_value, hopen, Option.bind_some]
    dsimp only
    rw [hvisit, Option.bind_some]
    exact (m.name_value hs rest h rfl).2
  | _ => rw [ht] at h; cases h

end Message

end Sbe

/-- The bytes of a frame. -/
def Frame.encode (frame : Frame) : List UInt8 :=
  bytesOf 2 frame.packetLength.toNat ++ (bytesOf 2 frame.channelId.toNat ++
    bytesOf 4 frame.sequenceNumber.toNat)

@[simp] theorem Frame.length_encode (frame : Frame) : frame.encode.length = Frame.size := by
  simp [encode]

theorem Frame.parse_encode (frame : Frame) (packet : List UInt8) :
    Frame.parseHelper (frame.encode ++ packet) = frame := by
  have htake : ∀ (front part back : List UInt8) (n : ℕ), part.length = n →
      ((front ++ (part ++ back)).drop front.length).take n = part := by
    rintro front part back n rfl
    rw [List.drop_left, List.take_left]
  have hpacket : ((frame.encode ++ packet).drop 0).take 2 = bytesOf 2 frame.packetLength.toNat := by
    rw [encode, List.append_assoc]
    exact htake [] _ _ 2 (length_bytesOf 2 _)
  have hchannel : ((frame.encode ++ packet).drop 2).take 2 = bytesOf 2 frame.channelId.toNat := by
    have hfront := length_bytesOf 2 frame.packetLength.toNat
    rw [encode, List.append_assoc, List.append_assoc]
    have hbytes := htake (bytesOf 2 frame.packetLength.toNat) (bytesOf 2 frame.channelId.toNat)
      (bytesOf 4 frame.sequenceNumber.toNat ++ packet) 2 (length_bytesOf 2 _)
    rwa [hfront] at hbytes
  have hsequence : ((frame.encode ++ packet).drop 4).take 4 =
      bytesOf 4 frame.sequenceNumber.toNat := by
    have hfront : (bytesOf 2 frame.packetLength.toNat ++
        bytesOf 2 frame.channelId.toNat).length = 4 := by simp
    rw [encode, ← List.append_assoc, List.append_assoc]
    have hbytes := htake (bytesOf 2 frame.packetLength.toNat ++ bytesOf 2 frame.channelId.toNat)
      (bytesOf 4 frame.sequenceNumber.toNat) packet 4 (length_bytesOf 4 _)
    rwa [hfront] at hbytes
  rw [List.drop_zero] at hpacket
  unfold parseHelper
  rw [hpacket, hchannel, hsequence,
    natOf_bytesOf (show frame.packetLength.toNat < 256 ^ 2 from frame.packetLength.toNat_lt),
    natOf_bytesOf (show frame.channelId.toNat < 256 ^ 2 from frame.channelId.toNat_lt),
    natOf_bytesOf (show frame.sequenceNumber.toNat < 256 ^ 4 from frame.sequenceNumber.toNat_lt)]
  simp [Nat.toUInt16, Nat.toUInt32]

namespace Sbe

/-! ## Datagrams -/

/-- What the handler gets decodes to what has been encoded. -/
structure Decodes {schema : Schema} (m : Message schema) (message : Template × View) : Prop where
  template : message.1 = m.template
  block : message.2.block = some m.block
  elements : m.template.hasGroup = true →
    (((message.2.rewind.group schema.layout).bind fun (list, value) =>
      value.forEach list.blockLength list.count).map Prod.fst) = some m.elements
  name : m.template.hasName = true → getInstrumentName schema message.1 message.2 = some m.name
  length : computeLength schema message.1 message.2 = some m.body.length

section

variable {schema : Schema} (hs : schema.Lawful)

include hs

theorem decodes_value (m : Message schema) (rest : List UInt8) :
    Decodes m (m.template, m.value rest) where
  template := rfl
  block := by
    have hslice := slice_append [] m.block (m.groupBytes ++ m.nameBytes ++ rest)
    rw [List.nil_append, ← List.append_assoc, m.length_block] at hslice
    exact hslice
  elements h := by
    dsimp only
    rw [m.rewind_value, m.elements_value hs rest h]
    rfl
  name := m.getInstrumentName_value hs rest
  length := m.computeLength_value hs rest

namespace Parser

theorem nextMessage_encode (m : Message schema) (rest : List UInt8) :
    nextMessage schema (m.encode ++ rest) =
      some ((m.template, m.value rest), m.encode.length) := by
  have hid : natOf (((m.encode ++ rest).drop 2).take 2) = m.template.id := by
    have hlt : m.template.id < 256 ^ 2 := by cases m.template <;> decide
    have htake : ((m.encode ++ rest).drop 2).take 2 = bytesOf 2 m.template.id := by
      have hfront := length_bytesOf 2 (schema.blockLength m.template)
      simp only [Message.encode, Message.header, List.append_assoc]
      rw [List.drop_append_of_le_length hfront.ge, List.drop_of_length_le hfront.le,
        List.nil_append, List.take_append_of_le_length (by simp)]
      exact List.take_of_length_le (by simp)
    rw [htake, natOf_bytesOf hlt]
  have hbody : (m.encode ++ rest).drop schema.headerLength = m.body ++ rest := by
    rw [Message.encode, List.append_assoc, ← m.length_header, List.drop_left]
  unfold nextMessage
  rw [hid, Template.ofId_id, Option.bind_some, hbody, m.wrap_body hs rest, Option.bind_some,
    m.computeLength_value hs rest, Option.map_some, m.rewind_value, Message.encode,
    List.length_append, m.length_header]

variable {σ ω : Type}

/-- One round. -/
theorem loop_message (onMessage : Step σ (Template × View) ω) (m : Message schema)
    (rest : List UInt8) (s : σ) :
    loop schema onMessage s (m.encode ++ rest) =
      match onMessage s (m.template, m.value rest) with
      | (none, os) => (.rejected, none, os)
      | (some s', os) => ((loop schema onMessage s' rest).1,
          (loop schema onMessage s' rest).2.1, os ++ (loop schema onMessage s' rest).2.2) := by
  have hlength : schema.headerLength ≤ (m.encode ++ rest).length := by simp [Message.encode]
  rw [loop_eq schema onMessage s hlength (hs.wraps_of_le schema.headerLength _ hlength),
    nextMessage_encode hs]
  dsimp only
  rcases onMessage s (m.template, m.value rest) with ⟨_ | s', os⟩
  · rfl
  · dsimp only
    rw [if_neg (by simp), List.drop_left]

/-- The messages as the handler gets them. -/
def values : List (Message schema) → List (Template × View)
  | [] => []
  | m :: ms => (m.template, m.value (ms.flatMap Message.encode)) :: values ms

theorem decodes_values (ms : List (Message schema)) :
    List.Forall₂ Decodes ms (values ms) := by
  induction ms with
  | nil => exact .nil
  | cons m ms ih => exact .cons (decodes_value hs m _) ih

/-- **The messages of the packet are handed over one by one**, to its end. -/
theorem loop_encode (onMessage : Step σ (Template × View) ω) (ms : List (Message schema)) (s : σ) :
    loop schema onMessage s (ms.flatMap Message.encode) =
      (if (run onMessage s (values ms)).1.isSome then .returned true else .rejected,
        run onMessage s (values ms)) := by
  induction ms generalizing s with
  | nil =>
    rw [List.flatMap_nil, loop]
    rfl
  | cons m ms ih =>
    rw [List.flatMap_cons, loop_message hs, values]
    rcases hm : onMessage s (m.template, m.value (ms.flatMap Message.encode)) with ⟨_ | s', os⟩
    · rw [run_cons_none _ (congrArg Prod.fst hm), hm]
      rfl
    · rw [run_cons_some _ (congrArg Prod.fst hm), hm]
      dsimp only
      rw [ih]

/-- **Decoding is exact**: the handler is asked about the frame, and if it accepts it, it gets
    each message once, in their order and as it has been encoded; then the parser is at the end
    of the packet and returns true. -/
theorem decoding_exact (onFrame : σ → Frame → Bool × σ)
    (onMessage : Frame → Step σ (Template × View) ω) (s : σ) (frame : Frame)
    (ms : List (Message schema)) :
    List.Forall₂ Decodes ms (values ms) ∧
    dispatch schema onFrame onMessage s (frame.encode ++ ms.flatMap Message.encode) =
      match onFrame s frame with
      | (false, s') => (.returned false, some s', [])
      | (true, s') =>
        (if (run (onMessage frame) s' (values ms)).1.isSome then .returned true else .rejected,
          run (onMessage frame) s' (values ms)) := by
  refine ⟨decodes_values hs ms, ?_⟩
  have hsize : ¬(frame.encode ++ ms.flatMap Message.encode).length < Frame.size := by simp
  have hdrop : (frame.encode ++ ms.flatMap Message.encode).drop Frame.size =
      ms.flatMap Message.encode := by rw [← frame.length_encode, List.drop_left]
  unfold dispatch
  rw [if_neg hsize, Frame.parse_encode, hdrop]
  dsimp only
  rcases onFrame s frame with ⟨_ | _, s'⟩
  · rfl
  · exact loop_encode hs (onMessage frame) ms s'

/-- What the handlers of the gateway are modelled on is the decoded datagram: `read` are the
    accessors they call. -/
theorem dispatch_decoded (read : Template × View → DeribitGateway.Message)
    (onFrame : σ → Frame → Bool × σ) (onMessage : Frame → Step σ DeribitGateway.Message ω)
    (s : σ) (frame : Frame) (ms : List (Message schema)) :
    (dispatch schema onFrame (fun frame s message => onMessage frame s (read message)) s
      (frame.encode ++ ms.flatMap Message.encode)).2 =
      (DeribitGateway.Parser.dispatch onFrame onMessage s ⟨frame, (values ms).map read⟩).2 := by
  rw [(decoding_exact hs onFrame _ s frame ms).2]
  unfold DeribitGateway.Parser.dispatch
  dsimp only
  rcases onFrame s frame with ⟨_ | _, s'⟩
  · rfl
  · exact (run_map (onMessage frame) read s' (values ms)).symm

end Parser

end

/-! ## A datagram -/

/-- The sizes of the datagrams that the tests spell out; the templates that are in none of them
    are taken to have no fields. -/
def tested : Schema where
  id := 1
  version := 2
  headerLength := 12
  layout := ⟨8, 1, by decide⟩
  blockLength
    | .instrument => 140
    | .book => 29
    | .trades => 4
    | .ticker => 133
    | .snapshot => 22
    | .instrumentV2 => 139
    | _ => 0
  groupLength
    | .book => 18
    | .trades => 83
    | .snapshot => 17
    | .instrumentV2 => 16
    | _ => 0
  maxCount := 65534
  maxLength := 254
  wraps n size := n ≤ size
  headerLength_pos := by decide

theorem lawful_tested : tested.Lawful where
  blockLength_lt t := by cases t <;> decide
  groupLength_lt t := by cases t <;> decide
  maxCount_lt := by decide
  maxLength_lt := by decide
  wraps_of_le n size h := decide_eq_true h

/-- An instrument without commissions, and two changes of its book. -/
def sampleMessages : List (Message tested) :=
  [{ template := .instrumentV2
     numbers := [1, 0, 1, 0]
     length_numbers := rfl
     block := List.replicate 139 0
     name := [66, 84, 67]
     length_block := List.length_replicate
     length_elements := by simp
     count_le := by decide
     length_name := by decide
     no_group := fun _ => rfl
     no_name := by decide },
   { template := .book
     numbers := [1, 0, 0, 0]
     length_numbers := rfl
     block := List.replicate 29 1
     elements := [List.replicate 18 2, List.replicate 18 3]
     length_block := List.length_replicate
     length_elements := by decide
     count_le := by decide
     length_name := by decide
     no_group := by decide
     no_name := fun _ => rfl }]

/-- A handler that counts the messages. -/
def countMessages : Step ℕ (Template × View) Template :=
  fun n message => (some (n + 1), [message.1])

theorem sampleMessages_decoded :
    List.Forall₂ Decodes sampleMessages (Parser.values sampleMessages) ∧
    Parser.dispatch tested (fun n _ => (true, n)) (fun _ => countMessages) 0
      (Frame.encode ⟨246, 1, 7⟩ ++ sampleMessages.flatMap Message.encode) =
      (.returned true, some 2, [.instrumentV2, .book]) := by
  obtain ⟨hvalues, hdispatch⟩ := Parser.decoding_exact lawful_tested (fun n _ => (true, n))
    (fun _ => countMessages) 0 ⟨246, 1, 7⟩ sampleMessages
  refine ⟨hvalues, hdispatch.trans ?_⟩
  rfl

end Sbe

end DeribitGateway
