import DeribitGateway.Lib.Flyweight
import DeribitGateway.Multicast.Gateway

/-!
# The parser of the multicast datagrams

`Parser.dispatch` on the bytes of a datagram: the frame, and message by message a header, the
message as a flyweight, and as many bytes to go on by as `computeLength` makes of the message.

The flyweights are generated from a schema that is not part of the repository. `Schema` has what
depends on it: the sizes of headers, groups, names and blocks, and the limits. The identity of a
template is the third and the fourth byte of a header, as in the datagrams that the tests of the
parser spell out.
-/

namespace DeribitGateway

open Flyweight Transducer

namespace Sbe

/-! ## The generated flyweights -/

inductive Template
  | instrument
  | book
  | trades
  | ticker
  | snapshot
  | snapshotStart
  | snapshotEnd
  | comboLegs
  | priceIndex
  | rfq
  | instrumentV2
  deriving DecidableEq, Repr

/-- `SBE_TEMPLATE_ID` -/
def Template.id : Template → ℕ
  | instrument => 1000
  | book => 1001
  | trades => 1002
  | ticker => 1003
  | snapshot => 1004
  | snapshotStart => 1005
  | snapshotEnd => 1006
  | comboLegs => 1007
  | priceIndex => 1008
  | rfq => 1009
  | instrumentV2 => 1010

def Template.ofId : ℕ → Option Template
  | 1000 => some instrument
  | 1001 => some book
  | 1002 => some trades
  | 1003 => some ticker
  | 1004 => some snapshot
  | 1005 => some snapshotStart
  | 1006 => some snapshotEnd
  | 1007 => some comboLegs
  | 1008 => some priceIndex
  | 1009 => some rfq
  | 1010 => some instrumentV2
  | _ => none

theorem Template.ofId_id (t : Template) : ofId t.id = some t := by cases t <;> rfl

def Template.hasGroup : Template → Bool
  | book | trades | snapshot | comboLegs | instrumentV2 => true
  | _ => false

def Template.hasName : Template → Bool
  | instrument | instrumentV2 => true
  | _ => false

/-- What the schema and the generator make of a template. -/
structure Schema where
  id : ℕ
  version : ℕ
  /-- `MessageHeader::encodedLength` -/
  headerLength : ℕ
  /-- How groups and names are described. -/
  layout : Layout
  /-- The length of the block of fields, and of an element of the group. -/
  blockLength : Template → ℕ
  groupLength : Template → ℕ
  /-- Behind these `computeLength` throws. -/
  maxCount : ℕ
  maxLength : ℕ
  /-- Whether so many bytes can be wrapped in a buffer of so many. -/
  wraps : ℕ → ℕ → Bool
  headerLength_pos : 0 < headerLength

/-- The numbers fit the fields they are encoded in, and what is in a buffer can be wrapped. -/
structure Schema.Lawful (schema : Schema) : Prop where
  blockLength_lt : ∀ t, schema.blockLength t < 65536
  groupLength_lt : ∀ t, schema.groupLength t < 65536
  maxCount_lt : schema.maxCount < 65536
  maxLength_lt : schema.maxLength < 256 ^ schema.layout.dataHeader
  wraps_of_le : ∀ n size, n ≤ size → schema.wraps n size = true

namespace Schema

variable (schema : Schema)

/-- The constructor. -/
def wrap (t : Template) (buffer : List UInt8) : Option View :=
  if schema.wraps (schema.blockLength t) buffer.length then
    some { buffer, blockLength := schema.blockLength t, position := schema.blockLength t }
  else none

/-- `computeLength`, for the number of elements and the length of the name. -/
def encodedLength (t : Template) (count length : ℕ) : Option ℕ :=
  if count ≤ schema.maxCount ∧ length ≤ schema.maxLength then
    some (schema.blockLength t +
      (if t.hasGroup then schema.layout.groupHeader + count * schema.groupLength t else 0) +
      (if t.hasName then schema.layout.dataHeader + length else 0))
  else none

end Schema

/-! ## Lengths and names -/

section

variable (schema : Schema)

/-- `compute_length` of the templates with a group that is counted, not visited. -/
def countedLength (t : Template) (value : View) : Option ℕ :=
  (value.group schema.layout).bind fun (list, _) => schema.encodedLength t list.count 0

/-- `compute_length` -/
def computeLength (t : Template) (value : View) : Option ℕ :=
  match t with
  | .book => countedLength schema .book value
  | .comboLegs => countedLength schema .comboLegs value
  | .instrument =>
    (value.dataLength schema.layout).bind fun length => schema.encodedLength .instrument 0 length
  | .instrumentV2 =>
    (value.rewind.group schema.layout).bind fun (list, value) =>
      (value.forEach list.blockLength list.count).bind fun (items, value) =>
        (value.dataLength schema.layout).bind fun length =>
          schema.encodedLength .instrumentV2 items.length length
  | .priceIndex => schema.encodedLength .priceIndex 0 0
  | .rfq => schema.encodedLength .rfq 0 0
  | .snapshot =>
    (value.group schema.layout).bind fun (counted, value) =>
      (value.rewind.group schema.layout).bind fun (list, value) =>
        (value.forEach list.blockLength list.count).bind fun _ =>
          schema.encodedLength .snapshot counted.count 0
  | .snapshotStart => schema.encodedLength .snapshotStart 0 0
  | .snapshotEnd => schema.encodedLength .snapshotEnd 0 0
  | .ticker => schema.encodedLength .ticker 0 0
  | .trades => countedLength schema .trades value

/-- The name at the cursor: its length is fetched before it. -/
def nameAt (value : View) : Option (List UInt8) :=
  (value.dataLength schema.layout).bind fun length =>
    (value.data schema.layout).map fun (name, _) => name.take length

/-- `get_instrument_name`, of the two templates that have it -/
def getInstrumentName (t : Template) (value : View) : Option (List UInt8) :=
  match t with
  | .instrument => nameAt schema value.rewind
  | .instrumentV2 =>
    (value.rewind.group schema.layout).bind fun (list, value) =>
      (value.forEach list.blockLength list.count).bind fun (_, value) => nameAt schema value
  | _ => none

end

end Sbe

/-! ## Frames -/

/-- `Frame::size` -/
abbrev Frame.size : ℕ := 8

def Frame.parseHelper (buffer : List UInt8) : Frame where
  packetLength := (natOf (buffer.take 2)).toUInt16
  channelId := (natOf ((buffer.drop 2).take 2)).toUInt16
  sequenceNumber := (natOf ((buffer.drop 4).take 4)).toUInt32

namespace Sbe

/-! ## Dispatch -/

/-- How a call of the parser ends. -/
inductive Ended
  | returned (result : Bool)
  /-- `log::fatal`, or an exception. -/
  | rejected
  /-- `subspan` behind the end of the packet, which is not defined. -/
  | overrun
  deriving DecidableEq, Repr

namespace Parser

variable {σ ω : Type} (schema : Schema)

/-- The next message as the handler gets it, and the bytes it takes with its header; `none`: the
    template is not known, or an accessor throws. -/
def nextMessage (packet : List UInt8) : Option ((Template × View) × ℕ) :=
  (Template.ofId (natOf ((packet.drop 2).take 2))).bind fun t =>
    (schema.wrap t (packet.drop schema.headerLength)).bind fun value =>
      (computeLength schema t value).map fun length =>
        ((t, value.rewind), schema.headerLength + length)

/-- A message takes its header at least. -/
theorem le_of_nextMessage {packet : List UInt8} {message : Template × View} {bytes : ℕ}
    (h : nextMessage schema packet = some (message, bytes)) : schema.headerLength ≤ bytes := by
  obtain ⟨t, -, h⟩ := Option.bind_eq_some_iff.mp h
  obtain ⟨value, -, h⟩ := Option.bind_eq_some_iff.mp h
  obtain ⟨length, -, heq⟩ := Option.map_eq_some_iff.mp h
  obtain rfl : schema.headerLength + length = bytes := congrArg Prod.snd heq
  exact Nat.le_add_right ..

/-- The loop over the packet. A handler that ends the process ends it. -/
def loop (onMessage : Step σ (Template × View) ω) (s : σ) (packet : List UInt8) :
    Ended × Option σ × List ω :=
  if packet = [] then (.returned true, some s, [])
  else if schema.wraps schema.headerLength packet.length = false then (.rejected, none, [])
  -- the subspan behind the header
  else if packet.length < schema.headerLength then (.overrun, some s, [])
  else
    match _ : nextMessage schema packet with
    | none => (.rejected, none, [])
    | some (message, bytes) =>
      match onMessage s message with
      | (none, os) => (.rejected, none, os)
      | (some s', os) =>
        -- the subspan behind the message
        if packet.length < bytes then (.overrun, some s', os)
        else
          let r := loop onMessage s' (packet.drop bytes)
          (r.1, r.2.1, os ++ r.2.2)
termination_by packet.length
decreasing_by
  have hbytes := le_of_nextMessage schema ‹_›
  have hpos := schema.headerLength_pos
  rw [List.length_drop]
  omega

/-- One round, where a header is there. -/
theorem loop_eq (onMessage : Step σ (Template × View) ω) (s : σ) {packet : List UInt8}
    (hlength : schema.headerLength ≤ packet.length)
    (hwraps : schema.wraps schema.headerLength packet.length = true) :
    loop schema onMessage s packet =
      match nextMessage schema packet with
      | none => (.rejected, none, [])
      | some (message, bytes) =>
        match onMessage s message with
        | (none, os) => (.rejected, none, os)
        | (some s', os) =>
          if packet.length < bytes then (.overrun, some s', os)
          else ((loop schema onMessage s' (packet.drop bytes)).1,
            (loop schema onMessage s' (packet.drop bytes)).2.1,
            os ++ (loop schema onMessage s' (packet.drop bytes)).2.2) := by
  have hpos := schema.headerLength_pos
  have hne : packet ≠ [] := by
    rintro rfl
    rw [List.length_nil] at hlength
    omega
  rw [loop, if_neg hne, hwraps, if_neg Bool.true_eq_false.mp, if_neg (Nat.not_lt.mpr hlength)]
  split
  · next hnone => rw [hnone]
  · next hsome => rw [hsome]

def dispatch (onFrame : σ → Frame → Bool × σ)
    (onMessage : Frame → Step σ (Template × View) ω) (s : σ) (buffer : List UInt8) :
    Ended × Option σ × List ω :=
  if buffer.length < Frame.size then (.rejected, none, [])
  else
    let frame := Frame.parseHelper buffer
    match onFrame s frame with
    | (false, s') => (.returned false, some s', [])
    | (true, s') => loop schema (onMessage frame) s' (buffer.drop Frame.size)

end Parser

end Sbe

end DeribitGateway
