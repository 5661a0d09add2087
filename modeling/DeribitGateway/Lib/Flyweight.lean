import Mathlib.Algebra.Ring.Nat
import Mathlib.Data.List.Basic
import Mathlib.Tactic.Common

/-!
# Flyweights — messages read where they lie

A flyweight is a view of a message in a buffer: a block of fields, and behind it groups of
elements and strings, which are found with a cursor. Opening a group, visiting its elements and
taking a string move the cursor; `rewind` takes it back to the end of the block. An accessor
that would read beyond the buffer throws (`none`).

What has been encoded behind `front` is read when the cursor is there (`group_encode`,
`forEach_encode`, `data_encode`).
-/

namespace Flyweight

/-! ## Little-endian numbers -/

def natOf : List UInt8 → ℕ
  | [] => 0
  | byte :: bytes => byte.toNat + 256 * natOf bytes

/-- A number in so many bytes. -/
def bytesOf : ℕ → ℕ → List UInt8
  | 0, _ => []
  | width + 1, n => (n % 256).toUInt8 :: bytesOf width (n / 256)

@[simp] theorem length_bytesOf (width n : ℕ) : (bytesOf width n).length = width := by
  induction width generalizing n with
  | zero => rfl
  | succ width ih => rw [bytesOf, List.length_cons, ih]

theorem natOf_bytesOf {width n : ℕ} (h : n < 256 ^ width) : natOf (bytesOf width n) = n := by
  induction width generalizing n with
  | zero =>
    rw [Nat.pow_zero] at h
    exact (Nat.lt_one_iff.mp h).symm
  | succ width ih =>
    rw [Nat.pow_succ] at h
    have hrest : n / 256 < 256 ^ width := Nat.div_lt_of_lt_mul (by rwa [Nat.mul_comm] at h)
    have hbyte : (n % 256).toUInt8.toNat = n % 256 := by
      simp [Nat.toUInt8, UInt8.toNat_ofNat']
    rw [bytesOf, natOf, ih hrest, hbyte]
    exact Nat.mod_add_div n 256

/-! ## Views -/

/-- So many bytes of the buffer. -/
def slice (buffer : List UInt8) (pos n : ℕ) : Option (List UInt8) :=
  if pos + n ≤ buffer.length then some ((buffer.drop pos).take n) else none

theorem slice_append (front part back : List UInt8) :
    slice (front ++ (part ++ back)) front.length part.length = some part := by
  unfold slice
  rw [if_pos (by simp), List.drop_left, List.take_left]

theorem slice_of_le {buffer : List UInt8} {pos n : ℕ} (h : pos + n ≤ buffer.length) :
    slice buffer pos n = some ((buffer.drop pos).take n) := if_pos h

theorem slice_of_not_le {buffer : List UInt8} {pos n : ℕ} (h : ¬pos + n ≤ buffer.length) :
    slice buffer pos n = none := if_neg h

/-- The sizes of what describes a group (two bytes for the length of an element, two for their
    number, and others) and of the length of a string. -/
structure Layout where
  groupHeader : ℕ
  dataHeader : ℕ
  four_le : 4 ≤ groupHeader

/-- A message in its buffer, and the cursor. -/
structure View where
  buffer : List UInt8
  blockLength : ℕ
  position : ℕ
  deriving DecidableEq

/-- What a group says of its elements. -/
structure Group where
  blockLength : ℕ
  count : ℕ
  deriving DecidableEq

namespace View

variable (L : Layout)

def seek (v : View) (position : ℕ) : View := { v with position }

@[simp] theorem seek_buffer (v : View) (position : ℕ) :
    (v.seek position).buffer = v.buffer := rfl

@[simp] theorem seek_position (v : View) (position : ℕ) :
    (v.seek position).position = position := rfl

def rewind (v : View) : View := v.seek v.blockLength

@[simp] theorem seek_self (v : View) : v.seek v.position = v := rfl

@[simp] theorem seek_seek (v : View) (p q : ℕ) : (v.seek p).seek q = v.seek q := rfl

@[simp] theorem rewind_seek (v : View) (position : ℕ) :
    (v.seek position).rewind = v.rewind := rfl

/-- The fields. -/
def block (v : View) : Option (List UInt8) := slice v.buffer 0 v.blockLength

def group (v : View) : Option (Group × View) :=
  (slice v.buffer v.position L.groupHeader).map fun header =>
    ({ blockLength := natOf (header.take 2), count := natOf ((header.drop 2).take 2) },
      v.seek (v.position + L.groupHeader))

/-- The elements of a group, each of the given length. -/
def forEach (blockLength : ℕ) : ℕ → View → Option (List (List UInt8) × View)
  | 0, v => some ([], v)
  | count + 1, v =>
    (slice v.buffer v.position blockLength).bind fun element =>
      (forEach blockLength count (v.seek (v.position + blockLength))).map
        fun (elements, v') => (element :: elements, v')

/-- The length of the string at the cursor. -/
def dataLength (v : View) : Option ℕ := (slice v.buffer v.position L.dataHeader).map natOf

def data (v : View) : Option (List UInt8 × View) :=
  (v.dataLength L).bind fun length =>
    (slice v.buffer (v.position + L.dataHeader) length).map fun text =>
      (text, v.seek (v.position + L.dataHeader + length))

end View

/-! ## What has been encoded is read -/

namespace Layout

variable (L : Layout)

/-- Of what else describes a group, nothing is used. -/
def encodeHeader (blockLength count : ℕ) : List UInt8 :=
  bytesOf 2 blockLength ++ (bytesOf 2 count ++ List.replicate (L.groupHeader - 4) 0)

/-- A group of elements of one length. -/
def encodeGroup (blockLength : ℕ) (elements : List (List UInt8)) : List UInt8 :=
  L.encodeHeader blockLength elements.length ++ elements.flatten

def encodeData (text : List UInt8) : List UInt8 := bytesOf L.dataHeader text.length ++ text

theorem length_encodeHeader (blockLength count : ℕ) :
    (L.encodeHeader blockLength count).length = L.groupHeader := by
  have hfour := L.four_le
  simp only [encodeHeader, List.length_append, length_bytesOf, List.length_replicate]
  omega

theorem length_encodeGroup {blockLength : ℕ} {elements : List (List UInt8)}
    (he : ∀ e ∈ elements, e.length = blockLength) :
    (L.encodeGroup blockLength elements).length =
      L.groupHeader + elements.length * blockLength := by
  have hflatten : elements.flatten.length = elements.length * blockLength := by
    rw [List.length_flatten, List.map_congr_left he, List.map_const', List.sum_replicate_nat]
  rw [encodeGroup, List.length_append, L.length_encodeHeader, hflatten]

theorem length_encodeData (text : List UInt8) :
    (L.encodeData text).length = L.dataHeader + text.length := by
  simp [encodeData]

end Layout

namespace View

variable {L : Layout} {v : View} {front back : List UInt8}

theorem group_encode {blockLength count : ℕ} (hblock : blockLength < 65536) (hcount : count < 65536)
    (hbuffer : v.buffer = front ++ (L.encodeHeader blockLength count ++ back))
    (hposition : v.position = front.length) :
    v.group L = some (⟨blockLength, count⟩, v.seek (v.position + L.groupHeader)) := by
  have hslice : slice v.buffer v.position L.groupHeader =
      some (L.encodeHeader blockLength count) := by
    rw [hbuffer, hposition, ← L.length_encodeHeader blockLength count]
    exact slice_append front _ back
  have hfirst : (L.encodeHeader blockLength count).take 2 = bytesOf 2 blockLength := by
    rw [Layout.encodeHeader, List.take_append_of_le_length (by simp)]
    exact List.take_of_length_le (by simp)
  have hsecond : ((L.encodeHeader blockLength count).drop 2).take 2 = bytesOf 2 count := by
    rw [Layout.encodeHeader, List.drop_append_of_le_length (by simp),
      List.drop_of_length_le (by simp), List.nil_append,
      List.take_append_of_le_length (by simp)]
    exact List.take_of_length_le (by simp)
  unfold group
  rw [hslice, Option.map_some, hfirst, hsecond, natOf_bytesOf hblock, natOf_bytesOf hcount]

theorem forEach_encode {blockLength : ℕ} {elements : List (List UInt8)}
    (helements : ∀ e ∈ elements, e.length = blockLength)
    (hbuffer : v.buffer = front ++ (elements.flatten ++ back))
    (hposition : v.position = front.length) :
    v.forEach blockLength elements.length = some (elements,
      v.seek (v.position + elements.flatten.length)) := by
  induction elements generalizing v front with
  | nil => rfl
  | cons element elements ih =>
    have helement : element.length = blockLength := helements element List.mem_cons_self
    rw [List.flatten_cons, List.append_assoc] at hbuffer
    have hslice : slice v.buffer v.position blockLength = some element := by
      rw [hbuffer, hposition, ← helement]
      exact slice_append front element _
    have hbehind : (v.seek (v.position + blockLength)).buffer =
        (front ++ element) ++ (elements.flatten ++ back) := by
      rw [seek_buffer, hbuffer, List.append_assoc]
    have hrest := ih (fun e he => helements e (List.mem_cons_of_mem element he)) hbehind
      (by simp [hposition, helement])
    rw [List.length_cons, forEach, hslice, Option.bind_some, hrest, Option.map_some,
      List.flatten_cons, List.length_append, helement, ← Nat.add_assoc]
    rfl

/-- The group that has been encoded is opened, and its elements are visited. -/
theorem elements_encode {blockLength : ℕ} {elements : List (List UInt8)}
    (hblock : blockLength < 65536) (hcount : elements.length < 65536)
    (helements : ∀ e ∈ elements, e.length = blockLength)
    (hbuffer : v.buffer = front ++ (L.encodeGroup blockLength elements ++ back))
    (hposition : v.position = front.length) :
    ((v.group L).bind fun (list, v) => v.forEach list.blockLength list.count) =
      some (elements, v.seek (v.position + (L.encodeGroup blockLength elements).length)) := by
  have hheader := L.length_encodeHeader blockLength elements.length
  rw [Layout.encodeGroup, List.append_assoc] at hbuffer
  have hflatten : v.buffer = (front ++ L.encodeHeader blockLength elements.length) ++
      (elements.flatten ++ back) := by rw [hbuffer, List.append_assoc]
  have hvisited := forEach_encode (v := v.seek (v.position + L.groupHeader))
    helements hflatten (by rw [seek_position, List.length_append, hheader, ← hposition])
  rw [group_encode hblock hcount hbuffer hposition, Option.bind_some]
  dsimp only
  rw [hvisited, seek_seek, seek_position, Layout.encodeGroup, List.length_append, hheader,
    ← Nat.add_assoc]

theorem dataLength_encode {text : List UInt8} (htext : text.length < 256 ^ L.dataHeader)
    (hbuffer : v.buffer = front ++ (L.encodeData text ++ back))
    (hposition : v.position = front.length) : v.dataLength L = some text.length := by
  have hslice : slice v.buffer v.position L.dataHeader =
      some (bytesOf L.dataHeader text.length) := by
    have happend := slice_append front (bytesOf L.dataHeader text.length) (text ++ back)
    rw [length_bytesOf] at happend
    rw [hbuffer, hposition, Layout.encodeData, List.append_assoc]
    exact happend
  unfold dataLength
  rw [hslice, Option.map_some, natOf_bytesOf htext]

theorem data_encode {text : List UInt8} (htext : text.length < 256 ^ L.dataHeader)
    (hbuffer : v.buffer = front ++ (L.encodeData text ++ back))
    (hposition : v.position = front.length) :
    v.data L = some (text, v.seek (v.position + L.dataHeader + text.length)) := by
  have hslice : slice v.buffer (v.position + L.dataHeader) text.length = some text := by
    have happend := slice_append (front ++ bytesOf L.dataHeader text.length) text back
    rw [List.length_append, length_bytesOf] at happend
    rw [hbuffer, hposition, Layout.encodeData, List.append_assoc, ← List.append_assoc front]
    exact happend
  unfold data
  rw [dataLength_encode htext hbuffer hposition, Option.bind_some, hslice, Option.map_some]

/-! ## Bounds -/

/-- A group is opened if its description is in the buffer. -/
theorem group_eq (v : View) :
    v.group L = if v.position + L.groupHeader ≤ v.buffer.length then
      some (⟨natOf ((v.buffer.drop v.position).take 2),
        natOf ((v.buffer.drop (v.position + 2)).take 2)⟩,
        v.seek (v.position + L.groupHeader)) else none := by
  have hfour := L.four_le
  unfold group slice
  split_ifs
  · rw [Option.map_some, List.take_take, Nat.min_eq_left (by omega), List.drop_take,
      List.take_take, Nat.min_eq_left (by omega), List.drop_drop]
  · rfl

/-- The elements are visited if they are all in the buffer. -/
theorem forEach_eq (blockLength count : ℕ) (h : v.position ≤ v.buffer.length) :
    if v.position + count * blockLength ≤ v.buffer.length then
      ∃ elements, elements.length = count ∧ v.forEach blockLength count =
        some (elements, v.seek (v.position + count * blockLength))
    else v.forEach blockLength count = none := by
  induction count generalizing v with
  | zero =>
    rw [if_pos (by simpa using h)]
    exact ⟨[], rfl, by simp [forEach]⟩
  | succ count ih =>
    have hmul : (count + 1) * blockLength = blockLength + count * blockLength := by
      rw [Nat.succ_mul, Nat.add_comm]
    rw [hmul, ← Nat.add_assoc]
    -- the first element that is not there ends it, and then they are not all there
    by_cases hone : v.position + blockLength ≤ v.buffer.length
    · have hrest := ih (v := v.seek (v.position + blockLength)) hone
      rw [forEach, slice_of_le hone, Option.bind_some]
      rw [seek_position, seek_buffer, seek_seek] at hrest
      split_ifs with hall
      · rw [if_pos hall] at hrest
        obtain ⟨elements, hlength, heq⟩ := hrest
        rw [heq]
        exact ⟨_ :: elements, by rw [List.length_cons, hlength], rfl⟩
      · rw [if_neg hall] at hrest
        rw [hrest]
        rfl
    · rw [if_neg (by omega), forEach, slice_of_not_le hone]
      rfl

theorem dataLength_eq (v : View) :
    v.dataLength L = if v.position + L.dataHeader ≤ v.buffer.length then
      some (natOf ((v.buffer.drop v.position).take L.dataHeader)) else none := by
  unfold dataLength slice
  split_ifs <;> rfl

end View

end Flyweight
