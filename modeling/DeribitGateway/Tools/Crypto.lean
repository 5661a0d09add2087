import DeribitGateway.Lib.Decimal
import DeribitGateway.Lib.Transducer

/-!
# Crypto — the material of a log-on

One counter serves every log-on of an account: the signatures of the web-socket streams and
the raw data of the FIX streams. It takes the time of the call, and counts on when that time
is not new. What leaves it is an `Issued` sequence (`issued_of_run`), and everything said about
log-ons is said about those: no number twice, none before its time, and none that a text of
thirteen digits would sort wrongly.

Times are natural numbers here. The counter has 64 bits, and `counter_le_of_run` says how far
it gets.
-/

namespace DeribitGateway

open Transducer

/-- The counter is in milliseconds. In the source it has 64 bits and a sign; here it is not
    bounded, and not negative as no clock is. -/
structure Crypto where
  timestamp : ℕ := 0
deriving DecidableEq

namespace Crypto

/-- `get_sequence` -/
def getSequence (timestamp : ℕ) (crypto : Crypto) : Crypto × ℕ :=
  let sequence := if crypto.timestamp < timestamp then timestamp else crypto.timestamp + 1
  ({ timestamp := sequence }, sequence)

/-- What is signed. -/
def message (sequence : ℕ) (nonce : String) : String :=
  toString sequence ++ "\n" ++ nonce ++ "\n"

/-- A signature as it is returned, next to what has been signed. -/
structure Signature (D : Type) where
  message : String
  digest : D
  timestamp : ℕ

/-- Thirteen digits, a dot and the nonce. -/
def rawData (sequence : ℕ) (nonce : String) : String :=
  String.ofList (Decimal.padded 13 sequence) ++ "." ++ nonce

variable {D : Type} (mac : String → D) (encode : List UInt32 → String)

def createSignature (timestamp : ℕ) (nonce : String) (crypto : Crypto) : Crypto × Signature D :=
  let (crypto', sequence) := getSequence timestamp crypto
  (crypto', ⟨message sequence nonce, mac (message sequence nonce), sequence⟩)

/-- `create_raw_data(timestamp, nonce)` -/
def createRawData (timestamp : ℕ) (nonce : String) (crypto : Crypto) : Crypto × String :=
  let (crypto', sequence) := getSequence timestamp crypto
  (crypto', rawData sequence nonce)

/-- `create_raw_data(timestamp)`, with what the generator has drawn. -/
def createRawDataDrawn (timestamp : ℕ) (buffer : List UInt32) (crypto : Crypto) :
    Crypto × String :=
  createRawData timestamp (encode buffer) crypto

inductive Call where
  | createSignature (timestamp : ℕ) (nonce : String)
  | createRawData (timestamp : ℕ) (nonce : String)
  | createRawDataDrawn (timestamp : ℕ) (buffer : List UInt32)

def Call.timestamp : Call → ℕ
  | .createSignature timestamp _ => timestamp
  | .createRawData timestamp _ => timestamp
  | .createRawDataDrawn timestamp _ => timestamp

inductive Material (D : Type) where
  | signature (signature : Signature D)
  | rawData (text : String)

/-- What a call has made. -/
structure Issue (D : Type) where
  call : Call
  sequence : ℕ
  material : Material D

def Issue.timestamp (x : Issue D) : ℕ := x.call.timestamp

/-- The number a call has used is the one it leaves behind. -/
def step : Step Crypto Call (Issue D) := fun crypto call =>
  match call with
  | .createSignature timestamp nonce =>
    let (crypto', signature) := createSignature mac timestamp nonce crypto
    (some crypto', [⟨call, crypto'.timestamp, .signature signature⟩])
  | .createRawData timestamp nonce =>
    let (crypto', text) := createRawData timestamp nonce crypto
    (some crypto', [⟨call, crypto'.timestamp, .rawData text⟩])
  | .createRawDataDrawn timestamp buffer =>
    let (crypto', text) := createRawDataDrawn encode timestamp buffer crypto
    (some crypto', [⟨call, crypto'.timestamp, .rawData text⟩])

/-! ## What is issued -/

/-- The material that a call makes from a number. -/
def Call.Makes (sequence : ℕ) : Call → Material D → Prop
  | .createSignature _ nonce, .signature s =>
    s.timestamp = sequence ∧ s.message = message sequence nonce ∧ s.digest = mac s.message
  | .createRawData _ nonce, .rawData text => text = rawData sequence nonce
  | .createRawDataDrawn _ buffer, .rawData text => text = rawData sequence (encode buffer)
  | _, _ => False

def Issue.Made (x : Issue D) : Prop := x.call.Makes mac encode x.sequence x.material

/-- What can be issued behind the number `u`. -/
inductive Issued : ℕ → List (Issue D) → Prop
  | nil (u : ℕ) : Issued u []
  | cons {u : ℕ} {x : Issue D} {xs : List (Issue D)} (hnew : u < x.sequence)
      (htime : x.timestamp ≤ x.sequence) (hexact : x.sequence = x.timestamp ↔ u < x.timestamp)
      (hmade : x.Made mac encode) (hrest : Issued x.sequence xs) :
      Issued u (x :: xs)

theorem lt_getSequence (timestamp : ℕ) (crypto : Crypto) :
    crypto.timestamp < (getSequence timestamp crypto).2 := by
  show crypto.timestamp < if crypto.timestamp < timestamp then timestamp else crypto.timestamp + 1
  split <;> omega

theorem le_getSequence (timestamp : ℕ) (crypto : Crypto) :
    timestamp ≤ (getSequence timestamp crypto).2 := by
  show timestamp ≤ if crypto.timestamp < timestamp then timestamp else crypto.timestamp + 1
  split <;> omega

theorem getSequence_eq_iff (timestamp : ℕ) (crypto : Crypto) :
    (getSequence timestamp crypto).2 = timestamp ↔ crypto.timestamp < timestamp := by
  show (if crypto.timestamp < timestamp then timestamp else crypto.timestamp + 1) = timestamp ↔ _
  split <;> omega

/-- One call issues one thing, made from the number of the call's time. -/
theorem step_eq (crypto : Crypto) (call : Call) :
    ∃ material : Material D, call.Makes mac encode (getSequence call.timestamp crypto).2 material ∧
      step mac encode crypto call = (some (getSequence call.timestamp crypto).1,
        [⟨call, (getSequence call.timestamp crypto).2, material⟩]) := by
  cases call with
  | createSignature timestamp nonce => exact ⟨.signature _, ⟨rfl, rfl, rfl⟩, rfl⟩
  | createRawData timestamp nonce => exact ⟨.rawData _, rfl, rfl⟩
  | createRawDataDrawn timestamp buffer => exact ⟨.rawData _, rfl, rfl⟩

/-- **Every run issues.** One thing for each call, in order. -/
theorem issued_of_run (crypto : Crypto) (calls : List Call) :
    Issued mac encode crypto.timestamp (run (step mac encode) crypto calls).2 ∧
      (run (step mac encode) crypto calls).2.map Issue.call = calls := by
  induction calls generalizing crypto with
  | nil => exact ⟨.nil _, rfl⟩
  | cons call calls ih =>
    obtain ⟨material, hmade, hstep⟩ := step_eq mac encode crypto call
    obtain ⟨hissued, hcalls⟩ := ih (getSequence call.timestamp crypto).1
    rw [run_cons_some calls (congrArg Prod.fst hstep), hstep]
    constructor
    · exact .cons (lt_getSequence _ _) (le_getSequence _ _) (getSequence_eq_iff _ _) hmade hissued
    · exact congrArg (call :: ·) hcalls

/-- The counter gains at most one with each call on the latest time it has been given. -/
theorem counter_le_of_run {latest : ℕ} {crypto crypto' : Crypto} {calls : List Call}
    (hstart : crypto.timestamp ≤ latest) (hcalls : ∀ call ∈ calls, call.timestamp ≤ latest)
    (h : (run (step mac encode) crypto calls).1 = some crypto') :
    crypto'.timestamp ≤ latest + calls.length := by
  induction calls generalizing latest crypto with
  | nil =>
    obtain rfl := Option.some.inj h
    exact hstart
  | cons call calls ih =>
    obtain ⟨material, -, hstep⟩ := step_eq mac encode crypto call
    rw [run_cons_some calls (congrArg Prod.fst hstep)] at h
    have hcall := hcalls call List.mem_cons_self
    have hnext : (getSequence call.timestamp crypto).1.timestamp ≤ latest + 1 := by
      show (if crypto.timestamp < call.timestamp then _ else _) ≤ _
      split <;> omega
    have hle := ih hnext
      (fun call hmem => (hcalls call (List.mem_cons_of_mem _ hmem)).trans (Nat.le_succ _)) h
    rw [List.length_cons]
    omega

/-! ## What is never repeated -/

variable {mac encode} {u : ℕ} {os : List (Issue D)}

theorem Issued.lt (h : Issued mac encode u os) : ∀ x ∈ os, u < x.sequence := by
  induction h with
  | nil u => exact fun x hx => nomatch hx
  | cons hnew htime hexact hmade hrest ih =>
    intro y hy
    rcases List.mem_cons.mp hy with rfl | hy
    · exact hnew
    · exact hnew.trans (ih y hy)

theorem Issued.pairwise (h : Issued mac encode u os) : os.Pairwise (·.sequence < ·.sequence) := by
  induction h with
  | nil u => exact .nil
  | cons hnew htime hexact hmade hrest ih => exact .cons hrest.lt ih

theorem Issued.made (h : Issued mac encode u os) :
    ∀ x ∈ os, x.timestamp ≤ x.sequence ∧ x.Made mac encode := by
  induction h with
  | nil u => exact fun x hx => nomatch hx
  | cons hnew htime hexact hmade hrest ih =>
    intro y hy
    rcases List.mem_cons.mp hy with rfl | hy
    · exact ⟨htime, hmade⟩
    · exact ih y hy

/-- A call gets its own time when that is behind all numbers there are. -/
theorem Issued.exact_iff (h : Issued mac encode u os) {before after : List (Issue D)} {x : Issue D}
    (hos : os = before ++ x :: after) :
    x.sequence = x.timestamp ↔ u < x.timestamp ∧ ∀ y ∈ before, y.sequence < x.timestamp := by
  induction h generalizing before with
  | nil u => simp at hos
  | cons hnew htime hexact hmade hrest ih =>
    cases before with
    | nil =>
      obtain ⟨rfl, -⟩ := List.cons.inj hos
      simpa using hexact
    | cons z before =>
      obtain ⟨rfl, htail⟩ := List.cons.inj hos
      rw [ih htail]
      constructor
      · rintro ⟨hz, hbefore⟩
        refine ⟨hnew.trans hz, ?_⟩
        intro y hy
        rcases List.mem_cons.mp hy with rfl | hy
        · exact hz
        · exact hbefore y hy
      · rintro ⟨-, hbefore⟩
        exact ⟨hbefore _ List.mem_cons_self,
          fun y hy => hbefore y (List.mem_cons_of_mem _ hy)⟩

theorem toList_message (sequence : ℕ) (nonce : String) :
    (message sequence nonce).toList =
      Nat.toDigits 10 sequence ++ '\n' :: (nonce.toList ++ ['\n']) := by
  show (Nat.repr sequence ++ "\n" ++ nonce ++ "\n").toList = _
  simp [Nat.toList_repr]

theorem toList_rawData (sequence : ℕ) (nonce : String) :
    (rawData sequence nonce).toList = Decimal.padded 13 sequence ++ '.' :: nonce.toList := by
  simp [rawData]

/-- A message is read back up to its first line. -/
theorem message_inj {n m : ℕ} {nonce nonce' : String} (h : message n nonce = message m nonce') :
    n = m := by
  have hlist := congrArg String.toList h
  rw [toList_message, toList_message] at hlist
  exact Decimal.toDigits_append_inj (by decide) hlist

theorem rawData_lt {n m : ℕ} (h : n < m) (hm : m < 10 ^ 13) (nonce nonce' : String) :
    rawData n nonce < rawData m nonce' := by
  show (rawData n nonce).toList < (rawData m nonce').toList
  rw [toList_rawData, toList_rawData]
  exact Decimal.padded_append_lt h hm _ _

/-- The message that has been signed. -/
def Issue.message? (x : Issue D) : Option String :=
  match x.material with
  | .signature s => some s.message
  | .rawData _ => none

def Issue.rawData? (x : Issue D) : Option String :=
  match x.material with
  | .signature _ => none
  | .rawData text => some text

theorem Issue.message?_eq {x : Issue D} {text : String} (hmade : x.Made mac encode)
    (h : x.message? = some text) : ∃ nonce, text = message x.sequence nonce := by
  obtain ⟨call, sequence, material⟩ := x
  cases material with
  | signature s =>
    obtain rfl := Option.some.inj h
    cases call with
    | createSignature timestamp nonce => exact ⟨nonce, hmade.2.1⟩
    | createRawData timestamp nonce => exact hmade.elim
    | createRawDataDrawn timestamp buffer => exact hmade.elim
  | rawData raw => cases h

theorem Issue.rawData?_eq {x : Issue D} {text : String} (hmade : x.Made mac encode)
    (h : x.rawData? = some text) : ∃ nonce, text = rawData x.sequence nonce := by
  obtain ⟨call, sequence, material⟩ := x
  cases material with
  | signature s => cases h
  | rawData raw =>
    obtain rfl := Option.some.inj h
    cases call with
    | createSignature timestamp nonce => exact hmade.elim
    | createRawData timestamp nonce => exact ⟨nonce, hmade⟩
    | createRawDataDrawn timestamp buffer => exact ⟨encode buffer, hmade⟩

/-- What is issued is in order: the numbers, the messages, and the texts they make. -/
theorem Issued.ordered (h : Issued mac encode u os) : os.Pairwise fun x y =>
    x.sequence < y.sequence ∧
    (∀ a ∈ x.message?, ∀ b ∈ y.message?, a ≠ b) ∧
    (y.sequence < 10 ^ 13 → ∀ a ∈ x.rawData?, ∀ b ∈ y.rawData?, a < b) := by
  refine h.pairwise.imp_of_mem ?_
  intro x y hx hy hlt
  refine ⟨hlt, ?_, ?_⟩
  · intro a ha b hb hab
    obtain ⟨nonce, rfl⟩ := Issue.message?_eq (h.made x hx).2 ha
    obtain ⟨nonce', rfl⟩ := Issue.message?_eq (h.made y hy).2 hb
    exact absurd (message_inj hab) hlt.ne
  · intro hy13 a ha b hb
    obtain ⟨nonce, rfl⟩ := Issue.rawData?_eq (h.made x hx).2 ha
    obtain ⟨nonce', rfl⟩ := Issue.rawData?_eq (h.made y hy).2 hb
    exact rawData_lt hlt hy13 nonce nonce'

/-- **Authentication material never repeats.** -/
structure NeverRepeats (mac : String → D) (encode : List UInt32 → String) (calls : List Call)
    (os : List (Issue D)) : Prop where
  /-- One thing is issued for each call, in order. -/
  calls : os.map Issue.call = calls
  increasing : os.Pairwise (·.sequence < ·.sequence)
  late : ∀ x ∈ os, x.timestamp ≤ x.sequence
  exact : ∀ before x after, os = before ++ x :: after →
    (x.sequence = x.timestamp ↔ 0 < x.timestamp ∧ ∀ y ∈ before, y.sequence < x.timestamp)
  /-- It is made from the number and the nonce of the call. -/
  made : ∀ x ∈ os, x.Made mac encode
  different : (os.filterMap Issue.message?).Nodup
  sorted : os.Pairwise fun x y =>
    y.sequence < 10 ^ 13 → ∀ a ∈ x.rawData?, ∀ b ∈ y.rawData?, a < b

variable (mac encode)

theorem neverRepeats_of_run (calls : List Call) :
    NeverRepeats mac encode calls (run (step mac encode) {} calls).2 := by
  obtain ⟨hissued, hcalls⟩ := issued_of_run mac encode {} calls
  have hordered := hissued.ordered
  exact {
    calls := hcalls
    increasing := hissued.pairwise
    late := fun x hx => (hissued.made x hx).1
    exact := fun _ _ _ hos => hissued.exact_iff hos
    made := fun x hx => (hissued.made x hx).2
    different := List.pairwise_filterMap.mpr (hordered.imp fun h => h.2.1)
    sorted := hordered.imp fun h => h.2.2 }

/-- The counter starts at the time zero, and a call at that time gets the number one. -/
theorem sequence_at_zero :
    ¬∀ (calls : List Call) (before : List (Issue Unit)) (x : Issue Unit)
        (after : List (Issue Unit)),
      (run (step (fun _ => ()) fun _ => "") {} calls).2 = before ++ x :: after →
        (∀ y ∈ before, y.sequence < x.timestamp) → x.sequence = x.timestamp := by
  intro h
  have hzero := h [.createSignature 0 "nonce"] [] _ [] rfl fun y hy => nomatch hy
  exact absurd hzero (by decide)

end Crypto

end DeribitGateway
