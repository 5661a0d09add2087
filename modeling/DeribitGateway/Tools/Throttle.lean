import DeribitGateway.Lib.Transducer
import Mathlib.Algebra.Order.Ring.Int
import Mathlib.Tactic.SplitIfs

/-!
# Throttle — when the exchange asks for a pause

The throttle listens to the responses of the REST client and remembers until when requests
are suspended. It keeps two things between responses: the last value of the header
Retry-After, and the end of the suspension, which nothing ever clears. A header counts when its
value has changed, and status 429 counts when there has never been a suspension.

`honours_iff` says what that means for one response, `honours_of_run_iff` for a whole run.
-/

namespace DeribitGateway

open Transducer

namespace Throttle

/-- In nanoseconds, as all times here. Those of the source have 64 bits; here they are not
    bounded. -/
def defaultBackoff : ℤ := 5 * 10 ^ 9
def blockedBackoff : ℤ := 10 * 60 * 10 ^ 9

/-- One reading of the two clocks, `get_system` and `get_realtime`. -/
structure Clock where
  system : ℕ
  realtime : ℕ
deriving DecidableEq

inductive Status where
  | forbidden
  | tooManyRequests
  | other (code : ℕ)
deriving DecidableEq

structure MessageHeader where
  name : String
  value : String
deriving DecidableEq

inductive Event where
  | messageBegin
  | messageHeader (header : MessageHeader)
  | messageEnd (status : Status)

inductive Header where
  | unknown
  | retryAfter
deriving DecidableEq

/-- The names of headers are not case sensitive. The source compares hashes of the lowered
    names, which is the same for all names that do not collide with this one. -/
def parseHeader (text : String) : Header :=
  if text.toList.map Char.toLower = "retry-after".toList then .retryAfter else .unknown

example : parseHeader "Retry-After" = .retryAfter := by decide +kernel

structure Params where
  /-- In milliseconds. -/
  retryAfter : ℤ := 0
deriving DecidableEq

end Throttle

structure Throttle where
  enabled : Bool
  params : Throttle.Params := {}
  suspendUntil : ℤ := 0
deriving DecidableEq

namespace Throttle

/-- The time a header names, on the clock of the suspension. -/
def named (now : Clock) (retryAfter : ℤ) : ℤ :=
  now.system + (retryAfter * 10 ^ 6 - now.realtime)

/-- The header names a time that is still to come. -/
def Future (now : Clock) (retryAfter : ℤ) : Prop := now.realtime < retryAfter * 10 ^ 6

instance (now : Clock) (retryAfter : ℤ) : Decidable (Future now retryAfter) :=
  inferInstanceAs (Decidable (_ < _))

def updateSuspendUntil (now : Clock) (s : Throttle) : Throttle :=
  if s.enabled = false then s
  else if Future now s.params.retryAfter then
    { s with suspendUntil := max s.suspendUntil (named now s.params.retryAfter) }
  else { s with suspendUntil := max s.suspendUntil (now.system + defaultBackoff) }

/-- The value counts when it is not the one before. -/
def retryAfter (now : Clock) (value : ℤ) (s : Throttle) : Throttle :=
  if s.params.retryAfter = value then s
  else updateSuspendUntil now { s with params := { retryAfter := value } }

def messageEnd (now : Clock) (status : Status) (s : Throttle) : Throttle :=
  if s.enabled = false then s
  else match status with
    | .forbidden => { s with suspendUntil := max s.suspendUntil (now.system + blockedBackoff) }
    | .tooManyRequests =>
      if s.suspendUntil = 0 then { s with suspendUntil := now.system + defaultBackoff } else s
    | .other _ => s

variable (fromChars : String → ℤ)

def messageHeader (now : Clock) (header : MessageHeader) (s : Throttle) : Throttle :=
  match parseHeader header.name with
  | .unknown => s
  | .retryAfter => retryAfter now (fromChars header.value) s

def handle (now : Clock) (s : Throttle) : Event → Throttle
  | .messageBegin => s
  | .messageHeader header => messageHeader fromChars now header s
  | .messageEnd status => messageEnd now status s

/-- One response, with its own value of Retry-After at most once. -/
structure Response where
  headers : List MessageHeader
  status : Status
  single : (headers.filter (parseHeader ·.name = .retryAfter)).length ≤ 1

/-- The parts of a response as the client hands them over. -/
def Response.events (response : Response) : List Event :=
  .messageBegin :: response.headers.map .messageHeader ++ [.messageEnd response.status]

def respond (s : Throttle) (x : Clock × Response) : Throttle :=
  x.2.events.foldl (handle fromChars x.1) s

/-- One step is one response. The client reads the suspension behind it. -/
def step : Step Throttle (Clock × Response) ℤ :=
  fun s x => (some (respond fromChars s x), [(respond fromChars s x).suspendUntil])

/-! ## What one part does -/

@[simp] theorem updateSuspendUntil_enabled (now : Clock) (s : Throttle) :
    (updateSuspendUntil now s).enabled = s.enabled := by
  unfold updateSuspendUntil
  split_ifs <;> rfl

theorem le_updateSuspendUntil (now : Clock) (s : Throttle) :
    s.suspendUntil ≤ (updateSuspendUntil now s).suspendUntil := by
  unfold updateSuspendUntil
  split_ifs
  · exact le_rfl
  · exact le_max_left _ _
  · exact le_max_left _ _

@[simp] theorem retryAfter_enabled (now : Clock) (value : ℤ) (s : Throttle) :
    (retryAfter now value s).enabled = s.enabled := by
  unfold retryAfter
  split_ifs
  · rfl
  · exact updateSuspendUntil_enabled now _

theorem le_retryAfter (now : Clock) (value : ℤ) (s : Throttle) :
    s.suspendUntil ≤ (retryAfter now value s).suspendUntil := by
  unfold retryAfter
  split_ifs
  · exact le_rfl
  · exact le_updateSuspendUntil now { s with params := { retryAfter := value } }

@[simp] theorem messageEnd_enabled (now : Clock) (status : Status) (s : Throttle) :
    (messageEnd now status s).enabled = s.enabled := by
  unfold messageEnd
  cases status with
  | tooManyRequests => split_ifs <;> rfl
  | _ => split_ifs <;> rfl

/-- The end of a response prolongs the suspension: no time is before the start of the clock. -/
theorem le_messageEnd (now : Clock) (status : Status) (s : Throttle) :
    s.suspendUntil ≤ (messageEnd now status s).suspendUntil := by
  unfold messageEnd
  cases status with
  | forbidden =>
    split
    · exact le_rfl
    · exact le_max_left _ _
  | tooManyRequests =>
    split_ifs with _ hzero
    · exact le_rfl
    · show s.suspendUntil ≤ now.system + defaultBackoff
      unfold defaultBackoff
      omega
    · exact le_rfl
  | other code => split_ifs <;> exact le_rfl

/-! ## What one response does -/

/-- The header that counts. -/
abbrev MessageHeader.isRetryAfter (header : MessageHeader) : Prop :=
  parseHeader header.name = .retryAfter

/-- The value a response names itself. -/
def Response.own (response : Response) : Option ℤ :=
  (response.headers.find? (·.isRetryAfter)).map (fromChars ·.value)

theorem messageHeader_unknown {now : Clock} {header : MessageHeader} {s : Throttle}
    (h : ¬header.isRetryAfter) : messageHeader fromChars now header s = s := by
  unfold messageHeader
  cases hparse : parseHeader header.name with
  | unknown => rfl
  | retryAfter => exact absurd hparse h

/-- Headers without a Retry-After among them change nothing. -/
theorem headers_unknown {now : Clock} {headers : List MessageHeader} {s : Throttle}
    (h : ∀ header ∈ headers, ¬header.isRetryAfter) :
    headers.foldl (fun s header => messageHeader fromChars now header s) s = s := by
  induction headers with
  | nil => rfl
  | cons header headers ih =>
    rw [List.foldl_cons, messageHeader_unknown fromChars (h header List.mem_cons_self)]
    exact ih fun header hmem => h header (List.mem_cons_of_mem _ hmem)

/-- The headers of a response do what its own value does. -/
theorem headers_single (now : Clock) {headers : List MessageHeader} (s : Throttle)
    (h : (headers.filter (·.isRetryAfter)).length ≤ 1) :
    headers.foldl (fun s header => messageHeader fromChars now header s) s =
      match (headers.find? (·.isRetryAfter)).map (fromChars ·.value) with
      | none => s
      | some value => retryAfter now value s := by
  induction headers with
  | nil => rfl
  | cons header headers ih =>
    by_cases hown : header.isRetryAfter
    · rw [List.filter_cons_of_pos (by simpa using hown), List.length_cons] at h
      have hrest : headers.filter (·.isRetryAfter) = [] :=
        List.eq_nil_of_length_eq_zero (by omega)
      rw [List.foldl_cons, List.find?_cons_of_pos (by simpa using hown), headers_unknown]
      · simp only [messageHeader, hown, Option.map_some]
      · intro other hmem
        simpa using List.filter_eq_nil_iff.mp hrest other hmem
    · rw [List.filter_cons_of_neg (by simpa using hown)] at h
      rw [List.foldl_cons, List.find?_cons_of_neg (by simpa using hown),
        messageHeader_unknown fromChars hown, ih h]

/-- The state between the headers and the end of a response. -/
def headed (s : Throttle) (x : Clock × Response) : Throttle :=
  match x.2.own fromChars with
  | none => s
  | some value => retryAfter x.1 value s

theorem respond_eq (s : Throttle) (x : Clock × Response) :
    respond fromChars s x = messageEnd x.1 x.2.status (headed fromChars s x) := by
  obtain ⟨now, response⟩ := x
  have hheaders := headers_single fromChars now s response.single
  unfold respond Response.events headed Response.own
  rw [List.foldl_append, List.foldl_cons (l := response.headers.map _), List.foldl_map]
  exact congrArg (messageEnd now response.status) hheaders

theorem headed_enabled (s : Throttle) (x : Clock × Response) :
    (headed fromChars s x).enabled = s.enabled := by
  unfold headed
  cases x.2.own fromChars with
  | none => rfl
  | some value => exact retryAfter_enabled x.1 value s

@[simp] theorem respond_enabled (s : Throttle) (x : Clock × Response) :
    (respond fromChars s x).enabled = s.enabled := by
  rw [respond_eq, messageEnd_enabled, headed_enabled]

theorem le_headed (s : Throttle) (x : Clock × Response) :
    s.suspendUntil ≤ (headed fromChars s x).suspendUntil := by
  unfold headed
  cases x.2.own fromChars with
  | none => exact le_rfl
  | some value => exact le_retryAfter x.1 value s

theorem le_respond (s : Throttle) (x : Clock × Response) :
    s.suspendUntil ≤ (respond fromChars s x).suspendUntil := by
  rw [respond_eq]
  exact (le_headed fromChars s x).trans (le_messageEnd _ _ _)

/-! ## What the exchange asks for -/

/-- The suspension reaches far enough for status 429. -/
def Backs (x : Clock × Response) (suspendUntil : ℤ) : Prop :=
  x.1.system + defaultBackoff ≤ suspendUntil ∨
    ∃ value ∈ x.2.own fromChars, Future x.1 value ∧ named x.1 value ≤ suspendUntil

/-- What is asked for behind one response. -/
structure Honours (s : Throttle) (x : Clock × Response) (s' : Throttle) : Prop where
  monotone : s.suspendUntil ≤ s'.suspendUntil
  blocked : x.2.status = .forbidden → x.1.system + blockedBackoff ≤ s'.suspendUntil
  limited : x.2.status = .tooManyRequests → Backs fromChars x s'.suspendUntil

/-- Status 429 counts: there was no suspension, the response brings a new value, or the
    suspension there is reaches far enough. -/
def Counts (s : Throttle) (x : Clock × Response) : Prop :=
  s.suspendUntil = 0 ∨ (∃ value ∈ x.2.own fromChars, s.params.retryAfter ≠ value) ∨
    Backs fromChars x s.suspendUntil

theorem respond_blocked {s : Throttle} {x : Clock × Response} (henabled : s.enabled = true)
    (h : x.2.status = .forbidden) :
    x.1.system + blockedBackoff ≤ (respond fromChars s x).suspendUntil := by
  have hheaded := headed_enabled fromChars s x
  rw [respond_eq, h, messageEnd, if_neg (by simp [hheaded, henabled])]
  exact le_max_right _ _

theorem Backs.mono {x : Clock × Response} {u u' : ℤ} (h : Backs fromChars x u) (hu : u ≤ u') :
    Backs fromChars x u' := by
  rcases h with h | ⟨value, hvalue, hfuture, h⟩
  · exact .inl (h.trans hu)
  · exact .inr ⟨value, hvalue, hfuture, h.trans hu⟩

/-- A new value reaches far enough by itself. -/
theorem headed_backs {s : Throttle} {x : Clock × Response} {value : ℤ}
    (henabled : s.enabled = true) (hown : value ∈ x.2.own fromChars)
    (h : s.params.retryAfter ≠ value) : Backs fromChars x (headed fromChars s x).suspendUntil := by
  have heq : headed fromChars s x =
      updateSuspendUntil x.1 { s with params := { retryAfter := value } } := by
    unfold headed
    rw [Option.mem_def.mp hown]
    exact if_neg h
  rw [heq, updateSuspendUntil, if_neg (by simp [henabled])]
  split_ifs with hfuture
  · exact .inr ⟨value, hown, hfuture, le_max_right _ _⟩
  · exact .inl (le_max_right _ _)

/-- Without a new value the headers leave the state alone. -/
theorem headed_eq {s : Throttle} {x : Clock × Response}
    (h : ¬∃ value ∈ x.2.own fromChars, s.params.retryAfter ≠ value) : headed fromChars s x = s := by
  unfold headed
  cases hown : x.2.own fromChars with
  | none => rfl
  | some value =>
    by_cases heq : s.params.retryAfter = value
    · exact if_pos heq
    · exact absurd ⟨value, hown, heq⟩ h

/-- Status 429 is honoured exactly when it counts. -/
theorem respond_limited_iff {s : Throttle} {x : Clock × Response} (henabled : s.enabled = true)
    (h : x.2.status = .tooManyRequests) :
    Backs fromChars x (respond fromChars s x).suspendUntil ↔ Counts fromChars s x := by
  have hheaded := headed_enabled fromChars s x
  by_cases hnew : ∃ value ∈ x.2.own fromChars, s.params.retryAfter ≠ value
  · obtain ⟨value, hown, hne⟩ := hnew
    refine ⟨fun _ => .inr (.inl ⟨value, hown, hne⟩), fun _ => ?_⟩
    rw [respond_eq]
    exact (headed_backs fromChars henabled hown hne).mono fromChars (le_messageEnd _ _ _)
  · rw [respond_eq, headed_eq fromChars hnew, h, messageEnd, if_neg (by simp [henabled])]
    split_ifs with hzero
    · exact ⟨fun _ => .inl hzero, fun _ => .inl le_rfl⟩
    · constructor
      · intro hbacks
        exact .inr (.inr hbacks)
      · rintro (h0 | hvalue | hbacks)
        · exact absurd h0 hzero
        · exact absurd hvalue hnew
        · exact hbacks

/-- One response of an enabled throttle. -/
theorem honours_iff {s : Throttle} {x : Clock × Response} (henabled : s.enabled = true) :
    Honours fromChars s x (respond fromChars s x) ↔
      (x.2.status = .tooManyRequests → Counts fromChars s x) := by
  constructor
  · intro h hstatus
    exact (respond_limited_iff fromChars henabled hstatus).mp (h.limited hstatus)
  · intro h
    exact ⟨le_respond fromChars s x, respond_blocked fromChars henabled,
      fun hstatus => (respond_limited_iff fromChars henabled hstatus).mpr (h hstatus)⟩

/-! ## Runs -/

/-- The throttle of a gateway that limits its rate. -/
def start : Throttle := { enabled := true }

theorem step_enabled (s : Throttle) (x : Clock × Response) (s' : Throttle)
    (h : s.enabled = true) (hs : (step fromChars s x).1 = some s') : s'.enabled = true := by
  obtain rfl := Option.some.inj hs
  rw [respond_enabled, h]

/-- **What the exchange asks for.** A run does all of it exactly when every status 429 in it
    counts where it comes. -/
theorem honours_of_run_iff (xs : List (Clock × Response)) :
    Guarded (step fromChars) (fun s x => Honours fromChars s x (respond fromChars s x)) start xs ↔
      Guarded (step fromChars) (fun s x => x.2.status = .tooManyRequests → Counts fromChars s x)
        start xs := by
  exact Guarded.congr (I := (·.enabled = true)) (A := fun _ _ => True)
    (fun s x s' h _ => step_enabled fromChars s x s' h)
    (fun _ _ henabled _ => honours_iff fromChars henabled) rfl
    (guarded_of_forall fun _ _ _ => trivial)

/-- Status 429 at one second, and again long after the suspension for it has ended. -/
def limitedTwice : List (Clock × Response) :=
  [(⟨10 ^ 9, 10 ^ 9⟩, ⟨[], .tooManyRequests, by decide⟩),
    (⟨10 ^ 11, 10 ^ 11⟩, ⟨[], .tooManyRequests, by decide⟩)]

theorem limitedTwice_not_honoured :
    ¬∀ fromChars : String → ℤ, Guarded (step fromChars)
      (fun s x => Honours fromChars s x (respond fromChars s x)) start limitedTwice := by
  intro h
  obtain ⟨-, hsecond⟩ := h fun _ => 0
  obtain ⟨hlast, -⟩ := hsecond _ rfl
  rcases hlast.limited rfl with hlate | ⟨value, hvalue, -⟩
  · exact absurd hlate (by decide +kernel)
  · cases hvalue

end Throttle

end DeribitGateway
