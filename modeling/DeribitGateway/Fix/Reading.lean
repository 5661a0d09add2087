import DeribitGateway.Fix.Download
import DeribitGateway.Fix.MarketData
import DeribitGateway.Fix.OrderEntry
import DeribitGateway.Lib.Framing

/-!
# Reading

Both FIX streams go over what they have received message by message, and drain what they have
gone over at the end. The reader of the messages is not the repository's; it finds a message
when it is complete.

A handler that closes the connection does not stop the loop over the messages that have already
been received. `reading_of_stream` says what is handled of a stream of messages, and when that
does not depend on the segments the stream comes in.
-/

namespace DeribitGateway

open Framing StagedDownload Transducer

section

variable {M : Type}

namespace OrderEntry

variable {D : Type} [Download2 D]

/-- `check` and `parse`; `ctx` is what the handlers find, message by message. -/
def onMessage (env : Env) (ctx : ℕ → Context) (value : M → Fix.Header × Fix.Inbound) :
    Step (OrderEntry D × ℕ) M Output := fun (o, n) m =>
  let r := step env o (ctx n, .message (value m).1 (value m).2)
  (r.1.map (·, n + 1), r.2)

/-- `operator()(Read)`, for the segments of a session one after the other. -/
def reads (R : Reader M UInt8) (env : Env) (ctx : ℕ → Context)
    (value : M → Fix.Header × Fix.Inbound) (o : OrderEntry D) (segments : List (List UInt8)) :
    Connection (OrderEntry D × ℕ) UInt8 (M × List Output) :=
  R.receive (· = .closed) (onMessage env ctx value) (o, 0) segments

end OrderEntry

namespace MarketData

variable {D Y : Type} [Symbols Y] [Download State D]

/-- `parse_message`; `ctx` is what the handlers find, message by message. -/
def onMessage (env : Env) (ctx : ℕ → Context Y) (value : M → Fix.Header × Fix.MDInbound) :
    Step (MarketData D × ℕ) M Output := fun (o, n) m =>
  let r := step env o (ctx n, .message (value m).1 (value m).2)
  (r.1.map (·, n + 1), r.2)

/-- `operator()(Read)`, for the segments of a session one after the other. -/
def reads (R : Reader M UInt8) (env : Env) (ctx : ℕ → Context Y)
    (value : M → Fix.Header × Fix.MDInbound) (o : MarketData D) (segments : List (List UInt8)) :
    Connection (MarketData D × ℕ) UInt8 (M × List Output) :=
  R.receive (· = .closed) (onMessage env ctx value) (o, 0) segments

end MarketData

/-- **Both streams, and any segments**: what is handled of a stream of messages is drained, and
    the segments can only matter behind a message that closes the connection. -/
theorem reading_of_stream {D E Y : Type} [Download2 D] [Symbols Y]
    [Download MarketData.State E] (R : Reader M UInt8) (ms : List M)
    (orderEnv : OrderEntry.Env) (orderCtx : ℕ → OrderEntry.Context)
    (orderValue : M → Fix.Header × Fix.Inbound) (o : OrderEntry D)
    (marketEnv : MarketData.Env) (marketCtx : ℕ → MarketData.Context Y)
    (marketValue : M → Fix.Header × Fix.MDInbound) (m : MarketData E) :
    ReadsStream R (· = .closed) (OrderEntry.onMessage orderEnv orderCtx orderValue) (o, 0) ms
      (OrderEntry.reads R orderEnv orderCtx orderValue o) ∧
    ReadsStream R (· = .closed) (MarketData.onMessage marketEnv marketCtx marketValue) (m, 0) ms
      (MarketData.reads R marketEnv marketCtx marketValue m) :=
  ⟨readsStream .., readsStream ..⟩

end

/-! ## A log-out -/

/-- Two messages as they come over the wire. -/
inductive Wire
  | logout
  | testRequest
  deriving DecidableEq

namespace Wire

def text : Wire → String
  | logout => "8=FIX.4.4|9=90|35=5|49=DERIBITSERVER|56=ROQ_TRADING|34=1|" ++
      "52=20190907-16:56:43.398|58=invalid_credentials|10=166|"
  | testRequest => "8=FIX.4.4|9=73|35=1|49=DERIBITSERVER|56=ROQ_TRADING|34=2|" ++
      "52=20190907-16:56:43.399|112=1|10=041|"

/-- The fields end with the byte 1. -/
def bytes (m : Wire) : List UInt8 :=
  m.text.toList.map fun c => if c = '|' then 1 else c.toNat.toUInt8

def reader : Reader Wire UInt8 :=
  .ofCode bytes [.logout, .testRequest] (fun m => by cases m <;> simp)
    (fun m => by cases m <;> decide +kernel)
    (fun m m' h => by cases m <;> cases m' <;> first | rfl | exact absurd h (by decide +kernel))

def value : Wire → Fix.Header × Fix.Inbound
  | logout => (⟨1, 1567875403398000000⟩, .logout)
  | testRequest => (⟨2, 1567875403399000000⟩, .testRequest "1")

end Wire

/-- A test request behind a log-out is answered if both come in one segment, and is not received
    if it comes in the next. -/
theorem segments_matter : ¬∀ (ms : List Wire) (segments segments' : List (List UInt8)),
    segments.flatten = Wire.reader.stream ms → segments'.flatten = Wire.reader.stream ms →
    (OrderEntry.reads Wire.reader .plain (fun _ => .plain) Wire.value
        (OrderEntry.initial : OrderEntry DownloadCounter) segments).messages =
      (OrderEntry.reads Wire.reader .plain (fun _ => .plain) Wire.value
        (OrderEntry.initial : OrderEntry DownloadCounter) segments').messages := by
  intro h
  have hcloses : ClosesAt (· = .closed) (OrderEntry.onMessage .plain (fun _ => .plain) Wire.value)
      ((OrderEntry.initial : OrderEntry DownloadCounter), 0) [] .logout :=
    ⟨_, rfl, by decide +kernel, by decide +kernel⟩
  have hnil := (receive_independent_iff [Wire.logout, .testRequest]).mp
    (h [.logout, .testRequest]) [] .logout [.testRequest] rfl hcloses
  cases hnil

end DeribitGateway
