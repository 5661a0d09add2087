import DeribitGateway.Fix.Handlers

/-!
# Order actions the connection refuses

`OrderEntry::send` warns when the connection refuses a message and goes on as if it had not.
Every action that gets so far then remembers the request and returns its stream id, and a mass
cancel is acknowledged as forwarded: `refused_actions_are_reported_iff`.
-/

namespace DeribitGateway

open Transducer

namespace OrderEntry

variable {D : Type}

/-- When the connection has refused a message of the action, the action throws, does not
    return, and leaves nothing behind that says it was forwarded. -/
def ReportsRefusal (o : OrderEntry D) (r : Option (OrderEntry D) × List Output) : Prop :=
  ∀ n message, .sent n message false ∈ r.2 →
    (∃ e, .threw e ∈ r.2) ∧ (∀ streamId, .returned streamId ∉ r.2) ∧
      (∀ o', r.1 = some o' → o'.msgSeqNumToRequestId = o.msgSeqNumToRequestId) ∧
      ∀ ack : CancelAllOrdersAck, .cancelAllOrdersAck ack ∈ r.2 → ack.requestStatus ≠ .forwarded

variable [Download2 D] {env : Env} {ctx : Context} {o : OrderEntry D} {action : Event}

theorem refused_actions_are_reported_iff (hready : o.ready = true) (haction : action.IsAction) :
    ReportsRefusal o (step env o (ctx, action)) ↔
      ctx.queued (o.outbound + 1) = true ∨ action.Unsupported env := by
  obtain ⟨hrefused, e, hs⟩ | ⟨-, hsupported, os, hs, message, acks, rfl, hacks⟩ :=
    step_action env ctx o haction
  · -- nothing is sent
    have hunsupported : action.Unsupported env := by simpa [hready] using hrefused
    constructor
    · intro _
      exact .inr hunsupported
    · intro _ n message hsent
      rw [hs] at hsent
      simp at hsent
  · rw [hs]
    constructor
    · intro h
      left
      by_contra hqueued
      have hsent : Output.sent (o.outbound + 1) message false ∈
          Output.sent (o.outbound + 1) message (ctx.queued (o.outbound + 1)) ::
            acks ++ [.returned env.streamId] := by
        simp [Bool.eq_false_iff.mpr hqueued]
      obtain ⟨-, hreturned, -⟩ := h _ _ hsent
      exact hreturned env.streamId (by simp)
    · intro h n message' hsent
      obtain hqueued | hunsupported := h
      · -- the only message was taken, and an acknowledgement is none
        simp only [hqueued, List.cons_append, List.mem_cons, Output.sent.injEq, List.mem_append,
          List.not_mem_nil, or_false, reduceCtorEq, and_false, false_or] at hsent
        obtain ⟨-, ack, hack, -⟩ := hacks _ hsent
        cases hack
      · exact absurd hunsupported hsupported

/-- A connection that takes no message. -/
abbrev Context.refusing : Context := { Context.plain with queued := fun _ => false }

/-- A cancel request in a session that is open, on a connection that refuses it. -/
theorem refused_cancel_is_reported_iff : ∃ o : OrderEntry DownloadCounter,
    (run (step Env.plain) initial (openSession.map (Context.plain, ·))).1 = some o ∧
      o.ready = true ∧
      (ReportsRefusal o (step Env.plain o (Context.refusing, .cancelOrder plainOrder "b")) ↔
        Context.refusing.queued (o.outbound + 1) = true ∨
          (Event.cancelOrder plainOrder "b").Unsupported Env.plain) :=
  ⟨_, rfl, by decide +kernel, refused_actions_are_reported_iff (by decide +kernel) trivial⟩

theorem refused_cancel_is_forwarded : ∃ o : OrderEntry DownloadCounter,
    (run (step Env.plain) initial (openSession.map (Context.plain, ·))).1 = some o ∧
      o.ready = true ∧
      ¬ReportsRefusal o
        (step Env.plain o (Context.refusing, .cancelOrder plainOrder "b")) := by
  refine ⟨_, rfl, by decide +kernel, ?_⟩
  intro h
  have hreturned := (h 4 (.orderCancelRequest ⟨"a", "BTC-PERPETUAL"⟩) (by decide +kernel)).2.1
  exact hreturned 1 (by decide +kernel)

end OrderEntry

end DeribitGateway
