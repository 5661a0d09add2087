import DeribitGateway.Fix.MarketData
import DeribitGateway.Lib.Batches
import DeribitGateway.Lib.Decimal

/-!
# Batching

The market data stream asks for its symbols in requests of limited size. The loop that does so
copies the symbols of each request into one buffer. `subscribeLoop` and `unsubscribeLoop` are
that loop as it is written; they end, and do what `subscribeSymbols` and `unsubscribeSymbols`
say (`subscribeLoop_eq`, `unsubscribeLoop_eq`).

The requests are `numbered` by the counter of request ids, which has 32 bits.
-/

namespace DeribitGateway

open Emission Batches

namespace MarketData

variable {D Y : Type} {env : Env} {ctx : Context Y}

theorem eachBatch_eq (maxSize : ℕ) (f : List String → Handler D Y) (rounds : ℕ)
    (symbols : List String) :
    eachBatch maxSize f rounds symbols = each f (batches maxSize rounds symbols) := by
  induction rounds generalizing symbols with
  | zero => rfl
  | succ rounds ih =>
    cases symbols with
    | nil => rfl
    | cons symbol symbols =>
      rw [batches_cons, each, ← ih]
      rfl

/-! ## The loop as it is written -/

/-- The limit of the settings, or the length of the list when there is none. -/
def maxSize (env : Env) (symbols : List String) : ℕ :=
  if env.marketDataRequestMaxSize ≠ 0 then env.marketDataRequestMaxSize else symbols.length

theorem maxSize_pos (env : Env) (symbols : List String) :
    0 < maxSize env symbols ∨ symbols = [] := by
  unfold maxSize
  split_ifs with h
  · exact .inl (Nat.pos_of_ne_zero h)
  · rw [← List.length_eq_zero_iff]
    exact (Nat.eq_zero_or_pos _).symm

variable (env ctx)

/-- Send the request for the symbols of one batch. -/
def sendBatch (request : List String → String → Fix.MarketDataRequest)
    (noRelatedSym : List String) : Handler D Y :=
  sendRequest ctx fun requestId => .marketDataRequest (request noRelatedSym requestId)

/-- The buffer starts with as many empty symbols as a request may have. -/
def requestLoop (request : List String → String → Fix.MarketDataRequest) (rounds : ℕ)
    (symbols : List String) :
    MarketData D × SharedState Y → Option ((MarketData D × SharedState Y) × List Output) :=
  loop (maxSize env symbols) (sendBatch ctx request) symbols rounds 0
    (List.replicate (maxSize env symbols) "")

/-- `subscribe(symbols)` -/
def subscribeLoop (rounds : ℕ) (symbols : List String) (s : MarketData D × SharedState Y) :
    Option ((MarketData D × SharedState Y) × List Output) :=
  if symbols.isEmpty then some (s, []) else requestLoop env ctx (subscription env) rounds symbols s

/-- `unsubscribe(symbols)` -/
def unsubscribeLoop (rounds : ℕ) (symbols : List String) (s : MarketData D × SharedState Y) :
    Option ((MarketData D × SharedState Y) × List Output) :=
  requestLoop env ctx unsubscription rounds symbols s

variable {env ctx}

theorem requestLoop_eq {request : List String → String → Fix.MarketDataRequest} {rounds : ℕ}
    {symbols : List String} (hrounds : symbols.length < rounds)
    (s : MarketData D × SharedState Y) :
    requestLoop env ctx request rounds symbols s =
      some (sendMarketDataRequests env ctx request symbols s) := by
  unfold requestLoop sendMarketDataRequests
  rw [loop_eq symbols.length (maxSize_pos env symbols) (List.length_replicate ..)
    (by simpa using hrounds) (Nat.sub_le _ _), List.drop_zero, eachBatch_eq]
  rfl

theorem subscribeLoop_eq {rounds : ℕ} {symbols : List String} (hrounds : symbols.length < rounds)
    (s : MarketData D × SharedState Y) :
    subscribeLoop env ctx rounds symbols s = some (subscribeSymbols env ctx symbols s) := by
  unfold subscribeLoop subscribeSymbols
  split_ifs
  · rfl
  · exact requestLoop_eq hrounds s

theorem unsubscribeLoop_eq {rounds : ℕ} {symbols : List String}
    (hrounds : symbols.length < rounds) (s : MarketData D × SharedState Y) :
    unsubscribeLoop env ctx rounds symbols s = some (unsubscribeSymbols env ctx symbols s) :=
  requestLoop_eq hrounds s

/-! ## The requests -/

def Output.marketDataRequest? : Output → Option Fix.MarketDataRequest
  | .sent _ (.marketDataRequest value) _ => some value
  | _ => none

def marketDataRequests (os : List Output) : List Fix.MarketDataRequest :=
  os.filterMap Output.marketDataRequest?

/-- The id that the counter stands for. -/
def requestIdOf (requestId : UInt32) : String := "roq-" ++ toString requestId.toNat

/-- The requests for some batches, behind the request id there is. -/
def numbered (request : List String → String → Fix.MarketDataRequest) :
    UInt32 → List (List String) → List Fix.MarketDataRequest
  | _, [] => []
  | requestId, batch :: rest =>
    request batch (requestIdOf (requestId + 1)) :: numbered request (requestId + 1) rest

theorem each_sendBatch (request : List String → String → Fix.MarketDataRequest)
    (rest : List (List String)) (s : MarketData D × SharedState Y) :
    marketDataRequests (each (sendBatch ctx request) rest s).2 =
      numbered request s.2.requestId rest := by
  induction rest generalizing s with
  | nil => rfl
  | cons batch rest ih => exact congrArg (_ :: ·) (ih _)

theorem sendMarketDataRequests_requests (request : List String → String → Fix.MarketDataRequest)
    (symbols : List String) (s : MarketData D × SharedState Y) :
    marketDataRequests (sendMarketDataRequests env ctx request symbols s).2 =
      numbered request s.2.requestId (batches (maxSize env symbols) symbols.length symbols) := by
  unfold sendMarketDataRequests
  rw [eachBatch_eq]
  exact each_sendBatch request _ s

/-- The request is for its batch, under its id. -/
structure Requests (request : List String → String → Fix.MarketDataRequest) : Prop where
  noRelatedSym : ∀ batch requestId, (request batch requestId).noRelatedSym = batch
  mdReqId : ∀ batch requestId, (request batch requestId).mdReqId = requestId

theorem requests_subscription (env : Env) : Requests (subscription env) :=
  ⟨fun _ _ => rfl, fun _ _ => rfl⟩

theorem requests_unsubscription : Requests unsubscription := ⟨fun _ _ => rfl, fun _ _ => rfl⟩

variable {request : List String → String → Fix.MarketDataRequest}

theorem numbered_noRelatedSym (h : Requests request) (requestId : UInt32)
    (rest : List (List String)) :
    (numbered request requestId rest).map (·.noRelatedSym) = rest := by
  induction rest generalizing requestId with
  | nil => rfl
  | cons batch rest ih =>
    rw [numbered, List.map_cons, h.noRelatedSym, ih]

theorem numbered_mdReqId (h : Requests request) (requestId : UInt32) (rest : List (List String)) :
    (numbered request requestId rest).map (·.mdReqId) =
      (List.range rest.length).map fun k => requestIdOf (requestId + UInt32.ofNat (k + 1)) := by
  induction rest generalizing requestId with
  | nil => rfl
  | cons batch rest ih =>
    rw [numbered, List.map_cons, h.mdReqId, ih, List.length_cons, List.range_succ_eq_map,
      List.map_cons, List.map_map]
    congr 1
    refine List.map_congr_left fun k _ => ?_
    show requestIdOf (requestId + 1 + UInt32.ofNat (k + 1)) =
      requestIdOf (requestId + UInt32.ofNat (k + 1 + 1))
    rw [UInt32.ofNat_add (k + 1) 1, UInt32.add_comm (UInt32.ofNat (k + 1)), ← UInt32.add_assoc]
    rfl

theorem requestIdOf_injective {a b : UInt32} (h : requestIdOf a = requestIdOf b) : a = b := by
  have hlist := congrArg String.toList h
  simp only [requestIdOf, String.toList_append, List.append_cancel_left_eq] at hlist
  have hdigits : Nat.toDigits 10 a.toNat = Nat.toDigits 10 b.toNat := by
    simpa [Nat.toList_repr] using hlist
  exact UInt32.toNat_inj.mp (Decimal.toDigits_injective hdigits)

/-- The counter comes back to an id after as many requests as it has values. -/
theorem mdReqId_nodup_iff (h : Requests request) (requestId : UInt32) (rest : List (List String)) :
    ((numbered request requestId rest).map (·.mdReqId)).Nodup ↔ rest.length ≤ 2 ^ 32 := by
  rw [numbered_mdReqId h]
  constructor
  · intro hnodup
    by_contra hlt
    have hwrap : requestId + UInt32.ofNat (0 + 1) = requestId + UInt32.ofNat (2 ^ 32 + 1) := rfl
    have heq := List.inj_on_of_nodup_map hnodup (x := 0) (y := 2 ^ 32)
      (List.mem_range.mpr (by omega)) (List.mem_range.mpr (by omega)) (congrArg requestIdOf hwrap)
    exact absurd heq (by decide)
  · intro hle
    refine List.Nodup.map_on ?_ List.nodup_range
    intro j hj k hk heq
    have hsum := requestIdOf_injective heq
    have hcancel : UInt32.ofNat (j + 1) = UInt32.ofNat (k + 1) := by
      simpa using hsum
    have hj := List.mem_range.mp hj
    have hk := List.mem_range.mp hk
    have hmod := congrArg UInt32.toNat hcancel
    simp only [UInt32.toNat_ofNat'] at hmod
    omega

/-! ## What is sent -/

/-- The requests are for the symbols, in order and each once, and none is too large. Their ids
    are different unless there are more requests than the counter has values. -/
structure Batched (limit : ℕ) (symbols : List String) (requests : List Fix.MarketDataRequest) :
    Prop where
  nonempty : ∀ r ∈ requests, 0 < r.noRelatedSym.length
  limited : limit ≠ 0 → ∀ r ∈ requests, r.noRelatedSym.length ≤ limit
  complete : requests.flatMap (·.noRelatedSym) = symbols
  different : (requests.map (·.mdReqId)).Nodup ↔ requests.length ≤ 2 ^ 32

theorem numbered_length (requestId : UInt32) (rest : List (List String)) :
    (numbered request requestId rest).length = rest.length := by
  induction rest generalizing requestId with
  | nil => rfl
  | cons batch rest ih => rw [numbered, List.length_cons, ih, List.length_cons]

theorem sendMarketDataRequests_batched (h : Requests request) (symbols : List String)
    (s : MarketData D × SharedState Y) :
    Batched env.marketDataRequestMaxSize symbols
      (marketDataRequests (sendMarketDataRequests env ctx request symbols s).2) := by
  rw [sendMarketDataRequests_requests]
  have hsyms := numbered_noRelatedSym h s.2.requestId
    (batches (maxSize env symbols) symbols.length symbols)
  have hmem : ∀ r ∈ numbered request s.2.requestId
      (batches (maxSize env symbols) symbols.length symbols),
      0 < r.noRelatedSym.length ∧ r.noRelatedSym.length ≤ maxSize env symbols := by
    intro r hr
    have hbatch : r.noRelatedSym ∈ batches (maxSize env symbols) symbols.length symbols := by
      rw [← hsyms]
      exact List.mem_map_of_mem hr
    -- the limit is zero only where there is nothing to send
    rcases maxSize_pos env symbols with hpos | rfl
    · exact mem_batches hpos hbatch
    · cases hbatch
  refine ⟨fun r hr => (hmem r hr).1, ?_, ?_, ?_⟩
  · intro hlimit r hr
    have hle := (hmem r hr).2
    rwa [maxSize, if_pos hlimit] at hle
  · rw [List.flatMap_def, hsyms]
    rcases maxSize_pos env symbols with hpos | rfl
    · exact batches_flatten hpos le_rfl
    · rfl
  · rw [numbered_length]
    exact mdReqId_nodup_iff h _ _

theorem subscribeSymbols_batched (symbols : List String) (s : MarketData D × SharedState Y) :
    Batched env.marketDataRequestMaxSize symbols
      (marketDataRequests (subscribeSymbols env ctx symbols s).2) := by
  cases symbols with
  | nil =>
    show Batched _ [] []
    exact ⟨(fun r hr => nomatch hr), (fun _ r hr => nomatch hr), rfl,
      iff_of_true List.nodup_nil (Nat.zero_le _)⟩
  | cons symbol symbols => exact sendMarketDataRequests_batched (requests_subscription env) _ s

/-- **Batching.** Both loops end, after at most as many rounds as there are symbols and one
    more, and their requests are for the symbols, each once and in order. -/
theorem loops_batched (env : Env) (ctx : Context Y) (symbols : List String)
    (s : MarketData D × SharedState Y) :
    (∃ r, (∀ rounds, symbols.length < rounds → subscribeLoop env ctx rounds symbols s = some r) ∧
      Batched env.marketDataRequestMaxSize symbols (marketDataRequests r.2)) ∧
    (∃ r, (∀ rounds, symbols.length < rounds → unsubscribeLoop env ctx rounds symbols s = some r) ∧
      Batched env.marketDataRequestMaxSize symbols (marketDataRequests r.2)) := by
  constructor
  · exact ⟨subscribeSymbols env ctx symbols s, fun _ h => subscribeLoop_eq h s,
      subscribeSymbols_batched symbols s⟩
  · exact ⟨unsubscribeSymbols env ctx symbols s, fun _ h => unsubscribeLoop_eq h s,
      sendMarketDataRequests_batched requests_unsubscription symbols s⟩

/-- One symbol a request: as many requests as symbols. -/
theorem Batched.length_eq {symbols : List String} {requests : List Fix.MarketDataRequest}
    (h : Batched 1 symbols requests) : requests.length = symbols.length := by
  have hone : ∀ r ∈ requests, r.noRelatedSym.length = 1 := fun r hr =>
    Nat.le_antisymm (h.limited Nat.one_ne_zero r hr) (h.nonempty r hr)
  rw [← h.complete, List.length_flatMap]
  clear h
  induction requests with
  | nil => rfl
  | cons r requests ih =>
    rw [List.map_cons, List.sum_cons, hone r List.mem_cons_self, List.length_cons,
      ← ih fun r hr => hone r (List.mem_cons_of_mem _ hr), Nat.add_comm]

/-- Settings with one symbol a request. -/
def Env.single : Env := { Env.plain with marketDataRequestMaxSize := 1 }

/-- With one symbol more than the counter has values, an id comes back. -/
theorem requestId_repeats :
    ¬∀ (symbols : List String) (r : (MarketData (StagedDownload.Counter State) ×
        SharedState SymbolTable) × List Output),
      subscribeLoop .single .plain (symbols.length + 1) symbols
        (MarketData.plain, Context.plain.shared) = some r →
      ((marketDataRequests r.2).map (·.mdReqId)).Nodup := by
  intro h
  have hle : ∀ symbols : List String, symbols.length ≤ 2 ^ 32 := by
    intro symbols
    have hbatched : Batched Env.single.marketDataRequestMaxSize symbols (marketDataRequests
        (subscribeSymbols .single .plain symbols (MarketData.plain, Context.plain.shared)).2) :=
      subscribeSymbols_batched symbols _
    rw [← hbatched.length_eq]
    exact hbatched.different.mp (h symbols _ (subscribeLoop_eq (Nat.lt_succ_self _) _))
  have htoo := hle (List.replicate (2 ^ 32 + 1) "BTC-PERPETUAL")
  rw [List.length_replicate] at htoo
  exact absurd htoo (by decide)

end MarketData

end DeribitGateway
