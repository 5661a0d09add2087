import DeribitGateway.Controller.Controller

/-!
# What the handlers of the controller do

A relation between the controller before a handler, the outputs and the controller after it
holds of what a stream does if it holds of the stream's own handler (`onMarketData_meets` and
the others), and so of what is put together from such handlers. `Grows` is what creating
streams does.
-/

namespace DeribitGateway

namespace Controller

open Emission StagedDownload

variable {Y R W C D : Type} {env : Env} {ctx : Context Y}

section

variable {Q : Controller Y R W C D → List Output → Controller Y R W C D → Prop} {k : ℕ}

theorem onDropCopy_meets (hQ : Composes Q) {f : DropCopy.Context → DropCopy.Handler C}
    (h : ∀ c o, c.dropCopy[k]? = some o →
      Q c ((f (c.dropCopyContext ctx k) o).2.map (.dropCopy k))
        (c.putDropCopy k (f (c.dropCopyContext ctx k) o).1)) :
    Meets Q (onDropCopy ctx k f) := by
  intro c
  unfold onDropCopy
  split
  · exact hQ.refl c
  · rename_i o ho
    exact h c o ho

theorem onWebSocket_meets (hQ : Composes Q) {f : WebSocket.Handler W Y R}
    (h : ∀ c o, c.webSocket[k]? = some o →
      Q c ((f ⟨o, c.shared, c.requests⟩).2.map (.webSocket k))
        (c.putWebSocket k (f ⟨o, c.shared, c.requests⟩).1)) :
    Meets Q (onWebSocket k f) := by
  intro c
  unfold onWebSocket
  split
  · exact hQ.refl c
  · rename_i o ho
    exact h c o ho

theorem onMarketData_meets (hQ : Composes Q) {f : MarketData.Handler D Y}
    (h : ∀ c o, c.marketData[k]? = some o →
      Q c ((f (o, c.shared)).2.map (.marketData k)) (c.putMarketData k (f (o, c.shared)).1)) :
    Meets Q (onMarketData k f) := by
  intro c
  unfold onMarketData
  split
  · exact hQ.refl c
  · rename_i o ho
    exact h c o ho

end

/-! ## New streams -/

variable [Download WebSocket.State W] [Download MarketData.State D]

/-- Streams have been created, and nothing else has changed. -/
structure Grows (c c' : Controller Y R W C D) : Prop where
  shared : c'.shared = c.shared
  requests : c'.requests = c.requests
  rest : c'.rest = c.rest
  dropCopy : c'.dropCopy = c.dropCopy
  webSocket : c.webSocket <+: c'.webSocket
  marketData : c.marketData <+: c'.marketData
  newWebSocket : ∀ k o, c.webSocket.length ≤ k → c'.webSocket[k]? = some o →
    ∃ streamId, o = .initial streamId k false
  newMarketData : ∀ k o, c.marketData.length ≤ k → c'.marketData[k]? = some o →
    ∃ streamId, o = .initial streamId k false

theorem Grows.refl (c : Controller Y R W C D) : Grows c c where
  shared := rfl
  requests := rfl
  rest := rfl
  dropCopy := rfl
  webSocket := List.prefix_rfl
  marketData := List.prefix_rfl
  newWebSocket k o hk ho := by
    rw [List.getElem?_eq_none hk] at ho
    cases ho
  newMarketData k o hk ho := by
    rw [List.getElem?_eq_none hk] at ho
    cases ho

/-- What is new behind a prefix is new behind a longer one, or in it. -/
theorem new_trans {α : Type} {P : ℕ → α → Prop} {as bs cs : List α} (hbegins : bs <+: cs)
    (h : ∀ k a, as.length ≤ k → bs[k]? = some a → P k a)
    (h' : ∀ k a, bs.length ≤ k → cs[k]? = some a → P k a) :
    ∀ k a, as.length ≤ k → cs[k]? = some a → P k a := by
  intro k a hk ha
  obtain hlt | hle := Nat.lt_or_ge k bs.length
  · apply h k a hk
    rw [List.getElem?_eq_getElem hlt]
    obtain ⟨ds, rfl⟩ := hbegins
    rwa [List.getElem?_append_left hlt, List.getElem?_eq_getElem hlt] at ha
  · exact h' k a hle ha

theorem Grows.trans {c c' c'' : Controller Y R W C D} (h : Grows c c') (h' : Grows c' c'') :
    Grows c c'' where
  shared := h'.shared.trans h.shared
  requests := h'.requests.trans h.requests
  rest := h'.rest.trans h.rest
  dropCopy := h'.dropCopy.trans h.dropCopy
  webSocket := h.webSocket.trans h'.webSocket
  marketData := h.marketData.trans h'.marketData
  newWebSocket := new_trans h'.webSocket h.newWebSocket h'.newWebSocket
  newMarketData := new_trans h'.marketData h.newMarketData h'.newMarketData

/-- The only element behind the others is the last one. -/
theorem new_single {α : Type} {as : List α} {a b : α} {k : ℕ} (hk : as.length ≤ k)
    (h : (as ++ [a])[k]? = some b) : k = as.length ∧ b = a := by
  rw [List.getElem?_append_right hk, List.getElem?_singleton] at h
  split_ifs at h with hzero
  exact ⟨by omega, (Option.some.inj h).symm⟩

theorem createMarketData_grows (c : Controller Y R W C D) : Grows c (createMarketData c) where
  shared := rfl
  requests := rfl
  rest := rfl
  dropCopy := rfl
  webSocket := List.prefix_rfl
  marketData := List.prefix_append _ _
  newWebSocket := (Grows.refl c).newWebSocket
  newMarketData k o hk ho := by
    obtain ⟨rfl, rfl⟩ := new_single hk ho
    exact ⟨_, rfl⟩

theorem createWebSocket_grows (c : Controller Y R W C D) : Grows c (createWebSocket c) where
  shared := rfl
  requests := rfl
  rest := rfl
  dropCopy := rfl
  webSocket := List.prefix_append _ _
  marketData := List.prefix_rfl
  newWebSocket k o hk ho := by
    obtain ⟨rfl, rfl⟩ := new_single hk ho
    exact ⟨_, rfl⟩
  newMarketData := (Grows.refl c).newMarketData

theorem Grows.iterate {f : Controller Y R W C D → Controller Y R W C D}
    (h : ∀ c, Grows c (f c)) (n : ℕ) (c : Controller Y R W C D) : Grows c (f^[n] c) := by
  induction n generalizing c with
  | zero => exact .refl c
  | succ n ih => exact (h c).trans (ih (f c))

theorem ensureSymbolSlices_grows (size : ℕ) (c : Controller Y R W C D) :
    Grows c (ensureSymbolSlices size c) :=
  (Grows.iterate createMarketData_grows _ c).trans (Grows.iterate createWebSocket_grows _ _)

omit [Download WebSocket.State W] in
theorem createMarketData_length (n : ℕ) (c : Controller Y R W C D) :
    (createMarketData^[n] c).marketData.length = c.marketData.length + n := by
  induction n generalizing c with
  | zero => rfl
  | succ n ih =>
    rw [Function.iterate_succ_apply, ih]
    simp only [createMarketData, List.length_append, List.length_singleton]
    omega

/-- There are market data streams for `size` slices. -/
theorem ensureSymbolSlices_length (size : ℕ) (c : Controller Y R W C D) :
    size ≤ (ensureSymbolSlices size c).marketData.length := by
  have h := (Grows.iterate createWebSocket_grows
    (size - (createMarketData^[size - c.marketData.length] c).webSocket.length)
    (createMarketData^[size - c.marketData.length] c)).marketData.length_le
  rw [createMarketData_length] at h
  simp only [ensureSymbolSlices]
  omega

/-- The symbols are appended, streams are created, and then all streams subscribe. -/
theorem symbolsUpdate_eq [Symbols Y] (env : Env) (ctx : Context Y) (new : List String)
    (c : Controller Y R W C D) :
    ∃ grown : Controller Y R W C D,
      Grows { c with shared :=
        { c.shared with symbols := (Symbols.append c.shared.symbols new).1 } } grown ∧
      (Symbols.append c.shared.symbols new).2.1 ≤ grown.marketData.length ∧
      symbolsUpdate env ctx new c = seq (emit [.symbolsUpdate new])
        (seq (subscribeMarketData env ctx (Symbols.append c.shared.symbols new).2.2)
          (subscribeWebSocket env (Symbols.append c.shared.symbols new).2.2)) grown := by
  refine ⟨ensureSymbolSlices (Symbols.append c.shared.symbols new).2.1 _,
    ensureSymbolSlices_grows _ _, ensureSymbolSlices_length _ _, ?_⟩
  simp only [symbolsUpdate, seq, emit, modify_apply, List.nil_append]

end Controller

end DeribitGateway
