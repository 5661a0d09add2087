import DeribitGateway.Controller.Sharing

/-!
# The ids of the streams

The constructor numbers the streams in the order in which it creates them, and the controller
goes on counting when the symbols need more of them, first the market data streams and then the
web socket streams, as often as there are new slices. A client of the gateway tells reports
apart by the id of the stream they come from.

`Numbered` is the invariant: the id of each stream is its place in the one order of creation.
Reports carry the id of their stream at any time, so two reports carry the same id exactly when
they come from the same stream (`stream_ids_are_distinct`), as long as the counter, which has
16 bits, does not wrap.
-/

namespace DeribitGateway

open Emission StagedDownload

/-! ## Reports of the web socket streams -/

namespace WebSocket

variable {W Y R : Type}

/-- The stream that a report comes from. -/
def Output.streamId? : Output → Option UInt16
  | .streamStatus value => some value.streamId
  | .externalLatency value => some value.streamId
  | .marketSegmentStatus value => some value.streamId
  | .topOfBook value => some value.streamId
  | .marketStatus value => some value.streamId
  | _ => none

/-- The stream keeps its id, and reports under it. -/
abbrev Reporting : Scope W Y R → List Output → Scope W Y R → Prop :=
  Labelled (fun s => s.stream.streamId) Output.streamId?

theorem ignores_reporting [Download State W] :
    Ignores (Reporting : Scope W Y R → List Output → Scope W Y R → Prop) where
  composes := composes_labelled
  frame _ _ _ hstream _ := .still hstream
  report s x h := by
    refine .single rfl ?_
    intro id hid
    cases x with
    | queued _ | sentText _ | latch => cases hid
    | streamStatus value => exact (Option.some.inj hid).symm.trans h.1
    | _ => exact (Option.some.inj hid).symm.trans h
  enqueue request _ _ s := .single rfl nofun
  subscribeChartTrades symbols _ s := .single rfl nofun
  checkSubscribeQueue ctx s := by
    refine .plain rfl ?_
    intro x hx
    obtain ⟨request, -, rfl⟩ := List.mem_map.mp hx
    rfl
  disconnected s := .single rfl fun _ hid => (Option.some.inj hid).symm

end WebSocket

/-! ## Reports of the drop copies -/

namespace DropCopy

variable {C : Type}

/-- The stream that a report comes from. -/
def Output.streamId? : Output → Option UInt16
  | .streamStatus value => some value.streamId
  | .externalLatency value => some value.streamId
  | .marketSegmentStatus value => some value.streamId
  | .fundsUpdate value => some value.streamId
  | .tradeUpdate value _ => some value.streamId
  | _ => none

/-- The stream keeps its id, and reports under it. -/
abbrev Reporting : DropCopy C → List Output → DropCopy C → Prop :=
  Labelled (fun o => o.streamId) Output.streamId?

theorem tolerates_reporting [Download State C] :
    Tolerates (Reporting : DropCopy C → List Output → DropCopy C → Prop) where
  composes := composes_labelled
  frame _ _ hstream _ := .still hstream
  report o x h := by
    refine .single rfl ?_
    intro id hid
    cases x with
    | queued _ | sentText _ | closed => cases hid
    | streamStatus value => exact (Option.some.inj hid).symm.trans h.1
    | _ => exact (Option.some.inj hid).symm.trans h
  enqueue request _ o := .single rfl nofun
  checkSubscribeQueue ctx o := by
    refine .plain rfl ?_
    intro x hx
    obtain ⟨request, -, rfl⟩ := List.mem_map.mp hx
    rfl
  disconnected o := .single rfl fun _ hid => (Option.some.inj hid).symm

end DropCopy

/-! ## The order of creation -/

namespace Controller

open Transducer

variable {Y R W C D : Type}

inductive Stream
  | rest
  | orderEntry (k : ℕ)
  | dropCopy (k : ℕ)
  | webSocket (k : ℕ)
  | marketData (k : ℕ)
  | udpSnapshot
  | udpEvents
  deriving DecidableEq

/-- What the constructor creates, for `n` accounts. The multicast streams have their ids even
    where there is no multicast. -/
def firstStreams (n : ℕ) : List Stream :=
  .rest :: ((List.range n).map .orderEntry ++ (List.range n).map .dropCopy ++
    [.webSocket 0, .marketData 0, .udpSnapshot, .udpEvents])

/-- Ids are places in the order of creation, from one on. -/
def HasId (streams : List Stream) (stream : Stream) (id : UInt16) : Prop :=
  ∃ i, streams[i]? = some stream ∧ id = .ofNat (i + 1)

/-- The stream that a report comes from, and the id it carries. -/
def Output.report? : Output → Option (Stream × UInt16)
  | .rest value => value.streamId?.map (.rest, ·)
  | .dropCopy k value => value.streamId?.map (.dropCopy k, ·)
  | .webSocket k value => value.streamId?.map (.webSocket k, ·)
  | .marketData k value => value.streamId?.map (.marketData k, ·)
  | _ => none

/-- The ids that the controller has given. -/
structure Ids where
  count : UInt16
  rest : UInt16
  dropCopy : List UInt16
  webSocket : List UInt16
  marketData : List UInt16

def ids (c : Controller Y R W C D) : Ids where
  count := c.streamId
  rest := c.rest.streamId
  dropCopy := c.dropCopy.map (·.streamId)
  webSocket := c.webSocket.map (·.streamId)
  marketData := c.marketData.map (·.streamId)

/-- The ids are given in the order of creation. -/
structure Numbered (v : Ids) (streams : List Stream) : Prop where
  nodup : streams.Nodup
  size : streams.length = 2 * v.dropCopy.length + 3 + v.webSocket.length + v.marketData.length
  count : v.count = .ofNat streams.length
  rest : HasId streams .rest v.rest
  dropCopy : ∀ k id, v.dropCopy[k]? = some id → HasId streams (.dropCopy k) id
  webSocket : ∀ k id, v.webSocket[k]? = some id → HasId streams (.webSocket k) id
  marketData : ∀ k id, v.marketData[k]? = some id → HasId streams (.marketData k) id
  createdWebSocket : ∀ k, .webSocket k ∈ streams → k < v.webSocket.length
  createdMarketData : ∀ k, .marketData k ∈ streams → k < v.marketData.length

section

variable {streams more : List Stream} {stream stream' : Stream} {id : UInt16}

theorem HasId.append (h : HasId streams stream id) : HasId (streams ++ more) stream id := by
  obtain ⟨i, hi, rfl⟩ := h
  exact ⟨i, List.getElem?_append_left (List.getElem?_eq_some_iff.mp hi).1 ▸ hi, rfl⟩

theorem hasId_last : HasId (streams ++ [stream]) stream (.ofNat (streams.length + 1)) :=
  ⟨streams.length, List.getElem?_concat_length, rfl⟩

/-- As long as the counter does not wrap. -/
theorem HasId.eq_iff {id' : UInt16} (hnodup : streams.Nodup) (hsize : streams.length < 2 ^ 16)
    (h : HasId streams stream id) (h' : HasId streams stream' id') :
    id = id' ↔ stream = stream' := by
  obtain ⟨i, hi, rfl⟩ := h
  obtain ⟨j, hj, rfl⟩ := h'
  have hilt : i < streams.length := (List.getElem?_eq_some_iff.mp hi).1
  have hjlt : j < streams.length := (List.getElem?_eq_some_iff.mp hj).1
  constructor
  · intro hids
    have hplaces := congrArg UInt16.toNat hids
    rw [UInt16.toNat_ofNat', UInt16.toNat_ofNat', Nat.mod_eq_of_lt (by omega),
      Nat.mod_eq_of_lt (by omega)] at hplaces
    obtain rfl : i = j := by omega
    exact Option.some.inj (hi.symm.trans hj)
  · rintro rfl
    rw [(List.getElem?_inj hilt hnodup).mp (hi.trans hj.symm)]

/-- One more stream of a kind. -/
theorem hasId_concat {kind : ℕ → Stream} {given : List UInt16} {stream : Stream}
    (h : ∀ k id, given[k]? = some id → HasId streams (kind k) id)
    (hnew : HasId (streams ++ [stream]) (kind given.length) id) (k : ℕ) (id' : UInt16)
    (hk : (given ++ [id])[k]? = some id') : HasId (streams ++ [stream]) (kind k) id' := by
  rcases Nat.lt_trichotomy k given.length with hlt | rfl | hgt
  · rw [List.getElem?_append_left hlt] at hk
    exact (h k id' hk).append
  · obtain rfl := Option.some.inj (List.getElem?_concat_length.symm.trans hk)
    exact hnew
  · rw [List.getElem?_eq_none (by simp; omega)] at hk
    cases hk

end

/-! ## What keeps the order -/

section

variable {v : Ids} {streams : List Stream}

theorem Numbered.next (h : Numbered v streams) : v.count + 1 = .ofNat (streams.length + 1) := by
  rw [h.count, UInt16.ofNat_add]
  rfl

theorem Numbered.createMarketData (h : Numbered v streams) :
    Numbered { v with count := v.count + 1, marketData := v.marketData ++ [v.count + 1] }
      (streams ++ [.marketData v.marketData.length]) where
  nodup := by
    refine List.nodup_append.mpr ⟨h.nodup, List.nodup_singleton _, ?_⟩
    rintro stream hstream _ hlast rfl
    obtain rfl := List.mem_singleton.mp hlast
    exact (h.createdMarketData _ hstream).false
  size := by
    simp only [List.length_append, List.length_singleton, h.size]
    omega
  count := by rw [List.length_append, List.length_singleton, h.next]
  rest := h.rest.append
  dropCopy k id hk := (h.dropCopy k id hk).append
  webSocket k id hk := (h.webSocket k id hk).append
  marketData := hasId_concat h.marketData (h.next ▸ hasId_last)
  createdWebSocket k hk := by
    rcases List.mem_append.mp hk with hk | hk
    · exact h.createdWebSocket k hk
    · cases List.mem_singleton.mp hk
  createdMarketData k hk := by
    rw [List.length_append, List.length_singleton]
    rcases List.mem_append.mp hk with hk | hk
    · exact Nat.lt_succ_of_lt (h.createdMarketData k hk)
    · cases List.mem_singleton.mp hk
      exact Nat.lt_succ_self _

theorem Numbered.createWebSocket (h : Numbered v streams) :
    Numbered { v with count := v.count + 1, webSocket := v.webSocket ++ [v.count + 1] }
      (streams ++ [.webSocket v.webSocket.length]) where
  nodup := by
    refine List.nodup_append.mpr ⟨h.nodup, List.nodup_singleton _, ?_⟩
    rintro stream hstream _ hlast rfl
    obtain rfl := List.mem_singleton.mp hlast
    exact (h.createdWebSocket _ hstream).false
  size := by
    simp only [List.length_append, List.length_singleton, h.size]
    omega
  count := by rw [List.length_append, List.length_singleton, h.next]
  rest := h.rest.append
  dropCopy k id hk := (h.dropCopy k id hk).append
  webSocket := hasId_concat h.webSocket (h.next ▸ hasId_last)
  marketData k id hk := (h.marketData k id hk).append
  createdWebSocket k hk := by
    rw [List.length_append, List.length_singleton]
    rcases List.mem_append.mp hk with hk | hk
    · exact Nat.lt_succ_of_lt (h.createdWebSocket k hk)
    · cases List.mem_singleton.mp hk
      exact Nat.lt_succ_self _
  createdMarketData k hk := by
    rcases List.mem_append.mp hk with hk | hk
    · exact h.createdMarketData k hk
    · cases List.mem_singleton.mp hk

end

/-- Streams are only added to the order, and reports carry the ids it gives. -/
def Reported (v : Ids) (xs : List (Stream × UInt16)) (v' : Ids) : Prop :=
  ∀ streams, Numbered v streams → ∃ more, Numbered v' (streams ++ more) ∧
    ∀ x ∈ xs, HasId (streams ++ more) x.1 x.2

theorem composes_reported : Composes Reported where
  refl v streams h := ⟨[], by rwa [List.append_nil], fun _ hx => absurd hx List.not_mem_nil⟩
  trans h h' streams hv := by
    obtain ⟨more, hv', hxs⟩ := h streams hv
    obtain ⟨more', hv'', hxs'⟩ := h' _ hv'
    refine ⟨more ++ more', by rwa [← List.append_assoc], ?_⟩
    intro x hx
    rw [← List.append_assoc]
    rcases List.mem_append.mp hx with hx | hx
    · exact (hxs x hx).append
    · exact hxs' x hx

/-- No stream is created, and one reports. -/
theorem reported_of_eq {v v' : Ids} {xs : List (Stream × UInt16)} (hv : v' = v)
    (hxs : ∀ streams, Numbered v streams → ∀ x ∈ xs, HasId streams x.1 x.2) :
    Reported v xs v' := by
  subst hv
  intro streams h
  refine ⟨[], by rwa [List.append_nil], ?_⟩
  rw [List.append_nil]
  exact hxs streams h

/-- What is kept of the outputs of a stream that reports under its id. -/
theorem hasId_reports {ω : Type} {label : ω → Option UInt16} {stream : Stream} {id : UInt16}
    {streams : List Stream} {os : List ω} (hlabels : ∀ x ∈ os, ∀ id' ∈ label x, id' = id)
    (h : HasId streams stream id) :
    ∀ x ∈ os.filterMap fun x => (label x).map (stream, ·), HasId streams x.1 x.2 := by
  intro x hx
  obtain ⟨y, hy, hlabel⟩ := List.mem_filterMap.mp hx
  obtain ⟨id', hid, rfl⟩ := Option.map_eq_some_iff.mp hlabel
  rw [hlabels y hy id' hid]
  exact h

variable [LimitRequest R] [Download WebSocket.State W] [Download DropCopy.State C]
  [Download MarketData.State D]

theorem nodup_firstStreams (n : ℕ) : (firstStreams n).Nodup := by
  have horder : ((List.range n).map Stream.orderEntry).Nodup :=
    List.nodup_range.map fun _ _ h => Stream.orderEntry.inj h
  have hdrop : ((List.range n).map Stream.dropCopy).Nodup :=
    List.nodup_range.map fun _ _ h => Stream.dropCopy.inj h
  simp only [firstStreams, List.nodup_cons, List.nodup_append, List.mem_append, List.mem_map,
    List.mem_cons, horder, hdrop]
  refine ⟨by simp, ⟨trivial, trivial, ?_⟩, by simp, ?_⟩
  · rintro _ ⟨i, -, rfl⟩ _ ⟨j, -, rfl⟩ ⟨⟩
  · rintro _ (⟨i, -, rfl⟩ | ⟨i, -, rfl⟩) _ (rfl | rfl | rfl | rfl | hnil)
    all_goals first | exact absurd hnil List.not_mem_nil | rintro ⟨⟩

/-- What the constructor has created. -/
theorem numbered_initial (symbols : Y) (accounts : List (String × String)) :
    Numbered (ids (initial symbols accounts : Controller Y R W C D))
      (firstStreams accounts.length) where
  nodup := nodup_firstStreams _
  size := by simp [ids, initial, firstStreams]; omega
  count := by
    simp only [ids, initial, firstStreams]
    congr 1
    simp
    omega
  rest := ⟨0, rfl, rfl⟩
  dropCopy k id hk := by
    obtain ⟨hlt, rfl⟩ : k < accounts.length ∧ id = .ofNat (accounts.length + 2 + k) := by
      simp only [ids, initial, List.getElem?_map, List.getElem?_mapIdx, Option.map_map,
        Option.map_eq_some_iff] at hk
      obtain ⟨account, haccount, rfl⟩ := hk
      exact ⟨(List.getElem?_eq_some_iff.mp haccount).1, rfl⟩
    refine ⟨accounts.length + k + 1, ?_, by congr 1; omega⟩
    simp [firstStreams, List.getElem?_append, hlt]
  webSocket k id hk := by
    obtain ⟨rfl, rfl⟩ : k = 0 ∧ id = .ofNat (2 * accounts.length + 2) := by
      cases k with
      | zero => exact ⟨rfl, (Option.some.inj hk).symm⟩
      | succ k => cases hk
    refine ⟨2 * accounts.length + 1, ?_, rfl⟩
    simp [firstStreams, two_mul]
  marketData k id hk := by
    obtain ⟨rfl, rfl⟩ : k = 0 ∧ id = .ofNat (2 * accounts.length + 3) := by
      cases k with
      | zero => exact ⟨rfl, (Option.some.inj hk).symm⟩
      | succ k => cases hk
    refine ⟨2 * accounts.length + 2, ?_, rfl⟩
    have hbehind :
        accounts.length + accounts.length + 1 - accounts.length - accounts.length = 1 := by
      omega
    simp only [firstStreams, two_mul, List.getElem?_cons_succ, List.getElem?_append,
      List.length_append, List.length_map, List.length_range]
    rw [if_neg (by omega), ← Nat.sub_sub, hbehind]
    rfl
  createdWebSocket k hk := by
    simp only [firstStreams, List.mem_cons, List.mem_append, List.mem_map] at hk
    simp at hk
    simp [ids, initial, hk]
  createdMarketData k hk := by
    simp only [firstStreams, List.mem_cons, List.mem_append, List.mem_map] at hk
    simp at hk
    simp [ids, initial, hk]

variable [Symbols Y]

theorem watched_reports (env : Env) :
    Watched env (ids : Controller Y R W C D → Ids) Output.report? (fun _ => True)
      (fun v x => ∀ streams, Numbered v streams → HasId streams x.1 x.2) Reported where
  composes := composes_reported
  told x h := by
    cases x with
    | rest value => cases value <;> first | rfl | exact h.elim
    | webSocket k value => cases value <;> first | rfl | exact h.elim
    | dropCopy _ _ | marketData _ _ => exact h.elim
    | _ => rfl
  aside h hy streams hv := by
    obtain ⟨more, hv', hxs⟩ := h streams hv
    refine ⟨more, hv', ?_⟩
    intro x hx
    rcases List.mem_append.mp hx with hx | hx
    · exact hxs x (List.mem_append_left _ hx)
    · rcases List.mem_cons.mp hx with rfl | hx
      · exact hy _ hv'
      · exact hxs x (List.mem_append_right _ hx)
  dropCopy c k o ctx event r ho h := by
    have hreporting := DropCopy.tolerates_reporting.call h
    refine ⟨?_, ?_⟩
    · simp only [ids, putDropCopy, map_set_eq ho hreporting.kept]
    · intro x hx y hy streams hv
      obtain ⟨id, hid, rfl⟩ := Option.map_eq_some_iff.mp hy
      rw [hreporting.labels x hx id hid]
      exact hv.dropCopy k _ (by simp [ids, ho])
  symbols c table := composes_reported.refl (ids c)
  emplaceSymbol c _ _ := composes_reported.refl (ids c)
  createMarketData c streams hv := by
    refine ⟨[.marketData c.marketData.length], ?_, fun _ hx => absurd hx List.not_mem_nil⟩
    have hcreated := hv.createMarketData
    simpa [ids, createMarketData, MarketData.initial] using hcreated
  createWebSocket c streams hv := by
    refine ⟨[.webSocket c.webSocket.length], ?_, fun _ hx => absurd hx List.not_mem_nil⟩
    have hcreated := hv.createWebSocket
    simpa [ids, createWebSocket, WebSocket.initial] using hcreated
  rest c ctx event r h := by
    have hlabelled := (Rest.tolerates_histories.call h).labelled
    apply reported_of_eq
    · simp only [ids, putRest, hlabelled.kept]
    · exact fun streams hv => hasId_reports hlabelled.labels hv.rest
  webSocket c k o ctx event r ho h := by
    have hlabelled := WebSocket.ignores_reporting.call h
    apply reported_of_eq
    · simp only [ids, putWebSocket, map_set_eq ho hlabelled.kept]
    · exact fun streams hv => hasId_reports hlabelled.labels (hv.webSocket k _ (by simp [ids, ho]))
  marketData c k o ctx event r ho hevent h := by
    have hlabelled := (MarketData.call_draws hevent h).labelled
    apply reported_of_eq
    · simp only [ids, putMarketData, map_set_eq ho hlabelled.kept]
    · exact fun streams hv => hasId_reports hlabelled.labels (hv.marketData k _ (by simp [ids, ho]))
  securities c k o ctx header noRelatedSym r ho h := by
    have hlabelled := ((MarketData.allows_draws _).securities MarketData.learns_draws o h).labelled
    apply reported_of_eq
    · have hkept : (MarketData.check header o).streamId = o.streamId := rfl
      simp only [ids, putMarketData, map_set_eq ho hkept]
    · exact fun streams hv => hasId_reports hlabelled.labels (hv.marketData k _ (by simp [ids, ho]))
  checkSecurities c k o ctx ho := by
    have hdraws : MarketData.Draws (o, c.shared)
        (MarketData.checkSecurities env.marketData ctx (o, c.shared)).2
        (MarketData.checkSecurities env.marketData ctx (o, c.shared)).1 :=
      (MarketData.allows_draws _).checkSecurities _
    have hlabelled := hdraws.labelled
    apply reported_of_eq
    · simp only [ids, putMarketData, map_set_eq ho hlabelled.kept]
    · exact fun streams hv => hasId_reports hlabelled.labels (hv.marketData k _ (by simp [ids, ho]))

/-- **Reports carry the same id exactly when they come from the same stream**, whichever streams
    have been created and when, and an id that the constructor gave is carried only by the
    reports of the stream it gave it to, as long as the counter does not wrap. -/
theorem stream_ids_are_distinct (env : Env) (symbols : Y) (accounts : List (String × String))
    (is : List (Context Y × Event)) {c : Controller Y R W C D} {os : List Output}
    (hrun : run (step env) (initial symbols accounts) is = (some c, os))
    (hsize : 2 * c.dropCopy.length + 3 + c.webSocket.length + c.marketData.length < 2 ^ 16) :
    (∀ x ∈ os.filterMap Output.report?, ∀ y ∈ os.filterMap Output.report?,
      x.2 = y.2 ↔ x.1 = y.1) ∧
    ∀ x ∈ os.filterMap Output.report?, ∀ stream id,
      HasId (firstStreams accounts.length) stream id → (x.2 = id ↔ x.1 = stream) := by
  have hwatched : Watched env (ids : Controller Y R W C D → Ids) Output.report? (fun _ => True)
      (fun v x => ∀ streams, Numbered v streams → HasId streams x.1 x.2) Reported :=
    watched_reports env
  have hreported := (hwatched.run (initial symbols accounts)
    fun i (_ : i ∈ is) _ _ => trivial).2 c (congrArg Prod.fst hrun)
  rw [hrun] at hreported
  obtain ⟨more, hnumbered, hids⟩ := hreported _ (numbered_initial symbols accounts)
  have hlength : (firstStreams accounts.length ++ more).length < 2 ^ 16 := by
    rw [hnumbered.size]
    simpa [ids] using hsize
  constructor
  · intro x hx y hy
    exact (hids x hx).eq_iff hnumbered.nodup hlength (hids y hy)
  · intro x hx stream id hid
    exact (hids x hx).eq_iff hnumbered.nodup hlength hid.append

/-- The client connects, the drop copy logs in, and so does the second web socket stream once a
    second symbol has needed it. -/
abbrev reportOfThree : List (Context SymbolTable × Event) :=
  [(.plain, .rest .connected), (.plain, .dropCopy 0 ⟨.ready, trivial⟩),
    (.plain, .subscribe ["A", "B"]), (.plain, .webSocket 1 ⟨.ready, trivial⟩)]

theorem three_streams_report :
    (run (step .plain) plain reportOfThree).2.filterMap Output.report? =
        [(.rest, 1), (.dropCopy 0, 3), (.webSocket 1, 9)] ∧
      ∀ x ∈ (run (step .plain) plain reportOfThree).2.filterMap Output.report?,
        ∀ y ∈ (run (step .plain) plain reportOfThree).2.filterMap Output.report?,
          x.2 = y.2 ↔ x.1 = y.1 := by
  have hfew : (run (step .plain) plain reportOfThree).1.any (fun c =>
      2 * c.dropCopy.length + 3 + c.webSocket.length + c.marketData.length < 2 ^ 16) := by
    decide +kernel
  obtain ⟨c, hrun, hsize⟩ := (Option.any_eq_true _ _).mp hfew
  have hreturns : run (step .plain) plain reportOfThree =
      (some c, (run (step .plain) plain reportOfThree).2) := Prod.ext hrun rfl
  have hids := stream_ids_are_distinct .plain (⟨0, []⟩ : SymbolTable) [("a", "key")]
    reportOfThree hreturns (of_decide_eq_true hsize)
  exact ⟨by decide +kernel, hids.1⟩

end Controller

end DeribitGateway
