import DeribitGateway.Controller.Announcements

/-!
# Watching the controller

A result about the controller often looks at a part of it, `view`, and at some of its outputs,
`keep`. `Watched` says what a relation between these has to allow for: what the streams do each
by themselves, the symbols and streams that come to the controller, and nothing else. What the
drop copies put out comes in the middle of what another stream does, so what is kept of it
(`Aside`) has to be allowed for anywhere. Then the relation holds of every call of the
controller (`Watched.call`), whatever the streams tell each other on the way, and of every run
(`Watched.run`).
-/

namespace DeribitGateway

namespace Controller

open Emission StagedDownload Transducer

variable {Y R W C D : Type} {ν β : Type} {env : Env} {ctx : Context Y}

/-- What the controller is told. A stream's own output of it is not put out. -/
def Output.IsTold : Output → Prop
  | .currenciesUpdate _ | .symbolsUpdate _ | .latch => True
  | .rest (.currenciesUpdate _) | .rest (.symbolsUpdate _) => True
  | .webSocket _ .latch => True
  | _ => False

/-- What a client asks for. -/
def Event.asked : Event → List String
  | .subscribe symbols => symbols
  | _ => []

/-- What is looked at of the controller and of the outputs is related. -/
def Seen (view : Controller Y R W C D → ν) (keep : Output → Option β)
    (Q : ν → List β → ν → Prop) (c : Controller Y R W C D) (os : List Output)
    (c' : Controller Y R W C D) : Prop :=
  Q (view c) (os.filterMap keep) (view c')

theorem composes_seen {view : Controller Y R W C D → ν} {keep : Output → Option β}
    {Q : ν → List β → ν → Prop} (hQ : Composes Q) : Composes (Seen view keep Q) where
  refl c := hQ.refl (view c)
  trans h h' := by
    unfold Seen
    rw [List.filterMap_append]
    exact hQ.trans h h'

theorem map_set_eq {α β : Type} {f : α → β} {as : List α} {k : ℕ} {a b : α}
    (ha : as[k]? = some a) (hb : f b = f a) : (as.set k b).map f = as.map f := by
  obtain ⟨hk, rfl⟩ := List.getElem?_eq_some_iff.mp ha
  apply List.ext_getElem
  · simp
  · intro i _ _
    rw [List.getElem_map, List.getElem_map, List.getElem_set]
    split_ifs with h
    · subst h
      exact hb
    · rfl

/-- The relation allows for what the streams do, for streams that are new and for symbols that
    clients may ask for, and does not look at the state of the drop copies. -/
structure Watched [Symbols Y] [LimitRequest R] [Download WebSocket.State W]
    [Download DropCopy.State C] [Download MarketData.State D] (env : Env)
    (view : Controller Y R W C D → ν) (keep : Output → Option β) (Asked : String → Prop)
    (Aside : ν → β → Prop) (Q : ν → List β → ν → Prop) : Prop where
  composes : Composes Q
  told : ∀ x, x.IsTold → keep x = none
  aside : ∀ {v v' : ν} {xs zs : List β} {y : β}, Q v (xs ++ zs) v' → Aside v' y →
    Q v (xs ++ y :: zs) v'
  dropCopy : ∀ (c : Controller Y R W C D) k o ctx event r, c.dropCopy[k]? = some o →
    DropCopy.call env.dropCopy ctx event o = some r → view (c.putDropCopy k r.1) = view c ∧
      ∀ x ∈ r.2, ∀ y ∈ keep (.dropCopy k x), Aside (view c) y
  symbols : ∀ c table,
    Q (view c) [] (view { c with shared := { c.shared with symbols := table } })
  emplaceSymbol : ∀ c symbol, Asked symbol →
    Q (view c) [] (view { c with shared := (c.shared.emplaceSymbol symbol).1 })
  createMarketData : ∀ c, Q (view c) [] (view (createMarketData c))
  createWebSocket : ∀ c, Q (view c) [] (view (createWebSocket c))
  rest : ∀ c ctx event r, Rest.call env.rest ctx event ⟨c.rest, c.shared, c.requests⟩ = some r →
    Q (view c) (r.2.filterMap fun x => keep (.rest x)) (view (c.putRest r.1))
  webSocket : ∀ c k o ctx event r, c.webSocket[k]? = some o →
    WebSocket.call env.webSocket ctx event ⟨o, c.shared, c.requests⟩ = some r →
    Q (view c) (r.2.filterMap fun x => keep (.webSocket k x)) (view (c.putWebSocket k r.1))
  marketData : ∀ c k o ctx event r, c.marketData[k]? = some o →
    (∀ header noRelatedSym, event ≠ .message header (.securityList noRelatedSym)) →
    MarketData.call env.marketData ctx event (o, c.shared) = some r →
    Q (view c) (r.2.filterMap fun x => keep (.marketData k x)) (view (c.putMarketData k r.1))
  securities : ∀ c k o ctx header noRelatedSym r, c.marketData[k]? = some o →
    MarketData.securities env.marketData ctx o.streamId 0 noRelatedSym c.shared = some r →
    Q (view c) (r.2.1.filterMap fun x => keep (.marketData k x))
      (view (c.putMarketData k (MarketData.check header o, r.1)))
  checkSecurities : ∀ c k o ctx, c.marketData[k]? = some o →
    Q (view c) ((MarketData.checkSecurities env.marketData ctx (o, c.shared)).2.filterMap
        fun x => keep (.marketData k x))
      (view (c.putMarketData k (MarketData.checkSecurities env.marketData ctx (o, c.shared)).1))

namespace Watched

variable {view : Controller Y R W C D → ν} {keep : Output → Option β} {Asked : String → Prop}
  {Aside : ν → β → Prop} {Q : ν → List β → ν → Prop}

/-- Nothing is seen to change, and only what stands aside is put out. -/
abbrev Unseen (view : Controller Y R W C D → ν) (keep : Output → Option β)
    (Aside : ν → β → Prop) :
    Controller Y R W C D → List Output → Controller Y R W C D → Prop :=
  Seen view keep fun v xs v' => (∀ y ∈ xs, Aside v y) ∧ v' = v

theorem composes_unseen : Composes (Unseen view keep Aside) := by
  refine composes_seen ⟨fun v => ⟨fun _ hy => absurd hy List.not_mem_nil, rfl⟩, ?_⟩
  rintro v v' v'' xs xs' ⟨hxs, rfl⟩ ⟨hxs', rfl⟩
  exact ⟨fun y hy => (List.mem_append.mp hy).elim (hxs y) (hxs' y), rfl⟩

variable [Symbols Y] [LimitRequest R] [Download WebSocket.State W] [Download DropCopy.State C]
  [Download MarketData.State D]

theorem seen (hQ : Watched env view keep Asked Aside Q) : Composes (Seen view keep Q) :=
  composes_seen hQ.composes

/-- What stands aside may come anywhere. -/
theorem insert (hQ : Watched env view keep Asked Aside Q) {v v' : ν} {xs ys zs : List β}
    (h : Q v (xs ++ zs) v') (hys : ∀ y ∈ ys, Aside v' y) : Q v (xs ++ (ys ++ zs)) v' := by
  induction ys with
  | nil => exact h
  | cons y ys ih =>
    exact hQ.aside (ih fun z hz => hys z (List.mem_cons_of_mem y hz)) (hys y List.mem_cons_self)

theorem seen_of_unseen (hQ : Watched env view keep Asked Aside Q) {c c' : Controller Y R W C D}
    {os : List Output} (h : Unseen view keep Aside c os c') : Seen view keep Q c os c' := by
  obtain ⟨hos, hview⟩ := h
  unfold Seen
  rw [hview, ← List.nil_append (os.filterMap keep), ← List.append_nil (os.filterMap keep)]
  exact hQ.insert (hQ.composes.refl (view c)) hos

/-! ## What the controller is told -/

/-- What a drop copy does. -/
theorem dropCopy_unseen (hQ : Watched env view keep Asked Aside Q) {c : Controller Y R W C D}
    {k : ℕ} {o : DropCopy C} {ctx : DropCopy.Context} {event : DropCopy.Event}
    {r : DropCopy C × List DropCopy.Output} (ho : c.dropCopy[k]? = some o)
    (h : DropCopy.call env.dropCopy ctx event o = some r) :
    Unseen view keep Aside c (r.2.map (.dropCopy k)) (c.putDropCopy k r.1) := by
  obtain ⟨hview, haside⟩ := hQ.dropCopy c k o ctx event r ho h
  refine ⟨?_, hview⟩
  intro y hy
  rw [List.filterMap_map] at hy
  obtain ⟨x, hx, hkeep⟩ := List.mem_filterMap.mp hy
  exact haside x hx y hkeep

theorem onDropCopy_unseen (hQ : Watched env view keep Asked Aside Q) (ctx : Context Y) (k : ℕ)
    (event : DropCopy.Event) {f : DropCopy.Context → DropCopy.Handler C}
    (hf : ∀ ctx o, DropCopy.call env.dropCopy ctx event o = some (f ctx o)) :
    Meets (Unseen view keep Aside) (onDropCopy ctx k f : Handler Y R W C D) := by
  apply onDropCopy_meets composes_unseen
  intro c o ho
  exact hQ.dropCopy_unseen ho (hf _ o)

theorem emit_unseen (hQ : Watched env view keep Asked Aside Q) (x : Output) (h : x.IsTold) :
    Meets (Unseen view keep Aside) (emit [x] : Handler Y R W C D) := by
  intro c
  exact ⟨by simp [hQ.told x h], rfl⟩

theorem latch (hQ : Watched env view keep Asked Aside Q) (ctx : Context Y) :
    Meets (Unseen view keep Aside) (latch env ctx : Handler Y R W C D) := by
  apply composes_unseen.seq (hQ.emit_unseen .latch trivial)
  intro c
  exact composes_unseen.each (fun k => hQ.onDropCopy_unseen ctx k .latch fun _ _ => rfl) _ c

theorem currenciesUpdate (hQ : Watched env view keep Asked Aside Q) (ctx : Context Y)
    (currencies : List String) :
    Meets (Unseen view keep Aside) (currenciesUpdate env ctx currencies : Handler Y R W C D) := by
  apply composes_unseen.seq (hQ.emit_unseen (.currenciesUpdate currencies) trivial)
  intro c
  exact composes_unseen.each
    (fun k => hQ.onDropCopy_unseen ctx k (.currenciesUpdate currencies) fun _ _ => rfl) _ c

theorem subscribeMarketData (hQ : Watched env view keep Asked Aside Q) (ctx : Context Y)
    (startFrom : ℕ) :
    Meets (Seen view keep Q) (subscribeMarketData env ctx startFrom : Handler Y R W C D) := by
  have hR := hQ.seen
  intro c
  refine hR.each (fun k => onMarketData_meets hR ?_) _ c
  intro c o ho
  unfold Seen
  rw [List.filterMap_map]
  exact hQ.marketData c k o _ (.subscribe startFrom) _ ho nofun rfl

theorem subscribeWebSocket (hQ : Watched env view keep Asked Aside Q) (startFrom : ℕ) :
    Meets (Seen view keep Q) (subscribeWebSocket env startFrom : Handler Y R W C D) := by
  have hR := hQ.seen
  intro c
  refine hR.each (fun k => onWebSocket_meets hR ?_) _ c
  intro c o ho
  unfold Seen
  rw [List.filterMap_map]
  exact hQ.webSocket c k o .plain (.subscribe startFrom) _ ho rfl

theorem iterate (hQ : Watched env view keep Asked Aside Q)
    {f : Controller Y R W C D → Controller Y R W C D} (hf : ∀ c, Q (view c) [] (view (f c)))
    (n : ℕ) (c : Controller Y R W C D) : Q (view c) [] (view (f^[n] c)) := by
  induction n generalizing c with
  | zero => exact hQ.composes.refl (view c)
  | succ n ih =>
    rw [Function.iterate_succ_apply]
    exact hQ.composes.trans (hf c) (ih (f c))

theorem symbolsUpdate (hQ : Watched env view keep Asked Aside Q) (ctx : Context Y)
    (symbols : List String) :
    Meets (Seen view keep Q) (symbolsUpdate env ctx symbols : Handler Y R W C D) := by
  have hR := hQ.seen
  refine hR.seq (fun c => hQ.seen_of_unseen (hQ.emit_unseen (.symbolsUpdate symbols) trivial c)) ?_
  intro c
  have htable : Seen view keep Q c [] { c with shared :=
      { c.shared with symbols := (Symbols.append c.shared.symbols symbols).1 } } :=
    hQ.symbols c _
  refine hR.after htable (hR.seq ?_ (hR.seq (hQ.subscribeMarketData ctx _)
    (hQ.subscribeWebSocket _)) _)
  intro c
  exact hQ.composes.trans (hQ.iterate hQ.createMarketData _ c) (hQ.iterate hQ.createWebSocket _ _)

/-! ## Calls -/

/-- What a stream has put out is put out by the controller, with what stands aside in between. -/
def Delivered {α : Type} (view : Controller Y R W C D → ν) (keep : Output → Option β)
    (Q : ν → List β → ν → Prop) (wrap : α → Output) (os : List α) :
    Controller Y R W C D → List Output → Controller Y R W C D → Prop :=
  Seen view keep fun v xs v' => v' = v ∧ ∀ v₀ front,
    Q v₀ (front ++ os.filterMap fun x => keep (wrap x)) v → Q v₀ (front ++ xs) v

/-- What the controller is told is not looked at, and the rest is put out. -/
theorem each_delivered {α : Type} (hQ : Watched env view keep Asked Aside Q)
    {deliver : α → Handler Y R W C D} {wrap : α → Output} {os : List α}
    (hdeliver : ∀ x ∈ os, (keep (wrap x) = none ∧ Meets (Unseen view keep Aside) (deliver x)) ∨
      deliver x = emit [wrap x]) (c : Controller Y R W C D) :
    Delivered view keep Q wrap os c (each deliver os c).2 (each deliver os c).1 := by
  induction os generalizing c with
  | nil => exact ⟨rfl, fun _ _ h => h⟩
  | cons x os ih =>
    obtain ⟨hview, hrest⟩ := ih (fun y hy => hdeliver y (List.mem_cons_of_mem x hy))
      (deliver x c).1
    unfold Delivered Seen
    simp only [each, seq_fst, seq_snd, List.filterMap_append]
    rcases hdeliver x List.mem_cons_self with ⟨hnone, hunseen⟩ | hemit
    · obtain ⟨haside, hview'⟩ := hunseen c
      refine ⟨hview.trans hview', ?_⟩
      intro v₀ front h
      rw [hview'] at hrest
      refine hQ.insert (hrest v₀ front ?_) haside
      rwa [List.filterMap_cons, hnone] at h
    · rw [hemit] at hview hrest ⊢
      refine ⟨hview, ?_⟩
      intro v₀ front h
      rw [← List.append_assoc]
      apply hrest v₀
      rwa [← List.singleton_append, List.filterMap_append, ← List.append_assoc] at h

theorem deliverRest (hQ : Watched env view keep Asked Aside Q) (ctx : Context Y)
    {os : List Rest.Output} (hquiet : Rest.Quiet os) (c : Controller Y R W C D) :
    Delivered view keep Q .rest os c (each (Controller.deliverRest env ctx) os c).2
      (each (Controller.deliverRest env ctx) os c).1 := by
  refine hQ.each_delivered ?_ c
  intro x hx
  cases x with
  | currenciesUpdate currencies => exact .inl ⟨hQ.told _ trivial, hQ.currenciesUpdate ctx _⟩
  | symbolsUpdate symbols => exact (hquiet _ hx).elim
  | _ => exact .inr rfl

theorem deliverWebSocket (hQ : Watched env view keep Asked Aside Q) (ctx : Context Y) (k : ℕ)
    (os : List WebSocket.Output) (c : Controller Y R W C D) :
    Delivered view keep Q (.webSocket k) os c
      (each (Controller.deliverWebSocket env ctx k) os c).2
      (each (Controller.deliverWebSocket env ctx k) os c).1 := by
  refine hQ.each_delivered ?_ c
  intro x _
  cases x with
  | latch => exact .inl ⟨hQ.told _ trivial, hQ.latch ctx⟩
  | _ => exact .inr rfl

theorem subscribe (hQ : Watched env view keep Asked Aside Q) (ctx : Context Y)
    {symbols : List String} (hasked : ∀ symbol ∈ symbols, Asked symbol) :
    Meets (Seen view keep Q) (subscribe env ctx symbols : Handler Y R W C D) := by
  intro c
  have hemplaced : ∀ (symbols : List String) (c : Controller Y R W C D),
      (∀ symbol ∈ symbols, Asked symbol) →
        Q (view c) [] (view { c with shared := (emplaceSymbols symbols c.shared).1 }) := by
    intro symbols
    induction symbols with
    | nil => exact fun c _ => hQ.composes.refl (view c)
    | cons symbol symbols ih =>
      intro c hasked
      exact hQ.composes.trans (hQ.emplaceSymbol c symbol (hasked symbol List.mem_cons_self))
        (ih { c with shared := (c.shared.emplaceSymbol symbol).1 }
          fun symbol' hmem => hasked symbol' (List.mem_cons_of_mem _ hmem))
  have hseen : Seen view keep Q c [] { c with shared := (emplaceSymbols symbols c.shared).1 } :=
    hemplaced symbols c hasked
  exact hQ.seen.after hseen (hQ.symbolsUpdate ctx _ _)

theorem callRest (hQ : Watched env view keep Asked Aside Q) {event : Rest.Event}
    {c : Controller Y R W C D} {r : Controller Y R W C D × List Output}
    (h : callRest env ctx event c = some r) :
    Seen view keep Q c r.2 r.1 := by
  obtain ⟨⟨s, os⟩, hcall, rfl⟩ := Option.map_eq_some_iff.mp h
  have hrest := hQ.rest c _ _ _ hcall
  obtain ⟨-, reports, found, hquiet, -, hos⟩ := Rest.call_brings hcall
  obtain ⟨hview, hdelivered⟩ := hQ.deliverRest ctx hquiet (c.putRest s)
  have hseen : Seen view keep Q c (each (Controller.deliverRest env ctx) reports (c.putRest s)).2
      (each (Controller.deliverRest env ctx) reports (c.putRest s)).1 := by
    have hkept : os.filterMap (fun x => keep (.rest x)) =
        reports.filterMap fun x => keep (.rest x) := by
      simp only at hos
      obtain ⟨rfl, -⟩ | rfl := hos
      · rfl
      · simp [hQ.told (.rest (.symbolsUpdate found)) trivial]
    unfold Seen
    rw [hview]
    apply hdelivered (view c) []
    rw [← hkept]
    exact hrest
  simp only at hos
  obtain ⟨rfl, -⟩ | rfl := hos
  · exact hseen
  · -- the symbols are announced behind everything else
    have hannounced := hQ.seen.trans hseen (hQ.symbolsUpdate ctx found _)
    simp only [each_append, each, seq_fst, seq_snd, skip_apply, List.append_nil]
    exact hannounced

theorem callWebSocket (hQ : Watched env view keep Asked Aside Q) {k : ℕ} {event : WebSocket.Event}
    {c : Controller Y R W C D} {r : Controller Y R W C D × List Output}
    (h : callWebSocket env ctx k event c = some r) : Seen view keep Q c r.2 r.1 := by
  unfold Controller.callWebSocket at h
  split at h
  · obtain rfl := Option.some.inj h
    exact hQ.composes.refl (view c)
  · rename_i o ho
    obtain ⟨⟨s, os⟩, hcall, rfl⟩ := Option.map_eq_some_iff.mp h
    obtain ⟨hview, hdelivered⟩ := hQ.deliverWebSocket ctx k os (c.putWebSocket k s)
    unfold Seen
    rw [hview]
    exact hdelivered (view c) [] (hQ.webSocket c k o _ event _ ho hcall)

theorem callDropCopy (hQ : Watched env view keep Asked Aside Q) {k : ℕ} {event : DropCopy.Event}
    {c : Controller Y R W C D} {r : Controller Y R W C D × List Output}
    (h : callDropCopy env ctx k event c = some r) : Seen view keep Q c r.2 r.1 := by
  unfold Controller.callDropCopy at h
  split at h
  · obtain rfl := Option.some.inj h
    exact hQ.composes.refl (view c)
  · rename_i o ho
    obtain ⟨⟨o', os⟩, hcall, rfl⟩ := Option.map_eq_some_iff.mp h
    exact hQ.seen_of_unseen (hQ.dropCopy_unseen ho hcall)

theorem securityList (hQ : Watched env view keep Asked Aside Q) {k : ℕ} {o : MarketData D}
    {header : Fix.Header} {noRelatedSym : List Fix.Instrument} {c : Controller Y R W C D}
    {r : Controller Y R W C D × List Output} (ho : c.marketData[k]? = some o)
    (h : securityList env ctx k (MarketData.check header o) noRelatedSym c = some r) :
    Seen view keep Q c r.2 r.1 := by
  have hR := hQ.seen
  obtain ⟨⟨shared, reports, symbols⟩, hloop, rfl⟩ := Option.map_eq_some_iff.mp h
  have hreports : Seen view keep Q c (reports.map (.marketData k))
      (c.putMarketData k (MarketData.check header o, shared)) := by
    unfold Seen
    rw [List.filterMap_map]
    exact hQ.securities c k o _ header noRelatedSym _ ho hloop
  refine hR.trans hreports (hR.seq (Meets.ite (fun _ => hR.skip)
    fun _ => hQ.symbolsUpdate ctx symbols) (onMarketData_meets hR ?_) _)
  intro c o ho
  unfold Seen
  rw [List.filterMap_map]
  exact hQ.checkSecurities c k o _ ho

theorem callMarketData (hQ : Watched env view keep Asked Aside Q) {k : ℕ} {event : MarketData.Event}
    {c : Controller Y R W C D} {r : Controller Y R W C D × List Output}
    (h : callMarketData env ctx k event c = some r) : Seen view keep Q c r.2 r.1 := by
  unfold Controller.callMarketData at h
  split at h
  · obtain rfl := Option.some.inj h
    exact hQ.composes.refl (view c)
  · rename_i o ho
    split at h
    · exact hQ.securityList ho h
    · rename_i event' hevent
      obtain ⟨⟨s, os⟩, hcall, rfl⟩ := Option.map_eq_some_iff.mp h
      unfold Seen
      rw [List.filterMap_map]
      exact hQ.marketData c k o _ _ _ ho hevent hcall

/-- **Every call.** -/
theorem call (hQ : Watched env view keep Asked Aside Q) {event : Event}
    (hasked : ∀ symbol ∈ event.asked, Asked symbol) {c : Controller Y R W C D}
    {r : Controller Y R W C D × List Output} (h : call env ctx event c = some r) :
    Seen view keep Q c r.2 r.1 := by
  cases event with
  | subscribe symbols =>
    obtain rfl := Option.some.inj h
    exact hQ.subscribe ctx hasked c
  | rest event => exact hQ.callRest h
  | dropCopy k event => exact hQ.callDropCopy h
  | webSocket k event => exact hQ.callWebSocket h
  | marketData k event => exact hQ.callMarketData h

/-- **Every step**, also one in which the process ends. -/
theorem step (hQ : Watched env view keep Asked Aside Q) (c : Controller Y R W C D)
    {i : Context Y × Event} (hasked : ∀ symbol ∈ i.2.asked, Asked symbol) :
    Relates view keep Q c (step env c i) := by
  obtain ⟨ctx, event⟩ := i
  obtain hended | ⟨r, hcall, hreturns⟩ := step_cases env c ctx event
  · rw [hended]
    exact ⟨⟨view c, hQ.composes.refl (view c)⟩, nofun⟩
  · have hseen := hQ.call hasked hcall
    rw [hreturns]
    refine ⟨⟨view r.1, hseen⟩, ?_⟩
    intro c' hc
    obtain rfl := Option.some.inj hc
    exact hseen

/-- **Every run**, also one in which the process ends: what has been put out by then is related
    to a controller that was there. -/
theorem run (hQ : Watched env view keep Asked Aside Q) (c : Controller Y R W C D)
    {is : List (Context Y × Event)} (hasked : ∀ i ∈ is, ∀ symbol ∈ i.2.asked, Asked symbol) :
    Relates view keep Q c (run (Controller.step env) c is) :=
  run_shows hQ.composes.refl hQ.composes.trans (fun c _ h => hQ.step c h)
    (guarded_of_forall fun i hi _ => hasked i hi)

end Watched

end Controller

end DeribitGateway
