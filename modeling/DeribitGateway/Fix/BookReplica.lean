import DeribitGateway.Fix.BookRecovery
import DeribitGateway.Lib.PriceLevels

/-!
# The books of a client

The exchange has a book for each symbol, of which the session hears by full and incremental
refreshes (`exchangeBooks`). A client only sees the updates that are dispatched to it, and
builds books of its own from them (`clientBooks`). `books_are_replicated` compares the two, for
the symbols that are followed: a full refresh with an entry of the book has come in this
session, and since then no bad book and no full refresh without an entry of the book.
-/

namespace DeribitGateway

open Transducer Emission StagedDownload PriceLevels

namespace MarketData

variable {D Y : Type} {env : Env} {ctx : Context Y}

/-- The books, by symbol. -/
abbrev Books := String → Book Double Double

/-! ## The exchange -/

/-- What is at the price of an entry from now on: the size, unless the level is deleted. -/
def levelOf (item : Fix.MDEntry) : Change Double Double :=
  (item.mdEntryPx, if item.mdUpdateAction = .delete then none else some item.mdEntrySize)

/-- The change that an entry makes to the book, if any. -/
def changeOf (item : Fix.MDEntry) : Option (Change Double Double ⊕ Change Double Double) :=
  match item.mdEntryType with
  | .bid => some (.inl (levelOf item))
  | .offer => some (.inr (levelOf item))
  | _ => none

/-- What a refresh makes of a book. -/
def refreshed (book : Book Double Double) (noMdEntries : List Fix.MDEntry) :
    Book Double Double :=
  (noMdEntries.filterMap changeOf).foldl Book.change book

def exchangeBooks (books : Books) (i : Context Y × Event) : Books :=
  match i.2 with
  | .message _ (.marketDataIncrementalRefresh value) =>
    Function.update books value.symbol (refreshed (books value.symbol) value.noMdEntries)
  | .message _ (.marketDataSnapshotFullRefresh value) =>
    Function.update books value.symbol (refreshed .empty value.noMdEntries)
  | _ => books

/-! ## A client -/

/-- A level without quantity is removed. -/
def readLevel (env : Env) (value : MBPUpdate) : Change Double Double :=
  (value.price, if env.isZero value.quantity then none else some value.quantity)

/-- A client applies what has been dispatched to it. -/
def clientBooks (env : Env) (books : Books) : Output → Books
  | .marketByPriceUpdate value _ .returned =>
    let book := if value.updateType = .snapshot then .empty else books value.symbol
    Function.update books value.symbol
      (book.apply (value.bids.map (readLevel env)) (value.asks.map (readLevel env)))
  | _ => books

/-! ## What is followed -/

/-- A full refresh with an entry of the book lets a client follow the symbol, until a book is
    bad, a full refresh comes without an entry of the book, or the session ends. -/
def follows (followed : Finset String) (i : Context Y × Event) : Finset String :=
  match i.2 with
  | .message _ (.marketDataIncrementalRefresh value) =>
    if value.noMdEntries.any isBook && i.1.marketByPrice = .badState then
      followed.erase value.symbol
    else followed
  | .message _ (.marketDataSnapshotFullRefresh value) =>
    if value.noMdEntries.any isBook then insert value.symbol followed
    else followed.erase value.symbol
  | .disconnected => ∅
  | _ => followed

/-- The books of the exchange, and the symbols that are followed. -/
structure Feed where
  books : Books
  followed : Finset String

def Feed.initial : Feed := ⟨fun _ => .empty, ∅⟩

def Feed.hear (feed : Feed) (i : Context Y × Event) : Feed :=
  ⟨exchangeBooks feed.books i, follows feed.followed i⟩

/-- The size of an entry of the book is zero if the level is deleted, and only then. -/
def Sized (env : Env) (noMdEntries : List Fix.MDEntry) : Prop :=
  ∀ item ∈ noMdEntries, isBook item = true →
    (item.mdUpdateAction = .delete ↔ env.isZero item.mdEntrySize = true)

/-- What the comments of `validate` assert of the entries. -/
def Consistent (env : Env) : Event → Prop
  | .message _ (.marketDataIncrementalRefresh value) => Sized env value.noMdEntries
  | .message _ (.marketDataSnapshotFullRefresh value) => Sized env value.noMdEntries
  | _ => True

/-! ## One refresh -/

theorem readLevel_mbpUpdate {item : Fix.MDEntry}
    (h : item.mdUpdateAction = .delete ↔ env.isZero item.mdEntrySize = true) :
    readLevel env (mbpUpdate item) = levelOf item := by
  by_cases hzero : env.isZero item.mdEntrySize = true
  · simp [readLevel, mbpUpdate, levelOf, hzero, h.mpr hzero]
  · have hkept : item.mdUpdateAction ≠ .delete := fun hdelete => hzero (h.mp hdelete)
    simp [readLevel, mbpUpdate, levelOf, hzero, hkept]

/-- What a client does with the levels that are collected. -/
def Entries.applied (env : Env) (book : Book Double Double) (e : Entries) : Book Double Double :=
  book.apply (e.bids.map (readLevel env)) (e.asks.map (readLevel env))

/-- A client that applies what one more entry adds does what the exchange has done. -/
theorem applied_add {item : Fix.MDEntry} (e : Entries) (book : Book Double Double)
    (h : isBook item = true → (item.mdUpdateAction = .delete ↔
      env.isZero item.mdEntrySize = true)) :
    (e.add env item).applied env book = refreshed (e.applied env book) [item] := by
  cases htype : item.mdEntryType with
  | bid =>
    have hread := readLevel_mbpUpdate (h (by simp [isBook, htype]))
    simp [Entries.add, Entries.applied, refreshed, changeOf, htype, hread, Book.apply_append_bid]
  | offer =>
    have hread := readLevel_mbpUpdate (h (by simp [isBook, htype]))
    simp [Entries.add, Entries.applied, refreshed, changeOf, htype, hread, Book.apply_append_ask]
  | _ => simp [Entries.add, Entries.applied, refreshed, changeOf, htype]

theorem refreshed_cons (book : Book Double Double) (item : Fix.MDEntry)
    (items : List Fix.MDEntry) :
    refreshed book (item :: items) = refreshed (refreshed book [item]) items := by
  unfold refreshed
  rw [← List.foldl_append, ← List.filterMap_append, List.singleton_append]

/-- A client that applies what is collected of a refresh does what the exchange has done. -/
theorem applied_collect {noMdEntries : List Fix.MDEntry} (h : Sized env noMdEntries)
    (e : Entries) (book : Book Double Double) :
    (e.collect env noMdEntries).applied env book =
      refreshed (e.applied env book) noMdEntries := by
  unfold Entries.collect
  induction noMdEntries generalizing e with
  | nil => rfl
  | cons item items ih =>
    rw [List.foldl_cons, ih fun item' hmem => h item' (List.mem_cons_of_mem item hmem),
      applied_add e book (h item List.mem_cons_self), ← refreshed_cons]

/-- A refresh without an entry of the book changes nothing. -/
theorem refreshed_none {noMdEntries : List Fix.MDEntry} (h : noMdEntries.any isBook = false)
    (book : Book Double Double) : refreshed book noMdEntries = book := by
  have hnone : noMdEntries.filterMap changeOf = [] := by
    rw [List.filterMap_eq_nil_iff]
    intro item hmem
    have hitem := List.any_eq_false.mp h item hmem
    cases htype : item.mdEntryType <;> simp_all [isBook, changeOf]
  rw [refreshed, hnone, List.foldl_nil]

/-! ## One call -/

theorem clientBooks_silent {os : List Output} (h : Silent os) (books : Books) :
    os.foldl (clientBooks env) books = books := by
  induction os with
  | nil => rfl
  | cons x os ih =>
    have hx := (h x List.mem_cons_self).1
    rw [List.foldl_cons]
    cases x with
    | marketByPriceUpdate value isLast dispatched => exact absurd trivial hx
    | _ => exact ih fun y hy => h y (List.mem_cons_of_mem _ hy)

/-- A client has the books of the symbols that are followed, and none of them is latched. -/
def Replicates (o : MarketData D) (feed : Feed) (books : Books) : Prop :=
  ∀ symbol ∈ feed.followed, symbol ∉ o.latch ∧ books symbol = feed.books symbol

/-- A symbol whose book stays, for the exchange and for a client. -/
theorem Replicates.same {o o' : MarketData D} {feed feed' : Feed} {books books' : Books}
    {symbol : String} (h : Replicates o feed books) (hfollowed : symbol ∈ feed.followed)
    (hlatch : symbol ∈ o'.latch → symbol ∈ o.latch) (hbook : feed'.books symbol = feed.books symbol)
    (hclient : books' symbol = books symbol) :
    symbol ∉ o'.latch ∧ books' symbol = feed'.books symbol := by
  obtain ⟨hfree, heq⟩ := h symbol hfollowed
  exact ⟨fun hmem => hfree (hlatch hmem), by rw [hclient, heq, hbook]⟩

theorem clientBooks_incremental {o : MarketData D} {header : Fix.Header}
    {value : Fix.MarketDataIncrementalRefresh} (isLast : Bool) {os : List Output}
    (hsized : Sized env value.noMdEntries) (hos : Silent os) (books : Books) :
    (Output.marketByPriceUpdate (incrementalUpdate env o header value) isLast .returned ::
      os).foldl (clientBooks env) books =
      Function.update books value.symbol (refreshed (books value.symbol) value.noMdEntries) := by
  have happlied := applied_collect hsized
    { bids := [], asks := [], trades := []
      statistics := [⟨.preOpenInterest, value.openInterest⟩,
        ⟨.preSettlementPrice, value.markPrice⟩]
      exchangeTimeUtc := 0 } (books value.symbol)
  rw [List.foldl_cons, clientBooks_silent hos]
  exact congrArg (Function.update books value.symbol) happlied

theorem clientBooks_snapshot {o : MarketData D} {header : Fix.Header}
    {value : Fix.MarketDataSnapshotFullRefresh} (isLast : Bool) {os : List Output}
    (hsized : Sized env value.noMdEntries) (hos : Silent os) (books : Books) :
    (Output.marketByPriceUpdate (snapshotUpdate env o header value) isLast .returned ::
      os).foldl (clientBooks env) books =
      Function.update books value.symbol (refreshed .empty value.noMdEntries) := by
  have happlied := applied_collect hsized
    { bids := [], asks := [], trades := [], statistics := [], exchangeTimeUtc := 0 } .empty
  rw [List.foldl_cons, clientBooks_silent hos]
  exact congrArg (Function.update books value.symbol) happlied

/-- No symbol is followed because of an incremental refresh. -/
theorem mem_of_follows_incremental {followed : Finset String} {header : Fix.Header}
    {value : Fix.MarketDataIncrementalRefresh} {symbol : String}
    (h : symbol ∈ follows followed (ctx, .message header (.marketDataIncrementalRefresh value))) :
    symbol ∈ followed := by
  simp only [follows] at h
  split_ifs at h
  · exact Finset.mem_of_mem_erase h
  · exact h

/-- One symbol is looked at by itself, and the other books stay. -/
theorem Replicates.other {o o' : MarketData D} {feed feed' : Feed} {books books' : Books}
    {symbol : String} (h : Replicates o feed books)
    (hself : symbol ∈ feed'.followed → symbol ∉ o'.latch ∧ books' symbol = feed'.books symbol)
    (hfollowed : ∀ other ∈ feed'.followed, other ≠ symbol → other ∈ feed.followed)
    (hlatch : ∀ other ∈ o'.latch, other ≠ symbol → other ∈ o.latch)
    (hbooks : ∀ other, other ≠ symbol → feed'.books other = feed.books other)
    (hclient : ∀ other, other ≠ symbol → books' other = books other) :
    Replicates o' feed' books' := by
  intro other hmem
  by_cases heq : other = symbol
  · subst heq
    exact hself hmem
  · exact h.same (hfollowed other hmem heq) (fun hin => hlatch other hin heq) (hbooks other heq)
      (hclient other heq)

variable [Symbols Y] [Download State D]

/-- The book of an incremental refresh is dispatched, unless the symbol is latched. -/
theorem BookStep.not_silent (hpublish : env.publishMarketByPrice = true) {o o' : MarketData D}
    {header : Fix.Header} {value : Fix.MarketDataIncrementalRefresh}
    (hbook : value.noMdEntries.any isBook = true) (hfree : value.symbol ∉ o.latch)
    (h : (step env o (ctx, .message header (.marketDataIncrementalRefresh value))).1 = some o') :
    ¬Silent (step env o (ctx, .message header (.marketDataIncrementalRefresh value))).2 := by
  obtain ⟨isLast, os, hos⟩ := incremental_unaffected hpublish hbook hfree h
  rw [hos]
  intro hsilent
  exact (hsilent _ List.mem_cons_self).1 trivial

/-- A call that is silent about books: the symbols that are followed keep theirs. -/
theorem Replicates.silent (hpublish : env.publishMarketByPrice = true) {event : Event}
    {o o' : MarketData D} {feed : Feed} {books : Books} (h : Replicates o feed books)
    (hstep : (step env o (ctx, event)).1 = some o')
    (hsnapshot : ∀ header value, event ≠ .message header (.marketDataSnapshotFullRefresh value))
    (hlatch : o'.latch = o.latch) (hos : Silent (step env o (ctx, event)).2) :
    Replicates o' (feed.hear (ctx, event)) books := by
  cases event with
  | message header value =>
    cases value with
    | marketDataSnapshotFullRefresh value => exact absurd rfl (hsnapshot header value)
    | marketDataIncrementalRefresh value =>
      intro symbol hmem
      have hfollowed := mem_of_follows_incremental hmem
      refine h.same hfollowed (fun hin => hlatch ▸ hin) ?_ rfl
      simp only [Feed.hear, exchangeBooks]
      by_cases hbook : value.noMdEntries.any isBook = true
      · by_cases hfree : value.symbol ∈ o.latch
        · rw [Function.update_of_ne]
          rintro rfl
          exact (h _ hfollowed).1 hfree
        · exact absurd hos (BookStep.not_silent hpublish hbook hfree hstep)
      · rw [refreshed_none (Bool.eq_false_iff.mpr hbook), Function.update_eq_self]
    | _ => exact fun symbol hmem => h.same hmem (fun hin => hlatch ▸ hin) rfl rfl
  | disconnected => exact fun symbol hmem => absurd hmem (Finset.notMem_empty symbol)
  | _ => exact fun symbol hmem => h.same hmem (fun hin => hlatch ▸ hin) rfl rfl

/-- **The step lemma.** -/
theorem Replicates.step (hpublish : env.publishMarketByPrice = true) {event : Event}
    {o o' : MarketData D} {feed : Feed} {books : Books} {os : List Output}
    (h : Replicates o feed books) (hconsistent : Consistent env event)
    (hstep : MarketData.step env o (ctx, event) = (some o', os))
    (hbooks : BookStep env event o o' os) :
    Replicates o' (feed.hear (ctx, event)) (os.foldl (clientBooks env) books) := by
  have hnext : (MarketData.step env o (ctx, event)).1 = some o' := by rw [hstep]
  cases hbooks with
  | silent hsnapshot hlatch hos =>
    rw [clientBooks_silent hos]
    exact h.silent hpublish hnext hsnapshot hlatch (by rwa [hstep])
  | @incremental header value isLast os hevent hbook hfree hlatch hos =>
    subst hevent
    rw [clientBooks_incremental isLast hconsistent hos]
    have hfollowed : ∀ other ∈ (feed.hear (ctx, .message header
        (.marketDataIncrementalRefresh value))).followed, other ∈ feed.followed :=
      fun _ hmem => mem_of_follows_incremental hmem
    refine h.other ?_ (fun other hmem _ => hfollowed other hmem)
      (fun other hin _ => hlatch ▸ hin) (fun other hne => Function.update_of_ne hne _ _)
      (fun other hne => Function.update_of_ne hne _ _)
    intro hmem
    refine ⟨hlatch ▸ hfree, ?_⟩
    rw [(h _ (hfollowed _ hmem)).2]
    simp only [Feed.hear, exchangeBooks, Function.update_self]
  | @bad header value isLast n id id' queued queued' os hevent hbook hfree hlatch hos =>
    subst hevent
    -- the dispatch of the book ended badly, so that the symbol is not followed any more
    obtain ⟨_, _, hos'⟩ := incremental_unaffected hpublish hbook hfree hnext
    rw [hstep] at hos'
    have hbad : ctx.marketByPrice = .badState := by
      have hhead := (List.cons.inj hos').1
      exact (Output.marketByPriceUpdate.inj hhead).2.2.symm
    have hfollows :
        (feed.hear (ctx, .message header (.marketDataIncrementalRefresh value))).followed =
          feed.followed.erase value.symbol := by
      simp [Feed.hear, follows, hbook, hbad]
    refine h.other ?_ ?_ ?_ (fun other hne => Function.update_of_ne hne _ _)
      ?_
    · intro hmem
      rw [hfollows] at hmem
      exact absurd rfl (Finset.mem_erase.mp hmem).1
    · intro other hmem _
      rw [hfollows] at hmem
      exact Finset.mem_of_mem_erase hmem
    · intro other hin hne
      rw [hlatch] at hin
      exact (Finset.mem_insert.mp hin).resolve_left hne
    · intro other _
      exact congrFun (clientBooks_silent hos books) other
  | @snapshot header value isLast os hevent hbook hlatch hos =>
    subst hevent
    rw [clientBooks_snapshot isLast hconsistent hos]
    refine h.other ?_ ?_ (fun other hin _ => ?_)
      (fun other hne => Function.update_of_ne hne _ _)
      (fun other hne => Function.update_of_ne hne _ _)
    · intro _
      refine ⟨hlatch ▸ Finset.notMem_erase _ _, ?_⟩
      simp only [Feed.hear, exchangeBooks, Function.update_self]
    · intro other hmem hne
      simp only [Feed.hear, follows, if_pos hbook] at hmem
      exact (Finset.mem_insert.mp hmem).resolve_left hne
    · exact Finset.mem_of_mem_erase (hlatch ▸ hin)
  | @emptied header value os hevent hbook hlatch hos =>
    subst hevent
    rw [clientBooks_silent hos]
    intro symbol hmem
    simp only [Feed.hear, follows, hbook, Bool.false_eq_true, if_false] at hmem
    obtain ⟨hne, hfollowed⟩ := Finset.mem_erase.mp hmem
    refine h.same hfollowed (fun hin => ?_) (Function.update_of_ne hne _ _) rfl
    exact Finset.mem_of_mem_erase (hlatch ▸ hin)

/-- **A client that applies what is dispatched to it has the book of the exchange, for every
    symbol that is followed**, wherever a run has led: latched symbols, entries of other kinds,
    further sessions and the dispatch of other books make no difference. -/
theorem books_are_replicated (env : Env) (hpublish : env.publishMarketByPrice = true)
    (streamId : UInt16) (index : ℕ) (master : Bool) (is : List (Context Y × Event))
    (hconsistent : ∀ i ∈ is, Consistent env i.2)
    (hgoes : (run (step env) (initial streamId index master : MarketData D) is).1.isSome = true)
    (symbol : String) (hfollowed : symbol ∈ (is.foldl Feed.hear Feed.initial).followed) :
    (run (step env) (initial streamId index master : MarketData D) is).2.foldl (clientBooks env)
        (fun _ => .empty) symbol =
      (is.foldl Feed.hear Feed.initial).books symbol := by
  obtain ⟨o, hrun⟩ := Option.isSome_iff_exists.mp hgoes
  have hinitial : Replicates (initial streamId index master : MarketData D) Feed.initial
      fun _ => .empty :=
    fun symbol hmem => absurd hmem (Finset.notMem_empty symbol)
  refine (run_simulates (G := fun _ i => Consistent env i.2) (R := Replicates) ?_ hinitial
    (guarded_of_forall fun i hi _ => hconsistent i hi) hrun symbol hfollowed).2
  rintro s feed books ⟨ctx, event⟩ t h hi ht
  obtain hended | ⟨r, hcall, heq⟩ := step_cases env s ctx event
  · rw [hended] at ht
    cases ht
  · rw [heq] at ht ⊢
    obtain rfl := Option.some.inj ht
    exact h.step hpublish hi heq (call_books hpublish hcall)

/-- A bid at 1, another one at 2, and the first one deleted. -/
abbrev threeRefreshes : List (Context SymbolTable × Event) :=
  [(Context.plain, plainSnapshot [plainBid]),
    (Context.plain, .message ⟨3, 1⟩ (.marketDataIncrementalRefresh ⟨"BTC-PERPETUAL", none, none,
      [⟨.new, .bid, some 2, some 5, 1, "", .undefined, "", ""⟩,
        ⟨.delete, .bid, some 1, some 0, 1, "", .undefined, "", ""⟩]⟩))]

/-- What is left is the second bid. -/
theorem second_bid_is_replicated :
    let book := (run (step .plain) MarketData.plain threeRefreshes).2.foldl (clientBooks .plain)
      (fun _ => .empty) "BTC-PERPETUAL"
    book.bids (some 1) = none ∧ book.bids (some 2) = some (some 5) := by
  have hconsistent : ∀ i ∈ threeRefreshes, Consistent .plain i.2 := by
    simp [threeRefreshes, Consistent, Sized, Env.plain]
  have hreplicated := books_are_replicated (D := Counter State) .plain rfl 1 0 true threeRefreshes
    hconsistent (by decide +kernel) "BTC-PERPETUAL" (by decide +kernel)
  simp only [hreplicated]
  decide +kernel

end MarketData

end DeribitGateway
