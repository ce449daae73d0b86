import OdooConnector.Library.Paging
import Mathlib.Data.PNat.Defs

/-!
# Batches, price lists and variants in pages

A resource keeps the cursors of its last response in its context. Every response replaces or resets
what is kept there, so that the next request goes on where the last page ended. A batch makes as
many requests as its limit needs; prices and variants are read until there is no cursor.
-/

namespace OdooConnector.Api

variable {α : Type}

def shopifyBatchLimit : ℕ := 250

/-- What a resource remembers of its responses: page infos of the nodes and of the variants. -/
structure Context where
  pageInfo : Option PageInfo := none
  variantsPageInfo : Option PageInfo := none
  deriving DecidableEq

namespace Context

def cursor (context : Context) : Option String := context.pageInfo.bind PageInfo.cursor

def variantsCursor (context : Context) : Option String :=
  context.variantsPageInfo.bind PageInfo.cursor

/-- `_save_cursor`: a response without a page info resets the whole context. -/
def saveCursor (context : Context) : Option PageInfo → Context
  | some info => { context with pageInfo := some info }
  | none => {}

/-- `_save_variants_cursor`, for a response with or without variants. -/
def saveVariantsCursor (context : Context) : Option (Option PageInfo) → Context
  | some info => { context with variantsPageInfo := info }
  | none => context

/-- The response of a list of nodes has a page info. -/
def saveNodes (context : Context) (info : PageInfo) : Context := context.saveCursor (some info)

/-- The response of a product has a page info only in its variants. -/
def saveProduct (context : Context) (info : PageInfo) : Context :=
  (context.saveCursor none).saveVariantsCursor (some (some info))

@[simp]
theorem cursor_saveNodes (context : Context) (info : PageInfo) :
    (context.saveNodes info).cursor = info.cursor := rfl

@[simp]
theorem variantsCursor_saveProduct (context : Context) (info : PageInfo) :
    (context.saveProduct info).variantsCursor = info.cursor := rfl

end Context

/-! ## Batches -/

inductive Limit
  | infinity
  | count (limit : ℕ+)

namespace Limit

def requestLimit : Limit → ℕ
  | infinity => shopifyBatchLimit
  | count limit => if limit ≤ shopifyBatchLimit then limit else shopifyBatchLimit

/-- Requests at most; `itertools.count()` has no end. -/
def iterations : Limit → Option ℕ
  | infinity => none
  | count limit =>
    if limit ≤ shopifyBatchLimit then some 1 else some (limit / shopifyBatchLimit + 1)

def reached : Limit → ℕ → Bool
  | infinity, _ => false
  | count limit, length => limit ≤ length

def truncate : Limit → List α → List α
  | infinity, result => result
  | count limit, result => result.take limit

end Limit

/-- The loop of `get_batch`, with the iterations that are left. -/
structure BatchState (α : Type) where
  context : Context
  result : List α
  left : Option ℕ

def batchStep (server : Connection α) (limit : Limit) (state : BatchState α) :
    BatchState α × Bool :=
  let response := server.respond limit.requestLimit state.context.cursor
  let context := state.context.saveNodes response.info
  let result := state.result ++ response.nodes
  let left := state.left.map (· - 1)
  let done := context.cursor.isNone || limit.reached result.length
  ({ context, result, left }, !done && left ≠ some 0)

def getBatch (server : Connection α) (limit : Limit) (context : Context) (fuel : ℕ) :
    Option (List α × Context) :=
  (runLoop (batchStep server limit) fuel
    { context, result := [], left := limit.iterations }).map fun final =>
      (limit.truncate final.result, final.context)

/-- The limit of a call without a limit. -/
def defaultLimit : Limit := .count ⟨shopifyBatchLimit, by decide⟩

/-- A call without a limit, which makes one request. -/
def defaultCall (server : Connection α) (context : Context) : List α × Context :=
  (getBatch server defaultLimit context 1).getD ([], context)

/-- Calls without a limit until the cursor is empty. -/
def repeatedCalls (server : Connection α) (context : Context) (fuel : ℕ) :
    Option (Context × List α) :=
  runLoop (fun state : Context × List α =>
    let (batch, context) := defaultCall server state.1
    ((context, state.2 ++ batch), context.cursor.isSome)) fuel (context, [])

/-! ## Prices and variants -/

/-- `PriceList.get_all_prices`: the first request does not look at the cursor. -/
def getAllPrices (server : Connection α) (context : Context) (fuel : ℕ) :
    Option (Context × List α) :=
  let response := server.respond shopifyBatchLimit none
  let context := context.saveNodes response.info
  if context.cursor.isSome then
    runLoop (fetchPage Context.cursor Context.saveNodes server shopifyBatchLimit) fuel
      (context, response.nodes)
  else some (context, response.nodes)

/-- What `Product.read` leaves and returns: the variants of the product, and those of its first
response. -/
structure ReadProduct (α : Type) where
  context : Context
  variants : List α
  returned : List α

/-- `Product.read`, for the body that asks for variants. -/
def readProduct (server : Connection α) (context : Context) (fuel : ℕ) : Option (ReadProduct α) :=
  let response := server.respond shopifyBatchLimit none
  let context := context.saveProduct response.info
  let returned := response.nodes
  if context.variantsCursor.isSome then
    (runLoop (fetchPage Context.variantsCursor Context.saveProduct server shopifyBatchLimit) fuel
      (context, [])).map fun final =>
        { context := final.1, variants := returned ++ final.2, returned }
  else some { context, variants := returned, returned }

/-! ## One batch -/

variable {server : Connection α} {limit : Limit} {state : BatchState α}

theorem requestLimit_pos : 0 < limit.requestLimit := by
  cases limit with
  | infinity => decide
  | count limit =>
      rw [Limit.requestLimit]
      split_ifs
      · exact limit.pos
      · decide

/-- The iterations suffice for the limit. -/
theorem count_le_iterations {count : ℕ+} {iterations : ℕ}
    (bounded : (Limit.count count).iterations = some iterations) :
    (count : ℕ) ≤ iterations * (Limit.count count).requestLimit := by
  rw [Limit.iterations] at bounded
  rw [Limit.requestLimit]
  split_ifs at bounded ⊢ with small
  · cases bounded
    exact (Nat.one_mul _).ge
  · cases bounded
    rw [shopifyBatchLimit]
    omega

/-- After some requests from a position: the pages so far, the cursor behind them, and the
iterations that are left. -/
structure Batched (server : Connection α) (limit : Limit) (position requests : ℕ)
    (state : BatchState α) : Prop where
  result : state.result =
    (server.nodes.drop position).take (requests * limit.requestLimit)
  start : server.start state.context.cursor = position + requests * limit.requestLimit
  left : state.left = limit.iterations.map (· - requests)
  goes : ∀ iterations, limit.iterations = some iterations → requests < iterations

theorem batchStep_result {position requests : ℕ}
    (batched : Batched server limit position requests state) :
    (batchStep server limit state).1.result =
      (server.nodes.drop position).take ((requests + 1) * limit.requestLimit) := by
  rw [batchStep]
  dsimp only
  rw [Connection.respond_nodes, batched.result, batched.start, ← List.drop_drop, ← List.take_add,
    Nat.add_one_mul]

theorem batchStep_left {position requests : ℕ}
    (batched : Batched server limit position requests state) :
    (batchStep server limit state).1.left = limit.iterations.map (· - (requests + 1)) := by
  rw [batchStep]
  dsimp only
  rw [batched.left, Option.map_map]
  rfl

theorem batchStep_cursor (server : Connection α) (limit : Limit) (state : BatchState α) :
    (batchStep server limit state).1.context.cursor =
      (server.respond limit.requestLimit state.context.cursor).info.cursor := rfl

theorem batchStep_again_iff : (batchStep server limit state).2 = true ↔
    (batchStep server limit state).1.context.cursor ≠ none ∧
      limit.reached (batchStep server limit state).1.result.length = false ∧
      (batchStep server limit state).1.left ≠ some 0 := by
  rw [batchStep]
  simp only [Bool.and_eq_true, Bool.not_eq_true', Bool.or_eq_false_iff, Option.isNone_eq_false_iff,
    Option.isSome_iff_ne_none, decide_eq_true_eq, and_assoc]

/-- Another request goes on behind the last page. -/
theorem batchStep_again {position requests : ℕ}
    (batched : Batched server limit position requests state)
    (again : (batchStep server limit state).2 = true) :
    Batched server limit position (requests + 1) (batchStep server limit state).1 ∧
      server.start state.context.cursor < server.start
        (batchStep server limit state).1.context.cursor ∧
      server.start state.context.cursor < server.nodes.length := by
  obtain ⟨cursor, -, left⟩ := batchStep_again_iff.mp again
  rw [batchStep_cursor] at cursor
  have more : server.start state.context.cursor + limit.requestLimit < server.nodes.length :=
    Nat.lt_of_not_le fun few => cursor (Connection.cursor_last few)
  obtain ⟨next, isNext, start⟩ := Connection.cursor_next requestLimit_pos more
  have positive : 0 < limit.requestLimit := requestLimit_pos
  rw [batchStep_cursor, isNext, start]
  refine ⟨⟨batchStep_result batched, ?_, batchStep_left batched, ?_⟩, by omega, by omega⟩
  · rw [batchStep_cursor, isNext, start, batched.start, Nat.add_one_mul, Nat.add_assoc]
  · intro iterations bounded
    have goes := batched.goes iterations bounded
    rw [batchStep_left batched, bounded, Option.map_some, Ne, Option.some_inj] at left
    omega

/-- Nodes of which the limit takes no more than a list has. -/
theorem truncate_take {size : ℕ} (nodes : List α)
    (enough : ∀ count : ℕ+, limit = .count count → nodes.length ≤ size ∨ (count : ℕ) ≤ size)
    (infinite : limit = .infinity → nodes.length ≤ size) :
    limit.truncate (nodes.take size) = limit.truncate nodes := by
  cases limit with
  | infinity => exact List.take_of_length_le (infinite rfl)
  | count count =>
      rw [Limit.truncate, Limit.truncate, List.take_take]
      obtain short | few := enough count rfl
      · rw [List.take_eq_take_iff]
        omega
      · rw [Nat.min_eq_left few]

/-- The last request has all that the limit takes. -/
theorem batchStep_last {position requests : ℕ}
    (batched : Batched server limit position requests state)
    (last : (batchStep server limit state).2 = false) :
    limit.truncate (batchStep server limit state).1.result =
      limit.truncate (server.nodes.drop position) := by
  have size : (server.nodes.drop position).length = server.nodes.length - position :=
    List.length_drop
  have result := batchStep_result batched
  rw [result]
  by_cases few : server.nodes.length ≤ server.start state.context.cursor + limit.requestLimit
  · rw [batched.start, Nat.add_assoc, ← Nat.add_one_mul] at few
    exact truncate_take _ (fun _ _ => Or.inl (by omega)) fun _ => by omega
  · obtain ⟨next, isNext, -⟩ := Connection.cursor_next requestLimit_pos (Nat.lt_of_not_le few)
    have cursor : (batchStep server limit state).1.context.cursor ≠ none := by
      rw [batchStep_cursor, isNext]
      exact Option.some_ne_none next
    have ends : limit.reached (batchStep server limit state).1.result.length = false →
        (batchStep server limit state).1.left = some 0 := by
      intro unreached
      by_contra left
      rw [← Bool.not_eq_true, batchStep_again_iff] at last
      exact last ⟨cursor, unreached, left⟩
    refine truncate_take _ (fun count isCount => Or.inr ?_) fun infinite => ?_
    · subst isCount
      cases reached : (Limit.count count).reached
          (batchStep server (.count count) state).1.result.length with
      | true =>
          have long := of_decide_eq_true reached
          rw [result, List.length_take] at long
          omega
      | false =>
          have left := ends reached
          rw [batchStep_left batched] at left
          obtain ⟨iterations, bounded, none⟩ := Option.map_eq_some_iff.mp left
          have goes := batched.goes iterations bounded
          have enough := count_le_iterations bounded
          rwa [show iterations = requests + 1 by omega] at enough
    · subst infinite
      have left := ends rfl
      rw [batchStep_left batched] at left
      cases left

/-- A batch from any position takes what is behind it, up to the limit. -/
theorem getBatch_terminates (server : Connection α) (limit : Limit) (context : Context) :
    ∃ fuel after, getBatch server limit context fuel =
      some (limit.truncate (server.nodes.drop (server.start context.cursor)), after) := by
  have ends : Terminates (batchStep server limit)
      { context, result := [], left := limit.iterations } fun final =>
        limit.truncate final.result =
          limit.truncate (server.nodes.drop (server.start context.cursor)) := by
    refine terminates_of_measure
      (fun state => ∃ requests, Batched server limit (server.start context.cursor) requests state)
      (fun state => server.nodes.length - server.start state.context.cursor) ?_ ?_ ?_
    · rintro state ⟨requests, batched⟩ again
      obtain ⟨next, more, less⟩ := batchStep_again batched again
      exact ⟨⟨requests + 1, next⟩, by omega⟩
    · rintro state ⟨requests, batched⟩ last
      exact batchStep_last batched last
    · refine ⟨0, by simp, by simp, by simp, fun iterations bounded => ?_⟩
      cases limit with
      | infinity => cases bounded
      | count count =>
          have enough := count_le_iterations bounded
          have positive := count.pos
          by_contra none
          rw [show iterations = 0 by omega, Nat.zero_mul] at enough
          omega
  obtain ⟨fuel, final, run, result⟩ := ends
  exact ⟨fuel, final.context, by rw [getBatch, run, Option.map_some, result]⟩

/-! ## Calls one after another -/

/-- A call without a limit makes one request, however long it may run. -/
theorem getBatch_default (server : Connection α) (context : Context) (fuel : ℕ) :
    getBatch server defaultLimit context (fuel + 1) =
      some ((server.respond shopifyBatchLimit context.cursor).nodes,
        context.saveNodes (server.respond shopifyBatchLimit context.cursor).info) := by
  have once : (batchStep server defaultLimit
      { context, result := [], left := defaultLimit.iterations }).2 = false := by
    rw [← Bool.not_eq_true, batchStep_again_iff]
    rintro ⟨-, -, left⟩
    exact left rfl
  rw [getBatch, runLoop, if_neg (by rw [once]; exact Bool.false_ne_true), Option.map_some]
  refine congrArg (fun nodes => some (nodes, _)) ?_
  rw [batchStep, List.nil_append]
  exact List.take_of_length_le (List.length_take_le _ _)

theorem repeatedCalls_eq (server : Connection α) (context : Context) (fuel : ℕ) :
    repeatedCalls server context fuel =
      runLoop (fetchPage Context.cursor Context.saveNodes server shopifyBatchLimit) fuel
        (context, []) := by
  rw [repeatedCalls]
  refine congrArg (fun step => runLoop step fuel (context, [])) (funext fun state => ?_)
  rw [defaultCall, getBatch_default]
  rfl

theorem repeatedCalls_all (server : Connection α) :
    ∃ fuel after, repeatedCalls server {} fuel = some (after, server.nodes) ∧
      after.cursor = none := by
  obtain ⟨fuel, final, run, all, none⟩ := @fetchPage_terminates α Context Context.cursor
    Context.saveNodes server shopifyBatchLimit (by decide) Context.cursor_saveNodes {} []
  refine ⟨fuel, final.1, ?_, none⟩
  rw [repeatedCalls_eq, run]
  exact congrArg (fun nodes => some (final.1, nodes)) all

theorem getAllPrices_all (server : Connection α) (context : Context) :
    ∃ fuel after, getAllPrices server context fuel = some (after, server.nodes) := by
  have positive : 0 < shopifyBatchLimit := by decide
  cases next : (server.respond shopifyBatchLimit none).info.cursor with
  | none =>
      refine ⟨0, context.saveNodes (server.respond shopifyBatchLimit none).info, ?_⟩
      rw [getAllPrices]
      simp [next, Connection.first_eq positive next]
  | some cursor =>
      obtain ⟨fuel, final, run, all, -⟩ := @fetchPage_terminates α Context Context.cursor
        Context.saveNodes server shopifyBatchLimit positive Context.cursor_saveNodes
        (context.saveNodes (server.respond shopifyBatchLimit none).info)
        (server.respond shopifyBatchLimit none).nodes
      rw [Context.cursor_saveNodes, next, Connection.first_append positive next] at all
      refine ⟨fuel, final.1, ?_⟩
      rw [getAllPrices]
      simp [next, run, ← all]

theorem readProduct_all (server : Connection α) (context : Context) :
    ∃ fuel read, readProduct server context fuel = some read ∧ read.variants = server.nodes := by
  have positive : 0 < shopifyBatchLimit := by decide
  cases next : (server.respond shopifyBatchLimit none).info.cursor with
  | none =>
      refine ⟨0, { context := context.saveProduct (server.respond shopifyBatchLimit none).info
                   variants := (server.respond shopifyBatchLimit none).nodes
                   returned := (server.respond shopifyBatchLimit none).nodes }, ?_,
        Connection.first_eq positive next⟩
      rw [readProduct]
      simp only [Context.variantsCursor_saveProduct, next]
      rfl
  | some cursor =>
      obtain ⟨fuel, final, run, all, -⟩ := @fetchPage_terminates α Context Context.variantsCursor
        Context.saveProduct server shopifyBatchLimit positive Context.variantsCursor_saveProduct
        (context.saveProduct (server.respond shopifyBatchLimit none).info) []
      rw [Context.variantsCursor_saveProduct, next, List.nil_append] at all
      refine ⟨fuel, { context := final.1
                      variants := (server.respond shopifyBatchLimit none).nodes ++ final.2
                      returned := (server.respond shopifyBatchLimit none).nodes }, ?_, ?_⟩
      swap
      · exact (congrArg _ all).trans (Connection.first_append positive next)
      rw [readProduct]
      simp only [Context.variantsCursor_saveProduct, next, Option.isSome_some, if_true, run,
        Option.map_some]

/-- Paging loses nothing: a batch of a fresh resource has the first nodes up to its limit, calls
without a limit that go on until the cursor is empty have all nodes, and so do price lists and
products. -/
theorem paging_loses_nothing {β γ : Type} (server : Connection α) (prices : Connection β)
    (variants : Connection γ) (context : Context) :
    (∀ limit : ℕ+, ∃ fuel after,
        getBatch server (.count limit) {} fuel = some (server.nodes.take limit, after)) ∧
      (∃ fuel after, getBatch server .infinity {} fuel = some (server.nodes, after)) ∧
      (∃ fuel after, repeatedCalls server {} fuel = some (after, server.nodes) ∧
        after.cursor = none) ∧
      (∃ fuel after, getAllPrices prices context fuel = some (after, prices.nodes)) ∧
      ∃ fuel read, readProduct variants context fuel = some read ∧
        read.variants = variants.nodes :=
  ⟨fun limit => getBatch_terminates server (.count limit) {},
    getBatch_terminates server .infinity {}, repeatedCalls_all server,
    getAllPrices_all prices context, readProduct_all variants context⟩

end OdooConnector.Api
