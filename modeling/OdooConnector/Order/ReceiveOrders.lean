import OdooConnector.Library.Loop
import OdooConnector.Library.Page

/-!
# Receiving recent orders

Orders are read from the store in batches, from a date that follows the last order read. The loop
that imports recent orders and the chain of jobs that receive orders do the same for every
batch. Dates are seconds.
-/

namespace OdooConnector.Order

/-- Order of the store as a batch shows it. -/
structure ExternalOrder where
  id : String
  updatedAt : ℤ
  data : String
  deriving DecidableEq

structure InputFile where
  name : String
  rawData : String
  updateRequired : Bool
  deriving DecidableEq

/-- Orders of the store, sorted by date, with the number of orders of a batch. -/
structure OrderStore where
  orders : List ExternalOrder
  sorted : orders.Pairwise fun left right => left.updatedAt ≤ right.updatedAt
  orderLimitValue : ℕ
  limit_pos : 0 < orderLimitValue

/-- What receiving orders changes. -/
structure ReceiveState where
  lastReceiveOrdersDatetime : Option ℤ
  inputFiles : List InputFile
  deriving DecidableEq

/-- First orders at or after the last date. -/
def OrderStore.receiveOrders (store : OrderStore) (state : ReceiveState) : List ExternalOrder :=
  page ExternalOrder.updatedAt store.orderLimitValue state.lastReceiveOrdersDatetime store.orders

def findMaxDatetime (dates : List ℤ) : Option ℤ := dates.max?

/-- An order that has an input file keeps it. -/
def createInputFile (files : List InputFile) (order : ExternalOrder) : List InputFile :=
  if files.any fun file => file.name = order.id then files
  else files ++ [{ name := order.id, rawData := order.data, updateRequired := true }]

variable (filter : ExternalOrder → Bool) (store : OrderStore)

/-- One batch of the loop; the flag tells whether the loop goes on. -/
def importBatch (state : ReceiveState) : ReceiveState × Bool :=
  let externalOrders := store.receiveOrders state
  if externalOrders = [] then (state, false)
  else
    let inputFiles := (externalOrders.filter filter).foldl createInputFile state.inputFiles
    let lastReceiveDt := findMaxDatetime (externalOrders.map ExternalOrder.updatedAt)
    let lastReceiveOrdersDatetime :=
      match lastReceiveDt with
      | none => state.lastReceiveOrdersDatetime
      | some last => some (last - 1)
    ({ lastReceiveOrdersDatetime, inputFiles },
      !decide (externalOrders.length < store.orderLimitValue))

/-- One run of the job; the flag tells whether it enqueues itself again. -/
def integrationApiReceiveOrders (isActive updateDt : Bool) (state : ReceiveState) :
    ReceiveState × Bool :=
  let ordersDataList := store.receiveOrders state
  let inputFiles := (ordersDataList.filter filter).foldl createInputFile state.inputFiles
  let updatedAtList := ordersDataList.map ExternalOrder.updatedAt
  let lastReceiveDt := findMaxDatetime updatedAtList
  let updateDt := if updatedAtList = [] then false else updateDt
  let lastReceiveOrdersDatetime :=
    if updateDt then lastReceiveDt.map fun last => last - 1 else state.lastReceiveOrdersDatetime
  ({ lastReceiveOrdersDatetime, inputFiles },
    decide (ordersDataList.length = store.orderLimitValue) && isActive)

/-- One job of the chain; the jobs that a job enqueues update the date. -/
def receiveOrdersJob (isActive : Bool) (job : Bool × ReceiveState) : (Bool × ReceiveState) × Bool :=
  let (received, again) := integrationApiReceiveOrders filter store isActive job.1 job.2
  ((true, received), again)

/-! ## One batch -/

/-- Every order at or after a date that passes the filter has an input file. -/
def Imported (start : Option ℤ) (files : List InputFile) : Prop :=
  ∀ order ∈ store.orders, reaches start order.updatedAt = true → filter order = true →
    ∃ file ∈ files, file.name = order.id

/-- Number of orders in a second and the next. -/
def OrderStore.windowCount (second : ℤ) : ℕ :=
  (window ExternalOrder.updatedAt second store.orders).length

variable {filter store}

theorem mem_createInputFile {files : List InputFile} {name : String} (order : ExternalOrder) :
    (∃ file ∈ createInputFile files order, file.name = name) ↔
      (∃ file ∈ files, file.name = name) ∨ order.id = name := by
  rw [createInputFile]
  split
  · rename_i exists_file
    rw [List.any_eq_true] at exists_file
    obtain ⟨file, member, same⟩ := exists_file
    refine ⟨Or.inl, fun either => ?_⟩
    rcases either with present | rfl
    · exact present
    · exact ⟨file, member, of_decide_eq_true same⟩
  · simp [or_and_right, exists_or]

theorem mem_foldl_createInputFile {files : List InputFile} {name : String}
    (orders : List ExternalOrder) :
    (∃ file ∈ orders.foldl createInputFile files, file.name = name) ↔
      (∃ file ∈ files, file.name = name) ∨ ∃ order ∈ orders, order.id = name := by
  induction orders generalizing files with
  | nil => simp
  | cons order orders induction =>
      rw [List.foldl_cons, induction, mem_createInputFile, or_assoc, List.exists_mem_cons_iff]

/-- A run of the job that updates the date is one batch of the loop. -/
theorem importBatch_eq (state : ReceiveState) :
    importBatch filter store state = integrationApiReceiveOrders filter store true true state := by
  rw [importBatch, integrationApiReceiveOrders]
  have short : (store.receiveOrders state).length ≤ store.orderLimitValue :=
    List.length_take_le _ _
  have positive := store.limit_pos
  cases batch : store.receiveOrders state with
  | nil =>
      have partly : (0 = store.orderLimitValue) = False := eq_false (Nat.ne_of_lt positive)
      simp [partly]
  | cons order orders =>
      rw [batch] at short
      obtain ⟨last, latest⟩ := Option.isSome_iff_exists.mp (List.isSome_max?_of_ne_nil
        (List.cons_ne_nil order.updatedAt (orders.map ExternalOrder.updatedAt)))
      have again : (!decide ((order :: orders).length < store.orderLimitValue)) =
          (decide ((order :: orders).length = store.orderLimitValue) && true) := by
        rw [Bool.and_true, ← decide_not, decide_eq_decide]
        omega
      simp only [again]
      simp [findMaxDatetime, latest]

end OdooConnector.Order
