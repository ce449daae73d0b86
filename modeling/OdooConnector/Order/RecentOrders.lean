import Mathlib.Algebra.GroupWithZero.Nat
import Mathlib.Algebra.Order.BigOperators.Group.List
import Mathlib.Algebra.Order.Group.Nat
import OdooConnector.Order.ReceiveOrders

/-!
# When receiving orders ends

The date goes back by one second after every batch. It advances as long as no two consecutive
seconds hold a full batch of orders; otherwise the date never passes these seconds and receiving
never ends.
-/

namespace OdooConnector.Order

variable {filter : ExternalOrder → Bool} {store : OrderStore}

/-! ## One job -/

theorem receiveOrdersJob_again (filter : ExternalOrder → Bool) {job : Bool × ReceiveState} :
    (receiveOrdersJob filter store true job).2 = true ↔
      (store.receiveOrders job.2).length = store.orderLimitValue := by
  simp [receiveOrdersJob, integrationApiReceiveOrders]

theorem receiveOrdersJob_flag (job : Bool × ReceiveState) :
    (receiveOrdersJob filter store true job).1.1 = true := rfl

theorem receiveOrdersJob_files (job : Bool × ReceiveState) {name : String} :
    (∃ file ∈ (receiveOrdersJob filter store true job).1.2.inputFiles, file.name = name) ↔
      (∃ file ∈ job.2.inputFiles, file.name = name) ∨
        ∃ order ∈ store.receiveOrders job.2, filter order = true ∧ order.id = name := by
  rw [receiveOrdersJob, integrationApiReceiveOrders]
  refine (mem_foldl_createInputFile _).trans (or_congr_right ?_)
  simp only [List.mem_filter, and_assoc]

/-- A job that does not update the date leaves it alone. -/
theorem receiveOrdersJob_keeps (filter : ExternalOrder → Bool) (store : OrderStore)
    (state : ReceiveState) :
    (receiveOrdersJob filter store true (false, state)).1.2.lastReceiveOrdersDatetime =
      state.lastReceiveOrdersDatetime := by
  simp [receiveOrdersJob, integrationApiReceiveOrders]

/-- A job that updates the date puts it one second before the last order of its batch. -/
theorem receiveOrdersJob_updates (filter : ExternalOrder → Bool) {state : ReceiveState}
    (full : (store.receiveOrders state).length = store.orderLimitValue) :
    ∃ last ∈ store.receiveOrders state,
      (∀ order ∈ store.receiveOrders state, order.updatedAt ≤ last.updatedAt) ∧
      (receiveOrdersJob filter store true (true, state)).1.2.lastReceiveOrdersDatetime =
        some (last.updatedAt - 1) := by
  have nonempty : (store.receiveOrders state).map ExternalOrder.updatedAt ≠ [] := by
    intro empty
    rw [List.map_eq_nil_iff] at empty
    rw [empty] at full
    exact absurd full (Nat.ne_of_lt store.limit_pos)
  obtain ⟨date, latest⟩ := Option.isSome_iff_exists.mp (List.isSome_max?_of_ne_nil nonempty)
  obtain ⟨member, greatest⟩ := List.max?_eq_some_iff.mp latest
  obtain ⟨last, lastMember, rfl⟩ := List.mem_map.mp member
  refine ⟨last, lastMember, fun order listed => greatest _ (List.mem_map_of_mem listed), ?_⟩
  simp only [receiveOrdersJob, integrationApiReceiveOrders, if_neg nonempty, if_true,
    findMaxDatetime, latest, Option.map_some]

/-! ## The chain of jobs -/

/-- A full pair of seconds that the date has not passed keeps the jobs going. -/
theorem receiveOrdersJob_trapped {second : ℤ}
    (full : store.orderLimitValue ≤ store.windowCount second) (job : Bool × ReceiveState)
    (reached : reaches job.2.lastReceiveOrdersDatetime second = true) :
    (receiveOrdersJob filter store true job).2 = true ∧
      reaches (receiveOrdersJob filter store true job).1.2.lastReceiveOrdersDatetime second =
        true := by
  obtain ⟨fullBatch, bounded⟩ := page_of_full_window store.sorted reached full
  refine ⟨(receiveOrdersJob_again filter).mpr fullBatch, ?_⟩
  obtain ⟨updateDt, state⟩ := job
  cases updateDt with
  | false =>
      rw [receiveOrdersJob_keeps]
      exact reached
  | true =>
      obtain ⟨last, member, _, updated⟩ := receiveOrdersJob_updates filter fullBatch
      have late := bounded last member
      rw [updated, reaches_iff]
      intro start given
      rw [← Option.some.inj given]
      omega

/-- Between the first date and the current one nothing is missing. -/
structure Received (filter : ExternalOrder → Bool) (store : OrderStore) (start : Option ℤ)
    (state : ReceiveState) : Prop where
  started : ∀ second, reaches state.lastReceiveOrdersDatetime second = true →
    reaches start second = true
  imported : ∀ order ∈ store.orders, reaches start order.updatedAt = true →
    reaches state.lastReceiveOrdersDatetime order.updatedAt = false → filter order = true →
      ∃ file ∈ state.inputFiles, file.name = order.id

/-- A bound on all dates of the store. -/
def OrderStore.dateBound (store : OrderStore) : ℕ :=
  (store.orders.map fun order => order.updatedAt.natAbs).sum

theorem OrderStore.natAbs_le_dateBound {store : OrderStore} {order : ExternalOrder}
    (member : order ∈ store.orders) : order.updatedAt.natAbs ≤ store.dateBound :=
  List.single_le_sum (fun _ _ => Nat.zero_le _) _ (List.mem_map_of_mem member)

/-- How far the date can still go; a job that does not update it counts once more. -/
def remainingSteps (store : OrderStore) (job : Bool × ReceiveState) : ℕ :=
  (match job.2.lastReceiveOrdersDatetime with
    | none => 2 * store.dateBound + 3
    | some date => (store.dateBound + 1 - date).toNat) + if job.1 then 0 else 1

theorem mem_orders_of_receiveOrders {state : ReceiveState} {order : ExternalOrder}
    (member : order ∈ store.receiveOrders state) :
    order ∈ store.orders ∧ reaches state.lastReceiveOrdersDatetime order.updatedAt = true :=
  mem_after.mp (page_subset member)

/-- Without a full pair of seconds a full batch takes the date forward. -/
theorem exists_later_order {state : ReceiveState} {date : ℤ}
    (current : state.lastReceiveOrdersDatetime = some date)
    (full : (store.receiveOrders state).length = store.orderLimitValue)
    (fewer : store.windowCount date < store.orderLimitValue) :
    ∃ order ∈ store.receiveOrders state, date + 1 < order.updatedAt := by
  rw [OrderStore.receiveOrders, current] at full ⊢
  exact exists_late_of_window full fewer

/-- The last date of a full batch lies beyond the current date. -/
theorem forward_of_full {start : Option ℤ}
    (fewer : ∀ second, reaches start second = true →
      store.windowCount second < store.orderLimitValue)
    {state : ReceiveState} (received : Received filter store start state)
    (full : (store.receiveOrders state).length = store.orderLimitValue) {last : ExternalOrder}
    (greatest : ∀ order ∈ store.receiveOrders state, order.updatedAt ≤ last.updatedAt) {date : ℤ}
    (current : state.lastReceiveOrdersDatetime = some date) : date < last.updatedAt - 1 := by
  have here : reaches state.lastReceiveOrdersDatetime date = true := by
    rw [current, reaches_iff]
    intro first given
    exact le_of_eq (Option.some.inj given).symm
  obtain ⟨order, member, later⟩ :=
    exists_later_order current full (fewer date (received.started date here))
  have latest := greatest order member
  omega

/-- A job that puts the date before the last order of its batch misses nothing. -/
theorem Received.updated {start : Option ℤ} {state : ReceiveState}
    (received : Received filter store start state) {last : ExternalOrder}
    (lastMember : last ∈ store.receiveOrders state)
    (forward : ∀ date, state.lastReceiveOrdersDatetime = some date → date < last.updatedAt - 1)
    (updated : (receiveOrdersJob filter store true (true, state)).1.2.lastReceiveOrdersDatetime =
      some (last.updatedAt - 1)) :
    Received filter store start (receiveOrdersJob filter store true (true, state)).1.2 := by
  constructor
  · rw [updated]
    intro second reached
    have beyond := reaches_iff.mp reached (last.updatedAt - 1) rfl
    refine received.started second (reaches_iff.mpr fun date current => ?_)
    have less := forward date current
    omega
  · rw [updated]
    intro order member reached passed accepted
    rw [receiveOrdersJob_files]
    cases inBatch : reaches state.lastReceiveOrdersDatetime order.updatedAt with
    | false => exact Or.inl (received.imported order member reached inBatch accepted)
    | true =>
        have earlier : order.updatedAt < last.updatedAt := by
          rw [← Bool.not_eq_true, reaches_iff] at passed
          by_contra late
          refine passed fun date given => ?_
          rw [← Option.some.inj given]
          omega
        exact Or.inr ⟨order, mem_page_of_lt store.sorted (mem_after.mpr ⟨member, inBatch⟩)
          lastMember earlier, accepted, rfl⟩

/-- A job that puts the date forward leaves fewer steps. -/
theorem remainingSteps_updated {state : ReceiveState} {last : ExternalOrder}
    (lastMember : last ∈ store.receiveOrders state)
    (forward : ∀ date, state.lastReceiveOrdersDatetime = some date → date < last.updatedAt - 1)
    (updated : (receiveOrdersJob filter store true (true, state)).1.2.lastReceiveOrdersDatetime =
      some (last.updatedAt - 1)) :
    remainingSteps store (receiveOrdersJob filter store true (true, state)).1 <
      remainingSteps store (true, state) := by
  have bounded := OrderStore.natAbs_le_dateBound (mem_orders_of_receiveOrders lastMember).1
  rw [remainingSteps, remainingSteps, updated, receiveOrdersJob_flag]
  dsimp only
  cases current : state.lastReceiveOrdersDatetime with
  | none =>
      have few : ((store.dateBound : ℤ) + 1 - (last.updatedAt - 1)).toNat ≤
          2 * store.dateBound + 2 := Int.toNat_le.mpr (by push_cast; omega)
      rw [if_pos rfl]
      exact Nat.lt_succ_of_le few
  | some date =>
      have less := forward date current
      rw [if_pos rfl]
      exact (Int.toNat_lt_toNat (by omega)).mpr (by omega)

theorem received_next {start : Option ℤ}
    (fewer : ∀ second, reaches start second = true →
      store.windowCount second < store.orderLimitValue)
    {job : Bool × ReceiveState} (received : Received filter store start job.2)
    (again : (receiveOrdersJob filter store true job).2 = true) :
    Received filter store start (receiveOrdersJob filter store true job).1.2 ∧
      remainingSteps store (receiveOrdersJob filter store true job).1 <
        remainingSteps store job := by
  have full := (receiveOrdersJob_again filter).mp again
  obtain ⟨updateDt, state⟩ := job
  cases updateDt with
  | false =>
      have kept := receiveOrdersJob_keeps filter store state
      refine ⟨⟨?_, ?_⟩, ?_⟩
      · rw [kept]
        exact received.started
      · rw [kept]
        intro order member reached passed accepted
        rw [receiveOrdersJob_files]
        exact Or.inl (received.imported order member reached passed accepted)
      · rw [remainingSteps, remainingSteps, kept, receiveOrdersJob_flag]
        simp
  | true =>
      obtain ⟨last, lastMember, greatest, updated⟩ := receiveOrdersJob_updates filter full
      have forward : ∀ date, state.lastReceiveOrdersDatetime = some date →
          date < last.updatedAt - 1 :=
        fun _ current => forward_of_full fewer received full greatest current
      exact ⟨received.updated lastMember forward updated,
        remainingSteps_updated lastMember forward updated⟩

/-- The last job has received everything. -/
theorem received_last {start : Option ℤ} {job : Bool × ReceiveState}
    (received : Received filter store start job.2)
    (last : (receiveOrdersJob filter store true job).2 = false) :
    Imported filter store start (receiveOrdersJob filter store true job).1.2.inputFiles := by
  have partly : (store.receiveOrders job.2).length ≠ store.orderLimitValue := by
    rw [Ne, ← receiveOrdersJob_again filter, last]
    exact Bool.false_ne_true
  intro order member reached accepted
  rw [receiveOrdersJob_files]
  cases inBatch : reaches job.2.lastReceiveOrdersDatetime order.updatedAt with
  | false => exact Or.inl (received.imported order member reached inBatch accepted)
  | true =>
      refine Or.inr ⟨order, ?_, accepted, rfl⟩
      rw [OrderStore.receiveOrders, page_eq_after partly]
      exact mem_after.mpr ⟨member, inBatch⟩

theorem receiveOrdersJob_terminates_iff (updateDt : Bool) (state : ReceiveState) :
    Terminates (receiveOrdersJob filter store true) (updateDt, state)
        (fun job => Imported filter store state.lastReceiveOrdersDatetime job.2.inputFiles) ↔
      ∀ second, reaches state.lastReceiveOrdersDatetime second = true →
        store.windowCount second < store.orderLimitValue := by
  constructor
  · intro ends second reached
    by_contra full
    exact not_terminates_of_invariant
      (fun job : Bool × ReceiveState =>
        reaches job.2.lastReceiveOrdersDatetime second = true)
      (receiveOrdersJob_trapped (not_lt.mp full)) reached ends
  · intro fewer
    refine terminates_of_measure (fun job : Bool × ReceiveState =>
        Received filter store state.lastReceiveOrdersDatetime job.2) (remainingSteps store)
      (fun job received again => received_next fewer received again)
      (fun job received last => received_last received last) ⟨fun _ => id, ?_⟩
    intro order _ reached passed _
    rw [reached] at passed
    contradiction

/-- The loop of recent orders ends together with the jobs that update the date. -/
theorem importBatch_terminates (state : ReceiveState) (post : Bool × ReceiveState → Prop) :
    Terminates (importBatch filter store) state (fun final => post (true, final)) ↔
      Terminates (receiveOrdersJob filter store true) (true, state) post := by
  refine terminates_map (fun final => (true, final)) (fun current => ?_) state post
  rw [importBatch_eq]
  rfl

/-- The loop of recent orders and the chain of jobs end with all orders imported if and only if no
two consecutive seconds, from the first date on, hold a full batch of orders. -/
theorem receiveOrders_complete_iff (filter : ExternalOrder → Bool) (store : OrderStore)
    (state : ReceiveState) :
    (Terminates (importBatch filter store) state
        (fun final => Imported filter store state.lastReceiveOrdersDatetime final.inputFiles) ∧
      ∀ updateDt, Terminates (receiveOrdersJob filter store true) (updateDt, state)
        (fun job => Imported filter store state.lastReceiveOrdersDatetime job.2.inputFiles)) ↔
      ∀ second, reaches state.lastReceiveOrdersDatetime second = true →
        store.windowCount second < store.orderLimitValue := by
  rw [importBatch_terminates state fun job =>
    Imported filter store state.lastReceiveOrdersDatetime job.2.inputFiles]
  simp only [receiveOrdersJob_terminates_iff]
  exact ⟨fun both => both.1, fun fewer => ⟨fewer, fun _ => fewer⟩⟩

/-- A full batch of orders in one second. -/
def busySecond : OrderStore where
  orders := (List.range 250).map fun number =>
    { id := toString number, updatedAt := 0, data := "" }
  sorted := by
    rw [List.pairwise_map]
    exact List.Pairwise.imp (fun _ => le_refl 0) List.pairwise_lt_range
  orderLimitValue := 250
  limit_pos := by decide

/-- Neither the loop nor the chain of jobs ends on a full second. -/
theorem receiveOrders_busySecond_endless :
    ¬ Terminates (importBatch (fun _ => true) busySecond) ⟨some 0, []⟩ (fun _ => True) ∧
      ¬ Terminates (receiveOrdersJob (fun _ => true) busySecond true) (true, ⟨some 0, []⟩)
        (fun _ => True) := by
  have full : busySecond.orderLimitValue ≤ busySecond.windowCount 0 := by
    have everything : window ExternalOrder.updatedAt 0 busySecond.orders = busySecond.orders := by
      rw [window, List.filter_eq_self]
      intro order member
      obtain ⟨number, _, rfl⟩ := List.mem_map.mp member
      rfl
    rw [OrderStore.windowCount, everything, busySecond, List.length_map, List.length_range]
  have endless : ¬ Terminates (receiveOrdersJob (fun _ => true) busySecond true)
      (true, ⟨some 0, []⟩) (fun _ => True) :=
    not_terminates_of_invariant
      (fun job : Bool × ReceiveState => reaches job.2.lastReceiveOrdersDatetime 0 = true)
      (receiveOrdersJob_trapped full) rfl
  exact ⟨fun ends => endless ((importBatch_terminates _ fun _ => True).mp ends), endless⟩

end OdooConnector.Order
