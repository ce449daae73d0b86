import Mathlib.Data.Finset.Card
import Mathlib.Data.Finset.Dedup
import Mathlib.Data.Prod.Lex
import Mathlib.Logic.Function.Basic
import OdooConnector.Library.Loop
import OdooConnector.Order.ExternalFulfillment

/-!
# Automatic validation of deliveries

`_auto_validate_picking` validates the confirmed and assigned pickings of an order. After a
validation that leaves such pickings it restarts itself on them, otherwise it goes on with the
next picking of its call. A call at its end looks for waiting pickings among its own.
-/

namespace OdooConnector.Order

open Inventory (MoveState)

structure OperationLine where
  quantity : ℚ
  quantityProductUom : ℚ

structure OperationMove where
  state : MoveState
  quantity : ℚ
  productQty : ℚ
  /-- Rounding to the unit of the product. -/
  floatRound : ℚ → ℚ
  moveLineIds : List OperationLine

structure OperationPicking where
  state : PickingState
  displayName : String
  moveIds : List OperationMove

/-- The pickings of an order, and the rest of the database. -/
structure OrderPickings (ω : Type) where
  pickingIds : List ℕ
  picking : ℕ → OperationPicking
  database : ω

/-- What `button_validate` answers. -/
inductive ButtonAnswer where
  | validated
  | action (type shown : String)
  | userError (message : String)

/-- `button_validate`, which may do anything to the pickings of the order and to the database. -/
abbrev ButtonValidate (ω : Type) := OrderPickings ω → ℕ → ButtonAnswer × OrderPickings ω

namespace OperationMove

def moveQtyLack (move : OperationMove) : Bool :=
  move.floatRound move.quantity < move.floatRound move.productQty

/-- Take what the lines of a move with a lack say in the unit of the product. -/
def setQuantities (move : OperationMove) : OperationMove :=
  if move.state ≠ .done ∧ move.state ≠ .cancel ∧ move.moveQtyLack then
    { move with moveLineIds := move.moveLineIds.map fun line =>
        { line with quantity := line.quantityProductUom } }
  else move

end OperationMove

def OperationPicking.setQuantities (picking : OperationPicking) : OperationPicking :=
  { picking with moveIds := picking.moveIds.map OperationMove.setQuantities }

namespace ButtonAnswer

/-- The answer lets the automatic validation go on. -/
def goesOn : ButtonAnswer → Bool
  | validated => true
  | action type _ => type ≠ "ir.actions.act_window"
  | userError _ => false

def message (name : String) : ButtonAnswer → String
  | validated => ""
  | action _ shown =>
      "[" ++ name ++ "] requires manual validation.\nValidation result: " ++ shown
  | userError message => "[" ++ name ++ "]: " ++ message

end ButtonAnswer

namespace OrderPickings

variable {ω : Type} (order : OrderPickings ω)

def state (id : ℕ) : PickingState := (order.picking id).state

def displayNames (ids : List ℕ) : String :=
  ", ".intercalate (ids.map fun id => (order.picking id).displayName)

def setQuantities (id : ℕ) : OrderPickings ω :=
  { order with picking := Function.update order.picking id (order.picking id).setQuantities }

/-- `_filter_pickings_to_handle` of some pickings. -/
def filterPickingsToHandle (ids : List ℕ) : List ℕ :=
  ids.filter fun id => order.state id = .confirmed ∨ order.state id = .assigned

def filterWaiting (ids : List ℕ) : List ℕ := ids.filter fun id => order.state id = .waiting

/-- All pickings of the order to handle. -/
def toHandle : List ℕ := order.filterPickingsToHandle order.pickingIds

/-- Pickings of the order that are not done or cancelled. -/
def openPickings : List ℕ :=
  order.pickingIds.filter fun id => order.state id ≠ .done ∧ order.state id ≠ .cancel

/-- No picking of the order is confirmed, assigned or waiting. -/
def NoneLeft : Prop :=
  ∀ id ∈ order.pickingIds,
    order.state id ≠ .confirmed ∧ order.state id ≠ .assigned ∧ order.state id ≠ .waiting

/-- The answer at the end of a call. -/
def finalCheck (self : List ℕ) : Bool × String :=
  if order.filterWaiting self ≠ [] then
    (false, order.displayNames (order.filterWaiting self) ++
      " is not ready to be validated. Waiting another operation.")
  else (true, "[" ++ order.displayNames self ++ "] validated pickings successfully.")

@[simp]
theorem setQuantities_state (id other : ℕ) :
    (order.setQuantities id).state other = order.state other := by
  rw [state, setQuantities]
  dsimp only
  by_cases same : other = id
  · rw [same, Function.update_self, state, OperationPicking.setQuantities]
  · rw [Function.update_of_ne same, state]

@[simp]
theorem mem_toHandle {id : ℕ} : id ∈ order.toHandle ↔
    id ∈ order.pickingIds ∧ (order.state id = .confirmed ∨ order.state id = .assigned) := by
  simp [toHandle, filterPickingsToHandle]

@[simp]
theorem mem_filterWaiting {ids : List ℕ} {id : ℕ} :
    id ∈ order.filterWaiting ids ↔ id ∈ ids ∧ order.state id = .waiting := by
  simp [filterWaiting]

@[simp]
theorem filterWaiting_openPickings :
    order.filterWaiting order.openPickings = order.filterWaiting order.pickingIds := by
  rw [filterWaiting, openPickings, List.filter_filter]
  refine List.filter_congr fun id _ => ?_
  cases order.state id <;> rfl

theorem noneLeft_iff :
    order.NoneLeft ↔ order.toHandle = [] ∧ order.filterWaiting order.pickingIds = [] := by
  simp only [NoneLeft, List.eq_nil_iff_forall_not_mem, mem_toHandle, mem_filterWaiting, not_and,
    not_or, ← forall_and]
  exact forall_congr' fun id => by tauto

theorem finalCheck_iff (self : List ℕ) :
    (order.finalCheck self).1 = true ↔ order.filterWaiting self = [] := by
  rw [finalCheck]
  split <;> simp_all

end OrderPickings

/-- A call of `_auto_validate_picking` on some pickings, at some point of its loop. -/
structure ValidationCall (ω : Type) where
  self : List ℕ
  remaining : List ℕ
  order : OrderPickings ω
  result : Option (Bool × String)

namespace ValidationCall

variable {ω : Type} (button : ButtonValidate ω) (call : ValidationCall ω)

/-- The start of a call. -/
def start (self : List ℕ) (order : OrderPickings ω) : ValidationCall ω :=
  ⟨self, order.filterPickingsToHandle self, order, none⟩

/-- Answer of the button on a picking, and the order that it leaves. -/
def press (id : ℕ) : ButtonAnswer × OrderPickings ω := button (call.order.setQuantities id) id

/-- Handle the next picking. The last line of the loop body, a call on the pickings to handle,
starts over with them. -/
def step : ValidationCall ω × Bool :=
  match call.remaining with
  | [] => ({ call with result := some (call.order.finalCheck call.self) }, false)
  | id :: remaining =>
      let (answer, after) := call.press button id
      if answer.goesOn then
        if after.toHandle ≠ [] then (start after.toHandle after, true)
        else (⟨call.self, remaining, after, none⟩, true)
      else
        (⟨call.self, remaining, after,
          some (false, answer.message (after.picking id).displayName)⟩, false)

end ValidationCall

/-- `_auto_validate_picking` with a bound on the number of pickings handled: its answer, and the
order that it leaves. -/
def autoValidatePicking {ω : Type} (button : ButtonValidate ω) (fuel : ℕ) (self : List ℕ)
    (order : OrderPickings ω) : Option ((Bool × String) × OrderPickings ω) := do
  let last ← runLoop (ValidationCall.step button) fuel (.start self order)
  let result ← last.result
  return (result, last.order)

/-- `_integration_validate_picking` of an order. -/
def integrationValidatePicking {ω : Type} (button : ButtonValidate ω) (fuel : ℕ)
    (description : String) (order : OrderPickings ω) :
    Option ((Bool × String) × OrderPickings ω) :=
  if order.openPickings = [] then
    some ((true, description ++ ": there are no pickings awaiting validation."), order)
  else
    (autoValidatePicking button fuel order.openPickings order).map fun ((result, message), after) =>
      ((result, description ++ ": " ++ message), after)

section

variable {ω : Type} (button : ButtonValidate ω) (order : OrderPickings ω)

/-- If the automatic validation answers `True`, no picking of the order is left to validate. -/
def TellsTruth : Prop :=
  ∀ fuel message after,
    autoValidatePicking button fuel order.openPickings order = some ((true, message), after) →
    after.NoneLeft

/-- A validation without an error or a form to fill in moves its picking to done. -/
def MovesToDone : Prop :=
  ∀ before id, (button before id).1.goesOn = true → (button before id).2.state id = .done

def RecursionEnds : Prop :=
  ∃ fuel, (autoValidatePicking button fuel order.openPickings order).isSome

/-- The point of the recursion after some validations. -/
def callAt (n : ℕ) : Option (ValidationCall ω) :=
  stateAt (ValidationCall.step button) n (.start order.openPickings order)

end

namespace ValidationCall

variable {ω : Type} (button : ButtonValidate ω) (call : ValidationCall ω)

/-- The validation of the last picking of a call succeeds and leaves no picking of the order to
handle but a waiting one, while none of the pickings of the call is left waiting. -/
def Overlooks : Prop :=
  ∃ id, call.remaining = [id] ∧ (call.press button id).1.goesOn = true ∧
    (call.press button id).2.toHandle = [] ∧
    (call.press button id).2.filterWaiting (call.press button id).2.pickingIds ≠ [] ∧
    (call.press button id).2.filterWaiting call.self = []

/-- The next validation succeeds and leaves a picking to handle that was not to handle before. -/
def BringsMore : Prop :=
  ∃ id remaining, call.remaining = id :: remaining ∧ (call.press button id).1.goesOn = true ∧
    ∃ other ∈ (call.press button id).2.toHandle, other ∉ call.order.toHandle

/-- What is still to be handled in the call is to handle in the order, if anything is. -/
def Pending : Prop :=
  (∀ id ∈ call.remaining, id ∈ call.order.toHandle) ∨ call.order.toHandle = []

/-- Pickings to handle, and those that remain in the call. -/
def work : ℕ ×ₗ ℕ := toLex (call.order.toHandle.toFinset.card, call.remaining.length)

variable {call}

theorem start_toHandle (order : OrderPickings ω) :
    (start order.toHandle order).remaining = order.toHandle := by
  simp [start, OrderPickings.toHandle, OrderPickings.filterPickingsToHandle]

theorem start_openPickings (order : OrderPickings ω) :
    (start order.openPickings order).remaining = order.toHandle := by
  rw [start, OrderPickings.toHandle, OrderPickings.openPickings]
  dsimp only [OrderPickings.filterPickingsToHandle]
  rw [List.filter_filter]
  refine List.filter_congr fun id _ => ?_
  cases order.state id <;> rfl

theorem step_nil (empty : call.remaining = []) : call.step button =
    ({ call with result := some (call.order.finalCheck call.self) }, false) := by
  rw [step, empty]

theorem step_cons {id : ℕ} {remaining : List ℕ} (left : call.remaining = id :: remaining) :
    call.step button =
      if (call.press button id).1.goesOn then
        if (call.press button id).2.toHandle ≠ [] then
          (start (call.press button id).2.toHandle (call.press button id).2, true)
        else (⟨call.self, remaining, (call.press button id).2, none⟩, true)
      else
        (⟨call.self, remaining, (call.press button id).2, some (false,
          (call.press button id).1.message
            ((call.press button id).2.picking id).displayName)⟩, false) := by
  rw [step, left]

variable (call) in
/-- What a step does: it ends the call, it stops at a failed validation, it starts over, or it goes
on with the next picking. -/
theorem step_cases :
    (call.remaining = [] ∧
      call.step button = ({ call with result := some (call.order.finalCheck call.self) }, false)) ∨
    ∃ id remaining, call.remaining = id :: remaining ∧
      ((∃ message, call.step button =
          (⟨call.self, remaining, (call.press button id).2, some (false, message)⟩, false)) ∨
        ((call.press button id).1.goesOn = true ∧ (call.press button id).2.toHandle ≠ [] ∧
          call.step button =
            (start (call.press button id).2.toHandle (call.press button id).2, true)) ∨
        ((call.press button id).1.goesOn = true ∧ (call.press button id).2.toHandle = [] ∧
          call.step button = (⟨call.self, remaining, (call.press button id).2, none⟩, true))) := by
  cases left : call.remaining with
  | nil => exact .inl ⟨rfl, left ▸ step_nil button left⟩
  | cons id remaining =>
      refine .inr ⟨id, remaining, rfl, ?_⟩
      rw [step_cons button left]
      split_ifs with ok handle
      · exact .inr (.inl ⟨ok, handle, rfl⟩)
      · exact .inr (.inr ⟨ok, not_not.1 handle, rfl⟩)
      · exact .inl ⟨_, rfl⟩

variable {button} in
/-- A call that finds nothing left comes from its start, or from a validation that leaves nothing
to handle. -/
theorem previous_of_remaining_nil {before : ValidationCall ω}
    (went : before.step button = (call, true)) (empty : call.remaining = []) :
    ∃ id, before.remaining = [id] ∧ (before.press button id).1.goesOn = true ∧
      (before.press button id).2.toHandle = [] ∧
      call = ⟨before.self, [], (before.press button id).2, none⟩ := by
  obtain ⟨_, stops⟩ | ⟨id, remaining, left, ⟨_, stops⟩ | ⟨_, handle, again⟩ |
    ⟨ok, handle, next⟩⟩ := before.step_cases button
  · rw [stops] at went
    cases congrArg Prod.snd went
  · rw [stops] at went
    cases congrArg Prod.snd went
  · rw [again] at went
    obtain rfl := congrArg Prod.fst went
    rw [start_toHandle] at empty
    contradiction
  · rw [next] at went
    obtain rfl := congrArg Prod.fst went
    dsimp only at empty
    subst empty
    exact ⟨id, left, ok, handle, rfl⟩

end ValidationCall

section

variable {ω : Type} {button : ButtonValidate ω} {order : OrderPickings ω}

/-- The answer `True` comes from a call that finds nothing left and none of its own waiting. -/
theorem autoValidatePicking_true_iff {self : List ℕ} {after : OrderPickings ω} :
    (∃ fuel message, autoValidatePicking button fuel self order = some ((true, message), after)) ↔
      ∃ n call, stateAt (ValidationCall.step button) n (.start self order) = some call ∧
        call.remaining = [] ∧ after.filterWaiting call.self = [] ∧ call.order = after := by
  constructor
  · rintro ⟨fuel, message, answer⟩
    simp only [autoValidatePicking, Option.bind_eq_bind, Option.bind_eq_some_iff,
      Option.pure_def, Option.some_inj, Prod.mk.injEq] at answer
    obtain ⟨last, run, result, found, same, rfl⟩ := answer
    obtain ⟨n, call, reached, stop, rfl⟩ := exists_runLoop_iff.1 ⟨fuel, run⟩
    refine ⟨n, call, reached, ?_⟩
    obtain ⟨empty, stops⟩ | ⟨id, remaining, _, ⟨_, stops⟩ | ⟨_, _, again⟩ | ⟨_, _, next⟩⟩ :=
      call.step_cases button
    · rw [stops] at found ⊢
      refine ⟨empty, ?_, rfl⟩
      rw [← OrderPickings.finalCheck_iff, Option.some_inj.1 found, same]
    · rw [stops, Option.some_inj] at found
      rw [← found] at same
      simp at same
    · rw [again] at stop
      contradiction
    · rw [next] at stop
      contradiction
  · rintro ⟨n, call, reached, empty, waits, rfl⟩
    have stops := ValidationCall.step_nil button empty
    obtain ⟨fuel, run⟩ := exists_runLoop_iff.2 ⟨n, call, reached, by rw [stops], rfl⟩
    refine ⟨fuel, (call.order.finalCheck call.self).2, ?_⟩
    have answer := call.order.finalCheck_iff call.self
    rw [autoValidatePicking, run, stops]
    simp only [Option.bind_eq_bind, Option.bind_some, Option.pure_def, Option.some_inj,
      Prod.mk.injEq, and_true]
    exact Prod.ext (answer.2 waits) rfl

/-- When a call finds nothing left and none of its own waiting, either no picking of the order is
left to validate, or the validation before overlooked one that waits. -/
theorem noneLeft_iff_not_overlooks {n : ℕ} {call : ValidationCall ω}
    (reached : callAt button order n = some call) (empty : call.remaining = [])
    (waits : call.order.filterWaiting call.self = []) :
    call.order.NoneLeft ↔
      ∀ m before, n = m + 1 → callAt button order m = some before → ¬ before.Overlooks button := by
  cases n with
  | zero =>
      obtain rfl := Option.some_inj.1 reached
      refine iff_of_true ?_ fun m before impossible => nomatch impossible
      rw [ValidationCall.start_openPickings] at empty
      exact (OrderPickings.noneLeft_iff _).2 ⟨empty, order.filterWaiting_openPickings ▸ waits⟩
  | succ n =>
      obtain ⟨before, earlier, went⟩ := stateAt_succ_iff.1 reached
      obtain ⟨id, left, ok, handle, rfl⟩ := ValidationCall.previous_of_remaining_nil went empty
      rw [OrderPickings.noneLeft_iff, and_iff_right handle]
      constructor
      · rintro unseen m other same found ⟨id', left', _, _, waiting, _⟩
        obtain rfl := Nat.succ_injective same
        obtain rfl := Option.some_inj.1 (found.symm.trans earlier)
        obtain rfl : id' = id := List.head_eq_of_cons_eq (left'.symm.trans left)
        exact waiting unseen
      · intro sees
        by_contra waiting
        exact sees n before rfl earlier ⟨id, left, ok, handle, waiting, waits⟩

/-- The automatic validation tells the truth exactly when it overlooks no waiting picking. -/
theorem tellsTruth_iff : TellsTruth button order ↔
    ∀ n call, callAt button order n = some call → ¬ call.Overlooks button := by
  constructor
  · rintro truth n call reached ⟨id, left, ok, handle, waiting, unseen⟩
    have next : call.step button = (⟨call.self, [], (call.press button id).2, none⟩, true) := by
      rw [ValidationCall.step_cons button left, if_pos ok, if_neg (not_not.2 handle)]
    obtain ⟨fuel, message, answer⟩ := autoValidatePicking_true_iff.2
      ⟨n + 1, _, stateAt_succ_iff.2 ⟨call, reached, next⟩, rfl, unseen, rfl⟩
    exact waiting ((OrderPickings.noneLeft_iff _).1 (truth fuel message _ answer)).2
  · intro sees fuel message after answer
    obtain ⟨n, call, reached, empty, waits, rfl⟩ :=
      autoValidatePicking_true_iff.1 ⟨fuel, message, answer⟩
    exact (noneLeft_iff_not_overlooks reached empty waits).2
      fun m before _ found => sees m before found

/-- The recursion ends exactly when its loop does. -/
theorem recursionEnds_iff : RecursionEnds button order ↔
    Terminates (ValidationCall.step button) (.start order.openPickings order) fun _ => True := by
  constructor
  · rintro ⟨fuel, some⟩
    obtain ⟨answer, found⟩ := Option.isSome_iff_exists.1 some
    rw [autoValidatePicking, Option.bind_eq_bind, Option.bind_eq_some_iff] at found
    obtain ⟨last, run, _⟩ := found
    exact ⟨fuel, last, run, trivial⟩
  · rintro ⟨fuel, last, run, _⟩
    refine ⟨fuel, ?_⟩
    obtain ⟨n, call, _, stop, rfl⟩ := exists_runLoop_iff.1 ⟨fuel, run⟩
    rw [autoValidatePicking, run]
    obtain ⟨_, stops⟩ | ⟨id, remaining, _, ⟨message, stops⟩ | ⟨_, _, again⟩ | ⟨_, _, next⟩⟩ :=
      call.step_cases button
    · rw [stops]
      rfl
    · rw [stops]
      rfl
    · rw [again] at stop
      contradiction
    · rw [next] at stop
      contradiction

/-- Where validations move their pickings to done, a step that goes on leaves less work, unless
its validation brings more pickings to handle. -/
theorem work_decreases (moves : MovesToDone button) (call : ValidationCall ω)
    (pending : call.Pending) (again : (call.step button).2 = true) :
    (call.step button).1.Pending ∧
      (call.BringsMore button ∨ (call.step button).1.work < call.work) := by
  obtain ⟨_, stops⟩ | ⟨id, remaining, left, ⟨_, stops⟩ | ⟨ok, handle, restarts⟩ |
    ⟨ok, handle, next⟩⟩ := call.step_cases button
  · rw [stops] at again
    contradiction
  · rw [stops] at again
    contradiction
  · rw [restarts]
    refine ⟨.inl fun other mem => by rwa [ValidationCall.start_toHandle] at mem, ?_⟩
    by_cases more : ∃ other ∈ (call.press button id).2.toHandle, other ∉ call.order.toHandle
    · exact .inl ⟨id, remaining, left, ok, more⟩
    · push Not at more
      have known : id ∈ call.order.toHandle := by
        cases pending with
        | inl all => exact all id (left ▸ List.mem_cons_self)
        | inr nothing =>
            obtain ⟨other, mem⟩ := List.exists_mem_of_ne_nil _ handle
            exact absurd (more other mem) (nothing ▸ List.not_mem_nil)
      have gone : id ∉ (call.press button id).2.toHandle := by
        rw [OrderPickings.mem_toHandle, ValidationCall.press, moves _ _ ok]
        simp
      have fewer : (call.press button id).2.toHandle.toFinset ⊂ call.order.toHandle.toFinset := by
        refine (Finset.ssubset_iff_of_subset fun other mem => ?_).2
          ⟨id, List.mem_toFinset.2 known, fun mem => gone (List.mem_toFinset.1 mem)⟩
        exact List.mem_toFinset.2 (more other (List.mem_toFinset.1 mem))
      exact .inr (Prod.Lex.toLex_lt_toLex.2 (.inl (Finset.card_lt_card fewer)))
  · rw [next]
    refine ⟨.inr handle, .inr (Prod.Lex.toLex_lt_toLex.2 ?_)⟩
    have fewer : remaining.length < call.remaining.length := by
      rw [left, List.length_cons]
      omega
    dsimp only
    rw [handle, List.toFinset_nil, Finset.card_empty]
    omega

/-- Where validations move their pickings to done, the recursion ends exactly when the validations
cease to bring more pickings to handle. -/
theorem recursionEnds_iff_cease (moves : MovesToDone button) : RecursionEnds button order ↔
    ∃ first, ∀ n, first ≤ n → ∀ call, callAt button order n = some call →
      ¬ call.BringsMore button := by
  rw [recursionEnds_iff]
  refine terminates_iff_events_cease ValidationCall.work (work_decreases moves) (.inl ?_)
  intro id mem
  rwa [ValidationCall.start_openPickings] at mem

/-- Automatic validation tells the truth and ends exactly when no validation that finishes a call
overlooks a waiting picking, and when validations that move their pickings to done cease to bring
more pickings to handle. -/
theorem autoValidate_truthful_iff (button : ButtonValidate ω) (order : OrderPickings ω) :
    (TellsTruth button order ∧ (MovesToDone button → RecursionEnds button order)) ↔
      (∀ n call, callAt button order n = some call → ¬ call.Overlooks button) ∧
        (MovesToDone button → ∃ first, ∀ n, first ≤ n → ∀ call,
          callAt button order n = some call → ¬ call.BringsMore button) :=
  and_congr tellsTruth_iff (forall_congr' recursionEnds_iff_cease)

end

/-- Two deliveries that are ready, and a third that waits for another operation. -/
def threeDeliveries : OrderPickings Unit where
  pickingIds := [1, 2, 3]
  picking id := ⟨if id = 3 then .waiting else .assigned, "OUT", []⟩
  database := ()

/-- Each validation moves its picking to done, and does nothing else. -/
def validateOnly : ButtonValidate Unit := fun order id =>
  (.validated, { order with
    picking := Function.update order.picking id { order.picking id with state := .done } })

/-- The third delivery is still waiting when the answer is `True`. -/
theorem waiting_delivery_overlooked :
    ¬ (TellsTruth validateOnly threeDeliveries ∧
      (MovesToDone validateOnly → RecursionEnds validateOnly threeDeliveries)) := by
  rintro ⟨truth, _⟩
  have left := truth 3 _ _ rfl 3 (by decide)
  exact left.2.2 rfl

end OdooConnector.Order
