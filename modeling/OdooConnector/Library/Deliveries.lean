import Mathlib.Data.List.Induction
import Mathlib.Data.List.Perm.Basic

/-!
# Deliveries by jobs with identities

Values are delivered by jobs that wait in a queue and start in any order. A job is not queued while
one of the same identity waits, whatever it carries. The latest values are delivered by every order
exactly as long as every trigger agrees with the jobs that wait.
-/

namespace OdooConnector

structure Job (κ ω : Type*) where
  key : κ
  work : ω

/-- Jobs that wait, the latest values and the requests that are open, and the values that were sent
last. -/
structure Deliveries (κ ω α V ρ : Type*) where
  jobs : List (Job κ ω)
  latest : α → Option V
  sent : α → Option V
  requested : List ρ

namespace Deliveries

variable {κ ω α V ρ : Type*}

section Queue

variable [DecidableEq κ]

def isPending (jobs : List (Job κ ω)) (key : κ) : Bool := jobs.any fun job => job.key = key

/-- A job whose identity waits already is dropped. -/
def withDelay (jobs : List (Job κ ω)) (job : Job κ ω) : List (Job κ ω) :=
  if isPending jobs job.key then jobs else jobs ++ [job]

/-- The jobs of a call that are not dropped. -/
def accepted (jobs : List (Job κ ω)) : List (Job κ ω) → List (Job κ ω)
  | [] => []
  | call :: calls =>
      if isPending jobs call.key then accepted jobs calls
      else call :: accepted (jobs ++ [call]) calls

theorem foldl_withDelay (jobs calls : List (Job κ ω)) :
    calls.foldl withDelay jobs = jobs ++ accepted jobs calls := by
  induction calls generalizing jobs with
  | nil => simp [accepted]
  | cons call calls induction =>
      rw [List.foldl_cons, withDelay, accepted]
      split
      · exact induction jobs
      · rw [induction (jobs ++ [call]), List.append_assoc, List.singleton_append]

theorem mem_of_mem_accepted {jobs calls : List (Job κ ω)} {call : Job κ ω}
    (member : call ∈ accepted jobs calls) : call ∈ calls := by
  induction calls generalizing jobs with
  | nil => exact member
  | cons first calls induction =>
      rw [accepted] at member
      split at member
      · exact List.mem_cons_of_mem _ (induction member)
      · cases member with
        | head => exact List.mem_cons_self
        | tail _ later => exact List.mem_cons_of_mem _ (induction later)

end Queue

variable (carries : ω → α → Option V) (answers : ω → List ρ)

/-- Values after a job has sent its own. -/
def send (sent : α → Option V) (job : Job κ ω) : α → Option V :=
  fun product => (carries job.work product).or (sent product)

/-- Values after some jobs, one after another. -/
def sendAll (jobs : List (Job κ ω)) (sent : α → Option V) : α → Option V :=
  jobs.foldl (send carries) sent

/-- A trigger computes values and calls jobs that carry them. -/
def trigger [DecidableEq κ] (state : Deliveries κ ω α V ρ) (calls : List (Job κ ω)) :
    Deliveries κ ω α V ρ where
  jobs := calls.foldl withDelay state.jobs
  latest := sendAll carries calls state.latest
  sent := state.sent
  requested := state.requested ++ calls.flatMap fun call => answers call.work

/-- A job starts, which leaves the others, and answers its requests. -/
def deliver [DecidableEq ρ] (state : Deliveries κ ω α V ρ) (job : Job κ ω) (rest : List (Job κ ω)) :
    Deliveries κ ω α V ρ where
  jobs := rest
  latest := state.latest
  sent := send carries state.sent job
  requested := state.requested.filter fun request => request ∉ answers job.work

/-- Values are computed and sent at once. -/
def sendNow (state : Deliveries κ ω α V ρ) (values : α → Option V) : Deliveries κ ω α V ρ :=
  { state with
    latest := fun product => (values product).or (state.latest product)
    sent := fun product => (values product).or (state.sent product) }

/-- In whatever order the waiting jobs start, they send the latest values and leave no request
open. -/
structure Safe (state : Deliveries κ ω α V ρ) : Prop where
  sent : ∀ order, order.Perm state.jobs → ∀ product value, state.latest product = some value →
    sendAll carries order state.sent product = some value
  answered : ∀ request ∈ state.requested, ∃ job ∈ state.jobs, request ∈ answers job.work

/-- What waiting jobs carry has been computed by a trigger. -/
def Covered (state : Deliveries κ ω α V ρ) : Prop :=
  ∀ job ∈ state.jobs, ∀ product, (carries job.work product).isSome →
    (state.latest product).isSome

/-- The jobs that wait after a trigger carry its values, or these were sent before; and they answer
its requests. -/
structure Keeps [DecidableEq κ] (state : Deliveries κ ω α V ρ) (calls : List (Job κ ω)) : Prop where
  agrees : ∀ product value, sendAll carries calls (fun _ => none) product = some value →
    ∀ job ∈ state.jobs ++ accepted state.jobs calls, ∀ other,
      carries job.work product = some other → other = value
  carried : ∀ product value, sendAll carries calls (fun _ => none) product = some value →
    state.sent product = some value ∨
      ∃ job ∈ state.jobs ++ accepted state.jobs calls, (carries job.work product).isSome
  answered : ∀ call ∈ calls, ∀ request ∈ answers call.work,
    ∃ job ∈ state.jobs ++ accepted state.jobs calls, request ∈ answers job.work

/-- What the waiting jobs carry agrees with values that are sent at once. -/
def Agrees (state : Deliveries κ ω α V ρ) (values : α → Option V) : Prop :=
  ∀ product value, values product = some value → ∀ job ∈ state.jobs, ∀ other,
    carries job.work product = some other → other = value

/-! ## Values that were sent last -/

variable {carries answers} {state : Deliveries κ ω α V ρ} {jobs calls : List (Job κ ω)}
  {product : α} {value : V}

/-- Jobs send over what was sent before. -/
theorem sendAll_eq_or (jobs : List (Job κ ω)) (sent : α → Option V) (product : α) :
    sendAll carries jobs sent product =
      (sendAll carries jobs (fun _ => none) product).or (sent product) := by
  induction jobs using List.reverseRecOn with
  | nil => rfl
  | append_singleton jobs job induction =>
      simp only [sendAll, List.foldl_append, List.foldl_cons, List.foldl_nil, send] at induction ⊢
      rw [induction, Option.or_assoc]

/-- Jobs that do not carry a product leave it as it was. -/
theorem sendAll_of_none (none : ∀ job ∈ jobs, carries job.work product = none)
    (sent : α → Option V) : sendAll carries jobs sent product = sent product := by
  induction jobs generalizing sent with
  | nil => rfl
  | cons job jobs induction =>
      rw [sendAll, List.foldl_cons]
      refine (induction (fun other member => none other (List.mem_cons_of_mem _ member)) _).trans ?_
      rw [send, none job List.mem_cons_self, Option.none_or]

/-- Jobs that agree on a product send its value where one of them carries it. -/
theorem sendAll_of_agree
    (agree : ∀ job ∈ jobs, ∀ other, carries job.work product = some other → other = value)
    (carried : ∃ job ∈ jobs, (carries job.work product).isSome) (sent : α → Option V) :
    sendAll carries jobs sent product = some value := by
  induction jobs using List.reverseRecOn with
  | nil => simp at carried
  | append_singleton jobs last induction =>
      rw [sendAll, List.foldl_append, List.foldl_cons, List.foldl_nil, send]
      cases own : carries last.work product with
      | some other => rw [Option.some_or, agree last (by simp) other own]
      | none =>
          rw [Option.none_or]
          refine induction (fun job member => agree job (List.mem_append_left _ member)) ?_
          obtain ⟨job, member, carries⟩ := carried
          cases List.mem_append.mp member with
          | inl earlier => exact ⟨job, earlier, carries⟩
          | inr same =>
              rw [List.mem_singleton.mp same, own] at carries
              cases carries

/-- A product that no job carries is carried by none of them. -/
theorem none_of_uncarried (uncarried : ¬ ∃ job ∈ jobs, (carries job.work product).isSome) :
    ∀ job ∈ jobs, carries job.work product = none := by
  intro job member
  cases own : carries job.work product with
  | none => rfl
  | some other => exact absurd ⟨job, member, by simp [own]⟩ uncarried

/-- A product that one of the jobs carries is sent. -/
theorem isSome_sendAll (carried : ∃ job ∈ jobs, (carries job.work product).isSome)
    (sent : α → Option V) : (sendAll carries jobs sent product).isSome := by
  induction jobs using List.reverseRecOn with
  | nil => simp at carried
  | append_singleton jobs last induction =>
      rw [sendAll, List.foldl_append, List.foldl_cons, List.foldl_nil, send, Option.isSome_or,
        Bool.or_eq_true]
      obtain ⟨job, member, carries⟩ := carried
      cases List.mem_append.mp member with
      | inl earlier => exact Or.inr (induction ⟨job, earlier, carries⟩)
      | inr same => exact Or.inl (List.mem_singleton.mp same ▸ carries)

/-- Waiting jobs carry the latest values only, and what they do not carry was sent. -/
structure Current (carries : ω → α → Option V) (answers : ω → List ρ)
    (state : Deliveries κ ω α V ρ) : Prop where
  agrees : ∀ job ∈ state.jobs, ∀ product value, carries job.work product = some value →
    state.latest product = some value
  sent : ∀ product value, state.latest product = some value →
    state.sent product = some value ∨ ∃ job ∈ state.jobs, (carries job.work product).isSome
  answered : ∀ request ∈ state.requested, ∃ job ∈ state.jobs, request ∈ answers job.work

theorem Current.safe (current : state.Current carries answers) : state.Safe carries answers := by
  refine ⟨fun order perm product value latest => ?_, current.answered⟩
  have agree : ∀ job ∈ order, ∀ other, carries job.work product = some other → other = value := by
    intro job member other own
    have newest := current.agrees job (perm.mem_iff.mp member) product other own
    exact Option.some.inj (newest.symm.trans latest)
  cases Classical.em (∃ job ∈ order, (carries job.work product).isSome) with
  | inl carried => exact sendAll_of_agree agree carried state.sent
  | inr uncarried =>
      rw [sendAll_of_none (none_of_uncarried uncarried)]
      refine (current.sent product value latest).resolve_right ?_
      rintro ⟨job, member, carried⟩
      exact uncarried ⟨job, perm.mem_iff.mpr member, carried⟩

/-- Where some order could send an older value, a waiting job carries one. -/
theorem Safe.current (safe : state.Safe carries answers) (covered : state.Covered carries) :
    state.Current carries answers := by
  refine ⟨fun job member product value own => ?_, fun product value latest => ?_, safe.answered⟩
  · obtain ⟨newest, latest⟩ := Option.isSome_iff_exists.mp
      (covered job member product (by simp [own]))
    obtain ⟨front, back, parts⟩ := List.append_of_mem member
    have last : ((front ++ back) ++ [job]).Perm state.jobs := by
      rw [parts, List.append_assoc]
      exact (List.perm_append_singleton job back).append_left front
    have sent := safe.sent _ last product newest latest
    rw [sendAll, List.foldl_append, List.foldl_cons, List.foldl_nil, send, own, Option.some_or]
      at sent
    rw [latest, sent]
  · cases Classical.em (∃ job ∈ state.jobs, (carries job.work product).isSome) with
    | inl carried => exact Or.inr carried
    | inr uncarried =>
        have sent := safe.sent state.jobs (List.Perm.refl _) product value latest
        rw [sendAll_of_none (none_of_uncarried uncarried)] at sent
        exact Or.inl sent

/-! ## What the operations keep -/

theorem Current.deliver [DecidableEq ρ] (current : state.Current carries answers)
    {job : Job κ ω} {front back : List (Job κ ω)} (parts : state.jobs = front ++ job :: back) :
    (state.deliver carries answers job (front ++ back)).Current carries answers := by
  have remaining : ∀ other ∈ front ++ back, other ∈ state.jobs := by
    intro other member
    rw [parts]
    exact (List.sublist_cons_self job back).append_left front |>.subset member
  have split : ∀ other ∈ state.jobs, other = job ∨ other ∈ front ++ back := by
    intro other member
    rw [parts] at member
    simp only [List.mem_append, List.mem_cons] at member ⊢
    tauto
  have started : job ∈ state.jobs := by simp [parts]
  refine ⟨fun other member => current.agrees other (remaining other member), ?_, ?_⟩
  · intro product value latest
    simp only [Deliveries.deliver, send]
    cases own : carries job.work product with
    | some other =>
        left
        rw [Option.some_or, ← current.agrees job started product other own]
        exact latest
    | none =>
        rw [Option.none_or]
        refine (current.sent product value latest).imp_right ?_
        rintro ⟨other, member, carried⟩
        obtain rfl | left := split other member
        · simp [own] at carried
        · exact ⟨other, left, carried⟩
  · intro request open_
    obtain ⟨member, unanswered⟩ := List.mem_filter.mp open_
    obtain ⟨other, listed, answered⟩ := current.answered request member
    obtain rfl | left := split other listed
    · exact absurd answered (by simpa using unanswered)
    · exact ⟨other, left, answered⟩

theorem Covered.deliver [DecidableEq ρ] (covered : state.Covered carries) {job : Job κ ω}
    {rest : List (Job κ ω)} (remaining : ∀ other ∈ rest, other ∈ state.jobs) :
    (state.deliver carries answers job rest).Covered carries :=
  fun other member => covered other (remaining other member)

/-- Values that are sent at once keep the waiting jobs current exactly where these agree. -/
theorem current_sendNow_iff (current : state.Current carries answers) (values : α → Option V) :
    (state.sendNow values).Current carries answers ↔ state.Agrees carries values := by
  constructor
  · intro after product value now job member other own
    have latest : (values product).or (state.latest product) = some other :=
      after.agrees job member product other own
    rw [now, Option.some_or] at latest
    exact (Option.some.inj latest).symm
  · intro agrees
    refine ⟨fun job member product value own => ?_, fun product value latest => ?_,
      current.answered⟩
    · simp only [sendNow]
      cases now : values product with
      | none => exact current.agrees job member product value own
      | some other => rw [Option.some_or, agrees product other now job member value own]
    · simp only [sendNow] at latest ⊢
      cases now : values product with
      | none =>
          rw [now, Option.none_or] at latest
          exact current.sent product value latest
      | some other =>
          rw [now] at latest
          exact Or.inl latest

theorem Covered.sendNow (covered : state.Covered carries) (values : α → Option V) :
    (state.sendNow values).Covered carries := by
  intro job member product carried
  rw [Deliveries.sendNow, Option.isSome_or, covered job member product carried, Bool.or_true]

/-- A trigger keeps the waiting jobs current exactly where it agrees with them. -/
theorem current_trigger_iff [DecidableEq κ] (current : state.Current carries answers)
    (calls : List (Job κ ω)) :
    (state.trigger carries answers calls).Current carries answers ↔
      state.Keeps carries answers calls := by
  have jobs : (state.trigger carries answers calls).jobs =
      state.jobs ++ accepted state.jobs calls := foldl_withDelay state.jobs calls
  have latest (product : α) : (state.trigger carries answers calls).latest product =
      (sendAll carries calls (fun _ => none) product).or (state.latest product) :=
    sendAll_eq_or calls state.latest product
  constructor
  · intro after
    refine ⟨fun product value new job member other own => ?_, fun product value new => ?_,
      fun call member request answers => ?_⟩
    · have newest := after.agrees job (jobs ▸ member) product other own
      rw [latest, new, Option.some_or] at newest
      exact (Option.some.inj newest).symm
    · rw [← jobs]
      exact after.sent product value (by rw [latest, new, Option.some_or])
    · rw [← jobs]
      exact after.answered request (List.mem_append_right _
        (List.mem_flatMap.mpr ⟨call, member, answers⟩))
  · intro keeps
    refine ⟨fun job member product value own => ?_, fun product value newest => ?_,
      fun request open_ => ?_⟩
    · rw [jobs] at member
      rw [latest]
      cases new : sendAll carries calls (fun _ => none) product with
      | some other => rw [Option.some_or, keeps.agrees product other new job member value own]
      | none =>
          rw [Option.none_or]
          cases List.mem_append.mp member with
          | inl waiting => exact current.agrees job waiting product value own
          | inr called =>
              have sent : (sendAll carries calls (fun _ => none) product).isSome :=
                isSome_sendAll ⟨job, mem_of_mem_accepted called, by simp [own]⟩ _
              simp [new] at sent
    · rw [latest] at newest
      rw [jobs]
      cases new : sendAll carries calls (fun _ => none) product with
      | some other =>
          rw [new, Option.some_or] at newest
          exact keeps.carried product value (new.trans newest)
      | none =>
          rw [new, Option.none_or] at newest
          refine (current.sent product value newest).imp_right ?_
          rintro ⟨job, member, carried⟩
          exact ⟨job, List.mem_append_left _ member, carried⟩
    · rw [jobs]
      cases List.mem_append.mp open_ with
      | inl earlier =>
          obtain ⟨job, member, answered⟩ := current.answered request earlier
          exact ⟨job, List.mem_append_left _ member, answered⟩
      | inr new =>
          obtain ⟨call, member, answered⟩ := List.mem_flatMap.mp new
          exact keeps.answered call member request answered

/-- A single call while no job waits is kept. -/
theorem keeps_singleton [DecidableEq κ] (idle : state.jobs = []) (call : Job κ ω) :
    state.Keeps carries answers [call] := by
  have waiting : state.jobs ++ accepted state.jobs [call] = [call] := by
    simp [idle, accepted, isPending]
  have own (product : α) :
      sendAll carries [call] (fun _ => none) product = carries call.work product := by
    simp [sendAll, send]
  refine ⟨?_, ?_, ?_⟩
  · intro product value new job member other carried
    rw [waiting, List.mem_singleton] at member
    rw [own, ← member, carried] at new
    exact Option.some.inj new
  · intro product value new
    rw [own] at new
    exact Or.inr ⟨call, by simp [waiting], by simp [new]⟩
  · intro job member request asked
    rw [waiting]
    exact ⟨job, member, asked⟩

theorem Covered.trigger [DecidableEq κ] (covered : state.Covered carries)
    (calls : List (Job κ ω)) : (state.trigger carries answers calls).Covered carries := by
  intro job member product carried
  show (sendAll carries calls state.latest product).isSome = true
  rw [sendAll_eq_or, Option.isSome_or, Bool.or_eq_true]
  rw [Deliveries.trigger, foldl_withDelay] at member
  cases List.mem_append.mp member with
  | inl waiting => exact Or.inr (covered job waiting product carried)
  | inr called =>
      exact Or.inl (isSome_sendAll ⟨job, mem_of_mem_accepted called, carried⟩ _)

end Deliveries

end OdooConnector
