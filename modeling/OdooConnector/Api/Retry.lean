import OdooConnector.Library.Loop
import Mathlib.Data.Nat.Find
import Mathlib.Data.Rat.Defs

/-!
# Retries of an API method

A wrapped method is called again after errors of the client and of the server, each kind with its
own counter. A retry passes on only the counter that it raises, so the other one starts again: the
calls end as soon as one kind of error comes often enough in a row, and not before.
-/

namespace OdooConnector.Api

/-- Exceptions that the wrapper tells apart. -/
inductive ErrorKind
  | sslError
  | requestsConnectionError
  | resourceConflict
  | tooManyRequestsError
  | throttledError (timeout : ℚ)
  | serverError
  | other
deriving DecidableEq

namespace ErrorKind

def isClient : ErrorKind → Bool
  | sslError | requestsConnectionError | resourceConflict | tooManyRequestsError => true
  | _ => false

def isServer (kind : ErrorKind) : Bool := kind = serverError

def isThrottled : ErrorKind → Bool
  | throttledError _ => true
  | _ => false

end ErrorKind

/-- An exception with its attribute `retry_after`, where it has one, and with what else it says. -/
structure ApiError (ε : Type) where
  kind : ErrorKind
  retryAfter : Option ℚ
  args : ε

/-- What a call of the method comes to. -/
abbrev Outcome (ρ ε : Type) := Except (ApiError ε) ρ

def clientLimit : ℕ := 8
def serverLimit : ℕ := 5
def clientTimeout : ℕ := 4
def serverTimeout : ℕ := 2

variable {ρ ε : Type}

/-- A `retry_after` of zero counts as none. -/
def getRetryTimeout (ex : ApiError ε) (attempt : ℕ) (isClient : Bool) : ℚ :=
  let defaultTimeout := if isClient then clientTimeout else serverTimeout
  match ex.retryAfter with
  | none => (defaultTimeout * attempt : ℕ)
  | some seconds => if seconds = 0 then (defaultTimeout * attempt : ℕ) else seconds

/-- The counters of the next call, the calls made, the waits between them, and the end. -/
structure Retries (ρ ε : Type) where
  clientAttempt : ℕ := 1
  serverAttempt : ℕ := 1
  calls : ℕ := 0
  waits : List ℚ := []
  ended : Option (Outcome ρ ε) := none

namespace Retries

/-- `retry` binds the arguments of the method only: a counter not given starts from one. -/
def retry (state : Retries ρ ε) (wait : ℚ) (clientAttempt serverAttempt : ℕ) : Retries ρ ε :=
  { clientAttempt, serverAttempt, calls := state.calls + 1, waits := state.waits ++ [wait] }

def leave (state : Retries ρ ε) (outcome : Outcome ρ ε) : Retries ρ ε :=
  { state with calls := state.calls + 1, ended := some outcome }

end Retries

/-- One call of `_catch_exception`, and whether it calls itself again. -/
def catchException (outcomes : ℕ → Outcome ρ ε) (state : Retries ρ ε) : Retries ρ ε × Bool :=
  match outcomes state.calls with
  | .error ex =>
      if ex.kind.isClient then
        if state.clientAttempt ≤ clientLimit then
          let wait := getRetryTimeout ex state.clientAttempt true
          (state.retry wait (state.clientAttempt + 1) 1, true)
        else (state.leave (.error ex), false)
      else match ex.kind with
        | .throttledError timeout => (state.retry timeout state.clientAttempt 1, true)
        | .serverError =>
            if state.serverAttempt ≤ serverLimit then
              let wait := getRetryTimeout ex state.serverAttempt false
              (state.retry wait 1 (state.serverAttempt + 1), true)
            else (state.leave (.error ex), false)
        | _ => (state.leave (.error ex), false)
  | .ok result => (state.leave (.ok result), false)

/-- The method is called at most `bound` times, and its first result is returned or its last error
raised. -/
def EndsWithin (bound : ℕ) (outcomes : ℕ → Outcome ρ ε) : Prop :=
  ∃ final, runLoop (catchException outcomes) bound {} = some final ∧
    ∃ last < bound, final.calls = last + 1 ∧ final.ended = some (outcomes last) ∧
      ∀ call < last, ∀ result, outcomes call ≠ .ok result

/-! ## Errors in a row -/

/-- The call raises an error of this kind. -/
def Raises (kind : ErrorKind → Bool) : Outcome ρ ε → Prop
  | .error ex => kind ex.kind = true
  | .ok _ => False

instance (kind : ErrorKind → Bool) : DecidablePred (Raises kind : Outcome ρ ε → Prop)
  | .error ex => inferInstanceAs (Decidable (kind ex.kind = true))
  | .ok _ => inferInstanceAs (Decidable False)

def ThrottleFree (outcomes : ℕ → Outcome ρ ε) : Prop :=
  ∀ call, ¬ Raises ErrorKind.isThrottled (outcomes call)

/-- The last `count` of the calls up to this one all raise errors of the kind. -/
def InARow (kind : ErrorKind → Bool) (outcomes : ℕ → Outcome ρ ε) (count call : ℕ) : Prop :=
  count ≤ call + 1 ∧ ∀ earlier ≤ call, call < earlier + count → Raises kind (outcomes earlier)

/-- A result, an error that is not retried, or one error too many of a kind in a row. -/
def StopsAt (outcomes : ℕ → Outcome ρ ε) (call : ℕ) : Prop :=
  (¬ Raises ErrorKind.isClient (outcomes call) ∧ ¬ Raises ErrorKind.isServer (outcomes call)) ∨
    InARow ErrorKind.isClient outcomes (clientLimit + 1) call ∨
    InARow ErrorKind.isServer outcomes (serverLimit + 1) call

/-- Errors of the kind in a row just before a call. -/
def streak (kind : ErrorKind → Bool) (outcomes : ℕ → Outcome ρ ε) : ℕ → ℕ
  | 0 => 0
  | call + 1 => if Raises kind (outcomes call) then streak kind outcomes call + 1 else 0

variable {kind : ErrorKind → Bool} {outcomes : ℕ → Outcome ρ ε} {state : Retries ρ ε}

theorem inARow_succ_iff {count call : ℕ} :
    InARow kind outcomes (count + 1) call ↔
      count ≤ streak kind outcomes call ∧ Raises kind (outcomes call) := by
  induction call generalizing count with
  | zero =>
      simp only [InARow, streak, Nat.le_zero]
      constructor
      · rintro ⟨few, raises⟩
        exact ⟨by omega, raises 0 rfl (by omega)⟩
      · rintro ⟨rfl, raises⟩
        refine ⟨le_rfl, fun earlier first _ => ?_⟩
        rw [first]
        exact raises
  | succ call induction =>
      rw [streak]
      cases count with
      | zero =>
          simp only [InARow, Nat.zero_le, true_and]
          constructor
          · rintro ⟨-, raises⟩
            exact raises (call + 1) le_rfl (Nat.lt_succ_self _)
          · intro raises
            refine ⟨by omega, fun earlier early late => ?_⟩
            rwa [show earlier = call + 1 by omega]
      | succ count =>
          have split : InARow kind outcomes (count + 1 + 1) (call + 1) ↔
              InARow kind outcomes (count + 1) call ∧ Raises kind (outcomes (call + 1)) := by
            constructor
            · rintro ⟨few, raises⟩
              refine ⟨⟨by omega, fun earlier early late =>
                raises earlier (by omega) (by omega)⟩, ?_⟩
              exact raises (call + 1) le_rfl (by omega)
            · rintro ⟨⟨few, raises⟩, last⟩
              refine ⟨by omega, fun earlier early late => ?_⟩
              obtain rfl | before := Nat.eq_or_lt_of_le early
              · exact last
              · exact raises earlier (by omega) (by omega)
          rw [split, induction]
          split_ifs with raised
          · simp [raised]
          · simp [raised]

/-! ## Where the calls end -/

/-- The counters tell how many errors of their kind came in a row. -/
structure Counts (outcomes : ℕ → Outcome ρ ε) (call : ℕ) (state : Retries ρ ε) : Prop where
  calls : state.calls = call
  waits : state.waits.length = call
  client : state.clientAttempt = streak ErrorKind.isClient outcomes call + 1
  server : state.serverAttempt = streak ErrorKind.isServer outcomes call + 1

theorem counts_start : Counts outcomes 0 {} := ⟨rfl, rfl, rfl, rfl⟩

theorem stopsAt_iff {call : ℕ} : StopsAt outcomes call ↔
    (Raises ErrorKind.isClient (outcomes call) →
      clientLimit ≤ streak ErrorKind.isClient outcomes call) ∧
    (Raises ErrorKind.isServer (outcomes call) →
      serverLimit ≤ streak ErrorKind.isServer outcomes call) := by
  have one : Raises ErrorKind.isClient (outcomes call) →
      ¬ Raises ErrorKind.isServer (outcomes call) := by
    intro client server
    cases found : outcomes call with
    | ok result => rw [found] at client; exact client
    | error ex =>
        rw [found] at client server
        have isServer : ex.kind = .serverError := by simpa [Raises, ErrorKind.isServer] using server
        simp [Raises, isServer, ErrorKind.isClient] at client
  rw [StopsAt, inARow_succ_iff, inARow_succ_iff]
  tauto

theorem raises_iff {call : ℕ} :
    Raises kind (outcomes call) ↔ ∃ ex, outcomes call = .error ex ∧ kind ex.kind = true := by
  cases found : outcomes call with
  | ok result => simp [Raises]
  | error ex => simp [Raises]

theorem not_isClient_of_isServer {outcome : Outcome ρ ε}
    (server : Raises ErrorKind.isServer outcome) :
    ¬ Raises ErrorKind.isClient outcome := by
  cases outcome with
  | ok result => exact server.elim
  | error ex =>
      have isServer : ex.kind = .serverError := of_decide_eq_true server
      simp [Raises, isServer, ErrorKind.isClient]

theorem catchException_client (client : Raises ErrorKind.isClient (outcomes state.calls)) :
    ∃ wait, catchException outcomes state =
      if state.clientAttempt ≤ clientLimit then
        (state.retry wait (state.clientAttempt + 1) 1, true)
      else (state.leave (outcomes state.calls), false) := by
  obtain ⟨ex, raised, isClient⟩ := raises_iff.mp client
  refine ⟨getRetryTimeout ex state.clientAttempt true, ?_⟩
  rw [catchException, raised]
  exact if_pos isClient

theorem catchException_server (server : Raises ErrorKind.isServer (outcomes state.calls)) :
    ∃ wait, catchException outcomes state =
      if state.serverAttempt ≤ serverLimit then
        (state.retry wait 1 (state.serverAttempt + 1), true)
      else (state.leave (outcomes state.calls), false) := by
  have notClient := not_isClient_of_isServer server
  obtain ⟨ex, raised, isServer⟩ := raises_iff.mp server
  refine ⟨getRetryTimeout ex state.serverAttempt false, ?_⟩
  rw [raised] at notClient
  have isServer : ex.kind = .serverError := of_decide_eq_true isServer
  have skipped : ¬ (ex.kind.isClient = true) := notClient
  rw [catchException, raised]
  dsimp only
  rw [if_neg skipped, isServer]

theorem catchException_leave (throttled : ¬ Raises ErrorKind.isThrottled (outcomes state.calls))
    (client : ¬ Raises ErrorKind.isClient (outcomes state.calls))
    (server : ¬ Raises ErrorKind.isServer (outcomes state.calls)) :
    catchException outcomes state = (state.leave (outcomes state.calls), false) := by
  rw [catchException]
  cases found : outcomes state.calls with
  | ok result => rfl
  | error ex =>
      rw [found] at throttled client server
      have skipped : ¬ (ex.kind.isClient = true) := client
      dsimp only
      rw [if_neg skipped]
      cases isKind : ex.kind with
      | throttledError timeout => simp [Raises, isKind, ErrorKind.isThrottled] at throttled
      | serverError => simp [Raises, isKind, ErrorKind.isServer] at server
      | _ => rfl

/-- A call that stops leaves with its outcome. -/
theorem catchException_stop (free : ThrottleFree outcomes) {call : ℕ}
    (counts : Counts outcomes call state) (stops : StopsAt outcomes call) :
    catchException outcomes state = (state.leave (outcomes call), false) := by
  obtain ⟨manyClient, manyServer⟩ := stopsAt_iff.mp stops
  rw [← counts.calls] at manyClient manyServer ⊢
  by_cases client : Raises ErrorKind.isClient (outcomes state.calls)
  · obtain ⟨wait, step⟩ := catchException_client client
    have many := manyClient client
    rw [step, if_neg (by rw [counts.client, ← counts.calls]; omega)]
  · by_cases server : Raises ErrorKind.isServer (outcomes state.calls)
    · obtain ⟨wait, step⟩ := catchException_server server
      have many := manyServer server
      rw [step, if_neg (by rw [counts.server, ← counts.calls]; omega)]
    · exact catchException_leave (free state.calls) client server

/-- Another call is counted with its kind, and the other kind starts again. -/
theorem catchException_retry {call : ℕ} (counts : Counts outcomes call state)
    (goes : ¬ StopsAt outcomes call) :
    (catchException outcomes state).2 = true ∧
      Counts outcomes (call + 1) (catchException outcomes state).1 := by
  obtain ⟨sameCall, waits, clientCount, serverCount⟩ := counts
  subst sameCall
  by_cases client : Raises ErrorKind.isClient (outcomes state.calls)
  · have notServer : ¬ Raises ErrorKind.isServer (outcomes state.calls) :=
      fun server => not_isClient_of_isServer server client
    have few : state.clientAttempt ≤ clientLimit := by
      by_contra many
      refine goes (stopsAt_iff.mpr ⟨fun _ => ?_, fun server => absurd server notServer⟩)
      omega
    obtain ⟨wait, step⟩ := catchException_client client
    rw [step, if_pos few]
    refine ⟨rfl, rfl, ?_, ?_, ?_⟩
    · simp [Retries.retry, waits]
    · simp [Retries.retry, streak, client, clientCount]
    · simp [Retries.retry, streak, notServer]
  · by_cases server : Raises ErrorKind.isServer (outcomes state.calls)
    · have few : state.serverAttempt ≤ serverLimit := by
        by_contra many
        refine goes (stopsAt_iff.mpr ⟨fun isClient => absurd isClient client, fun _ => ?_⟩)
        omega
      obtain ⟨wait, step⟩ := catchException_server server
      rw [step, if_pos few]
      refine ⟨rfl, rfl, ?_, ?_, ?_⟩
      · simp [Retries.retry, waits]
      · simp [Retries.retry, streak, client]
      · simp [Retries.retry, streak, server, serverCount]
    · exact absurd (Or.inl ⟨client, server⟩) goes

/-- The calls only come as far as none before stops, and the counters are right there. -/
theorem stateAt_counts (free : ThrottleFree outcomes) {call : ℕ} :
    stateAt (catchException outcomes) call {} = some state →
      (∀ earlier < call, ¬ StopsAt outcomes earlier) ∧ Counts outcomes call state := by
  induction call generalizing state with
  | zero =>
      intro reached
      obtain rfl : {} = state := Option.some_inj.mp reached
      exact ⟨fun earlier less => absurd less (Nat.not_lt_zero earlier), counts_start⟩
  | succ call induction =>
      intro reached
      obtain ⟨before, came, step⟩ := stateAt_succ_iff.mp reached
      obtain ⟨goes, counts⟩ := induction came
      have going : ¬ StopsAt outcomes call := by
        intro stops
        rw [catchException_stop free counts stops] at step
        simp at step
      have next := (catchException_retry counts going).2
      rw [step] at next
      refine ⟨fun earlier less => ?_, next⟩
      obtain same | less := Nat.lt_succ_iff_lt_or_eq.mp less |>.symm
      · exact same ▸ going
      · exact goes earlier less

/-- The calls come as far as none before stops. -/
theorem exists_stateAt {call : ℕ} (goes : ∀ earlier < call, ¬ StopsAt outcomes earlier) :
    ∃ state, stateAt (catchException outcomes) call {} = some state ∧
      Counts outcomes call state := by
  induction call with
  | zero => exact ⟨{}, rfl, counts_start⟩
  | succ call induction =>
      obtain ⟨before, came, counts⟩ :=
        induction fun earlier less => goes earlier (Nat.lt_succ_of_lt less)
      obtain ⟨again, next⟩ := catchException_retry counts (goes call (Nat.lt_succ_self call))
      exact ⟨_, stateAt_succ_iff.mpr ⟨before, came, Prod.ext rfl again⟩, next⟩

/-- A result stops the calls. -/
theorem stopsAt_of_ok {call : ℕ} {result : ρ} (returned : outcomes call = .ok result) :
    StopsAt outcomes call := by
  refine Or.inl ⟨?_, ?_⟩ <;> simp [Raises, returned]

/-- Calls that end have come to one that stops. -/
theorem exists_stopsAt (free : ThrottleFree outcomes) {bound : ℕ}
    (ends : EndsWithin bound outcomes) : ∃ call < bound, StopsAt outcomes call := by
  obtain ⟨final, run, -⟩ := ends
  obtain ⟨call, less, before, reached, last, -⟩ := runLoop_eq_some_iff.mp run
  refine ⟨call, less, ?_⟩
  by_contra going
  have again := (catchException_retry (stateAt_counts free reached).2 going).1
  rw [last] at again
  exact Bool.false_ne_true again

/-- The first call that stops ends the calls. -/
theorem endsWithin_of_stopsAt (free : ThrottleFree outcomes) {bound : ℕ}
    (stops : ∃ call < bound, StopsAt outcomes call) : EndsWithin bound outcomes := by
  classical
  obtain ⟨less, stop⟩ := Nat.find_spec stops
  have goes : ∀ earlier < Nat.find stops, ¬ StopsAt outcomes earlier := by
    intro earlier before stop
    exact Nat.find_min stops before ⟨before.trans less, stop⟩
  obtain ⟨before, reached, counts⟩ := exists_stateAt goes
  have step := catchException_stop free counts stop
  refine ⟨before.leave (outcomes (Nat.find stops)), ?_, Nat.find stops, less, ?_, rfl, ?_⟩
  · exact runLoop_eq_some_iff.mpr ⟨_, less, before, reached, by rw [step], by rw [step]⟩
  · exact congrArg (· + 1) counts.calls
  · intro call early result returned
    exact goes call early (stopsAt_of_ok returned)

/-- The calls end within the bound, with the first result or the last error, exactly when in that
many calls there is a result, an error that is not retried, or too many client errors or too many
server errors in a row. -/
theorem retries_bounded_iff (bound : ℕ) (outcomes : ℕ → Outcome ρ ε)
    (free : ThrottleFree outcomes) :
    EndsWithin bound outcomes ↔ ∃ call < bound, StopsAt outcomes call :=
  ⟨exists_stopsAt free, endsWithin_of_stopsAt free⟩

/-- Calls that keep raising one error. -/
def always (kind : ErrorKind) (_ : ℕ) : Outcome Unit Unit :=
  .error { kind, retryAfter := none, args := () }

/-- A server that stays down is called six times. -/
theorem server_down_bounded : EndsWithin 6 (always .serverError) := by
  refine (retries_bounded_iff 6 (always .serverError) fun _ => Bool.false_ne_true).mpr
    ⟨5, by decide, ?_⟩
  exact Or.inr (Or.inr ⟨by decide, fun _ _ _ => rfl⟩)

/-- A server that is down for every other call and refuses the calls between. -/
def alternating (call : ℕ) : Outcome Unit Unit :=
  always (if call % 2 = 0 then .serverError else .tooManyRequestsError) call

theorem alternating_isServer_iff (call : ℕ) :
    Raises ErrorKind.isServer (alternating call) ↔ call % 2 = 0 := by
  rw [alternating]
  split_ifs with even
  · exact iff_of_true rfl even
  · exact iff_of_false Bool.false_ne_true even

theorem alternating_isClient_iff (call : ℕ) :
    Raises ErrorKind.isClient (alternating call) ↔ call % 2 ≠ 0 := by
  rw [alternating]
  split_ifs with even
  · exact iff_of_false Bool.false_ne_true (not_not_intro even)
  · exact iff_of_true rfl even

theorem alternating_goes (call : ℕ) : ¬ StopsAt alternating call := by
  rintro (⟨notClient, notServer⟩ | ⟨few, raises⟩ | ⟨few, raises⟩)
  · rw [alternating_isClient_iff, not_not] at notClient
    exact notServer ((alternating_isServer_iff call).mpr notClient)
  · rw [clientLimit] at few raises
    have last := (alternating_isClient_iff call).mp (raises call le_rfl (by omega))
    have before := (alternating_isClient_iff (call - 1)).mp (raises _ (by omega) (by omega))
    omega
  · rw [serverLimit] at few raises
    have last := (alternating_isServer_iff call).mp (raises call le_rfl (by omega))
    have before := (alternating_isServer_iff (call - 1)).mp (raises _ (by omega) (by omega))
    omega

/-- Errors of the server and of the client that take turns keep the calls going forever. -/
theorem alternating_errors_unbounded :
    ThrottleFree alternating ∧ ∀ bound, ¬ EndsWithin bound alternating := by
  have free : ThrottleFree alternating := by
    intro call
    rw [alternating]
    split_ifs <;> exact Bool.false_ne_true
  refine ⟨free, fun bound ends => ?_⟩
  obtain ⟨call, -, stops⟩ := exists_stopsAt free ends
  exact alternating_goes call stops

end OdooConnector.Api
