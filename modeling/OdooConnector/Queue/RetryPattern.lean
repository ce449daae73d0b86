import Mathlib.Algebra.Order.Ring.Unbundled.Rat
import Mathlib.Tactic.NormNum
import OdooConnector.Library.SortedGroups
import OdooConnector.Library.Dict
import OdooConnector.Queue.FailedJob

/-!
# Retry patterns

A job that can be retried is postponed by the delay that its pattern has for the greatest number of
retries reached.
-/

namespace OdooConnector.Queue

/-- Seconds, or a range from which they are drawn. -/
inductive RetryDelay where
  | fixed (seconds : ℤ)
  | between (low high : ℤ)
deriving DecidableEq

abbrev RetryPattern := Dict ℤ RetryDelay

/-- `RETRY_INTERVAL` -/
def retryInterval : RetryDelay := .fixed (10 * 60)

/-- The count and the delay of an entry, whose key is the text of a number. -/
def parseRetryEntry (entry : String × RetryDelay) : Option (ℤ × RetryDelay) :=
  (int entry.1.toList).map fun count => (count, entry.2)

/-- `_parse_retry_pattern`. With a key that is no number the pattern is empty. -/
def parseRetryPattern (stored : List (String × RetryDelay)) : RetryPattern :=
  if stored.all fun entry => (parseRetryEntry entry).isSome then
    Dict.writeAll Prod.fst (fun entry => some entry.2) ∅ (stored.filterMap parseRetryEntry)
  else ∅

/-- The delay of the last count that is reached; the loop stops at the first that is not. -/
def reachedDelay (retry : ℤ) : RetryDelay → List (ℤ × RetryDelay) → RetryDelay
  | delay, [] => delay
  | delay, entry :: entries =>
      if retry ≥ entry.1 then reachedDelay retry entry.2 entries else delay

def RetryDelay.draw (randint : ℤ → ℤ → ℤ) : RetryDelay → ℚ
  | fixed seconds => seconds
  | between low high => randint low high

/-- `_get_retry_seconds`. Seconds that the error asks for go first, unless they are zero. -/
def getRetrySeconds (randint : ℤ → ℤ → ℤ) (pattern : RetryPattern) (retry : ℤ)
    (seconds : Option ℚ) : ℚ :=
  match seconds.filter fun seconds => seconds ≠ 0 with
  | some seconds => seconds
  | none =>
      if pattern.entries = [] then retryInterval.draw randint
      else (reachedDelay retry retryInterval (sortedBy Prod.fst pattern.entries)).draw randint

/-! ### The delay of a retry -/

theorem reachedDelay_of_lt {retry : ℤ} {delay : RetryDelay} {entries : List (ℤ × RetryDelay)}
    (later : ∀ entry ∈ entries, retry < entry.1) : reachedDelay retry delay entries = delay := by
  cases entries with
  | nil => rfl
  | cons entry entries =>
      have notReached := not_le.mpr (later entry List.mem_cons_self)
      rw [reachedDelay, if_neg notReached]

/-- Of counts that go up, the greatest one that is reached decides. -/
theorem reachedDelay_eq {retry : ℤ} {delay : RetryDelay} {entries : List (ℤ × RetryDelay)}
    (sorted : entries.Pairwise fun left right => left.1 < right.1) {entry : ℤ × RetryDelay}
    (member : entry ∈ entries) (reached : entry.1 ≤ retry)
    (greatest : ∀ other ∈ entries, other.1 ≤ retry → other.1 ≤ entry.1) :
    reachedDelay retry delay entries = entry.2 := by
  induction entries generalizing delay with
  | nil => exact absurd member List.not_mem_nil
  | cons first entries induction =>
      obtain ⟨above, sorted⟩ := List.pairwise_cons.mp sorted
      rcases List.mem_cons.mp member with rfl | later
      · rw [reachedDelay, if_pos reached]
        refine reachedDelay_of_lt fun other listed => ?_
        by_contra notLater
        have atMost := greatest other (List.mem_cons_of_mem _ listed) (not_lt.mp notLater)
        exact absurd (above other listed) (not_lt.mpr atMost)
      · rw [reachedDelay, if_pos (((above entry later).trans_le reached).le)]
        exact induction sorted later fun other listed =>
          greatest other (List.mem_cons_of_mem _ listed)

theorem pairwise_sortedBy_entries (pattern : RetryPattern) :
    (sortedBy Prod.fst pattern.entries).Pairwise fun left right => left.1 < right.1 := by
  have distinct : (sortedBy Prod.fst pattern.entries).Pairwise
      fun left right => left.1 ≠ right.1 := by
    have nodup : ((sortedBy Prod.fst pattern.entries).map Prod.fst).Nodup :=
      ((sortedBy_perm Prod.fst _).map Prod.fst).nodup_iff.mpr pattern.keys_nodup
    exact List.pairwise_map.mp nodup
  exact ((pairwise_sortedBy Prod.fst _).and distinct).imp fun both => lt_of_le_of_ne both.1 both.2

section

variable {stored : List (String × RetryDelay)}
  (numbers : ∀ entry ∈ stored, (parseRetryEntry entry).isSome)

include numbers

theorem parseRetryPattern_eq : parseRetryPattern stored =
    Dict.writeAll Prod.fst (fun entry => some entry.2) ∅ (stored.filterMap parseRetryEntry) :=
  if_pos (List.all_eq_true.mpr numbers)

/-- A count of the pattern is that of an entry which was stored. -/
theorem exists_stored_of_mem {entry : ℤ × RetryDelay}
    (member : entry ∈ (parseRetryPattern stored).entries) :
    ∃ source ∈ stored, parseRetryEntry source = some entry := by
  have found := (Dict.get?_eq_some_iff _ entry.1 entry.2).mpr member
  rw [parseRetryPattern_eq numbers, Dict.get?_writeAll, Dict.get?_empty, Option.or_none,
    Dict.lastValue_eq_some_iff] at found
  obtain ⟨front, parsed, back, split, count, delay, -⟩ := found
  have listed : parsed ∈ stored.filterMap parseRetryEntry := by
    rw [split]
    exact List.mem_append_right _ List.mem_cons_self
  obtain rfl : parsed = entry := Prod.ext count (Option.some.inj delay)
  obtain ⟨source, member, same⟩ := List.mem_filterMap.mp listed
  exact ⟨source, member, same⟩

/-- Of the entries for one count the last one is in the pattern. -/
theorem mem_entries_of_last {front back : List (String × RetryDelay)}
    {source : String × RetryDelay} {entry : ℤ × RetryDelay}
    (split : stored = front ++ source :: back)
    (parsed : parseRetryEntry source = some entry)
    (last : ∀ other ∈ back, ∀ later, parseRetryEntry other = some later → later.1 ≠ entry.1) :
    entry ∈ (parseRetryPattern stored).entries := by
  rw [← Dict.get?_eq_some_iff, parseRetryPattern_eq numbers, Dict.get?_writeAll, Dict.get?_empty,
    Option.or_none, Dict.lastValue_eq_some_iff]
  refine ⟨front.filterMap parseRetryEntry, entry, back.filterMap parseRetryEntry, ?_, rfl, rfl, ?_⟩
  · rw [split, List.filterMap_append, List.filterMap_cons_some parsed]
  · intro later listed same
    obtain ⟨other, member, found⟩ := List.mem_filterMap.mp listed
    exact absurd same (last other member later found)

end

/-- Without seconds of its own a job is postponed by the delay of the greatest number of retries
reached, of which the pattern's last entry counts, and by ten minutes before the first. -/
theorem getRetrySeconds_of_pattern (randint : ℤ → ℤ → ℤ) (stored : List (String × RetryDelay))
    (numbers : ∀ entry ∈ stored, (parseRetryEntry entry).isSome) (retry : ℤ) :
    (∀ front source back entry, stored = front ++ source :: back →
      parseRetryEntry source = some entry → entry.1 ≤ retry →
      (∀ other ∈ stored, ∀ later, parseRetryEntry other = some later → later.1 ≤ retry →
        later.1 ≤ entry.1) →
      (∀ other ∈ back, ∀ later, parseRetryEntry other = some later → later.1 ≠ entry.1) →
      getRetrySeconds randint (parseRetryPattern stored) retry none = entry.2.draw randint) ∧
    ((∀ other ∈ stored, ∀ later, parseRetryEntry other = some later → retry < later.1) →
      getRetrySeconds randint (parseRetryPattern stored) retry none = 600) := by
  have sorted := pairwise_sortedBy_entries (parseRetryPattern stored)
  have member (entry : ℤ × RetryDelay) :
      entry ∈ sortedBy Prod.fst (parseRetryPattern stored).entries ↔
        entry ∈ (parseRetryPattern stored).entries := (sortedBy_perm Prod.fst _).mem_iff
  constructor
  · intro front source back entry split parsed reached greatest last
    have listed := mem_entries_of_last numbers split parsed last
    have delay : reachedDelay retry retryInterval
        (sortedBy Prod.fst (parseRetryPattern stored).entries) = entry.2 := by
      refine reachedDelay_eq sorted ((member entry).mpr listed) reached ?_
      intro other otherListed otherReached
      obtain ⟨origin, originMember, same⟩ :=
        exists_stored_of_mem numbers ((member other).mp otherListed)
      exact greatest origin originMember other same otherReached
    have nonempty : (parseRetryPattern stored).entries ≠ [] := List.ne_nil_of_mem listed
    simp only [getRetrySeconds, Option.filter_none, if_neg nonempty, delay]
  · intro above
    have delay : reachedDelay retry retryInterval
        (sortedBy Prod.fst (parseRetryPattern stored).entries) = retryInterval := by
      refine reachedDelay_of_lt fun other listed => ?_
      obtain ⟨origin, originMember, same⟩ := exists_stored_of_mem numbers ((member other).mp listed)
      exact above origin originMember other same
    simp only [getRetrySeconds, Option.filter_none, delay, ite_self]
    norm_num [retryInterval, RetryDelay.draw]

def slowingPattern : List (String × RetryDelay) :=
  [("1", .fixed 60), ("3", .fixed 10), ("2", .between 60 180), ("3", .fixed 300)]

theorem getRetrySeconds_of_slowingPattern :
    getRetrySeconds (fun low _ => low) (parseRetryPattern slowingPattern) 4 none = 300 ∧
      getRetrySeconds (fun low _ => low) (parseRetryPattern slowingPattern) 0 none = 600 := by
  have numbers : ∀ entry ∈ slowingPattern, (parseRetryEntry entry).isSome := by decide
  constructor
  · have atFour := (getRetrySeconds_of_pattern (fun low _ => low) slowingPattern numbers 4).1
      [("1", .fixed 60), ("3", .fixed 10), ("2", .between 60 180)] ("3", .fixed 300) []
      (3, .fixed 300) rfl (by decide) (by decide) (by decide) (by decide)
    simpa [RetryDelay.draw] using atFour
  · exact (getRetrySeconds_of_pattern (fun low _ => low) slowingPattern numbers 0).2 (by decide)

end OdooConnector.Queue
