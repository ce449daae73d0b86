import OdooConnector.Library.Loop
import Mathlib.Data.List.Basic
import Mathlib.Data.String.Basic

/-!
# Pages behind cursors

A connection answers a request for the nodes behind a cursor with a page and with the cursor of its
last node. A loop that goes on behind the last cursor as long as there is a next page collects all
nodes, wherever it keeps the cursor.
-/

namespace OdooConnector

structure PageInfo where
  endCursor : Option String
  hasNextPage : Bool
  deriving DecidableEq

namespace PageInfo

/-- The cursor of the next request, where there is a next page. -/
def cursor (info : PageInfo) : Option String :=
  if info.hasNextPage then info.endCursor.filter fun cursor => cursor ≠ "" else none

end PageInfo

structure NodePage (α : Type) where
  nodes : List α
  info : PageInfo

/-- A list of nodes with a cursor for each position. -/
structure Connection (α : Type) where
  nodes : List α
  cursorOf : ℕ → String
  positionOf : String → ℕ
  positionOf_cursorOf : ∀ idx, positionOf (cursorOf idx) = idx
  cursorOf_ne : ∀ idx, cursorOf idx ≠ ""

namespace Connection

variable {α : Type} (server : Connection α)

/-- Where a page behind a cursor starts. -/
def start : Option String → ℕ
  | none => 0
  | some cursor => server.positionOf cursor + 1

/-- The first nodes behind a cursor. -/
def respond (first : ℕ) (after : Option String) : NodePage α :=
  let taken := (server.nodes.drop (server.start after)).take first
  let stop := server.start after + taken.length
  { nodes := taken
    info :=
      { endCursor := if taken.isEmpty then none else some (server.cursorOf (stop - 1))
        hasNextPage := stop < server.nodes.length } }

variable {server} {first : ℕ} {after : Option String}

theorem respond_nodes :
    (server.respond first after).nodes = (server.nodes.drop (server.start after)).take first := rfl

/-- The last page has no cursor. -/
theorem cursor_last (few : server.nodes.length ≤ server.start after + first) :
    (server.respond first after).info.cursor = none := by
  have stop : ¬ server.start after + ((server.nodes.drop (server.start after)).take first).length <
      server.nodes.length := by
    rw [List.length_take, List.length_drop]
    omega
  rw [PageInfo.cursor, if_neg]
  simpa [respond] using stop

/-- The cursor of any other page leads to the nodes behind it. -/
theorem cursor_next (positive : 0 < first)
    (more : server.start after + first < server.nodes.length) :
    ∃ cursor, (server.respond first after).info.cursor = some cursor ∧
      server.start (some cursor) = server.start after + first := by
  have length : ((server.nodes.drop (server.start after)).take first).length = first := by
    rw [List.length_take, List.length_drop]
    omega
  have nonempty : ((server.nodes.drop (server.start after)).take first).isEmpty = false := by
    rw [← Bool.not_eq_true, List.isEmpty_iff, ← List.length_eq_zero_iff, length]
    exact positive.ne'
  refine ⟨server.cursorOf (server.start after + first - 1), ?_, ?_⟩
  · simp [respond, PageInfo.cursor, length, nonempty, more, server.cursorOf_ne]
  · rw [start, server.positionOf_cursorOf]
    omega

/-- A page is a part of what is behind its cursor, and the rest is behind the next one. -/
theorem drop_start (first : ℕ) (after : Option String) :
    server.nodes.drop (server.start after) =
      (server.respond first after).nodes ++ server.nodes.drop (server.start after + first) := by
  rw [respond_nodes, ← List.drop_drop, List.take_append_drop]

/-- A first page without a cursor has all nodes. -/
theorem first_eq (positive : 0 < first) (only : (server.respond first none).info.cursor = none) :
    (server.respond first none).nodes = server.nodes := by
  have few : server.nodes.length ≤ server.start none + first := by
    by_contra more
    obtain ⟨cursor, next, -⟩ := cursor_next positive (Nat.lt_of_not_le more)
    rw [next] at only
    contradiction
  rw [start, Nat.zero_add] at few
  exact List.take_of_length_le few

/-- A first page and what is behind its cursor are all nodes. -/
theorem first_append (positive : 0 < first) {cursor : String}
    (next : (server.respond first none).info.cursor = some cursor) :
    (server.respond first none).nodes ++ server.nodes.drop (server.start (some cursor)) =
      server.nodes := by
  have more : server.start none + first < server.nodes.length := by
    by_contra few
    rw [cursor_last (Nat.le_of_not_lt few)] at next
    contradiction
  obtain ⟨other, also, behind⟩ := cursor_next positive more
  rw [next, Option.some_inj] at also
  rw [also, behind, ← drop_start]
  rfl

end Connection

section Fetch

variable {α κ : Type} (read : κ → Option String) (save : κ → PageInfo → κ)
  (server : Connection α) (first : ℕ)

/-- One request behind the cursor of a context; the loop goes on while there is a cursor. -/
def fetchPage (state : κ × List α) : (κ × List α) × Bool :=
  let page := server.respond first (read state.1)
  let context := save state.1 page.info
  ((context, state.2 ++ page.nodes), (read context).isSome)

variable {read save server first}

/-- All nodes behind the cursor are collected. -/
theorem fetchPage_terminates (positive : 0 < first)
    (kept : ∀ context info, read (save context info) = info.cursor) (context : κ) (got : List α) :
    Terminates (fetchPage read save server first) (context, got) fun final =>
      final.2 = got ++ server.nodes.drop (server.start (read context)) ∧ read final.1 = none := by
  refine terminates_of_measure
    (fun state : κ × List α => state.2 ++ server.nodes.drop (server.start (read state.1)) =
      got ++ server.nodes.drop (server.start (read context)))
    (fun state => server.nodes.length - server.start (read state.1)) ?_ ?_ rfl
  · intro state holds again
    rw [fetchPage, kept, Option.isSome_iff_ne_none] at again
    have more : server.start (read state.1) + first < server.nodes.length :=
      Nat.lt_of_not_le fun few => again (Connection.cursor_last few)
    obtain ⟨cursor, next, start⟩ := Connection.cursor_next positive more
    simp only [fetchPage, kept, next, start]
    refine ⟨?_, by omega⟩
    rw [List.append_assoc, ← Connection.drop_start]
    exact holds
  · intro state holds last
    rw [fetchPage, kept, Option.isSome_eq_false_iff, Option.isNone_iff_eq_none] at last
    have few : server.nodes.length ≤ server.start (read state.1) + first := by
      by_contra more
      obtain ⟨cursor, next, -⟩ := Connection.cursor_next positive (Nat.lt_of_not_le more)
      rw [next] at last
      contradiction
    refine ⟨?_, (kept _ _).trans last⟩
    rw [← holds, Connection.drop_start first, List.drop_eq_nil_of_le few, List.append_nil]
    rfl

end Fetch

end OdooConnector
