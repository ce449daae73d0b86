import Mathlib.Data.List.Basic
import Mathlib.Data.String.Basic

/-!
# Splitting, stripping and casing texts

Splitting a joined list of texts gives the list back as long as no text contains the separator.
Letter case follows tables that are known for ASCII only.
-/

namespace OdooConnector

/-- White space, as `str.isspace` has it. -/
def isSpace (char : Char) : Bool :=
  let code := char.toNat
  (9 ≤ code && code ≤ 13) || (0x1c ≤ code && code ≤ 0x20) || code == 0x85 || code == 0xa0 ||
    code == 0x1680 || (0x2000 ≤ code && code ≤ 0x200a) || code == 0x2028 || code == 0x2029 ||
    code == 0x202f || code == 0x205f || code == 0x3000

/-- Remove white space at both ends. -/
def strip (text : String) : String :=
  String.ofList ((text.toList.dropWhile isSpace).reverse.dropWhile isSpace).reverse

/-- Cut a text at every separator. -/
def split (separator : Char) (text : String) : List String :=
  (text.toList.splitOn separator).map String.ofList

theorem not_mem_of_mem_splitOn {α : Type*} [DecidableEq α] (separator : α) (list : List α) :
    ∀ part ∈ list.splitOn separator, separator ∉ part := by
  induction list with
  | nil => simp
  | cons head tail induction =>
      rw [List.splitOn_cons_eq_if_modifyHead]
      split
      · intro part member
        cases List.mem_cons.mp member with
        | inl same => simp [same]
        | inr later => exact induction part later
      · rename_i other
        cases parts : tail.splitOn separator with
        | nil => simp
        | cons first rest =>
            rw [parts] at induction
            intro part member
            rw [List.modifyHead_cons] at member
            cases List.mem_cons.mp member with
            | inl same =>
                rw [same, List.mem_cons, not_or]
                exact ⟨fun equal => other (beq_iff_eq.mpr equal.symm),
                  induction first List.mem_cons_self⟩
            | inr later => exact induction part (List.mem_cons_of_mem _ later)

theorem not_mem_of_mem_split {separator : Char} {text name : String}
    (member : name ∈ split separator text) : separator ∉ name.toList := by
  obtain ⟨part, listed, rfl⟩ := List.mem_map.mp member
  rw [String.toList_ofList]
  exact not_mem_of_mem_splitOn separator text.toList part listed

/-- Splitting undoes joining. -/
theorem split_intercalate {separator : Char} {names : List String}
    (free : ∀ name ∈ names, separator ∉ name.toList) (nonempty : names ≠ []) :
    split separator ((String.singleton separator).intercalate names) = names := by
  rw [split, String.toList_intercalate, String.toList_singleton, List.splitOn_intercalate]
  · simp
  · intro part member
    obtain ⟨name, listed, rfl⟩ := List.mem_map.mp member
    exact free name listed
  · simpa using nonempty

/-- Joining undoes splitting. -/
theorem intercalate_split (separator : Char) (text : String) :
    (String.singleton separator).intercalate (split separator text) = text := by
  refine String.toList_injective ?_
  rw [split, String.toList_intercalate, String.toList_singleton, List.map_map]
  have parts : String.toList ∘ String.ofList = id := funext fun _ => String.toList_ofList
  rw [parts, List.map_id, List.intercalate_splitOn]

/-- A text that is joined of two is split like each of them. -/
theorem split_append (separator : Char) (first second : String) :
    split separator (first ++ String.singleton separator ++ second) =
      split separator first ++ split separator second := by
  rw [split, String.toList_append, String.toList_append, String.toList_singleton,
    List.append_assoc, List.singleton_append, List.splitOn_append_cons_self, List.map_append]
  rfl

/-! ## Letter case -/

/-- What a character becomes, which may be several; what surrounds it may decide, as for a final
sigma. -/
structure CaseTable where
  cased : Char → Bool
  title : Char → List Char
  /-- Lower case of a character, with the text before it, backwards, and the text behind it. -/
  lower : List Char → Char → List Char → List Char
  cased_ascii : ∀ char, char.toNat < 128 → cased char = char.isAlpha
  title_ascii : ∀ char, char.toNat < 128 → title char = [char.toUpper]
  lower_ascii : ∀ before char behind, char.toNat < 128 → lower before char behind = [char.toLower]

namespace CaseTable

/-- Characters beyond ASCII stay as they are. -/
def ascii : CaseTable where
  cased := Char.isAlpha
  title char := [char.toUpper]
  lower _ char _ := [char.toLower]
  cased_ascii _ _ := rfl
  title_ascii _ _ := rfl
  lower_ascii _ _ _ _ := rfl

variable (table : CaseTable)

def lowerFrom (before : List Char) : List Char → List Char
  | [] => []
  | char :: text => table.lower before char text ++ lowerFrom (char :: before) text

/-- A character behind a cased one becomes lower case, any other one title case. -/
def titleFrom (before : List Char) (previousIsCased : Bool) : List Char → List Char
  | [] => []
  | char :: text =>
      (if previousIsCased then table.lower before char text else table.title char) ++
        titleFrom (char :: before) (table.cased char) text

/-- `str.lower` -/
def strLower (text : String) : String := String.ofList (table.lowerFrom [] text.toList)

/-- `str.title` -/
def strTitle (text : String) : String := String.ofList (table.titleFrom [] false text.toList)

example : ascii.strTitle "uPS ground-2day" = "Ups Ground-2Day" := by decide +kernel

end CaseTable

end OdooConnector
