import Mathlib.Data.List.Infix
import OdooConnector.Library.Joining

/-!
# SQL patterns and paths

A pattern with wildcards at both ends is matched by the texts that contain what stands between them.
Words that each end with a separator contain other such words where one word ends with the first of
them and the next words follow.
-/

namespace OdooConnector

/-- `text LIKE pattern`: a percent sign stands for any text and an underscore for any character, and
a backslash takes the character behind it as it is. -/
def like : List Char → List Char → Bool
  | [], text => text.isEmpty
  | '%' :: pattern, text => text.tails.any fun rest => like pattern rest
  | '_' :: pattern, _ :: text => like pattern text
  | '\\' :: char :: pattern, head :: text => char = head && like pattern text
  | char :: pattern, head :: text => char = head && like pattern text
  | _ :: _, [] => false

/-- A character that stands for itself. -/
def IsLiteral (char : Char) : Prop := char ≠ '%' ∧ char ≠ '_' ∧ char ≠ '\\'

theorem like_percent (pattern text : List Char) :
    like ('%' :: pattern) text ↔ ∃ rest, rest <:+ text ∧ like pattern rest := by
  rw [like, List.any_eq_true]
  simp only [List.mem_tails]

theorem like_literal {literal : List Char} (plain : ∀ char ∈ literal, IsLiteral char)
    (pattern text : List Char) :
    like (literal ++ pattern) text ↔ ∃ rest, text = literal ++ rest ∧ like pattern rest := by
  induction literal generalizing text with
  | nil => simp
  | cons char literal induction =>
      obtain ⟨percent, underscore, backslash⟩ := plain char List.mem_cons_self
      have rest := induction fun other member => plain other (List.mem_cons_of_mem char member)
      cases text with
      | nil => simp [like]
      | cons head text =>
          have step : like (char :: (literal ++ pattern)) (head :: text) =
              (char = head && like (literal ++ pattern) text) := by
            rw [like.eq_def]
            split <;> simp_all
          rw [List.cons_append, step]
          simp only [Bool.and_eq_true, decide_eq_true_eq, rest, List.cons_append, List.cons.injEq]
          constructor
          · rintro ⟨rfl, tail, rfl, matched⟩
            exact ⟨tail, ⟨rfl, rfl⟩, matched⟩
          · rintro ⟨tail, ⟨rfl, rfl⟩, matched⟩
            exact ⟨rfl, tail, rfl, matched⟩

theorem like_percent_of_like {pattern : List Char} (empty : like pattern []) (text : List Char) :
    like ('%' :: pattern) text :=
  (like_percent pattern text).mpr ⟨[], List.nil_suffix, empty⟩

/-- A literal with wildcards around it is contained in the text. -/
theorem like_contains_iff {literal : List Char} (plain : ∀ char ∈ literal, IsLiteral char)
    (text : List Char) : like ('%' :: (literal ++ ['%', '%'])) text ↔ literal <:+: text := by
  have any (rest : List Char) : like ['%', '%'] rest :=
    like_percent_of_like (like_percent_of_like rfl []) rest
  rw [like_percent, List.infix_iff_prefix_suffix]
  constructor
  · intro ⟨rest, suffix, matched⟩
    obtain ⟨tail, same, _⟩ := (like_literal plain _ _).mp matched
    exact ⟨rest, ⟨tail, same.symm⟩, suffix⟩
  · intro ⟨rest, ⟨tail, same⟩, suffix⟩
    exact ⟨rest, suffix, (like_literal plain _ _).mpr ⟨tail, same.symm, any tail⟩⟩

/-! ## Words that end with a separator -/

section

variable {α : Type*} {separator : α}

/-- The words, each with the separator behind it. -/
def terminated (separator : α) (words : List (List α)) : List α :=
  words.flatMap fun word => word ++ [separator]

theorem terminated_cons (word : List α) (words : List (List α)) :
    terminated separator (word :: words) = word ++ separator :: terminated separator words := by
  simp [terminated]

theorem terminated_append (first second : List (List α)) :
    terminated separator (first ++ second) =
      terminated separator first ++ terminated separator second := by
  simp [terminated]

/-- Words without the separator that stand before it are the same. -/
theorem append_separator_inj {word other rest tail : List α} (free : separator ∉ word)
    (otherFree : separator ∉ other)
    (same : word ++ separator :: rest = other ++ separator :: tail) :
    word = other ∧ rest = tail := by
  rcases append_cons_eq_iff.mp same with equal | ⟨middle, ⟨longer, _⟩ | ⟨longer, _⟩⟩
  · exact equal
  · exact absurd (by simp [longer]) otherFree
  · exact absurd (by simp [longer]) free

theorem terminated_prefix_iff {words others : List (List α)}
    (free : ∀ word ∈ words, separator ∉ word) (otherFree : ∀ word ∈ others, separator ∉ word) :
    terminated separator words <+: terminated separator others ↔ words <+: others := by
  constructor
  · intro ⟨rest, same⟩
    induction words generalizing others with
    | nil => exact List.nil_prefix
    | cons word words induction =>
        cases others with
        | nil => simp [terminated] at same
        | cons other others =>
            rw [terminated_cons, terminated_cons, List.append_assoc, List.cons_append] at same
            obtain ⟨rfl, tails⟩ := append_separator_inj (free word List.mem_cons_self)
              (otherFree other List.mem_cons_self) same
            have shorter := induction (fun word member => free word (List.mem_cons_of_mem _ member))
              (fun word member => otherFree word (List.mem_cons_of_mem _ member)) tails
            exact List.cons_prefix_cons.mpr ⟨rfl, shorter⟩
  · intro ⟨rest, same⟩
    rw [← same, terminated_append]
    exact List.prefix_append _ _

/-- A suffix of a word with more behind it begins in the word or behind it. -/
theorem suffix_append_cons {word rest text : List α}
    (suffix : text <:+ word ++ separator :: rest) :
    (∃ part, part <:+ word ∧ text = part ++ separator :: rest) ∨ text <:+ rest := by
  induction word with
  | nil =>
      rw [List.nil_append, List.suffix_cons_iff] at suffix
      rcases suffix with same | later
      · exact .inl ⟨[], List.nil_suffix, same⟩
      · exact .inr later
  | cons head word induction =>
      rw [List.cons_append, List.suffix_cons_iff] at suffix
      rcases suffix with same | later
      · exact .inl ⟨head :: word, List.suffix_refl _, same⟩
      · rcases induction later with ⟨part, within, same⟩ | behind
        · exact .inl ⟨part, within.trans (List.suffix_cons head word), same⟩
        · exact .inr behind

/-- Words stand in others where one of them ends with the first word and the next ones follow. -/
theorem terminated_infix_iff {first : List α} {words others : List (List α)}
    (free : ∀ word ∈ first :: words, separator ∉ word)
    (otherFree : ∀ word ∈ others, separator ∉ word) :
    terminated separator (first :: words) <:+: terminated separator others ↔
      ∃ front word back, others = front ++ word :: (words ++ back) ∧ first <:+ word := by
  constructor
  · intro within
    induction others with
    | nil =>
        rw [terminated_cons] at within
        have empty := List.infix_nil.mp within
        simp at empty
    | cons other others induction =>
        have tailFree : ∀ word ∈ others, separator ∉ word := fun word member =>
          otherFree word (List.mem_cons_of_mem _ member)
        rw [List.infix_iff_prefix_suffix] at within
        obtain ⟨text, ⟨rest, same⟩, suffix⟩ := within
        rw [terminated_cons] at suffix
        rcases suffix_append_cons suffix with ⟨part, ends, equal⟩ | behind
        · -- The match begins in the first of the other words.
          rw [terminated_cons, List.append_assoc, List.cons_append, equal] at same
          have partFree : separator ∉ part := fun member =>
            otherFree other List.mem_cons_self (ends.mem member)
          obtain ⟨rfl, tails⟩ := append_separator_inj (free first List.mem_cons_self) partFree same
          have prefixed : terminated separator words <+: terminated separator others :=
            ⟨rest, tails⟩
          obtain ⟨back, follow⟩ := (terminated_prefix_iff
            (fun word member => free word (List.mem_cons_of_mem _ member)) tailFree).mp prefixed
          exact ⟨[], other, back, by rw [← follow]; rfl, ends⟩
        · have within := List.infix_iff_prefix_suffix.mpr ⟨text, ⟨rest, same⟩, behind⟩
          obtain ⟨front, word, back, found, ends⟩ := induction tailFree within
          exact ⟨other :: front, word, back, by rw [found, List.cons_append], ends⟩
  · intro ⟨front, word, back, same, ends⟩
    obtain ⟨start, whole⟩ := ends
    refine ⟨terminated separator front ++ start, terminated separator back, ?_⟩
    rw [same, ← whole, terminated_append, terminated_cons, terminated_cons, terminated_append]
    simp

end

end OdooConnector
