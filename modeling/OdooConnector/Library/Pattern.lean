import Mathlib.Data.List.Basic

/-!
# Patterns

A pattern is a sequence of texts, of groups of alternatives and of groups that take any characters
of a line. The search takes the earliest place that fits, and there the first alternative and the
longest run of each group in turn.
-/

namespace OdooConnector

inductive PatternPart
  | exactly (expected : List Char)
  /-- `(a|b)` -/
  | oneOf (options : List (List Char))
  /-- `(.*)` -/
  | anything

namespace PatternPart

variable {β : Type*}

/-- As many characters of the line as possible, then fewer, until the rest fits. -/
def greedy (attempt : List Char → Option β) : List Char → Option (List Char × β)
  | [] => (attempt []).map fun result => ([], result)
  | char :: text =>
      (if char = '\n' then none
        else (greedy attempt text).map fun found => (char :: found.1, found.2)).or
        ((attempt (char :: text)).map fun result => ([], result))

/-- The groups of a match at the start of a text. -/
def matchAt : List PatternPart → List Char → Option (List (List Char))
  | [], _ => some []
  | .exactly expected :: parts, text =>
      if expected <+: text then matchAt parts (text.drop expected.length) else none
  | .oneOf options :: parts, text =>
      options.findSome? fun option =>
        if option <+: text then
          (matchAt parts (text.drop option.length)).map fun groups => option :: groups
        else none
  | .anything :: parts, text =>
      (greedy (matchAt parts) text).map fun found => found.1 :: found.2

/-- `re.search` -/
def search (parts : List PatternPart) : List Char → Option (List (List Char))
  | [] => matchAt parts []
  | char :: text => (matchAt parts (char :: text)).or (search parts text)

/-- The start of a text fits a pattern with these groups. -/
def Fits : List PatternPart → List Char → List (List Char) → Prop
  | [], _, groups => groups = []
  | .exactly expected :: parts, text, groups =>
      ∃ rest, text = expected ++ rest ∧ Fits parts rest groups
  | .oneOf options :: parts, text, groups =>
      ∃ option rest others, option ∈ options ∧ text = option ++ rest ∧ groups = option :: others ∧
        Fits parts rest others
  | .anything :: parts, text, groups =>
      ∃ taken rest others, '\n' ∉ taken ∧ text = taken ++ rest ∧ groups = taken :: others ∧
        Fits parts rest others

/-- The first groups in which two fits differ are an earlier alternative, or a longer run. -/
def Prefers : List PatternPart → List (List Char) → List (List Char) → Prop
  | .exactly _ :: parts, groups, others => Prefers parts groups others
  | .oneOf options :: parts, group :: groups, other :: others =>
      options.idxOf group < options.idxOf other ∨ group = other ∧ Prefers parts groups others
  | .anything :: parts, group :: groups, other :: others =>
      other.length < group.length ∨ group = other ∧ Prefers parts groups others
  | _, _, _ => True

/-- The groups of the preferred fit. -/
structure Best (parts : List PatternPart) (text : List Char) (groups : List (List Char)) :
    Prop where
  fits : Fits parts text groups
  prefers : ∀ others, Fits parts text others → Prefers parts groups others

/-- The groups of the preferred fit at the earliest place of a text that fits. -/
structure Found (parts : List PatternPart) (text : List Char) (groups : List (List Char)) :
    Prop where
  place : ∃ before rest, text = before ++ rest ∧ Best parts rest groups ∧
    ∀ earlier later, text = earlier ++ later → earlier.length < before.length →
      ∀ others, ¬ Fits parts later others

variable {parts : List PatternPart} {text : List Char} {groups others : List (List Char)}

/-- Two groups of which each is preferred to the other are the same, and so are those after. -/
theorem eq_of_both {first second : ℕ} {group other : List Char} {Front Back : Prop}
    (ranks : group = other → first = second)
    (front : first < second ∨ group = other ∧ Front)
    (back : second < first ∨ other = group ∧ Back) : group = other ∧ Front ∧ Back := by
  cases front with
  | inl less =>
      cases back with
      | inl more => exact absurd less (Nat.lt_asymm more)
      | inr equal => exact absurd (ranks equal.1.symm) (Nat.ne_of_lt less)
  | inr same =>
      cases back with
      | inl more => exact absurd (ranks same.1) (Nat.ne_of_gt more)
      | inr equal => exact ⟨same.1, same.2, equal.2⟩

theorem eq_of_prefers (fits : Fits parts text groups) (other : Fits parts text others)
    (prefers : Prefers parts groups others) (back : Prefers parts others groups) :
    groups = others := by
  induction parts generalizing text groups others with
  | nil => exact Eq.trans fits other.symm
  | cons part parts induction =>
      cases part with
      | exactly expected =>
          obtain ⟨rest, rfl, fits⟩ := fits
          obtain ⟨rest', same, other⟩ := other
          cases List.append_cancel_left same
          exact induction fits other prefers back
      | oneOf options =>
          obtain ⟨option, rest, groups, -, rfl, rfl, fits⟩ := fits
          obtain ⟨option', rest', others, -, same, rfl, other⟩ := other
          rw [Prefers] at prefers back
          obtain ⟨rfl, prefers, back⟩ := eq_of_both (fun same => by rw [same]) prefers back
          cases List.append_cancel_left same
          rw [induction fits other prefers back]
      | anything =>
          obtain ⟨taken, rest, groups, -, rfl, rfl, fits⟩ := fits
          obtain ⟨taken', rest', others, -, same, rfl, other⟩ := other
          rw [Prefers] at prefers back
          obtain ⟨rfl, prefers, back⟩ := eq_of_both
            (fun same => (congrArg List.length same).symm) prefers back
          cases List.append_cancel_left same
          rw [induction fits other prefers back]

theorem Best.unique (best : Best parts text groups) (other : Best parts text others) :
    groups = others :=
  eq_of_prefers best.fits other.fits (best.prefers others other.fits)
    (other.prefers groups best.fits)

section Greedy

variable {attempt : List Char → Option β} {taken rest : List Char} {result : β}

/-- A run that is not empty takes the first character, and the others of a shorter run. -/
theorem exists_shorter {char : Char} {longer : List Char} (free : '\n' ∉ longer)
    (same : char :: text = longer ++ rest) (longer_lt : taken.length < longer.length) :
    char ≠ '\n' ∧ ∃ shorter, longer.length = shorter.length + 1 ∧ '\n' ∉ shorter ∧
      text = shorter ++ rest := by
  cases longer with
  | nil => simp at longer_lt
  | cons first shorter =>
      rw [List.cons_append] at same
      cases same
      rw [List.mem_cons, not_or] at free
      exact ⟨Ne.symm free.1, shorter, rfl, free.2, rfl⟩

theorem greedy_eq_none_iff : greedy attempt text = none ↔
    ∀ taken rest, '\n' ∉ taken → text = taken ++ rest → attempt rest = none := by
  induction text with
  | nil =>
      rw [greedy, Option.map_eq_none_iff]
      constructor
      · intro fails taken rest _ same
        rw [(List.append_eq_nil_iff.mp same.symm).2, fails]
      · intro fails
        exact fails [] [] (by simp) rfl
  | cons char text induction =>
      rw [greedy, Option.or_eq_none_iff, Option.map_eq_none_iff]
      constructor
      · intro ⟨later, here⟩ taken rest free same
        cases taken with
        | nil => rw [← same.trans (List.nil_append rest), here]
        | cons first taken =>
            rw [List.cons_append] at same
            cases same
            have line : ¬ char = '\n' := fun equal => free (by simp [equal])
            rw [if_neg line, Option.map_eq_none_iff] at later
            exact induction.mp later taken rest (fun member => free (List.mem_cons_of_mem _ member))
              rfl
      · intro fails
        refine ⟨?_, fails [] _ (by simp) rfl⟩
        split
        · rfl
        · rename_i line
          rw [Option.map_eq_none_iff]
          refine induction.mpr fun taken rest free same => ?_
          refine fails (char :: taken) rest ?_ (by rw [same, List.cons_append])
          simp [free, Ne.symm line]

/-- The run that is taken fits, and no longer one does. -/
theorem greedy_eq_some (found : greedy attempt text = some (taken, result)) :
    '\n' ∉ taken ∧ (∃ rest, text = taken ++ rest ∧ attempt rest = some result) ∧
      ∀ longer rest, '\n' ∉ longer → text = longer ++ rest → taken.length < longer.length →
        attempt rest = none := by
  induction text generalizing taken with
  | nil =>
      rw [greedy] at found
      obtain ⟨result', fits, same⟩ := Option.map_eq_some_iff.mp found
      cases same
      refine ⟨by simp, ⟨[], rfl, fits⟩, fun longer rest _ same longer_lt => ?_⟩
      simp [(List.append_eq_nil_iff.mp same.symm).1] at longer_lt
  | cons char text induction =>
      rw [greedy] at found
      by_cases line : char = '\n'
      · rw [if_pos line, Option.none_or] at found
        obtain ⟨result', fits, same⟩ := Option.map_eq_some_iff.mp found
        cases same
        refine ⟨by simp, ⟨_, rfl, fits⟩, fun longer rest free same longer_lt => ?_⟩
        exact absurd line (exists_shorter free same longer_lt).1
      · rw [if_neg line] at found
        cases later : greedy attempt text with
        | none =>
            rw [later, Option.map_none, Option.none_or] at found
            obtain ⟨result', fits, same⟩ := Option.map_eq_some_iff.mp found
            cases same
            refine ⟨by simp, ⟨_, rfl, fits⟩, fun longer rest free same longer_lt => ?_⟩
            obtain ⟨-, shorter, -, free, same⟩ := exists_shorter free same longer_lt
            exact greedy_eq_none_iff.mp later shorter rest free same
        | some found' =>
            rw [later, Option.map_some, Option.some_or] at found
            cases found
            obtain ⟨free, ⟨rest, same, fits⟩, longest⟩ := induction later
            refine ⟨by simp [free, Ne.symm line], ⟨rest, by rw [same, List.cons_append], fits⟩,
              fun longer rest free same longer_lt => ?_⟩
            obtain ⟨-, shorter, length, free, same⟩ := exists_shorter free same longer_lt
            refine longest shorter rest free same ?_
            rw [List.length_cons] at longer_lt
            omega

end Greedy

theorem matchAt_eq_none_iff : matchAt parts text = none ↔ ∀ groups, ¬ Fits parts text groups := by
  induction parts generalizing text with
  | nil => simp [matchAt, Fits]
  | cons part parts induction =>
      cases part with
      | exactly expected =>
          rw [matchAt]
          split
          · rename_i front
            obtain ⟨rest, rfl⟩ := front
            rw [List.drop_left, induction]
            constructor
            · intro none groups ⟨rest', same, fits⟩
              cases List.append_cancel_left same
              exact none groups fits
            · intro none groups fits
              exact none groups ⟨rest, rfl, fits⟩
          · rename_i other
            refine iff_of_true rfl fun groups fits => ?_
            obtain ⟨rest, rfl, -⟩ := fits
            exact other (List.prefix_append _ _)
      | oneOf options =>
          rw [matchAt, List.findSome?_eq_none_iff]
          constructor
          · intro none groups fits
            obtain ⟨option, rest, others, member, rfl, rfl, fits⟩ := fits
            have here := none option member
            rw [if_pos (List.prefix_append _ _), List.drop_left, Option.map_eq_none_iff,
              induction] at here
            exact here others fits
          · intro none option member
            split
            · rename_i front
              obtain ⟨rest, rfl⟩ := front
              rw [List.drop_left, Option.map_eq_none_iff, induction]
              intro groups fits
              exact none (option :: groups) ⟨option, rest, groups, member, rfl, rfl, fits⟩
            · rfl
      | anything =>
          rw [matchAt, Option.map_eq_none_iff, greedy_eq_none_iff]
          constructor
          · intro none groups fits
            obtain ⟨taken, rest, others, free, rfl, rfl, fits⟩ := fits
            exact induction.mp (none taken rest free rfl) others fits
          · intro none taken rest free same
            refine induction.mpr fun groups fits => ?_
            exact none (taken :: groups) ⟨taken, rest, groups, free, same, rfl, fits⟩

theorem best_of_matchAt (found : matchAt parts text = some groups) : Best parts text groups := by
  induction parts generalizing text groups with
  | nil =>
      cases found
      exact ⟨rfl, fun _ _ => trivial⟩
  | cons part parts induction =>
      cases part with
      | exactly expected =>
          rw [matchAt] at found
          split at found
          · rename_i front
            obtain ⟨rest, rfl⟩ := front
            rw [List.drop_left] at found
            obtain ⟨fits, prefers⟩ := induction found
            refine ⟨⟨rest, rfl, fits⟩, fun others other => ?_⟩
            obtain ⟨rest', same, other⟩ := other
            cases List.append_cancel_left same
            exact prefers others other
          · cases found
      | oneOf options =>
          rw [matchAt] at found
          obtain ⟨early, option, late, rfl, here, none⟩ := List.findSome?_eq_some_iff.mp found
          obtain ⟨rest, rfl⟩ : option <+: text := by
            by_contra other
            rw [if_neg other] at here
            cases here
          have first : option ∉ early := by
            intro member
            rw [none option member] at here
            cases here
          rw [if_pos (List.prefix_append _ _), List.drop_left] at here
          obtain ⟨groups, fits, rfl⟩ := Option.map_eq_some_iff.mp here
          obtain ⟨fits, prefers⟩ := induction fits
          refine ⟨⟨option, rest, groups, by simp, rfl, rfl, fits⟩, fun others other => ?_⟩
          obtain ⟨option', rest', others, -, same, rfl, other⟩ := other
          by_cases equal : option = option'
          · subst equal
            cases List.append_cancel_left same
            exact Or.inr ⟨rfl, prefers others other⟩
          · have late' : option' ∉ early := by
              intro member
              have fails := none option' member
              rw [if_pos (same ▸ List.prefix_append _ _), same, List.drop_left,
                Option.map_eq_none_iff, matchAt_eq_none_iff] at fails
              exact fails others other
            refine Or.inl ?_
            rw [List.idxOf_append_of_notMem first, List.idxOf_append_of_notMem late',
              List.idxOf_cons_self, List.idxOf_cons_ne _ equal]
            omega
      | anything =>
          rw [matchAt] at found
          obtain ⟨⟨taken, groups⟩, run, rfl⟩ := Option.map_eq_some_iff.mp found
          obtain ⟨free, ⟨rest, rfl, fits⟩, longest⟩ := greedy_eq_some run
          obtain ⟨fits, prefers⟩ := induction fits
          refine ⟨⟨taken, rest, groups, free, rfl, rfl, fits⟩, fun others other => ?_⟩
          obtain ⟨taken', rest', others, free', same, rfl, other⟩ := other
          have bound : taken'.length ≤ taken.length := by
            by_contra longer
            have fails := longest taken' rest' free' same (Nat.lt_of_not_le longer)
            exact matchAt_eq_none_iff.mp fails others other
          cases Nat.lt_or_eq_of_le bound with
          | inl shorter => exact Or.inl shorter
          | inr equal =>
              obtain ⟨rfl, rfl⟩ := List.append_inj same equal.symm
              exact Or.inr ⟨rfl, prefers others other⟩

/-- The matcher finds the preferred fit. -/
theorem matchAt_eq_some_iff : matchAt parts text = some groups ↔ Best parts text groups := by
  refine ⟨best_of_matchAt, fun best => ?_⟩
  cases found : matchAt parts text with
  | none => exact absurd best.fits (matchAt_eq_none_iff.mp found groups)
  | some others => rw [(best_of_matchAt found).unique best]

/-- The search finds the preferred fit at the earliest place. -/
theorem search_eq_some_iff : search parts text = some groups ↔ Found parts text groups := by
  induction text with
  | nil =>
      rw [search, matchAt_eq_some_iff]
      constructor
      · intro best
        exact ⟨[], [], rfl, best, fun _ _ _ less => absurd less (Nat.not_lt_zero _)⟩
      · intro ⟨before, rest, same, best, _⟩
        rwa [(List.append_eq_nil_iff.mp same.symm).2] at best
  | cons char text induction =>
      rw [search]
      cases here : matchAt parts (char :: text) with
      | some others =>
          rw [Option.some_or, Option.some_inj]
          have best := best_of_matchAt here
          constructor
          · intro equal
            exact ⟨[], _, rfl, equal ▸ best, fun _ _ _ less => absurd less (Nat.not_lt_zero _)⟩
          · intro ⟨before, rest, same, other, earliest⟩
            cases before with
            | nil => exact best.unique ((List.nil_append rest ▸ same) ▸ other)
            | cons first before =>
                exact absurd best.fits (earliest [] _ rfl (Nat.zero_lt_succ _) others)
      | none =>
          rw [Option.none_or, induction]
          have fails := matchAt_eq_none_iff.mp here
          constructor
          · intro ⟨before, rest, same, best, earliest⟩
            refine ⟨char :: before, rest, by rw [same, List.cons_append], best, ?_⟩
            intro earlier later same' less
            cases earlier with
            | nil => exact (List.nil_append later ▸ same') ▸ fails
            | cons first earlier =>
                rw [List.cons_append] at same'
                cases same'
                exact earliest earlier later rfl (Nat.lt_of_succ_lt_succ less)
          · intro ⟨before, rest, same, best, earliest⟩
            cases before with
            | nil => exact absurd best.fits ((List.nil_append rest ▸ same) ▸ fails groups)
            | cons first before =>
                rw [List.cons_append] at same
                cases same
                refine ⟨before, rest, rfl, best, fun earlier later same' less => ?_⟩
                exact earliest (char :: earlier) later (by rw [same', List.cons_append])
                  (Nat.succ_lt_succ less)

end PatternPart

end OdooConnector
