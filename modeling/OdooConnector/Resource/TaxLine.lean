import OdooConnector.Library.Scan
import Mathlib.Data.List.TakeWhile

/-!
# Tax codes

The code of a tax is its title, its rate and whether prices include it, in one text. Rate and mode
are read back as the last matches of two patterns: they stand at the end, behind spaces that no
match crosses, so that nothing in the title can take their place.
-/

namespace OdooConnector.Resource

/-- A tax line with its rate as Python renders it. -/
structure TaxLine where
  title : String
  ratePercentage : String
  deriving DecidableEq


def TaxLine.toOdooFormat (line : TaxLine) (taxesIncluded : Bool) : String :=
  let taxOption := if taxesIncluded then "included" else "excluded"
  line.title ++ " " ++ line.ratePercentage ++ "% [" ++ taxOption ++ "]"

/-- `-?\d+\.?\d*` at the start of a text. -/
def rateAt (classes : CharClasses) (text : List Char) : Option (List Char × String) :=
  let sign := leading '-' text
  let whole := (text.drop sign.length).takeWhile classes.digit
  let behind := text.drop (sign ++ whole).length
  let point := leading '.' behind
  let fraction := (behind.drop point.length).takeWhile classes.digit
  let taken := sign ++ whole ++ point ++ fraction
  if whole = [] then none else some (taken, String.ofList taken)

/-- `\[(\w+)\]` at the start of a text, with its group. -/
def optionAt (classes : CharClasses) (text : List Char) : Option (List Char × String) :=
  match text with
  | '[' :: inner =>
      let word := inner.takeWhile classes.word
      if word ≠ [] ∧ (inner.drop word.length).head? = some ']' then
        some ('[' :: word ++ [']'], String.ofList word)
      else none
  | _ => none

structure ParsedTax where
  id : String
  name : String
  rate : String
  priceInclude : Bool
  deriving DecidableEq

inductive TaxParseError
  | indexError
  | keyError (key : String)
  deriving DecidableEq

/-- `{'excluded': False, 'included': True}[tax_option]` -/
def priceIncludeOf : String → Except TaxParseError Bool
  | "excluded" => .ok false
  | "included" => .ok true
  | other => .error (.keyError other)

def parseFormattedTax (classes : CharClasses) (name : String) : Except TaxParseError ParsedTax :=
  match (findAll (rateAt classes) 0 name.toList).getLast? with
  | none => .error .indexError
  | some taxRate =>
      match (findAll (optionAt classes) 0 name.toList).getLast? with
      | none => .error .indexError
      | some taxOption => do
          let priceInclude ← priceIncludeOf taxOption
          return { id := name, name, rate := taxRate, priceInclude }

/-- A rendering with digits, an optional sign before and an optional fraction behind them. -/
def IsDecimal (rate : String) : Prop :=
  ∃ sign whole fraction : List Char, rate.toList = sign ++ whole ++ fraction ∧
    (sign = [] ∨ sign = ['-']) ∧ whole ≠ [] ∧ (∀ digit ∈ whole, digit.isDigit = true) ∧
    (fraction = [] ∨ ∃ digits : List Char, fraction = '.' :: digits ∧
      ∀ digit ∈ digits, digit.isDigit = true)

/-! ## The matches of the two patterns -/

variable {classes : CharClasses}

theorem rateAt_takesPrefix : TakesPrefix (rateAt classes) := by
  intro text taken value matched
  simp only [rateAt] at matched
  split_ifs at matched
  obtain ⟨rfl, -⟩ := Prod.mk.inj (Option.some_inj.mp matched)
  rw [List.append_assoc]
  have front := prefix_append_drop (leading_isPrefixOf '-' text)
    (List.takeWhile_prefix classes.digit)
  exact prefix_append_drop front
    (prefix_append_drop (leading_isPrefixOf '.' _) (List.takeWhile_prefix classes.digit))

theorem rateAt_avoids {separator : Char} (minus : separator ≠ '-') (point : separator ≠ '.')
    (digit : classes.digit separator = false) : Avoids (rateAt classes) separator := by
  intro text taken value matched member
  simp only [rateAt] at matched
  split_ifs at matched
  obtain ⟨rfl, -⟩ := Prod.mk.inj (Option.some_inj.mp matched)
  simp only [List.mem_append] at member
  obtain ((sign | whole) | dot) | fraction := member
  · exact minus (eq_of_mem_leading sign)
  · rw [List.mem_takeWhile_imp whole] at digit
    contradiction
  · exact point (eq_of_mem_leading dot)
  · rw [List.mem_takeWhile_imp fraction] at digit
    contradiction

theorem optionAt_eq_some {text taken : List Char} {value : String}
    (matched : optionAt classes text = some (taken, value)) :
    ∃ word rest, text = '[' :: (word ++ ']' :: rest) ∧ taken = '[' :: word ++ [']'] ∧
      ∀ char ∈ word, classes.word char = true := by
  cases text with
  | nil => contradiction
  | cons first inner =>
      by_cases bracket : first = '['
      · subst bracket
        simp only [optionAt] at matched
        split_ifs at matched with closed
        obtain ⟨rfl, -⟩ := Prod.mk.inj (Option.some_inj.mp matched)
        obtain ⟨rest, behind⟩ := List.head?_eq_some_iff.mp closed.2
        refine ⟨inner.takeWhile classes.word, rest, ?_, rfl, fun char => List.mem_takeWhile_imp⟩
        rw [← behind, List.prefix_iff_eq_append.mp (List.takeWhile_prefix classes.word)]
      · rw [optionAt] at matched
        · contradiction
        · intro rest same
          exact bracket (List.cons.inj same).1

theorem optionAt_takesPrefix : TakesPrefix (optionAt classes) := by
  intro text taken value matched
  obtain ⟨word, rest, rfl, rfl, -⟩ := optionAt_eq_some matched
  exact ⟨rest, by simp⟩

theorem optionAt_avoids {separator : Char} (front : separator ≠ '[') (back : separator ≠ ']')
    (word : classes.word separator = false) : Avoids (optionAt classes) separator := by
  intro text taken value matched member
  obtain ⟨chars, rest, rfl, rfl, all⟩ := optionAt_eq_some matched
  simp only [List.cons_append, List.mem_cons, List.mem_append, List.not_mem_nil, or_false] at member
  obtain same | listed | same := member
  · exact front same
  · rw [all separator listed] at word
    contradiction
  · exact back same

theorem toNat_lt_of_isDigit {char : Char} (digit : char.isDigit = true) : char.toNat < 128 := by
  simp only [Char.isDigit, Bool.and_eq_true, decide_eq_true_eq] at digit
  have upper : char.val ≤ 57 := digit.2
  have : char.toNat ≤ 57 := upper
  omega

theorem digit_of_isDigit {char : Char} (digit : char.isDigit = true) :
    classes.digit char = true := by
  rw [classes.digit_ascii char (toNat_lt_of_isDigit digit), digit]

theorem ne_of_isDigit {char other : Char} (digit : char.isDigit = true)
    (notDigit : other.isDigit = false) : char ≠ other := by
  rintro rfl
  rw [digit] at notDigit
  contradiction

theorem leading_of_ne {expected first : Char} (ne : first ≠ expected) (text : List Char) :
    leading expected (first :: text) = [] := by
  rw [leading, List.head?_cons, if_neg]
  simpa using ne

/-- The sign of a decimal is what leads it. -/
theorem leading_sign {sign whole : List Char} (signs : sign = [] ∨ sign = ['-'])
    (nonempty : whole ≠ []) (digits : ∀ digit ∈ whole, digit.isDigit = true) (rest : List Char) :
    leading '-' (sign ++ (whole ++ rest)) = sign := by
  obtain rfl | rfl := signs
  · obtain ⟨first, others, rfl⟩ := List.exists_cons_of_ne_nil nonempty
    exact leading_of_ne (ne_of_isDigit (digits first List.mem_cons_self) rfl) _
  · rfl

/-- The fraction of a decimal is its point and the digits up to the percent sign. -/
theorem point_fraction {fraction : List Char}
    (fractions : fraction = [] ∨ ∃ digits : List Char, fraction = '.' :: digits ∧
      ∀ digit ∈ digits, digit.isDigit = true) (rest : List Char) :
    leading '.' (fraction ++ '%' :: rest) ++
      ((fraction ++ '%' :: rest).drop (leading '.' (fraction ++ '%' :: rest)).length).takeWhile
        classes.digit = fraction := by
  have percent : classes.digit '%' = false := classes.digit_ascii '%' (by decide)
  obtain rfl | ⟨digits, rfl, all⟩ := fractions
  · have stopped : ([] ++ '%' :: rest).takeWhile classes.digit = [] :=
      takeWhile_stop (by simp) (by simpa using percent)
    rw [List.nil_append, leading_of_ne (by decide)]
    exact stopped
  · have point : leading '.' ('.' :: digits ++ '%' :: rest) = ['.'] := rfl
    rw [point]
    refine congrArg (List.cons '.') (takeWhile_stop (fun digit member => ?_) ?_)
    · exact digit_of_isDigit (all digit member)
    · simpa using percent

/-- A decimal is matched up to the percent sign. -/
theorem rateAt_decimal {rate : String} (decimal : IsDecimal rate) (rest : List Char) :
    rateAt classes (rate.toList ++ '%' :: rest) = some (rate.toList, rate) := by
  obtain ⟨sign, whole, fraction, same, signs, nonempty, digits, fractions⟩ := decimal
  have stops : ∀ char ∈ (fraction ++ '%' :: rest).head?, classes.digit char = false := by
    obtain rfl | ⟨others, rfl, -⟩ := fractions
    · simpa using classes.digit_ascii '%' (by decide)
    · simpa using classes.digit_ascii '.' (by decide)
  have text : rate.toList ++ '%' :: rest = sign ++ (whole ++ (fraction ++ '%' :: rest)) := by
    simp [same]
  have wholeTaken : (whole ++ (fraction ++ '%' :: rest)).takeWhile classes.digit = whole :=
    takeWhile_stop (fun digit member => digit_of_isDigit (digits digit member)) stops
  have behind : (sign ++ (whole ++ (fraction ++ '%' :: rest))).drop (sign ++ whole).length =
      fraction ++ '%' :: rest := by
    rw [← List.append_assoc, List.drop_left]
  rw [rateAt, text, leading_sign signs nonempty digits, List.drop_left]
  rw [wholeTaken, behind, if_neg nonempty, List.append_assoc, point_fraction fractions, ← same,
    String.ofList_toList]

/-- Without digits and minus signs there is no rate. -/
theorem rateAt_eq_none {first : Char} {text : List Char} (minus : first ≠ '-')
    (digit : classes.digit first = false) : rateAt classes (first :: text) = none := by
  rw [rateAt, leading_of_ne minus]
  simp [digit]

theorem findAll_rate_eq_nil {text : List Char}
    (free : ∀ char ∈ text, char ≠ '-' ∧ char.toNat < 128 ∧ char.isDigit = false) :
    findAll (rateAt classes) 0 text = [] := by
  refine findAll_eq_nil fun first rest suffix => ?_
  obtain ⟨minus, ascii, digit⟩ := free first (suffix.subset List.mem_cons_self)
  exact rateAt_eq_none minus ((classes.digit_ascii first ascii).trans digit)

/-- A word in brackets is matched. -/
theorem optionAt_word {word : String} (nonempty : word.toList ≠ [])
    (all : ∀ char ∈ word.toList, classes.word char = true) :
    optionAt classes ('[' :: (word.toList ++ [']'])) =
      some ('[' :: word.toList ++ [']'], word) := by
  have stops : ∀ char ∈ [']'].head?, classes.word char = false := by
    simpa using classes.word_ascii ']' (by decide)
  have taken : (word.toList ++ [']']).takeWhile classes.word = word.toList :=
    takeWhile_stop all stops
  rw [optionAt, taken, List.drop_left, if_pos ⟨nonempty, rfl⟩, String.ofList_toList]

/-! ## Decoding -/

def optionName (taxesIncluded : Bool) : String := if taxesIncluded then "included" else "excluded"

theorem word_optionName (taxesIncluded : Bool) :
    ∀ char ∈ (optionName taxesIncluded).toList, classes.word char = true := by
  have ascii : ∀ char ∈ (optionName taxesIncluded).toList,
      char.toNat < 128 ∧ (char.isAlphanum || char = '_') = true := by
    cases taxesIncluded <;> simp [optionName]
  intro char member
  rw [classes.word_ascii char (ascii char member).1]
  exact (ascii char member).2

theorem toList_toOdooFormat (line : TaxLine) (taxesIncluded : Bool) :
    (line.toOdooFormat taxesIncluded).toList =
      line.title.toList ++ ' ' :: (line.ratePercentage.toList ++ '%' ::
        ' ' :: '[' :: ((optionName taxesIncluded).toList ++ [']'])) := by
  simp [TaxLine.toOdooFormat, optionName]

/-- The last rate in a tax code is the rate of the line. -/
theorem last_rate {line : TaxLine} (decimal : IsDecimal line.ratePercentage)
    (taxesIncluded : Bool) :
    (findAll (rateAt classes) 0 (line.toOdooFormat taxesIncluded).toList).getLast? =
      some line.ratePercentage := by
  have space : classes.digit ' ' = false := classes.digit_ascii ' ' (by decide)
  obtain ⟨earlier, scanned⟩ := findAll_append rateAt_takesPrefix
    (rateAt_avoids (by decide) (by decide) space) line.title.toList
    (line.ratePercentage.toList ++ '%' ::
      ' ' :: '[' :: ((optionName taxesIncluded).toList ++ [']']))
  have nonempty : line.ratePercentage.toList ≠ [] := by
    obtain ⟨sign, whole, fraction, same, -, nonempty, -⟩ := decimal
    simp [same, nonempty]
  have tail : findAll (rateAt classes) 0
      ('%' :: ' ' :: '[' :: ((optionName taxesIncluded).toList ++ [']'])) = [] := by
    refine findAll_rate_eq_nil ?_
    cases taxesIncluded <;> simp [optionName]
  rw [toList_toOdooFormat, scanned, findAll_match nonempty (rateAt_decimal decimal _), tail,
    List.getLast?_concat]

/-- The last bracketed word in a tax code is its mode. -/
theorem last_option (line : TaxLine) (taxesIncluded : Bool) :
    (findAll (optionAt classes) 0 (line.toOdooFormat taxesIncluded).toList).getLast? =
      some (optionName taxesIncluded) := by
  have space : classes.word ' ' = false := classes.word_ascii ' ' (by decide)
  obtain ⟨earlier, scanned⟩ := findAll_append optionAt_takesPrefix
    (optionAt_avoids (by decide) (by decide) space)
    (line.title.toList ++ ' ' :: (line.ratePercentage.toList ++ ['%']))
    ('[' :: ((optionName taxesIncluded).toList ++ [']']))
  have text : (line.toOdooFormat taxesIncluded).toList =
      line.title.toList ++ ' ' :: (line.ratePercentage.toList ++ ['%']) ++
        ' ' :: '[' :: ((optionName taxesIncluded).toList ++ [']']) := by
    rw [toList_toOdooFormat]
    simp
  have nonempty : (optionName taxesIncluded).toList ≠ [] := by
    cases taxesIncluded <;> simp [optionName]
  have words : ∀ char ∈ (optionName taxesIncluded).toList, classes.word char = true :=
    word_optionName taxesIncluded
  have only : findAll (optionAt classes) 0 ('[' :: ((optionName taxesIncluded).toList ++ [']'])) =
      [optionName taxesIncluded] := by
    have matched := optionAt_word nonempty words
    rw [← List.append_nil ('[' :: ((optionName taxesIncluded).toList ++ [']']))] at matched ⊢
    exact findAll_match (List.cons_ne_nil _ _) matched
  rw [text, scanned, only, List.getLast?_concat]

theorem parseFormattedTax_toOdooFormat (classes : CharClasses) {line : TaxLine}
    (decimal : IsDecimal line.ratePercentage) (taxesIncluded : Bool) :
    parseFormattedTax classes (line.toOdooFormat taxesIncluded) =
      .ok { id := line.toOdooFormat taxesIncluded, name := line.toOdooFormat taxesIncluded,
            rate := line.ratePercentage, priceInclude := taxesIncluded } := by
  rw [parseFormattedTax, last_rate decimal, last_option]
  cases taxesIncluded <;> rfl

/-- A tax code decodes to its rate and its mode, whatever its title, and no other rate or mode has
the same code. -/
theorem tax_codes_decode (classes : CharClasses) (line : TaxLine)
    (decimal : IsDecimal line.ratePercentage) (taxesIncluded : Bool) :
    parseFormattedTax classes (line.toOdooFormat taxesIncluded) =
        .ok { id := line.toOdooFormat taxesIncluded, name := line.toOdooFormat taxesIncluded,
              rate := line.ratePercentage, priceInclude := taxesIncluded } ∧
      ∀ (other : TaxLine) (otherIncluded : Bool), IsDecimal other.ratePercentage →
        other.title = line.title →
        other.toOdooFormat otherIncluded = line.toOdooFormat taxesIncluded →
        other.ratePercentage = line.ratePercentage ∧ otherIncluded = taxesIncluded := by
  have decoded := parseFormattedTax_toOdooFormat classes decimal taxesIncluded
  refine ⟨decoded, fun other otherIncluded otherDecimal _ same => ?_⟩
  have otherDecoded := parseFormattedTax_toOdooFormat classes otherDecimal otherIncluded
  rw [same, decoded, Except.ok.injEq, ParsedTax.mk.injEq] at otherDecoded
  exact ⟨otherDecoded.2.2.1.symm, otherDecoded.2.2.2.symm⟩

/-- A title with a rate and a mode of its own. -/
theorem tricky_title_decodes :
    parseFormattedTax .ascii (TaxLine.toOdooFormat ⟨"7% [included] VAT-", "20.3"⟩ false) =
      .ok { id := "7% [included] VAT- 20.3% [excluded]",
            name := "7% [included] VAT- 20.3% [excluded]", rate := "20.3",
            priceInclude := false } :=
  (tax_codes_decode .ascii ⟨"7% [included] VAT-", "20.3"⟩
    ⟨[], ['2', '0'], ['.', '3'], by simp, Or.inl rfl, by simp, by simp,
      Or.inr ⟨['3'], rfl, by simp⟩⟩ false).1

end OdooConnector.Resource
