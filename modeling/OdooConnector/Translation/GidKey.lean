import Mathlib.Data.List.Count
import Mathlib.Data.List.Perm.Basic
import OdooConnector.Library.Dict
import OdooConnector.Library.Text

/-!
# Names of translation queries

Every resource and language of a query is named by an alias that is also read back for the language.
A language code with a region has a hyphen, which no name of the query language has.
-/

namespace OdooConnector
namespace Translation

/-- The global id of a resource of the store. -/
structure Gid where
  type : String
  id : String
  letters : ∀ char ∈ type.toList, char.isAlpha
  digits : ∀ char ∈ id.toList, char.isDigit
  typed : type ≠ ""

namespace Gid

/-- `gid://shopify/<type>/<id>` -/
def text (gid : Gid) : String :=
  (String.singleton '/').intercalate ["gid:", "", "shopify", gid.type, gid.id]

end Gid

/-- A language that a store may publish. -/
structure Locale where
  language : String
  region : Option String
  letters : ∀ char ∈ language.toList, char.isAlpha
  alphanumeric : ∀ code ∈ region, ∀ char ∈ code.toList, char.isAlphanum
  nonempty : language ≠ ""

/-- `language` or `language-REGION` -/
def Locale.code (locale : Locale) : String :=
  match locale.region with
  | none => locale.language
  | some region => locale.language ++ "-" ++ region

/-- The last two parts of the id of a resource, with the language. -/
def formatGidKey (value : String) (locale : Option String) : String :=
  let parts := split '/' value
  (String.singleton '_').intercalate (parts.drop (parts.length - 2)) ++
    match locale with
    | none | some "" => ""
    | some locale => "_" ++ locale

def parseLocaleFromGidKey (value : String) : String := (split '_' value).getLastD ""

/-- A name of the query language: `[_A-Za-z][_0-9A-Za-z]*`. -/
def IsName (text : String) : Prop :=
  ∃ first rest, text.toList = first :: rest ∧ (first = '_' ∨ first.isAlpha) ∧
    ∀ char ∈ rest, char = '_' ∨ char.isAlphanum

theorem not_isName_of_nil {text : String} (chars : text.toList = []) : ¬IsName text := by
  intro name
  obtain ⟨first, rest, same, _⟩ := name
  rw [chars] at same
  cases same

theorem isName_iff_of_cons {text : String} {first : Char} {rest : List Char}
    (chars : text.toList = first :: rest) :
    ((first == '_' || first.isAlpha) && rest.all fun char => char == '_' || char.isAlphanum) =
        true ↔ IsName text := by
  rw [Bool.and_eq_true, Bool.or_eq_true, beq_iff_eq, List.all_eq_true]
  simp only [Bool.or_eq_true, beq_iff_eq]
  constructor
  · intro named
    exact ⟨first, rest, chars, named⟩
  · intro name
    obtain ⟨_, _, same, named⟩ := name
    rw [chars] at same
    cases same
    exact named

instance : DecidablePred IsName := fun text =>
  match chars : text.toList with
  | [] => .isFalse (not_isName_of_nil chars)
  | _ :: _ => decidable_of_iff _ (isName_iff_of_cons chars)

/-! ## The alias of a resource and a language -/

theorem isAlphanum_ne {char other : Char} (alphanumeric : char.isAlphanum)
    (none : other.isAlphanum = false) : char ≠ other := by
  intro same
  rw [same, none] at alphanumeric
  cases alphanumeric

theorem isAlphanum_of_isAlpha {char : Char} (letter : char.isAlpha) : char.isAlphanum := by
  simp [Char.isAlphanum, letter]

theorem isAlphanum_of_isDigit {char : Char} (digit : char.isDigit) : char.isAlphanum := by
  simp [Char.isAlphanum, digit]

namespace Gid

variable (gid : Gid)

theorem not_mem_type {other : Char} (no : other.isAlphanum = false) : other ∉ gid.type.toList := by
  intro member
  exact isAlphanum_ne (isAlphanum_of_isAlpha (gid.letters other member)) no rfl

theorem not_mem_id {other : Char} (no : other.isAlphanum = false) : other ∉ gid.id.toList := by
  intro member
  exact isAlphanum_ne (isAlphanum_of_isDigit (gid.digits other member)) no rfl

theorem split_text : split '/' gid.text = ["gid:", "", "shopify", gid.type, gid.id] := by
  apply split_intercalate
  · intro part member
    simp only [List.mem_cons, List.not_mem_nil, or_false] at member
    rcases member with rfl | rfl | rfl | rfl | rfl
    · decide
    · decide
    · decide
    · exact gid.not_mem_type rfl
    · exact gid.not_mem_id rfl
  · exact List.cons_ne_nil _ _

end Gid

namespace Locale

variable (locale : Locale)

theorem code_ne_empty : locale.code ≠ "" := by
  rw [code]
  cases locale.region with
  | none => exact locale.nonempty
  | some region => simp

/-- A code is made of letters, digits and, before a region, a hyphen. -/
theorem char_of_mem_code {char : Char} (member : char ∈ locale.code.toList) :
    char.isAlphanum ∨ (char = '-' ∧ locale.region ≠ none) := by
  rw [code] at member
  cases region : locale.region with
  | none =>
      rw [region] at member
      exact .inl (isAlphanum_of_isAlpha (locale.letters char member))
  | some name =>
      rw [region] at member
      simp only [String.toList_append, List.mem_append] at member
      rcases member with (letter | hyphen) | alphanumeric
      · exact .inl (isAlphanum_of_isAlpha (locale.letters char letter))
      · exact .inr ⟨by simpa using hyphen, Option.some_ne_none name⟩
      · exact .inl (locale.alphanumeric name region char alphanumeric)

theorem underscore_not_mem : '_' ∉ locale.code.toList := by
  intro member
  rcases locale.char_of_mem_code member with alphanumeric | ⟨hyphen, _⟩
  · exact absurd alphanumeric (by decide)
  · exact absurd hyphen (by decide)

theorem hyphen_mem_iff : '-' ∈ locale.code.toList ↔ locale.region ≠ none := by
  constructor
  · intro member
    rcases locale.char_of_mem_code member with alphanumeric | ⟨_, region⟩
    · exact absurd alphanumeric (by decide)
    · exact region
  · intro some
    obtain ⟨region, named⟩ := Option.ne_none_iff_exists'.mp some
    simp [code, named]

end Locale

section

variable (gid : Gid) (locale : Locale)

/-- The parts of an alias. -/
theorem formatGidKey_text : formatGidKey gid.text (some locale.code) =
    (String.singleton '_').intercalate [gid.type, gid.id, locale.code] := by
  have nonempty := locale.code_ne_empty
  apply String.toList_injective
  simp [formatGidKey, gid.split_text]

theorem split_formatGidKey : split '_' (formatGidKey gid.text (some locale.code)) =
    [gid.type, gid.id, locale.code] := by
  rw [formatGidKey_text]
  apply split_intercalate
  · intro part member
    simp only [List.mem_cons, List.not_mem_nil, or_false] at member
    rcases member with rfl | rfl | rfl
    · exact gid.not_mem_type rfl
    · exact gid.not_mem_id rfl
    · exact locale.underscore_not_mem
  · exact List.cons_ne_nil _ _

theorem parseLocaleFromGidKey_formatGidKey :
    parseLocaleFromGidKey (formatGidKey gid.text (some locale.code)) = locale.code := by
  rw [parseLocaleFromGidKey, split_formatGidKey]
  rfl

/-- Different resources or languages have different aliases. -/
theorem formatGidKey_injective {gid other : Gid} {locale language : Locale}
    (same : formatGidKey gid.text (some locale.code) =
      formatGidKey other.text (some language.code)) :
    gid.text = other.text ∧ locale.code = language.code := by
  have parts := congrArg (split '_') same
  rw [split_formatGidKey, split_formatGidKey] at parts
  injection parts with types parts
  injection parts with ids parts
  injection parts with codes _
  exact ⟨by rw [Gid.text, Gid.text, types, ids], codes⟩

theorem toList_formatGidKey : (formatGidKey gid.text (some locale.code)).toList =
    gid.type.toList ++ '_' :: (gid.id.toList ++ '_' :: locale.code.toList) := by
  rw [formatGidKey_text]
  simp

/-- The alias is a name exactly if the language has no region. -/
theorem isName_formatGidKey_iff :
    IsName (formatGidKey gid.text (some locale.code)) ↔ locale.region = none := by
  rw [IsName, toList_formatGidKey]
  have nonempty : gid.type.toList ≠ [] := by
    intro empty
    exact gid.typed (String.toList_eq_nil_iff.mp empty)
  constructor
  · intro ⟨first, rest, text, start, tail⟩
    by_contra region
    have hyphen := locale.hyphen_mem_iff.mpr region
    have listed : '-' ∈ first :: rest := by
      rw [← text]
      simp [hyphen]
    rcases List.mem_cons.mp listed with same | later
    · rw [← same] at start
      exact absurd start (by decide)
    · exact absurd (tail '-' later) (by decide)
  · intro region
    obtain ⟨first, letters, type⟩ := List.exists_cons_of_ne_nil nonempty
    refine ⟨first, _, by rw [type, List.cons_append], .inr (gid.letters first (by simp [type])), ?_⟩
    intro char member
    have plain : char ∈ gid.type.toList ∨ char = '_' ∨ char ∈ gid.id.toList ∨
        char ∈ locale.code.toList := by
      rw [type]
      simp only [List.mem_append, List.mem_cons] at member ⊢
      tauto
    rcases plain with letter | underscore | digit | code
    · exact .inr (isAlphanum_of_isAlpha (gid.letters char letter))
    · exact .inl underscore
    · exact .inr (isAlphanum_of_isDigit (gid.digits char digit))
    · rcases locale.char_of_mem_code code with alphanumeric | ⟨_, some⟩
      · exact .inr alphanumeric
      · exact absurd region some

end

/-- Portuguese as it is spoken in Brazil. -/
def brazilian : Locale := ⟨"pt", some "BR", by simp, by simp, by simp⟩

end Translation
end OdooConnector
