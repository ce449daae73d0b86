import Mathlib.Tactic.Ring
import OdooConnector.Library.Fields
import OdooConnector.Queue.ChannelCapacity

/-!
# Configuration of channels

A text lists channels with their capacities and further keys. A list of dictionaries is read from
some text just where its names and keys can be told apart, and then it is read from the text that
writes it down.
-/

namespace OdooConnector.Queue

/-- The value of a key; one without a value gets `True`. -/
inductive ConfigValue where
  | flag
  | text (value : String)
deriving DecidableEq

/-- The dictionary of a channel, with the further keys in their order. -/
structure ChannelConfig where
  name : String
  capacity : ℤ
  items : List (String × ConfigValue)
deriving DecidableEq

/-- A `ValueError`, with its message or with the text that `int` does not read. -/
inductive ConfigError where
  | invalid (message : String)
  | literal (text : String)
deriving DecidableEq

/-- `int` reads no more than 4300 digits. -/
def maxDigits : ℕ := 4300

def digitCount (text : List Char) : ℕ := text.countP fun char => (decimal char).isSome

def readInt (text : String) : Option ℤ :=
  if digitCount text.toList ≤ maxDigits then int text.toList else none

def splitStrip (text : String) (separator : Char) : List String := (split separator text).map strip

/-- Line breaks stand for commas. -/
def joinLines (text : String) : String := text.map fun char => if char = '\n' then ',' else char

namespace ChannelConfig

variable (config : ChannelConfig)

/-- The keys of the dictionary. -/
def keys : List String := "name" :: "capacity" :: config.items.map Prod.fst

def invalidConfig (configString problem : String) : ConfigError :=
  .invalid ("Invalid channel config " ++ configString ++ ": " ++ problem)

def insertItem (configString key : String) (value : ConfigValue) :
    Except ConfigError ChannelConfig :=
  if key ∈ config.keys then .error (invalidConfig configString ("duplicate key " ++ key))
  else .ok { config with items := config.items ++ [(key, value)] }

def parseItem (configString : String) (config : ChannelConfig) (item : String) :
    Except ConfigError ChannelConfig :=
  match splitStrip item '=' with
  | [key] => config.insertItem configString key .flag
  | [key, value] => config.insertItem configString key (.text value)
  | _ => .error (invalidConfig configString ("incorrect config item " ++ item))

def parseItems (configString : String) : ChannelConfig → List String →
    Except ConfigError ChannelConfig
  | config, [] => .ok config
  | config, item :: items =>
      match parseItem configString config item with
      | .ok config => parseItems configString config items
      | .error error => .error error

/-- Read the dictionary of a channel. -/
def parse (configString channelConfigString : String) : Except ConfigError ChannelConfig :=
  match splitStrip channelConfigString ':' with
  | [] => .error (invalidConfig configString "missing channel name")
  | name :: items =>
      if name = "" then .error (invalidConfig configString "missing channel name")
      else
        match items with
        | [] => .ok ⟨name, 1, []⟩
        | capacity :: items =>
            match readInt capacity with
            | none => .error (invalidConfig configString ("invalid capacity " ++ capacity))
            | some capacity => parseItems configString ⟨name, capacity, []⟩ items

def parseAll (configString : String) : List String → Except ConfigError (List ChannelConfig)
  | [] => .ok []
  | channel :: channels =>
      if channel = "" then parseAll configString channels
      else
        match parse configString channel with
        | .error error => .error error
        | .ok config =>
            match parseAll configString channels with
            | .error error => .error error
            | .ok configs => .ok (config :: configs)

end ChannelConfig

/-- `parse_simple_config` -/
def parseSimpleConfig (configString : String) : Except ConfigError (List ChannelConfig) :=
  let configString := joinLines configString
  ChannelConfig.parseAll configString (splitStrip configString ',')

example : parseSimpleConfig "\n root : 4,\n ,\n foo bar:1: k=va lue,\n" =
    .ok [⟨"root", 4, []⟩, ⟨"foo bar", 1, [("k", .text "va lue")]⟩] := by decide +kernel

/-! ### Writing a configuration down -/

def renderItem : String × ConfigValue → String
  | (key, .flag) => key
  | (key, .text value) => (String.singleton '=').intercalate [key, value]

def ChannelConfig.render (config : ChannelConfig) : String :=
  (String.singleton ':').intercalate
    (config.name :: toString config.capacity :: config.items.map renderItem)

def renderConfig (configs : List ChannelConfig) : String :=
  (String.singleton ',').intercalate (configs.map ChannelConfig.render)

/-- A text that can stand between separators. -/
structure IsPlain (text : String) : Prop where
  stripped : strip text = text
  comma : ',' ∉ text.toList
  line : '\n' ∉ text.toList
  colon : ':' ∉ text.toList

def IsPlainItem : String × ConfigValue → Prop
  | (key, .flag) => IsPlain key ∧ '=' ∉ key.toList
  | (key, .text value) =>
      (IsPlain key ∧ '=' ∉ key.toList) ∧ IsPlain value ∧ '=' ∉ value.toList

/-- Dictionaries that some text describes. -/
structure ChannelConfig.WellFormed (config : ChannelConfig) : Prop where
  nonempty : config.name ≠ ""
  name : IsPlain config.name
  capacity : config.capacity.natAbs < 10 ^ maxDigits
  items : ∀ item ∈ config.items, IsPlainItem item
  nodup : config.keys.Nodup

section Fields

variable {text : String} {separator : Char}

theorem strip_eq (text : String) : strip text = String.ofList (trim isSpace text.toList) := rfl

theorem splitStrip_eq : splitStrip text separator =
    (fields isSpace separator text.toList).map String.ofList := by
  rw [splitStrip, split, fields, List.map_map, List.map_map]
  refine List.map_congr_left fun part _ => ?_
  rw [Function.comp_apply, strip_eq, String.toList_ofList]
  rfl

theorem splitStrip_strip (visible : isSpace separator = false) :
    splitStrip (strip text) separator = splitStrip text separator := by
  rw [splitStrip_eq, strip_eq, String.toList_ofList, fields_trim visible, ← splitStrip_eq]

theorem splitStrip_intercalate {parts : List String}
    (free : ∀ part ∈ parts, separator ∉ part.toList) (nonempty : parts ≠ []) :
    splitStrip ((String.singleton separator).intercalate parts) separator = parts.map strip := by
  rw [splitStrip, split_intercalate free nonempty]

/-- What is known of a field. -/
theorem of_mem_splitStrip {part : String} (member : part ∈ splitStrip text separator) :
    strip part = part ∧ separator ∉ part.toList ∧ ∀ char ∈ part.toList, char ∈ text.toList := by
  rw [splitStrip_eq] at member
  obtain ⟨list, listed, rfl⟩ := List.mem_map.mp member
  rw [strip_eq, String.toList_ofList, trim_of_mem_fields listed]
  exact ⟨rfl, not_mem_fields listed, fun char => mem_of_mem_fields listed⟩

end Fields

section Numbers

variable {char : Char} {text : List Char} {number result : ℕ}

theorem decimal_lt {digit : ℕ} (isDecimal : decimal char = some digit) : digit < 10 := by
  obtain ⟨first, found, rfl⟩ := Option.map_eq_some_iff.mp isDecimal
  have bounds := List.find?_some found
  rw [Bool.and_eq_true, decide_eq_true_eq, decide_eq_true_eq] at bounds
  omega

theorem decimal_of_isDigit (digit : char.isDigit) : decimal char = some (char.toNat - 48) := by
  rw [Char.isDigit, Bool.and_eq_true, decide_eq_true_eq, decide_eq_true_eq] at digit
  have low : 48 ≤ char.toNat := digit.1
  have high : char.toNat ≤ 57 := digit.2
  rw [decimal, digitZeros, List.find?_cons_of_pos]
  · rfl
  · rw [Bool.and_eq_true, decide_eq_true_eq, decide_eq_true_eq]
    omega

theorem digitCount_cons {digit : ℕ} (isDecimal : decimal char = some digit) :
    digitCount (char :: text) = digitCount text + 1 := by
  rw [digitCount, List.countP_cons_of_pos (by rw [isDecimal]; rfl)]
  rfl

theorem decimals_lt (read : decimals number text = some result) :
    result < (number + 1) * 10 ^ digitCount text := by
  have step {number digit count : ℕ} (small : digit < 10)
      (bound : result < (10 * number + digit + 1) * 10 ^ count) :
      result < (number + 1) * 10 ^ (count + 1) := by
    have more : (10 * number + digit + 1) * 10 ^ count ≤ 10 * (number + 1) * 10 ^ count :=
      Nat.mul_le_mul_right _ (by omega)
    rw [pow_succ]
    calc result < (10 * number + digit + 1) * 10 ^ count := bound
      _ ≤ 10 * (number + 1) * 10 ^ count := more
      _ = (number + 1) * (10 ^ count * 10) := by ring
  induction number, text using decimals.induct with
  | case1 number =>
      rw [decimals] at read
      obtain rfl := Option.some_inj.mp read
      simp [digitCount]
  | case2 number char text induction =>
      rw [decimals] at read
      obtain ⟨digit, isDecimal, rest⟩ := Option.bind_eq_some_iff.mp read
      have underscore : digitCount ('_' :: char :: text) = digitCount (char :: text) := by
        rw [digitCount, List.countP_cons_of_neg (by decide +kernel)]
        rfl
      rw [underscore, digitCount_cons isDecimal]
      exact step (decimal_lt isDecimal) (induction digit rest)
  | case3 number char text other induction =>
      rw [decimals] at read
      · obtain ⟨digit, isDecimal, rest⟩ := Option.bind_eq_some_iff.mp read
        rw [digitCount_cons isDecimal]
        exact step (decimal_lt isDecimal) (induction digit rest)
      · exact other

theorem natural_lt (read : natural text = some result) : result < 10 ^ digitCount text := by
  cases text with
  | nil => cases read
  | cons char text =>
      obtain ⟨digit, isDecimal, rest⟩ := Option.bind_eq_some_iff.mp read
      have small := decimal_lt isDecimal
      have bound := decimals_lt rest
      rw [digitCount_cons isDecimal, pow_succ, Nat.mul_comm]
      exact bound.trans_le (Nat.mul_le_mul_right _ small)

theorem digitCount_le {part : List Char} (sublist : part.Sublist text) :
    digitCount part ≤ digitCount text := sublist.countP_le

/-- A number has no more digits than the text that it is read from. -/
theorem natAbs_lt_of_readInt {text : String} {value : ℤ} (read : readInt text = some value) :
    value.natAbs < 10 ^ maxDigits := by
  rw [readInt] at read
  split_ifs at read with short
  have trimmed : ((text.toList.dropWhile isNumberSpace).reverse.dropWhile
      isNumberSpace).reverse.Sublist text.toList :=
    (List.rdropWhile_prefix isNumberSpace _).sublist.trans (List.dropWhile_sublist _)
  have most {part : List Char} {number : ℕ} (within : part.Sublist text.toList)
      (read : natural part = some number) : number < 10 ^ maxDigits :=
    (natural_lt read).trans_le
      (Nat.pow_le_pow_right (by omega) ((digitCount_le within).trans short))
  rw [int] at read
  split at read
  · rename_i part same
    obtain ⟨value, found, rfl⟩ := Option.map_eq_some_iff.mp read
    obtain ⟨number, found, positive⟩ := Option.bind_eq_some_iff.mp found
    rw [Int.natAbs_neg, ← Option.some_inj.mp positive, Int.natAbs_natCast]
    exact most ((List.sublist_cons_self _ _).trans (same ▸ trimmed)) found
  · rename_i part same
    obtain ⟨number, found, rfl⟩ := Option.map_eq_some_iff.mp read
    exact most ((List.sublist_cons_self _ _).trans (same ▸ trimmed)) found
  · obtain ⟨number, found, rfl⟩ := Option.map_eq_some_iff.mp read
    exact most trimmed found

theorem decimals_of_digits (digits : ∀ char ∈ text, char.isDigit) (number : ℕ) :
    decimals number text = some (Nat.ofDigitChars 10 text number) := by
  induction text generalizing number with
  | nil => rfl
  | cons char text induction =>
      rw [List.forall_mem_cons] at digits
      rw [decimals, decimal_of_isDigit digits.1, Option.bind_some, induction digits.2,
        Nat.ofDigitChars_cons]
      · rfl
      · rintro other rest rfl same
        cases digits.1

theorem natural_of_digits (digits : ∀ char ∈ text, char.isDigit) (nonempty : text ≠ []) :
    natural text = some (Nat.ofDigitChars 10 text 0) := by
  cases text with
  | nil => exact absurd rfl nonempty
  | cons char text =>
      rw [List.forall_mem_cons] at digits
      rw [natural, decimal_of_isDigit digits.1, Option.bind_some, decimals_of_digits digits.2,
        Nat.ofDigitChars_cons, Nat.mul_zero, Nat.zero_add]
      rfl

theorem natural_toDigits (number : ℕ) : natural (Nat.toDigits 10 number) = some number := by
  rw [natural_of_digits
    (fun char member => Nat.isDigit_of_mem_toDigits (by omega) (by omega) member)
    Nat.toDigits_ne_nil, Nat.ofDigitChars_ten_toDigits]

end Numbers

section Capacities

variable {text : List Char}

theorem trim_of_visible {blank : Char → Bool} (visible : ∀ char ∈ text, ¬ blank char) :
    trim blank text = text := by
  have front : text.dropWhile blank = text := by
    cases text with
    | nil => rfl
    | cons char text => exact List.dropWhile_cons_of_neg (visible char List.mem_cons_self)
  rw [trim, front, List.rdropWhile_eq_self_iff]
  exact fun nonempty => visible _ (List.getLast_mem nonempty)

/-- The characters of a number that is written down. -/
def isNumeral (char : Char) : Bool := char.isDigit || char = '-'

theorem not_isSpace_of_isNumeral {char : Char} (numeral : isNumeral char) : ¬ isSpace char := by
  have code : (48 ≤ char.toNat ∧ char.toNat ≤ 57) ∨ char.toNat = 45 := by
    rw [isNumeral, Bool.or_eq_true, Char.isDigit, Bool.and_eq_true, decide_eq_true_eq,
      decide_eq_true_eq, decide_eq_true_eq] at numeral
    rcases numeral with digit | rfl
    · exact .inl digit
    · exact .inr rfl
  rw [isSpace]
  simp only [Bool.or_eq_true, Bool.and_eq_true, decide_eq_true_eq, beq_iff_eq]
  omega

theorem toList_toString_negSucc (number : ℕ) :
    (toString (Int.negSucc number)).toList = '-' :: Nat.toDigits 10 (number + 1) := by
  change ("-" ++ (number + 1).repr).toList = _
  rw [String.toList_append, Nat.toList_repr]
  rfl

theorem isNumeral_of_mem_toString (value : ℤ) :
    ∀ char ∈ (toString value).toList, isNumeral char := by
  have digits (number : ℕ) : ∀ char ∈ Nat.toDigits 10 number, isNumeral char := by
    intro char member
    rw [isNumeral, Nat.isDigit_of_mem_toDigits (by omega) (by omega) member, Bool.true_or]
  cases value with
  | ofNat number =>
      intro char member
      have member : char ∈ number.repr.toList := member
      rw [Nat.toList_repr] at member
      exact digits number char member
  | negSucc number =>
      intro char member
      rw [toList_toString_negSucc] at member
      rcases List.mem_cons.mp member with rfl | later
      · rfl
      · exact digits _ char later

theorem trim_toString {blank : Char → Bool} (visible : ∀ char, blank char → isSpace char)
    (value : ℤ) : trim blank (toString value).toList = (toString value).toList := by
  refine trim_of_visible fun char member isBlank => ?_
  exact not_isSpace_of_isNumeral (isNumeral_of_mem_toString value char member)
    (visible char isBlank)

theorem int_toString (value : ℤ) : int (toString value).toList = some value := by
  have narrower (char : Char) (isBlank : isNumberSpace char) : isSpace char := by
    rw [isNumberSpace, Bool.and_eq_true] at isBlank
    exact isBlank.1
  have trimmed := trim_toString narrower value
  rw [trim, List.rdropWhile] at trimmed
  rw [int, trimmed]
  cases value with
  | ofNat number =>
      have digits : (toString (Int.ofNat number)).toList = Nat.toDigits 10 number :=
        Nat.toList_repr
      rw [digits]
      split
      · rename_i text same
        have head : '-' ∈ Nat.toDigits 10 number := same ▸ List.mem_cons_self
        cases Nat.isDigit_of_mem_toDigits (by omega) (by omega) head
      · rename_i text same
        have head : '+' ∈ Nat.toDigits 10 number := same ▸ List.mem_cons_self
        cases Nat.isDigit_of_mem_toDigits (by omega) (by omega) head
      · rw [natural_toDigits]
        rfl
  | negSucc number =>
      rw [toList_toString_negSucc]
      simp only [natural_toDigits]
      rfl

theorem readInt_toString {value : ℤ} (small : value.natAbs < 10 ^ maxDigits) :
    readInt (toString value) = some value := by
  have count (number : ℕ) (small : number < 10 ^ maxDigits) :
      digitCount (Nat.toDigits 10 number) ≤ maxDigits :=
    List.countP_le_length.trans
      ((Nat.length_toDigits_le_iff (by omega) (by rw [maxDigits]; omega)).mpr small)
  have short : digitCount (toString value).toList ≤ maxDigits := by
    cases value with
    | ofNat number =>
        change digitCount number.repr.toList ≤ maxDigits
        rw [Nat.toList_repr]
        exact count number small
    | negSucc number =>
        rw [toList_toString_negSucc, digitCount, List.countP_cons_of_neg (by decide +kernel)]
        exact count (number + 1) small
  rw [readInt, if_pos short, int_toString]

end Capacities

namespace ChannelConfig

variable {config after : ChannelConfig} {configs : List ChannelConfig}
  {configString channel item : String} {items channels : List String}

section Reading

theorem isPlain_of_field {text : String} {part : String} (member : part ∈ splitStrip text ':')
    (comma : ',' ∉ text.toList) (line : '\n' ∉ text.toList) : IsPlain part := by
  obtain ⟨stripped, colon, within⟩ := of_mem_splitStrip member
  exact ⟨stripped, fun inside => comma (within _ inside), fun inside => line (within _ inside),
    colon⟩

/-- An item that is accepted is written behind the others. -/
theorem parseItem_eq (read : parseItem configString config item = .ok after) :
    ∃ key value, after = { config with items := config.items ++ [(key, value)] } ∧
      key ∉ config.keys ∧ (IsPlain item → IsPlainItem (key, value)) := by
  have field {part : String} (member : part ∈ splitStrip item '=') (plain : IsPlain item) :
      IsPlain part ∧ '=' ∉ part.toList := by
    obtain ⟨stripped, equals, within⟩ := of_mem_splitStrip member
    exact ⟨⟨stripped, fun inside => plain.comma (within _ inside),
      fun inside => plain.line (within _ inside), fun inside => plain.colon (within _ inside)⟩,
      equals⟩
  rw [parseItem] at read
  split at read
  · rename_i key parts
    rw [parts] at field
    rw [insertItem] at read
    split_ifs at read with known
    exact ⟨key, .flag, (Except.ok.inj read).symm, known,
      fun plain => field List.mem_cons_self plain⟩
  · rename_i key value parts
    rw [parts] at field
    rw [insertItem] at read
    split_ifs at read with known
    exact ⟨key, .text value, (Except.ok.inj read).symm, known, fun plain =>
      ⟨field List.mem_cons_self plain, field (List.mem_cons_of_mem _ List.mem_cons_self) plain⟩⟩
  · cases read

theorem WellFormed.parseItem (wellFormed : config.WellFormed) (plain : IsPlain item)
    (read : ChannelConfig.parseItem configString config item = .ok after) :
    after.WellFormed := by
  obtain ⟨key, value, rfl, new, isPlain⟩ := parseItem_eq read
  refine ⟨wellFormed.nonempty, wellFormed.name, wellFormed.capacity, fun item member => ?_, ?_⟩
  · rcases List.mem_append.mp member with old | added
    · exact wellFormed.items item old
    · rw [List.mem_singleton.mp added]
      exact isPlain plain
  · have keys : keys { config with items := config.items ++ [(key, value)] } =
        config.keys ++ [key] := by
      rw [ChannelConfig.keys, ChannelConfig.keys, List.map_append]
      rfl
    rw [keys]
    exact wellFormed.nodup.append (List.nodup_singleton _) (List.disjoint_singleton.mpr new)

theorem WellFormed.parseItems (wellFormed : config.WellFormed)
    (plain : ∀ item ∈ items, IsPlain item)
    (read : ChannelConfig.parseItems configString config items = .ok after) :
    after.WellFormed := by
  induction items generalizing config with
  | nil => exact Except.ok.inj read ▸ wellFormed
  | cons item items induction =>
      rw [List.forall_mem_cons] at plain
      rw [ChannelConfig.parseItems] at read
      split at read
      · rename_i next first
        exact induction (wellFormed.parseItem plain.1 first) plain.2 read
      · cases read

theorem wellFormed_parse (comma : ',' ∉ channel.toList) (line : '\n' ∉ channel.toList)
    (read : parse configString channel = .ok config) : config.WellFormed := by
  have plain {part : String} (member : part ∈ splitStrip channel ':') : IsPlain part :=
    isPlain_of_field member comma line
  rw [parse] at read
  split at read
  · cases read
  · rename_i name items parts
    rw [parts] at plain
    have keys : (["name", "capacity"] : List String).Nodup := by decide
    split_ifs at read with missing
    split at read
    · obtain rfl := Except.ok.inj read
      exact ⟨missing, plain List.mem_cons_self, Nat.one_lt_pow (by decide) (by decide),
        fun _ member => absurd member List.not_mem_nil, keys⟩
    · rename_i capacity items
      split at read
      · cases read
      · rename_i number isNumber
        have first : WellFormed ⟨name, number, []⟩ :=
          ⟨missing, plain List.mem_cons_self, natAbs_lt_of_readInt isNumber,
            fun _ member => absurd member List.not_mem_nil, keys⟩
        refine first.parseItems (fun item member => plain ?_) read
        exact List.mem_cons_of_mem _ (List.mem_cons_of_mem _ member)

theorem wellFormed_parseAll
    (plain : ∀ channel ∈ channels, ',' ∉ channel.toList ∧ '\n' ∉ channel.toList)
    (read : parseAll configString channels = .ok configs) :
    ∀ config ∈ configs, config.WellFormed := by
  induction channels generalizing configs with
  | nil =>
      obtain rfl := Except.ok.inj read
      exact fun _ member => absurd member List.not_mem_nil
  | cons channel channels induction =>
      rw [List.forall_mem_cons] at plain
      rw [parseAll] at read
      split_ifs at read
      · exact induction plain.2 read
      · split at read
        · cases read
        · rename_i config first
          split at read
          · cases read
          · rename_i rest others
            obtain rfl := Except.ok.inj read
            rw [List.forall_mem_cons]
            exact ⟨wellFormed_parse plain.1.1 plain.1.2 first, induction plain.2 others⟩

end Reading

section Writing

theorem mem_toList_intercalate {separator char : Char} {parts : List String}
    (member : char ∈ ((String.singleton separator).intercalate parts).toList) :
    char = separator ∨ ∃ part ∈ parts, char ∈ part.toList := by
  rw [String.toList_intercalate, String.toList_singleton] at member
  refine (mem_of_mem_intercalate member).imp_right fun found => ?_
  obtain ⟨list, listed, inside⟩ := found
  obtain ⟨part, among, rfl⟩ := List.mem_map.mp listed
  exact ⟨part, among, inside⟩

/-- What is written down for an item is read again. -/
theorem parseItem_render {entry : String × ConfigValue} (plain : IsPlainItem entry)
    (new : entry.1 ∉ config.keys) :
    parseItem configString config (strip (renderItem entry)) =
      .ok { config with items := config.items ++ [entry] } := by
  obtain ⟨key, value⟩ := entry
  cases value with
  | flag =>
      obtain ⟨isPlain, equals⟩ := plain
      have parts : splitStrip (strip (renderItem (key, .flag))) '=' = [key] := by
        rw [splitStrip_strip rfl]
        have one := @splitStrip_intercalate '=' [key] (by simpa using equals) (by simp)
        rw [List.map_singleton, isPlain.stripped] at one
        exact one
      rw [parseItem, parts]
      exact if_neg new
  | text value =>
      obtain ⟨⟨isPlain, equals⟩, isPlain', equals'⟩ := plain
      have parts : splitStrip (strip (renderItem (key, .text value))) '=' = [key, value] := by
        rw [splitStrip_strip rfl, renderItem, splitStrip_intercalate]
        · rw [List.map_cons, List.map_singleton, isPlain.stripped, isPlain'.stripped]
        · simpa using ⟨equals, equals'⟩
        · simp
      rw [parseItem, parts]
      exact if_neg new

theorem parseItems_render (name : String) (capacity : ℤ)
    (done entries : List (String × ConfigValue))
    (plain : ∀ entry ∈ entries, IsPlainItem entry)
    (nodup : (keys ⟨name, capacity, done ++ entries⟩).Nodup) :
    parseItems configString ⟨name, capacity, done⟩
      (entries.map fun entry => strip (renderItem entry)) =
      .ok ⟨name, capacity, done ++ entries⟩ := by
  induction entries generalizing done with
  | nil => rw [List.map_nil, parseItems, List.append_nil]
  | cons entry entries induction =>
      rw [List.forall_mem_cons] at plain
      have new : entry.1 ∉ keys ⟨name, capacity, done⟩ := by
        have split : keys ⟨name, capacity, done ++ entry :: entries⟩ =
            keys ⟨name, capacity, done⟩ ++ entry.1 :: entries.map Prod.fst := by
          simp [keys]
        rw [split] at nodup
        exact fun known => (List.nodup_append.mp nodup).2.2 _ known _ List.mem_cons_self rfl
      rw [List.map_cons, parseItems, parseItem_render plain.1 new]
      dsimp only
      have rest := induction (done ++ [entry]) plain.2
      rw [List.append_assoc, List.singleton_append] at rest
      exact rest nodup

theorem WellFormed.not_mem_render (wellFormed : config.WellFormed) {char : Char}
    (visible : isNumeral char = false) (colon : char ≠ ':') (equals : char ≠ '=')
    (plain : ∀ text, IsPlain text → char ∉ text.toList) : char ∉ config.render.toList := by
  intro member
  rcases mem_toList_intercalate member with same | ⟨part, listed, inside⟩
  · exact colon same
  · rcases List.mem_cons.mp listed with rfl | listed
    · exact plain _ wellFormed.name inside
    · rcases List.mem_cons.mp listed with rfl | listed
      · exact Bool.eq_false_iff.mp visible (isNumeral_of_mem_toString _ char inside)
      · obtain ⟨entry, among, rfl⟩ := List.mem_map.mp listed
        have isPlain := wellFormed.items entry among
        obtain ⟨key, value⟩ := entry
        cases value with
        | flag => exact plain key isPlain.1 inside
        | text value =>
            rcases mem_toList_intercalate inside with same | ⟨part, own, within⟩
            · exact equals same
            · rcases List.mem_cons.mp own with rfl | own
              · exact plain _ isPlain.1.1 within
              · obtain rfl := List.mem_singleton.mp own
                exact plain _ isPlain.2.1 within

/-- The colons in what is written down are those between the parts. -/
theorem WellFormed.splitStrip_render (wellFormed : config.WellFormed) :
    splitStrip (strip config.render) ':' =
      config.name :: toString config.capacity ::
        config.items.map fun entry => strip (renderItem entry) := by
  rw [splitStrip_strip rfl, render, splitStrip_intercalate]
  · rw [List.map_cons, List.map_cons, wellFormed.name.stripped, List.map_map]
    have number : strip (toString config.capacity) = toString config.capacity := by
      rw [strip_eq, trim_toString (fun _ => id), String.ofList_toList]
    rw [number]
    rfl
  · intro part listed inside
    rcases List.mem_cons.mp listed with rfl | listed
    · exact wellFormed.name.colon inside
    · rcases List.mem_cons.mp listed with rfl | listed
      · cases isNumeral_of_mem_toString _ _ inside
      · obtain ⟨entry, among, rfl⟩ := List.mem_map.mp listed
        have isPlain := wellFormed.items entry among
        obtain ⟨key, value⟩ := entry
        cases value with
        | flag => exact isPlain.1.colon inside
        | text value =>
            rcases mem_toList_intercalate inside with same | ⟨part, own, within⟩
            · cases same
            · rcases List.mem_cons.mp own with rfl | own
              · exact isPlain.1.1.colon within
              · obtain rfl := List.mem_singleton.mp own
                exact isPlain.2.1.colon within
  · exact List.cons_ne_nil _ _

theorem WellFormed.parse_render (wellFormed : config.WellFormed) (configString : String) :
    parse configString (strip config.render) = .ok config := by
  rw [parse, wellFormed.splitStrip_render]
  dsimp only
  rw [if_neg wellFormed.nonempty, readInt_toString wellFormed.capacity]
  exact parseItems_render config.name config.capacity [] config.items wellFormed.items
    wellFormed.nodup

theorem parseAll_render (wellFormed : ∀ config ∈ configs, config.WellFormed)
    (configString : String) :
    parseAll configString (configs.map fun config => strip config.render) = .ok configs := by
  induction configs with
  | nil => rfl
  | cons config configs induction =>
      rw [List.forall_mem_cons] at wellFormed
      have given : strip config.render ≠ "" := by
        intro empty
        have parts := wellFormed.1.splitStrip_render
        rw [empty] at parts
        have one : splitStrip "" ':' = [""] := by decide +kernel
        rw [one] at parts
        cases (List.cons.inj parts).2
      rw [List.map_cons, parseAll, if_neg given, wellFormed.1.parse_render]
      dsimp only
      rw [induction wellFormed.2]

end Writing

end ChannelConfig

/-- What is written down for well formed dictionaries is read again. -/
theorem parseSimpleConfig_render {configs : List ChannelConfig}
    (wellFormed : ∀ config ∈ configs, config.WellFormed) :
    parseSimpleConfig (renderConfig configs) = .ok configs := by
  have lines : joinLines (renderConfig configs) = renderConfig configs := by
    refine String.toList_injective ?_
    rw [joinLines, String.toList_map]
    refine (List.map_congr_left fun char member => ?_).trans (List.map_id _)
    refine if_neg ?_
    rintro rfl
    rcases ChannelConfig.mem_toList_intercalate member with same | ⟨part, listed, inside⟩
    · cases same
    · obtain ⟨config, among, rfl⟩ := List.mem_map.mp listed
      exact (wellFormed config among).not_mem_render rfl (by decide) (by decide)
        (fun _ plain => plain.line) inside
  rw [parseSimpleConfig, lines]
  by_cases none : configs = []
  · rw [none]
    decide +kernel
  · rw [renderConfig, splitStrip_intercalate]
    · rw [List.map_map]
      exact ChannelConfig.parseAll_render wellFormed _
    · intro part listed
      obtain ⟨config, among, rfl⟩ := List.mem_map.mp listed
      exact (wellFormed config among).not_mem_render rfl (by decide) (by decide)
        fun _ plain => plain.comma
    · simpa using none

theorem wellFormed_parseSimpleConfig {configString : String} {configs : List ChannelConfig}
    (read : parseSimpleConfig configString = .ok configs) :
    ∀ config ∈ configs, config.WellFormed := by
  refine ChannelConfig.wellFormed_parseAll (fun channel member => ?_) read
  obtain ⟨-, comma, within⟩ := of_mem_splitStrip member
  refine ⟨comma, fun inside => ?_⟩
  have line := within _ inside
  rw [joinLines, String.toList_map] at line
  obtain ⟨char, -, same⟩ := List.mem_map.mp line
  split_ifs at same with isLine
  · cases same
  · exact isLine same

/-- The dictionaries that some text describes are the well formed ones, and those are read from what
is written down for them. -/
theorem parseSimpleConfig_iff (configs : List ChannelConfig) :
    ((∃ configString, parseSimpleConfig configString = .ok configs) ↔
      ∀ config ∈ configs, config.WellFormed) ∧
    ((∃ configString, parseSimpleConfig configString = .ok configs) ↔
      parseSimpleConfig (renderConfig configs) = .ok configs) := by
  refine ⟨⟨?_, fun wellFormed => ⟨_, parseSimpleConfig_render wellFormed⟩⟩,
    ⟨?_, fun read => ⟨_, read⟩⟩⟩
  · rintro ⟨configString, read⟩
    exact wellFormed_parseSimpleConfig read
  · rintro ⟨configString, read⟩
    exact parseSimpleConfig_render (wellFormed_parseSimpleConfig read)

end OdooConnector.Queue
