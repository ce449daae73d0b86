import OdooConnector.Queue.FailedJob
import OdooConnector.Queue.JobArguments

/-!
# Extraction of nodes

A dotted path is followed through dictionaries and lists. A key that looks like a number is an index
where it meets a list; any other key goes to all elements of the list.
-/

namespace OdooConnector.Api

open Queue (Json)

/-! ### Digits -/

/-- The ranges of the digits that are not decimal, such as superscripts. -/
def otherDigits : List (ℕ × ℕ) :=
  [(0xb2, 0xb3), (0xb9, 0xb9), (0x1369, 0x1371), (0x19da, 0x19da), (0x2070, 0x2070),
    (0x2074, 0x2079), (0x2080, 0x2089), (0x2460, 0x2468), (0x2474, 0x247c), (0x2488, 0x2490),
    (0x24ea, 0x24ea), (0x24f5, 0x24fd), (0x24ff, 0x24ff), (0x2776, 0x277e), (0x2780, 0x2788),
    (0x278a, 0x2792), (0x10a40, 0x10a43), (0x10e60, 0x10e68), (0x11052, 0x1105a),
    (0x1f100, 0x1f10a)]

def isDigitChar (char : Char) : Bool :=
  (Queue.decimal char).isSome ||
    otherDigits.any fun range => range.1 ≤ char.toNat && char.toNat ≤ range.2

/-- `str.isdigit` -/
def isdigit (text : String) : Bool := !text.isEmpty && text.toList.all isDigitChar

/-- The number that a text of decimal digits stands for. -/
def decimalNumber (text : String) : Option ℕ :=
  if text.toList.all fun char => (Queue.decimal char).isSome then Queue.natural text.toList
  else none

/-- `int` of a text of digits. Nothing stands for a `ValueError`, which more than 4300 digits give
too. -/
def int (text : String) : Option ℕ :=
  if text.length ≤ 4300 then decimalNumber text else none

/-- A text of decimal digits is one of digits. -/
theorem isdigit_of_decimalNumber {text : String} (decimal : (decimalNumber text).isSome) :
    isdigit text := by
  rw [decimalNumber] at decimal
  split at decimal
  · rename_i all
    rw [List.all_eq_true] at all
    have nonempty : text.isEmpty = false := by
      by_contra isEmpty
      rw [Bool.not_eq_false, String.isEmpty_iff] at isEmpty
      rw [isEmpty] at decimal
      contradiction
    rw [isdigit, nonempty, Bool.not_false, Bool.true_and, List.all_eq_true]
    intro char member
    rw [isDigitChar, all char member, Bool.true_or]
  · contradiction

theorem decimalNumber_of_int {text : String} {number : ℕ} (read : int text = some number) :
    decimalNumber text = some number := by
  rw [int] at read
  split at read
  · exact read
  · contradiction

/-! ### The class -/

inductive ExtractError
  /-- of `json.loads` -/
  | jsonDecode (message : String)
  /-- of `int` -/
  | value
  | jsonMissedKey (message : String)
deriving DecidableEq

/-- What a missing node gives: a value, or something that is called for one. -/
inductive ReturnType (α : Type)
  | callable (call : Unit → α)
  | value (value : α)

def ReturnType.getDefault {α : Type} : ReturnType α → α
  | callable call => call ()
  | value default => default

/-- What a call gives, unless it raises an error. -/
inductive Extracted (α : Type)
  | found (data : Json)
  | default (value : α)

structure ExtractNode (α : Type) where
  keys : List String
  returnType : ReturnType α
  raiseError : Bool

mutual

/-- `_extract`; nothing stands for a `MissedValue`. -/
def extract (data : Json) (keyList : List String) : Except ExtractError (Option Json) :=
  match keyList with
  | [] => .ok (some data)
  | key :: remainingKeys =>
      match data with
      | .array items =>
          if isdigit key then
            match int key with
            | none => .error .value
            | some index =>
                if inside : index < items.length then extract items[index] remainingKeys
                else .ok none
          else (extractEach items key remainingKeys).map fun parts =>
            some (.array (parts.filterMap id))
      | .object entries =>
          match entries.lookup key with
          | some value => extract value remainingKeys
          | none => .ok none
      | _ => .ok none
termination_by (keyList.length, sizeOf data)

def extractEach (items : List Json) (key : String) (remainingKeys : List String) :
    Except ExtractError (List (Option Json)) :=
  match items with
  | [] => .ok []
  | item :: items => do
      let part ← extract item (key :: remainingKeys)
      let parts ← extractEach items key remainingKeys
      .ok (part :: parts)
termination_by (remainingKeys.length + 1, sizeOf items)

end

namespace ExtractNode

variable {α : Type}

def new (keyString : String) (returnType : ReturnType α) (raiseError : Bool) : ExtractNode α :=
  ⟨split '.' keyString, returnType, raiseError⟩

variable (loads : String → Except String Json) (node : ExtractNode α)

/-- A text is read as JSON. -/
def load : Json → Except ExtractError Json
  | .text value => (loads value).mapError .jsonDecode
  | result => .ok result

def missedKey : String :=
  "ExtractNode parse error: Key \"" ++ (String.singleton '.').intercalate node.keys ++
    "\" not found"

/-- `wrapper`, on what the function has returned -/
def call (result : Json) : Except ExtractError (Extracted α) := do
  let result ← load loads result
  let data ← extract result node.keys
  match data with
  | some data => .ok (.found data)
  | none =>
      if node.raiseError then .error (.jsonMissedKey node.missedKey)
      else .ok (.default node.returnType.getDefault)

def extractRaw (jsonData : Json) (keyString : String) (returnType : ReturnType α)
    (raiseError : Bool) : Except ExtractError (Extracted α) :=
  (new keyString returnType raiseError).call loads jsonData

end ExtractNode

/-! ### Nodes of the data -/

section

variable (key : String) (remainingKeys : List String)

theorem extract_nil (data : Json) : extract data [] = .ok (some data) := by rw [extract]

theorem extract_object (entries : List (String × Json)) :
    extract (.object entries) (key :: remainingKeys) =
      match entries.lookup key with
      | some value => extract value remainingKeys
      | none => .ok none := by
  rw [extract]

/-- A key that is read as a number is an index. -/
theorem extract_index {key : String} {index : ℕ} (read : int key = some index)
    (items : List Json) :
    extract (.array items) (key :: remainingKeys) =
      match items[index]? with
      | some item => extract item remainingKeys
      | none => .ok none := by
  have digits : isdigit key :=
    isdigit_of_decimalNumber (by rw [decimalNumber_of_int read, Option.isSome_some])
  rw [extract, if_pos digits, read]
  by_cases inside : index < items.length
  · simp [inside]
  · simp [inside]

/-- A key of digits that is not read as a number raises an error at a list. -/
theorem extract_unread {key : String} (digits : isdigit key) (unread : int key = none)
    (items : List Json) : extract (.array items) (key :: remainingKeys) = .error .value := by
  rw [extract, if_pos digits, unread]

theorem extract_each {key : String} (noDigits : isdigit key = false) (items : List Json) :
    extract (.array items) (key :: remainingKeys) =
      (extractEach items key remainingKeys).map fun parts =>
        some (.array (parts.filterMap id)) := by
  rw [extract, if_neg (Bool.eq_false_iff.mp noDigits)]

end

end OdooConnector.Api
