import Mathlib.Data.Nat.Basic
import Mathlib.Data.Nat.Digits.Defs
import Mathlib.Tactic.Ring

/-!
# Timestamps as texts

A timestamp is written with numbers of fixed width, up to the second. Reading the text gives it back
without its microseconds.
-/

namespace OdooConnector

/-- The last decimal digits of a number, as many as asked for. -/
def fixedDigits : ℕ → ℕ → List Char
  | 0, _ => []
  | width + 1, number => fixedDigits width (number / 10) ++ [Nat.digitChar (number % 10)]

def digitValue (char : Char) : Option ℕ :=
  if char.isDigit then some (char.toNat - '0'.toNat) else none

/-- Read further digits of a number. -/
def readDigits (number : ℕ) : List Char → Option ℕ
  | [] => some number
  | char :: chars => (digitValue char).bind fun digit => readDigits (10 * number + digit) chars

theorem digitValue_digitChar {digit : ℕ} (small : digit < 10) :
    digitValue (Nat.digitChar digit) = some digit := by
  have all : ∀ digit : Fin 10, digitValue (Nat.digitChar digit) = some digit.val := by decide
  exact all ⟨digit, small⟩

theorem length_fixedDigits (width number : ℕ) : (fixedDigits width number).length = width := by
  induction width generalizing number with
  | zero => rfl
  | succ width induction => rw [fixedDigits, List.length_append, induction, List.length_singleton]

theorem readDigits_append (number : ℕ) (first second : List Char) :
    readDigits number (first ++ second) =
      (readDigits number first).bind fun number => readDigits number second := by
  induction first generalizing number with
  | nil => rfl
  | cons char first induction =>
      rw [List.cons_append, readDigits, readDigits]
      cases digitValue char with
      | none => rfl
      | some digit => exact induction (10 * number + digit)

/-- Written digits are read as the number that they are the last digits of. -/
theorem readDigits_fixedDigits (start width number : ℕ) (small : number < 10 ^ width) :
    readDigits start (fixedDigits width number) = some (start * 10 ^ width + number) := by
  induction width generalizing number with
  | zero =>
      have zero : number = 0 := by simpa using small
      simp [fixedDigits, readDigits, zero]
  | succ width induction =>
      have front : number / 10 < 10 ^ width := by
        rw [pow_succ] at small
        omega
      rw [fixedDigits, readDigits_append, induction (number / 10) front, Option.bind_some,
        readDigits, digitValue_digitChar (Nat.mod_lt number (by decide)), Option.bind_some,
        readDigits]
      have parts := Nat.div_add_mod number 10
      refine congrArg some ?_
      rw [pow_succ]
      calc 10 * (start * 10 ^ width + number / 10) + number % 10
          = start * (10 ^ width * 10) + (10 * (number / 10) + number % 10) := by ring
        _ = start * (10 ^ width * 10) + number := by rw [parts]

/-- Read a number of a fixed width. -/
def readNumber (width : ℕ) (chars : List Char) : Option (ℕ × List Char) :=
  if chars.length < width then none
  else (readDigits 0 (chars.take width)).map fun number => (number, chars.drop width)

def readChar (char : Char) : List Char → Option (List Char)
  | [] => none
  | head :: chars => if head = char then some chars else none

theorem readNumber_fixedDigits (width number : ℕ) (small : number < 10 ^ width)
    (rest : List Char) :
    readNumber width (fixedDigits width number ++ rest) = some (number, rest) := by
  have length := length_fixedDigits width number
  have wide : ¬ (fixedDigits width number ++ rest).length < width := by
    rw [List.length_append, length]
    omega
  rw [readNumber, if_neg wide, List.take_append_of_le_length length.ge,
    List.take_of_length_le length.le, List.drop_append_of_le_length length.ge,
    List.drop_of_length_le length.le, readDigits_fixedDigits 0 width number small]
  simp

theorem readChar_cons (char : Char) (rest : List Char) : readChar char (char :: rest) = some rest :=
  if_pos rfl

def isLeapYear (year : ℕ) : Bool := year % 4 = 0 && (year % 100 ≠ 0 || year % 400 = 0)

def daysInMonth (year month : ℕ) : ℕ :=
  if month = 2 then if isLeapYear year then 29 else 28
  else if month ∈ [4, 6, 9, 11] then 30 else 31

/-- A date and a time of day. -/
structure Timestamp where
  year : ℕ
  month : ℕ
  day : ℕ
  hour : ℕ
  minute : ℕ
  second : ℕ
  microsecond : ℕ
  validDate : 1 ≤ year ∧ year ≤ 9999 ∧ 1 ≤ month ∧ month ≤ 12 ∧ 1 ≤ day ∧
    day ≤ daysInMonth year month
  validTime : hour < 24 ∧ minute < 60 ∧ second < 60 ∧ microsecond < 1000000
deriving DecidableEq

namespace Timestamp

/-- Without the fraction of its second. -/
def truncate (time : Timestamp) : Timestamp :=
  { time with
    microsecond := 0
    validTime := ⟨time.validTime.1, time.validTime.2.1, time.validTime.2.2.1, by decide⟩ }

/-- From the year down to the microsecond. -/
def parts (time : Timestamp) : List ℕ :=
  [time.year, time.month, time.day, time.hour, time.minute, time.second, time.microsecond]

def latest (time other : Timestamp) : Timestamp := if time.parts < other.parts then other else time

/-- `%Y-%m-%d %H:%M:%S` -/
def format (time : Timestamp) : String :=
  String.ofList (fixedDigits 4 time.year ++ '-' :: (fixedDigits 2 time.month ++ '-' ::
    (fixedDigits 2 time.day ++ ' ' :: (fixedDigits 2 time.hour ++ ':' ::
      (fixedDigits 2 time.minute ++ ':' :: (fixedDigits 2 time.second ++ []))))))

def parse (text : String) : Option Timestamp := do
  let (year, chars) ← readNumber 4 text.toList
  let (month, chars) ← readNumber 2 (← readChar '-' chars)
  let (day, chars) ← readNumber 2 (← readChar '-' chars)
  let (hour, chars) ← readNumber 2 (← readChar ' ' chars)
  let (minute, chars) ← readNumber 2 (← readChar ':' chars)
  let (second, chars) ← readNumber 2 (← readChar ':' chars)
  if validDate : 1 ≤ year ∧ year ≤ 9999 ∧ 1 ≤ month ∧ month ≤ 12 ∧ 1 ≤ day ∧
      day ≤ daysInMonth year month then
    if validTime : hour < 24 ∧ minute < 60 ∧ second < 60 ∧ 0 < 1000000 then
      if chars = [] then some ⟨year, month, day, hour, minute, second, 0, validDate, validTime⟩
      else none
    else none
  else none

theorem daysInMonth_lt (year month : ℕ) : daysInMonth year month < 100 := by
  rw [daysInMonth]
  split
  · split <;> decide
  · split <;> decide

theorem parse_format (time : Timestamp) : parse time.format = some time.truncate := by
  obtain ⟨year, month, day, hour, minute, second, microsecond, validDate, validTime⟩ := time
  have days := daysInMonth_lt year month
  have time : hour < 24 ∧ minute < 60 ∧ second < 60 ∧ 0 < 1000000 :=
    ⟨validTime.1, validTime.2.1, validTime.2.2.1, by decide⟩
  have yearRead := readNumber_fixedDigits 4 year (by omega)
  have monthRead := readNumber_fixedDigits 2 month (by omega)
  have dayRead := readNumber_fixedDigits 2 day (by omega)
  have hourRead := readNumber_fixedDigits 2 hour (by omega)
  have minuteRead := readNumber_fixedDigits 2 minute (by omega)
  have secondRead := readNumber_fixedDigits 2 second (by omega)
  -- The parts are read one after another.
  rw [parse, format, String.toList_ofList, yearRead]
  dsimp only [bind, Option.bind]
  rw [readChar_cons]
  dsimp only
  rw [monthRead]
  dsimp only
  rw [readChar_cons]
  dsimp only
  rw [dayRead]
  dsimp only
  rw [readChar_cons]
  dsimp only
  rw [hourRead]
  dsimp only
  rw [readChar_cons]
  dsimp only
  rw [minuteRead]
  dsimp only
  rw [readChar_cons]
  dsimp only
  rw [secondRead]
  dsimp only
  rw [dif_pos validDate, dif_pos time, if_pos rfl]
  rfl

theorem truncate_eq_iff (time : Timestamp) : time.truncate = time ↔ time.microsecond = 0 := by
  constructor
  · intro same
    exact (congrArg microsecond same).symm
  · intro whole
    obtain ⟨year, month, day, hour, minute, second, microsecond, validDate, validTime⟩ := time
    cases whole
    rfl

end Timestamp

end OdooConnector
