import OdooConnector.Library.Timestamp

/-!
# Dates and ISO 8601 texts

A date is read back from its text, while the text that Python gives a timestamp, with a blank before
the time of day, is no ISO 8601 text in UTC.
-/

namespace OdooConnector

theorem daysInMonth_le (year month : ℕ) : daysInMonth year month ≤ 31 := by
  rw [daysInMonth]
  split
  · split <;> omega
  · split <;> omega

/-- A day of the calendar. -/
structure Date where
  year : ℕ
  month : ℕ
  day : ℕ
  valid : 1 ≤ year ∧ year ≤ 9999 ∧ 1 ≤ month ∧ month ≤ 12 ∧ 1 ≤ day ∧ day ≤ daysInMonth year month

namespace Date

theorem same_iff {date other : Date} :
    (date.year = other.year ∧ date.month = other.month ∧ date.day = other.day) ↔ date = other := by
  cases date
  cases other
  simp

instance : DecidableEq Date := fun _ _ => decidable_of_iff _ same_iff

/-- `YYYY-MM-DD` -/
def chars (date : Date) : List Char :=
  fixedDigits 4 date.year ++ '-' :: (fixedDigits 2 date.month ++ '-' :: (fixedDigits 2 date.day))

/-- `str` and `date.isoformat` -/
def isoformat (date : Date) : String := String.ofList date.chars

/-- `date.fromisoformat`; nothing stands for its `ValueError`. -/
def fromIsoformat (text : String) : Option Date := do
  let (year, chars) ← readNumber 4 text.toList
  let (month, chars) ← readNumber 2 (← readChar '-' chars)
  let (day, chars) ← readNumber 2 (← readChar '-' chars)
  if valid : 1 ≤ year ∧ year ≤ 9999 ∧ 1 ≤ month ∧ month ≤ 12 ∧ 1 ≤ day ∧
      day ≤ daysInMonth year month then
    if chars = [] then some ⟨year, month, day, valid⟩ else none
  else none

theorem fromIsoformat_isoformat (date : Date) : fromIsoformat date.isoformat = some date := by
  obtain ⟨year, month, day, valid⟩ := date
  have days := daysInMonth_le year month
  have yearRead := readNumber_fixedDigits 4 year (by omega)
  have monthRead := readNumber_fixedDigits 2 month (by omega)
  have dayRead := readNumber_fixedDigits 2 day (by omega) []
  rw [List.append_nil] at dayRead
  rw [fromIsoformat, isoformat, String.toList_ofList, chars, yearRead]
  dsimp only [bind, Option.bind]
  rw [readChar_cons]
  dsimp only
  rw [monthRead]
  dsimp only
  rw [readChar_cons]
  dsimp only
  rw [dayRead]
  dsimp only
  rw [dif_pos valid, if_pos rfl]

theorem isoformat_ne_empty (date : Date) : date.isoformat ≠ "" := by
  intro empty
  have length := congrArg (fun text => text.toList.length) empty
  simp [isoformat, chars] at length

end Date

/-! ## Reading a time as `strptime` does -/

/-- A number of one or two digits within bounds. -/
def readShort (least most : ℕ) (chars : List Char) : Option (ℕ × List Char) :=
  let digits := chars.takeWhile Char.isDigit
  if digits.length = 1 ∨ digits.length = 2 then
    (readDigits 0 digits).bind fun number =>
      if least ≤ number ∧ number ≤ most then some (number, chars.dropWhile Char.isDigit) else none
  else none

/-- `%d`, which also takes a blank before one digit. -/
def readDay : List Char → Option (ℕ × List Char)
  | ' ' :: char :: chars => (readShort 1 9 [char]).map fun day => (day.1, chars)
  | chars => readShort 1 31 chars

/-- A letter of the format, which is matched in either case. -/
def readLetter (letter : Char) (chars : List Char) : Option (List Char) :=
  (readChar letter chars).or (readChar letter.toLower chars)

theorem isDigit_of_mem_fixedDigits {width number : ℕ} :
    ∀ char ∈ fixedDigits width number, char.isDigit := by
  have digit : ∀ digit : Fin 10, (Nat.digitChar digit).isDigit := by decide
  induction width generalizing number with
  | zero => simp [fixedDigits]
  | succ width induction =>
      intro char member
      rw [fixedDigits, List.mem_append, List.mem_singleton] at member
      cases member with
      | inl front => exact induction char front
      | inr last =>
          rw [last]
          exact digit ⟨number % 10, Nat.mod_lt number (by decide)⟩

theorem readShort_fixedDigits {least most number : ℕ} (small : number < 100)
    (within : least ≤ number ∧ number ≤ most) {stop : Char} (other : stop.isDigit = false)
    (rest : List Char) :
    readShort least most (fixedDigits 2 number ++ stop :: rest) = some (number, stop :: rest) := by
  have digits := @isDigit_of_mem_fixedDigits 2 number
  have taken : (fixedDigits 2 number ++ stop :: rest).takeWhile Char.isDigit =
      fixedDigits 2 number := by
    rw [List.takeWhile_append_of_pos digits, List.takeWhile_cons_of_neg (by simp [other]),
      List.append_nil]
  have dropped : (fixedDigits 2 number ++ stop :: rest).dropWhile Char.isDigit = stop :: rest := by
    rw [List.dropWhile_append_of_pos digits, List.dropWhile_cons_of_neg (by simp [other])]
  have read := readDigits_fixedDigits 0 2 number small
  rw [Nat.zero_mul, Nat.zero_add] at read
  simp only [readShort, taken, dropped, length_fixedDigits, or_true, if_true, read,
    Option.bind_some, if_pos within]

theorem readDay_fixedDigits {day : ℕ} (within : 1 ≤ day ∧ day ≤ 31) {stop : Char}
    (other : stop.isDigit = false) (rest : List Char) :
    readDay (fixedDigits 2 day ++ stop :: rest) = some (day, stop :: rest) := by
  have read := readShort_fixedDigits (by omega) within other rest
  -- What is read begins with a digit.
  have front : fixedDigits 2 day =
      [Nat.digitChar (day / 10 % 10), Nat.digitChar (day % 10)] := rfl
  have digit := @isDigit_of_mem_fixedDigits 2 day
    (Nat.digitChar (day / 10 % 10)) (by simp [front])
  rw [front, List.cons_append] at read ⊢
  unfold readDay
  split
  · rename_i same
    rw [(List.cons.inj same).1] at digit
    exact absurd digit (by decide)
  · exact read

namespace Timestamp

/-- `datetime.combine(date, datetime.min.time())` -/
def midnight (date : Date) : Timestamp :=
  ⟨date.year, date.month, date.day, 0, 0, 0, 0, date.valid, by decide⟩

def date (time : Timestamp) : Date := ⟨time.year, time.month, time.day, time.validDate⟩

/-- `str`: with the microseconds, unless there are none. -/
def text (time : Timestamp) : String :=
  String.ofList (time.date.chars ++ ' ' :: (fixedDigits 2 time.hour ++ ':' ::
    (fixedDigits 2 time.minute ++ ':' :: (fixedDigits 2 time.second ++
      if time.microsecond = 0 then [] else '.' :: fixedDigits 6 time.microsecond))))

theorem text_ne_empty (time : Timestamp) : time.text ≠ "" := by
  intro empty
  have length := congrArg (fun text => text.toList.length) empty
  simp [text, Date.chars] at length

/-- `datetime.strptime` with the format `%Y-%m-%dT%H:%M:%SZ`; nothing stands for its
`ValueError`. -/
def parseUtc (text : String) : Option Timestamp := do
  let (year, chars) ← readNumber 4 text.toList
  let (month, chars) ← readShort 1 12 (← readChar '-' chars)
  let (day, chars) ← readDay (← readChar '-' chars)
  let (hour, chars) ← readShort 0 23 (← readLetter 'T' chars)
  let (minute, chars) ← readShort 0 59 (← readChar ':' chars)
  let (second, chars) ← readShort 0 59 (← readChar ':' chars)
  let chars ← readLetter 'Z' chars
  if validDate : 1 ≤ year ∧ year ≤ 9999 ∧ 1 ≤ month ∧ month ≤ 12 ∧ 1 ≤ day ∧
      day ≤ daysInMonth year month then
    if validTime : hour < 24 ∧ minute < 60 ∧ second < 60 ∧ 0 < 1000000 then
      if chars = [] then some ⟨year, month, day, hour, minute, second, 0, validDate, validTime⟩
      else none
    else none
  else none

/-- A blank stands where the format has its `T`. -/
theorem parseUtc_text (time : Timestamp) : parseUtc time.text = none := by
  have valid := time.validDate
  have days := daysInMonth_le time.year time.month
  have yearRead := readNumber_fixedDigits 4 time.year (by omega)
  have monthRead := @readShort_fixedDigits 1 12 time.month (by omega) (by omega) '-' rfl
  have dayRead := @readDay_fixedDigits time.day (by omega) ' ' rfl
  rw [parseUtc, text, String.toList_ofList, Date.chars, date]
  simp only [List.append_assoc, List.cons_append]
  rw [yearRead]
  dsimp only [bind, Option.bind]
  rw [readChar_cons]
  dsimp only
  rw [monthRead]
  dsimp only
  rw [readChar_cons]
  dsimp only
  rw [dayRead]
  rfl

end Timestamp

end OdooConnector
