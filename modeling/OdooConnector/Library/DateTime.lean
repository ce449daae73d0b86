import Mathlib.Algebra.BigOperators.Group.Finset.Basic
import Mathlib.Order.Interval.Finset.Nat
import OdooConnector.Library.Calendar

/-!
# Moments with an offset

A date and a time of day stand alone or with an offset from UTC. Their ISO 8601 text is read back,
where the offset is one of whole minutes.
-/

namespace OdooConnector

/-- An offset from UTC in microseconds, of less than a day. -/
structure UtcOffset where
  micros : ℤ
  small : micros.natAbs < 86400000000
deriving DecidableEq

namespace UtcOffset

/-- `+HH:MM`, and the rest of the minute unless there is none. -/
def chars (offset : UtcOffset) : List Char :=
  let size := offset.micros.natAbs
  (if offset.micros < 0 then '-' else '+') :: (fixedDigits 2 (size / 3600000000) ++ ':' ::
    (fixedDigits 2 (size / 60000000 % 60) ++
      if size % 60000000 = 0 then []
      else ':' :: (fixedDigits 2 (size / 1000000 % 60) ++
        if size % 1000000 = 0 then [] else '.' :: fixedDigits 6 (size % 1000000))))

def WholeMinutes (offset : UtcOffset) : Prop := offset.micros.natAbs % 60000000 = 0

instance (offset : UtcOffset) : Decidable offset.WholeMinutes := by
  unfold WholeMinutes
  infer_instance

/-- An offset of a number of minutes before or after UTC. -/
def ofMinutes (before : Bool) (minutes : ℕ) : Option UtcOffset :=
  let micros : ℤ := if before then -(minutes * 60000000) else minutes * 60000000
  if small : micros.natAbs < 86400000000 then some ⟨micros, small⟩ else none

theorem ofMinutes_size {offset : UtcOffset} (whole : offset.WholeMinutes) :
    ofMinutes (offset.micros < 0) (offset.micros.natAbs / 60000000) = some offset := by
  obtain ⟨micros, small⟩ := offset
  rw [WholeMinutes] at whole
  dsimp only at whole ⊢
  have same : (if decide (micros < 0) = true then -(((micros.natAbs / 60000000 : ℕ) : ℤ) * 60000000)
      else ((micros.natAbs / 60000000 : ℕ) : ℤ) * 60000000) = micros := by
    simp only [decide_eq_true_eq]
    split <;> omega
  simp only [ofMinutes, same]
  rw [dif_pos small]

end UtcOffset

/-- An offset of hours and minutes, to the end of the text. -/
def readOffset (before : Bool) (chars : List Char) : Option UtcOffset := do
  let (hours, chars) ← readNumber 2 chars
  let (minutes, chars) ← readNumber 2 (← readChar ':' chars)
  if chars = [] ∧ minutes < 60 then UtcOffset.ofMinutes before (hours * 60 + minutes) else none

theorem readOffset_minutes (before : Bool) {hours minutes : ℕ} (below : hours < 100)
    (within : minutes < 60) :
    readOffset before (fixedDigits 2 hours ++ ':' :: fixedDigits 2 minutes) =
      UtcOffset.ofMinutes before (hours * 60 + minutes) := by
  have hoursRead := readNumber_fixedDigits 2 hours (by omega)
  have minutesRead := readNumber_fixedDigits 2 minutes (by omega) []
  rw [List.append_nil] at minutesRead
  rw [readOffset, hoursRead]
  dsimp only [bind, Option.bind]
  rw [readChar_cons]
  dsimp only
  rw [minutesRead]
  dsimp only
  rw [if_pos ⟨rfl, within⟩]

/-- Nothing, or the sign of an offset and the offset. -/
def readZone : List Char → Option (Option UtcOffset)
  | [] => some none
  | '+' :: chars => (readOffset false chars).map some
  | '-' :: chars => (readOffset true chars).map some
  | _ => none

theorem readZone_chars {offset : UtcOffset} (whole : offset.WholeMinutes) :
    readZone offset.chars = some (some offset) := by
  have small := offset.small
  have read := @readOffset_minutes (offset.micros < 0) (offset.micros.natAbs / 3600000000)
    (offset.micros.natAbs / 60000000 % 60) (by omega) (by omega)
  have minutes : offset.micros.natAbs / 3600000000 * 60 + offset.micros.natAbs / 60000000 % 60 =
      offset.micros.natAbs / 60000000 := by omega
  rw [minutes, UtcOffset.ofMinutes_size whole] at read
  rw [UtcOffset.WholeMinutes] at whole
  rw [UtcOffset.chars, if_pos whole, List.append_nil]
  by_cases negative : offset.micros < 0
  · rw [decide_eq_true negative] at read
    rw [if_pos negative, readZone, read, Option.map_some]
  · rw [decide_eq_false negative] at read
    rw [if_neg negative, readZone, read, Option.map_some]

def readDate (chars : List Char) : Option (Date × List Char) := do
  let (year, chars) ← readNumber 4 chars
  let (month, chars) ← readNumber 2 (← readChar '-' chars)
  let (day, chars) ← readNumber 2 (← readChar '-' chars)
  if valid : 1 ≤ year ∧ year ≤ 9999 ∧ 1 ≤ month ∧ month ≤ 12 ∧ 1 ≤ day ∧
      day ≤ daysInMonth year month then some (⟨year, month, day, valid⟩, chars) else none

theorem readDate_chars (date : Date) (rest : List Char) :
    readDate (date.chars ++ rest) = some (date, rest) := by
  obtain ⟨year, month, day, valid⟩ := date
  have days := daysInMonth_le year month
  have yearRead := readNumber_fixedDigits 4 year (by omega)
  have monthRead := readNumber_fixedDigits 2 month (by omega)
  have dayRead := readNumber_fixedDigits 2 day (by omega)
  simp only [Date.chars, List.append_assoc, List.cons_append]
  rw [readDate, yearRead]
  dsimp only [bind, Option.bind]
  rw [readChar_cons]
  dsimp only
  rw [monthRead]
  dsimp only
  rw [readChar_cons]
  dsimp only
  rw [dayRead]
  dsimp only
  rw [dif_pos valid]

/-- The microseconds, where there is a point. -/
def readFraction : List Char → Option (ℕ × List Char)
  | '.' :: chars => readNumber 6 chars
  | chars => some (0, chars)

def readTime (date : Date) (chars : List Char) : Option (Timestamp × List Char) := do
  let (hour, chars) ← readNumber 2 chars
  let (minute, chars) ← readNumber 2 (← readChar ':' chars)
  let (second, chars) ← readNumber 2 (← readChar ':' chars)
  let (microsecond, chars) ← readFraction chars
  if valid : hour < 24 ∧ minute < 60 ∧ second < 60 ∧ microsecond < 1000000 then
    some (⟨date.year, date.month, date.day, hour, minute, second, microsecond, date.valid, valid⟩,
      chars)
  else none

namespace Timestamp

/-- `HH:MM:SS`, with the microseconds, unless there are none. -/
def timeChars (time : Timestamp) : List Char :=
  fixedDigits 2 time.hour ++ ':' :: (fixedDigits 2 time.minute ++ ':' ::
    (fixedDigits 2 time.second ++
      if time.microsecond = 0 then [] else '.' :: fixedDigits 6 time.microsecond))

/-- Microseconds since the day before the first one. -/
def micros (time : Timestamp) : ℤ :=
  let years := time.year - 1
  let days := 365 * years + years / 4 - years / 100 + years / 400 +
    ∑ month ∈ Finset.Ico 1 time.month, daysInMonth time.year month + time.day
  (((days * 24 + time.hour) * 60 + time.minute) * 60 + time.second) * 1000000 + time.microsecond

end Timestamp

theorem readFraction_of_head {chars : List Char} (other : chars.head? ≠ some '.') :
    readFraction chars = some (0, chars) := by
  cases chars with
  | nil => rfl
  | cons char chars =>
      have different : char ≠ '.' := by simpa using other
      rw [readFraction]
      intro tail same
      exact different (List.cons.inj same).1

theorem readTime_timeChars (time : Timestamp) {rest : List Char} (other : rest.head? ≠ some '.') :
    readTime time.date (time.timeChars ++ rest) = some (time, rest) := by
  have valid := time.validTime
  have hourRead := readNumber_fixedDigits 2 time.hour (by omega)
  have minuteRead := readNumber_fixedDigits 2 time.minute (by omega)
  have secondRead := readNumber_fixedDigits 2 time.second (by omega)
  have microRead := readNumber_fixedDigits 6 time.microsecond (by omega)
  have fraction : readFraction ((if time.microsecond = 0 then []
      else '.' :: fixedDigits 6 time.microsecond) ++ rest) = some (time.microsecond, rest) := by
    by_cases none : time.microsecond = 0
    · rw [if_pos none, List.nil_append, readFraction_of_head other, none]
    · rw [if_neg none, List.cons_append, readFraction, microRead]
  simp only [Timestamp.timeChars, List.append_assoc, List.cons_append]
  rw [readTime, hourRead]
  dsimp only [bind, Option.bind]
  rw [readChar_cons]
  dsimp only
  rw [minuteRead]
  dsimp only
  rw [readChar_cons]
  dsimp only
  rw [secondRead]
  dsimp only
  rw [fraction]
  dsimp only
  rw [dif_pos valid]
  rfl

/-- A date and a time of day, alone or with an offset from UTC. -/
structure DateTime where
  time : Timestamp
  offset : Option UtcOffset
deriving DecidableEq

namespace DateTime

def zoneChars (moment : DateTime) : List Char := moment.offset.elim [] UtcOffset.chars

def isoformat (moment : DateTime) : String :=
  String.ofList (moment.time.date.chars ++ 'T' :: (moment.time.timeChars ++ moment.zoneChars))

/-- Comparison: by the wall clock where there are no offsets, and in UTC where there are. -/
def Same (moment other : DateTime) : Prop :=
  match moment.offset, other.offset with
  | none, none => moment.time = other.time
  | some offset, some second =>
      moment.time.micros - offset.micros = other.time.micros - second.micros
  | _, _ => False

theorem same_refl (moment : DateTime) : moment.Same moment := by
  obtain ⟨time, offset⟩ := moment
  cases offset <;> rfl

/-- The offset, if there is one, is one of whole minutes. -/
def WholeMinutes (moment : DateTime) : Prop := ∀ offset ∈ moment.offset, offset.WholeMinutes

def midnight (date : Date) : DateTime := ⟨.midnight date, none⟩

/-- A date, or a date and a time of day after a `T`. -/
def readIso (text : String) : Option DateTime := do
  let (date, chars) ← readDate text.toList
  match chars with
  | [] => some (midnight date)
  | 'T' :: chars =>
      let (time, chars) ← readTime date chars
      let offset ← readZone chars
      some ⟨time, offset⟩
  | _ => none

theorem readIso_date (date : Date) : readIso date.isoformat = some (midnight date) := by
  have read := readDate_chars date []
  rw [List.append_nil] at read
  rw [readIso, Date.isoformat, String.toList_ofList, read]
  rfl

theorem head_zoneChars (moment : DateTime) : moment.zoneChars.head? ≠ some '.' := by
  obtain ⟨time, offset⟩ := moment
  cases offset with
  | none => simp [zoneChars]
  | some offset =>
      rw [zoneChars, Option.elim_some, UtcOffset.chars, List.head?_cons]
      split <;> simp

theorem readZone_zoneChars {moment : DateTime} (whole : moment.WholeMinutes) :
    readZone moment.zoneChars = some moment.offset := by
  obtain ⟨time, offset⟩ := moment
  cases offset with
  | none => rfl
  | some offset => exact readZone_chars (whole offset rfl)

theorem readIso_isoformat {moment : DateTime} (whole : moment.WholeMinutes) :
    readIso moment.isoformat = some moment := by
  have timeRead := readTime_timeChars moment.time moment.head_zoneChars
  have zoneRead := readZone_zoneChars whole
  rw [readIso, isoformat, String.toList_ofList, readDate_chars]
  simp only [bind, Option.bind_some, timeRead, zoneRead]

end DateTime

end OdooConnector
