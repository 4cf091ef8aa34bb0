import CmakeDriver.Toml.Reader

/-!
# Dates and times

A date, a time, or both with a distance to universal time. Days exist in the calendar, hours are
below 24, minutes below 60, seconds at most 60; of a fraction the first nine digits count.
-/

namespace CmakeDriver

namespace Toml

/-- A day of the calendar. -/
structure Date where
  year : Nat
  month : Nat
  day : Nat
  deriving DecidableEq, Repr

/-- A time of day. -/
structure Time where
  hour : Nat
  minute : Nat
  second : Nat
  nanosecond : Nat
  deriving DecidableEq, Repr

/-- A distance to universal time. -/
inductive Offset where
  | universal
  | minutes (n : Int)
  deriving DecidableEq, Repr

/-- A date, a time, or both. -/
structure DateTime where
  date : Option Date
  time : Option Time
  offset : Option Offset := none
  deriving DecidableEq, Repr

/-- Whether a year has a leap day. -/
def isLeapYear (year : Nat) : Bool :=
  year % 4 = 0 && (year % 100 ≠ 0 || year % 400 = 0)

/-- How many days a month has. -/
def daysIn (year month : Nat) : Nat :=
  if month = 2 then if isLeapYear year then 29 else 28
  else if month = 4 ∨ month = 6 ∨ month = 9 ∨ month = 11 then 30
  else 31

/-! ## Text -/

/-- A number in at least `width` decimal digits. -/
def padded (width n : Nat) : String :=
  let ds := Nat.toDigits 10 n
  String.ofList (List.replicate (width - ds.length) '0' ++ ds)

/-- The digits of a fraction of a second, without zeros at the end. -/
def fractionText (nanosecond : Nat) : String :=
  if nanosecond = 0 then ""
  else
    let ds := (padded 9 nanosecond).toList.reverse.dropWhile (· = '0')
    "." ++ String.ofList ds.reverse

namespace Date

/-- A date as text. -/
def text (d : Date) : String :=
  padded 4 d.year ++ "-" ++ padded 2 d.month ++ "-" ++ padded 2 d.day

end Date

namespace Time

/-- A time as text. -/
def text (t : Time) : String :=
  padded 2 t.hour ++ ":" ++ padded 2 t.minute ++ ":" ++ padded 2 t.second
    ++ fractionText t.nanosecond

end Time

namespace Offset

/-- A distance to universal time as text. -/
def text : Offset → String
  | universal => "Z"
  | minutes n =>
    (if n < 0 then "-" else "+") ++ padded 2 (n.natAbs / 60) ++ ":" ++ padded 2 (n.natAbs % 60)

end Offset

namespace DateTime

/-- A date and time as text, with a `T` between them. -/
def text (d : DateTime) : String :=
  (match d.date with
    | some date => date.text
    | none => "")
  ++ (match d.date, d.time with
    | some _, some _ => "T"
    | _, _ => "")
  ++ (match d.time with
    | some time => time.text
    | none => "")
  ++ (match d.offset with
    | some offset => offset.text
    | none => "")

end DateTime

/-! ## Reading -/

/-- The number that decimal digits write. -/
def ofDecimalDigits (digits : List Char) : Nat :=
  digits.foldl (fun n c => 10 * n + (c.toNat - '0'.toNat)) 0

namespace Reader

/-- Takes a number of exactly `n` decimal digits that is not above `limit`. -/
def decimal (n limit : Nat) : Reader Nat := do
  let ds ← exactly n Char.isDigit
  let value := ofDecimalDigits ds
  if value ≤ limit then pure value else fail

/-- Whether a time of day comes next: two digits and a colon. -/
def seesTime : Reader Bool := fun s =>
  some ((s.take 2).length = 2 && (s.take 2).all Char.isDigit && (s.drop 2).head? = some ':', s)

/-- Whether a date comes next: four digits and a dash. -/
def seesDate : Reader Bool := fun s =>
  some ((s.take 4).length = 4 && (s.take 4).all Char.isDigit && (s.drop 4).head? = some '-', s)

/-- Takes the fraction of a second, if a point and a digit come next. -/
def fraction : Reader Nat := do
  let digits ← optional do
    char '.'
    takeWhile1 Char.isDigit
  match digits with
  | none => pure 0
  | some ds =>
    let ds := ds.take 9
    pure (ofDecimalDigits ds * Nat.pow 10 (9 - ds.length))

/-- Takes a time of day. -/
def time : Reader Time := do
  let hour ← decimal 2 23
  char ':'
  let minute ← decimal 2 59
  char ':'
  let second ← decimal 2 60
  let nanosecond ← fraction
  pure { hour, minute, second, nanosecond }

/-- Takes a date of the calendar. -/
def date : Reader Date := do
  let year ← decimal 4 9999
  char '-'
  let month ← decimal 2 12
  char '-'
  let day ← decimal 2 31
  if 1 ≤ month ∧ 1 ≤ day ∧ day ≤ daysIn year month then pure { year, month, day } else fail

/-- Takes a distance to universal time, if one comes next. -/
def offset : Reader (Option Offset) := do
  match ← peek with
  | some c =>
    if c = 'Z' ∨ c = 'z' then do
      let _ ← next
      pure (some .universal)
    else if c = '+' ∨ c = '-' then do
      let _ ← next
      let hours ← decimal 2 23
      char ':'
      let minutes ← decimal 2 59
      let n : Int := hours * 60 + minutes
      pure (some (.minutes (if c = '-' then -n else n)))
    else pure none
  | none => pure none

/-- Takes what stands between a date and a time, if a time follows it. -/
def dateTimeGap : Reader Unit := do
  let c ← next
  if c = 'T' ∨ c = 't' ∨ c = ' ' then
    if ← seesTime then pure () else fail
  else fail

/-- Takes a date, with a time if one follows. -/
def dateTime : Reader DateTime := do
  let day ← date
  match ← optional dateTimeGap with
  | none => pure { date := some day, time := none }
  | some _ => do
    let clock ← time
    let distance ← offset
    pure { date := some day, time := some clock, offset := distance }

end Reader

end Toml

end CmakeDriver
