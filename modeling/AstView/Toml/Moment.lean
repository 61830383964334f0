import AstView.Toml.Text

/-!
# Dates and times in TOML

A moment is a date, a time, or a date and a time with or without an offset. It is checked
against the calendar and kept as text: two digits for each part and four for the year, a `T`
before the time, a fraction of a second cut to nine digits and without zeros at its end, and
`Z` or a signed offset.
-/
namespace AstView.Toml

/-- A number of a fixed count of digits within bounds. -/
def part (count low high : Nat) : Scan Nat := do
  let found ← exactly isDigit count
  let value := numberOf 10 found
  Scan.guarded (decide (low ≤ value) && decide (value ≤ high))
  return value

/-- Whether a year has a 29th of February. -/
def isLeap (year : Nat) : Bool := year % 4 == 0 && (year % 100 != 0 || year % 400 == 0)

/-- How many days a month has. -/
def daysIn (year month : Nat) : Nat :=
  if month = 2 then (if isLeap year then 29 else 28)
  else if month = 4 ∨ month = 6 ∨ month = 9 ∨ month = 11 then 30
  else 31

/-- A number with zeros in front up to a width. -/
def padded (width value : Nat) : List Char :=
  let found := Nat.toDigits 10 value
  List.replicate (width - found.length) '0' ++ found

/-- A date. -/
def date : Scan (List Char) := do
  let year ← part 4 0 9999
  let _ ← Scan.char '-'
  let month ← part 2 1 12
  let _ ← Scan.char '-'
  let day ← part 2 1 31
  Scan.guarded (decide (day ≤ daysIn year month))
  return padded 4 year ++ '-' :: padded 2 month ++ '-' :: padded 2 day

/-- A fraction of a second, cut to nine digits. -/
def secondFraction : Scan (List Char) := do
  let _ ← Scan.char '.'
  let found ← Scan.spanSome isDigit
  let kept := ((found.take 9).reverse.dropWhile (· == '0')).reverse
  return if kept.isEmpty then [] else '.' :: kept

/-- A time of day, which may have a leap second. -/
def time : Scan (List Char) := do
  let hour ← part 2 0 23
  let _ ← Scan.char ':'
  let minute ← part 2 0 59
  let _ ← Scan.char ':'
  let second ← part 2 0 60
  let rest ← Scan.maybe secondFraction
  return padded 2 hour ++ ':' :: padded 2 minute ++ ':' :: padded 2 second ++ rest.getD []

/-- An offset from universal time; an offset of nothing has a plus. -/
def offset : Scan (List Char) :=
  Scan.either
    (do
      let _ ← Scan.one fun char => char == 'Z' || char == 'z'
      return ['Z'])
    (do
      let mark ← Scan.one fun char => char == '+' || char == '-'
      let hour ← part 2 0 23
      let _ ← Scan.char ':'
      let minute ← part 2 0 59
      let mark := if hour = 0 ∧ minute = 0 then '+' else mark
      return mark :: padded 2 hour ++ ':' :: padded 2 minute)

/-- The time after a date, with an offset if there is one. -/
def timeAfterDate : Scan (List Char) := do
  let _ ← Scan.one fun char => char == 'T' || char == 't' || char == ' '
  let clock ← time
  let zone ← Scan.maybe offset
  return 'T' :: clock ++ zone.getD []

/-- A date, a time or both. -/
def moment : Scan String :=
  Scan.either
    (do
      let day ← date
      let rest ← Scan.maybe timeAfterDate
      return String.ofList (day ++ rest.getD []))
    (do return String.ofList (← time))

end AstView.Toml
