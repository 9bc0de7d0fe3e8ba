import Perimeter.Toml.Number

/-!
# `Perimeter.Toml.Moment`: dates and times of day

A date has four, two and two digits between hyphens and must be a day of the calendar.
A time of day has hours, minutes and seconds of two digits between colons, the seconds
up to sixty, and perhaps a fraction. A date and a time stand together with a `T` or a
space between them and may have an offset.

* `moment?`: the reader.
-/

set_option autoImplicit false

namespace Perimeter.Toml

/-- Reads a number of exactly so many decimal digits. -/
def fixed? (count : Nat) : Scanner Nat := fun cs =>
  let digits := cs.take count
  if digits.length = count && digits.all (isDigit 10) then
    some (numberOf 10 digits, cs.drop count)
  else none

/-- The days of a month. -/
def daysIn (year month : Nat) : Nat :=
  if month = 2 then
    if year % 4 = 0 ∧ (year % 100 ≠ 0 ∨ year % 400 = 0) then 29 else 28
  else if [4, 6, 9, 11].contains month then 30
  else 31

/-- Reads a date. -/
def date? (cs : List Char) : Option (List Char) := do
  let (year, rest) ← fixed? 4 cs
  let (month, rest) ← fixed? 2 (← expect '-' rest)
  let (day, rest) ← fixed? 2 (← expect '-' rest)
  if 1 ≤ month && month ≤ 12 && 1 ≤ day && day ≤ daysIn year month then some rest else none

/-- Reads a time of day. -/
def timeOfDay? (cs : List Char) : Option (List Char) := do
  let (hour, rest) ← fixed? 2 cs
  let (minute, rest) ← fixed? 2 (← expect ':' rest)
  let (second, rest) ← fixed? 2 (← expect ':' rest)
  if hour ≤ 23 && minute ≤ 59 && second ≤ 60 then
    match rest with
    | '.' :: c :: more =>
      if isDigit 10 c then some (more.dropWhile (isDigit 10)) else some rest
    | _ => some rest
  else none

/-- Reads an offset. -/
def offset? : List Char → Option (List Char)
  | c :: rest =>
    if c = 'Z' || c = 'z' then some rest
    else if c = '+' || c = '-' then do
      let (hour, rest) ← fixed? 2 rest
      let (minute, rest) ← fixed? 2 (← expect ':' rest)
      if hour ≤ 23 && minute ≤ 59 then some rest else none
    else none
  | [] => none

/-- Reads what may follow a date: a time of day, perhaps with an offset. -/
def timeBehindDate? : List Char → Option (List Char)
  | c :: rest =>
    if c = 'T' || c = 't' || c = ' ' then do
      let rest ← timeOfDay? rest
      return (offset? rest).getD rest
    else none
  | [] => none

/-- Reads a date, a time of day, or both, as they are written. -/
def moment? : Scanner String := fun cs =>
  match date? cs with
  | some rest =>
    let rest := (timeBehindDate? rest).getD rest
    some (taken cs rest, rest)
  | none => (timeOfDay? cs).map fun rest => (taken cs rest, rest)

end Perimeter.Toml
