import LiveConfig.Text.Decimal

/-! Points in time written as RFC 3339 timestamps, in milliseconds from 1970-01-01T00:00:00Z.

A timestamp has a date of the Gregorian calendar extended to the years 0000 to 9999, a time of day
with an optional fraction of any length, and an offset from universal time. The separator of date
and time is `T`, `t` or a blank, and `Z` or `z` is the offset zero. A second may be 60; it counts as
one more than 59. Fractions below a millisecond are dropped, towards the past. -/
namespace LiveConfig.Instant

/-- Exactly `count` digits at the front of a text. -/
def readDigits? (count : Nat) (cs : List Char) : Option (Nat × List Char) :=
  let ds := cs.take count
  if ds.length = count && ds.all Char.isDigit then some (Decimal.value ds, cs.drop count) else none

def readChar? (c : Char) : List Char → Option (List Char)
  | d :: rest => if c = d then some rest else none
  | [] => none

def isLeap (year : Nat) : Bool := year % 4 = 0 && (year % 100 ≠ 0 || year % 400 = 0)

def daysInMonth (year month : Nat) : Nat :=
  match month with
  | 2 => if isLeap year then 29 else 28
  | 4 | 6 | 9 | 11 => 30
  | _ => 31

/-- Days before the first of January of a year, from that of the year 0. -/
def daysBeforeYear (year : Nat) : Nat :=
  365 * year + (year + 3) / 4 - (year + 99) / 100 + (year + 399) / 400

def daysBeforeMonth (year month : Nat) : Nat :=
  (List.range (month - 1)).foldl (fun days m => days + daysInMonth year (m + 1)) 0

/-- Days from 1970-01-01. -/
def dayNumber (year month day : Nat) : Int :=
  ((daysBeforeYear year + daysBeforeMonth year month + (day - 1) : Nat) : Int) - daysBeforeYear 1970

structure Date where
  year : Nat
  month : Nat
  day : Nat

def Date.isValid (d : Date) : Bool :=
  1 ≤ d.month && d.month ≤ 12 && 1 ≤ d.day && d.day ≤ daysInMonth d.year d.month

def readDate? (cs : List Char) : Option (Date × List Char) := do
  let (year, rest) ← readDigits? 4 cs
  let rest ← readChar? '-' rest
  let (month, rest) ← readDigits? 2 rest
  let rest ← readChar? '-' rest
  let (day, rest) ← readDigits? 2 rest
  let date : Date := ⟨year, month, day⟩
  if date.isValid then some (date, rest) else none

def readSeparator? : List Char → Option (List Char)
  | c :: rest => if c = 'T' || c = 't' || c = ' ' then some rest else none
  | [] => none

/-- Milliseconds of a fraction of a second, which has at least one digit. -/
def readFraction? : List Char → Option (Nat × List Char)
  | '.' :: rest =>
    let (ds, rest) := Decimal.spanDigits rest
    if ds.isEmpty then none else some (Decimal.value ((ds ++ ['0', '0']).take 3), rest)
  | rest => some (0, rest)

/-- Milliseconds from midnight. -/
def readTime? (cs : List Char) : Option (Nat × List Char) := do
  let (hour, rest) ← readDigits? 2 cs
  let rest ← readChar? ':' rest
  let (minute, rest) ← readDigits? 2 rest
  let rest ← readChar? ':' rest
  let (second, rest) ← readDigits? 2 rest
  let (fraction, rest) ← readFraction? rest
  if hour ≤ 23 && minute ≤ 59 && second ≤ 60 then
    some (((hour * 60 + minute) * 60 + second) * 1000 + fraction, rest)
  else none

/-- The sign of an offset, which may be the minus sign of typography. -/
def readSign? : List Char → Option (Bool × List Char)
  | '+' :: rest => some (false, rest)
  | '-' :: rest => some (true, rest)
  | '\u2212' :: rest => some (true, rest)
  | _ => none

/-- Minutes ahead of universal time. -/
def readOffset? : List Char → Option (Int × List Char)
  | 'Z' :: rest => some (0, rest)
  | 'z' :: rest => some (0, rest)
  | cs => do
    let (behind, rest) ← readSign? cs
    let (hours, rest) ← readDigits? 2 rest
    let rest ← readChar? ':' rest
    let (minutes, rest) ← readDigits? 2 rest
    if hours ≤ 23 && minutes ≤ 59 then
      let total : Int := ((hours * 60 + minutes : Nat) : Int)
      some (if behind then -total else total, rest)
    else none

/-- Milliseconds of a timestamp that is the whole text. -/
def read? (cs : List Char) : Option Int := do
  let (date, rest) ← readDate? cs
  let rest ← readSeparator? rest
  let (time, rest) ← readTime? rest
  let (offset, rest) ← readOffset? rest
  if rest.isEmpty then
    some (dayNumber date.year date.month date.day * 86400000 + time - offset * 60000)
  else none

end LiveConfig.Instant
