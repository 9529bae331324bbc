import BuildHook.Decimal.Nearest
import BuildHook.Json.Value
import BuildHook.Toml.Scan

/-!
# TOML numbers and dates

Integers have 64 bits and a sign; floating-point numbers are those of the binary64 format, with
infinities and NaN. Single underscores may stand between digits. A date, a time or both are checked
against the calendar and the clock and kept as text.
-/

namespace BuildHook.Toml

/-- The member under which the text of a date or time is kept. -/
def dateTimeMember : String := "date-time"

/-- A date or time, as the object that stands for it. -/
def dateTimeValue (shown : List Char) : Json :=
  .object [(dateTimeMember, .string (String.ofList shown))]

namespace Scan

/-- The value of a digit of a base up to sixteen. -/
def digitValue? (base : Nat) (c : Char) : Option Nat :=
  let n := c.toNat
  let value :=
    if 48 ≤ n && n ≤ 57 then some (n - 48)
    else if 97 ≤ n && n ≤ 102 then some (n - 87)
    else if 65 ≤ n && n ≤ 70 then some (n - 55)
    else none
  value.filter (· < base)

/-- Whether a character is a digit of a base. -/
def isDigitOf (base : Nat) (c : Char) : Bool := (digitValue? base c).isSome

/-- Whether every underscore is followed by something else than an underscore. -/
def hasNoGap : List Char → Bool
  | [] => true
  | c :: rest => (c != '_' || rest.head?.any (· != '_')) && hasNoGap rest

/-- Whether every underscore stands between two digits. -/
def wellSpaced (run : List Char) : Bool := run.head?.any (· != '_') && hasNoGap run

/-- Takes digits, which may have underscores between them. -/
def digits (base : Nat) : Scan (List Char) := do
  let run ← takeWhile fun c => isDigitOf base c || c = '_'
  if wellSpaced run then return run.filter (· != '_') else failure

/-- The number that digits stand for. -/
def valueOf (base : Nat) (ds : List Char) : Nat :=
  ds.foldl (fun value c => value * base + (digitValue? base c).getD 0) 0

/-- An integer in range. -/
def inRange (n : Int) : Scan Json :=
  if -0x8000000000000000 ≤ n && n < 0x8000000000000000 then return .int n else failure

/-- Takes a sign; the result tells whether it is a minus sign. -/
def sign? : Scan (Option Bool) := do
  match ← peek? with
  | some '-' => do
    let _ ← next
    return some true
  | some '+' => do
    let _ ← next
    return some false
  | _ => return none

/-- Digits of the whole part of a decimal number: no zero stands before another digit. -/
def wholeDigits : Scan (List Char) := do
  let ds ← digits 10
  if ds.length ≠ 1 && ds.head? = some '0' then failure else return ds

/-- Takes the exponent of a number, if one is next. -/
def exponent : Scan (Option Int) := do
  if (← peek?).any fun c => c = 'e' || c = 'E' then do
    let _ ← next
    let negative := (← sign?).getD false
    let n := valueOf 10 (← digits 10)
    return some (if negative then -n else n)
  else return none

/-- A floating-point number; what is too large is refused unless it is negative. -/
def float (negative : Bool) (significand : Nat) (power : Int) : Scan Json :=
  let x := Decimal.nearest significand power
  if x.isInf && !negative then failure else return .float (if negative then -x else x)

/-- Takes a decimal number. -/
def decimal (negative : Bool) : Scan Json := do
  let whole ← wholeDigits
  let fraction ← if ← text? "." then digits 10 else pure []
  match fraction, ← exponent with
  | [], none => inRange (if negative then -(valueOf 10 whole) else valueOf 10 whole)
  | fraction, power =>
    float negative (valueOf 10 (whole ++ fraction)) (power.getD 0 - fraction.length)

/-- Takes a number. -/
def number : Scan Json := do
  if ← text? "0x" then inRange (valueOf 16 (← digits 16))
  else if ← text? "0o" then inRange (valueOf 8 (← digits 8))
  else if ← text? "0b" then inRange (valueOf 2 (← digits 2))
  else do
    let negative := (← sign?).getD false
    if ← text? "inf" then return .float (if negative then -(1.0 / 0.0) else 1.0 / 0.0)
    else if ← text? "nan" then return .float (0.0 / 0.0)
    else decimal negative

/-- Takes a given number of decimal digits and checks the number they stand for. -/
def field (count : Nat) (valid : Nat → Bool) : Scan Nat := do
  let s ← get
  let ds := s.take count
  if ds.length = count && ds.all (isDigitOf 10) && valid (valueOf 10 ds) then do
    set (s.drop count)
    return valueOf 10 ds
  else failure

/-- The number of days of a month. -/
def daysOf (year month : Nat) : Nat :=
  if month = 2 then
    if year % 4 = 0 && (year % 100 ≠ 0 || year % 400 = 0) then 29 else 28
  else if month = 4 || month = 6 || month = 9 || month = 11 then 30
  else 31

/-- Passes a date. -/
def date : Scan Unit := do
  let year ← field 4 fun _ => true
  char '-'
  let month ← field 2 fun m => 1 ≤ m && m ≤ 12
  char '-'
  let _ ← field 2 fun d => 1 ≤ d && d ≤ daysOf year month

/-- Passes a time of day. A minute may have a leap second. -/
def time : Scan Unit := do
  let _ ← field 2 (· ≤ 23)
  char ':'
  let _ ← field 2 (· ≤ 59)
  char ':'
  let _ ← field 2 (· ≤ 60)
  if ← text? "." then
    if (← takeWhile (isDigitOf 10)).isEmpty then failure

/-- Passes an offset from universal time, if one is next. -/
def offset : Scan Unit := do
  match ← peek? with
  | some 'Z' | some 'z' => do
    let _ ← next
  | some '+' | some '-' => do
    let _ ← next
    let _ ← field 2 (· ≤ 23)
    char ':'
    let _ ← field 2 (· ≤ 59)
  | _ => return ()

/-- Passes the time that belongs to a date, if one is next. -/
def timeOfDate : Scan Unit :=
  (do
    let c ← next
    if c = 'T' || c = 't' || c = ' ' then do
      time
      offset
    else failure)
  <|> return ()

/-- Characters of dates and times. -/
def isDateTime (c : Char) : Bool := c.isDigit || "-:.+ TtZz".contains c

/-- What is next of such characters. -/
def dateTimeAhead : Scan (List Char) := do return (← get).takeWhile isDateTime

/-- Takes a date, a time or both. -/
def dateTime : Scan Json := do
  let ahead ← dateTimeAhead
  (do date; timeOfDate) <|> time
  return dateTimeValue (ahead.take (ahead.length - (← dateTimeAhead).length))

/-- Takes a number, a date or a time. -/
def numberOrDate : Scan Json := dateTime <|> number

end Scan

end BuildHook.Toml
