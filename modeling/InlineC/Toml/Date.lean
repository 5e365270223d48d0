import InlineC.Toml.Number
import InlineC.Toml.Parse

/-!
# Dates and times in TOML

The reader takes a date or time token loosely, as a run of digits and separators. Its
fields are checked when it is decoded, before any question of where the value goes, the
same way numbers are.

A date is `YYYY-MM-DD` with a month from 1 to 12 and a day that the month has (February
has 29 in leap years). A time is `HH:MM:SS` with at most 23 hours, 59 minutes and 60
seconds, then an optional fraction of at least one digit. A local date and time joins
them with `T`, `t` or a space; an offset date and time then ends in `Z`, `z` or
`±HH:MM`, with at most 23 hours and 59 minutes of offset. Each error points at the bytes
that break the rule.
-/

namespace InlineC.Toml

/-- Whether a year is a leap year of the Gregorian calendar. -/
def isLeapYear (year : Nat) : Bool :=
  year % 4 == 0 && (year % 100 != 0 || year % 400 == 0)

/-- The number of days of a month, from 1 to 12, in a year. -/
def daysInMonth (month year : Nat) : Nat :=
  if month == 2 then (if isLeapYear year then 29 else 28)
  else if month == 4 || month == 6 || month == 9 || month == 11 then 30
  else 31

/-- Whether a year, month and day name a day of the calendar. -/
def isValidDate (year month day : Nat) : Bool :=
  0 < month && month < 13 && 0 < day && day ≤ daysInMonth month year

/-- The value of a field of decimal digits that starts at offset `start`; the first byte
that is not a digit is the error. -/
def fieldValue (start : Nat) (b : Bytes) : Except Located Nat :=
  go start 0 b
where
  /-- Read the digits from offset `pos`, with `acc` read so far. -/
  go (pos acc : Nat) : Bytes → Except Located Nat
    | [] => .ok acc
    | c :: rest =>
      if isDigitByte c then go (pos + 1) (acc * 10 + (c.toNat - 48)) rest
      else .error (errorFrom pos 1 "expected digit (0-9)")

/-- Check a date `YYYY-MM-DD` that starts at offset `start`. -/
def checkDate (start : Nat) (b : Bytes) : Except Located Unit := do
  if b.length != 10 || b[4]? != some (byte '-') || b[7]? != some (byte '-') then
    throw (errorFrom start b.length "dates are expected to have the format YYYY-MM-DD")
  let year ← fieldValue start (b.take 4)
  let month ← fieldValue (start + 5) ((b.drop 5).take 2)
  let day ← fieldValue (start + 8) ((b.drop 8).take 2)
  if !isValidDate year month day then throw (errorFrom start b.length "impossible date")

/-- The fraction after the seconds: `rest` starts at offset `start` and the point is its
first byte. Give what follows the digits. -/
def checkFraction (start : Nat) (rest : Bytes) : Except Located Bytes :=
  let digits := (rest.drop 1).takeWhile isDigitByte
  if digits.isEmpty then
    if rest.length > 1 then .error (errorFrom start 1 "need at least one digit after fraction point")
    else .error (errorFrom start 1 "nanoseconds need at least one digit")
  else .ok (rest.drop (1 + digits.length))

/-- Check a time `HH:MM:SS[.F]` that starts at offset `start`, and give what follows it
together with its offset. -/
def checkTime (start : Nat) (b : Bytes) : Except Located (Nat × Bytes) := do
  if b.length < 8 then
    throw (errorFrom start b.length "times are expected to have the format HH:MM:SS[.NNNNNN]")
  let hour ← fieldValue start (b.take 2)
  if hour > 23 then throw (errorFrom start 2 "hour cannot be greater 23")
  if b[2]? != some (byte ':') then
    throw (errorFrom (start + 2) 1 "expecting colon between hours and minutes")
  let minute ← fieldValue (start + 3) ((b.drop 3).take 2)
  if minute > 59 then throw (errorFrom (start + 3) 2 "minutes cannot be greater 59")
  if b[5]? != some (byte ':') then
    throw (errorFrom (start + 5) 1 "expecting colon between minutes and seconds")
  let second ← fieldValue (start + 6) ((b.drop 6).take 2)
  if second > 60 then throw (errorFrom (start + 6) 2 "seconds cannot be greater 60")
  let rest := b.drop 8
  if rest.head? == some (byte '.') then
    let after ← checkFraction (start + 8) rest
    pure (start + b.length - after.length, after)
  else pure (start + 8, rest)

/-- Check a local date and time, and give what follows it together with its offset. -/
def checkLocalDateTime (start : Nat) (b : Bytes) : Except Located (Nat × Bytes) := do
  if b.length < 11 then
    throw (errorFrom start b.length
      "local datetimes are expected to have the format YYYY-MM-DDTHH:MM:SS[.NNNNNNNNN]")
  checkDate start (b.take 10)
  let sep := b[10]?
  if sep != some (byte 'T') && sep != some (byte ' ') && sep != some (byte 't') then
    throw (errorFrom (start + 10) 1 "datetime separator is expected to be T or a space")
  checkTime (start + 11) (b.drop 11)

/-- Check the offset that ends a date and time: `Z`, `z` or `±HH:MM`. -/
def checkOffset (start : Nat) (b : Bytes) : Except Located Unit := do
  match b with
  | [] => throw (errorFrom start 0 "date time should have a timezone")
  | c :: rest =>
    if c == byte 'Z' || c == byte 'z' then
      if !rest.isEmpty then
        throw (errorFrom (start + 1) rest.length "extra bytes at the end of the timezone")
    else
      if b.length != 6 then throw (errorFrom start b.length "invalid date-time timezone")
      if c != byte '+' && c != byte '-' then
        throw (errorFrom start 1 "invalid timezone offset character")
      if b[3]? != some (byte ':') then throw (errorFrom (start + 3) 1 "expected a : separator")
      let hours ← fieldValue (start + 1) ((b.drop 1).take 2)
      if hours > 23 then throw (errorFrom start 1 "invalid timezone offset hours")
      let minutes ← fieldValue (start + 4) ((b.drop 4).take 2)
      if minutes > 59 then throw (errorFrom start 1 "invalid timezone offset minutes")

/-- Check a date or time token of a form, which starts at offset `start`. -/
def checkDateTime (form : DateForm) (text : Bytes) (start : Nat) : Except Located Unit := do
  match form with
  | .localDate => checkDate start text
  | .localTime =>
    let (pos, rest) ← checkTime start text
    if !rest.isEmpty then
      throw (errorFrom pos rest.length "extra characters at the end of a local time")
  | .localDateTime =>
    let (pos, rest) ← checkLocalDateTime start text
    if !rest.isEmpty then
      throw (errorFrom pos rest.length "extra characters at the end of a local date time")
  | .offsetDateTime =>
    let (pos, rest) ← checkLocalDateTime start text
    checkOffset pos rest

end InlineC.Toml
