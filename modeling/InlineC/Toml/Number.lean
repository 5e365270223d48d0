import InlineC.Toml.Syntax
import InlineC.Num.Decimal
import InlineC.Text.Quoted

/-!
# Numbers in TOML

The reader takes number tokens loosely: a run of digits, signs, underscores, points and
exponent letters. Their value is checked when they are decoded, and that check comes
before any question of where the value goes. An integer that does not fit, or a float with
a misplaced underscore, fails even where no number is wanted.

Underscores must stand between digits. A decimal integer has no leading zero; a float's
integer part has none either, and its point stands between digits. Hexadecimal, octal and
binary integers follow their prefix. Integers must fit in 64 signed bits. A float that
overflows fails, while one that underflows becomes zero.
-/

namespace InlineC.Toml

/-- An error pointing at `len` bytes from an offset. -/
def errorFrom (start len : Nat) (msg : String) : Located := ⟨⟨start, len⟩, msg⟩

/-- The text of a number token for messages. -/
def numberText (b : Bytes) : String := Utf8.toStringLossy b

/-- The error a number conversion reports for text it cannot read. -/
def syntaxFailure (fn : String) (text : Bytes) : String :=
  "strconv." ++ fn ++ ": parsing " ++ Text.quote (numberText text) ++ ": invalid syntax"

/-- The error a number conversion reports for text whose value does not fit. -/
def rangeFailure (fn : String) (text : Bytes) : String :=
  "strconv." ++ fn ++ ": parsing " ++ Text.quote (numberText text) ++ ": value out of range"

/-- Drop the underscores between the digits of an integer's digits, which start at offset
`start` of the document. -/
def integerDigits (start : Nat) (b : Bytes) : Except Located Bytes :=
  let signed := b.head? == some (byte '+') || b.head? == some (byte '-')
  let body := if signed then b.tail else b
  let bodyStart := if signed then start + 1 else start
  if body.isEmpty then .ok b
  else if body.head? == some (byte '_') then
    .error (errorFrom bodyStart 1 "number cannot start with underscore")
  else if b.getLast? == some (byte '_') then
    .error (errorFrom (start + b.length - 1) 1 "number cannot end with underscore")
  else
    match b.findIdx? (· == byte '_') with
    | none => .ok b
    | some first => go (start + first + 1) (b.take first).reverse false (b.drop (first + 1))
where
  /-- Copy digits after the first underscore; `before` tells whether a digit followed the
  last underscore, and `pos` is the offset of the next byte. -/
  go (pos : Nat) (acc : Bytes) (before : Bool) : Bytes → Except Located Bytes
    | [] => .ok acc.reverse
    | c :: rest =>
      if c == byte '_' then
        if !before then .error (errorFrom (pos - 1) 2 "number must have at least one digit between underscores")
        else go (pos + 1) acc false rest
      else go (pos + 1) (c :: acc) true rest

/-- The value of unsigned digits in a base, or whether the text is malformed or too large,
as a conversion reads it: the first bad digit, or the first digit that overflows 64 bits,
decides. -/
def unsignedValue (base : Nat) : Nat → Bytes → Except Bool Nat
  | acc, [] => .ok acc
  | acc, c :: rest =>
    let d := if isDigit c then c.toNat - 48
      else if 97 ≤ c.toNat && c.toNat ≤ 122 then c.toNat - 87
      else if 65 ≤ c.toNat && c.toNat ≤ 90 then c.toNat - 55
      else 99
    if d ≥ base then .error false
    else
      let next := acc * base + d
      if next ≥ Nat.pow 2 64 then .error true else unsignedValue base next rest
where
  /-- Whether a byte is a decimal digit. -/
  isDigit (c : UInt8) : Bool := 48 ≤ c && c ≤ 57

/-- Convert integer text in a base to a signed 64-bit value, with the conversion's
failure message. -/
def signedValue (base : Nat) (text : Bytes) : Except String Int :=
  let (neg, digits) := match text with
    | c :: rest => if c == byte '-' then (true, rest) else if c == byte '+' then (false, rest) else (false, text)
    | [] => (false, [])
  if digits.isEmpty then .error (syntaxFailure "ParseInt" text)
  else
    match unsignedValue base 0 digits with
    | .error true => .error (rangeFailure "ParseInt" text)
    | .error false => .error (syntaxFailure "ParseInt" text)
    | .ok v =>
      if neg then (if v > Nat.pow 2 63 then .error (rangeFailure "ParseInt" text) else .ok (-(v : Int)))
      else if v ≥ Nat.pow 2 63 then .error (rangeFailure "ParseInt" text) else .ok v

/-- Check an integer token starting at `start` and give its value. -/
def checkInteger (text : Bytes) (start : Nat) : Except Located Int :=
  let whole := fun (msg : String) => errorFrom start text.length msg
  match text with
  | z :: p :: _ :: _ =>
    if z == byte '0' && (p == byte 'x' || p == byte 'o' || p == byte 'b') then
      let (base, name) := if p == byte 'x' then (16, "hexadecimal")
        else if p == byte 'o' then (8, "octal") else (2, "binary")
      match integerDigits (start + 2) (text.drop 2) with
      | .error e => .error e
      | .ok cleaned =>
        match signedValue base cleaned with
        | .ok v => .ok v
        | .error m => .error (whole ("couldn't parse " ++ name ++ " number: " ++ m))
    else decimal whole
  | _ => decimal whole
where
  /-- A decimal integer. -/
  decimal (whole : String → Located) : Except Located Int :=
    match integerDigits start text with
    | .error e => .error e
    | .ok cleaned =>
      let digits := match cleaned with
        | c :: rest => if c == byte '+' || c == byte '-' then rest else cleaned
        | [] => []
      if digits.length > 1 && digits.head? == some (byte '0') then
        .error (whole "leading zero not allowed on decimal number")
      else match signedValue 10 cleaned with
        | .ok v => .ok v
        | .error m => .error (whole ("couldn't parse decimal number: " ++ m))

/-- Drop the underscores of a float's text, which starts at offset `start`: each must stand
between digits, and not next to the point or the exponent. -/
def floatDigits (start : Nat) (b : Bytes) : Except Located Bytes :=
  if b.head? == some (byte '_') then .error (errorFrom start 1 "number cannot start with underscore")
  else if b.getLast? == some (byte '_') then
    .error (errorFrom (start + b.length - 1) 1 "number cannot end with underscore")
  else if !b.contains (byte '_') then .ok b
  else go 0 [] false none b
where
  /-- Copy the bytes from index `i`, `before` telling whether a digit came since the last
  underscore, and `prev` being the byte before. -/
  go (i : Nat) (acc : Bytes) (before : Bool) (prev : Option UInt8) : Bytes → Except Located Bytes
    | [] => .ok acc.reverse
    | c :: rest =>
      let next := rest.head?
      if c == byte '_' then
        if !before then
          .error (errorFrom (start + i - 1) 2 "number must have at least one digit between underscores")
        else if next == some (byte 'e') || next == some (byte 'E') then
          .error (errorFrom (start + i + 1) 1 "cannot have underscore before exponent")
        else go (i + 1) acc false (some c) rest
      else if c == byte '+' || c == byte '-' then go (i + 1) (c :: acc) false (some c) rest
      else if c == byte 'e' || c == byte 'E' then
        if next == some (byte '_') then
          .error (errorFrom (start + i + 1) 1 "cannot have underscore after exponent")
        else go (i + 1) (c :: acc) before (some c) rest
      else if c == byte '.' then
        if next == some (byte '_') then
          .error (errorFrom (start + i + 1) 1 "cannot have underscore after decimal point")
        else if prev == some (byte '_') then
          .error (errorFrom (start + i - 1) 1 "cannot have underscore before decimal point")
        else go (i + 1) (c :: acc) before (some c) rest
      else go (i + 1) (c :: acc) true (some c) rest

/-- Check the points of a float's text: at most one, between digits. -/
def checkPoints (start : Nat) (cleaned : Bytes) : Except Located Unit :=
  go 0 false cleaned
where
  /-- Walk from index `i`, `seen` telling whether a point came already. -/
  go (i : Nat) (seen : Bool) : Bytes → Except Located Unit
    | [] => .ok ()
    | c :: rest =>
      if c != byte '.' then go (i + 1) seen rest
      else if seen then .error (errorFrom (start + i) 1 "float can have at most one decimal point")
      else if !(isDigitAt (i - 1)) then
        .error (errorFrom (start + i - 1) 2 "float decimal point must be preceded by a digit")
      else if !(isDigitAt (i + 1)) then
        .error (errorFrom (start + i) 2 "float decimal point must be followed by a digit")
      else go (i + 1) true rest
  /-- Whether the byte at an index of the text is a digit. -/
  isDigitAt (i : Nat) : Bool :=
    match cleaned[i]? with
    | some c => 48 ≤ c && c ≤ 57
    | none => false

/-- Check a float token starting at `start` and give its value. -/
def checkFloat (text : Bytes) (start : Nat) : Except Located Binary64 := do
  let whole := fun (msg : String) => errorFrom start text.length msg
  if text.length == 4 && (text.head? == some (byte '+') || text.head? == some (byte '-')) &&
      text.drop 1 == Utf8.ofString "nan" then
    return Binary64.nan
  let cleaned ← floatDigits start text
  if cleaned.head? == some (byte '.') then throw (whole "float cannot start with a dot")
  if cleaned.getLast? == some (byte '.') then throw (whole "float cannot end with a dot")
  checkPoints start cleaned
  let digits := match cleaned with
    | c :: rest => if c == byte '+' || c == byte '-' then rest else cleaned
    | [] => []
  match digits with
  | z :: d :: _ =>
    if z == byte '0' && 48 ≤ d && d ≤ 57 then
      throw (whole "float integer part cannot have leading zeroes")
  | _ => pure ()
  let s := numberText cleaned
  match Decimal.read s with
  | none => throw (whole ("unable to parse float: " ++ syntaxFailure "ParseFloat" cleaned))
  | some r =>
    let x : Binary64 := ⟨(r.round BinaryFormat.binary64 0x7FF8000000000001).toUInt64⟩
    let infinite := match r with
      | .infinite _ => true
      | _ => false
    let overflow := match x.classify with
      | .infinite _ => !infinite
      | _ => false
    if overflow then
      throw (whole ("unable to parse float: " ++ rangeFailure "ParseFloat" cleaned))
    pure x

end InlineC.Toml
