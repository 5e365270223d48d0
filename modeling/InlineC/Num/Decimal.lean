import InlineC.Num.Binary

/-!
# Decimal text of doubles

Writing: the shortest decimal that reads back as the same double, printed in the general
form: plain digits when the decimal exponent lies in `[-4, 6)`, else a mantissa with an
exponent of sign and at least two digits. Among the decimals of the shortest length that
read back, the one nearest the double is taken, ties to an even last digit. Special values
print as `NaN`, `+Inf` and `-Inf`, and negative zero as `-0`.

Reading: an optional sign, then `inf`, `infinity` or `nan` in any case, or decimal digits
with an optional point and exponent, or hexadecimal digits with a binary exponent; the
value is rounded to the nearest double or single. Values too large become infinities and
values too small become zeros.
-/

namespace InlineC

namespace Decimal

/-- Compare `a × 2 ^ twoExp` with `b × 10 ^ tenExp`, exactly. -/
def compareScaled (a : Nat) (twoExp : Int) (b : Nat) (tenExp : Int) : Ordering :=
  let a1 := if twoExp ≥ 0 then a * Nat.pow 2 twoExp.toNat else a
  let b1 := if twoExp ≥ 0 then b else b * Nat.pow 2 (-twoExp).toNat
  let a2 := if tenExp ≥ 0 then a1 else a1 * Nat.pow 10 (-tenExp).toNat
  let b2 := if tenExp ≥ 0 then b1 * Nat.pow 10 tenExp.toNat else b1
  compare a2 b2

/-- The decimal digits of a positive number, most significant first. -/
def digitsOf (n : Nat) : List Nat := (Nat.toDigits 10 n).map fun c => c.toNat - 48

/-- The exponent `p` with `10 ^ (p - 1) ≤ sig × 2 ^ exp < 10 ^ p`, for a positive `sig`,
found from an estimate by exact comparison. -/
def decimalPoint (sig : Nat) (exp : Int) : Int :=
  let bits : Int := (sig.log2 : Int) + exp
  let guess : Int := bits * 30103 / 100000
  let up := fun (p : Int) => compareScaled sig exp 1 p != .lt
  let down := fun (p : Int) => compareScaled sig exp 1 (p - 1) == .lt
  let p0 := guess + 1
  if up p0 then (if up (p0 + 1) then p0 + 2 else p0 + 1)
  else if down p0 then (if down (p0 - 1) then p0 - 2 else p0 - 1)
  else p0

/-- A candidate `c × 10 ^ k` lies above the lower bound `lo × 2 ^ e` (strictly unless
`inclusive`). -/
def aboveLower (c : Nat) (k : Int) (lo : Nat) (e : Int) (inclusive : Bool) : Bool :=
  match compareScaled lo e c k with
  | .lt => true
  | .eq => inclusive
  | .gt => false

/-- A candidate `c × 10 ^ k` lies below the upper bound `hi × 2 ^ e`. -/
def belowUpper (c : Nat) (k : Int) (hi : Nat) (e : Int) (inclusive : Bool) : Bool :=
  match compareScaled hi e c k with
  | .gt => true
  | .eq => inclusive
  | .lt => false

/-- Digits without trailing zeros, with the decimal point moved accordingly kept apart. -/
def trimZeros : List Nat → List Nat
  | ds => (ds.reverse.dropWhile (· == 0)).reverse

/-- The shortest digits of a positive finite value `sig × 2 ^ exp` whose rounding interval is
`(lo, hi) × 2 ^ (exp - 2)`, and the decimal point: the value read is `0.d₁d₂… × 10 ^ point`.
Tries lengths from 1 up to `fuel`. -/
def shortest (sig : Nat) (exp : Int) (lo hi : Nat) (inclusive : Bool) (point : Int) :
    Nat → Nat → Option (List Nat × Int)
  | 0, _ => none
  | fuel + 1, n =>
    let k := point - n
    -- floor of the value in units of 10 ^ k: compare sig × 2 ^ exp with units
    let (num, den) :=
      let a := if exp ≥ 0 then sig * Nat.pow 2 exp.toNat else sig
      let b := if exp ≥ 0 then 1 else Nat.pow 2 (-exp).toNat
      if k ≥ 0 then (a, b * Nat.pow 10 k.toNat) else (a * Nat.pow 10 (-k).toNat, b)
    let c0 := num / den
    let exact := num % den == 0
    let c1 := c0 + 1
    let okDown := aboveLower c0 k lo (exp - 2) inclusive
    let okUp := !exact && belowUpper c1 k hi (exp - 2) inclusive
    let pick := fun (c : Nat) =>
      let ds := digitsOf c
      let pt := point + (ds.length - n : Nat)
      some (trimZeros ds, pt)
    if exact && okDown then pick c0
    else if okDown && okUp then
      let twice := 2 * (num % den)
      if twice < den then pick c0
      else if twice > den then pick c1
      else if c0 % 2 == 0 then pick c0 else pick c1
    else if okDown then pick c0
    else if okUp then pick c1
    else shortest sig exp lo hi inclusive point fuel (n + 1)

/-- The exponent part of the exponent form: `e`, a sign and at least two digits. -/
def exponentText (e : Int) : String :=
  let mag := e.natAbs
  let body := if mag < 10 then "0" ++ toString mag else toString mag
  "e" ++ (if e < 0 then "-" else "+") ++ body

/-- The general form of digits `0.d₁d₂… × 10 ^ point`. -/
def generalForm (ds : List Nat) (point : Int) : String :=
  let chars := ds.map fun d => Char.ofNat (48 + d)
  let exp := point - 1
  if exp < -4 ∨ exp ≥ 6 then
    match chars with
    | [] => "0"
    | c :: rest =>
      String.singleton c ++ (if rest.isEmpty then "" else "." ++ String.ofList rest) ++
        exponentText exp
  else if point ≤ 0 then
    "0." ++ String.ofList (List.replicate point.natAbs '0') ++ String.ofList chars
  else
    let whole := chars.take point.toNat
    let pad := List.replicate (point.toNat - chars.length) '0'
    let frac := chars.drop point.toNat
    String.ofList (whole ++ pad) ++ (if frac.isEmpty then "" else "." ++ String.ofList frac)

/-- The plain form of digits `0.d₁d₂… × 10 ^ point`, never with an exponent. -/
def plainForm (ds : List Nat) (point : Int) : String :=
  let chars := ds.map fun d => Char.ofNat (48 + d)
  if point ≤ 0 then
    "0." ++ String.ofList (List.replicate point.natAbs '0') ++ String.ofList chars
  else
    let whole := chars.take point.toNat
    let pad := List.replicate (point.toNat - chars.length) '0'
    let frac := chars.drop point.toNat
    String.ofList (whole ++ pad) ++ (if frac.isEmpty then "" else "." ++ String.ofList frac)

end Decimal

/-- The shortest general text of a double. -/
def Binary64.format (x : Binary64) : String :=
  match x.classify with
  | .nan => "NaN"
  | .infinite neg => if neg then "-Inf" else "+Inf"
  | .finite neg sig exp =>
    let sign := if neg then "-" else ""
    if sig = 0 then sign ++ "0"
    else
      let lowerClose := sig == BinaryFormat.binary64.hidden &&
        exp > BinaryFormat.binary64.minQuantum
      let lo := if lowerClose then 4 * sig - 1 else 4 * sig - 2
      let hi := 4 * sig + 2
      let point := Decimal.decimalPoint sig exp
      match Decimal.shortest sig exp lo hi (sig % 2 == 0) point 20 1 with
      | some (ds, pt) => sign ++ Decimal.generalForm ds pt
      | none => sign ++ "0"

/-- The shortest plain text of a double: the digits that read back, never with an exponent. -/
def Binary64.formatPlain (x : Binary64) : String :=
  match x.classify with
  | .nan => "NaN"
  | .infinite neg => if neg then "-Inf" else "+Inf"
  | .finite neg sig exp =>
    let sign := if neg then "-" else ""
    if sig = 0 then sign ++ "0"
    else
      let lowerClose := sig == BinaryFormat.binary64.hidden &&
        exp > BinaryFormat.binary64.minQuantum
      let lo := if lowerClose then 4 * sig - 1 else 4 * sig - 2
      let hi := 4 * sig + 2
      let point := Decimal.decimalPoint sig exp
      match Decimal.shortest sig exp lo hi (sig % 2 == 0) point 20 1 with
      | some (ds, pt) => sign ++ Decimal.plainForm ds pt
      | none => sign ++ "0"

namespace Decimal

/-- Which format a reading rounds to. -/
inductive Width where
  | double
  | single
  deriving DecidableEq, Repr

/-- A read number before rounding. -/
inductive Reading where
  | nan
  | infinite (neg : Bool)
  /-- `(-1) ^ neg × mant × base ^ exp`, with base ten or two. -/
  | decimal (neg : Bool) (mant : Nat) (exp : Int)
  | binary (neg : Bool) (mant : Nat) (exp : Int)
  deriving DecidableEq, Repr

/-- The value of a digit in the given base. -/
def digitValue (base : Nat) (c : Char) : Option Nat :=
  let v := if '0' ≤ c ∧ c ≤ '9' then c.toNat - 48
    else if 'a' ≤ c ∧ c ≤ 'z' then c.toNat - 87
    else if 'A' ≤ c ∧ c ≤ 'Z' then c.toNat - 55
    else 99
  if v < base then some v else none

/-- Lower-case ASCII letters. -/
def lowerAscii (s : List Char) : List Char :=
  s.map fun c => if 'A' ≤ c ∧ c ≤ 'Z' then Char.ofNat (c.toNat + 32) else c

/-- Digits with at most one point: the mantissa, the count of digits after the point, and
whether any digit was seen; the rest of the text follows. -/
def mantissa (base : Nat) : List Char → Nat → Nat → Bool → Bool →
    Nat × Nat × Bool × List Char
  | [], m, after, seen, _ => (m, after, seen, [])
  | c :: rest, m, after, seen, point =>
    if c == '.' && !point then mantissa base rest m after seen true
    else match digitValue base c with
      | some v => mantissa base rest (m * base + v) (if point then after + 1 else after) true point
      | none => (m, after, seen, c :: rest)

/-- Decimal digits of an exponent: its value, and whether there was one. -/
def exponentDigits : List Char → Nat → Bool → Option Nat
  | [], n, seen => if seen then some n else none
  | c :: rest, n, _ =>
    match digitValue 10 c with
    | some v => exponentDigits rest (n * 10 + v) true
    | none => none

/-- A signed exponent after its marker letter. -/
def exponentPart : List Char → Option Int
  | '+' :: rest => (exponentDigits rest 0 false).map Int.ofNat
  | '-' :: rest => (exponentDigits rest 0 false).map fun n => -(n : Int)
  | rest => (exponentDigits rest 0 false).map Int.ofNat

/-- Read the unsigned part of a number. -/
def unsigned (neg : Bool) (s : List Char) : Option Reading :=
  let low := lowerAscii s
  if low == "inf".toList || low == "infinity".toList then some (.infinite neg)
  else match s with
  | '0' :: x :: rest =>
    if x == 'x' || x == 'X' then
      let (m, after, seen, tail) := mantissa 16 rest 0 0 false false
      if !seen then none
      else match tail with
        | p :: e => if p == 'p' || p == 'P' then
            (exponentPart e).map fun ex => .binary neg m (ex - 4 * after)
          else none
        | [] => none
    else decimalPart neg s
  | _ => decimalPart neg s
where
  /-- Digits, an optional point and an optional decimal exponent. -/
  decimalPart (neg : Bool) (s : List Char) : Option Reading :=
    let (m, after, seen, tail) := mantissa 10 s 0 0 false false
    if !seen then none
    else match tail with
      | [] => some (.decimal neg m (-(after : Int)))
      | e :: rest => if e == 'e' || e == 'E' then
          (exponentPart rest).map fun ex => .decimal neg m (ex - after)
        else none

/-- Read number text. -/
def read (s : String) : Option Reading :=
  let cs := s.toList
  if lowerAscii cs == "nan".toList then some .nan
  else match cs with
    | '+' :: rest => unsigned false rest
    | '-' :: rest => unsigned true rest
    | rest => unsigned false rest

/-- What a scan of number text saw last, for placing underscores. -/
inductive Seen where
  | start | digit | underscore | other
  deriving DecidableEq

/-- Whether the underscores of number text each stand between two digits, a base prefix
counting as a digit. -/
def separatorsOk (s : List Char) : Bool :=
  let s := match s with
    | '+' :: r | '-' :: r => r
    | r => r
  let (hex, body, seen) := match s with
    | '0' :: b :: r =>
      let lb := (lowerAscii [b]).head?.getD b
      if lb == 'b' || lb == 'o' || lb == 'x' then (lb == 'x', r, Seen.digit) else (false, s, Seen.start)
    | _ => (false, s, Seen.start)
  let last := body.foldl (fun (acc : Option Seen) c =>
    match acc with
    | none => none
    | some seen =>
      if c.isDigit || (hex && (digitValue 16 c).isSome) then some .digit
      else if c == '_' then (if seen == .digit then some .underscore else none)
      else if seen == .underscore then none
      else some .other) (some seen)
  match last with
  | some l => l != .underscore
  | none => false

/-- Read number text whose digits may be separated by underscores. -/
def readSeparated (s : String) : Option Reading :=
  let cs := s.toList
  if cs.contains '_' then
    if separatorsOk cs then read (String.ofList (cs.filter (· != '_'))) else none
  else read s

/-- The count of decimal digits of a number, at least one. -/
def digitCount (n : Nat) : Nat := (Nat.toDigits 10 n).length

/-- Round a decimal reading `mant × 10 ^ exp` to a format, with infinity beyond any
format's range and zero below it. -/
def roundDecimal (f : BinaryFormat) (neg : Bool) (mant : Nat) (exp : Int) : Nat :=
  if mant = 0 then f.zero neg
  else
    let size := (digitCount mant : Int) + exp
    if size > 330 then f.infinity neg
    else if size < -360 then f.zero neg
    else if exp ≥ 0 then f.round neg (mant * Nat.pow 10 exp.toNat) 1
    else f.round neg mant (Nat.pow 10 (-exp).toNat)

/-- Round a binary reading `mant × 2 ^ exp` to a format. -/
def roundBinary (f : BinaryFormat) (neg : Bool) (mant : Nat) (exp : Int) : Nat :=
  if mant = 0 then f.zero neg
  else
    let size := (mant.log2 : Int) + exp
    if size > 1100 then f.infinity neg
    else if size < -1200 then f.zero neg
    else f.ofFinite neg mant exp

/-- The pattern of a reading in a format. -/
def Reading.round (f : BinaryFormat) (nanBits : Nat) : Reading → Nat
  | .nan => nanBits
  | .infinite neg => f.infinity neg
  | .decimal neg m e => roundDecimal f neg m e
  | .binary neg m e => roundBinary f neg m e

end Decimal

/-- The double a text reads as, none when it is not number text; underscores may separate
digits. -/
def Binary64.read (s : String) : Option Binary64 :=
  (Decimal.readSeparated s).map fun r =>
    ⟨(r.round BinaryFormat.binary64 0x7FF8000000000001).toUInt64⟩

/-- The single a text reads as, rounding once, none when it is not number text;
underscores may separate digits. -/
def Binary32.read (s : String) : Option Binary32 :=
  (Decimal.readSeparated s).map fun r => ⟨(r.round BinaryFormat.binary32 0x7FC00001).toUInt32⟩

end InlineC
