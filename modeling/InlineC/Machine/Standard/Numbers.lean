import InlineC.Machine.Image
import InlineC.Num.Decimal
import InlineC.Lang.Arith

/-!
# Reading numbers

`strtol` and `strtod` and their relatives: the longest prefix of a string, after white
space, that reads as a number, the value it rounds or clamps to, how many octets it took,
and whether the value was out of range (`ERANGE`).

An integer is an optional sign and digits of the base; base 0 takes `0x` as hexadecimal and
a leading `0` as octal, and base 16 allows the `0x` too, but only where a hexadecimal digit
follows it. A value beyond the type's range clamps to its nearest end; an unsigned reading
of a negative number negates the magnitude modulo `2^64`.

A floating number is decimal digits with an optional point and exponent, hexadecimal digits
after `0x` with an optional point and binary exponent, `inf`, `infinity`, or `nan` with an
optional parenthesized tail, in any case. An exponent marker is taken only when digits
follow it. The value is rounded once, to nearest with ties to even; it is out of range when
a finite reading becomes infinite, or a nonzero one becomes tiny and inexact.
-/

namespace InlineC.Machine.Standard

open InlineC.Lang

/-- White space in the C locale. -/
def isSpace (c : UInt8) : Bool := c == 32 || (9 ≤ c && c ≤ 13)

/-- The value of a digit in bases up to 36. -/
def digitOf (c : UInt8) : Option Nat :=
  if 48 ≤ c && c ≤ 57 then some (c.toNat - 48)
  else if 97 ≤ c && c ≤ 122 then some (c.toNat - 87)
  else if 65 ≤ c && c ≤ 90 then some (c.toNat - 55)
  else none

/-- Whether an octet is a digit of a base. -/
def isDigitIn (base : Nat) (c : UInt8) : Bool := (digitOf c).any (· < base)

/-- The sign at the front of a text, and the text after it with the sign's length. -/
def readSign : List UInt8 → Bool × List UInt8 × Nat
  | 45 :: r => (true, r, 1)
  | 43 :: r => (false, r, 1)
  | r => (false, r, 0)

/-- An integer at the front of a text, as `strtol` reads it: its sign, its magnitude and
how many octets it took; none when there is no digit. -/
def scanInteger (s : List UInt8) (base : Nat) : Option (Bool × Nat × Nat) :=
  let ws := (s.takeWhile isSpace).length
  let (neg, r, signLen) := readSign (s.drop ws)
  let hexPrefix := match r with
    | 48 :: x :: d :: _ => (x == 120 || x == 88) && isDigitIn 16 d
    | _ => false
  let (base, r, pre) :=
    if (base == 0 || base == 16) && hexPrefix then (16, r.drop 2, 2)
    else if base == 0 then (if r.head? == some 48 then 8 else 10, r, 0)
    else (base, r, 0)
  let ds := r.takeWhile (isDigitIn base)
  if ds.isEmpty then none
  else some (neg, ds.foldl (fun acc c => acc * base + (digitOf c).getD 0) 0,
    ws + signLen + pre + ds.length)

/-- The result of reading an integer: the value's word, octets taken, and whether it was
out of range. -/
structure IntReading where
  value : UInt64
  taken : Nat
  outOfRange : Bool

/-- Read a signed integer of `bits` bits. -/
def readSigned (s : List UInt8) (base bits : Nat) : IntReading :=
  match scanInteger s base with
  | none => ⟨0, 0, false⟩
  | some (neg, mag, n) =>
    let v : Int := if neg then -(mag : Int) else mag
    let lo : Int := -(Int.pow 2 (bits - 1))
    let hi : Int := Int.pow 2 (bits - 1) - 1
    let c := max lo (min v hi)
    ⟨UInt64.ofInt c, n, c != v⟩

/-- Read an unsigned integer of `bits` bits. -/
def readUnsigned (s : List UInt8) (base bits : Nat) : IntReading :=
  match scanInteger s base with
  | none => ⟨0, 0, false⟩
  | some (neg, mag, n) =>
    let m := Nat.pow 2 bits
    if mag ≥ m then ⟨UInt64.ofNat (m - 1), n, true⟩
    else ⟨UInt64.ofNat (if neg then (m - mag) % m else mag), n, false⟩

/-- Whether a base is one `strtol` accepts. -/
def validBase (base : Nat) : Bool := base == 0 || (2 ≤ base && base ≤ 36)

/-- Lower-case ASCII. -/
def lowerAll (os : List UInt8) : List UInt8 :=
  os.map fun c => if 65 ≤ c && c ≤ 90 then c + 32 else c

/-- Digits with at most one point: the digits' value, how many came after the point, and
how many octets were taken; none without a digit. -/
def scanMantissa (base : Nat) (s : List UInt8) : Option (Nat × Nat × Nat) :=
  let whole := s.takeWhile (isDigitIn base)
  let r := s.drop whole.length
  let (frac, pointLen) := match r with
    | 46 :: r' => (r'.takeWhile (isDigitIn base), 1)
    | _ => ([], 0)
  if whole.isEmpty && frac.isEmpty then none
  else
    let v := (whole ++ frac).foldl (fun acc c => acc * base + (digitOf c).getD 0) 0
    some (v, frac.length, whole.length + pointLen + frac.length)

/-- A signed exponent after a marker, when digits follow: its value and length. -/
def scanExponent (s : List UInt8) : Option (Int × Nat) :=
  let (neg, r, signLen) := readSign s
  let ds := r.takeWhile (isDigitIn 10)
  if ds.isEmpty then none
  else
    let v := ds.foldl (fun acc c => min (acc * 10 + (digitOf c).getD 0) 100000000) 0
    some (if neg then -(v : Int) else v, signLen + ds.length)

/-- A floating number at the front of a text, without white space or sign: the reading and
how many octets it took. -/
def scanUnsignedFloat (neg : Bool) (r : List UInt8) : Option (Decimal.Reading × Nat) :=
  let low := lowerAll (r.take 8)
  if low.take 8 == "infinity".toUTF8.toList then some (.infinite neg, 8)
  else if low.take 3 == "inf".toUTF8.toList then some (.infinite neg, 3)
  else if low.take 3 == "nan".toUTF8.toList then
    let tail := r.drop 3
    let body := (tail.drop 1).takeWhile fun c => isDigitIn 36 c || c == 95
    match tail with
    | 40 :: _ => if (tail.drop (1 + body.length)).head? == some 41 then some (.nan, 3 + body.length + 2)
      else some (.nan, 3)
    | _ => some (.nan, 3)
  else
    let hex := match r with
      | 48 :: x :: rest => (x == 120 || x == 88) && (scanMantissa 16 rest).isSome
      | _ => false
    if hex then
      match scanMantissa 16 (r.drop 2) with
      | some (m, after, n) =>
        let rest := r.drop (2 + n)
        match rest with
        | p :: e =>
          if p == 112 || p == 80 then
            match scanExponent e with
            | some (ex, el) => some (.binary neg m (ex - 4 * after), 2 + n + 1 + el)
            | none => some (.binary neg m (-(4 * after : Int)), 2 + n)
          else some (.binary neg m (-(4 * after : Int)), 2 + n)
        | [] => some (.binary neg m (-(4 * after : Int)), 2 + n)
      | none => none
    else
      match scanMantissa 10 r with
      | some (m, after, n) =>
        let rest := r.drop n
        match rest with
        | e :: ex =>
          if e == 101 || e == 69 then
            match scanExponent ex with
            | some (x, el) => some (.decimal neg m (x - after), n + 1 + el)
            | none => some (.decimal neg m (-(after : Int)), n)
          else some (.decimal neg m (-(after : Int)), n)
        | [] => some (.decimal neg m (-(after : Int)), n)
      | none => none

/-- A floating number at the front of a text, as `strtod` reads it, and how many octets
it took, white space and sign included. -/
def scanFloat (s : List UInt8) : Option (Decimal.Reading × Nat) :=
  let ws := (s.takeWhile isSpace).length
  let (neg, r, signLen) := readSign (s.drop ws)
  (scanUnsignedFloat neg r).map fun (rd, n) => (rd, ws + signLen + n)

/-- Whether a nonzero exact value `m × base^e` and the pattern it rounded to differ. -/
def inexact (f : BinaryFormat) (base : Nat) (m : Nat) (e : Int) (bits : Nat) : Bool :=
  match f.classify bits with
  | .finite _ sig q =>
    -- compare m × base^e with sig × 2^q, both sides scaled to natural numbers
    let lhs := m * (if e ≥ 0 then Nat.pow base e.toNat else 1) * (if q < 0 then Nat.pow 2 (-q).toNat else 1)
    let rhs := sig * (if q ≥ 0 then Nat.pow 2 q.toNat else 1) * (if e < 0 then Nat.pow base (-e).toNat else 1)
    lhs != rhs
  | _ => true

/-- Whether rounding a reading to a pattern went out of range. -/
def floatOutOfRange (f : BinaryFormat) (rd : Decimal.Reading) (bits : Nat) : Bool :=
  let (m, base, e) := match rd with
    | .decimal _ m e => (m, 10, e)
    | .binary _ m e => (m, 2, e)
    | _ => (0, 2, 0)
  if m == 0 then false
  else
    match f.classify bits with
    | .infinite _ => true
    | .finite _ sig q =>
      let tiny := sig < f.hidden || q < f.minQuantum
      tiny && (sig == 0 || inexact f base m e bits)
    | .nan => false

/-- Read a floating number into a format: the pattern, octets taken, and whether it was
out of range. -/
def readFloat (f : BinaryFormat) (nanBits : Nat) (s : List UInt8) : Nat × Nat × Bool :=
  match scanFloat s with
  | none => (0, 0, false)
  | some (rd, n) =>
    let bits := rd.round f nanBits
    (bits, n, floatOutOfRange f rd bits)

end InlineC.Machine.Standard
