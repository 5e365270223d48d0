import InlineC.Num.Binary

/-!
# The 80-bit extended format

The format of `long double` on x86-64: a sign, a 15-bit exponent and a 64-bit significand
whose leading bit is stored, not implied. Its values are those of a binary format with 63
fraction bits and a 15-bit exponent, so rounding goes through `BinaryFormat`; only the
encoding differs, by the stored leading bit, which is set for normal numbers and
infinities and clear for zeros and subnormal numbers.

Arithmetic is done exactly on the values and rounded once, to nearest with ties to even,
which is what the processor does in its extended precision.
-/

namespace InlineC

namespace Extended

/-- The binary format with the values of the extended format. -/
def format : BinaryFormat := ⟨63, 15⟩

/-- Two to the power of `n`. -/
def pow2 (n : Nat) : Nat := Nat.pow 2 n

/-- The extended encoding of a pattern of `format`: the leading bit is made explicit. -/
def ofFormat (b : Nat) : Nat :=
  let sign := b / pow2 78 % 2
  let biased := b / pow2 63 % pow2 15
  let frac := b % pow2 63
  sign * pow2 79 + biased * pow2 64 + (if biased == 0 then 0 else pow2 63) + frac

/-- The value of a pattern, NaNs and infinities apart. -/
def classify (x : Nat) : BinaryFormat.Class :=
  let neg := x / pow2 79 % 2 == 1
  let biased := x / pow2 64 % pow2 15
  let mant := x % pow2 64
  if biased == pow2 15 - 1 then
    if mant % pow2 63 == 0 then .infinite neg else .nan
  else if biased == 0 then .finite neg mant (1 - 16383 - 63)
  else .finite neg mant ((biased : Int) - 16383 - 63)

/-- The quiet NaN the processor produces for an invalid operation. -/
def nan : Nat := 0xFFFFC000000000000000

/-- A signed infinity. -/
def infinity (neg : Bool) : Nat := (if neg then pow2 79 else 0) + (pow2 15 - 1) * pow2 64 + pow2 63

/-- A signed zero. -/
def zero (neg : Bool) : Nat := if neg then pow2 79 else 0

/-- The pattern nearest to `num / den` with the given sign. -/
def ofRatio (neg : Bool) (num den : Nat) : Nat := ofFormat (format.round neg num den)

/-- The pattern of `sig × 2 ^ exp`, rounded. -/
def ofFinite (neg : Bool) (sig : Nat) (exp : Int) : Nat :=
  if exp ≥ 0 then ofRatio neg (sig * pow2 exp.toNat) 1 else ofRatio neg sig (pow2 (-exp).toNat)

/-- The pattern nearest to an integer. -/
def ofInt (i : Int) : Nat := ofRatio (i < 0) i.natAbs 1

/-- The signed integer of a finite value as a sign and magnitude. -/
def signed (neg : Bool) (n : Nat) : Int := if neg then -(n : Int) else n

/-- The sum of two exact values `(-1)^s m 2^e`, as a sign, a numerator and a denominator
of a power of two; an exact zero sum of nonzero values is positive. -/
def exactSum (na : Bool) (ma : Nat) (ea : Int) (nb : Bool) (mb : Nat) (eb : Int) : Nat :=
  let e := min ea eb
  let a := signed na (ma * pow2 (ea - e).toNat)
  let b := signed nb (mb * pow2 (eb - e).toNat)
  let s := a + b
  if s == 0 then zero false
  else if e ≥ 0 then ofRatio (s < 0) (s.natAbs * pow2 e.toNat) 1
  else ofRatio (s < 0) s.natAbs (pow2 (-e).toNat)

/-- Addition. -/
def add (x y : Nat) : Nat :=
  match classify x, classify y with
  | .nan, _ => x ||| pow2 62
  | _, .nan => y ||| pow2 62
  | .infinite a, .infinite b => if a == b then x else nan
  | .infinite _, _ => x
  | _, .infinite _ => y
  | .finite na ma ea, .finite nb mb eb =>
    if ma == 0 && mb == 0 then zero (na && nb) else exactSum na ma ea nb mb eb

/-- Negation: the sign flips, NaNs included. -/
def neg (x : Nat) : Nat := if x / pow2 79 % 2 == 1 then x - pow2 79 else x + pow2 79

/-- Subtraction. -/
def sub (x y : Nat) : Nat := add x (neg y)

/-- Multiplication. -/
def mul (x y : Nat) : Nat :=
  match classify x, classify y with
  | .nan, _ => x ||| pow2 62
  | _, .nan => y ||| pow2 62
  | .infinite a, .infinite b => infinity (a != b)
  | .infinite a, .finite b m _ | .finite b m _, .infinite a =>
    if m == 0 then nan else infinity (a != b)
  | .finite na ma ea, .finite nb mb eb => ofFinite (na != nb) (ma * mb) (ea + eb)

/-- Division. -/
def div (x y : Nat) : Nat :=
  match classify x, classify y with
  | .nan, _ => x ||| pow2 62
  | _, .nan => y ||| pow2 62
  | .infinite _, .infinite _ => nan
  | .infinite a, .finite b _ _ => infinity (a != b)
  | .finite a _ _, .infinite b => zero (a != b)
  | .finite na ma ea, .finite nb mb eb =>
    if mb == 0 then (if ma == 0 then nan else infinity (na != nb))
    else
      let e := ea - eb
      if e ≥ 0 then ofRatio (na != nb) (ma * pow2 e.toNat) mb
      else ofRatio (na != nb) ma (mb * pow2 (-e).toNat)

/-- The exact value of a finite pattern as an ordered pair: numerator over a common power
of two, for comparisons. -/
def scaled (neg : Bool) (m : Nat) (e : Int) : Int :=
  signed neg (m * pow2 (e + 16500).toNat)

/-- Compare two patterns: none when either is a NaN. -/
def compare (x y : Nat) : Option Ordering :=
  match classify x, classify y with
  | .nan, _ | _, .nan => none
  | .infinite a, .infinite b => some (if a == b then .eq else if a then .lt else .gt)
  | .infinite a, _ => some (if a then .lt else .gt)
  | _, .infinite b => some (if b then .gt else .lt)
  | .finite na ma ea, .finite nb mb eb =>
    let a := scaled na ma ea
    let b := scaled nb mb eb
    some (if a < b then .lt else if a == b then .eq else .gt)

/-- The pattern with the value of a double. -/
def ofBinary64 (b : Binary64) : Nat :=
  match b.classify with
  | .nan =>
    let neg := b.bits >>> 63 == 1
    (if neg then pow2 79 else 0) + (pow2 15 - 1) * pow2 64 + pow2 63 +
      (b.bits &&& 0xFFFFFFFFFFFFF).toNat * pow2 11 ||| pow2 62
  | .infinite n => infinity n
  | .finite n m e => ofFinite n m e

/-- The double nearest to a pattern. -/
def toBinary64 (x : Nat) : Binary64 :=
  match classify x with
  | .nan =>
    let sign : UInt64 := if x / pow2 79 % 2 == 1 then 0x8000000000000000 else 0
    ⟨sign ||| 0x7FF8000000000000 ||| (UInt64.ofNat (x % pow2 62 / pow2 11))⟩
  | .infinite n => Binary64.infinity n
  | .finite n m e => ⟨(BinaryFormat.binary64.ofFinite n m e).toUInt64⟩

/-- The integer part, rounding toward zero; none for NaNs and infinities. -/
def truncate (x : Nat) : Option Int :=
  match classify x with
  | .finite neg sig exp =>
    let mag : Nat := if exp ≥ 0 then sig * pow2 exp.toNat else sig / pow2 (-exp).toNat
    some (signed neg mag)
  | _ => none

/-- Whether the pattern is a NaN. -/
def isNaN (x : Nat) : Bool := classify x == .nan

/-- Whether the pattern is zero of either sign. -/
def isZero (x : Nat) : Bool :=
  match classify x with
  | .finite _ m _ => m == 0
  | _ => false

end Extended

end InlineC
