import InlineC.Num.Binary

/-!
# Mathematical functions

The functions of the C math library that are exact, computed on bit patterns of either
binary format: rounding to an integral value in each direction, remainders, fused
multiply-add, `hypot`, scaling, splitting into fraction and exponent, and stepping to the
next representable number. Each works on the exact value of its operands and rounds once,
to nearest with ties to even, so its result is the one the C library gives.

The transcendental functions are left to the machine's float types, which call the same
library.
-/

namespace InlineC.Machine.Standard

/-- How a value is rounded to an integer. -/
inductive Rounding where
  /-- To nearest, ties to even (`rint`, `nearbyint`). -/
  | halfEven
  /-- To nearest, ties away from zero (`round`). -/
  | halfAway
  /-- Toward negative infinity (`floor`). -/
  | down
  /-- Toward positive infinity (`ceil`). -/
  | up
  /-- Toward zero (`trunc`). -/
  | towardZero
  deriving DecidableEq

/-- Round `sig / 2^k`, of the given sign, to an integer magnitude. -/
def roundMagnitude (mode : Rounding) (neg : Bool) (sig k : Nat) : Nat :=
  let q := sig / Nat.pow 2 k
  let r := sig % Nat.pow 2 k
  let half := Nat.pow 2 k / 2
  if r == 0 then q
  else match mode with
    | .halfEven => if r > half || (r == half && q % 2 == 1) then q + 1 else q
    | .halfAway => if r ≥ half then q + 1 else q
    | .down => if neg then q + 1 else q
    | .up => if neg then q else q + 1
    | .towardZero => q

/-- The integral value of a pattern, rounded in a direction; infinities and NaNs stay. -/
def roundIntegral (f : BinaryFormat) (mode : Rounding) (bits : Nat) : Nat :=
  match f.classify bits with
  | .finite neg sig exp =>
    if exp ≥ 0 then bits else f.ofFinite neg (roundMagnitude mode neg sig (-exp).toNat) 0
  | _ => bits

/-- The integer a finite pattern rounds to in a direction; none for infinities and NaNs. -/
def roundToInt (f : BinaryFormat) (mode : Rounding) (bits : Nat) : Option Int :=
  match f.classify bits with
  | .finite neg sig exp =>
    let m := if exp ≥ 0 then sig * Nat.pow 2 exp.toNat else roundMagnitude mode neg sig (-exp).toNat
    some (if neg then -(m : Int) else m)
  | _ => none

/-- A signed exact value `(-1)^neg × sig × 2^exp` scaled to the exponent `e0 ≤ exp`. -/
def scaledTo (neg : Bool) (sig : Nat) (exp e0 : Int) : Int :=
  let m := (sig * Nat.pow 2 (exp - e0).toNat : Nat)
  if neg then -(m : Int) else m

/-- The pattern of an exact integer times `2^e`, keeping the sign `zeroNeg` for zero. -/
def ofScaled (f : BinaryFormat) (v : Int) (e : Int) (zeroNeg : Bool) : Nat :=
  if v == 0 then f.zero zeroNeg else f.ofFinite (v < 0) v.natAbs e

/-- The quiet NaN of a format. -/
def quietNaN (f : BinaryFormat) : Nat := f.maxBiased * f.hidden + f.hidden / 2

/-- `fmod`: `x - n y` with `n` the quotient truncated toward zero; the sign is that of `x`. -/
def fmodBits (f : BinaryFormat) (x y : Nat) : Nat :=
  match f.classify x, f.classify y with
  | .finite xn xs xe, .finite _ ys ye =>
    if ys == 0 then quietNaN f
    else if xs == 0 then x
    else
      let e := min xe ye
      let xm := xs * Nat.pow 2 (xe - e).toNat
      let ym := ys * Nat.pow 2 (ye - e).toNat
      f.ofFinite xn (xm % ym) e
  | .finite .., .infinite _ => x
  | _, _ => quietNaN f

/-- `remainder`: `x - n y` with `n` the quotient rounded to nearest, ties to even. -/
def remainderBits (f : BinaryFormat) (x y : Nat) : Nat :=
  match f.classify x, f.classify y with
  | .finite xn xs xe, .finite _ ys ye =>
    if ys == 0 then quietNaN f
    else if xs == 0 then x
    else
      let e := min xe ye
      let xm := xs * Nat.pow 2 (xe - e).toNat
      let ym := ys * Nat.pow 2 (ye - e).toNat
      let q := xm / ym
      let r := xm % ym
      let up := 2 * r > ym || (2 * r == ym && q % 2 == 1)
      let v : Int := if up then (r : Int) - ym else r
      let v := if xn then -v else v
      ofScaled f v e xn
  | .finite .., .infinite _ => x
  | _, _ => quietNaN f

/-- `fma`: `x × y + z` rounded once. -/
def fmaBits (f : BinaryFormat) (x y z : Nat) (plain : Nat) : Nat :=
  match f.classify x, f.classify y, f.classify z with
  | .finite xn xs xe, .finite yn ys ye, .finite zn zs ze =>
    let pn := xn != yn
    let pe := xe + ye
    let e0 := min pe ze
    let p := scaledTo pn (xs * ys) pe e0
    let s := p + scaledTo zn zs ze e0
    -- an exact zero is negative only when both parts are negative zeros or negative
    ofScaled f s e0 (pn && zn)
  | _, _, _ => plain

/-- The square root of `n × 4^k`-scaled value `n × 2^(2e)`, rounded once. -/
def sqrtScaled (f : BinaryFormat) (n : Nat) (e : Int) : Nat :=
  if n == 0 then f.zero false
  else
    let k := 64
    let big := n * Nat.pow 4 k
    let r := big.sqrt
    let num := if r * r == big then 2 * r else 2 * r + 1
    let ex := e - k
    if ex ≥ 0 then f.round false (num * Nat.pow 2 ex.toNat) 2
    else f.round false num (2 * Nat.pow 2 (-ex).toNat)

/-- `hypot`: the square root of `x² + y²`, rounded once; infinite if either is. -/
def hypotBits (f : BinaryFormat) (x y : Nat) : Nat :=
  match f.classify x, f.classify y with
  | .infinite _, _ | _, .infinite _ => f.infinity false
  | .finite _ xs xe, .finite _ ys ye =>
    let e0 := min xe ye
    let a := xs * Nat.pow 2 (xe - e0).toNat
    let b := ys * Nat.pow 2 (ye - e0).toNat
    sqrtScaled f (a * a + b * b) e0
  | _, _ => quietNaN f

/-- `ldexp` and `scalbn`: `x × 2^n`, rounded once. -/
def scaleBits (f : BinaryFormat) (x : Nat) (n : Int) : Nat :=
  match f.classify x with
  | .finite neg sig exp => if sig == 0 then x else f.ofFinite neg sig (exp + n)
  | _ => x

/-- `frexp`: a fraction of magnitude in `[1/2, 1)` and an exponent whose power of two it
is scaled by; zero, infinities and NaNs come back with exponent zero. -/
def frexpBits (f : BinaryFormat) (x : Nat) : Nat × Int :=
  match f.classify x with
  | .finite neg sig exp =>
    if sig == 0 then (x, 0)
    else
      let e := (sig.log2 : Int) + exp + 1
      (f.ofFinite neg sig (exp - e), e)
  | _ => (x, 0)

/-- `modf`: the fraction and the integral part, both with the sign of `x`. -/
def modfBits (f : BinaryFormat) (x : Nat) : Nat × Nat :=
  match f.classify x with
  | .finite neg sig exp =>
    if exp ≥ 0 then (f.zero neg, x)
    else
      let k := (-exp).toNat
      let whole := sig / Nat.pow 2 k
      let frac := sig % Nat.pow 2 k
      (if frac == 0 then f.zero neg else f.ofFinite neg frac exp,
       if whole == 0 then f.zero neg else f.ofFinite neg whole 0)
  | .infinite neg => (f.zero neg, x)
  | .nan => (x, x)

/-- `ilogb`: the exponent of `x`; the least `int` for zero and NaN, the greatest for
infinity. -/
def ilogbOf (f : BinaryFormat) (x : Nat) : Int :=
  match f.classify x with
  | .finite _ sig exp => if sig == 0 then -2147483648 else (sig.log2 : Int) + exp
  | .infinite _ => 2147483647
  | .nan => -2147483648

/-- `logb`: the exponent of `x` as a floating value; minus infinity for zero. -/
def logbBits (f : BinaryFormat) (x : Nat) : Nat :=
  match f.classify x with
  | .finite _ sig exp =>
    if sig == 0 then f.infinity true
    else
      let e := (sig.log2 : Int) + exp
      ofScaled f e 0 false
  | .infinite _ => f.infinity false
  | .nan => x

/-- The order of two patterns by value, zeros of either sign being equal; none when
either is a NaN. -/
def orderBits (f : BinaryFormat) (x y : Nat) : Option Ordering :=
  match f.classify x, f.classify y with
  | .nan, _ | _, .nan => none
  | .infinite a, .infinite b => some (if a == b then .eq else if a then .lt else .gt)
  | .infinite a, _ => some (if a then .lt else .gt)
  | _, .infinite b => some (if b then .gt else .lt)
  | .finite an as ae, .finite bn bs be =>
    let e0 := min ae be
    some (compare (scaledTo an as ae e0) (scaledTo bn bs be e0))

/-- `nextafter`: the representable number next to `x` in the direction of `y`; `y` itself
when they are equal. -/
def nextAfterBits (f : BinaryFormat) (x y : Nat) : Nat :=
  match orderBits f x y with
  | none => if (f.classify x) == .nan then x else y
  | some .eq => y
  | some o =>
    let sign := f.signBit
    let mag := x % sign
    let neg := x ≥ sign
    if o == .lt then (if mag == 0 then 1 else if neg then x - 1 else x + 1)
    else (if mag == 0 then sign + 1 else if neg then x + 1 else x - 1)

/-- `fmin` and `fmax`: the lesser or greater, the second when they are equal, and a NaN
operand giving way to the other. -/
def minMaxBits (f : BinaryFormat) (greater : Bool) (x y : Nat) : Nat :=
  match orderBits f x y with
  | none => if (f.classify x) == .nan then y else x
  | some o => if (greater && o == .gt) || (!greater && o == .lt) then x else y

end InlineC.Machine.Standard
