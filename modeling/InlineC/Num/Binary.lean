/-!
# IEEE binary interchange formats

Doubles and singles are kept as their bit patterns, so values compare by equality and every
conversion is a function on bits. A conversion into a format rounds an exact value, a sign
with a quotient of two natural numbers, to the nearest representable number, ties to even,
with gradual underflow and overflow to infinity. This one rounding serves reading decimal
text, converting integers and narrowing doubles to singles.

Arithmetic on doubles and singles (the C operators) is left to the machine's float types,
which implement the same formats; conversions never go through them.
-/

namespace InlineC

/-- The shape of a binary interchange format. -/
structure BinaryFormat where
  /-- Stored significand bits, the leading bit not counted. -/
  fracBits : Nat
  /-- Bits of the exponent field. -/
  expBits : Nat
  deriving DecidableEq, Repr

namespace BinaryFormat

/-- The 64-bit format of C `double`. -/
def binary64 : BinaryFormat := ⟨52, 11⟩

/-- The 32-bit format of C `float`. -/
def binary32 : BinaryFormat := ⟨23, 8⟩

/-- The exponent bias. -/
def bias (f : BinaryFormat) : Nat := Nat.pow 2 (f.expBits - 1) - 1

/-- The biased exponent of infinities and NaNs. -/
def maxBiased (f : BinaryFormat) : Nat := Nat.pow 2 f.expBits - 1

/-- The weight of the lowest significand bit of subnormal numbers. -/
def minQuantum (f : BinaryFormat) : Int := 1 - (f.bias : Int) - f.fracBits

/-- The sign bit. -/
def signBit (f : BinaryFormat) : Nat := Nat.pow 2 (f.fracBits + f.expBits)

/-- The leading significand bit of normal numbers. -/
def hidden (f : BinaryFormat) : Nat := Nat.pow 2 f.fracBits

/-- A signed zero. -/
def zero (f : BinaryFormat) (neg : Bool) : Nat := if neg then f.signBit else 0

/-- A signed infinity. -/
def infinity (f : BinaryFormat) (neg : Bool) : Nat := f.zero neg + f.maxBiased * f.hidden

/-- The sign, biased exponent and stored significand of a pattern. -/
def fields (f : BinaryFormat) (bits : Nat) : Bool × Nat × Nat :=
  (bits / f.signBit % 2 == 1, bits / f.hidden % Nat.pow 2 f.expBits, bits % f.hidden)

/-- The pattern of `sig × 2 ^ q`. A significand below the leading bit is subnormal and then
`q` is the subnormal weight; an exponent beyond the format gives infinity. -/
def encode (f : BinaryFormat) (neg : Bool) (sig : Nat) (q : Int) : Nat :=
  if sig < f.hidden then f.zero neg + sig
  else
    let biased := q + f.fracBits + f.bias
    if biased ≥ f.maxBiased then f.infinity neg
    else f.zero neg + biased.toNat * f.hidden + (sig - f.hidden)

/-- The exponent `e` with `2 ^ e ≤ num / den < 2 ^ (e + 1)`, for positive `num` and `den`. -/
def floorLog2 (num den : Nat) : Int :=
  let e0 : Int := (num.log2 : Int) - den.log2
  let atLeast := if e0 ≥ 0 then num ≥ den * Nat.pow 2 e0.toNat else num * Nat.pow 2 (-e0).toNat ≥ den
  if atLeast then e0 else e0 - 1

/-- Round `num / den`, with the given sign, to the nearest pattern, ties to even. -/
def round (f : BinaryFormat) (neg : Bool) (num den : Nat) : Nat :=
  if num = 0 ∨ den = 0 then f.zero neg
  else
    let q := max (floorLog2 num den - f.fracBits) f.minQuantum
    let (n, d) := if q ≥ 0 then (num, den * Nat.pow 2 q.toNat) else (num * Nat.pow 2 (-q).toNat, den)
    let whole := n / d
    let rest := n % d
    let up := 2 * rest > d || (2 * rest == d && whole % 2 == 1)
    let sig := if up then whole + 1 else whole
    if sig = 2 * f.hidden then f.encode neg f.hidden (q + 1) else f.encode neg sig q

/-- What a pattern stands for. -/
inductive Class where
  | nan
  | infinite (neg : Bool)
  /-- `(-1) ^ neg × sig × 2 ^ exp`; zeros have a zero significand. -/
  | finite (neg : Bool) (sig : Nat) (exp : Int)
  deriving DecidableEq, Repr

/-- Classify a pattern. -/
def classify (f : BinaryFormat) (bits : Nat) : Class :=
  let (neg, biased, frac) := f.fields bits
  if biased = f.maxBiased then (if frac = 0 then .infinite neg else .nan)
  else if biased = 0 then .finite neg frac f.minQuantum
  else .finite neg (frac + f.hidden) ((biased : Int) - f.bias - f.fracBits)

/-- The pattern of an exactly given finite value. -/
def ofFinite (f : BinaryFormat) (neg : Bool) (sig : Nat) (exp : Int) : Nat :=
  if exp ≥ 0 then f.round neg (sig * Nat.pow 2 exp.toNat) 1 else f.round neg sig (Nat.pow 2 (-exp).toNat)

end BinaryFormat

/-- A C `double`, by its bit pattern. -/
structure Binary64 where
  bits : UInt64
  deriving DecidableEq, Repr, Inhabited

/-- A C `float`, by its bit pattern. -/
structure Binary32 where
  bits : UInt32
  deriving DecidableEq, Repr, Inhabited

namespace Binary64

/-- The double nearest to `num / den` with the given sign. -/
def ofRatio (neg : Bool) (num den : Nat) : Binary64 :=
  ⟨(BinaryFormat.binary64.round neg num den).toUInt64⟩

/-- The double nearest to an integer. -/
def ofInt (i : Int) : Binary64 := ofRatio (i < 0) i.natAbs 1

/-- Positive zero. -/
def zero : Binary64 := ⟨0⟩

/-- The quiet NaN the machine produces. -/
def nan : Binary64 := ⟨0x7FF8000000000000⟩

/-- A signed infinity. -/
def infinity (neg : Bool) : Binary64 := ⟨(BinaryFormat.binary64.infinity neg).toUInt64⟩

/-- What the double stands for. -/
def classify (x : Binary64) : BinaryFormat.Class := BinaryFormat.binary64.classify x.bits.toNat

/-- Whether the double is a NaN. -/
def isNaN (x : Binary64) : Bool := x.classify == .nan

/-- Whether the double is zero of either sign. -/
def isZero (x : Binary64) : Bool := x.bits &&& 0x7FFFFFFFFFFFFFFF == 0

/-- The integer part, rounding toward zero; none for NaNs and infinities. -/
def truncate (x : Binary64) : Option Int :=
  match x.classify with
  | .finite neg sig exp =>
    let mag : Nat := if exp ≥ 0 then sig * Nat.pow 2 exp.toNat else sig / Nat.pow 2 (-exp).toNat
    some (if neg then -(mag : Int) else mag)
  | _ => none

/-- The machine float with these bits. -/
def toFloat (x : Binary64) : Float := Float.ofBits x.bits

/-- The bits of a machine float. -/
def ofFloat (f : Float) : Binary64 := ⟨f.toBits⟩

/-- The single nearest to a double; NaNs stay quiet NaNs with the top of their payload. -/
def toBinary32 (x : Binary64) : Binary32 :=
  match x.classify with
  | .nan =>
    let sign : UInt32 := if x.bits >>> 63 == 1 then 0x80000000 else 0
    ⟨sign ||| (0x7FC00000 : UInt32) ||| ((x.bits >>> 29).toUInt32 &&& (0x003FFFFF : UInt32))⟩
  | .infinite neg => ⟨(BinaryFormat.binary32.infinity neg).toUInt32⟩
  | .finite neg sig exp => ⟨(BinaryFormat.binary32.ofFinite neg sig exp).toUInt32⟩

end Binary64

namespace Binary32

/-- The double with the same value; NaNs keep their payload. -/
def toBinary64 (x : Binary32) : Binary64 :=
  match BinaryFormat.binary32.classify x.bits.toNat with
  | .nan =>
    let sign : UInt64 := if x.bits >>> 31 == 1 then 0x8000000000000000 else 0
    ⟨sign ||| (0x7FF8000000000000 : UInt64) ||| ((x.bits.toUInt64 &&& (0x003FFFFF : UInt64)) <<< (29 : UInt64))⟩
  | .infinite neg => Binary64.infinity neg
  | .finite neg sig exp => ⟨(BinaryFormat.binary64.ofFinite neg sig exp).toUInt64⟩

/-- The single nearest to `num / den` with the given sign. -/
def ofRatio (neg : Bool) (num den : Nat) : Binary32 :=
  ⟨(BinaryFormat.binary32.round neg num den).toUInt32⟩

/-- The single nearest to an integer. -/
def ofInt (i : Int) : Binary32 := ofRatio (i < 0) i.natAbs 1

/-- The machine single with these bits. -/
def toFloat32 (x : Binary32) : Float32 := Float32.ofBits x.bits

/-- The bits of a machine single. -/
def ofFloat32 (f : Float32) : Binary32 := ⟨f.toBits⟩

/-- The integer part, rounding toward zero; none for NaNs and infinities. -/
def truncate (x : Binary32) : Option Int := x.toBinary64.truncate

end Binary32

/-- Rounding zero gives the zero of the requested sign. -/
theorem BinaryFormat.round_zero (f : BinaryFormat) (neg : Bool) (den : Nat) :
    f.round neg 0 den = f.zero neg := by
  simp [BinaryFormat.round]

end InlineC
