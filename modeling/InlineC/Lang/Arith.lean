import InlineC.Lang.Core
import InlineC.Num.Extended

/-!
# Operations on values

The target's arithmetic, x86-64 with SSE for `float` and `double` and the x87 unit for
`long double`, shared by constant folding and the machine so that both compute alike.

A narrow value is a 64-bit pattern: an integer kept sign- or zero-extended from its width,
a double's bits, a single's bits in the low half. A wide value (a 128-bit integer or an
extended float) is a natural number of at most 128 bits.

* Integer arithmetic wraps at the width of its kind; division truncates toward zero, and
  division by zero, or of the least value by minus one, traps.
* Shift counts are taken modulo the width of the operation.
* Floating arithmetic is IEEE 754 in the precision of its type.
* Converting a floating value to an integer truncates it; a value out of range gives the
  processor's "integer indefinite" pattern, as the conversion instructions do, and the
  unsigned 64-bit conversion is the compiler's two-step sequence around it.
* Converting an integer to a floating type rounds to nearest, ties to even.
-/

namespace InlineC.Lang.Arith

/-- Two to the power of `n`. -/
def pow2 (n : Nat) : Nat := Nat.pow 2 n

/-- Wrap a pattern to the width of a narrow integer kind and extend it back to 64 bits. -/
def norm (k : NumKind) (v : UInt64) : UInt64 :=
  match k with
  | .bool => if v == 0 then 0 else 1
  | .i8 => ((v <<< 56).toInt64 >>> 56).toUInt64
  | .u8 => v &&& 0xFF
  | .i16 => ((v <<< 48).toInt64 >>> 48).toUInt64
  | .u16 => v &&& 0xFFFF
  | .i32 => ((v <<< 32).toInt64 >>> 32).toUInt64
  | .u32 => v &&& 0xFFFFFFFF
  | .f32 => v &&& 0xFFFFFFFF
  | _ => v

/-- The integer a narrow pattern stands for in a kind. -/
def toInt (k : NumKind) (v : UInt64) : Int :=
  if k.signed then v.toInt64.toInt else v.toNat

/-- The narrow pattern of an integer in a kind. -/
def ofInt (k : NumKind) (i : Int) : UInt64 :=
  norm k (UInt64.ofNat (i % Int.pow 2 64).toNat)

/-- The integer a wide pattern stands for in a kind. -/
def wideToInt (k : NumKind) (v : Nat) : Int :=
  let v := v % pow2 128
  if k.signed && v ≥ pow2 127 then (v : Int) - Int.pow 2 128 else v

/-- The wide pattern of an integer. -/
def wideOfInt (i : Int) : Nat := (i % Int.pow 2 128).toNat

/-- The processor's pattern for an out-of-range conversion to 64 bits. -/
def indefinite : UInt64 := 0x8000000000000000

/-- The double nearest to a signed 64-bit integer. -/
def doubleOfSigned (v : UInt64) : UInt64 := (Binary64.ofInt v.toInt64.toInt).bits

/-- The single nearest to a signed 64-bit integer. -/
def singleOfSigned (v : UInt64) : UInt64 := (Binary32.ofInt v.toInt64.toInt).bits.toUInt64

/-- Truncate a floating value, given as its integer part when finite, to a 32-bit
conversion. -/
def trunc32 (t : Option Int) : UInt64 :=
  match t with
  | some i => if -(Int.pow 2 31) ≤ i ∧ i < Int.pow 2 31 then ofInt .i32 i else 0xFFFFFFFF80000000
  | none => 0xFFFFFFFF80000000

/-- Truncate to a 64-bit signed conversion. -/
def trunc64 (t : Option Int) : UInt64 :=
  match t with
  | some i => if -(Int.pow 2 63) ≤ i ∧ i < Int.pow 2 63 then ofInt .i64 i else indefinite
  | none => indefinite

/-- The unsigned 64-bit conversion: values below `2^63` convert directly, larger ones
after subtracting `2^63`, and a NaN or a value out of range ends as the indefinite
pattern with its top bit flipped. -/
def truncU64 (t : Option Int) : UInt64 :=
  match t with
  | some i =>
    if i < Int.pow 2 63 then trunc64 (some i)
    else trunc64 (some (i - Int.pow 2 63)) ^^^ indefinite
  | none => 0

/-- Convert the integer part of a floating value (none for NaNs and infinities) to an
integer kind of at most 64 bits. -/
def truncateTo (k : NumKind) (t : Option Int) (nonzero : Bool) : UInt64 :=
  match k with
  | .bool => if nonzero then 1 else 0
  | .i8 | .u8 | .i16 | .u16 | .i32 => norm k (trunc32 t)
  | .u32 | .i64 => norm k (trunc64 t)
  | _ => truncU64 t

/-- The integer part of a narrow floating pattern. -/
def floatTrunc (k : NumKind) (v : UInt64) : Option Int :=
  match k with
  | .f32 => (Binary32.mk v.toUInt32).truncate
  | _ => (Binary64.mk v).truncate

/-- Whether a narrow floating pattern is nonzero (NaNs are). -/
def floatNonzero (k : NumKind) (v : UInt64) : Bool :=
  match k with
  | .f32 => v &&& 0x7FFFFFFF != 0
  | _ => v &&& 0x7FFFFFFFFFFFFFFF != 0

/-- Whether a narrow value is nonzero in its kind. -/
def truth (k : NumKind) (v : UInt64) : Bool :=
  if k.isFloat then floatNonzero k v else v != 0

/-- Convert between narrow kinds. -/
def convNarrow (src dst : NumKind) (v : UInt64) : UInt64 :=
  match src.isFloat, dst.isFloat with
  | false, false => norm dst v
  | false, true =>
    match dst with
    | .f32 =>
      if src.signed then singleOfSigned v else (Binary32.ofInt v.toNat).bits.toUInt64
    | _ => if src.signed then doubleOfSigned v else (Binary64.ofInt v.toNat).bits
  | true, false => truncateTo dst (floatTrunc src v) (floatNonzero src v)
  | true, true =>
    match src, dst with
    | .f32, .f64 => (Binary32.toBinary64 ⟨v.toUInt32⟩).bits
    | .f64, .f32 => (Binary64.toBinary32 ⟨v⟩).bits.toUInt64
    | _, _ => v

/-- The extended pattern of a value of any kind. -/
def toExtended (k : NumKind) (v : Nat) : Nat :=
  match k with
  | .f80 => v
  | .f64 => Extended.ofBinary64 ⟨UInt64.ofNat v⟩
  | .f32 => Extended.ofBinary64 (Binary32.toBinary64 ⟨UInt32.ofNat v⟩)
  | .i128 | .u128 => Extended.ofInt (wideToInt k v)
  | _ => Extended.ofInt (toInt k (UInt64.ofNat v))

/-- Convert between any kinds; narrow patterns are given and returned as numbers. -/
def convert (src dst : NumKind) (v : Nat) : Nat :=
  if !src.wide && !dst.wide then (convNarrow src dst (UInt64.ofNat v)).toNat
  else
    match dst with
    | .f80 => toExtended src v
    | .i128 | .u128 =>
      match src with
      | .f80 => match Extended.truncate v with
        | some i => if -(Int.pow 2 127) ≤ i ∧ i < Int.pow 2 128 then wideOfInt i else pow2 127
        | none => pow2 127
      | .f32 | .f64 =>
        match floatTrunc src (UInt64.ofNat v) with
        | some i => if -(Int.pow 2 127) ≤ i ∧ i < Int.pow 2 128 then wideOfInt i else pow2 127
        | none => pow2 127
      | .i128 | .u128 => v % pow2 128
      | _ => wideOfInt (toInt src (UInt64.ofNat v))
    | _ =>
      -- a wide source to a narrow destination
      match src with
      | .f80 =>
        match dst with
        | .f64 => (Extended.toBinary64 v).bits.toNat
        | .f32 => (Binary64.toBinary32 (Extended.toBinary64 v)).bits.toNat
        | _ => (truncateTo dst (Extended.truncate v) (!Extended.isZero v)).toNat
      | _ =>
        let i := wideToInt src v
        match dst with
        | .f64 => (Binary64.ofInt i).bits.toNat
        | .f32 => (Binary32.ofInt i).bits.toNat
        | _ => (if dst == .bool then (if i == 0 then 0 else 1) else ofInt dst i).toNat

/-- The width of an integer operation, for shift counts. -/
def shiftMask (k : NumKind) : UInt64 := if k.size == 8 then 63 else 31

/-- Compare two integers. -/
def cmpInt (op : BinOp) (x y : Int) : Bool :=
  match op with
  | .eq => x == y
  | .ne => x != y
  | .lt => x < y
  | .le => x ≤ y
  | .gt => x > y
  | _ => x ≥ y

/-- Compare by an ordering, none for unordered: only `!=` holds then. -/
def cmpOrd (op : BinOp) (o : Option Ordering) : Bool :=
  match o with
  | none => op == .ne
  | some o =>
    match op with
    | .eq => o == .eq
    | .ne => o != .eq
    | .lt => o == .lt
    | .le => o != .gt
    | .gt => o == .gt
    | _ => o != .lt

/-- The result of a comparison as a value. -/
def ofBool (b : Bool) : UInt64 := if b then 1 else 0

/-- Integer arithmetic on narrow kinds; none when it traps. -/
def intBin (op : BinOp) (k : NumKind) (a b : UInt64) : Option UInt64 :=
  match op with
  | .add => some (norm k (a + b))
  | .sub => some (norm k (a - b))
  | .mul => some (norm k (a * b))
  | .div | .rem =>
    if b == 0 then none
    else if k.signed then
      let x := toInt k a
      let y := toInt k b
      let least : Int := -(Int.pow 2 (8 * k.size - 1))
      if x == least && y == -1 then none
      else some (ofInt k (if op == .div then x.tdiv y else x.tmod y))
    else some (norm k (if op == .div then a / b else a % b))
  | .shl => some (norm k (a <<< (b &&& shiftMask k)))
  | .shr =>
    let n := b &&& shiftMask k
    if k.signed then some (norm k (a.toInt64 >>> n.toInt64).toUInt64) else some (norm k (a >>> n))
  | .band => some (a &&& b)
  | .bor => some (a ||| b)
  | .bxor => some (norm k (a ^^^ b))
  | _ =>
    if k.signed then some (ofBool (cmpInt op a.toInt64.toInt b.toInt64.toInt))
    else some (ofBool (cmpInt op a.toNat b.toNat))

/-- Double arithmetic and comparisons. -/
def doubleBin (op : BinOp) (a b : UInt64) : UInt64 :=
  let x := Float.ofBits a
  let y := Float.ofBits b
  match op with
  | .add => (x + y).toBits
  | .sub => (x - y).toBits
  | .mul => (x * y).toBits
  | .div => (x / y).toBits
  | .eq => ofBool (x == y)
  | .ne => ofBool !(x == y)
  | .lt => ofBool (x < y)
  | .le => ofBool (x ≤ y)
  | .gt => ofBool (y < x)
  | .ge => ofBool (y ≤ x)
  | _ => 0

/-- Single arithmetic and comparisons. -/
def singleBin (op : BinOp) (a b : UInt64) : UInt64 :=
  let x := Float32.ofBits a.toUInt32
  let y := Float32.ofBits b.toUInt32
  match op with
  | .add => (x + y).toBits.toUInt64
  | .sub => (x - y).toBits.toUInt64
  | .mul => (x * y).toBits.toUInt64
  | .div => (x / y).toBits.toUInt64
  | .eq => ofBool (x == y)
  | .ne => ofBool !(x == y)
  | .lt => ofBool (x < y)
  | .le => ofBool (x ≤ y)
  | .gt => ofBool (y < x)
  | .ge => ofBool (y ≤ x)
  | _ => 0

/-- A binary operation on narrow values; none when it traps. -/
def bin (op : BinOp) (k : NumKind) (a b : UInt64) : Option UInt64 :=
  match k with
  | .f64 => some (doubleBin op a b)
  | .f32 => some (singleBin op a b)
  | _ => intBin op k a b

/-- Negation of a narrow value. -/
def neg (k : NumKind) (v : UInt64) : UInt64 :=
  match k with
  | .f64 => v ^^^ 0x8000000000000000
  | .f32 => (v ^^^ 0x80000000) &&& 0xFFFFFFFF
  | _ => norm k (0 - v)

/-- Bitwise complement of a narrow value. -/
def bnot (k : NumKind) (v : UInt64) : UInt64 := norm k (~~~v)

/-- A binary operation on wide values; comparisons give 0 or 1. None when it traps. -/
def wideBin (op : BinOp) (k : NumKind) (a b : Nat) : Option Nat :=
  if k == .f80 then
    match op with
    | .add => some (Extended.add a b)
    | .sub => some (Extended.sub a b)
    | .mul => some (Extended.mul a b)
    | .div => some (Extended.div a b)
    | _ => some (if cmpOrd op (Extended.compare a b) then 1 else 0)
  else
    let x := wideToInt k a
    let y := wideToInt k b
    let wrap := fun (i : Int) => wideOfInt i
    match op with
    | .add => some (wrap (x + y))
    | .sub => some (wrap (x - y))
    | .mul => some (wrap (x * y))
    | .div | .rem =>
      if y == 0 then none
      else if k.signed && x == -(Int.pow 2 127) && y == -1 then none
      else some (wrap (if op == .div then x.tdiv y else x.tmod y))
    | .shl => some (wrap (x * Int.pow 2 (b % 128)))
    | .shr =>
      let n := b % 128
      if k.signed then some (wrap (x / Int.pow 2 n)) else some (a % pow2 128 / pow2 n)
    | .band => some (a &&& b)
    | .bor => some (a ||| b)
    | .bxor => some ((a ^^^ b) % pow2 128)
    | _ => some (if cmpInt op x y then 1 else 0)

/-- Negation of a wide value. -/
def wideNeg (k : NumKind) (v : Nat) : Nat :=
  if k == .f80 then Extended.neg v else wideOfInt (-(wideToInt k v))

/-- Bitwise complement of a wide value. -/
def wideNot (v : Nat) : Nat := pow2 128 - 1 - v % pow2 128

/-- Whether a wide value is nonzero. -/
def wideTruth (k : NumKind) (v : Nat) : Bool :=
  if k == .f80 then !Extended.isZero v else v % pow2 128 != 0

end InlineC.Lang.Arith
