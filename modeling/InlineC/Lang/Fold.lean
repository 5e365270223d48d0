import InlineC.Lang.Arith

/-!
# Constant folding

Evaluating a checked expression without running anything: what array lengths, case
labels, enumeration values, bit-field widths and the initializers of static objects need.
A constant is a number of some kind, or an address: an object with a static address plus
an offset, as the loader fills in.

An expression that reads memory, calls, or has a side effect is not constant; neither is an
operation that would trap. A conditional with a constant condition is constant when the
operand it chooses is, whatever the other one is.
-/

namespace InlineC.Lang

/-- A constant: a number with its kind (a narrow pattern, or a wide one), or an address. -/
inductive CVal where
  | num (k : NumKind) (v : Nat)
  | addr (s : Sym) (off : Int)
  deriving DecidableEq, Repr, Inhabited

namespace CVal

/-- The integer a constant stands for, when it is an integer. -/
def toInt? : CVal → Option Int
  | .num k v =>
    if k.isFloat then none
    else if k.wide then some (Arith.wideToInt k v)
    else some (Arith.toInt k (UInt64.ofNat v))
  | .addr .. => none

/-- Whether a constant is nonzero; an address is. -/
def truth : CVal → Bool
  | .num k v => if k.wide then Arith.wideTruth k v else Arith.truth k (UInt64.ofNat v)
  | .addr .. => true

end CVal

/-- Population count of the low `bits` bits. -/
def popcountBits (v : Nat) (bits : Nat) : Nat :=
  (List.range bits).foldl (fun acc i => acc + v / Arith.pow2 i % 2) 0

/-- Leading zeros of a value of `bits` bits. -/
def leadingZeros (v : Nat) (bits : Nat) : Nat :=
  ((List.range bits).reverse.findIdx? fun i => v / Arith.pow2 i % 2 == 1).getD bits

/-- Trailing zeros of a value of `bits` bits. -/
def trailingZeros (v : Nat) (bits : Nat) : Nat :=
  ((List.range bits).findIdx? fun i => v / Arith.pow2 i % 2 == 1).getD bits

/-- Reverse the octets of a value of `bytes` octets. -/
def byteSwap (v : Nat) (bytes : Nat) : Nat :=
  (List.range bytes).foldl (fun acc i => acc * 256 + v / Arith.pow2 (8 * i) % 256) 0

/-- The value of a bit operation on an operand of kind `k`: none when it has no defined
result. -/
def evalBits (b : BitOp) (k : NumKind) (v : Nat) : Option Nat :=
  let bits := 8 * k.size
  let x := v % Arith.pow2 bits
  match b with
  | .popcount => some (popcountBits x bits)
  | .parity => some (popcountBits x bits % 2)
  | .clz => if x == 0 then none else some (leadingZeros x bits)
  | .ctz => if x == 0 then none else some (trailingZeros x bits)
  | .ffs => some (if x == 0 then 0 else trailingZeros x bits + 1)
  | .clrsb =>
    let neg := x / Arith.pow2 (bits - 1) % 2 == 1
    let y := if neg then Arith.pow2 bits - 1 - x else x
    some (leadingZeros y bits - 1)
  | .bswap => some (byteSwap x k.size)

/-- Fold a conversion of a constant. -/
def foldConv (src dst : NumKind) (c : CVal) : Option CVal :=
  match c with
  | .num _ v => some (.num dst (Arith.convert src dst v))
  | .addr s off => if dst == .u64 || dst == .i64 then some (.addr s off)
    else if dst == .bool then some (.num .bool 1) else none

/-- Fold a binary operation on constants. -/
def foldBinary (op : BinOp) (k : NumKind) (a b : CVal) : Option CVal :=
  match a, b with
  | .num _ x, .num _ y =>
    if k.wide then
      let y' := if op == .shl || op == .shr then y % Arith.pow2 64 else y
      (Arith.wideBin op k x y').map fun r => if op.isCompare then .num .i32 r else .num k r
    else
      (Arith.bin op k (UInt64.ofNat x) (UInt64.ofNat y)).map fun r =>
        if op.isCompare then .num .i32 r.toNat else .num k r.toNat
  | .addr s off, .num _ y =>
    let i := Arith.toInt .i64 (UInt64.ofNat y)
    match op with
    | .add => some (.addr s (off + i))
    | .sub => some (.addr s (off - i))
    | .ne => if y == 0 then some (.num .i32 1) else none
    | .eq => if y == 0 then some (.num .i32 0) else none
    | _ => none
  | .num _ x, .addr s off =>
    match op with
    | .add => some (.addr s (off + Arith.toInt .i64 (UInt64.ofNat x)))
    | .ne => if x == 0 then some (.num .i32 1) else none
    | .eq => if x == 0 then some (.num .i32 0) else none
    | _ => none
  | .addr s o1, .addr t o2 =>
    if s == t then
      match op with
      | .sub => some (.num k (Arith.ofInt .i64 (o1 - o2)).toNat)
      | _ =>
        if op.isCompare then some (.num .i32 (if Arith.cmpInt op o1 o2 then 1 else 0)) else none
    else none

mutual

/-- Fold an expression; none when it is not constant. -/
def fold : TExpr → Option CVal
  | .const k v => some (.num k v.toNat)
  | .wideConst k _ lo hi => some (.num k (lo.toNat + hi.toNat * Arith.pow2 64))
  | .sym s off => some (.addr s off)
  | .conv src dst _ e => (fold e).bind (foldConv src dst)
  | .unary op k _ e =>
    match fold e with
    | some (.num _ v) =>
      if k.wide then
        some (.num k (match op with
          | .neg => Arith.wideNeg k v
          | .bnot => Arith.wideNot v))
      else
        some (.num k (match op with
          | .neg => Arith.neg k (UInt64.ofNat v)
          | .bnot => Arith.bnot k (UInt64.ofNat v)).toNat)
    | _ => none
  | .binary op k _ a b => do
    let x ← fold a
    let y ← fold b
    foldBinary op k x y
  | .truth _ e => (fold e).map fun c => .num .i32 (if c.truth then 1 else 0)
  | .land a b => do
    let x ← fold a
    if !x.truth then some (.num .i32 0)
    else (fold b).map fun c => .num .i32 (if c.truth then 1 else 0)
  | .lor a b => do
    let x ← fold a
    if x.truth then some (.num .i32 1)
    else (fold b).map fun c => .num .i32 (if c.truth then 1 else 0)
  | .cond c a b => do
    let x ← fold c
    if x.truth then fold a else fold b
  | .seq a b => do
    let _ ← fold a
    fold b
  | .builtin (.bits op k) [e] =>
    match fold e with
    | some (.num _ v) => (evalBits op k v).map fun r => .num (if op == .bswap then k else .i32) r
    | _ => none
  | _ => none

end

/-- The integer value of an integer constant expression. -/
def foldInt (e : TExpr) : Option Int := (fold e).bind CVal.toInt?

end InlineC.Lang
