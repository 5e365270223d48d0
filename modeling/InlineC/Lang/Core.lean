import InlineC.Lang.Type

/-!
# The checked program

What the checker hands on: expressions and statements with every name resolved to storage,
every implicit conversion explicit, and every memory access sized.

A value is a 64-bit pattern. How it is read depends on the operation using it, named by a
`NumKind`: an integer of some width (kept sign- or zero-extended from it), a single's bits
in the low half, a double's bits, or an address. Values that do not fit in 64 bits, the
128-bit integers and the 80-bit `long double`, are kept in memory like structures: an
expression of such a type gives the address of its value, and each operation that makes
one writes it to a temporary object of its own.

Locals are numbered per function. A local whose address is never taken may live outside
memory; which ones do is decided when the function is laid out.
-/

namespace InlineC.Lang

/-- How a value is represented and computed. -/
inductive NumKind where
  | bool | i8 | u8 | i16 | u16 | i32 | u32 | i64 | u64 | i128 | u128 | f32 | f64 | f80
  deriving DecidableEq, Repr, Inhabited, Hashable

namespace NumKind

/-- Octets a value of the kind occupies in memory. -/
def size : NumKind → Nat
  | .bool | .i8 | .u8 => 1
  | .i16 | .u16 => 2
  | .i32 | .u32 | .f32 => 4
  | .i64 | .u64 | .f64 => 8
  | .i128 | .u128 | .f80 => 16

/-- Whether the kind is a floating one. -/
def isFloat : NumKind → Bool
  | .f32 | .f64 | .f80 => true
  | _ => false

/-- Whether the kind is a signed integer. -/
def signed : NumKind → Bool
  | .i8 | .i16 | .i32 | .i64 | .i128 => true
  | _ => false

/-- Whether values of the kind are kept in memory. -/
def wide : NumKind → Bool
  | .i128 | .u128 | .f80 => true
  | _ => false

/-- The integer kind of a given size and signedness. -/
def ofInt (size : Nat) (signed : Bool) : NumKind :=
  match size, signed with
  | 1, true => .i8 | 1, false => .u8
  | 2, true => .i16 | 2, false => .u16
  | 4, true => .i32 | 4, false => .u32
  | 8, true => .i64 | 8, false => .u64
  | _, true => .i128 | _, false => .u128

end NumKind

/-- The kind of an integer type on a target. -/
def IntKind.num (t : Target) (k : IntKind) : NumKind :=
  if k == .bool then .bool else NumKind.ofInt k.size (k.signedIn t)

/-- The kind of a floating type. -/
def FloatKind.num : FloatKind → NumKind
  | .float => .f32
  | .double => .f64
  | .ldouble => .f80

/-- The kind a scalar type computes as; pointers compute as unsigned 64-bit integers. -/
def CType.num? (t : Target) : CType → Option NumKind
  | .int k | .enum _ k => some (k.num t)
  | .float k => some k.num
  | .ptr _ => some .u64
  | _ => none

/-- Unary operators. -/
inductive UnOp where
  | neg | bnot
  deriving DecidableEq, Repr, Inhabited

/-- Binary operators; comparisons give 1 or 0 as an `int`. -/
inductive BinOp where
  | add | sub | mul | div | rem | shl | shr | band | bor | bxor
  | eq | ne | lt | le | gt | ge
  deriving DecidableEq, Repr, Inhabited

/-- Whether an operator compares. -/
def BinOp.isCompare : BinOp → Bool
  | .eq | .ne | .lt | .le | .gt | .ge => true
  | _ => false

/-- An object with a static address. -/
inductive Sym where
  | global (name : String)
  | func (name : String)
  /-- A string literal, by number. -/
  | string (id : Nat)
  deriving DecidableEq, Repr, Inhabited, Hashable

/-- How an argument travels: one 64-bit value, the two halves of a value kept in memory,
or the octets of a structure. -/
inductive ArgClass where
  | word (k : NumKind)
  | wide (k : NumKind)
  | record (size : Nat) (align : Nat)
  deriving DecidableEq, Repr, Inhabited

/-- How a result comes back. A wide value and a structure are written to the temporary
object given, whose address is the call's value. -/
inductive RetClass where
  | void
  | word (k : NumKind)
  | wide (k : NumKind) (tmp : Nat)
  | record (size : Nat) (tmp : Nat)
  deriving DecidableEq, Repr, Inhabited

/-- Operations on the bits of an integer. -/
inductive BitOp where
  | popcount | clz | ctz | ffs | parity | clrsb | bswap
  deriving DecidableEq, Repr, Inhabited

/-- Operations on values that the machine provides directly. -/
inductive Builtin where
  /-- A bit operation on an operand of kind `k`. -/
  | bits (op : BitOp) (k : NumKind)
  /-- `__builtin_*_overflow`: the operands, of kinds `ka` and `kb`, then the address of
  the result, of kind `r`. The exact result is stored wrapped; the value tells whether it
  did not fit. -/
  | overflow (op : BinOp) (ka kb r : NumKind) (store : Bool)
  | isnan (k : NumKind) | isinfSign (k : NumKind) | isfinite (k : NumKind)
  | isnormal (k : NumKind) | signbit (k : NumKind)
  | fabs (k : NumKind) | copysign (k : NumKind)
  | frameAddress
  | trap
  | unreachable
  deriving DecidableEq, Repr, Inhabited

mutual

/-- Checked expressions. -/
inductive TExpr where
  /-- A constant of at most 64 bits. -/
  | const (k : NumKind) (v : UInt64)
  /-- A 128-bit constant, written to the temporary object `tmp`; the value is its address. -/
  | wideConst (k : NumKind) (tmp : Nat) (lo hi : UInt64)
  /-- The address of an object with a static address, plus an offset. -/
  | sym (s : Sym) (off : Int)
  /-- The value of local `id`. -/
  | local (id : Nat)
  /-- Set local `id`; the value is the new value. -/
  | setLocal (id : Nat) (e : TExpr)
  /-- The address of local `id`. -/
  | addr (id : Nat)
  /-- The address of octet `off` of the current call's frame. -/
  | frame (off : Nat)
  /-- Read a value of at most 64 bits. -/
  | load (k : NumKind) (a : TExpr)
  /-- Write a value of at most 64 bits; the value is the one written. -/
  | store (k : NumKind) (a v : TExpr)
  /-- Read a bit-field: the unit's kind, the bit position and the width. -/
  | loadBits (k : NumKind) (a : TExpr) (pos width : Nat)
  /-- Write a bit-field; the value is the field's new value. -/
  | storeBits (k : NumKind) (a : TExpr) (pos width : Nat) (v : TExpr)
  /-- Copy octets; the value is the destination. -/
  | copy (size : Nat) (dst src : TExpr)
  /-- Zero octets; the value is the destination. -/
  | zero (size : Nat) (dst : TExpr)
  /-- Convert between kinds; a wide result goes to the temporary object `tmp`. -/
  | conv (src dst : NumKind) (tmp : Nat) (e : TExpr)
  | unary (op : UnOp) (k : NumKind) (tmp : Nat) (e : TExpr)
  /-- A binary operation on operands of kind `k`; a wide result goes to `tmp`. For shifts
  the right operand is a 64-bit count. -/
  | binary (op : BinOp) (k : NumKind) (tmp : Nat) (a b : TExpr)
  /-- Whether a scalar of kind `k` is nonzero, as 1 or 0. -/
  | truth (k : NumKind) (e : TExpr)
  /-- Logical and, or of truth values. -/
  | land (a b : TExpr)
  | lor (a b : TExpr)
  /-- Choose by a truth value. -/
  | cond (c a b : TExpr)
  | seq (a b : TExpr)
  /-- A call: the function's address, the arguments with their classes, how many of them
  are fixed parameters when the callee takes extra ones, and how the result comes. -/
  | call (f : TExpr) (args : List TExpr) (classes : List ArgClass) (fixed : Option Nat)
      (ret : RetClass)
  /-- Start reading extra arguments into the argument list at the address. -/
  | vaStart (ap : TExpr)
  /-- The next extra argument: a word, a wide value copied to `tmp`, or a structure
  whose address is given. -/
  | vaArg (ap : TExpr) (c : ArgClass) (tmp : Nat)
  /-- Octets on the current call's stack, freed when it returns. -/
  | alloca (size : TExpr)
  | builtin (b : Builtin) (args : List TExpr)
  /-- Statements, then an expression: a statement expression. -/
  | stmts (body : List TStmt) (result : TExpr)
  deriving Repr, Inhabited

/-- Checked statements. -/
inductive TStmt where
  | expr (e : TExpr)
  /-- A block, with the calls its cleanup attributes run when control leaves it. -/
  | block (ss : List TStmt) (cleanups : List TExpr)
  | ite (c : TExpr) (t e : TStmt)
  /-- A loop: the test (when `testFirst`, before each round, else after the first),
  the body, the step. -/
  | loop (c : Option TExpr) (body : TStmt) (step : Option TExpr) (testFirst : Bool)
  | ret (e : Option TExpr)
  | brk
  | cont
  /-- A switch: the value and its kind, the case ranges with the number of their label, the
  default label, and the body. -/
  | switch (e : TExpr) (k : NumKind) (cases : List (UInt64 × UInt64 × Nat)) (dflt : Option Nat)
      (body : TStmt)
  /-- Where case label number `n` stands. -/
  | caseLabel (n : Nat)
  | label (name : String)
  | goto (name : String)
  /-- Jump to the label whose address is the value. -/
  | gotoAddr (e : TExpr)
  deriving Repr, Inhabited

end

/-- A local of a function. -/
structure Local where
  size : Nat
  align : Nat
  /-- The kind, when the local holds one scalar of at most 64 bits. -/
  kind : Option NumKind
  /-- Its address is taken, so it lives in memory. -/
  addressed : Bool := false
  deriving Repr, Inhabited

/-- A checked function. -/
structure Function where
  name : String
  /-- The parameters: their locals and how each travels. -/
  params : List (Nat × ArgClass)
  /-- The result comes back in memory the caller names. -/
  ret : RetClass
  variadic : Bool
  locals : Array Local
  body : TStmt
  /-- Other units may call it. -/
  exported : Bool
  deriving Repr, Inhabited

/-- An element of a global's initial contents: octets at an offset, or an address. -/
inductive GInit where
  | bytes (off : Nat) (data : List UInt8)
  | addr (off : Nat) (s : Sym) (addend : Int)
  deriving Repr, Inhabited

/-- A checked global object. -/
structure Global where
  name : String
  size : Nat
  align : Nat
  init : List GInit
  exported : Bool
  deriving Repr, Inhabited

/-- A checked translation unit. -/
structure Program where
  functions : Array Function
  globals : Array Global
  /-- String literals with their terminators, by number. -/
  strings : Array (List UInt8)
  /-- Functions run when the library is loaded, in order. -/
  constructors : List String
  /-- Functions and objects declared and used but not defined in the unit. -/
  externals : List String
  /-- Those of the externals that a system header declares or the C library is known to
  define. -/
  system : List String
  deriving Repr, Inhabited

end InlineC.Lang
