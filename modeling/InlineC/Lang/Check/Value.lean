import InlineC.Lang.Check.State

/-!
# Values and conversions

Turning checked operands into values and converting them. Reading a place gives its value;
an array gives the address of its first element and a function its own address; a
structure, a union and a wide scalar are represented by their address.

Conversions follow the language: arithmetic values convert by value, pointers and integers
by their bits; assignment conversions say what the compiler says when the types do not
agree, as warnings where it only warns.
-/

namespace InlineC.Lang.Check

/-- The address of a place. -/
def placeAddress (v : Val) : CM TExpr := do
  match v.place with
  | .mem a => pure a
  | .bits .. => err "cannot take address of bit-field"
  | .local id =>
    markAddressed id
    noteRead id
    pure (.addr id)
  | .none => pure v.e

/-- Whether a type is kept in memory: structures, unions, arrays and wide scalars. -/
def inMemory (tg : Target) (t : CType) : Bool :=
  match t.num? tg with
  | some k => k.wide
  | none => true

/-- The value of an operand; `mark` tells whether reading a local counts as a use. -/
def rvalueWith (mark : Bool) (v : Val) : CM Val := do
  match v.ty with
  | .array t _ | .vla t _ => pure { ty := .ptr t, e := ← placeAddress v }
  | .func .. => pure { ty := .ptr v.ty, e := ← placeAddress v }
  | .record _ => pure { ty := v.ty, e := ← placeAddress v }
  | _ =>
    match v.place with
    | .none => pure v
    | .mem a =>
      match v.ty.num? (← target) with
      | some k => if k.wide then pure { ty := v.ty, e := a } else pure { ty := v.ty, e := .load k a }
      | none => pure { ty := v.ty, e := a }
    | .bits a k pos w => pure { ty := v.ty, e := .loadBits k a pos w }
    | .local id =>
      if mark then noteRead id
      pure { ty := v.ty, e := .local id }

/-- The value of an operand, reading it. -/
def rvalue (v : Val) : CM Val := rvalueWith true v

/-- Convert a value between scalar types, by value for arithmetic types and by bits for
pointers. -/
def convertExpr (e : TExpr) (src dst : CType) : CM TExpr := do
  let tg ← target
  if dst.isVoid then return e
  match src.num? tg, dst.num? tg with
  | some a, some b =>
    if a == b then pure e
    else if b.wide then pure (.conv a b (← newTemp 16) e)
    else pure (.conv a b 0 e)
  | _, _ =>
    match src, dst with
    | .record a, .record b => if a == b then pure e else err "conversion to non-scalar type requested"
    | _, _ => err "invalid conversion"

/-- Convert an operand's value to a type. -/
def convert (v : Val) (dst : CType) : CM TExpr := do
  let v ← rvalue v
  convertExpr v.e v.ty dst

/-- Whether a type is `void *`, possibly qualified. -/
def isVoidPtr : CType → Bool
  | .ptr .void => true
  | _ => false

/-- Whether two integer kinds differ only in signedness, for `-Wpointer-sign`. -/
def signDiffers (a b : CType) : Bool :=
  match a.intKind?, b.intKind? with
  | some x, some y => x != y && x.size == y.size && x != .bool && y != .bool
  | _, _ => false

/-- Convert a value for assignment to an object of type `dst`, with what the compiler
says when the types do not agree. -/
def assignConvert (v : Val) (dst : CType) : CM TExpr := do
  let r ← rvalue v
  let src := r.ty
  if dst.isArithmetic && src.isArithmetic then return ← convertExpr r.e src dst
  match dst, src with
  | .ptr p, .ptr q =>
    if !(isVoidPtr dst || isVoidPtr src || p.compatible q) then
      if signDiffers p q then warn "pointer-sign" else warn "incompatible-pointer-types"
    pure r.e
  | .ptr _, _ =>
    if src.isInteger then
      if !v.null then warn "int-conversion"
      convertExpr r.e src (.int .ulong)
    else err "incompatible types when assigning"
  | .int .bool, .ptr _ => pure (.truth .u64 r.e)
  | _, .ptr _ =>
    if dst.isInteger then
      warn "int-conversion"
      convertExpr r.e (.int .ulong) dst
    else err "incompatible types when assigning"
  | .record a, .record b =>
    if a == b then pure r.e else err "incompatible types when assigning"
  | _, _ => err "incompatible types when assigning"

/-- The truth value of a scalar operand, as 1 or 0. -/
def truthOf (v : Val) : CM TExpr := do
  let r ← rvalue v
  match r.ty.num? (← target) with
  | some k =>
    match r.e with
    | .binary op _ _ _ _ => if op.isCompare then pure r.e else pure (.truth k r.e)
    | .land .. | .lor .. => pure r.e
    | _ => pure (.truth k r.e)
  | none => err "used struct type value where scalar is required"

/-- Store a value of type `t` to a place; the value is the one stored. -/
def storeTo (p : Place) (t : CType) (e : TExpr) : CM TExpr := do
  let tg ← target
  match p with
  | .mem a =>
    match t.num? tg with
    | some k => if k.wide then pure (.copy 16 a e) else pure (.store k a e)
    | none => pure (.copy (← sizeOf t) a e)
  | .bits a k pos w => pure (.storeBits k a pos w e)
  | .local id =>
    noteWritten id
    pure (.setLocal id e)
  | .none => err "lvalue required as left operand of assignment"

/-- The promoted type of an operand. -/
def promoted (t : CType) : CM CType := do pure (t.promote (← target))

/-- The common type of two arithmetic types. -/
def commonType (a b : CType) : CM CType := do pure (CType.common (← target) a b)

/-- The kind of a binary operation on values of a type. -/
def opKind (t : CType) : CM NumKind := numOf t

/-- Build a binary arithmetic operation on values of a common kind. -/
def binaryOp (op : BinOp) (t : CType) (a b : TExpr) : CM TExpr := do
  let k ← opKind t
  let tmp ← if k.wide && !op.isCompare then newTemp 16 else pure 0
  pure (.binary op k tmp a b)

/-- Whether an integer type's values are all within another's. -/
def fitsIn (tg : Target) (a b : IntKind) : Bool :=
  a.minIn tg ≥ b.minIn tg && a.maxIn tg ≤ b.maxIn tg

end InlineC.Lang.Check
