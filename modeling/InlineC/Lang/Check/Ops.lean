import InlineC.Lang.Check.Value
import InlineC.Lang.Check.Layout
import InlineC.Lang.Check.Library

/-!
# Operators

The typing of the operators once their operands are checked: the usual arithmetic
conversions, pointer arithmetic in units of the element size (computed at run time for an
array of computed length), comparisons, the conditional operator's result type, member
access, and the read-modify-write of increments and compound assignments, which evaluates
the operand's address once.

Also here: the values of identifiers and constants, and the storing of initializers.
-/

namespace InlineC.Lang.Check

open Ast

/-- A constant of a type from an integer. -/
def constOf (t : CType) (v : Int) : CM TExpr := do
  let k ← numOf t
  if k.wide then
    let p := Arith.wideOfInt v
    pure (.wideConst k (← newTemp 16) (UInt64.ofNat (p % Arith.pow2 64)) (UInt64.ofNat (p / Arith.pow2 64)))
  else pure (intConst k v)

/-- The type of declaration specifier keywords. -/
def wordsType (ws : List String) : CM CType := do
  let c := fun (w : String) => ws.count w
  let signed := c "signed" > 0
  let unsigned := c "unsigned" > 0
  if signed && unsigned then err "both 'signed' and 'unsigned' in declaration specifiers"
  let longs := c "long"
  let ints := c "int"
  let bad := fun {α : Type} => (err "two or more data types in declaration specifiers" : CM α)
  if c "void" > 0 then
    if ws.length == 1 then pure .void else bad
  else if c "_Bool" > 0 then
    if ws.length == 1 then pure (.int .bool) else bad
  else if c "_Complex" > 0 then
    let base := ws.filter (· != "_Complex")
    match base with
    | ["float"] => pure (.complex .float)
    | ["double"] | [] => pure (.complex .double)
    | ["long", "double"] | ["double", "long"] => pure (.complex .ldouble)
    | _ => err "complex integer types are not supported"
  else if c "_Float128" > 0 || c "__float128" > 0 || c "_Float64x" > 0 then pure (.float .ldouble)
  else if c "_Float64" > 0 || c "_Float32x" > 0 then pure (.float .double)
  else if c "_Float32" > 0 then pure (.float .float)
  else if c "float" > 0 then
    if ws.length == 1 then pure (.float .float) else bad
  else if c "double" > 0 then
    if ws.length == 1 then pure (.float .double)
    else if longs == 1 && ws.length == 2 then pure (.float .ldouble) else bad
  else if c "char" > 0 then
    if c "char" == 1 && ints == 0 && c "short" == 0 && longs == 0 then
      pure (.int (if signed then .schar else if unsigned then .uchar else .char))
    else bad
  else if c "__int128" > 0 then
    if c "__int128" == 1 && ints == 0 && c "short" == 0 && longs == 0 then
      pure (.int (if unsigned then .uint128 else .int128))
    else bad
  else if ints > 1 then bad
  else if c "short" > 0 then
    if c "short" == 1 && longs == 0 then pure (.int (if unsigned then .ushort else .short)) else bad
  else if longs == 1 then pure (.int (if unsigned then .ulong else .long))
  else if longs == 2 then pure (.int (if unsigned then .ullong else .llong))
  else if longs > 2 then err "'long long long' is too long for GCC"
  else pure (.int (if unsigned then .uint else .int))

/-- The type a `mode` attribute gives an integer or floating type. -/
def applyMode (t : CType) (mode : String) : CM CType := do
  let m := ((mode.dropPrefix "__").toString.dropSuffix "__").toString
  let tg ← target
  let signed := (t.intKind?.map (·.signedIn tg)).getD true
  match m with
  | "QI" => pure (.int (if signed then .schar else .uchar))
  | "HI" => pure (.int (if signed then .short else .ushort))
  | "SI" => pure (.int (if signed then .int else .uint))
  | "DI" | "word" | "pointer" => pure (.int (if signed then .long else .ulong))
  | "TI" => pure (.int (if signed then .int128 else .uint128))
  | "SF" => pure (.float .float)
  | "DF" => pure (.float .double)
  | "XF" | "TF" => pure (.float .ldouble)
  | _ => err ("unknown machine mode '" ++ mode ++ "'")

/-- How a value of a type travels as an argument. -/
def argClassOf (t : CType) : CM ArgClass := do
  match t.num? (← target) with
  | some k => pure (if k.wide then .wide k else .word k)
  | none =>
    match t with
    | .record _ => pure (.record (← sizeOf t) (← alignOf t))
    | _ => err "invalid argument type"

/-- How a result of a type comes back, with a fresh temporary object when it needs one. -/
def retClassOf (t : CType) : CM RetClass := do
  if t.isVoid then return .void
  match t.num? (← target) with
  | some k => if k.wide then pure (.wide k (← newTemp 16)) else pure (.word k)
  | none =>
    match t with
    | .record _ => pure (.record (← sizeOf t) (← newTemp (← sizeOf t) (← alignOf t)))
    | _ => err "function returns an invalid type"

/-- The default argument promotions. -/
def defaultPromote (t : CType) : CM CType := do
  match t with
  | .float .float => pure (.float .double)
  | _ => if t.isInteger then promoted t else pure (t.decay)

/-- The size of a type as an expression, computed at run time for arrays of computed
length. -/
def sizeExpr : Nat → CType → CM TExpr
  | 0, _ => err "type nested too deeply"
  | fuel + 1, t =>
    match t with
    | .vla elem len => do
      let e ← sizeExpr fuel elem
      pure (.binary .mul .u64 0 (.local len) e)
    | .array elem (some n) =>
      if elem.isVariable then do
        let e ← sizeExpr fuel elem
        pure (.binary .mul .u64 0 (intConst .u64 n) e)
      else do pure (intConst .u64 (← sizeOf t))
    | .func .. | .void => pure (intConst .u64 1)
    | _ => do pure (intConst .u64 (← sizeOf t))

/-- The value of `sizeof` for a type. -/
def sizeofVal (t : CType) : CM Val := do
  match t with
  | .func .. | .void =>
    pedantic
    pure (sizeVal 1)
  | _ =>
    if t.isVariable then pure { ty := .int .ulong, e := ← sizeExpr 16 t }
    else
      match t.size? (← records) with
      | some n => pure (sizeVal n)
      | none => err "invalid application of 'sizeof' to incomplete type"

/-- Scale an index by the size of the elements a pointer points to. -/
def scaledIndex (elem : CType) (idx : TExpr) : CM TExpr := do
  match elem with
  | .void | .func .. =>
    pedantic "pointer-arith"
    pure idx
  | _ =>
    if elem.isVariable then pure (.binary .mul .i64 0 idx (← sizeExpr 16 elem))
    else
      match elem.size? (← records) with
      | some 1 => pure idx
      | some n => pure (.binary .mul .i64 0 idx (intConst .i64 n))
      | none => err "invalid use of undefined type"

/-- Pointer plus or minus an integer. -/
def ptrAdd (p i : Val) (neg : Bool) : CM Val := do
  let elem := (p.ty.pointee?).getD .void
  let idx ← convertExpr i.e i.ty (.int .long)
  let off ← scaledIndex elem idx
  pure { ty := p.ty, e := .binary (if neg then .sub else .add) .u64 0 p.e off }

/-- The difference of two pointers, in elements. -/
def ptrDiff (a b : Val) : CM Val := do
  let elem := (a.ty.pointee?).getD .void
  let d : TExpr := .binary .sub .i64 0 a.e b.e
  match elem with
  | .void | .func .. => pure { ty := .int .long, e := d }
  | _ =>
    if elem.isVariable then
      pure { ty := .int .long, e := .binary .div .i64 0 d (← sizeExpr 16 elem) }
    else
      match elem.size? (← records) with
      | some 1 => pure { ty := .int .long, e := d }
      | some n => pure { ty := .int .long, e := .binary .div .i64 0 d (intConst .i64 n) }
      | none => err "arithmetic on pointer to an incomplete type"

/-- Whether a value is an integer constant expression equal to zero. -/
def isNullConst (t : CType) (e : TExpr) : Bool := t.isInteger && foldInt e == some 0

/-- Whether an integer constant is non-negative, for the sign-compare warning. -/
def nonNegativeConst (e : TExpr) : Bool :=
  match foldInt e with
  | some v => v ≥ 0
  | none => false

/-- A binary operator on values. -/
def binaryVals (op : BinaryOp) (x y : Val) : CM Val := do
  let arith := fun (o : BinOp) (intOnly : Bool) => do
    if !(x.ty.isArithmetic && y.ty.isArithmetic) then err "invalid operands to binary operator"
    if intOnly && !(x.ty.isInteger && y.ty.isInteger) then err "invalid operands to binary operator"
    let t ← commonType x.ty y.ty
    let a ← convertExpr x.e x.ty t
    let b ← convertExpr y.e y.ty t
    if (o == .div || o == .rem) && y.ty.isInteger && foldInt y.e == some 0 then warn "div-by-zero"
    let e ← binaryOp o t a b
    pure ({ ty := t, e, null := isNullConst t e } : Val)
  let compare := fun (o : BinOp) => do
    if x.ty.isArithmetic && y.ty.isArithmetic then
      let t ← commonType x.ty y.ty
      let tg ← target
      if x.ty.isInteger && y.ty.isInteger then
        let sx := (x.ty.promote tg).intKind?.map (·.signedIn tg)
        let sy := (y.ty.promote tg).intKind?.map (·.signedIn tg)
        if sx != sy && !(nonNegativeConst x.e || nonNegativeConst y.e) then warn "sign-compare"
      let a ← convertExpr x.e x.ty t
      let b ← convertExpr y.e y.ty t
      let e ← binaryOp o t a b
      pure ({ ty := .int .int, e } : Val)
    else if x.ty.isPointer && y.ty.isPointer then
      match x.ty, y.ty with
      | .ptr p, .ptr q =>
        if !(p.compatible q || isVoidPtr x.ty || isVoidPtr y.ty) then pedwarn "compare-distinct-pointer-types"
      | _, _ => pure ()
      pure { ty := .int .int, e := .binary o .u64 0 x.e y.e }
    else if x.ty.isPointer && y.ty.isInteger then
      if !y.null then pedwarn
      pure { ty := .int .int, e := .binary o .u64 0 x.e (← convertExpr y.e y.ty (.int .ulong)) }
    else if x.ty.isInteger && y.ty.isPointer then
      if !x.null then pedwarn
      pure { ty := .int .int, e := .binary o .u64 0 (← convertExpr x.e x.ty (.int .ulong)) y.e }
    else err "invalid operands to comparison"
  match op with
  | .add =>
    if x.ty.isPointer && y.ty.isInteger then ptrAdd x y false
    else if x.ty.isInteger && y.ty.isPointer then ptrAdd y x false
    else arith .add false
  | .sub =>
    if x.ty.isPointer && y.ty.isInteger then ptrAdd x y true
    else if x.ty.isPointer && y.ty.isPointer then ptrDiff x y
    else arith .sub false
  | .mul => arith .mul false
  | .div => arith .div false
  | .mod => arith .rem true
  | .band => arith .band true
  | .bor => arith .bor true
  | .bxor => arith .bxor true
  | .shl | .shr =>
    if !(x.ty.isInteger && y.ty.isInteger) then err "invalid operands to binary shift"
    let t ← promoted x.ty
    let a ← convertExpr x.e x.ty t
    let b ← convertExpr y.e y.ty (.int .long)
    match foldInt y.e with
    | some n =>
      if n < 0 then warn "shift-count-negative"
      else if n ≥ 8 * (← sizeOf t) then warn "shift-count-overflow"
    | none => pure ()
    let e ← binaryOp (if op == .shl then .shl else .shr) t a b
    pure { ty := t, e, null := isNullConst t e }
  | .lt => compare .lt
  | .gt => compare .gt
  | .le => compare .le
  | .ge => compare .ge
  | .eq => compare .eq
  | .ne => compare .ne
  | .land | .lor => err "logical operators are handled elsewhere"

/-- The type and operands of a conditional expression's result. -/
def condTypes (x y : Val) : CM (CType × TExpr × TExpr) := do
  if x.ty.isArithmetic && y.ty.isArithmetic then
    let t ← commonType x.ty y.ty
    pure (t, ← convertExpr x.e x.ty t, ← convertExpr y.e y.ty t)
  else if x.ty.isVoid || y.ty.isVoid then pure (.void, x.e, y.e)
  else if x.ty.isPointer && y.ty.isPointer then
    if x.null then pure (y.ty, x.e, y.e)
    else if y.null then pure (x.ty, x.e, y.e)
    else if isVoidPtr x.ty then pure (x.ty, x.e, y.e)
    else if isVoidPtr y.ty then pure (y.ty, x.e, y.e)
    else
      match x.ty, y.ty with
      | .ptr p, .ptr q =>
        if p.compatible q then pure (x.ty, x.e, y.e)
        else
          pedwarn
          pure (.ptr .void, x.e, y.e)
      | _, _ => pure (x.ty, x.e, y.e)
  else if x.ty.isPointer && y.ty.isInteger then
    if !y.null then pedwarn
    pure (x.ty, x.e, ← convertExpr y.e y.ty (.int .ulong))
  else if x.ty.isInteger && y.ty.isPointer then
    if !x.null then pedwarn
    pure (y.ty, ← convertExpr x.e x.ty (.int .ulong), y.e)
  else
    match x.ty, y.ty with
    | .record a, .record b =>
      if a == b then pure (x.ty, x.e, y.e) else err "type mismatch in conditional expression"
    | _, _ => err "type mismatch in conditional expression"

/-- Whether evaluating an address expression twice is harmless and cheap. -/
def simpleAddr : TExpr → Bool
  | .sym .. | .addr _ | .frame _ | .const .. | .local _ => true
  | _ => false

/-- Read-modify-write a place: `f` maps the old value to the new one, both of the place's
type. The place's address is evaluated once; the value is the new one, or the old one when
`post`. -/
def modifyPlace (v : Val) (post : Bool) (f : TExpr → CM TExpr) : CM TExpr := do
  let tg ← target
  match v.place with
  | .local id =>
    noteWritten id
    if post then
      let k ← numOf v.ty
      let t ← newLocal 8 8 (some k) false
      let nv ← f (.local t)
      pure (.seq (.setLocal t (.local id)) (.seq (.setLocal id nv) (.local t)))
    else
      let nv ← f (.local id)
      pure (.setLocal id nv)
  | .mem a | .bits a .. =>
    let (pre, a') ← if simpleAddr a then pure (none, a) else do
        let t ← newLocal 8 8 (some .u64) false
        pure (some (TExpr.setLocal t a), TExpr.local t)
    let place' := match v.place with
      | .bits _ k p w => Place.bits a' k p w
      | _ => .mem a'
    let old ← rvalueWith false { v with place := place' }
    let body ← if post then do
        match v.ty.num? tg with
        | some k =>
          if k.wide then
            let t ← newTemp 16
            let nv ← f (.addr t)
            pure (TExpr.seq (.copy 16 (.addr t) old.e) (.seq (← storeTo place' v.ty nv) (.addr t)))
          else
            let t ← newLocal 8 8 (some k) false
            let nv ← f (.local t)
            pure (TExpr.seq (.setLocal t old.e) (.seq (← storeTo place' v.ty nv) (.local t)))
        | none => err "wrong type argument to increment"
      else do
        let nv ← f old.e
        storeTo place' v.ty nv
    pure (match pre with
      | some p => .seq p body
      | none => body)
  | .none => err "lvalue required as increment operand"

/-- Increment or decrement. -/
def incDec (v : Val) (op : UnaryOp) : CM Val := do
  let post := op == .postInc || op == .postDec
  let up := op == .preInc || op == .postInc
  if !(v.ty.isArithmetic || v.ty.isPointer) then err "wrong type argument to increment"
  let e ← modifyPlace v post fun old => do
    match v.ty with
    | .ptr t =>
      let off ← scaledIndex t (intConst .i64 (if up then 1 else -1))
      pure (.binary .add .u64 0 old off)
    | _ =>
      let pt ← promoted v.ty
      let x ← convertExpr old v.ty pt
      let one ← convertExpr (intConst .i32 1) (.int .int) pt
      let r ← binaryOp (if up then .add else .sub) pt x one
      convertExpr r pt v.ty
  pure { ty := v.ty, e }

/-- Access a member of a structure or union at an address. -/
def memberOf (base : TExpr) (id : Nat) (n : String) : CM Val := do
  let recs ← records
  match recs[id]? with
  | some r => if !r.complete then err "invalid use of incomplete type"
  | none => err "invalid use of incomplete type"
  match findMember recs 16 id n with
  | none => err ("has no member named '" ++ n ++ "'")
  | some f =>
    let addr := if f.offset == 0 then base else .binary .add .u64 0 base (intConst .u64 f.offset)
    match f.bits with
    | some (pos, w) =>
      let tg ← target
      let signed := (f.type.intKind?.map (·.signedIn tg)).getD false
      let k := unitKind (f.type.sizeOr0 recs) pos w signed
      let ty := if f.type == .int .bool then f.type
        else if w < 32 then .int .int
        else if w == 32 then (if signed then .int .int else .int .uint)
        else f.type
      pure { ty, place := .bits addr k pos w }
    | none => pure { ty := f.type, place := .mem addr }

/-- The value of a number constant. -/
def numberVal (text : String) : CM Val := do
  if isFloating text.toList then
    let o := (← get).options
    let (fk, bits, ds) ← match floatConstant text o.singlePrecisionConstants with
      | .ok r => pure r
      | .error e => err e
    for d in ds do diag d
    let k := fk.num
    if k.wide then
      let tmp ← newTemp 16
      let e := TExpr.wideConst k tmp (UInt64.ofNat (bits % Arith.pow2 64)) (UInt64.ofNat (bits / Arith.pow2 64))
      pure { ty := .float fk, e }
    else pure { ty := .float fk, e := .const k (UInt64.ofNat bits) }
  else
    let c ← match intConstant text with
      | .ok c => pure c
      | .error e => err e
    for d in c.diags do diag d
    let ty := CType.int c.kind
    pure { ty, e := ← constOf ty c.value, null := c.value == 0 }

/-- The value of a character constant. -/
def charVal (text : String) : CM Val := do
  let (ty, v, ds) ← match charConstant (← target) text with
    | .ok r => pure r
    | .error e => err e
  for d in ds do diag d
  pure { ty, e := ← constOf ty v, null := v == 0 }

/-- The octets of code units of a width, little-endian, with the terminator. -/
def unitOctets (width : Nat) (units : List Nat) : List UInt8 :=
  (units ++ [0]).flatMap fun u => (List.range width).map fun i => UInt8.ofNat (u / Nat.pow 256 i % 256)

/-- The value of a string literal: an array in static storage. -/
def stringVal (pieces : List String) : CM Val := do
  let tg ← target
  let (enc, units, ds) ← match stringLiteral tg pieces with
    | .ok r => pure r
    | .error e => err e
  for d in ds do diag d
  let elem := enc.element tg
  let width := elem.sizeOr0 #[]
  let id ← addString (unitOctets width units)
  pure { ty := .array elem (some (units.length + 1)), place := .mem (.sym (.string id) 0) }

/-- The value of `__func__`: the name of the function being checked. -/
def funcNameVal : CM Val := do
  let n := (← get).fn.name
  let id ← addString (n.toUTF8.toList ++ [0])
  pure { ty := .array (.int .char) (some (n.utf8ByteSize + 1)), place := .mem (.sym (.string id) 0) }

/-- The value of an identifier, when it is bound to an object, a function or a constant. -/
def identVal (n : String) : CM (Option Val) := do
  match ← lookup n with
  | some (.object id ty level) =>
    if level != (← get).level then err ("nested function uses '" ++ n ++ "' of its enclosing function")
    let tg ← target
    if ty.isVariable then
      noteRead id
      pure (some { ty, place := .mem (.local id) })
    else
      if inMemory tg ty || ((← get).fn.locals[id]?.map (·.kind.isNone)).getD false then
        noteRead id
        pure (some { ty, place := .mem (.addr id) })
      else pure (some { ty, place := .local id })
  | some (.global name ty) =>
    useGlobal name
    pure (some { ty, place := .mem (.sym (.global name) 0) })
  | some (.func name ty) =>
    useFunc name
    pure (some { ty, e := .sym (.func name) 0 })
  | some (.enumConst v ty) => pure (some { ty, e := ← constOf ty v, null := v == 0 })
  | some (.typedef _) => err ("expected expression before '" ++ n ++ "'")
  | none => pure none

/-- An element of an object's initial value: a value of a type at an offset, a bit-field,
or octets. -/
inductive InitEntry where
  | value (off : Nat) (ty : CType) (e : TExpr)
  | bits (off : Nat) (k : NumKind) (pos width : Nat) (e : TExpr)
  | bytes (off : Nat) (data : List UInt8)
  deriving Inhabited

/-- Statements that initialize an object at an address: zero it, then store the
elements. -/
def initCode (base : TExpr) (size : Nat) (entries : List InitEntry) : CM (List TStmt) := do
  let atOff := fun (off : Nat) => if off == 0 then base else TExpr.binary .add .u64 0 base (intConst .u64 off)
  let mut out : Array TStmt := #[.expr (.zero size base)]
  for en in entries do
    match en with
    | .value off ty e => out := out.push (.expr (← storeTo (.mem (atOff off)) ty e))
    | .bits off k pos w e => out := out.push (.expr (.storeBits k (atOff off) pos w e))
    | .bytes off data =>
      let id ← addString data
      out := out.push (.expr (.copy data.length (atOff off) (.sym (.string id) 0)))
  pure out.toList

/-- Write the low `n` octets of a value into an image. -/
def writeLE (img : Array UInt8) (off n v : Nat) : Array UInt8 :=
  (List.range n).foldl (fun acc i => acc.set! (off + i) (UInt8.ofNat (v / Nat.pow 256 i % 256))) img

/-- Read `n` octets of an image as a little-endian value. -/
def readLE (img : Array UInt8) (off n : Nat) : Nat :=
  (List.range n).foldr (fun i acc => (img.getD (off + i) 0).toNat + 256 * acc) 0

/-- The initial contents of an object with static storage: the octets, and the addresses
the loader fills in. Every element must be constant. -/
def staticInit (ty : CType) (entries : List InitEntry) : CM (List GInit) := do
  let size ← sizeOf ty
  let mut img : Array UInt8 := Array.replicate size 0
  let mut relocs : Array GInit := #[]
  for en in entries do
    match en with
    | .value off t e =>
      match fold e with
      | some (.num k v) =>
        let n := if k == .f80 then 10 else k.size
        img := writeLE img off n v
      | some (.addr s a) =>
        if (← sizeOf t) == 8 then relocs := relocs.push (.addr off s a)
        else err "initializer element is not computable at load time"
      | none => err "initializer element is not constant"
    | .bits off k pos w e =>
      match fold e with
      | some (.num _ v) =>
        let n := k.size
        let old := readLE img off n
        let mask := (Nat.pow 2 w - 1) * Nat.pow 2 pos
        let field := (v % Nat.pow 2 w) * Nat.pow 2 pos
        img := writeLE img off n (old - (old &&& mask) + field)
      | _ => err "initializer element is not constant"
    | .bytes off data =>
      img := (data.zipIdx).foldl (fun acc (b, i) => if off + i < size then acc.set! (off + i) b else acc) img
  pure ([GInit.bytes 0 img.toList] ++ relocs.toList)

/-- Whether an expression is a string literal, possibly parenthesized. -/
def stringPiecesOf : Expr → Option (List String)
  | .str ps => some ps
  | .paren e => stringPiecesOf e
  | _ => none

/-- Whether a type is a character type a string literal of an encoding can initialize. -/
def stringElementOk (tg : Target) (elem : CType) (enc : Encoding) : Bool :=
  match enc with
  | .narrow | .utf8 =>
    match elem with
    | .int .char | .int .schar | .int .uchar => true
    | _ => false
  | _ => elem.compatible (enc.element tg) || (elem.intKind?.map (·.size)) == ((enc.element tg).intKind?.map (·.size))

/-- Initialize a character array from a string literal: the entry and the array's
length. -/
def stringInit (elem : CType) (len : Option Nat) (off : Nat) (pieces : List String) :
    CM (Option (InitEntry × Nat)) := do
  let tg ← target
  let (enc, units, ds) ← match stringLiteral tg pieces with
    | .ok r => pure r
    | .error e => err e
  if !stringElementOk tg elem enc then return none
  for d in ds do diag d
  let width := elem.sizeOr0 #[]
  let n := len.getD (units.length + 1)
  if units.length > n then pedwarn
  let octets := (unitOctets width units).take (n * width)
  pure (some (.bytes off octets, n))

end InlineC.Lang.Check
