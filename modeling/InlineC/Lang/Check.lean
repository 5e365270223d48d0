import InlineC.Lang.Check.Init
import InlineC.Lang.Check.Call
import InlineC.Lang.Check.Decl
import InlineC.Lang.Check.Flow

/-!
# Checking a translation unit

Names are resolved against the scopes of C: the file, which starts with what the headers
declare, then the blocks of functions. Declarations give types: the specifiers a base type,
the declarator the pointers, arrays and functions built on it, outside in. Structures are
laid out as they are completed, enumerations take the smallest type of the usual ones
that holds their values, and an array whose length is not a constant gets a length
computed when its declaration runs.

Expressions become checked expressions with every conversion explicit: the integer
promotions and the usual arithmetic conversions for operators, conversion as if by
assignment for assignments, arguments, initializers and returns, and the default argument
promotions for extra arguments. Statements keep their structure, with the cases of a switch
numbered and the objects a block declares with cleanups run when it is left.

A call to a name never declared declares it implicitly, as a function of the library when
it names one and otherwise as a function returning `int`. The warnings the compiler gives
are recorded as diagnostics, under the option that controls each; an error ends the check.
-/

namespace InlineC.Lang.Check

open Ast

/-- The arguments of an attribute, when it is among the attributes. -/
def attrArgs (attrs : List Attr) (n : String) : Option (List Expr) :=
  attrs.findSome? fun
    | Attr.mk m args => if m == n then some args else none

/-- Whether an attribute is among the attributes. -/
def hasAttr (attrs : List Attr) (n : String) : Bool := (attrArgs attrs n).isSome

/-- What declaration specifiers give: the base type, the storage class, the function
specifiers, an alignment, the attributes, and statements computing array lengths that the
type depends on. -/
structure SpecInfo where
  ty : CType
  storage : List Storage := []
  inline : Bool := false
  noreturn : Bool := false
  align : Option Nat := none
  attrs : List Attr := []
  const : Bool := false
  prelude : List TStmt := []
  deriving Inhabited

/-- What a declarator gives: the name, the type, statements computing array lengths, the
parameters when the declarator declares a function directly, and attributes. -/
structure Declared where
  name : Option String
  ty : CType
  prelude : List TStmt := []
  params : Option (List (Option String × CType)) := none
  attrs : List Attr := []
  deriving Inhabited

/-- The type a parameter of a type has: arrays and functions become pointers. -/
def adjustParam : CType → CType
  | .array t _ | .vla t _ => .ptr t
  | .func r ps v p => .ptr (.func r ps v p)
  | t => t

/-- What evaluating an operand for its effects only evaluates: its value, or the address of
the place it designates. -/
def effectOf (v : Val) : TExpr :=
  match v.place with
  | .none => v.e
  | .mem a | .bits a .. => a
  | .local _ => .const .i32 0

/-- Whether evaluating an expression may change anything. -/
def hasEffect : Nat → TExpr → Bool
  | 0, _ => true
  | fuel + 1, e =>
    match e with
    | .setLocal .. | .store .. | .storeBits .. | .copy .. | .zero .. | .call .. | .vaStart _
    | .vaArg .. | .alloca _ | .builtin .. | .stmts .. => true
    | .conv _ _ _ a | .unary _ _ _ a | .truth _ a | .load _ a | .loadBits _ a .. =>
      hasEffect fuel a
    | .binary _ _ _ a b | .land a b | .lor a b | .seq a b => hasEffect fuel a || hasEffect fuel b
    | .cond c a b => hasEffect fuel c || hasEffect fuel a || hasEffect fuel b
    | _ => false

/-- A value converted by a cast. -/
def castVal (v : Val) (ty : CType) : CM Val := do
  if ty.isVoid then
    if v.ty.isVoid then return { ty := .void, e := v.e }
    let r ← rvalue v
    return { ty := .void, e := r.e }
  let r ← rvalue v
  if !ty.isScalar then
    if ty == r.ty then
      pedantic
      return r
    err "conversion to non-scalar type requested"
  if !r.ty.isScalar then err "aggregate value used where a scalar was expected"
  let recs ← records
  if ty.isPointer && r.ty.isFloating then err "cannot convert to a pointer type"
  if r.ty.isPointer && ty.isFloating then err "pointer value used where a floating-point was expected"
  if ty.isPointer && r.ty.isInteger && r.ty.sizeOr0 recs != 8 && !r.null then warn "int-to-pointer-cast"
  if ty.isInteger && r.ty.isPointer && ty.sizeOr0 recs != 8 && ty != .int .bool then
    warn "pointer-to-int-cast"
  let e ← if ty == .int .bool && r.ty.isPointer then pure (TExpr.truth .u64 r.e)
    else convertExpr r.e r.ty ty
  let null := if isVoidPtr ty then r.null else isNullConst ty e
  pure { ty, e, null }

/-- The zero of a scalar kind. -/
def zeroOf (k : NumKind) : CM TExpr := do
  if k.wide then pure (.wideConst k (← newTemp 16) 0 0) else pure (.const k 0)

/-- How a function's result comes back, as its definition sees it. -/
def definitionRet (t : CType) : CM RetClass := do
  if t.isVoid then return .void
  match t.num? (← target) with
  | some k => pure (if k.wide then .wide k 0 else .word k)
  | none => pure (.record (← sizeOf t) 0)

/-- The underlying integer type of an enumeration with values between `lo` and `hi`. -/
def enumKind (tg : Target) (lo hi : Int) (short : Bool) : IntKind :=
  let fits := fun (k : IntKind) => k.minIn tg ≤ lo && hi ≤ k.maxIn tg
  let order : List IntKind :=
    if lo < 0 then
      (if short then [.schar, .short] else []) ++ [.int, .long, .int128]
    else
      (if short then [.uchar, .ushort] else []) ++ [.uint, .ulong, .uint128]
  (order.find? fits).getD (if lo < 0 then .int128 else .uint128)

/-- Note a `goto` to a label. -/
def noteGoto (n : String) : CM PUnit :=
  modify fun st => { st with fn := { st.fn with gotos := n :: st.fn.gotos } }

/-- Run a check with one more loop or switch around it. -/
def nested {α : Type} (loop : Bool) (act : CM α) : CM α := do
  modify fun st => { st with fn := { st.fn with
    loops := st.fn.loops + (if loop then 1 else 0), breakables := st.fn.breakables + 1 } }
  let r ← act
  modify fun st => { st with fn := { st.fn with
    loops := st.fn.loops - (if loop then 1 else 0), breakables := st.fn.breakables - 1 } }
  pure r

/-- The fuel checking a translation unit starts with: a bound on how deeply its
expressions, declarators and statements nest. -/
def nestingLimit : Nat := 4096

mutual

/-- The type and the rest of what declaration specifiers give. -/
def specType : Nat → Specs → CM SpecInfo
  | 0, _ => err "declaration nested too deeply"
  | fuel + 1, Specs.mk storage words record enum tdName tyofE tyofT alignas alignasT attrs inl nor
      const => do
    let packed := hasAttr attrs "packed"
    let mut prelude : List TStmt := []
    let base ← match record, enum, tdName, tyofE, tyofT with
      | some r, _, _, _, _ => recordType fuel r packed
      | _, some e, _, _, _ => enumType fuel e packed
      | _, _, some n, _, _ =>
        match ← lookup n with
        | some (.typedef t) => pure t
        | _ => err ("unknown type name '" ++ n ++ "'")
      | _, _, _, some e, _ => do pure (← expr fuel e).ty
      | _, _, _, _, some t => do
        let (ty, pre) ← typeName fuel t
        prelude := pre
        pure ty
      | _, _, _, _, _ =>
        if words.isEmpty then
          pedwarn "implicit-int"
          pure (.int .int)
        else wordsType words
    let ty ← match attrArgs attrs "mode" with
      | some [Expr.ident m] => applyMode base m
      | _ => pure base
    if hasAttr attrs "vector_size" then err "vector types are not supported"
    let mut align : Option Nat := none
    for e in alignas do
      let a ← constInt fuel e
      align := some (max (align.getD 0) a.toNat)
    for t in alignasT do
      let (aty, _) ← typeName fuel t
      align := some (max (align.getD 0) (← alignOf aty))
    match ← alignAttr fuel attrs with
    | some a => align := some (max (align.getD 0) a)
    | none => pure ()
    pure {
      ty, storage, inline := inl, noreturn := nor || hasAttr attrs "noreturn", align, attrs,
      const, prelude }

/-- The alignment an `aligned` attribute asks for. -/
def alignAttr : Nat → List Attr → CM (Option Nat)
  | 0, _ => err "declaration nested too deeply"
  | fuel + 1, attrs => do
    match attrArgs attrs "aligned" with
    | some [] => pure (some 16)
    | some (e :: _) =>
      let a ← constInt fuel e
      if a ≤ 0 then err "requested alignment is not a positive power of 2"
      pure (some a.toNat)
    | none => pure none

/-- The type a structure or union specifier names, laying it out when it has members. -/
def recordType : Nat → RecordSpec → Bool → CM CType
  | 0, _, _ => err "declaration nested too deeply"
  | fuel + 1, RecordSpec.mk union tag members attrs, packedOuter => do
    let kindName := if union then "union" else "struct"
    let newTag := fun (t : Option String) =>
      newRecord { tag := t, union, members := #[], size := 0, align := 1, complete := false }
    match members with
    | none =>
      match tag with
      | none => err ("expected '\x7b' after '" ++ kindName ++ "'")
      | some t =>
        match ← lookupTag t with
        | some (.record id u) =>
          if u != union then err ("'" ++ t ++ "' defined as wrong kind of tag")
          pure (.record id)
        | some (.enum ..) => err ("'" ++ t ++ "' defined as wrong kind of tag")
        | none =>
          let id ← newTag (some t)
          bindTag t (.record id union)
          pure (.record id)
    | some ms =>
      let id ← match tag with
        | some t => do
          match ← lookupTagHere t with
          | some (.record id u) =>
            if u != union then err ("'" ++ t ++ "' defined as wrong kind of tag")
            if ((← records)[id]?.map (·.complete)).getD false then
              err ("redefinition of '" ++ kindName ++ " " ++ t ++ "'")
            pure id
          | some (.enum ..) => err ("'" ++ t ++ "' defined as wrong kind of tag")
          | none =>
            let id ← newTag (some t)
            bindTag t (.record id union)
            pure id
        | none => newTag none
      let packed := packedOuter || hasAttr attrs "packed"
      let o := (← get).options
      let cap ← match attrArgs attrs "pack" with
        | some (e :: _) => do pure (some (← constInt fuel e).toNat)
        | _ => pure o.packStruct
      let minAlign := (← alignAttr fuel attrs).getD 1
      let mut specs : Array MemberSpec := #[]
      let mut names : List String := []
      for md in ms do
        match md with
        | .assertion e =>
          if (← constInt fuel e) == 0 then err "static assertion failed"
        | .mk mspecs items =>
          let si ← specType fuel mspecs
          if items.isEmpty then
            match si.ty with
            | .record _ => specs := specs.push { name := none, type := si.ty, packed, align := si.align }
            | _ => pedwarn
          for (d, width, mattrs) in items do
            let r ← declType fuel si.ty d
            let ty := r.ty
            if ty.isFunction then err "field declared as a function"
            match r.name with
            | some n =>
              if names.contains n then err ("duplicate member '" ++ n ++ "'")
              names := n :: names
            | none => pure ()
            let w ← match width with
              | some e => do
                if !ty.isInteger then err "bit-field has invalid type"
                let w ← constInt fuel e
                if w < 0 then err "negative width in bit-field"
                if w > 8 * ty.sizeOr0 (← records) then err "width of bit-field exceeds its type"
                if w == 0 && r.name.isSome then err "zero width for bit-field"
                pure (some w.toNat)
              | none => do
                match ty with
                | .array _ none => pure ()
                | _ => if !ty.complete (← records) then err "field has incomplete type"
                pure none
            let malign ← alignAttr fuel (r.attrs ++ mattrs)
            let align := match malign, si.align with
              | some a, some b => some (max a b)
              | some a, none | none, some a => some a
              | none, none => none
            specs := specs.push {
              name := r.name, type := ty, width := w, align,
              packed := packed || hasAttr mattrs "packed" }
      if names.isEmpty && specs.isEmpty then pedantic
      let recs ← records
      let (laid, size, align) := layoutRecord recs union specs.toList cap minAlign
      setRecord id { tag, union, members := laid, size, align, complete := true }
      pure (.record id)

/-- The type an enumeration specifier names, binding its enumerators when it lists them. -/
def enumType : Nat → EnumSpec → Bool → CM CType
  | 0, _, _ => err "declaration nested too deeply"
  | fuel + 1, EnumSpec.mk tag items attrs, packedOuter => do
    let tg ← target
    match items with
    | none =>
      match tag with
      | none => err "expected '\x7b' after 'enum'"
      | some t =>
        match ← lookupTag t with
        | some (.enum id k) => pure (.enum id k)
        | some _ => err ("'" ++ t ++ "' defined as wrong kind of tag")
        | none =>
          pedantic
          let id ← fresh
          bindTag t (.enum id .uint)
          pure (.enum id .uint)
    | some its =>
      let id ← fresh
      let mut next : Int := 0
      let mut nextTy : CType := .int .int
      let mut lo : Int := 0
      let mut hi : Int := 0
      let mut first := true
      let mut values : Array (String × Int) := #[]
      let intMin := IntKind.int.minIn tg
      let intMax := IntKind.int.maxIn tg
      for (n, ve) in its do
        let (v, vty) ← match ve with
          | some e => do
            let x ← rvalue (← expr fuel e)
            if !x.ty.isInteger then err ("enumerator value for '" ++ n ++ "' is not an integer constant")
            match foldInt x.e with
            | some v => pure (v, x.ty)
            | none => err ("enumerator value for '" ++ n ++ "' is not an integer constant")
          | none => pure (next, nextTy)
        let fitsInt := intMin ≤ v && v ≤ intMax
        if !fitsInt then pedantic
        let ty : CType := if fitsInt then .int .int else vty
        bind n (.enumConst v ty)
        values := values.push (n, v)
        lo := if first then v else min lo v
        hi := if first then v else max hi v
        first := false
        next := v + 1
        nextTy := if intMin ≤ v + 1 && v + 1 ≤ intMax then .int .int
          else if (vty.intKind?.map fun k => k.minIn tg ≤ v + 1 && v + 1 ≤ k.maxIn tg).getD false then vty
          else .int (if v + 1 > IntKind.long.maxIn tg then .ulong else .long)
      let short := packedOuter || hasAttr attrs "packed" || (← get).options.shortEnums
      let k := enumKind tg (min lo 0) (max hi 0) short
      for (n, v) in values do
        if !(intMin ≤ v && v ≤ intMax) then bind n (.enumConst v (.enum id k))
      match tag with
      | some t => bindTag t (.enum id k)
      | none => pure ()
      pure (.enum id k)

/-- The type a declarator builds on a base type, with its name. -/
def declType : Nat → CType → Declarator → CM Declared
  | 0, _, _ => err "declarator nested too deeply"
  | fuel + 1, base, d =>
    match d with
    | .name n => pure { name := n, ty := base }
    | .ptr _ inner => declType fuel (.ptr base) inner
    | .attributed attrs inner => do
      let ty ← match attrArgs attrs "mode" with
        | some [Expr.ident m] => applyMode base m
        | _ => pure base
      let r ← declType fuel ty inner
      pure { r with attrs := attrs ++ r.attrs }
    | .array inner len => do
      if base.isFunction then err "declaration as array of functions"
      if base.isVoid then err "declaration as array of voids"
      match len with
      | none => declType fuel (.array base none) inner
      | some e =>
        let v ← rvalue (← expr fuel e)
        if !v.ty.isInteger then err "size of array has non-integer type"
        match foldInt v.e with
        | some n =>
          if n < 0 then err "size of array is negative"
          if n == 0 then pedantic
          if base.isVariable then
            let id ← newLocal 8 8 (some .u64) false
            let r ← declType fuel (.vla base id) inner
            pure { r with prelude := .expr (.setLocal id (intConst .u64 n)) :: r.prelude }
          else declType fuel (.array base (some n.toNat)) inner
        | none =>
          if !(← get).inFunction then err "variably modified type at file scope"
          let id ← newLocal 8 8 (some .u64) false
          let len ← convertExpr v.e v.ty (.int .ulong)
          let r ← declType fuel (.vla base id) inner
          pure { r with prelude := .expr (.setLocal id len) :: r.prelude }
    | .func inner params variadic names => do
      if base.isArray then err "function returns an array"
      if base.isFunction then err "function returns a function"
      let (ptys, named) ← paramTypes fuel params
      let proto := names.isNone
      let oldNames := (names.getD []).map fun n => (some n, CType.int .int)
      let ty : CType := .func base (if proto then ptys else []) variadic proto
      let r ← declType fuel ty inner
      let direct := match inner with
        | .name _ => true
        | .attributed _ (.name _) => true
        | _ => false
      if direct then pure { r with params := some (if proto then named else oldNames) }
      else pure r

/-- The types of a prototype's parameters, and their names with their types. -/
def paramTypes : Nat → List Param → CM (List CType × List (Option String × CType))
  | 0, _ => err "declarator nested too deeply"
  | fuel + 1, params => do
    pushScope
    let mut tys : Array CType := #[]
    let mut named : Array (Option String × CType) := #[]
    for p in params do
      match p with
      | Param.mk specs d =>
        let si ← specType fuel specs
        let r ← declType fuel si.ty d
        if r.ty.isVoid then
          if params.length == 1 && r.name.isNone then break
          err "'void' must be the only parameter"
        let t := adjustParam r.ty
        tys := tys.push t
        named := named.push (r.name, t)
        -- a parameter's name stands for a value in the types of those after it, where only
        -- array lengths use it, and those are adjusted away
        match r.name with
        | some n => bind n (.enumConst 1 t)
        | none => pure ()
    let _ ← popScope
    pure (tys.toList, named.toList)

/-- The type a type name names, with statements computing array lengths it depends on. -/
def typeName : Nat → TypeName → CM (CType × List TStmt)
  | 0, _ => err "type name nested too deeply"
  | fuel + 1, Ast.TypeName.mk specs d => do
    let si ← specType fuel specs
    let r ← declType fuel si.ty d
    pure (r.ty, si.prelude ++ r.prelude)

/-- The value of an integer constant expression. -/
def constInt : Nat → Expr → CM Int
  | 0, _ => err "expression nested too deeply"
  | fuel + 1, e => do
    let v ← rvalue (← expr fuel e)
    if !v.ty.isInteger then err "expression is not an integer constant"
    match foldInt v.e with
    | some n => pure n
    | none => err "expression is not an integer constant"

/-- Check an expression. -/
def expr : Nat → Expr → CM Val
  | 0, _ => err "expression nested too deeply"
  | fuel + 1, e =>
    match e with
    | .ident n => do
      match ← identVal n with
      | some v => pure v
      | none =>
        if (n == "__func__" || n == "__FUNCTION__" || n == "__PRETTY_FUNCTION__") &&
            (← get).inFunction then funcNameVal
        else err ("'" ++ n ++ "' undeclared")
    | .num t => numberVal t
    | .char t => charVal t
    | .str ps => stringVal ps
    | .paren a => expr fuel a
    | .unary op a => do
      match op with
      | .addr =>
        let v ← expr fuel a
        match v.ty with
        | .func .. => pure { ty := .ptr v.ty, e := ← placeAddress v }
        | _ =>
          match v.place with
          | .none => err "lvalue required as unary '&' operand"
          | .bits .. => err "cannot take address of bit-field"
          | _ => pure { ty := .ptr v.ty, e := ← placeAddress v }
      | .deref =>
        let v ← rvalue (← expr fuel a)
        match v.ty with
        | .ptr (.func r ps va p) => pure { ty := .func r ps va p, e := v.e }
        | .ptr .void =>
          warn ""
          pure { ty := .void, e := v.e }
        | .ptr t => pure { ty := t, place := .mem v.e }
        | _ => err "invalid type argument of unary '*'"
      | .neg | .plus | .bnot =>
        let v ← rvalue (← expr fuel a)
        if !v.ty.isArithmetic || (op == .bnot && !v.ty.isInteger) then
          err "wrong type argument to unary operator"
        let t ← promoted v.ty
        let x ← convertExpr v.e v.ty t
        if op == .plus then pure { ty := t, e := x }
        else
          let k ← numOf t
          let tmp ← if k.wide then newTemp 16 else pure 0
          let r := TExpr.unary (if op == .neg then .neg else .bnot) k tmp x
          pure { ty := t, e := r, null := isNullConst t r }
      | .lnot =>
        let t ← truthOf (← expr fuel a)
        let r := TExpr.binary .eq .i32 0 t (.const .i32 0)
        pure { ty := .int .int, e := r, null := isNullConst (.int .int) r }
      | .preInc | .preDec | .postInc | .postDec => incDec (← expr fuel a) op
      | .real | .imag => err "complex arithmetic is not supported"
    | .binary op a b => do
      match op with
      | .land | .lor =>
        let x ← truthOf (← expr fuel a)
        let y ← truthOf (← expr fuel b)
        let r := if op == .land then TExpr.land x y else .lor x y
        pure { ty := .int .int, e := r, null := isNullConst (.int .int) r }
      | _ =>
        let x ← rvalue (← expr fuel a)
        let y ← rvalue (← expr fuel b)
        binaryVals op x y
    | .assign none a b => do
      let l ← expr fuel a
      match l.place with
      | .none => err "lvalue required as left operand of assignment"
      | _ => pure ()
      if l.ty.isArray then err "assignment to expression with array type"
      let r ← expr fuel b
      let c ← assignConvert r l.ty
      pure { ty := l.ty, e := ← storeTo l.place l.ty c }
    | .assign (some op) a b => do
      let l ← expr fuel a
      let r ← rvalue (← expr fuel b)
      let e ← modifyPlace l false fun old => do
        let res ← binaryVals op { ty := l.ty, e := old } r
        convertExpr res.e res.ty l.ty
      pure { ty := l.ty, e }
    | .cond c a b => do
      let cv ← expr fuel c
      match a with
      | some a =>
        let ct ← truthOf cv
        let x ← rvalue (← expr fuel a)
        let y ← rvalue (← expr fuel b)
        let (t, xe, ye) ← condTypes x y
        let r := TExpr.cond ct xe ye
        pure { ty := t, e := r, null := t.isInteger && isNullConst t r }
      | none =>
        let cr ← rvalue cv
        let k ← numOf cr.ty
        let tmp ← newLocal 8 8 (some (if k.wide then .u64 else k)) false
        let y ← rvalue (← expr fuel b)
        let (t, xe, ye) ← condTypes { ty := cr.ty, e := .local tmp } y
        pure { ty := t, e := .seq (.setLocal tmp cr.e) (.cond (.truth k (.local tmp)) xe ye) }
    | .comma a b => do
      let x ← expr fuel a
      let y ← rvalue (← expr fuel b)
      let xe ← if x.ty.isVoid then pure (effectOf x) else do pure (← rvalue x).e
      pure { ty := y.ty, e := .seq xe y.e }
    | .call f args => do
      match f with
      | .ident n =>
        match ← lookup n with
        | some _ => callValues (← expr fuel f) (← args.mapM (expr fuel))
        | none =>
          match ← builtinCall (expr fuel) n args with
          | some v => pure v
          | none =>
            let name := (builtinLibraryName n).getD n
            if (← lookup name).isNone then
              if name == n then pedwarn "implicit-function-declaration"
              let o := (← get).options
              let known := if o.noBuiltin then none else libraryPrototype name
              let ty := known.getD (.func (.int .int) [] false false)
              let st ← get
              let saved := st.scopes
              set { st with scopes := [saved.getLast?.getD {}] }
              declareFunc name ty false false false false false
              let inner ← get
              set { inner with scopes := saved.dropLast ++ inner.scopes }
            callValues (← expr fuel (.ident name)) (← args.mapM (expr fuel))
      | _ => callValues (← expr fuel f) (← args.mapM (expr fuel))
    | .index a i => do
      let x ← rvalue (← expr fuel a)
      let y ← rvalue (← expr fuel i)
      let (p, n) := if x.ty.isPointer then (x, y) else (y, x)
      if !p.ty.isPointer || !n.ty.isInteger then err "subscripted value is neither array nor pointer"
      if n.ty == .int .char then warn "char-subscripts"
      let r ← ptrAdd p n false
      match p.ty with
      | .ptr (.func ..) => err "subscripted value is pointer to function"
      | .ptr t => pure { ty := t, place := .mem r.e }
      | _ => err "subscripted value is neither array nor pointer"
    | .member a n => do
      let v ← expr fuel a
      match v.ty with
      | .record id => memberOf (← placeAddress v) id n
      | _ => err ("request for member '" ++ n ++ "' in something not a structure or union")
    | .arrow a n => do
      let v ← rvalue (← expr fuel a)
      match v.ty with
      | .ptr (.record id) => memberOf v.e id n
      | _ => err ("invalid type argument of '->'")
    | .cast t a => do
      let (ty, pre) ← typeName fuel t
      let v ← castVal (← expr fuel a) ty
      pure (if pre.isEmpty then v else { v with e := .stmts pre v.e })
    | .sizeofExpr a => do
      let v ← expr fuel a
      match v.place with
      | .bits .. => err "'sizeof' applied to a bit-field"
      | _ => sizeofVal v.ty
    | .sizeofType t => do
      let (ty, pre) ← typeName fuel t
      let v ← sizeofVal ty
      pure (if pre.isEmpty then v else { v with e := .stmts pre v.e })
    | .alignofExpr a => do
      let v ← expr fuel a
      pedantic
      pure (sizeVal (← alignOf v.ty))
    | .alignofType t => do
      let (ty, _) ← typeName fuel t
      pure (sizeVal (← alignOf ty))
    | .compound t items => do
      let (ty, pre) ← typeName fuel t
      let (ty', es) ← initEntries (expr fuel) fuel ty (.list items)
      if (← get).inFunction then
        let size ← sizeOf ty'
        let id ← newTemp size (← alignOf ty')
        let code ← initCode (.addr id) size es.toList
        pure { ty := ty', place := .mem (.stmts (pre ++ code) (.addr id)) }
      else
        let gi ← staticInit ty' es.toList
        let link := "__compound_literal." ++ toString (← fresh)
        declareGlobal link link ty' true false (some gi) 1 true false
        pure { ty := ty', place := .mem (.sym (.global link) 0) }
    | .stmtExpr items => do
      if !(← get).inFunction then err "braced-group within expression allowed only inside a function"
      pushScope
      let (body, last) := match items.getLast? with
        | some (.expr e) => (items.dropLast, some e)
        | _ => (items, none)
      let ss ← blockItems fuel body
      let v ← match last with
        | some e => do
          let x ← expr fuel e
          if x.ty.isVoid then pure x else rvalue x
        | none => pure { ty := .void, e := .const .i32 0 }
      let _ ← popScope
      pure { ty := v.ty, e := .stmts ss v.e }
    | .vaArg ap t => do
      let a ← rvalue (← expr fuel ap)
      let (ty, _) ← typeName fuel t
      let c ← argClassOf ty
      let tmp ← match c with
        | .word _ => pure 0
        | .wide _ => newTemp 16
        | .record size align => newTemp size align
      pure { ty, e := .vaArg a.e c tmp }
    | .offsetof t path => do
      let (ty, _) ← typeName fuel t
      let recs ← records
      let mut cur := ty
      let mut off := 0
      for d in path do
        match d, cur with
        | .field n, .record id =>
          match findMember recs 16 id n with
          | some f =>
            if f.bits.isSome then err "attempt to take address of bit-field structure member"
            off := off + f.offset
            cur := f.type
          | none => err ("no member named '" ++ n ++ "'")
        | .index i, .array elem _ =>
          let k ← constInt fuel i
          off := off + k.toNat * elem.sizeOr0 recs
          cur := elem
        | _, _ => err "invalid designator in 'offsetof'"
      pure (sizeVal off)
    | .typesCompatible a b => do
      let (x, _) ← typeName fuel a
      let (y, _) ← typeName fuel b
      pure (intVal (if x.compatible y then 1 else 0))
    | .chooseExpr c a b => do
      if (← constInt fuel c) != 0 then expr fuel a else expr fuel b
    | .generic a assocs => do
      let v ← expr fuel a
      let t := match v.ty with
        | .array elem _ | .vla elem _ => CType.ptr elem
        | .func r ps va p => .ptr (.func r ps va p)
        | t => t
      let mut chosen : Option Expr := none
      let mut dflt : Option Expr := none
      for (tn, x) in assocs do
        match tn with
        | some tn =>
          let (aty, _) ← typeName fuel tn
          if chosen.isNone && aty.compatible t then chosen := some x
        | none => dflt := some x
      match chosen.orElse fun _ => dflt with
      | some x => expr fuel x
      | none => err "'_Generic' selector is not compatible with any association"
    | .labelAddr _ => err "taking the address of a label is not supported"
    | .braced _ => err "expected expression before '\x7b' token"

/-- An expression evaluated for its effects only: a postfix increment or decrement there
does what the prefix one does, without keeping the old value. -/
def discarded : Expr → Expr
  | .unary .postInc a => .unary .preInc a
  | .unary .postDec a => .unary .preDec a
  | e => e

/-- Check a statement. -/
def stmt : Nat → Stmt → CM (List TStmt)
  | 0, _ => err "statement nested too deeply"
  | fuel + 1, s =>
    match s with
    | .expr e => do
      let v ← expr fuel (discarded e)
      let x := effectOf v
      if !v.ty.isVoid && !hasEffect 64 x then warn "unused-value"
      pure [.expr x]
    | .empty => pure []
    | .decl d => declaration fuel d false
    | .block items => do
      pushScope
      let ss ← blockItems fuel items
      let cs ← popScope
      pure [.block ss cs]
    | .ite c t e => do
      let cv ← truthOf (← expr fuel c)
      pushScope
      let ts ← stmt fuel t
      let tc ← popScope
      pushScope
      let es ← match e with
        | some e => stmt fuel e
        | none => pure []
      let ec ← popScope
      pure [.ite cv (.block ts tc) (.block es ec)]
    | .while c body => do
      let cv ← truthOf (← expr fuel c)
      pushScope
      let b ← nested true (stmt fuel body)
      let bc ← popScope
      pure [.loop (some cv) (.block b bc) none true]
    | .doWhile body c => do
      pushScope
      let b ← nested true (stmt fuel body)
      let bc ← popScope
      let cv ← truthOf (← expr fuel c)
      pure [.loop (some cv) (.block b bc) none false]
    | .for init c step body => do
      pushScope
      let is ← match init with
        | some s => stmt fuel s
        | none => pure []
      let cv ← match c with
        | some c => do pure (some (← truthOf (← expr fuel c)))
        | none => pure none
      let sv ← match step with
        | some x => do pure (some (effectOf (← expr fuel (discarded x))))
        | none => pure none
      pushScope
      let b ← nested true (stmt fuel body)
      let bc ← popScope
      let cs ← popScope
      pure [.block (is ++ [.loop cv (.block b bc) sv true]) cs]
    | .switch e body => do
      let v ← rvalue (← expr fuel e)
      if !v.ty.isInteger then err "switch quantity not an integer"
      let t ← promoted v.ty
      let k ← numOf t
      let ve ← convertExpr v.e v.ty t
      modify fun st => { st with fn := { st.fn with switches := { kind := k, ty := t } :: st.fn.switches } }
      pushScope
      let b ← nested false (stmt fuel body)
      let bc ← popScope
      let ctx ← match (← get).fn.switches with
        | ctx :: rest => do
          modify fun st => { st with fn := { st.fn with switches := rest } }
          pure ctx
        | [] => err "switch context lost"
      let cases := ctx.cases.toList.map fun (lo, hi, n) => (Arith.ofInt k lo, Arith.ofInt k hi, n)
      pure [.switch ve k cases ctx.dflt (.block b bc)]
    | .case lo hi s => do
      match (← get).fn.switches with
      | [] => err "case label not within a switch statement"
      | ctx :: rest =>
        let tg ← target
        let wrap := fun (v : Int) => match ctx.ty.intKind? with
          | some k => k.wrapIn tg v
          | none => v
        let l := wrap (← constInt fuel lo)
        let h ← match hi with
          | some x => do pure (wrap (← constInt fuel x))
          | none => pure l
        if h < l then warn ""
        if ctx.cases.any fun (a, b, _) => a ≤ h && l ≤ b then err "duplicate case value"
        let st ← get
        let n := st.caseCounter
        let ctx' := { ctx with cases := ctx.cases.push (l, h, n) }
        set { st with caseCounter := n + 1, fn := { st.fn with switches := ctx' :: rest } }
        pure ([.caseLabel n] ++ (← stmt fuel s))
    | .default s => do
      match (← get).fn.switches with
      | [] => err "'default' label not within a switch statement"
      | ctx :: rest =>
        if ctx.dflt.isSome then err "multiple default labels in one switch"
        let st ← get
        let n := st.caseCounter
        set { st with caseCounter := n + 1, fn := { st.fn with switches := { ctx with dflt := some n } :: rest } }
        pure ([.caseLabel n] ++ (← stmt fuel s))
    | .ret e => do
      let ret := (← get).fn.ret
      match e with
      | none =>
        if !ret.isVoid then pedwarn
        pure [.ret none]
      | some e =>
        let v ← expr fuel e
        if ret.isVoid then
          if !v.ty.isVoid then pedwarn
          pure [.expr (effectOf v), .ret none]
        else
          let c ← assignConvert v ret
          pure [.ret (some c)]
    | .brk => do
      if (← get).fn.breakables == 0 then err "break statement not within loop or switch"
      pure [.brk]
    | .cont => do
      if (← get).fn.loops == 0 then err "continue statement not within a loop"
      pure [.cont]
    | .goto n => do
      noteGoto n
      pure [.goto n]
    | .gotoExpr e => do
      let v ← rvalue (← expr fuel e)
      pure [.gotoAddr v.e]
    | .label n s => do
      if (← get).fn.labels.contains n then err ("duplicate label '" ++ n ++ "'")
      modify fun st => { st with fn := { st.fn with labels := n :: st.fn.labels } }
      pure ([.label n] ++ (← stmt fuel s))
    | .asm t => do
      if t.all Char.isWhitespace then pure [] else err "inline assembly is not supported"

/-- Check the items of a block. -/
def blockItems : Nat → List Stmt → CM (List TStmt)
  | 0, _ => err "statement nested too deeply"
  | fuel + 1, items => do
    let mut out : Array TStmt := #[]
    for s in items do out := out ++ (← stmt fuel s)
    pure out.toList

/-- Check a declaration at file scope or in a block; gives the statements that run it. -/
def declaration : Nat → Decl → Bool → CM (List TStmt)
  | 0, _, _ => err "declaration nested too deeply"
  | fuel + 1, d, fileScope =>
    match d with
    | .assertion e msg => do
      if (← constInt fuel e) == 0 then
        err ("static assertion failed" ++ (msg.map (": " ++ ·)).getD "")
      pure []
    | .func specs dcl attrs old body => do
      functionDef fuel specs dcl attrs old body
      pure []
    | .mk specs items => do
      let si ← specType fuel specs
      let mut out : Array TStmt := si.prelude.toArray
      for item in items do
        match item with
        | InitDecl.mk dcl init attrs =>
          let r ← declType fuel si.ty dcl
          let name ← match r.name with
            | some n => pure n
            | none => err "expected identifier or '(' before ';' token"
          let attrs := si.attrs ++ r.attrs ++ attrs
          out := out ++ r.prelude.toArray
          if si.storage.contains .typedef then
            if init.isSome then err ("typedef '" ++ name ++ "' is initialized")
            match ← lookupHere name with
            | some (.typedef t) =>
              if !t.compatible r.ty then err ("conflicting types for '" ++ name ++ "'")
            | some _ => err ("'" ++ name ++ "' redeclared as different kind of symbol")
            | none => pure ()
            bind name (.typedef r.ty)
            continue
          match r.ty with
          | .func .. =>
            if init.isSome then err ("function '" ++ name ++ "' is initialized like a variable")
            let static := si.storage.contains .static
            if static && !fileScope then err ("invalid storage class for function '" ++ name ++ "'")
            let existing := ((← get).funcs.get? name).map (·.internal)
            declareFunc name r.ty (static || existing.getD false) si.inline false
              (hasAttr attrs "unused" || hasAttr attrs "used") (hasAttr attrs "constructor")
          | ty =>
            if ty.isVoid then err ("variable or field '" ++ name ++ "' declared void")
            let quiet := hasAttr attrs "unused" || hasAttr attrs "used"
            let align := max (si.align.getD 1) ((← alignAttr fuel attrs).getD 1)
            if fileScope || si.storage.contains .static || si.storage.contains .external then
              let isExtern := si.storage.contains .external
              let static := si.storage.contains .static
              let link ← if fileScope || isExtern then pure name
                else do pure (name ++ "." ++ toString (← fresh))
              let existing := ((← get).globals.get? link).map (·.internal)
              let internal := static || (isExtern && existing.getD false)
              if isExtern && init.isSome && !fileScope then
                err ("'" ++ name ++ "' has both 'extern' and initializer")
              if isExtern && init.isSome then warn ""
              match ty with
              | .array _ none => pure ()
              | _ => declareGlobal name link ty internal isExtern none align quiet si.const
              match init with
              | none =>
                match ty with
                | .array _ none => declareGlobal name link ty internal isExtern none align quiet si.const
                | _ => pure ()
              | some i =>
                let (ty', es) ← initEntries (expr fuel) fuel ty i
                let gi ← staticInit ty' es.toList
                declareGlobal name link ty' internal isExtern (some gi) align quiet si.const
            else
              out := out ++ (← localObject fuel name ty align quiet attrs init).toArray
      pure out.toList

/-- Declare an object of automatic storage and give the statements that initialize it. -/
def localObject : Nat → String → CType → Nat → Bool → List Attr → Option Init → CM (List TStmt)
  | 0, _, _, _, _, _, _ => err "declaration nested too deeply"
  | fuel + 1, name, ty, align, quiet, attrs, init => do
    let tg ← target
    let level := (← get).level
    if let some (.object _ _ l) ← lookupHere name then
      if l == level then err ("redeclaration of '" ++ name ++ "' with no linkage")
    let bindObj := fun (t : CType) => do
      let size ← match t.size? (← records) with
        | some s => pure s
        | none => err ("storage size of '" ++ name ++ "' isn't known")
      let a := max (t.align (← records)) align
      let kind := if inMemory tg t then none else t.num? tg
      let id ← newLocal size a kind kind.isNone
      noteVar id { name, quiet }
      bind name (.object id t level)
      pure id
    let mut code : Array TStmt := #[]
    let mut objId := 0
    if ty.isVariable then
      if init.isSome then err "variable-sized object may not be initialized"
      let id ← newLocal 8 8 (some .u64) false
      noteVar id { name, quiet }
      bind name (.object id ty level)
      code := code.push (.expr (.setLocal id (.alloca (← sizeExpr 16 ty))))
      objId := id
    else
      match init with
      | none => objId ← bindObj ty
      | some i =>
        let (id, ty', es) ← match ty with
          | .array _ none => do
            let (ty', es) ← initEntries (expr fuel) fuel ty i
            let id ← bindObj ty'
            pure (id, ty', es)
          | _ => do
            let id ← bindObj ty
            let (ty', es) ← initEntries (expr fuel) fuel ty i
            pure (id, ty', es)
        objId := id
        if inMemory tg ty' then
          code := code ++ (← initCode (.addr id) (← sizeOf ty') es.toList).toArray
        else
          match es.toList with
          | [.value _ _ e] => code := code.push (.expr (.setLocal id e))
          | [] => code := code.push (.expr (.setLocal id (← zeroOf (← numOf ty'))))
          | _ => err "invalid initializer"
    match attrArgs attrs "cleanup" with
    | some [Expr.ident f] =>
      markAddressed objId
      noteRead objId
      let fv ← expr fuel (.ident f)
      let call ← callValues fv [{ ty := .ptr ty, e := .addr objId }]
      addCleanup call.e
    | some _ => err "cleanup argument not an identifier"
    | none => pure ()
    pure code.toList

/-- Check a function definition and add it to the unit. -/
def functionDef : Nat → Specs → Declarator → List Attr → List Decl → List Stmt → CM PUnit
  | 0, _, _, _, _, _ => err "function nested too deeply"
  | fuel + 1, specs, dcl, attrs, old, body => do
    let si ← specType fuel specs
    let r ← declType fuel si.ty dcl
    let name ← match r.name with
      | some n => pure n
      | none => err "function definition has no name"
    let attrs := si.attrs ++ r.attrs ++ attrs
    let (ret, va, proto) ← match r.ty with
      | .func ret _ va proto => pure (ret, va, proto)
      | _ => err "expected '=', ',', ';', 'asm' or '__attribute__' before '\x7b' token"
    if ret.isRecord && !ret.complete (← records) then err "return type is an incomplete type"
    let mut params := r.params.getD []
    if !old.isEmpty || !proto then
      -- the declarations of an identifier list give the parameters' types
      pushScope
      let mut declared : Array (String × CType) := #[]
      for od in old do
        match od with
        | Decl.mk ospecs oitems =>
          let osi ← specType fuel ospecs
          for oi in oitems do
            match oi with
            | InitDecl.mk od' _ _ =>
              let orr ← declType fuel osi.ty od'
              match orr.name with
              | some n => declared := declared.push (n, adjustParam orr.ty)
              | none => pure ()
        | _ => err "invalid declaration in parameter list"
      let _ ← popScope
      let mut ps : Array (Option String × CType) := #[]
      for (n, _) in params do
        let t ← match n.bind fun n => (declared.find? (·.1 == n)).map (·.2) with
          | some t => pure t
          | none => do
            pedwarn "implicit-int"
            pure (CType.int .int)
        ps := ps.push (n, t)
      params := ps.toList
    let ty : CType := if proto then r.ty else .func ret [] va false
    let st ← get
    let isNested := st.inFunction
    let static := si.storage.contains .static
    let quiet := hasAttr attrs "unused" || hasAttr attrs "used"
    let link ← if isNested then do pure (name ++ "." ++ toString (← fresh)) else pure name
    if isNested then
      declareFunc link ty true si.inline true quiet false
      bind name (.func link ty)
    else
      let existing := (st.funcs.get? name).map (·.internal)
      declareFunc name ty (static || existing.getD false) si.inline true quiet
        (hasAttr attrs "constructor")
    let internal := ((← get).funcs.get? link).map (·.internal) |>.getD static
    let saved ← get
    let level := saved.level + 1
    set { saved with fn := { name, ret, variadic := va }, inFunction := true, level }
    pushScope
    let tg ← target
    let mut ps : Array (Nat × ArgClass) := #[]
    for (n, t) in params do
      let t := adjustParam t
      let kind := if inMemory tg t then none else t.num? tg
      let size ← match t.size? (← records) with
        | some s => pure s
        | none => err "parameter has incomplete type"
      let id ← newLocal size (← alignOf t) kind kind.isNone
      ps := ps.push (id, ← argClassOf t)
      match n with
      | some n =>
        if (← lookupHere n).isSome then err ("redefinition of parameter '" ++ n ++ "'")
        noteVar id { name := n, param := true }
        bind n (.object id t level)
      | none => pure ()
    let ss ← blockItems fuel body
    let cleanups ← popScope
    let fnc := (← get).fn
    for g in fnc.gotos do
      if !fnc.labels.contains g then err ("label '" ++ g ++ "' used but not defined")
    for l in fnc.labels do
      if !fnc.gotos.contains l then warn "unused-label"
    let isMain := name == "main" && !isNested && ret == .int .int
    let falls := mayFallThrough nestingLimit (.block ss cleanups)
    let body' := if isMain && falls then ss ++ [TStmt.ret (some (intConst .i32 0))] else ss
    if !ret.isVoid && !isMain && falls && !si.noreturn then warn "return-type"
    let vars := fnc.vars.toList.mergeSort fun a b => a.1 ≤ b.1
    for (_, u) in vars do
      if !u.quiet then
        if !u.read && !u.written then warn (if u.param then "unused-parameter" else "unused-variable")
        else if !u.read then
          warn (if u.param then "unused-but-set-parameter" else "unused-but-set-variable")
    let rc ← definitionRet ret
    let f : Function := {
      name := link, params := ps.toList, ret := rc, variadic := va, locals := fnc.locals,
      body := .block body' cleanups, exported := !internal }
    modify fun st => { st with
      fn := saved.fn, inFunction := saved.inFunction, level := saved.level,
      defs := st.defs.push f }

end

/-- The types the compiler itself names: the argument list of a function taking extra
arguments, an array of one structure of the offsets into the saved registers and the
addresses of the overflow area and of the register save area; and the 128-bit integers. -/
def builtinTypes : CM PUnit := do
  let recs ← records
  let members : List MemberSpec :=
    [{ name := some "gp_offset", type := .int .uint }, { name := some "fp_offset", type := .int .uint },
     { name := some "overflow_arg_area", type := .ptr .void },
     { name := some "reg_save_area", type := .ptr .void }]
  let (laid, size, align) := layoutRecord recs false members none 1
  let id ← newRecord {
    tag := some "__va_list_tag", union := false, members := laid, size, align, complete := true }
  bind "__builtin_va_list" (.typedef (.array (.record id) (some 1)))
  bind "__int128_t" (.typedef (.int .int128))
  bind "__uint128_t" (.typedef (.int .uint128))

/-- Check a translation unit, given as declarations each marked whether it comes from a
header: the program, and the diagnostics. -/
def checkUnit (tg : Target) (o : Options) (decls : List (Decl × Bool)) :
    Except String (Program × Array Diag) := do
  let run : CM Program := do
    builtinTypes
    for (d, fromHeader) in decls do
      modify fun st => { st with header := fromHeader }
      let _ ← declaration nestingLimit d true
    modify fun st => { st with header := false }
    finishUnit
  let (p, st) ← run.run { target := tg, options := o }
  pure (p, st.diags)

end InlineC.Lang.Check
