import InlineC.Lang.Check.Ops

/-!
# Calls and built-in functions

A call converts each argument to its parameter's type as an assignment would, and passes
arguments beyond the parameters, or all of them when the function has no prototype, after
the default promotions. Each argument is classed by how it travels, and the call records
how many of them are fixed when the callee takes more.

The built-in functions that are not plain library calls are given their meaning here: the
bit operations, the arithmetic that reports overflow, the floating classifications, the
access to extra arguments, and the hints that only pass a value on. Expressions are
checked by the function given.
-/

namespace InlineC.Lang.Check

open Ast

/-- A call of a function value with checked arguments. -/
def callValues (fv : Val) (args : List Val) : CM Val := do
  let f ← rvalue fv
  let (ret, ps, va, proto) ← match f.ty with
    | .ptr (.func r ps va proto) => pure (r, ps, va, proto)
    | _ => err "called object is not a function or function pointer"
  if proto then
    if args.length < ps.length then err "too few arguments to function"
    if args.length > ps.length && !va then err "too many arguments to function"
  let mut es : Array TExpr := #[]
  let mut cs : Array ArgClass := #[]
  for (a, i) in args.zipIdx do
    if a.ty.isVoid then err "invalid use of void expression"
    match ps[i]? with
    | some p =>
      if proto then
        es := es.push (← assignConvert a p)
        cs := cs.push (← argClassOf p)
      else
        let r ← rvalue a
        let t ← defaultPromote r.ty
        es := es.push (← convertExpr r.e r.ty t)
        cs := cs.push (← argClassOf t)
    | none =>
      let r ← rvalue a
      let t ← defaultPromote r.ty
      es := es.push (← convertExpr r.e r.ty t)
      cs := cs.push (← argClassOf t)
  if !ret.isVoid && !(ret.isScalar || ret.isRecord) then err "function returns an invalid type"
  let rc ← retClassOf ret
  pure { ty := ret, e := .call f.e es.toList cs.toList (if va then some ps.length else none) rc }

/-- The bit operations by the name of their built-in function, without the width
suffix. -/
def bitBuiltins : List (String × BitOp) :=
  [("popcount", .popcount), ("clz", .clz), ("ctz", .ctz), ("ffs", .ffs),
   ("parity", .parity), ("clrsb", .clrsb)]

/-- The bit operation and operand width a built-in function name stands for. -/
def bitBuiltin (name : String) : Option (BitOp × Bool) :=
  if !name.startsWith "__builtin_" then none
  else
    let base := (name.drop 10).toString
    bitBuiltins.findSome? fun (n, op) =>
      if base == n then some (op, false)
      else if base == n ++ "l" || base == n ++ "ll" then some (op, true)
      else none

/-- The operator, operand type and whether the result is stored, of an overflow-checking
built-in; the operand type is given for the typed forms only. -/
def overflowBuiltin (name : String) : Option (BinOp × Option CType × Bool) :=
  let ops : List (String × BinOp) := [("add", .add), ("sub", .sub), ("mul", .mul)]
  ops.findSome? fun (n, op) =>
    if name == "__builtin_" ++ n ++ "_overflow" then some (op, none, true)
    else if name == "__builtin_" ++ n ++ "_overflow_p" then some (op, none, false)
    else
      let typed : List (String × CType) :=
        [("s" ++ n, .int .int), ("s" ++ n ++ "l", .int .long), ("s" ++ n ++ "ll", .int .llong),
         ("u" ++ n, .int .uint), ("u" ++ n ++ "l", .int .ulong), ("u" ++ n ++ "ll", .int .ullong)]
      typed.findSome? fun (m, t) =>
        if name == "__builtin_" ++ m ++ "_overflow" then some (op, some t, true) else none

/-- The class `__builtin_classify_type` gives a type. -/
def typeClass : CType → Int
  | .void => 0
  | .int .bool => 4
  | .int .char | .int .schar | .int .uchar => 2
  | .int _ => 1
  | .enum .. => 3
  | .ptr _ | .array .. | .vla .. | .func .. => 5
  | .float _ => 8
  | .complex _ => 9
  | .record _ => 12

/-- A floating constant of a kind from its bits. -/
def floatBits (k : NumKind) (bits : Nat) : CM TExpr := do
  if k.wide then
    pure (.wideConst k (← newTemp 16) (UInt64.ofNat (bits % Arith.pow2 64))
      (UInt64.ofNat (bits / Arith.pow2 64)))
  else pure (.const k (UInt64.ofNat bits))

/-- An operand of a floating classification: integers are taken as `double`. -/
def floatOperand (v : Val) : CM (CType × TExpr) := do
  let r ← rvalue v
  if r.ty.isInteger then pure (.float .double, ← convertExpr r.e r.ty (.float .double))
  else if r.ty.isFloating then pure (r.ty, r.e)
  else err "non-floating-point argument in call to a classification function"

/-- A call of a built-in function that is not a plain library call, when the name is
one. -/
def builtinCall (ex : Expr → CM Val) (name : String) (args : List Expr) : CM (Option Val) := do
  let arity := fun (n : Nat) => do
    if args.length != n then err ("wrong number of arguments to function '" ++ name ++ "'")
  let arg := fun (i : Nat) => do rvalue (← ex (args.getD i (.num "0")))
  let classify := fun (mk : NumKind → Builtin) => do
    arity 1
    let (t, e) ← floatOperand (← ex (args.getD 0 (.num "0")))
    pure (some ({ ty := .int .int, e := .builtin (mk (← numOf t)) [e] } : Val))
  let compare := fun (op : BinaryOp) => do
    arity 2
    pure (some (← binaryVals op (← arg 0) (← arg 1)))
  match bitBuiltin name with
  | some (op, wide) =>
    arity 1
    let signed := op == .clrsb
    let t : CType := .int (if wide then (if signed then .long else .ulong) else (if signed then .int else .uint))
    let v ← arg 0
    let e ← convertExpr v.e v.ty t
    let k ← numOf t
    return some { ty := .int .int, e := .builtin (.bits op k) [e] }
  | none => pure ()
  let swapped : Option CType := match name with
    | "__builtin_bswap16" => some (.int .ushort)
    | "__builtin_bswap32" => some (.int .uint)
    | "__builtin_bswap64" => some (.int .ulong)
    | _ => none
  match swapped with
  | some t =>
    arity 1
    let v ← arg 0
    let e ← convertExpr v.e v.ty t
    let k ← numOf t
    return some { ty := t, e := .builtin (.bits .bswap k) [e] }
  | none => pure ()
  match overflowBuiltin name with
  | some (op, typed, store) =>
    arity 3
    let a ← arg 0
    let b ← arg 1
    let c ← arg 2
    let (a', ka, b', kb) ← match typed with
      | some t => pure (← convertExpr a.e a.ty t, ← numOf t, ← convertExpr b.e b.ty t, ← numOf t)
      | none =>
        if !(a.ty.isInteger && b.ty.isInteger) then err "operand to overflow built-in is not an integer"
        pure (a.e, ← numOf a.ty, b.e, ← numOf b.ty)
    let rty ← if store then
        match c.ty with
        | .ptr t => pure t
        | _ => err "argument 3 in call to overflow built-in does not have pointer to integer type"
      else pure c.ty
    if !rty.isInteger || rty == .int .bool then
      err "argument 3 in call to overflow built-in does not have integral type"
    let r ← numOf rty
    let rest := if store then [c.e] else []
    return some { ty := .int .bool, e := .builtin (.overflow op ka kb r store) ([a', b'] ++ rest) }
  | none => pure ()
  let quietNan : Nat := 0x7FFF * Arith.pow2 64 + 0xC000000000000000
  let infinity : Nat := 0x7FFF * Arith.pow2 64 + 0x8000000000000000
  match name with
  | "__builtin_expect" | "__builtin_expect_with_probability" =>
    let v ← arg 0
    for i in [1:args.length] do discard (arg i)
    pure (some { ty := .int .long, e := ← convertExpr v.e v.ty (.int .long) })
  | "__builtin_unreachable" => pure (some { ty := .void, e := .builtin .unreachable [] })
  | "__builtin_trap" => pure (some { ty := .void, e := .builtin .trap [] })
  | "__builtin_constant_p" =>
    arity 1
    let v ← rvalueWith false (← ex (args.getD 0 (.num "0")))
    let c := match fold v.e with
      | some (.num ..) => 1
      | some (.addr (.string _) _) => 1
      | _ => 0
    pure (some (intVal c))
  | "__builtin_nan" | "__builtin_nans" =>
    pure (some { ty := .float .double, e := .const .f64 (if name == "__builtin_nan" then 0x7FF8000000000000 else 0x7FF4000000000000) })
  | "__builtin_nanf" | "__builtin_nansf" =>
    pure (some { ty := .float .float, e := .const .f32 (if name == "__builtin_nanf" then 0x7FC00000 else 0x7FA00000) })
  | "__builtin_nanl" => pure (some { ty := .float .ldouble, e := ← floatBits .f80 quietNan })
  | "__builtin_inf" | "__builtin_huge_val" =>
    pure (some { ty := .float .double, e := .const .f64 0x7FF0000000000000 })
  | "__builtin_inff" | "__builtin_huge_valf" =>
    pure (some { ty := .float .float, e := .const .f32 0x7F800000 })
  | "__builtin_infl" | "__builtin_huge_vall" =>
    pure (some { ty := .float .ldouble, e := ← floatBits .f80 infinity })
  | "__builtin_isnan" => classify .isnan
  | "__builtin_isinf_sign" => classify .isinfSign
  | "__builtin_isinf" =>
    match ← classify .isinfSign with
    | some v => pure (some { v with e := .truth .i32 v.e })
    | none => pure none
  | "__builtin_isfinite" => classify .isfinite
  | "__builtin_isnormal" => classify .isnormal
  | "__builtin_signbit" | "__builtin_signbitf" | "__builtin_signbitl" => classify .signbit
  | "__builtin_fpclassify" =>
    arity 6
    let cs ← (List.range 5).mapM fun i => do convert (← arg i) (.int .int)
    let (t, x) ← floatOperand (← ex (args.getD 5 (.num "0")))
    let k ← numOf t
    let zero ← convertExpr (intConst .i32 0) (.int .int) t
    let isZero : TExpr := .binary .eq k 0 x zero
    let pick := fun (i : Nat) => cs.getD i (intConst .i32 0)
    let e : TExpr := .cond (.builtin (.isnan k) [x]) (pick 0)
      (.cond (.truth .i32 (.builtin (.isinfSign k) [x])) (pick 1)
        (.cond (.builtin (.isnormal k) [x]) (pick 2)
          (.cond isZero (pick 4) (pick 3))))
    pure (some { ty := .int .int, e })
  | "__builtin_isgreater" => compare .gt
  | "__builtin_isgreaterequal" => compare .ge
  | "__builtin_isless" => compare .lt
  | "__builtin_islessequal" => compare .le
  | "__builtin_islessgreater" =>
    arity 2
    let a ← arg 0
    let b ← arg 1
    let lt ← binaryVals .lt a b
    let gt ← binaryVals .gt a b
    pure (some { ty := .int .int, e := .lor lt.e gt.e })
  | "__builtin_isunordered" =>
    arity 2
    let a ← arg 0
    let b ← arg 1
    let t ← commonType a.ty b.ty
    let k ← numOf t
    let x ← convertExpr a.e a.ty t
    let y ← convertExpr b.e b.ty t
    pure (some { ty := .int .int, e := .lor (.builtin (.isnan k) [x]) (.builtin (.isnan k) [y]) })
  | "__builtin_va_start" =>
    if args.length < 1 then err "too few arguments to function 'va_start'"
    if !(← get).fn.variadic then err "'va_start' used in function with fixed arguments"
    let ap ← arg 0
    pure (some { ty := .void, e := .vaStart ap.e })
  | "__builtin_va_end" =>
    arity 1
    let ap ← arg 0
    pure (some { ty := .void, e := ap.e })
  | "__builtin_va_copy" =>
    arity 2
    let d ← arg 0
    let s ← arg 1
    pure (some { ty := .void, e := .copy 24 d.e s.e })
  | "__builtin_alloca" =>
    arity 1
    let n ← arg 0
    pure (some { ty := .ptr .void, e := .alloca (← convertExpr n.e n.ty (.int .ulong)) })
  | "__builtin_object_size" | "__builtin_dynamic_object_size" =>
    arity 2
    let _ ← arg 0
    let t ← arg 1
    let unknown : Int := if (foldInt t.e).getD 0 ≥ 2 then 0 else -1
    pure (some { ty := .int .ulong, e := intConst .u64 unknown })
  | "__builtin_frame_address" =>
    pure (some { ty := .ptr .void, e := .builtin .frameAddress [] })
  | "__builtin_return_address" => pure (some { ty := .ptr .void, e := intConst .u64 0 })
  | "__builtin_prefetch" | "__sync_synchronize" | "__atomic_thread_fence"
  | "__atomic_signal_fence" =>
    let mut e : TExpr := .const .i32 0
    for i in [0:args.length] do e := .seq (← arg i).e e
    pure (some { ty := .void, e })
  | "__builtin_assume_aligned" =>
    let p ← arg 0
    for i in [1:args.length] do discard (arg i)
    pure (some { ty := .ptr .void, e := p.e })
  | "__builtin_speculation_safe_value" =>
    let v ← arg 0
    pure (some v)
  | "__builtin_assume" => pure (some { ty := .void, e := .const .i32 0 })
  | "__builtin_classify_type" =>
    arity 1
    let v ← ex (args.getD 0 (.num "0"))
    pure (some (intVal (typeClass v.ty.decay)))
  | "__builtin_FUNCTION" => pure (some (← funcNameVal))
  | _ => pure none

end InlineC.Lang.Check
