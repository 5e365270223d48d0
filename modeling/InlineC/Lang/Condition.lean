import InlineC.Lang.Macro

/-!
# Conditions of `#if`

The controlling expression of `#if` and `#elif`, evaluated after macro expansion in the
preprocessor's arithmetic: every integer is an `intmax_t` (64-bit two's complement) or, when
it is unsigned, a `uintmax_t`, and a binary operator on a signed and an unsigned operand
works in `uintmax_t`, so `-1 > 0u` holds. Signed overflow wraps, with a pedantic
diagnostic. The right operands of `&&`, `||` and `?:` are evaluated only when their value is
needed, so `0 && (1 / 0)` is fine while `1 / 0` alone is an error.

Identifiers that are not macros count as 0. `defined NAME` and `defined (NAME)` give 1 when
`NAME` is a macro, and the `__has_include`, `__has_builtin` and `__has_attribute` operators
ask the preprocessor's environment.
-/

namespace InlineC.Lang

/-- A value of the preprocessor's arithmetic: 64 bits and whether they are unsigned. -/
structure PPValue where
  bits : UInt64
  unsigned : Bool := false
  deriving Repr, Inhabited

namespace PPValue

/-- The value as an integer. -/
def toInt (v : PPValue) : Int := if v.unsigned then v.bits.toNat else v.bits.toInt64.toInt

/-- A signed value. -/
def ofInt (i : Int) : PPValue := ⟨UInt64.ofInt i, false⟩

/-- A truth value. -/
def ofBool (b : Bool) : PPValue := ⟨if b then 1 else 0, false⟩

/-- Whether the value is nonzero. -/
def truth (v : PPValue) : Bool := v.bits != 0

end PPValue

/-- What evaluating a condition asks of the preprocessor. -/
structure CondEnv where
  macros : MacroTable
  /-- Whether a header can be found: quoted or angled, and its name. -/
  hasHeader : Bool → String → Bool
  /-- Whether a name is a builtin function of the compiler. -/
  hasBuiltin : String → Bool
  /-- The version number of an attribute, zero when it is unknown. -/
  attributeVersion : String → Nat
  /-- The version number of a standard attribute, zero when it is unknown. -/
  standardAttributeVersion : String → Nat
  /-- Plain `char` is signed. -/
  charSigned : Bool := true

/-- Evaluating with diagnostics. -/
abbrev CondM := StateT (Array Diag) (Except String)

/-- The integer suffixes the preprocessor accepts: unsigned, and the count of `l`. -/
def ppIntSuffix : String → Option Bool
  | "" | "l" | "L" | "ll" | "LL" => some false
  | "u" | "U" | "ul" | "uL" | "Ul" | "UL" | "lu" | "lU" | "Lu" | "LU"
  | "ull" | "uLL" | "Ull" | "ULL" | "llu" | "llU" | "LLu" | "LLU" => some true
  | _ => none

/-- The digits of a base. -/
def digitIn (base : Nat) (c : Char) : Option Nat :=
  match hexValue c with
  | some d => if d < base then some d else none
  | none => none

/-- The value of an integer constant in `#if`. -/
def ppNumber (text : String) : CondM PPValue := do
  let cs := text.toList
  let lower := cs.map Char.toLower
  let isHex := lower.take 2 == ['0', 'x']
  let isBin := lower.take 2 == ['0', 'b']
  if cs.contains '.' || (!isHex && (lower.contains 'e')) || (isHex && lower.contains 'p') then
    throw "floating constant in preprocessor expression"
  let (base, body) :=
    if isHex then (16, cs.drop 2) else if isBin then (2, cs.drop 2)
    else if cs.head? == some '0' then (8, cs) else (10, cs)
  let ds := body.takeWhile fun c => (hexValue c).isSome && (base == 16 || c.isDigit)
  let suffix := String.ofList (body.drop ds.length)
  if ds.isEmpty && (base == 16 || base == 2) then
    throw ("invalid suffix \"" ++ String.ofList (cs.drop 1) ++ "\" on integer constant")
  let some unsignedSuffix := ppIntSuffix suffix
    | throw ("invalid suffix \"" ++ suffix ++ "\" on integer constant")
  let some v := ds.foldlM (fun acc c => (digitIn base c).map (acc * base + ·)) 0
    | throw ("invalid digit in octal constant")
  if isBin then modify (·.push (.pedantic "pedantic"))
  if v ≥ Nat.pow 2 64 then modify (·.push (.pedwarn ""))
  let big := v ≥ Nat.pow 2 63
  if big && base == 10 && !unsignedSuffix then modify (·.push (.warning "implicitly-unsigned"))
  pure ⟨UInt64.ofNat v, unsignedSuffix || big⟩

/-- The value of a character constant in `#if`: an `int`, the characters as its octets. -/
def ppCharValue (charSigned : Bool) (text : String) : CondM PPValue := do
  let cs := text.toList
  let (wide, body) := match cs with
    | 'L' :: rest => (true, rest)
    | 'u' :: '8' :: rest => (false, rest)
    | 'u' :: rest => (true, rest)
    | 'U' :: rest => (true, rest)
    | rest => (false, rest)
  let inner := (body.drop 1).dropLast
  let rec values : Nat → List Char → Option (List Nat)
    | 0, _ => some []
    | _, [] => some []
    | fuel + 1, '\\' :: c :: rest =>
      match c with
      | 'n' => (values fuel rest).map (10 :: ·) | 't' => (values fuel rest).map (9 :: ·)
      | 'r' => (values fuel rest).map (13 :: ·) | 'a' => (values fuel rest).map (7 :: ·)
      | 'b' => (values fuel rest).map (8 :: ·) | 'f' => (values fuel rest).map (12 :: ·)
      | 'v' => (values fuel rest).map (11 :: ·) | 'e' | 'E' => (values fuel rest).map (27 :: ·)
      | 'x' =>
        let ds := rest.takeWhile fun d => (hexValue d).isSome
        let v := ds.foldl (fun acc d => acc * 16 + (hexValue d).getD 0) 0
        (values fuel (rest.drop ds.length)).map (v :: ·)
      | _ =>
        if '0' ≤ c && c ≤ '7' then
          let ds := ((c :: rest).take 3).takeWhile fun d => '0' ≤ d && d ≤ '7'
          let v := ds.foldl (fun acc d => acc * 8 + (d.toNat - 48)) 0
          (values fuel ((c :: rest).drop ds.length)).map (v :: ·)
        else (values fuel rest).map (c.toNat :: ·)
    | fuel + 1, c :: rest => (values fuel rest).map (c.toNat :: ·)
  let some vs := values (inner.length + 1) inner | throw "invalid character constant"
  if wide then
    pure (PPValue.ofInt (vs.headD 0))
  else match vs with
    | [] => throw "empty character constant"
    | [v] =>
      let v := v % 256
      pure (PPValue.ofInt (if charSigned && v ≥ 128 then (v : Int) - 256 else v))
    | _ =>
      modify (·.push (.warning "multichar"))
      let n := vs.foldl (fun acc v => (acc * 256 + v % 256) % Nat.pow 2 32) 0
      pure (PPValue.ofInt (if n ≥ Nat.pow 2 31 then (n : Int) - Int.pow 2 32 else n))

/-- The binding strength of a binary operator. -/
def ppPrecedence (s : String) : Option Nat :=
  match s with
  | "*" | "/" | "%" => some 10 | "+" | "-" => some 9 | "<<" | ">>" => some 8
  | "<" | ">" | "<=" | ">=" => some 7 | "==" | "!=" => some 6 | "&" => some 5
  | "^" => some 4 | "|" => some 3 | "&&" => some 2 | "||" => some 1 | _ => none

/-- Shift left by a count, as the preprocessor does: counts past the width give zero. -/
def ppShiftLeft (a : PPValue) (n : Int) : PPValue :=
  if n ≥ 64 then { a with bits := 0 } else { a with bits := a.bits <<< (UInt64.ofNat n.toNat) }

/-- Shift right by a count: an unsigned value fills with zeros, a signed one with its sign. -/
def ppShiftRight (a : PPValue) (n : Int) : PPValue :=
  if a.unsigned then
    if n ≥ 64 then { a with bits := 0 } else { a with bits := a.bits >>> (UInt64.ofNat n.toNat) }
  else
    let neg := a.bits.toInt64 < 0
    if n ≥ 64 then { a with bits := if neg then 0xFFFFFFFFFFFFFFFF else 0 }
    else { a with bits := (a.bits.toInt64 >>> (Int64.ofNat n.toNat)).toUInt64 }

/-- Apply a binary operator; `live` tells whether the value is needed, so that dividing by
zero is an error only then. -/
def ppBinary (op : String) (a b : PPValue) (live : Bool) : CondM PPValue := do
  let u := a.unsigned || b.unsigned
  let overflow := fun (exact : Int) (r : UInt64) => do
    if !u && live && exact != r.toInt64.toInt then modify (·.push (.pedwarn ""))
    pure (PPValue.mk r u)
  match op with
  | "*" => overflow (a.toInt * b.toInt) (a.bits * b.bits)
  | "+" => overflow (a.toInt + b.toInt) (a.bits + b.bits)
  | "-" => overflow (a.toInt - b.toInt) (a.bits - b.bits)
  | "/" | "%" =>
    if b.bits == 0 then
      if live then throw "division by zero in #if" else pure ⟨0, u⟩
    else if u then pure ⟨if op == "/" then a.bits / b.bits else a.bits % b.bits, true⟩
    else
      let q := a.toInt.tdiv b.toInt
      if op == "/" then overflow q (UInt64.ofInt q)
      else pure (PPValue.ofInt (a.toInt.tmod b.toInt))
  | "<<" =>
    let n := b.toInt
    pure (if n < 0 then ppShiftRight a (-n) else ppShiftLeft a n)
  | ">>" =>
    let n := b.toInt
    pure (if n < 0 then ppShiftLeft a (-n) else ppShiftRight a n)
  | "<" | ">" | "<=" | ">=" =>
    let (x, y) := if u then ((a.bits.toNat : Int), (b.bits.toNat : Int)) else (a.toInt, b.toInt)
    pure (PPValue.ofBool (match op with
      | "<" => x < y | ">" => x > y | "<=" => x ≤ y | _ => x ≥ y))
  | "==" => pure (PPValue.ofBool (a.bits == b.bits))
  | "!=" => pure (PPValue.ofBool (a.bits != b.bits))
  | "&" => pure ⟨a.bits &&& b.bits, u⟩
  | "^" => pure ⟨a.bits ^^^ b.bits, u⟩
  | "|" => pure ⟨a.bits ||| b.bits, u⟩
  | "&&" => pure (PPValue.ofBool (a.truth && b.truth))
  | "||" => pure (PPValue.ofBool (a.truth || b.truth))
  | _ => throw ("token \"" ++ op ++ "\" is not valid in preprocessor expressions")

/-- The name a `__has_include` operand spells, with whether it is quoted. -/
def headerOperand (ts : List Token) : Option (Bool × String) :=
  match ts with
  | [s] => if s.kind == .string then some (true, String.ofList ((s.text.toList.drop 1).dropLast)) else none
  | lt :: rest =>
    if lt.isPunct "<" && ((rest.getLast?.map (·.isPunct ">")).getD false) then
      some (false, String.join ((rest.dropLast).map Token.text))
    else none
  | [] => none

mutual

/-- A unary operand. -/
def ppUnary (env : CondEnv) : Nat → Bool → List Token → CondM (PPValue × List Token)
  | 0, _, _ => throw "#if expression too deep"
  | _, _, [] => throw "#if with no expression"
  | fuel + 1, live, t :: rest =>
    if t.isPunct "(" then do
      let (v, r) ← ppExpr env fuel live rest
      match r with
      | c :: more => if c.isPunct ")" then pure (v, more) else throw "missing ')' in expression"
      | [] => throw "missing ')' in expression"
    else if t.isPunct "-" then do
      let (v, r) ← ppUnary env fuel live rest
      if !v.unsigned && v.bits == 0x8000000000000000 && live then modify (·.push (.pedwarn ""))
      pure ({ v with bits := 0 - v.bits }, r)
    else if t.isPunct "+" then ppUnary env fuel live rest
    else if t.isPunct "!" then do
      let (v, r) ← ppUnary env fuel live rest
      pure (PPValue.ofBool !v.truth, r)
    else if t.isPunct "~" then do
      let (v, r) ← ppUnary env fuel live rest
      pure ({ v with bits := ~~~ v.bits }, r)
    else if t.kind == .number then do pure (← ppNumber t.text, rest)
    else if t.kind == .char then do pure (← ppCharValue env.charSigned t.text, rest)
    else if t.kind == .ident then
      if t.text == "defined" then
        match rest with
        | lp :: n :: rp :: more =>
          if lp.isPunct "(" then
            if n.kind == .ident && rp.isPunct ")" then pure (PPValue.ofBool (env.macros.contains n.text), more)
            else throw "missing ')' after \"defined\""
          else if lp.kind == .ident then pure (PPValue.ofBool (env.macros.contains lp.text), n :: rp :: more)
          else throw "operator \"defined\" requires an identifier"
        | [n] => if n.kind == .ident then pure (PPValue.ofBool (env.macros.contains n.text), [])
          else throw "operator \"defined\" requires an identifier"
        | [lp, n] =>
          if lp.kind == .ident then pure (PPValue.ofBool (env.macros.contains lp.text), [n])
          else throw "missing ')' after \"defined\""
        | [] => throw "operator \"defined\" requires an identifier"
      else if conditionOperators.contains t.text then
        match rest with
        | lp :: more =>
          if !lp.isPunct "(" then throw ("missing '(' before \"" ++ t.text ++ "\" operand")
          else match balanced 0 more #[] with
            | some (inner, after) =>
              if t.text == "__has_include" || t.text == "__has_include_next" then
                match headerOperand inner with
                | some (q, h) => pure (PPValue.ofBool (env.hasHeader q h), after)
                | none => throw "operator \"__has_include\" requires a header-name"
              else
                let name := String.join (inner.map Token.text)
                let v := if t.text == "__has_builtin" then (if env.hasBuiltin name then 1 else 0)
                  else if t.text == "__has_attribute" then env.attributeVersion name
                  else if t.text == "__has_c_attribute" then env.standardAttributeVersion name
                  else 0
                pure (PPValue.ofInt v, after)
            | none => throw ("missing ')' after \"" ++ t.text ++ "\" operand")
        | [] => throw ("missing '(' before \"" ++ t.text ++ "\" operand")
      else do
        modify (·.push (.warning "undef"))
        pure (PPValue.ofInt 0, rest)
    else if t.kind == .string then throw ("token \"" ++ t.text ++ "\" is not valid in preprocessor expressions")
    else throw ("token \"" ++ t.text ++ "\" is not valid in preprocessor expressions")

/-- An expression whose binary operators bind at least `minPrec`, with the conditional
operator when `minPrec` is 0. -/
def ppExpr (env : CondEnv) : Nat → Bool → List Token → CondM (PPValue × List Token)
  | 0, _, _ => throw "#if expression too deep"
  | fuel + 1, live, ts => do
    let (lhs, rest) ← ppUnary env fuel live ts
    ppLoop env fuel live lhs rest 0

/-- Continue after an operand: binary operators binding at least `minPrec`, then `?:`. -/
def ppLoop (env : CondEnv) : Nat → Bool → PPValue → List Token → Nat → CondM (PPValue × List Token)
  | 0, _, _, _, _ => throw "#if expression too deep"
  | fuel + 1, live, lhs, ts, minPrec =>
    match ts with
    | op :: rest =>
      if op.isPunct "?" && minPrec == 0 then do
        let (a, r) ← ppExpr env fuel (live && lhs.truth) rest
        match r with
        | c :: more =>
          if c.isPunct ":" then do
            let (b, r2) ← ppExpr env fuel (live && !lhs.truth) more
            let u := a.unsigned || b.unsigned
            let v := if lhs.truth then a else b
            pure ({ v with unsigned := u }, r2)
          else throw "'?' without following ':'"
        | [] => throw "'?' without following ':'"
      else if op.isPunct "," && minPrec == 0 then do
        modify (·.push (.pedantic "pedantic"))
        ppExpr env fuel live rest
      else match (if op.kind == .punct then ppPrecedence op.text else none) with
        | some p =>
          if p < minPrec then pure (lhs, ts)
          else do
            let rhsLive := if op.text == "&&" then live && lhs.truth
              else if op.text == "||" then live && !lhs.truth else live
            let (r0, r) ← ppUnary env fuel rhsLive rest
            let (rhs, r) ← ppRight env fuel rhsLive r0 r (p + 1)
            let v ← ppBinary op.text lhs rhs live
            ppLoop env fuel live v r minPrec
        | none => pure (lhs, ts)
    | [] => pure (lhs, [])

/-- The right operand of a binary operator: an operand and the operators binding tighter. -/
def ppRight (env : CondEnv) : Nat → Bool → PPValue → List Token → Nat → CondM (PPValue × List Token)
  | 0, _, _, _, _ => throw "#if expression too deep"
  | fuel + 1, live, lhs, ts, minPrec =>
    match ts with
    | op :: rest =>
      match (if op.kind == .punct then ppPrecedence op.text else none) with
      | some p =>
        if p < minPrec then pure (lhs, ts)
        else do
          let rhsLive := if op.text == "&&" then live && lhs.truth
            else if op.text == "||" then live && !lhs.truth else live
          let (r0, r) ← ppUnary env fuel rhsLive rest
          let (rhs, r) ← ppRight env fuel rhsLive r0 r (p + 1)
          let v ← ppBinary op.text lhs rhs live
          ppRight env fuel live v r minPrec
      | none => pure (lhs, ts)
    | [] => pure (lhs, [])

end

/-- Evaluate the expanded tokens of a condition. -/
def evalCondition (env : CondEnv) (ts : List Token) : CondM Bool := do
  if ts.isEmpty then throw "#if with no expression"
  let (v, rest) ← ppExpr env (8 * ts.length + 64) true ts
  match rest with
  | [] => pure v.truth
  | t :: _ => throw ("missing binary operator before token \"" ++ t.text ++ "\"")

end InlineC.Lang
