import Std.Data.HashMap
import InlineC.Lang.Lexer
import InlineC.Lang.Syntax

/-!
# Parsing C

A recursive-descent parser from the preprocessed tokens to the syntax of `Ast`. It knows
the typedef names in scope, since `T * x;` declares `x` when `T` names a type and multiplies
otherwise: every declaration adds its names to the innermost scope, as typedef names or as
ordinary identifiers, so an inner declaration hides an outer typedef and the other way round.

`#pragma pack` reaches the parser as a token: it sets the packing of the structures that
follow, which the parser records as an attribute of each.

The functions are defined together and bounded by a nesting depth; lists are read by loops
bounded by the number of tokens.
-/

namespace InlineC.Lang

open Ast

/-- The dialect: GNU keywords such as `typeof` and `asm`. -/
structure ParseConfig where
  gnu : Bool := true
  deriving Inhabited

/-- The parser's state: the tokens, the position, the scopes of names (true for typedef
names), and the packing `#pragma pack` set. -/
structure PState where
  toks : Array Token
  pos : Nat := 0
  scopes : List (Std.HashMap String Bool) := [{}]
  pack : Option Nat := none
  packStack : List (Option Nat) := []
  cfg : ParseConfig := {}

/-- Parsing, failing with a message. -/
abbrev ParseM := StateT PState (Except String)

/-- Declaration specifiers being read. -/
structure SpecAcc where
  storage : Array Storage := #[]
  words : Array String := #[]
  record : Option RecordSpec := none
  enum : Option EnumSpec := none
  typedefName : Option String := none
  typeofExpr : Option Expr := none
  typeofType : Option TypeName := none
  alignas : Array Expr := #[]
  alignasType : Array TypeName := #[]
  attrs : Array Attr := #[]
  inline : Bool := false
  noreturn : Bool := false
  const : Bool := false
  deriving Inhabited

namespace SpecAcc

/-- Whether a type specifier was read. -/
def hasType (a : SpecAcc) : Bool :=
  !a.words.isEmpty || a.record.isSome || a.enum.isSome || a.typedefName.isSome ||
    a.typeofExpr.isSome || a.typeofType.isSome

/-- Whether anything was read. -/
def any (a : SpecAcc) : Bool :=
  a.hasType || !a.storage.isEmpty || !a.attrs.isEmpty || a.inline || a.noreturn || a.const ||
    !a.alignas.isEmpty || !a.alignasType.isEmpty

/-- The specifiers read. -/
def finish (a : SpecAcc) : Specs :=
  .mk a.storage.toList a.words.toList a.record a.enum a.typedefName a.typeofExpr a.typeofType
    a.alignas.toList a.alignasType.toList a.attrs.toList a.inline a.noreturn a.const

end SpecAcc

/-- Keywords naming a type or part of one. -/
def typeWords : List String :=
  ["void", "char", "short", "int", "long", "float", "double", "signed", "unsigned", "_Bool",
   "_Complex", "__complex__", "__int128", "__signed", "__signed__", "_Float128", "__float128",
   "_Float64", "_Float32", "_Float64x", "_Float32x", "__auto_type"]

/-- Qualifiers, which the checker does not keep apart from `const`. -/
def qualifierWords : List String :=
  ["const", "volatile", "restrict", "_Atomic", "__const", "__const__", "__volatile",
   "__volatile__", "__restrict", "__restrict__"]

/-- Keywords that may start declaration specifiers. -/
def specWords (gnu : Bool) : List String :=
  typeWords ++ qualifierWords ++
  ["struct", "union", "enum", "typedef", "extern", "static", "auto", "register", "inline",
   "__inline", "__inline__", "_Noreturn", "_Thread_local", "__thread", "_Alignas",
   "__attribute__", "__attribute", "__typeof__", "__typeof", "__extension__"] ++
  (if gnu then ["typeof"] else [])

/-- Every keyword, which no identifier may be. -/
def keywords (gnu : Bool) : List String :=
  specWords gnu ++
  ["break", "case", "continue", "default", "do", "else", "for", "goto", "if", "return",
   "sizeof", "switch", "while", "_Alignof", "__alignof__", "__alignof", "_Generic",
   "_Static_assert", "__builtin_va_arg", "__builtin_offsetof", "__builtin_types_compatible_p",
   "__builtin_choose_expr", "__real__", "__imag__", "__asm__", "__asm", "__label__"] ++
  (if gnu then ["asm"] else [])

/-- Binary operators with their precedence, tighter binding higher. -/
def binaryOp : String → Option (BinaryOp × Nat)
  | "*" => some (.mul, 10) | "/" => some (.div, 10) | "%" => some (.mod, 10)
  | "+" => some (.add, 9) | "-" => some (.sub, 9)
  | "<<" => some (.shl, 8) | ">>" => some (.shr, 8)
  | "<" => some (.lt, 7) | ">" => some (.gt, 7) | "<=" => some (.le, 7) | ">=" => some (.ge, 7)
  | "==" => some (.eq, 6) | "!=" => some (.ne, 6)
  | "&" => some (.band, 5) | "^" => some (.bxor, 4) | "|" => some (.bor, 3)
  | "&&" => some (.land, 2) | "||" => some (.lor, 1)
  | _ => none

/-- Assignment operators. -/
def assignOp : String → Option (Option BinaryOp)
  | "=" => some none
  | "*=" => some (some .mul) | "/=" => some (some .div) | "%=" => some (some .mod)
  | "+=" => some (some .add) | "-=" => some (some .sub)
  | "<<=" => some (some .shl) | ">>=" => some (some .shr)
  | "&=" => some (some .band) | "^=" => some (some .bxor) | "|=" => some (some .bor)
  | _ => none

namespace Parse

/-- The token at the end of input. -/
def eof : Token := { kind := .other, text := "" }

/-- Apply a `#pragma pack` token. -/
def applyPack (text : String) : ParseM PUnit := do
  let words := (text.splitOn " ").filter (· != "")
  match words with
  | "pack" :: rest =>
    let inner := (rest.filter fun w => w != "(" && w != ")" && w != ",")
    let num := fun (w : String) => if w.all Char.isDigit && !w.isEmpty then some w.toNat! else none
    modify fun st =>
      match inner with
      | [] => { st with pack := none }
      | ["push"] => { st with packStack := st.pack :: st.packStack }
      | ["push", n] => { st with packStack := st.pack :: st.packStack, pack := num n }
      | ["pop"] | ["pop", _] =>
        match st.packStack with
        | p :: rest => { st with pack := p, packStack := rest }
        | [] => { st with pack := none }
      | [n] => { st with pack := num n }
      | _ => st
  | _ => pure ()

/-- Skip pragma tokens, applying those the parser acts on. -/
def skipPragmas : ParseM PUnit := do
  for _ in [0:(← get).toks.size] do
    let st ← get
    match st.toks[st.pos]? with
    | some t =>
      if t.kind == .pragma then
        applyPack t.text
        modify fun st => { st with pos := st.pos + 1 }
      else break
    | none => break

/-- The current token. -/
def peek : ParseM Token := do
  skipPragmas
  let st ← get
  pure (st.toks[st.pos]?.getD eof)

/-- The token `k` places ahead, pragmas not counted. -/
def peekAt (k : Nat) : ParseM Token := do
  skipPragmas
  let st ← get
  let rest := (st.toks.extract st.pos (st.pos + k + 8)).toList.filter (·.kind != .pragma)
  pure (rest[k]?.getD eof)

/-- Move past the current token. -/
def advance : ParseM PUnit := do
  skipPragmas
  modify fun st => { st with pos := st.pos + 1 }

/-- Fail with a message naming the current token. -/
def fail {α : Type} (what : String) : ParseM α := do
  let t ← peek
  let st ← get
  let before := " ".intercalate ((st.toks.extract (st.pos - 12) st.pos).toList.map (·.text))
  if t.text.isEmpty then throw ("expected " ++ what ++ " at end of input")
  else throw ("expected " ++ what ++ " before '" ++ t.text ++ "' after '" ++ before ++ "'")

/-- Whether the current token is the punctuator `s`. -/
def isP (s : String) : ParseM Bool := do pure ((← peek).isPunct s)

/-- Whether the current token is the keyword `s`. -/
def isK (s : String) : ParseM Bool := do pure ((← peek).isIdent s)

/-- Move past the punctuator `s` when it is current. -/
def accept (s : String) : ParseM Bool := do
  if ← isP s then advance; pure true else pure false

/-- Move past the punctuator `s`, or fail. -/
def expect (s : String) : ParseM PUnit := do
  if ← isP s then advance else fail ("'" ++ s ++ "'")

/-- Move past the keyword `s` when it is current. -/
def acceptK (s : String) : ParseM Bool := do
  if ← isK s then advance; pure true else pure false

/-- Whether a name is a typedef name in scope. -/
def isTypedefName (n : String) : ParseM Bool := do
  let st ← get
  pure ((st.scopes.findSome? (·.get? n)).getD false)

/-- Declare a name in the innermost scope. -/
def declare (n : String) (isTypedef : Bool) : ParseM PUnit :=
  modify fun st =>
    match st.scopes with
    | s :: rest => { st with scopes := s.insert n isTypedef :: rest }
    | [] => { st with scopes := [({} : Std.HashMap String Bool).insert n isTypedef] }

/-- Open a scope. -/
def pushScope : ParseM PUnit := modify fun st => { st with scopes := {} :: st.scopes }

/-- Close a scope. -/
def popScope : ParseM PUnit := modify fun st => { st with scopes := st.scopes.drop 1 }

/-- Whether an identifier token is an identifier and not a keyword. -/
def isPlainIdent (t : Token) : ParseM Bool := do
  pure (t.kind == .ident && !(keywords (← get).cfg.gnu).contains t.text)

/-- Whether a token starts a type name. -/
def startsTypeName (t : Token) : ParseM Bool := do
  if t.kind != .ident then return false
  let gnu := (← get).cfg.gnu
  if (typeWords ++ qualifierWords ++ ["struct", "union", "enum", "__typeof__", "__typeof",
      "_Alignas", "__attribute__", "__attribute", "__extension__"]).contains t.text then
    return true
  if gnu && t.text == "typeof" then return true
  if (keywords gnu).contains t.text then return false
  isTypedefName t.text

/-- Whether a token starts declaration specifiers. -/
def startsSpecs (t : Token) : ParseM Bool := do
  if t.kind != .ident then return false
  if (specWords (← get).cfg.gnu).contains t.text then return true
  if (keywords (← get).cfg.gnu).contains t.text then return false
  isTypedefName t.text

/-- The name a declarator declares. -/
def declaratorName : Declarator → Option String
  | .name n => n
  | .ptr _ d | .array d _ | .func d _ _ _ | .attributed _ d => declaratorName d

/-- The parameters of the function a declarator declares, when it declares one. -/
def declaratorParams : Declarator → Option (List Param × Option (List String))
  | .func (.name _) ps _ names => some (ps, names)
  | .func d ps _ names =>
    match declaratorParams d with
    | some r => some r
    | none => some (ps, names)
  | .ptr _ d | .array d _ | .attributed _ d => declaratorParams d
  | .name _ => none

/-- Whether a declarator declares a function (not a pointer to one). -/
def declaresFunction : Declarator → Bool
  | .func d .. => isName d || declaresFunction d
  | .ptr _ d | .array d _ | .attributed _ d => declaresFunction d
  | .name _ => false
where
  /-- Whether a declarator is a name, possibly attributed. -/
  isName : Declarator → Bool
    | .name _ => true
    | .attributed _ d => isName d
    | _ => false

/-- The names of parameters. -/
def paramNames (ps : List Param) : List String :=
  ps.filterMap fun p => match p with | .mk _ d => declaratorName d

/-- Skip a balanced parenthesized group, the opening `(` current. -/
def skipBalanced : ParseM PUnit := do
  let mut depth : Nat := 0
  for _ in [0:(← get).toks.size] do
    let t ← peek
    if t.text.isEmpty && t.kind == .other then break
    advance
    if t.isPunct "(" then depth := depth + 1
    else if t.isPunct ")" then
      depth := depth - 1
      if depth == 0 then break

/-- Read the string literal pieces that follow. -/
def stringPieces : ParseM (List String) := do
  let mut acc : Array String := #[]
  for _ in [0:(← get).toks.size] do
    let t ← peek
    if t.kind == .string then
      acc := acc.push t.text
      advance
    else break
  pure acc.toList

/-- An `asm` label after a declarator, skipped. -/
def skipAsmLabel : ParseM PUnit := do
  let t ← peek
  if t.isIdent "__asm__" || t.isIdent "__asm" || (t.isIdent "asm" && (← get).cfg.gnu) then
    advance
    skipBalanced

end Parse

open Parse

mutual

/-- Attributes: any number of `__attribute__((...))`. -/
def attributes : Nat → ParseM (List Attr)
  | 0 => throw "declaration nested too deeply"
  | fuel + 1 => do
    let mut acc : Array Attr := #[]
    for _ in [0:(← get).toks.size] do
      let t ← peek
      if t.isIdent "__attribute__" || t.isIdent "__attribute" then
        advance
        expect "("
        expect "("
        for _ in [0:(← get).toks.size] do
          if ← isP ")" then break
          if ← accept "," then continue
          let n ← peek
          if n.kind != .ident then fail "attribute name"
          advance
          let name := (n.text.dropPrefix "__").toString
          let name := if name.endsWith "__" then (name.dropEnd 2).toString else name
          if ← accept "(" then
            let mut args : Array Expr := #[]
            for _ in [0:(← get).toks.size] do
              if ← accept ")" then break
              if ← accept "," then continue
              args := args.push (← assignExpr fuel)
            acc := acc.push (.mk name args.toList)
          else acc := acc.push (.mk name [])
        expect ")"
        expect ")"
      else break
    pure acc.toList

/-- Declaration specifiers; `storage` tells whether storage classes are allowed. -/
def specs : Nat → Bool → ParseM Specs
  | 0, _ => throw "declaration nested too deeply"
  | fuel + 1, storage => do
    let mut acc : SpecAcc := {}
    for _ in [0:(← get).toks.size] do
      let t ← peek
      if t.kind != .ident then break
      let w := t.text
      if w == "__attribute__" || w == "__attribute" then
        let attrs ← attributes fuel
        acc := { acc with attrs := acc.attrs ++ attrs.toArray }
      else if typeWords.contains w then
        advance
        let w := if w == "__signed" || w == "__signed__" then "signed"
          else if w == "__complex__" then "_Complex" else w
        acc := { acc with words := acc.words.push w }
      else if qualifierWords.contains w then
        advance
        if w == "const" || w == "__const" || w == "__const__" then acc := { acc with const := true }
        if w == "_Atomic" && (← isP "(") then
          advance
          let tn ← typeName fuel
          expect ")"
          acc := { acc with typeofType := some tn }
      else if w == "__extension__" then advance
      else if w == "struct" || w == "union" then
        if acc.hasType then break
        advance
        acc := { acc with record := some (← recordSpec fuel (w == "union")) }
      else if w == "enum" then
        if acc.hasType then break
        advance
        acc := { acc with enum := some (← enumSpec fuel) }
      else if ["typedef", "extern", "static", "auto", "register", "_Thread_local", "__thread"].contains w then
        if !storage then fail "declaration specifiers"
        advance
        let s : Storage := match w with
          | "typedef" => .typedef | "extern" => .external | "static" => .static
          | "auto" => .auto | "register" => .register | _ => .threadLocal
        acc := { acc with storage := acc.storage.push s }
      else if w == "inline" || w == "__inline" || w == "__inline__" then
        advance
        acc := { acc with inline := true }
      else if w == "_Noreturn" then
        advance
        acc := { acc with noreturn := true }
      else if w == "_Alignas" then
        advance
        expect "("
        if ← startsTypeName (← peek) then
          acc := { acc with alignasType := acc.alignasType.push (← typeName fuel) }
        else acc := { acc with alignas := acc.alignas.push (← condExpr fuel) }
        expect ")"
      else if w == "__typeof__" || w == "__typeof" || (w == "typeof" && (← get).cfg.gnu) then
        if acc.hasType then break
        advance
        expect "("
        if ← startsTypeName (← peek) then
          acc := { acc with typeofType := some (← typeName fuel) }
        else acc := { acc with typeofExpr := some (← expr fuel) }
        expect ")"
      else if !acc.hasType && !(keywords (← get).cfg.gnu).contains w && (← isTypedefName w) then
        advance
        acc := { acc with typedefName := some w }
      else break
    pure acc.finish

/-- A structure or union specifier, after its keyword. -/
def recordSpec : Nat → Bool → ParseM RecordSpec
  | 0, _ => throw "declaration nested too deeply"
  | fuel + 1, union => do
    let attrs ← attributes fuel
    let t ← peek
    let tag ← if ← isPlainIdent t then do advance; pure (some t.text) else pure none
    let attrs2 ← attributes fuel
    let packAttr : List Attr := match (← get).pack with
      | some n => [.mk "pack" [.num (toString n)]]
      | none => []
    if ← accept "\x7b" then
      let mut members : Array MemberDecl := #[]
      for _ in [0:(← get).toks.size] do
        if ← accept "\x7d" then break
        if ← accept ";" then continue
        if ← isK "_Static_assert" then
          advance
          expect "("
          let e ← condExpr fuel
          if ← accept "," then let _ ← stringPieces
          expect ")"
          expect ";"
          members := members.push (.assertion e)
          continue
        let sp ← specs fuel false
        let mut items : Array (Declarator × Option Expr × List Attr) := #[]
        if !(← isP ";") then
          for _ in [0:(← get).toks.size] do
            let d ← if ← isP ":" then pure (Declarator.name none) else declarator fuel 1
            let width ← if ← accept ":" then do pure (some (← condExpr fuel)) else pure none
            let a ← attributes fuel
            items := items.push (d, width, a)
            if !(← accept ",") then break
        expect ";"
        members := members.push (.mk sp items.toList)
      let after ← attributes fuel
      pure (.mk union tag (some members.toList) (attrs ++ attrs2 ++ after ++ packAttr))
    else
      if tag.isNone then fail "'\x7b'"
      pure (.mk union tag none (attrs ++ attrs2))

/-- An enumeration specifier, after `enum`. -/
def enumSpec : Nat → ParseM EnumSpec
  | 0 => throw "declaration nested too deeply"
  | fuel + 1 => do
    let attrs ← attributes fuel
    let t ← peek
    let tag ← if ← isPlainIdent t then do advance; pure (some t.text) else pure none
    if ← accept "\x7b" then
      let mut items : Array (String × Option Expr) := #[]
      for _ in [0:(← get).toks.size] do
        if ← accept "\x7d" then break
        let n ← peek
        if !(← isPlainIdent n) then fail "identifier"
        advance
        let _ ← attributes fuel
        let v ← if ← accept "=" then do pure (some (← condExpr fuel)) else pure none
        declare n.text false
        items := items.push (n.text, v)
        if !(← accept ",") then
          expect "\x7d"
          break
      let after ← attributes fuel
      pure (.mk tag (some items.toList) (attrs ++ after))
    else
      if tag.isNone then fail "'\x7b'"
      pure (.mk tag none attrs)

/-- A declarator. `mode` 0 reads an abstract declarator, 1 a named one, 2 either. -/
def declarator : Nat → Nat → ParseM Declarator
  | 0, _ => throw "declaration nested too deeply"
  | fuel + 1, mode => do
    if ← accept "*" then
      let mut attrs : Array Attr := #[]
      for _ in [0:(← get).toks.size] do
        let t ← peek
        if qualifierWords.contains t.text && t.kind == .ident then advance
        else if t.isIdent "__attribute__" || t.isIdent "__attribute" then
          attrs := attrs ++ (← attributes fuel).toArray
        else break
      let inner ← declarator fuel mode
      pure (.ptr attrs.toList inner)
    else
      let t ← peek
      let base ← if (← isPlainIdent t) && mode != 0 && !((← isTypedefName t.text) && mode == 2 && false) then do
          advance
          pure (Declarator.name (some t.text))
        else if t.isPunct "(" then do
          let t1 ← peekAt 1
          let nested := t1.isPunct "*" || t1.isPunct "(" || t1.isPunct "[" || t1.isPunct "^" ||
            t1.isIdent "__attribute__" ||
            (mode != 0 && (← isPlainIdent t1) && !(← isTypedefName t1.text))
          if nested then
            advance
            let attrs ← attributes fuel
            let d ← declarator fuel mode
            expect ")"
            pure (if attrs.isEmpty then d else .attributed attrs d)
          else pure (Declarator.name none)
        else if mode == 1 then fail "identifier"
        else pure (Declarator.name none)
      declaratorSuffixes fuel base

/-- Array and function suffixes of a declarator. -/
def declaratorSuffixes : Nat → Declarator → ParseM Declarator
  | 0, _ => throw "declaration nested too deeply"
  | fuel + 1, base => do
    let mut d := base
    for _ in [0:(← get).toks.size] do
      if ← accept "[" then
        for _ in [0:8] do
          let t ← peek
          if t.kind == .ident && (qualifierWords.contains t.text || t.text == "static") then advance
          else break
        if ← accept "]" then d := .array d none
        else if (← isP "*") && (← peekAt 1).isPunct "]" then
          advance
          advance
          d := .array d none
        else
          let len ← assignExpr fuel
          expect "]"
          d := .array d (some len)
      else if ← isP "(" then
        advance
        let (ps, variadic, names) ← params fuel
        d := .func d ps variadic names
      else break
    pure d

/-- A parameter list after its `(`, through the `)`. -/
def params : Nat → ParseM (List Param × Bool × Option (List String))
  | 0 => throw "declaration nested too deeply"
  | fuel + 1 => do
    if ← accept ")" then return ([], false, some [])
    let t ← peek
    if (← isPlainIdent t) && !(← isTypedefName t.text) then
      -- an identifier list
      let mut names : Array String := #[]
      for _ in [0:(← get).toks.size] do
        let n ← peek
        if !(← isPlainIdent n) then fail "identifier"
        advance
        names := names.push n.text
        if !(← accept ",") then break
      expect ")"
      return ([], false, some names.toList)
    let mut ps : Array Param := #[]
    let mut variadic := false
    pushScope
    for _ in [0:(← get).toks.size] do
      if ← accept "..." then
        variadic := true
        break
      let sp ← specs fuel true
      let d ← declarator fuel 2
      let _ ← attributes fuel
      if let some n := declaratorName d then declare n false
      ps := ps.push (.mk sp d)
      if !(← accept ",") then break
    popScope
    expect ")"
    pure (ps.toList, variadic, none)

/-- A type name. -/
def typeName : Nat → ParseM TypeName
  | 0 => throw "declaration nested too deeply"
  | fuel + 1 => do
    let sp ← specs fuel false
    let d ← declarator fuel 0
    pure (.mk sp d)

/-- An initializer. -/
def initializer : Nat → ParseM Init
  | 0 => throw "initializer nested too deeply"
  | fuel + 1 => do
    if ← accept "\x7b" then pure (.list (← initList fuel))
    else pure (.expr (← assignExpr fuel))

/-- The elements of an initializer list after its `{`, through the `}`. -/
def initList : Nat → ParseM (List InitItem)
  | 0 => throw "initializer nested too deeply"
  | fuel + 1 => do
    let mut items : Array InitItem := #[]
    for _ in [0:(← get).toks.size] do
      if ← accept "\x7d" then break
      let mut ds : Array Designator := #[]
      for _ in [0:(← get).toks.size] do
        if ← accept "." then
          let n ← peek
          if n.kind != .ident then fail "field name"
          advance
          ds := ds.push (.field n.text)
        else if ← accept "[" then
          let lo ← condExpr fuel
          if ← accept "..." then
            let hi ← condExpr fuel
            ds := ds.push (.range lo hi)
          else ds := ds.push (.index lo)
          expect "]"
        else if ds.isEmpty && (← isPlainIdent (← peek)) && (← peekAt 1).isPunct ":" then
          let n ← peek
          advance
          advance
          ds := ds.push (.field n.text)
          break
        else break
      if !ds.isEmpty then
        let _ ← accept "="
      let v ← initializer fuel
      items := items.push (.mk ds.toList v)
      if !(← accept ",") then
        expect "\x7d"
        break
    pure items.toList

/-- An expression, commas included. -/
def expr : Nat → ParseM Expr
  | 0 => throw "expression nested too deeply"
  | fuel + 1 => do
    let mut e ← assignExpr fuel
    for _ in [0:(← get).toks.size] do
      if ← accept "," then e := .comma e (← assignExpr fuel)
      else break
    pure e

/-- An assignment expression. -/
def assignExpr : Nat → ParseM Expr
  | 0 => throw "expression nested too deeply"
  | fuel + 1 => do
    let lhs ← condExpr fuel
    let t ← peek
    if t.kind == .punct then
      if let some op := assignOp t.text then
        advance
        return .assign op lhs (← assignExpr fuel)
    pure lhs

/-- A conditional expression. -/
def condExpr : Nat → ParseM Expr
  | 0 => throw "expression nested too deeply"
  | fuel + 1 => do
    let c ← binaryExpr fuel 1
    if ← accept "?" then
      if ← accept ":" then
        return .cond c none (← condExpr fuel)
      let a ← expr fuel
      expect ":"
      let b ← condExpr fuel
      pure (.cond c (some a) b)
    else pure c

/-- Binary operators binding at least as tightly as `min`. -/
def binaryExpr : Nat → Nat → ParseM Expr
  | 0, _ => throw "expression nested too deeply"
  | fuel + 1, min => do
    let mut lhs ← castExpr fuel
    for _ in [0:(← get).toks.size] do
      let t ← peek
      if t.kind != .punct then break
      match binaryOp t.text with
      | some (op, prec) =>
        if prec < min then break
        advance
        let rhs ← binaryExpr fuel (prec + 1)
        lhs := .binary op lhs rhs
      | none => break
    pure lhs

/-- A cast expression, or a compound literal. -/
def castExpr : Nat → ParseM Expr
  | 0 => throw "expression nested too deeply"
  | fuel + 1 => do
    if (← isP "(") && (← startsTypeName (← peekAt 1)) then
      advance
      let tn ← typeName fuel
      expect ")"
      if ← accept "\x7b" then
        let items ← initList fuel
        postfixOps fuel (.compound tn items)
      else pure (.cast tn (← castExpr fuel))
    else unaryExpr fuel

/-- A unary expression. -/
def unaryExpr : Nat → ParseM Expr
  | 0 => throw "expression nested too deeply"
  | fuel + 1 => do
    let t ← peek
    if t.kind == .punct then
      match t.text with
      | "++" => advance; pure (.unary .preInc (← unaryExpr fuel))
      | "--" => advance; pure (.unary .preDec (← unaryExpr fuel))
      | "&" => advance; pure (.unary .addr (← castExpr fuel))
      | "*" => advance; pure (.unary .deref (← castExpr fuel))
      | "+" => advance; pure (.unary .plus (← castExpr fuel))
      | "-" => advance; pure (.unary .neg (← castExpr fuel))
      | "~" => advance; pure (.unary .bnot (← castExpr fuel))
      | "!" => advance; pure (.unary .lnot (← castExpr fuel))
      | "&&" =>
        advance
        let n ← peek
        if n.kind != .ident then fail "label name"
        advance
        pure (.labelAddr n.text)
      | _ => postfixExpr fuel
    else if t.isIdent "sizeof" || t.isIdent "_Alignof" || t.isIdent "__alignof__" ||
        t.isIdent "__alignof" then
      advance
      let isSize := t.text == "sizeof"
      if (← isP "(") && (← startsTypeName (← peekAt 1)) then
        advance
        let tn ← typeName fuel
        expect ")"
        if ← accept "\x7b" then
          let items ← initList fuel
          let e ← postfixOps fuel (.compound tn items)
          pure (if isSize then .sizeofExpr e else .alignofExpr e)
        else pure (if isSize then .sizeofType tn else .alignofType tn)
      else
        let e ← unaryExpr fuel
        pure (if isSize then .sizeofExpr e else .alignofExpr e)
    else if t.isIdent "__extension__" then
      advance
      castExpr fuel
    else if t.isIdent "__real__" then
      advance
      pure (.unary .real (← castExpr fuel))
    else if t.isIdent "__imag__" then
      advance
      pure (.unary .imag (← castExpr fuel))
    else postfixExpr fuel

/-- A postfix expression. -/
def postfixExpr : Nat → ParseM Expr
  | 0 => throw "expression nested too deeply"
  | fuel + 1 => do
    let e ← primaryExpr fuel
    postfixOps fuel e

/-- Postfix operators after an expression. -/
def postfixOps : Nat → Expr → ParseM Expr
  | 0, _ => throw "expression nested too deeply"
  | fuel + 1, e0 => do
    let mut e := e0
    for _ in [0:(← get).toks.size] do
      let t ← peek
      if t.kind != .punct then break
      match t.text with
      | "[" =>
        advance
        let i ← expr fuel
        expect "]"
        e := .index e i
      | "(" =>
        advance
        let mut args : Array Expr := #[]
        if !(← accept ")") then
          for _ in [0:(← get).toks.size] do
            args := args.push (← assignExpr fuel)
            if !(← accept ",") then break
          expect ")"
        e := .call e args.toList
      | "." =>
        advance
        let n ← peek
        if n.kind != .ident then fail "member name"
        advance
        e := .member e n.text
      | "->" =>
        advance
        let n ← peek
        if n.kind != .ident then fail "member name"
        advance
        e := .arrow e n.text
      | "++" => advance; e := .unary .postInc e
      | "--" => advance; e := .unary .postDec e
      | _ => break
    pure e

/-- A primary expression. -/
def primaryExpr : Nat → ParseM Expr
  | 0 => throw "expression nested too deeply"
  | fuel + 1 => do
    let t ← peek
    match t.kind with
    | .number => advance; pure (.num t.text)
    | .char => advance; pure (.char t.text)
    | .string => pure (.str (← stringPieces))
    | .punct =>
      if t.text == "(" then
        advance
        if ← accept "\x7b" then
          let items ← blockItems fuel
          expect ")"
          pure (.stmtExpr items)
        else
          let e ← expr fuel
          expect ")"
          pure (.paren e)
      else if t.text == "\x7b" then
        advance
        pure (.braced (← initList fuel))
      else fail "expression"
    | .ident =>
      match t.text with
      | "_Generic" =>
        advance
        expect "("
        let e ← assignExpr fuel
        let mut assocs : Array (Option TypeName × Expr) := #[]
        for _ in [0:(← get).toks.size] do
          if !(← accept ",") then break
          if ← acceptK "default" then
            expect ":"
            assocs := assocs.push (none, ← assignExpr fuel)
          else
            let tn ← typeName fuel
            expect ":"
            assocs := assocs.push (some tn, ← assignExpr fuel)
        expect ")"
        pure (.generic e assocs.toList)
      | "__builtin_va_arg" =>
        advance
        expect "("
        let ap ← assignExpr fuel
        expect ","
        let tn ← typeName fuel
        expect ")"
        pure (.vaArg ap tn)
      | "__builtin_offsetof" =>
        advance
        expect "("
        let tn ← typeName fuel
        expect ","
        let mut path : Array Designator := #[]
        for _ in [0:(← get).toks.size] do
          let n ← peek
          if n.kind == .ident && path.isEmpty then
            advance
            path := path.push (.field n.text)
          else if ← accept "." then
            let n ← peek
            if n.kind != .ident then fail "member name"
            advance
            path := path.push (.field n.text)
          else if ← accept "[" then
            path := path.push (.index (← expr fuel))
            expect "]"
          else break
        expect ")"
        pure (.offsetof tn path.toList)
      | "__builtin_types_compatible_p" =>
        advance
        expect "("
        let a ← typeName fuel
        expect ","
        let b ← typeName fuel
        expect ")"
        pure (.typesCompatible a b)
      | "__builtin_choose_expr" =>
        advance
        expect "("
        let c ← assignExpr fuel
        expect ","
        let a ← assignExpr fuel
        expect ","
        let b ← assignExpr fuel
        expect ")"
        pure (.chooseExpr c a b)
      | _ =>
        if ← isPlainIdent t then
          advance
          pure (.ident t.text)
        else fail "expression"
    | _ => fail "expression"

/-- A statement. -/
def statement : Nat → ParseM Stmt
  | 0 => throw "statement nested too deeply"
  | fuel + 1 => do
    let t ← peek
    if t.kind == .punct then
      if t.text == "\x7b" then
        advance
        pushScope
        let items ← blockItems fuel
        popScope
        return .block items
      if t.text == ";" then
        advance
        return .empty
    if t.kind == .ident then
      -- a label
      if (← peekAt 1).isPunct ":" && (← isPlainIdent t) && !(← isTypedefName t.text) then
        advance
        advance
        let _ ← attributes fuel
        if ← isP "\x7d" then return .label t.text .empty
        return .label t.text (← statement fuel)
      match t.text with
      | "if" =>
        advance
        expect "("
        let c ← expr fuel
        expect ")"
        let th ← statement fuel
        if ← acceptK "else" then return .ite c th (some (← statement fuel))
        return .ite c th none
      | "while" =>
        advance
        expect "("
        let c ← expr fuel
        expect ")"
        return .while c (← statement fuel)
      | "do" =>
        advance
        let body ← statement fuel
        if !(← acceptK "while") then fail "'while'"
        expect "("
        let c ← expr fuel
        expect ")"
        expect ";"
        return .doWhile body c
      | "for" =>
        advance
        expect "("
        pushScope
        let init ← if ← accept ";" then pure none
          else if ← startsSpecs (← peek) then do pure (some (← declarationStmt fuel))
          else do
            let e ← expr fuel
            expect ";"
            pure (some (Stmt.expr e))
        let c ← if ← isP ";" then pure none else do pure (some (← expr fuel))
        expect ";"
        let step ← if ← isP ")" then pure none else do pure (some (← expr fuel))
        expect ")"
        let body ← statement fuel
        popScope
        return .for init c step body
      | "switch" =>
        advance
        expect "("
        let e ← expr fuel
        expect ")"
        return .switch e (← statement fuel)
      | "case" =>
        advance
        let lo ← condExpr fuel
        let hi ← if ← accept "..." then do pure (some (← condExpr fuel)) else pure none
        expect ":"
        if ← isP "\x7d" then return .case lo hi .empty
        return .case lo hi (← statement fuel)
      | "default" =>
        advance
        expect ":"
        if ← isP "\x7d" then return .default .empty
        return .default (← statement fuel)
      | "return" =>
        advance
        if ← accept ";" then return .ret none
        let e ← expr fuel
        expect ";"
        return .ret (some e)
      | "break" =>
        advance
        expect ";"
        return .brk
      | "continue" =>
        advance
        expect ";"
        return .cont
      | "goto" =>
        advance
        if ← accept "*" then
          let e ← expr fuel
          expect ";"
          return .gotoExpr e
        let n ← peek
        if n.kind != .ident then fail "label name"
        advance
        expect ";"
        return .goto n.text
      | "__asm__" | "__asm" | "asm" =>
        if t.text == "asm" && !(← get).cfg.gnu then
          let e ← expr fuel
          expect ";"
          return .expr e
        advance
        for _ in [0:4] do
          let q ← peek
          if q.isIdent "volatile" || q.isIdent "__volatile__" || q.isIdent "goto" ||
              q.isIdent "inline" then advance
          else break
        expect "("
        let template := String.join (← stringPieces)
        for _ in [0:(← get).toks.size] do
          let q ← peek
          if q.isPunct ")" || (q.kind == .other && q.text.isEmpty) then break
          if q.isPunct "(" then skipBalanced else advance
        expect ")"
        expect ";"
        return .asm template
      | "__attribute__" | "__attribute" =>
        if (← peekAt 1).isPunct "(" then
          -- an attribute on a null statement, such as fallthrough, or a declaration
          let st ← get
          let _ ← attributes fuel
          if ← accept ";" then return .empty
          set st
        pure ()
      | _ => pure ()
    if ← startsSpecs (← peek) then
      return ← declarationStmt fuel
    if ← isK "_Static_assert" then
      return ← declarationStmt fuel
    if ← isK "__label__" then
      advance
      for _ in [0:(← get).toks.size] do
        advance
        if !(← accept ",") then break
      expect ";"
      return .empty
    let e ← expr fuel
    expect ";"
    pure (.expr e)

/-- A declaration in a block, nested function definitions included. -/
def declarationStmt : Nat → ParseM Stmt
  | 0 => throw "statement nested too deeply"
  | fuel + 1 => do pure (.decl (← declaration fuel))

/-- Statements and declarations up to the closing `}`, which is read. -/
def blockItems : Nat → ParseM (List Stmt)
  | 0 => throw "statement nested too deeply"
  | fuel + 1 => do
    let mut items : Array Stmt := #[]
    for _ in [0:(← get).toks.size] do
      if ← accept "\x7d" then break
      let t ← peek
      if t.kind == .other && t.text.isEmpty then fail "'\x7d'"
      items := items.push (← statement fuel)
    pure items.toList

/-- A declaration or function definition. -/
def declaration : Nat → ParseM Decl
  | 0 => throw "declaration nested too deeply"
  | fuel + 1 => do
    if ← acceptK "_Static_assert" then
      expect "("
      let e ← condExpr fuel
      let msg ← if ← accept "," then do pure (some (String.join (← stringPieces))) else pure none
      expect ")"
      expect ";"
      return .assertion e msg
    let sp ← specs fuel true
    let .mk storage words record enum tdn tyE tyT _ _ _ _ _ _ := sp
    if words.isEmpty && record.isNone && enum.isNone && tdn.isNone && tyE.isNone && tyT.isNone then
      -- an identifier that names no type: implicit int is not accepted
      let t ← peek
      if !(t.isPunct "*" || (← isPlainIdent t) || t.isPunct "(") || storage.isEmpty then
        fail "declaration specifiers"
    if ← accept ";" then return .mk sp []
    let isTypedef := storage.contains .typedef
    let mut items : Array InitDecl := #[]
    for _ in [0:(← get).toks.size] do
      let d ← declarator fuel 1
      skipAsmLabel
      let attrs ← attributes fuel
      let name := declaratorName d
      -- a function definition
      if items.isEmpty && declaresFunction d && !isTypedef then
        let t ← peek
        let oldStyle := match declaratorParams d with
          | some (_, some (_ :: _)) => true
          | _ => false
        if t.isPunct "\x7b" || (oldStyle && (← startsSpecs t)) then
          if let some n := name then declare n false
          pushScope
          let (ps, names) := (declaratorParams d).getD ([], none)
          for n in paramNames ps ++ names.getD [] do declare n false
          let mut old : Array Decl := #[]
          for _ in [0:(← get).toks.size] do
            if ← isP "\x7b" then break
            old := old.push (← declaration fuel)
          expect "\x7b"
          let body ← blockItems fuel
          popScope
          return .func sp d attrs old.toList body
      if let some n := name then declare n isTypedef
      let init ← if ← accept "=" then do pure (some (← initializer fuel)) else pure none
      items := items.push (.mk d init attrs)
      if !(← accept ",") then break
    expect ";"
    pure (.mk sp items.toList)

end

/-- Builtin typedef names. -/
def builtinTypedefs : List String := ["__builtin_va_list", "__int128_t", "__uint128_t"]

/-- Parse a translation unit: its external declarations, each with whether it was read
from a header. -/
def parseUnit (cfg : ParseConfig) (toks : Array Token) : Except String (List (Decl × Bool)) := do
  let scope : Std.HashMap String Bool := builtinTypedefs.foldl (fun m n => m.insert n true) {}
  let run : ParseM (List (Decl × Bool)) := do
    let mut decls : Array (Decl × Bool) := #[]
    for _ in [0:toks.size + 1] do
      let t ← peek
      if t.kind == .other && t.text.isEmpty then break
      if ← accept ";" then continue
      decls := decls.push (← declaration 100000, t.header)
    pure decls.toList
  match run.run { toks := toks, scopes := [scope], cfg := cfg } with
  | .ok (ds, _) => pure ds
  | .error e => throw e

end InlineC.Lang
