import Std.Data.HashMap
import InlineC.Lang.Lexer
import InlineC.Lang.Diagnostic

/-!
# Macros

Macro definitions and their expansion. Expansion follows the hide-set rule: every token
carries the names of the macros whose expansion produced it, and a macro is not expanded
again inside its own expansion. A function-like macro is called only when its name is
followed by `(`; its arguments are expanded on their own before they replace the parameters,
except next to `#` (which makes a string of the argument's spelling) and `##` (which pastes
two tokens into one). The extra arguments of a variadic macro stand for `__VA_ARGS__` or
for its last named parameter; `__VA_OPT__(...)` keeps its contents only when there are
extra arguments, and a comma before `## __VA_ARGS__` disappears when there are none.

Every token of an expansion takes the line of the macro name that started it, which is the
line `__LINE__` reports inside macros.
-/

namespace InlineC.Lang

/-- A macro: its parameters (none for an object-like macro), whether the last parameter
takes the extra arguments, and the replacement. -/
structure Macro where
  params : Option (List String) := none
  variadic : Bool := false
  body : List Token := []
  deriving Repr, Inhabited

/-- Two definitions are the same when parameters and replacement spell the same, with
blanks in the same places. -/
def Macro.same (a b : Macro) : Bool :=
  a.params == b.params && a.variadic == b.variadic && a.body.length == b.body.length &&
    (a.body.zip b.body).zipIdx.all fun ((x, y), i) =>
      x.kind == y.kind && x.text == y.text && (i == 0 || x.space == y.space)

/-- The macro definitions in force. -/
abbrev MacroTable := Std.HashMap String Macro

/-- A token and the macros it may no longer expand. -/
structure Marked where
  tok : Token
  hide : List String := []
  deriving Repr, Inhabited

/-- What the builtin macros read: the presumed file and line offset, and the names the
preprocessor expands itself. -/
structure ExpandEnv where
  macros : MacroTable
  file : String := ""
  baseFile : String := ""
  /-- Added to a physical line number to give the presumed one. -/
  lineDelta : Int := 0
  includeLevel : Nat := 0
  /-- The lexer's dialect, for pasting. -/
  lexMode : LexMode := {}
  /-- Inside `#if`: `defined` and the `__has_` operators are left alone. -/
  inCondition : Bool := false

/-- The state expansion changes: the `__COUNTER__` value and the diagnostics. -/
structure ExpandState where
  counter : Nat := 0
  diags : Array Diag := #[]
  deriving Inhabited

/-- Expanding macros. -/
abbrev ExpandM := StateT ExpandState (Except String)

/-- A piece of a substituted replacement: a token, the paste operator, or a placemarker
(what an empty argument leaves). -/
inductive Piece where
  | tok (m : Marked)
  | paste
  | placemarker
  deriving Inhabited

/-- Split macro arguments at top-level commas up to the closing parenthesis: the arguments,
the closing parenthesis and what follows it. -/
def collectArgs : List Marked → Nat → Array Marked → Array (List Marked) →
    Option (Array (List Marked) × Marked × List Marked)
  | [], _, _, _ => none
  | t :: rest, depth, cur, args =>
    if t.tok.isPunct ")" && depth == 0 then some (args.push cur.toList, t, rest)
    else if t.tok.isPunct "," && depth == 0 then collectArgs rest depth #[] (args.push cur.toList)
    else
      let depth' := if t.tok.isPunct "(" then depth + 1
        else if t.tok.isPunct ")" then depth - 1 else depth
      collectArgs rest depth' (cur.push t) args

/-- Escape a spelling for a string literal. -/
def escapeForString (s : String) : String :=
  String.join (s.toList.map fun c => if c == '"' || c == '\\' then "\\" ++ c.toString else c.toString)

/-- The string literal of an argument's spelling, for `#`. -/
def stringify (arg : List Marked) : Token :=
  let parts := arg.zipIdx.map fun (m, i) =>
    let text := if m.tok.kind == .string || m.tok.kind == .char then escapeForString m.tok.text
      else m.tok.text
    (if i > 0 && m.tok.space then " " else "") ++ text
  { kind := .string, text := "\"" ++ String.join parts ++ "\"" }

/-- The arguments of a call, as the parameters see them: the named ones, then the extra
ones joined with commas (none when there are none). -/
def bindArgs (params : List String) (variadic : Bool) (args : Array (List Marked)) :
    List (String × List Marked) × Option (List Marked) :=
  if variadic then
    let named := params.dropLast
    let extra := args.toList.drop named.length
    let joined := extra.zipIdx.flatMap fun (a, i) =>
      if i == 0 then a else { tok := Token.punct "," } :: a
    (named.zip args.toList ++ [(params.getLastD "__VA_ARGS__", joined)],
      if extra.isEmpty then none else some joined)
  else (params.zip args.toList, none)

/-- Whether the argument count of a call fits the macro; the message when it does not. -/
def checkArgCount (name : String) (params : List String) (variadic : Bool)
    (args : Array (List Marked)) : Option String :=
  let n := params.length
  let given := if n == 0 && args.size == 1 && (args[0]?.getD []).isEmpty then 0 else args.size
  if variadic then
    if given + 1 < n then
      some ("macro \"" ++ name ++ "\" requires " ++ toString n ++ " arguments, but only " ++
        toString given ++ " given")
    else none
  else if given < n then
    some ("macro \"" ++ name ++ "\" requires " ++ toString n ++ " arguments, but only " ++
      toString given ++ " given")
  else if given > n then
    some ("macro \"" ++ name ++ "\" passed " ++ toString given ++ " arguments, but takes just " ++
      toString n)
  else none

/-- The tokens between a parenthesis and its partner, and what follows the partner. -/
def balanced : Nat → List Token → Array Token → Option (List Token × List Token)
  | _, [], _ => none
  | depth, t :: rest, acc =>
    if t.isPunct ")" then
      if depth == 0 then some (acc.toList, rest) else balanced (depth - 1) rest (acc.push t)
    else if t.isPunct "(" then balanced (depth + 1) rest (acc.push t)
    else balanced depth rest (acc.push t)

/-- Paste the pieces around each paste operator. -/
def pastePieces (m : LexMode) : List Piece → Array Piece → Except String (Array Piece)
  | [], acc => .ok acc
  | .paste :: rest, acc =>
    match rest with
    | [] => .ok acc
    | right :: more =>
      let left := acc.back?
      let acc := acc.pop
      let joined : Except String Piece := match left, right with
        | some .placemarker, r => .ok r
        | none, r => .ok r
        | some (.tok l), .placemarker => .ok (.tok l)
        | some (.tok l), .tok r =>
          let ts := lex m (l.tok.text ++ r.tok.text)
          if ts.size == 1 then
            .ok (.tok { l with tok := { (ts[0]?.getD default) with space := l.tok.space, line := l.tok.line } })
          else .error ("pasting \"" ++ l.tok.text ++ "\" and \"" ++ r.tok.text ++
            "\" does not give a valid preprocessing token")
        | some other, _ => .ok other
      match joined with
      | .ok p => pastePieces m more (acc.push p)
      | .error e => .error e
  | p :: rest, acc => pastePieces m rest (acc.push p)

/-- The value of a builtin macro at a token, if the name is one. -/
def builtinMacro (env : ExpandEnv) (t : Token) : ExpandM (Option Token) := do
  let line := (Int.ofNat t.line + env.lineDelta).toNat
  match t.text with
  | "__LINE__" => pure (some { t with kind := .number, text := toString line })
  | "__FILE__" => pure (some { t with kind := .string, text := "\"" ++ escapeForString env.file ++ "\"" })
  | "__FILE_NAME__" =>
    let base := (env.file.splitOn "/").getLastD env.file
    pure (some { t with kind := .string, text := "\"" ++ escapeForString base ++ "\"" })
  | "__BASE_FILE__" => pure (some { t with kind := .string, text := "\"" ++ escapeForString env.baseFile ++ "\"" })
  | "__INCLUDE_LEVEL__" => pure (some { t with kind := .number, text := toString env.includeLevel })
  | "__COUNTER__" =>
    let st ← get
    set { st with counter := st.counter + 1 }
    pure (some { t with kind := .number, text := toString st.counter })
  | "__DATE__" => pure (some { t with kind := .string, text := "\"??? ?? ????\"" })
  | "__TIME__" => pure (some { t with kind := .string, text := "\"??:??:??\"" })
  | "__TIMESTAMP__" => pure (some { t with kind := .string, text := "\"??? ??? ?? ??:??:?? ????\"" })
  | _ => pure none

/-- The operators of `#if` whose operand is read unexpanded. -/
def conditionOperators : List String :=
  ["defined", "__has_include", "__has_include_next", "__has_builtin", "__has_attribute",
   "__has_c_attribute", "__has_cpp_attribute"]

/-- The text of a string literal token without quotes and escapes, as `_Pragma` reads it. -/
def destringize (s : String) : String :=
  let cs := s.toList
  let cs := if cs.head? == some 'L' then cs.drop 1 else cs
  let inner := (cs.drop 1).dropLast
  let rec go : List Char → List Char
    | '\\' :: c :: rest => if c == '"' || c == '\\' then c :: go rest else '\\' :: c :: go rest
    | c :: rest => c :: go rest
    | [] => []
  String.ofList (go inner)

mutual

/-- Expand macros in a token list, appending to `acc`. -/
def expandList (env : ExpandEnv) : Nat → List Marked → Array Marked → ExpandM (Array Marked)
  | 0, _, _ => throw "macro expansion does not end"
  | _, [], acc => pure acc
  | fuel + 1, t :: rest, acc => do
    let name := t.tok.text
    if t.tok.kind != .ident || t.hide.contains name then expandList env fuel rest (acc.push t)
    else if env.inCondition && conditionOperators.contains name then
      -- the operand of these is not expanded
      match rest with
      | lp :: more =>
        if lp.tok.isPunct "(" then
          match collectArgs more 0 #[] #[] with
          | some (args, rp, after) =>
            let inner := (args.toList.intersperse [{ tok := Token.punct "," }]).flatten
            expandList env fuel after ((acc.push t |>.push lp) ++ inner.toArray |>.push rp)
          | none => expandList env fuel rest (acc.push t)
        else expandList env fuel more (acc.push t |>.push lp)
      | [] => pure (acc.push t)
    else if name == "_Pragma" then
      match rest with
      | lp :: s :: rp :: more =>
        if lp.tok.isPunct "(" && s.tok.kind == .string && rp.tok.isPunct ")" then
          let pt : Token := { t.tok with kind := TokKind.pragma, text := destringize s.tok.text }
          expandList env fuel more (acc.push { tok := pt })
        else throw "_Pragma takes a parenthesized string literal"
      | _ => throw "_Pragma takes a parenthesized string literal"
    else match env.macros.get? name with
      | none =>
        match ← builtinMacro env t.tok with
        | some b => expandList env fuel rest (acc.push { t with tok := b })
        | none => expandList env fuel rest (acc.push t)
      | some m =>
        let mark := fun (hs : List String) (i : Nat) (b : Marked) =>
          ({ b with hide := hs ++ b.hide,
                    tok := { b.tok with line := t.tok.line,
                                        space := if i == 0 then t.tok.space else b.tok.space } } : Marked)
        match m.params with
        | none =>
          let pieces ← substitute env fuel [] false [] none m.body #[]
          let pasted ← match pastePieces env.lexMode pieces.toList #[] with
            | .ok p => pure p
            | .error e => throw e
          let body := pasted.toList.filterMap fun p => match p with
            | .tok b => some b
            | _ => none
          let hs := name :: t.hide
          expandList env fuel ((body.zipIdx.map fun (b, i) => mark hs i b) ++ rest) acc
        | some params =>
          match rest with
          | lp :: more =>
            if !lp.tok.isPunct "(" then expandList env fuel rest (acc.push t)
            else match collectArgs more 0 #[] #[] with
              | none => throw ("unterminated argument list invoking macro \"" ++ name ++ "\"")
              | some (args, rp, after) =>
                match checkArgCount name params m.variadic args with
                | some msg => throw msg
                | none =>
                  let args := if params.isEmpty then #[] else args
                  let (bound, extra) := bindArgs params m.variadic args
                  if m.variadic && params.length > args.size then
                    modify fun st => { st with diags := st.diags.push (.pedantic "variadic-macros") }
                  let pieces ← substitute env fuel bound m.variadic params extra m.body #[]
                  let pasted ← match pastePieces env.lexMode pieces.toList #[] with
                    | .ok p => pure p
                    | .error e => throw e
                  let body := pasted.toList.filterMap fun p => match p with
                    | .tok b => some b
                    | _ => none
                  let hs := name :: t.hide.filter rp.hide.contains
                  expandList env fuel ((body.zipIdx.map fun (b, i) => mark hs i b) ++ after) acc
          | [] => pure (acc.push t)

/-- Replace the parameters of a replacement list by their arguments, giving pieces to
paste. -/
def substitute (env : ExpandEnv) : Nat → List (String × List Marked) → Bool → List String →
    Option (List Marked) → List Token → Array Piece → ExpandM (Array Piece)
  | 0, _, _, _, _, _, _ => throw "macro expansion does not end"
  | _, _, _, _, _, [], acc => pure acc
  | fuel + 1, bound, variadic, params, extra, b :: rest, acc => do
    let argOf := fun (n : String) => bound.lookup n
    let nextIsPaste := (rest.head?.map (·.isPunct "##")).getD false
    let prevIsPaste := match acc.back? with
      | some .paste => true
      | _ => false
    if b.isPunct "#" && !params.isEmpty then
      match rest with
      | p :: more =>
        match argOf p.text with
        | some a =>
          substitute env fuel bound variadic params extra more
            (acc.push (.tok { tok := { stringify a with space := b.space, line := b.line } }))
        | none => throw "'#' is not followed by a macro parameter"
      | [] => throw "'#' is not followed by a macro parameter"
    else if b.isPunct "##" then
      -- a comma pasted to empty extra arguments disappears
      let vaNext := match rest.head? with
        | some n => variadic && n.kind == .ident && n.text == params.getLastD "__VA_ARGS__"
        | none => false
      let commaBefore := match acc.back? with
        | some (.tok c) => c.tok.isPunct ","
        | _ => false
      if vaNext && commaBefore then
        match extra with
        | none | some [] =>
          substitute env fuel bound variadic params extra (rest.drop 1) (acc.pop.push .placemarker)
        | some e =>
          substitute env fuel bound variadic params extra (rest.drop 1) (acc ++ (e.map Piece.tok).toArray)
      else substitute env fuel bound variadic params extra rest (acc.push .paste)
    else if b.kind == .ident && b.text == "__VA_OPT__" && variadic then
      match rest with
      | lp :: more =>
        if !lp.isPunct "(" then throw "__VA_OPT__ must be followed by an open parenthesis"
        else match balanced 0 more #[] with
          | some (inner, after) =>
            let present := match extra with
              | some e => !e.isEmpty
              | none => false
            if present then
              let sub ← substitute env fuel bound variadic params extra inner #[]
              substitute env fuel bound variadic params extra after (acc ++ sub)
            else substitute env fuel bound variadic params extra after (acc.push .placemarker)
          | none => throw "unterminated __VA_OPT__"
      | [] => throw "__VA_OPT__ must be followed by an open parenthesis"
    else if b.kind == .ident && (argOf b.text).isSome then
      let a := (argOf b.text).getD []
      if nextIsPaste || prevIsPaste then
        let ps := if a.isEmpty then #[Piece.placemarker] else (a.map Piece.tok).toArray
        substitute env fuel bound variadic params extra rest (acc ++ ps)
      else
        let e ← expandList env fuel a #[]
        let e := e.toList.zipIdx.map fun (m, i) =>
          Piece.tok (if i == 0 then { m with tok := { m.tok with space := b.space } } else m)
        substitute env fuel bound variadic params extra rest (acc ++ e.toArray)
    else substitute env fuel bound variadic params extra rest (acc.push (.tok { tok := b }))

end

/-- Expand the macros of a token list. -/
def expandTokens (env : ExpandEnv) (ts : List Token) : ExpandM (Array Token) := do
  let fuel := 64 * ts.length + 100000
  let out ← expandList env fuel (ts.map fun t => { tok := t }) #[]
  pure (out.map (·.tok))

end InlineC.Lang
