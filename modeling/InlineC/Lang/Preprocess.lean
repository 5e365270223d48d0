import InlineC.Lang.Condition
import InlineC.Lang.Header
import InlineC.Lang.Predefined

/-!
# The C preprocessor

Directives are read a logical line at a time: macro definitions and removals, conditional
groups, includes, line control, diagnostics and pragmas. The text between two directives is
expanded with the macros defined at that point. Headers are found by name (see
`findHeader`) and read like the source, each in its own file context, so that `__FILE__`
and `__LINE__` and the balance of conditional groups are per file.

Inside a skipped group only the conditional directives count, and they are checked for
their order (`#else` after `#else` is an error even there) but not evaluated; its text is
never looked at, so an apostrophe or a stray `@` there is harmless.

The result is the expanded tokens, with the pragmas the compiler acts on (such as
`pack`) left among them as tokens of kind `pragma`, and the diagnostics given on the way.
-/

namespace InlineC.Lang

/-- What the preprocessor needs to know beyond the macros. -/
structure PPConfig where
  options : Options
  lexMode : LexMode
  /-- Whether a name is a builtin function. -/
  hasBuiltin : String → Bool
  /-- The version number of an attribute, zero when it is unknown. -/
  attributeVersion : String → Nat

/-- A conditional group being read. -/
structure Group where
  /-- Lines of this branch are kept. -/
  active : Bool
  /-- A branch of this group was kept already, or the whole group is skipped. -/
  taken : Bool
  /-- The enclosing text is kept. -/
  outer : Bool
  /-- `#else` was seen. -/
  sawElse : Bool := false
  /-- The directive that opened the group. -/
  opener : String
  deriving Repr, Inhabited

/-- Where the tokens being read come from. -/
structure FileContext where
  name : String
  /-- Added to a physical line to give the presumed one. -/
  lineDelta : Int := 0
  /-- A system header: its diagnostics are not given. -/
  system : Bool := false
  /-- A header rather than the source. -/
  header : Bool := true
  deriving Inhabited

/-- The state of preprocessing. -/
structure PPState where
  macros : MacroTable
  groups : List Group := []
  pending : Array Token := #[]
  out : Array Token := #[]
  diags : Array Diag := #[]
  counter : Nat := 0
  /-- Headers read with `#pragma once`, and headers not to read again. -/
  once : List String := []
  /-- Names `#pragma GCC poison` forbids. -/
  poisoned : List String := []
  /-- Macro definitions saved by `push_macro`. -/
  pushed : List (String × Option Macro) := []
  /-- The name of the source being compiled. -/
  baseFile : String := ""
  includeLevel : Nat := 0
  deriving Inhabited

/-- Preprocessing, failing with an error message. -/
abbrev PPM := StateT PPState (Except String)

namespace PPState

/-- Whether lines are being kept. -/
def active (st : PPState) : Bool := (st.groups.head?.map (·.active)).getD true

end PPState

/-- Add a diagnostic unless it comes from a system header. -/
def note (ctx : FileContext) (d : Diag) : PPM PUnit := do
  match d with
  | .error _ => modify fun st => { st with diags := st.diags.push d }
  | _ => if ctx.system then pure () else modify fun st => { st with diags := st.diags.push d }

/-- The expansion environment of a file context. -/
def expandEnv (cfg : PPConfig) (ctx : FileContext) (st : PPState) (cond : Bool) : ExpandEnv :=
  { macros := st.macros, file := ctx.name, baseFile := st.baseFile, lineDelta := ctx.lineDelta,
    includeLevel := st.includeLevel, lexMode := cfg.lexMode, inCondition := cond }

/-- Expand tokens with the macros in force. -/
def expandHere (cfg : PPConfig) (ctx : FileContext) (cond : Bool) (ts : List Token) :
    PPM (Array Token) := do
  let st ← get
  match (expandTokens (expandEnv cfg ctx st cond) ts).run { counter := st.counter } with
  | .ok (out, es) =>
    set { st with counter := es.counter }
    for d in es.diags do note ctx d
    pure out
  | .error e => throw e

/-- Expand the text read since the last directive and add it to the output. -/
def flush (cfg : PPConfig) (ctx : FileContext) : PPM PUnit := do
  let st ← get
  if st.pending.isEmpty then return
  set { st with pending := #[] }
  let out ← expandHere cfg ctx false st.pending.toList
  for t in out do
    if t.kind == .ident && (← get).poisoned.contains t.text then
      throw ("attempt to use poisoned \"" ++ t.text ++ "\"")
  let out := if ctx.header then out.map fun t => { t with header := true } else out
  modify fun st => { st with out := st.out ++ out }

/-- Parameters of a function-like macro after its `(`: the names, whether the last takes
the extra arguments, and the replacement after `)`. -/
def macroParams : List Token → Array String → Except String (List String × Bool × List Token)
  | [], _ => .error "missing ')' in macro parameter list"
  | t :: rest, acc =>
    if t.isPunct ")" && acc.isEmpty then .ok ([], false, rest)
    else if t.isPunct "..." then
      match rest with
      | r :: body =>
        if r.isPunct ")" then .ok ((acc.push "__VA_ARGS__").toList, true, body)
        else .error "missing ')' in macro parameter list"
      | [] => .error "missing ')' in macro parameter list"
    else if t.kind == .ident then
      if acc.contains t.text then .error ("duplicate macro parameter \"" ++ t.text ++ "\"")
      else if t.text == "__VA_ARGS__" then .error "__VA_ARGS__ can not be used as a parameter name"
      else match rest with
        | r :: more =>
          if r.isPunct "," then macroParams more (acc.push t.text)
          else if r.isPunct ")" then .ok ((acc.push t.text).toList, false, more)
          else if r.isPunct "..." then
            match more with
            | c :: body =>
              if c.isPunct ")" then .ok ((acc.push t.text).toList, true, body)
              else .error "missing ')' in macro parameter list"
            | [] => .error "missing ')' in macro parameter list"
          else .error ("expected ',' or ')', found \"" ++ r.text ++ "\"")
        | [] => .error "missing ')' in macro parameter list"
    else .error ("expected parameter name, found \"" ++ t.text ++ "\"")

/-- Read a `#define` line. -/
def parseDefine (ts : List Token) : Except String (String × Macro × Bool) :=
  match ts with
  | [] => .error "no macro name given in #define directive"
  | n :: rest =>
    if n.kind != .ident then .error "macro names must be identifiers"
    else if n.text == "defined" then .error "\"defined\" cannot be used as a macro name"
    else
      match rest with
      | lp :: more =>
        if lp.isPunct "(" && !lp.space then do
          let (ps, v, body) ← macroParams more #[]
          pure (n.text, { params := some ps, variadic := v, body := body }, false)
        else
          -- no blank after the name is a pedantic diagnostic
          pure (n.text, { body := rest }, !lp.space)
      | [] => .ok (n.text, {}, false)

/-- Check a replacement list: `##` at either end, and `#` before a non-parameter. -/
def checkBody (m : Macro) : Option String :=
  let first := m.body.head?.map (·.isPunct "##")
  let last := m.body.getLast?.map (·.isPunct "##")
  if first == some true || last == some true then
    some "'##' cannot appear at either end of a macro expansion"
  else match m.params with
    | some ps =>
      let bad := (m.body.zip (m.body.drop 1)).any fun (a, b) =>
        a.isPunct "#" && !(b.kind == .ident && (ps.contains b.text ||
          (m.variadic && b.text == "__VA_OPT__")))
      let lastHash := m.body.getLast?.map (·.isPunct "#")
      if bad || lastHash == some true then some "'#' is not followed by a macro parameter" else none
    | none => none

/-- The header name of an `#include` line: quoted or angled, and the name. -/
def includeOperand (ts : List Token) : Option (Bool × String) :=
  match ts with
  | [s] => if s.kind == .string && s.text.startsWith "\"" then
      some (true, String.ofList ((s.text.toList.drop 1).dropLast)) else none
  | lt :: rest =>
    if lt.isPunct "<" && ((rest.getLast?.map (·.isPunct ">")).getD false) then
      some (false, String.join ((rest.dropLast).map fun t =>
        (if t.space then " " else "") ++ t.text))
    else none
  | [] => none

/-- The path a system header is known by. -/
def systemPath (name : String) : String := "/usr/include/" ++ name

/-- The condition environment of the preprocessor. -/
def condEnv (cfg : PPConfig) (st : PPState) : CondEnv :=
  { macros := st.macros,
    hasHeader := fun q h =>
      if cfg.options.noStdInc then q && h == runtimeHeaderName else (findHeader q h).isSome,
    hasBuiltin := cfg.hasBuiltin,
    attributeVersion := cfg.attributeVersion,
    standardAttributeVersion := fun n => match n with
      | "deprecated" => 201904 | "fallthrough" => 201904 | "maybe_unused" => 201904
      | "nodiscard" => 202003 | "noreturn" | "_Noreturn" => 202202
      | _ => 0,
    charSigned := !cfg.options.unsignedChar }

/-- Evaluate the condition of `#if` or `#elif`. -/
def condition (cfg : PPConfig) (ctx : FileContext) (ts : List Token) : PPM Bool := do
  let expanded ← expandHere cfg ctx true ts
  let st ← get
  match (evalCondition (condEnv cfg st) expanded.toList).run #[] with
  | .ok (v, ds) =>
    for d in ds do note ctx d
    pure v
  | .error e => throw e

/-- Warn about tokens after a directive that takes none. -/
def extraTokens (ctx : FileContext) (ts : List Token) : PPM PUnit := do
  if !ts.isEmpty then note ctx (.pedwarn "")

/-- Apply a pragma: some change the preprocessor, some go on to the compiler, unknown ones
are ignored with a warning. -/
def pragma (cfg : PPConfig) (ctx : FileContext) (line : Nat) (ts : List Token) : PPM PUnit := do
  let words := ts.map (·.text)
  let text := " ".intercalate words
  let tok : Token := { kind := .pragma, text := text, line := line, space := true }
  let pass : PPM PUnit := do
    if ctx.system then return
    modify fun st => { st with out := st.out.push tok }
  match words with
  | "once" :: _ => modify fun st => { st with once := ctx.name :: st.once }
  | "GCC" :: "poison" :: names =>
    modify fun st => { st with poisoned := st.poisoned ++ names }
  | "GCC" :: "system_header" :: _ => pure ()
  | "GCC" :: "warning" :: _ => note ctx (.warning "cpp")
  | "GCC" :: "error" :: _ => throw "#pragma GCC error"
  | "GCC" :: "dependency" :: _ => pure ()
  | "push_macro" :: "(" :: s :: _ =>
    let n := String.ofList ((s.toList.drop 1).dropLast)
    modify fun st => { st with pushed := (n, st.macros.get? n) :: st.pushed }
  | "pop_macro" :: "(" :: s :: _ =>
    let n := String.ofList ((s.toList.drop 1).dropLast)
    modify fun st =>
      match st.pushed.find? (·.1 == n) with
      | some (_, m) =>
        let macros := match m with
          | some m => st.macros.insert n m
          | none => st.macros.erase n
        let pushed := st.pushed.eraseIdx ((st.pushed.findIdx? (·.1 == n)).getD 0)
        { st with macros := macros, pushed := pushed }
      | none => st
  | "pack" :: _ => pass
  | "GCC" :: w :: _ =>
    if ["diagnostic", "optimize", "push_options", "pop_options", "reset_options", "target",
        "visibility", "ivdep", "unroll", "novector"].contains w then pass
    else note ctx (.warning "unknown-pragmas")
  | w :: _ =>
    if ["STDC", "weak", "redefine_extname", "message", "scalar_storage_order", "omp",
        "acc", "region", "endregion"].contains w then pass
    else note ctx (.warning "unknown-pragmas")
  | [] => pure ()

/-- `#line` and the `# number "file"` line markers. -/
def lineControl (ctx : FileContext) (line : Nat) (ts : List Token) (marker : Bool) :
    PPM FileContext := do
  match ts with
  | n :: rest =>
    if n.kind != .number || !n.text.all Char.isDigit then
      throw ("\"" ++ n.text ++ "\" after #line is not a positive integer")
    let v := n.text.toNat!
    if v > 2147483647 || (v == 0 && !marker) then note ctx (.pedantic "pedantic")
    if marker then note ctx (.pedantic "pedantic")
    let ctx := { ctx with lineDelta := (v : Int) - (line + 1 : Nat) }
    match rest with
    | s :: more =>
      if s.kind != .string then throw ("invalid filename \"" ++ s.text ++ "\"")
      let flags := more.map (·.text)
      let system := ctx.system || (marker && flags.contains "3")
      pure { ctx with name := String.ofList ((s.text.toList.drop 1).dropLast), system }
    | [] => pure ctx
  | [] => throw "unexpected end of file after #line"

mutual

/-- Process one directive, given its name token and the rest of its line. -/
def directive (cfg : PPConfig) (fuel : Nat) (ctx : FileContext) (d : Token) (args : List Token) :
    PPM FileContext := do
  let st ← get
  let name := if d.kind == .ident then d.text else ""
  let active := st.active
  match name with
  | "if" =>
    if !active then
      modify fun st => { st with groups := { active := false, taken := true, outer := false, opener := "#if" } :: st.groups }
    else
      let c ← condition cfg ctx args
      modify fun st => { st with groups := { active := c, taken := c, outer := true, opener := "#if" } :: st.groups }
    pure ctx
  | "ifdef" | "ifndef" =>
    if !active then
      modify fun st => { st with groups := { active := false, taken := true, outer := false, opener := "#" ++ name } :: st.groups }
    else match args with
      | n :: more =>
        if n.kind != .ident then throw "macro names must be identifiers"
        extraTokens ctx more
        let c := st.macros.contains n.text == (name == "ifdef")
        modify fun st => { st with groups := { active := c, taken := c, outer := true, opener := "#" ++ name } :: st.groups }
      | [] => throw ("no macro name given in #" ++ name ++ " directive")
    pure ctx
  | "elif" | "elifdef" | "elifndef" =>
    match st.groups with
    | g :: rest =>
      if g.sawElse then throw ("#" ++ name ++ " after #else")
      if name != "elif" then note ctx (.pedantic "pedantic")
      if g.taken || !g.outer then
        set { st with groups := { g with active := false, taken := true } :: rest }
      else
        let c ← if name == "elif" then condition cfg ctx args
          else match args with
            | n :: _ => pure (st.macros.contains n.text == (name == "elifdef"))
            | [] => throw ("no macro name given in #" ++ name ++ " directive")
        modify fun st => { st with groups := { g with active := c, taken := c } :: rest }
    | [] => throw ("#" ++ name ++ " without #if")
    pure ctx
  | "else" =>
    match st.groups with
    | g :: rest =>
      if g.sawElse then throw "#else after #else"
      if g.outer && !args.isEmpty then note ctx (.warning "endif-labels")
      set { st with groups := { g with active := g.outer && !g.taken, taken := true, sawElse := true } :: rest }
    | [] => throw "#else without #if"
    pure ctx
  | "endif" =>
    match st.groups with
    | g :: rest =>
      if g.outer && !args.isEmpty then note ctx (.warning "endif-labels")
      set { st with groups := rest }
    | [] => throw "#endif without #if"
    pure ctx
  | _ =>
    if !active then return ctx
    match name with
    | "define" =>
      let (n, m, noBlank) ← match parseDefine args with
        | .ok r => pure r
        | .error e => throw e
      if noBlank then note ctx (.pedwarn "")
      if let some e := checkBody m then throw e
      match st.macros.get? n with
      | some old =>
        if !old.same m then
          if ["__LINE__", "__FILE__", "__COUNTER__", "__DATE__", "__TIME__"].contains n then
            note ctx (.warning "builtin-macro-redefined")
          else note ctx (.pedwarn "")
      | none =>
        if ["__LINE__", "__FILE__", "__COUNTER__", "__DATE__", "__TIME__", "__FILE_NAME__",
            "__BASE_FILE__", "__INCLUDE_LEVEL__"].contains n then
          note ctx (.warning "builtin-macro-redefined")
      modify fun st => { st with macros := st.macros.insert n m }
      pure ctx
    | "undef" =>
      match args with
      | n :: more =>
        if n.kind != .ident then throw "macro names must be identifiers"
        if n.text == "defined" then throw "\"defined\" cannot be used as a macro name"
        extraTokens ctx more
        modify fun st => { st with macros := st.macros.erase n.text }
        pure ctx
      | [] => throw "no macro name given in #undef directive"
    | "include" | "include_next" | "import" =>
      if name == "include_next" then note ctx (.pedantic "pedantic")
      if name == "import" then note ctx (.warning "deprecated")
      let operand ← match includeOperand args with
        | some o => pure (some o)
        | none => do
          let e ← expandHere cfg ctx false args
          pure (includeOperand e.toList)
      match operand with
      | none => throw ("#" ++ name ++ " expects \"FILENAME\" or <FILENAME>")
      | some (quoted, h) =>
        let found := if cfg.options.noStdInc && !(quoted && h == runtimeHeaderName) then none
          else findHeader quoted h
        match found with
        | none => throw (h ++ ": No such file or directory")
        | some text =>
          let path := if quoted && h == runtimeHeaderName then h else systemPath h
          if (← get).once.contains path then return ctx
          if name == "import" then modify fun st => { st with once := path :: st.once }
          if (← get).includeLevel ≥ 200 then
            throw "#include nested depth 200 exceeds maximum of 200"
          let sub : FileContext := { name := path, system := path != runtimeHeaderName }
          modify fun st => { st with includeLevel := st.includeLevel + 1 }
          readFile cfg fuel sub text
          modify fun st => { st with includeLevel := st.includeLevel - 1 }
          pure ctx
    | "line" =>
      let e ← expandHere cfg ctx false args
      lineControl ctx d.line e.toList false
    | "error" => throw "#error"
    | "warning" =>
      note ctx (.warning "cpp")
      pure ctx
    | "pragma" =>
      pragma cfg ctx d.line args
      pure ctx
    | "ident" | "sccs" =>
      note ctx (.pedantic "pedantic")
      pure ctx
    | "assert" | "unassert" =>
      note ctx (.pedantic "pedantic")
      pure ctx
    | "" =>
      if d.kind == .number then lineControl ctx d.line (d :: args) true
      else throw ("invalid preprocessing directive #" ++ d.text)
    | _ => throw ("invalid preprocessing directive #" ++ name)

/-- Read the tokens of a file from position `i`. -/
def readTokens (cfg : PPConfig) : Nat → FileContext → Array Token → Nat → PPM PUnit
  | 0, _, _, _ => throw "preprocessing does not end"
  | fuel + 1, ctx, ts, i => do
    match ts[i]? with
    | none => pure ()
    | some t =>
      if t.bol && t.isPunct "#" then
        -- a directive: up to the next line start
        let j := (List.range (ts.size - i - 1)).find? (fun k => (ts[i + 1 + k]?.map (·.bol)).getD true)
        let stop := match j with
          | some k => i + 1 + k
          | none => ts.size
        let line := (ts.extract (i + 1) stop).toList
        if (← get).active then flush cfg ctx
        match line with
        | [] => readTokens cfg fuel ctx ts stop
        | d :: args =>
          let ctx ← directive cfg fuel ctx d args
          readTokens cfg fuel ctx ts stop
      else
        -- text up to the next directive
        let j := (List.range (ts.size - i)).find? fun k =>
          k > 0 && ((ts[i + k]?.map fun u => u.bol && u.isPunct "#").getD false)
        let stop := match j with
          | some k => i + k
          | none => ts.size
        if (← get).active then
          let chunk := (ts.extract i stop).map fun u => u
          for u in chunk do
            if u.kind == .other && !ctx.system then
              if u.text.startsWith "'" || u.text.startsWith "\"" then note ctx (.pedwarn "")
          modify fun st => { st with pending := st.pending ++ chunk }
        readTokens cfg fuel ctx ts stop

/-- Read a whole file: lex it, read its tokens, and check that its conditional groups are
closed. -/
def readFile (cfg : PPConfig) : Nat → FileContext → String → PPM PUnit
  | 0, _, _ => throw "preprocessing does not end"
  | fuel + 1, ctx, text => do
  let (ts, notes) := tokenize cfg.lexMode 1 text
  for n in notes do
    if n.warning == "unterminated comment" then throw "unterminated comment"
    else note ctx (.warning n.warning)
  let depth := (← get).groups.length
  readTokens cfg fuel ctx ts 0
  let st ← get
  if st.active then flush cfg ctx
  if (← get).groups.length > depth then
    match (← get).groups.head? with
    | some g => throw ("unterminated " ++ g.opener)
    | none => pure ()

end

/-- The lexer's dialect for a compilation. -/
def Options.lexMode (o : Options) : LexMode :=
  { trigraphs := o.trigraphs,
    digraphs := !(o.standard == .c90 && !o.gnu),
    prefixed := o.gnu && o.standard != .c90 || o.standard.atLeast99 && o.standard != .c99,
    lineComments := o.gnu || o.standard != .c90,
    dollars := o.dollars }

/-- A bound on the directives and runs of text read, headers included. -/
def stepLimit : Nat := 1000000

/-- Preprocess a source: the predefined macros, the command line's definitions, the implicit
standard predefinitions, the forced includes, then the source itself. -/
def preprocess (cfg : PPConfig) (file : String) (src : String) :
    Except String (Array Token × Array Diag) := do
  let o := cfg.options
  let builtin : FileContext := { name := "<built-in>", system := true }
  let commandLine : FileContext := { name := "<command-line>" }
  let main : FileContext := { name := file, header := false }
  let run : PPM PUnit := do
    readFile cfg stepLimit builtin ("\n".intercalate (predefinedMacros o))
    readFile cfg stepLimit commandLine ("\n".intercalate o.definitions)
    if !o.noStdInc then
      readFile cfg stepLimit { name := systemPath "stdc-predef.h", system := true } Header.stdcPredefText
    for h in o.forcedIncludes do
      match findHeader true h with
      | some text => readFile cfg stepLimit { name := h, system := false } text
      | none => throw (h ++ ": No such file or directory")
    readFile cfg stepLimit main src
  match run.run { macros := {}, baseFile := file } with
  | .ok ((), st) => pure (st.out, st.diags)
  | .error e => throw e

end InlineC.Lang
