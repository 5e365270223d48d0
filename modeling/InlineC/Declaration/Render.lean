import InlineC.Declaration.Basic
import InlineC.Text.CLiteral
import InlineC.Text.Layout

/-!
# Rendering declarations

Each declaration renders to a fragment of C. Bodies are dedented and indented by one level.
A managed function becomes two functions: `__folded_f`, the body with the declared
parameters, and `f`, the wrapper with the runtime's calling convention, which unpacks the
argument tuple with the parameters' codes and packs the result. Several results are packed
by `__pack_f`, and `return (a, b)` in the body reaches it through a `return` macro. A
capture stores the callback it is given in a static slot once; a dispatch calls the stored
callback and unpacks its result into out-parameters, answering 0 on success, 1 when nothing
was captured, 2 when the call failed and 3 when the result did not fit.

Rendering fails when a type that must cross the runtime boundary has no argument code.
-/

namespace InlineC

/-- Why a declaration could not be rendered. -/
inductive RenderError where
  /-- A type has no declaration. -/
  | lookup (e : LookupError)
  /-- A type of function `fn` has no argument code. -/
  | format (fn : String) (e : LookupError)
  /-- Helper names ran out. -/
  | names (e : NamesError)
  deriving DecidableEq, Repr

/-- The report of a render error. -/
def RenderError.report : RenderError → FailureReport
  | .lookup e => Failure.report e
  | .format fn e => (Failure.report e).wrap none ("function " ++ fn ++ ": ")
  | .names e => Failure.report e

namespace Render

/-- A declaration followed by a name; no space after a pointer's star. -/
def declare (decl name : String) : String :=
  if decl.endsWith "*" then decl ++ name else decl ++ " " ++ name

/-- A parameter list, or `void` when there are no parameters. -/
def params (decls names : List String) : String :=
  if names.isEmpty then "void" else ", ".intercalate (List.zipWith declare decls names)

/-- The method table entry of an exported function. -/
def tableEntry (name doc : String) : String :=
  "\x7b\"" ++ name ++ "\", " ++ name ++ ", CX_METH_VARARGS, " ++ Text.CLiteral.quote doc ++ "\x7d"

/-- Four spaces, one level of indentation. -/
def tab : String := "    "

/-- A function definition: return type and name on their own lines, then the body. -/
def function (ret name paramList body : String) : String :=
  ret ++ "\n" ++ name ++ "(" ++ paramList ++ ")\n\x7b\n" ++ body ++ "\n\x7d"

/-- The static slot that holds a captured callback, empty at first. -/
def slotDefinition (slot : String) : String := "static cx_object* " ++ slot ++ " = NULL;"

/-- The declarations of some types. -/
def declsOf (types : List String) : Except RenderError (List String) :=
  (TypeTable.declarations types).mapError .lookup

/-- The format string of some types, in function `fn`. -/
def formatOf (fn : String) (types : List String) : Except RenderError String :=
  (TypeTable.formatString types).mapError (.format fn)

/-- Text trimmed of white space at both ends. -/
def trimSpace (s : String) : String :=
  String.ofList ((s.toList.dropWhile Text.Layout.isSpace).reverse.dropWhile
    Text.Layout.isSpace).reverse

/-- A block: its code without surrounding white space. -/
def block (code : String) : String := trimSpace code

/-- A native function. -/
def native (f : NativeFunction) : Except RenderError String := do
  let ret := match f.sig.returnsOr "int" with
    | [r] => r
    | _ => "void"
  let retDecl ← declsOf [ret]
  let decls ← declsOf f.sig.paramTypes
  pure (function (retDecl.headD "void") f.name (params decls f.sig.names)
    (Text.Layout.indent f.body))

/-- A call of a variadic function of the runtime: the arguments before the format string, the
format, and the extra arguments after it, one for each of the format's codes. -/
structure VarCall where
  fn : String
  fixed : List String
  format : String
  args : List String

/-- The text of a variadic call, its format written as a string literal. -/
def VarCall.text (c : VarCall) : String :=
  c.fn ++ "(" ++ String.join (c.fixed.map (· ++ ", ")) ++ "\"" ++ c.format ++ "\"" ++
    String.join (c.args.map (", " ++ ·)) ++ ")"

/-- The call that parses the items of the tuple `source` into `args` by the codes `format`,
naming the unit `unit` after a colon for its error messages. -/
def parseCall (source format unit : String) (args : List String) : VarCall :=
  ⟨"cx_parse_tuple", [source], format ++ ":" ++ unit, args⟩

/-- The argument unpacking of a managed function's wrapper. -/
def unpack (f : ManagedFunction) : Except RenderError String := do
  let decls ← declsOf f.sig.paramTypes
  let format ← formatOf f.name f.sig.paramTypes
  let locals := List.zipWith (fun d n => declare d n ++ (if d.endsWith "*" then " = NULL" else ""))
    decls f.sig.names
  pure (String.join (locals.map (tab ++ · ++ ";\n")) ++ "\n" ++ tab ++
    "if (!" ++ (parseCall "args" format f.name (f.sig.names.map ("&" ++ ·))).text ++ ")\n" ++
    tab ++ tab ++ "return NULL;")

/-- The wrapper of a managed function, with its unpacking and the body after it. -/
def wrapper (name unpacked rest : String) : String :=
  function "static cx_object*" name "cx_object* self, cx_object* args"
    (tab ++ "(void)self;\n" ++ unpacked ++ "\n\n" ++ rest)

/-- A managed function with several results. -/
def managedMulti (f : ManagedFunction) (unpacked : String) (returns : List String) :
    Except RenderError String := do
  let outNames ← (Identifier.generate returns.length f.sig.names).mapError .names
  let outDecls ← declsOf returns
  let format ← formatOf f.name returns
  let pack := function "static cx_object*" ("__pack_" ++ f.name) (params outDecls outNames)
    (tab ++ "return " ++ (⟨"cx_build_tuple", [], format, outNames⟩ : VarCall).text ++ ";")
  pure (pack ++ "\n\n" ++ wrapper f.name unpacked
    ("#define return(...) return __pack_" ++ f.name ++ "(__VA_ARGS__)\n" ++
      Text.Layout.indent f.body ++ "\n#undef return"))

/-- The declared type of the single result of a managed function, or `void`, and the tail of
its wrapper, which calls the folded body and converts what it returns. -/
def resultTail (f : ManagedFunction) (returns : List String) :
    Except RenderError (String × String) :=
  let call := "__folded_" ++ f.name ++ "(" ++ ", ".intercalate f.sig.names ++ ")"
  match returns with
  | [] => pure ("void", tab ++ call ++ ";\n" ++ tab ++ "return cx_none();")
  | r :: _ =>
    if TypeTable.isObject r then pure ("cx_object*", tab ++ "return " ++ call ++ ";")
    else do
      let d ← declsOf [r]
      let code ← formatOf f.name [r]
      pure (d.headD "", tab ++ "return " ++ (⟨"cx_build_value", [], code, [call]⟩ : VarCall).text ++
        ";")

/-- A managed function with at most one result: the folded body, then the wrapper. -/
def managedSingle (f : ManagedFunction) (unpacked : String) (returns : List String) :
    Except RenderError String := do
  let (retDecl, tail) ← resultTail f returns
  let decls ← declsOf f.sig.paramTypes
  pure (function ("static " ++ retDecl) ("__folded_" ++ f.name) (params decls f.sig.names)
    (Text.Layout.indent f.body) ++ "\n\n" ++ wrapper f.name unpacked tail)

/-- A managed function. -/
def managed (f : ManagedFunction) : Except RenderError String := do
  if f.raw then
    return function "static cx_object*" f.name "cx_object* self, cx_object* args"
      (Text.Layout.indent f.body)
  let unpacked ← unpack f
  let returns := f.sig.returnsOr "object"
  if returns.length > 1 then managedMulti f unpacked returns else managedSingle f unpacked returns

/-- A capture. -/
def capture (c : Capture) : String :=
  slotDefinition c.slot ++ "\n\n" ++
  function "static cx_object*" c.name "cx_object* self, cx_object* args"
  ("    cx_object* temp = NULL;\n\n    (void)self;\n    if (" ++ c.slot ++ ")\n" ++
  "        return cx_none();\n\n    if (!cx_parse_tuple(args, \"O:" ++ c.name ++
  "\", &temp)) \x7b\n        cx_err_set(cx_ImportError, \"cannot capture callback\");\n" ++
  "        return NULL;\n    \x7d\n\n    if (!cx_callable_check(temp)) \x7b\n" ++
  "        cx_err_set(cx_TypeError, \"parameter must be callable\");\n" ++
  "        return NULL;\n    \x7d\n\n    cx_incref(temp);\n    " ++ c.slot ++ " = temp;\n" ++
  "    return cx_none();")

/-- A dispatch. -/
def dispatch (d : Dispatch) : Except RenderError String := do
  let inTypes := d.sig.paramTypes
  let outTypes := d.returns
  let inNames := d.sig.names
  let outNames ← (Identifier.generate outTypes.length inNames).mapError .names
  let inDecls ← declsOf inTypes
  let outDecls ← declsOf outTypes
  let inFormat ← formatOf d.name inTypes
  let outFormat ← formatOf d.name outTypes
  let release := !outFormat.toList.any (fun c => c == 's' || c == 'O')
  let paramList := params (inDecls ++ outDecls.map TypeTable.pointer) (inNames ++ outNames)
  let slot := d.capture.slot
  pure (function "int" d.name paramList ("    cx_object* result = NULL;\n\n" ++
    "    if (!" ++ slot ++ ")\n        return 1;\n\n" ++
    "    if (!(result = " ++ (⟨"cx_call_function", [slot], inFormat, inNames⟩ : VarCall).text ++
    "))\n        return 2;\n\n" ++
    "    if (!" ++ (parseCall "result" outFormat d.name outNames).text ++
    ") \x7b\n        cx_decref(result);\n" ++
    "        return 3;\n    \x7d\n" ++ (if release then "\n    cx_decref(result);" else "") ++
    "\n    return 0;"))

end Render

namespace Declaration

/-- The C fragment of a declaration. -/
def render : Declaration → Except RenderError String
  | .block code => .ok (Render.block code)
  | .native f => Render.native f
  | .managed f => Render.managed f
  | .capture c => .ok (Render.capture c)
  | .dispatch d => Render.dispatch d

/-- The method table entry of an exported declaration. -/
def tableEntry (d : Declaration) : String := Render.tableEntry d.name d.doc

end Declaration

end InlineC
