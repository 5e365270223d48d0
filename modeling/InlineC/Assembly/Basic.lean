import InlineC.Assembly.Names
import InlineC.Declaration.Render
import InlineC.Hash.Blake2b

/-!
# Assemblies

An assembly collects the declarations of one module, in order, and renders them into one
translation unit: the runtime header, the module's error object, the fragments, the method
table of the exported functions, the module definition and the initialiser. The initialiser
stamps the module with a revision, the fingerprint of the translation unit rendered without
the stamp, so a loaded artifact can be compared with the current declarations.

A declaration is accepted only when none of its symbols is taken; the taken symbols are the
module's own four and those of the accepted declarations (`taken`). A refused declaration
changes nothing and the error names its first taken symbol.
-/

namespace InlineC

/-- Two declarations, or a declaration and a module symbol, would define the same C name. -/
structure CollisionError where
  module : String
  name : String
  deriving DecidableEq, Repr

/-- The message of a collision. -/
def CollisionError.message (e : CollisionError) : String :=
  "module " ++ e.module ++ ": name " ++ Text.quote e.name ++ " is already declared"

/-- A collision is reported with its message, in the class of collisions. -/
instance : Failure CollisionError where
  report e := .plain e.message [.collision]

/-- A declaration of kind `kind` and name `name` could not be rendered. -/
structure AssemblyError where
  kind : DeclKind
  name : String
  cause : RenderError
  deriving DecidableEq, Repr

/-- A declaration that does not render is reported by the cause, prefixed with its kind and name. -/
instance : Failure AssemblyError where
  report e :=
    e.cause.report.wrap none
      ("render " ++ e.kind.name ++ (if e.name.isEmpty then "" else " " ++ e.name) ++ ": ")

/-- The declarations of one module, in order. -/
structure Assembly where
  name : String
  decls : List Declaration := []
  deriving DecidableEq, Repr

namespace Assembly

/-- The symbols no further declaration may define. -/
def taken (a : Assembly) : List String :=
  Assembly.moduleSymbols a.name ++ a.decls.flatMap Declaration.symbols

/-- Whether a symbol is taken. -/
def isTaken (a : Assembly) (n : String) : Bool := (a.taken).contains n

/-- The first symbol of a declaration that is taken already. -/
def firstTaken? (a : Assembly) (d : Declaration) : Option String :=
  d.symbols.find? a.isTaken

/-- Accept a declaration whose symbols are all free. -/
def add (a : Assembly) (d : Declaration) : Except CollisionError Assembly :=
  match a.firstTaken? d with
  | some n => .error ⟨a.name, n⟩
  | none => .ok { a with decls := a.decls ++ [d] }

/-- The exported declarations, in order. -/
def exported (a : Assembly) : List Declaration := a.decls.filter Declaration.isExported

/-- The fragments of all declarations, or the error of the first that fails. -/
def fragments (a : Assembly) : Except AssemblyError (List String) :=
  a.decls.mapM fun d => d.render.mapError (AssemblyError.mk d.kind d.name)

/-- The runtime header line and include. -/
def header : String := "#define CX_RUNTIME_ABI \"1229f2b4\"\n#include \"cexi.h\""

/-- The method table. -/
def methodTable (a : Assembly) : String :=
  "static cx_method_def " ++ methodTableSymbol a.name ++ "[] = \x7b" ++
    String.join (a.exported.map fun d => "\n    " ++ d.tableEntry ++ ",") ++
    "\n    \x7bNULL, NULL, 0, NULL\x7d\n\x7d;"

/-- The module definition. -/
def definition (a : Assembly) : String :=
  "static cx_module_def " ++ moduleDefSymbol a.name ++ " = \x7b\n    \"" ++ a.name ++
    "\",\n    NULL,\n    " ++ methodTableSymbol a.name ++ "\n\x7d;"

/-- The initialiser, stamped with a revision when one is given. -/
def initialiser (a : Assembly) (revision : Option Nat) : String :=
  let err := errorSymbol a.name
  "CX_EXPORT cx_module*\n" ++ initSymbol a.name ++ "(void)\n\x7b\n" ++
  "    cx_module* m = cx_module_create(&" ++ moduleDefSymbol a.name ++ ");\n" ++
  "    if (!m)\n        return NULL;\n\n    " ++ err ++ " = cx_err_new_exception(\"" ++
  a.name ++ ".error\");\n    if (cx_module_add_error(m, " ++ err ++ ") < 0) \x7b\n" ++
  "        cx_decref(" ++ err ++ ");\n        " ++ err ++ " = NULL;\n" ++
  "        cx_module_free(m);\n        return NULL;\n    \x7d\n" ++
  (match revision with
    | some r => "\n#define CX_CODE_REVISION " ++ toString r ++
        "ULL\n    cx_module_set_revision(m, CX_CODE_REVISION);\n"
    | none => "") ++
  "\n    return m;\n\x7d"

/-- The translation unit around given fragments. -/
def assemble (a : Assembly) (frags : List String) (revision : Option Nat) : String :=
  header ++ "\n\n" ++ "static cx_object* " ++ errorSymbol a.name ++ ";" ++ "\n\n" ++
    "\n\n\n".intercalate frags ++ "\n\n\n" ++ a.methodTable ++ "\n\n" ++ a.definition ++
    "\n\n" ++ a.initialiser revision ++ "\n"

/-- The translation unit without the revision stamp, the text the revision is taken of. -/
def renderWithoutRevision (a : Assembly) : Except AssemblyError String :=
  a.fragments.map fun frags => a.assemble frags none

/-- The revision of the current declarations. -/
def revision (a : Assembly) : Except AssemblyError Nat :=
  a.renderWithoutRevision.map fun s => Blake2b.fingerprint (Utf8.ofString s)

/-- The translation unit, stamped with its revision. -/
def render (a : Assembly) : Except AssemblyError String := do
  let frags ← a.fragments
  let rev := Blake2b.fingerprint (Utf8.ofString (a.assemble frags none))
  pure (a.assemble frags (some rev))

end Assembly

end InlineC
