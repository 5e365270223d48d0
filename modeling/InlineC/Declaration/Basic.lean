import InlineC.Failure

/-!
# Declarations

An extension is a sequence of declarations, each one part of the generated translation
unit:

* a *block* of C copied as it is (includes, helpers, macros);
* a *native function*, a plain C function later units may call;
* a *managed function*, callable from the host through the runtime's calling convention,
  whose arguments are unpacked from a tuple and whose results are packed into one; a *raw*
  managed function receives the tuple itself;
* a *capture*, the entry point through which the host hands a callback to native code;
* a *dispatch*, the C function native code calls to reach that callback.

Constructors check names and signatures; rendering may still fail later for a type that has
no argument code.
-/

namespace InlineC

/-- A named, typed parameter. -/
structure Param where
  name : String
  type : String
  deriving DecidableEq, Repr

/-- The authored signature of a function. `returns = none` means no return annotation, so the
kind of function decides the default; `some []` declares no value. -/
structure Signature where
  params : List Param := []
  returns : Option (List String) := none
  deriving DecidableEq, Repr

/-- Why a signature was refused. -/
inductive SignatureError where
  | parameter (e : IdentifierError)
  | reserved (name : String)
  | duplicate (name : String)
  | lookup (e : LookupError)
  deriving DecidableEq, Repr

/-- Names the generated wrappers declare beside the parameters. -/
def reservedLocals : List String := ["self", "args", "result", "temp"]

namespace Signature

/-- The parameter names, in order. -/
def names (s : Signature) : List String := s.params.map (·.name)

/-- The parameter types, in order. -/
def paramTypes (s : Signature) : List String := s.params.map (·.type)

/-- The values the function produces: the default when there is no annotation, and the
annotated types without `void` and `none` otherwise. -/
def returnsOr (s : Signature) (default : String) : List String :=
  match s.returns with
  | none => [default]
  | some rs => rs.filter (fun r => !TypeTable.isVoid r)

/-- Check the parameters in order, given the names seen before them. -/
def checkParams (seen : List String) : List Param → Except SignatureError Unit
  | [] => .ok ()
  | p :: ps => do
    match Identifier.validate p.name with
    | .error e => throw (.parameter e)
    | .ok () => pure ()
    if reservedLocals.contains p.name then throw (.reserved p.name)
    if seen.contains p.name then throw (.duplicate p.name)
    if (TypeTable.lookup? p.type).isNone then throw (.lookup (.unknown p.type))
    checkParams (p.name :: seen) ps

/-- Check a signature: every parameter, then every annotated return type. -/
def validate (s : Signature) : Except SignatureError Unit := do
  checkParams [] s.params
  for r in s.returns.getD [] do
    if (TypeTable.lookup? r).isNone then throw (.lookup (.unknown r))

end Signature

/-- The message of a signature error. -/
def SignatureError.message : SignatureError → String
  | .parameter e => "parameter: " ++ e.message
  | .reserved n => "parameter " ++ Text.quote n ++ " is reserved by the generated wrapper"
  | .duplicate n => "duplicate parameter " ++ Text.quote n
  | .lookup e => e.message

/-- The kinds of declaration, in their numbering. -/
inductive DeclKind where
  | block | native | managed | capture | dispatch
  deriving DecidableEq, Repr

/-- The name of a declaration kind. -/
def DeclKind.name : DeclKind → String
  | .block => "block" | .native => "native" | .managed => "managed"
  | .capture => "capture" | .dispatch => "dispatch"

/-- The kind with a number, or none. -/
def DeclKind.ofNat? : Nat → Option DeclKind
  | 0 => some .block | 1 => some .native | 2 => some .managed
  | 3 => some .capture | 4 => some .dispatch | _ => none

/-- The name of a kind number; numbers of no kind are written `Kind(n)`. -/
def DeclKind.describe (n : Int) : String :=
  match (if n < 0 then none else DeclKind.ofNat? n.toNat) with
  | some k => k.name
  | none => "Kind(" ++ toString n ++ ")"

/-- A plain C function. -/
structure NativeFunction where
  name : String
  sig : Signature
  body : String
  deriving DecidableEq, Repr

/-- A function the host calls. A raw one has no signature and parses its arguments itself. -/
structure ManagedFunction where
  name : String
  sig : Signature
  body : String
  doc : String
  raw : Bool
  deriving DecidableEq, Repr

/-- The entry point that receives the callback of reverse function `fn` of module `module`. -/
structure Capture where
  fn : String
  module : String
  deriving DecidableEq, Repr

/-- The C function that reaches the callback held by its capture. -/
structure Dispatch where
  sig : Signature
  capture : Capture
  deriving DecidableEq, Repr

/-- One declaration of an extension. -/
inductive Declaration where
  | block (code : String)
  | native (f : NativeFunction)
  | managed (f : ManagedFunction)
  | capture (c : Capture)
  | dispatch (d : Dispatch)
  deriving DecidableEq, Repr

/-- Why a declaration was refused. -/
inductive DeclError where
  /-- The declaration's own name is no identifier. -/
  | name (e : IdentifierError)
  /-- The signature of function `fn` was refused. -/
  | signature (fn : String) (e : SignatureError)
  /-- A native function declared more than one result. -/
  | tooManyReturns (fn : String)
  deriving DecidableEq, Repr

/-- The message of a declaration error. -/
def DeclError.message : DeclError → String
  | .name e => e.message
  | .signature fn e => "function " ++ fn ++ ": " ++ e.message
  | .tooManyReturns fn => "function " ++ fn ++ ": native functions return at most one value"

/-- A refused declaration is reported with its message; one naming a type the table lacks is in the
class of lookups. -/
instance : Failure DeclError where
  report
    | e@(.signature _ (.lookup _)) => .plain e.message [.lookup]
    | e => .plain e.message

namespace Capture

/-- The exported entry point's name. -/
def name (c : Capture) : String := "__capture_" ++ c.fn ++ "_from_" ++ c.module

/-- The static variable holding the captured callback. -/
def slot (c : Capture) : String := "__captured_" ++ c.fn ++ "_from_" ++ c.module

end Capture

namespace Dispatch

/-- The dispatch function is named after the reverse function. -/
def name (d : Dispatch) : String := d.capture.fn

/-- The values the callback must produce; an absent annotation means one `int`. -/
def returns (d : Dispatch) : List String := d.sig.returnsOr "int"

end Dispatch

namespace Declaration

/-- Check a function name. -/
def checkName (name : String) : Except DeclError Unit :=
  (Identifier.validate name).mapError .name

/-- Check the signature of function `fn`. -/
def checkSignature (fn : String) (sig : Signature) : Except DeclError Unit :=
  sig.validate.mapError (.signature fn)

/-- Declare a native function: a valid name and signature, at most one result. -/
def nativeFunction (name : String) (sig : Signature) (body : String) :
    Except DeclError NativeFunction := do
  checkName name
  checkSignature name sig
  if (sig.returnsOr "int").length > 1 then throw (.tooManyReturns name)
  pure ⟨name, sig, body⟩

/-- Declare a managed function. -/
def managedFunction (name : String) (sig : Signature) (body doc : String) :
    Except DeclError ManagedFunction := do
  checkName name
  checkSignature name sig
  pure ⟨name, sig, body, doc, false⟩

/-- Declare a raw managed function, which parses its own arguments. -/
def rawFunction (name : String) (body doc : String) : Except DeclError ManagedFunction := do
  checkName name
  pure ⟨name, {}, body, doc, true⟩

/-- Declare the capture of reverse function `fn` of `module`. -/
def captureOf (fn module : String) : Except DeclError Capture := do
  checkName fn
  pure ⟨fn, module⟩

/-- Declare the dispatch paired with a capture. -/
def dispatchOf (sig : Signature) (c : Capture) : Except DeclError Dispatch := do
  checkSignature c.fn sig
  pure ⟨sig, c⟩

/-- The kind of a unit; raw functions are managed. -/
def kind : Declaration → DeclKind
  | .block _ => .block
  | .native _ => .native
  | .managed _ => .managed
  | .capture _ => .capture
  | .dispatch _ => .dispatch

/-- The C symbol a unit is known by; blocks have none. -/
def name : Declaration → String
  | .block _ => ""
  | .native f => f.name
  | .managed f => f.name
  | .capture c => c.name
  | .dispatch d => d.name

/-- The extra file-scope symbols a unit's rendering defines. -/
def helpers : Declaration → List String
  | .managed f => if f.raw then [] else ["__folded_" ++ f.name, "__pack_" ++ f.name]
  | .capture c => [c.slot]
  | _ => []

/-- Every file-scope symbol of a unit: its name, when it has one, then its helpers. -/
def symbols (u : Declaration) : List String :=
  (if u.name.isEmpty then [] else [u.name]) ++ u.helpers

/-- Exported units get a method table entry: managed functions and captures. -/
def isExported : Declaration → Bool
  | .managed _ | .capture _ => true
  | _ => false

/-- The documentation of an exported unit. -/
def doc : Declaration → String
  | .managed f => f.doc
  | _ => ""

end Declaration

end InlineC
