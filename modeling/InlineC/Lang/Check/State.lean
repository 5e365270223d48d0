import Std.Data.HashMap
import InlineC.Lang.Fold
import InlineC.Lang.Literal
import InlineC.Lang.Syntax

/-!
# The checker's state

What checking a translation unit keeps track of: the scopes of ordinary identifiers and of
tags, the structure table, the objects and functions with linkage, the string literals, the
diagnostics, and for the function being checked its locals and what is known about their
use.

A checked operand is a `Val`: its type, and either its value or the place it designates.
A place is memory at an address (a bit-field within it, possibly), or a local that may
live outside memory.
-/

namespace InlineC.Lang

/-- What an ordinary identifier stands for. -/
inductive Binding where
  /-- A local object of the function at a nesting level. -/
  | object (id : Nat) (ty : CType) (level : Nat)
  /-- An object with static storage, by its link name. -/
  | global (name : String) (ty : CType)
  | func (name : String) (ty : CType)
  | enumConst (v : Int) (ty : CType)
  | typedef (ty : CType)
  deriving Repr, Inhabited

/-- What a tag stands for. -/
inductive TagBinding where
  | record (id : Nat) (union : Bool)
  | enum (id : Nat) (k : IntKind)
  deriving Repr, Inhabited

/-- A scope. -/
structure Scope where
  names : Std.HashMap String Binding := {}
  tags : Std.HashMap String TagBinding := {}
  /-- Cleanup calls of the objects declared in the scope, latest first. -/
  cleanups : List TExpr := []
  deriving Inhabited

/-- An object with static storage. -/
structure GlobalInfo where
  name : String
  ty : CType
  /-- Internal linkage. -/
  internal : Bool
  /-- A definition was seen (an initializer, or a declaration without `extern`). -/
  defined : Bool
  init : List GInit := []
  align : Nat := 1
  used : Bool := false
  /-- Declared in a header: never the subject of an unused warning. -/
  header : Bool := false
  /-- Marked `unused` or `used`. -/
  quiet : Bool := false
  /-- `const` qualified. -/
  const : Bool := false
  deriving Inhabited

/-- A function with linkage. -/
structure FuncInfo where
  name : String
  ty : CType
  internal : Bool
  defined : Bool := false
  used : Bool := false
  header : Bool := false
  quiet : Bool := false
  inline : Bool := false
  constructor : Bool := false
  deriving Inhabited

/-- What is known about a local variable's use, for the unused warnings. -/
structure VarUse where
  name : String
  read : Bool := false
  written : Bool := false
  param : Bool := false
  quiet : Bool := false
  deriving Inhabited

/-- A switch being checked: its case ranges with their label numbers, and the default. -/
structure SwitchCtx where
  kind : NumKind
  ty : CType
  cases : Array (Int × Int × Nat) := #[]
  dflt : Option Nat := none
  deriving Inhabited

/-- The function being checked. -/
structure FnCtx where
  name : String
  ret : CType
  locals : Array Local := #[]
  vars : Std.HashMap Nat VarUse := {}
  labels : List String := []
  gotos : List String := []
  usedLabels : List String := []
  switches : List SwitchCtx := []
  variadic : Bool := false
  /-- Loops around the statement being checked. -/
  loops : Nat := 0
  /-- Loops and switches around the statement being checked. -/
  breakables : Nat := 0
  deriving Inhabited

/-- The checker's state. -/
structure CheckState where
  target : Target
  options : Options
  records : Records := #[]
  scopes : List Scope := [{}]
  globals : Std.HashMap String GlobalInfo := {}
  globalOrder : Array String := #[]
  funcs : Std.HashMap String FuncInfo := {}
  funcOrder : Array String := #[]
  defs : Array Function := #[]
  strings : Array (List UInt8) := #[]
  stringIds : Std.HashMap (List UInt8) Nat := {}
  diags : Array Diag := #[]
  fn : FnCtx := { name := "", ret := .void }
  inFunction : Bool := false
  counter : Nat := 0
  caseCounter : Nat := 0
  /-- Whether the declarations being checked come from a header. -/
  header : Bool := false
  /-- The nesting level of the function being checked. -/
  level : Nat := 0
  deriving Inhabited

/-- Checking, failing with an error message. -/
abbrev CM := StateT CheckState (Except String)

/-- A place: memory at an address (within it a bit-field, with its unit's kind, position
and width), or a local that may live outside memory. -/
inductive Place where
  | none
  | mem (addr : TExpr)
  | bits (addr : TExpr) (k : NumKind) (pos width : Nat)
  | local (id : Nat)
  deriving Repr, Inhabited

/-- A checked operand: its type, its value (for a place, unused), and the place. -/
structure Val where
  ty : CType
  e : TExpr := .const .i32 0
  place : Place := .none
  /-- An integer constant expression with value zero, or one cast to `void *`. -/
  null : Bool := false
  deriving Inhabited

namespace Check

/-- Fail with an error. -/
def err {α : Type} (msg : String) : CM α := throw msg

/-- Record a diagnostic. -/
def diag (d : Diag) : CM PUnit := do
  if (← get).header then
    match d with
    | .error _ => modify fun st => { st with diags := st.diags.push d }
    | _ => pure ()
  else modify fun st => { st with diags := st.diags.push d }

/-- Record a warning under an option. -/
def warn (name : String) : CM PUnit := diag (.warning name)

/-- Record a pedantic diagnostic given only with `-pedantic`. -/
def pedantic (name : String := "pedantic") : CM PUnit := diag (.pedantic name)

/-- Record a pedantic diagnostic given always. -/
def pedwarn (name : String := "") : CM PUnit := diag (.pedwarn name)

/-- The target. -/
def target : CM Target := do pure (← get).target

/-- The records. -/
def records : CM Records := do pure (← get).records

/-- The size of a complete type, failing for an incomplete one. -/
def sizeOf (t : CType) : CM Nat := do
  match t.size? (← records) with
  | some n => pure n
  | none => err "invalid application of 'sizeof' to incomplete type"

/-- The alignment of a type. -/
def alignOf (t : CType) : CM Nat := do pure (t.align (← records))

/-- The kind a scalar type computes as. -/
def numOf (t : CType) : CM NumKind := do
  match t.num? (← target) with
  | some k => pure k
  | none => err "scalar type required"

/-- Open a scope. -/
def pushScope : CM PUnit := modify fun st => { st with scopes := {} :: st.scopes }

/-- Close a scope, giving its cleanups. -/
def popScope : CM (List TExpr) := do
  let st ← get
  match st.scopes with
  | s :: rest =>
    set { st with scopes := rest }
    pure s.cleanups
  | [] => pure []

/-- Look up an ordinary identifier. -/
def lookup (n : String) : CM (Option Binding) := do
  pure ((← get).scopes.findSome? (·.names.get? n))

/-- Look up an ordinary identifier in the innermost scope only. -/
def lookupHere (n : String) : CM (Option Binding) := do
  pure (((← get).scopes.head?).bind (·.names.get? n))

/-- Bind an ordinary identifier in the innermost scope. -/
def bind (n : String) (b : Binding) : CM PUnit :=
  modify fun st =>
    match st.scopes with
    | s :: rest => { st with scopes := { s with names := s.names.insert n b } :: rest }
    | [] => { st with scopes := [{ names := ({} : Std.HashMap String Binding).insert n b }] }

/-- Bind an ordinary identifier at file scope. -/
def bindFile (n : String) (b : Binding) : CM PUnit :=
  modify fun st =>
    match st.scopes.reverse with
    | s :: rest => { st with scopes := ({ s with names := s.names.insert n b } :: rest).reverse }
    | [] => st

/-- Look up a tag. -/
def lookupTag (n : String) : CM (Option TagBinding) := do
  pure ((← get).scopes.findSome? (·.tags.get? n))

/-- Look up a tag in the innermost scope. -/
def lookupTagHere (n : String) : CM (Option TagBinding) := do
  pure (((← get).scopes.head?).bind (·.tags.get? n))

/-- Bind a tag in the innermost scope. -/
def bindTag (n : String) (b : TagBinding) : CM PUnit :=
  modify fun st =>
    match st.scopes with
    | s :: rest => { st with scopes := { s with tags := s.tags.insert n b } :: rest }
    | [] => st

/-- Add a cleanup call to the innermost scope. -/
def addCleanup (e : TExpr) : CM PUnit :=
  modify fun st =>
    match st.scopes with
    | s :: rest => { st with scopes := { s with cleanups := e :: s.cleanups } :: rest }
    | [] => st

/-- A new record. -/
def newRecord (r : Record) : CM Nat := do
  let st ← get
  set { st with records := st.records.push r }
  pure st.records.size

/-- Replace a record. -/
def setRecord (id : Nat) (r : Record) : CM PUnit :=
  modify fun st => { st with records := st.records.set! id r }

/-- A fresh number, for names the checker makes up. -/
def fresh : CM Nat := do
  let st ← get
  set { st with counter := st.counter + 1 }
  pure st.counter

/-- A new local of the current function. -/
def newLocal (size align : Nat) (kind : Option NumKind) (addressed : Bool) : CM Nat := do
  let st ← get
  let id := st.fn.locals.size
  set { st with fn := { st.fn with locals := st.fn.locals.push { size, align, kind, addressed } } }
  pure id

/-- A temporary object of the current function, in memory. -/
def newTemp (size : Nat) (align : Nat := 16) : CM Nat := newLocal size align none true

/-- Mark a local as living in memory. -/
def markAddressed (id : Nat) : CM PUnit :=
  modify fun st => { st with fn := { st.fn with locals := st.fn.locals.modify id fun l =>
    { l with addressed := true } } }

/-- Note a local variable for the unused warnings. -/
def noteVar (id : Nat) (u : VarUse) : CM PUnit :=
  modify fun st => { st with fn := { st.fn with vars := st.fn.vars.insert id u } }

/-- Note that a local variable is read. -/
def noteRead (id : Nat) : CM PUnit :=
  modify fun st => { st with fn := { st.fn with vars := st.fn.vars.modify id fun u =>
    { u with read := true } } }

/-- Note that a local variable is written. -/
def noteWritten (id : Nat) : CM PUnit :=
  modify fun st => { st with fn := { st.fn with vars := st.fn.vars.modify id fun u =>
    { u with written := true } } }

/-- Note a use of a function. -/
def useFunc (n : String) : CM PUnit := do
  modify fun st => { st with funcs := st.funcs.modify n fun f => { f with used := true } }

/-- Note a use of a global. -/
def useGlobal (n : String) : CM PUnit := do
  modify fun st => { st with globals := st.globals.modify n fun g => { g with used := true } }

/-- Add a string literal's octets, the same literal once. -/
def addString (os : List UInt8) : CM Nat := do
  let st ← get
  match st.stringIds.get? os with
  | some id => pure id
  | none =>
    set { st with strings := st.strings.push os, stringIds := st.stringIds.insert os st.strings.size }
    pure st.strings.size

/-- A constant of a narrow kind from an integer. -/
def intConst (k : NumKind) (v : Int) : TExpr := .const k (Arith.ofInt k v)

/-- The `int` constant of an integer. -/
def intVal (v : Int) : Val := { ty := .int .int, e := intConst .i32 v, null := v == 0 }

/-- The `unsigned long` constant of a size. -/
def sizeVal (n : Nat) : Val := { ty := .int .ulong, e := intConst .u64 n }

end Check

end InlineC.Lang
