import InlineC.Text.Quoted

/-!
# The type table

Signatures name types in a small vocabulary (`int`, `str`, `u64`, `object`, ...). The table
gives each name its C declaration and, for types that can be passed to or returned from
native code through the runtime, the one-letter argument code that the runtime's tuple
parser and value builder use. The empty name stands for an unannotated value and is a
runtime object.

A lookup fails for a name missing from the table, and asking for the argument code of a
type that has none fails too; the first failing name of a list decides its error.
-/

namespace InlineC

/-- The argument codes of the runtime: how one value crosses between a tuple of runtime
objects and a C variable. -/
inductive ArgCode where
  | truth | char | short | int | long | longLong | size | byte | ushort | uint | ulong
  | ulongLong | float | double | str | object
  deriving DecidableEq, Repr, Inhabited

namespace ArgCode

/-- The letter of an argument code in a format string. -/
def toChar : ArgCode → Char
  | .truth => 'p' | .char => 'c' | .short => 'h' | .int => 'i' | .long => 'l'
  | .longLong => 'L' | .size => 'n' | .byte => 'b' | .ushort => 'H' | .uint => 'I'
  | .ulong => 'k' | .ulongLong => 'K' | .float => 'f' | .double => 'd' | .str => 's'
  | .object => 'O'

/-- Every argument code. -/
def all : List ArgCode :=
  [.truth, .char, .short, .int, .long, .longLong, .size, .byte, .ushort, .uint, .ulong,
    .ulongLong, .float, .double, .str, .object]

/-- The argument code a letter stands for. -/
def ofChar? (c : Char) : Option ArgCode := all.find? (·.toChar = c)

/-- The character of an argument code reads back as the code. -/
theorem ofChar?_toChar (a : ArgCode) : ofChar? a.toChar = some a := by
  cases a <;> rfl

end ArgCode

/-- One row of the type table. -/
structure TypeEntry where
  name : String
  decl : String
  code : Option ArgCode
  deriving DecidableEq, Repr

/-- The letters of an entry's argument code: one letter, or none. -/
def TypeEntry.format (e : TypeEntry) : String :=
  match e.code with
  | some c => c.toChar.toString
  | none => ""

/-- The type table, in its order. -/
def typeTable : List TypeEntry :=
  [⟨"bool", "_Bool", some .truth⟩, ⟨"char", "char", some .char⟩,
    ⟨"str", "const char *", some .str⟩, ⟨"byte", "char", none⟩,
    ⟨"short", "short", some .short⟩, ⟨"int", "int", some .int⟩,
    ⟨"size", "size_t", none⟩, ⟨"ssize", "ssize_t", none⟩,
    ⟨"psize", "cx_ssize_t", some .size⟩, ⟨"float", "float", some .float⟩,
    ⟨"double", "double", some .double⟩, ⟨"void", "void", none⟩,
    ⟨"long", "long", some .long⟩, ⟨"longlong", "long long", some .longLong⟩,
    ⟨"ldouble", "long double", none⟩, ⟨"u8", "unsigned char", some .byte⟩,
    ⟨"u16", "unsigned short", some .ushort⟩, ⟨"u32", "unsigned int", some .uint⟩,
    ⟨"u64", "unsigned long", some .ulong⟩, ⟨"u128", "unsigned long long", some .ulongLong⟩,
    ⟨"object", "cx_object*", some .object⟩, ⟨"", "cx_object*", some .object⟩,
    ⟨"none", "void", none⟩]

/-- Why a type name could not be used. -/
inductive LookupError where
  /-- The name is not in the table. -/
  | unknown (name : String)
  /-- The type has no argument code, but one was needed. -/
  | noCode (name : String)
  deriving DecidableEq, Repr

/-- The message of a lookup error. -/
def LookupError.message : LookupError → String
  | .unknown n => "unknown type " ++ Text.quote n
  | .noCode n => "type " ++ Text.quote n ++ " has no argument format code"

namespace TypeTable

/-- The row of a type name. -/
def lookup? (name : String) : Option TypeEntry := typeTable.find? (·.name = name)

/-- The C declaration of a type name. -/
def declaration (name : String) : Except LookupError String :=
  match lookup? name with
  | some e => .ok e.decl
  | none => .error (.unknown name)

/-- The argument code of a type name. -/
def code (name : String) : Except LookupError ArgCode :=
  match lookup? name with
  | some ⟨_, _, some c⟩ => .ok c
  | some ⟨_, _, none⟩ => .error (.noCode name)
  | none => .error (.unknown name)

/-- The declarations of a list of type names, or the error of the first failing one. -/
def declarations (names : List String) : Except LookupError (List String) :=
  names.mapM declaration

/-- The argument codes of a list of type names, or the error of the first failing one. -/
def codes (names : List String) : Except LookupError (List ArgCode) :=
  names.mapM code

/-- The format string of a list of type names: their codes' letters, in order. -/
def formatString (names : List String) : Except LookupError String :=
  (codes names).map fun cs => String.ofList (cs.map ArgCode.toChar)

/-- The type is a runtime object: `object`, or no type at all. -/
def isObject (name : String) : Bool := name == "object" || name == ""

/-- The type declares no value: `void` or `none`. -/
def isVoid (name : String) : Bool := name == "void" || name == "none"

/-- The declaration of a pointer to a declared type. -/
def pointer (decl : String) : String := decl ++ "*"

end TypeTable

/-- The 44 keywords of C11, in the standard's order. -/
def keywords : List String :=
  ["auto", "break", "case", "char", "const", "continue", "default", "do", "double", "else",
    "enum", "extern", "float", "for", "goto", "if", "inline", "int", "long", "register",
    "restrict", "return", "short", "signed", "sizeof", "static", "struct", "switch", "typedef",
    "union", "unsigned", "void", "volatile", "while", "_Alignas", "_Alignof", "_Atomic",
    "_Bool", "_Complex", "_Generic", "_Imaginary", "_Noreturn", "_Static_assert",
    "_Thread_local"]

/-- Whether a name is a C keyword. -/
def isKeyword (name : String) : Bool := keywords.contains name

end InlineC
