/-!
# C syntax

The abstract syntax the parser produces, before any name or type is resolved: expressions,
type names with their declaration specifiers and declarators, initializers, statements, and
the external declarations of a translation unit. The parser tells typedef names from other
identifiers, since the grammar depends on it; everything else is left to the checker.

Constants keep their spelling (a number, a character constant, the pieces of a string
literal), since their types depend on the target.
-/

namespace InlineC.Lang.Ast

/-- Unary operators. -/
inductive UnaryOp where
  | neg | plus | lnot | bnot | deref | addr | preInc | preDec | postInc | postDec
  | real | imag
  deriving DecidableEq, Repr, Inhabited

/-- Binary operators. -/
inductive BinaryOp where
  | mul | div | mod | add | sub | shl | shr | lt | gt | le | ge | eq | ne
  | band | bxor | bor | land | lor
  deriving DecidableEq, Repr, Inhabited

/-- Storage classes and function specifiers. -/
inductive Storage where
  | typedef | external | static | auto | register | threadLocal
  deriving DecidableEq, Repr, Inhabited

mutual

/-- Expressions. -/
inductive Expr where
  | ident (n : String)
  | num (text : String)
  | char (text : String)
  /-- Adjacent string literals, each with its prefix and quotes. -/
  | str (pieces : List String)
  | unary (op : UnaryOp) (e : Expr)
  | binary (op : BinaryOp) (a b : Expr)
  /-- An assignment, compound when it names an operator. -/
  | assign (op : Option BinaryOp) (a b : Expr)
  /-- A conditional; the middle operand may be left out. -/
  | cond (c : Expr) (a : Option Expr) (b : Expr)
  | comma (a b : Expr)
  | call (f : Expr) (args : List Expr)
  | index (a i : Expr)
  | member (e : Expr) (name : String)
  | arrow (e : Expr) (name : String)
  | cast (t : TypeName) (e : Expr)
  | sizeofExpr (e : Expr)
  | sizeofType (t : TypeName)
  | alignofExpr (e : Expr)
  | alignofType (t : TypeName)
  | compound (t : TypeName) (items : List InitItem)
  /-- A statement expression: the value of its last expression statement. -/
  | stmtExpr (items : List Stmt)
  | vaArg (ap : Expr) (t : TypeName)
  | offsetof (t : TypeName) (path : List Designator)
  | typesCompatible (a b : TypeName)
  | chooseExpr (c a b : Expr)
  | generic (e : Expr) (assocs : List (Option TypeName × Expr))
  /-- The address of a label. -/
  | labelAddr (n : String)
  /-- An initializer list where an expression was expected. -/
  | braced (items : List InitItem)
  /-- A parenthesized expression, kept for the warnings that depend on parentheses. -/
  | paren (e : Expr)
  deriving Repr, Inhabited

/-- An attribute: a name and its arguments. -/
inductive Attr where
  | mk (name : String) (args : List Expr)
  deriving Repr, Inhabited

/-- The declaration specifiers. -/
inductive Specs where
  | mk (storage : List Storage) (words : List String) (record : Option RecordSpec)
      (enum : Option EnumSpec) (typedefName : Option String) (typeofExpr : Option Expr)
      (typeofType : Option TypeName) (alignas : List Expr) (alignasType : List TypeName)
      (attrs : List Attr) (inline : Bool) (noreturn : Bool) (const : Bool)
  deriving Repr, Inhabited

/-- A structure, union or its reference. -/
inductive RecordSpec where
  | mk (union : Bool) (tag : Option String) (members : Option (List MemberDecl))
      (attrs : List Attr)
  deriving Repr, Inhabited

/-- A member declaration: specifiers and the members with their bit widths. -/
inductive MemberDecl where
  | mk (specs : Specs) (items : List (Declarator × Option Expr × List Attr))
  | assertion (e : Expr)
  deriving Repr, Inhabited

/-- An enumeration or its reference. -/
inductive EnumSpec where
  | mk (tag : Option String) (items : Option (List (String × Option Expr))) (attrs : List Attr)
  deriving Repr, Inhabited

/-- Declarators, from the name outward. -/
inductive Declarator where
  | name (n : Option String)
  | ptr (attrs : List Attr) (inner : Declarator)
  /-- An array: the length when given, and whether it is `[*]`. -/
  | array (inner : Declarator) (len : Option Expr)
  /-- A function: its parameters, whether it takes more, and, for an old-style
  definition, the identifier list. -/
  | func (inner : Declarator) (params : List Param) (variadic : Bool)
      (names : Option (List String))
  | attributed (attrs : List Attr) (inner : Declarator)
  deriving Repr, Inhabited

/-- A parameter declaration. -/
inductive Param where
  | mk (specs : Specs) (d : Declarator)
  deriving Repr, Inhabited

/-- A type name: specifiers and an abstract declarator. -/
inductive TypeName where
  | mk (specs : Specs) (d : Declarator)
  deriving Repr, Inhabited

/-- An initializer. -/
inductive Init where
  | expr (e : Expr)
  | list (items : List InitItem)
  deriving Repr, Inhabited

/-- An element of an initializer list with its designators. -/
inductive InitItem where
  | mk (designators : List Designator) (value : Init)
  deriving Repr, Inhabited

/-- A designator. -/
inductive Designator where
  | field (n : String)
  | index (e : Expr)
  | range (lo hi : Expr)
  deriving Repr, Inhabited

/-- A declarator of a declaration with its initializer and attributes. -/
inductive InitDecl where
  | mk (d : Declarator) (init : Option Init) (attrs : List Attr)
  deriving Repr, Inhabited

/-- A declaration. -/
inductive Decl where
  | mk (specs : Specs) (items : List InitDecl)
  | assertion (e : Expr) (msg : Option String)
  /-- A function definition: specifiers, declarator, old-style parameter declarations,
  and the body. -/
  | func (specs : Specs) (d : Declarator) (attrs : List Attr) (oldParams : List Decl)
      (body : List Stmt)
  deriving Repr, Inhabited

/-- Statements. -/
inductive Stmt where
  | expr (e : Expr)
  | empty
  | decl (d : Decl)
  | block (items : List Stmt)
  | ite (c : Expr) (t : Stmt) (e : Option Stmt)
  | while (c : Expr) (body : Stmt)
  | doWhile (body : Stmt) (c : Expr)
  | for (init : Option Stmt) (c : Option Expr) (step : Option Expr) (body : Stmt)
  | switch (e : Expr) (body : Stmt)
  /-- A case label, with the end of a range. -/
  | case (lo : Expr) (hi : Option Expr) (s : Stmt)
  | default (s : Stmt)
  | ret (e : Option Expr)
  | brk
  | cont
  | goto (n : String)
  | gotoExpr (e : Expr)
  | label (n : String) (s : Stmt)
  /-- Inline assembly: only an empty template is understood. -/
  | asm (template : String)
  deriving Repr, Inhabited

end

/-- Empty specifiers. -/
def Specs.empty : Specs := .mk [] [] none none none none none [] [] [] false false false

end InlineC.Lang.Ast
