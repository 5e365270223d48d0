/-!
# C types

The types of the dialect the compiler reads, with the sizes and alignments of the x86-64
data model: `int` of 4 octets, `long` and pointers of 8, `__int128` of 16, and a `long
double` of the 80-bit extended format stored in 16 octets.

Structures and unions are kept in a table and referred to by number, so that a type
mentioning an incomplete structure is completed when the structure is. Their members carry
the offsets the layout gave them; a bit-field member also its bit position and width.

Whether plain `char` is signed is a property of the target, not of the type: it is given
by `Target`, as `-funsigned-char` changes it.
-/

namespace InlineC.Lang

/-- The integer types. -/
inductive IntKind where
  | bool | char | schar | uchar | short | ushort | int | uint | long | ulong | llong | ullong
  | int128 | uint128
  deriving DecidableEq, Repr, Inhabited, Hashable

/-- The floating types. -/
inductive FloatKind where
  | float | double | ldouble
  deriving DecidableEq, Repr, Inhabited, Hashable

/-- What the target decides about types. -/
structure Target where
  charSigned : Bool := true
  /-- `wchar_t` is `unsigned short` rather than `int`. -/
  shortWchar : Bool := false
  deriving Repr, Inhabited

namespace IntKind

/-- Octets of the type. -/
def size : IntKind → Nat
  | .bool | .char | .schar | .uchar => 1
  | .short | .ushort => 2
  | .int | .uint => 4
  | .long | .ulong | .llong | .ullong => 8
  | .int128 | .uint128 => 16

/-- Whether the type holds negative values. -/
def signedIn (t : Target) : IntKind → Bool
  | .char => t.charSigned
  | .schar | .short | .int | .long | .llong | .int128 => true
  | _ => false

/-- The conversion rank. -/
def rank : IntKind → Nat
  | .bool => 0
  | .char | .schar | .uchar => 1
  | .short | .ushort => 2
  | .int | .uint => 3
  | .long | .ulong => 4
  | .llong | .ullong => 5
  | .int128 | .uint128 => 6

/-- The unsigned type of the same rank. -/
def toUnsigned : IntKind → IntKind
  | .char | .schar => .uchar
  | .short => .ushort
  | .int => .uint
  | .long => .ulong
  | .llong => .ullong
  | .int128 => .uint128
  | k => k

/-- Bits of the type. -/
def bits (k : IntKind) : Nat := 8 * k.size

/-- The value of `v` in the type: reduced modulo the width and, for a signed type, read in
two's complement; a `_Bool` is 1 for any nonzero value. -/
def wrapIn (t : Target) (k : IntKind) (v : Int) : Int :=
  if k == .bool then (if v == 0 then 0 else 1)
  else
    let m : Int := Int.pow 2 k.bits
    let r := v % m
    if k.signedIn t && r ≥ m / 2 then r - m else r

/-- The least value of the type. -/
def minIn (t : Target) (k : IntKind) : Int :=
  if k.signedIn t then -(Int.pow 2 (k.bits - 1)) else 0

/-- The greatest value of the type. -/
def maxIn (t : Target) (k : IntKind) : Int :=
  if k == .bool then 1
  else if k.signedIn t then Int.pow 2 (k.bits - 1) - 1 else Int.pow 2 k.bits - 1

end IntKind

namespace FloatKind

/-- Octets of the type. -/
def size : FloatKind → Nat
  | .float => 4
  | .double => 8
  | .ldouble => 16

/-- The conversion rank. -/
def rank : FloatKind → Nat
  | .float => 0
  | .double => 1
  | .ldouble => 2

end FloatKind

/-- The types. -/
inductive CType where
  | void
  | int (k : IntKind)
  | float (k : FloatKind)
  /-- A complex type of a floating kind. -/
  | complex (k : FloatKind)
  | ptr (t : CType)
  /-- An array; the length is unknown for an incomplete array. -/
  | array (t : CType) (n : Option Nat)
  /-- An array whose length is computed when its declaration runs; the length lives in
  the local numbered `len`. -/
  | vla (t : CType) (len : Nat)
  /-- A function: result, parameter types, whether it takes extra arguments, and whether
  the parameters are declared at all. -/
  | func (ret : CType) (params : List CType) (variadic : Bool) (proto : Bool)
  /-- A structure or union, by its number in the record table. -/
  | record (id : Nat)
  /-- An enumeration, by its number in the record table; it computes as its underlying
  integer type. -/
  | enum (id : Nat) (k : IntKind)
  deriving Repr, Inhabited, BEq, Hashable

/-- A member of a structure or union. -/
structure Member where
  /-- None for an unnamed bit-field or an anonymous structure or union. -/
  name : Option String
  type : CType
  offset : Nat
  /-- The position of a bit-field within the storage unit at `offset`, and its width. -/
  bits : Option (Nat × Nat) := none
  deriving Repr, Inhabited

/-- A structure or union. -/
structure Record where
  tag : Option String
  union : Bool
  members : Array Member := #[]
  size : Nat := 0
  align : Nat := 1
  complete : Bool := false
  deriving Repr, Inhabited

/-- The table of structures, unions and enumerations of a translation unit. -/
abbrev Records := Array Record

namespace CType

/-- `int`. -/
def int32 : CType := .int .int
/-- `unsigned int`. -/
def uint32 : CType := .int .uint
/-- `long`. -/
def long : CType := .int .long
/-- `unsigned long`. -/
def ulong : CType := .int .ulong
/-- `char`. -/
def char : CType := .int .char
/-- `double`. -/
def double : CType := .float .double
/-- `char *`. -/
def charPtr : CType := .ptr (.int .char)
/-- `void *`. -/
def voidPtr : CType := .ptr .void

/-- The integer kind an integer or enumeration type computes as. -/
def intKind? : CType → Option IntKind
  | .int k => some k
  | .enum _ k => some k
  | _ => none

/-- Whether the type is an integer type, enumerations included. -/
def isInteger (t : CType) : Bool := t.intKind?.isSome

/-- The kind of a real floating type. -/
def floatKind? : CType → Option FloatKind
  | .float k => some k
  | _ => none

/-- Whether the type is a real floating type. -/
def isFloating (t : CType) : Bool := t.floatKind?.isSome

/-- Whether the type is arithmetic. -/
def isArithmetic : CType → Bool
  | .int _ | .enum .. | .float _ | .complex _ => true
  | _ => false

/-- Whether the type is a pointer. -/
def isPointer : CType → Bool
  | .ptr _ => true
  | _ => false

/-- Whether the type is scalar: arithmetic or a pointer. -/
def isScalar (t : CType) : Bool := t.isArithmetic || t.isPointer

/-- Whether the type is a function type. -/
def isFunction : CType → Bool
  | .func .. => true
  | _ => false

/-- Whether the type is `void`. -/
def isVoid : CType → Bool
  | .void => true
  | _ => false

/-- Whether the type is an array, of fixed or computed length. -/
def isArray : CType → Bool
  | .array .. | .vla .. => true
  | _ => false

/-- Whether the type is a structure or union. -/
def isRecord : CType → Bool
  | .record _ => true
  | _ => false

/-- The type a pointer points to. -/
def pointee? : CType → Option CType
  | .ptr t => some t
  | _ => none

/-- The element type of an array. -/
def element? : CType → Option CType
  | .array t _ | .vla t _ => some t
  | _ => none

/-- The type an expression of this type has as a value: arrays become pointers to their
first element, functions pointers to themselves. -/
def decay : CType → CType
  | .array t _ | .vla t _ => .ptr t
  | .func r ps v p => .ptr (.func r ps v p)
  | t => t

/-- Whether the type has a length computed at run time. -/
def isVariable : CType → Bool
  | .vla .. => true
  | .array t _ => t.isVariable
  | _ => false

/-- The integer promotion. -/
def promote (tg : Target) : CType → CType
  | .int k =>
    if k.rank < 3 then .int .int else .int k
  | .enum _ k => if k.rank < 3 then .int .int else .int k
  | t => let _ := tg; t

/-- The type of arithmetic between two arithmetic types (the usual conversions). -/
def common (tg : Target) (a b : CType) : CType :=
  match a, b with
  | .complex x, .complex y => .complex (if x.rank ≥ y.rank then x else y)
  | .complex x, .float y | .float y, .complex x => .complex (if x.rank ≥ y.rank then x else y)
  | .complex x, _ | _, .complex x => .complex x
  | .float x, .float y => .float (if x.rank ≥ y.rank then x else y)
  | .float x, _ | _, .float x => .float x
  | _, _ =>
    match a.promote tg, b.promote tg with
    | .int x, .int y =>
      if x == y then .int x
      else if x.signedIn tg == y.signedIn tg then .int (if x.rank ≥ y.rank then x else y)
      else
        let (u, s) := if x.signedIn tg then (y, x) else (x, y)
        if u.rank ≥ s.rank then .int u
        else if s.size > u.size then .int s
        else .int s.toUnsigned
    | _, _ => .int .int

end CType

/-- Round `n` up to a multiple of `a`. -/
def alignUp (n a : Nat) : Nat := if a = 0 then n else (n + a - 1) / a * a

/-- Octets of a type; none for incomplete types, and for arrays of computed length whose
size is only known when they are made. -/
def CType.size? (recs : Records) : CType → Option Nat
  | .void => some 1
  | .int k => some k.size
  | .float k => some k.size
  | .complex k => some (2 * k.size)
  | .ptr _ => some 8
  | .array t n => do
    let s ← t.size? recs
    let n ← n
    pure (s * n)
  | .vla .. => none
  | .func .. => some 1
  | .record id => do
    let r ← recs[id]?
    if r.complete then some r.size else none
  | .enum _ k => some k.size

/-- The alignment of a type. -/
def CType.align (recs : Records) : CType → Nat
  | .int k => k.size
  | .float k => k.size
  | .complex k => k.size
  | .ptr _ => 8
  | .array t _ | .vla t _ => t.align recs
  | .record id => (recs[id]?.map (·.align)).getD 1
  | .enum _ k => k.size
  | _ => 1

/-- The size of a type, zero when it has none. -/
def CType.sizeOr0 (recs : Records) (t : CType) : Nat := (t.size? recs).getD 0

/-- Whether a type is complete: objects of it can be made. -/
def CType.complete (recs : Records) (t : CType) : Bool :=
  match t with
  | .vla .. => true
  | .void => false
  | .func .. => false
  | _ => (t.size? recs).isSome

/-- A member found by name in a structure or union, with the offset added from anonymous
members it lies in. -/
structure Found where
  type : CType
  offset : Nat
  bits : Option (Nat × Nat)
  deriving Repr, Inhabited

/-- Find a member by name, looking into anonymous structures and unions. -/
def findMember (recs : Records) : Nat → Nat → String → Option Found
  | 0, _, _ => none
  | fuel + 1, id, name => do
    let r ← recs[id]?
    r.members.toList.findSome? fun m =>
      match m.name with
      | some n => if n == name then some ⟨m.type, m.offset, m.bits⟩ else none
      | none =>
        match m.type with
        | .record sub => (findMember recs fuel sub name).map fun f => { f with offset := f.offset + m.offset }
        | _ => none

namespace CType

/-- Structural compatibility of types, as assignments and redeclarations need it:
qualifiers are not kept, arrays of unknown length match any length, a function without a
prototype matches any function returning the same type, and enumerations are compatible
with their integer type. -/
def compatible : CType → CType → Bool
  | .void, .void => true
  | .int a, .int b => a == b
  | .enum a _, .enum b _ => a == b
  | .enum _ k, .int b | .int b, .enum _ k => k == b
  | .float a, .float b => a == b
  | .complex a, .complex b => a == b
  | .ptr a, .ptr b => compatible a b
  | .array a n, .array b m => compatible a b && (n.isNone || m.isNone || n == m)
  | .vla a _, .array b _ | .array a _, .vla b _ | .vla a _, .vla b _ => compatible a b
  | .func r ps v p, .func r' ps' v' p' =>
    compatible r r' && (!p || !p' || (v == v' && ps.length == ps'.length &&
      compatibleList ps ps'))
  | .record a, .record b => a == b
  | _, _ => false
where
  /-- Pairwise compatibility of type lists. -/
  compatibleList : List CType → List CType → Bool
    | [], [] => true
    | a :: as, b :: bs => compatible a b && compatibleList as bs
    | _, _ => false

end CType

end InlineC.Lang
