import InlineC.Lang.Core

/-!
# Machine code

What the machine runs: each function of a linked library as a sequence of operations on a
stack of 64-bit values, with its locals either in registers of its own or at offsets in
its frame, the octets it gets on the machine's stack for each call.

An operation pops its operands and pushes its result. Jumps name operation indices.
Addresses of symbols are references the loaded image resolves: a global by its number, a
function of the library by its number, a function the machine provides by its number, a
string literal by its number.

A value of a wide kind (a 128-bit integer, an 80-bit floating value) is, as in checked
code, the address of its sixteen octets; an operation making one writes it at the frame
offset it names.
-/

namespace InlineC.Machine

open InlineC.Lang

/-- What an address refers to. -/
inductive Ref where
  | global (i : Nat)
  | func (i : Nat)
  | provided (i : Nat)
  | string (i : Nat)
  deriving Repr, Inhabited, BEq

/-- Where a local lives: a register of the call, or an offset in its frame. -/
inductive Slot where
  | reg (i : Nat)
  | mem (off : Nat)
  deriving Repr, Inhabited, BEq

/-- The operations. -/
inductive Op where
  | push (v : UInt64)
  /-- The address a reference resolves to, plus an offset. -/
  | ref (r : Ref) (off : Int)
  | reg (i : Nat)
  /-- Pop into a register. -/
  | setReg (i : Nat)
  /-- Copy the top into a register, keeping it. -/
  | teeReg (i : Nat)
  /-- The address of an offset in the frame. -/
  | frame (off : Nat)
  | load (k : NumKind)
  /-- Pop a value and an address; store; push the value. -/
  | store (k : NumKind)
  | loadBits (k : NumKind) (pos width : Nat)
  | storeBits (k : NumKind) (pos width : Nat)
  /-- Pop a source and a destination; copy; push the destination. -/
  | copy (n : Nat)
  | zero (n : Nat)
  /-- Write a 128-bit constant at a frame offset and push its address. -/
  | wideConst (off : Nat) (lo hi : UInt64)
  | conv (src dst : NumKind) (tmp : Nat)
  | unary (op : UnOp) (k : NumKind) (tmp : Nat)
  | binary (op : BinOp) (k : NumKind) (tmp : Nat)
  /-- Add a constant to a register, in a kind. -/
  | addReg (i : Nat) (k : NumKind) (v : UInt64)
  | truth (k : NumKind)
  | pop
  | jump (t : Nat)
  | jumpIf (t : Nat)
  | jumpIfNot (t : Nat)
  /-- Call the function whose address lies below `n` arguments; the first argument is on
  top. The result's class names the frame offset a wide or structure result goes to. -/
  | call (n : Nat) (classes : Array ArgClass) (fixed : Option Nat) (ret : RetClass)
  | ret
  | retVoid
  /-- Jump by the value: the first range holding it, else the default. -/
  | switch (k : NumKind) (cases : Array (UInt64 × UInt64 × Nat)) (dflt : Nat)
  | vaStart
  | vaArg (c : ArgClass) (tmp : Nat)
  | alloca
  | builtin (b : Builtin) (n : Nat)
  | fault (msg : String)
  deriving Repr, Inhabited

/-- A function as the machine runs it. -/
structure Code where
  name : String
  ops : Array Op
  regs : Nat
  frameSize : Nat
  /-- Where each parameter goes, and how it travels. -/
  params : Array (Slot × ArgClass)
  variadic : Bool
  ret : RetClass
  exported : Bool
  deriving Repr, Inhabited

/-- An element of a global's initial contents, with addresses as references. -/
inductive Init where
  | bytes (off : Nat) (data : List UInt8)
  | addr (off : Nat) (r : Ref) (addend : Int)
  deriving Repr, Inhabited

/-- A global of a linked library. -/
structure GlobalCode where
  name : String
  size : Nat
  align : Nat
  init : List Init
  exported : Bool
  deriving Repr, Inhabited

/-- A linked library: its functions, globals and strings, the functions it needs the
machine to provide, the constructors to run when it is loaded, and the names nothing
defines. -/
structure Library where
  functions : Array Code
  globals : Array GlobalCode
  strings : Array (List UInt8)
  provided : Array String
  constructors : List Nat
  unresolved : List String
  deriving Repr, Inhabited

end InlineC.Machine
