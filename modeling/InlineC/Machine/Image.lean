import InlineC.Machine.Code
import InlineC.Machine.Memory
import InlineC.Machine.Standard.Random

/-!
# Loaded images

A loaded library is an image: its linked code, its memory, where its globals and string
literals live, and the top of its stack. Functions have addresses too, outside every block:
function `i` of the library at `2^60 + 16 i`, the `j`-th function the machine provides for
it at `2^60 + 2^40 + 16 j`, and the host's callback trampoline at `2^59`.

The runtime's objects live in the image's memory with the layout the runtime header gives
them, so native code reading their fields and the runtime's own functions see the same
octets.
-/

namespace InlineC.Machine

open InlineC.Lang

/-! Field offsets of a runtime object. -/
namespace Obj

/-- Octets of a runtime object. -/
def size : Nat := 80
/-- Offset of `kind`. -/
def kind : UInt64 := 0
/-- Offset of `refcnt`. -/
def refcnt : UInt64 := 8
/-- Offset of `i`. -/
def int : UInt64 := 16
/-- Offset of `d`. -/
def dbl : UInt64 := 24
/-- Offset of `s`. -/
def str : UInt64 := 32
/-- Offset of `n`. -/
def count : UInt64 := 40
/-- Offset of `items`. -/
def items : UInt64 := 48
/-- Offset of `call`. -/
def call : UInt64 := 56
/-- Offset of `handle`. -/
def handle : UInt64 := 64
/-- Offset of `is_unsigned`. -/
def unsigned : UInt64 := 72

/-- Kind numbers. -/
def none : UInt64 := 0
/-- Kind of booleans. -/
def bool : UInt64 := 1
/-- Kind of integers. -/
def integer : UInt64 := 2
/-- Kind of floats. -/
def float : UInt64 := 3
/-- Kind of strings. -/
def string : UInt64 := 4
/-- Kind of tuples. -/
def tuple : UInt64 := 5
/-- Kind of callables. -/
def callable : UInt64 := 6
/-- Kind of error types. -/
def error : UInt64 := 7
/-- Kind of modules. -/
def module : UInt64 := 8

end Obj

/-! Field offsets of a module, a method entry and a module definition. -/
namespace ModuleLayout

/-- Octets of a module. -/
def size : Nat := 112
/-- Offset of the module's definition. -/
def defn : UInt64 := 80
/-- Offset of the module's error object. -/
def error : UInt64 := 88
/-- Offset of the revision. -/
def revision : UInt64 := 96
/-- Offset of the revision flag. -/
def hasRevision : UInt64 := 104
/-- Octets of a method entry. -/
def methodSize : UInt64 := 32
/-- Offset of a method entry's function. -/
def methodFn : UInt64 := 8
/-- Offset of a method entry's flags. -/
def methodFlags : UInt64 := 16
/-- Offset of a method entry's doc. -/
def methodDoc : UInt64 := 24
/-- Offset of a module definition's method table. -/
def methods : UInt64 := 16

end ModuleLayout

/-- Address of the host's callback trampoline. -/
def trampolineAddr : UInt64 := 0x0800000000000000

/-- First address of the library's functions. -/
def functionBase : UInt64 := 0x1000000000000000

/-- First address of the provided functions. -/
def providedBase : UInt64 := 0x1000010000000000

/-- The most octets the stack may grow to. -/
def stackLimit : Nat := Nat.pow 2 26

/-- Where the C library keeps its own state in an image's memory. -/
structure LibraryCells where
  /-- The `int` that `errno` names. -/
  errno : UInt64 := 0
  /-- Cells holding the addresses of the character class, lower-case and upper-case tables,
  each of which may be indexed from -128 to 255. -/
  classes : UInt64 := 0
  lower : UInt64 := 0
  upper : UInt64 := 0
  /-- Where `strtok` goes on from. -/
  tokens : UInt64 := 0
  deriving Inhabited

/-- A loaded image. -/
structure Image where
  lib : Library
  mem : Memory
  /-- The address of each global, by number. -/
  globals : Array UInt64
  strings : Array UInt64
  /-- A zero-terminated empty string the runtime hands out. -/
  empty : UInt64
  /-- The stack's block, and the offset of its first free octet. -/
  stackBlock : Nat
  sp : Nat
  cells : LibraryCells := {}
  random : Standard.Random := Standard.Random.initial
  deriving Inhabited

namespace Image

/-! Writes to an image's memory check the place first and then change the memory, so that
an image nothing else refers to is changed where it lies. -/

/-- Write a value of at most 64 bits of a kind. -/
def store (img : Image) (k : NumKind) (addr v : UInt64) : Except Fault Image :=
  match img.mem.locate addr k.size with
  | .ok (b, off) => .ok { img with mem := img.mem.storeAt b off k.size v }
  | .error e => .error e

/-- Write octets. -/
def writeBytes (img : Image) (addr : UInt64) (data : List UInt8) : Except Fault Image :=
  match img.mem.locate addr data.length with
  | .ok (b, off) => .ok { img with mem := img.mem.writeAt b off data }
  | .error e => .error e

/-- Copy octets, which may overlap. -/
def copy (img : Image) (dst src : UInt64) (n : Nat) : Except Fault Image :=
  if n == 0 then .ok img
  else
    match img.mem.copyPlaces dst src n with
    | .ok ((sb, soff), (db, doff)) =>
      let data := img.mem.extractAt sb soff n
      .ok { img with mem := img.mem.placeAt db doff data }
    | .error e => .error e

/-- Fill octets with one value. -/
def fill (img : Image) (addr : UInt64) (v : UInt8) (n : Nat) : Except Fault Image :=
  if n == 0 then .ok img
  else
    match img.mem.locate addr n with
    | .ok (b, off) => .ok { img with mem := img.mem.fillAt b off v n }
    | .error e => .error e

end Image

/-- Running against one image. -/
abbrev ImgM := StateT Image (Except Fault)

namespace ImgM

/-- Stop with a fault. -/
def fault {α : Type} (msg : String) : ImgM α := throw ⟨msg⟩

/-- Lift a memory result. -/
def liftMem {α : Type} (r : Except Fault α) : ImgM α :=
  match r with
  | .ok a => pure a
  | .error e => throw e

/-- Read a value of a kind. -/
def load (k : NumKind) (addr : UInt64) : ImgM UInt64 := do liftMem ((← get).mem.load k addr)

/-- Change the image, or fault. -/
def update (f : Image → Except Fault Image) : ImgM PUnit := fun img =>
  match f img with
  | .ok img => .ok ((), img)
  | .error e => .error e

/-- Write a value of a kind. -/
def store (k : NumKind) (addr : UInt64) (v : UInt64) : ImgM PUnit :=
  update fun img => img.store k addr v

/-- Read a pointer or 64-bit integer. -/
def load64 (addr : UInt64) : ImgM UInt64 := load .u64 addr

/-- Write a pointer or 64-bit integer. -/
def store64 (addr : UInt64) (v : UInt64) : ImgM PUnit := store .u64 addr v

/-- Read a signed 32-bit integer. -/
def load32 (addr : UInt64) : ImgM UInt64 := load .i32 addr

/-- Write a 32-bit integer. -/
def store32 (addr : UInt64) (v : UInt64) : ImgM PUnit := store .i32 addr v

/-- Allocate zeroed octets; the null pointer when the request is too large. -/
def alloc (size : Nat) : ImgM UInt64 := do
  if size > Memory.maxBlock then return 0
  modifyGet fun img => (Memory.base img.mem.blocks.size, { img with mem := (img.mem.alloc size).1 })

/-- Read a zero-terminated string. -/
def cString (addr : UInt64) : ImgM (List UInt8) := do liftMem ((← get).mem.cString addr)

/-- Read a string of at most `n` octets. -/
def cStringUpTo (addr : UInt64) (n : Nat) : ImgM (List UInt8) := do
  liftMem ((← get).mem.cStringUpTo addr n)

/-- Read octets. -/
def readBytes (addr : UInt64) (len : Nat) : ImgM (List UInt8) := do
  liftMem ((← get).mem.readBytes addr len)

/-- Write octets. -/
def writeBytes (addr : UInt64) (data : List UInt8) : ImgM PUnit :=
  update fun img => img.writeBytes addr data

/-- Copy octets. -/
def copy (dst src : UInt64) (n : Nat) : ImgM PUnit :=
  update fun img => img.copy dst src n

/-- Fill octets with one value. -/
def fill (addr : UInt64) (v : UInt8) (n : Nat) : ImgM PUnit :=
  update fun img => img.fill addr v n

/-- A fresh zero-terminated copy of octets. -/
def newCString (os : List UInt8) : ImgM UInt64 := do
  let p ← alloc (os.length + 1)
  if p != 0 then writeBytes p (os ++ [0])
  pure p

/-- The address of a global, by name. -/
def globalAddr (name : String) : ImgM UInt64 := do
  let img ← get
  match img.lib.globals.findIdx? (·.name == name) with
  | some i => pure (img.globals.getD i 0)
  | none => fault ("no global " ++ name)

end ImgM

/-- The address of an exported function of the library, or a provided one, by name. -/
def Image.functionAddr (img : Image) (name : String) : Option UInt64 :=
  match img.lib.functions.findIdx? (fun f => f.name == name && f.exported) with
  | some i => some (functionBase + 16 * i.toUInt64)
  | none =>
    match img.lib.provided.findIdx? (· == name) with
    | some j => some (providedBase + 16 * j.toUInt64)
    | none => none

/-- What a function address reaches. -/
inductive Target where
  | program (i : Nat)
  | provided (name : String)
  | trampoline
  | invalid

/-- What a function address reaches in an image. -/
def Image.target (img : Image) (addr : UInt64) : Target :=
  if addr == trampolineAddr then .trampoline
  else if addr ≥ providedBase then
    let j := (addr - providedBase) / 16
    if (addr - providedBase) % 16 == 0 then
      match img.lib.provided[j.toNat]? with
      | some n => .provided n
      | none => .invalid
    else .invalid
  else if addr ≥ functionBase then
    let i := (addr - functionBase) / 16
    if (addr - functionBase) % 16 == 0 && i.toNat < img.lib.functions.size then .program i.toNat
    else .invalid
  else .invalid

/-- The address a reference resolves to in an image. -/
def Image.resolve (img : Image) (r : Ref) : UInt64 :=
  match r with
  | .global i => img.globals.getD i 0
  | .func i => functionBase + 16 * i.toUInt64
  | .provided j => providedBase + 16 * j.toUInt64
  | .string i => img.strings.getD i 0

end InlineC.Machine
