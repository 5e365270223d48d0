import InlineC.Machine.Image
import InlineC.Machine.Standard.Functions
import InlineC.Lang.Arith

/-!
# The runtime's functions

The functions the runtime header defines, and the C library functions the machine provides,
acting on an image's memory. Each follows the header's definition step by step: the same
checks in the same order, the same error types and messages, the same reference counting.

The error state is the header's three globals: the error type, a 1024-octet message buffer
(so messages keep at most 1023 octets), and a flag. Freeing memory keeps its octets.

The functions that call other functions (`cx_call`, `cx_call_object`, `cx_call_function`)
need the evaluator and are run there; everything else is here.
-/

namespace InlineC.Machine

namespace Objects

open ImgM
open InlineC.Lang

/-- ASCII octets of a string. -/
def bytes (s : String) : List UInt8 := s.toUTF8.toList

/-! ## Errors -/

/-- Set the error state: `cx_err_set`. A null type means `RuntimeError`. -/
def setError (ty : UInt64) (msg : List UInt8) : ImgM PUnit := do
  let ty ← if ty == 0 then globalAddr "cx_runtime_error_s" else pure ty
  store64 (← globalAddr "cx_err_type") ty
  writeBytes (← globalAddr "cx_err_buf") (msg.take 1023 ++ [0])
  store32 (← globalAddr "cx_err_flag") 1

/-- Set the error state with one of the runtime's static error types. -/
def raise (static : String) (msg : List UInt8) : ImgM PUnit := do
  setError (← globalAddr static) msg

/-- Whether an error is set. -/
def errorSet : ImgM Bool := do pure ((← load32 (← globalAddr "cx_err_flag")) != 0)

/-- Clear the error state: `cx_err_clear`. -/
def clearError : ImgM PUnit := do
  store32 (← globalAddr "cx_err_flag") 0
  store64 (← globalAddr "cx_err_type") 0
  writeBytes (← globalAddr "cx_err_buf") [0]

/-- The address `cx_err_message` returns. -/
def errorMessageAddr : ImgM UInt64 := do
  if ← errorSet then globalAddr "cx_err_buf" else pure (← get).empty

/-- The address `cx_err_name` returns. -/
def errorNameAddr : ImgM UInt64 := do
  if !(← errorSet) then return (← get).empty
  let ty ← load64 (← globalAddr "cx_err_type")
  if ty == 0 then return (← get).empty
  let s ← load64 (ty + Obj.str)
  if s == 0 then pure (← get).empty else pure s

/-- The error set, as `cx_err_name` and `cx_err_message` read it: the name of its type and its
message, both empty when none is set. -/
def pendingError : ImgM (List UInt8 × List UInt8) := do
  let name ← cString (← errorNameAddr)
  let msg ← cString (← errorMessageAddr)
  pure (name, msg)

/-! ## Objects -/

/-- Allocate an object of a kind with one reference: `cx_alloc`. -/
def allocObject (kind : UInt64) : ImgM UInt64 := do
  let o ← alloc Obj.size
  if o == 0 then
    raise "cx_memory_error_s" (bytes "out of memory")
    return 0
  store32 (o + Obj.kind) kind
  store64 (o + Obj.refcnt) 1
  pure o

/-- The kind of an object: `cx_kind`, minus one for null. -/
def kindOf (o : UInt64) : ImgM UInt64 := do
  if o == 0 then pure (Arith.norm .i32 0xFFFFFFFFFFFFFFFF) else load32 (o + Obj.kind)

/-- Add a reference: `cx_incref`. -/
def incref (o : UInt64) : ImgM PUnit := do
  if o == 0 then return
  let r ← load64 (o + Obj.refcnt)
  if r.toInt64 ≥ 0 then store64 (o + Obj.refcnt) (r + 1)

/-- Drop a reference: `cx_decref`, releasing a tuple's items when the last one goes. -/
def decref : Nat → UInt64 → ImgM PUnit
  | 0, _ => fault "reference release nested too deeply"
  | fuel + 1, o => do
    if o == 0 then return
    let r ← load64 (o + Obj.refcnt)
    if r.toInt64 < 0 then return
    let r := r - 1
    store64 (o + Obj.refcnt) r
    if r.toInt64 > 0 then return
    if (← load32 (o + Obj.kind)) == Obj.tuple then
      let n := (← load64 (o + Obj.count)).toInt64.toInt
      let items ← load64 (o + Obj.items)
      for i in List.range n.toNat do
        decref fuel (← load64 (items + 8 * i.toUInt64))

/-- How deeply nested tuples may be released. -/
def releaseDepth : Nat := 100000

/-- `cx_new_bool`. -/
def newBool (v : UInt64) : ImgM UInt64 := do
  let o ← allocObject Obj.bool
  if o != 0 then store64 (o + Obj.int) (if Arith.norm .i32 v == 0 then 0 else 1)
  pure o

/-- `cx_new_int`. -/
def newInt (v : UInt64) : ImgM UInt64 := do
  let o ← allocObject Obj.integer
  if o != 0 then store64 (o + Obj.int) v
  pure o

/-- `cx_new_uint`. -/
def newUint (v : UInt64) : ImgM UInt64 := do
  let o ← allocObject Obj.integer
  if o != 0 then
    store64 (o + Obj.int) v
    store32 (o + Obj.unsigned) 1
  pure o

/-- `cx_new_float`, from a double's bits. -/
def newFloat (v : UInt64) : ImgM UInt64 := do
  let o ← allocObject Obj.float
  if o != 0 then store64 (o + Obj.dbl) v
  pure o

/-- `cx_new_str` from octets. -/
def newStrBytes (s : List UInt8) : ImgM UInt64 := do
  let o ← allocObject Obj.string
  if o == 0 then return 0
  let p ← newCString s
  if p == 0 then
    raise "cx_memory_error_s" (bytes "out of memory")
    return 0
  store64 (o + Obj.str) p
  store64 (o + Obj.count) s.length.toUInt64
  pure o

/-- `cx_new_str`: a null string reads as empty. -/
def newStr (p : UInt64) : ImgM UInt64 := do
  newStrBytes (← if p == 0 then pure [] else cString p)

/-- `cx_new_tuple`. -/
def newTuple (n : UInt64) : ImgM UInt64 := do
  let o ← allocObject Obj.tuple
  if o == 0 then return 0
  let cnt := n.toInt64.toInt
  let slots := if cnt > 0 then cnt.toNat else 1
  let items ← alloc (8 * slots)
  if items == 0 then
    raise "cx_memory_error_s" (bytes "out of memory")
    return 0
  store64 (o + Obj.items) items
  store64 (o + Obj.count) n
  pure o

/-- Whether a tuple index is in range for an object. -/
def tupleIndexOk (t : UInt64) (i : UInt64) : ImgM Bool := do
  if t == 0 then return false
  if (← load32 (t + Obj.kind)) != Obj.tuple then return false
  let n := (← load64 (t + Obj.count)).toInt64.toInt
  let i := i.toInt64.toInt
  pure (0 ≤ i ∧ i < n)

/-- `cx_tuple_set`: steals the item's reference; 0, or minus one on a bad index. -/
def tupleSet (t i item : UInt64) : ImgM UInt64 := do
  if !(← tupleIndexOk t i) then
    decref releaseDepth item
    raise "cx_value_error_s" (bytes "tuple index out of range")
    return Arith.norm .i32 0xFFFFFFFFFFFFFFFF
  let slot := (← load64 (t + Obj.items)) + 8 * i
  decref releaseDepth (← load64 slot)
  store64 slot item
  pure 0

/-- `cx_tuple_get`: a borrowed item, or null. -/
def tupleGet (t i : UInt64) : ImgM UInt64 := do
  if !(← tupleIndexOk t i) then return 0
  load64 ((← load64 (t + Obj.items)) + 8 * i)

/-- `cx_tuple_size`: minus one for what is not a tuple. -/
def tupleSize (t : UInt64) : ImgM UInt64 := do
  if t == 0 then return 0xFFFFFFFFFFFFFFFF
  if (← load32 (t + Obj.kind)) != Obj.tuple then return 0xFFFFFFFFFFFFFFFF
  load64 (t + Obj.count)

/-- `cx_new_callable`. -/
def newCallable (call handle : UInt64) : ImgM UInt64 := do
  let o ← allocObject Obj.callable
  if o != 0 then
    store64 (o + Obj.call) call
    store64 (o + Obj.handle) handle
  pure o

/-- `cx_err_new_exception`: a null name reads as `error`. -/
def newException (name : UInt64) : ImgM UInt64 := do
  let o ← allocObject Obj.error
  if o == 0 then return 0
  let s ← if name == 0 then pure (bytes "error") else cString name
  store64 (o + Obj.str) (← newCString s)
  pure o

/-- `cx_as_int`: floats truncate. -/
def asInt (o : UInt64) : ImgM UInt64 := do
  if o == 0 then return 0
  if (← load32 (o + Obj.kind)) == Obj.float then
    pure (Arith.convNarrow .f64 .i64 (← load64 (o + Obj.dbl)))
  else load64 (o + Obj.int)

/-- `cx_int_is_unsigned`. -/
def isUnsigned (o : UInt64) : ImgM UInt64 := do
  if o == 0 then return 0
  if (← load32 (o + Obj.kind)) != Obj.integer then return 0
  pure (if (← load32 (o + Obj.unsigned)) != 0 then 1 else 0)

/-- `cx_as_float`, as a double's bits. -/
def asFloat (o : UInt64) : ImgM UInt64 := do
  if o == 0 then return 0
  let k ← load32 (o + Obj.kind)
  if k == Obj.integer && (← load32 (o + Obj.unsigned)) != 0 then
    pure (Arith.convNarrow .u64 .f64 (← load64 (o + Obj.int)))
  else if k == Obj.integer || k == Obj.bool then
    pure (Arith.convNarrow .i64 .f64 (← load64 (o + Obj.int)))
  else load64 (o + Obj.dbl)

/-- `cx_as_str`: the object's string, or an empty one. -/
def asStr (o : UInt64) : ImgM UInt64 := do
  if o == 0 then return (← get).empty
  let s ← load64 (o + Obj.str)
  if s == 0 then pure (← get).empty else pure s

/-- `cx_callable_check`. -/
def callableCheck (o : UInt64) : ImgM Bool := do
  if o == 0 then return false
  if (← load32 (o + Obj.kind)) != Obj.callable then return false
  pure ((← load64 (o + Obj.call)) != 0)

/-- `cx_callable_handle`. -/
def callableHandle (o : UInt64) : ImgM UInt64 := do
  if ← callableCheck o then load64 (o + Obj.handle) else pure 0

/-- `cx_truthy`: reads the object, so null is a bad address. -/
def truthy (o : UInt64) : ImgM Bool := do
  let k ← load32 (o + Obj.kind)
  if k == Obj.none then pure false
  else if k == Obj.bool || k == Obj.integer then pure ((← load64 (o + Obj.int)) != 0)
  else if k == Obj.float then pure (Arith.truth .f64 (← load64 (o + Obj.dbl)))
  else if k == Obj.string || k == Obj.tuple then pure ((← load64 (o + Obj.count)).toInt64 > 0)
  else pure true

/-! ## Format strings -/

/-- The codes of a format: the octets before a colon. -/
def formatCodes (fmt : List UInt8) : List UInt8 := fmt.takeWhile (· != 58)

/-- The function name of a format: what follows its colon, else `function`. -/
def formatName (fmt : List UInt8) : List UInt8 :=
  match fmt.dropWhile (· != 58) with
  | _ :: rest => rest
  | [] => bytes "function"

/-- Build one value of a format code: `cx_build_one`. -/
def buildOne (code : UInt8) (va : VaList) : ImgM (UInt64 × VaList) := do
  let c := Char.ofNat code.toNat
  if c == 'p' then
    let (v, va) := va.nextInt
    pure (← newBool (Arith.norm .i32 v), va)
  else if c == 'c' then
    let (v, va) := va.nextInt
    let ch := UInt8.ofNat v.toNat
    pure (← newStrBytes (if ch == 0 then [] else [ch]), va)
  else if c == 'h' || c == 'i' || c == 'b' || c == 'H' then
    let (v, va) := va.nextInt
    pure (← newInt (Arith.norm .i32 v), va)
  else if c == 'I' then
    let (v, va) := va.nextInt
    pure (← newInt (Arith.norm .u32 v), va)
  else if c == 'l' || c == 'L' || c == 'n' then
    let (v, va) := va.nextInt
    pure (← newInt v, va)
  else if c == 'k' || c == 'K' then
    let (v, va) := va.nextInt
    pure (← newUint v, va)
  else if c == 'f' || c == 'd' then
    let (v, va) := va.nextDouble
    pure (← newFloat v, va)
  else if c == 's' then
    let (p, va) := va.nextInt
    if p == 0 then pure (← globalAddr "cx_none_s", va) else pure (← newStr p, va)
  else if c == 'O' then
    let (o, va) := va.nextInt
    if o == 0 then
      if !(← errorSet) then
        raise "cx_runtime_error_s" (bytes "NULL object passed to cx_build_value")
      pure (0, va)
    else
      incref o
      pure (o, va)
  else
    raise "cx_runtime_error_s" (bytes "bad format char '" ++ [code] ++ bytes "'")
    pure (0, va)

/-- Build a value from a format: `cx_vbuild`. -/
def vbuild (fmt : List UInt8) (va : VaList) (alwaysTuple : Bool) : ImgM UInt64 := do
  let codes := formatCodes fmt
  if !alwaysTuple then
    match codes with
    | [] => return (← globalAddr "cx_none_s")
    | [c] => return (← buildOne c va).1
    | _ => pure ()
  let t ← newTuple codes.length.toUInt64
  if t == 0 then return 0
  let items ← load64 (t + Obj.items)
  let mut va := va
  for (c, i) in codes.zipIdx do
    let (item, va') ← buildOne c va
    va := va'
    if item == 0 then
      decref releaseDepth t
      return 0
    store64 (items + 8 * i.toUInt64) item
  pure t

/-- Read an integer argument: `cx_expect_int`. -/
def expectInt (o : UInt64) (fname : List UInt8) : ImgM (Option UInt64) := do
  let k ← load32 (o + Obj.kind)
  if k == Obj.integer || k == Obj.bool then pure (some (← load64 (o + Obj.int)))
  else
    raise "cx_type_error_s" (fname ++ bytes "() an integer is required")
    pure none

/-- Read a ranged integer argument: `cx_expect_range`. -/
def expectRange (o : UInt64) (lo hi : Int) (what : String) (fname : List UInt8) :
    ImgM (Option UInt64) := do
  match ← expectInt o fname with
  | none => pure none
  | some v =>
    let iv := v.toInt64.toInt
    let uns := (← load32 (o + Obj.kind)) == Obj.integer && (← load32 (o + Obj.unsigned)) != 0
    if (uns && iv < 0) || iv < lo || iv > hi then
      raise "cx_overflow_error_s" (fname ++ bytes "() " ++ bytes what ++ bytes " out of range")
      pure none
    else pure (some v)

/-- Read a floating argument as a double's bits: `cx_expect_float`. -/
def expectFloat (o : UInt64) (fname : List UInt8) : ImgM (Option UInt64) := do
  let k ← load32 (o + Obj.kind)
  if k == Obj.float then pure (some (← load64 (o + Obj.dbl)))
  else if k == Obj.integer || k == Obj.bool then
    pure (some (Arith.convNarrow .i64 .f64 (← load64 (o + Obj.int))))
  else
    raise "cx_type_error_s" (fname ++ bytes "() a float is required")
    pure none

/-- The cases of `cx_parse_one`: what a format code reads and how it stores it. The integer
codes that check a C range differ only in the range, the text naming it and the width stored;
those that wrap differ only in the width. -/
inductive ParseCode where
  /-- `p`: any object, stored as its truth. -/
  | truth
  /-- `c`: a string of one octet, or an integer, stored as a char. -/
  | char
  /-- `h i l L n`: an integer or bool within a C range. -/
  | ranged (lo hi : Int) (what : String) (k : NumKind)
  /-- `b`: an integer or bool from 0 to 255. -/
  | byte
  /-- `H I k K`: any integer or bool, wrapped to a width. -/
  | wrapping (k : NumKind)
  /-- `f`: a float, integer or bool, stored as a float. -/
  | single
  /-- `d`: a float, integer or bool, stored as a double. -/
  | double
  /-- `s`: a string, stored as its characters' address. -/
  | string
  /-- `O`: any object, stored as its address. -/
  | object
  deriving DecidableEq, Repr

/-- The case of a format code, none for a character that is not one. -/
def ParseCode.of (code : UInt8) : Option ParseCode :=
  match Char.ofNat code.toNat with
  | 'p' => some .truth
  | 'c' => some .char
  | 'h' => some (.ranged (-32768) 32767 "signed short integer" .i16)
  | 'i' => some (.ranged (-2147483648) 2147483647 "signed integer" .i32)
  | 'l' => some (.ranged (-9223372036854775808) 9223372036854775807 "signed long integer" .i64)
  | 'L' =>
    some (.ranged (-9223372036854775808) 9223372036854775807 "signed long long integer" .i64)
  | 'n' => some (.ranged (-9223372036854775808) 9223372036854775807 "size" .i64)
  | 'b' => some .byte
  | 'H' => some (.wrapping .u16)
  | 'I' => some (.wrapping .u32)
  | 'k' | 'K' => some (.wrapping .u64)
  | 'f' => some .single
  | 'd' => some .double
  | 's' => some .string
  | 'O' => some .object
  | _ => none

/-- Read an item by a case of format code and store it at `out`: whether it was stored. -/
def parseAs (item out : UInt64) (fname : List UInt8) : ParseCode → ImgM Bool
  | .truth => do
    store .u8 out (if ← truthy item then 1 else 0)
    pure true
  | .char => do
    let k ← load32 (item + Obj.kind)
    if k == Obj.string && (← load64 (item + Obj.count)) == 1 then
      let s ← load64 (item + Obj.str)
      store .i8 out (← load .i8 s)
      pure true
    else if k == Obj.integer then
      store .i8 out (← load64 (item + Obj.int))
      pure true
    else
      raise "cx_type_error_s" (fname ++ bytes "() a character is required")
      pure false
  | .ranged lo hi what k => do
    match ← expectRange item lo hi what fname with
    | some v => store k out v; pure true
    | none => pure false
  | .byte => do
    match ← expectInt item fname with
    | none => pure false
    | some v =>
      let uns := (← load32 (item + Obj.kind)) == Obj.integer && (← load32 (item + Obj.unsigned)) != 0
      let bad := if uns then v.toNat > 255 else (v.toInt64.toInt < 0 || v.toInt64.toInt > 255)
      if bad then
        raise "cx_value_error_s" (fname ++ bytes "() unsigned byte integer out of range")
        pure false
      else
        store .u8 out v
        pure true
  | .wrapping k => do
    match ← expectInt item fname with
    | some v => store k out v; pure true
    | none => pure false
  | .single => do
    match ← expectFloat item fname with
    | some d => store .f32 out (Arith.convNarrow .f64 .f32 d); pure true
    | none => pure false
  | .double => do
    match ← expectFloat item fname with
    | some d => store .f64 out d; pure true
    | none => pure false
  | .string => do
    if (← load32 (item + Obj.kind)) != Obj.string then
      raise "cx_type_error_s" (fname ++ bytes "() a string is required")
      pure false
    else
      store64 out (← load64 (item + Obj.str))
      pure true
  | .object => do
    store64 out item
    pure true

/-- Store one parsed argument through the next pointer: `cx_parse_one`. -/
def parseOne (item : UInt64) (code : UInt8) (va : VaList) (fname : List UInt8) :
    ImgM (Bool × VaList) := do
  let (out, va) := va.nextInt
  match ParseCode.of code with
  | some pc => pure (← parseAs item out fname pc, va)
  | none =>
    raise "cx_runtime_error_s" (fname ++ bytes "() bad format char '" ++ [code] ++ bytes "'")
    pure (false, va)

/-- Parse the items of a tuple from index `i` on, one code each, stopping at the first that is
refused: whether all were stored. -/
def parseItems (items : UInt64) (fname : List UInt8) : List UInt8 → Nat → VaList → ImgM Bool
  | [], _, _ => pure true
  | c :: codes, i, va => do
    let item ← load64 (items + 8 * i.toUInt64)
    let (ok, va) ← parseOne item c va fname
    if ok then parseItems items fname codes (i + 1) va else pure false

/-- Whether an argument list is a tuple; null is not. -/
def isTupleArg (args : UInt64) : ImgM Bool := do
  if args == 0 then pure false else pure ((← load32 (args + Obj.kind)) == Obj.tuple)

/-- `cx_parse_tuple`: 1 when every argument was stored, else 0 with the error set. -/
def parseTuple (args : UInt64) (fmt : List UInt8) (va : VaList) : ImgM UInt64 := do
  let fname := formatName fmt
  let codes := formatCodes fmt
  if !(← isTupleArg args) then
    raise "cx_type_error_s" (fname ++ bytes "() argument list must be a tuple")
    return 0
  let n := (← load64 (args + Obj.count)).toInt64.toInt
  if n != codes.length then
    raise "cx_type_error_s" (fname ++ bytes "() takes exactly " ++ bytes (toString codes.length) ++
      bytes " arguments (" ++ bytes (toString n) ++ bytes " given)")
    return 0
  let items ← load64 (args + Obj.items)
  if ← parseItems items fname codes 0 va then pure 1 else pure 0

/-! ## Modules -/

/-- `cx_module_create`. -/
def moduleCreate (defn : UInt64) : ImgM UInt64 := do
  let m ← alloc ModuleLayout.size
  if m == 0 then
    raise "cx_memory_error_s" (bytes "out of memory")
    return 0
  store32 (m + Obj.kind) Obj.module
  store64 (m + Obj.refcnt) 0xFFFFFFFFFFFFFFFF
  store64 (m + ModuleLayout.defn) defn
  pure m

/-- `cx_module_add_error`. -/
def moduleAddError (m e : UInt64) : ImgM UInt64 := do
  if m == 0 || e == 0 then return 0xFFFFFFFFFFFFFFFF
  store64 (m + ModuleLayout.error) e
  pure 0

/-- `cx_module_set_revision`. -/
def moduleSetRevision (m rev : UInt64) : ImgM PUnit := do
  store64 (m + ModuleLayout.revision) rev
  store32 (m + ModuleLayout.hasRevision) 1

/-- The method entry of a name: `cx_module_find`, null when there is none. -/
def moduleFind (m : UInt64) (name : List UInt8) : ImgM UInt64 := do
  if m == 0 then return 0
  let defn ← load64 (m + ModuleLayout.defn)
  if defn == 0 then return 0
  let methods ← load64 (defn + ModuleLayout.methods)
  if methods == 0 then return 0
  let rec scan : Nat → UInt64 → ImgM UInt64
    | 0, _ => pure 0
    | fuel + 1, entry => do
      let n ← load64 entry
      if n == 0 then return 0
      if (← cString n) == name then return entry
      scan fuel (entry + ModuleLayout.methodSize)
  scan 1000000 methods

/-- `cx_module_lookup`: the function of a method, or null. -/
def moduleLookup (m : UInt64) (name : List UInt8) : ImgM UInt64 := do
  let e ← moduleFind m name
  if e == 0 then pure 0 else load64 (e + ModuleLayout.methodFn)

/-- `cx_module_method_flags`: minus one when there is no such method. -/
def moduleMethodFlags (m : UInt64) (name : List UInt8) : ImgM UInt64 := do
  let e ← moduleFind m name
  if e == 0 then pure 0xFFFFFFFFFFFFFFFF else load32 (e + ModuleLayout.methodFlags)

/-- `cx_module_method_doc`: the doc, or an empty string. -/
def moduleMethodDoc (m : UInt64) (name : List UInt8) : ImgM UInt64 := do
  let e ← moduleFind m name
  if e == 0 then return (← get).empty
  let d ← load64 (e + ModuleLayout.methodDoc)
  if d == 0 then pure (← get).empty else pure d

/-- `cx_module_name`. -/
def moduleName (m : UInt64) : ImgM UInt64 := do
  if m == 0 then return (← get).empty
  let defn ← load64 (m + ModuleLayout.defn)
  if defn == 0 then return (← get).empty
  load64 defn

/-- `cx_module_error_name`. -/
def moduleErrorName (m : UInt64) : ImgM UInt64 := do
  if m == 0 then return (← get).empty
  let e ← load64 (m + ModuleLayout.error)
  if e == 0 then return (← get).empty
  let s ← load64 (e + Obj.str)
  if s == 0 then pure (← get).empty else pure s

/-- `cx_module_has_revision`. -/
def moduleHasRevision (m : UInt64) : ImgM UInt64 := do
  if m == 0 then pure 0 else load32 (m + ModuleLayout.hasRevision)

/-- `cx_module_revision`. -/
def moduleRevision (m : UInt64) : ImgM UInt64 := do
  if m == 0 then pure 0 else load64 (m + ModuleLayout.revision)

/-- Call a provided function that calls nothing back. `none` when the name is not one. -/
def callLibrary (name : String) (args : List UInt64) (va : VaList) : ImgM (Option UInt64) := do
  let a := fun (i : Nat) => args.getD i 0
  match name with
  | "cx_err_set" => setError (a 0) (← if a 1 == 0 then pure [] else cString (a 1)); pure (some 0)
  | "cx_err_format" =>
    let fmt ← cString (a 1)
    let (out, _) ← liftMem (formatOctets (← get).mem fmt va)
    setError (a 0) out
    pure (some 0)
  | "cx_err_set_string" =>
    raise "cx_runtime_error_s" (← if a 0 == 0 then pure [] else cString (a 0)); pure (some 0)
  | "cx_err_occurred" => pure (some (← load32 (← globalAddr "cx_err_flag")))
  | "cx_err_message" => pure (some (← errorMessageAddr))
  | "cx_err_name" => pure (some (← errorNameAddr))
  | "cx_err_clear" => clearError; pure (some 0)
  | "cx_incref" => incref (a 0); pure (some 0)
  | "cx_decref" => decref releaseDepth (a 0); pure (some 0)
  | "cx_strdup" => pure (some (← newCString (← cString (a 0))))
  | "cx_alloc" => pure (some (← allocObject (a 0)))
  | "cx_none" => pure (some (← globalAddr "cx_none_s"))
  | "cx_new_bool" => pure (some (← newBool (a 0)))
  | "cx_new_int" => pure (some (← newInt (a 0)))
  | "cx_new_uint" => pure (some (← newUint (a 0)))
  | "cx_new_float" => pure (some (← newFloat (a 0)))
  | "cx_new_str" => pure (some (← newStr (a 0)))
  | "cx_new_tuple" => pure (some (← newTuple (a 0)))
  | "cx_tuple_set" => pure (some (← tupleSet (a 0) (a 1) (a 2)))
  | "cx_tuple_get" => pure (some (← tupleGet (a 0) (a 1)))
  | "cx_tuple_size" => pure (some (← tupleSize (a 0)))
  | "cx_new_callable" => pure (some (← newCallable (a 0) (a 1)))
  | "cx_err_new_exception" => pure (some (← newException (a 0)))
  | "cx_kind" => pure (some (← kindOf (a 0)))
  | "cx_as_int" => pure (some (← asInt (a 0)))
  | "cx_int_is_unsigned" => pure (some (← isUnsigned (a 0)))
  | "cx_as_float" => pure (some (← asFloat (a 0)))
  | "cx_as_str" => pure (some (← asStr (a 0)))
  | "cx_callable_check" => pure (some (if ← callableCheck (a 0) then 1 else 0))
  | "cx_callable_handle" => pure (some (← callableHandle (a 0)))
  | "cx_truthy" => pure (some (if ← truthy (a 0) then 1 else 0))
  | "cx_format_count" => pure (some (formatCodes (← cString (a 0))).length.toUInt64)
  | "cx_format_name" =>
    let fmt ← cString (a 0)
    match fmt.findIdx? (· == 58) with
    | some i => pure (some (a 0 + i.toUInt64 + 1))
    | none => pure (some (← newCString (bytes "function")))
  | "cx_build_value" => pure (some (← vbuild (← cString (a 0)) va false))
  | "cx_build_tuple" => pure (some (← vbuild (← cString (a 0)) va true))
  | "cx_parse_tuple" => pure (some (← parseTuple (a 0) (← cString (a 1)) va))
  | "cx_module_create" => pure (some (← moduleCreate (a 0)))
  | "cx_module_add_error" => pure (some (← moduleAddError (a 0) (a 1)))
  | "cx_module_free" => pure (some 0)
  | "cx_module_set_revision" => moduleSetRevision (a 0) (a 1); pure (some 0)
  | "cx_module_find" =>
    if a 1 == 0 then pure (some 0) else pure (some (← moduleFind (a 0) (← cString (a 1))))
  | "cx_module_lookup" =>
    if a 1 == 0 then pure (some 0) else pure (some (← moduleLookup (a 0) (← cString (a 1))))
  | "cx_module_method_flags" =>
    if a 1 == 0 then pure (some 0xFFFFFFFFFFFFFFFF)
    else pure (some (← moduleMethodFlags (a 0) (← cString (a 1))))
  | "cx_module_method_doc" =>
    if a 1 == 0 then pure (some (← get).empty)
    else pure (some (← moduleMethodDoc (a 0) (← cString (a 1))))
  | "cx_module_name" => pure (some (← moduleName (a 0)))
  | "cx_module_error_name" => pure (some (← moduleErrorName (a 0)))
  | "cx_module_has_revision" => pure (some (← moduleHasRevision (a 0)))
  | "cx_module_revision" => pure (some (← moduleRevision (a 0)))
  | _ => Standard.callFunction name args va

end Objects

end InlineC.Machine
