import InlineC.Failure
import InlineC.Num.Decimal

/-!
# Host values

The values the host hands to native code and gets back: nothing, truth values, signed and
unsigned 64-bit integers, doubles and singles, strings (as octets), tuples, callbacks, and
values of other host types, which have no runtime counterpart.

A callback is host code native code can call. The callbacks here are fixed behaviours:
echoing the arguments, returning nothing, counting them, naming their types, summing them,
returning a given value or error, panicking, wrapping another callback's result in a
one-tuple, or preparing the extension before returning a value. A reverse function's
callback is one of those run through the adapter that shapes its result for the dispatch
code: no result for a function without returns, a tuple as it is, anything else in a
one-tuple.
-/

namespace InlineC.Host

mutual

/-- A host value. -/
inductive HostValue where
  | nil
  | bool (b : Bool)
  | int (i : Int)
  /-- An unsigned 64-bit integer. -/
  | uint (n : Nat)
  /-- A double, by its bits. -/
  | float (bits : UInt64)
  /-- A single, by its bits. -/
  | single (bits : UInt32)
  | str (s : List UInt8)
  | tuple (items : List HostValue)
  | callback (c : Callback)
  /-- A value of a host type with no runtime counterpart, by the type's name. -/
  | other (typeName : String)

/-- A callback native code can call. -/
inductive Callback where
  | plain (s : CallbackSpec)
  /-- A reverse function's callback, for a function declaring `returns` values. -/
  | reverse (returns : Nat) (s : CallbackSpec)

/-- What a callback does. -/
inductive CallbackSpec where
  | echo
  | null
  | len
  | types
  | sum
  | sumProd
  | returns (v : HostValue)
  | error (msg : String)
  | panic (msg : String)
  | wrap (inner : CallbackSpec)
  /-- Prepare the extension, optionally add a function and prepare again, then return. -/
  | prepare (add : Option String) (v : HostValue)

end

/-- The default host value is `nil`. -/
instance : Inhabited HostValue := ⟨.nil⟩

/-- How a host callback ends: with a value, an error, or a panic. -/
inductive Outcome where
  | value (v : HostValue)
  | error (r : FailureReport)
  | panic (msg : String)

namespace HostValue

/-- The host type name of a value. -/
def typeName : HostValue → String
  | .nil => "nil"
  | .bool _ => "bool"
  | .int _ => "int64"
  | .uint _ => "uint64"
  | .float _ => "float64"
  | .single _ => "float32"
  | .str _ => "string"
  | .tuple _ => "tuple"
  | .callback _ => "callback"
  | .other n => n

/-- The name conversion errors give a value's type. -/
def conversionTypeName : HostValue → String
  | .tuple _ => "loader.Tuple"
  | .callback _ => "loader.Callback"
  | v => v.typeName

/-- The arguments as a tuple, or a single value as a one-tuple. -/
def asArgs : HostValue → List HostValue
  | .tuple xs => xs
  | v => [v]

end HostValue

/-- Wrap a signed integer to 64 bits. -/
def wrap64 (i : Int) : Int :=
  let r := i % Int.pow 2 64
  if r ≥ Int.pow 2 63 then r - Int.pow 2 64 else r

/-- The `sum` callback: integers summed with wrapping, truth values as 0 or 1, unsigned
integers as their signed reading; any double makes the result a double, the doubles' sum
plus the integer sum. -/
def sumValues (args : List HostValue) : Outcome :=
  let step := fun (acc : Option (Int × Option Float × String)) (v : HostValue) =>
    match acc with
    | none => none
    | some (i, f, _) =>
      match v with
      | .int n => some (wrap64 (i + n), f, "")
      | .uint n => some (wrap64 (i + n), f, "")
      | .bool b => some (wrap64 (i + if b then 1 else 0), f, "")
      | .float bits => some (i, some ((f.getD 0) + Float.ofBits bits), "")
      | _ => none
  let firstBad := args.find? fun v =>
    match v with
    | .int _ | .uint _ | .bool _ | .float _ => false
    | _ => true
  match firstBad with
  | some v => .error (.plain ("sum: unsupported " ++ v.typeName))
  | none =>
    match args.foldl step (some (0, none, "")) with
    | some (i, some f, _) => .value (.float (f + (Binary64.ofInt i).toFloat).toBits)
    | some (i, none, _) => .value (.int i)
    | none => .error (.plain "sum: unsupported")

/-- The `sum_prod` callback: the sum and product of two integers, wrapping. -/
def sumProdValues (args : List HostValue) : Outcome :=
  match args with
  | [.int a, .int b] => .value (.tuple [.int (wrap64 (a + b)), .int (wrap64 (a * b))])
  | [_, _] => .error (.plain "sum_prod: integers required")
  | _ => .error (.plain ("sum_prod: want 2 arguments, got " ++ toString args.length))

end InlineC.Host
