import InlineC.Service.Document
import InlineC.Host.Value

/-!
# Values in documents

How requests write the values handed to native code and callbacks, and how answers write
the values that come back.

Requests: `null`, truth values and strings stand for themselves; an integer is a signed
64-bit integer, or an unsigned one when only that range holds it; a number with a point or
an exponent is a double; a list is a tuple; `{"float": text}` and `{"f32": text}` read a
double or a single from text, infinities and NaN included; `{"uint": n}` is an unsigned
integer; `{"callback": spec}` a callback; `{"go": true}` a host value with no runtime
counterpart.

Answers: integers as numbers, unsigned integers as `{"uint": n}`, doubles as
`{"float": text}` with the shortest text that reads back, strings as text, tuples as
lists, callbacks as `{"callback": true}`.
-/

namespace InlineC.Service

open InlineC.Host

/-- The integer a number document holds. -/
def integerValue (t : String) : Except String HostValue :=
  match t.toInt? with
  | some i =>
    if -Int.pow 2 63 ≤ i ∧ i < Int.pow 2 63 then .ok (.int i)
    else if 0 ≤ i ∧ i < Int.pow 2 64 then .ok (.uint i.toNat)
    else .error ("integer out of range: " ++ t)
  | none => .error ("bad integer: " ++ t)

/-- The double a text reads as. -/
def doubleValue (t : String) : Except String HostValue :=
  match Binary64.read t with
  | some b => .ok (.float b.bits)
  | none => .error ("bad float: " ++ t)

mutual

/-- The host value a document writes, nested at most `fuel` deep. -/
def decodeValue : Nat → Document → Except String HostValue
  | 0, _ => .error "value nested too deeply"
  | fuel + 1, d =>
    match d with
    | .null => .ok .nil
    | .bool b => .ok (.bool b)
    | .str s => .ok (.str (Utf8.ofString s))
    | .octets b => .ok (.str b)
    | .number t => if Document.isIntegerText t then integerValue t else doubleValue t
    | .list items => do pure (.tuple (← decodeValues fuel items))
    | .record fs =>
      match fs with
      | [("float", .str t)] => doubleValue t
      | [("f32", .str t)] =>
        match Binary32.read t with
        | some b => .ok (.single b.bits)
        | none => .error ("bad float: " ++ t)
      | [("uint", .number t)] =>
        match t.toNat? with
        | some n => if n < Nat.pow 2 64 then .ok (.uint n) else .error ("uint out of range: " ++ t)
        | none => .error ("bad uint: " ++ t)
      | [("callback", spec)] => do pure (.callback (.plain (← decodeSpec fuel spec)))
      | [("go", _)] => .ok (.other "struct \x7b\x7d")
      | _ => .error "unknown value object"

/-- Host values of documents. -/
def decodeValues : Nat → List Document → Except String (List HostValue)
  | 0, _ => .error "value nested too deeply"
  | _, [] => .ok []
  | fuel + 1, d :: rest => do pure ((← decodeValue fuel d) :: (← decodeValues fuel rest))

/-- The callback behaviour a document names. -/
def decodeSpec : Nat → Document → Except String CallbackSpec
  | 0, _ => .error "value nested too deeply"
  | fuel + 1, d =>
    match d with
    | .str "echo" => .ok .echo
    | .str "null" => .ok .null
    | .str "len" => .ok .len
    | .str "types" => .ok .types
    | .str "sum" => .ok .sum
    | .str "sum_prod" => .ok .sumProd
    | .record fs =>
      match fs.lookup "prepare" with
      | some _ => do
        let add := match fs.lookup "add" with
          | some (.str s) => some s
          | _ => none
        let v ← match fs.lookup "return" with
          | some r => decodeValue fuel r
          | none => .ok .nil
        pure (.prepare add v)
      | none =>
        match fs with
        | [("return", r)] => do pure (.returns (← decodeValue fuel r))
        | [("error", .str s)] => .ok (.error s)
        | [("panic", .str s)] => .ok (.panic s)
        | [("wrap", w)] => do pure (.wrap (← decodeSpec fuel w))
        | _ => .error "unknown callback"
    | _ => .error "unknown callback"

end

/-- How deeply request values may nest. -/
def valueDepth : Nat := 10000

/-- The document of a host value. -/
def encodeValue : HostValue → Document
  | .nil => .null
  | .bool b => .bool b
  | .int i => .number (toString i)
  | .uint n => .record [("uint", .number (toString n))]
  | .float bits => .record [("float", .str (Binary64.format ⟨bits⟩))]
  | .single bits => .record [("float", .str (Binary64.format (Binary32.toBinary64 ⟨bits⟩)))]
  | .str s => .octets s
  | .tuple items => .list (items.map encodeValue)
  | .callback _ => .record [("callback", .bool true)]
  | .other t => .record [("go", .str t)]

end InlineC.Service
