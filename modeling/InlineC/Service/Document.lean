import InlineC.Failure

/-!
# Documents

The service reads requests and writes answers as documents: trees of records, lists, texts,
numbers, truth values and nulls. Numbers keep the text they were written with, so that an
integer is never confused with a fraction and no digit is lost. Texts read from a request
are strings; texts written into an answer are octets, since native code can produce octets
that are no UTF-8.
-/

namespace InlineC.Service

/-- A document tree. -/
inductive Document where
  | null
  | bool (b : Bool)
  /-- A number, as its decimal text. -/
  | number (text : String)
  | str (s : String)
  /-- Text as octets, which need not be UTF-8. -/
  | octets (b : Utf8.Octets)
  | list (items : List Document)
  | record (fields : List (String × Document))
  deriving Inhabited, Repr

namespace Document

/-- The value of a field of a record. -/
def field? (d : Document) (key : String) : Option Document :=
  match d with
  | .record fs => (fs.find? (·.1 = key)).map (·.2)
  | _ => none

/-- The value of a field, when it is present and not null. -/
def given? (d : Document) (key : String) : Option Document :=
  match d.field? key with
  | some .null => none
  | other => other

/-- A text. -/
def asString? : Document → Option String
  | .str s => some s
  | _ => none

/-- A truth value. -/
def asBool? : Document → Option Bool
  | .bool b => some b
  | _ => none

/-- A list. -/
def asList? : Document → Option (List Document)
  | .list xs => some xs
  | _ => none

/-- Whether a number is written as an integer: no point and no exponent. -/
def isIntegerText (t : String) : Bool := !t.toList.any (fun c => c == '.' || c == 'e' || c == 'E')

/-- An integer number. -/
def asInt? : Document → Option Int
  | .number t => if isIntegerText t then t.toInt? else none
  | _ => none

/-- A text field, empty when absent. -/
def text (d : Document) (key : String) : String :=
  ((d.given? key).bind asString?).getD ""

/-- A truth-value field, false when absent. -/
def flag (d : Document) (key : String) : Bool :=
  ((d.given? key).bind asBool?).getD false

/-- A list of texts, when the field holds one. -/
def texts? (d : Document) (key : String) : Option (List String) :=
  (d.given? key).bind fun v => v.asList?.bind fun xs => xs.mapM asString?

/-- A number written from an integer. -/
def int (n : Int) : Document := .number (toString n)

/-- A list of strings. -/
def strings (xs : List String) : Document := .list (xs.map .str)

end Document

end InlineC.Service
