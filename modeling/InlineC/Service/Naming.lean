import InlineC.Service.Decode
import InlineC.Assembly.Names
import InlineC.Hash.Blake2b
import InlineC.Text.CLiteral

/-!
# Requests about types and names

The type table, keywords, identifiers, generated names, text escapes and fingerprints.
-/

namespace InlineC.Service

open Document

/-- A type table row as a record. -/
def entryDoc (e : TypeEntry) : Document :=
  .record [("name", .str e.name), ("decl", .str e.decl), ("format", .str e.format)]

/-- The whole table and the keywords. -/
def answerEntries : Document :=
  .record [("entries", .list (typeTable.map entryDoc)), ("reserved", strings keywords)]

/-- Everything the table says about one type name. -/
def answerType (name : String) : Document :=
  let entry := match TypeTable.lookup? name with
    | some e => [("entry", entryDoc e)]
    | none => []
  .record ([("found", .bool (TypeTable.lookup? name).isSome)] ++ entry ++
    [("to_declaration", outcome .str (TypeTable.declaration name)),
     ("to_format", outcome (fun c => .str c.toChar.toString) (TypeTable.code name)),
     ("is_object", .bool (TypeTable.isObject name)),
     ("is_void", .bool (TypeTable.isVoid name))])

/-- Declarations, codes and format string of a list of type names. -/
def answerTypes (names : List String) : Document :=
  .record [("declarations", outcome strings (TypeTable.declarations names)),
    ("formats", outcome (fun cs => strings (cs.map (·.toChar.toString))) (TypeTable.codes names)),
    ("format_string", outcome .str (TypeTable.formatString names))]

/-- A value answer. -/
def valueDoc (s : String) : Document := .record [("value", .str s)]

/-- Answer one of the requests about types and names, when the operation is one of them. -/
def answerNaming (op : String) (req : Document) : Option Document :=
  match op with
  | "entries" => some answerEntries
  | "type" => some (answerType (req.text "name"))
  | "types" => some (answerTypes ((req.texts? "names").getD []))
  | "reserved" => some (.record [("reserved", .bool (isKeyword (req.text "name")))])
  | "pointer" => some (valueDoc (TypeTable.pointer (req.text "decl")))
  | "generate_names" =>
    some (match (req.given? "count").bind asInt? with
      | some n => outcome (fun ns => .record [("names", strings ns)])
          (Identifier.generate n ((req.texts? "exclude").getD []))
      | none => badInput "count must be an integer")
  | "validate_identifier" =>
    some (outcome (fun _ => okAnswer) (Identifier.validate (req.text "name")))
  | "capitalize" => some (valueDoc (Text.capitalize (req.text "s")))
  | "escape" => some (valueDoc (Text.CLiteral.escape (req.text "s")))
  | "quote" => some (valueDoc (Text.CLiteral.quote (req.text "s")))
  | "init_symbol" => some (valueDoc (Assembly.initSymbol (req.text "name")))
  | "fingerprint" =>
    some (.record [("revision", int (Blake2b.fingerprint (Utf8.ofString (req.text "source"))))])
  | "kind_string" =>
    some (match (req.given? "kind").bind asInt? with
      | some n => valueDoc (DeclKind.describe n)
      | none => badInput "kind must be an integer")
  | _ => none

end InlineC.Service
