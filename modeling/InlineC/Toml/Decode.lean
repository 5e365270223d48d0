import InlineC.Toml.Parse
import InlineC.Toml.Seen
import InlineC.Toml.Number
import InlineC.Toml.Date
import InlineC.Toml.Excerpt
import InlineC.Text.Case

/-!
# Decoding TOML into records

A document is decoded against a record type. Its fields are strings, lists of strings, or
lists of records of another record type. Field names match keys exactly, or after the key
is lowered. A key that names no field is reported, with the lines around it, once the whole
document has decoded. A table header that names no field is reported in the same way, and
the key-value pairs under it are passed over.

Expressions are decoded in order, each after the redefinition check, so the first error of
the document decides. A syntax error counts only once the expressions before it have
decoded. A value that does not fit its field fails with the message of the decoder this
one follows. That message names the field when the value is the field's own, or an item of
a list of strings. Inside a list of records, the fields of an earlier item clear that name,
and a later item that is no inline table is reported against the record type alone.

Some shapes make that decoder stop without an error value: a dotted key into a field that
is no record, or a header through an empty list. These are reported as panics with its
message.
-/

namespace InlineC.Toml

/-- The type a field decodes into. -/
inductive Target where
  | text
  | texts
  /-- A list of records: the record type's name, and its fields, each with its key, its
  field name and its type. -/
  | records (name : String) (fields : List (String × String × Target))

/-- A record type: its name, and its fields with their keys, field names and types. -/
structure RecordType where
  name : String
  fields : List (String × String × Target)

/-- The name of a field type in messages. -/
def Target.typeName : Target → String
  | .text => "string"
  | .texts => "[]string"
  | .records n _ => "[]" ++ n

/-- The kind of a field type in messages. -/
def Target.kindName : Target → String
  | .text => "string"
  | _ => "slice"

/-- A decoded value. A list that no key set is absent, which differs from an empty one. -/
inductive Data where
  | text (s : String)
  | texts (items : Option (List String))
  | records (rows : Option (List (List (String × Data))))

/-- A decoded record: the values of the fields keys set, by field key. -/
abbrev Record := List (String × Data)

/-- The value of a field no key set. -/
def Target.empty : Target → Data
  | .text => .text ""
  | .texts => .texts none
  | .records _ _ => .records none

/-- The value of a field of a record. -/
def Record.get (r : Record) (key : String) (t : Target) : Data := (r.lookup key).getD t.empty

/-- Set the value of a field of a record. -/
def Record.set (r : Record) (key : String) (d : Data) : Record :=
  (key, d) :: r.filter (·.1 != key)

/-- The field a key names: exactly, or once the key is lowered. -/
def RecordType.field? (ty : RecordType) (name : Bytes) : Option (String × String × Target) :=
  let s := Utf8.toStringLossy name
  match ty.fields.find? (·.1 == s) with
  | some f => some f
  | none => ty.fields.find? (·.1 == String.map Text.toLower s)

/-- The record type of the records at a path of field keys. -/
def RecordType.at? (ty : RecordType) : List String → Option RecordType
  | [] => some ty
  | k :: ks =>
    match ty.fields.find? (·.1 == k) with
    | some (_, _, .records name fields) => RecordType.at? ⟨name, fields⟩ ks
    | _ => none

/-- Where the key-value pairs after a header go. -/
inductive Place where
  /-- Into a record: the one reached from the root by taking, for each field key of the
  path, the last record of that field's list. -/
  | record (path : List String)
  /-- Into a header that named a string. -/
  | scalar

/-- A place one field further from the root. -/
def Place.under (k : String) : Place → Place
  | .record path => .record (k :: path)
  | .scalar => .scalar

/-- Why decoding failed. -/
inductive Failure where
  /-- An error at a stretch of the document. -/
  | located (err : Located)
  /-- An error without a place. -/
  | plain (message : String)
  /-- The decoder stopped with a panic. -/
  | panic (message : String)

/-- What the decoder keeps: the record decoded so far, the place key-value pairs go to, the
keys defined, the field a value is being decoded into, the keys that named no field, and
whether pairs are being passed over. -/
structure DecodeState where
  root : Record := []
  place : Place := .record []
  seen : Seen := {}
  context : Option String := none
  missing : List Located := []
  skipping : Bool := false

/-- The decoder's monad. -/
abbrev DecodeM := StateT DecodeState (Except Failure)

/-- Fail at a stretch of the document. -/
def failAt {α : Type} (sp : Span) (msg : String) : DecodeM α := throw (.located ⟨sp, msg⟩)

/-- The message of a value of one TOML type that a Go type cannot take, naming the field
being decoded when there is one. -/
def mismatch (toml target : String) : DecodeM String := do
  match (← get).context with
  | some field => pure ("cannot decode TOML " ++ toml ++ " into " ++ field)
  | none => pure ("cannot decode TOML " ++ toml ++ " into a Go value of type " ++ target)

/-- Take an error of a number check into the decoder. -/
def located {α : Type} : Except Located α → DecodeM α
  | .ok a => pure a
  | .error e => throw (.located e)

/-- The Go type a date or time value has. -/
def DateForm.typeName : DateForm → String
  | .offsetDateTime => "time.Time"
  | .localDateTime => "toml.LocalDateTime"
  | .localDate => "toml.LocalDate"
  | .localTime => "toml.LocalTime"

/-- Refuse a value for a target that cannot take it, whose Go type and kind are given. -/
def refuse {α : Type} (v : Value) (typeName kindName : String) : DecodeM α := do
  match v with
  | .string _ sp => failAt sp (← mismatch "string" typeName)
  | .integer t sp =>
    let _ ← located (checkInteger t sp.start)
    failAt sp (← mismatch "integer" typeName)
  | .float t sp =>
    let _ ← located (checkFloat t sp.start)
    failAt sp ("float cannot be assigned to " ++ kindName)
  | .bool b sp => failAt sp ("cannot assign boolean to a " ++ (if b then "true" else "false"))
  | .dateTime f t sp => do
    located (checkDateTime f t sp.start)
    throw (.panic ("reflect.Set: value of type " ++ f.typeName ++ " is not assignable to type " ++
      typeName))
  | .array _ => throw (.plain ("toml: " ++ (← mismatch "array" typeName)))
  | .inlineTable _ sp => failAt sp ("cannot store inline table in Go type " ++ kindName)

/-- Decode a value into a string. -/
def intoText (v : Value) : DecodeM String :=
  match v with
  | .string t _ => pure (Utf8.toStringLossy t)
  | other => refuse other "string" "string"

/-- Set the field being decoded into. -/
def setContext (c : Option String) : DecodeM Unit := modify fun s => { s with context := c }

/-- The description of a field in messages. -/
def fieldContext (ty : RecordType) (fieldName : String) (t : Target) : String :=
  "struct field " ++ ty.name ++ "." ++ fieldName ++ " of type " ++ t.typeName

mutual

/-- Decode a value into a field of a type. -/
def intoField : Nat → Target → Value → DecodeM Data
  | 0, _, _ => throw (.panic "value nested too deeply")
  | _, .text, v => do pure (.text (← intoText v))
  | _, .texts, v =>
    match v with
    | .array items => do pure (.texts (some (← items.mapM intoText)))
    | other => refuse other "[]string" "slice"
  | fuel + 1, .records name fields, v =>
    match v with
    | .array items => do pure (.records (some (← intoRows fuel ⟨name, fields⟩ items)))
    | other => refuse other ("[]" ++ name) "slice"

/-- Decode the items of an array into records. -/
def intoRows : Nat → RecordType → List Value → DecodeM (List Record)
  | 0, _, _ => throw (.panic "value nested too deeply")
  | _, _, [] => pure []
  | fuel + 1, ty, v :: rest => do
    let r ← intoRecord fuel ty v
    pure (r :: (← intoRows fuel ty rest))

/-- Decode a value into a record: it must be an inline table. -/
def intoRecord : Nat → RecordType → Value → DecodeM Record
  | 0, _, _ => throw (.panic "value nested too deeply")
  | fuel + 1, ty, v =>
    match v with
    | .inlineTable items _ => intoEntries fuel ty [] items
    | other => refuse other ty.name "struct"

/-- Decode key-value pairs into a record, in order. -/
def intoEntries : Nat → RecordType → Record → List (Key × Value) → DecodeM Record
  | 0, _, _, _ => throw (.panic "value nested too deeply")
  | _, _, r, [] => pure r
  | fuel + 1, ty, r, (k, v) :: rest => do
    let r ← pair fuel ty r k v
    intoEntries fuel ty r rest

/-- Decode a key-value pair into a record. A key naming no field is noted. -/
def pair : Nat → RecordType → Record → Key → Value → DecodeM Record
  | 0, _, _, _, _ => throw (.panic "value nested too deeply")
  | fuel + 1, ty, r, key, v => do
    let r ← decodeAt fuel ty r key v
    if (← get).skipping then
      modify fun s => { s with missing := s.missing ++ [⟨keySpan key, "missing field"⟩],
                               skipping := false }
    pure r

/-- Decode a value at a key into a record. -/
def decodeAt : Nat → RecordType → Record → Key → Value → DecodeM Record
  | 0, _, _, _, _ => throw (.panic "value nested too deeply")
  | _, _, r, [], _ => pure r
  | fuel + 1, ty, r, p :: more, v =>
    match ty.field? p.name with
    | none => do
      modify fun s => { s with skipping := true }
      pure r
    | some (k, fieldName, target) => do
      setContext (some (fieldContext ty fieldName target))
      if !more.isEmpty then throw (.panic ("unhandled kv part: " ++ target.kindName))
      let d ← intoField fuel target v
      setContext none
      pure (r.set k d)

end

/-- The records of a list field, none when no key set it. -/
def rowsOf (r : Record) (k : String) : List Record :=
  match r.lookup k with
  | some (.records (some rows)) => rows
  | _ => []

/-- The strings of a list field, none when no key set it. -/
def textsOf (r : Record) (k : String) : List String :=
  match r.lookup k with
  | some (.texts (some items)) => items
  | _ => []

/-- Note that pairs are passed over until the next header. -/
def startSkipping : DecodeM Unit := modify fun s => { s with skipping := true }

/-- Follow a table header's key through a record: gives the changed record and where the
pairs after the header go. A list on the way must have a record to enter, its last. -/
def tableHeader : RecordType → Record → List KeyPart → DecodeM (Record × Place)
  | _, r, [] => pure (r, .record [])
  | ty, r, p :: more =>
    match ty.field? p.name with
    | none => do startSkipping; pure (r, .record [])
    | some (k, fieldName, target) => do
      setContext (some (fieldContext ty fieldName target))
      match target with
      | .records name fields =>
        match (rowsOf r k).getLast? with
        | none => failAt p.span "cannot store a table in a slice"
        | some last =>
          let (last, place) ← tableHeader ⟨name, fields⟩ last more
          if (← get).skipping then return (r, place)
          setContext none
          pure (r.set k (.records (some ((rowsOf r k).dropLast ++ [last]))), place.under k)
      | .texts =>
        if (textsOf r k).isEmpty then failAt p.span "cannot store a table in a slice"
        else if !more.isEmpty then throw (.panic "unhandled part: string")
        else do setContext none; pure (r, .scalar)
      | .text =>
        if !more.isEmpty then throw (.panic "unhandled part: string")
        else do setContext none; pure (r, .scalar)
termination_by _ _ ps => ps.length

/-- Follow an array-table header's key through a record: its last part gets a fresh item,
after clearing the list when the header is new. Gives the changed record and where the
pairs after the header go. -/
def arrayHeader (fresh : Bool) : RecordType → Record → List KeyPart → DecodeM (Record × Place)
  | _, r, [] => pure (r, .record [])
  | ty, r, p :: more =>
    match ty.field? p.name with
    | none => do startSkipping; pure (r, .record [])
    | some (k, fieldName, target) => do
      setContext (some (fieldContext ty fieldName target))
      if more.isEmpty then
        match target with
        | .records _ _ =>
          let rows := if fresh then [] else rowsOf r k
          setContext none
          pure (r.set k (.records (some (rows ++ [[]]))), .record [k])
        | .texts =>
          let items := if fresh then [] else textsOf r k
          setContext none
          pure (r.set k (.texts (some (items ++ [""]))), .scalar)
        | .text => throw (.plain ("toml: " ++ (← mismatch "array table" "string")))
      else
        match target with
        | .records name fields =>
          match (rowsOf r k).getLast? with
          | none => throw (.panic "reflect: slice index out of range")
          | some last =>
            let (last, place) ← arrayHeader fresh ⟨name, fields⟩ last more
            if (← get).skipping then return (r, place)
            setContext none
            pure (r.set k (.records (some ((rowsOf r k).dropLast ++ [last]))), place.under k)
        | .texts =>
          if (textsOf r k).isEmpty then throw (.panic "reflect: slice index out of range")
          else throw (.panic "unhandled part: string")
        | .text => throw (.panic "unhandled part: string")
termination_by _ _ ps => ps.length

/-- Change the record at a path of field keys, the last of each list on the way. -/
def atPath (f : Record → DecodeM Record) : List String → Record → DecodeM Record
  | [], r => f r
  | k :: ks, r =>
    match (rowsOf r k).getLast? with
    | none => pure r
    | some last => do
      let last ← atPath f ks last
      pure (r.set k (.records (some ((rowsOf r k).dropLast ++ [last]))))

/-- Decode one top-level expression. -/
def topExpression (fuel : Nat) (ty : RecordType) (e : Expr) : DecodeM Unit := do
  let st ← get
  let isPair := match e with
    | .keyValue _ _ => true
    | _ => false
  let fresh ← if st.skipping && isPair then pure false
    else match st.seen.check e with
      | .error m => throw (.plain m)
      | .ok (seen, fresh) => do modify (fun s => { s with seen }); pure fresh
  match e with
  | .keyValue k v =>
    if st.skipping then return
    match st.place with
    | .scalar => throw (.panic "unhandled kv part: string")
    | .record path =>
      match ty.at? path with
      | none => pure ()
      | some inner =>
        let root ← atPath (fun r => pair fuel inner r k v) path st.root
        modify fun s => { s with root }
  | .table k =>
    modify fun s => { s with skipping := false }
    let (root, place) ← tableHeader ty st.root k
    modify fun s => { s with root, place }
    if (← get).skipping then
      modify fun s => { s with missing := s.missing ++ [⟨keySpan k, "missing table"⟩] }
  | .arrayTable k =>
    modify fun s => { s with skipping := false }
    let (root, place) ← arrayHeader fresh ty st.root k
    modify fun s => { s with root, place }
    if (← get).skipping then
      modify fun s => { s with missing := s.missing ++ [⟨keySpan k, "missing table"⟩] }

/-- Why a document does not decode. -/
inductive Problem where
  /-- An error at a line and column. -/
  | located (line column : Nat) (message : String)
  /-- An error without a place. -/
  | plain (message : String)
  /-- Keys that named no field, each with the lines around it. -/
  | unknownKeys (report : String)
  /-- The decoder stopped with a panic. -/
  | panic (message : String)

/-- A problem from a decoder failure. -/
def Failure.problem (doc : Bytes) : Failure → Problem
  | .located e =>
    let (line, column) := position doc e.span.start
    .located line column e.message
  | .plain m => .plain m
  | .panic m => .panic m

/-- Decode a document against a record type. -/
def decodeDocument (ty : RecordType) (doc : Bytes) : Except Problem Record :=
  let (exprs, syntaxError) := readDocument doc
  let fuel := doc.length + 1
  match (exprs.forM (topExpression fuel ty)).run {} with
  | .error f => .error (f.problem doc)
  | .ok ((), st) =>
    match syntaxError with
    | some e => .error ((Failure.located e).problem doc)
    | none =>
      if st.missing.isEmpty then .ok st.root
      else .error (.unknownKeys ("\n---\n".intercalate (st.missing.map (excerpt doc))))

end InlineC.Toml
