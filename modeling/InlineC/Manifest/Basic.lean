import InlineC.Toml.Decode
import InlineC.Declaration.Basic
import InlineC.Failure
import InlineC.Text.Path
import InlineC.Text.Quoted

/-!
# Manifests

A manifest is a TOML file that names a module and lists its units in declaration order:

```
name = "spam"
dir = "build"
flags = ["-lm"]

[[unit]]
kind = "managed"
name = "hypot2"
params = [{ name = "x", type = "double" }, { name = "y", type = "double" }]
returns = ["double"]
body = "return sqrt(x * x + y * y);"
```

Keys are matched strictly: one that names no field makes the manifest invalid, with the
lines around it. An absent `returns` list selects the default of the unit kind, and an
empty one declares no value.

Validation checks the shape only: an unnamed module takes no directory; a block takes only
code; a function takes a name and a body, not code; a raw function parses its own
arguments; a native function is not exported and takes no doc. Names and types are
checked when the units are declared.
-/

namespace InlineC

/-- One unit of a manifest, as written. -/
structure ManifestUnit where
  kind : String := ""
  name : String := ""
  params : List Param := []
  returns : Option (List String) := none
  body : String := ""
  code : String := ""
  doc : String := ""

/-- A manifest: the module's name, its directory, its flags, its units, and the file it was
read from (empty when it was given as text). -/
structure Manifest where
  name : String := ""
  dir : String := ""
  flags : Option (List String) := none
  units : List ManifestUnit := []
  path : String := ""

/-- Why a manifest was refused. -/
inductive ManifestError where
  /-- The manifest is invalid; the detail follows `invalid manifest: `. -/
  | invalid (detail : String)
  /-- The decoder stopped with a panic. -/
  | panic (message : String)
  /-- An error of a manifest read from a file, after the file's path. -/
  | inFile (path : String) (inner : ManifestError)

/-- What is wrong with a unit, if anything. -/
def ManifestUnit.problem (u : ManifestUnit) : Option String :=
  if u.kind == "block" then
    if u.name != "" || u.body != "" || !u.params.isEmpty || u.returns.isSome then
      some "a block only takes code"
    else none
  else if u.kind == "native" || u.kind == "managed" || u.kind == "raw" then
    if u.name == "" then some (u.kind ++ " unit needs a name")
    else if u.code != "" then some (u.kind ++ " unit " ++ u.name ++ ": use body, not code")
    else if u.kind == "raw" && (!u.params.isEmpty || u.returns.isSome) then
      some ("raw unit " ++ u.name ++ " parses its own arguments")
    else if u.kind == "native" && u.doc != "" then
      some ("native unit " ++ u.name ++ " is not exported and takes no doc")
    else none
  else if u.kind == "" then some "missing kind"
  else some ("unknown kind " ++ Text.quote u.kind)

/-- The signature a unit declares. -/
def ManifestUnit.signature (u : ManifestUnit) : Signature := ⟨u.params, u.returns⟩

namespace Manifest

open Toml

/-- The record type of a parameter. -/
def paramFields : List (String × String × Target) :=
  [("name", "Name", .text), ("type", "Type", .text)]

/-- The record type of a unit. -/
def unitFields : List (String × String × Target) :=
  [("kind", "Kind", .text), ("name", "Name", .text),
   ("params", "Params", .records "manifest.Param" paramFields),
   ("returns", "Returns", .texts), ("body", "Body", .text), ("code", "Code", .text),
   ("doc", "Doc", .text)]

/-- The record type of a manifest. -/
def recordType : RecordType :=
  ⟨"manifest.Manifest",
   [("name", "Name", .text), ("dir", "Dir", .text), ("flags", "Flags", .texts),
    ("unit", "Units", .records "manifest.Unit" unitFields)]⟩

/-- A string field of a decoded record. -/
def textField (r : Record) (k : String) : String :=
  match r.lookup k with
  | some (.text s) => s
  | _ => ""

/-- A list-of-strings field of a decoded record, none when absent. -/
def textsField (r : Record) (k : String) : Option (List String) :=
  match r.lookup k with
  | some (.texts items) => items
  | _ => none

/-- A unit from its decoded record. -/
def unitOf (r : Record) : ManifestUnit :=
  { kind := textField r "kind", name := textField r "name",
    params := (rowsOf r "params").map fun p => ⟨textField p "name", textField p "type"⟩,
    returns := textsField r "returns", body := textField r "body", code := textField r "code",
    doc := textField r "doc" }

/-- A manifest from its decoded record. -/
def ofRecord (r : Record) : Manifest :=
  { name := textField r "name", dir := textField r "dir", flags := textsField r "flags",
    units := (rowsOf r "unit").map unitOf }

/-- The detail of a decoding problem. -/
def problemDetail : Problem → ManifestError
  | .located line column msg =>
    .invalid ("line " ++ toString line ++ ", column " ++ toString column ++ ": toml: " ++ msg)
  | .plain msg => .invalid msg
  | .unknownKeys report => .invalid ("unknown keys\n" ++ report)
  | .panic msg => .panic msg

/-- The first problem among units, numbered from one. -/
def unitProblem : Nat → List ManifestUnit → Option String
  | _, [] => none
  | i, u :: rest =>
    match u.problem with
    | some p => some ("unit " ++ toString i ++ ": " ++ p)
    | none => unitProblem (i + 1) rest

/-- Check the structure of a manifest. -/
def validate (m : Manifest) : Except ManifestError Unit :=
  if m.name == "" && m.dir != "" then .error (.invalid "an unnamed module can not have a dir")
  else match unitProblem 1 m.units with
    | some p => .error (.invalid p)
    | none => .ok ()

/-- Decode and validate manifest text. -/
def parse (text : String) : Except ManifestError Manifest := do
  let r ← (decodeDocument recordType (Utf8.ofString text)).mapError problemDetail
  let m := ofRecord r
  validate m
  pure m

/-- Decode and validate the manifest a file holds. -/
def load (path text : String) : Except ManifestError Manifest :=
  match parse text with
  | .ok m => .ok { m with path }
  | .error e => .error (.inFile path e)

/-- The directory, taken relative to the manifest's file when it is relative. -/
def resolvedDir (m : Manifest) : String :=
  if m.dir.isEmpty || Path.isAbsolute m.dir || m.path.isEmpty then m.dir
  else Path.join (Path.dir m.path) m.dir

end Manifest

/-- The message of a manifest error, and whether it is a panic. -/
def ManifestError.describe : ManifestError → String × Bool
  | .invalid d => ("invalid manifest: " ++ d, false)
  | .panic m => (m, true)
  | .inFile path inner =>
    let (m, p) := inner.describe
    (if p then m else path ++ ": " ++ m, p)

/-- A manifest error is reported with its description, in the class of invalid manifests. -/
instance : Failure ManifestError where
  report e := .plain e.describe.1 [.invalidManifest]

end InlineC
