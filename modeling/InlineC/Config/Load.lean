import InlineC.Config.Settings
import InlineC.Toml.Dynamic

/-!
# Loading settings

Settings come from three places, each overriding the one before: the defaults, a settings
file, and environment variables named `CEXI_` followed by the setting's key in upper case.
An empty variable counts as unset.

The file is either given, when it must exist, or searched for: `cexi.toml` in the settings
directory, then `cexi.toml` in the working directory. It is TOML, and its keys match in any
case. Keys that are not settings are ignored.

Values convert loosely to what a setting holds. Truth values become `1` or `0`, and numbers
become their decimal text. A text given for a list is split at commas, an empty one giving
no items, and any other single value becomes a list of one. Arrays and tables do not
convert to text. Every failed conversion is reported together, one line each, in the order
of the settings and, within a list, of its items.
-/

namespace InlineC.Config

open Toml

/-- Where the settings file comes from: a path that must exist, or the directory to search. -/
structure Source where
  file : Option String := none
  dir : String

/-- The file name searched for. -/
def fileName : String := "cexi.toml"

/-- The settings file to read, if any: the given one, which must exist, or the first found.
`present` tells which files exist. -/
def findFile (present : String → Bool) (src : Source) : Except FailureReport (Option String) :=
  match src.file with
  | some p =>
    if present p then .ok (some p)
    else .error (.plain ("config file not found: " ++ p) [.configNotFound])
  | none => .ok ([Path.join src.dir fileName, fileName].find? present)

/-- The Go type of a value, as conversion errors name it. -/
def dynTypeName : Dyn → String
  | .str _ => "string"
  | .int _ => "int64"
  | .float _ => "float64"
  | .bool _ => "bool"
  | .date f _ => match f with
    | .offsetDateTime => "time.Time"
    | .localDateTime => "toml.LocalDateTime"
    | .localDate => "toml.LocalDate"
    | .localTime => "toml.LocalTime"
  | .array _ => "[]interface \x7b\x7d"
  | .table _ => "map[string]interface \x7b\x7d"

/-- Convert a value to text, loosely. -/
def looseText (name : String) : Dyn → Except (List String) String
  | .str s => .ok s
  | .bool b => .ok (if b then "1" else "0")
  | .int i => .ok (toString i)
  | .float x => .ok x.formatPlain
  | other => .error ["'" ++ name ++ "' expected type 'string', got unconvertible type '" ++
      dynTypeName other ++ "'"]

/-- Convert the items of a list to text, gathering every failure. -/
def looseItems (name : String) : Nat → List Dyn → Except (List String) (List String)
  | _, [] => .ok []
  | i, d :: rest =>
    match looseText (name ++ "[" ++ toString i ++ "]") d, looseItems name (i + 1) rest with
    | .ok s, .ok more => .ok (s :: more)
    | .error e, .ok _ => .error e
    | .ok _, .error e => .error e
    | .error e, .error f => .error (e ++ f)

/-- Convert a value to a list of texts, loosely. -/
def looseList (name : String) : Dyn → Except (List String) (List String)
  | .str s => .ok (if s.isEmpty then [] else s.splitOn ",")
  | .array items => looseItems name 0 items
  | .table [] => .ok []
  | other => looseItems name 0 [other]

/-- The keys of a table, lowered. -/
def lowerKeys (t : List (String × Dyn)) : List (String × Dyn) := t.map fun (k, v) => (lower k, v)

/-- The value a setting takes: from the environment, else the file, else the default. -/
def pick (env : Environment) (file : List (String × Dyn)) (key : String) (dflt : Dyn) : Dyn :=
  match env.get? ("CEXI_" ++ String.map Char.toUpper key) with
  | some v => .str v
  | none => (file.lookup key).getD dflt

/-- Gather a conversion's failures. -/
def gather {α : Type} (r : Except (List String) α) (dflt : α) : List String × α :=
  match r with
  | .ok a => ([], a)
  | .error es => (es, dflt)

/-- Settings from the file's table and the environment, over the defaults. -/
def resolve (env : Environment) (file : List (String × Dyn)) : Except FailureReport Settings :=
  let d := defaults env
  let text := fun (key : String) (dflt : String) =>
    gather (looseText key (pick env file key (.str dflt))) dflt
  let list := fun (key : String) (dflt : List String) =>
    gather (looseList key (pick env file key (.array (dflt.map .str)))) dflt
  let (e1, cc) := text "cc" d.cc
  let (e2, cache) := text "cache" d.cache
  let (e3, optLevel) := text "opt_level" d.optLevel
  let (e4, flags) := list "flags" d.flags
  let (e5, includeDirs) := list "include_dirs" d.includeDirs
  let (e6, logLevel) := text "log_level" d.logLevel
  let errors := e1 ++ e2 ++ e3 ++ e4 ++ e5 ++ e6
  if errors.isEmpty then .ok { cc, cache, optLevel, flags, includeDirs, logLevel }
  else .error (.plain ("failed to parse config: decoding failed due to the following error(s):\n\n" ++
    "\n".intercalate errors))

/-- Load the settings: the file found, if any, under the environment. `files` holds the
existing files and their text. Gives the settings and the path of the file read, empty
when none was. -/
def load (env : Environment) (files : List (String × String)) (src : Source) :
    Except FailureReport (Settings × String) := do
  let path ← findFile (fun p => (files.lookup p).isSome) src
  let table ← match path with
    | none => pure []
    | some p =>
      match decodeDynamic (Utf8.ofString ((files.lookup p).getD "")) with
      | .ok t => pure (lowerKeys t)
      | .error m => throw (.plain ("read config " ++ p ++ ": While parsing config: " ++ m))
  let s ← resolve env table
  s.validate
  pure (s, path.getD "")

end InlineC.Config
