import InlineC.Manifest.Build
import InlineC.Config.Load

/-!
# The command line

`cexi [--config FILE] [-v] COMMAND ARGS…` works on manifests:

* `render MANIFEST` prints the translation unit a manifest renders to;
* `revision MANIFEST…` prints each manifest's fingerprint, after its path when there are
  several;
* `build MANIFEST…` compiles and loads each manifest into its persistent directory;
* `config` shows the settings in force and the file they came from;
* `version` prints the version.

Settings are loaded before any command, from the given file or the one found in the
settings directory, under the environment. Everything but reading files, reading the
environment and printing is done by the library's pure functions.
-/

namespace InlineC.Cli

open InlineC.Host InlineC.Machine InlineC.Config

/-- A parsed command line: the settings file, verbosity, the command and its arguments. -/
structure Invocation where
  configFile : Option String := none
  verbose : Bool := false
  command : String := ""
  args : List String := []

/-- Parse the words of a command line. -/
def parseArgs : List String → Invocation → Except String Invocation
  | [], inv => .ok inv
  | w :: rest, inv =>
    if w == "--config" then
      match rest with
      | f :: more => parseArgs more { inv with configFile := some f }
      | [] => .error "flag needs an argument: --config"
    else if w == "-v" || w == "--verbose" then parseArgs rest { inv with verbose := true }
    else if inv.command.isEmpty then parseArgs rest { inv with command := w }
    else parseArgs rest { inv with args := inv.args ++ [w] }

/-- The text of a failure. -/
def failureText (r : FailureReport) : String := Utf8.toStringLossy r.message

/-- A fresh host. -/
def freshWorld : World HostState := { images := #[], host := {} }

/-- The extension a manifest file builds, with the host after building it. -/
def extensionOf (path text : String) : Except String (Extension × World HostState) :=
  match Manifest.load path text with
  | .error e => .error e.describe.1
  | .ok m =>
    match (buildManifest m none).run freshWorld with
    | .error f => .error f.message
    | .ok (.error e, _) => .error (failureText e)
    | .ok (.ok (), w) =>
      match w.host.ext with
      | some ext => .ok (ext, w)
      | none => .error "no extension"

/-- The translation unit of a manifest file. -/
def renderText (path text : String) : Except String String := do
  let (ext, _) ← extensionOf path text
  match ext.asm.render with
  | .ok s => pure s
  | .error e => throw (failureText (Failure.report e))

/-- The fingerprint of a manifest file. -/
def revisionOf (path text : String) : Except String Nat := do
  let (ext, _) ← extensionOf path text
  match ext.asm.revision with
  | .ok r => pure r
  | .error e => throw (failureText (Failure.report e))

/-- Compile and load a manifest file into its persistent directory. -/
def buildFile (path text : String) : Except String Unit := do
  match Manifest.load path text with
  | .error e => throw e.describe.1
  | .ok m =>
    if m.resolvedDir.isEmpty then throw "manifest has no dir, nothing would be kept"
    let run : HostM (Except FailureReport Unit) := do
      match ← buildManifest m none with
      | .error e => pure (.error e)
      | .ok () => prepare hostDepth
    match run.run freshWorld with
    | .error f => throw f.message
    | .ok (.error e, _) => throw (failureText e)
    | .ok (.ok (), _) => pure ()

/-- The lines `config` shows. -/
def configLines (s : Settings) (file : String) : List String :=
  let row := fun (label value : String) =>
    label ++ String.ofList (List.replicate (14 - label.length) ' ') ++ value
  [row "file" (if file.isEmpty then "(defaults)" else file), row "cc" s.cc, row "cache" s.cache,
   row "opt_level" s.optLevel, row "flags" (" ".intercalate s.flags),
   row "include_dirs" (":".intercalate s.includeDirs), row "log_level" s.logLevel]

/-- The environment variables settings read. -/
def settingNames : List String :=
  ["CC", "CEXI_CC", "CEXI_CACHE", "CEXI_OPT_LEVEL", "CEXI_FLAGS", "CEXI_INCLUDE_DIRS",
   "CEXI_LOG_LEVEL", "CEXI_MARCH", "XDG_CACHE_HOME", "XDG_CONFIG_HOME", "HOME"]

end InlineC.Cli

open InlineC InlineC.Cli InlineC.Config in
/-- Run the command line. -/
def main (argv : List String) : IO UInt32 := do
  let stdout ← IO.getStdout
  let stderr ← IO.getStderr
  let fail := fun (msg : String) => do
    stderr.putStrLn ("Error: " ++ msg)
    pure (1 : UInt32)
  let inv ← match parseArgs argv {} with
    | .ok i => pure i
    | .error m => do let _ ← fail m; return 1
  let mut env : Environment := []
  for name in settingNames do
    if let some v ← IO.getEnv name then env := env ++ [(name, v)]
  let configHome := match env.get? "XDG_CONFIG_HOME" with
    | some x => x
    | none => ((env.get? "HOME").getD "") ++ "/.config"
  let dir := configHome ++ "/cexi"
  let candidates := match inv.configFile with
    | some f => [f]
    | none => [dir ++ "/" ++ fileName, fileName]
  let mut files : List (String × String) := []
  for p in candidates do
    let path : String := p
    if let .ok text ← (IO.FS.readFile path).toBaseIO then files := files ++ [(path, text)]
  let (settings, file) ← match load env files { file := inv.configFile, dir } with
    | .ok r => pure r
    | .error e => do let _ ← fail (failureText e); return 1
  let readText := fun (p : String) => (IO.FS.readFile p).toBaseIO
  match inv.command with
  | "render" =>
    let [path] := inv.args | fail "accepts 1 arg(s)"
    match ← readText path with
    | .error e => fail ("read manifest: " ++ toString e)
    | .ok text =>
      match renderText path text with
      | .ok s => do stdout.putStr s; pure 0
      | .error m => fail m
  | "revision" =>
    if inv.args.isEmpty then return ← fail "requires at least 1 arg(s)"
    for path in inv.args do
      match ← readText path with
      | .error e => return ← fail (path ++ ": read manifest: " ++ toString e)
      | .ok text =>
        match revisionOf path text with
        | .ok r => stdout.putStrLn (if inv.args.length == 1 then toString r else path ++ " " ++ toString r)
        | .error m => return ← fail m
    pure 0
  | "build" =>
    let mut failed := false
    for path in inv.args do
      match ← readText path with
      | .error e => do
        stdout.putStrLn ("✗ " ++ path)
        stderr.putStrLn (path ++ ": read manifest: " ++ toString e)
        failed := true
      | .ok text =>
        match buildFile path text with
        | .ok () => stdout.putStrLn ("✓ " ++ path)
        | .error m => do
          stdout.putStrLn ("✗ " ++ path)
          stderr.putStrLn (path ++ ": " ++ m)
          failed := true
    pure (if failed then 1 else 0)
  | "config" => do
    for line in configLines settings file do stdout.putStrLn line
    pure 0
  | "version" => do stdout.putStrLn "cexi dev (linux/amd64)"; pure 0
  | "" => do
    stdout.putStrLn "cexi - inline C functions, compiled and loaded on demand"
    stdout.putStrLn "commands: render, revision, build, config, version"
    pure 0
  | other => fail ("unknown command " ++ Text.quote other ++ " for " ++ Text.quote "cexi")
