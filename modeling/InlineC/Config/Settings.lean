import InlineC.Failure
import InlineC.Text.Case
import InlineC.Text.Layout
import InlineC.Text.Quoted
import InlineC.Text.Path

/-!
# Settings

The settings of the tool: the compiler to run, the cache directory, the optimization level,
extra flags, include directories and the log level. The environment supplies their
defaults: `CC` names the compiler, or else `cc` is used. `CEXI_CACHE` names the cache, or
else `cexi` under the user's cache directory (`XDG_CACHE_HOME`, or `.cache` in the home
directory).

Validation accepts the optimization levels the compiler knows and the five log levels, in
any case. The compiler's base flags are the optimization level, the language standard, a
target CPU when `CEXI_MARCH` names one, the include directories, and the extra flags.
-/

namespace InlineC.Config

/-- Environment variables, by name. -/
abbrev Environment := List (String × String)

/-- The value of a variable that is set and not empty. -/
def Environment.get? (env : Environment) (name : String) : Option String :=
  match env.lookup name with
  | some v => if v.isEmpty then none else some v
  | none => none

/-- The optimization levels the compiler accepts. -/
def optLevels : List String := ["-O0", "-O1", "-O2", "-O3", "-Os", "-Oz", "-Og", "-Ofast"]

/-- The default optimization level. -/
def defaultOptLevel : String := "-O2"

/-- The language standard every compile uses. -/
def languageStandard : String := "-std=c11"

/-- Log levels, least severe first. -/
inductive LogLevel where
  | debug | info | warn | error | fatal
  deriving DecidableEq, Repr

/-- The name of a log level. -/
def LogLevel.name : LogLevel → String
  | .debug => "debug"
  | .info => "info"
  | .warn => "warn"
  | .error => "error"
  | .fatal => "fatal"

/-- Text lowered character by character. -/
def lower (s : String) : String := String.map Text.toLower s

/-- The log level a name gives, in any case. -/
def LogLevel.parse? (s : String) : Option LogLevel :=
  [LogLevel.debug, .info, .warn, .error, .fatal].find? (·.name == lower s)

/-- The settings. -/
structure Settings where
  cc : String
  cache : String
  optLevel : String := defaultOptLevel
  flags : List String := []
  includeDirs : List String := []
  logLevel : String := LogLevel.info.name

/-- The compiler a bare environment selects. -/
def defaultCompiler (env : Environment) : String := (env.get? "CC").getD "cc"

/-- The cache directory the environment selects. -/
def defaultCache (env : Environment) : String :=
  match env.get? "CEXI_CACHE" with
  | some c => c
  | none =>
    match env.get? "XDG_CACHE_HOME" with
    | some x => Path.join x "cexi"
    | none => Path.join (Path.join ((env.get? "HOME").getD "") ".cache") "cexi"

/-- The settings when nothing overrides them. -/
def defaults (env : Environment) : Settings :=
  { cc := defaultCompiler env, cache := defaultCache env }

/-- Check that the compiler and the logger accept the settings. -/
def Settings.validate (s : Settings) : Except FailureReport Unit :=
  if !optLevels.contains s.optLevel then
    .error (.plain ("invalid optimization level: " ++ Text.quote s.optLevel) [.invalidOptLevel])
  else if (LogLevel.parse? s.logLevel).isNone then
    .error (.plain ("invalid log level: " ++ Text.quote s.logLevel) [.invalidLogLevel])
  else .ok ()

/-- The log level of the settings, `info` when it does not parse. -/
def Settings.level (s : Settings) : LogLevel := (LogLevel.parse? s.logLevel).getD .info

/-- Text without white space at either end. -/
def trimSpace (s : String) : String :=
  String.ofList ((s.toList.dropWhile Text.Layout.isSpace).reverse.dropWhile
    Text.Layout.isSpace).reverse

/-- The target CPU flag `CEXI_MARCH` selects: a bare name, or a whole `-march=` flag. -/
def marchFlag (env : Environment) : Option String :=
  let m := trimSpace ((env.lookup "CEXI_MARCH").getD "")
  if m.isEmpty then none
  else if m.startsWith "-march=" then some m
  else some ("-march=" ++ m)

/-- The flags every compile step gets before the caller's own. -/
def baseFlags (env : Environment) (optLevel : String) (includes flags : List String) :
    List String :=
  [optLevel, languageStandard] ++ (marchFlag env).toList ++
    includes.flatMap (fun inc => ["-I", inc]) ++ flags

/-- The file name of the library built for a module. -/
def libraryFilename (name : String) : String := "lib" ++ name ++ ".so"

end InlineC.Config
