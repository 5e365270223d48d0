import InlineC.Service.Answer
import InlineC.Config.Load

/-!
# Settings requests

`config_validate` checks an optimization level and a log level and tells the level the
logger would use. `config_load` loads the settings from a settings file and environment
variables given by the request. `base_flags` tells the flags a compiler configured by the
request puts before every compile.

Requests run in a fixed environment: the cache and settings directories are set, the
compiler variable is not. A settings file a request gives is stored as `cexi.toml` in the
settings directory.
-/

namespace InlineC.Service

open Document InlineC.Config

/-- The environment requests run in. -/
def baseEnvironment : Environment :=
  [("XDG_CACHE_HOME", "/xdg-cache"), ("XDG_CONFIG_HOME", "<tmp>/xdg-config"), ("TMPDIR", "<tmp>")]

/-- The directory a request's settings file is stored in. -/
def settingsDir : String := "<tmp>/config"

/-- The variables a request sets, over the base environment. -/
def requestEnvironment (req : Document) : Environment :=
  let given := match req.given? "env" with
    | some (.record fs) => fs.filterMap fun (k, v) => (v.asString?).map fun s => (k, s)
    | _ => []
  given ++ baseEnvironment.filter fun (k, _) => (given.lookup k).isNone

/-- Answer a `config_validate` request. -/
def answerValidate (req : Document) : Document :=
  let s : Settings := { cc := "", cache := "", optLevel := req.text "opt_level",
                        logLevel := req.text "log_level" }
  let answer := match s.validate with
    | .ok () => okAnswer
    | .error e => .record (reportFields e)
  withLevel answer s.level
where
  /-- Add the log level to an answer. -/
  withLevel (d : Document) (l : LogLevel) : Document :=
    match d with
    | .record fs => .record (fs ++ [("level", .str l.name)])
    | other => other

/-- Answer a `config_load` request. -/
def answerLoad (req : Document) : Document :=
  let env := requestEnvironment req
  let path := settingsDir ++ "/" ++ fileName
  let files := match req.given? "toml" with
    | some _ => [(path, req.text "toml")]
    | none => []
  let src : Source :=
    if req.flag "missing_file" then { file := some (settingsDir ++ "/missing.toml"), dir := settingsDir }
    else if req.flag "explicit" then { file := some path, dir := settingsDir }
    else { dir := settingsDir }
  match load env files src with
  | .error e => .record (reportFields e)
  | .ok (s, file) =>
    .record [("cc", .str s.cc), ("cache", .str s.cache), ("opt_level", .str s.optLevel),
      ("flags", strings s.flags), ("include_dirs", strings s.includeDirs),
      ("log_level", .str s.logLevel), ("file", .str file), ("level", .str s.level.name),
      ("base_flags", strings (baseFlags env s.optLevel s.includeDirs s.flags))]

/-- Answer a `base_flags` request. -/
def answerBaseFlags (req : Document) : Document :=
  let env : Environment := match req.given? "march" with
    | some _ => [("CEXI_MARCH", req.text "march")]
    | none => []
  let cc := req.text "cc"
  let path := if cc.isEmpty then defaultCompiler baseEnvironment else cc
  let optLevel := match req.given? "opt_level" with
    | some _ => req.text "opt_level"
    | none => defaultOptLevel
  let flags := (req.texts? "flags").getD []
  let includes := (req.texts? "includes").getD []
  .record [("path", .str path), ("base_flags", strings (baseFlags env optLevel includes flags)),
    ("library_filename", .str (libraryFilename (req.text "name")))]

end InlineC.Service
