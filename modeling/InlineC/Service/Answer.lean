import InlineC.Service.Document

/-!
# Answers

How results are written into answer documents: a failure becomes a record naming its
outermost class (`Error` when no class is known), the other classes as causes and the
message. A failed compiler run has no message, since compiler output is specific to the
machine; it names the failed step instead. A load failure without a native error names the
module instead of the dynamic linker's text. A native error adds its error object's name
and message.
-/

namespace InlineC

/-- The name of an error class in answers. -/
def ErrorClass.name : ErrorClass → String
  | .configuration => "ConfigurationError" | .notInitialized => "NotInitializedError"
  | .codeDiverged => "CodeDivergedError" | .backgroundCompile => "BackgroundCompileError"
  | .compile => "CompileError" | .load => "LoadError" | .native => "NativeError"
  | .conversion => "ConversionError" | .lookup => "LookupError"
  | .collision => "CollisionError" | .namesExhausted => "NamesExhausted"
  | .invalidManifest => "InvalidManifest" | .tooLate => "TooLate" | .tooEarly => "TooEarly"
  | .reentrant => "Reentrant" | .closed => "Closed" | .busy => "Busy"
  | .invalidOptLevel => "InvalidOptLevel" | .invalidLogLevel => "InvalidLogLevel"
  | .configNotFound => "ConfigNotFound"

/-- The name of a build step in answers. -/
def BuildStep.name : BuildStep → String
  | .compile => "compile"
  | .link => "link"

namespace Service

/-- The fields that describe a failure. -/
def reportFields (r : FailureReport) : List (String × Document) :=
  let kind := match r.classes with
    | c :: _ => c.name
    | [] => "Error"
  let causes := match r.classes with
    | _ :: rest@(_ :: _) => [("causes", Document.strings (rest.map ErrorClass.name))]
    | _ => []
  let body := match r.buildStep, r.loadModule, r.native with
    | some step, _, _ => [("compile_step", Document.str step.name)]
    | none, some m, none => [("module", Document.str m)]
    | _, _, _ => [("message", Document.octets r.message)]
  let raised := match r.native with
    | some (n, m) => [("native_name", Document.octets n), ("native_message", Document.octets m)]
    | none => []
  ("error", Document.str kind) :: causes ++ body ++ raised

/-- A failure as an answer record. -/
def failure {ε : Type} [Failure ε] (e : ε) : Document := .record (reportFields (Failure.report e))

/-- A result as an answer: the value written by `ok`, or the failure. -/
def outcome {ε α : Type} [Failure ε] (ok : α → Document) : Except ε α → Document
  | .ok a => ok a
  | .error e => failure e

/-- The answer of an operation that returns nothing. -/
def okAnswer : Document := .record [("ok", .bool true)]

/-- The answer to a malformed request. -/
def badInput (msg : String) : Document :=
  .record [("error", .str "BadInput"), ("message", .str msg)]

end Service

end InlineC
