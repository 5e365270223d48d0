import InlineC.Identifier

/-!
# Failures

Errors wrap one another: a configuration error carries the collision that caused it, a load
error carries the native error raised by the module initialiser. Each error type of the
library describes itself by a `FailureReport`: the classes found along its chain, outermost
first, its message as octets (native code may put any octets into a message), and the
details that some classes carry.
-/

namespace InlineC

/-- The classes of error that callers can tell apart. -/
inductive ErrorClass where
  | configuration | notInitialized | codeDiverged | backgroundCompile | compile | load
  | native | conversion | lookup | collision | namesExhausted | invalidManifest | tooLate
  | tooEarly | reentrant | closed | busy | invalidOptLevel | invalidLogLevel | configNotFound
  deriving DecidableEq, Repr

/-- The step of a build that failed. -/
inductive BuildStep where
  | compile | link
  deriving DecidableEq, Repr

/-- What an error says about itself. -/
structure FailureReport where
  /-- Classes along the chain of causes, outermost first. -/
  classes : List ErrorClass := []
  message : Utf8.Octets
  /-- The build step, when a compiler run failed. -/
  buildStep : Option BuildStep := none
  /-- The module, when an artifact could not be loaded. -/
  loadModule : Option String := none
  /-- The error object's name and message, when native code raised the error. -/
  native : Option (Utf8.Octets × Utf8.Octets) := none
  deriving Repr

/-- Error types that describe themselves. -/
class Failure (ε : Type) where
  report : ε → FailureReport

namespace FailureReport

/-- A report of a plain error with a message. -/
def plain (msg : String) (classes : List ErrorClass := []) : FailureReport :=
  { classes, message := Utf8.ofString msg }

/-- The report of an error that wraps `inner`, adding a class and a message prefix. -/
def wrap (inner : FailureReport) (cls : Option ErrorClass) (prefixText : String) :
    FailureReport :=
  { inner with classes := cls.toList ++ inner.classes,
               message := Utf8.ofString prefixText ++ inner.message }

end FailureReport

/-- A failed lookup is reported with its message, in the class of lookups. -/
instance : Failure LookupError where
  report e := .plain e.message [.lookup]

/-- A refused identifier is reported with its message. -/
instance : Failure IdentifierError where
  report e := .plain e.message

/-- A refused draw of names is reported with its message; running out of names is in the class of
exhausted names. -/
instance : Failure NamesError where
  report
    | e@(.negative _) => .plain e.message
    | e@(.exhausted _) => .plain e.message [.namesExhausted]

end InlineC
