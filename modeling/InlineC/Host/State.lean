import InlineC.Assembly.Basic
import InlineC.Host.Value
import InlineC.Machine.Load

/-!
# The host's state

What the host keeps while it works with an extension: the extension itself (its
declarations, its options, the library it has loaded and its reverse functions), the
libraries opened so far, the callbacks registered with them, the artifacts written to
persistent build directories, the driver's proxies, and the log of what `prepare`
callbacks did. A background build is kept beside this state, by its caller.

The errors of this layer are failure reports, built by the constructors here with the
messages the library writes.
-/

namespace InlineC.Host

open InlineC.Lang InlineC.Machine

/-- A loaded library. -/
structure Library where
  name : String
  path : String
  /-- Its image in the world. -/
  image : Nat
  /-- The module its initializer returned. -/
  module : UInt64
  closed : Bool := false
  /-- Callbacks of this library running now. -/
  callbacks : Nat := 0

/-- A callback registered with a library under a handle. -/
structure Registration where
  handle : UInt64
  callback : Callback
  lib : Nat

/-- A reverse function: host code native code calls through a dispatch function. -/
structure ReverseFn where
  /-- The dispatch function's name. -/
  name : String
  /-- The capture function's name. -/
  capture : String
  /-- How many values the dispatch function returns. -/
  returns : Nat
  spec : CallbackSpec
  /-- The library the callback was handed to. -/
  activated : Option Nat := none

/-- An extension. -/
structure Extension where
  name : String
  anonymous : Bool := false
  dir : Option String := none
  flags : List String := []
  asm : Assembly
  table : Option Nat := none
  reverse : List ReverseFn := []
  builds : Nat := 0
  /-- Reverse callbacks running now. -/
  inCallback : Nat := 0

/-- A function of a background build. -/
structure DynamicFn where
  name : String
  sig : Signature
  fallback : CallbackSpec
  /-- Its body and doc, once supplied. -/
  body : Option (String × String) := none
  /-- Whether the build added it to the extension. -/
  proxy : Bool := false

/-- A background build. -/
structure Background where
  fns : List DynamicFn := []
  started : Bool := false
  switched : Bool := false
  fatal : Option FailureReport := none
  /-- The worker's result, until a poll takes it. -/
  result : Option (Option FailureReport) := none

/-- The host's state. -/
structure HostState where
  ext : Option Extension := none
  libs : Array Library := #[]
  registry : List Registration := []
  nextHandle : UInt64 := 0
  /-- Artifacts in persistent directories, by path. -/
  files : List (String × Machine.Library) := []
  /-- Results of `prepare` callbacks, oldest first: none for success. -/
  log : List (Option FailureReport) := []
  /-- Names of the managed functions the driver holds proxies for. -/
  proxies : List String := []

/-- Running host code. -/
abbrev HostM := Run HostState

namespace Errors

/-- An error of an extension's configuration. -/
def configuration (module : String) (inner : FailureReport) : FailureReport :=
  inner.wrap (some .configuration) ("extension " ++ module ++ ": ")

/-- A module that is not loaded. -/
def notInitialized (module : String) : FailureReport :=
  .plain ("module " ++ module ++ " not compiled/loaded") [.notInitialized]

/-- A member the loaded module does not have. -/
def codeDiverged (module member attr : String) : FailureReport :=
  .plain ("for " ++ Text.quote member ++ " from " ++ Text.quote module ++
    ", failed to retrieve " ++ Text.quote attr) [.codeDiverged]

/-- A failed background build. -/
def backgroundCompile (module : String) (inner : FailureReport) : FailureReport :=
  inner.wrap (some .backgroundCompile) ("background build of " ++ module ++ " failed: ")

/-- A failed compiler run. -/
def compile (module : String) (step : BuildStep) : FailureReport :=
  { classes := [.compile], buildStep := some step,
    message := Utf8.ofString ("compile " ++ module ++ ": " ++
      (match step with | .compile => "compile" | .link => "link") ++ " failed: exit status 1\n") }

/-- A library that could not be loaded. -/
def load (module path : String) (inner : FailureReport) : FailureReport :=
  { inner.wrap (some .load) ("load " ++ module ++ " from " ++ path ++ ": ") with
    loadModule := some module }

/-- An error raised by native code. -/
def native (name msg : List UInt8) : FailureReport :=
  { classes := [.native], message := name ++ Utf8.ofString ": " ++ msg, native := some (name, msg) }

/-- A value with no counterpart on the other side. -/
def conversion (msg : String) : FailureReport := .plain msg [.conversion]

/-- Too late to change the background build. -/
def tooLate : FailureReport := .plain "too late: native implementation already committed" [.tooLate]

/-- No background function has a body. -/
def tooEarly : FailureReport := .plain "too early: no native implementation supplied" [.tooEarly]

/-- A reload from inside a reverse callback. -/
def reentrant (module : String) : FailureReport :=
  .plain ("extension " ++ module ++ ": cannot reload from inside a reverse callback") [.reentrant]

/-- A closed library. -/
def closed : FailureReport := .plain "library is closed" [.closed]

/-- Several errors at once: their messages on separate lines, their classes in order. -/
def join : List FailureReport → Option FailureReport
  | [] => none
  | [e] => some e
  | e :: rest =>
    some { classes := e.classes ++ rest.flatMap (·.classes),
           message := (((e :: rest).map (·.message)).intersperse [10]).flatten,
           buildStep := (e :: rest).findSome? (·.buildStep),
           loadModule := (e :: rest).findSome? (·.loadModule),
           native := (e :: rest).findSome? (·.native) }

end Errors

/-- The world's host state. -/
def getHost : HostM HostState := do pure (← get).host

/-- Change the host state. -/
def modifyHost (f : HostState → HostState) : HostM PUnit :=
  modify fun w => { w with host := f w.host }

/-- A world that holds the extension being worked on: the host's own, or a smaller one that
stands in for it. -/
class ExtensionHost (ω : Type) where
  ext : ω → Option Extension
  setExt : ω → Option Extension → ω
  ext_setExt (w : ω) (e : Option Extension) : ext (setExt w e) = e

/-- The host's world holds the extension in its state. -/
instance : ExtensionHost (World HostState) where
  ext w := w.host.ext
  setExt w e := { w with host := { w.host with ext := e } }
  ext_setExt _ _ := rfl

/-- Running against a world that may fault. -/
abbrev WorldM (ω : Type) := StateT ω (Except Fault)

section

variable {ω : Type} [ExtensionHost ω]

/-- The current extension. -/
def getExt : WorldM ω (Option Extension) := do pure (ExtensionHost.ext (← get))

/-- Change the current extension. -/
def modifyExt (f : Extension → Extension) : WorldM ω PUnit :=
  modify fun w => ExtensionHost.setExt w ((ExtensionHost.ext w).map f)

end

/-- A library by number. -/
def getLib (i : Nat) : HostM Library := do
  match (← getHost).libs[i]? with
  | some l => pure l
  | none => throw ⟨"no such library"⟩

/-- Change a library. -/
def modifyLib (i : Nat) (f : Library → Library) : HostM PUnit :=
  modifyHost fun h => { h with libs := h.libs.modify i f }

end InlineC.Host
