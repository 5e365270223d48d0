import InlineC.Host.State

/-!
# Drivers

An extension reaches the outside world through a driver: the lock that keeps processes
building into one persistent directory apart, a compiler that turns a translation unit into
a library, a loader that opens a library as an artifact, and the artifacts' symbol tables,
which tell the revision an artifact was stamped with, find its methods with their docs and
flags, call them, and release the artifact. Artifacts are numbered.

Preparing, building and installing an artifact, handing reverse functions' callbacks to it
and resolving proxies against it are written here against any driver and any world that
holds the extension. The library's own driver, which compiles the C it is given and runs it,
is one of them; a driver whose compiler and loader fail or succeed as a test wants is
another.
-/

namespace InlineC.Host

open InlineC.Machine

/-- What a build asks of the compiler: the module, its translation unit, the directory the
library goes to, and the extra flags. -/
structure CompileRequest where
  name : String
  source : String
  outDir : String
  flags : List String

/-- The outside world of an extension, over a world `ω`. -/
structure Driver (ω : Type) where
  /-- Where the library of a module lies in a directory. -/
  libraryPath : String → String → String
  /-- Create a persistent directory if it is missing and take its build lock. -/
  lock : String → WorldM ω (Except FailureReport Unit)
  /-- Create a new temporary directory for a build of a module; its path. -/
  makeTempDir : String → WorldM ω (Except FailureReport String)
  /-- Compile a translation unit; the path of the library. -/
  compile : CompileRequest → WorldM ω (Except FailureReport String)
  /-- Load the library at a path as the artifact of a module. -/
  load : String → String → WorldM ω (Except FailureReport Nat)
  /-- The revision an artifact was stamped with, if any. -/
  revision : Nat → WorldM ω (Option Nat)
  /-- The function of a method of an artifact, if it has one of that name. -/
  lookup : Nat → String → WorldM ω (Option UInt64)
  /-- The doc of a method. -/
  doc : Nat → String → WorldM ω (List UInt8)
  /-- The flags of a method. -/
  flags : Nat → String → WorldM ω Int
  /-- Call a method of an artifact with host values. -/
  call : Nat → String → UInt64 → List HostValue → WorldM ω (Except FailureReport HostValue)
  /-- Release an artifact; false when it is busy and stays loaded. -/
  close : Nat → WorldM ω Bool

/-- The directory of the next temporary build of a module. -/
def tempDir (name : String) : String := "<tmp>/cexi-" ++ name ++ "-N"

/-- What a build asks of the compiler for an extension's translation unit, to be written to
directory `dir`. -/
def buildRequest (ext : Extension) (dir source : String) : CompileRequest :=
  { name := ext.name, source, outDir := dir, flags := ext.flags }

/-- What resolving a proxy gives: its name, doc and flags. -/
structure Resolved where
  name : String
  doc : List UInt8
  flags : Int

section

variable {ω : Type} [ExtensionHost ω]

/-- The current extension, or a failure. -/
def currentExt : WorldM ω (Except FailureReport Extension) := do
  match ← getExt with
  | some e => pure (.ok e)
  | none => pure (.error (.plain "no extension"))

/-- Add a declaration to the current extension. -/
def addDeclaration (d : Declaration) : WorldM ω (Except FailureReport Unit) := do
  match ← getExt with
  | none => pure (.error (.plain "no extension"))
  | some ext =>
    match ext.asm.add d with
    | .ok asm =>
      modifyExt fun e => { e with asm }
      pure (.ok ())
    | .error c => pure (.error (Errors.configuration ext.name (Failure.report c)))

/-- Add declarations in turn, stopping at the first that is refused; the names of the proxies
of those added. -/
def addEach : List Declaration → WorldM ω (Except FailureReport (List String))
  | [] => pure (.ok [])
  | d :: rest => do
    match ← addDeclaration d with
    | .error e => pure (.error e)
    | .ok () =>
      match ← addEach rest with
      | .error e => pure (.error e)
      | .ok names => pure (.ok (d.name :: names))

/-- The first of a batch's symbols, in order, that is taken in an assembly or repeats a symbol
before it in the batch; `seen` holds the batch's symbols before them. -/
def firstClash (asm : Assembly) : List String → List String → Option String
  | _, [] => none
  | seen, n :: rest =>
    if asm.isTaken n || seen.contains n then some n else firstClash asm (n :: seen) rest

/-- Add a batch of managed functions: all of them or, when one of their symbols is taken or
repeats an earlier symbol of the batch, none. The names of their proxies. -/
def addManaged (decls : List Declaration) : WorldM ω (Except FailureReport (List String)) := do
  match ← getExt with
  | none => pure (.error (.plain "no extension"))
  | some ext =>
    -- the whole batch is checked before any unit is added
    match firstClash ext.asm [] (decls.flatMap Declaration.symbols) with
    | some n => pure (.error (Errors.configuration ext.name
        (Failure.report (CollisionError.mk ext.name n))))
    | none => addEach decls

namespace Driver

variable (D : Driver ω)

/-- Take the build lock of an extension's persistent directory; without one there is none
to take. -/
def lockFor (ext : Extension) : WorldM ω (Except FailureReport Unit) :=
  match ext.dir with
  | none => pure (.ok ())
  | some dir => D.lock dir

/-- The directory a build of an extension writes to: its persistent directory, or else a new
temporary one. -/
def buildDir (ext : Extension) : WorldM ω (Except FailureReport String) :=
  match ext.dir with
  | some dir => pure (.ok dir)
  | none => do
    match ← D.makeTempDir ext.name with
    | .error e => pure (.error (e.wrap none "create build dir: "))
    | .ok dir => pure (.ok dir)

/-- Hand a reverse function's callback to the installed artifact, once per artifact. -/
def activate (rname : String) : WorldM ω (Except FailureReport Unit) := do
  let some ext ← getExt | pure (.error (.plain "no extension"))
  let some r := ext.reverse.find? (·.name == rname) | pure (.error (.plain "no reverse function"))
  match ext.table with
  | none => pure (.error (Errors.notInitialized ext.name))
  | some t =>
    if r.activated == some t then return .ok ()
    match ← D.lookup t r.capture with
    | none => pure (.error (Errors.codeDiverged ext.name r.capture "call"))
    | some fn =>
      match ← D.call t r.capture fn [.callback (.reverse r.returns r.spec)] with
      | .error e => pure (.error (e.wrap none ("activate " ++ r.name ++ ": ")))
      | .ok _ =>
        modifyExt fun e => { e with reverse := e.reverse.map fun x =>
          if x.name == rname then { x with activated := some t } else x }
        pure (.ok ())

/-- Activate reverse functions in turn; every one is tried, and the failures are joined. -/
def activateAll (names : List String) : WorldM ω (Except FailureReport Unit) := do
  let results ← names.mapM D.activate
  match Errors.join (results.filterMap fun r => match r with | .error e => some e | .ok () => none) with
  | some e => pure (.error e)
  | none => pure (.ok ())

/-- Make an artifact the extension's: release the previous one and activate the reverse
functions. The artifact stays installed when an activation fails. -/
def install (t : Nat) : WorldM ω (Except FailureReport Unit) := do
  let some ext ← getExt | pure (.error (.plain "no extension"))
  modifyExt fun e => { e with table := some t }
  match ext.table with
  | some old => let _ ← D.close old
  | none => pure ()
  D.activateAll (ext.reverse.map (·.name))

/-- Render, compile, load and install; every build that reaches the compiler is counted. -/
def build : WorldM ω (Except FailureReport Unit) := do
  let some ext ← getExt | pure (.error (.plain "no extension"))
  match ext.asm.render with
  | .error e => pure (.error (Errors.configuration ext.name (Failure.report e)))
  | .ok source =>
    match ← D.buildDir ext with
    | .error e => pure (.error e)
    | .ok dir =>
      modifyExt fun e => { e with builds := e.builds + 1 }
      match ← D.compile (buildRequest ext dir source) with
      | .error e => pure (.error e)
      | .ok path =>
        match ← D.load path ext.name with
        | .error e => pure (.error e)
        | .ok t => D.install t

/-- Prepare the extension: keep the installed artifact when it has the current revision,
else, before the first one, take the persistent directory's artifact when it has it, else
build. A rebuild from inside a reverse callback is refused. -/
def prepare : WorldM ω (Except FailureReport Unit) := do
  let some ext ← getExt | pure (.error (.plain "no extension"))
  match ext.asm.revision with
  | .error e => pure (.error (Errors.configuration ext.name (Failure.report e)))
  | .ok want =>
    match ext.table with
    | some t =>
      if (← D.revision t) == some want then return .ok ()
      if ext.inCallback > 0 then return .error (Errors.reentrant ext.name)
      match ← D.lockFor ext with
      | .error e => pure (.error e)
      | .ok () => D.build
    | none =>
      match ← D.lockFor ext with
      | .error e => pure (.error e)
      | .ok () =>
        match ext.dir with
        | none => D.build
        | some dir =>
          match ← D.load (D.libraryPath dir ext.name) ext.name with
          | .error _ => D.build
          | .ok t =>
            if (← D.revision t) != some want then
              let _ ← D.close t
              D.build
            else D.install t

/-- The installed method behind a proxy, for an attribute. -/
def proxyLookup (name attr : String) : WorldM ω (Except FailureReport (Nat × UInt64)) := do
  match ← currentExt with
  | .error e => pure (.error e)
  | .ok ext =>
    match ext.table with
    | none => pure (.error (Errors.notInitialized ext.name))
    | some t =>
      match ← D.lookup t name with
      | none => pure (.error (Errors.codeDiverged ext.name name attr))
      | some fn => pure (.ok (t, fn))

/-- Call a proxy's function. -/
def invoke (name : String) (args : List HostValue) : WorldM ω (Except FailureReport HostValue) := do
  match ← D.proxyLookup name "call" with
  | .error e => pure (.error e)
  | .ok (t, fn) => D.call t name fn args

/-- Resolve a proxy. -/
def resolve (name : String) : WorldM ω (Except FailureReport Resolved) := do
  match ← D.proxyLookup name "call" with
  | .error e => pure (.error e)
  | .ok (t, _) => pure (.ok { name, doc := ← D.doc t name, flags := ← D.flags t name })

/-- An attribute of the method `name` of artifact `t` of module `moduleName`: its name, doc,
flags, or the artifact's revision. -/
def attributeValue (moduleName name attr : String) (t : Nat) :
    WorldM ω (Except FailureReport HostValue) :=
  match attr with
  | "name" => pure (.ok (.str (Utf8.ofString name)))
  | "doc" => do pure (.ok (.str (← D.doc t name)))
  | "flags" => do pure (.ok (.int (← D.flags t name)))
  | "revision" => do
    match ← D.revision t with
    | some r => pure (.ok (.uint r))
    | none => pure (.error (Errors.codeDiverged moduleName name attr))
  | _ => pure (.error (Errors.codeDiverged moduleName name attr))

/-- An attribute of a proxy: its name, doc, flags, or the installed artifact's revision. -/
def attributeOf (name attr : String) : WorldM ω (Except FailureReport HostValue) := do
  match ← D.proxyLookup name attr with
  | .error e => pure (.error e)
  | .ok (t, _) =>
    let moduleName := match ← currentExt with
      | .ok e => e.name
      | .error _ => ""
    D.attributeValue moduleName name attr t

end Driver

end

end InlineC.Host
