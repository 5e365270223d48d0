import InlineC.Host.Convert
import InlineC.Host.Driver
import InlineC.Host.Toolchain

/-!
# Working with an extension

The operations of an extension that run native code, and the host code native code calls
back: they call one another, so they are defined together, bounded by a nesting depth.

* The trampoline runs the callback a handle selects: it reads the argument object, runs the
  callback, and makes an object of its result; a failure of any step, a panic included,
  sets a `RuntimeError` and gives null, so nothing unwinds through native frames.
* Calling a method builds the argument tuple, calls through `cx_call`, and reads the result.
* Loading a library lays it out, resolves it (a symbol nothing defines fails the load) and
  runs its initializer, whose null result fails the load with the error it set.
* Preparing the extension is preparing it with the library's own driver: its compiler,
  the loader above, and the symbol tables of loaded libraries. Closing a library is refused
  while one of its callbacks is running.
-/

namespace InlineC.Host

open InlineC.Lang InlineC.Machine

/-- How far the evaluator may go in one run of native code. -/
def machineFuel : Nat := 1000000000

/-- A managed function `prepare` callbacks add: no parameters, returning `None`. -/
def preparedFunction (name : String) : Except DeclError Declaration :=
  (Declaration.managedFunction name {} "return cx_none();" "").map .managed

/-- Add a managed function and keep a proxy for it. -/
def addManagedProxy (d : Except DeclError Declaration) : HostM (Except FailureReport Unit) := do
  match ← getExt with
  | none => pure (.error (.plain "no extension"))
  | some ext =>
    match d with
    | .error e => pure (.error (Errors.configuration ext.name (Failure.report e)))
    | .ok d =>
      match ← addDeclaration d with
      | .ok () =>
        modifyHost fun s => { s with proxies := if s.proxies.contains d.name then s.proxies
                                                   else s.proxies ++ [d.name] }
        pure (.ok ())
      | .error e => pure (.error e)

/-- Record a result in the log. -/
def logResult (r : Except FailureReport Unit) : HostM PUnit :=
  modifyHost fun s => { s with log := s.log ++ [match r with | .ok () => none | .error e => some e] }

/-- Run a callback that needs nothing of the extension. -/
def plainOutcome (s : CallbackSpec) (args : List HostValue) : Option Outcome :=
  match s with
  | .echo => some (.value (.tuple args))
  | .null => some (.value .nil)
  | .len => some (.value (.int args.length))
  | .types => some (.value (.tuple (args.map fun v => .str (Utf8.ofString v.typeName))))
  | .sum => some (sumValues args)
  | .sumProd => some (sumProdValues args)
  | .returns v => some (.value v)
  | .error m => some (.error (.plain m))
  | .panic m => some (.panic m)
  | _ => none

/-- A library the compiler did not write. -/
def missingLibrary (name path : String) : FailureReport :=
  Errors.load name path (.plain (path ++ ": cannot open shared object file: No such file or directory"))

/-- Compile a translation unit into its directory. The old library goes first, so a failed
build leaves none; a compiler that writes no library leaves none either. -/
def compileInto (req : CompileRequest) : HostM (Except FailureReport String) := do
  let path := req.outDir ++ "/" ++ libraryFilename req.name
  modifyHost fun s => { s with files := s.files.filter (·.1 != path) }
  match compileLibrary req.name req.source req.flags with
  | .error step => pure (.error (Errors.compile req.name step))
  | .ok none => pure (.ok path)
  | .ok (some lib) =>
    modifyHost fun s => { s with files := s.files ++ [(path, lib)] }
    pure (.ok path)

/-- The library's own driver, given how to call a method and how to open a library: the
compiler above, the written libraries as the loader finds them, and the symbol tables of the
loaded libraries. -/
def toolchainWith
    (call : Nat → String → UInt64 → List HostValue → HostM (Except FailureReport HostValue))
    (openLib : String → String → Machine.Library → HostM (Except FailureReport Nat)) :
    Driver (World HostState) where
  libraryPath dir name := dir ++ "/" ++ libraryFilename name
  lock _ := pure (.ok ())
  makeTempDir name := pure (.ok (tempDir name))
  compile := compileInto
  load path name := do
    match (← getHost).files.lookup path with
    | none => pure (.error (missingLibrary name path))
    | some lib => openLib path name lib
  revision := libraryRevision
  lookup := lookupMethod
  doc := methodDoc
  flags := methodFlags
  call := call
  close := closeLibrary

/-- What the trampoline does for a registration, given how to run its callback: it reads the
argument object, runs the callback, and makes an object of its result; a failure of any step,
a panic included, sets a `RuntimeError` and gives null, so nothing unwinds through native
frames. -/
def callRegistered (run : Callback → List HostValue → HostM Outcome) (reg : Registration)
    (img : Nat) (args : UInt64) : HostM UInt64 := do
  -- the trampoline recovers the host's own panics, and reports them as the call's error
  let converted ← tryCatch (fromObject img nestingDepth args) fun f =>
    if f == negativeLengthPanic then pure (.error (.plain ("callback panicked: " ++ f.message)))
    else throw f
  match converted with
  | .error e =>
    setErrorString img e.message
    pure 0
  | .ok v =>
    match ← run reg.callback v.asArgs with
    | .panic msg =>
      setErrorString img (Utf8.ofString ("callback panicked: " ++ msg))
      pure 0
    | .error e =>
      setErrorString img e.message
      pure 0
    | .value out =>
      match ← toObject reg.lib img out with
      | .error e =>
        setErrorString img e.message
        pure 0
      | .ok o => pure o

mutual

/-- The trampoline: run the callback registered under a handle with an argument object, its
library counting the callback as running meanwhile. -/
def trampoline : Nat → UInt64 → UInt64 → HostM UInt64
  | 0, _, _ => throw ⟨"callbacks nested too deeply"⟩
  | fuel + 1, handle, args => do
    match (← getHost).registry.find? (·.handle == handle) with
    | none => pure 0
    | some reg =>
      let lib ← getLib reg.lib
      modifyLib reg.lib fun l => { l with callbacks := l.callbacks + 1 }
      let result ← callRegistered (runCallback fuel) reg lib.image args
      modifyLib reg.lib fun l => { l with callbacks := l.callbacks - 1 }
      pure result

/-- Run a callback with arguments. -/
def runCallback : Nat → Callback → List HostValue → HostM Outcome
  | 0, _, _ => throw ⟨"callbacks nested too deeply"⟩
  | fuel + 1, .plain s, args => runSpec fuel s args
  | fuel + 1, .reverse n s, args => do
    modifyExt fun e => { e with inCallback := e.inCallback + 1 }
    let o ← runSpec fuel s args
    modifyExt fun e => { e with inCallback := e.inCallback - 1 }
    match o with
    | .value v =>
      if n == 0 then pure (.value (.tuple []))
      else match v with
        | .tuple _ => pure (.value v)
        | other => pure (.value (.tuple [other]))
    | other => pure other

/-- Run a callback's behaviour. -/
def runSpec : Nat → CallbackSpec → List HostValue → HostM Outcome
  | 0, _, _ => throw ⟨"callbacks nested too deeply"⟩
  | fuel + 1, s, args =>
    match s with
    | .wrap inner => do
      match ← runSpec fuel inner args with
      | .value v => pure (.value (.tuple [v]))
      | other => pure other
    | .prepare add v => do
      logResult (← prepare fuel)
      match add with
      | some name => do
        logResult (← addManagedProxy (preparedFunction name))
        logResult (← prepare fuel)
      | none => pure ()
      pure (.value v)
    | other =>
      match plainOutcome other args with
      | some o => pure o
      | none => pure (.value .nil)

/-- Call a method of a library with host arguments. -/
def callMethod : Nat → Nat → String → UInt64 → List HostValue →
    HostM (Except FailureReport HostValue)
  | 0, _, _, _, _ => throw ⟨"callbacks nested too deeply"⟩
  | fuel + 1, lib, name, fn, args => do
    let l ← getLib lib
    if l.closed then return .error Errors.closed
    match ← toTuple lib l.image args with
    | .error e => pure (.error (e.wrap none ("call " ++ name ++ ": ")))
    | .ok inp =>
      let res ← callProvided (trampoline fuel) l.image machineFuel "cx_call"
        [fn, l.module, inp] [false, false, false]
      onImage l.image (Objects.decref Objects.releaseDepth inp)
      if res == 0 then return .error (← takeError l.image (name ++ " failed"))
      let v ← fromObject l.image nestingDepth res
      onImage l.image (Objects.decref Objects.releaseDepth res)
      pure v

/-- Load a compiled library: resolve its symbols, run its constructors, then its module
initializer. -/
def openLibrary : Nat → String → String → Machine.Library → HostM (Except FailureReport Nat)
  | 0, _, _, _ => throw ⟨"callbacks nested too deeply"⟩
  | fuel + 1, path, name, lib => do
    match lib.unresolved with
    | sym :: _ =>
      return .error (Errors.load name path (.plain (path ++ ": undefined symbol: " ++ sym)))
    | [] => pure ()
    let init := Assembly.initSymbol name
    if !(lib.functions.any fun f => f.name == init && f.exported) then
      return .error (Errors.load name path (.plain ("resolve " ++ init ++ ": undefined symbol: " ++ init)))
    match Image.build lib with
    | .error e => throw e
    | .ok image =>
      let idx := (← get).images.size
      modify fun w => { w with images := w.images.push image }
      for c in lib.constructors do
        let _ ← callAddr (trampoline fuel) idx machineFuel (functionBase + (16 * c).toUInt64) #[] #[]
      onImage idx Objects.clearError
      let m ← callNamed (trampoline fuel) idx machineFuel init [] []
      if m == 0 then
        return .error (Errors.load name path (← takeError idx "module initializer returned NULL"))
      let t := (← getHost).libs.size
      modifyHost fun s => { s with libs := s.libs.push { name, path, image := idx, module := m } }
      pure (.ok t)

/-- Prepare the extension with the driver whose compiler is the library's own and whose
loader is `openLibrary`. -/
def prepare : Nat → HostM (Except FailureReport Unit)
  | 0 => throw ⟨"callbacks nested too deeply"⟩
  | fuel + 1 => (toolchainWith (callMethod fuel) (openLibrary fuel)).prepare

end

/-- The library's own driver, nesting at most `fuel` deep. -/
def toolchain (fuel : Nat) : Driver (World HostState) :=
  toolchainWith (callMethod fuel) (openLibrary fuel)

/-- Hand a reverse function's callback to the loaded library. -/
def activate (fuel : Nat) (rname : String) : HostM (Except FailureReport Unit) :=
  (toolchain fuel).activate rname

end InlineC.Host
