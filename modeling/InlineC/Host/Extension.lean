import InlineC.Host.Session

/-!
# Extensions

Creating an extension, declaring its units, and using what it loaded: proxies of managed
functions (calling them, resolving them, reading their attributes), reverse functions, and
background builds whose functions run a fallback until the build is ready.

A name that is empty makes an anonymous extension, named by a generated identifier; an
anonymous extension cannot keep a persistent directory.
-/

namespace InlineC.Host

open InlineC.Lang InlineC.Machine

/-- How deeply host code and native code may call each other. -/
def hostDepth : Nat := 64

/-- The name an anonymous extension gets. -/
def anonymousName : String := "cexi_" ++ String.ofList (List.replicate 32 '0')

/-- Create an extension. -/
def newExtension (name : String) (dir : Option String) (flags : List String) :
    Except FailureReport Extension :=
  let anonymous := name.isEmpty
  let name := if anonymous then anonymousName else name
  match Identifier.validate name with
  | .error e => .error (Errors.configuration name (Failure.report e))
  | .ok () =>
    if anonymous && dir.isSome then
      .error (Errors.configuration name
        (.plain "anonymous extensions can not use a persistent directory"))
    else .ok { name, anonymous, dir, flags, asm := { name } }

/-- Add a declaration made by a constructor that may refuse it. -/
def addChecked (d : Except DeclError Declaration) : HostM (Except FailureReport Unit) := do
  match ← currentExt with
  | .error e => pure (.error e)
  | .ok ext =>
    match d with
    | .error e => pure (.error (Errors.configuration ext.name (Failure.report e)))
    | .ok d => addDeclaration d

/-- Add a reverse function: its capture and dispatch units, and its callback. Answers the
capture's name. -/
def addReverse (name : String) (sig : Signature) (spec : Option CallbackSpec) :
    HostM (Except FailureReport String) := do
  match ← currentExt with
  | .error e => pure (.error e)
  | .ok ext =>
    let cfg := fun (r : FailureReport) => Errors.configuration ext.name r
    match spec with
    | none => pure (.error (cfg (.plain ("reverse function " ++ name ++ " has no callback"))))
    | some spec =>
      match Declaration.captureOf name ext.name with
      | .error e => pure (.error (cfg (Failure.report e)))
      | .ok capture =>
        match Declaration.dispatchOf sig capture with
        | .error e => pure (.error (cfg (Failure.report e)))
        | .ok dispatch =>
          let syms := (Declaration.capture capture).symbols ++ (Declaration.dispatch dispatch).symbols
          match syms.find? ext.asm.isTaken with
          | some n => pure (.error (cfg (Failure.report (CollisionError.mk ext.name n))))
          | none =>
            match ← addDeclaration (.capture capture) with
            | .error e => pure (.error e)
            | .ok () =>
              match ← addDeclaration (.dispatch dispatch) with
              | .error e => pure (.error e)
              | .ok () =>
                let r : ReverseFn := { name := dispatch.name, capture := capture.name,
                                       returns := dispatch.returns.length, spec }
                modifyExt fun e => { e with reverse := e.reverse ++ [r] }
                pure (.ok capture.name)

/-- Call a proxy's function. -/
def invokeProxy (name : String) (args : List HostValue) : HostM (Except FailureReport HostValue) :=
  (toolchain hostDepth).invoke name args

/-- Resolve a proxy. -/
def resolveProxy (name : String) : HostM (Except FailureReport Resolved) :=
  (toolchain hostDepth).resolve name

/-- An attribute of a proxy: its name, doc, flags, or the module's revision. -/
def proxyAttribute (name attr : String) : HostM (Except FailureReport HostValue) :=
  (toolchain hostDepth).attributeOf name attr

/-- Run a reverse function's callback directly. -/
def reverseInvoke (name : String) (args : List HostValue) : HostM (Option Outcome) := do
  match ← getExt with
  | none => pure none
  | some ext =>
    match ext.reverse.find? (·.name == name) with
    | none => pure none
    | some r => pure (some (← runSpec hostDepth r.spec args))

/-- Whether a reverse function's callback was handed to the loaded library. -/
def reverseActivated (name : String) : HostM Bool := do
  match ← getExt with
  | none => pure false
  | some ext =>
    match ext.reverse.find? (·.name == name) with
    | some r => pure (r.activated.isSome && r.activated == ext.table)
    | none => pure false

/-! ## Background builds

A background build changes in steps that read the extension but never write it, and these
are functions of the build here: defining a function, supplying a body, and polling for the
worker's result. Starting the build declares units on the extension, and calling a function
runs native code or a fallback; those run in the host, beside the build.
-/

namespace Background

/-- Define a function with its fallback, unless the build has started. The extension, when
there is one, judges the function's name and signature. -/
def define (b : Background) (ext : Except FailureReport Extension) (name : String)
    (sig : Signature) (fallback : Option CallbackSpec) : Except FailureReport Unit × Background :=
  if b.started then (.error Errors.tooLate, b)
  else match ext with
    | .error e => (.error e, b)
    | .ok ext =>
      match Declaration.managedFunction name sig "" "" with
      | .error e => (.error (Errors.configuration ext.name (Failure.report e)), b)
      | .ok _ =>
        match fallback with
        | none => (.error (Errors.configuration ext.name
            (.plain ("function " ++ name ++ " has no fallback"))), b)
        | some fb => (.ok (), { b with fns := b.fns ++ [{ name, sig, fallback := fb }] })

/-- Supply a body to the first function of a name that has none. -/
def supplyBody (fn body doc : String) : List DynamicFn → List DynamicFn
  | [] => []
  | g :: rest => if g.name == fn && g.body.isNone then { g with body := some (body, doc) } :: rest
    else g :: supplyBody fn body doc rest

/-- Supply the body of the function `fn`: too late once it has one or the build has started.
Nothing when no function has that name. -/
def supply (b : Background) (fn body doc : String) :
    Option (Except FailureReport Unit) × Background :=
  match b.fns.find? (·.name == fn) with
  | none => (none, b)
  | some f =>
    if f.body.isSome || b.started then (some (.error Errors.tooLate), b)
    else (some (.ok ()), { b with fns := supplyBody fn body doc b.fns })

/-- The functions that have a body. -/
def pending (b : Background) : List DynamicFn := b.fns.filter (·.body.isSome)

/-- The build once started: every function with a body was declared and has a proxy. -/
def committed (b : Background) : Background :=
  { b with started := true,
           fns := b.fns.map fun f => if f.body.isSome then { f with proxy := true } else f }

/-- Poll a build whose extension is named `name`: whether it is ready, or its failure, and the
build after. The worker's result is taken once: a success switches the build to native code,
an error becomes its failure, and either stays. -/
def poll (b : Background) (name : String) : Except FailureReport Bool × Background :=
  if b.switched then (.ok true, b)
  else match b.fatal with
    | some e => (.error e, b)
    | none =>
      if !b.started then (.ok false, b)
      else match b.result with
        | none => (.ok false, b)
        | some (some e) =>
          let fatal := Errors.backgroundCompile name e
          (.error fatal, { b with fatal := some fatal, result := none })
        | some none => (.ok true, { b with switched := true, result := none })

end Background

/-- The managed functions a build declares when it starts, one per function with a body, in
order; or the first that cannot be made. -/
def commitUnits (ext : Extension) (pending : List DynamicFn) :
    Except FailureReport (List Declaration) :=
  let units := pending.map fun f =>
    let (body, doc) := f.body.getD ("", "")
    Declaration.managedFunction f.name f.sig body doc
  let failed := units.findSome? fun u => match u with
    | .error e => some e
    | .ok _ => none
  match failed with
  | some e => .error (Errors.configuration ext.name (Failure.report e))
  | none =>
    .ok (units.filterMap fun u => match u with
      | .ok m => some (Declaration.managed m)
      | .error _ => none)

/-- Running host code beside a background build. The build is the caller's own: native code,
callbacks and the worker that prepares the extension run in the host alone and cannot
reach it. -/
abbrev BgM := StateT Background HostM

/-- The name of the current extension, or the empty name. -/
def extName : HostM String := do
  match ← getExt with
  | some x => pure x.name
  | none => pure ""

/-- Define a background function with its fallback. -/
def bgDefine (name : String) (sig : Signature) (fallback : Option CallbackSpec) :
    BgM (Except FailureReport Unit) := do
  let ext ← (currentExt : HostM _)
  modifyGet fun b => b.define ext name sig fallback

/-- Supply a background function's body. -/
def bgSub (fn body doc : String) : BgM (Option (Except FailureReport Unit)) :=
  modifyGet fun b => b.supply fn body doc

/-- Commit the background build: declare every function that has a body, all of them or
none, and mark the build started. -/
def bgCommit : BgM (Except FailureReport Unit) := do
  let b ← get
  if b.started then return .error Errors.tooLate
  if b.pending.isEmpty then return .error Errors.tooEarly
  match ← (currentExt : HostM _) with
  | .error e => pure (.error e)
  | .ok ext =>
    match commitUnits ext b.pending with
    | .error e => pure (.error e)
    | .ok decls =>
      match ← (addManaged decls : HostM _) with
      | .error e => pure (.error e)
      | .ok _ =>
        set b.committed
        pure (.ok ())

/-- Hand the worker's result to the build: none for success, or the error it failed with. -/
def bgFinish (r : Option FailureReport) : BgM PUnit :=
  modify fun (b : Background) => { b with result := some r }

/-- Start the background build and wait for its worker, which prepares the extension. -/
def bgStart : BgM (Except FailureReport Unit) := do
  match ← bgCommit with
  | .error e => pure (.error e)
  | .ok () =>
    let r ← (prepare hostDepth : HostM _)
    bgFinish (match r with | .ok () => none | .error e => some e)
    pure (.ok ())

/-- Whether the background build is ready, or its failure. -/
def bgPoll : BgM (Except FailureReport Bool) := do
  let name ← (extName : HostM _)
  modifyGet fun b => b.poll name

/-- The outcome of a call that ends with a value or an error. -/
def Outcome.ofResult : Except FailureReport HostValue → Outcome
  | .ok v => .value v
  | .error e => .error e

/-- Call a background function: natively once the build is ready, else its fallback. -/
def bgInvoke (fn : String) (args : List HostValue) : BgM (Option Outcome) := do
  let b ← get
  match b.fns.find? (·.name == fn) with
  | none => pure none
  | some f =>
    match ← bgPoll with
    | .error e => pure (some (.error e))
    | .ok ready =>
      if ready && f.proxy then pure (some (Outcome.ofResult (← (invokeProxy fn args : HostM _))))
      else pure (some (← (runSpec hostDepth f.fallback args : HostM _)))

/-- Whether a background function runs natively. -/
def bgNative (fn : String) : BgM (Option Bool) := do
  let b ← get
  match b.fns.find? (·.name == fn) with
  | none => pure none
  | some f => pure (some (b.switched && f.proxy))

end InlineC.Host
