import InlineC.Service.Decode
import InlineC.Service.Values
import InlineC.Host.Extension
import InlineC.Manifest.Build

/-!
# Modules

The `module` request: create an extension, then run a script of steps against it, each
answered in order. Steps add units, query and prepare the extension, call what it loaded,
run reverse functions and background builds. When creation fails, every step answers that
there is no extension.

Native code that goes wrong in a way the machine cannot continue from (a bad address, a
trap) ends the step with a panic answer, and the state and the background build stay as they
were before the step.
-/

namespace InlineC.Service

open Document InlineC.Host InlineC.Machine

/-- A failure report as an answer. -/
def reportDoc (r : FailureReport) : Document := .record (reportFields r)

/-- A record with more fields. -/
def withFields (d : Document) (more : List (String × Document)) : Document :=
  match d with
  | .record fs => .record (fs ++ more)
  | other => other

/-- The answer of a result without a value. -/
def unitAnswer : Except FailureReport Unit → Document
  | .ok () => okAnswer
  | .error e => reportDoc e

/-- The answer of a callback's outcome. -/
def outcomeAnswer : Outcome → Document
  | .value v => .record [("value", encodeValue v)]
  | .error e => reportDoc e
  | .panic msg => .record [("error", .str "Panic"), ("message", .str msg)]

/-- Strings in order. -/
def sortStrings (xs : List String) : List String := (xs.toArray.qsort (· < ·)).toList

/-- How the extension of a request is made, so that `new` can make it again: from a name,
a directory and flags, or from a manifest with the directory that replaces its own. -/
inductive Recipe where
  | plain (name : String) (dir : Option String) (flags : List String)
  | manifest (m : Manifest) (dir : Option String)

/-- Make the extension of a recipe the current one, without proxies and with a new
background build. -/
def Recipe.create (r : Recipe) : BgM (Except FailureReport Unit) := do
  set ({} : Background)
  match r with
  | .plain name dir flags =>
    match newExtension name dir flags with
    | .ok e =>
      modifyHost fun s => { s with ext := some e, proxies := [] }
      pure (.ok ())
    | .error e =>
      modifyHost fun s => { s with ext := none, proxies := [] }
      pure (.error e)
  | .manifest m dir => buildManifest m dir

/-- The directory a request's persistent extension uses. -/
def moduleDir : String := "<tmp>/module"

/-- The state of the extension, as the `state` step answers it. -/
def stateAnswer (ext : Extension) (proxies : List String) : Document :=
  .record [("name", .str ext.name), ("anonymous", .bool ext.anonymous),
    ("loaded", .bool ext.table.isSome), ("builds", int ext.builds),
    ("units", .list (ext.asm.decls.map fun d =>
      .record [("kind", .str d.kind.name), ("name", .str d.name)])),
    ("error_name", .str (ext.name ++ ".error")),
    ("error_symbol", .str (Assembly.errorSymbol ext.name)),
    ("flags", strings ext.flags), ("has_dir", .bool ext.dir.isSome),
    ("proxies", strings (sortStrings proxies)),
    ("reverse", strings (sortStrings (ext.reverse.map (·.name))))]

/-- The arguments of a step. -/
def stepArgs (step : Document) : Except String (List HostValue) :=
  match step.given? "args" with
  | some (.list xs) => decodeValues valueDepth xs
  | some _ => .error "args must be a list"
  | none => .ok []

/-- A callback field of a step, absent when missing. -/
def stepCallback (step : Document) (key : String) : Except String (Option CallbackSpec) :=
  match step.given? key with
  | some d => (decodeSpec valueDepth d).map some
  | none => .ok none

/-- Answer a step that adds a unit. -/
def addStep (step : Document) : HostM Document := do
  match step.text "add" with
  | "block" => do pure (unitAnswer (← addChecked (.ok (.block (step.text "code")))))
  | "native" => do
    pure (unitAnswer (← addChecked ((Declaration.nativeFunction (step.text "name")
      (decodeSignature step) (step.text "body")).map .native)))
  | "managed" => do
    pure (unitAnswer (← addManagedProxy ((Declaration.managedFunction (step.text "name")
      (decodeSignature step) (step.text "body") (step.text "doc")).map .managed)))
  | "raw" => do
    pure (unitAnswer (← addManagedProxy ((Declaration.rawFunction (step.text "name")
      (step.text "body") (step.text "doc")).map .managed)))
  | "reverse" =>
    match stepCallback step "callback" with
    | .error e => pure (badInput e)
    | .ok spec => do
      match ← addReverse (step.text "name") (decodeSignature step) spec with
      | .ok capture => pure (.record [("ok", .bool true), ("capture_name", .str capture)])
      | .error e => pure (reportDoc e)
  | other => pure (badInput ("unknown unit kind " ++ Text.quote other))

/-- The build counters `prepare` answers carry. -/
def buildFields : HostM (List (String × Document)) := do
  match ← getExt with
  | some ext => pure [("builds", int ext.builds), ("loaded", .bool ext.table.isSome)]
  | none => pure []

/-- Whether the driver holds a proxy of a name. -/
def hasProxy (name : String) : HostM Bool := do pure ((← getHost).proxies.contains name)

/-- Answer a `do` step. -/
def doStep (recipe : Recipe) (step : Document) : BgM Document := do
  let some ext ← (getExt : HostM _) | pure (.record [("error", .str "NoExtension")])
  match step.text "do" with
  | "render" =>
    if ext.anonymous then pure (.record [("skipped", .str "anonymous")])
    else pure (match ext.asm.render with
      | .ok s => .record [("source", .str s)]
      | .error e => failure e)
  | "revision" =>
    if ext.anonymous then pure (.record [("skipped", .str "anonymous")])
    else pure (match ext.asm.revision with
      | .ok r => .record [("revision", int r)]
      | .error e => failure e)
  | "state" => pure (stateAnswer ext (← getHost).proxies)
  | "prepare" => do
    let r ← prepare hostDepth
    pure (withFields (unitAnswer r) (← buildFields))
  | "ensured" => do
    let r ← prepare hostDepth
    let builds := (← buildFields).filter (·.1 == "builds")
    pure (withFields (unitAnswer r) (builds ++ [("ran", .bool r.toBool)]))
  | "invoke" =>
    let fn := step.text "fn"
    if !(← hasProxy fn) then return .record [("error", .str "NoProxy")]
    match stepArgs step with
    | .error e => pure (badInput e)
    | .ok args => do
      match ← invokeProxy fn args with
      | .ok v => pure (.record [("value", encodeValue v)])
      | .error e => pure (reportDoc e)
  | "resolve" =>
    let fn := step.text "fn"
    if !(← hasProxy fn) then return .record [("error", .str "NoProxy")]
    match ← resolveProxy fn with
    | .ok r => pure (.record [("name", .str r.name), ("doc", .octets r.doc), ("flags", int r.flags)])
    | .error e => pure (reportDoc e)
  | "attr" =>
    let fn := step.text "fn"
    if !(← hasProxy fn) then return .record [("error", .str "NoProxy")]
    match ← proxyAttribute fn (step.text "attr") with
    | .ok v => pure (.record [("value", encodeValue v)])
    | .error e => pure (reportDoc e)
  | "reverse_invoke" =>
    match stepArgs step with
    | .error e => pure (badInput e)
    | .ok args => do
      match ← reverseInvoke (step.text "fn") args with
      | some o => pure (outcomeAnswer o)
      | none => pure (.record [("error", .str "NoProxy")])
  | "activated" =>
    let fn := step.text "fn"
    if !(ext.reverse.any (·.name == fn)) then return .record [("error", .str "NoProxy")]
    pure (.record [("activated", .bool (← reverseActivated fn))])
  | "activate" =>
    let fn := step.text "fn"
    if !(ext.reverse.any (·.name == fn)) then return .record [("error", .str "NoProxy")]
    pure (unitAnswer (← activate hostDepth fn))
  | "new" => do pure (unitAnswer (← recipe.create))
  | "log" => do
    let log := (← getHost).log
    modifyHost fun s => { s with log := [] }
    pure (.record [("log", .list (log.map fun e => match e with
      | none => okAnswer
      | some r => reportDoc r))])
  | other => pure (badInput ("unknown step " ++ Text.quote other))

/-- Answer a background step. -/
def bgStep (step : Document) : BgM Document := do
  let some _ ← (getExt : HostM _) | pure (.record [("error", .str "NoExtension")])
  match step.text "bg" with
  | "define" =>
    match stepCallback step "fallback" with
    | .error e => pure (badInput e)
    | .ok fb => do pure (unitAnswer (← bgDefine (step.text "name") (decodeSignature step) fb))
  | "sub" => do
    match ← bgSub (step.text "fn") (step.text "body") (step.text "doc") with
    | some r => pure (unitAnswer r)
    | none => pure (.record [("error", .str "NoProxy")])
  | "start" => do pure (unitAnswer (← bgStart))
  | "poll" => do
    match ← bgPoll with
    | .ok b => pure (.record [("ready", .bool b)])
    | .error e => pure (reportDoc e)
  | "invoke" =>
    match stepArgs step with
    | .error e => pure (badInput e)
    | .ok args => do
      match ← bgInvoke (step.text "fn") args with
      | some o => pure (outcomeAnswer o)
      | none => pure (.record [("error", .str "NoProxy")])
  | "native" => do
    match ← bgNative (step.text "fn") with
    | some b => pure (.record [("native", .bool b)])
    | none => pure (.record [("error", .str "NoProxy")])
  | other => pure (badInput ("unknown background step " ++ Text.quote other))

/-- Answer one step. -/
def moduleStep (recipe : Recipe) (step : Document) : BgM Document := do
  if (step.given? "add").isSome then
    let some _ ← (getExt : HostM _) | pure (.record [("error", .str "NoExtension")])
    addStep step
  else if (step.given? "do").isSome then doStep recipe step
  else if (step.given? "bg").isSome then bgStep step
  else pure (badInput "unknown step")

/-- Run steps in order, each from the world and background build the previous one left. -/
def runSteps (recipe : Recipe) : World HostState → Background → List Document → List Document
  | _, _, [] => []
  | w, b, step :: rest =>
    match ((moduleStep recipe step).run b).run w with
    | .ok ((d, b'), w') => d :: runSteps recipe w' b' rest
    | .error f =>
      .record [("error", .str "Panic"), ("message", .str f.message)] :: runSteps recipe w b rest

/-- Answer a `module` request whose extension is made by a recipe. -/
def answerRecipe (recipe : Recipe) (steps : List Document) : Document :=
  let world : World HostState := { images := #[], host := {} }
  match (recipe.create.run {}).run world with
  | .error f => .record [("error", .str "Panic"), ("message", .str f.message)]
  | .ok ((created, b), world) =>
    .record [("create", unitAnswer created), ("steps", .list (runSteps recipe world b steps))]

/-- Answer a `module` request. -/
def answerModule (req : Document) : Document :=
  let steps := ((req.given? "steps").bind asList?).getD []
  match req.given? "manifest" with
  | some _ =>
    match Manifest.parse (req.text "manifest") with
    | .ok m => answerRecipe (.manifest m (if m.dir.isEmpty then none else some moduleDir)) steps
    | .error e =>
      match e.describe with
      | (msg, true) => .record [("error", .str "Panic"), ("message", .str msg)]
      | _ => failure e
  | none =>
    answerRecipe (.plain (req.text "name") (if req.flag "dir" then some moduleDir else none)
      ((req.texts? "flags").getD [])) steps

end InlineC.Service
