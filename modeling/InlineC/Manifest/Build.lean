import InlineC.Manifest.Basic
import InlineC.Host.Extension
import InlineC.Declaration.Render

/-!
# Building an extension from a manifest

The manifest's flags and directory configure a new extension, which then declares the
units in order. A relative directory is taken from the manifest's file, and a caller may
replace it. The first unit the extension refuses ends the build and leaves no extension.
Managed and raw functions get proxies, their docs trimmed of surrounding white space.
-/

namespace InlineC.Host

/-- Declare one unit of a manifest on the current extension. -/
def declareUnit (u : ManifestUnit) : HostM (Except FailureReport Unit) :=
  let doc := Render.trimSpace u.doc
  if u.kind == "block" then addChecked (.ok (.block u.code))
  else if u.kind == "native" then
    addChecked ((Declaration.nativeFunction u.name u.signature u.body).map .native)
  else if u.kind == "managed" then
    addManagedProxy ((Declaration.managedFunction u.name u.signature u.body doc).map .managed)
  else if u.kind == "raw" then
    addManagedProxy ((Declaration.rawFunction u.name u.body doc).map .managed)
  else pure (.ok ())

/-- Declare units in order, stopping at the first refused. -/
def declareUnits : List ManifestUnit → HostM (Except FailureReport Unit)
  | [] => pure (.ok ())
  | u :: rest => do
    match ← declareUnit u with
    | .error e => pure (.error e)
    | .ok () => declareUnits rest

/-- The directory of the extension a manifest describes: `dir` when given, else the manifest's
own, taken relative to its file, when it has one. -/
def extensionDir (m : Manifest) (dir : Option String) : Option String :=
  match dir with
  | some d => some d
  | none => if m.resolvedDir.isEmpty then none else some m.resolvedDir

/-- Make the extension a manifest describes the current one, with its proxies. `dir`, when
given, replaces the manifest's directory. -/
def buildManifest (m : Manifest) (dir : Option String) : HostM (Except FailureReport Unit) := do
  modifyHost fun s => { s with ext := none, proxies := [] }
  match newExtension m.name (extensionDir m dir) (m.flags.getD []) with
  | .error e => pure (.error e)
  | .ok e =>
    modifyHost fun s => { s with ext := some e }
    match ← declareUnits m.units with
    | .ok () => pure (.ok ())
    | .error err =>
      modifyHost fun s => { s with ext := none, proxies := [] }
      pure (.error err)

end InlineC.Host
