import InlineC.Service.Module
import InlineC.Manifest.Build

/-!
# Manifest requests

The `manifest` request decodes manifest text and answers what it holds, together with what
building it gives: the extension's kind, unit count and proxies, and for a named module its
rendered source and revision. With `file`, the text is first stored under that name in the
manifest directory, which then holds that file alone. The answer tells where the file is and
which manifests a search of the directory finds. A search finds the files ending in
`.cexi.toml`.
-/

namespace InlineC.Service

open Document InlineC.Host InlineC.Machine

/-- The directory manifest files are stored in. -/
def manifestDir : String := "<tmp>/manifests"

/-- The answer of a manifest error: a panic, or an invalid manifest. -/
def manifestErrorAnswer (e : ManifestError) : Document :=
  match e.describe with
  | (msg, true) => .record [("error", .str "Panic"), ("message", .str msg)]
  | (_, false) => failure e

/-- A unit as the answer shows it. -/
def manifestUnitAnswer (u : ManifestUnit) : Document :=
  .record [("kind", .str u.kind), ("name", .str u.name),
    ("params", .list (u.params.map fun p => .record [("name", .str p.name), ("type", .str p.type)])),
    ("returns", match u.returns with
      | some rs => strings rs
      | none => .null),
    ("body", .str u.body), ("code", .str u.code), ("doc", .str u.doc)]

/-- What building a manifest gives. -/
def buildAnswer (m : Manifest) : Document :=
  let world : World HostState := { images := #[], host := {} }
  match (buildManifest m none).run world with
  | .error f => .record [("error", .str "Panic"), ("message", .str f.message)]
  | .ok (.error e, _) => reportDoc e
  | .ok (.ok (), w) =>
    match w.host.ext with
    | none => .record [("error", .str "NoExtension")]
    | some ext =>
      let base := [("anonymous", .bool ext.anonymous), ("units", int ext.asm.decls.length),
        ("proxies", strings (sortStrings w.host.proxies))]
      if ext.anonymous then .record base
      else
        let rendered := match ext.asm.render with
          | .ok s =>
            [("render", .str s)] ++ (match ext.asm.revision with
              | .ok r => [("revision", int r)]
              | .error _ => [])
          | .error e => [("render", failure e)]
        .record (base ++ [("name", .str ext.name)] ++ rendered)

/-- What a manifest holds, and what building it gives. -/
def manifestAnswer (m : Manifest) : List (String × Document) :=
  [("name", .str m.name), ("dir", .str m.dir), ("resolved_dir", .str m.resolvedDir),
   ("flags", match m.flags with
     | some fs => strings fs
     | none => .null),
   ("units", .list (m.units.map manifestUnitAnswer)), ("build", buildAnswer m),
   ("path", .str m.path)]

/-- Answer a `manifest` request. -/
def answerManifest (req : Document) : Document :=
  let text := req.text "toml"
  match req.given? "file" with
  | none =>
    match Manifest.parse text with
    | .ok m => .record (manifestAnswer m)
    | .error e => manifestErrorAnswer e
  | some _ =>
    let name := req.text "file"
    let path := manifestDir ++ "/" ++ name
    let found := if name.endsWith ".cexi.toml" then [path] else []
    match Manifest.load path text with
    | .ok m => .record (manifestAnswer m ++ [("found", strings found)])
    | .error e =>
      match e.describe with
      | (_, true) => manifestErrorAnswer e
      | _ => withFields (failure e) [("found", strings found)]

end InlineC.Service
