import InlineC.Service.Answer
import InlineC.Declaration.Basic

/-!
# Reading requests

Requests name declarations by their fields. A signature is a list of `{name, type}`
parameters and an optional list of return types: an absent or null `returns` leaves the
default of the function's kind, and an empty list declares no value. Missing text fields
read as empty text.
-/

namespace InlineC.Service

open Document

/-- A parameter from its record. -/
def decodeParam (d : Document) : Param := ⟨d.text "name", d.text "type"⟩

/-- The parameters of a request, none when absent. -/
def decodeParams (d : Document) : List Param :=
  match (d.given? "params").bind asList? with
  | some ps => ps.map decodeParam
  | none => []

/-- The return annotation of a request. -/
def decodeReturns (d : Document) : Option (List String) := d.texts? "returns"

/-- The signature of a request. -/
def decodeSignature (d : Document) : Signature := ⟨decodeParams d, decodeReturns d⟩

/-- A declaration described by a request, built with the library's constructors. The kind
field selects the constructor; none is found for an unknown kind. -/
def decodeDeclaration (d : Document) : Option (Except DeclError Declaration) :=
  match d.text "kind" with
  | "block" => some (.ok (.block (d.text "code")))
  | "native" =>
    some ((Declaration.nativeFunction (d.text "name") (decodeSignature d) (d.text "body")).map
      .native)
  | "managed" =>
    some ((Declaration.managedFunction (d.text "name") (decodeSignature d) (d.text "body")
      (d.text "doc")).map .managed)
  | "raw" => some ((Declaration.rawFunction (d.text "name") (d.text "body") (d.text "doc")).map
      .managed)
  | "capture" => some ((Declaration.captureOf (d.text "fn") (d.text "module")).map .capture)
  | "dispatch" =>
    some (do
      let c ← Declaration.captureOf (d.text "fn") (d.text "module")
      let dsp ← Declaration.dispatchOf (decodeSignature d) c
      pure (.dispatch dsp))
  | _ => none

end InlineC.Service
