import InlineC.Service.Assembling
import InlineC.Service.Manifests
import InlineC.Service.Settings

/-!
# The service

One request document in, one answer document out. The `op` field selects the operation.

Answers never show generated names: a text `cexi_` (in any case) followed by 32 hexadecimal
digits, as an anonymous module's name is made, is written `<anon>`.
-/

namespace InlineC.Service

open Document

/-- Whether an octet is a hexadecimal digit. -/
def isHexOctet (c : UInt8) : Bool :=
  (48 ≤ c && c ≤ 57) || (65 ≤ c && c ≤ 70) || (97 ≤ c && c ≤ 102)

/-- Whether octets start with `cexi_`, in any case. -/
def startsAnon (os : List UInt8) : Bool :=
  let lower := (os.take 5).map fun c => if 65 ≤ c && c ≤ 90 then c + 32 else c
  lower == Utf8.ofString "cexi_" && (os.drop 5).length ≥ 32 && ((os.drop 5).take 32).all isHexOctet

/-- Replace generated names in octets. -/
def maskOctets : Nat → List UInt8 → List UInt8
  | 0, os => os
  | _, [] => []
  | fuel + 1, c :: rest =>
    if startsAnon (c :: rest) then Utf8.ofString "<anon>" ++ maskOctets fuel ((c :: rest).drop 37)
    else c :: maskOctets fuel rest

mutual

/-- Replace generated names in every text of a document. -/
def mask : Document → Document
  | .str s =>
    let os := Utf8.ofString s
    let m := maskOctets (os.length + 1) os
    if m == os then .str s else .octets m
  | .octets b => .octets (maskOctets (b.length + 1) b)
  | .list items => .list (maskList items)
  | .record fs => .record (maskFields fs)
  | other => other

/-- Replace generated names in documents. -/
def maskList : List Document → List Document
  | [] => []
  | d :: rest => mask d :: maskList rest

/-- Replace generated names in the values of fields. -/
def maskFields : List (String × Document) → List (String × Document)
  | [] => []
  | (k, v) :: rest => (k, mask v) :: maskFields rest

end

/-- Answer one request. -/
def answer (req : Document) : Document :=
  let op := req.text "op"
  mask <| match answerNaming op req with
  | some d => d
  | none =>
    match op with
    | "unit" => answerUnit req
    | "assembler" => answerAssembler req
    | "module" => answerModule req
    | "manifest" => answerManifest req
    | "config_validate" => answerValidate req
    | "config_load" => answerLoad req
    | "base_flags" => answerBaseFlags req
    | other => badInput ("unknown op " ++ Text.quote other)

end InlineC.Service
