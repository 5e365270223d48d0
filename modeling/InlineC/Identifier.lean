import InlineC.TypeTable
import InlineC.Text.Utf8

/-!
# Identifiers

Every name that ends up in generated C (module names, function names, parameters) must be a
C identifier: ASCII letters, digits and underscores, not starting with a digit, and not a
keyword. Validation scans the characters left to right and reports the first fault, with
the character's octet offset; the keyword check comes last.

Generated helper names are drawn from the short identifiers `a` to `z`, then `aa` to `zz`
(702 names), skipping a given set.
-/

namespace InlineC

/-- Why a name is not a C identifier. -/
inductive IdentifierError where
  | empty
  | leadingDigit (name : String)
  | badChar (c : Char) (offset : Nat) (name : String)
  | keyword (name : String)
  deriving DecidableEq, Repr

/-- The message of an identifier error. -/
def IdentifierError.message : IdentifierError → String
  | .empty => "identifier cannot be empty"
  | .leadingDigit n => "identifier " ++ Text.quote n ++ " starts with a digit"
  | .badChar c i n =>
    "invalid character " ++ Text.quoteChar c ++ " at position " ++ toString i ++
      " in identifier " ++ Text.quote n
  | .keyword n => "identifier " ++ Text.quote n ++ " is a C keyword"

namespace Identifier

/-- An ASCII letter or the underscore. -/
def isLetter (c : Char) : Bool := ('a' ≤ c && c ≤ 'z') || ('A' ≤ c && c ≤ 'Z') || c == '_'

/-- An ASCII digit. -/
def isDigit (c : Char) : Bool := '0' ≤ c && c ≤ '9'

/-- The first fault among the characters `cs` of `name`, the first of them at octet
offset `offset`. -/
def firstFault (name : String) : Nat → List Char → Option IdentifierError
  | _, [] => none
  | offset, c :: cs =>
    if isLetter c then firstFault name (offset + (Utf8.encodeChar c).length) cs
    else if isDigit c then
      if offset = 0 then some (.leadingDigit name)
      else firstFault name (offset + 1) cs
    else some (.badChar c offset name)

/-- Check that a name is a C identifier. -/
def validate (name : String) : Except IdentifierError Unit :=
  if name.isEmpty then .error .empty
  else match firstFault name 0 name.toList with
    | some e => .error e
    | none => if isKeyword name then .error (.keyword name) else .ok ()

/-- Whether a name is a C identifier. -/
def isValid (name : String) : Bool := (validate name).toBool

end Identifier

/-- Why names could not be generated. -/
inductive NamesError where
  /-- A negative number of names was asked for. -/
  | negative (count : Int)
  /-- Fewer than `count` short names remain outside the excluded set. -/
  | exhausted (count : Nat)
  deriving DecidableEq, Repr

/-- The message of a name generation error. -/
def NamesError.message : NamesError → String
  | .negative n => "generate " ++ toString n ++ " names: negative count"
  | .exhausted n => "generate " ++ toString n ++ " names: identifier space exhausted"

namespace Identifier

/-- The lower-case ASCII letters. -/
def letters : List Char := (List.range 26).map fun i => Char.ofNat (97 + i)

/-- The short identifiers in order: `a` to `z`, then `aa`, `ab`, ... `zz`. -/
def shortNames : List String :=
  letters.map Char.toString ++
    letters.flatMap fun p => letters.map fun c => String.ofList [p, c]

/-- The prefixes of the short identifiers: none, for the single letters, then each letter. -/
def prefixes : List String := "" :: letters.map Char.toString

/-- The loop over the letters for one prefix. Before each candidate it stops, answering `true`,
once `count` names are drawn; it skips a candidate in `skip` and draws the others. When the
letters run out it answers `false` with the names drawn. -/
def drawLetters (count : Nat) (skip : List String) (pre : String) :
    List Char → List String → Bool × List String
  | [], names => (false, names)
  | l :: ls, names =>
    if names.length = count then (true, names)
    else
      let name := pre ++ l.toString
      if skip.contains name then drawLetters count skip pre ls names
      else drawLetters count skip pre ls (names ++ [name])

/-- The loop over the prefixes: the loop over the letters for each, until one stops early. -/
def drawPrefixes (count : Nat) (skip : List String) :
    List String → List String → Bool × List String
  | [], names => (false, names)
  | p :: ps, names =>
    match drawLetters count skip p letters names with
    | (true, names) => (true, names)
    | (false, names) => drawPrefixes count skip ps names

/-- Draw `count` short identifiers outside `exclude`: the two loops over the prefixes and the
letters, then a check that enough names were drawn when they ran to the end. -/
def generate (count : Int) (exclude : List String) : Except NamesError (List String) :=
  if count < 0 then .error (.negative count)
  else
    match drawPrefixes count.toNat exclude prefixes [] with
    | (true, names) => .ok names
    | (false, names) =>
      if names.length < count.toNat then .error (.exhausted count.toNat) else .ok names

end Identifier

end InlineC
