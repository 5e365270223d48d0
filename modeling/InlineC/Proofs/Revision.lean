import Mathlib
import InlineC.Assembly.Basic
import InlineC.Lang.Preprocess
import InlineC.Lang.Literal

/-!
# The revision stamp of a translation unit

A rendered translation unit ends with its initialiser, which defines `CX_CODE_REVISION` as
the revision's digits and sets the module's revision from it. `stamp` reads that number back
from the text alone, the way a compiled and loaded module reports it. The main result is that
the stamp of a rendered unit is the assembly's revision: an artifact built from the current
declarations carries the current revision.

The unit's method table lists the exported declarations in order, each with the flags
`CX_METH_VARARGS` and its doc as a C string literal; `methods` is that table as the loaded
module gives it back once compiled under given options, each doc being its literal's value as
that compiler reads it, up to the first zero octet.
-/

namespace InlineC.Assembly

/-- What stands before the revision's digits in a stamped unit. -/
def stampMacro : String := "\n#define CX_CODE_REVISION "

/-- What follows the revision's digits to the end of a stamped unit. -/
def stampTail : String :=
  "ULL\n    cx_module_set_revision(m, CX_CODE_REVISION);\n" ++ "\n    return m;\n\x7d" ++ "\n"

/-- The revision a translation unit stamps its module with: the decimal number between the
definition of `CX_CODE_REVISION` and the end of the initialiser. A unit that does not end
that way stamps none. -/
def stamp (s : String) : Option Nat :=
  let cs := s.toList
  if stampTail.toList <:+ cs then
    let body := cs.take (cs.length - stampTail.toList.length)
    let digits := (body.reverse.takeWhile Char.isDigit).reverse
    if stampMacro.toList <:+ body.take (body.length - digits.length) ∧ digits ≠ [] then
      (String.ofList digits).toNat?
    else none
  else none

/-- A unit assembled with a revision ends with the stamp of that revision. -/
theorem assemble_stamped (a : Assembly) (frags : List String) (rev : Nat) :
    ∃ p, a.assemble frags (some rev) = p ++ stampMacro ++ toString rev ++ stampTail := by
  unfold assemble initialiser stampMacro stampTail
  simp only [← String.append_assoc]
  exact ⟨_, rfl⟩

/-- The stamp of a unit that ends with a revision's stamp is that revision, whatever precedes. -/
theorem stamp_stamped (p : String) (r : Nat) :
    stamp (p ++ stampMacro ++ toString r ++ stampTail) = some r := by
  -- read back to front, the digits stop at the blank that ends the macro
  have hdigits : ∀ c ∈ (toString r).toList.reverse, c.isDigit = true := by
    intro c hc
    rw [List.mem_reverse, show toString r = Nat.repr r from rfl, Nat.toList_repr] at hc
    exact Nat.isDigit_of_mem_toDigits (by decide) (by decide) hc
  have hM : stampMacro.toList.reverse.takeWhile Char.isDigit = [] := by decide
  have hne : (toString r).toList ≠ [] := by
    rw [show toString r = Nat.repr r from rfl, Nat.toList_repr]
    exact Nat.toDigits_ne_nil
  have hsuffix : stampTail.toList <:+ (p ++ stampMacro ++ toString r ++ stampTail).toList := by
    rw [String.toList_append]
    exact List.suffix_append _ _
  have hbody : (p ++ stampMacro ++ toString r ++ stampTail).toList.take
      ((p ++ stampMacro ++ toString r ++ stampTail).toList.length - stampTail.toList.length) =
      (p ++ stampMacro).toList ++ (toString r).toList := by
    simp only [String.toList_append, List.length_append]
    exact List.take_left' (by simp; omega)
  have hwhile : ((p ++ stampMacro).toList ++ (toString r).toList).reverse.takeWhile Char.isDigit =
      (toString r).toList.reverse := by
    rw [List.reverse_append, List.takeWhile_append_of_pos hdigits, String.toList_append,
      List.reverse_append, List.takeWhile_append, if_neg (by decide), hM, List.append_nil]
  have hbefore : ((p ++ stampMacro).toList ++ (toString r).toList).take
      (((p ++ stampMacro).toList ++ (toString r).toList).length - (toString r).toList.length) =
      (p ++ stampMacro).toList :=
    List.take_left' (by simp only [List.length_append]; omega)
  have hmacro : stampMacro.toList <:+ (p ++ stampMacro).toList := by
    rw [String.toList_append]
    exact List.suffix_append _ _
  simp only [stamp, hsuffix, if_true, hbody, hwhile, List.reverse_reverse, hbefore, hmacro, hne,
    ne_eq, not_false_eq_true, and_self, String.ofList_toList]
  exact Nat.toNat?_repr r

/-- A rendered unit stamps the revision of the declarations it was rendered from. -/
theorem stamp_render {a : Assembly} {s : String} (h : a.render = .ok s) :
    ∃ r, a.revision = .ok r ∧ stamp s = some r := by
  cases hf : a.fragments with
  | error err =>
    simp [render, hf] at h
  | ok frags =>
    let rev := Blake2b.fingerprint (Utf8.ofString (a.assemble frags none))
    have hs : a.assemble frags (some rev) = s := by
      have h' : Except.ok (a.assemble frags (some rev)) = (Except.ok s : Except AssemblyError _) := by
        rw [← h, render, hf]
        rfl
      exact Except.ok.inj h'
    obtain ⟨p, hp⟩ := assemble_stamped a frags rev
    refine ⟨rev, by rw [revision, renderWithoutRevision, hf]; rfl, ?_⟩
    rw [← hs, hp]
    exact stamp_stamped p rev

/-- An entry of a module's method table as the loaded module gives it back: the method's name,
its doc and its flags. -/
structure Method where
  name : String
  doc : List UInt8
  flags : Int

/-- The octets a C compiler of dialect `m` for target `t` gives the text of a string literal
that lexes as one narrow string literal token: the literal's value, without its closing NUL. -/
def literalOctets (m : Lang.LexMode) (t : Lang.Target) (lit : String) : Option (List UInt8) :=
  match (Lang.tokenize m 1 lit).1.toList with
  | [tok] =>
    if tok.kind = .string then
      match Lang.stringLiteral t [tok.text] with
      | .ok (.narrow, v, []) => some (v.map UInt8.ofNat)
      | _ => none
    else none
  | _ => none

/-- The doc a compiled method table gives back for a doc text: its quoted literal as the
compiler reads it, trigraphs and escapes included, up to the first zero octet, since the module
reads it as a C string; the empty doc is written as a null pointer, which reads as the empty
string. -/
def tableDoc (m : Lang.LexMode) (t : Lang.Target) (doc : String) : List UInt8 :=
  if Text.CLiteral.quote doc = "NULL" then []
  else ((literalOctets m t (Text.CLiteral.quote doc)).getD []).takeWhile (· != 0)

/-- The target the toolchain compiles for under options `o`. -/
def compileTarget (o : Lang.Options) : Lang.Target :=
  { charSigned := !o.unsignedChar, shortWchar := o.shortWchar }

/-- The entry of an exported declaration compiled under options `o`: its name, its doc as the
compiled table gives it back, and the flags `CX_METH_VARARGS`. -/
def methodOf (o : Lang.Options) (d : Declaration) : Method :=
  ⟨d.name, tableDoc o.lexMode (compileTarget o) d.doc, 1⟩

/-- The method table a rendered unit compiled under options `o` declares: one entry per
exported declaration, in order. -/
def methods (o : Lang.Options) (a : Assembly) : List Method := a.exported.map (methodOf o)

end InlineC.Assembly
