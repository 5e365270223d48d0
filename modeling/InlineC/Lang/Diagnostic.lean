import InlineC.Lang.Options

/-!
# Diagnostics

What the compiler says about a translation unit, and whether it then fails. An error always
fails the compilation. A warning belongs to a named option (`unused-variable`, `cpp`) and
fails it only when that warning is enabled and made an error (`-Werror`,
`-Werror=unused-variable`). A pedantic diagnostic is one the standard requires: some are given
always, others only under `-pedantic`; `-pedantic-errors` makes them errors, and otherwise
they act as warnings.
-/

namespace InlineC.Lang

/-- A diagnostic of the compiler. -/
inductive Diag where
  | error (msg : String)
  /-- A warning under the option of this name. -/
  | warning (name : String)
  /-- A pedantic diagnostic given without `-pedantic`, under an option (or none). -/
  | pedwarn (name : String)
  /-- A pedantic diagnostic given only with `-pedantic`. -/
  | pedantic (name : String)
  deriving DecidableEq, Repr, Inhabited

namespace Diag

/-- Whether a diagnostic fails a compilation with the given options. -/
def fails (o : Options) : Diag → Bool
  | .error _ => true
  | .warning w => o.warningFails w
  | .pedwarn w =>
    o.pedanticErrors || (!o.silent && (w.isEmpty || o.warns w) &&
      (o.allErrors || o.errorNames.contains w) && !o.noErrorNames.contains w)
  | .pedantic w =>
    (o.pedantic || o.pedanticErrors) &&
      (o.pedanticErrors || (!o.silent && (o.allErrors || o.errorNames.contains "pedantic")
        && !o.disabled.contains w))

end Diag

/-- Whether any of the diagnostics fails the compilation. -/
def Options.failsWith (o : Options) (ds : List Diag) : Bool := ds.any (Diag.fails o)

end InlineC.Lang
