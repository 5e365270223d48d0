import InlineC.Assembly.Basic

/-!
# Assemblers

An assembler holds an assembly and a memo of its last rendering. The first request for the
translation unit, for the unit without its stamp or for the revision renders the assembly
once and keeps all three; later requests are answered from the memo until an accepted
addition drops it. A refused addition leaves the assembler as it was, memo included, and a
rendering that fails keeps nothing.
-/

namespace InlineC

/-- What one rendering of an assembly gives: the translation unit without its stamp, the
revision taken of it, and the unit stamped with that revision. -/
structure Rendering where
  withoutRevision : String
  revision : Nat
  source : String
  deriving DecidableEq, Repr

namespace Assembly

/-- Render an assembly: its fragments once, the unit without its stamp, the fingerprint of
that as the revision, and the unit stamped with it. -/
def rendering (a : Assembly) : Except AssemblyError Rendering :=
  a.fragments.map fun frags =>
    let without := a.assemble frags none
    let rev := Blake2b.fingerprint (Utf8.ofString without)
    { withoutRevision := without, revision := rev, source := a.assemble frags (some rev) }

end Assembly

/-- An assembly with the memo of its last rendering. -/
structure Assembler where
  assembly : Assembly
  memo : Option Rendering := none
  deriving DecidableEq, Repr

namespace Assembler

/-- A new assembler for the module `name`, with no declaration and nothing rendered. -/
def new (name : String) : Assembler := { assembly := { name } }

/-- Add a declaration; an accepted one drops the memo. -/
def add (s : Assembler) (d : Declaration) : Except CollisionError Assembler :=
  (s.assembly.add d).map fun a => { assembly := a, memo := none }

/-- The rendering: the memo when there is one, else a fresh rendering, which is kept when it
succeeds. -/
def rendered (s : Assembler) : Except AssemblyError Rendering × Assembler :=
  match s.memo with
  | some r => (.ok r, s)
  | none =>
    match s.assembly.rendering with
    | .ok r => (.ok r, { s with memo := some r })
    | .error e => (.error e, s)

/-- The translation unit, stamped with its revision. -/
def render (s : Assembler) : Except AssemblyError String × Assembler :=
  let (r, s) := s.rendered
  (r.map (·.source), s)

/-- The translation unit without its stamp. -/
def renderWithoutRevision (s : Assembler) : Except AssemblyError String × Assembler :=
  let (r, s) := s.rendered
  (r.map (·.withoutRevision), s)

/-- The revision of the current declarations. -/
def revision (s : Assembler) : Except AssemblyError Nat × Assembler :=
  let (r, s) := s.rendered
  (r.map (·.revision), s)

end Assembler

end InlineC
