import Mathlib
import InlineC.Assembly.Assembler
import InlineC.Proofs.Revision
import InlineC.Proofs.Symbols

/-!
# Renderings and the memo

An assembler answers requests for the translation unit, the unit without its stamp and the
revision from a memo it keeps between additions. The main result is that the memo is never
stale: at every point of a run (accepted and refused additions, rendering requests that
succeed or fail) every answer is the one a new assembler gives after the accepted
declarations are added to it in order. Along the way:

* a rendering fails exactly when the rendering of a declaration fails, with the error of the
  first such declaration;
* the revision is the fingerprint of the unit without its stamp, a 56-bit number;
* the stamped unit is the unit without its stamp with one block inserted in the initialiser,
  the definition of `CX_CODE_REVISION` as the revision and the call that sets it, so the
  module compiled from it reports that revision.
-/

namespace InlineC

namespace Blake2b

/-- Reading `octets` big-endian after a number `n` gives less than `(n + 1) · 256 ^ |octets|`. -/
theorem foldl_bigEndian_lt (octets : List UInt8) (n : Nat) :
    octets.foldl (fun n b => 256 * n + b.toNat) n < (n + 1) * 256 ^ octets.length := by
  induction octets generalizing n with
  | nil => simp
  | cons b rest ih =>
    have hb : b.toNat < 256 := b.toNat_lt
    calc rest.foldl (fun n b => 256 * n + b.toNat) (256 * n + b.toNat)
        < (256 * n + b.toNat + 1) * 256 ^ rest.length := ih _
      _ ≤ (256 * (n + 1)) * 256 ^ rest.length := Nat.mul_le_mul_right _ (by omega)
      _ = (n + 1) * 256 ^ (b :: rest).length := by
        rw [List.length_cons, pow_succ]
        ring

/-- A number of `k` octets read big-endian is below `256 ^ k`. -/
theorem bigEndian_lt (octets : List UInt8) : bigEndian octets < 256 ^ octets.length := by
  simpa [bigEndian] using foldl_bigEndian_lt octets 0

/-- A digest has the length asked for. -/
@[simp] theorem digest_length (length : Nat) (msg : List UInt8) :
    (digest length msg).length = length := by
  simp [digest]

/-- A fingerprint is a 56-bit number. -/
theorem fingerprint_lt (msg : List UInt8) : fingerprint msg < 2 ^ 56 := by
  have h := bigEndian_lt (digest 7 msg)
  rw [digest_length] at h
  unfold fingerprint
  omega

end Blake2b

section

variable {α β ε : Type}

/-- A mapped result fails exactly when the result failed, with the same error. -/
@[simp] theorem except_map_eq_error_iff {x : Except ε α} {f : α → β} {e : ε} :
    x.map f = .error e ↔ x = .error e := by
  cases x <;> simp [Except.map]

/-- A mapping in `Except` fails exactly at its first failing item, with that item's error. -/
theorem mapM_eq_error_iff {f : α → Except ε β} {l : List α} {e : ε} :
    l.mapM f = .error e ↔
      ∃ pre x post, l = pre ++ x :: post ∧ (∀ y ∈ pre, ∃ b, f y = .ok b) ∧ f x = .error e := by
  induction l with
  | nil => simp [List.mapM_nil, pure, Except.pure]
  | cons a rest ih =>
    cases ha : f a with
    | error e' =>
      simp only [List.mapM_cons, ha, bind, Except.bind, Except.error.injEq]
      constructor
      · rintro rfl
        exact ⟨[], a, rest, rfl, by simp, ha⟩
      · rintro ⟨pre, x, post, hl, hpre, hx⟩
        cases pre with
        | nil =>
          obtain ⟨rfl, -⟩ := List.cons.inj hl
          rw [ha] at hx
          exact Except.error.inj hx
        | cons y pre =>
          obtain ⟨rfl, -⟩ := List.cons.inj hl
          obtain ⟨b, hb⟩ := hpre a (by simp)
          rw [ha] at hb
          cases hb
    | ok b =>
      have hmap : (a :: rest).mapM f = (rest.mapM f).map (b :: ·) := by
        simp only [List.mapM_cons, ha, bind, Except.bind]
        cases rest.mapM f <;> rfl
      -- the first item succeeds, so the failure lies in the rest
      have hrest : (rest.mapM f).map (b :: ·) = .error e ↔ rest.mapM f = .error e := by
        cases rest.mapM f <;> simp [Except.map]
      rw [hmap, hrest, ih]
      constructor
      · rintro ⟨pre, x, post, rfl, hpre, hx⟩
        refine ⟨a :: pre, x, post, rfl, ?_, hx⟩
        intro y hy
        rcases List.mem_cons.1 hy with rfl | hy
        · exact ⟨b, ha⟩
        · exact hpre y hy
      · rintro ⟨pre, x, post, hl, hpre, hx⟩
        cases pre with
        | nil =>
          obtain ⟨rfl, -⟩ := List.cons.inj hl
          rw [ha] at hx
          cases hx
        | cons y pre =>
          obtain ⟨rfl, rfl⟩ := List.cons.inj hl
          exact ⟨pre, x, post, rfl, fun z hz => hpre z (List.mem_cons_of_mem _ hz), hx⟩

end

namespace Assembly

/-- `e` names the first declaration whose rendering fails, by its kind, its name and the
cause. -/
def FirstFailure (a : Assembly) (e : AssemblyError) : Prop :=
  ∃ pre d post c, a.decls = pre ++ d :: post ∧ (∀ x ∈ pre, ∃ t, x.render = .ok t) ∧
    d.render = .error c ∧ e = ⟨d.kind, d.name, c⟩

/-- The fragments fail exactly at the first declaration whose rendering fails. -/
theorem fragments_eq_error_iff {a : Assembly} {e : AssemblyError} :
    a.fragments = .error e ↔ a.FirstFailure e := by
  rw [fragments, mapM_eq_error_iff, FirstFailure]
  constructor
  · rintro ⟨pre, d, post, hl, hpre, hd⟩
    cases hr : d.render with
    | error c =>
      rw [hr] at hd
      refine ⟨pre, d, post, c, hl, fun x hx => ?_, hr, (Except.error.inj hd).symm⟩
      obtain ⟨t, ht⟩ := hpre x hx
      cases hx' : x.render with
      | error c' => rw [hx'] at ht; cases ht
      | ok t' => exact ⟨t', rfl⟩
    | ok t => rw [hr] at hd; cases hd
  · rintro ⟨pre, d, post, c, hl, hpre, hd, rfl⟩
    refine ⟨pre, d, post, hl, fun x hx => ?_, by rw [hd]; rfl⟩
    obtain ⟨t, ht⟩ := hpre x hx
    exact ⟨t, by rw [ht]; rfl⟩

/-- The memo's rendering gives the unit the assembly renders. -/
theorem rendering_source (a : Assembly) : a.rendering.map (·.source) = a.render := by
  cases h : a.fragments <;> simp [rendering, render, h, Except.map]

/-- The memo's rendering gives the unit without its stamp. -/
theorem rendering_withoutRevision (a : Assembly) :
    a.rendering.map (·.withoutRevision) = a.renderWithoutRevision := by
  cases h : a.fragments <;> simp [rendering, renderWithoutRevision, h, Except.map]

/-- The memo's rendering gives the revision. -/
theorem rendering_revision (a : Assembly) : a.rendering.map (·.revision) = a.revision := by
  cases h : a.fragments <;> simp [rendering, revision, renderWithoutRevision, h, Except.map]

/-- A rendering fails exactly when a declaration's rendering fails, with the error of the
first one. -/
theorem rendering_eq_error_iff {a : Assembly} {e : AssemblyError} :
    a.rendering = .error e ↔ a.FirstFailure e := by
  rw [← fragments_eq_error_iff]
  cases h : a.fragments <;> simp [rendering, h, Except.map]

/-- Rendering fails exactly at the first declaration that does not render. -/
theorem render_eq_error_iff {a : Assembly} {e : AssemblyError} :
    a.render = .error e ↔ a.FirstFailure e := by
  rw [← rendering_source, except_map_eq_error_iff, rendering_eq_error_iff]

/-- Rendering without the revision fails exactly at the first declaration that does not render. -/
theorem renderWithoutRevision_eq_error_iff {a : Assembly} {e : AssemblyError} :
    a.renderWithoutRevision = .error e ↔ a.FirstFailure e := by
  rw [← rendering_withoutRevision, except_map_eq_error_iff, rendering_eq_error_iff]

/-- The revision fails exactly at the first declaration that does not render. -/
theorem revision_eq_error_iff {a : Assembly} {e : AssemblyError} :
    a.revision = .error e ↔ a.FirstFailure e := by
  rw [← rendering_revision, except_map_eq_error_iff, rendering_eq_error_iff]

/-- The revision is the fingerprint of the unit without its stamp. -/
theorem revision_eq_ok_iff {a : Assembly} {r : Nat} :
    a.revision = .ok r ↔
      ∃ t, a.renderWithoutRevision = .ok t ∧ r = Blake2b.fingerprint (Utf8.ofString t) := by
  cases h : a.renderWithoutRevision with
  | error e => simp [revision, h, Except.map]
  | ok t =>
    simp only [revision, h, Except.map, Except.ok.injEq, exists_eq_left']
    exact eq_comm

/-- The block a revision adds to the initialiser: the definition of `CX_CODE_REVISION` and
the call that sets the module's revision from it. -/
def revisionBlock (r : Nat) : String :=
  "\n#define CX_CODE_REVISION " ++ toString r ++
    "ULL\n    cx_module_set_revision(m, CX_CODE_REVISION);\n"

/-- The stamped initialiser is the plain one with the revision's block inserted before its
`return`. -/
theorem initialiser_stamped (a : Assembly) (r : Nat) :
    ∃ I J, a.initialiser none = I ++ J ∧ a.initialiser (some r) = I ++ revisionBlock r ++ J := by
  -- the initialiser is one text around the match on the revision
  obtain ⟨I, hnone, hsome⟩ : ∃ I, a.initialiser none = I ++ "" ++ "\n    return m;\n\x7d" ∧
      a.initialiser (some r) = I ++ revisionBlock r ++ "\n    return m;\n\x7d" :=
    ⟨_, rfl, rfl⟩
  exact ⟨I, _, by rw [hnone, String.append_empty], hsome⟩

/-- A unit differs from the unit without its stamp exactly in its initialiser. -/
theorem assemble_stamped_eq (a : Assembly) (frags : List String) (r : Nat) :
    ∃ p, a.assemble frags none = p ++ a.initialiser none ++ "\n" ∧
      a.assemble frags (some r) = p ++ a.initialiser (some r) ++ "\n" :=
  ⟨_, rfl, rfl⟩

/-- The stamped unit is the unit without its stamp with the revision's block inserted in the
initialiser, the revision being the fingerprint of the unit without its stamp. -/
theorem render_eq_ok_iff {a : Assembly} {t : String} :
    a.render = .ok t ↔ ∃ r p I J, a.revision = .ok r ∧
      a.renderWithoutRevision = .ok (p ++ I ++ J ++ "\n") ∧ t = p ++ I ++ revisionBlock r ++ J ++ "\n" ∧
      a.initialiser none = I ++ J ∧ a.initialiser (some r) = I ++ revisionBlock r ++ J := by
  cases h : a.fragments with
  | error e => simp [render, revision, renderWithoutRevision, h, Except.map]
  | ok frags =>
    let r := Blake2b.fingerprint (Utf8.ofString (a.assemble frags none))
    obtain ⟨p, hnone, hsome⟩ := assemble_stamped_eq a frags r
    obtain ⟨I, J, hI, hJ⟩ := initialiser_stamped a r
    have hrender : a.render = .ok (a.assemble frags (some r)) := by simp [render, h]; rfl
    have hwithout : a.renderWithoutRevision = .ok (a.assemble frags none) := by
      simp [renderWithoutRevision, h, Except.map]
    have hrev : a.revision = .ok r := by simp [revision, hwithout, Except.map, r]
    rw [hrender, hrev, hwithout]
    constructor
    · rintro ⟨⟩
      refine ⟨r, p, I, J, rfl, ?_, ?_, hI, hJ⟩
      · rw [hnone, hI]
        simp only [String.append_assoc]
      · rw [hsome, hJ]
        simp only [String.append_assoc]
    · rintro ⟨r', p', I', J', hr', hw, rfl, hI', hJ'⟩
      cases Except.ok.inj hr'
      -- the part before the initialiser is the same in both units
      have hp : p' = p := by
        have hw' := Except.ok.inj hw
        rw [hnone, hI'] at hw'
        simp only [String.append_assoc] at hw'
        exact ((String.append_left_inj _).mp hw').symm
      rw [hsome, hJ', hp]
      simp only [String.append_assoc]

end Assembly

namespace Assembler

/-- Add declarations in order, stopping at the first refused one. -/
def addAll (s : Assembler) (ds : List Declaration) : Except CollisionError Assembler :=
  ds.foldlM add s

/-- The memoised rendering's source. -/
@[simp] theorem render_eq (s : Assembler) : s.render = (s.rendered.1.map (·.source), s.rendered.2) :=
  rfl

/-- The memoised rendering without the revision. -/
@[simp] theorem renderWithoutRevision_eq (s : Assembler) :
    s.renderWithoutRevision = (s.rendered.1.map (·.withoutRevision), s.rendered.2) := rfl

/-- The memoised revision. -/
@[simp] theorem revision_eq (s : Assembler) :
    s.revision = (s.rendered.1.map (·.revision), s.rendered.2) := rfl

/-- The memo, when there is one, is the rendering of the current declarations. -/
def Coherent (s : Assembler) : Prop := ∀ r, s.memo = some r → s.assembly.rendering = .ok r

/-- An assembler without a memo is coherent. -/
theorem coherent_of_memo_eq_none {s : Assembler} (h : s.memo = none) : s.Coherent := by
  intro r hr
  rw [h] at hr
  cases hr

/-- A coherent assembler renders what its assembly renders, from the memo or afresh. -/
theorem rendered_fst {s : Assembler} (h : s.Coherent) : s.rendered.1 = s.assembly.rendering := by
  unfold rendered
  cases hm : s.memo with
  | some r => exact (h r hm).symm
  | none => cases s.assembly.rendering <;> rfl

/-- Rendering changes nothing but the memo. -/
@[simp] theorem rendered_assembly (s : Assembler) : s.rendered.2.assembly = s.assembly := by
  unfold rendered
  cases s.memo with
  | some r => rfl
  | none => cases s.assembly.rendering <;> rfl

/-- Rendering keeps the memo coherent: what it keeps is a rendering made now. -/
theorem Coherent.rendered {s : Assembler} (h : s.Coherent) : s.rendered.2.Coherent := by
  unfold Assembler.rendered
  cases hm : s.memo with
  | some r => exact h
  | none =>
    cases hr : s.assembly.rendering with
    | error e => exact coherent_of_memo_eq_none hm
    | ok r =>
      intro r' hr'
      cases hr'
      exact hr

/-- A coherent assembler answers what its assembly renders. -/
theorem Coherent.render {s : Assembler} (h : s.Coherent) : s.render.1 = s.assembly.render := by
  simp [rendered_fst h, Assembly.rendering_source]

/-- A coherent assembler renders without the revision as its declarations do. -/
theorem Coherent.renderWithoutRevision {s : Assembler} (h : s.Coherent) :
    s.renderWithoutRevision.1 = s.assembly.renderWithoutRevision := by
  simp [rendered_fst h, Assembly.rendering_withoutRevision]

/-- A coherent assembler has its declarations' revision. -/
theorem Coherent.revision {s : Assembler} (h : s.Coherent) : s.revision.1 = s.assembly.revision := by
  simp [rendered_fst h, Assembly.rendering_revision]

/-- An addition is accepted exactly when the assembly accepts it, and it drops the memo. -/
theorem add_eq_ok_iff {s s' : Assembler} {d : Declaration} :
    s.add d = .ok s' ↔ ∃ a, s.assembly.add d = .ok a ∧ s' = { assembly := a } := by
  unfold add
  cases s.assembly.add d <;> simp [Except.map, eq_comm]

/-- Adding a declaration leaves the assembler coherent. -/
theorem coherent_of_add {s s' : Assembler} {d : Declaration} (h : s.add d = .ok s') :
    s'.Coherent := by
  obtain ⟨a, -, rfl⟩ := add_eq_ok_iff.1 h
  exact coherent_of_memo_eq_none rfl

/-- The assemblers a run reaches from a new one named `name`: accepted additions and
requests for a rendering, which may fail. A refused addition leaves the assembler as it
was. -/
inductive Reachable (name : String) : Assembler → Prop where
  | new : Reachable name (Assembler.new name)
  | add {s s' : Assembler} {d : Declaration} : Reachable name s → s.add d = .ok s' →
      Reachable name s'
  | rendered {s : Assembler} : Reachable name s → Reachable name s.rendered.2

section

variable {name : String} {s : Assembler}

/-- The memo of every assembler a run reaches is coherent, by induction on the run. -/
theorem Reachable.coherent (h : Reachable name s) : s.Coherent := by
  induction h with
  | new => exact coherent_of_memo_eq_none rfl
  | add _ hadd _ => exact coherent_of_add hadd
  | rendered _ ih => exact ih.rendered

/-- The assembly of an assembler a run reaches is reached by the run's accepted additions. -/
theorem Reachable.assembly (h : Reachable name s) : Assembly.Reachable name s.assembly := by
  induction h with
  | new => exact .new
  | add _ hadd ih =>
    obtain ⟨a, ha, rfl⟩ := add_eq_ok_iff.1 hadd
    exact .add ih ha
  | rendered _ ih => rwa [rendered_assembly]

end

/-- Declarations whose symbols are distinct from each other, from the module's own and from
those of an assembly's declarations are accepted one after another. -/
theorem addAll_of_symbolsDistinct (b : Assembly) (ds : List Declaration)
    (h : ({ b with decls := b.decls ++ ds } : Assembly).SymbolsDistinct) :
    ({ assembly := b } : Assembler).addAll ds =
      .ok { assembly := { b with decls := b.decls ++ ds } } := by
  induction ds generalizing b with
  | nil => simp [addAll, pure, Except.pure]
  | cons d rest ih =>
    obtain ⟨hnodup, happart⟩ := h
    -- `d`'s symbols are neither the module's nor those of the declarations before it
    have hfree : ∀ x ∈ d.symbols, b.isTaken x = false := by
      intro x hx
      have hmem : x ∈ (b.decls ++ d :: rest).flatMap Declaration.symbols :=
        List.mem_flatMap.2 ⟨d, by simp, hx⟩
      rw [← Bool.not_eq_true, Assembly.isTaken_iff, not_or]
      refine ⟨happart x hmem, ?_⟩
      rintro ⟨d', hd', hx'⟩
      rw [List.flatMap_append, List.nodup_append] at hnodup
      exact hnodup.2.2 x (List.mem_flatMap.2 ⟨d', hd', hx'⟩) x
        (List.mem_flatMap.2 ⟨d, by simp, hx⟩) rfl
    have hadd : ({ assembly := b } : Assembler).add d =
        .ok { assembly := { b with decls := b.decls ++ [d] } } :=
      add_eq_ok_iff.2 ⟨_, Assembly.add_eq_ok_iff.2 ⟨hfree, rfl⟩, rfl⟩
    have hrest := ih { b with decls := b.decls ++ [d] } ⟨by simpa using hnodup, by simpa using happart⟩
    simp only [addAll, List.foldlM_cons, hadd] at hrest ⊢
    simpa using hrest

/-- A new assembler accepts, one after another, the declarations a run accepted, and ends with
the same assembly and no memo. -/
theorem Reachable.addAll_new {name : String} {s : Assembler} (h : Reachable name s) :
    (Assembler.new name).addAll s.assembly.decls = .ok { assembly := s.assembly } := by
  have ha := h.assembly
  have hs := addAll_of_symbolsDistinct { name } s.assembly.decls (by
    simpa [← ha.name_eq] using ha.symbolsDistinct)
  rw [← ha.name_eq] at hs ⊢
  exact hs

/-- What an assembler answers at a point of a run from a new assembler named `name`. -/
structure Answers (name : String) (s : Assembler) : Prop where
  /-- Every answer is that of a new assembler given the accepted declarations in order, all of
  which it accepts: the memo is never stale. -/
  fresh : ∃ f, (Assembler.new name).addAll s.assembly.decls = .ok f ∧
    f.render.1 = s.render.1 ∧ f.renderWithoutRevision.1 = s.renderWithoutRevision.1 ∧
    f.revision.1 = s.revision.1
  /-- Each request fails exactly when a declaration's rendering fails, with the error that names
  the first one. -/
  fails : ∀ e, (s.render.1 = .error e ↔ s.assembly.FirstFailure e) ∧
    (s.renderWithoutRevision.1 = .error e ↔ s.assembly.FirstFailure e) ∧
    (s.revision.1 = .error e ↔ s.assembly.FirstFailure e)
  /-- The revision is the fingerprint of the unit without its stamp. -/
  revision : ∀ r, s.revision.1 = .ok r ↔
    ∃ t, s.renderWithoutRevision.1 = .ok t ∧ r = Blake2b.fingerprint (Utf8.ofString t)
  /-- The revision is a 56-bit number. -/
  revision_lt : ∀ r, s.revision.1 = .ok r → r < 2 ^ 56
  /-- The stamped unit is the unit without its stamp with the revision's block inserted in the
  initialiser, before its `return`. -/
  stamped : ∀ t, s.render.1 = .ok t ↔ ∃ r p I J, s.revision.1 = .ok r ∧
    s.renderWithoutRevision.1 = .ok (p ++ I ++ J ++ "\n") ∧
    t = p ++ I ++ Assembly.revisionBlock r ++ J ++ "\n" ∧
    s.assembly.initialiser none = I ++ J ∧
    s.assembly.initialiser (some r) = I ++ Assembly.revisionBlock r ++ J
  /-- The module compiled from the stamped unit reports the revision. -/
  reports : ∀ t, s.render.1 = .ok t → ∃ r, s.revision.1 = .ok r ∧ Assembly.stamp t = some r

/-- At every point of every run, an assembler answers as a new one given the same accepted
declarations would, and its renderings and revision agree with each other. -/
theorem reachable_renders_fresh {name : String} {s : Assembler} (h : Reachable name s) :
    Answers name s := by
  have hc := h.coherent
  have hfresh : ({ assembly := s.assembly } : Assembler).Coherent := coherent_of_memo_eq_none rfl
  refine ⟨⟨_, h.addAll_new, ?_, ?_, ?_⟩, fun e => ?_, fun r => ?_, fun r hr => ?_, fun t => ?_,
    fun t ht => ?_⟩
  · rw [hfresh.render, hc.render]
  · rw [hfresh.renderWithoutRevision, hc.renderWithoutRevision]
  · rw [hfresh.revision, hc.revision]
  · rw [hc.render, hc.renderWithoutRevision, hc.revision]
    exact ⟨Assembly.render_eq_error_iff, Assembly.renderWithoutRevision_eq_error_iff,
      Assembly.revision_eq_error_iff⟩
  · rw [hc.revision, hc.renderWithoutRevision]
    exact Assembly.revision_eq_ok_iff
  · rw [hc.revision] at hr
    obtain ⟨t, -, rfl⟩ := Assembly.revision_eq_ok_iff.1 hr
    exact Blake2b.fingerprint_lt _
  · rw [hc.render, hc.renderWithoutRevision, hc.revision]
    exact Assembly.render_eq_ok_iff
  · rw [hc.render] at ht
    rw [hc.revision]
    exact Assembly.stamp_render ht

/-- An assembler named `m` that accepted the managed function `f` and then rendered it. -/
def renderedOne : Assembler :=
  ({ assembly := { name := "m", decls := [.managed Assembly.noneFunction] } } : Assembler).rendered.2

/-- An assembler that has rendered one declaration answers as fresh. -/
theorem renders_fresh_after_render : Reachable "m" renderedOne ∧ Answers "m" renderedOne := by
  have hfree : (Assembler.new "m").assembly.firstTaken? (.managed Assembly.noneFunction) = none := by
    decide +kernel
  have hadd : (Assembler.new "m").add (.managed Assembly.noneFunction) =
      .ok { assembly := { name := "m", decls := [.managed Assembly.noneFunction] } } :=
    add_eq_ok_iff.2 ⟨_, by simp only [Assembly.add, hfree]; rfl, rfl⟩
  have hr : Reachable "m" renderedOne := .rendered (.add .new hadd)
  exact ⟨hr, reachable_renders_fresh hr⟩

end Assembler

end InlineC
