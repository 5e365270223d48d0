import Mathlib
import InlineC.Proofs.Bench
import InlineC.Proofs.Paths

/-!
# Preparing an extension

What `Driver.prepare` guarantees against any lawful driver, whatever it is asked to compile and
load and whichever of its calls fail. Every call either leaves the extension as it was, but for
a count of builds grown by at most one, or installs an artifact that reports the current
revision; no artifact stays open that was not open before, other than the installed one. A
call that ends well leaves a current artifact installed. A call made while a current artifact
is installed changes nothing, and the first call takes a current artifact from the persistent
directory without compiling.

Each function gets its outcome once (`build_outcome`, `prepare_outcome`), and the guarantees
follow from the outcomes.
-/

namespace InlineC.Host

namespace Driver

section

variable {ω : Type} [ExtensionHost ω] (D : Driver ω) (IsOpen : ω → Nat → Prop)

/-- From `w` to `w'` the extension's record is unchanged but for its count of builds, grown by at
most one, and no artifact is open that was not. -/
def Leaves (e : Extension) (w w' : ω) : Prop :=
  ∃ b ≤ e.builds + 1, ExtensionHost.ext w' = some { e with builds := b } ∧
    ∀ x, IsOpen w' x → IsOpen w x

/-- The answer `r`, ending in `w'`, is what handing the reverse functions' callbacks to the
artifact `t` answered, once `t` was made the table of `e`. -/
def ActivationAnswer (e : Extension) (t : Nat) (r : Except FailureReport Unit) (w' : ω) : Prop :=
  ∃ w₁ b, ExtensionHost.ext w₁ = some { e with builds := b, table := some t } ∧
    (D.activateAll (e.reverse.map (·.name))).run w₁ = .ok (r, w')

/-- From `w` to `w'` an artifact that reports the current revision became the extension's table;
nothing else changed but the count of builds, grown by at most one, and the marks of the reverse
functions, and the only artifact open that was not is the table. A failure `r` is what handing
the reverse functions' callbacks to it answered. -/
def Installs (e : Extension) (r : Except FailureReport Unit) (w w' : ω) : Prop :=
  ∃ b ≤ e.builds + 1, ∃ t rev want, e.asm.revision = .ok want ∧
    ExtensionHost.ext w' = some { e with builds := b, table := some t, reverse := rev } ∧
    D.Reports w' t (some want) ∧ (∀ x, IsOpen w' x → IsOpen w x ∨ x = t) ∧
    (r ≠ .ok () → D.ActivationAnswer e t r w')

variable {D IsOpen}

/-- Fewer open artifacts at the start keep an outcome. -/
theorem Leaves.of_opens {e : Extension} {w w1 w' : ω} (h : Leaves IsOpen e w1 w')
    (ho : ∀ x, IsOpen w1 x → IsOpen w x) : Leaves IsOpen e w w' := by
  obtain ⟨b, hb, hext, hopen⟩ := h
  exact ⟨b, hb, hext, fun x hx => ho x (hopen x hx)⟩

/-- Fewer open artifacts at the start keep an installation. -/
theorem Installs.of_opens {e : Extension} {r} {w w1 w' : ω} (h : D.Installs IsOpen e r w1 w')
    (ho : ∀ x, IsOpen w1 x → IsOpen w x) : D.Installs IsOpen e r w w' := by
  obtain ⟨b, hb, t, rev, want, hwant, hext, hrep, hopen, hact⟩ := h
  exact ⟨b, hb, t, rev, want, hwant, hext, hrep, fun x hx => (hopen x hx).imp_left (ho x), hact⟩

/-- A build ends with the extension as it was and an error, or with a current artifact
installed. -/
theorem build_outcome (hD : D.Laws IsOpen) {w : ω} {e : Extension} {r w'}
    (he : ExtensionHost.ext w = some e) (h : D.build.run w = .ok (r, w')) :
    (Leaves IsOpen e w w' ∧ r ≠ .ok ()) ∨ D.Installs IsOpen e r w w' := by
  -- the attempt is counted once the directory is made, which disturbs nothing
  have e0 : ∀ w0 : ω, ExtensionHost.ext (counted w0 e) = some { e with builds := e.builds + 1 } :=
    fun w0 => ext_setExt _ _
  have q0 : ∀ {w0 a}, (D.buildDir e).run w = .ok (a, w0) → D.Quiet IsOpen w (counted w0 e) :=
    fun h0 => ((buildDir_inert hD e).quiet h0).trans (hD.setExt_quiet _ _)
  cases build_run hD he h with
  | unrenderable _ => exact .inl ⟨⟨e.builds, Nat.le_succ _, he, fun x hx => hx⟩, by simp⟩
  | homeless _ h0 =>
    exact .inl ⟨⟨e.builds, Nat.le_succ _, ((buildDir_inert hD e).ext h0).trans he,
      fun x hx => ((buildDir_inert hD e).quiet h0).opens hx⟩, by simp⟩
  | @uncompiled _ _ w0 _ _ _ h0 h1 =>
    have q1 := (q0 h0).trans ((hD.compile_inert _).quiet h1)
    exact .inl ⟨⟨e.builds + 1, le_refl _, ((hD.compile_inert _).ext h1).trans (e0 w0),
      fun x hx => q1.opens hx⟩, by simp⟩
  | @unloaded _ _ w0 _ _ _ _ _ h0 h1 h2 =>
    -- the library that does not load opens nothing
    have q1 := (q0 h0).trans ((hD.compile_inert _).quiet h1)
    refine .inl ⟨⟨e.builds + 1, le_refl _,
      (hD.load_ext h2).trans (((hD.compile_inert _).ext h1).trans (e0 w0)), fun x hx => ?_⟩, by simp⟩
    exact q1.opens ((hD.load_opens h2 hx).resolve_right (by simp))
  | @installed _ _ w0 _ t _ _ _ _ hr h0 h1 h2 h3 =>
    have e1 := ((hD.compile_inert _).ext h1).trans (e0 w0)
    have e2 := (hD.load_ext h2).trans e1
    have q1 := (q0 h0).trans ((hD.compile_inert _).quiet h1)
    obtain ⟨want, hwant, hstamp⟩ := Assembly.stamp_render hr
    have hrep := hD.load_stamp h1 h2
    simp only [buildRequest, hstamp] at hrep
    have hfresh : e.table ≠ some t := by
      have := hD.load_fresh h2
      rwa [e1] at this
    obtain ⟨⟨rev, hext⟩, hkeep, hopen⟩ := install_spec hD e2 hfresh h3
    obtain ⟨w₁, hw₁, hact⟩ := install_answer hD e2 h3
    refine .inr ⟨e.builds + 1, le_refl _, t, rev, want, hwant, hext, hkeep _ hrep, fun x hx => ?_,
      fun _ => ⟨w₁, e.builds + 1, hw₁, hact⟩⟩
    -- the only artifact opened on the way is the one installed
    rcases hD.load_opens h2 (hopen x hx) with hw | hx
    · exact .inl (q1.opens hw)
    · exact .inr (Except.ok.inj hx).symm

/-- A build started from a world whose open artifacts were open before ends as a build from
there. -/
theorem build_outcome_from (hD : D.Laws IsOpen) {w w1 : ω} {e : Extension} {r w'}
    (he : ExtensionHost.ext w1 = some e) (ho : ∀ x, IsOpen w1 x → IsOpen w x)
    (h : D.build.run w1 = .ok (r, w')) :
    (Leaves IsOpen e w w' ∧ r ≠ .ok ()) ∨ D.Installs IsOpen e r w w' :=
  (build_outcome hD he h).imp (And.imp_left (Leaves.of_opens · ho)) (Installs.of_opens · ho)

/-- Preparing ends with the extension as it was and an error, or with a current artifact
installed. -/
theorem prepare_outcome (hD : D.Laws IsOpen) {w : ω} {e : Extension} {r w'}
    (he : ExtensionHost.ext w = some e) (h : D.prepare.run w = .ok (r, w')) :
    (Leaves IsOpen e w w' ∧ r ≠ .ok ()) ∨ D.Installs IsOpen e r w w' := by
  unfold prepare at h
  simp only [getExt_bind_run, he] at h
  -- an exit with an error before anything ran leaves the world as it was
  have refuse : ∀ {w1 : ω} {err : FailureReport}, ExtensionHost.ext w1 = some e →
      (∀ x, IsOpen w1 x → IsOpen w x) →
      (pure (.error err) : WorldM ω (Except FailureReport Unit)).run w1 = .ok (r, w') →
      (Leaves IsOpen e w w' ∧ r ≠ .ok ()) ∨ D.Installs IsOpen e r w w' := by
    intro w1 err he1 ho1 hp
    obtain ⟨rfl, rfl⟩ := pure_run_eq_ok hp
    exact .inl ⟨⟨e.builds, Nat.le_succ _, he1, ho1⟩, by simp⟩
  split at h
  next err hr => exact refuse he (fun _ hx => hx) h
  next want hwant =>
    split at h
    next t ht =>
      -- an artifact is installed: keep it when it has the current revision
      rw [run_bind_eq_ok] at h
      obtain ⟨rep, w1, h1, h⟩ := h
      have hw1 := hD.revision_read h1
      subst hw1
      split at h
      next hcur =>
        obtain ⟨rfl, rfl⟩ := pure_run_eq_ok h
        rw [beq_iff_eq] at hcur
        subst hcur
        refine .inr ⟨e.builds, Nat.le_succ _, t, e.reverse, want, hwant, ?_, h1, fun x hx => .inl hx,
          fun hne => absurd rfl hne⟩
        rw [he, ← ht]
      next hstale =>
        split at h
        next => exact refuse he (fun _ hx => hx) h
        next =>
          rw [run_bind_eq_ok] at h
          obtain ⟨lk, w2, h2, h⟩ := h
          have e2 := ((lockFor_inert hD e).ext h2).trans he
          have q2 := (lockFor_inert hD e).quiet h2
          split at h
          next => exact refuse e2 (fun _ hx => q2.opens hx) h
          next => exact build_outcome_from hD e2 (fun _ hx => q2.opens hx) h
    next ht =>
      -- nothing installed yet: try the persistent directory's artifact first
      rw [run_bind_eq_ok] at h
      obtain ⟨lk, w2, h2, h⟩ := h
      have e2 := ((lockFor_inert hD e).ext h2).trans he
      have q2 := (lockFor_inert hD e).quiet h2
      split at h
      next => exact refuse e2 (fun _ hx => q2.opens hx) h
      next =>
        split at h
        next => exact build_outcome_from hD e2 (fun _ hx => q2.opens hx) h
        next dir hdir =>
          rw [run_bind_eq_ok] at h
          obtain ⟨res, w3, h3, h⟩ := h
          have e3 := (hD.load_ext h3).trans e2
          split at h
          next err =>
            refine build_outcome_from hD e3 (fun x hx => q2.opens ?_) h
            exact (hD.load_opens h3 hx).resolve_right (by simp)
          next t =>
            rw [run_bind_eq_ok] at h
            obtain ⟨rep, w4, h4, h⟩ := h
            have hw4 := hD.revision_read h4
            subst hw4
            split at h
            next hstale =>
              -- a stale artifact is released before the build
              rw [run_bind_eq_ok] at h
              obtain ⟨_, w5, h5, h⟩ := h
              have e5 := (hD.close_ext h5).trans e3
              refine build_outcome_from hD e5 (fun x hx => ?_) h
              have hx4 := hD.close_opens h5 hx
              rcases hD.load_opens h3 hx4 with hx2 | hxt
              · exact q2.opens hx2
              · cases hxt
                exact absurd hx (hD.close_loaded h3 h5)
            next hcur =>
              rw [bne_iff_ne, ne_eq, not_not] at hcur
              subst hcur
              obtain ⟨⟨rev, hext⟩, hkeep, hopen⟩ := install_spec hD e3 (by rw [ht]; simp) h
              obtain ⟨w₁, hw₁, hact⟩ := install_answer hD e3 h
              refine .inr ⟨e.builds, Nat.le_succ _, t, rev, want, hwant, hext, hkeep _ h4,
                fun x hx => ?_, fun _ => ⟨w₁, e.builds, hw₁, hact⟩⟩
              rcases hD.load_opens h3 (hopen x hx) with hx2 | hxt
              · exact .inl (q2.opens hx2)
              · exact .inr (Except.ok.inj hxt).symm

/-- With a current artifact installed, preparing changes nothing and succeeds. -/
theorem prepare_current {w : ω} {e : Extension} {t want : Nat}
    (he : ExtensionHost.ext w = some e) (ht : e.table = some t)
    (hwant : e.asm.revision = .ok want) (hrep : D.Reports w t (some want)) :
    D.prepare.run w = .ok (.ok (), w) := by
  unfold prepare
  simp only [getExt_bind_run, he, hwant, ht]
  rw [StateT.run_bind, hrep, except_ok_bind]
  simp only [beq_self_eq_true, if_true]
  rfl

/-- The first call, with a persistent directory that holds a current artifact, installs that
artifact without compiling. -/
theorem prepare_reuses {w w1 w2 : ω} {e : Extension} {d : String} {t want : Nat}
    (he : ExtensionHost.ext w = some e) (ht : e.table = none) (hd : e.dir = some d)
    (hwant : e.asm.revision = .ok want) (hlock : (D.lock d).run w = .ok (.ok (), w1))
    (hload : (D.load (D.libraryPath d e.name) e.name).run w1 = .ok (.ok t, w2))
    (hrep : D.Reports w2 t (some want)) :
    D.prepare.run w = (D.install t).run w2 := by
  unfold prepare
  simp only [getExt_bind_run, he, hwant, ht]
  rw [StateT.run_bind, lockFor, hd, hlock, except_ok_bind]
  simp only
  rw [StateT.run_bind, hload, except_ok_bind]
  simp only
  rw [StateT.run_bind, hrep, except_ok_bind]
  simp

variable (D IsOpen) in
/-- What a call of `prepare` guarantees, when it started in `w` with extension `e` and ended in
`w'` with result `r` and extension `e'`. -/
structure Prepared (e e' : Extension) (w w' : ω) (r : Except FailureReport Unit) : Prop where
  /-- The declarations are untouched. -/
  asm : e'.asm = e.asm
  /-- At most one compile was attempted. -/
  builds_le : e'.builds ≤ e.builds + 1
  /-- Success leaves an artifact with the current revision installed. -/
  ok_current : r = .ok () → ∃ t want, e'.table = some t ∧ e'.asm.revision = .ok want ∧
    D.Reports w' t (some want)
  /-- A failure in reading the revision or rendering, in taking the lock, in compiling or in
  loading leaves the extension as it was, its table included, but for its count of builds; any
  other failure is what handing the reverse functions' callbacks to a newly installed current
  artifact answered. -/
  failed : r ≠ .ok () → e' = { e with builds := e'.builds } ∨
    ∃ t want, e'.table = some t ∧ e'.asm.revision = .ok want ∧ D.Reports w' t (some want) ∧
      D.ActivationAnswer e t r w'
  /-- No artifact is left open that was not, but the installed one. -/
  opens : ∀ x, IsOpen w' x → IsOpen w x ∨ e'.table = some x
  /-- With a current artifact installed, nothing happens. -/
  keeps_current : ∀ t want, e.table = some t → e.asm.revision = .ok want →
    D.Reports w t (some want) → r = .ok () ∧ w' = w
  /-- The first call takes a current artifact from the persistent directory without
  compiling. -/
  reuses : ∀ d t want w1 w2, e.table = none → e.dir = some d → e.asm.revision = .ok want →
    (D.lock d).run w = .ok (.ok (), w1) →
    (D.load (D.libraryPath d e.name) e.name).run w1 = .ok (.ok t, w2) →
    D.Reports w2 t (some want) → e'.builds = e.builds ∧ e'.table = some t

/-- Every call of `prepare` against a lawful driver keeps its guarantees, whichever of the
driver's calls fail. -/
theorem prepare_current_or_unchanged (hD : D.Laws IsOpen) {w w' : ω} {e : Extension} {r}
    (he : ExtensionHost.ext w = some e) (h : D.prepare.run w = .ok (r, w')) :
    ∃ e', ExtensionHost.ext w' = some e' ∧ D.Prepared IsOpen e e' w w' r := by
  have keeps : ∀ t want, e.table = some t → e.asm.revision = .ok want →
      D.Reports w t (some want) → r = .ok () ∧ w' = w := by
    intro t want ht hwant hrep
    rw [prepare_current he ht hwant hrep] at h
    obtain ⟨hr, hw⟩ := Prod.mk.inj (Except.ok.inj h)
    exact ⟨hr.symm, hw.symm⟩
  have reuses : ∀ e', ExtensionHost.ext w' = some e' → ∀ d t want w1 w2, e.table = none →
      e.dir = some d → e.asm.revision = .ok want → (D.lock d).run w = .ok (.ok (), w1) →
      (D.load (D.libraryPath d e.name) e.name).run w1 = .ok (.ok t, w2) →
      D.Reports w2 t (some want) → e'.builds = e.builds ∧ e'.table = some t := by
    intro e' he' d t want w1 w2 ht hd hwant hlock hload hrep
    rw [prepare_reuses he ht hd hwant hlock hload hrep] at h
    have e2 : ExtensionHost.ext w2 = some e :=
      (hD.load_ext hload).trans (((hD.lock_inert d).ext hlock).trans he)
    obtain ⟨⟨rev, hext⟩, -, -⟩ := install_spec hD e2 (by rw [ht]; simp) h
    rw [hext] at he'
    cases he'
    exact ⟨rfl, rfl⟩
  rcases prepare_outcome hD he h with ⟨⟨b, hb, hext, hopen⟩, hr⟩ |
    ⟨b, hb, t, rev, want, hwant, hext, hrep, hopen, hact⟩
  · exact ⟨_, hext, rfl, hb, fun hok => absurd hok hr, fun _ => .inl rfl,
      fun x hx => .inl (hopen x hx), keeps, reuses _ hext⟩
  · -- the artifact installed is current, and a failure is what activating on it answered
    have cur : ∃ t' want', some t = some t' ∧ e.asm.revision = .ok want' ∧
        D.Reports w' t' (some want') := ⟨t, want, rfl, hwant, hrep⟩
    exact ⟨_, hext, rfl, hb, fun _ => cur, fun hr => .inr ⟨t, want, rfl, hwant, hrep, hact hr⟩,
      fun x hx => (hopen x hx).imp_right (fun hxt => by rw [hxt]), keeps, reuses _ hext⟩

end

end Driver

/-- Preparing a new extension with the scripted driver: it builds and succeeds, and when the
compiler fails it fails, both with the guarantees of a preparation. -/
theorem prepare_fresh_bench :
    (∃ w' e', Bench.driver.prepare.run freshBench = .ok (.ok (), w') ∧
      ExtensionHost.ext w' = some e' ∧
      Bench.driver.Prepared Bench.IsOpen { name := "m", asm := { name := "m" } } e' freshBench
        w' (.ok ())) ∧
    (∃ err w' e', Bench.driver.prepare.run { freshBench with compileFails := true } =
        .ok (.error err, w') ∧ ExtensionHost.ext w' = some e' ∧
      Bench.driver.Prepared Bench.IsOpen { name := "m", asm := { name := "m" } } e'
        { freshBench with compileFails := true } w' (.error err)) := by
  constructor
  · obtain ⟨w', h⟩ : ∃ w', Bench.driver.prepare.run freshBench = .ok (.ok (), w') := ⟨_, rfl⟩
    obtain ⟨e', hext, hp⟩ := Driver.prepare_current_or_unchanged Bench.driver_laws rfl h
    exact ⟨w', e', h, hext, hp⟩
  · obtain ⟨err, w', h⟩ : ∃ err w', Bench.driver.prepare.run { freshBench with compileFails := true } =
        .ok (.error err, w') := ⟨_, _, rfl⟩
    obtain ⟨e', hext, hp⟩ := Driver.prepare_current_or_unchanged Bench.driver_laws rfl h
    exact ⟨err, w', e', h, hext, hp⟩

end InlineC.Host
