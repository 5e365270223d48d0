import Mathlib
import InlineC.Proofs.DriverLaws

/-!
# The ways a build and a preparation go

`Driver.build` and `Driver.prepare` branch on the extension's record and on what each call of the
driver answers. `BuildRun` and `PrepareRun` list the branches, one constructor for each way out,
with the driver calls made on the way; `build_run` and `prepare_run` show that every call goes
one of these ways. What a call guarantees is then read off the constructors, one case each,
without opening the functions again.
-/

namespace InlineC.Host

namespace Driver

section

variable {ω : Type} [ExtensionHost ω] (D : Driver ω)

/-- The world once a build attempt of extension `e` is counted. -/
def counted (w : ω) (e : Extension) : ω :=
  ExtensionHost.setExt w (some { e with builds := e.builds + 1 })

/-- The ways a build of extension `e` goes from world `w`, with its result and last world. -/
inductive BuildRun (e : Extension) (w : ω) : Except FailureReport Unit → ω → Prop
  /-- The declarations do not render, and nothing happens. -/
  | unrenderable {err} : e.asm.render = .error err →
      BuildRun e w (.error (Errors.configuration e.name (Failure.report err))) w
  /-- No directory to build in is made, and the attempt is not counted. -/
  | homeless {source err w1} : e.asm.render = .ok source →
      (D.buildDir e).run w = .ok (.error err, w1) → BuildRun e w (.error err) w1
  /-- The attempt is counted and the compiler fails. -/
  | uncompiled {source dir w0 err w1} : e.asm.render = .ok source →
      (D.buildDir e).run w = .ok (.ok dir, w0) →
      (D.compile (buildRequest e dir source)).run (counted w0 e) = .ok (.error err, w1) →
      BuildRun e w (.error err) w1
  /-- The library is written and does not load. -/
  | unloaded {source dir w0 path err w1 w2} : e.asm.render = .ok source →
      (D.buildDir e).run w = .ok (.ok dir, w0) →
      (D.compile (buildRequest e dir source)).run (counted w0 e) = .ok (.ok path, w1) →
      (D.load path e.name).run w1 = .ok (.error err, w2) → BuildRun e w (.error err) w2
  /-- The library loads, and its artifact is installed. -/
  | installed {source dir w0 path t w1 w2 r w'} : e.asm.render = .ok source →
      (D.buildDir e).run w = .ok (.ok dir, w0) →
      (D.compile (buildRequest e dir source)).run (counted w0 e) = .ok (.ok path, w1) →
      (D.load path e.name).run w1 = .ok (.ok t, w2) → (D.install t).run w2 = .ok (r, w') →
      BuildRun e w r w'

/-- What happens before a preparation falls back to a build, when the declarations' revision
is `want`: the lock is taken and, before the first artifact, the persistent directory's
library is tried and dropped. -/
inductive BeforeBuild (e : Extension) (want : Nat) (w : ω) : ω → Prop
  /-- The installed artifact is stale and no reverse callback is running. -/
  | stale {t rep w1} : e.table = some t → D.Reports w t rep → rep ≠ some want →
      e.inCallback = 0 → (D.lockFor e).run w = .ok (.ok (), w1) → BeforeBuild e want w w1
  /-- Nothing is installed and there is no persistent directory. -/
  | temporary : e.table = none → e.dir = none → BeforeBuild e want w w
  /-- The persistent directory's library does not load. -/
  | unloadable {d w1 err w2} : e.table = none → e.dir = some d →
      (D.lock d).run w = .ok (.ok (), w1) →
      (D.load (D.libraryPath d e.name) e.name).run w1 = .ok (.error err, w2) →
      BeforeBuild e want w w2
  /-- The persistent directory's artifact is stale, and is released. -/
  | outdated {d w1 t w2 rep b w3} : e.table = none → e.dir = some d →
      (D.lock d).run w = .ok (.ok (), w1) →
      (D.load (D.libraryPath d e.name) e.name).run w1 = .ok (.ok t, w2) → D.Reports w2 t rep →
      rep ≠ some want → (D.close t).run w2 = .ok (b, w3) → BeforeBuild e want w w3

/-- The ways a preparation of extension `e` goes from world `w`, with its result and last
world. -/
inductive PrepareRun (e : Extension) (w : ω) : Except FailureReport Unit → ω → Prop
  /-- The declarations do not render, and nothing happens. -/
  | unrenderable {err} : e.asm.revision = .error err →
      PrepareRun e w (.error (Errors.configuration e.name (Failure.report err))) w
  /-- The installed artifact reports the current revision, and is kept. -/
  | current {want t} : e.asm.revision = .ok want → e.table = some t →
      D.Reports w t (some want) → PrepareRun e w (.ok ()) w
  /-- The installed artifact is stale, and a reverse callback is running. -/
  | reentrant {want t rep} : e.asm.revision = .ok want → e.table = some t → D.Reports w t rep →
      rep ≠ some want → 0 < e.inCallback → PrepareRun e w (.error (Errors.reentrant e.name)) w
  /-- The lock is not taken. -/
  | locked {want err w1} : e.asm.revision = .ok want →
      (D.lockFor e).run w = .ok (.error err, w1) → PrepareRun e w (.error err) w1
  /-- The extension is built. -/
  | rebuilt {want w1 r w'} : e.asm.revision = .ok want → D.BeforeBuild e want w w1 →
      D.build.run w1 = .ok (r, w') → PrepareRun e w r w'
  /-- Before the first artifact, the persistent directory's artifact reports the current
  revision, and is installed. -/
  | reused {want d w1 t w2 r w'} : e.asm.revision = .ok want → e.table = none →
      e.dir = some d → (D.lock d).run w = .ok (.ok (), w1) →
      (D.load (D.libraryPath d e.name) e.name).run w1 = .ok (.ok t, w2) →
      D.Reports w2 t (some want) → (D.install t).run w2 = .ok (r, w') → PrepareRun e w r w'

variable {D}

/-- Every build against a driver whose temporary directories leave the record alone goes one of
the ways `BuildRun` lists. -/
theorem build_run {IsOpen : ω → Nat → Prop} (hD : D.Laws IsOpen) {w : ω} {e : Extension} {r w'}
    (he : ExtensionHost.ext w = some e) (h : D.build.run w = .ok (r, w')) :
    D.BuildRun e w r w' := by
  unfold build at h
  simp only [getExt_bind_run, he] at h
  split at h
  next err hr =>
    obtain ⟨rfl, rfl⟩ := pure_run_eq_ok h
    exact .unrenderable hr
  next source hr =>
    obtain ⟨dres, w0, h0, h⟩ := run_bind_eq_ok.1 h
    -- the directory is found before the record is touched
    have e0 := ((buildDir_inert hD e).ext h0).trans he
    split at h
    next err =>
      obtain ⟨rfl, rfl⟩ := pure_run_eq_ok h
      exact .homeless hr h0
    next dir =>
      rw [modifyExt_bind_run, e0, Option.map_some, run_bind_eq_ok] at h
      obtain ⟨res, w1, h1, h⟩ := h
      split at h
      next err =>
        obtain ⟨rfl, rfl⟩ := pure_run_eq_ok h
        exact .uncompiled hr h0 h1
      next path =>
        rw [run_bind_eq_ok] at h
        obtain ⟨res', w2, h2, h⟩ := h
        split at h
        next err =>
          obtain ⟨rfl, rfl⟩ := pure_run_eq_ok h
          exact .unloaded hr h0 h1 h2
        next t => exact .installed hr h0 h1 h2 h

/-- Every preparation against a driver whose revision reads change nothing goes one of the ways
`PrepareRun` lists. -/
theorem prepare_run {IsOpen : ω → Nat → Prop} (hD : D.Laws IsOpen) {w : ω} {e : Extension} {r w'}
    (he : ExtensionHost.ext w = some e) (h : D.prepare.run w = .ok (r, w')) :
    D.PrepareRun e w r w' := by
  unfold prepare at h
  simp only [getExt_bind_run, he] at h
  split at h
  next err hr =>
    obtain ⟨rfl, rfl⟩ := pure_run_eq_ok h
    exact .unrenderable hr
  next want hwant =>
    split at h
    next t ht =>
      -- an artifact is installed: it is kept when it reports the current revision
      rw [run_bind_eq_ok] at h
      obtain ⟨rep, w1, h1, h⟩ := h
      obtain rfl := hD.revision_read h1
      split at h
      next hcur =>
        obtain ⟨rfl, rfl⟩ := pure_run_eq_ok h
        rw [beq_iff_eq] at hcur
        subst hcur
        exact .current hwant ht h1
      next hstale =>
        rw [beq_iff_eq] at hstale
        split at h
        next hcb =>
          obtain ⟨rfl, rfl⟩ := pure_run_eq_ok h
          exact .reentrant hwant ht h1 hstale hcb
        next hcb =>
          rw [run_bind_eq_ok] at h
          obtain ⟨lk, w2, h2, h⟩ := h
          split at h
          next err =>
            obtain ⟨rfl, rfl⟩ := pure_run_eq_ok h
            exact .locked hwant h2
          next => exact .rebuilt hwant (.stale ht h1 hstale (by omega) h2) h
    next ht =>
      -- nothing is installed yet: the persistent directory's library comes first
      rw [run_bind_eq_ok] at h
      obtain ⟨lk, w2, h2, h⟩ := h
      split at h
      next err =>
        obtain ⟨rfl, rfl⟩ := pure_run_eq_ok h
        exact .locked hwant h2
      next =>
        split at h
        next hdir =>
          -- without a persistent directory there is no lock to take
          rw [lockFor, hdir] at h2
          obtain ⟨-, rfl⟩ := pure_run_eq_ok h2
          exact .rebuilt hwant (.temporary ht hdir) h
        next d hdir =>
          rw [lockFor, hdir] at h2
          rw [run_bind_eq_ok] at h
          obtain ⟨res, w3, h3, h⟩ := h
          split at h
          next err => exact .rebuilt hwant (.unloadable ht hdir h2 h3) h
          next t =>
            rw [run_bind_eq_ok] at h
            obtain ⟨rep, w4, h4, h⟩ := h
            obtain rfl := hD.revision_read h4
            split at h
            next hstale =>
              rw [bne_iff_ne] at hstale
              rw [run_bind_eq_ok] at h
              obtain ⟨b, w5, h5, h⟩ := h
              exact .rebuilt hwant (.outdated ht hdir h2 h3 h4 hstale h5) h
            next hcur =>
              rw [bne_iff_ne, ne_eq, not_not] at hcur
              subst hcur
              exact .reused hwant ht hdir h2 h3 h4 h

end

end Driver

end InlineC.Host
