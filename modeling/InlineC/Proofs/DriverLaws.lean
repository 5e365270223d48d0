import Mathlib
import InlineC.Host.Driver
import InlineC.Proofs.Revision
import InlineC.Proofs.Runs

/-!
# What an extension asks of its driver

Preparing an extension is written against any driver, so what it guarantees rests on what the
driver promises. `Driver.Laws` lists those promises: taking the lock, compiling, looking a
method up and handing a reverse function's callback to an artifact change neither the
extension's record nor what any artifact reports, and open nothing; telling an artifact's
revision changes nothing at all; a load opens only the artifact it returns, which is never the
one installed, and that artifact reports the revision stamped in the source compiled just
before; closing a freshly loaded artifact closes it. Which artifacts are open is a predicate
on worlds that each driver gives with its laws.

From them: activating reverse functions changes nothing but their marks, and installing an
artifact keeps what it reports and opens nothing.
-/

namespace InlineC.Host

namespace Driver

section Reports

variable {ω : Type} (D : Driver ω) (IsOpen : ω → Nat → Prop)

/-- Artifact `t` reports revision `r` in world `w`, and asking leaves `w` as it is. -/
def Reports (w : ω) (t : Nat) (r : Option Nat) : Prop := (D.revision t).run w = .ok (r, w)

/-- From `w` to `w'` every artifact reports what it did and nothing new is open. -/
structure Quiet (w w' : ω) : Prop where
  reports : ∀ {t r}, D.Reports w t r → D.Reports w' t r
  opens : ∀ {x}, IsOpen w' x → IsOpen w x

variable {D IsOpen}

/-- A world is quiet to itself. -/
theorem Quiet.refl (w : ω) : D.Quiet IsOpen w w := ⟨id, id⟩

/-- Quiet steps compose. -/
theorem Quiet.trans {w1 w2 w3 : ω} (h12 : D.Quiet IsOpen w1 w2) (h23 : D.Quiet IsOpen w2 w3) :
    D.Quiet IsOpen w1 w3 :=
  ⟨fun h => h23.reports (h12.reports h), fun h => h12.opens (h23.opens h)⟩

variable (D) in
/-- Artifact `t` has method table `tbl` in world `w`: looking a name up finds the first entry of
that name, whose doc and flags the artifact gives, or nothing; asking leaves `w` as it is. -/
structure Lists (w : ω) (t : Nat) (tbl : List Assembly.Method) : Prop where
  absent : ∀ n, tbl.find? (·.name == n) = none → (D.lookup t n).run w = .ok (none, w)
  present : ∀ n m, tbl.find? (·.name == n) = some m →
    (∃ fn, (D.lookup t n).run w = .ok (some fn, w)) ∧ (D.doc t n).run w = .ok (m.doc, w) ∧
      (D.flags t n).run w = .ok (m.flags, w)

end Reports

end Driver

section

variable {ω : Type} [ExtensionHost ω]

/-- Reading the extension and going on is going on from it. -/
@[simp] theorem getExt_bind_run {β : Type} (f : Option Extension → WorldM ω β) (w : ω) :
    (getExt >>= f).run w = (f (ExtensionHost.ext w)).run w := rfl

/-- Changing the extension and going on is going on from the changed world. -/
@[simp] theorem modifyExt_bind_run {β : Type} (g : Extension → Extension) (f : PUnit → WorldM ω β)
    (w : ω) : (modifyExt g >>= f).run w =
      (f ⟨⟩).run (ExtensionHost.setExt w ((ExtensionHost.ext w).map g)) := rfl

/-- The extension set is the one read back. -/
@[simp] theorem ext_setExt (w : ω) (e : Option Extension) :
    ExtensionHost.ext (ExtensionHost.setExt w e) = e :=
  ExtensionHost.ext_setExt w e

namespace Driver

variable (D : Driver ω) (IsOpen : ω → Nat → Prop)

/-- An action of the driver that leaves the extension's record alone and the world quiet. -/
structure Inert {α : Type} (act : WorldM ω α) : Prop where
  ext : ∀ {w a w'}, act.run w = .ok (a, w') → ExtensionHost.ext w' = ExtensionHost.ext w
  quiet : ∀ {w a w'}, act.run w = .ok (a, w') → D.Quiet IsOpen w w'

/-- What preparing an extension relies on of its driver, with `IsOpen` telling which artifacts
are open. -/
structure Laws : Prop where
  /-- Telling an artifact's revision changes nothing. -/
  revision_read : ∀ {t w r w'}, (D.revision t).run w = .ok (r, w') → w' = w
  /-- Artifacts do not see the extension's record. -/
  setExt_reports : ∀ {w t r} (e : Option Extension),
    D.Reports w t r → D.Reports (ExtensionHost.setExt w e) t r
  /-- Which artifacts are open does not depend on the extension's record. -/
  setExt_open : ∀ {w x} (e : Option Extension), IsOpen (ExtensionHost.setExt w e) x ↔ IsOpen w x
  /-- Taking the build lock of a directory. -/
  lock_inert : ∀ dir, D.Inert IsOpen (D.lock dir)
  /-- Making a temporary directory. -/
  makeTempDir_inert : ∀ name, D.Inert IsOpen (D.makeTempDir name)
  /-- Compiling writes a library and loads nothing. -/
  compile_inert : ∀ req, D.Inert IsOpen (D.compile req)
  /-- Looking a method up reads the artifact's table. -/
  lookup_inert : ∀ t name, D.Inert IsOpen (D.lookup t name)
  /-- A capture function stores the callback it is handed, and that is all it does. -/
  hand_inert : ∀ t name fn returns spec,
    D.Inert IsOpen (D.call t name fn [.callback (.reverse returns spec)])
  /-- Loading leaves the extension's record alone. -/
  load_ext : ∀ {path name w a w'}, (D.load path name).run w = .ok (a, w') →
    ExtensionHost.ext w' = ExtensionHost.ext w
  /-- Loading changes what no artifact reports but the one it returns. -/
  load_reports : ∀ {path name w a w' t r}, (D.load path name).run w = .ok (a, w') →
    a ≠ .ok t → D.Reports w t r → D.Reports w' t r
  /-- Loading opens only the artifact it returns. -/
  load_opens : ∀ {path name w a w' x}, (D.load path name).run w = .ok (a, w') →
    IsOpen w' x → IsOpen w x ∨ a = .ok x
  /-- A load gives a new artifact, never the one installed. -/
  load_fresh : ∀ {path name w t w'}, (D.load path name).run w = .ok (.ok t, w') →
    (ExtensionHost.ext w).bind Extension.table ≠ some t
  /-- The artifact loaded from a freshly compiled library reports the revision stamped in the
  source it was compiled from. -/
  load_stamp : ∀ {req w path w1 t w2}, (D.compile req).run w = .ok (.ok path, w1) →
    (D.load path req.name).run w1 = .ok (.ok t, w2) → D.Reports w2 t (Assembly.stamp req.source)
  /-- Closing leaves the extension's record alone. -/
  close_ext : ∀ {u w b w'}, (D.close u).run w = .ok (b, w') →
    ExtensionHost.ext w' = ExtensionHost.ext w
  /-- Closing an artifact changes what no other artifact reports. -/
  close_reports : ∀ {u w b w' t r}, (D.close u).run w = .ok (b, w') → t ≠ u →
    D.Reports w t r → D.Reports w' t r
  /-- Closing opens nothing. -/
  close_opens : ∀ {u w b w' x}, (D.close u).run w = .ok (b, w') → IsOpen w' x → IsOpen w x
  /-- Nothing runs on an artifact just loaded, so closing it releases it. -/
  close_loaded : ∀ {path name w t w1 b w2}, (D.load path name).run w = .ok (.ok t, w1) →
    (D.close t).run w1 = .ok (b, w2) → ¬ IsOpen w2 t

/-- From `w` to `w'` the world is quiet and the extension changed at most in which callbacks
its reverse functions handed to which artifact. -/
structure Rearms (w w' : ω) : Prop where
  quiet : D.Quiet IsOpen w w'
  ext : ∀ e, ExtensionHost.ext w = some e → ∃ rev, ExtensionHost.ext w' = some { e with reverse := rev }

variable {D IsOpen}

/-- Rewriting the extension's record disturbs no artifact. -/
theorem Laws.setExt_quiet (hD : D.Laws IsOpen) (w : ω) (e : Option Extension) :
    D.Quiet IsOpen w (ExtensionHost.setExt w e) :=
  ⟨hD.setExt_reports e, (hD.setExt_open e).1⟩

/-- A world rearms itself. -/
theorem Rearms.refl (w : ω) : D.Rearms IsOpen w w :=
  ⟨Quiet.refl w, fun e he => ⟨e.reverse, he⟩⟩

/-- Rearming composes. -/
theorem Rearms.trans {w1 w2 w3 : ω} (h12 : D.Rearms IsOpen w1 w2) (h23 : D.Rearms IsOpen w2 w3) :
    D.Rearms IsOpen w1 w3 := by
  refine ⟨h12.quiet.trans h23.quiet, fun e he => ?_⟩
  obtain ⟨rev, h2⟩ := h12.ext e he
  obtain ⟨rev', h3⟩ := h23.ext _ h2
  exact ⟨rev', h3⟩

/-- An inert action rearms nothing but leaves the world quiet. -/
theorem Inert.rearms {α : Type} {act : WorldM ω α} (hi : D.Inert IsOpen act) {w a w'}
    (h : act.run w = .ok (a, w')) : D.Rearms IsOpen w w' := by
  refine ⟨hi.quiet h, fun e he => ⟨e.reverse, ?_⟩⟩
  rw [hi.ext h, he]

/-- Taking the lock an extension needs is inert: without a persistent directory there is none. -/
theorem lockFor_inert (hD : D.Laws IsOpen) (e : Extension) : D.Inert IsOpen (D.lockFor e) := by
  unfold lockFor
  cases e.dir with
  | none => exact ⟨fun h => (pure_run_eq_ok h).2 ▸ rfl, fun h => (pure_run_eq_ok h).2 ▸ Quiet.refl _⟩
  | some dir => exact hD.lock_inert dir

omit [ExtensionHost ω] in
/-- Every run of finding a build's directory either hands the persistent one over in place or
is a run of making a temporary one. -/
theorem buildDir_run {e : Extension} {w : ω} {a w'} (h : (D.buildDir e).run w = .ok (a, w')) :
    w' = w ∨ ∃ a', (D.makeTempDir e.name).run w = .ok (a', w') := by
  unfold buildDir at h
  split at h
  next => exact .inl (pure_run_eq_ok h).2
  next =>
    obtain ⟨res, w1, h1, h⟩ := run_bind_eq_ok.1 h
    split at h <;> exact .inr ⟨_, (pure_run_eq_ok h).2 ▸ h1⟩

/-- Finding the directory a build writes to is inert. -/
theorem buildDir_inert (hD : D.Laws IsOpen) (e : Extension) : D.Inert IsOpen (D.buildDir e) := by
  constructor
  · intro w a w' h
    rcases buildDir_run h with rfl | ⟨a', h'⟩
    · rfl
    · exact (hD.makeTempDir_inert _).ext h'
  · intro w a w' h
    rcases buildDir_run h with rfl | ⟨a', h'⟩
    · exact Quiet.refl _
    · exact (hD.makeTempDir_inert _).quiet h'

/-- Activating a reverse function changes nothing but its mark, and disturbs no artifact. -/
theorem activate_rearms (hD : D.Laws IsOpen) {n : String} {w : ω} {r w'}
    (h : (D.activate n).run w = .ok (r, w')) : D.Rearms IsOpen w w' := by
  unfold activate at h
  simp only [getExt_bind_run] at h
  -- every exit before the capture function is reached leaves the world as it was
  have stay : ∀ {v : Except FailureReport Unit}, (pure v : WorldM ω _).run w = .ok (r, w') →
      D.Rearms IsOpen w w' := by
    intro v hv
    rw [(pure_run_eq_ok hv).2]
    exact Rearms.refl w
  split at h
  next e he =>
    split at h
    next rv hrv =>
      split at h
      next => exact stay h
      next t ht =>
        split at h
        next => exact stay h
        next =>
          obtain ⟨found, w1, h1, h⟩ := run_bind_eq_ok.1 h
          have r1 := (hD.lookup_inert t rv.capture).rearms h1
          split at h
          next => rw [(pure_run_eq_ok h).2]; exact r1
          next fn =>
            obtain ⟨res, w2, h2, h⟩ := run_bind_eq_ok.1 h
            have r2 := r1.trans ((hD.hand_inert t rv.capture fn rv.returns rv.spec).rearms h2)
            split at h
            next => rw [(pure_run_eq_ok h).2]; exact r2
            next =>
              rw [modifyExt_bind_run] at h
              rw [(pure_run_eq_ok h).2]
              refine r2.trans ⟨hD.setExt_quiet w2 _, fun e2 he2 => ?_⟩
              rw [ext_setExt, he2]
              exact ⟨_, rfl⟩
    next => exact stay h
  next => exact stay h

/-- Activating reverse functions one after another rearms, by induction on the names. -/
theorem mapM_activate_rearms (hD : D.Laws IsOpen) :
    ∀ (names : List String) {w : ω} {rs w'}, (names.mapM D.activate).run w = .ok (rs, w') →
      D.Rearms IsOpen w w'
  | [], w, rs, w', h => by
    rw [List.mapM_nil] at h
    rw [(pure_run_eq_ok h).2]
    exact Rearms.refl w
  | n :: names, w, rs, w', h => by
    rw [List.mapM_cons] at h
    obtain ⟨r, w1, h1, h⟩ := run_bind_eq_ok.1 h
    obtain ⟨rs', w2, h2, h⟩ := run_bind_eq_ok.1 h
    rw [(pure_run_eq_ok h).2]
    exact (activate_rearms hD h1).trans (mapM_activate_rearms hD names h2)

/-- Activating reverse functions in turn changes nothing but their marks, and disturbs no artifact.
-/
theorem activateAll_rearms (hD : D.Laws IsOpen) {names : List String} {w : ω} {r w'}
    (h : (D.activateAll names).run w = .ok (r, w')) : D.Rearms IsOpen w w' := by
  unfold activateAll at h
  obtain ⟨results, w1, h1, h⟩ := run_bind_eq_ok.1 h
  have hw' : w' = w1 := by
    split at h <;> exact (pure_run_eq_ok h).2
  rw [hw']
  exact mapM_activate_rearms hD names h1

/-- Installing a new artifact makes it the extension's table, keeps what it reports, and opens
nothing: only the previous artifact is released. -/
theorem install_spec (hD : D.Laws IsOpen) {t : Nat} {w : ω} {e : Extension} {r w'}
    (he : ExtensionHost.ext w = some e) (hfresh : e.table ≠ some t)
    (h : (D.install t).run w = .ok (r, w')) :
    (∃ rev, ExtensionHost.ext w' = some { e with table := some t, reverse := rev }) ∧
      (∀ rep, D.Reports w t rep → D.Reports w' t rep) ∧ (∀ x, IsOpen w' x → IsOpen w x) := by
  unfold install at h
  simp only [getExt_bind_run, he, modifyExt_bind_run, Option.map_some] at h
  have q0 := hD.setExt_quiet w (some { e with table := some t })
  have e0 := ext_setExt w (some { e with table := some t })
  split at h
  next old hold =>
    obtain ⟨_, w1, h1, h⟩ := run_bind_eq_ok.1 h
    have ra := activateAll_rearms hD h
    have ht : t ≠ old := fun hto => hfresh (hto ▸ hold)
    refine ⟨ra.ext _ ((hD.close_ext h1).trans e0), fun rep hr => ?_, fun x hx => ?_⟩
    · exact ra.quiet.reports (hD.close_reports h1 ht (q0.reports hr))
    · exact q0.opens (hD.close_opens h1 (ra.quiet.opens hx))
  next hnone =>
    have ra := activateAll_rearms hD h
    exact ⟨ra.ext _ e0, fun rep hr => ra.quiet.reports (q0.reports hr),
      fun x hx => q0.opens (ra.quiet.opens hx)⟩

/-- What installing answers is what handing the reverse functions' callbacks to the new artifact
answered, once it was made the table. -/
theorem install_answer (hD : D.Laws IsOpen) {t : Nat} {w : ω} {e : Extension} {r w'}
    (he : ExtensionHost.ext w = some e) (h : (D.install t).run w = .ok (r, w')) :
    ∃ w₁, ExtensionHost.ext w₁ = some { e with table := some t } ∧
      (D.activateAll (e.reverse.map (·.name))).run w₁ = .ok (r, w') := by
  unfold install at h
  simp only [getExt_bind_run, he, modifyExt_bind_run, Option.map_some] at h
  have e0 := ext_setExt w (some { e with table := some t })
  split at h
  next old hold =>
    -- the previous artifact is released first, which leaves the record alone
    obtain ⟨_, w1, h1, h⟩ := run_bind_eq_ok.1 h
    exact ⟨w1, (hD.close_ext h1).trans e0, h⟩
  next hnone => exact ⟨_, e0, h⟩

variable (D)

/-- A fact about artifacts that only loading or releasing the artifact itself disturbs:
rewriting the extension's record, taking a lock, making a temporary directory, compiling, looking
methods up and handing callbacks keep it of every artifact, and loading or closing one keeps it of every other. -/
structure Stable (Holds : ω → Nat → Prop) : Prop where
  setExt : ∀ {w t} (e : Option Extension), Holds w t → Holds (ExtensionHost.setExt w e) t
  lock : ∀ {dir w a w' t}, (D.lock dir).run w = .ok (a, w') → Holds w t → Holds w' t
  makeTempDir : ∀ {name w a w' t}, (D.makeTempDir name).run w = .ok (a, w') → Holds w t →
    Holds w' t
  compile : ∀ {req w a w' t}, (D.compile req).run w = .ok (a, w') → Holds w t → Holds w' t
  lookup : ∀ {u n w a w' t}, (D.lookup u n).run w = .ok (a, w') → Holds w t → Holds w' t
  hand : ∀ {u n fn returns spec w a w' t},
    (D.call u n fn [.callback (.reverse returns spec)]).run w = .ok (a, w') → Holds w t → Holds w' t
  load : ∀ {path name w a w' t}, (D.load path name).run w = .ok (a, w') → a ≠ .ok t →
    Holds w t → Holds w' t
  close : ∀ {u w b w' t}, (D.close u).run w = .ok (b, w') → t ≠ u → Holds w t → Holds w' t

/-- From `w` to `w'` every stable fact of artifact `t` is kept. -/
def Keeps (w w' : ω) (t : Nat) : Prop := ∀ Holds, D.Stable Holds → Holds w t → Holds w' t

/-- One thing activating reverse functions does to the world: look a method up, hand a callback
to a capture function, or mark reverse functions in the extension's record. -/
inductive Touch (w w' : ω) : Prop
  | lookup {u n a} : (D.lookup u n).run w = .ok (a, w') → Touch w w'
  | hand {u n fn returns spec a} :
      (D.call u n fn [.callback (.reverse returns spec)]).run w = .ok (a, w') → Touch w w'
  | mark (g : List ReverseFn → List ReverseFn) :
      w' = ExtensionHost.setExt w
        ((ExtensionHost.ext w).map fun e => { e with reverse := g e.reverse }) → Touch w w'

/-- What resolving proxies relies on of a driver besides its laws, for what `Has w t o a`
says: that artifact `t` holds in world `w` the method table rendered for `a`, as a compiler of
options `o` built it. Looking a name up reads the table an artifact holds, holding it is a
stable fact of the artifact, and a loaded artifact holds the table of the declarations its
library was built from. -/
structure TableLaws (Has : ω → Nat → Lang.Options → Assembly → Prop) : Prop where
  /-- Looking a name up in an artifact reads the table it holds. -/
  lists : ∀ {w t o a}, Has w t o a → D.Lists w t (a.methods o)
  /-- Only loading and releasing an artifact change the table it holds. -/
  stable : ∀ o a, D.Stable fun w t => Has w t o a
  /-- The artifact loaded from a library just compiled, with the extension's flags, from the
  rendering of its declarations holds their table, as compiled with those flags. -/
  built : ∀ {w e req path w1 t w2}, ExtensionHost.ext w = some e →
    e.asm.render = .ok req.source → req.flags = e.flags →
    (D.compile req).run w = .ok (.ok path, w1) → (D.load path req.name).run w1 = .ok (.ok t, w2) →
    Has w2 t (Lang.Options.ofFlags e.flags) e.asm
  /-- A library that reports the revision of the extension's declarations was built from them,
  since two different translation units never share a fingerprint, though maybe with other
  flags. -/
  current : ∀ {w e path name t w' want}, ExtensionHost.ext w = some e →
    e.asm.revision = .ok want → (D.load path name).run w = .ok (.ok t, w') →
    D.Reports w' t (some want) → ∃ o, Has w' t o e.asm

variable {D}

/-- What artifacts report is stable. -/
theorem Laws.reports_stable (hD : D.Laws IsOpen) (r : Option Nat) :
    D.Stable fun w t => D.Reports w t r where
  setExt e h := hD.setExt_reports e h
  lock h := ((hD.lock_inert _).quiet h).reports
  makeTempDir h := ((hD.makeTempDir_inert _).quiet h).reports
  compile h := ((hD.compile_inert _).quiet h).reports
  lookup h := ((hD.lookup_inert _ _).quiet h).reports
  hand h := ((hD.hand_inert _ _ _ _ _).quiet h).reports
  load h hne := hD.load_reports h hne
  close h hne := hD.close_reports h hne

/-- A world keeps every fact of an artifact it holds. -/
theorem Keeps.refl (w : ω) (t : Nat) : D.Keeps w w t := fun _ _ h => h

/-- Keeping composes. -/
theorem Keeps.trans {w1 w2 w3 : ω} {t : Nat} (h12 : D.Keeps w1 w2 t) (h23 : D.Keeps w2 w3 t) :
    D.Keeps w1 w3 t := fun P hP h => h23 P hP (h12 P hP h)

/-- Rewriting the extension's record keeps every stable fact. -/
theorem keeps_setExt (w : ω) (e : Option Extension) (t : Nat) :
    D.Keeps w (ExtensionHost.setExt w e) t := fun _ hP h => hP.setExt e h

/-- Compiling keeps every stable fact. -/
theorem keeps_compile {req : CompileRequest} {w : ω} {a w'} (h : (D.compile req).run w = .ok (a, w'))
    (t : Nat) : D.Keeps w w' t := fun _ hP => hP.compile h

/-- Loading keeps every stable fact of every artifact but the one it returns. -/
theorem keeps_load {path name : String} {w : ω} {a w'} {t : Nat}
    (h : (D.load path name).run w = .ok (a, w')) (hne : a ≠ .ok t) : D.Keeps w w' t :=
  fun _ hP => hP.load h hne

/-- Closing an artifact keeps every stable fact of every other. -/
theorem keeps_close {u : Nat} {w : ω} {b w'} {t : Nat} (h : (D.close u).run w = .ok (b, w'))
    (hne : t ≠ u) : D.Keeps w w' t := fun _ hP => hP.close h hne

/-- Taking an extension's lock keeps every stable fact. -/
theorem keeps_lockFor {e : Extension} {w : ω} {a w'} (h : (D.lockFor e).run w = .ok (a, w'))
    (t : Nat) : D.Keeps w w' t := by
  unfold lockFor at h
  intro P hP hw
  split at h
  next => rw [(pure_run_eq_ok h).2]; exact hw
  next dir => exact hP.lock h hw

/-- Finding a build's directory keeps every stable fact. -/
theorem keeps_buildDir {e : Extension} {w : ω} {a w'} (h : (D.buildDir e).run w = .ok (a, w'))
    (t : Nat) : D.Keeps w w' t := by
  intro P hP hw
  rcases buildDir_run h with rfl | ⟨a', h'⟩
  · exact hw
  · exact hP.makeTempDir h' hw

/-- Touching the world keeps every stable fact, one touch at a time. -/
theorem Touch.keeps {w w' : ω} (h : Relation.ReflTransGen D.Touch w w') (t : Nat) :
    D.Keeps w w' t := by
  induction h with
  | refl => exact Keeps.refl _ t
  | tail _ hstep ih =>
    refine ih.trans fun P hP hw => ?_
    cases hstep with
    | lookup h => exact hP.lookup h hw
    | hand h => exact hP.hand h hw
    | mark g h => rw [h]; exact hP.setExt _ hw

/-- Activating a reverse function looks its capture up, hands it the callback and marks it, or
stops on the way. -/
theorem activate_touches {n : String} {w : ω} {r w'} (h : (D.activate n).run w = .ok (r, w')) :
    Relation.ReflTransGen D.Touch w w' := by
  unfold activate at h
  simp only [getExt_bind_run] at h
  -- every exit before the capture function is reached leaves the world as it was
  have stay : ∀ {v : Except FailureReport Unit}, (pure v : WorldM ω _).run w = .ok (r, w') →
      Relation.ReflTransGen D.Touch w w' := by
    intro v hv
    rw [(pure_run_eq_ok hv).2]
  split at h
  next e he =>
    split at h
    next rv hrv =>
      split at h
      next => exact stay h
      next t ht =>
        split at h
        next => exact stay h
        next =>
          rw [run_bind_eq_ok] at h
          obtain ⟨found, w1, h1, h⟩ := h
          have s1 : Relation.ReflTransGen D.Touch w w1 := .single (.lookup h1)
          split at h
          next => rw [(pure_run_eq_ok h).2]; exact s1
          next fn =>
            rw [run_bind_eq_ok] at h
            obtain ⟨res, w2, h2, h⟩ := h
            have s2 := s1.tail (.hand h2)
            split at h
            next => rw [(pure_run_eq_ok h).2]; exact s2
            next =>
              rw [modifyExt_bind_run] at h
              rw [(pure_run_eq_ok h).2]
              exact s2.tail (.mark _ rfl)
    next => exact stay h
  next => exact stay h

/-- Activating reverse functions one after another touches the world, by induction on the
names. -/
theorem mapM_activate_touches :
    ∀ (names : List String) {w : ω} {rs w'}, (names.mapM D.activate).run w = .ok (rs, w') →
      Relation.ReflTransGen D.Touch w w'
  | [], w, rs, w', h => by
    rw [List.mapM_nil] at h
    rw [(pure_run_eq_ok h).2]
  | n :: names, w, rs, w', h => by
    rw [List.mapM_cons, run_bind_eq_ok] at h
    obtain ⟨r, w1, h1, h⟩ := h
    rw [run_bind_eq_ok] at h
    obtain ⟨rs', w2, h2, h⟩ := h
    rw [(pure_run_eq_ok h).2]
    exact (activate_touches h1).trans (mapM_activate_touches names h2)

/-- Activating reverse functions in turn is a run of touches. -/
theorem activateAll_touches {names : List String} {w : ω} {r w'}
    (h : (D.activateAll names).run w = .ok (r, w')) : Relation.ReflTransGen D.Touch w w' := by
  unfold activateAll at h
  rw [run_bind_eq_ok] at h
  obtain ⟨results, w1, h1, h⟩ := h
  have hw' : w' = w1 := by
    split at h <;> exact (pure_run_eq_ok h).2
  rw [hw']
  exact mapM_activate_touches names h1

/-- Installing an artifact keeps its stable facts: only the previous one is released. -/
theorem install_keeps {t : Nat} {w : ω} {e : Extension} {r w'}
    (he : ExtensionHost.ext w = some e) (hfresh : e.table ≠ some t)
    (h : (D.install t).run w = .ok (r, w')) : D.Keeps w w' t := by
  unfold install at h
  simp only [getExt_bind_run, he, modifyExt_bind_run, Option.map_some] at h
  have k0 := keeps_setExt (D := D) w (some { e with table := some t }) t
  split at h
  next old hold =>
    rw [run_bind_eq_ok] at h
    obtain ⟨_, w1, h1, h⟩ := h
    have hne : t ≠ old := fun hto => hfresh (hto ▸ hold)
    exact (k0.trans (keeps_close h1 hne)).trans (Touch.keeps (activateAll_touches h) t)
  next => exact k0.trans (Touch.keeps (activateAll_touches h) t)

end Driver

end

end InlineC.Host
