import Mathlib
import InlineC.Proofs.DriverLaws

/-!
# A scripted driver

A driver whose compiler and loader fail or succeed as its world says, and which keeps only
what preparing an extension and resolving its proxies can observe: the extension, the revision
and the method table of each loaded artifact, which artifacts are open, and the stamp of the
source compiled last. A loaded artifact gets the method table of the extension's declarations.
It satisfies the driver laws and the table laws, so what is proved against a lawful driver
holds of it, and its runs are concrete instances of those guarantees.
-/

namespace InlineC.Host

/-- The world of the scripted driver. -/
structure Bench where
  ext : Option Extension
  /-- Loaded artifacts, newest first, with the revision each reports. -/
  stamps : List (Nat × Option Nat) := []
  /-- Loaded artifacts, newest first, with their method tables. -/
  tables : List (Nat × List Assembly.Method) := []
  /-- The artifacts open now. -/
  opened : List Nat := []
  /-- The stamp of the source compiled last. -/
  compiled : Option Nat := none
  /-- Whether the compiler fails. -/
  compileFails : Bool := false
  /-- Whether loading fails. -/
  loadFails : Bool := false

/-- The scripted world holds the extension in a field. -/
instance : ExtensionHost Bench where
  ext w := w.ext
  setExt w e := { w with ext := e }
  ext_setExt _ _ := rfl

/-- A world with a new extension: no declarations, no persistent directory, nothing built. -/
def freshBench : Bench := { ext := some { name := "m", asm := { name := "m" } } }

namespace Bench

/-- An artifact is open while it is listed as open. -/
def IsOpen (w : Bench) (t : Nat) : Prop := t ∈ w.opened

/-- The number of the next artifact: one past the installed table. -/
def fresh (w : Bench) : Nat := ((w.ext.bind Extension.table).getD 0) + 1

/-- The method table of an artifact. -/
def tableOf (w : Bench) (t : Nat) : List Assembly.Method := (w.tables.lookup t).getD []

/-- The method table of the extension's declarations. -/
def currentMethods (w : Bench) : List Assembly.Method :=
  (w.ext.map fun e => e.asm.methods (Lang.Options.ofFlags e.flags)).getD []

/-- The scripted driver: a compile records the stamp of its source, a load opens a new artifact
reporting the stamp recorded last with the method table of the extension's declarations, and a
close always succeeds. -/
def driver : Driver Bench where
  libraryPath dir name := dir ++ "/" ++ name
  lock _ := pure (.ok ())
  makeTempDir name := pure (.ok (tempDir name))
  compile req := do
    let w ← get
    if w.compileFails then return .error (.plain "compile failed")
    set { w with compiled := Assembly.stamp req.source }
    pure (.ok req.outDir)
  load _ name := do
    let w ← get
    if w.loadFails then return .error (.plain ("load " ++ name ++ " failed"))
    set { w with stamps := (fresh w, w.compiled) :: w.stamps,
                 tables := (fresh w, currentMethods w) :: w.tables, opened := fresh w :: w.opened }
    pure (.ok (fresh w))
  revision t := do pure (((← get).stamps.lookup t).join)
  lookup t n := do pure ((((← get).tableOf t).find? (·.name == n)).map fun _ => t.toUInt64)
  doc t n := do pure (((((← get).tableOf t).find? (·.name == n)).map (·.doc)).getD [])
  flags t n := do pure (((((← get).tableOf t).find? (·.name == n)).map (·.flags)).getD (-1))
  call _ _ _ _ := pure (.ok .nil)
  close t := do
    modify fun w => { w with opened := w.opened.filter (· ≠ t) }
    pure true

/-- Compiling fails when the world says so, and otherwise records the source's stamp. -/
theorem compile_run (req : CompileRequest) (w : Bench) :
    (driver.compile req).run w =
      .ok (if w.compileFails then (.error (.plain "compile failed"), w)
        else (.ok req.outDir, { w with compiled := Assembly.stamp req.source })) := by
  cases h : w.compileFails <;> simp [driver, h] <;> rfl

/-- Loading fails when the world says so, and otherwise opens the next artifact with the last stamp
and the declarations' table. -/
theorem load_run (path name : String) (w : Bench) :
    (driver.load path name).run w =
      .ok (if w.loadFails then (.error (.plain ("load " ++ name ++ " failed")), w)
        else (.ok (fresh w), { w with stamps := (fresh w, w.compiled) :: w.stamps,
                                      tables := (fresh w, currentMethods w) :: w.tables,
                                      opened := fresh w :: w.opened })) := by
  cases h : w.loadFails <;> simp [driver, h] <;> rfl

/-- An artifact reports the stamp it was loaded with. -/
theorem revision_run (t : Nat) (w : Bench) :
    (driver.revision t).run w = .ok ((w.stamps.lookup t).join, w) := rfl

/-- Closing an artifact takes it off the open list and answers true. -/
theorem close_run (t : Nat) (w : Bench) :
    (driver.close t).run w = .ok (true, { w with opened := w.opened.filter (· ≠ t) }) := rfl

/-- Looking a method up finds it in the artifact's table. -/
theorem lookup_run (t : Nat) (n : String) (w : Bench) : (driver.lookup t n).run w =
    .ok (((w.tableOf t).find? (·.name == n)).map (fun _ => t.toUInt64), w) := rfl

/-- A method's doc is the one in the artifact's table. -/
theorem doc_run (t : Nat) (n : String) (w : Bench) :
    (driver.doc t n).run w = .ok ((((w.tableOf t).find? (·.name == n)).map (·.doc)).getD [], w) :=
  rfl

/-- A method's flags are those in the artifact's table. -/
theorem flags_run (t : Nat) (n : String) (w : Bench) : (driver.flags t n).run w =
    .ok ((((w.tableOf t).find? (·.name == n)).map (·.flags)).getD (-1), w) := rfl

/-- What an artifact reports is what its stamp says. -/
theorem reports_iff {w : Bench} {t : Nat} {r : Option Nat} :
    driver.Reports w t r ↔ (w.stamps.lookup t).join = r := by
  rw [Driver.Reports, revision_run]
  simp

/-- An artifact is open while it is listed open. -/
theorem isOpen_iff {w : Bench} {t : Nat} : IsOpen w t ↔ t ∈ w.opened := Iff.rfl

/-- An action that changes nothing but fields the laws do not look at is inert. -/
theorem inert_of {α : Type} {act : WorldM Bench α}
    (h : ∀ {w a w'}, act.run w = .ok (a, w') →
      w'.ext = w.ext ∧ w'.stamps = w.stamps ∧ w'.opened = w.opened) :
    driver.Inert IsOpen act := by
  refine ⟨fun hr => (h hr).1, fun hr => ⟨fun hrep => ?_, fun hx => ?_⟩⟩
  · rw [reports_iff, (h hr).2.1]
    exact reports_iff.1 hrep
  · rw [isOpen_iff, ← (h hr).2.2]
    exact hx

/-- Doing nothing is inert. -/
theorem pure_inert {α : Type} (a : α) : driver.Inert IsOpen (pure a : WorldM Bench α) :=
  inert_of fun h => by
    obtain ⟨_, rfl⟩ := pure_run_eq_ok h
    exact ⟨rfl, rfl, rfl⟩

/-- The scripted driver is lawful. -/
theorem driver_laws : driver.Laws IsOpen where
  revision_read := by
    intro t w r w' h
    rw [revision_run] at h
    exact (Prod.mk.inj (Except.ok.inj h)).2.symm
  setExt_reports := by
    intro w t r e h
    rw [reports_iff] at h ⊢
    exact h
  setExt_open := fun _ => Iff.rfl
  lock_inert := fun _ => pure_inert _
  makeTempDir_inert := fun _ => pure_inert _
  compile_inert := fun req => inert_of fun h => by
    rw [compile_run] at h
    split at h <;> cases h <;> exact ⟨rfl, rfl, rfl⟩
  lookup_inert := fun t n => inert_of fun h => by
    rw [lookup_run] at h
    cases h
    exact ⟨rfl, rfl, rfl⟩
  hand_inert := fun _ _ _ _ _ => pure_inert _
  load_ext := by
    intro path name w a w' h
    rw [load_run] at h
    split at h <;> cases h <;> rfl
  load_reports := by
    intro path name w a w' t r h hne hrep
    rw [load_run] at h
    rw [reports_iff] at hrep ⊢
    split at h
    · cases h
      exact hrep
    · cases h
      have ht : (t == fresh w) = false := by
        rw [beq_eq_false_iff_ne]
        exact fun ht => hne (by rw [ht])
      simp only [List.lookup, ht]
      exact hrep
  load_opens := by
    intro path name w a w' x h hx
    rw [load_run] at h
    split at h
    · cases h
      exact .inl hx
    · cases h
      rcases List.mem_cons.1 hx with rfl | hx
      · exact .inr rfl
      · exact .inl hx
  load_fresh := by
    intro path name w t w' h
    rw [load_run] at h
    split at h
    · cases h
    · cases h
      intro heq
      have h' : (w.ext.bind Extension.table).getD 0 = fresh w := by
        change ((ExtensionHost.ext w).bind Extension.table).getD 0 = _
        rw [heq]
        rfl
      unfold fresh at h'
      omega
  load_stamp := by
    intro req w path w1 t w2 h1 h2
    rw [compile_run] at h1
    split at h1
    · cases h1
    · cases h1
      rw [load_run] at h2
      split at h2
      · cases h2
      · cases h2
        rw [reports_iff]
        simp [List.lookup]
  close_ext := by
    intro u w b w' h
    rw [close_run] at h
    cases h
    rfl
  close_reports := by
    intro u w b w' t r h _ hrep
    rw [close_run] at h
    cases h
    rw [reports_iff] at hrep ⊢
    exact hrep
  close_opens := by
    intro u w b w' x h hx
    rw [close_run] at h
    cases h
    exact (List.mem_filter.1 hx).1
  close_loaded := by
    intro path name w t w1 b w2 h1 h2
    rw [close_run] at h2
    cases h2
    simp [isOpen_iff]

/-- An artifact has the method table it was loaded with. -/
theorem lists_of {w : Bench} {t : Nat} {tbl : List Assembly.Method} (h : w.tableOf t = tbl) :
    driver.Lists w t tbl := by
  subst h
  refine ⟨fun n hn => ?_, fun n m hm => ?_⟩
  · rw [lookup_run, hn]
    rfl
  · rw [lookup_run, doc_run, flags_run, hm]
    exact ⟨⟨_, rfl⟩, rfl, rfl⟩

/-- What an artifact lists depends on the world only through its method table. -/
theorem lists_congr {w w' : Bench} {t : Nat} {tbl : List Assembly.Method}
    (heq : w'.tableOf t = w.tableOf t) (h : driver.Lists w t tbl) : driver.Lists w' t tbl := by
  refine ⟨fun n hn => ?_, fun n m hm => ?_⟩
  · have h1 := h.absent n hn
    rw [lookup_run] at h1 ⊢
    rw [heq, (Prod.mk.inj (Except.ok.inj h1)).1]
  · obtain ⟨⟨fn, h1⟩, h2, h3⟩ := h.present n m hm
    rw [lookup_run] at h1
    rw [doc_run] at h2
    rw [flags_run] at h3
    refine ⟨⟨fn, ?_⟩, ?_, ?_⟩
    · rw [lookup_run, heq, (Prod.mk.inj (Except.ok.inj h1)).1]
    · rw [doc_run, heq, (Prod.mk.inj (Except.ok.inj h2)).1]
    · rw [flags_run, heq, (Prod.mk.inj (Except.ok.inj h3)).1]

/-- A load gives the new artifact the method table of the extension's declarations. -/
theorem tableOf_loaded {w : Bench} {e : Extension} (he : w.ext = some e) :
    ({ w with tables := (fresh w, currentMethods w) :: w.tables } : Bench).tableOf (fresh w) =
      e.asm.methods (Lang.Options.ofFlags e.flags) := by
  simp [tableOf, List.lookup, currentMethods, he]

/-- The scripted driver keeps its method tables as the table laws ask, an artifact holding the
table it lists. -/
theorem table_laws : driver.TableLaws fun w t o a => driver.Lists w t (a.methods o) where
  lists h := h
  stable o a := {
    setExt := fun _ h => lists_congr (by rfl) h
    lock := by
      intro dir w a w' t h hl
      obtain ⟨-, rfl⟩ := pure_run_eq_ok h
      exact hl
    makeTempDir := by
      intro name w a w' t h hl
      obtain ⟨-, rfl⟩ := pure_run_eq_ok h
      exact hl
    compile := by
      intro req w a w' t h hl
      rw [compile_run] at h
      split at h <;> cases h <;> exact lists_congr (by rfl) hl
    lookup := by
      intro u n w a w' t h hl
      rw [lookup_run] at h
      cases h
      exact hl
    hand := by
      intro u n fn returns spec w a w' t h hl
      obtain ⟨-, rfl⟩ := pure_run_eq_ok h
      exact hl
    load := by
      intro path name w a w' t h hne hl
      rw [load_run] at h
      split at h
      · cases h
        exact hl
      · cases h
        refine lists_congr ?_ hl
        have ht : (t == fresh w) = false := by
          rw [beq_eq_false_iff_ne]
          exact fun ht => hne (by rw [ht])
        simp [tableOf, List.lookup, ht]
    close := by
      intro u w b w' t h _ hl
      rw [close_run] at h
      cases h
      exact lists_congr (by rfl) hl }
  built := by
    intro w e req path w1 t w2 he _ _ h1 h2
    rw [compile_run] at h1
    split at h1
    · cases h1
    · cases h1
      rw [load_run] at h2
      split at h2
      · cases h2
      · cases h2
        exact lists_of (tableOf_loaded he)
  current := by
    intro w e path name t w' want he _ h _
    rw [load_run] at h
    split at h
    · cases h
    · cases h
      exact ⟨_, lists_of (tableOf_loaded he)⟩

end Bench

end InlineC.Host
