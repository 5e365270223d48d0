import Mathlib
import InlineC.Host.Extension
import InlineC.Proofs.DriverLaws
import InlineC.Proofs.Symbols

/-!
# Declaring units in batches

Two operations of an extension declare several units at once: a background build commits all
its managed functions with `addManaged`, and a reverse function declares its capture and its
dispatch. Both check the whole batch before adding anything, and both agree with adding the
units one by one:

* `addManaged` checks every symbol of the batch, in order, against the assembly's taken
  symbols and the batch's earlier ones (`firstClash`). Because each declaration's own symbols
  are distinct, this finds exactly the symbol at which adding the units one by one would stop
  (`foldlM_add`). When there is none, the adds that follow never fail halfway, and the
  extension ends with the assembly the one-by-one adds give (`addManaged_run`).
* a reverse function checks the capture's and the dispatch's symbols against the assembly
  only; the dispatch's one symbol, the function's name, is shorter than the capture's two, so
  the second add never fails after the first (`addReverse_run`).

A refused batch leaves the world as it was.
-/

namespace InlineC

namespace Assembly

/-- The taken symbols after appending declarations are those before and the new ones'. -/
theorem isTaken_append (a : Assembly) (ds : List Declaration) (n : String) :
    ({ a with decls := a.decls ++ ds } : Assembly).isTaken n =
      (a.isTaken n || (ds.flatMap Declaration.symbols).contains n) := by
  simp [isTaken, taken, List.flatMap_append, Bool.or_assoc]

end Assembly

namespace Host

open Assembly Machine

/-- A clash search over two stretches of symbols searches the first, then the second with the
first's symbols seen. -/
theorem firstClash_append (asm : Assembly) (xs ys seen : List String) :
    firstClash asm seen (xs ++ ys) =
      match firstClash asm seen xs with
      | some n => some n
      | none => firstClash asm (xs.reverse ++ seen) ys := by
  induction xs generalizing seen with
  | nil => rfl
  | cons x xs ih =>
    simp only [List.cons_append, firstClash]
    split
    · rfl
    · rw [ih, List.reverse_cons, List.append_assoc, List.singleton_append]

/-- Over distinct symbols the batch's own symbols never clash among themselves, so the search
finds the first symbol taken or seen before the stretch. -/
theorem firstClash_of_nodup (asm : Assembly) {xs : List String} (h : xs.Nodup)
    (seen : List String) :
    firstClash asm seen xs = xs.find? (fun n => asm.isTaken n || seen.contains n) := by
  induction xs generalizing seen with
  | nil => rfl
  | cons x xs ih =>
    obtain ⟨hx, hxs⟩ := List.nodup_cons.1 h
    simp only [firstClash, List.find?_cons]
    cases hc : (asm.isTaken x || seen.contains x) with
    | true => rfl
    | false =>
      rw [if_neg Bool.false_ne_true, ih hxs]
      -- `x` is not among the symbols after it, so seeing it changes no test
      refine List.find?_congr fun n hn => ?_
      have hne : n ≠ x := fun h => hx (h ▸ hn)
      simp [hne]

/-- Adding declarations one by one stops at the first symbol that is taken or that an earlier
declaration of the run took, exactly the symbol the batch check finds; otherwise every
declaration is appended. `b` is the assembly part-way through the run, whose taken symbols are
`a`'s and the batch's `seen` ones. -/
theorem foldlM_add_of_taken (a : Assembly) :
    ∀ (ds : List Declaration) (b : Assembly) (seen : List String),
      (∀ n, b.isTaken n = (a.isTaken n || seen.contains n)) →
      ds.foldlM Assembly.add b =
        match firstClash a seen (ds.flatMap Declaration.symbols) with
        | some n => .error ⟨b.name, n⟩
        | none => .ok { b with decls := b.decls ++ ds }
  | [], b, seen, _ => by
    simp only [List.foldlM_nil, List.flatMap_nil, firstClash, List.append_nil]
    rfl
  | d :: rest, b, seen, htaken => by
    have hfind : d.symbols.find? b.isTaken =
        d.symbols.find? (fun n => a.isTaken n || seen.contains n) := by
      rw [funext htaken]
    rw [List.foldlM_cons, List.flatMap_cons, firstClash_append,
      firstClash_of_nodup a d.symbols_nodup]
    cases hf : d.symbols.find? (fun n => a.isTaken n || seen.contains n) with
    | some n =>
      have hadd : b.add d = .error ⟨b.name, n⟩ := by
        simp only [Assembly.add, firstTaken?, hfind, hf]
      rw [hadd]
      rfl
    | none =>
      have hadd : b.add d = .ok { b with decls := b.decls ++ [d] } := by
        simp only [Assembly.add, firstTaken?, hfind, hf]
      -- the rest runs on the assembly with `d` appended, which has taken `d`'s symbols too
      have htaken' : ∀ n, ({ b with decls := b.decls ++ [d] } : Assembly).isTaken n =
          (a.isTaken n || (d.symbols.reverse ++ seen).contains n) := fun n => by
        rw [isTaken_append, htaken]
        simp [Bool.or_assoc, Bool.or_comm, Bool.or_left_comm]
      rw [hadd, except_ok_bind, foldlM_add_of_taken a rest _ _ htaken']
      cases firstClash a (d.symbols.reverse ++ seen) (rest.flatMap Declaration.symbols) with
      | some n => rfl
      | none => simp

/-- Adding declarations one by one to an assembly is refused at the symbol the batch check
finds, and otherwise appends them all. -/
theorem foldlM_add (a : Assembly) (ds : List Declaration) :
    ds.foldlM Assembly.add a =
      match firstClash a [] (ds.flatMap Declaration.symbols) with
      | some n => .error ⟨a.name, n⟩
      | none => .ok { a with decls := a.decls ++ ds } :=
  foldlM_add_of_taken a ds a [] fun n => by simp

/-- Writing the extension twice keeps the second. -/
@[simp] theorem setExt_setExt (w : World HostState) (e e' : Option Extension) :
    ExtensionHost.setExt (ExtensionHost.setExt w e) e' = ExtensionHost.setExt w e' := rfl

/-- Writing back the extension a world holds changes nothing. -/
theorem setExt_self {w : World HostState} {ext : Extension} (hw : w.host.ext = some ext) :
    ExtensionHost.setExt w (some ext) = w := by
  obtain ⟨images, host⟩ := w
  simp only at hw
  simp only [ExtensionHost.setExt, ← hw]

/-- A declaration the assembly accepts is appended to the extension's. -/
theorem addDeclaration_run {w : World HostState} {ext : Extension} {d : Declaration}
    {a : Assembly} (hw : w.host.ext = some ext) (hadd : ext.asm.add d = .ok a) :
    (addDeclaration d : HostM _).run w =
      .ok (.ok (), ExtensionHost.setExt w (some { ext with asm := a })) := by
  have hw' : ExtensionHost.ext w = some ext := hw
  unfold addDeclaration
  simp only [getExt_bind_run, hw', hadd, modifyExt_bind_run]
  rfl

/-- Adding declarations in turn, when adding them one by one to the assembly succeeds, adds
them all and answers their names. -/
theorem addEach_run :
    ∀ (ds : List Declaration) {w : World HostState} {ext : Extension} {a : Assembly},
      w.host.ext = some ext → ds.foldlM Assembly.add ext.asm = .ok a →
      (addEach ds : HostM _).run w =
        .ok (.ok (ds.map Declaration.name), ExtensionHost.setExt w (some { ext with asm := a }))
  | [], w, ext, a, hw, h => by
    cases h
    simp only [addEach, stateT_pure_run, List.map_nil]
    rw [setExt_self hw]
  | d :: rest, w, ext, a, hw, h => by
    rw [List.foldlM_cons] at h
    obtain ⟨a₁, hadd, hrest⟩ := except_bind_eq_ok.1 h
    have hw₁ : (ExtensionHost.setExt w (some { ext with asm := a₁ })).host.ext =
        some { ext with asm := a₁ } := rfl
    unfold addEach
    rw [run_bind_of_ok (addDeclaration_run hw hadd)]
    simp only
    rw [run_bind_of_ok (addEach_run rest hw₁ hrest)]
    rfl

/-- Adding a batch of declarations to an extension: refused with the first symbol of the batch
that is taken or repeats an earlier one, and the world unchanged; otherwise every declaration is
appended and the answer is their names. -/
theorem addManaged_run {w : World HostState} {ext : Extension} (hw : w.host.ext = some ext)
    (ds : List Declaration) :
    (addManaged ds : HostM _).run w =
      .ok (match firstClash ext.asm [] (ds.flatMap Declaration.symbols) with
        | some n => (.error (Errors.configuration ext.name
            (Failure.report (CollisionError.mk ext.name n))), w)
        | none => (.ok (ds.map Declaration.name), ExtensionHost.setExt w
            (some { ext with asm := { ext.asm with decls := ext.asm.decls ++ ds } }))) := by
  have hw' : ExtensionHost.ext w = some ext := hw
  unfold addManaged
  simp only [getExt_bind_run, hw']
  have hfold := foldlM_add ext.asm ds
  cases hn : firstClash ext.asm [] (ds.flatMap Declaration.symbols) with
  | some n => rfl
  | none =>
    rw [hn] at hfold
    exact addEach_run ds hw hfold

/-- A refused batch leaves the world as it was. -/
theorem addManaged_refused {w w' : World HostState} {ds : List Declaration} {e : FailureReport}
    (h : (addManaged ds : HostM _).run w = .ok (.error e, w')) : w' = w := by
  cases hw : w.host.ext with
  | none =>
    have hw' : ExtensionHost.ext w = none := hw
    unfold addManaged at h
    simp only [getExt_bind_run, hw'] at h
    exact (pure_run_eq_ok h).2
  | some ext =>
    rw [addManaged_run hw] at h
    split at h
    · exact (Prod.mk.inj (Except.ok.inj h)).2.symm
    · cases (Prod.mk.inj (Except.ok.inj h)).1

/-! ## Reverse functions -/

/-- A dispatch declared for a capture holds that capture. -/
theorem dispatchOf_capture {sig : Signature} {c : Capture} {d : Dispatch}
    (h : Declaration.dispatchOf sig c = .ok d) : d.capture = c := by
  unfold Declaration.dispatchOf at h
  obtain ⟨u, -, h⟩ := except_bind_eq_ok.1 h
  cases h
  rfl

/-- The dispatch's one symbol, the function's name, is neither of its capture's symbols, which
are longer. -/
theorem dispatch_symbols_apart (d : Dispatch) :
    ∀ s ∈ (Declaration.dispatch d).symbols, s ∉ (Declaration.capture d.capture).symbols := by
  intro s hs
  have hname : s = d.capture.fn := by
    by_cases he : d.name.isEmpty <;>
      simp_all [Declaration.symbols, Declaration.name, Declaration.helpers, Dispatch.name]
  subst hname
  -- each of the capture's symbols is the name behind a nonempty prefix
  have hlong : ∀ p t : String, p.length ≠ 0 → d.capture.fn ≠ p ++ d.capture.fn ++ t := by
    intro p t hp h
    have := congrArg String.length h
    simp only [String.length_append] at this
    omega
  have h1 : d.capture.fn ≠ d.capture.name := by
    simpa only [Capture.name, String.append_assoc] using
      hlong "__capture_" ("_from_" ++ d.capture.module) (by decide)
  have h2 : d.capture.fn ≠ d.capture.slot := by
    simpa only [Capture.slot, String.append_assoc] using
      hlong "__captured_" ("_from_" ++ d.capture.module) (by decide)
  by_cases he : d.capture.name.isEmpty <;>
    simp [Declaration.symbols, Declaration.name, Declaration.helpers, he, h1, h2]

/-- Declaring a reverse function whose capture and dispatch are made: refused with the first
taken symbol among the capture's and the dispatch's, and the world unchanged; otherwise both
units are appended and the reverse function is recorded, not yet activated. -/
theorem addReverse_run {w : World HostState} {ext : Extension} (hw : w.host.ext = some ext)
    {name : String} {sig : Signature} (spec : CallbackSpec) {c : Capture} {d : Dispatch}
    (hc : Declaration.captureOf name ext.name = .ok c) (hd : Declaration.dispatchOf sig c = .ok d) :
    (addReverse name sig (some spec)).run w =
      .ok (match ((Declaration.capture c).symbols ++ (Declaration.dispatch d).symbols).find?
          ext.asm.isTaken with
        | some n => (.error (Errors.configuration ext.name
            (Failure.report (CollisionError.mk ext.name n))), w)
        | none => (.ok c.name, ExtensionHost.setExt w (some { ext with
            asm := { ext.asm with decls := ext.asm.decls ++ [.capture c, .dispatch d] },
            reverse := ext.reverse ++
              [{ name := d.name, capture := c.name, returns := d.returns.length, spec }] }))) := by
  have hw' : ExtensionHost.ext w = some ext := hw
  have hcur : (currentExt : HostM _).run w = .ok (.ok ext, w) := by
    unfold currentExt
    simp only [getExt_bind_run, hw']
    rfl
  unfold addReverse
  rw [run_bind_of_ok hcur]
  simp only [hc, hd]
  cases hfind : ((Declaration.capture c).symbols ++ (Declaration.dispatch d).symbols).find?
      ext.asm.isTaken with
  | some n => rfl
  | none =>
    -- no symbol of either unit is taken, and the dispatch's is not the capture's
    have hfree := List.find?_eq_none.1 hfind
    have hcap : ext.asm.add (.capture c) =
        .ok { ext.asm with decls := ext.asm.decls ++ [.capture c] } :=
      Assembly.add_eq_ok_iff.2 ⟨fun s hs => by simpa using hfree s (List.mem_append_left _ hs), rfl⟩
    have hdis : ({ ext.asm with decls := ext.asm.decls ++ [.capture c] } : Assembly).add
        (.dispatch d) = .ok { ext.asm with decls := ext.asm.decls ++ [.capture c, .dispatch d] } := by
      refine Assembly.add_eq_ok_iff.2 ⟨fun s hs => ?_, by simp⟩
      have hapart := dispatch_symbols_apart d s hs
      rw [dispatchOf_capture hd] at hapart
      rw [isTaken_append]
      simpa [hapart] using hfree s (List.mem_append_right _ hs)
    have hw₁ : (ExtensionHost.setExt w (some { ext with asm :=
        { ext.asm with decls := ext.asm.decls ++ [.capture c] } })).host.ext =
        some { ext with asm := { ext.asm with decls := ext.asm.decls ++ [.capture c] } } := rfl
    simp only
    rw [run_bind_of_ok (addDeclaration_run hw hcap)]
    simp only
    rw [run_bind_of_ok (addDeclaration_run hw₁ hdis)]
    rfl

/-! ## Batches agree with declarations one by one -/

/-- What declaring a batch of units does on a world whose extension is `ext`. -/
structure BatchLaws (w : World HostState) (ext : Extension) : Prop where
  /-- A batch of managed functions ends as adding them one by one to the assembly does,
  answering the names of their proxies, or is refused with the collision those adds report
  first, and the world is unchanged. -/
  managed : ∀ fs : List ManagedFunction,
    (addManaged (fs.map Declaration.managed) : HostM _).run w =
      .ok (match (fs.map Declaration.managed).foldlM Assembly.add ext.asm with
        | .ok a => (.ok (fs.map (·.name)), ExtensionHost.setExt w (some { ext with asm := a }))
        | .error c => (.error (Errors.configuration ext.name (Failure.report c)), w))
  /-- A reverse function declares both its capture and its dispatch, or neither, naming the
  first taken symbol among theirs, and the world is unchanged. -/
  reverse : ∀ (name : String) (sig : Signature) (spec : CallbackSpec) (c : Capture) (d : Dispatch),
    Declaration.captureOf name ext.name = .ok c → Declaration.dispatchOf sig c = .ok d →
    (addReverse name sig (some spec)).run w =
      .ok (match ((Declaration.capture c).symbols ++ (Declaration.dispatch d).symbols).find?
          ext.asm.isTaken with
        | some n => (.error (Errors.configuration ext.name
            (Failure.report (CollisionError.mk ext.name n))), w)
        | none => (.ok c.name, ExtensionHost.setExt w (some { ext with
            asm := { ext.asm with decls := ext.asm.decls ++ [.capture c, .dispatch d] },
            reverse := ext.reverse ++
              [{ name := d.name, capture := c.name, returns := d.returns.length, spec }] })))

/-- Declaring units in a batch is all-or-nothing and agrees with declaring them one by one, on
every world whose extension's assembly is named after it, as an extension's always is. -/
theorem batch_laws {w : World HostState} {ext : Extension} (hw : w.host.ext = some ext)
    (hname : ext.asm.name = ext.name) : BatchLaws w ext where
  managed fs := by
    rw [addManaged_run hw, foldlM_add, hname]
    cases firstClash ext.asm [] ((fs.map Declaration.managed).flatMap Declaration.symbols) with
    | some n => rfl
    | none => simp [Function.comp_def, Declaration.name, hname]
  reverse _ _ spec _ _ hc hd := addReverse_run hw spec hc hd

/-- The laws hold on the world that holds only a new extension. -/
theorem batch_laws_new :
    let ext : Extension := { name := "m", asm := { name := "m" } }
    let w : World HostState := { images := #[], host := { ext := some ext } }
    w.host.ext = some ext ∧ ext.asm.name = ext.name ∧ BatchLaws w ext := by
  intro ext w
  exact ⟨rfl, rfl, batch_laws rfl rfl⟩

end Host

end InlineC
