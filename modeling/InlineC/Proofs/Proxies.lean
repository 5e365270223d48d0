import Mathlib
import InlineC.Proofs.Paths
import InlineC.Proofs.Bench
import InlineC.Proofs.Symbols

/-!
# Resolving proxies

A proxy names a managed function of an extension and looks it up afresh on every use, in the
method table of whatever artifact is installed then. Over every run of declarations and
preparations from a new extension, against a driver that keeps the driver laws and the table
laws:

* before any artifact is installed, every use of a proxy fails as uninitialized, naming the
  module, and only then;
* afterwards the installed artifact serves a prefix of the declarations, those rendered into
  the library it came from. A proxy resolves exactly when its function is among them, to the
  table's entry of its name, with the function's doc and the flags `CX_METH_VARARGS`, and its
  attributes are the entry's and the artifact's revision; otherwise every use reports the
  code as diverged, naming the module, the function and what was asked for.

The run keeps one invariant, `Consistent`: the declarations' symbols are distinct, so no two
exported units share a name, and the installed artifact serves a prefix of the declarations.
A declaration only extends the declarations. A preparation either leaves the installed
artifact with all it shows, or installs one that serves all the declarations; it never
uninstalls one.
-/

namespace InlineC

namespace Declaration

/-- A declaration with a name has it among its symbols. -/
theorem name_mem_symbols {d : Declaration} (h : d.name ≠ "") : d.name ∈ d.symbols := by
  have hne : d.name.isEmpty = false := by
    rw [Bool.eq_false_iff, ne_eq, String.isEmpty_iff]
    exact h
  simp [symbols, hne]

end Declaration

namespace Assembly

/-- In an assembly whose symbols are distinct, no two declarations share a name. -/
theorem SymbolsDistinct.eq_of_name_eq {a : Assembly} (h : a.SymbolsDistinct) {d d' : Declaration}
    (hd : d ∈ a.decls) (hd' : d' ∈ a.decls) (hname : d.name = d'.name) (hn : d.name ≠ "") :
    d = d' := by
  by_contra hne
  have : Std.Symm (Function.onFun List.Disjoint Declaration.symbols) := ⟨fun _ _ h => h.symm⟩
  have hdisj := (List.nodup_flatMap.1 h.nodup).2.forall hd hd' hne
  have h' : d.name ∈ d'.symbols := by
    rw [hname]
    exact Declaration.name_mem_symbols (hname ▸ hn)
  exact hdisj (Declaration.name_mem_symbols hn) h'

/-- A search finds the one element that passes it. -/
theorem find?_eq_some_of_unique {α : Type} {l : List α} {p : α → Bool} {m : α} (hm : m ∈ l)
    (hp : p m = true) (huniq : ∀ x ∈ l, p x = true → x = m) : l.find? p = some m := by
  cases h : l.find? p with
  | none => exact absurd hp (List.find?_eq_none.1 h m hm)
  | some x => rw [huniq x (List.mem_of_find?_eq_some h) (List.find?_some h)]

/-- The method table of a prefix of an assembly whose symbols are distinct gives a managed
function's name the function's own entry when the prefix holds the function, and nothing
otherwise. -/
theorem find_methods {a a0 : Assembly} {o : Lang.Options} (hd : a.SymbolsDistinct)
    (hpre : a0.decls <+: a.decls) {f : ManagedFunction} (hf : .managed f ∈ a.decls)
    (hn : f.name ≠ "") :
    (a0.methods o).find? (·.name == f.name) =
      if .managed f ∈ a0.decls then some (methodOf o (.managed f)) else none := by
  -- a declaration of the prefix named like `f` is `f`
  have uniq : ∀ d ∈ a0.decls, d.name = f.name → d = .managed f := fun d hd0 hname =>
    hd.eq_of_name_eq (hpre.subset hd0) hf hname (hname ▸ hn)
  have named : ∀ d, ((methodOf o d).name == f.name) = true → d.name = f.name := by
    intro d h
    simpa [methodOf] using h
  split
  next hin =>
    apply find?_eq_some_of_unique
    · exact List.mem_map_of_mem (List.mem_filter.2 ⟨hin, rfl⟩)
    · simp [methodOf, Declaration.name]
    · intro x hx hxn
      obtain ⟨d, hd', rfl⟩ := List.mem_map.1 hx
      rw [uniq d (List.mem_filter.1 hd').1 (named d hxn)]
  next hout =>
    rw [List.find?_eq_none]
    intro x hx hxn
    obtain ⟨d, hd', rfl⟩ := List.mem_map.1 hx
    have hd0 := (List.mem_filter.1 hd').1
    exact hout (uniq d hd0 (named d hxn) ▸ hd0)

end Assembly

namespace Host

/-- A module that is not loaded is a different error from a member it lacks. -/
theorem notInitialized_ne_codeDiverged (module module' member attr : String) :
    Errors.notInitialized module ≠ Errors.codeDiverged module' member attr := by
  intro h
  have := congrArg FailureReport.classes h
  simp [Errors.notInitialized, Errors.codeDiverged, FailureReport.plain] at this

namespace Driver

section

variable {ω : Type} [ExtensionHost ω] (D : Driver ω)
  (Has : ω → Nat → Lang.Options → Assembly → Prop)

/-- The runs of an extension from world `w0`: declarations and preparations, one after another.
A call that faults ends the run. -/
inductive Reaches (w0 : ω) : ω → Prop
  | start : Reaches w0 w0
  | declare {w w' d r} : Reaches w0 w → (addDeclaration d).run w = .ok (r, w') → Reaches w0 w'
  | prepare {w w' r} : Reaches w0 w → D.prepare.run w = .ok (r, w') → Reaches w0 w'

/-- No world of a run from `w0` to `w` had an artifact installed. -/
def NeverInstalled (w0 w : ω) : Prop :=
  ∀ w1 e1, D.Reaches w0 w1 → D.Reaches w1 w → ExtensionHost.ext w1 = some e1 → e1.table = none

/-- Artifact `t` serves `a0`, whose declarations are a prefix of those of `a`: it holds their
method table, as a compiler of some options built it, and reports their revision. -/
structure Serves (w : ω) (a : Assembly) (t : Nat) (a0 : Assembly) : Prop where
  name : a0.name = a.name
  earlier : a0.decls <+: a.decls
  holds : ∃ o, Has w t o a0
  revision : ∃ r, a0.revision = .ok r ∧ D.Reports w t (some r)

/-- What every run keeps of extension `e` in world `w`: the declarations' symbols are distinct,
and the installed artifact serves a prefix of the declarations. -/
structure Consistent (w : ω) (e : Extension) : Prop where
  distinct : e.asm.SymbolsDistinct
  serves : ∀ t, e.table = some t → ∃ a0, D.Serves Has w e.asm t a0

/-- Every use of the proxy of name `n` fails with the error `err` gives for what was asked,
`"call"` for resolving and calling, and changes nothing. -/
structure Refuses (w : ω) (n : String) (err : String → FailureReport) : Prop where
  resolve : (D.resolve n).run w = .ok (.error (err "call"), w)
  invoke : ∀ args, (D.invoke n args).run w = .ok (.error (err "call"), w)
  attributes : ∀ attr, (D.attributeOf n attr).run w = .ok (.error (err attr), w)

/-- The proxy of name `n` of module `module` resolves to entry `m` of the installed artifact
`t`, which reports revision `rev`: resolving gives the entry's name, doc and flags, calling calls
the function the artifact's table gives, and each attribute is the entry's or the artifact's. -/
structure Resolves (w : ω) (module n : String) (t : Nat) (m : Assembly.Method) (rev : Nat) :
    Prop where
  resolve : (D.resolve n).run w = .ok (.ok { name := n, doc := m.doc, flags := m.flags }, w)
  invoke : ∃ fn, (D.lookup t n).run w = .ok (some fn, w) ∧
    ∀ args, (D.invoke n args).run w = (D.call t n fn args).run w
  name : (D.attributeOf n "name").run w = .ok (.ok (.str (Utf8.ofString n)), w)
  doc : (D.attributeOf n "doc").run w = .ok (.ok (.str m.doc), w)
  flags : (D.attributeOf n "flags").run w = .ok (.ok (.int m.flags), w)
  revision : (D.attributeOf n "revision").run w = .ok (.ok (.uint rev), w)
  other : ∀ attr, attr ∉ ["name", "doc", "flags", "revision"] →
    (D.attributeOf n attr).run w = .ok (.error (Errors.codeDiverged module n attr), w)

/-- What the proxy of managed function `f` answers in world `w`, reached from `w0`, where the
extension is `e`. -/
structure ProxyAnswers (w0 w : ω) (e : Extension) (f : ManagedFunction) : Prop where
  /-- Every use fails as uninitialized exactly when no artifact was ever installed. -/
  uninitialized : D.Refuses w f.name (fun _ => Errors.notInitialized e.name) ↔ D.NeverInstalled w0 w
  /-- The installed artifact serves a prefix of the declarations, those its library was
  rendered from, under the options it was compiled with: the proxy resolves to its entry when
  `f` is among them, and is refused as diverged otherwise. -/
  installed : ∀ t, e.table = some t → ∃ (a0 : Assembly) (o : Lang.Options) (rev : Nat),
    a0.decls <+: e.asm.decls ∧ a0.revision = .ok rev ∧ D.Reports w t (some rev) ∧
    (.managed f ∈ a0.decls → D.Resolves w e.name f.name t (Assembly.methodOf o (.managed f)) rev) ∧
    (.managed f ∉ a0.decls → D.Refuses w f.name (Errors.codeDiverged e.name f.name))

variable {D} {Has} {IsOpen : ω → Nat → Prop}

/-! ### What a use of a proxy answers -/

/-- The current extension is found, changing nothing. -/
theorem currentExt_run {w : ω} {e : Extension} (he : ExtensionHost.ext w = some e) :
    (currentExt : WorldM ω _).run w = .ok (.ok e, w) := by
  unfold currentExt
  simp only [getExt_bind_run, he]
  rfl

/-- Without an installed artifact a proxy is not initialised. -/
theorem proxyLookup_uninstalled {w : ω} {e : Extension} (he : ExtensionHost.ext w = some e)
    (ht : e.table = none) (n attr : String) :
    (D.proxyLookup n attr).run w = .ok (.error (Errors.notInitialized e.name), w) := by
  unfold proxyLookup
  rw [StateT.run_bind, currentExt_run he, except_ok_bind]
  simp only [ht]
  rfl

/-- A method the installed artifact lacks is reported as diverged code. -/
theorem proxyLookup_absent {w : ω} {e : Extension} {t : Nat} {n : String}
    (he : ExtensionHost.ext w = some e) (ht : e.table = some t)
    (hl : (D.lookup t n).run w = .ok (none, w)) (attr : String) :
    (D.proxyLookup n attr).run w = .ok (.error (Errors.codeDiverged e.name n attr), w) := by
  unfold proxyLookup
  rw [StateT.run_bind, currentExt_run he, except_ok_bind]
  simp only [ht]
  rw [StateT.run_bind, hl, except_ok_bind]
  rfl

/-- A method the installed artifact has resolves to the artifact and its function. -/
theorem proxyLookup_present {w : ω} {e : Extension} {t : Nat} {n : String} {fn : UInt64}
    (he : ExtensionHost.ext w = some e) (ht : e.table = some t)
    (hl : (D.lookup t n).run w = .ok (some fn, w)) (attr : String) :
    (D.proxyLookup n attr).run w = .ok (.ok (t, fn), w) := by
  unfold proxyLookup
  rw [StateT.run_bind, currentExt_run he, except_ok_bind]
  simp only [ht]
  rw [StateT.run_bind, hl, except_ok_bind]
  rfl

/-- A proxy whose lookup fails fails every use with that error. -/
theorem refuses_of_lookup {w : ω} {n : String} {err : String → FailureReport}
    (hp : ∀ attr, (D.proxyLookup n attr).run w = .ok (.error (err attr), w)) :
    D.Refuses w n err := by
  refine ⟨?_, fun args => ?_, fun attr => ?_⟩
  · unfold resolve
    rw [StateT.run_bind, hp, except_ok_bind]
    rfl
  · unfold invoke
    rw [StateT.run_bind, hp, except_ok_bind]
    rfl
  · unfold attributeOf
    rw [StateT.run_bind, hp, except_ok_bind]
    rfl

/-- A proxy whose lookup finds a method of the installed artifact answers from its entry. -/
theorem resolves_of_lookup {w : ω} {e : Extension} {t : Nat} {n : String} {m : Assembly.Method}
    {rev : Nat} (he : ExtensionHost.ext w = some e) (ht : e.table = some t)
    (hm : (∃ fn, (D.lookup t n).run w = .ok (some fn, w)) ∧ (D.doc t n).run w = .ok (m.doc, w) ∧
      (D.flags t n).run w = .ok (m.flags, w))
    (hrep : D.Reports w t (some rev)) : D.Resolves w e.name n t m rev := by
  obtain ⟨⟨fn, hl⟩, hdoc, hflags⟩ := hm
  have hp := proxyLookup_present he ht hl
  -- every attribute first finds the method, then reads the module's name
  have found : ∀ attr, (D.attributeOf n attr).run w = (D.attributeValue e.name n attr t).run w := by
    intro attr
    unfold attributeOf
    rw [StateT.run_bind, hp, except_ok_bind]
    dsimp only
    rw [StateT.run_bind, currentExt_run he, except_ok_bind]
  refine ⟨?_, ⟨fn, hl, fun args => ?_⟩, ?_, ?_, ?_, ?_, fun a ha => ?_⟩
  · unfold resolve
    rw [StateT.run_bind, hp, except_ok_bind]
    dsimp only
    rw [StateT.run_bind, hdoc, except_ok_bind, StateT.run_bind, hflags, except_ok_bind]
    rfl
  · unfold invoke
    rw [StateT.run_bind, hp, except_ok_bind]
  · rw [found]
    rfl
  · rw [found, attributeValue, StateT.run_bind, hdoc, except_ok_bind]
    rfl
  · rw [found, attributeValue, StateT.run_bind, hflags, except_ok_bind]
    rfl
  · rw [found, attributeValue, StateT.run_bind, hrep, except_ok_bind]
    rfl
  · rw [found]
    simp only [List.mem_cons, List.not_mem_nil, or_false, not_or] at ha
    obtain ⟨h1, h2, h3, h4⟩ := ha
    unfold attributeValue
    split
    · exact absurd rfl h1
    · exact absurd rfl h2
    · exact absurd rfl h3
    · exact absurd rfl h4
    · rfl

/-! ### What a run keeps -/

/-- What an artifact serves is kept wherever its stable facts are. -/
theorem Serves.keep (hD : D.Laws IsOpen) (hT : D.TableLaws Has) {w w' : ω} {a a0 : Assembly}
    {t : Nat} (h : D.Serves Has w a t a0) (hk : D.Keeps w w' t) : D.Serves Has w' a t a0 := by
  obtain ⟨o, ho⟩ := h.holds
  obtain ⟨r, hr, hrep⟩ := h.revision
  exact ⟨h.name, h.earlier, ⟨o, hk _ (hT.stable o a0) ho⟩, r, hr, hk _ (hD.reports_stable _) hrep⟩

omit [ExtensionHost ω] in
/-- A declaration added after the artifact's leaves it serving the same prefix. -/
theorem Serves.extend {w : ω} {a a' a0 : Assembly} {t : Nat} {d : Declaration}
    (h : D.Serves Has w a t a0) (hadd : a.add d = .ok a') : D.Serves Has w a' t a0 := by
  obtain ⟨-, rfl⟩ := Assembly.add_eq_ok_iff.1 hadd
  exact ⟨h.name, h.earlier.trans (List.prefix_append _ _), h.holds, h.revision⟩

/-- The same declarations and table stay consistent wherever the installed artifact's stable
facts are kept. -/
theorem Consistent.keep (hD : D.Laws IsOpen) (hT : D.TableLaws Has) {w w' : ω} {e e' : Extension}
    (h : D.Consistent Has w e) (hasm : e'.asm = e.asm) (htable : e'.table = e.table)
    (hk : ∀ t, e.table = some t → D.Keeps w w' t) : D.Consistent Has w' e' := by
  refine ⟨hasm ▸ h.distinct, fun t ht => ?_⟩
  rw [htable] at ht
  obtain ⟨a0, hs⟩ := h.serves t ht
  refine ⟨a0, ?_⟩
  rw [hasm]
  exact hs.keep hD hT (hk t ht)

omit [ExtensionHost ω] in
/-- A new extension, with no declarations and nothing installed, is consistent. -/
theorem consistent_new {w : ω} {e : Extension} (ht : e.table = none) (hempty : e.asm.decls = []) :
    D.Consistent Has w e := by
  refine ⟨⟨by simp [hempty], by simp [hempty]⟩, fun t h => ?_⟩
  rw [ht] at h
  cases h

/-- A declaration keeps the run consistent and the table as it was. -/
theorem declare_consistent (hD : D.Laws IsOpen) (hT : D.TableLaws Has) {w w' : ω} {e : Extension}
    {d : Declaration} {r} (he : ExtensionHost.ext w = some e) (hc : D.Consistent Has w e)
    (h : (addDeclaration d).run w = .ok (r, w')) :
    ∃ e', ExtensionHost.ext w' = some e' ∧ D.Consistent Has w' e' ∧ e'.table = e.table := by
  unfold addDeclaration at h
  simp only [getExt_bind_run, he] at h
  split at h
  next asm hadd =>
    rw [modifyExt_bind_run, he, Option.map_some] at h
    obtain ⟨-, rfl⟩ := pure_run_eq_ok h
    refine ⟨_, ext_setExt _ _, ⟨hc.distinct.add hadd, fun t ht => ?_⟩, rfl⟩
    obtain ⟨a0, hs⟩ := hc.serves t ht
    exact ⟨a0, (hs.keep hD hT (keeps_setExt w _ t)).extend hadd⟩
  next c hadd =>
    obtain ⟨-, rfl⟩ := pure_run_eq_ok h
    exact ⟨e, he, hc, rfl⟩

/-- An artifact that holds the method table of all the declarations and reports their revision
serves all of them once installed. -/
theorem install_consistent (hD : D.Laws IsOpen) (hT : D.TableLaws Has) {w w' : ω} {e : Extension}
    {t want : Nat} {o : Lang.Options} {r} (he : ExtensionHost.ext w = some e)
    (hdist : e.asm.SymbolsDistinct) (hfresh : e.table ≠ some t) (hl : Has w t o e.asm)
    (hwant : e.asm.revision = .ok want) (hrep : D.Reports w t (some want))
    (h : (D.install t).run w = .ok (r, w')) :
    ∃ rev, ExtensionHost.ext w' = some { e with table := some t, reverse := rev } ∧
      D.Consistent Has w' { e with table := some t, reverse := rev } := by
  obtain ⟨⟨rev, hext⟩, -, -⟩ := install_spec hD he hfresh h
  have hk := install_keeps he hfresh h
  refine ⟨rev, hext, hdist, fun t' ht' => ?_⟩
  obtain rfl : t = t' := Option.some.inj ht'
  exact ⟨e.asm, rfl, List.prefix_refl _, ⟨o, hk _ (hT.stable o _) hl⟩, want, hwant,
    hk _ (hD.reports_stable _) hrep⟩

/-- A build keeps the run consistent and never uninstalls: it fails leaving the installed
artifact with all it shows, or installs one that serves all the declarations. -/
theorem build_consistent (hD : D.Laws IsOpen) (hT : D.TableLaws Has) {w w' : ω} {e : Extension}
    {r} (he : ExtensionHost.ext w = some e) (hc : D.Consistent Has w e)
    (h : D.build.run w = .ok (r, w')) :
    ∃ e', ExtensionHost.ext w' = some e' ∧ D.Consistent Has w' e' ∧
      (e.table ≠ none → e'.table ≠ none) := by
  -- the attempt is counted once the directory is made
  have e0 : ∀ w0 : ω, ExtensionHost.ext (counted w0 e) = some { e with builds := e.builds + 1 } :=
    fun w0 => ext_setExt _ _
  cases build_run hD he h with
  | unrenderable _ => exact ⟨e, he, hc, id⟩
  | homeless _ h0 =>
    exact ⟨e, ((buildDir_inert hD e).ext h0).trans he,
      hc.keep hD hT rfl rfl fun t _ => keeps_buildDir h0 t, id⟩
  | @uncompiled _ _ w0 _ _ _ h0 h1 =>
    -- only the count of builds changed, and neither the directory nor the compiler touches an
    -- artifact
    refine ⟨_, ((hD.compile_inert _).ext h1).trans (e0 w0), hc.keep hD hT rfl rfl fun t _ => ?_,
      id⟩
    exact (keeps_buildDir h0 t).trans ((keeps_setExt w0 _ t).trans (keeps_compile h1 t))
  | @unloaded _ _ w0 _ _ _ _ _ h0 h1 h2 =>
    refine ⟨_, (hD.load_ext h2).trans (((hD.compile_inert _).ext h1).trans (e0 w0)),
      hc.keep hD hT rfl rfl fun t _ => ?_, id⟩
    exact (keeps_buildDir h0 t).trans (((keeps_setExt w0 _ t).trans (keeps_compile h1 t)).trans
      (keeps_load h2 (by simp)))
  | @installed _ _ w0 _ _ _ _ _ _ hr _ h1 h2 h3 =>
    have e1 := ((hD.compile_inert _).ext h1).trans (e0 w0)
    have hfresh := hD.load_fresh h2
    rw [e1] at hfresh
    obtain ⟨want, hwant, hstamp⟩ := Assembly.stamp_render hr
    have hrep := hD.load_stamp h1 h2
    simp only [buildRequest, hstamp] at hrep
    obtain ⟨rev, hext, hc'⟩ := install_consistent hD hT ((hD.load_ext h2).trans e1) hc.distinct
      hfresh (hT.built (e0 w0) hr rfl h1 h2) hwant hrep h3
    exact ⟨_, hext, hc', fun _ => by simp⟩

/-- Before a build the record is as it was, and only artifacts that were never installed are
loaded and released. -/
theorem beforeBuild_keeps (hD : D.Laws IsOpen) {w w1 : ω} {e : Extension} {want : Nat}
    (he : ExtensionHost.ext w = some e) (h : D.BeforeBuild e want w w1) :
    ExtensionHost.ext w1 = some e ∧ ∀ t, e.table = some t → D.Keeps w w1 t := by
  cases h with
  | stale _ _ _ _ h1 => exact ⟨((lockFor_inert hD e).ext h1).trans he, fun t _ => keeps_lockFor h1 t⟩
  | temporary => exact ⟨he, fun t _ => Keeps.refl w t⟩
  | unloadable ht _ h1 h2 =>
    refine ⟨(hD.load_ext h2).trans (((hD.lock_inert _).ext h1).trans he), fun t ht' => ?_⟩
    rw [ht] at ht'
    cases ht'
  | outdated ht _ h1 h2 _ _ h3 =>
    refine ⟨(hD.close_ext h3).trans ((hD.load_ext h2).trans (((hD.lock_inert _).ext h1).trans he)),
      fun t ht' => ?_⟩
    rw [ht] at ht'
    cases ht'

/-- A preparation keeps the run consistent and never uninstalls. -/
theorem prepare_consistent (hD : D.Laws IsOpen) (hT : D.TableLaws Has) {w w' : ω}
    {e : Extension} {r} (he : ExtensionHost.ext w = some e) (hc : D.Consistent Has w e)
    (h : D.prepare.run w = .ok (r, w')) :
    ∃ e', ExtensionHost.ext w' = some e' ∧ D.Consistent Has w' e' ∧
      (e.table ≠ none → e'.table ≠ none) := by
  cases prepare_run hD he h with
  | unrenderable _ => exact ⟨e, he, hc, id⟩
  | current _ _ _ => exact ⟨e, he, hc, id⟩
  | reentrant _ _ _ _ _ => exact ⟨e, he, hc, id⟩
  | locked _ h1 =>
    exact ⟨e, ((lockFor_inert hD e).ext h1).trans he,
      hc.keep hD hT rfl rfl fun t _ => keeps_lockFor h1 t, id⟩
  | rebuilt _ hb h1 =>
    obtain ⟨e1, hk⟩ := beforeBuild_keeps hD he hb
    exact build_consistent hD hT e1 (hc.keep hD hT rfl rfl hk) h1
  | reused hwant ht _ h1 h2 hrep h3 =>
    -- the persistent directory's artifact reports the current revision, so it holds the table
    have e1 := ((hD.lock_inert _).ext h1).trans he
    have hfresh := hD.load_fresh h2
    rw [e1] at hfresh
    obtain ⟨o, hl⟩ := hT.current e1 hwant h2 hrep
    obtain ⟨rev, hext, hc'⟩ := install_consistent hD hT ((hD.load_ext h2).trans e1) hc.distinct
      hfresh hl hwant hrep h3
    exact ⟨_, hext, hc', fun _ => by simp⟩

/-- Every run from a consistent world stays consistent, and an installed artifact stays
installed, by induction on the run. -/
theorem Reaches.consistent (hD : D.Laws IsOpen) (hT : D.TableLaws Has) {w0 w : ω}
    {e0 : Extension} (h : D.Reaches w0 w) (he0 : ExtensionHost.ext w0 = some e0)
    (hc0 : D.Consistent Has w0 e0) :
    ∃ e, ExtensionHost.ext w = some e ∧ D.Consistent Has w e ∧
      (e0.table ≠ none → e.table ≠ none) := by
  induction h with
  | start => exact ⟨e0, he0, hc0, id⟩
  | declare _ hstep ih =>
    obtain ⟨e, he, hc, hmono⟩ := ih
    obtain ⟨e', he', hc', htable⟩ := declare_consistent hD hT he hc hstep
    exact ⟨e', he', hc', fun h0 => htable ▸ hmono h0⟩
  | prepare _ hstep ih =>
    obtain ⟨e, he, hc, hmono⟩ := ih
    obtain ⟨e', he', hc', hmono'⟩ := prepare_consistent hD hT he hc hstep
    exact ⟨e', he', hc', hmono' ∘ hmono⟩

/-! ### Proxies over a run -/

/-- In a consistent world the installed artifact serves a prefix of the declarations, under the
options it was compiled with: the proxy of a named managed function resolves to the function's
entry when the prefix holds the function, and is refused as diverged otherwise. -/
theorem Consistent.installed (hT : D.TableLaws Has) {w : ω} {e : Extension}
    (he : ExtensionHost.ext w = some e) (hc : D.Consistent Has w e) {f : ManagedFunction}
    (hf : .managed f ∈ e.asm.decls) (hname : f.name ≠ "") :
    ∀ t, e.table = some t → ∃ (a0 : Assembly) (o : Lang.Options) (rev : Nat),
      a0.decls <+: e.asm.decls ∧ a0.revision = .ok rev ∧ D.Reports w t (some rev) ∧
      (.managed f ∈ a0.decls → D.Resolves w e.name f.name t (Assembly.methodOf o (.managed f)) rev) ∧
      (.managed f ∉ a0.decls → D.Refuses w f.name (Errors.codeDiverged e.name f.name)) := by
  intro t ht
  obtain ⟨a0, hs⟩ := hc.serves t ht
  obtain ⟨o, ho⟩ := hs.holds
  obtain ⟨rev, hrev, hrep⟩ := hs.revision
  -- the artifact's table is read as the prefix's methods under its options
  have hl := hT.lists ho
  have hfind := Assembly.find_methods (o := o) hc.distinct hs.earlier hf hname
  refine ⟨a0, o, rev, hs.earlier, hrev, hrep, fun hin => ?_, fun hout => ?_⟩
  · rw [if_pos hin] at hfind
    exact resolves_of_lookup he ht (hl.present _ _ hfind) hrep
  · rw [if_neg hout] at hfind
    exact refuses_of_lookup (proxyLookup_absent he ht (hl.absent _ hfind))

/-- Over every run from a new extension, the proxy of every named managed function the
extension declares fails as uninitialized exactly until an artifact is installed, and then
resolves exactly when its function was declared before the installed artifact's library was
rendered. -/
theorem proxy_resolution (hD : D.Laws IsOpen) (hT : D.TableLaws Has) {w0 w : ω}
    {e0 e : Extension} (he0 : ExtensionHost.ext w0 = some e0) (hnew : e0.table = none)
    (hempty : e0.asm.decls = []) (hrun : D.Reaches w0 w) (he : ExtensionHost.ext w = some e)
    {f : ManagedFunction} (hf : .managed f ∈ e.asm.decls) (hname : f.name ≠ "") :
    D.ProxyAnswers w0 w e f := by
  have hc0 : D.Consistent Has w0 e0 := consistent_new hnew hempty
  obtain ⟨e', he', hc, -⟩ := hrun.consistent hD hT he0 hc0
  rw [he] at he'
  obtain rfl : e = e' := Option.some.inj he'
  have installed := hc.installed hT he hf hname
  refine ⟨⟨fun hr => ?_, fun hnever => ?_⟩, installed⟩
  · -- a use refused as uninitialized finds no artifact, and none was ever installed before
    have ht : e.table = none := by
      cases ht : e.table with
      | none => rfl
      | some t =>
        obtain ⟨a0, _, _, -, -, -, hin, hout⟩ := installed t ht
        by_cases hmem : .managed f ∈ a0.decls
        · have hres := (hin hmem).resolve
          rw [hr.resolve] at hres
          cases hres
        · have hres := (hout hmem).resolve
          rw [hr.resolve] at hres
          obtain ⟨hx, -⟩ := Prod.mk.inj (Except.ok.inj hres)
          exact absurd (Except.error.inj hx) (notInitialized_ne_codeDiverged _ _ _ _)
    intro w1 e1 h01 h1w he1
    by_contra hne
    obtain ⟨e2, he2, hc1, -⟩ := h01.consistent hD hT he0 hc0
    rw [he1] at he2
    obtain rfl : e1 = e2 := Option.some.inj he2
    obtain ⟨e3, he3, -, hmono⟩ := h1w.consistent hD hT he1 hc1
    rw [he] at he3
    obtain rfl : e = e3 := Option.some.inj he3
    exact hmono hne ht
  · have ht : e.table = none := hnever w e hrun .start he
    exact refuses_of_lookup fun attr => proxyLookup_uninstalled he ht f.name attr

end

end Driver

/-- A managed function `ping` with a doc, taking nothing and returning none. -/
def ping : ManagedFunction :=
  { name := "ping", sig := {}, body := "return cx_none();", doc := "replies", raw := false }

/-- The scripted world once `ping` is declared in the new extension. -/
def pinged : Bench :=
  { ext := some { name := "m", asm := { name := "m", decls := [.managed ping] } } }

/-- A new extension that declares `ping` and is prepared with the scripted driver reaches a
world whose extension holds `ping`. -/
theorem ping_prepared :
    ∃ w e, Bench.driver.Reaches freshBench w ∧ ExtensionHost.ext w = some e ∧
      .managed ping ∈ e.asm.decls := by
  have hfree : ({ name := "m" } : Assembly).firstTaken? (.managed ping) = none := by
    decide +kernel
  have hadd : ({ name := "m" } : Assembly).add (.managed ping) =
      .ok { name := "m", decls := [.managed ping] } := by
    simp only [Assembly.add, hfree]
    rfl
  have h1 : (addDeclaration (.managed ping) : WorldM Bench _).run freshBench =
      .ok (.ok (), pinged) := by
    unfold addDeclaration
    rw [getExt_bind_run]
    have hext : ExtensionHost.ext freshBench = some { name := "m", asm := { name := "m" } } := rfl
    simp only [hext, hadd]
    rfl
  obtain ⟨r, w, e, h2, he, hf⟩ : ∃ r w e, Bench.driver.prepare.run pinged = .ok (r, w) ∧
      ExtensionHost.ext w = some e ∧ .managed ping ∈ e.asm.decls :=
    ⟨_, _, _, rfl, rfl, List.mem_singleton_self _⟩
  exact ⟨w, e, .prepare (.declare .start h1) h2, he, hf⟩

end Host

end InlineC
