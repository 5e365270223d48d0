import Mathlib
import InlineC.Manifest.Build
import InlineC.Proofs.Batches
import InlineC.Proofs.Proxies
import InlineC.Proofs.Rendering

/-!
# Manifests

A manifest names a module and lists its units. Parsing decodes the text strictly and then
validates the manifest's shape; building declares the units, in order, on a new extension.

What holds (`manifest_laws`), for every text the decoder turns into a manifest:

* the text parses exactly when its manifest validates, and to that manifest;
* a manifest validates exactly when a module without a name has no directory and every unit
  fits the rule of its kind (`ManifestUnit.Fits`); every refusal is an invalid manifest, and
  one for a unit names the first unit that breaks its rule by its place, counted from one;
* building a manifest that validates either declares every unit in order, each as the
  constructor of its kind makes it from the unit's fields (`Declares`), and gives proxies to
  the managed and raw functions; or it ends at the module's name or at the first unit the
  extension refuses (`Refuses`), with a configuration error of the module, and leaves no
  extension (`Builds`).

The rule of a block does not mention its doc: a block with a doc validates, and building it
drops the doc (`block_doc_parsed`).
-/

namespace InlineC

namespace ManifestUnit

/-! ## The rule of each kind -/

/-- The fields a unit of each kind may carry: a block no name, body, params or returns; a
native, managed or raw function a name and no code, a raw one no params and no returns, a
native one no doc. A unit of another kind fits no rule. -/
def Fits (u : ManifestUnit) : Prop :=
  if u.kind = "block" then u.name = "" ∧ u.body = "" ∧ u.params = [] ∧ u.returns = none
  else if u.kind = "native" then u.name ≠ "" ∧ u.code = "" ∧ u.doc = ""
  else if u.kind = "managed" then u.name ≠ "" ∧ u.code = ""
  else if u.kind = "raw" then u.name ≠ "" ∧ u.code = "" ∧ u.params = [] ∧ u.returns = none
  else False

/-- The kinds of unit a manifest declares. -/
def KnownKind (u : ManifestUnit) : Prop :=
  u.kind = "block" ∨ u.kind = "native" ∨ u.kind = "managed" ∨ u.kind = "raw"

/-- A unit that fits its kind's rules has a known kind. -/
theorem Fits.knownKind {u : ManifestUnit} (h : u.Fits) : u.KnownKind := by
  unfold Fits at h
  unfold KnownKind
  split_ifs at h <;> simp_all

/-- A unit has no problem exactly when it fits the rule of its kind. -/
theorem problem_eq_none_iff (u : ManifestUnit) : u.problem = none ↔ u.Fits := by
  unfold problem Fits
  split_ifs <;> simp_all [Option.isSome_iff_ne_none] <;> tauto

/-- A unit of no known kind is missing its kind, or has an unknown one. -/
theorem problem_of_not_knownKind {u : ManifestUnit} (h : ¬ u.KnownKind) :
    u.problem =
      some (if u.kind = "" then "missing kind" else "unknown kind " ++ Text.quote u.kind) := by
  simp only [KnownKind, not_or] at h
  obtain ⟨hb, hn, hm, hr⟩ := h
  simp only [problem, hb, hn, hm, hr, beq_iff_eq, Bool.or_eq_true, or_self, if_false]
  split <;> rfl

end ManifestUnit

namespace Manifest

/-! ## Validation -/

/-- The `i`-th of `units`, `u`, is the first that does not fit the rule of its kind. -/
structure FirstUnfit (units : List ManifestUnit) (i : Nat) (u : ManifestUnit) : Prop where
  unit : units[i]? = some u
  unfit : ¬ u.Fits
  before : ∀ j < i, ∀ v, units[j]? = some v → v.Fits

/-- The units have no problem exactly when each fits its kind's rule. -/
theorem unitProblem_eq_none_iff :
    ∀ (k : Nat) (us : List ManifestUnit), unitProblem k us = none ↔ ∀ u ∈ us, u.Fits
  | _, [] => by simp [unitProblem]
  | k, u :: us => by
    rw [List.forall_mem_cons, ← u.problem_eq_none_iff, ← unitProblem_eq_none_iff (k + 1) us]
    cases h : u.problem <;> simp [unitProblem, h]

/-- The problem of the units is that of the first unit that does not fit, named by its place
counted from `k`. -/
theorem unitProblem_of_firstUnfit :
    ∀ {k : Nat} {us : List ManifestUnit} {i : Nat} {u : ManifestUnit}, FirstUnfit us i u →
      ∃ p, u.problem = some p ∧ unitProblem k us = some ("unit " ++ toString (k + i) ++ ": " ++ p)
  | _, [], _, _, h => by simpa using h.unit
  | k, v :: us, 0, u, h => by
    obtain rfl : v = u := by simpa using h.unit
    obtain ⟨p, hp⟩ := Option.ne_none_iff_exists'.1 (mt v.problem_eq_none_iff.1 h.unfit)
    exact ⟨p, hp, by simp [unitProblem, hp]⟩
  | k, v :: us, i + 1, u, h => by
    -- the first unit fits, so the problem is the rest's, one place further
    have hv : v.problem = none := v.problem_eq_none_iff.2 (h.before 0 (by omega) v rfl)
    have hrest : FirstUnfit us i u :=
      ⟨by simpa using h.unit, h.unfit,
        fun j hj x hx => h.before (j + 1) (by omega) x (by simpa using hx)⟩
    obtain ⟨p, hp, hrun⟩ := unitProblem_of_firstUnfit (k := k + 1) hrest
    refine ⟨p, hp, ?_⟩
    rw [unitProblem, hv, hrun, Nat.add_right_comm, Nat.add_assoc]

/-- The check for an unnamed module with a directory passes a module that has a name or no
directory. -/
theorem unnamedDir_eq_false {m : Manifest} (h : m.name ≠ "" ∨ m.dir = "") :
    (m.name == "" && m.dir != "") = false := by
  simp only [Bool.and_eq_false_iff, beq_eq_false_iff_ne, bne_eq_false_iff_eq]
  exact h

/-- A manifest validates exactly when a module without a name has no directory and every unit
fits the rule of its kind. -/
theorem validate_eq_ok_iff (m : Manifest) :
    validate m = .ok () ↔ (m.name ≠ "" ∨ m.dir = "") ∧ ∀ u ∈ m.units, u.Fits := by
  rw [← unitProblem_eq_none_iff 1]
  by_cases hdir : m.name = "" ∧ m.dir ≠ ""
  · simp [validate, hdir.1, hdir.2]
  · have hnamed : m.name ≠ "" ∨ m.dir = "" := by tauto
    cases h : unitProblem 1 m.units <;> simp [validate, unnamedDir_eq_false hnamed, h, hnamed]

/-- The units of a manifest that validates are all of known kinds. -/
theorem knownKind_of_validate {m : Manifest} (hm : validate m = .ok ()) :
    ∀ u ∈ m.units, u.KnownKind :=
  fun u hu => (((validate_eq_ok_iff m).1 hm).2 u hu).knownKind

/-- Every refusal of a manifest is an invalid manifest. -/
theorem validate_eq_error {m : Manifest} {e : ManifestError} (h : validate m = .error e) :
    ∃ d, e = .invalid d := by
  unfold validate at h
  split at h
  · exact ⟨_, (Except.error.inj h).symm⟩
  · split at h
    · exact ⟨_, (Except.error.inj h).symm⟩
    · cases h

/-- A module without a name that has a directory is refused before its units. -/
theorem validate_unnamed_dir {m : Manifest} (hname : m.name = "") (hdir : m.dir ≠ "") :
    validate m = .error (.invalid "an unnamed module can not have a dir") := by
  simp [validate, hname, hdir]

/-- Otherwise the first unit that does not fit its kind's rule is refused, named by its place
counted from one. -/
theorem validate_of_firstUnfit {m : Manifest} {i : Nat} {u : ManifestUnit}
    (hnamed : m.name ≠ "" ∨ m.dir = "") (h : FirstUnfit m.units i u) :
    ∃ p, u.problem = some p ∧
      validate m = .error (.invalid ("unit " ++ toString (i + 1) ++ ": " ++ p)) := by
  obtain ⟨p, hp, hrun⟩ := unitProblem_of_firstUnfit (k := 1) h
  refine ⟨p, hp, ?_⟩
  simp [validate, unnamedDir_eq_false hnamed, hrun, Nat.add_comm]

/-- Decoded text parses exactly when its manifest validates, and to that manifest. -/
theorem parse_of_decoded {text : String} {r : Toml.Record}
    (hr : Toml.decodeDocument recordType (Utf8.ofString text) = .ok r) :
    parse text = (validate (ofRecord r)).map fun _ => ofRecord r := by
  simp only [parse, hr, Except.mapError, except_ok_bind]
  cases validate (ofRecord r) <;> rfl

end Manifest

/-! ## Declaring units -/

namespace Declaration

/-- An accepted native function keeps the name, signature and body it was given. -/
theorem nativeFunction_eq_ok {n : String} {s : Signature} {b : String} {f : NativeFunction}
    (h : nativeFunction n s b = .ok f) : f = ⟨n, s, b⟩ := by
  unfold nativeFunction at h
  obtain ⟨_, -, h⟩ := except_bind_eq_ok.1 h
  obtain ⟨_, -, h⟩ := except_bind_eq_ok.1 h
  split at h
  · cases h
  · exact (Except.ok.inj h).symm

/-- A name the check accepts is not empty. -/
theorem ne_empty_of_checkName {n : String} (h : checkName n = .ok ()) : n ≠ "" := by
  rintro rfl
  cases h

/-- An accepted managed function keeps what it was given, and its name is not empty. -/
theorem managedFunction_eq_ok {n : String} {s : Signature} {b d : String} {f : ManagedFunction}
    (h : managedFunction n s b d = .ok f) : f = ⟨n, s, b, d, false⟩ ∧ n ≠ "" := by
  unfold managedFunction at h
  obtain ⟨_, hn, h⟩ := except_bind_eq_ok.1 h
  obtain ⟨_, -, h⟩ := except_bind_eq_ok.1 h
  exact ⟨(Except.ok.inj h).symm, ne_empty_of_checkName hn⟩

/-- An accepted raw function keeps what it was given and has no signature, and its name is not
empty. -/
theorem rawFunction_eq_ok {n b d : String} {f : ManagedFunction}
    (h : rawFunction n b d = .ok f) : f = ⟨n, {}, b, d, true⟩ ∧ n ≠ "" := by
  unfold rawFunction at h
  obtain ⟨_, hn, h⟩ := except_bind_eq_ok.1 h
  exact ⟨(Except.ok.inj h).symm, ne_empty_of_checkName hn⟩

end Declaration

namespace Assembly

/-- Adding declarations keeps the module's name. -/
theorem foldlM_add_name {a a' : Assembly} {ds : List Declaration}
    (h : ds.foldlM Assembly.add a = .ok a') : a'.name = a.name := by
  rw [Host.foldlM_add] at h
  split at h
  · cases h
  · rw [← Except.ok.inj h]

end Assembly

namespace ManifestUnit

/-- Managed and raw functions get proxies. -/
def hasProxy (u : ManifestUnit) : Bool := u.kind == "managed" || u.kind == "raw"

/-- The declaration the extension makes of a unit of a manifest: a block keeps its code; a
native, managed or raw function is made by the constructor of its kind, which accepts the
unit's name, its signature as written (returns left out stay out, so the kind's default
applies) and its body, a managed or raw function with the unit's doc trimmed of surrounding
white space. -/
inductive Declares : ManifestUnit → Declaration → Prop
  | block {u : ManifestUnit} : u.kind = "block" → Declares u (.block u.code)
  | native {u : ManifestUnit} : u.kind = "native" →
      Declaration.nativeFunction u.name u.signature u.body = .ok ⟨u.name, u.signature, u.body⟩ →
      Declares u (.native ⟨u.name, u.signature, u.body⟩)
  | managed {u : ManifestUnit} : u.kind = "managed" →
      Declaration.managedFunction u.name u.signature u.body (Render.trimSpace u.doc) =
        .ok ⟨u.name, u.signature, u.body, Render.trimSpace u.doc, false⟩ →
      Declares u (.managed ⟨u.name, u.signature, u.body, Render.trimSpace u.doc, false⟩)
  | raw {u : ManifestUnit} : u.kind = "raw" →
      Declaration.rawFunction u.name u.body (Render.trimSpace u.doc) =
        .ok ⟨u.name, {}, u.body, Render.trimSpace u.doc, true⟩ →
      Declares u (.managed ⟨u.name, {}, u.body, Render.trimSpace u.doc, true⟩)

/-- Why an extension whose declarations so far are `a` refuses a unit of a manifest: the
constructor of the unit's kind refuses it, or a symbol of its declaration is taken. Either way
the error is a configuration error of the module. -/
inductive Refuses (a : Assembly) (u : ManifestUnit) : FailureReport → Prop
  | native {e : DeclError} : u.kind = "native" →
      Declaration.nativeFunction u.name u.signature u.body = .error e →
      Refuses a u (Host.Errors.configuration a.name (Failure.report e))
  | managed {e : DeclError} : u.kind = "managed" →
      Declaration.managedFunction u.name u.signature u.body (Render.trimSpace u.doc) = .error e →
      Refuses a u (Host.Errors.configuration a.name (Failure.report e))
  | raw {e : DeclError} : u.kind = "raw" →
      Declaration.rawFunction u.name u.body (Render.trimSpace u.doc) = .error e →
      Refuses a u (Host.Errors.configuration a.name (Failure.report e))
  | taken {d : Declaration} {c : CollisionError} : Declares u d → a.add d = .error c →
      Refuses a u (Host.Errors.configuration a.name (Failure.report c))

/-- A unit with a proxy is declared under its own name. -/
theorem Declares.name_of_hasProxy {u : ManifestUnit} {d : Declaration} (h : Declares u d)
    (hp : u.hasProxy = true) : d.name = u.name ∧ u.name ≠ "" := by
  cases h with
  | block hk => simp [hasProxy, hk] at hp
  | native hk => simp [hasProxy, hk] at hp
  | managed _ hf => exact ⟨rfl, (Declaration.managedFunction_eq_ok hf).2⟩
  | raw _ hf => exact ⟨rfl, (Declaration.rawFunction_eq_ok hf).2⟩

/-- A refused unit is refused with a configuration error of the module. -/
theorem Refuses.configuration {a : Assembly} {u : ManifestUnit} {e : FailureReport}
    (h : Refuses a u e) : ∃ r, e = Host.Errors.configuration a.name r := by
  cases h <;> exact ⟨_, rfl⟩

end ManifestUnit

/-- A mapped result is a value exactly when the result was one that maps to it. -/
theorem except_map_eq_ok_iff {ε α β : Type} {x : Except ε α} {f : α → β} {b : β} :
    x.map f = .ok b ↔ ∃ a, x = .ok a ∧ f a = b := by
  cases x <;> simp [Except.map]

namespace Host

open ManifestUnit Machine

/-- World `w` with extension `x` and proxies `ps`, all else as it was. -/
def withExt (w : World HostState) (x : Option Extension) (ps : List String) : World HostState :=
  { w with host := { w.host with ext := x, proxies := ps } }

/-- Setting the extension twice keeps the second. -/
@[simp] theorem withExt_withExt (w : World HostState) (x y : Option Extension)
    (ps qs : List String) : withExt (withExt w x ps) y qs = withExt w y qs := rfl

/-- Setting the extension sets the proxies given. -/
@[simp] theorem withExt_proxies (w : World HostState) (x : Option Extension) (ps : List String) :
    (withExt w x ps).host.proxies = ps := rfl

/-- Setting the extension keeps the proxies. -/
theorem setExt_eq_withExt (w : World HostState) (x : Option Extension) :
    ExtensionHost.setExt w x = withExt w x w.host.proxies := rfl

/-- Writing back what a world holds changes nothing. -/
theorem withExt_self {w : World HostState} {ext : Extension} (hw : w.host.ext = some ext) :
    withExt w (some ext) w.host.proxies = w := by
  rw [← setExt_eq_withExt, setExt_self hw]

/-- Changing the host's state and going on is going on from the changed world. -/
@[simp] theorem modifyHost_bind_run {β : Type} (f : HostState → HostState) (g : PUnit → HostM β)
    (w : World HostState) : (modifyHost f >>= g).run w = (g ⟨⟩).run { w with host := f w.host } :=
  rfl

section

variable {w : World HostState} {ext : Extension}

/-- A declaration the assembly refuses is refused with a configuration error, and nothing
changes. -/
theorem addDeclaration_taken_run {d : Declaration} {c : CollisionError}
    (hw : w.host.ext = some ext) (hadd : ext.asm.add d = .error c) :
    (addDeclaration d : HostM _).run w =
      .ok (.error (Errors.configuration ext.name (Failure.report c)), w) := by
  have hw' : ExtensionHost.ext w = some ext := hw
  unfold addDeclaration
  simp only [getExt_bind_run, hw', hadd]
  rfl

/-- A declaration that checks is added as any declaration is. -/
theorem addChecked_ok_run (hw : w.host.ext = some ext) (d : Declaration) :
    (addChecked (.ok d)).run w = (addDeclaration d : HostM _).run w := by
  unfold addChecked
  rw [StateT.run_bind, Driver.currentExt_run hw, except_ok_bind]

/-- A declaration that does not check is refused as a configuration error, changing nothing. -/
theorem addChecked_error_run (hw : w.host.ext = some ext) (e : DeclError) :
    (addChecked (.error e)).run w =
      .ok (.error (Errors.configuration ext.name (Failure.report e)), w) := by
  unfold addChecked
  rw [StateT.run_bind, Driver.currentExt_run hw, except_ok_bind]
  rfl

/-- A managed function that does not check is refused as a configuration error, changing nothing. -/
theorem addManagedProxy_error_run (hw : w.host.ext = some ext) (e : DeclError) :
    (addManagedProxy (.error e)).run w =
      .ok (.error (Errors.configuration ext.name (Failure.report e)), w) := by
  have hw' : ExtensionHost.ext w = some ext := hw
  unfold addManagedProxy
  simp only [getExt_bind_run, hw']
  rfl

/-- A managed function whose symbol is taken is refused as a configuration error, changing nothing.
-/
theorem addManagedProxy_taken_run {d : Declaration} {c : CollisionError}
    (hw : w.host.ext = some ext) (hadd : ext.asm.add d = .error c) :
    (addManagedProxy (.ok d)).run w =
      .ok (.error (Errors.configuration ext.name (Failure.report c)), w) := by
  have hw' : ExtensionHost.ext w = some ext := hw
  unfold addManagedProxy
  simp only [getExt_bind_run, hw']
  rw [run_bind_of_ok (addDeclaration_taken_run hw hadd)]
  rfl

/-- A managed function the assembly accepts gets a proxy, its name being new among them. -/
theorem addManagedProxy_ok_run {d : Declaration} {a : Assembly} (hw : w.host.ext = some ext)
    (hadd : ext.asm.add d = .ok a) (hfresh : d.name ∉ w.host.proxies) :
    (addManagedProxy (.ok d)).run w =
      .ok (.ok (), withExt w (some { ext with asm := a }) (w.host.proxies ++ [d.name])) := by
  have hw' : ExtensionHost.ext w = some ext := hw
  unfold addManagedProxy
  simp only [getExt_bind_run, hw']
  rw [run_bind_of_ok (addDeclaration_run hw hadd)]
  have hnew : w.host.proxies.contains d.name = false := by simpa using hfresh
  simp only [modifyHost_bind_run, setExt_eq_withExt, withExt_proxies, hnew]
  rfl

end

/-! ### One unit -/

/-- What declaring one unit does, on a world whose extension is `ext`: the unit's declaration
is appended, with a proxy for a managed or raw function, or the unit is refused and nothing
changes. -/
inductive UnitStep (ext : Extension) (w : World HostState) (u : ManifestUnit) :
    Except FailureReport Unit → World HostState → Prop
  | declared {d : Declaration} {a : Assembly} : Declares u d → ext.asm.add d = .ok a →
      UnitStep ext w u (.ok ()) (withExt w (some { ext with asm := a })
        (w.host.proxies ++ if u.hasProxy then [u.name] else []))
  | refused {e : FailureReport} : Refuses ext.asm u e → UnitStep ext w u (.error e) w

/-- The proxies of a world are symbols its extension has taken. -/
def ProxiesTaken (w : World HostState) (ext : Extension) : Prop :=
  ∀ n ∈ w.host.proxies, ext.asm.isTaken n = true

section

variable {w : World HostState} {ext : Extension} {u : ManifestUnit}

/-- A block or a native function is added without a proxy. -/
theorem addChecked_step {x : Except DeclError Declaration} (hw : w.host.ext = some ext)
    (hname : ext.asm.name = ext.name) (hp : u.hasProxy = false)
    (hok : ∀ d, x = .ok d → Declares u d)
    (herr : ∀ e, x = .error e →
      Refuses ext.asm u (Errors.configuration ext.asm.name (Failure.report e))) :
    ∃ r w', (addChecked x).run w = .ok (r, w') ∧ UnitStep ext w u r w' := by
  cases x with
  | error e =>
    refine ⟨_, _, addChecked_error_run hw e, .refused ?_⟩
    rw [← hname]
    exact herr e rfl
  | ok d =>
    rw [addChecked_ok_run hw]
    cases hadd : ext.asm.add d with
    | error c =>
      refine ⟨_, _, addDeclaration_taken_run hw hadd, .refused ?_⟩
      rw [← hname]
      exact .taken (hok d rfl) hadd
    | ok a =>
      refine ⟨_, _, addDeclaration_run hw hadd, ?_⟩
      simpa [hp, setExt_eq_withExt] using UnitStep.declared (w := w) (hok d rfl) hadd

/-- A managed or raw function is added with a proxy under its name, which no proxy has yet:
the proxies are taken symbols, and the function's name is one of its symbols, all free. -/
theorem addManagedProxy_step {x : Except DeclError Declaration} (hw : w.host.ext = some ext)
    (hname : ext.asm.name = ext.name) (hproxies : ProxiesTaken w ext) (hp : u.hasProxy = true)
    (hok : ∀ d, x = .ok d → Declares u d)
    (herr : ∀ e, x = .error e →
      Refuses ext.asm u (Errors.configuration ext.asm.name (Failure.report e))) :
    ∃ r w', (addManagedProxy x).run w = .ok (r, w') ∧ UnitStep ext w u r w' := by
  cases x with
  | error e =>
    refine ⟨_, _, addManagedProxy_error_run hw e, .refused ?_⟩
    rw [← hname]
    exact herr e rfl
  | ok d =>
    cases hadd : ext.asm.add d with
    | error c =>
      refine ⟨_, _, addManagedProxy_taken_run hw hadd, .refused ?_⟩
      rw [← hname]
      exact .taken (hok d rfl) hadd
    | ok a =>
      obtain ⟨hdn, hne⟩ := (hok d rfl).name_of_hasProxy hp
      have hfree : ext.asm.isTaken d.name = false :=
        (Assembly.add_eq_ok_iff.1 hadd).1 _ (Declaration.name_mem_symbols (hdn ▸ hne))
      have hfresh : d.name ∉ w.host.proxies := fun hmem => by
        rw [hproxies _ hmem] at hfree
        cases hfree
      refine ⟨_, _, addManagedProxy_ok_run hw hadd hfresh, ?_⟩
      simpa [hp, hdn] using UnitStep.declared (w := w) (hok d rfl) hadd

/-- Declaring a unit of a known kind appends its declaration or refuses it. -/
theorem declareUnit_step (hw : w.host.ext = some ext) (hname : ext.asm.name = ext.name)
    (hproxies : ProxiesTaken w ext) (hk : u.KnownKind) :
    ∃ r w', (declareUnit u).run w = .ok (r, w') ∧ UnitStep ext w u r w' := by
  rcases hk with hk | hk | hk | hk
  · -- a block
    have hdecl : declareUnit u = addChecked (.ok (.block u.code)) := by simp [declareUnit, hk]
    rw [hdecl]
    exact addChecked_step hw hname (by simp [hasProxy, hk]) (fun d h => by cases h; exact .block hk)
      (fun e h => by cases h)
  · -- a native function
    have hdecl : declareUnit u =
        addChecked ((Declaration.nativeFunction u.name u.signature u.body).map .native) := by
      simp [declareUnit, hk]
    rw [hdecl]
    refine addChecked_step hw hname (by simp [hasProxy, hk]) (fun d h => ?_)
      (fun e h => .native hk (except_map_eq_error_iff.1 h))
    obtain ⟨f, hf, rfl⟩ := except_map_eq_ok_iff.1 h
    obtain rfl := Declaration.nativeFunction_eq_ok hf
    exact .native hk hf
  · -- a managed function
    have hdecl : declareUnit u = addManagedProxy ((Declaration.managedFunction u.name u.signature
        u.body (Render.trimSpace u.doc)).map .managed) := by
      simp [declareUnit, hk]
    rw [hdecl]
    refine addManagedProxy_step hw hname hproxies (by simp [hasProxy, hk]) (fun d h => ?_)
      (fun e h => .managed hk (except_map_eq_error_iff.1 h))
    obtain ⟨f, hf, rfl⟩ := except_map_eq_ok_iff.1 h
    obtain ⟨rfl, -⟩ := Declaration.managedFunction_eq_ok hf
    exact .managed hk hf
  · -- a raw function
    have hdecl : declareUnit u = addManagedProxy ((Declaration.rawFunction u.name u.body
        (Render.trimSpace u.doc)).map .managed) := by
      simp [declareUnit, hk]
    rw [hdecl]
    refine addManagedProxy_step hw hname hproxies (by simp [hasProxy, hk]) (fun d h => ?_)
      (fun e h => .raw hk (except_map_eq_error_iff.1 h))
    obtain ⟨f, hf, rfl⟩ := except_map_eq_ok_iff.1 h
    obtain ⟨rfl, -⟩ := Declaration.rawFunction_eq_ok hf
    exact .raw hk hf

end

/-! ### Units in turn -/

/-- The proxies of the managed and raw functions among units, in order. -/
theorem filter_hasProxy_cons (u : ManifestUnit) (us : List ManifestUnit) :
    ((u :: us).filter hasProxy).map (·.name) =
      (if u.hasProxy then [u.name] else []) ++ (us.filter hasProxy).map (·.name) := by
  cases h : u.hasProxy <;> simp [h]

/-- One unit declared keeps the extension's invariants: its assembly carries its name, and its
proxies are taken symbols. -/
theorem UnitStep.declared_invariants {w : World HostState} {ext : Extension} {u : ManifestUnit}
    {d : Declaration} {a : Assembly} (hname : ext.asm.name = ext.name)
    (hproxies : ProxiesTaken w ext) (hd : Declares u d) (hadd : ext.asm.add d = .ok a) :
    a.name = ext.name ∧ ProxiesTaken (withExt w (some { ext with asm := a })
      (w.host.proxies ++ if u.hasProxy then [u.name] else [])) { ext with asm := a } := by
  obtain ⟨-, rfl⟩ := Assembly.add_eq_ok_iff.1 hadd
  refine ⟨hname, fun n hn => ?_⟩
  simp only [Assembly.isTaken_append, Bool.or_eq_true]
  rcases List.mem_append.1 hn with hn | hn
  · exact .inl (hproxies n hn)
  · -- the new proxy is the function's own name, a symbol of its declaration
    split at hn
    next hp =>
      obtain ⟨hdn, hne⟩ := hd.name_of_hasProxy hp
      obtain rfl : n = u.name := List.mem_singleton.1 hn
      exact .inr (by simpa [← hdn] using Declaration.name_mem_symbols (hdn ▸ hne))
    next => cases hn

/-- Declaring units in turn: every unit declared, in order, with proxies for the managed and
raw ones; or stopped at the first unit refused, after the declarations of those before it. -/
theorem declareUnits_run : ∀ (us : List ManifestUnit) {w : World HostState} {ext : Extension},
    w.host.ext = some ext → ext.asm.name = ext.name → ProxiesTaken w ext →
    (∀ u ∈ us, u.KnownKind) →
    ∃ r w', (declareUnits us).run w = .ok (r, w') ∧
      ((r = .ok () ∧ ∃ decls a, List.Forall₂ Declares us decls ∧
          decls.foldlM Assembly.add ext.asm = .ok a ∧
          w' = withExt w (some { ext with asm := a })
            (w.host.proxies ++ (us.filter hasProxy).map (·.name))) ∨
       (∃ e i u decls a, r = .error e ∧ List.Forall₂ Declares (us.take i) decls ∧
          decls.foldlM Assembly.add ext.asm = .ok a ∧ us[i]? = some u ∧ Refuses a u e ∧
          ∃ x ps, w' = withExt w x ps))
  | [], w, ext, hw, _, _, _ => by
    refine ⟨_, _, rfl, .inl ⟨rfl, [], ext.asm, .nil, rfl, ?_⟩⟩
    simpa using (withExt_self hw).symm
  | u :: us, w, ext, hw, hname, hproxies, hk => by
    obtain ⟨r₁, w₁, h₁, hstep⟩ := declareUnit_step hw hname hproxies (hk u List.mem_cons_self)
    unfold declareUnits
    rw [run_bind_of_ok h₁]
    cases hstep with
    | refused href =>
      exact ⟨_, _, rfl, .inr ⟨_, 0, u, [], ext.asm, rfl, .nil, rfl, rfl, href, some ext,
        w.host.proxies, (withExt_self hw).symm⟩⟩
    | @declared d a hd hadd =>
      -- the rest runs on the extension with the unit's declaration appended
      obtain ⟨hname₁, hproxies₁⟩ := UnitStep.declared_invariants hname hproxies hd hadd
      obtain ⟨r, w', h, hres⟩ := @declareUnits_run us _ { ext with asm := a } rfl hname₁
        hproxies₁ fun v hv => hk v (List.mem_cons_of_mem _ hv)
      refine ⟨r, w', h, ?_⟩
      rcases hres with ⟨rfl, decls, a', hall, hfold, rfl⟩ |
        ⟨e, i, v, decls, a', rfl, hall, hfold, hv, href, x, ps, rfl⟩
      · refine .inl ⟨rfl, d :: decls, a', .cons hd hall, ?_, ?_⟩
        · rw [List.foldlM_cons, hadd, except_ok_bind, hfold]
        · simp [filter_hasProxy_cons]
      · refine .inr ⟨e, i + 1, v, d :: decls, a', rfl, by simpa using List.Forall₂.cons hd hall,
          ?_, by simpa using hv, href, x, ps, rfl⟩
        rw [List.foldlM_cons, hadd, except_ok_bind, hfold]

/-! ### The build -/

/-- The extension a new module gets carries its name, the generated one when it has none, and
an assembly of that name with no declarations. -/
theorem newExtension_eq_ok {n : String} {d : Option String} {fl : List String} {e : Extension}
    (h : newExtension n d fl = .ok e) :
    e.name = (if n = "" then anonymousName else n) ∧ e.asm = { name := e.name } := by
  unfold newExtension at h
  simp only [String.isEmpty_iff] at h
  split at h
  · cases h
  · split at h
    · cases h
    · cases h
      exact ⟨rfl, rfl⟩

/-- A module refused is refused with a configuration error of its name, the generated one when
it has none. -/
theorem newExtension_eq_error {n : String} {d : Option String} {fl : List String}
    {e : FailureReport} (h : newExtension n d fl = .error e) :
    ∃ r, e = Errors.configuration (if n = "" then anonymousName else n) r := by
  unfold newExtension at h
  simp only [String.isEmpty_iff] at h
  split at h
  · exact ⟨_, (Except.error.inj h).symm⟩
  · split at h
    · exact ⟨_, (Except.error.inj h).symm⟩
    · cases h

/-- The ways building the extension a manifest describes ends, from world `w`, with `dir` the
directory a caller gives in place of the manifest's. -/
inductive Builds (m : Manifest) (dir : Option String) (w : World HostState) :
    Except FailureReport Unit → World HostState → Prop
  /-- The module's name or directory is refused, and no extension is left. -/
  | module {e : FailureReport} :
      newExtension m.name (extensionDir m dir) (m.flags.getD []) = .error e →
      Builds m dir w (.error e) (withExt w none [])
  /-- A unit is refused, the first the extension refuses, after the declarations of the units
  before it; no extension is left. -/
  | unit {ext : Extension} {i : Nat} {u : ManifestUnit} {decls : List Declaration}
      {a : Assembly} {e : FailureReport} :
      newExtension m.name (extensionDir m dir) (m.flags.getD []) = .ok ext →
      List.Forall₂ Declares (m.units.take i) decls → decls.foldlM Assembly.add ext.asm = .ok a →
      m.units[i]? = some u → Refuses a u e → Builds m dir w (.error e) (withExt w none [])
  /-- Every unit is declared, in order, and the managed and raw functions have proxies. -/
  | built {ext : Extension} {decls : List Declaration} {a : Assembly} :
      newExtension m.name (extensionDir m dir) (m.flags.getD []) = .ok ext →
      List.Forall₂ Declares m.units decls → decls.foldlM Assembly.add ext.asm = .ok a →
      Builds m dir w (.ok ()) (withExt w (some { ext with asm := a })
        ((m.units.filter hasProxy).map (·.name)))

/-- Building a manifest of units of known kinds goes one of the ways `Builds` lists. -/
theorem buildManifest_run {m : Manifest} (hk : ∀ u ∈ m.units, u.KnownKind)
    (dir : Option String) (w : World HostState) :
    ∃ r w', (buildManifest m dir).run w = .ok (r, w') ∧ Builds m dir w r w' := by
  unfold buildManifest
  rw [modifyHost_bind_run]
  cases hnew : newExtension m.name (extensionDir m dir) (m.flags.getD []) with
  | error e => exact ⟨_, _, rfl, .module hnew⟩
  | ok ext =>
    simp only [modifyHost_bind_run]
    obtain ⟨-, hasm⟩ := newExtension_eq_ok hnew
    obtain ⟨r, w', h, hres⟩ := declareUnits_run m.units (w := withExt w (some ext) []) rfl
      (by rw [hasm]) (fun n hn => by simp at hn) hk
    rcases hres with ⟨rfl, decls, a, hall, hfold, rfl⟩ |
      ⟨e, i, u, decls, a, rfl, hall, hfold, hu, href, x, ps, rfl⟩
    · refine ⟨_, _, (run_bind_of_ok h).trans rfl, ?_⟩
      simpa using Builds.built (w := w) hnew hall hfold
    · exact ⟨_, _, (run_bind_of_ok h).trans rfl, .unit hnew hall hfold hu href⟩

/-- Every error of a build is a configuration error of the module, under its name or, when it
has none, the generated one. -/
theorem Builds.configuration {m : Manifest} {dir : Option String} {w w' : World HostState}
    {e : FailureReport} (h : Builds m dir w (.error e) w') :
    ∃ r, e = Errors.configuration (if m.name = "" then anonymousName else m.name) r := by
  cases h with
  | module hnew => exact newExtension_eq_error hnew
  | @unit ext _ _ _ a _ hnew _ hfold _ href =>
    obtain ⟨hname, hasm⟩ := newExtension_eq_ok hnew
    obtain ⟨r, rfl⟩ := href.configuration
    have ha : a.name = ext.name := by rw [Assembly.foldlM_add_name hfold, hasm]
    exact ⟨r, by rw [ha, hname]⟩

end Host

namespace Manifest

open Host ManifestUnit

/-! ## The laws -/

/-- The laws of a manifest `m` decoded from `text`: how it parses, validates and builds. -/
structure ManifestLaws (text : String) (m : Manifest) : Prop where
  /-- The text parses exactly when its manifest validates, and to that manifest. -/
  parsed : parse text = (validate m).map fun _ => m
  /-- The manifest validates exactly when a module without a name has no directory and every
  unit fits the rule of its kind. -/
  accepted : validate m = .ok () ↔ (m.name ≠ "" ∨ m.dir = "") ∧ ∀ u ∈ m.units, u.Fits
  /-- Every refusal is an invalid manifest. -/
  invalid : ∀ e, validate m = .error e → ∃ d, e = .invalid d
  /-- A module without a name that has a directory is refused before its units. -/
  unnamed_dir : m.name = "" → m.dir ≠ "" →
    validate m = .error (.invalid "an unnamed module can not have a dir")
  /-- Otherwise the first unit that does not fit its kind's rule is refused with its problem,
  named by its place counted from one. -/
  first_unit : ∀ i u, (m.name ≠ "" ∨ m.dir = "") → FirstUnfit m.units i u →
    ∃ p, u.problem = some p ∧
      validate m = .error (.invalid ("unit " ++ toString (i + 1) ++ ": " ++ p))
  /-- A unit of no known kind is missing its kind, or has an unknown one. -/
  kinds : ∀ u ∈ m.units, ¬ u.KnownKind →
    u.problem = some (if u.kind = "" then "missing kind" else "unknown kind " ++ Text.quote u.kind)
  /-- Building a manifest that validates goes one of the ways `Builds` lists. -/
  build : validate m = .ok () → ∀ dir w,
    ∃ r w', (buildManifest m dir).run w = .ok (r, w') ∧ Builds m dir w r w'
  /-- Every error of such a build is a configuration error of the module. -/
  configuration : validate m = .ok () → ∀ dir w e w',
    (buildManifest m dir).run w = .ok (.error e, w') →
      ∃ r, e = Errors.configuration (if m.name = "" then anonymousName else m.name) r

/-- A manifest decoded from text parses exactly when it validates, validates exactly when every
unit fits the rule of its kind, and builds into an extension that declares its units in order,
or into the first error the extension gives, leaving no extension. -/
theorem manifest_laws {text : String} {r : Toml.Record}
    (hr : Toml.decodeDocument recordType (Utf8.ofString text) = .ok r) :
    ManifestLaws text (ofRecord r) where
  parsed := parse_of_decoded hr
  accepted := validate_eq_ok_iff _
  invalid _ h := validate_eq_error h
  unnamed_dir := validate_unnamed_dir
  first_unit _ _ := validate_of_firstUnfit
  kinds _ _ := problem_of_not_knownKind
  build hm := buildManifest_run (knownKind_of_validate hm)
  configuration hm dir w e w' h := by
    obtain ⟨r', w'', hrun, hb⟩ := buildManifest_run (knownKind_of_validate hm) dir w
    rw [h] at hrun
    obtain ⟨rfl, rfl⟩ := Prod.mk.inj (Except.ok.inj hrun)
    exact hb.configuration

/-- The text of a manifest of module `m` with one block of code that carries a doc. -/
def blockDocText : String :=
  "name = \"m\"\n\n[[unit]]\nkind = \"block\"\ncode = \"int x;\"\ndoc = \"note\"\n"

/-- The manifest `blockDocText` describes. -/
def blockDoc : Manifest :=
  { name := "m", units := [{ kind := "block", code := "int x;", doc := "note" }] }

/-- The block document decodes to the manifest it is meant to be. -/
theorem blockDoc_decoded :
    ∃ r, Toml.decodeDocument recordType (Utf8.ofString blockDocText) = .ok r ∧
      ofRecord r = blockDoc :=
  ⟨_, by cbv, by cbv⟩

/-- The laws hold of the manifest of one block with a doc. -/
theorem manifest_laws_blockDoc : ∃ r,
    Toml.decodeDocument recordType (Utf8.ofString blockDocText) = .ok r ∧
      ManifestLaws blockDocText (ofRecord r) := by
  obtain ⟨r, hr, -⟩ := blockDoc_decoded
  exact ⟨r, hr, manifest_laws hr⟩

/-- A block that carries a doc parses: its kind's rule does not look at the doc. -/
theorem block_doc_parsed : parse blockDocText = .ok blockDoc := by
  obtain ⟨r, hr, hm⟩ := blockDoc_decoded
  rw [parse_of_decoded hr, hm]
  rfl

end Manifest

end InlineC
