import Mathlib
import InlineC.Assembly.Basic
import InlineC.Lang.Header
import InlineC.Proofs.Runs

/-!
# The symbols of an assembly

An assembly refuses a declaration that would take a file-scope symbol already taken, and
names the first such symbol in the declaration's order. Every run of additions from a new
assembly keeps the symbols of the accepted declarations pairwise distinct and apart from the
module's own four. The rendering of each declaration other than a block is a sequence of
file-scope definitions, functions and a capture's slot, each named by one of the
declaration's symbols, so no two definitions the templates write share a name.

The assembler does not look into what the user writes, bodies and blocks, and it does not
check names against the runtime header: a native function may take a name the header
defines.
-/

namespace InlineC

namespace Declaration

/-- A text behind a nonempty prefix is a different text. -/
theorem ne_append_left {p : String} (s : String) (hp : p.length ≠ 0) : s ≠ p ++ s := by
  intro h
  have := congrArg String.length h
  rw [String.length_append] at this
  omega

/-- Two texts behind prefixes of different lengths differ. -/
theorem append_ne_append {p q : String} (s t : String) (hst : s.length = t.length)
    (hpq : p.length ≠ q.length) : p ++ s ≠ q ++ t := by
  intro h
  have := congrArg String.length h
  rw [String.length_append, String.length_append] at this
  omega

/-- A declaration's own symbols are distinct: its helpers are its name behind prefixes of
different lengths. -/
theorem symbols_nodup (d : Declaration) : d.symbols.Nodup := by
  cases d with
  | block code => simp [symbols, name, helpers]
  | native f => by_cases h : f.name.isEmpty <;> simp [symbols, name, helpers, h]
  | managed f =>
    have h1 : f.name ≠ "__folded_" ++ f.name := ne_append_left _ (by decide)
    have h2 : f.name ≠ "__pack_" ++ f.name := ne_append_left _ (by decide)
    have h3 : "__folded_" ++ f.name ≠ "__pack_" ++ f.name := append_ne_append _ _ rfl (by decide)
    by_cases hn : f.name.isEmpty <;> cases hr : f.raw <;>
      simp [symbols, name, helpers, hn, hr, h1, h2, h3]
  | capture c =>
    have h : c.name ≠ c.slot := by
      unfold Capture.name Capture.slot
      simp only [String.append_assoc]
      exact append_ne_append _ _ rfl (by decide)
    by_cases hn : c.name.isEmpty <;> simp [symbols, name, helpers, hn, h]
  | dispatch d => by_cases h : d.name.isEmpty <;> simp [symbols, name, helpers, h]

/-- A file-scope definition a rendering template writes: a function, with its return type,
name, parameter list and body, or the static slot of a capture. -/
inductive Definition where
  | function (ret name params body : String)
  | slot (name : String)

namespace Definition

/-- The name a definition defines. -/
def name : Definition → String
  | .function _ n _ _ => n
  | .slot n => n

/-- The text of a definition. -/
def text : Definition → String
  | .function ret n ps body => Render.function ret n ps body
  | .slot n => Render.slotDefinition n

end Definition

/-- A raw managed function renders as one function of its name; any other as a helper, the
folded body or the packer, then the wrapper of its name. -/
theorem managed_shape {f : ManagedFunction} {s : String} (h : Render.managed f = .ok s) :
    (f.raw = true ∧ ∃ body, s = Render.function "static cx_object*" f.name "cx_object* self, cx_object* args" body) ∨
      (f.raw = false ∧ ∃ helper ∈ ["__folded_" ++ f.name, "__pack_" ++ f.name], ∃ ret ps body wbody,
        s = Render.function ret helper ps body ++ "\n\n" ++
          Render.function "static cx_object*" f.name "cx_object* self, cx_object* args" wbody) := by
  unfold Render.managed at h
  split at h
  next hraw => exact .inl ⟨hraw, _, (Except.ok.inj h).symm⟩
  next hraw =>
    rw [except_bind_eq_ok] at h
    obtain ⟨unpacked, -, h⟩ := h
    refine .inr ⟨by simpa using hraw, ?_⟩
    dsimp only at h
    split at h
    next =>
      unfold Render.managedMulti at h
      rw [except_bind_eq_ok] at h
      obtain ⟨outNames, -, h⟩ := h
      rw [except_bind_eq_ok] at h
      obtain ⟨outDecls, -, h⟩ := h
      rw [except_bind_eq_ok] at h
      obtain ⟨format, -, h⟩ := h
      exact ⟨_, by simp, _, _, _, _, (Except.ok.inj h).symm⟩
    next =>
      unfold Render.managedSingle at h
      rw [except_bind_eq_ok] at h
      obtain ⟨⟨retDecl, tail⟩, -, h⟩ := h
      rw [except_bind_eq_ok] at h
      obtain ⟨decls, -, h⟩ := h
      exact ⟨_, by simp, _, _, _, _, (Except.ok.inj h).symm⟩

/-- A native function renders as one function of its name. -/
theorem native_shape {f : NativeFunction} {s : String} (h : Render.native f = .ok s) :
    ∃ ret ps body, s = Render.function ret f.name ps body := by
  unfold Render.native at h
  rw [except_bind_eq_ok] at h
  obtain ⟨retDecl, -, h⟩ := h
  rw [except_bind_eq_ok] at h
  obtain ⟨decls, -, h⟩ := h
  exact ⟨_, _, _, (Except.ok.inj h).symm⟩

/-- A capture renders as its slot, then its entry point. -/
theorem capture_shape (c : Capture) : ∃ body, Render.capture c =
    Render.slotDefinition c.slot ++ "\n\n" ++
      Render.function "static cx_object*" c.name "cx_object* self, cx_object* args" body :=
  ⟨_, rfl⟩

/-- A dispatch renders as one function of its name. -/
theorem dispatch_shape {d : Dispatch} {s : String} (h : Render.dispatch d = .ok s) :
    ∃ ps body, s = Render.function "int" d.name ps body := by
  unfold Render.dispatch at h
  rw [except_bind_eq_ok] at h
  obtain ⟨outNames, -, h⟩ := h
  rw [except_bind_eq_ok] at h
  obtain ⟨inDecls, -, h⟩ := h
  rw [except_bind_eq_ok] at h
  obtain ⟨outDecls, -, h⟩ := h
  rw [except_bind_eq_ok] at h
  obtain ⟨inFormat, -, h⟩ := h
  rw [except_bind_eq_ok] at h
  obtain ⟨outFormat, -, h⟩ := h
  exact ⟨_, _, (Except.ok.inj h).symm⟩

/-- The rendering of a declaration other than a block is its definitions one after another, and
each definition with a name defines a symbol of the declaration. What the bodies hold is the
user's text. -/
theorem render_definitions {d : Declaration} {s : String} (hd : d.kind ≠ .block)
    (h : d.render = .ok s) :
    ∃ defs : List Definition, s = "\n\n".intercalate (defs.map Definition.text) ∧
      ∀ x ∈ defs, x.name ≠ "" → x.name ∈ d.symbols := by
  cases d with
  | block code => exact absurd rfl hd
  | native f =>
    obtain ⟨ret, ps, body, rfl⟩ := native_shape h
    refine ⟨[.function ret f.name ps body], by simp [Definition.text], ?_⟩
    intro x hx hne
    simp only [List.mem_singleton] at hx
    subst hx
    simp only [Definition.name] at hne
    simp [symbols, name, Definition.name, hne]
  | managed f =>
    rcases managed_shape h with ⟨hraw, body, rfl⟩ |
      ⟨hraw, helper, hhelper, ret, ps, body, wbody, rfl⟩
    · refine ⟨[.function "static cx_object*" f.name "cx_object* self, cx_object* args" body],
        by simp [Definition.text], ?_⟩
      intro x hx hne
      simp only [List.mem_singleton] at hx
      subst hx
      simp only [Definition.name] at hne
      simp [symbols, name, Definition.name, hne]
    · refine ⟨[.function ret helper ps body,
        .function "static cx_object*" f.name "cx_object* self, cx_object* args" wbody],
        by simp [Definition.text], ?_⟩
      intro x hx hne
      simp only [List.mem_cons, List.not_mem_nil, or_false] at hx
      rcases hx with rfl | rfl
      · simp only [List.mem_cons, List.not_mem_nil, or_false] at hhelper
        simp [symbols, helpers, hraw, Definition.name, hhelper]
      · simp only [Definition.name] at hne
        simp [symbols, name, Definition.name, hne]
  | capture c =>
    simp only [render, Except.ok.injEq] at h
    obtain ⟨body, hc⟩ := capture_shape c
    refine ⟨[.slot c.slot, .function "static cx_object*" c.name "cx_object* self, cx_object* args" body],
      by simp [Definition.text, ← h, hc], ?_⟩
    intro x hx hne
    simp only [List.mem_cons, List.not_mem_nil, or_false] at hx
    rcases hx with rfl | rfl
    · simp [symbols, helpers, Definition.name]
    · simp only [Definition.name] at hne
      simp [symbols, name, Definition.name, hne]
  | dispatch d =>
    obtain ⟨ps, body, rfl⟩ := dispatch_shape h
    refine ⟨[.function "int" d.name ps body], by simp [Definition.text], ?_⟩
    intro x hx hne
    simp only [List.mem_singleton] at hx
    subst hx
    simp only [Definition.name] at hne
    simp [symbols, name, Definition.name, hne]

end Declaration

namespace Assembly

/-- A symbol is taken when it is one of the module's own or a symbol of an accepted
declaration. -/
theorem isTaken_iff (a : Assembly) (n : String) :
    a.isTaken n = true ↔ n ∈ moduleSymbols a.name ∨ ∃ d ∈ a.decls, n ∈ d.symbols := by
  simp [isTaken, taken, List.mem_flatMap]

/-- An addition is refused exactly when a symbol of the declaration is taken, and the error
names the first taken one. -/
theorem add_eq_error_iff {a : Assembly} {d : Declaration} {c : CollisionError} :
    a.add d = .error c ↔ ∃ pre n post, d.symbols = pre ++ n :: post ∧ a.isTaken n = true ∧
      (∀ s ∈ pre, a.isTaken s = false) ∧ c = ⟨a.name, n⟩ := by
  unfold add firstTaken?
  cases h : d.symbols.find? a.isTaken with
  | none =>
    simp only [reduceCtorEq, false_iff, not_exists, not_and]
    intro pre n post hs hn _
    rw [List.find?_eq_none] at h
    exact (h n (by rw [hs]; simp) hn).elim
  | some n =>
    obtain ⟨hn, pre, post, hs, hpre⟩ := List.find?_eq_some_iff_append.1 h
    simp only [Except.error.injEq]
    constructor
    · rintro rfl
      exact ⟨pre, n, post, hs, hn, fun s hs' => by simpa using hpre s hs', rfl⟩
    · rintro ⟨pre', n', post', hs', hn', hpre', rfl⟩
      -- the first taken symbol is the same whichever split names it
      have : d.symbols.find? a.isTaken = some n' :=
        List.find?_eq_some_iff_append.2 ⟨hn', pre', post', hs', fun s hs => by simp [hpre' s hs]⟩
      rw [h] at this
      cases this
      rfl

/-- An addition is accepted exactly when no symbol of the declaration is taken, and then the
declaration comes last. -/
theorem add_eq_ok_iff {a a' : Assembly} {d : Declaration} :
    a.add d = .ok a' ↔ (∀ s ∈ d.symbols, a.isTaken s = false) ∧
      a' = { a with decls := a.decls ++ [d] } := by
  unfold add firstTaken?
  cases h : d.symbols.find? a.isTaken with
  | none =>
    rw [List.find?_eq_none] at h
    simp only [Except.ok.injEq]
    exact ⟨fun h' => ⟨fun s hs => by simpa using h s hs, h'.symm⟩, fun h' => h'.2.symm⟩
  | some n =>
    obtain ⟨hn, pre, post, hs, _⟩ := List.find?_eq_some_iff_append.1 h
    simp only [reduceCtorEq, false_iff, not_and]
    intro hfree
    have := hfree n (by rw [hs]; simp)
    rw [hn] at this
    cases this

/-- The symbols of the accepted declarations are distinct, and none is one of the module's
own. -/
structure SymbolsDistinct (a : Assembly) : Prop where
  nodup : (a.decls.flatMap Declaration.symbols).Nodup
  apart : ∀ s ∈ a.decls.flatMap Declaration.symbols, s ∉ moduleSymbols a.name

/-- An accepted addition keeps the symbols distinct. -/
theorem SymbolsDistinct.add {a a' : Assembly} {d : Declaration} (h : a.SymbolsDistinct)
    (hadd : a.add d = .ok a') : a'.SymbolsDistinct := by
  obtain ⟨hfree, rfl⟩ := add_eq_ok_iff.1 hadd
  -- a fresh symbol is neither a module symbol nor one of an accepted declaration
  have fresh : ∀ s ∈ d.symbols, s ∉ moduleSymbols a.name ∧ s ∉ a.decls.flatMap Declaration.symbols := by
    intro s hs
    have hf := hfree s hs
    rw [← Bool.not_eq_true, isTaken_iff, not_or] at hf
    exact ⟨hf.1, fun hm => hf.2 (by simpa [List.mem_flatMap] using hm)⟩
  constructor
  · rw [List.flatMap_append, List.flatMap_singleton, List.nodup_append]
    exact ⟨h.nodup, d.symbols_nodup, fun x hx y hy hxy => (fresh y hy).2 (hxy ▸ hx)⟩
  · intro s hs
    rw [List.flatMap_append, List.flatMap_singleton, List.mem_append] at hs
    rcases hs with hs | hs
    · exact h.apart s hs
    · exact (fresh s hs).1

/-- The assemblies a run of additions reaches from a new assembly named `name`. A refused
addition returns an error and leaves the assembly as it was, so only accepted ones move. -/
inductive Reachable (name : String) : Assembly → Prop where
  | new : Reachable name { name }
  | add {a a' : Assembly} {d : Declaration} : Reachable name a → a.add d = .ok a' →
      Reachable name a'

/-- A run keeps the module's name. -/
theorem Reachable.name_eq {name : String} {a : Assembly} (h : Reachable name a) :
    a.name = name := by
  induction h with
  | new => rfl
  | add _ hadd ih =>
    rw [(add_eq_ok_iff.1 hadd).2]
    exact ih

/-- Every run keeps the symbols distinct, by induction on the run. -/
theorem Reachable.symbolsDistinct {name : String} {a : Assembly} (h : Reachable name a) :
    a.SymbolsDistinct := by
  induction h with
  | new => exact ⟨List.nodup_nil, fun _ hs => by simp at hs⟩
  | add _ hadd ih => exact ih.add hadd

/-- What holds of an assembly reached from a new one named `name`. -/
structure Guarantees (name : String) (a : Assembly) : Prop where
  /-- The taken symbols are the module's four and those of the accepted declarations. -/
  taken : ∀ n, a.isTaken n = true ↔ n ∈ moduleSymbols name ∨ ∃ d ∈ a.decls, n ∈ d.symbols
  /-- The symbols of the accepted declarations are distinct. -/
  nodup : (a.decls.flatMap Declaration.symbols).Nodup
  /-- None of them is one of the module's own. -/
  apart : ∀ s ∈ a.decls.flatMap Declaration.symbols, s ∉ moduleSymbols name
  /-- An addition is refused exactly when a symbol of the declaration is taken, and the error
  names the first taken one; the assembly stays as it was. -/
  refuses : ∀ d c, a.add d = .error c ↔ ∃ pre n post, d.symbols = pre ++ n :: post ∧
    a.isTaken n = true ∧ (∀ s ∈ pre, a.isTaken s = false) ∧ c = ⟨name, n⟩
  /-- An accepted addition appends the declaration, and the run goes on from there. -/
  accepts : ∀ d a', a.add d = .ok a' → a'.decls = a.decls ++ [d] ∧ Reachable name a'
  /-- The rendering of every accepted declaration other than a block is a sequence of
  definitions, each named by one of its symbols. -/
  definitions : ∀ d ∈ a.decls, d.kind ≠ .block → ∀ s, d.render = .ok s →
    ∃ defs : List Declaration.Definition,
      s = "\n\n".intercalate (defs.map Declaration.Definition.text) ∧
      ∀ x ∈ defs, x.name ≠ "" → x.name ∈ d.symbols

/-- Every run of additions from a new assembly keeps the guarantees. -/
theorem reachable_symbols_distinct {name : String} {a : Assembly} (h : Reachable name a) :
    Guarantees name a := by
  have hname := h.name_eq
  have hd := h.symbolsDistinct
  refine ⟨fun n => ?_, hd.nodup, hname ▸ hd.apart, fun d c => ?_, fun d a' hadd => ?_,
    fun d _ hk s hs => Declaration.render_definitions hk hs⟩
  · rw [isTaken_iff, hname]
  · rw [add_eq_error_iff, hname]
  · exact ⟨by rw [(add_eq_ok_iff.1 hadd).2], h.add hadd⟩

/-- A managed function `f` that takes nothing and returns none. -/
def noneFunction : ManagedFunction :=
  { name := "f", sig := {}, body := "return cx_none();", doc := "", raw := false }

/-- An assembly of one managed function is reachable and keeps its symbols apart. -/
theorem reachable_symbols_distinct_one :
    Reachable "m" { name := "m", decls := [.managed noneFunction] } ∧
      Guarantees "m" { name := "m", decls := [.managed noneFunction] } := by
  have hfree : ({ name := "m" } : Assembly).firstTaken? (.managed noneFunction) = none := by
    decide +kernel
  have hadd : ({ name := "m" } : Assembly).add (.managed noneFunction) =
      .ok { name := "m", decls := [.managed noneFunction] } := by
    simp only [add, hfree]
    rfl
  have hr : Reachable "m" { name := "m", decls := [.managed noneFunction] } := .add .new hadd
  exact ⟨hr, reachable_symbols_distinct hr⟩

/-- A native function of the name `cx_none_s`. -/
def cxNoneS : NativeFunction := { name := "cx_none_s", sig := {}, body := "return 0;" }

/-- A new assembly accepts a native function named `cx_none_s`, and renders it as a function
of that name, though the runtime header defines `cx_none_s` at file scope: the translation
unit then defines the name twice. -/
theorem runtime_symbol_accepted :
    ({ name := "m" } : Assembly).add (.native cxNoneS) = .ok { name := "m", decls := [.native cxNoneS] } ∧
      (Declaration.native cxNoneS).render =
        .ok (Render.function "int" "cx_none_s" "void" "    return 0;") ∧
      ∃ lines, Lang.Header.cexiText = Lang.Header.ofLines lines ∧
        lines[68]? = some
          "static cx_object cx_none_s = \x7b CX_NONE, -1, 0, 0.0, NULL, 0, NULL, NULL, 0 \x7d;" := by
  have hfree : ({ name := "m" } : Assembly).firstTaken? (.native cxNoneS) = none := by
    decide +kernel
  refine ⟨by simp only [add, hfree]; rfl, rfl, _, rfl, rfl⟩

end Assembly

end InlineC
