import Mathlib
import InlineC.Declaration.Render
import InlineC.Proofs.Runs
import InlineC.Proofs.NameLoops

/-!
# The names of rendered parameter lists

Every function that a declaration renders with parameters of its own (a native function,
the folded body `__folded_f` or the packer `__pack_f` of a managed function, and a dispatch)
declares them as `Render.params decls names`, one declaration per name. The names are the
authored parameters, then, for a packer or a dispatch, names drawn by `Identifier.generate`.

What holds (`rendered_params`): the names of each list are pairwise distinct; an authored
name is a valid identifier that no wrapper reserves (`self`, `args`, `result`, `temp`); a
generated name is a short name, one or two lower-case letters, so it is none of the longer
names a wrapper declares or calls, and it is a valid identifier unless it is `do` or `if`.
Except for a native function, each parameter's type has an argument code, so none is
declared `void`.

What does not: an authored name is checked against the four reserved locals only, so a
parameter named after a runtime function renders and shadows it
(`runtime_name_parameter_accepted`); a native function may declare a parameter `void`; and
the 119th and 240th short names are the keywords `do` and `if` (`shortNames_keywords`).
-/

namespace InlineC

open Identifier

/-! ## Authored parameters -/

/-- The signature check accepts a parameter after the names `seen` when its name is a valid
identifier, not reserved and not seen, and its type is in the table; it then goes on with the
name seen. -/
theorem checkParams_cons_eq_ok {seen : List String} {p : Param} {ps : List Param} :
    Signature.checkParams seen (p :: ps) = .ok () ↔
      Identifier.validate p.name = .ok () ∧ p.name ∉ reservedLocals ∧ p.name ∉ seen ∧
        (TypeTable.lookup? p.type).isSome ∧ Signature.checkParams (p.name :: seen) ps = .ok () := by
  rw [Signature.checkParams.eq_2]
  cases hv : Identifier.validate p.name with
  | error e => simp [throw, throwThe, MonadExceptOf.throw, bind, Except.bind]
  | ok u =>
    simp only [bind, Except.bind]
    by_cases hr : p.name ∈ reservedLocals <;> by_cases hs : p.name ∈ seen <;>
      cases ht : TypeTable.lookup? p.type <;> simp_all [throw, throwThe, MonadExceptOf.throw]

/-- The parameters that the signature check accepts after the names `seen`: pairwise distinct
names, each a valid identifier, none reserved and none seen, and each type in the table. The
induction follows the check along the parameters. -/
theorem checkParams_ok {seen : List String} {ps : List Param}
    (h : Signature.checkParams seen ps = .ok ()) :
    (ps.map (·.name)).Nodup ∧ ∀ p ∈ ps, Identifier.validate p.name = .ok () ∧
      p.name ∉ reservedLocals ∧ p.name ∉ seen ∧ (TypeTable.lookup? p.type).isSome := by
  induction ps generalizing seen with
  | nil => simp
  | cons p ps ih =>
    obtain ⟨hv, hres, hseen, hty, hrest⟩ := checkParams_cons_eq_ok.1 h
    obtain ⟨hnodup, hps⟩ := ih hrest
    refine ⟨List.nodup_cons.2 ⟨?_, hnodup⟩, ?_⟩
    · -- a later parameter has a name other than those seen before it, this one among them
      intro hmem
      obtain ⟨q, hq, hqn⟩ := List.mem_map.1 hmem
      exact (hps q hq).2.2.1 (by simp [hqn])
    · intro q hq
      rcases List.mem_cons.1 hq with rfl | hq
      · exact ⟨hv, hres, hseen, hty⟩
      · obtain ⟨hqv, hqr, hqs, hqt⟩ := hps q hq
        exact ⟨hqv, hqr, fun h => hqs (List.mem_cons_of_mem _ h), hqt⟩

/-- A signature that the check accepts has pairwise distinct parameter names, each a valid
identifier that no wrapper reserves, and parameter types in the table. -/
theorem Signature.validate_ok {sig : Signature} (h : sig.validate = .ok ()) :
    sig.names.Nodup ∧ ∀ p ∈ sig.params, Identifier.validate p.name = .ok () ∧
      p.name ∉ reservedLocals ∧ (TypeTable.lookup? p.type).isSome := by
  unfold Signature.validate at h
  obtain ⟨u, hparams, -⟩ := except_bind_eq_ok.1 h
  obtain ⟨hnodup, hps⟩ := checkParams_ok hparams
  exact ⟨hnodup, fun p hp => ⟨(hps p hp).1, (hps p hp).2.1, (hps p hp).2.2.2⟩⟩

/-- A signature that passes the declaration's check validates. -/
theorem checkSignature_ok {fn : String} {sig : Signature}
    (h : Declaration.checkSignature fn sig = .ok ()) : sig.validate = .ok () := by
  unfold Declaration.checkSignature at h
  cases hv : sig.validate with
  | error e => simp [hv, Except.mapError] at h
  | ok u => rfl

/-- A native function that its constructor accepts has the name and signature it was given,
and the signature passed the check. -/
theorem nativeFunction_ok {name body : String} {sig : Signature} {f : NativeFunction}
    (h : Declaration.nativeFunction name sig body = .ok f) :
    f.name = name ∧ f.sig = sig ∧ sig.validate = .ok () := by
  unfold Declaration.nativeFunction at h
  obtain ⟨u, -, h⟩ := except_bind_eq_ok.1 h
  obtain ⟨u', hsig, h⟩ := except_bind_eq_ok.1 h
  split at h
  · cases h
  · cases h
    exact ⟨rfl, rfl, checkSignature_ok hsig⟩

/-- A managed function that its constructor accepts is not raw, and has the name and
signature it was given, a signature that passed the check. -/
theorem managedFunction_ok {name body doc : String} {sig : Signature} {f : ManagedFunction}
    (h : Declaration.managedFunction name sig body doc = .ok f) :
    f.name = name ∧ f.sig = sig ∧ f.raw = false ∧ sig.validate = .ok () := by
  unfold Declaration.managedFunction at h
  obtain ⟨u, -, h⟩ := except_bind_eq_ok.1 h
  obtain ⟨u', hsig, h⟩ := except_bind_eq_ok.1 h
  cases h
  exact ⟨rfl, rfl, rfl, checkSignature_ok hsig⟩

/-- A dispatch that its constructor accepts pairs the capture with the signature it was
given, a signature that passed the check. -/
theorem dispatchOf_ok {sig : Signature} {c : Capture} {d : Dispatch}
    (h : Declaration.dispatchOf sig c = .ok d) : d.sig = sig ∧ d.capture = c ∧ sig.validate = .ok () := by
  unfold Declaration.dispatchOf at h
  obtain ⟨u, hsig, h⟩ := except_bind_eq_ok.1 h
  cases h
  exact ⟨rfl, rfl, checkSignature_ok hsig⟩

/-! ## Short names -/

/-- The letters are the lower-case ASCII letters. -/
theorem mem_letters {c : Char} (h : c ∈ letters) : 97 ≤ c.toNat ∧ c.toNat ≤ 122 := by
  simp only [letters, List.mem_map, List.mem_range] at h
  obtain ⟨i, hi, rfl⟩ := h
  simp only [Char.toNat_ofNat]
  split <;> omega

/-- The letters are identifier letters. -/
theorem isLetter_of_mem_letters {c : Char} (h : c ∈ letters) : isLetter c = true := by
  obtain ⟨hlo, hhi⟩ := mem_letters h
  have hlower : 'a' ≤ c ∧ c ≤ 'z' := ⟨Char.le_def.2 hlo, Char.le_def.2 hhi⟩
  simp [isLetter, hlower]

/-- A short name is one or two lower-case letters. -/
theorem mem_shortNames {n : String} (h : n ∈ shortNames) :
    ∃ cs : List Char, n = String.ofList cs ∧ cs ≠ [] ∧ cs.length ≤ 2 ∧ ∀ c ∈ cs, c ∈ letters := by
  simp only [shortNames, List.mem_append, List.mem_map, List.mem_flatMap] at h
  rcases h with ⟨c, hc, rfl⟩ | ⟨p, hp, c, hc, rfl⟩
  · exact ⟨[c], rfl, by simp, by simp, by simpa using hc⟩
  · refine ⟨[p, c], rfl, by simp, by simp, ?_⟩
    intro x hx
    simp only [List.mem_cons, List.not_mem_nil, or_false] at hx
    rcases hx with rfl | rfl <;> assumption

/-- A short name has at most two characters. -/
theorem length_le_of_mem_shortNames {n : String} (h : n ∈ shortNames) : n.length ≤ 2 := by
  obtain ⟨cs, rfl, -, hlen, -⟩ := mem_shortNames h
  simpa using hlen

/-- Letters hold no fault of an identifier after the first character. -/
theorem firstFault_letters {name : String} {cs : List Char} (h : ∀ c ∈ cs, c ∈ letters)
    (offset : Nat) : firstFault name offset cs = none := by
  induction cs generalizing offset with
  | nil => rfl
  | cons c cs ih =>
    rw [firstFault, if_pos (isLetter_of_mem_letters (h c (by simp)))]
    exact ih (fun x hx => h x (by simp [hx])) _

/-- The keywords of one or two letters. -/
theorem keywords_short : keywords.filter (·.length ≤ 2) = ["do", "if"] := by decide

/-- A short name is a valid identifier unless it is one of the two keywords `do` and `if`. -/
theorem validate_shortName {n : String} (h : n ∈ shortNames) :
    Identifier.validate n = .ok () ↔ n ≠ "do" ∧ n ≠ "if" := by
  obtain ⟨cs, rfl, hne, hlen, hletters⟩ := mem_shortNames h
  have hempty : (String.ofList cs).isEmpty = false := by
    cases he : (String.ofList cs).isEmpty
    · rfl
    · exact absurd (by simpa using String.isEmpty_iff.1 he) hne
  -- a keyword among the short names is a keyword of at most two letters
  have hkw : isKeyword (String.ofList cs) = true ↔ String.ofList cs ∈ ["do", "if"] := by
    rw [← keywords_short, isKeyword, List.contains_iff_mem, List.mem_filter]
    simp [hlen]
  unfold Identifier.validate
  rw [hempty, String.toList_ofList, firstFault_letters hletters]
  simp only [Bool.false_eq_true, if_false]
  by_cases hk : isKeyword (String.ofList cs) = true
  · rw [if_pos hk]
    have hmem := hkw.1 hk
    simp only [List.mem_cons, List.not_mem_nil, or_false] at hmem
    simp only [reduceCtorEq, false_iff, not_and_or, not_not]
    exact hmem
  · rw [if_neg hk]
    have hmem : String.ofList cs ∉ ["do", "if"] := fun hm => hk (hkw.2 hm)
    simp only [List.mem_cons, List.not_mem_nil, or_false, not_or] at hmem
    simpa using hmem

/-- The 119th short name is the keyword `do`, and the 240th the keyword `if`. -/
theorem shortNames_keywords : shortNames[118]? = some "do" ∧ shortNames[239]? = some "if" :=
  ⟨by decide +kernel, by decide +kernel⟩

/-- The short names are pairwise distinct: the names of one letter by their letter, those of
two by their two letters, and no name of one letter is one of two. -/
theorem shortNames_nodup : shortNames.Nodup := by
  have hletters : letters.Nodup := by decide
  have hone : (letters.map Char.toString).Nodup :=
    hletters.map fun a b h => by simpa using congrArg String.toList h
  have hpair (p : Char) : (letters.map fun c => String.ofList [p, c]).Nodup :=
    hletters.map fun a b h => by simpa using congrArg String.toList h
  have htwo : (letters.flatMap fun p => letters.map fun c => String.ofList [p, c]).Nodup := by
    refine List.nodup_flatMap.2 ⟨fun p _ => hpair p, hletters.imp fun {a b} hab => ?_⟩
    simp only [List.disjoint_left, List.mem_map]
    rintro _ ⟨c, -, rfl⟩ ⟨d, -, h⟩
    have hchars := congrArg String.toList h
    simp only [String.toList_ofList, List.cons.injEq, and_true] at hchars
    exact hab hchars.1.symm
  refine List.nodup_append.2 ⟨hone, htwo, ?_⟩
  simp only [List.mem_map, List.mem_flatMap]
  rintro _ ⟨c, -, rfl⟩ _ ⟨p, -, d, -, rfl⟩ h
  simpa using congrArg String.length h

/-! ## Generated names -/

/-- The names `generate` draws: as many as asked, pairwise distinct, each a short name and
none excluded. -/
theorem generate_ok {count : Int} {exclude outs : List String}
    (h : Identifier.generate count exclude = .ok outs) :
    outs.length = count.toNat ∧ outs.Nodup ∧ ∀ n ∈ outs, n ∈ shortNames ∧ n ∉ exclude := by
  rw [Identifier.generate_eq] at h
  split at h
  · cases h
  · dsimp only at h
    split at h
    · cases h
    · next hlen =>
      cases h
      refine ⟨by rw [List.length_take]; omega, (shortNames_nodup.filter _).sublist (List.take_sublist _ _), ?_⟩
      intro n hn
      have hmem := List.mem_filter.1 (List.mem_of_mem_take hn)
      exact ⟨hmem.1, by simpa using hmem.2⟩

/-- The runtime's functions that a wrapper or a dispatch calls. -/
def runtimeCalls : List String :=
  ["cx_parse_tuple", "cx_build_value", "cx_build_tuple", "cx_none", "cx_call_function",
    "cx_decref"]

/-- The names that the wrapper of function `name`, or a dispatch whose capture slot is `slot`,
declares or references beside the parameters. -/
def wrapperNames (name slot : String) : List String :=
  reservedLocals ++ ["__folded_" ++ name, "__pack_" ++ name, slot] ++ runtimeCalls

/-- A short name is none of the names a wrapper or a dispatch declares or references: each of
those is longer than two letters. -/
theorem shortName_not_wrapperName {n : String} (h : n ∈ shortNames) (name : String)
    (c : Capture) : n ∉ wrapperNames name c.slot := by
  have hshort := length_le_of_mem_shortNames h
  have hfixed : ∀ m ∈ reservedLocals ++ runtimeCalls, 2 < m.length := by decide
  have hfolded : ("__folded_" : String).length = 9 := by decide
  have hpack : ("__pack_" : String).length = 7 := by decide
  have hslot : ("__captured_" : String).length = 11 := by decide
  intro hmem
  simp only [wrapperNames, List.mem_append, List.mem_cons, List.not_mem_nil, or_false] at hmem
  rcases hmem with (hres | rfl | rfl | rfl) | hrun
  · have := hfixed n (List.mem_append_left _ hres)
    omega
  · simp only [String.length_append, hfolded] at hshort
    omega
  · simp only [String.length_append, hpack] at hshort
    omega
  · simp only [Capture.slot, String.length_append, hslot] at hshort
    omega
  · have := hfixed n (List.mem_append_right _ hrun)
    omega

/-! ## Declarations of parameters -/

/-- Declarations render only for types the type table declares. -/
theorem declsOf_ok {types decls : List String} (h : Render.declsOf types = .ok decls) :
    TypeTable.declarations types = .ok decls := by
  unfold Render.declsOf at h
  cases hd : TypeTable.declarations types with
  | error e => simp [hd, Except.mapError] at h
  | ok ds => simpa [hd, Except.mapError] using h

/-- A format renders only for types the type table has codes for. -/
theorem formatOf_ok {fn : String} {types : List String} {fmt : String}
    (h : Render.formatOf fn types = .ok fmt) : ∃ cs, TypeTable.codes types = .ok cs := by
  unfold Render.formatOf TypeTable.formatString at h
  cases hc : TypeTable.codes types with
  | error e => simp [hc, Except.mapError, Except.map] at h
  | ok cs => exact ⟨cs, rfl⟩

/-- The declarations of some types, one per type. -/
theorem declarations_length {types decls : List String}
    (h : TypeTable.declarations types = .ok decls) : decls.length = types.length := by
  induction types generalizing decls with
  | nil =>
    cases h
    rfl
  | cons t ts ih =>
    unfold TypeTable.declarations at h
    rw [List.mapM_cons] at h
    obtain ⟨d, -, h⟩ := except_bind_eq_ok.1 h
    obtain ⟨ds, hds, h⟩ := except_bind_eq_ok.1 h
    cases h
    simp [ih hds]

/-- A type with an argument code is declared as something other than `void`. -/
theorem declaration_ne_void {t d : String} {a : ArgCode} (hc : TypeTable.code t = .ok a)
    (hd : TypeTable.declaration t = .ok d) : d ≠ "void" := by
  have htable : ∀ e ∈ typeTable, e.code.isSome → e.decl ≠ "void" := by decide
  unfold TypeTable.code at hc
  unfold TypeTable.declaration at hd
  cases he : TypeTable.lookup? t with
  | none => simp [he] at hd
  | some e =>
    rw [he] at hc hd
    cases hd
    have hmem : e ∈ typeTable := List.mem_of_find?_eq_some he
    obtain ⟨n, decl, code⟩ := e
    cases code with
    | none => cases hc
    | some c => exact htable _ hmem rfl

/-- Types that all have argument codes are declared, none as `void`. -/
theorem declarations_ne_void {types decls : List String} {cs : List ArgCode}
    (hc : TypeTable.codes types = .ok cs) (hd : TypeTable.declarations types = .ok decls) :
    "void" ∉ decls := by
  induction types generalizing decls cs with
  | nil =>
    cases hd
    simp
  | cons t ts ih =>
    unfold TypeTable.codes at hc
    unfold TypeTable.declarations at hd
    rw [List.mapM_cons] at hc hd
    obtain ⟨a, ha, hc⟩ := except_bind_eq_ok.1 hc
    obtain ⟨as, has, -⟩ := except_bind_eq_ok.1 hc
    obtain ⟨d, hd1, hd⟩ := except_bind_eq_ok.1 hd
    obtain ⟨ds, hds, hd⟩ := except_bind_eq_ok.1 hd
    cases hd
    simp only [List.mem_cons, not_or]
    exact ⟨(declaration_ne_void ha hd1).symm, ih has hds⟩

/-- A pointer is not declared `void`. -/
theorem pointer_ne_void (d : String) : TypeTable.pointer d ≠ "void" := by
  intro h
  have hlast := congrArg (fun s : String => s.toList.getLast?) h
  simp [TypeTable.pointer] at hlast

/-! ## The parameter lists of a rendering -/

/-- A native function renders as one function of its name whose parameters are the
declarations of its parameter types and its parameter names. -/
theorem native_params {f : NativeFunction} {s : String} (h : Render.native f = .ok s) :
    ∃ ret decls code, TypeTable.declarations f.sig.paramTypes = .ok decls ∧
      s = Render.function ret f.name (Render.params decls f.sig.names) code := by
  unfold Render.native at h
  obtain ⟨retDecl, -, h⟩ := except_bind_eq_ok.1 h
  obtain ⟨decls, hdecls, h⟩ := except_bind_eq_ok.1 h
  exact ⟨_, decls, _, declsOf_ok hdecls, (Except.ok.inj h).symm⟩

/-- A managed function that is not raw has argument codes for its parameter types. With at
most one result it renders its folded body first, declaring its parameters; with several, its
packer first, declaring names drawn apart from its parameters, one per result type, each with
an argument code. -/
theorem managed_params {f : ManagedFunction} {s : String} (h : Render.managed f = .ok s)
    (hraw : f.raw = false) :
    (∃ cs, TypeTable.codes f.sig.paramTypes = .ok cs) ∧
    ((f.sig.returnsOr "object").length ≤ 1 → ∃ ret decls code rest,
      TypeTable.declarations f.sig.paramTypes = .ok decls ∧
      s = Render.function ret ("__folded_" ++ f.name) (Render.params decls f.sig.names) code ++
        "\n\n" ++ rest) ∧
    (1 < (f.sig.returnsOr "object").length → ∃ decls outs code rest,
      Identifier.generate (f.sig.returnsOr "object").length f.sig.names = .ok outs ∧
      TypeTable.declarations (f.sig.returnsOr "object") = .ok decls ∧
      (∃ cs, TypeTable.codes (f.sig.returnsOr "object") = .ok cs) ∧
      s = Render.function "static cx_object*" ("__pack_" ++ f.name) (Render.params decls outs)
        code ++ "\n\n" ++ rest) := by
  unfold Render.managed at h
  rw [if_neg (by simp [hraw])] at h
  obtain ⟨unpacked, hunpack, h⟩ := except_bind_eq_ok.1 h
  -- the unpacking needs the parameter types' codes
  unfold Render.unpack at hunpack
  obtain ⟨decls, -, hlocals⟩ := except_bind_eq_ok.1 hunpack
  obtain ⟨fmt, hfmt, -⟩ := except_bind_eq_ok.1 hlocals
  dsimp only at h
  refine ⟨formatOf_ok hfmt, fun hone => ?_, fun hmany => ?_⟩
  · rw [if_neg (by omega)] at h
    unfold Render.managedSingle at h
    obtain ⟨⟨retDecl, tail⟩, -, h⟩ := except_bind_eq_ok.1 h
    obtain ⟨decls, hdecls, h⟩ := except_bind_eq_ok.1 h
    exact ⟨_, decls, _, _, declsOf_ok hdecls, (Except.ok.inj h).symm⟩
  · rw [if_pos hmany] at h
    unfold Render.managedMulti at h
    obtain ⟨outs, houts, h⟩ := except_bind_eq_ok.1 h
    obtain ⟨decls, hdecls, h⟩ := except_bind_eq_ok.1 h
    obtain ⟨format, hformat, h⟩ := except_bind_eq_ok.1 h
    refine ⟨decls, outs, _, _, ?_, declsOf_ok hdecls, formatOf_ok hformat, (Except.ok.inj h).symm⟩
    cases hg : Identifier.generate (f.sig.returnsOr "object").length f.sig.names with
    | error e => simp [hg, Except.mapError] at houts
    | ok o => simpa [hg, Except.mapError] using houts

/-- A dispatch renders as one function of its name whose parameters are its own, then names
drawn apart from them, one per result type; its parameter types have argument codes, and its
results are declared as pointers. -/
theorem dispatch_params {d : Dispatch} {s : String} (h : Render.dispatch d = .ok s) :
    ∃ inDecls outDecls outs code,
      Identifier.generate d.returns.length d.sig.names = .ok outs ∧
      TypeTable.declarations d.sig.paramTypes = .ok inDecls ∧
      TypeTable.declarations d.returns = .ok outDecls ∧
      (∃ cs, TypeTable.codes d.sig.paramTypes = .ok cs) ∧
      s = Render.function "int" d.name
        (Render.params (inDecls ++ outDecls.map TypeTable.pointer) (d.sig.names ++ outs)) code := by
  unfold Render.dispatch at h
  obtain ⟨outs, houts, h⟩ := except_bind_eq_ok.1 h
  obtain ⟨inDecls, hin, h⟩ := except_bind_eq_ok.1 h
  obtain ⟨outDecls, hout, h⟩ := except_bind_eq_ok.1 h
  obtain ⟨inFormat, hinFormat, h⟩ := except_bind_eq_ok.1 h
  obtain ⟨outFormat, -, h⟩ := except_bind_eq_ok.1 h
  refine ⟨inDecls, outDecls, outs, _, ?_, declsOf_ok hin, declsOf_ok hout, formatOf_ok hinFormat,
    (Except.ok.inj h).symm⟩
  cases hg : Identifier.generate d.returns.length d.sig.names with
  | error e => simp [hg, Except.mapError] at houts
  | ok o => simpa [hg, Except.mapError] using houts

/-! ## Hygiene of the parameter lists -/

/-- The parameters of a function of generated C: one declaration per name of
`authored ++ generated`, the names pairwise distinct, the authored ones valid identifiers that
no wrapper reserves, and the generated ones short names. -/
structure ParamNames (decls authored generated : List String) : Prop where
  length : decls.length = authored.length + generated.length
  nodup : (authored ++ generated).Nodup
  authored_valid : ∀ n ∈ authored, Identifier.validate n = .ok () ∧ n ∉ reservedLocals
  generated_short : ∀ n ∈ generated, n ∈ shortNames

/-- The parameters of an accepted signature, and after them names drawn apart from them. -/
theorem ParamNames.of_signature {sig : Signature} {decls outs : List String}
    (hsig : sig.validate = .ok ()) (hlen : decls.length = sig.names.length + outs.length)
    (houts : ∀ n ∈ outs, n ∈ shortNames ∧ n ∉ sig.names) (hnodup : outs.Nodup) :
    ParamNames decls sig.names outs := by
  obtain ⟨hnames, hparams⟩ := Signature.validate_ok hsig
  refine ⟨hlen, List.nodup_append.2 ⟨hnames, hnodup, ?_⟩, ?_, fun n hn => (houts n hn).1⟩
  · rintro a ha b hb rfl
    exact (houts a hb).2 ha
  · intro n hn
    obtain ⟨p, hp, rfl⟩ := List.mem_map.1 hn
    exact ⟨(hparams p hp).1, (hparams p hp).2.1⟩

/-- What the parameter lists of rendered declarations hold. -/
structure RenderedParams : Prop where
  /-- A native function declares its parameters. -/
  native : ∀ {name body s : String} {sig : Signature} {f : NativeFunction},
    Declaration.nativeFunction name sig body = .ok f → Render.native f = .ok s →
      ∃ ret decls code, s = Render.function ret name (Render.params decls sig.names) code ∧
        ParamNames decls sig.names []
  /-- With at most one result, the folded body declares the parameters, none `void`. -/
  folded : ∀ {name body doc s : String} {sig : Signature} {f : ManagedFunction},
    Declaration.managedFunction name sig body doc = .ok f → Render.managed f = .ok s →
      (sig.returnsOr "object").length ≤ 1 →
      ∃ ret decls code rest, s = Render.function ret ("__folded_" ++ name)
          (Render.params decls sig.names) code ++ "\n\n" ++ rest ∧
        ParamNames decls sig.names [] ∧ "void" ∉ decls
  /-- With several results, the packer declares one generated name per result, none
  `void`. -/
  pack : ∀ {name body doc s : String} {sig : Signature} {f : ManagedFunction},
    Declaration.managedFunction name sig body doc = .ok f → Render.managed f = .ok s →
      1 < (sig.returnsOr "object").length →
      ∃ decls outs code rest, s = Render.function "static cx_object*" ("__pack_" ++ name)
          (Render.params decls outs) code ++ "\n\n" ++ rest ∧
        outs.length = (sig.returnsOr "object").length ∧ ParamNames decls [] outs ∧
        "void" ∉ decls
  /-- A dispatch declares its parameters, then one generated name per result, none
  `void`. -/
  dispatch : ∀ {sig : Signature} {c : Capture} {d : Dispatch} {s : String},
    Declaration.dispatchOf sig c = .ok d → Render.dispatch d = .ok s →
      ∃ decls outs code, s = Render.function "int" c.fn
          (Render.params decls (sig.names ++ outs)) code ∧
        outs.length = (sig.returnsOr "int").length ∧ ParamNames decls sig.names outs ∧
        "void" ∉ decls
  /-- A generated name is a valid identifier unless it is `do` or `if`, and none of the names
  a wrapper or a dispatch declares or references. -/
  generated : ∀ n ∈ shortNames, (Identifier.validate n = .ok () ↔ n ≠ "do" ∧ n ≠ "if") ∧
    ∀ name (c : Capture), n ∉ wrapperNames name c.slot

/-- The parameters of every rendered function are named as its signature names them, apart from the
locals and helpers the renderer adds. -/
theorem rendered_params : RenderedParams where
  native hf hs := by
    obtain ⟨rfl, rfl, hsig⟩ := nativeFunction_ok hf
    obtain ⟨ret, decls, code, hdecls, rfl⟩ := native_params hs
    refine ⟨ret, decls, code, rfl, ParamNames.of_signature hsig ?_ (by simp) List.nodup_nil⟩
    simp [declarations_length hdecls, Signature.names, Signature.paramTypes]
  folded hf hs hone := by
    obtain ⟨rfl, rfl, hraw, hsig⟩ := managedFunction_ok hf
    obtain ⟨⟨cs, hcodes⟩, hsingle, -⟩ := managed_params hs hraw
    obtain ⟨ret, decls, code, rest, hdecls, rfl⟩ := hsingle hone
    refine ⟨ret, decls, code, rest, rfl,
      ParamNames.of_signature hsig ?_ (by simp) List.nodup_nil, declarations_ne_void hcodes hdecls⟩
    simp [declarations_length hdecls, Signature.names, Signature.paramTypes]
  pack hf hs hmany := by
    obtain ⟨rfl, rfl, hraw, -⟩ := managedFunction_ok hf
    obtain ⟨-, -, hmulti⟩ := managed_params hs hraw
    obtain ⟨decls, outs, code, rest, houts, hdecls, ⟨cs, hcodes⟩, rfl⟩ := hmulti hmany
    obtain ⟨hlen, hnodup, hnames⟩ := generate_ok houts
    refine ⟨decls, outs, code, rest, rfl, by simpa using hlen,
      ⟨?_, by simpa using hnodup, by simp, fun n hn => (hnames n hn).1⟩,
      declarations_ne_void hcodes hdecls⟩
    simp only [declarations_length hdecls, List.length_nil, zero_add]
    simpa using hlen.symm
  dispatch hd hs := by
    obtain ⟨rfl, rfl, hsig⟩ := dispatchOf_ok hd
    obtain ⟨inDecls, outDecls, outs, code, houts, hin, hout, ⟨cs, hcodes⟩, rfl⟩ :=
      dispatch_params hs
    obtain ⟨hlen, hnodup, hnames⟩ := generate_ok houts
    refine ⟨inDecls ++ outDecls.map TypeTable.pointer, outs, code, rfl,
      by simpa [Dispatch.returns] using hlen,
      ParamNames.of_signature hsig ?_ hnames hnodup, ?_⟩
    · simp [declarations_length hin, declarations_length hout, hlen, Signature.names,
        Signature.paramTypes, Dispatch.returns]
    · simp only [List.mem_append, List.mem_map, not_or, not_exists, not_and]
      exact ⟨declarations_ne_void hcodes hin, fun d _ => pointer_ne_void d⟩
  generated _ hn := ⟨validate_shortName hn, shortName_not_wrapperName hn⟩

/-- At the native function `int g(int x)`: one parameter, declared `int`. -/
theorem rendered_params_native :
    ∃ ret decls code, "int\ng(int x)\n\x7b\n    return x;\n\x7d" =
        Render.function ret "g" (Render.params decls ["x"]) code ∧ ParamNames decls ["x"] [] := by
  have hf : Declaration.nativeFunction "g" ⟨[⟨"x", "int"⟩], some ["int"]⟩ "return x;" =
      .ok ⟨"g", ⟨[⟨"x", "int"⟩], some ["int"]⟩, "return x;"⟩ := by decide
  have hs : Render.native ⟨"g", ⟨[⟨"x", "int"⟩], some ["int"]⟩, "return x;"⟩ =
      .ok "int\ng(int x)\n\x7b\n    return x;\n\x7d" := by decide +kernel
  obtain ⟨ret, decls, code, htext, hparams⟩ := rendered_params.native hf hs
  exact ⟨ret, decls, code, htext, hparams⟩

/-- A parameter named after the runtime's `cx_parse_tuple` is accepted, and the wrapper then
declares it as a local and calls `cx_parse_tuple` in its scope. -/
theorem runtime_name_parameter_accepted :
    Declaration.managedFunction "f" ⟨[⟨"cx_parse_tuple", "int"⟩], some ["int"]⟩
        "return cx_parse_tuple + 1;" "" =
      .ok ⟨"f", ⟨[⟨"cx_parse_tuple", "int"⟩], some ["int"]⟩, "return cx_parse_tuple + 1;", "",
        false⟩ ∧
    Render.managed ⟨"f", ⟨[⟨"cx_parse_tuple", "int"⟩], some ["int"]⟩,
        "return cx_parse_tuple + 1;", "", false⟩ =
      .ok ("static int\n__folded_f(int cx_parse_tuple)\n\x7b\n    return cx_parse_tuple + 1;\n" ++
        "\x7d\n\nstatic cx_object*\nf(cx_object* self, cx_object* args)\n\x7b\n    (void)self;\n" ++
        "    int cx_parse_tuple;\n\n    if (!cx_parse_tuple(args, \"i:f\", &cx_parse_tuple))\n" ++
        "        return NULL;\n\n    return cx_build_value(\"i\", __folded_f(cx_parse_tuple));\n" ++
        "\x7d") ∧
    "cx_parse_tuple" ∈ runtimeCalls :=
  ⟨by decide, by decide +kernel, by decide⟩

end InlineC
