import Mathlib
import InlineC.Proofs.BuildParse
import InlineC.Proofs.Hygiene
import InlineC.Lang.Check.Ops

/-!
# The runtime calls of rendered code

The wrapper of a managed function unpacks its argument tuple with `cx_parse_tuple` and builds
its result with `cx_build_value`, or with `cx_build_tuple` in its packer; a dispatch calls the
captured callback with `cx_call_function` and unpacks the callback's result with
`cx_parse_tuple`. Each is a variadic call. The runtime counts the codes of its format, the
octets before a colon, takes one extra argument per code and accesses it at the C type it
gives the code: a parse stores through a pointer, a build reads a value. C checks none of it.

The main result (`rendered_calls`) is that every such call of a rendering agrees with the
runtime (`TypedCall`): the codes of its format are the codes of the authored types of its
extra arguments, one for each; a parse names its unit after the colon; and the rendering
declares each extra argument with the declaration of its type, which agrees with the runtime's
access for its code (`CodeAgrees`): a parse stores what a store of the declared type stores, and
a build reads the argument at the kind the compiler passes it at, after the default argument
promotions.
-/

namespace InlineC

open Machine Machine.Objects ImgM Lang Lang.Check

/-! ## What the runtime writes through a pointer -/

namespace Machine.Objects.ParseCode

/-- The kind a code stores its item at. -/
def storeKind : ParseCode → NumKind
  | .truth | .byte => .u8
  | .char => .i8
  | .ranged _ _ _ k | .wrapping k => k
  | .single => .f32
  | .double => .f64
  | .string | .object => .u64

/-- Every store a code makes is at its kind. -/
theorem outcome_storeKind {pc : ParseCode} {fname : List UInt8} {o : UInt64} {v : View}
    {k : NumKind} {x : UInt64} (h : pc.outcome fname o v = .ok (k, x)) : k = pc.storeKind := by
  cases pc <;> simp only [outcome] at h <;> (try split_ifs at h) <;> simp_all [storeKind]

end Machine.Objects.ParseCode

/-- A store writes the octets of its kind, whatever its signedness or format. -/
theorem Machine.Memory.store_eq_of_size {k k' : NumKind} (h : k.size = k'.size) (m : Memory)
    (addr v : UInt64) : m.store k addr v = m.store k' addr v := by
  unfold Memory.store
  rw [h]

/-! ## What the runtime reads of an extra argument -/

/-- The type `cx_build_one` takes the extra argument of a code as: `int` for the codes of the
types that promote to it, the unsigned and the 64-bit integers as themselves, a double for both
floating codes, and a string or an object by its address. -/
def ArgCode.readKind : ArgCode → NumKind
  | .truth | .char | .short | .int | .byte | .ushort => .i32
  | .uint => .u32
  | .long | .longLong | .size => .i64
  | .ulong | .ulongLong => .u64
  | .float | .double => .f64
  | .str | .object => .u64

/-- The low octet of an `int` is the low octet of the word that holds it. -/
theorem low_octet_norm_i32 (w : UInt64) :
    UInt8.ofNat (Arith.norm .i32 w).toNat = UInt8.ofNat w.toNat := by
  simp only [Arith.norm]
  apply UInt8.toBitVec_inj.1
  ext i hi
  have hlow : ¬ 64 ≤ i := by omega
  have hshift : 32 + i < 64 := by omega
  simp [BitVec.getLsbD_sshiftRight, hlow, hshift]
  exact (BitVec.getLsbD_eq_getElem (by omega)).symm

/-- `cx_build_one` takes one extra argument, of its code's read kind, and builds from its value
in that kind alone. -/
theorem buildOne_reads (a : ArgCode) :
    ∃ g : UInt64 → VaList → ImgM (UInt64 × VaList), ∀ va,
      buildOne a.letter va = g (Arith.norm a.readKind (va.next a.readKind.isFloat).1)
        (va.next a.readKind.isFloat).2 := by
  cases a
  case truth => exact ⟨fun v rest => do pure (← newBool v, rest), fun va => rfl⟩
  case char =>
    refine ⟨fun v rest => do
      let ch := UInt8.ofNat v.toNat
      pure (← newStrBytes (if ch == 0 then [] else [ch]), rest), fun va => ?_⟩
    dsimp only [ArgCode.readKind]
    rw [low_octet_norm_i32]
    rfl
  case short | int | byte | ushort | uint | long | longLong | size =>
    exact ⟨fun v rest => do pure (← newInt v, rest), fun va => rfl⟩
  case ulong | ulongLong => exact ⟨fun v rest => do pure (← newUint v, rest), fun va => rfl⟩
  case float | double => exact ⟨fun v rest => do pure (← newFloat v, rest), fun va => rfl⟩
  case str =>
    exact ⟨fun p rest => do
      if p == 0 then pure (← globalAddr "cx_none_s", rest) else pure (← newStr p, rest),
      fun va => rfl⟩
  case object =>
    exact ⟨fun o rest => do
      if o == 0 then
        if !(← errorSet) then
          raise "cx_runtime_error_s" (bytes "NULL object passed to cx_build_value")
        pure (0, rest)
      else
        incref o
        pure (o, rest), fun va => rfl⟩

/-! ## The C types of the declarations -/

/-- The compiler's type of a C declaration the type table gives a type with an argument code,
the runtime's object structure being record `obj` of the record table. The runtime's
`cx_ssize_t` is `ptrdiff_t`, a `long`; the compiler keeps no qualifiers, so `const char *` is a
pointer to `char`. -/
def declaredType (obj : Nat) : String → Option CType
  | "_Bool" => some (.int .bool)
  | "char" => some (.int .char)
  | "short" => some (.int .short)
  | "int" => some (.int .int)
  | "long" | "cx_ssize_t" => some (.int .long)
  | "long long" => some (.int .llong)
  | "unsigned char" => some (.int .uchar)
  | "unsigned short" => some (.int .ushort)
  | "unsigned int" => some (.int .uint)
  | "unsigned long" => some (.int .ulong)
  | "unsigned long long" => some (.int .ullong)
  | "float" => some (.float .float)
  | "double" => some (.float .double)
  | "const char *" => some (.ptr (.int .char))
  | "cx_object*" => some (.ptr (.record obj))
  | _ => none

/-- The C type of the values of a code, as the runtime takes them: the type `cx_parse_one`
writes through the pointer of the code. -/
def ArgCode.cType (obj : Nat) : ArgCode → CType
  | .truth => .int .bool
  | .char => .int .char
  | .short => .int .short
  | .int => .int .int
  | .long | .size => .int .long
  | .longLong => .int .llong
  | .byte => .int .uchar
  | .ushort => .int .ushort
  | .uint => .int .uint
  | .ulong => .int .ulong
  | .ulongLong => .int .ullong
  | .float => .float .float
  | .double => .float .double
  | .str => .ptr (.int .char)
  | .object => .ptr (.record obj)

/-- An integer type computes at its own width on every target. -/
theorem Lang.IntKind.size_num (tg : Lang.Target) (k : IntKind) :
    (k.num tg).size = k.size := by
  cases k
  case char =>
    obtain ⟨signed, _⟩ := tg
    cases signed <;> rfl
  all_goals rfl

/-- An integer kind is no float on any target. -/
theorem Lang.IntKind.isFloat_num (tg : Lang.Target) (k : IntKind) :
    (k.num tg).isFloat = false := by
  cases k
  case char =>
    obtain ⟨signed, _⟩ := tg
    cases signed <;> rfl
  all_goals rfl

/-- An integer argument is promoted as an integer. -/
theorem defaultPromote_int (k : IntKind) (st : CheckState) :
    (defaultPromote (.int k)).run st = .ok ((CType.int k).promote st.target, st) := rfl

/-- A float argument is promoted to a double. -/
theorem defaultPromote_float (k : FloatKind) (st : CheckState) :
    (defaultPromote (.float k)).run st =
      .ok (.float (if k = .float then .double else k), st) := by
  cases k <;> rfl

/-- A pointer argument is passed as it is. -/
theorem defaultPromote_ptr (t : CType) (st : CheckState) :
    (defaultPromote (.ptr t)).run st = .ok (.ptr t, st) := rfl

/-! ## A code and a declaration that agree -/

/-- The runtime's access for a code agrees with a C declaration `d` on every target, whatever
record holds the runtime's object structure. Every item a parse by the code stores goes through
its pointer as a store of a `d` would, floating exactly when `d` is. A build by the code takes
one extra argument, at the kind the compiler passes a `d` at after the default argument
promotions, and builds from its value in that kind alone. -/
structure CodeAgrees (a : ArgCode) (d : String) : Prop where
  writes : ∀ obj tg, ∃ t k, declaredType obj d = some t ∧ t.num? tg = some k ∧
    ∀ fname o v s, codeOutcome fname a.letter o v = .ok s →
      s.1.isFloat = k.isFloat ∧ ∀ (m : Memory) addr, m.store s.1 addr s.2 = m.store k addr s.2
  reads : ∀ obj (st : CheckState), ∃ t u k, declaredType obj d = some t ∧
    (defaultPromote t).run st = .ok (u, st) ∧ u.num? st.target = some k ∧
    ∃ g : UInt64 → VaList → ImgM (UInt64 × VaList), ∀ va,
      buildOne a.letter va = g (Arith.norm k (va.next k.isFloat).1) (va.next k.isFloat).2

/-- A code agrees with a declaration of its C type when that type computes at the width and
format of the code's stores, and its promotion at the code's read kind. -/
theorem CodeAgrees.of_kinds {a : ArgCode} {d : String}
    (hd : ∀ obj, declaredType obj d = some (a.cType obj))
    (hwrite : ∀ obj tg, ∃ k, (a.cType obj).num? tg = some k ∧
      k.size = a.parseCode.storeKind.size ∧ k.isFloat = a.parseCode.storeKind.isFloat)
    (hread : ∀ obj st, ∃ u, (defaultPromote (a.cType obj)).run st = .ok (u, st) ∧
      u.num? st.target = some a.readKind) :
    CodeAgrees a d where
  writes obj tg := by
    obtain ⟨k, hk, hsize, hfloat⟩ := hwrite obj tg
    refine ⟨_, k, hd obj, hk, fun fname o v ⟨k', x⟩ hs => ?_⟩
    rw [codeOutcome_letter] at hs
    have hkind := ParseCode.outcome_storeKind hs
    exact ⟨by rw [hkind, hfloat],
      fun m addr => Memory.store_eq_of_size (by rw [hkind, hsize]) m addr x⟩
  reads obj st := by
    obtain ⟨u, hu, hk⟩ := hread obj st
    exact ⟨_, u, a.readKind, hd obj, hu, hk, buildOne_reads a⟩

/-- Every code agrees with a declaration of its C type. -/
theorem codeAgrees_of_cType {a : ArgCode} {d : String}
    (hd : ∀ obj, declaredType obj d = some (a.cType obj)) : CodeAgrees a d := by
  refine CodeAgrees.of_kinds hd (fun obj tg => ?_) (fun obj st => ?_)
  · cases a
    case float | double | str | object => exact ⟨_, rfl, rfl, rfl⟩
    all_goals exact ⟨_, rfl, IntKind.size_num tg _, IntKind.isFloat_num tg _⟩
  · cases a
    case float | double => exact ⟨_, defaultPromote_float _ st, rfl⟩
    case str | object => exact ⟨_, defaultPromote_ptr _ st, rfl⟩
    all_goals exact ⟨_, defaultPromote_int _ st, rfl⟩

/-- A type's code and declaration come from one row of the table. -/
theorem row_of_code {n : String} {a : ArgCode} {d : String} (hc : TypeTable.code n = .ok a)
    (hd : TypeTable.declaration n = .ok d) :
    ∃ e ∈ typeTable, e.code = some a ∧ e.decl = d := by
  unfold TypeTable.code at hc
  unfold TypeTable.declaration at hd
  cases he : TypeTable.lookup? n with
  | none => simp [he] at hd
  | some e =>
    rw [he] at hc hd
    obtain ⟨name, decl, code⟩ := e
    cases code with
    | none => cases hc
    | some c =>
      cases hc
      cases hd
      exact ⟨_, List.mem_of_find?_eq_some he, rfl, rfl⟩

/-- Every row of the table with a code declares its code's C type. -/
theorem declaredType_of_row {e : TypeEntry} (he : e ∈ typeTable) {a : ArgCode}
    (hc : e.code = some a) (obj : Nat) : declaredType obj e.decl = some (a.cType obj) := by
  simp only [typeTable, List.mem_cons, List.not_mem_nil, or_false] at he
  rcases he with rfl | rfl | rfl | rfl | rfl | rfl | rfl | rfl | rfl | rfl | rfl | rfl | rfl |
    rfl | rfl | rfl | rfl | rfl | rfl | rfl | rfl | rfl | rfl
  all_goals cases hc <;> rfl

/-- The codes of some types agree with their declarations, one by one. -/
theorem codes_agree {types : List String} {cs : List ArgCode} {decls : List String}
    (hc : TypeTable.codes types = .ok cs) (hd : TypeTable.declarations types = .ok decls) :
    List.Forall₂ CodeAgrees cs decls := by
  induction types generalizing cs decls with
  | nil =>
    cases hc
    cases hd
    exact .nil
  | cons t ts ih =>
    unfold TypeTable.codes at hc
    unfold TypeTable.declarations at hd
    rw [List.mapM_cons] at hc hd
    obtain ⟨a, ha, hc⟩ := except_bind_eq_ok.1 hc
    obtain ⟨as, has, hc⟩ := except_bind_eq_ok.1 hc
    obtain ⟨d, hd₁, hd⟩ := except_bind_eq_ok.1 hd
    obtain ⟨ds, hds, hd⟩ := except_bind_eq_ok.1 hd
    cases hc
    cases hd
    obtain ⟨e, he, hcode, rfl⟩ := row_of_code ha hd₁
    exact .cons (codeAgrees_of_cType (declaredType_of_row he hcode)) (ih has hds)

/-! ## The octets of a format -/

/-- The loop that lists a byte array's octets adds the rest of them after what it has. -/
theorem ByteArray.toList_loop_eq (bs : ByteArray) (i : Nat) (r : List UInt8) :
    ByteArray.toList.loop bs i r = r.reverse ++ bs.data.toList.drop i := by
  fun_induction ByteArray.toList.loop bs i r with
  | case1 i r hi ih =>
    have hlen : i < bs.data.toList.length := by simpa using hi
    have hget : bs.get! i = bs.data.toList[i] := by
      simp [ByteArray.get!, hi]
    rw [ih, List.reverse_cons, List.append_assoc, List.singleton_append, hget,
      @List.cons_getElem_drop_succ _ bs.data.toList i hlen]
  | case2 i r hi =>
    rw [List.drop_eq_nil_of_le (by simpa using hi), List.append_nil]

/-- A byte array's octets are those of its data. -/
theorem ByteArray.toList_eq_data_toList (bs : ByteArray) : bs.toList = bs.data.toList := by
  rw [ByteArray.toList, ByteArray.toList_loop_eq, List.reverse_nil, List.nil_append,
    List.drop_zero]

/-- The octets of a text are its characters' UTF-8 encodings. -/
theorem bytes_eq_flatMap (s : String) : bytes s = s.toList.flatMap String.utf8EncodeChar := by
  conv_lhs => rw [← @String.ofList_toList s]
  rw [bytes, String.toUTF8_eq_toByteArray, String.toByteArray_ofList,
    ByteArray.toList_eq_data_toList, List.utf8Encode, List.toList_data_toByteArray]

/-- A code's letter is one octet of UTF-8. -/
theorem utf8EncodeChar_toChar (a : ArgCode) : String.utf8EncodeChar a.toChar = [a.letter] := by
  cases a <;> rfl

/-- The octets of two texts joined are theirs joined. -/
theorem bytes_append (s t : String) : bytes (s ++ t) = bytes s ++ bytes t := by
  simp only [bytes_eq_flatMap, String.toList_append, List.flatMap_append]

/-- The octets of a format of codes are the codes' letters. -/
theorem bytes_codes (cs : List ArgCode) :
    bytes (String.ofList (cs.map ArgCode.toChar)) = cs.map ArgCode.letter := by
  rw [bytes_eq_flatMap, String.toList_ofList, List.flatMap_map]
  simp only [utf8EncodeChar_toChar]
  exact List.map_eq_flatMap.symm

/-- No argument code is a colon. -/
theorem colon_not_mem_letters (cs : List ArgCode) : 58 ∉ cs.map ArgCode.letter := by
  simp only [List.mem_map, not_exists, not_and]
  exact fun a _ => ArgCode.letter_ne_colon a

/-- The codes of a format of codes are all its letters. -/
theorem formatCodes_codes (cs : List ArgCode) :
    formatCodes (bytes (String.ofList (cs.map ArgCode.toChar))) = cs.map ArgCode.letter := by
  rw [bytes_codes]
  exact List.takeWhile_eq_self_iff.2 fun c hc => by
    simpa using fun he : c = 58 => colon_not_mem_letters cs (he ▸ hc)

/-- A format of codes, a colon and a name: its codes are the letters before the colon, and its
function name is the name. -/
theorem format_named (cs : List ArgCode) (name : String) :
    formatCodes (bytes (String.ofList (cs.map ArgCode.toChar) ++ ":" ++ name)) =
        cs.map ArgCode.letter ∧
      formatName (bytes (String.ofList (cs.map ArgCode.toChar) ++ ":" ++ name)) = bytes name := by
  have hbytes : bytes (String.ofList (cs.map ArgCode.toChar) ++ ":" ++ name) =
      cs.map ArgCode.letter ++ 58 :: bytes name := by
    have hcolon : bytes ":" = [58] := by
      rw [bytes_eq_flatMap]
      decide
    rw [bytes_append, bytes_append, bytes_codes, hcolon, List.append_assoc, List.singleton_append]
  rw [hbytes]
  exact ⟨formatCodes_append (colon_not_mem_letters cs),
    formatName_append (colon_not_mem_letters cs)⟩

/-! ## Text that stands in a rendering -/

/-- The text `x` stands somewhere in the text `s`. -/
def Occurs (x s : String) : Prop := x.toList <:+: s.toList

/-- Occurring in a text that occurs in another is occurring there. -/
theorem Occurs.trans {x y s : String} (h₁ : Occurs x y) (h₂ : Occurs y s) : Occurs x s :=
  List.IsInfix.trans h₁ h₂

/-- A text occurs in what is made of it with text before and after. -/
theorem occurs_of_eq {x s : String} (pre post : String) (h : s = pre ++ x ++ post) :
    Occurs x s :=
  ⟨pre.toList, post.toList, by rw [h, String.toList_append, String.toList_append]⟩

/-- A text occurs in itself. -/
theorem Occurs.refl (x : String) : Occurs x x := List.infix_refl _

/-- A text occurs in what it is the start of. -/
theorem Occurs.append_right {x s : String} (h : Occurs x s) (t : String) : Occurs x (s ++ t) :=
  h.trans (occurs_of_eq "" t (by simp))

/-- A text occurs in what it is the end of. -/
theorem Occurs.append_left {x s : String} (t : String) (h : Occurs x s) : Occurs x (t ++ s) :=
  h.trans (occurs_of_eq t "" (by simp))

/-- A text stands in any text that pieces are appended to. -/
theorem Occurs.append_pieces {x s : String} (h : Occurs x s) (pieces : List String) :
    Occurs x (pieces.foldl (· ++ ·) s) := by
  induction pieces generalizing s with
  | nil => exact h
  | cons t ts ih => exact ih (h.append_right t)

/-- A member of a list of texts occurs in their join. -/
theorem occurs_join {x : String} {l : List String} (h : x ∈ l) : Occurs x (String.join l) := by
  rw [Occurs, String.toList_join, List.flatMap_def]
  exact List.infix_of_mem_flatten (List.mem_map_of_mem h)

/-- A member of a list of texts occurs in their join by any separator. -/
theorem occurs_intercalate (sep : String) {x : String} {l : List String} (h : x ∈ l) :
    Occurs x (sep.intercalate l) := by
  induction l with
  | nil => cases h
  | cons y ys ih =>
    rcases ys with _ | ⟨z, zs⟩
    · rw [List.mem_singleton.1 h, String.intercalate_singleton]
      exact occurs_of_eq "" "" (by simp)
    · rw [String.intercalate_cons_of_ne_nil (by simp)]
      rcases List.mem_cons.1 h with rfl | hx
      · exact occurs_of_eq "" (sep ++ sep.intercalate (z :: zs)) (by simp [String.append_assoc])
      · exact (ih hx).trans (occurs_of_eq (y ++ sep) "" (by simp [String.append_assoc]))

/-- A function's parameters occur in its text. -/
theorem occurs_function_params (ret name ps body : String) :
    Occurs ps (Render.function ret name ps body) :=
  occurs_of_eq (ret ++ "\n" ++ name ++ "(") (")\n\x7b\n" ++ body ++ "\n\x7d")
    (by simp [Render.function, String.append_assoc])

/-- A function's body occurs in its text. -/
theorem occurs_function_body (ret name ps body : String) :
    Occurs body (Render.function ret name ps body) :=
  occurs_of_eq (ret ++ "\n" ++ name ++ "(" ++ ps ++ ")\n\x7b\n") "\n\x7d"
    (by simp [Render.function, String.append_assoc])

/-- A wrapper's unpacking occurs in its text. -/
theorem occurs_wrapper_unpacked (name unpacked rest : String) :
    Occurs unpacked (Render.wrapper name unpacked rest) :=
  (occurs_of_eq (Render.tab ++ "(void)self;\n") ("\n\n" ++ rest)
    (by simp [String.append_assoc])).trans (occurs_function_body _ _ _ _)

/-- The rest of a wrapper's body occurs in its text. -/
theorem occurs_wrapper_rest (name unpacked rest : String) :
    Occurs rest (Render.wrapper name unpacked rest) :=
  (occurs_of_eq (Render.tab ++ "(void)self;\n" ++ unpacked ++ "\n\n") ""
    (by simp [String.append_assoc])).trans (occurs_function_body _ _ _ _)

/-- Each pair of two lists of one length gives a member of their zip. -/
theorem forall₂_mem_zipWith {α β γ : Type} (g : α → β → γ) {l₁ : List α}
    {l₂ : List β} (h : l₁.length = l₂.length) :
    List.Forall₂ (fun a b => g a b ∈ List.zipWith g l₁ l₂) l₁ l₂ := by
  induction l₁ generalizing l₂ with
  | nil =>
    cases l₂ with
    | nil => exact .nil
    | cons => simp at h
  | cons a as ih =>
    cases l₂ with
    | nil => simp at h
    | cons b bs =>
      refine .cons (by simp) ((ih (by simpa using h)).imp fun x y hxy => ?_)
      exact List.mem_cons_of_mem _ hxy

/-- A parameter list declares each name with its declaration. -/
theorem params_declare {decls names : List String} (h : decls.length = names.length) :
    List.Forall₂ (fun d n => Occurs (Render.declare d n) (Render.params decls names)) decls
      names := by
  unfold Render.params
  cases names with
  | nil =>
    cases decls with
    | nil => exact .nil
    | cons => simp at h
  | cons n ns =>
    rw [if_neg (by simp)]
    exact (forall₂_mem_zipWith _ h).imp fun d n hmem => occurs_intercalate _ hmem

/-! ## Calls that agree with the runtime -/

/-- How the rendered code `s` declares an extra argument `arg` that the runtime accesses as the C
declaration `d`. For a parse, which writes through it: the address of a variable declared `d`,
or a parameter declared a pointer to `d`. For a build, which reads it: a variable declared `d`,
or a call of a function that `s` defines to return `d`. -/
inductive ArgDeclared (s : String) : Bool → String → String → Prop
  | address {d n : String} : Occurs (Render.declare d n) s → ArgDeclared s true ("&" ++ n) d
  | pointer {d n : String} :
      Occurs (Render.declare (TypeTable.pointer d) n) s → ArgDeclared s true n d
  | value {d n : String} : Occurs (Render.declare d n) s → ArgDeclared s false n d
  | result {d fn ps body args : String} : Occurs (Render.function ("static " ++ d) fn ps body) s →
      ArgDeclared s false (fn ++ "(" ++ args ++ ")") d

/-- An argument declared in a text is declared in every text it occurs in. -/
theorem ArgDeclared.mono {s s' : String} (hs : Occurs s s') {w : Bool} {arg d : String}
    (h : ArgDeclared s w arg d) : ArgDeclared s' w arg d := by
  cases h with
  | address h => exact .address (h.trans hs)
  | pointer h => exact .pointer (h.trans hs)
  | value h => exact .value (h.trans hs)
  | result h => exact .result (h.trans hs)

/-- A call of a variadic runtime function in the rendered code `s` of the unit `unit` agrees with
the runtime, for the codes `cs` and the declarations `decls` of its extra arguments' authored
types: the call stands in `s`; the codes the runtime counts in its format are the types'
codes, one for each extra argument; a parse's format names the unit after its colon; each code
agrees with its declaration; and `s` declares each extra argument with its declaration. -/
structure CallAgrees (s unit : String) (c : Render.VarCall) (cs : List ArgCode)
    (decls : List String) : Prop where
  occurs : Occurs c.text s
  codes : formatCodes (bytes c.format) = cs.map ArgCode.letter
  count : (formatCodes (bytes c.format)).length = c.args.length
  name : c.fn = "cx_parse_tuple" → formatName (bytes c.format) = bytes unit
  runtime : List.Forall₂ CodeAgrees cs decls
  declared : List.Forall₂ (ArgDeclared s (c.fn == "cx_parse_tuple")) c.args decls

/-- A call of the rendered code `s` of the unit `unit`, whose extra arguments have the authored
types `types`, agrees with the runtime. -/
def TypedCall (s unit : String) (types : List String) (c : Render.VarCall) : Prop :=
  ∃ cs decls, TypeTable.codes types = .ok cs ∧ TypeTable.declarations types = .ok decls ∧
    CallAgrees s unit c cs decls

/-- A typed call in a text is typed in every text it occurs in. -/
theorem TypedCall.mono {s s' unit : String} (hs : Occurs s s') {types : List String}
    {c : Render.VarCall} (h : TypedCall s unit types c) : TypedCall s' unit types c := by
  obtain ⟨cs, decls, hc, hd, hagree⟩ := h
  exact ⟨cs, decls, hc, hd, { hagree with
    occurs := hagree.occurs.trans hs
    declared := hagree.declared.imp fun _ _ h => h.mono hs }⟩

/-- The codes of some types, one per type. -/
theorem codes_length {types : List String} {cs : List ArgCode}
    (h : TypeTable.codes types = .ok cs) : cs.length = types.length := by
  induction types generalizing cs with
  | nil =>
    cases h
    rfl
  | cons t ts ih =>
    unfold TypeTable.codes at h
    rw [List.mapM_cons] at h
    obtain ⟨a, -, h⟩ := except_bind_eq_ok.1 h
    obtain ⟨as, has, h⟩ := except_bind_eq_ok.1 h
    cases h
    simp [ih has]

/-- A parse by the codes of some types, naming its unit, agrees with the runtime when it stands
in `s` and `s` declares each of its extra arguments as what the runtime writes through it. -/
theorem parseCall_typed {s unit source : String} {types : List String} {cs : List ArgCode}
    {decls args : List String} (hc : TypeTable.codes types = .ok cs)
    (hd : TypeTable.declarations types = .ok decls)
    (hocc : Occurs
      (Render.parseCall source (String.ofList (cs.map ArgCode.toChar)) unit args).text s)
    (hargs : List.Forall₂ (ArgDeclared s true) args decls) :
    TypedCall s unit types
      (Render.parseCall source (String.ofList (cs.map ArgCode.toChar)) unit args) := by
  obtain ⟨hcodes, hname⟩ := format_named cs unit
  have hlen : cs.length = args.length := by
    rw [codes_length hc, ← declarations_length hd, hargs.length_eq]
  exact ⟨cs, decls, hc, hd, hocc, hcodes,
    by dsimp only [Render.parseCall]; rw [hcodes, List.length_map, hlen], fun _ => hname,
    codes_agree hc hd, hargs⟩

/-- A build or a call by the codes of some types agrees with the runtime when it stands in `s`
and `s` declares each of its extra arguments as what the runtime reads. -/
theorem buildCall_typed {s unit fn : String} (hfn : fn ≠ "cx_parse_tuple") {fixed : List String}
    {types : List String} {cs : List ArgCode} {decls args : List String}
    (hc : TypeTable.codes types = .ok cs) (hd : TypeTable.declarations types = .ok decls)
    (hocc : Occurs
      (⟨fn, fixed, String.ofList (cs.map ArgCode.toChar), args⟩ : Render.VarCall).text s)
    (hargs : List.Forall₂ (ArgDeclared s false) args decls) :
    TypedCall s unit types ⟨fn, fixed, String.ofList (cs.map ArgCode.toChar), args⟩ := by
  have hcodes := formatCodes_codes cs
  have hlen : cs.length = args.length := by
    rw [codes_length hc, ← declarations_length hd, hargs.length_eq]
  have hw : (fn == "cx_parse_tuple") = false := by simpa using hfn
  exact ⟨cs, decls, hc, hd, hocc, hcodes, by rw [hcodes, List.length_map, hlen],
    fun h => absurd h hfn, codes_agree hc hd, by rw [hw]; exact hargs⟩

/-! ## The calls of each rendering -/

/-- A line of a block of declarations holds the text that starts it. -/
theorem occurs_line {x y : String} {lines : List String} (h : x ++ y ∈ lines) :
    Occurs x (String.join (lines.map (Render.tab ++ · ++ ";\n"))) :=
  ((((Occurs.refl x).append_right y).append_left Render.tab).append_right ";\n").trans
    (occurs_join (List.mem_map_of_mem h))

/-- A rendered format is the characters of the types' codes. -/
theorem formatOf_eq {fn : String} {types : List String} {fmt : String}
    (h : Render.formatOf fn types = .ok fmt) :
    ∃ cs, TypeTable.codes types = .ok cs ∧ fmt = String.ofList (cs.map ArgCode.toChar) := by
  unfold Render.formatOf TypeTable.formatString at h
  cases hc : TypeTable.codes types with
  | error e => simp [hc, Except.mapError, Except.map] at h
  | ok cs =>
    simp only [hc, Except.map, Except.mapError, Except.ok.injEq] at h
    exact ⟨cs, rfl, h.symm⟩

/-- A signature has a type for each parameter name. -/
theorem paramTypes_length (sig : Signature) : sig.paramTypes.length = sig.names.length := by
  simp [Signature.paramTypes, Signature.names]

/-- The unpacking of a managed function parses the argument tuple by its parameter types'
codes, naming the function, into the addresses of locals declared with those types'
declarations. -/
theorem unpack_typed {f : ManagedFunction} {s : String} (h : Render.unpack f = .ok s) :
    ∃ c, c.fn = "cx_parse_tuple" ∧ TypedCall s f.name f.sig.paramTypes c := by
  unfold Render.unpack at h
  obtain ⟨decls, hdecls, h⟩ := except_bind_eq_ok.1 h
  obtain ⟨fmt, hfmt, h⟩ := except_bind_eq_ok.1 h
  obtain ⟨cs, hc, rfl⟩ := formatOf_eq hfmt
  have hd := declsOf_ok hdecls
  have hlen : decls.length = f.sig.names.length := by
    rw [declarations_length hd, paramTypes_length]
  dsimp only at h
  have hs := Except.ok.inj h
  refine ⟨Render.parseCall "args" _ f.name (f.sig.names.map ("&" ++ ·)), rfl,
    parseCall_typed hc hd ?_ ?_⟩
  · -- the call is the test of its line, and the return of `NULL` follows
    rw [← hs]
    exact ((Occurs.refl _).append_left _).append_pieces [_, _, _, _]
  · -- each local is declared on a line of its own, before the call
    have hlocals : List.Forall₂ (fun d n => Occurs (Render.declare d n) s) decls f.sig.names := by
      refine (forall₂_mem_zipWith (fun d n => Render.declare d n ++
        (if d.endsWith "*" then " = NULL" else "")) hlen).imp fun d n hmem => ?_
      rw [← hs]
      exact (occurs_line hmem).trans ((Occurs.refl _).append_pieces [_, _, _, _, _, _, _, _])
    exact List.forall₂_map_left_iff.2 (hlocals.imp fun d n h => ArgDeclared.address h).flip

/-- Names drawn for the results, one per result. -/
theorem generated_length {n : Nat} {exclude outs : List String}
    (h : (Identifier.generate n exclude).mapError RenderError.names = .ok outs) :
    outs.length = n := by
  cases hg : Identifier.generate n exclude with
  | error e => simp [hg, Except.mapError] at h
  | ok o =>
    rw [hg] at h
    cases h
    simpa using (generate_ok hg).1

/-- The tail of a wrapper whose one result is not an object builds what the folded body returns
by the result type's code. -/
theorem resultTail_value {f : ManagedFunction} {r retDecl tail : String}
    (hr : TypeTable.isObject r = false) (h : Render.resultTail f [r] = .ok (retDecl, tail)) :
    ∃ cs, TypeTable.codes [r] = .ok cs ∧ TypeTable.declarations [r] = .ok [retDecl] ∧
      Occurs (⟨"cx_build_value", [], String.ofList (cs.map ArgCode.toChar),
        ["__folded_" ++ f.name ++ "(" ++ ", ".intercalate f.sig.names ++ ")"]⟩ :
          Render.VarCall).text tail := by
  unfold Render.resultTail at h
  dsimp only at h
  rw [if_neg (by simp [hr])] at h
  obtain ⟨decls, hdecls, h⟩ := except_bind_eq_ok.1 h
  obtain ⟨fmt, hfmt, h⟩ := except_bind_eq_ok.1 h
  obtain ⟨cs, hc, rfl⟩ := formatOf_eq hfmt
  have hd := declsOf_ok hdecls
  obtain ⟨dr, rfl⟩ := List.length_eq_one_iff.1 (declarations_length hd)
  obtain ⟨rfl, rfl⟩ := Prod.mk.inj (Except.ok.inj h)
  exact ⟨cs, hc, hd, ((Occurs.refl _).append_left _).append_right _⟩

/-- With at most one result, the rendering holds the unpacking in its wrapper, and a result
that is not an object is built by its type from what the folded body returns. -/
theorem managedSingle_typed {f : ManagedFunction} {unpacked s : String} {returns : List String}
    (h : Render.managedSingle f unpacked returns = .ok s) :
    Occurs unpacked s ∧ ∀ r, returns = [r] → TypeTable.isObject r = false →
      ∃ c, c.fn = "cx_build_value" ∧ TypedCall s f.name [r] c := by
  unfold Render.managedSingle at h
  obtain ⟨⟨retDecl, tail⟩, htail, h⟩ := except_bind_eq_ok.1 h
  obtain ⟨decls, -, h⟩ := except_bind_eq_ok.1 h
  have hs := Except.ok.inj h
  refine ⟨by rw [← hs]; exact (occurs_wrapper_unpacked _ _ _).append_left _, ?_⟩
  rintro r rfl hr
  obtain ⟨cs, hc, hd, hocc⟩ := resultTail_value hr htail
  refine ⟨⟨"cx_build_value", [], _,
    ["__folded_" ++ f.name ++ "(" ++ ", ".intercalate f.sig.names ++ ")"]⟩, rfl,
    buildCall_typed (by decide) hc hd ?_ ?_⟩
  · rw [← hs]
    exact hocc.trans ((occurs_wrapper_rest _ _ _).append_left _)
  · -- the one argument is the call of the folded body, defined first to return the result
    rw [← hs]
    exact .cons (.result ((Occurs.refl _).append_pieces [_, _])) .nil

/-- With several results, the rendering holds the unpacking in its wrapper, and its packer
builds the tuple of its parameters by the result types. -/
theorem managedMulti_typed {f : ManagedFunction} {unpacked s : String} {returns : List String}
    (h : Render.managedMulti f unpacked returns = .ok s) :
    Occurs unpacked s ∧ ∃ c, c.fn = "cx_build_tuple" ∧ TypedCall s f.name returns c := by
  unfold Render.managedMulti at h
  obtain ⟨outs, houts, h⟩ := except_bind_eq_ok.1 h
  obtain ⟨decls, hdecls, h⟩ := except_bind_eq_ok.1 h
  obtain ⟨fmt, hfmt, h⟩ := except_bind_eq_ok.1 h
  obtain ⟨cs, hc, rfl⟩ := formatOf_eq hfmt
  have hd := declsOf_ok hdecls
  have hlen : decls.length = outs.length := by
    rw [declarations_length hd, generated_length houts]
  dsimp only at h
  have hs := Except.ok.inj h
  refine ⟨by rw [← hs]; exact (occurs_wrapper_unpacked _ _ _).append_left _,
    ⟨"cx_build_tuple", [], _, outs⟩, rfl, buildCall_typed (by decide) hc hd ?_ ?_⟩
  · rw [← hs]
    exact ((((Occurs.refl _).append_left _).append_right _).trans
      (occurs_function_body _ _ _ _)).append_pieces [_, _]
  · -- the packer's parameters are the results' names, declared with their declarations
    have hparams : List.Forall₂ (fun d n => Occurs (Render.declare d n) s) decls outs := by
      refine (params_declare hlen).imp fun d n hdecl => ?_
      rw [← hs]
      exact (hdecl.trans (occurs_function_params _ _ _ _)).append_pieces [_, _]
    exact (hparams.imp fun d n h => ArgDeclared.value h).flip

/-- A dispatch calls the captured callback with its parameters by their types, and parses the
callback's result into its out-parameters, declared as pointers to the result types'
declarations, by the result types, naming itself. -/
theorem dispatch_typed {d : Dispatch} {s : String} (h : Render.dispatch d = .ok s) :
    (∃ c, c.fn = "cx_call_function" ∧ TypedCall s d.name d.sig.paramTypes c) ∧
      ∃ c, c.fn = "cx_parse_tuple" ∧ TypedCall s d.name d.returns c := by
  unfold Render.dispatch at h
  obtain ⟨outs, houts, h⟩ := except_bind_eq_ok.1 h
  obtain ⟨inDecls, hin, h⟩ := except_bind_eq_ok.1 h
  obtain ⟨outDecls, hout, h⟩ := except_bind_eq_ok.1 h
  obtain ⟨inFmt, hinFmt, h⟩ := except_bind_eq_ok.1 h
  obtain ⟨outFmt, houtFmt, h⟩ := except_bind_eq_ok.1 h
  obtain ⟨ics, hic, rfl⟩ := formatOf_eq hinFmt
  obtain ⟨ocs, hoc, rfl⟩ := formatOf_eq houtFmt
  have hind := declsOf_ok hin
  have houtd := declsOf_ok hout
  have hinlen : inDecls.length = d.sig.names.length := by
    rw [declarations_length hind, paramTypes_length]
  have houtlen : (outDecls.map TypeTable.pointer).length = outs.length := by
    rw [List.length_map, declarations_length houtd, generated_length houts]
  dsimp only at h
  have hs := Except.ok.inj h
  -- the parameters are the dispatch's own, then one pointer per result
  have hparams : List.Forall₂ (fun d n => Occurs (Render.declare d n) s)
      (inDecls ++ outDecls.map TypeTable.pointer) (d.sig.names ++ outs) := by
    refine (params_declare (by simp only [List.length_append, hinlen, houtlen])).imp
      fun d n hdecl => ?_
    rw [← hs]
    exact hdecl.trans (occurs_function_params _ _ _ _)
  have hinP := List.forall₂_take_append _ _ _ hparams
  have houtP := List.forall₂_drop_append _ _ _ hparams
  rw [List.take_left' hinlen] at hinP
  rw [List.drop_left' hinlen, List.forall₂_map_left_iff] at houtP
  refine ⟨⟨⟨"cx_call_function", [d.capture.slot], _, d.sig.names⟩, rfl,
    buildCall_typed (by decide) hic hind ?_ (hinP.imp fun d n h => ArgDeclared.value h).flip⟩,
    Render.parseCall "result" _ d.name outs, rfl,
    parseCall_typed hoc houtd ?_ (houtP.imp fun d n h => ArgDeclared.pointer h).flip⟩
  · -- the call is the test of the second line of the body; the parse and the rest follow
    rw [← hs]
    exact (((Occurs.refl _).append_left _).append_pieces [_, _, _, _, _, _, _]).trans
      (occurs_function_body _ _ _ _)
  · -- the parse is the test of the third line; the release and the return follow
    rw [← hs]
    exact (((Occurs.refl _).append_left _).append_pieces [_, _, _, _]).trans
      (occurs_function_body _ _ _ _)

/-- A managed function that is not raw renders its unpacking, then the conversion of at most one
result, or a packer for several. -/
theorem managed_split {f : ManagedFunction} {s : String} (hraw : f.raw = false)
    (h : Render.managed f = .ok s) :
    ∃ unpacked, Render.unpack f = .ok unpacked ∧
      ((f.sig.returnsOr "object").length ≤ 1 →
        Render.managedSingle f unpacked (f.sig.returnsOr "object") = .ok s) ∧
      (1 < (f.sig.returnsOr "object").length →
        Render.managedMulti f unpacked (f.sig.returnsOr "object") = .ok s) := by
  unfold Render.managed at h
  rw [if_neg (by simp [hraw])] at h
  obtain ⟨unpacked, hunpack, h⟩ := except_bind_eq_ok.1 h
  dsimp only at h
  refine ⟨unpacked, hunpack, fun hone => ?_, fun hmany => ?_⟩
  · rwa [if_neg (by omega)] at h
  · rwa [if_pos hmany] at h

/-- The variadic runtime calls of a managed function that is not raw: the unpacking of its
arguments, and the build of one result that is not an object or the packing of several. -/
theorem managed_typed {f : ManagedFunction} {s : String} (hraw : f.raw = false)
    (h : Render.managed f = .ok s) :
    (∃ c, c.fn = "cx_parse_tuple" ∧ TypedCall s f.name f.sig.paramTypes c) ∧
      (∀ r, f.sig.returnsOr "object" = [r] → TypeTable.isObject r = false →
        ∃ c, c.fn = "cx_build_value" ∧ TypedCall s f.name [r] c) ∧
      (1 < (f.sig.returnsOr "object").length →
        ∃ c, c.fn = "cx_build_tuple" ∧ TypedCall s f.name (f.sig.returnsOr "object") c) := by
  obtain ⟨unpacked, hunpack, hone, hmany⟩ := managed_split hraw h
  obtain ⟨c, hfn, hc⟩ := unpack_typed hunpack
  by_cases hlen : (f.sig.returnsOr "object").length ≤ 1
  · obtain ⟨hocc, hvalue⟩ := managedSingle_typed (hone hlen)
    exact ⟨⟨c, hfn, hc.mono hocc⟩, hvalue, fun h => absurd h (by omega)⟩
  · obtain ⟨hocc, hpack⟩ := managedMulti_typed (hmany (by omega))
    refine ⟨⟨c, hfn, hc.mono hocc⟩, fun r hr _ => absurd hr ?_, fun _ => hpack⟩
    intro hr
    rw [hr] at hlen
    simp at hlen

/-- What the variadic runtime calls of rendered declarations satisfy. -/
structure RenderedCalls : Prop where
  /-- A managed function that is not raw unpacks its argument tuple by its parameter types. -/
  unpack : ∀ {f : ManagedFunction} {s : String}, f.raw = false → Render.managed f = .ok s →
    ∃ c, c.fn = "cx_parse_tuple" ∧ TypedCall s f.name f.sig.paramTypes c
  /-- It builds its one result, when that is not an object, by the result's type. -/
  value : ∀ {f : ManagedFunction} {s r : String}, f.raw = false → Render.managed f = .ok s →
    f.sig.returnsOr "object" = [r] → TypeTable.isObject r = false →
    ∃ c, c.fn = "cx_build_value" ∧ TypedCall s f.name [r] c
  /-- It packs several results into a tuple by their types. -/
  pack : ∀ {f : ManagedFunction} {s : String}, f.raw = false → Render.managed f = .ok s →
    1 < (f.sig.returnsOr "object").length →
    ∃ c, c.fn = "cx_build_tuple" ∧ TypedCall s f.name (f.sig.returnsOr "object") c
  /-- A dispatch calls the captured callback with its parameters by their types. -/
  call : ∀ {d : Dispatch} {s : String}, Render.dispatch d = .ok s →
    ∃ c, c.fn = "cx_call_function" ∧ TypedCall s d.name d.sig.paramTypes c
  /-- It parses the callback's result into its out-parameters by the result types. -/
  result : ∀ {d : Dispatch} {s : String}, Render.dispatch d = .ok s →
    ∃ c, c.fn = "cx_parse_tuple" ∧ TypedCall s d.name d.returns c

/-- Every runtime call a rendered function makes passes its arguments at the types its format says.
-/
theorem rendered_calls : RenderedCalls where
  unpack hraw h := (managed_typed hraw h).1
  value hraw h hr hobj := (managed_typed hraw h).2.1 _ hr hobj
  pack hraw h hmany := (managed_typed hraw h).2.2 hmany
  call h := (dispatch_typed h).1
  result h := (dispatch_typed h).2

/-- The dispatch `int m(int x, double *a, const char **b)` of a callback captured from module
`cb`: it calls the callback with `x` by the code `i`, and parses the callback's result into `a`
and `b` by the codes `ds`, naming itself. -/
theorem rendered_calls_dispatch :
    ∃ s, Render.dispatch ⟨⟨[⟨"x", "int"⟩], some ["double", "str"]⟩, ⟨"m", "cb"⟩⟩ = .ok s ∧
      (∃ c, c.fn = "cx_call_function" ∧ TypedCall s "m" ["int"] c) ∧
      ∃ c, c.fn = "cx_parse_tuple" ∧ TypedCall s "m" ["double", "str"] c := by
  have hs : Render.dispatch ⟨⟨[⟨"x", "int"⟩], some ["double", "str"]⟩, ⟨"m", "cb"⟩⟩ =
      .ok ("int\nm(int x, double*a, const char **b)\n\x7b\n    cx_object* result = NULL;\n\n" ++
        "    if (!__captured_m_from_cb)\n        return 1;\n\n" ++
        "    if (!(result = cx_call_function(__captured_m_from_cb, \"i\", x)))\n" ++
        "        return 2;\n\n    if (!cx_parse_tuple(result, \"ds:m\", a, b)) \x7b\n" ++
        "        cx_decref(result);\n        return 3;\n    \x7d\n\n    return 0;\n\x7d") := by
    decide +kernel
  exact ⟨_, hs, rendered_calls.call hs, rendered_calls.result hs⟩

end InlineC
