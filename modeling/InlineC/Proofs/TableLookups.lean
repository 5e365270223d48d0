import Mathlib
import InlineC.Proofs.MethodTables
import InlineC.Proofs.Proxies

/-!
# Looking methods up in a loaded table

`Driver.proxy_resolution` asks of a driver that looking a name up in an artifact reads the
method table the artifact holds (`TableLaws.lists`). The toolchain's artifact holds a table when
its loaded image lays out the one the unit's text renders (`HoldsTable`): the module's definition
points at an array of entries, one per exported declaration in order, each naming its
declaration, with a function, the flags `CX_METH_VARARGS` and its doc literal laid out as string
literals are, and a null name ends the array.

`cx_module_find` walks that array to the first entry of the name asked for, or to its end
(`scan_found`, `scan_absent`), comparing names octet by octet. Different names have different
UTF-8 forms (`Utf8.ofString_injective`), so the walk stops at the entry `List.find?` finds in
`Assembly.methods`. From that entry `cx_module_lookup`, `cx_module_method_flags` and
`cx_module_method_doc` read the function, the flags and the doc, which is the doc literal's
value as the compiler read it, up to its first zero octet (`holdsTable_lists`).

`ProxyLaws` joins the levels: over every run, against every driver that keeps the laws, a
proxy answers from the installed artifact's table, and the toolchain's lookups keep the table
law for the tables its images lay out. `proxy_laws_run` runs the first on the scripted driver
and the second on a loaded module whose one method has a NUL in its doc.
-/

namespace InlineC.Utf8

/-! ## Different texts, different octets -/

/-- A bit pattern with `k` low zero bits and a value below `2 ^ k` combine by addition. -/
theorem or_eq_add {a b : Nat} (k : Nat) (ha : a % 2 ^ k = 0) (hb : b < 2 ^ k) :
    a ||| b = a + b := by
  have h := Nat.two_pow_add_eq_or_of_lt hb (a / 2 ^ k)
  rw [Nat.mul_div_cancel' (Nat.dvd_of_mod_eq_zero ha)] at h
  rw [← h, Nat.add_comm]

/-- The octet of a marker with its low `k` bits clear and a payload that fits in them. -/
theorem ofNat_or {a x y : Nat} (k : Nat) (ha : a % 2 ^ k = 0) (hx : x < 2 ^ k)
    (hy : x + a = y) : UInt8.ofNat (a ||| x) = UInt8.ofNat y := by
  rw [or_eq_add k ha hx, Nat.add_comm, hy]

/-- The octets of a character are those the string library encodes it to. -/
theorem encodeChar_eq (c : Char) : encodeChar c = String.utf8EncodeChar c := by
  have hmax : c.toNat < 0x110000 := by
    have h := c.valid
    simp only [UInt32.isValidChar, Nat.isValidChar] at h
    show c.val.toNat < _
    omega
  simp only [encodeChar, String.utf8EncodeChar, Char.toNat_val, Nat.shiftRight_eq_div_pow,
    show (0x3F : Nat) = 2 ^ 6 - 1 from rfl, Nat.and_two_pow_sub_one_eq_mod, Nat.toUInt8_eq]
  split_ifs <;> try omega
  all_goals simp only [List.cons.injEq, and_true]
  -- each octet is its marker plus a payload below the marker's low bits
  · exact ⟨ofNat_or 5 rfl (by omega) (by omega), ofNat_or 6 rfl (by omega) (by omega)⟩
  · exact ⟨ofNat_or 4 rfl (by omega) (by omega), ofNat_or 6 rfl (by omega) (by omega),
      ofNat_or 6 rfl (by omega) (by omega)⟩
  · exact ⟨ofNat_or 3 rfl (by omega) (by omega), ofNat_or 6 rfl (by omega) (by omega),
      ofNat_or 6 rfl (by omega) (by omega), ofNat_or 6 rfl (by omega) (by omega)⟩

/-- Different texts have different UTF-8 forms. -/
theorem ofString_injective : Function.Injective ofString := by
  intro s t h
  rw [ofString, ofString, encode, encode, funext encodeChar_eq] at h
  have hb : s.toByteArray = t.toByteArray := by
    rw [← String.ofList_toList (s := s), ← String.ofList_toList (s := t), String.toByteArray_ofList,
      String.toByteArray_ofList, List.utf8Encode, List.utf8Encode, h]
  exact String.toByteArray_inj.1 hb

end InlineC.Utf8

namespace InlineC.Machine.Objects

open ImgM Memory

/-! ## Walking the table -/

/-- The entries of a method table from `entry` on, for the doc literals `lits`: each holds a
function, the flags `CX_METH_VARARGS`, and a doc pointer at which its literal is laid out as a
compiler of dialect `m` for target `t` builds it. -/
def EntriesAt (m : Lang.LexMode) (t : Lang.Target) (mem : Memory) (entry : UInt64) :
    List String → Prop
  | [] => True
  | lit :: lits => (∃ fn, fn ≠ 0 ∧ mem.load .u64 (entry + ModuleLayout.methodFn) = .ok fn) ∧
      mem.load .i32 (entry + ModuleLayout.methodFlags) = .ok 1 ∧
      (∃ p, mem.load .u64 (entry + ModuleLayout.methodDoc) = .ok p ∧ DocLaidOut m t mem p lit) ∧
      EntriesAt m t mem (entry + ModuleLayout.methodSize) lits

/-- The entries from that of a literal on, past the entries before it. -/
theorem EntriesAt.drop {m : Lang.LexMode} {t : Lang.Target} {mem : Memory} {lit : String}
    {post : List String} : ∀ {pre : List String} {entry : UInt64},
      EntriesAt m t mem entry (pre ++ lit :: post) →
      EntriesAt m t mem (entryAt entry pre.length) (lit :: post) := by
  intro pre
  induction pre with
  | nil =>
    intro entry h
    rwa [List.length_nil, entryAt_zero]
  | cons l pre ih =>
    rintro entry ⟨-, -, -, h⟩
    rw [List.length_cons, ← entryAt_next]
    exact ih h

variable {img : Image} {name : List UInt8}

/-- The walk through a table without a name reaches the null name that ends it, and answers
null. -/
theorem scan_absent : ∀ {names : List (List UInt8)} {entry : UInt64} {fuel : Nat},
    NamesAt img.mem entry names → name ∉ names → names.length < fuel →
    (moduleFind.scan name fuel entry).run img = .ok (0, img) := by
  intro names
  induction names with
  | nil =>
    rintro entry (_ | fuel) hend - hlen
    · exact absurd hlen (by simp)
    unfold moduleFind.scan load64
    rw [run_bind_of_ok (load_run hend), if_pos (by simp)]
    rfl
  | cons n names ih =>
    rintro entry (_ | fuel) ⟨⟨p, hp, hload, hname⟩, hrest⟩ habs hlen
    · exact absurd hlen (by simp)
    have hn : n ≠ name := fun h => habs (h ▸ List.mem_cons_self ..)
    unfold moduleFind.scan load64
    rw [run_bind_of_ok (load_run hload), if_neg (by simpa using hp),
      run_bind_of_ok (Host.cString_run hname), if_neg (by simpa using hn),
      ih hrest (fun h => habs (List.mem_cons_of_mem _ h)) (by simp at hlen; omega)]

variable {m tbl fn : UInt64} {pre post names : List (List UInt8)}

/-- `cx_module_find` answers null for a name its module's table lacks. -/
theorem moduleFind_absent (ht : TableAt img.mem m tbl names) (habs : name ∉ names) :
    (moduleFind m name).run img = .ok (0, img) := by
  obtain ⟨d, hd, hm, hdm⟩ := ht.defn
  unfold moduleFind load64
  rw [if_neg (by simpa using ht.module), run_bind_of_ok (load_run hm), if_neg (by simpa using hd),
    run_bind_of_ok (load_run hdm), if_neg (by simpa using ht.table)]
  exact scan_absent ht.listed habs (by have := ht.bounded; omega)

/-- `cx_module_lookup` answers null for a name its module's table lacks. -/
theorem moduleLookup_absent (ht : TableAt img.mem m tbl names) (habs : name ∉ names) :
    (moduleLookup m name).run img = .ok (0, img) := by
  unfold moduleLookup
  rw [run_bind_of_ok (moduleFind_absent ht habs), if_pos (by simp)]
  rfl

/-- `cx_module_lookup` answers the function of the first entry of a name. -/
theorem moduleLookup_found (ht : TableAt img.mem m tbl (pre ++ name :: post)) (hpre : name ∉ pre)
    (hfn : img.mem.load .u64 (entryAt tbl pre.length + ModuleLayout.methodFn) = .ok fn) :
    (moduleLookup m name).run img = .ok (fn, img) := by
  unfold moduleLookup load64
  rw [run_bind_of_ok (moduleFind_found ht hpre), if_neg (by simpa using ht.entry_ne_zero)]
  exact load_run hfn

/-- `cx_module_method_flags` answers the flags of the first entry of a name. -/
theorem moduleMethodFlags_found {flags : UInt64} (ht : TableAt img.mem m tbl (pre ++ name :: post))
    (hpre : name ∉ pre)
    (hflags : img.mem.load .i32 (entryAt tbl pre.length + ModuleLayout.methodFlags) = .ok flags) :
    (moduleMethodFlags m name).run img = .ok (flags, img) := by
  unfold moduleMethodFlags load32
  rw [run_bind_of_ok (moduleFind_found ht hpre), if_neg (by simpa using ht.entry_ne_zero)]
  exact load_run hflags

end InlineC.Machine.Objects

namespace InlineC.Assembly

/-- The entry `List.find?` finds for a name in a method table is that of the first declaration
of the name. -/
theorem find_methodOf_eq_some {o : Lang.Options} {ds : List Declaration} {n : String}
    {mth : Method} (h : (ds.map (methodOf o)).find? (·.name == n) = some mth) :
    ∃ pre d post, ds = pre ++ d :: post ∧ d.name = n ∧ (∀ x ∈ pre, x.name ≠ n) ∧
      mth = methodOf o d := by
  rw [List.find?_map] at h
  obtain ⟨d, hd, rfl⟩ := Option.map_eq_some_iff.1 h
  obtain ⟨hname, pre, post, hsplit, hpre⟩ := List.find?_eq_some_iff_append.1 hd
  refine ⟨pre, d, post, hsplit, by simpa [methodOf] using hname, fun x hx => ?_, rfl⟩
  simpa [methodOf] using hpre x hx

end InlineC.Assembly

namespace InlineC.Host

open Machine Machine.Objects
open Text.CLiteral (quote)

/-! ## The toolchain's lookups -/

/-- The loaded library `i` of world `w` holds the method table rendered for `a`, as a compiler
of options `o` builds it: the library is open, its image's empty string reads as nothing, and its
module lays out one entry per exported declaration, in order, named by the declaration, with its
doc literal laid out. -/
def HoldsTable (w : World HostState) (i : Nat) (o : Lang.Options) (a : Assembly) : Prop :=
  ∃ l img tbl, w.host.libs[i]? = some l ∧ l.closed = false ∧ w.images[l.image]? = some img ∧
    img.mem.cString img.empty = .ok [] ∧
    TableAt img.mem l.module tbl (a.exported.map fun d => Utf8.ofString d.name) ∧
    EntriesAt o.lexMode (Assembly.compileTarget o) img.mem tbl (a.exported.map fun d => quote d.doc)

variable {w : World HostState} {i : Nat} {l : Library} {img : Image} {n : String}

/-- The host's lookup of a method of an open library answers what `cx_module_lookup` does, no
method for null. -/
theorem lookupMethod_run {r : UInt64} (hl : w.host.libs[i]? = some l) (hopen : l.closed = false)
    (himg : w.images[l.image]? = some img)
    (h : (Objects.moduleLookup l.module (Utf8.ofString n)).run img = .ok (r, img)) :
    (lookupMethod i n).run w = .ok (if r == 0 then none else some r, w) := by
  unfold lookupMethod
  rw [run_bind_of_ok (getLib_run hl), if_neg (by simp [hopen]), run_bind_of_ok (onImage_read himg h)]
  rfl

/-- The host's flags of a method of an open library are what `cx_module_method_flags` answers,
read as a signed word. -/
theorem methodFlags_run {r : UInt64} (hl : w.host.libs[i]? = some l) (hopen : l.closed = false)
    (himg : w.images[l.image]? = some img)
    (h : (Objects.moduleMethodFlags l.module (Utf8.ofString n)).run img = .ok (r, img)) :
    (methodFlags i n).run w = .ok (r.toInt64.toInt, w) := by
  unfold methodFlags
  rw [run_bind_of_ok (getLib_run hl), if_neg (by simp [hopen]), run_bind_of_ok (onImage_read himg h)]
  rfl

/-- The names of declarations none of which has the name `n` lack its octets. -/
theorem ofString_not_mem {ds : List Declaration} (h : ∀ d ∈ ds, d.name ≠ n) :
    Utf8.ofString n ∉ ds.map fun d => Utf8.ofString d.name := by
  rw [List.mem_map]
  rintro ⟨d, hd, hname⟩
  exact h d hd (Utf8.ofString_injective hname)

/-- An artifact whose image lays out the table rendered for `a` lists `a`'s methods as compiled
under `o`: a name no exported declaration has is looked up as nothing, and the name of one is
looked up, documented and flagged as the first declaration of that name. -/
theorem holdsTable_lists (fuel : Nat) {o : Lang.Options} {a : Assembly} (h : HoldsTable w i o a) :
    (toolchain fuel).Lists w i (a.methods o) := by
  obtain ⟨l, img, tbl, hl, hopen, himg, hempty, ht, hes⟩ := h
  refine ⟨fun n hn => ?_, fun n mth hm => ?_⟩
  · -- no exported declaration has the name, so the walk reaches the table's end
    have habs : ∀ d ∈ a.exported, d.name ≠ n := fun d hd hname =>
      List.find?_eq_none.1 hn _ (List.mem_map_of_mem hd) (by simp [Assembly.methodOf, hname])
    exact lookupMethod_run hl hopen himg (moduleLookup_absent ht (ofString_not_mem habs))
  · -- the walk stops at the entry of the first declaration of the name
    obtain ⟨pre, d, post, hsplit, rfl, hpre, rfl⟩ := Assembly.find_methodOf_eq_some hm
    rw [hsplit, List.map_append, List.map_cons] at ht hes
    have hpre' := ofString_not_mem hpre
    -- the declarations before it give as many docs as names, so both lists reach the same entry
    have hlen : (pre.map fun d => quote d.doc).length =
        (pre.map fun d => Utf8.ofString d.name).length := by simp
    obtain ⟨⟨fn, hfn0, hfn⟩, hflags, ⟨p, hp, hlaid⟩, -⟩ := hes.drop
    rw [hlen] at hfn hflags hp
    refine ⟨⟨fn, ?_⟩, ?_, ?_⟩
    · have hr := lookupMethod_run hl hopen himg (moduleLookup_found ht hpre' hfn)
      rwa [if_neg (by simpa using hfn0)] at hr
    · exact methodDoc_laidOut hl hopen himg ht hpre' hp hlaid hempty
    · exact methodFlags_run hl hopen himg (moduleMethodFlags_found ht hpre' hflags)

/-! ## Proxies against loaded tables -/

/-- Proxies resolve against the installed artifact's table, and the toolchain reads the tables
its loaded images lay out. -/
structure ProxyLaws : Prop where
  /-- Over every run from a new extension, against every driver that keeps the driver laws and
  the table laws, the proxy of every named managed function fails as uninitialized exactly
  until an artifact is installed, and then resolves exactly when its function was declared
  before the installed artifact's library was rendered. -/
  resolution : ∀ {ω : Type} [ExtensionHost ω] (D : Driver ω) {IsOpen : ω → Nat → Prop}
    {Has : ω → Nat → Lang.Options → Assembly → Prop}, D.Laws IsOpen → D.TableLaws Has →
    ∀ {w0 w : ω} {e0 e : Extension}, ExtensionHost.ext w0 = some e0 → e0.table = none →
      e0.asm.decls = [] → D.Reaches w0 w → ExtensionHost.ext w = some e →
      ∀ {f : ManagedFunction}, .managed f ∈ e.asm.decls → f.name ≠ "" → D.ProxyAnswers w0 w e f
  /-- The toolchain's lookups keep the table law for the tables its loaded images lay out:
  looking a name up walks the table to the first entry of the name. -/
  lookup : ∀ (fuel : Nat) {w : World HostState} {i : Nat} {o : Lang.Options} {a : Assembly},
    HoldsTable w i o a → (toolchain fuel).Lists w i (a.methods o)

/-- Proxies keep the proxy laws. -/
theorem proxy_laws : ProxyLaws where
  resolution := by
    intro ω _ D IsOpen Has hD hT w0 w e0 e he0 hnew hempty hrun he f hf hname
    exact Driver.proxy_resolution hD hT he0 hnew hempty hrun he hf hname
  lookup := by
    intro fuel w i o a h
    exact holdsTable_lists fuel h

/-! ## A run of the proxy laws -/

/-- A managed function `f` whose doc holds a NUL. -/
def nulDocFunction : ManagedFunction :=
  { name := "f", sig := {}, body := "return cx_none();", doc := "a\x00b", raw := false }

/-- The module `m` that declares `nulDocFunction` only. -/
def nulDocAssembly : Assembly := { name := "m", decls := [.managed nulDocFunction] }

/-- `nulDocMemory` with its one entry completed: its function is the image's first function,
and its flags are `CX_METH_VARARGS`. -/
def entryMemory : Memory :=
  (nulDocMemory.storeAt 2 8 8 functionBase).storeAt 2 16 4 1

/-- A host world whose library 0, open, is the module of an image over `entryMemory`. -/
def entryWorld : World HostState :=
  { nulDocWorld with images := #[{ nulDocImage with mem := entryMemory }] }

/-- What `entryMemory` holds where the table walk and the reads of the entry look, read off at
once. -/
theorem entryMemory_reads :
    entryMemory.load .u64 (Memory.base 0 + ModuleLayout.defn) = .ok (Memory.base 1) ∧
      entryMemory.load .u64 (Memory.base 1 + ModuleLayout.methods) = .ok (Memory.base 2) ∧
      entryMemory.load .u64 (Memory.base 2) = .ok (Memory.base 3) ∧
      entryMemory.cString (Memory.base 3) = .ok (Utf8.ofString "f") ∧
      entryMemory.load .u64 (Memory.base 2 + ModuleLayout.methodSize) = .ok 0 ∧
      entryMemory.load .u64 (Memory.base 2 + ModuleLayout.methodFn) = .ok functionBase ∧
      entryMemory.load .i32 (Memory.base 2 + ModuleLayout.methodFlags) = .ok 1 ∧
      entryMemory.load .u64 (Memory.base 2 + ModuleLayout.methodDoc) = .ok (Memory.base 4) ∧
      entryMemory.locate (Memory.base 4) 0 = .ok (4, 0) ∧
      entryMemory.blocks[4]? = some ⟨#[97, 0, 98, 0]⟩ ∧
      entryMemory.cString (Memory.base 5) = .ok [] := by
  decide +kernel

/-- Library 0 of `entryWorld` holds the method table rendered for `nulDocAssembly`, as every
compiler builds it. -/
theorem entryWorld_holdsTable (o : Lang.Options) : HoldsTable entryWorld 0 o nulDocAssembly := by
  obtain ⟨hdefn, hmethods, hname, hf, hend, hfn, hflags, hdoc, hloc, hblk, hempty⟩ :=
    entryMemory_reads
  have htri : Lang.TrigraphFree "a\x00b".toList := Lang.trigraphFree_of_not_mem (by decide)
  have hoct : OctetsAt entryMemory (Memory.base 4) (Utf8.ofString "a\x00b" ++ [0]) :=
    ⟨4, 0, _, hloc, hblk, by decide, by decide⟩
  refine ⟨_, _, Memory.base 2, rfl, rfl, rfl, hempty, ?_, ?_⟩
  · exact { module := by decide
            defn := ⟨Memory.base 1, by decide, hdefn, hmethods⟩
            table := by decide
            listed := ⟨⟨Memory.base 3, by decide, hname, hf⟩, hend⟩
            bounded := by decide }
  · exact ⟨⟨functionBase, by decide, hfn⟩, hflags,
      ⟨Memory.base 4, hdoc, docLaidOut_of_octetsAt (by decide) htri hoct⟩, trivial⟩

/-- Compiled under any options, `nulDocAssembly`'s table has one entry, `f`, whose doc reads as
`a`, cut at its NUL. -/
theorem nulDocAssembly_methods (o : Lang.Options) :
    nulDocAssembly.methods o = [{ name := "f", doc := [97], flags := 1 }] := by
  have htable := tableDoc_of_trigraphFree (s := "a\x00b")
    (Lang.trigraphFree_of_not_mem (by decide)) o.lexMode (Assembly.compileTarget o)
  have hval : Utf8.encode ("a\x00b".toList.takeWhile (· != '\x00')) = [97] := by decide
  have hexported : nulDocAssembly.exported = [.managed nulDocFunction] := rfl
  rw [Assembly.methods, hexported, List.map_singleton, List.singleton_inj]
  change (⟨"f", Assembly.tableDoc o.lexMode (Assembly.compileTarget o) "a\x00b", 1⟩ :
    Assembly.Method) = _
  rw [htable, hval]

/-- The proxy laws at work: on the scripted driver, a new extension that declares `ping` and is
prepared answers its proxy as the laws say; and the toolchain looks the one method of a loaded
module up, with its doc cut at the NUL it holds. -/
theorem proxy_laws_run :
    (∃ w e, Bench.driver.Reaches freshBench w ∧ ExtensionHost.ext w = some e ∧
      .managed ping ∈ e.asm.decls ∧ Bench.driver.ProxyAnswers freshBench w e ping) ∧
    ∀ fuel, (toolchain fuel).Lists entryWorld 0 [{ name := "f", doc := [97], flags := 1 }] := by
  obtain ⟨w, e, hrun, he, hf⟩ := ping_prepared
  refine ⟨⟨w, e, hrun, he, hf, proxy_laws.resolution Bench.driver Bench.driver_laws
    Bench.table_laws rfl rfl rfl hrun he hf (by decide)⟩, fun fuel => ?_⟩
  rw [← nulDocAssembly_methods (Lang.Options.ofFlags [])]
  exact proxy_laws.lookup fuel (entryWorld_holdsTable _)

end InlineC.Host
