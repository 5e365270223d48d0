import Mathlib
import InlineC.Proofs.QuotedDocs
import InlineC.Proofs.CallErrors
import InlineC.Proofs.Revision

/-!
# Docs read back from a loaded method table

A loaded module hands its methods out through its definition's method table: entries of
`methodSize` octets, each holding a pointer to the method's name, its function, its flags and a
pointer to its doc, and a null name pointer to end the table. `cx_module_method_doc` walks the
table to the first entry of a name and answers its doc pointer, or the empty string when that
pointer is null; the host reads the answer as a C string, and that read is what a resolved
symbol's doc and a proxy's `doc` attribute give.

The walk finds the first entry of a name (`scan_found`), so the doc the host reads of a method
is the C string at the doc pointer of its first entry (`methodDoc_run`). A C string laid out
with its terminator reads up to its first zero octet (`cString_of_octetsAt`), and in UTF-8 the
only zero octet is the NUL character's (`encode_takeWhile`).

Once the entry's literal is laid out as the loader lays out string literals (`DocLaidOut`),
the host reads whatever doc as the compiled table gives it back, `Assembly.tableDoc`: the
literal's value as the compiler reads it, up to its first zero octet (`cString_docLaidOut`).

`DocLaws` follows a doc with no trigraph from the method table's text to the host's read.
Escaping loses nothing. Nonempty and quoted, the doc is one string literal token in every
dialect, whose value is its UTF-8 octets; the empty doc is rendered as `NULL`. The host reads it
up to its first NUL character: the whole doc when it has none, and nothing for the empty doc.
`doc_read_stops_at_nul` runs this on a loaded table whose doc holds a NUL.
-/

namespace InlineC.Utf8

/-! ## The zero octet of UTF-8 -/

/-- An octet with one of the low eight bits of `a` set is not zero. -/
theorem toUInt8_or_ne_zero {a : Nat} (x : Nat) (ha : a % 256 ≠ 0) : (a ||| x).toUInt8 ≠ 0 := by
  intro h
  have h0 : a % 256 = 0 ∧ x % 256 = 0 := by simpa using congrArg UInt8.toNat h
  exact ha h0.1

/-- Only the NUL character has a zero octet in its UTF-8 form. -/
theorem zero_not_mem_encodeChar {c : Char} (hc : c ≠ '\x00') : (0 : UInt8) ∉ encodeChar c := by
  have hn : c.toNat ≠ 0 := fun h => hc (Char.toNat_inj.1 h)
  simp only [encodeChar]
  split_ifs with h1 h2 h3
  · intro h
    have h0 : c.toNat % 2 ^ 8 = 0 := by simpa using congrArg UInt8.toNat (List.mem_singleton.1 h).symm
    omega
  -- every octet of a longer form has its high bit set
  all_goals
    simp only [List.mem_cons, List.not_mem_nil, or_false, not_or]
    repeat' apply And.intro
  all_goals exact (toUInt8_or_ne_zero _ (by decide)).symm

/-- The octets up to the first zero octet are the UTF-8 form of the characters up to the first
NUL. -/
theorem encode_takeWhile (cs : List Char) :
    (encode cs).takeWhile (· != 0) = encode (cs.takeWhile (· != '\x00')) := by
  induction cs with
  | nil => rfl
  | cons c cs ih =>
    by_cases hc : c = '\x00'
    · subst hc
      rfl
    · have hne : ∀ a ∈ encodeChar c, (a != 0) = true := fun a ha => by
        simpa using (fun h : a = 0 => zero_not_mem_encodeChar hc (h ▸ ha))
      rw [encode, List.flatMap_cons, List.takeWhile_append_of_pos hne,
        List.takeWhile_cons_of_pos (by simpa using hc), encode, List.flatMap_cons]
      exact congrArg _ ih

end InlineC.Utf8

namespace InlineC.Machine

namespace Objects

open ImgM Memory

/-- The names of a method table's entries from `entry` on: each entry's first word points at
its name, the entries lie `methodSize` octets apart, and a null word ends the table. -/
def NamesAt (mem : Memory) (entry : UInt64) : List (List UInt8) → Prop
  | [] => mem.load .u64 entry = .ok 0
  | n :: ns => (∃ p, p ≠ 0 ∧ mem.load .u64 entry = .ok p ∧ mem.cString p = .ok n) ∧
      NamesAt mem (entry + ModuleLayout.methodSize) ns

/-- The address of entry `k` of the table at `tbl`. -/
def entryAt (tbl : UInt64) (k : Nat) : UInt64 := tbl + ModuleLayout.methodSize * k.toUInt64

/-- The module at `m` lists the entries named `names` in the method table at `tbl`: its
definition points at the table, and the table ends within the walk's bound. -/
structure TableAt (mem : Memory) (m tbl : UInt64) (names : List (List UInt8)) : Prop where
  module : m ≠ 0
  defn : ∃ d, d ≠ 0 ∧ mem.load .u64 (m + ModuleLayout.defn) = .ok d ∧
    mem.load .u64 (d + ModuleLayout.methods) = .ok tbl
  table : tbl ≠ 0
  listed : NamesAt mem tbl names
  bounded : names.length < 1000000

/-- The block at `p` holds the octets `d` from `p` on. -/
def OctetsAt (mem : Memory) (p : UInt64) (d : List UInt8) : Prop :=
  ∃ b off blk, mem.locate p 0 = .ok (b, off) ∧ mem.blocks[b]? = some blk ∧
    off + d.length ≤ blk.size ∧ ∀ i (h : i < d.length), blk.get! (off + i) = d[i]

/-- What loading makes of the doc literal `lit` of a table entry, at the entry's doc pointer
`p`: `NULL` is the null pointer; otherwise the literal, lexed in the build's dialect, is one
string literal token, and `p` points at a block that holds its value and a NUL, as string
literals are laid out. -/
def DocLaidOut (m : Lang.LexMode) (t : Lang.Target) (mem : Memory) (p : UInt64) (lit : String) :
    Prop :=
  if lit = "NULL" then p = 0 else
    ∃ tok v, (Lang.tokenize m 1 lit).1 = #[tok] ∧ tok.kind = .string ∧
      Lang.stringLiteral t [tok.text] = .ok (.narrow, v, []) ∧
      OctetsAt mem p (v.map UInt8.ofNat ++ [0])

theorem entryAt_zero (tbl : UInt64) : entryAt tbl 0 = tbl := by
  simp [entryAt]

/-- The entries after the first are those of the table one entry further. -/
theorem entryAt_next (tbl : UInt64) (k : Nat) :
    entryAt (tbl + ModuleLayout.methodSize) k = entryAt tbl (k + 1) := by
  simp only [entryAt, Nat.toUInt64_eq, UInt64.ofNat_add, UInt64.ofNat_one]
  rw [UInt64.mul_add, UInt64.mul_one, UInt64.add_assoc, UInt64.add_comm ModuleLayout.methodSize]

/-- An address a read succeeds at is not null. -/
theorem ne_zero_of_load {mem : Memory} {k : Lang.NumKind} {a x : UInt64}
    (h : mem.load k a = .ok x) : a ≠ 0 := by
  obtain ⟨b, off, hl⟩ := locate_of_load h
  rintro rfl
  have := locate_block hl
  simp [blockOf] at this

/-- The table from the entry of a name on, past the entries before it. -/
theorem NamesAt.drop {mem : Memory} {name : List UInt8} {post : List (List UInt8)} :
    ∀ {pre : List (List UInt8)} {entry : UInt64}, NamesAt mem entry (pre ++ name :: post) →
      NamesAt mem (entryAt entry pre.length) (name :: post) := by
  intro pre
  induction pre with
  | nil =>
    intro entry h
    rwa [List.length_nil, entryAt_zero]
  | cons n pre ih =>
    rintro entry ⟨-, h⟩
    rw [List.length_cons, ← entryAt_next]
    exact ih h

variable {img : Image} {name : List UInt8}

/-- The walk finds the first entry of a name: past the entries of other names, it answers the
entry's address. -/
theorem scan_found {post : List (List UInt8)} :
    ∀ {pre : List (List UInt8)} {entry : UInt64} {fuel : Nat},
      NamesAt img.mem entry (pre ++ name :: post) → name ∉ pre → pre.length < fuel →
      (moduleFind.scan name fuel entry).run img = .ok (entryAt entry pre.length, img) := by
  intro pre
  induction pre with
  | nil =>
    rintro entry (_ | fuel) ⟨⟨p, hp, hload, hname⟩, -⟩ - hlen
    · exact absurd hlen (by simp)
    unfold moduleFind.scan load64
    rw [run_bind_of_ok (load_run hload), if_neg (by simpa using hp),
      run_bind_of_ok (Host.cString_run hname), if_pos (by simp), List.length_nil, entryAt_zero]
    rfl
  | cons n pre ih =>
    rintro entry (_ | fuel) ⟨⟨p, hp, hload, hname⟩, hrest⟩ hpre hlen
    · exact absurd hlen (by simp)
    have hn : n ≠ name := fun h => hpre (h ▸ List.mem_cons_self ..)
    -- an entry of another name sends the walk one entry further
    unfold moduleFind.scan load64
    rw [run_bind_of_ok (load_run hload), if_neg (by simpa using hp),
      run_bind_of_ok (Host.cString_run hname), if_neg (by simpa using hn),
      ih hrest (fun h => hpre (List.mem_cons_of_mem _ h)) (by simp at hlen; omega),
      entryAt_next, List.length_cons]

variable {m tbl p : UInt64} {pre post : List (List UInt8)}

/-- `cx_module_find` answers the first entry of a name in the module's table. -/
theorem moduleFind_found (ht : TableAt img.mem m tbl (pre ++ name :: post)) (hpre : name ∉ pre) :
    (moduleFind m name).run img = .ok (entryAt tbl pre.length, img) := by
  obtain ⟨d, hd, hm, hdm⟩ := ht.defn
  unfold moduleFind load64
  rw [if_neg (by simpa using ht.module), run_bind_of_ok (load_run hm), if_neg (by simpa using hd),
    run_bind_of_ok (load_run hdm), if_neg (by simpa using ht.table)]
  exact scan_found ht.listed hpre (by have := ht.bounded; simp at this; omega)

/-- The entry of a name lies in memory, so its address is not null. -/
theorem TableAt.entry_ne_zero (ht : TableAt img.mem m tbl (pre ++ name :: post)) :
    entryAt tbl pre.length ≠ 0 := by
  obtain ⟨⟨q, -, hq, -⟩, -⟩ := ht.listed.drop
  exact ne_zero_of_load hq

/-- `cx_module_method_doc` answers the doc pointer of the first entry of a name, or the empty
string when it is null. -/
theorem moduleMethodDoc_run (ht : TableAt img.mem m tbl (pre ++ name :: post)) (hpre : name ∉ pre)
    (hp : img.mem.load .u64 (entryAt tbl pre.length + ModuleLayout.methodDoc) = .ok p) :
    (moduleMethodDoc m name).run img = .ok (if p = 0 then img.empty else p, img) := by
  unfold moduleMethodDoc load64
  rw [run_bind_of_ok (moduleFind_found ht hpre), if_neg (by simpa using ht.entry_ne_zero),
    run_bind_of_ok (load_run hp)]
  by_cases hp0 : p = 0
  · rw [if_pos (by simpa using hp0), if_pos hp0]
    rfl
  · rw [if_neg (by simpa using hp0), if_neg hp0]
    rfl

/-- The octet right after the first run of nonzero octets of a terminated string is zero. -/
theorem getElem?_takeWhile_length (v : List UInt8) :
    (v ++ [0])[(v.takeWhile (· != 0)).length]? = some 0 := by
  induction v with
  | nil => rfl
  | cons a v ih =>
    by_cases ha : a = 0
    · simp [ha]
    · simpa [List.takeWhile_cons, ha] using ih

/-- Octets laid out with a terminating NUL read as a C string up to their first zero octet. -/
theorem cString_of_octetsAt {mem : Memory} {p : UInt64} {v : List UInt8}
    (h : OctetsAt mem p (v ++ [0])) : mem.cString p = .ok (v.takeWhile (· != 0)) := by
  obtain ⟨b, off, blk, hl, hblk, hfit, hbytes⟩ := h
  have htakes : v.takeWhile (· != 0) <+: v := List.takeWhile_prefix _
  have hlen := htakes.length_le
  have hzero := getElem?_takeWhile_length v
  rw [List.getElem?_eq_some_iff] at hzero
  obtain ⟨hlt, hzero⟩ := hzero
  have hlt' : (v.takeWhile (· != 0)).length < v.length + 1 := by simpa using hlt
  simp only [List.length_append, List.length_singleton] at hfit
  refine cString_eq hl hblk (fun h0 => ?_) (fun i hi => ?_) ?_ (by omega)
  · simpa using List.mem_takeWhile_imp h0
  · rw [hbytes i (by simp; omega), List.getElem_append_left (by omega)]
    exact (htakes.getElem hi).symm
  · rw [hbytes _ hlt]
    exact hzero

/-- Octets at an address lie in a block, so the address is not null. -/
theorem OctetsAt.ne_zero {mem : Memory} {p : UInt64} {d : List UInt8} (h : OctetsAt mem p d) :
    p ≠ 0 := by
  obtain ⟨b, off, -, hl, -⟩ := h
  rintro rfl
  have := locate_block hl
  simp [blockOf] at this

end Objects

end InlineC.Machine

namespace InlineC.Utf8

/-- A text with no NUL character is read whole. -/
theorem encode_takeWhile_of_nul_free {cs : List Char} (h : '\x00' ∉ cs) :
    encode (cs.takeWhile (· != '\x00')) = encode cs := by
  rw [List.takeWhile_eq_self_iff.2]
  intro c hc
  simpa using fun hc0 : c = '\x00' => h (hc0 ▸ hc)

end InlineC.Utf8

namespace InlineC.Host

open InlineC.Machine InlineC.Machine.Objects
open Text.CLiteral (escape quote unescape escapeList)

/-- The doc the host reads of a method of an open library is the C string at the doc pointer of
the first entry of its name, or the empty string when that pointer is null. -/
theorem methodDoc_run {w : World HostState} {i : Nat} {l : Library} {img : Image} {name : String}
    {tbl p : UInt64} {pre post : List (List UInt8)} {doc : List UInt8}
    (hl : w.host.libs[i]? = some l) (hopen : l.closed = false) (himg : w.images[l.image]? = some img)
    (ht : TableAt img.mem l.module tbl (pre ++ Utf8.ofString name :: post))
    (hpre : Utf8.ofString name ∉ pre)
    (hp : img.mem.load .u64 (entryAt tbl pre.length + ModuleLayout.methodDoc) = .ok p)
    (hdoc : img.mem.cString (if p = 0 then img.empty else p) = .ok doc) :
    (methodDoc i name).run w = .ok (doc, w) := by
  unfold methodDoc
  rw [run_bind_of_ok (getLib_run hl), if_neg (by simp [hopen])]
  exact onImage_read himg (run_bind_eq_ok.2 ⟨_, img, moduleMethodDoc_run ht hpre hp,
    cString_run hdoc⟩)

/-- A proxy's `doc` attribute answers the doc the host reads of its method. -/
theorem docAttribute_run {w : World HostState} {i : Nat} {name : String} {doc : List UInt8}
    (h : (methodDoc i name).run w = .ok (doc, w)) (fuel : Nat) (moduleName : String) :
    ((toolchain fuel).attributeValue moduleName name "doc" i).run w = .ok (.ok (.str doc), w) := by
  simp only [Driver.attributeValue]
  -- the toolchain's doc of a method is the host's read of it
  exact run_bind_eq_ok.2 ⟨doc, w, h, rfl⟩

/-- A nonempty doc is quoted as a literal, never as `NULL`. -/
theorem quote_ne_null {s : String} (hs : s ≠ "") : quote s ≠ "NULL" := by
  intro hq
  have := congrArg String.toList hq
  rw [Lang.quote_toList hs] at this
  simp at this

/-- A literal that lexes as one narrow string literal token gives that literal's value as its
octets. -/
theorem literalOctets_of_token {m : Lang.LexMode} {t : Lang.Target} {lit : String} {tok : Lang.Token}
    {v : List Nat} (htok : (Lang.tokenize m 1 lit).1 = #[tok]) (hk : tok.kind = .string)
    (hv : Lang.stringLiteral t [tok.text] = .ok (.narrow, v, [])) :
    Assembly.literalOctets m t lit = some (v.map UInt8.ofNat) := by
  simp only [Assembly.literalOctets, htok, List.toList_toArray, hk, hv, if_true]

/-- Read at a doc pointer laid out for the literal of `s`, a null pointer standing for the empty
string, the loaded module gives the doc its compiled table gives back. -/
theorem cString_docLaidOut {m : Lang.LexMode} {t : Lang.Target} {mem : Memory} {p e : UInt64}
    {s : String} (h : DocLaidOut m t mem p (quote s)) (hempty : mem.cString e = .ok []) :
    mem.cString (if p = 0 then e else p) = .ok (Assembly.tableDoc m t s) := by
  by_cases hnull : quote s = "NULL"
  · rw [DocLaidOut, if_pos hnull] at h
    rw [Assembly.tableDoc, if_pos hnull, if_pos h]
    exact hempty
  · rw [DocLaidOut, if_neg hnull] at h
    obtain ⟨tok, v, htok, hk, hv, hoct⟩ := h
    rw [Assembly.tableDoc, if_neg hnull, literalOctets_of_token htok hk hv, Option.getD_some,
      if_neg hoct.ne_zero]
    exact cString_of_octetsAt hoct

/-- The compiled table gives a doc with no trigraph back up to its first NUL character, in every
dialect and for every target: the literal's value is the doc's UTF-8 octets. -/
theorem tableDoc_of_trigraphFree {s : String} (htri : Lang.TrigraphFree s.toList)
    (m : Lang.LexMode) (t : Lang.Target) :
    Assembly.tableDoc m t s = Utf8.encode (s.toList.takeWhile (· != '\x00')) := by
  by_cases hs : s = ""
  · subst hs
    rfl
  rw [Assembly.tableDoc, if_neg (quote_ne_null hs),
    literalOctets_of_token (Lang.tokenize_quote hs htri m) rfl (Lang.stringLiteral_quote hs t),
    Option.getD_some, ← Utf8.encode_takeWhile]
  simp [Function.comp_def, Utf8.ofString]

/-- A nonempty doc with no trigraph whose octets and a NUL lie at `p` is laid out there as its
quoted literal. -/
theorem docLaidOut_of_octetsAt {m : Lang.LexMode} {t : Lang.Target} {mem : Memory} {p : UInt64}
    {s : String} (hs : s ≠ "") (htri : Lang.TrigraphFree s.toList)
    (h : OctetsAt mem p (Utf8.ofString s ++ [0])) : DocLaidOut m t mem p (quote s) := by
  rw [DocLaidOut, if_neg (quote_ne_null hs)]
  refine ⟨_, (Utf8.ofString s).map UInt8.toNat, Lang.tokenize_quote hs htri m, rfl,
    Lang.stringLiteral_quote hs t, ?_⟩
  simpa [Function.comp_def] using h

/-- The host reads a doc laid out in a loaded method table as the compiled table gives it
back. -/
theorem methodDoc_laidOut {s name : String} {m : Lang.LexMode} {t : Lang.Target}
    {w : World HostState} {i : Nat} {l : Library} {img : Image} {tbl p : UInt64}
    {pre post : List (List UInt8)}
    (hl : w.host.libs[i]? = some l) (hopen : l.closed = false) (himg : w.images[l.image]? = some img)
    (ht : TableAt img.mem l.module tbl (pre ++ Utf8.ofString name :: post))
    (hpre : Utf8.ofString name ∉ pre)
    (hp : img.mem.load .u64 (entryAt tbl pre.length + ModuleLayout.methodDoc) = .ok p)
    (hlaid : DocLaidOut m t img.mem p (quote s)) (hempty : img.mem.cString img.empty = .ok []) :
    (methodDoc i name).run w = .ok (Assembly.tableDoc m t s, w) :=
  methodDoc_run hl hopen himg ht hpre hp (cString_docLaidOut hlaid hempty)

/-- What a doc with no trigraph becomes, from the method table's text to the host's read of a
loaded module. -/
structure DocLaws (s : String) : Prop where
  /-- No other text escapes to the same literal body. -/
  injective : ∀ s', escape s' = escape s → s' = s
  /-- Reading the escapes back gives the text. -/
  decode : unescape (escapeList s.toList) = s.toList
  /-- Nonempty and quoted, it is one string literal token in every dialect, and the literal's
  value is its UTF-8 octets. -/
  value : s ≠ "" → ∀ m t,
    (Lang.tokenize m 1 (quote s)).1 = #[{ kind := .string, text := quote s, line := 1, bol := true }] ∧
      Lang.stringLiteral t [quote s] = .ok (.narrow, (Utf8.ofString s).map UInt8.toNat, [])
  /-- Empty, it is rendered as a null pointer. -/
  empty : s = "" → quote s = "NULL"
  /-- The compiled table gives it back up to its first NUL character, in every dialect and for
  every target. -/
  table : ∀ m t, Assembly.tableDoc m t s = Utf8.encode (s.toList.takeWhile (· != '\x00'))
  /-- Of a method of a loaded module whose entry's doc literal was laid out as string literals
  are, the host reads the doc up to its first NUL character, and so does the proxy's `doc`
  attribute; the empty doc reads as nothing. -/
  read : ∀ {name : String} {m : Lang.LexMode} {t : Lang.Target} {w : World HostState} {i : Nat}
    {l : Library} {img : Image} {tbl p : UInt64} {pre post : List (List UInt8)},
    w.host.libs[i]? = some l → l.closed = false →
    w.images[l.image]? = some img → TableAt img.mem l.module tbl (pre ++ Utf8.ofString name :: post) →
    Utf8.ofString name ∉ pre →
    img.mem.load .u64 (entryAt tbl pre.length + ModuleLayout.methodDoc) = .ok p →
    DocLaidOut m t img.mem p (quote s) → img.mem.cString img.empty = .ok [] →
    (methodDoc i name).run w = .ok (Utf8.encode (s.toList.takeWhile (· != '\x00')), w) ∧
      ∀ fuel moduleName, ((toolchain fuel).attributeValue moduleName name "doc" i).run w =
        .ok (.ok (.str (Utf8.encode (s.toList.takeWhile (· != '\x00')))), w)
  /-- With no NUL it is read whole. -/
  whole : '\x00' ∉ s.toList → Utf8.encode (s.toList.takeWhile (· != '\x00')) = Utf8.ofString s

/-- Every doc with no trigraph keeps the doc laws. -/
theorem doc_laws {s : String} (htri : Lang.TrigraphFree s.toList) : DocLaws s where
  injective _ h := Lang.escape_injective h
  decode := Text.CLiteral.unescape_escape s.toList
  value hs m t := Lang.quoted_doc_value hs htri m t
  empty hs := hs ▸ rfl
  table := tableDoc_of_trigraphFree htri
  read hl hopen himg ht hpre hp hlaid hempty := by
    have h := methodDoc_laidOut hl hopen himg ht hpre hp hlaid hempty
    rw [tableDoc_of_trigraphFree htri] at h
    exact ⟨h, fun fuel moduleName => docAttribute_run h fuel moduleName⟩
  whole h := Utf8.encode_takeWhile_of_nul_free h

/-! ## A doc with a NUL in it -/

/-- A loaded module with one method, `f`, whose doc holds a NUL: the module in block 0 points at
its definition in block 1, which points at the method table in block 2; the table's one entry
names `f` (block 3) and points at the doc `a`, NUL, `b` (block 4); block 5 is the empty
string. -/
def nulDocMemory : Memory :=
  let zeros := fun n => ByteArray.mk (Array.replicate n 0)
  let m : Memory := ⟨#[zeros 88, zeros 24, zeros 64, ByteArray.mk #[102, 0],
    ByteArray.mk #[97, 0, 98, 0], zeros 1]⟩
  (((m.storeAt 0 80 8 (Memory.base 1)).storeAt 1 16 8 (Memory.base 2)).storeAt 2 0 8
    (Memory.base 3)).storeAt 2 24 8 (Memory.base 4)

/-- An image over `nulDocMemory`, with its empty string in block 5. -/
def nulDocImage : Image where
  lib := { functions := #[], globals := #[], strings := #[], provided := #[], constructors := [],
           unresolved := [] }
  mem := nulDocMemory
  globals := #[]
  strings := #[]
  empty := Memory.base 5
  stackBlock := 0
  sp := 0

/-- A host world whose library 0, open, is the module of `nulDocImage`. -/
def nulDocWorld : World HostState :=
  { images := #[nulDocImage],
    host := { libs := #[{ name := "m", path := "m.so", image := 0, module := Memory.base 0 }] } }

/-- What `nulDocMemory` holds where the table walk and the doc read look, read off at once. -/
theorem nulDocMemory_reads :
    nulDocMemory.load .u64 (Memory.base 0 + ModuleLayout.defn) = .ok (Memory.base 1) ∧
      nulDocMemory.load .u64 (Memory.base 1 + ModuleLayout.methods) = .ok (Memory.base 2) ∧
      nulDocMemory.load .u64 (Memory.base 2) = .ok (Memory.base 3) ∧
      nulDocMemory.cString (Memory.base 3) = .ok (Utf8.ofString "f") ∧
      nulDocMemory.load .u64 (Memory.base 2 + ModuleLayout.methodSize) = .ok 0 ∧
      nulDocMemory.load .u64 (entryAt (Memory.base 2) 0 + ModuleLayout.methodDoc) =
        .ok (Memory.base 4) ∧
      nulDocMemory.locate (Memory.base 4) 0 = .ok (4, 0) ∧
      nulDocMemory.blocks[4]? = some ⟨#[97, 0, 98, 0]⟩ ∧
      nulDocMemory.cString (Memory.base 5) = .ok [] := by
  decide +kernel

/-- The doc `a`, NUL, `b` of a loaded method reads as `a`, through the host's read and through
the proxy's `doc` attribute alike. -/
theorem doc_read_stops_at_nul :
    (methodDoc 0 "f").run nulDocWorld = .ok ([97], nulDocWorld) ∧
      ∀ fuel moduleName, ((toolchain fuel).attributeValue moduleName "f" "doc" 0).run nulDocWorld =
        .ok (.ok (.str [97]), nulDocWorld) := by
  obtain ⟨hdefn, hmethods, hname, hf, hend, hdoc, hloc, hblk, hempty⟩ := nulDocMemory_reads
  have htable : TableAt nulDocImage.mem (Memory.base 0) (Memory.base 2)
      ([] ++ Utf8.ofString "f" :: []) :=
    { module := by decide
      defn := ⟨Memory.base 1, by decide, hdefn, hmethods⟩
      table := by decide
      listed := ⟨⟨Memory.base 3, by decide, hname, hf⟩, hend⟩
      bounded := by decide }
  have hoct : OctetsAt nulDocImage.mem (Memory.base 4) (Utf8.ofString "a\x00b" ++ [0]) := by
    exact ⟨4, 0, _, hloc, hblk, by decide, by decide⟩
  have hlaid : DocLaidOut (Lang.Options.ofFlags []).lexMode {} nulDocImage.mem (Memory.base 4)
      (quote "a\x00b") :=
    docLaidOut_of_octetsAt (by decide) (Lang.trigraphFree_of_not_mem (by decide)) hoct
  rw [← List.length_nil (α := List UInt8)] at hdoc
  have hread := (doc_laws (Lang.trigraphFree_of_not_mem (by decide))).read (w := nulDocWorld)
    (i := 0) rfl rfl rfl htable List.not_mem_nil hdoc hlaid hempty
  -- the doc is read up to its NUL
  have hval : Utf8.encode ("a\x00b".toList.takeWhile (· != '\x00')) = [97] := by decide
  rwa [hval] at hread

end InlineC.Host
