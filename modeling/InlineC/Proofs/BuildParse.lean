import Mathlib
import InlineC.Proofs.Building

/-!
# Parsing built values back

`cx_parse_tuple` stores the items of a tuple through pointers, one per format code. This module
parses a tuple `cx_build_tuple` made of C values (`CArg`) back by the same codes.

Every item is stored through its pointer at the width of its C type (`CArg.Stored`): every
integer, a `_Bool`, a double and an object as they were, a float as the single nearest its
promoted double, and a string as the address of a copy of its characters. The one value that
does not come back is the character `'\0'`: building it makes the empty string, which the `c`
code refuses, so the parse of a tuple built with it fails.
-/

namespace InlineC

/-- The case of the parser an argument code's letter selects. -/
def ArgCode.parseCode : ArgCode → Machine.Objects.ParseCode
  | .truth => .truth
  | .char => .char
  | .short => .ranged (-32768) 32767 "signed short integer" .i16
  | .int => .ranged (-2147483648) 2147483647 "signed integer" .i32
  | .long => .ranged (-9223372036854775808) 9223372036854775807 "signed long integer" .i64
  | .longLong =>
    .ranged (-9223372036854775808) 9223372036854775807 "signed long long integer" .i64
  | .size => .ranged (-9223372036854775808) 9223372036854775807 "size" .i64
  | .byte => .byte
  | .ushort => .wrapping .u16
  | .uint => .wrapping .u32
  | .ulong | .ulongLong => .wrapping .u64
  | .float => .single
  | .double => .double
  | .str => .string
  | .object => .object

namespace Machine

namespace Objects

open ImgM Memory InlineC.Lang

/-! ## What parsing reads of a built object -/

/-- The view of an object with fields `c`, its string's first octet being `first`. -/
def View.ofCells (c : Cells) (first : UInt64) : View :=
  ⟨c .kind, c .int, c .dbl, c .str, c .count, c .items, c .unsigned, first⟩

/-- An object in a block the heap admits shows its fields, where the first octet of its string,
for a string of one, reads as `first` from a block the heap admits. -/
theorem ObjectAt.shows {heap : Nat → Prop} {m : Memory} {b : Nat} {c : Cells} {first : UInt64}
    (h : ObjectAt m (base b) c) (hb : b + 1 < 2 ^ 32) (hheap : heap (b + 1))
    (hfirst : c .kind = Obj.string → c .count = 1 →
      m.load .i8 (c .str) = .ok first ∧ heap (blockOf (c .str))) :
    Shows heap m (base b) (View.ofCells c first) where
  kind := h.cells .kind
  int := h.cells .int
  dbl := h.cells .dbl
  str := h.cells .str
  count := h.cells .count
  items := h.cells .items
  unsigned := h.cells .unsigned
  first hk hc := (hfirst hk hc).1
  inHeap off hoff := by
    simp only [viewOffsets, List.mem_cons, List.not_mem_nil, or_false] at hoff
    rcases hoff with rfl | rfl | rfl | rfl | rfl | rfl | rfl <;>
      rw [blockOf_base_add _ hb (by decide)] <;> exact hheap
  firstInHeap hk hc := (hfirst hk hc).2

/-- The parser knows the letter of every argument code. -/
theorem ParseCode.of_letter (a : ArgCode) : ParseCode.of a.letter = some a.parseCode := by
  cases a <;> rfl

/-- The code a letter stands for parses by that letter's outcome. -/
theorem codeOutcome_letter (fname : List UInt8) (a : ArgCode) (o : UInt64) (v : View) :
    codeOutcome fname a.letter o v = a.parseCode.outcome fname o v := by
  rw [codeOutcome, ParseCode.of_letter]

/-- A signed octet read of a `char`'s octet, sign-extended, is the promoted `char`. -/
theorem signExtend_octet (c : Int8) : signExtend 8 c.toUInt8.toUInt64 = UInt64.ofInt c.toInt := by
  apply UInt64.toBitVec_inj.1
  simp only [signExtend, Nat.reduceSub, Nat.toUInt64_eq, UInt64.reduceOfNat, UInt64.toInt64_ofNat,
    Int64.toBitVec_toUInt64, Int64.toBitVec_shiftRight, UInt64.toBitVec_toInt64,
    UInt64.toBitVec_shiftLeft, UInt8.toBitVec_toUInt64, Int8.toBitVec_toUInt8,
    UInt64.toBitVec_ofNat, BitVec.ofNat_eq_ofNat, BitVec.reduceMod, BitVec.shiftLeft_eq',
    BitVec.toNat_ofNat, Nat.reducePow, Nat.reduceMod, Int64.toBitVec_ofNat, BitVec.reduceSMod,
    BitVec.sshiftRight_eq']
  -- compare as signed numbers: shifting the octet up and back down restores its sign
  apply BitVec.eq_of_toInt_eq
  have hc : c.toInt = c.toBitVec.toInt := rfl
  have hlt := c.toBitVec.isLt
  rw [BitVec.toInt_sshiftRight, BitVec.toInt_shiftLeft, BitVec.toNat_setWidth,
    BitVec.toInt_eq_toNat_cond (UInt64.ofInt c.toInt).toBitVec, UInt64.toNat_toBitVec,
    ofInt_toNat, hc, BitVec.toInt_eq_toNat_cond, Nat.shiftLeft_eq, Int.shiftRight_eq_div_pow,
    Int.bmod_def]
  push_cast
  split_ifs <;> omega

section Leaves

variable {lo hi : Int} {what : String} {k : NumKind} {fname : List UInt8} {o : UInt64} {v : View}

/-- An integer code stores an integer in its range as its word. -/
theorem outcome_ranged (hint : v.isInt = true) (hr : lo ≤ v.value ∧ v.value ≤ hi) :
    (ParseCode.ranged lo hi what k).outcome fname o v = .ok (k, v.int) := by
  simp [ParseCode.outcome, hint, hr]

/-- A byte code takes an integer from 0 to 255. -/
theorem outcome_byte (hint : v.isInt = true) (hr : 0 ≤ v.value ∧ v.value ≤ 255) :
    ParseCode.byte.outcome fname o v = .ok (.u8, v.int) := by
  simp [ParseCode.outcome, hint, hr]

/-- A wrapping code takes every integer. -/
theorem outcome_wrapping (hint : v.isInt = true) :
    (ParseCode.wrapping k).outcome fname o v = .ok (k, v.int) := by
  simp [ParseCode.outcome, hint]

/-- A new integer object not marked unsigned reads as its word, signed. -/
theorem value_signed (w first : UInt64) :
    let v := View.ofCells (Function.update (fresh Obj.integer) .int w) first
    v.isInt = true ∧ v.int = w ∧ v.value = w.toInt64.toInt := by
  simp [View.isInt, View.value, View.isUnsigned, View.ofCells, fresh]

/-- A signed integer code stores the word of a value in its range, built as an integer. -/
theorem outcome_signed {t : Int} (hlo : lo ≤ t ∧ -2 ^ 63 ≤ t) (hhi : t ≤ hi ∧ t < 2 ^ 63)
    (first : UInt64) :
    (ParseCode.ranged lo hi what k).outcome fname o
      (View.ofCells (Function.update (fresh Obj.integer) .int (UInt64.ofInt t)) first) =
      .ok (k, UInt64.ofInt t) := by
  obtain ⟨hint, hw, hval⟩ := value_signed (UInt64.ofInt t) first
  rw [outcome_ranged hint (by rw [hval, ofInt_toInt64 hlo.2 hhi.2]; omega), hw]

/-- A new integer object marked unsigned reads as its word, unsigned. -/
theorem value_unsigned (w first : UInt64) :
    let v := View.ofCells (Function.update (Function.update (fresh Obj.integer) .int w) .unsigned 1)
      first
    v.isInt = true ∧ v.int = w ∧ v.value = w.toNat := by
  simp [View.isInt, View.value, View.isUnsigned, View.ofCells, fresh]

/-- A value built into an object with no parts parses back by its own code: it is stored at
its width, as `Stored` says. -/
theorem CArg.leaf_outcome {x : CArg} {c : Cells} (hc : x.leafCells = some c)
    (fname : List UInt8) (o first : UInt64) :
    ∃ y, codeOutcome fname x.code.letter o (View.ofCells c first) = .ok (x.kind, y) ∧
      ∀ m₀ m, x.Stored m₀ m y := by
  cases x <;> simp only [CArg.leafCells, reduceCtorEq, Option.some.injEq] at hc <;> subst hc <;>
    rw [codeOutcome_letter]
  case truth b => exact ⟨_, by cases b <;> rfl, fun _ _ => rfl⟩
  case short v =>
    exact ⟨_, outcome_signed (t := v.toInt) (by have := v.le_toInt; omega)
      (by have := v.toInt_lt; omega) first, fun _ _ => rfl⟩
  case int v =>
    exact ⟨_, outcome_signed (t := v.toInt) (by have := v.le_toInt; omega)
      (by have := v.toInt_lt; omega) first, fun _ _ => rfl⟩
  case long v | longLong v | size v =>
    exact ⟨_, outcome_signed (t := v.toInt) (by have := v.le_toInt; omega)
      (by have := v.toInt_lt; omega) first, fun _ _ => rfl⟩
  case byte v =>
    obtain ⟨hint, hw, hval⟩ := value_signed (CArg.byte v).word first
    have := v.toNat_lt
    refine ⟨_, outcome_byte hint ?_, fun _ _ => hw⟩
    rw [hval, toInt64_toInt_eq, CArg.word, UInt8.toNat_toUInt64]
    split_ifs <;> omega
  case ushort v => exact ⟨_, outcome_wrapping (value_signed _ first).1, fun _ _ => (value_signed _ first).2.1⟩
  case uint v => exact ⟨_, outcome_wrapping (value_signed _ first).1, fun _ _ => (value_signed _ first).2.1⟩
  case ulong v | ulongLong v =>
    exact ⟨_, outcome_wrapping (value_unsigned _ first).1, fun _ _ => (value_unsigned _ first).2.1⟩
  case float x => exact ⟨_, rfl, fun _ _ => rfl⟩
  case double x => exact ⟨_, rfl, fun _ _ => rfl⟩

end Leaves

/-- A `char` is zero exactly when its octet is. -/
theorem toUInt8_eq_zero (c : Int8) : c.toUInt8 = 0 ↔ c = 0 := by
  refine ⟨fun h => Int8.toBitVec_inj.1 ?_, fun h => by rw [h]; rfl⟩
  simpa using congrArg UInt8.toBitVec h

/-- No value built as a leaf is a string. -/
theorem CArg.leaf_kind {x : CArg} {c : Cells} (hc : x.leafCells = some c) : c .kind ≠ Obj.string := by
  cases x <;> simp only [CArg.leafCells, reduceCtorEq, Option.some.injEq] at hc <;> subst hc <;>
    simp [fresh] <;> decide

/-- A read that lies in a block gives a value. -/
theorem load_of_locate {m : Memory} {k : NumKind} {a : UInt64} {b off : Nat}
    (h : m.locate a k.size = .ok (b, off)) : ∃ x, m.load k a = .ok x := by
  unfold Memory.load
  simp only [h]
  exact ⟨_, rfl⟩

/-- How the code of value `x` parses the object at `o` showing `v`, the caller's memory being
`m₀` and the object's memory `m`: it stores the value at its width as `Stored` says, in any
memory that keeps the blocks past `lo`, or, for the `char` zero, refuses it. -/
def ParsesBack (m₀ m : Memory) (lo : Nat) (fname : List UInt8) (x : CArg) (o : UInt64) (v : View) :
    Prop :=
  (x ≠ .char 0 → ∃ y, codeOutcome fname x.code.letter o v = .ok (x.kind, y) ∧
    ∀ m', (∀ d, lo < d → m'.blocks[d]? = m.blocks[d]?) → x.Stored m₀ m' y) ∧
  (x = .char 0 → codeOutcome fname x.code.letter o v =
    .error ("cx_type_error_s", fname ++ bytes "() a character is required"))

/-- A made object shows its fields to a parse whose heap admits the new blocks and the objects
passed, with their strings, and its own code parses it back; the `char` zero is built as the
empty string, which the `c` code refuses. -/
theorem Made.parse {heap : Nat → Prop} {m₀ m : Memory} {lo : Nat} {x : CArg} {o : UInt64}
    (h : Made m₀ m lo x o) (hfresh : ∀ d, lo < d → heap d)
    (hobj : ∀ b c, x = .object (base b) → b < m₀.blocks.size → ObjectAt m (base b) c →
      heap (b + 1) ∧ (c .kind = Obj.string → c .count = 1 → heap (blockOf (c .str))))
    (fname : List UInt8) :
    ∃ v, Shows heap m o v ∧ ParsesBack m₀ m lo fname x o v := by
  cases h with
  | leaf hlo hb hc ho =>
    refine ⟨_, @ObjectAt.shows _ _ _ _ 0 ho hb (hfresh _ (by omega))
      (fun hk => absurd hk (CArg.leaf_kind hc)),
      fun _ => (CArg.leaf_outcome hc fname _ 0).imp fun _ h => ⟨h.1, fun m' _ => h.2 m₀ m'⟩,
      fun h0 => ?_⟩
    subst h0
    simp [CArg.leafCells] at hc
  | @string x b s hlo hb hs hlen ho hstr =>
    -- a string of one character shows it first
    have hone : s.length.toUInt64 = 1 → s = [s.headD 0] := fun h1 => by
      have h1' := congrArg UInt64.toNat h1
      rw [Nat.toUInt64, UInt64.toNat_ofNat'] at h1'
      have hlt : s.length < 2 ^ 64 := lt_of_lt_of_le (by omega) (le_trans hlen (by decide))
      obtain ⟨ch, rfl⟩ := List.length_eq_one_iff.1 (by rwa [Nat.mod_eq_of_lt hlt] at h1')
      rfl
    have hshow := @ObjectAt.shows _ _ _ _ (signExtend 8 (s.headD 0).toUInt64) ho (by omega)
      (hfresh _ (by omega)) fun _ hc1 => by
        have hs1 := hone (by simpa [strCells] using hc1)
        rw [hs1] at hstr
        simp only [strCells, ne_eq, reduceCtorEq, not_false_eq_true, Function.update_of_ne,
          Function.update_self]
        exact ⟨load_i8_of_cString hstr, by rw [blockOf_base (by omega)]; exact hfresh _ (by omega)⟩
    cases x with
    | char c =>
      simp only [CArg.Chars] at hs
      subst hs
      refine ⟨_, hshow, fun hc0 => ?_, fun hc0 => ?_⟩
      · -- a character other than zero is a string of one, and comes back as itself
        have hc : c.toUInt8 ≠ 0 := fun h => hc0 (by rw [(toUInt8_eq_zero c).1 h])
        simp only [hc, if_false, List.headD_cons] at hshow ⊢
        refine ⟨_, ?_, fun _ _ => signExtend_octet c⟩
        rw [codeOutcome_letter]
        simp [CArg.code, CArg.kind, ArgCode.parseCode, ParseCode.outcome, View.isChar, View.ofCells,
          strCells, fresh]
      · -- the zero character is the empty string, which is not a character
        cases hc0
        rw [codeOutcome_letter]
        simp [(toUInt8_eq_zero 0).2 rfl, CArg.code, ArgCode.parseCode, ParseCode.outcome, View.isChar,
          View.ofCells, strCells, fresh, Obj.string, Obj.integer]
    | str p =>
      -- the copy of the characters lies in a new block, which later stores keep
      refine ⟨_, hshow, fun _ => ⟨base (b + 1), ?_, fun m' hm' => ⟨s, hs, ?_⟩⟩, fun h0 => by cases h0⟩
      swap
      · rw [cString_congr (m := m) (by rw [blockIndex_base (by omega)]; exact hm' _ (by omega)), hstr]
      rw [codeOutcome_letter]
      simp [CArg.code, CArg.kind, ArgCode.parseCode, ParseCode.outcome, View.ofCells, strCells, fresh]
    | _ => exact absurd hs id
  | @object b c hlt hb ho hfirst =>
    obtain ⟨hheap, hstrheap⟩ := hobj b c rfl hlt ho
    -- the first octet of a string of one reads, whatever it is
    obtain ⟨first, hload⟩ : ∃ first, c .kind = Obj.string → c .count = 1 →
        m.load .i8 (c .str) = .ok first := by
      by_cases hc : c .kind = Obj.string ∧ c .count = 1
      · obtain ⟨d, off, hl⟩ := hfirst hc.1 hc.2
        obtain ⟨y, hy⟩ := load_of_locate hl
        exact ⟨y, fun _ _ => hy⟩
      · exact ⟨0, fun hk hn => absurd ⟨hk, hn⟩ hc⟩
    refine ⟨_, ho.shows hb hheap fun hk hn => ⟨hload hk hn, hstrheap hk hn⟩,
      fun _ => ⟨_, ?_, fun _ _ => rfl⟩, fun h0 => by cases h0⟩
    rw [codeOutcome_letter]
    rfl

/-! ## Parsing a built tuple -/

/-- The blocks a parse of a tuple built from `args` in memory `m₀` reads: every block building
added, and each object passed, with the block of its string's characters. -/
def BuiltHeap (m₀ : Memory) (args : List CArg) (d : Nat) : Prop :=
  m₀.blocks.size < d ∨ ∃ b c, Passed m₀ args b ∧ ObjectAt m₀ (base b) c ∧
    (d = b + 1 ∨ d = blockOf (c .str))

/-- Choosing a witness for each pair of related items. -/
theorem forall₂_choose {α β γ : Type} {R : α → β → γ → Prop} :
    ∀ {l₁ : List α} {l₂ : List β}, List.Forall₂ (fun a b => ∃ c, R a b c) l₁ l₂ →
      ∃ l₃ : List (β × γ), l₃.map Prod.fst = l₂ ∧ List.Forall₂ (fun a bc => R a bc.1 bc.2) l₁ l₃
  | [], [], .nil => ⟨[], rfl, .nil⟩
  | _ :: _, b :: _, .cons ⟨c, hc⟩ h => by
    obtain ⟨l₃, hmap, h₃⟩ := forall₂_choose h
    exact ⟨(b, c) :: l₃, by simp [hmap], .cons hc h₃⟩

/-- The items in a tuple's slots from index `pre.length` on, each showing its view. -/
theorem itemsAt_of_slots {heap : Nat → Prop} {m : Memory} {n : Nat} (hn : n + 2 < 2 ^ 32)
    (hheap : heap (n + 2)) :
    ∀ (pre : List UInt64) (ovs : List (UInt64 × View)),
      SlotsAt m (base (n + 1)) (pre ++ ovs.map Prod.fst) → (∀ ov ∈ ovs, Shows heap m ov.1 ov.2) →
      ItemsAt heap m (base (n + 1)) pre.length ovs
  | _, [], _, _ => trivial
  | pre, (o, v) :: ovs, hs, hshow => by
    obtain ⟨b, blk, hob, hb, -, -, hfit⟩ := hs.block
    obtain rfl := base_inj (by omega) hb hob
    simp only [List.map_cons, List.length_append, List.length_cons, List.length_map] at hfit
    refine ⟨by simpa using hs.slots pre.length (by simp), ?_, hshow _ List.mem_cons_self, ?_⟩
    · rw [blockOf_base_add _ (by omega) (by rw [toNat_slot (by omega)]; omega)]
      exact hheap
    · have := itemsAt_of_slots hn hheap (pre ++ [o]) ovs (by simpa using hs)
        fun ov h => hshow ov (List.mem_cons_of_mem _ h)
      simpa using this

/-- What holds of every item holds of every member of the right list. -/
theorem forall_mem_of_forall₂ {α β : Type} {R : α → β → Prop} {P : β → Prop}
    (hP : ∀ a b, R a b → P b) : ∀ {l₁ : List α} {l₂ : List β}, List.Forall₂ R l₁ l₂ → ∀ b ∈ l₂, P b
  | _, _, .nil => by simp
  | _, _, .cons h hs => by
    intro b hb
    rcases List.mem_cons.1 hb with rfl | hb
    · exact hP _ _ h
    · exact forall_mem_of_forall₂ hP hs b hb

/-- A built tuple as a parse sees it: a tuple with an item per value, each showing a view its
value's code parses back. -/
theorem TupleBuilt.argsAt {img : Image} {args : List CArg} {t : UInt64} {img₁ : Image}
    (h : TupleBuilt img args t img₁) (hready : ∀ x ∈ args, x.Ready img.mem img.mem)
    (hroom : img.mem.blocks.size + 2 * args.length + 4 < 2 ^ 32) (fname : List UInt8) :
    ∃ A ovs, ArgsAt (BuiltHeap img.mem args) img₁.mem t A ovs ∧ A.kind = Obj.tuple ∧
      List.Forall₂ (fun x (ov : UInt64 × View) =>
        ParsesBack img.mem img₁.mem (img.mem.blocks.size + 2) fname x ov.1 ov.2) args ovs := by
  obtain ⟨haddr, -, hkeeps, -, htuple, objs, hslots, hmade⟩ := h
  -- each item parses back; an object passed lies in the heap with its string
  have hitems : List.Forall₂ (fun x o => ∃ v, Shows (BuiltHeap img.mem args) img₁.mem o v ∧
      ParsesBack img.mem img₁.mem (img.mem.blocks.size + 2) fname x o v) args objs := by
    refine ((List.forall₂_and_left _ _).2 ⟨fun x hx => hx, hmade⟩).imp fun x o ⟨hx, hm⟩ => ?_
    refine hm.parse (fun d hd => .inl (by omega)) (fun b c hxb hlt hc => ?_) fname
    subst hxb
    have hpassed : Passed img.mem args b := ⟨hlt, hx⟩
    obtain ⟨b', c₀, hbb, -, hb', ho₀, -⟩ := hready _ hx
    obtain rfl := base_inj (by omega) hb' hbb
    obtain ⟨r, hr⟩ := hkeeps.counts b c₀ hpassed hb' ho₀
    obtain rfl := hr.cells_eq hc
    have hstr : Function.update c₀ .refcnt r .str = c₀ .str := Function.update_of_ne (by decide) _ _
    exact ⟨.inr ⟨b, c₀, hpassed, ho₀, .inl rfl⟩,
      fun _ _ => .inr ⟨b, c₀, hpassed, ho₀, .inr (by rw [hstr])⟩⟩
  obtain ⟨ovs, hmap, hovs⟩ := forall₂_choose hitems
  subst hmap
  have hlen := hovs.length_eq
  refine ⟨View.ofCells (tupleCells (base (img.mem.blocks.size + 1)) args.length.toUInt64) 0, ovs,
    ?_, by simp [View.ofCells, tupleCells, fresh], hovs.imp fun _ _ h => h.2⟩
  subst haddr
  refine .tuple (htuple.shows (by omega) (.inl (by omega)) fun hk => by simp [tupleCells, fresh, Obj.tuple, Obj.string] at hk)
    (by simp [View.ofCells, tupleCells, fresh]) ?_ ?_
  · simp only [View.ofCells, tupleCells, ne_eq, reduceCtorEq, not_false_eq_true,
      Function.update_of_ne, Function.update_self]
    rw [toInt64_toInt_ofNat (by omega), hlen]
  · simp only [View.ofCells, tupleCells, ne_eq, reduceCtorEq, not_false_eq_true,
      Function.update_of_ne, Function.update_self]
    exact itemsAt_of_slots (by omega) (.inl (by omega)) [] ovs (by simpa using hslots)
      (forall_mem_of_forall₂ (fun _ _ h => h.1) hovs)

/-- The stores a parse of values makes through pointers: each value's width, its pointer and
the word stored. -/
def storesOf : List CArg → List UInt64 → List UInt64 → List (NumKind × UInt64 × UInt64)
  | x :: xs, p :: ps, y :: ys => (x.kind, p, y) :: storesOf xs ps ys
  | _, _, _ => []

section Plans

variable {m₀ m : Memory} {lo : Nat} {fname : List UInt8}

/-- The pointers a parse of values reads, one integer argument per value. -/
abbrev pointers (va : VaList) (args : List CArg) : List UInt64 :=
  va.reads (args.map fun _ => false)

/-- The pointers of a list of values are read one after another from the argument list. -/
theorem pointers_cons (va : VaList) (x : CArg) (args : List CArg) :
    pointers va (x :: args) = va.nextInt.1 :: pointers va.nextInt.2 args := by
  simp [pointers, VaList.reads, VaList.next]

/-- Each code accepts its built item exactly when the value is not the `char` zero. -/
theorem accepts_iff_no_nul {args : List CArg} {ovs : List (UInt64 × View)}
    (h : List.Forall₂ (fun x (ov : UInt64 × View) => ParsesBack m₀ m lo fname x ov.1 ov.2) args ovs) :
    List.Forall₂ (fun c (ov : UInt64 × View) => codeAccepts c ov.2 = true) (formatOf args) ovs ↔
      CArg.char 0 ∉ args := by
  induction h with
  | nil => simp [formatOf]
  | @cons x ov xs ovs hx h ih =>
    obtain ⟨o, v⟩ := ov
    have hone : codeAccepts x.code.letter v = true ↔ x ≠ .char 0 := by
      rw [← codeOutcome_ok_iff fname x.code.letter o v]
      by_cases h0 : x = .char 0
      · subst h0
        simp [hx.2 rfl]
      · obtain ⟨y, hy, -⟩ := hx.1 h0
        simp [h0, hy]
    simp only [formatOf, List.map_cons, List.forall₂_cons, List.mem_cons, not_or]
    rw [hone, ← formatOf, ih, ne_comm]

/-- Parsing built values with no `char` zero among them stores each through its pointer. -/
theorem itemsPlan_parsesBack {args : List CArg} {ovs : List (UInt64 × View)}
    (h : List.Forall₂ (fun x (ov : UInt64 × View) => ParsesBack m₀ m lo fname x ov.1 ov.2) args ovs)
    (hnul : CArg.char 0 ∉ args) (q : VaList) :
    ∃ ys, List.Forall₂ (fun x y => ∀ m', (∀ d, lo < d → m'.blocks[d]? = m.blocks[d]?) →
        x.Stored m₀ m' y) args ys ∧
      itemsPlan fname (formatOf args) ovs q = ⟨storesOf args (pointers q args) ys, none⟩ := by
  induction h generalizing q with
  | nil => exact ⟨[], .nil, rfl⟩
  | @cons x ov xs ovs hx h ih =>
    obtain ⟨o, v⟩ := ov
    obtain ⟨y, hout, hst⟩ := hx.1 fun h0 => hnul (h0 ▸ List.mem_cons_self)
    obtain ⟨ys, hys, hplan⟩ := ih (fun h0 => hnul (List.mem_cons_of_mem _ h0)) q.nextInt.2
    refine ⟨y :: ys, .cons hst hys, ?_⟩
    simp only [formatOf, List.map_cons, itemsPlan, hout, pointers_cons, storesOf]
    rw [← formatOf, hplan]

/-- Every store of a parse of built values goes through the pointer of its value, at the
value's width. -/
theorem itemsPlan_stores {args : List CArg} {ovs : List (UInt64 × View)}
    (h : List.Forall₂ (fun x (ov : UInt64 × View) => ParsesBack m₀ m lo fname x ov.1 ov.2) args ovs)
    (va : VaList) :
    ∀ s ∈ (itemsPlan fname (formatOf args) ovs va).stores,
      ∃ x p, (x, p) ∈ args.zip (pointers va args) ∧ s.1 = x.kind ∧ s.2.1 = p := by
  induction h generalizing va with
  | nil => simp [formatOf, itemsPlan]
  | @cons x ov xs ovs hx h ih =>
    obtain ⟨o, v⟩ := ov
    intro s hs
    simp only [formatOf, List.map_cons, itemsPlan] at hs
    rw [← formatOf] at hs
    split at hs
    · rename_i k y hout
      -- an item stored is not the `char` zero, so its width is its value's
      have hk : k = x.kind := by
        by_cases h0 : x = .char 0
        · rw [hx.2 h0] at hout
          cases hout
        · obtain ⟨y', hy', -⟩ := hx.1 h0
          rw [hy'] at hout
          cases hout
          rfl
      rcases List.mem_cons.1 hs with rfl | hs
      · exact ⟨x, va.nextInt.1, by simp [pointers_cons], hk, rfl⟩
      · obtain ⟨x', p, hmem, h1, h2⟩ := ih va.nextInt.2 s hs
        exact ⟨x', p, by simp [pointers_cons, hmem], h1, h2⟩
    · simp at hs

end Plans

/-- Stores outside a heap keep every block of it. -/
theorem storeAll_keeps {heap : Nat → Prop} :
    ∀ {img img' : Image} {ss : List (NumKind × UInt64 × UInt64)}, storeAll img ss = .ok img' →
      (∀ s ∈ ss, ¬ heap (blockOf s.2.1)) → ∀ d, heap (d + 1) → img'.mem.blocks[d]? = img.mem.blocks[d]?
  | img, img', [], h, _, d, _ => by
    cases h
    rfl
  | img, img', (k, a, x) :: ss, h, hs, d, hd => by
    simp only [storeAll] at h
    cases hst : img.store k a x with
    | error e =>
      rw [hst] at h
      cases h
    | ok img₁ =>
      rw [hst] at h
      obtain ⟨b, off, hl, rfl⟩ := Image.store_eq hst
      rw [storeAll_keeps h (fun s hs' => hs s (List.mem_cons_of_mem _ hs')) d hd]
      refine storeAt_blocks_ne _ _ _ fun hdb => hs _ List.mem_cons_self ?_
      rw [locate_block hl, ← hdb]
      exact hd

/-- No code's letter is the colon that ends the codes of a format. -/
theorem ArgCode.letter_ne_colon (a : ArgCode) : a.letter ≠ 58 := by
  cases a <;> decide

/-- Building a tuple of C values and parsing it back by the same codes, with a pointer per
value into memory the tuple does not use. The build ends with the tuple; the parse answers 1
exactly when no value is the `char` zero, and then it has stored each value through its pointer
at its width, as `Stored` says. -/
theorem buildTuple_parse {img : Image} {args : List CArg} {va pva : VaList} {fname : List UInt8}
    (hcells : ErrorCells img) (hroom : img.mem.blocks.size + 2 * args.length + 4 < 2 ^ 32)
    (hcount : 8 * max args.length 1 ≤ maxBlock)
    (hva : va.reads (args.map CArg.isDouble) = args.map CArg.word)
    (hready : ∀ x ∈ args, x.Ready img.mem img.mem) (hapart : Apart args)
    (hout : List.Forall₂ (fun x p => (∃ b off, img.mem.locate p x.kind.size = .ok (b, off)) ∧
      ¬ BuiltHeap img.mem args (blockOf p)) args (pointers pva args)) :
    ∃ t img₁, (vbuild (formatOf args) va true).run img = .ok (t, img₁) ∧
      TupleBuilt img args t img₁ ∧
      ∃ ok img₂, (parseTuple t (formatOf args ++ 58 :: fname) pva).run img₁ =
          .ok (if ok then 1 else 0, img₂) ∧
        (ok = true ↔ CArg.char 0 ∉ args) ∧
        (ok = true → ∃ ys, List.Forall₂ (CArg.Stored img.mem img₂.mem) args ys ∧
          storeAll img₁ (storesOf args (pointers pva args) ys) = .ok img₂) := by
  obtain ⟨t, img₁, hbuild, hbuilt⟩ := buildTuple_run hroom hcount hva hready hapart
  obtain ⟨A, ovs, hargs, hkind, hparses⟩ := hbuilt.argsAt hready hroom fname
  have hcells₁ : ErrorCells img₁ := by
    rw [hbuilt.image]
    exact hbuilt.keeps.errorCells hcells
  have ht : t ≠ 0 := hbuilt.addr ▸ base_ne_zero (by omega)
  have hlen : ovs.length = (formatOf args).length := by simp [formatOf, hparses.length_eq]
  have hplan : tuplePlan fname (formatOf args) t A ovs pva =
      itemsPlan fname (formatOf args) ovs pva := by
    unfold tuplePlan
    rw [if_neg (by simp [ht, hkind]), if_neg (by simp [hlen])]
  -- every store of the parse lands in a block the tuple does not use
  have hw : ∀ s ∈ (tuplePlan fname (formatOf args) t A ovs pva).stores,
      Writable (BuiltHeap img.mem args) img₁.mem s := by
    rw [hplan]
    intro s hs
    obtain ⟨x, p, hmem, h1, h2⟩ := itemsPlan_stores hparses _ s hs
    obtain ⟨⟨b, off, hl⟩, hheap⟩ := List.forall₂_zip hout hmem
    exact ⟨⟨b, off, by rw [h1, h2]; exact hbuilt.keeps.locate hl⟩, by rw [h2]; exact hheap⟩
  have hcolon : 58 ∉ formatOf args := by
    simp only [formatOf, List.mem_map, not_exists, not_and]
    exact fun x _ => ArgCode.letter_ne_colon x.code
  obtain ⟨ok, img₂, hrun, hleaves⟩ := parseTuple_run hcells₁ hargs hcolon hw
  have hok : ok = true ↔ CArg.char 0 ∉ args := by
    rw [hleaves.ok_iff, tuplePlan_error_eq_none, accepts_iff_no_nul hparses]
    simp [ht, hkind]
  refine ⟨t, img₁, hbuild, hbuilt, ok, img₂, hrun, hok, fun htrue => ?_⟩
  obtain ⟨ys, hys, hitems⟩ := itemsPlan_parsesBack hparses (hok.1 htrue) pva
  rw [hplan, hitems] at hleaves hw
  obtain ⟨img0, hall, -, rfl⟩ := hleaves
  -- the parse writes no block the tuple uses, so each copied string is still there
  refine ⟨ys, hys.imp fun x y h => h _ fun d hd => ?_, hall⟩
  exact storeAll_keeps hall (fun s hs => (hw s hs).2) d (.inl (by omega))

end Objects

end Machine

end InlineC
