import Mathlib
import InlineC.Proofs.RoundTrip
import InlineC.TypeTable

/-!
# Building values

`cx_build_tuple` makes a tuple of runtime objects from C values, one per format code. This
module follows a value of the C type the type table pairs with each code (`CArg`) through the
build.

The caller passes the values after the default argument promotions (`CArg.word`). Building
makes a new object for each value but an object, which it passes on with one more reference
(`buildOne_run`); `Made` says what the object is: a truth value, integer or float with the
value's fields, a string of the value's characters, or the object passed. A tuple build
(`buildTuple_run`) makes the tuple, then each item in turn into its slot, and keeps every
block of the caller's memory but the counts of the objects passed (`Keeps`).
-/

namespace InlineC

/-- The octet of an argument code's letter in a format string. -/
def ArgCode.letter (a : ArgCode) : UInt8 := a.toChar.toNat.toUInt8

namespace Machine

namespace VaList

/-- Take the next extra argument: a double, or an integer or pointer. -/
def next (va : VaList) (isDouble : Bool) : UInt64 × VaList :=
  if isDouble then va.nextDouble else va.nextInt

/-- The words of extra arguments read one after another, each as a double or as an integer or
pointer. -/
def reads : VaList → List Bool → List UInt64
  | _, [] => []
  | va, d :: ds => (va.next d).1 :: reads (va.next d).2 ds

end VaList

namespace Objects

open ImgM Memory InlineC.Lang

/-! ## C values -/

/-- A value of the C type the type table pairs with an argument code, as the caller holds it:
`_Bool`, `char`, the signed and unsigned integers of each width, `float` and `double` by their
bits, a string by the address of its characters and an object by its address. -/
inductive CArg where
  | truth (b : Bool)
  | char (c : Int8)
  | short (v : Int16)
  | int (v : Int32)
  | long (v : Int64)
  | longLong (v : Int64)
  | size (v : Int64)
  | byte (v : UInt8)
  | ushort (v : UInt16)
  | uint (v : UInt32)
  | ulong (v : UInt64)
  | ulongLong (v : UInt64)
  | float (x : Binary32)
  | double (x : Binary64)
  | str (p : UInt64)
  | object (o : UInt64)
  deriving DecidableEq

namespace CArg

/-- The argument code of a value's C type. -/
def code : CArg → ArgCode
  | truth _ => .truth
  | char _ => .char
  | short _ => .short
  | int _ => .int
  | long _ => .long
  | longLong _ => .longLong
  | size _ => .size
  | byte _ => .byte
  | ushort _ => .ushort
  | uint _ => .uint
  | ulong _ => .ulong
  | ulongLong _ => .ulongLong
  | float _ => .float
  | double _ => .double
  | str _ => .str
  | object _ => .object

/-- Whether the value travels as a double. -/
def isDouble : CArg → Bool
  | float _ | double _ => true
  | _ => false

/-- The word the caller passes, after the default argument promotions: `_Bool` and the integers
narrower than `int` widen to `int`, a float widens to a double, and a signed value is
sign-extended. -/
def word : CArg → UInt64
  | truth b => if b then 1 else 0
  | char c => UInt64.ofInt c.toInt
  | short v => UInt64.ofInt v.toInt
  | int v => UInt64.ofInt v.toInt
  | long v | longLong v | size v => UInt64.ofInt v.toInt
  | byte v => v.toUInt64
  | ushort v => v.toUInt64
  | uint v => v.toUInt64
  | ulong v | ulongLong v => v
  | float x => x.toBinary64.bits
  | double x => x.bits
  | str p => p
  | object o => o

/-- The width of the C type, which parsing stores the value at. -/
def kind : CArg → NumKind
  | truth _ | byte _ => .u8
  | char _ => .i8
  | short _ => .i16
  | int _ => .i32
  | long _ | longLong _ | size _ => .i64
  | ushort _ => .u16
  | uint _ => .u32
  | ulong _ | ulongLong _ => .u64
  | float _ => .f32
  | double _ => .f64
  | str _ | object _ => .u64

/-- The octets a string object built of the value holds: one character, none for `'\0'`, or
the characters of a string as `m` holds them. -/
def Chars (m : Memory) : CArg → List UInt8 → Prop
  | char c, s => s = if c.toUInt8 = 0 then [] else [c.toUInt8]
  | str p, s => m.cString p = .ok s
  | _, _ => False

/-- The fields of the object the value builds when it has no parts: a truth value, an integer
(marked unsigned for the unsigned 64-bit types) or a float. -/
def leafCells : CArg → Option Cells
  | truth b => some (Function.update (fresh Obj.bool) .int (if b then 1 else 0))
  | char _ | str _ | object _ => none
  | ulong v | ulongLong v =>
    some (Function.update (Function.update (fresh Obj.integer) .int v) .unsigned 1)
  | float x => some (Function.update (fresh Obj.float) .dbl x.toBinary64.bits)
  | double x => some (Function.update (fresh Obj.float) .dbl x.bits)
  | x => some (Function.update (fresh Obj.integer) .int x.word)

/-- What parsing stores for the value: its word, but for a float the single nearest its
promoted double, and for a string, whose characters `m₀` holds, the address of a copy that `m`
holds. -/
def Stored (m₀ m : Memory) : CArg → UInt64 → Prop
  | float x, y => y = x.toBinary64.toBinary32.bits.toUInt64
  | str p, y => ∃ s, m₀.cString p = .ok s ∧ m.cString y = .ok s
  | x, y => y = x.word

end CArg

/-- The format string of values: their codes' letters. -/
def formatOf (args : List CArg) : List UInt8 := args.map (·.code.letter)

/-! ## What building does to memory -/

/-- Where an access lies depends only on the size of the block it names. -/
theorem locate_congr_size {m m' : Memory} {a : UInt64} (n : Nat)
    (h : (m'.blocks[(a >>> 32).toNat - 1]?).map ByteArray.size =
      (m.blocks[(a >>> 32).toNat - 1]?).map ByteArray.size) :
    m'.locate a n = m.locate a n := by
  unfold locate
  dsimp only
  split
  · rfl
  · cases h1 : m.blocks[(a >>> 32).toNat - 1]? with
    | none =>
      rw [h1, Option.map_none, Option.map_eq_none_iff] at h
      rw [h]
    | some blk =>
      rw [h1, Option.map_some, Option.map_eq_some_iff] at h
      obtain ⟨blk', h2, hsize⟩ := h
      rw [h2]
      dsimp only
      rw [hsize]

/-- An object's fields are what memory reads there. -/
theorem ObjectAt.cells_eq {m : Memory} {o : UInt64} {c c' : Cells} (h : ObjectAt m o c)
    (h' : ObjectAt m o c') : c' = c :=
  funext fun f => Except.ok.inj ((h'.cells f).symm.trans (h.cells f))

/-- How building changes memory, given the blocks `obj` of the objects whose references it
counts and the block `slots` of the tuple's items: it adds blocks, keeps the size of every block
it had, every other such block, and every counted object but its count. -/
structure Keeps (obj : Nat → Prop) (slots : Nat) (m m' : Memory) : Prop where
  size : m.blocks.size ≤ m'.blocks.size
  sizes : ∀ b < m.blocks.size,
    (m'.blocks[b]?).map ByteArray.size = (m.blocks[b]?).map ByteArray.size
  keep : ∀ b < m.blocks.size, ¬ obj b → b ≠ slots → m'.blocks[b]? = m.blocks[b]?
  counts : ∀ b c, obj b → b + 1 < 2 ^ 32 → ObjectAt m (base b) c →
    ∃ r, ObjectAt m' (base b) (Function.update c .refcnt r)

namespace Keeps

variable {obj : Nat → Prop} {slots : Nat} {m m' m'' : Memory}

/-- Memory keeps itself. -/
theorem refl (m : Memory) : Keeps obj slots m m :=
  ⟨le_rfl, fun _ _ => rfl, fun _ _ _ _ => rfl,
    fun _ c _ _ h => ⟨c .refcnt, by rwa [Function.update_eq_self]⟩⟩

/-- Keeping composes. -/
theorem trans (h : Keeps obj slots m m') (h' : Keeps obj slots m' m'') : Keeps obj slots m m'' where
  size := h.size.trans h'.size
  sizes b hb := (h'.sizes b (lt_of_lt_of_le hb h.size)).trans (h.sizes b hb)
  keep b hb ho hs := (h'.keep b (lt_of_lt_of_le hb h.size) ho hs).trans (h.keep b hb ho hs)
  counts b c ho hb hc := by
    obtain ⟨r, hr⟩ := h.counts b c ho hb hc
    obtain ⟨r', hr'⟩ := h'.counts b _ ho hb hr
    exact ⟨r', by rwa [Function.update_idem] at hr'⟩

/-- Adding blocks keeps all there was. -/
theorem of_grows {k : Nat} (hg : m.Grows m' k) : Keeps obj slots m m' where
  size := by rw [hg.size]; omega
  sizes b hb := by rw [hg.old b hb]
  keep b hb _ _ := hg.old b hb
  counts _ c _ _ hc := ⟨c .refcnt, by rw [Function.update_eq_self]; exact hc.grows hg⟩

/-- A store into the slots block keeps the rest. -/
theorem storeAt_slots (hslots : ¬ obj slots) (off n : Nat) (v : UInt64) :
    Keeps obj slots m (m.storeAt slots off n v) where
  size := by simp [Memory.storeAt]
  sizes b _ := storeAt_sameSizes m slots off n v b
  keep _ _ _ hs := storeAt_blocks_ne off n v hs
  counts b c ho hb hc := ⟨c .refcnt, by
    rw [Function.update_eq_self]
    exact hc.congr_block hb (storeAt_blocks_ne off n v fun h => hslots (h ▸ ho))⟩

/-- Counting a reference to a counted object keeps the rest, and the object but its count. -/
theorem count {b : Nat} {c : Cells} (hobj : obj b) (h : ObjectAt m (base b) c) (hb : b + 1 < 2 ^ 32)
    (v : UInt64) : Keeps obj slots m (m.storeAt b 8 8 v) where
  size := by simp [Memory.storeAt]
  sizes b' _ := storeAt_sameSizes m b 8 8 v b'
  keep _ _ ho _ := storeAt_blocks_ne 8 8 v fun h => ho (h ▸ hobj)
  counts b' c' _ hb' hc' := by
    by_cases hbb : b' = b
    · subst hbb
      obtain rfl := h.cells_eq hc'
      exact ⟨v, (h.store_run { (default : Image) with mem := m } rfl hb .refcnt v
        (by simp [Field.width])).2⟩
    · exact ⟨c' .refcnt, by
        rw [Function.update_eq_self]
        exact hc'.congr_block hb' (storeAt_blocks_ne 8 8 v hbb)⟩

end Keeps

namespace Keeps

variable {obj : Nat → Prop} {slots : Nat} {m m' : Memory}

/-- An access that lies in a block still does. -/
theorem locate (h : Keeps obj slots m m') {a : UInt64} {n b off : Nat}
    (hl : m.locate a n = .ok (b, off)) : m'.locate a n = .ok (b, off) := by
  have hb : (a >>> 32).toNat - 1 = b := by
    have := locate_block hl
    unfold blockOf at this
    omega
  obtain ⟨blk, hblk, -⟩ := locate_some hl
  have hs := h.sizes b (Array.getElem?_eq_some_iff.1 hblk).1
  rw [← hb] at hs
  rw [locate_congr_size n hs, hl]

/-- An object in a block other than the slots' keeps its fields but its count. -/
theorem object (h : Keeps obj slots m m') {b : Nat} {c : Cells} (hc : ObjectAt m (base b) c)
    (hb : b + 1 < 2 ^ 32) (hs : b ≠ slots) :
    ∃ r, ObjectAt m' (base b) (Function.update c .refcnt r) := by
  by_cases ho : obj b
  · exact h.counts b c ho hb hc
  · refine ⟨c .refcnt, ?_⟩
    rw [Function.update_eq_self]
    obtain ⟨b₀, blk, hob, hb₀, hblk, -⟩ := hc.block
    obtain rfl := base_inj hb hb₀ hob
    exact hc.congr_block hb (h.keep b (Array.getElem?_eq_some_iff.1 hblk).1 ho hs)

/-- The error cells stay where they are. -/
theorem errorCells {img : Image} {mem : Memory} (h : Keeps obj slots img.mem mem)
    (hc : ErrorCells img) : ErrorCells { img with mem } := by
  obtain ⟨types, ⟨t1, b1, o1, g1, l1⟩, ⟨t2, b2, o2, g2, l2⟩, ⟨t3, b3, o3, g3, l3⟩⟩ := hc
  exact ⟨types, ⟨t1, b1, o1, g1, h.locate l1⟩, ⟨t2, b2, o2, g2, h.locate l2⟩,
    ⟨t3, b3, o3, g3, h.locate l3⟩⟩

end Keeps

/-! ## Words of C values -/

/-- The word of an integer, read back as a 64-bit number. -/
theorem ofInt_toNat (v : Int) : (UInt64.ofInt v).toNat = (v % 2 ^ 64).toNat := by
  rw [UInt64.ofInt, UInt64.toNat_ofNat']
  omega

/-- The word of a 64-bit signed integer reads back as the integer. -/
theorem ofInt_toInt64 {v : Int} (h1 : -2 ^ 63 ≤ v) (h2 : v < 2 ^ 63) :
    (UInt64.ofInt v).toInt64.toInt = v := by
  rw [toInt64_toInt_eq, ofInt_toNat]
  split_ifs <;> omega

/-- Sign-extending the low 32 bits of the word of an `int` gives the word. -/
theorem norm_i32_ofInt {v : Int} (h1 : -2 ^ 31 ≤ v) (h2 : v < 2 ^ 31) :
    Arith.norm .i32 (UInt64.ofInt v) = UInt64.ofInt v := by
  simp only [Arith.norm]
  apply UInt64.toBitVec_inj.1
  simp only [Int64.toBitVec_toUInt64, Int64.toBitVec_shiftRight, UInt64.toBitVec_toInt64,
    UInt64.toBitVec_shiftLeft, UInt64.toBitVec_ofNat, BitVec.ofNat_eq_ofNat, BitVec.reduceMod,
    BitVec.shiftLeft_eq', BitVec.toNat_ofNat, Nat.reducePow, Nat.reduceMod, Int64.toBitVec_ofNat,
    BitVec.reduceSMod, BitVec.sshiftRight_eq']
  -- compare as signed numbers: shifting up and back down by 32 keeps a value of 32 bits
  apply BitVec.eq_of_toInt_eq
  rw [BitVec.toInt_sshiftRight, BitVec.toInt_shiftLeft, BitVec.toInt_eq_toNat_cond,
    UInt64.toNat_toBitVec, ofInt_toNat, Nat.shiftLeft_eq, Int.shiftRight_eq_div_pow, Int.bmod_def]
  push_cast
  split_ifs <;> omega

/-- A word below the sign bit of an `int` is its own sign extension. -/
theorem norm_i32_of_lt {w : UInt64} (h : w.toNat < 2 ^ 31) : Arith.norm .i32 w = w := by
  have hw : UInt64.ofInt (w.toNat : Int) = w := by
    apply UInt64.toNat_inj.1
    rw [ofInt_toNat]
    omega
  rw [← hw]
  exact norm_i32_ofInt (by omega) (by omega)

/-- The low octet of a promoted `char` is the character. -/
theorem char_octet (c : Int8) : UInt8.ofNat (UInt64.ofInt c.toInt).toNat = c.toUInt8 := by
  apply UInt8.toNat_inj.1
  have hc : c.toInt = c.toBitVec.toInt := rfl
  have hu : c.toUInt8.toNat = c.toBitVec.toNat := rfl
  rw [BitVec.toInt_eq_toNat_cond] at hc
  have hlt := c.toBitVec.isLt
  rw [UInt8.toNat_ofNat', ofInt_toNat, hu]
  split_ifs at hc <;> omega

/-- The letter of a code is the character the runtime compares. -/
theorem ArgCode.ofNat_letter (a : ArgCode) : Char.ofNat a.letter.toNat = a.toChar := by
  cases a <;> rfl

/-! ## Building one value -/

/-- The fields of a new string object whose `n` characters are at `p`. -/
def strCells (p n : UInt64) : Cells :=
  Function.update (Function.update (fresh Obj.string) .str p) .count n

/-- A string object of one character has its character where memory can read it. -/
def FirstReadable (m : Memory) (c : Cells) : Prop :=
  c .kind = Obj.string → c .count = 1 → ∃ b off, m.locate (c .str) NumKind.i8.size = .ok (b, off)

/-- What building a value needs of memory `m`, the caller's memory being `m₀`: a string's
characters, as `m₀` holds them, still there and short enough for a block, and an object in a
block `m₀` had, whose one character, for a string of one, can be read. -/
def CArg.Ready (m₀ m : Memory) : CArg → Prop
  | str p => p ≠ 0 ∧ ∃ s, m₀.cString p = .ok s ∧ m.cString p = .ok s ∧ s.length + 1 ≤ maxBlock
  | object o => ∃ b c, o = base b ∧ b < m₀.blocks.size ∧ b + 1 < 2 ^ 32 ∧ ObjectAt m o c ∧
      FirstReadable m c
  | _ => True

/-- The object at `o` is the one building `x` made, as memory `m` holds it, the caller's memory
being `m₀`: a leaf with `x`'s fields or a string of `x`'s characters, in new blocks from `lo` on,
or the object passed, in a block `m₀` had. -/
inductive Made (m₀ m : Memory) (lo : Nat) : CArg → UInt64 → Prop
  | leaf {x : CArg} {b : Nat} {c : Cells} : lo ≤ b → b + 1 < 2 ^ 32 → x.leafCells = some c →
      ObjectAt m (base b) c → Made m₀ m lo x (base b)
  | string {x : CArg} {b : Nat} {s : List UInt8} : lo ≤ b → b + 2 < 2 ^ 32 → x.Chars m₀ s →
      s.length + 1 ≤ maxBlock → ObjectAt m (base b) (strCells (base (b + 1)) s.length.toUInt64) →
      m.cString (base (b + 1)) = .ok s → Made m₀ m lo x (base b)
  | object {b : Nat} {c : Cells} : b < m₀.blocks.size → b + 1 < 2 ^ 32 → ObjectAt m (base b) c →
      FirstReadable m c → Made m₀ m lo (.object (base b)) (base b)

/-- A made object stays made while building goes on elsewhere: its new blocks are neither
counted nor the slots', and a passed object keeps all but its count. -/
theorem Made.keeps {obj : Nat → Prop} {slots : Nat} {m₀ m m' : Memory} {lo : Nat} {x : CArg}
    {o : UInt64} (h : Made m₀ m lo x o) (hk : Keeps obj slots m m')
    (hfresh : ∀ b, lo ≤ b → ¬ obj b ∧ b ≠ slots) (hslots : m₀.blocks.size ≤ slots) :
    Made m₀ m' lo x o := by
  cases h with
  | leaf hlo hb hc ho =>
    obtain ⟨b₀, blk, hob, hb₀, hblk, -⟩ := ho.block
    obtain rfl := base_inj hb hb₀ hob
    exact .leaf hlo hb hc (ho.congr_block hb
      (hk.keep _ (Array.getElem?_eq_some_iff.1 hblk).1 (hfresh _ hlo).1 (hfresh _ hlo).2))
  | @string x b s hlo hb hs hlen ho hstr =>
    obtain ⟨b₀, blk, hob, hb₀, hblk, -⟩ := ho.block
    obtain rfl := base_inj (by omega) hb₀ hob
    obtain ⟨d, off, hl⟩ := locate_of_cString hstr
    have hd := block_lt_of_locate hl
    rw [blockOf, blockIndex_base (by omega)] at hd
    have hkeep := hk.keep (b + 1) hd (hfresh _ (by omega)).1 (hfresh _ (by omega)).2
    refine .string hlo hb hs hlen (ho.congr_block (by omega)
      (hk.keep _ (Array.getElem?_eq_some_iff.1 hblk).1 (hfresh _ hlo).1 (hfresh _ hlo).2)) ?_
    rw [cString_congr (m := m) (by rw [blockIndex_base (by omega)]; exact hkeep), hstr]
  | object hlt hb ho hfirst =>
    obtain ⟨r, hr⟩ := hk.object ho hb (by omega)
    refine .object hlt hb hr fun hk' hc' => ?_
    simp only [ne_eq, reduceCtorEq, not_false_eq_true, Function.update_of_ne] at hk' hc' ⊢
    obtain ⟨d, off, hl⟩ := hfirst hk' hc'
    exact ⟨d, off, hk.locate hl⟩

/-- A word of 32 bits is its own low 32 bits. -/
theorem norm_u32_of_lt {w : UInt64} (h : w.toNat < 2 ^ 32) : Arith.norm .u32 w = w := by
  apply UInt64.toNat_inj.1
  simp only [Arith.norm, UInt64.toNat_and]
  rw [show (0xFFFFFFFF : UInt64).toNat = 2 ^ 32 - 1 from rfl, Nat.and_two_pow_sub_one_eq_mod]
  omega

/-- Making an unsigned integer object takes one new block. -/
theorem newUint_run {img : Image} (v : UInt64) (hb : img.mem.blocks.size + 1 < 2 ^ 32) :
    ∃ mem, (newUint v).run img = .ok (base img.mem.blocks.size, { img with mem }) ∧
      img.mem.Grows mem 1 ∧ ObjectAt mem (base img.mem.blocks.size)
        (Function.update (Function.update (fresh Obj.integer) .int v) .unsigned 1) := by
  obtain ⟨mem₁, hrun₁, hg₁, h₁⟩ := allocObject_run (k := Obj.integer) (by decide) hb
  obtain ⟨mem₂, hrun₂, hg₂, h₂⟩ := store_field_run { img with mem := mem₁ } hg₁ le_rfl hb h₁ .int v
    (by simp [Field.width])
  obtain ⟨mem₃, hrun₃, hg₃, h₃⟩ := store_field_run { img with mem := mem₂ } hg₂ le_rfl hb h₂
    .unsigned 1 (fun _ => by decide)
  refine ⟨mem₃, ?_, hg₃, h₃⟩
  unfold newUint
  refine run_bind_eq_ok.2 ⟨_, _, hrun₁, ?_⟩
  simp only [bne_iff_ne, ne_eq, base_ne_zero hb, not_false_eq_true, if_true]
  refine run_bind_eq_ok.2 ⟨(), _, hrun₂, ?_⟩
  exact run_bind_eq_ok.2 ⟨(), _, hrun₃, rfl⟩

/-- The count `cx_incref` leaves: one more, but for an object that is never released, whose
count is negative. -/
def increfCount (r : UInt64) : UInt64 := if r.toInt64 ≥ 0 then r + 1 else r

/-- Counting a reference to an object: its count goes up by one unless it is negative. -/
theorem incref_run {img : Image} {b : Nat} {c : Cells} (h : ObjectAt img.mem (base b) c)
    (hb : b + 1 < 2 ^ 32) :
    ∃ mem, (incref (base b)).run img = .ok ((), { img with mem }) ∧
      (mem = img.mem ∨ mem = img.mem.storeAt b 8 8 (c .refcnt + 1)) ∧
      ObjectAt mem (base b) (Function.update c .refcnt (increfCount (c .refcnt))) := by
  unfold incref
  simp only [beq_iff_eq, base_ne_zero hb, if_false]
  have hload : (load64 (base b + Obj.refcnt)).run img = .ok (c .refcnt, img) := h.load_run .refcnt
  rw [run_bind_of_ok hload]
  by_cases hr : (c .refcnt).toInt64 ≥ 0
  · obtain ⟨hrun, h'⟩ := h.store_run img rfl hb .refcnt (c .refcnt + 1) (by simp [Field.width])
    exact ⟨_, by rw [if_pos hr]; exact hrun, .inr rfl, by rwa [increfCount, if_pos hr]⟩
  · refine ⟨img.mem, by simp only [hr, if_false]; rfl, .inl rfl, ?_⟩
    rwa [increfCount, if_neg hr, Function.update_eq_self]

/-- A string object of one character keeps its character readable as building goes on. -/
theorem FirstReadable.keeps {obj : Nat → Prop} {slots : Nat} {m m' : Memory} {c : Cells}
    (h : FirstReadable m c) (hk : Keeps obj slots m m') (r : UInt64) :
    FirstReadable m' (Function.update c .refcnt r) := by
  intro hkind hcount
  simp only [ne_eq, reduceCtorEq, not_false_eq_true, Function.update_of_ne] at hkind hcount ⊢
  obtain ⟨d, off, hl⟩ := h hkind hcount
  exact ⟨d, off, hk.locate hl⟩

/-- Two actions that run alike on a state run alike when followed by the same one. -/
theorem run_bind_congr {σ ε α β : Type} {x y : StateT σ (Except ε) α} {f : α → StateT σ (Except ε) β}
    {s : σ} (h : x.run s = y.run s) : (x >>= f).run s = (y >>= f).run s := by
  simp only [StateT.run_bind, h]

/-- What building value `x` does to the objects memory `m` holds: nothing, but for an object
passed, whose count `cx_incref` raises. -/
def Raises (x : CArg) (m m' : Memory) : Prop :=
  ∀ b c, b + 1 < 2 ^ 32 → ObjectAt m (base b) c →
    ObjectAt m' (base b)
      (if x = .object (base b) then Function.update c .refcnt (increfCount (c .refcnt)) else c)

/-- A value other than an object leaves every object as it was when memory only grows. -/
theorem Raises.of_grows {x : CArg} {m m' : Memory} {k : Nat} (hx : ∀ o, x ≠ .object o)
    (hg : m.Grows m' k) : Raises x m m' := fun _ _ _ h => by
  rw [if_neg (hx _)]
  exact h.grows hg

section BuildOne

variable {obj : Nat → Prop} {m₀ : Memory} {I : Image} {va' : VaList} {x : CArg}

/-- Building a value into a new object with no parts. -/
theorem made_leaf {act : ImgM UInt64} {c : Cells} (hc : x.leafCells = some c)
    (hroom : I.mem.blocks.size + 2 < 2 ^ 32)
    (h : ∃ mem, act.run I = .ok (base I.mem.blocks.size, { I with mem }) ∧
      I.mem.Grows mem 1 ∧ ObjectAt mem (base I.mem.blocks.size) c) :
    ∃ o mem, (do let o ← act; pure (o, va')).run I = .ok ((o, va'), { I with mem }) ∧
      (∀ slots, Keeps obj slots I.mem mem) ∧ Raises x I.mem mem ∧
      mem.blocks.size ≤ I.mem.blocks.size + 2 ∧ Made m₀ mem I.mem.blocks.size x o := by
  obtain ⟨mem, hrun, hg, ho⟩ := h
  have hx : ∀ o, x ≠ .object o := by
    rintro o rfl
    simp [CArg.leafCells] at hc
  exact ⟨_, mem, run_bind_eq_ok.2 ⟨_, _, hrun, rfl⟩, fun _ => .of_grows hg, .of_grows hx hg,
    by rw [hg.size]; omega, .leaf le_rfl (by omega) hc ho⟩

/-- Building a value into a new string object of its characters. -/
theorem made_string {s : List UInt8} (hs : x.Chars m₀ s) (hlen : s.length + 1 ≤ maxBlock)
    (hz : (0 : UInt8) ∉ s) (hroom : I.mem.blocks.size + 2 < 2 ^ 32) :
    ∃ o mem, (do let o ← newStrBytes s; pure (o, va')).run I = .ok ((o, va'), { I with mem }) ∧
      (∀ slots, Keeps obj slots I.mem mem) ∧ Raises x I.mem mem ∧
      mem.blocks.size ≤ I.mem.blocks.size + 2 ∧ Made m₀ mem I.mem.blocks.size x o := by
  obtain ⟨mem, hrun, hg, ho, hstr⟩ := newStrBytes_run s hlen hroom hz
  have hx : ∀ o, x ≠ .object o := by
    rintro o rfl
    exact hs
  exact ⟨_, mem, run_bind_eq_ok.2 ⟨_, _, hrun, rfl⟩, fun _ => .of_grows hg, .of_grows hx hg,
    by rw [hg.size], .string le_rfl hroom hs hlen ho hstr⟩

/-- Building one value reads its word from the argument list and makes its object, in at most two
new blocks. -/
theorem buildOne_run {va : VaList} (hva : va.next x.isDouble = (x.word, va'))
    (hroom : I.mem.blocks.size + 2 < 2 ^ 32) (hx : x.Ready m₀ I.mem)
    (hobj : ∀ b, x = .object (base b) → b < m₀.blocks.size → obj b) :
    ∃ o mem, (buildOne x.code.letter va).run I = .ok ((o, va'), { I with mem }) ∧
      (∀ slots, Keeps obj slots I.mem mem) ∧ Raises x I.mem mem ∧
      mem.blocks.size ≤ I.mem.blocks.size + 2 ∧ Made m₀ mem I.mem.blocks.size x o := by
  cases x <;> simp only [CArg.isDouble, VaList.next, Bool.false_eq_true, if_false, if_true] at hva <;>
    simp only [buildOne, ArgCode.ofNat_letter, CArg.code, ArgCode.toChar, hva, Char.isValue,
      Char.reduceBEq, Bool.false_eq_true, reduceIte, Bool.or_self, BEq.rfl, Bool.or_true,
      Bool.true_or]
  case truth b =>
    have hv : (if Arith.norm .i32 (Arith.norm .i32 (CArg.truth b).word) == 0 then 0 else 1) =
        if b then (1 : UInt64) else 0 := by
      cases b <;> rfl
    have h := @newBool_run I (Arith.norm .i32 (CArg.truth b).word) (by omega)
    rw [hv] at h
    exact made_leaf rfl hroom h
  case char c =>
    rw [show (CArg.char c).word = UInt64.ofInt c.toInt from rfl, char_octet]
    simp only [beq_iff_eq]
    refine made_string rfl ?_ ?_ hroom <;> split_ifs with h0
    · simp [maxBlock]
    · simp [maxBlock]
    · simp
    · simpa using Ne.symm h0
  case short v =>
    have hn : Arith.norm .i32 (CArg.short v).word = (CArg.short v).word :=
      norm_i32_ofInt (by have := v.le_toInt; omega) (by have := v.toInt_lt; omega)
    rw [hn]
    exact made_leaf rfl hroom (newInt_run _ (by omega))
  case int v =>
    have hn : Arith.norm .i32 (CArg.int v).word = (CArg.int v).word :=
      norm_i32_ofInt v.le_toInt v.toInt_lt
    rw [hn]
    exact made_leaf rfl hroom (newInt_run _ (by omega))
  case long v => exact made_leaf rfl hroom (newInt_run _ (by omega))
  case longLong v => exact made_leaf rfl hroom (newInt_run _ (by omega))
  case size v => exact made_leaf rfl hroom (newInt_run _ (by omega))
  case byte v =>
    rw [norm_i32_of_lt (by have := v.toNat_lt; simp only [CArg.word, UInt8.toNat_toUInt64]; omega)]
    exact made_leaf rfl hroom (newInt_run _ (by omega))
  case ushort v =>
    rw [norm_i32_of_lt (by have := v.toNat_lt; simp only [CArg.word, UInt16.toNat_toUInt64]; omega)]
    exact made_leaf rfl hroom (newInt_run _ (by omega))
  case uint v =>
    rw [norm_u32_of_lt (by have := v.toNat_lt; simp only [CArg.word, UInt32.toNat_toUInt64]; omega)]
    exact made_leaf rfl hroom (newInt_run _ (by omega))
  case ulong v => exact made_leaf rfl hroom (newUint_run _ (by omega))
  case ulongLong v => exact made_leaf rfl hroom (newUint_run _ (by omega))
  case float x => exact made_leaf rfl hroom (newFloat_run _ (by omega))
  case double x => exact made_leaf rfl hroom (newFloat_run _ (by omega))
  case str p =>
    obtain ⟨hp, s, hs₀, hs, hlen⟩ := hx
    have hp' : (p == 0) = false := by simpa using hp
    have hnew : (newStr p).run I = (newStrBytes s).run I := by
      unfold newStr
      rw [hp', if_neg Bool.false_ne_true]
      exact run_bind_of_ok (Host.cString_run hs)
    rw [show (CArg.str p).word = p from rfl, hp', if_neg Bool.false_ne_true, run_bind_congr hnew]
    exact made_string hs₀ hlen (cString_no_zero hs) hroom
  case object o =>
    obtain ⟨b, c, rfl, hlt, hb, ho, hfirst⟩ := hx
    have h0 : (base b == 0) = false := by simpa using base_ne_zero hb
    rw [show (CArg.object (base b)).word = base b from rfl, h0, if_neg Bool.false_ne_true]
    obtain ⟨mem, hrun, hmem, hcount⟩ := incref_run ho hb
    -- the count goes up, or stays for an object that is never released
    have hk : ∀ slots, Keeps obj slots I.mem mem := by
      rcases hmem with rfl | rfl
      · exact fun _ => .refl _
      · exact fun _ => .count (hobj b rfl hlt) ho hb _
    have hraises : Raises (.object (base b)) I.mem mem := by
      intro b' c' hb' ho'
      by_cases hbb : b' = b
      · subst hbb
        obtain rfl := ho.cells_eq ho'
        rwa [if_pos rfl]
      · rw [if_neg fun h => hbb (base_inj hb' hb (CArg.object.inj h).symm)]
        refine ho'.congr_block hb' ?_
        rcases hmem with rfl | rfl
        · rfl
        · exact storeAt_blocks_ne _ _ _ hbb
    obtain ⟨r, hr⟩ := (hk 0).counts b c (hobj b rfl hlt) hb ho
    exact ⟨_, mem, run_bind_eq_ok.2 ⟨(), _, hrun, rfl⟩, hk, hraises,
      by rcases hmem with rfl | rfl <;> simp [Memory.storeAt], .object hlt hb hr (hfirst.keeps (hk 0) r)⟩

end BuildOne

/-- A made object stays made for any lower bound of the new blocks. -/
theorem Made.mono {m₀ m : Memory} {lo lo' : Nat} {x : CArg} {o : UInt64} (h : Made m₀ m lo x o)
    (hle : lo' ≤ lo) : Made m₀ m lo' x o := by
  cases h with
  | leaf hlo hb hc ho => exact .leaf (le_trans hle hlo) hb hc ho
  | string hlo hb hs hlen ho hstr => exact .string (le_trans hle hlo) hb hs hlen ho hstr
  | object hlt hb ho hfirst => exact .object hlt hb ho hfirst

/-- A value stays ready while building goes on elsewhere: a string's characters lie in a block
of the caller's memory that no counted object shares, and a passed object keeps all but its
count. -/
theorem CArg.Ready.keeps {obj : Nat → Prop} {slots : Nat} {m₀ m m' : Memory} {x : CArg}
    (h : x.Ready m₀ m) (hk : Keeps obj slots m m') (hslots : m₀.blocks.size ≤ slots)
    (hsep : ∀ p, x = .str p → ∀ b, obj b → blockOf p ≠ b + 1) : x.Ready m₀ m' := by
  cases x with
  | str p =>
    obtain ⟨hp, s, hs₀, hs, hlen⟩ := h
    obtain ⟨d, off, hl₀⟩ := locate_of_cString hs₀
    obtain ⟨d', off', hl⟩ := locate_of_cString hs
    have hd₀ := locate_block hl₀
    have hd := locate_block hl
    have hlt₀ := block_lt_of_locate hl₀
    have hlt := block_lt_of_locate hl
    have hkeep := hk.keep (blockOf p - 1) hlt
      (fun hobj => hsep p rfl _ hobj (by omega)) (by omega)
    exact ⟨hp, s, hs₀, by rw [cString_congr hkeep, hs], hlen⟩
  | object o =>
    obtain ⟨b, c, rfl, hlt, hb, ho, hfirst⟩ := h
    obtain ⟨r, hr⟩ := hk.object ho hb (by omega)
    exact ⟨b, _, rfl, hlt, hb, hr, hfirst.keeps hk r⟩
  | _ => trivial

/-- A loop over a list each of whose steps goes on, keeping an invariant of the items left,
ends with the invariant of none left. -/
theorem forIn_run_yield {σ ε α β : Type} (f : α → β → StateT σ (Except ε) (ForInStep β))
    (Inv : List α → β → σ → Prop)
    (step : ∀ a l b s, Inv (a :: l) b s →
      ∃ b' s', (f a b).run s = .ok (.yield b', s') ∧ Inv l b' s') :
    ∀ l b s, Inv l b s → ∃ b' s', (forIn l b f).run s = .ok (b', s') ∧ Inv [] b' s'
  | [], b, s, h => ⟨b, s, rfl, h⟩
  | a :: l, b, s, h => by
    obtain ⟨b', s', hrun, h'⟩ := step a l b s h
    obtain ⟨b'', s'', hrest, h''⟩ := forIn_run_yield f Inv step l b' s' h'
    exact ⟨b'', s'', by rw [List.forIn_cons, run_bind_of_ok hrun]; exact hrest, h''⟩

/-- The same, for a loop followed by more: the whole ends as what follows ends from where the
loop left off. -/
theorem forIn_bind_run_yield {σ ε α β γ : Type} {f : α → β → StateT σ (Except ε) (ForInStep β)}
    {k : β → StateT σ (Except ε) γ} (Inv : List α → β → σ → Prop)
    (step : ∀ a l b s, Inv (a :: l) b s →
      ∃ b' s', (f a b).run s = .ok (.yield b', s') ∧ Inv l b' s')
    {l : List α} {b : β} {s : σ} (hinit : Inv l b s) {P : γ → σ → Prop}
    (hk : ∀ b' s', Inv [] b' s' → ∃ r s'', (k b').run s' = .ok (r, s'') ∧ P r s'') :
    ∃ r s'', (forIn l b f >>= k).run s = .ok (r, s'') ∧ P r s'' := by
  obtain ⟨b', s', hloop, hinv⟩ := forIn_run_yield f Inv step l b s hinit
  rw [run_bind_of_ok hloop]
  exact hk b' s' hinv


/-! ## Building a tuple -/

/-- A place in the first 2^32 octets from a block's address lies in that block. -/
theorem blockOf_base_add {b : Nat} (x : UInt64) (hb : b + 1 < 2 ^ 32) (hx : x.toNat < 2 ^ 32) :
    blockOf (base b + x) = b + 1 := by
  have hbase : (base b).toNat = (b + 1) * 2 ^ 32 := by
    rw [base, UInt64.toNat_ofNat', show Nat.pow 2 32 = 2 ^ 32 from rfl]
    exact Nat.mod_eq_of_lt (by omega)
  have hsum : (base b + x).toNat = (b + 1) * 2 ^ 32 + x.toNat := by
    rw [UInt64.toNat_add, hbase]
    exact Nat.mod_eq_of_lt (by omega)
  rw [blockOf, UInt64.toNat_shiftRight, hsum, show (32 : UInt64).toNat % 64 = 32 from rfl,
    Nat.shiftRight_eq_div_pow]
  omega

/-- The block of a block's base address is that block. -/
theorem blockOf_base {b : Nat} (hb : b + 1 < 2 ^ 32) : blockOf (base b) = b + 1 := by
  simpa using blockOf_base_add 0 hb (by decide)

/-- The blocks of the objects passed among `args`, in the caller's memory `m₀`: the objects
whose references building counts. -/
def Passed (m₀ : Memory) (args : List CArg) (b : Nat) : Prop :=
  b < m₀.blocks.size ∧ CArg.object (base b) ∈ args

/-- No string passed shares a block with an object passed. -/
def Apart (args : List CArg) : Prop :=
  ∀ p o, CArg.str p ∈ args → CArg.object o ∈ args → blockOf p ≠ blockOf o

/-- The counts of the objects of the caller's memory `m₀` once `done` are built: each raised,
as `cx_incref` raises it, once for every time it was passed. -/
def Counted (m₀ : Memory) (done : List CArg) (m : Memory) : Prop :=
  ∀ b c, b + 1 < 2 ^ 32 → ObjectAt m₀ (base b) c →
    ObjectAt m (base b)
      (Function.update c .refcnt (increfCount^[done.count (.object (base b))] (c .refcnt)))

/-- Building the items of a tuple of `args`, `done` built into memory `m` and the extra
arguments `va` left for `todo`. The tuple's object is in block `n` of memory `mT`, its slots in
block `n + 1`, `n` being the size of the caller's memory `m₀`; the items built sit in the first
slots, made in blocks past both, and null fills the rest. Each value left is ready, or a null
object, at which building stops; the objects of the caller's memory hold their counts raised
for the objects passed so far. -/
structure Building (m₀ mT : Memory) (args done todo : List CArg) (va : VaList) (m : Memory) :
    Prop where
  split : args = done ++ todo
  reads : va.reads (todo.map CArg.isDouble) = todo.map CArg.word
  keeps : Keeps (Passed m₀ args) (m₀.blocks.size + 1) mT m
  size : m.blocks.size ≤ mT.blocks.size + 2 * done.length
  slots : ∃ objs, SlotsAt m (base (m₀.blocks.size + 1)) (objs ++ List.replicate todo.length 0) ∧
    List.Forall₂ (Made m₀ m (m₀.blocks.size + 2)) done objs
  ready : ∀ x ∈ todo, x.Ready m₀ m ∨ x = .object 0
  counted : Counted m₀ done m

section Building

variable {m₀ mT m : Memory} {args done todo : List CArg} {va : VaList}

/-- A string passed is apart from every counted block. -/
theorem Apart.passed (h : Apart args) {x : CArg} (hx : x ∈ args) (p : UInt64) (hp : x = .str p)
    (b : Nat) (hb : Passed m₀ args b) (hroom : m₀.blocks.size < 2 ^ 32) : blockOf p ≠ b + 1 := by
  subst hp
  rw [← blockOf_base (by have := hb.1; omega)]
  exact h p _ hx hb.2

/-- The tuple build starts in its loop's invariant, with nothing built yet. -/
theorem Building.start (hg : m₀.Grows mT 2) (hroom : m₀.blocks.size + 2 < 2 ^ 32)
    (hslots : SlotsAt mT (base (m₀.blocks.size + 1)) (List.replicate args.length 0))
    (hva : va.reads (args.map CArg.isDouble) = args.map CArg.word)
    (hready : ∀ x ∈ args, x.Ready m₀ m₀ ∨ x = .object 0) (hapart : Apart args) :
    Building m₀ mT args [] args va mT where
  split := rfl
  reads := hva
  keeps := .refl mT
  size := by simp
  slots := ⟨[], by simpa using hslots, .nil⟩
  ready x hx := (hready x hx).imp_left fun h => h.keeps
    (show Keeps (Passed m₀ args) (m₀.blocks.size + 1) m₀ mT from .of_grows hg) (by omega)
    fun p hp b hb => hapart.passed hx p hp b hb (by omega)
  counted b c _ h := by simpa using h.grows hg

/-- A made object is not null. -/
theorem Made.ne_zero {m₀ m : Memory} {lo : Nat} {x : CArg} {o : UInt64} (h : Made m₀ m lo x o) :
    o ≠ 0 := by
  cases h with
  | leaf _ hb => exact base_ne_zero hb
  | string _ hb => exact base_ne_zero (by omega)
  | object _ hb => exact base_ne_zero hb

/-- One turn of the loop: the next value is built into an object that is not null, the object
is stored into its slot, and building goes on with the value done. -/
theorem Building.next {I : Image} {x : CArg} (h : Building m₀ mT args done (x :: todo) va m)
    (hT : mT.blocks.size = m₀.blocks.size + 2) (hroom : m.blocks.size + 2 < 2 ^ 32)
    (hapart : Apart args) (hnull : x ≠ .object 0) :
    ∃ o va' m₁, (buildOne x.code.letter va).run { I with mem := m } =
        .ok ((o, va'), { I with mem := m₁ }) ∧ o ≠ 0 ∧
      (store64 (base (m₀.blocks.size + 1) + 8 * done.length.toUInt64) o).run
          { I with mem := m₁ } =
        .ok ((), { I with mem := m₁.storeAt (m₀.blocks.size + 1) (8 * done.length) 8 o }) ∧
      Building m₀ mT args (done ++ [x]) todo va'
        (m₁.storeAt (m₀.blocks.size + 1) (8 * done.length) 8 o) := by
  obtain ⟨hsplit, hreads, hkeeps, hsize, ⟨objs, hslots, hmade⟩, hready, hcounted⟩ := h
  have hx : x ∈ args := by simp [hsplit]
  have hxready : x.Ready m₀ m := (hready x List.mem_cons_self).resolve_right hnull
  have hmT : m₀.blocks.size + 2 ≤ m.blocks.size := hT ▸ hkeeps.size
  -- the next extra argument is the value's word
  simp only [List.map_cons, VaList.reads, List.cons.injEq] at hreads
  obtain ⟨hword, hrest⟩ := hreads
  obtain ⟨o, m₁, hrun, hk₁, hraises, hsize₁, hmade₁⟩ := buildOne_run (I := { I with mem := m })
    (show va.next x.isDouble = (x.word, (va.next x.isDouble).2) from Prod.ext hword rfl) hroom
    hxready (fun b hb hlt => (⟨hlt, hb ▸ hx⟩ : Passed m₀ args b))
  dsimp only at hrun hk₁ hraises hsize₁ hmade₁
  -- building leaves the slots alone, and the store into the next slot keeps the rest
  have hslots₁ := hslots.congr_block (by omega)
    ((hk₁ m₀.blocks.size).keep _ (by omega) (fun hp => absurd hp.1 (by omega)) (by omega))
  have hlen : objs.length = done.length := hmade.length_eq.symm
  obtain ⟨hstore, hslots₂⟩ := hslots₁.store_run { I with mem := m₁ } (by omega)
    (show done.length < (objs ++ List.replicate (todo.length + 1) 0).length by simp [hlen]) o
  have hk₂ : Keeps (Passed m₀ args) (m₀.blocks.size + 1) m
      (m₁.storeAt (m₀.blocks.size + 1) (8 * done.length) 8 o) :=
    (hk₁ _).trans (.storeAt_slots (fun hp => absurd hp.1 (by omega)) _ _ o)
  have hfresh : ∀ b, m₀.blocks.size + 2 ≤ b → ¬ Passed m₀ args b ∧ b ≠ m₀.blocks.size + 1 :=
    fun b hb => ⟨fun hp => absurd hp.1 (by omega), by omega⟩
  refine ⟨o, _, m₁, hrun, hmade₁.ne_zero, hstore, ?_⟩
  refine ⟨by simp [hsplit], hrest, hkeeps.trans hk₂, ?_, ⟨objs ++ [o], ?_, ?_⟩, ?_, ?_⟩
  · simp only [Memory.storeAt, Array.size_modify, List.length_append, List.length_singleton]
    omega
  · rw [← hlen, List.set_append_right _ _ le_rfl, Nat.sub_self] at hslots₂
    simpa [hlen, List.replicate_succ] using hslots₂
  · refine List.rel_append (hmade.imp fun _ _ hm => hm.keeps hk₂ hfresh (by omega)) ?_
    refine .cons (Made.mono (hmade₁.keeps (.storeAt_slots (fun hp => absurd hp.1 (by omega)) _ _ o)
      (fun b hb => hfresh b (by omega)) (by omega)) hmT) .nil
  · intro y hy
    have hy' : y ∈ args := by simp [hsplit, hy]
    exact (hready y (List.mem_cons_of_mem _ hy)).imp_left fun h => h.keeps hk₂ (by omega)
      fun p hp b hb => hapart.passed hy' p hp b hb (by omega)
  · -- an object of the caller's memory has its count raised once more when it is the value
    intro b c hb hc
    have hlt : b < m₀.blocks.size := by
      obtain ⟨b', blk, hob, hb', hblk, -⟩ := hc.block
      obtain rfl := base_inj hb hb' hob
      exact (Array.getElem?_eq_some_iff.1 hblk).1
    have h₁ := hraises b _ hb (hcounted b c hb hc)
    refine (ObjectAt.congr_block ?_ hb (storeAt_blocks_ne _ _ _ (by omega)))
    simp only [List.count_append, List.count_singleton, beq_iff_eq]
    by_cases hxb : x = .object (base b)
    · rw [if_pos hxb, Function.update_idem, Function.update_self] at h₁
      rwa [if_pos hxb, Function.iterate_succ_apply']
    · rw [if_neg hxb] at h₁
      rwa [if_neg hxb, Nat.add_zero]

/-- The loop of a tuple build as it runs: the codes left are those of `todo`, numbered from the
count of `done`, nothing has failed, and building is as `Building` says. -/
def BuildLoop (img : Image) (mT : Memory) (args : List CArg) (l : List (UInt8 × Nat))
    (st : Option UInt64 × VaList) (s : Image) : Prop :=
  ∃ done todo m, l = (formatOf todo).zipIdx done.length ∧ st.1 = none ∧
    s = { img with mem := m } ∧ Building img.mem mT args done todo st.2 m

/-- The letters of codes hold no colon, so a format of codes is all codes. -/
theorem formatCodes_formatOf (args : List CArg) : formatCodes (formatOf args) = formatOf args := by
  refine List.takeWhile_eq_self_iff.2 fun c hc => ?_
  obtain ⟨x, -, rfl⟩ := List.mem_map.1 hc
  cases x <;> rfl

/-- The fields of a new tuple of `n` items whose slots are at `q`. -/
def tupleCells (q n : UInt64) : Cells :=
  Function.update (Function.update (fresh Obj.tuple) .items q) .count n

/-- What building a tuple of `args` from image `img` leaves: the tuple at `t`, in the next
block, its slots in the block after, holding an object made for each value in blocks past both;
the blocks of the caller's memory stay, but for the counts of the objects passed. -/
structure TupleBuilt (img : Image) (args : List CArg) (t : UInt64) (img₁ : Image) : Prop where
  addr : t = base img.mem.blocks.size
  image : img₁ = { img with mem := img₁.mem }
  keeps : Keeps (Passed img.mem args) (img.mem.blocks.size + 1) img.mem img₁.mem
  size : img₁.mem.blocks.size ≤ img.mem.blocks.size + 2 + 2 * args.length
  tuple : ObjectAt img₁.mem t (tupleCells (base (img.mem.blocks.size + 1)) args.length.toUInt64)
  items : ∃ objs, SlotsAt img₁.mem (base (img.mem.blocks.size + 1)) objs ∧
    List.Forall₂ (Made img.mem img₁.mem (img.mem.blocks.size + 2)) args objs

/-- A null object is never ready. -/
theorem CArg.Ready.ne_null {m₀ m : Memory} {x : CArg} (h : x.Ready m₀ m) : x ≠ .object 0 := by
  rintro rfl
  obtain ⟨b, c, hb0, -, hb, -⟩ := h
  exact base_ne_zero hb hb0.symm

/-- One turn of `cx_vbuild`'s loop over the tuple `t` with slots at `items`: build the value of
the next code and store it into its slot, or, when building it failed, release the tuple and
answer null. -/
def buildTurn (t items : UInt64) (a : UInt8 × Nat) (st : Option UInt64 × VaList) :
    ImgM (ForInStep (Option UInt64 × VaList)) := do
  let x ← buildOne a.1 st.2
  if x.1 == 0 then
    decref releaseDepth t
    pure (.done (some 0, x.2))
  else
    store64 (items + 8 * a.2.toUInt64) x.1
    pure (.yield (none, x.2))

/-- A turn at a value that is not a null object builds it, stores it into its slot, and goes on
with the value done. -/
theorem Building.turn {I : Image} {t : UInt64} {x : CArg}
    (h : Building m₀ mT args done (x :: todo) va m) (hT : mT.blocks.size = m₀.blocks.size + 2)
    (hroom : m.blocks.size + 2 < 2 ^ 32) (hapart : Apart args) (hnull : x ≠ .object 0) :
    ∃ va' m', (buildTurn t (base (m₀.blocks.size + 1)) (x.code.letter, done.length) (none, va)).run
        { I with mem := m } = .ok (.yield (none, va'), { I with mem := m' }) ∧
      Building m₀ mT args (done ++ [x]) todo va' m' := by
  obtain ⟨o, va', m₁, hrun, ho, hstore, hnext⟩ := h.next (I := I) hT hroom hapart hnull
  refine ⟨va', _, ?_, hnext⟩
  unfold buildTurn
  rw [run_bind_of_ok hrun]
  simp only [beq_iff_eq, ho, if_false]
  rw [run_bind_of_ok hstore]
  rfl

/-- Building a tuple of values whose extra arguments are their words, where the memory has room
for a block per value and two more; the objects of the caller's memory end with their counts
raised once for each time they were passed. -/
theorem buildTuple_run_counted {img : Image} {args : List CArg} {va : VaList}
    (hroom : img.mem.blocks.size + 2 * args.length + 4 < 2 ^ 32)
    (hcount : 8 * max args.length 1 ≤ maxBlock)
    (hva : va.reads (args.map CArg.isDouble) = args.map CArg.word)
    (hready : ∀ x ∈ args, x.Ready img.mem img.mem) (hapart : Apart args) :
    ∃ t img₁, (vbuild (formatOf args) va true).run img = .ok (t, img₁) ∧
      TupleBuilt img args t img₁ ∧ Counted img.mem args img₁.mem := by
  set n := img.mem.blocks.size with hn
  obtain ⟨mT, hrunT, hgT, htuple, hslotsT⟩ := @newTuple_run img args.length hcount (by omega)
  have hload : (load64 (base n + Obj.items)).run { img with mem := mT } =
      .ok (base (n + 1), { img with mem := mT }) := by
    exact (ObjectAt.load_run
      (show ObjectAt ({ img with mem := mT } : Image).mem (base n) _ from htuple) .items).trans rfl
  have hlen : (formatOf args).length = args.length := by simp [formatOf]
  unfold vbuild
  simp only [formatCodes_formatOf, hlen, Bool.not_true, Bool.false_eq_true, if_false]
  rw [run_bind_of_ok hrunT, if_neg (by simpa using base_ne_zero (by omega)), run_bind_of_ok hload]
  refine @forIn_bind_run_yield _ _ _ _ _ (buildTurn (base n) (base (n + 1))) _
    (BuildLoop img mT args) ?_ _ _ _ ⟨[], args, mT, rfl, rfl, rfl,
      Building.start hgT (by omega) hslotsT hva (fun x hx => .inl (hready x hx)) hapart⟩ _ ?_
  · -- a turn of the loop builds the next value and stores it into its slot
    rintro a l ⟨r, va'⟩ s ⟨done, todo, m, hl, hnone, rfl, hb⟩
    dsimp only at hnone
    subst hnone
    cases todo with
    | nil => simp [formatOf] at hl
    | cons x todo =>
      simp only [formatOf, List.map_cons, List.zipIdx_cons, List.cons.injEq] at hl
      obtain ⟨rfl, rfl⟩ := hl
      have hargs := congrArg List.length hb.split
      simp only [List.length_append, List.length_cons] at hargs
      have hsize := hb.size
      have hx : x ∈ args := by simp [hb.split]
      obtain ⟨va'', m', hrun, hnext⟩ := hb.turn (I := img) (by rw [hgT.size])
        (by rw [hgT.size] at hsize; omega) hapart (hready x hx).ne_null
      exact ⟨(none, va''), _, hrun, done ++ [x], todo, _, by simp [formatOf], rfl, rfl, hnext⟩
  · -- when the codes run out, every value is built and the tuple is the answer
    rintro ⟨r, va'⟩ s ⟨done, todo, m, hl, hnone, rfl, hb⟩
    dsimp only at hnone
    subst hnone
    cases todo with
    | cons x todo => simp [formatOf] at hl
    | nil =>
      obtain ⟨hsplit, -, hkeeps, hsize, ⟨objs, hslots, hmade⟩, -, hcounted⟩ := hb
      rw [List.append_nil] at hsplit
      subst hsplit
      refine ⟨_, _, rfl, ⟨rfl, rfl, (Keeps.of_grows hgT).trans hkeeps, ?_, ?_,
        ⟨objs, by simpa using hslots, hmade⟩⟩, hcounted⟩
      · rw [hgT.size] at hsize
        exact hsize.trans (by omega)
      · exact htuple.congr_block (by omega)
          (hkeeps.keep n (by rw [hgT.size]; omega) (fun hp => absurd hp.1 (by omega)) (by omega))

/-- Building a tuple of values whose extra arguments are their words, where the memory has room
for a block per value and two more. -/
theorem buildTuple_run {img : Image} {args : List CArg} {va : VaList}
    (hroom : img.mem.blocks.size + 2 * args.length + 4 < 2 ^ 32)
    (hcount : 8 * max args.length 1 ≤ maxBlock)
    (hva : va.reads (args.map CArg.isDouble) = args.map CArg.word)
    (hready : ∀ x ∈ args, x.Ready img.mem img.mem) (hapart : Apart args) :
    ∃ t img₁, (vbuild (formatOf args) va true).run img = .ok (t, img₁) ∧
      TupleBuilt img args t img₁ := by
  obtain ⟨t, img₁, hrun, hbuilt, -⟩ := buildTuple_run_counted hroom hcount hva hready hapart
  exact ⟨t, img₁, hrun, hbuilt⟩

end Building

end Objects

end Machine

end InlineC
