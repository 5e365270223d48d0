import Mathlib
import InlineC.Proofs.Words
import InlineC.Proofs.ParseTuple

/-!
# Runtime objects in memory

Every object the runtime makes starts a block of its own, eighty octets of fields laid out
as the runtime header lays them out: its kind and whether an integer is unsigned as 32-bit
words, the rest as 64-bit ones. A fresh block reads zero, so an object's fields are zero
until the runtime writes them.

This module gives each of the runtime's constructors its effect, stated once: it grows the
memory by fresh blocks, keeps every block there was, and leaves an object whose fields are
those of a zeroed object with the constructor's writes. It gives each of the runtime's
readers its result on an object whose fields are known. Proofs about values built and read
through the runtime cite these and never open a constructor or reader.
-/

namespace InlineC.Machine

open InlineC.Lang

namespace Objects

/-- The fields of a runtime object. -/
inductive Field where
  | kind | refcnt | int | dbl | str | count | items | call | handle | unsigned
  deriving DecidableEq

namespace Field

/-- Where a field lies in its object. -/
def offset : Field → UInt64
  | kind => Obj.kind
  | refcnt => Obj.refcnt
  | int => Obj.int
  | dbl => Obj.dbl
  | str => Obj.str
  | count => Obj.count
  | items => Obj.items
  | call => Obj.call
  | handle => Obj.handle
  | unsigned => Obj.unsigned

/-- How a field is read and written. -/
def width : Field → NumKind
  | kind | unsigned => .i32
  | _ => .u64

/-- Two fields lie apart. -/
theorem apart {f f' : Field} (h : f ≠ f') :
    f'.offset.toNat + f'.width.size ≤ f.offset.toNat ∨ f.offset.toNat + f.width.size ≤ f'.offset.toNat := by
  cases f <;> cases f' <;> first | exact absurd rfl h | decide

/-- Every field lies inside the object. -/
theorem fits (f : Field) : f.offset.toNat + f.width.size ≤ Obj.size := by
  cases f <;> decide

end Field

/-- The values of an object's fields. -/
abbrev Cells := Field → UInt64

/-- The object at `o` starts block `b`, which has room for it, and its fields hold `c`. -/
structure ObjectAt (m : Memory) (o : UInt64) (c : Cells) : Prop where
  block : ∃ b blk, o = Memory.base b ∧ b + 1 < 2 ^ 32 ∧ m.blocks[b]? = some blk ∧ Obj.size ≤ blk.size
  cells : ∀ f, m.load f.width (o + f.offset) = .ok (c f)

end Objects

namespace Memory

/-- `m'` has `k` blocks more than `m`, and every block of `m` as it was. -/
structure Grows (m m' : Memory) (k : Nat) : Prop where
  size : m'.blocks.size = m.blocks.size + k
  old : ∀ b < m.blocks.size, m'.blocks[b]? = m.blocks[b]?

/-- Memory grows by no block into itself. -/
theorem Grows.refl (m : Memory) : m.Grows m 0 := ⟨rfl, fun _ _ => rfl⟩

/-- Growing composes, the counts of new blocks adding up. -/
theorem Grows.trans {m₁ m₂ m₃ : Memory} {k₁ k₂ : Nat} (h₁ : m₁.Grows m₂ k₁) (h₂ : m₂.Grows m₃ k₂) :
    m₁.Grows m₃ (k₁ + k₂) :=
  ⟨by rw [h₂.size, h₁.size, Nat.add_assoc],
    fun b hb => (h₂.old b (by rw [h₁.size]; omega)).trans (h₁.old b hb)⟩

/-- Allocating grows memory by one block. -/
theorem grows_alloc (m : Memory) (size : Nat) : m.Grows (m.alloc size).1 1 :=
  ⟨by simp [alloc], fun _ hb => alloc_blocks_lt size hb⟩

/-- A store into a block `m` did not have keeps the growth. -/
theorem Grows.storeAt {m m' : Memory} {k : Nat} (h : m.Grows m' k) {b : Nat} (hb : m.blocks.size ≤ b)
    (off n : Nat) (v : UInt64) : m.Grows (m'.storeAt b off n v) k :=
  ⟨by simp [Memory.storeAt, h.size], fun b' hb' => by
    rw [storeAt_blocks_ne off n v (by omega)]
    exact h.old b' hb'⟩

/-- Writing into a new block keeps memory grown from the old. -/
theorem Grows.writeAt {m m' : Memory} {k : Nat} (h : m.Grows m' k) {b : Nat} (hb : m.blocks.size ≤ b)
    (off : Nat) (data : List UInt8) : m.Grows (m'.writeAt b off data) k :=
  ⟨by simp [Memory.writeAt, h.size], fun b' hb' => by
    rw [writeAt_blocks_ne off data (by omega)]
    exact h.old b' hb'⟩

/-- The block a place at `base b` names. -/
theorem shiftRight_base_add {b : Nat} (x : UInt64) (hb : b + 1 < 2 ^ 32) (hx : x.toNat < 2 ^ 32) :
    ((base b + x) >>> 32).toNat - 1 = b := by
  have hbase : (base b).toNat = (b + 1) * 2 ^ 32 := by
    rw [base, UInt64.toNat_ofNat', show Nat.pow 2 32 = 2 ^ 32 from rfl]
    exact Nat.mod_eq_of_lt (by omega)
  have hsum : (base b + x).toNat = (b + 1) * 2 ^ 32 + x.toNat := by
    rw [UInt64.toNat_add, hbase]
    exact Nat.mod_eq_of_lt (by omega)
  rw [UInt64.toNat_shiftRight, hsum, show (32 : UInt64).toNat % 64 = 32 from rfl,
    Nat.shiftRight_eq_div_pow]
  omega

/-- Distinct blocks have distinct base addresses. -/
theorem base_inj {b b' : Nat} (hb : b + 1 < 2 ^ 32) (hb' : b' + 1 < 2 ^ 32) (h : base b = base b') :
    b = b' := by
  have := congrArg UInt64.toNat h
  rw [base, base, UInt64.toNat_ofNat', UInt64.toNat_ofNat', show Nat.pow 2 32 = 2 ^ 32 from rfl,
    Nat.mod_eq_of_lt (by omega), Nat.mod_eq_of_lt (by omega)] at this
  omega

/-- No block's base address is null. -/
theorem base_ne_zero {b : Nat} (hb : b + 1 < 2 ^ 32) : base b ≠ 0 := by
  intro h
  have := congrArg UInt64.toNat h
  rw [base, UInt64.toNat_ofNat', show Nat.pow 2 32 = 2 ^ 32 from rfl,
    Nat.mod_eq_of_lt (by omega)] at this
  simp at this

end Memory

namespace Objects

open ImgM Memory

variable {m m' : Memory} {o : UInt64} {c : Cells}

/-- A read of one of the two widths fields have, right after a store of it, gives the word
stored, a 32-bit one when it is below the sign bit. -/
theorem load_storeAt_self {a v : UInt64} {k : NumKind} {b off : Nat}
    (hl : m.locate a k.size = .ok (b, off)) (hk : k = .u64 ∨ (k = .i32 ∧ v.toNat < 2 ^ 31)) :
    (m.storeAt b off k.size v).load k a = .ok v := by
  rcases hk with rfl | ⟨rfl, hv⟩
  · exact load_u64_storeAt v hl
  · exact load_i32_storeAt v hl hv

/-- Every field of an object at the start of a block with room for it lies in that block, at
its offset. -/
theorem locate_field {b : Nat} {blk : ByteArray} (hb : b + 1 < 2 ^ 32) (hblk : m.blocks[b]? = some blk)
    (hsize : Obj.size ≤ blk.size) (f : Field) :
    m.locate (base b + f.offset) f.width.size = .ok (b, f.offset.toNat) :=
  locate_base _ _ hb hblk (by cases f <;> decide) (le_trans (Field.fits f) hsize)

/-- A read within a block depends on that block only. -/
theorem load_base_congr {b : Nat} {k : NumKind} (x : UInt64) (hb : b + 1 < 2 ^ 32)
    (hx : x.toNat < 2 ^ 32) (hkeep : m'.blocks[b]? = m.blocks[b]?) :
    m'.load k (base b + x) = m.load k (base b + x) :=
  load_congr (by rw [shiftRight_base_add x hb hx]; exact hkeep)

/-- An object is where its block is: a memory that keeps the block keeps the object. -/
theorem ObjectAt.congr (h : ObjectAt m o c)
    (hb : ∀ b, o = base b → b + 1 < 2 ^ 32 → m'.blocks[b]? = m.blocks[b]?) : ObjectAt m' o c := by
  obtain ⟨b, blk, rfl, hb', hblk, hsize⟩ := h.block
  have hkeep := hb b rfl hb'
  refine ⟨⟨b, blk, rfl, hb', hkeep.trans hblk, hsize⟩, fun f => ?_⟩
  rw [load_base_congr _ hb' (by cases f <;> decide) hkeep]
  exact h.cells f

/-- An object stays in memory that keeps its block. -/
theorem ObjectAt.congr_block {b : Nat} (h : ObjectAt m (base b) c) (hb : b + 1 < 2 ^ 32)
    (hkeep : m'.blocks[b]? = m.blocks[b]?) : ObjectAt m' (base b) c :=
  h.congr fun b' hob hb' => by rw [← base_inj hb hb' hob]; exact hkeep

/-- A memory that grows keeps every object there was. -/
theorem ObjectAt.grows (h : ObjectAt m o c) {k : Nat} (hg : m.Grows m' k) : ObjectAt m' o c := by
  obtain ⟨b, blk, rfl, hb, hblk, -⟩ := h.block
  refine h.congr fun b' hob' hb' => ?_
  obtain rfl := base_inj hb hb' hob'
  exact hg.old b (Array.getElem?_eq_some_iff.1 hblk).1

/-- Storing one field of an object succeeds, and changes that field only. -/
theorem ObjectAt.store_run (img : Image) {b : Nat} (h : ObjectAt img.mem o c) (ho : o = base b)
    (hb : b + 1 < 2 ^ 32) (f : Field) (v : UInt64) (hv : f.width = .i32 → v.toNat < 2 ^ 31) :
    (store f.width (o + f.offset) v).run img =
        .ok ((), { img with mem := img.mem.storeAt b f.offset.toNat f.width.size v }) ∧
      ObjectAt (img.mem.storeAt b f.offset.toNat f.width.size v) o (Function.update c f v) := by
  obtain ⟨b', blk, hob', hb', hblk, hsize⟩ := h.block
  obtain rfl := base_inj hb hb' (ho.symm.trans hob')
  subst ho
  have hloc := locate_field hb hblk hsize
  refine ⟨store_run (Image.store_ok (hloc f) v), ⟨b, _, rfl, hb,
    storeAt_blocks_self _ _ v hblk, by rw [writeWord_size]; exact hsize⟩, fun f' => ?_⟩
  by_cases hf : f' = f
  · subst hf
    rw [Function.update_self]
    refine load_storeAt_self (hloc f') ?_
    cases f' <;> simp_all [Field.width]
  · rw [Function.update_of_ne hf, load_storeAt_apart v (hloc f') hblk
      (le_trans (Field.fits f) hsize)
      (.inr (Field.apart (Ne.symm hf)))]
    exact h.cells f'

/-- A field is a 32-bit or a 64-bit word. -/
theorem Field.width_cases (f : Field) : f.width = .i32 ∨ f.width = .u64 := by
  cases f <;> simp [Field.width]

/-- Allocating a block that fits gives the base of a new last block. -/
theorem alloc_run {img : Image} {size : Nat} (h : size ≤ maxBlock) :
    (alloc size).run img = .ok (base img.mem.blocks.size, { img with mem := (img.mem.alloc size).1 }) := by
  unfold ImgM.alloc
  simp only [gt_iff_lt, not_lt.2 h, if_false]
  rfl

/-- A fresh block of an object's size holds an object whose fields are all zero. -/
theorem objectAt_alloc (hb : m.blocks.size + 1 < 2 ^ 32) :
    ObjectAt (m.alloc Obj.size).1 (base m.blocks.size) 0 := by
  have hblk := alloc_blocks_self m Obj.size
  have hsize : Obj.size ≤ (ByteArray.mk (Array.replicate Obj.size 0)).size := by
    simp [ByteArray.size]
  refine ⟨⟨m.blocks.size, _, rfl, hb, hblk, hsize⟩, fun f => ?_⟩
  have hl := locate_field hb hblk hsize f
  have hz : readWord (m.alloc Obj.size).1.blocks[m.blocks.size]! f.offset.toNat f.width.size = 0 := by
    rw [getElem!_of_some hblk]
    exact readWord_zeros _ _ _ (by rcases f.width_cases with h | h <;> rw [h] <;> decide) (Field.fits f)
  rcases f.width_cases with hw | hw <;> rw [hw] at hl hz ⊢ <;> dsimp only [NumKind.size] at hl hz
  · rw [load_i32 hl, hz]
    rfl
  · rw [load_u64 hl, hz]
    rfl

/-- The fields of a new object of a kind: its kind, one reference, zeros elsewhere. -/
def fresh (k : UInt64) : Cells := Function.update (Function.update 0 .kind k) .refcnt 1

/-- Allocating an object makes a fresh object of that kind in one new block. -/
theorem allocObject_run {img : Image} {k : UInt64} (hk : k.toNat < 2 ^ 31)
    (hb : img.mem.blocks.size + 1 < 2 ^ 32) :
    ∃ mem, (allocObject k).run img = .ok (base img.mem.blocks.size, { img with mem }) ∧
      img.mem.Grows mem 1 ∧ ObjectAt mem (base img.mem.blocks.size) (fresh k) := by
  set n := img.mem.blocks.size
  have h₀ := objectAt_alloc hb
  set img₀ : Image := { img with mem := (img.mem.alloc Obj.size).1 }
  obtain ⟨hs₁, h₁⟩ := h₀.store_run img₀ rfl hb .kind k (fun _ => hk)
  set img₁ : Image := { img₀ with mem := img₀.mem.storeAt n Field.kind.offset.toNat Field.kind.width.size k }
  obtain ⟨hs₂, h₂⟩ := h₁.store_run img₁ rfl hb .refcnt 1 (by simp [Field.width])
  refine ⟨_, ?_, ((grows_alloc img.mem Obj.size).storeAt (le_refl n) _ _ _).storeAt (le_refl n) _ _ _, h₂⟩
  unfold allocObject
  refine run_bind_eq_ok.2 ⟨base n, img₀, alloc_run (by decide), ?_⟩
  simp only [beq_iff_eq, base_ne_zero hb, if_false]
  refine run_bind_eq_ok.2 ⟨(), img₁, hs₁, ?_⟩
  refine run_bind_eq_ok.2 ⟨(), _, hs₂, rfl⟩

/-- Storing a field of an object in a block the memory grew by keeps the growth. -/
theorem store_field_run (img : Image) {mem₀ : Memory} {k n : Nat} (hg : mem₀.Grows img.mem k)
    (hn : mem₀.blocks.size ≤ n) (hb : n + 1 < 2 ^ 32) (h : ObjectAt img.mem (base n) c) (f : Field)
    (v : UInt64) (hv : f.width = .i32 → v.toNat < 2 ^ 31) :
    ∃ mem, (store f.width (base n + f.offset) v).run img = .ok ((), { img with mem }) ∧
      mem₀.Grows mem k ∧ ObjectAt mem (base n) (Function.update c f v) := by
  obtain ⟨hs, h'⟩ := h.store_run img rfl hb f v hv
  exact ⟨_, hs, hg.storeAt hn _ _ _, h'⟩

/-- `cx_new_bool` makes a boolean object of the value's truth in one new block. -/
theorem newBool_run {img : Image} (v : UInt64) (hb : img.mem.blocks.size + 1 < 2 ^ 32) :
    ∃ mem, (newBool v).run img = .ok (base img.mem.blocks.size, { img with mem }) ∧
      img.mem.Grows mem 1 ∧ ObjectAt mem (base img.mem.blocks.size)
        (Function.update (fresh Obj.bool) .int (if Arith.norm .i32 v == 0 then 0 else 1)) := by
  obtain ⟨mem₁, hrun₁, hg₁, h₁⟩ := allocObject_run (k := Obj.bool) (by decide) hb
  obtain ⟨mem₂, hrun₂, hg₂, h₂⟩ := store_field_run { img with mem := mem₁ } hg₁ le_rfl hb h₁ .int
    (if Arith.norm .i32 v == 0 then 0 else 1) (by simp [Field.width])
  refine ⟨mem₂, ?_, hg₂, h₂⟩
  unfold newBool
  refine run_bind_eq_ok.2 ⟨_, _, hrun₁, ?_⟩
  simp only [bne_iff_ne, ne_eq, base_ne_zero hb, not_false_eq_true, if_true]
  exact run_bind_eq_ok.2 ⟨(), _, hrun₂, rfl⟩

/-- `cx_new_int` makes an integer object in one new block. -/
theorem newInt_run {img : Image} (v : UInt64) (hb : img.mem.blocks.size + 1 < 2 ^ 32) :
    ∃ mem, (newInt v).run img = .ok (base img.mem.blocks.size, { img with mem }) ∧
      img.mem.Grows mem 1 ∧
      ObjectAt mem (base img.mem.blocks.size) (Function.update (fresh Obj.integer) .int v) := by
  obtain ⟨mem₁, hrun₁, hg₁, h₁⟩ := allocObject_run (k := Obj.integer) (by decide) hb
  obtain ⟨mem₂, hrun₂, hg₂, h₂⟩ := store_field_run { img with mem := mem₁ } hg₁ le_rfl hb h₁ .int v
    (by simp [Field.width])
  refine ⟨mem₂, ?_, hg₂, h₂⟩
  unfold newInt
  refine run_bind_eq_ok.2 ⟨_, _, hrun₁, ?_⟩
  simp only [bne_iff_ne, ne_eq, base_ne_zero hb, not_false_eq_true, if_true]
  exact run_bind_eq_ok.2 ⟨(), _, hrun₂, rfl⟩

/-- `cx_new_float` makes a float object in one new block. -/
theorem newFloat_run {img : Image} (v : UInt64) (hb : img.mem.blocks.size + 1 < 2 ^ 32) :
    ∃ mem, (newFloat v).run img = .ok (base img.mem.blocks.size, { img with mem }) ∧
      img.mem.Grows mem 1 ∧
      ObjectAt mem (base img.mem.blocks.size) (Function.update (fresh Obj.float) .dbl v) := by
  obtain ⟨mem₁, hrun₁, hg₁, h₁⟩ := allocObject_run (k := Obj.float) (by decide) hb
  obtain ⟨mem₂, hrun₂, hg₂, h₂⟩ := store_field_run { img with mem := mem₁ } hg₁ le_rfl hb h₁ .dbl v
    (by simp [Field.width])
  refine ⟨mem₂, ?_, hg₂, h₂⟩
  unfold newFloat
  refine run_bind_eq_ok.2 ⟨_, _, hrun₁, ?_⟩
  simp only [bne_iff_ne, ne_eq, base_ne_zero hb, not_false_eq_true, if_true]
  exact run_bind_eq_ok.2 ⟨(), _, hrun₂, rfl⟩

/-- `cx_new_callable` makes a callable object with its function and handle in one new block. -/
theorem newCallable_run {img : Image} (call handle : UInt64) (hb : img.mem.blocks.size + 1 < 2 ^ 32) :
    ∃ mem, (newCallable call handle).run img = .ok (base img.mem.blocks.size, { img with mem }) ∧
      img.mem.Grows mem 1 ∧ ObjectAt mem (base img.mem.blocks.size)
        (Function.update (Function.update (fresh Obj.callable) .call call) .handle handle) := by
  obtain ⟨mem₁, hrun₁, hg₁, h₁⟩ := allocObject_run (k := Obj.callable) (by decide) hb
  obtain ⟨mem₂, hrun₂, hg₂, h₂⟩ := store_field_run { img with mem := mem₁ } hg₁ le_rfl hb h₁ .call
    call (by simp [Field.width])
  obtain ⟨mem₃, hrun₃, hg₃, h₃⟩ := store_field_run { img with mem := mem₂ } hg₂ le_rfl hb h₂ .handle
    handle (by simp [Field.width])
  refine ⟨mem₃, ?_, hg₃, h₃⟩
  unfold newCallable
  refine run_bind_eq_ok.2 ⟨_, _, hrun₁, ?_⟩
  simp only [bne_iff_ne, ne_eq, base_ne_zero hb, not_false_eq_true, if_true]
  refine run_bind_eq_ok.2 ⟨(), _, hrun₂, ?_⟩
  exact run_bind_eq_ok.2 ⟨(), _, hrun₃, rfl⟩

/-- A fresh copy of octets free of zero, with its terminator, fills a block of its own and
reads back as a string. -/
theorem newCString_run {img : Image} (s : List UInt8) (hs : s.length + 1 ≤ maxBlock)
    (hb : img.mem.blocks.size + 1 < 2 ^ 32) (hz : (0 : UInt8) ∉ s) :
    ∃ mem, (newCString s).run img = .ok (base img.mem.blocks.size, { img with mem }) ∧
      img.mem.Grows mem 1 ∧ mem.cString (base img.mem.blocks.size) = .ok s := by
  set m₁ := (img.mem.alloc (s.length + 1)).1
  set blk := ByteArray.mk (Array.replicate (s.length + 1) 0)
  have hblk₁ : m₁.blocks[img.mem.blocks.size]? = some blk := alloc_blocks_self _ _
  have hsize : blk.size = s.length + 1 := by simp [blk, ByteArray.size]
  have hloc : ∀ k ≤ s.length + 1, m₁.locate (base img.mem.blocks.size) k =
      .ok (img.mem.blocks.size, 0) := fun k hk => by
    simpa using locate_base (m := m₁) 0 k hb hblk₁ (by decide) (by simp [hsize, hk])
  have hwrite := writeAt_blocks_self 0 (s ++ [0]) hblk₁
  refine ⟨m₁.writeAt img.mem.blocks.size 0 (s ++ [0]), ?_, (grows_alloc _ _).writeAt le_rfl _ _, ?_⟩
  · unfold newCString
    refine run_bind_eq_ok.2 ⟨_, _, alloc_run hs, ?_⟩
    simp only [bne_iff_ne, ne_eq, base_ne_zero hb, not_false_eq_true, if_true]
    exact run_bind_eq_ok.2 ⟨(), _, writeBytes_run (Image.writeBytes_ok (hloc _ (by simp))), rfl⟩
  · -- the written block holds the octets, then the terminator
    have hget := fun j => get!_writeOctets 0 j (s ++ [0]) 0 blk (by simp [hsize])
    refine cString_eq ((locate_eq_of_sameSizes (writeAt_sameSizes _ _ _ _) _ _).trans
      (hloc 0 (Nat.zero_le _))) hwrite hz (fun i hi => ?_) ?_ ?_
    · rw [hget]
      simp [show i < s.length + 1 by omega, getElem!_pos, List.getElem_append_left hi]
    · rw [hget]
      simp
    · rw [foldl_size _ (fun acc p => ByteArray.size_set! _ _ _), hsize]
      omega

/-- The block an address at the start of a block names. -/
theorem blockIndex_base {b : Nat} (hb : b + 1 < 2 ^ 32) : ((base b) >>> 32).toNat - 1 = b := by
  simpa using shiftRight_base_add 0 hb (by decide)

/-- A new string object: its object block, then the block of its octets. -/
theorem newStrBytes_run {img : Image} (s : List UInt8) (hs : s.length + 1 ≤ maxBlock)
    (hb : img.mem.blocks.size + 2 < 2 ^ 32) (hz : (0 : UInt8) ∉ s) :
    ∃ mem, (newStrBytes s).run img = .ok (base img.mem.blocks.size, { img with mem }) ∧
      img.mem.Grows mem 2 ∧
      ObjectAt mem (base img.mem.blocks.size) (Function.update (Function.update (fresh Obj.string)
        .str (base (img.mem.blocks.size + 1))) .count s.length.toUInt64) ∧
      mem.cString (base (img.mem.blocks.size + 1)) = .ok s := by
  have hb₁ : img.mem.blocks.size + 1 < 2 ^ 32 := by omega
  obtain ⟨mem₁, hrun₁, hg₁, h₁⟩ := allocObject_run (k := Obj.string) (by decide) hb₁
  have hb₂ : ({ img with mem := mem₁ } : Image).mem.blocks.size + 1 < 2 ^ 32 := by
    simp only [hg₁.size]
    omega
  obtain ⟨mem₂, hrun₂, hg₂, hstr₂⟩ := newCString_run s hs hb₂ hz
  dsimp only at hrun₂ hg₂ hstr₂
  rw [hg₁.size] at hrun₂ hstr₂
  have h₂ := h₁.grows hg₂
  obtain ⟨hrun₃, h₃⟩ := h₂.store_run { img with mem := mem₂ } rfl hb₁ .str _ (by simp [Field.width])
  set mem₃ := mem₂.storeAt img.mem.blocks.size Field.str.offset.toNat Field.str.width.size
    (base (img.mem.blocks.size + 1))
  obtain ⟨hrun₄, h₄⟩ := h₃.store_run { img with mem := mem₃ } rfl hb₁ .count s.length.toUInt64
    (by simp [Field.width])
  refine ⟨_, ?_, ((hg₁.trans hg₂).storeAt le_rfl _ _ _).storeAt le_rfl _ _ _, h₄, ?_⟩
  · unfold newStrBytes
    refine run_bind_eq_ok.2 ⟨_, _, hrun₁, ?_⟩
    simp only [beq_iff_eq, base_ne_zero hb₁, if_false]
    refine run_bind_eq_ok.2 ⟨_, _, hrun₂, ?_⟩
    simp only [base_ne_zero hb, if_false]
    refine run_bind_eq_ok.2 ⟨(), _, hrun₃, ?_⟩
    exact run_bind_eq_ok.2 ⟨(), _, hrun₄, rfl⟩
  · -- the stores went to the object's block, not the octets' one
    have hidx : ((base (img.mem.blocks.size + 1)) >>> 32).toNat - 1 = img.mem.blocks.size + 1 :=
      blockIndex_base (by omega)
    rw [cString_congr (m := mem₃), cString_congr (m := mem₂), hstr₂] <;> rw [hidx] <;>
      exact storeAt_blocks_ne _ _ _ (by omega)

/-! ## Tuples -/

/-- The item slots of a tuple at `q`, the start of a block: slot `i` holds `xs[i]`. -/
structure SlotsAt (m : Memory) (q : UInt64) (xs : List UInt64) : Prop where
  block : ∃ b blk, q = base b ∧ b + 1 < 2 ^ 32 ∧ m.blocks[b]? = some blk ∧
    8 * xs.length ≤ blk.size ∧ 8 * xs.length ≤ 2 ^ 32
  slots : ∀ i (h : i < xs.length), m.load .u64 (q + 8 * i.toUInt64) = .ok xs[i]

/-- The offset of a slot is eight octets per index. -/
theorem toNat_slot {i : Nat} (hi : 8 * i < 2 ^ 32) : (8 * i.toUInt64).toNat = 8 * i := by
  rw [UInt64.toNat_mul, UInt64.toNat_ofNat', show (8 : UInt64).toNat = 8 from rfl]
  omega

/-- Slots stay in memory that keeps their block. -/
theorem SlotsAt.congr {xs : List UInt64} {q : UInt64} (h : SlotsAt m q xs)
    (hb : ∀ b, q = base b → b + 1 < 2 ^ 32 → m'.blocks[b]? = m.blocks[b]?) : SlotsAt m' q xs := by
  obtain ⟨b, blk, rfl, hb', hblk, hsize, hfit⟩ := h.block
  have hkeep := hb b rfl hb'
  refine ⟨⟨b, blk, rfl, hb', hkeep.trans hblk, hsize, hfit⟩, fun i hi => ?_⟩
  rw [load_base_congr _ hb' (by rw [toNat_slot (by omega)]; omega) hkeep]
  exact h.slots i hi

/-- Slots stay in memory that keeps their block, given by its number. -/
theorem SlotsAt.congr_block {xs : List UInt64} {b : Nat} (h : SlotsAt m (base b) xs)
    (hb : b + 1 < 2 ^ 32) (hkeep : m'.blocks[b]? = m.blocks[b]?) : SlotsAt m' (base b) xs :=
  h.congr fun b' hob hb' => by rw [← base_inj hb hb' hob]; exact hkeep

/-- Growing memory keeps slots. -/
theorem SlotsAt.grows {xs : List UInt64} {q : UInt64} (h : SlotsAt m q xs) {k : Nat}
    (hg : m.Grows m' k) : SlotsAt m' q xs := by
  obtain ⟨b, blk, rfl, hb, hblk, -⟩ := h.block
  refine h.congr fun b' hob' hb' => ?_
  obtain rfl := base_inj hb hb' hob'
  exact hg.old b (Array.getElem?_eq_some_iff.1 hblk).1

/-- Storing an item into a slot succeeds, and changes that slot only. -/
theorem SlotsAt.store_run (img : Image) {xs : List UInt64} {b i : Nat} (h : SlotsAt img.mem (base b) xs)
    (hb : b + 1 < 2 ^ 32) (hi : i < xs.length) (v : UInt64) :
    (store .u64 (base b + 8 * i.toUInt64) v).run img =
        .ok ((), { img with mem := img.mem.storeAt b (8 * i) 8 v }) ∧
      SlotsAt (img.mem.storeAt b (8 * i) 8 v) (base b) (xs.set i v) := by
  obtain ⟨b', blk, hob', hb', hblk, hsize, hfit⟩ := h.block
  obtain rfl := base_inj hb hb' hob'
  have hloc : ∀ j < xs.length, img.mem.locate (base b + 8 * j.toUInt64) 8 = .ok (b, 8 * j) :=
    fun j hj => by
      rw [← toNat_slot (i := j) (by omega)]
      exact locate_base _ _ hb hblk (by rw [toNat_slot (by omega)]; omega)
        (by rw [toNat_slot (by omega)]; omega)
  refine ⟨Objects.store_run (Image.store_ok (hloc i hi) v), ⟨b, _, rfl, hb,
    storeAt_blocks_self _ _ v hblk, by rw [writeWord_size, List.length_set]; exact hsize,
    by rw [List.length_set]; exact hfit⟩, fun j hj => ?_⟩
  have hj' : j < xs.length := by simpa using hj
  by_cases hji : j = i
  · subst hji
    rw [List.getElem_set_self]
    exact load_u64_storeAt v (hloc j hj')
  · have hapart : 8 * j + 8 ≤ 8 * i ∨ 8 * i + 8 ≤ 8 * j := by omega
    rw [List.getElem_set_ne (Ne.symm hji), load_storeAt_apart v (hloc j hj') hblk (by omega)
      (.inr hapart)]
    exact h.slots j hj'

/-- The signed count of a tuple of `n` items. -/
theorem toInt64_toInt_ofNat {n : Nat} (hn : n < 2 ^ 63) : n.toUInt64.toInt64.toInt = n := by
  rw [toInt64_toInt_eq, UInt64.toNat_ofNat', Nat.mod_eq_of_lt (by omega), if_pos hn]

/-- A new tuple of `n` items: its object block, whose count is `n`, then the block of its
slots, all null. -/
theorem newTuple_run {img : Image} (n : Nat) (hn : 8 * max n 1 ≤ maxBlock)
    (hb : img.mem.blocks.size + 2 < 2 ^ 32) :
    ∃ mem, (newTuple n.toUInt64).run img = .ok (base img.mem.blocks.size, { img with mem }) ∧
      img.mem.Grows mem 2 ∧
      ObjectAt mem (base img.mem.blocks.size) (Function.update (Function.update (fresh Obj.tuple)
        .items (base (img.mem.blocks.size + 1))) .count n.toUInt64) ∧
      SlotsAt mem (base (img.mem.blocks.size + 1)) (List.replicate n 0) := by
  have hb₁ : img.mem.blocks.size + 1 < 2 ^ 32 := by omega
  have hn' : 8 * max n 1 ≤ 2 ^ 31 := hn
  have hslots : (if n.toUInt64.toInt64.toInt > 0 then n.toUInt64.toInt64.toInt.toNat else 1) = max n 1 := by
    rw [toInt64_toInt_ofNat (by omega)]
    split_ifs <;> omega
  obtain ⟨mem₁, hrun₁, hg₁, h₁⟩ := allocObject_run (k := Obj.tuple) (by decide) hb₁
  have hrun₂ := @alloc_run { img with mem := mem₁ } _ hn
  dsimp only at hrun₂
  rw [hg₁.size] at hrun₂
  set mem₂ := (mem₁.alloc (8 * max n 1)).1
  have hg₂ : mem₁.Grows mem₂ 1 := grows_alloc _ _
  have h₂ := h₁.grows hg₂
  obtain ⟨hrun₃, h₃⟩ := h₂.store_run { img with mem := mem₂ } rfl hb₁ .items
    (base (img.mem.blocks.size + 1)) (by simp [Field.width])
  set mem₃ := mem₂.storeAt img.mem.blocks.size Field.items.offset.toNat Field.items.width.size
    (base (img.mem.blocks.size + 1))
  obtain ⟨hrun₄, h₄⟩ := h₃.store_run { img with mem := mem₃ } rfl hb₁ .count n.toUInt64
    (by simp [Field.width])
  refine ⟨_, ?_, ((hg₁.trans hg₂).storeAt le_rfl _ _ _).storeAt le_rfl _ _ _, h₄, ?_⟩
  · unfold newTuple
    refine run_bind_eq_ok.2 ⟨_, _, hrun₁, ?_⟩
    simp only [beq_iff_eq, base_ne_zero hb₁, if_false]
    rw [hslots]
    refine run_bind_eq_ok.2 ⟨_, _, hrun₂, ?_⟩
    simp only [base_ne_zero hb, if_false]
    refine run_bind_eq_ok.2 ⟨(), _, hrun₃, ?_⟩
    exact run_bind_eq_ok.2 ⟨(), _, hrun₄, rfl⟩
  · -- the slots lie in a fresh block the stores to the object left alone
    have hblk : mem₂.blocks[img.mem.blocks.size + 1]? =
        some (ByteArray.mk (Array.replicate (8 * max n 1) 0)) := by
      rw [← hg₁.size]
      exact alloc_blocks_self _ _
    have hfresh : SlotsAt mem₂ (base (img.mem.blocks.size + 1)) (List.replicate n 0) := by
      have hsize : (ByteArray.mk (Array.replicate (8 * max n 1) 0)).size = 8 * max n 1 := by
        simp [ByteArray.size]
      refine ⟨⟨_, _, rfl, hb, hblk, by rw [hsize, List.length_replicate]; omega,
        by rw [List.length_replicate]; omega⟩, fun i hi => ?_⟩
      rw [List.length_replicate] at hi
      have hslot := toNat_slot (i := i) (by omega)
      have hloc := locate_base (8 * i.toUInt64) 8 hb hblk (by omega) (by rw [hslot, hsize]; omega)
      rw [load_u64 hloc, getElem!_of_some hblk, List.getElem_replicate,
        readWord_zeros _ _ _ le_rfl (by rw [hslot]; omega)]
    refine hfresh.congr fun b hob hb' => ?_
    obtain rfl := base_inj hb hb' hob
    rw [storeAt_blocks_ne _ _ _ (by omega), storeAt_blocks_ne _ _ _ (by omega)]

/-! ## Reading objects -/

section Readers

variable {img : Image} {o : UInt64} {c : Cells}

/-- Loading a field of an object reads it, changing nothing. -/
theorem ObjectAt.load_run (h : ObjectAt img.mem o c) (f : Field) :
    (load f.width (o + f.offset)).run img = .ok (c f, img) :=
  Objects.load_run (h.cells f)

/-- `cx_kind` reads an object's kind. -/
theorem kindOf_run (h : ObjectAt img.mem o c) (ho : o ≠ 0) : (kindOf o).run img = .ok (c .kind, img) := by
  unfold kindOf
  simp only [beq_iff_eq, ho, if_false]
  exact h.load_run .kind

/-- `cx_as_int` reads an object's integer, for any kind but a float. -/
theorem asInt_run (h : ObjectAt img.mem o c) (ho : o ≠ 0) (hk : c .kind ≠ Obj.float) :
    (asInt o).run img = .ok (c .int, img) := by
  unfold asInt
  simp only [beq_iff_eq, ho, if_false]
  refine run_bind_eq_ok.2 ⟨_, _, h.load_run .kind, ?_⟩
  simp only [hk, if_false]
  exact h.load_run .int

/-- `cx_int_is_unsigned` tells an integer object marked unsigned. -/
theorem isUnsigned_run (h : ObjectAt img.mem o c) (ho : o ≠ 0) :
    (isUnsigned o).run img =
      .ok ((if c .kind = Obj.integer ∧ c .unsigned ≠ 0 then 1 else 0), img) := by
  unfold isUnsigned
  simp only [beq_iff_eq, ho, if_false]
  refine run_bind_eq_ok.2 ⟨_, _, h.load_run .kind, ?_⟩
  by_cases hk : c .kind = Obj.integer
  · simp only [hk, bne_self_eq_false, Bool.false_eq_true, if_false, true_and]
    refine run_bind_eq_ok.2 ⟨_, _, h.load_run .unsigned, ?_⟩
    simp [bne_iff_ne]
    rfl
  · simp only [bne_iff_ne, ne_eq, hk, not_false_eq_true, if_true, false_and, if_false]
    rfl

/-- `cx_as_float` reads a float object's double. -/
theorem asFloat_run (h : ObjectAt img.mem o c) (ho : o ≠ 0) (hk : c .kind = Obj.float) :
    (asFloat o).run img = .ok (c .dbl, img) := by
  unfold asFloat
  simp only [beq_iff_eq, ho, if_false]
  refine run_bind_eq_ok.2 ⟨_, _, h.load_run .kind, ?_⟩
  refine run_bind_eq_ok.2 ⟨_, _, h.load_run .unsigned, ?_⟩
  simp only [hk]
  exact h.load_run .dbl

/-- `cx_as_str` reads an object's string pointer when it has one. -/
theorem asStr_run (h : ObjectAt img.mem o c) (ho : o ≠ 0) (hs : c .str ≠ 0) :
    (asStr o).run img = .ok (c .str, img) := by
  unfold asStr
  simp only [beq_iff_eq, ho, if_false]
  refine run_bind_eq_ok.2 ⟨_, _, h.load_run .str, ?_⟩
  simp only [hs, if_false]
  rfl

/-- `cx_tuple_size` reads a tuple's count. -/
theorem tupleSize_run (h : ObjectAt img.mem o c) (ho : o ≠ 0) (hk : c .kind = Obj.tuple) :
    (tupleSize o).run img = .ok (c .count, img) := by
  unfold tupleSize
  simp only [beq_iff_eq, ho, if_false]
  refine run_bind_eq_ok.2 ⟨_, _, h.load_run .kind, ?_⟩
  simp only [hk, bne_self_eq_false, Bool.false_eq_true, if_false]
  exact h.load_run .count

/-- An index is in a tuple's range when it is from zero to below its count. -/
theorem tupleIndexOk_run (h : ObjectAt img.mem o c) (ho : o ≠ 0) (hk : c .kind = Obj.tuple)
    (i : UInt64) :
    (tupleIndexOk o i).run img =
      .ok (decide (0 ≤ i.toInt64.toInt ∧ i.toInt64.toInt < (c .count).toInt64.toInt), img) := by
  unfold tupleIndexOk
  simp only [beq_iff_eq, ho, if_false]
  refine run_bind_eq_ok.2 ⟨_, _, h.load_run .kind, ?_⟩
  simp only [hk, bne_self_eq_false, Bool.false_eq_true, if_false]
  exact run_bind_eq_ok.2 ⟨_, _, h.load_run .count, rfl⟩

/-- The item at an index of a tuple of `n` items, below `n`. -/
theorem tupleGet_run {xs : List UInt64} (h : ObjectAt img.mem o c) (ho : o ≠ 0)
    (hk : c .kind = Obj.tuple) (hn : c .count = xs.length.toUInt64) (hlen : xs.length < 2 ^ 63)
    (hs : SlotsAt img.mem (c .items) xs) {i : Nat} (hi : i < xs.length) :
    (tupleGet o i.toUInt64).run img = .ok (xs[i], img) := by
  unfold tupleGet
  refine run_bind_eq_ok.2 ⟨_, _, tupleIndexOk_run h ho hk _, ?_⟩
  rw [hn, toInt64_toInt_ofNat hlen, toInt64_toInt_ofNat (by omega)]
  simp only [Nat.cast_nonneg, Nat.cast_lt, hi, and_self, decide_true, Bool.not_true,
    Bool.false_eq_true, if_false]
  exact run_bind_eq_ok.2 ⟨_, _, h.load_run .items, load_run (hs.slots i hi)⟩

/-- `cx_callable_check` tells a callable object with a function. -/
theorem callableCheck_run (h : ObjectAt img.mem o c) (ho : o ≠ 0) (hk : c .kind = Obj.callable) :
    (callableCheck o).run img = .ok (c .call != 0, img) := by
  unfold callableCheck
  simp only [beq_iff_eq, ho, if_false]
  refine run_bind_eq_ok.2 ⟨_, _, h.load_run .kind, ?_⟩
  simp only [hk, bne_self_eq_false, Bool.false_eq_true, if_false]
  exact run_bind_eq_ok.2 ⟨_, _, h.load_run .call, rfl⟩

/-- `cx_callable_handle` reads a callable's handle, or zero without a function. -/
theorem callableHandle_run (h : ObjectAt img.mem o c) (ho : o ≠ 0) (hk : c .kind = Obj.callable) :
    (callableHandle o).run img = .ok ((if c .call ≠ 0 then c .handle else 0), img) := by
  unfold callableHandle
  refine run_bind_eq_ok.2 ⟨_, _, callableCheck_run h ho hk, ?_⟩
  by_cases hc : c .call = 0
  · simp only [hc, bne_self_eq_false, Bool.false_eq_true, if_false, ne_eq, not_true_eq_false]
    rfl
  · simp only [bne_iff_ne, ne_eq, hc, not_false_eq_true, if_true]
    exact h.load_run .handle

end Readers

/-! ## Releasing objects -/

/-- Releasing the items of a tuple whose slots are at `q`, at some indexes, one after another:
the loop that ends the release of a tuple's last reference. -/
def releaseSlots (fuel : Nat) (q : UInt64) : List Nat → ImgM PUnit
  | [] => pure ()
  | i :: is => do
    decref fuel (← load64 (q + 8 * i.toUInt64))
    releaseSlots fuel q is

/-- Dropping the objects in a list of slots, one after another, is `releaseSlots`. -/
theorem forIn_releaseSlots (fuel : Nat) (q : UInt64) (is : List Nat) :
    (forIn is PUnit.unit fun i _ => do
      decref fuel (← load64 (q + 8 * i.toUInt64))
      pure (ForInStep.yield PUnit.unit) : ImgM PUnit) = releaseSlots fuel q is := by
  induction is with
  | nil => rfl
  | cons i is ih => simp only [List.forIn_cons, bind_assoc, pure_bind, ih, releaseSlots]

/-- Releasing the null pointer does nothing. -/
theorem decref_null {img : Image} (fuel : Nat) : (decref (fuel + 1) 0).run img = .ok ((), img) := by
  simp only [decref, beq_self_eq_true, if_true]
  rfl

section Release

variable {img : Image} {c : Cells} {b fuel : Nat}

/-- Releasing an object whose count is negative does nothing: it is never freed. -/
theorem decref_immortal_run {o : UInt64} (h : ObjectAt img.mem o c) (ho : o ≠ 0)
    (hr : (c .refcnt).toInt64 < 0) : (decref (fuel + 1) o).run img = .ok ((), img) := by
  rw [decref]
  simp only [beq_iff_eq, ho, if_false]
  refine run_bind_eq_ok.2 ⟨_, _, h.load_run .refcnt, ?_⟩
  simp only [hr, if_true]
  rfl

/-- Releasing the last reference to an object other than a tuple drops its count to zero. -/
theorem decref_leaf_run (h : ObjectAt img.mem (base b) c) (hb : b + 1 < 2 ^ 32) (hr : c .refcnt = 1)
    (hk : c .kind ≠ Obj.tuple) :
    (decref (fuel + 1) (base b)).run img = .ok ((), { img with mem := img.mem.storeAt b 8 8 0 }) := by
  obtain ⟨hrun, h'⟩ := h.store_run img rfl hb .refcnt 0 (by simp [Field.width])
  rw [decref]
  simp only [beq_iff_eq, base_ne_zero hb, if_false]
  refine run_bind_eq_ok.2 ⟨_, _, h.load_run .refcnt, ?_⟩
  simp only [hr, show ¬ (1 : UInt64).toInt64 < 0 by decide, if_false, sub_self]
  refine run_bind_eq_ok.2 ⟨(), _, hrun, ?_⟩
  simp only [show ¬ (0 : UInt64).toInt64 > 0 by decide, if_false]
  refine run_bind_eq_ok.2 ⟨_, _, h'.load_run .kind, ?_⟩
  simp only [Function.update_of_ne (show Field.kind ≠ .refcnt by decide), hk, if_false]
  rfl

/-- Releasing the last reference to a tuple drops its count to zero, then releases its items. -/
theorem decref_tuple_run (h : ObjectAt img.mem (base b) c) (hb : b + 1 < 2 ^ 32) (hr : c .refcnt = 1)
    (hk : c .kind = Obj.tuple) :
    (decref (fuel + 1) (base b)).run img =
      (releaseSlots fuel (c .items) (List.range (c .count).toInt64.toInt.toNat)).run
        { img with mem := img.mem.storeAt b 8 8 0 } := by
  obtain ⟨hrun, h'⟩ := h.store_run img rfl hb .refcnt 0 (by simp [Field.width])
  have hsame : ∀ f, f ≠ .refcnt → Function.update c .refcnt 0 f = c f :=
    fun f hf => Function.update_of_ne hf _ _
  rw [decref]
  simp only [beq_iff_eq, base_ne_zero hb, if_false]
  refine (run_bind_of_ok (h.load_run .refcnt)).trans ?_
  simp only [hr, show ¬ (1 : UInt64).toInt64 < 0 by decide, if_false, sub_self]
  refine (run_bind_of_ok hrun).trans ?_
  simp only [show ¬ (0 : UInt64).toInt64 > 0 by decide, if_false]
  refine (run_bind_of_ok (h'.load_run .kind)).trans ?_
  simp only [hsame .kind (by decide), hk, if_true]
  refine (run_bind_of_ok (h'.load_run .count)).trans ?_
  refine (run_bind_of_ok (h'.load_run .items)).trans ?_
  rw [hsame .count (by decide), hsame .items (by decide), forIn_releaseSlots, bind_pure_unit]
  rfl

/-- Storing an item into a null slot of a tuple of `n` items, below `n`. -/
theorem tupleSet_run {img : Image} {o : UInt64} {c : Cells} {xs : List UInt64} {b : Nat}
    (h : ObjectAt img.mem o c) (ho : o ≠ 0) (hk : c .kind = Obj.tuple)
    (hn : c .count = xs.length.toUInt64) (hlen : xs.length < 2 ^ 63) (hq : c .items = base b)
    (hb : b + 1 < 2 ^ 32) (hs : SlotsAt img.mem (base b) xs) {i : Nat} (hi : i < xs.length)
    (hz : xs[i] = 0) (item : UInt64) :
    (tupleSet o i.toUInt64 item).run img = .ok (0, { img with mem := img.mem.storeAt b (8 * i) 8 item }) := by
  unfold tupleSet
  refine run_bind_eq_ok.2 ⟨_, _, tupleIndexOk_run h ho hk _, ?_⟩
  rw [hn, toInt64_toInt_ofNat hlen, toInt64_toInt_ofNat (by omega)]
  simp only [Nat.cast_nonneg, Nat.cast_lt, hi, and_self, decide_true, Bool.not_true,
    Bool.false_eq_true, if_false]
  refine run_bind_eq_ok.2 ⟨_, _, h.load_run .items, ?_⟩
  rw [hq]
  refine run_bind_eq_ok.2 ⟨_, _, Objects.load_run (hs.slots i hi), ?_⟩
  rw [hz]
  refine run_bind_eq_ok.2 ⟨(), _, decref_null 99999, ?_⟩
  exact run_bind_eq_ok.2 ⟨(), _, (hs.store_run img hb hi item).1, rfl⟩

end Release

end Objects

end InlineC.Machine
