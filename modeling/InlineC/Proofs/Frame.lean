import Mathlib
import InlineC.Machine.Objects

/-!
# Frames of the machine's memory

A write changes one block of memory and no block's size. So whether an access lies inside a
block depends only on the blocks' sizes and stays as it was after a write, and a value read
from any other block reads the same afterwards. These frame rules let a run of stores be
followed one block at a time.
-/

namespace InlineC.Machine

open InlineC.Lang

namespace Memory

/-- The block an address names: one past the block's index, zero for none. -/
def blockOf (a : UInt64) : Nat := (a >>> 32).toNat

/-- Two memories whose blocks have the same sizes. -/
def SameSizes (m m' : Memory) : Prop :=
  ∀ i : Nat, (m'.blocks[i]?).map ByteArray.size = (m.blocks[i]?).map ByteArray.size

/-- Memory has the sizes it has. -/
theorem SameSizes.refl (m : Memory) : SameSizes m m := fun _ => rfl

/-- Keeping sizes composes. -/
theorem SameSizes.trans {m1 m2 m3 : Memory} (h12 : SameSizes m1 m2) (h23 : SameSizes m2 m3) :
    SameSizes m1 m3 := fun i => (h23 i).trans (h12 i)

/-- Changing a block step by step, each step keeping its size, keeps its size. -/
theorem foldl_size {β : Type} (g : ByteArray → β → ByteArray)
    (hg : ∀ acc x, (g acc x).size = acc.size) (l : List β) (blk : ByteArray) :
    (l.foldl g blk).size = blk.size := by
  induction l generalizing blk with
  | nil => rfl
  | cons x l ih => rw [List.foldl_cons, ih, hg]

/-- Writing a word keeps the block's size. -/
theorem writeWord_size (blk : ByteArray) (off n : Nat) (v : UInt64) :
    (writeWord blk off n v).size = blk.size :=
  foldl_size _ (fun acc _ => ByteArray.size_set! acc _ _) _ blk

/-- Writing octets into a block keeps its size. -/
theorem writeAt_sameSizes (m : Memory) (b off : Nat) (data : List UInt8) :
    SameSizes m (m.writeAt b off data) := by
  intro i
  simp only [writeAt, Array.getElem?_modify]
  split
  · rw [Option.map_map]
    congr 1
    funext blk
    exact foldl_size _ (fun acc x => ByteArray.size_set! acc _ _) _ blk
  · rfl

/-- A store changes no block's size. -/
theorem storeAt_sameSizes (m : Memory) (b off n : Nat) (v : UInt64) :
    SameSizes m (m.storeAt b off n v) := by
  intro i
  simp only [storeAt, Array.getElem?_modify]
  split
  · rw [Option.map_map]
    congr 1
    funext blk
    exact writeWord_size blk off n v
  · rfl

/-- Where an access lies depends only on the blocks' sizes. -/
theorem locate_eq_of_sameSizes {m m' : Memory} (h : SameSizes m m') (a : UInt64) (n : Nat) :
    m'.locate a n = m.locate a n := by
  unfold locate
  have hs := h ((a >>> 32).toNat - 1)
  dsimp only
  split
  · rfl
  · cases h1 : m.blocks[(a >>> 32).toNat - 1]? with
    | none =>
      rw [h1, Option.map_none, Option.map_eq_none_iff] at hs
      rw [hs]
    | some blk =>
      rw [h1, Option.map_some, Option.map_eq_some_iff] at hs
      obtain ⟨blk', h2, hsize⟩ := hs
      rw [h2]
      dsimp only
      rw [hsize]

/-- A shorter access from the same place lies in the same block. -/
theorem locate_mono {m : Memory} {a : UInt64} {n n' b off : Nat}
    (h : m.locate a n = .ok (b, off)) (hn : n' ≤ n) : m.locate a n' = .ok (b, off) := by
  unfold locate at h ⊢
  dsimp only at h ⊢
  split at h
  · cases h
  · rw [if_neg ‹_›]
    split at h
    next blk hblk =>
      split at h
      · rw [if_pos (by omega)]
        exact h
      · cases h
    next => cases h

/-- A located access names its block. -/
theorem locate_block {m : Memory} {a : UInt64} {n b off : Nat}
    (h : m.locate a n = .ok (b, off)) : blockOf a = b + 1 := by
  unfold locate at h
  dsimp only at h
  split at h
  · cases h
  · rename_i hhi
    split at h
    · split at h
      · cases h
        unfold blockOf
        omega
      · cases h
    · cases h

/-- A read that succeeds lies inside a block. -/
theorem locate_of_load {m : Memory} {k : NumKind} {a x : UInt64} (h : m.load k a = .ok x) :
    ∃ b off, m.locate a k.size = .ok (b, off) := by
  unfold load at h
  dsimp only at h
  cases hl : m.locate a k.size with
  | error e =>
    rw [hl] at h
    cases h
  | ok p => exact ⟨p.1, p.2, rfl⟩

/-- A store into one block leaves what any other block reads. -/
theorem load_storeAt {m : Memory} {k : NumKind} {a : UInt64} {b off n : Nat} (v : UInt64)
    {b' off' : Nat} (hl : m.locate a k.size = .ok (b', off')) (hb : b' ≠ b) :
    (m.storeAt b off n v).load k a = m.load k a := by
  have hblk : (m.storeAt b off n v).blocks[b']! = m.blocks[b']! := by
    simp only [storeAt, getElem!_def, Array.getElem?_modify, if_neg (Ne.symm hb)]
  unfold load
  dsimp only
  rw [locate_eq_of_sameSizes (storeAt_sameSizes m b off n v), hl]
  simp only [bind, Except.bind, hblk]

end Memory

namespace Image

/-- A store that succeeds changes the memory in the one block it names. -/
theorem store_eq {img img' : Image} {k : NumKind} {a v : UInt64}
    (h : img.store k a v = .ok img') :
    ∃ b off, img.mem.locate a k.size = .ok (b, off) ∧
      img' = { img with mem := img.mem.storeAt b off k.size v } := by
  unfold Image.store at h
  split at h
  next b off hl =>
    cases h
    exact ⟨b, off, hl, rfl⟩
  next => cases h

/-- A store keeps the sizes of the blocks. -/
theorem store_sameSizes {img img' : Image} {k : NumKind} {a v : UInt64}
    (h : img.store k a v = .ok img') : Memory.SameSizes img.mem img'.mem := by
  obtain ⟨b, off, -, rfl⟩ := store_eq h
  exact Memory.storeAt_sameSizes _ _ _ _ _

/-- A store keeps what a read in another block gives. -/
theorem load_store {img img' : Image} {k k' : NumKind} {a a' v x : UInt64}
    (h : img.store k a v = .ok img') (hb : Memory.blockOf a ≠ Memory.blockOf a')
    (hx : img.mem.load k' a' = .ok x) : img'.mem.load k' a' = .ok x := by
  obtain ⟨b, off, hl, rfl⟩ := store_eq h
  obtain ⟨b', off', hl'⟩ := Memory.locate_of_load hx
  have hne : b' ≠ b := by
    intro hbb
    apply hb
    rw [Memory.locate_block hl, Memory.locate_block hl', hbb]
  rw [← hx]
  exact Memory.load_storeAt v hl' hne

/-- A store into a place that lies in a block succeeds. -/
theorem store_ok {img : Image} {k : NumKind} {a : UInt64} {b off : Nat}
    (hl : img.mem.locate a k.size = .ok (b, off)) (v : UInt64) :
    img.store k a v = .ok { img with mem := img.mem.storeAt b off k.size v } := by
  unfold Image.store
  rw [hl]

/-- Writing octets into a place that lies in a block succeeds. -/
theorem writeBytes_ok {img : Image} {a : UInt64} {data : List UInt8} {b off : Nat}
    (hl : img.mem.locate a data.length = .ok (b, off)) :
    img.writeBytes a data = .ok { img with mem := img.mem.writeAt b off data } := by
  unfold Image.writeBytes
  rw [hl]

end Image

end InlineC.Machine
