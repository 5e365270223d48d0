import Mathlib
import InlineC.Proofs.Frame

/-!
# Octets, words and strings in memory

A word is written as its low octets, little-endian, and read back the same way; a string is
its octets up to the first zero one. This module says what a read gives after writes and
allocations: the word written when it reads the same place, the old value when it reads
other octets or another block, zero in a fresh block, and the octets written before a zero
for a string. A read depends on its own block only, so whatever keeps a block keeps every
read from it.
-/

namespace InlineC.Machine.Memory

open InlineC.Lang

/-- Reading an octet after setting one reads the octet set, in range, or the old one. -/
theorem get!_set! (blk : ByteArray) (i j : Nat) (x : UInt8) :
    (blk.set! i x).get! j = if i = j ∧ i < blk.size then x else blk.get! j := by
  obtain ⟨bs⟩ := blk
  simp only [ByteArray.set!, ByteArray.get!, ByteArray.size]
  simp only [Array.set!_eq_setIfInBounds, Array.getElem!_eq_getD, Array.getD_eq_getD_getElem?,
    Array.getElem?_setIfInBounds]
  split_ifs <;> simp_all
  omega

/-- The octet a word puts at position `i`. -/
def octet (v : UInt64) (i : Nat) : UInt8 := (v >>> (8 * i).toUInt64).toUInt8

/-- Reading an octet after writing a word reads the word's octet inside it, or the old one. -/
theorem get!_writeWord (blk : ByteArray) (off n j : Nat) (v : UInt64) (h : off + n ≤ blk.size) :
    (writeWord blk off n v).get! j = if off ≤ j ∧ j < off + n then octet v (j - off) else blk.get! j := by
  induction n with
  | zero => simp [writeWord]
  | succ n ih =>
    have hw : writeWord blk off (n + 1) v = (writeWord blk off n v).set! (off + n) (octet v n) := by
      simp only [writeWord, List.range_succ, List.foldl_append, List.foldl_cons, List.foldl_nil, octet]
    rw [hw, get!_set!, writeWord_size, ih (by omega)]
    by_cases hj : off + n = j
    · subst hj
      simp
      omega
    · simp only [hj, false_and, if_false]
      split_ifs <;> first | rfl | omega


/-- Shifting a word in by one octet multiplies by 256 and adds the octet. -/
theorem toNat_shift_or (acc : UInt64) (x : UInt8) (h : acc.toNat < 2 ^ 56) :
    ((acc <<< 8) ||| x.toUInt64).toNat = acc.toNat * 256 + x.toNat := by
  have hx : x.toNat < 2 ^ 8 := x.toNat_lt
  rw [UInt64.toNat_or, UInt64.toNat_shiftLeft, UInt8.toNat_toUInt64]
  have h8 : (8 : UInt64).toNat % 64 = 8 := rfl
  rw [h8, Nat.mod_eq_of_lt (by rw [Nat.shiftLeft_eq]; omega), ← Nat.shiftLeft_add_eq_or_of_lt hx,
    Nat.shiftLeft_eq]

/-- The value of the octets of a block from an offset, little-endian. -/
def octets (blk : ByteArray) (off n : Nat) : Nat :=
  ∑ i ∈ Finset.range n, (blk.get! (off + i)).toNat * 256 ^ i

/-- The word folded from octets is their big-endian number after the start value. -/
theorem readWord_foldr (blk : ByteArray) (off : Nat) :
    ∀ n (a : UInt64), n ≤ 8 → a.toNat < 256 ^ (8 - n) →
      ((List.range n).foldr (fun i (acc : UInt64) => (acc <<< 8) ||| (blk.get! (off + i)).toUInt64) a).toNat =
        a.toNat * 256 ^ n + octets blk off n := by
  intro n
  induction n with
  | zero => intro a _ _; simp [octets]
  | succ n ih =>
    intro a hn ha
    rw [List.range_succ, List.foldr_append, List.foldr_cons, List.foldr_nil]
    have hstep := toNat_shift_or a (blk.get! (off + n)) (by
      have : 256 ^ (8 - (n + 1)) ≤ 2 ^ 56 := by
        calc 256 ^ (8 - (n + 1)) ≤ 256 ^ 7 := Nat.pow_le_pow_right (by norm_num) (by omega)
          _ = 2 ^ 56 := by norm_num
      omega)
    have hb := (blk.get! (off + n)).toNat_lt
    rw [ih _ (by omega), hstep, octets, octets, Finset.sum_range_succ]
    · ring
    · rw [hstep]
      have e : 256 ^ (8 - n) = 256 ^ (8 - (n + 1)) * 256 := by
        rw [← pow_succ]; congr 1; omega
      rw [e]
      have : a.toNat + 1 ≤ 256 ^ (8 - (n + 1)) := ha
      nlinarith

/-- A word read is the number its octets make. -/
theorem readWord_toNat (blk : ByteArray) (off n : Nat) (hn : n ≤ 8) :
    (readWord blk off n).toNat = octets blk off n := by
  have := readWord_foldr blk off n 0 hn (by simp)
  simpa [readWord] using this


/-- The `i`-th octet of a word is its `i`-th digit in base 256. -/
theorem octet_toNat (v : UInt64) {i : Nat} (hi : i < 8) :
    (octet v i).toNat = v.toNat / 256 ^ i % 256 := by
  have h8 : (8 * i).toUInt64.toNat % 64 = 8 * i := by
    simp only [Nat.toUInt64_eq, UInt64.toNat_ofNat']
    omega
  rw [octet, UInt64.toNat_toUInt8, UInt64.toNat_shiftRight, h8, Nat.shiftRight_eq_div_pow,
    pow_mul]
  norm_num

/-- The little-endian octets of a number, read back, give it modulo the place of the last. -/
theorem sum_octets (x n : Nat) :
    ∑ i ∈ Finset.range n, x / 256 ^ i % 256 * 256 ^ i = x % 256 ^ n := by
  induction n with
  | zero => simp [Nat.mod_one]
  | succ n ih => rw [Finset.sum_range_succ, ih, Nat.mod_pow_succ]; ring

/-- A word written at an offset reads back modulo its width. -/
theorem readWord_writeWord (blk : ByteArray) (off n : Nat) (v : UInt64) (hn : n ≤ 8)
    (h : off + n ≤ blk.size) : (readWord (writeWord blk off n v) off n).toNat = v.toNat % 256 ^ n := by
  rw [readWord_toNat _ _ _ hn, octets, ← sum_octets]
  refine Finset.sum_congr rfl fun i hi => ?_
  have hi : i < n := Finset.mem_range.1 hi
  rw [get!_writeWord _ _ _ _ _ h, if_pos (by omega), Nat.add_sub_cancel_left, octet_toNat v (by omega)]

/-- A read depends only on the octets it reads. -/
theorem readWord_congr {blk blk' : ByteArray} {off off' n : Nat}
    (h : ∀ i < n, blk'.get! (off' + i) = blk.get! (off + i)) :
    readWord blk' off' n = readWord blk off n := by
  unfold readWord
  -- the reads agree from every starting word, one octet at a time from the last
  suffices ∀ k ≤ n, ∀ a : UInt64,
      (List.range k).foldr (fun i (acc : UInt64) => (acc <<< 8) ||| (blk'.get! (off' + i)).toUInt64) a =
        (List.range k).foldr (fun i (acc : UInt64) => (acc <<< 8) ||| (blk.get! (off + i)).toUInt64) a from
    this n le_rfl 0
  intro k
  induction k with
  | zero => intro _ _; rfl
  | succ k ih =>
    intro hk a
    simp only [List.range_succ, List.foldr_append, List.foldr_cons, List.foldr_nil, h k (by omega)]
    exact ih (by omega) _

/-- A word written elsewhere in a block leaves a read of other octets as it was. -/
theorem readWord_writeWord_apart (blk : ByteArray) (off n off' n' : Nat) (v : UInt64)
    (h : off + n ≤ blk.size) (hapart : off' + n' ≤ off ∨ off + n ≤ off') :
    readWord (writeWord blk off n v) off' n' = readWord blk off' n' := by
  refine readWord_congr fun i hi => ?_
  rw [get!_writeWord _ _ _ _ _ h, if_neg (by omega)]


/-- A 32-bit read of a word below the sign bit is the word. -/
theorem signExtend_of_lt (v : UInt64) (h : v.toNat < 2 ^ 31) : signExtend 32 v = v := by
  apply UInt64.toBitVec_inj.1
  have hv : v.toBitVec.toNat < 2 ^ 31 := h
  have hmsb : (v.toBitVec <<< 32).msb = false := by
    rw [BitVec.msb_eq_decide]
    simp only [BitVec.toNat_shiftLeft, Nat.shiftLeft_eq, decide_eq_false_iff_not, not_le]
    omega
  simp only [signExtend]
  simp
  rw [BitVec.sshiftRight_eq_of_msb_false hmsb]
  apply BitVec.eq_of_toNat_eq
  simp only [BitVec.toNat_ushiftRight, BitVec.toNat_shiftLeft, Nat.shiftLeft_eq,
    Nat.shiftRight_eq_div_pow]
  omega

/-! ## Places in blocks -/

/-- The place `x` octets into block `b`, where `n` octets from it lie in the block. -/
theorem locate_base {m : Memory} {b : Nat} {blk : ByteArray} (x : UInt64) (n : Nat)
    (hb : b + 1 < 2 ^ 32) (hblk : m.blocks[b]? = some blk) (hx : x.toNat < 2 ^ 32)
    (hfit : x.toNat + n ≤ blk.size) : m.locate (base b + x) n = .ok (b, x.toNat) := by
  have hsum : (base b + x).toNat = (b + 1) * 2 ^ 32 + x.toNat := by
    have hbase : (base b).toNat = (b + 1) * 2 ^ 32 := by
      rw [base, UInt64.toNat_ofNat', show Nat.pow 2 32 = 2 ^ 32 from rfl]
      exact Nat.mod_eq_of_lt (by omega)
    rw [UInt64.toNat_add, hbase]
    exact Nat.mod_eq_of_lt (by omega)
  have hhi : ((base b + x) >>> 32).toNat = b + 1 := by
    rw [UInt64.toNat_shiftRight, hsum, show (32 : UInt64).toNat % 64 = 32 from rfl,
      Nat.shiftRight_eq_div_pow]
    omega
  have hlo : ((base b + x) &&& 0xFFFFFFFF).toNat = x.toNat := by
    rw [UInt64.toNat_and, hsum]
    have hmask : (0xFFFFFFFF : UInt64).toNat = 2 ^ 32 - 1 := rfl
    rw [hmask, Nat.and_two_pow_sub_one_eq_mod]
    omega
  unfold locate
  simp only [hhi, hlo, Nat.add_sub_cancel, Nat.add_one_ne_zero, if_false, hblk, if_pos hfit]

/-- A place that lies in a block names its block. -/
theorem locate_some {m : Memory} {a : UInt64} {n b off : Nat} (h : m.locate a n = .ok (b, off)) :
    ∃ blk, m.blocks[b]? = some blk ∧ off + n ≤ blk.size := by
  unfold locate at h
  dsimp only at h
  split at h
  · cases h
  · split at h
    next blk hblk =>
      split at h
      · cases h
        exact ⟨blk, hblk, by assumption⟩
      · cases h
    next => cases h

/-- A 64-bit load reads the word at the located place. -/
theorem load_u64 {m : Memory} {a : UInt64} {b off : Nat} (h : m.locate a 8 = .ok (b, off)) :
    m.load .u64 a = .ok (readWord m.blocks[b]! off 8) := by
  unfold load
  dsimp only [NumKind.size]
  rw [h]
  rfl

/-- A 32-bit load reads the sign-extended word at the located place. -/
theorem load_i32 {m : Memory} {a : UInt64} {b off : Nat} (h : m.locate a 4 = .ok (b, off)) :
    m.load .i32 a = .ok (signExtend 32 (readWord m.blocks[b]! off 4)) := by
  unfold load
  dsimp only [NumKind.size]
  rw [h]
  rfl


/-! ## Reads after writes -/

/-- A read depends only on the block it reads. -/
theorem load_congr {m m' : Memory} {k : NumKind} {a : UInt64}
    (h : m'.blocks[(a >>> 32).toNat - 1]? = m.blocks[(a >>> 32).toNat - 1]?) :
    m'.load k a = m.load k a := by
  have hl : m'.locate a k.size = m.locate a k.size := by
    unfold locate
    dsimp only
    rw [h]
  have hblk : m'.blocks[(a >>> 32).toNat - 1]! = m.blocks[(a >>> 32).toNat - 1]! := by
    simp only [getElem!_def, h]
  unfold load
  dsimp only
  rw [hl]
  cases hloc : m.locate a k.size with
  | error e => rfl
  | ok p =>
    obtain ⟨b, off⟩ := p
    have hb : b = (a >>> 32).toNat - 1 := by
      have := locate_block hloc
      unfold blockOf at this
      omega
    subst hb
    simp only [bind, Except.bind, hblk]

/-- An entry that is present is the one read with `!`. -/
theorem getElem!_of_some {bs : Array ByteArray} {i : Nat} {x : ByteArray} (h : bs[i]? = some x) :
    bs[i]! = x := by
  simp [getElem!_def, h]

/-- Storing into a block writes the word into it. -/
theorem storeAt_blocks_self {m : Memory} {b : Nat} {blk : ByteArray} (off n : Nat) (v : UInt64)
    (h : m.blocks[b]? = some blk) : (m.storeAt b off n v).blocks[b]? = some (writeWord blk off n v) := by
  simp [storeAt, Array.getElem?_modify, h]

/-- Storing into a block leaves the other blocks alone. -/
theorem storeAt_blocks_ne {m : Memory} {b b' : Nat} (off n : Nat) (v : UInt64) (h : b' ≠ b) :
    (m.storeAt b off n v).blocks[b']? = m.blocks[b']? := by
  simp [storeAt, Array.getElem?_modify, Ne.symm h]

/-- A 64-bit word stored reads back. -/
theorem load_u64_storeAt {m : Memory} {a : UInt64} {b off : Nat} (v : UInt64)
    (hl : m.locate a 8 = .ok (b, off)) : (m.storeAt b off 8 v).load .u64 a = .ok v := by
  obtain ⟨blk, hblk, hfit⟩ := locate_some hl
  have hl' : (m.storeAt b off 8 v).locate a 8 = .ok (b, off) := by
    rw [locate_eq_of_sameSizes (storeAt_sameSizes m b off 8 v), hl]
  rw [load_u64 hl', getElem!_of_some (storeAt_blocks_self off 8 v hblk)]
  congr 1
  apply UInt64.toNat_inj.1
  rw [readWord_writeWord _ _ _ _ le_rfl hfit]
  exact Nat.mod_eq_of_lt v.toNat_lt

/-- A small 32-bit word stored reads back. -/
theorem load_i32_storeAt {m : Memory} {a : UInt64} {b off : Nat} (v : UInt64)
    (hl : m.locate a 4 = .ok (b, off)) (hv : v.toNat < 2 ^ 31) :
    (m.storeAt b off 4 v).load .i32 a = .ok v := by
  obtain ⟨blk, hblk, hfit⟩ := locate_some hl
  have hl' : (m.storeAt b off 4 v).locate a 4 = .ok (b, off) := by
    rw [locate_eq_of_sameSizes (storeAt_sameSizes m b off 4 v), hl]
  rw [load_i32 hl', getElem!_of_some (storeAt_blocks_self off 4 v hblk)]
  have hr : readWord (writeWord blk off 4 v) off 4 = v := by
    apply UInt64.toNat_inj.1
    rw [readWord_writeWord _ _ _ _ (by norm_num) hfit]
    exact Nat.mod_eq_of_lt (by omega)
  rw [hr, signExtend_of_lt v hv]

/-- A store leaves a read of other octets as it was, in its block or another. -/
theorem load_storeAt_apart {m : Memory} {k : NumKind} {a : UInt64} {b off n b' off' : Nat}
    {blk : ByteArray} (v : UInt64) (hl : m.locate a k.size = .ok (b', off'))
    (hblk : m.blocks[b]? = some blk) (hfit : off + n ≤ blk.size)
    (h : b' ≠ b ∨ off' + k.size ≤ off ∨ off + n ≤ off') :
    (m.storeAt b off n v).load k a = m.load k a := by
  rcases h with hne | hapart
  · exact load_storeAt v hl hne
  · by_cases hb : b' = b
    · subst hb
      have hl' : (m.storeAt b' off n v).locate a k.size = .ok (b', off') := by
        rw [locate_eq_of_sameSizes (storeAt_sameSizes m b' off n v), hl]
      unfold load
      dsimp only
      rw [hl', hl]
      simp only [bind, Except.bind, getElem!_of_some (storeAt_blocks_self off n v hblk),
        getElem!_of_some hblk, readWord_writeWord_apart _ _ _ _ _ v hfit hapart]
    · exact load_storeAt v hl hb

/-- A fresh block reads zero. -/
theorem readWord_zeros (size off n : Nat) (hn : n ≤ 8) (hfit : off + n ≤ size) :
    readWord (ByteArray.mk (Array.replicate size 0)) off n = 0 := by
  apply UInt64.toNat_inj.1
  rw [readWord_toNat _ _ _ hn, octets]
  refine Finset.sum_eq_zero fun i hi => ?_
  have hi : i < n := Finset.mem_range.1 hi
  simp [ByteArray.get!, show off + i < size by omega]

/-- Allocating keeps the blocks there were. -/
theorem alloc_blocks_lt {m : Memory} {b : Nat} (size : Nat) (h : b < m.blocks.size) :
    (m.alloc size).1.blocks[b]? = m.blocks[b]? := by
  simp [alloc, Array.getElem?_push, Nat.ne_of_lt h]

/-- Allocating adds a block of zeros. -/
theorem alloc_blocks_self (m : Memory) (size : Nat) :
    (m.alloc size).1.blocks[m.blocks.size]? = some (ByteArray.mk (Array.replicate size 0)) := by
  simp [alloc]


/-! ## Octets and strings -/

/-- Reading an octet after writing octets reads the one written there, or the old one. -/
theorem get!_writeOctets (off j : Nat) :
    ∀ (data : List UInt8) (k : Nat) (blk : ByteArray), off + k + data.length ≤ blk.size →
      ((data.zipIdx k).foldl (fun acc (p : UInt8 × Nat) => acc.set! (off + p.2) p.1) blk).get! j =
        if off + k ≤ j ∧ j < off + k + data.length then data[j - off - k]! else blk.get! j
  | [], k, blk, _ => by simp
  | x :: rest, k, blk, h => by
    simp only [List.zipIdx_cons, List.foldl_cons, List.length_cons] at h ⊢
    rw [get!_writeOctets off j rest (k + 1) _ (by rw [ByteArray.size_set!]; omega), get!_set!]
    by_cases hj : j = off + k
    · subst hj
      simp
      omega
    · by_cases hin : off + (k + 1) ≤ j ∧ j < off + (k + 1) + rest.length
      · rw [if_pos hin, if_pos (by omega)]
        have e : j - off - k = (j - off - (k + 1)) + 1 := by omega
        rw [e, List.getElem!_cons_succ]
      · rw [if_neg hin, if_neg (by omega), if_neg (by omega)]

/-- Writing octets into a block sets them in it. -/
theorem writeAt_blocks_self {m : Memory} {b : Nat} {blk : ByteArray} (off : Nat) (data : List UInt8)
    (h : m.blocks[b]? = some blk) :
    (m.writeAt b off data).blocks[b]? =
      some (data.zipIdx.foldl (fun acc (p : UInt8 × Nat) => acc.set! (off + p.2) p.1) blk) := by
  simp [writeAt, Array.getElem?_modify, h]

/-- Writing octets into a block leaves the other blocks alone. -/
theorem writeAt_blocks_ne {m : Memory} {b b' : Nat} (off : Nat) (data : List UInt8) (h : b' ≠ b) :
    (m.writeAt b off data).blocks[b']? = m.blocks[b']? := by
  simp [writeAt, Array.getElem?_modify, Ne.symm h]

/-- A string read from where octets free of zero lie, followed by a zero, gives those octets. -/
theorem cString_go (blk : ByteArray) (s : List UInt8) (off : Nat) (hs : (0 : UInt8) ∉ s)
    (hbytes : ∀ i (h : i < s.length), blk.get! (off + i) = s[i])
    (hz : blk.get! (off + s.length) = 0) (hfit : off + s.length < blk.size) :
    ∀ fuel j, j ≤ s.length → s.length - j < fuel →
      cString.go blk fuel (off + j) (s.take j).reverse = .ok s := by
  intro fuel
  induction fuel with
  | zero => intro j _ h; omega
  | succ fuel ih =>
    intro j hj hfuel
    rw [cString.go, if_pos (by omega)]
    by_cases hend : j = s.length
    · subst hend
      simp [hz]
    · have hjs : j < s.length := by omega
      have hne : blk.get! (off + j) ≠ 0 := by
        rw [hbytes j hjs]
        intro h0
        exact hs (h0 ▸ List.getElem_mem hjs)
      simp only [hne, if_false]
      have e : blk.get! (off + j) :: (s.take j).reverse = (s.take (j + 1)).reverse := by
        rw [List.take_add_one, List.reverse_append, hbytes j hjs]
        simp [List.getElem?_eq_getElem hjs]
      rw [e, show off + j + 1 = off + (j + 1) by omega]
      exact ih (j + 1) hjs (by omega)

/-- A string read is the octets up to the first zero in the block. -/
theorem cString_eq {m : Memory} {p : UInt64} {b off : Nat} {blk : ByteArray} {s : List UInt8}
    (hl : m.locate p 0 = .ok (b, off)) (hblk : m.blocks[b]? = some blk) (hs : (0 : UInt8) ∉ s)
    (hbytes : ∀ i (h : i < s.length), blk.get! (off + i) = s[i])
    (hz : blk.get! (off + s.length) = 0) (hfit : off + s.length < blk.size) :
    m.cString p = .ok s := by
  unfold cString
  rw [hl]
  simp only [bind, Except.bind, getElem!_of_some hblk]
  have := cString_go blk s off hs hbytes hz hfit (blk.size + 1) 0 (Nat.zero_le _) (by omega)
  simpa using this


/-- A string read holds no zero octet. -/
theorem cString_go_no_zero (blk : ByteArray) :
    ∀ fuel i (acc r : List UInt8), (0 : UInt8) ∉ acc → cString.go blk fuel i acc = .ok r → (0 : UInt8) ∉ r
  | 0, _, _, _, _, h => by simp [cString.go] at h
  | fuel + 1, i, acc, r, hacc, h => by
    rw [cString.go] at h
    split at h
    · dsimp only at h
      split at h
      · cases h
        simpa using hacc
      next hne =>
        refine cString_go_no_zero blk fuel (i + 1) _ r ?_ h
        simp only [List.mem_cons, not_or]
        exact ⟨fun h0 => hne h0.symm, hacc⟩
    · cases h

/-- A string read holds no zero octet. -/
theorem cString_no_zero {m : Memory} {p : UInt64} {s : List UInt8} (h : m.cString p = .ok s) :
    (0 : UInt8) ∉ s := by
  unfold cString at h
  cases hl : m.locate p 0 with
  | error e =>
    rw [hl] at h
    cases h
  | ok q =>
    rw [hl] at h
    exact cString_go_no_zero _ _ _ [] s (by simp) h

/-- A string read depends only on the block it reads. -/
theorem cString_congr {m m' : Memory} {p : UInt64}
    (h : m'.blocks[(p >>> 32).toNat - 1]? = m.blocks[(p >>> 32).toNat - 1]?) :
    m'.cString p = m.cString p := by
  have hl : m'.locate p 0 = m.locate p 0 := by
    unfold locate
    dsimp only
    rw [h]
  have hblk : m'.blocks[(p >>> 32).toNat - 1]! = m.blocks[(p >>> 32).toNat - 1]! := by
    simp only [getElem!_def, h]
  unfold cString
  rw [hl]
  cases hloc : m.locate p 0 with
  | error e => rfl
  | ok q =>
    obtain ⟨b, off⟩ := q
    have hb : b = (p >>> 32).toNat - 1 := by
      have := locate_block hloc
      unfold blockOf at this
      omega
    subst hb
    simp only [bind, Except.bind, hblk]

/-- A string that reads lies in a block. -/
theorem locate_of_cString {m : Memory} {p : UInt64} {s : List UInt8} (h : m.cString p = .ok s) :
    ∃ b off, m.locate p 0 = .ok (b, off) := by
  unfold Memory.cString at h
  cases hl : m.locate p 0 with
  | error e =>
    rw [hl] at h
    cases h
  | ok q => exact ⟨q.1, q.2, rfl⟩

/-- The block an access that lies in a block names is one of the memory's. -/
theorem block_lt_of_locate {m : Memory} {a : UInt64} {n b off : Nat} (h : m.locate a n = .ok (b, off)) :
    blockOf a - 1 < m.blocks.size := by
  obtain ⟨blk, hblk, -⟩ := locate_some h
  have := locate_block h
  have := (Array.getElem?_eq_some_iff.1 hblk).1
  omega

/-- A string read keeps the octets it had read before. -/
theorem cString_go_prefix (blk : ByteArray) :
    ∀ fuel i (acc r : List UInt8), cString.go blk fuel i acc = .ok r → ∃ t, r = acc.reverse ++ t
  | 0, _, _, _, h => by simp [cString.go] at h
  | fuel + 1, i, acc, r, h => by
    rw [cString.go] at h
    split at h
    · dsimp only at h
      split at h
      · cases h
        exact ⟨[], by simp⟩
      · obtain ⟨t, rfl⟩ := cString_go_prefix blk fuel (i + 1) _ r h
        exact ⟨blk.get! i :: t, by simp⟩
    · cases h

/-- An access from a located place lies in the same block for any length that fits. -/
theorem locate_widen {m : Memory} {a : UInt64} {n n' b off : Nat} {blk : ByteArray}
    (h : m.locate a n = .ok (b, off)) (hblk : m.blocks[b]? = some blk) (hn : off + n' ≤ blk.size) :
    m.locate a n' = .ok (b, off) := by
  have hb := locate_block h
  unfold locate at h ⊢
  dsimp only at h ⊢
  split at h
  · cases h
  · rw [if_neg ‹_›]
    unfold blockOf at hb
    rw [show (a >>> 32).toNat - 1 = b by omega, hblk] at h ⊢
    dsimp only at h ⊢
    split at h
    · cases h
      rw [if_pos hn]
    · cases h

/-- A signed octet read where a string starts gives its first character, sign-extended. -/
theorem load_i8_of_cString {m : Memory} {p : UInt64} {ch : UInt8} {s : List UInt8}
    (h : m.cString p = .ok (ch :: s)) : m.load .i8 p = .ok (signExtend 8 ch.toUInt64) := by
  unfold cString at h
  cases hl : m.locate p 0 with
  | error e =>
    rw [hl] at h
    cases h
  | ok q =>
    obtain ⟨b, off⟩ := q
    rw [hl] at h
    simp only [bind, Except.bind] at h
    obtain ⟨blk, hblk, -⟩ := locate_some hl
    rw [getElem!_of_some hblk, cString.go] at h
    split at h
    · rename_i hoff
      dsimp only at h
      split at h
      · cases h
      · -- the first octet is not the terminator, and the read keeps it first
        obtain ⟨t, ht⟩ := cString_go_prefix blk _ _ _ _ h
        simp only [List.reverse_cons, List.reverse_nil, List.nil_append, List.singleton_append,
          List.cons.injEq] at ht
        unfold load
        dsimp only
        rw [locate_widen hl hblk (show off + NumKind.i8.size ≤ blk.size from hoff)]
        simp [readWord, getElem!_of_some hblk, ht.1, NumKind.size, NumKind.signed]
    · cases h

end InlineC.Machine.Memory
