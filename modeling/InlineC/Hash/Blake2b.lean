/-!
# BLAKE2b

The BLAKE2b hash of RFC 7693 without a key, for any digest length from 1 to 64 octets.
Words are 64 bits, read little-endian from 128-octet blocks; the last block is padded with
zeros, carries the total length in the counter and is marked final. An empty message is one
final block of zeros.

`fingerprint` is the 56-bit digest read as a big-endian number, the revision stamp of a
generated translation unit.
-/

namespace InlineC.Blake2b

/-- The initialisation vector: the first 64 bits of the fractional parts of the square roots
of the first eight primes. -/
def iv : Vector UInt64 8 :=
  #v[0x6a09e667f3bcc908, 0xbb67ae8584caa73b, 0x3c6ef372fe94f82b, 0xa54ff53a5f1d36f1,
    0x510e527fade682d1, 0x9b05688c2b3e6c1f, 0x1f83d9abfb41bd6b, 0x5be0cd19137e2179]

/-- The message word schedule of each of the ten distinct rounds. -/
def sigma : Vector (Vector (Fin 16) 16) 10 :=
  #v[#v[0, 1, 2, 3, 4, 5, 6, 7, 8, 9, 10, 11, 12, 13, 14, 15],
    #v[14, 10, 4, 8, 9, 15, 13, 6, 1, 12, 0, 2, 11, 7, 5, 3],
    #v[11, 8, 12, 0, 5, 2, 15, 13, 10, 14, 3, 6, 7, 1, 9, 4],
    #v[7, 9, 3, 1, 13, 12, 11, 14, 2, 6, 5, 10, 4, 0, 15, 8],
    #v[9, 0, 5, 7, 2, 4, 10, 15, 14, 1, 11, 12, 6, 8, 3, 13],
    #v[2, 12, 6, 10, 0, 11, 8, 3, 4, 13, 7, 5, 15, 14, 1, 9],
    #v[12, 5, 1, 15, 14, 13, 4, 10, 0, 7, 6, 3, 9, 2, 8, 11],
    #v[13, 11, 7, 14, 12, 1, 3, 9, 5, 0, 15, 4, 8, 6, 2, 10],
    #v[6, 15, 14, 9, 11, 3, 0, 8, 12, 2, 13, 7, 1, 4, 10, 5],
    #v[10, 2, 8, 4, 7, 6, 1, 5, 15, 11, 9, 14, 3, 12, 13, 0]]

/-- Rotate a word right by `n` bits. -/
def rotr (x : UInt64) (n : UInt64) : UInt64 := (x >>> n) ||| (x <<< (64 - n))

/-- The mixing function on four words of the working vector and two message words. -/
def mix (v : Vector UInt64 16) (a b c d : Fin 16) (x y : UInt64) : Vector UInt64 16 :=
  let va := v[a] + v[b] + x
  let vd := rotr (v[d] ^^^ va) 32
  let vc := v[c] + vd
  let vb := rotr (v[b] ^^^ vc) 24
  let va := va + vb + y
  let vd := rotr (vd ^^^ va) 16
  let vc := vc + vd
  let vb := rotr (vb ^^^ vc) 63
  ((((v.set a va).set b vb).set c vc).set d vd)

/-- One round: four column mixes, then four diagonal mixes. -/
def round (m : Vector UInt64 16) (s : Vector (Fin 16) 16) (v : Vector UInt64 16) :
    Vector UInt64 16 :=
  let v := mix v 0 4 8 12 m[s[0]] m[s[1]]
  let v := mix v 1 5 9 13 m[s[2]] m[s[3]]
  let v := mix v 2 6 10 14 m[s[4]] m[s[5]]
  let v := mix v 3 7 11 15 m[s[6]] m[s[7]]
  let v := mix v 0 5 10 15 m[s[8]] m[s[9]]
  let v := mix v 1 6 11 12 m[s[10]] m[s[11]]
  let v := mix v 2 7 8 13 m[s[12]] m[s[13]]
  mix v 3 4 9 14 m[s[14]] m[s[15]]

/-- The compression function: the chain value after one block, given the number of octets
hashed so far and whether the block is the last. -/
def compress (h : Vector UInt64 8) (m : Vector UInt64 16) (count : Nat) (final : Bool) :
    Vector UInt64 8 :=
  let v : Vector UInt64 16 := h ++ iv
  let v := v.set 12 (v[12] ^^^ count.toUInt64)
  let v := v.set 13 (v[13] ^^^ (count >>> 64).toUInt64)
  let v := if final then v.set 14 (~~~ v[14]) else v
  let v := (List.range 12).foldl (fun v r => round m sigma[r % 10] v) v
  Vector.ofFn fun i => h[i] ^^^ v[i] ^^^ v[i.val + 8]

/-- The little-endian word at word position `i` of a block. -/
def word (block : List UInt8) (i : Nat) : UInt64 :=
  (List.range 8).foldl (fun w k => w ||| ((block.getD (8 * i + k) 0).toUInt64 <<< (8 * k).toUInt64)) 0

/-- A block as sixteen words, padded with zero octets. -/
def words (block : List UInt8) : Vector UInt64 16 := Vector.ofFn fun i => word block i.val

/-- Hash the remaining octets `rest`, `done` octets having been hashed already. -/
def absorb (h : Vector UInt64 8) (done : Nat) (rest : List UInt8) : Vector UInt64 8 :=
  if rest.length ≤ 128 then compress h (words rest) (done + rest.length) true
  else absorb (compress h (words (rest.take 128)) (done + 128) false) (done + 128) (rest.drop 128)
termination_by rest.length
decreasing_by simp only [List.length_drop]; omega

/-- The BLAKE2b digest of `length` octets (1 to 64) of a message, without a key. -/
def digest (length : Nat) (msg : List UInt8) : List UInt8 :=
  let h := iv.set 0 (iv[0] ^^^ 0x01010000 ^^^ length.toUInt64)
  let h := absorb h 0 msg
  (List.range length).map fun i => (h.get ⟨i / 8 % 8, Nat.mod_lt _ (by decide)⟩ >>> (8 * (i % 8)).toUInt64).toUInt8

/-- The octets of a digest read as a big-endian number. -/
def bigEndian (octets : List UInt8) : Nat := octets.foldl (fun n b => 256 * n + b.toNat) 0

/-- The 56-bit fingerprint of a message: its seven-octet digest as a big-endian number. -/
def fingerprint (msg : List UInt8) : Nat := bigEndian (digest 7 msg)

end InlineC.Blake2b
