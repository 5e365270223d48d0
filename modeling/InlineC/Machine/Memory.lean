import InlineC.Lang.Core

/-!
# Memory

The machine's memory is a sequence of blocks, each a run of octets. Block `b` starts at
address `(b + 1) * 2^32`, so an address names its block in its high half and an offset in
its low half, and address zero lies in no block. Every allocation is a fresh block:
globals, string literals, what `malloc` returns, and the machine's stack, one block that
grows as calls need it. Freeing a block with `free` keeps its octets, so a read after free
sees what was there.

Reads and writes are little-endian, as on the target, and fail outside a block.
-/

namespace InlineC.Machine

open InlineC.Lang

/-- Why running native code stopped: a bad address, a trap, or a construct the machine does
not run. -/
structure Fault where
  message : String
  deriving Repr, Inhabited, DecidableEq

/-- The blocks of memory. -/
structure Memory where
  blocks : Array ByteArray := #[]
  deriving Inhabited

namespace Memory

/-- The largest block an allocation may ask for. -/
def maxBlock : Nat := Nat.pow 2 31

/-- The address of a block's first octet. -/
def base (b : Nat) : UInt64 := UInt64.ofNat ((b + 1) * Nat.pow 2 32)

/-- The block and offset of an address, when `len` octets from it lie in a block. -/
def locate (m : Memory) (addr : UInt64) (len : Nat) : Except Fault (Nat × Nat) :=
  let hi := (addr >>> 32).toNat
  let off := (addr &&& 0xFFFFFFFF).toNat
  if hi = 0 then .error ⟨"null pointer dereference"⟩
  else
    match m.blocks[hi - 1]? with
    | some blk => if off + len ≤ blk.size then .ok (hi - 1, off)
      else .error ⟨"access outside an object"⟩
    | none => .error ⟨"access to an invalid address"⟩

/-- Allocate a zeroed block. -/
def alloc (m : Memory) (size : Nat) : Memory × UInt64 :=
  ({ blocks := m.blocks.push (ByteArray.mk (Array.replicate size 0)) }, base m.blocks.size)

/-- Release the block an address starts: its octets are dropped and later accesses fail. -/
def release (m : Memory) (addr : UInt64) : Memory :=
  let hi := (addr >>> 32).toNat
  if hi = 0 then m else { blocks := m.blocks.modify (hi - 1) fun _ => ByteArray.empty }

/-- The size of the block an address starts, when it starts one. -/
def blockSize (m : Memory) (addr : UInt64) : Option Nat :=
  let hi := (addr >>> 32).toNat
  if hi = 0 || (addr &&& 0xFFFFFFFF) != 0 then none
  else (m.blocks[hi - 1]?).map (·.size)

/-- Grow a block to at least `size` octets, keeping its contents. -/
def grow (m : Memory) (b size : Nat) : Memory :=
  { blocks := m.blocks.modify b fun blk =>
      if blk.size ≥ size then blk else blk ++ ByteArray.mk (Array.replicate (size - blk.size) 0) }

/-- Read octets. -/
def readBytes (m : Memory) (addr : UInt64) (len : Nat) : Except Fault (List UInt8) := do
  let (b, off) ← m.locate addr len
  let blk := m.blocks[b]!
  pure ((List.range len).map fun i => blk.get! (off + i))

/-- Write octets at an offset of block `b`, where they are known to fit. -/
def writeAt (m : Memory) (b off : Nat) (data : List UInt8) : Memory :=
  { blocks := m.blocks.modify b fun blk =>
    data.zipIdx.foldl (fun acc (v, i) => acc.set! (off + i) v) blk }

/-- Write octets. -/
def writeBytes (m : Memory) (addr : UInt64) (data : List UInt8) : Except Fault Memory :=
  match m.locate addr data.length with
  | .ok (b, off) => .ok (m.writeAt b off data)
  | .error e => .error e

/-- The value of little-endian octets. -/
def fromLittle (os : List UInt8) : Nat :=
  os.foldr (fun o acc => o.toNat + 256 * acc) 0

/-- The little-endian octets of a value. -/
def toLittle (len : Nat) (v : Nat) : List UInt8 :=
  (List.range len).map fun i => UInt8.ofNat (v / Nat.pow 256 i)

/-- Read an unsigned value of `len` octets. -/
def read (m : Memory) (addr : UInt64) (len : Nat) : Except Fault Nat := do
  let (b, off) ← m.locate addr len
  let blk := m.blocks[b]!
  pure ((List.range len).foldr (fun i acc => (blk.get! (off + i)).toNat + 256 * acc) 0)

/-- Write the low `len` octets of a value. -/
def write (m : Memory) (addr : UInt64) (len : Nat) (v : Nat) : Except Fault Memory :=
  m.writeBytes addr (toLittle len v)

/-- The little-endian value of `n` octets of a block, `n` at most 8. -/
def readWord (blk : ByteArray) (off n : Nat) : UInt64 :=
  (List.range n).foldr (fun i acc => (acc <<< 8) ||| (blk.get! (off + i)).toUInt64) 0

/-- Write the low `n` octets of a word into a block. -/
def writeWord (blk : ByteArray) (off n : Nat) (v : UInt64) : ByteArray :=
  (List.range n).foldl (fun acc i => acc.set! (off + i) (v >>> (8 * i).toUInt64).toUInt8) blk

/-- Sign-extend the low `bits` bits of a word. -/
def signExtend (bits : Nat) (v : UInt64) : UInt64 :=
  let s := (64 - bits).toUInt64
  ((v <<< s).toInt64 >>> s.toInt64).toUInt64

/-- Read a value of at most 64 bits of a kind. -/
def load (m : Memory) (k : NumKind) (addr : UInt64) : Except Fault UInt64 := do
  let n := k.size
  let (b, off) ← m.locate addr n
  let v := readWord m.blocks[b]! off n
  pure (if k.signed && n < 8 then signExtend (8 * n) v else v)

/-- Write the low `n` octets of a word at an offset of block `b`, where they are known to
fit. -/
def storeAt (m : Memory) (b off n : Nat) (v : UInt64) : Memory :=
  { blocks := m.blocks.modify b fun blk => writeWord blk off n v }

/-- Write a value of at most 64 bits of a kind. -/
def store (m : Memory) (k : NumKind) (addr : UInt64) (v : UInt64) : Except Fault Memory :=
  match m.locate addr k.size with
  | .ok (b, off) => .ok (m.storeAt b off k.size v)
  | .error e => .error e

/-- Octets of block `b` from an offset, as a fresh array. -/
def extractAt (m : Memory) (b off n : Nat) : ByteArray :=
  (m.blocks[b]?.getD ByteArray.empty).extract off (off + n)

/-- Write an array of octets at an offset of block `b`, where it is known to fit. -/
def placeAt (m : Memory) (b off : Nat) (data : ByteArray) : Memory :=
  { blocks := m.blocks.modify b fun blk => data.copySlice 0 blk off data.size }

/-- Where a copy of `n` octets reads and writes: the source's block and offset, then the
destination's, the source being checked first. -/
def copyPlaces (m : Memory) (dst src : UInt64) (n : Nat) : Except Fault ((Nat × Nat) × (Nat × Nat)) :=
  match m.locate src n with
  | .ok s =>
    match m.locate dst n with
    | .ok d => .ok (s, d)
    | .error e => .error e
  | .error e => .error e

/-- Copy octets, which may overlap. -/
def copy (m : Memory) (dst src : UInt64) (n : Nat) : Except Fault Memory :=
  if n == 0 then .ok m
  else
    match m.copyPlaces dst src n with
    | .ok ((sb, soff), (db, doff)) => .ok (m.placeAt db doff (m.extractAt sb soff n))
    | .error e => .error e

/-- Read a zero-terminated string, without its terminator. -/
def cString (m : Memory) (addr : UInt64) : Except Fault (List UInt8) := do
  let (b, off) ← m.locate addr 0
  let blk := m.blocks[b]!
  let rec go : Nat → Nat → List UInt8 → Except Fault (List UInt8)
    | 0, _, _ => .error ⟨"unterminated string"⟩
    | fuel + 1, i, acc =>
      if i < blk.size then
        let o := blk.get! i
        if o = 0 then .ok acc.reverse else go fuel (i + 1) (o :: acc)
      else .error ⟨"unterminated string"⟩
  go (blk.size + 1) off []

/-- Read at most `n` octets of a string, stopping before its terminator, and the octets up
to the end of the block when it ends first. -/
def cStringUpTo (m : Memory) (addr : UInt64) (n : Nat) : Except Fault (List UInt8) := do
  let (b, off) ← m.locate addr 0
  let blk := m.blocks[b]!
  let avail := min n (blk.size - off)
  let os := (List.range avail).map fun i => blk.get! (off + i)
  let s := os.takeWhile (· != 0)
  if s.length < n && s.length == avail && avail < n then .error ⟨"access outside an object"⟩
  else pure s

/-- Set `len` octets of block `b` from an offset to one value, where they are known to
fit. -/
def fillAt (m : Memory) (b off : Nat) (v : UInt8) (len : Nat) : Memory :=
  { blocks := m.blocks.modify b fun blk =>
    (List.range len).foldl (fun acc i => acc.set! (off + i) v) blk }

/-- Fill octets with one value. -/
def fill (m : Memory) (addr : UInt64) (v : UInt8) (len : Nat) : Except Fault Memory :=
  if len == 0 then .ok m
  else
    match m.locate addr len with
    | .ok (b, off) => .ok (m.fillAt b off v len)
    | .error e => .error e

end Memory

end InlineC.Machine
