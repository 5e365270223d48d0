import InlineC.Machine.Image
import InlineC.Lang.Arith

/-!
# Strings and memory

The string and memory functions of the C library, on an image's memory. Their work is done
on octet lists: a string is the octets before its terminator, a search gives an index, and
the function then turns the index back into an address.

The comparisons give the difference of the first octets that differ, as unsigned
values, as the target's C library does, not only its sign. A search that finds nothing gives
the null pointer. Reading never goes past the terminator of a string or the count given,
so a function faults only where the C library could fault too.
-/

namespace InlineC.Machine.Standard

open InlineC.Lang ImgM

/-- The difference of the first octets that differ, zero when none does. -/
def difference : List UInt8 → List UInt8 → Int
  | a :: as, b :: bs => if a == b then difference as bs else (a.toNat : Int) - b.toNat
  | _, _ => 0

/-- A C `int` result. -/
def intWord (i : Int) : UInt64 := Arith.ofInt .i32 i

/-- The lower-case letter of an octet in the C locale. -/
def lowerOctet (c : UInt8) : UInt8 := if 65 ≤ c && c ≤ 90 then c + 32 else c

/-- The first index at which `needle` starts in `hay`. -/
def findSub (hay needle : List UInt8) : Option Nat :=
  (List.range (hay.length + 1)).find? fun i =>
    i + needle.length ≤ hay.length && (hay.drop i).take needle.length == needle

/-- An address moved by an index. -/
def offset (p : UInt64) (i : Nat) : UInt64 := p + i.toUInt64

/-- An address, or null when nothing was found. -/
def found (p : UInt64) : Option Nat → UInt64
  | some i => offset p i
  | none => 0

/-- Octets from an address, at most `n` and none past the end of its block. -/
def readUpTo (addr : UInt64) (n : Nat) : ImgM (List UInt8) := do
  let img ← get
  match img.mem.locate addr 0 with
  | .ok (b, off) => readBytes addr (min n ((img.mem.blocks[b]?.map (·.size)).getD 0 - off))
  | .error e => throw e

/-- The string at an address, with its terminator. -/
def terminated (addr : UInt64) : ImgM (List UInt8) := do pure ((← cString addr) ++ [0])

/-- `strcmp`. -/
def strcmp (a b : UInt64) : ImgM UInt64 := do
  pure (intWord (difference (← terminated a) (← terminated b)))

/-- `strncmp`. -/
def strncmp (a b : UInt64) (n : Nat) : ImgM UInt64 := do
  if n == 0 then return 0
  let sa := ((← cStringUpTo a n) ++ [0]).take n
  let sb := ((← cStringUpTo b n) ++ [0]).take n
  pure (intWord (difference sa sb))

/-- `strcasecmp`, and `strncasecmp` with a count. -/
def strcasecmp (a b : UInt64) (n : Option Nat) : ImgM UInt64 := do
  match n with
  | some 0 => pure 0
  | some k =>
    let sa := ((← cStringUpTo a k) ++ [0]).take k
    let sb := ((← cStringUpTo b k) ++ [0]).take k
    pure (intWord (difference (sa.map lowerOctet) (sb.map lowerOctet)))
  | none =>
    pure (intWord (difference ((← terminated a).map lowerOctet) ((← terminated b).map lowerOctet)))

/-- `memcmp`. -/
def memcmp (a b : UInt64) (n : Nat) : ImgM UInt64 := do
  if n == 0 then return 0
  pure (intWord (difference (← readBytes a n) (← readBytes b n)))

/-- `strchr`, or `strchrnul` when the end is given for a miss. -/
def strchr (s c : UInt64) (endOnMiss : Bool) : ImgM UInt64 := do
  let str ← cString s
  let o := UInt8.ofNat c.toNat
  if o == 0 then return offset s str.length
  match str.findIdx? (· == o) with
  | some i => pure (offset s i)
  | none => pure (if endOnMiss then offset s str.length else 0)

/-- `strrchr`. -/
def strrchr (s c : UInt64) : ImgM UInt64 := do
  let str ← cString s
  let o := UInt8.ofNat c.toNat
  if o == 0 then return offset s str.length
  let hits := (List.range str.length).filter fun i => str[i]? == some o
  pure (found s hits.getLast?)

/-- `memchr`. -/
def memchr (s c : UInt64) (n : Nat) : ImgM UInt64 := do
  let os ← readUpTo s n
  pure (found s (os.findIdx? (· == UInt8.ofNat c.toNat)))

/-- `memrchr`. -/
def memrchr (s c : UInt64) (n : Nat) : ImgM UInt64 := do
  let os ← readBytes s n
  let hits := (List.range n).filter fun i => os[i]? == some (UInt8.ofNat c.toNat)
  pure (found s hits.getLast?)

/-- `strstr`, and `strcasestr` when case is ignored. -/
def strstr (h n : UInt64) (ignoreCase : Bool) : ImgM UInt64 := do
  let hay ← cString h
  let needle ← cString n
  let fold := fun (os : List UInt8) => if ignoreCase then os.map lowerOctet else os
  pure (found h (findSub (fold hay) (fold needle)))

/-- `memmem`. -/
def memmem (h : UInt64) (hl : Nat) (n : UInt64) (nl : Nat) : ImgM UInt64 := do
  if nl == 0 then return h
  let hay ← readBytes h hl
  let needle ← readBytes n nl
  pure (found h (findSub hay needle))

/-- `strspn`, or `strcspn` when the set is of octets to stop at. -/
def strspn (s set : UInt64) (complement : Bool) : ImgM UInt64 := do
  let str ← cString s
  let cs ← cString set
  pure (str.takeWhile (fun o => cs.contains o != complement)).length.toUInt64

/-- `strpbrk`. -/
def strpbrk (s set : UInt64) : ImgM UInt64 := do
  let str ← cString s
  let cs ← cString set
  pure (found s (str.findIdx? cs.contains))

/-- `strcpy`, or `stpcpy` when the end is returned. -/
def strcpy (d s : UInt64) (giveEnd : Bool) : ImgM UInt64 := do
  let str ← cString s
  writeBytes d (str ++ [0])
  pure (if giveEnd then offset d str.length else d)

/-- `strncpy`, or `stpncpy` when the end is returned. -/
def strncpy (d s : UInt64) (n : Nat) (giveEnd : Bool) : ImgM UInt64 := do
  let str ← cStringUpTo s n
  if n > 0 then writeBytes d (str ++ List.replicate (n - str.length) 0)
  pure (if giveEnd then offset d str.length else d)

/-- `strcat`, and `strncat` with a count. -/
def strcat (d s : UInt64) (n : Option Nat) : ImgM UInt64 := do
  let dl := (← cString d).length
  let str ← match n with
    | some k => cStringUpTo s k
    | none => cString s
  writeBytes (offset d dl) (str ++ [0])
  pure d

/-- `strdup`, and `strndup` with a count. -/
def strdup (s : UInt64) (n : Option Nat) : ImgM UInt64 := do
  let str ← match n with
    | some k => cStringUpTo s k
    | none => cString s
  newCString str

/-- `memset`. -/
def memset (d c : UInt64) (n : Nat) : ImgM UInt64 := do
  fill d (UInt8.ofNat c.toNat) n
  pure d

/-- `memcpy` and `memmove`, or `mempcpy` when the end is returned. -/
def memcpy (d s : UInt64) (n : Nat) (giveEnd : Bool) : ImgM UInt64 := do
  copy d s n
  pure (if giveEnd then offset d n else d)

/-- `memccpy`: copy up to and including the first `c`, the address after it in the
destination, or null when `c` is not among the `n` octets. -/
def memccpy (d s c : UInt64) (n : Nat) : ImgM UInt64 := do
  let os ← readUpTo s n
  match os.findIdx? (· == UInt8.ofNat c.toNat) with
  | some i =>
    writeBytes d (os.take (i + 1))
    pure (offset d (i + 1))
  | none =>
    writeBytes d (← readBytes s n)
    pure 0

/-- The next token of a string: skip the separators at `s`, end the token at the next
separator by writing a terminator over it, and give the token's address (null when none
is left) and where the next search starts. -/
def token (s delims : UInt64) : ImgM (UInt64 × UInt64) := do
  let str ← cString s
  let ds ← cString delims
  let lead := (str.takeWhile ds.contains).length
  if lead == str.length then return (0, offset s str.length)
  let rest := str.drop lead
  let len := (rest.takeWhile (fun o => !ds.contains o)).length
  let start := offset s lead
  if lead + len == str.length then pure (start, offset s str.length)
  else
    writeBytes (offset start len) [0]
    pure (start, offset start (len + 1))

/-- `strtok`, which keeps its place in the image. -/
def strtok (s delims : UInt64) : ImgM UInt64 := do
  let cell := (← get).cells.tokens
  let from_ ← if s == 0 then load64 cell else pure s
  if from_ == 0 then return 0
  let (tok, next) ← token from_ delims
  store64 cell next
  pure tok

/-- `strtok_r`, which keeps its place where its third argument points. -/
def strtokR (s delims save : UInt64) : ImgM UInt64 := do
  let from_ ← if s == 0 then load64 save else pure s
  if from_ == 0 then return 0
  let (tok, next) ← token from_ delims
  store64 save next
  pure tok

/-- `strsep`: the token at `*sp`, whose end is overwritten by a terminator; `*sp` moves
past it, or becomes null after the last token. -/
def strsep (sp delims : UInt64) : ImgM UInt64 := do
  let s ← load64 sp
  if s == 0 then return 0
  let str ← cString s
  let ds ← cString delims
  match str.findIdx? ds.contains with
  | some i =>
    writeBytes (offset s i) [0]
    store64 sp (offset s (i + 1))
  | none => store64 sp 0
  pure s

end InlineC.Machine.Standard
