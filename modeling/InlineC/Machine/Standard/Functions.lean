import InlineC.Machine.Format
import InlineC.Machine.Standard.Strings
import InlineC.Machine.Standard.Numbers
import InlineC.Machine.Standard.Classes
import InlineC.Machine.Standard.Errors
import InlineC.Machine.Standard.Math

/-!
# The C library's functions by name

A call of a function of the C library that the machine provides, with its arguments as
words: integers and pointers as they are, a `double` or `float` as its bit pattern. The
result is a word likewise, or none when the library has no function of that name here.

Output to a stream is not kept: `printf` and its relatives give the count of octets they
would write. The library's state lives in the image: `errno`, the character tables, the
place of `strtok`, and the generator of `rand`.
-/

namespace InlineC.Machine.Standard

open InlineC.Lang ImgM

/-- Set `errno`. -/
def setErrno (n : Nat) : ImgM PUnit := do store32 (← get).cells.errno n.toUInt64

/-- A `double` result. -/
def doubleWord (bits : Nat) : UInt64 := bits.toUInt64

/-- A `float` result. -/
def floatWord (bits : Nat) : UInt64 := (bits % Nat.pow 2 32).toUInt64

/-- A `long` result. -/
def longWord (i : Int) : UInt64 := UInt64.ofInt i

/-- The result of rounding to a `long`: the integer, or the indefinite value when it does
not fit. -/
def longOrIndefinite (v : Option Int) : UInt64 :=
  match v with
  | some i => if -(Int.pow 2 63) ≤ i && i < Int.pow 2 63 then UInt64.ofInt i else Arith.indefinite
  | none => Arith.indefinite

/-- Write formatted output into a buffer of `size` octets, as `snprintf` does, and give
the length of the whole output. -/
def printInto (buf : UInt64) (size : Option Nat) (fmt : UInt64) (va : VaList) : ImgM UInt64 := do
  let f ← cString fmt
  let (out, _) ← liftMem (formatOctets (← get).mem f va)
  match size with
  | some 0 => pure ()
  | some n => writeBytes buf (out.take (n - 1) ++ [0])
  | none => writeBytes buf (out ++ [0])
  pure (intWord out.length)

/-- The length of formatted output. -/
def printLength (fmt : UInt64) (va : VaList) : ImgM UInt64 := do
  let f ← cString fmt
  let (out, _) ← liftMem (formatOctets (← get).mem f va)
  pure (intWord out.length)

/-- The extra arguments a `va_list` argument stands for. -/
def vaListAt (ap : UInt64) : ImgM VaList := do liftMem (VaList.ofTag (← get).mem ap)

/-- Allocate, setting `errno` when there is no room. -/
def allocate (n : Nat) : ImgM UInt64 := do
  let p ← alloc n
  if p == 0 then setErrno noMemory
  pure p

/-- `strtol` and its relatives: read an integer, store where it ended, set `errno` when it
was out of range. -/
def readInteger (s endp base : UInt64) (signed : Bool) (bits : Nat) : ImgM UInt64 := do
  if !validBase base.toNat then
    setErrno invalidArgument
    if endp != 0 then store64 endp s
    return 0
  let text ← cString s
  let r := if signed then readSigned text base.toNat bits else readUnsigned text base.toNat bits
  if endp != 0 then store64 endp (offset s r.taken)
  if r.outOfRange then setErrno rangeError
  pure r.value

/-- `strtod` and `strtof`: read a floating number into a format. -/
def readFloating (f : BinaryFormat) (nanBits : Nat) (s endp : UInt64) : ImgM Nat := do
  let text ← cString s
  let (bits, taken, outOfRange) := readFloat f nanBits text
  if endp != 0 then store64 endp (offset s taken)
  if outOfRange then setErrno rangeError
  pure bits

/-- The class word of a character argument, zero outside the table. -/
def classOf (c : UInt64) : Nat :=
  let i := Arith.toInt .i32 c
  if -128 ≤ i && i < 256 then classWord i else 0

/-- Character class tests by function name. -/
def classTests : List (String × CharClass) :=
  [("isalnum", .alnum), ("isalpha", .alpha), ("iscntrl", .cntrl), ("isdigit", .digit),
   ("islower", .lower), ("isgraph", .graph), ("isprint", .print), ("ispunct", .punct),
   ("isspace", .space), ("isupper", .upper), ("isxdigit", .xdigit), ("isblank", .blank)]

/-- The math functions of one argument computed by the machine's doubles. -/
def doubleFunctions : List (String × (Float → Float)) :=
  [("sqrt", Float.sqrt), ("cbrt", Float.cbrt), ("exp", Float.exp), ("exp2", Float.exp2),
   ("log", Float.log), ("log2", Float.log2), ("log10", Float.log10), ("sin", Float.sin),
   ("cos", Float.cos), ("tan", Float.tan), ("asin", Float.asin), ("acos", Float.acos),
   ("atan", Float.atan), ("sinh", Float.sinh), ("cosh", Float.cosh), ("tanh", Float.tanh),
   ("asinh", Float.asinh), ("acosh", Float.acosh), ("atanh", Float.atanh)]

/-- The math functions of one argument computed by the machine's singles. -/
def singleFunctions : List (String × (Float32 → Float32)) :=
  [("sqrtf", Float32.sqrt), ("cbrtf", Float32.cbrt), ("expf", Float32.exp),
   ("exp2f", Float32.exp2), ("logf", Float32.log), ("log2f", Float32.log2),
   ("log10f", Float32.log10), ("sinf", Float32.sin), ("cosf", Float32.cos),
   ("tanf", Float32.tan), ("asinf", Float32.asin), ("acosf", Float32.acos),
   ("atanf", Float32.atan), ("sinhf", Float32.sinh), ("coshf", Float32.cosh),
   ("tanhf", Float32.tanh), ("asinhf", Float32.asinh), ("acoshf", Float32.acosh),
   ("atanhf", Float32.atanh)]

/-- The rounding functions to an integral value, by the name of their `double` form. -/
def roundings : List (String × Rounding) :=
  [("floor", .down), ("ceil", .up), ("trunc", .towardZero), ("round", .halfAway),
   ("rint", .halfEven), ("nearbyint", .halfEven), ("roundeven", .halfEven)]

/-- The format a math function's name selects: single for an `f` suffix. -/
def formatOf (single : Bool) : BinaryFormat :=
  if single then BinaryFormat.binary32 else BinaryFormat.binary64

/-- A math function of the exact kind, by its `double` name and whether it is the single
form. -/
def exactMath (base : String) (single : Bool) (a : Nat → Nat) (p : Nat → UInt64) :
    ImgM (Option UInt64) := do
  let f := formatOf single
  let w := fun (bits : Nat) => if single then floatWord bits else doubleWord bits
  match roundings.lookup base with
  | some mode => return some (w (roundIntegral f mode (a 0)))
  | none => pure ()
  match base with
  | "fabs" => pure (some (w (a 0 % f.signBit)))
  | "copysign" => pure (some (w (a 0 % f.signBit + a 1 / f.signBit % 2 * f.signBit)))
  | "fmod" => pure (some (w (fmodBits f (a 0) (a 1))))
  | "remainder" | "drem" => pure (some (w (remainderBits f (a 0) (a 1))))
  | "hypot" => pure (some (w (hypotBits f (a 0) (a 1))))
  | "fmin" => pure (some (w (minMaxBits f false (a 0) (a 1))))
  | "fmax" => pure (some (w (minMaxBits f true (a 0) (a 1))))
  | "fdim" =>
    match orderBits f (a 0) (a 1) with
    | some .gt =>
      let d := if single then
          ((Float32.ofBits (a 0).toUInt32) - (Float32.ofBits (a 1).toUInt32)).toBits.toNat
        else ((Float.ofBits (a 0).toUInt64) - (Float.ofBits (a 1).toUInt64)).toBits.toNat
      pure (some (w d))
    | some _ => pure (some (w (f.zero false)))
    | none => pure (some (w (quietNaN f)))
  | "nextafter" => pure (some (w (nextAfterBits f (a 0) (a 1))))
  | "ldexp" | "scalbn" | "scalbln" =>
    let n := if base == "scalbln" then Arith.toInt .i64 (p 1) else Arith.toInt .i32 (p 1)
    pure (some (w (scaleBits f (a 0) n)))
  | "frexp" =>
    let (m, e) := frexpBits f (a 0)
    store32 (p 1) (intWord e)
    pure (some (w m))
  | "modf" =>
    let (frac, whole) := modfBits f (a 0)
    if single then store .f32 (p 1) (floatWord whole) else store64 (p 1) (doubleWord whole)
    pure (some (w frac))
  | "ilogb" => pure (some (intWord (ilogbOf f (a 0))))
  | "logb" => pure (some (w (logbBits f (a 0))))
  | "lround" | "llround" => pure (some (longOrIndefinite (roundToInt f .halfAway (a 0))))
  | "lrint" | "llrint" => pure (some (longOrIndefinite (roundToInt f .halfEven (a 0))))
  | "fma" =>
    let plain := if single then
        ((Float32.ofBits (a 0).toUInt32) * (Float32.ofBits (a 1).toUInt32) +
          (Float32.ofBits (a 2).toUInt32)).toBits.toNat
      else ((Float.ofBits (a 0).toUInt64) * (Float.ofBits (a 1).toUInt64) +
          (Float.ofBits (a 2).toUInt64)).toBits.toNat
    pure (some (w (fmaBits f (a 0) (a 1) (a 2) plain)))
  | _ => pure none

/-- The math functions: exact ones on patterns, the others on the machine's float types. -/
def callMath (name : String) (args : List UInt64) : ImgM (Option UInt64) := do
  let p := fun (i : Nat) => args.getD i 0
  match doubleFunctions.lookup name with
  | some g => return some (g (Float.ofBits (p 0))).toBits
  | none => pure ()
  match singleFunctions.lookup name with
  | some g => return some (g (Float32.ofBits (p 0).toUInt32)).toBits.toUInt64
  | none => pure ()
  match name with
  | "pow" => return some (Float.pow (Float.ofBits (p 0)) (Float.ofBits (p 1))).toBits
  | "powf" => return some (Float32.pow (Float32.ofBits (p 0).toUInt32)
      (Float32.ofBits (p 1).toUInt32)).toBits.toUInt64
  | "atan2" => return some (Float.atan2 (Float.ofBits (p 0)) (Float.ofBits (p 1))).toBits
  | "atan2f" => return some (Float32.atan2 (Float32.ofBits (p 0).toUInt32)
      (Float32.ofBits (p 1).toUInt32)).toBits.toUInt64
  | _ => pure ()
  let r ← exactMath name false (fun i => (p i).toNat) p
  if r.isSome then return r
  if name.endsWith "f" then
    exactMath (name.dropEnd 1).toString true (fun i => (p i).toNat % Nat.pow 2 32) p
  else pure none

/-- Call a function of the C library by name. -/
def callFunction (name : String) (args : List UInt64) (va : VaList) : ImgM (Option UInt64) := do
  let a := fun (i : Nat) => args.getD i 0
  let n := fun (i : Nat) => (a i).toNat
  match classTests.lookup name with
  | some k => return some (intWord (classOf (a 0) &&& k.mask))
  | none => pure ()
  match name with
  -- memory and strings
  | "memset" => pure (some (← memset (a 0) (a 1) (n 2)))
  | "memcpy" | "memmove" => pure (some (← memcpy (a 0) (a 1) (n 2) false))
  | "mempcpy" => pure (some (← memcpy (a 0) (a 1) (n 2) true))
  | "bzero" | "explicit_bzero" => do fill (a 0) 0 (n 1); pure (some 0)
  | "memcmp" | "bcmp" => pure (some (← memcmp (a 0) (a 1) (n 2)))
  | "memchr" => pure (some (← memchr (a 0) (a 1) (n 2)))
  | "memrchr" => pure (some (← memrchr (a 0) (a 1) (n 2)))
  | "memmem" => pure (some (← memmem (a 0) (n 1) (a 2) (n 3)))
  | "memccpy" => pure (some (← memccpy (a 0) (a 1) (a 2) (n 3)))
  | "strlen" => pure (some (← cString (a 0)).length.toUInt64)
  | "strnlen" => pure (some (← cStringUpTo (a 0) (n 1)).length.toUInt64)
  | "strcmp" | "strcoll" => pure (some (← strcmp (a 0) (a 1)))
  | "strncmp" => pure (some (← strncmp (a 0) (a 1) (n 2)))
  | "strcasecmp" => pure (some (← strcasecmp (a 0) (a 1) none))
  | "strncasecmp" => pure (some (← strcasecmp (a 0) (a 1) (some (n 2))))
  | "strchr" | "index" => pure (some (← strchr (a 0) (a 1) false))
  | "strchrnul" => pure (some (← strchr (a 0) (a 1) true))
  | "strrchr" | "rindex" => pure (some (← strrchr (a 0) (a 1)))
  | "strstr" => pure (some (← strstr (a 0) (a 1) false))
  | "strcasestr" => pure (some (← strstr (a 0) (a 1) true))
  | "strspn" => pure (some (← strspn (a 0) (a 1) false))
  | "strcspn" => pure (some (← strspn (a 0) (a 1) true))
  | "strpbrk" => pure (some (← strpbrk (a 0) (a 1)))
  | "strcpy" => pure (some (← strcpy (a 0) (a 1) false))
  | "stpcpy" => pure (some (← strcpy (a 0) (a 1) true))
  | "strncpy" => pure (some (← strncpy (a 0) (a 1) (n 2) false))
  | "stpncpy" => pure (some (← strncpy (a 0) (a 1) (n 2) true))
  | "strcat" => pure (some (← strcat (a 0) (a 1) none))
  | "strncat" => pure (some (← strcat (a 0) (a 1) (some (n 2))))
  | "strdup" => pure (some (← strdup (a 0) none))
  | "strndup" => pure (some (← strdup (a 0) (some (n 1))))
  | "strtok" => pure (some (← strtok (a 0) (a 1)))
  | "strtok_r" => pure (some (← strtokR (a 0) (a 1) (a 2)))
  | "strsep" => pure (some (← strsep (a 0) (a 1)))
  | "strerror" => pure (some (← newCString (errorMessage (Arith.toInt .i32 (a 0))).toUTF8.toList))
  -- numbers
  | "strtol" | "strtoll" | "strtoq" | "strtoimax" => pure (some (← readInteger (a 0) (a 1) (a 2) true 64))
  | "strtoul" | "strtoull" | "strtouq" | "strtoumax" =>
    pure (some (← readInteger (a 0) (a 1) (a 2) false 64))
  | "atoi" => pure (some (Arith.norm .i32 (readSigned (← cString (a 0)) 10 64).value))
  | "atol" | "atoll" => pure (some (readSigned (← cString (a 0)) 10 64).value)
  | "strtod" =>
    pure (some (doubleWord (← readFloating BinaryFormat.binary64 0x7FF8000000000000 (a 0) (a 1))))
  | "atof" =>
    pure (some (doubleWord (← readFloating BinaryFormat.binary64 0x7FF8000000000000 (a 0) 0)))
  | "strtof" => pure (some (floatWord (← readFloating BinaryFormat.binary32 0x7FC00000 (a 0) (a 1))))
  | "abs" => pure (some (intWord (Arith.toInt .i32 (a 0)).natAbs))
  | "labs" | "llabs" | "imaxabs" => pure (some (UInt64.ofNat (Arith.toInt .i64 (a 0)).natAbs))
  -- characters
  | "toupper" => pure (some (intWord (toUpperCode (Arith.toInt .i32 (a 0)))))
  | "tolower" => pure (some (intWord (toLowerCode (Arith.toInt .i32 (a 0)))))
  | "isascii" => pure (some (if (a 0) &&& 0xFFFFFF80 == 0 then 1 else 0))
  | "toascii" => pure (some ((a 0) &&& 0x7F))
  | "__ctype_b_loc" => pure (some (← get).cells.classes)
  | "__ctype_tolower_loc" => pure (some (← get).cells.lower)
  | "__ctype_toupper_loc" => pure (some (← get).cells.upper)
  | "__errno_location" => pure (some (← get).cells.errno)
  -- memory
  | "malloc" => pure (some (← allocate (n 0)))
  | "calloc" => pure (some (← allocate (n 0 * n 1)))
  | "realloc" | "reallocarray" =>
    let size := if name == "reallocarray" then n 1 * n 2 else n 1
    if a 0 != 0 && size == 0 && name == "realloc" then return some 0
    let q ← allocate size
    if q != 0 && a 0 != 0 then
      let old := ((← get).mem.blockSize (a 0)).getD 0
      copy q (a 0) (min old size)
    pure (some q)
  | "aligned_alloc" | "memalign" => pure (some (← allocate (n 1)))
  | "posix_memalign" =>
    let q ← alloc (n 2)
    if q == 0 then return some (intWord noMemory)
    store64 (a 0) q
    pure (some 0)
  | "free" => pure (some 0)
  -- random numbers
  | "rand" | "random" =>
    let (v, g) := (← get).random.next
    modify fun img => { img with random := g }
    pure (some v.toUInt64)
  | "srand" | "srandom" =>
    modify fun img => { img with random := Random.seeded (a 0).toUInt32 }
    pure (some 0)
  -- formatted output
  | "sprintf" => pure (some (← printInto (a 0) none (a 1) va))
  | "snprintf" => pure (some (← printInto (a 0) (some (n 1)) (a 2) va))
  | "vsprintf" => pure (some (← printInto (a 0) none (a 1) (← vaListAt (a 2))))
  | "vsnprintf" => pure (some (← printInto (a 0) (some (n 1)) (a 2) (← vaListAt (a 3))))
  | "printf" => pure (some (← printLength (a 0) va))
  | "vprintf" => pure (some (← printLength (a 0) (← vaListAt (a 1))))
  | "fprintf" | "dprintf" => pure (some (← printLength (a 1) va))
  | "vfprintf" | "vdprintf" => pure (some (← printLength (a 1) (← vaListAt (a 2))))
  | "asprintf" | "vasprintf" =>
    let va ← if name == "vasprintf" then vaListAt (a 2) else pure va
    let f ← cString (a 1)
    let (out, _) ← liftMem (formatOctets (← get).mem f va)
    store64 (a 0) (← newCString out)
    pure (some (intWord out.length))
  | "puts" => pure (some (intWord ((← cString (a 0)).length + 1)))
  | "fputs" => do let _ ← cString (a 0); pure (some 1)
  | "putchar" | "putc" | "fputc" | "putchar_unlocked" => pure (some ((a 0) &&& 0xFF))
  | "fwrite" => pure (some (a 2))
  | "fflush" | "setvbuf" => pure (some 0)
  | "perror" => pure (some 0)
  | "getenv" | "secure_getenv" => pure (some 0)
  | _ => callMath name args

end InlineC.Machine.Standard
