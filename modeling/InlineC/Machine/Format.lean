import InlineC.Num.Binary
import InlineC.Machine.Arguments

/-!
# Formatted output

What `vsnprintf` writes for a format and its extra arguments, as the C library of the
target does it in the C locale.

A format is read into pieces first: literal octets, and directives. A directive is `%`,
an optional argument position `n$`, flags among `- + space # 0 ' I` (the last two change
nothing in the C locale), a width and a precision (each a number, `*`, or `*m$`), a length
modifier among `hh h l ll L q j z Z t`, and a conversion. The conversions are
`d i u o x X b B c s p f F e E g G a A n %`; a directive with any other conversion is
written out as it stands.

Arguments are taken in order, width and precision before the value, unless the first
directive names a position: then every directive does, the arguments are read in the order
of their positions, each as the kind of value its directives take, and the directives use
them by position.

Floating conversions are exact: the decimal digits are those of the double's exact value,
rounded to nearest with ties to even; the hexadecimal ones round the same way.
-/

namespace InlineC.Machine

namespace Format

/-- A conversion specification. -/
structure Spec where
  left : Bool := false
  plus : Bool := false
  space : Bool := false
  alt : Bool := false
  zero : Bool := false
  width : Nat := 0
  precision : Option Nat := none
  /-- Length modifier: 0 none, 1 `hh`, 2 `h`, 3 `l`/`ll`/`z`/`j`/`t`/`q`, 4 `L`. -/
  length : Nat := 0
  deriving Inhabited

/-- ASCII octets of a string. -/
def ascii (s : String) : List UInt8 := s.toUTF8.toList

/-- Decimal digits of a natural number. -/
def decimal (n : Nat) : List UInt8 := ascii (toString n)

/-- Digits of a natural number in a base, lower or upper case. -/
def digitsIn (base : Nat) (upper : Bool) (n : Nat) : List UInt8 :=
  let digit := fun (d : Nat) => if d < 10 then UInt8.ofNat (48 + d)
    else UInt8.ofNat ((if upper then 55 else 87) + d)
  (Nat.toDigits base n).map fun c =>
    let d := if c.toNat ≥ 97 then c.toNat - 87 else c.toNat - 48
    digit d

/-- Pad to the width: on the right when left-justified, else with the fill on the left,
zeros going after the sign and prefix. -/
def pad (s : Spec) (zeroFill : Bool) (pre body : List UInt8) : List UInt8 :=
  let len := pre.length + body.length
  if len ≥ s.width then pre ++ body
  else if s.left then pre ++ body ++ List.replicate (s.width - len) 32
  else if zeroFill then pre ++ List.replicate (s.width - len) 48 ++ body
  else List.replicate (s.width - len) 32 ++ pre ++ body

/-- Narrow an integer argument to its length, signed or not. -/
def narrow (len : Nat) (signed : Bool) (v : UInt64) : Int :=
  let bits := match len with
    | 1 => 8 | 2 => 16 | 3 => 64 | 4 => 64 | _ => 32
  let m := Nat.pow 2 bits
  let u := v.toNat % m
  if signed && u ≥ m / 2 then (u : Int) - m else u

/-- An integer conversion. -/
def integer (s : Spec) (conv : Char) (v : UInt64) : List UInt8 :=
  let signed := conv == 'd' || conv == 'i'
  let i := narrow s.length signed v
  let mag := i.natAbs
  let base := if conv == 'o' then 8 else if conv == 'x' || conv == 'X' then 16
    else if conv == 'b' || conv == 'B' then 2 else 10
  let raw := digitsIn base (conv == 'X') mag
  let body := match s.precision with
    | some 0 => if mag == 0 then [] else raw
    | some p => List.replicate (p - raw.length) 48 ++ raw
    | none => raw
  let body := if conv == 'o' && s.alt && body.head? != some 48 then 48 :: body else body
  let pre : List UInt8 :=
    if signed then (if i < 0 then [45] else if s.plus then [43] else if s.space then [32] else [])
    else if s.alt && mag != 0 && conv == 'x' then ascii "0x"
    else if s.alt && mag != 0 && conv == 'X' then ascii "0X"
    else if s.alt && mag != 0 && conv == 'b' then ascii "0b"
    else if s.alt && mag != 0 && conv == 'B' then ascii "0B"
    else []
  pad s (s.zero && s.precision.isNone && !s.left) pre body

/-- The exact value of a finite double as `mant * 2^exp` with its sign. -/
def exactParts (bits : UInt64) : Bool × Nat × Int :=
  let neg := bits >>> 63 == 1
  let e := ((bits >>> 52) &&& 0x7FF).toNat
  let f := (bits &&& 0xFFFFFFFFFFFFF).toNat
  if e == 0 then (neg, f, -1074) else (neg, f + Nat.pow 2 52, (e : Int) - 1075)

/-- `mant * 2^exp * 10^shift` rounded to an integer, ties to even. -/
def scaledRound (mant : Nat) (exp : Int) (shift : Int) : Nat :=
  let num0 := mant * (if exp ≥ 0 then Nat.pow 2 exp.toNat else 1) * (if shift ≥ 0 then Nat.pow 10 shift.toNat else 1)
  let den := (if exp < 0 then Nat.pow 2 (-exp).toNat else 1) * (if shift < 0 then Nat.pow 10 (-shift).toNat else 1)
  let q := num0 / den
  let r := num0 % den
  if 2 * r > den then q + 1
  else if 2 * r < den then q
  else if q % 2 == 1 then q + 1 else q

/-- Digits of `n` padded with zeros on the left to at least `len`. -/
def zeroPadded (len : Nat) (n : Nat) : List UInt8 :=
  let d := decimal n
  List.replicate (len - d.length) 48 ++ d

/-- Fixed notation of a magnitude with `p` decimals. -/
def fixedDigits (mant : Nat) (exp : Int) (p : Nat) (alt : Bool) : List UInt8 :=
  let n := scaledRound mant exp p
  let ip := n / Nat.pow 10 p
  let fp := n % Nat.pow 10 p
  decimal ip ++ (if p > 0 || alt then [46] else []) ++ (if p > 0 then zeroPadded p fp else [])

/-- The decimal exponent of a nonzero magnitude: the `d` with `10^d ≤ x < 10^(d+1)`. -/
def decimalExponent (mant : Nat) (exp : Int) : Int :=
  -- compare mant * 2^exp against powers of ten, starting from an estimate
  let est : Int := ((Nat.log2 mant : Int) + exp) * 30103 / 100000
  let ge := fun (d : Int) =>
    -- mant * 2^exp ≥ 10^d
    let lhs := mant * (if exp ≥ 0 then Nat.pow 2 exp.toNat else 1) * (if d < 0 then Nat.pow 10 (-d).toNat else 1)
    let rhs := (if d ≥ 0 then Nat.pow 10 d.toNat else 1) * (if exp < 0 then Nat.pow 2 (-exp).toNat else 1)
    lhs ≥ rhs
  let rec down : Nat → Int → Int
    | 0, d => d
    | k + 1, d => if ge d then d else down k (d - 1)
  let rec up : Nat → Int → Int
    | 0, d => d
    | k + 1, d => if ge (d + 1) then up k (d + 1) else d
  up 4 (down 4 (est + 2))

/-- Scientific notation of a magnitude with `p` decimals: the digits and the exponent. -/
def scientificParts (mant : Nat) (exp : Int) (p : Nat) : Nat × Int :=
  if mant == 0 then (0, 0)
  else
    let d := decimalExponent mant exp
    let n := scaledRound mant exp ((p : Int) - d)
    if n ≥ Nat.pow 10 (p + 1) then (n / 10, d + 1) else (n, d)

/-- The exponent suffix: `e`, a sign, and at least two digits. -/
def exponentSuffix (upper : Bool) (d : Int) : List UInt8 :=
  [if upper then 69 else 101, if d < 0 then 45 else 43] ++ zeroPadded 2 d.natAbs

/-- Scientific notation of a magnitude with `p` decimals. -/
def scientificDigits (mant : Nat) (exp : Int) (p : Nat) (alt upper : Bool) : List UInt8 :=
  let (n, d) := scientificParts mant exp p
  let ds := zeroPadded (p + 1) n
  (ds.take 1) ++ (if p > 0 || alt then [46] else []) ++ ds.drop 1 ++ exponentSuffix upper d

/-- Drop trailing zeros after a decimal point, and the point when nothing follows it. -/
def trimFraction (ds : List UInt8) : List UInt8 :=
  if ds.contains 46 then
    let r := (ds.reverse.dropWhile (· == 48))
    (if r.head? == some 46 then r.drop 1 else r).reverse
  else ds

/-- General notation of a magnitude with `p` significant digits. -/
def generalDigits (mant : Nat) (exp : Int) (p : Nat) (alt upper : Bool) : List UInt8 :=
  let p := if p == 0 then 1 else p
  let (_, x) := scientificParts mant exp (p - 1)
  if (p : Int) > x ∧ x ≥ -4 then
    let ds := fixedDigits mant exp (p - 1 - x).toNat alt
    if alt then ds else trimFraction ds
  else
    let (n, d) := scientificParts mant exp (p - 1)
    let ds := zeroPadded p n
    let body := (ds.take 1) ++ (if p > 1 || alt then [46] else []) ++ ds.drop 1
    let body := if alt then body else trimFraction body
    body ++ exponentSuffix upper d

/-- A floating conversion. -/
def floating (s : Spec) (conv : Char) (bits : UInt64) : List UInt8 :=
  let upper := conv == 'F' || conv == 'E' || conv == 'G'
  let (neg, mant, exp) := exactParts bits
  let pre : List UInt8 := if neg then [45] else if s.plus then [43] else if s.space then [32] else []
  let expField := (bits >>> 52) &&& 0x7FF
  if expField == 0x7FF then
    let word := if bits &&& 0xFFFFFFFFFFFFF == 0 then "inf" else "nan"
    let word := if upper then word.toUpper else word
    pad s false pre (ascii word)
  else
    let p := s.precision.getD 6
    let body :=
      if conv == 'f' || conv == 'F' then fixedDigits mant exp p s.alt
      else if conv == 'e' || conv == 'E' then scientificDigits mant exp p s.alt upper
      else generalDigits mant exp p s.alt upper
    pad s (s.zero && !s.left) pre body

/-- A hexadecimal floating conversion of a double: the leading digit, the fraction's
hexadecimal digits rounded to the precision (ties to even), and a binary exponent. Without a
precision, the fraction's trailing zero digits are left out. -/
def hexFloating (s : Spec) (upper : Bool) (bits : UInt64) : List UInt8 :=
  let neg := bits >>> 63 == 1
  let e := ((bits >>> 52) &&& 0x7FF).toNat
  let f := (bits &&& 0xFFFFFFFFFFFFF).toNat
  let sign : List UInt8 := if neg then [45] else if s.plus then [43] else if s.space then [32] else []
  if e == 0x7FF then
    let word := if f == 0 then "inf" else "nan"
    pad s false sign (ascii (if upper then word.toUpper else word))
  else
    let lead0 := if e == 0 then 0 else 1
    let exp : Int := if e == 0 then (if f == 0 then 0 else -1022) else (e : Int) - 1023
    let sig := (List.range 13).foldl
      (fun n i => if n == 0 && f / Nat.pow 16 i % 16 != 0 then 13 - i else n) 0
    let p := s.precision.getD sig
    let (lead, frac) :=
      if p ≥ 13 then (lead0, f * Nat.pow 16 (p - 13))
      else
        let drop := 4 * (13 - p)
        let q := f / Nat.pow 2 drop
        let r := f % Nat.pow 2 drop
        let half := Nat.pow 2 (drop - 1)
        let lastOdd := if p == 0 then lead0 % 2 == 1 else q % 2 == 1
        let q := if r > half || (r == half && lastOdd) then q + 1 else q
        if q ≥ Nat.pow 16 p then (lead0 + 1, q - Nat.pow 16 p) else (lead0, q)
    let ds := digitsIn 16 upper frac
    let digits := if p == 0 then [] else List.replicate (p - ds.length) 48 ++ ds
    let body := digitsIn 16 upper lead ++ (if p > 0 || s.alt then [46] else []) ++ digits ++
      [if upper then 80 else 112, if exp < 0 then 45 else 43] ++ decimal exp.natAbs
    pad s (s.zero && !s.left) (sign ++ ascii (if upper then "0X" else "0x")) body

/-- Parse a run of decimal digits from the left. -/
def readNumber : List UInt8 → Nat → Nat × List UInt8
  | [], acc => (acc, [])
  | c :: rest, acc =>
    if 48 ≤ c ∧ c ≤ 57 then readNumber rest (acc * 10 + (c.toNat - 48)) else (acc, c :: rest)

/-- An argument position `n$` at the front, when there is one. -/
def readPosition (cs : List UInt8) : Option Nat × List UInt8 :=
  match cs with
  | c :: _ =>
    if 49 ≤ c && c ≤ 57 then
      match readNumber cs 0 with
      | (n, 36 :: r) => (some n, r)
      | _ => (none, cs)
    else (none, cs)
  | [] => (none, cs)

/-- Parse flags; `'` and `I` change nothing in the C locale. -/
def readFlags : List UInt8 → Spec → Spec × List UInt8
  | [], s => (s, [])
  | c :: rest, s =>
    if c == 45 then readFlags rest { s with left := true }
    else if c == 43 then readFlags rest { s with plus := true }
    else if c == 32 then readFlags rest { s with space := true }
    else if c == 35 then readFlags rest { s with alt := true }
    else if c == 48 then readFlags rest { s with zero := true }
    else if c == 39 || c == 73 then readFlags rest s
    else (s, c :: rest)

/-- Where a width or precision comes from. -/
inductive Amount where
  | given (n : Nat)
  /-- The next argument. -/
  | next
  /-- The argument at a position. -/
  | arg (pos : Nat)
  deriving Inhabited

/-- Parse a `*`, a `*m$` or a number, which may be empty. -/
def readAmount (cs : List UInt8) : Amount × List UInt8 :=
  match cs with
  | 42 :: rest =>
    match readPosition rest with
    | (some n, r) => (.arg n, r)
    | (none, _) => (.next, rest)
  | _ => let (n, r) := readNumber cs 0; (.given n, r)

/-- Parse a length modifier. -/
def readLength : List UInt8 → Nat × List UInt8
  | 104 :: 104 :: rest => (1, rest)
  | 104 :: rest => (2, rest)
  | 108 :: 108 :: rest => (3, rest)
  | 108 :: rest => (3, rest)
  | 122 :: rest | 106 :: rest | 116 :: rest | 113 :: rest | 90 :: rest => (3, rest)
  | 76 :: rest => (4, rest)
  | rest => (0, rest)

/-- A directive: the position of its value when it names one, its flags and length, its
width and precision, its conversion, and the text it was read from. -/
structure Directive where
  pos : Option Nat
  spec : Spec
  width : Amount
  precision : Option Amount
  conv : UInt8
  text : List UInt8
  deriving Inhabited

/-- A piece of a format: a literal octet or a directive. -/
inductive Piece where
  | lit (o : UInt8)
  | dir (d : Directive)
  deriving Inhabited

/-- Read a directive from the octets after its `%`: none when the format ends first. -/
def readDirective (cs : List UInt8) : Option (Directive × List UInt8) :=
  let (pos, r) := readPosition cs
  let (spec, r) := readFlags r {}
  let (width, r) := readAmount r
  let (precision, r) := match r with
    | 46 :: r' => let (a, r'') := readAmount r'; (some a, r'')
    | _ => (none, r)
  let (len, r) := readLength r
  match r with
  | [] => none
  | conv :: rest =>
    some ({ pos, spec := { spec with length := len }, width, precision, conv,
            text := 37 :: cs.take (cs.length - rest.length) }, rest)

/-- The pieces of a format. An unfinished directive at the end stands as text. -/
def pieces : Nat → List UInt8 → List Piece
  | 0, _ => []
  | _, [] => []
  | fuel + 1, c :: rest =>
    if c != 37 then .lit c :: pieces fuel rest
    else
      match readDirective rest with
      | some (d, r) => .dir d :: pieces fuel r
      | none => (37 :: rest).map .lit

/-- What a conversion takes. -/
inductive ArgKind where
  | nothing | int | double
  deriving DecidableEq, Inhabited

/-- The kind of value a conversion takes; `nothing` for `%` and for what is no conversion. -/
def argKind (conv : UInt8) : ArgKind :=
  let ch := Char.ofNat conv.toNat
  if "diuoxXbBcspn".contains ch then .int
  else if "fFeEgGaA".contains ch then .double
  else .nothing

/-- Whether a directive is written out as it stands, its conversion being none. -/
def Directive.literal (d : Directive) : Bool := argKind d.conv == .nothing && d.conv != 37

/-- The octets of a directive, with its width, precision and value resolved; a negative
width means left justification, a negative precision none. -/
def render (mem : Memory) (d : Directive) (width : Int) (precision : Option Int) (v : UInt64) :
    Except Fault (List UInt8) := do
  let s := if width < 0 then { d.spec with left := true, width := width.natAbs }
    else { d.spec with width := width.toNat }
  let s := { s with precision := match precision with
    | some p => if p < 0 then none else some p.toNat
    | none => none }
  let ch := Char.ofNat d.conv.toNat
  if ch == '%' then pure [37]
  else if "diuoxXbB".contains ch then pure (integer s ch v)
  else if ch == 'c' then pure (pad s false [] [UInt8.ofNat (v.toNat % 256)])
  else if ch == 's' then
    if v == 0 then
      let text := match s.precision with
        | some q => if q < 6 then [] else ascii "(null)"
        | none => ascii "(null)"
      pure (pad s false [] text)
    else
      let str ← mem.cString v
      pure (pad s false [] (match s.precision with
        | some q => str.take q
        | none => str))
  else if ch == 'p' then
    if v == 0 then pure (pad s false [] (ascii "(nil)"))
    else pure (pad s (s.zero && !s.left) (ascii "0x") (digitsIn 16 false v.toNat))
  else if "fFeEgG".contains ch then pure (floating s ch v)
  else if ch == 'a' || ch == 'A' then pure (hexFloating s (ch == 'A') v)
  else pure []

/-- Format pieces taking the arguments in order. -/
def inOrder (mem : Memory) : List Piece → VaList → List UInt8 → Except Fault (List UInt8 × VaList)
  | [], va, acc => pure (acc.reverse, va)
  | .lit o :: rest, va, acc => inOrder mem rest va (o :: acc)
  | .dir d :: rest, va, acc =>
    if d.literal then inOrder mem rest va (d.text.reverse ++ acc)
    else do
      let (w, va) := match d.width with
        | .given n => ((n : Int), va)
        | _ => let (x, va) := va.nextInt; (narrow 0 true x, va)
      let (p, va) := match d.precision with
        | none => (none, va)
        | some (.given n) => (some (n : Int), va)
        | some _ => let (x, va) := va.nextInt; (some (narrow 0 true x), va)
      let (v, va) := match argKind d.conv with
        | .int => va.nextInt
        | .double => va.nextDouble
        | .nothing => (0, va)
      let out ← render mem d w p v
      inOrder mem rest va (out.reverse ++ acc)

/-- Record the kind of the argument at a position, positions before it being integers. -/
def setKind (kinds : Array ArgKind) (n : Nat) (k : ArgKind) : Array ArgKind :=
  let kinds := if kinds.size < n then kinds ++ Array.replicate (n - kinds.size) .int else kinds
  kinds.set! (n - 1) k

/-- The kinds of the arguments at the positions the pieces name, from position 1. -/
def positionKinds (ps : List Piece) : Array ArgKind :=
  ps.foldl (fun kinds p => match p with
    | .lit _ => kinds
    | .dir d =>
      let kinds := match d.width with
        | .arg n => setKind kinds n .int
        | _ => kinds
      let kinds := match d.precision with
        | some (.arg n) => setKind kinds n .int
        | _ => kinds
      match d.pos with
      | some n => if argKind d.conv != .nothing then setKind kinds n (argKind d.conv) else kinds
      | none => kinds) #[]

/-- Format pieces whose directives name the positions of their arguments. -/
def atPositions (mem : Memory) (args : Array UInt64) :
    List Piece → List UInt8 → Except Fault (List UInt8)
  | [], acc => pure acc.reverse
  | .lit o :: rest, acc => atPositions mem args rest (o :: acc)
  | .dir d :: rest, acc =>
    if d.literal then atPositions mem args rest (d.text.reverse ++ acc)
    else do
      let get := fun (n : Nat) => args.getD (n - 1) 0
      let w : Int := match d.width with
        | .given n => n
        | .arg n => narrow 0 true (get n)
        | .next => 0
      let p : Option Int := match d.precision with
        | none => none
        | some (.given n) => some n
        | some (.arg n) => some (narrow 0 true (get n))
        | some .next => none
      let out ← render mem d w p (get (d.pos.getD 0))
      atPositions mem args rest (out.reverse ++ acc)

/-- Whether the first directive of the pieces names a position. -/
def positional : List Piece → Bool
  | [] => false
  | .lit _ :: rest => positional rest
  | .dir d :: rest => if d.conv == 37 && d.pos.isNone then positional rest else d.pos.isSome

end Format

/-- The octets `vsnprintf` produces for a format and extra arguments, before truncation,
and the arguments left. -/
def formatOctets (mem : Memory) (fmt : List UInt8) (va : VaList) : Except Fault (List UInt8 × VaList) :=
  let ps := Format.pieces (fmt.length + 1) fmt
  if Format.positional ps then do
    let (args, va) := (Format.positionKinds ps).foldl (fun (acc : Array UInt64 × VaList) k =>
      let (v, va) := if k == .double then acc.2.nextDouble else acc.2.nextInt
      (acc.1.push v, va)) (#[], va)
    pure (← Format.atPositions mem args ps [], va)
  else Format.inOrder mem ps va []

end InlineC.Machine
