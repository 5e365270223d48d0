import InlineC.Lang.Core
import InlineC.Lang.Diagnostic
import InlineC.Num.Decimal
import InlineC.Num.Extended
import InlineC.Text.Utf8

/-!
# C constants

The values and types of the constants a source writes: integer and floating constants,
character constants and string literals.

An integer constant takes the first type of a list that holds its value; the list depends
on the suffix and on whether it is written in decimal, and it ends with the 128-bit types,
so a decimal constant beyond `long` is a `__int128`. A value beyond 64 bits is reduced
modulo `2^64`, with a diagnostic.

Characters of the source beyond ASCII stand for their UTF-8 octets in a narrow constant and
for their code point in a wide one. An escape beyond the range of a narrow character keeps
its low octet; an unknown escape stands for the character after the backslash.
-/

namespace InlineC.Lang

/-- Digits in a base, folded to their value; none when one is not a digit of the base. -/
def digitsValue (base : Nat) (ds : List Char) : Option Nat :=
  ds.foldlM (fun acc c => (Decimal.digitValue base c).map (acc * base + ·)) 0

/-- Whether a character is a digit of the base. -/
def isDigitIn (base : Nat) (c : Char) : Bool := (Decimal.digitValue base c).isSome

/-- The integer suffixes: whether unsigned, and the count of `l`. -/
def intSuffix : String → Option (Bool × Nat)
  | "" => some (false, 0)
  | "u" | "U" => some (true, 0)
  | "l" | "L" => some (false, 1)
  | "ul" | "uL" | "Ul" | "UL" | "lu" | "lU" | "Lu" | "LU" => some (true, 1)
  | "ll" | "LL" => some (false, 2)
  | "ull" | "uLL" | "Ull" | "ULL" | "llu" | "llU" | "LLu" | "LLU" => some (true, 2)
  | _ => none

/-- The types an integer constant may take, in order. -/
def intCandidates (unsigned : Bool) (longs : Nat) (decimal : Bool) : List IntKind :=
  match unsigned, longs, decimal with
  | false, 0, true => [.int, .long, .llong, .int128]
  | false, 0, false => [.int, .uint, .long, .ulong, .llong, .ullong, .int128, .uint128]
  | true, 0, _ => [.uint, .ulong, .ullong, .uint128]
  | false, 1, true => [.long, .llong, .int128]
  | false, 1, false => [.long, .ulong, .llong, .ullong, .int128, .uint128]
  | true, 1, _ => [.ulong, .ullong, .uint128]
  | false, _, true => [.llong, .int128]
  | false, _, false => [.llong, .ullong, .int128, .uint128]
  | true, _, _ => [.ullong, .uint128]

/-- An integer constant: its type, its value, and what the compiler says about it. -/
structure IntConst where
  kind : IntKind
  value : Int
  diags : List Diag := []
  deriving Repr

/-- Read an integer constant. -/
def intConstant (s : String) : Except String IntConst := do
  let cs := s.toList
  let (base, body, decimal, binary) := match cs with
    | '0' :: x :: rest =>
      if x == 'x' || x == 'X' then (16, rest, false, false)
      else if x == 'b' || x == 'B' then (2, rest, false, true)
      else (8, cs, false, false)
    | ['0'] => (8, cs, false, false)
    | _ => (10, cs, true, false)
  let ds := body.takeWhile (isDigitIn (if base == 8 then 10 else base))
  let suffix := String.ofList (body.drop ds.length)
  if ds.isEmpty then throw ("invalid suffix \"" ++ suffix ++ "\" on integer constant")
  if base == 8 && ds.any (fun c => c == '8' || c == '9') then
    throw "invalid digit in octal constant"
  let v ← match digitsValue base ds with
    | some v => pure v
    | none => throw "invalid integer constant"
  let (u, l) ← match intSuffix suffix with
    | some r => pure r
    | none => throw ("invalid suffix \"" ++ suffix ++ "\" on integer constant")
  let mut diags : List Diag := []
  if binary then diags := diags ++ [.pedantic "pedantic"]
  let v := if v ≥ Nat.pow 2 64 then v % Nat.pow 2 64 else v
  if (digitsValue base ds).getD 0 ≥ Nat.pow 2 64 then diags := diags ++ [.pedwarn ""]
  if decimal && !u && v ≥ Nat.pow 2 63 then diags := diags ++ [.warning ""]
  let t : Target := {}
  let kind := ((intCandidates u l decimal).find? fun k => (v : Int) ≤ k.maxIn t).getD .uint128
  if l == 2 then diags := diags ++ [.pedantic "long-long"]
  pure { kind, value := v, diags }

/-- The suffix of a floating constant. -/
inductive FloatSuffix where
  | none
  /-- `f`: a `float`. -/
  | single
  /-- `l`: a `long double`. -/
  | long
  deriving DecidableEq, Repr

/-- Whether number text is floating: a point, or an exponent outside a hex constant. -/
def isFloating (cs : List Char) : Bool :=
  let hex := (cs.take 2).map Char.toLower == ['0', 'x']
  cs.contains '.' || (if hex then cs.any (fun c => c == 'p' || c == 'P')
    else cs.any (fun c => c == 'e' || c == 'E'))

/-- Round a decimal reading to the extended format. -/
def roundExtended : Decimal.Reading → Nat
  | .nan => Extended.nan
  | .infinite neg => Extended.infinity neg
  | .decimal neg m e =>
    if m == 0 then Extended.zero neg
    else
      let size := (Decimal.digitCount m : Int) + e
      if size > 5000 then Extended.infinity neg
      else if size < -5000 then Extended.zero neg
      else if e ≥ 0 then Extended.ofRatio neg (m * Nat.pow 10 e.toNat) 1
      else Extended.ofRatio neg m (Nat.pow 10 (-e).toNat)
  | .binary neg m e =>
    if m == 0 then Extended.zero neg
    else
      let size := (m.log2 : Int) + e
      if size > 17000 then Extended.infinity neg
      else if size < -17000 then Extended.zero neg
      else Extended.ofFinite neg m e

/-- A floating constant: its type, its pattern, and the diagnostics. `single` rounds an
unsuffixed constant to single precision first, as `-fsingle-precision-constant` does. -/
def floatConstant (s : String) (single : Bool) : Except String (FloatKind × Nat × List Diag) := do
  let cs := s.toList
  let (body, suffix) := match cs.getLast? with
    | some 'f' | some 'F' => (cs.dropLast, FloatSuffix.single)
    | some 'l' | some 'L' => (cs.dropLast, .long)
    | _ => (cs, .none)
  let hex := (body.take 2).map Char.toLower == ['0', 'x']
  let r ← match Decimal.unsigned false body with
    | some r => pure r
    | none => throw ("invalid floating constant \"" ++ s ++ "\"")
  let diags : List Diag := if hex then [.pedantic "pedantic"] else []
  match suffix with
  | .single => pure (.float, r.round BinaryFormat.binary32 0x7FC00000, diags)
  | .long => pure (.ldouble, roundExtended r, diags)
  | .none =>
    if single then
      let b := r.round BinaryFormat.binary32 0x7FC00000
      pure (.double, (Binary32.toBinary64 ⟨UInt32.ofNat b⟩).bits.toNat, diags)
    else pure (.double, r.round BinaryFormat.binary64 0x7FF8000000000000, diags)

/-- One character of a literal body with escapes decoded: its value (an octet sequence for
a narrow literal, else a code point), whether it was an escape, and the rest. -/
def escape (wide : Bool) : List Char → Option (List Nat × Bool × List Diag × List Char)
  | '\\' :: c :: rest =>
    let simple := fun (v : Nat) => some ([v], true, ([] : List Diag), rest)
    match c with
    | 'n' => simple 10 | 't' => simple 9 | 'r' => simple 13
    | 'a' => simple 7 | 'b' => simple 8 | 'f' => simple 12
    | 'v' => simple 11
    | 'e' | 'E' => some ([27], true, [.pedantic "pedantic"], rest)
    | '\\' => simple 92 | '\'' => simple 39 | '"' => simple 34
    | '?' => simple 63
    | 'x' =>
      let ds := rest.takeWhile (isDigitIn 16)
      if ds.isEmpty then none
      else (digitsValue 16 ds).map fun v => ([v], true, [], rest.drop ds.length)
    | 'u' | 'U' =>
      let n := if c == 'u' then 4 else 8
      let ds := rest.take n
      if ds.length == n && ds.all (isDigitIn 16) then
        (digitsValue 16 ds).map fun v =>
          (if wide then [v] else (Utf8.encodeChar (Char.ofNat v)).map UInt8.toNat, false, [],
            rest.drop n)
      else none
    | _ =>
      if isDigitIn 8 c then
        let ds := (c :: rest).take 3 |>.takeWhile (isDigitIn 8)
        (digitsValue 8 ds).map fun v => ([v], true, [], (c :: rest).drop ds.length)
      else
        some ((if wide then [c.toNat] else (Utf8.encodeChar c).map UInt8.toNat), true,
          [.pedwarn ""], rest)
  | c :: rest => some ((if wide then [c.toNat] else (Utf8.encodeChar c).map UInt8.toNat), false, [], rest)
  | [] => none

/-- The values of a literal body and the diagnostics; escapes beyond `limit` keep their low
bits, with a diagnostic. -/
def literalValues (wide : Bool) (limit : Nat) : Nat → List Char → Option (List Nat × List Diag)
  | _, [] => some ([], [])
  | 0, _ => none
  | fuel + 1, cs => do
    let (vs, esc, ds, rest) ← escape wide cs
    let (vs, ds) := if esc && vs.any (· ≥ limit) then (vs.map (· % limit), ds ++ [.pedwarn ""])
      else (vs, ds)
    let (more, ds2) ← literalValues wide limit fuel rest
    pure (vs ++ more, ds ++ ds2)

/-- The encodings of string literals and character constants. -/
inductive Encoding where
  | narrow | utf8 | wide | utf16 | utf32
  deriving DecidableEq, Repr, Inhabited

/-- The encoding a prefix names and the rest of the token. -/
def encodingOf (s : String) : Encoding × List Char :=
  match s.toList with
  | 'u' :: '8' :: rest => (.utf8, rest)
  | 'L' :: rest => (.wide, rest)
  | 'u' :: rest => (.utf16, rest)
  | 'U' :: rest => (.utf32, rest)
  | rest => (.narrow, rest)

/-- The element type of a literal of an encoding. -/
def Encoding.element (t : Target) : Encoding → CType
  | .narrow | .utf8 => .int .char
  | .wide => if t.shortWchar then .int .ushort else .int .int
  | .utf16 => .int .ushort
  | .utf32 => .int .uint

/-- The code units of code points in UTF-16. -/
def utf16Units (vs : List Nat) : List Nat :=
  vs.flatMap fun v =>
    if v < 0x10000 then [v]
    else
      let w := v - 0x10000
      [0xD800 + w / 1024, 0xDC00 + w % 1024]

/-- A string literal: its encoding, its code units without the terminator, and the
diagnostics. -/
def stringLiteral (t : Target) (pieces : List String) : Except String (Encoding × List Nat × List Diag) := do
  let parts := pieces.map encodingOf
  let encs := (parts.map (·.1)).filter (· != .narrow)
  let enc := encs.headD .narrow
  if encs.any (· != enc) then throw "unsupported non-standard concatenation of string literals"
  let wide := enc != .narrow && enc != .utf8
  let limit := match enc with
    | .narrow | .utf8 => 256
    | .utf16 => 65536
    | .wide => if t.shortWchar then 65536 else Nat.pow 2 32
    | .utf32 => Nat.pow 2 32
  let mut units : List Nat := []
  let mut diags : List Diag := []
  for (_, body) in parts do
    let inner := (body.drop 1).dropLast
    match literalValues wide limit (inner.length + 1) inner with
    | some (vs, ds) =>
      units := units ++ (if enc == .utf16 then utf16Units vs else vs)
      diags := diags ++ ds
    | none => throw "invalid string literal"
  pure (enc, units, diags)

/-- The value and type of a character constant. A narrow one is an `int` whose octets are
its characters, the last four kept, the first one extended as a `char`. -/
def charConstant (t : Target) (s : String) : Except String (CType × Int × List Diag) := do
  let (enc, rest) := encodingOf s
  let inner := (rest.drop 1).dropLast
  let wide := enc != .narrow && enc != .utf8
  let limit := if wide then Nat.pow 2 32 else 256
  let (vs, ds) ← match literalValues wide limit (inner.length + 1) inner with
    | some r => pure r
    | none => throw "invalid character constant"
  match vs with
  | [] => throw "empty character constant"
  | _ =>
    if wide then
      let elem := enc.element t
      let k := (elem.intKind?).getD .int
      let v := vs.getLast!
      let ds := if vs.length > 1 then ds ++ [.warning ""] else ds
      pure (elem, k.wrapIn t v, ds)
    else if enc == .utf8 then
      pure (.int .uchar, vs.getLast! % 256, ds)
    else
      match vs with
      | [v] => pure (.int .int, IntKind.char.wrapIn t v, ds)
      | _ =>
        let n : Nat := vs.foldl (fun acc v => acc * 256 + v % 256) 0
        let ds := ds ++ [if vs.length > 4 then .warning "" else .warning "multichar"]
        pure (.int .int, IntKind.int.wrapIn t n, ds)

end InlineC.Lang
