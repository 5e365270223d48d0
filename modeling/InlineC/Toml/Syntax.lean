import InlineC.Text.Utf8
import InlineC.Text.Printable

/-!
# TOML documents as written

A document is read as bytes and split into expressions: key-value pairs, table headers and
array-table headers. Each expression is kept as written: keys as their parts, and values
as tokens with the stretch of the document they came from. Decoding a value into a string,
a list or a record happens later, against a target. Some errors point back into the
document, and the stretch tells them where.

Syntax errors carry such a stretch as well. A stretch of length zero points just before a
byte, or at the end of the document.
-/

namespace InlineC.Toml

/-- Document bytes. -/
abbrev Bytes := List UInt8

/-- A stretch of the document: the offset of its first byte and its length in bytes. -/
structure Span where
  start : Nat
  len : Nat
  deriving Repr, BEq, Inhabited

/-- The stretch from the start of one stretch to the end of another. -/
def Span.through (a b : Span) : Span := ⟨a.start, b.start + b.len - a.start⟩

/-- One part of a key: its name with escapes resolved, and where the name is written
(inside the quotes, for a quoted part). -/
structure KeyPart where
  name : Bytes
  span : Span
  deriving Repr, BEq, Inhabited

/-- A key: one part, or several joined by dots. -/
abbrev Key := List KeyPart

/-- Where a whole key is written, from its first part to its last. -/
def keySpan : Key → Span
  | [] => ⟨0, 0⟩
  | k :: rest => k.span.through ((rest.getLast?).getD k).span

/-- The four forms of dates and times. -/
inductive DateForm where
  | offsetDateTime | localDateTime | localDate | localTime
  deriving Repr, BEq, DecidableEq

/-- A value as written. A scalar keeps its text and the stretch of its token, an inline
table the stretch of its opening brace. -/
inductive Value where
  | string (text : Bytes) (span : Span)
  | integer (text : Bytes) (span : Span)
  | float (text : Bytes) (span : Span)
  | bool (b : Bool) (span : Span)
  | dateTime (form : DateForm) (text : Bytes) (span : Span)
  | array (items : List Value)
  | inlineTable (entries : List (Key × Value)) (span : Span)

/-- A top-level expression. -/
inductive Expr where
  | keyValue (key : Key) (value : Value)
  | table (key : Key)
  | arrayTable (key : Key)

/-- The key of an expression. -/
def Expr.key : Expr → Key
  | .keyValue k _ => k
  | .table k => k
  | .arrayTable k => k

/-- An error located in the document: what it says and the stretch it points at. -/
structure Located where
  span : Span
  message : String
  deriving Repr, Inhabited

/-- The byte of an ASCII character. -/
def byte (c : Char) : UInt8 := c.toNat.toUInt8

/-- The character a byte stands for as a code point below 256, as Go prints a byte with
`%c`. -/
def byteChar (b : UInt8) : Char := Char.ofNat b.toNat

/-- Upper-case hexadecimal digits of `n`, at least `width` of them. -/
def upperHex (width n : Nat) : String :=
  let digits := (Nat.toDigits 16 n).map Char.toUpper
  String.ofList (List.replicate (width - digits.length) '0' ++ digits)

/-- A code point as Go's `%#U` shows it: `U+0041 'A'`, without the character when it is
not printable. -/
def showCodePoint (n : Nat) : String :=
  let c := Char.ofNat n
  "U+" ++ upperHex 4 n ++ (if Text.isPrintable c then " '" ++ String.singleton c ++ "'" else "")

/-- Control characters strings may not hold: all below the space but tab, line feed and
carriage return, and delete. -/
def forbiddenAscii (b : UInt8) : Bool :=
  (b < 0x20 && b != 9 && b != 10 && b != 13) || b == 0x7F

/-- The length of the character starting a byte sequence, or zero when strings may not
hold it. The document is valid UTF-8, so a lead byte tells the length. -/
def charLength : Bytes → Nat
  | [] => 0
  | b :: rest =>
    if b < 0x80 then (if forbiddenAscii b then 0 else 1)
    else
      let k := if b < 0xE0 then 2 else if b < 0xF0 then 3 else 4
      if rest.length + 1 < k then 0 else k

end InlineC.Toml
