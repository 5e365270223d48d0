import InlineC.Text.Utf8
import InlineC.Text.Printable

/-!
# Quoted text in messages

Messages show names and characters between quotes, with escapes so that any text reads back
unambiguously: the quote itself and the backslash take a backslash, the seven control
characters with a letter escape use it (`\a \b \f \n \r \t \v`), other controls and octets
that are no UTF-8 are written `\xHH`, and remaining unprintable characters `\uHHHH` or
`\UHHHHHHHH`, in lower-case hexadecimal. Printable characters stand as they are.
-/

namespace InlineC.Text

/-- The lower-case hexadecimal digit of `n % 16`. -/
def hexDigit (n : Nat) : Char :=
  let d := n % 16
  if d < 10 then Char.ofNat (48 + d) else Char.ofNat (87 + d)

/-- `width` lower-case hexadecimal digits of `n`, most significant first. -/
def hexDigits (width n : Nat) : List Char :=
  (List.range width).reverse.map fun i => hexDigit (n >>> (4 * i))

/-- The escaped form of one character inside quotes `quote`. -/
def escapeChar (quote : Char) (c : Char) : List Char :=
  if c = quote ∨ c = '\\' then ['\\', c]
  else if isPrintable c then [c]
  else match c with
    | '\x07' => ['\\', 'a']
    | '\x08' => ['\\', 'b']
    | '\x0c' => ['\\', 'f']
    | '\n' => ['\\', 'n']
    | '\r' => ['\\', 'r']
    | '\t' => ['\\', 't']
    | '\x0b' => ['\\', 'v']
    | _ =>
      if c.toNat < 0x20 ∨ c.toNat = 0x7F then '\\' :: 'x' :: hexDigits 2 c.toNat
      else if c.toNat < 0x10000 then '\\' :: 'u' :: hexDigits 4 c.toNat
      else '\\' :: 'U' :: hexDigits 8 c.toNat

/-- Escape octets inside double quotes: well-formed sequences as characters, other octets
as `\xHH`. -/
def escapeOctets : Utf8.Octets → List Char
  | [] => []
  | b :: bs =>
    let s := Utf8.step b bs
    (match s.1 with
      | some c => escapeChar '"' c
      | none => '\\' :: 'x' :: hexDigits 2 b.toNat) ++ escapeOctets (bs.drop s.2)
termination_by l => l.length
decreasing_by exact Utf8.drop_length_lt b bs _

/-- Octets between double quotes, escaped. -/
def quoteOctets (b : Utf8.Octets) : String :=
  String.ofList ('"' :: escapeOctets b ++ ['"'])

/-- A string between double quotes, escaped. -/
def quote (s : String) : String := quoteOctets (Utf8.ofString s)

/-- A character between single quotes, escaped. -/
def quoteChar (c : Char) : String := String.ofList ('\'' :: escapeChar '\'' c ++ ['\''])

example : quote "a\tb" = "\"a\\tb\"" ∧ quoteChar '\'' = "'\\''" ∧ quoteChar 'π' = "'π'" := by
  decide +kernel

end InlineC.Text
