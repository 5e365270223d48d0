/-!
# UTF-8 octets

Text that crosses into native code is a list of octets. `encode` writes characters as UTF-8.
`decode` reads octets back one sequence at a time: a well-formed sequence gives its
character, and an octet that starts no well-formed sequence gives U+FFFD and is skipped
alone, so reading never fails and every octet is accounted for. `toString?` is the strict
reading, which refuses the first ill-formed octet.

Main statement: a reading step always consumes at least one octet (`drop_length_lt`), so both
readings are total.
-/

namespace InlineC.Utf8

/-- Octets, the unit of native text. -/
abbrev Octets := List UInt8

/-- A continuation octet, `10xxxxxx`. -/
def isTail (b : UInt8) : Bool := 0x80 ≤ b && b ≤ 0xBF

/-- The UTF-8 octets of one character. -/
def encodeChar (c : Char) : Octets :=
  let n := c.toNat
  if n < 0x80 then [n.toUInt8]
  else if n < 0x800 then [(0xC0 ||| (n >>> 6)).toUInt8, (0x80 ||| (n &&& 0x3F)).toUInt8]
  else if n < 0x10000 then
    [(0xE0 ||| (n >>> 12)).toUInt8, (0x80 ||| ((n >>> 6) &&& 0x3F)).toUInt8,
      (0x80 ||| (n &&& 0x3F)).toUInt8]
  else
    [(0xF0 ||| (n >>> 18)).toUInt8, (0x80 ||| ((n >>> 12) &&& 0x3F)).toUInt8,
      (0x80 ||| ((n >>> 6) &&& 0x3F)).toUInt8, (0x80 ||| (n &&& 0x3F)).toUInt8]

/-- The UTF-8 octets of a character list. -/
def encode (cs : List Char) : Octets := cs.flatMap encodeChar

/-- The UTF-8 octets of a string. -/
def ofString (s : String) : Octets := encode s.toList

/-- The payload bits of a continuation octet. -/
private def low6 (b : UInt8) : Nat := b.toNat &&& 0x3F

/-- The range the second octet of a sequence must lie in, given its first octet; `none`
when the first octet starts no multi-octet sequence. The ranges exclude overlong forms,
surrogates and code points above U+10FFFF. -/
def secondRange (b0 : UInt8) : Option (UInt8 × UInt8) :=
  if 0xC2 ≤ b0 && b0 ≤ 0xDF then some (0x80, 0xBF)
  else if b0 == 0xE0 then some (0xA0, 0xBF)
  else if 0xE1 ≤ b0 && b0 ≤ 0xEC then some (0x80, 0xBF)
  else if b0 == 0xED then some (0x80, 0x9F)
  else if 0xEE ≤ b0 && b0 ≤ 0xEF then some (0x80, 0xBF)
  else if b0 == 0xF0 then some (0x90, 0xBF)
  else if 0xF1 ≤ b0 && b0 ≤ 0xF3 then some (0x80, 0xBF)
  else if b0 == 0xF4 then some (0x80, 0x8F)
  else none

/-- One step of reading the sequence that starts with `b0`, followed by `rest`: its character
(none for an octet that starts no well-formed sequence) and how many octets of `rest` it
consumed. -/
def step (b0 : UInt8) (rest : Octets) : Option Char × Nat :=
  if b0 < 0x80 then (some (Char.ofNat b0.toNat), 0)
  else match secondRange b0, rest with
    | some (lo, hi), b1 :: r1 =>
      if lo ≤ b1 && b1 ≤ hi then
        if b0 < 0xE0 then (some (Char.ofNat (((b0.toNat &&& 0x1F) <<< 6) ||| low6 b1)), 1)
        else match r1 with
          | b2 :: r2 =>
            if !isTail b2 then (none, 0)
            else if b0 < 0xF0 then
              (some (Char.ofNat (((b0.toNat &&& 0x0F) <<< 12) ||| (low6 b1 <<< 6) ||| low6 b2)), 2)
            else match r2 with
              | b3 :: _ =>
                if isTail b3 then
                  (some (Char.ofNat (((b0.toNat &&& 0x07) <<< 18) ||| (low6 b1 <<< 12) |||
                    (low6 b2 <<< 6) ||| low6 b3)), 3)
                else (none, 0)
              | [] => (none, 0)
          | [] => (none, 0)
      else (none, 0)
    | _, _ => (none, 0)

/-- What is left after a step consumed `k` octets of `rest` is shorter than the input. -/
theorem drop_length_lt (b : UInt8) (rest : Octets) (k : Nat) :
    (rest.drop k).length < (b :: rest).length := by
  simp only [List.length_drop, List.length_cons]; omega

/-- Lenient reading: every octet that starts no well-formed sequence becomes U+FFFD. -/
def decode : Octets → List Char
  | [] => []
  | b :: bs =>
    let s := step b bs
    s.1.getD '\uFFFD' :: decode (bs.drop s.2)
termination_by l => l.length
decreasing_by exact drop_length_lt b bs _

/-- Strict reading: the characters, when every sequence is well-formed. -/
def decode? : Octets → Option (List Char)
  | [] => some []
  | b :: bs =>
    let s := step b bs
    match s.1 with
    | some c => (decode? (bs.drop s.2)).map (c :: ·)
    | none => none
termination_by l => l.length
decreasing_by exact drop_length_lt b bs _

/-- The string the octets spell, when they are well-formed UTF-8. -/
def toString? (b : Octets) : Option String := (decode? b).map String.ofList

/-- Lenient reading into a string. -/
def toStringLossy (b : Octets) : String := String.ofList (decode b)

/-- Whether the octets are well-formed UTF-8. -/
def valid (b : Octets) : Bool := (decode? b).isSome

/-- Decoding no octets gives no characters. -/
theorem decode_nil : decode [] = [] := by simp [decode]

end InlineC.Utf8
