import InlineC.Text.Utf8

/-!
# Lower case

The simple lower-case mapping of Unicode 17.0, one character to one character. A rule covers a
closed range of code points and either shifts each of them by a fixed amount or, for a
range where capitals and small letters alternate, maps each capital to the code point after
it. Characters no rule covers map to themselves.

`capitalize` applies the mapping to octets: the first octet is upper-cased when it is ASCII
and read as U+FFFD otherwise (one octet of a longer sequence is no character), and the rest
is read leniently and lower-cased.
-/

namespace InlineC.Text

/-- A rule of the lower-case mapping. -/
inductive CaseRule where
  /-- Every code point of `lo ..= hi` moves by `delta`. -/
  | shift (lo hi : Nat) (delta : Int)
  /-- Code points at even offsets from `lo` are capitals of the one after them. -/
  | alternate (lo hi : Nat)
  deriving Repr

/-- The rules of the lower-case mapping, in increasing order of code point. -/
def lowerRules : List CaseRule :=
  [.shift 0x41 0x5A 32, .shift 0xC0 0xD6 32, .shift 0xD8 0xDE 32, .alternate 0x100 0x12F,
    .shift 0x130 0x130 (-199), .alternate 0x132 0x137, .alternate 0x139 0x148,
    .alternate 0x14A 0x177, .shift 0x178 0x178 (-121), .alternate 0x179 0x17E,
    .shift 0x181 0x181 210, .alternate 0x182 0x185, .shift 0x186 0x186 206,
    .shift 0x187 0x187 1, .shift 0x189 0x18A 205, .shift 0x18B 0x18B 1, .shift 0x18E 0x18E 79,
    .shift 0x18F 0x18F 202, .shift 0x190 0x190 203, .shift 0x191 0x191 1,
    .shift 0x193 0x193 205, .shift 0x194 0x194 207, .shift 0x196 0x196 211,
    .shift 0x197 0x197 209, .shift 0x198 0x198 1, .shift 0x19C 0x19C 211,
    .shift 0x19D 0x19D 213, .shift 0x19F 0x19F 214, .alternate 0x1A0 0x1A5,
    .shift 0x1A6 0x1A6 218, .shift 0x1A7 0x1A7 1, .shift 0x1A9 0x1A9 218,
    .shift 0x1AC 0x1AC 1, .shift 0x1AE 0x1AE 218, .shift 0x1AF 0x1AF 1,
    .shift 0x1B1 0x1B2 217, .alternate 0x1B3 0x1B6, .shift 0x1B7 0x1B7 219,
    .shift 0x1B8 0x1B8 1, .shift 0x1BC 0x1BC 1, .shift 0x1C4 0x1C4 2, .shift 0x1C5 0x1C5 1,
    .shift 0x1C7 0x1C7 2, .shift 0x1C8 0x1C8 1, .shift 0x1CA 0x1CA 2, .alternate 0x1CB 0x1DC,
    .alternate 0x1DE 0x1EF, .shift 0x1F1 0x1F1 2, .alternate 0x1F2 0x1F5,
    .shift 0x1F6 0x1F6 (-97), .shift 0x1F7 0x1F7 (-56), .alternate 0x1F8 0x21F,
    .shift 0x220 0x220 (-130), .alternate 0x222 0x233, .shift 0x23A 0x23A 10795,
    .shift 0x23B 0x23B 1, .shift 0x23D 0x23D (-163), .shift 0x23E 0x23E 10792,
    .shift 0x241 0x241 1, .shift 0x243 0x243 (-195), .shift 0x244 0x244 69,
    .shift 0x245 0x245 71, .alternate 0x246 0x24F, .alternate 0x370 0x373,
    .shift 0x376 0x376 1, .shift 0x37F 0x37F 116, .shift 0x386 0x386 38,
    .shift 0x388 0x38A 37, .shift 0x38C 0x38C 64, .shift 0x38E 0x38F 63,
    .shift 0x391 0x3A1 32, .shift 0x3A3 0x3AB 32, .shift 0x3CF 0x3CF 8,
    .alternate 0x3D8 0x3EF, .shift 0x3F4 0x3F4 (-60), .shift 0x3F7 0x3F7 1,
    .shift 0x3F9 0x3F9 (-7), .shift 0x3FA 0x3FA 1, .shift 0x3FD 0x3FF (-130),
    .shift 0x400 0x40F 80, .shift 0x410 0x42F 32, .alternate 0x460 0x481,
    .alternate 0x48A 0x4BF, .shift 0x4C0 0x4C0 15, .alternate 0x4C1 0x4CE,
    .alternate 0x4D0 0x52F, .shift 0x531 0x556 48, .shift 0x10A0 0x10C5 7264,
    .shift 0x10C7 0x10C7 7264, .shift 0x10CD 0x10CD 7264, .shift 0x13A0 0x13EF 38864,
    .shift 0x13F0 0x13F5 8, .shift 0x1C89 0x1C89 1, .shift 0x1C90 0x1CBA (-3008),
    .shift 0x1CBD 0x1CBF (-3008), .alternate 0x1E00 0x1E95, .shift 0x1E9E 0x1E9E (-7615),
    .alternate 0x1EA0 0x1EFF, .shift 0x1F08 0x1F0F (-8), .shift 0x1F18 0x1F1D (-8),
    .shift 0x1F28 0x1F2F (-8), .shift 0x1F38 0x1F3F (-8), .shift 0x1F48 0x1F4D (-8),
    .shift 0x1F59 0x1F59 (-8), .shift 0x1F5B 0x1F5B (-8), .shift 0x1F5D 0x1F5D (-8),
    .shift 0x1F5F 0x1F5F (-8), .shift 0x1F68 0x1F6F (-8), .shift 0x1F88 0x1F8F (-8),
    .shift 0x1F98 0x1F9F (-8), .shift 0x1FA8 0x1FAF (-8), .shift 0x1FB8 0x1FB9 (-8),
    .shift 0x1FBA 0x1FBB (-74), .shift 0x1FBC 0x1FBC (-9), .shift 0x1FC8 0x1FCB (-86),
    .shift 0x1FCC 0x1FCC (-9), .shift 0x1FD8 0x1FD9 (-8), .shift 0x1FDA 0x1FDB (-100),
    .shift 0x1FE8 0x1FE9 (-8), .shift 0x1FEA 0x1FEB (-112), .shift 0x1FEC 0x1FEC (-7),
    .shift 0x1FF8 0x1FF9 (-128), .shift 0x1FFA 0x1FFB (-126), .shift 0x1FFC 0x1FFC (-9),
    .shift 0x2126 0x2126 (-7517), .shift 0x212A 0x212A (-8383), .shift 0x212B 0x212B (-8262),
    .shift 0x2132 0x2132 28, .shift 0x2160 0x216F 16, .shift 0x2183 0x2183 1,
    .shift 0x24B6 0x24CF 26, .shift 0x2C00 0x2C2F 48, .shift 0x2C60 0x2C60 1,
    .shift 0x2C62 0x2C62 (-10743), .shift 0x2C63 0x2C63 (-3814),
    .shift 0x2C64 0x2C64 (-10727), .alternate 0x2C67 0x2C6C, .shift 0x2C6D 0x2C6D (-10780),
    .shift 0x2C6E 0x2C6E (-10749), .shift 0x2C6F 0x2C6F (-10783),
    .shift 0x2C70 0x2C70 (-10782), .shift 0x2C72 0x2C72 1, .shift 0x2C75 0x2C75 1,
    .shift 0x2C7E 0x2C7F (-10815), .alternate 0x2C80 0x2CE3, .alternate 0x2CEB 0x2CEE,
    .shift 0x2CF2 0x2CF2 1, .alternate 0xA640 0xA66D, .alternate 0xA680 0xA69B,
    .alternate 0xA722 0xA72F, .alternate 0xA732 0xA76F, .alternate 0xA779 0xA77C,
    .shift 0xA77D 0xA77D (-35332), .alternate 0xA77E 0xA787, .shift 0xA78B 0xA78B 1,
    .shift 0xA78D 0xA78D (-42280), .alternate 0xA790 0xA793, .alternate 0xA796 0xA7A9,
    .shift 0xA7AA 0xA7AA (-42308), .shift 0xA7AB 0xA7AB (-42319),
    .shift 0xA7AC 0xA7AC (-42315), .shift 0xA7AD 0xA7AD (-42305),
    .shift 0xA7AE 0xA7AE (-42308), .shift 0xA7B0 0xA7B0 (-42258),
    .shift 0xA7B1 0xA7B1 (-42282), .shift 0xA7B2 0xA7B2 (-42261), .shift 0xA7B3 0xA7B3 928,
    .alternate 0xA7B4 0xA7C3, .shift 0xA7C4 0xA7C4 (-48), .shift 0xA7C5 0xA7C5 (-42307),
    .shift 0xA7C6 0xA7C6 (-35384), .alternate 0xA7C7 0xA7CA, .shift 0xA7CB 0xA7CB (-42343),
    .alternate 0xA7CC 0xA7DB, .shift 0xA7DC 0xA7DC (-42561), .shift 0xA7F5 0xA7F5 1,
    .shift 0xFF21 0xFF3A 32, .shift 0x10400 0x10427 40, .shift 0x104B0 0x104D3 40,
    .shift 0x10570 0x1057A 39, .shift 0x1057C 0x1058A 39, .shift 0x1058C 0x10592 39,
    .shift 0x10594 0x10595 39, .shift 0x10C80 0x10CB2 64, .shift 0x10D50 0x10D65 32,
    .shift 0x118A0 0x118BF 32, .shift 0x16E40 0x16E5F 32, .shift 0x16EA0 0x16EB8 27,
    .shift 0x1E900 0x1E921 34]

/-- The image of code point `n` under a rule, when the rule covers it. -/
def CaseRule.image? (n : Nat) : CaseRule → Option Nat
  | .shift lo hi d => if lo ≤ n ∧ n ≤ hi then some (Int.toNat (n + d)) else none
  | .alternate lo hi => if lo ≤ n ∧ n ≤ hi then some (if (n - lo) % 2 = 0 then n + 1 else n)
      else none

/-- The simple lower-case form of a character. -/
def toLower (c : Char) : Char :=
  match lowerRules.findSome? (CaseRule.image? c.toNat) with
  | some n => Char.ofNat n
  | none => c

/-- Upper-case the first octet and lower-case the rest of a text. -/
def capitalize (s : String) : String :=
  match Utf8.ofString s with
  | [] => ""
  | b :: rest =>
    let first := if b < 0x80 then (Char.ofNat b.toNat).toUpper else '�'
    String.ofList (first :: (Utf8.decode rest).map toLower)

example : toLower 'À' = 'à' ∧ toLower 'Ω' = 'ω' ∧ toLower 'a' = 'a' ∧ toLower 'Ā' = 'ā' ∧
    toLower 'ā' = 'ā' := by decide

end InlineC.Text
