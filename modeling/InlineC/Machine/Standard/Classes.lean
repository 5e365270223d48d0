/-!
# Character classes

The classes of characters in the C locale, as the C library's tables hold them: one 16-bit
word of class bits for each index from -128 to 255, where the indices below zero and above
127 belong to no class. The bit of a class is the one the library's own header names for
it: the first eight classes in the high octet, the others in the low one.
-/

namespace InlineC.Machine.Standard

/-- The classes, in the order of their bit numbers. -/
inductive CharClass where
  | upper | lower | alpha | digit | xdigit | space | print | graph | blank | cntrl | punct | alnum
  deriving DecidableEq, Repr

namespace CharClass

/-- The bit number of a class. -/
def index : CharClass → Nat
  | .upper => 0 | .lower => 1 | .alpha => 2 | .digit => 3 | .xdigit => 4 | .space => 5
  | .print => 6 | .graph => 7 | .blank => 8 | .cntrl => 9 | .punct => 10 | .alnum => 11

/-- The mask of a class in a table word. -/
def mask (k : CharClass) : Nat :=
  if k.index < 8 then Nat.pow 2 k.index * 256 else Nat.pow 2 k.index / 256

/-- Whether a character code, from 0 to 127, is of a class. -/
def has (k : CharClass) (c : Nat) : Bool :=
  let upper := 65 ≤ c && c ≤ 90
  let lower := 97 ≤ c && c ≤ 122
  let digit := 48 ≤ c && c ≤ 57
  let graph := 33 ≤ c && c ≤ 126
  match k with
  | .upper => upper
  | .lower => lower
  | .alpha => upper || lower
  | .digit => digit
  | .xdigit => digit || (65 ≤ c && c ≤ 70) || (97 ≤ c && c ≤ 102)
  | .space => c == 32 || (9 ≤ c && c ≤ 13)
  | .print => 32 ≤ c && c ≤ 126
  | .graph => graph
  | .blank => c == 32 || c == 9
  | .cntrl => c < 32 || c == 127
  | .punct => graph && !(upper || lower || digit)
  | .alnum => upper || lower || digit

/-- All classes. -/
def all : List CharClass :=
  [.upper, .lower, .alpha, .digit, .xdigit, .space, .print, .graph, .blank, .cntrl, .punct, .alnum]

end CharClass

/-- The class word of an index from -128 to 255. -/
def classWord (i : Int) : Nat :=
  if 0 ≤ i && i < 128 then
    CharClass.all.foldl (fun w k => if k.has i.toNat then w + k.mask else w) 0
  else 0

/-- `tolower` of any `int`. -/
def toLowerCode (i : Int) : Int := if 65 ≤ i && i ≤ 90 then i + 32 else i

/-- `toupper` of any `int`. -/
def toUpperCode (i : Int) : Int := if 97 ≤ i && i ≤ 122 then i - 32 else i

/-- The indices the tables cover. -/
def tableIndices : List Int := (List.range 384).map fun (n : Nat) => (n : Int) - 128

end InlineC.Machine.Standard
