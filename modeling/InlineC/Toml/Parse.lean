import InlineC.Toml.Syntax

/-!
# Reading TOML

The reader splits a document into its expressions, one after another, in the manner of a
recursive-descent parser that works on bytes. Every step takes the bytes still to read and
gives back what it read with the bytes after it. The offset of a step is the length of the
document less the length of what is left, so `n` below is always the document's length.

Reading stops at the first syntax error, and the expressions read before it are kept: a
decoder handles them before it reports the error. An error's message and the stretch it
points at are those of the reader this one follows. For example, a value that is missing
at the end of the document reads `expected value, not eof` at the end, and a missing
newline between two expressions reads `expected newline but got U+0078 'x'` at the stray
byte.

Dates and times are recognised by their shape only. Their fields are not checked.
-/

namespace InlineC.Toml

section

variable (n : Nat)

/-- An error pointing at the first `len` bytes of what is left (fewer at the end). -/
def errorAt (rest : Bytes) (len : Nat) (msg : String) : Located :=
  ⟨⟨n - rest.length, min len rest.length⟩, msg⟩

/-- An error pointing at the end of the document. -/
def errorAtEnd (msg : String) : Located := ⟨⟨n, 0⟩, msg⟩

/-- Skip spaces and tabs. -/
def skipBlank : Bytes → Bytes
  | b :: rest => if b == 32 || b == 9 then skipBlank rest else b :: rest
  | [] => []

/-- Whether bytes start with the bytes of a text. -/
def startsWithText (s : Bytes) (p : String) : Bool := (Utf8.ofString p).isPrefixOf s

/-- Whether a byte is a decimal digit. -/
def isDigitByte (b : UInt8) : Bool := 48 ≤ b && b ≤ 57

/-- Whether a byte may appear in a bare key: a letter, a digit, `-` or `_`. -/
def isBareKeyByte (b : UInt8) : Bool :=
  (65 ≤ b && b ≤ 90) || (97 ≤ b && b ≤ 122) || isDigitByte b || b == byte '-' || b == byte '_'

/-- Expect one byte. -/
def expectByte (c : Char) : Bytes → Except Located Bytes
  | [] => .error (errorAtEnd n ("expected character " ++ String.singleton c ++
      " but the document ended here"))
  | b :: rest =>
    if b == byte c then .ok rest
    else .error (errorAt n (b :: rest) 1 ("expected character " ++ String.singleton c))

/-- Read a newline, `\n` or `\r\n`. -/
def newline : Bytes → Except Located Bytes
  | [] => .ok []
  | b :: rest =>
    if b == byte '\n' then .ok rest
    else if b == byte '\r' then
      match rest with
      | [] => .error (errorAt n (b :: rest) 1 "windows new line expected")
      | c :: more =>
        if c == byte '\n' then .ok more
        else .error (errorAt n (b :: rest) (rest.length + 1) "windows new line should be \\r\\n")
    else .error (errorAt n (b :: rest) 1 ("expected newline but got " ++ showCodePoint b.toNat))

/-- Read a comment after its `#`, up to the newline that ends it, which is left. -/
def comment : Bytes → Except Located Bytes
  | [] => .ok []
  | b :: rest =>
    if b == byte '\n' then .ok (b :: rest)
    else if b == byte '\r' then
      match rest with
      | c :: _ => if c == byte '\n' then .ok rest
                  else .error (errorAt n (b :: rest) 1 "invalid character in comment")
      | [] => .error (errorAt n (b :: rest) 1 "invalid character in comment")
    else if forbiddenAscii b then .error (errorAt n (b :: rest) 1 "invalid character in comment")
    else comment rest

/-! ## Strings -/

/-- Scan a one-line basic string after its opening quote: the length of its body, whether
the body holds escapes, and the bytes after the closing quote. -/
def scanBasic : Nat → Bool → Bytes → Except Located (Nat × Bool × Bytes)
  | _, _, [] => .error (errorAtEnd n "basic string not terminated by \"")
  | k, esc, b :: rest =>
    if b == byte '"' then .ok (k, esc, rest)
    else if b == byte '\n' || b == byte '\r' then
      .error (errorAt n (b :: rest) 1 "basic strings cannot have new lines")
    else if b == byte '\\' then
      match rest with
      | [] => .error (errorAt n (b :: rest) 1 "need a character after \\")
      | _ :: more => scanBasic (k + 2) true more
    else scanBasic (k + 1) esc rest

/-- The value of a hexadecimal digit. -/
def hexValue (b : UInt8) : Option Nat :=
  if isDigitByte b then some (b.toNat - 48)
  else if 97 ≤ b && b ≤ 102 then some (b.toNat - 87)
  else if 65 ≤ b && b ≤ 70 then some (b.toNat - 55)
  else none

/-- The number written by hexadecimal digits, or the first byte that is not one. -/
def hexNumber : Nat → Bytes → Except Bytes Nat
  | acc, [] => .ok acc
  | acc, b :: rest =>
    match hexValue b with
    | some d => hexNumber (acc * 16 + d) rest
    | none => .error (b :: rest)

/-- The code point of a `\u` or `\U` escape with `len` digits, read from the bytes after
the letter, of which `avail` belong to the string token. -/
def codePoint (s : Bytes) (avail len : Nat) : Except Located Nat :=
  let digits := s.take (min len avail)
  if digits.length < len then
    .error (errorAt n s digits.length
      ("unicode point needs " ++ toString len ++ " character, not " ++ toString digits.length))
  else
    match hexNumber 0 digits with
    | .error bad => .error (errorAt n (bad ++ s.drop len) 1 "non-hex character")
    | .ok r =>
      if r > 0x10FFFF || (0xD800 ≤ r && r < 0xE000) then
        .error (errorAt n s len "escape sequence is invalid Unicode code point")
      else .ok r

/-- The byte a one-letter escape stands for. -/
def escapeByte (c : UInt8) : Option UInt8 :=
  if c == byte '"' || c == byte '\\' then some c
  else if c == byte 'b' then some 8
  else if c == byte 'f' then some 12
  else if c == byte 'n' then some 10
  else if c == byte 'r' then some 13
  else if c == byte 't' then some 9
  else none

/-- Resolve one escape after its backslash: the bytes it stands for and how many bytes it
takes after the backslash. `avail` bytes after the letter belong to the token. -/
def escape (c : UInt8) (more : Bytes) (avail : Nat) : Except Located (Bytes × Nat) :=
  match escapeByte c with
  | some e => .ok ([e], 1)
  | none =>
    if c == byte 'u' || c == byte 'U' then
      let len := if c == byte 'u' then 4 else 8
      match codePoint n more avail len with
      | .ok cp => .ok (Utf8.encodeChar (Char.ofNat cp), len + 1)
      | .error e => .error e
    else .error (errorAt n (c :: more) 1 ("invalid escaped character " ++ showCodePoint c.toNat))

/-- Resolve the escapes of a one-line basic string: `left` bytes of its body remain at the
front, and the closing quote follows them. -/
def unescapeBasic : Nat → Nat → Bytes → Except Located Bytes
  | 0, _, _ => .ok []
  | fuel + 1, left, s =>
    if left = 0 then .ok [] else
    match s with
    | [] => .ok []
    | b :: rest =>
      if b == byte '\\' then
        match rest with
        | [] => .ok []
        | c :: more => do
          let (out, used) ← escape n c more (left - 1)
          pure (out ++ (← unescapeBasic fuel (left - 1 - used) (rest.drop used)))
      else if forbiddenAscii b then
        .error (errorAt n (b :: rest) 1 ("invalid character " ++ showCodePoint b.toNat))
      else do pure (b :: (← unescapeBasic fuel (left - 1) rest))

/-- The first forbidden control character among `left` bytes, as an error. -/
def checkPlain : Nat → Bytes → Except Located Unit
  | 0, _ => .ok ()
  | _, [] => .ok ()
  | left + 1, b :: rest =>
    if forbiddenAscii b then .error (errorAt n (b :: rest) 1 "invalid UTF-8")
    else checkPlain left rest

/-- Read a one-line basic string at its opening quote: its text and its token's stretch. -/
def basicString (s : Bytes) : Except Located ((Bytes × Span) × Bytes) := do
  let (k, esc, after) ← scanBasic n 0 false s.tail
  let body := s.tail
  let text ← if esc then unescapeBasic n (k + 1) k body
    else do checkPlain n k body; pure (body.take k)
  pure ((text, ⟨n - s.length, k + 2⟩), after)

/-- Whether a multi-line string delimiter of a quote byte starts here. -/
def delimiterAt (q : UInt8) (s : Bytes) : Bool := (s.take 3) == [q, q, q]

/-- The end of a multi-line string at its closing delimiter: one or two more quotes still
belong to the body, a third is an error. Gives the number of body quotes and the bytes
after the string. -/
def closeMulti (q : UInt8) (msg : String) (s : Bytes) : Except Located (Nat × Bytes) :=
  match s.drop 3 with
  | c :: after =>
    if c != q then .ok (0, c :: after) else
    match after with
    | d :: after2 =>
      if d != q then .ok (1, d :: after2) else
      match after2 with
      | e :: after3 =>
        if e == q then .error (errorAt n (s.drop 2) 4 msg) else .ok (2, e :: after3)
      | [] => .ok (2, [])
    | [] => .ok (1, [])
  | [] => .ok (0, [])

/-- Scan a multi-line basic string after its opening delimiter: the length of its body,
whether the body holds escapes, and the bytes after the string. -/
def scanMultiBasic : Nat → Bool → Bytes → Except Located (Nat × Bool × Bytes)
  | _, _, [] => .error (errorAtEnd n "multiline basic string not terminated by \"\"\"")
  | k, esc, b :: rest =>
    if b == byte '"' && delimiterAt (byte '"') (b :: rest) then
      match closeMulti n (byte '"') "\"\"\" not allowed in multiline basic string" (b :: rest) with
      | .ok (extra, after) => .ok (k + extra, esc, after)
      | .error e => .error e
    else if b == byte '\\' then
      match rest with
      | [] => .error (errorAtEnd n "need a character after \\")
      | _ :: more => scanMultiBasic (k + 2) true more
    else if b == byte '\r' then
      match rest with
      | [] => .error (errorAtEnd n "need a \\n after \\r")
      | c :: more =>
        if c == byte '\n' then scanMultiBasic (k + 2) esc more
        else .error (errorAt n (b :: rest) 2 "need a \\n after \\r")
    else scanMultiBasic (k + 1) esc rest

/-- Whether a backslash ends its line: only spaces and tabs follow it before a newline,
among the `left` bytes after it that belong to the body. -/
def endsLine : Nat → Bytes → Bool
  | 0, _ => false
  | _, [] => false
  | left + 1, b :: rest =>
    if b == 32 || b == 9 then endsLine left rest
    else if b == byte '\r' then
      match rest with
      | c :: _ => c == byte '\n' && endsLine left rest
      | [] => false
    else b == byte '\n'

/-- How many whitespace and newline bytes start the body's remaining `left` bytes. -/
def blankRun : Nat → Bytes → Nat
  | 0, _ => 0
  | _, [] => 0
  | left + 1, b :: rest =>
    if b == 32 || b == 9 || b == 10 || b == 13 then blankRun left rest + 1 else 0

/-- Resolve the escapes of a multi-line basic string: `left` bytes of its body remain at
the front, and the closing delimiter follows them. A backslash that ends a line removes
itself and all whitespace and newlines after it. -/
def unescapeMulti : Nat → Nat → Bytes → Except Located Bytes
  | 0, _, _ => .ok []
  | fuel + 1, left, s =>
    if left = 0 then .ok [] else
    match s with
    | [] => .ok []
    | b :: rest =>
      if b == byte '\\' then
        if endsLine (left - 1) rest then
          let k := blankRun (left - 1) rest
          unescapeMulti fuel (left - 1 - k) (rest.drop k)
        else
          match rest with
          | [] => .ok []
          | c :: more => do
            let (out, used) ← escape n c more (left - 2 + 3)
            pure (out ++ (← unescapeMulti fuel (left - 1 - used) (rest.drop used)))
      else if forbiddenAscii b then
        .error (errorAt n (b :: rest) 1 ("invalid character " ++ showCodePoint b.toNat))
      else do pure (b :: (← unescapeMulti fuel (left - 1) rest))

/-- How many bytes of a multi-line string's body are the newline right after the opening
delimiter, which the string leaves out. -/
def leadingNewline (body : Bytes) : Nat :=
  if startsWithText body "\n" then 1 else if startsWithText body "\r\n" then 2 else 0

/-- Read a multi-line basic string at its opening delimiter. -/
def multiBasicString (s : Bytes) : Except Located ((Bytes × Span) × Bytes) := do
  let body := s.drop 3
  let (k, esc, after) ← scanMultiBasic n 0 false body
  let skip := leadingNewline body
  let content := body.drop skip
  let text ← if esc then unescapeMulti n (k + 1) (k - skip) content
    else do checkPlain n (k - skip) content; pure (content.take (k - skip))
  pure ((text, ⟨n - s.length, k + 6⟩), after)

/-- Scan a one-line literal string after its opening apostrophe: the length of its body and
the bytes after the closing apostrophe. -/
def scanLiteral : Nat → Bytes → Except Located (Nat × Bytes)
  | _, [] => .error (errorAtEnd n "unterminated literal string")
  | k, b :: rest =>
    if b == byte '\'' then .ok (k, rest)
    else if b == byte '\n' || b == byte '\r' then
      .error (errorAt n (b :: rest) 1 "literal strings cannot have new lines")
    else if forbiddenAscii b then .error (errorAt n (b :: rest) 1 "invalid character")
    else scanLiteral (k + 1) rest

/-- Read a one-line literal string at its opening apostrophe. -/
def literalString (s : Bytes) : Except Located ((Bytes × Span) × Bytes) := do
  let (k, after) ← scanLiteral n 0 s.tail
  pure ((s.tail.take k, ⟨n - s.length, k + 2⟩), after)

/-- Scan a multi-line literal string after its opening delimiter: the length of its body
and the bytes after the string. -/
def scanMultiLiteral : Nat → Bytes → Except Located (Nat × Bytes)
  | _, [] => .error (errorAtEnd n "multiline literal string not terminated by '''")
  | k, b :: rest =>
    if b == byte '\'' && delimiterAt (byte '\'') (b :: rest) then
      match closeMulti n (byte '\'') "''' not allowed in multiline literal string" (b :: rest) with
      | .ok (extra, after) => .ok (k + extra, after)
      | .error e => .error e
    else if b == byte '\r' then
      match rest with
      | [] => .error (errorAtEnd n "need a \\n after \\r")
      | c :: more =>
        if c == byte '\n' then scanMultiLiteral (k + 2) more
        else .error (errorAt n (b :: rest) 2 "need a \\n after \\r")
    else if forbiddenAscii b then .error (errorAt n (b :: rest) 1 "invalid character")
    else scanMultiLiteral (k + 1) rest

/-- Read a multi-line literal string at its opening delimiter. -/
def multiLiteralString (s : Bytes) : Except Located ((Bytes × Span) × Bytes) := do
  let body := s.drop 3
  let (k, after) ← scanMultiLiteral n 0 body
  let skip := leadingNewline body
  pure (((body.drop skip).take (k - skip), ⟨n - s.length, k + 6⟩), after)

/-! ## Numbers, dates and times -/

/-- Whether a byte may appear in a number after a base prefix. -/
def inBase (base : UInt8) (b : UInt8) : Bool :=
  b == byte '_' ||
  (if base == byte 'x' then (hexValue b).isSome
   else if base == byte 'o' then 48 ≤ b && b ≤ 55
   else b == 48 || b == 49)

/-- The leading bytes of a number: digits, signs, underscores, points and exponent letters.
Gives their count and whether a point or an exponent letter was among them. -/
def numberRun : Bytes → Nat × Bool
  | [] => (0, false)
  | b :: rest =>
    if isDigitByte b || b == byte '+' || b == byte '-' || b == byte '_' then
      let (k, f) := numberRun rest
      (k + 1, f)
    else if b == byte '.' || b == byte 'e' || b == byte 'E' then
      let (k, _) := numberRun rest
      (k + 1, true)
    else (0, false)

/-- Read a number without a base prefix. -/
def decimalNumber (s : Bytes) : Except Located (Value × Bytes) :=
    let start := n - s.length
    let (k, isFloat) := numberRun s
    let rest := s.drop k
    if startsWithText rest "i" then
      if startsWithText rest "inf" then .ok (.float (s.take (k + 3)) ⟨start, k + 3⟩, rest.drop 3)
      else .error (errorAt n rest 1 "unexpected character 'i' while scanning for a number")
    else if startsWithText rest "n" then
      if startsWithText rest "nan" then .ok (.float (s.take (k + 3)) ⟨start, k + 3⟩, rest.drop 3)
      else .error (errorAt n rest 1 "unexpected character 'n' while scanning for a number")
    else if k = 0 then .error (errorAt n s 1 "incomplete number")
    else if isFloat then .ok (.float (s.take k) ⟨start, k⟩, rest)
    else .ok (.integer (s.take k) ⟨start, k⟩, rest)

/-- Read an integer or a float. -/
def number (s : Bytes) : Except Located (Value × Bytes) :=
  match s with
  | b0 :: b1 :: _ :: _ =>
    if b0 == byte '0' && b1 != byte '.' && b1 != byte 'e' && b1 != byte 'E' then
      let k := if b1 == byte 'x' || b1 == byte 'o' || b1 == byte 'b' then
          2 + ((s.drop 2).takeWhile (inBase b1)).length
        else 1
      .ok (.integer (s.take k) ⟨n - s.length, k⟩, s.drop k)
    else decimalNumber n s
  | _ => decimalNumber n s

/-- What a scan of a date or time has seen so far. -/
structure DateScan where
  date : Bool := false
  time : Bool := false
  zone : Bool := false
  space : Bool := false

/-- The length of a date or time: the bytes among digits, `T`, `Z`, `:`, `.`, `+` and `-`,
with one space when a digit follows it. `i` counts the bytes read. -/
def dateRun : Nat → Nat → DateScan → Bytes → Nat × DateScan
  | 0, i, st, _ => (i, st)
  | _, i, st, [] => (i, st)
  | fuel + 1, i, st, b :: rest =>
    if isDigitByte b then dateRun fuel (i + 1) st rest
    else if b == byte '-' then dateRun fuel (i + 1) { st with date := true, zone := st.zone || i ≥ 8 } rest
    else if b == byte 'T' || b == byte 't' || b == byte ':' || b == byte '.' then
      dateRun fuel (i + 1) { st with time := true } rest
    else if b == byte '+' || b == byte 'Z' || b == byte 'z' then
      dateRun fuel (i + 1) { st with zone := true } rest
    else if b == byte ' ' && !st.space && (match rest with | d :: _ => isDigitByte d | [] => false) then
      -- the digit after the space and the byte after it are taken unseen
      let st := { st with space := true, time := true }
      match rest with
      | _ :: _ :: more => dateRun fuel (i + 3) st more
      | _ => (i + 2, st)
    else (i, st)

/-- Read a date or a time. -/
def dateTime (s : Bytes) : Except Located (Value × Bytes) :=
  let (k, st) := dateRun (s.length + 1) 0 {} s
  let form := if st.time then
      (if st.date then (if st.zone then DateForm.offsetDateTime else .localDateTime) else .localTime)
    else .localDate
  .ok (.dateTime form (s.take k) ⟨n - s.length, k⟩, s.drop k)

/-- Whether the first bytes, up to five, are digits up to a `:` at index 2 or a `-` at
index 4: the shape of a time or a date. -/
def looksLikeDate : Nat → Bytes → Bool
  | _, [] => false
  | idx, b :: rest =>
    if idx ≥ 5 then false
    else if isDigitByte b then looksLikeDate (idx + 1) rest
    else (idx == 2 && b == byte ':') || (idx == 4 && b == byte '-')

/-- Read a value that starts with neither a quote, a bracket, a brace nor a truth value. -/
def scalar (s : Bytes) : Except Located (Value × Bytes) :=
  match s with
  | [] => .error (errorAtEnd n "expected value, not eof")
  | b :: _ =>
    let start := n - s.length
    if b == byte 'i' then
      if startsWithText s "inf" then .ok (.float (s.take 3) ⟨start, 3⟩, s.drop 3)
      else .error (errorAt n s 3 "expected 'inf'")
    else if b == byte 'n' then
      if startsWithText s "nan" then .ok (.float (s.take 3) ⟨start, 3⟩, s.drop 3)
      else .error (errorAt n s 3 "expected 'nan'")
    else if b == byte '+' || b == byte '-' || s.length < 3 then number n s
    else if looksLikeDate 0 s then dateTime n s
    else number n s

/-! ## Values, keys and expressions -/

/-- Skip whitespace, comments and newlines, as between the items of an array. -/
def skipGaps : Nat → Bytes → Except Located Bytes
  | 0, s => .ok s
  | fuel + 1, s =>
    let s := skipBlank s
    let after := if startsWithText s "#" then comment n s.tail else .ok s
    match after with
    | .error e => .error e
    | .ok [] => .ok []
    | .ok (b :: rest) =>
      if b == byte '\n' || b == byte '\r' then
        match newline n (b :: rest) with
        | .ok more => skipGaps fuel more
        | .error e => .error e
      else .ok (b :: rest)

/-- Read one part of a key. -/
def keyPart (s : Bytes) : Except Located (KeyPart × Bytes) :=
  match s with
  | [] => .error (errorAtEnd n "expected key but found none")
  | b :: rest =>
    let start := n - s.length
    if b == byte '\'' then do
      let ((text, span), after) ← literalString n s
      pure (⟨text, ⟨start + 1, span.len - 2⟩⟩, after)
    else if b == byte '"' then do
      let ((text, span), after) ← basicString n s
      pure (⟨text, ⟨start + 1, span.len - 2⟩⟩, after)
    else if isBareKeyByte b then
      let name := s.takeWhile isBareKeyByte
      .ok (⟨name, ⟨start, name.length⟩⟩, s.drop name.length)
    else .error (errorAt n (b :: rest) 1
      ("invalid character at start of key: " ++ String.singleton (byteChar b)))

/-- Read the parts of a dotted key after the first; the blanks after the key are read. -/
def keyParts : Nat → Bytes → Except Located (Key × Bytes)
  | 0, s => .ok ([], s)
  | fuel + 1, s =>
    let s := skipBlank s
    if startsWithText s "." then do
      let (part, after) ← keyPart n (skipBlank s.tail)
      let (more, rest) ← keyParts fuel after
      pure (part :: more, rest)
    else .ok ([], s)

/-- Read a key, one part or several joined by dots. -/
def key (s : Bytes) : Except Located (Key × Bytes) := do
  let (first, after) ← keyPart n s
  let (more, rest) ← keyParts n (after.length + 1) after
  pure (first :: more, rest)

mutual

/-- Read a value. -/
def value : Nat → Bytes → Except Located (Value × Bytes)
  | 0, s => .error (errorAt n s 1 "value nested too deeply")
  | _, [] => .error (errorAtEnd n "expected value, not eof")
  | fuel + 1, b :: rest =>
    let s := b :: rest
    if b == byte '"' then
      if delimiterAt (byte '"') s then do
        let ((text, span), after) ← multiBasicString n s
        pure (.string text span, after)
      else do
        let ((text, span), after) ← basicString n s
        pure (.string text span, after)
    else if b == byte '\'' then
      if delimiterAt (byte '\'') s then do
        let ((text, span), after) ← multiLiteralString n s
        pure (.string text span, after)
      else do
        let ((text, span), after) ← literalString n s
        pure (.string text span, after)
    else if b == byte 't' then
      if startsWithText s "true" then .ok (.bool true ⟨n - s.length, 4⟩, s.drop 4)
      else .error (errorAt n s 4 "expected 'true'")
    else if b == byte 'f' then
      if startsWithText s "false" then .ok (.bool false ⟨n - s.length, 5⟩, s.drop 5)
      else .error (errorAt n s 5 "expected 'false'")
    else if b == byte '[' then do
      let (items, after) ← arrayItems fuel s true rest
      pure (.array items, after)
    else if b == byte '{' then do
      let (entries, after) ← tableEntries fuel true rest
      pure (.inlineTable entries ⟨n - s.length, 1⟩, after)
    else scalar n s

/-- Read the items of an array after its opening bracket, `opening` being the array. -/
def arrayItems : Nat → Bytes → Bool → Bytes → Except Located ((List Value) × Bytes)
  | 0, _, _, s => .error (errorAt n s 1 "value nested too deeply")
  | fuel + 1, opening, first, s =>
    match s with
    | [] => do pure ([], ← expectByte n ']' [])
    | _ => do
      let s ← skipGaps n (s.length + 1) s
      match s with
      | [] => throw (errorAt n opening 1 "array is incomplete")
      | b :: rest =>
        if b == byte ']' then pure ([], rest)
        else
          let s ← if b == byte ',' then
              if first then throw (errorAt n (b :: rest) 1 "array cannot start with comma")
              else skipGaps n (rest.length + 1) rest
            else if !first then throw (errorAt n (b :: rest) 1
              "array elements must be separated by commas")
            else pure (b :: rest)
          match s with
          | c :: more =>
            if c == byte ']' then return ([], more)
            else pure ()
          | [] => pure ()
          let (v, after) ← value fuel s
          let after ← skipGaps n (after.length + 1) after
          let (vs, rest) ← arrayItems fuel opening false after
          pure (v :: vs, rest)

/-- Read the entries of an inline table after its opening brace. -/
def tableEntries : Nat → Bool → Bytes → Except Located ((List (Key × Value)) × Bytes)
  | 0, _, s => .error (errorAt n s 1 "value nested too deeply")
  | fuel + 1, first, s =>
    match s with
    | [] => do pure ([], ← expectByte n '}' [])
    | p :: prest => do
      let s := skipBlank (p :: prest)
      match s with
      | [] => throw (errorAt n (p :: prest) 1 "inline table is incomplete")
      | b :: rest =>
        if b == byte '}' then pure ([], rest)
        else
          let s ← if first then pure s else do
            let t ← expectByte n ',' s
            pure (skipBlank t)
          let (entry, after) ← keyValue fuel s
          let (more, rest) ← tableEntries fuel false after
          pure (entry :: more, rest)

/-- Read a key-value pair. -/
def keyValue : Nat → Bytes → Except Located ((Key × Value) × Bytes)
  | 0, s => .error (errorAt n s 1 "value nested too deeply")
  | fuel + 1, s => do
    let (k, after) ← key n s
    let after := skipBlank after
    if after.isEmpty then
      throw (errorAtEnd n "expected = after a key, but the document ends there")
    let after ← expectByte n '=' after
    let (v, rest) ← value fuel (skipBlank after)
    pure ((k, v), rest)

end

/-- Read a table or array-table header at its opening bracket. -/
def header (s : Bytes) : Except Located (Expr × Bytes) :=
  if startsWithText s "[[" then do
    let (k, after) ← key n (skipBlank (s.drop 2))
    let after ← expectByte n ']' (skipBlank after)
    let after ← expectByte n ']' after
    pure (.arrayTable k, after)
  else do
    let (k, after) ← key n (skipBlank s.tail)
    let after ← expectByte n ']' (skipBlank after)
    pure (.table k, after)

/-- Read one line's expression, if the line has one, with its trailing comment. -/
def expression (s : Bytes) : Except Located ((Option Expr) × Bytes) :=
  let s := skipBlank s
  match s with
  | [] => .ok (none, [])
  | b :: rest =>
    if b == byte '#' then do pure (none, ← comment n rest)
    else if b == byte '\n' || b == byte '\r' then .ok (none, s)
    else do
      let (e, after) ← if b == byte '[' then header n s
        else do
          let ((k, v), after) ← keyValue n (s.length + 1) s
          pure (Expr.keyValue k v, after)
      let after := skipBlank after
      if startsWithText after "#" then do pure (some e, ← comment n after.tail)
      else pure (some e, after)

/-- The expressions of a document from here on, and the syntax error that ended reading, if
any. Each expression but the first follows a newline. -/
def expressions : Nat → Bool → Bytes → List Expr × Option Located
  | 0, _, _ => ([], none)
  | fuel + 1, first, s =>
    if s.isEmpty then ([], none) else
    match (if first then .ok s else newline n s) with
    | .error e => ([], some e)
    | .ok s =>
      if s.isEmpty then ([], none) else
      match expression n s with
      | .error e => ([], some e)
      | .ok (none, rest) => expressions fuel false rest
      | .ok (some e, rest) =>
        let (es, err) := expressions fuel false rest
        (e :: es, err)

end

/-- Read a document: its expressions in order, and the syntax error that ended reading. -/
def readDocument (doc : Bytes) : List Expr × Option Located :=
  expressions doc.length (2 * doc.length + 2) true doc

end InlineC.Toml
