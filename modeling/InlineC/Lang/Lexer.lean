/-!
# C tokens

The source text becomes preprocessing tokens in the order the standard gives: trigraphs are
replaced (when the dialect has them), a backslash before a line end joins two lines,
comments count as one blank, and what remains is split into identifiers, preprocessing
numbers, character constants, string literals, punctuators and single other characters.

Each token keeps the line it starts on, whether blank space came before it, and whether it
starts a logical line, so that the preprocessor can find its directives and tell a
function-like macro call from an object-like one. Lexing never fails: a character that
starts no token, or a quote without its partner on the line, becomes a token of kind
`other`, which only counts as an error if it reaches the parser. Universal character names
in identifiers stand for their characters, so `é` and `é` name the same thing.
-/

namespace InlineC.Lang

/-- The kinds of preprocessing token. -/
inductive TokKind where
  | ident
  | number
  | char
  | string
  | punct
  /-- A character that starts no other token, or an unterminated literal. -/
  | other
  /-- A pragma the preprocessor passes on to the compiler, its text without `#pragma`. -/
  | pragma
  deriving DecidableEq, Repr, Inhabited

/-- A preprocessing token: its kind, its spelling, whether blank space preceded it, the line
it starts on, whether it is the first token of a logical line, and whether it was read
from a header rather than the source. -/
structure Token where
  kind : TokKind
  text : String
  space : Bool := false
  line : Nat := 0
  bol : Bool := false
  header : Bool := false
  deriving DecidableEq, Repr, Inhabited

namespace Token

/-- A punctuator token. -/
def punct (s : String) : Token := { kind := .punct, text := s }

/-- An identifier token. -/
def ident (s : String) : Token := { kind := .ident, text := s }

/-- A number token. -/
def number (s : String) : Token := { kind := .number, text := s }

/-- Whether the token is the punctuator `s`. -/
def isPunct (t : Token) (s : String) : Bool := t.kind == .punct && t.text == s

/-- Whether the token is the identifier `s`. -/
def isIdent (t : Token) (s : String) : Bool := t.kind == .ident && t.text == s

end Token

/-- What the dialect lets the lexer read. -/
structure LexMode where
  trigraphs : Bool := true
  digraphs : Bool := true
  /-- `u`, `U` and `u8` prefixes of literals. -/
  prefixed : Bool := true
  /-- `//` starts a comment. -/
  lineComments : Bool := true
  dollars : Bool := true
  deriving Repr, Inhabited

/-- A character of the source after trigraph replacement, with its line and whether it
was written as a trigraph. -/
structure SrcChar where
  c : Char
  line : Nat
  trigraph : Bool := false
  deriving Repr, Inhabited

/-- The character a trigraph `??c` stands for. -/
def trigraphOf : Char → Option Char
  | '=' => some '#' | '(' => some '[' | '/' => some '\\' | ')' => some ']'
  | '\'' => some '^' | '<' => some '\x7b' | '!' => some '|' | '>' => some '\x7d'
  | '-' => some '~'
  | _ => none

/-- Number the lines of a text and, when `tri`, replace its trigraphs. A carriage return
before a line feed is dropped. -/
def sourceChars (tri : Bool) (line : Nat) : List Char → List SrcChar
  | [] => []
  | '\r' :: '\n' :: rest => ⟨'\n', line, false⟩ :: sourceChars tri (line + 1) rest
  | '\n' :: rest => ⟨'\n', line, false⟩ :: sourceChars tri (line + 1) rest
  | '?' :: tl@('?' :: c :: rest) =>
    match (if tri then trigraphOf c else none) with
    | some r => ⟨r, line, true⟩ :: sourceChars tri line rest
    | none => ⟨'?', line, false⟩ :: sourceChars tri line tl
  | c :: rest => ⟨c, line, false⟩ :: sourceChars tri line rest

/-- Blank characters other than the line end. -/
def isBlank (c : Char) : Bool := c == ' ' || c == '\t' || c == '\x0b' || c == '\x0c' || c == '\r'

/-- The text after a line join that starts a text: blanks, then a line end. -/
def afterJoin : List SrcChar → Option (List SrcChar)
  | [] => none
  | x :: rest => if x.c == '\n' then some rest else if isBlank x.c then afterJoin rest else none

/-- Join lines: a backslash followed by blanks and a line end is removed. -/
def splice : Nat → List SrcChar → List SrcChar
  | 0, cs => cs
  | _, [] => []
  | fuel + 1, a :: rest =>
    if a.c == '\\' then
      match afterJoin rest with
      | some more => splice fuel more
      | none => a :: splice fuel rest
    else a :: splice fuel rest

/-- Code points C11 allows in identifiers. -/
def identRanges : List (Nat × Nat) :=
  [(0xA8, 0xA8), (0xAA, 0xAA), (0xAD, 0xAD), (0xAF, 0xAF), (0xB2, 0xB5), (0xB7, 0xBA),
   (0xBC, 0xBE), (0xC0, 0xD6), (0xD8, 0xF6), (0xF8, 0xFF), (0x100, 0x167F),
   (0x1681, 0x180D), (0x180F, 0x1FFF), (0x200B, 0x200D), (0x202A, 0x202E),
   (0x203F, 0x2040), (0x2054, 0x2054), (0x2060, 0x206F), (0x2070, 0x218F),
   (0x2460, 0x24FF), (0x2776, 0x2793), (0x2C00, 0x2DFF), (0x2E80, 0x2FFF),
   (0x3004, 0x3007), (0x3021, 0x302F), (0x3031, 0x303F), (0x3040, 0xD7FF),
   (0xF900, 0xFD3D), (0xFD40, 0xFDCF), (0xFDF0, 0xFE44), (0xFE47, 0xFFFD),
   (0x10000, 0x1FFFD), (0x20000, 0x2FFFD), (0x30000, 0x3FFFD), (0x40000, 0x4FFFD),
   (0x50000, 0x5FFFD), (0x60000, 0x6FFFD), (0x70000, 0x7FFFD), (0x80000, 0x8FFFD),
   (0x90000, 0x9FFFD), (0xA0000, 0xAFFFD), (0xB0000, 0xBFFFD), (0xC0000, 0xCFFFD),
   (0xD0000, 0xDFFFD), (0xE0000, 0xEFFFD)]

/-- Code points C11 allows in identifiers but not first. -/
def notInitialRanges : List (Nat × Nat) :=
  [(0x300, 0x36F), (0x1DC0, 0x1DFF), (0x20D0, 0x20FF), (0xFE20, 0xFE2F)]

/-- Whether a code point beyond ASCII may stand in an identifier. -/
def isExtendedIdentChar (n : Nat) : Bool := identRanges.any fun (lo, hi) => lo ≤ n && n ≤ hi

/-- Whether a character may start an identifier. -/
def isIdentStart (dollars : Bool) (c : Char) : Bool :=
  c.isAlpha || c == '_' || (dollars && c == '$') ||
    (c.toNat ≥ 0x80 && isExtendedIdentChar c.toNat &&
      !(notInitialRanges.any fun (lo, hi) => lo ≤ c.toNat && c.toNat ≤ hi))

/-- Whether a character may continue an identifier. -/
def isIdentChar (dollars : Bool) (c : Char) : Bool :=
  c.isAlphanum || c == '_' || (dollars && c == '$') ||
    (c.toNat ≥ 0x80 && isExtendedIdentChar c.toNat)

/-- The value of a hexadecimal digit. -/
def hexValue (c : Char) : Option Nat :=
  if c.isDigit then some (c.toNat - 48)
  else if 'a' ≤ c && c ≤ 'f' then some (c.toNat - 87)
  else if 'A' ≤ c && c ≤ 'F' then some (c.toNat - 55)
  else none

/-- A universal character name after its backslash: `uXXXX` or `UXXXXXXXX`, with the
number of characters it takes. -/
def universalName (cs : List SrcChar) : Option (Nat × Nat) :=
  match cs with
  | u :: rest =>
    let n := if u.c == 'u' then 4 else if u.c == 'U' then 8 else 0
    if n == 0 then none
    else
      let ds := (rest.take n).map (·.c)
      if ds.length != n then none
      else (ds.foldlM (fun acc c => (hexValue c).map (acc * 16 + ·)) 0).map (·, n + 1)
  | [] => none

/-- The punctuators, longest first. -/
def punctuators : List String :=
  ["%:%:", "...", "<<=", ">>=", "->", "++", "--", "<<", ">>", "<=", ">=", "==", "!=", "&&",
   "||", "*=", "/=", "%=", "+=", "-=", "&=", "^=", "|=", "##", "<:", ":>", "<%", "%>", "%:",
   "[", "]", "(", ")", "\x7b", "\x7d", ".", "&", "*", "+", "-", "~", "!", "/", "%", "<", ">",
   "^", "|", "?", ":", ";", "=", ",", "#"]

/-- The punctuator a digraph spells. -/
def digraphMeaning : String → String
  | "<:" => "[" | ":>" => "]" | "<%" => "\x7b" | "%>" => "\x7d" | "%:" => "#" | "%:%:" => "##"
  | p => p

/-- Whether a punctuator is a digraph. -/
def isDigraph (p : String) : Bool := digraphMeaning p != p

/-- The longest punctuator at the start of the text. -/
def matchPunct (digraphs : Bool) (cs : List SrcChar) : Option String :=
  let first := (cs.take 4).map (·.c)
  punctuators.find? fun p => (digraphs || !isDigraph p) && p.toList.isPrefixOf first

/-- A diagnostic of the lexer: a warning name (empty for a pedantic one) and the line. -/
structure LexNote where
  warning : String
  line : Nat
  deriving Repr, Inhabited

/-- The state of lexing. -/
structure LexState where
  toks : Array Token := #[]
  notes : Array LexNote := #[]
  space : Bool := false
  bol : Bool := true

/-- Add a token. -/
def LexState.push (st : LexState) (kind : TokKind) (text : String) (line : Nat) : LexState :=
  { st with toks := st.toks.push { kind, text, space := st.space, line, bol := st.bol },
            space := false, bol := false }

/-- The rest of a block comment after its opening, or none when it does not end. -/
def afterBlockComment : List SrcChar → Option (List SrcChar)
  | a :: rest@(b :: more) => if a.c == '*' && b.c == '/' then some more else afterBlockComment rest
  | _ => none

/-- The characters of a quoted literal after its opening quote, up to and including the
closing one; none when the line ends first. -/
def quotedBody (q : Char) : List SrcChar → Option (List Char × List SrcChar)
  | [] => none
  | a :: rest =>
    if a.c == '\n' then none
    else if a.c == q then some ([q], rest)
    else if a.c == '\\' then
      match rest with
      | b :: more =>
        if b.c == '\n' then none
        else (quotedBody q more).map fun (body, r) => (a.c :: b.c :: body, r)
      | [] => none
    else (quotedBody q rest).map fun (body, r) => (a.c :: body, r)

/-- The characters of a preprocessing number after its first: identifier characters,
points, and signs after an exponent letter. -/
def numberTail (dollars : Bool) : List SrcChar → List Char × List SrcChar
  | a :: rest@(b :: more) =>
    if (a.c == 'e' || a.c == 'E' || a.c == 'p' || a.c == 'P') && (b.c == '+' || b.c == '-') then
      let (t, r) := numberTail dollars more
      (a.c :: b.c :: t, r)
    else if isIdentChar dollars a.c || a.c == '.' then
      let (t, r) := numberTail dollars rest
      (a.c :: t, r)
    else ([], a :: rest)
  | [a] => if isIdentChar dollars a.c || a.c == '.' then ([a.c], []) else ([], [a])
  | [] => ([], [])

/-- The characters of an identifier, universal character names replaced by their
characters; a name that is not valid in an identifier ends it. -/
def identTail (dollars : Bool) : List SrcChar → List Char × List SrcChar
  | [] => ([], [])
  | a :: rest =>
    if isIdentChar dollars a.c then
      let (t, r) := identTail dollars rest
      (a.c :: t, r)
    else if a.c == '\\' then
      match universalName rest with
      | some (v, n) =>
        if v ≥ 0xA0 && isExtendedIdentChar v then
          let (t, r) := identTail dollars (rest.drop n)
          (Char.ofNat v :: t, r)
        else ([], a :: rest)
      | none => ([], a :: rest)
    else ([], a :: rest)
termination_by cs => cs.length
decreasing_by all_goals simp_wf; all_goals omega

/-- Whether a trigraph outside a comment lies among the characters. -/
def hasTrigraph (cs : List SrcChar) : Bool := cs.any (·.trigraph)

/-- Note the trigraphs among the characters of a literal. -/
def LexState.noteTrigraphs (st : LexState) (cs : List SrcChar) : LexState :=
  cs.foldl (fun st x => if x.trigraph then { st with notes := st.notes.push ⟨"trigraphs", x.line⟩ } else st) st

/-- Tokens of a text after trigraphs and line joins. -/
def lexChars (m : LexMode) : Nat → List SrcChar → LexState → LexState
  | 0, _, st => st
  | _, [], st => st
  | fuel + 1, a :: rest, st =>
    let c := a.c
    let line := a.line
    let st := if a.trigraph then { st with notes := st.notes.push ⟨"trigraphs", line⟩ } else st
    if c == '\n' then lexChars m fuel rest { st with bol := true, space := false }
    else if isBlank c then lexChars m fuel rest { st with space := true }
    else if c == '/' && rest.head?.map (·.c) == some '*' then
      match afterBlockComment (rest.drop 1) with
      | some after => lexChars m fuel after { st with space := true }
      | none => { st.push .other "/*" line with notes := st.notes.push ⟨"unterminated comment", line⟩ }
    else if c == '/' && rest.head?.map (·.c) == some '/' && m.lineComments then
      lexChars m fuel (rest.dropWhile (·.c != '\n')) { st with space := true }
    else
      -- literals with a prefix
      let prefixLen : Nat :=
        if c == 'L' then 1
        else if m.prefixed && (c == 'u' || c == 'U') then
          if c == 'u' && rest.head?.map (·.c) == some '8' then
            (if (rest.drop 1).head?.map (·.c) == some '"' then 2 else 0)
          else 1
        else 0
      let afterPrefix := rest.drop (prefixLen - 1)
      let quote := afterPrefix.head?.map (·.c)
      if prefixLen > 0 && (quote == some '"' || quote == some '\'') then
        let q := quote.getD '"'
        let pre := String.ofList (c :: (rest.take (prefixLen - 1)).map (·.c))
        match quotedBody q (afterPrefix.drop 1) with
        | some (body, after) =>
          let st := st.noteTrigraphs (afterPrefix.take (afterPrefix.length - after.length))
          lexChars m fuel after (st.push (if q == '"' then .string else .char)
            (pre ++ String.ofList (q :: body)) line)
        | none =>
          let lineRest := (afterPrefix.drop 1).takeWhile (·.c != '\n')
          lexChars m fuel ((afterPrefix.drop 1).dropWhile (·.c != '\n'))
            (st.push .other (pre ++ String.ofList (q :: lineRest.map (·.c))) line)
      else if isIdentStart m.dollars c then
        let (tail, after) := identTail m.dollars rest
        lexChars m fuel after (st.push .ident (String.ofList (c :: tail)) line)
      else if c == '\\' && (universalName rest).isSome then
        let (tail, after) := identTail m.dollars (a :: rest)
        if tail.isEmpty then lexChars m fuel rest (st.push .other "\\" line)
        else lexChars m fuel after (st.push .ident (String.ofList tail) line)
      else if c.isDigit || (c == '.' && (rest.head?.map (·.c.isDigit)).getD false) then
        let (tail, after) := numberTail m.dollars rest
        lexChars m fuel after (st.push .number (String.ofList (c :: tail)) line)
      else if c == '"' || c == '\'' then
        match quotedBody c rest with
        | some (body, after) =>
          let st := st.noteTrigraphs (rest.take (rest.length - after.length))
          lexChars m fuel after (st.push (if c == '"' then .string else .char)
            (String.ofList (c :: body)) line)
        | none =>
          let lineRest := rest.takeWhile (·.c != '\n')
          lexChars m fuel (rest.dropWhile (·.c != '\n'))
            (st.push .other (String.ofList (c :: lineRest.map (·.c))) line)
      else
        match matchPunct m.digraphs (a :: rest) with
        | some p => lexChars m fuel ((a :: rest).drop p.length) (st.push .punct (digraphMeaning p) line)
        | none => lexChars m fuel rest (st.push .other c.toString line)

/-- The tokens of a source text, with the lexer's notes: trigraphs met outside comments and
unterminated comments. Lines are numbered from `firstLine`. -/
def tokenize (m : LexMode) (firstLine : Nat) (src : String) : Array Token × Array LexNote :=
  let raw := sourceChars m.trigraphs firstLine src.toList
  let cs := splice (raw.length + 1) raw
  let st := lexChars m (cs.length + 1) cs {}
  (st.toks, st.notes)

/-- The tokens of a spelling, as pasting with `##` forms it. -/
def lex (m : LexMode) (s : String) : Array Token := (tokenize m 1 s).1

end InlineC.Lang
