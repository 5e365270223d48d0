/-!
# C string literals

Text placed inside a C string literal gets a backslash before `\` and `"`, and newline, tab
and carriage return are written `\n`, `\t` and `\r`; every other character is kept. The
empty text is written `NULL`, the null pointer, in place of a literal.

Main statement: `unescape` inverts `escape` (`unescape_escape`).
-/

namespace InlineC.Text.CLiteral

/-- The escaped form of one character. -/
def escapeChar : Char → List Char
  | '\\' => ['\\', '\\']
  | '"' => ['\\', '"']
  | '\n' => ['\\', 'n']
  | '\t' => ['\\', 't']
  | '\r' => ['\\', 'r']
  | c => [c]

/-- Escape a character list for a C string literal. -/
def escapeList (cs : List Char) : List Char := cs.flatMap escapeChar

/-- Escape a text for a C string literal. -/
def escape (s : String) : String := String.ofList (escapeList s.toList)

/-- A text as a C string literal, or `NULL` for the empty text. -/
def quote (s : String) : String :=
  if s.isEmpty then "NULL" else "\"" ++ escape s ++ "\""

/-- Read back the escapes that `escape` writes. -/
def unescape : List Char → List Char
  | '\\' :: 'n' :: rest => '\n' :: unescape rest
  | '\\' :: 't' :: rest => '\t' :: unescape rest
  | '\\' :: 'r' :: rest => '\r' :: unescape rest
  | '\\' :: c :: rest => c :: unescape rest
  | c :: rest => c :: unescape rest
  | [] => []

/-- A character other than the backslash is read as itself. -/
theorem unescape_cons {c : Char} (h : c ≠ '\\') (l : List Char) :
    unescape (c :: l) = c :: unescape l := by
  cases l with
  | nil => simp [unescape]
  | cons d ds => simp [unescape, h]

/-- Unescaping undoes escaping. -/
theorem unescape_escape (cs : List Char) : unescape (escapeList cs) = cs := by
  induction cs with
  | nil => rfl
  | cons c rest ih =>
    simp only [escapeList, List.flatMap_cons] at ih ⊢
    by_cases h1 : c = '\\'
    · subst h1; simp [escapeChar, unescape, ih]
    by_cases h2 : c = '"'
    · subst h2; simp [escapeChar, unescape, ih]
    by_cases h3 : c = '\n'
    · subst h3; simp [escapeChar, unescape, ih]
    by_cases h4 : c = '\t'
    · subst h4; simp [escapeChar, unescape, ih]
    by_cases h5 : c = '\r'
    · subst h5; simp [escapeChar, unescape, ih]
    have : escapeChar c = [c] := by
      unfold escapeChar; split <;> simp_all
    rw [this, List.singleton_append, unescape_cons h1, ih]

end InlineC.Text.CLiteral
