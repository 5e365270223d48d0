/-!
# Layout of bodies

Function bodies are written inline, often indented to fit the surrounding text. `dedent`
normalises one: line ends `\r\n` become `\n`, blank lines at either end are dropped, the
longest run of spaces and tabs that starts every non-blank line is removed, blank lines
become empty and trailing spaces and tabs are cut. `indent` then puts four spaces before
every non-empty line, the depth of a statement in a generated function.

A line is blank when it holds only white space in the Unicode sense.
-/

namespace InlineC.Text.Layout

/-- Unicode white space. -/
def isSpace (c : Char) : Bool :=
  let n := c.toNat
  (9 ≤ n && n ≤ 13) || n == 32 || n == 0x85 || n == 0xA0 || n == 0x1680 ||
    (0x2000 ≤ n && n ≤ 0x200A) || n == 0x2028 || n == 0x2029 || n == 0x202F ||
    n == 0x205F || n == 0x3000

/-- A space or a tab, the characters of indentation. -/
def isIndent (c : Char) : Bool := c == ' ' || c == '\t'

/-- A line that holds only white space. -/
def isBlank (line : List Char) : Bool := line.all isSpace

/-- Replace every `\r\n` by `\n`. -/
def joinCrLf : List Char → List Char
  | '\r' :: '\n' :: rest => '\n' :: joinCrLf rest
  | c :: rest => c :: joinCrLf rest
  | [] => []

/-- Split a text at every newline; a text without one is one line. -/
def lines (cs : List Char) : List (List Char) := cs.splitOn '\n'

/-- Join lines with newlines. -/
def unlines (ls : List (List Char)) : List Char := List.intercalate ['\n'] ls

/-- The longest common prefix of two lists. -/
def commonPrefix : List Char → List Char → List Char
  | a :: as, b :: bs => if a = b then a :: commonPrefix as bs else []
  | _, _ => []

/-- The indentation shared by all non-blank lines. -/
def sharedIndent (ls : List (List Char)) : List Char :=
  match (ls.filter (fun l => !isBlank l)).map (List.takeWhile isIndent) with
  | [] => []
  | first :: rest => rest.foldl commonPrefix first

/-- Lines without blank lines at either end. -/
def trimBlankEnds (ls : List (List Char)) : List (List Char) :=
  ((ls.dropWhile isBlank).reverse.dropWhile isBlank).reverse

/-- One line of a dedented body. -/
def dedentLine (pre : List Char) (line : List Char) : List Char :=
  if isBlank line then []
  else ((line.drop pre.length).reverse.dropWhile isIndent).reverse

/-- The lines of a dedented body. -/
def dedentLines (s : String) : List (List Char) :=
  let ls := trimBlankEnds (lines (joinCrLf s.toList))
  ls.map (dedentLine (sharedIndent ls))

/-- A body without its common indentation and blank margins. -/
def dedent (s : String) : String := String.ofList (unlines (dedentLines s))

/-- A dedented body with four spaces before each non-empty line. -/
def indent (s : String) : String :=
  String.ofList (unlines ((dedentLines s).map fun l => if l.isEmpty then [] else "    ".toList ++ l))

example : dedent "\n    a\n      b\n\n    c  \n  " = "a\n  b\n\nc" := by decide +kernel

end InlineC.Text.Layout
