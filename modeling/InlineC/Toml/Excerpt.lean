import InlineC.Toml.Syntax

/-!
# Where an error is

An error that points into a document is told by its line and column, both counted from one,
the column in bytes. A fuller report shows the line of the error with up to three lines of
context on each side, each line numbered, and under the error's line a row of `~` beneath
the stretch with the message after it:

```
1| name = "mix"
2| colour = 1
 | ~~~~~~ missing field
```

Numbers are right-aligned to the width of the last numbered line after the error. That
width is computed before the error's own line is counted, so an error on the last line of a
document can be wider than the others.
-/

namespace InlineC.Toml

/-- The line and column just after some bytes, both counted from one. -/
def positionAfter (bs : Bytes) : Nat × Nat :=
  bs.foldl (fun (acc : Nat × Nat) (b : UInt8) =>
    if b == 10 then (acc.1 + 1, 1) else (acc.1, acc.2 + 1)) (1, 1)

/-- The line and column of an offset into a document. -/
def position (doc : Bytes) (offset : Nat) : Nat × Nat := positionAfter (doc.take offset)

/-- The lines before an offset, nearest first: the part of the error's line before it, then
up to three whole lines. The first line of the document is left out when it is empty. -/
def linesBefore (doc : Bytes) (offset : Nat) : List Bytes :=
  let segments := ((doc.take offset).splitOn 10).reverse
  let segments := match segments.getLast? with
    | some [] => segments.dropLast
    | _ => segments
  segments.take 4

/-- The lines after an offset: the rest of the error's line, then up to three whole lines.
The last line is left out when it is empty. -/
def linesAfter (doc : Bytes) (offset : Nat) : List Bytes :=
  let segments := (doc.drop offset).splitOn 10
  let segments := match segments.getLast? with
    | some [] => segments.dropLast
    | _ => segments
  segments.take 4

/-- A line number right-aligned to a width. -/
def lineNumber (width line : Nat) : String :=
  let s := toString line
  String.ofList (List.replicate (width - s.length) ' ') ++ s

/-- The text of bytes. -/
def bytesText (b : Bytes) : String := Utf8.toStringLossy b

/-- A numbered context line: the number, a bar, and the line after a space if it is not
empty. -/
def contextLine (width line : Nat) (text : Bytes) : String :=
  lineNumber width line ++ "|" ++ (if text.isEmpty then "" else " " ++ bytesText text)

/-- The report of an error with the lines around it. -/
def excerpt (doc : Bytes) (err : Located) : String :=
  let highlight := (doc.drop err.span.start).take err.span.len
  let (row, _) := position doc err.span.start
  let before := linesBefore doc err.span.start
  let after := linesAfter doc (err.span.start + err.span.len)
  let width := (toString (row + after.length - 1)).length
  let earlier := ((List.range before.length).drop 1).reverse.map fun i =>
    contextLine width (row - i) (before.getD i []) ++ "\n"
  let lead := before.headD []
  let errorLine := lineNumber width row ++ "| " ++ bytesText lead ++ bytesText highlight ++
    bytesText (after.headD []) ++ "\n"
  let marks := String.ofList (List.replicate width ' ') ++ "| " ++
    String.ofList (List.replicate lead.length ' ') ++
    String.ofList (List.replicate highlight.length '~') ++
    (if err.message.isEmpty then "" else " " ++ err.message)
  let later := ((List.range after.length).drop 1).map fun i =>
    "\n" ++ contextLine width (row + i) (after.getD i [])
  String.join earlier ++ errorLine ++ marks ++ String.join later

end InlineC.Toml
