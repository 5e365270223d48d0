/-!
# Slash-separated paths

Paths are handled as text, the way a Unix system names files: `clean` gives the shortest
name of the same file by lexical rules alone. It drops empty and `.` elements, takes `..`
back over the element before it, and drops `..` right after the root. An empty result is `.`.
-/

namespace InlineC.Path

/-- The elements of a path after cleaning, `..` kept where nothing precedes it to undo. -/
def cleanElements (rooted : Bool) : List String → List String → List String
  | out, [] => out.reverse
  | out, e :: rest =>
    if e.isEmpty || e == "." then cleanElements rooted out rest
    else if e == ".." then
      match out with
      | prev :: more => if prev == ".." then cleanElements rooted (e :: out) rest
                        else cleanElements rooted more rest
      | [] => if rooted then cleanElements rooted [] rest else cleanElements rooted [e] rest
    else cleanElements rooted (e :: out) rest

/-- Whether a path starts at the root. -/
def isAbsolute (p : String) : Bool := p.startsWith "/"

/-- The shortest path naming the same file. -/
def clean (p : String) : String :=
  if p.isEmpty then "." else
  let rooted := isAbsolute p
  let body := "/".intercalate (cleanElements rooted [] (p.splitOn "/"))
  let out := (if rooted then "/" else "") ++ body
  if out.isEmpty then "." else out

/-- The directory of a path: all but its last element, cleaned. -/
def dir (p : String) : String :=
  let parts := p.splitOn "/"
  match parts.dropLast with
  | [] => "."
  | front => clean ("/".intercalate front ++ "/")

/-- Join two paths with a separator and clean the result; an empty part is left out. -/
def join (a b : String) : String :=
  if a.isEmpty then clean b else if b.isEmpty then clean a else clean (a ++ "/" ++ b)

/-- The last element of a path. -/
def base (p : String) : String := ((p.splitOn "/").getLast?).getD p

end InlineC.Path
