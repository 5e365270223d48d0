import InlineC.Toml.Syntax

/-!
# Keys a document has defined

A document may define each key once. A table may be opened by a header once, and tables
made implicitly (by a dotted key, or as the parent in a header) may be opened later, but
not after key-value pairs defined them: once another header follows, those tables count as
explicitly defined. An array-table header may repeat. Each repetition starts a fresh table,
so the keys under the previous one are forgotten.

The tracker keeps the tree of keys seen so far with what each was defined as, and the
table the following key-value pairs belong to. Inline tables are checked on their own,
against a fresh tree, since nothing outside may add to them.
-/

namespace InlineC.Toml

/-- What a key was defined as. -/
inductive KeyKind where
  | value | table | arrayTable
  deriving DecidableEq, Repr

/-- The name of a kind, as messages show it. -/
def KeyKind.name : KeyKind → String
  | .value => "value"
  | .table => "table"
  | .arrayTable => "array table"

/-- A key that was seen: its name, its kind, whether it was defined explicitly, whether a
key-value pair made it, and the keys seen under it. -/
inductive SeenKey where
  | mk (name : Bytes) (kind : KeyKind) (explicit : Bool) (byPair : Bool) (children : List SeenKey)

namespace SeenKey

/-- The name of a seen key. -/
def name : SeenKey → Bytes
  | .mk n _ _ _ _ => n

/-- The kind of a seen key. -/
def kind : SeenKey → KeyKind
  | .mk _ k _ _ _ => k

/-- Whether a seen key was defined explicitly. -/
def explicit : SeenKey → Bool
  | .mk _ _ e _ _ => e

/-- The keys seen under a key. -/
def children : SeenKey → List SeenKey
  | .mk _ _ _ _ cs => cs

/-- Replace the keys under a key. -/
def withChildren (cs : List SeenKey) : SeenKey → SeenKey
  | .mk n k e p _ => .mk n k e p cs

/-- The key seen under a key with a name. -/
def child? (s : SeenKey) (name : Bytes) : Option SeenKey := s.children.find? (·.name == name)

/-- A fresh key. -/
def fresh (name : Bytes) (kind : KeyKind) (explicit byPair : Bool) : SeenKey :=
  .mk name kind explicit byPair []

mutual

/-- Count the tables key-value pairs made as explicitly defined, in a key and below it. -/
def settle : SeenKey → SeenKey
  | .mk n k e p cs => .mk n k (e || p) false (settleAll cs)

/-- `settle` for each key of a list. -/
def settleAll : List SeenKey → List SeenKey
  | [] => []
  | c :: rest => settle c :: settleAll rest

end

/-- Change the key at a path of names below a key. -/
def update : List Bytes → (SeenKey → SeenKey) → SeenKey → SeenKey
  | [], f, s => f s
  | k :: ks, f, .mk n kd e p cs =>
    .mk n kd e p (cs.map fun c => if c.name == k then update ks f c else c)

/-- The key at a path of names below a key. -/
def get? : List Bytes → SeenKey → Option SeenKey
  | [], s => some s
  | k :: ks, s => (s.child? k).bind (get? ks)

/-- Add a key under the key at a path, unless one of its name is there. -/
def add (s : SeenKey) (path : List Bytes) (c : SeenKey) : SeenKey :=
  update path (fun p => if (p.child? c.name).isSome then p else p.withChildren (c :: p.children)) s

end SeenKey

/-- What the tracker knows: the tree of seen keys under the document's root, and the path of
the table that key-value pairs go to. -/
structure Seen where
  root : SeenKey := .fresh [] .table true false
  current : List Bytes := []

namespace Seen

/-- The text of a key's name in messages. -/
def keyText (b : Bytes) : String := Utf8.toStringLossy b

/-- Walk a key-value pair's key from a table, making the tables it passes through. Gives the
path of the key. -/
def walkPair (root : SeenKey) : List Bytes → List KeyPart → Except String (SeenKey × List Bytes)
  | path, [] => .ok (root, path)
  | path, [p] =>
    match (root.get? path).bind (·.child? p.name) with
    | some _ => .error ("toml: key " ++ keyText p.name ++ " is already defined")
    | none => .ok (root.add path (.fresh p.name .table false true), path ++ [p.name])
  | path, p :: rest =>
    match (root.get? path).bind (·.child? p.name) with
    | some e =>
      if e.kind != .table then
        .error ("toml: expected " ++ keyText p.name ++ " to be a table, not a " ++ e.kind.name)
      else if e.explicit then
        .error ("toml: cannot redefine table " ++ keyText p.name ++
          " that has already been explicitly defined")
      else walkPair root (path ++ [p.name]) rest
    | none => walkPair (root.add path (.fresh p.name .table false true)) (path ++ [p.name]) rest

mutual

/-- Check a key-value pair against the keys under the table at `path`, and record it. -/
def pair (root : SeenKey) (path : List Bytes) (key : Key) (v : Value) : Except String SeenKey := do
  let (root, here) ← walkPair root path key
  let root := root.update here fun
    | .mk n _ e p cs => .mk n .value e p cs
  match v with
  | .inlineTable entries _ => do inlineTable entries; pure root
  | .array items => do array items; pure root
  | _ => pure root

/-- Check the entries of an inline table on their own. -/
def inlineTable : List (Key × Value) → Except String Unit
  | entries => entriesFrom (.fresh [] .table true false) entries

/-- Check entries in order against a tree of keys. -/
def entriesFrom (root : SeenKey) : List (Key × Value) → Except String Unit
  | [] => .ok ()
  | (k, v) :: rest => do
    let root ← pair root [] k v
    entriesFrom root rest

/-- Check the inline tables inside an array. -/
def array : List Value → Except String Unit
  | [] => .ok ()
  | v :: rest => do
    match v with
    | .inlineTable entries _ => inlineTable entries
    | .array items => array items
    | _ => pure ()
    array rest

end

/-- Walk a header's key up to its last part, making the tables it passes through. Gives the
path of the parent of the last part. -/
def walkHeader (root : SeenKey) : List Bytes → List KeyPart → Except String (SeenKey × List Bytes)
  | path, [] => .ok (root, path)
  | path, [_] => .ok (root, path)
  | path, p :: rest =>
    match (root.get? path).bind (·.child? p.name) with
    | some e =>
      if e.kind == .value then
        .error ("toml: expected " ++ keyText p.name ++ " to be a table, not a " ++ e.kind.name)
      else walkHeader root (path ++ [p.name]) rest
    | none => walkHeader (root.add path (.fresh p.name .table false false)) (path ++ [p.name]) rest

/-- Check a table header and make its table the current one. -/
def table (s : Seen) (key : Key) : Except String Seen := do
  let root := s.root.update s.current fun k => k.withChildren (SeenKey.settleAll k.children)
  let (root, parent) ← walkHeader root [] key
  let some last := key.getLast? | .ok s
  let path := parent ++ [last.name]
  match (root.get? parent).bind (·.child? last.name) with
  | some e =>
    if e.kind != .table then
      throw ("toml: key " ++ keyText last.name ++ " should be a table, not a " ++ e.kind.name)
    if e.explicit then throw ("toml: table " ++ keyText last.name ++ " already exists")
    let root := root.update path fun
      | .mk n k _ p cs => .mk n k true p cs
    pure { root, current := path }
  | none => pure { root := root.add parent (.fresh last.name .table true false), current := path }

/-- Check an array-table header and make its fresh table the current one. Tells also whether
the array table is new. -/
def arrayTable (s : Seen) (key : Key) : Except String (Seen × Bool) := do
  let root := s.root.update s.current fun k => k.withChildren (SeenKey.settleAll k.children)
  let (root, parent) ← walkHeader root [] key
  let some last := key.getLast? | .ok (s, false)
  let path := parent ++ [last.name]
  match (root.get? parent).bind (·.child? last.name) with
  | some e =>
    if e.kind != .arrayTable then
      -- the message names the kind where the key belongs, and the key where the kind does
      throw ("toml: key " ++ e.kind.name ++ " already exists as a " ++ keyText last.name ++
        ",  but should be an array table")
    pure ({ root := root.update path (·.withChildren []), current := path }, false)
  | none =>
    pure ({ root := root.add parent (.fresh last.name .arrayTable true false), current := path }, true)

/-- Check a top-level expression. Tells also whether it opens a new array table. -/
def check (s : Seen) : Expr → Except String (Seen × Bool)
  | .keyValue k v => do pure ({ s with root := ← pair s.root s.current k v }, false)
  | .table k => do pure (← s.table k, false)
  | .arrayTable k => s.arrayTable k

end Seen

end InlineC.Toml
