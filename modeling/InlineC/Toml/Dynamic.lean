import InlineC.Toml.Parse
import InlineC.Toml.Seen
import InlineC.Toml.Number
import InlineC.Toml.Date

/-!
# Decoding TOML without a target

A document decoded without a record type becomes a table of plain values: strings,
integers, floats, truth values, dates and times, arrays and tables. Nothing can fail to
fit, so only syntax, redefinitions and malformed numbers fail, in document order.

The top-level table keeps its keys as written. Tables that headers open are kept as empty
tables under the root: what they hold is not needed by the settings read from documents.
-/

namespace InlineC.Toml

/-- A value decoded without a target. -/
inductive Dyn where
  | str (s : String)
  | int (i : Int)
  | float (x : Binary64)
  | bool (b : Bool)
  | date (form : DateForm) (text : String)
  | array (items : List Dyn)
  | table (entries : List (String × Dyn))

/-- Set a value at a path of keys in a table, making the tables on the way. -/
def insertPath : List String → Dyn → List (String × Dyn) → List (String × Dyn)
  | [], _, t => t
  | [k], v, t => (t.filter (·.1 != k)) ++ [(k, v)]
  | k :: ks, v, t =>
    let inner := match t.lookup k with
      | some (.table es) => es
      | _ => []
    (t.filter (·.1 != k)) ++ [(k, .table (insertPath ks v inner))]

/-- The names of a key's parts. -/
def keyNames (k : Key) : List String := k.map fun p => Utf8.toStringLossy p.name

mutual

/-- Decode a value, checking its numbers. -/
def dynValue : Nat → Value → Except Located Dyn
  | 0, _ => .error ⟨⟨0, 0⟩, "value nested too deeply"⟩
  | fuel + 1, v =>
    match v with
    | .string t _ => .ok (.str (Utf8.toStringLossy t))
    | .integer t sp => (checkInteger t sp.start).map .int
    | .float t sp => (checkFloat t sp.start).map .float
    | .bool b _ => .ok (.bool b)
    | .dateTime f t sp => (checkDateTime f t sp.start).map fun () => .date f (Utf8.toStringLossy t)
    | .array items => (dynValues fuel items).map .array
    | .inlineTable entries _ => (dynEntries fuel [] entries).map .table

/-- Decode the items of an array. -/
def dynValues : Nat → List Value → Except Located (List Dyn)
  | 0, _ => .error ⟨⟨0, 0⟩, "value nested too deeply"⟩
  | _, [] => .ok []
  | fuel + 1, v :: rest => do pure ((← dynValue fuel v) :: (← dynValues fuel rest))

/-- Decode the entries of an inline table into a table. -/
def dynEntries : Nat → List (String × Dyn) → List (Key × Value) → Except Located (List (String × Dyn))
  | 0, _, _ => .error ⟨⟨0, 0⟩, "value nested too deeply"⟩
  | _, t, [] => .ok t
  | fuel + 1, t, (k, v) :: rest => do
    let d ← dynValue fuel v
    dynEntries fuel (insertPath (keyNames k) d t) rest

end

/-- What decoding a document keeps: its redefinition checks, its top-level table, and
whether key-value pairs still go to the top level. -/
structure DynState where
  seen : Seen := {}
  root : List (String × Dyn) := []
  atRoot : Bool := true

/-- Decode one expression. Errors are given as their messages. -/
def dynExpression (fuel : Nat) (st : DynState) (e : Expr) : Except String DynState := do
  let (seen, _) ← st.seen.check e
  let st := { st with seen }
  match e with
  | .keyValue k v =>
    let d ← (dynValue fuel v).mapError fun err => "toml: " ++ err.message
    if st.atRoot then pure { st with root := insertPath (keyNames k) d st.root } else pure st
  | .table k =>
    let root := match keyNames k with
      | top :: _ => if (st.root.lookup top).isSome then st.root else st.root ++ [(top, .table [])]
      | [] => st.root
    pure { st with root, atRoot := false }
  | .arrayTable k =>
    let root := match keyNames k with
      | [top] =>
        match st.root.lookup top with
        | some (.array items) => insertPath [top] (.array (items ++ [.table []])) st.root
        | _ => st.root ++ [(top, .array [.table []])]
      | top :: _ => if (st.root.lookup top).isSome then st.root else st.root ++ [(top, .table [])]
      | [] => st.root
    pure { st with root, atRoot := false }

/-- Decode a document into its top-level table, or give the message of its first error. -/
def decodeDynamic (doc : Bytes) : Except String (List (String × Dyn)) := do
  let (exprs, syntaxError) := readDocument doc
  let st ← exprs.foldlM (dynExpression (doc.length + 1)) {}
  match syntaxError with
  | some e => throw ("toml: " ++ e.message)
  | none => pure st.root

end InlineC.Toml
