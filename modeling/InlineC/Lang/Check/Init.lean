import InlineC.Lang.Check.Ops

/-!
# Initializers

An initializer gives an object its value, as a list of entries: a value of a type at an
offset, a bit-field, or octets of a string literal. The object is zero first, so what the
initializer leaves out is zero.

A braced list initializes an aggregate's subobjects in order. A designator (`.x =`, `[3] =`,
`[1 ... 4] =`) moves to the subobject it names, and the elements after it continue from
there. When an element of an aggregate is itself an aggregate and the item is not braced,
the braces are elided: the inner aggregate takes as many items as it has subobjects, and
the rest go on to the outer one. A structure is initialized from an expression of its own
type, and a character array from a string literal, braced or not; an array of unknown length
takes its length from its initializer.

Expressions are checked by the function given, so that initializers can be checked from
within the expression checker itself.
-/

namespace InlineC.Lang.Check

open Ast

/-- Where a value of an initializer goes: a subobject's type and offset, and for a bit-field
its unit's kind, position and width. -/
structure Slot where
  ty : CType
  off : Nat
  bits : Option (NumKind × Nat × Nat) := none
  deriving Inhabited

/-- The entry storing a value into a slot. -/
def Slot.entry (s : Slot) (e : TExpr) : InitEntry :=
  match s.bits with
  | some (k, pos, w) => .bits s.off k pos w e
  | none => .value s.off s.ty e

/-- Whether a type is an aggregate, initialized element by element. -/
def isAggregate : CType → Bool
  | .array .. | .record _ => true
  | _ => false

/-- The slots of a record's members at an offset, with their names, leaving out unnamed
bit-fields, which initializers skip. -/
def recordSlots (recs : Records) (id off : Nat) : Array (Option String × Slot) :=
  match recs[id]? with
  | none => #[]
  | some r =>
    (r.members.filter fun m => m.name.isSome || m.bits.isNone).map fun m =>
      let bits := m.bits.map fun (pos, w) =>
        (unitKind (m.type.sizeOr0 recs) pos w false, pos, w)
      (m.name, { ty := m.type, off := off + m.offset, bits })

/-- The slot a field designator names: its index, and whether the name is the slot's own
(otherwise the slot is an anonymous member that contains it). -/
def slotNamed (recs : Records) (slots : Array (Option String × Slot)) (n : String) :
    Option (Nat × Bool) :=
  match slots.findIdx? (·.1 == some n) with
  | some i => some (i, true)
  | none =>
    slots.findIdx? (fun (name, s) => name.isNone && match s.ty with
      | .record rid => (findMember recs 16 rid n).isSome
      | _ => false) |>.map (·, false)

/-- A bit-field slot reads its unit with the signedness of its type. -/
def signSlot (tg : Target) (s : Slot) : Slot :=
  match s.bits with
  | some (k, pos, w) =>
    let signed := (s.ty.intKind?.map (·.signedIn tg)).getD false
    let k' := if signed then NumKind.ofInt k.size true else k
    { s with bits := some (k', pos, w) }
  | none => s

/-- The value of a constant index of an initializer. -/
def constIndex (ex : Expr → CM Val) (e : Expr) : CM Nat := do
  let v ← rvalue (← ex e)
  if !v.ty.isInteger then err "array index in initializer not of integer type"
  match foldInt v.e with
  | some i => if i < 0 then err "array index in initializer exceeds array bounds" else pure i.toNat
  | none => err "nonconstant array index in initializer"

/-- An array type given its length when it had none. -/
def completeArray (t : CType) (n : Nat) : CType :=
  match t with
  | .array elem none => .array elem (some n)
  | t => t

/-- Whether an index is past the end of an array of known length. -/
def pastEnd (len : Option Nat) (i : Nat) : Bool :=
  match len with
  | some n => n ≤ i
  | none => false

mutual

/-- Initialize one subobject from the first item, its own designators already applied,
and by brace elision from those after it; gives the entries and the items left. -/
def initSlot (ex : Expr → CM Val) : Nat → Slot → List InitItem →
    CM (Array InitEntry × List InitItem)
  | 0, _, _ => err "initializer nested too deeply"
  | fuel + 1, slot, items =>
    match items with
    | [] => pure (#[], [])
    | InitItem.mk _ v :: rest =>
      match v with
      | .list sub => do
        if isAggregate slot.ty then
          let (es, _) ← initBraced ex fuel slot.ty slot.off sub
          pure (es, rest)
        else
          match sub with
          | [] => pure (#[], rest)
          | first :: more => do
            if !more.isEmpty then pedwarn
            match first with
            | InitItem.mk _ (.list _) => pedwarn
            | _ => pure ()
            let (es, _) ← initSlot ex fuel slot [first]
            pure (es, rest)
      | .expr e => do
        match slot.ty with
        | .array elem len =>
          let str ← match stringPiecesOf e with
            | some ps => stringInit elem len slot.off ps
            | none => pure none
          match str with
          | some (en, _) => pure (#[en], rest)
          | none =>
            let (es, rest', _) ← initList ex fuel slot.ty slot.off items false false
            pure (es, rest')
        | .record id =>
          let v ← ex e
          if v.ty == .record id then pure (#[slot.entry (← rvalue v).e], rest)
          else
            let (es, rest', _) ← initList ex fuel slot.ty slot.off items false false
            pure (es, rest')
        | .vla .. => err "variable-sized object may not be initialized"
        | _ =>
          let v ← ex e
          let c ← assignConvert v slot.ty
          pure (#[slot.entry c], rest)

/-- Initialize the subobjects of an aggregate from items, in order or by designators. At
the top of a braced list (`top`) every item belongs to the aggregate and ones past its end
are excess; within elided braces the list stops at the aggregate's end or at a designator,
unless `lead` says the first item's designators are this aggregate's. Gives the entries,
the items left and how many array elements were reached. -/
def initList (ex : Expr → CM Val) : Nat → CType → Nat → List InitItem → Bool → Bool →
    CM (Array InitEntry × List InitItem × Nat)
  | 0, _, _, _, _, _ => err "initializer nested too deeply"
  | fuel + 1, ty, off, items, top, lead => do
    let recs ← records
    let tg ← target
    let mut out : Array InitEntry := #[]
    let mut rest := items
    let mut first := true
    match ty with
    | .array elem len =>
      let esz := elem.sizeOr0 recs
      let mut idx := 0
      let mut count := 0
      for _ in [0:items.length + len.getD items.length + 1] do
        match rest with
        | [] => break
        | InitItem.mk ds v :: more =>
          if !ds.isEmpty then
            if !top && !(first && lead) then break
            match ds with
            | .index e :: dsr =>
              let i ← constIndex ex e
              if pastEnd len i then err "array index in initializer exceeds array bounds"
              let (es, rest') ← designate ex fuel { ty := elem, off := off + i * esz } dsr v more
              out := out ++ es
              rest := rest'
              idx := i + 1
            | .range lo hi :: dsr =>
              let a ← constIndex ex lo
              let b ← constIndex ex hi
              if pastEnd len b then err "array index range in initializer exceeds array bounds"
              for j in [a:b + 1] do
                let (es, _) ← designate ex fuel { ty := elem, off := off + j * esz } dsr v []
                out := out ++ es
              rest := more
              idx := b + 1
            | _ => err "field name not in record or union initializer"
          else if pastEnd len idx then
            if top then
              pedwarn
              rest := more
            else break
          else
            let (es, rest') ← initSlot ex fuel { ty := elem, off := off + idx * esz } rest
            out := out ++ es
            rest := rest'
            idx := idx + 1
          count := max count idx
          first := false
      pure (out, rest, count)
    | .record id =>
      let slots := recordSlots recs id off
      let union := (recs[id]?.map (·.union)).getD false
      let mut mi := 0
      for _ in [0:items.length + slots.size + 1] do
        match rest with
        | [] => break
        | InitItem.mk ds v :: more =>
          if !ds.isEmpty then
            if !top && !(first && lead) then break
            match ds with
            | .field n :: dsr =>
              match slotNamed recs slots n with
              | some (i, direct) =>
                let dsr' := if direct then dsr else .field n :: dsr
                let slot := signSlot tg (slots.getD i (none, default)).2
                let (es, rest') ← designate ex fuel slot dsr' v more
                out := out ++ es
                rest := rest'
                mi := i + 1
              | none => err ("unknown field '" ++ n ++ "' specified in initializer")
            | _ => err "array index in non-array initializer"
          else if mi ≥ slots.size || (union && mi ≥ 1) then
            if top then
              pedwarn
              rest := more
            else break
          else
            let slot := signSlot tg (slots.getD mi (none, default)).2
            let (es, rest') ← initSlot ex fuel slot rest
            out := out ++ es
            rest := rest'
            mi := mi + 1
          first := false
      pure (out, rest, 0)
    | _ => err "invalid initializer"

/-- Apply an item's remaining designators within a subobject, then initialize it from the
item and, by brace elision, from those after it. -/
def designate (ex : Expr → CM Val) : Nat → Slot → List Designator → Init → List InitItem →
    CM (Array InitEntry × List InitItem)
  | 0, _, _, _, _ => err "initializer nested too deeply"
  | fuel + 1, slot, ds, v, more =>
    match ds with
    | [] => initSlot ex fuel slot (InitItem.mk [] v :: more)
    | _ => do
      if isAggregate slot.ty then
        let (es, rest, _) ← initList ex fuel slot.ty slot.off (InitItem.mk ds v :: more) false true
        pure (es, rest)
      else err "designator in initializer for a scalar"

/-- Initialize an aggregate from a braced list; gives the entries and how many array
elements the list reached. A character array may be initialized from a braced string
literal. -/
def initBraced (ex : Expr → CM Val) : Nat → CType → Nat → List InitItem →
    CM (Array InitEntry × Nat)
  | 0, _, _, _ => err "initializer nested too deeply"
  | fuel + 1, ty, off, items => do
    let str ← match ty, items with
      | .array elem len, [InitItem.mk [] (.expr e)] =>
        match stringPiecesOf e with
        | some ps => stringInit elem len off ps
        | none => pure none
      | _, _ => pure none
    match str with
    | some (en, n) => pure (#[en], n)
    | none =>
      let (es, _, n) ← initList ex fuel ty off items true false
      pure (es, n)

end

/-- The entries of an object's initializer, and its type, completed when it was an array
of unknown length. -/
def initEntries (ex : Expr → CM Val) (fuel : Nat) (ty : CType) (init : Init) :
    CM (CType × Array InitEntry) := do
  match init with
  | .list items =>
    if ty.isVariable then err "variable-sized object may not be initialized"
    if isAggregate ty then
      let (es, n) ← initBraced ex fuel ty 0 items
      pure (completeArray ty n, es)
    else
      let (es, _) ← initSlot ex fuel { ty, off := 0 } [InitItem.mk [] (.list items)]
      pure (ty, es)
  | .expr e =>
    match ty with
    | .array elem len =>
      let str ← match stringPiecesOf e with
        | some ps => stringInit elem len 0 ps
        | none => pure none
      match str with
      | some (en, n) => pure (.array elem (some n), #[en])
      | none => err "invalid initializer"
    | .vla .. => err "variable-sized object may not be initialized"
    | _ =>
      let (es, _) ← initSlot ex fuel { ty, off := 0 } [InitItem.mk [] (.expr e)]
      pure (ty, es)

end InlineC.Lang.Check
