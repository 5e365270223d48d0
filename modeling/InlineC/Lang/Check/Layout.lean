import InlineC.Lang.Check.State

/-!
# Laying out structures and unions

Members are placed in order. An ordinary member goes at the next offset aligned for it; a
bit-field goes at the next free bit unless that would make it straddle a unit of its type's
alignment, and then at the start of the next such unit. A named bit-field raises the
structure's alignment to its type's; an unnamed one does not, and one of width zero only
moves the next member to a unit boundary. In a packed structure members are aligned to one
octet and bit-fields are packed bit by bit; `#pragma pack(n)` caps alignments at `n`.

A union places every member at offset zero. The size is rounded up to the alignment; an
empty structure has size zero, as GNU C gives it.
-/

namespace InlineC.Lang

/-- A member to lay out: its name, type, bit width, its own alignment request, and whether
it is packed. -/
structure MemberSpec where
  name : Option String
  type : CType
  width : Option Nat := none
  align : Option Nat := none
  packed : Bool := false
  deriving Repr, Inhabited

/-- The integer kind of the unit a bit-field is read through: its type's size when the
field lies within one unit of it, else eight octets. -/
def unitKind (typeSize pos width : Nat) (signed : Bool) : NumKind :=
  let size := if pos + width ≤ 8 * typeSize then typeSize else 8
  NumKind.ofInt (if size ≤ 1 then 1 else if size ≤ 2 then 2 else if size ≤ 4 then 4 else 8) signed

/-- Lay out members: the record's members, its size and alignment. `cap` is the packing
limit, `minAlign` an alignment the record asks for. -/
def layoutRecord (recs : Records) (union : Bool) (members : List MemberSpec) (cap : Option Nat)
    (minAlign : Nat) : Array Member × Nat × Nat := Id.run do
  let mut bitpos : Nat := 0
  let mut align : Nat := max minAlign 1
  let mut out : Array Member := #[]
  let mut maxSize : Nat := 0
  for m in members do
    let natural := m.type.align recs
    let size := m.type.sizeOr0 recs
    let capped := match cap with
      | some c => min natural (max c 1)
      | none => natural
    let a0 := if m.packed then 1 else capped
    let a := match m.align with
      | some r => max a0 r
      | none => a0
    let start := if union then 0 else bitpos
    match m.width with
    | some w =>
      let unit := 8 * (if m.packed then 1 else capped)
      if w == 0 then
        if !union then bitpos := alignUp bitpos (8 * natural)
      else
        let pos := if m.packed || unit == 0 then start
          else if start / unit != (start + w - 1) / unit then alignUp start unit else start
        -- the access unit: the type's size when the field fits one aligned unit of it
        let tsize := max size 1
        let unitOff := pos / (8 * tsize) * tsize
        let off := if pos - 8 * unitOff + w ≤ 8 * tsize then unitOff else pos / 8
        let member : Member :=
          { name := m.name, type := m.type, offset := off, bits := some (pos - 8 * off, w) }
        out := out.push member
        if m.name.isSome && !m.packed then align := max align capped
        if m.name.isSome && m.packed then align := max align 1
        if union then maxSize := max maxSize ((w + 7) / 8)
        else bitpos := pos + w
    | none =>
      let pos := alignUp start (8 * a)
      out := out.push { name := m.name, type := m.type, offset := pos / 8 }
      align := max align a
      if union then maxSize := max maxSize size
      else bitpos := pos + 8 * size
  let raw := if union then maxSize else (bitpos + 7) / 8
  pure (out, alignUp raw align, align)

end InlineC.Lang
