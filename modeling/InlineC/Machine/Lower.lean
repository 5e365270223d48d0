import Std.Data.HashMap
import InlineC.Machine.Code
import InlineC.Lang.Arith

/-!
# Lowering checked functions

A checked function becomes machine code. Its locals are placed first: one that holds a
scalar of at most 64 bits and whose address is never taken gets a register; every other
one gets octets of the frame, aligned for it. Expressions become operations in evaluation
order, with the operands of a call evaluated from the last to the first, as the target's
compiler does; the logical operators and the conditional become jumps. Statements become
jumps too: a loop tests at its top or, for `do`, at its bottom, and a switch jumps through
a table of its case ranges.

Leaving a block, by its end or by `break`, `continue` or `return`, runs the cleanups of the
objects it declared, innermost first.
-/

namespace InlineC.Machine

open InlineC.Lang

/-- The state of lowering one function. -/
structure LowerState where
  ops : Array Op := #[]
  /-- Where each label stands, by label number. -/
  labels : Array Nat := #[]
  named : Std.HashMap String Nat := {}
  caseLabels : Std.HashMap Nat Nat := {}
  /-- Where `break` and `continue` go, with how many blocks were open there. -/
  breaks : List (Nat × Nat) := []
  continues : List (Nat × Nat) := []
  /-- The cleanups of the open blocks, innermost first. -/
  cleanups : List (List TExpr) := []
  deriving Inhabited

/-- Lowering, failing when the function nests too deeply. -/
abbrev LM := StateT LowerState (Except String)

/-- Where each local of a function lives, and the frame size. -/
def placeLocals (locals : Array Local) : Array Slot × Nat × Nat := Id.run do
  let mut slots : Array Slot := #[]
  let mut regs := 0
  let mut off := 0
  for l in locals do
    match l.kind with
    | some _ =>
      if l.addressed then
        off := alignUp off (max l.align 1)
        slots := slots.push (.mem off)
        off := off + l.size
      else
        slots := slots.push (.reg regs)
        regs := regs + 1
    | none =>
      off := alignUp off (max l.align 1)
      slots := slots.push (.mem off)
      off := off + l.size
  pure (slots, regs, alignUp off 16)

namespace Lower

/-- Add an operation. -/
def emit (op : Op) : LM PUnit := modify fun s => { s with ops := s.ops.push op }

/-- A new label. -/
def newLabel : LM Nat := do
  let s ← get
  set { s with labels := s.labels.push 0 }
  pure s.labels.size

/-- Place a label at the next operation. -/
def place (l : Nat) : LM PUnit :=
  modify fun s => { s with labels := s.labels.set! l s.ops.size }

/-- The label of a named label of the function. -/
def namedLabel (n : String) : LM Nat := do
  match (← get).named.get? n with
  | some l => pure l
  | none =>
    let l ← newLabel
    modify fun s => { s with named := s.named.insert n l }
    pure l

/-- The label of a case of a switch, by number. -/
def caseLabel (n : Nat) : LM Nat := do
  match (← get).caseLabels.get? n with
  | some l => pure l
  | none =>
    let l ← newLabel
    modify fun s => { s with caseLabels := s.caseLabels.insert n l }
    pure l

/-- The frame offset of a local in memory; zero for a register one. -/
def offsetOf (slots : Array Slot) (id : Nat) : Nat :=
  match slots[id]? with
  | some (.mem off) => off
  | _ => 0

/-- The result class with its temporary object given as a frame offset. -/
def placeRet (slots : Array Slot) : RetClass → RetClass
  | .wide k tmp => .wide k (offsetOf slots tmp)
  | .record size tmp => .record size (offsetOf slots tmp)
  | r => r

/-- The reference of a symbol. -/
def refOf (resolve : Sym → Ref) (s : Sym) : Ref := resolve s

/-- The kind of the value a local holds, for reading it from memory. -/
def kindOf (locals : Array Local) (id : Nat) : NumKind :=
  ((locals[id]?).bind (·.kind)).getD .u64

/-- Whether a kind is an integer kind of at most 64 bits. -/
def narrowInt (k : NumKind) : Bool := !k.isFloat && !k.wide && k != .bool

/-- The value of a constant operand, a narrow conversion of a constant included. -/
def constValue? : TExpr → Option UInt64
  | .const _ v => some v
  | .conv s d _ (.const _ v) => if s.wide || d.wide then none else some (Lang.Arith.convNarrow s d v)
  | _ => none

/-- A step of a local by a constant: the local, the kind and the addend, when an expression
adds a constant to a local of an integer kind or subtracts one from it. The addend of a
subtraction is the constant's negation, which the kind's wrapping makes the same. -/
def increment? : TExpr → Option (Nat × NumKind × UInt64)
  | .binary .add k _ (.local id) c =>
    if narrowInt k then (constValue? c).map fun v => (id, k, v) else none
  | .binary .sub k _ (.local id) c =>
    if narrowInt k then (constValue? c).map fun v => (id, k, 0 - v) else none
  | _ => none

section

variable (resolve : Sym → Ref) (locals : Array Local) (slots : Array Slot)

mutual

/-- Lower an expression: its operations leave its value on the stack. -/
def expr : Nat → TExpr → LM PUnit
  | 0, _ => throw "expression nested too deeply"
  | fuel + 1, e =>
    match e with
    | .const _ v => emit (.push v)
    | .wideConst _ tmp lo hi => emit (.wideConst (offsetOf slots tmp) lo hi)
    | .sym s off => emit (.ref (refOf resolve s) off)
    | .local id =>
      match slots[id]? with
      | some (.reg r) => emit (.reg r)
      | some (.mem off) => do
        emit (.frame off)
        emit (.load (kindOf locals id))
      | none => throw "unknown local"
    | .setLocal id v =>
      match slots[id]? with
      | some (.reg r) => do
        expr fuel v
        emit (.teeReg r)
      | some (.mem off) => do
        emit (.frame off)
        expr fuel v
        emit (.store (kindOf locals id))
      | none => throw "unknown local"
    | .addr id => emit (.frame (offsetOf slots id))
    | .frame off => emit (.frame off)
    | .load k a => do
      expr fuel a
      emit (.load k)
    | .store k a v => do
      expr fuel a
      expr fuel v
      emit (.store k)
    | .loadBits k a pos w => do
      expr fuel a
      emit (.loadBits k pos w)
    | .storeBits k a pos w v => do
      expr fuel a
      expr fuel v
      emit (.storeBits k pos w)
    | .copy n d s => do
      expr fuel d
      expr fuel s
      emit (.copy n)
    | .zero n d => do
      expr fuel d
      emit (.zero n)
    | .conv s d tmp a =>
      match constValue? e with
      | some v => emit (.push v)
      | none => do
        expr fuel a
        emit (.conv s d (if d.wide then offsetOf slots tmp else 0))
    | .unary op k tmp a => do
      expr fuel a
      emit (.unary op k (if k.wide then offsetOf slots tmp else 0))
    | .binary op k tmp a b => do
      expr fuel a
      expr fuel b
      emit (.binary op k (if k.wide && !op.isCompare then offsetOf slots tmp else 0))
    | .truth k a => do
      expr fuel a
      emit (.truth k)
    | .land a b => do
      let lFalse ← newLabel
      let lEnd ← newLabel
      expr fuel a
      emit (.jumpIfNot lFalse)
      expr fuel b
      emit (.jump lEnd)
      place lFalse
      emit (.push 0)
      place lEnd
    | .lor a b => do
      let lTrue ← newLabel
      let lEnd ← newLabel
      expr fuel a
      emit (.jumpIf lTrue)
      expr fuel b
      emit (.jump lEnd)
      place lTrue
      emit (.push 1)
      place lEnd
    | .cond c a b => do
      let lElse ← newLabel
      let lEnd ← newLabel
      expr fuel c
      emit (.jumpIfNot lElse)
      expr fuel a
      emit (.jump lEnd)
      place lElse
      expr fuel b
      place lEnd
    | .seq a b => do
      effect fuel a
      expr fuel b
    | .call f args classes fixed ret => do
      expr fuel f
      for a in args.reverse do expr fuel a
      emit (.call args.length classes.toArray fixed (placeRet slots ret))
    | .vaStart ap => do
      expr fuel ap
      emit .vaStart
    | .vaArg ap c tmp => do
      expr fuel ap
      emit (.vaArg c (offsetOf slots tmp))
    | .alloca n => do
      expr fuel n
      emit .alloca
    | .builtin b args => do
      for a in args do expr fuel a
      emit (.builtin b args.length)
    | .stmts body result => do
      stmtList fuel body
      expr fuel result

/-- Lower an expression evaluated for its effects only. -/
def effect : Nat → TExpr → LM PUnit
  | 0, _ => throw "expression nested too deeply"
  | fuel + 1, e =>
    match e with
    | .setLocal id v =>
      match slots[id]? with
      | some (.reg r) =>
        match increment? v with
        | some (id', k, c) =>
          if id == id' && kindOf locals id == k then emit (.addReg r k c)
          else do
            expr fuel v
            emit (.setReg r)
        | none => do
          expr fuel v
          emit (.setReg r)
      | _ => do
        expr fuel e
        emit .pop
    | .seq a b => do
      effect fuel a
      effect fuel b
    | .const .. => pure ()
    | _ => do
      expr fuel e
      emit .pop

/-- Run the cleanups of the innermost `n` open blocks. -/
def unwind : Nat → Nat → LM PUnit
  | 0, _ => throw "statement nested too deeply"
  | fuel + 1, n => do
    let open_ := (← get).cleanups
    for cs in open_.take n do
      for c in cs do effect fuel c

/-- Lower a statement. -/
def stmt : Nat → TStmt → LM PUnit
  | 0, _ => throw "statement nested too deeply"
  | fuel + 1, s =>
    match s with
    | .expr e => effect fuel e
    | .block ss cs => do
      modify fun st => { st with cleanups := cs :: st.cleanups }
      stmtList fuel ss
      modify fun st => { st with cleanups := st.cleanups.drop 1 }
      for c in cs do effect fuel c
    | .ite c t e => do
      let lElse ← newLabel
      let lEnd ← newLabel
      expr fuel c
      emit (.jumpIfNot lElse)
      stmt fuel t
      emit (.jump lEnd)
      place lElse
      stmt fuel e
      place lEnd
    | .loop c body step testFirst => do
      let lTop ← newLabel
      let lCont ← newLabel
      let lEnd ← newLabel
      let depth := (← get).cleanups.length
      modify fun st => { st with
        breaks := (lEnd, depth) :: st.breaks, continues := (lCont, depth) :: st.continues }
      if testFirst then
        place lTop
        match c with
        | some c => do
          expr fuel c
          emit (.jumpIfNot lEnd)
        | none => pure ()
        stmt fuel body
        place lCont
        match step with
        | some x => effect fuel x
        | none => pure ()
        emit (.jump lTop)
      else
        place lTop
        stmt fuel body
        place lCont
        match step with
        | some x => effect fuel x
        | none => pure ()
        match c with
        | some c => do
          expr fuel c
          emit (.jumpIf lTop)
        | none => emit (.jump lTop)
      place lEnd
      modify fun st => { st with breaks := st.breaks.drop 1, continues := st.continues.drop 1 }
    | .ret e => do
      match e with
      | some e => expr fuel e
      | none => pure ()
      unwind fuel (← get).cleanups.length
      emit (if e.isSome then .ret else .retVoid)
    | .brk => do
      match (← get).breaks with
      | (l, depth) :: _ => do
        unwind fuel ((← get).cleanups.length - depth)
        emit (.jump l)
      | [] => throw "break outside a loop or switch"
    | .cont => do
      match (← get).continues with
      | (l, depth) :: _ => do
        unwind fuel ((← get).cleanups.length - depth)
        emit (.jump l)
      | [] => throw "continue outside a loop"
    | .switch e k cases dflt body => do
      let lEnd ← newLabel
      expr fuel e
      let mut table : Array (UInt64 × UInt64 × Nat) := #[]
      for (lo, hi, n) in cases do
        table := table.push (lo, hi, ← caseLabel n)
      let d ← match dflt with
        | some n => caseLabel n
        | none => pure lEnd
      emit (.switch k table d)
      let depth := (← get).cleanups.length
      modify fun st => { st with breaks := (lEnd, depth) :: st.breaks }
      stmt fuel body
      modify fun st => { st with breaks := st.breaks.drop 1 }
      place lEnd
    | .caseLabel n => do place (← caseLabel n)
    | .label n => do place (← namedLabel n)
    | .goto n => do emit (.jump (← namedLabel n))
    | .gotoAddr e => do
      expr fuel e
      emit (.fault "computed goto is not supported")

/-- Lower statements in order. -/
def stmtList : Nat → List TStmt → LM PUnit
  | 0, _ => throw "statement nested too deeply"
  | fuel + 1, ss => do
    for s in ss do stmt fuel s

end

end

/-- Replace label numbers by operation indices. -/
def resolveLabels (labels : Array Nat) (op : Op) : Op :=
  let dest := fun (l : Nat) => labels.getD l 0
  match op with
  | .jump l => .jump (dest l)
  | .jumpIf l => .jumpIf (dest l)
  | .jumpIfNot l => .jumpIfNot (dest l)
  | .switch k cases d => .switch k (cases.map fun (lo, hi, l) => (lo, hi, dest l)) (dest d)
  | op => op

end Lower

/-- The depth of nesting lowering allows. -/
def lowerDepth : Nat := 100000

/-- Lower a checked function, given how its symbols resolve. -/
def lowerFunction (resolve : Sym → Ref) (f : Function) : Except String Code := do
  let (slots, regs, frameSize) := placeLocals f.locals
  let run : LM PUnit := do
    Lower.stmt resolve f.locals slots lowerDepth f.body
    Lower.emit .retVoid
  let ((), st) ← run.run {}
  let ops := st.ops.map (Lower.resolveLabels st.labels)
  let params := f.params.toArray.map fun (id, c) => (slots.getD id (.reg 0), c)
  pure {
    name := f.name, ops, regs, frameSize, params, variadic := f.variadic, ret := f.ret,
    exported := f.exported }

end InlineC.Machine
