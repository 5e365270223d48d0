import InlineC.Machine.Objects
import InlineC.Lang.Fold
import InlineC.Num.Extended

/-!
# Running machine code

The machine runs a library's code against its image. Each call gets a frame: registers
for its register locals, and octets on the image's stack for the others, zeroed when the
call starts and given back when it returns. Operands live on one stack of values shared by
all calls.

Calls between functions of the library, and calls of the functions the machine provides
that call nothing back, run here without leaving the loop. A call the host must take part
in, through the callback trampoline or of a provided function that calls back into code,
stops the loop with what it asks; the caller of the loop does it, pushes the result and
runs the loop again from where it stopped.

A function taking extra arguments finds them as the x86-64 calling convention lays them
out: the general and vector registers saved in a register save area, and the rest in an
overflow area after it. `va_start` points an argument list at both, and `va_arg` reads from
the registers while they last, then from the overflow area.

Every step takes one unit of fuel; running out is a fault, as is an access outside memory,
an arithmetic trap and a call to an invalid address.
-/

namespace InlineC.Machine

open InlineC.Lang

/-- A call in progress. -/
structure Frame where
  fn : Nat
  pc : Nat
  /-- The first register of the call. -/
  base : Nat
  /-- The address of the call's frame. -/
  fp : UInt64
  /-- The stack top before the call. -/
  sp0 : Nat
  /-- The operand stack height before the call. -/
  height : Nat
  /-- Where a wide or structure result goes. -/
  sret : UInt64
  /-- The register save area of the extra arguments, and where reading them starts. -/
  va : UInt64
  vaGp : Nat
  vaFp : Nat
  deriving Inhabited

/-- The machine's state while running: operands, registers, the calls in progress with the
current one apart, and how many calls were in progress when this run started. -/
structure MState where
  stack : Array UInt64
  regs : Array UInt64
  frames : Array Frame
  cur : Frame
  bottom : Nat
  deriving Inhabited

namespace MState

/-- The operand `i` places below the top. -/
def peek (st : MState) (i : Nat) : UInt64 := st.stack[st.stack.size - 1 - i]!

/-- Push an operand. -/
def push (st : MState) (v : UInt64) : MState := { st with stack := st.stack.push v }

/-- Drop the top `n` operands. -/
def drop (st : MState) (n : Nat) : MState := { st with stack := st.stack.shrink (st.stack.size - n) }

/-- Replace the top `n` operands by one value. -/
def replace (st : MState) (n : Nat) (v : UInt64) : MState :=
  { st with stack := (st.stack.shrink (st.stack.size - n)).push v }

end MState

/-- Why the loop stopped, when nothing faulted. -/
inductive Exit where
  /-- The call the run started returned a value. -/
  | done (v : UInt64)
  /-- A provided function that calls back into code, with its arguments. -/
  | provided (name : String) (args : Array UInt64) (classes : Array ArgClass) (fixed : Option Nat)
  /-- A call through the host's trampoline. -/
  | host (handle args : UInt64)
  deriving Inhabited

/-- The provided functions that call back into code, which the loop's caller runs. -/
def callingBack : List String := ["cx_call", "cx_call_object", "cx_call_function", "qsort", "bsearch"]

namespace Step

/-- The stack's block grown, when it must be, to hold `top` octets; it at least doubles,
so that a deep run of calls grows it only a few times. -/
def growStack (m : Memory) (b top : Nat) : Memory :=
  let size := (m.blocks[b]?.map (·.size)).getD 0
  if top > size then m.grow b (max top (2 * size)) else m

/-- Reserve octets on the stack, zeroed and aligned to 16: their address. -/
def reserve (img : Image) (n : Nat) : Except Fault (Image × UInt64) :=
  let start := alignUp img.sp 16
  let top := start + alignUp n 16
  if top > stackLimit then .error ⟨"stack overflow"⟩
  else
    let b := img.stackBlock
    let addr := Memory.base b + start.toUInt64
    .ok ({ img with mem := (growStack img.mem b top).fillAt b start 0 (top - start), sp := top }, addr)

/-- Read the sixteen octets of a wide value. -/
def readWide (img : Image) (addr : UInt64) : Except Fault Nat := img.mem.read addr 16

/-- Write a wide value at a frame offset: its address. -/
def writeWide (img : Image) (addr : UInt64) (v : Nat) : Except Fault Image :=
  img.writeBytes addr (Memory.toLittle 16 v)

/-- Whether an extra argument of a class travels in a vector register. -/
def isFloatWord : ArgClass → Bool
  | .word k => k == .f32 || k == .f64
  | _ => false

/-- Whether an argument of a class takes a general register. -/
def isIntWord : ArgClass → Bool
  | .word k => !(k == .f32 || k == .f64)
  | _ => false

/-- Lay out extra arguments in a register save area and the overflow area after it. The
registers the fixed parameters took are skipped. -/
def layoutExtras (img : Image) (area : UInt64) (gp fp : Nat) (extras : List (UInt64 × ArgClass)) :
    Except Fault Image := do
  let mut img := img
  let mut g := gp
  let mut f := fp
  let mut ov : Nat := 176
  for (v, c) in extras do
    match c with
    | .word _ =>
      if isFloatWord c then
        if f < 8 then
          img ← img.store .u64 (area + (48 + 16 * f).toUInt64) v
          f := f + 1
        else
          img ← img.store .u64 (area + ov.toUInt64) v
          ov := ov + 8
      else
        if g < 6 then
          img ← img.store .u64 (area + (8 * g).toUInt64) v
          g := g + 1
        else
          img ← img.store .u64 (area + ov.toUInt64) v
          ov := ov + 8
    | .wide _ =>
      ov := alignUp ov 16
      img ← img.copy (area + ov.toUInt64) v 16
      ov := ov + 16
    | .record size _ =>
      img ← img.copy (area + ov.toUInt64) v size
      ov := ov + alignUp size 8
  pure img

/-- The octets extra arguments take in the overflow area, at most. -/
def extrasSize (extras : List (UInt64 × ArgClass)) : Nat :=
  extras.foldl (fun n (_, c) => n + match c with
    | .word _ => 8
    | .wide _ => 32
    | .record size _ => alignUp size 8) 0

/-- Put an argument value where a parameter of a class lives in memory. -/
def placeValue (img : Image) (c : ArgClass) (addr v : UInt64) : Except Fault Image :=
  match c with
  | .word k => img.store k addr v
  | .wide _ => img.copy addr v 16
  | .record size _ => img.copy addr v size

/-- Put argument values where the parameters live: in the call's registers from `base`, or
in its frame at `fp`. -/
def placeArgs (fp : UInt64) (base : Nat) (args : Array UInt64) :
    List ((Slot × ArgClass) × Nat) → Image → Array UInt64 → Except Fault (Image × Array UInt64)
  | [], img, regs => .ok (img, regs)
  | ((slot, c), i) :: rest, img, regs =>
    let v := args.getD i 0
    match slot with
    | .reg r => placeArgs fp base args rest img (regs.set! (base + r) v)
    | .mem off =>
      match placeValue img c (fp + off.toUInt64) v with
      | .ok img => placeArgs fp base args rest img regs
      | .error e => .error e

/-- Start a call of function `fn` of the library with argument values: the new state. -/
def enter (img : Image) (st : MState) (fn : Nat) (args : Array UInt64) (classes : Array ArgClass)
    (sret : UInt64) : Except Fault (Image × MState) :=
  match img.lib.functions[fn]? with
  | none => .error ⟨"call to an invalid address"⟩
  | some code =>
    let ⟨stack, regs, frames, cur, bottom⟩ := st
    let extras := (args.toList.zip classes.toList).drop code.params.size
    let vaSize := if code.variadic then 176 + extrasSize extras else 0
    let sp0 := img.sp
    match reserve img (code.frameSize + vaSize) with
    | .error e => .error e
    | .ok (img, fp) =>
      let base := regs.size
      match placeArgs fp base args code.params.toList.zipIdx img (regs ++ Array.replicate code.regs 0) with
      | .error e => .error e
      | .ok (img, regs) =>
        let fixedClasses := code.params.toList.map (·.2)
        let gp := 8 * (fixedClasses.filter isIntWord).length
        let fpo := 48 + 16 * (fixedClasses.filter isFloatWord).length
        let va := if code.variadic then fp + code.frameSize.toUInt64 else 0
        let frame : Frame := {
          fn, pc := 0, base, fp, sp0, height := stack.size, sret, va, vaGp := gp, vaFp := fpo }
        let st : MState := { stack, regs, frames := frames.push cur, cur := frame, bottom }
        if code.variadic then
          match layoutExtras img va (gp / 8) ((fpo - 48) / 16) extras with
          | .ok img => .ok (img, st)
          | .error e => .error e
        else .ok (img, st)

/-- The class of a floating kind's patterns. -/
def classOf (k : NumKind) (v : Nat) : BinaryFormat.Class :=
  match k with
  | .f80 => Extended.classify v
  | .f32 => BinaryFormat.binary32.classify v
  | _ => BinaryFormat.binary64.classify v

/-- The least significand of a normal value of a floating kind. -/
def normalLeast (k : NumKind) : Nat :=
  match k with
  | .f80 => Nat.pow 2 63
  | .f32 => BinaryFormat.binary32.hidden
  | _ => BinaryFormat.binary64.hidden

/-- The bits of a floating operand: wide ones are read from memory. -/
def floatBits (img : Image) (k : NumKind) (v : UInt64) : Except Fault Nat :=
  if k.wide then readWide img v else pure (if k == .f32 then (v &&& 0xFFFFFFFF).toNat else v.toNat)

/-- The integer value of an operand of an integer kind. -/
def intOperand (img : Image) (k : NumKind) (v : UInt64) : Except Fault Int := do
  if k.wide then pure (Arith.wideToInt k (← readWide img v)) else pure (Arith.toInt k v)

/-- Run a built-in operation on its operands: the new image and the value. -/
def builtin (img : Image) (cur : Frame) (b : Builtin) (args : Array UInt64) :
    Except Fault (Image × UInt64) := do
  let a := fun (i : Nat) => args.getD i 0
  match b with
  | .bits op k =>
    let r := (evalBits op k (a 0).toNat).getD 0
    pure (img, if op == .bswap then Arith.norm k (UInt64.ofNat r) else UInt64.ofNat r)
  | .overflow op ka kb r store =>
    let x ← intOperand img ka (a 0)
    let y ← intOperand img kb (a 1)
    let exact : Int := match op with
      | .add => x + y
      | .sub => x - y
      | _ => x * y
    let bits := 8 * r.size
    let lo : Int := if r.signed then -(Int.pow 2 (bits - 1)) else 0
    let hi : Int := if r.signed then Int.pow 2 (bits - 1) - 1 else Int.pow 2 bits - 1
    let overflows := exact < lo || exact > hi
    let img ← if store then
        if r.wide then writeWide img (a 2) (Arith.wideOfInt exact)
        else img.store r (a 2) (Arith.ofInt r exact)
      else pure img
    pure (img, if overflows then 1 else 0)
  | .isnan k => do pure (img, if classOf k (← floatBits img k (a 0)) == .nan then 1 else 0)
  | .isinfSign k => do
    match classOf k (← floatBits img k (a 0)) with
    | .infinite neg => pure (img, if neg then 0xFFFFFFFFFFFFFFFF else 1)
    | _ => pure (img, 0)
  | .isfinite k => do
    match classOf k (← floatBits img k (a 0)) with
    | .finite .. => pure (img, 1)
    | _ => pure (img, 0)
  | .isnormal k => do
    match classOf k (← floatBits img k (a 0)) with
    | .finite _ sig _ => pure (img, if sig ≥ normalLeast k then 1 else 0)
    | _ => pure (img, 0)
  | .signbit k => do
    let bits ← floatBits img k (a 0)
    let top := match k with
      | .f32 => 31
      | .f80 => 79
      | _ => 63
    pure (img, if bits / Nat.pow 2 top % 2 == 1 then 1 else 0)
  | .fabs k =>
    if k == .f32 then pure (img, a 0 &&& 0x7FFFFFFF) else pure (img, a 0 &&& 0x7FFFFFFFFFFFFFFF)
  | .copysign k =>
    if k == .f32 then pure (img, (a 0 &&& 0x7FFFFFFF) ||| (a 1 &&& 0x80000000))
    else pure (img, (a 0 &&& 0x7FFFFFFFFFFFFFFF) ||| (a 1 &&& 0x8000000000000000))
  | .frameAddress => pure (img, cur.fp)
  | .trap => throw ⟨"illegal instruction"⟩
  | .unreachable => throw ⟨"illegal instruction"⟩

/-- The next extra argument of a class from an argument list: the new image and the
value. -/
def vaArg (img : Image) (cur : Frame) (ap : UInt64) (c : ArgClass) (tmp : Nat) :
    Except Fault (Image × UInt64) := do
  let overflow := fun (img : Image) (size align : Nat) => do
    let ov ← img.mem.load .u64 (ap + 8)
    let place := alignUp ov.toNat align
    let img ← img.store .u64 (ap + 8) (place + alignUp size 8).toUInt64
    pure (img, place.toUInt64)
  match c with
  | .word k =>
    if isFloatWord c then
      let fo ← img.mem.load .u32 (ap + 4)
      if fo.toNat + 16 ≤ 176 then
        let save ← img.mem.load .u64 (ap + 16)
        let v ← img.mem.load .u64 (save + fo)
        let img ← img.store .u32 (ap + 4) (fo + 16)
        pure (img, if k == .f32 then Arith.convNarrow .f64 .f32 v else v)
      else
        let (img, src) ← overflow img 8 8
        let v ← img.mem.load .u64 src
        pure (img, if k == .f32 then Arith.convNarrow .f64 .f32 v else v)
    else
      let go ← img.mem.load .u32 ap
      if go.toNat + 8 ≤ 48 then
        let save ← img.mem.load .u64 (ap + 16)
        let v ← img.mem.load .u64 (save + go)
        let img ← img.store .u32 ap (go + 8)
        pure (img, Arith.norm k v)
      else
        let (img, src) ← overflow img 8 8
        let v ← img.mem.load .u64 src
        pure (img, Arith.norm k v)
  | .wide _ =>
    let (img, src) ← overflow img 16 16
    let dst := cur.fp + tmp.toUInt64
    let img ← img.copy dst src 16
    pure (img, dst)
  | .record size _ =>
    let (img, src) ← overflow img size 8
    let dst := cur.fp + tmp.toUInt64
    let img ← img.copy dst src size
    pure (img, dst)

/-- Start reading extra arguments into an argument list. -/
def vaStart (img : Image) (cur : Frame) (ap : UInt64) : Except Fault Image := do
  if cur.va == 0 then throw ⟨"va_start in a function without extra arguments"⟩
  let img ← img.store .u32 ap cur.vaGp.toUInt64
  let img ← img.store .u32 (ap + 4) cur.vaFp.toUInt64
  let img ← img.store .u64 (ap + 8) (cur.va + 176)
  img.store .u64 (ap + 16) cur.va

/-- The arguments of a call of a provided function as the library reads them. -/
def providedArgs (args : Array UInt64) (classes : Array ArgClass) (fixed : Option Nat) :
    List UInt64 × VaList :=
  let n := fixed.getD args.size
  let fixedClasses := (classes.toList.take n)
  let gp := (fixedClasses.filter isIntWord).length
  let extras := (args.toList.zip classes.toList).drop n |>.map fun (v, c) => (v, isFloatWord c)
  (args.toList, VaList.make gp extras)

/-- Convert a value between kinds; a wide result is written at `dst`. -/
def convert (img : Image) (src dst : NumKind) (dstAddr : UInt64) (v : UInt64) :
    Except Fault (Image × UInt64) := do
  if !src.wide && !dst.wide then return (img, Arith.convNarrow src dst v)
  let x ← if src.wide then readWide img v else pure v.toNat
  let r := Arith.convert src dst x
  if dst.wide then pure (← writeWide img dstAddr r, dstAddr)
  else pure (img, UInt64.ofNat r)

/-- A binary operation; a wide result is written at `dst`. -/
def binary (img : Image) (op : BinOp) (k : NumKind) (dstAddr : UInt64) (x y : UInt64) :
    Except Fault (Image × UInt64) := do
  if !k.wide then
    match Arith.bin op k x y with
    | some r => pure (img, r)
    | none => throw ⟨"arithmetic exception"⟩
  else
    let a ← readWide img x
    let b ← if op == .shl || op == .shr then pure y.toNat else readWide img y
    match Arith.wideBin op k a b with
    | none => throw ⟨"arithmetic exception"⟩
    | some r =>
      if op.isCompare then pure (img, UInt64.ofNat r)
      else pure (← writeWide img dstAddr r, dstAddr)

/-- A unary operation; a wide result is written at `dst`. -/
def unary (img : Image) (op : UnOp) (k : NumKind) (dstAddr : UInt64) (x : UInt64) :
    Except Fault (Image × UInt64) := do
  if !k.wide then
    pure (img, if op == .neg then Arith.neg k x else Arith.bnot k x)
  else
    let a ← readWide img x
    let r := if op == .neg then Arith.wideNeg k a else Arith.wideNot a
    pure (← writeWide img dstAddr r, dstAddr)

/-- Whether a value of a kind is nonzero. -/
def truth (img : Image) (k : NumKind) (v : UInt64) : Except Fault Bool := do
  if k.wide then pure (Arith.wideTruth k (← readWide img v)) else pure (Arith.truth k v)

/-- Read a bit-field through its unit. -/
def loadBits (img : Image) (k : NumKind) (addr : UInt64) (pos w : Nat) : Except Fault UInt64 := do
  let raw ← img.mem.load (NumKind.ofInt k.size false) addr
  let field := (raw >>> pos.toUInt64) &&& ((1 <<< w.toUInt64) - 1)
  pure (if k.signed && w < 64 then Memory.signExtend w field else field)

/-- Write a bit-field through its unit: the new image and the field's new value. -/
def storeBits (img : Image) (k : NumKind) (addr : UInt64) (pos w : Nat) (v : UInt64) :
    Except Fault (Image × UInt64) := do
  let uk := NumKind.ofInt k.size false
  let raw ← img.mem.load uk addr
  let mask : UInt64 := if w ≥ 64 then 0xFFFFFFFFFFFFFFFF else (1 <<< w.toUInt64) - 1
  let raw' := (raw &&& ~~~(mask <<< pos.toUInt64)) ||| ((v &&& mask) <<< pos.toUInt64)
  let img ← img.store uk addr raw'
  let field := v &&& mask
  pure (img, if k.signed && w < 64 then Memory.signExtend w field else field)

/-- The first case range holding a value, else the default. -/
def switchTarget (k : NumKind) (cases : Array (UInt64 × UInt64 × Nat)) (dflt : Nat) (v : UInt64) :
    Nat :=
  let x := Arith.toInt k v
  match cases.find? fun (lo, hi, _) => Arith.toInt k lo ≤ x && x ≤ Arith.toInt k hi with
  | some (_, _, t) => t
  | none => dflt

/-- Finish the current call with a result: the state of its caller, or the result when
it was the call the run started. -/
def leave (img : Image) (st : MState) (v : UInt64) : Except Fault (Image × MState × Option UInt64) :=
  let ⟨stack, regs, frames, cur, bottom⟩ := st
  let placed := match (img.lib.functions[cur.fn]!).ret with
    | .wide _ _ => (img.copy cur.sret v 16).map (·, cur.sret)
    | .record size _ => (img.copy cur.sret v size).map (·, cur.sret)
    | _ => .ok (img, v)
  match placed with
  | .error e => .error e
  | .ok (img, result) =>
    let img := { img with sp := cur.sp0 }
    let stack := stack.shrink cur.height
    let regs := regs.shrink cur.base
    let last := frames.size ≤ bottom + 1
    let caller := frames.back!
    let frames := frames.pop
    if last then .ok (img, { stack, regs, frames, cur := caller, bottom }, some result)
    else .ok (img, { stack := stack.push result, regs, frames, cur := caller, bottom }, none)

end Step

open Step in
/-- Run the loop from the current call's next operation until the call the run started
returns, the host must act, or something faults. -/
def run : Nat → Image → MState → Code → Nat → Except Fault (Image × MState × Exit)
  | 0, _, _, _, _ => .error ⟨"evaluation did not finish"⟩
  | fuel + 1, img, st, code, pc =>
    match code.ops[pc]? with
    | none => .error ⟨"control ran off the end of a function"⟩
    | some op =>
      match op with
      | .push v => run fuel img (st.push v) code (pc + 1)
      | .ref r off => run fuel img (st.push (img.resolve r + UInt64.ofInt off)) code (pc + 1)
      | .reg i => run fuel img (st.push (st.regs[st.cur.base + i]!)) code (pc + 1)
      | .setReg i =>
        let v := st.peek 0
        let j := st.cur.base + i
        run fuel img { st with stack := st.stack.pop, regs := st.regs.set! j v } code (pc + 1)
      | .teeReg i =>
        let v := st.peek 0
        let j := st.cur.base + i
        run fuel img { st with regs := st.regs.set! j v } code (pc + 1)
      | .addReg i k v =>
        let j := st.cur.base + i
        let r := Arith.norm k (st.regs[j]! + v)
        run fuel img { st with regs := st.regs.set! j r } code (pc + 1)
      | .frame off => run fuel img (st.push (st.cur.fp + off.toUInt64)) code (pc + 1)
      | .load k =>
        match img.mem.load k (st.peek 0) with
        | .ok v => run fuel img (st.replace 1 v) code (pc + 1)
        | .error e => .error e
      | .store k =>
        let v := st.peek 0
        match img.store k (st.peek 1) v with
        | .ok img => run fuel img (st.replace 2 v) code (pc + 1)
        | .error e => .error e
      | .loadBits k pos w =>
        match loadBits img k (st.peek 0) pos w with
        | .ok v => run fuel img (st.replace 1 v) code (pc + 1)
        | .error e => .error e
      | .storeBits k pos w =>
        match storeBits img k (st.peek 1) pos w (st.peek 0) with
        | .ok (img, r) => run fuel img (st.replace 2 r) code (pc + 1)
        | .error e => .error e
      | .copy n =>
        match img.copy (st.peek 1) (st.peek 0) n with
        | .ok img => run fuel img (st.drop 1) code (pc + 1)
        | .error e => .error e
      | .zero n =>
        match img.fill (st.peek 0) 0 n with
        | .ok img => run fuel img st code (pc + 1)
        | .error e => .error e
      | .wideConst off lo hi =>
        let addr := st.cur.fp + off.toUInt64
        match img.store .u64 addr lo >>= fun img => img.store .u64 (addr + 8) hi with
        | .ok img => run fuel img (st.push addr) code (pc + 1)
        | .error e => .error e
      | .conv src dst tmp =>
        match convert img src dst (st.cur.fp + tmp.toUInt64) (st.peek 0) with
        | .ok (img, v) => run fuel img (st.replace 1 v) code (pc + 1)
        | .error e => .error e
      | .unary op k tmp =>
        match unary img op k (st.cur.fp + tmp.toUInt64) (st.peek 0) with
        | .ok (img, v) => run fuel img (st.replace 1 v) code (pc + 1)
        | .error e => .error e
      | .binary op k tmp =>
        let y := st.peek 0
        let x := st.peek 1
        if !k.wide then
          match Arith.bin op k x y with
          | some r => run fuel img (st.replace 2 r) code (pc + 1)
          | none => .error ⟨"arithmetic exception"⟩
        else
          match binary img op k (st.cur.fp + tmp.toUInt64) x y with
          | .ok (img, v) => run fuel img (st.replace 2 v) code (pc + 1)
          | .error e => .error e
      | .truth k =>
        match truth img k (st.peek 0) with
        | .ok b => run fuel img (st.replace 1 (if b then 1 else 0)) code (pc + 1)
        | .error e => .error e
      | .pop => run fuel img (st.drop 1) code (pc + 1)
      | .jump t => run fuel img st code t
      | .jumpIf t =>
        let v := st.peek 0
        run fuel img (st.drop 1) code (if v != 0 then t else pc + 1)
      | .jumpIfNot t =>
        let v := st.peek 0
        run fuel img (st.drop 1) code (if v == 0 then t else pc + 1)
      | .switch k cases dflt =>
        let v := st.peek 0
        run fuel img (st.drop 1) code (switchTarget k cases dflt v)
      | .ret =>
        match leave img st (st.peek 0) with
        | .ok (img, st, some v) => .ok (img, st, .done v)
        | .ok (img, st, none) => run fuel img st (img.lib.functions[st.cur.fn]!) st.cur.pc
        | .error e => .error e
      | .retVoid =>
        match leave img st 0 with
        | .ok (img, st, some v) => .ok (img, st, .done v)
        | .ok (img, st, none) => run fuel img st (img.lib.functions[st.cur.fn]!) st.cur.pc
        | .error e => .error e
      | .call n classes fixed ret =>
        let args := (List.range n).foldl (fun acc i => acc.push (st.peek i)) #[]
        let f := st.peek n
        let sret := match ret with
          | .wide _ tmp | .record _ tmp => st.cur.fp + tmp.toUInt64
          | _ => 0
        let st := { st with stack := st.stack.shrink (st.stack.size - (n + 1)),
                            cur := { st.cur with pc := pc + 1 } }
        match img.target f with
        | .program i =>
          match enter img st i args classes sret with
          | .ok (img, st) => run fuel img st (img.lib.functions[i]!) 0
          | .error e => .error e
        | .provided name =>
          if callingBack.contains name then .ok (img, st, .provided name args classes fixed)
          else
            let (vals, va) := providedArgs args classes fixed
            match (Objects.callLibrary name vals va).run img with
            | .ok (some v, img) => run fuel img (st.push v) code (pc + 1)
            | .ok (none, _) => .error ⟨"call to an unsupported function " ++ name⟩
            | .error e => .error e
        | .trampoline => .ok (img, st, .host (args.getD 0 0) (args.getD 1 0))
        | .invalid => .error ⟨"call to an invalid address"⟩
      | .vaStart =>
        match vaStart img st.cur (st.peek 0) with
        | .ok img => run fuel img (st.replace 1 0) code (pc + 1)
        | .error e => .error e
      | .vaArg c tmp =>
        match vaArg img st.cur (st.peek 0) c tmp with
        | .ok (img, v) => run fuel img (st.replace 1 v) code (pc + 1)
        | .error e => .error e
      | .alloca =>
        match reserve img (st.peek 0).toNat with
        | .ok (img, addr) => run fuel img (st.replace 1 addr) code (pc + 1)
        | .error e => .error e
      | .builtin b n =>
        let args := (List.range n).foldl (fun acc i => acc.push (st.peek (n - 1 - i))) #[]
        match builtin img st.cur b args with
        | .ok (img, v) => run fuel img (st.replace n v) code (pc + 1)
        | .error e => .error e
      | .fault msg => .error ⟨msg⟩

end InlineC.Machine
