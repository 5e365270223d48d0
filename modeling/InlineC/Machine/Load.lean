import InlineC.Machine.Exec
import InlineC.Machine.Link
import InlineC.Machine.Standard.Classes

/-!
# Loading a library

Laying a linked library out in memory, as loading its shared library does: every string
literal and every global gets its block, filled with its initial contents, the addresses in
them included; the objects the machine defines for the C library (the standard streams)
get theirs; and the stack gets a block that grows as calls need it. The constructors run
after, once the image is in the world.
-/

namespace InlineC.Machine

open InlineC.Lang

/-- The octets the stack starts with. -/
def initialStack : Nat := 65536

/-- A table of words of `size` octets for the indices -128 to 255, and a cell holding the
address of its entry for index zero: the cell's address. -/
def table (size : Nat) (entry : Int → Nat) : ImgM UInt64 := do
  let t ← ImgM.alloc (384 * size)
  ImgM.writeBytes t (Standard.tableIndices.flatMap fun i => Memory.toLittle size (entry i))
  let cell ← ImgM.alloc 8
  ImgM.store64 cell (t + (128 * size).toUInt64)
  pure cell

/-- Lay a linked library out in memory. -/
def Image.build (lib : Library) : Except Fault Image := do
  let mem : Memory := {}
  let (mem, strings) := lib.strings.foldl (fun (acc : Memory × Array UInt64) os =>
    let (m, a) := acc.1.alloc (os.length + 1)
    (m, acc.2.push a)) (mem, #[])
  let (mem, empty) := mem.alloc 1
  let (mem, globals) := lib.globals.foldl (fun (acc : Memory × Array UInt64) g =>
    let (m, a) := acc.1.alloc (max g.size 1)
    (m, acc.2.push a)) (mem, #[])
  let stackBlock := mem.blocks.size
  let (mem, _) := mem.alloc initialStack
  let img : Image := { lib, mem, globals, strings, empty, stackBlock, sp := 0 }
  let fill : ImgM PUnit := do
    for (os, a) in lib.strings.toList.zip strings.toList do
      ImgM.writeBytes a (os ++ [0])
    for (g, a) in lib.globals.toList.zip globals.toList do
      for part in g.init do
        match part with
        | .bytes off data => ImgM.writeBytes (a + off.toUInt64) data
        | .addr off r addend =>
          let target := (← get).resolve r
          ImgM.store64 (a + off.toUInt64) (target + UInt64.ofInt addend)
      if machineObjects.any (·.1 == g.name) then
        let stream ← ImgM.alloc 216
        ImgM.store64 a stream
    let errno ← ImgM.alloc 8
    let classes ← table 2 fun i => Standard.classWord i
    let lower ← table 4 fun i => (Standard.toLowerCode i % Int.pow 2 32).toNat
    let upper ← table 4 fun i => (Standard.toUpperCode i % Int.pow 2 32).toNat
    let tokens ← ImgM.alloc 8
    modify fun img => { img with cells := { errno, classes, lower, upper, tokens } }
  match fill img with
  | .ok (_, img) => pure img
  | .error e => throw e

end InlineC.Machine
