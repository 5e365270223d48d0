import InlineC.Machine.Memory

/-!
# Extra arguments

The arguments a variadic function receives after its fixed parameters, read the way the
x86-64 calling convention passes them: integers and pointers take the general registers left
after the fixed parameters, doubles take the vector registers, and what does not fit in
registers goes to the stack in order. A reading of an integer takes the next general register
or stack slot, a reading of a double the next vector register or stack slot, whatever the
caller actually passed there; a register nothing was passed in reads as zero.

The arguments come either from a call the machine makes itself, as words, or from a
`va_list` in memory: its 24-octet tag holds the offsets of the next general and vector
register in the register save area, and the addresses of the stack area and of the save
area.
-/

namespace InlineC.Machine

/-- Extra arguments of a call, as registers and stack slots. -/
structure VaList where
  gp : Array UInt64
  fp : Array UInt64
  stack : Array UInt64
  gpNext : Nat
  fpNext : Nat
  stackNext : Nat
  deriving Inhabited

namespace VaList

/-- Number of general registers for arguments. -/
def gpRegs : Nat := 6

/-- Number of vector registers for arguments. -/
def fpRegs : Nat := 8

/-- Place extra arguments, each with whether it is a double, after `fixed` general
registers taken by the fixed parameters. -/
def make (fixed : Nat) (extras : List (UInt64 × Bool)) : VaList :=
  let init : VaList := { gp := Array.replicate gpRegs 0, fp := Array.replicate fpRegs 0,
                         stack := #[], gpNext := fixed, fpNext := 0, stackNext := 0 }
  let (va, _, _) := extras.foldl (fun (acc : VaList × Nat × Nat) (v, isFp) =>
    let (va, g, f) := acc
    if isFp then
      if f < fpRegs then ({ va with fp := va.fp.set! f v }, g, f + 1)
      else ({ va with stack := va.stack.push v }, g, f)
    else
      if g < gpRegs then ({ va with gp := va.gp.set! g v }, g + 1, f)
      else ({ va with stack := va.stack.push v }, g, f)) (init, fixed, 0)
  va

/-- How many stack slots a `va_list` read from memory makes available. -/
def stackSlots : Nat := 256

/-- The extra arguments a `va_list` tag in memory stands for. Stack slots are read up to
the end of the block that holds them. -/
def ofTag (mem : Memory) (tag : UInt64) : Except Fault VaList := do
  let gpOff ← mem.read tag 4
  let fpOff ← mem.read (tag + 4) 4
  let overflow := UInt64.ofNat (← mem.read (tag + 8) 8)
  let save := UInt64.ofNat (← mem.read (tag + 16) 8)
  let gp ← (List.range gpRegs).mapM fun i => do
    pure (UInt64.ofNat (← mem.read (save + (8 * i).toUInt64) 8))
  let fp ← (List.range fpRegs).mapM fun i => do
    pure (UInt64.ofNat (← mem.read (save + (48 + 16 * i).toUInt64) 8))
  let room := match mem.locate overflow 0 with
    | .ok (b, off) => ((mem.blocks[b]?.map (·.size)).getD 0 - off) / 8
    | .error _ => 0
  let stack ← (List.range (min room stackSlots)).mapM fun i => do
    pure (UInt64.ofNat (← mem.read (overflow + (8 * i).toUInt64) 8))
  pure { gp := gp.toArray, fp := fp.toArray, stack := stack.toArray,
         gpNext := gpOff / 8, fpNext := (fpOff - 48) / 16, stackNext := 0 }

/-- Take the next integer or pointer. -/
def nextInt (va : VaList) : UInt64 × VaList :=
  if va.gpNext < gpRegs then (va.gp[va.gpNext]!, { va with gpNext := va.gpNext + 1 })
  else (va.stack[va.stackNext]?.getD 0, { va with stackNext := va.stackNext + 1 })

/-- Take the next double. -/
def nextDouble (va : VaList) : UInt64 × VaList :=
  if va.fpNext < fpRegs then (va.fp[va.fpNext]!, { va with fpNext := va.fpNext + 1 })
  else (va.stack[va.stackNext]?.getD 0, { va with stackNext := va.stackNext + 1 })

end VaList

end InlineC.Machine
