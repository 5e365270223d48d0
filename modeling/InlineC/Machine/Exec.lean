import InlineC.Machine.Step

/-!
# Running native code

Native code runs against a world of loaded images and the host's state. The machine's loop
runs until the call it started returns or until the host must take part: a call through
the trampoline goes to the host through a hook the caller supplies, which may in turn load
images and run code in them; the provided functions that call back into code (`cx_call`,
`cx_call_object`, `cx_call_function`, `qsort`, `bsearch`) are run here, calling back through
a fresh run of the loop.

Each way in is bounded by fuel, and running out is a fault.
-/

namespace InlineC.Machine

open InlineC.Lang

/-- The loaded images and the host's state. -/
structure World (σ : Type) where
  images : Array Image
  host : σ

/-- Running native code against a world. -/
abbrev Run (σ : Type) := StateT (World σ) (Except Fault)

/-- What a call through the trampoline does, given the handle and the argument object. -/
abbrev Hook (σ : Type) := UInt64 → UInt64 → Run σ UInt64

/-- Run an image action on image `i`. -/
def onImage {σ α : Type} (i : Nat) (act : ImgM α) : Run σ α := do
  let img ← modifyGet fun w => (w.images[i]?.getD default, { w with images := w.images.set! i default })
  match act img with
  | .ok (a, img) =>
    modify fun w => { w with images := w.images.set! i img }
    pure a
  | .error e => throw e

/-- Go on with a result, or stop with its fault. -/
def liftExcept {σ α : Type} (r : Except Fault α) : Run σ α :=
  match r with
  | .ok a => pure a
  | .error e => throw e

/-- Stop for lack of fuel. -/
def outOfFuel {σ α : Type} : Run σ α := throw ⟨"evaluation did not finish"⟩

/-- How many operations one run of the loop may take. -/
def stepLimit : Nat := 100000000000

/-- A machine state with no call in progress. -/
def MState.empty : MState := { stack := #[], regs := #[], frames := #[], cur := default, bottom := 0 }

section

variable {σ : Type} (hook : Hook σ) (img : Nat)

mutual

/-- Run the loop from a state until the call it started returns. -/
def drive : Nat → MState → Run σ UInt64
  | 0, _ => outOfFuel
  | fuel + 1, st => do
    let image ← modifyGet fun w =>
      (w.images[img]?.getD default, { w with images := w.images.set! img default })
    let code := image.lib.functions[st.cur.fn]?.getD default
    let (image, st, exit) ← liftExcept (run stepLimit image st code st.cur.pc)
    modify fun w => { w with images := w.images.set! img image }
    match exit with
    | .done v => pure v
    | .host h a => do
      let r ← hook h a
      drive fuel { st with stack := st.stack.push r }
    | .provided name args classes fixed => do
      let r ← callBack fuel name args classes fixed
      drive fuel { st with stack := st.stack.push r }

/-- Call the function at an address with argument values of the given classes. -/
def callAddr : Nat → UInt64 → Array UInt64 → Array ArgClass → Run σ UInt64
  | 0, _, _, _ => outOfFuel
  | fuel + 1, addr, args, classes => do
    let target ← onImage img do pure ((← get).target addr)
    match target with
    | .program i =>
      let st ← onImage img fun image =>
        match Step.enter image MState.empty i args classes 0 with
        | .ok (image, st) => .ok (st, image)
        | .error e => .error e
      drive fuel st
    | .provided name => callBack fuel name args classes none
    | .trampoline => hook (args.getD 0 0) (args.getD 1 0)
    | .invalid => throw ⟨"call to an invalid address"⟩

/-- Call a callable object: `cx_call_object`. -/
def callObject : Nat → UInt64 → UInt64 → Run σ UInt64
  | 0, _, _ => outOfFuel
  | fuel + 1, callable, args => do
    if !(← onImage img (Objects.callableCheck callable)) then
      onImage img (Objects.raise "cx_type_error_s" (Objects.bytes "object is not callable"))
      return 0
    let call ← onImage img (ImgM.load64 (callable + Obj.call))
    let handle ← onImage img (ImgM.load64 (callable + Obj.handle))
    callAddr fuel call #[handle, args] #[.word .u64, .word .u64]

/-- Sort `n` elements of `size` octets with a comparison function, stably, as the C
library's merge sort does. -/
def sortElements : Nat → UInt64 → Nat → Nat → UInt64 → Run σ PUnit
  | 0, _, _, _, _ => outOfFuel
  | fuel + 1, base, n, size, cmp => do
    let elemAt := fun (i : Nat) => base + (i * size).toUInt64
    let mut order : Array Nat := Array.range n
    let mut width := 1
    for _ in [0:n + 1] do
      if width ≥ n then break
      let mut merged : Array Nat := #[]
      let mut lo := 0
      for _ in [0:n + 1] do
        if lo ≥ n then break
        let mid := min (lo + width) n
        let hi := min (lo + 2 * width) n
        let mut i := lo
        let mut j := mid
        for _ in [0:hi - lo] do
          if i < mid && j < hi then
            let c ← callAddr fuel cmp #[elemAt (order.getD i 0), elemAt (order.getD j 0)]
              #[.word .u64, .word .u64]
            if (Arith.toInt .i32 (Arith.norm .i32 c)) ≤ 0 then
              merged := merged.push (order.getD i 0)
              i := i + 1
            else
              merged := merged.push (order.getD j 0)
              j := j + 1
          else if i < mid then
            merged := merged.push (order.getD i 0)
            i := i + 1
          else
            merged := merged.push (order.getD j 0)
            j := j + 1
        lo := hi
      order := merged
      width := 2 * width
    let elems ← onImage img do order.toList.mapM fun k => ImgM.readBytes (elemAt k) size
    onImage img (ImgM.writeBytes base elems.flatten)

/-- Call a provided function, running those that call back into code here. -/
def callBack : Nat → String → Array UInt64 → Array ArgClass → Option Nat → Run σ UInt64
  | 0, _, _, _, _ => outOfFuel
  | fuel + 1, name, args, classes, fixed => do
    let a := fun (i : Nat) => args.getD i 0
    let (vals, va) := Step.providedArgs args classes fixed
    match name with
    | "cx_call" => do
      onImage img Objects.clearError
      let r ← callAddr fuel (a 0) #[a 1, a 2] #[.word .u64, .word .u64]
      if r == 0 && !(← onImage img Objects.errorSet) then
        onImage img (Objects.raise "cx_runtime_error_s"
          (Objects.bytes "function returned NULL without setting an error"))
      pure r
    | "cx_call_object" => callObject fuel (a 0) (a 1)
    | "cx_call_function" => do
      let fmt ← onImage img (ImgM.cString (a 1))
      let built ← onImage img (Objects.vbuild fmt va true)
      if built == 0 then return 0
      let r ← callObject fuel (a 0) built
      onImage img (Objects.decref Objects.releaseDepth built)
      pure r
    | "qsort" => do
      sortElements fuel (a 0) (a 1).toNat (a 2).toNat (a 3)
      pure 0
    | "bsearch" => do
      let mut lo := 0
      let mut hi := (a 2).toNat
      let mut found : UInt64 := 0
      for _ in [0:64] do
        if lo ≥ hi then break
        let mid := (lo + hi) / 2
        let p := a 1 + (mid * (a 3).toNat).toUInt64
        let c := Arith.toInt .i32 (Arith.norm .i32
          (← callAddr fuel (a 4) #[a 0, p] #[.word .u64, .word .u64]))
        if c < 0 then hi := mid
        else if c > 0 then lo := mid + 1
        else
          found := p
          break
      pure found
    | _ => do
      match ← onImage img (Objects.callLibrary name vals va) with
      | some r => pure r
      | none => throw ⟨"call to an unsupported function " ++ name⟩

end

/-- Call a function of an image by name with word arguments, those marked being doubles. -/
def callNamed (fuel : Nat) (name : String) (args : List UInt64) (fp : List Bool) : Run σ UInt64 := do
  let addr ← onImage img do pure ((← get).functionAddr name)
  match addr with
  | some a =>
    let classes := (fp ++ List.replicate args.length false).take args.length |>.map fun d =>
      ArgClass.word (if d then .f64 else .u64)
    callAddr hook img fuel a args.toArray classes.toArray
  | none => throw ⟨"undefined function " ++ name⟩

/-- Call a provided function by name with word arguments. -/
def callProvided (fuel : Nat) (name : String) (args : List UInt64) (fp : List Bool) : Run σ UInt64 :=
  let classes := (fp ++ List.replicate args.length false).take args.length |>.map fun d =>
    ArgClass.word (if d then .f64 else .u64)
  callBack hook img fuel name args.toArray classes.toArray none

end

end InlineC.Machine
