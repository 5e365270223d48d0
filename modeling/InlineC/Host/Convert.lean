import InlineC.Host.State

/-!
# Values across the boundary

Host values become runtime objects of a library and back, through the runtime's own
functions, as the loader does:

* nothing is the `None` object, truth values are booleans, doubles and singles are floats,
  strings are copied (a string holding a zero octet has no counterpart), tuples are built
  item by item, and callbacks are registered under a fresh handle and become callables
  calling the trampoline;
* signed integers become integers, and so do unsigned ones up to the signed 64-bit range;
  beyond it they have no counterpart;
* back from the library, an unsigned integer object gives an unsigned host integer, a
  callable gives the callback registered under its handle, and an object of another kind
  (an error type, a module, or memory that holds no object) has no counterpart.
-/

namespace InlineC.Host

open InlineC.Machine

/-- Register a callback with a library; its handle. -/
def register (cb : Callback) (lib : Nat) : HostM UInt64 := do
  let h := (← getHost).nextHandle + 1
  modifyHost fun s => { s with nextHandle := h, registry := s.registry ++ [⟨h, cb, lib⟩] }
  pure h

/-- What the loader reports for an error read from native code with name `name` and message
`msg`: that error, or a `RuntimeError` with the fallback message when both are empty. -/
def nativeFailure (fallback : String) (name msg : List UInt8) : FailureReport :=
  if name.isEmpty && msg.isEmpty then Errors.native (Utf8.ofString "RuntimeError") (Utf8.ofString fallback)
  else Errors.native name msg

/-- The error the runtime holds, cleared, or a `RuntimeError` with the fallback message
when none is set: what the loader reports for a failed call. -/
def takeError (img : Nat) (fallback : String) : HostM FailureReport := do
  let (name, msg) ← onImage img do
    let e ← Objects.pendingError
    Objects.clearError
    pure e
  pure (nativeFailure fallback name msg)

/-- Set a `RuntimeError` with a message: `cx_err_set_string`. -/
def setErrorString (img : Nat) (msg : List UInt8) : HostM PUnit :=
  onImage img (Objects.raise "cx_runtime_error_s" msg)

mutual

/-- A new reference to an object for a host value. -/
def toObject (lib : Nat) (img : Nat) : HostValue → HostM (Except FailureReport UInt64)
  | .nil => checked (onImage img (ImgM.globalAddr "cx_none_s"))
  | .bool b => checked (onImage img (Objects.newBool (if b then 1 else 0)))
  | .str s =>
    if s.contains 0 then
      pure (.error (Errors.conversion "cannot convert string to a native object: embedded NUL byte"))
    else checked (onImage img (Objects.newStrBytes s))
  | .single bits => checked (onImage img (Objects.newFloat (Lang.Arith.convNarrow .f32 .f64 bits.toUInt64)))
  | .float bits => checked (onImage img (Objects.newFloat bits))
  | .tuple items => toTuple lib img items
  | .callback cb => do
    let h ← register cb lib
    checked (onImage img (Objects.newCallable trampolineAddr h))
  | .int i => checked (onImage img (Objects.newInt (UInt64.ofNat (i % Int.pow 2 64).toNat)))
  | .uint n =>
    if n ≥ Nat.pow 2 63 then
      pure (.error (Errors.conversion
        "cannot convert uint64 to a native object: value exceeds the signed 64-bit range"))
    else checked (onImage img (Objects.newInt (UInt64.ofNat n)))
  | .other t => pure (.error (Errors.conversion ("cannot convert " ++ t ++ " to a native object")))
where
  /-- A null object means allocation failed. -/
  checked (act : HostM UInt64) : HostM (Except FailureReport UInt64) := do
    let o ← act
    if o == 0 then pure (.error (← takeError img "allocation failed")) else pure (.ok o)

/-- A new tuple object for host values. -/
def toTuple (lib : Nat) (img : Nat) (items : List HostValue) : HostM (Except FailureReport UInt64) := do
  let t ← onImage img (Objects.newTuple items.length.toUInt64)
  if t == 0 then return .error (← takeError img "allocation failed")
  storeItems lib img t 0 items

/-- Store host values into a tuple from an index on, releasing it on failure. -/
def storeItems (lib : Nat) (img : Nat) (t : UInt64) (i : Nat) :
    List HostValue → HostM (Except FailureReport UInt64)
  | [] => pure (.ok t)
  | item :: rest => do
    match ← toObject lib img item with
    | .error e =>
      onImage img (Objects.decref Objects.releaseDepth t)
      pure (.error e)
    | .ok o =>
      let r ← onImage img (Objects.tupleSet t i.toUInt64 o)
      if r != 0 then
        onImage img (Objects.decref Objects.releaseDepth t)
        pure (.error (← takeError img "tuple store failed"))
      else storeItems lib img t (i + 1) rest

end

/-- The host values of a tuple's items at some indexes, each converted by `conv`, stopping at
the first that fails. -/
def fromItems (conv : UInt64 → HostM (Except FailureReport HostValue)) (img : Nat) (t : UInt64) :
    List Nat → HostM (Except FailureReport (List HostValue))
  | [] => pure (.ok [])
  | i :: rest => do
    match ← conv (← onImage img (Objects.tupleGet t i.toUInt64)) with
    | .error e => pure (.error e)
    | .ok v => pure ((← fromItems conv img t rest).map (v :: ·))

/-- The host runtime's panic on making a list of negative length. -/
def negativeLengthPanic : Fault := ⟨"runtime error: makeslice: len out of range"⟩

/-- The host value of a borrowed object. A tuple whose size reads negative makes the host
panic as it makes the list of its items. -/
def fromObject (img : Nat) : Nat → UInt64 → HostM (Except FailureReport HostValue)
  | 0, _ => throw ⟨"objects nested too deeply"⟩
  | fuel + 1, o => do
    let k ← onImage img (Objects.kindOf o)
    let kind := (Lang.Arith.norm .i32 k).toInt64.toInt
    let noCounterpart := Errors.conversion ("cannot convert native object of kind " ++ toString kind)
    if k == Obj.none then pure (.ok .nil)
    else if k == Obj.bool then pure (.ok (.bool ((← onImage img (Objects.asInt o)) != 0)))
    else if k == Obj.integer then
      let v ← onImage img (Objects.asInt o)
      if (← onImage img (Objects.isUnsigned o)) != 0 then pure (.ok (.uint v.toNat))
      else pure (.ok (.int v.toInt64.toInt))
    else if k == Obj.float then pure (.ok (.float (← onImage img (Objects.asFloat o))))
    else if k == Obj.string then
      pure (.ok (.str (← onImage img do ImgM.cString (← Objects.asStr o))))
    else if k == Obj.tuple then
      let n := (← onImage img (Objects.tupleSize o)).toInt64.toInt
      if n < 0 then throw negativeLengthPanic
      pure ((← fromItems (fromObject img fuel) img o (List.range n.toNat)).map .tuple)
    else if k == Obj.callable then
      let h ← onImage img (Objects.callableHandle o)
      match (← getHost).registry.find? (·.handle == h) with
      | some reg => pure (.ok (.callback reg.callback))
      | none => pure (.error noCounterpart)
    else pure (.error noCounterpart)

/-- How deeply nested objects may be converted. -/
def nestingDepth : Nat := 100000

/-- Close a library: refused while one of its callbacks runs; its callbacks are dropped. -/
def closeLibrary (i : Nat) : HostM Bool := do
  let l ← getLib i
  if l.callbacks > 0 then return false
  modifyLib i fun l => { l with closed := true }
  modifyHost fun s => { s with registry := s.registry.filter (·.lib != i) }
  pure true

/-- The function of a method of a library's module. -/
def lookupMethod (i : Nat) (name : String) : HostM (Option UInt64) := do
  let l ← getLib i
  if l.closed then return none
  let fn ← onImage l.image (Objects.moduleLookup l.module (Utf8.ofString name))
  pure (if fn == 0 then none else some fn)

/-- The revision a library's module was stamped with. -/
def libraryRevision (i : Nat) : HostM (Option Nat) := do
  let l ← getLib i
  if l.closed then return none
  let has ← onImage l.image (Objects.moduleHasRevision l.module)
  if has == 0 then return none
  pure (some (← onImage l.image (Objects.moduleRevision l.module)).toNat)

/-- The doc of a method. -/
def methodDoc (i : Nat) (name : String) : HostM (List UInt8) := do
  let l ← getLib i
  if l.closed then return []
  onImage l.image do ImgM.cString (← Objects.moduleMethodDoc l.module (Utf8.ofString name))

/-- The flags of a method. -/
def methodFlags (i : Nat) (name : String) : HostM Int := do
  let l ← getLib i
  if l.closed then return -1
  pure (← onImage l.image (Objects.moduleMethodFlags l.module (Utf8.ofString name))).toInt64.toInt

end InlineC.Host
