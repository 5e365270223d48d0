import Mathlib
import InlineC.Proofs.Frame
import InlineC.Proofs.Runs

/-!
# Parsing an argument tuple

`cx_parse_tuple` checks that its argument is a tuple with one item per format code, then reads
each item by its code and stores it through the next pointer argument, stopping at the first
item its code refuses. For every argument tuple in memory and every format of the runtime's
codes, it returns 1 exactly when the argument is a tuple of the right length whose every item
its code accepts, and the memory then holds each item's value at its pointer; otherwise it
returns 0, and the error pending is the one of the first check that failed.

What a code accepts is said of the item's fields as the runtime header lays them out (`View`),
with an integer's mathematical value read unsigned when the integer is marked unsigned. The
objects lie in memory blocks apart from those the pointers point into, as a caller's locals
lie apart from the objects it passes.
-/

namespace InlineC.Machine

open InlineC.Lang ImgM

namespace Objects

/-- The fields of a runtime object that parsing reads, and the first octet of its string. -/
structure View where
  kind : UInt64
  int : UInt64
  dbl : UInt64
  str : UInt64
  count : UInt64
  items : UInt64
  unsigned : UInt64
  first : UInt64

/-- The offsets of the fields parsing reads. -/
def viewOffsets : List UInt64 :=
  [Obj.kind, Obj.int, Obj.dbl, Obj.str, Obj.count, Obj.items, Obj.unsigned]

/-- The object at `o` has the fields `v` in memory `m`, each read as the runtime reads it, in
blocks `heap` admits; a string of length one has the octet `v.first` first. -/
structure Shows (heap : Nat → Prop) (m : Memory) (o : UInt64) (v : View) : Prop where
  kind : m.load .i32 (o + Obj.kind) = .ok v.kind
  int : m.load .u64 (o + Obj.int) = .ok v.int
  dbl : m.load .u64 (o + Obj.dbl) = .ok v.dbl
  str : m.load .u64 (o + Obj.str) = .ok v.str
  count : m.load .u64 (o + Obj.count) = .ok v.count
  items : m.load .u64 (o + Obj.items) = .ok v.items
  unsigned : m.load .i32 (o + Obj.unsigned) = .ok v.unsigned
  first : v.kind = Obj.string → v.count = 1 → m.load .i8 v.str = .ok v.first
  inHeap : ∀ off ∈ viewOffsets, heap (Memory.blockOf (o + off))
  firstInHeap : v.kind = Obj.string → v.count = 1 → heap (Memory.blockOf v.str)

/-- The seven fields parsing reads at `o`, as the runtime loads them: what `Shows` asks of memory
besides where the fields lie. One decidable conjunction, so that the fields of an object in a
concrete memory are read off by one evaluation. -/
def View.ReadsIn (v : View) (m : Memory) (o : UInt64) : Prop :=
  m.load .i32 (o + Obj.kind) = .ok v.kind ∧ m.load .u64 (o + Obj.int) = .ok v.int ∧
    m.load .u64 (o + Obj.dbl) = .ok v.dbl ∧ m.load .u64 (o + Obj.str) = .ok v.str ∧
    m.load .u64 (o + Obj.count) = .ok v.count ∧ m.load .u64 (o + Obj.items) = .ok v.items ∧
    m.load .i32 (o + Obj.unsigned) = .ok v.unsigned

instance (v : View) (m : Memory) (o : UInt64) : Decidable (v.ReadsIn m o) :=
  inferInstanceAs (Decidable (_ ∧ _ ∧ _ ∧ _ ∧ _ ∧ _ ∧ _))

/-- An object that is no string shows the fields it reads, once they lie in the heap. -/
theorem Shows.of_readsIn {heap : Nat → Prop} {m : Memory} {o : UInt64} {v : View}
    (hr : v.ReadsIn m o) (hk : v.kind ≠ Obj.string)
    (hheap : ∀ off ∈ viewOffsets, heap (Memory.blockOf (o + off))) : Shows heap m o v := by
  obtain ⟨hkind, hint, hdbl, hstr, hcount, hitems, hunsigned⟩ := hr
  exact ⟨hkind, hint, hdbl, hstr, hcount, hitems, hunsigned, fun h => absurd h hk, hheap,
    fun h => absurd h hk⟩

/-- A store into a block outside the heap keeps what every object shows. -/
theorem Shows.store {heap : Nat → Prop} {img img' : Image} {o : UInt64} {v : View}
    {k : NumKind} {a x : UInt64} (hs : Shows heap img.mem o v) (h : img.store k a x = .ok img')
    (ha : ¬ heap (Memory.blockOf a)) : Shows heap img'.mem o v := by
  have apart : ∀ a', heap (Memory.blockOf a') → Memory.blockOf a ≠ Memory.blockOf a' :=
    fun a' h' heq => ha (heq ▸ h')
  have field : ∀ {k' : NumKind} {off x'}, off ∈ viewOffsets → img.mem.load k' (o + off) = .ok x' →
      img'.mem.load k' (o + off) = .ok x' :=
    fun hoff hx => Image.load_store h (apart _ (hs.inHeap _ hoff)) hx
  exact ⟨field (by simp [viewOffsets]) hs.kind, field (by simp [viewOffsets]) hs.int,
    field (by simp [viewOffsets]) hs.dbl, field (by simp [viewOffsets]) hs.str,
    field (by simp [viewOffsets]) hs.count, field (by simp [viewOffsets]) hs.items,
    field (by simp [viewOffsets]) hs.unsigned,
    fun hk hc => Image.load_store h (apart _ (hs.firstInHeap hk hc)) (hs.first hk hc),
    hs.inHeap, hs.firstInHeap⟩

/-! ### Reading and raising -/

/-- The address of a global of an image, by name. -/
def global (img : Image) (name : String) : Option UInt64 :=
  (img.lib.globals.findIdx? (·.name == name)).map (img.globals.getD · 0)

/-- A load that reads changes nothing. -/
theorem load_run {img : Image} {k : NumKind} {a x : UInt64} (h : img.mem.load k a = .ok x) :
    (load k a).run img = .ok (x, img) := by
  unfold ImgM.load
  simp only [StateT.run_bind]
  show (liftMem (img.mem.load k a)).run img = _
  rw [h]
  rfl

/-- Finding a global changes nothing. -/
theorem globalAddr_run {img : Image} {name : String} {x : UInt64} (h : global img name = some x) :
    (globalAddr name).run img = .ok (x, img) := by
  obtain ⟨i, hi, rfl⟩ := Option.map_eq_some_iff.1 h
  unfold globalAddr
  refine run_bind_eq_ok.2 ⟨img, img, rfl, ?_⟩
  rw [hi]
  rfl

/-- A store that ends is the image's store. -/
theorem store_run {img img' : Image} {k : NumKind} {a x : UInt64} (h : img.store k a x = .ok img') :
    (store k a x).run img = .ok ((), img') := by
  simp only [ImgM.store, update, StateT.run, h]

/-- Writing octets that ends is the image's write. -/
theorem writeBytes_run {img img' : Image} {a : UInt64} {data : List UInt8}
    (h : img.writeBytes a data = .ok img') : (writeBytes a data).run img = .ok ((), img') := by
  simp only [ImgM.writeBytes, update, StateT.run, h]

/-- The runtime's static error types. -/
def errorTypes : List String :=
  ["cx_type_error_s", "cx_overflow_error_s", "cx_value_error_s", "cx_runtime_error_s"]

/-- The error state of an image lies where raising an error writes it: the static error types
have addresses, and the error type, message buffer and flag lie in blocks. -/
structure ErrorCells (img : Image) : Prop where
  types : ∀ ty ∈ errorTypes, ∃ x, global img ty = some x
  type : ∃ t b off, global img "cx_err_type" = some t ∧ img.mem.locate t NumKind.u64.size = .ok (b, off)
  buf : ∃ t b off, global img "cx_err_buf" = some t ∧ img.mem.locate t 1024 = .ok (b, off)
  flag : ∃ t b off, global img "cx_err_flag" = some t ∧ img.mem.locate t NumKind.i32.size = .ok (b, off)

/-- The error cells stay where they are in an image with the same library, globals and block
sizes. -/
theorem ErrorCells.congr {img img' : Image} (h : ErrorCells img) (hlib : img'.lib = img.lib)
    (hglobals : img'.globals = img.globals) (hsizes : Memory.SameSizes img.mem img'.mem) :
    ErrorCells img' := by
  have hg : ∀ name, global img' name = global img name := fun name => by
    unfold global
    rw [hlib, hglobals]
  obtain ⟨t1, b1, off1, g1, l1⟩ := h.type
  obtain ⟨t2, b2, off2, g2, l2⟩ := h.buf
  obtain ⟨t3, b3, off3, g3, l3⟩ := h.flag
  refine ⟨fun ty hty => ?_, ⟨t1, b1, off1, ?_, ?_⟩, ⟨t2, b2, off2, ?_, ?_⟩, ⟨t3, b3, off3, ?_, ?_⟩⟩
  · rw [hg]
    exact h.types ty hty
  all_goals first
    | rw [hg]; assumption
    | rw [Memory.locate_eq_of_sameSizes hsizes]; assumption

/-- A store keeps the error cells where they are. -/
theorem ErrorCells.store {img img' : Image} {k : NumKind} {a x : UInt64} (h : ErrorCells img)
    (hs : img.store k a x = .ok img') : ErrorCells img' := by
  obtain ⟨b, off, -, rfl⟩ := Image.store_eq hs
  exact h.congr rfl rfl (Memory.storeAt_sameSizes _ _ _ _ _)

/-- Writing an error's type, message and flag succeeds where the error cells are. -/
theorem writeError_ok {img : Image} (h : ErrorCells img) (ty : UInt64) (msg : List UInt8) :
    ∃ img', (do
      store64 (← globalAddr "cx_err_type") ty
      writeBytes (← globalAddr "cx_err_buf") (msg.take 1023 ++ [0])
      store32 (← globalAddr "cx_err_flag") 1 : ImgM PUnit).run img = .ok ((), img') := by
  obtain ⟨t1, b1, off1, g1, l1⟩ := h.type
  obtain ⟨t2, b2, off2, g2, l2⟩ := h.buf
  obtain ⟨t3, b3, off3, g3, l3⟩ := h.flag
  -- each write keeps the sizes of the blocks, so the next cell is still where it was
  have hstore1 := Image.store_ok l1 ty
  set img1 := { img with mem := img.mem.storeAt b1 off1 NumKind.u64.size ty }
  have s1 : Memory.SameSizes img.mem img1.mem := Memory.storeAt_sameSizes _ _ _ _ _
  have l2' : img1.mem.locate t2 (msg.take 1023 ++ [0]).length = .ok (b2, off2) := by
    rw [Memory.locate_eq_of_sameSizes s1]
    exact Memory.locate_mono l2 (by simp)
  have hwrite := Image.writeBytes_ok l2'
  set img2 := { img1 with mem := img1.mem.writeAt b2 off2 (msg.take 1023 ++ [0]) }
  have s2 : Memory.SameSizes img.mem img2.mem := s1.trans (Memory.writeAt_sameSizes _ _ _ _)
  have l3' : img2.mem.locate t3 NumKind.i32.size = .ok (b3, off3) := by
    rw [Memory.locate_eq_of_sameSizes s2]
    exact l3
  refine ⟨{ img2 with mem := img2.mem.storeAt b3 off3 NumKind.i32.size 1 }, ?_⟩
  refine run_bind_eq_ok.2 ⟨t1, img, globalAddr_run g1, ?_⟩
  refine run_bind_eq_ok.2 ⟨(), img1, store_run hstore1, ?_⟩
  refine run_bind_eq_ok.2 ⟨t2, img1, globalAddr_run g2, ?_⟩
  refine run_bind_eq_ok.2 ⟨(), img2, writeBytes_run hwrite, ?_⟩
  refine run_bind_eq_ok.2 ⟨t3, img2, globalAddr_run g3, ?_⟩
  exact store_run (Image.store_ok l3' 1)

/-- Setting the error succeeds where the error cells are, a null type included. -/
theorem setError_ok {img : Image} (h : ErrorCells img) (ty : UInt64) (msg : List UInt8) :
    ∃ img', (setError ty msg).run img = .ok ((), img') := by
  unfold setError
  dsimp only
  split
  · obtain ⟨xr, hxr⟩ := h.types "cx_runtime_error_s" (by simp [errorTypes])
    obtain ⟨img', h'⟩ := writeError_ok h xr msg
    exact ⟨img', run_bind_eq_ok.2 ⟨xr, img, globalAddr_run hxr, h'⟩⟩
  · obtain ⟨img', h'⟩ := writeError_ok h ty msg
    exact ⟨img', run_bind_eq_ok.2 ⟨ty, img, rfl, h'⟩⟩

/-- Raising an error of a static type succeeds where the error cells are. -/
theorem raise_ok {img : Image} (h : ErrorCells img) {ty : String} (hty : ty ∈ errorTypes)
    (msg : List UInt8) : ∃ img', (raise ty msg).run img = .ok ((), img') := by
  obtain ⟨x, hx⟩ := h.types ty hty
  obtain ⟨img', h'⟩ := setError_ok h x msg
  exact ⟨img', run_bind_eq_ok.2 ⟨x, img, globalAddr_run hx, h'⟩⟩

/-! ### What an object shows -/

namespace View

/-- An integer or a bool, the kinds the integer codes take. -/
def isInt (v : View) : Bool := v.kind == Obj.integer || v.kind == Obj.bool

/-- An integer marked unsigned; the mark means nothing on other kinds. -/
def isUnsigned (v : View) : Bool := v.kind == Obj.integer && v.unsigned != 0

/-- The mathematical value of an integer or bool: its word, read unsigned when the integer is
marked unsigned and signed otherwise. -/
def value (v : View) : Int := if v.isUnsigned then v.int.toNat else v.int.toInt64.toInt

/-- A string of exactly one character. -/
def isChar (v : View) : Bool := v.kind == Obj.string && v.count == 1

/-- The truth of an object: none is false, a bool or integer is true when nonzero, a float when
it is not zero, a string or tuple when it is not empty, and anything else is true. -/
def truth (v : View) : Bool :=
  if v.kind == Obj.none then false
  else if v.kind == Obj.bool || v.kind == Obj.integer then v.int != 0
  else if v.kind == Obj.float then Arith.truth .f64 v.dbl
  else if v.kind == Obj.string || v.kind == Obj.tuple then v.count.toInt64 > 0
  else true

/-- The double an object reads as: a float's own, or an integer's or bool's word converted as a
signed integer. -/
def double (v : View) : UInt64 :=
  if v.kind == Obj.float then v.dbl else Arith.convNarrow .i64 .f64 v.int

end View

/-- A word read signed. -/
theorem toInt64_toInt_eq (x : UInt64) :
    x.toInt64.toInt = if x.toNat < 2 ^ 63 then (x.toNat : Int) else x.toNat - 2 ^ 64 := by
  simp only [Int64.toInt, UInt64.toBitVec_toInt64, BitVec.toInt_eq_toNat_cond,
    UInt64.toNat_toBitVec]
  split_ifs <;> omega

/-- The word of an integer is its value modulo 2^64, read either way. -/
@[simp] theorem View.ofInt_value (v : View) : UInt64.ofInt v.value = v.int := by
  apply UInt64.toNat_inj.1
  have hlt := v.int.toNat_lt
  have hmod : v.value % 2 ^ 64 = v.int.toNat := by
    unfold View.value
    split
    · omega
    · rw [toInt64_toInt_eq]
      split_ifs <;> omega
  rw [UInt64.ofInt, UInt64.toNat_ofNat', hmod]
  simp

/-- The check of `cx_expect_range` rejects exactly the values outside the range, for a range
whose top is a signed word: an unsigned integer whose word reads negative is above it. -/
theorem rangeCheck_eq (v : View) {lo hi : Int} (hhi : hi < 2 ^ 63) :
    ((v.isUnsigned && decide (v.int.toInt64.toInt < 0)) || decide (v.int.toInt64.toInt < lo) ||
      decide (v.int.toInt64.toInt > hi)) = !decide (lo ≤ v.value ∧ v.value ≤ hi) := by
  have hlt := v.int.toNat_lt
  unfold View.value
  rw [toInt64_toInt_eq]
  split_ifs <;> rw [Bool.eq_iff_iff] <;> simp [*] <;> omega

/-- The check of the byte code rejects exactly the values outside 0 to 255. -/
theorem byteCheck_iff (v : View) :
    (if v.isUnsigned then v.int.toNat > 255
      else (decide (v.int.toInt64.toInt < 0) || decide (v.int.toInt64.toInt > 255)) = true) ↔
      ¬ (0 ≤ v.value ∧ v.value ≤ 255) := by
  unfold View.value
  rw [toInt64_toInt_eq]
  -- only a signed word at or above 2^63 is left, and it reads negative
  split_ifs <;> simp
  have := v.int.toNat_lt
  omega

/-! ### What each code does -/

namespace ParseCode

/-- Whether a code accepts an object. -/
def accepts : ParseCode → View → Bool
  | .truth, _ | .object, _ => true
  | .char, v => v.isChar || v.kind == Obj.integer
  | .ranged lo hi _ _, v => v.isInt && decide (lo ≤ v.value ∧ v.value ≤ hi)
  | .byte, v => v.isInt && decide (0 ≤ v.value ∧ v.value ≤ 255)
  | .wrapping _, v => v.isInt
  | .single, v | .double, v => v.kind == Obj.float || v.isInt
  | .string, v => v.kind == Obj.string

/-- What parsing the object at `o` by a code does: the error it raises, or the kind and word it
stores. An integer code stores the value, of which the store keeps the low octets. -/
def outcome (pc : ParseCode) (fname : List UInt8) (o : UInt64) (v : View) :
    Except (String × List UInt8) (NumKind × UInt64) :=
  match pc with
  | .truth => .ok (.u8, if v.truth then 1 else 0)
  | .char =>
    if v.isChar then .ok (.i8, v.first)
    else if v.kind == Obj.integer then .ok (.i8, UInt64.ofInt v.value)
    else .error ("cx_type_error_s", fname ++ bytes "() a character is required")
  | .ranged lo hi what k =>
    if !v.isInt then .error ("cx_type_error_s", fname ++ bytes "() an integer is required")
    else if lo ≤ v.value ∧ v.value ≤ hi then .ok (k, UInt64.ofInt v.value)
    else .error ("cx_overflow_error_s", fname ++ bytes "() " ++ bytes what ++ bytes " out of range")
  | .byte =>
    if !v.isInt then .error ("cx_type_error_s", fname ++ bytes "() an integer is required")
    else if 0 ≤ v.value ∧ v.value ≤ 255 then .ok (.u8, UInt64.ofInt v.value)
    else .error ("cx_value_error_s", fname ++ bytes "() unsigned byte integer out of range")
  | .wrapping k =>
    if v.isInt then .ok (k, UInt64.ofInt v.value)
    else .error ("cx_type_error_s", fname ++ bytes "() an integer is required")
  | .single =>
    if v.kind == Obj.float || v.isInt then .ok (.f32, Arith.convNarrow .f64 .f32 v.double)
    else .error ("cx_type_error_s", fname ++ bytes "() a float is required")
  | .double =>
    if v.kind == Obj.float || v.isInt then .ok (.f64, v.double)
    else .error ("cx_type_error_s", fname ++ bytes "() a float is required")
  | .string =>
    if v.kind == Obj.string then .ok (.u64, v.str)
    else .error ("cx_type_error_s", fname ++ bytes "() a string is required")
  | .object => .ok (.u64, o)

/-- A code stores exactly the objects it accepts. -/
theorem outcome_ok_iff (pc : ParseCode) (fname : List UInt8) (o : UInt64) (v : View) :
    (∃ s, pc.outcome fname o v = .ok s) ↔ pc.accepts v = true := by
  cases pc <;> simp only [outcome, accepts] <;> (try split_ifs) <;> simp_all

/-- The range a ranged code checks tops out within the signed words, as every C range does. -/
def Signed : ParseCode → Prop
  | .ranged _ hi _ _ => hi < 2 ^ 63
  | _ => True

/-- Every code of a format is signed. -/
theorem of_signed {c : UInt8} {pc : ParseCode} (h : ParseCode.of c = some pc) : pc.Signed := by
  unfold ParseCode.of at h
  split at h <;> cases h <;> simp [Signed]

end ParseCode

/-- How parsing one item by its outcome goes from `img` to `img'` with result `ok`: an item
stored at `out`, or an item refused with its error raised. -/
def Ends (img : Image) (out : UInt64) :
    Except (String × List UInt8) (NumKind × UInt64) → Bool → Image → Prop
  | .ok (k, x), ok, img' => ok = true ∧ img.store k out x = .ok img'
  | .error (ty, msg), ok, img' => ok = false ∧ (raise ty msg).run img = .ok ((), img')

/-! ### Reading an object -/

section Reads

variable {heap : Nat → Prop} {img img' : Image} {o : UInt64} {v : View} {fname : List UInt8}

/-- `cx_truthy` reads an object's truth. -/
theorem truthy_run (hs : Shows heap img.mem o v) : (truthy o).run img = .ok (v.truth, img) := by
  unfold truthy View.truth
  refine run_bind_eq_ok.2 ⟨v.kind, img, load_run hs.kind, ?_⟩
  split_ifs
  · rfl
  · exact run_bind_eq_ok.2 ⟨v.int, img, load_run hs.int, rfl⟩
  · exact run_bind_eq_ok.2 ⟨v.dbl, img, load_run hs.dbl, rfl⟩
  · exact run_bind_eq_ok.2 ⟨v.count, img, load_run hs.count, rfl⟩
  · rfl

/-- Expecting an integer of an integer object gives its value. -/
theorem expectInt_int (hs : Shows heap img.mem o v) (hi : v.isInt = true) :
    (expectInt o fname).run img = .ok (some v.int, img) := by
  have hi' : (v.kind == Obj.integer || v.kind == Obj.bool) = true := hi
  unfold expectInt
  refine run_bind_eq_ok.2 ⟨v.kind, img, load_run hs.kind, ?_⟩
  rw [if_pos hi']
  exact run_bind_eq_ok.2 ⟨v.int, img, load_run hs.int, rfl⟩

/-- Expecting an integer of any other object raises a type error. -/
theorem expectInt_other (hs : Shows heap img.mem o v) (hi : v.isInt = false)
    (hr : (raise "cx_type_error_s" (fname ++ bytes "() an integer is required")).run img =
      .ok ((), img')) :
    (expectInt o fname).run img = .ok (none, img') := by
  have hi' : ¬ (v.kind == Obj.integer || v.kind == Obj.bool) = true := by
    rw [Bool.not_eq_true]
    exact hi
  unfold expectInt
  refine run_bind_eq_ok.2 ⟨v.kind, img, load_run hs.kind, ?_⟩
  rw [if_neg hi']
  exact run_bind_eq_ok.2 ⟨(), img', hr, rfl⟩

/-- After its integer check, `cx_expect_range` reads the kind and the unsigned mark and checks
the range: what it decides is whether the value lies in the range. -/
theorem expectRange_check {lo hi : Int} {what : String} (hs : Shows heap img.mem o v)
    (hhi : hi < 2 ^ 63) (hint : v.isInt = true) {r : Option UInt64}
    (hr : (if lo ≤ v.value ∧ v.value ≤ hi then (pure (some v.int) : ImgM (Option UInt64))
      else do
        raise "cx_overflow_error_s" (fname ++ bytes "() " ++ bytes what ++ bytes " out of range")
        pure none).run img = .ok (r, img')) :
    (expectRange o lo hi what fname).run img = .ok (r, img') := by
  have hcheck := @rangeCheck_eq v lo hi hhi
  unfold View.isUnsigned at hcheck
  unfold expectRange
  refine run_bind_eq_ok.2 ⟨some v.int, img, expectInt_int hs hint, ?_⟩
  refine run_bind_eq_ok.2 ⟨v.kind, img, load_run hs.kind, ?_⟩
  refine run_bind_eq_ok.2 ⟨v.unsigned, img, load_run hs.unsigned, ?_⟩
  dsimp only
  rw [hcheck]
  split_ifs at hr ⊢ with hin <;> simp_all

/-- Expecting an integer in a range of any other object raises a type error. -/
theorem expectRange_other {lo hi : Int} {what : String} (hs : Shows heap img.mem o v)
    (hint : v.isInt = false)
    (hr : (raise "cx_type_error_s" (fname ++ bytes "() an integer is required")).run img =
      .ok ((), img')) :
    (expectRange o lo hi what fname).run img = .ok (none, img') := by
  unfold expectRange
  exact run_bind_eq_ok.2 ⟨none, img', expectInt_other hs hint hr, rfl⟩

/-- Expecting a float of a float or an integer gives its double. -/
theorem expectFloat_ok (hs : Shows heap img.mem o v) (hf : (v.kind == Obj.float || v.isInt) = true) :
    (expectFloat o fname).run img = .ok (some v.double, img) := by
  unfold expectFloat View.double
  refine run_bind_eq_ok.2 ⟨v.kind, img, load_run hs.kind, ?_⟩
  by_cases hfl : (v.kind == Obj.float) = true
  · rw [if_pos hfl, if_pos hfl]
    exact run_bind_eq_ok.2 ⟨v.dbl, img, load_run hs.dbl, rfl⟩
  · have hi : (v.kind == Obj.integer || v.kind == Obj.bool) = true := by
      simpa [hfl, View.isInt] using hf
    rw [if_neg hfl, if_neg hfl, if_pos hi]
    exact run_bind_eq_ok.2 ⟨v.int, img, load_run hs.int, rfl⟩

/-- Expecting a float of any other object raises a type error. -/
theorem expectFloat_other (hs : Shows heap img.mem o v)
    (hf : (v.kind == Obj.float || v.isInt) = false)
    (hr : (raise "cx_type_error_s" (fname ++ bytes "() a float is required")).run img =
      .ok ((), img')) :
    (expectFloat o fname).run img = .ok (none, img') := by
  have hfl : ¬ (v.kind == Obj.float) = true := by simp_all
  have hi : ¬ (v.kind == Obj.integer || v.kind == Obj.bool) = true := by
    simp_all [View.isInt]
  unfold expectFloat
  refine run_bind_eq_ok.2 ⟨v.kind, img, load_run hs.kind, ?_⟩
  rw [if_neg hfl, if_neg hi]
  exact run_bind_eq_ok.2 ⟨(), img', hr, rfl⟩

end Reads

/-! ### Parsing one item -/

section Codes

variable {heap : Nat → Prop} {img img' : Image} {o out : UInt64} {v : View}
  {fname : List UInt8} {ok : Bool}

/-- Storing and answering true ends in the store's image. -/
theorem store_true_run {k : NumKind} {x : UInt64} (h : img.store k out x = .ok img') :
    (do store k out x; pure true : ImgM Bool).run img = .ok (true, img') :=
  run_bind_eq_ok.2 ⟨(), img', store_run h, rfl⟩

/-- Raising and answering false ends in the raise's image. -/
theorem raise_false_run {ty : String} {msg : List UInt8}
    (h : (raise ty msg).run img = .ok ((), img')) :
    (do raise ty msg; pure false : ImgM Bool).run img = .ok (false, img') :=
  run_bind_eq_ok.2 ⟨(), img', h, rfl⟩

/-- Parsing by `p` ends as its outcome says. -/
theorem parseAs_truth (hs : Shows heap img.mem o v)
    (h : Ends img out (ParseCode.truth.outcome fname o v) ok img') :
    (parseAs o out fname .truth).run img = .ok (ok, img') := by
  obtain ⟨rfl, hst⟩ := h
  exact run_bind_eq_ok.2 ⟨v.truth, img, truthy_run hs, store_true_run hst⟩

/-- Parsing by `c` ends as its outcome says. -/
theorem parseAs_char (hs : Shows heap img.mem o v)
    (h : Ends img out (ParseCode.char.outcome fname o v) ok img') :
    (parseAs o out fname .char).run img = .ok (ok, img') := by
  unfold parseAs
  refine run_bind_eq_ok.2 ⟨v.kind, img, load_run hs.kind, ?_⟩
  refine run_bind_eq_ok.2 ⟨v.count, img, load_run hs.count, ?_⟩
  simp only [ParseCode.outcome] at h
  by_cases hc : v.isChar = true
  · have hc' : (v.kind == Obj.string && v.count == 1) = true := hc
    obtain ⟨hk, hn⟩ : v.kind = Obj.string ∧ v.count = 1 := by simpa [View.isChar] using hc
    rw [if_pos hc] at h
    obtain ⟨rfl, hst⟩ := h
    rw [if_pos hc']
    refine run_bind_eq_ok.2 ⟨v.str, img, load_run hs.str, ?_⟩
    exact run_bind_eq_ok.2 ⟨v.first, img, load_run (hs.first hk hn), store_true_run hst⟩
  · have hc' : ¬ (v.kind == Obj.string && v.count == 1) = true := hc
    rw [if_neg hc] at h
    rw [if_neg hc']
    by_cases hk : (v.kind == Obj.integer) = true
    · rw [if_pos hk, View.ofInt_value] at h
      obtain ⟨rfl, hst⟩ := h
      rw [if_pos hk]
      exact run_bind_eq_ok.2 ⟨v.int, img, load_run hs.int, store_true_run hst⟩
    · rw [if_neg hk] at h
      obtain ⟨rfl, hr⟩ := h
      rw [if_neg hk]
      exact raise_false_run hr

/-- Parsing an integer in a range ends as its outcome says. -/
theorem parseAs_ranged {lo hi : Int} {what : String} {k : NumKind} (hs : Shows heap img.mem o v)
    (hhi : hi < 2 ^ 63) (h : Ends img out ((ParseCode.ranged lo hi what k).outcome fname o v) ok img') :
    (parseAs o out fname (.ranged lo hi what k)).run img = .ok (ok, img') := by
  unfold parseAs
  simp only [ParseCode.outcome] at h
  by_cases hint : v.isInt = true
  · rw [if_neg (by simp [hint])] at h
    by_cases hin : lo ≤ v.value ∧ v.value ≤ hi
    · rw [if_pos hin, View.ofInt_value] at h
      obtain ⟨rfl, hst⟩ := h
      exact run_bind_eq_ok.2 ⟨some v.int, img,
        expectRange_check hs hhi hint (by rw [if_pos hin]; rfl), store_true_run hst⟩
    · rw [if_neg hin] at h
      obtain ⟨rfl, hraise⟩ := h
      exact run_bind_eq_ok.2 ⟨none, img', expectRange_check hs hhi hint
        (by rw [if_neg hin]; exact run_bind_eq_ok.2 ⟨(), img', hraise, rfl⟩), rfl⟩
  · rw [if_pos (by simpa using hint)] at h
    obtain ⟨rfl, hraise⟩ := h
    exact run_bind_eq_ok.2 ⟨none, img', expectRange_other hs (by simpa using hint) hraise, rfl⟩

/-- Parsing by `b` ends as its outcome says. -/
theorem parseAs_byte (hs : Shows heap img.mem o v)
    (h : Ends img out (ParseCode.byte.outcome fname o v) ok img') :
    (parseAs o out fname .byte).run img = .ok (ok, img') := by
  unfold parseAs
  simp only [ParseCode.outcome] at h
  by_cases hint : v.isInt = true
  · rw [if_neg (by simp [hint])] at h
    have hcheck := byteCheck_iff v
    unfold View.isUnsigned at hcheck
    refine run_bind_eq_ok.2 ⟨some v.int, img, expectInt_int hs hint, ?_⟩
    refine run_bind_eq_ok.2 ⟨v.kind, img, load_run hs.kind, ?_⟩
    refine run_bind_eq_ok.2 ⟨v.unsigned, img, load_run hs.unsigned, ?_⟩
    dsimp only
    by_cases hin : 0 ≤ v.value ∧ v.value ≤ 255
    · rw [if_pos hin, View.ofInt_value] at h
      obtain ⟨rfl, hst⟩ := h
      rw [if_neg (fun hbad => hcheck.1 hbad hin)]
      exact store_true_run hst
    · rw [if_neg hin] at h
      obtain ⟨rfl, hraise⟩ := h
      rw [if_pos (hcheck.2 hin)]
      exact raise_false_run hraise
  · rw [if_pos (by simpa using hint)] at h
    obtain ⟨rfl, hraise⟩ := h
    exact run_bind_eq_ok.2 ⟨none, img', expectInt_other hs (by simpa using hint) hraise, rfl⟩

/-- Parsing a wrapping integer ends as its outcome says. -/
theorem parseAs_wrapping {k : NumKind} (hs : Shows heap img.mem o v)
    (h : Ends img out ((ParseCode.wrapping k).outcome fname o v) ok img') :
    (parseAs o out fname (.wrapping k)).run img = .ok (ok, img') := by
  unfold parseAs
  simp only [ParseCode.outcome] at h
  by_cases hint : v.isInt = true
  · rw [if_pos hint, View.ofInt_value] at h
    obtain ⟨rfl, hst⟩ := h
    exact run_bind_eq_ok.2 ⟨some v.int, img, expectInt_int hs hint, store_true_run hst⟩
  · rw [if_neg hint] at h
    obtain ⟨rfl, hraise⟩ := h
    exact run_bind_eq_ok.2 ⟨none, img', expectInt_other hs (by simpa using hint) hraise, rfl⟩

/-- Parsing by `f` ends as its outcome says. -/
theorem parseAs_single (hs : Shows heap img.mem o v)
    (h : Ends img out (ParseCode.single.outcome fname o v) ok img') :
    (parseAs o out fname .single).run img = .ok (ok, img') := by
  unfold parseAs
  simp only [ParseCode.outcome] at h
  by_cases hf : (v.kind == Obj.float || v.isInt) = true
  · rw [if_pos hf] at h
    obtain ⟨rfl, hst⟩ := h
    exact run_bind_eq_ok.2 ⟨some v.double, img, expectFloat_ok hs hf, store_true_run hst⟩
  · rw [if_neg hf] at h
    obtain ⟨rfl, hraise⟩ := h
    exact run_bind_eq_ok.2 ⟨none, img', expectFloat_other hs (by simpa using hf) hraise, rfl⟩

/-- Parsing by `d` ends as its outcome says. -/
theorem parseAs_double (hs : Shows heap img.mem o v)
    (h : Ends img out (ParseCode.double.outcome fname o v) ok img') :
    (parseAs o out fname .double).run img = .ok (ok, img') := by
  unfold parseAs
  simp only [ParseCode.outcome] at h
  by_cases hf : (v.kind == Obj.float || v.isInt) = true
  · rw [if_pos hf] at h
    obtain ⟨rfl, hst⟩ := h
    exact run_bind_eq_ok.2 ⟨some v.double, img, expectFloat_ok hs hf, store_true_run hst⟩
  · rw [if_neg hf] at h
    obtain ⟨rfl, hraise⟩ := h
    exact run_bind_eq_ok.2 ⟨none, img', expectFloat_other hs (by simpa using hf) hraise, rfl⟩

/-- Parsing by `s` ends as its outcome says. -/
theorem parseAs_string (hs : Shows heap img.mem o v)
    (h : Ends img out (ParseCode.string.outcome fname o v) ok img') :
    (parseAs o out fname .string).run img = .ok (ok, img') := by
  unfold parseAs
  simp only [ParseCode.outcome] at h
  refine run_bind_eq_ok.2 ⟨v.kind, img, load_run hs.kind, ?_⟩
  by_cases hk : (v.kind == Obj.string) = true
  · rw [if_pos hk] at h
    obtain ⟨rfl, hst⟩ := h
    rw [if_neg (by simpa using hk)]
    exact run_bind_eq_ok.2 ⟨v.str, img, load_run hs.str, store_true_run hst⟩
  · rw [if_neg hk] at h
    obtain ⟨rfl, hraise⟩ := h
    rw [if_pos (by simpa using hk)]
    exact raise_false_run hraise

/-- Parsing an item by a code of a format ends as its outcome says. -/
theorem parseAs_run {pc : ParseCode} (hs : Shows heap img.mem o v) (hpc : pc.Signed)
    (h : Ends img out (pc.outcome fname o v) ok img') :
    (parseAs o out fname pc).run img = .ok (ok, img') := by
  cases pc with
  | truth => exact parseAs_truth hs h
  | char => exact parseAs_char hs h
  | ranged lo hi what k => exact parseAs_ranged hs hpc h
  | byte => exact parseAs_byte hs h
  | wrapping k => exact parseAs_wrapping hs h
  | single => exact parseAs_single hs h
  | double => exact parseAs_double hs h
  | string => exact parseAs_string hs h
  | object =>
    obtain ⟨rfl, hst⟩ := h
    exact store_true_run hst

end Codes

/-! ### Parsing the items of a tuple -/

/-- Whether a format code accepts an object; a character that is not a code accepts none. -/
def codeAccepts (c : UInt8) (v : View) : Bool :=
  match ParseCode.of c with
  | some pc => pc.accepts v
  | none => false

/-- What parsing the object at `o` by a format code does; a character that is not a code
raises a runtime error. -/
def codeOutcome (fname : List UInt8) (c : UInt8) (o : UInt64) (v : View) :
    Except (String × List UInt8) (NumKind × UInt64) :=
  match ParseCode.of c with
  | some pc => pc.outcome fname o v
  | none => .error ("cx_runtime_error_s", fname ++ bytes "() bad format char '" ++ [c] ++ bytes "'")

/-- A format code stores exactly the objects it accepts. -/
theorem codeOutcome_ok_iff (fname : List UInt8) (c : UInt8) (o : UInt64) (v : View) :
    (∃ s, codeOutcome fname c o v = .ok s) ↔ codeAccepts c v = true := by
  unfold codeOutcome codeAccepts
  cases ParseCode.of c with
  | some pc => exact pc.outcome_ok_iff fname o v
  | none => simp

/-- Every error a format code raises is one of the runtime's static error types. -/
theorem codeOutcome_error_type {fname : List UInt8} {c : UInt8} {o : UInt64} {v : View}
    {ty : String} {msg : List UInt8} (h : codeOutcome fname c o v = .error (ty, msg)) :
    ty ∈ errorTypes := by
  unfold codeOutcome at h
  cases hpc : ParseCode.of c with
  | none =>
    simp only [hpc, Except.error.injEq, Prod.mk.injEq] at h
    rw [← h.1]
    simp [errorTypes]
  | some pc =>
    simp only [hpc] at h
    cases pc <;> simp only [ParseCode.outcome] at h <;> (try split_ifs at h) <;>
      simp only [Except.error.injEq, Prod.mk.injEq, reduceCtorEq] at h <;> rw [← h.1] <;>
      simp [errorTypes]

/-- Parsing one item by its code ends as the code's outcome says, through the next pointer. -/
theorem parseOne_run {heap : Nat → Prop} {img img' : Image} {o : UInt64} {v : View}
    {c : UInt8} {va : VaList} {fname : List UInt8} {ok : Bool} (hs : Shows heap img.mem o v)
    (h : Ends img va.nextInt.1 (codeOutcome fname c o v) ok img') :
    (parseOne o c va fname).run img = .ok ((ok, va.nextInt.2), img') := by
  unfold codeOutcome at h
  unfold parseOne
  generalize va.nextInt = p at h ⊢
  obtain ⟨out, va'⟩ := p
  dsimp only at h ⊢
  cases hpc : ParseCode.of c with
  | some pc =>
    simp only [hpc] at h
    exact run_bind_eq_ok.2 ⟨ok, img', parseAs_run hs (ParseCode.of_signed hpc) h, rfl⟩
  | none =>
    simp only [hpc] at h
    obtain ⟨rfl, hr⟩ := h
    exact run_bind_eq_ok.2 ⟨(), img', hr, rfl⟩

/-- What a parse does to memory: stores of a kind, at an address, of a word, in order, and the
error it ends with, if any. -/
structure Plan where
  stores : List (NumKind × UInt64 × UInt64)
  error : Option (String × List UInt8)

/-- Make stores in order. -/
def storeAll (img : Image) : List (NumKind × UInt64 × UInt64) → Except Fault Image
  | [] => .ok img
  | (k, a, x) :: ss => do storeAll (← img.store k a x) ss

/-- A run from `img` that answered `ok` and left `img'` made the plan's stores in order and then
raised the plan's error, if it has one; it answered true exactly when there is none. -/
def Plan.Leaves (p : Plan) (img : Image) (ok : Bool) (img' : Image) : Prop :=
  ∃ img0, storeAll img p.stores = .ok img0 ∧
    match p.error with
    | none => ok = true ∧ img' = img0
    | some (ty, msg) => ok = false ∧ (raise ty msg).run img0 = .ok ((), img')

/-- A plan ends well exactly when it has no error. -/
theorem Plan.Leaves.ok_iff {p : Plan} {img img' : Image} {ok : Bool} (h : p.Leaves img ok img') :
    ok = true ↔ p.error = none := by
  obtain ⟨img0, -, h⟩ := h
  cases he : p.error with
  | none =>
    rw [he] at h
    simp [h.1]
  | some e =>
    rw [he] at h
    simp [h.1]

/-- The plan of the items from one on: each accepted item is stored through the next pointer,
and the first refused one ends the plan with its error. -/
def itemsPlan (fname : List UInt8) : List UInt8 → List (UInt64 × View) → VaList → Plan
  | c :: cs, (o, v) :: os, va =>
    match codeOutcome fname c o v with
    | .ok (k, x) =>
      let rest := itemsPlan fname cs os va.nextInt.2
      ⟨(k, va.nextInt.1, x) :: rest.stores, rest.error⟩
    | .error e => ⟨[], some e⟩
  | _, _, _ => ⟨[], none⟩

/-- The items plan ends in no error exactly when every code accepts its item. -/
theorem itemsPlan_error_eq_none (fname : List UInt8) {codes : List UInt8}
    {objs : List (UInt64 × View)} (hlen : objs.length = codes.length) (va : VaList) :
    (itemsPlan fname codes objs va).error = none ↔
      List.Forall₂ (fun c o => codeAccepts c o.2 = true) codes objs := by
  induction codes generalizing objs va with
  | nil =>
    rw [List.length_eq_zero_iff.1 hlen]
    simp [itemsPlan]
  | cons c cs ih =>
    obtain ⟨⟨o, v⟩, os, rfl⟩ := List.exists_cons_of_length_eq_add_one hlen
    have hos : os.length = cs.length := by simpa using hlen
    rw [List.forall₂_cons, ← codeOutcome_ok_iff fname c o v, ← ih hos va.nextInt.2]
    simp only [itemsPlan]
    cases codeOutcome fname c o v with
    | ok s => simp
    | error e => simp

/-- The items of a tuple from index `i` on: each one's address is the word at its index, in the
heap, and shows its view. -/
def ItemsAt (heap : Nat → Prop) (m : Memory) (items : UInt64) : Nat → List (UInt64 × View) → Prop
  | _, [] => True
  | i, (o, v) :: os =>
    m.load .u64 (items + 8 * i.toUInt64) = .ok o ∧ heap (Memory.blockOf (items + 8 * i.toUInt64)) ∧
      Shows heap m o v ∧ ItemsAt heap m items (i + 1) os

/-- A store outside the heap keeps every tuple's items. -/
theorem ItemsAt.store {heap : Nat → Prop} {img img' : Image} {k : NumKind} {a x : UInt64}
    (hst : img.store k a x = .ok img') (ha : ¬ heap (Memory.blockOf a)) {items : UInt64} :
    ∀ {i : Nat} {objs : List (UInt64 × View)}, ItemsAt heap img.mem items i objs →
      ItemsAt heap img'.mem items i objs
  | _, [], _ => trivial
  | _, (_, _) :: _, ⟨hload, hheap, hs, hrest⟩ =>
    ⟨Image.load_store hst (fun heq => ha (heq ▸ hheap)) hload, hheap, hs.store hst ha,
      ItemsAt.store hst ha hrest⟩

/-- A store that lands inside a block outside the heap. -/
def Writable (heap : Nat → Prop) (m : Memory) (s : NumKind × UInt64 × UInt64) : Prop :=
  (∃ b off, m.locate s.2.1 s.1.size = .ok (b, off)) ∧ ¬ heap (Memory.blockOf s.2.1)

/-- A store keeps every other store writable. -/
theorem Writable.store {heap : Nat → Prop} {img img' : Image} {k : NumKind} {a x : UInt64}
    (hst : img.store k a x = .ok img') {s : NumKind × UInt64 × UInt64}
    (h : Writable heap img.mem s) : Writable heap img'.mem s := by
  obtain ⟨⟨b, off, hl⟩, hheap⟩ := h
  refine ⟨⟨b, off, ?_⟩, hheap⟩
  rw [Memory.locate_eq_of_sameSizes (Image.store_sameSizes hst)]
  exact hl

/-- Parsing a tuple's items from index `i` on ends, as the items plan says, where every store
of the plan is writable. The induction follows the codes; each accepted item's store keeps the
error cells, the items and the other stores' targets. -/
theorem parseItems_run {heap : Nat → Prop} {items : UInt64} {fname : List UInt8} :
    ∀ {codes : List UInt8} {i : Nat} {objs : List (UInt64 × View)} {va : VaList} {img : Image},
      ErrorCells img → ItemsAt heap img.mem items i objs → objs.length = codes.length →
      (∀ s ∈ (itemsPlan fname codes objs va).stores, Writable heap img.mem s) →
      ∃ ok img', (parseItems items fname codes i va).run img = .ok (ok, img') ∧
        (itemsPlan fname codes objs va).Leaves img ok img'
  | [], _, objs, _, img, _, _, hlen, _ => by
    rw [List.length_eq_zero_iff.1 hlen]
    exact ⟨true, img, rfl, img, rfl, rfl, rfl⟩
  | c :: cs, i, objs, va, img, hcells, hitems, hlen, hout => by
    obtain ⟨⟨o, v⟩, os, rfl⟩ := List.exists_cons_of_length_eq_add_one hlen
    have hos : os.length = cs.length := by simpa using hlen
    obtain ⟨hload, -, hs, hrest⟩ := hitems
    cases hco : codeOutcome fname c o v with
    | ok s =>
      obtain ⟨k, x⟩ := s
      have hplan : itemsPlan fname (c :: cs) ((o, v) :: os) va =
          ⟨(k, va.nextInt.1, x) :: (itemsPlan fname cs os va.nextInt.2).stores,
            (itemsPlan fname cs os va.nextInt.2).error⟩ := by
        simp only [itemsPlan, hco]
      rw [hplan] at hout ⊢
      -- the accepted item is stored, and the rest of the items are parsed after the store
      obtain ⟨⟨b, off, hl⟩, hheap⟩ := hout _ List.mem_cons_self
      have hst := Image.store_ok hl x
      have hone := parseOne_run hs
        (show Ends img va.nextInt.1 (codeOutcome fname c o v) true _ by
          rw [hco]
          exact ⟨rfl, hst⟩)
      obtain ⟨ok, img', hrun, img0, hall, hend⟩ :=
        parseItems_run (hcells.store hst) (ItemsAt.store hst hheap hrest) hos
          (fun s hs => (hout s (List.mem_cons_of_mem _ hs)).store hst)
      refine ⟨ok, img', ?_, img0, ?_, hend⟩
      · refine run_bind_eq_ok.2 ⟨o, img, load_run hload, ?_⟩
        exact run_bind_eq_ok.2 ⟨(true, va.nextInt.2), _, hone, hrun⟩
      · simp only [storeAll, hst]
        exact hall
    | error e =>
      obtain ⟨ty, msg⟩ := e
      have hplan : itemsPlan fname (c :: cs) ((o, v) :: os) va = ⟨[], some (ty, msg)⟩ := by
        simp only [itemsPlan, hco]
      -- the refused item raises its error and ends the parse
      obtain ⟨img', hr⟩ := raise_ok hcells (codeOutcome_error_type hco) msg
      have hone := parseOne_run hs
        (show Ends img va.nextInt.1 (codeOutcome fname c o v) false img' by
          rw [hco]
          exact ⟨rfl, hr⟩)
      refine ⟨false, img', ?_, ?_⟩
      · refine run_bind_eq_ok.2 ⟨o, img, load_run hload, ?_⟩
        exact run_bind_eq_ok.2 ⟨(false, va.nextInt.2), img', hone, rfl⟩
      · rw [hplan]
        exact ⟨img, rfl, rfl, hr⟩

/-! ### Parsing an argument tuple -/

/-- The codes of a format are those before its colon. -/
theorem formatCodes_append {codes fname : List UInt8} (h : 58 ∉ codes) :
    formatCodes (codes ++ 58 :: fname) = codes := by
  unfold formatCodes
  rw [List.takeWhile_append_of_pos (fun a ha => by simpa using (fun he : a = 58 => h (he ▸ ha)))]
  simp

/-- The name of a format is what follows its colon. -/
theorem formatName_append {codes fname : List UInt8} (h : 58 ∉ codes) :
    formatName (codes ++ 58 :: fname) = fname := by
  unfold formatName
  rw [List.dropWhile_append_of_pos (fun a ha => by simpa using (fun he : a = 58 => h (he ▸ ha)))]
  simp

/-- The argument object of a parse as memory holds it: null, an object that is not a tuple, or
a tuple whose count is the number of its items, each in the heap at its item word. -/
inductive ArgsAt (heap : Nat → Prop) (m : Memory) : UInt64 → View → List (UInt64 × View) → Prop
  | null (A : View) : ArgsAt heap m 0 A []
  | other {args : UInt64} {A : View} (hs : Shows heap m args A) (hk : A.kind ≠ Obj.tuple) :
      ArgsAt heap m args A []
  | tuple {args : UInt64} {A : View} {objs : List (UInt64 × View)} (hs : Shows heap m args A)
      (hk : A.kind = Obj.tuple) (hcount : A.count.toInt64.toInt = objs.length)
      (hitems : ItemsAt heap m A.items 0 objs) : ArgsAt heap m args A objs

/-- A store outside the heap keeps the argument object. -/
theorem ArgsAt.store {heap : Nat → Prop} {img img' : Image} {k : NumKind} {a x : UInt64}
    (hst : img.store k a x = .ok img') (ha : ¬ heap (Memory.blockOf a)) {args : UInt64}
    {A : View} {objs : List (UInt64 × View)} (h : ArgsAt heap img.mem args A objs) :
    ArgsAt heap img'.mem args A objs := by
  cases h with
  | null A => exact .null A
  | other hs hk => exact .other (hs.store hst ha) hk
  | tuple hs hk hcount hitems => exact .tuple (hs.store hst ha) hk hcount (hitems.store hst ha)

/-- The plan of a parse: a null or non-tuple argument and a wrong count are refused before any
item is read; otherwise the items are parsed. -/
def tuplePlan (fname codes : List UInt8) (args : UInt64) (A : View)
    (objs : List (UInt64 × View)) (va : VaList) : Plan :=
  if args = 0 ∨ A.kind ≠ Obj.tuple then
    ⟨[], some ("cx_type_error_s", fname ++ bytes "() argument list must be a tuple")⟩
  else if objs.length ≠ codes.length then
    ⟨[], some ("cx_type_error_s", fname ++ bytes "() takes exactly " ++
      bytes (toString codes.length) ++ bytes " arguments (" ++ bytes (toString objs.length) ++
      bytes " given)")⟩
  else itemsPlan fname codes objs va

/-- A parse ends in no error exactly when the argument is a tuple with one item per code, each
accepted by its code. -/
theorem tuplePlan_error_eq_none (fname codes : List UInt8) (args : UInt64) (A : View)
    (objs : List (UInt64 × View)) (va : VaList) :
    (tuplePlan fname codes args A objs va).error = none ↔
      args ≠ 0 ∧ A.kind = Obj.tuple ∧
        List.Forall₂ (fun c o => codeAccepts c o.2 = true) codes objs := by
  unfold tuplePlan
  by_cases ht : args = 0 ∨ A.kind ≠ Obj.tuple
  · rw [if_pos ht]
    simp only [reduceCtorEq, false_iff]
    tauto
  · rw [if_neg ht]
    have ht' : args ≠ 0 ∧ A.kind = Obj.tuple := by tauto
    simp only [ht', ne_eq, not_false_eq_true, true_and]
    by_cases hlen : objs.length = codes.length
    · rw [if_neg (not_not_intro hlen), itemsPlan_error_eq_none fname hlen]
    · rw [if_pos hlen]
      simp only [reduceCtorEq, false_iff]
      exact fun hall => hlen hall.length_eq.symm

/-- Whether the argument is a tuple is read off its view, changing nothing. -/
theorem isTupleArg_run {heap : Nat → Prop} {img : Image} {args : UInt64} {A : View}
    {objs : List (UInt64 × View)} (hargs : ArgsAt heap img.mem args A objs) :
    (isTupleArg args).run img = .ok (decide (args ≠ 0 ∧ A.kind = Obj.tuple), img) := by
  unfold isTupleArg
  by_cases h0 : args = 0
  · subst h0
    simp only [beq_self_eq_true, if_true, ne_eq, not_true_eq_false, false_and, decide_false]
    rfl
  · rw [if_neg (by simpa using h0)]
    -- a non-null argument is an object, and its kind is read
    have hkind : img.mem.load .i32 (args + Obj.kind) = .ok A.kind := by
      cases hargs with
      | null => exact absurd rfl h0
      | other hs => exact hs.kind
      | tuple hs => exact hs.kind
    refine run_bind_eq_ok.2 ⟨A.kind, img, load_run hkind, ?_⟩
    have htuple : (A.kind == Obj.tuple) = decide (args ≠ 0 ∧ A.kind = Obj.tuple) := by
      rw [Bool.eq_iff_iff]
      simp [h0]
    rw [htuple]
    rfl

/-- Parsing an argument tuple by any format ends, as the plan of the format's codes and name
says, where every store of the plan is writable. -/
theorem parseTuple_run_format {heap : Nat → Prop} {img : Image} {args : UInt64} {A : View}
    {objs : List (UInt64 × View)} {fmt : List UInt8} {va : VaList}
    (hcells : ErrorCells img) (hargs : ArgsAt heap img.mem args A objs)
    (hout : ∀ s ∈ (tuplePlan (formatName fmt) (formatCodes fmt) args A objs va).stores,
      Writable heap img.mem s) :
    ∃ ok img', (parseTuple args fmt va).run img = .ok (if ok then 1 else 0, img') ∧
      (tuplePlan (formatName fmt) (formatCodes fmt) args A objs va).Leaves img ok img' := by
  unfold parseTuple
  dsimp only
  generalize formatName fmt = fname at hout ⊢
  generalize formatCodes fmt = codes at hout ⊢
  by_cases ht : args ≠ 0 ∧ A.kind = Obj.tuple
  case neg =>
    -- not a tuple: refused before anything is read but the kind
    have hplan : tuplePlan fname codes args A objs va =
        ⟨[], some ("cx_type_error_s", fname ++ bytes "() argument list must be a tuple")⟩ := by
      unfold tuplePlan
      rw [if_pos (by tauto)]
    obtain ⟨img', hr⟩ := raise_ok hcells (show "cx_type_error_s" ∈ errorTypes by simp [errorTypes])
      (fname ++ bytes "() argument list must be a tuple")
    refine ⟨false, img', ?_, ?_⟩
    · refine run_bind_eq_ok.2 ⟨false, img, ?_, ?_⟩
      · rw [isTupleArg_run hargs, decide_eq_false ht]
      · exact run_bind_eq_ok.2 ⟨(), img', hr, rfl⟩
    · rw [hplan]
      exact ⟨img, rfl, rfl, hr⟩
  case pos =>
    have hcheck : ¬ (args = 0 ∨ A.kind ≠ Obj.tuple) := by tauto
    obtain ⟨hs, hcount, hitems⟩ : Shows heap img.mem args A ∧
        A.count.toInt64.toInt = objs.length ∧ ItemsAt heap img.mem A.items 0 objs := by
      cases hargs with
      | null => exact absurd rfl ht.1
      | other _ hk => exact absurd ht.2 hk
      | tuple hs _ hcount hitems => exact ⟨hs, hcount, hitems⟩
    have htuple : (isTupleArg args).run img = .ok (true, img) := by
      rw [isTupleArg_run hargs, decide_eq_true ht]
    by_cases hlen : objs.length = codes.length
    case neg =>
      -- a tuple of the wrong size: refused after its count is read
      let msg := fname ++ bytes "() takes exactly " ++ bytes (toString codes.length) ++
        bytes " arguments (" ++ bytes (toString objs.length) ++ bytes " given)"
      have hplan : tuplePlan fname codes args A objs va = ⟨[], some ("cx_type_error_s", msg)⟩ := by
        unfold tuplePlan
        rw [if_neg hcheck, if_pos hlen]
      obtain ⟨img', hr⟩ := raise_ok hcells (show "cx_type_error_s" ∈ errorTypes by simp [errorTypes]) msg
      have hne : ((objs.length : Int) != (codes.length : Int)) = true := by simpa using hlen
      refine ⟨false, img', ?_, ?_⟩
      · refine run_bind_eq_ok.2 ⟨true, img, htuple, ?_⟩
        refine run_bind_eq_ok.2 ⟨A.count, img, load_run hs.count, ?_⟩
        rw [hcount, if_pos hne]
        exact run_bind_eq_ok.2 ⟨(), img', hr, rfl⟩
      · rw [hplan]
        exact ⟨img, rfl, rfl, hr⟩
    case pos =>
      -- a tuple of the right size: its items are parsed
      have hplan : tuplePlan fname codes args A objs va = itemsPlan fname codes objs va := by
        unfold tuplePlan
        rw [if_neg hcheck, if_neg (not_not_intro hlen)]
      rw [hplan] at hout ⊢
      obtain ⟨ok, img', hrun, hleaves⟩ := parseItems_run hcells hitems hlen hout
      have heq : ((objs.length : Int) != (codes.length : Int)) = false := by simpa using hlen
      refine ⟨ok, img', ?_, hleaves⟩
      refine run_bind_eq_ok.2 ⟨true, img, htuple, ?_⟩
      refine run_bind_eq_ok.2 ⟨A.count, img, load_run hs.count, ?_⟩
      rw [hcount, heq]
      refine run_bind_eq_ok.2 ⟨A.items, img, load_run hs.items, ?_⟩
      refine run_bind_eq_ok.2 ⟨ok, img', hrun, ?_⟩
      cases ok <;> rfl

/-- Parsing an argument tuple by a format of codes, a colon and a function name ends, as its
plan says, where every store of the plan is writable. -/
theorem parseTuple_run {heap : Nat → Prop} {img : Image} {args : UInt64} {A : View}
    {objs : List (UInt64 × View)} {codes fname : List UInt8} {va : VaList}
    (hcells : ErrorCells img) (hargs : ArgsAt heap img.mem args A objs) (hcolon : 58 ∉ codes)
    (hout : ∀ s ∈ (tuplePlan fname codes args A objs va).stores, Writable heap img.mem s) :
    ∃ ok img', (parseTuple args (codes ++ 58 :: fname) va).run img =
        .ok (if ok then 1 else 0, img') ∧
      (tuplePlan fname codes args A objs va).Leaves img ok img' := by
  have h := @parseTuple_run_format heap img args A objs (codes ++ 58 :: fname) va hcells hargs
  rw [formatCodes_append hcolon, formatName_append hcolon] at h
  exact h hout

/-- Parsing an argument tuple by a format of codes, a colon and a function name. For every
argument object in memory the parse ends; it answers 1 exactly when the argument is a tuple
with one item per code and each item is accepted by its code, and 0 otherwise; it stores the
items accepted before the first refused one through their pointers, in order, and then raises
the error of the first check that failed. -/
theorem parseTuple_one_iff_accepted {heap : Nat → Prop} {img : Image} {args : UInt64} {A : View}
    {objs : List (UInt64 × View)} {codes fname : List UInt8} {va : VaList}
    (hcells : ErrorCells img) (hargs : ArgsAt heap img.mem args A objs) (hcolon : 58 ∉ codes)
    (hout : ∀ s ∈ (tuplePlan fname codes args A objs va).stores, Writable heap img.mem s) :
    ∃ ok img', (parseTuple args (codes ++ 58 :: fname) va).run img =
        .ok (if ok then 1 else 0, img') ∧
      (ok = true ↔ args ≠ 0 ∧ A.kind = Obj.tuple ∧
        List.Forall₂ (fun c o => codeAccepts c o.2 = true) codes objs) ∧
      (tuplePlan fname codes args A objs va).Leaves img ok img' := by
  obtain ⟨ok, img', hrun, hleaves⟩ := parseTuple_run hcells hargs hcolon hout
  exact ⟨ok, img', hrun, hleaves.ok_iff.trans (tuplePlan_error_eq_none ..), hleaves⟩

/-- A global of a sample image, by name. -/
def sampleGlobal (name : String) : GlobalCode :=
  { name, size := 8, align := 8, init := [], exported := false }

/-- Sample memory: the error type, message buffer and flag in blocks 0 to 2; a tuple of one item
in block 3, whose item word is in block 4; the integer 7 in block 5; an int cell in block 6. -/
def sampleMemory : Memory :=
  let zeros := fun n => ByteArray.mk (Array.replicate n 0)
  let m : Memory := ⟨#[zeros 8, zeros 1024, zeros 4, zeros 80, zeros 8, zeros 80, zeros 4]⟩
  (((((m.storeAt 3 0 4 Obj.tuple).storeAt 3 40 8 1).storeAt 3 48 8 (Memory.base 4)).storeAt 4 0 8
    (Memory.base 5)).storeAt 5 0 4 Obj.integer).storeAt 5 16 8 7

/-- A sample image whose error cells are the first three blocks of `sampleMemory`. -/
def sampleImage : Image where
  lib := { functions := #[], strings := #[], provided := #[], constructors := [],
           unresolved := [],
           globals := (errorTypes ++ ["cx_err_type", "cx_err_buf", "cx_err_flag"]).toArray.map
             sampleGlobal }
  mem := sampleMemory
  globals := #[16, 24, 32, 40, Memory.base 0, Memory.base 1, Memory.base 2]
  strings := #[]
  empty := 0
  stackBlock := 0
  sp := 0

/-- The blocks of the sample's objects. -/
abbrev sampleHeap (b : Nat) : Prop := 4 ≤ b ∧ b ≤ 6

/-- What the sample image holds where the parse reads, read off at once: its error types and
error cells, the fields of the tuple and of the integer, the tuple's item word, and the block of
the int cell. -/
theorem sampleImage_reads :
    (∀ ty ∈ errorTypes, (global sampleImage ty).isSome = true) ∧
      global sampleImage "cx_err_type" = some (Memory.base 0) ∧
      global sampleImage "cx_err_buf" = some (Memory.base 1) ∧
      global sampleImage "cx_err_flag" = some (Memory.base 2) ∧
      sampleMemory.locate (Memory.base 0) NumKind.u64.size = .ok (0, 0) ∧
      sampleMemory.locate (Memory.base 1) 1024 = .ok (1, 0) ∧
      sampleMemory.locate (Memory.base 2) NumKind.i32.size = .ok (2, 0) ∧
      View.ReadsIn ⟨Obj.tuple, 0, 0, 0, 1, Memory.base 4, 0, 0⟩ sampleMemory (Memory.base 3) ∧
      View.ReadsIn ⟨Obj.integer, 7, 0, 0, 0, 0, 0, 0⟩ sampleMemory (Memory.base 5) ∧
      sampleMemory.load .u64 (Memory.base 4 + 8 * (0 : Nat).toUInt64) = .ok (Memory.base 5) ∧
      sampleMemory.locate (Memory.base 6) NumKind.i32.size = .ok (6, 0) := by
  decide +kernel

/-- The sample image has its error cells. -/
theorem sampleImage_errorCells : ErrorCells sampleImage := by
  obtain ⟨types, gtype, gbuf, gflag, htype, hbuf, hflag, -⟩ := sampleImage_reads
  exact ⟨fun ty hty => Option.isSome_iff_exists.1 (types ty hty), ⟨Memory.base 0, 0, 0, gtype, htype⟩,
    ⟨Memory.base 1, 1, 0, gbuf, hbuf⟩, ⟨Memory.base 2, 2, 0, gflag, hflag⟩⟩

/-- The fields of an object at the start of a sample block lie in that block. -/
theorem sample_fields_inHeap {b : Nat} (hb : b = 3 ∨ b = 5) :
    ∀ off ∈ viewOffsets, sampleHeap (Memory.blockOf (Memory.base b + off)) := by
  intro off hoff
  simp only [viewOffsets, List.mem_cons, List.not_mem_nil, or_false] at hoff
  rcases hb with rfl | rfl <;> rcases hoff with rfl | rfl | rfl | rfl | rfl | rfl | rfl <;> decide

/-- The sample tuple holds one item. -/
theorem sampleMemory_tuple :
    Shows sampleHeap sampleMemory (Memory.base 3) ⟨Obj.tuple, 0, 0, 0, 1, Memory.base 4, 0, 0⟩ := by
  obtain ⟨-, -, -, -, -, -, -, htuple, -⟩ := sampleImage_reads
  exact .of_readsIn htuple (by decide) (sample_fields_inHeap (.inl rfl))

/-- The sample item is the integer 7. -/
theorem sampleMemory_seven :
    Shows sampleHeap sampleMemory (Memory.base 5) ⟨Obj.integer, 7, 0, 0, 0, 0, 0, 0⟩ := by
  obtain ⟨-, -, -, -, -, -, -, -, hseven, -⟩ := sampleImage_reads
  exact .of_readsIn hseven (by decide) (sample_fields_inHeap (.inr rfl))

/-- The sample argument is the tuple of 7. -/
theorem sampleMemory_argsAt :
    ArgsAt sampleHeap sampleMemory (Memory.base 3) ⟨Obj.tuple, 0, 0, 0, 1, Memory.base 4, 0, 0⟩
      [(Memory.base 5, ⟨Obj.integer, 7, 0, 0, 0, 0, 0, 0⟩)] := by
  obtain ⟨-, -, -, -, -, -, -, -, -, hitem, -⟩ := sampleImage_reads
  exact .tuple sampleMemory_tuple rfl (by decide) ⟨hitem, by decide, sampleMemory_seven, trivial⟩

/-- Parsing the sample tuple by the format `i:f` (the code `i` for an int, then the name `f`)
stores 7 in the int cell. -/
theorem parseTuple_sample :
    ∃ ok img', (parseTuple (Memory.base 3) ([105] ++ 58 :: [102])
        ⟨#[Memory.base 6], #[], #[], 0, 0, 0⟩).run sampleImage = .ok (if ok then 1 else 0, img') ∧
      (ok = true ↔ Memory.base 3 ≠ 0 ∧ Obj.tuple = Obj.tuple ∧
        List.Forall₂ (fun c o => codeAccepts c o.2 = true) [105]
          [(Memory.base 5, (⟨Obj.integer, 7, 0, 0, 0, 0, 0, 0⟩ : View))]) ∧
      (tuplePlan [102] [105] (Memory.base 3) ⟨Obj.tuple, 0, 0, 0, 1, Memory.base 4, 0, 0⟩
        [(Memory.base 5, ⟨Obj.integer, 7, 0, 0, 0, 0, 0, 0⟩)]
        ⟨#[Memory.base 6], #[], #[], 0, 0, 0⟩).Leaves sampleImage ok img' := by
  have hstores : (tuplePlan [102] [105] (Memory.base 3) ⟨Obj.tuple, 0, 0, 0, 1, Memory.base 4, 0, 0⟩
      [(Memory.base 5, ⟨Obj.integer, 7, 0, 0, 0, 0, 0, 0⟩)]
      ⟨#[Memory.base 6], #[], #[], 0, 0, 0⟩).stores = [(.i32, Memory.base 6, 7)] := by
    rfl
  refine parseTuple_one_iff_accepted sampleImage_errorCells sampleMemory_argsAt (by decide) ?_
  rw [hstores]
  intro s hs
  rw [List.mem_singleton.1 hs]
  obtain ⟨-, -, -, -, -, -, -, -, -, -, hcell⟩ := sampleImage_reads
  exact ⟨⟨6, 0, hcell⟩, by decide⟩

end Objects

end InlineC.Machine
