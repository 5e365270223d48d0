import Mathlib
import InlineC.Proofs.RoundTrip
import InlineC.Host.Session

/-!
# The error of a failed call

The runtime keeps one error state per image: a type, a message buffer of 1024 octets and a
flag. Reading it (`pendingError`) gives the name of the error's type and its message, both
empty when no error is set; `errorOf` is that reading as a function of the image.

An image has an error state (`ErrorState`) when the three cells lie in blocks of their own and
the empty string and the runtime's own error type can be read. Setting, raising and clearing an
error write only the cells (`WritesCells`), so they keep the state, and every other block, as it
was; a memory that changes only blocks the state is read away from (`ErrorAway`) reads the same
error.

From these, `CallErrorLaws` follows a method call through `cx_call`: an argument with no
runtime counterpart fails the call before native code runs; otherwise the function starts with
no error set, and a null result fails the call with the error it left, read once the loader has
dropped the argument tuple, or with a `RuntimeError` when it left none. The loader departs from
the error it reads in two cases, which `namelessImage` shows: an error whose name and
message are both empty is reported as a `RuntimeError` saying the function failed, and a result
the host has no value for fails the call with a `ConversionError`.
-/

namespace InlineC.Machine.Objects

open ImgM Memory InlineC.Lang

/-! ## Reading the error state -/

/-- The address of a global of an image, or the fault `globalAddr` stops with. -/
def cellOf (img : Image) (name : String) : Except Fault UInt64 :=
  match global img name with
  | some a => .ok a
  | none => .error ⟨"no global " ++ name⟩

/-- The word of the error flag. -/
def flagOf (img : Image) : Except Fault UInt64 := do
  img.mem.load .i32 (← cellOf img "cx_err_flag")

/-- Where `cx_err_name` finds the name of the error type at `ty`: the type's name field, or the
empty string when the type or its name is null. -/
def typeNameAddr (img : Image) (ty : UInt64) : Except Fault UInt64 :=
  if ty = 0 then .ok img.empty
  else (img.mem.load .u64 (ty + Obj.str)).map fun s => if s = 0 then img.empty else s

/-- What `cx_err_name` returns. -/
def nameAddrOf (img : Image) : Except Fault UInt64 := do
  if (← flagOf img) = 0 then return img.empty
  typeNameAddr img (← img.mem.load .u64 (← cellOf img "cx_err_type"))

/-- What `cx_err_message` returns. -/
def messageAddrOf (img : Image) : Except Fault UInt64 := do
  if (← flagOf img) = 0 then return img.empty
  cellOf img "cx_err_buf"

/-- The error state of an image as a value: the name of the error's type and its message. -/
def errorOf (img : Image) : Except Fault (List UInt8 × List UInt8) := do
  let name ← img.mem.cString (← nameAddrOf img)
  let msg ← img.mem.cString (← messageAddrOf img)
  pure (name, msg)

/-- A cell found is a global of the image. -/
theorem cellOf_eq {img : Image} {name : String} {a : UInt64} (h : cellOf img name = .ok a) :
    global img name = some a := by
  unfold cellOf at h
  split at h <;> simp_all

/-- Whether an error is set is whether the flag is not zero. -/
theorem errorSet_run {img : Image} {f : UInt64} (hf : flagOf img = .ok f) :
    errorSet.run img = .ok (f != 0, img) := by
  obtain ⟨t, ht, hf⟩ := except_bind_eq_ok.1 hf
  unfold errorSet
  refine run_bind_eq_ok.2 ⟨t, img, globalAddr_run (cellOf_eq ht), ?_⟩
  exact run_bind_eq_ok.2 ⟨f, img, load_run hf, rfl⟩

/-- The address of the pending error's name is read off the error cells, changing nothing. -/
theorem errorNameAddr_run {img : Image} {p : UInt64} (h : nameAddrOf img = .ok p) :
    errorNameAddr.run img = .ok (p, img) := by
  obtain ⟨f, hf, h⟩ := except_bind_eq_ok.1 h
  unfold errorNameAddr
  refine run_bind_eq_ok.2 ⟨f != 0, img, errorSet_run hf, ?_⟩
  by_cases h0 : f = 0
  · subst h0
    rw [if_pos rfl] at h
    cases h
    rw [if_pos (by decide)]
    rfl
  · rw [if_neg h0] at h
    rw [if_neg (by simpa using h0)]
    obtain ⟨t, ht, h⟩ := except_bind_eq_ok.1 h
    obtain ⟨ty, hty, h⟩ := except_bind_eq_ok.1 h
    refine run_bind_eq_ok.2 ⟨t, img, globalAddr_run (cellOf_eq ht), ?_⟩
    refine run_bind_eq_ok.2 ⟨ty, img, load_run hty, ?_⟩
    unfold typeNameAddr at h
    by_cases hty0 : ty = 0
    · rw [if_pos hty0] at h
      cases h
      rw [if_pos (by simpa using hty0)]
      rfl
    · rw [if_neg hty0] at h
      rw [if_neg (by simpa using hty0)]
      cases hs : img.mem.load .u64 (ty + Obj.str) with
      | error e =>
        rw [hs] at h
        cases h
      | ok s =>
        rw [hs] at h
        cases h
        refine run_bind_eq_ok.2 ⟨s, img, load_run hs, ?_⟩
        show _ = Except.ok (if s = 0 then img.empty else s, img)
        by_cases hs0 : s = 0
        · rw [if_pos (by simpa using hs0), if_pos hs0]
          rfl
        · rw [if_neg (by simpa using hs0), if_neg hs0]
          rfl

/-- The address of the pending error's message is read off the error cells, changing nothing. -/
theorem errorMessageAddr_run {img : Image} {p : UInt64} (h : messageAddrOf img = .ok p) :
    errorMessageAddr.run img = .ok (p, img) := by
  obtain ⟨f, hf, h⟩ := except_bind_eq_ok.1 h
  unfold errorMessageAddr
  refine run_bind_eq_ok.2 ⟨f != 0, img, errorSet_run hf, ?_⟩
  by_cases h0 : f = 0
  · subst h0
    rw [if_pos rfl] at h
    cases h
    rw [if_neg (by decide)]
    rfl
  · rw [if_neg h0] at h
    rw [if_pos (by simpa using h0)]
    exact globalAddr_run (cellOf_eq h)

/-- Reading the error state gives its value and changes nothing. -/
theorem pendingError_run {img : Image} {e : List UInt8 × List UInt8} (h : errorOf img = .ok e) :
    pendingError.run img = .ok (e, img) := by
  obtain ⟨p, hp, h⟩ := except_bind_eq_ok.1 h
  obtain ⟨name, hname, h⟩ := except_bind_eq_ok.1 h
  obtain ⟨q, hq, h⟩ := except_bind_eq_ok.1 h
  obtain ⟨msg, hmsg, h⟩ := except_bind_eq_ok.1 h
  cases h
  unfold pendingError
  refine run_bind_eq_ok.2 ⟨p, img, errorNameAddr_run hp, ?_⟩
  refine run_bind_eq_ok.2 ⟨name, img, Host.cString_run hname, ?_⟩
  refine run_bind_eq_ok.2 ⟨q, img, errorMessageAddr_run hq, ?_⟩
  refine run_bind_eq_ok.2 ⟨msg, img, Host.cString_run hmsg, rfl⟩

/-! ## Where the error state lies -/

/-- The globals the error state is written in: its type, message buffer and flag. -/
def errorCellNames : List String := ["cx_err_type", "cx_err_buf", "cx_err_flag"]

/-- The error type is an error cell. -/
theorem type_mem : "cx_err_type" ∈ errorCellNames := .head _
/-- The message buffer is an error cell. -/
theorem buf_mem : "cx_err_buf" ∈ errorCellNames := .tail _ (.head _)
/-- The error flag is an error cell. -/
theorem flag_mem : "cx_err_flag" ∈ errorCellNames := .tail _ (.tail _ (.head _))

/-- Block `b` holds one of the error cells. -/
def CellBlock (img : Image) (b : Nat) : Prop :=
  ∃ c ∈ errorCellNames, ∃ t, global img c = some t ∧ blockOf t - 1 = b

/-- The error type at `ty` is named `name` as `cx_err_name` reads it, from blocks other than
the error cells'. -/
def TypeNamed (img : Image) (ty : UInt64) (name : List UInt8) : Prop :=
  ¬ CellBlock img (blockOf (ty + Obj.str) - 1) ∧
    ∃ p, typeNameAddr img ty = .ok p ∧ ¬ CellBlock img (blockOf p - 1) ∧ img.mem.cString p = .ok name

/-- Where an image keeps its error state, and what reading it needs: the error cells, each in a
block of its own, the empty string, and the runtime's own error type, named `RuntimeError`. -/
structure ErrorState (img : Image) : Prop where
  cells : ErrorCells img
  own : ∀ c ∈ errorCellNames, ∀ c' ∈ errorCellNames, ∀ t t', global img c = some t →
    global img c' = some t' → blockOf t = blockOf t' → c = c'
  empty : ¬ CellBlock img (blockOf img.empty - 1) ∧ img.mem.cString img.empty = .ok []
  runtime : ∃ t, global img "cx_runtime_error_s" = some t ∧ t ≠ 0 ∧ TypeNamed img t (bytes "RuntimeError")

/-- The places an image's error state lies at, whatever error is set: the error cells, the
empty string, and the name field and name of the runtime's own error type, which `cx_call` sets
when a function fails without setting an error. -/
inductive StatePlace (img : Image) : UInt64 → Prop
  | cell {c : String} {a : UInt64} : c ∈ errorCellNames → global img c = some a → StatePlace img a
  | empty : StatePlace img img.empty
  | runtimeField {t : UInt64} : global img "cx_runtime_error_s" = some t → StatePlace img (t + Obj.str)
  | runtimeName {t s : UInt64} : global img "cx_runtime_error_s" = some t →
      img.mem.load .u64 (t + Obj.str) = .ok s → StatePlace img s

/-- The places reading the error state of an image looks at: those of the state, and the name
field and name of the type in the type cell. -/
inductive ErrorPlace (img : Image) : UInt64 → Prop
  | state {a : UInt64} : StatePlace img a → ErrorPlace img a
  | typeField {t ty : UInt64} : global img "cx_err_type" = some t → img.mem.load .u64 t = .ok ty →
      ErrorPlace img (ty + Obj.str)
  | typeName {t ty s : UInt64} : global img "cx_err_type" = some t → img.mem.load .u64 t = .ok ty →
      img.mem.load .u64 (ty + Obj.str) = .ok s → ErrorPlace img s

/-- `img'` has the library, globals and empty string of `img`, and each block `keep` admits as
it was. -/
structure Agrees (img img' : Image) (keep : Nat → Prop) : Prop where
  lib : img'.lib = img.lib
  globals : img'.globals = img.globals
  empty : img'.empty = img.empty
  blocks : ∀ b, keep b → img'.mem.blocks[b]? = img.mem.blocks[b]?

/-- Images with the same library and globals find the same globals. -/
theorem global_congr {img img' : Image} (hlib : img'.lib = img.lib) (hglobals : img'.globals = img.globals)
    (name : String) : global img' name = global img name := by
  unfold global
  rw [hlib, hglobals]

/-- Images that agree on the type's name field and on the empty string give the type the same name.
-/
theorem typeNameAddr_congr {img img' : Image} {ty : UInt64} (hempty : img'.empty = img.empty)
    (hload : img'.mem.load .u64 (ty + Obj.str) = img.mem.load .u64 (ty + Obj.str)) :
    typeNameAddr img' ty = typeNameAddr img ty := by
  unfold typeNameAddr
  rw [hempty, hload]

/-- The name a type reads as lies at the empty string or where its name field points. -/
theorem typeNameAddr_cases {img : Image} {ty p : UInt64} (h : typeNameAddr img ty = .ok p) :
    p = img.empty ∨ img.mem.load .u64 (ty + Obj.str) = .ok p := by
  unfold typeNameAddr at h
  split at h
  · cases h
    exact .inl rfl
  · cases hs : img.mem.load .u64 (ty + Obj.str) with
    | error e =>
      rw [hs] at h
      cases h
    | ok s =>
      rw [hs] at h
      cases h
      by_cases hs0 : s = 0
      · exact .inl (if_pos hs0)
      · exact .inr (congrArg Except.ok (if_neg hs0).symm)

/-- `cx_err_name` returns a place reading the error state looks at. -/
theorem nameAddrOf_place {img : Image} {p : UInt64} (h : nameAddrOf img = .ok p) : ErrorPlace img p := by
  obtain ⟨f, -, h⟩ := except_bind_eq_ok.1 h
  split at h
  · cases h
    exact .state .empty
  · obtain ⟨t, ht, h⟩ := except_bind_eq_ok.1 h
    obtain ⟨ty, hty, h⟩ := except_bind_eq_ok.1 h
    rcases typeNameAddr_cases h with rfl | hs
    · exact .state .empty
    · exact .typeName (cellOf_eq ht) hty hs

/-- `cx_err_message` returns a place reading the error state looks at. -/
theorem messageAddrOf_place {img : Image} {p : UInt64} (h : messageAddrOf img = .ok p) :
    ErrorPlace img p := by
  obtain ⟨f, -, h⟩ := except_bind_eq_ok.1 h
  split at h
  · cases h
    exact .state .empty
  · exact .state (.cell buf_mem (cellOf_eq h))

/-- Memories that agree on an address's block locate it alike. -/
theorem locate_congr {m m' : Memory} {a : UInt64} (n : Nat)
    (h : m'.blocks[blockOf a - 1]? = m.blocks[blockOf a - 1]?) : m'.locate a n = m.locate a n := by
  unfold locate
  dsimp only
  rw [show (a >>> 32).toNat - 1 = blockOf a - 1 from rfl, h]

namespace Agrees

variable {img img' : Image} {keep : Nat → Prop} (h : Agrees img img' keep)
include h

/-- Agreeing on some blocks is agreeing on fewer. -/
theorem mono {keep' : Nat → Prop} (hk : ∀ b, keep' b → keep b) : Agrees img img' keep' :=
  ⟨h.lib, h.globals, h.empty, fun b hb => h.blocks b (hk b hb)⟩

/-- Agreeing images find the same globals. -/
theorem global_eq (name : String) : global img' name = global img name :=
  global_congr h.lib h.globals name

/-- Agreeing images find the same error cells. -/
theorem cellOf_eq (name : String) : cellOf img' name = cellOf img name := by
  unfold cellOf
  rw [h.global_eq]

/-- Agreeing images have the same cell blocks. -/
theorem cellBlock_iff (b : Nat) : CellBlock img' b ↔ CellBlock img b := by
  unfold CellBlock
  simp only [h.global_eq]

/-- Agreeing images load alike from a kept block. -/
theorem load_eq {a : UInt64} (ha : keep (blockOf a - 1)) (k : NumKind) :
    img'.mem.load k a = img.mem.load k a :=
  load_congr (h.blocks _ ha)

/-- Agreeing images read the same string from a kept block. -/
theorem cString_eq {a : UInt64} (ha : keep (blockOf a - 1)) : img'.mem.cString a = img.mem.cString a :=
  cString_congr (h.blocks _ ha)

/-- Agreeing images locate alike in a kept block. -/
theorem locate_eq {a : UInt64} (ha : keep (blockOf a - 1)) (n : Nat) :
    img'.mem.locate a n = img.mem.locate a n :=
  locate_congr n (h.blocks _ ha)

section Reading

variable (hkeep : ∀ a, ErrorPlace img a → keep (blockOf a - 1))
include hkeep

/-- Agreeing images keep the same error flag. -/
theorem flagOf_eq : flagOf img' = flagOf img := by
  unfold flagOf
  rw [h.cellOf_eq]
  cases hc : cellOf img "cx_err_flag" with
  | error e => simp only [bind, Except.bind]
  | ok t => exact h.load_eq (hkeep _ (.state (.cell flag_mem (Objects.cellOf_eq hc)))) _

/-- Agreeing images give the pending error the same name address. -/
theorem nameAddrOf_eq : nameAddrOf img' = nameAddrOf img := by
  unfold nameAddrOf
  rw [h.flagOf_eq hkeep, h.cellOf_eq]
  cases flagOf img with
  | error e => simp only [bind, Except.bind]
  | ok f =>
    show (if f = 0 then _ else _) = (if f = 0 then _ else _)
    split
    · rw [h.empty]
    · cases hc : cellOf img "cx_err_type" with
      | error e => simp only [bind, Except.bind]
      | ok t =>
        have ht := Objects.cellOf_eq hc
        show (do typeNameAddr img' (← img'.mem.load .u64 t)) = (do typeNameAddr img (← img.mem.load .u64 t))
        rw [h.load_eq (hkeep _ (.state (.cell type_mem ht)))]
        cases hty : img.mem.load .u64 t with
        | error e => simp only [bind, Except.bind]
        | ok ty =>
          show typeNameAddr img' ty = typeNameAddr img ty
          exact typeNameAddr_congr h.empty (h.load_eq (hkeep _ (.typeField ht hty)) _)

/-- Agreeing images give the pending error the same message address. -/
theorem messageAddrOf_eq : messageAddrOf img' = messageAddrOf img := by
  unfold messageAddrOf
  rw [h.flagOf_eq hkeep, h.cellOf_eq, h.empty]

/-- An image that keeps the blocks reading the error state looks at reads the same error. -/
theorem errorOf_eq : errorOf img' = errorOf img := by
  unfold errorOf
  rw [h.nameAddrOf_eq hkeep, h.messageAddrOf_eq hkeep]
  cases hp : nameAddrOf img with
  | error e => simp only [bind, Except.bind]
  | ok p =>
    show (do let name ← img'.mem.cString p; _) = (do let name ← img.mem.cString p; _)
    rw [h.cString_eq (hkeep _ (nameAddrOf_place hp))]
    cases img.mem.cString p with
    | error e => simp only [bind, Except.bind]
    | ok name =>
      cases hq : messageAddrOf img with
      | error e => simp only [bind, Except.bind]
      | ok q =>
        show (do let msg ← img'.mem.cString q; _) = (do let msg ← img.mem.cString q; _)
        rw [h.cString_eq (hkeep _ (messageAddrOf_place hq))]

end Reading

/-- A type keeps its name in an agreeing image when its name field, its name and the empty string
lie in kept blocks. -/
theorem typeNamed {t : UInt64} {name : List UInt8} (hname : TypeNamed img t name)
    (hfield : keep (blockOf (t + Obj.str) - 1)) (hempty : keep (blockOf img.empty - 1))
    (hplace : ∀ s, img.mem.load .u64 (t + Obj.str) = .ok s → keep (blockOf s - 1)) :
    TypeNamed img' t name := by
  obtain ⟨hapart, p, hp, hpapart, hstr⟩ := hname
  refine ⟨by rwa [h.cellBlock_iff], p, ?_, by rwa [h.cellBlock_iff], ?_⟩
  · rw [typeNameAddr_congr h.empty (h.load_eq hfield _), hp]
  · rcases typeNameAddr_cases hp with rfl | hs
    · rw [h.cString_eq hempty, hstr]
    · rw [h.cString_eq (hplace p hs), hstr]

/-- An image that keeps the blocks the error state lies in keeps the error state. -/
theorem errorState (hkeep : ∀ a, StatePlace img a → keep (blockOf a - 1)) (hs : ErrorState img) :
    ErrorState img' := by
  obtain ⟨t1, b1, off1, g1, l1⟩ := hs.cells.type
  obtain ⟨t2, b2, off2, g2, l2⟩ := hs.cells.buf
  obtain ⟨t3, b3, off3, g3, l3⟩ := hs.cells.flag
  obtain ⟨rt, hrt, hrt0, hnamed⟩ := hs.runtime
  refine ⟨⟨fun ty hty => ?_, ⟨t1, b1, off1, ?_, ?_⟩, ⟨t2, b2, off2, ?_, ?_⟩, ⟨t3, b3, off3, ?_, ?_⟩⟩,
    fun c hc c' hc' t t' ht ht' => hs.own c hc c' hc' t t' (by rwa [← h.global_eq])
      (by rwa [← h.global_eq]), ⟨?_, ?_⟩, rt, by rwa [h.global_eq], hrt0, ?_⟩
  · rw [h.global_eq]
    exact hs.cells.types ty hty
  · rwa [h.global_eq]
  · rwa [h.locate_eq (hkeep _ (.cell type_mem g1))]
  · rwa [h.global_eq]
  · rwa [h.locate_eq (hkeep _ (.cell buf_mem g2))]
  · rwa [h.global_eq]
  · rwa [h.locate_eq (hkeep _ (.cell flag_mem g3))]
  · rw [h.cellBlock_iff, h.empty]
    exact hs.empty.1
  · rw [h.empty, h.cString_eq (hkeep _ .empty)]
    exact hs.empty.2
  · exact h.typeNamed hnamed (hkeep _ (.runtimeField hrt)) (hkeep _ .empty)
      fun s hs => hkeep _ (.runtimeName hrt hs)

end Agrees

/-! ## Writing the error state -/

/-- `img'` is `img` with only the blocks of the error cells written: the same library, globals
and empty string, every other block as it was, and blocks of the same sizes. -/
structure WritesCells (img img' : Image) : Prop extends Agrees img img' (fun b => ¬ CellBlock img b) where
  sizes : SameSizes img.mem img'.mem

namespace WritesCells

variable {img img' img'' : Image}

/-- Writing only error cells composes. -/
theorem trans (h : WritesCells img img') (h' : WritesCells img' img'') : WritesCells img img'' :=
  ⟨⟨h'.lib.trans h.lib, h'.globals.trans h.globals, h'.empty.trans h.empty,
    fun b hb => (h'.blocks b (by rwa [h.cellBlock_iff])).trans (h.blocks b hb)⟩, h.sizes.trans h'.sizes⟩

/-- A store into an error cell writes the cells. -/
theorem store {k : NumKind} {a v : UInt64} {c : String} (hc : c ∈ errorCellNames)
    (ha : global img c = some a) (hs : img.store k a v = .ok img') : WritesCells img img' := by
  obtain ⟨b, off, hl, rfl⟩ := Image.store_eq hs
  refine ⟨⟨rfl, rfl, rfl, fun b' hb' => storeAt_blocks_ne _ _ _ ?_⟩, storeAt_sameSizes _ _ _ _ _⟩
  rintro rfl
  exact hb' ⟨c, hc, a, ha, by rw [locate_block hl]; rfl⟩

/-- Writing octets into an error cell writes the cells. -/
theorem writeBytes {a : UInt64} {data : List UInt8} {c : String} (hc : c ∈ errorCellNames)
    (ha : global img c = some a) (hs : img.writeBytes a data = .ok img') : WritesCells img img' := by
  unfold Image.writeBytes at hs
  split at hs
  next b off hl =>
    cases hs
    refine ⟨⟨rfl, rfl, rfl, fun b' hb' => writeAt_blocks_ne _ _ ?_⟩, writeAt_sameSizes _ _ _ _⟩
    rintro rfl
    exact hb' ⟨c, hc, a, ha, by rw [locate_block hl]; rfl⟩
  next => cases hs

/-- Writing only error cells keeps every type's name. -/
theorem typeNamed (h : WritesCells img img') {t : UInt64} {name : List UInt8}
    (hname : TypeNamed img t name) : TypeNamed img' t name := by
  obtain ⟨hapart, p, hp, hpapart, hstr⟩ := hname
  refine ⟨by rwa [h.cellBlock_iff], p, ?_, by rwa [h.cellBlock_iff],
    by rw [h.cString_eq hpapart, hstr]⟩
  rw [typeNameAddr_congr h.empty (h.load_eq hapart _), hp]

/-- Writing the error cells keeps the error state where it is. -/
theorem errorState (h : WritesCells img img') (hs : ErrorState img) : ErrorState img' := by
  obtain ⟨rt, hrt, hrt0, hnamed⟩ := hs.runtime
  refine ⟨hs.cells.congr h.lib h.globals h.sizes, fun c hc c' hc' t t' ht ht' =>
    hs.own c hc c' hc' t t' (by rwa [← h.global_eq]) (by rwa [← h.global_eq]), ⟨?_, ?_⟩,
    rt, by rwa [h.global_eq], hrt0, h.typeNamed hnamed⟩
  · rw [h.cellBlock_iff, h.empty]
    exact hs.empty.1
  · rw [h.empty, h.cString_eq hs.empty.1]
    exact hs.empty.2

end WritesCells

/-- A string written with its terminator where it fits reads back. -/
theorem cString_writeAt {m : Memory} {p : UInt64} {b off n : Nat} {s : List UInt8}
    (hl : m.locate p n = .ok (b, off)) (hn : s.length + 1 ≤ n) (hz : (0 : UInt8) ∉ s) :
    (m.writeAt b off (s ++ [0])).cString p = .ok s := by
  obtain ⟨blk, hblk, hfit⟩ := locate_some hl
  have hget := fun j => get!_writeOctets off j (s ++ [0]) 0 blk (by simp; omega)
  refine cString_eq ((locate_eq_of_sameSizes (writeAt_sameSizes _ _ _ _) _ _).trans
    (locate_mono hl (Nat.zero_le _))) (writeAt_blocks_self off (s ++ [0]) hblk) hz (fun i hi => ?_) ?_ ?_
  · rw [hget]
    simp [show i < s.length + 1 by omega, getElem!_pos, List.getElem_append_left hi]
  · rw [hget]
    simp
  · rw [foldl_size _ (fun acc p => ByteArray.size_set! _ _ _)]
    omega

/-- A global of the image is a cell found. -/
theorem cellOf_of_global {img : Image} {name : String} {a : UInt64} (h : global img name = some a) :
    cellOf img name = .ok a := by
  unfold cellOf
  rw [h]

/-- With no error set, the error reads as two empty strings. -/
theorem errorOf_unset {img : Image} (hf : flagOf img = .ok 0) (he : img.mem.cString img.empty = .ok []) :
    errorOf img = .ok ([], []) := by
  have hn : nameAddrOf img = .ok img.empty := by
    unfold nameAddrOf
    rw [hf]
    rfl
  have hm : messageAddrOf img = .ok img.empty := by
    unfold messageAddrOf
    rw [hf]
    rfl
  unfold errorOf
  rw [hn, hm]
  simp only [bind, Except.bind, he]
  rfl

/-- With an error set, the error reads as the name of the type in the type cell and the message
in the buffer. -/
theorem errorOf_set {img : Image} {f t ty p q : UInt64} {name msg : List UInt8}
    (hf : flagOf img = .ok f) (hf0 : f ≠ 0) (ht : global img "cx_err_type" = some t)
    (hty : img.mem.load .u64 t = .ok ty) (hp : typeNameAddr img ty = .ok p)
    (hname : img.mem.cString p = .ok name) (hq : global img "cx_err_buf" = some q)
    (hmsg : img.mem.cString q = .ok msg) : errorOf img = .ok (name, msg) := by
  have hn : nameAddrOf img = .ok p := by
    unfold nameAddrOf
    rw [hf, cellOf_of_global ht]
    show (if f = 0 then _ else _) = _
    rw [if_neg hf0]
    show (do typeNameAddr img (← img.mem.load .u64 t)) = _
    rw [hty]
    exact hp
  have hm : messageAddrOf img = .ok q := by
    unfold messageAddrOf
    rw [hf]
    show (if f = 0 then _ else _) = _
    rw [if_neg hf0]
    exact cellOf_of_global hq
  unfold errorOf
  rw [hn, hm]
  simp only [bind, Except.bind, hname, hmsg]
  rfl

/-- The blocks of the error cells, in the order type, buffer, flag, are three. -/
theorem ErrorState.apart {img : Image} (hs : ErrorState img) {t1 t2 t3 : UInt64} {b1 b2 b3 o1 o2 o3 n1 n2 n3 : Nat}
    (g1 : global img "cx_err_type" = some t1) (g2 : global img "cx_err_buf" = some t2)
    (g3 : global img "cx_err_flag" = some t3) (l1 : img.mem.locate t1 n1 = .ok (b1, o1))
    (l2 : img.mem.locate t2 n2 = .ok (b2, o2)) (l3 : img.mem.locate t3 n3 = .ok (b3, o3)) :
    b1 ≠ b2 ∧ b1 ≠ b3 ∧ b2 ≠ b3 := by
  have hb1 := locate_block l1
  have hb2 := locate_block l2
  have hb3 := locate_block l3
  refine ⟨fun h => ?_, fun h => ?_, fun h => ?_⟩
  · exact absurd (hs.own _ type_mem _ buf_mem _ _ g1 g2 (by omega)) (by simp)
  · exact absurd (hs.own _ type_mem _ flag_mem _ _ g1 g3 (by omega)) (by simp)
  · exact absurd (hs.own _ buf_mem _ flag_mem _ _ g2 g3 (by omega)) (by simp)

/-- A read of a block that later writes leave alone. -/
theorem load_block_eq {m m' : Memory} {k : NumKind} {a : UInt64} {b : Nat} (hb : blockOf a = b + 1)
    (h : m'.blocks[b]? = m.blocks[b]?) : m'.load k a = m.load k a :=
  load_congr (by rw [show (a >>> 32).toNat - 1 = b by unfold blockOf at hb; omega]; exact h)

/-- Memories that agree on a string's block read the same string there. -/
theorem cString_block_eq {m m' : Memory} {a : UInt64} {b : Nat} (hb : blockOf a = b + 1)
    (h : m'.blocks[b]? = m.blocks[b]?) : m'.cString a = m.cString a :=
  cString_congr (by rw [show (a >>> 32).toNat - 1 = b by unfold blockOf at hb; omega]; exact h)

/-- Writing an error's type, message and flag, as `cx_err_set` does once it has its type: only
the cells change; the flag reads one, the type cell the type, and the buffer the message cut to
1023 octets. -/
theorem writeError_run {img : Image} (hs : ErrorState img) (ty : UInt64) (msg : List UInt8) :
    ∃ img', (do
      store64 (← globalAddr "cx_err_type") ty
      writeBytes (← globalAddr "cx_err_buf") (msg.take 1023 ++ [0])
      store32 (← globalAddr "cx_err_flag") 1 : ImgM PUnit).run img = .ok ((), img') ∧
      WritesCells img img' ∧ flagOf img' = .ok 1 ∧
      (∀ t, global img "cx_err_type" = some t → img'.mem.load .u64 t = .ok ty) ∧
      ((0 : UInt8) ∉ msg → ∀ name, TypeNamed img ty name →
        errorOf img' = .ok (name, msg.take 1023)) := by
  obtain ⟨t1, b1, off1, g1, l1⟩ := hs.cells.type
  obtain ⟨t2, b2, off2, g2, l2⟩ := hs.cells.buf
  obtain ⟨t3, b3, off3, g3, l3⟩ := hs.cells.flag
  obtain ⟨h12, h13, h23⟩ := hs.apart g1 g2 g3 l1 l2 l3
  -- the type first, then the message, then the flag, each in its own block
  set img1 : Image := { img with mem := img.mem.storeAt b1 off1 NumKind.u64.size ty }
  have hs1 : img.store .u64 t1 ty = .ok img1 := Image.store_ok l1 ty
  have w1 : WritesCells img img1 := .store type_mem g1 hs1
  have l2' : img1.mem.locate t2 (msg.take 1023 ++ [0]).length = .ok (b2, off2) := by
    rw [locate_eq_of_sameSizes w1.sizes]
    exact locate_mono l2 (by simp)
  set img2 : Image := { img1 with mem := img1.mem.writeAt b2 off2 (msg.take 1023 ++ [0]) }
  have hs2 : img1.writeBytes t2 (msg.take 1023 ++ [0]) = .ok img2 := Image.writeBytes_ok l2'
  have w2 : WritesCells img1 img2 := .writeBytes buf_mem (by rwa [w1.global_eq]) hs2
  have l3' : img2.mem.locate t3 NumKind.i32.size = .ok (b3, off3) := by
    rw [locate_eq_of_sameSizes (w1.trans w2).sizes]
    exact l3
  have hs3 := Image.store_ok l3' 1
  have w3 : WritesCells img2 _ := .store flag_mem (by rwa [(w1.trans w2).global_eq]) hs3
  have hw := w1.trans (w2.trans w3)
  have hflag : flagOf { img2 with mem := img2.mem.storeAt b3 off3 NumKind.i32.size 1 } = .ok 1 := by
    unfold flagOf
    rw [cellOf_of_global (by rwa [hw.global_eq])]
    exact load_i32_storeAt 1 l3' (by decide)
  have htype : ∀ t, global img "cx_err_type" = some t →
      ({ img2 with mem := img2.mem.storeAt b3 off3 NumKind.i32.size 1 } : Image).mem.load .u64 t =
        .ok ty := fun t ht => by
    obtain rfl : t = t1 := Option.some.inj (ht.symm.trans g1)
    rw [load_block_eq (m := img1.mem) (locate_block l1)
      ((storeAt_blocks_ne _ _ _ h13).trans (writeAt_blocks_ne _ _ h12))]
    exact load_u64_storeAt ty l1
  have hbuf : (0 : UInt8) ∉ msg →
      ({ img2 with mem := img2.mem.storeAt b3 off3 NumKind.i32.size 1 } : Image).mem.cString t2 =
        .ok (msg.take 1023) := fun hmsg => by
    rw [cString_block_eq (m := img2.mem) (locate_block l2) (storeAt_blocks_ne _ _ _ h23)]
    exact cString_writeAt l2' (by simp) fun h0 => hmsg (List.mem_of_mem_take h0)
  refine ⟨_, ?_, hw, hflag, htype, fun hmsg name hnamed => ?_⟩
  · refine run_bind_eq_ok.2 ⟨t1, img, globalAddr_run g1, ?_⟩
    refine run_bind_eq_ok.2 ⟨(), _, store_run hs1, ?_⟩
    refine run_bind_eq_ok.2 ⟨t2, _, globalAddr_run (by rwa [w1.global_eq]), ?_⟩
    refine run_bind_eq_ok.2 ⟨(), _, writeBytes_run hs2, ?_⟩
    refine run_bind_eq_ok.2 ⟨t3, _, globalAddr_run (by rwa [(w1.trans w2).global_eq]), ?_⟩
    exact store_run hs3
  · obtain ⟨-, p, hp, -, hname⟩ := hw.typeNamed hnamed
    exact errorOf_set hflag (by decide) (by rwa [hw.global_eq]) (htype t1 g1) hp hname
      (by rwa [hw.global_eq]) (hbuf hmsg)

/-- Setting an error (`cx_err_set`) changes only the error cells and leaves the error set: it
reads as the name of its type, `RuntimeError` for a null type, and the first 1023 octets of
its message. -/
theorem setError_run {img : Image} {ty : UInt64} {msg name : List UInt8} (hs : ErrorState img)
    (hmsg : (0 : UInt8) ∉ msg) (hnull : ty = 0 → name = bytes "RuntimeError")
    (hnamed : ty ≠ 0 → TypeNamed img ty name) :
    ∃ img', (setError ty msg).run img = .ok ((), img') ∧ WritesCells img img' ∧
      flagOf img' = .ok 1 ∧ errorOf img' = .ok (name, msg.take 1023) := by
  obtain ⟨rt, hrt, -, hrtNamed⟩ := hs.runtime
  unfold setError
  dsimp only
  -- a null type stands for the runtime's own error type
  by_cases h0 : ty = 0
  · rw [if_pos (by simpa using h0)]
    obtain ⟨img', hrun, hw, hflag, -, herr⟩ := writeError_run hs rt msg
    exact ⟨img', run_bind_eq_ok.2 ⟨rt, img, globalAddr_run hrt, hrun⟩, hw, hflag,
      herr hmsg name (hnull h0 ▸ hrtNamed)⟩
  · rw [if_neg (by simpa using h0)]
    obtain ⟨img', hrun, hw, hflag, -, herr⟩ := writeError_run hs ty msg
    exact ⟨img', run_bind_eq_ok.2 ⟨ty, img, rfl, hrun⟩, hw, hflag, herr hmsg name (hnamed h0)⟩

/-- Raising an error of a static type named `name` leaves it set, with that name, and the type
cell holding the type. -/
theorem raise_run {img : Image} {static : String} {st : UInt64} {msg name : List UInt8}
    (hs : ErrorState img) (hst : global img static = some st) (hst0 : st ≠ 0)
    (hnamed : TypeNamed img st name) (hmsg : (0 : UInt8) ∉ msg) :
    ∃ img', (raise static msg).run img = .ok ((), img') ∧ WritesCells img img' ∧
      flagOf img' = .ok 1 ∧ errorOf img' = .ok (name, msg.take 1023) ∧
      ∀ t, global img "cx_err_type" = some t → img'.mem.load .u64 t = .ok st := by
  obtain ⟨img', hrun, hw, hflag, htype, herr⟩ := writeError_run hs st msg
  refine ⟨img', run_bind_eq_ok.2 ⟨st, img, globalAddr_run hst, ?_⟩, hw, hflag, herr hmsg name hnamed,
    htype⟩
  unfold setError
  dsimp only
  rw [if_neg (by simpa using hst0)]
  exact run_bind_eq_ok.2 ⟨st, img, rfl, hrun⟩

/-- Raising the runtime's own error with any message ends over an error state, and writes the
error cells only. -/
theorem raise_runtime_run {img : Image} (hs : ErrorState img) (msg : List UInt8) :
    ∃ img', (raise "cx_runtime_error_s" msg).run img = .ok ((), img') ∧ WritesCells img img' := by
  obtain ⟨rt, hrt, hrt0, -⟩ := hs.runtime
  obtain ⟨img', hrun, hw, -⟩ := writeError_run hs rt msg
  refine ⟨img', run_bind_eq_ok.2 ⟨rt, img, globalAddr_run hrt, ?_⟩, hw⟩
  unfold setError
  dsimp only
  rw [if_neg (by simpa using hrt0)]
  exact run_bind_eq_ok.2 ⟨rt, img, rfl, hrun⟩

/-- Clearing the error (`cx_err_clear`) changes only the error cells and leaves no error set. -/
theorem clearError_run {img : Image} (hs : ErrorState img) :
    ∃ img', clearError.run img = .ok ((), img') ∧ WritesCells img img' ∧
      flagOf img' = .ok 0 ∧ errorOf img' = .ok ([], []) := by
  obtain ⟨t1, b1, off1, g1, l1⟩ := hs.cells.type
  obtain ⟨t2, b2, off2, g2, l2⟩ := hs.cells.buf
  obtain ⟨t3, b3, off3, g3, l3⟩ := hs.cells.flag
  obtain ⟨h12, h13, h23⟩ := hs.apart g1 g2 g3 l1 l2 l3
  -- the flag first, then the type, then the message's first octet
  set img1 : Image := { img with mem := img.mem.storeAt b3 off3 NumKind.i32.size 0 }
  have hs1 : img.store .i32 t3 0 = .ok img1 := Image.store_ok l3 0
  have w1 : WritesCells img img1 := .store flag_mem g3 hs1
  have l1' : img1.mem.locate t1 NumKind.u64.size = .ok (b1, off1) := by
    rw [locate_eq_of_sameSizes w1.sizes]
    exact l1
  set img2 : Image := { img1 with mem := img1.mem.storeAt b1 off1 NumKind.u64.size 0 }
  have hs2 : img1.store .u64 t1 0 = .ok img2 := Image.store_ok l1' 0
  have w2 : WritesCells img1 img2 := .store type_mem (by rwa [w1.global_eq]) hs2
  have l2' : img2.mem.locate t2 [(0 : UInt8)].length = .ok (b2, off2) := by
    rw [locate_eq_of_sameSizes (w1.trans w2).sizes]
    exact locate_mono l2 (by simp)
  have hs3 := Image.writeBytes_ok l2'
  have w3 : WritesCells img2 _ := .writeBytes buf_mem (by rwa [(w1.trans w2).global_eq]) hs3
  have hw := w1.trans (w2.trans w3)
  have hflag : flagOf { img2 with mem := img2.mem.writeAt b2 off2 [0] } = .ok 0 := by
    unfold flagOf
    rw [cellOf_of_global (by rwa [hw.global_eq])]
    show Memory.load _ _ _ = _
    rw [load_block_eq (m := img.mem.storeAt b3 off3 NumKind.i32.size 0) (locate_block l3)
      ((writeAt_blocks_ne _ _ h23.symm).trans (storeAt_blocks_ne _ _ _ h13.symm))]
    exact load_i32_storeAt 0 l3 (by decide)
  refine ⟨_, ?_, hw, hflag, errorOf_unset hflag ?_⟩
  · refine run_bind_eq_ok.2 ⟨t3, img, globalAddr_run g3, ?_⟩
    refine run_bind_eq_ok.2 ⟨(), _, store_run hs1, ?_⟩
    refine run_bind_eq_ok.2 ⟨t1, _, globalAddr_run (by rwa [w1.global_eq]), ?_⟩
    refine run_bind_eq_ok.2 ⟨(), _, store_run hs2, ?_⟩
    refine run_bind_eq_ok.2 ⟨t2, _, globalAddr_run (by rwa [(w1.trans w2).global_eq]), ?_⟩
    exact writeBytes_run hs3
  · rw [hw.empty, hw.cString_eq hs.empty.1]
    exact hs.empty.2

/-- The error flag of an image with an error state reads. -/
theorem ErrorState.flagOf_ok {img : Image} (hs : ErrorState img) : ∃ f, flagOf img = .ok f := by
  obtain ⟨t, b, off, ht, hl⟩ := hs.cells.flag
  refine ⟨signExtend 32 (readWord img.mem.blocks[b]! off 4), ?_⟩
  unfold flagOf
  rw [cellOf_of_global ht]
  exact load_i32 hl

/-! ## Keeping the error state -/

/-- Every place the error state lies at is in one of the image's blocks. -/
theorem StatePlace.lt_size {img : Image} (hs : ErrorState img) {a : UInt64} :
    StatePlace img a → blockOf a - 1 < img.mem.blocks.size := by
  have hempty : blockOf img.empty - 1 < img.mem.blocks.size := by
    obtain ⟨b, off, hl⟩ := locate_of_cString hs.empty.2
    exact block_lt_of_locate hl
  obtain ⟨rt, hrt, hrt0, -, p, hp, -, hname⟩ := hs.runtime
  have hfield : ∃ s, img.mem.load .u64 (rt + Obj.str) = .ok s := by
    unfold typeNameAddr at hp
    rw [if_neg hrt0] at hp
    cases hs : img.mem.load .u64 (rt + Obj.str) with
    | error e =>
      rw [hs] at hp
      cases hp
    | ok s => exact ⟨s, rfl⟩
  -- the runtime type's name is the empty string or the one its name field points to
  have hname' : ∀ s, img.mem.load .u64 (rt + Obj.str) = .ok s → blockOf s - 1 < img.mem.blocks.size := by
    intro s hs'
    by_cases hs0 : s = 0
    · subst hs0
      exact Nat.lt_of_le_of_lt (Nat.zero_le _) (by simpa [blockOf] using hempty)
    · have : p = s := by
        unfold typeNameAddr at hp
        rw [if_neg hrt0, hs'] at hp
        cases hp
        exact if_neg hs0
      subst this
      obtain ⟨b, off, hl⟩ := locate_of_cString hname
      exact block_lt_of_locate hl
  intro ha
  cases ha with
  | @cell c a hc ha =>
    simp only [errorCellNames, List.mem_cons, List.not_mem_nil, or_false] at hc
    obtain ⟨t1, b1, off1, g1, l1⟩ := hs.cells.type
    obtain ⟨t2, b2, off2, g2, l2⟩ := hs.cells.buf
    obtain ⟨t3, b3, off3, g3, l3⟩ := hs.cells.flag
    rcases hc with rfl | rfl | rfl
    · rw [Option.some.inj (ha.symm.trans g1)]
      exact block_lt_of_locate l1
    · rw [Option.some.inj (ha.symm.trans g2)]
      exact block_lt_of_locate l2
    · rw [Option.some.inj (ha.symm.trans g3)]
      exact block_lt_of_locate l3
  | empty => exact hempty
  | runtimeField ht =>
    obtain rfl := Option.some.inj (ht.symm.trans hrt)
    obtain ⟨s, hs⟩ := hfield
    obtain ⟨b, off, hl⟩ := locate_of_load hs
    exact block_lt_of_locate hl
  | runtimeName ht hs' =>
    obtain rfl := Option.some.inj (ht.symm.trans hrt)
    exact hname' _ hs'

/-- The blocks an image had, kept with the rest of the image, keep its error state: a
conversion that only adds blocks leaves it where it was. -/
theorem ErrorState.grows {img : Image} (hs : ErrorState img) {mem : Memory} {k : Nat}
    (hg : img.mem.Grows mem k) : ErrorState { img with mem } :=
  (⟨rfl, rfl, rfl, fun b hb => hg.old b hb⟩ : Agrees img { img with mem } (· < img.mem.blocks.size)).errorState
    (fun _ ha => ha.lt_size hs) hs

/-- The places reading an image's error state looks at lie outside the blocks `lo` to `hi`. -/
def ErrorAway (img : Image) (lo hi : Nat) : Prop :=
  ∀ a, ErrorPlace img a → blockOf a - 1 < lo ∨ hi ≤ blockOf a - 1

/-- A memory that differs from an image's only in blocks from `lo` to `hi`, which the error state
is read away from, reads the same error and keeps the error state. -/
theorem ErrorAway.outside {img : Image} {lo hi : Nat} (ha : ErrorAway img lo hi) {mem : Memory}
    (hout : Outside img.mem mem lo hi) (hs : ErrorState img) :
    errorOf { img with mem } = errorOf img ∧ ErrorState { img with mem } := by
  have h : Agrees img { img with mem } (fun b => b < lo ∨ hi ≤ b) := ⟨rfl, rfl, rfl, hout.keep⟩
  exact ⟨h.errorOf_eq ha, h.errorState (fun a hp => ha a (.state hp)) hs⟩

/-- Raising the runtime's error type over an error state read away from `lo` to `hi` leaves one
read away from them too: the type cell then holds the runtime's type, whose places are the
state's. -/
theorem ErrorAway.raise {img img' : Image} {lo hi : Nat} {rt : UInt64} (ha : ErrorAway img lo hi)
    (hw : WritesCells img img') (hrt : global img "cx_runtime_error_s" = some rt)
    (hfield : ¬ CellBlock img (blockOf (rt + Obj.str) - 1))
    (htype : ∀ t, global img "cx_err_type" = some t → img'.mem.load .u64 t = .ok rt) :
    ErrorAway img' lo hi := by
  have hrt' : global img' "cx_runtime_error_s" = some rt := by rwa [hw.global_eq]
  have hname : ∀ s, img'.mem.load .u64 (rt + Obj.str) = .ok s → ErrorPlace img s := fun s hs =>
    .state (.runtimeName hrt (by rwa [hw.load_eq hfield] at hs))
  intro a hp
  apply ha a
  cases hp with
  | state hp =>
    cases hp with
    | cell hc hc' => exact .state (.cell hc (by rwa [hw.global_eq] at hc'))
    | empty => exact hw.empty ▸ .state .empty
    | runtimeField ht => exact .state (.runtimeField (by rwa [hw.global_eq] at ht))
    | runtimeName ht hs =>
      obtain rfl := Option.some.inj (ht.symm.trans hrt')
      exact hname _ hs
  | typeField ht hty =>
    rw [← Except.ok.inj ((htype _ (by rwa [hw.global_eq] at ht)).symm.trans hty)]
    exact .state (.runtimeField hrt)
  | typeName ht hty hs =>
    rw [← Except.ok.inj ((htype _ (by rwa [hw.global_eq] at ht)).symm.trans hty)] at hs
    exact hname _ hs

/-! ## An image with an error set -/

/-- No error cell lies in block `b`, as the addresses of the cells show. -/
theorem not_cellBlock {img : Image} {b : Nat}
    (h : ∀ c ∈ errorCellNames, (global img c).map (fun t => blockOf t - 1) ≠ some b) :
    ¬ CellBlock img b := by
  rintro ⟨c, hc, t, ht, rfl⟩
  exact h c hc (by rw [ht]; rfl)

/-- The memory of a function that set an error whose type has an empty name, with an empty
message: the type cell, message buffer and flag in blocks 0 to 2, the runtime's error type in
block 3 and the nameless one in block 4, the name `RuntimeError` in block 5 and the empty string,
which the nameless type is named by, in block 6. -/
def namelessMemory : Memory :=
  let zeros := fun n => ByteArray.mk (Array.replicate n 0)
  let m : Memory := ⟨#[zeros 8, zeros 1024, zeros 4, zeros 80, zeros 80,
    ByteArray.mk (bytes "RuntimeError" ++ [0]).toArray, zeros 1]⟩
  (((((m.storeAt 0 0 8 (Memory.base 4)).storeAt 2 0 4 1).storeAt 3 0 4 Obj.error).storeAt 3 32 8
    (Memory.base 5)).storeAt 4 0 4 Obj.error).storeAt 4 32 8 (Memory.base 6)

/-- An image over `namelessMemory`, every static error type being the runtime's. -/
def namelessImage : Image where
  lib := { functions := #[], strings := #[], provided := #[], constructors := [], unresolved := [],
           globals := (errorTypes ++ errorCellNames).toArray.map sampleGlobal }
  mem := namelessMemory
  globals := #[Memory.base 3, Memory.base 3, Memory.base 3, Memory.base 3, Memory.base 0,
    Memory.base 1, Memory.base 2]
  strings := #[]
  empty := Memory.base 6
  stackBlock := 0
  sp := 0

/-- The nameless image has the error cells in their own blocks. -/
theorem namelessImage_errorState : ErrorState namelessImage where
  cells := by
    have types : ∀ ty ∈ errorTypes, (global namelessImage ty).isSome = true := by decide +kernel
    exact ⟨fun ty hty => Option.isSome_iff_exists.1 (types ty hty),
      ⟨Memory.base 0, 0, 0, by decide +kernel, by decide +kernel⟩,
      ⟨Memory.base 1, 1, 0, by decide +kernel, by decide +kernel⟩,
      ⟨Memory.base 2, 2, 0, by decide +kernel, by decide +kernel⟩⟩
  own := by
    have h : ∀ c ∈ errorCellNames, ∀ c' ∈ errorCellNames,
        (global namelessImage c).map blockOf = (global namelessImage c').map blockOf → c = c' := by
      decide +kernel
    intro c hc c' hc' t t' ht ht' hb
    exact h c hc c' hc' (by rw [ht, ht']; simp [hb])
  empty := ⟨not_cellBlock (by decide +kernel), by decide +kernel⟩
  runtime := ⟨Memory.base 3, by decide +kernel, by decide +kernel, not_cellBlock (by decide +kernel),
    Memory.base 5, by decide +kernel, not_cellBlock (by decide +kernel), by decide +kernel⟩

/-- The error of `namelessImage` is set, and both its name and its message are empty. -/
theorem namelessImage_error : flagOf namelessImage = .ok 1 ∧ errorOf namelessImage = .ok ([], []) :=
  ⟨by decide +kernel, by decide +kernel⟩

end InlineC.Machine.Objects

namespace InlineC.Machine

/-- `cx_call` as the loader calls it: it clears the error state, calls the function on the
module and the argument tuple, and sets a `RuntimeError` when the function returned null without
setting an error. -/
theorem callProvided_cx_call {σ : Type} (hook : Hook σ) (img fuel : Nat) (fn m t : UInt64) :
    callProvided hook img (fuel + 1) "cx_call" [fn, m, t] [false, false, false] = (do
      onImage img Objects.clearError
      let r ← callAddr hook img fuel fn #[m, t] #[.word .u64, .word .u64]
      if r == 0 && !(← onImage img Objects.errorSet) then
        onImage img (Objects.raise "cx_runtime_error_s"
          (Objects.bytes "function returned NULL without setting an error"))
      pure r) := by
  unfold callProvided
  rw [callBack]
  rfl

/-- Putting back the image a world has leaves the world as it was. -/
theorem world_set_self {σ : Type} {w : World σ} {i : Nat} {image : Image} (hi : w.images[i]? = some image) :
    ({ w with images := w.images.set! i image } : World σ) = w := by
  simp [Host.setIfInBounds_self hi]

/-- Setting an image that is present finds the new one there. -/
theorem images_set_self {σ : Type} {w : World σ} {i : Nat} {image : Image} (x : Image)
    (hi : w.images[i]? = some image) : ({ w with images := w.images.set! i x } : World σ).images[i]? = some x := by
  have := (Array.getElem?_eq_some_iff.1 hi).1
  simp [this]

end InlineC.Machine

namespace InlineC.Host

open InlineC.Machine InlineC.Machine.Objects InlineC.Machine.Memory

/-- Taking the error after a failed call: the loader reports the error it reads, or its
fallback when both the name and the message are empty, and leaves no error set. -/
theorem takeError_run {w : World HostState} {img : Nat} {image : Image} {e : List UInt8 × List UInt8}
    (hi : w.images[img]? = some image) (hs : ErrorState image) (he : errorOf image = .ok e)
    (fallback : String) :
    ∃ image', (takeError img fallback).run w =
        .ok (nativeFailure fallback e.1 e.2, { w with images := w.images.set! img image' }) ∧
      WritesCells image image' ∧ errorOf image' = .ok ([], []) := by
  obtain ⟨image', hclear, hw, -, hcleared⟩ := clearError_run hs
  have hread : (do
      let e ← pendingError
      clearError
      pure e : ImgM _).run image = .ok (e, image') :=
    run_bind_eq_ok.2 ⟨e, image, pendingError_run he, run_bind_eq_ok.2 ⟨(), image', hclear, rfl⟩⟩
  exact ⟨image', run_bind_eq_ok.2 ⟨e, _, onImage_run hi hread, rfl⟩, hw, hcleared⟩

/-- What `cx_call` leaves: the function starts with no error set, and once it returned `r` the
error state is as it left it, except that a null result with no error set gets a `RuntimeError`
saying so. -/
theorem cxCall_run {σ : Type} (hook : Hook σ) {w₁ : World σ} {img fuel : Nat} {image₁ : Image}
    (fn m t : UInt64) (himg : w₁.images[img]? = some image₁) (hs : ErrorState image₁) :
    ∃ image₁', WritesCells image₁ image₁' ∧ errorOf image₁' = .ok ([], []) ∧
      ∀ r w₂ image₂ f lo hi, (callAddr hook img fuel fn #[m, t] #[.word .u64, .word .u64]).run
          { w₁ with images := w₁.images.set! img image₁' } = .ok (r, w₂) →
        w₂.images[img]? = some image₂ → ErrorState image₂ → flagOf image₂ = .ok f →
        ErrorAway image₂ lo hi →
        ∃ image₂', (callProvided hook img (fuel + 1) "cx_call" [fn, m, t] [false, false, false]).run w₁ =
            .ok (r, { w₂ with images := w₂.images.set! img image₂' }) ∧
          WritesCells image₂ image₂' ∧ ErrorAway image₂' lo hi ∧
          (r = 0 → f = 0 → errorOf image₂' =
            .ok (bytes "RuntimeError", bytes "function returned NULL without setting an error")) ∧
          (r ≠ 0 ∨ f ≠ 0 → image₂' = image₂) := by
  obtain ⟨image₁', hclear, hw₁, -, hclean⟩ := clearError_run hs
  refine ⟨image₁', hw₁, hclean, fun r w₂ image₂ f lo hi hrun hi₂ hs₂ hf haway => ?_⟩
  rw [callProvided_cx_call, run_bind_of_ok (onImage_run himg hclear), run_bind_of_ok hrun,
    run_bind_of_ok (onImage_read hi₂ (errorSet_run hf))]
  dsimp only
  by_cases hnull : r = 0 ∧ f = 0
  · -- nothing set: `cx_call` sets the runtime's own error
    obtain ⟨rfl, rfl⟩ := hnull
    obtain ⟨rt, hrt, hrt0, hnamed⟩ := hs₂.runtime
    obtain ⟨image₂', hraise, hw₂, -, herr, htype⟩ := raise_run hs₂ hrt hrt0 hnamed
      (show (0 : UInt8) ∉ bytes "function returned NULL without setting an error" by decide +kernel)
    rw [List.take_of_length_le (by decide +kernel)] at herr
    refine ⟨image₂', ?_, hw₂, haway.raise hw₂ hrt hnamed.1 htype, fun _ _ => herr, ?_⟩
    · rw [if_pos (by decide)]
      exact run_bind_eq_ok.2 ⟨(), _, onImage_run hi₂ hraise, rfl⟩
    · rintro (h | h) <;> exact absurd rfl h
  · refine ⟨image₂, ?_, ⟨⟨rfl, rfl, rfl, fun _ _ => rfl⟩, .refl _⟩, haway, fun h0 hf0 => absurd ⟨h0, hf0⟩ hnull,
      fun _ => rfl⟩
    rw [if_neg (by simpa [not_and_or] using hnull), world_set_self hi₂]
    rfl

/-- Finding a library that is present changes nothing. -/
theorem getLib_run {w : World HostState} {lib : Nat} {l : Library} (hl : w.host.libs[lib]? = some l) :
    (getLib lib).run w = .ok (l, w) := by
  simp [getLib, getHost, hl]
  rfl

/-- A call of a method of an open library whose arguments converted to the tuple `inp`: `cx_call`
runs, the loader drops the tuple, and reports the error left when the result is null, or else
reads the result back. -/
theorem callMethod_run (fuel : Nat) (name : String) (fn : UInt64) {lib : Nat} {args : List HostValue}
    {w w₁ : World HostState} {l : Library} {inp : UInt64}
    (hl : w.host.libs[lib]? = some l) (hopen : l.closed = false)
    (hconv : (toTuple lib l.image args).run w = .ok (.ok inp, w₁)) :
    (callMethod (fuel + 1) lib name fn args).run w = (do
      let res ← callProvided (trampoline fuel) l.image machineFuel "cx_call" [fn, l.module, inp]
        [false, false, false]
      onImage l.image (Objects.decref Objects.releaseDepth inp)
      if res == 0 then
        let e ← takeError l.image (name ++ " failed")
        pure (Except.error e)
      else
        let v ← fromObject l.image nestingDepth res
        onImage l.image (Objects.decref Objects.releaseDepth res)
        pure v : HostM (Except FailureReport HostValue)).run w₁ := by
  rw [callMethod, run_bind_of_ok (getLib_run hl), if_neg (by simp [hopen]), run_bind_of_ok hconv]

/-- Dropping an argument tuple the function left as the conversion built it changes only the
tuple's own blocks. -/
theorem release_run {w : World HostState} {img : Nat} {image : Image} {g o : UInt64}
    {reg : List Registration} {lo hi : Nat} {v : HostValue} (himg : w.images[img]? = some image)
    (hb : Built image.mem g reg 1 lo hi o v) (hg : NoneAt image.mem g)
    (hgl : ∀ b, g = base b → b + 1 < 2 ^ 32 → b < lo) (hd : v.depth < releaseDepth) :
    ∃ mem, (onImage img (decref releaseDepth o)).run w =
        .ok ((), { w with images := w.images.set! img { image with mem } }) ∧
      Outside image.mem mem lo hi := by
  obtain ⟨mem, hrun, -, hout⟩ := hb.release image hg hgl hd
  exact ⟨mem, onImage_run himg hrun, hout⟩

/-- A result of a kind the host has no value for (an error type, a module) is refused with a
`ConversionError` naming its kind, and the world is left as it was. -/
theorem fromObject_no_counterpart {w : World HostState} {img fuel : Nat} {image : Image} {o k : UInt64}
    (hi : w.images[img]? = some image) (ho : o ≠ 0) (hk : image.mem.load .i32 (o + Obj.kind) = .ok k)
    (hkind : k ∉ [Obj.none, Obj.bool, Obj.integer, Obj.float, Obj.string, Obj.tuple, Obj.callable]) :
    (fromObject img (fuel + 1) o).run w = .ok (.error (Errors.conversion
      ("cannot convert native object of kind " ++ toString (Lang.Arith.norm .i32 k).toInt64.toInt)), w) := by
  have hrun : (kindOf o).run image = .ok (k, image) := by
    unfold kindOf
    simp only [beq_iff_eq, ho, if_false]
    exact load_run hk
  simp only [List.mem_cons, List.not_mem_nil, or_false, not_or] at hkind
  obtain ⟨h0, h1, h2, h3, h4, h5, h6⟩ := hkind
  rw [fromObject]
  refine (run_bind_of_ok (onImage_read hi hrun)).trans ?_
  simp only [beq_iff_eq, h0, h1, h2, h3, h4, h5, h6, if_false]
  rfl

/-! ## The laws of a failed call -/

/-- How a method call ends once its function returned `r` in `w₂`, leaving `image₂`, the
argument tuple having been built in the blocks `lo` to `hi`. A null result fails the call: with
no error set, with a `RuntimeError` saying the function returned null; with one set, with that
error as the loader reports it (its fallback when both its name and message are empty); either
way no error is left set. Any other result is read back once the tuple is dropped, which changes
no block outside the tuple's. -/
def CallEnds (fuel lib : Nat) (name : String) (fn : UInt64) (args : List HostValue)
    (w : World HostState) (img : Nat) (r : UInt64) (w₂ : World HostState) (image₂ : Image)
    (lo hi : Nat) : Prop :=
  (r = 0 → flagOf image₂ = .ok 0 → ∃ w₃ image₃,
    (callMethod (fuel + 1) lib name fn args).run w = .ok (.error (Errors.native (bytes "RuntimeError")
      (bytes "function returned NULL without setting an error")), w₃) ∧
    w₃.images[img]? = some image₃ ∧ errorOf image₃ = .ok ([], [])) ∧
  (r = 0 → ∀ f e, flagOf image₂ = .ok f → f ≠ 0 → errorOf image₂ = .ok e → ∃ w₃ image₃,
    (callMethod (fuel + 1) lib name fn args).run w =
      .ok (.error (nativeFailure (name ++ " failed") e.1 e.2), w₃) ∧
    w₃.images[img]? = some image₃ ∧ errorOf image₃ = .ok ([], [])) ∧
  (r ≠ 0 → ∃ mem, Outside image₂.mem mem lo hi ∧
    (callMethod (fuel + 1) lib name fn args).run w = (do
      let v ← fromObject img nestingDepth r
      onImage img (decref releaseDepth r)
      pure v).run { w₂ with images := w₂.images.set! img { image₂ with mem } })

/-- The laws of errors across a method call (`Symbol.Call` through `cx_call`), for every world a
call starts in and every way its function behaves.

* Setting an error leaves it set with the name of its type, `RuntimeError` for a null type, and
  the first 1023 octets of its message.
* An argument with no runtime counterpart fails the call with its conversion error, in the world
  the conversion left: no native code runs.
* Otherwise the function starts with no error set, whatever an earlier call left, and the call
  ends as `CallEnds` says, for a function that keeps the error state, the `None` object and the
  argument tuple where they were and sets no error made of the tuple's objects. -/
structure CallErrorLaws : Prop where
  set_error : ∀ (img : Image) (ty : UInt64) (msg name : List UInt8), ErrorState img →
    (0 : UInt8) ∉ msg → (ty = 0 → name = bytes "RuntimeError") → (ty ≠ 0 → TypeNamed img ty name) →
    ∃ img', (setError ty msg).run img = .ok ((), img') ∧ ErrorState img' ∧
      errorOf img' = .ok (name, msg.take 1023)
  refused : ∀ (fuel lib : Nat) (name : String) (fn : UInt64) (args : List HostValue)
      (w : World HostState) (l : Library) (g : UInt64) (image : Image) (msg : String),
    w.host.libs[lib]? = some l → l.closed = false → Ready l.image g w image →
    Fits image w.host (.tuple args) → (HostValue.tuple args).refusal = some msg →
    (HostValue.tuple args).depth < releaseDepth →
    ∃ w', (toObject lib l.image (.tuple args)).run w = .ok (.error (Errors.conversion msg), w') ∧
      (callMethod (fuel + 1) lib name fn args).run w =
        .ok (.error ((Errors.conversion msg).wrap none ("call " ++ name ++ ": ")), w')
  called : ∀ (fuel lib : Nat) (name : String) (fn : UInt64) (args : List HostValue)
      (w : World HostState) (l : Library) (g : UInt64) (image : Image),
    w.host.libs[lib]? = some l → l.closed = false → Ready l.image g w image →
    Fits image w.host (.tuple args) → (HostValue.tuple args).refusal = none →
    (HostValue.tuple args).depth < releaseDepth → ErrorState image →
    ∃ inp lo hi w₁ image₁, w₁.images[l.image]? = some image₁ ∧ errorOf image₁ = .ok ([], []) ∧
      Built image₁.mem g w₁.host.registry 1 lo hi inp (HostValue.tuple args).norm ∧
      ∀ r w₂ image₂, (callAddr (trampoline fuel) l.image (machineFuel - 1) fn #[l.module, inp]
          #[.word .u64, .word .u64]).run w₁ = .ok (r, w₂) →
        w₂.images[l.image]? = some image₂ → ErrorState image₂ → ErrorAway image₂ lo hi →
        NoneAt image₂.mem g → ¬ CellBlock image₂ (blockOf g - 1) →
        (∀ b, lo ≤ b → b < hi → image₂.mem.blocks[b]? = image₁.mem.blocks[b]?) →
        CallEnds fuel lib name fn args w l.image r w₂ image₂ lo hi

/-- The laws of setting and reporting errors across a call, for every function and every argument
list. -/
theorem call_error_laws : CallErrorLaws where
  set_error img ty msg name hs hmsg hnull hnamed := by
    obtain ⟨img', hrun, hw, -, herr⟩ := setError_run hs hmsg hnull hnamed
    exact ⟨img', hrun, hw.errorState hs, herr⟩
  refused fuel lib name fn args w l g image msg hl hopen hr hf hv hd := by
    obtain ⟨mem, regs, hrun, -, -⟩ := toObject_refused lib l.image g msg (.tuple args) w image hr hf hv hd
    refine ⟨_, hrun, ?_⟩
    rw [toObject] at hrun
    rw [callMethod, run_bind_of_ok (getLib_run hl), if_neg (by simp [hopen]), run_bind_of_ok hrun]
    rfl
  called fuel lib name fn args w l g image hl hopen hr hf hv hd hs := by
    obtain ⟨inp, mem, regs, hconv, hg, -, -, hbuilt⟩ := toObject_ok lib l.image g (.tuple args) w image hr hf hv
    have hi₁ : (afterConversion w l.image { image with mem } regs).images[l.image]? =
        some { image with mem } := converted_present hr.present
    obtain ⟨image₁, hw₁, hclean, hcx⟩ :=
      @cxCall_run _ (trampoline fuel) _ _ (machineFuel - 1) _ fn l.module inp hi₁ (hs.grows hg)
    -- the error cells lie in blocks the image had, below the tuple's
    have hcells : ∀ b, CellBlock { image with mem } b → b < image.mem.blocks.size := by
      rintro b ⟨c, hc, t, ht, rfl⟩
      exact (show StatePlace image t from .cell hc ht).lt_size hs
    have hbuilt₁ : Built image₁.mem g (w.host.registry ++ regs) 1 image.mem.blocks.size
        (image.mem.blocks.size + (HostValue.tuple args).blocks) inp (HostValue.tuple args).norm :=
      hbuilt.congr fun b hlo _ => hw₁.blocks b fun hc => absurd (hcells b hc) (by omega)
    refine ⟨inp, _, _, _, image₁, images_set_self _ hi₁, hclean, hbuilt₁, ?_⟩
    intro r w₂ image₂ hrun hi₂ hs₂ haway hnone hgcell hkeep
    obtain ⟨f, hf⟩ := hs₂.flagOf_ok
    obtain ⟨image₂', hcall, hw₂, haway₂, hnull, hsame⟩ := hcx r w₂ image₂ f _ _ hrun hi₂ hs₂ hf haway
    -- the tuple's blocks hold no error cell, so the tuple is still as the conversion built it
    have hnotcell : ∀ b, image.mem.blocks.size ≤ b → b < image.mem.blocks.size +
        (HostValue.tuple args).blocks → ¬ CellBlock image₂ b := by
      rintro b hlo hhi ⟨c, hc, t, ht, rfl⟩
      rcases haway t (.state (.cell hc ht)) with h | h <;> omega
    have hbuilt₂ := hbuilt₁.congr fun b hlo hhi =>
      (hw₂.blocks b (hnotcell b hlo hhi)).trans (hkeep b hlo hhi)
    have hnone₂ : NoneAt image₂'.mem g := by
      obtain ⟨c, ho, hk, hrc⟩ := hnone
      refine ⟨c, ho.congr fun b hob hb => hw₂.blocks b ?_, hk, hrc⟩
      rwa [hob, blockOf, blockIndex_base hb] at hgcell
    obtain ⟨mem₃, hrel, hout⟩ := release_run (images_set_self _ hi₂) hbuilt₂ hnone₂ hr.noneAt.block_lt
      (by rw [HostValue.depth_norm]; exact hd)
    obtain ⟨herr₃, hs₃⟩ := haway₂.outside hout (hw₂.errorState hs₂)
    have hmethod := callMethod_run fuel name fn hl hopen
      (by rw [toObject] at hconv; exact hconv)
    rw [show machineFuel = (machineFuel - 1) + 1 from rfl, run_bind_of_ok hcall,
      run_bind_of_ok hrel] at hmethod
    have hi₃ := images_set_self { image₂' with mem := mem₃ } (images_set_self image₂' hi₂)
    refine ⟨fun hr0 hf0 => ?_, fun hr0 f' e hf' hf0 he => ?_, fun hr0 => ?_⟩
    · -- no error set: the runtime's own, with the name of its type
      subst hr0
      obtain rfl : f = 0 := Except.ok.inj (hf.symm.trans hf0)
      obtain ⟨image₄, htake, -, hclean₄⟩ :=
        takeError_run hi₃ hs₃ (herr₃.trans (hnull rfl rfl)) (name ++ " failed")
      refine ⟨_, image₄, ?_, images_set_self _ hi₃, hclean₄⟩
      rw [hmethod, if_pos (by decide), run_bind_of_ok htake]
      unfold nativeFailure
      rw [if_neg (by decide +kernel)]
      rfl
    · -- an error set: the one the function left
      subst hr0
      obtain rfl : f' = f := Except.ok.inj (hf'.symm.trans hf)
      obtain rfl := hsame (.inr hf0)
      obtain ⟨image₄, htake, -, hclean₄⟩ := takeError_run hi₃ hs₃ (herr₃.trans he) (name ++ " failed")
      refine ⟨_, image₄, ?_, images_set_self _ hi₃, hclean₄⟩
      rw [hmethod, if_pos (by decide), run_bind_of_ok htake]
      rfl
    · obtain rfl := hsame (.inl hr0)
      refine ⟨mem₃, hout, ?_⟩
      rw [hmethod, if_neg (by simpa using hr0)]
      simp [Array.set!]


/-- A host world whose library 0, open, has `noneImage` for its image. -/
def noneLibraryWorld : World HostState :=
  { images := #[noneImage],
    host := { libs := #[{ name := "m", path := "m.so", image := 0, module := 0 }] } }

/-- The world with a library on `noneImage` is ready for conversions. -/
theorem noneLibraryWorld_ready : Ready 0 (Memory.base 0) noneLibraryWorld noneImage where
  present := rfl
  none := noneWorld_ready.none
  noneAt := noneWorld_ready.noneAt
  handles := fun _ he => absurd he List.not_mem_nil

/-- The laws at concrete calls: an error set with no type on the nameless image reads back as a
`RuntimeError` with its message, and calling a method of an open library with an unsigned
integer beyond the signed range fails with that argument's conversion error. -/
theorem call_error_laws_at_calls :
    (∃ img', (setError 0 (bytes "boom")).run namelessImage = .ok ((), img') ∧ ErrorState img' ∧
      errorOf img' = .ok (bytes "RuntimeError", (bytes "boom").take 1023)) ∧
    ∃ w', (toObject 0 0 (.tuple [.uint (2 ^ 63)])).run noneLibraryWorld =
        .ok (.error (Errors.conversion
          "cannot convert uint64 to a native object: value exceeds the signed 64-bit range"), w') ∧
      (callMethod 1 0 "f" 0 [.uint (2 ^ 63)]).run noneLibraryWorld =
        .ok (.error ((Errors.conversion
          "cannot convert uint64 to a native object: value exceeds the signed 64-bit range").wrap
            none ("call " ++ "f" ++ ": ")), w') :=
  ⟨call_error_laws.set_error namelessImage 0 (bytes "boom") (bytes "RuntimeError")
      namelessImage_errorState (by decide +kernel) (fun _ => rfl) (fun h => absurd rfl h),
    call_error_laws.refused 0 0 "f" 0 [.uint (2 ^ 63)] noneLibraryWorld _ (Memory.base 0) noneImage
      _ rfl rfl noneLibraryWorld_ready ⟨by decide, by decide +kernel, by decide⟩ rfl (by decide)⟩

/-- A function that returns null with an error set whose type's name and message are both empty
fails with the loader's fallback, a `RuntimeError`, not with the error it set; and an error type
returned as a result is refused as a value rather than read back. -/
theorem nameless_error_reported_as_runtime :
    flagOf namelessImage = .ok 1 ∧ errorOf namelessImage = .ok ([], []) ∧
      (∃ w', (takeError 0 "nameless failed").run ⟨#[namelessImage], {}⟩ =
        .ok (Errors.native (Utf8.ofString "RuntimeError") (Utf8.ofString "nameless failed"), w')) ∧
      (fromObject 0 nestingDepth (Memory.base 4)).run ⟨#[namelessImage], {}⟩ =
        .ok (.error (Errors.conversion "cannot convert native object of kind 7"), ⟨#[namelessImage], {}⟩) := by
  obtain ⟨hflag, herr⟩ := namelessImage_error
  obtain ⟨image', htake, -⟩ := @takeError_run ⟨#[namelessImage], {}⟩ 0 _ _ rfl
    namelessImage_errorState herr "nameless failed"
  have hnative : nativeFailure "nameless failed" [] [] =
      Errors.native (Utf8.ofString "RuntimeError") (Utf8.ofString "nameless failed") := if_pos rfl
  refine ⟨hflag, herr, ⟨_, hnative ▸ htake⟩, ?_⟩
  have hkind : toString (Lang.Arith.norm .i32 Obj.error).toInt64.toInt = "7" := by decide +kernel
  rw [show nestingDepth = 99999 + 1 from rfl, fromObject_no_counterpart (k := Obj.error) rfl (by decide)
    (by decide +kernel) (by decide), hkind]
  rfl

end InlineC.Host
