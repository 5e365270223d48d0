import Mathlib
import InlineC.Proofs.ObjectTrees

/-!
# Converting host values to runtime objects

A conversion into an image builds the tree of objects of a value item by item. This module
says what it does for every value:

* a value with a runtime counterpart becomes a tree of fresh objects, each holding one
  reference, which reads as the value with its integers as signed words and its singles
  widened (`toObject_ok`);
* a value with a part that has none (a string holding a zero octet, an unsigned integer beyond
  the signed 64-bit range, a value of another host type) is refused with the message for the
  first such part, and every tuple built on the way is released (`toObject_refused`).

Either way the image only gains blocks, and callbacks met on the way are registered under
fresh handles.
-/

namespace InlineC.Host

open InlineC.Machine InlineC.Machine.Objects InlineC.Machine.Memory

namespace HostValue

mutual

/-- The value a conversion there and back gives: integers as signed 64-bit words, unsigned
ones as signed integers, singles widened to doubles, in every tuple. -/
def norm : HostValue → HostValue
  | .int i => .int (i.bmod (2 ^ 64))
  | .uint n => .int n
  | .single bits => .float (Lang.Arith.convNarrow .f32 .f64 bits.toUInt64)
  | .tuple items => .tuple (normAll items)
  | v => v

/-- The values of a list a conversion there and back gives. -/
def normAll : List HostValue → List HostValue
  | [] => []
  | v :: vs => v.norm :: normAll vs

end

mutual

/-- Normalising a value keeps its depth. -/
theorem depth_norm : ∀ v : HostValue, v.norm.depth = v.depth
  | .tuple items => by rw [norm, depth, depth, depthAll_normAll items]
  | .nil | .bool _ | .int _ | .uint _ | .float _ | .single _ | .str _ | .callback _ | .other _ => rfl

/-- Normalising values keeps their depth. -/
theorem depthAll_normAll : ∀ vs : List HostValue, depthAll (normAll vs) = depthAll vs
  | [] => rfl
  | v :: vs => by rw [normAll, depthAll, depthAll, depth_norm v, depthAll_normAll vs]

end

/-- The depth of two lists of values is the larger of theirs. -/
theorem depthAll_append (xs ys : List HostValue) :
    depthAll (xs ++ ys) = max (depthAll xs) (depthAll ys) := by
  induction xs with
  | nil => simp [depthAll]
  | cons x xs ih => simp [depthAll, ih, max_assoc]

mutual

/-- Why a value has no runtime counterpart: the message for the first part of it, in the order
a conversion meets them, that is a string holding a zero octet, an unsigned integer beyond the
signed 64-bit range, or a value of a host type with no counterpart. -/
def refusal : HostValue → Option String
  | .str s =>
    if s.contains 0 then some "cannot convert string to a native object: embedded NUL byte"
    else none
  | .uint n =>
    if n ≥ 2 ^ 63 then
      some "cannot convert uint64 to a native object: value exceeds the signed 64-bit range"
    else none
  | .other t => some ("cannot convert " ++ t ++ " to a native object")
  | .tuple items => refusalAll items
  | _ => none

/-- Why one of a list of values has no runtime counterpart: the first refusal. -/
def refusalAll : List HostValue → Option String
  | [] => none
  | v :: vs => v.refusal.or (refusalAll vs)

end

mutual

/-- How many blocks a conversion of the value takes: one per object, and one more for a
string's octets and for a tuple's slots. `None` takes none. -/
def blocks : HostValue → Nat
  | .nil => 0
  | .str _ => 2
  | .tuple items => blocksAll items + 2
  | _ => 1

/-- How many blocks a conversion of values takes. -/
def blocksAll : List HostValue → Nat
  | [] => 0
  | v :: vs => v.blocks + blocksAll vs

end

mutual

/-- How many callbacks a conversion of the value registers. -/
def callbacks : HostValue → Nat
  | .callback _ => 1
  | .tuple items => callbacksAll items
  | _ => 0

/-- How many callbacks a conversion of values registers. -/
def callbacksAll : List HostValue → Nat
  | [] => 0
  | v :: vs => v.callbacks + callbacksAll vs

end

mutual

/-- Every string of the value fits in a block with its terminator, and every tuple's slots in
a block. -/
def small : HostValue → Bool
  | .str s => decide (s.length + 1 ≤ maxBlock)
  | .tuple items => decide (8 * max items.length 1 ≤ maxBlock) && smallAll items
  | _ => true

/-- Every string and tuple of the values fits in a block. -/
def smallAll : List HostValue → Bool
  | [] => true
  | v :: vs => v.small && smallAll vs

end

end HostValue

/-! ## The world a conversion runs in -/

/-- The world after a conversion into image `img` left it as `image` and registered `regs`. -/
def afterConversion (w : World HostState) (img : Nat) (image : Image) (regs : List Registration) :
    World HostState :=
  { images := w.images.set! img image,
    host := { w.host with registry := w.host.registry ++ regs,
                          nextHandle := w.host.nextHandle + regs.length.toUInt64 } }

/-- A conversion adds its registrations to the registry. -/
@[simp] theorem afterConversion_registry (w : World HostState) (img : Nat) (image : Image)
    (regs : List Registration) :
    (afterConversion w img image regs).host.registry = w.host.registry ++ regs := rfl

/-- A conversion moves the next handle past its registrations. -/
@[simp] theorem afterConversion_nextHandle (w : World HostState) (img : Nat) (image : Image)
    (regs : List Registration) :
    (afterConversion w img image regs).host.nextHandle = w.host.nextHandle + regs.length.toUInt64 := rfl

/-- Registrations under handles after `n`, up to `n` and their number. -/
def Fresh (n : UInt64) (regs : List Registration) : Prop :=
  ∀ e ∈ regs, n.toNat < e.handle.toNat ∧ e.handle.toNat ≤ n.toNat + regs.length

/-- What a conversion into image `img` relies on: the image is there, the global `None` object
is at `g`, and no registered handle is above the last one given out. -/
structure Ready (img : Nat) (g : UInt64) (w : World HostState) (image : Image) : Prop where
  present : w.images[img]? = some image
  none : global image "cx_none_s" = some g
  noneAt : NoneAt image.mem g
  handles : ∀ e ∈ w.host.registry, e.handle.toNat ≤ w.host.nextHandle.toNat

/-- What converting `v` needs: its strings and tuples fit in blocks, and there are blocks for
its objects and handles for its callbacks. -/
structure Fits (image : Image) (host : HostState) (v : HostValue) : Prop where
  small : v.small = true
  room : image.mem.blocks.size + v.blocks < 2 ^ 32
  handles : host.nextHandle.toNat + v.callbacks < 2 ^ 64

/-- Setting an entry to what it holds changes nothing. -/
theorem setIfInBounds_self {α : Type} {a : Array α} {i : Nat} {x : α} (h : a[i]? = some x) :
    a.setIfInBounds i x = a := by
  apply Array.ext_getElem?
  intro j
  by_cases hj : i = j
  · subst hj
    obtain ⟨hi, hx⟩ := Array.getElem?_eq_some_iff.1 h
    simp [hi, hx]
  · simp [hj]

/-- Running an action on an image that is there: the image becomes the one the action leaves. -/
theorem onImage_run {σ α : Type} {w : World σ} {i : Nat} {image image' : Image} {act : ImgM α}
    {a : α} (hi : w.images[i]? = some image) (h : act.run image = .ok (a, image')) :
    (onImage i act).run w = .ok (a, { w with images := w.images.set! i image' }) := by
  have h' : act image = .ok (a, image') := h
  simp [onImage, hi, h', StateT.run, modifyGet, MonadStateOf.modifyGet, StateT.modifyGet, modify,
    bind, StateT.bind, Except.bind, pure, StateT.pure, Except.pure]

/-- Registering a callback gives it the handle after the last one. -/
theorem register_run (w : World HostState) (cb : Callback) (lib : Nat) :
    (register cb lib).run w =
      .ok (w.host.nextHandle + 1, { w with host := { w.host with
        nextHandle := w.host.nextHandle + 1,
        registry := w.host.registry ++ [⟨w.host.nextHandle + 1, cb, lib⟩] } }) := rfl

/-- A conversion without registrations only sets the image. -/
theorem converted_nil (w : World HostState) (img : Nat) (image : Image) :
    afterConversion w img image [] = { w with images := w.images.set! img image } := by
  simp [afterConversion]

/-- Two conversions one after another are one conversion with both registrations. -/
theorem converted_converted (w : World HostState) (img : Nat) (image₁ image₂ : Image)
    (regs₁ regs₂ : List Registration) :
    afterConversion (afterConversion w img image₁ regs₁) img image₂ regs₂ =
      afterConversion w img image₂ (regs₁ ++ regs₂) := by
  simp [afterConversion, add_assoc]

/-- Handing out `k` more handles after `n` does not wrap around. -/
theorem toNat_add_length {n : UInt64} {k : Nat} (h : n.toNat + k < 2 ^ 64) :
    (n + k.toUInt64).toNat = n.toNat + k := by
  rw [UInt64.toNat_add, UInt64.toNat_ofNat']
  omega

/-- Fresh registrations one after another are fresh together. -/
theorem Fresh.append {n : UInt64} {regs₁ regs₂ : List Registration} (h₁ : Fresh n regs₁)
    (h₂ : Fresh (n + regs₁.length.toUInt64) regs₂) (hn : n.toNat + regs₁.length < 2 ^ 64) :
    Fresh n (regs₁ ++ regs₂) := by
  have hsum := toNat_add_length hn
  intro e he
  rcases List.mem_append.1 he with he | he
  · have := h₁ e he
    simp only [List.length_append]
    omega
  · have := h₂ e he
    rw [hsum] at this
    simp only [List.length_append]
    omega

/-- A conversion that kept the `None` object and registered fresh handles leaves what the next
one relies on. -/
theorem Ready.converted {img : Nat} {g : UInt64} {w : World HostState} {image : Image} {mem : Memory}
    {regs : List Registration} (hr : Ready img g w image) (hnone : NoneAt mem g)
    (hf : Fresh w.host.nextHandle regs) (hn : w.host.nextHandle.toNat + regs.length < 2 ^ 64) :
    Ready img g (afterConversion w img { image with mem } regs) { image with mem } := by
  have hi : img < w.images.size := (Array.getElem?_eq_some_iff.1 hr.present).1
  refine ⟨by simp [afterConversion, hi], hr.none, hnone, fun e he => ?_⟩
  simp only [afterConversion] at he ⊢
  rw [toNat_add_length hn]
  rcases List.mem_append.1 he with he | he
  · have := hr.handles e he
    omega
  · exact (hf e he).2

/-- A new reference that is not null is what a conversion gives back. -/
theorem checked_run {img : Nat} {act : HostM UInt64} {w w' : World HostState} {o : UInt64}
    (h : act.run w = .ok (o, w')) (ho : o ≠ 0) :
    (toObject.checked img act).run w = .ok (.ok o, w') := by
  unfold toObject.checked
  refine run_bind_eq_ok.2 ⟨o, w', h, ?_⟩
  simp [ho]
  rfl

/-- The `None` object lies in a block the image had. -/
theorem NoneAt.block_lt {m : Memory} {g : UInt64} (h : NoneAt m g) :
    ∀ b, g = base b → b + 1 < 2 ^ 32 → b < m.blocks.size := by
  intro b hob hb
  obtain ⟨c, ho, -, -⟩ := h
  obtain ⟨b', blk, hob', hb', hblk, -⟩ := ho.block
  obtain rfl := base_inj hb hb' (hob.symm.trans hob')
  exact (Array.getElem?_eq_some_iff.1 hblk).1

/-- Growing memory keeps the `None` object. -/
theorem NoneAt.grows {m m' : Memory} {g : UInt64} {k : Nat} (h : NoneAt m g) (hg : m.Grows m' k) :
    NoneAt m' g := by
  obtain ⟨c, ho, hk, hr⟩ := h
  exact ⟨c, ho.grows hg, hk, hr⟩

/-! ## Tuples being filled -/

/-- A tuple at `base lo` with `n` slots being filled: the first slots hold the built items `os`
of `vs`, in the blocks from `lo + 2` to `hi`, and the others are null; the tuple holds one
reference. -/
structure Filling (m : Memory) (g : UInt64) (reg : List Registration) (lo hi n : Nat)
    (os : List UInt64) (vs : List HostValue) : Prop where
  object : ∃ c, ObjectAt m (base lo) c ∧ c .refcnt = 1 ∧ c .kind = Obj.tuple ∧
    c .count = n.toUInt64 ∧ c .items = base (lo + 1)
  bound : lo + 2 < 2 ^ 32
  count : n < 2 ^ 63
  filled : os.length ≤ n
  slots : SlotsAt m (base (lo + 1)) (os ++ List.replicate (n - os.length) 0)
  items : BuiltItems m g reg 1 (lo + 2) hi os vs

section Filling

variable {m m' : Memory} {g : UInt64} {reg : List Registration} {lo hi n : Nat}
  {os : List UInt64} {vs : List HostValue}

/-- A tuple being filled stays so in memory that agrees on its blocks. -/
theorem Filling.congr (h : Filling m g reg lo hi n os vs)
    (hkeep : ∀ b, lo ≤ b → b < hi → m'.blocks[b]? = m.blocks[b]?) : Filling m' g reg lo hi n os vs := by
  obtain ⟨⟨c, ho, hr, hk, hn, hq⟩, hb, hcount, hfilled, hslots, hitems⟩ := h
  have hle := hitems.le
  exact ⟨⟨c, ho.congr_block (by omega) (hkeep lo le_rfl (by omega)), hr, hk, hn, hq⟩, hb, hcount,
    hfilled, hslots.congr_block (by omega) (hkeep _ (by omega) (by omega)),
    hitems.congr fun b hlo hhi => hkeep b (by omega) hhi⟩

/-- More registrations keep a tuple being filled. -/
theorem Filling.append_reg (h : Filling m g reg lo hi n os vs) (more : List Registration) :
    Filling m g (reg ++ more) lo hi n os vs :=
  { h with items := h.items.append_reg more }

/-- A tuple whose slots are all filled is built. -/
theorem Filling.built (h : Filling m g reg lo hi n os vs) (hn : os.length = n) :
    Built m g reg 1 lo hi (base lo) (.tuple vs) := by
  obtain ⟨⟨c, ho, hr, hk, hcount, hq⟩, hb, hlt, -, hslots, hitems⟩ := h
  subst hn
  exact .tuple ho hb hr hk hcount hlt hq (by simpa using hslots) hitems

/-- A new tuple of `n` slots is a tuple being filled, with none filled yet. -/
theorem newTuple_filling {img : Image} (g : UInt64) (reg : List Registration) (n : Nat) (hn : 8 * max n 1 ≤ maxBlock)
    (hb : img.mem.blocks.size + 2 < 2 ^ 32) :
    ∃ mem, (newTuple n.toUInt64).run img = .ok (base img.mem.blocks.size, { img with mem }) ∧
      img.mem.Grows mem 2 ∧
      Filling mem g reg img.mem.blocks.size (img.mem.blocks.size + 2) n [] [] := by
  obtain ⟨mem, hrun, hg, ho, hslots⟩ := newTuple_run n hn hb
  have hn' : 8 * max n 1 ≤ 2 ^ 31 := hn
  refine ⟨mem, hrun, hg, ⟨⟨_, ho, by simp [fresh], by simp [fresh], by simp, by simp⟩, hb,
    by omega, by simp, by simpa using hslots, .nil _⟩⟩

/-- Setting the next slot of a tuple being filled moves the object into the filled part. -/
theorem set_filling {k n : Nat} (os : List UInt64) (hk : os.length = k) (hlt : k < n) (o : UInt64) :
    (os ++ List.replicate (n - k) 0).set k o = (os ++ [o]) ++ List.replicate (n - (k + 1)) 0 := by
  obtain ⟨d, hd⟩ : ∃ d, n - k = d + 1 := ⟨n - k - 1, by omega⟩
  rw [hd, show n - (k + 1) = d by omega, List.replicate_succ, ← hk, List.set_append_right _ _ le_rfl,
    Nat.sub_self, List.set_cons_zero, List.append_assoc, List.singleton_append]

/-- Storing a built item into the next null slot of a tuple being filled. -/
theorem Filling.store (img : Image) {hi' : Nat} {o : UInt64} {v : HostValue}
    (h : Filling img.mem g reg lo hi n os vs) (hitem : Built img.mem g reg 1 hi hi' o v)
    (hlt : os.length < n) :
    (tupleSet (base lo) os.length.toUInt64 o).run img =
        .ok (0, { img with mem := img.mem.storeAt (lo + 1) (8 * os.length) 8 o }) ∧
      Filling (img.mem.storeAt (lo + 1) (8 * os.length) 8 o) g reg lo hi' n (os ++ [o]) (vs ++ [v]) := by
  obtain ⟨⟨c, ho, hr, hk, hcount, hq⟩, hb, hcnt, hfilled, hslots, hitems⟩ := h
  have hle := hitems.le
  have hle' := hitem.le
  have hlen : (os ++ List.replicate (n - os.length) 0).length = n := by simp; omega
  have hrun := tupleSet_run ho (base_ne_zero (by omega)) hk (by rw [hlen]; exact hcount)
    (by rw [hlen]; exact hcnt) hq (by omega) hslots (i := os.length) (by omega)
    (by simp [List.getElem_append_right]) o
  obtain ⟨-, hslots'⟩ := hslots.store_run img (by omega) (i := os.length) (by omega) o
  have hkeep : Outside img.mem (img.mem.storeAt (lo + 1) (8 * os.length) 8 o) (lo + 1) (lo + 2) :=
    outside_storeAt _ _ _ _ _
  refine ⟨hrun, ⟨⟨c, ho.congr_block (by omega) (hkeep.keep lo (.inl (by omega))), hr, hk, hcount,
    hq⟩, hb, hcnt, by simp; omega, ?_, ?_⟩⟩
  · rw [set_filling os rfl hlt] at hslots'
    simpa using hslots'
  · exact (hitems.snoc hitem).congr fun b hlo _ => hkeep.keep b (.inr hlo)

/-- Releasing a tuple being filled, after a refused item left what it left beyond the tuple's
blocks. -/
theorem Filling.release (img : Image) {hi' fuel : Nat} (h : Filling img.mem g reg lo hi n os vs)
    (hlt : os.length < n) (hg : NoneAt img.mem g) (hgl : ∀ b, g = base b → b + 1 < 2 ^ 32 → b < lo)
    (hd : HostValue.depthAll vs < fuel) (hrest : Dropped img.mem g reg hi hi') :
    ∃ mem, (decref (fuel + 1) (base lo)).run img = .ok ((), { img with mem }) ∧
      Dropped mem g reg lo hi' ∧ Outside img.mem mem lo hi := by
  obtain ⟨⟨c, ho, hr, hk, hcount, hq⟩, hb, hcnt, hfilled, hslots, hitems⟩ := h
  obtain ⟨mem, hrun, ho', hslots', hitems', hkeep⟩ :=
    release_partial img hg hgl ho hb hr hk hcount hcnt hq hfilled hslots hitems hd
  refine ⟨mem, hrun, .tuple ho' hb (Function.update_self ..)
    (by rw [Function.update_of_ne (by decide)]; exact hk)
    (by rw [Function.update_of_ne (by decide)]; exact hcount) hcnt
    (by rw [Function.update_of_ne (by decide)]; exact hq) hlt hslots' hitems'
    (hrest.congr fun b hlo _ => hkeep.keep b (.inr hlo)), hkeep⟩

end Filling

/-! ## Conversions that succeed -/

/-- An integer's word, read signed: the integer modulo `2^64`, between `-2^63` and `2^63`. -/
theorem word_toInt (i : Int) :
    (UInt64.ofNat (i % Int.pow 2 64).toNat).toInt64.toInt = i.bmod (2 ^ 64) := by
  have h0 : 0 ≤ i % 2 ^ 64 := Int.emod_nonneg _ (by decide)
  have h1 : i % 2 ^ 64 < 2 ^ 64 := Int.emod_lt_of_pos _ (by decide)
  rw [show Int.pow 2 64 = 2 ^ 64 from rfl, toInt64_toInt_eq, UInt64.toNat_ofNat',
    Nat.mod_eq_of_lt (by omega), Int.bmod]
  split_ifs <;> omega

/-- A number below 2^63 reads back as itself through a signed word. -/
theorem ofNat_toInt {n : Nat} (h : n < 2 ^ 63) : (UInt64.ofNat n).toInt64.toInt = n := by
  rw [toInt64_toInt_eq, UInt64.toNat_ofNat', Nat.mod_eq_of_lt (by omega), if_pos (by omega)]

section Leaves

variable (reg : List Registration)

/-- A new boolean object reads back as its truth value. -/
theorem leafValue_newBool (b : Bool) :
    leafValue reg (Function.update (fresh Obj.bool) .int
      (if Lang.Arith.norm .i32 (if b then 1 else 0) == 0 then 0 else 1)) = some (.bool b) := by
  cases b <;> simp [leafValue, fresh, Obj.none, Obj.bool] <;> decide

/-- A new integer object reads back as its signed value. -/
theorem leafValue_newInt (x : UInt64) :
    leafValue reg (Function.update (fresh Obj.integer) .int x) = some (.int x.toInt64.toInt) := by
  simp [leafValue, fresh, Obj.none, Obj.bool, Obj.integer]

/-- A new float object reads back as its bits. -/
theorem leafValue_newFloat (x : UInt64) :
    leafValue reg (Function.update (fresh Obj.float) .dbl x) = some (.float x) := by
  simp [leafValue, fresh, Obj.none, Obj.bool, Obj.integer, Obj.float]

/-- A callable calling the trampoline reads as the callback registered last under its handle,
when no earlier registration has that handle. -/
theorem leafValue_newCallable (h : UInt64) (cb : Callback) (lib : Nat) (hreg : ∀ e ∈ reg, e.handle ≠ h) :
    leafValue (reg ++ [⟨h, cb, lib⟩])
      (Function.update (Function.update (fresh Obj.callable) .call trampolineAddr) .handle h) =
      some (.callback cb) := by
  have hnone : reg.find? (·.handle == h) = none :=
    List.find?_eq_none.2 fun e he => by simpa using hreg e he
  simp [leafValue, fresh, Obj.none, Obj.bool, Obj.integer, Obj.float, Obj.callable, trampolineAddr,
    List.find?_append, hnone]

/-- A new object has one reference, whatever other field is set. -/
theorem refcnt_fresh_update (k : UInt64) (f : Field) (hf : f ≠ .refcnt) (x : UInt64) :
    Function.update (fresh k) f x .refcnt = 1 := by
  simp [fresh, Function.update_of_ne (Ne.symm hf)]

end Leaves

/-- A conversion that sets the image as it was and registers nothing leaves the world as it was. -/
theorem converted_self {w : World HostState} {img : Nat} {image : Image}
    (hi : w.images[img]? = some image) : afterConversion w img { image with mem := image.mem } [] = w := by
  rw [converted_nil]
  simp [setIfInBounds_self hi]

/-- Setting the image after a conversion is a conversion to that image. -/
theorem converted_set (w : World HostState) (img : Nat) (image image' : Image) (regs : List Registration) :
    { afterConversion w img image regs with
        images := (afterConversion w img image regs).images.set! img image' } =
      afterConversion w img image' regs := by
  rw [← converted_nil, converted_converted, List.append_nil]

/-- A value converted by one of the runtime's constructors of leaf objects: the object starts
the first block the image gains. -/
theorem checked_leaf {img : Nat} {g : UInt64} {w : World HostState} {image : Image}
    {act : ImgM UInt64} {mem : Memory} {c : Cells} {v : HostValue}
    (hi : w.images[img]? = some image) (hb : image.mem.blocks.size + 1 < 2 ^ 32)
    (hact : act.run image = .ok (base image.mem.blocks.size, { image with mem }))
    (ho : ObjectAt mem (base image.mem.blocks.size) c) (hc : c .refcnt = 1)
    (hv : leafValue w.host.registry c = some v) :
    (toObject.checked img (onImage img act)).run w =
        .ok (.ok (base image.mem.blocks.size), afterConversion w img { image with mem } []) ∧
      Built mem g (w.host.registry ++ []) 1 image.mem.blocks.size (image.mem.blocks.size + 1)
        (base image.mem.blocks.size) v :=
  ⟨by rw [converted_nil]; exact checked_run (onImage_run hi hact) (base_ne_zero hb),
    .leaf ho hb hc (by simpa using hv)⟩

/-- No registration is fresh. -/
theorem fresh_nil (n : UInt64) : Fresh n [] := fun _ he => absurd he List.not_mem_nil

/-- After a conversion the image is the one it set. -/
theorem converted_present {w : World HostState} {img : Nat} {image image' : Image}
    {regs : List Registration} (hi : w.images[img]? = some image) :
    (afterConversion w img image' regs).images[img]? = some image' := by
  have := (Array.getElem?_eq_some_iff.1 hi).1
  simp [afterConversion, this]

/-- Storing a converted item and going on with the rest of the items. -/
theorem storeItems_cons_run {lib img i : Nat} {t o : UInt64} {item : HostValue}
    {rest : List HostValue} {w w₁ w₂ : World HostState}
    (h₁ : (toObject lib img item).run w = .ok (.ok o, w₁))
    (h₂ : (onImage img (tupleSet t i.toUInt64 o)).run w₁ = .ok (0, w₂)) :
    (storeItems lib img t i (item :: rest)).run w = (storeItems lib img t (i + 1) rest).run w₂ := by
  rw [storeItems]
  refine (run_bind_of_ok h₁).trans ?_
  refine (run_bind_of_ok h₂).trans ?_
  simp only [bne_self_eq_false, Bool.false_eq_true, if_false]

/-- A converted item stored into the next slot of a tuple being filled: the world the rest
of the items are converted in. -/
theorem Filling.step {img : Nat} {g : UInt64} {w : World HostState} {image : Image}
    {lo n k : Nat} {os : List UInt64} {vs : List HostValue} {o : UInt64} {v : HostValue}
    {mem₁ : Memory} {regs : List Registration} (hr : Ready img g w image)
    (hgl : ∀ b, g = base b → b + 1 < 2 ^ 32 → b < lo)
    (hfill : Filling image.mem g w.host.registry lo image.mem.blocks.size n os vs)
    (hlt : os.length < n) (hg : image.mem.Grows mem₁ k) (hfresh : Fresh w.host.nextHandle regs)
    (hn : w.host.nextHandle.toNat + regs.length < 2 ^ 64)
    (hbuilt : Built mem₁ g (w.host.registry ++ regs) 1 image.mem.blocks.size
      (image.mem.blocks.size + k) o v) :
    ∃ mem₂, (onImage img (tupleSet (base lo) os.length.toUInt64 o)).run
          (afterConversion w img { image with mem := mem₁ } regs) =
        .ok (0, afterConversion w img { image with mem := mem₂ } regs) ∧
      mem₂.blocks.size = image.mem.blocks.size + k ∧
      (∀ b < lo, mem₂.blocks[b]? = image.mem.blocks[b]?) ∧
      Ready img g (afterConversion w img { image with mem := mem₂ } regs) { image with mem := mem₂ } ∧
      Filling mem₂ g (w.host.registry ++ regs) lo (image.mem.blocks.size + k) n (os ++ [o])
        (vs ++ [v]) := by
  have hlo := hfill.items.le
  have hfill₁ : Filling mem₁ g (w.host.registry ++ regs) lo image.mem.blocks.size n os vs :=
    (hfill.congr fun b _ hb => hg.old b hb).append_reg regs
  obtain ⟨hset, hfill₂⟩ := hfill₁.store { image with mem := mem₁ } hbuilt hlt
  -- the store only touches the tuple's slots, above the `None` object's block
  have hnone : NoneAt (mem₁.storeAt (lo + 1) (8 * os.length) 8 o) g :=
    (hr.noneAt.grows hg).congr (outside_storeAt _ _ _ _ _)
      fun b hob hb => by have := hgl b hob hb; omega
  refine ⟨_, ?_, by simp [Memory.storeAt, hg.size], fun b hb => ?_, hr.converted hnone hfresh hn,
    hfill₂⟩
  · have hrun := onImage_run (@converted_present w img image _ regs hr.present) hset
    rwa [converted_set] at hrun
  · rw [storeAt_blocks_ne _ _ _ (by omega), hg.old b (by omega)]

mutual

/-- A value with a runtime counterpart is converted: into a fresh tree of objects for its
normal form, in as many fresh blocks as it takes, with its callbacks registered under fresh
handles. -/
theorem toObject_ok (lib img : Nat) (g : UInt64) :
    ∀ (v : HostValue) (w : World HostState) (image : Image), Ready img g w image →
      Fits image w.host v → v.refusal = none →
      ∃ o mem regs, (toObject lib img v).run w =
          .ok (.ok o, afterConversion w img { image with mem } regs) ∧
        image.mem.Grows mem v.blocks ∧ regs.length = v.callbacks ∧ Fresh w.host.nextHandle regs ∧
        Built mem g (w.host.registry ++ regs) 1 image.mem.blocks.size
          (image.mem.blocks.size + v.blocks) o v.norm
  | .nil, w, image, hr, _, _ => by
    obtain ⟨c, ho, -, -⟩ := hr.noneAt
    obtain ⟨b, _, hob, hb, -⟩ := ho.block
    refine ⟨g, image.mem, [], ?_, .refl _, rfl, fresh_nil _, .none _⟩
    rw [toObject, converted_nil]
    exact checked_run (onImage_run hr.present (globalAddr_run hr.none)) (hob ▸ base_ne_zero hb)
  | .bool b, w, image, hr, hf, _ => by
    have hb : image.mem.blocks.size + 1 < 2 ^ 32 := hf.room
    obtain ⟨mem, hrun, hg, ho⟩ := newBool_run (if b then 1 else 0) hb
    obtain ⟨hrun', hbuilt⟩ := checked_leaf (g := g) hr.present hb hrun ho
      (refcnt_fresh_update _ _ (by decide) _) (leafValue_newBool _ b)
    exact ⟨_, mem, [], by rw [toObject]; exact hrun', hg, rfl, fresh_nil _, hbuilt⟩
  | .str s, w, image, hr, hf, hv => by
    have hz : s.contains 0 = false := by simpa [HostValue.refusal] using hv
    have hs : s.length + 1 ≤ maxBlock := by simpa [HostValue.small] using hf.small
    have hb : image.mem.blocks.size + 2 < 2 ^ 32 := hf.room
    obtain ⟨mem, hrun, hg, ho, hstr⟩ := newStrBytes_run s hs hb
      (by rw [← List.contains_iff_mem, hz]; simp)
    refine ⟨_, mem, [], ?_, hg, rfl, fresh_nil _, .str ho hb (by simp [fresh]) (by simp [fresh])
      (by simp) (by simp) hstr⟩
    rw [toObject, if_neg (by simpa using hz), converted_nil]
    exact checked_run (onImage_run hr.present hrun) (base_ne_zero (by omega))
  | .single bits, w, image, hr, hf, _ => by
    have hb : image.mem.blocks.size + 1 < 2 ^ 32 := hf.room
    obtain ⟨mem, hrun, hg, ho⟩ := newFloat_run (Lang.Arith.convNarrow .f32 .f64 bits.toUInt64) hb
    obtain ⟨hrun', hbuilt⟩ := checked_leaf (g := g) hr.present hb hrun ho
      (refcnt_fresh_update _ _ (by decide) _) (leafValue_newFloat _ _)
    exact ⟨_, mem, [], by rw [toObject]; exact hrun', hg, rfl, fresh_nil _, hbuilt⟩
  | .float bits, w, image, hr, hf, _ => by
    have hb : image.mem.blocks.size + 1 < 2 ^ 32 := hf.room
    obtain ⟨mem, hrun, hg, ho⟩ := newFloat_run bits hb
    obtain ⟨hrun', hbuilt⟩ := checked_leaf (g := g) hr.present hb hrun ho
      (refcnt_fresh_update _ _ (by decide) _) (leafValue_newFloat _ _)
    exact ⟨_, mem, [], by rw [toObject]; exact hrun', hg, rfl, fresh_nil _, hbuilt⟩
  | .tuple items, w, image, hr, hf, hv => by
    obtain ⟨hsmall, hroom, hhandles⟩ := hf
    simp only [HostValue.small, Bool.and_eq_true, decide_eq_true_eq] at hsmall
    obtain ⟨hslot, hsmalls⟩ := hsmall
    have hroom' : image.mem.blocks.size + (HostValue.blocksAll items + 2) < 2 ^ 32 := hroom
    have hb₂ : image.mem.blocks.size + 2 < 2 ^ 32 := by omega
    -- the tuple and its slots take two fresh blocks, then the items are stored one by one
    obtain ⟨mem₁, hrun₁, hg₁, hfill₁⟩ :=
      newTuple_filling g (w.host.registry ++ []) items.length hslot hb₂
    have hr₁ : Ready img g (afterConversion w img { image with mem := mem₁ } [])
        { image with mem := mem₁ } :=
      hr.converted (hr.noneAt.grows hg₁) (fresh_nil _) (by simp; omega)
    obtain ⟨mem₂, regs, os', hrun₂, hsize₂, hold₂, hlen₂, hfresh₂, hos', hfill₂⟩ :=
      storeItems_ok lib img g items _ _ image.mem.blocks.size items.length [] [] hr₁
        hr.noneAt.block_lt (by simpa [hg₁.size] using hfill₁) (by simp) hsmalls
        (by simp only [hg₁.size]; omega) (by simpa [HostValue.callbacks] using hhandles) hv
    rw [converted_converted, List.nil_append] at hrun₂
    refine ⟨base image.mem.blocks.size, mem₂, regs, ?_,
      ⟨by simp only [hsize₂, hg₁.size, HostValue.blocks]; omega,
        fun b hb => (hold₂ b hb).trans (hg₁.old b hb)⟩, hlen₂,
      by simpa [afterConversion] using hfresh₂, ?_⟩
    · rw [toObject, toTuple]
      refine run_bind_eq_ok.2 ⟨_, _, onImage_run hr.present hrun₁, ?_⟩
      simp only [beq_iff_eq, base_ne_zero (by omega : image.mem.blocks.size + 1 < 2 ^ 32), if_false]
      rw [← converted_nil]
      exact hrun₂
    · have hbuilt := hfill₂.built (by simpa using hos')
      simp only [hg₁.size, List.nil_append, afterConversion_registry, List.append_nil] at hbuilt
      rw [show image.mem.blocks.size + (HostValue.tuple items).blocks =
        image.mem.blocks.size + 2 + HostValue.blocksAll items by simp only [HostValue.blocks]; omega]
      simpa only [HostValue.norm] using hbuilt
  | .callback cb, w, image, hr, hf, _ => by
    have hb : image.mem.blocks.size + 1 < 2 ^ 32 := hf.room
    have hh : w.host.nextHandle.toNat + 1 < 2 ^ 64 := hf.handles
    have hnext : (w.host.nextHandle + 1).toNat = w.host.nextHandle.toNat + 1 := by
      rw [UInt64.toNat_add]
      simp only [UInt64.toNat_one]
      omega
    obtain ⟨mem, hrun, hg, ho⟩ := newCallable_run trampolineAddr (w.host.nextHandle + 1) hb
    -- the callback is registered first, under the handle after every registered one
    have hold : ∀ e ∈ w.host.registry, e.handle ≠ w.host.nextHandle + 1 := fun e he heq => by
      have := hr.handles e he
      rw [heq, hnext] at this
      omega
    obtain ⟨hrun', hbuilt⟩ := checked_leaf (g := g)
      (w := { w with host := { w.host with
                                nextHandle := w.host.nextHandle + 1,
                                registry := w.host.registry ++ [⟨w.host.nextHandle + 1, cb, lib⟩] } })
      hr.present hb hrun ho (by simp [fresh]) (leafValue_newCallable _ _ cb lib hold)
    refine ⟨_, mem, [⟨w.host.nextHandle + 1, cb, lib⟩], ?_, hg, rfl,
      fun e he => by simp at he; subst he; simp [hnext],
      by simpa [HostValue.blocks, HostValue.norm] using hbuilt⟩
    rw [toObject]
    refine run_bind_eq_ok.2 ⟨_, _, register_run w cb lib, ?_⟩
    rw [hrun']
    simp [afterConversion]
  | .int i, w, image, hr, hf, _ => by
    have hb : image.mem.blocks.size + 1 < 2 ^ 32 := hf.room
    obtain ⟨mem, hrun, hg, ho⟩ := newInt_run (UInt64.ofNat (i % Int.pow 2 64).toNat) hb
    obtain ⟨hrun', hbuilt⟩ := checked_leaf (g := g) hr.present hb hrun ho
      (refcnt_fresh_update _ _ (by decide) _) (leafValue_newInt _ _)
    refine ⟨_, mem, [], by rw [toObject]; exact hrun', hg, rfl, fresh_nil _, ?_⟩
    rw [word_toInt] at hbuilt
    exact hbuilt
  | .uint n, w, image, hr, hf, hv => by
    have hn : n < 2 ^ 63 := by
      simp only [HostValue.refusal, ge_iff_le, ite_eq_right_iff, reduceCtorEq, imp_false, not_le] at hv
      exact hv
    have hb : image.mem.blocks.size + 1 < 2 ^ 32 := hf.room
    obtain ⟨mem, hrun, hg, ho⟩ := newInt_run (UInt64.ofNat n) hb
    obtain ⟨hrun', hbuilt⟩ := checked_leaf (g := g) hr.present hb hrun ho
      (refcnt_fresh_update _ _ (by decide) _) (leafValue_newInt _ _)
    refine ⟨base image.mem.blocks.size, mem, [], ?_, hg, rfl, fresh_nil _, ?_⟩
    · rw [toObject, if_neg (by rw [show Nat.pow 2 63 = 2 ^ 63 from rfl]; omega)]
      exact hrun'
    · rw [ofNat_toInt hn] at hbuilt
      exact hbuilt
  | .other t, _, _, _, _, hv => by simp [HostValue.refusal] at hv

/-- Storing the items of a tuple that converts fills its slots with their objects, in order. -/
theorem storeItems_ok (lib img : Nat) (g : UInt64) :
    ∀ (items : List HostValue) (w : World HostState) (image : Image) (lo n : Nat)
      (os : List UInt64) (vs : List HostValue), Ready img g w image →
      (∀ b, g = base b → b + 1 < 2 ^ 32 → b < lo) →
      Filling image.mem g w.host.registry lo image.mem.blocks.size n os vs →
      os.length + items.length = n → HostValue.smallAll items = true →
      image.mem.blocks.size + HostValue.blocksAll items < 2 ^ 32 →
      w.host.nextHandle.toNat + HostValue.callbacksAll items < 2 ^ 64 →
      HostValue.refusalAll items = none →
      ∃ mem regs os', (storeItems lib img (base lo) os.length items).run w =
          .ok (.ok (base lo), afterConversion w img { image with mem } regs) ∧
        mem.blocks.size = image.mem.blocks.size + HostValue.blocksAll items ∧
        (∀ b < lo, mem.blocks[b]? = image.mem.blocks[b]?) ∧
        regs.length = HostValue.callbacksAll items ∧ Fresh w.host.nextHandle regs ∧
        os'.length = items.length ∧
        Filling mem g (w.host.registry ++ regs) lo (image.mem.blocks.size + HostValue.blocksAll items) n
          (os ++ os') (vs ++ HostValue.normAll items)
  | [], w, image, lo, n, os, vs, hr, _, hfill, _, _, _, _, _ => by
    refine ⟨image.mem, [], [], ?_, by simp [HostValue.blocksAll], fun _ _ => rfl, rfl, fresh_nil _,
      rfl, by simpa [HostValue.blocksAll, HostValue.normAll] using hfill⟩
    rw [converted_self hr.present, storeItems]
    rfl
  | item :: rest, w, image, lo, n, os, vs, hr, hgl, hfill, hlen, hsmall, hroom, hhandles, hv => by
    simp only [HostValue.smallAll, Bool.and_eq_true] at hsmall
    replace hroom : image.mem.blocks.size + (item.blocks + HostValue.blocksAll rest) < 2 ^ 32 := by
      simpa [HostValue.blocksAll] using hroom
    replace hhandles : w.host.nextHandle.toNat + (item.callbacks + HostValue.callbacksAll rest) < 2 ^ 64 := by
      simpa [HostValue.callbacksAll] using hhandles
    simp only [HostValue.refusalAll, Option.or_eq_none_iff] at hv
    obtain ⟨hsmall₁, hsmall₂⟩ := hsmall
    obtain ⟨hv₁, hv₂⟩ := hv
    have hlt : os.length < n := by simp at hlen; omega
    -- the item is converted into blocks after the tuple's, then stored into the next slot
    obtain ⟨o, mem₁, regs₁, hrun₁, hg₁, hlen₁, hfresh₁, hbuilt₁⟩ :=
      toObject_ok lib img g item w image hr ⟨hsmall₁, by omega, by omega⟩ hv₁
    have hn₁ : w.host.nextHandle.toNat + regs₁.length < 2 ^ 64 := by omega
    obtain ⟨mem₂, hset, hsize₂, hold₂, hr₂, hfill₂⟩ :=
      hfill.step hr hgl hlt hg₁ hfresh₁ hn₁ hbuilt₁
    obtain ⟨mem₃, regs₂, os'', hrun₃, hsize₃, hold₃, hlen₂, hfresh₂, hos'', hfill₃⟩ :=
      storeItems_ok lib img g rest _ _ lo n (os ++ [o]) (vs ++ [item.norm]) hr₂ hgl
        (by simpa [hsize₂] using hfill₂) (by simp at hlen ⊢; omega) hsmall₂
        (by simp only [hsize₂]; omega)
        (by simp only [afterConversion_nextHandle, toNat_add_length hn₁]; omega) hv₂
    rw [converted_converted] at hrun₃
    refine ⟨mem₃, regs₁ ++ regs₂, o :: os'', ?_,
      by simp only [hsize₃, hsize₂, HostValue.blocksAll]; omega,
      fun b hb => (hold₃ b hb).trans (hold₂ b hb), by simp [hlen₁, hlen₂, HostValue.callbacksAll],
      hfresh₁.append hfresh₂ hn₁, by simp [hos''],
      by simpa [List.append_assoc, HostValue.normAll, HostValue.blocksAll, hsize₂, add_assoc] using hfill₃⟩
    rw [storeItems_cons_run hrun₁ hset]
    simpa using hrun₃

end

/-! ## Conversions that are refused -/

/-- What a refused conversion leaves in memory `m'`, from `m`: the blocks below `lo` are
kept, and every object built from `lo` on holds no reference. -/
structure Released (m m' : Memory) (g : UInt64) (reg : List Registration) (lo : Nat) : Prop where
  keep : ∀ b < lo, m'.blocks[b]? = m.blocks[b]?
  dropped : Dropped m' g reg lo m'.blocks.size

/-- Memory that keeps the blocks below the `None` object's keeps the object. -/
theorem NoneAt.keep {m m' : Memory} {g : UInt64} {lo : Nat} (h : NoneAt m g)
    (hkeep : ∀ b < lo, m'.blocks[b]? = m.blocks[b]?)
    (hgl : ∀ b, g = base b → b + 1 < 2 ^ 32 → b < lo) : NoneAt m' g := by
  obtain ⟨c, ho, hk, hr⟩ := h
  exact ⟨c, ho.congr fun b hob hb => hkeep b (hgl b hob hb), hk, hr⟩

/-- A value refused before anything is built leaves the world as it was. -/
theorem refused_at_once {img : Nat} {g : UInt64} {w : World HostState} {image : Image}
    {e : FailureReport} (hr : Ready img g w image) :
    (pure (.error e) : HostM (Except FailureReport UInt64)).run w =
        .ok (.error e, afterConversion w img { image with mem := image.mem } []) ∧
      Released image.mem image.mem g (w.host.registry ++ []) image.mem.blocks.size ∧
      Fresh w.host.nextHandle [] :=
  ⟨by rw [converted_self hr.present]; rfl, ⟨fun _ _ => rfl, .refused _⟩, fresh_nil _⟩

mutual

/-- A value with a part that has no runtime counterpart is refused with the message for the
first such part, once every tuple built on the way has been released. -/
theorem toObject_refused (lib img : Nat) (g : UInt64) (msg : String) :
    ∀ (v : HostValue) (w : World HostState) (image : Image), Ready img g w image →
      Fits image w.host v → v.refusal = some msg → v.depth < releaseDepth →
      ∃ mem regs, (toObject lib img v).run w =
          .ok (.error (Errors.conversion msg), afterConversion w img { image with mem } regs) ∧
        Released image.mem mem g (w.host.registry ++ regs) image.mem.blocks.size ∧
        Fresh w.host.nextHandle regs
  | .str s, w, image, hr, _, hv, _ => by
    by_cases hz : s.contains 0 = true
    · simp only [HostValue.refusal, hz, if_true, Option.some.injEq] at hv
      subst hv
      rw [toObject, if_pos hz]
      exact ⟨_, _, refused_at_once hr⟩
    · rw [HostValue.refusal, if_neg hz] at hv
      cases hv
  | .uint n, w, image, hr, _, hv, _ => by
    by_cases hn : n ≥ 2 ^ 63
    · simp only [HostValue.refusal, hn, if_true, Option.some.injEq] at hv
      subst hv
      rw [toObject, if_pos (show n ≥ Nat.pow 2 63 from hn)]
      exact ⟨_, _, refused_at_once hr⟩
    · rw [HostValue.refusal, if_neg hn] at hv
      cases hv
  | .other t, w, image, hr, _, hv, _ => by
    simp only [HostValue.refusal, Option.some.injEq] at hv
    subst hv
    rw [toObject]
    exact ⟨_, _, refused_at_once hr⟩
  | .tuple items, w, image, hr, hf, hv, hd => by
    obtain ⟨hsmall, hroom, hhandles⟩ := hf
    simp only [HostValue.small, Bool.and_eq_true, decide_eq_true_eq] at hsmall
    obtain ⟨hslot, hsmalls⟩ := hsmall
    have hroom' : image.mem.blocks.size + (HostValue.blocksAll items + 2) < 2 ^ 32 := hroom
    have hb₂ : image.mem.blocks.size + 2 < 2 ^ 32 := by omega
    have hd' : HostValue.depthAll items < releaseDepth - 1 := by
      simp only [HostValue.depth] at hd
      omega
    -- the tuple is made, and released by the call that meets the refused item
    obtain ⟨mem₁, hrun₁, hg₁, hfill₁⟩ :=
      newTuple_filling g (w.host.registry ++ []) items.length hslot hb₂
    have hr₁ : Ready img g (afterConversion w img { image with mem := mem₁ } [])
        { image with mem := mem₁ } :=
      hr.converted (hr.noneAt.grows hg₁) (fresh_nil _) (by simp; omega)
    obtain ⟨mem₂, regs, hrun₂, hrel, hfresh⟩ :=
      storeItems_refused lib img g msg items _ _ image.mem.blocks.size items.length [] [] hr₁
        hr.noneAt.block_lt (by simpa [hg₁.size] using hfill₁) (by simp) hsmalls
        (by simp only [hg₁.size]; omega) (by simpa [HostValue.callbacks] using hhandles) hv
        (by simp [HostValue.depthAll, releaseDepth]) hd'
    rw [converted_converted, List.nil_append] at hrun₂
    refine ⟨mem₂, regs, ?_, ⟨fun b hb => (hrel.keep b hb).trans (hg₁.old b hb),
      by simpa using hrel.dropped⟩, by simpa using hfresh⟩
    rw [toObject, toTuple]
    refine run_bind_eq_ok.2 ⟨_, _, onImage_run hr.present hrun₁, ?_⟩
    simp only [beq_iff_eq, base_ne_zero (by omega : image.mem.blocks.size + 1 < 2 ^ 32), if_false]
    rw [← converted_nil]
    exact hrun₂
  | .nil, _, _, _, _, hv, _ | .bool _, _, _, _, _, hv, _ | .int _, _, _, _, _, hv, _
  | .float _, _, _, _, _, hv, _ | .single _, _, _, _, _, hv, _
  | .callback _, _, _, _, _, hv, _ => by simp [HostValue.refusal] at hv

/-- Items of a tuple being filled, one of which has no runtime counterpart: the items before
it are stored, and the tuple is released with them. -/
theorem storeItems_refused (lib img : Nat) (g : UInt64) (msg : String) :
    ∀ (items : List HostValue) (w : World HostState) (image : Image) (lo n : Nat)
      (os : List UInt64) (vs : List HostValue), Ready img g w image →
      (∀ b, g = base b → b + 1 < 2 ^ 32 → b < lo) →
      Filling image.mem g w.host.registry lo image.mem.blocks.size n os vs →
      os.length + items.length = n → HostValue.smallAll items = true →
      image.mem.blocks.size + HostValue.blocksAll items < 2 ^ 32 →
      w.host.nextHandle.toNat + HostValue.callbacksAll items < 2 ^ 64 →
      HostValue.refusalAll items = some msg →
      HostValue.depthAll vs < releaseDepth - 1 → HostValue.depthAll items < releaseDepth - 1 →
      ∃ mem regs, (storeItems lib img (base lo) os.length items).run w =
          .ok (.error (Errors.conversion msg), afterConversion w img { image with mem } regs) ∧
        Released image.mem mem g (w.host.registry ++ regs) lo ∧ Fresh w.host.nextHandle regs
  | [], _, _, _, _, _, _, _, _, _, _, _, _, _, hv, _, _ => by simp [HostValue.refusalAll] at hv
  | item :: rest, w, image, lo, n, os, vs, hr, hgl, hfill, hlen, hsmall, hroom, hhandles, hv,
      hdv, hdi => by
    simp only [HostValue.smallAll, Bool.and_eq_true] at hsmall
    obtain ⟨hsmall₁, hsmall₂⟩ := hsmall
    replace hroom : image.mem.blocks.size + (item.blocks + HostValue.blocksAll rest) < 2 ^ 32 := by
      simpa [HostValue.blocksAll] using hroom
    replace hhandles : w.host.nextHandle.toNat + (item.callbacks + HostValue.callbacksAll rest) <
        2 ^ 64 := by
      simpa [HostValue.callbacksAll] using hhandles
    replace hdi : max item.depth (HostValue.depthAll rest) < releaseDepth - 1 := hdi
    have hlo := hfill.items.le
    have hlt : os.length < n := by simp at hlen; omega
    cases h₁ : item.refusal with
    | some m =>
      -- the item is refused: the tuple is released with the items stored before it
      obtain rfl : m = msg := by simpa [HostValue.refusalAll, h₁] using hv
      obtain ⟨mem₁, regs₁, hrun₁, hrel₁, hfresh₁⟩ :=
        toObject_refused lib img g m item w image hr ⟨hsmall₁, by omega, by omega⟩ h₁ (by omega)
      have hfill₁ : Filling mem₁ g (w.host.registry ++ regs₁) lo image.mem.blocks.size n os vs :=
        (hfill.congr fun b _ hb => hrel₁.keep b hb).append_reg regs₁
      obtain ⟨mem₂, hrun₂, hdrop₂, hout₂⟩ := hfill₁.release { image with mem := mem₁ } hlt
        (hr.noneAt.keep hrel₁.keep hr.noneAt.block_lt) hgl hdv hrel₁.dropped
      refine ⟨mem₂, regs₁, ?_, ⟨fun b hb => ?_, by rw [hout₂.size]; exact hdrop₂⟩, hfresh₁⟩
      · rw [storeItems]
        refine (run_bind_of_ok hrun₁).trans ?_
        refine (run_bind_of_ok (onImage_run (converted_present hr.present) hrun₂)).trans ?_
        rw [converted_set]
        rfl
      · rw [hout₂.keep b (.inl hb), hrel₁.keep b (by omega)]
    | none =>
      -- the item is stored, and one of the rest is refused
      have hv₂ : HostValue.refusalAll rest = some msg := by
        simpa [HostValue.refusalAll, h₁] using hv
      obtain ⟨o, mem₁, regs₁, hrun₁, hg₁, hlen₁, hfresh₁, hbuilt₁⟩ :=
        toObject_ok lib img g item w image hr ⟨hsmall₁, by omega, by omega⟩ h₁
      have hn₁ : w.host.nextHandle.toNat + regs₁.length < 2 ^ 64 := by omega
      obtain ⟨mem₂, hset, hsize₂, hold₂, hr₂, hfill₂⟩ :=
        hfill.step hr hgl hlt hg₁ hfresh₁ hn₁ hbuilt₁
      obtain ⟨mem₃, regs₂, hrun₃, hrel₃, hfresh₂⟩ :=
        storeItems_refused lib img g msg rest _ _ lo n (os ++ [o]) (vs ++ [item.norm]) hr₂ hgl
          (by simpa [hsize₂] using hfill₂) (by simp at hlen ⊢; omega) hsmall₂
          (by simp only [hsize₂]; omega)
          (by simp only [afterConversion_nextHandle, toNat_add_length hn₁]; omega) hv₂
          (by simp only [HostValue.depthAll_append, HostValue.depthAll, HostValue.depth_norm]; omega)
          (by omega)
      rw [converted_converted] at hrun₃
      refine ⟨mem₃, regs₁ ++ regs₂, ?_, ⟨fun b hb => (hrel₃.keep b hb).trans (hold₂ b hb),
        by simpa [List.append_assoc] using hrel₃.dropped⟩, hfresh₁.append hfresh₂ hn₁⟩
      rw [storeItems_cons_run hrun₁ hset]
      simpa using hrun₃

end

end InlineC.Host
