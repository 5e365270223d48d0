import Mathlib
import InlineC.Proofs.Conversion

/-!
# Values there and back

Reading an object back into the host goes through the runtime's readers. This module shows
that every object that reads as a value is read back as that value, without changing the
world, as long as its tuples nest less deeply than the reader's budget (`Reads.fromObject_run`).
-/

namespace InlineC.Host

open InlineC.Machine InlineC.Machine.Objects InlineC.Machine.Memory

/-! ## Reading the image -/

/-- Reading an image that is there leaves the world as it was. -/
theorem onImage_read {σ α : Type} {w : World σ} {i : Nat} {image : Image} {act : ImgM α} {a : α}
    (hi : w.images[i]? = some image) (h : act.run image = .ok (a, image)) :
    (onImage i act).run w = .ok (a, w) := by
  rw [onImage_run hi h]
  simp [setIfInBounds_self hi]

/-- Reading a string that ends reads the memory's string, changing nothing. -/
theorem cString_run {image : Image} {q : UInt64} {s : List UInt8} (h : image.mem.cString q = .ok s) :
    (ImgM.cString q).run image = .ok (s, image) := by
  simp [ImgM.cString, ImgM.liftMem, h]
  rfl

/-! ## Reading objects back -/

section Reading

variable {img : Nat} {w : World HostState} {image : Image} {fuel : Nat} {o : UInt64} {c : Cells}

/-- An object of a kind without parts reads back as its leaf value. -/
theorem fromObject_leaf {v : HostValue} (hi : w.images[img]? = some image)
    (ho : ObjectAt image.mem o c) (ho0 : o ≠ 0) (hv : leafValue w.host.registry c = some v) :
    (fromObject img (fuel + 1) o).run w = .ok (.ok v, w) := by
  rw [fromObject]
  refine (run_bind_of_ok (onImage_read hi (kindOf_run ho ho0))).trans ?_
  unfold leafValue at hv
  split_ifs at hv with hnone hbool hint hunsigned hfloat hcall
  · cases hv
    simp only [hnone, beq_self_eq_true, if_true]
    rfl
  · cases hv
    simp only [hbool]
    rw [if_neg (by decide), if_pos (by decide)]
    exact (run_bind_of_ok (onImage_read hi (asInt_run ho ho0 (by rw [hbool]; decide)))).trans rfl
  · cases hv
    simp only [hint]
    rw [if_neg (by decide), if_neg (by decide), if_pos (by decide)]
    refine (run_bind_of_ok (onImage_read hi (asInt_run ho ho0 (by rw [hint]; decide)))).trans ?_
    refine (run_bind_of_ok (onImage_read hi (isUnsigned_run ho ho0))).trans ?_
    simp [hint, hunsigned]
    rfl
  · cases hv
    simp only [hint]
    rw [if_neg (by decide), if_neg (by decide), if_pos (by decide)]
    refine (run_bind_of_ok (onImage_read hi (asInt_run ho ho0 (by rw [hint]; decide)))).trans ?_
    refine (run_bind_of_ok (onImage_read hi (isUnsigned_run ho ho0))).trans ?_
    simp [hint, hunsigned]
    rfl
  · cases hv
    simp only [hfloat]
    rw [if_neg (by decide), if_neg (by decide), if_neg (by decide), if_pos (by decide)]
    exact (run_bind_of_ok (onImage_read hi (asFloat_run ho ho0 hfloat))).trans rfl
  · obtain ⟨e, he, rfl⟩ := Option.map_eq_some_iff.1 hv
    simp only [hcall.1]
    rw [if_neg (by decide), if_neg (by decide), if_neg (by decide), if_neg (by decide),
      if_neg (by decide), if_neg (by decide), if_pos (by decide)]
    refine (run_bind_of_ok (onImage_read hi (callableHandle_run ho ho0 hcall.1))).trans ?_
    simp only [ne_eq, hcall.2, not_false_eq_true, if_true]
    refine (run_bind_of_ok (rfl : getHost.run w = .ok (w.host, w))).trans ?_
    rw [he]
    rfl

/-- A string object reads back as the octets it points to. -/
theorem fromObject_str {s : List UInt8} (hi : w.images[img]? = some image)
    (ho : ObjectAt image.mem o c) (ho0 : o ≠ 0) (hk : c .kind = Obj.string) (hs : c .str ≠ 0)
    (hstr : image.mem.cString (c .str) = .ok s) :
    (fromObject img (fuel + 1) o).run w = .ok (.ok (.str s), w) := by
  rw [fromObject]
  refine (run_bind_of_ok (onImage_read hi (kindOf_run ho ho0))).trans ?_
  simp only [hk]
  rw [if_neg (by decide), if_neg (by decide), if_neg (by decide), if_neg (by decide),
    if_pos (by decide)]
  exact (run_bind_of_ok (onImage_read hi
    ((run_bind_of_ok (asStr_run ho ho0 hs)).trans (cString_run hstr)))).trans rfl

/-- The items of a tuple from a slot on read back one by one, when each reads back. -/
theorem fromItems_run {conv : UInt64 → HostM (Except FailureReport HostValue)} {all : List UInt64}
    (hi : w.images[img]? = some image) (ho : ObjectAt image.mem o c) (ho0 : o ≠ 0)
    (hk : c .kind = Obj.tuple) (hn : c .count = all.length.toUInt64) (hlen : all.length < 2 ^ 63)
    (hslots : SlotsAt image.mem (c .items) all) :
    ∀ (pre os : List UInt64) (vs : List HostValue), pre ++ os = all →
      List.Forall₂ (fun o v => (conv o).run w = .ok (.ok v, w)) os vs →
      (fromItems conv img o (List.range' pre.length os.length)).run w = .ok (.ok vs, w)
  | _, [], [], _, .nil => rfl
  | pre, x :: os, v :: vs, hall, .cons hx hrest => by
    have hget : (onImage img (tupleGet o pre.length.toUInt64)).run w = .ok (x, w) := by
      refine onImage_read hi ?_
      have hrun := tupleGet_run ho ho0 hk hn hlen hslots (i := pre.length) (by rw [← hall]; simp)
      simpa [← hall] using hrun
    have hnext := fromItems_run hi ho ho0 hk hn hlen hslots (pre ++ [x]) os vs (by simpa using hall)
      hrest
    rw [List.length_append, List.length_singleton] at hnext
    rw [List.length_cons, List.range'_succ, fromItems]
    refine (run_bind_of_ok hget).trans ?_
    refine (run_bind_of_ok hx).trans ?_
    exact (run_bind_of_ok hnext).trans rfl

/-- A tuple object reads back as the tuple of its items, when each reads back. -/
theorem fromObject_tuple {os : List UInt64} {vs : List HostValue} (hi : w.images[img]? = some image)
    (ho : ObjectAt image.mem o c) (ho0 : o ≠ 0) (hk : c .kind = Obj.tuple)
    (hn : c .count = os.length.toUInt64) (hlen : os.length < 2 ^ 63)
    (hslots : SlotsAt image.mem (c .items) os)
    (hitems : List.Forall₂ (fun o v => (fromObject img fuel o).run w = .ok (.ok v, w)) os vs) :
    (fromObject img (fuel + 1) o).run w = .ok (.ok (.tuple vs), w) := by
  rw [fromObject]
  refine (run_bind_of_ok (onImage_read hi (kindOf_run ho ho0))).trans ?_
  simp only [hk]
  rw [if_neg (by decide), if_neg (by decide), if_neg (by decide), if_neg (by decide),
    if_neg (by decide), if_pos (by decide)]
  refine (run_bind_of_ok (onImage_read hi (tupleSize_run ho ho0 hk))).trans ?_
  have hrange : List.range (c .count).toInt64.toInt.toNat = List.range' ([] : List UInt64).length os.length := by
    rw [hn, toInt64_toInt_ofNat hlen, Int.toNat_natCast, List.range_eq_range']
    rfl
  have hsize : ¬ (c .count).toInt64.toInt < 0 := by
    rw [hn, toInt64_toInt_ofNat hlen]
    omega
  rw [if_neg hsize, hrange]
  exact (run_bind_of_ok (fromItems_run hi ho ho0 hk hn hlen hslots [] os vs rfl hitems)).trans rfl

mutual

/-- An object that reads as a value is read back as that value, leaving the world as it was,
when its tuples nest less deeply than the budget. -/
theorem Reads.fromObject_run (hi : w.images[img]? = some image) :
    ∀ {fuel : Nat} {o : UInt64} {v : HostValue}, Reads image.mem w.host.registry o v →
      v.depth < fuel → (fromObject img fuel o).run w = .ok (.ok v, w)
  | 0, _, _, _, hd => absurd hd (Nat.not_lt_zero _)
  | _ + 1, _, _, .leaf ho ho0 hv, _ => fromObject_leaf hi ho ho0 hv
  | _ + 1, _, _, .str ho ho0 hk hs hstr, _ => fromObject_str hi ho ho0 hk hs hstr
  | _ + 1, _, _, .tuple ho ho0 hk hn hlen hslots hitems, hd =>
    fromObject_tuple hi ho ho0 hk hn hlen hslots
      (ReadsItems.fromObject_run hi hitems (by simp only [HostValue.depth] at hd; omega))

/-- Items built in memory read back one by one as their values. -/
theorem ReadsItems.fromObject_run (hi : w.images[img]? = some image) :
    ∀ {fuel : Nat} {os : List UInt64} {vs : List HostValue},
      ReadsItems image.mem w.host.registry os vs → HostValue.depthAll vs < fuel →
      List.Forall₂ (fun o v => (fromObject img fuel o).run w = .ok (.ok v, w)) os vs
  | _, _, _, .nil, _ => .nil
  | _, _, _, .cons h hs, hd =>
    .cons (Reads.fromObject_run hi h (by simp only [HostValue.depthAll] at hd; omega))
      (ReadsItems.fromObject_run hi hs (by simp only [HostValue.depthAll] at hd; omega))

end

end Reading

/-! ## Converting read values back -/

/-- A leaf value is refused at most as an unsigned integer beyond the signed 64-bit range. -/
theorem leafValue_refusal {reg : List Registration} {c : Cells} {v : HostValue}
    (h : leafValue reg c = some v) :
    v.refusal = none ∨ v.refusal =
      some "cannot convert uint64 to a native object: value exceeds the signed 64-bit range" := by
  unfold leafValue at h
  split_ifs at h
  · cases h; exact .inl rfl
  · cases h; exact .inl rfl
  · cases h
    by_cases hw : (c .int).toNat ≥ 2 ^ 63
    · exact .inr (by rw [HostValue.refusal, if_pos hw])
    · exact .inl (by rw [HostValue.refusal, if_neg hw])
  · cases h; exact .inl rfl
  · cases h; exact .inl rfl
  · obtain ⟨e, -, rfl⟩ := Option.map_eq_some_iff.1 h
    exact .inl rfl

mutual

/-- What an object reads as is refused at most for an unsigned integer beyond the signed
64-bit range: strings read from memory hold no zero octet. -/
theorem Reads.refusal_cases {m : Memory} {reg : List Registration} :
    ∀ {o : UInt64} {v : HostValue}, Reads m reg o v → v.refusal = none ∨ v.refusal =
      some "cannot convert uint64 to a native object: value exceeds the signed 64-bit range"
  | _, _, .leaf _ _ hv => leafValue_refusal hv
  | _, _, .str _ _ _ _ hstr => .inl (by simp [HostValue.refusal, cString_no_zero hstr])
  | _, _, .tuple _ _ _ _ _ _ hitems => ReadsItems.refusal_cases hitems

/-- Items read back from memory are refused, if at all, only for an unsigned integer beyond the
signed range. -/
theorem ReadsItems.refusal_cases {m : Memory} {reg : List Registration} :
    ∀ {os : List UInt64} {vs : List HostValue}, ReadsItems m reg os vs →
      HostValue.refusalAll vs = none ∨ HostValue.refusalAll vs =
        some "cannot convert uint64 to a native object: value exceeds the signed 64-bit range"
  | _, _, .nil => .inl rfl
  | _, _, .cons h hs => by
    rcases Reads.refusal_cases h with h₁ | h₁ <;> rcases ReadsItems.refusal_cases hs with h₂ | h₂ <;>
      simp [HostValue.refusalAll, h₁, h₂]

end

/-! ## There and back -/

/-- A value with a runtime counterpart converts into an object that reads back as the value's
normal form. -/
theorem toObject_fromObject (lib img : Nat) (g : UInt64) {fuel : Nat} {v : HostValue}
    {w : World HostState} {image : Image} (hr : Ready img g w image) (hf : Fits image w.host v)
    (hv : v.refusal = none) (hd : v.depth < fuel) :
    ∃ o w', (toObject lib img v).run w = .ok (.ok o, w') ∧
      (fromObject img fuel o).run w' = .ok (.ok v.norm, w') := by
  obtain ⟨o, mem, regs, hrun, hg, -, -, hbuilt⟩ := toObject_ok lib img g v w image hr hf hv
  have hreads : Reads mem (w.host.registry ++ regs) o v.norm := hbuilt.reads (hr.noneAt.grows hg)
  refine ⟨o, _, hrun, hreads.fromObject_run (converted_present hr.present) ?_⟩
  rw [HostValue.depth_norm]
  exact hd

/-- The laws of conversion between host values and the objects of image `img`, whose `None`
object is at `g`, for values whose tuples nest less deeply than the readers' budget. -/
structure ConversionLaws (lib img : Nat) (g : UInt64) : Prop where
  /-- A value with a runtime counterpart converts, into an object that reads back as the
  value's normal form. -/
  round_trip : ∀ (v : HostValue) (w : World HostState) (image : Image), Ready img g w image →
    Fits image w.host v → v.refusal = none → v.depth < nestingDepth →
    ∃ o w', (toObject lib img v).run w = .ok (.ok o, w') ∧
      (fromObject img nestingDepth o).run w' = .ok (.ok v.norm, w')
  /-- A value with a part that has no runtime counterpart is refused with the message for the
  first such part; the blocks the image had are kept, and every object built on the way is
  released. -/
  refused : ∀ (v : HostValue) (w : World HostState) (image : Image) (msg : String),
    Ready img g w image → Fits image w.host v → v.refusal = some msg → v.depth < nestingDepth →
    ∃ mem regs, (toObject lib img v).run w =
        .ok (.error (Errors.conversion msg), afterConversion w img { image with mem } regs) ∧
      Released image.mem mem g (w.host.registry ++ regs) image.mem.blocks.size
  /-- An object that reads as a value is read back as that value, leaving the world as it was,
  and converting the value back is refused at most for an unsigned integer beyond the signed
  64-bit range. -/
  read_back : ∀ (w : World HostState) (image : Image) (o : UInt64) (v : HostValue),
    w.images[img]? = some image → Reads image.mem w.host.registry o v → v.depth < nestingDepth →
    (fromObject img nestingDepth o).run w = .ok (.ok v, w) ∧
      (v.refusal = none ∨ v.refusal =
        some "cannot convert uint64 to a native object: value exceeds the signed 64-bit range")

/-- Converting a host value and reading it back, for every value and every world ready for it. -/
theorem conversion_laws (lib img : Nat) (g : UInt64) : ConversionLaws lib img g where
  round_trip _ _ _ hr hf hv hd := toObject_fromObject lib img g hr hf hv hd
  refused v w image msg hr hf hv hd := by
    obtain ⟨mem, regs, hrun, hrel, -⟩ := toObject_refused lib img g msg v w image hr hf hv hd
    exact ⟨mem, regs, hrun, hrel⟩
  read_back _ _ _ _ hi h hd := ⟨h.fromObject_run hi hd, h.refusal_cases⟩

/-! ## A library image with its `None` object -/

/-- An image whose one global, the `None` object, fills its one block. -/
def noneImage : Image where
  lib := { functions := #[], globals := #[Objects.sampleGlobal "cx_none_s"], strings := #[],
           provided := #[], constructors := [], unresolved := [] }
  mem := (⟨#[ByteArray.mk (Array.replicate 80 0)]⟩ : Memory).storeAt 0 8 8 0xFFFFFFFFFFFFFFFF
  globals := #[Memory.base 0]
  strings := #[]
  empty := 0
  stackBlock := 0
  sp := 0

/-- A host world whose image 0 is `noneImage`, with nothing registered. -/
def noneWorld : World HostState := { images := #[noneImage], host := {} }

/-- The world of `noneImage` is ready for conversions. -/
theorem noneWorld_ready : Ready 0 (Memory.base 0) noneWorld noneImage where
  present := rfl
  none := by decide +kernel
  noneAt := ⟨Function.update 0 .refcnt 0xFFFFFFFFFFFFFFFF,
    ⟨⟨0, _, rfl, by decide, rfl, by decide +kernel⟩, fun f => by cases f <;> decide +kernel⟩,
    rfl, by decide⟩
  handles := fun _ he => absurd he List.not_mem_nil

/-- A tuple of a negative integer, a string, an unsigned integer and `None` converts and reads
back with the unsigned integer as a signed one. -/
theorem conversion_laws_sample :
    ∃ o w', (toObject 0 0 (.tuple [.int (-3), .str [104, 105], .uint 7, .nil])).run noneWorld =
        .ok (.ok o, w') ∧
      (fromObject 0 nestingDepth o).run w' =
        .ok (.ok (.tuple [.int (-3), .str [104, 105], .int 7, .nil]), w') :=
  (conversion_laws 0 0 (Memory.base 0)).round_trip _ noneWorld noneImage noneWorld_ready
    ⟨by decide, by decide +kernel, by decide⟩ (by decide) (by decide)

/-- A callback converts: it is registered under the next handle, and its callable reads back
as the callback. -/
theorem callback_converts :
    ∃ o w', (toObject 0 0 (.callback (.plain .echo))).run noneWorld = .ok (.ok o, w') ∧
      (fromObject 0 nestingDepth o).run w' = .ok (.ok (.callback (.plain .echo)), w') :=
  toObject_fromObject 0 0 (Memory.base 0) noneWorld_ready ⟨rfl, by decide +kernel, by decide⟩ rfl
    (by decide)

end InlineC.Host
