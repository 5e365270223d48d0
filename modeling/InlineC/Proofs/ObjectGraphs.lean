import Mathlib
import InlineC.Proofs.CallErrors

/-!
# Reading object graphs back

Native code builds objects through the runtime's constructors and hands them to the host, as a
method's result or as a callback's arguments. The host reads them back by `fromObject`, which
follows a tuple by the size and the items the runtime reports, and those are what native code
set: a tuple may be made with any size, its slots may stay null, and an item may be a tuple
that holds it.

* On every graph whose tuples have sizes that are no negative number and nest less deeply than
  the reader's budget, the host reads back a value or refuses with a conversion error, and
  leaves the world as it was (`Walkable.fromObject_converted`). Null items, error types,
  modules and callables of no registered callback are refused; nothing else fails.
* A tuple whose size reads negative makes the host panic as it makes the list of its items
  (`fromObject_negative_size`).
* A tuple that holds itself exhausts every budget (`fromObject_self_holding`).
-/

namespace InlineC.Host

open InlineC.Machine InlineC.Machine.Objects InlineC.Machine.Memory

/-- What reading objects back may give without the host failing: a result, or the refusal of a
part that has no host counterpart. -/
def Converted {α : Type} (r : Except FailureReport α) : Prop :=
  (∃ v, r = .ok v) ∨ ∃ msg, r = .error (Errors.conversion msg)

/-- A conversion's result stays a conversion's result under a map. -/
theorem Converted.map {α β : Type} {r : Except FailureReport α} (h : Converted r) (f : α → β) :
    Converted (r.map f) := by
  rcases h with ⟨v, rfl⟩ | ⟨msg, rfl⟩
  · exact .inl ⟨f v, rfl⟩
  · exact .inr ⟨msg, rfl⟩

/-- The objects the host reads back without failing, within `d` levels of tuples: null, an
object of a kind without parts (a string when its characters are in memory), and a tuple whose
size is the number of its slots, each holding an object of one level less. -/
inductive Walkable (m : Memory) : Nat → UInt64 → Prop
  | null (d : Nat) : Walkable m d 0
  | leaf {d : Nat} {o : UInt64} {c : Cells} : ObjectAt m o c → o ≠ 0 → c .kind ≠ Obj.tuple →
      (c .kind = Obj.string → c .str ≠ 0 ∧ ∃ s, m.cString (c .str) = .ok s) → Walkable m d o
  | tuple {d : Nat} {o : UInt64} {c : Cells} {os : List UInt64} : ObjectAt m o c → o ≠ 0 →
      c .kind = Obj.tuple → c .count = os.length.toUInt64 → os.length < 2 ^ 63 →
      SlotsAt m (c .items) os → (∀ x ∈ os, Walkable m d x) → Walkable m (d + 1) o

/-- A bind whose first action fails fails with its error. -/
theorem run_bind_of_error {σ ε α β : Type} {x : StateT σ (Except ε) α} {f : α → StateT σ (Except ε) β}
    {s : σ} {e : ε} (hx : x.run s = .error e) : (x >>= f).run s = .error e := by
  rw [StateT.run_bind, hx]
  rfl

section Reading

variable {img : Nat} {w : World HostState} {image : Image} {fuel : Nat} {o : UInt64} {c : Cells}

/-- Null has kind minus one, which the host has no value for. -/
theorem fromObject_null (hi : w.images[img]? = some image) :
    (fromObject img (fuel + 1) 0).run w =
      .ok (.error (Errors.conversion "cannot convert native object of kind -1"), w) := by
  rw [fromObject]
  refine (run_bind_of_ok (onImage_read hi (show (kindOf 0).run image = .ok (_, image) from rfl))).trans ?_
  rfl

/-- A callable reads back as the callback registered under its handle, or is refused. -/
theorem fromObject_callable (hi : w.images[img]? = some image) (ho : ObjectAt image.mem o c)
    (ho0 : o ≠ 0) (hk : c .kind = Obj.callable) :
    ∃ r, (fromObject img (fuel + 1) o).run w = .ok (r, w) ∧ Converted r := by
  rw [fromObject, run_bind_of_ok (onImage_read hi (kindOf_run ho ho0))]
  simp only [hk]
  rw [if_neg (by decide), if_neg (by decide), if_neg (by decide), if_neg (by decide),
    if_neg (by decide), if_neg (by decide), if_pos (by decide),
    run_bind_of_ok (onImage_read hi (callableHandle_run ho ho0 hk)),
    run_bind_of_ok (rfl : getHost.run w = .ok (w.host, w))]
  split
  · exact ⟨_, rfl, .inl ⟨_, rfl⟩⟩
  · exact ⟨_, rfl, .inr ⟨_, rfl⟩⟩

/-- An object of a kind without parts reads back as a value or is refused: the kinds of values
by their leaf values, strings by their characters, callables by their handles, and every other
kind as having no counterpart. -/
theorem fromObject_leaf_converted (hi : w.images[img]? = some image) (ho : ObjectAt image.mem o c)
    (ho0 : o ≠ 0) (hk : c .kind ≠ Obj.tuple)
    (hs : c .kind = Obj.string → c .str ≠ 0 ∧ ∃ s, image.mem.cString (c .str) = .ok s) :
    ∃ r, (fromObject img (fuel + 1) o).run w = .ok (r, w) ∧ Converted r := by
  by_cases hcall : c .kind = Obj.callable
  · exact fromObject_callable hi ho ho0 hcall
  by_cases hstr : c .kind = Obj.string
  · obtain ⟨hs0, s, hcs⟩ := hs hstr
    exact ⟨_, fromObject_str hi ho ho0 hstr hs0 hcs, .inl ⟨_, rfl⟩⟩
  cases hv : leafValue w.host.registry c with
  | some v => exact ⟨_, fromObject_leaf hi ho ho0 hv, .inl ⟨v, rfl⟩⟩
  | none =>
    -- a kind with no leaf value that is no string, tuple or callable has no counterpart
    have hkind : c .kind ∉ [Obj.none, Obj.bool, Obj.integer, Obj.float, Obj.string, Obj.tuple,
        Obj.callable] := by
      simp only [leafValue] at hv
      simp only [List.mem_cons, List.not_mem_nil, or_false]
      rintro (h | h | h | h | h | h | h) <;>
        simp_all [Obj.none, Obj.bool, Obj.integer, Obj.float, Obj.string, Obj.tuple, Obj.callable]
    exact ⟨_, fromObject_no_counterpart hi ho0 (ho.cells .kind) hkind, .inr ⟨_, rfl⟩⟩

/-- The items of a tuple from a slot on read back as values, or the first refusal among them,
when each item does; the world is left as it was. -/
theorem fromItems_converted {conv : UInt64 → HostM (Except FailureReport HostValue)}
    {all : List UInt64} (hi : w.images[img]? = some image) (ho : ObjectAt image.mem o c)
    (ho0 : o ≠ 0) (hk : c .kind = Obj.tuple) (hn : c .count = all.length.toUInt64)
    (hlen : all.length < 2 ^ 63) (hslots : SlotsAt image.mem (c .items) all)
    (hconv : ∀ x ∈ all, ∃ r, (conv x).run w = .ok (r, w) ∧ Converted r) :
    ∀ (pre os : List UInt64), pre ++ os = all →
      ∃ r, (fromItems conv img o (List.range' pre.length os.length)).run w = .ok (r, w) ∧
        Converted r
  | _, [], _ => ⟨.ok [], rfl, .inl ⟨[], rfl⟩⟩
  | pre, x :: os, hall => by
    have hget : (onImage img (tupleGet o pre.length.toUInt64)).run w = .ok (x, w) := by
      refine onImage_read hi ?_
      have hrun := tupleGet_run ho ho0 hk hn hlen hslots (i := pre.length) (by rw [← hall]; simp)
      simpa [← hall] using hrun
    obtain ⟨r, hr, hc⟩ := hconv x (by rw [← hall]; simp)
    rw [List.length_cons, List.range'_succ, fromItems, run_bind_of_ok hget, run_bind_of_ok hr]
    rcases hc with ⟨v, rfl⟩ | ⟨msg, rfl⟩
    case inl =>
      -- the item reads back, and so do the ones after it, or the first refusal among them
      obtain ⟨rs, hrs, hcs⟩ := fromItems_converted hi ho ho0 hk hn hlen hslots hconv (pre ++ [x]) os
        (by simpa using hall)
      rw [List.length_append, List.length_singleton] at hrs
      exact ⟨rs.map (v :: ·), (run_bind_of_ok hrs).trans rfl, hcs.map _⟩
    case inr => exact ⟨_, rfl, .inr ⟨msg, rfl⟩⟩

/-- Reading a tuple back reads its size: a negative one makes the host panic, and otherwise
its items are read one level further down. -/
theorem fromObject_tuple_eq (hi : w.images[img]? = some image) (ho : ObjectAt image.mem o c)
    (ho0 : o ≠ 0) (hk : c .kind = Obj.tuple) :
    (fromObject img (fuel + 1) o).run w =
      if (c .count).toInt64.toInt < 0 then .error negativeLengthPanic
      else (fromItems (fromObject img fuel) img o (List.range (c .count).toInt64.toInt.toNat) >>=
        fun items => pure (items.map .tuple)).run w := by
  rw [fromObject, run_bind_of_ok (onImage_read hi (kindOf_run ho ho0))]
  simp only [hk]
  rw [if_neg (by decide), if_neg (by decide), if_neg (by decide), if_neg (by decide),
    if_neg (by decide), if_pos (by decide),
    run_bind_of_ok (onImage_read hi (tupleSize_run ho ho0 hk))]
  split_ifs <;> rfl

/-- A tuple of a size that is no negative number reads back as the tuple of its items, or the
first refusal among them, when each item does. -/
theorem fromObject_tuple_converted {os : List UInt64} (hi : w.images[img]? = some image)
    (ho : ObjectAt image.mem o c) (ho0 : o ≠ 0) (hk : c .kind = Obj.tuple)
    (hn : c .count = os.length.toUInt64) (hlen : os.length < 2 ^ 63)
    (hslots : SlotsAt image.mem (c .items) os)
    (hitems : ∀ x ∈ os, ∃ r, (fromObject img fuel x).run w = .ok (r, w) ∧ Converted r) :
    ∃ r, (fromObject img (fuel + 1) o).run w = .ok (r, w) ∧ Converted r := by
  rw [fromObject_tuple_eq hi ho ho0 hk]
  have hsize : (c .count).toInt64.toInt = os.length := by rw [hn, toInt64_toInt_ofNat hlen]
  have hrange : List.range (c .count).toInt64.toInt.toNat =
      List.range' ([] : List UInt64).length os.length := by
    rw [hsize, Int.toNat_natCast, List.range_eq_range']
    rfl
  rw [if_neg (by omega), hrange]
  obtain ⟨r, hr, hc⟩ := fromItems_converted hi ho ho0 hk hn hlen hslots hitems [] os rfl
  exact ⟨r.map .tuple, (run_bind_of_ok hr).trans rfl, hc.map _⟩

/-- A walkable object reads back as a value or is refused with a conversion error, leaving the
world as it was, when its tuples nest less deeply than the budget. The induction follows the
graph; each tuple spends one unit of the budget. -/
theorem Walkable.fromObject_converted (hi : w.images[img]? = some image) {d : Nat}
    (h : Walkable image.mem d o) :
    ∀ {fuel : Nat}, d < fuel → ∃ r, (fromObject img fuel o).run w = .ok (r, w) ∧ Converted r := by
  induction h with
  | null d =>
    intro fuel hd
    obtain ⟨f, rfl⟩ : ∃ f, fuel = f + 1 := ⟨fuel - 1, by omega⟩
    exact ⟨_, fromObject_null hi, .inr ⟨_, rfl⟩⟩
  | leaf ho ho0 hk hs =>
    intro fuel hd
    obtain ⟨f, rfl⟩ : ∃ f, fuel = f + 1 := ⟨fuel - 1, by omega⟩
    exact fromObject_leaf_converted hi ho ho0 hk hs
  | tuple ho ho0 hk hn hlen hslots _ ih =>
    intro fuel hd
    obtain ⟨f, rfl⟩ : ∃ f, fuel = f + 1 := ⟨fuel - 1, by omega⟩
    exact fromObject_tuple_converted hi ho ho0 hk hn hlen hslots fun x hx => ih x hx (by omega)

/-- A tuple whose size reads negative makes the host panic. -/
theorem fromObject_negative_size (hi : w.images[img]? = some image) (ho : ObjectAt image.mem o c)
    (ho0 : o ≠ 0) (hk : c .kind = Obj.tuple) (hneg : (c .count).toInt64.toInt < 0) :
    (fromObject img (fuel + 1) o).run w = .error negativeLengthPanic := by
  rw [fromObject_tuple_eq hi ho ho0 hk, if_pos hneg]

/-- A tuple of one item that is the tuple itself exhausts every budget: each level reads the
same tuple again, one unit of budget further down. -/
theorem fromObject_self_holding (hi : w.images[img]? = some image) (ho : ObjectAt image.mem o c)
    (ho0 : o ≠ 0) (hk : c .kind = Obj.tuple) (hn : c .count = 1)
    (hslots : SlotsAt image.mem (c .items) [o]) :
    ∀ fuel, (fromObject img fuel o).run w = .error ⟨"objects nested too deeply"⟩
  | 0 => rfl
  | fuel + 1 => by
    have hget : (onImage img (tupleGet o (0 : Nat).toUInt64)).run w = .ok (o, w) :=
      onImage_read hi (tupleGet_run ho ho0 hk (show c .count = [o].length.toUInt64 by rw [hn]; rfl)
        (by simp) hslots (i := 0) (by simp))
    rw [fromObject_tuple_eq hi ho ho0 hk, hn, if_neg (by decide), show (1 : UInt64).toInt64.toInt.toNat = 1 from rfl, List.range_one]
    refine run_bind_of_error ?_
    rw [fromItems, run_bind_of_ok hget]
    exact run_bind_of_error (fromObject_self_holding hi ho ho0 hk hn hslots fuel)

/-- A tuple made with a size that is no positive number gets one slot and keeps the size it was
given as its count. -/
theorem newTuple_nonpositive_run {img : Image} {n : UInt64} (hn : n.toInt64.toInt ≤ 0)
    (hb : img.mem.blocks.size + 2 < 2 ^ 32) :
    ∃ mem, (newTuple n).run img = .ok (base img.mem.blocks.size, { img with mem }) ∧
      ObjectAt mem (base img.mem.blocks.size) (Function.update (Function.update (fresh Obj.tuple)
        .items (base (img.mem.blocks.size + 1))) .count n) := by
  have hb₁ : img.mem.blocks.size + 1 < 2 ^ 32 := by omega
  have hslots : (if n.toInt64.toInt > 0 then n.toInt64.toInt.toNat else 1) = 1 := if_neg (by omega)
  obtain ⟨mem₁, hrun₁, hg₁, h₁⟩ := allocObject_run (k := Obj.tuple) (by decide) hb₁
  have hrun₂ := @alloc_run { img with mem := mem₁ } (8 * 1) (by decide)
  dsimp only at hrun₂
  rw [hg₁.size] at hrun₂
  set mem₂ := (mem₁.alloc (8 * 1)).1
  have h₂ := h₁.grows (grows_alloc mem₁ (8 * 1))
  obtain ⟨hrun₃, h₃⟩ := h₂.store_run { img with mem := mem₂ } rfl hb₁ .items
    (base (img.mem.blocks.size + 1)) (by simp [Field.width])
  set mem₃ := mem₂.storeAt img.mem.blocks.size Field.items.offset.toNat Field.items.width.size
    (base (img.mem.blocks.size + 1))
  obtain ⟨hrun₄, h₄⟩ := h₃.store_run { img with mem := mem₃ } rfl hb₁ .count n
    (by simp [Field.width])
  refine ⟨_, ?_, h₄⟩
  unfold newTuple
  refine run_bind_eq_ok.2 ⟨_, _, hrun₁, ?_⟩
  simp only [beq_iff_eq, base_ne_zero hb₁, if_false]
  rw [hslots]
  refine run_bind_eq_ok.2 ⟨_, _, hrun₂, ?_⟩
  simp only [base_ne_zero hb, if_false]
  refine run_bind_eq_ok.2 ⟨(), _, hrun₃, ?_⟩
  exact run_bind_eq_ok.2 ⟨(), _, hrun₄, rfl⟩

/-- A tuple made with a negative size makes the host panic when it reads the tuple back. -/
theorem newTuple_negative_panics (hi : w.images[img]? = some image) {n : UInt64}
    (hn : n.toInt64.toInt < 0) (hb : image.mem.blocks.size + 2 < 2 ^ 32) :
    ∃ o w', (onImage img (newTuple n)).run w = .ok (o, w') ∧
      ∀ fuel, (fromObject img (fuel + 1) o).run w' = .error negativeLengthPanic := by
  obtain ⟨mem, hrun, ho⟩ := newTuple_nonpositive_run (le_of_lt hn) hb
  have hb₁ : image.mem.blocks.size + 1 < 2 ^ 32 := by omega
  have hi' : (w.images.set! img { image with mem })[img]? = some { image with mem } := by
    have := (Array.getElem?_eq_some_iff.1 hi).1
    simp [this]
  refine ⟨_, _, onImage_run hi hrun, fun fuel => ?_⟩
  exact fromObject_negative_size (w := { w with images := w.images.set! img { image with mem } })
    hi' ho (base_ne_zero hb₁) (by simp [fresh]) (by simpa using hn)

/-- Reading object graphs back, in an image that is there. Every walkable graph whose tuples
nest less deeply than the budget reads back as a value or is refused with a conversion error,
and the world is left as it was. A tuple whose size reads negative makes the host panic, and
the runtime makes one for every negative size it is asked for; a tuple that holds itself
exhausts every budget. -/
theorem read_back_graphs (hi : w.images[img]? = some image) :
    (∀ {d fuel : Nat} {o : UInt64}, Walkable image.mem d o → d < fuel →
      ∃ r, (fromObject img fuel o).run w = .ok (r, w) ∧ Converted r) ∧
    (∀ {fuel : Nat} {o : UInt64} {c : Cells}, ObjectAt image.mem o c → o ≠ 0 →
      c .kind = Obj.tuple → (c .count).toInt64.toInt < 0 →
      (fromObject img (fuel + 1) o).run w = .error negativeLengthPanic) ∧
    (∀ {n : UInt64}, n.toInt64.toInt < 0 → image.mem.blocks.size + 2 < 2 ^ 32 →
      ∃ o w', (onImage img (newTuple n)).run w = .ok (o, w') ∧
        ∀ fuel, (fromObject img (fuel + 1) o).run w' = .error negativeLengthPanic) ∧
    (∀ {fuel : Nat} {o : UInt64} {c : Cells}, ObjectAt image.mem o c → o ≠ 0 →
      c .kind = Obj.tuple → c .count = 1 → SlotsAt image.mem (c .items) [o] →
      (fromObject img fuel o).run w = .error ⟨"objects nested too deeply"⟩) :=
  ⟨fun h hd => h.fromObject_converted hi hd,
    fun ho ho0 hk hneg => fromObject_negative_size hi ho ho0 hk hneg,
    fun hn hb => newTuple_negative_panics hi hn hb,
    fun ho ho0 hk hn hslots => fromObject_self_holding hi ho ho0 hk hn hslots _⟩

end Reading

/-- The `None` object of the sample image reads back without the host failing. -/
theorem none_object_walks :
    ∃ r, (fromObject 0 nestingDepth (Memory.base 0)).run noneWorld = .ok (r, noneWorld) ∧
      Converted r := by
  obtain ⟨c, hc, hk, -⟩ := noneWorld_ready.noneAt
  have hwalk : Walkable noneImage.mem 0 (Memory.base 0) :=
    .leaf hc (by decide) (by rw [hk]; decide) fun h => absurd (hk.symm.trans h) (by decide)
  exact (@read_back_graphs 0 noneWorld noneImage rfl).1 hwalk (by decide)

/-- `cx_new_tuple(-1)` in the sample image makes a tuple that the host cannot read back. -/
theorem minus_one_tuple_panics :
    ∃ o w', (onImage 0 (newTuple 0xFFFFFFFFFFFFFFFF)).run noneWorld = .ok (o, w') ∧
      (fromObject 0 nestingDepth o).run w' = .error negativeLengthPanic := by
  obtain ⟨o, w', hrun, hpanic⟩ :=
    @newTuple_negative_panics 0 noneWorld noneImage rfl 0xFFFFFFFFFFFFFFFF (by decide)
      (by decide +kernel)
  exact ⟨o, w', hrun, hpanic 99999⟩

end InlineC.Host
