import Mathlib
import InlineC.Proofs.ObjectCells
import InlineC.Host.Convert

/-!
# Trees of runtime objects

A host value lives in an image as a tree of runtime objects: a leaf object for a truth value,
a number or a callback, a string object with the block of its octets, a tuple object with the
block of its item slots and the trees of its items, and `None`, the runtime's own object.

This module says when the object at an address reads as a host value (`Reads`), which is all
a conversion back needs, and when it is the tree a conversion built (`Built`): then its objects
lie alone in a range of blocks, each holding the same number of references, so the tree is
kept by every change outside that range and by every registration added after it.

Releasing the last reference to a built tree drops the count of every object of it to zero and
changes nothing else (`Built.release`).
-/

namespace InlineC.Host

open InlineC.Machine InlineC.Machine.Objects InlineC.Machine.Memory

namespace HostValue

mutual

/-- How deeply tuples nest in a value. -/
def depth : HostValue → Nat
  | .tuple items => depthAll items + 1
  | _ => 0

/-- How deeply tuples nest in values. -/
def depthAll : List HostValue → Nat
  | [] => 0
  | v :: vs => max v.depth (depthAll vs)

end

end HostValue

/-- The value of an object of a kind without parts, read from its fields: `None`, a truth
value, an integer (unsigned when flagged), a double, or the callback registered under a
callable's handle. -/
def leafValue (reg : List Registration) (c : Cells) : Option HostValue :=
  if c .kind = Obj.none then some .nil
  else if c .kind = Obj.bool then some (.bool (c .int != 0))
  else if c .kind = Obj.integer then
    some (if c .unsigned ≠ 0 then .uint (c .int).toNat else .int (c .int).toInt64.toInt)
  else if c .kind = Obj.float then some (.float (c .dbl))
  else if c .kind = Obj.callable ∧ c .call ≠ 0 then
    (reg.find? (·.handle == c .handle)).map fun e => .callback e.callback
  else none

mutual

/-- The object at `o` reads as `v` through the runtime's readers, callbacks being looked up in
the registry `reg`. -/
inductive Reads (m : Memory) (reg : List Registration) : UInt64 → HostValue → Prop
  | leaf {o : UInt64} {c : Cells} {v : HostValue} :
      ObjectAt m o c → o ≠ 0 → leafValue reg c = some v → Reads m reg o v
  | str {o : UInt64} {c : Cells} {s : List UInt8} :
      ObjectAt m o c → o ≠ 0 → c .kind = Obj.string → c .str ≠ 0 → m.cString (c .str) = .ok s →
      Reads m reg o (.str s)
  | tuple {o : UInt64} {c : Cells} {os : List UInt64} {vs : List HostValue} :
      ObjectAt m o c → o ≠ 0 → c .kind = Obj.tuple → c .count = os.length.toUInt64 →
      os.length < 2 ^ 63 → SlotsAt m (c .items) os → ReadsItems m reg os vs →
      Reads m reg o (.tuple vs)

/-- The objects of a list read as the values of a list, one by one. -/
inductive ReadsItems (m : Memory) (reg : List Registration) : List UInt64 → List HostValue → Prop
  | nil : ReadsItems m reg [] []
  | cons {o : UInt64} {v : HostValue} {os : List UInt64} {vs : List HostValue} :
      Reads m reg o v → ReadsItems m reg os vs → ReadsItems m reg (o :: os) (v :: vs)

end

mutual

/-- The object at `o` is one a conversion built for `v` in the blocks from `lo` to `hi`, which
hold that tree alone; each of its objects holds `r` references. `None` takes no block: it is
the runtime's object at `g`. -/
inductive Built (m : Memory) (g : UInt64) (reg : List Registration) (r : UInt64) :
    Nat → Nat → UInt64 → HostValue → Prop
  | none (lo : Nat) : Built m g reg r lo lo g .nil
  | leaf {lo : Nat} {c : Cells} {v : HostValue} :
      ObjectAt m (base lo) c → lo + 1 < 2 ^ 32 → c .refcnt = r → leafValue reg c = some v →
      Built m g reg r lo (lo + 1) (base lo) v
  | str {lo : Nat} {c : Cells} {s : List UInt8} :
      ObjectAt m (base lo) c → lo + 2 < 2 ^ 32 → c .refcnt = r → c .kind = Obj.string →
      c .str = base (lo + 1) → c .count = s.length.toUInt64 → m.cString (base (lo + 1)) = .ok s →
      Built m g reg r lo (lo + 2) (base lo) (.str s)
  | tuple {lo hi : Nat} {c : Cells} {os : List UInt64} {vs : List HostValue} :
      ObjectAt m (base lo) c → lo + 2 < 2 ^ 32 → c .refcnt = r → c .kind = Obj.tuple →
      c .count = os.length.toUInt64 → os.length < 2 ^ 63 → c .items = base (lo + 1) →
      SlotsAt m (base (lo + 1)) os → BuiltItems m g reg r (lo + 2) hi os vs →
      Built m g reg r lo hi (base lo) (.tuple vs)

/-- The items of a tuple a conversion built, one after another in consecutive ranges of
blocks. -/
inductive BuiltItems (m : Memory) (g : UInt64) (reg : List Registration) (r : UInt64) :
    Nat → Nat → List UInt64 → List HostValue → Prop
  | nil (lo : Nat) : BuiltItems m g reg r lo lo [] []
  | cons {lo mid hi : Nat} {o : UInt64} {v : HostValue} {os : List UInt64} {vs : List HostValue} :
      Built m g reg r lo mid o v → BuiltItems m g reg r mid hi os vs →
      BuiltItems m g reg r lo hi (o :: os) (v :: vs)

end

/-- A value read from an object's fields stays so when more callbacks are registered: a
handle's first registration comes first. -/
theorem leafValue_append {reg : List Registration} {c : Cells} {v : HostValue}
    (h : leafValue reg c = some v) (more : List Registration) : leafValue (reg ++ more) c = some v := by
  unfold leafValue at h ⊢
  split_ifs at h ⊢ with h₁ h₂ h₃ h₄ h₅
  all_goals first | exact h | skip
  obtain ⟨e, he, rfl⟩ := Option.map_eq_some_iff.1 h
  rw [List.find?_append, he]
  rfl

/-- An object's value does not depend on its count of references. -/
@[simp] theorem leafValue_update_refcnt (reg : List Registration) (c : Cells) (x : UInt64) :
    leafValue reg (Function.update c .refcnt x) = leafValue reg c := by
  simp [leafValue, Function.update_of_ne]

/-- An object with a value of a leaf kind is no tuple. -/
theorem kind_ne_tuple_of_leafValue {reg : List Registration} {c : Cells} {v : HostValue}
    (h : leafValue reg c = some v) : c .kind ≠ Obj.tuple := by
  intro hk
  simp [leafValue, hk, Obj.tuple, Obj.none, Obj.bool, Obj.integer, Obj.float, Obj.callable] at h

/-- The runtime's `None` object lies at `g`, and its count is negative: it is never freed. -/
def NoneAt (m : Memory) (g : UInt64) : Prop :=
  ∃ c, ObjectAt m g c ∧ c .kind = Obj.none ∧ (c .refcnt).toInt64 < 0

section Built

variable {m m' : Memory} {g : UInt64} {reg : List Registration} {r : UInt64}

mutual

/-- A built value's blocks run upward. -/
theorem Built.le {lo hi : Nat} {o : UInt64} {v : HostValue} :
    Built m g reg r lo hi o v → lo ≤ hi
  | .none _ => le_rfl
  | .leaf .. => Nat.le_succ _
  | .str .. => by omega
  | .tuple _ _ _ _ _ _ _ _ hitems => by have := hitems.le; omega

/-- Built items' blocks run upward. -/
theorem BuiltItems.le {lo hi : Nat} {os : List UInt64} {vs : List HostValue} :
    BuiltItems m g reg r lo hi os vs → lo ≤ hi
  | .nil _ => le_rfl
  | .cons h hs => le_trans h.le hs.le

end

/-- One more built item after the last. -/
theorem BuiltItems.snoc {lo mid hi : Nat} {os : List UInt64} {vs : List HostValue} {o : UInt64}
    {v : HostValue} : BuiltItems m g reg r lo mid os vs → Built m g reg r mid hi o v →
      BuiltItems m g reg r lo hi (os ++ [o]) (vs ++ [v])
  | .nil _, h => .cons h (.nil _)
  | .cons h' hs, h => .cons h' (hs.snoc h)

mutual

/-- A built tree stays built after more callbacks are registered. -/
theorem Built.append_reg {lo hi : Nat} {o : UInt64} {v : HostValue}
    (more : List Registration) : Built m g reg r lo hi o v → Built m g (reg ++ more) r lo hi o v
  | .none lo => .none lo
  | .leaf ho hb hr hv => .leaf ho hb hr (leafValue_append hv more)
  | .str ho hb hr hk hs hn hstr => .str ho hb hr hk hs hn hstr
  | .tuple ho hb hr hk hn hlen hq hslots hitems =>
    .tuple ho hb hr hk hn hlen hq hslots (hitems.append_reg more)

/-- More registrations keep built items. -/
theorem BuiltItems.append_reg {lo hi : Nat} {os : List UInt64} {vs : List HostValue}
    (more : List Registration) :
    BuiltItems m g reg r lo hi os vs → BuiltItems m g (reg ++ more) r lo hi os vs
  | .nil lo => .nil lo
  | .cons h hs => .cons (h.append_reg more) (hs.append_reg more)

end

mutual

/-- A built tree is kept by every change that keeps its blocks. -/
theorem Built.congr {lo hi : Nat} {o : UInt64} {v : HostValue}
    (hkeep : ∀ b, lo ≤ b → b < hi → m'.blocks[b]? = m.blocks[b]?) :
    Built m g reg r lo hi o v → Built m' g reg r lo hi o v
  | .none lo => .none lo
  | .leaf ho hb hr hv => .leaf (ho.congr_block hb (hkeep lo le_rfl (by omega))) hb hr hv
  | .str ho hb hr hk hs hn hstr =>
    have hidx : ((base (lo + 1)) >>> 32).toNat - 1 = lo + 1 := blockIndex_base (by omega)
    .str (ho.congr_block (by omega) (hkeep lo le_rfl (by omega))) hb hr hk hs hn
      (by rw [@cString_congr m m' _ (by rw [hidx]; exact hkeep _ (by omega) (by omega))]; exact hstr)
  | .tuple ho hb hr hk hn hlen hq hslots hitems =>
    have hle := hitems.le
    .tuple (ho.congr_block (by omega) (hkeep lo le_rfl (by omega))) hb hr hk hn hlen hq
      (hslots.congr_block (by omega) (hkeep _ (by omega) (by omega)))
      (hitems.congr fun b hlo hhi => hkeep b (by omega) hhi)

/-- Built items stay in memory that keeps their blocks. -/
theorem BuiltItems.congr {lo hi : Nat} {os : List UInt64} {vs : List HostValue}
    (hkeep : ∀ b, lo ≤ b → b < hi → m'.blocks[b]? = m.blocks[b]?) :
    BuiltItems m g reg r lo hi os vs → BuiltItems m' g reg r lo hi os vs
  | .nil lo => .nil lo
  | .cons h hs =>
    have hle := h.le
    have hle' := hs.le
    .cons (h.congr fun b hlo hhi => hkeep b hlo (by omega))
      (hs.congr fun b hlo hhi => hkeep b (by omega) hhi)

end

mutual

/-- A built tree reads as its value. -/
theorem Built.reads {lo hi : Nat} {o : UInt64} {v : HostValue} (hg : NoneAt m g) :
    Built m g reg r lo hi o v → Reads m reg o v
  | .none _ =>
    have ⟨c, ho, hk, _⟩ := hg
    have ⟨_, _, hob, hb, _⟩ := ho.block
    .leaf ho (hob ▸ base_ne_zero hb) (by simp [leafValue, hk])
  | .leaf ho hb _ hv => .leaf ho (base_ne_zero hb) hv
  | .str ho hb _ hk hs _ hstr =>
    .str ho (base_ne_zero (by omega)) hk (by rw [hs]; exact base_ne_zero (by omega)) (by rw [hs]; exact hstr)
  | .tuple ho hb _ hk hn hlen hq hslots hitems =>
    .tuple ho (base_ne_zero (by omega)) hk hn hlen (by rw [hq]; exact hslots) (hitems.reads hg)

/-- Built items read back as their values. -/
theorem BuiltItems.reads {lo hi : Nat} {os : List UInt64} {vs : List HostValue} (hg : NoneAt m g) :
    BuiltItems m g reg r lo hi os vs → ReadsItems m reg os vs
  | .nil _ => .nil
  | .cons h hs => .cons (h.reads hg) (hs.reads hg)

end

end Built

end InlineC.Host

namespace InlineC.Machine.Memory

/-- `m'` has the blocks of `m`, those outside `lo .. hi` as they were. -/
structure Outside (m m' : Memory) (lo hi : Nat) : Prop where
  size : m'.blocks.size = m.blocks.size
  keep : ∀ b, b < lo ∨ hi ≤ b → m'.blocks[b]? = m.blocks[b]?

/-- Memory keeps itself outside any range. -/
theorem Outside.refl (m : Memory) (lo hi : Nat) : Outside m m lo hi := ⟨rfl, fun _ _ => rfl⟩

/-- Keeping outside a range composes. -/
theorem Outside.trans {m₁ m₂ m₃ : Memory} {lo hi : Nat} (h₁ : Outside m₁ m₂ lo hi)
    (h₂ : Outside m₂ m₃ lo hi) : Outside m₁ m₃ lo hi :=
  ⟨h₂.size.trans h₁.size, fun b hb => (h₂.keep b hb).trans (h₁.keep b hb)⟩

/-- Keeping outside a range keeps outside a wider one. -/
theorem Outside.mono {m m' : Memory} {lo hi lo' hi' : Nat} (h : Outside m m' lo hi) (hlo : lo' ≤ lo)
    (hhi : hi ≤ hi') : Outside m m' lo' hi' :=
  ⟨h.size, fun b hb => h.keep b (by omega)⟩

/-- A store into one block changes that block only. -/
theorem outside_storeAt (m : Memory) (b off n : Nat) (v : UInt64) :
    Outside m (m.storeAt b off n v) b (b + 1) :=
  ⟨by simp [Memory.storeAt], fun b' hb' => storeAt_blocks_ne _ _ _ (by omega)⟩

end InlineC.Machine.Memory

namespace InlineC.Host

open InlineC.Machine InlineC.Machine.Objects InlineC.Machine.Memory

/-- The `None` object below a range stays where memory keeps all outside the range. -/
theorem NoneAt.congr {m m' : Memory} {g : UInt64} {lo hi : Nat} (h : NoneAt m g)
    (hkeep : Outside m m' lo hi) (hg : ∀ b, g = base b → b + 1 < 2 ^ 32 → b < lo) : NoneAt m' g :=
  have ⟨c, ho, hk, hr⟩ := h
  ⟨c, ho.congr fun b hob hb => hkeep.keep b (.inl (hg b hob hb)), hk, hr⟩

section Release

variable {g : UInt64} {reg : List Registration}

mutual

/-- Releasing the last reference to a built tree drops the count of each of its objects to
zero, and keeps every block outside the tree's. -/
theorem Built.release (img : Image) {lo hi fuel : Nat} {o : UInt64} {v : HostValue}
    (hg : NoneAt img.mem g) (hgl : ∀ b, g = base b → b + 1 < 2 ^ 32 → b < lo) (hd : v.depth < fuel) :
    Built img.mem g reg 1 lo hi o v →
      ∃ mem, (decref fuel o).run img = .ok ((), { img with mem }) ∧
        Built mem g reg 0 lo hi o v ∧ Outside img.mem mem lo hi
  | .none lo => by
    obtain ⟨fuel, rfl⟩ : ∃ f, fuel = f + 1 := ⟨fuel - 1, by omega⟩
    obtain ⟨c, ho, -, hr⟩ := hg
    have ⟨_, _, hob, hb, _⟩ := ho.block
    exact ⟨img.mem, decref_immortal_run ho (hob ▸ base_ne_zero hb) hr, .none lo, .refl _ _ _⟩
  | .leaf ho hb hr hv => by
    obtain ⟨fuel, rfl⟩ : ∃ f, fuel = f + 1 := ⟨fuel - 1, by omega⟩
    obtain ⟨-, ho'⟩ := ho.store_run img rfl hb .refcnt 0 (by simp [Field.width])
    exact ⟨_, decref_leaf_run ho hb hr (kind_ne_tuple_of_leafValue hv),
      .leaf ho' hb (Function.update_self ..) (by rw [leafValue_update_refcnt]; exact hv),
      outside_storeAt _ _ _ _ _⟩
  | .str ho hb hr hk hs hn hstr => by
    obtain ⟨fuel, rfl⟩ : ∃ f, fuel = f + 1 := ⟨fuel - 1, by omega⟩
    obtain ⟨-, ho'⟩ := ho.store_run img rfl (by omega) .refcnt 0 (by simp [Field.width])
    have hidx : ((base (lo + 1)) >>> 32).toNat - 1 = lo + 1 := blockIndex_base (by omega)
    refine ⟨_, decref_leaf_run ho (by omega) hr (by rw [hk]; decide), .str ho' hb
      (Function.update_self ..) (by rw [Function.update_of_ne (by decide)]; exact hk)
      (by rw [Function.update_of_ne (by decide)]; exact hs)
      (by rw [Function.update_of_ne (by decide)]; exact hn) ?_,
      (outside_storeAt _ _ _ _ _).mono le_rfl (by omega)⟩
    rw [@cString_congr img.mem _ _ (by rw [hidx]; exact storeAt_blocks_ne _ _ _ (by omega))]
    exact hstr
  | @Built.tuple _ _ _ _ lo hi c os vs ho hb hr hk hn hlen hq hslots hitems => by
    obtain ⟨fuel, rfl⟩ : ∃ f, fuel = f + 1 := ⟨fuel - 1, by omega⟩
    have hd' : HostValue.depthAll vs < fuel := by
      simp only [HostValue.depth] at hd
      omega
    obtain ⟨-, ho'⟩ := ho.store_run img rfl (by omega) .refcnt 0 (by simp [Field.width])
    have hle := hitems.le
    -- the count goes first, into the tuple's own block; the slots and items are elsewhere
    have hkeep₁ : Outside img.mem (img.mem.storeAt lo 8 8 0) lo (lo + 1) := outside_storeAt _ _ _ _ _
    have hslots₁ : SlotsAt (img.mem.storeAt lo 8 8 0) (base (lo + 1)) ([] ++ os ++ []) := by
      simpa using hslots.congr_block (by omega) (hkeep₁.keep _ (.inr le_rfl))
    have hgl₁ : ∀ b, g = base b → b + 1 < 2 ^ 32 → b < lo + 2 := fun b hob hb' => by
      have := hgl b hob hb'
      omega
    obtain ⟨mem, hrun, hitems', hkeep⟩ :=
      (hitems.congr fun b hlo _ => hkeep₁.keep b (.inr (by omega))).release
        { img with mem := img.mem.storeAt lo 8 8 0 } (hg.congr hkeep₁ hgl) hgl₁ hd' hslots₁
        (by omega) (by omega)
    refine ⟨mem, ?_, .tuple (ho'.congr_block (by omega) (hkeep.keep lo (.inl (by omega)))) hb
      (Function.update_self ..) (by rw [Function.update_of_ne (by decide)]; exact hk)
      (by rw [Function.update_of_ne (by decide)]; exact hn) hlen
      (by rw [Function.update_of_ne (by decide)]; exact hq)
      (by simpa using hslots₁.congr_block (by omega) (hkeep.keep _ (.inl (by omega)))) hitems',
      (hkeep₁.mono le_rfl (by omega)).trans (hkeep.mono (by omega) le_rfl)⟩
    rw [decref_tuple_run ho (by omega) hr hk, hn, toInt64_toInt_ofNat hlen, hq, List.range_eq_range']
    exact hrun

/-- Releasing the items of a built tuple one after another, from their slots. -/
theorem BuiltItems.release (img : Image) {lo hi fuel : Nat} {os : List UInt64}
    {vs : List HostValue} {q : Nat} {pre post : List UInt64}
    (hg : NoneAt img.mem g) (hgl : ∀ b, g = base b → b + 1 < 2 ^ 32 → b < lo)
    (hd : HostValue.depthAll vs < fuel) (hq : SlotsAt img.mem (base q) (pre ++ os ++ post))
    (hqb : q + 1 < 2 ^ 32) (hql : q < lo) :
    BuiltItems img.mem g reg 1 lo hi os vs →
      ∃ mem, (releaseSlots fuel (base q) (List.range' pre.length os.length)).run img =
          .ok ((), { img with mem }) ∧ BuiltItems mem g reg 0 lo hi os vs ∧ Outside img.mem mem lo hi
  | .nil lo => ⟨img.mem, rfl, .nil lo, .refl _ _ _⟩
  | @BuiltItems.cons _ _ _ _ lo mid hi o v os vs h hs => by
    have hdv : v.depth < fuel := by
      simp only [HostValue.depthAll] at hd
      omega
    have hdvs : HostValue.depthAll vs < fuel := by
      simp only [HostValue.depthAll] at hd
      omega
    have hmid := h.le
    have hslot : img.mem.load .u64 (base q + 8 * pre.length.toUInt64) = .ok o := by
      simpa using hq.slots pre.length (by simp)
    obtain ⟨mem₁, hrun₁, h', hkeep₁⟩ := h.release img hg hgl hdv
    have hq₁ : SlotsAt mem₁ (base q) ((pre ++ [o]) ++ os ++ post) := by
      simpa using hq.congr_block hqb (hkeep₁.keep q (.inl hql))
    obtain ⟨mem₂, hrun₂, hs', hkeep₂⟩ :=
      (hs.congr fun b hlo _ => hkeep₁.keep b (.inr hlo)).release { img with mem := mem₁ }
        (hg.congr hkeep₁ hgl) (fun b hob hb => by have := hgl b hob hb; omega) hdvs hq₁ hqb
        (by omega)
    refine ⟨mem₂, ?_, .cons (h'.congr fun b _ hhi => hkeep₂.keep b (.inl hhi)) hs',
      (hkeep₁.mono le_rfl hs.le).trans (hkeep₂.mono hmid le_rfl)⟩
    rw [List.length_cons, List.range'_succ]
    refine run_bind_eq_ok.2 ⟨_, _, Objects.load_run hslot, ?_⟩
    refine run_bind_eq_ok.2 ⟨(), _, hrun₁, ?_⟩
    simpa using hrun₂

end

/-- Dropping slots of two lists is dropping those of the first, then the second. -/
theorem releaseSlots_append (fuel : Nat) (q : UInt64) (l₁ l₂ : List Nat) :
    releaseSlots fuel q (l₁ ++ l₂) = (releaseSlots fuel q l₁ >>= fun _ => releaseSlots fuel q l₂) := by
  induction l₁ with
  | nil => simp [releaseSlots]
  | cons i l₁ ih => simp [releaseSlots, ih, bind_assoc]

/-- Releasing null slots does nothing. -/
theorem releaseSlots_null (img : Image) (fuel : Nat) {q : UInt64} {xs : List UInt64}
    (hq : SlotsAt img.mem q xs) :
    ∀ (k n : Nat), k + n ≤ xs.length → (∀ i (h : i < xs.length), k ≤ i → xs[i] = 0) →
      (releaseSlots (fuel + 1) q (List.range' k n)).run img = .ok ((), img)
  | _, 0, _, _ => rfl
  | k, n + 1, hkn, hz => by
    rw [List.range'_succ]
    refine run_bind_eq_ok.2 ⟨_, _, Objects.load_run (hq.slots k (by omega)), ?_⟩
    rw [hz k (by omega) le_rfl]
    refine run_bind_eq_ok.2 ⟨(), _, decref_null fuel, ?_⟩
    exact releaseSlots_null img fuel hq (k + 1) n (by omega) fun i h hi => hz i h (by omega)

/-- Releasing the last reference to a tuple whose first slots hold built items and the others
are null: the counts of the tuple and of its items drop to zero, and nothing outside its
blocks changes. -/
theorem release_partial (img : Image) {lo hi n fuel : Nat} {c : Cells} {os : List UInt64}
    {vs : List HostValue} (hg : NoneAt img.mem g) (hgl : ∀ b, g = base b → b + 1 < 2 ^ 32 → b < lo)
    (ho : ObjectAt img.mem (base lo) c) (hb : lo + 2 < 2 ^ 32) (hr : c .refcnt = 1)
    (hk : c .kind = Obj.tuple) (hn : c .count = n.toUInt64) (hlen : n < 2 ^ 63)
    (hq : c .items = base (lo + 1)) (hos : os.length ≤ n)
    (hslots : SlotsAt img.mem (base (lo + 1)) (os ++ List.replicate (n - os.length) 0))
    (hitems : BuiltItems img.mem g reg 1 (lo + 2) hi os vs) (hd : HostValue.depthAll vs < fuel) :
    ∃ mem, (decref (fuel + 1) (base lo)).run img = .ok ((), { img with mem }) ∧
      ObjectAt mem (base lo) (Function.update c .refcnt 0) ∧
      SlotsAt mem (base (lo + 1)) (os ++ List.replicate (n - os.length) 0) ∧
      BuiltItems mem g reg 0 (lo + 2) hi os vs ∧ Outside img.mem mem lo hi := by
  obtain ⟨fuel, rfl⟩ : ∃ f, fuel = f + 1 := ⟨fuel - 1, by omega⟩
  obtain ⟨-, ho'⟩ := ho.store_run img rfl (by omega) .refcnt 0 (by simp [Field.width])
  have hle := hitems.le
  have hkeep₁ : Outside img.mem (img.mem.storeAt lo 8 8 0) lo (lo + 1) := outside_storeAt _ _ _ _ _
  have hslots₁ : SlotsAt (img.mem.storeAt lo 8 8 0) (base (lo + 1))
      ([] ++ os ++ List.replicate (n - os.length) 0) := by
    simpa using hslots.congr_block (by omega) (hkeep₁.keep _ (.inr le_rfl))
  have hgl₁ : ∀ b, g = base b → b + 1 < 2 ^ 32 → b < lo + 2 := fun b hob hb' => by
    have := hgl b hob hb'
    omega
  obtain ⟨mem, hrun, hitems', hkeep⟩ :=
    (hitems.congr fun b hlo _ => hkeep₁.keep b (.inr (by omega))).release
      { img with mem := img.mem.storeAt lo 8 8 0 } (hg.congr hkeep₁ hgl) hgl₁ hd hslots₁
      (by omega) (by omega)
  have hslots₂ : SlotsAt mem (base (lo + 1)) (os ++ List.replicate (n - os.length) 0) := by
    simpa using hslots₁.congr_block (by omega) (hkeep.keep _ (.inl (by omega)))
  refine ⟨mem, ?_, ho'.congr_block (by omega) (hkeep.keep lo (.inl (by omega))), hslots₂, hitems',
    (hkeep₁.mono le_rfl (by omega)).trans (hkeep.mono (by omega) le_rfl)⟩
  -- the items' slots first, then the null ones
  have hrange : List.range n = List.range' 0 os.length ++ List.range' os.length (n - os.length) := by
    have := @List.range'_append_1 0 os.length (n - os.length)
    rw [Nat.zero_add, Nat.add_sub_cancel' hos] at this
    rw [List.range_eq_range', this]
  rw [decref_tuple_run ho (by omega) hr hk, hn, toInt64_toInt_ofNat hlen, Int.toNat_natCast, hq, hrange,
    releaseSlots_append]
  refine run_bind_eq_ok.2 ⟨(), _, by simpa using hrun, ?_⟩
  refine releaseSlots_null { img with mem } fuel hslots₂ _ _
    (by simp only [List.length_append, List.length_replicate]; omega) fun i h hi => ?_
  rw [List.getElem_append_right hi]
  simp

end Release

/-- What a refused conversion leaves in the blocks from `lo` to `hi`: nothing for the refused
value itself, and around it, for each tuple being filled, the tuple released, with the items
stored before the refused one released too and the remaining slots null. -/
inductive Dropped (m : Memory) (g : UInt64) (reg : List Registration) : Nat → Nat → Prop
  | refused (lo : Nat) : Dropped m g reg lo lo
  | tuple {lo mid hi n : Nat} {c : Cells} {os : List UInt64} {vs : List HostValue} :
      ObjectAt m (base lo) c → lo + 2 < 2 ^ 32 → c .refcnt = 0 → c .kind = Obj.tuple →
      c .count = n.toUInt64 → n < 2 ^ 63 → c .items = base (lo + 1) → os.length < n →
      SlotsAt m (base (lo + 1)) (os ++ List.replicate (n - os.length) 0) →
      BuiltItems m g reg 0 (lo + 2) mid os vs → Dropped m g reg mid hi → Dropped m g reg lo hi

section Dropped

variable {m m' : Memory} {g : UInt64} {reg : List Registration}

/-- Dropped blocks run upward. -/
theorem Dropped.le {lo hi : Nat} (h : Dropped m g reg lo hi) : lo ≤ hi := by
  induction h with
  | refused => exact le_rfl
  | tuple _ _ _ _ _ _ _ _ _ hitems _ ih => have := hitems.le; omega

/-- What a refused conversion left is kept by every change that keeps its blocks. -/
theorem Dropped.congr {lo hi : Nat} (h : Dropped m g reg lo hi)
    (hkeep : ∀ b, lo ≤ b → b < hi → m'.blocks[b]? = m.blocks[b]?) : Dropped m' g reg lo hi := by
  induction h with
  | refused lo => exact .refused lo
  | @tuple lo mid hi n c os vs ho hb hr hk hn hlen hq hos hslots hitems hrest ih =>
    have hle := hitems.le
    have hle' := hrest.le
    exact .tuple (ho.congr_block (by omega) (hkeep lo le_rfl (by omega))) hb hr hk hn hlen hq hos
      (hslots.congr_block (by omega) (hkeep _ (by omega) (by omega)))
      (hitems.congr fun b hlo hhi => hkeep b (by omega) (by omega))
      (ih fun b hlo hhi => hkeep b (by omega) hhi)

/-- More registrations keep dropped blocks dropped. -/
theorem Dropped.append_reg {lo hi : Nat} (h : Dropped m g reg lo hi) (more : List Registration) :
    Dropped m g (reg ++ more) lo hi := by
  induction h with
  | refused lo => exact .refused lo
  | tuple ho hb hr hk hn hlen hq hos hslots hitems _ ih =>
    exact .tuple ho hb hr hk hn hlen hq hos hslots (hitems.append_reg more) ih

end Dropped

end InlineC.Host
