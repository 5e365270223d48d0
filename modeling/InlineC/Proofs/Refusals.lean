import Mathlib
import InlineC.Proofs.CallErrors

/-!
# What a refused parse has written

`cx_parse_tuple` checks the items of its argument tuple in order and stores each accepted item
through its pointer as soon as it is checked; the first refused item ends the parse with its
error. A parse that answers 0 is therefore not all-or-nothing. It has written, in order and
each through that item's own pointer, the outcomes of the items accepted before the refused one
(`Written`), and after them only the error cells (`raise_writesCells`); a parse refused because
its argument is no tuple, or has the wrong number of items, has written no output
(`parseTuple_zero_written`).

Parsing a tuple of two integers by the format `is:f` shows it: the integer output is written
before the second item is refused as no string (`refused_parse_wrote_first_output`).
-/

namespace InlineC.Machine.Objects

open ImgM Memory InlineC.Lang

/-! ## Raising an error writes only the error cells -/

/-- A lookup of a global that ends finds the global and changes nothing. -/
theorem globalAddr_run_inv {img img' : Image} {name : String} {x : UInt64}
    (h : (globalAddr name).run img = .ok (x, img')) : img' = img ∧ global img name = some x := by
  unfold globalAddr at h
  obtain ⟨g, img₁, hget, h⟩ := run_bind_eq_ok.1 h
  cases hget
  unfold global
  cases hi : img.lib.globals.findIdx? (·.name == name) with
  | none =>
    simp only [hi] at h
    cases h
  | some i =>
    simp only [hi] at h
    obtain ⟨rfl, rfl⟩ := pure_run_eq_ok h
    exact ⟨rfl, rfl⟩

/-- A store that ends is the image's store. -/
theorem store_run_inv {img img' : Image} {k : NumKind} {a x : UInt64}
    (h : (store k a x).run img = .ok ((), img')) : img.store k a x = .ok img' := by
  cases hs : img.store k a x with
  | ok i =>
    simp only [ImgM.store, update, StateT.run, hs, Except.ok.injEq, Prod.mk.injEq, true_and] at h
    rw [h]
  | error e => simp [ImgM.store, update, StateT.run, hs] at h

/-- A write of octets that ends is the image's write. -/
theorem writeBytes_run_inv {img img' : Image} {a : UInt64} {data : List UInt8}
    (h : (writeBytes a data).run img = .ok ((), img')) : img.writeBytes a data = .ok img' := by
  cases hs : img.writeBytes a data with
  | ok i =>
    simp only [ImgM.writeBytes, update, StateT.run, hs, Except.ok.injEq, Prod.mk.injEq,
      true_and] at h
    rw [h]
  | error e => simp [ImgM.writeBytes, update, StateT.run, hs] at h

/-- Writing an error's type, message and flag, when it ends, writes the error cells and nothing
else, each found by its global. -/
theorem writeError_writesCells {img img' : Image} {ty : UInt64} {msg : List UInt8}
    (h : (do
      store64 (← globalAddr "cx_err_type") ty
      writeBytes (← globalAddr "cx_err_buf") (msg.take 1023 ++ [0])
      store32 (← globalAddr "cx_err_flag") 1 : ImgM PUnit).run img = .ok ((), img')) :
    WritesCells img img' := by
  obtain ⟨t1, img₁, h1, h⟩ := run_bind_eq_ok.1 h
  obtain ⟨e1, g1⟩ := globalAddr_run_inv h1
  rw [e1] at h
  obtain ⟨u, img₂, h2, h⟩ := run_bind_eq_ok.1 h
  have w1 : WritesCells img img₂ := .store type_mem g1 (store_run_inv h2)
  obtain ⟨t2, img₃, h3, h⟩ := run_bind_eq_ok.1 h
  obtain ⟨e3, g2⟩ := globalAddr_run_inv h3
  rw [e3] at h
  obtain ⟨u', img₄, h4, h⟩ := run_bind_eq_ok.1 h
  have w2 : WritesCells img₂ img₄ := .writeBytes buf_mem g2 (writeBytes_run_inv h4)
  obtain ⟨t3, img₅, h5, h⟩ := run_bind_eq_ok.1 h
  obtain ⟨e5, g3⟩ := globalAddr_run_inv h5
  rw [e5] at h
  exact w1.trans (w2.trans (.store flag_mem g3 (store_run_inv h)))

/-- Raising an error, when it ends, writes the error cells and nothing else. -/
theorem raise_writesCells {img img' : Image} {ty : String} {msg : List UInt8}
    (h : (raise ty msg).run img = .ok ((), img')) : WritesCells img img' := by
  unfold raise setError at h
  obtain ⟨st, img₁, hst, h⟩ := run_bind_eq_ok.1 h
  obtain ⟨e, -⟩ := globalAddr_run_inv hst
  rw [e] at h
  dsimp only at h
  -- a null type is first looked up as the runtime's own, which changes nothing
  split at h
  · obtain ⟨t, img₂, ht, h⟩ := run_bind_eq_ok.1 h
    obtain ⟨e', -⟩ := globalAddr_run_inv ht
    rw [e'] at h
    exact writeError_writesCells h
  · obtain ⟨t, img₂, ht, h⟩ := run_bind_eq_ok.1 h
    obtain ⟨-, e'⟩ := pure_run_eq_ok ht
    rw [e'] at h
    exact writeError_writesCells h

/-! ## The outputs of a refused parse -/

/-- `ss` stores, in order, the outcome of each of the first items of a parse through that item's
own pointer: the `i`-th integer argument after the format. -/
inductive Written (fname : List UInt8) :
    List UInt8 → List (UInt64 × View) → VaList → List (NumKind × UInt64 × UInt64) → Prop
  | nil {codes : List UInt8} {objs : List (UInt64 × View)} {va : VaList} :
      Written fname codes objs va []
  | cons {c : UInt8} {cs : List UInt8} {o : UInt64} {v : View} {os : List (UInt64 × View)}
      {va : VaList} {k : NumKind} {x : UInt64} {ss : List (NumKind × UInt64 × UInt64)} :
      codeOutcome fname c o v = .ok (k, x) → Written fname cs os va.nextInt.2 ss →
      Written fname (c :: cs) ((o, v) :: os) va ((k, va.nextInt.1, x) :: ss)

/-- The items plan writes the outcomes of the first items through their own pointers, and when
it ends in an error, the item right after those is there and refused by its code. The induction
follows the codes, as the plan does. -/
theorem itemsPlan_written (fname : List UInt8) (codes : List UInt8)
    (objs : List (UInt64 × View)) (va : VaList) :
    Written fname codes objs va (itemsPlan fname codes objs va).stores ∧
      ((itemsPlan fname codes objs va).error ≠ none →
        ∃ c o, (codes.zip objs)[(itemsPlan fname codes objs va).stores.length]? = some (c, o) ∧
          codeAccepts c o.2 = false) := by
  induction codes generalizing objs va with
  | nil => simp [itemsPlan, Written.nil]
  | cons c cs ih =>
    cases objs with
    | nil => simp [itemsPlan, Written.nil]
    | cons ov os =>
    obtain ⟨o, v⟩ := ov
    cases hco : codeOutcome fname c o v with
    | ok s =>
      obtain ⟨k, x⟩ := s
      have hplan : itemsPlan fname (c :: cs) ((o, v) :: os) va =
          ⟨(k, va.nextInt.1, x) :: (itemsPlan fname cs os va.nextInt.2).stores,
            (itemsPlan fname cs os va.nextInt.2).error⟩ := by
        simp only [itemsPlan, hco]
      obtain ⟨hw, hrefused⟩ := ih os va.nextInt.2
      rw [hplan]
      exact ⟨.cons hco hw, fun he => by simpa using hrefused he⟩
    | error e =>
      have hplan : itemsPlan fname (c :: cs) ((o, v) :: os) va = ⟨[], some e⟩ := by
        simp only [itemsPlan, hco]
      -- the first item is the refused one: no outcome of its code is a store
      have hacc : codeAccepts c v = false := by
        rw [← Bool.not_eq_true, ← codeOutcome_ok_iff fname c o v, hco]
        simp
      rw [hplan]
      exact ⟨.nil, fun _ => ⟨c, (o, v), rfl, hacc⟩⟩

/-- A parse that answers 0 has written, in order, the outcomes of the items accepted before the
first refused one, each through its own pointer, and after them only the error cells; the item
after those written is refused by its code. When the argument is null, no tuple, or a tuple with
another number of items than the format has codes, it has written no output. This holds for
every format, every argument object in memory and every output pointer that lands outside the
objects. -/
theorem parseTuple_zero_written {heap : Nat → Prop} {img img' : Image} {args : UInt64}
    {A : View} {objs : List (UInt64 × View)} {fmt : List UInt8} {va : VaList}
    (hcells : ErrorCells img) (hargs : ArgsAt heap img.mem args A objs)
    (hout : ∀ s ∈ (tuplePlan (formatName fmt) (formatCodes fmt) args A objs va).stores,
      Writable heap img.mem s)
    (hzero : (parseTuple args fmt va).run img = .ok (0, img')) :
    ∃ ss img0, Written (formatName fmt) (formatCodes fmt) objs va ss ∧
      storeAll img ss = .ok img0 ∧ WritesCells img0 img' ∧
      if args ≠ 0 ∧ A.kind = Obj.tuple ∧ objs.length = (formatCodes fmt).length then
        ∃ c o, ((formatCodes fmt).zip objs)[ss.length]? = some (c, o) ∧ codeAccepts c o.2 = false
      else ss = [] := by
  obtain ⟨ok, img₁, hrun, img0, hall, hend⟩ := parseTuple_run_format hcells hargs hout
  rw [hzero] at hrun
  obtain ⟨hok, rfl⟩ := Prod.mk.inj (Except.ok.inj hrun)
  have hfalse : ok = false := by
    cases ok
    · rfl
    · cases hok
  subst hfalse
  set fname := formatName fmt
  set codes := formatCodes fmt
  -- the answer 0 comes with the plan's error, raised after its stores
  obtain ⟨⟨ty, msg⟩, herr⟩ : ∃ e, (tuplePlan fname codes args A objs va).error = some e := by
    cases he : (tuplePlan fname codes args A objs va).error with
    | none =>
      rw [he] at hend
      cases hend.1
    | some e => exact ⟨e, rfl⟩
  rw [herr] at hend
  refine ⟨_, img0, ?_, hall, raise_writesCells hend.2, ?_⟩
  · unfold tuplePlan
    split
    · exact .nil
    split
    · exact .nil
    exact (itemsPlan_written fname codes objs va).1
  · by_cases hshape : args ≠ 0 ∧ A.kind = Obj.tuple ∧ objs.length = codes.length
    · rw [if_pos hshape]
      have hplan : tuplePlan fname codes args A objs va = itemsPlan fname codes objs va := by
        unfold tuplePlan
        rw [if_neg (by tauto), if_neg (by tauto)]
      rw [hplan] at herr ⊢
      exact (itemsPlan_written fname codes objs va).2 (by rw [herr]; simp)
    · rw [if_neg hshape]
      -- the argument check or the count check refused the parse before any item
      unfold tuplePlan
      by_cases ht : args = 0 ∨ A.kind ≠ Obj.tuple
      · rw [if_pos ht]
      · rw [if_neg ht, if_pos (by tauto)]

/-! ## A parse of two integers -/

/-- Memory for a parse of two integers: the error type, message buffer and flag in blocks 0 to
2; a tuple of two items in block 3, whose item words are in block 4; the integer 7 in block 5;
an int cell in block 6; the integer 8 in block 7; a pointer cell in block 8. -/
def pairMemory : Memory :=
  let zeros := fun n => ByteArray.mk (Array.replicate n 0)
  let m : Memory := ⟨#[zeros 8, zeros 1024, zeros 4, zeros 80, zeros 16, zeros 80, zeros 4,
    zeros 80, zeros 8]⟩
  ((((((((m.storeAt 3 0 4 Obj.tuple).storeAt 3 40 8 2).storeAt 3 48 8 (base 4)).storeAt 4 0 8
    (base 5)).storeAt 4 8 8 (base 7)).storeAt 5 0 4 Obj.integer).storeAt 5 16 8 7).storeAt 7 0 4
    Obj.integer).storeAt 7 16 8 8

/-- The sample image with the memory of two integers. -/
def pairImage : Image := { sampleImage with mem := pairMemory }

/-- What the tuple in block 3 shows. -/
def pairTuple : View := ⟨Obj.tuple, 0, 0, 0, 2, base 4, 0, 0⟩

/-- The items of the tuple: the integers 7 and 8. -/
def pairItems : List (UInt64 × View) :=
  [(base 5, ⟨Obj.integer, 7, 0, 0, 0, 0, 0, 0⟩), (base 7, ⟨Obj.integer, 8, 0, 0, 0, 0, 0, 0⟩)]

/-- The outputs of the parse: the int cell, then the pointer cell. -/
def pairOutputs : VaList := ⟨#[base 6, base 8], #[], #[], 0, 0, 0⟩

/-- The blocks of the objects, numbered as addresses number them. -/
abbrev pairHeap (b : Nat) : Prop := b = 4 ∨ b = 5 ∨ b = 6 ∨ b = 8

/-- What the pair's memory holds where the parse reads, read off at once: the blocks of the error
cells, the fields of the tuple and of both integers, the tuple's two item words, and the int
cell, in its block and holding 0. -/
theorem pairMemory_reads :
    pairMemory.locate (base 0) NumKind.u64.size = .ok (0, 0) ∧
      pairMemory.locate (base 1) 1024 = .ok (1, 0) ∧
      pairMemory.locate (base 2) NumKind.i32.size = .ok (2, 0) ∧
      pairTuple.ReadsIn pairMemory (base 3) ∧
      View.ReadsIn ⟨Obj.integer, 7, 0, 0, 0, 0, 0, 0⟩ pairMemory (base 5) ∧
      View.ReadsIn ⟨Obj.integer, 8, 0, 0, 0, 0, 0, 0⟩ pairMemory (base 7) ∧
      pairMemory.load .u64 (base 4 + 8 * (0 : Nat).toUInt64) = .ok (base 5) ∧
      pairMemory.load .u64 (base 4 + 8 * (1 : Nat).toUInt64) = .ok (base 7) ∧
      pairMemory.locate (base 6) NumKind.i32.size = .ok (6, 0) ∧
      pairMemory.load .i32 (base 6) = .ok 0 := by
  decide +kernel

/-- The pair image has the globals of the sample image. -/
theorem pairImage_global (name : String) : global pairImage name = global sampleImage name := by
  simp only [global, pairImage]

/-- The pair image has its error cells. -/
theorem pairImage_errorCells : ErrorCells pairImage := by
  obtain ⟨types, gtype, gbuf, gflag, -⟩ := sampleImage_reads
  obtain ⟨htype, hbuf, hflag, -⟩ := pairMemory_reads
  simp only [← pairImage_global] at types gtype gbuf gflag
  exact ⟨fun ty hty => Option.isSome_iff_exists.1 (types ty hty), ⟨base 0, 0, 0, gtype, htype⟩,
    ⟨base 1, 1, 0, gbuf, hbuf⟩, ⟨base 2, 2, 0, gflag, hflag⟩⟩

/-- The fields of an object at the start of a block of the pair's objects lie in the heap. -/
theorem pair_fields_inHeap {b : Nat} (hb : b = 3 ∨ b = 5 ∨ b = 7) :
    ∀ off ∈ viewOffsets, pairHeap (blockOf (base b + off)) := by
  intro off hoff
  simp only [viewOffsets, List.mem_cons, List.not_mem_nil, or_false] at hoff
  rcases hb with rfl | rfl | rfl <;> rcases hoff with rfl | rfl | rfl | rfl | rfl | rfl | rfl <;>
    decide

/-- The integers of the pair show as integers with their values. -/
theorem pairMemory_int {b : Nat} {n : UInt64} (hb : b = 5 ∧ n = 7 ∨ b = 7 ∧ n = 8) :
    Shows pairHeap pairMemory (base b) ⟨Obj.integer, n, 0, 0, 0, 0, 0, 0⟩ := by
  obtain ⟨-, -, -, -, hseven, height, -⟩ := pairMemory_reads
  rcases hb with ⟨rfl, rfl⟩ | ⟨rfl, rfl⟩
  · exact .of_readsIn hseven (by decide) (pair_fields_inHeap (by omega))
  · exact .of_readsIn height (by decide) (pair_fields_inHeap (by omega))

/-- The pair is a tuple of two items. -/
theorem pairMemory_tuple : Shows pairHeap pairMemory (base 3) pairTuple := by
  obtain ⟨-, -, -, htuple, -⟩ := pairMemory_reads
  exact .of_readsIn htuple (by decide) (pair_fields_inHeap (.inl rfl))

/-- The pair's items are the integers 7 and 8. -/
theorem pairMemory_argsAt : ArgsAt pairHeap pairMemory (base 3) pairTuple pairItems := by
  obtain ⟨-, -, -, -, -, -, hfirst, hsecond, -⟩ := pairMemory_reads
  exact .tuple pairMemory_tuple rfl (by decide)
    ⟨hfirst, by decide, pairMemory_int (.inl ⟨rfl, rfl⟩),
      hsecond, by decide, pairMemory_int (.inr ⟨rfl, rfl⟩), trivial⟩

/-- By the format `is:f`, the pair's plan stores 7 in the int cell, then refuses 8 as no
string. -/
theorem pair_plan :
    (tuplePlan [102] [105, 115] (base 3) pairTuple pairItems pairOutputs).stores =
        [(.i32, base 6, 7)] ∧
      (tuplePlan [102] [105, 115] (base 3) pairTuple pairItems pairOutputs).error =
        some ("cx_type_error_s", bytes "f() a string is required") :=
  ⟨rfl, by decide +kernel⟩

/-- The parse of the pair stores only into its output cells. -/
theorem pair_writable :
    ∀ s ∈ (tuplePlan [102] [105, 115] (base 3) pairTuple pairItems pairOutputs).stores,
      Writable pairHeap pairImage.mem s := by
  rw [pair_plan.1]
  intro s hs
  rw [List.mem_singleton.1 hs]
  obtain ⟨-, -, -, -, -, -, -, -, hcell, -⟩ := pairMemory_reads
  exact ⟨⟨6, 0, hcell⟩, by decide⟩

/-- Parsing the pair by `is:f` answers 0 after storing 7 in the int cell and raising the
error. -/
theorem pair_parse_run :
    ∃ img0 img', (parseTuple (base 3) ([105, 115] ++ 58 :: [102]) pairOutputs).run pairImage =
        .ok (0, img') ∧ pairImage.store .i32 (base 6) 7 = .ok img0 ∧
      (raise "cx_type_error_s" (bytes "f() a string is required")).run img0 = .ok ((), img') := by
  obtain ⟨ok, img', hrun, img0, hall, hend⟩ := parseTuple_run pairImage_errorCells
    pairMemory_argsAt (show (58 : UInt8) ∉ [105, 115] by decide) pair_writable
  rw [pair_plan.1] at hall
  rw [pair_plan.2] at hend
  obtain ⟨rfl, hraise⟩ := hend
  obtain ⟨img₁, hstore, hnil⟩ := except_bind_eq_ok.1 hall
  cases hnil
  exact ⟨_, img', hrun, hstore, hraise⟩

/-- Parsing the tuple of the integers 7 and 8 by the format `is:f` answers 0, since 8 is no
string, and yet the int output, which held 0, holds 7 afterwards. -/
theorem refused_parse_wrote_first_output :
    ∃ img', (parseTuple (base 3) ([105, 115] ++ 58 :: [102]) pairOutputs).run pairImage =
        .ok (0, img') ∧
      pairImage.mem.load .i32 (base 6) = .ok 0 ∧ img'.mem.load .i32 (base 6) = .ok 7 := by
  obtain ⟨img0, img', hrun, hstore, hraise⟩ := pair_parse_run
  -- the int cell was stored before the refusal, and raising the error keeps its block
  obtain ⟨b, off, hl, rfl⟩ := Image.store_eq hstore
  obtain ⟨-, -, -, -, -, -, -, -, hl6, hzero⟩ := pairMemory_reads
  change pairMemory.locate _ _ = _ at hl
  rw [hl6] at hl
  obtain ⟨rfl, rfl⟩ := Prod.mk.inj (Except.ok.inj hl)
  have hcell : ¬ CellBlock { pairImage with mem := pairImage.mem.storeAt 6 0 4 7 }
      (blockOf (base 6) - 1) :=
    not_cellBlock (by decide +kernel)
  refine ⟨img', hrun, hzero, ?_⟩
  rw [(raise_writesCells hraise).load_eq hcell]
  exact load_i32_storeAt 7 hl6 (by decide)

end InlineC.Machine.Objects
