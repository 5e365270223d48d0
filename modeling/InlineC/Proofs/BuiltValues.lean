import Mathlib
import InlineC.Proofs.BuildParse

/-!
# Building values and reading them back

`cx_build_tuple` makes a tuple of C values by their codes and `cx_parse_tuple` stores a tuple's
items back through pointers by the same codes. `cx_build_value` builds by the same switch:
`None` for no code, the one object of a single code, and a tuple as `cx_build_tuple` for more.

The round trip (`built_values_parse_back`) holds for every list of values but one kind: the
parse answers 1 exactly when no value is the character `'\0'`, and then it has stored every
value at the width of its C type (`CArg.Stored`). Building `'\0'` makes the empty string,
which the `c` code refuses (`nul_char_refused`).
-/

namespace InlineC.Machine.Objects

open ImgM Memory InlineC.Lang

/-! ## `cx_build_value` -/

/-- With no codes, `cx_build_value` answers the `None` object. -/
theorem vbuild_value_nil (va : VaList) (img : Image) :
    (vbuild [] va false).run img = (globalAddr "cx_none_s").run img := by
  unfold vbuild
  simp [formatCodes]

/-- With one code, `cx_build_value` answers the object that building its value makes. -/
theorem vbuild_value_one {c : UInt8} (hc : c ≠ 58) (va : VaList) (img : Image) :
    (vbuild [c] va false).run img = ((fun r => r.1) <$> buildOne c va).run img := by
  unfold vbuild
  simp [formatCodes, hc]

/-- With two codes or more, `cx_build_value` builds a tuple as `cx_build_tuple` does. -/
theorem vbuild_value_many {fmt : List UInt8} (h : 2 ≤ (formatCodes fmt).length) (va : VaList) :
    vbuild fmt va false = vbuild fmt va true := by
  unfold vbuild
  rcases hcodes : formatCodes fmt with _ | ⟨a, _ | ⟨b, rest⟩⟩
  · simp [hcodes] at h
  · simp [hcodes] at h
  · simp

/-- `cx_build_value` of one value, whose extra argument is its word, answers the object that
building the value makes, as `cx_build_tuple` would make it for its first item. -/
theorem buildValue_one {img : Image} {x : CArg} {va : VaList}
    (hroom : img.mem.blocks.size + 2 < 2 ^ 32) (hva : va.reads [x.isDouble] = [x.word])
    (hready : x.Ready img.mem img.mem) :
    ∃ o img₁, (vbuild (formatOf [x]) va false).run img = .ok (o, img₁) ∧
      Made img.mem img₁.mem img.mem.blocks.size x o := by
  have hnext : va.next x.isDouble = (x.word, (va.next x.isDouble).2) := by
    simp only [VaList.reads, List.cons.injEq] at hva
    exact Prod.ext hva.1 rfl
  -- no object passed is counted here, so any set of blocks holding it will do
  obtain ⟨o, mem, hrun, -, -, -, hmade⟩ := @buildOne_run (fun b => x = .object (base b)) img.mem img
    _ x va hnext hroom hready fun b hb _ => hb
  refine ⟨o, { img with mem }, ?_, hmade⟩
  rw [show formatOf [x] = [x.code.letter] from rfl, vbuild_value_one (ArgCode.letter_ne_colon _)]
  simp [StateT.run_map, hrun]

/-! ## The round trip -/

/-- Building C values and reading them back. `cx_build_tuple` builds the tuple, and parsing it
by the same codes, with a pointer per value into memory the tuple does not use, answers 1
exactly when no value is the character `'\0'`; it has then stored each value at the width of
its C type. `cx_build_value` of the same values answers `None` for none, the object that
building the one value makes for one, and builds as `cx_build_tuple` for more. -/
theorem built_values_parse_back {img : Image} {args : List CArg} {va pva : VaList}
    {fname : List UInt8}
    (hcells : ErrorCells img) (hroom : img.mem.blocks.size + 2 * args.length + 4 < 2 ^ 32)
    (hcount : 8 * max args.length 1 ≤ maxBlock)
    (hva : va.reads (args.map CArg.isDouble) = args.map CArg.word)
    (hready : ∀ x ∈ args, x.Ready img.mem img.mem) (hapart : Apart args)
    (hout : List.Forall₂ (fun x p => (∃ b off, img.mem.locate p x.kind.size = .ok (b, off)) ∧
      ¬ BuiltHeap img.mem args (blockOf p)) args (pointers pva args)) :
    (∃ t img₁, (vbuild (formatOf args) va true).run img = .ok (t, img₁) ∧
      TupleBuilt img args t img₁ ∧
      ∃ ok img₂, (parseTuple t (formatOf args ++ 58 :: fname) pva).run img₁ =
          .ok (if ok then 1 else 0, img₂) ∧
        (ok = true ↔ CArg.char 0 ∉ args) ∧
        (ok = true → ∃ ys, List.Forall₂ (CArg.Stored img.mem img₂.mem) args ys ∧
          storeAll img₁ (storesOf args (pointers pva args) ys) = .ok img₂)) ∧
    (args = [] → (vbuild (formatOf args) va false).run img = (globalAddr "cx_none_s").run img) ∧
    (∀ x, args = [x] → ∃ o img₁, (vbuild (formatOf args) va false).run img = .ok (o, img₁) ∧
      Made img.mem img₁.mem img.mem.blocks.size x o) ∧
    (2 ≤ args.length → vbuild (formatOf args) va false = vbuild (formatOf args) va true) := by
  refine ⟨buildTuple_parse hcells hroom hcount hva hready hapart hout, ?_, ?_, ?_⟩
  · rintro rfl
    exact vbuild_value_nil va img
  · rintro x rfl
    exact buildValue_one (by simp at hroom; omega) hva (hready x (by simp))
  · intro hlen
    refine vbuild_value_many ?_ va
    rw [formatCodes_formatOf]
    simpa [formatOf] using hlen

/-! ## One value of the sample image -/

/-- The extra arguments of a call with one integer word. -/
def wordArgs (w : UInt64) : VaList := ⟨#[w], #[], #[], 0, 0, 0⟩

/-- The output pointer of a parse into the four-octet block 6 of the sample image. -/
def cellArgs : VaList := ⟨#[base 6], #[], #[], 0, 0, 0⟩

/-- The sample image has seven blocks. -/
theorem sampleImage_blocks : sampleImage.mem.blocks.size = 7 := by decide +kernel

/-- Block 6 of the sample image is none that a parse of one built value other than an object
reads. -/
theorem not_builtHeap_cell {x : CArg} (hx : ∀ o, x ≠ .object o) :
    ¬ BuiltHeap sampleImage.mem [x] (blockOf (base 6)) := by
  rintro (h | ⟨b, c, ⟨-, hb⟩, -⟩)
  · rw [sampleImage_blocks, blockOf_base (by norm_num)] at h
    omega
  · exact hx _ (List.mem_singleton.1 hb).symm

/-- The integer 7, built into a tuple and parsed back by the code `i`, comes back: the parse
answers 1. -/
theorem built_values_parse_back_int :
    ∃ t img₁, (vbuild (formatOf [.int 7]) (wordArgs 7) true).run sampleImage = .ok (t, img₁) ∧
      ∃ img₂, (parseTuple t (formatOf [.int 7] ++ [58]) cellArgs).run img₁ = .ok (1, img₂) := by
  obtain ⟨⟨t, img₁, hbuild, -, ok, img₂, hparse, hok, -⟩, -⟩ :=
    @built_values_parse_back sampleImage [.int 7] (wordArgs 7) cellArgs [] sampleImage_errorCells
      (by rw [sampleImage_blocks]; norm_num) (by decide) (by decide) (by simp [CArg.Ready])
      (by simp [Apart])
      (.cons ⟨⟨6, 0, by decide +kernel⟩, not_builtHeap_cell (by simp)⟩ .nil)
  obtain rfl : ok = true := hok.2 (by simp)
  exact ⟨t, img₁, hbuild, img₂, hparse⟩

/-- The character `'\0'`, built into a tuple and parsed back by the code `c`, is refused: the
parse answers 0. -/
theorem nul_char_refused :
    ∃ t img₁, (vbuild (formatOf [.char 0]) (wordArgs 0) true).run sampleImage = .ok (t, img₁) ∧
      ∃ img₂, (parseTuple t (formatOf [.char 0] ++ [58]) cellArgs).run img₁ = .ok (0, img₂) := by
  obtain ⟨t, img₁, hbuild, -, ok, img₂, hparse, hok, -⟩ :=
    @buildTuple_parse sampleImage [.char 0] (wordArgs 0) cellArgs [] sampleImage_errorCells
      (by rw [sampleImage_blocks]; norm_num) (by decide) (by decide) (by simp [CArg.Ready])
      (by simp [Apart])
      (.cons ⟨⟨6, 0, by decide +kernel⟩, not_builtHeap_cell (by simp)⟩ .nil)
  obtain rfl : ok = false := by simpa using hok
  exact ⟨t, img₁, hbuild, img₂, hparse⟩

end InlineC.Machine.Objects
