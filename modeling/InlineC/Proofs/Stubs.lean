import Mathlib
import InlineC.Proofs.Refusals
import InlineC.Proofs.ProvidedCalls

/-!
# Dispatch stubs and refused parses

Native code calls a reverse function through its dispatch stub, which one template renders for
every reverse function: the stub tests the capture slot and answers 1 when nothing was captured,
calls the captured callable with its in-arguments by their format and answers 2 when that gives
null, parses the result into its out-parameters by the out-format and, when the parse answers 0,
drops the result and answers 3; otherwise it drops the result unless an item of the out-format
borrows from it, and answers 0. `dispatchStub` runs these statements in that order, each runtime
function reached through the machine's `callBack`, as a compiled call reaches it.

The out-pointers are read by one statement only, the result parse. A stub that answers 1 or 2
never reached it, so its run, answer and world, is the same whatever the out-pointers are
(`dispatchStub_unparsed`). A stub that answers 3 ran the runtime's parse of the result into the
out-pointers in the world the call left, and the parse answered 0 (`dispatchStub_refused`); such
a parse has written the outcomes of the items accepted before the refused one and the error
cells (`parseTuple_zero_written`), so the out-parameters before the refused item may be written.
-/

namespace InlineC.Machine

open Objects Memory

section

variable {σ : Type} (hook : Hook σ) (img : Nat)

/-- The arguments of a runtime call: two fixed words, then C values. -/
def providedWords (a b : UInt64) (vals : List CArg) : Array UInt64 :=
  #[a, b] ++ (vals.map CArg.word).toArray

/-- The classes of the arguments of a runtime call: two fixed words, then C values. -/
def providedClasses (vals : List CArg) : Array Lang.ArgClass :=
  #[.word .u64, .word .u64] ++ (vals.map CArg.argClass).toArray

/-- The statements of a dispatch stub in the order the template renders them: the capture slot
is tested, the captured callable is called with the in-arguments by the format at `inFormat`, its
result is parsed into the out-pointers by the format at `outFormat`, and the result is dropped
when the parse fails, or when `release` says that no item of the out-format borrows from it. -/
def dispatchStub (fuel : Nat) (slot inFormat outFormat : UInt64) (ins : List CArg)
    (outs : List UInt64) (release : Bool) : Run σ UInt64 := do
  let callable ← onImage img (ImgM.load64 slot)
  if callable == 0 then return 1
  let result ← callBack hook img fuel "cx_call_function" (providedWords callable inFormat ins)
    (providedClasses ins) (some 2)
  if result == 0 then return 2
  let parsed ← callBack hook img fuel "cx_parse_tuple"
    (providedWords result outFormat (outs.map CArg.ulong))
    (providedClasses (outs.map CArg.ulong)) (some 2)
  if parsed == 0 then
    let _ ← callBack hook img fuel "cx_decref" #[result] #[.word .u64] none
    return 3
  let _ ← (if release then callBack hook img fuel "cx_decref" #[result] #[.word .u64] none
    else pure 0 : Run σ UInt64)
  return 0

variable {hook img}

/-- The runtime's `cx_parse_tuple`: it reads the format at its second argument and parses its
first into the pointers that follow. -/
theorem callLibrary_parseTuple (args : List UInt64) (va : VaList) :
    Objects.callLibrary "cx_parse_tuple" args va = (do
      let f ← ImgM.cString (args.getD 1 0)
      let r ← parseTuple (args.getD 0 0) f va
      pure (some r)) := rfl

/-- A run of `cx_parse_tuple` with its format at `fmt` and pointers that ends: it read the format
and parsed the argument into the pointers, in order, on the image the world held. -/
theorem callBack_parseTuple_run {fuel : Nat} {args fmt : UInt64} {outs : List UInt64}
    {w w' : World σ} {r : UInt64}
    (h : (callBack hook img (fuel + 1) "cx_parse_tuple" (providedWords args fmt (outs.map CArg.ulong))
      (providedClasses (outs.map CArg.ulong)) (some 2)).run w = .ok (r, w')) :
    ∃ f image', (ImgM.cString fmt).run (w.images[img]?.getD default) =
        .ok (f, w.images[img]?.getD default) ∧
      (parseTuple args f (VaList.make 2 (outs.map fun o => (o, false)))).run
        (w.images[img]?.getD default) = .ok (r, image') ∧
      w' = { w with images := w.images.set! img image' } := by
  have h0 : ([args, fmt] ++ (outs.map CArg.ulong).map CArg.word).getD 0 0 = args := by simp
  have h1 : ([args, fmt] ++ (outs.map CArg.ulong).map CArg.word).getD 1 0 = fmt := by simp
  have hva : (outs.map CArg.ulong).map (fun x => (x.word, x.isDouble)) =
      outs.map fun o => (o, false) := by
    simp [CArg.word, CArg.isDouble]
  rw [callBack, providedWords, providedClasses, providedArgs_values] at h
  simp only [callLibrary_parseTuple, h0, h1, hva] at h
  obtain ⟨o, w₁, h₁, h⟩ := run_bind_eq_ok.1 h
  obtain ⟨image', hread, rfl⟩ := onImage_run_eq_ok h₁
  obtain ⟨f, image₂, hf, hp⟩ := run_bind_eq_ok.1 hread
  obtain rfl := ImgM.ReadOnly.cString fmt _ _ _ hf
  obtain ⟨x, image₃, hx, hp⟩ := run_bind_eq_ok.1 hp
  obtain ⟨rfl, rfl⟩ := pure_run_eq_ok hp
  -- the runtime answered a word, which the call hands back
  obtain ⟨rfl, rfl⟩ := pure_run_eq_ok h
  exact ⟨f, image', hf, hx, rfl⟩

/-- A stub that answers 1 or 2 never reached its result parse: its run, answer and world, is the
same whatever its out-pointers are. -/
theorem dispatchStub_unparsed {fuel : Nat} {slot inFormat outFormat : UInt64} {ins : List CArg}
    {outs : List UInt64} {release : Bool} {w w' : World σ} {s : UInt64}
    (h : (dispatchStub hook img fuel slot inFormat outFormat ins outs release).run w = .ok (s, w'))
    (hs : s = 1 ∨ s = 2) (outs' : List UInt64) :
    (dispatchStub hook img fuel slot inFormat outFormat ins outs' release).run w = .ok (s, w') := by
  unfold dispatchStub at h ⊢
  obtain ⟨callable, w₁, h₁, h⟩ := run_bind_eq_ok.1 h
  rw [run_bind_of_ok h₁]
  by_cases hc : callable == 0
  · -- nothing captured: the stub answers 1 at once
    rw [if_pos hc] at h ⊢
    exact h
  rw [if_neg hc] at h ⊢
  obtain ⟨result, w₂, h₂, h⟩ := run_bind_eq_ok.1 h
  rw [run_bind_of_ok h₂]
  by_cases hr : result == 0
  · -- the callback failed: the stub answers 2
    rw [if_pos hr] at h ⊢
    exact h
  -- past the call the stub parses, and answers 3 or 0
  rw [if_neg hr] at h
  obtain ⟨parsed, w₃, -, h⟩ := run_bind_eq_ok.1 h
  have hend : s = 3 ∨ s = 0 := by
    split at h
    · obtain ⟨_, w₄, -, h⟩ := run_bind_eq_ok.1 h
      exact .inl (pure_run_eq_ok h).1
    · obtain ⟨_, w₄, -, h⟩ := run_bind_eq_ok.1 h
      exact .inr (pure_run_eq_ok h).1
  rcases hs with rfl | rfl <;> rcases hend with h | h <;> cases h

/-- A stub that answers 3 called the captured callable, which gave a result; it then parsed the
result into its out-pointers in the world the call left, the parse answered 0, and the stub
dropped the result. -/
theorem dispatchStub_refused {fuel : Nat} {slot inFormat outFormat : UInt64} {ins : List CArg}
    {outs : List UInt64} {release : Bool} {w w' : World σ}
    (h : (dispatchStub hook img (fuel + 1) slot inFormat outFormat ins outs release).run w =
      .ok (3, w')) :
    ∃ callable w₁ result w₂ fmt image₃ a, callable ≠ 0 ∧ result ≠ 0 ∧
      (onImage img (ImgM.load64 slot)).run w = .ok (callable, w₁) ∧
      (callBack hook img (fuel + 1) "cx_call_function" (providedWords callable inFormat ins)
        (providedClasses ins) (some 2)).run w₁ = .ok (result, w₂) ∧
      (ImgM.cString outFormat).run (w₂.images[img]?.getD default) =
        .ok (fmt, w₂.images[img]?.getD default) ∧
      (parseTuple result fmt (VaList.make 2 (outs.map fun o => (o, false)))).run
        (w₂.images[img]?.getD default) = .ok (0, image₃) ∧
      (callBack hook img (fuel + 1) "cx_decref" #[result] #[.word .u64] none).run
        { w₂ with images := w₂.images.set! img image₃ } = .ok (a, w') := by
  unfold dispatchStub at h
  obtain ⟨callable, w₁, h₁, h⟩ := run_bind_eq_ok.1 h
  by_cases hc : callable == 0
  · rw [if_pos hc] at h
    cases (pure_run_eq_ok h).1
  rw [if_neg hc] at h
  obtain ⟨result, w₂, h₂, h⟩ := run_bind_eq_ok.1 h
  by_cases hr : result == 0
  · rw [if_pos hr] at h
    cases (pure_run_eq_ok h).1
  rw [if_neg hr] at h
  obtain ⟨parsed, w₃, h₃, h⟩ := run_bind_eq_ok.1 h
  by_cases hp : parsed == 0
  · rw [if_pos hp] at h
    obtain ⟨a, w₄, h₄, h⟩ := run_bind_eq_ok.1 h
    obtain ⟨-, rfl⟩ := pure_run_eq_ok h
    -- the parse is the runtime's, run on the image the call left
    obtain ⟨fmt, image₃, hfmt, hparse, rfl⟩ := callBack_parseTuple_run h₃
    rw [beq_iff_eq] at hp
    subst hp
    exact ⟨callable, w₁, result, w₂, fmt, image₃, a, by simpa using hc, by simpa using hr, h₁, h₂,
      hfmt, hparse, h₄⟩
  · -- a parse that ends well leads to 0, not 3
    rw [if_neg hp] at h
    obtain ⟨_, w₄, -, h⟩ := run_bind_eq_ok.1 h
    cases (pure_run_eq_ok h).1

end

/-- What a refused parse has written, and what a dispatch stub that fails leaves of its
out-parameters. -/
structure RefusalLaws : Prop where
  /-- A parse that answers 0 has written the outcomes of the items accepted before the refused
  one, each through its own pointer, and after them only the error cells; refused for its
  argument's shape, it has written no output. -/
  parse : ∀ {heap : Nat → Prop} {img img' : Image} {args : UInt64} {A : View}
    {objs : List (UInt64 × View)} {fmt : List UInt8} {va : VaList},
    ErrorCells img → ArgsAt heap img.mem args A objs →
    (∀ s ∈ (tuplePlan (formatName fmt) (formatCodes fmt) args A objs va).stores,
      Writable heap img.mem s) →
    (parseTuple args fmt va).run img = .ok (0, img') →
    ∃ ss img0, Written (formatName fmt) (formatCodes fmt) objs va ss ∧
      storeAll img ss = .ok img0 ∧ WritesCells img0 img' ∧
      if args ≠ 0 ∧ A.kind = Obj.tuple ∧ objs.length = (formatCodes fmt).length then
        ∃ c o, ((formatCodes fmt).zip objs)[ss.length]? = some (c, o) ∧ codeAccepts c o.2 = false
      else ss = []
  /-- A stub that answers 1 or 2 runs alike whatever its out-pointers are. -/
  unparsed : ∀ {σ : Type} (hook : Hook σ) (img fuel : Nat) (slot inFormat outFormat : UInt64)
    (ins : List CArg) (outs : List UInt64) (release : Bool) (w w' : World σ) (s : UInt64),
    (dispatchStub hook img fuel slot inFormat outFormat ins outs release).run w = .ok (s, w') →
    (s = 1 ∨ s = 2) → ∀ outs' : List UInt64,
      (dispatchStub hook img fuel slot inFormat outFormat ins outs' release).run w = .ok (s, w')
  /-- A stub that answers 3 parsed the callback's result into its out-pointers, and the parse
  answered 0. -/
  refused : ∀ {σ : Type} (hook : Hook σ) (img fuel : Nat) (slot inFormat outFormat : UInt64)
    (ins : List CArg) (outs : List UInt64) (release : Bool) (w w' : World σ),
    (dispatchStub hook img (fuel + 1) slot inFormat outFormat ins outs release).run w =
      .ok (3, w') →
    ∃ callable w₁ result w₂ fmt image₃ a, callable ≠ 0 ∧ result ≠ 0 ∧
      (onImage img (ImgM.load64 slot)).run w = .ok (callable, w₁) ∧
      (callBack hook img (fuel + 1) "cx_call_function" (providedWords callable inFormat ins)
        (providedClasses ins) (some 2)).run w₁ = .ok (result, w₂) ∧
      (ImgM.cString outFormat).run (w₂.images[img]?.getD default) =
        .ok (fmt, w₂.images[img]?.getD default) ∧
      (parseTuple result fmt (VaList.make 2 (outs.map fun o => (o, false)))).run
        (w₂.images[img]?.getD default) = .ok (0, image₃) ∧
      (callBack hook img (fuel + 1) "cx_decref" #[result] #[.word .u64] none).run
        { w₂ with images := w₂.images.set! img image₃ } = .ok (a, w')

/-- A parse that answers 0 is not all-or-nothing, and a dispatch stub writes its out-parameters
only through its result parse: one that answers 1 or 2 never reached it, and one that answers 3
ran it to a refusal. -/
theorem refusal_laws : RefusalLaws where
  parse hcells hargs hout hzero := Objects.parseTuple_zero_written hcells hargs hout hzero
  unparsed _ _ _ _ _ _ _ _ _ _ _ _ h hs outs' := dispatchStub_unparsed h hs outs'
  refused _ _ _ _ _ _ _ _ _ _ _ h := dispatchStub_refused h

/-- The laws at the pair and at a stub with nothing captured: parsing the tuple of 7 and 8 by
`is:f` answers 0 having written the int cell, the string item being refused; and a stub whose
slot is empty answers 1 and leaves the world as it was, whatever its out-pointers. -/
theorem refusal_laws_pair :
    (∃ img', (parseTuple (base 3) ([105, 115] ++ 58 :: [102]) pairOutputs).run pairImage =
        .ok (0, img') ∧
      ∃ ss img0, Written (formatName ([105, 115] ++ 58 :: [102]))
          (formatCodes ([105, 115] ++ 58 :: [102])) pairItems pairOutputs ss ∧
        storeAll pairImage ss = .ok img0 ∧ WritesCells img0 img' ∧
        if base 3 ≠ 0 ∧ pairTuple.kind = Obj.tuple ∧
            pairItems.length = (formatCodes ([105, 115] ++ 58 :: [102])).length then
          ∃ c o, ((formatCodes ([105, 115] ++ 58 :: [102])).zip pairItems)[ss.length]? =
            some (c, o) ∧ codeAccepts c o.2 = false
        else ss = []) ∧
    ∀ outs : List UInt64, (dispatchStub (fun _ _ => pure 0) 0 5 (base 0 + 16) 0 0 []
      outs true).run Host.noneWorld = .ok (1, Host.noneWorld) := by
  constructor
  · obtain ⟨-, img', hrun, -, -⟩ := pair_parse_run
    have hfmt : formatCodes ([105, 115] ++ 58 :: [102]) = [105, 115] ∧
        formatName ([105, 115] ++ 58 :: [102]) = [102] := ⟨by decide, by decide⟩
    refine ⟨img', hrun, refusal_laws.parse pairImage_errorCells pairMemory_argsAt ?_ hrun⟩
    rw [hfmt.1, hfmt.2]
    exact pair_writable
  · -- the word at the slot is zero, so the stub answers 1 before its parse
    have hload : (onImage 0 (ImgM.load64 (base 0 + 16))).run Host.noneWorld =
        .ok (0, Host.noneWorld) :=
      Host.onImage_read rfl (load_run (by decide +kernel))
    have hempty : (dispatchStub (fun _ _ => pure 0) 0 5 (base 0 + 16) 0 0 [] [] true).run
        Host.noneWorld = .ok (1, Host.noneWorld) := by
      unfold dispatchStub
      rw [run_bind_of_ok hload]
      rfl
    exact refusal_laws.unparsed _ 0 5 _ 0 0 [] [] true _ _ 1 hempty (.inl rfl)

end InlineC.Machine
