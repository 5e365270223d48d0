import Mathlib
import InlineC.Proofs.BuildParse
import InlineC.Proofs.ObjectGraphs

/-!
# Calls of provided functions from a stub

A dispatch or capture stub calls the runtime's provided functions with two fixed words and then
C values. The values reach the callee as extra arguments, each in the class of word the default
argument promotions give it (`CArg.argClass`, `providedArgs_values`).

Some of the runtime's functions only read: whenever they end they leave the image as it was
(`ImgM.ReadOnly`). Loads, string reads and `cx_callable_check` are such reads, and so is any
sequence or choice of them; run on a world's image, such an action ended on the image the world
held (`onImage_run_eq_ok`).
-/

namespace InlineC.Machine

namespace Objects

open InlineC.Lang

/-- The class of the word a value travels in after the default argument promotions: `int` for
the narrow integers, `double` for both floats, and the width of the type for the rest. -/
def CArg.argClass : CArg → ArgClass
  | .truth _ | .char _ | .short _ | .int _ | .byte _ | .ushort _ => .word .i32
  | .uint _ => .word .u32
  | .long _ | .longLong _ | .size _ => .word .i64
  | .float _ | .double _ => .word .f64
  | .ulong _ | .ulongLong _ | .str _ | .object _ => .word .u64

/-- A value goes to a vector register exactly when it travels as a double. -/
@[simp] theorem CArg.isFloatWord_argClass (x : CArg) : Step.isFloatWord x.argClass = x.isDouble := by
  cases x <;> rfl

end Objects

open Objects

/-- A call of a provided function with two fixed words and then C values: the values come as
extra arguments after two general registers, each by its kind. -/
theorem providedArgs_values (a b : UInt64) (ins : List CArg) :
    Step.providedArgs (#[a, b] ++ (ins.map CArg.word).toArray)
      (#[.word .u64, .word .u64] ++ (ins.map CArg.argClass).toArray) (some 2) =
    ([a, b] ++ ins.map CArg.word, VaList.make 2 (ins.map fun x => (x.word, x.isDouble))) := by
  simp [Step.providedArgs, Step.isIntWord, List.zip_map', Function.comp_def]

/-- An image action that only reads: whenever it ends, it leaves the image as it was. -/
def ImgM.ReadOnly {α : Type} (act : ImgM α) : Prop :=
  ∀ image a image', act.run image = .ok (a, image') → image' = image

/-- A run of an image action that ends: the action ended on the image as the world held it,
and the world holds what it left. -/
theorem onImage_run_eq_ok {σ α : Type} {act : ImgM α} {i : Nat} {w w' : World σ} {a : α}
    (h : (onImage i act : Run σ α).run w = .ok (a, w')) :
    ∃ img', act.run (w.images[i]?.getD default) = .ok (a, img') ∧
      w' = { w with images := w.images.set! i img' } := by
  unfold onImage at h
  rw [StateT.run_bind, StateT.run_modifyGet] at h
  cases hact : act.run (w.images[i]?.getD default) with
  | ok r =>
    obtain ⟨a', img'⟩ := r
    have h' : act (w.images[i]?.getD default) = .ok (a', img') := hact
    simp [h'] at h
    have h₁ : (Except.ok (a', { w with images := w.images.setIfInBounds i img' }) :
        Except Fault (α × World σ)) = .ok (a, w') := h
    obtain ⟨rfl, rfl⟩ := Prod.mk.inj (Except.ok.inj h₁)
    exact ⟨img', rfl, by rw [Array.set!_eq_setIfInBounds]⟩
  | error e =>
    have h' : act (w.images[i]?.getD default) = .error e := hact
    simp [h'] at h
    cases h

namespace ImgM.ReadOnly

variable {α β : Type}

/-- Answering a value only reads. -/
theorem pure (a : α) : ReadOnly (Pure.pure a : ImgM α) := by
  intro image a' image' h
  exact (pure_run_eq_ok h).2

/-- Reading actions one after another only read. -/
theorem bind {x : ImgM α} {f : α → ImgM β} (hx : ReadOnly x) (hf : ∀ a, ReadOnly (f a)) :
    ReadOnly (x >>= f) := by
  intro image b image' h
  obtain ⟨a, image₁, h₁, h₂⟩ := run_bind_eq_ok.1 h
  exact (hf a _ _ _ h₂).trans (hx _ _ _ h₁)

/-- A load only reads. -/
theorem load (k : Lang.NumKind) (a : UInt64) : ReadOnly (ImgM.load k a) := by
  intro image x image' h
  unfold ImgM.load ImgM.liftMem at h
  obtain ⟨m, image₁, hget, h⟩ := run_bind_eq_ok.1 h
  cases hget
  split at h
  · exact (pure_run_eq_ok h).2
  · cases h

/-- Reading a string only reads. -/
theorem cString (a : UInt64) : ReadOnly (ImgM.cString a) := by
  intro image x image' h
  unfold ImgM.cString ImgM.liftMem at h
  obtain ⟨m, image₁, hget, h⟩ := run_bind_eq_ok.1 h
  cases hget
  split at h
  · exact (pure_run_eq_ok h).2
  · cases h

/-- A choice of reading actions only reads. -/
theorem ite {p : Prop} [Decidable p] {x y : ImgM α} (hx : ReadOnly x) (hy : ReadOnly y) :
    ReadOnly (if p then x else y) := by
  split
  · exact hx
  · exact hy

open Objects

/-- `cx_callable_check` only reads. -/
theorem callableCheck (o : UInt64) : ReadOnly (callableCheck o) :=
  ite (pure _) (bind (load _ _) fun _ => ite (pure _) (bind (load _ _) fun _ => pure _))

end ImgM.ReadOnly

end InlineC.Machine
