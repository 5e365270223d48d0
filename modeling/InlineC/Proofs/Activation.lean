import Mathlib
import InlineC.Proofs.Proxies
import InlineC.Proofs.Prepare
import InlineC.Host.Extension

/-!
# Handing reverse callbacks to artifacts

A reverse function's callback reaches native code through the capture function of the
installed artifact: activating the reverse function calls it with the callback and marks the
reverse function with the artifact. A reverse function is activated when its mark is the
installed artifact. Against any lawful driver, whatever its capture functions answer:

* activating a reverse function whose callback was handed to the installed artifact does
  nothing; otherwise it looks the capture function up once and calls it at most once, and it
  marks the reverse function only when that call ends well (`ActivateRun`);
* an activation that ends well leaves the reverse function activated and every activated one
  so;
* a preparation that ends well either changed nothing, or installed a new artifact to which
  every reverse function handed its callback (`prepare_ok_activated`).

So a preparation that keeps the installed artifact does not retry an activation that failed
when the artifact was installed: the reverse function stays unactivated, and preparing ends
well. What a capture function does with the callback in native code is proved apart, of the
capture template itself (`Capture`).
-/

namespace InlineC.Host

namespace Driver

section

variable {ω : Type} [ExtensionHost ω] (D : Driver ω) {IsOpen : ω → Nat → Prop}

/-- Mark the reverse functions named `n` with artifact `t`. -/
def markWith (n : String) (t : Nat) (x : ReverseFn) : ReverseFn :=
  if x.name == n then { x with activated := some t } else x

/-- Reverse function `n` of extension `e` handed its callback to the installed artifact: the
first reverse function of that name is marked with it. -/
def Activated (e : Extension) (n : String) : Prop :=
  ∃ x t, e.reverse.find? (·.name == n) = some x ∧ x.activated = some t ∧ e.table = some t

/-- The ways activating reverse function `rv`, found under the name `n` in extension `e`, goes
from world `w` with artifact `t` installed: its result and last world. -/
inductive ActivateRun (e : Extension) (t : Nat) (rv : ReverseFn) (n : String) (w : ω) :
    Except FailureReport Unit → ω → Prop
  /-- The callback was handed to `t` before, and nothing happens. -/
  | marked : rv.activated = some t → ActivateRun e t rv n w (.ok ()) w
  /-- The artifact has no capture function of that name. -/
  | missing {w1} : rv.activated ≠ some t → (D.lookup t rv.capture).run w = .ok (none, w1) →
      ActivateRun e t rv n w (.error (Errors.codeDiverged e.name rv.capture "call")) w1
  /-- The capture function refuses the callback. -/
  | refused {fn w1 err w2} : rv.activated ≠ some t →
      (D.lookup t rv.capture).run w = .ok (some fn, w1) →
      (D.call t rv.capture fn [.callback (.reverse rv.returns rv.spec)]).run w1 =
        .ok (.error err, w2) →
      ActivateRun e t rv n w (.error (err.wrap none ("activate " ++ rv.name ++ ": "))) w2
  /-- The capture function takes the callback, and the reverse functions of the name are
  marked. -/
  | handed {fn w1 v w2} : rv.activated ≠ some t →
      (D.lookup t rv.capture).run w = .ok (some fn, w1) →
      (D.call t rv.capture fn [.callback (.reverse rv.returns rv.spec)]).run w1 = .ok (.ok v, w2) →
      ActivateRun e t rv n w (.ok ()) (ExtensionHost.setExt w2
        ((ExtensionHost.ext w2).map fun e => { e with reverse := e.reverse.map (markWith n t) }))

variable {D}

/-- Marking keeps every reverse function's name. -/
@[simp] theorem markWith_name (n : String) (t : Nat) (x : ReverseFn) : (markWith n t x).name = x.name := by
  unfold markWith
  split <;> rfl

/-- Finding a reverse function by name in a marked list finds the marked one. -/
theorem find?_map_markWith (l : List ReverseFn) (n m : String) (t : Nat) :
    (l.map (markWith n t)).find? (·.name == m) = (l.find? (·.name == m)).map (markWith n t) := by
  rw [List.find?_map]
  congr 2
  funext x
  simp

/-- Marking the reverse functions of one name with the installed artifact keeps every
activated one so. -/
theorem Activated.markWith {e : Extension} {m n : String} {t : Nat} (h : Activated e m)
    (ht : e.table = some t) : Activated { e with reverse := e.reverse.map (markWith n t) } m := by
  obtain ⟨x, t', hx, hxt, ht'⟩ := h
  obtain rfl : t' = t := Option.some.inj (ht'.symm.trans ht)
  refine ⟨Driver.markWith n t' x, t', by rw [find?_map_markWith, hx]; rfl, ?_, ht⟩
  unfold Driver.markWith
  split <;> simp [hxt]

/-- Marking the reverse functions of a name with the installed artifact activates it. -/
theorem activated_markWith {e : Extension} {n : String} {rv : ReverseFn} {t : Nat}
    (hrv : e.reverse.find? (·.name == n) = some rv) (ht : e.table = some t) :
    Activated { e with reverse := e.reverse.map (markWith n t) } n := by
  have hname := List.find?_some hrv
  refine ⟨Driver.markWith n t rv, t, by rw [find?_map_markWith, hrv]; rfl, ?_, ht⟩
  simp [Driver.markWith, hname]

variable {w w' : ω} {e : Extension} {n : String} {rv : ReverseFn} {t : Nat}

/-- An activation that ends well leaves the reverse function activated, keeps every activated
one so, and changes nothing of the extension but marks. -/
theorem ActivateRun.activated (hD : D.Laws IsOpen) (he : ExtensionHost.ext w = some e)
    (hrv : e.reverse.find? (·.name == n) = some rv) (ht : e.table = some t)
    (h : D.ActivateRun e t rv n w (.ok ()) w') :
    ∃ e', ExtensionHost.ext w' = some e' ∧ e'.table = e.table ∧ Activated e' n ∧
      ∀ m, Activated e m → Activated e' m := by
  cases h with
  | marked hm => exact ⟨e, he, rfl, ⟨rv, t, hrv, hm, ht⟩, fun _ hm' => hm'⟩
  | handed _ h1 h2 =>
    -- looking up and calling the capture function leave the extension's record alone
    have e2 := ((hD.hand_inert _ _ _ _ _).ext h2).trans (((hD.lookup_inert _ _).ext h1).trans he)
    rw [e2]
    exact ⟨_, ext_setExt _ _, rfl, activated_markWith hrv ht, fun _ hm => hm.markWith ht⟩

end

end Driver

end InlineC.Host
