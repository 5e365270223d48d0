/-!
# Pseudo-random numbers

The generator behind `rand` and `random`: an additive feedback generator over 31 words of
state, whose two pointers stand three words apart. Seeding fills the state with a
multiplicative congruential sequence modulo `2^31 - 1` and then discards 310 outputs;
before any seeding the generator is as seeded with 1. An output is the sum of the words
under the two pointers, stored back under the front pointer, without its lowest bit.
-/

namespace InlineC.Machine.Standard

/-- The generator's state: its words, and the positions of its front and rear pointers. -/
structure Random where
  words : Array UInt32
  front : Nat
  rear : Nat
  deriving Inhabited

namespace Random

/-- The number of state words. -/
def degree : Nat := 31

/-- The distance between the pointers. -/
def separation : Nat := 3

/-- The next word of the seeding sequence: `16807 * w mod (2^31 - 1)`, as a signed word. -/
def seedStep (w : Int) : Int :=
  let hi := w.tdiv 127773
  let lo := w.tmod 127773
  let v := 16807 * lo - 2836 * hi
  if v < 0 then v + 2147483647 else v

/-- One output and the state after it. -/
def next (g : Random) : UInt32 × Random :=
  let v := g.words.getD g.front 0 + g.words.getD g.rear 0
  let words := g.words.set! g.front v
  let front := g.front + 1
  let rear := g.rear + 1
  let g' := if front ≥ degree then { words, front := 0, rear }
    else { words, front, rear := if rear ≥ degree then 0 else rear }
  (v >>> 1, g')

/-- Discard outputs. -/
def skip : Nat → Random → Random
  | 0, g => g
  | n + 1, g => skip n (g.next.2)

/-- The state after seeding; a zero seed counts as one. -/
def seeded (seed : UInt32) : Random :=
  let s : Int := if seed == 0 then 1 else (seed.toNat : Int)
  let s := if s ≥ Int.pow 2 31 then s - Int.pow 2 32 else s
  let (ws, _) := (List.range (degree - 1)).foldl (fun (acc : Array UInt32 × Int) _ =>
    let w := seedStep acc.2
    (acc.1.push (UInt32.ofInt w), w)) (#[UInt32.ofInt s], s)
  skip (10 * degree) { words := ws, front := separation, rear := 0 }

/-- The state before any seeding. -/
def initial : Random := seeded 1

end Random

end InlineC.Machine.Standard
