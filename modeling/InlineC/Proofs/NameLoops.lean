import Mathlib
import InlineC.Identifier

/-!
# The loops that draw short names

`Identifier.generate` runs two nested loops, as the source does: over the prefixes (none, then
each letter) and, for each, over the letters. Before each candidate the inner loop stops once
`count` names are drawn; it skips an excluded candidate and draws the others. After the loops,
a draw that ran to the end with too few names is refused as exhausted.

The loop invariant is `Drew`: a loop that started with `names` drawn leaves the first `count`
of `names` followed by the candidates it met that are not excluded; when it ran to the end it
leaves all of them, and when it stopped early exactly `count`. The inner loop keeps it candidate
by candidate (`drawLetters_drew`), the outer loop row by row (`drawPrefixes_drew`), and the rows
of candidates make the short names in order (`prefixes_flatMap`). So a draw gives the first
`count` short names that are not excluded (`generate_eq`).
-/

namespace InlineC.Identifier

/-- What a loop leaves that could draw the names `all` (those drawn before it, then the
candidates it meets that are not excluded): the first `count` of them; all of them when it ran
to the end; exactly `count` when it stopped early. -/
def Drew (count : Nat) (all : List String) (r : Bool × List String) : Prop :=
  r.2 = all.take count ∧ (r.1 = false → r.2 = all) ∧ (r.1 = true → r.2.length = count)

/-- The candidates of a prefix, one per letter, that are not skipped. -/
def rowDrawable (skip : List String) (pre : String) (ls : List Char) : List String :=
  (ls.map fun l => pre ++ l.toString).filter fun n => !skip.contains n

/-- The loop over the letters keeps the invariant: each candidate is skipped, drawn, or met
with `count` names drawn, when the loop stops. -/
theorem drawLetters_drew (count : Nat) (skip : List String) (pre : String) (ls : List Char) :
    ∀ names : List String, names.length ≤ count →
      Drew count (names ++ rowDrawable skip pre ls) (drawLetters count skip pre ls names) := by
  induction ls with
  | nil =>
    intro names hle
    simp [Drew, drawLetters, rowDrawable, List.take_of_length_le hle]
  | cons l ls ih =>
    intro names hle
    by_cases hfull : names.length = count
    · -- the loop stops before the candidate, with the first `count` names
      have hstop : drawLetters count skip pre (l :: ls) names = (true, names) := by
        simp [drawLetters, hfull]
      rw [hstop]
      refine ⟨?_, by simp, fun _ => hfull⟩
      rw [← hfull, List.take_left]
    · by_cases hskip : skip.contains (pre ++ l.toString) = true
      · -- an excluded candidate is skipped
        have hstep : drawLetters count skip pre (l :: ls) names =
            drawLetters count skip pre ls names := by
          simp only [drawLetters, hfull, hskip, if_false, if_true]
        have hrow : rowDrawable skip pre (l :: ls) = rowDrawable skip pre ls := by
          simp only [rowDrawable, List.map_cons, List.filter_cons, hskip, Bool.not_true,
            Bool.false_eq_true, if_false]
        rw [hstep, hrow]
        exact ih names hle
      · -- any other candidate is drawn
        have hskip' : skip.contains (pre ++ l.toString) = false := Bool.eq_false_iff.2 hskip
        have hstep : drawLetters count skip pre (l :: ls) names =
            drawLetters count skip pre ls (names ++ [pre ++ l.toString]) := by
          simp only [drawLetters, hfull, hskip', Bool.false_eq_true, if_false]
        have hrow : rowDrawable skip pre (l :: ls) =
            (pre ++ l.toString) :: rowDrawable skip pre ls := by
          simp only [rowDrawable, List.map_cons, List.filter_cons, hskip', Bool.not_false, if_true]
        rw [hstep, hrow, ← List.singleton_append, ← List.append_assoc]
        exact ih _ (by simp only [List.length_append, List.length_singleton]; omega)

/-- The loop over the prefixes keeps the invariant: a row that stops early ends the loop, and
a row that runs to the end leaves all its names for the next. -/
theorem drawPrefixes_drew (count : Nat) (skip : List String) (ps : List String) :
    ∀ names : List String, names.length ≤ count →
      Drew count (names ++ ps.flatMap fun p => rowDrawable skip p letters)
        (drawPrefixes count skip ps names) := by
  induction ps with
  | nil =>
    intro names hle
    simp [Drew, drawPrefixes, List.take_of_length_le hle]
  | cons p ps ih =>
    intro names hle
    obtain ⟨htake, hend, hstop⟩ := drawLetters_drew count skip p letters names hle
    rw [drawPrefixes, List.flatMap_cons, ← List.append_assoc]
    generalize drawLetters count skip p letters names = r at htake hend hstop ⊢
    obtain ⟨stopped, drawn⟩ := r
    cases stopped with
    | true =>
      -- the row stopped with `count` names: the rows after it add nothing
      have hlen : drawn.length = count := hstop rfl
      dsimp only at htake
      have hcount : count ≤ (names ++ rowDrawable skip p letters).length := by
        rw [htake, List.length_take] at hlen
        omega
      refine ⟨?_, by simp, fun _ => hlen⟩
      rw [List.take_append_of_le_length hcount]
      exact htake
    | false =>
      -- the row ran to the end: the next rows start from all its names
      have hall : drawn = names ++ rowDrawable skip p letters := hend rfl
      have hle' : drawn.length ≤ count := by
        dsimp only at htake
        rw [htake]
        exact List.length_take_le _ _
      rw [← hall]
      exact ih drawn hle'

/-- The candidates the loops meet, row by row, are the short names in order. -/
theorem candidates_eq :
    (prefixes.flatMap fun p => letters.map fun l => p ++ l.toString) = shortNames := by
  simp [prefixes, shortNames, List.flatMap_map, Char.toString]

/-- The rows of candidates, without the skipped ones, are the short names without them. -/
theorem prefixes_flatMap (skip : List String) :
    (prefixes.flatMap fun p => rowDrawable skip p letters) =
      shortNames.filter fun n => !skip.contains n := by
  simp only [rowDrawable, ← List.filter_flatMap, candidates_eq]

/-- The loops draw the first `count` short names that are not excluded; a negative count is
refused, and so is a count above the names that are left. -/
theorem generate_eq (count : Int) (exclude : List String) :
    generate count exclude =
      if count < 0 then .error (.negative count)
      else
        let avail := shortNames.filter fun n => !exclude.contains n
        if avail.length < count.toNat then .error (.exhausted count.toNat)
        else .ok (avail.take count.toNat) := by
  unfold generate
  by_cases hneg : count < 0
  · simp only [hneg, if_true]
  rw [if_neg hneg, if_neg hneg]
  obtain ⟨htake, hend, hstop⟩ := drawPrefixes_drew count.toNat exclude prefixes [] (by simp)
  simp only [List.nil_append, prefixes_flatMap] at htake hend hstop
  split
  next drawn hr =>
    -- stopped early: `count` names were left, and the first `count` are drawn
    have hlen := hstop (by rw [hr])
    rw [hr] at htake hlen
    dsimp only at htake hlen
    rw [htake, List.length_take] at hlen
    dsimp only
    rw [if_neg (by omega), htake]
  next drawn hr =>
    -- ran to the end: every name left is drawn, and there are enough exactly when not short
    have hall := hend (by rw [hr])
    rw [hr] at htake hall
    dsimp only at htake hall
    rw [hall] at htake
    dsimp only
    rw [hall]
    split_ifs
    · rfl
    · rw [← htake]

end InlineC.Identifier
