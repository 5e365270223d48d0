import Mathlib
import InlineC.Proofs.Hygiene

/-!
# Drawing short names

`Identifier.generate count exclude` draws helper names from the 702 short names: `a` to `z`,
then `aa` to `az`, `ba` to `bz`, and so on to `zz`, skipping the excluded ones.

What holds (`draw_laws`): the short names stand in that order, the `i`-th being the letter
`i` for `i < 26` and otherwise the two letters of the quotient and the remainder of `i - 26`
by 26. A negative count is refused with a plain error, and only a negative count. Otherwise
a draw gives the first `count` short names that are not excluded, and it is refused as
exhausted exactly when `count` exceeds the number of short names left, 702 less the number of
distinct excluded short names. The names drawn are pairwise distinct, none is excluded, and
the draw depends on the excluded list only through its members.
-/

namespace InlineC.Identifier

/-! ## The order of the short names -/

/-- Rows of `b` drawn from `a` rows, one after another, are the quotients and remainders by `b`
of the first `a * b` numbers. -/
theorem flatMap_range_map {α : Type} (f : Nat → Nat → α) (a b : Nat) :
    (List.range a).flatMap (fun p => (List.range b).map (f p)) =
      (List.range (a * b)).map fun j => f (j / b) (j % b) := by
  induction a with
  | zero => simp
  | succ a ih =>
    rw [List.range_succ, List.flatMap_append, ih, Nat.succ_mul, List.range_add, List.map_append,
      List.map_map]
    simp only [List.flatMap_cons, List.flatMap_nil, List.append_nil]
    congr 1
    refine List.map_congr_left fun c hc => ?_
    have hcb : c < b := List.mem_range.1 hc
    have hdiv : (a * b + c) / b = a := by
      rw [Nat.add_comm, Nat.add_mul_div_right _ _ (by omega), Nat.div_eq_of_lt hcb, Nat.zero_add]
    have hmod : (a * b + c) % b = c := by
      rw [Nat.add_comm, Nat.add_mul_mod_self_right, Nat.mod_eq_of_lt hcb]
    simp [hdiv, hmod]

/-- The short names by the codes of their letters: 26 single letters, then 676 pairs. -/
theorem shortNames_eq :
    shortNames = (List.range 26).map (fun i => String.ofList [Char.ofNat (97 + i)]) ++
      (List.range 676).map fun j =>
        String.ofList [Char.ofNat (97 + j / 26), Char.ofNat (97 + j % 26)] := by
  rw [shortNames, letters, List.map_map, List.flatMap_map]
  simp only [List.map_map, Function.comp_def]
  rw [flatMap_range_map (fun p c => String.ofList [Char.ofNat (97 + p), Char.ofNat (97 + c)]) 26 26]
  congr 1

/-- There are 702 short names. -/
theorem shortNames_length : shortNames.length = 702 := by
  simp [shortNames_eq]

/-- The `i`-th short name: a single letter for `i < 26`, then pairs of letters in order. -/
theorem shortNames_getElem? (i : Nat) :
    shortNames[i]? =
      if i < 26 then some (String.ofList [Char.ofNat (97 + i)])
      else if i < 702 then
        some (String.ofList [Char.ofNat (97 + (i - 26) / 26), Char.ofNat (97 + (i - 26) % 26)])
      else none := by
  rw [shortNames_eq]
  split_ifs with hone htwo
  · rw [List.getElem?_append_left (by simpa using hone), List.getElem?_map, List.getElem?_range hone]
    rfl
  · rw [List.getElem?_append_right (by simp; omega), List.getElem?_map, List.length_map,
      List.length_range, List.getElem?_range (by omega)]
    rfl
  · rw [List.getElem?_eq_none]
    simp; omega

/-! ## Drawing -/

/-- How many short names a draw can give: 702 less the distinct excluded short names. -/
def drawable (exclude : List String) : Nat := 702 - (exclude.toFinset ∩ shortNames.toFinset).card

/-- The short names that are not excluded number `drawable exclude`. -/
theorem length_filter_not_excluded (exclude : List String) :
    (shortNames.filter fun n => !exclude.contains n).length = drawable exclude := by
  have hsplit := List.length_eq_length_filter_add (l := shortNames) fun n => exclude.contains n
  -- the excluded short names are distinct, so they are as many as the set they form
  have hexcluded : (shortNames.filter fun n => exclude.contains n).length =
      (exclude.toFinset ∩ shortNames.toFinset).card := by
    have hset : (shortNames.filter fun n => exclude.contains n).toFinset =
        exclude.toFinset ∩ shortNames.toFinset := by
      ext n
      simp only [List.mem_toFinset, List.mem_filter, Finset.mem_inter, List.contains_iff_mem]
      exact and_comm
    rw [← List.toFinset_card_of_nodup (shortNames_nodup.filter _), hset]
  rw [shortNames_length] at hsplit
  rw [drawable]
  omega

/-- Leaving out the names a list contains is leaving out its members. -/
theorem filter_not_contains (exclude : List String) :
    (shortNames.filter fun n => !exclude.contains n) = shortNames.filter fun n => n ∉ exclude :=
  List.filter_congr fun n _ => by simp

/-- A draw answers names exactly when the count is at least zero and at most what is left, and
they are the first `count` short names that are not excluded. -/
theorem generate_eq_ok_iff {count : Int} {exclude outs : List String} :
    generate count exclude = .ok outs ↔
      0 ≤ count ∧ count.toNat ≤ drawable exclude ∧
        outs = (shortNames.filter fun n => n ∉ exclude).take count.toNat := by
  rw [generate_eq]
  dsimp only
  rw [length_filter_not_excluded, filter_not_contains]
  split_ifs with hneg hshort
  · simp only [false_iff, not_and]
    intro h; omega
  · simp only [false_iff, not_and]
    intro _ h; omega
  · simp only [Except.ok.injEq]
    constructor
    · rintro rfl
      exact ⟨by omega, by omega, rfl⟩
    · rintro ⟨-, -, rfl⟩
      rfl

/-- A draw is refused for a negative count, and otherwise as exhausted when fewer names are
left than asked for. -/
theorem generate_eq_error_iff {count : Int} {exclude : List String} {e : NamesError} :
    generate count exclude = .error e ↔
      (count < 0 ∧ e = .negative count) ∨
        (0 ≤ count ∧ drawable exclude < count.toNat ∧ e = .exhausted count.toNat) := by
  rw [generate_eq]
  dsimp only
  rw [length_filter_not_excluded]
  split_ifs with hneg hshort
  · simp only [Except.error.injEq]
    constructor
    · rintro rfl
      exact .inl ⟨hneg, rfl⟩
    · rintro (⟨-, rfl⟩ | ⟨h, -⟩)
      · rfl
      · omega
  · simp only [Except.error.injEq]
    constructor
    · rintro rfl
      exact .inr ⟨by omega, hshort, rfl⟩
    · rintro (⟨h, -⟩ | ⟨-, -, rfl⟩)
      · omega
      · rfl
  · simp only [false_iff, not_or, not_and]
    exact ⟨fun h => absurd h hneg, fun _ h => absurd h hshort⟩

/-- Only exhaustion carries the class of exhausted names. -/
theorem namesExhausted_mem_report {e : NamesError} :
    ErrorClass.namesExhausted ∈ (Failure.report e).classes ↔ ∃ n, e = .exhausted n := by
  cases e <;> simp [Failure.report, FailureReport.plain]

/-- The laws of drawing short names, for every count and every excluded list. -/
structure DrawLaws : Prop where
  /-- The short names in order: `a` to `z`, then `aa` to `zz`, 702 in all. -/
  order : ∀ i : Nat, shortNames[i]? =
    if i < 26 then some (String.ofList [Char.ofNat (97 + i)])
    else if i < 702 then
      some (String.ofList [Char.ofNat (97 + (i - 26) / 26), Char.ofNat (97 + (i - 26) % 26)])
    else none
  /-- A draw is refused with an error other than exhaustion exactly for a negative count. -/
  negative : ∀ (count : Int) (exclude : List String),
    (∃ e, generate count exclude = .error e ∧
      ErrorClass.namesExhausted ∉ (Failure.report e).classes) ↔ count < 0
  /-- A draw is refused as exhausted exactly when the count is at least zero and exceeds 702
  less the number of distinct excluded short names. -/
  exhausted : ∀ (count : Int) (exclude : List String),
    (∃ e, generate count exclude = .error e ∧
      ErrorClass.namesExhausted ∈ (Failure.report e).classes) ↔
        0 ≤ count ∧ 702 - (exclude.toFinset ∩ shortNames.toFinset).card < count.toNat
  /-- Otherwise a draw gives the first `count` short names that are not excluded. -/
  drawn : ∀ (count : Int) (exclude outs : List String),
    generate count exclude = .ok outs ↔
      0 ≤ count ∧ count.toNat ≤ 702 - (exclude.toFinset ∩ shortNames.toFinset).card ∧
        outs = (shortNames.filter fun n => n ∉ exclude).take count.toNat
  /-- The names drawn are pairwise distinct and none is excluded. -/
  distinct : ∀ (count : Int) (exclude outs : List String),
    generate count exclude = .ok outs → outs.Nodup ∧ ∀ n ∈ outs, n ∉ exclude
  /-- Excluded lists with the same members give the same draw. -/
  members : ∀ (count : Int) (e₁ e₂ : List String), (∀ n, n ∈ e₁ ↔ n ∈ e₂) →
    generate count e₁ = generate count e₂

/-- Drawing names gives the first short names outside the excluded set, in order, or is refused
as the count is negative or the names run out. -/
theorem draw_laws : DrawLaws where
  order := shortNames_getElem?
  negative count exclude := by
    constructor
    · rintro ⟨e, he, hcls⟩
      rcases generate_eq_error_iff.1 he with ⟨hneg, -⟩ | ⟨-, -, rfl⟩
      · exact hneg
      · exact absurd (namesExhausted_mem_report.2 ⟨_, rfl⟩) hcls
    · intro hneg
      refine ⟨.negative count, generate_eq_error_iff.2 (.inl ⟨hneg, rfl⟩), ?_⟩
      rw [namesExhausted_mem_report]
      rintro ⟨n, ⟨⟩⟩
  exhausted count exclude := by
    constructor
    · rintro ⟨e, he, hcls⟩
      rcases generate_eq_error_iff.1 he with ⟨-, rfl⟩ | ⟨hpos, hshort, -⟩
      · obtain ⟨n, ⟨⟩⟩ := namesExhausted_mem_report.1 hcls
      · exact ⟨hpos, hshort⟩
    · rintro ⟨hpos, hshort⟩
      exact ⟨_, generate_eq_error_iff.2 (.inr ⟨hpos, hshort, rfl⟩), namesExhausted_mem_report.2 ⟨_, rfl⟩⟩
  drawn _ _ _ := generate_eq_ok_iff
  distinct _ _ _ h := by
    obtain ⟨-, hnodup, hmem⟩ := generate_ok h
    exact ⟨hnodup, fun n hn => (hmem n hn).2⟩
  members count e₁ e₂ h := by
    have hcontains : ∀ n, e₁.contains n = e₂.contains n := fun n => by
      rw [Bool.eq_iff_iff, List.contains_iff_mem, List.contains_iff_mem]
      exact h n
    rw [generate_eq, generate_eq]
    simp only [hcontains]

end InlineC.Identifier
