import Mathlib
import InlineC.Text.Layout

/-!
# Dedented bodies

`dedent` lays out a function body: line ends `\r\n` become `\n`, blank lines at either end go,
the indentation shared by the non-blank lines goes, blank lines become empty and trailing
spaces and tabs are cut. `indent` then puts four spaces before each non-empty line.

What holds (`dedent_laws`), for every text: a dedented body is empty or its first and last
lines are not blank; its blank lines are empty and no line ends in a space or a tab. Its
non-blank lines are the non-blank source lines in order, each without the longest run of
spaces and tabs that starts every non-blank source line and without its trailing spaces and
tabs, so no space or tab starts all of them. `indent` is the dedented body with four spaces
before each non-empty line.

What does not: a dedented body is dedented again unchanged only when it holds no `\r\n`. A
carriage return that ends a source line stays, and once the lines are joined it stands before
a newline that a second `dedent` folds away (`stray_return_dedented_again`).
-/

namespace InlineC.Text.Layout

/-! ## Lines of a text -/

/-- No line of a text holds a newline. -/
theorem newline_not_mem_of_mem_lines {cs l : List Char} (h : l ∈ lines cs) : '\n' ∉ l := by
  unfold lines at h
  rw [List.splitOn_eq_splitOnP] at h
  induction cs generalizing l with
  | nil =>
    simp only [List.splitOnP_nil, List.mem_cons, List.not_mem_nil, or_false] at h
    simp [h]
  | cons c cs ih =>
    rw [List.splitOnP_cons_eq_if_modifyHead] at h
    split_ifs at h with hc
    · rcases List.mem_cons.1 h with rfl | h
      · simp
      · exact ih h
    · obtain ⟨first, rest, hsplit⟩ := List.exists_cons_of_ne_nil (List.splitOnP_ne_nil _ cs)
      rw [hsplit, List.modifyHead_cons] at h
      rcases List.mem_cons.1 h with rfl | h
      · have hc' : c ≠ '\n' := by simpa using hc
        have hfirst := ih (l := first) (by rw [hsplit]; exact List.mem_cons_self)
        simp [hc'.symm, hfirst]
      · exact ih (by rw [hsplit]; exact List.mem_cons_of_mem _ h)

/-- Splitting lines undoes joining them, for lines without a newline. -/
theorem lines_unlines {ls : List (List Char)} (hne : ls ≠ []) (h : ∀ l ∈ ls, '\n' ∉ l) :
    lines (unlines ls) = ls :=
  List.splitOn_intercalate '\n' h hne

/-- Joining lines undoes splitting them. -/
theorem unlines_lines (cs : List Char) : unlines (lines cs) = cs :=
  List.intercalate_splitOn '\n'

/-- The first line starts the text. -/
theorem prefix_unlines_cons (l : List Char) (rest : List (List Char)) : l <+: unlines (l :: rest) := by
  cases rest with
  | nil => simp [unlines]
  | cons l' rest =>
    rw [unlines, List.intercalate_cons_cons, List.append_assoc]
    exact List.prefix_append _ _

/-- Joined lines take each line's length and one newline between two lines. -/
theorem length_unlines (ls : List (List Char)) :
    (unlines ls).length = (ls.map fun l => l.length + 1).sum - 1 := by
  induction ls with
  | nil => rfl
  | cons l rest ih =>
    cases rest with
    | nil => simp [unlines]
    | cons l' rest =>
      rw [unlines, List.intercalate_cons_cons, List.length_append, List.length_append]
      rw [unlines] at ih
      simp only [List.map_cons, List.sum_cons, List.length_singleton] at ih ⊢
      omega

/-- Dropping lines and shortening lines never lengthens the text. -/
theorem length_unlines_map_le {ms ls : List (List Char)} (hsub : ms.Sublist ls)
    {f : List Char → List Char} (hf : ∀ l ∈ ms, (f l).length ≤ l.length) :
    (unlines (ms.map f)).length ≤ (unlines ls).length := by
  rw [length_unlines, length_unlines, List.map_map]
  have hmap : ((ms.map fun l => (f l).length + 1)).sum ≤ (ms.map fun l => l.length + 1).sum :=
    List.sum_le_sum fun l hl => by simpa using hf l hl
  have hsubsum : (ms.map fun l => l.length + 1).sum ≤ (ls.map fun l => l.length + 1).sum :=
    (hsub.map _).sum_le_sum fun _ _ => Nat.zero_le _
  simp only [Function.comp_def]
  omega

/-! ## Line ends -/

/-- Folding line ends never lengthens a text. -/
theorem length_joinCrLf_le (cs : List Char) : (joinCrLf cs).length ≤ cs.length := by
  fun_induction joinCrLf cs with
  | case1 rest ih => simp only [List.length_cons]; omega
  | case2 c rest _ ih => simp only [List.length_cons]; omega
  | case3 => rfl

/-- A text without `\r\n` has no line end to fold. -/
theorem joinCrLf_eq_self {cs : List Char} (h : ¬ ['\r', '\n'] <:+: cs) : joinCrLf cs = cs := by
  fun_induction joinCrLf cs with
  | case1 rest ih => exact absurd (List.prefix_append _ rest).isInfix h
  | case2 c rest _ ih =>
    rw [ih fun hin => h (List.infix_cons hin)]
  | case3 => rfl

/-- A text with a `\r\n` gets shorter when its line ends are folded. -/
theorem length_joinCrLf_lt {cs : List Char} (h : ['\r', '\n'] <:+: cs) :
    (joinCrLf cs).length < cs.length := by
  fun_induction joinCrLf cs with
  | case1 rest ih =>
    have := length_joinCrLf_le rest
    simp only [List.length_cons]
    omega
  | case2 c rest hne ih =>
    rcases List.infix_cons_iff.1 h with hpre | hin
    · -- a `\r\n` at the front is folded by the first case, not this one
      obtain ⟨t, ht⟩ := hpre
      simp only [List.cons_append, List.nil_append, List.cons.injEq] at ht
      exact absurd ht.2.symm (hne t ht.1.symm)
    · simp only [List.length_cons]
      have := ih hin
      omega
  | case3 => simp at h

/-! ## Blank lines and indentation -/

/-- An indentation character is a space. -/
theorem isSpace_of_isIndent {c : Char} (h : isIndent c = true) : isSpace c = true := by
  simp only [isIndent, Bool.or_eq_true, beq_iff_eq] at h
  rcases h with rfl | rfl <;> rfl

/-- A line is not blank when it holds a character that is not white space. -/
theorem isBlank_eq_false_iff {l : List Char} : isBlank l = false ↔ ∃ c ∈ l, isSpace c = false := by
  simp [isBlank, List.all_eq_false]

/-- What `rdropWhile` keeps: every element that fails the test. -/
theorem mem_rdropWhile_of_not {α : Type} {p : α → Bool} {l : List α} {a : α} (ha : a ∈ l)
    (hp : p a = false) : a ∈ l.rdropWhile p := by
  have hsplit := List.rdropWhile_append_rtakeWhile (p := p) (l := l)
  rw [← hsplit, List.mem_append] at ha
  rcases ha with ha | ha
  · exact ha
  · have : p a = true := by
      rw [List.rtakeWhile, List.mem_reverse] at ha
      exact List.mem_takeWhile_imp ha
    simp [hp] at this

/-! ## Blank lines at either end -/

/-- Trimming blank lines drops them from the front, then from the back. -/
theorem trimBlankEnds_eq (ls : List (List Char)) :
    trimBlankEnds ls = (ls.dropWhile isBlank).rdropWhile isBlank := rfl

/-- Trimming keeps lines in order. -/
theorem trimBlankEnds_sublist (ls : List (List Char)) : (trimBlankEnds ls).Sublist ls := by
  rw [trimBlankEnds_eq]
  have hkept := List.rdropWhile_prefix isBlank (ls.dropWhile isBlank)
  exact hkept.sublist.trans (List.dropWhile_sublist _)

/-- Dropping blank lines at either end keeps every non-blank line. -/
theorem filter_trimBlankEnds (ls : List (List Char)) :
    (trimBlankEnds ls).filter (fun l => !isBlank l) = ls.filter (fun l => !isBlank l) := by
  have hblank : ∀ ms : List (List Char), (∀ l ∈ ms, isBlank l = true) →
      ms.filter (fun l => !isBlank l) = [] := fun ms h => by
    simpa [List.filter_eq_nil_iff] using h
  rw [trimBlankEnds_eq]
  conv_rhs => rw [← List.takeWhile_append_dropWhile (p := isBlank) (l := ls)]
  conv_rhs => rw [← List.rdropWhile_append_rtakeWhile (p := isBlank) (l := ls.dropWhile isBlank)]
  rw [List.filter_append, List.filter_append,
    hblank _ fun _ h => List.mem_takeWhile_imp h,
    hblank (List.rtakeWhile isBlank (ls.dropWhile isBlank)) fun _ h => by
      rw [List.rtakeWhile, List.mem_reverse] at h
      exact List.mem_takeWhile_imp h]
  simp

/-- After trimming, the first line is not blank. -/
theorem head?_trimBlankEnds (ls : List (List Char)) :
    ∀ l ∈ (trimBlankEnds ls).head?, isBlank l = false := by
  intro l hl
  rw [trimBlankEnds_eq, Option.mem_def] at hl
  -- what is kept of the lines after the leading blanks starts as they do
  obtain ⟨t, ht⟩ := List.rdropWhile_prefix isBlank (ls.dropWhile isBlank)
  have hfirst : (ls.dropWhile isBlank).head? = some l := by
    rw [← ht, List.head?_append, hl]
    rfl
  have hhead := List.head?_dropWhile_not isBlank ls
  rw [hfirst] at hhead
  exact hhead

/-- After trimming, the last line is not blank. -/
theorem getLast?_trimBlankEnds (ls : List (List Char)) :
    ∀ l ∈ (trimBlankEnds ls).getLast?, isBlank l = false := by
  intro l hl
  rw [trimBlankEnds_eq, Option.mem_def] at hl
  have hne : (ls.dropWhile isBlank).rdropWhile isBlank ≠ [] := by
    intro h
    rw [h] at hl
    cases hl
  rw [List.getLast?_eq_some_getLast hne, Option.some.injEq] at hl
  rw [← hl]
  simpa using List.rdropWhile_last_not isBlank (ls.dropWhile isBlank) hne

/-- The last element `rdropWhile` keeps fails the test. -/
theorem getLast?_rdropWhile {α : Type} (p : α → Bool) (l : List α) :
    ∀ a ∈ (l.rdropWhile p).getLast?, p a = false := by
  intro a ha
  rw [Option.mem_def] at ha
  have hne : l.rdropWhile p ≠ [] := by
    intro h
    rw [h] at ha
    cases ha
  rw [List.getLast?_eq_some_getLast hne, Option.some.injEq] at ha
  rw [← ha]
  simpa using List.rdropWhile_last_not p l hne

/-! ## The indentation shared by non-blank lines -/

/-- The common prefix of two lines starts both. -/
theorem commonPrefix_starts_both (a b : List Char) : commonPrefix a b <+: a ∧ commonPrefix a b <+: b := by
  induction a generalizing b with
  | nil => simp [commonPrefix]
  | cons x xs ih =>
    cases b with
    | nil => simp [commonPrefix]
    | cons y ys =>
      rw [commonPrefix]
      split_ifs with h
      · subst h
        exact ⟨List.cons_prefix_cons.2 ⟨rfl, (ih ys).1⟩, List.cons_prefix_cons.2 ⟨rfl, (ih ys).2⟩⟩
      · exact ⟨by simp, by simp⟩

/-- Whatever starts two lines starts their common prefix. -/
theorem prefix_commonPrefix {q a b : List Char} (ha : q <+: a) (hb : q <+: b) :
    q <+: commonPrefix a b := by
  induction q generalizing a b with
  | nil => exact List.nil_prefix
  | cons x xs ih =>
    cases a with
    | nil => simp at ha
    | cons y ys =>
      cases b with
      | nil => simp at hb
      | cons z zs =>
        obtain ⟨rfl, hys⟩ := List.cons_prefix_cons.1 ha
        obtain ⟨rfl, hzs⟩ := List.cons_prefix_cons.1 hb
        rw [commonPrefix, if_pos rfl]
        exact List.cons_prefix_cons.2 ⟨rfl, ih hys hzs⟩

/-- The common prefix of lines is a prefix of each of them. -/
theorem foldl_commonPrefix_starts (first : List Char) (rest : List (List Char)) :
    ∀ x ∈ first :: rest, rest.foldl commonPrefix first <+: x := by
  induction rest generalizing first with
  | nil => simp
  | cons y ys ih =>
    intro x hx
    rw [List.foldl_cons]
    have hfold := ih (commonPrefix first y) _ List.mem_cons_self
    rcases List.mem_cons.1 hx with rfl | hx
    · exact hfold.trans (commonPrefix_starts_both _ _).1
    · rcases List.mem_cons.1 hx with rfl | hx
      · exact hfold.trans (commonPrefix_starts_both _ _).2
      · exact ih _ _ (List.mem_cons_of_mem _ hx)

/-- Every common prefix of lines is a prefix of the one computed. -/
theorem prefix_foldl_commonPrefix {q : List Char} (first : List Char) (rest : List (List Char))
    (h : ∀ x ∈ first :: rest, q <+: x) : q <+: rest.foldl commonPrefix first := by
  induction rest generalizing first with
  | nil => exact h first List.mem_cons_self
  | cons y ys ih =>
    rw [List.foldl_cons]
    refine ih _ fun x hx => ?_
    rcases List.mem_cons.1 hx with rfl | hx
    · exact prefix_commonPrefix (h _ List.mem_cons_self) (h _ (by simp))
    · exact h x (by simp [hx])

/-- A prefix of indentation characters stays within the line's indentation. -/
theorem prefix_takeWhile {p : Char → Bool} {q l : List Char} (hq : q <+: l)
    (hp : ∀ c ∈ q, p c = true) : q <+: l.takeWhile p := by
  induction q generalizing l with
  | nil => exact List.nil_prefix
  | cons x xs ih =>
    cases l with
    | nil => simp at hq
    | cons y ys =>
      obtain ⟨rfl, hys⟩ := List.cons_prefix_cons.1 hq
      rw [List.takeWhile_cons_of_pos (hp x List.mem_cons_self)]
      exact List.cons_prefix_cons.2 ⟨rfl, ih hys fun c hc => hp c (List.mem_cons_of_mem _ hc)⟩

/-- The indentation of a line that is not blank is among those the shared indentation is taken from.
-/
theorem lead_mem {ls : List (List Char)} {l : List Char} (hl : l ∈ ls) (hb : isBlank l = false) :
    l.takeWhile isIndent ∈ (ls.filter fun l => !isBlank l).map (List.takeWhile isIndent) :=
  List.mem_map_of_mem (List.mem_filter.2 ⟨hl, by simp [hb]⟩)

/-- The shared indentation depends on the non-blank lines only. -/
theorem sharedIndent_congr {ls ms : List (List Char)}
    (h : ls.filter (fun l => !isBlank l) = ms.filter (fun l => !isBlank l)) :
    sharedIndent ls = sharedIndent ms := by
  unfold sharedIndent
  rw [h]

/-- The shared indentation starts every non-blank line. -/
theorem sharedIndent_starts {ls : List (List Char)} {l : List Char} (hl : l ∈ ls)
    (hb : isBlank l = false) : sharedIndent ls <+: l := by
  have hmem := lead_mem hl hb
  unfold sharedIndent
  split
  · next h =>
    rw [h] at hmem
    cases hmem
  · next first rest h =>
    rw [h] at hmem
    have hlead := List.takeWhile_prefix (l := l) isIndent
    exact (foldl_commonPrefix_starts first rest _ hmem).trans hlead

/-- The shared indentation is spaces and tabs. -/
theorem sharedIndent_isIndent (ls : List (List Char)) :
    ∀ c ∈ sharedIndent ls, isIndent c = true := by
  unfold sharedIndent
  split
  · simp
  · next first rest h =>
    intro c hc
    have hfirst : first ∈ (ls.filter fun l => !isBlank l).map (List.takeWhile isIndent) := by
      rw [h]
      exact List.mem_cons_self
    obtain ⟨l, -, rfl⟩ := List.mem_map.1 hfirst
    exact List.mem_takeWhile_imp ((foldl_commonPrefix_starts _ rest _ List.mem_cons_self).subset hc)

/-- The shared indentation is the longest: every run of spaces and tabs that starts each
non-blank line starts it. -/
theorem prefix_sharedIndent {ls : List (List Char)} {q : List Char}
    (hq : ∀ c ∈ q, isIndent c = true) (hpre : ∀ l ∈ ls, isBlank l = false → q <+: l)
    (hex : ∃ l ∈ ls, isBlank l = false) : q <+: sharedIndent ls := by
  obtain ⟨l, hl, hb⟩ := hex
  have hmem := lead_mem hl hb
  unfold sharedIndent
  split
  · next h =>
    rw [h] at hmem
    cases hmem
  · next first rest h =>
    refine prefix_foldl_commonPrefix first rest fun x hx => ?_
    rw [← h] at hx
    obtain ⟨m, hm, rfl⟩ := List.mem_map.1 hx
    obtain ⟨hm, hmb⟩ := List.mem_filter.1 hm
    exact prefix_takeWhile (hpre m hm (by simpa using hmb)) hq

/-! ## One dedented line -/

/-- A blank line dedents to nothing. -/
theorem dedentLine_of_isBlank (P : List Char) {l : List Char} (h : isBlank l = true) :
    dedentLine P l = [] := by
  simp [dedentLine, h]

/-- Any other line loses the shared indentation and its trailing blanks. -/
theorem dedentLine_of_not_isBlank (P : List Char) {l : List Char} (h : isBlank l = false) :
    dedentLine P l = (l.drop P.length).rdropWhile isIndent := by
  simp [dedentLine, h, List.rdropWhile]

/-- A dedented line keeps characters of the line only. -/
theorem dedentLine_sublist (P l : List Char) : (dedentLine P l).Sublist l := by
  cases hb : isBlank l
  · rw [dedentLine_of_not_isBlank P hb]
    have hkept := List.rdropWhile_prefix isIndent (l.drop P.length)
    exact hkept.sublist.trans (List.drop_sublist _ _)
  · rw [dedentLine_of_isBlank P hb]
    exact List.nil_sublist _

/-- No dedented line ends in a space or a tab. -/
theorem getLast?_dedentLine (P l : List Char) : ∀ c ∈ (dedentLine P l).getLast?, isIndent c = false := by
  cases hb : isBlank l
  · rw [dedentLine_of_not_isBlank P hb]
    exact getLast?_rdropWhile _ _
  · rw [dedentLine_of_isBlank P hb]
    simp

section Indented

/- A non-blank line `l` that starts with the spaces and tabs `P`. -/
variable {P l : List Char} (hP : ∀ c ∈ P, isIndent c = true) (hpre : P <+: l)
  (hb : isBlank l = false)

include hP hpre hb in
/-- A non-blank line stays non-blank once its indentation goes. -/
theorem isBlank_dedentLine : isBlank (dedentLine P l) = false := by
  obtain ⟨c, hc, hs⟩ := isBlank_eq_false_iff.1 hb
  have hind : isIndent c = false := by
    cases h : isIndent c
    · rfl
    · simp [isSpace_of_isIndent h] at hs
  rw [dedentLine_of_not_isBlank P hb, isBlank_eq_false_iff]
  refine ⟨c, mem_rdropWhile_of_not ?_ hind, hs⟩
  -- the character is not one of the spaces and tabs removed
  rw [← List.prefix_iff_eq_append.1 hpre] at hc
  rcases List.mem_append.1 hc with hc | hc
  · simp [hP c hc] at hind
  · exact hc

include hP hpre hb in
/-- A dedented line starts where the line does after its indentation `P`. -/
theorem head?_dedentLine : (dedentLine P l).head? = (l.drop P.length).head? := by
  have hne : dedentLine P l ≠ [] := by
    intro h
    have := isBlank_dedentLine hP hpre hb
    rw [h] at this
    cases this
  rw [dedentLine_of_not_isBlank P hb] at hne ⊢
  obtain ⟨t, ht⟩ := List.rdropWhile_prefix isIndent (l.drop P.length)
  conv_rhs => rw [← ht]
  obtain ⟨x, xs, hx⟩ := List.exists_cons_of_ne_nil hne
  rw [hx]
  rfl

end Indented

/-- A line that is empty when blank and does not end in a space or a tab is its own dedented
line when nothing is shared. -/
theorem dedentLine_nil {l : List Char} (hblank : isBlank l = true → l = [])
    (hlast : ∀ c ∈ l.getLast?, isIndent c = false) : dedentLine [] l = l := by
  cases hb : isBlank l
  · rw [dedentLine_of_not_isBlank [] hb, List.length_nil, List.drop_zero,
      List.rdropWhile_eq_self_iff]
    intro hne hind
    have := hlast _ (List.getLast?_eq_some_getLast hne)
    simp [hind] at this
  · rw [dedentLine_of_isBlank [] hb, hblank hb]

/-! ## Dedented lines -/

/-- The lines of a dedented body, from its source lines: the blank lines at either end
dropped, and each line dedented by the indentation the non-blank lines share. -/
def dedentSource (ls : List (List Char)) : List (List Char) :=
  (trimBlankEnds ls).map (dedentLine (sharedIndent ls))

/-- The lines of a dedented text come from its lines once line ends are folded. -/
theorem dedentLines_eq (s : String) : dedentLines s = dedentSource (lines (joinCrLf s.toList)) := by
  simp only [dedentLines, dedentSource, sharedIndent_congr (filter_trimBlankEnds _)]

/-- Lines that start and end with text are kept by trimming. -/
theorem trimBlankEnds_eq_self {ls : List (List Char)} (hhead : ∀ l ∈ ls.head?, isBlank l = false)
    (hlast : ∀ l ∈ ls.getLast?, isBlank l = false) : trimBlankEnds ls = ls := by
  have hdrop : ls.dropWhile isBlank = ls := by
    rw [List.dropWhile_eq_self_iff]
    intro hpos hblank
    have := hhead _ (List.head?_eq_getElem?.trans (List.getElem?_eq_getElem hpos))
    simp [hblank] at this
  rw [trimBlankEnds_eq, hdrop, List.rdropWhile_eq_self_iff]
  intro hne hblank
  have := hlast _ (List.getLast?_eq_some_getLast hne)
  simp [hblank] at this

section Source

variable (ls : List (List Char))

/-- Every dedented line comes from a line of the source. -/
theorem mem_dedentSource {l : List Char} (h : l ∈ dedentSource ls) :
    ∃ m ∈ ls, l = dedentLine (sharedIndent ls) m := by
  obtain ⟨m, hm, rfl⟩ := List.mem_map.1 h
  exact ⟨m, (trimBlankEnds_sublist ls).subset hm, rfl⟩

/-- A non-blank source line keeps its place among the lines kept. -/
theorem mem_trimBlankEnds {m : List Char} (hm : m ∈ ls) (hmb : isBlank m = false) :
    m ∈ trimBlankEnds ls := by
  have hfilter : m ∈ ls.filter (fun l => !isBlank l) := List.mem_filter.2 ⟨hm, by simp [hmb]⟩
  rw [← filter_trimBlankEnds] at hfilter
  exact (List.mem_filter.1 hfilter).1

/-- A dedented line is blank only when it is empty. -/
theorem eq_nil_of_isBlank_dedentSource {l : List Char} (h : l ∈ dedentSource ls)
    (hb : isBlank l = true) : l = [] := by
  obtain ⟨m, hm, rfl⟩ := mem_dedentSource ls h
  cases hmb : isBlank m
  · rw [isBlank_dedentLine (sharedIndent_isIndent ls) (sharedIndent_starts hm hmb) hmb] at hb
    cases hb
  · exact dedentLine_of_isBlank _ hmb

/-- No dedented line ends in indentation. -/
theorem getLast?_of_mem_dedentSource {l : List Char} (h : l ∈ dedentSource ls) :
    ∀ c ∈ l.getLast?, isIndent c = false := by
  obtain ⟨m, -, rfl⟩ := mem_dedentSource ls h
  exact getLast?_dedentLine _ _

/-- Dedenting adds no newline to a line. -/
theorem newline_not_mem_of_mem_dedentSource (hls : ∀ m ∈ ls, '\n' ∉ m) {l : List Char}
    (h : l ∈ dedentSource ls) : '\n' ∉ l := by
  obtain ⟨m, hm, rfl⟩ := mem_dedentSource ls h
  exact fun hn => hls m hm ((dedentLine_sublist _ _).subset hn)

/-- The first dedented line is not blank. -/
theorem head?_dedentSource : ∀ l ∈ (dedentSource ls).head?, isBlank l = false := by
  intro l hl
  rw [dedentSource, List.head?_map] at hl
  obtain ⟨m, hm, rfl⟩ := Option.map_eq_some_iff.1 hl
  have hmb := head?_trimBlankEnds ls m hm
  have hmem : m ∈ ls := (trimBlankEnds_sublist ls).subset (List.mem_of_mem_head? hm)
  exact isBlank_dedentLine (sharedIndent_isIndent ls) (sharedIndent_starts hmem hmb) hmb

/-- The last dedented line is not blank. -/
theorem getLast?_dedentSource : ∀ l ∈ (dedentSource ls).getLast?, isBlank l = false := by
  intro l hl
  rw [dedentSource, List.getLast?_map] at hl
  obtain ⟨m, hm, rfl⟩ := Option.map_eq_some_iff.1 hl
  have hmb := getLast?_trimBlankEnds ls m hm
  have hmem : m ∈ ls := (trimBlankEnds_sublist ls).subset (List.mem_of_mem_getLast? hm)
  exact isBlank_dedentLine (sharedIndent_isIndent ls) (sharedIndent_starts hmem hmb) hmb

/-- The non-blank dedented lines are the non-blank source lines, each without the shared
indentation and without its trailing spaces and tabs. -/
theorem filter_dedentSource :
    (dedentSource ls).filter (fun l => !isBlank l) =
      (ls.filter fun l => !isBlank l).map
        fun l => (l.drop (sharedIndent ls).length).rdropWhile isIndent := by
  -- dedenting keeps a line blank or not blank
  have hsame : ∀ m ∈ trimBlankEnds ls,
      ((fun l => !isBlank l) ∘ dedentLine (sharedIndent ls)) m = !isBlank m := by
    intro m hm
    have hmem := (trimBlankEnds_sublist ls).subset hm
    cases hmb : isBlank m
    · simp [isBlank_dedentLine (sharedIndent_isIndent ls) (sharedIndent_starts hmem hmb) hmb]
    · simp [dedentLine_of_isBlank _ hmb, isBlank]
  rw [dedentSource, List.filter_map, List.filter_congr hsame, filter_trimBlankEnds]
  refine List.map_congr_left fun m hm => ?_
  exact dedentLine_of_not_isBlank _ (by simpa using (List.mem_filter.1 hm).2)

/-- A body has no lines left exactly when all its source lines are blank. -/
theorem dedentSource_eq_nil_iff : dedentSource ls = [] ↔ ∀ l ∈ ls, isBlank l = true := by
  constructor
  · intro h l hl
    have hf := filter_dedentSource ls
    rw [h, List.filter_nil, eq_comm, List.map_eq_nil_iff, List.filter_eq_nil_iff] at hf
    simpa using hf l hl
  · intro h
    rw [dedentSource, List.map_eq_nil_iff]
    -- the first line kept would not be blank
    cases ht : trimBlankEnds ls with
    | nil => rfl
    | cons m ms =>
      have hm := head?_trimBlankEnds ls m (by rw [ht]; rfl)
      have hmb := h m ((trimBlankEnds_sublist ls).subset (by rw [ht]; exact List.mem_cons_self))
      rw [hm] at hmb
      cases hmb

/-- No space or tab starts every non-blank dedented line. -/
theorem exists_not_indented (hne : dedentSource ls ≠ []) {c : Char} (hc : isIndent c = true) :
    ∃ l ∈ dedentSource ls, isBlank l = false ∧ l.head? ≠ some c := by
  by_contra hall
  push Not at hall
  -- otherwise the shared indentation and `c` start every non-blank source line
  have hlonger : sharedIndent ls ++ [c] <+: sharedIndent ls := by
    refine prefix_sharedIndent ?_ ?_ ?_
    · intro x hx
      rcases List.mem_append.1 hx with hx | hx
      · exact sharedIndent_isIndent ls x hx
      · rw [List.mem_singleton.1 hx]
        exact hc
    · intro m hm hmb
      have hP := sharedIndent_starts hm hmb
      have hmem : dedentLine (sharedIndent ls) m ∈ dedentSource ls :=
        List.mem_map_of_mem (mem_trimBlankEnds ls hm hmb)
      have hhead := hall _ hmem (isBlank_dedentLine (sharedIndent_isIndent ls) hP hmb)
      rw [head?_dedentLine (sharedIndent_isIndent ls) hP hmb] at hhead
      obtain ⟨rest, hrest⟩ := List.head?_eq_some_iff.1 hhead
      refine ⟨rest, ?_⟩
      rw [List.append_assoc, List.singleton_append, ← hrest]
      exact List.prefix_iff_eq_append.1 hP
    · by_contra hno
      push Not at hno
      exact hne ((dedentSource_eq_nil_iff ls).2 fun l hl => by simpa using hno l hl)
  have := hlonger.length_le
  simp at this

/-- Nothing is shared by the lines of a dedented body. -/
theorem sharedIndent_dedentSource : sharedIndent (dedentSource ls) = [] := by
  cases h : sharedIndent (dedentSource ls) with
  | nil => rfl
  | cons c rest =>
    exfalso
    have hc : isIndent c = true := sharedIndent_isIndent _ c (by rw [h]; exact List.mem_cons_self)
    have hne : dedentSource ls ≠ [] := by
      intro he
      rw [he] at h
      cases h
    obtain ⟨l, hl, hlb, hhead⟩ := exists_not_indented ls hne hc
    have hpre := sharedIndent_starts hl hlb
    rw [h] at hpre
    obtain ⟨t, rfl⟩ := hpre
    simp at hhead

/-- Dedenting the lines of a dedented body changes nothing. -/
theorem dedentSource_dedentSource : dedentSource (dedentSource ls) = dedentSource ls := by
  conv_lhs => rw [dedentSource]
  rw [trimBlankEnds_eq_self (head?_dedentSource ls) (getLast?_dedentSource ls),
    sharedIndent_dedentSource]
  conv_rhs => rw [← List.map_id (dedentSource ls)]
  exact List.map_congr_left fun l hl =>
    dedentLine_nil (eq_nil_of_isBlank_dedentSource ls hl) (getLast?_of_mem_dedentSource ls hl)

end Source

/-! ## Dedented texts -/

/-- The lines of a dedented text: its dedented lines, or one empty line when none is left. -/
theorem lines_dedent (s : String) :
    lines (dedent s).toList = if dedentLines s = [] then [[]] else dedentLines s := by
  rw [dedent, String.toList_ofList]
  split_ifs with h
  · rw [h]
    rfl
  · rw [dedentLines_eq] at h ⊢
    exact lines_unlines h
      (fun l hl => newline_not_mem_of_mem_dedentSource _ (fun _ hm => newline_not_mem_of_mem_lines hm) hl)

/-- A line of a dedented body is the one empty line of an empty body, or a dedented source
line. -/
theorem mem_lines_dedent {s : String} {l : List Char} (hl : l ∈ lines (dedent s).toList) :
    l = [] ∨ l ∈ dedentSource (lines (joinCrLf s.toList)) := by
  rw [lines_dedent] at hl
  split_ifs at hl
  · exact .inl (List.mem_singleton.1 hl)
  · rw [dedentLines_eq] at hl
    exact .inr hl

/-- A body dedents to nothing exactly when it has no dedented lines. -/
theorem dedent_eq_empty_iff (s : String) : dedent s = "" ↔ dedentLines s = [] := by
  constructor
  · intro h
    by_contra hne
    obtain ⟨l, rest, hl⟩ := List.exists_cons_of_ne_nil hne
    have hhead := head?_dedentSource (lines (joinCrLf s.toList)) l (by rw [← dedentLines_eq, hl]; rfl)
    -- the first line, not blank, starts the text, which is empty
    have hpre := prefix_unlines_cons l rest
    have hempty : unlines (dedentLines s) = [] := by
      have := congrArg String.toList h
      rwa [dedent, String.toList_ofList] at this
    rw [← hl, hempty] at hpre
    rw [List.prefix_nil.1 hpre] at hhead
    cases hhead
  · intro h
    rw [dedent, h]
    rfl

/-- A dedented text holding no `\r\n` has the same lines as the text it came from. -/
theorem dedentLines_dedent (s : String) (hno : ¬ ['\r', '\n'] <:+: (dedent s).toList) :
    dedentLines (dedent s) = dedentLines s := by
  rw [dedentLines_eq (dedent s), joinCrLf_eq_self hno, lines_dedent]
  split_ifs with h
  · rw [h]
    rfl
  · rw [dedentLines_eq, dedentSource_dedentSource]

/-- Dedenting a dedented text again leaves it as it is exactly when it holds no `\r\n`: folding
such a line end shortens the text, and dedenting never lengthens it. -/
theorem dedent_dedent_iff (s : String) :
    dedent (dedent s) = dedent s ↔ ¬ ['\r', '\n'] <:+: (dedent s).toList := by
  constructor
  · intro h hin
    have hlt := length_joinCrLf_lt hin
    have hle : (dedent (dedent s)).toList.length ≤ (joinCrLf (dedent s).toList).length := by
      rw [dedent, String.toList_ofList, dedentLines_eq, dedentSource]
      conv_rhs => rw [← unlines_lines (joinCrLf (dedent s).toList)]
      exact length_unlines_map_le (trimBlankEnds_sublist _) fun l _ => (dedentLine_sublist _ _).length_le
    rw [h] at hle
    omega
  · intro hno
    rw [dedent, dedentLines_dedent s hno]
    rfl

/-- Indenting puts four spaces before each non-empty line of the dedented text. -/
theorem indent_eq (s : String) :
    indent s = String.ofList (unlines ((lines (dedent s).toList).map fun l =>
      if l = [] then [] else "    ".toList ++ l)) := by
  rw [lines_dedent, indent]
  split_ifs with h
  · rw [h]
    rfl
  · congr 2
    refine List.map_congr_left fun l _ => ?_
    simp [List.isEmpty_iff]

/-- The laws of dedenting a body `s`, whose source lines are the lines of `s` once each `\r\n`
is folded to `\n`. -/
structure DedentLaws (s : String) : Prop where
  /-- The body is empty, or its first and last lines are not blank. -/
  ends : dedent s = "" ∨ ((∀ l ∈ (lines (dedent s).toList).head?, isBlank l = false) ∧
    ∀ l ∈ (lines (dedent s).toList).getLast?, isBlank l = false)
  /-- Its blank lines are empty. -/
  blank_empty : ∀ l ∈ lines (dedent s).toList, isBlank l = true → l = []
  /-- None of its lines ends in a space or a tab. -/
  no_trailing : ∀ l ∈ lines (dedent s).toList, ∀ c ∈ l.getLast?, isIndent c = false
  /-- Its non-blank lines are the non-blank source lines in order, each without the longest run
  of spaces and tabs that starts every non-blank source line, and without its trailing spaces
  and tabs. -/
  kept : ∃ P : List Char, (∀ c ∈ P, isIndent c = true) ∧
    (∀ l ∈ lines (joinCrLf s.toList), isBlank l = false → P <+: l) ∧
    ((∃ l ∈ lines (joinCrLf s.toList), isBlank l = false) →
      ∀ Q : List Char, (∀ c ∈ Q, isIndent c = true) →
        (∀ l ∈ lines (joinCrLf s.toList), isBlank l = false → Q <+: l) → Q <+: P) ∧
    (lines (dedent s).toList).filter (fun l => !isBlank l) =
      ((lines (joinCrLf s.toList)).filter fun l => !isBlank l).map
        fun l => (l.drop P.length).rdropWhile isIndent
  /-- No space or tab starts all its non-blank lines. -/
  unshared : dedent s ≠ "" → ∀ c : Char, isIndent c = true →
    ∃ l ∈ lines (dedent s).toList, isBlank l = false ∧ l.head? ≠ some c
  /-- Dedenting it again leaves it as it is exactly when it holds no `\r\n`. -/
  again : dedent (dedent s) = dedent s ↔ ¬ ['\r', '\n'] <:+: (dedent s).toList
  /-- Indenting is dedenting and putting four spaces before each non-empty line. -/
  indented : indent s = String.ofList (unlines ((lines (dedent s).toList).map fun l =>
    if l = [] then [] else "    ".toList ++ l))

/-- Every body dedents to non-blank ends, empty blank lines and no trailing spaces or tabs,
keeping its non-blank lines without their shared indentation; and dedents again unchanged
exactly when it holds no `\r\n`. -/
theorem dedent_laws (s : String) : DedentLaws s where
  ends := by
    by_cases h : dedentLines s = []
    · exact .inl ((dedent_eq_empty_iff s).2 h)
    · rw [lines_dedent, if_neg h, dedentLines_eq]
      exact .inr ⟨head?_dedentSource _, getLast?_dedentSource _⟩
  blank_empty l hl hb := by
    rcases mem_lines_dedent hl with rfl | hl
    · rfl
    · exact eq_nil_of_isBlank_dedentSource _ hl hb
  no_trailing l hl := by
    rcases mem_lines_dedent hl with rfl | hl
    · simp
    · exact getLast?_of_mem_dedentSource _ hl
  kept := by
    refine ⟨sharedIndent (lines (joinCrLf s.toList)), sharedIndent_isIndent _,
      fun l hl hb => sharedIndent_starts hl hb, fun hex Q hQ hpre => prefix_sharedIndent hQ hpre hex, ?_⟩
    rw [lines_dedent]
    split_ifs with h
    · rw [dedentLines_eq, dedentSource_eq_nil_iff] at h
      have hnone : (lines (joinCrLf s.toList)).filter (fun l => !isBlank l) = [] :=
        List.filter_eq_nil_iff.2 fun l hl => by simpa using h l hl
      rw [hnone]
      rfl
    · rw [dedentLines_eq, filter_dedentSource]
  unshared hne c hc := by
    have h : dedentLines s ≠ [] := fun h => hne ((dedent_eq_empty_iff s).2 h)
    rw [lines_dedent, if_neg h]
    rw [dedentLines_eq] at h ⊢
    exact exists_not_indented _ h hc
  again := dedent_dedent_iff s
  indented := indent_eq s

/-- A carriage return that ends a source line comes out before a newline, and a second
`dedent` folds the two. -/
theorem stray_return_dedented_again : dedent (dedent "a\r\r\nb") ≠ dedent "a\r\r\nb" := by
  decide +kernel

end InlineC.Text.Layout
