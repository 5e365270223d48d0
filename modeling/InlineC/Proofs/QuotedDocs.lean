import Mathlib
import InlineC.Lang.Preprocess
import InlineC.Lang.Literal
import InlineC.Text.CLiteral

/-!
# Quoted docs under C translation

A doc goes into the method table as a C string literal: `quote` puts a backslash before `\`
and `"`, writes newline, tab and carriage return as `\n`, `\t` and `\r`, and keeps every other
character. Escaping loses nothing (`escape_injective`). A C11 compiler reads the literal in two
phases, though: trigraphs are replaced first, and escapes decoded after. Escaping does not
guard against the first phase. For every doc with no trigraph in it, the quoted doc is one
string literal token in every dialect, and its value is the doc's UTF-8 octets
(`quoted_doc_value`); the trigraph `??!` of a doc is read as `|` (`trigraph_in_doc_replaced`).

The proof follows the literal through the lexer: trigraph replacement leaves the escaped text
as it is (`sourceChars_quoted`), no line is joined (`splice_eq_self`), the literal's body runs
to the closing quote (`quotedBody_escaped`), and its escapes decode to the doc's octets
(`literalValues_escaped`). What a compiled library hands back is the literal read as a C
string, which ends at the first zero octet; `MethodTables` follows the doc that far.
-/

namespace InlineC.Lang

open Text.CLiteral (escapeChar escapeList quote unescape unescape_escape)

/-! ## Escaping -/

/-- Escaping a text for a C string literal loses nothing. -/
theorem escape_injective : Function.Injective Text.CLiteral.escape := by
  intro s t h
  have hl : escapeList s.toList = escapeList t.toList := by
    simpa [Text.CLiteral.escape] using congrArg String.toList h
  have hu := congrArg unescape hl
  rw [unescape_escape, unescape_escape] at hu
  exact String.toList_inj.1 hu

/-- Escaping a list of characters escapes its head, then its tail. -/
theorem escapeList_cons (c : Char) (cs : List Char) :
    escapeList (c :: cs) = escapeChar c ++ escapeList cs :=
  List.flatMap_cons

/-- A character is written as itself when it is none of the five that are escaped, else as a
backslash and a character that no trigraph, line end or quote handling looks at; the literal
reads that pair back as the character's octet. -/
theorem escapeChar_cases (c : Char) :
    (escapeChar c = [c] ∧ c ≠ '\\' ∧ c ≠ '"' ∧ c ≠ '\n' ∧ c ≠ '\r') ∨
      ∃ x, escapeChar c = ['\\', x] ∧ x ≠ '\n' ∧ x ≠ '\r' ∧ x ≠ '?' ∧
        ∀ rest, escape false ('\\' :: x :: rest) =
          some ((Utf8.encodeChar c).map UInt8.toNat, true, [], rest) := by
  by_cases h1 : c = '\\'
  · subst h1
    exact .inr ⟨'\\', rfl, by decide, by decide, by decide, fun rest => rfl⟩
  by_cases h2 : c = '"'
  · subst h2
    exact .inr ⟨'"', rfl, by decide, by decide, by decide, fun rest => rfl⟩
  by_cases h3 : c = '\n'
  · subst h3
    exact .inr ⟨'n', rfl, by decide, by decide, by decide, fun rest => rfl⟩
  by_cases h4 : c = '\t'
  · subst h4
    exact .inr ⟨'t', rfl, by decide, by decide, by decide, fun rest => rfl⟩
  by_cases h5 : c = '\r'
  · subst h5
    exact .inr ⟨'r', rfl, by decide, by decide, by decide, fun rest => rfl⟩
  refine .inl ⟨?_, h1, h2, h3, h5⟩
  unfold escapeChar
  split <;> simp_all

/-! ## Trigraphs -/

/-- No `??` in the text is followed by a character that makes it a trigraph. -/
def TrigraphFree (cs : List Char) : Prop :=
  ∀ c, (trigraphOf c).isSome → ¬ List.IsInfix ['?', '?', c] cs

/-- The tail of a text without trigraphs has none. -/
theorem TrigraphFree.tail {a : Char} {cs : List Char} (h : TrigraphFree (a :: cs)) :
    TrigraphFree cs :=
  fun c hc hin => h c hc (hin.trans (List.suffix_cons a cs).isInfix)

/-- After two question marks of a trigraph-free text comes no trigraph's character. -/
theorem TrigraphFree.third {c : Char} {rest : List Char}
    (h : TrigraphFree ('?' :: '?' :: c :: rest)) : trigraphOf c = none := by
  cases hc : trigraphOf c with
  | none => rfl
  | some r => exact absurd ⟨[], rest, rfl⟩ (h c (by simp [hc]))

/-- A text without a question mark has no trigraph. -/
theorem trigraphFree_of_not_mem {cs : List Char} (h : '?' ∉ cs) : TrigraphFree cs :=
  fun _ _ hin => h (hin.subset (by simp))

/-- A character other than a line end, a carriage return or a question mark stands for
itself. -/
theorem sourceChars_plain {tri : Bool} {line : Nat} {c : Char} (h1 : c ≠ '\r') (h2 : c ≠ '\n')
    (h3 : c ≠ '?') (l : List Char) :
    sourceChars tri line (c :: l) = ⟨c, line, false⟩ :: sourceChars tri line l := by
  rw [sourceChars] <;> simp_all

/-- A question mark stands for itself unless a trigraph starts at it. -/
theorem sourceChars_question {tri : Bool} {line : Nat} {l : List Char}
    (h : ∀ c rest, l = '?' :: c :: rest → trigraphOf c = none) :
    sourceChars tri line ('?' :: l) = ⟨'?', line, false⟩ :: sourceChars tri line l := by
  rcases l with _ | ⟨b, _ | ⟨c, rest⟩⟩
  · simp [sourceChars]
  · simp [sourceChars]
  · by_cases hb : b = '?'
    · subst hb
      simp [sourceChars, h c rest rfl]
    · simp [sourceChars, hb]

/-- In an escaped text before its closing quote, two question marks are followed by no
trigraph's character when the doc has no trigraph: an escaped character starts with a
backslash, and the closing quote names no trigraph. -/
theorem escapeList_question {cs : List Char} (h : TrigraphFree ('?' :: cs)) {c : Char}
    {rest : List Char} (he : escapeList cs ++ ['"'] = '?' :: c :: rest) : trigraphOf c = none := by
  cases cs with
  | nil => simp [escapeList] at he
  | cons b cs =>
    rcases escapeChar_cases b with ⟨hb, -⟩ | ⟨x, hb, -⟩
    · rw [escapeList_cons, hb, List.singleton_append, List.cons_append] at he
      obtain ⟨rfl, hc⟩ := List.cons.inj he
      -- the character after the second question mark
      cases cs with
      | nil =>
        obtain ⟨rfl, -⟩ := List.cons.inj hc
        rfl
      | cons d cs =>
        rcases escapeChar_cases d with ⟨hd, -⟩ | ⟨y, hd, -⟩
        · rw [escapeList_cons, hd, List.singleton_append, List.cons_append] at hc
          obtain ⟨rfl, -⟩ := List.cons.inj hc
          exact h.third
        · rw [escapeList_cons, hd, List.cons_append] at hc
          obtain ⟨rfl, -⟩ := List.cons.inj hc
          rfl
    · rw [escapeList_cons, hb, List.cons_append] at he
      simp at he

/-- Trigraph replacement leaves an escaped trigraph-free doc and its closing quote as they
are, in every dialect. -/
theorem sourceChars_quoted {tri : Bool} {line : Nat} {cs : List Char} (h : TrigraphFree cs) :
    sourceChars tri line (escapeList cs ++ ['"']) =
      (escapeList cs ++ ['"']).map (⟨·, line, false⟩) := by
  induction cs with
  | nil => simp [escapeList, sourceChars_plain, sourceChars]
  | cons a cs ih =>
    rw [escapeList_cons, List.append_assoc]
    rcases escapeChar_cases a with ⟨ha, -, -, h3, h5⟩ | ⟨x, ha, hx1, hx2, hx3, -⟩
    · rw [ha, List.singleton_append]
      by_cases hq : a = '?'
      · subst hq
        rw [sourceChars_question (fun _ _ he => escapeList_question h he), ih h.tail]
        simp
      · rw [sourceChars_plain h5 h3 hq, ih h.tail]
        simp
    · rw [ha, List.cons_append, List.cons_append, List.nil_append,
        sourceChars_plain (by decide) (by decide) (by decide), sourceChars_plain hx2 hx1 hx3,
        ih h.tail]
      simp

/-- An escaped doc and its closing quote hold no line end. -/
theorem newline_not_mem_escaped (cs : List Char) : '\n' ∉ escapeList cs ++ ['"'] := by
  simp only [List.mem_append, List.mem_singleton, escapeList, List.mem_flatMap, not_or]
  refine ⟨?_, by decide⟩
  rintro ⟨a, -, ha⟩
  rcases escapeChar_cases a with ⟨he, -, -, h3, -⟩ | ⟨x, he, hx, -⟩
  · rw [he, List.mem_singleton] at ha
    exact h3 ha.symm
  · simp only [he, List.mem_cons, List.not_mem_nil, or_false] at ha
    rcases ha with h | h
    · exact absurd h (by decide)
    · exact hx h.symm

/-- Without a line end there is no line to join to. -/
theorem afterJoin_eq_none {l : List SrcChar} (h : ∀ x ∈ l, x.c ≠ '\n') : afterJoin l = none := by
  induction l with
  | nil => rfl
  | cons x rest ih =>
    rw [afterJoin, if_neg (by simpa using h x (by simp))]
    split
    · exact ih (fun y hy => h y (by simp [hy]))
    · rfl

/-- Without a line end, joining lines changes nothing. -/
theorem splice_eq_self {l : List SrcChar} (h : ∀ x ∈ l, x.c ≠ '\n') (fuel : Nat) :
    splice fuel l = l := by
  induction l generalizing fuel with
  | nil => cases fuel <;> rfl
  | cons a rest ih =>
    cases fuel with
    | zero => rfl
    | succ fuel =>
      have hrest : ∀ x ∈ rest, x.c ≠ '\n' := fun y hy => h y (by simp [hy])
      simp [splice, afterJoin_eq_none hrest, ih hrest]

/-! ## The literal token -/

/-- The body of a string literal holding an escaped text runs to the quote after it: every
backslash of the text is followed by its escaped character, and no other character of it is
a quote or a line end. -/
theorem quotedBody_escaped (line : Nat) (cs : List Char) (rest : List SrcChar) :
    quotedBody '"' ((escapeList cs).map (⟨·, line, false⟩) ++ ⟨'"', line, false⟩ :: rest) =
      some (escapeList cs ++ ['"'], rest) := by
  induction cs with
  | nil =>
    rw [escapeList, List.flatMap_nil, List.map_nil, List.nil_append, quotedBody.eq_def]
    simp
  | cons a cs ih =>
    rw [escapeList_cons, List.map_append, List.append_assoc]
    rcases escapeChar_cases a with ⟨ha, h1, h2, h3, -⟩ | ⟨x, ha, hx, -⟩
    · rw [ha, List.map_singleton, List.singleton_append, quotedBody.eq_def]
      simp [h1, h2, h3, ih]
    · rw [ha, List.map_cons, List.map_singleton, List.cons_append, List.singleton_append,
        quotedBody.eq_def]
      simp [hx, ih]

/-- Noting the trigraphs among characters none of which was written as one changes
nothing. -/
theorem noteTrigraphs_eq_self (st : LexState) {cs : List SrcChar}
    (h : ∀ x ∈ cs, x.trigraph = false) : st.noteTrigraphs cs = st := by
  induction cs generalizing st with
  | nil => rfl
  | cons x rest ih =>
    simp only [LexState.noteTrigraphs, List.foldl_cons, h x (by simp)] at ih ⊢
    exact ih st (fun y hy => h y (by simp [hy]))

/-- Lexing no characters leaves the state as it was. -/
theorem lexChars_nil (m : LexMode) (fuel : Nat) (st : LexState) : lexChars m fuel [] st = st := by
  cases fuel <;> rfl

/-- Lexing a quoted escaped text gives one string literal token, its spelling the quoted
text. -/
theorem lexChars_quoted (m : LexMode) (fuel line : Nat) (cs : List Char) (st : LexState) :
    lexChars m (fuel + 1) (('"' :: (escapeList cs ++ ['"'])).map (⟨·, line, false⟩)) st =
      st.push .string (String.ofList ('"' :: (escapeList cs ++ ['"']))) line := by
  have hbody := quotedBody_escaped line cs []
  have hstart : isIdentStart m.dollars '"' = false := by
    cases m.dollars <;> decide
  -- the characters of the literal were none of them written as a trigraph
  have hnotes (n : Nat) : st.noteTrigraphs
      ((List.map (fun c => (⟨c, line, false⟩ : SrcChar)) (escapeList cs) ++
        [(⟨'"', line, false⟩ : SrcChar)]).take n) = st := by
    refine noteTrigraphs_eq_self st fun x hx => ?_
    have hx' := List.mem_of_mem_take hx
    simp only [List.mem_append, List.mem_map, List.mem_singleton] at hx'
    rcases hx' with ⟨a, -, rfl⟩ | rfl <;> rfl
  rw [List.map_cons, List.map_append, List.map_singleton, lexChars]
  simp [hbody, hstart, show isBlank '"' = false by decide, hnotes, lexChars_nil]

/-- A nonempty text is quoted between two quotes. -/
theorem quote_toList {s : String} (hne : s ≠ "") :
    (quote s).toList = '"' :: (escapeList s.toList ++ ['"']) := by
  have hempty : s.isEmpty = false := by
    cases he : s.isEmpty
    · rfl
    · exact absurd (String.isEmpty_iff.1 he) hne
  simp [quote, hempty, Text.CLiteral.escape]

/-- A nonempty quoted doc with no trigraph in it is, in every dialect, one string literal
token, spelled as written. -/
theorem tokenize_quote {s : String} (hne : s ≠ "") (h : TrigraphFree s.toList) (m : LexMode) :
    (tokenize m 1 (quote s)).1 = #[{ kind := .string, text := quote s, line := 1, bol := true }] := by
  have hraw : sourceChars m.trigraphs 1 (quote s).toList =
      ('"' :: (escapeList s.toList ++ ['"'])).map fun c => (⟨c, 1, false⟩ : SrcChar) := by
    rw [quote_toList hne, sourceChars_plain (by decide) (by decide) (by decide),
      sourceChars_quoted h, List.map_cons]
  have hlines : ∀ x ∈ ('"' :: (escapeList s.toList ++ ['"'])).map fun c => (⟨c, 1, false⟩ : SrcChar),
      x.c ≠ '\n' := by
    intro x hx
    simp only [List.mem_map] at hx
    obtain ⟨c, hc, rfl⟩ := hx
    rcases List.mem_cons.1 hc with rfl | hc
    · decide
    · exact fun hn => newline_not_mem_escaped s.toList (hn ▸ hc)
  unfold tokenize
  dsimp only
  rw [hraw, splice_eq_self hlines, List.length_map, lexChars_quoted, ← quote_toList hne,
    String.ofList_toList]
  rfl

/-- A character other than a backslash is read as its own octets. -/
theorem escape_plain {c : Char} (h : c ≠ '\\') (rest : List Char) :
    escape false (c :: rest) = some ((Utf8.encodeChar c).map UInt8.toNat, false, [], rest) := by
  rw [escape] <;> simp_all

/-- The escapes of an escaped text decode to the text's UTF-8 octets, with no diagnostic. -/
theorem literalValues_escaped (cs : List Char) (fuel : Nat) (h : (escapeList cs).length < fuel) :
    literalValues false 256 fuel (escapeList cs) = some ((Utf8.encode cs).map UInt8.toNat, []) := by
  induction cs generalizing fuel with
  | nil => cases fuel <;> rfl
  | cons a cs ih =>
    obtain ⟨f, rfl⟩ : ∃ f, fuel = f + 1 := ⟨fuel - 1, by omega⟩
    rw [escapeList_cons] at h ⊢
    rcases escapeChar_cases a with ⟨ha, h1, -⟩ | ⟨x, ha, -, -, -, hesc⟩
    · rw [ha] at h ⊢
      have hrest := ih f (by simp at h; omega)
      simp [literalValues, escape_plain h1, hrest, Utf8.encode]
    · rw [ha] at h ⊢
      have hrest := ih f (by simp at h; omega)
      -- an escape's value is an octet, so it is kept as it is
      have hoctet : ¬ ∃ b ∈ Utf8.encodeChar a, 256 ≤ b.toNat := by
        rintro ⟨b, -, hb⟩
        have := b.toNat_lt
        omega
      simp [literalValues, hesc, hrest, Utf8.encode, hoctet]

/-- Read as a string literal, a quoted nonempty text is narrow and its value is the text's
UTF-8 octets, with no diagnostic. -/
theorem stringLiteral_quote {s : String} (hne : s ≠ "") (t : Target) :
    stringLiteral t [quote s] = .ok (.narrow, (Utf8.ofString s).map UInt8.toNat, []) := by
  have henc : encodingOf (quote s) = (.narrow, '"' :: (escapeList s.toList ++ ['"'])) := by
    simp [encodingOf, quote_toList hne]
  have hvals := literalValues_escaped s.toList ((escapeList s.toList).length + 1) (by omega)
  simp [stringLiteral, henc, hvals, Utf8.ofString]
  rfl

/-! ## What a C11 compiler reads from a quoted doc -/

/-- A nonempty doc with no trigraph in it, quoted, is one string literal token in every
dialect, and the literal's value is the doc's UTF-8 octets. -/
theorem quoted_doc_value {s : String} (hne : s ≠ "") (htri : TrigraphFree s.toList)
    (m : LexMode) (t : Target) :
    (tokenize m 1 (quote s)).1 = #[{ kind := .string, text := quote s, line := 1, bol := true }] ∧
      stringLiteral t [quote s] = .ok (.narrow, (Utf8.ofString s).map UInt8.toNat, []) :=
  ⟨tokenize_quote hne htri m, stringLiteral_quote hne t⟩

/-- The trigraph `??!` of a doc is read as `|`: in the dialect of a compilation with no flags,
the quoted doc `what??! really` is the literal of `what| really`, whose value is not the doc's
octets. -/
theorem trigraph_in_doc_replaced :
    (tokenize (Options.ofFlags []).lexMode 1 (quote "what??! really")).1 =
        #[{ kind := .string, text := quote "what| really", line := 1, bol := true }] ∧
      stringLiteral {} [quote "what| really"] =
        .ok (.narrow, (Utf8.ofString "what| really").map UInt8.toNat, []) ∧
      Utf8.ofString "what| really" ≠ Utf8.ofString "what??! really" :=
  ⟨by cbv, stringLiteral_quote (by decide) {}, by decide⟩

end InlineC.Lang
