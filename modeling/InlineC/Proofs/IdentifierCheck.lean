import Mathlib
import InlineC.Identifier

/-!
# Checking identifiers

`Identifier.validate` decides whether a name can stand in generated C. It scans the name's
characters left to right, keeping the octet offset of each in the name's UTF-8 form, and stops
at the first fault: a character that is no ASCII letter, digit or underscore, or a digit at
offset 0. Only a name with no fault is looked up among the 44 keywords of C11.

What holds (`identifier_laws`), for every string:

* a name is accepted exactly when it has the shape `[A-Za-z_][A-Za-z0-9_]*` and is no keyword;
* the empty name is refused as empty;
* otherwise the first faulty character decides: a digit is reported as a leading digit, any
  other character with itself and its octet offset;
* a name of the right shape is refused only as a keyword.

Every character before the first fault is ASCII, so the octet offset reported equals the
character's index; a multi-octet character is always a fault.
-/

namespace InlineC.Identifier

/-! ## Character classes -/

/-- The digits are the characters from `0` to `9`. -/
theorem isDigit_iff (c : Char) : isDigit c = true ↔ 48 ≤ c.toNat ∧ c.toNat ≤ 57 := by
  simp only [isDigit, Bool.and_eq_true, decide_eq_true_eq, Char.le_def, UInt32.le_iff_toNat_le]
  rfl

/-- The identifier letters are the ASCII letters and the underscore. -/
theorem isLetter_iff (c : Char) : isLetter c = true ↔
    (97 ≤ c.toNat ∧ c.toNat ≤ 122 ∨ 65 ≤ c.toNat ∧ c.toNat ≤ 90) ∨ c.toNat = 95 := by
  simp only [isLetter, Bool.or_eq_true, Bool.and_eq_true, decide_eq_true_eq, beq_iff_eq,
    Char.le_def, UInt32.le_iff_toNat_le, ← Char.toNat_inj]
  rfl

/-- Letters (with the underscore) and digits are apart. -/
theorem isDigit_eq_false_of_isLetter {c : Char} (h : isLetter c = true) : isDigit c = false := by
  rw [isLetter_iff] at h
  rw [Bool.eq_false_iff, ne_eq, isDigit_iff]
  omega

/-- A digit is no identifier letter. -/
theorem isLetter_eq_false_of_isDigit {c : Char} (h : isDigit c = true) : isLetter c = false := by
  cases hl : isLetter c
  · rfl
  · rw [isDigit_eq_false_of_isLetter hl] at h
    cases h

/-- A digit is one octet long. -/
theorem encodeChar_length_of_isDigit {c : Char} (h : isDigit c = true) :
    (Utf8.encodeChar c).length = 1 := by
  have hlt : c.toNat < 0x80 := by
    rw [isDigit_iff] at h
    omega
  simp [Utf8.encodeChar, hlt]

/-- Every character is at least one octet long. -/
theorem encodeChar_length_pos (c : Char) : 0 < (Utf8.encodeChar c).length := by
  simp only [Utf8.encodeChar]
  split_ifs <;> simp

/-! ## The scan -/

/-- The octet offset of the `i`-th of the characters `cs` in their UTF-8 form. -/
def octetOffset (cs : List Char) (i : Nat) : Nat := (Utf8.encode (cs.take i)).length

/-- The octet offset of the first character is zero. -/
@[simp] theorem octetOffset_zero (cs : List Char) : octetOffset cs 0 = 0 := by
  simp [octetOffset, Utf8.encode]

/-- The octet offset of a later character counts the first character's octets. -/
@[simp] theorem octetOffset_cons_succ (c : Char) (cs : List Char) (i : Nat) :
    octetOffset (c :: cs) (i + 1) = (Utf8.encodeChar c).length + octetOffset cs i := by
  simp [octetOffset, Utf8.encode]

/-- A fault of the scan at a character at octet offset `offset`: it is no ASCII letter, digit
or underscore, or it is a digit at the very start. -/
def Faulty (offset : Nat) (c : Char) : Prop :=
  ¬ (isLetter c = true ∨ isDigit c = true) ∨ (isDigit c = true ∧ offset = 0)

/-- Past the start, only a character that is no letter, digit or underscore is a fault. -/
theorem faulty_iff_of_pos {offset : Nat} (h : 0 < offset) (c : Char) :
    Faulty offset c ↔ ¬ (isLetter c = true ∨ isDigit c = true) := by
  simp only [Faulty, Nat.pos_iff_ne_zero.1 h, and_false, or_false]

/-- At the start, exactly a letter or the underscore is no fault. -/
theorem not_faulty_zero_iff (c : Char) : ¬ Faulty 0 c ↔ isLetter c = true := by
  by_cases hl : isLetter c = true
  · simp [Faulty, hl, isDigit_eq_false_of_isLetter hl]
  · simp [Faulty, hl]

/-- None of the characters `cs`, the first at offset `o`, is faulty. -/
def Clean (o : Nat) (cs : List Char) : Prop :=
  ∀ j d, cs[j]? = some d → ¬ Faulty (o + octetOffset cs j) d

/-- Characters are clean when the first is and the rest are, one character further. -/
theorem clean_cons_iff (o : Nat) (c : Char) (cs : List Char) :
    Clean o (c :: cs) ↔ ¬ Faulty o c ∧ Clean (o + (Utf8.encodeChar c).length) cs := by
  constructor
  · intro h
    refine ⟨by simpa using h 0 c rfl, fun j d hd => ?_⟩
    have := h (j + 1) d (by simpa using hd)
    rwa [octetOffset_cons_succ, ← Nat.add_assoc] at this
  · rintro ⟨hc, hcs⟩ j d hd
    cases j with
    | zero =>
      obtain rfl : c = d := by simpa using hd
      simpa using hc
    | succ j =>
      rw [octetOffset_cons_succ, ← Nat.add_assoc]
      exact hcs j d (by simpa using hd)

/-- A character that is no fault passes the scan on to the next, one character further. -/
theorem firstFault_cons_of_not_faulty (name : String) {o : Nat} {c : Char} (h : ¬ Faulty o c)
    (cs : List Char) :
    firstFault name o (c :: cs) = firstFault name (o + (Utf8.encodeChar c).length) cs := by
  unfold Faulty at h
  rw [firstFault]
  split_ifs with hl hd ho
  · rfl
  · exact absurd ⟨hd, ho⟩ (not_or.1 h).2
  · rw [encodeChar_length_of_isDigit hd]
  · exact ((not_or.1 h).1 (by simp [hl, hd])).elim

/-- A faulty character ends the scan: a digit as a leading digit, any other with itself and its
offset. -/
theorem firstFault_cons_of_faulty (name : String) {o : Nat} {c : Char} (h : Faulty o c)
    (cs : List Char) :
    firstFault name o (c :: cs) =
      some (if isDigit c then .leadingDigit name else .badChar c o name) := by
  rcases h with hbad | ⟨hd, rfl⟩
  · obtain ⟨hl, hd⟩ := not_or.1 hbad
    simp [firstFault, hl, hd]
  · simp [firstFault, isLetter_eq_false_of_isDigit hd, hd]

/-- The scan finds nothing exactly when no character is faulty. -/
theorem firstFault_eq_none_iff (name : String) :
    ∀ (o : Nat) (cs : List Char), firstFault name o cs = none ↔ Clean o cs
  | _, [] => by simp [firstFault, Clean]
  | o, c :: cs => by
    rw [clean_cons_iff]
    by_cases hc : Faulty o c
    · simp [firstFault_cons_of_faulty name hc, hc]
    · rw [firstFault_cons_of_not_faulty name hc, firstFault_eq_none_iff name]
      simp [hc]

/-- The `i`-th of the characters `cs`, the first at offset `o`, is `c`, the first faulty one. -/
structure FirstFaultIn (o : Nat) (cs : List Char) (i : Nat) (c : Char) : Prop where
  char : cs[i]? = some c
  faulty : Faulty (o + octetOffset cs i) c
  before : ∀ j < i, ∀ d, cs[j]? = some d → ¬ Faulty (o + octetOffset cs j) d

/-- The scan reports the first faulty character. -/
theorem firstFault_of_firstFaultIn (name : String) :
    ∀ {o : Nat} {cs : List Char} {i : Nat} {c : Char}, FirstFaultIn o cs i c →
      firstFault name o cs =
        some (if isDigit c then .leadingDigit name else .badChar c (o + octetOffset cs i) name)
  | _, [], _, _, h => by simpa using h.char
  | o, c' :: cs, 0, c, h => by
    obtain rfl : c' = c := by simpa using h.char
    simpa using firstFault_cons_of_faulty name (by simpa using h.faulty) cs
  | o, c' :: cs, i + 1, c, h => by
    -- the first character is clean, so the scan goes on one character further
    have hc' : ¬ Faulty o c' := by simpa using h.before 0 (by omega) c' rfl
    have hrest : FirstFaultIn (o + (Utf8.encodeChar c').length) cs i c := by
      refine ⟨by simpa using h.char, ?_, fun j hj d hd => ?_⟩
      · simpa [Nat.add_assoc] using h.faulty
      · simpa [Nat.add_assoc] using h.before (j + 1) (by omega) d (by simpa using hd)
    rw [firstFault_cons_of_not_faulty name hc', firstFault_of_firstFaultIn name hrest,
      octetOffset_cons_succ, Nat.add_assoc]

/-! ## Names -/

/-- The shape of a C identifier: a letter or underscore, then letters, digits and
underscores. -/
def Shaped (name : String) : Prop :=
  ∃ c cs, name.toList = c :: cs ∧ isLetter c = true ∧
    ∀ d ∈ cs, isLetter d = true ∨ isDigit d = true

/-- Characters past the first are at a positive offset, where the shape and the scan agree. -/
theorem clean_iff_of_pos {o : Nat} (ho : 0 < o) (cs : List Char) :
    Clean o cs ↔ ∀ d ∈ cs, isLetter d = true ∨ isDigit d = true := by
  rw [Clean]
  constructor
  · intro h d hd
    obtain ⟨j, hj⟩ := List.getElem?_of_mem hd
    have := h j d hj
    rw [faulty_iff_of_pos (by omega)] at this
    exact not_not.1 this
  · intro h j d hd
    rw [faulty_iff_of_pos (by omega)]
    exact not_not.2 (h d (List.mem_of_getElem? hd))

/-- A name has the shape of an identifier exactly when it is not empty and the scan finds no
fault in it. -/
theorem shaped_iff (name : String) : Shaped name ↔ name.toList ≠ [] ∧ Clean 0 name.toList := by
  unfold Shaped
  cases name.toList with
  | nil => simp
  | cons c cs =>
    rw [clean_cons_iff, not_faulty_zero_iff, Nat.zero_add,
      clean_iff_of_pos (encodeChar_length_pos c)]
    simp

/-- A name whose scan finds a fault is refused with it. -/
theorem validate_of_firstFault_some {name : String} {e : IdentifierError}
    (h : firstFault name 0 name.toList = some e) : validate name = .error e := by
  have hne : name.isEmpty = false := by
    rw [Bool.eq_false_iff, ne_eq, String.isEmpty_iff]
    rintro rfl
    simp [firstFault] at h
  simp only [validate, hne, Bool.false_eq_true, if_false, h]

/-- A name that is not empty and whose scan finds no fault is refused only as a keyword. -/
theorem validate_of_firstFault_none {name : String} (hne : name.toList ≠ [])
    (h : firstFault name 0 name.toList = none) :
    validate name = if name ∈ keywords then .error (.keyword name) else .ok () := by
  have hne' : name.isEmpty = false := by
    rw [Bool.eq_false_iff, ne_eq, String.isEmpty_iff, ← String.toList_eq_nil_iff]
    exact hne
  simp [validate, hne', h, isKeyword]

/-- The `i`-th character of `name`, `c`, is the first at which the scan finds a fault. -/
def FirstFault (name : String) (i : Nat) (c : Char) : Prop := FirstFaultIn 0 name.toList i c

/-- The laws of checking identifiers, for every name. -/
structure IdentifierLaws : Prop where
  /-- A name is accepted exactly when it has the shape of an identifier and is no keyword. -/
  accepted : ∀ name, validate name = .ok () ↔ Shaped name ∧ name ∉ keywords
  /-- The empty name is refused as empty. -/
  empty : validate "" = .error .empty
  /-- The first faulty character decides: a digit is a leading digit, any other character is
  reported with its octet offset. -/
  fault : ∀ name i c, FirstFault name i c →
    validate name =
      .error (if isDigit c then .leadingDigit name else .badChar c (octetOffset name.toList i) name)
  /-- A name of the shape of an identifier is refused only as a keyword. -/
  keyword : ∀ name, Shaped name → name ∈ keywords → validate name = .error (.keyword name)

/-- Checking a name accepts exactly the identifiers of C that are no keyword, and refuses every
other name with its first fault: empty, then the first faulty character, then a keyword. -/
theorem identifier_laws : IdentifierLaws where
  accepted name := by
    rw [shaped_iff]
    by_cases hne : name.toList = []
    · rw [String.toList_eq_nil_iff.1 hne]
      simp [validate]
    · cases h : firstFault name 0 name.toList with
      | some e =>
        have hfault : ¬ Clean 0 name.toList := by
          rw [← firstFault_eq_none_iff, h]
          simp
        simp [validate_of_firstFault_some h, hfault]
      | none =>
        have hclean : Clean 0 name.toList := (firstFault_eq_none_iff name 0 _).1 h
        rw [validate_of_firstFault_none hne h]
        by_cases hk : name ∈ keywords <;> simp [hne, hclean, hk]
  empty := rfl
  fault name i c h := by
    rw [validate_of_firstFault_some (firstFault_of_firstFaultIn name h), Nat.zero_add]
  keyword name h hk := by
    obtain ⟨hne, hclean⟩ := (shaped_iff name).1 h
    rw [validate_of_firstFault_none hne ((firstFault_eq_none_iff name 0 _).2 hclean), if_pos hk]

/-- A digit first is a leading digit; a character of two octets after an ASCII one is reported
at octet offset 1. -/
example : validate "9a" = .error (.leadingDigit "9a") ∧
    validate "aé" = .error (.badChar 'é' 1 "aé") := by decide

end InlineC.Identifier
