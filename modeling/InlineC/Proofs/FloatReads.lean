import Mathlib
import InlineC.Proofs.ParseTuple

/-!
# Reading the float of an object

Two functions of the runtime read a double off an object: the float codes of `cx_parse_tuple`
(`d` stores a double, `f` a single) and the exported accessor `cx_as_float`, which the host uses
when it reads a float object back. For every int, bool or float object in memory:

* the code `d` stores `View.double`, and the code `f` that double narrowed to a single;
* the accessor answers `View.asDouble`;
* the two doubles are the same except on an unsigned integer whose word is 2^63 or more: the
  accessor reads such a word unsigned, the parse reads it signed and stores a negative double
  (`float_reads`, and `unsigned_top_parsed_negative` at the largest word).

The argument rests on one fact of the software doubles: the sign bit of the double nearest an
integer is the integer's sign (`Binary64.sign_ofInt`). Rounding adds the sign bit to the
rounded magnitude, and the magnitude of a rounded integer always stays below the sign bit, the
infinities included.
-/

namespace InlineC

namespace BinaryFormat

variable (f : BinaryFormat)

/-- The zero of a format with the sign clear is the word 0. -/
theorem zero_false : f.zero false = 0 := rfl

/-- The hidden bit is positive. -/
theorem hidden_pos : 0 < f.hidden := Nat.two_pow_pos _

/-- The sign bit stands above the exponent. -/
theorem signBit_eq : f.signBit = f.hidden * 2 ^ f.expBits := by
  simp [signBit, hidden, pow_add]

/-- One past the largest biased exponent is a power of two. -/
theorem maxBiased_add_one : f.maxBiased + 1 = 2 ^ f.expBits := by
  have := Nat.one_le_two_pow (n := f.expBits)
  simp only [maxBiased, Nat.pow_eq]
  omega

/-- The exponent of an integer is its highest bit. -/
theorem floorLog2_one {num : Nat} (h : num ≠ 0) : floorLog2 num 1 = num.log2 := by
  have h1 : Nat.log2 1 = 0 := by decide
  unfold floorLog2
  simp [h1, Nat.log2_self_le h]

/-- An encoding is the zero of its sign plus the encoding of its magnitude. -/
theorem encode_eq_zero_add (neg : Bool) (sig : Nat) (q : Int) :
    f.encode neg sig q = f.zero neg + f.encode false sig q := by
  have h0 := f.zero_false
  unfold encode infinity
  dsimp only
  split_ifs <;> omega

/-- Rounding with a sign is the zero of that sign plus the rounded magnitude. -/
theorem round_eq_zero_add (neg : Bool) (num den : Nat) :
    f.round neg num den = f.zero neg + f.round false num den := by
  unfold round
  by_cases h : num = 0 ∨ den = 0
  · simp [h, zero]
  · simp only [if_neg h, encode_eq_zero_add f neg]
    split_ifs <;> rfl

/-- A significand below twice the leading bit encodes a magnitude below the sign bit, whether
it is subnormal, normal or beyond the exponents. -/
theorem encode_lt_signBit {sig : Nat} (hsig : sig < 2 * f.hidden) (q : Int) :
    f.encode false sig q < f.signBit := by
  -- the sign bit is one step of the exponent field above the infinities
  have hsign : f.signBit = f.maxBiased * f.hidden + f.hidden := by
    rw [f.signBit_eq, ← f.maxBiased_add_one]
    ring
  unfold encode infinity
  dsimp only
  rw [zero_false]
  split_ifs with hlow hinf
  case pos => omega
  case pos => have := f.hidden_pos; omega
  case neg =>
    have hB : (q + f.fracBits + f.bias).toNat ≤ f.maxBiased := by omega
    have := Nat.mul_le_mul_right f.hidden hB
    omega

/-- The last step of rounding: a quotient below twice the leading bit, rounded up or not,
encodes below the sign bit, also when rounding up carries into the exponent. -/
theorem rounded_lt_signBit {whole : Nat} (hw : whole < 2 * f.hidden) (up : Bool) (q : Int) :
    (if (if up then whole + 1 else whole) = 2 * f.hidden then f.encode false f.hidden (q + 1)
      else f.encode false (if up then whole + 1 else whole) q) < f.signBit := by
  have := f.hidden_pos
  split_ifs <;> exact f.encode_lt_signBit (by omega) _

/-- The magnitude of a rounded integer lies below the sign bit: the quotient kept is below
twice the leading bit because the exponent is chosen from the integer's highest bit. -/
theorem round_one_lt_signBit (num : Nat) : f.round false num 1 < f.signBit := by
  by_cases hn : num = 0
  · rw [hn, round_zero, zero_false, f.signBit_eq]
    exact Nat.mul_pos f.hidden_pos (Nat.two_pow_pos _)
  unfold round
  rw [if_neg (by omega), floorLog2_one hn]
  have hq := le_max_left ((num.log2 : Int) - f.fracBits) f.minQuantum
  generalize max ((num.log2 : Int) - f.fracBits) f.minQuantum = q at hq ⊢
  have hlog := Nat.lt_log2_self (n := num)
  dsimp only
  -- a nonnegative exponent divides the integer, a negative one scales it up
  by_cases hq0 : q ≥ 0
  · rw [if_pos hq0]
    refine f.rounded_lt_signBit ?_ _ q
    show num / (1 * Nat.pow 2 q.toNat) < 2 * f.hidden
    rw [Nat.div_lt_iff_lt_mul (by simp)]
    calc num < 2 ^ (num.log2 + 1) := hlog
      _ ≤ 2 ^ (f.fracBits + 1 + q.toNat) := Nat.pow_le_pow_right (by norm_num) (by omega)
      _ = 2 * f.hidden * (1 * Nat.pow 2 q.toNat) := by simp [hidden, pow_add]; ring
  · rw [if_neg hq0]
    refine f.rounded_lt_signBit ?_ _ q
    show num * Nat.pow 2 (-q).toNat / 1 < 2 * f.hidden
    rw [Nat.div_one, Nat.pow_eq]
    calc num * 2 ^ (-q).toNat < 2 ^ (num.log2 + 1) * 2 ^ (-q).toNat :=
          Nat.mul_lt_mul_of_pos_right hlog (Nat.two_pow_pos _)
      _ = 2 ^ (num.log2 + 1 + (-q).toNat) := (pow_add _ _ _).symm
      _ ≤ 2 ^ (f.fracBits + 1) := Nat.pow_le_pow_right (by norm_num) (by omega)
      _ = 2 * f.hidden := by simp [hidden, pow_succ]; ring

end BinaryFormat

namespace Binary64

/-- The sign bit of a double: set for the negative numbers, negative zero and infinity, and
the NaNs the machine marks negative. -/
def sign (x : Binary64) : Bool := x.bits >>> 63 == 1

/-- A double is the double of its bits. -/
@[simp] theorem mk_bits (x : Binary64) : Binary64.mk x.bits = x := rfl

/-- A double's sign is its top bit. -/
theorem sign_eq_decide (x : Binary64) : x.sign = decide ((x.bits >>> 63).toNat = 1) := by
  unfold sign
  rw [Bool.eq_iff_iff, beq_iff_eq, decide_eq_true_iff, ← UInt64.toNat_inj]
  rfl

/-- The word of the double nearest an integer: the sign bit for a negative integer, and the
rounded magnitude below it. -/
theorem bits_ofInt_toNat (i : Int) :
    (ofInt i).bits.toNat =
      BinaryFormat.binary64.zero (decide (i < 0)) + BinaryFormat.binary64.round false i.natAbs 1 := by
  have h := BinaryFormat.binary64.round_one_lt_signBit i.natAbs
  have hs : BinaryFormat.binary64.signBit = 2 ^ 63 := rfl
  have hz : BinaryFormat.binary64.zero (decide (i < 0)) ≤ 2 ^ 63 := by
    unfold BinaryFormat.zero
    split <;> simp [hs]
  unfold ofInt ofRatio
  rw [BinaryFormat.round_eq_zero_add, Nat.toUInt64_eq, UInt64.toNat_ofNat']
  exact Nat.mod_eq_of_lt (by omega)

/-- The sign of the double nearest an integer is the integer's sign. -/
theorem sign_ofInt (i : Int) : (ofInt i).sign = decide (i < 0) := by
  have h := BinaryFormat.binary64.round_one_lt_signBit i.natAbs
  have hs : BinaryFormat.binary64.signBit = 2 ^ 63 := rfl
  have htop : ((ofInt i).bits >>> 63).toNat = if i < 0 then 1 else 0 := by
    rw [UInt64.toNat_shiftRight, bits_ofInt_toNat, Nat.shiftRight_eq_div_pow]
    by_cases hi : i < 0 <;> simp [hi, BinaryFormat.zero, hs] <;> omega
  rw [sign_eq_decide, htop]
  by_cases hi : i < 0 <;> simp [hi]

/-- A negative and a nonnegative integer round to different doubles. -/
theorem ofInt_ne_of_neg {a b : Int} (ha : a < 0) (hb : 0 ≤ b) : (ofInt a).bits ≠ (ofInt b).bits := by
  intro h
  have hsign := congrArg (fun w => sign ⟨w⟩) h
  simp only [mk_bits, sign_ofInt, decide_eq_decide] at hsign
  omega

end Binary64

namespace Machine.Objects

open InlineC.Lang ImgM

/-- No object lies at the null address. -/
theorem Shows.ne_zero {heap : Nat → Prop} {m : Memory} {o : UInt64} {v : View}
    (hs : Shows heap m o v) : o ≠ 0 := by
  rintro rfl
  have h := hs.kind
  simp [Memory.load, Memory.locate, Obj.kind] at h

namespace View

/-- The double `cx_as_float` reads off an object: an unsigned integer's word read unsigned, an
integer's or bool's word read signed, and otherwise the stored double. -/
def asDouble (v : View) : UInt64 :=
  if v.isUnsigned then Arith.convNarrow .u64 .f64 v.int
  else if v.isInt then Arith.convNarrow .i64 .f64 v.int
  else v.dbl

variable {v : View}

/-- An integer object is no float. -/
theorem kind_ne_float {v : View} (h : v.isInt = true) : (v.kind == Obj.float) = false := by
  simp only [isInt, Bool.or_eq_true, beq_iff_eq] at h
  rcases h with h | h <;> simp [h, Obj.float, Obj.integer, Obj.bool]

/-- A float object is no unsigned integer. -/
theorem isUnsigned_of_float (h : v.kind = Obj.float) : v.isUnsigned = false := by
  simp [isUnsigned, h, Obj.float, Obj.integer]

/-- A float object is no integer. -/
theorem isInt_of_float (h : v.kind = Obj.float) : v.isInt = false := by
  simp [isInt, h, Obj.float, Obj.integer, Obj.bool]

/-- An unsigned integer object is an integer. -/
theorem isInt_of_isUnsigned (h : v.isUnsigned = true) : v.isInt = true := by
  simp only [isUnsigned, Bool.and_eq_true, beq_iff_eq] at h
  simp [isInt, h.1]

/-- The parse reads an integer's or bool's word signed, whatever its mark. -/
theorem double_of_isInt (h : v.isInt = true) :
    v.double = (Binary64.ofInt v.int.toInt64.toInt).bits := by
  unfold double
  rw [kind_ne_float h]
  rfl

/-- The accessor reads an integer's or bool's value: its word read as its mark says. -/
theorem asDouble_of_isInt (h : v.isInt = true) : v.asDouble = (Binary64.ofInt v.value).bits := by
  unfold asDouble value
  by_cases hu : v.isUnsigned = true
  · simp only [hu, if_true]
    rfl
  · simp only [hu, h, if_true, Bool.false_eq_true, if_false]
    rfl

/-- A float object's double is its stored double. -/
theorem double_of_float (h : v.kind = Obj.float) : v.double = v.dbl := by
  simp [double, h]

/-- A float object reads as its stored double. -/
theorem asDouble_of_float (h : v.kind = Obj.float) : v.asDouble = v.dbl := by
  simp [asDouble, isUnsigned_of_float h, isInt_of_float h]

/-- The parse and the accessor read the same double off an int, bool or float object, except
off an unsigned integer whose word is 2^63 or more. -/
theorem double_eq_asDouble_iff (hf : v.kind = Obj.float ∨ v.isInt = true) :
    v.double = v.asDouble ↔ ¬ (v.isUnsigned = true ∧ 2 ^ 63 ≤ v.int.toNat) := by
  rcases hf with hf | hi
  case inl =>
    simp [double_of_float hf, asDouble_of_float hf, isUnsigned_of_float hf]
  case inr =>
    rw [double_of_isInt hi, asDouble_of_isInt hi, toInt64_toInt_eq]
    by_cases hu : v.isUnsigned = true
    · have hval : v.value = v.int.toNat := by simp [value, hu]
      rw [hval]
      by_cases hw : v.int.toNat < 2 ^ 63
      · rw [if_pos hw]
        exact iff_of_true rfl fun h => absurd h.2 (by omega)
      · -- the parse reads the word as a negative number, the accessor as a large positive one
        rw [if_neg hw]
        have hne := Binary64.ofInt_ne_of_neg (a := (v.int.toNat : Int) - 2 ^ 64)
          (b := v.int.toNat) (by have := v.int.toNat_lt; omega) (by omega)
        exact iff_of_false hne fun h => h ⟨hu, by omega⟩
    · have hval : v.value = v.int.toInt64.toInt := by simp [value, hu]
      simp [hval, hu, toInt64_toInt_eq]

/-- The accessor gives every unsigned integer the nonnegative double nearest its unsigned
value. -/
theorem asDouble_of_isUnsigned (h : v.isUnsigned = true) :
    v.asDouble = (Binary64.ofInt v.int.toNat).bits ∧ (Binary64.mk v.asDouble).sign = false := by
  have hval : v.value = v.int.toNat := by simp [value, h]
  rw [asDouble_of_isInt (isInt_of_isUnsigned h), hval]
  refine ⟨rfl, ?_⟩
  rw [Binary64.mk_bits, Binary64.sign_ofInt]
  simp

/-- The parse gives an unsigned integer a nonnegative double exactly when its word is below
2^63. -/
theorem sign_double_of_isUnsigned (h : v.isUnsigned = true) :
    (Binary64.mk v.double).sign = false ↔ v.int.toNat < 2 ^ 63 := by
  rw [double_of_isInt (isInt_of_isUnsigned h), Binary64.mk_bits, Binary64.sign_ofInt,
    decide_eq_false_iff_not, not_lt, toInt64_toInt_eq]
  have := v.int.toNat_lt
  split_ifs with hw <;> omega

end View

section Reads

variable {heap : Nat → Prop} {img : Image} {o : UInt64} {v : View}

/-- The accessor answers the object's `asDouble` and leaves memory as it was. -/
theorem asFloat_shows (hs : Shows heap img.mem o v) : (asFloat o).run img = .ok (v.asDouble, img) := by
  unfold asFloat View.asDouble View.isUnsigned View.isInt
  have ho : (o == 0) = false := by simpa using hs.ne_zero
  rw [ho]
  refine run_bind_eq_ok.2 ⟨v.kind, img, load_run hs.kind, ?_⟩
  refine run_bind_eq_ok.2 ⟨v.unsigned, img, load_run hs.unsigned, ?_⟩
  split_ifs
  · exact run_bind_eq_ok.2 ⟨v.int, img, load_run hs.int, rfl⟩
  · exact run_bind_eq_ok.2 ⟨v.int, img, load_run hs.int, rfl⟩
  · exact load_run hs.dbl

/-- A float code accepts floats and integers. -/
theorem floatCode_accepts (hf : v.kind = Obj.float ∨ v.isInt = true) :
    (v.kind == Obj.float || v.isInt) = true := by
  rcases hf with hf | hi <;> simp [*]

variable {va : VaList} {fname : List UInt8} {img' : Image}

/-- The code `d` stores an int, bool or float object's `double` through the next pointer. -/
theorem parseOne_double (hs : Shows heap img.mem o v) (hf : v.kind = Obj.float ∨ v.isInt = true)
    (hst : img.store .f64 va.nextInt.1 v.double = .ok img') :
    (parseOne o 100 va fname).run img = .ok ((true, va.nextInt.2), img') := by
  refine parseOne_run hs ?_
  show Ends img va.nextInt.1 (ParseCode.double.outcome fname o v) true img'
  rw [ParseCode.outcome, if_pos (floatCode_accepts hf)]
  exact ⟨rfl, hst⟩

/-- The code `f` stores an int, bool or float object's `double` narrowed to a single. -/
theorem parseOne_single (hs : Shows heap img.mem o v) (hf : v.kind = Obj.float ∨ v.isInt = true)
    (hst : img.store .f32 va.nextInt.1 (Arith.convNarrow .f64 .f32 v.double) = .ok img') :
    (parseOne o 102 va fname).run img = .ok ((true, va.nextInt.2), img') := by
  refine parseOne_run hs ?_
  show Ends img va.nextInt.1 (ParseCode.single.outcome fname o v) true img'
  rw [ParseCode.outcome, if_pos (floatCode_accepts hf)]
  exact ⟨rfl, hst⟩

/-- Reading the float of an int, bool or float object. Parsing it by the code `d` stores the
double `v.double`, and by the code `f` that double narrowed to a single; the accessor answers
`v.asDouble`. The two doubles are the same except on an unsigned integer whose word is 2^63
or more. The accessor gives every unsigned integer the nonnegative double nearest its unsigned
value; the parse gives it a nonnegative double only below 2^63. -/
theorem float_reads (hs : Shows heap img.mem o v) (hf : v.kind = Obj.float ∨ v.isInt = true) :
    (∀ img', img.store .f64 va.nextInt.1 v.double = .ok img' →
      (parseOne o 100 va fname).run img = .ok ((true, va.nextInt.2), img')) ∧
    (∀ img', img.store .f32 va.nextInt.1 (Arith.convNarrow .f64 .f32 v.double) = .ok img' →
      (parseOne o 102 va fname).run img = .ok ((true, va.nextInt.2), img')) ∧
    (asFloat o).run img = .ok (v.asDouble, img) ∧
    (v.double = v.asDouble ↔ ¬ (v.isUnsigned = true ∧ 2 ^ 63 ≤ v.int.toNat)) ∧
    (v.isUnsigned = true →
      v.asDouble = (Binary64.ofInt v.int.toNat).bits ∧ (Binary64.mk v.asDouble).sign = false ∧
        ((Binary64.mk v.double).sign = false ↔ v.int.toNat < 2 ^ 63)) :=
  ⟨fun _ hst => parseOne_double hs hf hst, fun _ hst => parseOne_single hs hf hst,
    asFloat_shows hs, View.double_eq_asDouble_iff hf,
    fun hu => ⟨(View.asDouble_of_isUnsigned hu).1, (View.asDouble_of_isUnsigned hu).2,
      View.sign_double_of_isUnsigned hu⟩⟩

end Reads

/-- The integer 7 of the sample memory reads as the same double by the accessor as by the
parse. -/
theorem sample_seven_reads_alike :
    (asFloat (Memory.base 5)).run sampleImage =
      .ok (View.double ⟨Obj.integer, 7, 0, 0, 0, 0, 0, 0⟩, sampleImage) := by
  obtain ⟨-, -, hrun, heq, -⟩ :=
    @float_reads sampleHeap sampleImage (Memory.base 5) ⟨Obj.integer, 7, 0, 0, 0, 0, 0, 0⟩
      ⟨#[Memory.base 6], #[], #[], 0, 0, 0⟩ [] sampleMemory_seven (.inr rfl)
  rw [hrun, heq.2 (by decide)]

/-- The largest unsigned word: the parse stores -1 (the word read signed), the accessor 2^64
(the double nearest its unsigned value). -/
theorem unsigned_top_parsed_negative :
    View.double ⟨Obj.integer, 0xFFFFFFFFFFFFFFFF, 0, 0, 0, 0, 1, 0⟩ = 0xBFF0000000000000 ∧
      View.asDouble ⟨Obj.integer, 0xFFFFFFFFFFFFFFFF, 0, 0, 0, 0, 1, 0⟩ = 0x43F0000000000000 := by
  decide +kernel

end Machine.Objects

end InlineC
