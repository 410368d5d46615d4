import Mathlib.Data.Nat.Bitwise
import Mathlib.Tactic.NormNum
import MoltenCL.Foundation.BinaryFormat
import MoltenCL.Half

/-! # Correct rounding of the conversions to half precision

Both conversions give the half the source value is rounded to in the requested mode
(`CLFloatType.Describes.converts`): normal and denormal results, the carry into the next binade
or to infinity, overflow and underflow. The proof is by the magnitude: the
sign only mirrors the direction.
-/

namespace MoltenCL

open Foundation

/-- `cl_half` -/
def halfFormat : BinaryFormat := ⟨5, 10, by decide⟩

/-- `cl_float` -/
def floatFormat : BinaryFormat := ⟨8, 23, by decide⟩

/-- `cl_double` -/
def doubleFormat : BinaryFormat := ⟨11, 52, by decide⟩

namespace CLHalfRoundingMode

/-- The direction of a mode on the scale. -/
def direction : CLHalfRoundingMode → Direction
  | rte => .nearestEven
  | rtz => .towardZero
  | rtp => .towardPositive
  | rtn => .towardNegative

/-- The direction in which the magnitude of a number with the sign is rounded. -/
def magnitudeDirection (mode : CLHalfRoundingMode) (s : Bool) : Direction :=
  if s then mode.direction.mirror else mode.direction

end CLHalfRoundingMode

/-- The half `h` has the sign `s` and the magnitude that `r` is rounded to. -/
def RoundsMagnitude (mode : CLHalfRoundingMode) (s : Bool) (r : ℝ) (h : UInt16) : Prop :=
  ∃ m ≤ halfFormat.infinity, h.toNat = halfFormat.pack s m ∧
    halfFormat.scale.Rounds (mode.magnitudeDirection s) r m

/-! ## The bits of a half -/

theorem halfFormat_infinity : halfFormat.infinity = 0x7C00 := rfl

/-- A sign and the fields below it put together by `|`. -/
theorem toNat_halfBits (s : Bool) {n : ℕ} (h : n < 2 ^ 15) :
    (UInt16.ofNat (s.toNat <<< 15 ||| n)).toNat = halfFormat.pack s n := by
  rw [← Nat.shiftLeft_add_eq_or_of_lt h, Nat.shiftLeft_eq, UInt16.toNat_ofNat']
  apply Nat.mod_eq_of_lt
  have hs := s.toNat_le
  omega

/-- A sign alone is a signed zero. -/
theorem toNat_halfSign (s : Bool) :
    (UInt16.ofNat (s.toNat <<< 15)).toNat = halfFormat.pack s 0 := by
  have h := toNat_halfBits s (n := 0) (by norm_num)
  rwa [Nat.or_zero] at h

/-- The exponent and the mantissa field put together by `|`. -/
theorem toNat_halfFields (s : Bool) {e n : ℕ} (he : e < 2 ^ 5) (hn : n < 2 ^ 10) :
    (UInt16.ofNat (s.toNat <<< 15 ||| e <<< 10 ||| n)).toNat =
      halfFormat.pack s (e * 2 ^ 10 + n) := by
  rw [Nat.or_assoc, ← Nat.shiftLeft_add_eq_or_of_lt hn, Nat.shiftLeft_eq e, toNat_halfBits]
  omega

/-! ## Overflow and underflow -/

/-- From infinity's mark on, the mode and the sign decide between infinity and the greatest
finite half. -/
theorem roundsMagnitude_overflow {mode : CLHalfRoundingMode} {s : Bool} {r : ℝ}
    (h : halfFormat.scale.mark halfFormat.infinity ≤ r) :
    RoundsMagnitude mode s r (clHalfHandleOverflow mode s.toNat) := by
  unfold clHalfHandleOverflow
  have hinf (hd : mode.magnitudeDirection s = .nearestEven ∨
      mode.magnitudeDirection s = .towardPositive) :
      RoundsMagnitude mode s r (.ofNat (s.toNat <<< 15 ||| CL_HALF_EXP_MASK)) :=
    ⟨halfFormat.infinity, le_rfl, toNat_halfBits s (by decide), Scale.rounds_top h hd⟩
  have hmax (hd : mode.magnitudeDirection s = .towardZero ∨
      mode.magnitudeDirection s = .towardNegative) :
      RoundsMagnitude mode s r (.ofNat (s.toNat <<< 15 ||| CL_HALF_MAX_FINITE_MAG)) :=
    ⟨CL_HALF_MAX_FINITE_MAG, by decide, toNat_halfBits s (by decide),
      Scale.rounds_pred_top h hd⟩
  cases mode with
  | rte =>
      cases s
      · exact hinf (Or.inl rfl)
      · exact hinf (Or.inl rfl)
  | rtz =>
      cases s
      · exact hmax (Or.inl rfl)
      · exact hmax (Or.inl rfl)
  | rtp =>
      cases s
      · exact hinf (Or.inr rfl)
      · exact hmax (Or.inr rfl)
  | rtn =>
      cases s
      · exact hmax (Or.inr rfl)
      · exact hinf (Or.inr rfl)

/-- Below half of the least denormal, the mode and the sign decide between it and zero. -/
theorem roundsMagnitude_underflow {mode : CLHalfRoundingMode} {s : Bool} {r : ℝ} (hpos : 0 < r)
    (h : 2 * r < halfFormat.scale.mark 1) :
    RoundsMagnitude mode s r (clHalfHandleUnderflow mode s.toNat) := by
  have hone : 0 < halfFormat.scale.mark 1 := Scale.mark_pos one_pos
  have hbetween : halfFormat.scale.Between r 0 (r / halfFormat.scale.mark 1) := by
    constructor
    · rw [halfFormat.scale.mark_zero]
      field_simp
      simp
    · positivity
    · rw [div_lt_one hone]
      linarith
  have hpart : r / halfFormat.scale.mark 1 < 1 / 2 := by
    rw [div_lt_iff₀ hone]
    linarith
  have hne : r / halfFormat.scale.mark 1 ≠ 0 := by positivity
  have hzero (hd : ¬(mode.magnitudeDirection s).Increments 0 (r / halfFormat.scale.mark 1)) :
      RoundsMagnitude mode s r (.ofNat (s.toNat <<< 15)) :=
    ⟨0, Nat.zero_le _, toNat_halfSign s, hbetween.rounds_lower (Scale.top_pos _) hd⟩
  have hleast (hd : (mode.magnitudeDirection s).Increments 0 (r / halfFormat.scale.mark 1)) :
      RoundsMagnitude mode s r (.ofNat (s.toNat <<< 15 ||| 1)) :=
    ⟨1, by decide, toNat_halfBits s (by norm_num), hbetween.rounds_upper (Scale.top_pos _) hd⟩
  have heven : ¬Direction.nearestEven.Increments 0 (r / halfFormat.scale.mark 1) := by
    rintro (hgt | ⟨heq, _⟩)
    · linarith
    · linarith
  unfold clHalfHandleUnderflow
  cases mode with
  | rte =>
      cases s
      · exact hzero heven
      · exact hzero heven
  | rtz =>
      cases s
      · exact hzero id
      · exact hzero id
  | rtp =>
      cases s
      · exact hleast hne
      · exact hzero id
  | rtn =>
      cases s
      · exact hzero id
      · exact hleast hne

/-! ## Rounding the mantissa -/

/-- The rest is more than half of the way up. -/
theorem half_lt_part {rest l : ℕ} :
    1 - (rest : ℝ) / 2 ^ (l + 1) < rest / 2 ^ (l + 1) ↔ 2 ^ l < rest := by
  rw [sub_lt_iff_lt_add, ← add_div, lt_div_iff₀ (by positivity), pow_succ]
  constructor
  · intro h
    have hreal : (2 : ℝ) ^ l < rest := by linarith
    exact_mod_cast hreal
  · intro h
    have hreal : (2 : ℝ) ^ l < rest := by exact_mod_cast h
    linarith

/-- The rest is half of the way up. -/
theorem part_eq_half {rest l : ℕ} :
    (rest : ℝ) / 2 ^ (l + 1) = 1 - rest / 2 ^ (l + 1) ↔ rest = 2 ^ l := by
  rw [eq_sub_iff_add_eq, ← add_div, div_eq_iff (by positivity), pow_succ]
  constructor
  · intro h
    have hreal : (rest : ℝ) = 2 ^ l := by linarith
    exact_mod_cast hreal
  · intro h
    have hreal : (rest : ℝ) = 2 ^ l := by exact_mod_cast h
    linarith

/-- There is a rest. -/
theorem part_ne_zero {rest l : ℕ} : (rest : ℝ) / 2 ^ (l + 1) ≠ 0 ↔ rest ≠ 0 := by
  rw [div_ne_zero_iff, Nat.cast_ne_zero]
  constructor
  · intro h
    exact h.1
  · intro h
    exact ⟨h, by positivity⟩

/-- The `switch` increments the mantissa exactly where the direction does. -/
theorem clHalfRoundMantissa_eq (mode : CLHalfRoundingMode) (s : Bool) (hExp rest l : ℕ)
    {hMant : ℕ} (hlt : hMant < 2 ^ 10) :
    ((mode.magnitudeDirection s).Increments (hExp * 2 ^ 10 + hMant) (rest / 2 ^ (l + 1)) ∧
      clHalfRoundMantissa mode s.toNat hMant rest (2 ^ l) = hMant + 1) ∨
    (¬(mode.magnitudeDirection s).Increments (hExp * 2 ^ 10 + hMant) (rest / 2 ^ (l + 1)) ∧
      clHalfRoundMantissa mode s.toNat hMant rest (2 ^ l) = hMant) := by
  have hsucc : (hMant + 1) % 2 ^ 16 = hMant + 1 := Nat.mod_eq_of_lt (by omega)
  have hodd : ¬Even (hExp * 2 ^ 10 + hMant) ↔ hMant &&& 1 ≠ 0 := by
    rw [Nat.even_iff, Nat.and_one_is_mod]
    omega
  have hnearest : (Direction.nearestEven.Increments (hExp * 2 ^ 10 + hMant)
      (rest / 2 ^ (l + 1))) ↔ 2 ^ l < rest ∨ rest = 2 ^ l ∧ hMant &&& 1 ≠ 0 := by
    unfold Direction.Increments
    rw [half_lt_part, part_eq_half, hodd]
  have hpositive : (Direction.towardPositive.Increments (hExp * 2 ^ 10 + hMant)
      (rest / 2 ^ (l + 1))) ↔ rest ≠ 0 := part_ne_zero
  have hzero : ¬Direction.towardZero.Increments (hExp * 2 ^ 10 + hMant) (rest / 2 ^ (l + 1)) := id
  have hnegative :
      ¬Direction.towardNegative.Increments (hExp * 2 ^ 10 + hMant) (rest / 2 ^ (l + 1)) := id
  unfold clHalfRoundMantissa CLHalfRoundingMode.magnitudeDirection
  cases mode <;> cases s <;>
    simp only [CLHalfRoundingMode.direction, Direction.mirror, Bool.toNat_true, Bool.toNat_false,
      hnearest, hpositive, hzero, hnegative, hsucc, if_true] <;>
    grind

/-- Rounding up carries exactly out of a mantissa of ones. -/
theorem carry_bit {n : ℕ} (h : n ≤ 2 ^ 10) : n &&& 0x400 ≠ 0 ↔ n = 2 ^ 10 := by
  rw [show 0x400 = 2 ^ 10 from rfl, Nat.and_two_pow]
  constructor
  · intro hne
    by_contra hlt
    rw [Nat.testBit_lt_two_pow (lt_of_le_of_ne h hlt)] at hne
    exact hne rfl
  · intro heq
    rw [heq, Nat.testBit_two_pow_self]
    decide

/-- A carry out of the mantissa runs into the exponent field. -/
theorem toNat_carried (s : Bool) {hExp n : ℕ} (hexp : hExp < 31) (hn : n ≤ 2 ^ 10) :
    (if n &&& 0x400 ≠ 0 then UInt16.ofNat (s.toNat <<< 15 ||| ((hExp + 1) % 2 ^ 16) <<< 10 ||| 0)
      else UInt16.ofNat (s.toNat <<< 15 ||| hExp <<< 10 ||| n)).toNat =
      halfFormat.pack s (hExp * 2 ^ 10 + n) := by
  split_ifs with hbit
  · rw [Nat.mod_eq_of_lt (by omega), toNat_halfFields s (by omega) (by norm_num),
      (carry_bit hn).mp hbit, Nat.succ_mul, Nat.add_zero]
  · have hlt : n < 2 ^ 10 := lt_of_le_of_ne hn (fun heq => hbit ((carry_bit hn).mpr heq))
    exact toNat_halfFields s (by omega) hlt

/-- Rounding the mantissa of a magnitude gives the half the magnitude is rounded to. -/
theorem roundsMagnitude_generate {mode : CLHalfRoundingMode} {s : Bool} {r : ℝ}
    {hExp mant l : ℕ} (hexp : hExp < 31) (hmant : mant / 2 ^ (l + 1) < 2 ^ 10)
    (h : halfFormat.scale.Between r (hExp * 2 ^ 10 + mant / 2 ^ (l + 1))
      ((mant % 2 ^ (l + 1) : ℕ) / 2 ^ (l + 1))) :
    RoundsMagnitude mode s r (clHalfGenerate mode s.toNat hExp mant (l + 1)) := by
  have htop : hExp * 2 ^ 10 + mant / 2 ^ (l + 1) < halfFormat.infinity := by
    rw [halfFormat_infinity]
    omega
  have hmask : (2 ^ l <<< 1) - 1 = 2 ^ (l + 1) - 1 := by
    rw [Nat.shiftLeft_eq, pow_succ 2 l, pow_one]
  unfold clHalfGenerate
  simp only [Nat.add_sub_cancel, Nat.one_shiftLeft, hmask, Nat.shiftRight_eq_div_pow,
    Nat.and_two_pow_sub_one_eq_mod,
    Nat.mod_eq_of_lt (hmant.trans (show 2 ^ 10 < 2 ^ 16 by norm_num))]
  rcases clHalfRoundMantissa_eq mode s hExp (mant % 2 ^ (l + 1)) l hmant with
    ⟨hinc, heq⟩ | ⟨hinc, heq⟩
  · rw [heq]
    exact ⟨_, htop, toNat_carried s hexp hmant, h.rounds_upper htop hinc⟩
  · rw [heq]
    exact ⟨_, htop.le, toNat_carried s hexp hmant.le, h.rounds_lower htop hinc⟩

/-! ## The fields of the source value -/

/-- The characteristics of a type are those of a binary format, wider than the half's. -/
structure CLFloatType.Describes (type : CLFloatType) (F : BinaryFormat) : Prop where
  width : type.width = F.exponentBits + F.fractionBits + 1
  mantDig : type.MANT_DIG = F.fractionBits + 1
  maxExp : type.MAX_EXP = F.bias + 1
  expMask : type.expMask = 2 ^ F.exponentBits - 1
  fractionBits : 11 ≤ F.fractionBits
  bias : 26 ≤ F.bias

/-- The constants of `cl_float` are those of its format. -/
theorem clFloat_describes : clFloat.Describes floatFormat := by
  constructor <;> decide

/-- The constants of `cl_double` are those of its format. -/
theorem clDouble_describes : clDouble.Describes doubleFormat := by
  constructor <;> decide

section Fields

variable {type : CLFloatType} {F : BinaryFormat} (h : type.Describes F)
include h

/-- The first shift takes the sign. -/
theorem CLFloatType.Describes.sign {i : ℕ} (hi : i < 2 ^ type.width) :
    i >>> (type.width - 1) = (F.isNegative i).toNat := by
  rw [h.width] at hi
  rw [h.width, Nat.add_sub_cancel, Nat.shiftRight_eq_div_pow, BinaryFormat.toNat_isNegative hi]

/-- The second shift and the mask take the exponent field. -/
theorem CLFloatType.Describes.exponent (i : ℕ) :
    i >>> (type.MANT_DIG - 1) &&& type.expMask = F.magnitude i / 2 ^ F.fractionBits := by
  rw [h.mantDig, h.expMask, Nat.add_sub_cancel, Nat.shiftRight_eq_div_pow,
    Nat.and_two_pow_sub_one_eq_mod]
  unfold BinaryFormat.magnitude
  rw [Nat.add_comm, pow_add, Nat.mod_mul_right_div_self]

/-- The last mask takes the fraction field. -/
theorem CLFloatType.Describes.mantissa (i : ℕ) :
    i &&& ((1 <<< (type.MANT_DIG - 1)) - 1) = F.magnitude i % 2 ^ F.fractionBits := by
  rw [h.mantDig, Nat.add_sub_cancel, Nat.one_shiftLeft, Nat.and_two_pow_sub_one_eq_mod]
  unfold BinaryFormat.magnitude
  rw [Nat.add_comm F.exponentBits, pow_add, Nat.mod_mul_right_mod]

/-- No bias makes the signed exponent wrap. -/
theorem CLFloatType.Describes.exp {e : ℕ} (he : e < 2 ^ F.exponentBits) :
    ((e : ℤ) - type.MAX_EXP + 1).bmod (2 ^ type.width) = e - F.bias := by
  have hbias : F.bias < 2 ^ F.exponentBits := by
    unfold BinaryFormat.bias
    exact lt_of_le_of_lt (Nat.sub_le _ _) (Nat.pow_lt_pow_right one_lt_two
      (Nat.sub_lt F.exponentBits_pos one_pos))
  have hwide : 2 ^ F.exponentBits * 2 ≤ 2 ^ type.width := by
    rw [← pow_succ, h.width]
    exact Nat.pow_le_pow_right two_pos (by omega)
  rw [h.maxExp]
  generalize 2 ^ type.width = w at hwide
  rw [Int.bmod_eq_of_le (by omega) (by omega)]
  omega

end Fields

/-! ## The magnitude of the result -/

theorem halfFormat_leastExponent : halfFormat.leastExponent = -24 := rfl

theorem halfFormat_mark_one : halfFormat.scale.mark 1 = 2 ^ (-24 : ℤ) := by
  have h := BinaryFormat.mark_add (F := halfFormat) (b := 0) (s := 1) (Or.inl rfl) (by decide)
  rw [halfFormat_leastExponent, Nat.cast_one, one_mul] at h
  exact h

/-- Infinity's mark is the power above the greatest finite half. -/
theorem halfFormat_mark_infinity : halfFormat.scale.mark halfFormat.infinity = 2 ^ (16 : ℤ) :=
  BinaryFormat.mark_binade (F := halfFormat) (e := 31) (by norm_num)

/-- A zero keeps its sign in every mode. -/
theorem roundsMagnitude_zero (mode : CLHalfRoundingMode) (s : Bool) :
    RoundsMagnitude mode s 0 (.ofNat (s.toNat <<< 15)) := by
  refine ⟨0, Nat.zero_le _, toNat_halfSign s, ?_⟩
  have hzero := Scale.rounds_value (S := halfFormat.scale) (mode.magnitudeDirection s)
    (Scale.inRange_of_le (Nat.zero_le _))
  rw [← Scale.coe_mark (Scale.top_pos _), Scale.mark_zero] at hzero
  exact hzero

section Magnitude

variable {type : CLFloatType} {F : BinaryFormat} (h : type.Describes F)
  (mode : CLHalfRoundingMode) (s : Bool)
include h

/-- A magnitude below the normal halves: the significand is shifted to the denormal places. -/
theorem CLFloatType.Describes.denormal {n : ℕ} {exp : ℤ}
    (hexp : exp = (n / 2 ^ F.fractionBits : ℕ) - F.bias) (hlow : -25 ≤ exp) (hhigh : exp < -14) :
    RoundsMagnitude mode s (F.mark n) (clHalfGenerate mode s.toNat 0
      (n % 2 ^ F.fractionBits ||| 1 <<< (type.MANT_DIG - 1))
      (-exp + ((type.MANT_DIG : ℤ) - 25)).toNat) := by
  have hbias := h.bias
  have hwide := h.fractionBits
  have hmod := Nat.mod_lt n (Nat.two_pow_pos F.fractionBits)
  have hnormal : 0 < n / 2 ^ F.fractionBits := by omega
  obtain ⟨l, hl⟩ : ∃ l : ℕ, (-exp + ((type.MANT_DIG : ℤ) - 25)).toNat = l + 1 := by
    rw [h.mantDig]
    exact Nat.exists_eq_succ_of_ne_zero (by omega)
  have hor : n % 2 ^ F.fractionBits ||| 1 <<< (type.MANT_DIG - 1) =
      2 ^ F.fractionBits + n % 2 ^ F.fractionBits := by
    rw [h.mantDig, Nat.add_sub_cancel, Nat.or_comm, ← Nat.shiftLeft_add_eq_or_of_lt hmod,
      Nat.one_shiftLeft]
  have hexponent : ((n / 2 ^ F.fractionBits : ℕ) - F.bias - F.fractionBits : ℤ) =
      halfFormat.leastExponent + (0 : ℕ) - (l + 1 : ℕ) := by
    rw [h.mantDig] at hl
    rw [halfFormat_leastExponent]
    omega
  have hfits : (2 ^ F.fractionBits + n % 2 ^ F.fractionBits) / 2 ^ (l + 1) < 2 ^ 10 := by
    rw [h.mantDig] at hl
    rw [Nat.div_lt_iff_lt_mul (Nat.two_pow_pos _), ← pow_add]
    have hpow : 2 ^ (F.fractionBits + 1) ≤ 2 ^ (10 + (l + 1)) :=
      Nat.pow_le_pow_right two_pos (by omega)
    rw [pow_succ] at hpow
    omega
  rw [hl, hor, BinaryFormat.mark_normal hnormal, hexponent]
  apply roundsMagnitude_generate (by norm_num) hfits
  exact BinaryFormat.between_of_significand (F := halfFormat) (Or.inl rfl)
    (hfits.trans (by decide))

/-- A magnitude among the normal halves: the mantissa loses its last bits. -/
theorem CLFloatType.Describes.normal {n : ℕ} {exp : ℤ}
    (hexp : exp = (n / 2 ^ F.fractionBits : ℕ) - F.bias) (hlow : -14 ≤ exp) (hhigh : exp < 16) :
    RoundsMagnitude mode s (F.mark n) (clHalfGenerate mode s.toNat
      ((exp + CL_HALF_MAX_EXP - 1) % 2 ^ 16).toNat (n % 2 ^ F.fractionBits)
      (type.MANT_DIG - CL_HALF_MANT_DIG)) := by
  have hbias := h.bias
  have hwide := h.fractionBits
  have hmod := Nat.mod_lt n (Nat.two_pow_pos F.fractionBits)
  have hnormal : 0 < n / 2 ^ F.fractionBits := by omega
  obtain ⟨l, hl⟩ : ∃ l : ℕ, F.fractionBits = 10 + (l + 1) := ⟨F.fractionBits - 11, by omega⟩
  have hlsb : type.MANT_DIG - CL_HALF_MANT_DIG = l + 1 := by
    rw [h.mantDig, hl]
    unfold CL_HALF_MANT_DIG
    omega
  obtain ⟨b, hb⟩ : ∃ b : ℕ, exp = b - 14 := ⟨(exp + 14).toNat, by omega⟩
  have hhexp : ((exp + CL_HALF_MAX_EXP - 1) % 2 ^ 16).toNat = b + 1 := by
    unfold CL_HALF_MAX_EXP
    omega
  have hexponent : ((n / 2 ^ F.fractionBits : ℕ) - F.bias - F.fractionBits : ℤ) =
      halfFormat.leastExponent + b - (l + 1 : ℕ) := by
    rw [halfFormat_leastExponent, ← hexp]
    omega
  have hfits : n % 2 ^ F.fractionBits / 2 ^ (l + 1) < 2 ^ 10 := by
    rw [Nat.div_lt_iff_lt_mul (Nat.two_pow_pos _), ← pow_add, ← hl]
    exact hmod
  have hdiv : (2 ^ F.fractionBits + n % 2 ^ F.fractionBits) / 2 ^ (l + 1) =
      2 ^ 10 + n % 2 ^ F.fractionBits / 2 ^ (l + 1) := by
    rw [hl, pow_add 2 10, Nat.mul_comm, Nat.mul_add_div (Nat.two_pow_pos _)]
  have hrest : (2 ^ F.fractionBits + n % 2 ^ F.fractionBits) % 2 ^ (l + 1) =
      n % 2 ^ F.fractionBits % 2 ^ (l + 1) := by
    rw [hl, pow_add 2 10, Nat.mul_add_mod']
  have hbetween := BinaryFormat.between_of_significand (F := halfFormat) (b := b)
    (m := 2 ^ F.fractionBits + n % 2 ^ F.fractionBits) (l := l + 1)
    (Or.inr (by rw [hdiv]; exact Nat.le_add_right _ _))
    (by rw [hdiv]; exact Nat.add_lt_add_left hfits _)
  rw [hdiv, hrest, ← hexponent, ← BinaryFormat.mark_normal hnormal] at hbetween
  rw [hlsb, hhexp]
  apply roundsMagnitude_generate (by omega) hfits
  rw [Nat.succ_mul, Nat.add_assoc]
  exact hbetween

/-- The conversion of a finite value gives its sign and the rounding of its magnitude. -/
theorem CLFloatType.Describes.finite {i : ℕ} (hi : i < 2 ^ type.width)
    (hfinite : F.magnitude i < F.infinity) :
    RoundsMagnitude mode (F.isNegative i) (F.mark (F.magnitude i)) (clHalfFrom type i mode) := by
  have hbias := h.bias
  have hfield : F.magnitude i / 2 ^ F.fractionBits < 2 ^ F.exponentBits - 1 :=
    (Nat.div_lt_iff_lt_mul (Nat.two_pow_pos _)).mpr hfinite
  have hfield' : F.magnitude i / 2 ^ F.fractionBits < 2 ^ F.exponentBits :=
    hfield.trans_le (Nat.sub_le _ _)
  unfold clHalfFrom
  simp only [h.sign hi, h.exponent i, h.mantissa i]
  rw [h.exp hfield']
  generalize hexp : ((F.magnitude i / 2 ^ F.fractionBits : ℕ) - F.bias : ℤ) = exp
  rw [if_neg (by rw [h.expMask]; omega)]
  split_ifs with hzero hover hunder hdenormal
  · have hn : F.magnitude i = 0 := by
      rw [← Nat.div_add_mod' (F.magnitude i) (2 ^ F.fractionBits), hzero.1, hzero.2, Nat.zero_mul]
    have hmark : F.mark 0 = 0 := F.scale.mark_zero
    rw [hn, hmark]
    exact roundsMagnitude_zero mode _
  · apply roundsMagnitude_overflow
    have hover' : (16 : ℤ) ≤ exp := hover
    rw [halfFormat_mark_infinity]
    refine le_trans ?_ (BinaryFormat.binade_le_mark (by omega))
    rw [hexp]
    exact zpow_le_zpow_right₀ one_le_two hover'
  · have hunder' : exp < -25 := hunder
    apply roundsMagnitude_underflow
    · apply Scale.mark_pos (S := F.scale)
      rw [Nat.pos_iff_ne_zero]
      intro hn
      rw [hn] at hzero
      exact hzero ⟨Nat.zero_div _, Nat.zero_mod _⟩
    · rw [halfFormat_mark_one]
      have hlt := F.mark_lt_binade (F.magnitude i)
      have hle : (2 : ℝ) ^ ((F.magnitude i / 2 ^ F.fractionBits : ℕ) + 1 - F.bias : ℤ) ≤
          2 ^ (-25 : ℤ) := zpow_le_zpow_right₀ one_le_two (by omega)
      have hsucc : 2 * (2 : ℝ) ^ (-25 : ℤ) = 2 ^ (-24 : ℤ) := by
        rw [← zpow_one_add₀ two_ne_zero]
        norm_num
      rw [← hsucc]
      exact mul_lt_mul_of_pos_left (hlt.trans_le hle) two_pos
  · have hunder' : ¬exp < -25 := hunder
    exact h.denormal mode _ hexp.symm (by omega) hdenormal
  · have hover' : ¬16 ≤ exp := hover
    exact h.normal mode _ hexp.symm (by omega) (by omega)

end Magnitude

/-! ## The signed result -/

/-- The exponent and the mantissa of the half a NaN becomes: the leading bits of its fraction,
silenced. -/
def halfNaN (F : BinaryFormat) (i : ℕ) : ℕ :=
  CL_HALF_EXP_MASK ||| (F.magnitude i % 2 ^ F.fractionBits / 2 ^ (F.fractionBits - 10) ||| 0x200)

/-- What a conversion of the bits `i` to half precision owes: the sign always, the rounding of a
number, and of a NaN a quiet one with the leading bits of its payload. -/
structure ConvertsToHalf (F : BinaryFormat) (mode : CLHalfRoundingMode) (i : ℕ) (h : UInt16) :
    Prop where
  sign : halfFormat.isNegative h.toNat = F.isNegative i
  isNaN : halfFormat.IsNaN h.toNat ↔ F.IsNaN i
  rounds : ¬F.IsNaN i →
    halfFormat.scale.Rounds mode.direction (F.value i) (halfFormat.index h.toNat)
  payload : F.IsNaN i → halfFormat.magnitude h.toNat = halfNaN F i

/-- The leading bits of a payload fit a mantissa. -/
theorem halfNaN_fits {F : BinaryFormat} (h : 10 ≤ F.fractionBits) (i : ℕ) :
    F.magnitude i % 2 ^ F.fractionBits / 2 ^ (F.fractionBits - 10) < 2 ^ 10 := by
  rw [Nat.div_lt_iff_lt_mul (Nat.two_pow_pos _), ← pow_add]
  exact (Nat.mod_lt _ (Nat.two_pow_pos _)).trans_le (Nat.pow_le_pow_right two_pos (by omega))

/-- The silenced fraction is not zero, so it stays in the place of the mantissa and is a NaN's. -/
theorem halfNaN_bounds {F : BinaryFormat} (h : 10 ≤ F.fractionBits) (i : ℕ) :
    halfFormat.infinity < halfNaN F i ∧ halfNaN F i < 2 ^ 15 := by
  have hfits : F.magnitude i % 2 ^ F.fractionBits / 2 ^ (F.fractionBits - 10) ||| 0x200 < 2 ^ 10 :=
    Nat.or_lt_two_pow (halfNaN_fits h i) (by norm_num)
  have hquiet : 0x200 ≤ F.magnitude i % 2 ^ F.fractionBits / 2 ^ (F.fractionBits - 10) ||| 0x200 :=
    Nat.right_le_or
  have hsum := Nat.shiftLeft_add_eq_or_of_lt hfits 31
  unfold halfNaN
  rw [halfFormat_infinity, show CL_HALF_EXP_MASK = 31 <<< 10 from rfl, ← hsum]
  omega

/-- Rounding the magnitude in the direction of its sign rounds the signed value. -/
theorem RoundsMagnitude.rounds {mode : CLHalfRoundingMode} {s : Bool} {r : ℝ} {h : UInt16}
    (hr : RoundsMagnitude mode s r h) :
    halfFormat.scale.Rounds mode.direction (if s then -(r : EReal) else r)
      (halfFormat.index h.toNat) := by
  obtain ⟨m, hm, hbits, hround⟩ := hr
  rw [hbits, BinaryFormat.index_pack s (hm.trans_lt BinaryFormat.infinity_lt)]
  cases s with
  | false => exact hround
  | true =>
      have hmirror : mode.direction.mirror.mirror = mode.direction := by
        cases mode <;> rfl
      have hneg := hround.neg
      unfold CLHalfRoundingMode.magnitudeDirection at hneg
      rw [if_pos rfl, hmirror] at hneg
      exact hneg

theorem RoundsMagnitude.sign {mode : CLHalfRoundingMode} {s : Bool} {r : ℝ} {h : UInt16}
    (hr : RoundsMagnitude mode s r h) : halfFormat.isNegative h.toNat = s := by
  obtain ⟨m, hm, hbits, _⟩ := hr
  rw [hbits, BinaryFormat.isNegative_pack s (hm.trans_lt BinaryFormat.infinity_lt)]

/-- Rounding leads to no NaN. -/
theorem RoundsMagnitude.not_isNaN {mode : CLHalfRoundingMode} {s : Bool} {r : ℝ} {h : UInt16}
    (hr : RoundsMagnitude mode s r h) : ¬halfFormat.IsNaN h.toNat := by
  obtain ⟨m, hm, hbits, _⟩ := hr
  unfold BinaryFormat.IsNaN
  rw [hbits, BinaryFormat.magnitude_pack s (hm.trans_lt BinaryFormat.infinity_lt)]
  exact not_lt.mpr hm

section Converts

variable {type : CLFloatType} {F : BinaryFormat} (h : type.Describes F)
include h

/-- An infinity becomes an infinity. -/
theorem CLFloatType.Describes.infinite {i : ℕ} (hi : i < 2 ^ type.width)
    (heq : F.magnitude i = F.infinity) (mode : CLHalfRoundingMode) :
    (clHalfFrom type i mode).toNat = halfFormat.pack (F.isNegative i) halfFormat.infinity := by
  have hfield : F.infinity / 2 ^ F.fractionBits = type.expMask :=
    h.expMask ▸ BinaryFormat.div_of_infinity_le le_rfl BinaryFormat.infinity_lt
  have hfraction : F.infinity % 2 ^ F.fractionBits = 0 := Nat.mul_mod_left _ _
  unfold clHalfFrom
  simp only [h.sign hi, h.exponent i, h.mantissa i, heq, hfield, hfraction]
  exact toNat_halfBits _ (show CL_HALF_EXP_MASK < 2 ^ 15 by decide)

/-- A NaN becomes a silenced NaN with the leading bits of its payload. -/
theorem CLFloatType.Describes.nan {i : ℕ} (hi : i < 2 ^ type.width) (hnan : F.IsNaN i)
    (mode : CLHalfRoundingMode) :
    (clHalfFrom type i mode).toNat = halfFormat.pack (F.isNegative i) (halfNaN F i) := by
  have hwide := h.fractionBits
  have hmagnitude : F.magnitude i < 2 ^ (F.exponentBits + F.fractionBits) :=
    Nat.mod_lt _ (Nat.two_pow_pos _)
  have hfield : F.magnitude i / 2 ^ F.fractionBits = type.expMask :=
    h.expMask ▸ BinaryFormat.div_of_infinity_le hnan.le hmagnitude
  have hfraction : F.magnitude i % 2 ^ F.fractionBits ≠ 0 := by
    intro hzero
    have hdivmod := Nat.div_add_mod' (F.magnitude i) (2 ^ F.fractionBits)
    rw [hfield, hzero, Nat.add_zero, h.expMask] at hdivmod
    exact absurd hdivmod hnan.ne
  have hlsb : type.MANT_DIG - CL_HALF_MANT_DIG = F.fractionBits - 10 := by
    rw [h.mantDig]
    unfold CL_HALF_MANT_DIG
    omega
  have hfits := halfNaN_fits (F := F) (by omega) i
  have hmod := Nat.mod_eq_of_lt (hfits.trans (show 2 ^ 10 < 2 ^ 16 by norm_num))
  unfold clHalfFrom
  simp only [h.sign hi, h.exponent i, h.mantissa i, hfield, hlsb, if_true, hfraction,
    ne_eq, not_false_eq_true]
  rw [Nat.shiftRight_eq_div_pow, hmod, Nat.or_assoc]
  exact toNat_halfBits _ (halfNaN_bounds (by omega) i).2

/-- **A conversion to half precision does what it owes**, for every bit pattern and mode. -/
theorem CLFloatType.Describes.converts {i : ℕ} (hi : i < 2 ^ type.width)
    (mode : CLHalfRoundingMode) : ConvertsToHalf F mode i (clHalfFrom type i mode) := by
  rcases lt_trichotomy (F.magnitude i) F.infinity with hlt | heq | hgt
  · have hfinite := h.finite mode hi hlt
    have hnan : ¬F.IsNaN i := not_lt.mpr hlt.le
    constructor
    · exact hfinite.sign
    · exact iff_of_false hfinite.not_isNaN hnan
    · intro _
      rw [BinaryFormat.value_of_magnitude_lt hlt]
      exact hfinite.rounds
    · intro hbad
      exact absurd hbad hnan
  · have hbits := h.infinite hi heq mode
    have hnan : ¬F.IsNaN i := not_lt.mpr heq.le
    have hinf : halfFormat.infinity < 2 ^ (halfFormat.exponentBits + halfFormat.fractionBits) :=
      BinaryFormat.infinity_lt
    have hmagnitude : halfFormat.magnitude (clHalfFrom type i mode).toNat =
        halfFormat.infinity := by
      rw [hbits, BinaryFormat.magnitude_pack _ hinf]
    have hsign : halfFormat.isNegative (clHalfFrom type i mode).toNat = F.isNegative i := by
      rw [hbits, BinaryFormat.isNegative_pack _ hinf]
    have hnumber : ¬halfFormat.IsNaN (clHalfFrom type i mode).toNat := not_lt.mpr hmagnitude.le
    constructor
    · exact hsign
    · exact iff_of_false hnumber hnan
    · intro _
      have hvalue : F.value i = halfFormat.value (clHalfFrom type i mode).toNat := by
        rw [BinaryFormat.value_of_magnitude_eq heq, BinaryFormat.value_of_magnitude_eq hmagnitude,
          hsign]
      rw [hvalue]
      exact Scale.rounds_value _ (BinaryFormat.inRange_index hnumber)
    · intro hbad
      exact absurd hbad hnan
  · have hbits := h.nan hi hgt mode
    have hbounds := halfNaN_bounds (F := F) (by have := h.fractionBits; omega) i
    have hmagnitude : halfFormat.magnitude (clHalfFrom type i mode).toNat = halfNaN F i := by
      rw [hbits]
      exact BinaryFormat.magnitude_pack _ hbounds.2
    constructor
    · rw [hbits]
      exact BinaryFormat.isNegative_pack _ hbounds.2
    · refine iff_of_true ?_ hgt
      unfold BinaryFormat.IsNaN
      rw [hmagnitude]
      exact hbounds.1
    · intro hnumber
      exact absurd hgt hnumber
    · intro _
      exact hmagnitude

end Converts

end MoltenCL
