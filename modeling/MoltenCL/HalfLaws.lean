import MoltenCL.HalfWidening

/-! # Laws of the conversions to half precision

What a client may rely on whichever of the two types it converts from: the result depends on the
value and the sign alone, keeps their order, is one of the two halves around the value, and
mirrors with the sign; a half that was widened comes back unchanged. All of these follow from the
rounding being correct, since a value has one rounding.
-/

namespace MoltenCL

open Foundation

/-- A value of one of the two types a half is converted from. -/
inductive HalfSource where
  | float (f : UInt32)
  | double (d : UInt64)

namespace HalfSource

/-- The format of its type. -/
def format : HalfSource → BinaryFormat
  | float _ => floatFormat
  | double _ => doubleFormat

/-- Its bits. -/
def bits : HalfSource → ℕ
  | float f => f.toNat
  | double d => d.toNat

/-- The conversion of its type. -/
def toHalf (x : HalfSource) (roundingMode : CLHalfRoundingMode) : UInt16 :=
  match x with
  | float f => clHalfFromFloat f roundingMode
  | double d => clHalfFromDouble d roundingMode

def IsNaN (x : HalfSource) : Prop := x.format.IsNaN x.bits

def isNegative (x : HalfSource) : Bool := x.format.isNegative x.bits

/-- The number it denotes; of no use for a NaN. -/
noncomputable def value (x : HalfSource) : EReal := x.format.value x.bits

/-- The value with the other sign: the sign bit flipped. -/
def negate : HalfSource → HalfSource
  | float f => float (f ^^^ 0x80000000)
  | double d => double (d ^^^ 0x8000000000000000)

end HalfSource

/-- Of every float and every double the conversion gives the correctly rounded half. -/
theorem HalfSource.toHalf_converts (x : HalfSource) (mode : CLHalfRoundingMode) :
    ConvertsToHalf x.format mode x.bits (x.toHalf mode) := by
  cases x with
  | float f => exact clFloat_describes.converts f.toNat_lt mode
  | double d => exact clDouble_describes.converts d.toNat_lt mode

/-- **The conversions round correctly**, every float and every double in every mode. -/
theorem half_conversions_round (mode : CLHalfRoundingMode) :
    (∀ f : UInt32, ConvertsToHalf floatFormat mode f.toNat (clHalfFromFloat f mode)) ∧
      ∀ d : UInt64, ConvertsToHalf doubleFormat mode d.toNat (clHalfFromDouble d mode) := by
  constructor
  · intro f
    exact clFloat_describes.converts f.toNat_lt mode
  · intro d
    exact clDouble_describes.converts d.toNat_lt mode

/-- A positive power of two of either type. -/
theorem HalfSource.value_binade {x : HalfSource} {e : ℕ} (hpos : 0 < e)
    (hsign : x.isNegative = false)
    (hbits : x.format.magnitude x.bits = e * 2 ^ x.format.fractionBits)
    (hlt : x.format.magnitude x.bits < x.format.infinity) :
    x.value = ((2 ^ ((e : ℤ) - x.format.bias) : ℝ) : EReal) := by
  have hsign' : x.format.isNegative x.bits = false := hsign
  unfold HalfSource.value
  rw [BinaryFormat.value_of_magnitude_lt hlt, hsign', hbits, BinaryFormat.mark_binade hpos]
  rfl

theorem HalfSource.value_float_one : (HalfSource.float 0x3F800000).value = (1 : ℝ) := by
  rw [value_binade (e := 127) (by norm_num) (by decide) (by decide) (by decide)]
  show ((2 ^ (0 : ℤ) : ℝ) : EReal) = (1 : ℝ)
  rw [zpow_zero]

theorem HalfSource.value_double_one : (HalfSource.double 0x3FF0000000000000).value = (1 : ℝ) := by
  rw [value_binade (e := 1023) (by norm_num) (by decide) (by decide) (by decide)]
  show ((2 ^ (0 : ℤ) : ℝ) : EReal) = (1 : ℝ)
  rw [zpow_zero]

theorem HalfSource.value_double_two : (HalfSource.double 0x4000000000000000).value = (2 : ℝ) := by
  rw [value_binade (e := 1024) (by norm_num) (by decide) (by decide) (by decide)]
  show ((2 ^ (1 : ℤ) : ℝ) : EReal) = (2 : ℝ)
  rw [zpow_one]

/-! ## The result depends on the value -/

theorem halfBits_lt (h : UInt16) :
    h.toNat < 2 ^ (halfFormat.exponentBits + halfFormat.fractionBits + 1) :=
  h.toNat_lt

/-- A half is its sign and its place on the scale. -/
theorem half_ext {h h' : UInt16}
    (hsign : halfFormat.isNegative h.toNat = halfFormat.isNegative h'.toNat)
    (hindex : halfFormat.index h.toNat = halfFormat.index h'.toNat) : h = h' :=
  UInt16.toNat_inj.mp
    (BinaryFormat.eq_of_index_eq (halfBits_lt h) (halfBits_lt h') hsign hindex)

/-- Conversions keep the order of the values, also between the two types. -/
theorem toHalf_mono (mode : CLHalfRoundingMode) {x y : HalfSource} (hx : ¬x.IsNaN) (hy : ¬y.IsNaN)
    (h : x.value ≤ y.value) :
    halfFormat.value (x.toHalf mode).toNat ≤ halfFormat.value (y.toHalf mode).toNat := by
  have hxr := (x.toHalf_converts mode).rounds hx
  have hyr := (y.toHalf_converts mode).rounds hy
  exact (Scale.value_le_iff hxr.inRange hyr.inRange).mpr (hxr.mono h hyr)

/-- The float one and the double two. -/
theorem toHalf_mono_one_two :
    halfFormat.value ((HalfSource.float 0x3F800000).toHalf .rtp).toNat ≤
      halfFormat.value ((HalfSource.double 0x4000000000000000).toHalf .rtp).toNat := by
  apply toHalf_mono .rtp (by unfold HalfSource.IsNaN; decide) (by unfold HalfSource.IsNaN; decide)
  rw [HalfSource.value_float_one, HalfSource.value_double_two]
  exact EReal.coe_le_coe_iff.mpr one_le_two

/-- A float and a double of one value and one sign become the same half. -/
theorem toHalf_congr (mode : CLHalfRoundingMode) {x y : HalfSource} (hx : ¬x.IsNaN)
    (hy : ¬y.IsNaN) (hvalue : x.value = y.value) (hsign : x.isNegative = y.isNegative) :
    x.toHalf mode = y.toHalf mode := by
  have hxr := (x.toHalf_converts mode).rounds hx
  have hyr := (y.toHalf_converts mode).rounds hy
  have hvalue' : x.format.value x.bits = y.format.value y.bits := hvalue
  rw [hvalue'] at hxr
  apply half_ext
  · rw [(x.toHalf_converts mode).sign, (y.toHalf_converts mode).sign]
    exact hsign
  · exact hxr.unique hyr

/-- The float one and the double one. -/
theorem toHalf_congr_one :
    (HalfSource.float 0x3F800000).toHalf .rte =
      (HalfSource.double 0x3FF0000000000000).toHalf .rte :=
  toHalf_congr .rte (by unfold HalfSource.IsNaN; decide) (by unfold HalfSource.IsNaN; decide)
    (by rw [HalfSource.value_float_one, HalfSource.value_double_one]) (by decide)

/-! ## The directed conversions -/

/-- The two directed conversions enclose the value, and every other one gives one of the two. -/
theorem toHalf_encloses (x : HalfSource) (hx : ¬x.IsNaN) :
    halfFormat.value (x.toHalf .rtn).toNat ≤ x.value ∧
      x.value ≤ halfFormat.value (x.toHalf .rtp).toNat ∧
      ∀ mode, x.toHalf mode = x.toHalf .rtn ∨ x.toHalf mode = x.toHalf .rtp := by
  have hlow : halfFormat.scale.Below x.value _ := (x.toHalf_converts .rtn).rounds hx
  have hhigh : halfFormat.scale.Above x.value _ := (x.toHalf_converts .rtp).rounds hx
  refine ⟨hlow.1.2, hhigh.1.2, ?_⟩
  intro mode
  have hsign (mode' : CLHalfRoundingMode) :
      halfFormat.isNegative (x.toHalf mode).toNat =
        halfFormat.isNegative (x.toHalf mode').toNat := by
    rw [(x.toHalf_converts mode).sign, (x.toHalf_converts mode').sign]
  rcases ((x.toHalf_converts mode).rounds hx).below_or_above with hbelow | habove
  · left
    exact half_ext (hsign .rtn) (hbelow.unique hlow)
  · right
    exact half_ext (hsign .rtp) (habove.unique hhigh)

/-- A third as a float, which no half equals. -/
theorem toHalf_encloses_third :
    halfFormat.value ((HalfSource.float 0x3EAAAAAB).toHalf .rtn).toNat ≤
        (HalfSource.float 0x3EAAAAAB).value ∧
      (HalfSource.float 0x3EAAAAAB).value ≤
        halfFormat.value ((HalfSource.float 0x3EAAAAAB).toHalf .rtp).toNat ∧
      ∀ mode,
        (HalfSource.float 0x3EAAAAAB).toHalf mode = (HalfSource.float 0x3EAAAAAB).toHalf .rtn ∨
        (HalfSource.float 0x3EAAAAAB).toHalf mode = (HalfSource.float 0x3EAAAAAB).toHalf .rtp :=
  toHalf_encloses _ (by unfold HalfSource.IsNaN; decide)

/-! ## The mirror at zero -/

/-- The mode that rounds the other way. -/
def CLHalfRoundingMode.mirror : CLHalfRoundingMode → CLHalfRoundingMode
  | rte => rte
  | rtz => rtz
  | rtp => rtn
  | rtn => rtp

/-- The mirrored mode rounds in the mirrored direction. -/
theorem CLHalfRoundingMode.direction_mirror (mode : CLHalfRoundingMode) :
    mode.mirror.direction = mode.direction.mirror := by
  cases mode <;> rfl

theorem HalfSource.format_negate (x : HalfSource) : x.negate.format = x.format := by
  cases x <;> rfl

/-- Negation flips the sign bit of the format. -/
theorem HalfSource.bits_negate (x : HalfSource) : x.negate.bits = x.format.flipSign x.bits := by
  have hfloat : (0x80000000 : UInt32).toNat =
      2 ^ (floatFormat.exponentBits + floatFormat.fractionBits) := by decide
  have hdouble : (0x8000000000000000 : UInt64).toNat =
      2 ^ (doubleFormat.exponentBits + doubleFormat.fractionBits) := by decide
  unfold BinaryFormat.flipSign
  cases x with
  | float f =>
      show (f ^^^ 0x80000000).toNat = f.toNat ^^^ _
      rw [UInt32.toNat_xor, hfloat]
      rfl
  | double d =>
      show (d ^^^ 0x8000000000000000).toNat = d.toNat ^^^ _
      rw [UInt64.toNat_xor, hdouble]
      rfl

/-- The top bit of a half is its sign. -/
theorem half_flipSign (h : UInt16) : (h ^^^ 0x8000).toNat = halfFormat.flipSign h.toNat :=
  UInt16.toNat_xor h 0x8000

/-- Converting the negated value in the mirrored mode negates the half, NaNs included. -/
theorem toHalf_negate (x : HalfSource) (mode : CLHalfRoundingMode) :
    x.negate.toHalf mode.mirror = x.toHalf mode ^^^ 0x8000 := by
  have hx := x.toHalf_converts mode
  have hneg := x.negate.toHalf_converts mode.mirror
  rw [x.format_negate, x.bits_negate] at hneg
  have hsign : halfFormat.isNegative (x.negate.toHalf mode.mirror).toNat =
      halfFormat.isNegative (x.toHalf mode ^^^ 0x8000).toNat := by
    rw [half_flipSign, BinaryFormat.isNegative_flipSign, hx.sign, hneg.sign,
      BinaryFormat.isNegative_flipSign]
  apply half_ext hsign
  by_cases hnan : x.format.IsNaN x.bits
  · have hmagnitude : halfFormat.magnitude (x.negate.toHalf mode.mirror).toNat =
        halfFormat.magnitude (x.toHalf mode ^^^ 0x8000).toNat := by
      rw [half_flipSign, BinaryFormat.magnitude_flipSign, hx.payload hnan,
        hneg.payload ((BinaryFormat.isNaN_flipSign _).mpr hnan)]
      unfold halfNaN
      rw [BinaryFormat.magnitude_flipSign]
    unfold BinaryFormat.index
    rw [hsign, hmagnitude]
  · have hrounds := hneg.rounds (fun hbad => hnan ((BinaryFormat.isNaN_flipSign _).mp hbad))
    rw [mode.direction_mirror, BinaryFormat.value_flipSign] at hrounds
    rw [half_flipSign, BinaryFormat.index_flipSign]
    exact hrounds.unique (hx.rounds hnan).neg

/-! ## There and back -/

/-- The bits of a half that is a NaN. -/
theorem nan_bits {h : UInt16} (hnan : halfFormat.IsNaN h.toNat) :
    halfFormat.magnitude h.toNat =
      CL_HALF_EXP_MASK ||| halfFormat.magnitude h.toNat % 2 ^ 10 := by
  have hlt : halfFormat.magnitude h.toNat < 2 ^ 15 := Nat.mod_lt _ (Nat.two_pow_pos _)
  have hinfinity : halfFormat.infinity < halfFormat.magnitude h.toNat := hnan
  rw [halfFormat_infinity] at hinfinity
  have hmod : halfFormat.magnitude h.toNat % 2 ^ 10 < 2 ^ 10 := Nat.mod_lt _ (Nat.two_pow_pos _)
  rw [show CL_HALF_EXP_MASK = 31 <<< 10 from rfl, ← Nat.shiftLeft_add_eq_or_of_lt hmod,
    Nat.shiftLeft_eq]
  omega

/-- Silencing sets the leading bit of the mantissa. -/
theorem magnitude_silence (h : UInt16) :
    halfFormat.magnitude (h ||| 0x200).toNat = halfFormat.magnitude h.toNat ||| 0x200 := by
  show (h ||| 0x200).toNat % 2 ^ 15 = h.toNat % 2 ^ 15 ||| 0x200
  rw [UInt16.toNat_or, Nat.or_mod_two_pow]
  rfl

/-- Silencing keeps the sign. -/
theorem isNegative_silence (h : UInt16) :
    halfFormat.isNegative (h ||| 0x200).toNat = halfFormat.isNegative h.toNat := by
  show (h ||| 0x200).toNat.testBit 15 = h.toNat.testBit 15
  rw [UInt16.toNat_or, Nat.testBit_or]
  exact Bool.or_false _

/-- The two conversions of a NaN keep its mantissa and silence it. -/
theorem halfNaN_widened {h : UInt16} {f : UInt32} (hwide : WidensHalf h f)
    (hnan : halfFormat.IsNaN h.toNat) :
    halfNaN floatFormat f.toNat = halfFormat.magnitude (h ||| 0x200).toNat := by
  have hinfinity : floatFormat.infinity = 255 * 2 ^ 23 := rfl
  have hquiet : halfFormat.magnitude h.toNat % 2 ^ 10 ||| 0x200 < 2 ^ 10 :=
    Nat.or_lt_two_pow (Nat.mod_lt _ (Nat.two_pow_pos _)) (by norm_num)
  have hfraction : floatFormat.magnitude f.toNat % 2 ^ 23 / 2 ^ 13 =
      halfFormat.magnitude h.toNat % 2 ^ 10 ||| 0x200 := by
    rw [hwide.payload hnan, hinfinity]
    omega
  unfold halfNaN
  show CL_HALF_EXP_MASK ||| (floatFormat.magnitude f.toNat % 2 ^ 23 / 2 ^ 13 ||| 0x200) = _
  rw [hfraction, magnitude_silence, nan_bits hnan, Nat.or_assoc, Nat.or_self, Nat.or_assoc,
    ← nan_bits hnan]

/-- **There and back.** Every half is widened to a float of its sign and value, a NaN to a quiet
one, and converting the float back gives the half in every mode, a NaN silenced. -/
theorem clHalfFromFloat_clHalfToFloat (h : UInt16) :
    ∃ f, clHalfToFloat h = some f ∧ WidensHalf h f ∧
      ∀ mode, clHalfFromFloat f mode = if halfFormat.IsNaN h.toNat then h ||| 0x200 else h := by
  obtain ⟨f, hf, hwide⟩ := clHalfToFloat_widens h
  refine ⟨f, hf, hwide, ?_⟩
  intro mode
  have hback := (HalfSource.float f).toHalf_converts mode
  split_ifs with hnan
  · have hsign : halfFormat.isNegative (clHalfFromFloat f mode).toNat =
        halfFormat.isNegative (h ||| 0x200).toNat := by
      rw [isNegative_silence]
      exact hback.sign.trans hwide.sign
    have hmagnitude : halfFormat.magnitude (clHalfFromFloat f mode).toNat =
        halfFormat.magnitude (h ||| 0x200).toNat :=
      (hback.payload (hwide.isNaN.mpr hnan)).trans (halfNaN_widened hwide hnan)
    apply half_ext hsign
    unfold BinaryFormat.index
    rw [hsign, hmagnitude]
  · apply half_ext
    · exact hback.sign.trans hwide.sign
    · have hrounds := hback.rounds (fun hbad => hnan (hwide.isNaN.mp hbad))
      have hvalue : (HalfSource.float f).format.value (HalfSource.float f).bits =
          halfFormat.scale.value (halfFormat.index h.toNat) := hwide.value hnan
      rw [hvalue] at hrounds
      exact hrounds.unique (Scale.rounds_value _ (BinaryFormat.inRange_index hnan))

end MoltenCL
