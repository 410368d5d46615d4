import MoltenCL.HalfRounding

/-! # Widening a half

`cl_half_to_float` ends on every half, and the float it gives has the sign and the value of the
half (`clHalfToFloat_widens`). The denormals are the work: the loop shifts the leading one of the
mantissa to its implicit place and takes the shift back in the exponent.
-/

namespace MoltenCL

open Foundation

/-! ## The loop on a denormal mantissa -/

theorem leading_bit {m : ℕ} (h : m < 2 ^ 11) : m &&& 0x400 = 0 ↔ m < 2 ^ 10 := by
  rw [show 0x400 = 2 ^ 10 from rfl, Nat.and_two_pow, Nat.testBit_eq_decide_div_mod_eq]
  constructor
  · intro hzero
    by_contra hge
    have hone : m / 2 ^ 10 % 2 = 1 := by omega
    rw [hone] at hzero
    exact absurd hzero (by decide)
  · intro hlt
    rw [Nat.div_eq_of_lt hlt]
    decide

/-- With enough iterations for the leading one to come to its place the loop ends there. -/
theorem clHalfNormalize_eq (fuel m shift : ℕ) (hm : m < 2 ^ 11) (hfuel : 2 ^ 11 ≤ m * 2 ^ fuel)
    (hshift : shift + fuel < 2 ^ 32) :
    ∃ s, clHalfNormalize fuel m shift = some (m * 2 ^ s, shift + s) ∧ s < fuel ∧
      2 ^ 10 ≤ m * 2 ^ s ∧ m * 2 ^ s < 2 ^ 11 := by
  induction fuel generalizing m shift with
  | zero =>
      rw [pow_zero, mul_one] at hfuel
      omega
  | succ fuel ih =>
      unfold clHalfNormalize
      by_cases hlt : m < 2 ^ 10
      · rw [if_pos ((leading_bit hm).mpr hlt), Nat.shiftLeft_eq, pow_one,
          Nat.mod_eq_of_lt (by omega), Nat.mod_eq_of_lt (by omega)]
        have hfuel' : 2 ^ 11 ≤ m * 2 * 2 ^ fuel := by
          rwa [Nat.mul_assoc, ← pow_succ']
        obtain ⟨s, heq, hs, hlow, hhigh⟩ := ih (m * 2) (shift + 1) (by omega) hfuel'
          (by omega)
        have hpow : m * 2 * 2 ^ s = m * 2 ^ (s + 1) := by
          rw [Nat.mul_assoc, ← pow_succ']
        rw [hpow] at heq hlow hhigh
        refine ⟨s + 1, ?_, by omega, hlow, hhigh⟩
        rw [heq, Nat.add_assoc, Nat.add_comm 1 s]
      · rw [if_neg (fun hzero => hlt ((leading_bit hm).mp hzero))]
        refine ⟨0, ?_, Nat.succ_pos _, ?_, ?_⟩
        · rw [pow_zero, mul_one, Nat.add_zero]
        · omega
        · omega

/-! ## The bits of a float -/

theorem toNat_floatBits (s : Bool) {n : ℕ} (h : n < 2 ^ 31) :
    (UInt32.ofNat (s.toNat <<< 31 ||| n)).toNat = floatFormat.pack s n := by
  have hpack : floatFormat.pack s n = s.toNat * 2 ^ 31 + n := rfl
  rw [← Nat.shiftLeft_add_eq_or_of_lt h, Nat.shiftLeft_eq, UInt32.toNat_ofNat', hpack]
  apply Nat.mod_eq_of_lt
  have hs := s.toNat_le
  omega

/-- The exponent field and a half's mantissa put together by `|`. -/
theorem toNat_floatFields (s : Bool) {e m : ℕ} (he : e < 2 ^ 8) (hm : m < 2 ^ 10) :
    (UInt32.ofNat (s.toNat <<< 31 ||| e <<< 23 ||| m <<< 13)).toNat =
      floatFormat.pack s (e * 2 ^ 23 + m * 2 ^ 13) := by
  have hmantissa : m * 2 ^ 13 < 2 ^ 23 := by omega
  have hfields : e * 2 ^ 23 + m * 2 ^ 13 < 2 ^ 31 :=
    calc e * 2 ^ 23 + m * 2 ^ 13
        < e * 2 ^ 23 + 2 ^ 23 := Nat.add_lt_add_left hmantissa _
      _ = (e + 1) * 2 ^ 23 := (Nat.succ_mul _ _).symm
      _ ≤ 2 ^ 8 * 2 ^ 23 := Nat.mul_le_mul_right _ he
  rw [Nat.shiftLeft_eq m, Nat.or_assoc, ← Nat.shiftLeft_add_eq_or_of_lt hmantissa,
    Nat.shiftLeft_eq e, toNat_floatBits s hfields]

/-! ## The value of the float -/

/-- What the widening of a half owes: its sign always, its value when it is a number, and of a NaN
a quiet one with the same mantissa. -/
structure WidensHalf (h : UInt16) (f : UInt32) : Prop where
  sign : floatFormat.isNegative f.toNat = halfFormat.isNegative h.toNat
  isNaN : floatFormat.IsNaN f.toNat ↔ halfFormat.IsNaN h.toNat
  value : ¬halfFormat.IsNaN h.toNat → floatFormat.value f.toNat = halfFormat.value h.toNat
  payload : halfFormat.IsNaN h.toNat → floatFormat.magnitude f.toNat =
    floatFormat.infinity + (halfFormat.magnitude h.toNat % 2 ^ 10 ||| 0x200) * 2 ^ 13

section Widens

variable {h : UInt16} {f : UInt32} {n : ℕ}

/-- A float with the sign of the half and fields that mark the same magnitude. -/
theorem widensHalf_of_mark (hf : f.toNat = floatFormat.pack (halfFormat.isNegative h.toNat) n)
    (hfinite : halfFormat.magnitude h.toNat < halfFormat.infinity) (hn : n < floatFormat.infinity)
    (hmark : floatFormat.mark n = halfFormat.mark (halfFormat.magnitude h.toNat)) :
    WidensHalf h f := by
  have hlt := hn.trans BinaryFormat.infinity_lt
  have hmagnitude : floatFormat.magnitude f.toNat = n := by
    rw [hf, BinaryFormat.magnitude_pack _ hlt]
  have hsign : floatFormat.isNegative f.toNat = halfFormat.isNegative h.toNat := by
    rw [hf, BinaryFormat.isNegative_pack _ hlt]
  have hnan : ¬halfFormat.IsNaN h.toNat := not_lt.mpr hfinite.le
  constructor
  · exact hsign
  · refine iff_of_false ?_ hnan
    unfold BinaryFormat.IsNaN
    rw [hmagnitude]
    exact not_lt.mpr hn.le
  · intro _
    rw [BinaryFormat.value_of_magnitude_lt (hmagnitude ▸ hn),
      BinaryFormat.value_of_magnitude_lt hfinite, hsign, hmagnitude, hmark]
  · intro hbad
    exact absurd hbad hnan

theorem widensHalf_infinity
    (hf : f.toNat = floatFormat.pack (halfFormat.isNegative h.toNat) floatFormat.infinity)
    (hinfinite : halfFormat.magnitude h.toNat = halfFormat.infinity) : WidensHalf h f := by
  have hmagnitude : floatFormat.magnitude f.toNat = floatFormat.infinity := by
    rw [hf, BinaryFormat.magnitude_pack _ BinaryFormat.infinity_lt]
  have hsign : floatFormat.isNegative f.toNat = halfFormat.isNegative h.toNat := by
    rw [hf, BinaryFormat.isNegative_pack _ BinaryFormat.infinity_lt]
  have hnan : ¬halfFormat.IsNaN h.toNat := not_lt.mpr hinfinite.le
  constructor
  · exact hsign
  · exact iff_of_false (not_lt.mpr hmagnitude.le) hnan
  · intro _
    rw [BinaryFormat.value_of_magnitude_eq hmagnitude,
      BinaryFormat.value_of_magnitude_eq hinfinite, hsign]
  · intro hbad
    exact absurd hbad hnan

theorem widensHalf_nan (hnan : halfFormat.IsNaN h.toNat)
    (hf : f.toNat = floatFormat.pack (halfFormat.isNegative h.toNat)
      (floatFormat.infinity + (halfFormat.magnitude h.toNat % 2 ^ 10 ||| 0x200) * 2 ^ 13)) :
    WidensHalf h f := by
  have hfits : halfFormat.magnitude h.toNat % 2 ^ 10 ||| 0x200 < 2 ^ 10 :=
    Nat.or_lt_two_pow (Nat.mod_lt _ (Nat.two_pow_pos _)) (by norm_num)
  have hquiet : 0x200 ≤ halfFormat.magnitude h.toNat % 2 ^ 10 ||| 0x200 := Nat.right_le_or
  have hinfinity : floatFormat.infinity = 0x7F800000 := rfl
  have hlt : floatFormat.infinity + (halfFormat.magnitude h.toNat % 2 ^ 10 ||| 0x200) * 2 ^ 13 <
      2 ^ (floatFormat.exponentBits + floatFormat.fractionBits) := by
    rw [hinfinity]
    show _ < 0x80000000
    omega
  have hmagnitude := BinaryFormat.magnitude_pack (halfFormat.isNegative h.toNat) hlt
  rw [← hf] at hmagnitude
  constructor
  · rw [hf, BinaryFormat.isNegative_pack _ hlt]
  · refine iff_of_true ?_ hnan
    unfold BinaryFormat.IsNaN
    rw [hmagnitude]
    omega
  · intro hnumber
    exact absurd hnan hnumber
  · intro _
    exact hmagnitude

end Widens

/-- A normal float whose mantissa is a half's. -/
theorem floatFormat_mark {e m : ℕ} (he : 0 < e) (hm : m < 2 ^ 10) :
    floatFormat.mark (e * 2 ^ 23 + m * 2 ^ 13) =
      ((2 ^ 10 + m : ℕ) : ℝ) * 2 ^ ((e : ℤ) - 137) := by
  have hmantissa : m * 2 ^ 13 < 2 ^ 23 := by omega
  have hdiv : (e * 2 ^ 23 + m * 2 ^ 13) / 2 ^ floatFormat.fractionBits = e := by
    show (e * 2 ^ 23 + m * 2 ^ 13) / 2 ^ 23 = e
    omega
  have hmod : (e * 2 ^ 23 + m * 2 ^ 13) % 2 ^ floatFormat.fractionBits = m * 2 ^ 13 := by
    show (e * 2 ^ 23 + m * 2 ^ 13) % 2 ^ 23 = m * 2 ^ 13
    omega
  have hexponent : ((e : ℤ) - floatFormat.bias - floatFormat.fractionBits) = -13 + (e - 137) := by
    show (e : ℤ) - 127 - 23 = _
    omega
  rw [BinaryFormat.mark_normal (by rw [hdiv]; exact he), hdiv, hmod, hexponent,
    zpow_add₀ two_ne_zero]
  show ((2 ^ 23 + m * 2 ^ 13 : ℕ) : ℝ) * _ = _
  push_cast
  ring

/-- A normal half. -/
theorem halfFormat_mark {e m : ℕ} (he : 0 < e) (hm : m < 2 ^ 10) :
    halfFormat.mark (e * 2 ^ 10 + m) = ((2 ^ 10 + m : ℕ) : ℝ) * 2 ^ ((e : ℤ) - 25) := by
  have hdiv : (e * 2 ^ 10 + m) / 2 ^ halfFormat.fractionBits = e := by
    show (e * 2 ^ 10 + m) / 2 ^ 10 = e
    omega
  have hmod : (e * 2 ^ 10 + m) % 2 ^ halfFormat.fractionBits = m := by
    show (e * 2 ^ 10 + m) % 2 ^ 10 = m
    omega
  have hexponent : ((e : ℤ) - halfFormat.bias - halfFormat.fractionBits) = e - 25 := by
    show (e : ℤ) - 15 - 10 = _
    omega
  rw [BinaryFormat.mark_normal (by rw [hdiv]; exact he), hdiv, hmod, hexponent]
  rfl

/-- A denormal half. -/
theorem halfFormat_mark_denormal {m : ℕ} (hm : m < 2 ^ 10) :
    halfFormat.mark m = (m : ℝ) * 2 ^ (-24 : ℤ) := by
  have h := BinaryFormat.mark_add (F := halfFormat) (b := 0) (s := m) (Or.inl rfl)
    (hm.le.trans (by decide))
  rw [Nat.zero_mul, Nat.zero_add, halfFormat_leastExponent] at h
  exact h

/-! ## The conversion -/

/-- A denormal half: its leading one is made the implicit one. -/
theorem denormal_widens {m : ℕ} (hpos : 0 < m) (hm : m < 2 ^ 10) (s : Bool) :
    ∃ f n, (match clHalfNormalize CL_HALF_MANT_DIG m 0 with
      | none => none
      | some (hMant, shift) => some (UInt32.ofNat (s.toNat <<< 31 |||
          ((112 + 2 ^ 32 - (shift + 2 ^ 32 - 1) % 2 ^ 32) % 2 ^ 32) <<< 23 |||
          (hMant &&& 0x3FF) <<< 13))) = some f ∧
      f.toNat = floatFormat.pack s n ∧ n < floatFormat.infinity ∧
      floatFormat.mark n = halfFormat.mark m := by
  obtain ⟨k, heq, hk, hlow, hhigh⟩ := clHalfNormalize_eq CL_HALF_MANT_DIG m 0
    (hm.trans (by norm_num)) (Nat.le_mul_of_pos_left _ hpos) (by decide)
  have hk0 : 0 < k := by
    by_contra hzero
    have hk' : k = 0 := by omega
    rw [hk', pow_zero, mul_one] at hlow
    omega
  have hk11 : k < 11 := hk
  have hmant : m * 2 ^ k &&& 0x3FF = m * 2 ^ k - 2 ^ 10 := by
    rw [show 0x3FF = 2 ^ 10 - 1 from rfl, Nat.and_two_pow_sub_one_eq_mod]
    omega
  have hexp : (112 + 2 ^ 32 - (0 + k + 2 ^ 32 - 1) % 2 ^ 32) % 2 ^ 32 = 113 - k := by
    omega
  have hfits : m * 2 ^ k - 2 ^ 10 < 2 ^ 10 := by omega
  refine ⟨_, (113 - k) * 2 ^ 23 + (m * 2 ^ k - 2 ^ 10) * 2 ^ 13, by rw [heq], ?_, ?_, ?_⟩
  · rw [hmant, hexp]
    exact toNat_floatFields s (by omega) hfits
  · show _ < 0x7F800000
    omega
  · have hsum : 2 ^ 10 + (m * 2 ^ k - 2 ^ 10) = m * 2 ^ k := by omega
    have hexponent : ((113 - k : ℕ) : ℤ) - 137 = -24 - k := by omega
    rw [floatFormat_mark (by omega) hfits, halfFormat_mark_denormal hm, hsum, hexponent,
      zpow_sub₀ two_ne_zero, zpow_natCast]
    push_cast
    field_simp

/-- Every half is widened; the loop does not run out of iterations. -/
theorem clHalfToFloat_widens (h : UInt16) : ∃ f, clHalfToFloat h = some f ∧ WidensHalf h f := by
  have hbits : h.toNat < 2 ^ (halfFormat.exponentBits + halfFormat.fractionBits + 1) := h.toNat_lt
  have hsign : h.toNat >>> 15 = (halfFormat.isNegative h.toNat).toNat := by
    rw [BinaryFormat.toNat_isNegative hbits, Nat.shiftRight_eq_div_pow]
    rfl
  have hexp : (h.toNat >>> (CL_HALF_MANT_DIG - 1)) &&& 0x1F =
      halfFormat.magnitude h.toNat / 2 ^ 10 := by
    show h.toNat >>> 10 &&& 2 ^ 5 - 1 = h.toNat % 2 ^ 15 / 2 ^ 10
    rw [Nat.shiftRight_eq_div_pow, Nat.and_two_pow_sub_one_eq_mod]
    omega
  have hmant : h.toNat &&& 0x3FF = halfFormat.magnitude h.toNat % 2 ^ 10 := by
    show h.toNat &&& 2 ^ 10 - 1 = h.toNat % 2 ^ 15 % 2 ^ 10
    rw [Nat.and_two_pow_sub_one_eq_mod]
    omega
  have hlt : halfFormat.magnitude h.toNat < 2 ^ 15 := Nat.mod_lt _ (Nat.two_pow_pos _)
  have hinfinity : halfFormat.infinity = 31 * 2 ^ 10 := rfl
  have hfloat : floatFormat.infinity = 255 * 2 ^ 23 := rfl
  have hm : halfFormat.magnitude h.toNat % 2 ^ 10 < 2 ^ 10 := Nat.mod_lt _ (Nat.two_pow_pos _)
  have hdivmod := Nat.div_add_mod' (halfFormat.magnitude h.toNat) (2 ^ 10)
  unfold clHalfToFloat
  simp only [hsign, hexp, hmant]
  split_ifs with he hnan he0 hm0
  · have hquiet : halfFormat.magnitude h.toNat % 2 ^ 10 ||| 0x200 < 2 ^ 10 :=
      Nat.or_lt_two_pow hm (by norm_num)
    have hfields : (halfFormat.magnitude h.toNat % 2 ^ 10) <<<
        (CL_FLT_MANT_DIG - CL_HALF_MANT_DIG) ||| 0x400000 =
        (halfFormat.magnitude h.toNat % 2 ^ 10 ||| 0x200) <<< 13 := by
      rw [Nat.shiftLeft_or_distrib]
      rfl
    refine ⟨_, rfl, widensHalf_nan (by unfold BinaryFormat.IsNaN; omega) ?_⟩
    rw [hfields, hfloat]
    exact toNat_floatFields _ (e := 255) (by norm_num) hquiet
  · refine ⟨_, rfl, widensHalf_infinity ?_ (by omega)⟩
    exact toNat_floatBits _ (by norm_num)
  · have hzero : halfFormat.magnitude h.toNat = 0 := by omega
    refine ⟨_, rfl, widensHalf_of_mark (n := 0) ?_ (by omega) (by omega) ?_⟩
    · rw [hm0]
      exact toNat_floatFields _ (e := 0) (m := 0) (by norm_num) (by norm_num)
    · rw [hzero]
      exact floatFormat.scale.mark_zero.trans halfFormat.scale.mark_zero.symm
  · have hmagnitude : halfFormat.magnitude h.toNat = halfFormat.magnitude h.toNat % 2 ^ 10 := by
      omega
    obtain ⟨f, n, hf, hpack, hn, hmark⟩ := denormal_widens (Nat.pos_of_ne_zero hm0) hm
      (halfFormat.isNegative h.toNat)
    refine ⟨f, ?_, widensHalf_of_mark hpack (by omega) hn (hmagnitude ▸ hmark)⟩
    rw [he0]
    exact hf
  · have hexponent : (((halfFormat.magnitude h.toNat / 2 ^ 10 : ℕ) - CL_HALF_MAX_EXP + 1 +
        CL_FLT_MAX_EXP - 1 : ℤ) % 2 ^ 32).toNat = halfFormat.magnitude h.toNat / 2 ^ 10 + 112 := by
      unfold CL_HALF_MAX_EXP CL_FLT_MAX_EXP
      omega
    rw [hexponent]
    refine ⟨_, rfl, widensHalf_of_mark (toNat_floatFields _ ?_ hm) (by omega) ?_ ?_⟩
    · omega
    · omega
    · have hexp' : ((halfFormat.magnitude h.toNat / 2 ^ 10 + 112 : ℕ) : ℤ) - 137 =
          (halfFormat.magnitude h.toNat / 2 ^ 10 : ℕ) - 25 := by omega
      rw [floatFormat_mark (by omega) hm, hexp', ← halfFormat_mark (by omega) hm, hdivmod]

end MoltenCL
