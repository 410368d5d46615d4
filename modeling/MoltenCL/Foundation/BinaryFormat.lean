import Mathlib.Algebra.Order.Field.Power
import Mathlib.Tactic.IntervalCases
import MoltenCL.Foundation.Rounding

/-!
# Binary floating point formats

A bit pattern is a sign, an exponent field and a fraction field. The two fields read as one number
are the number of a mark: the marks of a format, denormal and normal, are one increasing scale.
-/

namespace Foundation

/-- The widths of the fields of a binary format. -/
structure BinaryFormat where
  exponentBits : ℕ
  fractionBits : ℕ
  exponentBits_pos : 0 < exponentBits

namespace BinaryFormat

variable (F : BinaryFormat)

/-- What an exponent field exceeds its exponent by. -/
def bias : ℕ := 2 ^ (F.exponentBits - 1) - 1

/-- The exponent of the least denormal. -/
def leastExponent : ℤ := 1 - F.bias - F.fractionBits

/-- The exponent and fraction fields of infinity. -/
def infinity : ℕ := (2 ^ F.exponentBits - 1) * 2 ^ F.fractionBits

/-- The magnitude of an exponent and a fraction field read as one number, denormal when the
exponent field is zero, else with the implicit leading one. -/
noncomputable def mark (n : ℕ) : ℝ :=
  if n / 2 ^ F.fractionBits = 0 then n * 2 ^ F.leastExponent
  else ((2 ^ F.fractionBits + n % 2 ^ F.fractionBits : ℕ) : ℝ) *
    2 ^ (F.leastExponent + (n / 2 ^ F.fractionBits - 1 : ℕ))

/-- The exponent and fraction fields of a bit pattern. -/
def magnitude (bits : ℕ) : ℕ := bits % 2 ^ (F.exponentBits + F.fractionBits)

/-- The sign bit of a bit pattern. -/
def isNegative (bits : ℕ) : Bool := bits.testBit (F.exponentBits + F.fractionBits)

/-- Infinity's exponent field with a fraction that is not zero. -/
def IsNaN (bits : ℕ) : Prop := F.infinity < F.magnitude bits

instance (bits : ℕ) : Decidable (F.IsNaN bits) := inferInstanceAs (Decidable (_ < _))

/-- The signed number of the mark a bit pattern denotes. -/
def index (bits : ℕ) : ℤ := if F.isNegative bits then -F.magnitude bits else F.magnitude bits

variable {F}

/-- Within two neighbouring binades, or from zero on, the marks are the multiples of one power. -/
theorem mark_add {b s : ℕ} (hlow : b = 0 ∨ 2 ^ F.fractionBits ≤ s)
    (hhigh : s ≤ 2 ^ (F.fractionBits + 1)) :
    F.mark (b * 2 ^ F.fractionBits + s) = s * 2 ^ (F.leastExponent + b) := by
  have hpos : 0 < 2 ^ F.fractionBits := Nat.two_pow_pos _
  rw [pow_succ] at hhigh
  unfold mark
  rw [Nat.add_comm, Nat.add_mul_div_right _ _ hpos, Nat.add_mul_mod_self_right]
  rcases Nat.lt_or_ge s (2 ^ F.fractionBits) with hlt | hge
  · have hb : b = 0 := by omega
    rw [hb, Nat.div_eq_of_lt hlt]
    simp
  · rcases Nat.lt_or_ge s (2 * 2 ^ F.fractionBits) with hlt' | hge'
    · have hdiv : s / 2 ^ F.fractionBits = 1 := by
        rw [Nat.div_eq_iff hpos]
        omega
      have hmod : 2 ^ F.fractionBits + s % 2 ^ F.fractionBits = s := by
        rw [Nat.mod_eq_sub_mod hge, Nat.mod_eq_of_lt (by omega)]
        omega
      rw [hdiv, if_neg (by omega), hmod, Nat.add_comm 1 b, Nat.add_sub_cancel]
    · have hs : s = 2 * 2 ^ F.fractionBits := by omega
      have hexp : (F.leastExponent + (2 + b - 1 : ℕ) : ℤ) = F.leastExponent + b + 1 := by omega
      rw [hs, Nat.mul_div_cancel _ hpos, Nat.mul_mod_left, if_neg (by omega), Nat.add_zero, hexp,
        zpow_add_one₀ two_ne_zero]
      push_cast
      ring

/-- Read as one number, the fields have the order of the magnitudes. -/
theorem mark_strictMono : StrictMono F.mark := by
  apply strictMono_nat_of_lt_succ
  intro n
  have hpos : 0 < 2 ^ F.fractionBits := Nat.two_pow_pos _
  have hdivmod := Nat.div_add_mod' n (2 ^ F.fractionBits)
  have hmod := Nat.mod_lt n hpos
  -- the binade of `n`, the denormals being in the one of the least normals
  obtain ⟨b, s, hn, hlow, hhigh⟩ : ∃ b s, n = b * 2 ^ F.fractionBits + s ∧
      (b = 0 ∨ 2 ^ F.fractionBits ≤ s) ∧ s + 1 ≤ 2 ^ (F.fractionBits + 1) := by
    rcases Nat.eq_zero_or_pos (n / 2 ^ F.fractionBits) with hzero | hdiv
    · refine ⟨0, n, by simp, Or.inl rfl, ?_⟩
      rw [hzero] at hdivmod
      rw [pow_succ]
      omega
    · refine ⟨n / 2 ^ F.fractionBits - 1, 2 ^ F.fractionBits + n % 2 ^ F.fractionBits, ?_,
        Or.inr (by omega), ?_⟩
      · rw [← Nat.add_assoc, ← Nat.succ_mul, Nat.succ_eq_add_one, Nat.sub_add_cancel hdiv]
        exact hdivmod.symm
      · rw [pow_succ]
        omega
  rw [hn, mark_add hlow (by omega), Nat.add_assoc,
    mark_add (hlow.imp id (fun h => by omega)) hhigh]
  have hpow : (0 : ℝ) < 2 ^ (F.leastExponent + b) := zpow_pos two_pos _
  exact mul_lt_mul_of_pos_right (by exact_mod_cast Nat.lt_succ_self s) hpow

/-- The least mark of a normal binade is the power the binade starts at. -/
theorem mark_binade {e : ℕ} (h : 0 < e) :
    F.mark (e * 2 ^ F.fractionBits) = 2 ^ (e - F.bias : ℤ) := by
  have hsplit : e * 2 ^ F.fractionBits = (e - 1) * 2 ^ F.fractionBits + 2 ^ F.fractionBits := by
    rw [← Nat.succ_mul, Nat.succ_eq_add_one, Nat.sub_add_cancel h]
  have hexp : (e - F.bias : ℤ) = F.fractionBits + (F.leastExponent + (e - 1 : ℕ)) := by
    unfold leastExponent
    omega
  rw [hsplit, mark_add (Or.inr le_rfl) (Nat.pow_le_pow_right two_pos (Nat.le_succ _)), hexp,
    zpow_add₀ two_ne_zero (F.fractionBits : ℤ), zpow_natCast]
  push_cast
  rfl

/-- A mark lies in the binade its exponent field names. -/
theorem mark_lt_binade (n : ℕ) :
    F.mark n < 2 ^ ((n / 2 ^ F.fractionBits : ℕ) + 1 - F.bias : ℤ) := by
  have hlt : n < (n / 2 ^ F.fractionBits + 1) * 2 ^ F.fractionBits := by
    rw [Nat.mul_comm]
    exact Nat.lt_mul_div_succ n (Nat.two_pow_pos _)
  have hmark := mark_strictMono (F := F) hlt
  rw [mark_binade (Nat.succ_pos _)] at hmark
  exact_mod_cast hmark

/-- A normal mark is not below its binade. -/
theorem binade_le_mark {n : ℕ} (h : 0 < n / 2 ^ F.fractionBits) :
    2 ^ ((n / 2 ^ F.fractionBits : ℕ) - F.bias : ℤ) ≤ F.mark n := by
  rw [← mark_binade h]
  exact mark_strictMono.monotone (Nat.div_mul_le_self _ _)

/-- A normal mark by its significand, the implicit one included. -/
theorem mark_normal {n : ℕ} (h : 0 < n / 2 ^ F.fractionBits) :
    F.mark n = ((2 ^ F.fractionBits + n % 2 ^ F.fractionBits : ℕ) : ℝ) *
      2 ^ ((n / 2 ^ F.fractionBits : ℕ) - F.bias - F.fractionBits : ℤ) := by
  unfold mark
  rw [if_neg h.ne']
  congr 2
  unfold leastExponent
  omega

theorem infinity_pos : 0 < F.infinity := by
  have hexp : 1 < 2 ^ F.exponentBits := Nat.one_lt_two_pow F.exponentBits_pos.ne'
  exact Nat.mul_pos (by omega) (Nat.two_pow_pos _)

theorem infinity_lt : F.infinity < 2 ^ (F.exponentBits + F.fractionBits) := by
  unfold infinity
  rw [Nat.pow_add]
  exact Nat.mul_lt_mul_of_pos_right (Nat.sub_lt (Nat.two_pow_pos _) one_pos) (Nat.two_pow_pos _)

/-- Infinity's fields: all ones, then zeros. -/
theorem div_of_infinity_le {n : ℕ} (h : F.infinity ≤ n)
    (hlt : n < 2 ^ (F.exponentBits + F.fractionBits)) :
    n / 2 ^ F.fractionBits = 2 ^ F.exponentBits - 1 := by
  apply Nat.div_eq_of_lt_le h
  rw [Nat.sub_add_cancel (Nat.one_le_two_pow), ← pow_add]
  exact hlt

variable (F)

/-- The marks of a format. -/
noncomputable def scale : Scale where
  mark := F.mark
  top := F.infinity
  mark_zero := by simp [mark]
  mark_strictMono := mark_strictMono
  top_pos := infinity_pos

/-- The number a bit pattern that is no NaN denotes. -/
noncomputable def value (bits : ℕ) : EReal := F.scale.value (F.index bits)

variable {F}

/-- What is no NaN is a mark of the scale. -/
theorem inRange_index {bits : ℕ} (h : ¬F.IsNaN bits) : F.scale.InRange (F.index bits) := by
  have hle : F.magnitude bits ≤ F.infinity := not_lt.mp h
  unfold index
  split_ifs
  · exact (Scale.inRange_of_le hle).neg
  · exact Scale.inRange_of_le hle

/-- The value of a finite bit pattern. -/
theorem value_of_magnitude_lt {bits : ℕ} (h : F.magnitude bits < F.infinity) :
    F.value bits =
      if F.isNegative bits then -(F.mark (F.magnitude bits) : EReal)
      else (F.mark (F.magnitude bits) : EReal) := by
  have hmark : (F.mark (F.magnitude bits) : EReal) = F.scale.value (F.magnitude bits) :=
    Scale.coe_mark (S := F.scale) h
  rw [hmark]
  unfold value index
  split_ifs
  · exact Scale.value_neg _
  · rfl

/-- The value of an infinity. -/
theorem value_of_magnitude_eq {bits : ℕ} (h : F.magnitude bits = F.infinity) :
    F.value bits = if F.isNegative bits then ⊥ else ⊤ := by
  unfold value index
  rw [h]
  split_ifs
  · exact Scale.value_neg_top
  · exact Scale.value_top

/-! ## Packing -/

variable (F)

/-- The bit pattern of a sign and of the exponent and fraction fields. -/
def pack (s : Bool) (n : ℕ) : ℕ := s.toNat * 2 ^ (F.exponentBits + F.fractionBits) + n

variable {F}

theorem magnitude_pack (s : Bool) {n : ℕ} (h : n < 2 ^ (F.exponentBits + F.fractionBits)) :
    F.magnitude (F.pack s n) = n := by
  unfold magnitude pack
  rw [Nat.mul_add_mod', Nat.mod_eq_of_lt h]

theorem isNegative_pack (s : Bool) {n : ℕ} (h : n < 2 ^ (F.exponentBits + F.fractionBits)) :
    F.isNegative (F.pack s n) = s := by
  unfold isNegative pack
  rw [Nat.testBit_eq_decide_div_mod_eq, Nat.add_comm, Nat.add_mul_div_right _ _ (Nat.two_pow_pos _),
    Nat.div_eq_of_lt h]
  cases s <;> rfl

/-- The place on the scale of a packed pattern. -/
theorem index_pack (s : Bool) {n : ℕ} (h : n < 2 ^ (F.exponentBits + F.fractionBits)) :
    F.index (F.pack s n) = if s then -(n : ℤ) else n := by
  unfold index
  rw [isNegative_pack s h, magnitude_pack s h]

/-- The sign is the topmost bit. -/
theorem toNat_isNegative {bits : ℕ} (h : bits < 2 ^ (F.exponentBits + F.fractionBits + 1)) :
    (F.isNegative bits).toNat = bits / 2 ^ (F.exponentBits + F.fractionBits) := by
  have hdiv : bits / 2 ^ (F.exponentBits + F.fractionBits) < 2 := by
    rw [Nat.div_lt_iff_lt_mul (Nat.two_pow_pos _), ← pow_succ']
    exact h
  unfold isNegative
  rw [Nat.testBit_eq_decide_div_mod_eq, Nat.mod_eq_of_lt hdiv]
  interval_cases bits / 2 ^ (F.exponentBits + F.fractionBits) <;> rfl

/-- A bit pattern is determined by its sign bit and its other fields. -/
theorem pack_isNegative_magnitude {bits : ℕ}
    (h : bits < 2 ^ (F.exponentBits + F.fractionBits + 1)) :
    F.pack (F.isNegative bits) (F.magnitude bits) = bits := by
  unfold pack magnitude
  rw [toNat_isNegative h]
  exact Nat.div_add_mod' _ _

/-- A bit pattern is its sign and its place on the scale; the sign tells the two zeros apart. -/
theorem eq_of_index_eq {bits bits' : ℕ} (h : bits < 2 ^ (F.exponentBits + F.fractionBits + 1))
    (h' : bits' < 2 ^ (F.exponentBits + F.fractionBits + 1))
    (hsign : F.isNegative bits = F.isNegative bits') (hindex : F.index bits = F.index bits') :
    bits = bits' := by
  have hmagnitude : F.magnitude bits = F.magnitude bits' := by
    unfold index at hindex
    rw [hsign] at hindex
    split_ifs at hindex <;> omega
  rw [← pack_isNegative_magnitude h, ← pack_isNegative_magnitude h', hsign, hmagnitude]

/-! ## The other sign -/

variable (F)

/-- The bit pattern with the sign bit flipped. -/
def flipSign (bits : ℕ) : ℕ := bits ^^^ 2 ^ (F.exponentBits + F.fractionBits)

variable {F}

@[simp] theorem magnitude_flipSign (bits : ℕ) :
    F.magnitude (F.flipSign bits) = F.magnitude bits := by
  unfold magnitude flipSign
  rw [Nat.xor_mod_two_pow, Nat.mod_self, Nat.xor_zero]

@[simp] theorem isNegative_flipSign (bits : ℕ) :
    F.isNegative (F.flipSign bits) = !F.isNegative bits := by
  unfold isNegative flipSign
  rw [Nat.testBit_xor, Nat.testBit_two_pow_self, Bool.xor_true]

@[simp] theorem index_flipSign (bits : ℕ) : F.index (F.flipSign bits) = -F.index bits := by
  unfold index
  rw [isNegative_flipSign, magnitude_flipSign]
  cases F.isNegative bits <;> simp

/-- Flipping the sign negates the value. -/
theorem value_flipSign (bits : ℕ) : F.value (F.flipSign bits) = -F.value bits := by
  unfold value
  rw [index_flipSign, Scale.value_neg]

/-- The sign does not make a NaN. -/
theorem isNaN_flipSign (bits : ℕ) : F.IsNaN (F.flipSign bits) ↔ F.IsNaN bits := by
  unfold IsNaN
  rw [magnitude_flipSign]

/-! ## Values between two marks of a format -/

/-- A significand cut off below its bit `l` leaves the part of the way to the next mark. -/
theorem between_of_significand {b m l : ℕ}
    (hlow : b = 0 ∨ 2 ^ F.fractionBits ≤ m / 2 ^ l) (hhigh : m / 2 ^ l < 2 ^ (F.fractionBits + 1)) :
    F.scale.Between (m * 2 ^ (F.leastExponent + b - l)) (b * 2 ^ F.fractionBits + m / 2 ^ l)
      ((m % 2 ^ l : ℕ) / 2 ^ l) := by
  have hpow : (0 : ℝ) < 2 ^ l := by positivity
  have hmod : ((m % 2 ^ l : ℕ) : ℝ) < 2 ^ l := by
    exact_mod_cast Nat.mod_lt m (Nat.two_pow_pos l)
  have hsplit : (m : ℝ) = (m / 2 ^ l : ℕ) * 2 ^ l + (m % 2 ^ l : ℕ) := by
    exact_mod_cast (Nat.div_add_mod' m (2 ^ l)).symm
  have hlower : F.scale.mark (b * 2 ^ F.fractionBits + m / 2 ^ l) =
      (m / 2 ^ l : ℕ) * 2 ^ (F.leastExponent + b) := mark_add hlow hhigh.le
  have hupper : F.scale.mark (b * 2 ^ F.fractionBits + m / 2 ^ l + 1) =
      (m / 2 ^ l + 1 : ℕ) * 2 ^ (F.leastExponent + b) :=
    mark_add (hlow.imp id (fun h => by omega)) hhigh
  constructor
  · rw [hlower, hupper, zpow_sub₀ two_ne_zero, zpow_natCast, hsplit]
    push_cast
    field_simp
    ring
  · exact div_nonneg (Nat.cast_nonneg _) hpow.le
  · exact (div_lt_one hpow).mpr hmod

end BinaryFormat

end Foundation
