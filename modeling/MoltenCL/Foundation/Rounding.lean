import Mathlib.Algebra.Order.Ring.Int
import Mathlib.Data.EReal.Operations
import Mathlib.Data.Int.ConditionallyCompleteOrder
import Mathlib.Order.Bounds.Basic
import Mathlib.Tactic.Linarith

/-!
# Rounding to a scale

A scale is an increasing row of magnitudes, mirrored at zero, with one mark at each end that stands
for infinity. Rounding is stated on the numbers of the marks, so it asks nothing about how the marks
are encoded or how they are spaced.
-/

namespace Foundation

/-- Which neighbour of a value between two marks is taken. -/
inductive Direction where
  | nearestEven
  | towardZero
  | towardPositive
  | towardNegative
deriving DecidableEq, Repr

/-- The direction seen in a mirror at zero. -/
def Direction.mirror : Direction → Direction
  | nearestEven => nearestEven
  | towardZero => towardZero
  | towardPositive => towardNegative
  | towardNegative => towardPositive

/-- Whether a magnitude the part `t` of the way from the mark `k` goes up to the next one, to which
it is `1 - t` of the way. -/
def Direction.Increments (d : Direction) (k : ℕ) (t : ℝ) : Prop :=
  match d with
  | .nearestEven => 1 - t < t ∨ t = 1 - t ∧ ¬Even k
  | .towardPositive => t ≠ 0
  | .towardZero => False
  | .towardNegative => False

/-- Magnitudes in increasing order from zero; the one with number `top` stands for infinity. -/
structure Scale where
  mark : ℕ → ℝ
  top : ℕ
  mark_zero : mark 0 = 0
  mark_strictMono : StrictMono mark
  top_pos : 0 < top

namespace Scale

variable (S : Scale)

/-- The mark with a signed number. -/
noncomputable def signed (j : ℤ) : ℝ :=
  if 0 ≤ j then S.mark j.toNat else -S.mark (-j).toNat

/-- The number a signed mark stands for. -/
noncomputable def value (j : ℤ) : EReal :=
  if S.top ≤ j then ⊤ else if j ≤ -S.top then ⊥ else (S.signed j : EReal)

/-- The marks that exist: from minus infinity to infinity. -/
def InRange (j : ℤ) : Prop := -S.top ≤ j ∧ j ≤ S.top

variable {S}

theorem mark_nonneg (n : ℕ) : 0 ≤ S.mark n := by
  have h := S.mark_strictMono.monotone (Nat.zero_le n)
  rwa [S.mark_zero] at h

theorem mark_pos {n : ℕ} (h : 0 < n) : 0 < S.mark n := by
  have h := S.mark_strictMono h
  rwa [S.mark_zero] at h

@[simp] theorem signed_natCast (n : ℕ) : S.signed n = S.mark n := by
  simp [signed]

@[simp] theorem signed_neg (j : ℤ) : S.signed (-j) = -S.signed j := by
  unfold signed
  rcases lt_trichotomy j 0 with h | h | h
  · rw [if_pos (by omega), if_neg (by omega), neg_neg]
  · subst h
    simp [S.mark_zero]
  · rw [if_neg (by omega), if_pos (by omega), neg_neg]

/-- The signed marks increase from minus infinity's to infinity's. -/
theorem signed_strictMono : StrictMono S.signed := by
  intro i j h
  unfold signed
  split_ifs with hi hj hj
  · exact S.mark_strictMono (by omega)
  · omega
  · have hpos : 0 < S.mark (-i).toNat := mark_pos (by omega)
    have := S.mark_nonneg j.toNat
    linarith
  · exact neg_lt_neg (S.mark_strictMono (by omega))

/-- Between the two ends a number stands for its mark. -/
theorem value_of_lt {j : ℤ} (h : -S.top < j) (h' : j < S.top) : S.value j = S.signed j := by
  unfold value
  rw [if_neg (by omega), if_neg (by omega)]

@[simp] theorem value_top : S.value S.top = ⊤ := by
  simp [value]

@[simp] theorem value_neg_top : S.value (-S.top) = ⊥ := by
  have := S.top_pos
  unfold value
  rw [if_neg (by omega), if_pos le_rfl]

/-- The scale is mirrored at zero. -/
theorem value_neg (j : ℤ) : S.value (-j) = -S.value j := by
  have := S.top_pos
  unfold value
  split_ifs with h₁ h₂ h₃ <;> first | omega | simp

theorem value_strictMonoOn {i j : ℤ} (hi : S.InRange i) (hj : S.InRange j) (h : i < j) :
    S.value i < S.value j := by
  unfold InRange at hi hj
  have := S.top_pos
  unfold value
  rw [if_neg (by omega)]
  by_cases hbot : i ≤ -S.top
  · rw [if_pos hbot]
    split_ifs with h₁ h₂
    · exact bot_lt_top
    · omega
    · exact EReal.bot_lt_coe _
  · rw [if_neg hbot]
    split_ifs with h₁ h₂
    · exact EReal.coe_lt_top _
    · omega
    · exact EReal.coe_lt_coe_iff.mpr (signed_strictMono h)

/-- The marks have the order of their numbers. -/
theorem value_le_iff {i j : ℤ} (hi : S.InRange i) (hj : S.InRange j) :
    S.value i ≤ S.value j ↔ i ≤ j := by
  constructor
  · intro h
    by_contra hij
    exact absurd (value_strictMonoOn hj hi (by omega)) (not_lt.mpr h)
  · intro h
    rcases h.lt_or_eq with hlt | heq
    · exact (value_strictMonoOn hi hj hlt).le
    · rw [heq]

theorem InRange.neg {j : ℤ} (h : S.InRange j) : S.InRange (-j) := by
  unfold InRange at *
  omega

/-- The numbers up to the top are those of magnitudes. -/
theorem inRange_of_le {n : ℕ} (h : n ≤ S.top) : S.InRange n := by
  unfold InRange
  omega

/-! ## Rounding -/

variable (S)

/-- The nearest mark, infinity's counted as the finite magnitude it stands at; of two equally near
marks the one with an even number. -/
structure Nearest (x : EReal) (j : ℤ) : Prop where
  inRange : S.InRange j
  of_top : x = ⊤ → j = S.top
  of_bot : x = ⊥ → j = -S.top
  nearest : ∀ r : ℝ, x = r → ∀ i, S.InRange i → |r - S.signed j| ≤ |r - S.signed i|
  tie : ∀ r : ℝ, x = r → ∀ i, S.InRange i → |r - S.signed i| = |r - S.signed j| → i = j ∨ Even j

/-- The least mark that is not below. -/
def Above (x : EReal) (j : ℤ) : Prop := IsLeast {i | S.InRange i ∧ x ≤ S.value i} j

/-- The greatest mark that is not above. -/
def Below (x : EReal) (j : ℤ) : Prop := IsGreatest {i | S.InRange i ∧ S.value i ≤ x} j

/-- The mark a value is rounded to. -/
def Rounds (d : Direction) (x : EReal) (j : ℤ) : Prop :=
  match d with
  | .nearestEven => S.Nearest x j
  | .towardZero => (0 ≤ x → S.Below x j) ∧ (x ≤ 0 → S.Above x j)
  | .towardPositive => S.Above x j
  | .towardNegative => S.Below x j

variable {S}

/-- Rounding up keeps the order. -/
theorem Above.mono {x y : EReal} {i j : ℤ} (h : x ≤ y) (hi : S.Above x i) (hj : S.Above y j) :
    i ≤ j :=
  hi.2 ⟨hj.1.1, h.trans hj.1.2⟩

/-- Rounding down keeps the order. -/
theorem Below.mono {x y : EReal} {i j : ℤ} (h : x ≤ y) (hi : S.Below x i) (hj : S.Below y j) :
    i ≤ j :=
  hj.2 ⟨hi.1.1, hi.1.2.trans h⟩

/-- Of two marks the greater is at least as near exactly from their midpoint on. -/
theorem abs_sub_le_iff_midpoint {a b r : ℝ} (h : a < b) :
    |r - b| ≤ |r - a| ↔ a + b ≤ 2 * r := by
  constructor
  · intro hle
    rcases abs_cases (r - b) with ⟨hb, _⟩ | ⟨hb, _⟩ <;>
      rcases abs_cases (r - a) with ⟨ha, _⟩ | ⟨ha, _⟩ <;> linarith
  · intro hle
    rcases abs_cases (r - b) with ⟨hb, _⟩ | ⟨hb, _⟩ <;>
      rcases abs_cases (r - a) with ⟨ha, _⟩ | ⟨ha, _⟩ <;> linarith

/-- Of two marks the lesser is at least as near exactly up to their midpoint. -/
theorem abs_sub_le_iff_le_midpoint {a b r : ℝ} (h : a < b) :
    |r - a| ≤ |r - b| ↔ 2 * r ≤ a + b := by
  have hneg : -b < -a := by linarith
  have hmid := abs_sub_le_iff_midpoint (r := -r) hneg
  rw [show -r - -a = -(r - a) by ring, show -r - -b = -(r - b) by ring, abs_neg, abs_neg] at hmid
  rw [hmid]
  constructor <;> intro <;> linarith

/-- Rounding a finite value to the nearest mark keeps the order, also where it breaks a tie. -/
theorem Nearest.mono_coe {r s : ℝ} {i j : ℤ} (h : r ≤ s) (hi : S.Nearest r i)
    (hj : S.Nearest s j) : i ≤ j := by
  by_contra hlt
  have hmarks : S.signed j < S.signed i := signed_strictMono (by omega)
  have hr := (abs_sub_le_iff_midpoint hmarks).mp (hi.nearest r rfl j hj.inRange)
  have hs := (abs_sub_le_iff_le_midpoint hmarks).mp (hj.nearest s rfl i hi.inRange)
  -- both values are the midpoint, so both numbers are even and a mark lies between them
  have hrs : s = r := by linarith
  subst hrs
  have hequal : |s - S.signed j| = |s - S.signed i| :=
    le_antisymm (hj.nearest s rfl i hi.inRange) (hi.nearest s rfl j hj.inRange)
  rcases hi.tie s rfl j hj.inRange hequal with heq | hevenI
  · omega
  · rcases hj.tie s rfl i hi.inRange hequal.symm with heq | hevenJ
    · omega
    · have hgap : j + 1 < i := by
        rcases hevenI with ⟨p, hp⟩
        rcases hevenJ with ⟨q, hq⟩
        omega
      have hrange : S.InRange (j + 1) := by
        have hiRange := hi.inRange
        have hjRange := hj.inRange
        unfold InRange at *
        omega
      have hlow : S.signed j < S.signed (j + 1) := signed_strictMono (by omega)
      have hhigh : S.signed (j + 1) < S.signed i := signed_strictMono hgap
      have hnear := (abs_sub_le_iff_midpoint hhigh).mp (hi.nearest s rfl (j + 1) hrange)
      linarith

/-- Rounding to the nearest mark keeps the order. -/
theorem Nearest.mono {x y : EReal} {i j : ℤ} (h : x ≤ y) (hi : S.Nearest x i)
    (hj : S.Nearest y j) : i ≤ j := by
  induction x with
  | bot =>
      rw [hi.of_bot rfl]
      exact hj.inRange.1
  | top =>
      rw [hi.of_top rfl, hj.of_top (top_le_iff.mp h)]
  | coe r =>
      induction y with
      | bot => exact absurd h (by simp)
      | top =>
          rw [hj.of_top rfl]
          exact hi.inRange.2
      | coe s => exact hi.mono_coe (EReal.coe_le_coe_iff.mp h) hj

/-- Rounding keeps the order, in every direction. -/
theorem Rounds.mono {d : Direction} {x y : EReal} {i j : ℤ} (h : x ≤ y) (hi : S.Rounds d x i)
    (hj : S.Rounds d y j) : i ≤ j := by
  cases d with
  | nearestEven => exact Nearest.mono h hi hj
  | towardPositive => exact Above.mono h hi hj
  | towardNegative => exact Below.mono h hi hj
  | towardZero =>
      rcases le_total 0 x with hx | hx
      · exact Below.mono h (hi.1 hx) (hj.1 (hx.trans h))
      · rcases le_total y 0 with hy | hy
        · exact Above.mono h (hi.2 hx) (hj.2 hy)
        · -- zero is a mark between the two values
          have hzero : S.InRange 0 := by simpa using S.inRange_of_le (Nat.zero_le S.top)
          have hvalue : S.value 0 = 0 := by
            have hpos := S.top_pos
            rw [S.value_of_lt (by omega) (by omega)]
            simpa [S.mark_zero] using S.signed_natCast 0
          have hle : i ≤ 0 := (hi.2 hx).2 ⟨hzero, by rwa [hvalue]⟩
          have hge : 0 ≤ j := (hj.1 hy).2 ⟨hzero, by rwa [hvalue]⟩
          exact hle.trans hge

/-- A value has one rounding. -/
theorem Rounds.unique {d : Direction} {x : EReal} {i j : ℤ} (hi : S.Rounds d x i)
    (hj : S.Rounds d x j) : i = j :=
  le_antisymm (hi.mono le_rfl hj) (hj.mono le_rfl hi)

/-- A value is rounded to a mark that exists. -/
theorem Rounds.inRange {d : Direction} {x : EReal} {j : ℤ} (h : S.Rounds d x j) :
    S.InRange j := by
  cases d with
  | nearestEven => exact Nearest.inRange h
  | towardPositive => exact h.1.1
  | towardNegative => exact h.1.1
  | towardZero =>
      rcases le_total 0 x with hx | hx
      · exact (h.1 hx).1.1
      · exact (h.2 hx).1.1

/-! ## The mirror at zero -/

/-- Rounding down, seen in the mirror, is rounding up. -/
theorem Below.neg {x : EReal} {j : ℤ} (h : S.Below x j) : S.Above (-x) (-j) := by
  constructor
  · exact ⟨h.1.1.neg, by rw [value_neg]; exact EReal.neg_le_neg_iff.mpr h.1.2⟩
  · intro i hi
    have hle := h.2 ⟨hi.1.neg, by rw [value_neg]; exact EReal.neg_le.mp hi.2⟩
    omega

/-- Rounding up, seen in the mirror, is rounding down. -/
theorem Above.neg {x : EReal} {j : ℤ} (h : S.Above x j) : S.Below (-x) (-j) := by
  constructor
  · exact ⟨h.1.1.neg, by rw [value_neg]; exact EReal.neg_le_neg_iff.mpr h.1.2⟩
  · intro i hi
    have hle := h.2 ⟨hi.1.neg, by rw [value_neg]; exact EReal.le_neg.mp hi.2⟩
    omega

/-- The nearest mark is the nearest one in the mirror, ties included. -/
theorem Nearest.neg {x : EReal} {j : ℤ} (h : S.Nearest x j) : S.Nearest (-x) (-j) := by
  have hflip : ∀ (r : ℝ) (i : ℤ), |r - S.signed i| = |-r - S.signed (-i)| := by
    intro r i
    rw [signed_neg, ← abs_neg]
    congr 1
    ring
  constructor
  · exact h.inRange.neg
  · intro hx
    rw [h.of_bot (by simpa using congrArg Neg.neg hx), neg_neg]
  · intro hx
    rw [h.of_top (by simpa using congrArg Neg.neg hx)]
  · intro r hr i hi
    have hx : x = ((-r : ℝ) : EReal) := by simpa using congrArg Neg.neg hr
    have hnear := h.nearest (-r) hx (-i) hi.neg
    rwa [hflip (-r) j, hflip (-r) (-i), neg_neg, neg_neg] at hnear
  · intro r hr i hi hequal
    have hx : x = ((-r : ℝ) : EReal) := by simpa using congrArg Neg.neg hr
    have htie := h.tie (-r) hx (-i) hi.neg
    rw [hflip (-r) j, hflip (-r) (-i), neg_neg, neg_neg] at htie
    rcases htie hequal with heq | heven
    · left
      omega
    · right
      exact heven.neg

/-- Rounding commutes with the sign when the direction is mirrored. -/
theorem Rounds.neg {d : Direction} {x : EReal} {j : ℤ} (h : S.Rounds d x j) :
    S.Rounds d.mirror (-x) (-j) := by
  cases d with
  | nearestEven => exact Nearest.neg h
  | towardPositive => exact Above.neg h
  | towardNegative => exact Below.neg h
  | towardZero =>
      constructor
      · intro hx
        exact (h.2 (by simpa using EReal.neg_le_neg_iff.mpr hx)).neg
      · intro hx
        exact (h.1 (by simpa using EReal.neg_le_neg_iff.mpr hx)).neg

/-! ## Exact values -/

theorem below_value {j : ℤ} (h : S.InRange j) : S.Below (S.value j) j := by
  constructor
  · exact ⟨h, le_rfl⟩
  · intro i hi
    exact (value_le_iff hi.1 h).mp hi.2

theorem above_value {j : ℤ} (h : S.InRange j) : S.Above (S.value j) j := by
  constructor
  · exact ⟨h, le_rfl⟩
  · intro i hi
    exact (value_le_iff h hi.1).mp hi.2

/-- A mark is the nearest to itself, and the only one. -/
theorem nearest_value {j : ℤ} (h : S.InRange j) : S.Nearest (S.value j) j := by
  have hpos := S.top_pos
  have hmark : ∀ r : ℝ, S.value j = r → r = S.signed j := by
    intro r hr
    unfold value at hr
    split_ifs at hr with h₁ h₂
    · exact absurd hr (by simp)
    · exact absurd hr (by simp)
    · exact (EReal.coe_eq_coe_iff.mp hr).symm
  constructor
  · exact h
  · intro htop
    exact h.2.antisymm ((value_le_iff (inRange_of_le le_rfl) h).mp (by rw [value_top, htop]))
  · intro hbot
    exact le_antisymm
      ((value_le_iff h (inRange_of_le le_rfl).neg).mp (by rw [value_neg_top, hbot])) h.1
  · intro r hr i _
    rw [hmark r hr, sub_self, abs_zero]
    exact abs_nonneg _
  · intro r hr i _ hequal
    left
    rw [hmark r hr, sub_self, abs_zero, abs_eq_zero, sub_eq_zero] at hequal
    exact signed_strictMono.injective hequal.symm

/-- The value of a mark is rounded to that mark, in every direction. -/
theorem rounds_value (d : Direction) {j : ℤ} (h : S.InRange j) : S.Rounds d (S.value j) j := by
  cases d with
  | nearestEven => exact nearest_value h
  | towardZero =>
      constructor
      · intro _
        exact below_value h
      · intro _
        exact above_value h
  | towardPositive => exact above_value h
  | towardNegative => exact below_value h

/-! ## The neighbours of a value -/

/-- A finite value is compared with a mark as real numbers. -/
theorem signed_le_of_value_le {r : ℝ} {i : ℤ} (hi : -S.top < i) (h : S.value i ≤ r) :
    S.signed i ≤ r := by
  unfold value at h
  split_ifs at h with htop hbot
  · exact absurd h (by simp)
  · omega
  · exact EReal.coe_le_coe_iff.mp h

/-- A nearest mark that is not above the value is the greatest such. -/
theorem Nearest.below {x : EReal} {j : ℤ} (h : S.Nearest x j) (hle : S.value j ≤ x) :
    S.Below x j := by
  constructor
  · exact ⟨h.inRange, hle⟩
  · intro i hi
    by_contra hlt
    have hij : j < i := by omega
    induction x with
    | bot =>
        have hbot := (value_le_iff hi.1 (inRange_of_le le_rfl).neg).mp (by
          rw [value_neg_top]
          exact hi.2)
        have hrange := h.inRange.1
        omega
    | top =>
        have htop := h.of_top rfl
        have hrange := hi.1.2
        omega
    | coe r =>
        have hrange := h.inRange.1
        have hmark := signed_le_of_value_le (by omega) hi.2
        have hless : S.signed j < S.signed i := signed_strictMono hij
        have hmid := (abs_sub_le_iff_le_midpoint hless).mp (h.nearest r rfl i hi.1)
        linarith

/-- The nearest mark is one of the two around the value. -/
theorem Nearest.below_or_above {x : EReal} {j : ℤ} (h : S.Nearest x j) :
    S.Below x j ∨ S.Above x j := by
  rcases le_total (S.value j) x with hle | hle
  · left
    exact h.below hle
  · right
    have hneg : S.value (-j) ≤ -x := by
      rw [value_neg]
      exact EReal.neg_le_neg_iff.mpr hle
    have habove := (h.neg.below hneg).neg
    rwa [neg_neg, neg_neg] at habove

/-- In every direction the rounding is one of the two marks around the value. -/
theorem Rounds.below_or_above {d : Direction} {x : EReal} {j : ℤ} (h : S.Rounds d x j) :
    S.Below x j ∨ S.Above x j := by
  cases d with
  | nearestEven => exact Nearest.below_or_above h
  | towardPositive => exact Or.inr h
  | towardNegative => exact Or.inl h
  | towardZero =>
      rcases le_total 0 x with hx | hx
      · exact Or.inl (h.1 hx)
      · exact Or.inr (h.2 hx)

/-! ## Values between two marks -/

/-- A magnitude the part `t` of the way from the mark `k` to the next one. -/
structure Between (S : Scale) (r : ℝ) (k : ℕ) (t : ℝ) : Prop where
  eq : r = S.mark k + t * (S.mark (k + 1) - S.mark k)
  nonneg : 0 ≤ t
  lt_one : t < 1

theorem Between.le {r t : ℝ} {k : ℕ} (h : S.Between r k t) : S.mark k ≤ r := by
  have hgap := S.mark_strictMono (Nat.lt_succ_self k)
  have hprod := mul_nonneg h.nonneg (sub_nonneg.mpr hgap.le)
  have heq := h.eq
  linarith

theorem Between.lt {r t : ℝ} {k : ℕ} (h : S.Between r k t) : r < S.mark (k + 1) := by
  have hgap := S.mark_strictMono (Nat.lt_succ_self k)
  have hprod := mul_lt_mul_of_pos_right h.lt_one (sub_pos.mpr hgap)
  have heq := h.eq
  linarith

/-- The value is the lower mark itself exactly at the part zero. -/
theorem Between.eq_iff {r t : ℝ} {k : ℕ} (h : S.Between r k t) : r = S.mark k ↔ t = 0 := by
  have hgap := S.mark_strictMono (Nat.lt_succ_self k)
  have heq := h.eq
  constructor
  · intro hr
    have hprod : t * (S.mark (k + 1) - S.mark k) = 0 := by linarith
    rcases mul_eq_zero.mp hprod with ht | hzero
    · exact ht
    · linarith
  · intro ht
    rw [ht] at heq
    linarith

/-- Twice the distance to the midpoint of the two marks, in units of the gap. -/
theorem Between.midpoint {r t : ℝ} {k : ℕ} (h : S.Between r k t) :
    2 * r - (S.mark k + S.mark (k + 1)) = (2 * t - 1) * (S.mark (k + 1) - S.mark k) := by
  rw [h.eq]
  ring

theorem coe_mark {k : ℕ} (hk : k < S.top) : (S.mark k : EReal) = S.value k := by
  rw [value_of_lt (by omega) (by omega), signed_natCast]

/-- Below a magnitude, and so below the mark that may stand for infinity. -/
theorem lt_value_of_lt_mark {r : ℝ} {k : ℕ} (h : r < S.mark k) : (r : EReal) < S.value k := by
  by_cases hk : k < S.top
  · rw [← coe_mark hk]
    exact EReal.coe_lt_coe_iff.mpr h
  · unfold value
    rw [if_pos (by omega)]
    exact EReal.coe_lt_top _

/-- Between two marks the lower one is the rounding down. -/
theorem below_of_mark {r : ℝ} {k : ℕ} (hk : k < S.top) (h : S.mark k ≤ r)
    (h' : (r : EReal) < S.value (k + 1 : ℕ)) : S.Below r k := by
  constructor
  · exact ⟨inRange_of_le hk.le, coe_mark hk ▸ EReal.coe_le_coe_iff.mpr h⟩
  · intro i hi
    by_contra hlt
    have hrange : S.InRange ((k + 1 : ℕ) : ℤ) := inRange_of_le hk
    have hle := (value_le_iff hrange hi.1).mpr (by omega)
    exact absurd (hle.trans hi.2) (not_le.mpr h')

/-- Between two marks the upper one is the rounding up. -/
theorem above_of_mark {r : ℝ} {k : ℕ} (hk : k < S.top) (h : S.mark k < r)
    (h' : (r : EReal) ≤ S.value (k + 1 : ℕ)) : S.Above r (k + 1 : ℕ) := by
  constructor
  · exact ⟨inRange_of_le hk, h'⟩
  · intro i hi
    by_contra hlt
    have hle := (value_le_iff hi.1 (inRange_of_le hk.le)).mpr (by omega)
    have hlow : S.value k < r := coe_mark hk ▸ EReal.coe_lt_coe_iff.mpr h
    exact absurd (hi.2.trans hle) (not_le.mpr hlow)

/-- A mark is nearest when the midpoints to its two neighbours are on the right sides of the value,
and even when the value is one of them; infinity's has no neighbour above. -/
theorem nearest_of_neighbours {r : ℝ} {j : ℤ} (hrange : S.InRange j)
    (hlow : S.signed (j - 1) + S.signed j ≤ 2 * r)
    (hlow' : S.signed (j - 1) + S.signed j = 2 * r → Even j)
    (hhigh : j < S.top → 2 * r ≤ S.signed j + S.signed (j + 1))
    (hhigh' : j < S.top → 2 * r = S.signed j + S.signed (j + 1) → Even j) : S.Nearest r j := by
  constructor
  · exact hrange
  · intro h
    exact absurd h (EReal.coe_ne_top r)
  · intro h
    exact absurd h (EReal.coe_ne_bot r)
  · intro s hs i hi
    rw [← EReal.coe_eq_coe_iff.mp hs]
    rcases lt_trichotomy i j with hij | hij | hij
    · have hmark := signed_strictMono.monotone (show i ≤ j - 1 by omega) (f := S.signed)
      exact (abs_sub_le_iff_midpoint (signed_strictMono hij)).mpr (by linarith)
    · rw [hij]
    · have hmark := signed_strictMono.monotone (show j + 1 ≤ i by omega) (f := S.signed)
      have hmid := hhigh (lt_of_lt_of_le hij hi.2)
      exact (abs_sub_le_iff_le_midpoint (signed_strictMono hij)).mpr (by linarith)
  · intro s hs i hi hequal
    rw [← EReal.coe_eq_coe_iff.mp hs] at hequal
    rcases lt_trichotomy i j with hij | hij | hij
    · right
      have hmark := signed_strictMono.monotone (show i ≤ j - 1 by omega) (f := S.signed)
      have hmid := (abs_sub_le_iff_le_midpoint (signed_strictMono hij)).mp hequal.le
      exact hlow' (by linarith)
    · left
      exact hij
    · right
      have hmark := signed_strictMono.monotone (show j + 1 ≤ i by omega) (f := S.signed)
      have hmid := (abs_sub_le_iff_midpoint (signed_strictMono hij)).mp hequal.le
      have hmid' := hhigh (lt_of_lt_of_le hij hi.2)
      exact hhigh' (lt_of_lt_of_le hij hi.2) (by linarith)

theorem Between.below {r t : ℝ} {k : ℕ} (h : S.Between r k t) (hk : k < S.top) : S.Below r k :=
  below_of_mark hk h.le (lt_value_of_lt_mark h.lt)

/-- The lower mark is the rounding when the direction does not increment. -/
theorem Between.rounds_lower {r t : ℝ} {k : ℕ} {d : Direction} (h : S.Between r k t)
    (hk : k < S.top) (hd : ¬d.Increments k t) : S.Rounds d r k := by
  have hr : 0 ≤ r := (mark_nonneg k).trans h.le
  cases d with
  | nearestEven =>
      have hgap := S.mark_strictMono (Nat.lt_succ_self k)
      have hprev : S.signed (k - 1) < S.mark k := by
        rw [← signed_natCast]
        exact signed_strictMono (by omega)
      have hnext : S.signed (k + 1) = S.mark (k + 1) := by simpa using S.signed_natCast (k + 1)
      have hle := h.le
      unfold Direction.Increments at hd
      push Not at hd
      have hmid := h.midpoint
      apply nearest_of_neighbours (inRange_of_le hk.le)
      · rw [signed_natCast]
        linarith
      · intro heq
        rw [signed_natCast] at heq
        linarith
      · intro _
        rw [signed_natCast, hnext]
        nlinarith [hd.1]
      · intro _ heq
        rw [signed_natCast, hnext] at heq
        have hprod : (2 * t - 1) * (S.mark (k + 1) - S.mark k) = 0 := by linarith
        rcases mul_eq_zero.mp hprod with ht | hzero
        · exact_mod_cast hd.2 (by linarith)
        · linarith
  | towardZero =>
      constructor
      · intro _
        exact h.below hk
      · intro hle
        -- the value is zero itself
        have hr0 : r = 0 := le_antisymm (EReal.coe_nonpos.mp hle) hr
        have hmark : r = S.mark k :=
          le_antisymm (hr0 ▸ mark_nonneg k) h.le
        rw [hmark, coe_mark hk]
        exact above_value (inRange_of_le hk.le)
  | towardPositive =>
      have hmark : r = S.mark k := h.eq_iff.mpr (not_not.mp hd)
      rw [hmark, coe_mark hk]
      exact above_value (inRange_of_le hk.le)
  | towardNegative => exact h.below hk

/-- The greater mark is the rounding when the direction increments. -/
theorem Between.rounds_upper {r t : ℝ} {k : ℕ} {d : Direction} (h : S.Between r k t)
    (hk : k < S.top) (hd : d.Increments k t) : S.Rounds d r (k + 1 : ℕ) := by
  cases d with
  | nearestEven =>
      have hgap := S.mark_strictMono (Nat.lt_succ_self k)
      have hcast : ((k + 1 : ℕ) : ℤ) - 1 = k := by omega
      have hnext : S.mark (k + 1) < S.signed ((k + 1 : ℕ) + 1) := by
        rw [← signed_natCast]
        exact signed_strictMono (by omega)
      have hlt := h.lt
      have hmid := h.midpoint
      apply nearest_of_neighbours (inRange_of_le hk)
      · rw [hcast, signed_natCast, signed_natCast]
        rcases hd with hgt | ⟨heq, _⟩
        · nlinarith
        · have hhalf : t = 1 / 2 := by linarith
          rw [hhalf] at hmid
          linarith
      · intro heq
        rw [hcast, signed_natCast, signed_natCast] at heq
        rcases hd with hgt | ⟨_, hodd⟩
        · nlinarith
        · exact_mod_cast (Nat.even_add_one.mpr hodd)
      · intro _
        rw [signed_natCast]
        linarith
      · intro _ heq
        rw [signed_natCast] at heq
        linarith
  | towardPositive =>
      have hlt : S.mark k < r := lt_of_le_of_ne h.le (fun heq => hd (h.eq_iff.mp heq.symm))
      exact above_of_mark hk hlt (lt_value_of_lt_mark h.lt).le
  | towardZero => exact hd.elim
  | towardNegative => exact hd.elim

/-- From infinity's mark on, the directions that may leave zero go to infinity. -/
theorem rounds_top {r : ℝ} {d : Direction} (h : S.mark S.top ≤ r)
    (hd : d = .nearestEven ∨ d = .towardPositive) : S.Rounds d r S.top := by
  have hpos := S.top_pos
  rcases hd with rfl | rfl
  · have hprev : S.signed (S.top - 1) < S.mark S.top := by
      rw [← signed_natCast]
      exact signed_strictMono (by omega)
    apply nearest_of_neighbours (inRange_of_le le_rfl)
    · rw [signed_natCast]
      linarith
    · intro heq
      rw [signed_natCast] at heq
      linarith
    · intro hlt
      exact absurd hlt (lt_irrefl _)
    · intro hlt
      exact absurd hlt (lt_irrefl _)
  · obtain ⟨k, hk⟩ := Nat.exists_eq_succ_of_ne_zero hpos.ne'
    have hlt : S.mark k < r := lt_of_lt_of_le (S.mark_strictMono (by omega)) h
    have habove := above_of_mark (S := S) (k := k) (by omega) hlt
    rw [← Nat.succ_eq_add_one, ← hk, value_top] at habove
    exact habove le_top

/-- From infinity's mark on, the other directions stay at the greatest finite magnitude. -/
theorem rounds_pred_top {r : ℝ} {d : Direction} (h : S.mark S.top ≤ r)
    (hd : d = .towardZero ∨ d = .towardNegative) : S.Rounds d r (S.top - 1 : ℕ) := by
  have hpos := S.top_pos
  have hmark : S.mark (S.top - 1) < S.mark S.top := S.mark_strictMono (by omega)
  have hbelow : S.Below r (S.top - 1 : ℕ) := by
    apply below_of_mark (by omega) (hmark.le.trans h)
    rw [Nat.sub_add_cancel hpos, value_top]
    exact EReal.coe_lt_top r
  rcases hd with rfl | rfl
  · constructor
    · intro _
      exact hbelow
    · intro hle
      have hr : 0 < r := lt_of_lt_of_le (mark_pos hpos) h
      exact absurd (EReal.coe_nonpos.mp hle) (not_le.mpr hr)
  · exact hbelow

end Scale

end Foundation
