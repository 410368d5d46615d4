import Mathlib.Algebra.Group.Int.Defs
import Mathlib.Algebra.Group.Nat.Defs
import Mathlib.Data.Int.Notation
import Mathlib.Data.Nat.Notation

/-! # Half precision

The conversions of `cl_half.h` between `cl_half` and the two wider floating point types. A value
of a type is the bits the source gets by type-punning it; where the source computes in a wider
or unsigned integer type, the reduction to it is written out.
-/

namespace MoltenCL

/-! ## Characteristics of the types -/

def CL_FLT_MANT_DIG : ℕ := 24
def CL_FLT_MAX_EXP : ℕ := 128
def CL_DBL_MANT_DIG : ℕ := 53
def CL_DBL_MAX_EXP : ℕ := 1024
def CL_HALF_MANT_DIG : ℕ := 11
def CL_HALF_MAX_EXP : ℤ := 16
def CL_HALF_MIN_EXP : ℤ := -13

def CL_HALF_EXP_MASK : ℕ := 0x7C00
def CL_HALF_MAX_FINITE_MAG : ℕ := 0x7BFF

/-- Rounding mode used when converting to `cl_half`. -/
inductive CLHalfRoundingMode where
  /-- round to nearest even -/
  | rte
  /-- round towards zero -/
  | rtz
  /-- round towards positive infinity -/
  | rtp
  /-- round towards negative infinity -/
  | rtn
deriving DecidableEq, Repr

/-! ## Conversion to half precision -/

/-- The half for a magnitude from `2 ^ 16` on, which no finite half is near. -/
def clHalfHandleOverflow (roundingMode : CLHalfRoundingMode) (sign : ℕ) : UInt16 :=
  if roundingMode = .rtz then
    .ofNat (sign <<< 15 ||| CL_HALF_MAX_FINITE_MAG)
  else if roundingMode = .rtp ∧ sign ≠ 0 then
    .ofNat (1 <<< 15 ||| CL_HALF_MAX_FINITE_MAG)
  else if roundingMode = .rtn ∧ sign = 0 then
    .ofNat CL_HALF_MAX_FINITE_MAG
  else
    .ofNat (sign <<< 15 ||| CL_HALF_EXP_MASK)

/-- The half for a magnitude below half of the smallest denormal one. -/
def clHalfHandleUnderflow (roundingMode : CLHalfRoundingMode) (sign : ℕ) : UInt16 :=
  if roundingMode = .rtp ∧ sign = 0 then
    .ofNat (sign <<< 15 ||| 1)
  else if roundingMode = .rtn ∧ sign ≠ 0 then
    .ofNat (sign <<< 15 ||| 1)
  else
    .ofNat (sign <<< 15)

/-- The `switch` on the rounding mode: the mantissa after rounding away what lies under it. -/
def clHalfRoundMantissa (roundingMode : CLHalfRoundingMode) (sign hMant rest halfway : ℕ) : ℕ :=
  match roundingMode with
  | .rte =>
      if halfway < rest then (hMant + 1) % 2 ^ 16
      else if rest = halfway then
        if hMant &&& 1 ≠ 0 then (hMant + 1) % 2 ^ 16 else hMant
      else hMant
  | .rtz => hMant
  | .rtp => if rest ≠ 0 ∧ sign = 0 then (hMant + 1) % 2 ^ 16 else hMant
  | .rtn => if rest ≠ 0 ∧ sign ≠ 0 then (hMant + 1) % 2 ^ 16 else hMant

/-- The end of both conversions: shift the mantissa to its place, round it, and carry. -/
def clHalfGenerate (roundingMode : CLHalfRoundingMode) (sign hExp mant lsbPos : ℕ) : UInt16 :=
  let hMant := (mant >>> lsbPos) % 2 ^ 16
  let halfway := 1 <<< (lsbPos - 1)
  let mask := (halfway <<< 1) - 1
  let hMant := clHalfRoundMantissa roundingMode sign hMant (mant &&& mask) halfway
  if hMant &&& 0x400 ≠ 0 then
    .ofNat (sign <<< 15 ||| ((hExp + 1) % 2 ^ 16) <<< 10 ||| 0)
  else
    .ofNat (sign <<< 15 ||| hExp <<< 10 ||| hMant)

/-- What the conversions read of the type they convert from. -/
structure CLFloatType where
  width : ℕ
  MANT_DIG : ℕ
  MAX_EXP : ℕ
  expMask : ℕ

/-- A conversion to half precision; the two of the source differ in the type they convert from. -/
def clHalfFrom (type : CLFloatType) (i : ℕ) (roundingMode : CLHalfRoundingMode) : UInt16 :=
  let sign := i >>> (type.width - 1)
  let fExp := (i >>> (type.MANT_DIG - 1)) &&& type.expMask
  let fMant := i &&& ((1 <<< (type.MANT_DIG - 1)) - 1)
  -- the difference is taken unsigned and then read as signed
  let exp : ℤ := ((fExp : ℤ) - type.MAX_EXP + 1).bmod (2 ^ type.width)
  let hExp := ((exp + CL_HALF_MAX_EXP - 1) % 2 ^ 16).toNat
  let lsbPos := type.MANT_DIG - CL_HALF_MANT_DIG
  if fExp = type.expMask then
    if fMant ≠ 0 then
      let hMant := (fMant >>> lsbPos) % 2 ^ 16 ||| 0x200
      .ofNat (sign <<< 15 ||| CL_HALF_EXP_MASK ||| hMant)
    else
      .ofNat (sign <<< 15 ||| CL_HALF_EXP_MASK)
  else if fExp = 0 ∧ fMant = 0 then
    .ofNat (sign <<< 15)
  else if CL_HALF_MAX_EXP ≤ exp then
    clHalfHandleOverflow roundingMode sign
  else if exp < CL_HALF_MIN_EXP - CL_HALF_MANT_DIG - 1 then
    clHalfHandleUnderflow roundingMode sign
  else if exp < -14 then
    -- denormal: the implicit one becomes explicit
    clHalfGenerate roundingMode sign 0 (fMant ||| 1 <<< (type.MANT_DIG - 1))
      (-exp + ((type.MANT_DIG : ℤ) - 25)).toNat
  else
    clHalfGenerate roundingMode sign hExp fMant lsbPos

/-- `cl_float` -/
def clFloat : CLFloatType :=
  { width := 32, MANT_DIG := CL_FLT_MANT_DIG, MAX_EXP := CL_FLT_MAX_EXP, expMask := 0xFF }

/-- `cl_double` -/
def clDouble : CLFloatType :=
  { width := 64, MANT_DIG := CL_DBL_MANT_DIG, MAX_EXP := CL_DBL_MAX_EXP, expMask := 0x7FF }

/-- `cl_half_from_float` -/
def clHalfFromFloat (f : UInt32) (roundingMode : CLHalfRoundingMode) : UInt16 :=
  clHalfFrom clFloat f.toNat roundingMode

/-- `cl_half_from_double` -/
def clHalfFromDouble (d : UInt64) (roundingMode : CLHalfRoundingMode) : UInt16 :=
  clHalfFrom clDouble d.toNat roundingMode

/-! ## Conversion from half precision -/

/-- The `while` loop that moves the leading one of a denormal mantissa to its implicit place: the
mantissa and the shift it ends with, `none` when the iterations run out. -/
def clHalfNormalize : ℕ → ℕ → ℕ → Option (ℕ × ℕ)
  | 0, _, _ => none
  | fuel + 1, hMant, shift =>
      if hMant &&& 0x400 = 0 then
        clHalfNormalize fuel ((hMant <<< 1) % 2 ^ 16) ((shift + 1) % 2 ^ 32)
      else
        some (hMant, shift)

/-- `cl_half_to_float`; the loop is given as many iterations as a mantissa has bits. The source
shifts the sign of a negative half out of a promoted `int`, which C leaves undefined; the bit
wraps to the top here, as compilers have it. -/
def clHalfToFloat (h : UInt16) : Option UInt32 :=
  let sign := h.toNat >>> 15
  let hExp := (h.toNat >>> (CL_HALF_MANT_DIG - 1)) &&& 0x1F
  let hMant := h.toNat &&& 0x3FF
  let exp : ℤ := hExp - CL_HALF_MAX_EXP + 1
  let fExp := ((exp + CL_FLT_MAX_EXP - 1) % 2 ^ 32).toNat
  if hExp = 0x1F then
    if hMant ≠ 0 then
      let fMant := hMant <<< (CL_FLT_MANT_DIG - CL_HALF_MANT_DIG) ||| 0x400000
      some (.ofNat (sign <<< 31 ||| 0x7F800000 ||| fMant))
    else
      some (.ofNat (sign <<< 31 ||| 0x7F800000))
  else if hExp = 0 then
    if hMant = 0 then
      some (.ofNat (sign <<< 31 ||| 0 <<< 23 ||| hMant <<< 13))
    else
      match clHalfNormalize CL_HALF_MANT_DIG hMant 0 with
      | none => none
      | some (hMant, shift) =>
          let hMant := hMant &&& 0x3FF
          let fExp := (fExp + 2 ^ 32 - (shift + 2 ^ 32 - 1) % 2 ^ 32) % 2 ^ 32
          some (.ofNat (sign <<< 31 ||| fExp <<< 23 ||| hMant <<< 13))
  else
    some (.ofNat (sign <<< 31 ||| fExp <<< 23 ||| hMant <<< 13))

end MoltenCL
