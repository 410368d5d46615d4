import Mathlib.Data.Nat.Bitwise
import MoltenCL.Foundation.SwiftString

/-! # Versions

`CLVersion` and its packed 32-bit form: ten bits of major, ten of minor and
twelve of patch. Packing shifts before it masks, unpacking masks before it
shifts; both come down to division and remainder by the field weights
(`version_toNat`, `initVersion_toNat`).
-/

namespace MoltenCL

open Foundation

/-- A version with an optional patch number. -/
@[ext] structure CLVersion where
  major : UInt32
  minor : UInt32
  patch : Option UInt32 := none
deriving DecidableEq, Repr

/-- A name with a version, for extensions, built-in kernels and ILs. -/
structure CLNameVersion where
  version : CLVersion
  name : SwiftString
deriving DecidableEq

namespace CLVersion

/-- The comparison `<`: lexicographic, an absent patch counting as 0. -/
def lt (lhs rhs : CLVersion) : Bool :=
  if lhs.major != rhs.major then
    lhs.major < rhs.major
  else if lhs.minor != rhs.minor then
    lhs.minor < rhs.minor
  else
    let lhsPatch := lhs.patch.getD 0
    let rhsPatch := rhs.patch.getD 0
    lhsPatch < rhsPatch

def majorBits : UInt32 := 10
def minorBits : UInt32 := 10
def patchBits : UInt32 := 12

-- `<<` binds tighter than `-`, in Swift as it does here
def majorMask : UInt32 := 1 <<< majorBits - 1
def minorMask : UInt32 := 1 <<< minorBits - 1
def patchMask : UInt32 := 1 <<< patchBits - 1

/-- `CLVersion.init(version:)`: unpack a `cl_version` word. -/
def initVersion (version : UInt32) : CLVersion :=
  let major := version &&& (majorMask <<< (minorBits + patchBits))
  let minor := version &&& (minorMask <<< patchBits)
  let patch := version &&& patchMask
  { major := major >>> (minorBits + patchBits)
    minor := minor >>> patchBits
    patch := some patch }

/-- `CLVersion.version`: the packed `cl_version` word. -/
def version (v : CLVersion) : UInt32 :=
  let major := (v.major <<< (minorBits + patchBits)) &&& (majorMask <<< (minorBits + patchBits))
  let minor := (v.minor <<< patchBits) &&& (minorMask <<< patchBits)
  let patch := v.patch.getD 0 &&& patchMask
  major ||| minor ||| patch

/-! ## Arithmetic of the packed word -/

/-- Masking a field in place keeps the field's digits at the field's weight. -/
theorem and_shifted_mask (x k n : ℕ) :
    x &&& ((2 ^ n - 1) <<< k) = x / 2 ^ k % 2 ^ n * 2 ^ k := by
  apply Nat.eq_of_testBit_eq
  intro i
  rw [← Nat.shiftLeft_eq]
  simp only [Nat.testBit_and, Nat.testBit_shiftLeft, Nat.testBit_two_pow_sub_one,
    Nat.testBit_mod_two_pow, Nat.testBit_div_two_pow]
  by_cases hi : k ≤ i
  · simp [hi, Bool.and_comm]
  · simp [hi]

/-- The field of the major component. -/
theorem majorField_toNat :
    (majorMask <<< (minorBits + patchBits)).toNat = (2 ^ 10 - 1) <<< 22 := by decide

/-- The field of the minor component. -/
theorem minorField_toNat : (minorMask <<< patchBits).toNat = (2 ^ 10 - 1) <<< 12 := by decide

/-- The field of the patch component. -/
theorem patchMask_toNat : patchMask.toNat = 2 ^ 12 - 1 := by decide

/-- Joining a major, a minor and a patch field is adding them. -/
theorem or_fields_toNat {major minor patch : UInt32} {x y z : ℕ}
    (hmajor : major.toNat = x * 2 ^ 22) (hminor : minor.toNat = y * 2 ^ 12)
    (hpatch : patch.toNat = z) (hy : y < 2 ^ 10) (hz : z < 2 ^ 12) :
    (major ||| minor ||| patch).toNat = x * 2 ^ 22 + y * 2 ^ 12 + z := by
  have hlow : y * 2 ^ 12 < 2 ^ 22 := by omega
  have hjoined : x * 2 ^ 22 + y * 2 ^ 12 = (x * 2 ^ 10 + y) <<< 12 := by
    rw [Nat.shiftLeft_eq]
    omega
  -- the fields do not overlap
  rw [UInt32.toNat_or, UInt32.toNat_or, hmajor, hminor, hpatch, ← Nat.shiftLeft_eq x 22,
    ← Nat.shiftLeft_add_eq_or_of_lt hlow, Nat.shiftLeft_eq, hjoined,
    ← Nat.shiftLeft_add_eq_or_of_lt hz]

/-- The packed word is the sum of its fields at their weights. -/
theorem version_toNat (v : CLVersion) :
    v.version.toNat = v.major.toNat % 2 ^ 10 * 2 ^ 22 + v.minor.toNat % 2 ^ 10 * 2 ^ 12 +
      (v.patch.getD 0).toNat % 2 ^ 12 := by
  have hmajor : (v.major <<< (minorBits + patchBits) &&&
      majorMask <<< (minorBits + patchBits)).toNat = v.major.toNat % 2 ^ 10 * 2 ^ 22 := by
    rw [UInt32.toNat_and, majorField_toNat, and_shifted_mask, UInt32.toNat_shiftLeft,
      show (minorBits + patchBits).toNat % 32 = 22 from by decide, Nat.shiftLeft_eq]
    omega
  have hminor : (v.minor <<< patchBits &&& minorMask <<< patchBits).toNat =
      v.minor.toNat % 2 ^ 10 * 2 ^ 12 := by
    rw [UInt32.toNat_and, minorField_toNat, and_shifted_mask, UInt32.toNat_shiftLeft,
      show patchBits.toNat % 32 = 12 from by decide, Nat.shiftLeft_eq]
    omega
  have hpatch : (v.patch.getD 0 &&& patchMask).toNat = (v.patch.getD 0).toNat % 2 ^ 12 := by
    rw [UInt32.toNat_and, patchMask_toNat, Nat.and_two_pow_sub_one_eq_mod]
  exact or_fields_toNat hmajor hminor hpatch (Nat.mod_lt _ (by decide)) (Nat.mod_lt _ (by decide))

/-- Unpacking reads the fields off the word by division and remainder. -/
theorem initVersion_toNat (w : UInt32) :
    (initVersion w).major.toNat = w.toNat / 2 ^ 22 ∧
      (initVersion w).minor.toNat = w.toNat / 2 ^ 12 % 2 ^ 10 ∧
      ((initVersion w).patch.getD 0).toNat = w.toNat % 2 ^ 12 := by
  have hw : w.toNat < 2 ^ 32 := w.toNat_lt
  refine ⟨?_, ?_, ?_⟩
  · rw [initVersion, UInt32.toNat_shiftRight, UInt32.toNat_and, majorField_toNat,
      and_shifted_mask, show (minorBits + patchBits).toNat % 32 = 22 from by decide,
      Nat.shiftRight_eq_div_pow]
    omega
  · rw [initVersion, UInt32.toNat_shiftRight, UInt32.toNat_and, minorField_toNat,
      and_shifted_mask, show patchBits.toNat % 32 = 12 from by decide,
      Nat.shiftRight_eq_div_pow]
    omega
  · rw [initVersion, Option.getD_some, UInt32.toNat_and, patchMask_toNat,
      Nat.and_two_pow_sub_one_eq_mod]

/-- An unpacked version always has a patch. -/
theorem initVersion_patch (w : UInt32) :
    (initVersion w).patch = some ((initVersion w).patch.getD 0) := rfl

/-- What survives a trip through the packed word: each component cut to its
field (10, 10 and 12 bits), and a patch that is always present. -/
def truncated (v : CLVersion) : CLVersion :=
  { major := v.major % 1024
    minor := v.minor % 1024
    patch := some (v.patch.getD 0 % 4096) }

/-- Packing and unpacking cuts every component to its own field: nothing leaks
into a neighbour. -/
theorem initVersion_version (v : CLVersion) : initVersion v.version = v.truncated := by
  rcases initVersion_toNat v.version with ⟨hmajor, hminor, hpatch⟩
  rw [version_toNat] at hmajor hminor hpatch
  -- every component by its number: the fields do not overlap in the sum
  have hmod : ∀ x k : UInt32, (x % k).toNat = x.toNat % k.toNat := UInt32.toNat_mod
  have h10 : (1024 : UInt32).toNat = 2 ^ 10 := by decide
  have h12 : (4096 : UInt32).toNat = 2 ^ 12 := by decide
  have hmaj : (initVersion v.version).major = v.major % 1024 := by
    apply UInt32.toNat_inj.mp
    rw [hmajor, hmod, h10]
    omega
  have hmin : (initVersion v.version).minor = v.minor % 1024 := by
    apply UInt32.toNat_inj.mp
    rw [hminor, hmod, h10]
    omega
  have hpat : (initVersion v.version).patch.getD 0 = v.patch.getD 0 % 4096 := by
    apply UInt32.toNat_inj.mp
    rw [hpatch, hmod, h12]
    omega
  exact CLVersion.ext hmaj hmin (by rw [initVersion_patch, hpat]; rfl)

end CLVersion

end MoltenCL
