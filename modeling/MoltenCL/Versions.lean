import Mathlib.Data.Prod.Lex
import MoltenCL.Header
import MoltenCL.Version
import MoltenCL.Foundation.Comparison

/-! # Laws of versions

What a client relies on about `CLVersion` and the `cl_version` word:

* packing and unpacking are inverse up to the width of the fields, and agree with the
  macros of the C header (`version_codec`);
* versions whose components fit their fields are ordered as their words are
  (`version_lt_iff`);
* the order fits equality except where an absent patch meets a patch of 0
  (`comparableAt_iff`).
-/

namespace MoltenCL

open Foundation

namespace CLVersion

/-! ## The codec -/

/-- The fields of the word a C client makes. -/
theorem makeVersion_toNat (major minor patch : UInt32) :
    (CL_MAKE_VERSION major minor patch).toNat = major.toNat % 2 ^ 10 * 2 ^ 22 +
      minor.toNat % 2 ^ 10 * 2 ^ 12 + patch.toNat % 2 ^ 12 := by
  have hmask : CL_VERSION_MAJOR_MASK.toNat = 2 ^ 10 - 1 ∧ CL_VERSION_MINOR_MASK.toNat = 2 ^ 10 - 1 ∧
      CL_VERSION_PATCH_MASK.toNat = 2 ^ 12 - 1 := by decide
  rcases hmask with ⟨hmajorMask, hminorMask, hpatchMask⟩
  have hmajor : ((major &&& CL_VERSION_MAJOR_MASK) <<<
      (CL_VERSION_MINOR_BITS + CL_VERSION_PATCH_BITS)).toNat = major.toNat % 2 ^ 10 * 2 ^ 22 := by
    rw [UInt32.toNat_shiftLeft, UInt32.toNat_and, hmajorMask, Nat.and_two_pow_sub_one_eq_mod,
      show (CL_VERSION_MINOR_BITS + CL_VERSION_PATCH_BITS).toNat % 32 = 22 from by decide,
      Nat.shiftLeft_eq]
    omega
  have hminor : ((minor &&& CL_VERSION_MINOR_MASK) <<< CL_VERSION_PATCH_BITS).toNat =
      minor.toNat % 2 ^ 10 * 2 ^ 12 := by
    rw [UInt32.toNat_shiftLeft, UInt32.toNat_and, hminorMask, Nat.and_two_pow_sub_one_eq_mod,
      show CL_VERSION_PATCH_BITS.toNat % 32 = 12 from by decide, Nat.shiftLeft_eq]
    omega
  have hpatch : (patch &&& CL_VERSION_PATCH_MASK).toNat = patch.toNat % 2 ^ 12 := by
    rw [UInt32.toNat_and, hpatchMask, Nat.and_two_pow_sub_one_eq_mod]
  exact or_fields_toNat hmajor hminor hpatch (Nat.mod_lt _ (by decide)) (Nat.mod_lt _ (by decide))

/-- The fields a C client takes from a word. -/
theorem versionMacros_toNat (w : UInt32) :
    (CL_VERSION_MAJOR w).toNat = w.toNat / 2 ^ 22 ∧
      (CL_VERSION_MINOR w).toNat = w.toNat / 2 ^ 12 % 2 ^ 10 ∧
      (CL_VERSION_PATCH w).toNat = w.toNat % 2 ^ 12 := by
  refine ⟨?_, ?_, ?_⟩
  · rw [CL_VERSION_MAJOR, UInt32.toNat_shiftRight,
      show (CL_VERSION_MINOR_BITS + CL_VERSION_PATCH_BITS).toNat % 32 = 22 from by decide,
      Nat.shiftRight_eq_div_pow]
  · rw [CL_VERSION_MINOR, UInt32.toNat_and, UInt32.toNat_shiftRight,
      show CL_VERSION_PATCH_BITS.toNat % 32 = 12 from by decide,
      show CL_VERSION_MINOR_MASK.toNat = 2 ^ 10 - 1 from by decide,
      Nat.and_two_pow_sub_one_eq_mod, Nat.shiftRight_eq_div_pow]
  · rw [CL_VERSION_PATCH, UInt32.toNat_and,
      show CL_VERSION_PATCH_MASK.toNat = 2 ^ 12 - 1 from by decide,
      Nat.and_two_pow_sub_one_eq_mod]

/-- Packing an unpacked word gives the word back. -/
theorem version_initVersion (w : UInt32) : (initVersion w).version = w := by
  rcases initVersion_toNat w with ⟨hmajor, hminor, hpatch⟩
  have hw : w.toNat < 2 ^ 32 := w.toNat_lt
  apply UInt32.toNat_inj.mp
  rw [version_toNat, hmajor, hminor, hpatch]
  omega

/-- **The codec.** Unpacking a word and packing it again gives the word, and the
components are those the C macros take from it. Packing a version gives the word the
C macro makes, and unpacking that leaves every component in its own field: cut to its
width, with a patch that is always present. -/
theorem version_codec :
    (∀ w : UInt32, (initVersion w).version = w ∧
      (initVersion w).major = CL_VERSION_MAJOR w ∧
      (initVersion w).minor = CL_VERSION_MINOR w ∧
      (initVersion w).patch = some (CL_VERSION_PATCH w)) ∧
    ∀ v : CLVersion, v.version = CL_MAKE_VERSION v.major v.minor (v.patch.getD 0) ∧
      (initVersion v.version).major.toNat = v.major.toNat % 2 ^ 10 ∧
      (initVersion v.version).minor.toNat = v.minor.toNat % 2 ^ 10 ∧
      ∃ patch, (initVersion v.version).patch = some patch ∧
        patch.toNat = (v.patch.getD 0).toNat % 2 ^ 12 := by
  constructor
  · intro w
    rcases initVersion_toNat w with ⟨hmajor, hminor, hpatch⟩
    rcases versionMacros_toNat w with ⟨hmajor', hminor', hpatch'⟩
    refine ⟨version_initVersion w, ?_, ?_, ?_⟩
    · exact UInt32.toNat_inj.mp (hmajor.trans hmajor'.symm)
    · exact UInt32.toNat_inj.mp (hminor.trans hminor'.symm)
    · rw [initVersion_patch]
      exact congrArg some (UInt32.toNat_inj.mp (hpatch.trans hpatch'.symm))
  · intro v
    have hmod : ∀ x k : UInt32, (x % k).toNat = x.toNat % k.toNat := UInt32.toNat_mod
    have hmake : v.version = CL_MAKE_VERSION v.major v.minor (v.patch.getD 0) :=
      UInt32.toNat_inj.mp ((version_toNat v).trans (makeVersion_toNat _ _ _).symm)
    rw [initVersion_version]
    exact ⟨hmake, hmod _ _, hmod _ _, _, rfl, hmod _ _⟩

/-! ## The order of the words -/

/-- The key of a version: its components, an absent patch counting as 0. -/
def key (v : CLVersion) : ℕ ×ₗ ℕ ×ₗ ℕ :=
  toLex (v.major.toNat, toLex (v.minor.toNat, (v.patch.getD 0).toNat))

/-- `<` compares the components in order. -/
theorem lt_byKey : ByKey (fun v w : CLVersion => v.lt w = true) key := by
  intro v w
  have hmajor : v.major = w.major ↔ v.major.toNat = w.major.toNat := UInt32.toNat_inj.symm
  have hminor : v.minor = w.minor ↔ v.minor.toNat = w.minor.toNat := UInt32.toNat_inj.symm
  simp only [lt, key, Prod.Lex.lt_iff, ofLex_toLex, bne_iff_ne, ne_eq, hmajor, hminor]
  -- the code leaves at the first component that differs
  split_ifs with h1 h2
  · simp only [decide_eq_true_eq, UInt32.lt_iff_toNat_lt]
    omega
  · simp only [decide_eq_true_eq, UInt32.lt_iff_toNat_lt]
    omega
  · simp only [decide_eq_true_eq, UInt32.lt_iff_toNat_lt]
    omega

/-- Every component fits its field. -/
structure Fits (v : CLVersion) : Prop where
  major : v.major.toNat < 2 ^ 10
  minor : v.minor.toNat < 2 ^ 10
  patch : ∀ p, v.patch = some p → p.toNat < 2 ^ 12

/-- The word of a version that fits is its components at their weights. -/
theorem Fits.version_toNat {v : CLVersion} (h : v.Fits) :
    (v.patch.getD 0).toNat < 2 ^ 12 ∧
      v.version.toNat = v.major.toNat * 2 ^ 22 + v.minor.toNat * 2 ^ 12 +
        (v.patch.getD 0).toNat := by
  have hpatch : (v.patch.getD 0).toNat < 2 ^ 12 := by
    cases hp : v.patch with
    | none => decide
    | some p => exact h.patch p hp
  rw [CLVersion.version_toNat, Nat.mod_eq_of_lt h.major, Nat.mod_eq_of_lt h.minor,
    Nat.mod_eq_of_lt hpatch]
  exact ⟨hpatch, rfl⟩

/-- **Versions that fit are ordered as their words are**, and are unordered exactly if
they have the same word. -/
theorem version_lt_iff {v w : CLVersion} (hv : v.Fits) (hw : w.Fits) :
    (v.lt w = true ↔ v.version < w.version) ∧
      ((¬ v.lt w = true ∧ ¬ w.lt v = true) ↔ v.version = w.version) := by
  rcases hv.version_toNat with ⟨hvpatch, hvword⟩
  rcases hw.version_toNat with ⟨hwpatch, hwword⟩
  have hvminor := hv.minor
  have hwminor := hw.minor
  -- the word is the key written in mixed radix
  have hlt : key v < key w ↔ v.version.toNat < w.version.toNat := by
    simp only [key, Prod.Lex.lt_iff, ofLex_toLex]
    omega
  have heq : key v = key w ↔ v.version.toNat = w.version.toNat := by
    simp only [key, EmbeddingLike.apply_eq_iff_eq, Prod.mk.injEq]
    omega
  constructor
  · rw [UInt32.lt_iff_toNat_lt, ← hlt]
    exact lt_byKey v w
  · rw [← UInt32.toNat_inj, ← heq]
    exact lt_byKey.not_lt_iff

/-- 1.0 without a patch. -/
def v1_0 : CLVersion := { major := 1, minor := 0 }

/-- 1.0 with a patch of 0. -/
def v1_0_0 : CLVersion := { major := 1, minor := 0, patch := some 0 }

/-- A patch of 0 is as good as none to the words and to the order. -/
theorem version_lt_absentPatch :
    (v1_0.lt v1_0_0 = true ↔ v1_0.version < v1_0_0.version) ∧
      ((¬ v1_0.lt v1_0_0 = true ∧ ¬ v1_0_0.lt v1_0 = true) ↔ v1_0.version = v1_0_0.version) :=
  version_lt_iff ⟨by decide, by decide, by rintro p ⟨⟩⟩
    ⟨by decide, by decide, by rintro p ⟨⟩; decide⟩

/-! ## The order and equality -/

/-- The versions differ only in that one has no patch and the other a patch of 0. -/
def DifferInAbsentPatch (v w : CLVersion) : Prop :=
  v.major = w.major ∧ v.minor = w.minor ∧
    ((v.patch = none ∧ w.patch = some 0) ∨ (v.patch = some 0 ∧ w.patch = none))

instance (v w : CLVersion) : Decidable (DifferInAbsentPatch v w) :=
  inferInstanceAs (Decidable (_ ∧ _))

/-- The key confuses exactly these versions with each other. -/
theorem key_eq_iff {v w : CLVersion} :
    key v = key w ↔ v = w ∨ DifferInAbsentPatch v w := by
  have hkey : key v = key w ↔
      v.major = w.major ∧ v.minor = w.minor ∧ v.patch.getD 0 = w.patch.getD 0 := by
    simp only [key, EmbeddingLike.apply_eq_iff_eq, Prod.mk.injEq, UInt32.toNat_inj]
  rw [hkey, CLVersion.ext_iff, DifferInAbsentPatch]
  cases hv : v.patch with
  | none =>
      cases hw : w.patch with
      | none => simp
      | some q => simp [eq_comm]
  | some p =>
      cases hw : w.patch with
      | none => simp
      | some q => simp

/-- **The order of versions fits their equality exactly where no absent patch meets a
patch of 0.** -/
theorem comparableAt_iff (a b c : CLVersion) :
    ComparableAt (fun v w : CLVersion => v.lt w = true) a b c ↔ ¬ DifferInAbsentPatch a b := by
  rw [lt_byKey.comparableAt_iff_key, key_eq_iff]
  have hne : DifferInAbsentPatch a b → a ≠ b := by
    rintro ⟨-, -, ⟨ha, hb⟩ | ⟨ha, hb⟩⟩ rfl
    · simp [ha] at hb
    · simp [ha] at hb
  constructor
  · intro h hdiffer
    exact hne hdiffer (h (Or.inr hdiffer))
  · intro h heq
    rcases heq with heq | hdiffer
    · exact heq
    · exact absurd hdiffer h

/-- 1.0 and 1.0.0 are not equal, and neither is below the other. -/
theorem absentPatch_not_comparable :
    v1_0.lt v1_0_0 = false ∧ v1_0 ≠ v1_0_0 ∧ v1_0_0.lt v1_0 = false ∧
      ¬ ComparableAt (fun v w : CLVersion => v.lt w = true) v1_0 v1_0_0 v1_0 := by
  refine ⟨by decide, by decide, by decide, fun h => ?_⟩
  exact absurd (h.antisymm (by decide) (by decide)) (by decide)

end CLVersion

end MoltenCL
