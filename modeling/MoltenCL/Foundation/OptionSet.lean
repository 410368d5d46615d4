import Mathlib.Data.Set.Basic
import Mathlib.Data.BitVec

/-! # Option sets

Swift's `OptionSet`: a set of flags kept as the bits of a machine word. Each
operation of the code (a bitwise formula over `rawValue`) is matched with the
operation on sets of bit numbers it stands for, so that reasoning about masks is
reasoning about sets.
-/

namespace Foundation

/-- A set of flags in a word of `w` bits. -/
@[ext] structure OptionSet (w : ℕ) where
  rawValue : BitVec w
deriving DecidableEq

namespace OptionSet

variable {w : ℕ}

/-- The empty array literal `[]`. -/
def empty : OptionSet w := ⟨0⟩

/-- `contains`: every bit of `t` is set in `s`. -/
def contains (s t : OptionSet w) : Bool := s.rawValue &&& t.rawValue == t.rawValue

/-- `intersection`. -/
def intersection (s t : OptionSet w) : OptionSet w := ⟨s.rawValue &&& t.rawValue⟩

/-- `union`, which an array literal of flags takes over its elements. -/
def union (s t : OptionSet w) : OptionSet w := ⟨s.rawValue ||| t.rawValue⟩

/-- A flag: the word `1 << i`. -/
def flag (i : ℕ) : OptionSet w := ⟨BitVec.twoPow w i⟩

/-- The bit numbers of a set of flags. -/
def bits (s : OptionSet w) : Set ℕ := {i | s.rawValue.getLsbD i = true}

@[simp] theorem mem_bits {s : OptionSet w} {i : ℕ} : i ∈ s.bits ↔ s.rawValue.getLsbD i = true :=
  Iff.rfl

instance (s : OptionSet w) (i : ℕ) : Decidable (i ∈ s.bits) :=
  inferInstanceAs (Decidable (s.rawValue.getLsbD i = true))

/-- A set of flags is its bits. -/
theorem bits_injective : Function.Injective (bits : OptionSet w → Set ℕ) := by
  intro s t h
  ext i hi
  have hmem : i ∈ s.bits ↔ i ∈ t.bits := by rw [h]
  simp only [mem_bits] at hmem
  rw [← BitVec.getLsbD_eq_getElem, ← BitVec.getLsbD_eq_getElem]
  exact Bool.eq_iff_iff.mpr hmem

@[simp] theorem bits_empty : (empty : OptionSet w).bits = ∅ := by
  ext i
  simp [empty]

@[simp] theorem bits_intersection (s t : OptionSet w) :
    (s.intersection t).bits = s.bits ∩ t.bits := by
  ext i
  simp [intersection]

@[simp] theorem bits_union (s t : OptionSet w) : (s.union t).bits = s.bits ∪ t.bits := by
  ext i
  simp [union]

/-- A flag of the word is its own single bit. -/
theorem bits_flag {i : ℕ} (hi : i < w) : (flag i : OptionSet w).bits = {i} := by
  ext j
  simp only [flag, mem_bits, BitVec.getLsbD_twoPow, Set.mem_singleton_iff]
  constructor
  · intro h
    have hij : i < w ∧ i = j := by simpa using h
    exact hij.2.symm
  · rintro rfl
    simp [hi]

/-- `contains` is inclusion of bits. -/
theorem contains_iff_subset {s t : OptionSet w} : s.contains t = true ↔ t.bits ⊆ s.bits := by
  have hinter : s.contains t = true ↔ s.intersection t = t := by
    simp [contains, intersection, OptionSet.ext_iff]
  rw [hinter, ← bits_injective.eq_iff, bits_intersection, Set.inter_eq_right]

/-- Containing a flag is having its bit. -/
theorem contains_flag {s : OptionSet w} {i : ℕ} (hi : i < w) :
    s.contains (flag i) = true ↔ i ∈ s.bits := by
  rw [contains_iff_subset, bits_flag hi, Set.singleton_subset_iff]

/-- A set with a flag is that flag alone, or has another bit. -/
theorem contains_flag_iff_eq_or {s : OptionSet w} {i : ℕ} (hi : i < w) :
    s.contains (flag i) = true ↔ s = flag i ∨ (i ∈ s.bits ∧ ∃ j ∈ s.bits, j ≠ i) := by
  rw [contains_flag hi]
  constructor
  · intro hmem
    by_cases hother : ∃ j ∈ s.bits, j ≠ i
    · exact Or.inr ⟨hmem, hother⟩
    · left
      rw [← bits_injective.eq_iff, bits_flag hi]
      exact Set.eq_singleton_iff_unique_mem.mpr
        ⟨hmem, fun j hj => by_contra fun hne => hother ⟨j, hj, hne⟩⟩
  · intro h
    rcases h with rfl | ⟨hmem, -⟩
    · rw [bits_flag hi]
      exact Set.mem_singleton i
    · exact hmem

/-- An empty intersection means no bit in common. -/
theorem intersection_eq_empty_iff {s t : OptionSet w} :
    s.intersection t = empty ↔ ∀ i ∈ t.bits, i ∉ s.bits := by
  rw [← bits_injective.eq_iff, bits_intersection, bits_empty]
  constructor
  · intro h i ht hs
    have hmem : i ∈ s.bits ∩ t.bits := ⟨hs, ht⟩
    rw [h] at hmem
    exact hmem
  · intro h
    ext i
    exact ⟨fun hi => h i hi.2 hi.1, fun hi => hi.elim⟩

end OptionSet

end Foundation
