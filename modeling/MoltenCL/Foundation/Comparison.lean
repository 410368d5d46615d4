import Mathlib.Order.Lattice

/-! # Comparisons

A type that is compared by an order of its own, `lt`, next to the equality it comes
with. The two are separate definitions, and a client that sorts, searches or takes a
maximum relies on how they fit (`ComparableAt`).

Most orders compare by a key (`ByKey`). They are transitive and never compare two
values both ways; what is left to check is that the key tells different values apart
(`ByKey.comparableAt_iff_key`).
-/

namespace Foundation

/-- One of the three holds, and the other two do not. -/
def ExactlyOne (p q r : Prop) : Prop := (p ∧ ¬ q ∧ ¬ r) ∨ (¬ p ∧ q ∧ ¬ r) ∨ (¬ p ∧ ¬ q ∧ r)

/-- What Swift's `Comparable` asks of `<` and `==`, at two values and a third. The
derived `x <= y` is `!(y < x)`. -/
structure ComparableAt {α : Type} (lt : α → α → Prop) (a b c : α) : Prop where
  exactlyOne : ExactlyOne (lt a b) (a = b) (lt b a)
  trans : lt a b → lt b c → lt a c
  antisymm : ¬ lt b a → ¬ lt a b → a = b

/-- The order compares the keys of its values. -/
def ByKey {α κ : Type} [LT κ] (lt : α → α → Prop) (key : α → κ) : Prop :=
  ∀ a b, lt a b ↔ key a < key b

namespace ByKey

variable {α κ : Type} [LinearOrder κ] {lt : α → α → Prop} {key : α → κ}

theorem trans (h : ByKey lt key) {a b c : α} (hab : lt a b) (hbc : lt b c) : lt a c :=
  (h a c).mpr (lt_trans ((h a b).mp hab) ((h b c).mp hbc))

theorem asymm (h : ByKey lt key) {a b : α} (hab : lt a b) : ¬ lt b a :=
  fun hba => lt_asymm ((h a b).mp hab) ((h b a).mp hba)

/-- Values that are not ordered have the same key. -/
theorem not_lt_iff (h : ByKey lt key) {a b : α} : (¬ lt a b ∧ ¬ lt b a) ↔ key a = key b := by
  rw [h a b, h b a, not_lt, not_lt]
  constructor
  · intro hle
    exact le_antisymm hle.2 hle.1
  · intro heq
    exact ⟨le_of_eq heq.symm, le_of_eq heq⟩

/-- Order and equality fit on two values exactly if the key tells them apart. -/
theorem comparableAt_iff_key (h : ByKey lt key) {a b c : α} :
    ComparableAt lt a b c ↔ (key a = key b → a = b) := by
  constructor
  · intro hcomparable heq
    rcases h.not_lt_iff.mpr heq with ⟨hab, hba⟩
    exact hcomparable.antisymm hba hab
  · intro hkey
    have hantisymm : ¬ lt b a → ¬ lt a b → a = b :=
      fun hba hab => hkey (h.not_lt_iff.mp ⟨hab, hba⟩)
    have hirrefl : ∀ x, ¬ lt x x := fun x hx => h.asymm hx hx
    refine ⟨?_, h.trans, hantisymm⟩
    by_cases hab : lt a b
    · exact Or.inl ⟨hab, fun heq => hirrefl b (heq ▸ hab), h.asymm hab⟩
    · by_cases hba : lt b a
      · exact Or.inr (Or.inr ⟨hab, fun heq => hirrefl b (heq ▸ hba), hba⟩)
      · exact Or.inr (Or.inl ⟨hab, hantisymm hba hab, hba⟩)

end ByKey

end Foundation
