import Mathlib.Data.Set.Basic
import Mathlib.Data.List.Basic
import Mathlib.Logic.Nontrivial.Defs

/-! # Cell memory

Flat memory over an arbitrary cell type, with the two operations a C function
applies to a caller's buffer: a store of one cell and a store of a list of
consecutive cells. Addresses are natural numbers and every address holds a
cell, so a store past the end of a buffer is not an error here: it changes
cells of its neighbour, which is what the frame lemmas rule out.

The last section states what a memory transformer may touch (`WritesWithin`), and
what it writes whatever the memory held before (`WritesExactly`).
-/

namespace Foundation

/-- Memory: the cell at each address. -/
@[ext] structure Memory (α : Type) where
  cell : ℕ → α

namespace Memory

variable {α : Type}

/-- Store one cell. -/
def store (m : Memory α) (a : ℕ) (v : α) : Memory α :=
  ⟨fun b => if b = a then v else m.cell b⟩

/-- Store a list of cells from address `a` on. -/
def storeList (m : Memory α) (a : ℕ) : List α → Memory α
  | [] => m
  | v :: vs => storeList (m.store a v) (a + 1) vs

/-- The `n` cells from address `a` on. -/
def load (m : Memory α) (a n : ℕ) : List α :=
  (List.range n).map fun i => m.cell (a + i)

/-! ## Single stores -/

@[simp] theorem store_self (m : Memory α) (a : ℕ) (v : α) : (m.store a v).cell a = v := by
  simp [store]

@[simp] theorem store_ne (m : Memory α) {a b : ℕ} (v : α) (h : b ≠ a) :
    (m.store a v).cell b = m.cell b := by
  simp [store, h]

/-! ## List stores -/

@[simp] theorem storeList_nil (m : Memory α) (a : ℕ) : m.storeList a [] = m := rfl

@[simp] theorem storeList_cons (m : Memory α) (a : ℕ) (v : α) (vs : List α) :
    m.storeList a (v :: vs) = (m.store a v).storeList (a + 1) vs := rfl

/-- A list store leaves every address outside its range alone. -/
theorem storeList_frame (m : Memory α) (a : ℕ) (vs : List α) {b : ℕ}
    (h : b < a ∨ a + vs.length ≤ b) : (m.storeList a vs).cell b = m.cell b := by
  induction vs generalizing m a with
  | nil => rfl
  | cons v vs ih =>
      simp only [List.length_cons] at h
      rw [storeList_cons, ih _ _ (by omega), store_ne _ _ (by omega)]

/-- A list store is the list on its own range. -/
theorem storeList_get (m : Memory α) (a : ℕ) (vs : List α) {i : ℕ} (h : i < vs.length) :
    (m.storeList a vs).cell (a + i) = vs[i] := by
  induction vs generalizing m a i with
  | nil => simp at h
  | cons v vs ih =>
      cases i with
      | zero =>
          -- the head cell lies below the rest of the store
          rw [storeList_cons, storeList_frame _ _ _ (by omega)]
          simp
      | succ i =>
          have hi : i < vs.length := by simpa using h
          have hrec := ih (m.store a v) (a + 1) hi
          rw [show a + 1 + i = a + (i + 1) by omega] at hrec
          simpa using hrec

/-- Storing a concatenation is storing its parts one behind the other. -/
theorem storeList_append (m : Memory α) (a : ℕ) (vs ws : List α) :
    m.storeList a (vs ++ ws) = (m.storeList a vs).storeList (a + vs.length) ws := by
  induction vs generalizing m a with
  | nil => simp
  | cons v vs ih =>
      rw [List.cons_append, storeList_cons, storeList_cons, ih, List.length_cons,
        show a + 1 + vs.length = a + (vs.length + 1) by omega]

/-- Patching the last cell of a list store is storing the patched list. -/
theorem store_last (m : Memory α) (a : ℕ) (vs : List α) (v w : α) :
    (m.storeList a (vs ++ [v])).store (a + vs.length) w = m.storeList a (vs ++ [w]) := by
  ext b
  simp only [storeList_append, storeList_cons, storeList_nil]
  by_cases hb : b = a + vs.length
  · simp [hb]
  · simp [hb]

/-! ## Loads -/

@[simp] theorem length_load (m : Memory α) (a n : ℕ) : (m.load a n).length = n := by
  simp [load]

theorem load_get (m : Memory α) (a n : ℕ) {i : ℕ} (h : i < (m.load a n).length) :
    (m.load a n)[i] = m.cell (a + i) := by
  simp [load]

/-- Loads agree when the memories agree on the range loaded. -/
theorem load_congr {m m' : Memory α} {a n : ℕ}
    (h : ∀ i < n, m.cell (a + i) = m'.cell (a + i)) : m.load a n = m'.load a n := by
  apply List.map_congr_left
  intro i hi
  exact h i (List.mem_range.mp hi)

/-- A load splits where its range does. -/
theorem load_add (m : Memory α) (a n k : ℕ) :
    m.load a (n + k) = m.load a n ++ m.load (a + n) k := by
  simp [load, List.range_add, Nat.add_assoc]

/-- A list store reads back. -/
theorem load_storeList (m : Memory α) (a : ℕ) (vs : List α) :
    (m.storeList a vs).load a vs.length = vs := by
  apply List.ext_getElem
  · simp
  · intro i h₁ h₂
    rw [load_get, storeList_get m a vs h₂]

/-- A load of a range the store does not meet is unchanged. -/
theorem load_storeList_frame (m : Memory α) (a : ℕ) (vs : List α) {b n : ℕ}
    (h : b + n ≤ a ∨ a + vs.length ≤ b) : (m.storeList a vs).load b n = m.load b n := by
  apply load_congr
  intro i hi
  exact storeList_frame m a vs (by omega)

/-! ## Footprints -/

/-- The addresses from `a` on, `n` of them. -/
def span (a n : ℕ) : Set ℕ := {b | a ≤ b ∧ b < a + n}

@[simp] theorem mem_span {a b n : ℕ} : b ∈ span a n ↔ a ≤ b ∧ b < a + n := Iff.rfl

/-- `f` changes no cell outside `S`, whatever the memory holds. -/
def WritesWithin (f : Memory α → Memory α) (S : Set ℕ) : Prop :=
  ∀ m, ∀ a ∉ S, (f m).cell a = m.cell a

theorem WritesWithin.mono {f : Memory α → Memory α} {S T : Set ℕ} (h : WritesWithin f S)
    (hST : S ⊆ T) : WritesWithin f T :=
  fun m a ha => h m a fun hS => ha (hST hS)

theorem writesWithin_id (S : Set ℕ) : WritesWithin (id : Memory α → Memory α) S :=
  fun _ _ _ => rfl

/-- Composition unites the footprints. -/
theorem WritesWithin.comp {f g : Memory α → Memory α} {S T : Set ℕ}
    (hf : WritesWithin f S) (hg : WritesWithin g T) : WritesWithin (fun m => g (f m)) (S ∪ T) := by
  intro m a ha
  have hT : a ∉ T := fun h => ha (Or.inr h)
  have hS : a ∉ S := fun h => ha (Or.inl h)
  exact (hg (f m) a hT).trans (hf m a hS)

theorem writesWithin_storeList (a : ℕ) (vs : List α) :
    WritesWithin (fun m : Memory α => m.storeList a vs) (span a vs.length) := by
  intro m b hb
  apply storeList_frame
  simp only [mem_span] at hb
  omega

/-- `f` writes the cells of `S` and no other: a cell of `S` gets a value that does not
depend on the memory, every other cell keeps its own. -/
structure WritesExactly (f : Memory α → Memory α) (S : Set ℕ) : Prop where
  within : WritesWithin f S
  overwrites : ∀ m m', ∀ a ∈ S, (f m).cell a = (f m').cell a

theorem writesExactly_storeList (a : ℕ) (vs : List α) :
    WritesExactly (fun m : Memory α => m.storeList a vs) (span a vs.length) where
  within := writesWithin_storeList a vs
  overwrites m m' b hb := by
    rcases Nat.exists_eq_add_of_le hb.1 with ⟨i, rfl⟩
    have hi : i < vs.length := Nat.lt_of_add_lt_add_left hb.2
    exact (storeList_get m a vs hi).trans (storeList_get m' a vs hi).symm

/-- A cell that is written differs from what some memory held there. -/
theorem WritesExactly.exists_ne [Nontrivial α] {f : Memory α → Memory α} {S : Set ℕ}
    (h : WritesExactly f S) {a : ℕ} (ha : a ∈ S) : ∃ m, (f m).cell a ≠ m.cell a := by
  rcases exists_pair_ne α with ⟨x, y, hxy⟩
  by_cases hx : (f ⟨fun _ => x⟩).cell a = x
  · exact ⟨⟨fun _ => y⟩, fun hy => hxy (hx.symm.trans ((h.overwrites _ _ a ha).trans hy))⟩
  · exact ⟨⟨fun _ => x⟩, hx⟩

end Memory

end Foundation
