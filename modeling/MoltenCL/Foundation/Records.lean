import Mathlib.Data.List.Basic
import MoltenCL.Foundation.Memory

/-! # Consecutive records

Writing values one behind the other, each into a record of a fixed stride. As
long as every single write stays inside its own record (`Bounded`), the whole
write stays inside the records together, and each record ends up as its own
write left it, over what memory held there at the start.
-/

namespace Foundation

namespace Memory

variable {α β γ : Type} (write : α → ℕ → Memory β → Memory β) (stride : ℕ)

/-- Write a list of values into consecutive records. -/
def storeRecords : List α → ℕ → Memory β → Memory β
  | [], _, m => m
  | x :: xs, ptr, m => storeRecords xs (ptr + stride) (write x ptr m)

/-- Wherever it is written, `x` stays inside its record. -/
def Bounded (x : α) : Prop := ∀ ptr, WritesWithin (write x ptr) (span ptr stride)

variable {write stride}

/-- Bounded writes stay inside the records together. -/
theorem writesWithin_storeRecords {xs : List α} (h : ∀ x ∈ xs, Bounded write stride x) (ptr : ℕ) :
    WritesWithin (storeRecords write stride xs ptr) (span ptr (xs.length * stride)) := by
  induction xs generalizing ptr with
  | nil => exact writesWithin_id _
  | cons x xs ih =>
      have hhead := h x List.mem_cons_self ptr
      have htail := ih (fun y hy => h y (List.mem_cons_of_mem x hy)) (ptr + stride)
      apply (hhead.comp htail).mono
      intro a ha
      rw [List.length_cons, Nat.succ_mul]
      simp only [Set.mem_union, mem_span] at ha ⊢
      omega

/-- Record `i` is what its own write leaves, over memory that agrees with the start
on the record. -/
theorem storeRecords_record {xs : List α} (h : ∀ x ∈ xs, Bounded write stride x) (ptr : ℕ)
    (m : Memory β) {i : ℕ} (hi : i < xs.length) :
    ∃ m' : Memory β, ∀ a ∈ span (ptr + i * stride) stride, m'.cell a = m.cell a ∧
      (storeRecords write stride xs ptr m).cell a =
        (write xs[i] (ptr + i * stride) m').cell a := by
  induction xs generalizing ptr m i with
  | nil => simp at hi
  | cons x xs ih =>
      have htail := fun y hy => h y (List.mem_cons_of_mem x hy)
      cases i with
      | zero =>
          -- the later records begin where the first one ends
          refine ⟨m, fun a ha => ⟨rfl, ?_⟩⟩
          simp only [Nat.zero_mul, Nat.add_zero, List.getElem_cons_zero, mem_span] at ha ⊢
          exact writesWithin_storeRecords htail (ptr + stride) _ a fun hmem => by
            simp only [mem_span] at hmem
            omega
      | succ i =>
          have hlt : i < xs.length := by simpa using hi
          rcases ih htail (ptr + stride) (write x ptr m) hlt with ⟨m', hm'⟩
          have haddr : ptr + stride + i * stride = ptr + (i + 1) * stride := by
            rw [Nat.succ_mul]
            omega
          rw [haddr] at hm'
          refine ⟨m', fun a ha => ?_⟩
          rcases hm' a ha with ⟨hkept, hwritten⟩
          have houtside : a ∉ span ptr stride := by
            simp only [mem_span, Nat.succ_mul] at ha ⊢
            omega
          rw [h x List.mem_cons_self ptr m a houtside] at hkept
          exact ⟨hkept, hwritten⟩

/-! ## Reading records back -/

section Reading

variable (read : Memory β → ℕ → Option γ) (stride)

/-- Read `n` consecutive records. -/
def loadRecords (m : Memory β) : ℕ → ℕ → Option (List γ)
  | _, 0 => some []
  | ptr, n + 1 => do
      let x ← read m ptr
      let rest ← loadRecords m (ptr + stride) n
      return x :: rest

/-- What `read` sees of the memory is one record. -/
def ReadsWithin : Prop :=
  ∀ m m' ptr, (∀ a ∈ span ptr stride, m.cell a = m'.cell a) → read m ptr = read m' ptr

variable {read stride}

/-- **Bounded records read back in order**, over any memory, if each of them does. -/
theorem loadRecords_storeRecords {view : α → γ} {xs : List α} (hlocal : ReadsWithin stride read)
    (hbounded : ∀ x ∈ xs, Bounded write stride x)
    (hread : ∀ x ∈ xs, ∀ ptr m, read (write x ptr m) ptr = some (view x))
    (ptr : ℕ) (m : Memory β) :
    loadRecords stride read (storeRecords write stride xs ptr m) ptr xs.length =
      some (xs.map view) := by
  induction xs generalizing ptr m with
  | nil => rfl
  | cons x xs ih =>
      have hrest := fun y hy => hbounded y (List.mem_cons_of_mem x hy)
      have htail := ih hrest (fun y hy => hread y (List.mem_cons_of_mem x hy)) (ptr + stride)
        (write x ptr m)
      -- the later records leave the first one as it was written
      have hhead : read (storeRecords write stride xs (ptr + stride) (write x ptr m)) ptr =
          some (view x) := by
        rw [← hread x List.mem_cons_self ptr m]
        apply hlocal
        intro a ha
        apply writesWithin_storeRecords hrest
        simp only [mem_span] at ha ⊢
        omega
      simp [loadRecords, storeRecords, hhead, htail]

end Reading

end Memory

end Foundation
