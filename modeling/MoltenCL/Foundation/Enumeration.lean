import Mathlib.Data.List.TakeDrop
import MoltenCL.Foundation.Memory

/-! # The enumeration protocol

A C function that hands out handles takes the number of slots of the caller's
array, an optional pointer to the array and an optional pointer to a count. Like
a query of unknown size it serves two calls, one that asks for the count and one
that fetches.

* `enumerate` is the protocol over an arbitrary list of selected handles.
* `Enumerated` is what a client may rely on after one call, and
  `enumerate_enumerated` proves it of the protocol.

The slots and the counts are two memories. So a caller is assumed to pass pointers to
separate, aligned storage: an array whose slots overlap the count is not modelled.
-/

namespace Foundation

variable {S H : Type}

/-- The client memory an enumeration writes: slots for handles and counts. -/
@[ext] structure Arrays (H : Type) where
  handles : Memory (Option H)
  counts : Memory UInt32

/-- Store handles through an optional array pointer. -/
def Arrays.fetch (m : Arrays H) (handles : Option ℕ) (l : List H) : Arrays H :=
  match handles with
  | some a => { m with handles := m.handles.storeList a (l.map some) }
  | none => m

/-- Store a number through an optional count pointer. -/
def Arrays.tally (m : Arrays H) (count : Option ℕ) (k : ℕ) : Arrays H :=
  match count with
  | some a => { m with counts := m.counts.store a (UInt32.ofNat k) }
  | none => m

@[simp] theorem Arrays.fetch_counts (m : Arrays H) (handles : Option ℕ) (l : List H) :
    (m.fetch handles l).counts = m.counts := by
  cases handles <;> rfl

@[simp] theorem Arrays.tally_handles (m : Arrays H) (count : Option ℕ) (k : ℕ) :
    (m.tally count k).handles = m.handles := by
  cases count <;> rfl

/-- The call is invalid: it asks for nothing, or fetches into no slots. -/
def InvalidEnumeration (numEntries : ℕ) (handles count : Option ℕ) : Prop :=
  (handles = none ∧ count = none) ∨ (handles ≠ none ∧ numEntries = 0)

instance (numEntries : ℕ) (handles count : Option ℕ) :
    Decidable (InvalidEnumeration numEntries handles count) :=
  inferInstanceAs (Decidable (_ ∨ _))

/-- A call that only counts is valid, whatever number of slots it names. -/
theorem not_invalidEnumeration_count (numEntries a : ℕ) :
    ¬ InvalidEnumeration numEntries none (some a) := by
  simp [InvalidEnumeration]

/-- A call that fetches is valid if there are slots to fetch into. -/
theorem not_invalidEnumeration_fetch {numEntries : ℕ} (h : numEntries ≠ 0) (a : ℕ)
    (count : Option ℕ) : ¬ InvalidEnumeration numEntries (some a) count := by
  simp [InvalidEnumeration, h]

/-- The protocol: refuse an invalid call, otherwise fetch as many handles as there
are slots and report how many there are. -/
def enumerate (ok invalid : S) (selected : List H) (numEntries : ℕ) (handles count : Option ℕ)
    (m : Arrays H) : S × Arrays H :=
  if InvalidEnumeration numEntries handles count then (invalid, m)
  else (ok, (m.fetch handles (selected.take numEntries)).tally count selected.length)

theorem enumerate_invalid {ok invalid : S} {selected : List H} {numEntries : ℕ}
    {handles count : Option ℕ} (h : InvalidEnumeration numEntries handles count) (m : Arrays H) :
    enumerate ok invalid selected numEntries handles count m = (invalid, m) := by
  rw [enumerate, if_pos h]

theorem enumerate_valid {ok invalid : S} {selected : List H} {numEntries : ℕ}
    {handles count : Option ℕ} (h : ¬ InvalidEnumeration numEntries handles count)
    (m : Arrays H) :
    enumerate ok invalid selected numEntries handles count m =
      (ok, (m.fetch handles (selected.take numEntries)).tally count selected.length) := by
  rw [enumerate, if_neg h]

/-- The status says whether the call was invalid, whatever is selected. -/
theorem enumerate_status {ok invalid status : S} {selected : List H} {numEntries : ℕ}
    {handles count : Option ℕ} {m m' : Arrays H}
    (h : enumerate ok invalid selected numEntries handles count m = (status, m')) :
    status = if InvalidEnumeration numEntries handles count then invalid else ok := by
  by_cases hinvalid : InvalidEnumeration numEntries handles count
  · rw [enumerate_invalid hinvalid] at h
    rw [if_pos hinvalid]
    exact (congrArg Prod.fst h).symm
  · rw [enumerate_valid hinvalid] at h
    rw [if_neg hinvalid]
    exact (congrArg Prod.fst h).symm

/-- A response that is not a success is the refusal, and has changed nothing. -/
theorem enumerate_refuses {ok invalid status : S} {selected : List H} {numEntries : ℕ}
    {handles count : Option ℕ} {m m' : Arrays H}
    (h : enumerate ok invalid selected numEntries handles count m = (status, m'))
    (hne : status ≠ ok) : status = invalid ∧ m' = m := by
  by_cases hinvalid : InvalidEnumeration numEntries handles count
  · rw [enumerate_invalid hinvalid] at h
    rcases Prod.mk.inj h with ⟨rfl, rfl⟩
    exact ⟨rfl, rfl⟩
  · have hok := enumerate_status h
    rw [if_neg hinvalid] at hok
    exact absurd hok hne

/-- What a call leaves behind, for the status it returned. -/
structure Enumerated (ok : S) (selected : List H) (numEntries : ℕ) (handles count : Option ℕ)
    (m : Arrays H) (status : S) (m' : Arrays H) : Prop where
  /-- a call that fails changes nothing -/
  atomic : status ≠ ok → m' = m
  /-- the first slots hold the first selected handles, in order -/
  fetched : status = ok → ∀ a, handles = some a →
    m'.handles.load a (min numEntries selected.length) = (selected.take numEntries).map some
  /-- no other slot is touched -/
  slots : ∀ b, (∀ a, handles = some a → b ∉ Memory.span a (min numEntries selected.length)) →
    m'.handles.cell b = m.handles.cell b
  /-- the count is the number of all selected handles -/
  counted : status = ok → ∀ a, count = some a → m'.counts.cell a = UInt32.ofNat selected.length
  /-- no other count is touched -/
  counts : ∀ b, count ≠ some b → m'.counts.cell b = m.counts.cell b

/-- A call that changes nothing and fails. -/
theorem enumerated_of_failed {ok status : S} (h : status ≠ ok) (selected : List H)
    (numEntries : ℕ) (handles count : Option ℕ) (m : Arrays H) :
    Enumerated ok selected numEntries handles count m status m where
  atomic _ := rfl
  fetched hs := absurd hs h
  slots _ _ := rfl
  counted hs := absurd hs h
  counts _ _ := rfl

/-- **The protocol does what a client relies on.** -/
theorem enumerate_enumerated {ok invalid : S} (hne : invalid ≠ ok) (selected : List H)
    (numEntries : ℕ) (handles count : Option ℕ) (m : Arrays H) :
    Enumerated ok selected numEntries handles count m
      (enumerate ok invalid selected numEntries handles count m).1
      (enumerate ok invalid selected numEntries handles count m).2 := by
  by_cases hinvalid : InvalidEnumeration numEntries handles count
  · rw [enumerate, if_pos hinvalid]
    exact enumerated_of_failed hne selected numEntries handles count m
  · rw [enumerate, if_neg hinvalid]
    have hlen : ((selected.take numEntries).map some).length = min numEntries selected.length := by
      simp
    -- the two stores go to different memories, so each is seen through the other
    refine ⟨fun h => absurd rfl h, ?_, ?_, ?_, ?_⟩
    · rintro - a rfl
      rw [← hlen]
      simp only [Arrays.tally_handles, Arrays.fetch, Memory.load_storeList]
    · intro b hb
      cases handles with
      | none => simp [Arrays.fetch]
      | some a =>
          have hnot := hb a rfl
          rw [← hlen] at hnot
          simp only [Arrays.tally_handles, Arrays.fetch]
          exact Memory.writesWithin_storeList a _ m.handles b hnot
    · rintro - a rfl
      simp [Arrays.tally]
    · intro b hb
      cases count with
      | none => simp [Arrays.tally]
      | some a =>
          have hba : b ≠ a := fun h => hb (congrArg some h.symm)
          simp [Arrays.tally, hba]

end Foundation
