import MoltenCL.Strings

/-! # Footprints of the writers

A value other than a list of name-version records is written as one run of bytes. A
fetch that succeeds writes those bytes and no other, and what it leaves does not depend
on what the buffer held (`writers_exactFootprint`). For a list of strings the loop reads
no more of an element than its UTF-8 form with the NUL.
-/

namespace MoltenCL

open Foundation Swift

/-- The values that are written without a gap. A NUL in a string ends the copy early,
and behind the name of a record the bytes are left as they were. -/
def InfoValue.Contiguous : InfoValue → Prop
  | .string value => SwiftString.nul ∉ value.scalars
  | .arrayOfCLNameVersion _ => False
  | _ => True

/-- A contiguous value is answered with as many bytes as it reports. -/
theorem InfoValue.Contiguous.fill {v : InfoValue} (h : v.Contiguous) :
    ∃ bs : List UInt8, bs.length = v.answer.size ∧ v.answer.fill = fillBytes bs := by
  cases v with
  | string value =>
      have hzero := SwiftString.zero_notMem_utf8 h
      refine ⟨cString value.utf8, ?_, rfl⟩
      rw [length_cString, strlen, beforeNul_of_no_zero hzero]
      rfl
  | arrayOfString value => exact ⟨joinedBytes value, length_joinedBytes value, rfl⟩
  | arrayOfCLNameVersion value => exact h.elim
  | bool value => exact ⟨_, BinaryInteger.length_bytes _, rfl⟩
  | int value => exact ⟨_, BinaryInteger.length_bytes _, rfl⟩
  | int32 value => exact ⟨_, BinaryInteger.length_bytes _, rfl⟩
  | uint32 value => exact ⟨_, BinaryInteger.length_bytes _, rfl⟩
  | int64 value => exact ⟨_, BinaryInteger.length_bytes _, rfl⟩
  | uint64 value => exact ⟨_, BinaryInteger.length_bytes _, rfl⟩
  | arrayOfInt value => exact ⟨_, length_flatMap_bytes value, rfl⟩
  | arrayOfInt32 value => exact ⟨_, length_flatMap_bytes value, rfl⟩
  | arrayOfUInt32 value => exact ⟨_, length_flatMap_bytes value, rfl⟩
  | arrayOfInt64 value => exact ⟨_, length_flatMap_bytes value, rfl⟩
  | arrayOfUInt64 value => exact ⟨_, length_flatMap_bytes value, rfl⟩

theorem InfoValue.Contiguous.namesFit {v : InfoValue} (h : v.Contiguous) : v.NamesFit := by
  cases v with
  | arrayOfCLNameVersion value => exact h.elim
  | _ => trivial

/-- The effect of fetching a contiguous value is exactly the bytes it reports. -/
theorem InfoValue.Contiguous.writesExactly {v : InfoValue} (h : v.Contiguous) (ptr : ℕ) :
    Memory.WritesExactly (v.answer.fill ptr) (Memory.span ptr v.answer.size) := by
  rcases h.fill with ⟨bs, hlen, hfill⟩
  rw [hfill, ← hlen]
  exact Memory.writesExactly_storeList ptr bs

/-- What a client relies on about the bytes a writer touches. -/
structure ExactFootprint (call : ℤ → Option ℕ → Option ℕ → Swift Buffers Int32) (n : ℕ) :
    Prop where
  /-- `n` is the size reported -/
  size : ∀ capacity value a b status b',
    (call capacity value (some a)).run b = .ok (status, b') → b'.sizes.cell a = n
  /-- a successful fetch leaves every other byte as it was -/
  within : ∀ capacity ptr size b b', (call capacity (some ptr) size).run b = .ok (CL_SUCCESS, b') →
    ∀ a ∉ Memory.span ptr n, b'.bytes.cell a = b.bytes.cell a
  /-- two successful fetches leave the same bytes, whatever the buffers held before -/
  determined : ∀ capacity capacity' ptr size size' b b' c c',
    (call capacity (some ptr) size).run b = .ok (CL_SUCCESS, b') →
    (call capacity' (some ptr) size').run c = .ok (CL_SUCCESS, c') →
      ∀ a ∈ Memory.span ptr n, b'.bytes.cell a = c'.bytes.cell a
  /-- no byte is skipped: each one is changed in some buffer -/
  everyByte : ∀ capacity ptr size, (n : ℤ) ≤ capacity → ∀ a ∈ Memory.span ptr n, ∃ b b',
    (call capacity (some ptr) size).run b = .ok (CL_SUCCESS, b') ∧
      b'.bytes.cell a ≠ b.bytes.cell a

/-- **A contiguous value is written exactly**: as many bytes as it reports, each of them,
and no other. For a list of strings the copies stay inside their sources. -/
theorem writers_exactFootprint :
    (∀ v : InfoValue, v.Contiguous → ExactFootprint v.writeInfo v.answer.size) ∧
    ∀ value : List SwiftString, (∀ element ∈ value, element.count ≤ element.utf8CString.length) ∧
      ∀ capacity ptr size b, ∃ status b',
        (writeInfoArrayOfString capacity ptr size value).run b = .ok (status, b') := by
  constructor
  · intro v hv
    have hexact := hv.writesExactly
    have hbytes : ∀ capacity ptr size b b',
        (v.writeInfo capacity (some ptr) size).run b = .ok (CL_SUCCESS, b') →
          b'.bytes = v.answer.fill ptr b.bytes := by
      intro capacity ptr size b b' hrun
      rw [writeInfo_responds hv.namesFit] at hrun
      exact (Answer.respond_ok _ _ _ _ success_ne_invalidValue (Except.ok.inj hrun)).2
    refine ⟨?_, ?_, ?_, ?_⟩
    · intro capacity value a b status b' hrun
      rw [writeInfo_responds hv.namesFit] at hrun
      exact Answer.respond_sizes _ _ _ _ _ (Except.ok.inj hrun)
    · intro capacity ptr size b b' hrun a ha
      rw [hbytes _ _ _ _ _ hrun]
      exact (hexact ptr).within b.bytes a ha
    · intro capacity capacity' ptr size size' b b' c c' hrun hrun' a ha
      rw [hbytes _ _ _ _ _ hrun, hbytes _ _ _ _ _ hrun']
      exact (hexact ptr).overwrites b.bytes c.bytes a ha
    · intro capacity ptr size hcapacity a ha
      have htwo : Nontrivial UInt8 := ⟨0, 1, by decide⟩
      rcases (hexact ptr).exists_ne ha with ⟨m, hm⟩
      have hrun := writeInfo_responds hv.namesFit capacity (some ptr) size ⟨m, ⟨fun _ => 0⟩⟩
      rw [Answer.respond_fill _ _ _ _ _ _ hcapacity] at hrun
      exact ⟨_, _, hrun, hm⟩
  · intro value
    constructor
    · intro element _
      rw [SwiftString.length_utf8CString]
      exact Nat.le_succ_of_le element.count_le_length_utf8
    · intro capacity ptr size b
      exact ⟨_, _, writeInfoArrayOfString_responds capacity ptr size b value⟩

/-- The ILs of a device, and a text with an accented letter. -/
theorem ilVersions_exactFootprint :
    ExactFootprint (InfoValue.arrayOfString CLDevice.ilVersions).writeInfo 19 ∧
      ExactFootprint (InfoValue.string accented).writeInfo 3 := by
  rcases writers_exactFootprint with ⟨hwriters, -⟩
  have hnul : SwiftString.nul ∉ accented.scalars := by decide
  exact ⟨hwriters _ trivial, hwriters (.string accented) hnul⟩

end MoltenCL
