import MoltenCL.Answers
import MoltenCL.Properties

/-! # Name-version records

The writer of `[CLNameVersion]` checks that a name has fewer than 64 Characters
and then copies its bytes with `strcpy`. A record is therefore bounded exactly if
its name has fewer than 64 bytes in front of its first NUL (`writesWithin_fillRecord`),
and lists of bounded records read back as they were written, over any stale
memory.
-/

namespace MoltenCL

open Foundation Swift

/-! ## Where a record is written -/

/-- The bytes of a version word. -/
theorem length_versionBytes (v : CLVersion) : (BinaryInteger.bytes v.version).length = 4 :=
  BinaryInteger.length_bytes v.version

/-- A record stays inside its 68 bytes exactly if its name and NUL fit into 64. -/
theorem writesWithin_fillRecord (element : CLNameVersion) (ptr : ℕ) :
    Memory.WritesWithin (fillRecord element ptr) (Memory.span ptr nameVersionStride) ↔
      strlen element.name.utf8 < CL_NAME_VERSION_MAX_NAME_SIZE := by
  have hname := length_cString element.name.utf8
  have hversion := length_versionBytes element.version
  constructor
  · intro h
    by_contra hlong
    -- the byte that the name leaves right behind the record
    have hindex : 64 < (cString element.name.utf8).length := by
      rw [hname]
      exact Nat.lt_succ_of_le (not_lt.mp hlong)
    have hwritten (m : Memory UInt8) :
        (fillRecord element ptr m).cell (ptr + 4 + 64) = (cString element.name.utf8)[64] :=
      Memory.storeList_get _ _ _ hindex
    have houtside : ptr + 4 + 64 ∉ Memory.span ptr nameVersionStride :=
      fun hmem => lt_irrefl _ hmem.2
    have hzero := (hwritten ⟨fun _ => 0⟩).symm.trans (h ⟨fun _ => 0⟩ _ houtside)
    have hone := (hwritten ⟨fun _ => 1⟩).symm.trans (h ⟨fun _ => 1⟩ _ houtside)
    have hsame : (0 : UInt8) = 1 := hzero.symm.trans hone
    exact absurd hsame (by decide)
  · intro h
    have hwrites := (Memory.writesWithin_storeList ptr
      (BinaryInteger.bytes element.version.version)).comp
      (Memory.writesWithin_storeList (ptr + nameVersionNameOffset) (cString element.name.utf8))
    apply hwrites.mono
    intro a ha
    simp only [Set.mem_union, Memory.mem_span, hname, hversion, nameVersionNameOffset,
      nameVersionStride, CL_NAME_VERSION_MAX_NAME_SIZE] at ha h ⊢
    omega

/-- A name that fits makes its record bounded. -/
theorem bounded_fillRecord {element : CLNameVersion}
    (h : strlen element.name.utf8 < CL_NAME_VERSION_MAX_NAME_SIZE) :
    Memory.Bounded fillRecord nameVersionStride element :=
  fun ptr => (writesWithin_fillRecord element ptr).mpr h

/-- What a client of the writer relies on about where it writes. -/
structure StaysInRecords (value : List CLNameVersion) : Prop where
  /-- turn `i` of the loop changes no byte outside record `i`, whatever the buffer holds -/
  turn : ∀ ptr i (hi : i < value.length) b next b',
    (writeRecord (ptr + i * nameVersionStride) value[i]).run b = .ok (next, b') →
      ∀ a ∉ Memory.span (ptr + i * nameVersionStride) nameVersionStride,
        b'.bytes.cell a = b.bytes.cell a
  /-- a successful call changes no byte outside the size it reports -/
  call : ∀ capacity ptr size b b',
    (writeInfoArrayOfCLNameVersion capacity (some ptr) size value).run b = .ok (CL_SUCCESS, b') →
      ∀ a ∉ Memory.span ptr (value.length * nameVersionStride),
        b'.bytes.cell a = b.bytes.cell a
  /-- after a successful call every name field holds a NUL -/
  terminated : ∀ capacity ptr size b b',
    (writeInfoArrayOfCLNameVersion capacity (some ptr) size value).run b = .ok (CL_SUCCESS, b') →
      ∀ i < value.length, ∃ j < CL_NAME_VERSION_MAX_NAME_SIZE,
        b'.bytes.cell (ptr + i * nameVersionStride + nameVersionNameOffset + j) = 0

section Writer

variable {value : List CLNameVersion}

/-- A successful call has filled the records. -/
theorem bytes_of_success
    (hfit : ∀ element ∈ value, element.name.count < CL_NAME_VERSION_MAX_NAME_SIZE)
    {capacity : ℤ} {ptr : ℕ} {size : Option ℕ} {b b' : Buffers}
    (h : (writeInfoArrayOfCLNameVersion capacity (some ptr) size value).run b =
      .ok (CL_SUCCESS, b')) : b'.bytes = fillRecords value ptr b.bytes := by
  rw [writeInfoArrayOfCLNameVersion_responds hfit] at h
  exact (Answer.respond_ok _ _ _ _ success_ne_invalidValue (Except.ok.inj h)).2

/-- The name and its NUL, in the record they were written to. -/
theorem load_name (element : CLNameVersion) (ptr : ℕ) (m : Memory UInt8) :
    (fillRecord element ptr m).load (ptr + nameVersionNameOffset) (strlen element.name.utf8 + 1) =
      cString element.name.utf8 := by
  rw [← length_cString]
  exact Memory.load_storeList _ _ _

/-- The version word, in the record it was written to. -/
theorem load_version (element : CLNameVersion) (ptr : ℕ) (m : Memory UInt8) :
    (fillRecord element ptr m).load ptr 4 = BinaryInteger.bytes element.version.version := by
  have hfront : ptr + 4 ≤ ptr + nameVersionNameOffset := le_refl _
  have hload := Memory.load_storeList m ptr (BinaryInteger.bytes element.version.version)
  rw [length_versionBytes] at hload
  rw [fillRecord, Memory.load_storeList_frame _ _ _ (Or.inl hfront), hload]

/-- The name of a record ends in its NUL. -/
theorem fillRecord_nul (element : CLNameVersion) (ptr : ℕ) (m : Memory UInt8) :
    (fillRecord element ptr m).cell (ptr + nameVersionNameOffset + strlen element.name.utf8) =
      0 := by
  rcases List.getElem?_eq_some_iff.mp (cString_getElem?_strlen element.name.utf8) with ⟨hlt, hnul⟩
  exact (Memory.storeList_get _ _ _ hlt).trans hnul

/-- Behind the NUL of its name a record keeps what was there. -/
theorem fillRecord_behind (element : CLNameVersion) (ptr : ℕ) (m : Memory UInt8) {k : ℕ}
    (h : strlen element.name.utf8 < k) :
    (fillRecord element ptr m).cell (ptr + nameVersionNameOffset + k) =
      m.cell (ptr + nameVersionNameOffset + k) := by
  have hname := length_cString element.name.utf8
  have hversion := length_versionBytes element.version
  rw [fillRecord, Memory.storeList_frame _ _ _ (by omega), Memory.storeList_frame]
  simp only [hversion, nameVersionNameOffset]
  omega

/-- Behind the NUL in record `i` the buffer is what it was. -/
theorem fillRecords_behind
    (hbounded : ∀ element ∈ value, Memory.Bounded fillRecord nameVersionStride element)
    (ptr : ℕ) (m : Memory UInt8) {i : ℕ} (hi : i < value.length) {k : ℕ}
    (hk : k < CL_NAME_VERSION_MAX_NAME_SIZE) (hlong : strlen value[i].name.utf8 < k) :
    (fillRecords value ptr m).cell (ptr + i * nameVersionStride + nameVersionNameOffset + k) =
      m.cell (ptr + i * nameVersionStride + nameVersionNameOffset + k) := by
  -- only its own write touches record `i`, and that one stops at the NUL
  rcases Memory.storeRecords_record hbounded ptr m hi with ⟨m', hm'⟩
  rcases hm' (ptr + i * nameVersionStride + nameVersionNameOffset + k) (by
    simp only [Memory.mem_span, nameVersionStride]
    omega) with ⟨hkept, hwritten⟩
  rw [← hkept, ← fillRecord_behind value[i] (ptr + i * nameVersionStride) m' hlong]
  exact hwritten

/-- Staying in record `i` bounds the name written to it. -/
theorem StaysInRecords.strlen_lt (h : StaysInRecords value)
    (hfit : ∀ element ∈ value, element.name.count < CL_NAME_VERSION_MAX_NAME_SIZE)
    (i : ℕ) (hi : i < value.length) :
    strlen value[i].name.utf8 < CL_NAME_VERSION_MAX_NAME_SIZE := by
  apply (writesWithin_fillRecord value[i] (0 + i * nameVersionStride)).mp
  intro m a ha
  have hmem : value[i] ∈ value := List.getElem_mem hi
  exact h.turn 0 i hi ⟨m, ⟨fun _ => 0⟩⟩ _ _ (run_writeRecord (hfit _ hmem) _ _) a ha

/-- **The writer stays in its records exactly if every name has fewer than 64 bytes
in front of its first NUL**, for lists that pass its precondition. -/
theorem staysInRecords_iff
    (hfit : ∀ element ∈ value, element.name.count < CL_NAME_VERSION_MAX_NAME_SIZE) :
    StaysInRecords value ↔
      ∀ element ∈ value, strlen element.name.utf8 < CL_NAME_VERSION_MAX_NAME_SIZE := by
  constructor
  · intro h element helement
    rcases List.getElem_of_mem helement with ⟨i, hi, rfl⟩
    exact h.strlen_lt hfit i hi
  · intro hbounded
    have hrecord : ∀ element ∈ value, Memory.Bounded fillRecord nameVersionStride element :=
      fun element helement => bounded_fillRecord (hbounded element helement)
    -- one turn of the loop, the whole loop, and what the loop leaves in a record
    refine ⟨?_, ?_, ?_⟩
    · intro ptr i hi b next b' hrun a ha
      have hmem : value[i] ∈ value := List.getElem_mem hi
      rw [run_writeRecord (hfit _ hmem)] at hrun
      rcases Prod.mk.inj (Except.ok.inj hrun) with ⟨-, rfl⟩
      exact hrecord _ hmem _ b.bytes a ha
    · intro capacity ptr size b b' hrun a ha
      rw [bytes_of_success hfit hrun]
      exact Memory.writesWithin_storeRecords hrecord ptr b.bytes a ha
    · intro capacity ptr size b b' hrun i hi
      have hlen := hbounded _ (List.getElem_mem hi)
      refine ⟨strlen value[i].name.utf8, hlen, ?_⟩
      rcases Memory.storeRecords_record hrecord ptr b.bytes hi with ⟨m', hm'⟩
      rcases hm' (ptr + i * nameVersionStride + nameVersionNameOffset +
          strlen value[i].name.utf8) (by
        simp only [Memory.mem_span, nameVersionStride]
        omega) with ⟨-, hwritten⟩
      rw [bytes_of_success hfit hrun]
      exact hwritten.trans (fillRecord_nul value[i] _ m')

end Writer

/-- The platform's own ILs stay in their records. -/
theorem ilsWithVersion_stayInRecords : StaysInRecords CLDevice.ilsWithVersion :=
  (staysInRecords_iff ilsWithVersion_namesFit).mpr (by decide)

/-- A name of 32 two-byte Characters: it counts as 32 and takes 64 bytes. -/
def wideName : CLNameVersion :=
  ⟨{ major := 1, minor := 0 }, ⟨List.replicate 32 (.ofScalar 'é')⟩⟩

/-- Its NUL is stored behind the one record of the buffer. -/
theorem wideName_leaves_record :
    wideName.name.count < CL_NAME_VERSION_MAX_NAME_SIZE ∧
      (∃ b', (writeInfoArrayOfCLNameVersion 68 (some 0) (some 0) [wideName]).run
          ⟨⟨fun _ => 1⟩, ⟨fun _ => 0⟩⟩ = .ok (CL_SUCCESS, b') ∧
        b'.sizes.cell 0 = 68 ∧ b'.bytes.cell 68 = 0) ∧
      ¬ StaysInRecords [wideName] := by
  have hfit : ∀ element ∈ [wideName], element.name.count < CL_NAME_VERSION_MAX_NAME_SIZE := by
    decide
  have hstrlen : strlen wideName.name.utf8 = 64 := by decide
  -- 64 bytes from offset 4 on, and the NUL behind them
  have hnul : (fillRecord wideName 0 ⟨fun _ => 1⟩).cell 68 = 0 := by
    have hlast := fillRecord_nul wideName 0 ⟨fun _ => 1⟩
    rwa [hstrlen] at hlast
  have hrun := writeInfoArrayOfCLNameVersion_responds hfit 68 (some 0) (some 0)
    ⟨⟨fun _ => 1⟩, ⟨fun _ => 0⟩⟩
  rw [Answer.respond_fill _ _ _ _ _ _ (by decide)] at hrun
  refine ⟨hfit _ List.mem_cons_self, ⟨_, hrun, rfl, hnul⟩, fun h => ?_⟩
  have hlong := h.strlen_lt hfit 0 (by decide)
  rw [List.getElem_cons_zero, hstrlen] at hlong
  exact absurd hlong (by decide)

/-! ## Reading the records back -/

/-- A client reads a `cl_name_version`: the word goes through `CLVersion(version:)`
and the name through `String(cString:)`. -/
def readRecord (m : Memory UInt8) (ptr : ℕ) : Option (CLVersion × List Char) := do
  let name ← readCString m (ptr + nameVersionNameOffset) CL_NAME_VERSION_MAX_NAME_SIZE
  let scalars ← SwiftString.decodeUTF8 name
  return (CLVersion.initVersion (UInt32.ofNat (leValue (m.load ptr 4))), scalars)

/-- The reader looks at no byte outside the record. -/
theorem readRecord_readsWithin : Memory.ReadsWithin nameVersionStride readRecord := by
  intro m m' ptr h
  have hname : readCString m (ptr + nameVersionNameOffset) CL_NAME_VERSION_MAX_NAME_SIZE =
      readCString m' (ptr + nameVersionNameOffset) CL_NAME_VERSION_MAX_NAME_SIZE := by
    apply readCString_congr
    intro a ha
    apply h
    simp only [Memory.mem_span, nameVersionStride] at ha ⊢
    omega
  have hversion : m.load ptr 4 = m'.load ptr 4 := by
    apply Memory.load_congr
    intro i hi
    apply h
    simp only [Memory.mem_span, nameVersionStride, nameVersionNameOffset]
    omega
  simp only [readRecord, hname, hversion]

/-- The bytes of a version word decode to the word. -/
theorem leValue_versionBytes (v : CLVersion) :
    UInt32.ofNat (leValue (BinaryInteger.bytes v.version)) = v.version := by
  have hlt := v.version.toNat_lt
  have hvalue : leValue (BinaryInteger.bytes v.version) = v.version.toNat := by
    change leValue (leBytes 4 v.version.toNat) = v.version.toNat
    rw [leValue_leBytes]
    omega
  rw [hvalue, UInt32.ofNat_toNat]

/-- A record whose name has no NUL and fits reads back. -/
theorem readRecord_fillRecord {element : CLNameVersion}
    (hnul : SwiftString.nul ∉ element.name.scalars)
    (hfit : element.name.utf8.length < CL_NAME_VERSION_MAX_NAME_SIZE)
    (ptr : ℕ) (m : Memory UInt8) :
    readRecord (fillRecord element ptr m) ptr =
      some (element.version.truncated, element.name.scalars) := by
  have hzero := SwiftString.zero_notMem_utf8 hnul
  have hbefore := beforeNul_of_no_zero hzero
  have hname : readCString (fillRecord element ptr m) (ptr + nameVersionNameOffset)
      CL_NAME_VERSION_MAX_NAME_SIZE = some element.name.utf8 := by
    have hload := load_name element ptr m
    rw [strlen, cString, hbefore] at hload
    exact readCString_of_load hload hzero hfit
  simp only [readRecord, hname, load_version, leValue_versionBytes, CLVersion.initVersion_version,
    SwiftString.decodeUTF8_utf8, Option.bind_eq_bind, Option.bind_some, Option.pure_def]

/-- **Records read back**: a successful call with a buffer large enough leaves the
list in it, in order, with every name unchanged and every version cut to its
fields. Behind a terminator the buffer is what it was. -/
theorem nameVersions_readBack {value : List CLNameVersion}
    (hnul : ∀ element ∈ value, SwiftString.nul ∉ element.name.scalars)
    (hfit : ∀ element ∈ value, element.name.utf8.length < CL_NAME_VERSION_MAX_NAME_SIZE)
    (capacity : ℤ) (ptr : ℕ) (size : Option ℕ) (b : Buffers)
    (hcapacity : (68 * value.length : ℤ) ≤ capacity) :
    ∃ b', (writeInfoArrayOfCLNameVersion capacity (some ptr) size value).run b =
        .ok (CL_SUCCESS, b') ∧
      (∀ a, size = some a → b'.sizes.cell a = 68 * value.length) ∧
      Memory.loadRecords nameVersionStride readRecord b'.bytes ptr value.length =
        some (value.map fun element => (element.version.truncated, element.name.scalars)) ∧
      ∀ i (hi : i < value.length), ∀ k < CL_NAME_VERSION_MAX_NAME_SIZE,
        value[i].name.utf8.length < k →
          b'.bytes.cell (ptr + 68 * i + 4 + k) = b.bytes.cell (ptr + 68 * i + 4 + k) := by
  have hcount : ∀ element ∈ value, element.name.count < CL_NAME_VERSION_MAX_NAME_SIZE :=
    fun element helement => lt_of_le_of_lt element.name.count_le_length_utf8 (hfit _ helement)
  have hbounded : ∀ element ∈ value, Memory.Bounded fillRecord nameVersionStride element :=
    fun element helement =>
      bounded_fillRecord (lt_of_le_of_lt (strlen_le_length _) (hfit _ helement))
  have hsize : (InfoValue.answer (.arrayOfCLNameVersion value)).size = 68 * value.length :=
    Nat.mul_comm _ _
  have hrun := writeInfoArrayOfCLNameVersion_responds hcount capacity (some ptr) size b
  rw [Answer.respond_fill _ _ _ _ _ _ (by rw [hsize]; push_cast; exact hcapacity)] at hrun
  refine ⟨_, hrun, ?_, ?_, ?_⟩
  · rintro a rfl
    rw [hsize]
    simp
  · exact Memory.loadRecords_storeRecords readRecord_readsWithin hbounded
      (fun element helement ptr m =>
        readRecord_fillRecord (hnul _ helement) (hfit _ helement) ptr m) ptr b.bytes
  · intro i hi k hk hlong
    have haddr : ptr + 68 * i + 4 + k =
        ptr + i * nameVersionStride + nameVersionNameOffset + k := by
      simp only [nameVersionStride, nameVersionNameOffset, CL_NAME_VERSION_MAX_NAME_SIZE]
      omega
    rw [haddr]
    exact fillRecords_behind hbounded ptr b.bytes hi hk
      (lt_of_le_of_lt (strlen_le_length _) hlong)

/-- The platform's own ILs read back. -/
theorem ilsWithVersion_readBack :
    ∃ b', (writeInfoArrayOfCLNameVersion 136 (some 0) (some 0) CLDevice.ilsWithVersion).run
        ⟨⟨fun _ => 1⟩, ⟨fun _ => 0⟩⟩ = .ok (CL_SUCCESS, b') ∧
      (∀ a, some 0 = some a → b'.sizes.cell a = 68 * CLDevice.ilsWithVersion.length) ∧
      Memory.loadRecords nameVersionStride readRecord b'.bytes 0 CLDevice.ilsWithVersion.length =
        some (CLDevice.ilsWithVersion.map fun element =>
          (element.version.truncated, element.name.scalars)) ∧
      ∀ i (hi : i < CLDevice.ilsWithVersion.length), ∀ k < CL_NAME_VERSION_MAX_NAME_SIZE,
        CLDevice.ilsWithVersion[i].name.utf8.length < k →
          b'.bytes.cell (0 + 68 * i + 4 + k) = 1 :=
  nameVersions_readBack (by decide) (by decide) 136 0 (some 0)
    ⟨⟨fun _ => 1⟩, ⟨fun _ => 0⟩⟩ (by decide)

end MoltenCL
