import Mathlib.Data.List.Basic
import MoltenCL.Info
import MoltenCL.Foundation.Records

/-! # What the writers answer

The abstract side of `Info.lean`: the answer to a query is a size and the effect
of a fetch on the buffer (`InfoValue.answer`), and every writer responds with
its answer under the two-call protocol (`writeInfo_responds`). The loops over
strings and over records are replaced by what they leave behind:

* strings: one contiguous list of bytes, `joinedBytes`;
* records: `fillRecords`, record after record, with gaps behind the names.
-/

namespace MoltenCL

open Foundation Swift

/-- The effect of writing `bs` at the start of the buffer. -/
def fillBytes (bs : List UInt8) (ptr : ℕ) (m : Memory UInt8) : Memory UInt8 :=
  m.storeList ptr bs

/-- What the loop over strings has written when it ends: the first `count` bytes
of each element, and a space behind each. -/
def spacedBytes (value : List SwiftString) : List UInt8 :=
  value.flatMap fun element => element.utf8.take element.count ++ [space]

/-- The bytes of a string list: the last space has become the terminator. -/
def joinedBytes (value : List SwiftString) : List UInt8 :=
  if value = [] then [] else (spacedBytes value).dropLast ++ [0]

/-- The size of a string list. -/
def joinedSize (value : List SwiftString) : ℕ :=
  (value.map fun element => element.count + 1).sum

/-- The effect of one record: the version word, and the name with its NUL. -/
def fillRecord (element : CLNameVersion) (ptr : ℕ) (m : Memory UInt8) : Memory UInt8 :=
  (m.storeList ptr (BinaryInteger.bytes element.version.version)).storeList
    (ptr + nameVersionNameOffset) (cString element.name.utf8)

/-- The effect of consecutive records. -/
def fillRecords : List CLNameVersion → ℕ → Memory UInt8 → Memory UInt8 :=
  Memory.storeRecords fillRecord nameVersionStride

/-- The answer for an integer. -/
def answerInt {T : Type} [BinaryInteger T] (value : T) : Answer :=
  ⟨BinaryInteger.stride T, fillBytes (BinaryInteger.bytes value)⟩

/-- The answer for an array of integers. -/
def answerArrayOfInt {T : Type} [BinaryInteger T] (value : List T) : Answer :=
  ⟨value.length * BinaryInteger.stride T, fillBytes (value.flatMap BinaryInteger.bytes)⟩

/-- The answer for a value. -/
def InfoValue.answer : InfoValue → Answer
  | .bool value => answerInt (if value then CL_TRUE else CL_FALSE)
  | .int value => answerInt value
  | .int32 value => answerInt value
  | .uint32 value => answerInt value
  | .int64 value => answerInt value
  | .uint64 value => answerInt value
  | .arrayOfInt value => answerArrayOfInt value
  | .arrayOfInt32 value => answerArrayOfInt value
  | .arrayOfUInt32 value => answerArrayOfInt value
  | .arrayOfInt64 value => answerArrayOfInt value
  | .arrayOfUInt64 value => answerArrayOfInt value
  | .string value => ⟨value.utf8.length + 1, fillBytes (cString value.utf8)⟩
  | .arrayOfString value => ⟨joinedSize value, fillBytes (joinedBytes value)⟩
  | .arrayOfCLNameVersion value => ⟨value.length * nameVersionStride, fillRecords value⟩

/-! ## Stores -/

@[simp] theorem run_storeBytes (ptr : ℕ) (bs : List UInt8) (b : Buffers) :
    (storeBytes ptr bs).run b = .ok ((), { b with bytes := b.bytes.storeList ptr bs }) := rfl

@[simp] theorem run_copyString (ptr : ℕ) (src : List UInt8) (b : Buffers) :
    (copyString ptr src).run b =
      .ok ((), { b with bytes := b.bytes.storeList ptr (cString src) }) := rfl

/-- A copy that stays inside its source stores the bytes copied. -/
theorem run_copyBytes {ptr : ℕ} {src : List UInt8} {n : ℕ} (h : n ≤ src.length) (b : Buffers) :
    (copyBytes ptr src n).run b =
      .ok ((), { b with bytes := b.bytes.storeList ptr (src.take n) }) := by
  simp [copyBytes, memcpy_of_le h, pure_eq_ok]

/-- The shared steps respond with the answer whose fill the write performs. -/
theorem run_sizeCheckWrite {n : ℕ} {write : ℕ → Swift Buffers Unit}
    {fill : ℕ → Memory UInt8 → Memory UInt8}
    (hwrite : ∀ ptr b, (write ptr).run b = .ok ((), { b with bytes := fill ptr b.bytes }))
    (capacity : ℤ) (value size : Option ℕ) (b : Buffers) :
    (sizeCheckWrite capacity value size n write).run b =
      .ok (Answer.respond ⟨n, fill⟩ CL_SUCCESS CL_INVALID_VALUE capacity value size b) := by
  -- by the two optional pointers, and for a buffer by whether it is long enough
  cases value with
  | none =>
      cases size with
      | none => simp [sizeCheckWrite, pure_eq_ok]
      | some ret => simp [sizeCheckWrite, pure_eq_ok, Buffers.report]
  | some ptr =>
      by_cases hc : capacity < n
      · cases size with
        | none => simp [sizeCheckWrite, pure_eq_ok, Answer.respond, hc]
        | some ret => simp [sizeCheckWrite, pure_eq_ok, Answer.respond, Buffers.report, hc]
      · cases size with
        | none => simp [sizeCheckWrite, Answer.respond, hwrite, hc]
        | some ret => simp [sizeCheckWrite, pure_eq_ok, Answer.respond, Buffers.report, hwrite, hc]

/-! ## Strings -/

theorem length_flatMap_bytes {T : Type} [BinaryInteger T] (value : List T) :
    (value.flatMap BinaryInteger.bytes).length = value.length * BinaryInteger.stride T := by
  induction value with
  | nil => simp
  | cons v rest ih =>
      rw [List.flatMap_cons, List.length_append, ih, BinaryInteger.length_bytes, List.length_cons,
        Nat.succ_mul, Nat.add_comm]

/-- The fold the size is computed by adds to its start. -/
theorem foldl_size (value : List SwiftString) (start : ℕ) :
    value.foldl (fun size element => size + element.count + 1) start =
      start + joinedSize value := by
  induction value generalizing start with
  | nil => simp [joinedSize]
  | cons element rest ih =>
      rw [List.foldl_cons, ih]
      simp only [joinedSize, List.map_cons, List.sum_cons]
      omega

@[simp] theorem spacedBytes_cons (element : SwiftString) (rest : List SwiftString) :
    spacedBytes (element :: rest) =
      element.utf8.take element.count ++ space :: spacedBytes rest := by
  simp [spacedBytes]

@[simp] theorem length_spacedBytes (value : List SwiftString) :
    (spacedBytes value).length = joinedSize value := by
  induction value with
  | nil => simp [spacedBytes, joinedSize]
  | cons element rest ih =>
      have hcount := element.count_le_length_utf8
      simp only [spacedBytes_cons, List.length_append, List.length_take, List.length_cons, ih,
        joinedSize, List.map_cons, List.sum_cons]
      omega

/-- One turn of the loop over strings. -/
theorem run_writeElement (ptr : ℕ) (element : SwiftString) (b : Buffers) :
    (writeElement ptr element).run b =
      .ok (ptr + (element.count + 1),
        { b with
          bytes := b.bytes.storeList ptr (element.utf8.take element.count ++ [space]) }) := by
  have hcount := element.count_le_length_utf8
  have hle : element.count ≤ element.utf8CString.length := by
    rw [SwiftString.length_utf8CString]
    omega
  -- the copy stays in front of the terminator of its source
  have htake : element.utf8CString.take element.count = element.utf8.take element.count :=
    List.take_append_of_le_length hcount
  have hlen : (element.utf8.take element.count).length = element.count := by
    rw [List.length_take]
    omega
  simp only [writeElement, StateT.run_bind, run_copyBytes hle, ok_bind, run_storeBytes,
    StateT.run_pure, pure_eq_ok, htake, Memory.storeList_append, hlen]

/-- The loop over strings leaves their spaced bytes, and its cursor behind them. -/
theorem run_writeElements (value : List SwiftString) (ptr : ℕ) (b : Buffers) :
    (value.foldlM writeElement ptr).run b =
      .ok (ptr + joinedSize value,
        { b with bytes := b.bytes.storeList ptr (spacedBytes value) }) := by
  induction value generalizing ptr b with
  | nil => simp [spacedBytes, joinedSize, pure_eq_ok]
  | cons element rest ih =>
      have hcount := element.count_le_length_utf8
      have hlen : (element.utf8.take element.count ++ [space]).length = element.count + 1 := by
        rw [List.length_append, List.length_take, List.length_singleton]
        omega
      rw [List.foldlM_cons, StateT.run_bind, run_writeElement, ok_bind, ih]
      simp only [joinedSize, List.map_cons, List.sum_cons, spacedBytes, List.flatMap_cons,
        Memory.storeList_append, hlen, Nat.add_assoc]

/-- The loop ends with a space, unless there was nothing to write. -/
theorem exists_spacedBytes_eq {value : List SwiftString} (h : value ≠ []) :
    ∃ front, spacedBytes value = front ++ [space] := by
  induction value with
  | nil => exact absurd rfl h
  | cons element rest ih =>
      cases rest with
      | nil => exact ⟨element.utf8.take element.count, by simp [spacedBytes]⟩
      | cons next rest =>
          rcases ih (List.cons_ne_nil _ _) with ⟨front, hfront⟩
          refine ⟨element.utf8.take element.count ++ space :: front, ?_⟩
          rw [spacedBytes_cons, hfront]
          simp

/-- The terminator replaces that last space. -/
theorem joinedBytes_eq {value : List SwiftString} {front : List UInt8} (h : value ≠ [])
    (hfront : spacedBytes value = front ++ [space]) : joinedBytes value = front ++ [0] := by
  rw [joinedBytes, if_neg h, hfront, List.dropLast_concat]

/-! ## Each writer responds with its answer -/

section Responds

variable (capacity : ℤ) (value size : Option ℕ) (b : Buffers)

theorem writeInfoInt_responds {T : Type} [BinaryInteger T] (v : T) :
    (writeInfoInt capacity value size v).run b =
      .ok ((answerInt v).respond CL_SUCCESS CL_INVALID_VALUE capacity value size b) :=
  run_sizeCheckWrite (fun ptr b => run_storeBytes ptr _ b) capacity value size b

theorem writeInfoBool_responds (v : Bool) :
    (writeInfoBool capacity value size v).run b =
      .ok ((answerInt (if v then CL_TRUE else CL_FALSE)).respond CL_SUCCESS CL_INVALID_VALUE
        capacity value size b) :=
  run_sizeCheckWrite (fun ptr b => run_storeBytes ptr _ b) capacity value size b

theorem writeInfoString_responds (v : SwiftString) :
    (writeInfoString capacity value size v).run b =
      .ok ((InfoValue.answer (.string v)).respond CL_SUCCESS CL_INVALID_VALUE
        capacity value size b) := by
  rw [writeInfoString, SwiftString.length_utf8CString]
  apply run_sizeCheckWrite
  intro ptr b
  rw [run_copyString, SwiftString.cString_utf8CString]
  rfl

theorem writeInfoArrayOfInt_responds {T : Type} [BinaryInteger T] (v : List T) :
    (writeInfoArrayOfInt capacity value size v).run b =
      .ok ((answerArrayOfInt v).respond CL_SUCCESS CL_INVALID_VALUE capacity value size b) := by
  have hlen := length_flatMap_bytes v
  apply run_sizeCheckWrite
  intro ptr b
  rw [run_copyBytes (le_of_eq hlen.symm), List.take_of_length_le (le_of_eq hlen)]
  rfl

theorem writeInfoArrayOfString_responds (v : List SwiftString) :
    (writeInfoArrayOfString capacity value size v).run b =
      .ok ((InfoValue.answer (.arrayOfString v)).respond CL_SUCCESS CL_INVALID_VALUE
        capacity value size b) := by
  rw [writeInfoArrayOfString, foldl_size, Nat.zero_add]
  apply run_sizeCheckWrite
  intro ptr b
  rw [StateT.run_bind, run_writeElements, ok_bind]
  by_cases hv : v = []
  · -- nothing was written, and there is no separator to turn into a NUL
    subst hv
    simp [fillBytes, joinedBytes, spacedBytes, pure_eq_ok]
  · -- the cursor is one past the last space, which the terminator replaces
    rcases exists_spacedBytes_eq hv with ⟨front, hfront⟩
    have hlen := length_spacedBytes v
    rw [hfront, List.length_append, List.length_singleton] at hlen
    have hlast : ptr + joinedSize v - 1 = ptr + front.length := by omega
    have hpos : v.length > 0 := List.length_pos_iff.mpr hv
    simp only [hpos, if_true, run_storeBytes, hlast, hfront, Memory.storeList_cons,
      Memory.storeList_nil, Memory.store_last, fillBytes, joinedBytes_eq hv hfront]

end Responds

/-! ## Records -/

/-- One turn of the loop over records, for a name that fits. -/
theorem run_writeRecord {element : CLNameVersion}
    (h : element.name.count < CL_NAME_VERSION_MAX_NAME_SIZE) (ptr : ℕ) (b : Buffers) :
    (writeRecord ptr element).run b =
      .ok (ptr + nameVersionStride, { b with bytes := fillRecord element ptr b.bytes }) := by
  simp [writeRecord, h, fillRecord]

/-- The loop over records, when every name fits. -/
theorem run_writeRecords {value : List CLNameVersion}
    (h : ∀ element ∈ value, element.name.count < CL_NAME_VERSION_MAX_NAME_SIZE)
    (ptr : ℕ) (b : Buffers) :
    (value.foldlM writeRecord ptr).run b =
      .ok (ptr + value.length * nameVersionStride,
        { b with bytes := fillRecords value ptr b.bytes }) := by
  induction value generalizing ptr b with
  | nil => simp [fillRecords, Memory.storeRecords, pure_eq_ok]
  | cons element rest ih =>
      have hhead := h element List.mem_cons_self
      have htail := fun e he => h e (List.mem_cons_of_mem element he)
      rw [List.foldlM_cons, StateT.run_bind, run_writeRecord hhead, ok_bind, ih htail]
      simp only [fillRecords, Memory.storeRecords, List.length_cons, Nat.succ_mul]
      rw [show ptr + nameVersionStride + rest.length * nameVersionStride =
        ptr + (rest.length * nameVersionStride + nameVersionStride) by omega]

theorem writeInfoArrayOfCLNameVersion_responds {v : List CLNameVersion}
    (h : ∀ element ∈ v, element.name.count < CL_NAME_VERSION_MAX_NAME_SIZE)
    (capacity : ℤ) (value size : Option ℕ) (b : Buffers) :
    (writeInfoArrayOfCLNameVersion capacity value size v).run b =
      .ok ((InfoValue.answer (.arrayOfCLNameVersion v)).respond CL_SUCCESS CL_INVALID_VALUE
        capacity value size b) := by
  apply run_sizeCheckWrite
  intro ptr b
  rw [StateT.run_bind, run_writeRecords h, ok_bind]
  rfl

/-- **Every writer is the two-call protocol applied to the answer of its value.** -/
theorem writeInfo_responds {v : InfoValue} (hv : v.NamesFit)
    (capacity : ℤ) (value size : Option ℕ) (b : Buffers) :
    (v.writeInfo capacity value size).run b =
      .ok (v.answer.respond CL_SUCCESS CL_INVALID_VALUE capacity value size b) := by
  cases v with
  | bool v => exact writeInfoBool_responds capacity value size b v
  | int v => exact writeInfoInt_responds capacity value size b v
  | int32 v => exact writeInfoInt_responds capacity value size b v
  | uint32 v => exact writeInfoInt_responds capacity value size b v
  | int64 v => exact writeInfoInt_responds capacity value size b v
  | uint64 v => exact writeInfoInt_responds capacity value size b v
  | arrayOfInt v => exact writeInfoArrayOfInt_responds capacity value size b v
  | arrayOfInt32 v => exact writeInfoArrayOfInt_responds capacity value size b v
  | arrayOfUInt32 v => exact writeInfoArrayOfInt_responds capacity value size b v
  | arrayOfInt64 v => exact writeInfoArrayOfInt_responds capacity value size b v
  | arrayOfUInt64 v => exact writeInfoArrayOfInt_responds capacity value size b v
  | string v => exact writeInfoString_responds capacity value size b v
  | arrayOfString v => exact writeInfoArrayOfString_responds capacity value size b v
  | arrayOfCLNameVersion v =>
      exact writeInfoArrayOfCLNameVersion_responds hv capacity value size b

/-- The status codes of the protocol differ. -/
theorem success_ne_invalidValue : CL_SUCCESS ≠ CL_INVALID_VALUE := by decide

/-- The writers respond in every state of the buffers. -/
theorem responds_writeInfo {v : InfoValue} (hv : v.NamesFit) :
    Responds (fun _ => True) id CL_SUCCESS CL_INVALID_VALUE v.answer v.writeInfo :=
  fun capacity value size b _ => ⟨_, writeInfo_responds hv capacity value size b, rfl⟩

/-- The writer of a value obeys the two-call law, with the size of its answer. -/
theorem writeInfo_law {v : InfoValue} (hv : v.NamesFit) :
    TwoCallLaw (fun _ => True) id CL_SUCCESS CL_INVALID_VALUE v.answer.size v.writeInfo :=
  (responds_writeInfo hv).twoCallLaw success_ne_invalidValue fun _ _ _ _ _ _ _ _ => trivial

end MoltenCL
