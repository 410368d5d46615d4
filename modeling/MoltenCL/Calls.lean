import Mathlib.Data.List.TakeDrop
import MoltenCL.Answers
import MoltenCL.Properties
import MoltenCL.Foundation.Enumeration

/-! # What a call has done

One inversion lemma per C function, over the whole `World`. The two enumerating
functions come down to the enumeration protocol over the client's slots, the two
query functions to the evaluation of a property and the serialisation of its
value.
-/

namespace MoltenCL

open Foundation Swift

variable {Dev : Type} (host : Host Dev)

/-! ## The slots of the client -/

namespace World

/-- The slots and counts `clGetPlatformIDs` writes. -/
def platformArrays (w : World Dev) : Arrays CLPlatform := ⟨w.platformIDs, w.counts⟩

/-- The slots and counts `clGetDeviceIDs` writes. -/
def deviceArrays (w : World Dev) : Arrays DeviceRef := ⟨w.deviceIDs, w.counts⟩

def setPlatformArrays (w : World Dev) (m : Arrays CLPlatform) : World Dev :=
  { w with platformIDs := m.handles, counts := m.counts }

def setDeviceArrays (w : World Dev) (m : Arrays DeviceRef) : World Dev :=
  { w with deviceIDs := m.handles, counts := m.counts }

@[simp] theorem deviceArrays_runtime (w : World Dev) (rt : Runtime Dev) :
    { w with runtime := rt }.deviceArrays = w.deviceArrays := rfl

end World

theorem success_ne_failures : CL_INVALID_VALUE ≠ CL_SUCCESS ∧ CL_INVALID_PLATFORM ≠ CL_SUCCESS ∧
    CL_INVALID_DEVICE_TYPE ≠ CL_SUCCESS ∧ CL_DEVICE_NOT_FOUND ≠ CL_SUCCESS := by decide

/-! ## `clGetPlatformIDs` -/

/-- An invalid call of `clGetPlatformIDs` changes nothing. -/
theorem run_clGetPlatformIDs_invalid {numEntries : UInt32} {platforms numPlatforms : Option ℕ}
    (h : InvalidEnumeration numEntries.toNat platforms numPlatforms) (w : World Dev) :
    (clGetPlatformIDs host numEntries platforms numPlatforms).run w =
      .ok (CL_INVALID_VALUE, w) := by
  rcases h with ⟨rfl, rfl⟩ | ⟨hne, hzero⟩
  · rfl
  · rcases Option.ne_none_iff_exists'.mp hne with ⟨a, rfl⟩
    have hn : ¬ numEntries > 0 := by
      rw [gt_iff_lt, UInt32.lt_iff_toNat_lt, hzero]
      simp
    simp [clGetPlatformIDs, hn, pure_eq_ok]

/-- A call that only counts. -/
theorem run_clGetPlatformIDs_count (numEntries : UInt32) (c : ℕ) (w : World Dev) :
    (clGetPlatformIDs host numEntries none (some c)).run w =
      .ok (CL_SUCCESS, w.setPlatformArrays (w.platformArrays.tally (some c) 1)) := rfl

/-- There are slots to fetch into. -/
theorem numEntries_pos_iff {numEntries : UInt32} : numEntries > 0 ↔ numEntries.toNat ≠ 0 := by
  rw [gt_iff_lt, UInt32.lt_iff_toNat_lt]
  simp [Nat.pos_iff_ne_zero]

/-- A call that fetches makes the platform come up. -/
theorem run_clGetPlatformIDs_fetch {numEntries : UInt32} (hn : numEntries.toNat ≠ 0) (a : ℕ)
    (numPlatforms : Option ℕ) (w : World Dev) :
    (clGetPlatformIDs host numEntries (some a) numPlatforms).run w =
      ((CLPlatform.default host).run w.runtime).map fun r =>
        (CL_SUCCESS, { w with runtime := r.2 }.setPlatformArrays
          ((w.platformArrays.fetch (some a) [r.1]).tally numPlatforms 1)) := by
  have hpos : numEntries > 0 := numEntries_pos_iff.mpr hn
  have hrefused : ¬ (some a = none ∧ numPlatforms = none) := by simp
  simp only [clGetPlatformIDs, hrefused, hpos, not_true, if_false, StateT.run_bind]
  -- the initialiser of the platform may trap, and then so does the call
  cases hdefault : (CLPlatform.default host).run w.runtime with
  | error e =>
      rw [run_within_error World.runtimeSlot hdefault]
      rfl
  | ok r =>
      rw [run_within_ok World.runtimeSlot hdefault]
      cases numPlatforms <;> rfl

/-- A completed call of `clGetPlatformIDs` has enumerated one platform, and has
used no static but `CLPlatform.default`. -/
theorem clGetPlatformIDs_eq_ok {numEntries : UInt32} {platforms numPlatforms : Option ℕ}
    {w w' : World Dev} {status : Int32}
    (h : (clGetPlatformIDs host numEntries platforms numPlatforms).run w = .ok (status, w')) :
    ∃ rt' m, (rt' = w.runtime ∨ ∃ p, (CLPlatform.default host).run w.runtime = .ok (p, rt')) ∧
      enumerate CL_SUCCESS CL_INVALID_VALUE [CLPlatform.mk] numEntries.toNat platforms
        numPlatforms w.platformArrays = (status, m) ∧
      w' = { w with runtime := rt' }.setPlatformArrays m := by
  by_cases hinvalid : InvalidEnumeration numEntries.toNat platforms numPlatforms
  · rw [run_clGetPlatformIDs_invalid host hinvalid] at h
    obtain ⟨rfl, rfl⟩ : CL_INVALID_VALUE = status ∧ w = w' := by simpa using h
    exact ⟨w.runtime, w.platformArrays, Or.inl rfl, by rw [enumerate, if_pos hinvalid], rfl⟩
  · rw [enumerate, if_neg hinvalid]
    cases platforms with
    | none =>
        obtain ⟨c, rfl⟩ : ∃ c, numPlatforms = some c :=
          Option.ne_none_iff_exists'.mp fun h0 => hinvalid (Or.inl ⟨rfl, h0⟩)
        rw [run_clGetPlatformIDs_count] at h
        obtain ⟨rfl, rfl⟩ : CL_SUCCESS = status ∧ _ = w' := by simpa using h
        exact ⟨w.runtime, _, Or.inl rfl, rfl, rfl⟩
    | some a =>
        have hn : numEntries.toNat ≠ 0 := fun h0 => hinvalid (Or.inr ⟨by simp, h0⟩)
        rw [run_clGetPlatformIDs_fetch host hn] at h
        -- the code stores one platform however many slots there are
        have htake : List.take numEntries.toNat [CLPlatform.mk] = [CLPlatform.mk] :=
          List.take_of_length_le (by simp; omega)
        rw [htake]
        cases hdefault : (CLPlatform.default host).run w.runtime with
        | error e => simp [hdefault, Except.map] at h
        | ok r =>
            rw [hdefault] at h
            obtain ⟨rfl, rfl⟩ : CL_SUCCESS = status ∧ _ = w' := by simpa [Except.map] using h
            exact ⟨r.2, _, Or.inr ⟨r.1, rfl⟩, rfl, rfl⟩

/-! ## `clGetDeviceIDs` -/

/-- The mask combines the custom class with something else, and is refused. -/
def CLDeviceType.Rejected (type : CLDeviceType) : Prop :=
  type ≠ CLDeviceType.all ∧ type.contains CLDeviceType.custom = true ∧ type ≠ .empty

instance (type : CLDeviceType) : Decidable type.Rejected := inferInstanceAs (Decidable (_ ∧ _))

/-- The copy loop stores the first objects, in order. -/
theorem run_storeDeviceIDs (devices : ℕ) (clDevices : List DeviceRef) {n : ℕ}
    (hn : n ≤ clDevices.length) (w : World Dev) :
    ((List.range n).forM (storeDeviceID devices clDevices)).run w =
      .ok ((), w.setDeviceArrays (w.deviceArrays.fetch (some devices) (clDevices.take n))) := by
  induction n with
  | zero => rfl
  | succ n ih =>
      have hget : clDevices[n]? = some clDevices[n] := List.getElem?_eq_getElem (by omega)
      have hlen : ((clDevices.take n).map some).length = n := by
        rw [List.length_map, List.length_take]
        omega
      -- the turn at `n` stores one more object behind the first `n`
      have htake : (clDevices.take (n + 1)).map some =
          (clDevices.take n).map some ++ [some clDevices[n]] := by
        simp only [List.take_add_one, hget, Option.toList_some, List.map_append, List.map_cons,
          List.map_nil]
      have hstore (w : World Dev) : (storeDeviceID devices clDevices n).run w = .ok ((),
          { w with deviceIDs := w.deviceIDs.store (devices + n) (some clDevices[n]) }) := by
        simp [storeDeviceID, hget, unwrap, pure_eq_ok]
      simp only [List.forM_eq_forM] at ih ⊢
      rw [List.range_succ, List.forM_append, StateT.run_bind, ih (by omega), ok_bind]
      simp only [List.forM_cons, List.forM_nil, StateT.run_bind, hstore, ok_bind, StateT.run_pure,
        pure_eq_ok, World.setDeviceArrays, World.deviceArrays, Arrays.fetch, htake,
        Memory.storeList_append, hlen, Memory.storeList_cons, Memory.storeList_nil]

/-- The end of `clGetDeviceIDs`: store the number of objects. -/
def tallyDevices (clDevices : List DeviceRef) (numDevices : Option ℕ) :
    Swift (World Dev) Int32 := do
  if let some numDevices := numDevices then
    let count ← toUInt32 clDevices.length
    modify fun w => { w with counts := w.counts.store numDevices count }
  return CL_SUCCESS

/-- What `clGetDeviceIDs` does with the selected objects. -/
def respondDevices (clDevices : List DeviceRef) (numEntries : UInt32)
    (devices numDevices : Option ℕ) : Swift (World Dev) Int32 := do
  if ¬ clDevices.length > 0 then
    return CL_DEVICE_NOT_FOUND
  if devices = none ∧ numDevices = none then
    return CL_INVALID_VALUE
  if let some devices := devices then
    if ¬ numEntries > 0 then
      return CL_INVALID_VALUE
    (List.range (min numEntries.toNat clDevices.length)).forM (storeDeviceID devices clDevices)
  tallyDevices clDevices numDevices

/-- A call without a platform. -/
theorem run_clGetDeviceIDs_none (deviceType : UInt64) (numEntries : UInt32)
    (devices numDevices : Option ℕ) (w : World Dev) :
    (clGetDeviceIDs host none deviceType numEntries devices numDevices).run w =
      .ok (CL_INVALID_PLATFORM, w) := rfl

/-- A call with a platform refuses a bad mask, and otherwise selects and responds. -/
theorem clGetDeviceIDs_some (p : CLPlatform) (deviceType : UInt64) (numEntries : UInt32)
    (devices numDevices : Option ℕ) :
    clGetDeviceIDs host (some p) deviceType numEntries devices numDevices =
      if (CLDeviceType.ofRawValue deviceType).Rejected then pure CL_INVALID_DEVICE_TYPE
      else
        within World.runtimeSlot (CLPlatform.devices host (.ofRawValue deviceType)) >>=
          fun clDevices => respondDevices clDevices numEntries devices numDevices := by
  simp only [clGetDeviceIDs, reduceCtorEq, if_false, CLDeviceType.Rejected, ← and_assoc]
  -- the code nests the two tests that make a mask rejected
  by_cases hcustom : CLDeviceType.ofRawValue deviceType ≠ CLDeviceType.all ∧
      (CLDeviceType.ofRawValue deviceType).contains CLDeviceType.custom = true
  · by_cases hempty : CLDeviceType.ofRawValue deviceType ≠ .empty
    · rw [if_pos hcustom, if_pos hempty, if_pos ⟨hcustom, hempty⟩]
    · rw [if_pos hcustom, if_neg hempty, if_neg fun h => hempty h.2]
      rfl
  · rw [if_neg hcustom, if_neg fun h => hcustom h.1]
    rfl

/-- The number of selected objects does not fit the count it is stored in. -/
def CountOverflows (clDevices : List DeviceRef) (numDevices : Option ℕ) : Prop :=
  numDevices ≠ none ∧ 2 ^ 32 ≤ clDevices.length

instance (clDevices : List DeviceRef) (numDevices : Option ℕ) :
    Decidable (CountOverflows clDevices numDevices) :=
  inferInstanceAs (Decidable (_ ∧ _))

theorem run_tallyDevices (clDevices : List DeviceRef) (numDevices : Option ℕ) (w : World Dev) :
    (tallyDevices clDevices numDevices).run w =
      if CountOverflows clDevices numDevices then .error .notRepresentable
      else .ok (CL_SUCCESS,
        w.setDeviceArrays (w.deviceArrays.tally numDevices clDevices.length)) := by
  cases numDevices with
  | none => rfl
  | some c =>
      -- `UInt32(clDevices.count)` traps from 2^32 on
      by_cases hfit : clDevices.length < 2 ^ 32
      · have hrange : 0 ≤ (clDevices.length : ℤ) ∧ (clDevices.length : ℤ) < 2 ^ 32 := by omega
        rw [if_neg fun h => absurd hfit (not_lt.mpr h.2)]
        simp only [tallyDevices, toUInt32, hrange, and_self, if_true, Int.toNat_natCast]
        rfl
      · have hrange : ¬ (0 ≤ (clDevices.length : ℤ) ∧ (clDevices.length : ℤ) < 2 ^ 32) := by omega
        rw [if_pos ⟨by simp, not_lt.mp hfit⟩]
        simp only [tallyDevices, toUInt32, hrange, if_false]
        rfl

/-- The selected objects are enumerated, unless there is none. -/
theorem run_respondDevices (clDevices : List DeviceRef) (numEntries : UInt32)
    (devices numDevices : Option ℕ) (w : World Dev) :
    (respondDevices clDevices numEntries devices numDevices).run w =
      if clDevices = [] then .ok (CL_DEVICE_NOT_FOUND, w)
      else if ¬ InvalidEnumeration numEntries.toNat devices numDevices ∧
          CountOverflows clDevices numDevices then .error .notRepresentable
      else
        let answer := enumerate CL_SUCCESS CL_INVALID_VALUE clDevices numEntries.toNat devices
          numDevices w.deviceArrays
        .ok (answer.1, w.setDeviceArrays answer.2) := by
  by_cases hempty : clDevices = []
  · subst hempty
    rfl
  have hlen : clDevices.length > 0 := List.length_pos_iff.mpr hempty
  have hpos : numEntries > 0 ↔ numEntries.toNat ≠ 0 := numEntries_pos_iff
  rw [if_neg hempty]
  by_cases hinvalid : InvalidEnumeration numEntries.toNat devices numDevices
  · simp only [enumerate, hinvalid, not_true, false_and, if_false]
    rcases hinvalid with ⟨rfl, rfl⟩ | ⟨hne, hzero⟩
    · simp only [respondDevices, hlen, not_true, if_false, and_self, if_true]
      rfl
    · rcases Option.ne_none_iff_exists'.mp hne with ⟨a, rfl⟩
      simp only [respondDevices, hlen, hpos, hzero, reduceCtorEq, false_and, not_true,
        not_false_eq_true, ne_eq, if_false, if_true]
      rfl
  · have hasked : ¬ (devices = none ∧ numDevices = none) := fun h => hinvalid (Or.inl h)
    simp only [enumerate, hinvalid, not_false_eq_true, true_and]
    cases devices with
    | none =>
        have hcounts : numDevices ≠ none := fun h => hasked ⟨rfl, h⟩
        simp only [respondDevices, hlen, hcounts, not_true, and_false, if_false]
        exact run_tallyDevices clDevices numDevices w
    | some a =>
        have hn : numEntries.toNat ≠ 0 := fun h => hinvalid (Or.inr ⟨by simp, h⟩)
        -- the loop stops at the end of the list, as `take` does
        have htake : clDevices.take (min numEntries.toNat clDevices.length) =
            clDevices.take numEntries.toNat := by
          rw [List.take_eq_take_iff]
          omega
        simp only [respondDevices, hlen, not_true, if_false, if_neg hasked, hpos, hn, ne_eq,
          not_false_eq_true, StateT.run_bind,
          run_storeDeviceIDs a clDevices (Nat.min_le_right _ _), ok_bind, htake, run_tallyDevices]
        rfl

/-- The ways in which `clGetDeviceIDs` returns: without a platform, with a bad
mask, with nothing selected, or with the enumeration of the selected objects. -/
theorem clGetDeviceIDs_eq_ok {platform : Option CLPlatform} {deviceType : UInt64}
    {numEntries : UInt32} {devices numDevices : Option ℕ} {w w' : World Dev} {status : Int32} :
    (clGetDeviceIDs host platform deviceType numEntries devices numDevices).run w =
        .ok (status, w') ↔
      (platform = none ∧ status = CL_INVALID_PLATFORM ∧ w' = w) ∨
      (platform ≠ none ∧ (CLDeviceType.ofRawValue deviceType).Rejected ∧
        status = CL_INVALID_DEVICE_TYPE ∧ w' = w) ∨
      (platform ≠ none ∧ ¬ (CLDeviceType.ofRawValue deviceType).Rejected ∧ ∃ refs rt',
        (CLPlatform.devices host (.ofRawValue deviceType)).run w.runtime = .ok (refs, rt') ∧
        ((refs = [] ∧ status = CL_DEVICE_NOT_FOUND ∧ w' = { w with runtime := rt' }) ∨
         (refs ≠ [] ∧ ¬ (¬ InvalidEnumeration numEntries.toNat devices numDevices ∧
            CountOverflows refs numDevices) ∧ ∃ m,
          enumerate CL_SUCCESS CL_INVALID_VALUE refs numEntries.toNat devices numDevices
            w.deviceArrays = (status, m) ∧
          w' = { w with runtime := rt' }.setDeviceArrays m))) := by
  cases platform with
  | none => simp [clGetDeviceIDs, pure_eq_ok, eq_comm]
  | some p =>
      rw [clGetDeviceIDs_some]
      by_cases hrejected : (CLDeviceType.ofRawValue deviceType).Rejected
      · simp [hrejected, pure_eq_ok, eq_comm]
      · simp only [hrejected, if_false, run_bind_eq_ok, run_within_eq_ok, reduceCtorEq, false_and,
          not_false_eq_true, ne_eq, true_and, and_false, false_or]
        constructor
        · intro h
          rcases h with ⟨refs, _, ⟨rt', hrun, rfl⟩, hrespond⟩
          refine ⟨refs, rt', hrun, ?_⟩
          rw [run_respondDevices] at hrespond
          split_ifs at hrespond with hnil hover
          · obtain ⟨rfl, rfl⟩ : CL_DEVICE_NOT_FOUND = status ∧ _ = w' := by simpa using hrespond
            exact Or.inl ⟨hnil, rfl, rfl⟩
          · rcases Prod.mk.inj (Except.ok.inj hrespond) with ⟨rfl, rfl⟩
            exact Or.inr ⟨hnil, hover, _, rfl, rfl⟩
        · rintro ⟨refs, rt', hrun, ⟨rfl, rfl, rfl⟩ | ⟨hne, hover, m, henum, rfl⟩⟩
          · exact ⟨[], _, ⟨rt', hrun, rfl⟩, rfl⟩
          · refine ⟨refs, _, ⟨rt', hrun, rfl⟩, ?_⟩
            rw [run_respondDevices, if_neg hne, if_neg hover]
            simp only [World.runtimeSlot_put, World.deviceArrays_runtime, henum]

/-! ## The query functions -/

section Queries

variable {cases : List (Int32 × Swift (Runtime Dev) InfoValue)} {paramName : UInt32}
  {capacity : ℤ} {value size : Option ℕ}

/-- The case found in a table is one of its entries. -/
theorem mem_of_lookup {name : Int32} {property : Swift (Runtime Dev) InfoValue}
    (h : cases.lookup name = some property) :
    (name, property) ∈ cases := by
  rcases List.lookup_eq_some_iff.mp h with ⟨before, after, rfl, -⟩
  simp

/-- A query whose property traps. -/
theorem run_answerQuery_trap {property : Swift (Runtime Dev) InfoValue}
    (h : cases.lookup paramName.toInt32 = some property) {w : World Dev} {e : Trap}
    (hproperty : property.run w.runtime = .error e) :
    (answerQuery cases paramName capacity value size).run w = .error e := by
  simp only [answerQuery, h, StateT.run_bind]
  rw [run_within_error World.runtimeSlot hproperty]
  rfl

/-- A query whose property has a value answers with that value. -/
theorem run_answerQuery {property : Swift (Runtime Dev) InfoValue}
    (h : cases.lookup paramName.toInt32 = some property) {w : World Dev} {v : InfoValue}
    {rt' : Runtime Dev} (hproperty : property.run w.runtime = .ok (v, rt')) (hv : v.NamesFit) :
    (answerQuery cases paramName capacity value size).run w =
      .ok ((v.answer.respond CL_SUCCESS CL_INVALID_VALUE capacity value size w.buffers).1,
        { w with
          runtime := rt'
          buffers := (v.answer.respond CL_SUCCESS CL_INVALID_VALUE capacity value size
            w.buffers).2 }) := by
  simp only [answerQuery, h, StateT.run_bind]
  rw [run_within_ok World.runtimeSlot hproperty, ok_bind]
  exact run_within_ok World.buffersSlot (writeInfo_responds hv capacity value size _)

/-- While its property has the value `v`, a query responds with the answer of `v`. -/
theorem responds_answerQuery {property : Swift (Runtime Dev) InfoValue}
    (h : cases.lookup paramName.toInt32 = some property) {v : InfoValue} (hv : v.NamesFit) :
    Responds (fun w => ∃ rt', property.run w.runtime = .ok (v, rt')) World.buffers CL_SUCCESS
      CL_INVALID_VALUE v.answer (answerQuery cases paramName) := by
  rintro capacity value size w ⟨rt', hrun⟩
  exact ⟨_, run_answerQuery h hrun hv, rfl⟩

/-- A query on a device that exists goes to the cases of that device. -/
theorem run_clGetDeviceInfo [DecidableEq Dev] {ref : DeviceRef} {device : CLDevice Dev}
    {w : World Dev} (hdevice : w.runtime.heap[ref]? = some device) :
    (clGetDeviceInfo host (some ref) paramName capacity value size).run w =
      (answerQuery (deviceInfoCases host device) paramName capacity value size).run w := by
  have hobject : (Runtime.object ref).run w.runtime = .ok (device, w.runtime) :=
    Runtime.object_eq_ok.mpr ⟨hdevice, rfl⟩
  rw [clGetDeviceInfo, StateT.run_bind, run_within_ok World.runtimeSlot hobject, ok_bind]
  rfl

/-- A device query responds while the device exists and its property has the value. -/
theorem responds_clGetDeviceInfo [DecidableEq Dev] {ref : DeviceRef} {device : CLDevice Dev}
    {property : Swift (Runtime Dev) InfoValue}
    (h : (deviceInfoCases host device).lookup paramName.toInt32 = some property) {v : InfoValue}
    (hv : v.NamesFit) :
    Responds (fun w => w.runtime.heap[ref]? = some device ∧
        ∃ rt', property.run w.runtime = .ok (v, rt')) World.buffers CL_SUCCESS
      CL_INVALID_VALUE v.answer (clGetDeviceInfo host (some ref) paramName) := by
  rintro capacity value size w ⟨hdevice, hrun⟩
  rw [run_clGetDeviceInfo host hdevice]
  exact responds_answerQuery h hv capacity value size w hrun

end Queries

end MoltenCL
