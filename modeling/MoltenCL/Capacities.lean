import MoltenCL.Session

/-! # Capacities of a C client

A C client passes the capacity of its buffer as a `size_t`; the Swift functions receive
the same 64 bits as a signed `Int` and compare it with the size of the value. The two
readings part from `2^63` on, where every capacity reads as a negative one. So a query
refuses exactly the buffers that are too short for the capacities below, and every buffer
for the capacities above (`capacity_unsigned_iff`).
-/

namespace MoltenCL

open Foundation Swift

/-- The `Int` a Swift function receives for a `size_t`. -/
def sizeAsInt (paramValueSize : UInt64) : ℤ := paramValueSize.toInt64.toInt

/-- Below `2^63` both types read the same number. -/
theorem sizeAsInt_of_lt {c : UInt64} (h : c.toNat < 2 ^ 63) : sizeAsInt c = c.toNat := by
  have hbits : 2 * c.toBitVec.toNat < 2 ^ 64 := by
    have heq : c.toBitVec.toNat = c.toNat := rfl
    omega
  exact BitVec.toInt_eq_toNat_of_lt hbits

/-- From `2^63` on the signed type reads a negative number. -/
theorem sizeAsInt_neg {c : UInt64} (h : 2 ^ 63 ≤ c.toNat) : sizeAsInt c < 0 := by
  have hbits : sizeAsInt c = if 2 * c.toNat < 2 ^ 64 then (c.toNat : ℤ) else c.toNat - 2 ^ 64 :=
    BitVec.toInt_eq_toNat_cond c.toBitVec
  have hlt := c.toNat_lt
  rw [hbits, if_neg (by omega)]
  omega

/-- For sizes the signed type has, the two readings of a capacity compare alike exactly
below `2^63`. -/
theorem sizeAsInt_lt_iff {n : ℕ} (hn : n < 2 ^ 63) (c : UInt64) :
    (sizeAsInt c < n ↔ c.toNat < n) ↔ c.toNat < 2 ^ 63 := by
  by_cases hc : c.toNat < 2 ^ 63
  · rw [sizeAsInt_of_lt hc]
    exact iff_of_true Int.ofNat_lt hc
  · have hneg := sizeAsInt_neg (not_lt.mp hc)
    refine iff_of_false ?_ hc
    intro h
    have hshort := h.mp (by omega)
    omega

/-- What a C client relies on: with a buffer, the call is refused exactly if the capacity
is smaller than the size as an unsigned number. -/
def CapacityUnsigned {σ : Type} (call : ℤ → Option ℕ → Option ℕ → Swift σ Int32) (n : ℕ)
    (paramValueSize : UInt64) (ptr : ℕ) (size : Option ℕ) (s : σ) : Prop :=
  (∃ s', (call (sizeAsInt paramValueSize) (some ptr) size).run s =
    .ok (CL_INVALID_VALUE, s')) ↔ paramValueSize.toNat < n

/-- A function that responds with one answer meets this for the capacities below `2^63`. -/
theorem capacityUnsigned_iff {σ : Type} {ready : σ → Prop} {view : σ → Buffers}
    {answer : Answer} {call : ℤ → Option ℕ → Option ℕ → Swift σ Int32}
    (h : Responds ready view CL_SUCCESS CL_INVALID_VALUE answer call)
    (hsize : answer.size < 2 ^ 63) {s : σ} (hs : ready s) (c : UInt64) (ptr : ℕ)
    (size : Option ℕ) :
    CapacityUnsigned call answer.size c ptr size s ↔ c.toNat < 2 ^ 63 := by
  unfold CapacityUnsigned
  rw [h.refused_iff success_ne_invalidValue hs]
  exact sizeAsInt_lt_iff hsize c

variable {Dev : Type} [DecidableEq Dev] (host : Host Dev)

/-- **A capacity is compared as the client's unsigned number exactly below `2^63`**, by
every writer and by both query functions. -/
theorem capacity_unsigned_iff (c : UInt64) (ptr : ℕ) (size : Option ℕ) :
    (∀ (v : InfoValue) (b : Buffers), v.NamesFit → v.answer.size < 2 ^ 63 →
      (CapacityUnsigned v.writeInfo v.answer.size c ptr size b ↔ c.toNat < 2 ^ 63)) ∧
    (∀ (p : CLPlatform) (paramName : UInt32) (property : Swift (Runtime Dev) InfoValue)
        (w : World Dev) (v : InfoValue) (rt' : Runtime Dev),
      (platformInfoCases host).lookup paramName.toInt32 = some property →
      property.run w.runtime = .ok (v, rt') → v.answer.size < 2 ^ 63 →
        (CapacityUnsigned (clGetPlatformInfo host (some p) paramName) v.answer.size c ptr size w ↔
          c.toNat < 2 ^ 63)) ∧
    ∀ (ref : DeviceRef) (device : CLDevice Dev) (paramName : UInt32)
        (property : Swift (Runtime Dev) InfoValue) (w : World Dev) (v : InfoValue)
        (rt' : Runtime Dev),
      w.runtime.heap[ref]? = some device →
      (deviceInfoCases host device).lookup paramName.toInt32 = some property →
      property.run w.runtime = .ok (v, rt') → v.answer.size < 2 ^ 63 →
        (CapacityUnsigned (clGetDeviceInfo host (some ref) paramName) v.answer.size c ptr size w ↔
          c.toNat < 2 ^ 63) := by
  refine ⟨?_, ?_, ?_⟩
  · intro v b hv hsize
    exact capacityUnsigned_iff (responds_writeInfo hv) hsize trivial c ptr size
  · intro p paramName property w v rt' hlookup hrun hsize
    have hv := (platformInfoCases_readable host _ (mem_of_lookup hlookup)).namesFit _ _ _ hrun
    exact capacityUnsigned_iff (responds_answerQuery hlookup hv) hsize ⟨rt', hrun⟩ c ptr size
  · intro ref device paramName property w v rt' hdevice hlookup hrun hsize
    have hv := (deviceInfoCases_readable host device _ (mem_of_lookup hlookup)).namesFit _ _ _ hrun
    exact capacityUnsigned_iff (responds_clGetDeviceInfo host hlookup hv) hsize
      ⟨hdevice, rt', hrun⟩ c ptr size

/-- A name and a boolean, into the largest buffer that is taken, and the ILs of a device. -/
theorem capacity_unsigned_oneGPU :
    CapacityUnsigned (InfoValue.bool CLDevice.supportsImages).writeInfo 4 0x7FFFFFFFFFFFFFFF 0 none
        ⟨⟨fun _ => 0⟩, ⟨fun _ => 0⟩⟩ ∧
      CapacityUnsigned (clGetPlatformInfo Host.oneGPU (some {}) CL_PLATFORM_NAME.toUInt32) 6
        0x7FFFFFFFFFFFFFFF 0 none (World.cleared {}) ∧
      CapacityUnsigned (clGetDeviceInfo Host.oneGPU (some 0) CL_DEVICE_IL_VERSION.toUInt32) 19
        0x7FFFFFFFFFFFFFFF 0 none (World.cleared { heap := [newDevice Host.oneGPU 0] }) := by
  rcases capacity_unsigned_iff Host.oneGPU 0x7FFFFFFFFFFFFFFF 0 none with
    ⟨hwriter, hplatform, hdevice⟩
  refine ⟨(hwriter (.bool CLDevice.supportsImages) _ trivial (by decide)).mpr (by decide), ?_, ?_⟩
  · exact (hplatform {} CL_PLATFORM_NAME.toUInt32 (pure (.string CLPlatform.name))
      (World.cleared {}) _ _ rfl rfl (by decide)).mpr (by decide)
  · exact (hdevice 0 (newDevice Host.oneGPU 0) CL_DEVICE_IL_VERSION.toUInt32
      (pure (.arrayOfString CLDevice.ilVersions)) _ _ _ rfl rfl rfl (by decide)).mpr (by decide)

/-- The largest capacity is refused: `(size_t)-1` reads as `-1`, which is short for a name
and even for the empty list of extensions. -/
theorem largestCapacity_refused :
    (clGetPlatformInfo Host.oneGPU (some {}) CL_PLATFORM_NAME.toUInt32
        (sizeAsInt 0xFFFFFFFFFFFFFFFF) (some 0) none).run (World.cleared {}) =
      .ok (CL_INVALID_VALUE, World.cleared {}) ∧
    ¬ CapacityUnsigned (clGetPlatformInfo Host.oneGPU (some {}) CL_PLATFORM_NAME.toUInt32) 6
      0xFFFFFFFFFFFFFFFF 0 none (World.cleared {}) ∧
    ¬ CapacityUnsigned (clGetPlatformInfo Host.oneGPU (some {}) CL_PLATFORM_EXTENSIONS.toUInt32) 0
      0xFFFFFFFFFFFFFFFF 0 none (World.cleared {}) := by
  refine ⟨rfl, ?_, ?_⟩
  · intro h
    exact absurd (h.mp ⟨World.cleared {}, rfl⟩) (by decide)
  · intro h
    exact absurd (h.mp ⟨World.cleared {}, rfl⟩) (by decide)

end MoltenCL
