import MoltenCL.Session

/-! # Enumerating platforms and devices

Both enumerating C functions follow the enumeration protocol, from every world a
process can be in. The status is decided by the arguments and the selection alone; a
call that fails changes no slot and no count, a call that succeeds stores a prefix of
the selected objects, and counting first lets a client fetch all of them.

Which masks `clGetDeviceIDs` refuses depends on the mask alone. It refuses one mask more
than its guards ask for (`clGetDeviceIDs_mask_iff`).
-/

namespace MoltenCL

open Foundation Swift

variable {Dev : Type} (host : Host Dev)

/-- The status of `clGetPlatformIDs`. -/
def platformIDsStatus (numEntries : UInt32) (platforms numPlatforms : Option ℕ) : Int32 :=
  if InvalidEnumeration numEntries.toNat platforms numPlatforms then CL_INVALID_VALUE
  else CL_SUCCESS

/-- The status of `clGetDeviceIDs` on a platform, by its checks in their order. -/
def deviceIDsStatus (type : CLDeviceType) (selected : List DeviceRef) (numEntries : UInt32)
    (devices numDevices : Option ℕ) : Int32 :=
  if type.Rejected then CL_INVALID_DEVICE_TYPE
  else if selected = [] then CL_DEVICE_NOT_FOUND
  else if InvalidEnumeration numEntries.toNat devices numDevices then CL_INVALID_VALUE
  else CL_SUCCESS

/-- A valid call succeeds if the mask is not refused and selects something. -/
theorem deviceIDsStatus_success {type : CLDeviceType} (hrejected : ¬ type.Rejected)
    {selected : List DeviceRef} (hne : selected ≠ []) {numEntries : UInt32}
    {devices numDevices : Option ℕ}
    (hvalid : ¬ InvalidEnumeration numEntries.toNat devices numDevices) :
    deviceIDsStatus type selected numEntries devices numDevices = CL_SUCCESS := by
  rw [deviceIDsStatus, if_neg hrejected, if_neg hne, if_neg hvalid]

/-- Counting and then fetching into as many slots: the count succeeds and is the number
of selected objects, and the fetch succeeds and stores exactly those. -/
def CountThenFetch {H : Type} (call : UInt32 → Option ℕ → Option ℕ → Swift (World Dev) Int32)
    (slots : World Dev → Arrays H) (selected : List H) (w : World Dev) : Prop :=
  ∀ numEntries c, ∃ w₁, (call numEntries none (some c)).run w = .ok (CL_SUCCESS, w₁) ∧
    (w₁.counts.cell c).toNat = selected.length ∧
    ∀ a count, ∃ w₂, (call (w₁.counts.cell c) (some a) count).run w₁ = .ok (CL_SUCCESS, w₂) ∧
      (slots w₂).handles.load a selected.length = selected.map some

/-! ## Platforms -/

/-- A completed `clGetPlatformIDs` has enumerated the one platform. -/
theorem clGetPlatformIDs_enumerated {numEntries : UInt32} {platforms numPlatforms : Option ℕ}
    {w w' : World Dev} {status : Int32}
    (h : (clGetPlatformIDs host numEntries platforms numPlatforms).run w = .ok (status, w')) :
    Enumerated CL_SUCCESS [CLPlatform.mk] numEntries.toNat platforms numPlatforms
      w.platformArrays status w'.platformArrays := by
  rcases clGetPlatformIDs_eq_ok host h with ⟨rt', m, -, henum, rfl⟩
  have hlaw := enumerate_enumerated success_ne_failures.1 [CLPlatform.mk] numEntries.toNat platforms
    numPlatforms w.platformArrays
  rw [henum] at hlaw
  exact hlaw

/-- A completed `clGetPlatformIDs` refuses an invalid call, and no other. -/
theorem clGetPlatformIDs_status {numEntries : UInt32} {platforms numPlatforms : Option ℕ}
    {w w' : World Dev} {status : Int32}
    (h : (clGetPlatformIDs host numEntries platforms numPlatforms).run w = .ok (status, w')) :
    status = platformIDsStatus numEntries platforms numPlatforms := by
  rcases clGetPlatformIDs_eq_ok host h with ⟨rt', m, -, henum, -⟩
  exact enumerate_status henum

/-- `clGetPlatformIDs` returns, unless it fetches on a machine where the platform does not
come up. -/
theorem clGetPlatformIDs_returns {numEntries : UInt32} {platforms numPlatforms : Option ℕ}
    (h : InvalidEnumeration numEntries.toNat platforms numPlatforms ∨ platforms = none ∨
      ComesUp host) (w : World Dev) :
    ∃ status w', (clGetPlatformIDs host numEntries platforms numPlatforms).run w =
      .ok (status, w') := by
  by_cases hinvalid : InvalidEnumeration numEntries.toNat platforms numPlatforms
  · exact ⟨_, _, run_clGetPlatformIDs_invalid host hinvalid w⟩
  cases platforms with
  | none =>
      obtain ⟨c, rfl⟩ : ∃ c, numPlatforms = some c :=
        Option.ne_none_iff_exists'.mp fun h => hinvalid (Or.inl ⟨rfl, h⟩)
      exact ⟨_, _, run_clGetPlatformIDs_count host numEntries c w⟩
  | some a =>
      have hup : ComesUp host := (h.resolve_left hinvalid).resolve_left (by simp)
      have hn : numEntries.toNat ≠ 0 := fun h => hinvalid (Or.inr ⟨by simp, h⟩)
      rcases CLPlatform.default_returns host hup w.runtime with ⟨rt', hdefault⟩
      rw [run_clGetPlatformIDs_fetch host hn, hdefault]
      exact ⟨_, _, rfl⟩

/-- Counting the platforms initialises nothing, and finds the one that is then fetched. -/
theorem clGetPlatformIDs_countThenFetch (hup : ComesUp host) (w : World Dev) :
    CountThenFetch (clGetPlatformIDs host) World.platformArrays [CLPlatform.mk] w := by
  intro numEntries c
  obtain ⟨w₁, hcount⟩ : ∃ w₁,
      (clGetPlatformIDs host numEntries none (some c)).run w = .ok (CL_SUCCESS, w₁) :=
    ⟨_, run_clGetPlatformIDs_count host numEntries c w⟩
  have hone : w₁.counts.cell c = 1 := (clGetPlatformIDs_enumerated host hcount).counted rfl c rfl
  refine ⟨w₁, hcount, by rw [hone]; rfl, ?_⟩
  intro a count
  rw [hone]
  obtain ⟨status, w₂, hfetch⟩ : ∃ status w₂,
      (clGetPlatformIDs host 1 (some a) count).run w₁ = .ok (status, w₂) :=
    clGetPlatformIDs_returns host (Or.inr (Or.inr hup)) w₁
  have hvalid : ¬ InvalidEnumeration (1 : UInt32).toNat (some a) count :=
    not_invalidEnumeration_fetch (by decide) a count
  obtain rfl : status = CL_SUCCESS := by
    rw [clGetPlatformIDs_status host hfetch, platformIDsStatus, if_neg hvalid]
  exact ⟨w₂, hfetch, (clGetPlatformIDs_enumerated host hfetch).fetched rfl a rfl⟩

/-! ## Devices -/

section Completed

variable {host} {p : CLPlatform} {deviceType : UInt64} {numEntries : UInt32}
  {devices numDevices : Option ℕ} {w w' : World Dev} {status : Int32}
  {selected : List DeviceRef} {rt' : Runtime Dev}

/-- What a completed `clGetDeviceIDs` on a platform has done, for the objects that
`devices(type:)` selects: it has refused the mask, or selected nothing, or enumerated them. -/
theorem clGetDeviceIDs_cases
    (hselected : (CLPlatform.devices host (.ofRawValue deviceType)).run w.runtime =
      .ok (selected, rt'))
    (h : (clGetDeviceIDs host (some p) deviceType numEntries devices numDevices).run w =
      .ok (status, w')) :
    ((CLDeviceType.ofRawValue deviceType).Rejected ∧ status = CL_INVALID_DEVICE_TYPE ∧ w' = w) ∨
    (¬ (CLDeviceType.ofRawValue deviceType).Rejected ∧ selected = [] ∧
      status = CL_DEVICE_NOT_FOUND ∧ w' = { w with runtime := rt' }) ∨
    (¬ (CLDeviceType.ofRawValue deviceType).Rejected ∧ selected ≠ [] ∧ ∃ m,
      enumerate CL_SUCCESS CL_INVALID_VALUE selected numEntries.toNat devices numDevices
        w.deviceArrays = (status, m) ∧
      w' = { w with runtime := rt' }.setDeviceArrays m) := by
  rcases (clGetDeviceIDs_eq_ok host).mp h with
    ⟨hnone, -, -⟩ | ⟨-, hrejected, hstatus, hw⟩ | ⟨-, hrejected, refs, rt'', hrun, hrest⟩
  · cases hnone
  · exact Or.inl ⟨hrejected, hstatus, hw⟩
  · obtain ⟨rfl, rfl⟩ : refs = selected ∧ rt'' = rt' := by simpa [hrun] using hselected
    rcases hrest with ⟨hnil, hstatus, hw⟩ | ⟨hne, -, m, henum, hw⟩
    · exact Or.inr (Or.inl ⟨hrejected, hnil, hstatus, hw⟩)
    · exact Or.inr (Or.inr ⟨hrejected, hne, m, henum, hw⟩)

/-- A completed `clGetDeviceIDs` on a platform has enumerated the selected objects. -/
theorem clGetDeviceIDs_enumerated
    (hselected : (CLPlatform.devices host (.ofRawValue deviceType)).run w.runtime =
      .ok (selected, rt'))
    (h : (clGetDeviceIDs host (some p) deviceType numEntries devices numDevices).run w =
      .ok (status, w')) :
    Enumerated CL_SUCCESS selected numEntries.toNat devices numDevices w.deviceArrays status
      w'.deviceArrays := by
  rcases success_ne_failures with ⟨hinvalid, -, htype, hfound⟩
  rcases clGetDeviceIDs_cases hselected h with
    ⟨-, rfl, rfl⟩ | ⟨-, -, rfl, rfl⟩ | ⟨-, -, m, henum, rfl⟩
  · -- a rejected mask fails before anything is selected
    exact enumerated_of_failed htype selected _ _ _ _
  · exact enumerated_of_failed hfound selected _ _ _ _
  · have hlaw := enumerate_enumerated hinvalid selected numEntries.toNat devices numDevices
      w.deviceArrays
    rw [henum] at hlaw
    exact hlaw

/-- A completed `clGetDeviceIDs` on a platform returns the status of the first check that
fails, and success if none does. -/
theorem clGetDeviceIDs_status
    (hselected : (CLPlatform.devices host (.ofRawValue deviceType)).run w.runtime =
      .ok (selected, rt'))
    (h : (clGetDeviceIDs host (some p) deviceType numEntries devices numDevices).run w =
      .ok (status, w')) :
    status = deviceIDsStatus (.ofRawValue deviceType) selected numEntries devices numDevices := by
  unfold deviceIDsStatus
  rcases clGetDeviceIDs_cases hselected h with
    ⟨hrejected, rfl, -⟩ | ⟨hrejected, hnil, rfl, -⟩ | ⟨hrejected, hne, m, henum, -⟩
  · rw [if_pos hrejected]
  · rw [if_neg hrejected, if_pos hnil]
  · rw [if_neg hrejected, if_neg hne]
    exact enumerate_status henum

/-- A completed `clGetDeviceIDs` with a mask that is not refused has used the statics to
select, and for nothing else. -/
theorem clGetDeviceIDs_runtime (hrejected : ¬ (CLDeviceType.ofRawValue deviceType).Rejected)
    (hselected : (CLPlatform.devices host (.ofRawValue deviceType)).run w.runtime =
      .ok (selected, rt'))
    (h : (clGetDeviceIDs host (some p) deviceType numEntries devices numDevices).run w =
      .ok (status, w')) : w'.runtime = rt' := by
  rcases clGetDeviceIDs_cases hselected h with
    ⟨hrefused, -, -⟩ | ⟨-, -, -, rfl⟩ | ⟨-, -, m, -, rfl⟩
  · exact absurd hrefused hrejected
  · rfl
  · rfl

end Completed

/-- On a machine where the platform comes up, with fewer devices than a count can
hold, `clGetDeviceIDs` returns. -/
theorem clGetDeviceIDs_returns (hlen : host.copyAllDevices.length < 2 ^ 32) {w : World Dev}
    (hv : w.runtime.Valid host) (hup : ComesUp host) (p : CLPlatform)
    (deviceType : UInt64) (numEntries : UInt32) (devices numDevices : Option ℕ) :
    ∃ status w', (clGetDeviceIDs host (some p) deviceType numEntries devices numDevices).run w =
      .ok (status, w') := by
  by_cases hrejected : (CLDeviceType.ofRawValue deviceType).Rejected
  · exact ⟨_, w, (clGetDeviceIDs_eq_ok host).mpr (Or.inr (Or.inl ⟨by simp, hrejected, rfl, rfl⟩))⟩
  · rcases hv.devices_returns host hup (.ofRawValue deviceType) with ⟨refs, rt', hrun⟩
    by_cases hnil : refs = []
    · exact ⟨_, _, (clGetDeviceIDs_eq_ok host).mpr (Or.inr (Or.inr ⟨by simp, hrejected, refs, rt',
        hrun, Or.inl ⟨hnil, rfl, rfl⟩⟩))⟩
    · have hfits : ¬ CountOverflows refs numDevices := by
        intro h
        rcases h with ⟨-, hover⟩
        have hle := hv.length_devices_le host hrun
        omega
      exact ⟨_, _, (clGetDeviceIDs_eq_ok host).mpr (Or.inr (Or.inr ⟨by simp, hrejected, refs, rt',
        hrun, Or.inr ⟨hnil, fun h => hfits h.2, _, rfl, rfl⟩⟩))⟩

/-- A mask that is not refused and selects something can be counted and then fetched: the
count-only call leaves the selection as it found it. -/
theorem clGetDeviceIDs_countThenFetch (hlen : host.copyAllDevices.length < 2 ^ 32)
    {w : World Dev} (hv : w.runtime.Valid host) (hup : ComesUp host) (p : CLPlatform)
    {deviceType : UInt64} (hrejected : ¬ (CLDeviceType.ofRawValue deviceType).Rejected)
    {selected : List DeviceRef} (hne : selected ≠ []) {rt' : Runtime Dev}
    (hselected : (CLPlatform.devices host (.ofRawValue deviceType)).run w.runtime =
      .ok (selected, rt')) :
    CountThenFetch (clGetDeviceIDs host (some p) deviceType) World.deviceArrays selected w := by
  intro numEntries c
  obtain ⟨status, w₁, hcount⟩ :=
    clGetDeviceIDs_returns host hlen hv hup p deviceType numEntries none (some c)
  obtain rfl : status = CL_SUCCESS := by
    rw [clGetDeviceIDs_status hselected hcount]
    exact deviceIDsStatus_success hrejected hne (not_invalidEnumeration_count _ c)
  have hle : selected.length < 2 ^ 32 := by
    have := hv.length_devices_le host hselected
    omega
  have hk : (w₁.counts.cell c).toNat = selected.length := by
    have hcell := (clGetDeviceIDs_enumerated hselected hcount).counted rfl c rfl
    rw [show w₁.counts.cell c = UInt32.ofNat selected.length from hcell, UInt32.toNat_ofNat']
    exact Nat.mod_eq_of_lt hle
  have hagain : (CLPlatform.devices host (.ofRawValue deviceType)).run w₁.runtime =
      .ok (selected, rt') := by
    rw [clGetDeviceIDs_runtime hrejected hselected hcount]
    exact CLPlatform.devices_again host hselected
  refine ⟨w₁, hcount, hk, ?_⟩
  intro a count
  rcases (usesRespect_valid host).clGetDeviceIDs _ _ _ _ _ w _ w₁ hv hcount with ⟨hv₁, -⟩
  obtain ⟨status, w₂, hfetch⟩ :=
    clGetDeviceIDs_returns host hlen hv₁ hup p deviceType (w₁.counts.cell c) (some a) count
  obtain rfl : status = CL_SUCCESS := by
    rw [clGetDeviceIDs_status hagain hfetch]
    have hslots : (w₁.counts.cell c).toNat ≠ 0 := by
      rw [hk]
      exact fun h => hne (List.length_eq_zero_iff.mp h)
    exact deviceIDsStatus_success hrejected hne (not_invalidEnumeration_fetch hslots a count)
  refine ⟨w₂, hfetch, ?_⟩
  have hfetched := (clGetDeviceIDs_enumerated hagain hfetch).fetched rfl a rfl
  rw [hk, Nat.min_self, List.take_length] at hfetched
  exact hfetched

/-! ## Both functions -/

/-- **The enumeration protocol, from every reachable world.** For a platform
handle of the process and any mask, `clGetDeviceIDs` returns with the status its checks
give and has enumerated the selected objects, which are different objects.
`clGetPlatformIDs` has refused an invalid call or enumerated the one platform whenever it
returns, and does return unless it fetches on a machine where the platform does not come up.
Counting first succeeds and fetches everything, unless the mask is refused or selects
nothing. -/
theorem enumeration_protocol [DecidableEq Dev] (hlen : host.copyAllDevices.length < 2 ^ 32)
    {w : World Dev} (hw : Reachable host w) :
    (∀ numEntries platforms numPlatforms status w',
      (clGetPlatformIDs host numEntries platforms numPlatforms).run w = .ok (status, w') →
        status = platformIDsStatus numEntries platforms numPlatforms ∧
        Enumerated CL_SUCCESS [CLPlatform.mk] numEntries.toNat platforms numPlatforms
          w.platformArrays status w'.platformArrays) ∧
    (∀ numEntries platforms numPlatforms,
      InvalidEnumeration numEntries.toNat platforms numPlatforms ∨ platforms = none ∨
          ComesUp host →
        ∃ status w',
          (clGetPlatformIDs host numEntries platforms numPlatforms).run w = .ok (status, w')) ∧
    (ComesUp host →
      CountThenFetch (clGetPlatformIDs host) World.platformArrays [CLPlatform.mk] w) ∧
    ∀ p deviceType, w.runtime.platformDefault = some p →
      ∃ selected rt', (CLPlatform.devices host (.ofRawValue deviceType)).run w.runtime =
          .ok (selected, rt') ∧
        selected.Nodup ∧
        (∀ numEntries devices numDevices, ∃ status w',
          (clGetDeviceIDs host (some p) deviceType numEntries devices numDevices).run w =
            .ok (status, w') ∧
          status = deviceIDsStatus (.ofRawValue deviceType) selected numEntries devices
            numDevices ∧
          Enumerated CL_SUCCESS selected numEntries.toNat devices numDevices w.deviceArrays status
            w'.deviceArrays) ∧
        (¬ (CLDeviceType.ofRawValue deviceType).Rejected → selected ≠ [] →
          CountThenFetch (clGetDeviceIDs host (some p) deviceType) World.deviceArrays selected
            w) := by
  refine ⟨?_, ?_, ?_, ?_⟩
  · intro numEntries platforms numPlatforms status w' h
    exact ⟨clGetPlatformIDs_status host h, clGetPlatformIDs_enumerated host h⟩
  · intro numEntries platforms numPlatforms h
    exact clGetPlatformIDs_returns host h w
  · intro hup
    exact clGetPlatformIDs_countThenFetch host hup w
  · intro p deviceType hp
    -- a platform handle is only given out once the platform is up
    have hv := hw.valid
    have hup : ComesUp host := hv.up (by simp [hp])
    rcases hv.devices_returns host hup (.ofRawValue deviceType) with ⟨selected, rt', hselected⟩
    refine ⟨selected, rt', hselected, hv.devices_nodup_of_run host hselected, ?_, ?_⟩
    · intro numEntries devices numDevices
      rcases clGetDeviceIDs_returns host hlen hv hup p deviceType numEntries devices numDevices
        with ⟨status, w', hrun⟩
      exact ⟨status, w', hrun, clGetDeviceIDs_status hselected hrun,
        clGetDeviceIDs_enumerated hselected hrun⟩
    · intro hrejected hne
      exact clGetDeviceIDs_countThenFetch host hlen hv hup p hrejected hne hselected

/-- Two GPUs by their class: every valid call succeeds, and counting first fetches both. -/
theorem enumeration_protocol_twoGPUs :
    (∀ numEntries devices numDevices, ∃ w',
      (clGetDeviceIDs Host.twoGPUs (some {}) 0x4 numEntries devices numDevices).run
          (World.cleared { platformDefault := some {} }) =
        .ok (if InvalidEnumeration numEntries.toNat devices numDevices then CL_INVALID_VALUE
          else CL_SUCCESS, w')) ∧
    CountThenFetch (clGetDeviceIDs Host.twoGPUs (some {}) 0x4) World.deviceArrays [0, 1]
      (World.cleared { platformDefault := some {} }) := by
  have hup := reachable_up Host.twoGPUs ⟨0, rfl, rfl, fun _ => rfl⟩
  rcases enumeration_protocol _ (by decide) hup with ⟨-, -, -, hdevices⟩
  rcases hdevices {} 0x4 rfl with ⟨selected, rt', hselected, -, hcalls, hfetch⟩
  obtain rfl : selected = [0, 1] := by
    rcases Prod.mk.inj (Except.ok.inj hselected) with ⟨hrefs, -⟩
    exact hrefs.symm
  have hrejected : ¬ (CLDeviceType.ofRawValue 0x4).Rejected := by decide
  refine ⟨?_, hfetch hrejected (by decide)⟩
  intro numEntries devices numDevices
  rcases hcalls numEntries devices numDevices with ⟨status, w', hrun, rfl, -⟩
  rw [deviceIDsStatus, if_neg hrejected, if_neg (by decide)] at hrun
  exact ⟨w', hrun⟩

/-! ## Refused masks -/

/-- The mask is not everything, and combines the custom class with another bit. -/
def CLDeviceType.CombinesCustom (type : CLDeviceType) : Prop :=
  type ≠ all ∧ 4 ∈ type.bits ∧ ∃ i ∈ type.bits, i ≠ 4

/-- The guard inside the test for the custom class never passes, since a mask with that
class is not empty. So the class alone is refused too. -/
theorem CLDeviceType.rejected_iff {type : CLDeviceType} :
    type.Rejected ↔ type = custom ∨ type.CombinesCustom := by
  have hcustom : type.contains custom = true ↔
      type = custom ∨ (4 ∈ type.bits ∧ ∃ i ∈ type.bits, i ≠ 4) :=
    OptionSet.contains_flag_iff_eq_or (by decide)
  unfold CLDeviceType.Rejected CLDeviceType.CombinesCustom
  constructor
  · intro h
    rcases h with ⟨hall, hcontains, -⟩
    rcases hcustom.mp hcontains with halone | hcombined
    · exact Or.inl halone
    · exact Or.inr ⟨hall, hcombined⟩
  · intro h
    rcases h with rfl | ⟨hall, hcombined⟩
    · decide
    · -- the bit is not in the empty mask
      have hne : type ≠ .empty := by
        intro hempty
        rw [hempty, OptionSet.bits_empty] at hcombined
        exact hcombined.1
      exact ⟨hall, hcustom.mpr (Or.inr hcombined), hne⟩

/-- `clGetDeviceIDs` answers with a refusal exactly for a refused mask. -/
theorem clGetDeviceIDs_refuses_iff (p : CLPlatform) (deviceType : UInt64) (numEntries : UInt32)
    (devices numDevices : Option ℕ) (w : World Dev) :
    (∃ w', (clGetDeviceIDs host (some p) deviceType numEntries devices numDevices).run w =
      .ok (CL_INVALID_DEVICE_TYPE, w')) ↔ (CLDeviceType.ofRawValue deviceType).Rejected := by
  have hother : CL_INVALID_DEVICE_TYPE ≠ CL_DEVICE_NOT_FOUND ∧ CL_INVALID_DEVICE_TYPE ≠ CL_SUCCESS ∧
      CL_INVALID_DEVICE_TYPE ≠ CL_INVALID_VALUE := by decide
  constructor
  · intro h
    rcases h with ⟨w', hrun⟩
    rcases (clGetDeviceIDs_eq_ok host).mp hrun with
      ⟨hnone, -, -⟩ | ⟨-, hrejected, -, -⟩ | ⟨-, -, refs, rt', -, hrest⟩
    · cases hnone
    · exact hrejected
    · -- behind the test for the mask every status is another one
      rcases hrest with ⟨-, hstatus, -⟩ | ⟨-, -, m, henum, -⟩
      · exact absurd hstatus hother.1
      · have hstatus := enumerate_status henum
        split_ifs at hstatus
        · exact absurd hstatus hother.2.2
        · exact absurd hstatus hother.2.1
  · intro hrejected
    exact ⟨w, (clGetDeviceIDs_eq_ok host).mpr (Or.inr (Or.inl ⟨by simp, hrejected, rfl, rfl⟩))⟩

/-- A class of which the platform has no device selects nothing, and only the custom class
is refused. -/
theorem CLDeviceType.selects_nothing_of_absent :
    ∀ type ∈ [cpu, accelerator, custom], type ≠ custom →
      ¬ type.Rejected ∧ ¬ type.SelectsListed ∧ ¬ type.SelectsDefault := by
  decide

/-- A mask that is not refused and selects neither static finds nothing. -/
theorem run_clGetDeviceIDs_notFound (p : CLPlatform) {deviceType : UInt64} (numEntries : UInt32)
    (devices numDevices : Option ℕ) (w : World Dev)
    (hrejected : ¬ (CLDeviceType.ofRawValue deviceType).Rejected)
    (hlisted : ¬ (CLDeviceType.ofRawValue deviceType).SelectsListed)
    (hdefault : ¬ (CLDeviceType.ofRawValue deviceType).SelectsDefault) :
    (clGetDeviceIDs host (some p) deviceType numEntries devices numDevices).run w =
      .ok (CL_DEVICE_NOT_FOUND, w) := by
  have hdevices : (CLPlatform.devices host (.ofRawValue deviceType)).run w.runtime =
      .ok ([], w.runtime) :=
    (CLPlatform.devices_eq_ok host).mpr (Or.inr (Or.inr ⟨hlisted, hdefault, rfl, rfl⟩))
  exact (clGetDeviceIDs_eq_ok host).mpr (Or.inr (Or.inr
    ⟨by simp, hrejected, [], w.runtime, hdevices, Or.inl ⟨rfl, rfl, rfl⟩⟩))

/-- What a client relies on about the status for a mask. -/
structure MaskStatus (p : CLPlatform) (deviceType : UInt64) (numEntries : UInt32)
    (devices numDevices : Option ℕ) (w : World Dev) : Prop where
  /-- exactly a mask that combines the custom class with another bit is refused -/
  refused : (∃ w', (clGetDeviceIDs host (some p) deviceType numEntries devices numDevices).run w =
    .ok (CL_INVALID_DEVICE_TYPE, w')) ↔ (CLDeviceType.ofRawValue deviceType).CombinesCustom
  /-- a class of which the platform has no device is not found -/
  absent : ∀ type ∈ [CLDeviceType.cpu, CLDeviceType.accelerator, CLDeviceType.custom],
    CLDeviceType.ofRawValue deviceType = type →
      ∃ w', (clGetDeviceIDs host (some p) deviceType numEntries devices numDevices).run w =
        .ok (CL_DEVICE_NOT_FOUND, w')

/-- **The status follows the mask, for every mask but the custom class alone**, whatever
the other arguments and the devices. -/
theorem clGetDeviceIDs_mask_iff (p : CLPlatform) (deviceType : UInt64) (numEntries : UInt32)
    (devices numDevices : Option ℕ) (w : World Dev) :
    MaskStatus host p deviceType numEntries devices numDevices w ↔
      CLDeviceType.ofRawValue deviceType ≠ CLDeviceType.custom := by
  constructor
  · intro h halone
    -- refused, but not found
    have hrejected := CLDeviceType.rejected_iff.mpr (Or.inl halone)
    rcases h.refused.mp ((clGetDeviceIDs_refuses_iff host p _ _ _ _ w).mpr hrejected) with
      ⟨-, -, i, hi, hne⟩
    rw [halone, CLDeviceType.bits_custom] at hi
    exact hne hi
  · intro halone
    constructor
    · rw [clGetDeviceIDs_refuses_iff, CLDeviceType.rejected_iff, or_iff_right halone]
    · rintro type htype rfl
      rcases CLDeviceType.selects_nothing_of_absent _ htype halone with
        ⟨hrejected, hlisted, hdefault⟩
      exact ⟨w, run_clGetDeviceIDs_notFound host p numEntries devices numDevices w hrejected
        hlisted hdefault⟩

/-- The custom class alone is refused, on a platform that finds no CPU and no
accelerator. -/
theorem customAlone_refused :
    (clGetDeviceIDs Host.oneGPU (some {}) 0x10 1 (some 0) none).run (World.cleared {}) =
      .ok (CL_INVALID_DEVICE_TYPE, World.cleared {}) ∧
    (clGetDeviceIDs Host.oneGPU (some {}) 0x2 1 (some 0) none).run (World.cleared {}) =
      .ok (CL_DEVICE_NOT_FOUND, World.cleared {}) ∧
    (clGetDeviceIDs Host.oneGPU (some {}) 0x8 1 (some 0) none).run (World.cleared {}) =
      .ok (CL_DEVICE_NOT_FOUND, World.cleared {}) ∧
    ¬ MaskStatus Host.oneGPU {} 0x10 1 (some 0) none (World.cleared {}) := by
  refine ⟨rfl, rfl, rfl, ?_⟩
  intro h
  rcases h.absent CLDeviceType.custom (by decide) (by decide) with ⟨w', hrun⟩
  rcases Prod.mk.inj (Except.ok.inj hrun) with ⟨hstatus, -⟩
  exact absurd hstatus (by decide)

end MoltenCL
