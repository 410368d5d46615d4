import MoltenCL.Session

/-! # What is published

Which devices reach a client, for every mask and from every reachable world:

* the selection is the filter of the listed devices by their type exactly for
  the masks that do not mix a class the platform lacks with one it has
  (`devices_filter_iff`);
* the published devices are the listed ones and the chosen one, of which the
  initialiser has checked the first listed one only (`published_supported`).
-/

namespace MoltenCL

open Foundation Swift

variable {Dev : Type} (host : Host Dev)

/-! ## Selection as a filter -/

/-- `contains(.gpu)` tests bit 2. -/
theorem contains_gpu_iff {mask : CLDeviceType} :
    mask.contains CLDeviceType.gpu = true ↔ 2 ∈ mask.bits :=
  OptionSet.contains_flag (by decide)

/-- `contains(.default)` tests bit 0. -/
theorem contains_default_iff {mask : CLDeviceType} :
    mask.contains CLDeviceType.default = true ↔ 0 ∈ mask.bits :=
  OptionSet.contains_flag (by decide)

section Selection

variable {host} {rt : Runtime Dev}

/-- A mask that is not answered selects nothing. -/
theorem devices_of_not_answered {mask : CLDeviceType} (h : ¬ mask.Answered) :
    (CLPlatform.devices host mask).run rt = .ok ([], rt) :=
  (CLPlatform.devices_eq_ok host).mpr
    (Or.inr (Or.inr ⟨fun hl => h hl.1, fun hd => h hd.1, rfl, rfl⟩))

/-- An answered mask selects at least the devices a smaller mask selects. -/
theorem devices_mono (hv : rt.Valid host)
    (hlisted : ∀ d, chosenDevice host = some d → d ∈ host.copyAllDevices)
    {mask mask' : CLDeviceType} (hsub : mask.bits ⊆ mask'.bits) (hanswered : mask'.Answered)
    {refs refs' : List DeviceRef} {rt₁ rt₂ : Runtime Dev}
    (h : (CLPlatform.devices host mask).run rt = .ok (refs, rt₁))
    (h' : (CLPlatform.devices host mask').run rt = .ok (refs', rt₂)) {d : Dev}
    (hd : some d ∈ refs.map rt₁.wrapped) : some d ∈ refs'.map rt₂.wrapped := by
  have hmem : d ∈ host.copyAllDevices := by
    rcases hv.wrapped_devices host h with ⟨-, hw⟩ | ⟨-, e, he, hw⟩ | ⟨-, -, rfl⟩
    · simpa [hw] using hd
    · obtain rfl : d = e := by simpa [hw] using hd
      exact hlisted d he
    · simp at hd
  rcases hv.wrapped_devices host h' with ⟨-, hw'⟩ | ⟨hdefault', e', he', hw'⟩ | ⟨hno, hno', -⟩
  · rw [hw']
    exact List.mem_map_of_mem hmem
  · -- without the GPU bit in the larger mask, the smaller one selected the default as well
    have h2 : 2 ∉ mask.bits := fun h2 => by
      simpa [hdefault'.2.1] using contains_gpu_iff.mpr (hsub h2)
    rcases hv.wrapped_devices host h with ⟨hl, -⟩ | ⟨-, e, he, hw⟩ | ⟨-, -, rfl⟩
    · exact absurd (contains_gpu_iff.mp hl.2) h2
    · obtain rfl : e' = e := Option.some.inj (he'.symm.trans he)
      rw [hw']
      rwa [hw] at hd
    · simp at hd
  · rcases hv.wrapped_devices host h with ⟨hl, -⟩ | ⟨hd', -⟩ | ⟨-, -, rfl⟩
    · exact absurd ⟨hanswered, contains_gpu_iff.mpr (hsub (contains_gpu_iff.mp hl.2))⟩ hno
    · have h0 := contains_default_iff.mpr (hsub (contains_default_iff.mp hd'.2.2))
      cases hgpu : mask'.contains CLDeviceType.gpu with
      | true => exact absurd ⟨hanswered, hgpu⟩ hno
      | false => exact absurd ⟨hanswered, hgpu, h0⟩ hno'
    · simp at hd

end Selection

section Filter

variable [DecidableEq Dev]

/-- The mask and the type have a bit in common. -/
def SharesBit (type mask : CLDeviceType) : Prop := type.intersection mask ≠ .empty

instance (type mask : CLDeviceType) : Decidable (SharesBit type mask) :=
  inferInstanceAs (Decidable (_ ≠ _))

/-- The listed devices whose type shares a bit with the mask, in order. -/
def matching (mask : CLDeviceType) : List Dev :=
  host.copyAllDevices.filter fun d => SharesBit (deviceTypeOf host d) mask

/-- `devices(type:)` returns objects around exactly the matching devices, in order. -/
def FiltersByType (rt : Runtime Dev) (mask : CLDeviceType) : Prop :=
  ∃ refs rt', (CLPlatform.devices host mask).run rt = .ok (refs, rt') ∧
    refs.map rt'.wrapped = (matching host mask).map some

/-- A device matches a mask by the GPU bit, or by the default bit if it is the
chosen device. -/
theorem sharesBit_deviceTypeOf {d : Dev} {mask : CLDeviceType} :
    SharesBit (deviceTypeOf host d) mask ↔
      2 ∈ mask.bits ∨ (chosenDevice host = some d ∧ 0 ∈ mask.bits) := by
  rw [SharesBit, ne_eq, OptionSet.intersection_eq_empty_iff]
  -- the type has bits 2 and 0 for the chosen device, and bit 2 for the others
  by_cases hd : chosenDevice host = some d
  · have hbits : (deviceTypeOf host d).bits = {2} ∪ {0} := by
      rw [deviceTypeOf, if_pos hd, OptionSet.bits_union, CLDeviceType.bits_gpu,
        CLDeviceType.bits_default]
    constructor
    · intro h
      by_contra hnone
      apply h
      intro i hi hmem
      rw [hbits] at hmem
      rcases hmem with rfl | rfl
      · exact hnone (Or.inl hi)
      · exact hnone (Or.inr ⟨hd, hi⟩)
    · rintro (h2 | ⟨-, h0⟩) h
      · exact h 2 h2 (hbits ▸ Or.inl rfl)
      · exact h 0 h0 (hbits ▸ Or.inr rfl)
  · have hbits : (deviceTypeOf host d).bits = {2} := by
      rw [deviceTypeOf, if_neg hd, CLDeviceType.bits_gpu]
    constructor
    · intro h
      by_contra hnone
      apply h
      intro i hi hmem
      rw [hbits] at hmem
      exact hnone (Or.inl (Set.mem_singleton_iff.mp hmem ▸ hi))
    · rintro (h2 | ⟨hd', -⟩) h
      · exact h 2 h2 (hbits ▸ rfl)
      · exact hd hd'

/-- Every listed device matches a mask with the GPU bit. -/
theorem matching_of_gpu {mask : CLDeviceType} (h : 2 ∈ mask.bits) :
    matching host mask = host.copyAllDevices := by
  apply List.filter_eq_self.mpr
  intro d _
  simpa using (sharesBit_deviceTypeOf host).mpr (Or.inl h)

/-- No device matches a mask with neither bit. -/
theorem matching_of_neither {mask : CLDeviceType} (h2 : 2 ∉ mask.bits) (h0 : 0 ∉ mask.bits) :
    matching host mask = [] := by
  apply List.filter_eq_nil_iff.mpr
  intro d _ hd
  rcases (sharesBit_deviceTypeOf host).mp (by simpa using hd) with h | ⟨-, h⟩
  · exact h2 h
  · exact h0 h

/-- The chosen device alone matches a mask with the default bit only. -/
theorem matching_of_default {mask : CLDeviceType} (h2 : 2 ∉ mask.bits) (h0 : 0 ∈ mask.bits)
    {d : Dev} (hd : chosenDevice host = some d) :
    matching host mask = List.replicate (host.copyAllDevices.count d) d := by
  have hfilter : matching host mask = host.copyAllDevices.filter (· == d) := by
    apply List.filter_congr
    intro e _
    rw [Bool.eq_iff_iff]
    simp only [decide_eq_true_eq, sharesBit_deviceTypeOf, h2, h0, hd, false_or, and_true,
      Option.some.injEq, beq_iff_eq]
    exact eq_comm
  rw [hfilter, List.filter_beq]

/-- A mask that is answered selects by the filter. -/
theorem filtersByType_of_answered {rt : Runtime Dev} (hv : rt.Valid host) (hup : ComesUp host)
    {mask : CLDeviceType} (hanswered : mask.Answered)
    (honce : mask.SelectsDefault → ∀ d, chosenDevice host = some d →
      host.copyAllDevices.count d = 1) : FiltersByType host rt mask := by
  rcases hv.devices_returns host hup mask with ⟨refs, rt', hrun⟩
  refine ⟨refs, rt', hrun, ?_⟩
  rcases hv.wrapped_devices host hrun with
    ⟨hlisted, hwrapped⟩ | ⟨hdefault, d, hd, hwrapped⟩ | ⟨hlisted, hdefault, rfl⟩
  · rw [hwrapped, matching_of_gpu host (contains_gpu_iff.mp hlisted.2)]
  · have h2 : 2 ∉ mask.bits := fun h => by
      simpa [hdefault.2.1] using contains_gpu_iff.mpr h
    rw [hwrapped, matching_of_default host h2 (contains_default_iff.mp hdefault.2.2) hd,
      honce hdefault d hd]
    rfl
  · have h2 : 2 ∉ mask.bits := fun h => hlisted ⟨hanswered, contains_gpu_iff.mpr h⟩
    have hgpu : mask.contains CLDeviceType.gpu = false :=
      Bool.eq_false_iff.mpr fun h => h2 (contains_gpu_iff.mp h)
    have h0 : 0 ∉ mask.bits := fun h => hdefault ⟨hanswered, hgpu, contains_default_iff.mpr h⟩
    rw [matching_of_neither host h2 h0]
    rfl

/-- **Selection is a filter, except for masks that mix classes.** On a machine
where the platform comes up and the default is one of the listed devices:

* `CLDevice.type` of every object is `deviceTypeOf` its Metal device;
* the filter by type is what a mask selects exactly if the mask is answered or
  has neither the GPU nor the default bit; a mask that is not answered selects
  nothing;
* adding bits to a mask removes no device as long as the larger mask is answered. -/
theorem devices_filter_iff {w : World Dev} (hw : Reachable host w) (hup : ComesUp host)
    (hlisted : ∀ d, chosenDevice host = some d → d ∈ host.copyAllDevices) :
    (∀ device : CLDevice Dev, ∃ rt', (device.type host).run w.runtime =
      .ok (deviceTypeOf host device.mtlDevice, rt')) ∧
    (∀ mask : CLDeviceType, (mask.SelectsDefault → ∀ d, chosenDevice host = some d →
        host.copyAllDevices.count d = 1) →
      (FiltersByType host w.runtime mask ↔ mask.Answered ∨
        (mask.contains CLDeviceType.gpu = false ∧ mask.contains CLDeviceType.default = false))) ∧
    (∀ mask : CLDeviceType, ¬ mask.Answered →
      (CLPlatform.devices host mask).run w.runtime = .ok ([], w.runtime)) ∧
    (∀ mask mask' : CLDeviceType, mask.bits ⊆ mask'.bits → mask'.Answered →
      ∀ refs rt₁ refs' rt₂, (CLPlatform.devices host mask).run w.runtime = .ok (refs, rt₁) →
        (CLPlatform.devices host mask').run w.runtime = .ok (refs', rt₂) →
        ∀ d, some d ∈ refs.map rt₁.wrapped → some d ∈ refs'.map rt₂.wrapped) := by
  have hv := hw.valid
  refine ⟨hv.type_returns host hup, ?_, fun _ h => devices_of_not_answered h, ?_⟩
  · intro mask honce
    constructor
    · intro h
      rcases h with ⟨refs, rt', hrun, hwrapped⟩
      by_contra hnot
      rw [not_or] at hnot
      rcases hnot with ⟨hanswered, hbits⟩
      obtain ⟨rfl, rfl⟩ : [] = refs ∧ w.runtime = rt' := by
        simpa using (devices_of_not_answered hanswered).symm.trans hrun
      have hnone : matching host mask = [] := by simpa using hwrapped.symm
      rcases exists_chosenDevice hup.devices_ne_nil with ⟨d, hd⟩
      -- the chosen device matches by whichever of the two bits is set
      have hmatch : d ∈ matching host mask := by
        apply List.mem_filter.mpr
        refine ⟨hlisted d hd, ?_⟩
        simp only [decide_eq_true_eq, sharesBit_deviceTypeOf]
        by_contra hno
        rw [not_or, not_and] at hno
        apply hbits
        exact ⟨Bool.eq_false_iff.mpr fun h => hno.1 (contains_gpu_iff.mp h),
          Bool.eq_false_iff.mpr fun h => hno.2 hd (contains_default_iff.mp h)⟩
      rw [hnone] at hmatch
      simp at hmatch
    · rintro (hanswered | ⟨hgpu, hdefault⟩)
      · exact filtersByType_of_answered host hv hup hanswered honce
      · by_cases hanswered : mask.Answered
        · exact filtersByType_of_answered host hv hup hanswered honce
        · refine ⟨[], w.runtime, devices_of_not_answered hanswered, ?_⟩
          have h2 : 2 ∉ mask.bits := fun h => by simpa [hgpu] using contains_gpu_iff.mpr h
          have h0 : 0 ∉ mask.bits := fun h => by simpa [hdefault] using contains_default_iff.mpr h
          rw [matching_of_neither host h2 h0]
          rfl
  · intro mask mask' hsub hanswered refs rt₁ refs' rt₂ h h' d hd
    exact devices_mono hv hlisted hsub hanswered h h' hd

/-- On one GPU, asking for GPUs and CPUs together does not filter by type: the
GPU matches the mask and is not returned. -/
theorem gpu_and_cpu_not_filtered :
    ¬ FiltersByType Host.oneGPU { platformDefault := some {} } ⟨0x6⟩ := by
  intro h
  rcases h with ⟨refs, rt', hrun, hwrapped⟩
  rcases Prod.mk.inj (Except.ok.inj hrun) with ⟨rfl, -⟩
  have hnone : matching Host.oneGPU ⟨0x6⟩ = [] := by simpa using hwrapped.symm
  exact absurd hnone (by decide)

/-- Of two GPUs, asking for the default device filters by type: the first GPU does not match
the mask, and is not returned. -/
theorem default_filtered :
    FiltersByType Host.twoGPUs { platformDefault := some {} } ⟨0x1⟩ ∧
      matching Host.twoGPUs ⟨0x1⟩ = [1] := by
  refine ⟨?_, by decide⟩
  have hup : ComesUp Host.twoGPUs := ⟨0, rfl, rfl, fun _ => rfl⟩
  have hchosen : chosenDevice Host.twoGPUs = some 1 := rfl
  have hlisted : ∀ d, chosenDevice Host.twoGPUs = some d → d ∈ Host.twoGPUs.copyAllDevices := by
    intro d hd
    obtain rfl : 1 = d := Option.some.inj (hchosen.symm.trans hd)
    decide
  have honce : ∀ d, chosenDevice Host.twoGPUs = some d →
      Host.twoGPUs.copyAllDevices.count d = 1 := by
    intro d hd
    obtain rfl : 1 = d := Option.some.inj (hchosen.symm.trans hd)
    decide
  rcases devices_filter_iff Host.twoGPUs (reachable_up Host.twoGPUs hup) hup hlisted with
    ⟨-, hfilter, -⟩
  exact (hfilter ⟨0x1⟩ fun _ => honce).mpr (Or.inl (by decide))

end Filter

/-! ## Support -/

/-- A client can obtain the device: from `devices(type:)` with some mask, or as
`CLDevice.default`. -/
def Published (rt : Runtime Dev) (d : Dev) : Prop :=
  (∃ mask refs rt', (CLPlatform.devices host mask).run rt = .ok (refs, rt') ∧
    some d ∈ refs.map rt'.wrapped) ∨
  ∃ r rt', (CLDevice.default host).run rt = .ok (r, rt') ∧ rt'.wrapped r = some d

/-- Two devices answer alike about the families the support check asks for. -/
def SameFamilies (d e : Dev) : Prop :=
  ∀ family ∈ [MTLGPUFamily.apple6, .apple7, .metal3],
    host.supportsFamily d family = host.supportsFamily e family

/-- The support check asks about nothing else. -/
theorem SameFamilies.supported {d e : Dev} (h : SameFamilies host d e) (he : Supported host e) :
    Supported host d := by
  rcases he with ⟨h3, h67⟩
  have hfamily : ∀ family ∈ [MTLGPUFamily.apple6, .apple7, .metal3],
      host.supportsFamily d family = host.supportsFamily e family := h
  simp only [List.forall_mem_cons, List.not_mem_nil, false_imp_iff, implies_true, and_true]
    at hfamily
  rcases hfamily with ⟨h6, h7, h3'⟩
  exact ⟨h3'.trans h3, fun hd => h7.trans (h67 (h6.symm.trans hd))⟩

section Support

variable {host} {rt : Runtime Dev}

/-- What is published is listed or chosen. -/
theorem Published.listed (hv : rt.Valid host) {d : Dev} (h : Published host rt d) :
    d ∈ host.copyAllDevices ∨ chosenDevice host = some d := by
  rcases h with ⟨mask, refs, rt', hrun, hmem⟩ | ⟨r, rt', hrun, hd⟩
  · rcases hv.wrapped_devices host hrun with ⟨-, hw⟩ | ⟨-, e, he, hw⟩ | ⟨-, -, rfl⟩
    · exact Or.inl (by simpa [hw] using hmem)
    · obtain rfl : d = e := by simpa [hw] using hmem
      exact Or.inr he
    · simp at hmem
  · rcases hv.wrapped_default hrun with ⟨e, he, hwrapped⟩
    rw [hd] at hwrapped
    exact Or.inr (he.trans hwrapped.symm)

/-- Every listed device is published. -/
theorem published_of_listed (hv : rt.Valid host) {d : Dev} (h : d ∈ host.copyAllDevices) :
    Published host rt d := by
  rcases hv._devices_returns with ⟨refs, rt', hrun, hwrap⟩
  have hdevices : (CLPlatform.devices host CLDeviceType.all).run rt = .ok (refs, rt') :=
    (CLPlatform.devices_eq_ok host).mpr (Or.inl ⟨by decide, hrun⟩)
  refine Or.inl ⟨CLDeviceType.all, refs, rt', hdevices, ?_⟩
  rw [hwrap]
  exact List.mem_map_of_mem h

/-- **The published devices** are the listed ones and the chosen one. -/
theorem published_iff (hv : rt.Valid host) (hup : ComesUp host) (d : Dev) :
    Published host rt d ↔ d ∈ host.copyAllDevices ∨ chosenDevice host = some d := by
  refine ⟨Published.listed hv, ?_⟩
  rintro (hd | hd)
  · exact published_of_listed hv hd
  · rcases CLDevice.default_returns hup rt with ⟨r, rt', hrun⟩
    rcases hv.wrapped_default hrun with ⟨e, he, hwrapped⟩
    obtain rfl : e = d := Option.some.inj (he.symm.trans hd)
    exact Or.inr ⟨r, rt', hrun, hwrapped⟩

/-- So they are all supported exactly if the listed ones and the chosen one are. -/
theorem published_all_supported_iff (hv : rt.Valid host) (hup : ComesUp host) :
    (∀ d, Published host rt d → Supported host d) ↔
      (∀ d ∈ host.copyAllDevices, Supported host d) ∧
        ∀ d, chosenDevice host = some d → Supported host d := by
  simp only [published_iff hv hup, or_imp, forall_and]

end Support

/-- **The initialiser checks one device, and publishes all.** Where
`CLPlatform.init` completes, the first listed device is supported. From every
reachable world the published devices are the listed ones and the chosen one; each
that answers about its families as the first one does is supported, and so all of
them are exactly if the listed ones and the chosen one are. -/
theorem published_supported [DecidableEq Dev] {rt rt' : Runtime Dev} {p : CLPlatform}
    (hinit : (CLPlatform.init host).run rt = .ok (p, rt')) :
    ∃ first, host.copyAllDevices.head? = some first ∧ Supported host first ∧
      ∀ w, Reachable host w →
        (∀ d, Published host w.runtime d ↔
          d ∈ host.copyAllDevices ∨ chosenDevice host = some d) ∧
        (∀ d, Published host w.runtime d → SameFamilies host d first → Supported host d) ∧
        ((∀ d, Published host w.runtime d → Supported host d) ↔
          (∀ d ∈ host.copyAllDevices, Supported host d) ∧
            ∀ d, chosenDevice host = some d → Supported host d) := by
  rcases (CLPlatform.init_eq_ok host).mp hinit with ⟨-, hup⟩
  have ⟨first, hfirst, hsupported⟩ := hup
  refine ⟨first, hfirst, hsupported, ?_⟩
  intro w hw
  -- only the first device was checked: the others are supported if they are like it
  exact ⟨published_iff hw.valid hup, fun d _ hsame => hsame.supported host hsupported,
    published_all_supported_iff hw.valid hup⟩

/-- The platform comes up on a first GPU with Metal 3, and publishes a second one
without it. -/
theorem unsupported_gpu_published :
    (CLPlatform.init Host.mixedGPUs).run {} = .ok ({}, {}) ∧
      Reachable Host.mixedGPUs (World.cleared { platformDefault := some {} }) ∧
      Published Host.mixedGPUs { platformDefault := some {} } 1 ∧
      ¬ Supported Host.mixedGPUs 1 := by
  refine ⟨rfl, reachable_up _ ⟨0, rfl, rfl, fun _ => rfl⟩, Or.inl ?_, fun h => ?_⟩
  · exact ⟨CLDeviceType.gpu, [0, 1], _, rfl, by decide⟩
  · exact absurd h.1 (by decide)

/-- Of two GPUs of one kind the second is published, and supported like the first. -/
theorem published_supported_twoGPUs :
    Published Host.twoGPUs { platformDefault := some {} } 1 ∧ Supported Host.twoGPUs 1 := by
  have hinit : (CLPlatform.init Host.twoGPUs).run {} = .ok ({}, {}) := rfl
  rcases published_supported Host.twoGPUs hinit with ⟨first, -, -, hworlds⟩
  have hup := reachable_up Host.twoGPUs ⟨0, rfl, rfl, fun _ => rfl⟩
  rcases hworlds _ hup with ⟨hpublished, hsame, -⟩
  have hsecond : Published Host.twoGPUs { platformDefault := some {} } 1 :=
    (hpublished 1).mpr (Or.inl (by decide))
  exact ⟨hsecond, hsame 1 hsecond fun _ _ => rfl⟩

end MoltenCL
