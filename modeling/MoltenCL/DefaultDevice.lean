import MoltenCL.Session

/-! # The default device

Which Metal device `CLDevice.default` wraps, and which of the listed devices carry the
default bit in their type (`default_selection`). Where Metal has no system default the
guess is a fold over the listed devices; it comes down to the last device that is not
Intel, or the first one if all are (`chosenDevice_eq`).
-/

namespace MoltenCL

open Foundation Swift

variable {Dev : Type} (host : Host Dev)

/-! ## The guess -/

/-- The guess is the last preferred device, or an Intel one if there is no other. -/
theorem chosenDevice_guess (hsys : host.createSystemDefaultDevice = none) {d : Dev}
    (h : chosenDevice host = some d) :
    (CLVendor.init host d = .intel → ∀ e ∈ host.copyAllDevices, CLVendor.init host e = .intel) ∧
      ((∃ e ∈ host.copyAllDevices, CLVendor.init host e ≠ .intel) →
        (host.copyAllDevices.filter (preferred host)).getLast? = some d) := by
  have hguess : (host.copyAllDevices.filter (preferred host)).getLast?.or
      host.copyAllDevices.head? = some d := by
    rw [chosenDevice_eq, hsys, Option.none_or] at h
    exact h
  cases hlast : (host.copyAllDevices.filter (preferred host)).getLast? with
  | none =>
      have hall : ∀ e ∈ host.copyAllDevices, CLVendor.init host e = .intel := by
        simpa [preferred] using hlast
      refine ⟨fun _ => hall, fun hother => ?_⟩
      rcases hother with ⟨e, he, hne⟩
      exact absurd (hall e he) hne
  | some last =>
      obtain rfl : last = d := by simpa [hlast] using hguess
      -- the last preferred device is preferred, so it is not an Intel one
      have hpreferred := (List.mem_filter.mp (List.mem_of_getLast? hlast)).2
      have hne : CLVendor.init host last ≠ .intel := by simpa [preferred] using hpreferred
      exact ⟨fun hintel => absurd hintel hne, fun _ => rfl⟩

/-! ## The default bit -/

section Types

variable [DecidableEq Dev]

/-- The type of the device behind a handle. -/
def handleType (ref : DeviceRef) : Swift (Runtime Dev) CLDeviceType := do
  (← Runtime.object ref).type host

variable {host} {rt : Runtime Dev}

theorem run_handleType (hv : rt.Valid host) (hup : ComesUp host) {ref : DeviceRef} {d : Dev}
    (hd : rt.wrapped ref = some d) :
    ∃ rt', (handleType host ref).run rt = .ok (deviceTypeOf host d, rt') ∧ rt'.Valid host ∧
      rt.Grows rt' := by
  rcases Option.map_eq_some_iff.mp hd with ⟨device, hobject, rfl⟩
  rcases hv.type_returns host hup device with ⟨rt', htype⟩
  rcases (CLDevice.type_eq_ok host hv).mp htype with ⟨-, r, hdefault⟩
  rcases CLDevice.default_respects host rt r rt' hv hdefault with ⟨hv', hgrows⟩
  have hread : (Runtime.object ref).run rt = .ok (device, rt) :=
    Runtime.object_eq_ok.mpr ⟨hobject, rfl⟩
  exact ⟨rt', run_bind_eq_ok.mpr ⟨device, rt, hread, htype⟩, hv', hgrows⟩

/-- Reading the types of a list of handles, one after the other. -/
theorem run_mapM_handleType (hv : rt.Valid host) (hup : ComesUp host) {refs : List DeviceRef}
    {devices : List Dev} (hwrapped : refs.map rt.wrapped = devices.map some) :
    ∃ rt', (refs.mapM (handleType host)).run rt = .ok (devices.map (deviceTypeOf host), rt') := by
  induction refs generalizing rt devices with
  | nil =>
      obtain rfl : devices = [] := by simpa using hwrapped.symm
      exact ⟨rt, rfl⟩
  | cons ref refs ih =>
      cases devices with
      | nil => simp at hwrapped
      | cons d devices =>
          rcases List.cons.inj hwrapped with ⟨hd, hrest⟩
          rcases run_handleType hv hup hd with ⟨t, hrun, ht, hgrows⟩
          -- the rest of the list still wraps the same devices
          have hlater : refs.map t.wrapped = devices.map some := by
            rw [← hrest]
            apply List.map_congr_left
            intro r hr
            have hmem : rt.wrapped r ∈ devices.map some := hrest ▸ List.mem_map_of_mem hr
            rcases List.mem_map.mp hmem with ⟨e, -, he⟩
            rw [← he]
            exact hgrows.wrapped he.symm
          rcases ih ht hlater with ⟨rt', hmap⟩
          refine ⟨rt', ?_⟩
          rw [List.mapM_cons, StateT.run_bind, hrun, ok_bind, StateT.run_bind, hmap, ok_bind]
          rfl

/-- The default bit tells the chosen device. -/
theorem contains_default_deviceTypeOf (d : Dev) :
    (deviceTypeOf host d).contains CLDeviceType.default = true ↔ chosenDevice host = some d := by
  by_cases hd : chosenDevice host = some d
  · rw [deviceTypeOf, if_pos hd]
    exact iff_of_true (by decide) hd
  · rw [deviceTypeOf, if_neg hd]
    exact iff_of_false (by decide) hd

end Types

/-! ## The selection -/

/-- What a client relies on about the default device. -/
structure DefaultSelection [DecidableEq Dev] (rt : Runtime Dev) : Prop where
  /-- the default object wraps a listed device, which without a system default is the
  last one that is not Intel, and an Intel one only if all are -/
  wraps : ∃ r rt' d, (CLDevice.default host).run rt = .ok (r, rt') ∧ rt'.wrapped r = some d ∧
    d ∈ host.copyAllDevices ∧
    (host.createSystemDefaultDevice = none →
      (CLVendor.init host d = .intel →
        ∀ e ∈ host.copyAllDevices, CLVendor.init host e = .intel) ∧
      ((∃ e ∈ host.copyAllDevices, CLVendor.init host e ≠ .intel) →
        (host.copyAllDevices.filter (preferred host)).getLast? = some d))
  /-- the type of exactly one device of the platform has the default bit -/
  flag : ∃ refs rt₁ types rt₂,
    (CLPlatform.devices host CLDeviceType.gpu).run rt = .ok (refs, rt₁) ∧
    (refs.mapM (handleType host)).run rt₁ = .ok (types, rt₂) ∧
    types.countP (·.contains CLDeviceType.default) = 1

/-- **Default device selection**, whatever has been used before. -/
theorem default_selection [DecidableEq Dev] {w : World Dev} (hw : Reachable host w)
    (hup : ComesUp host) (hnodup : host.copyAllDevices.Nodup)
    (hsys : ∀ d, host.createSystemDefaultDevice = some d → d ∈ host.copyAllDevices) :
    DefaultSelection host w.runtime := by
  have hv := hw.valid
  have hlisted : ∀ d, chosenDevice host = some d → d ∈ host.copyAllDevices := by
    intro d hd
    rcases chosenDevice_listed hd with hsystem | ⟨-, hmem⟩
    · exact hsys d hsystem
    · exact hmem
  constructor
  · rcases CLDevice.default_returns hup w.runtime with ⟨r, rt', hrun⟩
    rcases hv.wrapped_default hrun with ⟨d, hd, hwrapped⟩
    exact ⟨r, rt', d, hrun, hwrapped, hlisted d hd, fun hnone => chosenDevice_guess host hnone hd⟩
  · rcases hv._devices_returns with ⟨refs, rt₁, hrun, hwrapped⟩
    rcases CLPlatform._devices_respects host _ refs rt₁ hv hrun with ⟨hv₁, -⟩
    rcases run_mapM_handleType hv₁ hup hwrapped with ⟨rt₂, htypes⟩
    have hdevices : (CLPlatform.devices host CLDeviceType.gpu).run w.runtime = .ok (refs, rt₁) :=
      (CLPlatform.devices_eq_ok host).mpr (Or.inl ⟨by decide, hrun⟩)
    refine ⟨refs, rt₁, _, rt₂, hdevices, htypes, ?_⟩
    rcases exists_chosenDevice hup.devices_ne_nil with ⟨d, hd⟩
    -- the chosen device is listed once
    have hcount : host.copyAllDevices.countP
        (fun e => (deviceTypeOf host e).contains CLDeviceType.default) =
          host.copyAllDevices.count d := by
      apply List.countP_congr
      intro e _
      rw [contains_default_deviceTypeOf, hd, beq_iff_eq, Option.some.injEq]
      exact eq_comm
    rw [List.countP_map]
    exact hcount.trans (List.count_eq_one_of_mem hnodup (hlisted d hd))

/-- A machine with an AMD GPU and an Intel one, and no system default. -/
def Host.amdAndIntel : Host ℕ :=
  { Host.twoGPUs with
    arm64 := false
    isLowPower := fun d => d == 1 }

/-- In a fresh process on that machine. -/
theorem default_selection_amdAndIntel : DefaultSelection Host.amdAndIntel {} :=
  default_selection Host.amdAndIntel (.fresh (World.cleared {}) rfl)
    ⟨0, rfl, rfl, fun _ => rfl⟩ (by decide) (by rintro d ⟨⟩)

end MoltenCL
