import MoltenCL.Device
import MoltenCL.Invariant

/-! # Selecting devices

How a device-type mask selects objects. `devices(type:)` takes one of three
branches, told apart by predicates on the mask alone (`SelectsListed`,
`SelectsDefault`), and `CLDevice.type` gives each object its own bits
(`deviceTypeOf`). On a platform that is up neither can trap.
-/

namespace MoltenCL

open Foundation Swift

variable {Dev : Type} (host : Host Dev)

/-! ## The chosen device -/

/-- The guess prefers a device of another vendor than Intel. -/
def preferred (device : Dev) : Bool := CLVendor.init host device ≠ .intel

section ChosenDevice

variable {host}

/-- A turn of the loop takes a preferred device, and any device into a hole. -/
theorem keepBest_eq (best : Option Dev) (device : Dev) :
    CLDevice.keepBest host best device =
      if preferred host device then some device else best.or (some device) := by
  cases hvendor : CLVendor.init host device with
  | apple => simp [CLDevice.keepBest, preferred, hvendor]
  | amd => simp [CLDevice.keepBest, preferred, hvendor]
  | intel => cases best <;> simp [CLDevice.keepBest, preferred, hvendor]

/-- After the loop the candidate is the last preferred device; without one it is the
candidate from before, or the first device. -/
theorem foldl_keepBest (l : List Dev) (best : Option Dev) :
    l.foldl (CLDevice.keepBest host) best =
      (l.filter (preferred host)).getLast?.or (best.or l.head?) := by
  induction l generalizing best with
  | nil => simp
  | cons device rest ih =>
      rw [List.foldl_cons, ih, keepBest_eq]
      cases hdevice : preferred host device with
      | true =>
          cases hlast : (rest.filter (preferred host)).getLast? <;>
            simp [hdevice, hlast, List.getLast?_cons]
      | false => cases best <;> simp [hdevice]

/-- The chosen device: the system default, or the last preferred device, or the first. -/
theorem chosenDevice_eq :
    chosenDevice host = host.createSystemDefaultDevice.or
      ((host.copyAllDevices.filter (preferred host)).getLast?.or host.copyAllDevices.head?) := by
  unfold chosenDevice
  cases host.createSystemDefaultDevice with
  | some d => rfl
  | none => rw [foldl_keepBest, Option.none_or, Option.none_or]

/-- A machine with a device has a chosen device. -/
theorem exists_chosenDevice (h : host.copyAllDevices ≠ []) : ∃ d, chosenDevice host = some d := by
  rcases Option.ne_none_iff_exists'.mp (mt List.head?_eq_none_iff.mp h) with ⟨first, hfirst⟩
  rw [← Option.isSome_iff_exists, chosenDevice_eq, hfirst, Option.isSome_or, Option.isSome_or]
  simp

/-- The chosen device is the system default or a listed device. -/
theorem chosenDevice_listed {d : Dev} (h : chosenDevice host = some d) :
    host.createSystemDefaultDevice = some d ∨
      host.createSystemDefaultDevice = none ∧ d ∈ host.copyAllDevices := by
  rw [chosenDevice_eq] at h
  rcases Option.or_eq_some_iff.mp h with hsys | ⟨hnone, hguess⟩
  · exact Or.inl hsys
  · right
    rcases Option.or_eq_some_iff.mp hguess with hlast | ⟨-, hfirst⟩
    · exact ⟨hnone, (List.mem_filter.mp (List.mem_of_getLast? hlast)).1⟩
    · exact ⟨hnone, List.mem_of_head? hfirst⟩

end ChosenDevice

/-! ## A platform that is up -/

section Returns

variable {host}

/-- A machine where the platform comes up has a device. -/
theorem ComesUp.devices_ne_nil (hup : ComesUp host) : host.copyAllDevices ≠ [] := by
  rcases hup with ⟨first, hfirst, -⟩
  rintro hnil
  simp [hnil] at hfirst

/-- On a machine where the platform comes up, `CLDevice.default` returns: there is a system
default, or the guess finds a candidate among the listed devices. -/
theorem CLDevice.default_returns (hup : ComesUp host) (rt : Runtime Dev) :
    ∃ r rt', (CLDevice.default host).run rt = .ok (r, rt') := by
  cases hc : rt.deviceDefault with
  | some r => exact ⟨r, rt, (CLDevice.default_eq_ok host).mpr (Or.inl ⟨hc, rfl⟩)⟩
  | none =>
      rcases exists_chosenDevice hup.devices_ne_nil with ⟨d, hd⟩
      rcases CLPlatform.default_returns host hup rt with ⟨up, hplatform⟩
      exact ⟨_, _, (CLDevice.default_eq_ok host).mpr
        (Or.inr ⟨hc, {}, up, d, hplatform, hd, rfl, rfl⟩)⟩

namespace Runtime.Valid

variable {rt : Runtime Dev}

/-- What `CLDevice.default` returns is an object around the chosen device. -/
theorem default_object (hv : rt.Valid host) {r : DeviceRef} {rt' : Runtime Dev}
    (h : (CLDevice.default host).run rt = .ok (r, rt')) :
    ∃ d, chosenDevice host = some d ∧ rt'.heap[r]? = some (newDevice host d) := by
  rcases CLDevice.default_respects host rt r rt' hv h with ⟨hv', -⟩
  exact hv'.default_wraps r (CLDevice.default_kept host h)

theorem wrapped_default (hv : rt.Valid host) {r : DeviceRef} {rt' : Runtime Dev}
    (h : (CLDevice.default host).run rt = .ok (r, rt')) :
    ∃ d, chosenDevice host = some d ∧ rt'.wrapped r = some d := by
  rcases CLDevice.default_respects host rt r rt' hv h with ⟨hv', -⟩
  exact hv'.wrapped_deviceDefault (CLDevice.default_kept host h)

/-- What `CLPlatform._devices` returns is the kept list of a valid runtime. -/
theorem _devices_listed (hv : rt.Valid host) {refs : List DeviceRef} {rt' : Runtime Dev}
    (h : (CLPlatform._devices host).run rt = .ok (refs, rt')) :
    rt'.Valid host ∧ rt'.platformDevices = some refs :=
  ⟨(CLPlatform._devices_respects host rt refs rt' hv h).1, CLPlatform._devices_kept host h⟩

/-- `CLDevice.default` only returns on a machine where the platform comes up. -/
theorem comesUp_of_default (hv : rt.Valid host) {r : DeviceRef} {rt' : Runtime Dev}
    (h : (CLDevice.default host).run rt = .ok (r, rt')) : ComesUp host := by
  rcases CLDevice.default_respects host rt r rt' hv h with ⟨hv', -⟩
  have hkept := CLDevice.default_kept host h
  exact hv'.up (hv'.default_up (by simp [hkept]))

/-- `CLPlatform._devices` always returns, with objects around the listed devices. -/
theorem _devices_returns (hv : rt.Valid host) :
    ∃ refs rt', (CLPlatform._devices host).run rt = .ok (refs, rt') ∧
      refs.map rt'.wrapped = host.copyAllDevices.map some := by
  have hreturns : ∃ refs rt', (CLPlatform._devices host).run rt = .ok (refs, rt') := by
    cases hc : rt.platformDevices with
    | some refs => exact ⟨refs, rt, (CLPlatform._devices_eq_ok host).mpr (Or.inl ⟨hc, rfl⟩)⟩
    | none => exact ⟨_, _, (CLPlatform._devices_eq_ok host).mpr (Or.inr ⟨hc, rfl, rfl⟩)⟩
  rcases hreturns with ⟨refs, rt', hrun⟩
  rcases hv._devices_listed hrun with ⟨hv', hkept⟩
  exact ⟨refs, rt', hrun, hv'.wrapped_listed hkept⟩

end Runtime.Valid

end Returns

/-! ## Masks -/

namespace CLDeviceType

/-- The mask is everything, or asks for no class the platform lacks. -/
def Answered (type : CLDeviceType) : Prop := type = all ∨ type.intersection absent = .empty

/-- The mask selects the listed objects. -/
def SelectsListed (type : CLDeviceType) : Prop := type.Answered ∧ type.contains gpu = true

/-- The mask selects the default object. -/
def SelectsDefault (type : CLDeviceType) : Prop :=
  type.Answered ∧ type.contains gpu = false ∧ type.contains default = true

instance (type : CLDeviceType) : Decidable type.Answered := inferInstanceAs (Decidable (_ ∨ _))

instance (type : CLDeviceType) : Decidable type.SelectsListed :=
  inferInstanceAs (Decidable (_ ∧ _))

instance (type : CLDeviceType) : Decidable type.SelectsDefault :=
  inferInstanceAs (Decidable (_ ∧ _))

/-- No mask selects both. -/
theorem SelectsListed.not_selectsDefault {type : CLDeviceType} (h : type.SelectsListed) :
    ¬ type.SelectsDefault := by
  intro hd
  exact absurd (h.2.symm.trans hd.2.1) (by decide)

end CLDeviceType

/-- `devices(type:)` decides by the mask alone which static it uses. -/
theorem CLPlatform.devices_eq (type : CLDeviceType) :
    CLPlatform.devices host type =
      if type.SelectsListed then CLPlatform._devices host
      else if type.SelectsDefault then CLDevice.default host >>= fun r => pure [r]
      else pure [] := by
  -- the guard first, then the two bits the code looks at
  by_cases hanswered : type = CLDeviceType.all ∨
      type.intersection CLDeviceType.absent = .empty
  · cases hgpu : type.contains CLDeviceType.gpu <;>
      cases hdefault : type.contains CLDeviceType.default <;>
        simp [CLPlatform.devices, CLDeviceType.SelectsListed, CLDeviceType.SelectsDefault,
          CLDeviceType.Answered, hanswered, hgpu, hdefault]
  · simp [CLPlatform.devices, CLDeviceType.SelectsListed, CLDeviceType.SelectsDefault,
      CLDeviceType.Answered, hanswered]

/-- The three ways in which `devices(type:)` returns. -/
theorem CLPlatform.devices_eq_ok {type : CLDeviceType} {rt rt' : Runtime Dev}
    {refs : List DeviceRef} :
    (CLPlatform.devices host type).run rt = .ok (refs, rt') ↔
      (type.SelectsListed ∧ (CLPlatform._devices host).run rt = .ok (refs, rt')) ∨
      (type.SelectsDefault ∧ ∃ r, (CLDevice.default host).run rt = .ok (r, rt') ∧ refs = [r]) ∨
      (¬ type.SelectsListed ∧ ¬ type.SelectsDefault ∧ refs = [] ∧ rt' = rt) := by
  rw [CLPlatform.devices_eq]
  split_ifs with hlisted hdefault
  · simp [hlisted, hlisted.not_selectsDefault]
  · simp only [hlisted, hdefault, false_and, true_and, not_true, and_false, or_false, false_or,
      run_bind_eq_ok, StateT.run_pure, pure_eq_ok, Except.ok.injEq, Prod.mk.injEq]
    constructor
    · intro h
      rcases h with ⟨r, t, hrun, rfl, rfl⟩
      exact ⟨r, hrun, rfl⟩
    · intro h
      rcases h with ⟨r, hrun, rfl⟩
      exact ⟨r, rt', hrun, rfl, rfl⟩
  · simp [hlisted, hdefault, pure_eq_ok, eq_comm]

/-- A second `devices(type:)` returns the same objects. -/
theorem CLPlatform.devices_again {type : CLDeviceType} {rt rt' : Runtime Dev}
    {refs : List DeviceRef} (h : (CLPlatform.devices host type).run rt = .ok (refs, rt')) :
    (CLPlatform.devices host type).run rt' = .ok (refs, rt') := by
  rcases (CLPlatform.devices_eq_ok host).mp h with
    ⟨hlisted, hrun⟩ | ⟨hdefault, r, hrun, hrefs⟩ | ⟨-, -, -, rfl⟩
  · exact (CLPlatform.devices_eq_ok host).mpr (Or.inl ⟨hlisted, once_again hrun⟩)
  · exact (CLPlatform.devices_eq_ok host).mpr
      (Or.inr (Or.inl ⟨hdefault, r, once_again hrun, hrefs⟩))
  · exact h

/-- The objects returned are different objects. -/
theorem Runtime.Valid.devices_nodup_of_run {rt rt' : Runtime Dev} (hv : rt.Valid host)
    {type : CLDeviceType} {refs : List DeviceRef}
    (h : (CLPlatform.devices host type).run rt = .ok (refs, rt')) : refs.Nodup := by
  rcases (CLPlatform.devices_eq_ok host).mp h with
    ⟨-, hrun⟩ | ⟨-, r, -, rfl⟩ | ⟨-, -, rfl, -⟩
  · rcases hv._devices_listed hrun with ⟨hv', hkept⟩
    exact hv'.devices_nodup refs hkept
  · exact List.nodup_singleton r
  · exact List.nodup_nil

/-- There are no more objects than listed devices, or one. -/
theorem Runtime.Valid.length_devices_le {rt rt' : Runtime Dev} (hv : rt.Valid host)
    {type : CLDeviceType} {refs : List DeviceRef}
    (h : (CLPlatform.devices host type).run rt = .ok (refs, rt')) :
    refs.length ≤ max 1 host.copyAllDevices.length := by
  rcases (CLPlatform.devices_eq_ok host).mp h with
    ⟨-, hrun⟩ | ⟨-, r, -, rfl⟩ | ⟨-, -, rfl, -⟩
  · rcases hv._devices_listed hrun with ⟨hv', hkept⟩
    rw [hv'.length_devices hkept]
    exact Nat.le_max_right _ _
  · exact Nat.le_max_left _ _
  · exact Nat.zero_le _

/-- On a machine where the platform comes up, `devices(type:)` returns for every mask. -/
theorem Runtime.Valid.devices_returns {rt : Runtime Dev} (hv : rt.Valid host)
    (hup : ComesUp host) (type : CLDeviceType) :
    ∃ refs rt', (CLPlatform.devices host type).run rt = .ok (refs, rt') := by
  by_cases hlisted : type.SelectsListed
  · rcases hv._devices_returns with ⟨refs, rt', hrun, -⟩
    exact ⟨refs, rt', (CLPlatform.devices_eq_ok host).mpr (Or.inl ⟨hlisted, hrun⟩)⟩
  · by_cases hdefault : type.SelectsDefault
    · rcases CLDevice.default_returns hup rt with ⟨r, rt', hrun⟩
      exact ⟨[r], rt',
        (CLPlatform.devices_eq_ok host).mpr (Or.inr (Or.inl ⟨hdefault, r, hrun, rfl⟩))⟩
    · exact ⟨[], rt, (CLPlatform.devices_eq_ok host).mpr
        (Or.inr (Or.inr ⟨hlisted, hdefault, rfl, rfl⟩))⟩

/-- What `devices(type:)` returns, device by device: all listed devices, the
chosen device, or nothing. -/
theorem Runtime.Valid.wrapped_devices {rt rt' : Runtime Dev} (hv : rt.Valid host)
    {type : CLDeviceType} {refs : List DeviceRef}
    (h : (CLPlatform.devices host type).run rt = .ok (refs, rt')) :
    (type.SelectsListed ∧ refs.map rt'.wrapped = host.copyAllDevices.map some) ∨
    (type.SelectsDefault ∧ ∃ d, chosenDevice host = some d ∧ refs.map rt'.wrapped = [some d]) ∨
    (¬ type.SelectsListed ∧ ¬ type.SelectsDefault ∧ refs = []) := by
  rcases (CLPlatform.devices_eq_ok host).mp h with
    ⟨hlisted, hrun⟩ | ⟨hdefault, r, hrun, rfl⟩ | ⟨hlisted, hdefault, hnil, -⟩
  · rcases hv._devices_listed hrun with ⟨hv', hkept⟩
    exact Or.inl ⟨hlisted, hv'.wrapped_listed hkept⟩
  · rcases hv.wrapped_default hrun with ⟨d, hd, hwrapped⟩
    exact Or.inr (Or.inl ⟨hdefault, d, hd, by rw [List.map_singleton, hwrapped]⟩)
  · exact Or.inr (Or.inr ⟨hlisted, hdefault, hnil⟩)

/-! ## Types of devices -/

/-- Reading an object changes nothing. -/
theorem Runtime.object_eq_ok {ref : DeviceRef} {rt rt' : Runtime Dev} {d : CLDevice Dev} :
    (Runtime.object ref).run rt = .ok (d, rt') ↔ rt.heap[ref]? = some d ∧ rt' = rt := by
  cases h : rt.heap[ref]? with
  | none => simp [Runtime.object, h]
  | some e => simp [Runtime.object, h, pure_eq_ok, eq_comm]

section DeviceType

variable [DecidableEq Dev]

/-- The type of a Metal device: the default bit goes to the chosen device. -/
def deviceTypeOf (d : Dev) : CLDeviceType :=
  if chosenDevice host = some d then CLDeviceType.gpu.union CLDeviceType.default
  else CLDeviceType.gpu

/-- `CLDevice.type` uses `CLDevice.default` and changes nothing else. -/
theorem CLDevice.type_eq_ok {device : CLDevice Dev} {rt rt' : Runtime Dev} (hv : rt.Valid host)
    {type : CLDeviceType} :
    (device.type host).run rt = .ok (type, rt') ↔
      type = deviceTypeOf host device.mtlDevice ∧
        ∃ r, (CLDevice.default host).run rt = .ok (r, rt') := by
  have hlast : ∀ d (t : Runtime Dev), chosenDevice host = some d →
      (if device.mtlDevice = d then pure (CLDeviceType.gpu.union CLDeviceType.default)
        else pure CLDeviceType.gpu : Swift (Runtime Dev) CLDeviceType).run t =
        .ok (deviceTypeOf host device.mtlDevice, t) := by
    intro d t hd
    by_cases heq : device.mtlDevice = d
    · simp [deviceTypeOf, hd, heq, pure_eq_ok]
    · simp [deviceTypeOf, hd, heq, Ne.symm heq, pure_eq_ok]
  simp only [CLDevice.type, run_bind_eq_ok, Runtime.object_eq_ok]
  constructor
  · intro h
    rcases h with ⟨r, t, hrun, object, u, ⟨hobject, rfl⟩, htype⟩
    -- the default object wraps the chosen device
    rcases hv.default_object hrun with ⟨d, hd, hnew⟩
    obtain rfl : newDevice host d = object := by simpa [hnew] using hobject
    have hok := (hlast d u hd).symm.trans htype
    obtain ⟨rfl, rfl⟩ : deviceTypeOf host device.mtlDevice = type ∧ u = rt' := by simpa using hok
    exact ⟨rfl, r, hrun⟩
  · intro h
    rcases h with ⟨rfl, r, hrun⟩
    rcases hv.default_object hrun with ⟨d, hd, hnew⟩
    exact ⟨r, rt', hrun, newDevice host d, rt', ⟨hnew, rfl⟩, hlast d rt' hd⟩

/-- On a machine where the platform comes up, the type of every device can be read. -/
theorem Runtime.Valid.type_returns {rt : Runtime Dev} (hv : rt.Valid host)
    (hup : ComesUp host) (device : CLDevice Dev) :
    ∃ rt', (device.type host).run rt = .ok (deviceTypeOf host device.mtlDevice, rt') := by
  rcases CLDevice.default_returns hup rt with ⟨r, rt', hrun⟩
  exact ⟨rt', (CLDevice.type_eq_ok host hv).mpr ⟨rfl, r, hrun⟩⟩

end DeviceType

end MoltenCL
