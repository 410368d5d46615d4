import MoltenCL.Host
import MoltenCL.Version
import MoltenCL.Foundation.Swift

/-! # Objects and statics

The state of the library inside its process: the `CLDevice` objects created so
far and the lazily initialised statics of `CLPlatform` and `CLDevice`. A handle
is a reference to an object, modelled by its place in the order of creation, so two
handles are equal exactly when they are the same object. The heap never frees: the
statics keep their objects, and one that a client has released stays in its place.

The initialisers probe Metal independently of each other and may trap. The only
one that looks at GPU families before anything is published is
`CLPlatform.init`, and it looks at the first listed device only.
-/

namespace MoltenCL

open Foundation Swift

/-- A reference to a `CLDevice` object, which is also its `cl_device_id`. -/
abbrev DeviceRef := ℕ

/-- A `CLDevice` object. -/
structure CLDevice (Dev : Type) where
  mtlDevice : Dev
  referenceCount : ℤ
  vendor : CLVendor
deriving DecidableEq

/-- A `CLPlatform` object. The class has no stored property, and the only
instance is `CLPlatform.default`. -/
structure CLPlatform where
deriving DecidableEq

/-- The objects and the statics of the process; `none` is a static that has not
been used yet. -/
structure Runtime (Dev : Type) where
  /-- the objects created, in order -/
  heap : List (CLDevice Dev) := []
  /-- `CLPlatform.default` -/
  platformDefault : Option CLPlatform := none
  /-- `CLDevice.default` -/
  deviceDefault : Option DeviceRef := none
  /-- `CLPlatform._devices` -/
  platformDevices : Option (List DeviceRef) := none
  /-- `CLPlatform._extensionsWithVersion` -/
  extensionsWithVersion : Option (List CLNameVersion) := none
  /-- `CLPlatform._extensions` -/
  extensions : Option (List SwiftString) := none

namespace Runtime

variable {Dev : Type}

def platformDefaultSlot : Slot (Runtime Dev) (Option CLPlatform) where
  get rt := rt.platformDefault
  put v rt := { rt with platformDefault := v }
  get_put _ _ := rfl
  put_put _ _ _ := rfl
  put_get _ := rfl

def deviceDefaultSlot : Slot (Runtime Dev) (Option DeviceRef) where
  get rt := rt.deviceDefault
  put v rt := { rt with deviceDefault := v }
  get_put _ _ := rfl
  put_put _ _ _ := rfl
  put_get _ := rfl

def platformDevicesSlot : Slot (Runtime Dev) (Option (List DeviceRef)) where
  get rt := rt.platformDevices
  put v rt := { rt with platformDevices := v }
  get_put _ _ := rfl
  put_put _ _ _ := rfl
  put_get _ := rfl

def extensionsWithVersionSlot : Slot (Runtime Dev) (Option (List CLNameVersion)) where
  get rt := rt.extensionsWithVersion
  put v rt := { rt with extensionsWithVersion := v }
  get_put _ _ := rfl
  put_put _ _ _ := rfl
  put_get _ := rfl

def extensionsSlot : Slot (Runtime Dev) (Option (List SwiftString)) where
  get rt := rt.extensions
  put v rt := { rt with extensions := v }
  get_put _ _ := rfl
  put_put _ _ _ := rfl
  put_get _ := rfl

/-- `takeUnretainedValue`: the object a handle refers to. -/
def object (ref : DeviceRef) : Swift (Runtime Dev) (CLDevice Dev) := do
  match (← get).heap[ref]? with
  | some device => pure device
  | none => throw .danglingReference

end Runtime

variable {Dev : Type} (host : Host Dev)

/-! ## `CLPlatform` -/

namespace CLPlatform

/-- `CLPlatform.init`: the support check, on the first listed device. -/
def init : Swift (Runtime Dev) CLPlatform := do
  let device ← unwrap host.copyAllDevices.head?
  if host.supportsFamily device .apple6 && !host.supportsFamily device .apple7 then
    throw (.fatalError "A13 is not compatible with MoltenCL.")
  if !host.supportsFamily device .metal3 then
    throw (.fatalError ("Metal device '" ++ host.name device ++ "' does not support Metal 3."))
  return {}

/-- `CLPlatform.default`. -/
def default : Swift (Runtime Dev) CLPlatform :=
  once Runtime.platformDefaultSlot (init host)

end CLPlatform

/-! ## `CLDevice` -/

namespace CLDevice

/-- `CLDevice.init(mtlDevice:)`: a new object. -/
def init (mtlDevice : Dev) : Swift (Runtime Dev) DeviceRef := do
  let rt ← get
  set { rt with heap := rt.heap ++ [CLDevice.mk mtlDevice 0 (CLVendor.init host mtlDevice)] }
  return rt.heap.length

/-- One turn of the loop that guesses the best device: any device that is not
Intel replaces the candidate, an Intel device only fills a hole. -/
def keepBest (bestCandidate : Option Dev) (device : Dev) : Option Dev :=
  match CLVendor.init host device with
  | .apple => some device
  | .amd => some device
  | .intel => if bestCandidate.isNone then some device else bestCandidate

/-- `CLDevice.default`: the system default, or the best guess where Metal has
none, as in command-line applications. -/
def default : Swift (Runtime Dev) DeviceRef :=
  once Runtime.deviceDefaultSlot do
    let _ ← CLPlatform.default host
    match host.createSystemDefaultDevice with
    | some device => init host device
    | none =>
        match host.copyAllDevices.foldl (keepBest host) none with
        | some bestCandidate => init host bestCandidate
        | none => throw (.fatalError "No Metal device found.")

end CLDevice

namespace CLPlatform

/-- `CLPlatform._devices`: a new object for each listed device. -/
def _devices : Swift (Runtime Dev) (List DeviceRef) :=
  once Runtime.platformDevicesSlot (host.copyAllDevices.mapM (CLDevice.init host))

/-- `devices(type:)`. -/
def devices (type : CLDeviceType) : Swift (Runtime Dev) (List DeviceRef) := do
  if type = CLDeviceType.all ∨ type.intersection CLDeviceType.absent = .empty then
    if type.contains CLDeviceType.gpu then
      return (← _devices host)
    else if type.contains CLDeviceType.default then
      return [← CLDevice.default host]
  return []

/-! ### Extensions -/

/-- The names of the extensions every device has, all of version 1.0.0. -/
def extensionNames : List String :=
  ["cl_khr_3d_image_writes",
   "cl_khr_async_work_group_copy_fence",
   "cl_khr_byte_addressable_store",
   "cl_khr_create_command_queue",
   "cl_khr_depth_images",
   "cl_khr_device_uuid",
   "cl_khr_extended_bit_ops",
   "cl_khr_extended_versioning",
   "cl_khr_expect_assume",
   "cl_khr_fp16",
   "cl_khr_fp64",
   "cl_khr_global_int32_base_atomics",
   "cl_khr_global_int32_extended_atomics",
   "cl_khr_il_program",
   "cl_khr_image2d_from_buffer",
   "cl_khr_local_int32_base_atomics",
   "cl_khr_local_int32_extended_atomics",
   "cl_khr_mipmap_image",
   "cl_khr_mipmap_image_writes",
   "cl_khr_spir",
   "cl_khr_srgb_image_writes",
   "cl_khr_subgroups",
   "cl_khr_subgroup_ballot",
   "cl_khr_subgroup_clustered_reduce",
   "cl_khr_subgroup_extended_types",
   "cl_khr_subgroup_named_barrier",
   "cl_khr_subgroup_non_uniform_arithmetic",
   "cl_khr_subgroup_non_uniform_vote",
   "cl_khr_subgroup_rotate",
   "cl_khr_subgroup_shuffle",
   "cl_khr_subgroup_shuffle_relative",
   "cl_khr_work_group_uniform_arithmetic"]

/-- `CLPlatform._extensionsWithVersion`, which unwraps the system default device. -/
def _extensionsWithVersion : Swift (Runtime Dev) (List CLNameVersion) :=
  once Runtime.extensionsWithVersionSlot do
    let v1_0_0 : CLVersion := { major := 1, minor := 0, patch := some 0 }
    let device ← unwrap host.createSystemDefaultDevice
    let apple7 :=
      if host.supportsFamily device .apple7 then ["cl_apple_subgroup_matrix"] else []
    let apple8 :=
      if host.supportsFamily device .apple8 then ["cl_apple_subgroup_shuffle_and_fill"] else []
    return (extensionNames ++ apple7 ++ apple8).map fun name => ⟨v1_0_0, .ofLiteral name⟩

/-- `CLPlatform._extensions`. -/
def _extensions : Swift (Runtime Dev) (List SwiftString) :=
  once Runtime.extensionsSlot do
    return (← _extensionsWithVersion host).map CLNameVersion.name

end CLPlatform

end MoltenCL
