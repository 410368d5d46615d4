import MoltenCL.Foundation.OptionSet

/-! # The host

What the library asks of the machine it runs on: the Metal framework, the
architecture it was built for and the clock. `Dev` is the type of Metal device
objects, and equality on it is object identity (`===`); two GPUs with the same
attributes are still two devices.

Every call to Metal is taken to return the same answer each time: a machine whose devices
come and go while the process runs is not modelled.
-/

namespace MoltenCL

open Foundation

/-- The GPU families the library tests for. -/
inductive MTLGPUFamily where
  | apple6
  | apple7
  | apple8
  | metal3
deriving DecidableEq, Repr

/-- The extent of a grid of threads. -/
structure MTLSize where
  width : Int64
  height : Int64
  depth : Int64

/-- The machine as the library sees it, with answers that stay the same. -/
structure Host (Dev : Type) where
  /-- `#if arch(arm64)` -/
  arm64 : Bool
  /-- `MTLCopyAllDevices()` -/
  copyAllDevices : List Dev
  /-- `MTLCreateSystemDefaultDevice()` -/
  createSystemDefaultDevice : Option Dev
  supportsFamily : Dev → MTLGPUFamily → Bool
  name : Dev → String
  isLowPower : Dev → Bool
  maxThreadsPerThreadgroup : Dev → MTLSize
  recommendedMaxWorkingSetSize : Dev → UInt64
  maxBufferLength : Dev → Int64
  /-- `minimumLinearTextureAlignment(for: .r8Uint)` -/
  minimumLinearTextureAlignment : Dev → Int64
  /-- `mach_timebase_info`: numerator and denominator -/
  machTimebaseInfo : UInt32 × UInt32

/-- An Apple machine with numbered GPUs that differ only in their families. -/
def Host.numbered (gpus : List ℕ) (systemDefault : Option ℕ)
    (supportsFamily : ℕ → MTLGPUFamily → Bool) : Host ℕ where
  arm64 := true
  copyAllDevices := gpus
  createSystemDefaultDevice := systemDefault
  supportsFamily := supportsFamily
  name _ := "GPU"
  isLowPower _ := false
  maxThreadsPerThreadgroup _ := ⟨1024, 1024, 1024⟩
  recommendedMaxWorkingSetSize _ := 0x200000000
  maxBufferLength _ := 0x100000000
  minimumLinearTextureAlignment _ := 16
  machTimebaseInfo := (125, 3)

/-- One GPU of every family, and no system default. -/
def Host.oneGPU : Host ℕ := .numbered [0] none fun _ _ => true

/-- Two GPUs of every family, and no system default. -/
def Host.twoGPUs : Host ℕ := .numbered [0, 1] none fun _ _ => true

/-- Two GPUs, of which the second does not have Metal 3. -/
def Host.mixedGPUs : Host ℕ := .numbered [0, 1] none fun d family => family ≠ .metal3 || d == 0

/-- Vendors, for vendor-specific quirks. -/
inductive CLVendor where
  | apple
  | intel
  | amd
deriving DecidableEq, Repr

/-- `CLVendor.init(mtlDevice:)`. -/
def CLVendor.init {Dev : Type} (host : Host Dev) (mtlDevice : Dev) : CLVendor :=
  if host.arm64 then .apple
  else if host.isLowPower mtlDevice then .intel
  else .amd

/-! ## Device types -/

/-- `CLDeviceType`: an option set over the 64 bits of a `cl_device_type`. -/
abbrev CLDeviceType := OptionSet 64

namespace CLDeviceType

-- the macros `CL_DEVICE_TYPE_*` are `1 << 0` to `1 << 4`
def default : CLDeviceType := .flag 0
def cpu : CLDeviceType := .flag 1
def gpu : CLDeviceType := .flag 2
def accelerator : CLDeviceType := .flag 3
def custom : CLDeviceType := .flag 4

/-- `CL_DEVICE_TYPE_ALL` sets the low 32 bits. -/
def all : CLDeviceType := ⟨0xFFFFFFFF⟩

/-- `CLDeviceType(rawValue:)`. -/
def ofRawValue (deviceType : UInt64) : CLDeviceType := ⟨deviceType.toBitVec⟩

/-- The array literal `[.cpu, .accelerator, .custom]`. -/
def absent : CLDeviceType := (cpu.union accelerator).union custom

@[simp] theorem bits_default : CLDeviceType.default.bits = {0} := OptionSet.bits_flag (by decide)
@[simp] theorem bits_cpu : cpu.bits = {1} := OptionSet.bits_flag (by decide)
@[simp] theorem bits_gpu : gpu.bits = {2} := OptionSet.bits_flag (by decide)
@[simp] theorem bits_accelerator : accelerator.bits = {3} := OptionSet.bits_flag (by decide)
@[simp] theorem bits_custom : custom.bits = {4} := OptionSet.bits_flag (by decide)

/-- The classes the platform has no device of are bits 1, 3 and 4. -/
@[simp] theorem mem_bits_absent {i : ℕ} : i ∈ absent.bits ↔ i = 1 ∨ i = 3 ∨ i = 4 := by
  simp only [absent, OptionSet.bits_union, bits_cpu, bits_accelerator, bits_custom,
    Set.mem_union, Set.mem_singleton_iff, or_assoc]

end CLDeviceType

end MoltenCL
