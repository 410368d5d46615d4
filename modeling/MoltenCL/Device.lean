import MoltenCL.Platform

/-! # Devices and their C functions

`CLDevice.swift` behind the C API: the properties `clGetDeviceInfo` asks for,
`clGetDeviceIDs` and `clGetDeviceInfo`. A property that can trap, or that uses a
static, is a computation over the runtime; the others are plain values.
-/

namespace MoltenCL

open Foundation Swift

variable {Dev : Type} [DecidableEq Dev] (host : Host Dev)

/-- `notImplementedError`, with the name of the calling property. -/
def notImplementedError {σ α : Type} (function : String) : Swift σ α :=
  throw (.fatalError (function ++ " not implemented."))

/-! ## Properties -/

namespace CLDevice

variable (device : CLDevice Dev)

/-- The default bit goes to the device that wraps the default's Metal device. -/
def type : Swift (Runtime Dev) CLDeviceType := do
  let defaultDevice ← Runtime.object (← CLDevice.default host)
  if device.mtlDevice = defaultDevice.mtlDevice then
    return CLDeviceType.gpu.union CLDeviceType.default
  else
    return CLDeviceType.gpu

def vendorID : UInt32 := 0x1027f00

def maxComputeUnits : Swift (Runtime Dev) UInt32 := notImplementedError "maxComputeUnits"

def maxWorkItemDimensions : UInt32 := 3

def maxWorkItemSizes : List Int64 :=
  let size := host.maxThreadsPerThreadgroup device.mtlDevice
  [size.width, size.height, size.depth]

def maxWorkGroupSize : Int64 :=
  let size := host.maxThreadsPerThreadgroup device.mtlDevice
  max (max size.width size.height) size.depth

def preferredVectorWidthChar : UInt32 :=
  match device.vendor with
  | .amd => 4
  | _ => 1

def preferredVectorWidthShort : UInt32 :=
  match device.vendor with
  | .amd => 2
  | _ => 1

def preferredVectorWidthInt : UInt32 := 1
def preferredVectorWidthLong : UInt32 := 1
def preferredVectorWidthFloat : UInt32 := 1
def preferredVectorWidthDouble : UInt32 := 4
def preferredVectorWidthHalf : UInt32 := 1

def nativeVectorWidthChar : UInt32 :=
  match device.vendor with
  | .amd => 4
  | _ => 1

def nativeVectorWidthShort : UInt32 :=
  match device.vendor with
  | .amd => 2
  | _ => 1

def nativeVectorWidthInt : UInt32 := 1
def nativeVectorWidthLong : UInt32 := 1
def nativeVectorWidthFloat : UInt32 := 1
def nativeVectorWidthDouble : UInt32 := 4
def nativeVectorWidthHalf : UInt32 := 1

def maxClockFrequency : Swift (Runtime Dev) UInt32 := notImplementedError "maxClockFrequency"

def addressBits : UInt32 :=
  match device.vendor with
  | .amd =>
      if host.recommendedMaxWorkingSetSize device.mtlDevice > 4 * 1024 * 1024 * 1024 then 64
      else 32
  | _ => 64

def maxMemoryAllocationSize : Swift (Runtime Dev) UInt64 :=
  toUInt64 (host.maxBufferLength device.mtlDevice).toInt

def supportsImages : Bool := true

def maxReadImageArguments : UInt32 := 128
def maxWriteImageArguments : UInt32 := 128
def maxReadWriteImageArguments : UInt32 := 128

def ilVersions : List SwiftString := [.ofLiteral "SPIR-V_1.6", .ofLiteral "AIR_3.0"]

def ilsWithVersion : List CLNameVersion :=
  [⟨{ major := 1, minor := 6 }, .ofLiteral "SPIR-V"⟩,
   ⟨{ major := 3, minor := 0 }, .ofLiteral "AIR"⟩]

def image2DMaxWidth : Int64 := 16384
def image2DMaxHeight : Int64 := 16384
def image3DMaxWidth : Int64 := 16384
def image3DMaxHeight : Int64 := 16384
def image3DMaxDepth : Int64 := 16384

def imageMaxBufferSize : Int64 :=
  match device.vendor with
  | .apple => 256 * 1024 * 1024
  | .intel => 24 * 1024 * 1024
  | .amd => 64 * 1024

def imageMaxArraySize : Int64 := 2048

def maxSamplers : UInt32 := 16

def imagePitchAlignment : Swift (Runtime Dev) UInt32 :=
  toUInt32 (host.minimumLinearTextureAlignment device.mtlDevice).toInt

def imageBaseAddressAlignment : Swift (Runtime Dev) UInt32 :=
  toUInt32 (host.minimumLinearTextureAlignment device.mtlDevice).toInt

-- pipes are not supported yet
def maxPipeArguments : UInt32 := 0
def pipeMaxActiveReservations : UInt32 := 0
def pipeMaxPacketSize : UInt32 := 0

def maxParameterSize : Int64 := 4096

-- every device has the extensions of the platform
def extensions (_ : CLDevice Dev) : Swift (Runtime Dev) (List SwiftString) :=
  CLPlatform._extensions host

def extensionsWithVersion (_ : CLDevice Dev) : Swift (Runtime Dev) (List CLNameVersion) :=
  CLPlatform._extensionsWithVersion host

end CLDevice

/-- The cases of `clGetDeviceInfo`, each with the property it serialises. -/
def deviceInfoCases (device : CLDevice Dev) : List (Int32 × Swift (Runtime Dev) InfoValue) :=
  [(CL_DEVICE_TYPE, (fun type => .uint64 ⟨type.rawValue⟩) <$> device.type host),
   (CL_DEVICE_VENDOR_ID, pure (.uint32 CLDevice.vendorID)),
   (CL_DEVICE_MAX_COMPUTE_UNITS, .uint32 <$> CLDevice.maxComputeUnits),
   (CL_DEVICE_MAX_WORK_ITEM_DIMENSIONS, .uint32 <$> CLDevice.maxComputeUnits),
   (CL_DEVICE_MAX_WORK_ITEM_SIZES, pure (.arrayOfInt (device.maxWorkItemSizes host))),
   (CL_DEVICE_MAX_WORK_GROUP_SIZE, pure (.int (device.maxWorkGroupSize host))),
   (CL_DEVICE_PREFERRED_VECTOR_WIDTH_CHAR, pure (.uint32 device.preferredVectorWidthChar)),
   (CL_DEVICE_PREFERRED_VECTOR_WIDTH_SHORT, pure (.uint32 device.preferredVectorWidthShort)),
   (CL_DEVICE_PREFERRED_VECTOR_WIDTH_INT, pure (.uint32 CLDevice.preferredVectorWidthInt)),
   (CL_DEVICE_PREFERRED_VECTOR_WIDTH_LONG, pure (.uint32 CLDevice.preferredVectorWidthLong)),
   (CL_DEVICE_PREFERRED_VECTOR_WIDTH_FLOAT, pure (.uint32 CLDevice.preferredVectorWidthFloat)),
   (CL_DEVICE_PREFERRED_VECTOR_WIDTH_DOUBLE, pure (.uint32 CLDevice.preferredVectorWidthDouble)),
   (CL_DEVICE_PREFERRED_VECTOR_WIDTH_HALF, pure (.uint32 CLDevice.preferredVectorWidthHalf)),
   (CL_DEVICE_NATIVE_VECTOR_WIDTH_CHAR, pure (.uint32 device.nativeVectorWidthChar)),
   (CL_DEVICE_NATIVE_VECTOR_WIDTH_SHORT, pure (.uint32 device.nativeVectorWidthShort)),
   (CL_DEVICE_NATIVE_VECTOR_WIDTH_INT, pure (.uint32 CLDevice.nativeVectorWidthInt)),
   (CL_DEVICE_NATIVE_VECTOR_WIDTH_LONG, pure (.uint32 CLDevice.nativeVectorWidthLong)),
   (CL_DEVICE_NATIVE_VECTOR_WIDTH_FLOAT, pure (.uint32 CLDevice.nativeVectorWidthFloat)),
   (CL_DEVICE_NATIVE_VECTOR_WIDTH_DOUBLE, pure (.uint32 CLDevice.nativeVectorWidthDouble)),
   (CL_DEVICE_NATIVE_VECTOR_WIDTH_HALF, pure (.uint32 CLDevice.nativeVectorWidthHalf)),
   (CL_DEVICE_MAX_CLOCK_FREQUENCY, .uint32 <$> CLDevice.maxClockFrequency),
   (CL_DEVICE_ADDRESS_BITS, pure (.uint32 (device.addressBits host))),
   (CL_DEVICE_MAX_MEM_ALLOC_SIZE, .uint64 <$> device.maxMemoryAllocationSize host),
   (CL_DEVICE_IMAGE_SUPPORT, pure (.bool CLDevice.supportsImages)),
   (CL_DEVICE_MAX_READ_IMAGE_ARGS, pure (.uint32 CLDevice.maxReadImageArguments)),
   (CL_DEVICE_MAX_WRITE_IMAGE_ARGS, pure (.uint32 CLDevice.maxWriteImageArguments)),
   (CL_DEVICE_MAX_READ_WRITE_IMAGE_ARGS, pure (.uint32 CLDevice.maxReadWriteImageArguments)),
   (CL_DEVICE_IL_VERSION, pure (.arrayOfString CLDevice.ilVersions)),
   (CL_DEVICE_ILS_WITH_VERSION, pure (.arrayOfCLNameVersion CLDevice.ilsWithVersion)),
   (CL_DEVICE_IMAGE2D_MAX_WIDTH, pure (.int CLDevice.image2DMaxWidth)),
   (CL_DEVICE_IMAGE2D_MAX_HEIGHT, pure (.int CLDevice.image2DMaxHeight)),
   (CL_DEVICE_IMAGE3D_MAX_WIDTH, pure (.int CLDevice.image3DMaxWidth)),
   (CL_DEVICE_IMAGE3D_MAX_HEIGHT, pure (.int CLDevice.image3DMaxHeight)),
   (CL_DEVICE_IMAGE3D_MAX_DEPTH, pure (.int CLDevice.image3DMaxDepth)),
   (CL_DEVICE_IMAGE_MAX_BUFFER_SIZE, pure (.int device.imageMaxBufferSize)),
   (CL_DEVICE_IMAGE_MAX_ARRAY_SIZE, pure (.int CLDevice.imageMaxArraySize)),
   (CL_DEVICE_MAX_SAMPLERS, pure (.uint32 CLDevice.maxSamplers)),
   (CL_DEVICE_IMAGE_PITCH_ALIGNMENT, .uint32 <$> device.imagePitchAlignment host),
   (CL_DEVICE_IMAGE_BASE_ADDRESS_ALIGNMENT, .uint32 <$> device.imageBaseAddressAlignment host),
   (CL_DEVICE_MAX_PIPE_ARGS, pure (.uint32 CLDevice.maxPipeArguments)),
   (CL_DEVICE_PIPE_MAX_ACTIVE_RESERVATIONS, pure (.uint32 CLDevice.pipeMaxActiveReservations)),
   (CL_DEVICE_PIPE_MAX_PACKET_SIZE, pure (.uint32 CLDevice.pipeMaxPacketSize)),
   (CL_DEVICE_MAX_PARAMETER_SIZE, pure (.int CLDevice.maxParameterSize))]

/-! ## C functions -/

/-- One turn of the copy loop: `devices[i] = clDevices[i]`. -/
def storeDeviceID (devices : ℕ) (clDevices : List DeviceRef) (i : ℕ) : Swift (World Dev) Unit := do
  let clDevice ← unwrap clDevices[i]?
  modify fun w => { w with deviceIDs := w.deviceIDs.store (devices + i) (some clDevice) }

/-- `clGetDeviceIDs`. -/
def clGetDeviceIDs (platform : Option CLPlatform) (deviceType : UInt64) (numEntries : UInt32)
    (devices numDevices : Option ℕ) : Swift (World Dev) Int32 := do
  if platform = none then
    return CL_INVALID_PLATFORM
  let type := CLDeviceType.ofRawValue deviceType
  if type ≠ CLDeviceType.all ∧ type.contains CLDeviceType.custom then
    if type ≠ .empty then
      return CL_INVALID_DEVICE_TYPE
  let clDevices ← within World.runtimeSlot (CLPlatform.devices host type)
  if ¬ clDevices.length > 0 then
    return CL_DEVICE_NOT_FOUND
  if devices = none ∧ numDevices = none then
    return CL_INVALID_VALUE
  if let some devices := devices then
    if ¬ numEntries > 0 then
      return CL_INVALID_VALUE
    (List.range (min numEntries.toNat clDevices.length)).forM (storeDeviceID devices clDevices)
  if let some numDevices := numDevices then
    let count ← toUInt32 clDevices.length
    modify fun w => { w with counts := w.counts.store numDevices count }
  return CL_SUCCESS

/-- `clGetDeviceInfo`. -/
def clGetDeviceInfo (device : Option DeviceRef) (paramName : UInt32) (paramValueSize : ℤ)
    (paramValue paramValueSizeRet : Option ℕ) : Swift (World Dev) Int32 :=
  match device with
  | none => pure CL_INVALID_DEVICE
  | some ref => do
      let device ← within World.runtimeSlot (Runtime.object ref)
      answerQuery (deviceInfoCases host device) paramName paramValueSize paramValue
        paramValueSizeRet

end MoltenCL
