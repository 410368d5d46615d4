import MoltenCL.Info
import MoltenCL.Runtime

/-! # The platform and its C functions

`CLPlatform.swift` behind the C API: the properties of the platform,
`clGetPlatformIDs` and `clGetPlatformInfo`. A C function runs over a `World`,
the library's own state next to the client memory its out-parameters point to;
an out-pointer is an optional address in the memory of its type.
-/

namespace MoltenCL

open Foundation Swift

/-- The process as a C function finds it: the library's state and the memory the
client's out-parameters point to. -/
structure World (Dev : Type) where
  runtime : Runtime Dev
  buffers : Buffers
  platformIDs : Memory (Option CLPlatform)
  deviceIDs : Memory (Option DeviceRef)
  counts : Memory UInt32

namespace World

variable {Dev : Type}

/-- The library's own state. -/
def runtimeSlot : Slot (World Dev) (Runtime Dev) where
  get w := w.runtime
  put rt w := { w with runtime := rt }
  get_put _ _ := rfl
  put_put _ _ _ := rfl
  put_get _ := rfl

/-- The bytes and sizes of the client. -/
def buffersSlot : Slot (World Dev) Buffers where
  get w := w.buffers
  put b w := { w with buffers := b }
  get_put _ _ := rfl
  put_put _ _ _ := rfl
  put_get _ := rfl

@[simp] theorem runtimeSlot_put (rt : Runtime Dev) (w : World Dev) :
    runtimeSlot.put rt w = { w with runtime := rt } := rfl

end World

/-- The body of a query function: find the case for `paramName`, evaluate its
property and serialise the value. -/
def answerQuery {Dev : Type} (cases : List (Int32 × Swift (Runtime Dev) InfoValue))
    (paramName : UInt32) (paramValueSize : ℤ) (paramValue paramValueSizeRet : Option ℕ) :
    Swift (World Dev) Int32 :=
  match cases.lookup paramName.toInt32 with
  | some property => do
      let value ← within World.runtimeSlot property
      within World.buffersSlot (value.writeInfo paramValueSize paramValue paramValueSizeRet)
  | none => pure CL_INVALID_VALUE

variable {Dev : Type} (host : Host Dev)

/-! ## Properties -/

namespace CLPlatform

def profile : SwiftString := .ofLiteral "FULL_PROFILE"

def version : SwiftString := .ofLiteral "OpenCL 3.0 (Sep 15 2022 21:00:00)"

def numericVersion : CLVersion := { major := 3, minor := 0, patch := some 12 }

def name : SwiftString := .ofLiteral "Apple"

def vendor : SwiftString := .ofLiteral "Apple"

/-- The platform itself lists no extensions; its devices do. -/
def extensions : List SwiftString := []

def extensionsWithVersion : List CLNameVersion := []

/-- Nanoseconds per tick of the CPU clock, rounded down. -/
def hostTimerResolution : Swift (Runtime Dev) UInt64 :=
  let (numer, denom) := host.machTimebaseInfo
  if denom = 0 then throw .divisionByZero
  else pure (numer / denom).toUInt64

end CLPlatform

/-- The cases of `clGetPlatformInfo`. -/
def platformInfoCases : List (Int32 × Swift (Runtime Dev) InfoValue) :=
  [(CL_PLATFORM_PROFILE, pure (.string CLPlatform.profile)),
   (CL_PLATFORM_VERSION, pure (.string CLPlatform.version)),
   (CL_PLATFORM_NUMERIC_VERSION, pure (.uint32 CLPlatform.numericVersion.version)),
   (CL_PLATFORM_NAME, pure (.string CLPlatform.name)),
   (CL_PLATFORM_VENDOR, pure (.string CLPlatform.vendor)),
   (CL_PLATFORM_EXTENSIONS, pure (.arrayOfString CLPlatform.extensions)),
   (CL_PLATFORM_EXTENSIONS_WITH_VERSION,
     pure (.arrayOfCLNameVersion CLPlatform.extensionsWithVersion)),
   (CL_PLATFORM_HOST_TIMER_RESOLUTION, .uint64 <$> CLPlatform.hostTimerResolution host)]

/-! ## C functions -/

/-- `clGetPlatformIDs`. -/
def clGetPlatformIDs (numEntries : UInt32) (platforms numPlatforms : Option ℕ) :
    Swift (World Dev) Int32 := do
  if platforms = none ∧ numPlatforms = none then
    return CL_INVALID_VALUE
  if let some platforms := platforms then
    if ¬ numEntries > 0 then
      return CL_INVALID_VALUE
    let platform ← within World.runtimeSlot (CLPlatform.default host)
    modify fun w => { w with platformIDs := w.platformIDs.store platforms (some platform) }
  if let some numPlatforms := numPlatforms then
    modify fun w => { w with counts := w.counts.store numPlatforms 1 }
  return CL_SUCCESS

/-- `clGetPlatformInfo`. -/
def clGetPlatformInfo (platform : Option CLPlatform) (paramName : UInt32) (paramValueSize : ℤ)
    (paramValue paramValueSizeRet : Option ℕ) : Swift (World Dev) Int32 :=
  match platform with
  | none => pure CL_INVALID_PLATFORM
  | some _ =>
      answerQuery (platformInfoCases host) paramName paramValueSize paramValue paramValueSizeRet

end MoltenCL
