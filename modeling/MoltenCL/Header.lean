import Mathlib.Data.Nat.Notation

/-! # Constants of the OpenCL headers

The macros and the one record layout of `cl.h` that the library reads, under
their C names. Status codes and parameter names are the 32-bit integers Swift
imports them as. The version macros are those a C client packs and unpacks a
`cl_version` with; their operands are of its unsigned 32-bit type.
-/

namespace MoltenCL

/-! ## Status codes -/

def CL_SUCCESS : Int32 := 0
def CL_DEVICE_NOT_FOUND : Int32 := -1
def CL_INVALID_VALUE : Int32 := -30
def CL_INVALID_DEVICE_TYPE : Int32 := -31
def CL_INVALID_PLATFORM : Int32 := -32
def CL_INVALID_DEVICE : Int32 := -33

/-! ## `cl_bool` -/

def CL_FALSE : UInt32 := 0
def CL_TRUE : UInt32 := 1

/-! ## `cl_platform_info` -/

def CL_PLATFORM_PROFILE : Int32 := 0x0900
def CL_PLATFORM_VERSION : Int32 := 0x0901
def CL_PLATFORM_NAME : Int32 := 0x0902
def CL_PLATFORM_VENDOR : Int32 := 0x0903
def CL_PLATFORM_EXTENSIONS : Int32 := 0x0904
def CL_PLATFORM_HOST_TIMER_RESOLUTION : Int32 := 0x0905
def CL_PLATFORM_NUMERIC_VERSION : Int32 := 0x0906
def CL_PLATFORM_EXTENSIONS_WITH_VERSION : Int32 := 0x0907

/-! ## `cl_device_info` -/

def CL_DEVICE_TYPE : Int32 := 0x1000
def CL_DEVICE_VENDOR_ID : Int32 := 0x1001
def CL_DEVICE_MAX_COMPUTE_UNITS : Int32 := 0x1002
def CL_DEVICE_MAX_WORK_ITEM_DIMENSIONS : Int32 := 0x1003
def CL_DEVICE_MAX_WORK_GROUP_SIZE : Int32 := 0x1004
def CL_DEVICE_MAX_WORK_ITEM_SIZES : Int32 := 0x1005
def CL_DEVICE_PREFERRED_VECTOR_WIDTH_CHAR : Int32 := 0x1006
def CL_DEVICE_PREFERRED_VECTOR_WIDTH_SHORT : Int32 := 0x1007
def CL_DEVICE_PREFERRED_VECTOR_WIDTH_INT : Int32 := 0x1008
def CL_DEVICE_PREFERRED_VECTOR_WIDTH_LONG : Int32 := 0x1009
def CL_DEVICE_PREFERRED_VECTOR_WIDTH_FLOAT : Int32 := 0x100A
def CL_DEVICE_PREFERRED_VECTOR_WIDTH_DOUBLE : Int32 := 0x100B
def CL_DEVICE_MAX_CLOCK_FREQUENCY : Int32 := 0x100C
def CL_DEVICE_ADDRESS_BITS : Int32 := 0x100D
def CL_DEVICE_MAX_READ_IMAGE_ARGS : Int32 := 0x100E
def CL_DEVICE_MAX_WRITE_IMAGE_ARGS : Int32 := 0x100F
def CL_DEVICE_MAX_MEM_ALLOC_SIZE : Int32 := 0x1010
def CL_DEVICE_IMAGE2D_MAX_WIDTH : Int32 := 0x1011
def CL_DEVICE_IMAGE2D_MAX_HEIGHT : Int32 := 0x1012
def CL_DEVICE_IMAGE3D_MAX_WIDTH : Int32 := 0x1013
def CL_DEVICE_IMAGE3D_MAX_HEIGHT : Int32 := 0x1014
def CL_DEVICE_IMAGE3D_MAX_DEPTH : Int32 := 0x1015
def CL_DEVICE_IMAGE_SUPPORT : Int32 := 0x1016
def CL_DEVICE_MAX_PARAMETER_SIZE : Int32 := 0x1017
def CL_DEVICE_MAX_SAMPLERS : Int32 := 0x1018
def CL_DEVICE_PREFERRED_VECTOR_WIDTH_HALF : Int32 := 0x1034
def CL_DEVICE_NATIVE_VECTOR_WIDTH_CHAR : Int32 := 0x1036
def CL_DEVICE_NATIVE_VECTOR_WIDTH_SHORT : Int32 := 0x1037
def CL_DEVICE_NATIVE_VECTOR_WIDTH_INT : Int32 := 0x1038
def CL_DEVICE_NATIVE_VECTOR_WIDTH_LONG : Int32 := 0x1039
def CL_DEVICE_NATIVE_VECTOR_WIDTH_FLOAT : Int32 := 0x103A
def CL_DEVICE_NATIVE_VECTOR_WIDTH_DOUBLE : Int32 := 0x103B
def CL_DEVICE_NATIVE_VECTOR_WIDTH_HALF : Int32 := 0x103C
def CL_DEVICE_IMAGE_MAX_BUFFER_SIZE : Int32 := 0x1040
def CL_DEVICE_IMAGE_MAX_ARRAY_SIZE : Int32 := 0x1041
def CL_DEVICE_IMAGE_PITCH_ALIGNMENT : Int32 := 0x104A
def CL_DEVICE_IMAGE_BASE_ADDRESS_ALIGNMENT : Int32 := 0x104B
def CL_DEVICE_MAX_READ_WRITE_IMAGE_ARGS : Int32 := 0x104C
def CL_DEVICE_MAX_PIPE_ARGS : Int32 := 0x1055
def CL_DEVICE_PIPE_MAX_ACTIVE_RESERVATIONS : Int32 := 0x1056
def CL_DEVICE_PIPE_MAX_PACKET_SIZE : Int32 := 0x1057
def CL_DEVICE_IL_VERSION : Int32 := 0x105B
def CL_DEVICE_ILS_WITH_VERSION : Int32 := 0x1061

/-! ## `cl_version` -/

def CL_VERSION_MAJOR_BITS : UInt32 := 10
def CL_VERSION_MINOR_BITS : UInt32 := 10
def CL_VERSION_PATCH_BITS : UInt32 := 12

def CL_VERSION_MAJOR_MASK : UInt32 := (1 <<< CL_VERSION_MAJOR_BITS) - 1
def CL_VERSION_MINOR_MASK : UInt32 := (1 <<< CL_VERSION_MINOR_BITS) - 1
def CL_VERSION_PATCH_MASK : UInt32 := (1 <<< CL_VERSION_PATCH_BITS) - 1

def CL_VERSION_MAJOR (version : UInt32) : UInt32 :=
  version >>> (CL_VERSION_MINOR_BITS + CL_VERSION_PATCH_BITS)

def CL_VERSION_MINOR (version : UInt32) : UInt32 :=
  (version >>> CL_VERSION_PATCH_BITS) &&& CL_VERSION_MINOR_MASK

def CL_VERSION_PATCH (version : UInt32) : UInt32 := version &&& CL_VERSION_PATCH_MASK

def CL_MAKE_VERSION (major minor patch : UInt32) : UInt32 :=
  ((major &&& CL_VERSION_MAJOR_MASK) <<< (CL_VERSION_MINOR_BITS + CL_VERSION_PATCH_BITS)) |||
    ((minor &&& CL_VERSION_MINOR_MASK) <<< CL_VERSION_PATCH_BITS) |||
    (patch &&& CL_VERSION_PATCH_MASK)

/-! ## `cl_name_version` -/

def CL_NAME_VERSION_MAX_NAME_SIZE : ℕ := 64

/-- `offsetof(cl_name_version, name)`: the name follows the 4-byte version. -/
def nameVersionNameOffset : ℕ := 4

/-- `sizeof(cl_name_version)`, which is also its stride. -/
def nameVersionStride : ℕ := nameVersionNameOffset + CL_NAME_VERSION_MAX_NAME_SIZE

end MoltenCL
