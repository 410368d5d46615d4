import MoltenCL.Header
import MoltenCL.Version
import MoltenCL.Foundation.TwoCall

/-! # Serialising query results

The six writers of `Info.swift` and the values they serialise. Every writer
takes the capacity `paramValueSize`, the optional pointers `paramValue` and
`paramValueSizeRet`, and the value; sizes are mathematical integers, since the
byte size of a Swift array in memory never reaches the range of `Int`.

The writers share one order of steps (`sizeCheckWrite`): report the size, refuse
a short buffer, write. They differ in how the size is computed and in what is
written.
-/

namespace MoltenCL

open Foundation

/-- A fixed-width integer type: its stride and the bytes of its values. -/
class BinaryInteger (T : Type) where
  stride : ℕ
  bytes : T → List UInt8
  length_bytes : ∀ v, (bytes v).length = stride

instance : BinaryInteger Int32 := ⟨4, fun v => leBytes 4 v.toBitVec.toNat, by simp⟩
instance : BinaryInteger UInt32 := ⟨4, fun v => leBytes 4 v.toNat, by simp⟩
instance : BinaryInteger Int64 := ⟨8, fun v => leBytes 8 v.toBitVec.toNat, by simp⟩
instance : BinaryInteger UInt64 := ⟨8, fun v => leBytes 8 v.toNat, by simp⟩

/-! ## Stores into the caller's buffer -/

/-- Store bytes at `ptr`. -/
def storeBytes (ptr : ℕ) (bs : List UInt8) : Swift Buffers Unit :=
  modify fun b => { b with bytes := b.bytes.storeList ptr bs }

/-- `memcpy(ptr, src, n)`. -/
def copyBytes (ptr : ℕ) (src : List UInt8) (n : ℕ) : Swift Buffers Unit := do
  let b ← get
  match memcpy b.bytes ptr src n with
  | some m => set { b with bytes := m }
  | none => throw .outOfBoundsRead

/-- `strcpy(ptr, src)`. -/
def copyString (ptr : ℕ) (src : List UInt8) : Swift Buffers Unit :=
  modify fun b => { b with bytes := strcpy b.bytes ptr src }

/-- The steps every writer takes: report the size, refuse a buffer that is too
short, write through the buffer pointer. -/
def sizeCheckWrite (paramValueSize : ℤ) (paramValue paramValueSizeRet : Option ℕ)
    (valueSize : ℕ) (write : ℕ → Swift Buffers Unit) : Swift Buffers Int32 := do
  if let some ret := paramValueSizeRet then
    modify fun b => { b with sizes := b.sizes.store ret valueSize }
  if let some ptr := paramValue then
    if paramValueSize < valueSize then
      return CL_INVALID_VALUE
    write ptr
  return CL_SUCCESS

/-! ## The writers -/

section Writers

variable (paramValueSize : ℤ) (paramValue paramValueSizeRet : Option ℕ)

/-- A `Bool` is written as a `cl_bool`, which is a `UInt32`. -/
def writeInfoBool (value : Bool) : Swift Buffers Int32 :=
  let clBool : UInt32 := if value then CL_TRUE else CL_FALSE
  sizeCheckWrite paramValueSize paramValue paramValueSizeRet (BinaryInteger.stride UInt32)
    fun ptr => storeBytes ptr (BinaryInteger.bytes clBool)

def writeInfoInt {T : Type} [BinaryInteger T] (value : T) : Swift Buffers Int32 :=
  sizeCheckWrite paramValueSize paramValue paramValueSizeRet (BinaryInteger.stride T)
    fun ptr => storeBytes ptr (BinaryInteger.bytes value)

def writeInfoString (value : SwiftString) : Swift Buffers Int32 :=
  sizeCheckWrite paramValueSize paramValue paramValueSizeRet value.utf8CString.length
    fun ptr => copyString ptr value.utf8CString

def writeInfoArrayOfInt {T : Type} [BinaryInteger T] (value : List T) : Swift Buffers Int32 :=
  let valueSize := value.length * BinaryInteger.stride T
  sizeCheckWrite paramValueSize paramValue paramValueSizeRet valueSize
    fun ptr => copyBytes ptr (value.flatMap BinaryInteger.bytes) valueSize

/-- The byte of `Character(" ").asciiValue!`. -/
def space : UInt8 := 0x20

/-- One turn of the loop over strings: copy the element, write the separator
behind it and move the cursor past both. -/
def writeElement (byteStream : ℕ) (element : SwiftString) : Swift Buffers ℕ := do
  copyBytes byteStream element.utf8CString element.count
  storeBytes (byteStream + element.count) [space]
  return byteStream + (element.count + 1)

/-- The strings are joined by spaces, and the last space becomes the NUL. -/
def writeInfoArrayOfString (value : List SwiftString) : Swift Buffers Int32 :=
  let valueSize := value.foldl (fun size element => size + element.count + 1) 0
  sizeCheckWrite paramValueSize paramValue paramValueSizeRet valueSize fun ptr => do
    let byteStream ← value.foldlM writeElement ptr
    if value.length > 0 then
      storeBytes (byteStream - 1) [0]

/-- The message of the precondition on names. -/
def nameTooLong : String :=
  "Null-terminated string exceeds maximum size\n" ++ toString CL_NAME_VERSION_MAX_NAME_SIZE ++ "."

/-- One turn of the loop over name-version records: check the name, write the
version word and the name, and move the cursor by one record. -/
def writeRecord (byteStream : ℕ) (element : CLNameVersion) : Swift Buffers ℕ := do
  if ¬ element.name.count < CL_NAME_VERSION_MAX_NAME_SIZE then
    throw (.precondition nameTooLong)
  storeBytes byteStream (BinaryInteger.bytes element.version.version)
  copyString (byteStream + nameVersionNameOffset) element.name.utf8CString
  return byteStream + nameVersionStride

def writeInfoArrayOfCLNameVersion (value : List CLNameVersion) : Swift Buffers Int32 :=
  let valueSize := value.length * nameVersionStride
  sizeCheckWrite paramValueSize paramValue paramValueSizeRet valueSize fun ptr => do
    let _ ← value.foldlM writeRecord ptr

end Writers

/-! ## Values -/

/-- A value of a type that conforms to `CLInfo`. Swift's `Int` is 64 bits wide. -/
inductive InfoValue where
  | bool (value : Bool)
  | int (value : Int64)
  | int32 (value : Int32)
  | uint32 (value : UInt32)
  | int64 (value : Int64)
  | uint64 (value : UInt64)
  | arrayOfInt (value : List Int64)
  | arrayOfInt32 (value : List Int32)
  | arrayOfUInt32 (value : List UInt32)
  | arrayOfInt64 (value : List Int64)
  | arrayOfUInt64 (value : List UInt64)
  | string (value : SwiftString)
  | arrayOfString (value : List SwiftString)
  | arrayOfCLNameVersion (value : List CLNameVersion)

/-- `CLInfo.writeInfo`: each type goes to its writer. -/
def InfoValue.writeInfo (v : InfoValue) (paramValueSize : ℤ)
    (paramValue paramValueSizeRet : Option ℕ) : Swift Buffers Int32 :=
  match v with
  | .bool value => writeInfoBool paramValueSize paramValue paramValueSizeRet value
  | .int value => writeInfoInt paramValueSize paramValue paramValueSizeRet value
  | .int32 value => writeInfoInt paramValueSize paramValue paramValueSizeRet value
  | .uint32 value => writeInfoInt paramValueSize paramValue paramValueSizeRet value
  | .int64 value => writeInfoInt paramValueSize paramValue paramValueSizeRet value
  | .uint64 value => writeInfoInt paramValueSize paramValue paramValueSizeRet value
  | .arrayOfInt value => writeInfoArrayOfInt paramValueSize paramValue paramValueSizeRet value
  | .arrayOfInt32 value => writeInfoArrayOfInt paramValueSize paramValue paramValueSizeRet value
  | .arrayOfUInt32 value => writeInfoArrayOfInt paramValueSize paramValue paramValueSizeRet value
  | .arrayOfInt64 value => writeInfoArrayOfInt paramValueSize paramValue paramValueSizeRet value
  | .arrayOfUInt64 value => writeInfoArrayOfInt paramValueSize paramValue paramValueSizeRet value
  | .string value => writeInfoString paramValueSize paramValue paramValueSizeRet value
  | .arrayOfString value => writeInfoArrayOfString paramValueSize paramValue paramValueSizeRet value
  | .arrayOfCLNameVersion value =>
      writeInfoArrayOfCLNameVersion paramValueSize paramValue paramValueSizeRet value

/-- The precondition of the record writer, on the values it applies to: every
name has fewer than 64 Characters. -/
def InfoValue.NamesFit : InfoValue → Prop
  | .arrayOfCLNameVersion value =>
      ∀ element ∈ value, element.name.count < CL_NAME_VERSION_MAX_NAME_SIZE
  | _ => True

end MoltenCL
