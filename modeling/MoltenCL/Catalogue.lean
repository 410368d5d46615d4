import MoltenCL.History

/-! # The library as a catalogue

What the library is for, without its objects and statics: a machine offers its listed devices and
one chosen device, and every C function is an answer about the machine. `Catalogue.serve` gives
these answers over the memory of the client alone. No static is initialised on first use, no
object is allocated, and a device handle is what it stands for (`Origin`).

The catalogue abstracts from the past of a process and not from the values: which value a name
has, and the check of the first listed device, are read off the library's own tables and
initialiser, as they come out in a fresh process (`freshly`).

`serve` is the library itself under the same commands: the four C functions and those Swift uses
that touch an object or a static. The Swift properties that no C function asks for are not among
them. A client keeps the handles it was given in its own memory and passes them on from there, so
a command names memory cells and never a handle.
-/

namespace MoltenCL

open Foundation Swift

variable {Dev : Type} (host : Host Dev)

/-! ## Commands -/

/-- What a client can ask for, and what it can do with its own memory. -/
inductive Command (Dev : Type) where
  /-- `clGetPlatformIDs` -/
  | getPlatformIDs (numEntries : UInt32) (platforms numPlatforms : Option ℕ)
  /-- `clGetPlatformInfo`, on the platform in a cell -/
  | getPlatformInfo (platform : ℕ) (paramName : UInt32) (paramValueSize : ℤ)
      (paramValue paramValueSizeRet : Option ℕ)
  /-- `clGetDeviceIDs`, on the platform in a cell -/
  | getDeviceIDs (platform : ℕ) (deviceType : UInt64) (numEntries : UInt32)
      (devices numDevices : Option ℕ)
  /-- `clGetDeviceInfo`, on the device in a cell -/
  | getDeviceInfo (device : ℕ) (paramName : UInt32) (paramValueSize : ℤ)
      (paramValue paramValueSizeRet : Option ℕ)
  /-- copy a device handle from one cell to another -/
  | copyDevice (source target : ℕ)
  /-- put a null pointer in a cell for device handles -/
  | clearDevice (cell : ℕ)
  /-- overwrite everything but the device handles -/
  | overwrite (buffers : Buffers) (platformIDs : Memory (Option CLPlatform))
      (counts : Memory UInt32)
  /-- `CLPlatform.default` -/
  | platformDefault
  /-- `CLDevice.default` -/
  | deviceDefault
  /-- `devices(type:)` -/
  | devices (type : CLDeviceType)
  /-- `CLDevice(mtlDevice:)` -/
  | newDevice (mtlDevice : Dev)
  /-- `extensionsWithVersion` of a device -/
  | extensionsWithVersion
  /-- `extensions` of a device -/
  | extensions

/-- What a command answers. -/
inductive Response where
  | status (code : Int32)
  | done
  | count (number : ℕ)
  | nameVersions (value : List CLNameVersion)
  | names (value : List SwiftString)

/-- What a client sees of its memory: everything but the addresses behind its device handles,
of which it sees which are null and which are the same. -/
structure Observation where
  buffers : Buffers
  platformIDs : Memory (Option CLPlatform)
  counts : Memory UInt32
  isNull : ℕ → Bool
  same : ℕ → ℕ → Bool

/-! ## The library -/

/-- What a client sees of a world. -/
def World.observe (w : World Dev) : Observation where
  buffers := w.buffers
  platformIDs := w.platformIDs
  counts := w.counts
  isNull a := w.deviceIDs.cell a = none
  same a b := w.deviceIDs.cell a = w.deviceIDs.cell b

/-- The library under a command. -/
def serve [DecidableEq Dev] : Command Dev → Swift (World Dev) Response
  | .getPlatformIDs numEntries platforms numPlatforms =>
      .status <$> clGetPlatformIDs host numEntries platforms numPlatforms
  | .getPlatformInfo platform paramName paramValueSize paramValue paramValueSizeRet => do
      .status <$> clGetPlatformInfo host ((← get).platformIDs.cell platform) paramName
        paramValueSize paramValue paramValueSizeRet
  | .getDeviceIDs platform deviceType numEntries devices numDevices => do
      .status <$> clGetDeviceIDs host ((← get).platformIDs.cell platform) deviceType numEntries
        devices numDevices
  | .getDeviceInfo device paramName paramValueSize paramValue paramValueSizeRet => do
      .status <$> clGetDeviceInfo host ((← get).deviceIDs.cell device) paramName paramValueSize
        paramValue paramValueSizeRet
  | .copyDevice source target => do
      modify fun w => { w with deviceIDs := w.deviceIDs.store target (w.deviceIDs.cell source) }
      return .done
  | .clearDevice cell => do
      modify fun w => { w with deviceIDs := w.deviceIDs.store cell none }
      return .done
  | .overwrite buffers platformIDs counts => do
      modify fun w => { w with buffers := buffers, platformIDs := platformIDs, counts := counts }
      return .done
  | .platformDefault => (fun _ => .done) <$> within World.runtimeSlot (CLPlatform.default host)
  | .deviceDefault => (fun _ => .done) <$> within World.runtimeSlot (CLDevice.default host)
  | .devices type =>
      (fun refs => .count refs.length) <$> within World.runtimeSlot (CLPlatform.devices host type)
  | .newDevice mtlDevice =>
      (fun _ => .done) <$> within World.runtimeSlot (CLDevice.init host mtlDevice)
  | .extensionsWithVersion =>
      .nameVersions <$> within World.runtimeSlot (CLPlatform._extensionsWithVersion host)
  | .extensions => .names <$> within World.runtimeSlot (CLPlatform._extensions host)

/-! ## The catalogue -/

/-- What a device handle stands for: a listed device by its place, or the chosen device. -/
inductive Origin where
  | listed (i : ℕ)
  | chosen
deriving DecidableEq

/-- The memory of a client of the catalogue. -/
structure Client where
  buffers : Buffers
  platformIDs : Memory (Option CLPlatform)
  deviceIDs : Memory (Option Origin)
  counts : Memory UInt32

namespace Client

/-- What a client sees of its memory. -/
def observe (c : Client) : Observation where
  buffers := c.buffers
  platformIDs := c.platformIDs
  counts := c.counts
  isNull a := c.deviceIDs.cell a = none
  same a b := c.deviceIDs.cell a = c.deviceIDs.cell b

def platformArrays (c : Client) : Arrays CLPlatform := ⟨c.platformIDs, c.counts⟩

def deviceArrays (c : Client) : Arrays Origin := ⟨c.deviceIDs, c.counts⟩

def setPlatformArrays (c : Client) (m : Arrays CLPlatform) : Client :=
  { c with platformIDs := m.handles, counts := m.counts }

def setDeviceArrays (c : Client) (m : Arrays Origin) : Client :=
  { c with deviceIDs := m.handles, counts := m.counts }

end Client

namespace Catalogue

/-- An outcome that does not depend on the client. -/
def outcome {α : Type} : Except Trap α → Swift Client α
  | .ok a => pure a
  | .error e => throw e

/-- The check of the first listed device. -/
def platformCheck : Except Trap CLPlatform := freshly (CLPlatform.init host)

/-- The device behind a handle. -/
def metalDevice : Origin → Option Dev
  | .listed i => host.copyAllDevices[i]?
  | .chosen => chosenDevice host

/-- The devices a mask selects. The default device is offered once the platform has passed its
check, the listed ones are offered without one. -/
def selected (type : CLDeviceType) : Except Trap (List Origin) :=
  if type.SelectsListed then .ok ((List.range host.copyAllDevices.length).map .listed)
  else if type.SelectsDefault then (platformCheck host).map fun _ => [.chosen]
  else .ok []

/-- The extensions of the machine, which unwrap its system default device. -/
def extensionsWithVersion : Except Trap (List CLNameVersion) :=
  match extensionList host with
  | some l => .ok l
  | none => .error .unexpectedlyNil

/-- Answer with the value of a property. -/
def answer (cases : List (Int32 × Swift (Runtime Dev) InfoValue)) (paramName : UInt32)
    (paramValueSize : ℤ) (paramValue paramValueSizeRet : Option ℕ) : Swift Client Int32 :=
  match cases.lookup paramName.toInt32 with
  | some property => do
      let value ← outcome (freshly property)
      let c ← get
      let response := value.answer.respond CL_SUCCESS CL_INVALID_VALUE paramValueSize paramValue
        paramValueSizeRet c.buffers
      set { c with buffers := response.2 }
      return response.1
  | none => pure CL_INVALID_VALUE

/-- A name without a property is refused. -/
theorem run_answer_none {cases : List (Int32 × Swift (Runtime Dev) InfoValue)}
    {paramName : UInt32} (h : cases.lookup paramName.toInt32 = none) (capacity : ℤ)
    (value size : Option ℕ) (c : Client) :
    (answer cases paramName capacity value size).run c = .ok (CL_INVALID_VALUE, c) := by
  unfold answer
  rw [h]
  rfl

/-- A name with a property is answered with its value, or stopped by its trap. -/
theorem run_answer_some {cases : List (Int32 × Swift (Runtime Dev) InfoValue)}
    {paramName : UInt32} {property : Swift (Runtime Dev) InfoValue}
    (h : cases.lookup paramName.toInt32 = some property) (capacity : ℤ) (value size : Option ℕ)
    (c : Client) :
    (answer cases paramName capacity value size).run c = (freshly property).map fun v =>
      let response := v.answer.respond CL_SUCCESS CL_INVALID_VALUE capacity value size c.buffers
      (response.1, { c with buffers := response.2 }) := by
  simp only [answer, h]
  cases freshly property with
  | error e => rfl
  | ok v => rfl

/-- Enumerate the one platform, after its check if it is fetched. -/
def clGetPlatformIDs (numEntries : UInt32) (platforms numPlatforms : Option ℕ) :
    Swift Client Int32 := do
  if ¬ InvalidEnumeration numEntries.toNat platforms numPlatforms ∧ platforms ≠ none then
    let _ ← outcome (platformCheck host)
  let c ← get
  let response := enumerate CL_SUCCESS CL_INVALID_VALUE [CLPlatform.mk] numEntries.toNat platforms
    numPlatforms c.platformArrays
  set (c.setPlatformArrays response.2)
  return response.1

/-- A call that is refused, or only counts, checks nothing. -/
theorem run_clGetPlatformIDs_unchecked {numEntries : UInt32} {platforms numPlatforms : Option ℕ}
    (h : InvalidEnumeration numEntries.toNat platforms numPlatforms ∨ platforms = none)
    (c : Client) :
    (clGetPlatformIDs host numEntries platforms numPlatforms).run c =
      let response := enumerate CL_SUCCESS CL_INVALID_VALUE [CLPlatform.mk] numEntries.toNat
        platforms numPlatforms c.platformArrays
      .ok (response.1, c.setPlatformArrays response.2) := by
  have hunchecked : ¬ (¬ InvalidEnumeration numEntries.toNat platforms numPlatforms ∧
      platforms ≠ none) := by
    rintro ⟨hvalid, hne⟩
    exact h.elim hvalid hne
  unfold clGetPlatformIDs
  rw [if_neg hunchecked]
  rfl

/-- A call that fetches passes or fails the check. -/
theorem run_clGetPlatformIDs_checked {numEntries : UInt32} {platforms numPlatforms : Option ℕ}
    (h : ¬ InvalidEnumeration numEntries.toNat platforms numPlatforms) (hne : platforms ≠ none)
    (c : Client) :
    (clGetPlatformIDs host numEntries platforms numPlatforms).run c =
      (platformCheck host).map fun _ =>
        (CL_SUCCESS, c.setPlatformArrays
          ((c.platformArrays.fetch platforms [CLPlatform.mk]).tally numPlatforms 1)) := by
  have hn : numEntries.toNat ≠ 0 := fun h0 => h (Or.inr ⟨hne, h0⟩)
  have htake : List.take numEntries.toNat [CLPlatform.mk] = [CLPlatform.mk] :=
    List.take_of_length_le (by simp; omega)
  unfold clGetPlatformIDs
  rw [if_pos ⟨h, hne⟩]
  simp only [enumerate, if_neg h, htake]
  cases platformCheck host with
  | error e => rfl
  | ok p => rfl

def clGetPlatformInfo (platform : Option CLPlatform) (paramName : UInt32) (paramValueSize : ℤ)
    (paramValue paramValueSizeRet : Option ℕ) : Swift Client Int32 :=
  match platform with
  | none => pure CL_INVALID_PLATFORM
  | some _ =>
      answer (platformInfoCases host) paramName paramValueSize paramValue paramValueSizeRet

/-- Offer devices to a client. -/
def offer (origins : List Origin) (numEntries : UInt32) (devices numDevices : Option ℕ) :
    Swift Client Int32 := do
  if origins = [] then
    return CL_DEVICE_NOT_FOUND
  if ¬ InvalidEnumeration numEntries.toNat devices numDevices ∧ numDevices ≠ none ∧
      2 ^ 32 ≤ origins.length then
    throw .notRepresentable
  let c ← get
  let response := enumerate CL_SUCCESS CL_INVALID_VALUE origins numEntries.toNat devices numDevices
    c.deviceArrays
  set (c.setDeviceArrays response.2)
  return response.1

/-- The status and the stores of an offer. -/
theorem run_offer (origins : List Origin) (numEntries : UInt32) (devices numDevices : Option ℕ)
    (c : Client) :
    (offer origins numEntries devices numDevices).run c =
      if origins = [] then .ok (CL_DEVICE_NOT_FOUND, c)
      else if ¬ InvalidEnumeration numEntries.toNat devices numDevices ∧ numDevices ≠ none ∧
          2 ^ 32 ≤ origins.length then .error .notRepresentable
      else
        let response := enumerate CL_SUCCESS CL_INVALID_VALUE origins numEntries.toNat devices
          numDevices c.deviceArrays
        .ok (response.1, c.setDeviceArrays response.2) := by
  unfold offer
  split_ifs
  · rfl
  · rfl
  · rfl

def clGetDeviceIDs (platform : Option CLPlatform) (deviceType : UInt64) (numEntries : UInt32)
    (devices numDevices : Option ℕ) : Swift Client Int32 :=
  match platform with
  | none => pure CL_INVALID_PLATFORM
  | some _ =>
      if (CLDeviceType.ofRawValue deviceType).Rejected then pure CL_INVALID_DEVICE_TYPE
      else do
        let origins ← outcome (selected host (.ofRawValue deviceType))
        offer origins numEntries devices numDevices

variable [DecidableEq Dev]

def clGetDeviceInfo (device : Option Origin) (paramName : UInt32) (paramValueSize : ℤ)
    (paramValue paramValueSizeRet : Option ℕ) : Swift Client Int32 :=
  match device with
  | none => pure CL_INVALID_DEVICE
  | some origin =>
      match metalDevice host origin with
      | some d =>
          answer (deviceInfoCases host (newDevice host d)) paramName paramValueSize paramValue
            paramValueSizeRet
      | none => throw .danglingReference

/-- The catalogue under a command. -/
def serve : Command Dev → Swift Client Response
  | .getPlatformIDs numEntries platforms numPlatforms =>
      .status <$> clGetPlatformIDs host numEntries platforms numPlatforms
  | .getPlatformInfo platform paramName paramValueSize paramValue paramValueSizeRet => do
      .status <$> clGetPlatformInfo host ((← get).platformIDs.cell platform) paramName
        paramValueSize paramValue paramValueSizeRet
  | .getDeviceIDs platform deviceType numEntries devices numDevices => do
      .status <$> clGetDeviceIDs host ((← get).platformIDs.cell platform) deviceType numEntries
        devices numDevices
  | .getDeviceInfo device paramName paramValueSize paramValue paramValueSizeRet => do
      .status <$> clGetDeviceInfo host ((← get).deviceIDs.cell device) paramName paramValueSize
        paramValue paramValueSizeRet
  | .copyDevice source target => do
      modify fun c => { c with deviceIDs := c.deviceIDs.store target (c.deviceIDs.cell source) }
      return .done
  | .clearDevice cell => do
      modify fun c => { c with deviceIDs := c.deviceIDs.store cell none }
      return .done
  | .overwrite buffers platformIDs counts => do
      modify fun c => { c with buffers := buffers, platformIDs := platformIDs, counts := counts }
      return .done
  | .platformDefault => (fun _ => .done) <$> outcome (platformCheck host)
  | .deviceDefault => (fun _ => .done) <$> outcome (platformCheck host)
  | .devices type => (fun origins => .count origins.length) <$> outcome (selected host type)
  | .newDevice _ => pure .done
  | .extensionsWithVersion => .nameVersions <$> outcome (extensionsWithVersion host)
  | .extensions =>
      (fun l => .names (l.map CLNameVersion.name)) <$> outcome (extensionsWithVersion host)

end Catalogue

end MoltenCL
