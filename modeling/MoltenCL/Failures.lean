import MoltenCL.Isolation

/-! # Failed calls

What a client may rely on when a C function refuses its call, whatever the process has done
before. The status is a declared error. Nothing in the client's memory has changed but the size a
query reports, so its arrays, counts and buffers are as they were. And the call has left no trace
in the library: whatever statics it has initialised, a client is served after it as before it
(`failure_leaves_no_trace`).
-/

namespace MoltenCL

open Foundation Swift

/-! ## Error codes -/

/-- The errors of OpenCL. -/
inductive CLErrorCode where
  | success
  | deviceNotFound
  | deviceNotAvailable
  | compilerNotAvailable
  | memoryObjectAllocationFailure
  | outOfResources
  | outOfHostMemory
  | profilingInfoNotAvailable
  | memoryCopyOverlap
  | imageFormatMismatch
  | imageFormatNotSupported
  | buildProgramFailure
  | mapFailure
  | misalignedSubBufferOffset
  | executionStatusErrorForEventsInWaitList
  | compileProgramFailure
  | linkerNotAvailable
  | linkPrograrmFailure
  | devicePartitionFailed
  | kernelArgumentInfoNotAvailable
  | invalidValue
  | invalidDeviceType
  | invalidPlatform
  | invalidDevice
  | invalidContext
  | invalidQueueProperties
  | invalidCommandQueue
  | invalidHostPointer
  | invalidMemoryObject
  | invalidImageFormatDescriptor
  | invalidImageSize
  | invalidSampler
  | invalidBinary
  | invalidBuildOptions
  | invalidProgram
  | invalidProgramExecutable
  | invalidKernelName
  | invalidKernelDefinition
  | invalidKernel
  | invalidArgumentIndex
  | invalidArgumentValue
  | invalidArgumentSize
  | invalidKernelArguments
  | invalidWorkDimension
  | invalidWorkGroupSize
  | invalidWorkItemSize
  | invalidGlobalOffset
  | invalidEventWaitList
  | invalidEvent
  | invalidOperation
  | invalidGLObject
  | invalidBufferSize
  | invalidMipLevel
  | invalidGlobalWorkSize
  | invalidProperty
  | invalidImageDescriptor
  | invalidCompilerOptions
  | invalidLinkerOptions
  | invalidDevicePartitionCount
  | invalidPipeSize
  | invalidDeviceQueue
  | invalidSpecializationConstantID
  | maxSizeRestrictionExceeded
deriving DecidableEq

namespace CLErrorCode

/-- The number of a case. -/
def rawValue : CLErrorCode → Int32
  | .success => 0
  | .deviceNotFound => -1
  | .deviceNotAvailable => -2
  | .compilerNotAvailable => -3
  | .memoryObjectAllocationFailure => -4
  | .outOfResources => -5
  | .outOfHostMemory => -6
  | .profilingInfoNotAvailable => -7
  | .memoryCopyOverlap => -8
  | .imageFormatMismatch => -9
  | .imageFormatNotSupported => -10
  | .buildProgramFailure => -11
  | .mapFailure => -12
  | .misalignedSubBufferOffset => -13
  | .executionStatusErrorForEventsInWaitList => -14
  | .compileProgramFailure => -15
  | .linkerNotAvailable => -16
  | .linkPrograrmFailure => -17
  | .devicePartitionFailed => -18
  | .kernelArgumentInfoNotAvailable => -19
  | .invalidValue => -30
  | .invalidDeviceType => -31
  | .invalidPlatform => -32
  | .invalidDevice => -33
  | .invalidContext => -34
  | .invalidQueueProperties => -35
  | .invalidCommandQueue => -36
  | .invalidHostPointer => -37
  | .invalidMemoryObject => -38
  | .invalidImageFormatDescriptor => -39
  | .invalidImageSize => -40
  | .invalidSampler => -41
  | .invalidBinary => -42
  | .invalidBuildOptions => -43
  | .invalidProgram => -44
  | .invalidProgramExecutable => -45
  | .invalidKernelName => -46
  | .invalidKernelDefinition => -47
  | .invalidKernel => -48
  | .invalidArgumentIndex => -49
  | .invalidArgumentValue => -50
  | .invalidArgumentSize => -51
  | .invalidKernelArguments => -52
  | .invalidWorkDimension => -53
  | .invalidWorkGroupSize => -54
  | .invalidWorkItemSize => -55
  | .invalidGlobalOffset => -56
  | .invalidEventWaitList => -57
  | .invalidEvent => -58
  | .invalidOperation => -59
  | .invalidGLObject => -60
  | .invalidBufferSize => -61
  | .invalidMipLevel => -62
  | .invalidGlobalWorkSize => -63
  | .invalidProperty => -64
  | .invalidImageDescriptor => -65
  | .invalidCompilerOptions => -66
  | .invalidLinkerOptions => -67
  | .invalidDevicePartitionCount => -68
  | .invalidPipeSize => -69
  | .invalidDeviceQueue => -70
  | .invalidSpecializationConstantID => -71
  | .maxSizeRestrictionExceeded => -72

def allCases : List CLErrorCode :=
  [.success, .deviceNotFound, .deviceNotAvailable, .compilerNotAvailable,
   .memoryObjectAllocationFailure, .outOfResources, .outOfHostMemory, .profilingInfoNotAvailable,
   .memoryCopyOverlap, .imageFormatMismatch, .imageFormatNotSupported, .buildProgramFailure,
   .mapFailure, .misalignedSubBufferOffset, .executionStatusErrorForEventsInWaitList,
   .compileProgramFailure, .linkerNotAvailable, .linkPrograrmFailure, .devicePartitionFailed,
   .kernelArgumentInfoNotAvailable, .invalidValue, .invalidDeviceType, .invalidPlatform,
   .invalidDevice, .invalidContext, .invalidQueueProperties, .invalidCommandQueue,
   .invalidHostPointer, .invalidMemoryObject, .invalidImageFormatDescriptor, .invalidImageSize,
   .invalidSampler, .invalidBinary, .invalidBuildOptions, .invalidProgram,
   .invalidProgramExecutable, .invalidKernelName, .invalidKernelDefinition, .invalidKernel,
   .invalidArgumentIndex, .invalidArgumentValue, .invalidArgumentSize, .invalidKernelArguments,
   .invalidWorkDimension, .invalidWorkGroupSize, .invalidWorkItemSize, .invalidGlobalOffset,
   .invalidEventWaitList, .invalidEvent, .invalidOperation, .invalidGLObject, .invalidBufferSize,
   .invalidMipLevel, .invalidGlobalWorkSize, .invalidProperty, .invalidImageDescriptor,
   .invalidCompilerOptions, .invalidLinkerOptions, .invalidDevicePartitionCount,
   .invalidPipeSize, .invalidDeviceQueue, .invalidSpecializationConstantID,
   .maxSizeRestrictionExceeded]

/-- `init?(rawValue:)`: the case with a raw value, if there is one. -/
def ofRawValue (rawValue : Int32) : Option CLErrorCode :=
  allCases.find? fun error => error.rawValue = rawValue

/-- The list is complete. -/
theorem mem_allCases (error : CLErrorCode) : error ∈ allCases := by
  cases error <;> decide

/-- No two cases have one number. -/
theorem rawValue_nodup : (allCases.map rawValue).Nodup := by decide

/-- Every error is found by its raw value. -/
theorem ofRawValue_eq_some {code : Int32} {error : CLErrorCode} :
    ofRawValue code = some error ↔ error.rawValue = code := by
  constructor
  · intro h
    simpa using List.find?_some h
  · rintro rfl
    cases hfind : ofRawValue error.rawValue with
    | none =>
        have hnone := List.find?_eq_none.mp hfind error (mem_allCases error)
        simp at hnone
    | some found =>
        have hraw : found.rawValue = error.rawValue := by simpa using List.find?_some hfind
        exact congrArg some (List.inj_on_of_nodup_map rawValue_nodup (mem_allCases found)
          (mem_allCases error) hraw)

end CLErrorCode

variable {Dev : Type} {host : Host Dev}

/-! ## Refusals -/

/-- The cell a command has its size reported to. -/
def Command.sizeCell : Command Dev → Option ℕ
  | .getPlatformInfo _ _ _ _ paramValueSizeRet => paramValueSizeRet
  | .getDeviceInfo _ _ _ _ paramValueSizeRet => paramValueSizeRet
  | _ => none

/-- The errors the C functions return. -/
def CLErrorCode.returned : List CLErrorCode :=
  [.deviceNotFound, .invalidValue, .invalidDeviceType, .invalidPlatform, .invalidDevice]

/-- A refusal with the status `code` turns the buffers `b` into `b'`: an invalid query may report
the size of its answer, and no other error changes anything. -/
inductive Refuses (sizeCell : Option ℕ) (b : Buffers) : Int32 → Buffers → Prop
  | error (error : CLErrorCode) (h : error ∈ CLErrorCode.returned) :
      Refuses sizeCell b error.rawValue b
  | short (size : ℕ) : Refuses sizeCell b CL_INVALID_VALUE (b.report sizeCell size)

/-- The status of a refusal is one of the declared cases. -/
theorem Refuses.declared {sizeCell : Option ℕ} {b b' : Buffers} {code : Int32}
    (h : Refuses sizeCell b code b') :
    ∃ error ∈ CLErrorCode.returned, CLErrorCode.ofRawValue code = some error := by
  cases h with
  | error error h => exact ⟨error, h, CLErrorCode.ofRawValue_eq_some.mpr rfl⟩
  | short size => exact ⟨.invalidValue, by decide, CLErrorCode.ofRawValue_eq_some.mpr rfl⟩

/-- What fails in the catalogue with a status is refused, and leaves the client its memory. -/
def FailsClean (sizeCell : Option ℕ) (x : Swift Client Int32) : Prop :=
  ∀ c code c', x.run c = .ok (code, c') → code ≠ CL_SUCCESS →
    ∃ b, Refuses sizeCell c.buffers code b ∧ c' = { c with buffers := b }

/-- Returning one of the codes and doing nothing. -/
theorem failsClean_pure (sizeCell : Option ℕ) (error : CLErrorCode)
    (herror : error ∈ CLErrorCode.returned) : FailsClean sizeCell (pure error.rawValue) := by
  rintro c code c' ⟨⟩ -
  exact ⟨c.buffers, .error error herror, rfl⟩

/-- A trap returns no status. -/
theorem failsClean_throw (sizeCell : Option ℕ) (e : Trap) : FailsClean sizeCell (throw e) := by
  intro c code c' h
  cases h

/-- An outcome stores nothing, so what follows decides. -/
theorem failsClean_outcome {α : Type} {sizeCell : Option ℕ} {r : Except Trap α}
    {f : α → Swift Client Int32} (hf : ∀ a, FailsClean sizeCell (f a)) :
    FailsClean sizeCell (Catalogue.outcome r >>= f) := by
  cases r with
  | ok a => exact hf a
  | error e => exact failsClean_throw sizeCell e

/-- A query that fails has reported a size at most. -/
theorem failsClean_answer (cases : List (Int32 × Swift (Runtime Dev) InfoValue))
    (paramName : UInt32) (capacity : ℤ) (value size : Option ℕ) :
    FailsClean size (Catalogue.answer cases paramName capacity value size) := by
  intro c code c' h hne
  cases hlookup : cases.lookup paramName.toInt32 with
  | none =>
      rw [Catalogue.run_answer_none hlookup] at h
      exact failsClean_pure size .invalidValue (by decide) c code c' h hne
  | some property =>
      rw [Catalogue.run_answer_some hlookup] at h
      cases hvalue : freshly property with
      | error e =>
          rw [hvalue] at h
          cases h
      | ok v =>
          rw [hvalue] at h
          cases hresponse : v.answer.respond CL_SUCCESS CL_INVALID_VALUE capacity value size
            c.buffers with
          | mk status b =>
              simp only [Except.map, hresponse] at h
              cases h
              rcases v.answer.respond_refuses capacity size c.buffers hresponse hne with ⟨rfl, rfl⟩
              exact ⟨_, .short v.answer.size, rfl⟩

/-- An invalid call stores nothing. -/
theorem failsClean_clGetPlatformIDs (numEntries : UInt32) (platforms numPlatforms : Option ℕ) :
    FailsClean none (Catalogue.clGetPlatformIDs host numEntries platforms numPlatforms) := by
  intro c code c' h hne
  by_cases hunchecked : InvalidEnumeration numEntries.toNat platforms numPlatforms ∨
      platforms = none
  · rw [Catalogue.run_clGetPlatformIDs_unchecked host hunchecked] at h
    cases hresponse : enumerate CL_SUCCESS CL_INVALID_VALUE [CLPlatform.mk] numEntries.toNat
      platforms numPlatforms c.platformArrays with
    | mk status m =>
        simp only [hresponse] at h
        cases h
        rcases enumerate_refuses hresponse hne with ⟨rfl, rfl⟩
        exact ⟨c.buffers, .error .invalidValue (by decide), rfl⟩
  · rw [not_or] at hunchecked
    rw [Catalogue.run_clGetPlatformIDs_checked host hunchecked.1 hunchecked.2] at h
    -- a call that passes the check succeeds
    cases hcheck : Catalogue.platformCheck host with
    | error e =>
        rw [hcheck] at h
        cases h
    | ok p =>
        rw [hcheck] at h
        cases h
        exact absurd rfl hne

/-- Without a platform nothing is reported. -/
theorem failsClean_clGetPlatformInfo (platform : Option CLPlatform) (paramName : UInt32)
    (capacity : ℤ) (value size : Option ℕ) :
    FailsClean size (Catalogue.clGetPlatformInfo host platform paramName capacity value size) := by
  cases platform with
  | none => exact failsClean_pure size .invalidPlatform (by decide)
  | some p => exact failsClean_answer _ paramName capacity value size

/-- Nothing selected and an invalid call are both found before the first store. -/
theorem failsClean_offer (origins : List Origin) (numEntries : UInt32)
    (devices numDevices : Option ℕ) :
    FailsClean none (Catalogue.offer origins numEntries devices numDevices) := by
  intro c code c' h hne
  rw [Catalogue.run_offer] at h
  split_ifs at h
  · cases h
    exact ⟨c.buffers, .error .deviceNotFound (by decide), rfl⟩
  · cases hresponse : enumerate CL_SUCCESS CL_INVALID_VALUE origins numEntries.toNat devices
      numDevices c.deviceArrays with
    | mk status m =>
        simp only [hresponse] at h
        cases h
        rcases enumerate_refuses hresponse hne with ⟨rfl, rfl⟩
        exact ⟨c.buffers, .error .invalidValue (by decide), rfl⟩

/-- A refused mask is found before anything is selected. -/
theorem failsClean_clGetDeviceIDs (platform : Option CLPlatform) (deviceType : UInt64)
    (numEntries : UInt32) (devices numDevices : Option ℕ) :
    FailsClean none
      (Catalogue.clGetDeviceIDs host platform deviceType numEntries devices numDevices) := by
  cases platform with
  | none => exact failsClean_pure none .invalidPlatform (by decide)
  | some p =>
      unfold Catalogue.clGetDeviceIDs
      simp only
      split_ifs
      · exact failsClean_pure none .invalidDeviceType (by decide)
      · apply failsClean_outcome
        intro origins
        exact failsClean_offer origins numEntries devices numDevices

variable [DecidableEq Dev]

/-- Without a device nothing is reported. -/
theorem failsClean_clGetDeviceInfo (device : Option Origin) (paramName : UInt32) (capacity : ℤ)
    (value size : Option ℕ) :
    FailsClean size (Catalogue.clGetDeviceInfo host device paramName capacity value size) := by
  cases device with
  | none => exact failsClean_pure size .invalidDevice (by decide)
  | some origin =>
      unfold Catalogue.clGetDeviceInfo
      simp only
      cases Catalogue.metalDevice host origin with
      | none => exact failsClean_throw size _
      | some d => exact failsClean_answer _ paramName capacity value size

/-- **Every command of the catalogue fails clean.** -/
theorem Catalogue.serve_fails {command : Command Dev} {c c' : Client} {code : Int32}
    (h : (Catalogue.serve host command).run c = .ok (.status code, c')) (hne : code ≠ CL_SUCCESS) :
    ∃ b, Refuses command.sizeCell c.buffers code b ∧ c' = { c with buffers := b } := by
  have hclean : ∀ {sizeCell : Option ℕ} {x : Swift Client Int32}, FailsClean sizeCell x →
      (Response.status <$> x).run c = .ok (.status code, c') →
      ∃ b, Refuses sizeCell c.buffers code b ∧ c' = { c with buffers := b } := by
    intro sizeCell x hx hrun
    rcases run_map_eq_ok_iff.mp hrun with ⟨status, hrun, heq⟩
    cases heq
    exact hx c code c' hrun hne
  have hother : ∀ {α : Type} {x : Swift Client α} {f : α → Response},
      (f <$> x).run c = .ok (.status code, c') → ∃ a, f a = .status code := by
    intro α x f hrun
    rcases run_map_eq_ok_iff.mp hrun with ⟨a, -, heq⟩
    exact ⟨a, heq⟩
  cases command with
  | getPlatformIDs numEntries platforms numPlatforms =>
      exact hclean (failsClean_clGetPlatformIDs _ _ _) h
  | getPlatformInfo platform paramName capacity value size =>
      exact hclean (failsClean_clGetPlatformInfo (c.platformIDs.cell platform) _ _ _ _) h
  | getDeviceIDs platform deviceType numEntries devices numDevices =>
      exact hclean (failsClean_clGetDeviceIDs (c.platformIDs.cell platform) _ _ _ _) h
  | getDeviceInfo device paramName capacity value size =>
      exact hclean (failsClean_clGetDeviceInfo (c.deviceIDs.cell device) _ _ _ _) h
  | copyDevice source target => cases h
  | clearDevice cell => cases h
  | overwrite buffers platformIDs counts => cases h
  | platformDefault =>
      rcases hother h with ⟨a, heq⟩
      cases heq
  | deviceDefault =>
      rcases hother h with ⟨a, heq⟩
      cases heq
  | devices type =>
      rcases hother h with ⟨a, heq⟩
      cases heq
  | newDevice mtlDevice => cases h
  | extensionsWithVersion =>
      rcases hother h with ⟨a, heq⟩
      cases heq
  | extensions =>
      rcases hother h with ⟨a, heq⟩
      cases heq

/-! ## The library -/

omit [DecidableEq Dev] in
/-- A later world whose handles have the same names has the same handles. -/
theorem Represents.deviceIDs_eq {w w' : World Dev} {c c' : Client} (h : Represents host w c)
    (h' : Represents host w' c') (hgrows : w.runtime.Grows w'.runtime)
    (hdevices : c'.deviceIDs = c.deviceIDs) : w'.deviceIDs = w.deviceIDs := by
  apply Memory.ext
  funext a
  have hcell : Option.Rel w'.runtime.Names (w.deviceIDs.cell a) (c.deviceIDs.cell a) :=
    rel_mono (h.deviceArrays.handles a) fun _ _ => hgrows.names
  have hcell' : Option.Rel w'.runtime.Names (w'.deviceIDs.cell a) (c'.deviceIDs.cell a) :=
    h'.deviceArrays.handles a
  rw [hdevices] at hcell'
  exact (rel_eq_iff (fun _ _ _ _ => h'.sound.1.names_injective) hcell' hcell).mpr rfl

/-- **A failed call leaves no trace.** Whatever the process has done before, a C function that
fails returns a declared error and has changed nothing of the client's memory but the size a query
reports. Every client is served in the world after the call as in the world before it. -/
theorem failure_leaves_no_trace {w w' : World Dev} (hw : Reachable host w)
    (hgiven : w.HandlesGiven) {command : Command Dev} {code : Int32}
    (hrun : (serve host command).run w = .ok (.status code, w')) (hne : code ≠ CL_SUCCESS) :
    (∃ error ∈ CLErrorCode.returned, CLErrorCode.ofRawValue code = some error) ∧
    ∃ b, Refuses command.sizeCell w.buffers code b ∧
      w' = { w with buffers := b, runtime := w'.runtime } ∧
      ∀ next turns, Agree (fun s s' : World Dev => s.observe = s'.observe)
        ((library host next turns []).run w')
        ((library host next turns []).run { w with buffers := b }) := by
  rcases hw.exists_represents hgiven with ⟨c, h⟩
  rcases (simulates_serve command w c h).related_of_left hrun with ⟨c', hrun', h'⟩
  have hgrows := (serve_respects host command w _ w' hw.sound hrun).2
  rcases Catalogue.serve_fails hrun' hne with ⟨b, hb, rfl⟩
  rw [← h.buffers] at hb
  refine ⟨hb.declared, b, hb, ?_, ?_⟩
  · have hdevices := h.deviceIDs_eq h' hgrows rfl
    have hplatforms : w'.platformIDs = w.platformIDs := h'.platformIDs.trans h.platformIDs.symm
    have hcounts : w'.counts = w.counts :=
      h'.deviceArrays.counts.trans h.deviceArrays.counts.symm
    have hbuffers : w'.buffers = b := h'.buffers
    rw [← hdevices, ← hplatforms, ← hcounts, ← hbuffers]
  · intro next turns
    -- without the call the client holds the same names, over the runtime before it
    have hbefore : Represents host { w with buffers := b } { c with buffers := b } :=
      ⟨h.sound, rfl, h.platformIDs, h.deviceArrays⟩
    have hagree := simulates_client next turns [] w' _ h'
    have hagree' := simulates_client next turns [] _ _ hbefore
    apply (hagree.join hagree').mono
    rintro s s' ⟨t, hs, hs'⟩
    exact hs.observe.trans hs'.observe.symm

/-- A client that holds the platform, over the runtime `rt`. -/
def Host.oneGPU.holdingPlatform (rt : Runtime ℕ) : World ℕ :=
  { World.cleared rt with platformIDs := ⟨fun _ => some {}⟩ }

/-- The runtime of a process that has used the default device. -/
def Host.oneGPU.defaultUsed : Runtime ℕ where
  heap := [newDevice Host.oneGPU 0]
  platformDefault := some {}
  deviceDefault := some 0

/-- Asking for the default device and giving no place for the answer: the call fails after it has
created the device. -/
theorem failure_leaves_no_trace_oneGPU :
    (∃ error ∈ CLErrorCode.returned, CLErrorCode.ofRawValue CL_INVALID_VALUE = some error) ∧
    ∃ b, Refuses none (Host.oneGPU.holdingPlatform {}).buffers CL_INVALID_VALUE b ∧
      Host.oneGPU.holdingPlatform Host.oneGPU.defaultUsed =
        { Host.oneGPU.holdingPlatform {} with
          buffers := b, runtime := Host.oneGPU.defaultUsed } ∧
      ∀ next turns, Agree (fun s s' : World ℕ => s.observe = s'.observe)
        ((library Host.oneGPU next turns []).run
          (Host.oneGPU.holdingPlatform Host.oneGPU.defaultUsed))
        ((library Host.oneGPU next turns []).run
          { Host.oneGPU.holdingPlatform {} with buffers := b }) := by
  have hrun : (serve Host.oneGPU (.getDeviceIDs 0 0x1 0 none none)).run
      (Host.oneGPU.holdingPlatform {}) =
        .ok (.status CL_INVALID_VALUE, Host.oneGPU.holdingPlatform Host.oneGPU.defaultUsed) := rfl
  exact failure_leaves_no_trace (.fresh _ rfl) (fun _ _ h => by cases h) hrun (by decide)

end MoltenCL
