import MoltenCL.Session

/-! # Queries of a session

What holds of `clGetPlatformInfo` and `clGetDeviceInfo` in every reachable world:

* a query that has a value keeps the two-call law with the size of that value, for
  the rest of the session (`queries_twoCall`);
* a device query answers as the property of its name does, and does not trap, under
  the exact condition `AnswersAlike` (`deviceQuery_likeNamed_iff`). One case of the
  table is wired to the property of its neighbour.
-/

namespace MoltenCL

open Foundation Swift

variable {Dev : Type} (host : Host Dev)

/-! ## The two-call law over a session -/

section TwoCall

variable [DecidableEq Dev]

/-- `w'` is a world that the session of `w` can be in later. -/
def Later (w w' : World Dev) : Prop := Reachable host w' ∧ w.Grows w'

variable {host}

theorem Later.refl {w : World Dev} (h : Reachable host w) : Later host w w :=
  ⟨h, World.Grows.refl w⟩

/-- A completed call that gives out no handle leads to a later world. -/
theorem Later.step {w w' w'' : World Dev} (h : Later host w w') {α : Type} {a : α}
    {x : Swift (World Dev) α} (e : Event Dev) (he : MoltenCL.step host e = silently x)
    (hx : x.run w' = .ok (a, w'')) : Later host w w'' := by
  have hstep : (MoltenCL.step host e).run w' = .ok ([], w'') := by
    rw [he, silently, StateT.run_bind, hx]
    rfl
  rcases step_respects host e _ _ _ h.1.valid hstep with ⟨-, hgrows⟩
  exact ⟨.step e [] h.1 hstep, World.Grows.trans _ _ _ h.2 hgrows⟩

/-- A property keeps its value for the rest of the session. -/
theorem Later.value {w w' : World Dev} (h : Later host w w') (hw : Reachable host w)
    {property : Swift (Runtime Dev) InfoValue} (hproperty : Readable host property)
    {v : InfoValue} {rt' : Runtime Dev} (hrun : property.run w.runtime = .ok (v, rt')) :
    ∃ rt'', property.run w'.runtime = .ok (v, rt'') :=
  hproperty.stable _ _ _ _ hw.valid h.1.valid h.2 hrun

variable (host)

/-- **The two-call protocol.** Every value that passes its writer's precondition is
written under the two-call law, and a query that has a value obeys the law with the
size of that value in every later world of the session. -/
theorem queries_twoCall :
    (∀ v : InfoValue, v.NamesFit →
      TwoCallLaw (fun _ => True) id CL_SUCCESS CL_INVALID_VALUE v.answer.size v.writeInfo ∧
        ∀ b, SizeThenFetch id CL_SUCCESS v.writeInfo b) ∧
    (∀ (p : CLPlatform) (paramName : UInt32) (property : Swift (Runtime Dev) InfoValue)
        (w : World Dev) (v : InfoValue) (rt' : Runtime Dev),
      Reachable host w →
      (platformInfoCases host).lookup paramName.toInt32 = some property →
      property.run w.runtime = .ok (v, rt') →
        TwoCallLaw (Later host w) World.buffers CL_SUCCESS CL_INVALID_VALUE v.answer.size
            (clGetPlatformInfo host (some p) paramName) ∧
          SizeThenFetch World.buffers CL_SUCCESS (clGetPlatformInfo host (some p) paramName) w) ∧
    ∀ (ref : DeviceRef) (device : CLDevice Dev) (paramName : UInt32)
        (property : Swift (Runtime Dev) InfoValue) (w : World Dev) (v : InfoValue)
        (rt' : Runtime Dev),
      Reachable host w → w.runtime.heap[ref]? = some device →
      (deviceInfoCases host device).lookup paramName.toInt32 = some property →
      property.run w.runtime = .ok (v, rt') →
        TwoCallLaw (Later host w) World.buffers CL_SUCCESS CL_INVALID_VALUE v.answer.size
            (clGetDeviceInfo host (some ref) paramName) ∧
          SizeThenFetch World.buffers CL_SUCCESS (clGetDeviceInfo host (some ref) paramName) w := by
  refine ⟨?_, ?_, ?_⟩
  · intro v hv
    exact ⟨writeInfo_law hv, fun b => (writeInfo_law hv).sizeThenFetch trivial⟩
  · intro p paramName property w v rt' hw hlookup hrun
    -- later worlds respond with the same answer, and a query leads to a later world
    have hproperty := platformInfoCases_readable host _ (mem_of_lookup hlookup)
    have hresponds : Responds (Later host w) World.buffers CL_SUCCESS CL_INVALID_VALUE v.answer
        (clGetPlatformInfo host (some p) paramName) :=
      (responds_answerQuery hlookup (hproperty.namesFit _ _ _ hrun)).mono
        fun w' hw' => hw'.value hw hproperty hrun
    have hlaw := hresponds.twoCallLaw success_ne_invalidValue
      fun capacity value size w' status w'' hw' hcall =>
        hw'.step (.getPlatformInfo (some p) paramName capacity value size) rfl hcall
    exact ⟨hlaw, hlaw.sizeThenFetch (Later.refl hw)⟩
  · intro ref device paramName property w v rt' hw hdevice hlookup hrun
    have hproperty := deviceInfoCases_readable host device _ (mem_of_lookup hlookup)
    have hresponds : Responds (Later host w) World.buffers CL_SUCCESS CL_INVALID_VALUE v.answer
        (clGetDeviceInfo host (some ref) paramName) :=
      (responds_clGetDeviceInfo host hlookup (hproperty.namesFit _ _ _ hrun)).mono
        fun w' hw' => ⟨hw'.2.object hdevice, hw'.value hw hproperty hrun⟩
    have hlaw := hresponds.twoCallLaw success_ne_invalidValue
      fun capacity value size w' status w'' hw' hcall =>
        hw'.step (.getDeviceInfo (some ref) paramName capacity value size) rfl hcall
    exact ⟨hlaw, hlaw.sizeThenFetch (Later.refl hw)⟩

end TwoCall

/-- A session that has created one device object. -/
theorem reachable_oneDevice :
    Reachable Host.oneGPU (World.cleared { heap := [newDevice Host.oneGPU 0] }) :=
  .step (.newDevice 0) [] (.fresh (World.cleared {}) rfl) rfl

/-- The law for a name, and for the queries of one platform and one device. -/
theorem queries_twoCall_oneGPU :
    TwoCallLaw (fun _ => True) id CL_SUCCESS CL_INVALID_VALUE 6
        (InfoValue.string CLPlatform.name).writeInfo ∧
      SizeThenFetch World.buffers CL_SUCCESS
        (clGetPlatformInfo Host.oneGPU (some {}) CL_PLATFORM_NAME.toUInt32) (World.cleared {}) ∧
      SizeThenFetch World.buffers CL_SUCCESS
        (clGetDeviceInfo Host.oneGPU (some 0) CL_DEVICE_ILS_WITH_VERSION.toUInt32)
        (World.cleared { heap := [newDevice Host.oneGPU 0] }) := by
  rcases queries_twoCall Host.oneGPU with ⟨hwriter, hplatform, hdevice⟩
  refine ⟨(hwriter (.string CLPlatform.name) trivial).1, ?_, ?_⟩
  · exact (hplatform {} CL_PLATFORM_NAME.toUInt32 (pure (.string CLPlatform.name))
      (World.cleared {}) _ _ (.fresh _ rfl) rfl rfl).2
  · exact (hdevice 0 (newDevice Host.oneGPU 0) CL_DEVICE_ILS_WITH_VERSION.toUInt32
      (pure (.arrayOfCLNameVersion CLDevice.ilsWithVersion))
      (World.cleared { heap := [newDevice Host.oneGPU 0] }) _ _ reachable_oneDevice rfl rfl
      rfl).2

/-! ## The property of the same name -/

/-- When a device query can be answered: the name is not the one that is wired to its
neighbour, the type can be told, and what Metal answers is in the range of the
unsigned type. -/
structure Answerable (device : CLDevice Dev) (name : Int32) : Prop where
  wired : name ≠ CL_DEVICE_MAX_WORK_ITEM_DIMENSIONS
  type : name = CL_DEVICE_TYPE → ComesUp host
  allocation : name = CL_DEVICE_MAX_MEM_ALLOC_SIZE →
    0 ≤ (host.maxBufferLength device.mtlDevice).toInt
  alignment : name = CL_DEVICE_IMAGE_PITCH_ALIGNMENT ∨
      name = CL_DEVICE_IMAGE_BASE_ADDRESS_ALIGNMENT →
    0 ≤ (host.minimumLinearTextureAlignment device.mtlDevice).toInt ∧
      (host.minimumLinearTextureAlignment device.mtlDevice).toInt < 2 ^ 32

/-- A name without a condition. -/
theorem answerable_of_notMem {device : CLDevice Dev} {name : Int32}
    (h : name ∉ [CL_DEVICE_MAX_WORK_ITEM_DIMENSIONS, CL_DEVICE_TYPE,
      CL_DEVICE_MAX_MEM_ALLOC_SIZE, CL_DEVICE_IMAGE_PITCH_ALIGNMENT,
      CL_DEVICE_IMAGE_BASE_ADDRESS_ALIGNMENT]) : Answerable host device name := by
  simp only [List.mem_cons, List.not_mem_nil, or_false, not_or] at h
  rcases h with ⟨hdimensions, htype, hallocation, hpitch, hbase⟩
  exact ⟨hdimensions, fun h => absurd h htype, fun h => absurd h hallocation,
    fun h => h.elim (absurd · hpitch) (absurd · hbase)⟩

variable [DecidableEq Dev]

/-- Every `param_name` of a device query with the property of its name. The naming
conventions spell out `ALLOC`, `ARG` and `MEM`, and turn a boolean into a verb. -/
def likeNamedProperties (device : CLDevice Dev) :
    List (Int32 × Swift (Runtime Dev) InfoValue) :=
  [(CL_DEVICE_TYPE, (fun type => .uint64 ⟨type.rawValue⟩) <$> device.type host),
   (CL_DEVICE_VENDOR_ID, pure (.uint32 CLDevice.vendorID)),
   (CL_DEVICE_MAX_COMPUTE_UNITS, .uint32 <$> CLDevice.maxComputeUnits),
   (CL_DEVICE_MAX_WORK_ITEM_DIMENSIONS, pure (.uint32 CLDevice.maxWorkItemDimensions)),
   (CL_DEVICE_MAX_WORK_ITEM_SIZES, pure (.arrayOfInt (device.maxWorkItemSizes host))),
   (CL_DEVICE_MAX_WORK_GROUP_SIZE, pure (.int (device.maxWorkGroupSize host))),
   (CL_DEVICE_PREFERRED_VECTOR_WIDTH_CHAR, pure (.uint32 device.preferredVectorWidthChar)),
   (CL_DEVICE_PREFERRED_VECTOR_WIDTH_SHORT, pure (.uint32 device.preferredVectorWidthShort)),
   (CL_DEVICE_PREFERRED_VECTOR_WIDTH_INT, pure (.uint32 CLDevice.preferredVectorWidthInt)),
   (CL_DEVICE_PREFERRED_VECTOR_WIDTH_LONG, pure (.uint32 CLDevice.preferredVectorWidthLong)),
   (CL_DEVICE_PREFERRED_VECTOR_WIDTH_FLOAT, pure (.uint32 CLDevice.preferredVectorWidthFloat)),
   (CL_DEVICE_PREFERRED_VECTOR_WIDTH_DOUBLE, pure (.uint32 CLDevice.preferredVectorWidthDouble)),
   (CL_DEVICE_PREFERRED_VECTOR_WIDTH_HALF, pure (.uint32 CLDevice.preferredVectorWidthHalf)),
   (CL_DEVICE_NATIVE_VECTOR_WIDTH_CHAR, pure (.uint32 device.nativeVectorWidthChar)),
   (CL_DEVICE_NATIVE_VECTOR_WIDTH_SHORT, pure (.uint32 device.nativeVectorWidthShort)),
   (CL_DEVICE_NATIVE_VECTOR_WIDTH_INT, pure (.uint32 CLDevice.nativeVectorWidthInt)),
   (CL_DEVICE_NATIVE_VECTOR_WIDTH_LONG, pure (.uint32 CLDevice.nativeVectorWidthLong)),
   (CL_DEVICE_NATIVE_VECTOR_WIDTH_FLOAT, pure (.uint32 CLDevice.nativeVectorWidthFloat)),
   (CL_DEVICE_NATIVE_VECTOR_WIDTH_DOUBLE, pure (.uint32 CLDevice.nativeVectorWidthDouble)),
   (CL_DEVICE_NATIVE_VECTOR_WIDTH_HALF, pure (.uint32 CLDevice.nativeVectorWidthHalf)),
   (CL_DEVICE_MAX_CLOCK_FREQUENCY, .uint32 <$> CLDevice.maxClockFrequency),
   (CL_DEVICE_ADDRESS_BITS, pure (.uint32 (device.addressBits host))),
   (CL_DEVICE_MAX_MEM_ALLOC_SIZE, .uint64 <$> device.maxMemoryAllocationSize host),
   (CL_DEVICE_IMAGE_SUPPORT, pure (.bool CLDevice.supportsImages)),
   (CL_DEVICE_MAX_READ_IMAGE_ARGS, pure (.uint32 CLDevice.maxReadImageArguments)),
   (CL_DEVICE_MAX_WRITE_IMAGE_ARGS, pure (.uint32 CLDevice.maxWriteImageArguments)),
   (CL_DEVICE_MAX_READ_WRITE_IMAGE_ARGS, pure (.uint32 CLDevice.maxReadWriteImageArguments)),
   (CL_DEVICE_IL_VERSION, pure (.arrayOfString CLDevice.ilVersions)),
   (CL_DEVICE_ILS_WITH_VERSION, pure (.arrayOfCLNameVersion CLDevice.ilsWithVersion)),
   (CL_DEVICE_IMAGE2D_MAX_WIDTH, pure (.int CLDevice.image2DMaxWidth)),
   (CL_DEVICE_IMAGE2D_MAX_HEIGHT, pure (.int CLDevice.image2DMaxHeight)),
   (CL_DEVICE_IMAGE3D_MAX_WIDTH, pure (.int CLDevice.image3DMaxWidth)),
   (CL_DEVICE_IMAGE3D_MAX_HEIGHT, pure (.int CLDevice.image3DMaxHeight)),
   (CL_DEVICE_IMAGE3D_MAX_DEPTH, pure (.int CLDevice.image3DMaxDepth)),
   (CL_DEVICE_IMAGE_MAX_BUFFER_SIZE, pure (.int device.imageMaxBufferSize)),
   (CL_DEVICE_IMAGE_MAX_ARRAY_SIZE, pure (.int CLDevice.imageMaxArraySize)),
   (CL_DEVICE_MAX_SAMPLERS, pure (.uint32 CLDevice.maxSamplers)),
   (CL_DEVICE_IMAGE_PITCH_ALIGNMENT, .uint32 <$> device.imagePitchAlignment host),
   (CL_DEVICE_IMAGE_BASE_ADDRESS_ALIGNMENT, .uint32 <$> device.imageBaseAddressAlignment host),
   (CL_DEVICE_MAX_PIPE_ARGS, pure (.uint32 CLDevice.maxPipeArguments)),
   (CL_DEVICE_PIPE_MAX_ACTIVE_RESERVATIONS, pure (.uint32 CLDevice.pipeMaxActiveReservations)),
   (CL_DEVICE_PIPE_MAX_PACKET_SIZE, pure (.uint32 CLDevice.pipeMaxPacketSize)),
   (CL_DEVICE_MAX_PARAMETER_SIZE, pure (.int CLDevice.maxParameterSize))]

/-- The two queries whose properties are declared as not implemented. -/
def IsStub (name : Int32) : Prop :=
  name = CL_DEVICE_MAX_COMPUTE_UNITS ∨ name = CL_DEVICE_MAX_CLOCK_FREQUENCY

/-- What a client relies on: the query answers as the property of its name does, and
it does not trap. -/
structure AnswersAlike (ref : DeviceRef) (device : CLDevice Dev) (paramName : UInt32)
    (w : World Dev) : Prop where
  agrees : ∀ capacity value size,
    (clGetDeviceInfo host (some ref) paramName capacity value size).run w =
      (answerQuery (likeNamedProperties host device) paramName capacity value size).run w
  returns : ∀ capacity value size, ∃ status w',
    (clGetDeviceInfo host (some ref) paramName capacity value size).run w = .ok (status, w')

/-- The property of a case that is no stub returns exactly if the case is answerable. -/
theorem deviceInfoCases_completes {rt : Runtime Dev} (hv : rt.Valid host)
    (device : CLDevice Dev) :
    ∀ c ∈ deviceInfoCases host device, ¬ IsStub c.1 →
      (Completes c.2 rt ↔ Answerable host device c.1) := by
  have hstub : ∀ function, ¬ Completes (.uint32 <$> notImplementedError function) rt := by
    intro function
    rw [completes_map]
    simp [notImplementedError]
  have htype : Answerable host device CL_DEVICE_TYPE ↔ ComesUp host :=
    ⟨fun h => h.type rfl, fun hup => ⟨by decide, fun _ => hup, fun h => absurd h (by decide),
      fun h => absurd h (by decide)⟩⟩
  have hallocation : Answerable host device CL_DEVICE_MAX_MEM_ALLOC_SIZE ↔
      0 ≤ (host.maxBufferLength device.mtlDevice).toInt :=
    ⟨fun h => h.allocation rfl, fun hsign => ⟨by decide, fun h => absurd h (by decide),
      fun _ => hsign, fun h => absurd h (by decide)⟩⟩
  have hpitch : Answerable host device CL_DEVICE_IMAGE_PITCH_ALIGNMENT ↔
      0 ≤ (host.minimumLinearTextureAlignment device.mtlDevice).toInt ∧
        (host.minimumLinearTextureAlignment device.mtlDevice).toInt < 2 ^ 32 :=
    ⟨fun h => h.alignment (Or.inl rfl), fun hrange => ⟨by decide, fun h => absurd h (by decide),
      fun h => absurd h (by decide), fun _ => hrange⟩⟩
  have hbase : Answerable host device CL_DEVICE_IMAGE_BASE_ADDRESS_ALIGNMENT ↔
      0 ≤ (host.minimumLinearTextureAlignment device.mtlDevice).toInt ∧
        (host.minimumLinearTextureAlignment device.mtlDevice).toInt < 2 ^ 32 :=
    ⟨fun h => h.alignment (Or.inr rfl), fun hrange => ⟨by decide, fun h => absurd h (by decide),
      fun h => absurd h (by decide), fun _ => hrange⟩⟩
  simp only [deviceInfoCases, List.forall_mem_cons]
  and_intros
  -- the name of a constant carries no condition
  all_goals first
    | exact fun _ => iff_of_true (completes_pure _ rt) (answerable_of_notMem host (by decide))
    | exact fun h => absurd (Or.inl rfl) h
    | exact fun h => absurd (Or.inr rfl) h
    | exact fun _ => iff_of_false (hstub _) fun h => h.wired rfl
    | exact fun _ => (completes_type host hv device).trans htype.symm
    | exact fun _ => (completes_toUInt64 _ rt).trans hallocation.symm
    | exact fun _ => (completes_toUInt32 _ rt).trans hpitch.symm
    | exact fun _ => (completes_toUInt32 _ rt).trans hbase.symm
    | exact fun _ h => absurd h List.not_mem_nil

/-- A lookup does not see an entry of another name. -/
theorem lookup_other {β : Type} {name other : Int32} (h : name ≠ other)
    (front back : List (Int32 × β)) (x y : β) :
    (front ++ (other, x) :: back).lookup name = (front ++ (other, y) :: back).lookup name := by
  rw [List.lookup_append, List.lookup_append, List.lookup_cons, List.lookup_cons,
    beq_false_of_ne h]

/-- The two tables differ in one entry. -/
theorem lookup_likeNamedProperties (device : CLDevice Dev) {name : Int32}
    (h : name ≠ CL_DEVICE_MAX_WORK_ITEM_DIMENSIONS) :
    (likeNamedProperties host device).lookup name = (deviceInfoCases host device).lookup name :=
  lookup_other h ((deviceInfoCases host device).take 3) ((deviceInfoCases host device).drop 4)
    (pure (.uint32 CLDevice.maxWorkItemDimensions)) (.uint32 <$> CLDevice.maxComputeUnits)

/-- A device query returns exactly if its property does. -/
theorem clGetDeviceInfo_returns_iff {ref : DeviceRef} {device : CLDevice Dev} {w : World Dev}
    (hdevice : w.runtime.heap[ref]? = some device) {paramName : UInt32}
    {property : Swift (Runtime Dev) InfoValue}
    (hlookup : (deviceInfoCases host device).lookup paramName.toInt32 = some property)
    (capacity : ℤ) (value size : Option ℕ) :
    (∃ status w', (clGetDeviceInfo host (some ref) paramName capacity value size).run w =
      .ok (status, w')) ↔ Completes property w.runtime := by
  rw [run_clGetDeviceInfo host hdevice]
  cases hproperty : property.run w.runtime with
  | error e =>
      rw [run_answerQuery_trap hlookup hproperty]
      exact iff_of_false (by simp) (by simp [Completes, hproperty])
  | ok r =>
      have hnames := (deviceInfoCases_readable host device _ (mem_of_lookup hlookup)).namesFit
        _ _ _ hproperty
      rw [run_answerQuery hlookup hproperty hnames]
      exact iff_of_true ⟨_, _, rfl⟩ ⟨r.1, r.2, hproperty⟩

/-- The query for the dimensions traps in the name of the compute units. -/
theorem run_dimensions {ref : DeviceRef} {device : CLDevice Dev} {w : World Dev}
    (hdevice : w.runtime.heap[ref]? = some device) (capacity : ℤ) (value size : Option ℕ) :
    (clGetDeviceInfo host (some ref) CL_DEVICE_MAX_WORK_ITEM_DIMENSIONS.toUInt32 capacity value
      size).run w = .error (.fatalError "maxComputeUnits not implemented.") := by
  have hwired : (deviceInfoCases host device).lookup
      CL_DEVICE_MAX_WORK_ITEM_DIMENSIONS.toUInt32.toInt32 =
        some (.uint32 <$> CLDevice.maxComputeUnits) := rfl
  rw [run_clGetDeviceInfo host hdevice]
  exact run_answerQuery_trap hwired rfl

/-- **A device query agrees with the property of its name, and does not trap, exactly
if it is answerable.** The dimensions are never answered: their case asks for the
compute units, although the property would agree with the sizes. -/
theorem deviceQuery_likeNamed_iff {w : World Dev} (hw : Reachable host w) {ref : DeviceRef}
    {device : CLDevice Dev} (hdevice : w.runtime.heap[ref]? = some device) {paramName : UInt32}
    (hcase : (deviceInfoCases host device).lookup paramName.toInt32 ≠ none)
    (hstub : ¬ IsStub paramName.toInt32) :
    (AnswersAlike host ref device paramName w ↔ Answerable host device paramName.toInt32) ∧
      (∀ capacity value size,
        (clGetDeviceInfo host (some ref) CL_DEVICE_MAX_WORK_ITEM_DIMENSIONS.toUInt32 capacity
          value size).run w = .error (.fatalError "maxComputeUnits not implemented.")) ∧
      CLDevice.maxWorkItemDimensions.toNat * BinaryInteger.stride Int64 =
        (InfoValue.arrayOfInt (device.maxWorkItemSizes host)).answer.size := by
  rcases Option.ne_none_iff_exists'.mp hcase with ⟨property, hlookup⟩
  have hcompletes := deviceInfoCases_completes host hw.valid device _ (mem_of_lookup hlookup) hstub
  -- a query that returns shows that its property does, whatever the pointers
  refine ⟨⟨fun h => ?_, fun h => ⟨?_, ?_⟩⟩, run_dimensions host hdevice, rfl⟩
  · exact hcompletes.mp
      ((clGetDeviceInfo_returns_iff host hdevice hlookup 0 none none).mp (h.returns _ _ _))
  · intro capacity value size
    rw [run_clGetDeviceInfo host hdevice, answerQuery, answerQuery,
      lookup_likeNamedProperties host device h.wired]
  · intro capacity value size
    exact (clGetDeviceInfo_returns_iff host hdevice hlookup _ _ _).mpr (hcompletes.mpr h)

/-- The address bits of a device are answered like their property. -/
theorem addressBits_likeNamed :
    AnswersAlike Host.oneGPU 0 (newDevice Host.oneGPU 0) CL_DEVICE_ADDRESS_BITS.toUInt32
      (World.cleared { heap := [newDevice Host.oneGPU 0] }) := by
  have hstub : ¬ IsStub CL_DEVICE_ADDRESS_BITS.toUInt32.toInt32 := by
    rintro (h | h)
    · exact absurd h (by decide)
    · exact absurd h (by decide)
  have hcase : (deviceInfoCases Host.oneGPU (newDevice Host.oneGPU 0)).lookup
      CL_DEVICE_ADDRESS_BITS.toUInt32.toInt32 ≠ none := by
    rintro ⟨⟩
  exact (deviceQuery_likeNamed_iff Host.oneGPU reachable_oneDevice rfl hcase hstub).1.mpr
    (answerable_of_notMem Host.oneGPU (by decide))

/-- The dimensions of the work items trap in the name of the compute units, while the
property of their own name answers. -/
theorem dimensions_trap :
    (clGetDeviceInfo Host.oneGPU (some 0) CL_DEVICE_MAX_WORK_ITEM_DIMENSIONS.toUInt32 4 (some 0)
        none).run (World.cleared { heap := [newDevice Host.oneGPU 0] }) =
      .error (.fatalError "maxComputeUnits not implemented.") ∧
    (∃ w', (answerQuery (likeNamedProperties Host.oneGPU (newDevice Host.oneGPU 0))
        CL_DEVICE_MAX_WORK_ITEM_DIMENSIONS.toUInt32 4 (some 0) none).run
          (World.cleared { heap := [newDevice Host.oneGPU 0] }) = .ok (CL_SUCCESS, w') ∧
      w'.buffers.bytes.load 0 4 = [3, 0, 0, 0]) ∧
    ¬ AnswersAlike Host.oneGPU 0 (newDevice Host.oneGPU 0)
        CL_DEVICE_MAX_WORK_ITEM_DIMENSIONS.toUInt32
        (World.cleared { heap := [newDevice Host.oneGPU 0] }) := by
  have hdevice : (World.cleared { heap := [newDevice Host.oneGPU 0] }).runtime.heap[0]? =
      some (newDevice Host.oneGPU 0) := rfl
  have htrap := run_dimensions Host.oneGPU hdevice 4 (some 0) none
  refine ⟨htrap, ⟨_, rfl, by decide⟩, fun h => ?_⟩
  rcases h.returns 4 (some 0) none with ⟨status, w', hrun⟩
  rw [htrap] at hrun
  cases hrun

end MoltenCL
