import MoltenCL.Calls

/-! # What every call preserves

A call changes the runtime only by using the statics. So an invariant of the runtime
that every static respects, with a relation to the later runtimes (`StaticsRespect`), is
respected by every property and every call. A client also creates objects of its own; an
invariant that this respects too (`UsesRespect`) holds along every session. The objects and
their growth are the first instance (`usesRespect_valid`).
-/

namespace MoltenCL

open Foundation Swift

variable {Dev : Type} (host : Host Dev)

/-- The statics keep `Inv` and move the runtime along `R`. -/
structure StaticsRespect (Inv : Runtime Dev → Prop) (R : Runtime Dev → Runtime Dev → Prop) :
    Prop where
  refl : ∀ rt, R rt rt
  trans : ∀ rt rt' rt'', R rt rt' → R rt' rt'' → R rt rt''
  platformDefault : Respects Inv R (CLPlatform.default host)
  deviceDefault : Respects Inv R (CLDevice.default host)
  platformDevices : Respects Inv R (CLPlatform._devices host)
  extensionsWithVersion : Respects Inv R (CLPlatform._extensionsWithVersion host)
  extensions : Respects Inv R (CLPlatform._extensions host)

/-- The statics, and the creation of objects, keep `Inv` and move the runtime along `R`. -/
structure UsesRespect (Inv : Runtime Dev → Prop) (R : Runtime Dev → Runtime Dev → Prop) : Prop
    extends StaticsRespect host Inv R where
  newDevice : ∀ d, Respects Inv R (CLDevice.init host d)

/-- A computation over the world respects `Inv` and `R` of the runtime. -/
def RespectsRuntime {α : Type} (Inv : Runtime Dev → Prop) (R : Runtime Dev → Runtime Dev → Prop)
    (x : Swift (World Dev) α) : Prop :=
  Respects (fun w : World Dev => Inv w.runtime) (fun w w' => R w.runtime w'.runtime) x

namespace StaticsRespect

variable {host} {Inv : Runtime Dev → Prop} {R : Runtime Dev → Runtime Dev → Prop}

/-! ## Properties -/

/-- A computation that uses no static respects everything. -/
theorem constant (h : StaticsRespect host Inv R) {α : Type} {x : Swift (Runtime Dev) α}
    (hx : Constant x) : Respects Inv R x := by
  rcases hx with ⟨a, rfl⟩ | ⟨e, rfl⟩
  · exact respects_pure h.refl a
  · exact respects_throw e

/-- Following a handle. -/
theorem object (h : StaticsRespect host Inv R) (ref : DeviceRef) :
    Respects Inv R (Runtime.object ref : Swift (Runtime Dev) (CLDevice Dev)) :=
  respects_of_frame id h.refl fun _ _ _ hrun => (Runtime.object_eq_ok.mp hrun).2

/-- Selecting uses one of two statics, or none. -/
theorem devices (h : StaticsRespect host Inv R) (type : CLDeviceType) :
    Respects Inv R (CLPlatform.devices host type) := by
  rw [CLPlatform.devices_eq]
  split_ifs
  · exact h.platformDevices
  · exact h.deviceDefault.bind h.trans fun r => respects_pure h.refl [r]
  · exact respects_pure h.refl []

/-- The type of a device uses `CLDevice.default`. -/
theorem type [DecidableEq Dev] (h : StaticsRespect host Inv R) (device : CLDevice Dev) :
    Respects Inv R (device.type host) := by
  apply h.deviceDefault.bind h.trans
  intro r
  apply (h.object r).bind h.trans
  intro defaultDevice
  split_ifs
  · exact respects_pure h.refl _
  · exact respects_pure h.refl _

/-- Every property of a device. -/
theorem deviceInfoCases [DecidableEq Dev] (h : StaticsRespect host Inv R)
    (device : CLDevice Dev) : ∀ c ∈ deviceInfoCases host device, Respects Inv R c.2 := by
  have hstub : ∀ function, Respects Inv R
      (InfoValue.uint32 <$> (notImplementedError function : Swift (Runtime Dev) UInt32)) :=
    fun function => (respects_throw _).map _
  have hword : ∀ x, Respects Inv R
      (InfoValue.uint32 <$> (toUInt32 x : Swift (Runtime Dev) UInt32)) :=
    fun x => (h.constant (constant_toUInt32 x)).map _
  have hsize : ∀ x, Respects Inv R
      (InfoValue.uint64 <$> (toUInt64 x : Swift (Runtime Dev) UInt64)) :=
    fun x => (h.constant (constant_toUInt64 x)).map _
  simp only [MoltenCL.deviceInfoCases, List.forall_mem_cons]
  and_intros
  all_goals first
    | exact respects_pure h.refl _
    | exact (h.type device).map _
    | exact hstub _
    | exact hword _
    | exact hsize _
    | exact fun _ hmem => absurd hmem List.not_mem_nil

/-- Every property of the platform. -/
theorem platformInfoCases (h : StaticsRespect host Inv R) :
    ∀ c ∈ platformInfoCases host, Respects Inv R c.2 := by
  have htimer : Respects Inv R (InfoValue.uint64 <$> CLPlatform.hostTimerResolution host) :=
    (h.constant (constant_hostTimerResolution host)).map _
  simp only [MoltenCL.platformInfoCases, List.forall_mem_cons]
  and_intros
  all_goals first
    | exact respects_pure h.refl _
    | exact htimer
    | exact fun _ hmem => absurd hmem List.not_mem_nil

/-! ## Calls -/

/-- A computation over the runtime, run in the world. -/
theorem within (_ : StaticsRespect host Inv R) {α : Type} {x : Swift (Runtime Dev) α}
    (hx : Respects Inv R x) : RespectsRuntime Inv R (within World.runtimeSlot x) :=
  respects_within World.runtimeSlot hx

/-- A computation that leaves the runtime alone. -/
theorem frame (h : StaticsRespect host Inv R) {α : Type} {x : Swift (World Dev) α}
    (hx : ∀ w a w', x.run w = .ok (a, w') → w'.runtime = w.runtime) :
    RespectsRuntime Inv R x :=
  respects_of_frame World.runtime h.refl hx

/-- A computation that does nothing. -/
theorem returns (h : StaticsRespect host Inv R) {α : Type} (a : α) :
    RespectsRuntime Inv R (pure a : Swift (World Dev) α) :=
  respects_pure (fun w => h.refl w.runtime) a

/-- One computation after another. -/
theorem sequence (h : StaticsRespect host Inv R) {α β : Type} {x : Swift (World Dev) α}
    {f : α → Swift (World Dev) β} (hx : RespectsRuntime Inv R x)
    (hf : ∀ a, RespectsRuntime Inv R (f a)) : RespectsRuntime Inv R (x >>= f) := by
  refine Respects.bind ?_ hx hf
  intro w w' w'' hR hR'
  exact h.trans _ _ _ hR hR'

/-- A fetch uses `CLPlatform.default`. -/
theorem clGetPlatformIDs (h : StaticsRespect host Inv R) (numEntries : UInt32)
    (platforms numPlatforms : Option ℕ) :
    RespectsRuntime Inv R (clGetPlatformIDs host numEntries platforms numPlatforms) := by
  intro w status w' hInv hrun
  rcases clGetPlatformIDs_eq_ok host hrun with ⟨rt', m, hrt, -, rfl⟩
  rcases hrt with rfl | ⟨p, hdefault⟩
  · exact ⟨hInv, h.refl _⟩
  · exact h.platformDefault w.runtime p rt' hInv hdefault

/-- A call whose mask is not refused selects, and uses nothing else. -/
theorem clGetDeviceIDs (h : StaticsRespect host Inv R) (platform : Option CLPlatform)
    (deviceType : UInt64) (numEntries : UInt32) (devices numDevices : Option ℕ) :
    RespectsRuntime Inv R
      (clGetDeviceIDs host platform deviceType numEntries devices numDevices) := by
  intro w status w' hInv hrun
  rcases (clGetDeviceIDs_eq_ok host).mp hrun with
    ⟨-, -, rfl⟩ | ⟨-, -, -, rfl⟩ | ⟨-, -, refs, rt', hdevices, hrest⟩
  · exact ⟨hInv, h.refl _⟩
  · exact ⟨hInv, h.refl _⟩
  · have hrespects := h.devices _ w.runtime refs rt' hInv hdevices
    rcases hrest with ⟨-, -, rfl⟩ | ⟨-, -, m, -, rfl⟩
    · exact hrespects
    · exact hrespects

/-- A query evaluates one property; serialising its value leaves the runtime alone. -/
theorem answerQuery (h : StaticsRespect host Inv R)
    {cases : List (Int32 × Swift (Runtime Dev) InfoValue)}
    (hcases : ∀ c ∈ cases, Respects Inv R c.2) (paramName : UInt32) (capacity : ℤ)
    (value size : Option ℕ) :
    RespectsRuntime Inv R (answerQuery cases paramName capacity value size) := by
  unfold MoltenCL.answerQuery
  cases hlookup : cases.lookup paramName.toInt32 with
  | none => exact h.returns _
  | some property =>
      have hproperty := h.within (hcases _ (mem_of_lookup hlookup))
      refine h.sequence hproperty fun v => h.frame ?_
      intro w status w' hrun
      rcases run_within_eq_ok.mp hrun with ⟨b, -, rfl⟩
      rfl

theorem clGetPlatformInfo (h : StaticsRespect host Inv R) (platform : Option CLPlatform)
    (paramName : UInt32) (capacity : ℤ) (value size : Option ℕ) :
    RespectsRuntime Inv R (clGetPlatformInfo host platform paramName capacity value size) := by
  cases platform with
  | none => exact h.returns _
  | some p => exact h.answerQuery h.platformInfoCases paramName capacity value size

theorem clGetDeviceInfo [DecidableEq Dev] (h : StaticsRespect host Inv R)
    (device : Option DeviceRef) (paramName : UInt32) (capacity : ℤ) (value size : Option ℕ) :
    RespectsRuntime Inv R (clGetDeviceInfo host device paramName capacity value size) := by
  cases device with
  | none => exact h.returns _
  | some ref =>
      exact h.sequence (h.within (h.object ref)) fun device =>
        h.answerQuery (h.deviceInfoCases device) paramName capacity value size

end StaticsRespect

/-! ## The objects and their growth -/

/-- The invariant of the runtime, over the world. -/
def World.Valid (w : World Dev) : Prop := w.runtime.Valid host

/-- Growth of the runtime, over the world. -/
def World.Grows (w w' : World Dev) : Prop := w.runtime.Grows w'.runtime

theorem World.Grows.refl (w : World Dev) : w.Grows w := Runtime.Grows.refl _

theorem World.Grows.trans (w w' w'' : World Dev) (h : w.Grows w') (h' : w'.Grows w'') :
    w.Grows w'' := Runtime.Grows.trans _ _ _ h h'

/-- New objects keep the invariant. -/
theorem CLDevice.init_respects (d : Dev) :
    Respects (Runtime.Valid host) Runtime.Grows (CLDevice.init host d) := by
  intro rt r rt' hv h
  rw [CLDevice.run_init] at h
  obtain ⟨-, rfl⟩ : rt.heap.length = r ∧ rt.alloc host [d] = rt' := by simpa using h
  exact ⟨hv.alloc [d], Runtime.Grows.alloc host rt [d]⟩

/-- Every use of the library keeps the objects and only adds to the runtime. -/
theorem usesRespect_valid : UsesRespect host (Runtime.Valid host) Runtime.Grows where
  refl := Runtime.Grows.refl
  trans := Runtime.Grows.trans
  platformDefault := CLPlatform.default_respects host
  deviceDefault := CLDevice.default_respects host
  platformDevices := CLPlatform._devices_respects host
  extensionsWithVersion := CLPlatform._extensionsWithVersion_respects host
  extensions := CLPlatform._extensions_respects host
  newDevice := CLDevice.init_respects host

end MoltenCL
