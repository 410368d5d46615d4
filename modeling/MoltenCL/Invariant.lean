import MoltenCL.Statics

/-! # What every use of the statics preserves

Two facts about the runtime, kept by every access to a static in whatever order
the accesses come:

* `Runtime.Grows`, between two runtimes: no object and no initialised static has
  changed;
* `Runtime.Valid`, of one runtime: the default object wraps the chosen Metal
  device, the listed objects wrap the listed devices in order, and the default
  object is none of the listed ones.

Both are proved from the inversion lemmas of `Statics.lean`, one per static.
-/

namespace MoltenCL

open Foundation Swift

variable {Dev : Type} (host : Host Dev)

/-! ## Growth -/

/-- `rt'` is a later runtime: it has the objects of `rt` and keeps its statics. -/
structure Runtime.Grows (rt rt' : Runtime Dev) : Prop where
  heap : rt.heap <+: rt'.heap
  platformDefault : ∀ p, rt.platformDefault = some p → rt'.platformDefault = some p
  deviceDefault : ∀ r, rt.deviceDefault = some r → rt'.deviceDefault = some r
  platformDevices : ∀ refs, rt.platformDevices = some refs → rt'.platformDevices = some refs
  extensionsWithVersion : ∀ l, rt.extensionsWithVersion = some l →
    rt'.extensionsWithVersion = some l
  extensions : ∀ l, rt.extensions = some l → rt'.extensions = some l

namespace Runtime.Grows

theorem refl (rt : Runtime Dev) : rt.Grows rt :=
  ⟨List.prefix_refl _, fun _ h => h, fun _ h => h, fun _ h => h, fun _ h => h, fun _ h => h⟩

theorem trans (rt rt' rt'' : Runtime Dev) (h : rt.Grows rt') (h' : rt'.Grows rt'') :
    rt.Grows rt'' where
  heap := h.heap.trans h'.heap
  platformDefault p hp := h'.platformDefault p (h.platformDefault p hp)
  deviceDefault r hr := h'.deviceDefault r (h.deviceDefault r hr)
  platformDevices refs hrefs := h'.platformDevices refs (h.platformDevices refs hrefs)
  extensionsWithVersion l hl := h'.extensionsWithVersion l (h.extensionsWithVersion l hl)
  extensions l hl := h'.extensions l (h.extensions l hl)

/-- Objects stay where they are. -/
theorem object {rt rt' : Runtime Dev} (h : rt.Grows rt') {ref : DeviceRef} {d : CLDevice Dev}
    (hd : rt.heap[ref]? = some d) : rt'.heap[ref]? = some d := by
  rcases h.heap with ⟨more, hmore⟩
  rcases List.getElem?_eq_some_iff.mp hd with ⟨hlt, -⟩
  rw [← hmore, List.getElem?_append_left hlt, hd]

/-- An object keeps its Metal device. -/
theorem wrapped {rt rt' : Runtime Dev} (h : rt.Grows rt') {ref : DeviceRef} {d : Dev}
    (hd : rt.wrapped ref = some d) : rt'.wrapped ref = some d := by
  rcases Option.map_eq_some_iff.mp hd with ⟨object, hobject, rfl⟩
  simp [Runtime.wrapped, h.object hobject]

/-- Allocation only adds objects. -/
theorem alloc (rt : Runtime Dev) (l : List Dev) : rt.Grows (rt.alloc host l) :=
  { refl rt with heap := List.prefix_append _ _ }

end Runtime.Grows

/-! ## Validity -/

/-- The invariant of the objects and the statics. -/
structure Runtime.Valid (rt : Runtime Dev) : Prop where
  /-- the platform came up on a supported first device -/
  up : rt.platformDefault ≠ none → ComesUp host
  /-- the default object exists only once the platform is up -/
  default_up : rt.deviceDefault ≠ none → rt.platformDefault ≠ none
  default_wraps : ∀ r, rt.deviceDefault = some r →
    ∃ d, chosenDevice host = some d ∧ rt.heap[r]? = some (newDevice host d)
  devices_wrap : ∀ refs, rt.platformDevices = some refs →
    refs.map (fun r => rt.heap[r]?) = host.copyAllDevices.map fun d => some (newDevice host d)
  devices_nodup : ∀ refs, rt.platformDevices = some refs → refs.Nodup
  /-- the two initialisers never share an object -/
  separate : ∀ r refs, rt.deviceDefault = some r → rt.platformDevices = some refs → r ∉ refs

namespace Runtime.Valid

variable {host}

/-- Before anything is used. -/
theorem empty : Runtime.Valid host ({} : Runtime Dev) where
  up h := absurd rfl h
  default_up h := absurd rfl h
  default_wraps r h := by cases h
  devices_wrap refs h := by cases h
  devices_nodup refs h := by cases h
  separate r refs h := by cases h

/-- Every listed reference refers to an object. -/
theorem object_of_mem {rt : Runtime Dev} (hv : rt.Valid host) {refs : List DeviceRef}
    (hrefs : rt.platformDevices = some refs) {r : DeviceRef} (hr : r ∈ refs) :
    ∃ d ∈ host.copyAllDevices, rt.heap[r]? = some (newDevice host d) := by
  have hmem : rt.heap[r]? ∈ refs.map fun r => rt.heap[r]? := List.mem_map_of_mem hr
  rw [hv.devices_wrap refs hrefs] at hmem
  rcases List.mem_map.mp hmem with ⟨d, hd, heq⟩
  exact ⟨d, hd, heq.symm⟩

/-- The objects listed are as many as the devices. -/
theorem length_devices {rt : Runtime Dev} (hv : rt.Valid host) {refs : List DeviceRef}
    (hrefs : rt.platformDevices = some refs) : refs.length = host.copyAllDevices.length := by
  simpa using congrArg List.length (hv.devices_wrap refs hrefs)

/-- The listed objects wrap the listed devices, in order. -/
theorem wrapped_listed {rt : Runtime Dev} (hv : rt.Valid host) {refs : List DeviceRef}
    (hrefs : rt.platformDevices = some refs) :
    refs.map rt.wrapped = host.copyAllDevices.map some := by
  have hwrap := congrArg (List.map (Option.map CLDevice.mtlDevice)) (hv.devices_wrap refs hrefs)
  rw [List.map_map, List.map_map] at hwrap
  exact hwrap

/-- The default object wraps the chosen device. -/
theorem wrapped_deviceDefault {rt : Runtime Dev} (hv : rt.Valid host) {r : DeviceRef}
    (hr : rt.deviceDefault = some r) : ∃ d, chosenDevice host = some d ∧ rt.wrapped r = some d := by
  rcases hv.default_wraps r hr with ⟨d, hd, hobject⟩
  refine ⟨d, hd, ?_⟩
  rw [Runtime.wrapped, hobject]
  rfl

/-- New objects that no static refers to keep the invariant. -/
theorem alloc {rt : Runtime Dev} (hv : rt.Valid host) (l : List Dev) :
    (rt.alloc host l).Valid host where
  up := hv.up
  default_up := hv.default_up
  default_wraps r hr := by
    rcases hv.default_wraps r hr with ⟨d, hd, hobject⟩
    exact ⟨d, hd, (Grows.alloc host rt l).object hobject⟩
  devices_wrap refs hrefs := by
    rw [← hv.devices_wrap refs hrefs]
    apply List.map_congr_left
    intro r hr
    rcases hv.object_of_mem hrefs hr with ⟨d, -, hobject⟩
    rw [hobject]
    exact (Grows.alloc host rt l).object hobject
  devices_nodup := hv.devices_nodup
  separate := hv.separate

end Runtime.Valid

/-! ## The statics respect the invariant -/

theorem CLPlatform.default_respects :
    Respects (Runtime.Valid host) Runtime.Grows (CLPlatform.default host) := by
  intro rt p rt' hv h
  rcases (CLPlatform.default_eq_ok host).mp h with ⟨-, rfl⟩ | ⟨hnone, rfl, hfirst⟩
  · exact ⟨hv, Runtime.Grows.refl _⟩
  · refine ⟨{ hv with up := fun _ => hfirst, default_up := ?_ }, ?_⟩
    · intro _ hcontra
      cases hcontra
    · exact { Runtime.Grows.refl rt with platformDefault := by simp [hnone] }

/-- The object allocated last is not an object that was there before. -/
theorem length_notMem_devices {rt : Runtime Dev} (hv : rt.Valid host) {refs : List DeviceRef}
    (hrefs : rt.platformDevices = some refs) : rt.heap.length ∉ refs := by
  intro hmem
  rcases hv.object_of_mem hrefs hmem with ⟨d, -, hobject⟩
  simp at hobject

/-- The default device is a new object, or the kept one. -/
theorem CLDevice.default_respects :
    Respects (Runtime.Valid host) Runtime.Grows (CLDevice.default host) := by
  intro rt r rt' hv h
  rcases (CLDevice.default_eq_ok host).mp h with ⟨-, rfl⟩ | ⟨hnone, p, up, d, hp, hd, rfl, rfl⟩
  · exact ⟨hv, Runtime.Grows.refl _⟩
  · rcases CLPlatform.default_respects host rt p up hv hp with ⟨hup, hgrows⟩
    have hisUp : up.platformDefault ≠ none := by simp [CLPlatform.default_kept host hp]
    have hnone' : up.deviceDefault = none := by
      rcases (CLPlatform.default_eq_ok host).mp hp with ⟨-, rfl⟩ | ⟨-, rfl, -⟩
      · exact hnone
      · exact hnone
    -- the new object is the last one, so it is none of the listed ones
    have halloc := hup.alloc [d]
    refine ⟨{ halloc with default_up := fun _ => hisUp, default_wraps := ?_, separate := ?_ }, ?_⟩
    · rintro r ⟨⟩
      exact ⟨d, hd, by simp [Runtime.alloc]⟩
    · rintro r refs ⟨⟩ hrefs
      exact length_notMem_devices host hup hrefs
    · have hset : up.Grows { up.alloc host [d] with deviceDefault := some up.heap.length } :=
        { Runtime.Grows.alloc host up [d] with deviceDefault := by simp [hnone'] }
      exact Runtime.Grows.trans _ _ _ hgrows hset

/-- Looking up consecutive new objects gives the objects. -/
theorem map_getElem?_range' (before after : List (CLDevice Dev)) :
    (List.range' before.length after.length).map (fun r => (before ++ after)[r]?) =
      after.map some := by
  apply List.ext_getElem
  · simp
  · intro i h₁ h₂
    have hi : i < after.length := by simpa using h₂
    simp [hi]

/-- The listed devices are new objects, or the kept ones. -/
theorem CLPlatform._devices_respects :
    Respects (Runtime.Valid host) Runtime.Grows (CLPlatform._devices host) := by
  intro rt refs rt' hv h
  rcases (CLPlatform._devices_eq_ok host).mp h with ⟨-, rfl⟩ | ⟨hnone, rfl, rfl⟩
  · exact ⟨hv, Runtime.Grows.refl _⟩
  · have halloc := hv.alloc host.copyAllDevices
    refine ⟨{ halloc with devices_wrap := ?_, devices_nodup := ?_, separate := ?_ }, ?_⟩
    · rintro refs ⟨⟩
      simpa [Runtime.alloc, Function.comp_def] using
        map_getElem?_range' rt.heap (host.copyAllDevices.map (newDevice host))
    · rintro refs ⟨⟩
      exact List.nodup_range'
    · rintro r refs hr ⟨⟩ hmem
      -- the default object was there before the list was allocated
      rcases hv.default_wraps r hr with ⟨d, -, hobject⟩
      rcases List.getElem?_eq_some_iff.mp hobject with ⟨hlt, -⟩
      have hge := (List.mem_range'_1.mp hmem).1
      omega
    · exact { Runtime.Grows.alloc host rt host.copyAllDevices with
        platformDevices := by simp [hnone] }

theorem CLPlatform._extensionsWithVersion_respects :
    Respects (Runtime.Valid host) Runtime.Grows (CLPlatform._extensionsWithVersion host) := by
  intro rt l rt' hv h
  rcases (CLPlatform._extensionsWithVersion_eq_ok host).mp h with
    ⟨-, rfl⟩ | ⟨hnone, device, -, -, rfl⟩
  · exact ⟨hv, Runtime.Grows.refl _⟩
  · exact ⟨{ hv with }, { Runtime.Grows.refl rt with extensionsWithVersion := by simp [hnone] }⟩

theorem CLPlatform._extensions_respects :
    Respects (Runtime.Valid host) Runtime.Grows (CLPlatform._extensions host) := by
  intro rt l rt' hv h
  rcases (CLPlatform._extensions_eq_ok host).mp h with ⟨-, rfl⟩ | ⟨hnone, versions, u, hrun, -, rfl⟩
  · exact ⟨hv, Runtime.Grows.refl _⟩
  · rcases CLPlatform._extensionsWithVersion_respects host rt versions u hv hrun with ⟨hu, hgrows⟩
    exact ⟨{ hu with }, { hgrows with extensions := by simp [hnone] }⟩

end MoltenCL
