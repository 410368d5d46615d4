import MoltenCL.Catalogue
import MoltenCL.Foundation.Simulation

/-! # The library refines the catalogue

No client can tell the library from the catalogue, whatever the process has used before. The
invariant (`Represents`) names the object behind every handle in the client's memory: a listed
one by its place in the kept list, the chosen one by the kept default. Objects and statics only
ever grow, so a name stays good; no two names share an object, so handles are the same exactly
when their names are.

Two worlds that a client sees alike, without handles in them, are then alike for ever
(`history_independent`).
-/

namespace MoltenCL

open Foundation Swift

variable {Dev : Type} (host : Host Dev)

/-! ## Names -/

/-- The object a name stands for, once it exists. -/
def Runtime.Names (rt : Runtime Dev) (ref : DeviceRef) : Origin → Prop
  | .listed i => ∃ refs, rt.platformDevices = some refs ∧ refs[i]? = some ref
  | .chosen => rt.deviceDefault = some ref

section Names

variable {host} {rt rt' : Runtime Dev}

/-- A handle keeps what it stands for. -/
theorem Runtime.Grows.names (h : rt.Grows rt') {ref : DeviceRef} {origin : Origin}
    (hname : rt.Names ref origin) : rt'.Names ref origin := by
  cases origin with
  | listed i =>
      rcases hname with ⟨refs, hrefs, hget⟩
      exact ⟨refs, h.platformDevices refs hrefs, hget⟩
  | chosen => exact h.deviceDefault ref hname

/-- Objects are the same exactly when their names are. -/
theorem Runtime.Valid.names_injective (hv : rt.Valid host) {ref ref' : DeviceRef}
    {origin origin' : Origin} (h : rt.Names ref origin) (h' : rt.Names ref' origin') :
    ref = ref' ↔ origin = origin' := by
  cases origin with
  | listed i =>
      rcases h with ⟨refs, hrefs, hget⟩
      cases origin' with
      | listed j =>
          rcases h' with ⟨refs', hrefs', hget'⟩
          obtain rfl : refs = refs' := by simpa [hrefs] using hrefs'
          constructor
          · rintro rfl
            rcases List.getElem?_eq_some_iff.mp hget with ⟨hi, -⟩
            have hij : i = j := (List.getElem?_inj hi (hv.devices_nodup refs hrefs)).mp
              (hget.trans hget'.symm)
            rw [hij]
          · intro heq
            cases heq
            exact Option.some.inj (hget.symm.trans hget')
      | chosen =>
          refine iff_of_false ?_ (by simp)
          rintro rfl
          exact hv.separate ref refs h' hrefs (List.mem_of_getElem? hget)
  | chosen =>
      cases origin' with
      | listed j =>
          rcases h' with ⟨refs, hrefs, hget⟩
          refine iff_of_false ?_ (by simp)
          rintro rfl
          exact hv.separate ref refs h hrefs (List.mem_of_getElem? hget)
      | chosen =>
          refine iff_of_true ?_ rfl
          exact Option.some.inj (h.symm.trans h')

/-- A name's object wraps the device the catalogue has for it. -/
theorem Runtime.Valid.names_object (hv : rt.Valid host) {ref : DeviceRef} {origin : Origin}
    (h : rt.Names ref origin) :
    ∃ d, Catalogue.metalDevice host origin = some d ∧ rt.heap[ref]? = some (newDevice host d) := by
  cases origin with
  | listed i =>
      rcases h with ⟨refs, hrefs, hget⟩
      have hobjects := congrArg (fun l => l[i]?) (hv.devices_wrap refs hrefs)
      simp only [List.getElem?_map, hget, Option.map_some] at hobjects
      cases hlisted : host.copyAllDevices[i]? with
      | none => simp [hlisted] at hobjects
      | some d =>
          refine ⟨d, hlisted, ?_⟩
          simpa [hlisted] using hobjects
  | chosen => exact hv.default_wraps ref h

end Names

/-! ## Represented worlds -/

/-- The client memory `c` of the catalogue represents the world `w`. -/
structure Represents (w : World Dev) (c : Client) : Prop where
  sound : w.runtime.Sound host
  buffers : w.buffers = c.buffers
  platformIDs : w.platformIDs = c.platformIDs
  deviceArrays : w.deviceArrays.Related w.runtime.Names c.deviceArrays

namespace Represents

variable {host} {w : World Dev} {c : Client}

/-- A later runtime keeps every name. -/
theorem grow (h : Represents host w c) {rt : Runtime Dev} (hs : rt.Sound host)
    (hgrows : w.runtime.Grows rt) : Represents host { w with runtime := rt } c where
  sound := hs
  buffers := h.buffers
  platformIDs := h.platformIDs
  deviceArrays := h.deviceArrays.mono fun _ _ => hgrows.names

/-- Platform handles are the same on both sides. -/
theorem platformArrays (h : Represents host w c) : w.platformArrays = c.platformArrays := by
  have hcounts : w.counts = c.counts := h.deviceArrays.counts
  unfold World.platformArrays Client.platformArrays
  rw [h.platformIDs, hcounts]

/-- A store of platforms, made on both sides. -/
theorem setPlatformArrays (h : Represents host w c) {m m' : Arrays CLPlatform} (hm : m = m') :
    Represents host (w.setPlatformArrays m) (c.setPlatformArrays m') where
  sound := h.sound
  buffers := h.buffers
  platformIDs := congrArg Arrays.handles hm
  deviceArrays := ⟨h.deviceArrays.handles, congrArg Arrays.counts hm⟩

/-- A store of devices, made on both sides. -/
theorem setDeviceArrays (h : Represents host w c) {m : Arrays DeviceRef} {m' : Arrays Origin}
    (hm : m.Related w.runtime.Names m') :
    Represents host (w.setDeviceArrays m) (c.setDeviceArrays m') where
  sound := h.sound
  buffers := h.buffers
  platformIDs := h.platformIDs
  deviceArrays := hm

/-- The client of the catalogue sees what the client of the library sees. -/
theorem observe (h : Represents host w c) : w.observe = c.observe := by
  have hcell : ∀ a, Option.Rel w.runtime.Names (w.deviceIDs.cell a) (c.deviceIDs.cell a) :=
    h.deviceArrays.handles
  have hnull : ∀ a, w.deviceIDs.cell a = none ↔ c.deviceIDs.cell a = none :=
    fun a => rel_none_iff (hcell a)
  have hsame : ∀ a b, w.deviceIDs.cell a = w.deviceIDs.cell b ↔
      c.deviceIDs.cell a = c.deviceIDs.cell b :=
    fun a b => rel_eq_iff (fun _ _ _ _ => h.sound.1.names_injective) (hcell a) (hcell b)
  have hcounts : w.counts = c.counts := h.deviceArrays.counts
  unfold World.observe Client.observe
  rw [h.buffers, h.platformIDs, hcounts]
  simp only [hnull, hsame]

end Represents

/-! ## What the statics end as -/

/-- In every sound runtime `x` ends as `r` says: with a value that `Q` relates to the value of
`r`, or with the trap of `r`. -/
def EndsAs {α β : Type} (Q : Runtime Dev → α → β → Prop) (x : Swift (Runtime Dev) α)
    (r : Except Trap β) : Prop :=
  ∀ rt : Runtime Dev, rt.Sound host →
    (∃ a rt' b, x.run rt = .ok (a, rt') ∧ r = .ok b ∧ rt'.Sound host ∧ rt.Grows rt' ∧ Q rt' a b) ∨
    (∃ e, x.run rt = .error e ∧ r = .error e)

/-- A property ends as it does in a fresh process. -/
theorem endsAs_property {property : Swift (Runtime Dev) InfoValue}
    (hrespects : Respects (Runtime.Sound host) Runtime.Grows property)
    (hfree : HistoryFree host property) (hreadable : Readable host property) :
    EndsAs host (fun _ v v' => v = v' ∧ v.NamesFit) property (freshly property) := by
  intro rt hs
  have hfresh := hfree rt hs
  cases hrun : property.run rt with
  | error e =>
      rw [hrun] at hfresh
      exact Or.inr ⟨e, rfl, hfresh.symm⟩
  | ok p =>
      rw [hrun] at hfresh
      rcases hrespects rt p.1 p.2 hs hrun with ⟨hs', hgrows⟩
      exact Or.inl ⟨p.1, p.2, p.1, rfl, hfresh.symm, hs', hgrows, rfl,
        hreadable.namesFit rt p.1 p.2 hrun⟩

/-- The platform comes up, or fails its check, as in the catalogue. -/
theorem endsAs_platformDefault :
    EndsAs host (fun _ p p' => p = p') (CLPlatform.default host)
      (Catalogue.platformCheck host) := by
  intro rt hs
  cases hcheck : Catalogue.platformCheck host with
  | error e => exact Or.inr ⟨e, (defaults_trap host hcheck hs).1, rfl⟩
  | ok p =>
      rcases CLPlatform.default_returns host ((freshly_init_eq_ok host).mp hcheck) rt with
        ⟨rt', hrun⟩
      rcases (usesRespect_sound host).platformDefault rt _ rt' hs hrun with ⟨hs', hgrows⟩
      exact Or.inl ⟨_, rt', p, hrun, rfl, hs', hgrows, rfl⟩

/-- The default device passes the check of the platform, and stands for the chosen device. -/
theorem endsAs_deviceDefault :
    EndsAs host (fun rt ref _ => rt.Names ref .chosen) (CLDevice.default host)
      (Catalogue.platformCheck host) := by
  intro rt hs
  cases hcheck : Catalogue.platformCheck host with
  | error e => exact Or.inr ⟨e, (defaults_trap host hcheck hs).2, rfl⟩
  | ok p =>
      rcases CLDevice.default_returns ((freshly_init_eq_ok host).mp hcheck) rt with
        ⟨ref, rt', hrun⟩
      rcases (usesRespect_sound host).deviceDefault rt _ rt' hs hrun with ⟨hs', hgrows⟩
      exact Or.inl ⟨ref, rt', p, hrun, rfl, hs', hgrows, CLDevice.default_kept host hrun⟩

/-- The kept list names its objects by their places. -/
theorem names_listed {rt : Runtime Dev} (hv : rt.Valid host) {refs : List DeviceRef}
    (hrefs : rt.platformDevices = some refs) :
    List.Forall₂ rt.Names refs ((List.range host.copyAllDevices.length).map .listed) := by
  apply List.forall₂_iff_get.mpr
  constructor
  · rw [hv.length_devices hrefs, List.length_map, List.length_range]
  · intro i hi hi'
    rw [List.get_eq_getElem, List.get_eq_getElem, List.getElem_map, List.getElem_range]
    exact ⟨refs, hrefs, List.getElem?_eq_getElem hi⟩

/-- What a mask selects stands for what the catalogue selects, one by one. -/
theorem endsAs_devices (type : CLDeviceType) :
    EndsAs host (fun rt => List.Forall₂ rt.Names) (CLPlatform.devices host type)
      (Catalogue.selected host type) := by
  intro rt hs
  rw [CLPlatform.devices_eq]
  unfold Catalogue.selected
  split_ifs with hlisted hdefault
  · rcases hs.1._devices_returns with ⟨refs, rt', hrun, -⟩
    rcases (usesRespect_sound host).platformDevices rt _ rt' hs hrun with ⟨hs', hgrows⟩
    exact Or.inl ⟨refs, rt', _, hrun, rfl, hs', hgrows,
      names_listed host hs'.1 (CLPlatform._devices_kept host hrun)⟩
  · rcases endsAs_deviceDefault host rt hs with ⟨ref, rt', p, hrun, hcheck, hs', hgrows, hname⟩ |
      ⟨e, hrun, hcheck⟩
    · refine Or.inl ⟨[ref], rt', [.chosen], ?_, ?_, hs', hgrows, .cons hname .nil⟩
      · rw [StateT.run_bind, hrun]
        rfl
      · rw [hcheck]
        rfl
    · refine Or.inr ⟨e, ?_, ?_⟩
      · rw [StateT.run_bind, hrun]
        rfl
      · rw [hcheck]
        rfl
  · exact Or.inl ⟨[], rt, [], rfl, rfl, hs, Runtime.Grows.refl rt, .nil⟩

/-- The extensions with versions are those of the catalogue. -/
theorem endsAs_extensionsWithVersion :
    EndsAs host (fun _ l l' => l = l') (CLPlatform._extensionsWithVersion host)
      (Catalogue.extensionsWithVersion host) := by
  intro rt hs
  unfold Catalogue.extensionsWithVersion
  cases hlist : extensionList host with
  | none => exact Or.inr ⟨_, extensionVersions_trap host hlist hs, rfl⟩
  | some l =>
      rcases (CLPlatform._extensionsWithVersion_returns_iff hs.2).mpr hlist with ⟨rt', hrun⟩
      rcases (usesRespect_sound host).extensionsWithVersion rt l rt' hs hrun with
        ⟨hs', hgrows⟩
      exact Or.inl ⟨l, rt', l, hrun, rfl, hs', hgrows, rfl⟩

/-- The extensions are the names of those of the catalogue. -/
theorem endsAs_extensions :
    EndsAs host (fun _ names l => names = l.map CLNameVersion.name) (CLPlatform._extensions host)
      (Catalogue.extensionsWithVersion host) := by
  intro rt hs
  unfold Catalogue.extensionsWithVersion
  cases hlist : extensionList host with
  | none => exact Or.inr ⟨_, extensionNames_trap host hlist hs, rfl⟩
  | some l =>
      rcases (CLPlatform._extensions_returns_iff hs.2).mpr ⟨l, hlist, rfl⟩ with ⟨rt', hrun⟩
      rcases (usesRespect_sound host).extensions rt _ rt' hs hrun with ⟨hs', hgrows⟩
      exact Or.inl ⟨_, rt', l, hrun, rfl, hs', hgrows, rfl⟩

/-- Creating an object never fails, and shows nowhere. -/
theorem endsAs_newDevice (mtlDevice : Dev) :
    EndsAs host (fun _ _ _ => True) (CLDevice.init host mtlDevice) (.ok ()) := by
  intro rt hs
  have hrun := CLDevice.run_init host mtlDevice rt
  rcases (usesRespect_sound host).newDevice mtlDevice rt _ _ hs hrun with ⟨hs', hgrows⟩
  exact Or.inl ⟨_, _, (), hrun, rfl, hs', hgrows, trivial⟩

/-! ## Simulation, call by call -/

section Calls

variable {host}

/-- A computation over the runtime, and what follows it. -/
theorem simulates_within {α β γ : Type} {Q : Runtime Dev → α → β → Prop}
    {x : Swift (Runtime Dev) α} {r : Except Trap β} (hx : EndsAs host Q x r)
    {f : α → Swift (World Dev) γ} {g : β → Swift Client γ}
    (hfg : ∀ a b w c, Represents host w c → Q w.runtime a b →
      Agree (Represents host) ((f a).run w) ((g b).run c)) :
    Simulates (Represents host) (within World.runtimeSlot x >>= f)
      (Catalogue.outcome r >>= g) := by
  intro w c h
  rw [StateT.run_bind, StateT.run_bind]
  rcases hx w.runtime h.sound with ⟨a, rt, b, hrun, rfl, hs, hgrows, hQ⟩ | ⟨e, hrun, rfl⟩
  · rw [run_within_ok World.runtimeSlot hrun]
    exact hfg a b _ c (h.grow hs hgrows) hQ
  · rw [run_within_error World.runtimeSlot hrun]
    exact .error e

/-- A use of a static, for its value. -/
theorem simulates_use {α β γ : Type} {Q : Runtime Dev → α → β → Prop}
    {x : Swift (Runtime Dev) α} {r : Except Trap β} (hx : EndsAs host Q x r) {f : α → γ}
    {g : β → γ} (hfg : ∀ rt a b, Q rt a b → f a = g b) :
    Simulates (Represents host) (f <$> within World.runtimeSlot x)
      (g <$> Catalogue.outcome r) := by
  rw [map_eq_pure_bind, map_eq_pure_bind]
  apply simulates_within hx
  intro a b w c h hQ
  rw [hfg _ a b hQ]
  exact simulates_pure (g b) w c h

/-- What the simulation needs of the cases of a query function. -/
def Catalogued (host : Host Dev) (cases : List (Int32 × Swift (Runtime Dev) InfoValue)) : Prop :=
  ∀ c ∈ cases, EndsAs host (fun _ v v' => v = v' ∧ v.NamesFit) c.2 (freshly c.2)

/-- A query answers with the value that its table has in a fresh process. -/
theorem simulates_answerQuery {cases : List (Int32 × Swift (Runtime Dev) InfoValue)}
    (hcases : Catalogued host cases) (paramName : UInt32) (capacity : ℤ) (value size : Option ℕ) :
    Simulates (Represents host) (answerQuery cases paramName capacity value size)
      (Catalogue.answer cases paramName capacity value size) := by
  unfold answerQuery Catalogue.answer
  cases hlookup : cases.lookup paramName.toInt32 with
  | none => exact simulates_pure CL_INVALID_VALUE
  | some property =>
      apply simulates_within (hcases _ (mem_of_lookup hlookup))
      rintro v v' w c h ⟨rfl, hfit⟩
      have hwrite : (v.writeInfo capacity value size).run (World.buffersSlot.get w) =
          .ok (v.answer.respond CL_SUCCESS CL_INVALID_VALUE capacity value size c.buffers) := by
        rw [← h.buffers]
        exact writeInfo_responds hfit capacity value size _
      rw [run_within_ok World.buffersSlot hwrite]
      exact .ok { h with buffers := rfl }

/-- A call that is refused or only counts runs no initialiser, in the catalogue no check. -/
theorem simulates_clGetPlatformIDs (numEntries : UInt32) (platforms numPlatforms : Option ℕ) :
    Simulates (Represents host) (clGetPlatformIDs host numEntries platforms numPlatforms)
      (Catalogue.clGetPlatformIDs host numEntries platforms numPlatforms) := by
  intro w c h
  by_cases hinvalid : InvalidEnumeration numEntries.toNat platforms numPlatforms
  · rw [run_clGetPlatformIDs_invalid host hinvalid,
      Catalogue.run_clGetPlatformIDs_unchecked host (Or.inl hinvalid), enumerate_invalid hinvalid]
    exact .ok h
  · cases platforms with
    | none =>
        -- counting uses no static
        obtain ⟨a, rfl⟩ : ∃ a, numPlatforms = some a :=
          Option.ne_none_iff_exists'.mp fun h0 => hinvalid (Or.inl ⟨rfl, h0⟩)
        rw [run_clGetPlatformIDs_count, Catalogue.run_clGetPlatformIDs_unchecked host (Or.inr rfl),
          enumerate_valid hinvalid, h.platformArrays]
        exact .ok (h.setPlatformArrays rfl)
    | some a =>
        have hn : numEntries.toNat ≠ 0 := fun h0 => hinvalid (Or.inr ⟨by simp, h0⟩)
        rw [run_clGetPlatformIDs_fetch host hn,
          Catalogue.run_clGetPlatformIDs_checked host hinvalid (by simp), h.platformArrays]
        rcases endsAs_platformDefault host w.runtime h.sound with
          ⟨p, rt, p', hrun, hcheck, hs, hgrows, -⟩ | ⟨e, hrun, hcheck⟩
        · rw [hrun, hcheck]
          exact .ok ((h.grow hs hgrows).setPlatformArrays rfl)
        · rw [hrun, hcheck]
          exact .error e

/-- Selected devices are offered alike. -/
theorem agree_respondDevices {w : World Dev} {c : Client} (h : Represents host w c)
    {refs : List DeviceRef} {origins : List Origin}
    (hsel : List.Forall₂ w.runtime.Names refs origins) (numEntries : UInt32)
    (devices numDevices : Option ℕ) :
    Agree (Represents host) ((respondDevices refs numEntries devices numDevices).run w)
      ((Catalogue.offer origins numEntries devices numDevices).run c) := by
  have hlength : refs.length = origins.length := hsel.length_eq
  have hnil : refs = [] ↔ origins = [] := by
    rw [← List.length_eq_zero_iff, hlength, List.length_eq_zero_iff]
  rw [run_respondDevices, Catalogue.run_offer]
  by_cases hempty : origins = []
  · rw [if_pos (hnil.mpr hempty), if_pos hempty]
    exact .ok h
  · rw [if_neg (mt hnil.mp hempty), if_neg hempty]
    simp only [CountOverflows, hlength]
    split_ifs with hover
    · exact .error _
    · rcases enumerate_related CL_SUCCESS CL_INVALID_VALUE hsel numEntries.toNat devices
        numDevices h.deviceArrays with ⟨hstatus, harrays⟩
      rw [hstatus]
      exact .ok (h.setDeviceArrays harrays)

/-- Selecting and responding, on both sides. -/
theorem simulates_clGetDeviceIDs (platform : Option CLPlatform) (deviceType : UInt64)
    (numEntries : UInt32) (devices numDevices : Option ℕ) :
    Simulates (Represents host)
      (clGetDeviceIDs host platform deviceType numEntries devices numDevices)
      (Catalogue.clGetDeviceIDs host platform deviceType numEntries devices numDevices) := by
  cases platform with
  | none => exact simulates_pure CL_INVALID_PLATFORM
  | some p =>
      rw [clGetDeviceIDs_some]
      unfold Catalogue.clGetDeviceIDs
      split_ifs
      · exact simulates_pure CL_INVALID_DEVICE_TYPE
      · exact simulates_within (endsAs_devices host _) fun refs origins w c h hsel =>
          agree_respondDevices h hsel numEntries devices numDevices

variable [DecidableEq Dev]

/-- No property of a device depends on the past. -/
theorem catalogued_deviceInfoCases (device : CLDevice Dev) :
    Catalogued host (deviceInfoCases host device) :=
  fun c hc => endsAs_property host ((usesRespect_sound host).deviceInfoCases device c hc)
    (deviceInfoCases_historyFree host device c hc) (deviceInfoCases_readable host device c hc)

omit [DecidableEq Dev] in
/-- No property of the platform depends on the past. -/
theorem catalogued_platformInfoCases : Catalogued host (platformInfoCases host) :=
  fun c hc => endsAs_property host ((usesRespect_sound host).platformInfoCases c hc)
    (platformInfoCases_historyFree host c hc) (platformInfoCases_readable host c hc)

/-- A query on related handles follows them to the same Metal device. -/
theorem simulates_clGetDeviceInfo {w : World Dev} {c : Client} (h : Represents host w c)
    {device : Option DeviceRef} {origin : Option Origin}
    (hname : Option.Rel w.runtime.Names device origin) (paramName : UInt32) (capacity : ℤ)
    (value size : Option ℕ) :
    Agree (Represents host) ((clGetDeviceInfo host device paramName capacity value size).run w)
      ((Catalogue.clGetDeviceInfo host origin paramName capacity value size).run c) := by
  cases hname with
  | none => exact .ok h
  | some hname =>
      rcases h.sound.1.names_object hname with ⟨d, hd, hobject⟩
      rw [run_clGetDeviceInfo host hobject]
      simp only [Catalogue.clGetDeviceInfo, hd]
      exact simulates_answerQuery (catalogued_deviceInfoCases _) paramName capacity value size w c h

/-- **The library answers every command as the catalogue does.** -/
theorem simulates_serve (command : Command Dev) :
    Simulates (Represents host) (serve host command) (Catalogue.serve host command) := by
  cases command with
  | getPlatformIDs numEntries platforms numPlatforms =>
      exact (simulates_clGetPlatformIDs numEntries platforms numPlatforms).map _
  | getPlatformInfo platform paramName capacity value size =>
      apply simulates_get
      intro w c h
      rw [h.platformIDs]
      refine Simulates.map ?_ _ w c h
      cases c.platformIDs.cell platform with
      | none => exact simulates_pure CL_INVALID_PLATFORM
      | some p =>
          exact simulates_answerQuery catalogued_platformInfoCases paramName capacity value size
  | getDeviceIDs platform deviceType numEntries devices numDevices =>
      apply simulates_get
      intro w c h
      rw [h.platformIDs]
      exact (simulates_clGetDeviceIDs _ deviceType numEntries devices numDevices).map _ w c h
  | getDeviceInfo device paramName capacity value size =>
      apply simulates_get
      intro w c h
      rw [StateT.run_map, StateT.run_map]
      exact (simulates_clGetDeviceInfo h (h.deviceArrays.handles device) paramName capacity value
        size).map _
  | copyDevice source target =>
      intro w c h
      exact .ok (h.setDeviceArrays (h.deviceArrays.store target (h.deviceArrays.handles source)))
  | clearDevice cell =>
      intro w c h
      exact .ok (h.setDeviceArrays (h.deviceArrays.store cell .none))
  | overwrite buffers platformIDs counts =>
      intro w c h
      exact .ok { h with
        buffers := rfl, platformIDs := rfl, deviceArrays := ⟨h.deviceArrays.handles, rfl⟩ }
  | platformDefault => exact simulates_use (endsAs_platformDefault host) fun _ _ _ _ => rfl
  | deviceDefault => exact simulates_use (endsAs_deviceDefault host) fun _ _ _ _ => rfl
  | devices type =>
      refine simulates_use (endsAs_devices host type) ?_
      intro rt refs origins hsel
      rw [hsel.length_eq]
  | newDevice mtlDevice =>
      exact simulates_use (r := .ok ()) (g := fun _ => Response.done)
        (endsAs_newDevice host mtlDevice) fun _ _ _ _ => rfl
  | extensionsWithVersion =>
      refine simulates_use (endsAs_extensionsWithVersion host) ?_
      rintro rt l l' rfl
      rfl
  | extensions =>
      refine simulates_use (endsAs_extensions host) ?_
      rintro rt names l rfl
      rfl

end Calls

end MoltenCL
