import MoltenCL.Queries
import MoltenCL.Refinement

/-! # Clients

What holds of every client of the library, however it decides on its commands:

* it cannot tell the library from the catalogue (`library_refines_catalogue`), so worlds it sees
  alike stay alike (`history_independent`);
* it is stopped in a few ways only, none of them a dangling handle (`client_stops`);
* a command returns exactly if it is `Safe`, and a client that issues only safe commands is never
  stopped (`serve_returns_iff`, `client_returns_iff`).

A client is a function from its answers and from what it sees of its memory to its next command.
-/

namespace MoltenCL

open Foundation Swift

variable {Dev : Type} (host : Host Dev)

/-! ## Worlds without handles -/

/-- The client memory of a world that holds no device handle. -/
def World.withoutHandles (w : World Dev) : Client where
  buffers := w.buffers
  platformIDs := w.platformIDs
  deviceIDs := ⟨fun _ => none⟩
  counts := w.counts

section Agreement

variable [DecidableEq Dev] {host}

omit [DecidableEq Dev] in
/-- Memory without handles is related to its copy. -/
theorem related_withoutHandles {w : World Dev} (hnull : ∀ a, w.deviceIDs.cell a = none) :
    w.deviceArrays.Related w.runtime.Names w.withoutHandles.deviceArrays := by
  refine ⟨?_, rfl⟩
  intro a
  show Option.Rel _ (w.deviceIDs.cell a) none
  rw [hnull a]
  exact .none

/-- A reachable world that holds no handle is represented by its memory. -/
theorem Reachable.represents {w : World Dev} (hw : Reachable host w)
    (hnull : ∀ a, w.deviceIDs.cell a = none) : Represents host w w.withoutHandles where
  sound := hw.sound
  buffers := rfl
  platformIDs := rfl
  deviceArrays := related_withoutHandles hnull

/-- A client of the library. -/
abbrev library (host : Host Dev) (next : List Response → Observation → Option (Command Dev)) :
    ℕ → List Response → Swift (World Dev) (List Response) :=
  interact (serve host) World.observe next

/-- A client of the catalogue. -/
abbrev catalogue (host : Host Dev) (next : List Response → Observation → Option (Command Dev)) :
    ℕ → List Response → Swift Client (List Response) :=
  interact (Catalogue.serve host) Client.observe next

/-- A client of the library and a client of the catalogue get the same answers. -/
theorem simulates_client (next : List Response → Observation → Option (Command Dev)) (turns : ℕ)
    (answers : List Response) :
    Simulates (Represents host) (library host next turns answers)
      (catalogue host next turns answers) :=
  Simulates.interact simulates_serve (fun _ _ h => h.observe) next turns answers

/-- **The library refines the catalogue.** From every reachable world every client gets the
answers of the catalogue, or is stopped by its trap, and the world it ends in is represented. -/
theorem library_refines_catalogue {w : World Dev} {c : Client} (hw : Reachable host w)
    (hbuffers : w.buffers = c.buffers) (hplatforms : w.platformIDs = c.platformIDs)
    (hdevices : w.deviceArrays.Related w.runtime.Names c.deviceArrays)
    (next : List Response → Observation → Option (Command Dev)) (turns : ℕ) :
    Agree (Represents host) ((library host next turns []).run w)
      ((catalogue host next turns []).run c) :=
  simulates_client next turns [] w c ⟨hw.sound, hbuffers, hplatforms, hdevices⟩

/-- A client that fetches the platform and its default device, and asks for the type of the
device. -/
def fetchDefaultDevice (answers : List Response) (_ : Observation) : Option (Command Dev) :=
  match answers.length with
  | 0 => some (.getPlatformIDs 1 (some 0) none)
  | 1 => some (.getDeviceIDs 0 0x1 1 (some 0) none)
  | 2 => some (.getDeviceInfo 0 CL_DEVICE_TYPE.toUInt32 8 (some 0) none)
  | _ => none

/-- In a process whose platform is up. -/
theorem library_refines_catalogue_twoGPUs :
    Agree (Represents Host.twoGPUs)
      ((library Host.twoGPUs fetchDefaultDevice 3 []).run
        (World.cleared { platformDefault := some {} }))
      ((catalogue Host.twoGPUs fetchDefaultDevice 3 []).run
        (World.cleared { platformDefault := some {} } : World ℕ).withoutHandles) :=
  library_refines_catalogue (reachable_up Host.twoGPUs ⟨0, rfl, rfl, fun _ => rfl⟩) rfl rfl
    (related_withoutHandles fun _ => rfl) fetchDefaultDevice 3

/-- **A process has no past.** Two reachable worlds without device handles that a client sees
alike give it the same answers, or the same trap, and it sees them alike ever after. -/
theorem history_independent {w w' : World Dev} (hw : Reachable host w) (hw' : Reachable host w')
    (hnull : ∀ a, w.deviceIDs.cell a = none) (hobserve : w.observe = w'.observe)
    (next : List Response → Observation → Option (Command Dev)) (turns : ℕ) :
    Agree (fun s s' => s.observe = s'.observe) ((library host next turns []).run w)
      ((library host next turns []).run w') := by
  have hnull' : ∀ a, w'.deviceIDs.cell a = none := by
    intro a
    have hcell : w.observe.isNull a = w'.observe.isNull a := by rw [hobserve]
    simpa [World.observe, hnull a] using hcell
  have hmemory : w.withoutHandles = w'.withoutHandles := by
    injection hobserve with hbuffers hplatforms hcounts
    unfold World.withoutHandles
    rw [hbuffers, hplatforms, hcounts]
  have hagree := simulates_client next turns [] w _ (hw.represents hnull)
  have hagree' := simulates_client next turns [] w' _ (hw'.represents hnull')
  rw [← hmemory] at hagree'
  apply (hagree.join hagree').mono
  rintro s s' ⟨c, h, h'⟩
  exact h.observe.trans h'.observe.symm

/-- A fresh process, and one that has created an object before. -/
theorem history_independent_oneGPU :
    Agree (fun s s' => s.observe = s'.observe)
      ((library Host.oneGPU fetchDefaultDevice 3 []).run (World.cleared {}))
      ((library Host.oneGPU fetchDefaultDevice 3 []).run
        (World.cleared { heap := [newDevice Host.oneGPU 0] })) :=
  history_independent (.fresh (World.cleared {}) rfl) reachable_oneDevice (fun _ => rfl) rfl
    fetchDefaultDevice 3

end Agreement

/-! ## What stops a client -/

/-- The ways in which the library stops a process: the check of the first listed device, a
machine without the device or the clock a property needs, a number that does not fit, and the two
properties that are not there yet. -/
inductive Stops : Trap → Prop
  | check {e : Trap} (h : Catalogue.platformCheck host = .error e) : Stops e
  | noSystemDefault (h : host.createSystemDefaultDevice = none) : Stops .unexpectedlyNil
  | notRepresentable : Stops .notRepresentable
  | noClock (h : host.machTimebaseInfo.2 = 0) : Stops .divisionByZero
  | maxComputeUnits : Stops (.fatalError "maxComputeUnits not implemented.")
  | maxClockFrequency : Stops (.fatalError "maxClockFrequency not implemented.")

section Stops

variable {host}

/-- The check stops a process with a message, or on a machine without a device. -/
theorem platformCheck_trap {e : Trap} (h : Catalogue.platformCheck host = .error e) :
    e = .unexpectedlyNil ∨ ∃ message, e = .fatalError message := by
  unfold Catalogue.platformCheck freshly CLPlatform.init at h
  cases hlist : host.copyAllDevices.head? with
  | none =>
      rw [hlist] at h
      cases h
      exact Or.inl rfl
  | some first =>
      right
      cases h6 : host.supportsFamily first .apple6 <;>
        cases h7 : host.supportsFamily first .apple7 <;>
          cases h3 : host.supportsFamily first .metal3 <;>
            simp [unwrap, hlist, h6, h7, h3, pure_eq_ok, Except.map] at h <;>
              exact ⟨_, h.symm⟩

/-- No way to stop is a reference to no object, a read past the end or a failed precondition. -/
theorem Stops.memorySafe {e : Trap} (h : Stops host e) :
    e ≠ .danglingReference ∧ e ≠ .outOfBoundsRead ∧ ∀ message, e ≠ .precondition message := by
  cases h with
  | check h =>
      rcases platformCheck_trap h with rfl | ⟨message, rfl⟩
      · simp
      · simp
  | noSystemDefault => simp
  | notRepresentable => simp
  | noClock => simp
  | maxComputeUnits => simp
  | maxClockFrequency => simp

/-- What ends with a trap ends in one of these ways. -/
def MayStop {α : Type} (host : Host Dev) (r : Except Trap α) : Prop :=
  ∀ e, r = .error e → Stops host e

theorem mayStop_ok {α : Type} (a : α) : MayStop host (.ok a : Except Trap α) := by
  intro e h
  cases h

theorem MayStop.map {α β : Type} {r : Except Trap α} (h : MayStop host r) (f : α → β) :
    MayStop host (r.map f) := by
  intro e he
  cases r with
  | ok a => cases he
  | error e' =>
      cases he
      exact h _ rfl

/-- The check of the first listed device. -/
theorem mayStop_check : MayStop host (Catalogue.platformCheck host) :=
  fun _ h => .check h

theorem mayStop_outcome {α : Type} {r : Except Trap α} (h : MayStop host r) (c : Client) :
    MayStop host ((Catalogue.outcome r).run c) := by
  cases r with
  | ok a => exact mayStop_ok _
  | error e =>
      intro e' he
      cases he
      exact h _ rfl

/-! ### Properties -/

/-- A property stops as what it serialises does. -/
theorem mayStop_freshly_map {α β : Type} {x : Swift (Runtime Dev) α}
    (h : MayStop host (x.run {})) (f : α → β) : MayStop host (freshly (f <$> x)) := by
  intro e he
  apply h e
  unfold freshly at he
  cases hrun : (f <$> x).run {} with
  | ok p =>
      rw [hrun] at he
      cases he
  | error e' =>
      rw [hrun] at he
      cases he
      exact run_map_eq_error.mp hrun

theorem mayStop_toUInt32 (x : ℤ) (rt : Runtime Dev) : MayStop host ((toUInt32 x).run rt) := by
  unfold toUInt32
  split_ifs
  · exact mayStop_ok _
  · intro e h
    cases h
    exact .notRepresentable

theorem mayStop_toUInt64 (x : ℤ) (rt : Runtime Dev) : MayStop host ((toUInt64 x).run rt) := by
  unfold toUInt64
  split_ifs
  · exact mayStop_ok _
  · intro e h
    cases h
    exact .notRepresentable

/-- The timer divides by the denominator of the clock. -/
theorem mayStop_timer (rt : Runtime Dev) :
    MayStop host ((CLPlatform.hostTimerResolution host).run rt) := by
  unfold CLPlatform.hostTimerResolution
  simp only
  split_ifs with hdenom
  · intro e h
    cases h
    exact .noClock hdenom
  · exact mayStop_ok _

variable [DecidableEq Dev]

/-- The type makes the platform come up. -/
theorem mayStop_type (device : CLDevice Dev) : MayStop host ((device.type host).run {}) := by
  intro e he
  cases hcheck : Catalogue.platformCheck host with
  | ok p =>
      rcases Runtime.Valid.empty.type_returns host ((freshly_init_eq_ok host).mp hcheck) device with
        ⟨rt', hrun⟩
      rw [hrun] at he
      cases he
  | error e' =>
      unfold CLDevice.type at he
      rw [StateT.run_bind, (defaults_trap host hcheck (.empty host)).2] at he
      cases he
      exact .check hcheck

/-- Every property of a device. -/
theorem deviceInfoCases_mayStop (device : CLDevice Dev) :
    ∀ c ∈ deviceInfoCases host device, MayStop host (freshly c.2) := by
  have hunits : MayStop host (freshly (InfoValue.uint32 <$>
      (CLDevice.maxComputeUnits : Swift (Runtime Dev) UInt32))) := by
    apply mayStop_freshly_map
    rintro e ⟨⟩
    exact .maxComputeUnits
  have hclock : MayStop host (freshly (InfoValue.uint32 <$>
      (CLDevice.maxClockFrequency : Swift (Runtime Dev) UInt32))) := by
    apply mayStop_freshly_map
    rintro e ⟨⟩
    exact .maxClockFrequency
  simp only [deviceInfoCases, List.forall_mem_cons]
  and_intros
  all_goals first
    | exact mayStop_ok _
    | exact hunits
    | exact hclock
    | exact mayStop_freshly_map (mayStop_type device) _
    | exact mayStop_freshly_map (mayStop_toUInt32 _ _) _
    | exact mayStop_freshly_map (mayStop_toUInt64 _ _) _
    | exact fun _ hmem => absurd hmem List.not_mem_nil

omit [DecidableEq Dev] in
/-- Every property of the platform. -/
theorem platformInfoCases_mayStop :
    ∀ c ∈ platformInfoCases host, MayStop host (freshly c.2) := by
  simp only [platformInfoCases, List.forall_mem_cons]
  and_intros
  all_goals first
    | exact mayStop_ok _
    | exact mayStop_freshly_map (mayStop_timer _) _
    | exact fun _ hmem => absurd hmem List.not_mem_nil

/-! ### Commands -/

omit [DecidableEq Dev] in
/-- A query stops as the property it evaluates does. -/
theorem mayStop_answer {cases : List (Int32 × Swift (Runtime Dev) InfoValue)}
    (hcases : ∀ c ∈ cases, MayStop host (freshly c.2)) (paramName : UInt32) (capacity : ℤ)
    (value size : Option ℕ) (c : Client) :
    MayStop host ((Catalogue.answer cases paramName capacity value size).run c) := by
  cases hlookup : cases.lookup paramName.toInt32 with
  | none =>
      rw [Catalogue.run_answer_none hlookup]
      exact mayStop_ok _
  | some property =>
      rw [Catalogue.run_answer_some hlookup]
      exact (hcases _ (mem_of_lookup hlookup)).map _

omit [DecidableEq Dev] in
/-- Only the default device makes the platform come up. -/
theorem mayStop_selected (type : CLDeviceType) : MayStop host (Catalogue.selected host type) := by
  unfold Catalogue.selected
  split_ifs
  · exact mayStop_ok _
  · exact mayStop_check.map _
  · exact mayStop_ok _

omit [DecidableEq Dev] in
/-- The extensions unwrap the system default device. -/
theorem mayStop_extensions : MayStop host (Catalogue.extensionsWithVersion host) := by
  intro e he
  unfold Catalogue.extensionsWithVersion at he
  cases hlist : extensionList host with
  | some l =>
      rw [hlist] at he
      cases he
  | none =>
      rw [hlist] at he
      cases he
      exact .noSystemDefault (Option.map_eq_none_iff.mp hlist)

omit [DecidableEq Dev] in
/-- A handle the library has given out is an object. -/
theorem Represents.metalDevice {w : World Dev} {c : Client} (h : Represents host w c) {a : ℕ}
    {origin : Origin} (hcell : c.deviceIDs.cell a = some origin) :
    ∃ ref d, w.deviceIDs.cell a = some ref ∧ Catalogue.metalDevice host origin = some d ∧
      w.runtime.heap[ref]? = some (newDevice host d) := by
  have hrel : Option.Rel w.runtime.Names (w.deviceIDs.cell a) (c.deviceIDs.cell a) :=
    h.deviceArrays.handles a
  rw [hcell] at hrel
  cases hw : w.deviceIDs.cell a with
  | none =>
      rw [hw] at hrel
      cases hrel
  | some ref =>
      rw [hw] at hrel
      cases hrel with
      | some hname =>
          rcases h.sound.1.names_object hname with ⟨d, hd, hobject⟩
          exact ⟨ref, d, rfl, hd, hobject⟩

/-- What stops the catalogue. -/
theorem mayStop_serve {w : World Dev} {c : Client} (h : Represents host w c)
    (command : Command Dev) : MayStop host ((Catalogue.serve host command).run c) := by
  have hmap : ∀ {α β : Type} {x : Swift Client α} (f : α → β), MayStop host (x.run c) →
      MayStop host ((f <$> x).run c) :=
    fun f hx e he => hx e (run_map_eq_error.mp he)
  cases command with
  | getPlatformIDs numEntries platforms numPlatforms =>
      apply hmap
      by_cases hinvalid : InvalidEnumeration numEntries.toNat platforms numPlatforms
      · rw [Catalogue.run_clGetPlatformIDs_unchecked host (Or.inl hinvalid)]
        exact mayStop_ok _
      · by_cases hnone : platforms = none
        · rw [Catalogue.run_clGetPlatformIDs_unchecked host (Or.inr hnone)]
          exact mayStop_ok _
        · rw [Catalogue.run_clGetPlatformIDs_checked host hinvalid hnone]
          exact mayStop_check.map _
  | getPlatformInfo platform paramName capacity value size =>
      refine hmap (x := Catalogue.clGetPlatformInfo host (c.platformIDs.cell platform) paramName
        capacity value size) _ ?_
      cases c.platformIDs.cell platform with
      | none => exact mayStop_ok _
      | some p => exact mayStop_answer platformInfoCases_mayStop paramName capacity value size c
  | getDeviceIDs platform deviceType numEntries devices numDevices =>
      refine hmap (x := Catalogue.clGetDeviceIDs host (c.platformIDs.cell platform) deviceType
        numEntries devices numDevices) _ ?_
      cases c.platformIDs.cell platform with
      | none => exact mayStop_ok _
      | some p =>
          unfold Catalogue.clGetDeviceIDs
          simp only
          split_ifs
          · exact mayStop_ok _
          · cases hselected : Catalogue.selected host (.ofRawValue deviceType) with
            | error e =>
                intro e' he
                cases he
                exact mayStop_selected _ e hselected
            | ok origins =>
                show MayStop host ((Catalogue.offer origins numEntries devices numDevices).run c)
                rw [Catalogue.run_offer]
                split_ifs
                · exact mayStop_ok _
                · intro e he
                  cases he
                  exact .notRepresentable
                · exact mayStop_ok _
  | getDeviceInfo device paramName capacity value size =>
      refine hmap (x := Catalogue.clGetDeviceInfo host (c.deviceIDs.cell device) paramName
        capacity value size) _ ?_
      cases hcell : c.deviceIDs.cell device with
      | none => exact mayStop_ok _
      | some origin =>
          rcases h.metalDevice hcell with ⟨ref, d, -, hd, -⟩
          simp only [Catalogue.clGetDeviceInfo, hd]
          exact mayStop_answer (deviceInfoCases_mayStop _) paramName capacity value size c
  | copyDevice source target => exact mayStop_ok _
  | clearDevice cell => exact mayStop_ok _
  | overwrite buffers platformIDs counts => exact mayStop_ok _
  | platformDefault => exact hmap _ (mayStop_outcome mayStop_check c)
  | deviceDefault => exact hmap _ (mayStop_outcome mayStop_check c)
  | devices type => exact hmap _ (mayStop_outcome (mayStop_selected type) c)
  | newDevice mtlDevice => exact mayStop_ok _
  | extensionsWithVersion => exact hmap _ (mayStop_outcome mayStop_extensions c)
  | extensions => exact hmap _ (mayStop_outcome mayStop_extensions c)

end Stops

/-! ## Worlds with handles -/

/-- Every device handle in the client's memory is one the library has given out: the kept
default or one of the kept list. -/
def World.HandlesGiven (w : World Dev) : Prop :=
  ∀ a ref, w.deviceIDs.cell a = some ref → w.runtime.deviceDefault = some ref ∨
    ∃ refs, w.runtime.platformDevices = some refs ∧ ref ∈ refs

section Handles

variable [DecidableEq Dev] {host}

/-- A world whose handles were given out is represented: each stands for what gave it out. -/
theorem Reachable.exists_represents {w : World Dev} (hw : Reachable host w)
    (hgiven : w.HandlesGiven) : ∃ c, Represents host w c := by
  have hnames : ∀ a, ∃ origin, Option.Rel w.runtime.Names (w.deviceIDs.cell a) origin := by
    intro a
    cases hcell : w.deviceIDs.cell a with
    | none => exact ⟨none, .none⟩
    | some ref =>
        rcases hgiven a ref hcell with hdefault | ⟨refs, hrefs, hmem⟩
        · exact ⟨some .chosen, .some hdefault⟩
        · rcases List.mem_iff_getElem?.mp hmem with ⟨i, hi⟩
          exact ⟨some (.listed i), .some ⟨refs, hrefs, hi⟩⟩
  choose origins horigins using hnames
  exact ⟨⟨w.buffers, w.platformIDs, ⟨origins⟩, w.counts⟩, hw.sound, rfl, rfl, horigins, rfl⟩

omit [DecidableEq Dev] in
/-- What stands for something was given out. -/
theorem Represents.handlesGiven {w : World Dev} {c : Client} (h : Represents host w c) :
    w.HandlesGiven := by
  intro a ref hcell
  have hrel : Option.Rel w.runtime.Names (w.deviceIDs.cell a) (c.deviceIDs.cell a) :=
    h.deviceArrays.handles a
  rw [hcell] at hrel
  cases horigin : c.deviceIDs.cell a with
  | none =>
      rw [horigin] at hrel
      cases hrel
  | some origin =>
      rw [horigin] at hrel
      cases hrel with
      | some hname =>
          cases origin with
          | listed i =>
              rcases hname with ⟨refs, hrefs, hget⟩
              exact Or.inr ⟨refs, hrefs, List.mem_of_getElem? hget⟩
          | chosen => exact Or.inl hname

/-- An event that gives out no handle leads to a reachable world. -/
theorem Reachable.event {w w' : World Dev} (hw : Reachable host w) {α : Type} {a : α}
    {x : Swift (World Dev) α} (e : Event Dev) (he : MoltenCL.step host e = silently x)
    (hx : x.run w = .ok (a, w')) : Reachable host w' := by
  refine .step e [] hw ?_
  rw [he, silently, StateT.run_bind, hx]
  rfl

/-- A command that maps an event leads to a reachable world. -/
theorem Reachable.map {w w' : World Dev} (hw : Reachable host w) {α β : Type} {b : β}
    {x : Swift (World Dev) α} {f : α → β} (e : Event Dev) (he : MoltenCL.step host e = silently x)
    (hx : (f <$> x).run w = .ok (b, w')) : Reachable host w' := by
  rcases run_of_map hx with ⟨a, hrun⟩
  exact hw.event e he hrun

/-- **A client stays in the worlds of a session.** -/
theorem Reachable.serve {command : Command Dev} {w w' : World Dev} {out : Response}
    (hw : Reachable host w) (hrun : (serve host command).run w = .ok (out, w')) :
    Reachable host w' := by
  cases command with
  | getPlatformIDs numEntries platforms numPlatforms =>
      exact hw.map (.getPlatformIDs numEntries platforms numPlatforms) rfl hrun
  | getPlatformInfo platform paramName capacity value size =>
      exact hw.map (x := clGetPlatformInfo host (w.platformIDs.cell platform) paramName capacity
        value size) (.getPlatformInfo _ paramName capacity value size) rfl hrun
  | getDeviceIDs platform deviceType numEntries devices numDevices =>
      -- whatever the slots hold, the call uses the statics as `devices(type:)` does
      rcases run_of_map (x := clGetDeviceIDs host (w.platformIDs.cell platform) deviceType
        numEntries devices numDevices) hrun with ⟨status, hcall⟩
      rcases (clGetDeviceIDs_eq_ok host).mp hcall with
        ⟨-, -, rfl⟩ | ⟨-, -, -, rfl⟩ | ⟨-, -, refs, rt', hdevices, hrest⟩
      · exact hw
      · exact hw
      · have huse : Reachable host { w with runtime := rt' } :=
          hw.event (.devices _) rfl (run_within_ok World.runtimeSlot hdevices)
        rcases hrest with ⟨-, -, rfl⟩ | ⟨-, -, m, -, rfl⟩
        · exact huse
        · exact huse.client rfl
  | getDeviceInfo device paramName capacity value size =>
      exact hw.map (x := clGetDeviceInfo host (w.deviceIDs.cell device) paramName capacity value
        size) (.getDeviceInfo _ paramName capacity value size) rfl hrun
  | copyDevice source target =>
      cases hrun
      exact hw.client rfl
  | clearDevice cell =>
      cases hrun
      exact hw.client rfl
  | overwrite buffers platformIDs counts =>
      cases hrun
      exact hw.client rfl
  | platformDefault => exact hw.map .platformDefault rfl hrun
  | deviceDefault => exact hw.map .deviceDefault rfl hrun
  | devices type => exact hw.map (.devices type) rfl hrun
  | newDevice mtlDevice => exact hw.map (.newDevice mtlDevice) rfl hrun
  | extensionsWithVersion => exact hw.map .extensionsWithVersion rfl hrun
  | extensions => exact hw.map .extensions rfl hrun

/-- The handles of a client stay handles the library has given out. -/
theorem World.HandlesGiven.serve {command : Command Dev} {w w' : World Dev} {out : Response}
    (hgiven : w.HandlesGiven) (hw : Reachable host w)
    (hrun : (MoltenCL.serve host command).run w = .ok (out, w')) : w'.HandlesGiven := by
  rcases hw.exists_represents hgiven with ⟨c, h⟩
  rcases (simulates_serve command w c h).related_of_left hrun with ⟨c', -, h'⟩
  exact h'.handlesGiven

/-- What a client starts with it keeps: a world of a session, and handles that were given out. -/
theorem serve_keeps (command : Command Dev) (w : World Dev) (out : Response) (w' : World Dev)
    (h : Reachable host w ∧ w.HandlesGiven) (hrun : (serve host command).run w = .ok (out, w')) :
    Reachable host w' ∧ w'.HandlesGiven :=
  ⟨h.1.serve hrun, h.2.serve h.1 hrun⟩

/-- **Whatever commands a client issues, it is stopped in one of these ways.** A handle the library
gave out never dangles, no name is read out of bounds and no writer's precondition fails. -/
theorem client_stops {w : World Dev} (hw : Reachable host w) (hgiven : w.HandlesGiven)
    (next : List Response → Observation → Option (Command Dev)) (turns : ℕ) {e : Trap}
    (h : (library host next turns []).run w = .error e) :
    Stops host e ∧ e ≠ .danglingReference ∧ e ≠ .outOfBoundsRead ∧
      ∀ message, e ≠ .precondition message := by
  suffices hstops : Stops host e from ⟨hstops, hstops.memorySafe⟩
  have hstop : ∀ (command : Command Dev) (s : World Dev) (e : Trap),
      Reachable host s ∧ s.HandlesGiven → (serve host command).run s = .error e →
        Stops host e := by
    intro command s e hs hrun
    rcases hs.1.exists_represents hs.2 with ⟨c, hc⟩
    exact mayStop_serve hc command e (((simulates_serve command s c hc).error_iff e).mp hrun)
  exact interact_stops serve_keeps hstop turns [] w e ⟨hw, hgiven⟩ h

/-- Asking for the extensions of a machine without a system default device. -/
theorem client_stops_extensions :
    Stops Host.oneGPU .unexpectedlyNil ∧ Trap.unexpectedlyNil ≠ .danglingReference ∧
      Trap.unexpectedlyNil ≠ .outOfBoundsRead ∧
      ∀ message, Trap.unexpectedlyNil ≠ .precondition message :=
  client_stops (w := World.cleared {}) (.fresh _ rfl) (fun _ _ h => by cases h)
    (fun _ _ => some .extensions) 1 rfl

end Handles

/-! ## Safe commands -/

/-- The state a command needs so that it does not stop the process. -/
def Safe (w : World Dev) : Command Dev → Prop
  | .getPlatformIDs numEntries platforms numPlatforms =>
      InvalidEnumeration numEntries.toNat platforms numPlatforms ∨ platforms = none ∨ ComesUp host
  | .getPlatformInfo platform paramName _ _ _ =>
      w.platformIDs.cell platform = none ∨
        (paramName.toInt32 = CL_PLATFORM_HOST_TIMER_RESOLUTION → host.machTimebaseInfo.2 ≠ 0)
  | .getDeviceIDs platform deviceType numEntries devices numDevices =>
      w.platformIDs.cell platform = none ∨ (CLDeviceType.ofRawValue deviceType).Rejected ∨
        ((CLDeviceType.ofRawValue deviceType).SelectsDefault → ComesUp host) ∧
          ((CLDeviceType.ofRawValue deviceType).SelectsListed →
            InvalidEnumeration numEntries.toNat devices numDevices ∨ numDevices = none ∨
              host.copyAllDevices.length < 2 ^ 32)
  | .getDeviceInfo device paramName _ _ _ =>
      ∀ ref object, w.deviceIDs.cell device = some ref → w.runtime.heap[ref]? = some object →
        ¬ IsStub paramName.toInt32 ∧ Answerable host object paramName.toInt32
  | .copyDevice _ _ => True
  | .clearDevice _ => True
  | .overwrite _ _ _ => True
  | .platformDefault => ComesUp host
  | .deviceDefault => ComesUp host
  | .devices type => type.SelectsDefault → ComesUp host
  | .newDevice _ => True
  | .extensionsWithVersion => host.createSystemDefaultDevice ≠ none
  | .extensions => host.createSystemDefaultDevice ≠ none

section Safe

variable {host}

/-- The outcome is a value. -/
def Ends {α : Type} (r : Except Trap α) : Prop := ∃ a, r = .ok a

theorem ends_map_iff {α β : Type} {r : Except Trap α} {f : α → β} : Ends (r.map f) ↔ Ends r := by
  cases r with
  | ok a => exact iff_of_true ⟨_, rfl⟩ ⟨_, rfl⟩
  | error e => exact iff_of_false (by rintro ⟨a, h⟩; cases h) (by rintro ⟨a, h⟩; cases h)

theorem ends_run_iff {α : Type} {x : Swift Client α} {c : Client} :
    Ends (x.run c) ↔ ∃ a c', x.run c = .ok (a, c') :=
  Prod.exists

theorem ends_run_map_iff {α β : Type} {x : Swift Client α} {f : α → β} {c : Client} :
    Ends ((f <$> x).run c) ↔ Ends (x.run c) := by
  rw [ends_run_iff, ends_run_iff, run_map_returns_iff]

theorem ends_outcome_iff {α : Type} {r : Except Trap α} {c : Client} :
    Ends ((Catalogue.outcome r).run c) ↔ Ends r := by
  cases r with
  | ok a => exact iff_of_true ⟨_, rfl⟩ ⟨_, rfl⟩
  | error e => exact iff_of_false (by rintro ⟨a, h⟩; cases h) (by rintro ⟨a, h⟩; cases h)

/-- The check passes exactly where the platform comes up. -/
theorem ends_check_iff : Ends (Catalogue.platformCheck host) ↔ ComesUp host :=
  ⟨fun ⟨_, h⟩ => (freshly_init_eq_ok host).mp h,
    fun hup => ⟨{}, (freshly_init_eq_ok host).mpr hup⟩⟩

theorem ends_selected_iff {type : CLDeviceType} :
    Ends (Catalogue.selected host type) ↔ (type.SelectsDefault → ComesUp host) := by
  unfold Catalogue.selected
  split_ifs with hlisted hdefault
  · exact iff_of_true ⟨_, rfl⟩ fun h => absurd h hlisted.not_selectsDefault
  · rw [ends_map_iff, ends_check_iff]
    exact ⟨fun hup _ => hup, fun h => h hdefault⟩
  · exact iff_of_true ⟨_, rfl⟩ fun h => absurd h hdefault

/-- The extensions are listed exactly on a machine with a system default device. -/
theorem ends_extensions_iff :
    Ends (Catalogue.extensionsWithVersion host) ↔ host.createSystemDefaultDevice ≠ none := by
  unfold Catalogue.extensionsWithVersion
  cases hlist : extensionList host with
  | none =>
      have hsys : host.createSystemDefaultDevice = none := Option.map_eq_none_iff.mp hlist
      exact iff_of_false (by rintro ⟨a, h⟩; cases h) fun h => h hsys
  | some l =>
      refine iff_of_true ⟨l, rfl⟩ ?_
      intro hsys
      unfold extensionList at hlist
      rw [hsys] at hlist
      cases hlist

/-- How many devices a mask selects. -/
theorem length_selected {type : CLDeviceType} {origins : List Origin}
    (h : Catalogue.selected host type = .ok origins) :
    origins.length = if type.SelectsListed then host.copyAllDevices.length
      else if type.SelectsDefault then 1 else 0 := by
  unfold Catalogue.selected at h
  split_ifs at h ⊢
  · cases h
    simp
  · cases hcheck : Catalogue.platformCheck host with
    | error e =>
        rw [hcheck] at h
        cases h
    | ok p =>
        rw [hcheck] at h
        cases h
        rfl
  · cases h
    rfl

/-- Counting more devices than a count can hold stops the process. -/
theorem ends_offer_iff {origins : List Origin} {numEntries : UInt32}
    {devices numDevices : Option ℕ} {c : Client} :
    Ends ((Catalogue.offer origins numEntries devices numDevices).run c) ↔
      InvalidEnumeration numEntries.toNat devices numDevices ∨ numDevices = none ∨
        origins.length < 2 ^ 32 := by
  rw [Catalogue.run_offer]
  split_ifs with hnil hover
  · subst hnil
    exact iff_of_true ⟨_, rfl⟩ (Or.inr (Or.inr (by decide)))
  · refine iff_of_false (by rintro ⟨a, h⟩; cases h) ?_
    rintro (hinvalid | hnone | hlen)
    · exact hover.1 hinvalid
    · exact hover.2.1 hnone
    · exact absurd hlen (not_lt.mpr hover.2.2)
  · refine iff_of_true ⟨_, rfl⟩ ?_
    by_contra hnot
    rw [not_or, not_or] at hnot
    exact hover ⟨hnot.1, hnot.2.1, not_lt.mp hnot.2.2⟩

theorem ends_clGetDeviceIDs_iff {p : CLPlatform} {deviceType : UInt64} {numEntries : UInt32}
    {devices numDevices : Option ℕ} {c : Client} :
    Ends ((Catalogue.clGetDeviceIDs host (some p) deviceType numEntries devices numDevices).run
        c) ↔
      (CLDeviceType.ofRawValue deviceType).Rejected ∨
        ((CLDeviceType.ofRawValue deviceType).SelectsDefault → ComesUp host) ∧
          ((CLDeviceType.ofRawValue deviceType).SelectsListed →
            InvalidEnumeration numEntries.toNat devices numDevices ∨ numDevices = none ∨
              host.copyAllDevices.length < 2 ^ 32) := by
  unfold Catalogue.clGetDeviceIDs
  simp only
  split_ifs with hrejected
  · exact iff_of_true ⟨_, rfl⟩ (Or.inl hrejected)
  · rw [← ends_selected_iff]
    cases hselected : Catalogue.selected host (.ofRawValue deviceType) with
    | error e =>
        refine iff_of_false (by rintro ⟨a, h⟩; cases h) ?_
        rintro (h | ⟨⟨a, h⟩, -⟩)
        · exact hrejected h
        · cases h
    | ok origins =>
        have hlength := length_selected hselected
        have hoffer : Ends ((Catalogue.offer origins numEntries devices numDevices).run c) ↔ _ :=
          ends_offer_iff
        refine hoffer.trans ?_
        rw [hlength]
        split_ifs with hlisted hdefault
        · simp [hrejected, hlisted, Ends]
        · simp [hrejected, hlisted, Ends]
        · simp [hrejected, hlisted, Ends]

/-- A property has a value in a fresh process exactly if it returns there. -/
theorem ends_freshly_iff {property : Swift (Runtime Dev) InfoValue} :
    Ends (freshly property) ↔ Completes property {} := by
  unfold freshly
  rw [ends_map_iff]
  constructor
  · rintro ⟨p, h⟩
    exact ⟨p.1, p.2, h⟩
  · rintro ⟨v, rt, h⟩
    exact ⟨(v, rt), h⟩

theorem ends_answer_iff {cases : List (Int32 × Swift (Runtime Dev) InfoValue)}
    {paramName : UInt32} {capacity : ℤ} {value size : Option ℕ} {c : Client} :
    Ends ((Catalogue.answer cases paramName capacity value size).run c) ↔
      ∀ property, cases.lookup paramName.toInt32 = some property → Completes property {} := by
  cases hlookup : cases.lookup paramName.toInt32 with
  | none =>
      rw [Catalogue.run_answer_none hlookup]
      exact iff_of_true ⟨_, rfl⟩ fun property h => by cases h
  | some property =>
      rw [Catalogue.run_answer_some hlookup, ends_map_iff, ends_freshly_iff]
      simp

/-- A name of the platform has a value unless it is the resolution of a stopped clock. -/
theorem platformInfoCases_completes (rt : Runtime Dev) :
    ∀ c ∈ platformInfoCases host, Completes c.2 rt ↔
      (c.1 = CL_PLATFORM_HOST_TIMER_RESOLUTION → host.machTimebaseInfo.2 ≠ 0) := by
  have htimer : Completes (.uint64 <$> CLPlatform.hostTimerResolution host) rt ↔
      host.machTimebaseInfo.2 ≠ 0 := by
    rw [completes_map]
    unfold CLPlatform.hostTimerResolution
    simp only
    split_ifs with h
    · exact iff_of_false (by simp) fun hne => hne h
    · exact iff_of_true ⟨_, rt, rfl⟩ h
  simp only [platformInfoCases, List.forall_mem_cons]
  and_intros
  all_goals first
    | exact iff_of_true (completes_pure _ rt) fun h => absurd h (by decide)
    | exact htimer.trans (by simp)
    | exact fun _ hmem => absurd hmem List.not_mem_nil

/-- Where the cases of a table return under a condition on their names, so does every query. -/
theorem completes_lookup_iff {cases : List (Int32 × Swift (Runtime Dev) InfoValue)}
    {P : Int32 → Prop} {rt : Runtime Dev} (hcases : ∀ c ∈ cases, Completes c.2 rt ↔ P c.1)
    (hother : ∀ name, cases.lookup name = none → P name) (name : Int32) :
    (∀ property, cases.lookup name = some property → Completes property rt) ↔ P name := by
  cases hlookup : cases.lookup name with
  | none => exact iff_of_true (fun property h => by cases h) (hother name hlookup)
  | some property =>
      rw [← hcases _ (mem_of_lookup hlookup)]
      simp

theorem platformInfo_completes_iff (name : Int32) :
    (∀ property, (platformInfoCases host).lookup name = some property → Completes property {}) ↔
      (name = CL_PLATFORM_HOST_TIMER_RESOLUTION → host.machTimebaseInfo.2 ≠ 0) := by
  refine completes_lookup_iff
    (P := fun name => name = CL_PLATFORM_HOST_TIMER_RESOLUTION → host.machTimebaseInfo.2 ≠ 0)
    (platformInfoCases_completes {}) ?_ name
  rintro name hnone rfl
  cases hnone

variable [DecidableEq Dev]

/-- The property of a stub traps. -/
theorem deviceInfoCases_stub (device : CLDevice Dev) (rt : Runtime Dev) :
    ∀ c ∈ deviceInfoCases host device, IsStub c.1 → ¬ Completes c.2 rt := by
  have hstub : ∀ function, ¬ Completes (.uint32 <$> notImplementedError function) rt := by
    intro function
    rw [completes_map]
    simp [notImplementedError]
  unfold IsStub
  simp only [deviceInfoCases, List.forall_mem_cons]
  and_intros
  all_goals first
    | exact fun h => absurd h (by decide)
    | exact fun _ => hstub _
    | exact fun _ hmem => absurd hmem List.not_mem_nil

theorem deviceInfo_completes_iff (device : CLDevice Dev) (name : Int32) :
    (∀ property, (deviceInfoCases host device).lookup name = some property →
      Completes property {}) ↔ ¬ IsStub name ∧ Answerable host device name := by
  refine completes_lookup_iff (P := fun name => ¬ IsStub name ∧ Answerable host device name)
    ?_ ?_ name
  · intro c hc
    by_cases hstub : IsStub c.1
    · exact iff_of_false (deviceInfoCases_stub device {} c hc hstub) fun h => h.1 hstub
    · rw [deviceInfoCases_completes host .empty device c hc hstub]
      exact ⟨fun h => ⟨hstub, h⟩, fun h => h.2⟩
  · intro name hnone
    -- every name with a condition is in the table
    constructor
    · rintro (rfl | rfl) <;> cases hnone
    · apply answerable_of_notMem
      intro hmem
      simp only [List.mem_cons, List.not_mem_nil, or_false] at hmem
      rcases hmem with rfl | rfl | rfl | rfl | rfl <;> cases hnone

/-- A command returns exactly if it is safe. -/
theorem serve_returns_iff {w : World Dev} (hw : Reachable host w) (hgiven : w.HandlesGiven)
    (command : Command Dev) :
    (∃ out w', (serve host command).run w = .ok (out, w')) ↔ Safe host w command := by
  rcases hw.exists_represents hgiven with ⟨c, h⟩
  rw [(simulates_serve command w c h).returns_iff, ← ends_run_iff]
  cases command with
  | getPlatformIDs numEntries platforms numPlatforms =>
      refine ends_run_map_iff.trans ?_
      simp only [Safe]
      by_cases hinvalid : InvalidEnumeration numEntries.toNat platforms numPlatforms
      · rw [Catalogue.run_clGetPlatformIDs_unchecked host (Or.inl hinvalid)]
        exact iff_of_true ⟨_, rfl⟩ (Or.inl hinvalid)
      · by_cases hnone : platforms = none
        · rw [Catalogue.run_clGetPlatformIDs_unchecked host (Or.inr hnone)]
          exact iff_of_true ⟨_, rfl⟩ (Or.inr (Or.inl hnone))
        · rw [Catalogue.run_clGetPlatformIDs_checked host hinvalid hnone, ends_map_iff,
            ends_check_iff]
          simp [hinvalid, hnone]
  | getPlatformInfo platform paramName capacity value size =>
      refine (ends_run_map_iff (x := Catalogue.clGetPlatformInfo host
        (c.platformIDs.cell platform) paramName capacity value size)).trans ?_
      simp only [Safe, h.platformIDs]
      cases c.platformIDs.cell platform with
      | none => exact iff_of_true ⟨_, rfl⟩ (Or.inl rfl)
      | some p =>
          refine ends_answer_iff.trans ((platformInfo_completes_iff _).trans ?_)
          simp
  | getDeviceIDs platform deviceType numEntries devices numDevices =>
      refine (ends_run_map_iff (x := Catalogue.clGetDeviceIDs host (c.platformIDs.cell platform)
        deviceType numEntries devices numDevices)).trans ?_
      simp only [Safe, h.platformIDs]
      cases c.platformIDs.cell platform with
      | none => exact iff_of_true ⟨_, rfl⟩ (Or.inl rfl)
      | some p =>
          rw [ends_clGetDeviceIDs_iff]
          simp
  | getDeviceInfo device paramName capacity value size =>
      refine (ends_run_map_iff (x := Catalogue.clGetDeviceInfo host (c.deviceIDs.cell device)
        paramName capacity value size)).trans ?_
      simp only [Safe]
      cases hcell : c.deviceIDs.cell device with
      | none =>
          have hnull : w.deviceIDs.cell device = none :=
            (rel_none_iff (h.deviceArrays.handles device)).mpr hcell
          refine iff_of_true ⟨_, rfl⟩ ?_
          rw [hnull]
          rintro ref object ⟨⟩
      | some origin =>
          rcases h.metalDevice hcell with ⟨ref, d, href, hd, hobject⟩
          simp only [Catalogue.clGetDeviceInfo, hd]
          refine ends_answer_iff.trans ((deviceInfo_completes_iff _ _).trans ?_)
          rw [href]
          constructor
          · rintro hsafe ref' object ⟨⟩ hobject'
            rw [hobject] at hobject'
            cases hobject'
            exact hsafe
          · intro hsafe
            exact hsafe ref _ rfl hobject
  | copyDevice source target => exact iff_of_true ⟨_, rfl⟩ trivial
  | clearDevice cell => exact iff_of_true ⟨_, rfl⟩ trivial
  | overwrite buffers platformIDs counts => exact iff_of_true ⟨_, rfl⟩ trivial
  | platformDefault => exact ends_run_map_iff.trans (ends_outcome_iff.trans ends_check_iff)
  | deviceDefault => exact ends_run_map_iff.trans (ends_outcome_iff.trans ends_check_iff)
  | devices type => exact ends_run_map_iff.trans (ends_outcome_iff.trans ends_selected_iff)
  | newDevice mtlDevice => exact iff_of_true ⟨_, rfl⟩ trivial
  | extensionsWithVersion =>
      exact ends_run_map_iff.trans (ends_outcome_iff.trans ends_extensions_iff)
  | extensions => exact ends_run_map_iff.trans (ends_outcome_iff.trans ends_extensions_iff)

/-- **A client is not stopped exactly if every command it issues is safe** in the world it
issues it in. -/
theorem client_returns_iff {w : World Dev} (hw : Reachable host w) (hgiven : w.HandlesGiven)
    (next : List Response → Observation → Option (Command Dev)) (turns : ℕ) :
    (∃ answers w', (library host next turns []).run w = .ok (answers, w')) ↔
      SafeRun (serve host) World.observe next (Safe host) turns [] w := by
  exact interact_returns_iff serve_keeps
    (fun command s (hs : Reachable host s ∧ s.HandlesGiven) => serve_returns_iff hs.1 hs.2 command)
    turns [] w ⟨hw, hgiven⟩

/-- A client of a fresh process with two GPUs. -/
theorem client_returns_iff_twoGPUs :
    (∃ answers w', (library Host.twoGPUs fetchDefaultDevice 3 []).run (World.cleared {}) =
      .ok (answers, w')) ↔
      SafeRun (serve Host.twoGPUs) World.observe fetchDefaultDevice (Safe Host.twoGPUs) 3 []
        (World.cleared {}) :=
  client_returns_iff (.fresh _ rfl) (fun _ _ h => by cases h) fetchDefaultDevice 3

end Safe

end MoltenCL
