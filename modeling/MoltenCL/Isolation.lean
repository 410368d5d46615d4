import MoltenCL.Clients
import MoltenCL.Foundation.Interleaving

/-! # Several clients in one process

A process can have more than one client of the library: its threads, or frameworks it loads that
know nothing of each other. They share the objects and the statics, and each has memory of its
own, in which it starts without device handles. Under every schedule each is answered as if it
were alone (`clients_isolated`): what one uses first, how many objects another creates and which of
the defaults somebody has touched never shows.
-/

namespace MoltenCL

open Foundation Swift

variable {Dev : Type} (host : Host Dev)

/-- The memory of one client. -/
structure ClientMemory where
  buffers : Buffers
  platformIDs : Memory (Option CLPlatform)
  deviceIDs : Memory (Option DeviceRef)
  counts : Memory UInt32

/-- A world is the library's own state and the memory of a client. -/
def World.split : Split (World Dev) (Runtime Dev) ClientMemory where
  shared w := w.runtime
  own w := ⟨w.buffers, w.platformIDs, w.deviceIDs, w.counts⟩
  join rt m := ⟨rt, m.buffers, m.platformIDs, m.deviceIDs, m.counts⟩
  join_self _ := rfl
  shared_join _ _ := rfl

/-- The memory of a client that has cleared it. -/
def ClientMemory.cleared : ClientMemory where
  buffers := ⟨⟨fun _ => 0⟩, ⟨fun _ => 0⟩⟩
  platformIDs := ⟨fun _ => none⟩
  deviceIDs := ⟨fun _ => none⟩
  counts := ⟨fun _ => 0⟩

/-- The memory of a client that holds no device handle, as the catalogue sees it. -/
def ClientMemory.withoutHandles (m : ClientMemory) : Client where
  buffers := m.buffers
  platformIDs := m.platformIDs
  deviceIDs := ⟨fun _ => none⟩
  counts := m.counts

variable [DecidableEq Dev]

/-- Every command uses the runtime as the statics do. -/
theorem serve_respects (command : Command Dev) :
    RespectsRuntime (Runtime.Sound host) Runtime.Grows (serve host command) := by
  have h := usesRespect_sound host
  have hquiet : ∀ (f : World Dev → World Dev), (∀ w, (f w).runtime = w.runtime) →
      RespectsRuntime (Runtime.Sound host) Runtime.Grows
        (do modify f; return .done : Swift (World Dev) Response) := by
    intro f hf
    apply h.frame
    rintro w out w' ⟨⟩
    exact hf w
  cases command with
  | getPlatformIDs numEntries platforms numPlatforms => exact (h.clGetPlatformIDs _ _ _).map _
  | getPlatformInfo platform paramName capacity value size =>
      intro w out w' hs hrun
      exact (h.clGetPlatformInfo _ _ _ _ _).map _ w out w' hs hrun
  | getDeviceIDs platform deviceType numEntries devices numDevices =>
      intro w out w' hs hrun
      exact (h.clGetDeviceIDs _ _ _ _ _).map _ w out w' hs hrun
  | getDeviceInfo device paramName capacity value size =>
      intro w out w' hs hrun
      exact (h.clGetDeviceInfo _ _ _ _ _).map _ w out w' hs hrun
  | copyDevice source target => exact hquiet _ fun _ => rfl
  | clearDevice cell => exact hquiet _ fun _ => rfl
  | overwrite buffers platformIDs counts => exact hquiet _ fun _ => rfl
  | platformDefault => exact (h.within h.platformDefault).map _
  | deviceDefault => exact (h.within h.deviceDefault).map _
  | devices type => exact (h.within (h.devices type)).map _
  | newDevice mtlDevice => exact (h.within (h.newDevice mtlDevice)).map _
  | extensionsWithVersion => exact (h.within h.extensionsWithVersion).map _
  | extensions => exact (h.within h.extensions).map _

variable {host}

/-- A client alone in a fresh process. -/
def ClientMemory.alone (m : ClientMemory) : World Dev := World.split.join {} m

omit [DecidableEq Dev] in
theorem ClientMemory.represents {m : ClientMemory} (hnull : ∀ a, m.deviceIDs.cell a = none)
    {rt : Runtime Dev} (hs : rt.Sound host) :
    Represents host (World.split.join rt m) m.withoutHandles where
  sound := hs
  buffers := rfl
  platformIDs := rfl
  deviceArrays := related_withoutHandles (w := World.split.join rt m) hnull

/-- The catalogue's answers to a client are those of the library in a fresh process. -/
theorem alone_agrees {m : ClientMemory} (hnull : ∀ a, m.deviceIDs.cell a = none)
    (next : List Response → Observation → Option (Command Dev)) (turns : ℕ) :
    Agree (Represents host) ((library host next turns []).run m.alone)
      ((catalogue host next turns []).run m.withoutHandles) :=
  simulates_client next turns [] _ _ (ClientMemory.represents hnull (.empty host))

/-- **Clients of one process are isolated**, if they start without device handles. Whatever the
process has done before, and under every schedule, each client has the answers it gets alone in a
fresh process and sees what it sees there; whoever is stopped is stopped there by the same trap. -/
theorem clients_isolated {ι : Type} [DecidableEq ι] {w : World Dev} (hw : Reachable host w)
    {memory : ι → ClientMemory} (hnull : ∀ i a, (memory i).deviceIDs.cell a = none)
    (next : ι → List Response → Observation → Option (Command Dev)) (schedule : List ι) :
    Isolated (fun s t : World Dev => s.observe = t.observe)
      (fun i => library host (next i) (schedule.count i) []) (fun i => (memory i).alone) World.split
      ((interleave World.split (serve host) World.observe next schedule).run
        ⟨w.runtime, memory, fun _ => []⟩) := by
  have hserve : ∀ (command : Command Dev) (s : World Dev) (c : Client), Represents host s c →
      Agree (fun s' c' => Represents host s' c' ∧ s'.runtime.Sound host ∧
          s.runtime.Grows s'.runtime)
        ((serve host command).run s) ((Catalogue.serve host command).run c) := by
    intro command s c h
    exact (simulates_serve command s c h).and_left fun out s' hrun =>
      serve_respects host command s out s' h.sound hrun
  have hlater : ∀ (rt rt' : Runtime Dev) (m : ClientMemory) (c : Client),
      rt'.Sound host ∧ rt.Grows rt' → Represents host (World.split.join rt m) c →
      Represents host (World.split.join rt' m) c :=
    fun rt rt' m c hgrows h => h.grow hgrows.1 hgrows.2
  have hisolated : Isolated (Represents host)
      (fun i => catalogue host (next i) (schedule.count i) []) (fun i => (memory i).withoutHandles)
      World.split ((interleave World.split (serve host) World.observe next schedule).run
        ⟨w.runtime, memory, fun _ => []⟩) :=
    interleave_isolated hserve hlater (fun _ _ h => h.observe) schedule
      ⟨w.runtime, memory, fun _ => []⟩ _ fun i => ClientMemory.represents (hnull i) hw.sound
  -- the catalogue's answers are those of a fresh process
  cases hrun : (interleave World.split (serve host) World.observe next schedule).run
      ⟨w.runtime, memory, fun _ => []⟩ with
  | ok r =>
      rw [hrun] at hisolated
      intro i
      rcases hisolated i with ⟨c', hcatalogue, h⟩
      have hagree : Agree (Represents host) _ _ :=
        alone_agrees (hnull i) (next i) (schedule.count i)
      rcases hagree.related_of_right hcatalogue with ⟨t, halone, ht⟩
      exact ⟨t, halone, h.observe.trans ht.observe.symm⟩
  | error e =>
      rw [hrun] at hisolated
      rcases hisolated with ⟨i, hcatalogue⟩
      exact ⟨i, ((alone_agrees (hnull i) (next i) (schedule.count i)).error_iff e).mpr hcatalogue⟩

/-- Two clients that fetch the default device, in a process that has created an object before. -/
theorem clients_isolated_twoClients :
    Isolated (fun s t : World ℕ => s.observe = t.observe)
      (fun i : Bool => library Host.oneGPU fetchDefaultDevice
        ([true, false, false, true].count i) [])
      (fun _ => ClientMemory.cleared.alone) World.split
      ((interleave World.split (serve Host.oneGPU) World.observe (fun _ => fetchDefaultDevice)
          [true, false, false, true]).run
        ⟨{ heap := [newDevice Host.oneGPU 0] }, fun _ => ClientMemory.cleared, fun _ => []⟩) :=
  clients_isolated reachable_oneDevice (fun _ _ => rfl) (fun _ => fetchDefaultDevice)
    [true, false, false, true]

end MoltenCL
