import MoltenCL.Session

/-! # What is created

Where the objects of a process come from. A client creates some with `CLDevice(mtlDevice:)`, the
initialiser of `CLDevice.default` creates one and that of `CLPlatform._devices` one for every
listed device. Nothing else creates an object, whatever is called how often and in what order
(`objects_accounted`): each initialiser runs at most once, and no call makes objects of its own.

The heap of the model never frees, so this accounts for the objects created. The statics keep
theirs to the end of the process; one that a client created and released is still counted.
-/

namespace MoltenCL

open Foundation Swift

variable {Dev : Type} (host : Host Dev)

/-- The Metal devices of the objects that the initialised statics have created. -/
def Runtime.held (rt : Runtime Dev) : List Dev :=
  (if rt.deviceDefault = none then [] else (chosenDevice host).toList) ++
    if rt.platformDevices = none then [] else host.copyAllDevices

/-- The objects created so far are one for each device of `created` and one for each that the
statics hold. -/
def Runtime.Balanced (created : List Dev) (rt : Runtime Dev) : Prop :=
  rt.heap.Perm ((created ++ rt.held host).map (newDevice host))

variable {host}

/-- Nothing has been created in a fresh process. -/
theorem Runtime.balanced_empty : Runtime.Balanced host [] ({} : Runtime Dev) := .refl _

/-- A new object of a client. -/
theorem Runtime.Balanced.create {created : List Dev} {rt : Runtime Dev}
    (h : rt.Balanced host created) (d : Dev) :
    (rt.alloc host [d]).Balanced host (created ++ [d]) := by
  have hmove : (created ++ rt.held host ++ [d]).Perm (created ++ [d] ++ rt.held host) := by
    rw [List.append_assoc, List.append_assoc]
    exact List.perm_append_comm.append_left created
  have hobjects : (rt.heap ++ [newDevice host d]).Perm
      ((created ++ rt.held host ++ [d]).map (newDevice host)) := by
    rw [List.map_append]
    exact h.append_right _
  exact hobjects.trans (hmove.map _)

/-! ## The statics -/

section Statics

variable {created : List Dev}

/-- The platform is no device. -/
theorem CLPlatform.default_balances :
    Respects (Runtime.Balanced host created) (fun _ _ => True) (CLPlatform.default host) := by
  intro rt p rt' hb h
  rcases (CLPlatform.default_eq_ok host).mp h with ⟨-, rfl⟩ | ⟨-, rfl, -⟩
  · exact ⟨hb, trivial⟩
  · exact ⟨hb, trivial⟩

/-- The first use of `CLDevice.default` creates the object that the static then holds. -/
theorem CLDevice.default_balances :
    Respects (Runtime.Balanced host created) (fun _ _ => True) (CLDevice.default host) := by
  intro rt r rt' hb h
  rcases (CLDevice.default_eq_ok host).mp h with ⟨-, rfl⟩ | ⟨hnone, p, up, d, hp, hd, rfl, rfl⟩
  · exact ⟨hb, trivial⟩
  · have hup := (CLPlatform.default_balances rt p up hb hp).1
    have hnone' : up.deviceDefault = none := by
      rcases (CLPlatform.default_eq_ok host).mp hp with ⟨-, rfl⟩ | ⟨-, rfl, -⟩
      · exact hnone
      · exact hnone
    refine ⟨?_, trivial⟩
    have hcreate := hup.create d
    unfold Runtime.Balanced Runtime.held at hcreate ⊢
    simpa [Runtime.alloc, hnone', hd] using hcreate

/-- The first use of `CLPlatform._devices` creates the objects that the static then holds. -/
theorem CLPlatform._devices_balances :
    Respects (Runtime.Balanced host created) (fun _ _ => True) (CLPlatform._devices host) := by
  intro rt refs rt' hb h
  rcases (CLPlatform._devices_eq_ok host).mp h with ⟨-, rfl⟩ | ⟨hnone, -, rfl⟩
  · exact ⟨hb, trivial⟩
  · refine ⟨?_, trivial⟩
    have hobjects := hb.append_right (host.copyAllDevices.map (newDevice host))
    unfold Runtime.Balanced Runtime.held at hobjects ⊢
    simpa [Runtime.alloc, hnone] using hobjects

/-- The lists hold no objects. -/
theorem CLPlatform._extensionsWithVersion_balances :
    Respects (Runtime.Balanced host created) (fun _ _ => True)
      (CLPlatform._extensionsWithVersion host) := by
  intro rt l rt' hb h
  rcases (CLPlatform._extensionsWithVersion_eq_ok host).mp h with ⟨-, rfl⟩ | ⟨-, device, -, -, rfl⟩
  · exact ⟨hb, trivial⟩
  · exact ⟨hb, trivial⟩

variable (host created)

/-- **Every use of a static keeps the books balanced**, whatever the client has created. -/
theorem staticsRespect_balanced :
    StaticsRespect host (Runtime.Balanced host created) (fun _ _ => True) where
  refl _ := trivial
  trans _ _ _ _ _ := trivial
  platformDefault := CLPlatform.default_balances
  deviceDefault := CLDevice.default_balances
  platformDevices := CLPlatform._devices_balances
  extensionsWithVersion := CLPlatform._extensionsWithVersion_balances
  extensions := by
    intro rt l rt' hb h
    rcases (CLPlatform._extensions_eq_ok host).mp h with ⟨-, rfl⟩ | ⟨-, versions, u, hrun, -, rfl⟩
    · exact ⟨hb, trivial⟩
    · exact ⟨(CLPlatform._extensionsWithVersion_balances rt versions u hb hrun).1, trivial⟩

end Statics

/-! ## Events -/

/-- The Metal devices an event creates objects for. -/
def Event.creates : Event Dev → List Dev
  | .newDevice mtlDevice => [mtlDevice]
  | _ => []

/-- Only one kind of event creates an object for the client. -/
theorem Event.creates_eq_nil {e : Event Dev} (h : ∀ d, e ≠ .newDevice d) : e.creates = [] := by
  cases e with
  | newDevice mtlDevice => exact absurd rfl (h mtlDevice)
  | _ => rfl

variable [DecidableEq Dev]

/-- **Every event balances the books**, with the object it creates if it is a client's. -/
theorem step_balances (e : Event Dev) {created : List Dev} {w w' : World Dev}
    {out : List DeviceRef} (hb : w.runtime.Balanced host created)
    (hrun : (step host e).run w = .ok (out, w')) :
    w'.runtime.Balanced host (created ++ e.creates) := by
  by_cases hnew : ∃ d, e = .newDevice d
  · rcases hnew with ⟨d, rfl⟩
    cases hrun
    exact hb.create d
  · have hother : ∀ d, e ≠ .newDevice d := fun d h => hnew ⟨d, h⟩
    rw [Event.creates_eq_nil hother, List.append_nil]
    have hstep := (staticsRespect_balanced host created).step e fun d h => absurd h (hother d)
    exact (hstep w out w' hb hrun).1

/-- **The objects a process has created are accounted for.** After any events that completed, they
are those of the client, one for the chosen device if `CLDevice.default` was used and one for
every listed device if `CLPlatform._devices` was, and no others. -/
theorem objects_accounted {w w' : World Dev} {events : List (Event Dev)}
    {outs : List (List DeviceRef)} (hfresh : w.runtime = {})
    (hrun : (runs (step host) events).run w = .ok (outs, w')) :
    w'.runtime.heap.Perm
      ((events.flatMap Event.creates ++ w'.runtime.held host).map (newDevice host)) := by
  have hempty : w.runtime.Balanced host [] := by
    rw [hfresh]
    exact Runtime.balanced_empty
  have hstep : ∀ (e : Event Dev) (created : List Dev) (s : World Dev) (o : List DeviceRef)
      (s' : World Dev), s.runtime.Balanced host created → (step host e).run s = .ok (o, s') →
        s'.runtime.Balanced host (created ++ e.creates) :=
    fun e created s o s' hb h => step_balances e hb h
  exact runs_accumulate hstep events [] w outs w' hempty hrun

/-- A client that creates an object of its own and uses both statics, one of them twice. -/
theorem objects_accounted_twoGPUs :
    ([newDevice Host.twoGPUs 1, newDevice Host.twoGPUs 1, newDevice Host.twoGPUs 0,
        newDevice Host.twoGPUs 1] : List (CLDevice ℕ)).Perm
      ((([.newDevice 1, .deviceDefault, .devices .gpu, .deviceDefault] : List (Event ℕ)).flatMap
          Event.creates ++ [1, 0, 1]).map (newDevice Host.twoGPUs)) := by
  have hrun : (runs (step Host.twoGPUs)
      [.newDevice 1, .deviceDefault, .devices .gpu, .deviceDefault]).run (World.cleared {}) =
        .ok ([[], [], [], []], World.cleared {
          heap := [1, 1, 0, 1].map (newDevice Host.twoGPUs)
          platformDefault := some {}
          deviceDefault := some 1
          platformDevices := some [2, 3] }) := rfl
  exact objects_accounted rfl hrun

end MoltenCL
