import MoltenCL.Preservation
import MoltenCL.Foundation.Machine

/-! # Sessions

A process that uses the library: C calls and Swift uses of the statics, in any
order, with any arguments. `step` is one event and `Reachable` is every world a
process can be in, whatever the client does to its own memory in between.

An event answers with the handles it gave to a C client. For `clGetDeviceIDs`
the client clears the slots it passes and afterwards collects what is in them.
-/

namespace MoltenCL

open Foundation Swift

/-- What a client can do. -/
inductive Event (Dev : Type) where
  | getPlatformIDs (numEntries : UInt32) (platforms numPlatforms : Option ℕ)
  | getPlatformInfo (platform : Option CLPlatform) (paramName : UInt32) (paramValueSize : ℤ)
      (paramValue paramValueSizeRet : Option ℕ)
  | getDeviceIDs (platform : Option CLPlatform) (deviceType : UInt64) (numEntries : UInt32)
      (devices numDevices : Option ℕ)
  | getDeviceInfo (device : Option DeviceRef) (paramName : UInt32) (paramValueSize : ℤ)
      (paramValue paramValueSizeRet : Option ℕ)
  /-- `CLPlatform.default` -/
  | platformDefault
  /-- `CLDevice.default` -/
  | deviceDefault
  /-- `devices(type:)` -/
  | devices (type : CLDeviceType)
  /-- `CLDevice(mtlDevice:)` -/
  | newDevice (mtlDevice : Dev)
  /-- `extensionsWithVersion` of a device -/
  | extensionsWithVersion
  /-- `extensions` of a device -/
  | extensions

variable {Dev : Type} (host : Host Dev)

/-- A C call that gives out no device handle. -/
def silently {α : Type} (x : Swift (World Dev) α) : Swift (World Dev) (List DeviceRef) := do
  let _ ← x
  return []

/-- The slots a fetch may write, without a handle in them. -/
def World.clearSlots (w : World Dev) (devices : Option ℕ) (numEntries : UInt32) : World Dev :=
  w.setDeviceArrays { w.deviceArrays with
    handles := match devices with
      | some a => w.deviceIDs.storeList a (List.replicate numEntries.toNat none)
      | none => w.deviceIDs }

/-- The handles in the slots. -/
def World.collectSlots (w : World Dev) (devices : Option ℕ) (numEntries : UInt32) :
    List DeviceRef :=
  match devices with
  | some a => (w.deviceIDs.load a numEntries.toNat).reduceOption
  | none => []

variable [DecidableEq Dev]

/-- One event. -/
def step : Event Dev → Swift (World Dev) (List DeviceRef)
  | .getPlatformIDs numEntries platforms numPlatforms =>
      silently (clGetPlatformIDs host numEntries platforms numPlatforms)
  | .getPlatformInfo platform paramName paramValueSize paramValue paramValueSizeRet =>
      silently (clGetPlatformInfo host platform paramName paramValueSize paramValue
        paramValueSizeRet)
  | .getDeviceIDs platform deviceType numEntries devices numDevices => do
      modify fun w => w.clearSlots devices numEntries
      let _ ← clGetDeviceIDs host platform deviceType numEntries devices numDevices
      return (← get).collectSlots devices numEntries
  | .getDeviceInfo device paramName paramValueSize paramValue paramValueSizeRet =>
      silently (clGetDeviceInfo host device paramName paramValueSize paramValue paramValueSizeRet)
  | .platformDefault => silently (within World.runtimeSlot (CLPlatform.default host))
  | .deviceDefault => silently (within World.runtimeSlot (CLDevice.default host))
  | .devices type => silently (within World.runtimeSlot (CLPlatform.devices host type))
  | .newDevice mtlDevice => silently (within World.runtimeSlot (CLDevice.init host mtlDevice))
  | .extensionsWithVersion =>
      silently (within World.runtimeSlot (CLPlatform._extensionsWithVersion host))
  | .extensions => silently (within World.runtimeSlot (CLPlatform._extensions host))

/-- The worlds a process can be in: from a fresh runtime, after any events that
completed, with anything in the client's own memory. -/
inductive Reachable : World Dev → Prop where
  | fresh (w : World Dev) (h : w.runtime = {}) : Reachable w
  | step {w w' : World Dev} (e : Event Dev) (out : List DeviceRef) (h : Reachable w)
      (hstep : (step host e).run w = .ok (out, w')) : Reachable w'
  | client {w w' : World Dev} (h : Reachable w) (hruntime : w'.runtime = w.runtime) : Reachable w'

/-! ## The invariants of a session -/

namespace StaticsRespect

variable {host} {Inv : Runtime Dev → Prop} {R : Runtime Dev → Runtime Dev → Prop}

omit [DecidableEq Dev] in
theorem silently (h : StaticsRespect host Inv R) {α : Type} {x : Swift (World Dev) α}
    (hx : RespectsRuntime Inv R x) : RespectsRuntime Inv R (silently x) :=
  h.sequence hx fun _ => h.returns []

/-- **Every event respects what the statics respect**, if the creation of its object does. -/
theorem step (h : StaticsRespect host Inv R) (e : Event Dev)
    (hnew : ∀ d, e = .newDevice d → Respects Inv R (CLDevice.init host d)) :
    RespectsRuntime Inv R (step host e) := by
  -- the client's own stores, before and after `clGetDeviceIDs`, do not touch the runtime
  cases e with
  | getPlatformIDs numEntries platforms numPlatforms =>
      exact h.silently (h.clGetPlatformIDs _ _ _)
  | getPlatformInfo platform paramName capacity value size =>
      exact h.silently (h.clGetPlatformInfo _ _ _ _ _)
  | getDeviceIDs platform deviceType numEntries devices numDevices =>
      have hclear : RespectsRuntime Inv R
          (modify fun w : World Dev => w.clearSlots devices numEntries) := by
        apply h.frame
        intro w u w' hrun
        rcases Prod.mk.inj (Except.ok.inj hrun) with ⟨-, rfl⟩
        rfl
      have hcollect : RespectsRuntime Inv R
          (do return (← get).collectSlots devices numEntries : Swift (World Dev) _) := by
        apply h.frame
        intro w out w' hrun
        rcases Prod.mk.inj (Except.ok.inj hrun) with ⟨-, rfl⟩
        rfl
      exact h.sequence hclear fun _ => h.sequence (h.clGetDeviceIDs _ _ _ _ _) fun _ => hcollect
  | getDeviceInfo device paramName capacity value size =>
      exact h.silently (h.clGetDeviceInfo _ _ _ _ _)
  | platformDefault => exact h.silently (h.within h.platformDefault)
  | deviceDefault => exact h.silently (h.within h.deviceDefault)
  | devices type => exact h.silently (h.within (h.devices type))
  | newDevice mtlDevice => exact h.silently (h.within (hnew mtlDevice rfl))
  | extensionsWithVersion => exact h.silently (h.within h.extensionsWithVersion)
  | extensions => exact h.silently (h.within h.extensions)

end StaticsRespect

namespace UsesRespect

variable {host} {Inv : Runtime Dev → Prop} {R : Runtime Dev → Runtime Dev → Prop}

/-- Every event respects what every use respects. -/
theorem step (h : UsesRespect host Inv R) (e : Event Dev) :
    RespectsRuntime Inv R (step host e) :=
  h.toStaticsRespect.step e fun d _ => h.newDevice d

/-- **Every reachable world satisfies what holds of a fresh runtime and is respected by
every use.** -/
theorem reachable (h : UsesRespect host Inv R) (hempty : Inv {}) {w : World Dev}
    (hw : Reachable host w) : Inv w.runtime := by
  induction hw with
  | fresh w hw =>
      rw [hw]
      exact hempty
  | step e out _ hstep ih => exact (h.step e _ _ _ ih hstep).1
  | client _ hruntime ih =>
      rw [hruntime]
      exact ih

end UsesRespect

/-- Every event keeps the objects and only adds to the runtime. -/
theorem step_respects (e : Event Dev) :
    Respects (World.Valid host) World.Grows (step host e) :=
  (usesRespect_valid host).step e

theorem Reachable.valid {w : World Dev} (h : Reachable host w) : w.runtime.Valid host :=
  (usesRespect_valid host).reachable Runtime.Valid.empty h

/-! ## Worlds with cleared client memory -/

/-- A world over `rt` in which the client has cleared its memory. -/
def World.cleared (rt : Runtime Dev) : World Dev where
  runtime := rt
  buffers := ⟨⟨fun _ => 0⟩, ⟨fun _ => 0⟩⟩
  platformIDs := ⟨fun _ => none⟩
  deviceIDs := ⟨fun _ => none⟩
  counts := ⟨fun _ => 0⟩

/-- The platform comes up on a machine with a supported first device. -/
theorem reachable_up (hup : ComesUp host) :
    Reachable host (World.cleared { platformDefault := some {} }) := by
  have hrun : (step host .platformDefault).run (World.cleared {}) =
      .ok ([], World.cleared { platformDefault := some {} }) := by
    have hdefault : (CLPlatform.default host).run ({} : Runtime Dev) =
        .ok ({}, { platformDefault := some {} }) :=
      (CLPlatform.default_eq_ok host).mpr (Or.inr ⟨rfl, rfl, hup⟩)
    simp only [step, silently, StateT.run_bind, run_within_ok World.runtimeSlot
      (s := World.cleared {}) hdefault]
    rfl
  exact .step .platformDefault [] (.fresh (World.cleared {}) rfl) hrun

end MoltenCL
