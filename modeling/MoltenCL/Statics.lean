import Mathlib.Data.List.Forall2
import MoltenCL.Runtime

/-! # The statics, whatever is used first

The initialisers of `Runtime.lean` run in the order their statics are first used
in. Each has one inversion lemma, which says everything a completed access can
have done, and from these follow

* `Runtime.Valid`: which objects the statics hold. The default object wraps the
  chosen Metal device, the listed objects wrap the listed devices in order, and
  the default object is none of them;
* `Runtime.Grows`: no object and no initialised static ever changes.
-/

namespace MoltenCL

open Foundation Swift

variable {Dev : Type} (host : Host Dev)

/-! ## The purpose of the initialisers -/

/-- The families a device must and must not support: Metal 3, and no Apple 6
without Apple 7. -/
def Supported (device : Dev) : Prop :=
  host.supportsFamily device .metal3 = true ∧
    (host.supportsFamily device .apple6 = true → host.supportsFamily device .apple7 = true)

/-- The platform comes up on this machine: the first listed device is supported. -/
def ComesUp : Prop := ∃ first, host.copyAllDevices.head? = some first ∧ Supported host first

/-- The Metal device the default object wraps, if there is one. -/
def chosenDevice : Option Dev :=
  match host.createSystemDefaultDevice with
  | some device => some device
  | none => host.copyAllDevices.foldl (CLDevice.keepBest host) none

/-- A new object around a Metal device. -/
def newDevice (mtlDevice : Dev) : CLDevice Dev := ⟨mtlDevice, 0, CLVendor.init host mtlDevice⟩

/-- Objects for a list of Metal devices, allocated in order. -/
def Runtime.alloc (rt : Runtime Dev) (mtlDevices : List Dev) : Runtime Dev :=
  { rt with heap := rt.heap ++ mtlDevices.map (newDevice host) }

/-- The Metal device behind a reference. -/
def Runtime.wrapped (rt : Runtime Dev) (ref : DeviceRef) : Option Dev :=
  rt.heap[ref]?.map CLDevice.mtlDevice

/-- The extensions of a platform whose system default is `device`. -/
def extensionsOf (device : Dev) : List CLNameVersion :=
  let v1_0_0 : CLVersion := { major := 1, minor := 0, patch := some 0 }
  let apple7 :=
    if host.supportsFamily device .apple7 then ["cl_apple_subgroup_matrix"] else []
  let apple8 :=
    if host.supportsFamily device .apple8 then ["cl_apple_subgroup_shuffle_and_fill"] else []
  (CLPlatform.extensionNames ++ apple7 ++ apple8).map fun name => ⟨v1_0_0, .ofLiteral name⟩

/-! ## What a completed access has done -/

/-- The platform's initialiser completes exactly on a machine where it comes up, and
changes nothing. -/
theorem CLPlatform.init_eq_ok {rt rt' : Runtime Dev} {p : CLPlatform} :
    (CLPlatform.init host).run rt = .ok (p, rt') ↔
      rt' = rt ∧ ComesUp host := by
  have hone : p = CLPlatform.mk := rfl
  cases hlist : host.copyAllDevices.head? with
  | none => simp [CLPlatform.init, unwrap, ComesUp, hlist]
  | some first =>
      -- a trap on each failed test, and otherwise the runtime as it was
      have hrun : (CLPlatform.init host).run rt = .ok (p, rt') ↔
          Supported host first ∧ rt = rt' := by
        cases h6 : host.supportsFamily first .apple6 <;>
          cases h7 : host.supportsFamily first .apple7 <;>
            cases h3 : host.supportsFamily first .metal3 <;>
              simp [CLPlatform.init, unwrap, hlist, h6, h7, h3, Supported, pure_eq_ok, hone]
      rw [hrun]
      constructor
      · intro h
        rcases h with ⟨hfirst, rfl⟩
        exact ⟨rfl, first, hlist, hfirst⟩
      · intro h
        rcases h with ⟨rfl, f, hf, hfirst⟩
        obtain rfl : first = f := by simpa [hlist] using hf
        exact ⟨hfirst, rfl⟩

/-- An access to `CLPlatform.default` returns the kept platform, or checks the
first listed device and keeps the new platform. -/
theorem CLPlatform.default_eq_ok {rt rt' : Runtime Dev} {p : CLPlatform} :
    (CLPlatform.default host).run rt = .ok (p, rt') ↔
      (rt.platformDefault = some p ∧ rt' = rt) ∨
      (rt.platformDefault = none ∧ rt' = { rt with platformDefault := some p } ∧ ComesUp host) := by
  simp only [CLPlatform.default, once_eq_ok, CLPlatform.init_eq_ok, Runtime.platformDefaultSlot]
  apply or_congr_right
  apply and_congr_right
  intro _
  constructor
  · intro h
    rcases h with ⟨t, ⟨rfl, hup⟩, rfl⟩
    exact ⟨rfl, hup⟩
  · intro h
    rcases h with ⟨rfl, hup⟩
    exact ⟨rt, ⟨rfl, hup⟩, rfl⟩

/-- On a machine where the platform comes up, `CLPlatform.default` returns. -/
theorem CLPlatform.default_returns (hup : ComesUp host) (rt : Runtime Dev) :
    ∃ rt', (CLPlatform.default host).run rt = .ok ({}, rt') := by
  cases hkept : rt.platformDefault with
  | some p => exact ⟨_, (CLPlatform.default_eq_ok host).mpr (Or.inl ⟨hkept, rfl⟩)⟩
  | none => exact ⟨_, (CLPlatform.default_eq_ok host).mpr (Or.inr ⟨hkept, rfl, hup⟩)⟩

/-- Creating an object allocates it. -/
@[simp] theorem CLDevice.run_init (d : Dev) (rt : Runtime Dev) :
    (CLDevice.init host d).run rt = .ok (rt.heap.length, rt.alloc host [d]) := rfl

/-- Creating objects for a list allocates them in order. -/
theorem run_mapM_init (l : List Dev) (rt : Runtime Dev) :
    (l.mapM (CLDevice.init host)).run rt =
      .ok (List.range' rt.heap.length l.length, rt.alloc host l) := by
  induction l generalizing rt with
  | nil => simp [Runtime.alloc, pure_eq_ok]
  | cons d l ih =>
      rw [List.mapM_cons, StateT.run_bind, CLDevice.run_init, ok_bind, StateT.run_bind, ih,
        ok_bind]
      simp [Runtime.alloc, pure_eq_ok, List.range'_succ]

/-- With the platform up, the initialiser of `CLDevice.default` allocates an object
for the chosen device. -/
theorem CLDevice.run_chosen {up rt' : Runtime Dev} {r : DeviceRef} :
    (match host.createSystemDefaultDevice with
      | some device => CLDevice.init host device
      | none =>
          match host.copyAllDevices.foldl (CLDevice.keepBest host) none with
          | some bestCandidate => CLDevice.init host bestCandidate
          | none => throw (Trap.fatalError "No Metal device found.")).run up = .ok (r, rt') ↔
      ∃ d, chosenDevice host = some d ∧ r = up.heap.length ∧ rt' = up.alloc host [d] := by
  cases hsys : host.createSystemDefaultDevice with
  | some d => simp [chosenDevice, hsys, eq_comm]
  | none =>
      cases hbest : host.copyAllDevices.foldl (CLDevice.keepBest host) none with
      | none => simp [chosenDevice, hsys, hbest]
      | some d => simp [chosenDevice, hsys, hbest, eq_comm]

/-- An access to `CLDevice.default` returns the kept object, or makes the
platform come up, allocates an object for the chosen device and keeps it. -/
theorem CLDevice.default_eq_ok {rt rt' : Runtime Dev} {r : DeviceRef} :
    (CLDevice.default host).run rt = .ok (r, rt') ↔
      (rt.deviceDefault = some r ∧ rt' = rt) ∨
      (rt.deviceDefault = none ∧ ∃ p up d, (CLPlatform.default host).run rt = .ok (p, up) ∧
        chosenDevice host = some d ∧ r = up.heap.length ∧
        rt' = { up.alloc host [d] with deviceDefault := some r }) := by
  simp only [CLDevice.default, once_eq_ok, run_bind_eq_ok, Runtime.deviceDefaultSlot]
  apply or_congr_right
  apply and_congr_right
  intro _
  constructor
  · intro h
    rcases h with ⟨t, ⟨p, up, hp, hinit⟩, rfl⟩
    rcases (CLDevice.run_chosen host).mp hinit with ⟨d, hd, rfl, rfl⟩
    exact ⟨p, up, d, hp, hd, rfl, rfl⟩
  · intro h
    rcases h with ⟨p, up, d, hp, hd, rfl, rfl⟩
    exact ⟨up.alloc host [d], ⟨p, up, hp, (CLDevice.run_chosen host).mpr ⟨d, hd, rfl, rfl⟩⟩, rfl⟩

/-- An access to `CLPlatform._devices` returns the kept list, or allocates an
object for every listed device and keeps their references. -/
theorem CLPlatform._devices_eq_ok {rt rt' : Runtime Dev} {refs : List DeviceRef} :
    (CLPlatform._devices host).run rt = .ok (refs, rt') ↔
      (rt.platformDevices = some refs ∧ rt' = rt) ∨
      (rt.platformDevices = none ∧
        refs = List.range' rt.heap.length host.copyAllDevices.length ∧
        rt' = { rt.alloc host host.copyAllDevices with platformDevices := some refs }) := by
  simp only [CLPlatform._devices, once_eq_ok, run_mapM_init, Runtime.platformDevicesSlot,
    Except.ok.injEq, Prod.mk.injEq]
  apply or_congr_right
  apply and_congr_right
  intro _
  constructor
  · intro h
    rcases h with ⟨t, ⟨rfl, rfl⟩, rfl⟩
    exact ⟨rfl, rfl⟩
  · intro h
    rcases h with ⟨rfl, rfl⟩
    exact ⟨_, ⟨rfl, rfl⟩, rfl⟩

/-- An access to `CLPlatform._extensionsWithVersion` returns the kept list, or
makes it from the families of the system default device. -/
theorem CLPlatform._extensionsWithVersion_eq_ok {rt rt' : Runtime Dev} {l : List CLNameVersion} :
    (CLPlatform._extensionsWithVersion host).run rt = .ok (l, rt') ↔
      (rt.extensionsWithVersion = some l ∧ rt' = rt) ∨
      (rt.extensionsWithVersion = none ∧ ∃ device,
        host.createSystemDefaultDevice = some device ∧ l = extensionsOf host device ∧
        rt' = { rt with extensionsWithVersion := some l }) := by
  simp only [CLPlatform._extensionsWithVersion, once_eq_ok, run_bind_eq_ok,
    Runtime.extensionsWithVersionSlot]
  apply or_congr_right
  apply and_congr_right
  intro _
  cases hsys : host.createSystemDefaultDevice with
  | none => simp [unwrap]
  | some d =>
      simp only [unwrap, StateT.run_pure, pure_eq_ok, Except.ok.injEq, Prod.mk.injEq]
      constructor
      · intro h
        rcases h with ⟨t, ⟨_, _, ⟨rfl, rfl⟩, rfl, rfl⟩, rfl⟩
        exact ⟨d, rfl, rfl, rfl⟩
      · intro h
        rcases h with ⟨_, ⟨rfl⟩, rfl, rfl⟩
        exact ⟨rt, ⟨d, rt, ⟨rfl, rfl⟩, rfl, rfl⟩, rfl⟩

/-- An access to `CLPlatform._extensions` returns the kept names, or takes them
from `CLPlatform._extensionsWithVersion`. -/
theorem CLPlatform._extensions_eq_ok {rt rt' : Runtime Dev} {l : List SwiftString} :
    (CLPlatform._extensions host).run rt = .ok (l, rt') ↔
      (rt.extensions = some l ∧ rt' = rt) ∨
      (rt.extensions = none ∧ ∃ versions u,
        (CLPlatform._extensionsWithVersion host).run rt = .ok (versions, u) ∧
        l = versions.map CLNameVersion.name ∧ rt' = { u with extensions := some l }) := by
  simp only [CLPlatform._extensions, once_eq_ok, run_bind_eq_ok, StateT.run_pure, pure_eq_ok,
    Except.ok.injEq, Prod.mk.injEq, Runtime.extensionsSlot]
  apply or_congr_right
  apply and_congr_right
  intro _
  constructor
  · intro h
    rcases h with ⟨t, ⟨versions, u, hrun, rfl, rfl⟩, rfl⟩
    exact ⟨versions, u, hrun, rfl, rfl⟩
  · intro h
    rcases h with ⟨versions, u, hrun, rfl, rfl⟩
    exact ⟨u, ⟨versions, u, hrun, rfl, rfl⟩, rfl⟩

/-! ## What a completed access has kept -/

/-- After an access to `CLPlatform.default` the platform is up. -/
theorem CLPlatform.default_kept {rt rt' : Runtime Dev} {p : CLPlatform}
    (h : (CLPlatform.default host).run rt = .ok (p, rt')) : rt'.platformDefault = some p := by
  unfold CLPlatform.default at h
  exact get_of_once h

theorem CLDevice.default_kept {rt rt' : Runtime Dev} {r : DeviceRef}
    (h : (CLDevice.default host).run rt = .ok (r, rt')) : rt'.deviceDefault = some r := by
  unfold CLDevice.default at h
  exact get_of_once h

theorem CLPlatform._devices_kept {rt rt' : Runtime Dev} {refs : List DeviceRef}
    (h : (CLPlatform._devices host).run rt = .ok (refs, rt')) :
    rt'.platformDevices = some refs := by
  unfold CLPlatform._devices at h
  exact get_of_once h

end MoltenCL
