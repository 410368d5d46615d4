import MoltenCL.Extensions

/-! # The past of a process

Statics are initialised on first use, so what a use does could depend on what was used before.
It does not: in every runtime that keeps the invariants, a property has the value or the trap it
has in a fresh process, and a use of a static returns or traps as it does there
(`HistoryFree`). What cannot be used is then a fact about the machine alone.
-/

namespace MoltenCL

open Foundation Swift

variable {Dev : Type} (host : Host Dev)

/-- What a computation returns, or its trap, in a fresh process. -/
def freshly {α : Type} (x : Swift (Runtime Dev) α) : Except Trap α :=
  (x.run {}).map Prod.fst

/-! ## The invariants together -/

/-- The invariants of the objects and of the extension lists. -/
def Runtime.Sound (rt : Runtime Dev) : Prop := rt.Valid host ∧ rt.ExtensionsValid host

/-- A fresh process keeps the invariants. -/
theorem Runtime.Sound.empty : Runtime.Sound host ({} : Runtime Dev) :=
  ⟨.empty, .empty host⟩

/-- Two invariants that are respected are respected together. -/
theorem respects_and {σ α : Type} {Inv Inv' : σ → Prop} {R R' : σ → σ → Prop} {x : Swift σ α}
    (h : Respects Inv R x) (h' : Respects Inv' R' x) :
    Respects (fun s => Inv s ∧ Inv' s) R x := by
  intro s a s' hs hrun
  rcases h s a s' hs.1 hrun with ⟨hs', hR⟩
  exact ⟨⟨hs', (h' s a s' hs.2 hrun).1⟩, hR⟩

/-- Every use of the library keeps both invariants. -/
theorem usesRespect_sound : UsesRespect host (Runtime.Sound host) Runtime.Grows where
  refl := Runtime.Grows.refl
  trans := Runtime.Grows.trans
  platformDefault :=
    respects_and (usesRespect_valid host).platformDefault
      (usesRespect_extensions host).platformDefault
  deviceDefault :=
    respects_and (usesRespect_valid host).deviceDefault
      (usesRespect_extensions host).deviceDefault
  platformDevices :=
    respects_and (usesRespect_valid host).platformDevices
      (usesRespect_extensions host).platformDevices
  extensionsWithVersion :=
    respects_and (usesRespect_valid host).extensionsWithVersion
      (usesRespect_extensions host).extensionsWithVersion
  extensions :=
    respects_and (usesRespect_valid host).extensions
      (usesRespect_extensions host).extensions
  newDevice d :=
    respects_and ((usesRespect_valid host).newDevice d)
      ((usesRespect_extensions host).newDevice d)

/-- And so does every world of a session. -/
theorem Reachable.sound [DecidableEq Dev] {w : World Dev} (h : Reachable host w) :
    w.runtime.Sound host :=
  (usesRespect_sound host).reachable (.empty host) h

/-! ## Uses that do not depend on the past -/

/-- Whatever was used before, `x` returns or traps as in a fresh process. -/
def HistoryFree {α : Type} (x : Swift (Runtime Dev) α) : Prop :=
  ∀ rt : Runtime Dev, rt.Sound host → (x.run rt).map Prod.fst = freshly x

variable {host}

/-- It is enough to know the outcome in every sound runtime. -/
theorem historyFree_of_forall {α : Type} {x : Swift (Runtime Dev) α} (r : Except Trap α)
    (h : ∀ rt : Runtime Dev, rt.Sound host → (x.run rt).map Prod.fst = r) : HistoryFree host x := by
  intro rt hs
  rw [h rt hs]
  exact (h {} (.empty host)).symm

theorem historyFree_pure {α : Type} (a : α) : HistoryFree host (pure a) :=
  historyFree_of_forall (.ok a) fun _ _ => rfl

theorem historyFree_throw {α : Type} (e : Trap) :
    HistoryFree host (throw e : Swift (Runtime Dev) α) :=
  historyFree_of_forall (.error e) fun _ _ => rfl

/-- Mapping the value. -/
theorem HistoryFree.map {α β : Type} {x : Swift (Runtime Dev) α} (h : HistoryFree host x)
    (f : α → β) : HistoryFree host (f <$> x) := by
  have hmap : ∀ rt, ((f <$> x).run rt).map Prod.fst = ((x.run rt).map Prod.fst).map f := by
    intro rt
    rw [StateT.run_map]
    cases x.run rt with
    | error e => rfl
    | ok p => rfl
  intro rt hs
  unfold freshly
  rw [hmap, hmap, h rt hs]
  rfl

/-- What uses no static has no past. -/
theorem historyFree_constant {α : Type} {x : Swift (Runtime Dev) α} (h : Constant x) :
    HistoryFree host x := by
  rcases h with ⟨a, rfl⟩ | ⟨e, rfl⟩
  · exact historyFree_pure a
  · exact historyFree_throw e

/-- A computation with the same trap in every sound runtime. -/
theorem historyFree_trap {α : Type} {x : Swift (Runtime Dev) α} (e : Trap)
    (h : ∀ rt : Runtime Dev, rt.Sound host → x.run rt = .error e) : HistoryFree host x := by
  apply historyFree_of_forall (.error e)
  intro rt hs
  rw [h rt hs]
  rfl

/-! ## Machines where the platform does not come up -/

variable (host)

/-- The initialiser of the platform looks at the machine only. -/
theorem CLPlatform.run_init (rt : Runtime Dev) :
    (CLPlatform.init host).run rt =
      ((CLPlatform.init host).run {}).map fun p => (p.1, rt) := by
  unfold CLPlatform.init
  cases hlist : host.copyAllDevices.head? with
  | none => rfl
  | some first =>
      cases h6 : host.supportsFamily first .apple6 <;>
        cases h7 : host.supportsFamily first .apple7 <;>
          cases h3 : host.supportsFamily first .metal3 <;>
            simp [unwrap, h6, h7, h3, pure_eq_ok, Except.map]

/-- The check of a fresh process passes exactly where the platform comes up. -/
theorem freshly_init_eq_ok {p : CLPlatform} :
    freshly (CLPlatform.init host) = .ok p ↔ ComesUp host := by
  unfold freshly
  constructor
  · intro h
    cases hinit : (CLPlatform.init host).run {} with
    | ok r => exact ((CLPlatform.init_eq_ok host).mp hinit).2
    | error e =>
        rw [hinit] at h
        cases h
  · intro hup
    rw [(CLPlatform.init_eq_ok host (p := p)).mpr ⟨rfl, hup⟩]
    rfl

/-- Where the check fails, both defaults are stopped by its trap. -/
theorem defaults_trap {e : Trap} (h : freshly (CLPlatform.init host) = .error e)
    {rt : Runtime Dev} (hs : rt.Sound host) :
    (CLPlatform.default host).run rt = .error e ∧ (CLDevice.default host).run rt = .error e := by
  have hup : ¬ComesUp host := by
    intro hup
    rw [(freshly_init_eq_ok host (p := {})).mpr hup] at h
    cases h
  -- nothing that needs the platform has been used
  have hplatform : rt.platformDefault = none := by
    by_contra hne
    exact hup (hs.1.up hne)
  have hdevice : rt.deviceDefault = none := by
    by_contra hne
    exact hs.1.default_up hne hplatform
  have hrun : (CLPlatform.init host).run rt = .error e := by
    rw [CLPlatform.run_init]
    unfold freshly at h
    cases hinit : (CLPlatform.init host).run {} with
    | ok r =>
        rw [hinit] at h
        cases h
    | error e' =>
        rw [hinit] at h
        cases h
        rfl
  have hdefault : (CLPlatform.default host).run rt = .error e := once_error hplatform hrun
  refine ⟨hdefault, once_error hdevice ?_⟩
  rw [StateT.run_bind, hdefault]
  rfl

/-! ## Properties -/

section Properties

variable [DecidableEq Dev]

/-- The type is the same before and after the default device was first used. -/
theorem CLDevice.type_historyFree (device : CLDevice Dev) :
    HistoryFree host (device.type host) := by
  by_cases hup : ComesUp host
  · apply historyFree_of_forall (.ok (deviceTypeOf host device.mtlDevice))
    intro rt hs
    rcases hs.1.type_returns host hup device with ⟨rt', hrun⟩
    rw [hrun]
    rfl
  · cases hcheck : freshly (CLPlatform.init host) with
    | ok p => exact absurd ((freshly_init_eq_ok host).mp hcheck) hup
    | error e =>
        apply historyFree_trap e
        intro rt hs
        unfold CLDevice.type
        rw [StateT.run_bind, (defaults_trap host hcheck hs).2]
        rfl

/-- Every property of a device. -/
theorem deviceInfoCases_historyFree (device : CLDevice Dev) :
    ∀ c ∈ deviceInfoCases host device, HistoryFree host c.2 := by
  have hstub : ∀ function, HistoryFree host
      (InfoValue.uint32 <$> (notImplementedError function : Swift (Runtime Dev) UInt32)) :=
    fun function => (historyFree_throw _).map _
  have hword : ∀ x, HistoryFree host
      (InfoValue.uint32 <$> (toUInt32 x : Swift (Runtime Dev) UInt32)) :=
    fun x => (historyFree_constant (constant_toUInt32 x)).map _
  have hsize : ∀ x, HistoryFree host
      (InfoValue.uint64 <$> (toUInt64 x : Swift (Runtime Dev) UInt64)) :=
    fun x => (historyFree_constant (constant_toUInt64 x)).map _
  simp only [deviceInfoCases, List.forall_mem_cons]
  and_intros
  all_goals first
    | exact historyFree_pure _
    | exact (CLDevice.type_historyFree host device).map _
    | exact hstub _
    | exact hword _
    | exact hsize _
    | exact fun _ hmem => absurd hmem List.not_mem_nil

end Properties

/-- Every property of the platform. -/
theorem platformInfoCases_historyFree :
    ∀ c ∈ platformInfoCases host, HistoryFree host c.2 := by
  have htimer : HistoryFree host (InfoValue.uint64 <$> CLPlatform.hostTimerResolution host) :=
    (historyFree_constant (constant_hostTimerResolution host)).map _
  simp only [platformInfoCases, List.forall_mem_cons]
  and_intros
  all_goals first
    | exact historyFree_pure _
    | exact htimer
    | exact fun _ hmem => absurd hmem List.not_mem_nil

/-! ## Extensions -/

/-- Without a default device the list of the extensions is a trap. -/
theorem extensionVersions_trap {rt : Runtime Dev} (hlist : extensionList host = none)
    (hs : rt.Sound host) :
    (CLPlatform._extensionsWithVersion host).run rt = .error .unexpectedlyNil := by
  have hsys : host.createSystemDefaultDevice = none := Option.map_eq_none_iff.mp hlist
  have hnone : rt.extensionsWithVersion = none := by
    by_contra hne
    rcases Option.ne_none_iff_exists'.mp hne with ⟨l, hl⟩
    exact absurd (hs.2.versions l hl) (by simp [hlist])
  apply once_error hnone
  rw [StateT.run_bind, hsys]
  rfl

/-- The names trap with the list they are taken from. -/
theorem extensionNames_trap {rt : Runtime Dev} (hlist : extensionList host = none)
    (hs : rt.Sound host) : (CLPlatform._extensions host).run rt = .error .unexpectedlyNil := by
  have hnone : rt.extensions = none := by
    by_contra hne
    rcases Option.ne_none_iff_exists'.mp hne with ⟨l, hl⟩
    rcases hs.2.names l hl with ⟨versions, hversions, -⟩
    exact absurd hversions (by simp [hlist])
  apply once_error hnone
  rw [StateT.run_bind, extensionVersions_trap host hlist hs]
  rfl

end MoltenCL
