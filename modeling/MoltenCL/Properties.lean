import MoltenCL.Selection

/-! # Reading properties

The query functions evaluate one property of a table and serialise its value.
Whatever the property, three facts make the two-call protocol work through them
(`Readable`): reading it keeps the invariant of the runtime, every later reading
gives the same value, and the value passes its writer's precondition. They are
proved entry by entry of the two tables.
-/

namespace MoltenCL

open Foundation Swift

variable {Dev : Type} (host : Host Dev)

/-- What the query functions rely on about a property. -/
structure Readable (property : Swift (Runtime Dev) InfoValue) : Prop where
  respects : Respects (Runtime.Valid host) Runtime.Grows property
  stable : ∀ rt v rt' later, rt.Valid host → later.Valid host → rt.Grows later →
    property.run rt = .ok (v, rt') → ∃ rt'', property.run later = .ok (v, rt'')
  namesFit : ∀ rt v rt', property.run rt = .ok (v, rt') → v.NamesFit

/-! ## Kinds of properties -/

/-- A constant value. -/
theorem readable_pure {v : InfoValue} (hv : v.NamesFit) : Readable host (pure v) where
  respects := respects_pure Runtime.Grows.refl v
  stable rt v' rt' later _ _ _ h := by
    obtain ⟨rfl, -⟩ : v = v' ∧ rt = rt' := by simpa [pure_eq_ok] using h
    exact ⟨later, rfl⟩
  namesFit rt v' rt' h := by
    obtain ⟨rfl, -⟩ : v = v' ∧ rt = rt' := by simpa [pure_eq_ok] using h
    exact hv

/-- A trap. -/
theorem readable_trap {α : Type} (e : Trap) (f : α → InfoValue) :
    Readable host (f <$> throw e) where
  respects := (respects_throw e).map f
  stable rt v rt' later _ _ _ h := by
    rcases run_map_eq_ok_iff.mp h with ⟨a, ha, -⟩
    simp at ha
  namesFit rt v rt' h := by
    rcases run_map_eq_ok_iff.mp h with ⟨a, ha, -⟩
    simp at ha

/-- A computation that uses no static is a constant or a trap. -/
def Constant {α : Type} (x : Swift (Runtime Dev) α) : Prop :=
  (∃ a, x = pure a) ∨ ∃ e, x = throw e

/-- A value computed without the statics. -/
theorem readable_map {α : Type} {x : Swift (Runtime Dev) α} {f : α → InfoValue}
    (hx : Constant x) (hf : ∀ a, (f a).NamesFit) : Readable host (f <$> x) := by
  rcases hx with ⟨a, rfl⟩ | ⟨e, rfl⟩
  · rw [map_pure]
    exact readable_pure host (hf a)
  · exact readable_trap host e f

theorem constant_toUInt32 (x : ℤ) : Constant (toUInt32 x : Swift (Runtime Dev) UInt32) := by
  unfold toUInt32
  split_ifs
  · exact Or.inl ⟨_, rfl⟩
  · exact Or.inr ⟨_, rfl⟩

theorem constant_toUInt64 (x : ℤ) : Constant (toUInt64 x : Swift (Runtime Dev) UInt64) := by
  unfold toUInt64
  split_ifs
  · exact Or.inl ⟨_, rfl⟩
  · exact Or.inr ⟨_, rfl⟩

theorem constant_hostTimerResolution : Constant (CLPlatform.hostTimerResolution host) := by
  unfold CLPlatform.hostTimerResolution
  split
  split_ifs
  · exact Or.inr ⟨_, rfl⟩
  · exact Or.inl ⟨_, rfl⟩

/-! ## When a property returns -/

/-- The property returns from `rt`. -/
def Completes (property : Swift (Runtime Dev) InfoValue) (rt : Runtime Dev) : Prop :=
  ∃ v rt', property.run rt = .ok (v, rt')

/-- A constant completes. -/
theorem completes_pure (v : InfoValue) (rt : Runtime Dev) : Completes (pure v) rt := ⟨v, rt, rfl⟩

/-- A property completes exactly when what it serialises does. -/
theorem completes_map {α : Type} {x : Swift (Runtime Dev) α} {f : α → InfoValue}
    {rt : Runtime Dev} : Completes (f <$> x) rt ↔ ∃ a rt', x.run rt = .ok (a, rt') :=
  run_map_returns_iff

/-- A conversion to 32 bits completes exactly for a number that fits. -/
theorem completes_toUInt32 (x : ℤ) (rt : Runtime Dev) :
    Completes (.uint32 <$> toUInt32 x) rt ↔ 0 ≤ x ∧ x < 2 ^ 32 := by
  rw [completes_map, toUInt32]
  split_ifs with h
  · exact iff_of_true ⟨_, rt, rfl⟩ h
  · exact iff_of_false (by simp) h

/-- A value of Swift's `Int` is below 2^64, so only its sign decides. -/
theorem completes_toUInt64 (x : Int64) (rt : Runtime Dev) :
    Completes (.uint64 <$> toUInt64 x.toInt) rt ↔ 0 ≤ x.toInt := by
  have hlt : x.toInt < 2 ^ 64 := lt_trans x.toInt_lt (by decide)
  rw [completes_map, toUInt64]
  split_ifs with h
  · exact iff_of_true ⟨_, rt, rfl⟩ h.1
  · exact iff_of_false (by simp) fun h0 => h ⟨h0, hlt⟩

section Device

variable [DecidableEq Dev]

/-- The type of a device can be told exactly where the platform comes up. -/
theorem completes_type {rt : Runtime Dev} (hv : rt.Valid host) (device : CLDevice Dev) :
    Completes ((fun type => .uint64 ⟨type.rawValue⟩) <$> device.type host) rt ↔
      ComesUp host := by
  rw [completes_map]
  constructor
  · intro h
    rcases h with ⟨type, rt', h⟩
    rcases (CLDevice.type_eq_ok host hv).mp h with ⟨-, r, hrun⟩
    exact hv.comesUp_of_default hrun
  · intro hup
    rcases hv.type_returns host hup device with ⟨rt', h⟩
    exact ⟨_, rt', h⟩

/-- The type uses `CLDevice.default`, which a second reading finds kept. -/
theorem readable_type (device : CLDevice Dev) :
    Readable host ((fun type => .uint64 ⟨type.rawValue⟩) <$> device.type host) where
  respects := by
    intro rt v rt' hv h
    rcases run_map_eq_ok_iff.mp h with ⟨type, htype, -⟩
    rcases (CLDevice.type_eq_ok host hv).mp htype with ⟨-, r, hrun⟩
    exact CLDevice.default_respects host rt r rt' hv hrun
  stable rt v rt' later hv hlater _ h := by
    rcases run_map_eq_ok_iff.mp h with ⟨type, htype, rfl⟩
    rcases (CLDevice.type_eq_ok host hv).mp htype with ⟨rfl, r, hrun⟩
    rcases hlater.type_returns host (hv.comesUp_of_default hrun) device with ⟨rt'', htype'⟩
    exact ⟨rt'', run_map_eq_ok_iff.mpr ⟨_, htype', rfl⟩⟩
  namesFit rt v rt' h := by
    rcases run_map_eq_ok_iff.mp h with ⟨type, -, rfl⟩
    trivial

/-- The names of the intermediate languages fit their records. -/
theorem ilsWithVersion_namesFit :
    (InfoValue.arrayOfCLNameVersion CLDevice.ilsWithVersion).NamesFit := by
  intro element h
  rcases List.mem_pair.mp h with rfl | rfl
  · decide
  · decide

/-! ## The tables -/

/-- Every case of `clGetDeviceInfo` reads a readable property. -/
theorem deviceInfoCases_readable (device : CLDevice Dev) :
    ∀ c ∈ deviceInfoCases host device, Readable host c.2 := by
  have hstub : ∀ function, Readable host (.uint32 <$> notImplementedError function) :=
    fun function => readable_trap host _ _
  have hword : ∀ x, Readable host (.uint32 <$> toUInt32 x) :=
    fun x => readable_map host (constant_toUInt32 x) fun _ => trivial
  have hsize : ∀ x, Readable host (.uint64 <$> toUInt64 x) :=
    fun x => readable_map host (constant_toUInt64 x) fun _ => trivial
  simp only [deviceInfoCases, List.forall_mem_cons]
  and_intros
  -- all but eight of the properties are constants of the device
  all_goals first
    | exact readable_pure host trivial
    | exact readable_type host device
    | exact hstub _
    | exact hword _
    | exact hsize _
    | exact readable_pure host ilsWithVersion_namesFit
    | exact fun _ h => absurd h List.not_mem_nil

end Device

/-- Every case of `clGetPlatformInfo` reads a readable property. -/
theorem platformInfoCases_readable : ∀ c ∈ platformInfoCases host, Readable host c.2 := by
  have htimer : Readable host (.uint64 <$> CLPlatform.hostTimerResolution host) :=
    readable_map host (constant_hostTimerResolution host) fun _ => trivial
  have hnone : (InfoValue.arrayOfCLNameVersion CLPlatform.extensionsWithVersion).NamesFit :=
    fun _ h => absurd h List.not_mem_nil
  simp only [platformInfoCases, List.forall_mem_cons]
  and_intros
  all_goals first
    | exact readable_pure host trivial
    | exact readable_pure host hnone
    | exact htimer
    | exact fun _ h => absurd h List.not_mem_nil

end MoltenCL
