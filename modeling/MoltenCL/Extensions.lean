import MoltenCL.Queries

/-! # The extensions of a device

The two extension properties read two statics, of which one is made from the other. In
every reachable world what the statics keep is the one list of the system default device
(`Runtime.ExtensionsValid`). So the properties return and agree, in whatever order they
are read, exactly on a machine that has a system default device
(`extensions_agree_iff`). `CLPlatform.default` and `CLDevice.default` also come up where
there is none.
-/

namespace MoltenCL

open Foundation Swift

variable {Dev : Type} (host : Host Dev)

/-- The list of a machine: the extensions of its system default device. -/
def extensionList : Option (List CLNameVersion) :=
  host.createSystemDefaultDevice.map (extensionsOf host)

/-! ## The invariant -/

/-- The kept lists are those of the machine. -/
structure Runtime.ExtensionsValid (rt : Runtime Dev) : Prop where
  versions : ∀ l, rt.extensionsWithVersion = some l → extensionList host = some l
  names : ∀ l, rt.extensions = some l →
    ∃ versions, extensionList host = some versions ∧ l = versions.map CLNameVersion.name

theorem Runtime.ExtensionsValid.empty : Runtime.ExtensionsValid host ({} : Runtime Dev) where
  versions l h := by cases h
  names l h := by cases h

section Initialisers

variable {host} {rt : Runtime Dev}

/-- The versions are the machine's list, whether or not they are kept already. -/
theorem CLPlatform._extensionsWithVersion_returns_iff (hv : rt.ExtensionsValid host)
    {l : List CLNameVersion} :
    (∃ rt', (CLPlatform._extensionsWithVersion host).run rt = .ok (l, rt')) ↔
      extensionList host = some l := by
  simp only [CLPlatform._extensionsWithVersion_eq_ok]
  constructor
  · intro h
    rcases h with ⟨rt', ⟨hkept, -⟩ | ⟨-, device, hsys, rfl, -⟩⟩
    · exact hv.versions l hkept
    · unfold extensionList
      rw [hsys]
      rfl
  · intro h
    rcases Option.map_eq_some_iff.mp h with ⟨device, hsys, hl⟩
    cases hkept : rt.extensionsWithVersion with
    | none => exact ⟨_, Or.inr ⟨rfl, device, hsys, hl.symm, rfl⟩⟩
    | some kept =>
        obtain rfl : kept = l := Option.some.inj ((hv.versions kept hkept).symm.trans h)
        exact ⟨rt, Or.inl ⟨rfl, rfl⟩⟩

theorem CLPlatform._extensions_returns_iff (hv : rt.ExtensionsValid host)
    {names : List SwiftString} :
    (∃ rt', (CLPlatform._extensions host).run rt = .ok (names, rt')) ↔
      ∃ versions, extensionList host = some versions ∧
        names = versions.map CLNameVersion.name := by
  simp only [CLPlatform._extensions_eq_ok]
  constructor
  · intro h
    rcases h with ⟨rt', ⟨hkept, -⟩ | ⟨-, versions, u, hrun, rfl, -⟩⟩
    · exact hv.names names hkept
    · exact ⟨versions, (CLPlatform._extensionsWithVersion_returns_iff hv).mp ⟨u, hrun⟩, rfl⟩
  · intro h
    rcases h with ⟨versions, hversions, rfl⟩
    cases hkept : rt.extensions with
    | none =>
        rcases (CLPlatform._extensionsWithVersion_returns_iff hv).mpr hversions with ⟨u, hrun⟩
        exact ⟨_, Or.inr ⟨rfl, versions, u, hrun, rfl, rfl⟩⟩
    | some kept =>
        rcases hv.names kept hkept with ⟨versions', hversions', rfl⟩
        obtain rfl : versions' = versions := Option.some.inj (hversions'.symm.trans hversions)
        exact ⟨rt, Or.inl ⟨rfl, rfl⟩⟩

end Initialisers

/-- A computation that leaves both lists as they were keeps the invariant. -/
theorem respects_extensions_frame {α : Type} {x : Swift (Runtime Dev) α}
    (hx : ∀ rt a rt', x.run rt = .ok (a, rt') →
      rt'.extensionsWithVersion = rt.extensionsWithVersion ∧ rt'.extensions = rt.extensions) :
    Respects (Runtime.ExtensionsValid host) (fun _ _ => True) x := by
  intro rt a rt' hv hrun
  rcases hx rt a rt' hrun with ⟨hversions, hnames⟩
  refine ⟨⟨?_, ?_⟩, trivial⟩
  · rw [hversions]
    exact hv.versions
  · rw [hnames]
    exact hv.names

/-- The platform comes up without the lists. -/
theorem CLPlatform.default_extensions {rt rt' : Runtime Dev} {p : CLPlatform}
    (h : (CLPlatform.default host).run rt = .ok (p, rt')) :
    rt'.extensionsWithVersion = rt.extensionsWithVersion ∧ rt'.extensions = rt.extensions := by
  rcases (CLPlatform.default_eq_ok host).mp h with ⟨-, rfl⟩ | ⟨-, rfl, -⟩
  · exact ⟨rfl, rfl⟩
  · exact ⟨rfl, rfl⟩

/-- The first use keeps the list of the machine. -/
theorem CLPlatform._extensionsWithVersion_respects_list :
    Respects (Runtime.ExtensionsValid host) (fun _ _ => True)
      (CLPlatform._extensionsWithVersion host) := by
  intro rt l rt' hv h
  have hlist := (CLPlatform._extensionsWithVersion_returns_iff hv).mp ⟨rt', h⟩
  rcases (CLPlatform._extensionsWithVersion_eq_ok host).mp h with ⟨-, rfl⟩ | ⟨-, _, -, -, rfl⟩
  · exact ⟨hv, trivial⟩
  · refine ⟨⟨?_, hv.names⟩, trivial⟩
    intro kept hkept
    cases hkept
    exact hlist

/-- Only the two initialisers of the lists touch them, and both keep the machine's list. -/
theorem usesRespect_extensions :
    UsesRespect host (Runtime.ExtensionsValid host) (fun _ _ => True) where
  refl _ := trivial
  trans _ _ _ _ _ := trivial
  platformDefault := respects_extensions_frame host fun _ _ _ => CLPlatform.default_extensions host
  deviceDefault := by
    apply respects_extensions_frame
    intro rt r rt' h
    rcases (CLDevice.default_eq_ok host).mp h with ⟨-, rfl⟩ | ⟨-, p, up, d, hup, -, -, rfl⟩
    · exact ⟨rfl, rfl⟩
    · rcases CLPlatform.default_extensions host hup with ⟨hversions, hnames⟩
      exact ⟨hversions, hnames⟩
  platformDevices := by
    apply respects_extensions_frame
    intro rt refs rt' h
    rcases (CLPlatform._devices_eq_ok host).mp h with ⟨-, rfl⟩ | ⟨-, -, rfl⟩
    · exact ⟨rfl, rfl⟩
    · exact ⟨rfl, rfl⟩
  extensionsWithVersion := CLPlatform._extensionsWithVersion_respects_list host
  extensions := by
    intro rt l rt' hv h
    have hlist := (CLPlatform._extensions_returns_iff hv).mp ⟨rt', h⟩
    rcases (CLPlatform._extensions_eq_ok host).mp h with ⟨-, rfl⟩ | ⟨-, versions, u, hrun, -, rfl⟩
    · exact ⟨hv, trivial⟩
    · rcases CLPlatform._extensionsWithVersion_respects_list host rt versions u hv hrun with ⟨hu, -⟩
      refine ⟨⟨hu.versions, ?_⟩, trivial⟩
      intro kept hkept
      cases hkept
      exact hlist
  newDevice d := by
    apply respects_extensions_frame
    intro rt r rt' h
    rw [CLDevice.run_init] at h
    obtain ⟨-, rfl⟩ : rt.heap.length = r ∧ rt.alloc host [d] = rt' := by simpa using h
    exact ⟨rfl, rfl⟩

theorem Reachable.extensionsValid [DecidableEq Dev] {w : World Dev} (hw : Reachable host w) :
    w.runtime.ExtensionsValid host :=
  (usesRespect_extensions host).reachable (.empty host) hw

/-! ## Reading the properties -/

/-- Both objects come up in a fresh process. -/
structure Constructed : Prop where
  platform : ∃ p rt', (CLPlatform.default host).run {} = .ok (p, rt')
  device : ∃ r rt', (CLDevice.default host).run {} = .ok (r, rt')

/-- A platform that was constructed has looked at a first listed device. -/
theorem Constructed.comesUp {host : Host Dev} (h : Constructed host) : ComesUp host := by
  rcases h.platform with ⟨p, rt', hrun⟩
  rcases (CLPlatform.default_eq_ok host).mp hrun with ⟨hkept, -⟩ | ⟨-, -, hup⟩
  · cases hkept
  · exact hup

variable [DecidableEq Dev]

/-- What a client relies on: for the rest of the session both properties of any device
return, each the same list every time, and the names are those of the versions. -/
def ExtensionsAgree (w : World Dev) : Prop :=
  ∃ versions : List CLNameVersion, ∀ w', Later host w w' → ∀ device : CLDevice Dev,
    (∃ rt', (device.extensionsWithVersion host).run w'.runtime = .ok (versions, rt')) ∧
      ∃ rt', (device.extensions host).run w'.runtime =
        .ok (versions.map CLNameVersion.name, rt')

/-- **The extension properties return and agree exactly on a machine with a system
default device**, on every platform that came up and whatever has been used before. -/
theorem extensions_agree_iff (hup : Constructed host) {w : World Dev} (hw : Reachable host w) :
    ExtensionsAgree host w ↔ host.createSystemDefaultDevice ≠ none := by
  constructor
  · intro h hsys
    rcases h with ⟨versions, hlater⟩
    rcases hup.comesUp with ⟨first, -, -⟩
    rcases hlater w (Later.refl hw) (newDevice host first) with ⟨hreturns, -⟩
    have hlist := (CLPlatform._extensionsWithVersion_returns_iff hw.extensionsValid).mp hreturns
    unfold extensionList at hlist
    rw [hsys] at hlist
    cases hlist
  · intro hsys
    rcases Option.ne_none_iff_exists'.mp hsys with ⟨d, hd⟩
    have hlist : extensionList host = some (extensionsOf host d) := by
      unfold extensionList
      rw [hd]
      rfl
    refine ⟨extensionsOf host d, ?_⟩
    intro w' hw' device
    have hv := hw'.1.extensionsValid
    exact ⟨(CLPlatform._extensionsWithVersion_returns_iff hv).mpr hlist,
      (CLPlatform._extensions_returns_iff hv).mpr ⟨_, hlist, rfl⟩⟩

/-- On a machine whose only GPU is the system default, in a fresh process. -/
theorem extensions_agree_systemDefault :
    ExtensionsAgree { Host.oneGPU with createSystemDefaultDevice := some 0 }
      (World.cleared {}) :=
  (extensions_agree_iff { Host.oneGPU with createSystemDefaultDevice := some 0 }
    ⟨⟨_, _, rfl⟩, ⟨_, _, rfl⟩⟩ (.fresh (World.cleared {}) rfl)).mpr (Option.some_ne_none 0)

/-- Without a system default device the platform and the default device come up, and the
extensions of that device trap. -/
theorem extensions_trap :
    Constructed Host.oneGPU ∧
    ∃ rt : Runtime ℕ, (CLDevice.default Host.oneGPU).run {} = .ok (0, rt) ∧
      Reachable Host.oneGPU (World.cleared rt) ∧
      ((newDevice Host.oneGPU 0).extensions Host.oneGPU).run rt = .error .unexpectedlyNil ∧
      ((newDevice Host.oneGPU 0).extensionsWithVersion Host.oneGPU).run rt =
        .error .unexpectedlyNil ∧
      ¬ ExtensionsAgree Host.oneGPU (World.cleared rt) := by
  have hup : Constructed Host.oneGPU := ⟨⟨_, _, rfl⟩, ⟨_, _, rfl⟩⟩
  have hw : Reachable Host.oneGPU (World.cleared
      { heap := [newDevice Host.oneGPU 0], platformDefault := some {}, deviceDefault := some 0 }) :=
    .step .deviceDefault [] (.fresh (World.cleared {}) rfl) rfl
  refine ⟨hup, _, rfl, hw, rfl, rfl, ?_⟩
  intro h
  rcases h with ⟨versions, hlater⟩
  rcases hlater _ (Later.refl hw) (newDevice Host.oneGPU 0) with ⟨⟨rt', hrun⟩, -⟩
  cases hrun

end MoltenCL
