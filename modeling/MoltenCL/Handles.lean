import Mathlib.Data.List.ReduceOption
import MoltenCL.Session

/-! # Handles and devices

A device handle is the identity of a `CLDevice` object, and the two initialisers
allocate their objects independently. Over a whole run of a process the handles
given out are therefore those of the listed objects and that of the default
object (`GivenOut`), which is never a listed one. Handles stand for devices one
to one exactly in the runs that do not fetch the chosen device both ways.
-/

namespace MoltenCL

open Foundation Swift

variable {Dev : Type} (host : Host Dev)

/-! ## What an event asks for -/

/-- The event fetches the default object. -/
def Event.FetchesDefault : Event Dev → Prop
  | .getDeviceIDs (some _) deviceType numEntries (some _) _ =>
      (CLDeviceType.ofRawValue deviceType).SelectsDefault ∧ numEntries.toNat ≠ 0
  | _ => False

/-- The event fetches listed objects, and the one around `d` is among them. -/
def Event.FetchesFromList (d : Dev) : Event Dev → Prop
  | .getDeviceIDs (some _) deviceType numEntries (some _) _ =>
      (CLDeviceType.ofRawValue deviceType).SelectsListed ∧
        d ∈ host.copyAllDevices.take numEntries.toNat
  | _ => False

/-- The event asks for listed objects. -/
def Event.AsksForList : Event Dev → Prop
  | .getDeviceIDs _ deviceType _ _ _ => (CLDeviceType.ofRawValue deviceType).SelectsListed
  | _ => False

/-- The events fetch the chosen device through both statics. -/
def FetchedBothWays (events : List (Event Dev)) : Prop :=
  (∃ e ∈ events, e.FetchesDefault) ∧
    ∃ d, chosenDevice host = some d ∧ ∃ e ∈ events, e.FetchesFromList host d

/-! ## What an event gives out -/

/-- The handles an event has given out, in terms of the statics. -/
def GivenOut (e : Event Dev) (out : List DeviceRef) (w : World Dev) : Prop :=
  match e with
  | .getDeviceIDs (some _) deviceType numEntries (some _) _ =>
      ((CLDeviceType.ofRawValue deviceType).SelectsListed ∧
        ∃ refs, w.runtime.platformDevices = some refs ∧ out = refs.take numEntries.toNat) ∨
      ((CLDeviceType.ofRawValue deviceType).SelectsDefault ∧
        ∃ r, w.runtime.deviceDefault = some r ∧ out = [r].take numEntries.toNat) ∨
      (¬ (CLDeviceType.ofRawValue deviceType).SelectsListed ∧
        ¬ (CLDeviceType.ofRawValue deviceType).SelectsDefault ∧ out = [])
  | _ => out = []

/-- Later events do not change what an event has given out. -/
theorem GivenOut.grows {e : Event Dev} {out : List DeviceRef} {w w' : World Dev}
    (hgrows : w.Grows w') (h : GivenOut e out w) : GivenOut e out w' := by
  unfold GivenOut at h ⊢
  split at h
  · rcases h with ⟨hlisted, refs, hrefs, hout⟩ | ⟨hdefault, r, hr, hout⟩ | hneither
    · exact Or.inl ⟨hlisted, refs, hgrows.platformDevices refs hrefs, hout⟩
    · exact Or.inr (Or.inl ⟨hdefault, r, hgrows.deviceDefault r hr, hout⟩)
    · exact Or.inr (Or.inr hneither)
  · exact h

/-- An event that fetches the default object gives out its handle. -/
theorem GivenOut.of_fetchesDefault {e : Event Dev} {out : List DeviceRef} {w : World Dev}
    (h : GivenOut e out w) (he : e.FetchesDefault) :
    ∃ r, w.runtime.deviceDefault = some r ∧ out = [r] := by
  unfold Event.FetchesDefault at he
  split at he
  · rcases h with ⟨hl, -⟩ | ⟨-, r, hr, rfl⟩ | ⟨-, hd, -⟩
    · exact absurd he.1 hl.not_selectsDefault
    · exact ⟨r, hr, List.take_of_length_le (by simp; omega)⟩
    · exact absurd he.1 hd
  · exact he.elim

/-- An event that asks for the list gives out listed handles. -/
theorem GivenOut.of_asksForList {e : Event Dev} {out : List DeviceRef} {w : World Dev}
    (h : GivenOut e out w) (he : e.AsksForList) {r : DeviceRef} (hr : r ∈ out) :
    ∃ refs, w.runtime.platformDevices = some refs ∧ r ∈ refs := by
  unfold GivenOut at h
  split at h
  · rcases h with ⟨-, refs, hrefs, rfl⟩ | ⟨hd, -⟩ | ⟨hl, -⟩
    · exact ⟨refs, hrefs, List.mem_of_mem_take hr⟩
    · exact absurd hd (CLDeviceType.SelectsListed.not_selectsDefault he)
    · exact absurd he hl
  · rw [h] at hr
    simp at hr

/-- Slots that were cleared and then filled from the front. -/
theorem load_cleared {H : Type} (m : Memory (Option H)) (a : ℕ) {n : ℕ} {l : List H}
    (h : l.length ≤ n) :
    ((m.storeList a (List.replicate n none)).storeList a (l.map some)).load a n =
      l.map some ++ List.replicate (n - l.length) none := by
  rcases Nat.exists_eq_add_of_le h with ⟨k, rfl⟩
  have hfront := Memory.load_storeList (m.storeList a (List.replicate (l.length + k) none)) a
    (l.map some)
  -- what is left behind the handles is the end of the cleared range
  have hback : (m.storeList a (List.replicate (l.length + k) none)).load (a + l.length) k =
      List.replicate k none := by
    have hload := Memory.load_storeList (m.storeList a (List.replicate l.length none))
      (a + l.length) (List.replicate k (none : Option H))
    rw [List.replicate_add, Memory.storeList_append]
    simpa using hload
  rw [List.length_map] at hfront
  rw [Memory.load_add, hfront, Memory.load_storeList_frame _ _ _ (by simp), hback]
  simp

theorem reduceOption_cleared {H : Type} (l : List H) (k : ℕ) :
    (l.map some ++ List.replicate k none).reduceOption = l := by
  have hsome : (l.map some).reduceOption = l := by
    induction l with
    | nil => rfl
    | cons x l ih => rw [List.map_cons, List.reduceOption_cons_of_some, ih]
  rw [List.reduceOption_append, hsome, List.reduceOption_replicate_none, List.append_nil]

/-- A refused mask selects nothing. -/
theorem CLDeviceType.Rejected.not_answered {type : CLDeviceType} (h : type.Rejected) :
    ¬ type.Answered := by
  rintro (hall | hdisjoint)
  · exact h.1 hall
  · have hcustom : 4 ∈ type.bits := (OptionSet.contains_flag (by decide)).mp h.2.1
    exact OptionSet.intersection_eq_empty_iff.mp hdisjoint 4 (mem_bits_absent.mpr (by simp)) hcustom

/-! ## Steps and runs -/

section Runs

variable {host}

/-- What the slots hold after a call that stored `l` into cleared slots. -/
theorem collectSlots_fetch (w : World Dev) (rt' : Runtime Dev) (a : ℕ) (count : Option ℕ) (k : ℕ)
    {numEntries : UInt32} {l : List DeviceRef} (h : l.length ≤ numEntries.toNat) :
    let cleared := w.clearSlots (some a) numEntries
    let stored := (cleared.deviceArrays.fetch (some a) l).tally count k
    ({ cleared with runtime := rt' }.setDeviceArrays stored).collectSlots (some a) numEntries =
      l := by
  have hcollected := reduceOption_cleared l (numEntries.toNat - l.length)
  rw [← load_cleared w.deviceIDs a h] at hcollected
  cases count <;> exact hcollected

/-- Cleared slots hold no handle. -/
theorem collectSlots_cleared (w : World Dev) (rt' : Runtime Dev) (devices : Option ℕ)
    (numEntries : UInt32) :
    ({ w.clearSlots devices numEntries with runtime := rt' }).collectSlots devices numEntries =
      [] := by
  cases devices with
  | none => rfl
  | some a => exact collectSlots_fetch w rt' a none 0 (l := []) (Nat.zero_le _)

/-- A fetch gives out the handles of the statics it asked for. -/
theorem givenOut_fetch {p : CLPlatform} {deviceType : UInt64} {numEntries : UInt32} {a : ℕ}
    {numDevices : Option ℕ} {w w' : World Dev} {status : Int32}
    (h : (clGetDeviceIDs host (some p) deviceType numEntries (some a) numDevices).run
      (w.clearSlots (some a) numEntries) = .ok (status, w')) :
    GivenOut (.getDeviceIDs (some p) deviceType numEntries (some a) numDevices)
      (w'.collectSlots (some a) numEntries) w' := by
  rcases (clGetDeviceIDs_eq_ok host).mp h with
    ⟨hnone, -, -⟩ | ⟨-, hrejected, -, rfl⟩ | ⟨-, -, refs, rt', hrun, hrest⟩
  · cases hnone
  · exact Or.inr (Or.inr ⟨fun hl => hrejected.not_answered hl.1,
      fun hd => hrejected.not_answered hd.1, collectSlots_cleared w w.runtime (some a) numEntries⟩)
  · -- whatever was selected, its first objects are in the slots
    have hout : w'.collectSlots (some a) numEntries = refs.take numEntries.toNat ∧
        w'.runtime = rt' := by
      rcases hrest with ⟨rfl, -, rfl⟩ | ⟨-, -, m, henum, rfl⟩
      · rw [List.take_nil]
        exact ⟨collectSlots_cleared w rt' (some a) numEntries, rfl⟩
      · refine ⟨?_, rfl⟩
        by_cases hinvalid : InvalidEnumeration numEntries.toNat (some a) numDevices
        · have hzero : numEntries.toNat = 0 := by simpa [InvalidEnumeration] using hinvalid
          rw [enumerate, if_pos hinvalid] at henum
          rcases Prod.mk.inj henum with ⟨-, rfl⟩
          rw [hzero, List.take_zero]
          exact collectSlots_cleared w rt' (some a) numEntries
        · rw [enumerate, if_neg hinvalid] at henum
          rcases Prod.mk.inj henum with ⟨-, rfl⟩
          exact collectSlots_fetch _ _ _ _ _ (List.length_take_le _ _)
    rw [GivenOut, hout.1, hout.2]
    rcases (CLPlatform.devices_eq_ok host).mp hrun with
      ⟨hlisted, hstatic⟩ | ⟨hdefault, r, hstatic, rfl⟩ | ⟨hlisted, hdefault, rfl, -⟩
    · exact Or.inl ⟨hlisted, refs, CLPlatform._devices_kept host hstatic, rfl⟩
    · exact Or.inr (Or.inl ⟨hdefault, r, CLDevice.default_kept host hstatic, rfl⟩)
    · exact Or.inr (Or.inr ⟨hlisted, hdefault, List.take_nil⟩)

variable [DecidableEq Dev]

/-- A step gives out the handles of the statics it asked for. -/
theorem step_givenOut {e : Event Dev} {w w' : World Dev} {out : List DeviceRef}
    (h : (step host e).run w = .ok (out, w')) : GivenOut e out w' := by
  have hsilent : ∀ {α : Type} {x : Swift (World Dev) α},
      (silently x).run w = .ok (out, w') → out = [] := by
    intro α x hx
    rcases run_bind_eq_ok.mp hx with ⟨a, t, -, hpure⟩
    exact (by simpa [pure_eq_ok] using hpure : [] = out ∧ t = w').1.symm
  -- only `clGetDeviceIDs` gives out handles
  cases e with
  | getPlatformIDs numEntries platforms numPlatforms => exact hsilent h
  | getPlatformInfo platform paramName capacity value size => exact hsilent h
  | getDeviceInfo device paramName capacity value size => exact hsilent h
  | platformDefault => exact hsilent h
  | deviceDefault => exact hsilent h
  | devices type => exact hsilent h
  | newDevice mtlDevice => exact hsilent h
  | extensionsWithVersion => exact hsilent h
  | extensions => exact hsilent h
  | getDeviceIDs platform deviceType numEntries devices numDevices =>
      obtain ⟨status, hcall, rfl⟩ : ∃ status,
          (clGetDeviceIDs host platform deviceType numEntries devices numDevices).run
            (w.clearSlots devices numEntries) = .ok (status, w') ∧
          out = w'.collectSlots devices numEntries := by
        rcases run_bind_eq_ok.mp h with ⟨_, t, hclear, hrest⟩
        rcases Prod.mk.inj (Except.ok.inj hclear) with ⟨-, rfl⟩
        rcases run_bind_eq_ok.mp hrest with ⟨status, u, hcall, hcollect⟩
        rcases Prod.mk.inj (Except.ok.inj hcollect) with ⟨hout, rfl⟩
        exact ⟨status, hcall, hout.symm⟩
      cases platform with
      | none =>
          rw [run_clGetDeviceIDs_none] at hcall
          rcases Prod.mk.inj (Except.ok.inj hcall) with ⟨-, rfl⟩
          exact collectSlots_cleared w w.runtime devices numEntries
      | some p =>
      cases devices with
      | none => exact rfl
      | some a => exact givenOut_fetch hcall

/-- At the end of a run, every event has given out the handles of the statics it
asked for. -/
theorem runs_givenOut {events : List (Event Dev)} {outs : List (List DeviceRef)}
    {w w' : World Dev} (hv : w.Valid host)
    (hrun : (runs (step host) events).run w = .ok (outs, w')) :
    List.Forall₂ (fun e out => GivenOut e out w') events outs ∧ w'.Valid host := by
  constructor
  · refine runs_outputs World.Grows.refl World.Grows.trans ?_ ?_ events w outs w' hv hrun
    · intro e s o s' hs h
      rcases step_respects host e s o s' hs h with ⟨hs', hgrows⟩
      exact ⟨hs', hgrows, step_givenOut h⟩
    · intro e o s s' _ hgrows h
      exact h.grows hgrows
  · refine runs_invariant ?_ events w outs w' hv hrun
    intro e s o s' hs h
    exact (step_respects host e s o s' hs h).1

end Runs

/-! ## One handle per device -/

/-- Two handles given out are equal exactly when they wrap the same device. -/
def OneHandlePerDevice (outs : List (List DeviceRef)) (w : World Dev) : Prop :=
  ∀ r ∈ outs.flatten, ∀ r' ∈ outs.flatten,
    r = r' ↔ w.runtime.wrapped r = w.runtime.wrapped r'

section OneHandle

variable {host}

/-- The first `n` listed objects wrap the first `n` devices. -/
theorem Runtime.Valid.wrapped_take {rt : Runtime Dev} (hv : rt.Valid host)
    {refs : List DeviceRef} (hrefs : rt.platformDevices = some refs) (n : ℕ) :
    (refs.take n).map rt.wrapped = (host.copyAllDevices.take n).map some := by
  rw [List.map_take, List.map_take, hv.wrapped_listed hrefs]

/-- Listed objects of different devices are different, and the other way around. -/
theorem Runtime.Valid.wrapped_injective {rt : Runtime Dev} (hv : rt.Valid host)
    (hnodup : host.copyAllDevices.Nodup) {refs : List DeviceRef}
    (hrefs : rt.platformDevices = some refs) {r r' : DeviceRef} (hr : r ∈ refs) (hr' : r' ∈ refs)
    (h : rt.wrapped r = rt.wrapped r') : r = r' := by
  have hdistinct : (refs.map rt.wrapped).Nodup := by
    rw [hv.wrapped_listed hrefs]
    exact hnodup.map (Option.some_injective Dev)
  exact List.inj_on_of_nodup_map hdistinct hr hr' h

/-- Where a handle comes from: the list, or the default. -/
theorem handle_origin {events : List (Event Dev)} {outs : List (List DeviceRef)} {w : World Dev}
    (hgiven : List.Forall₂ (fun e out => GivenOut e out w) events outs) {r : DeviceRef}
    (hr : r ∈ outs.flatten) :
    (∃ p deviceType numEntries a numDevices, Event.getDeviceIDs (some p) deviceType numEntries
        (some a) numDevices ∈ events ∧ (CLDeviceType.ofRawValue deviceType).SelectsListed ∧
      ∃ refs, w.runtime.platformDevices = some refs ∧ r ∈ refs.take numEntries.toNat) ∨
    (∃ e ∈ events, e.FetchesDefault) ∧ w.runtime.deviceDefault = some r := by
  -- on the run: the handle is from the first event or from a later one
  induction hgiven with
  | nil => simp at hr
  | @cons e out es os hhead _ ih =>
      rw [List.flatten_cons, List.mem_append] at hr
      rcases hr with hr | hr
      · unfold GivenOut at hhead
        split at hhead
        · rename_i p deviceType numEntries a numDevices
          rcases hhead with ⟨hlisted, refs, hrefs, rfl⟩ | ⟨hdefault, r', hr', rfl⟩ | ⟨-, -, rfl⟩
          · exact Or.inl ⟨p, deviceType, numEntries, a, numDevices, List.mem_cons_self, hlisted,
              refs, hrefs, hr⟩
          · have hn : numEntries.toNat ≠ 0 := by
              intro hzero
              rw [hzero] at hr
              simp at hr
            obtain rfl : r = r' := by simpa using List.mem_of_mem_take hr
            exact Or.inr ⟨⟨_, List.mem_cons_self, hdefault, hn⟩, hr'⟩
          · simp at hr
        · rw [hhead] at hr
          simp at hr
      · rcases ih hr with ⟨p, t, n, a, c, hmem, hrest⟩ | ⟨⟨e', hmem, hfetch⟩, hkept⟩
        · exact Or.inl ⟨p, t, n, a, c, List.mem_cons_of_mem e hmem, hrest⟩
        · exact Or.inr ⟨⟨e', List.mem_cons_of_mem e hmem, hfetch⟩, hkept⟩

/-- A run that fetched the chosen device both ways has given out two handles for it. -/
theorem two_handles {events : List (Event Dev)} {outs : List (List DeviceRef)} {w : World Dev}
    (hv : w.Valid host) (hgiven : List.Forall₂ (fun e out => GivenOut e out w) events outs)
    (hboth : FetchedBothWays host events) : ¬ OneHandlePerDevice outs w := by
  rcases hboth with ⟨⟨e, he, hdefault⟩, d, hd, e', he', hlisted⟩
  -- the default object's handle
  rcases exists_answer hgiven he with ⟨out, hout, hgivenDefault⟩
  rcases hgivenDefault.of_fetchesDefault hdefault with ⟨r, hr, rfl⟩
  have hrmem : r ∈ outs.flatten := List.mem_flatten.mpr ⟨_, hout, List.mem_singleton_self r⟩
  -- the handle of the listed object around the same device
  obtain ⟨refs, r', hrefs, hmem, hr'mem, hwrapped⟩ : ∃ refs r',
      w.runtime.platformDevices = some refs ∧ r' ∈ refs ∧ r' ∈ outs.flatten ∧
        w.runtime.wrapped r' = some d := by
    rcases exists_answer hgiven he' with ⟨out, hout, hgiven⟩
    unfold Event.FetchesFromList at hlisted
    split at hlisted
    · rcases hgiven with ⟨-, refs, hrefs, rfl⟩ | ⟨hd, -⟩ | ⟨hl, -⟩
      · have hsome : some d ∈ (host.copyAllDevices.take _).map some :=
          List.mem_map_of_mem hlisted.2
        rw [← hv.wrapped_take hrefs] at hsome
        rcases List.mem_map.mp hsome with ⟨r', hr', hwrapped⟩
        exact ⟨refs, r', hrefs, List.mem_of_mem_take hr', List.mem_flatten.mpr ⟨_, hout, hr'⟩,
          hwrapped⟩
      · exact absurd hd hlisted.1.not_selectsDefault
      · exact absurd hlisted.1 hl
    · exact hlisted.elim
  intro hone
  rcases hv.wrapped_deviceDefault hr with ⟨d', hd', hwrapped'⟩
  obtain rfl : d' = d := by simpa [hd'] using hd
  have heq : r = r' := (hone r hrmem r' hr'mem).mpr (hwrapped'.trans hwrapped.symm)
  exact hv.separate r refs hr hrefs (heq ▸ hmem)

/-- A run that did not, has given out one handle per device. -/
theorem one_handle {events : List (Event Dev)} {outs : List (List DeviceRef)} {w : World Dev}
    (hnodup : host.copyAllDevices.Nodup) (hv : w.Valid host)
    (hgiven : List.Forall₂ (fun e out => GivenOut e out w) events outs)
    (hboth : ¬ FetchedBothWays host events) : OneHandlePerDevice outs w := by
  -- a listed handle never wraps the device of a default handle
  have hclash : ∀ {r r' : DeviceRef} {p deviceType numEntries a numDevices refs},
      Event.getDeviceIDs (some p) deviceType numEntries (some a) numDevices ∈ events →
      (CLDeviceType.ofRawValue deviceType).SelectsListed →
      w.runtime.platformDevices = some refs → r ∈ refs.take numEntries.toNat →
      (∃ e ∈ events, e.FetchesDefault) → w.runtime.deviceDefault = some r' →
      w.runtime.wrapped r ≠ w.runtime.wrapped r' := by
    intro r r' p deviceType numEntries a numDevices refs he hlisted hrefs hr hfetch hr' heq
    rcases hv.wrapped_deviceDefault hr' with ⟨d, hd, hwrapped⟩
    have hwraps : w.runtime.wrapped r = some d := heq.trans hwrapped
    have hmem : some d ∈ (refs.take numEntries.toNat).map w.runtime.wrapped :=
      hwraps ▸ List.mem_map_of_mem hr
    rw [hv.wrapped_take hrefs] at hmem
    rcases List.mem_map.mp hmem with ⟨d', hd', hsome⟩
    obtain rfl : d' = d := Option.some.inj hsome
    exact hboth ⟨hfetch, d', hd, _, he, hlisted, hd'⟩
  intro r hr r' hr'
  constructor
  · rintro rfl
    rfl
  · intro heq
    rcases handle_origin hgiven hr with ⟨p, t, n, a, c, he, hl, refs, hrefs, hmem⟩ | ⟨hf, hk⟩
    · rcases handle_origin hgiven hr' with
        ⟨p', t', n', a', c', -, -, refs', hrefs', hmem'⟩ | ⟨hf', hk'⟩
      · obtain rfl : refs' = refs := by simpa [hrefs] using hrefs'.symm
        exact hv.wrapped_injective hnodup hrefs (List.mem_of_mem_take hmem)
          (List.mem_of_mem_take hmem') heq
      · exact absurd heq (hclash he hl hrefs hmem hf' hk')
    · rcases handle_origin hgiven hr' with
        ⟨p', t', n', a', c', he', hl', refs', hrefs', hmem'⟩ | ⟨-, hk'⟩
      · exact absurd heq.symm (hclash he' hl' hrefs' hmem' hf hk)
      · simpa [hk] using hk'

end OneHandle

/-- **Handles stand for devices one to one exactly in the runs that do not fetch
the chosen device both ways.** In every run the default object's handle is none of
the listed ones. -/
theorem one_handle_per_device_iff [DecidableEq Dev] (hnodup : host.copyAllDevices.Nodup)
    {events : List (Event Dev)} {outs : List (List DeviceRef)} {w w' : World Dev}
    (hfresh : w.runtime = {}) (hrun : (runs (step host) events).run w = .ok (outs, w')) :
    (OneHandlePerDevice outs w' ↔ ¬ FetchedBothWays host events) ∧
    ∀ e out e' out', (e, out) ∈ events.zip outs → (e', out') ∈ events.zip outs →
      e.FetchesDefault → e'.AsksForList → ∀ r ∈ out, r ∉ out' := by
  have hv : w.Valid host := by
    rw [World.Valid, hfresh]
    exact Runtime.Valid.empty
  rcases runs_givenOut hv hrun with ⟨hgiven, hv'⟩
  refine ⟨⟨fun hone hboth => two_handles hv' hgiven hboth hone, one_handle hnodup hv' hgiven⟩, ?_⟩
  intro e out e' out' he he' hdefault hlisted r hr hr'
  rcases (List.forall₂_zip hgiven he).of_fetchesDefault hdefault with ⟨r', hkept, rfl⟩
  obtain rfl : r = r' := by simpa using hr
  rcases (List.forall₂_zip hgiven he').of_asksForList hlisted hr' with ⟨refs, hrefs, hmem⟩
  exact hv'.separate r refs hkept hrefs hmem

/-- One GPU, fetched as the default device and by its class: the two handles
differ, and both wrap GPU 0. -/
theorem default_and_gpu_handles_differ :
    ∃ w', (runs (step Host.oneGPU)
        [.platformDefault, .getDeviceIDs (some {}) 0x1 1 (some 0) none,
          .getDeviceIDs (some {}) 0x4 1 (some 0) none]).run (World.cleared {}) =
        .ok ([[], [0], [1]], w') ∧
      w'.runtime.wrapped 0 = some 0 ∧ w'.runtime.wrapped 1 = some 0 ∧
      ¬ OneHandlePerDevice [[], [0], [1]] w' := by
  refine ⟨_, rfl, rfl, rfl, ?_⟩
  intro hone
  have heq : 0 = 1 := (hone 0 (by simp) 1 (by simp)).mpr rfl
  exact absurd heq (by decide)

/-- Two GPUs, fetched by their class and all together. -/
theorem one_handle_per_device_twoGPUs :
    ∃ w', (runs (step Host.twoGPUs)
        [.platformDefault, .getDeviceIDs (some {}) 0x4 1 (some 0) none,
          .getDeviceIDs (some {}) 0xFFFFFFFF 2 (some 0) none]).run (World.cleared {}) =
        .ok ([[], [0], [0, 1]], w') ∧
      OneHandlePerDevice [[], [0], [0, 1]] w' := by
  obtain ⟨w', hrun⟩ : ∃ w', (runs (step Host.twoGPUs)
      [.platformDefault, .getDeviceIDs (some {}) 0x4 1 (some 0) none,
        .getDeviceIDs (some {}) 0xFFFFFFFF 2 (some 0) none]).run (World.cleared {}) =
      .ok ([[], [0], [0, 1]], w') := ⟨_, rfl⟩
  refine ⟨w', hrun, (one_handle_per_device_iff Host.twoGPUs (by decide) rfl hrun).1.mpr ?_⟩
  intro h
  rcases h with ⟨⟨e, he, hdefault⟩, -⟩
  simp only [List.mem_cons, List.not_mem_nil, or_false] at he
  rcases he with rfl | rfl | rfl
  · exact hdefault
  · exact absurd hdefault.1 (by decide)
  · exact absurd hdefault.1 (by decide)

end MoltenCL
