import MoltenCL.Refinement
import MoltenCL.Queries
import MoltenCL.Strings

/-! # The clients of the repository

Two programs come with the library: `ValidateLibrary`, which loads the built library and checks
`clGetPlatformIDs`, and the test of the platform. Both check what they are told, and both do so
against any past of the process and any contents of their own memory. On a machine where the
platform comes up every check succeeds; elsewhere the library itself stops the process, and no
check ever fails. The variables and the buffers of a program are separate storage, as the
declarations of the source make them.
-/

namespace MoltenCL

open Foundation Swift

variable {Dev : Type} (host : Host Dev)

/-- `precondition(condition, message)`. -/
def precondition {σ : Type} (condition : Bool) (message : String) : Swift σ Unit :=
  if condition then pure () else throw (.precondition message)

/-- `main.swift` of `ValidateLibrary`, from where the symbol is loaded. The addresses are those of
the variable `numPlatforms` and of the temporary allocation. -/
def validateLibrary (numPlatforms bufferPointer : ℕ) : Swift (World Dev) Unit := do
  modify fun w => { w with counts := w.counts.store numPlatforms 0 }
  let _ ← clGetPlatformIDs host 0 none (some numPlatforms)
  precondition ((← get).counts.cell numPlatforms == 1) "Number of platforms not 1."
  let _ ← clGetPlatformIDs host 1 (some bufferPointer) none
  precondition ((← get).platformIDs.cell bufferPointer).isSome "Retrieved platform was nil."

/-- An assertion of a test: a failure is recorded, and the test goes on. -/
def xctAssert (condition : Bool) (assertion : String) : List String :=
  if condition then [] else [assertion]

/-- `String(validatingUTF8:)` on a buffer of `capacity` bytes. A buffer without a NUL is read past
its end. -/
def validatingUTF8 (bufferPointer capacity : ℕ) : Swift (World Dev) (Option (List Char)) := do
  match readCString (← get).buffers.bytes bufferPointer capacity with
  | some bytes => pure (SwiftString.decodeUTF8 bytes)
  | none => throw .outOfBoundsRead

/-- `testCLPlatform`, with the assertions that failed. The addresses are those of the variables
`numPlatforms` and `nameSize` and of the two temporary allocations. -/
def testCLPlatform (numPlatforms platforms nameSize name : ℕ) :
    Swift (World Dev) (List String) := do
  modify fun w => { w with counts := w.counts.store numPlatforms 0 }
  let _ ← clGetPlatformIDs host 0 none (some numPlatforms)
  let one := xctAssert ((← get).counts.cell numPlatforms == 1) "numPlatforms == 1"
  let _ ← clGetPlatformIDs host 1 (some platforms) none
  let platform := (← get).platformIDs.cell platforms
  let notNull := xctAssert platform.isSome "bufferPointer[0] != 0"
  if platform = none then
    throw (.fatalError "This should never happen.")
  modify fun w => { w with buffers := w.buffers.report (some nameSize) 0 }
  let _ ← clGetPlatformInfo host platform CL_PLATFORM_NAME.toUInt32 0 none (some nameSize)
  let capacity := (← get).buffers.sizes.cell nameSize
  let positive := xctAssert (0 < capacity) "nameSize > 0"
  let _ ← clGetPlatformInfo host platform CL_PLATFORM_NAME.toUInt32 capacity (some name) none
  let nameString ← unwrap (← validatingUTF8 name capacity.toNat)
  let apple := xctAssert (nameString == "Apple".toList) "nameString == Apple"
  return one ++ notNull ++ positive ++ apple

/-! ## The platform is counted and fetched -/

/-- A world in which the platforms have been counted. -/
def World.counted (w : World Dev) (numPlatforms : ℕ) : World Dev :=
  { w with counts := (w.counts.store numPlatforms 0).store numPlatforms 1 }

section Fetch

variable {host} {w : World Dev}

theorem counted_numPlatforms (numPlatforms : ℕ) :
    (w.counted numPlatforms).counts.cell numPlatforms = 1 :=
  Memory.store_self _ _ _

/-- Both programs first count the platforms, and find one. -/
theorem run_count {α : Type} (numPlatforms : ℕ) (rest : Swift (World Dev) α) :
    (do
      modify fun w : World Dev => { w with counts := w.counts.store numPlatforms 0 }
      let _ ← clGetPlatformIDs host 0 none (some numPlatforms)
      rest).run w = rest.run (w.counted numPlatforms) := rfl

@[simp] theorem run_precondition_true {σ : Type} (message : String) (s : σ) :
    (precondition true message).run s = .ok ((), s) := rfl

/-- Fetching the platform passes the check of the first listed device, or is stopped by it. -/
theorem run_fetchPlatform (hs : w.runtime.Sound host) (platforms : ℕ) :
    (∃ rt, ComesUp host ∧ rt.Sound host ∧ (clGetPlatformIDs host 1 (some platforms) none).run w =
      .ok (CL_SUCCESS, { w with
        runtime := rt, platformIDs := w.platformIDs.store platforms (some {}) })) ∨
    ∃ e, Catalogue.platformCheck host = .error e ∧
      (clGetPlatformIDs host 1 (some platforms) none).run w = .error e := by
  have hone : (1 : UInt32).toNat ≠ 0 := by decide
  rw [run_clGetPlatformIDs_fetch host hone]
  rcases endsAs_platformDefault host w.runtime hs with
    ⟨p, rt, p', hrun, hcheck, hs', -, -⟩ | ⟨e, hrun, hcheck⟩
  · left
    refine ⟨rt, (freshly_init_eq_ok host).mp hcheck, hs', ?_⟩
    rw [hrun]
    rfl
  · right
    refine ⟨e, hcheck, ?_⟩
    rw [hrun]
    rfl

/-! ## The name of the platform -/

/-- A query for the name responds with six bytes. -/
theorem run_platformName (p : CLPlatform) (capacity : ℤ) (value size : Option ℕ) :
    (clGetPlatformInfo host (some p) CL_PLATFORM_NAME.toUInt32 capacity value size).run w =
      let response := (InfoValue.string CLPlatform.name).answer.respond CL_SUCCESS
        CL_INVALID_VALUE capacity value size w.buffers
      .ok (response.1, { w with buffers := response.2 }) := by
  have hname : (platformInfoCases host).lookup CL_PLATFORM_NAME.toUInt32.toInt32 =
      some (pure (.string CLPlatform.name)) := rfl
  exact run_answerQuery hname rfl trivial

theorem size_platformName : (InfoValue.string CLPlatform.name).answer.size = 6 := rfl

/-- The name fetched into a buffer of six bytes reads back. -/
theorem readCString_platformName (name : ℕ) (b : Buffers) :
    readCString ((InfoValue.string CLPlatform.name).answer.respond CL_SUCCESS CL_INVALID_VALUE 6
      (some name) none b).2.bytes name 6 = some CLPlatform.name.utf8 := by
  have hfits : ((InfoValue.string CLPlatform.name).answer.size : ℤ) ≤ 6 := le_refl 6
  have hzero : (0 : UInt8) ∉ CLPlatform.name.utf8 := by decide
  rw [Answer.respond_fill _ _ _ _ _ _ hfits]
  refine readCString_of_load ?_ hzero (by decide)
  exact Memory.load_storeList b.bytes name (CLPlatform.name.utf8 ++ [0])

theorem decodeUTF8_platformName :
    SwiftString.decodeUTF8 CLPlatform.name.utf8 = some "Apple".toList :=
  SwiftString.decodeUTF8_utf8 CLPlatform.name

end Fetch

/-- What a program that checks the platform does on a machine: it passes exactly where the
platform comes up, and elsewhere it is stopped by the library and not by itself. -/
def Validates {α : Type} (program : Swift (World Dev) α) (passed : α) (w : World Dev) : Prop :=
  ((∃ w', program.run w = .ok (passed, w')) ↔ ComesUp host) ∧
    (∀ a w', program.run w = .ok (a, w') → a = passed) ∧
    ∀ e, program.run w = .error e → Catalogue.platformCheck host = .error e

section Validation

variable {host}

/-- It is enough to follow the two outcomes of the check. -/
theorem validates_of_run {α : Type} {program : Swift (World Dev) α} {passed : α} {w : World Dev}
    (h : (ComesUp host ∧ ∃ w', program.run w = .ok (passed, w')) ∨
      ∃ e, Catalogue.platformCheck host = .error e ∧ program.run w = .error e) :
    Validates host program passed w := by
  rcases h with ⟨hup, w', hrun⟩ | ⟨e, hcheck, hrun⟩
  · refine ⟨iff_of_true ⟨w', hrun⟩ hup, ?_, ?_⟩
    · intro a w'' ha
      rw [hrun] at ha
      cases ha
      rfl
    · intro e he
      rw [hrun] at he
      cases he
  · have hdown : ¬ ComesUp host := by
      intro hup
      have hok : Catalogue.platformCheck host = .ok {} := (freshly_init_eq_ok host).mpr hup
      rw [hok] at hcheck
      cases hcheck
    refine ⟨iff_of_false ?_ hdown, ?_, ?_⟩
    · rintro ⟨w', h⟩
      rw [hrun] at h
      cases h
    · intro a w' h
      rw [hrun] at h
      cases h
    · intro e' h
      rw [hrun] at h
      cases h
      exact hcheck

/-- **`ValidateLibrary` validates the library**: whatever the process did before and whatever the
temporary allocation holds. -/
theorem validateLibrary_validates [DecidableEq Dev] {w : World Dev} (hw : Reachable host w)
    (numPlatforms bufferPointer : ℕ) :
    Validates host (validateLibrary host numPlatforms bufferPointer) () w := by
  apply validates_of_run
  rcases run_fetchPlatform (w := w.counted numPlatforms) hw.sound bufferPointer with
    ⟨rt, hup, -, hfetch⟩ | ⟨e, hcheck, hfetch⟩
  · refine Or.inl ⟨hup, { w.counted numPlatforms with
      runtime := rt
      platformIDs := (w.counted numPlatforms).platformIDs.store bufferPointer (some {}) }, ?_⟩
    unfold validateLibrary
    rw [run_count]
    simp [hfetch, counted_numPlatforms, pure_eq_ok]
  · refine Or.inr ⟨e, hcheck, ?_⟩
    unfold validateLibrary
    rw [run_count]
    simp [hfetch, counted_numPlatforms, pure_eq_ok]

/-- In a fresh process with one GPU. -/
theorem validateLibrary_validates_oneGPU :
    Validates Host.oneGPU (validateLibrary Host.oneGPU 0 8) () (World.cleared {}) :=
  validateLibrary_validates (.fresh _ rfl) 0 8

/-- **The test of the platform passes** on every machine where the platform comes up. -/
theorem testCLPlatform_validates [DecidableEq Dev] {w : World Dev} (hw : Reachable host w)
    (numPlatforms platforms nameSize name : ℕ) :
    Validates host (testCLPlatform host numPlatforms platforms nameSize name) [] w := by
  apply validates_of_run
  rcases run_fetchPlatform (w := w.counted numPlatforms) hw.sound platforms with
    ⟨rt, hup, -, hfetch⟩ | ⟨e, hcheck, hfetch⟩
  · refine Or.inl ⟨hup, ?_⟩
    unfold testCLPlatform
    rw [run_count]
    simp [hfetch, counted_numPlatforms, pure_eq_ok, xctAssert, run_platformName, unwrap,
      size_platformName, validatingUTF8, readCString_platformName, decodeUTF8_platformName]
  · refine Or.inr ⟨e, hcheck, ?_⟩
    unfold testCLPlatform
    rw [run_count]
    simp [hfetch, counted_numPlatforms, pure_eq_ok]

/-- In a process that has created an object before. -/
theorem testCLPlatform_validates_oneGPU :
    Validates Host.oneGPU (testCLPlatform Host.oneGPU 0 8 16 24) []
      (World.cleared { heap := [newDevice Host.oneGPU 0] }) :=
  testCLPlatform_validates reachable_oneDevice 0 8 16 24

end Validation

end MoltenCL
