import MoltenCL.Answers
import MoltenCL.Session

/-! # Strings in buffers

Two writers produce a `char[]`. The writer of a string measures it in UTF-8 bytes.
The writer of a list measures its elements in Characters and copies as many bytes,
so it joins the elements it was given exactly if every Character is one byte
(`joinsElements_iff`). Both leave a NUL inside the size they report, with the empty
list as the only exception (`cStringLaw_iff`).
-/

namespace MoltenCL

open Foundation Swift

/-! ## The joined list -/

/-- The UTF-8 bytes of the elements with one space between them, and a NUL. -/
def joinedUTF8 (value : List SwiftString) : List UInt8 :=
  [space].intercalate (value.map SwiftString.utf8) ++ [0]

/-- The UTF-8 bytes of the elements, one more for each. -/
def joinedLength (value : List SwiftString) : ℕ :=
  (value.map fun element => element.utf8.length + 1).sum

/-- What a client relies on about a joined list. -/
structure JoinsElements (value : List SwiftString) : Prop where
  /-- the size reported counts UTF-8 bytes -/
  size : ∀ capacity ptr a b status b',
    (writeInfoArrayOfString capacity ptr (some a) value).run b = .ok (status, b') →
      b'.sizes.cell a = joinedLength value
  /-- a successful call leaves the joined elements -/
  content : ∀ capacity ptr size b b',
    (writeInfoArrayOfString capacity (some ptr) size value).run b = .ok (CL_SUCCESS, b') →
      b'.bytes.load ptr (joinedLength value) = joinedUTF8 value
  /-- the writer of a single string counts the same bytes -/
  unit : ∀ element ∈ value, ∀ capacity ptr a b status b',
    (writeInfoString capacity ptr (some a) element).run b = .ok (status, b') →
      b'.sizes.cell a = element.utf8.length + 1

theorem joinedSize_le (value : List SwiftString) : joinedSize value ≤ joinedLength value := by
  induction value with
  | nil => exact le_refl 0
  | cons element rest ih =>
      have hcount := element.count_le_length_utf8
      simp only [joinedSize, joinedLength, List.map_cons, List.sum_cons] at ih ⊢
      omega

/-- The size in Characters is the size in bytes exactly if every Character is one
byte. -/
theorem joinedSize_eq_iff (value : List SwiftString) :
    joinedSize value = joinedLength value ↔
      ∀ element ∈ value, ∀ c ∈ element.characters, c.utf8.length = 1 := by
  -- no element is longer in Characters, so equal sums are equal element by element
  induction value with
  | nil => simp [joinedSize, joinedLength]
  | cons element rest ih =>
      have hcount := element.count_le_length_utf8
      have hrest := joinedSize_le rest
      rw [List.forall_mem_cons, ← SwiftString.count_eq_length_utf8_iff element, ← ih]
      simp only [joinedSize, joinedLength, List.map_cons, List.sum_cons] at hrest ⊢
      omega

/-- The bytes of a list are as many as its size. -/
theorem length_joinedBytes (value : List SwiftString) :
    (joinedBytes value).length = joinedSize value := by
  by_cases hne : value = []
  · simp [hne, joinedBytes, joinedSize]
  · rcases exists_spacedBytes_eq hne with ⟨front, hfront⟩
    have hlen := length_spacedBytes value
    rw [hfront] at hlen
    simpa [joinedBytes_eq hne hfront] using hlen

/-- Single-byte Characters are copied whole, and the last space is the terminator's
place. -/
theorem joinedBytes_eq_joinedUTF8 {value : List SwiftString} (hne : value ≠ [])
    (h : ∀ element ∈ value, ∀ c ∈ element.characters, c.utf8.length = 1) :
    joinedBytes value = joinedUTF8 value := by
  apply joinedBytes_eq hne
  induction value with
  | nil => exact absurd rfl hne
  | cons element rest ih =>
      rcases List.forall_mem_cons.mp h with ⟨helement, hrest⟩
      have htake : element.utf8.take element.count = element.utf8 := by
        rw [element.count_eq_length_utf8_iff.mpr helement, List.take_length]
      cases rest with
      | nil => simp [spacedBytes, htake]
      | cons next rest =>
          rw [spacedBytes_cons, htake, ih (List.cons_ne_nil _ _) hrest]
          simp [List.intercalate_cons_cons]

/-- **The list writer joins its elements exactly if every Character is one byte.** -/
theorem joinsElements_iff {value : List SwiftString} (hne : value ≠ []) :
    JoinsElements value ↔
      ∀ element ∈ value, ∀ c ∈ element.characters, c.utf8.length = 1 := by
  constructor
  · intro h
    have hrun := writeInfoArrayOfString_responds 0 none (some 0) ⟨⟨fun _ => 0⟩, ⟨fun _ => 0⟩⟩
      value
    have hsize := h.size _ _ _ _ _ _ hrun
    exact (joinedSize_eq_iff value).mp (by simpa [InfoValue.answer] using hsize)
  · intro h
    have hsize := (joinedSize_eq_iff value).mpr h
    refine ⟨?_, ?_, ?_⟩
    · intro capacity ptr a b status b' hrun
      rw [writeInfoArrayOfString_responds] at hrun
      rw [← hsize]
      exact Answer.respond_sizes _ _ _ _ _ (Except.ok.inj hrun)
    · intro capacity ptr size b b' hrun
      rw [writeInfoArrayOfString_responds] at hrun
      rcases Answer.respond_ok _ _ _ _ success_ne_invalidValue (Except.ok.inj hrun) with ⟨-, hbytes⟩
      have hjoined := joinedBytes_eq_joinedUTF8 hne h
      rw [hbytes, ← hjoined, ← hsize, ← length_joinedBytes]
      exact Memory.load_storeList _ _ _
    · intro element _ capacity ptr a b status b' hrun
      rw [writeInfoString_responds] at hrun
      exact Answer.respond_sizes _ _ _ _ _ (Except.ok.inj hrun)

/-- The ILs of a device are joined. -/
theorem ilVersions_joinsElements : JoinsElements CLDevice.ilVersions :=
  (joinsElements_iff (List.cons_ne_nil _ _)).mpr (by decide)

/-- An accented letter takes two bytes and counts as one Character. -/
def accented : SwiftString := ⟨[.ofScalar 'é']⟩

/-- Its second byte is cut off, and the call reports success. -/
theorem accented_is_cut :
    (∃ b', (writeInfoArrayOfString 2 (some 0) (some 0) [accented]).run
        ⟨⟨fun _ => 1⟩, ⟨fun _ => 0⟩⟩ = .ok (CL_SUCCESS, b') ∧
      b'.sizes.cell 0 = 2 ∧ b'.bytes.load 0 2 = [0xC3, 0]) ∧
      joinedUTF8 [accented] = [0xC3, 0xA9, 0] ∧ ¬ JoinsElements [accented] := by
  have hrun := writeInfoArrayOfString_responds 2 (some 0) (some 0) ⟨⟨fun _ => 1⟩, ⟨fun _ => 0⟩⟩
    [accented]
  rw [Answer.respond_fill _ _ _ _ _ _ (by decide)] at hrun
  refine ⟨⟨_, hrun, rfl, by decide⟩, by decide, fun h => ?_⟩
  have hsize : (2 : ℤ) = joinedLength [accented] := h.size _ _ _ _ _ _ hrun
  exact absurd hsize (by decide)

/-! ## Terminators -/

/-- The values of the queries with the C type `char[]`. -/
def InfoValue.IsText : InfoValue → Prop
  | .string _ => True
  | .arrayOfString _ => True
  | _ => False

/-- What a client of a `char[]` query relies on: from every `ready` state the call
returns and reports a size of at least one, and a fetch that succeeds leaves a NUL
among that many bytes, whatever was in the buffer. -/
def CStringLaw {σ : Type} (ready : σ → Prop) (view : σ → Buffers)
    (call : ℤ → Option ℕ → Option ℕ → Swift σ Int32) : Prop :=
  ∃ n : ℕ, 1 ≤ n ∧ ∀ capacity value size s, ready s →
    ∃ status s', (call capacity value size).run s = .ok (status, s') ∧
      (∀ a, size = some a → (view s').sizes.cell a = n) ∧
      ∀ ptr, value = some ptr → status = CL_SUCCESS → 0 ∈ (view s').bytes.load ptr n

section Law

variable {σ : Type} {ready : σ → Prop} {view : σ → Buffers}
  {call : ℤ → Option ℕ → Option ℕ → Swift σ Int32}

/-- A client that allocates the size reported finds the end of the string in it. -/
theorem CStringLaw.readCString (h : CStringLaw ready view call) :
    ∃ n : ℕ, ∀ capacity ptr size s status s', ready s →
      (call capacity (some ptr) size).run s = .ok (status, s') → status = CL_SUCCESS →
        ∃ bs, Foundation.readCString (view s').bytes ptr n = some bs := by
  rcases h with ⟨n, -, hlaw⟩
  refine ⟨n, fun capacity ptr size s status s' hs hrun hstatus => ?_⟩
  rcases hlaw capacity (some ptr) size s hs with ⟨status₁, s₁, hrun₁, -, hnul⟩
  rcases Prod.mk.inj (Except.ok.inj (hrun₁.symm.trans hrun)) with ⟨rfl, rfl⟩
  exact exists_readCString (hnul ptr rfl hstatus)

/-- An answer that fills its size with a NUL in it gives the law. -/
theorem cStringLaw_of_respond {answer : Answer} (hsize : 1 ≤ answer.size)
    (hnul : ∀ ptr m, 0 ∈ (answer.fill ptr m).load ptr answer.size)
    (hcall : Responds ready view CL_SUCCESS CL_INVALID_VALUE answer call) :
    CStringLaw ready view call := by
  refine ⟨answer.size, hsize, fun capacity value size s hs => ?_⟩
  rcases hcall capacity value size s hs with ⟨s', hrun, hview⟩
  refine ⟨_, s', hrun, ?_, ?_⟩
  · rintro a rfl
    exact Answer.respond_sizes answer _ _ _ _ (Prod.ext rfl hview.symm)
  · rintro ptr rfl hstatus
    rcases Answer.respond_ok answer _ _ _ success_ne_invalidValue
      (Prod.ext hstatus hview.symm) with ⟨-, hbytes⟩
    rw [hbytes]
    exact hnul ptr _

/-- Under the law the size of an answer is not zero. -/
theorem CStringLaw.size_ne_zero {answer : Answer} (h : CStringLaw ready view call)
    (hcall : Responds ready view CL_SUCCESS CL_INVALID_VALUE answer call) {s : σ} (hs : ready s) :
    answer.size ≠ 0 := by
  rcases h with ⟨n, hn, hlaw⟩
  rcases hcall 0 none (some 0) s hs with ⟨s', hrun, hview⟩
  rcases hlaw 0 none (some 0) s hs with ⟨status, s₁, hrun₁, hsize, -⟩
  rcases Prod.mk.inj (Except.ok.inj (hrun₁.symm.trans hrun)) with ⟨-, rfl⟩
  have hstored : (view s₁).sizes.cell 0 = answer.size :=
    Answer.respond_sizes answer _ _ _ _ (Prod.ext rfl hview.symm)
  have hsame := (hsize 0 rfl).symm.trans hstored
  omega

end Law

/-- Every text but the empty list brings its own NUL. -/
theorem InfoValue.IsText.terminated {v : InfoValue} (htext : v.IsText)
    (hne : v ≠ .arrayOfString []) :
    1 ≤ v.answer.size ∧ ∀ ptr m, 0 ∈ (v.answer.fill ptr m).load ptr v.answer.size := by
  cases v with
  | string s =>
      refine ⟨Nat.le_add_left 1 _, fun ptr m => ?_⟩
      -- the terminator lies inside the size, which also counts what is behind a NUL
      have hlen : (cString s.utf8).length ≤ s.utf8.length + 1 := by
        rw [length_cString]
        exact Nat.succ_le_succ (strlen_le_length _)
      rcases Nat.exists_eq_add_of_le hlen with ⟨rest, hrest⟩
      have hload : (m.storeList ptr (cString s.utf8)).load ptr (cString s.utf8).length =
          cString s.utf8 := Memory.load_storeList _ _ _
      change 0 ∈ (m.storeList ptr (cString s.utf8)).load ptr (s.utf8.length + 1)
      rw [hrest, Memory.load_add, hload]
      exact List.mem_append_left _ (by simp [cString])
  | arrayOfString l =>
      have hl : l ≠ [] := fun h => hne (congrArg InfoValue.arrayOfString h)
      rcases exists_spacedBytes_eq hl with ⟨front, hfront⟩
      have hjoined := joinedBytes_eq hl hfront
      have hlen := length_joinedBytes l
      have hload (ptr : ℕ) (m : Memory UInt8) :
          (m.storeList ptr (joinedBytes l)).load ptr (joinedSize l) = joinedBytes l := by
        rw [← hlen]
        exact Memory.load_storeList _ _ _
      refine ⟨?_, fun ptr m => ?_⟩
      · change 1 ≤ joinedSize l
        rw [← hlen, hjoined]
        simp
      · change 0 ∈ (m.storeList ptr (joinedBytes l)).load ptr (joinedSize l)
        rw [hload, hjoined]
        simp
  | _ => exact htext.elim

theorem InfoValue.IsText.namesFit {v : InfoValue} (htext : v.IsText) : v.NamesFit := by
  cases v with
  | arrayOfCLNameVersion l => exact htext.elim
  | _ => trivial

/-- A call that responds with a text obeys the law unless the text is the empty list. -/
theorem cStringLaw_iff_of_responds {σ : Type} {ready : σ → Prop} {view : σ → Buffers}
    {call : ℤ → Option ℕ → Option ℕ → Swift σ Int32} {v : InfoValue}
    (hcall : Responds ready view CL_SUCCESS CL_INVALID_VALUE v.answer call) (htext : v.IsText)
    {s : σ} (hs : ready s) : CStringLaw ready view call ↔ v ≠ .arrayOfString [] := by
  constructor
  · rintro h rfl
    exact h.size_ne_zero hcall hs rfl
  · intro hne
    rcases htext.terminated hne with ⟨hsize, hnul⟩
    exact cStringLaw_of_respond hsize hnul hcall

/-! ## The queries -/

section Queries

variable {Dev : Type} (host : Host Dev)

/-- No value of the property is the empty list of strings. -/
def NeverEmpty (property : Swift (Runtime Dev) InfoValue) : Prop :=
  ∀ rt v rt', property.run rt = .ok (v, rt') → v ≠ .arrayOfString []

theorem neverEmpty_pure {v : InfoValue} (hv : v ≠ .arrayOfString []) :
    NeverEmpty (pure v : Swift (Runtime Dev) InfoValue) := by
  intro rt v' rt' h
  obtain ⟨rfl, -⟩ : v = v' ∧ rt = rt' := by simpa [pure_eq_ok] using h
  exact hv

theorem neverEmpty_map {α : Type} {x : Swift (Runtime Dev) α} {f : α → InfoValue}
    (hf : ∀ a, f a ≠ .arrayOfString []) : NeverEmpty (f <$> x) := by
  intro rt v rt' h
  rcases run_map_eq_ok_iff.mp h with ⟨a, -, rfl⟩
  exact hf a

/-- The extensions of the platform are the only empty list of its queries. -/
theorem platformInfoCases_neverEmpty :
    ∀ c ∈ platformInfoCases host, c.1 ≠ CL_PLATFORM_EXTENSIONS → NeverEmpty c.2 := by
  simp only [platformInfoCases, List.forall_mem_cons]
  and_intros
  all_goals first
    | exact fun h => (h rfl).elim
    | exact fun _ => neverEmpty_pure (by rintro ⟨⟩)
    | exact fun _ => neverEmpty_map (by rintro _ ⟨⟩)
    | exact fun _ h => absurd h List.not_mem_nil

/-- No query of a device answers with an empty list of strings. -/
theorem deviceInfoCases_neverEmpty [DecidableEq Dev] (device : CLDevice Dev) :
    ∀ c ∈ deviceInfoCases host device, NeverEmpty c.2 := by
  have hilVersions : InfoValue.arrayOfString CLDevice.ilVersions ≠ .arrayOfString [] := by
    simp [CLDevice.ilVersions]
  simp only [deviceInfoCases, List.forall_mem_cons]
  and_intros
  all_goals first
    | exact neverEmpty_pure hilVersions
    | exact neverEmpty_pure (by rintro ⟨⟩)
    | exact neverEmpty_map (by rintro _ ⟨⟩)
    | exact fun _ h => absurd h List.not_mem_nil

/-- The extensions of the platform are the empty list. -/
theorem lookup_platformExtensions :
    (platformInfoCases host).lookup CL_PLATFORM_EXTENSIONS = some (pure (.arrayOfString [])) := rfl

/-- A text of a platform query is the empty list exactly for the extensions. -/
theorem platformText_ne_nil_iff {name : Int32} {property : Swift (Runtime Dev) InfoValue}
    (h : (platformInfoCases host).lookup name = some property) {rt rt' : Runtime Dev}
    {v : InfoValue} (hrun : property.run rt = .ok (v, rt')) :
    v ≠ .arrayOfString [] ↔ name ≠ CL_PLATFORM_EXTENSIONS := by
  constructor
  · rintro hne rfl
    obtain rfl := Option.some.inj (h.symm.trans (lookup_platformExtensions host))
    obtain ⟨rfl, -⟩ : .arrayOfString [] = v ∧ rt = rt' := by simpa [pure_eq_ok] using hrun
    exact hne rfl
  · intro hname
    exact platformInfoCases_neverEmpty host _ (mem_of_lookup h) hname rt v rt' hrun

/-- **A `char[]` answer is a C string exactly if it is not the empty list**: for every
text that is written, and for every query that has a text to write. The platform's
extensions are the one query whose text is the empty list. -/
theorem cStringLaw_iff [DecidableEq Dev] :
    (∀ v : InfoValue, v.IsText →
      (CStringLaw (fun _ => True) id v.writeInfo ↔ v ≠ .arrayOfString [])) ∧
    (∀ (p : CLPlatform) (paramName : UInt32) (property : Swift (Runtime Dev) InfoValue)
        (w : World Dev) (v : InfoValue) (rt' : Runtime Dev),
      (platformInfoCases host).lookup paramName.toInt32 = some property →
      property.run w.runtime = .ok (v, rt') → v.IsText →
        (CStringLaw (fun w' => w'.runtime = w.runtime) World.buffers
          (clGetPlatformInfo host (some p) paramName) ↔
            paramName.toInt32 ≠ CL_PLATFORM_EXTENSIONS)) ∧
    ∀ (ref : DeviceRef) (device : CLDevice Dev) (paramName : UInt32)
        (property : Swift (Runtime Dev) InfoValue) (w : World Dev) (v : InfoValue)
        (rt' : Runtime Dev),
      w.runtime.heap[ref]? = some device →
      (deviceInfoCases host device).lookup paramName.toInt32 = some property →
      property.run w.runtime = .ok (v, rt') → v.IsText →
        CStringLaw (fun w' => w'.runtime = w.runtime) World.buffers
          (clGetDeviceInfo host (some ref) paramName) := by
  refine ⟨?_, ?_, ?_⟩
  · intro v htext
    exact cStringLaw_iff_of_responds (responds_writeInfo htext.namesFit) htext
      (s := ⟨⟨fun _ => 0⟩, ⟨fun _ => 0⟩⟩) trivial
  · intro p paramName property w v rt' hlookup hrun htext
    have hresponds : Responds (fun w' : World Dev => w'.runtime = w.runtime) World.buffers
        CL_SUCCESS CL_INVALID_VALUE v.answer (clGetPlatformInfo host (some p) paramName) :=
      (responds_answerQuery hlookup htext.namesFit).mono fun w' hw' => ⟨rt', hw' ▸ hrun⟩
    rw [← platformText_ne_nil_iff host hlookup hrun]
    exact cStringLaw_iff_of_responds hresponds htext (s := w) rfl
  · intro ref device paramName property w v rt' hdevice hlookup hrun htext
    have hresponds : Responds (fun w' : World Dev => w'.runtime = w.runtime) World.buffers
        CL_SUCCESS CL_INVALID_VALUE v.answer (clGetDeviceInfo host (some ref) paramName) :=
      (responds_clGetDeviceInfo host hlookup htext.namesFit).mono
        fun w' hw' => ⟨hw' ▸ hdevice, rt', hw' ▸ hrun⟩
    refine (cStringLaw_iff_of_responds hresponds htext (s := w) rfl).mpr ?_
    exact deviceInfoCases_neverEmpty host device _ (mem_of_lookup hlookup) _ _ _ hrun

end Queries

/-- The name of the platform and the ILs of its device are C strings. -/
theorem cStringLaw_oneGPU :
    CStringLaw (fun _ => True) id (InfoValue.string CLPlatform.name).writeInfo ∧
      CStringLaw (fun w => w.runtime = {}) World.buffers
        (clGetPlatformInfo Host.oneGPU (some {}) CL_PLATFORM_NAME.toUInt32) ∧
      CStringLaw (fun w => w.runtime = { heap := [newDevice Host.oneGPU 0] }) World.buffers
        (clGetDeviceInfo Host.oneGPU (some 0) CL_DEVICE_IL_VERSION.toUInt32) := by
  rcases cStringLaw_iff Host.oneGPU with ⟨hwriter, hplatform, hdevice⟩
  refine ⟨(hwriter (.string CLPlatform.name) trivial).mpr (by rintro ⟨⟩), ?_, ?_⟩
  · exact (hplatform {} CL_PLATFORM_NAME.toUInt32 (pure (.string CLPlatform.name))
      (World.cleared {}) _ _ rfl rfl trivial).mpr (by decide)
  · exact hdevice 0 (newDevice Host.oneGPU 0) CL_DEVICE_IL_VERSION.toUInt32
      (pure (.arrayOfString CLDevice.ilVersions))
      (World.cleared { heap := [newDevice Host.oneGPU 0] }) _ _ rfl rfl rfl trivial

/-- The extensions of the platform have no NUL: the query succeeds with a size of zero
and leaves the buffer as it was. -/
theorem platformExtensions_unterminated :
    (∃ w', (clGetPlatformInfo Host.oneGPU (some {}) CL_PLATFORM_EXTENSIONS.toUInt32 0 (some 0)
        (some 0)).run { World.cleared {} with buffers := ⟨⟨fun _ => 1⟩, ⟨fun _ => 1⟩⟩ } =
          .ok (CL_SUCCESS, w') ∧
      w'.buffers.sizes.cell 0 = 0 ∧ ∀ a, w'.buffers.bytes.cell a = 1) ∧
    ¬ CStringLaw (fun _ => True) id (InfoValue.arrayOfString []).writeInfo ∧
    ¬ CStringLaw (fun w => w.runtime = {}) World.buffers
        (clGetPlatformInfo Host.oneGPU (some {}) CL_PLATFORM_EXTENSIONS.toUInt32) := by
  have hquery : Responds (fun w => w.runtime = {}) World.buffers CL_SUCCESS CL_INVALID_VALUE
      (InfoValue.answer (.arrayOfString []))
      (clGetPlatformInfo Host.oneGPU (some {}) CL_PLATFORM_EXTENSIONS.toUInt32) :=
    (responds_answerQuery (v := .arrayOfString []) (lookup_platformExtensions Host.oneGPU)
      trivial).mono fun w _ => ⟨w.runtime, rfl⟩
  refine ⟨?_, fun h => ?_, fun h => ?_⟩
  · rcases hquery 0 (some 0) (some 0)
      { World.cleared {} with buffers := ⟨⟨fun _ => 1⟩, ⟨fun _ => 1⟩⟩ } rfl with
      ⟨w', hrun, hbuffers⟩
    exact ⟨w', hrun, by rw [hbuffers]; rfl, by rw [hbuffers]; exact fun _ => rfl⟩
  · exact h.size_ne_zero (responds_writeInfo trivial) (s := ⟨⟨fun _ => 0⟩, ⟨fun _ => 0⟩⟩)
      trivial rfl
  · exact h.size_ne_zero hquery (s := World.cleared {}) rfl rfl

end MoltenCL
