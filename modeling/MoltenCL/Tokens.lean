import MoltenCL.Strings

/-! # Names in a text

Extensions and ILs are queried as one text, and a client takes the names out of it by
splitting at the spaces. For names without a space the splitting undoes the joining
(`tokens_readBack`), so the text determines the list.
-/

namespace MoltenCL

open Foundation Swift

/-! ## Names -/

/-- The shape of a name: not empty, and every Character a byte other than the space and
the NUL. -/
structure IsName (s : SwiftString) : Prop where
  ne_nil : s.characters ≠ []
  single : ∀ c ∈ s.characters, c.utf8.length = 1
  no_space : ∀ c ∈ s.characters, c.utf8 ≠ [space]
  no_nul : ∀ c ∈ s.characters, c.utf8 ≠ [0]

/-- A byte that is no Character of a name does not occur in it. -/
theorem IsName.notMem_utf8 {s : SwiftString} (h : IsName s) {b : UInt8}
    (hb : ∀ c ∈ s.characters, c.utf8 ≠ [b]) : b ∉ s.utf8 := by
  intro hmem
  rcases List.mem_flatMap.mp hmem with ⟨c, hc, hbc⟩
  rcases List.length_eq_one_iff.mp (h.single c hc) with ⟨b', hb'⟩
  obtain rfl : b = b' := by simpa [hb'] using hbc
  exact hb c hc hb'

theorem IsName.utf8_ne_nil {s : SwiftString} (h : IsName s) : s.utf8 ≠ [] := by
  have hpos := List.length_pos_iff.mpr h.ne_nil
  have hcount := s.count_le_length_utf8
  apply List.length_pos_iff.mp
  exact lt_of_lt_of_le hpos hcount

/-- A list of names, as the extensions and the ILs of a device are. -/
structure IsNameList (value : List SwiftString) : Prop where
  ne_nil : value ≠ []
  names : ∀ element ∈ value, IsName element

/-! ## Reading the names -/

/-- The parts of a text between the spaces; the empty ones can be left out, as Swift's
`split(separator:)` does. -/
def splitAtSpaces (omittingEmpty : Bool) (text : List UInt8) : List (List UInt8) :=
  if omittingEmpty then (text.splitOn space).filter (· ≠ []) else text.splitOn space

/-- A client reads a C string and takes the names out of it. -/
def readNames (omittingEmpty : Bool) (m : Memory UInt8) (ptr limit : ℕ) :
    Option (List SwiftString) := do
  let text ← readCString m ptr limit
  (splitAtSpaces omittingEmpty text).mapM fun part =>
    (SwiftString.decodeUTF8 part).map SwiftString.ofScalars

/-- Joining adds nothing but separators. -/
theorem notMem_intercalate {x sep : UInt8} (hx : x ≠ sep) {parts : List (List UInt8)}
    (h : ∀ part ∈ parts, x ∉ part) : x ∉ [sep].intercalate parts := by
  induction parts with
  | nil => simp [List.intercalate_nil]
  | cons part rest ih =>
      rcases List.forall_mem_cons.mp h with ⟨hpart, hrest⟩
      cases rest with
      | nil => simpa [List.intercalate_singleton] using hpart
      | cons next rest =>
          rw [List.intercalate_cons_cons]
          simp only [List.mem_append, List.mem_singleton, not_or]
          exact ⟨⟨hpart, hx⟩, ih hrest⟩

section NameList

variable {value : List SwiftString}

/-- The text of a list of names, without its terminator. -/
def nameText (value : List SwiftString) : List UInt8 :=
  [space].intercalate (value.map SwiftString.utf8)

theorem IsNameList.single (h : IsNameList value) :
    ∀ element ∈ value, ∀ c ∈ element.characters, c.utf8.length = 1 :=
  fun element helement => (h.names element helement).single

theorem IsNameList.zero_notMem (h : IsNameList value) : (0 : UInt8) ∉ nameText value := by
  apply notMem_intercalate (by decide)
  intro part hpart
  rcases List.mem_map.mp hpart with ⟨element, helement, rfl⟩
  exact (h.names element helement).notMem_utf8 (h.names element helement).no_nul

/-- Splitting gives the names back: none is empty, and none holds a space. -/
theorem IsNameList.splitAtSpaces (h : IsNameList value) (omittingEmpty : Bool) :
    splitAtSpaces omittingEmpty (nameText value) = value.map SwiftString.utf8 := by
  have hspace : ∀ part ∈ value.map SwiftString.utf8, space ∉ part := by
    intro part hpart
    rcases List.mem_map.mp hpart with ⟨element, helement, rfl⟩
    exact (h.names element helement).notMem_utf8 (h.names element helement).no_space
  have hsplit : (nameText value).splitOn space = value.map SwiftString.utf8 :=
    List.splitOn_intercalate space hspace (by simpa using h.ne_nil)
  have hfilter : (value.map SwiftString.utf8).filter (· ≠ []) = value.map SwiftString.utf8 := by
    apply List.filter_eq_self.mpr
    intro part hpart
    rcases List.mem_map.mp hpart with ⟨element, helement, rfl⟩
    simpa using (h.names element helement).utf8_ne_nil
  cases omittingEmpty with
  | false => exact hsplit
  | true => simp only [MoltenCL.splitAtSpaces, hsplit, hfilter, if_true]

/-- Single-byte names decode to themselves. -/
theorem decode_names (h : ∀ element ∈ value, IsName element) :
    ((value.map SwiftString.utf8).mapM fun part =>
      (SwiftString.decodeUTF8 part).map SwiftString.ofScalars) = some value := by
  induction value with
  | nil => rfl
  | cons element rest ih =>
      rcases List.forall_mem_cons.mp h with ⟨helement, hrest⟩
      rw [List.map_cons, List.mapM_cons, ih hrest, SwiftString.decodeUTF8_utf8, Option.map_some,
        SwiftString.ofScalars_scalars helement.single]
      rfl

/-- A memory that holds the text and its terminator holds the names. -/
theorem IsNameList.readNames (h : IsNameList value) {m : Memory UInt8} {ptr : ℕ}
    (hload : m.load ptr (joinedLength value) = joinedUTF8 value) (omittingEmpty : Bool) :
    readNames omittingEmpty m ptr (joinedLength value) = some value := by
  have hlen : joinedLength value = (nameText value).length + 1 := by
    have hload' := congrArg List.length hload
    simpa [joinedUTF8, nameText] using hload'
  have htext : readCString m ptr (joinedLength value) = some (nameText value) := by
    rw [hlen] at hload ⊢
    exact readCString_of_load hload h.zero_notMem (Nat.lt_succ_self _)
  simp only [MoltenCL.readNames, htext, Option.bind_eq_bind, Option.bind_some,
    h.splitAtSpaces omittingEmpty, decode_names h.names]

end NameList

/-! ## The round trip -/

/-- **Names read back**: a successful call leaves a text that splits into the names of the
list, in order. Two lists that leave the same bytes are the same list. -/
theorem tokens_readBack {value : List SwiftString} (h : IsNameList value) :
    (∀ capacity ptr size b, (joinedLength value : ℤ) ≤ capacity →
      ∃ b', (writeInfoArrayOfString capacity (some ptr) size value).run b =
          .ok (CL_SUCCESS, b') ∧
        (∀ a, size = some a → b'.sizes.cell a = joinedLength value) ∧
        ∀ omittingEmpty,
          readNames omittingEmpty b'.bytes ptr (joinedLength value) = some value) ∧
    ∀ value', IsNameList value' → ∀ capacity capacity' ptr ptr' size size' b b' c c',
      (writeInfoArrayOfString capacity (some ptr) size value).run b = .ok (CL_SUCCESS, b') →
      (writeInfoArrayOfString capacity' (some ptr') size' value').run c = .ok (CL_SUCCESS, c') →
      b'.bytes.load ptr (joinedLength value) = c'.bytes.load ptr' (joinedLength value') →
        value = value' := by
  have hjoins := (joinsElements_iff h.ne_nil).mpr h.single
  constructor
  · intro capacity ptr size b hcapacity
    have hsize := (joinedSize_eq_iff value).mpr h.single
    have hrun := writeInfoArrayOfString_responds capacity (some ptr) size b value
    have hfits : ((InfoValue.arrayOfString value).answer.size : ℤ) ≤ capacity := by
      simpa [InfoValue.answer, hsize] using hcapacity
    rw [Answer.respond_fill _ _ _ _ _ _ hfits] at hrun
    refine ⟨_, hrun, ?_, ?_⟩
    · rintro a rfl
      exact hjoins.size _ _ _ _ _ _ hrun
    · intro omittingEmpty
      exact h.readNames (hjoins.content _ _ _ _ _ hrun) omittingEmpty
  · intro value' h' capacity capacity' ptr ptr' size size' b b' c c' hrun hrun' hload
    have hjoins' := (joinsElements_iff h'.ne_nil).mpr h'.single
    rw [hjoins.content _ _ _ _ _ hrun, hjoins'.content _ _ _ _ _ hrun'] at hload
    -- the same bytes are the same text, which splits into either list
    have htext : nameText value = nameText value' := List.append_cancel_right hload
    have hparts : value.map SwiftString.utf8 = value'.map SwiftString.utf8 := by
      rw [← h.splitAtSpaces false, ← h'.splitAtSpaces false, htext]
    have hnames := (decode_names h.names).symm.trans
      ((congrArg _ hparts).trans (decode_names h'.names))
    exact Option.some.inj hnames

/-- The ILs of a device read back. -/
theorem ilVersions_readBack :
    ∃ b', (writeInfoArrayOfString 19 (some 0) (some 0) CLDevice.ilVersions).run
        ⟨⟨fun _ => 1⟩, ⟨fun _ => 0⟩⟩ = .ok (CL_SUCCESS, b') ∧
      (∀ a, some 0 = some a → b'.sizes.cell a = joinedLength CLDevice.ilVersions) ∧
      ∀ omittingEmpty, readNames omittingEmpty b'.bytes 0 (joinedLength CLDevice.ilVersions) =
        some CLDevice.ilVersions := by
  have hnames : ∀ element ∈ CLDevice.ilVersions, element.characters ≠ [] ∧
      ∀ c ∈ element.characters, c.utf8.length = 1 ∧ c.utf8 ≠ [space] ∧ c.utf8 ≠ [0] := by decide
  have hlist : IsNameList CLDevice.ilVersions := by
    refine ⟨List.cons_ne_nil _ _, fun element helement => ?_⟩
    rcases hnames element helement with ⟨hne, hbytes⟩
    exact ⟨hne, fun c hc => (hbytes c hc).1, fun c hc => (hbytes c hc).2.1,
      fun c hc => (hbytes c hc).2.2⟩
  exact (tokens_readBack hlist).1 19 0 (some 0) _ (by decide)

end MoltenCL
