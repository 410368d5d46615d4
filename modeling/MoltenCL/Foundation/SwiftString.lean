import Mathlib.Data.List.Basic
import MoltenCL.Foundation.Bytes

/-! # Swift strings

A Swift `String` is a collection of `Character`s, and a `Character` is one or
more Unicode scalars that belong together (an extended grapheme cluster). Its
`count` is the number of Characters, while its storage is UTF-8, so the two
lengths differ as soon as a Character needs more than one byte: an accented
letter, an emoji, or the pair CR LF.

The model keeps the Characters: `count` is the length of the list and the UTF-8
view encodes the scalars in order.
-/

namespace Foundation

/-- An extended grapheme cluster: at least one Unicode scalar. -/
structure Character where
  scalars : List Char
  scalars_ne_nil : scalars ≠ []
deriving DecidableEq

namespace Character

/-- The UTF-8 bytes of the Character. -/
def utf8 (c : Character) : List UInt8 := c.scalars.flatMap String.utf8EncodeChar

/-- A Character of a single scalar. -/
def ofScalar (s : Char) : Character := ⟨[s], by simp⟩

/-- Every Character takes at least one byte. -/
theorem one_le_length_utf8 (c : Character) : 1 ≤ c.utf8.length := by
  rcases c with ⟨scalars, hne⟩
  cases scalars with
  | nil => exact absurd rfl hne
  | cons s rest =>
      have hpos := Char.utf8Size_pos s
      simp only [utf8, List.flatMap_cons, List.length_append, String.length_utf8EncodeChar]
      omega

/-- A Character of one byte has a single scalar. -/
theorem eq_ofScalar {c : Character} (h : c.utf8.length = 1) : ∃ s, c = ofScalar s := by
  rcases c with ⟨scalars, hne⟩
  match scalars with
  | [] => exact absurd rfl hne
  | [s] => exact ⟨s, rfl⟩
  | s :: t :: rest =>
      have hs := Char.utf8Size_pos s
      have ht := Char.utf8Size_pos t
      simp only [utf8, List.flatMap_cons, List.length_append, String.length_utf8EncodeChar] at h
      omega

end Character

/-- A Swift `String`, as the collection of its Characters. -/
structure SwiftString where
  characters : List Character
deriving DecidableEq

namespace SwiftString

/-- `count`: the number of Characters. -/
def count (s : SwiftString) : ℕ := s.characters.length

/-- The Unicode scalars in order. -/
def scalars (s : SwiftString) : List Char := s.characters.flatMap Character.scalars

/-- The UTF-8 view. -/
def utf8 (s : SwiftString) : List UInt8 := s.characters.flatMap Character.utf8

/-- `utf8CString`: the UTF-8 bytes with a NUL behind them. -/
def utf8CString (s : SwiftString) : List UInt8 := s.utf8 ++ [0]

/-- The text of a literal in which every scalar is a Character of its own. -/
def ofLiteral (text : String) : SwiftString := ⟨text.toList.map Character.ofScalar⟩

/-- The text in which every scalar is a Character of its own. -/
def ofScalars (scalars : List Char) : SwiftString := ⟨scalars.map Character.ofScalar⟩

@[simp] theorem length_utf8CString (s : SwiftString) :
    s.utf8CString.length = s.utf8.length + 1 := by
  simp [utf8CString]

@[simp] theorem cString_utf8CString (s : SwiftString) : cString s.utf8CString = cString s.utf8 := by
  simp [cString, utf8CString]

/-- The UTF-8 view encodes the scalars one by one. -/
theorem utf8_eq_scalars (s : SwiftString) : s.utf8 = s.scalars.flatMap String.utf8EncodeChar := by
  simp only [utf8, scalars, List.flatMap_assoc]
  rfl

/-- No string has more Characters than bytes. -/
theorem count_le_length_utf8 (s : SwiftString) : s.count ≤ s.utf8.length := by
  rcases s with ⟨characters⟩
  simp only [count, utf8]
  induction characters with
  | nil => simp
  | cons c rest ih =>
      have hc := c.one_le_length_utf8
      simp only [List.length_cons, List.flatMap_cons, List.length_append]
      omega

/-- The two lengths agree exactly on strings of single-byte Characters. -/
theorem count_eq_length_utf8_iff (s : SwiftString) :
    s.count = s.utf8.length ↔ ∀ c ∈ s.characters, c.utf8.length = 1 := by
  rcases s with ⟨characters⟩
  simp only [count, utf8]
  induction characters with
  | nil => simp
  | cons c rest ih =>
      have hc := c.one_le_length_utf8
      have hrest : rest.length ≤ (rest.flatMap Character.utf8).length :=
        count_le_length_utf8 ⟨rest⟩
      simp only [List.length_cons, List.flatMap_cons, List.length_append, List.mem_cons,
        forall_eq_or_imp]
      rw [← ih]
      omega

/-- A string of single-byte Characters is determined by its scalars. -/
theorem ofScalars_scalars {s : SwiftString} (h : ∀ c ∈ s.characters, c.utf8.length = 1) :
    ofScalars s.scalars = s := by
  rcases s with ⟨characters⟩
  simp only [ofScalars, scalars, SwiftString.mk.injEq]
  induction characters with
  | nil => rfl
  | cons c rest ih =>
      rcases List.forall_mem_cons.mp h with ⟨hc, hrest⟩
      rcases Character.eq_ofScalar hc with ⟨x, rfl⟩
      rw [List.flatMap_cons, List.map_append, ih hrest]
      rfl

/-- A zero byte in the UTF-8 form comes from the scalar U+0000: every byte of a
longer encoding carries a marker bit. -/
theorem zero_mem_utf8EncodeChar {c : Char} (h : (0 : UInt8) ∈ String.utf8EncodeChar c) :
    c.val = 0 := by
  have hlt : c.val.toNat < 1114112 := by
    rcases c.valid with hv | hv
    · exact Nat.lt_trans hv (by decide)
    · exact hv.2
  -- a byte of a longer encoding is at least 128, and below 256
  have hmarked : ∀ n : ℕ, 0 < n → n < 256 → (0 : UInt8) ≠ UInt8.ofNat n := by
    intro n hpos hn hz
    have hz' := congrArg UInt8.toNat hz
    simp only [UInt8.toNat_ofNat, UInt8.toNat_ofNat'] at hz'
    omega
  by_contra hne
  have hpos : 0 < c.val.toNat := Nat.pos_of_ne_zero fun h0 => hne (UInt32.toNat_inj.mp h0)
  simp only [String.utf8EncodeChar] at h
  split_ifs at h with h1 h2 h3
  all_goals simp only [List.mem_cons, List.not_mem_nil, or_false] at h
  · exact absurd h (hmarked _ hpos (by omega))
  · rcases h with h | h <;> exact absurd h (hmarked _ (by omega) (by omega))
  · rcases h with h | h | h <;> exact absurd h (hmarked _ (by omega) (by omega))
  · rcases h with h | h | h | h <;> exact absurd h (hmarked _ (by omega) (by omega))

/-- U+0000. -/
def nul : Char := Char.ofNat 0

/-- A string without U+0000 has no zero byte. -/
theorem zero_notMem_utf8 {s : SwiftString} (h : nul ∉ s.scalars) : (0 : UInt8) ∉ s.utf8 := by
  rw [utf8_eq_scalars, List.mem_flatMap]
  intro h
  rcases h with ⟨c, hc, h0⟩
  have hnul : c = nul := Char.ext (zero_mem_utf8EncodeChar h0)
  exact h (hnul ▸ hc)

/-- `String(cString:)` on a byte list without NUL: decode the UTF-8 form. -/
def decodeUTF8 (bs : List UInt8) : Option (List Char) :=
  (ByteArray.utf8Decode? bs.toByteArray).map Array.toList

/-- The UTF-8 form decodes to the scalars it came from. -/
theorem decodeUTF8_utf8 (s : SwiftString) : decodeUTF8 s.utf8 = some s.scalars := by
  have henc : s.utf8.toByteArray = s.scalars.utf8Encode := by
    rw [utf8_eq_scalars, List.utf8Encode]
  rw [decodeUTF8, henc, List.utf8Decode?_utf8Encode]
  rfl

end SwiftString

end Foundation
