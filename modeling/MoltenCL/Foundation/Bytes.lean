import Mathlib.Algebra.Group.Nat.Defs
import Mathlib.Data.List.TakeWhile
import MoltenCL.Foundation.Memory

/-! # Bytes

Two byte formats that meet in a C buffer:

* little-endian words, `leBytes` and its inverse `leValue`;
* C strings: what `strcpy` copies (`cString`, everything before the first NUL
  and one NUL) and what a reader of a `char *` sees (`readCString`).

`memcpy` reads its source as a list, and reading past the end of that list is
refused instead of being given a value.
-/

namespace Foundation

/-! ## Little-endian words -/

/-- The low `k` bytes of `v`, least significant first. -/
def leBytes : ℕ → ℕ → List UInt8
  | 0, _ => []
  | k + 1, v => UInt8.ofNat v :: leBytes k (v / 256)

/-- The number a little-endian byte list stands for. -/
def leValue : List UInt8 → ℕ
  | [] => 0
  | b :: bs => b.toNat + 256 * leValue bs

@[simp] theorem length_leBytes (k v : ℕ) : (leBytes k v).length = k := by
  induction k generalizing v with
  | zero => rfl
  | succ k ih => simp [leBytes, ih]

/-- Decoding `k` bytes of `v` gives `v` cut to `k` bytes. -/
theorem leValue_leBytes (k v : ℕ) : leValue (leBytes k v) = v % 256 ^ k := by
  induction k generalizing v with
  | zero => simp [leBytes, leValue, Nat.mod_one]
  | succ k ih =>
      have hb : (UInt8.ofNat v).toNat = v % 256 := by simp
      rw [leBytes, leValue, ih, hb, Nat.pow_succ, Nat.mul_comm (256 ^ k) 256,
        Nat.mod_mul]

/-! ## C strings -/

/-- The bytes before the first NUL. -/
def beforeNul (bs : List UInt8) : List UInt8 := bs.takeWhile (· ≠ 0)

/-- `strlen` of a byte source. -/
def strlen (bs : List UInt8) : ℕ := (beforeNul bs).length

/-- What `strcpy` copies from a byte source: up to the first NUL, and a NUL. -/
def cString (bs : List UInt8) : List UInt8 := beforeNul bs ++ [0]

@[simp] theorem length_cString (bs : List UInt8) : (cString bs).length = strlen bs + 1 := by
  simp [cString, strlen]

/-- The last byte of a C string is its NUL. -/
theorem cString_getElem?_strlen (bs : List UInt8) :
    (cString bs)[strlen bs]? = some 0 := by
  simp [cString, strlen]

theorem strlen_le_length (bs : List UInt8) : strlen bs ≤ bs.length :=
  (List.takeWhile_sublist _).length_le

/-- Without a NUL inside, nothing is cut. -/
theorem beforeNul_of_no_zero {bs : List UInt8} (h : (0 : UInt8) ∉ bs) : beforeNul bs = bs := by
  apply List.takeWhile_eq_self_iff.mpr
  intro b hb
  have hne : b ≠ 0 := fun h0 => h (h0 ▸ hb)
  simpa using hne

/-- A terminator behind the source does not change what is before the first NUL. -/
@[simp] theorem beforeNul_append_zero (bs : List UInt8) : beforeNul (bs ++ [0]) = beforeNul bs := by
  induction bs with
  | nil => simp [beforeNul]
  | cons b bs ih =>
      by_cases hb : b = 0
      · simp [beforeNul, hb]
      · have ih' : List.takeWhile (· ≠ 0) (bs ++ [0]) = List.takeWhile (· ≠ 0) bs := ih
        simp only [beforeNul, List.cons_append, List.takeWhile_cons]
        rw [ih']

/-- Read a C string at `a`, looking at no more than `limit` bytes. -/
def readCString (m : Memory UInt8) (a : ℕ) : ℕ → Option (List UInt8)
  | 0 => none
  | limit + 1 =>
      if m.cell a = 0 then some []
      else (readCString m (a + 1) limit).map (m.cell a :: ·)

/-- A reader of a C string looks at no byte beyond its limit. -/
theorem readCString_congr {m m' : Memory UInt8} {a limit : ℕ}
    (h : ∀ b ∈ Memory.span a limit, m.cell b = m'.cell b) :
    readCString m a limit = readCString m' a limit := by
  induction limit generalizing a with
  | zero => rfl
  | succ limit ih =>
      have hhere := h a (by simp)
      have htail := @ih (a + 1) fun b hb => h b (by simp only [Memory.mem_span] at hb ⊢; omega)
      rw [readCString, readCString, hhere, htail]

/-- A NUL in range ends the C string there. -/
theorem exists_readCString {m : Memory UInt8} {a limit : ℕ} (h : 0 ∈ m.load a limit) :
    ∃ bs, readCString m a limit = some bs := by
  induction limit generalizing a with
  | zero => simp [Memory.load] at h
  | succ limit ih =>
      by_cases hb : m.cell a = 0
      · exact ⟨[], by simp [readCString, hb]⟩
      · rw [Nat.add_comm, Memory.load_add, List.mem_append] at h
        rcases h with h | h
        · exact absurd (by simpa [Memory.load] using h : 0 = m.cell a).symm hb
        · rcases ih h with ⟨bs, hbs⟩
          exact ⟨m.cell a :: bs, by simp [readCString, hb, hbs]⟩

/-- Bytes without a NUL, with a NUL behind them, read back as a C string. -/
theorem readCString_of_load {m : Memory UInt8} {a limit : ℕ} {bs : List UInt8}
    (hload : m.load a (bs.length + 1) = bs ++ [0]) (hbs : (0 : UInt8) ∉ bs)
    (hlimit : bs.length < limit) : readCString m a limit = some bs := by
  have hcell : ∀ i, (h : i < (bs ++ [0]).length) → m.cell (a + i) = (bs ++ [0])[i] := by
    intro i h
    have hi : i < (m.load a (bs.length + 1)).length := by simpa using h
    rw [← Memory.load_get m a _ hi]
    simp only [hload]
  clear hload
  -- on the bytes, cell by cell: the load has served its purpose
  induction bs generalizing a limit with
  | nil =>
      have h0 := hcell 0 (by simp)
      cases limit with
      | zero => omega
      | succ limit => simpa [readCString] using h0
  | cons b bs ih =>
      have hb : m.cell a = b := by simpa using hcell 0 (by simp)
      have hb0 : b ≠ 0 := fun h => hbs (by simp [h])
      cases limit with
      | zero => simp at hlimit
      | succ limit =>
          have htail : readCString m (a + 1) limit = some bs := by
            refine ih (fun h => hbs (List.mem_cons_of_mem _ h)) (by simpa using hlimit) ?_
            intro i h
            have hi := hcell (i + 1) (by simpa using h)
            rw [show a + 1 + i = a + (i + 1) by omega, hi]
            simp
          simp [readCString, hb, hb0, htail]

/-! ## The C copy functions -/

/-- `strcpy(dst, src)`. -/
def strcpy (m : Memory UInt8) (dst : ℕ) (src : List UInt8) : Memory UInt8 :=
  m.storeList dst (cString src)

/-- `memcpy(dst, src, n)`: `none` where it would read past the end of `src`. -/
def memcpy (m : Memory UInt8) (dst : ℕ) (src : List UInt8) (n : ℕ) : Option (Memory UInt8) :=
  if n ≤ src.length then some (m.storeList dst (src.take n)) else none

theorem memcpy_of_le {m : Memory UInt8} {dst : ℕ} {src : List UInt8} {n : ℕ}
    (h : n ≤ src.length) : memcpy m dst src n = some (m.storeList dst (src.take n)) := by
  simp [memcpy, h]

end Foundation
