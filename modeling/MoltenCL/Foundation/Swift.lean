import Mathlib.Algebra.Group.Int.Defs
import Mathlib.Logic.Basic
import Mathlib.Data.Int.Notation
import Mathlib.Data.Nat.Notation

/-! # Swift computations

A Swift function reads and changes the state of its process and either returns
or traps: `fatalError`, a failed `precondition`, the unwrapping of `nil`, an
integer conversion that does not fit. A trap ends the process, so no state is
kept with it. `Swift σ α` is that computation over a state `σ`.

On top of it:

* `Slot`: a part of the state, with the lens laws as fields;
* `within`: a computation over a part, run in the whole state;
* `once`: the lazily initialised `static let` of Swift, whose initialiser runs
  on the first access and never again.
-/

namespace Foundation

/-- The ways a Swift process is stopped. -/
inductive Trap where
  | fatalError (message : String)
  | precondition (message : String)
  | unexpectedlyNil
  | notRepresentable
  | divisionByZero
  | outOfBoundsRead
  | danglingReference
deriving DecidableEq, Repr

/-- A Swift computation over the state `σ`. -/
abbrev Swift (σ : Type) := StateT σ (Except Trap)

namespace Swift

variable {σ τ α β : Type}

@[simp] theorem ok_bind (a : α) (f : α → Except Trap β) : (Except.ok a >>= f) = f a := rfl

@[simp] theorem error_bind (e : Trap) (f : α → Except Trap β) :
    (Except.error e >>= f) = Except.error e := rfl

@[simp] theorem map_ok (f : α → β) (a : α) : f <$> (Except.ok a : Except Trap α) = .ok (f a) := rfl

@[simp] theorem run_throw (e : Trap) (s : σ) : (throw e : Swift σ α).run s = Except.error e := rfl

@[simp] theorem throw_eq_error (e : Trap) : (throw e : Except Trap α) = Except.error e := rfl

theorem pure_eq_ok (a : α) : (pure a : Except Trap α) = Except.ok a := rfl

/-- A sequence returns exactly when both of its halves do. -/
theorem run_bind_eq_ok {x : Swift σ α} {f : α → Swift σ β} {s : σ} {r : β × σ} :
    (x >>= f).run s = .ok r ↔ ∃ a s', x.run s = .ok (a, s') ∧ (f a).run s' = .ok r := by
  rw [StateT.run_bind]
  constructor
  · intro h
    cases hx : x.run s with
    | error e => simp [hx] at h
    | ok p => exact ⟨p.1, p.2, rfl, by simpa [hx] using h⟩
  · intro h
    rcases h with ⟨a, s', hx, hf⟩
    simpa [hx] using hf

/-- Mapping the value changes no trap. -/
theorem run_map_eq_error {x : Swift σ α} {f : α → β} {s : σ} {e : Trap} :
    (f <$> x).run s = .error e ↔ x.run s = .error e := by
  rw [StateT.run_map]
  cases x.run s with
  | error e' => simp [Functor.map, Except.map]
  | ok p => simp [Functor.map, Except.map]

/-- A mapped value is the value of a value, in the same state. -/
theorem run_map_eq_ok_iff {x : Swift σ α} {f : α → β} {s t : σ} {b : β} :
    (f <$> x).run s = .ok (b, t) ↔ ∃ a, x.run s = .ok (a, t) ∧ f a = b := by
  rw [StateT.run_map]
  cases x.run s with
  | error e => simp [Functor.map, Except.map]
  | ok p =>
      simp only [Functor.map, Except.map, Except.ok.injEq, Prod.mk.injEq]
      constructor
      · rintro ⟨rfl, rfl⟩
        exact ⟨p.1, rfl, rfl⟩
      · rintro ⟨a, rfl, rfl⟩
        exact ⟨rfl, rfl⟩

/-- A mapped value comes from a value. -/
theorem run_of_map {x : Swift σ α} {f : α → β} {s t : σ} {b : β}
    (h : (f <$> x).run s = .ok (b, t)) : ∃ a, x.run s = .ok (a, t) := by
  rcases run_map_eq_ok_iff.mp h with ⟨a, hrun, -⟩
  exact ⟨a, hrun⟩

/-- A mapped computation returns exactly when the computation does. -/
theorem run_map_returns_iff {x : Swift σ α} {f : α → β} {s : σ} :
    (∃ b t, (f <$> x).run s = .ok (b, t)) ↔ ∃ a t, x.run s = .ok (a, t) := by
  rw [StateT.run_map]
  cases x.run s with
  | error e => simp [Functor.map, Except.map]
  | ok p => exact iff_of_true ⟨_, _, rfl⟩ ⟨_, _, rfl⟩

/-- What the unwrapping `!` does. -/
def unwrap : Option α → Swift σ α
  | some a => pure a
  | none => throw .unexpectedlyNil

/-- The exact conversion `UInt32(x)`. -/
def toUInt32 (x : ℤ) : Swift σ UInt32 :=
  if 0 ≤ x ∧ x < 2 ^ 32 then pure (UInt32.ofNat x.toNat) else throw .notRepresentable

/-- The exact conversion `UInt64(x)`. -/
def toUInt64 (x : ℤ) : Swift σ UInt64 :=
  if 0 ≤ x ∧ x < 2 ^ 64 then pure (UInt64.ofNat x.toNat) else throw .notRepresentable

/-! ## What a computation respects -/

/-- Whenever `x` returns, it has kept the invariant `Inv` and moved the state
along the relation `R`. -/
def Respects (Inv : σ → Prop) (R : σ → σ → Prop) (x : Swift σ α) : Prop :=
  ∀ s a s', Inv s → x.run s = .ok (a, s') → Inv s' ∧ R s s'

section Respects

variable {Inv : σ → Prop} {R : σ → σ → Prop}

theorem respects_pure (hrefl : ∀ s, R s s) (a : α) : Respects Inv R (pure a : Swift σ α) := by
  intro s b s' hs h
  obtain ⟨rfl, rfl⟩ : a = b ∧ s = s' := by simpa [pure_eq_ok] using h
  exact ⟨hs, hrefl s⟩

/-- A trap respects everything, since it leaves no state. -/
theorem respects_throw (e : Trap) : Respects Inv R (throw e : Swift σ α) := by
  intro s a s' _ h
  simp at h

/-- A sequence respects what its halves respect. -/
theorem Respects.bind (htrans : ∀ s t u, R s t → R t u → R s u) {x : Swift σ α}
    {f : α → Swift σ β} (hx : Respects Inv R x) (hf : ∀ a, Respects Inv R (f a)) :
    Respects Inv R (x >>= f) := by
  intro s b s' hs h
  rcases run_bind_eq_ok.mp h with ⟨a, t, hxa, hfa⟩
  rcases hx s a t hs hxa with ⟨ht, hR⟩
  rcases hf a t b s' ht hfa with ⟨hs', hR'⟩
  exact ⟨hs', htrans s t s' hR hR'⟩

/-- Mapping the value changes nothing about the state. -/
theorem Respects.map {x : Swift σ α} (hx : Respects Inv R x) (f : α → β) :
    Respects Inv R (f <$> x) := by
  intro s b s' hs h
  rw [StateT.run_map] at h
  cases hxs : x.run s with
  | error e => simp [hxs, Functor.map, Except.map] at h
  | ok p =>
      rcases p with ⟨a, t⟩
      obtain ⟨-, rfl⟩ : f a = b ∧ t = s' := by simpa [hxs] using h
      exact hx s a t hs hxs

/-- A computation that leaves a part of the state alone respects everything about
that part. -/
theorem respects_of_frame (part : σ → τ) {Inv : τ → Prop} {R : τ → τ → Prop}
    (hrefl : ∀ t, R t t) {x : Swift σ α} (hx : ∀ s a s', x.run s = .ok (a, s') → part s' = part s) :
    Respects (fun s => Inv (part s)) (fun s s' => R (part s) (part s')) x := by
  intro s a s' hs h
  show Inv (part s') ∧ R (part s) (part s')
  rw [hx s a s' h]
  exact ⟨hs, hrefl _⟩

end Respects

/-! ## Parts of the state -/

/-- A part of a state: how to read it and how to replace it. -/
structure Slot (σ τ : Type) where
  get : σ → τ
  put : τ → σ → σ
  get_put : ∀ t s, get (put t s) = t
  put_put : ∀ t u s, put t (put u s) = put t s
  put_get : ∀ s, put (get s) s = s

/-- Run a computation over a part of the state. -/
def within (slot : Slot σ τ) (x : Swift τ α) : Swift σ α := do
  let s ← get
  match x.run (slot.get s) with
  | .ok (a, t) => set (slot.put t s); pure a
  | .error e => throw e

theorem run_within_ok (slot : Slot σ τ) {x : Swift τ α} {s : σ} {a : α} {t : τ}
    (h : x.run (slot.get s) = .ok (a, t)) :
    (within slot x).run s = .ok (a, slot.put t s) := by
  simp [within, h, pure_eq_ok]

theorem run_within_error (slot : Slot σ τ) {x : Swift τ α} {s : σ} {e : Trap}
    (h : x.run (slot.get s) = .error e) : (within slot x).run s = .error e := by
  simp [within, h, pure_eq_ok]

/-- A computation over a part returns what it returns there. -/
theorem run_within_eq_ok {slot : Slot σ τ} {x : Swift τ α} {s s' : σ} {a : α} :
    (within slot x).run s = .ok (a, s') ↔
      ∃ t, x.run (slot.get s) = .ok (a, t) ∧ s' = slot.put t s := by
  cases hx : x.run (slot.get s) with
  | error e => simp [run_within_error slot hx]
  | ok p =>
      rcases p with ⟨b, t⟩
      rw [run_within_ok slot hx]
      simp only [Except.ok.injEq, Prod.mk.injEq]
      constructor
      · intro h
        rcases h with ⟨rfl, rfl⟩
        exact ⟨t, ⟨rfl, rfl⟩, rfl⟩
      · intro h
        rcases h with ⟨u, ⟨rfl, rfl⟩, rfl⟩
        exact ⟨rfl, rfl⟩

/-- What is respected over the part is respected of the part. -/
theorem respects_within (slot : Slot σ τ) {Inv : τ → Prop} {R : τ → τ → Prop} {x : Swift τ α}
    (hx : Respects Inv R x) :
    Respects (fun s => Inv (slot.get s)) (fun s s' => R (slot.get s) (slot.get s'))
      (within slot x) := by
  intro s a s' hs h
  rcases run_within_eq_ok.mp h with ⟨t, hrun, rfl⟩
  show Inv (slot.get (slot.put t s)) ∧ R (slot.get s) (slot.get (slot.put t s))
  rw [slot.get_put]
  exact hx _ a t hs hrun

/-! ## Lazily initialised statics -/

/-- Access to a `static let` held in `cell`: the first access runs `initialiser`
and keeps its value, every later access returns that value. -/
def once (cell : Slot σ (Option α)) (initialiser : Swift σ α) : Swift σ α := do
  match cell.get (← get) with
  | some a => pure a
  | none =>
      let a ← initialiser
      modify (cell.put (some a))
      pure a

section Once

variable {cell : Slot σ (Option α)} {initialiser : Swift σ α} {s s' : σ} {a : α}

/-- An initialised static is only read. -/
theorem once_of_some (h : cell.get s = some a) : (once cell initialiser).run s = .ok (a, s) := by
  simp [once, h, pure_eq_ok]

/-- The first access is the initialiser's run, kept in the cell. -/
theorem once_of_none (h : cell.get s = none) :
    (once cell initialiser).run s = .ok (a, s') ↔
      ∃ t, initialiser.run s = .ok (a, t) ∧ s' = cell.put (some a) t := by
  cases hi : initialiser.run s with
  | error e => simp [once, h, hi, pure_eq_ok]
  | ok p =>
      rcases p with ⟨b, t⟩
      simp only [once, StateT.run_bind, StateT.run_get, pure_eq_ok, ok_bind, h, hi,
        StateT.run_modify, StateT.run_pure, Except.ok.injEq, Prod.mk.injEq]
      constructor
      · intro h
        rcases h with ⟨rfl, rfl⟩
        exact ⟨t, ⟨rfl, rfl⟩, rfl⟩
      · intro h
        rcases h with ⟨u, ⟨rfl, rfl⟩, rfl⟩
        exact ⟨rfl, rfl⟩

/-- The first access traps as the initialiser does. -/
theorem once_error {e : Trap} (h : cell.get s = none) (hi : initialiser.run s = .error e) :
    (once cell initialiser).run s = .error e := by
  simp [once, h, hi, pure_eq_ok]

/-- An access reads the kept value, or runs the initialiser and keeps its value. -/
theorem once_eq_ok :
    (once cell initialiser).run s = .ok (a, s') ↔
      (cell.get s = some a ∧ s' = s) ∨
      (cell.get s = none ∧ ∃ t, initialiser.run s = .ok (a, t) ∧ s' = cell.put (some a) t) := by
  cases hc : cell.get s with
  | some b =>
      rw [once_of_some hc]
      simp [eq_comm]
  | none =>
      rw [once_of_none hc]
      simp

/-- After an access the static is initialised, with the value returned. -/
theorem get_of_once (h : (once cell initialiser).run s = .ok (a, s')) :
    cell.get s' = some a := by
  cases hc : cell.get s with
  | some b =>
      rw [once_of_some hc] at h
      obtain ⟨rfl, rfl⟩ : b = a ∧ s = s' := by simpa using h
      exact hc
  | none =>
      rcases (once_of_none hc).mp h with ⟨t, -, rfl⟩
      exact cell.get_put _ _

/-- A second access returns the same value and changes nothing. -/
theorem once_again (h : (once cell initialiser).run s = .ok (a, s')) :
    (once cell initialiser).run s' = .ok (a, s') :=
  once_of_some (get_of_once h)

end Once

end Swift

end Foundation
