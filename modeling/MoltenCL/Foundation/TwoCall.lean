import MoltenCL.Foundation.Memory
import MoltenCL.Foundation.Swift

/-! # The two-call query protocol

A C query that returns data of unknown size is called twice: once without a
buffer, to learn the size, and once with a buffer of that size. One function
serves both calls. It takes a capacity, an optional pointer to the buffer and an
optional pointer to a size cell.

* `Answer` is what a query has to say: a size, and how it fills a buffer.
* `Answer.respond` is the protocol itself, over any status type.
* `TwoCallLaw` is what a client relies on, for any stateful implementation, and
  `TwoCallLaw.sizeThenFetch` is the idiom it makes safe.
* `Responds` says that an implementation is the protocol applied to one answer, and
  `Responds.twoCallLaw` is the rule that gives it the law.

The bytes of the values and the cells for the sizes are two memories. So a caller is assumed to
pass pointers to separate, aligned storage: a size cell inside the buffer is not modelled.
-/

namespace Foundation

/-- The client memory a query may write: the bytes behind `value` pointers and
the cells behind `size` pointers. -/
@[ext] structure Buffers where
  bytes : Memory UInt8
  sizes : Memory ℤ

/-- The answer to a query: its size in bytes and its effect on a buffer. -/
structure Answer where
  size : ℕ
  fill : ℕ → Memory UInt8 → Memory UInt8

variable {S σ : Type}

/-- Store a size through an optional pointer. -/
def Buffers.report (b : Buffers) (sizePtr : Option ℕ) (n : ℤ) : Buffers :=
  match sizePtr with
  | some a => { b with sizes := b.sizes.store a n }
  | none => b

@[simp] theorem Buffers.report_bytes (b : Buffers) (sizePtr : Option ℕ) (n : ℤ) :
    (b.report sizePtr n).bytes = b.bytes := by
  cases sizePtr <;> rfl

@[simp] theorem Buffers.report_some (b : Buffers) (a : ℕ) (n : ℤ) :
    (b.report (some a) n).sizes.cell a = n := by
  simp [report]

@[simp] theorem Buffers.report_none (b : Buffers) (n : ℤ) : b.report none n = b := rfl

/-- The protocol: report the size, refuse a buffer that is too short, fill the
buffer otherwise. -/
def Answer.respond (answer : Answer) (ok short : S) (capacity : ℤ)
    (value size : Option ℕ) (b : Buffers) : S × Buffers :=
  let reported := b.report size answer.size
  match value with
  | none => (ok, reported)
  | some a =>
      if capacity < answer.size then (short, reported)
      else (ok, { reported with bytes := answer.fill a reported.bytes })

namespace Answer

variable (answer : Answer) (ok short : S) (capacity : ℤ) (size : Option ℕ) (b : Buffers)

@[simp] theorem respond_none :
    answer.respond ok short capacity none size b = (ok, b.report size answer.size) := rfl

/-- A buffer that is too short is left alone. -/
theorem respond_short {a : ℕ} (h : capacity < answer.size) :
    answer.respond ok short capacity (some a) size b = (short, b.report size answer.size) := by
  simp [respond, h]

/-- A buffer that is long enough is filled. -/
theorem respond_fill {a : ℕ} (h : answer.size ≤ capacity) :
    answer.respond ok short capacity (some a) size b =
      (ok, { b.report size answer.size with bytes := answer.fill a b.bytes }) := by
  simp [respond, not_lt.mpr h]

/-- Every response stores the size. -/
theorem respond_sizes {value : Option ℕ} {a : ℕ} {status : S} {b' : Buffers}
    (h : answer.respond ok short capacity value (some a) b = (status, b')) :
    b'.sizes.cell a = answer.size := by
  obtain rfl : (answer.respond ok short capacity value (some a) b).2 = b' := congrArg Prod.snd h
  cases value with
  | none => simp
  | some ptr =>
      by_cases hc : capacity < answer.size
      · rw [respond_short _ _ _ _ _ _ hc, Buffers.report_some]
      · rw [respond_fill _ _ _ _ _ _ (not_lt.mp hc), Buffers.report_some]

/-- A response that is not the refusal, to a call with a buffer, filled it. -/
theorem respond_ok {ok short : S} (hne : ok ≠ short) {a : ℕ} {b' : Buffers}
    (h : answer.respond ok short capacity (some a) size b = (ok, b')) :
    answer.size ≤ capacity ∧ b'.bytes = answer.fill a b.bytes := by
  by_cases hc : capacity < answer.size
  · rw [respond_short answer ok short capacity size b hc] at h
    exact absurd (congrArg Prod.fst h).symm hne
  · rw [respond_fill answer ok short capacity size b (not_lt.mp hc)] at h
    rcases Prod.mk.inj h with ⟨-, rfl⟩
    exact ⟨not_lt.mp hc, rfl⟩

/-- A response that is not a success is the refusal, and has only reported the size. -/
theorem respond_refuses {ok short status : S} {value : Option ℕ} {b' : Buffers}
    (h : answer.respond ok short capacity value size b = (status, b')) (hne : status ≠ ok) :
    status = short ∧ b' = b.report size answer.size := by
  cases value with
  | none => exact absurd (congrArg Prod.fst h).symm hne
  | some a =>
      by_cases hc : capacity < answer.size
      · rw [respond_short answer ok short capacity size b hc] at h
        rcases Prod.mk.inj h with ⟨rfl, rfl⟩
        exact ⟨rfl, rfl⟩
      · rw [respond_fill answer ok short capacity size b (not_lt.mp hc)] at h
        exact absurd (congrArg Prod.fst h).symm hne

end Answer

/-! ## The law -/

/-- From every `ready` state a call returns, stays `ready`, and

* stores `n` behind the size pointer,
* returns `short` exactly for a buffer smaller than `n`, and then leaves every
  byte as it was,
* returns `ok` otherwise. -/
def TwoCallLaw (ready : σ → Prop) (view : σ → Buffers) (ok short : S) (n : ℕ)
    (call : ℤ → Option ℕ → Option ℕ → Swift σ S) : Prop :=
  ∀ capacity value size s, ready s →
    ∃ status s', (call capacity value size).run s = .ok (status, s') ∧ ready s' ∧
      (∀ a, size = some a → (view s').sizes.cell a = n) ∧
      (status = short ↔ value ≠ none ∧ capacity < n) ∧
      (status = short → (view s').bytes = (view s).bytes) ∧
      (status ≠ short → status = ok)

/-- The idiom: ask for the size without a buffer, then fetch with a buffer of
the size reported. Neither call is refused. -/
def SizeThenFetch (view : σ → Buffers) (ok : S) (call : ℤ → Option ℕ → Option ℕ → Swift σ S)
    (s : σ) : Prop :=
  ∀ capacity a, ∃ s₁, (call capacity none (some a)).run s = .ok (ok, s₁) ∧
    ∀ value size, ∃ s₂,
      (call ((view s₁).sizes.cell a) (some value) size).run s₁ = .ok (ok, s₂)

/-- The law makes the idiom safe. -/
theorem TwoCallLaw.sizeThenFetch {ready : σ → Prop} {view : σ → Buffers} {ok short : S} {n : ℕ}
    {call : ℤ → Option ℕ → Option ℕ → Swift σ S} (h : TwoCallLaw ready view ok short n call)
    {s : σ} (hs : ready s) : SizeThenFetch view ok call s := by
  intro capacity a
  rcases h capacity none (some a) s hs with ⟨status, s₁, hrun, hready, hsize, hshort, -, hok⟩
  have hne : status ≠ short := fun hst => (hshort.mp hst).1 rfl
  obtain rfl : status = ok := hok hne
  refine ⟨s₁, hrun, ?_⟩
  intro value size
  rw [hsize a rfl]
  rcases h n (some value) size s₁ hready with ⟨status₂, s₂, hrun₂, -, -, hshort₂, -, hok₂⟩
  -- the capacity is the size itself, so the call cannot be refused
  have hne₂ : status₂ ≠ short := fun hst => lt_irrefl _ (hshort₂.mp hst).2
  obtain rfl := hok₂ hne₂
  exact ⟨s₂, hrun₂⟩

/-- From every `ready` state a call responds with one fixed answer. -/
def Responds (ready : σ → Prop) (view : σ → Buffers) (ok short : S) (answer : Answer)
    (call : ℤ → Option ℕ → Option ℕ → Swift σ S) : Prop :=
  ∀ capacity value size s, ready s → ∃ s',
    (call capacity value size).run s =
      .ok ((answer.respond ok short capacity value size (view s)).1, s') ∧
    view s' = (answer.respond ok short capacity value size (view s)).2

theorem Responds.mono {ready ready' : σ → Prop} {view : σ → Buffers} {ok short : S}
    {answer : Answer} {call : ℤ → Option ℕ → Option ℕ → Swift σ S}
    (h : Responds ready view ok short answer call) (himp : ∀ s, ready' s → ready s) :
    Responds ready' view ok short answer call :=
  fun capacity value size s hs => h capacity value size s (himp s hs)

/-- A fetch is refused exactly if its capacity is smaller than the answer. -/
theorem Responds.refused_iff {ready : σ → Prop} {view : σ → Buffers} {ok short : S}
    {answer : Answer} {call : ℤ → Option ℕ → Option ℕ → Swift σ S}
    (h : Responds ready view ok short answer call) (hne : ok ≠ short) {s : σ} (hs : ready s)
    (capacity : ℤ) (a : ℕ) (size : Option ℕ) :
    (∃ s', (call capacity (some a) size).run s = .ok (short, s')) ↔ capacity < answer.size := by
  rcases h capacity (some a) size s hs with ⟨t, hrun, -⟩
  rw [hrun]
  by_cases hc : capacity < answer.size
  · rw [Answer.respond_short _ _ _ _ _ _ hc]
    exact iff_of_true ⟨t, rfl⟩ hc
  · rw [Answer.respond_fill _ _ _ _ _ _ (not_lt.mp hc)]
    refine iff_of_false ?_ hc
    rintro ⟨s', heq⟩
    exact hne (Prod.mk.inj (Except.ok.inj heq)).1

/-- An implementation that responds with one fixed answer, and stays ready to,
obeys the law. -/
theorem Responds.twoCallLaw {ready : σ → Prop} {view : σ → Buffers} {ok short : S}
    {answer : Answer} {call : ℤ → Option ℕ → Option ℕ → Swift σ S}
    (h : Responds ready view ok short answer call) (hne : ok ≠ short)
    (hready : ∀ capacity value size s status s', ready s →
      (call capacity value size).run s = .ok (status, s') → ready s') :
    TwoCallLaw ready view ok short answer.size call := by
  intro capacity value size s hs
  rcases h capacity value size s hs with ⟨s', hrun, hview⟩
  refine ⟨_, s', hrun, hready _ _ _ _ _ _ hs hrun, ?_⟩
  rw [hview]
  cases value with
  | none => exact ⟨by rintro a rfl; simp, by simp [hne], by simp [hne], by simp⟩
  | some p =>
      by_cases hc : capacity < answer.size
      · rw [Answer.respond_short _ _ _ _ _ _ hc]
        exact ⟨by rintro a rfl; simp, by simp [hc], by simp, by simp⟩
      · rw [Answer.respond_fill _ _ _ _ _ _ (not_lt.mp hc)]
        exact ⟨by rintro a rfl; simp, by simp [hne, hc], by simp [hne], by simp⟩

end Foundation
