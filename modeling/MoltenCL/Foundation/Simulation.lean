import Mathlib.Data.List.Forall2
import MoltenCL.Foundation.Enumeration
import MoltenCL.Foundation.Memory
import MoltenCL.Foundation.Swift

/-! # Simulation

Two machines answer the same commands over different states. Under a relation `R` of their states
one simulates the other if every command gives the same answer and related states, or stops both
with the same trap. The rules lift this from one command to every client (`Simulates.interact`): a
client sees the answers and what it can observe of the state, and decides from these what it does
next.

The last section relates memories cell by cell, which is how states that name the same things
differently are compared.
-/

namespace Foundation

namespace Swift

variable {σ τ υ α β : Type}

/-- Both return the same value in related states, or both are stopped by the same trap. -/
inductive Agree (R : σ → τ → Prop) : Except Trap (α × σ) → Except Trap (α × τ) → Prop
  | ok {a : α} {s : σ} {t : τ} (h : R s t) : Agree R (.ok (a, s)) (.ok (a, t))
  | error (e : Trap) : Agree R (.error e) (.error e)

/-- From related states `x` and `y` agree. -/
def Simulates (R : σ → τ → Prop) (x : Swift σ α) (y : Swift τ α) : Prop :=
  ∀ s t, R s t → Agree R (x.run s) (y.run t)

section Rules

variable {R : σ → τ → Prop}

/-- Agreement up to a relation is agreement up to a weaker one. -/
theorem Agree.mono {R' : σ → τ → Prop} (himp : ∀ s t, R s t → R' s t)
    {x : Except Trap (α × σ)} {y : Except Trap (α × τ)} (h : Agree R x y) : Agree R' x y := by
  cases h with
  | ok h => exact .ok (himp _ _ h)
  | error e => exact .error e

/-- Two computations that agree with a third agree with each other. -/
theorem Agree.join {R' : υ → τ → Prop} {x : Except Trap (α × σ)} {y : Except Trap (α × τ)}
    {z : Except Trap (α × υ)} (h : Agree R x y) (h' : Agree R' z y) :
    Agree (fun s u => ∃ t, R s t ∧ R' u t) x z := by
  cases h with
  | ok h =>
      cases h' with
      | ok h' => exact .ok ⟨_, h, h'⟩
  | error e =>
      cases h' with
      | error => exact .error e

/-- Where one returns, so does the other. -/
theorem Agree.returns_iff {x : Except Trap (α × σ)} {y : Except Trap (α × τ)}
    (h : Agree R x y) : (∃ a s, x = .ok (a, s)) ↔ ∃ a t, y = .ok (a, t) := by
  cases h with
  | ok h => exact iff_of_true ⟨_, _, rfl⟩ ⟨_, _, rfl⟩
  | error e => exact iff_of_false (by simp) (by simp)

/-- Both are stopped, by the same trap, or neither is. -/
theorem Agree.error_iff {x : Except Trap (α × σ)} {y : Except Trap (α × τ)}
    (h : Agree R x y) (e : Trap) : x = .error e ↔ y = .error e := by
  cases h with
  | ok h => exact iff_of_false (by simp) (by simp)
  | error e' => simp

/-- What agrees leaves related states behind. -/
theorem Agree.related_of_left {x : Except Trap (α × σ)} {y : Except Trap (α × τ)} (h : Agree R x y)
    {a : α} {s : σ} (hx : x = .ok (a, s)) : ∃ t, y = .ok (a, t) ∧ R s t := by
  cases h with
  | ok h =>
      cases hx
      exact ⟨_, rfl, h⟩
  | error e => cases hx

/-- What the right one returns, the left one returns. -/
theorem Agree.related_of_right {x : Except Trap (α × σ)} {y : Except Trap (α × τ)} (h : Agree R x y)
    {a : α} {t : τ} (hy : y = .ok (a, t)) : ∃ s, x = .ok (a, s) ∧ R s t := by
  cases h with
  | ok h =>
      cases hy
      exact ⟨_, rfl, h⟩
  | error e => cases hy

/-- What is known of the state one leaves behind can be added to the relation. -/
theorem Agree.and_left {P : σ → Prop} {x : Except Trap (α × σ)} {y : Except Trap (α × τ)}
    (h : Agree R x y) (hP : ∀ a s, x = .ok (a, s) → P s) : Agree (fun s t => R s t ∧ P s) x y := by
  cases h with
  | ok h => exact .ok ⟨h, hP _ _ rfl⟩
  | error e => exact .error e

/-- Returning a value. -/
theorem simulates_pure (a : α) : Simulates R (pure a) (pure a) := by
  intro s t h
  exact .ok h

/-- One computation after another. -/
theorem Simulates.bind {x : Swift σ α} {y : Swift τ α} {f : α → Swift σ β} {g : α → Swift τ β}
    (h : Simulates R x y) (hfg : ∀ a, Simulates R (f a) (g a)) :
    Simulates R (x >>= f) (y >>= g) := by
  intro s t hst
  rw [StateT.run_bind, StateT.run_bind]
  have hxy := h s t hst
  cases hx : x.run s with
  | error e =>
      rw [hx] at hxy
      cases hy : y.run t with
      | error e' =>
          rw [hy] at hxy
          cases hxy
          exact .error e
      | ok q =>
          rw [hy] at hxy
          cases hxy
  | ok p =>
      rw [hx] at hxy
      cases hy : y.run t with
      | error e' =>
          rw [hy] at hxy
          cases hxy
      | ok q =>
          rw [hy] at hxy
          cases hxy with
          | ok hrel => exact hfg _ _ _ hrel

theorem Agree.map {x : Except Trap (α × σ)} {y : Except Trap (α × τ)} (h : Agree R x y)
    (f : α → β) :
    Agree R ((fun p => (f p.1, p.2)) <$> x) ((fun p => (f p.1, p.2)) <$> y) := by
  cases h with
  | ok h => exact .ok h
  | error e => exact .error e

/-- Mapping the answers of both. -/
theorem Simulates.map {x : Swift σ α} {y : Swift τ α} (h : Simulates R x y) (f : α → β) :
    Simulates R (f <$> x) (f <$> y) := by
  intro s t hst
  rw [StateT.run_map, StateT.run_map]
  exact (h s t hst).map f

/-- A computation that reads its state first. -/
theorem simulates_get {f : σ → Swift σ α} {g : τ → Swift τ α}
    (h : ∀ s t, R s t → Agree R ((f s).run s) ((g t).run t)) :
    Simulates R (get >>= f) (get >>= g) := by
  intro s t hst
  exact h s t hst

end Rules

/-! ## Clients -/

/-- A client of a machine: from the answers so far and from what it observes of the state it
decides on its next command, or stops. It is given so many turns. -/
def interact {Command Out Obs : Type} (serve : Command → Swift σ Out) (observe : σ → Obs)
    (next : List Out → Obs → Option Command) : ℕ → List Out → Swift σ (List Out)
  | 0, answers => pure answers
  | turns + 1, answers => do
      let s ← get
      match next answers (observe s) with
      | none => pure answers
      | some command => do
          let answer ← serve command
          interact serve observe next turns (answers ++ [answer])

/-- **No client can tell two machines apart that simulate each other.** -/
theorem Simulates.interact {Command Out Obs : Type} {R : σ → τ → Prop}
    {serve : Command → Swift σ Out} {serve' : Command → Swift τ Out} {observe : σ → Obs}
    {observe' : τ → Obs} (hserve : ∀ command, Simulates R (serve command) (serve' command))
    (hobserve : ∀ s t, R s t → observe s = observe' t) (next : List Out → Obs → Option Command) :
    ∀ turns answers, Simulates R (interact serve observe next turns answers)
      (interact serve' observe' next turns answers) := by
  intro turns
  induction turns with
  | zero =>
      intro answers
      exact simulates_pure answers
  | succ turns ih =>
      intro answers
      apply simulates_get
      intro s t hst
      rw [hobserve s t hst]
      cases next answers (observe' t) with
      | none => exact simulates_pure answers s t hst
      | some command =>
          exact (hserve command).bind (fun answer => ih (answers ++ [answer])) s t hst

/-! ## What stops a client -/

section Outcomes

variable {Command Out Obs : Type} {serve : Command → Swift σ Out} {observe : σ → Obs}
  {next : List Out → Obs → Option Command} {Inv : σ → Prop}

/-- A run with commands to go is its first command and a run of the rest. -/
theorem run_interact_succ {turns : ℕ} {answers : List Out} {s : σ} {command : Command}
    (h : next answers (observe s) = some command) :
    (interact serve observe next (turns + 1) answers).run s =
      (serve command >>= fun answer => interact serve observe next turns (answers ++ [answer])).run
        s := by
  have hturn : (interact serve observe next (turns + 1) answers).run s =
      (match next answers (observe s) with
        | none => pure answers
        | some command => serve command >>= fun answer =>
            interact serve observe next turns (answers ++ [answer]) : Swift σ (List Out)).run s :=
    rfl
  rw [hturn, h]

/-- A client that has decided to stop has its answers. -/
theorem run_interact_stop {turns : ℕ} {answers : List Out} {s : σ}
    (h : next answers (observe s) = none) :
    (interact serve observe next turns answers).run s = .ok (answers, s) := by
  cases turns with
  | zero => rfl
  | succ turns =>
      have hturn : (interact serve observe next (turns + 1) answers).run s =
          (match next answers (observe s) with
            | none => pure answers
            | some command => serve command >>= fun answer =>
                interact serve observe next turns (answers ++ [answer]) :
            Swift σ (List Out)).run s := rfl
      rw [hturn, h]
      rfl

/-- What stops a client is what stops one command in a state that keeps the invariant. -/
theorem interact_stops {Stops : Trap → Prop}
    (hinv : ∀ command s out s', Inv s → (serve command).run s = .ok (out, s') → Inv s')
    (hstops : ∀ command s e, Inv s → (serve command).run s = .error e → Stops e) :
    ∀ turns answers s e, Inv s → (interact serve observe next turns answers).run s = .error e →
      Stops e := by
  intro turns
  induction turns with
  | zero =>
      intro answers s e _ h
      cases h
  | succ turns ih =>
      intro answers s e hs h
      cases hnext : next answers (observe s) with
      | none =>
          rw [run_interact_stop hnext] at h
          cases h
      | some command =>
          rw [run_interact_succ hnext, StateT.run_bind] at h
          cases hserve : (serve command).run s with
          | error e' =>
              rw [hserve] at h
              obtain rfl : e' = e := by simpa using h
              exact hstops command s e' hs hserve
          | ok p =>
              rw [hserve] at h
              exact ih _ p.2 e (hinv command s p.1 p.2 hs hserve) h

/-- Every command the client issues is safe in the state it is issued in. -/
def SafeRun (serve : Command → Swift σ Out) (observe : σ → Obs)
    (next : List Out → Obs → Option Command) (Safe : σ → Command → Prop) :
    ℕ → List Out → σ → Prop
  | 0, _, _ => True
  | turns + 1, answers, s => ∀ command, next answers (observe s) = some command →
      Safe s command ∧ ∀ out s', (serve command).run s = .ok (out, s') →
        SafeRun serve observe next Safe turns (answers ++ [out]) s'

/-- **A client is not stopped exactly if every command it issues is safe.** -/
theorem interact_returns_iff {Safe : σ → Command → Prop}
    (hinv : ∀ command s out s', Inv s → (serve command).run s = .ok (out, s') → Inv s')
    (hserve : ∀ command s, Inv s → ((∃ out s', (serve command).run s = .ok (out, s')) ↔
      Safe s command)) :
    ∀ turns answers s, Inv s →
      ((∃ answers' s', (interact serve observe next turns answers).run s = .ok (answers', s')) ↔
        SafeRun serve observe next Safe turns answers s) := by
  intro turns
  induction turns with
  | zero =>
      intro answers s _
      exact iff_of_true ⟨answers, s, rfl⟩ trivial
  | succ turns ih =>
      intro answers s hs
      cases hnext : next answers (observe s) with
      | none =>
          rw [run_interact_stop hnext]
          refine iff_of_true ⟨answers, s, rfl⟩ ?_
          intro command h
          rw [hnext] at h
          cases h
      | some command =>
          rw [run_interact_succ hnext, StateT.run_bind]
          constructor
          · rintro ⟨answers', t, hrun⟩ command' h
            rw [hnext] at h
            cases h
            cases hcommand : (serve command).run s with
            | error e =>
                rw [hcommand] at hrun
                cases hrun
            | ok p =>
                rw [hcommand] at hrun
                refine ⟨(hserve command s hs).mp ⟨p.1, p.2, hcommand⟩, ?_⟩
                intro out s' heq
                cases heq
                exact (ih _ s' (hinv command s out s' hs hcommand)).mp ⟨answers', t, hrun⟩
          · intro hsafe
            rcases hsafe command hnext with ⟨hsafe, hrest⟩
            rcases (hserve command s hs).mpr hsafe with ⟨out, s', hcommand⟩
            rw [hcommand]
            exact (ih _ s' (hinv command s out s' hs hcommand)).mpr (hrest out s' hcommand)

end Outcomes

end Swift

/-! ## Related memories -/

namespace Memory

variable {α β : Type}

/-- The cells of two memories are related one by one. -/
def Related (R : α → β → Prop) (m : Memory α) (m' : Memory β) : Prop :=
  ∀ a, R (m.cell a) (m'.cell a)

variable {R : α → β → Prop} {m : Memory α} {m' : Memory β}

/-- Storing related values. -/
theorem Related.store (h : m.Related R m') (a : ℕ) {v : α} {v' : β} (hv : R v v') :
    (m.store a v).Related R (m'.store a v') := by
  intro b
  by_cases hb : b = a
  · rw [hb, store_self, store_self]
    exact hv
  · rw [store_ne _ _ hb, store_ne _ _ hb]
    exact h b

/-- Storing related lists. -/
theorem Related.storeList (h : m.Related R m') (a : ℕ) {vs : List α} {vs' : List β}
    (hvs : List.Forall₂ R vs vs') : (m.storeList a vs).Related R (m'.storeList a vs') := by
  induction hvs generalizing m m' a with
  | nil => exact h
  | cons hv _ ih => exact ih (h.store a hv) (a + 1)

end Memory

/-! ## Related options -/

section Options

variable {H K : Type} {R R' : H → K → Prop} {x x' : Option H} {y y' : Option K}

theorem rel_mono (h : Option.Rel R x y) (himp : ∀ v v', R v v' → R' v v') : Option.Rel R' x y := by
  cases h with
  | some hr => exact .some (himp _ _ hr)
  | none => exact .none

/-- Only an empty cell is related to an empty cell. -/
theorem rel_none_iff (h : Option.Rel R x y) : x = none ↔ y = none := by
  cases h <;> simp

/-- Where related values are equal on one side exactly when they are on the other, so are
related options. -/
theorem rel_eq_iff (hinj : ∀ v w v' w', R v w → R v' w' → (v = v' ↔ w = w'))
    (h : Option.Rel R x y) (h' : Option.Rel R x' y') : x = x' ↔ y = y' := by
  cases h with
  | none => rw [eq_comm, rel_none_iff h', eq_comm]
  | some hr =>
      cases h' with
      | none => simp
      | some hr' => simpa using hinj _ _ _ _ hr hr'

end Options

/-! ## Related enumerations -/

variable {S H K : Type} {R : H → K → Prop}

/-- Two client memories hold related handles and the same counts. -/
structure Arrays.Related (R : H → K → Prop) (m : Arrays H) (m' : Arrays K) : Prop where
  handles : m.handles.Related (Option.Rel R) m'.handles
  counts : m.counts = m'.counts

theorem Arrays.Related.mono {m : Arrays H} {m' : Arrays K} (h : m.Related R m')
    {R' : H → K → Prop} (himp : ∀ v v', R v v' → R' v v') : m.Related R' m' where
  counts := h.counts
  handles a := rel_mono (h.handles a) himp

theorem Arrays.Related.store {m : Arrays H} {m' : Arrays K} (h : m.Related R m') (a : ℕ)
    {v : Option H} {v' : Option K} (hv : Option.Rel R v v') :
    Arrays.Related R { m with handles := m.handles.store a v }
      { m' with handles := m'.handles.store a v' } :=
  ⟨h.handles.store a hv, h.counts⟩

/-- Fetching related handles. -/
theorem Arrays.Related.fetch {m : Arrays H} {m' : Arrays K} (h : m.Related R m')
    (handles : Option ℕ) {l : List H} {l' : List K} (hl : List.Forall₂ R l l') :
    (m.fetch handles l).Related R (m'.fetch handles l') := by
  cases handles with
  | none => exact h
  | some a =>
      have hsome : List.Forall₂ (Option.Rel R) (l.map some) (l'.map some) :=
        List.forall₂_map_left_iff.mpr
          (List.forall₂_map_right_iff.mpr (hl.imp fun _ _ hr => Option.Rel.some hr))
      exact ⟨h.handles.storeList a hsome, h.counts⟩

/-- Counts are the same on both sides. -/
theorem Arrays.Related.tally {m : Arrays H} {m' : Arrays K} (h : m.Related R m')
    (count : Option ℕ) (k : ℕ) : (m.tally count k).Related R (m'.tally count k) := by
  cases count with
  | none => exact h
  | some a =>
      refine ⟨h.handles, ?_⟩
      simp only [Arrays.tally, h.counts]

/-- **Enumerating related handles gives the same status and related memories.** -/
theorem enumerate_related (ok invalid : S) {selected : List H} {selected' : List K}
    (hsel : List.Forall₂ R selected selected') (numEntries : ℕ) (handles count : Option ℕ)
    {m : Arrays H} {m' : Arrays K} (h : m.Related R m') :
    (enumerate ok invalid selected numEntries handles count m).1 =
        (enumerate ok invalid selected' numEntries handles count m').1 ∧
      (enumerate ok invalid selected numEntries handles count m).2.Related R
        (enumerate ok invalid selected' numEntries handles count m').2 := by
  unfold enumerate
  split_ifs with hinvalid
  · exact ⟨rfl, h⟩
  · refine ⟨rfl, ?_⟩
    rw [hsel.length_eq]
    have htake : List.Forall₂ R (selected.take numEntries) (selected'.take numEntries) :=
      List.forall₂_take numEntries hsel
    exact (h.fetch handles htake).tally count _

end Foundation
