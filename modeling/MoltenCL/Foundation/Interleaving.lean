import Mathlib.Logic.Function.Basic
import MoltenCL.Foundation.Simulation

/-! # Clients that share a machine

Several clients use one machine in turns. The state of the machine is in two parts (`Split`): one
that all of them share and one that each has for its own. A schedule says whose turn it is.

`interleave_isolated`: if the machine simulates one without a shared part, and what it does to its
shared part only ever adds to it, then no client notices the others. Under every schedule each has
the answers it would have had alone, and whoever is stopped would have been stopped alone.
-/

namespace Foundation

namespace Swift

/-- A state in two parts: a shared one and one that is a client's own. -/
structure Split (σ S L : Type) where
  shared : σ → S
  own : σ → L
  join : S → L → σ
  join_self : ∀ s, join (shared s) (own s) = s
  shared_join : ∀ s l, shared (join s l) = s

/-- A machine with its clients: the shared part, and of each client its own part and its
answers so far. -/
structure Process (ι S L Out : Type) where
  shared : S
  own : ι → L
  answers : ι → List Out

section Interleaving

variable {ι S L σ τ Command Out Obs : Type} [DecidableEq ι]

/-- The process after a turn of `i` that ended in the state `s` with the answer `out`. -/
def Process.update (split : Split σ S L) (p : Process ι S L Out) (i : ι) (out : Out) (s : σ) :
    Process ι S L Out where
  shared := split.shared s
  own := Function.update p.own i (split.own s)
  answers := Function.update p.answers i (p.answers i ++ [out])

variable (split : Split σ S L) (serve : Command → Swift σ Out) (observe : σ → Obs)
  (next : ι → List Out → Obs → Option Command)

/-- The turn of client `i`: it issues its next command, if it has one. -/
def turn (i : ι) : Swift (Process ι S L Out) Unit := do
  let p ← get
  let s := split.join p.shared (p.own i)
  match next i (p.answers i) (observe s) with
  | none => pure ()
  | some command =>
      match (serve command).run s with
      | .ok (out, s') => set (p.update split i out s')
      | .error e => throw e

/-- The clients take turns as the schedule says. -/
def interleave : List ι → Swift (Process ι S L Out) Unit
  | [] => pure ()
  | i :: schedule => do
      turn split serve observe next i
      interleave schedule

variable {split serve observe next}

/-- A client that has stopped does nothing with its turn. -/
theorem run_turn_stop {i : ι} {p : Process ι S L Out}
    (h : next i (p.answers i) (observe (split.join p.shared (p.own i))) = none) :
    (turn split serve observe next i).run p = .ok ((), p) := by
  simp [turn, h, pure_eq_ok]

theorem run_turn_ok {i : ι} {p : Process ι S L Out} {command : Command} {out : Out} {s' : σ}
    (h : next i (p.answers i) (observe (split.join p.shared (p.own i))) = some command)
    (hrun : (serve command).run (split.join p.shared (p.own i)) = .ok (out, s')) :
    (turn split serve observe next i).run p = .ok ((), p.update split i out s') := by
  simp [turn, h, hrun, pure_eq_ok]

theorem run_turn_error {i : ι} {p : Process ι S L Out} {command : Command} {e : Trap}
    (h : next i (p.answers i) (observe (split.join p.shared (p.own i))) = some command)
    (hrun : (serve command).run (split.join p.shared (p.own i)) = .error e) :
    (turn split serve observe next i).run p = .error e := by
  simp [turn, h, hrun, pure_eq_ok]

/-! ## Isolation -/

/-- What a client is told about a run of the process: its own answers, or a trap that is its own
or another client's. -/
def Isolated (R : σ → τ → Prop) (alone : ι → Swift τ (List Out)) (c : ι → τ)
    (split : Split σ S L) : Except Trap (Unit × Process ι S L Out) → Prop
  | .ok (_, p) => ∀ i, ∃ c', (alone i).run (c i) = .ok (p.answers i, c') ∧
      R (split.join p.shared (p.own i)) c'
  | .error e => ∃ i, (alone i).run (c i) = .error e

omit [DecidableEq ι] in
theorem Isolated.congr {R : σ → τ → Prop} {alone alone' : ι → Swift τ (List Out)} {c c' : ι → τ}
    {x : Except Trap (Unit × Process ι S L Out)} (h : Isolated R alone c split x)
    (heq : ∀ i, (alone i).run (c i) = (alone' i).run (c' i)) : Isolated R alone' c' split x := by
  cases x with
  | ok r =>
      intro i
      rcases h i with ⟨t, hrun, hR⟩
      exact ⟨t, (heq i).symm.trans hrun, hR⟩
  | error e =>
      rcases h with ⟨i, hrun⟩
      exact ⟨i, (heq i).symm.trans hrun⟩

/-- The parts of the process after a turn. -/
theorem Process.update_related {R : σ → τ → Prop} {Later : S → S → Prop}
    (hlater : ∀ s s' l t, Later s s' → R (split.join s l) t → R (split.join s' l) t)
    {p : Process ι S L Out} {c : ι → τ} (hR : ∀ j, R (split.join p.shared (p.own j)) (c j))
    {i : ι} {out : Out} {s' : σ} {t' : τ} (hnew : R s' t')
    (hgrows : Later p.shared (split.shared s')) (j : ι) :
    R (split.join (p.update split i out s').shared ((p.update split i out s').own j))
      (Function.update c i t' j) := by
  unfold Process.update
  by_cases hj : j = i
  · subst hj
    simp only [Function.update_self, split.join_self]
    exact hnew
  · simp only [Function.update_of_ne hj]
    exact hlater _ _ _ _ hgrows (hR j)

/-- **No client notices the others.** -/
theorem interleave_isolated {R : σ → τ → Prop} {Later : S → S → Prop}
    {serve' : Command → Swift τ Out} {observe' : τ → Obs}
    (hserve : ∀ command s t, R s t → Agree (fun s' t' => R s' t' ∧
      Later (split.shared s) (split.shared s')) ((serve command).run s) ((serve' command).run t))
    (hlater : ∀ s s' l t, Later s s' → R (split.join s l) t → R (split.join s' l) t)
    (hobserve : ∀ s t, R s t → observe s = observe' t) :
    ∀ (schedule : List ι) (p : Process ι S L Out) (c : ι → τ),
      (∀ i, R (split.join p.shared (p.own i)) (c i)) →
      Isolated R (fun i => interact serve' observe' (next i) (schedule.count i) (p.answers i)) c
        split ((interleave split serve observe next schedule).run p) := by
  intro schedule
  induction schedule with
  | nil =>
      intro p c hR i
      exact ⟨c i, rfl, hR i⟩
  | cons i schedule ih =>
      intro p c hR
      rw [interleave, StateT.run_bind]
      have hobs := hobserve _ _ (hR i)
      cases hnext : next i (p.answers i) (observe (split.join p.shared (p.own i))) with
      | none =>
          -- a client that has stopped stays stopped
          rw [run_turn_stop hnext]
          refine (ih p c hR).congr ?_
          intro j
          by_cases hj : j = i
          · subst hj
            rw [hobs] at hnext
            rw [run_interact_stop hnext, run_interact_stop hnext]
          · rw [List.count_cons_of_ne (Ne.symm hj)]
      | some command =>
          have hnext' := hnext
          rw [hobs] at hnext'
          have hagree := hserve command _ _ (hR i)
          cases hrun : (serve command).run (split.join p.shared (p.own i)) with
          | error e =>
              rw [run_turn_error hnext hrun]
              refine ⟨i, ?_⟩
              simp only
              rw [List.count_cons_self, run_interact_succ hnext', StateT.run_bind,
                (hagree.error_iff e).mp hrun]
              rfl
          | ok r =>
              rcases hagree.related_of_left (a := r.1) (s := r.2) hrun with
                ⟨t', hrun', hnew, hgrows⟩
              rw [split.shared_join] at hgrows
              rw [run_turn_ok hnext hrun]
              refine (ih _ (Function.update c i t')
                (p.update_related hlater hR hnew hgrows)).congr ?_
              intro j
              unfold Process.update
              by_cases hj : j = i
              · subst hj
                rw [List.count_cons_self, run_interact_succ hnext', StateT.run_bind, hrun']
                simp only [Function.update_self]
                rfl
              · simp only [List.count_cons_of_ne (Ne.symm hj), Function.update_of_ne hj]

end Interleaving

end Swift

end Foundation
