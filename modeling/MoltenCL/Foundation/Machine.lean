import Mathlib.Data.List.Forall2
import MoltenCL.Foundation.Swift

/-! # Runs of a machine

A machine answers events, one after the other, and each event may trap. `runs`
is a whole run, and the rules below lift a fact about one step to every run that
completes:

* `runs_invariant`: an invariant of the state;
* `runs_related`: a preorder between the state before and the state after;
* `runs_outputs`: a fact about each answer that later steps keep true;
* `runs_accumulate`: an invariant of the state and of what the events so far add up to.
-/

namespace Foundation

namespace Swift

variable {σ Event Out : Type} (step : Event → Swift σ Out)

/-- A run: the answers to a list of events in order. -/
def runs : List Event → Swift σ (List Out)
  | [] => pure []
  | e :: es => do
      let o ← step e
      let os ← runs es
      pure (o :: os)

variable {step}

theorem runs_nil_eq_ok {s s' : σ} {os : List Out} :
    (runs step []).run s = .ok (os, s') ↔ os = [] ∧ s' = s := by
  simp only [runs, StateT.run_pure, pure_eq_ok, Except.ok.injEq, Prod.mk.injEq]
  exact ⟨fun h => ⟨h.1.symm, h.2.symm⟩, fun h => ⟨h.1.symm, h.2.symm⟩⟩

/-- A run of at least one event is its first step and a run of the rest. -/
theorem runs_cons_eq_ok {e : Event} {es : List Event} {s s' : σ} {os : List Out} :
    (runs step (e :: es)).run s = .ok (os, s') ↔
      ∃ o t os', (step e).run s = .ok (o, t) ∧ (runs step es).run t = .ok (os', s') ∧
        os = o :: os' := by
  rw [runs, run_bind_eq_ok]
  constructor
  · intro h
    rcases h with ⟨o, t, hstep, hrest⟩
    rcases run_bind_eq_ok.mp hrest with ⟨os', u, hrun, hpure⟩
    obtain ⟨rfl, rfl⟩ : o :: os' = os ∧ u = s' := by simpa [pure_eq_ok] using hpure
    exact ⟨o, t, os', hstep, hrun, rfl⟩
  · intro h
    rcases h with ⟨o, t, os', hstep, hrun, rfl⟩
    exact ⟨o, t, hstep, run_bind_eq_ok.mpr ⟨os', s', hrun, rfl⟩⟩

/-- An invariant of the steps is an invariant of the runs. -/
theorem runs_invariant {Inv : σ → Prop}
    (hstep : ∀ e s o s', Inv s → (step e).run s = .ok (o, s') → Inv s') :
    ∀ es s os s', Inv s → (runs step es).run s = .ok (os, s') → Inv s' := by
  intro es
  induction es with
  | nil =>
      intro s os s' hs h
      rcases runs_nil_eq_ok.mp h with ⟨-, rfl⟩
      exact hs
  | cons e es ih =>
      intro s os s' hs h
      rcases runs_cons_eq_ok.mp h with ⟨o, t, os', he, hes, -⟩
      exact ih t os' s' (hstep e s o t hs he) hes

/-- A preorder every step respects relates the two ends of a run. -/
theorem runs_related {Inv : σ → Prop} {R : σ → σ → Prop} (hrefl : ∀ s, R s s)
    (htrans : ∀ s t u, R s t → R t u → R s u)
    (hstep : ∀ e s o s', Inv s → (step e).run s = .ok (o, s') → Inv s' ∧ R s s') :
    ∀ es s os s', Inv s → (runs step es).run s = .ok (os, s') → R s s' := by
  intro es
  induction es with
  | nil =>
      intro s os s' _ h
      rcases runs_nil_eq_ok.mp h with ⟨-, rfl⟩
      exact hrefl _
  | cons e es ih =>
      intro s os s' hs h
      rcases runs_cons_eq_ok.mp h with ⟨o, t, os', he, hes, -⟩
      rcases hstep e s o t hs he with ⟨ht, hR⟩
      exact htrans s t s' hR (ih t os' s' ht hes)

/-- A fact about an answer that holds right after its step, and that the later
steps keep, holds of every answer at the end of the run. -/
theorem runs_outputs {Inv : σ → Prop} {R : σ → σ → Prop} {Good : Event → Out → σ → Prop}
    (hrefl : ∀ s, R s s) (htrans : ∀ s t u, R s t → R t u → R s u)
    (hstep : ∀ e s o s', Inv s → (step e).run s = .ok (o, s') → Inv s' ∧ R s s' ∧ Good e o s')
    (hkeep : ∀ e o s s', Inv s → R s s' → Good e o s → Good e o s') :
    ∀ es s os s', Inv s → (runs step es).run s = .ok (os, s') →
      List.Forall₂ (fun e o => Good e o s') es os := by
  intro es
  induction es with
  | nil =>
      intro s os s' _ h
      rcases runs_nil_eq_ok.mp h with ⟨rfl, -⟩
      exact List.Forall₂.nil
  | cons e es ih =>
      intro s os s' hs h
      rcases runs_cons_eq_ok.mp h with ⟨o, t, os', he, hes, rfl⟩
      rcases hstep e s o t hs he with ⟨ht, -, hgood⟩
      -- what the first step achieved survives the rest of the run
      have hR : R t s' := by
        apply runs_related hrefl htrans _ es t os' s' ht hes
        intro e s o s' hs h
        rcases hstep e s o s' hs h with ⟨hs', hR, -⟩
        exact ⟨hs', hR⟩
      exact List.Forall₂.cons (hkeep e o t s' ht hR hgood) (ih t os' s' ht hes)

/-- An invariant that refers to what the events have added so far holds at the end of a run with
what all of them add. -/
theorem runs_accumulate {A : Type} {adds : Event → List A} {Inv : List A → σ → Prop}
    (hstep : ∀ e l s o s', Inv l s → (step e).run s = .ok (o, s') → Inv (l ++ adds e) s') :
    ∀ es l s os s', Inv l s → (runs step es).run s = .ok (os, s') →
      Inv (l ++ es.flatMap adds) s' := by
  intro es
  induction es with
  | nil =>
      intro l s os s' hs h
      rcases runs_nil_eq_ok.mp h with ⟨-, rfl⟩
      rw [List.flatMap_nil, List.append_nil]
      exact hs
  | cons e es ih =>
      intro l s os s' hs h
      rcases runs_cons_eq_ok.mp h with ⟨o, t, os', he, hes, -⟩
      rw [List.flatMap_cons, ← List.append_assoc]
      exact ih _ t os' s' (hstep e l s o t hs he) hes

/-- Every event of a run has its answer. -/
theorem exists_answer {R : Event → Out → Prop} {es : List Event} {os : List Out}
    (h : List.Forall₂ R es os) {e : Event} (he : e ∈ es) : ∃ o ∈ os, R e o := by
  induction h with
  | nil => simp at he
  | @cons e' o' es os hR _ ih =>
      rcases List.mem_cons.mp he with rfl | htail
      · exact ⟨o', List.mem_cons_self, hR⟩
      · rcases ih htail with ⟨o, ho, hRo⟩
        exact ⟨o, List.mem_cons_of_mem o' ho, hRo⟩

end Swift

end Foundation
