/-
# Theory.Simulation -- a system that does nothing but what another one may do

A transition system starts and steps.  A simulation relates the states of one system to the
states of another, so that every step of the first is matched by steps of the second, or by
none.  Then every run of the first is matched by a run of the second, from wherever it starts.

* `System.invariant`: what is kept by every step holds of every reachable state;
* `Simulation.steps`, `Simulation.reachable`: runs and reachable states are matched;
* `Simulation.explains`: a run from a reachable state is explained by a run of the second
  system between reachable states.
-/
import Mathlib.Logic.Relation

namespace KubeRayBatch.Theory

set_option autoImplicit false

universe u v

/-- A transition system. -/
structure System (σ : Type u) where
  init : σ → Prop
  step : σ → σ → Prop

namespace System

variable {σ : Type u} (S : System σ)

/-- Any number of steps. -/
def Steps : σ → σ → Prop := Relation.ReflTransGen S.step

def Reachable (s : σ) : Prop := ∃ start, S.init start ∧ S.Steps start s

variable {S} {s s' s'' : σ}

theorem Steps.refl (s : σ) : S.Steps s s := Relation.ReflTransGen.refl

theorem Steps.one (stepped : S.step s s') : S.Steps s s' := Relation.ReflTransGen.single stepped

theorem Steps.trans (first : S.Steps s s') (second : S.Steps s' s'') : S.Steps s s'' :=
  Relation.ReflTransGen.trans first second

theorem Steps.tail (before : S.Steps s s') (stepped : S.step s' s'') : S.Steps s s'' :=
  Relation.ReflTransGen.tail before stepped

theorem Reachable.steps (reachable : S.Reachable s) (later : S.Steps s s') : S.Reachable s' := by
  obtain ⟨start, isStart, before⟩ := reachable
  exact ⟨start, isStart, before.trans later⟩

/-- **What every step keeps**, along a run. -/
theorem Steps.keeps {P : σ → Prop} (kept : ∀ s s', P s → S.step s s' → P s')
    (later : S.Steps s s') (holds : P s) : P s' := by
  induction later with
  | refl => exact holds
  | tail before stepped ih => exact kept _ _ ih stepped

/-- **What holds at the start** and is kept by every step, holds of every reachable state. -/
theorem invariant {P : σ → Prop} (start : ∀ s, S.init s → P s) (kept : ∀ s s', P s → S.step s s' → P s')
    (reachable : S.Reachable s) : P s := by
  obtain ⟨first, isStart, later⟩ := reachable
  exact later.keeps kept (start first isStart)

end System

/-! ## Simulations -/

/-- Every step of `S`, from a reachable state, is matched by steps of `T`. -/
structure Simulation {σ : Type u} {τ : Type v} (S : System σ) (T : System τ) (R : σ → τ → Prop) : Prop where
  start : ∀ s, S.init s → ∃ t, T.init t ∧ R s t
  step : ∀ s s' t, S.Reachable s → R s t → S.step s s' → ∃ t', T.Steps t t' ∧ R s' t'

namespace Simulation

variable {σ : Type u} {τ : Type v} {S : System σ} {T : System τ} {R : σ → τ → Prop}
variable {s s' : σ} {t : τ}

/-- **Runs** are matched. -/
theorem steps (simulation : Simulation S T R) (reachable : S.Reachable s) (related : R s t)
    (later : S.Steps s s') : ∃ t', T.Steps t t' ∧ R s' t' := by
  induction later with
  | refl => exact ⟨t, .refl t, related⟩
  | @tail u u' before stepped ih =>
      obtain ⟨t', matched, related'⟩ := ih
      obtain ⟨t'', more, related''⟩ :=
        simulation.step u u' t' (reachable.steps before) related' stepped
      exact ⟨t'', matched.trans more, related''⟩

/-- **Reachable states** are matched. -/
theorem reachable (simulation : Simulation S T R) (reachable : S.Reachable s) :
    ∃ t, T.Reachable t ∧ R s t := by
  obtain ⟨first, isStart, later⟩ := reachable
  obtain ⟨t, isStart', related⟩ := simulation.start first isStart
  obtain ⟨t', matched, related'⟩ := simulation.steps ⟨first, isStart, .refl first⟩ related later
  exact ⟨t', ⟨t, isStart', matched⟩, related'⟩

/-- **key theorem.** A run from a reachable state is explained by a run of the second system. -/
theorem explains (simulation : Simulation S T R) (reachable : S.Reachable s) (later : S.Steps s s') :
    ∃ t t', T.Reachable t ∧ R s t ∧ T.Steps t t' ∧ R s' t' := by
  obtain ⟨t, isReachable, related⟩ := simulation.reachable reachable
  obtain ⟨t', matched, related'⟩ := simulation.steps reachable related later
  exact ⟨t, t', isReachable, related, matched, related'⟩

end Simulation

end KubeRayBatch.Theory
