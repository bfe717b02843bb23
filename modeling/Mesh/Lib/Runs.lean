import Mathlib.Tactic

/-!
# Mesh.Lib.Runs

Runs of a transition system: a set of initial states and a labelled step relation. A restriction of
the steps is again a step relation, so "every run whose steps meet a condition" needs no second
definition.

`Reachable.invariant` is the induction every safety theorem goes through; it hands the step case the
reachability of the state before, so invariants can build on each other.
-/

namespace Mesh
namespace Runs

variable {σ α : Type}

inductive Reachable (init : σ → Prop) (step : σ → α → σ → Prop) : σ → Prop where
  | start {s : σ} : init s → Reachable init step s
  | next {s s' : σ} {a : α} : Reachable init step s → step s a s' → Reachable init step s'

variable {init : σ → Prop} {step step' : σ → α → σ → Prop}

/-- What holds initially and is kept by every step from a reachable state holds in every run. -/
theorem Reachable.invariant {I : σ → Prop} (hstart : ∀ s, init s → I s)
    (hnext : ∀ s a s', Reachable init step s → I s → step s a s' → I s') {s : σ}
    (h : Reachable init step s) : I s := by
  induction h with
  | start h0 => exact hstart _ h0
  | next hr hs ih => exact hnext _ _ _ hr ih hs

/-- Fewer steps reach fewer states. -/
theorem Reachable.mono (hstep : ∀ s a s', step s a s' → step' s a s') {s : σ}
    (h : Reachable init step s) : Reachable init step' s := by
  induction h with
  | start h0 => exact .start h0
  | next _ hs ih => exact .next ih (hstep _ _ _ hs)

/-- The steps that meet a condition on the state and the label. -/
def Restrict (step : σ → α → σ → Prop) (C : σ → α → Prop) (s : σ) (a : α) (s' : σ) : Prop :=
  step s a s' ∧ C s a

theorem Reachable.of_restrict {C : σ → α → Prop} {s : σ}
    (h : Reachable init (Restrict step C) s) : Reachable init step s := h.mono fun _ _ _ hs => hs.1

/-! ## From one state on -/

/-- What is reached from a state. -/
abbrev Later (step : σ → α → σ → Prop) (s : σ) : σ → Prop := Reachable (· = s) step

theorem Reachable.later {s s' : σ} (hr : Reachable init step s) (h : Later step s s') :
    Reachable init step s' := by
  induction h with
  | start h0 => exact h0 ▸ hr
  | next _ hs ih => exact .next ih hs

theorem Later.refl (s : σ) : Later step s s := .start rfl

/-- What holds of a reachable state and is kept by the steps taken from there holds ever after. -/
theorem Later.invariant {I : σ → Prop} (hsub : ∀ s a s', step' s a s' → step s a s') {s s' : σ}
    (hr : Reachable init step s) (hI : I s)
    (hnext : ∀ s a s', Reachable init step s → I s → step' s a s' → I s') (h : Later step' s s') : I s' := by
  have hboth : Reachable init step s' ∧ I s' := by
    induction h with
    | start h0 => exact h0 ▸ ⟨hr, hI⟩
    | next _ hs ih => exact ⟨.next ih.1 (hsub _ _ _ hs), hnext _ _ _ ih.1 ih.2 hs⟩
  exact hboth.2

end Runs
end Mesh
