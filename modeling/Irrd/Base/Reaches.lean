import Mathlib.Logic.Relation

/-!
# Guarded runs of a partial step function

A run is a sequence of successful steps, each of which satisfies a guard on the state
before the step and the action taken. Safety facts about every run follow from one
step lemma.
-/

namespace Irrd.Base

universe u v

variable {S : Type u} {A : Type v}

/-- One successful step whose action the guard permits. -/
def GuardedStep (step : S → A → Option S) (guard : S → A → Prop) (s t : S) : Prop :=
  ∃ a, guard s a ∧ step s a = some t

/-- The second state is reached from the first by any number of guarded steps. -/
def Reaches (step : S → A → Option S) (guard : S → A → Prop) : S → S → Prop :=
  Relation.ReflTransGen (GuardedStep step guard)

namespace Reaches

variable {step : S → A → Option S} {guard : S → A → Prop}

theorem refl (s : S) : Reaches step guard s s := Relation.ReflTransGen.refl

/-- A run extended by one more guarded step. -/
theorem tail {s t u : S} {a : A} (h : Reaches step guard s t) (hg : guard t a)
    (hs : step t a = some u) : Reaches step guard s u :=
  Relation.ReflTransGen.tail h ⟨a, hg, hs⟩

theorem trans {s t u : S} (h : Reaches step guard s t) (h' : Reaches step guard t u) :
    Reaches step guard s u :=
  Relation.ReflTransGen.trans h h'

/-- What every guarded step preserves holds at the end of a run if it held at its start. -/
theorem invariant {P : S → Prop}
    (hstep : ∀ {s t : S} {a : A}, P s → guard s a → step s a = some t → P t)
    {s t : S} (h : Reaches step guard s t) (hs : P s) : P t := by
  induction h with
  | refl => exact hs
  | tail _ hlast ih =>
    obtain ⟨a, hg, ha⟩ := hlast
    exact hstep ih hg ha

/-- The state after a list of successful actions that the guard permits is reached. -/
theorem of_foldlM [∀ s a, Decidable (guard s a)] (actions : List A) {s t : S}
    (h : actions.foldlM (fun s a ↦ if guard s a then step s a else none) s = some t) :
    Reaches step guard s t := by
  induction actions generalizing s with
  | nil => exact Option.some_inj.mp h ▸ refl s
  | cons a actions ih =>
    rw [List.foldlM_cons] at h
    obtain ⟨u, hu, h⟩ := Option.bind_eq_some_iff.mp h
    split at hu
    · next hg => exact Relation.ReflTransGen.head ⟨a, hg, hu⟩ (ih h)
    · cases hu

/-- A weaker guard admits at least the same runs. -/
theorem mono {guard' : S → A → Prop} (hg : ∀ s a, guard s a → guard' s a) {s t : S}
    (h : Reaches step guard s t) : Reaches step guard' s t := by
  induction h with
  | refl => exact refl s
  | tail _ hlast ih =>
    obtain ⟨a, ha, hs⟩ := hlast
    exact ih.tail (hg _ a ha) hs

end Reaches

end Irrd.Base
