import Mathlib.Data.List.Basic

/-!
# Truth values of SQL

Conditions that may be unknown, with the connectives of SQL. A row is selected where a condition
is true, and what is unknown is not true.
-/

namespace Irrd.Base

/-- A truth value of SQL; `none` is unknown. -/
abbrev Truth := Option Bool

namespace Truth

/-- `AND`. -/
def and : Truth → Truth → Truth
  | some false, _ | _, some false => some false
  | some true, some true => some true
  | _, _ => none

/-- `OR`. -/
def or : Truth → Truth → Truth
  | some true, _ | _, some true => some true
  | some false, some false => some false
  | _, _ => none

/-- `NOT`. -/
def not (t : Truth) : Truth := Option.map Bool.not t

/-- A conjunction of conditions. -/
def all (ts : List Truth) : Truth := ts.foldr and (some true)

/-- Whether a row with this condition is selected. -/
def holds (t : Truth) : Bool := t = some true

/-- A comparison of values that may be `NULL`. -/
def compare {A B : Type} (r : A → B → Bool) (x : Option A) (y : B) : Truth := x.map (r · y)

/-- `IN` a list of values. -/
def isIn {A : Type} [DecidableEq A] (x : Option A) (ys : List (Option A)) : Truth :=
  ys.foldr (fun y t ↦ or (y.bind (compare (fun a b ↦ a = b) x)) t) (some false)

@[simp] theorem holds_some (b : Bool) : holds (some b) = b := by cases b <;> rfl

@[simp] theorem holds_none : holds none = false := rfl

@[simp] theorem holds_and (t t' : Truth) : (and t t').holds = (t.holds && t'.holds) := by
  rcases t with _ | _ | _ <;> rcases t' with _ | _ | _ <;> rfl

@[simp] theorem holds_or (t t' : Truth) : (or t t').holds = (t.holds || t'.holds) := by
  rcases t with _ | _ | _ <;> rcases t' with _ | _ | _ <;> rfl

@[simp] theorem holds_all (ts : List Truth) : (all ts).holds = List.all ts holds := by
  induction ts with
  | nil => rfl
  | cons t ts ih =>
    change (and t (all ts)).holds = _
    rw [holds_and, ih, List.all_cons]

@[simp] theorem not_some (b : Bool) : not (some b) = some (!b) := rfl

@[simp] theorem not_none : not none = none := rfl

@[simp] theorem and_some (b b' : Bool) : and (some b) (some b') = some (b && b') := by
  cases b <;> cases b' <;> rfl

theorem all_some (bs : List Bool) : all (bs.map some) = some (List.all bs id) := by
  induction bs with
  | nil => rfl
  | cons b bs ih =>
    change and (some b) (all (bs.map some)) = _
    rw [ih, and_some, List.all_cons, id]

@[simp] theorem compare_some {A B : Type} (r : A → B → Bool) (x : A) (y : B) :
    compare r (some x) y = some (r x y) := rfl

@[simp] theorem compare_none {A B : Type} (r : A → B → Bool) (y : B) :
    compare r none y = none := rfl

/-- A value is in a list that has it; `NULL` is in none. -/
theorem holds_isIn_iff {A : Type} [DecidableEq A] {x : Option A} {ys : List (Option A)} :
    (isIn x ys).holds = true ↔ x.isSome ∧ x ∈ ys := by
  induction ys with
  | nil => simp [isIn]
  | cons y ys ih =>
    change (or (y.bind (compare (fun a b ↦ a = b) x)) (isIn x ys)).holds = true ↔ _
    rw [holds_or, Bool.or_eq_true, ih, List.mem_cons, and_or_left]
    apply or_congr_left
    cases x <;> cases y <;> simp

end Truth

end Irrd.Base
