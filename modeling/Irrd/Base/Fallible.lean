import Mathlib.Data.List.Basic
import Mathlib.Data.List.Forall2

/-!
# Fallible computations

Inversion of successful computations in `Except`: a sequence succeeds exactly if its parts
do, and a list of computations succeeds exactly if each of them does, in order.
-/

namespace Irrd.Base

universe u v w

variable {ε : Type u} {α β : Type v}

/-- A sequence succeeds exactly if both parts do. -/
theorem bind_eq_ok_iff {x : Except ε α} {f : α → Except ε β} {b : β} :
    (x >>= f) = .ok b ↔ ∃ a, x = .ok a ∧ f a = .ok b := by
  cases x <;> simp [bind, Except.bind]

theorem pure_eq_ok_iff {a b : α} : (pure a : Except ε α) = .ok b ↔ a = b := by
  simp [pure, Except.pure]

theorem map_eq_ok_iff {x : Except ε α} {f : α → β} {b : β} :
    x.map f = .ok b ↔ ∃ a, x = .ok a ∧ f a = b := by
  cases x <;> simp [Except.map]

theorem mapError_eq_ok_iff {x : Except ε α} {f : ε → ε'} {a : α} :
    x.mapError f = .ok a ↔ x = .ok a := by
  cases x <;> simp [Except.mapError]

theorem toOption_eq_some_iff {x : Except ε α} {a : α} : x.toOption = some a ↔ x = .ok a := by
  cases x <;> simp [Except.toOption]

/-- A guarded computation succeeds exactly if the guard does not fire. -/
theorem ite_error_eq_ok_iff {p : Prop} [Decidable p] {e : ε} {x : Except ε α} {a : α} :
    (if p then .error e else x) = .ok a ↔ ¬ p ∧ x = .ok a := by
  by_cases h : p <;> simp [h]

/-- A loop that keeps an invariant of the items done so far, and fails on refused items exactly. -/
theorem foldlM_spec {A : Type w} {f : α → A → Except ε α} {holds : List A → α → Prop}
    {refused : A → Prop} {items : List A}
    (hrefused : ∀ item ∈ items, refused item → ∀ done a, holds done a → ∃ e, f a item = .error e)
    (hstep : ∀ item ∈ items, ¬ refused item → ∀ done a, holds done a →
      ∃ a', f a item = .ok a' ∧ holds (done ++ [item]) a')
    {done : List A} {a : α} (ha : holds done a) :
    ((∀ item ∈ items, ¬ refused item) →
        ∃ a', items.foldlM f a = .ok a' ∧ holds (done ++ items) a') ∧
      ((∃ item ∈ items, refused item) → ∃ e, items.foldlM f a = .error e) := by
  induction items generalizing done a with
  | nil => exact ⟨fun _ ↦ ⟨a, rfl, by rwa [List.append_nil]⟩, fun ⟨_, h, _⟩ ↦ nomatch h⟩
  | cons item items ih =>
    rw [List.foldlM_cons]
    by_cases hitem : refused item
    · obtain ⟨e, he⟩ := hrefused item List.mem_cons_self hitem done a ha
      rw [he]
      exact ⟨fun hnone ↦ absurd hitem (hnone item List.mem_cons_self), fun _ ↦ ⟨e, rfl⟩⟩
    · obtain ⟨a', ha', hholds⟩ := hstep item List.mem_cons_self hitem done a ha
      obtain ⟨hok, herror⟩ := ih (fun i hi ↦ hrefused i (List.mem_cons_of_mem item hi))
        (fun i hi ↦ hstep i (List.mem_cons_of_mem item hi)) hholds
      rw [ha']
      constructor
      · intro hnone
        obtain ⟨a'', ha'', hholds'⟩ := hok (fun i hi ↦ hnone i (List.mem_cons_of_mem item hi))
        exact ⟨a'', ha'', by rwa [List.append_assoc, List.singleton_append] at hholds'⟩
      · rintro ⟨i, hi, hfails⟩
        rcases List.mem_cons.mp hi with rfl | hi
        · exact absurd hfails hitem
        · exact herror ⟨i, hi, hfails⟩

/-- A list of computations succeeds exactly if each does, with results in order. -/
theorem mapM_eq_ok_iff {A : Type w} {f : A → Except ε β} {xs : List A} {ys : List β} :
    xs.mapM f = .ok ys ↔ List.Forall₂ (fun x y ↦ f x = .ok y) xs ys := by
  induction xs generalizing ys with
  | nil =>
    rw [List.mapM_nil, pure_eq_ok_iff, List.forall₂_nil_left_iff]
    exact eq_comm
  | cons x xs ih =>
    simp only [List.mapM_cons, bind_eq_ok_iff, pure_eq_ok_iff, List.forall₂_cons_left_iff, ih]
    constructor
    · rintro ⟨y, hy, ys', hys, rfl⟩
      exact ⟨y, ys', hy, hys, rfl⟩
    · rintro ⟨y, ys', hy, hys, rfl⟩
      exact ⟨y, hy, ys', hys, rfl⟩

/-- Each result of a list of computations comes from one of them. -/
theorem exists_of_mem_mapM {A : Type w} {f : A → Except ε β} {xs : List A} {ys : List β}
    (h : xs.mapM f = .ok ys) {y : β} (hy : y ∈ ys) : ∃ x ∈ xs, f x = .ok y := by
  have hall := mapM_eq_ok_iff.mp h
  clear h
  induction hall with
  | nil => cases hy
  | cons hfirst _ ih =>
    rcases List.mem_cons.mp hy with rfl | hy
    · exact ⟨_, List.mem_cons_self, hfirst⟩
    · obtain ⟨x, hx, hfx⟩ := ih hy
      exact ⟨x, List.mem_cons_of_mem _ hx, hfx⟩

/-- A list of optional values is there exactly if each is, in order. -/
theorem mapM_eq_some_iff {A : Type w} {f : A → Option β} {xs : List A} {ys : List β} :
    xs.mapM f = some ys ↔ List.Forall₂ (fun x y ↦ f x = some y) xs ys := by
  induction xs generalizing ys with
  | nil =>
    rw [List.mapM_nil, List.forall₂_nil_left_iff]
    exact Option.some_inj.trans eq_comm
  | cons x xs ih =>
    simp only [List.mapM_cons, Option.bind_eq_bind, Option.bind_eq_some_iff, Option.pure_def,
      Option.some.injEq, List.forall₂_cons_left_iff, ih]
    constructor
    · rintro ⟨y, hy, ys', hys, rfl⟩
      exact ⟨y, ys', hy, hys, rfl⟩
    · rintro ⟨y, ys', hy, hys, rfl⟩
      exact ⟨y, hy, ys', hys, rfl⟩

/-- Every result in a list comes from a computation of the list. -/
theorem exists_of_mem_mapM_some {A : Type w} {f : A → Option β} {xs : List A} {ys : List β}
    (h : xs.mapM f = some ys) {y : β} (hy : y ∈ ys) : ∃ x ∈ xs, f x = some y := by
  have hall := mapM_eq_some_iff.mp h
  clear h
  induction hall with
  | nil => cases hy
  | cons hfirst _ ih =>
    rcases List.mem_cons.mp hy with rfl | hy
    · exact ⟨_, List.mem_cons_self, hfirst⟩
    · obtain ⟨x, hx, hfx⟩ := ih hy
      exact ⟨x, List.mem_cons_of_mem _ hx, hfx⟩

/-- A list of optional values is missing exactly if one of them is. -/
theorem mapM_eq_none_iff {A : Type w} {f : A → Option β} {xs : List A} :
    xs.mapM f = none ↔ ∃ x ∈ xs, f x = none := by
  induction xs with
  | nil => simp
  | cons x xs ih =>
    simp only [List.mapM_cons, List.mem_cons, exists_eq_or_imp, ← ih]
    cases f x <;> cases xs.mapM f <;> simp

/-- A list of optional values has as many of a kind as there were items of that kind. -/
theorem countP_of_mapM {A : Type w} {f : A → Option β} {xs : List A} {ys : List β} {p : A → Bool}
    {q : β → Bool} (h : xs.mapM f = some ys) (hpq : ∀ x y, f x = some y → p x = q y) :
    xs.countP p = ys.countP q := by
  induction xs generalizing ys with
  | nil =>
    cases h
    rfl
  | cons x xs ih =>
    rw [List.mapM_cons] at h
    obtain ⟨y, hy, h⟩ := Option.bind_eq_some_iff.mp h
    obtain ⟨rest, hrest, heq⟩ := Option.bind_eq_some_iff.mp h
    cases heq
    rw [List.countP_cons, List.countP_cons, ih hrest, hpq x y hy]

/-- A list of computations succeeds exactly if each of them does. -/
theorem exists_mapM_eq_ok_iff {A : Type w} {f : A → Except ε β} {xs : List A} :
    (∃ ys, xs.mapM f = .ok ys) ↔ ∀ x ∈ xs, ∃ y, f x = .ok y := by
  induction xs with
  | nil => simp [pure_eq_ok_iff]
  | cons x xs ih =>
    simp only [List.mapM_cons, bind_eq_ok_iff, pure_eq_ok_iff, List.forall_mem_cons, ← ih]
    constructor
    · rintro ⟨_, y, hy, ys, hys, -⟩
      exact ⟨⟨y, hy⟩, ys, hys⟩
    · rintro ⟨⟨y, hy⟩, ys, hys⟩
      exact ⟨_, y, hy, ys, hys, rfl⟩

section Agree

variable {α' β' : Type v} {R : α → α' → Prop} {T : β → β' → Prop} {x : Except ε α}
  {x' : Except ε α'}

/-- Two computations agree: they raise the same exception, or their results are related. -/
def Agree (R : α → α' → Prop) (x : Except ε α) (x' : Except ε α') : Prop :=
  match x, x' with
  | .ok a, .ok a' => R a a'
  | .error e, .error e' => e = e'
  | _, _ => False

theorem Agree.of_eq_ok {a : α} {a' : α'} (hx : x = .ok a) (hx' : x' = .ok a') (h : R a a') :
    Agree R x x' := by
  rw [hx, hx']
  exact h

theorem Agree.bind {f : α → Except ε β} {f' : α' → Except ε β'} (h : Agree R x x')
    (hf : ∀ a a', R a a' → Agree T (f a) (f' a')) : Agree T (x >>= f) (x' >>= f') := by
  cases x <;> cases x' <;> first | exact h.elim | exact hf _ _ h | exact h

theorem Agree.map {f : α → β} {f' : α' → β'} (h : Agree R x x')
    (hf : ∀ a a', R a a' → T (f a) (f' a')) : Agree T (x.map f) (x'.map f') := by
  cases x <;> cases x' <;> first | exact h.elim | exact hf _ _ h | exact h

theorem Agree.mono {R' : α → α' → Prop} (h : Agree R x x') (hmono : ∀ a a', R a a' → R' a a') :
    Agree R' x x' := by
  cases x <;> cases x' <;> first | exact h.elim | exact hmono _ _ h | exact h

theorem Agree.foldlM {A : Type w} {f : α → A → Except ε α} {f' : α' → A → Except ε α'}
    (hf : ∀ a a' item, R a a' → Agree R (f a item) (f' a' item)) (items : List A) {a : α} {a' : α'}
    (h : R a a') : Agree R (items.foldlM f a) (items.foldlM f' a') := by
  induction items generalizing a a' with
  | nil => exact h
  | cons item items ih =>
    rw [List.foldlM_cons, List.foldlM_cons]
    exact (hf a a' item h).bind (fun _ _ h' ↦ ih h')

theorem Agree.mapM {A : Type w} {f : A → Except ε α} {f' : A → Except ε α'}
    (hf : ∀ item, Agree R (f item) (f' item)) (items : List A) :
    Agree (List.Forall₂ R) (items.mapM f) (items.mapM f') := by
  induction items with
  | nil =>
    rw [List.mapM_nil, List.mapM_nil]
    exact List.Forall₂.nil
  | cons item items ih =>
    rw [List.mapM_cons, List.mapM_cons]
    exact (hf item).bind (fun _ _ h ↦ ih.bind (fun _ _ hs ↦ List.Forall₂.cons h hs))

end Agree

end Irrd.Base
