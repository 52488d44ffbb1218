import Interlock.Proofs.Lists
import Interlock.Traced

/-!
# What computations come to

A computation has a result just if each of its steps has one, and its error is that of the first
step which has none. These are the shapes of steps of which computations are made.

* `bind_eq_ok_iff`, `bind_eq_error_iff`: a step after another one.
* `mapM_congr`, `mapM_eq_ok_iff`, `mapM_eq_error_iff`: one step for each element of a list.
-/

namespace Interlock

variable {α β γ : Type}

/-- A step which succeeds, after another one. -/
theorem bind_eq_ok_iff {ε : Type} {x : Except ε α} {f : α → Except ε β} {b : β} :
    x >>= f = .ok b ↔ ∃ a, x = .ok a ∧ f a = .ok b := by
  cases x with
  | error e => simp [bind, Except.bind]
  | ok a => simp [bind, Except.bind]

theorem map_eq_ok_iff {ε : Type} {x : Except ε α} {f : α → β} {b : β} :
    x.map f = .ok b ↔ ∃ a, x = .ok a ∧ f a = b := by
  cases x with
  | error e => simp [Except.map]
  | ok a => simp [Except.map]

theorem bind_eq_error_iff {ε : Type} {x : Except ε α} {f : α → Except ε β} {e : ε} :
    x >>= f = .error e ↔ x = .error e ∨ ∃ a, x = .ok a ∧ f a = .error e := by
  cases x with
  | error e => simp [bind, Except.bind]
  | ok a => simp [bind, Except.bind]

theorem map_eq_error_iff {ε : Type} {x : Except ε α} {f : α → β} {e : ε} :
    x.map f = .error e ↔ x = .error e := by
  cases x with
  | error e => simp [Except.map]
  | ok a => simp [Except.map]

/-- Errors may be changed without a change of the results. -/
theorem mapError_eq_ok_iff {ε δ : Type} {x : Except ε α} {f : ε → δ} {a : α} :
    x.mapError f = .ok a ↔ x = .ok a := by
  cases x with
  | error e => simp [Except.mapError]
  | ok a => simp [Except.mapError]

theorem mapError_eq_error_iff {ε δ : Type} {x : Except ε α} {f : ε → δ} {d : δ} :
    x.mapError f = .error d ↔ ∃ e, x = .error e ∧ f e = d := by
  cases x with
  | error e => simp [Except.mapError]
  | ok a => simp [Except.mapError]

/-- A step which has a single error has it just if it has no result. -/
theorem eq_error_iff_of_single {ε : Type} {x : Except ε α} {e e₀ : ε}
    (h : ∀ e, x = .error e → e = e₀) : x = .error e ↔ (∀ a, x ≠ .ok a) ∧ e = e₀ := by
  constructor
  · intro hx
    exact ⟨fun a => by simp [hx], h e hx⟩
  · rintro ⟨hnone, rfl⟩
    rcases hx : x with e | a
    · rw [h e hx]
    · exact absurd hx (hnone a)

theorem map_bind {ε : Type} (x : Except ε α) (f : α → Except ε β) (g : β → γ) :
    (x >>= f).map g = x >>= fun a => (f a).map g := by
  cases x with
  | error e => rfl
  | ok a => rfl

theorem bind_map {ε : Type} (x : Except ε α) (f : α → β) (g : β → Except ε γ) :
    x.map f >>= g = x >>= fun a => g (f a) := by
  cases x with
  | error e => rfl
  | ok a => rfl

/-- What follows a step matters only for the values to which the step comes. -/
theorem bind_congr_of_ok {ε : Type} {x : Except ε α} {f g : α → Except ε β}
    (h : ∀ a, x = .ok a → f a = g a) : x >>= f = x >>= g := by
  cases x with
  | error e => rfl
  | ok a => exact h a rfl

/-- One step for each element, if the steps are the same for the elements of the list. -/
theorem mapM_congr {ε : Type} {f g : α → Except ε β} {xs : List α} (h : ∀ x ∈ xs, f x = g x) :
    xs.mapM f = xs.mapM g := by
  induction xs with
  | nil => rfl
  | cons x xs ih =>
    rw [List.forall_mem_cons] at h
    rw [List.mapM_cons, List.mapM_cons, h.1, ih h.2]

theorem mapM_eq_ok_iff {ε : Type} {f : α → Except ε β} {xs : List α} {ys : List β} :
    xs.mapM f = .ok ys ↔ List.Forall₂ (fun x y => f x = .ok y) xs ys := by
  induction xs generalizing ys with
  | nil =>
    rw [List.mapM_nil, List.forall₂_nil_left_iff]
    exact ⟨fun h => (Except.ok.inj h).symm, fun h => congrArg Except.ok h.symm⟩
  | cons x xs ih =>
    simp only [List.mapM_cons, bind_eq_ok_iff, ih, List.forall₂_cons_left_iff]
    constructor
    · rintro ⟨y, hy, ys, hys, ⟨⟩⟩
      exact ⟨y, ys, hy, hys, rfl⟩
    · rintro ⟨y, ys, hy, hys, rfl⟩
      exact ⟨y, hy, ys, hys, rfl⟩

/-- The error is that of the first element which has one. -/
theorem mapM_eq_error_iff {ε : Type} {f : α → Except ε β} {xs : List α} {e : ε} :
    xs.mapM f = .error e ↔ ∃ before x behind, xs = before ++ x :: behind ∧
      (∀ y ∈ before, ∃ b, f y = .ok b) ∧ f x = .error e := by
  induction xs with
  | nil =>
    rw [List.mapM_nil]
    constructor
    · rintro ⟨⟩
    · rintro ⟨before, x, behind, hxs, -⟩
      simp at hxs
  | cons x xs ih =>
    rw [exists_first_cons_iff, ← ih, List.mapM_cons, bind_eq_error_iff]
    refine or_congr_right ?_
    rcases f x with e' | b
    · simp
    · rw [← exists_and_right]
      refine exists_congr fun b' => and_congr_right fun _ => ?_
      rcases xs.mapM f with e' | bs <;> simp [bind, Except.bind, pure, Except.pure]

theorem exists_mapM_eq {ε : Type} {f : α → Except ε β} {xs : List α}
    (h : ∀ x ∈ xs, ∃ y, f x = .ok y) : ∃ ys, xs.mapM f = .ok ys := by
  rcases hxs : xs.mapM f with e | ys
  · obtain ⟨before, x, behind, rfl, -, hx⟩ := mapM_eq_error_iff.1 hxs
    obtain ⟨y, hy⟩ := h x (by simp)
    cases hx.symm.trans hy
  · exact ⟨ys, rfl⟩

/-- Some elements fail if one of the first ones does, or else one of the others. -/
theorem mapM_append_eq_error_iff {ε : Type} {f : α → Except ε β} {xs ys : List α} {e : ε} :
    (xs ++ ys).mapM f = .error e ↔
      xs.mapM f = .error e ∨ (∃ zs, xs.mapM f = .ok zs) ∧ ys.mapM f = .error e := by
  rw [List.mapM_append]
  rcases xs.mapM f with e' | zs
  · simp [bind, Except.bind]
  · rcases ys.mapM f with e' | zs' <;> simp [bind, Except.bind, pure, Except.pure]

theorem Traced.result_liftM_bind (x : Except Error α) (f : α → Traced β) :
    ((liftM x : Traced α) >>= f).result = x >>= fun a => (f a).result :=
  result_bind _ _

theorem Traced.result_bind_eq_ok_iff {x : Traced α} {f : α → Traced β} {b : β} :
    (x >>= f).result = .ok b ↔ ∃ a, x.result = .ok a ∧ (f a).result = .ok b := by
  rw [result_bind]
  exact bind_eq_ok_iff

theorem Traced.result_bind_eq_error_iff {x : Traced α} {f : α → Traced β} {e : Error} :
    (x >>= f).result = .error e ↔
      x.result = .error e ∨ ∃ a, x.result = .ok a ∧ (f a).result = .error e := by
  rw [result_bind]
  exact bind_eq_error_iff

end Interlock
