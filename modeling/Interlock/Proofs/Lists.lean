import Mathlib.Data.List.Forall2

/-!
# Lists

Facts about lists which stand in no library: two lists in step, element by element, the first
element with a property, and the places of a list with one more element at its end.

* `exists_of_mem_left`, `exists_of_mem_right`, `rel_of_getElem?`: the elements of lists in step.
  `forall₂_eq_some_iff`: lists in step by a partial function.
  `exists_cons_iff_of_forall₂`, `exists_first_iff_of_forall₂`: what one of two lists in step says
  about the other.
* `exists_firstAt_cons_iff`, `exists_first_cons_iff`: the first element with a property.
* `rel_getElem?_of_forall₂`, `forall₂_mapIdx`: the places of lists in step.
* `getElem?_concat_eq_some_iff`: the places of a list with one more element.
  `map_eq_of_rel`, `map_eq_true_of_rel`: what can be told of the elements at two places.
-/

namespace Interlock

/-! ## Lists in step -/

theorem exists_of_mem_left {α β : Type} {R : α → β → Prop} {xs : List α} {ys : List β}
    (h : List.Forall₂ R xs ys) {x : α} (hx : x ∈ xs) : ∃ y ∈ ys, R x y := by
  induction h with
  | nil => cases hx
  | cons hr _ ih =>
    rcases List.mem_cons.1 hx with rfl | hx
    · exact ⟨_, List.mem_cons_self, hr⟩
    · obtain ⟨y, hy, hr⟩ := ih hx
      exact ⟨y, List.mem_cons_of_mem _ hy, hr⟩

theorem exists_of_mem_right {α β : Type} {R : α → β → Prop} {xs : List α} {ys : List β}
    (h : List.Forall₂ R xs ys) {y : β} (hy : y ∈ ys) : ∃ x ∈ xs, R x y :=
  exists_of_mem_left h.flip hy

theorem rel_of_getElem? {α β : Type} {R : α → β → Prop} {xs : List α} {ys : List β}
    (h : List.Forall₂ R xs ys) {i : Nat} {x : α} {y : β} (hx : xs[i]? = some x)
    (hy : ys[i]? = some y) : R x y := by
  obtain ⟨hi, rfl⟩ := List.getElem?_eq_some_iff.1 hx
  obtain ⟨hi', rfl⟩ := List.getElem?_eq_some_iff.1 hy
  exact h.get hi hi'

theorem forall₂_eq_some_iff {α β : Type} {f : α → Option β} {xs : List α} {ys : List β} :
    List.Forall₂ (fun x y => f x = some y) xs ys ↔
      xs.filter (fun x => (f x).isNone) = [] ∧ ys = xs.filterMap f := by
  induction xs generalizing ys with
  | nil => simp [List.forall₂_nil_left_iff]
  | cons x xs ih =>
    rw [List.forall₂_cons_left_iff]
    rcases h : f x with - | y
    · simp [h]
    · rw [List.filter_cons_of_neg (by simp [h]), List.filterMap_cons_some h]
      constructor
      · rintro ⟨_, zs, ⟨⟩, hzs, rfl⟩
        obtain ⟨hnone, rfl⟩ := ih.1 hzs
        exact ⟨hnone, rfl⟩
      · rintro ⟨hnone, rfl⟩
        exact ⟨y, _, rfl, ih.2 ⟨hnone, rfl⟩, rfl⟩

theorem any_iff_of_forall₂ {α : Type} {q : α → Prop} {xs : List α} {hits : List Bool}
    (h : List.Forall₂ (fun x hit => hit = true ↔ q x) xs hits) :
    hits.any id ↔ ∃ x ∈ xs, q x := by
  induction h with
  | nil => simp
  | cons hx _ ih => simp [hx, ih]

/-- Whether just the first of some elements has a property can be told from another list. -/
theorem exists_cons_iff_of_forall₂ {α β : Type} {R : α → β → Prop} {p : α → Prop} {q : β → Prop}
    {xs : List α} {ys : List β} (h : List.Forall₂ R xs ys) (hpq : ∀ x y, R x y → (p x ↔ q y)) :
    (∃ x xs', xs = x :: xs' ∧ p x ∧ ∀ u ∈ xs', ¬p u) ↔
      ∃ y ys', ys = y :: ys' ∧ q y ∧ ∀ v ∈ ys', ¬q v := by
  have hrest {xs : List α} {ys : List β} (h : List.Forall₂ R xs ys) :
      (∀ u ∈ xs, ¬p u) ↔ ∀ v ∈ ys, ¬q v := by
    induction h with
    | nil => simp
    | cons hxy _ ih => rw [List.forall_mem_cons, List.forall_mem_cons, ih, hpq _ _ hxy]
  cases h with
  | nil => simp
  | cons hxy hxys =>
    constructor
    · rintro ⟨_, _, ⟨⟩, hx, hxs⟩
      exact ⟨_, _, rfl, (hpq _ _ hxy).1 hx, (hrest hxys).1 hxs⟩
    · rintro ⟨_, _, ⟨⟩, hy, hys⟩
      exact ⟨_, _, rfl, (hpq _ _ hxy).2 hy, (hrest hxys).2 hys⟩

/-! ## The first element with a property -/

/-- The first element with a property is the head of a list, or the first one of the tail. What it
    has to be may depend on its place. -/
theorem exists_firstAt_cons_iff {α : Type} {p : α → Prop} {q : Nat → α → Prop} {n : Nat} {x : α}
    {xs : List α} :
    (∃ before u behind, x :: xs = before ++ u :: behind ∧ (∀ v ∈ before, p v) ∧
        q (n + before.length) u) ↔
      q n x ∨ p x ∧ ∃ before u behind, xs = before ++ u :: behind ∧ (∀ v ∈ before, p v) ∧
        q (n + 1 + before.length) u := by
  constructor
  · rintro ⟨- | ⟨y, before⟩, u, behind, hxs, hbefore, hu⟩
    · cases hxs
      exact .inl hu
    · cases hxs
      obtain ⟨hy, hbefore⟩ := List.forall_mem_cons.1 hbefore
      rw [List.length_cons, Nat.add_comm before.length, ← Nat.add_assoc] at hu
      exact .inr ⟨hy, before, u, behind, rfl, hbefore, hu⟩
  · rintro (hx | ⟨hx, before, u, behind, rfl, hbefore, hu⟩)
    · exact ⟨[], x, xs, rfl, by simp, hx⟩
    · refine ⟨x :: before, u, behind, rfl, List.forall_mem_cons.2 ⟨hx, hbefore⟩, ?_⟩
      rwa [List.length_cons, Nat.add_comm before.length, ← Nat.add_assoc]

theorem exists_first_cons_iff {α : Type} {p q : α → Prop} {x : α} {xs : List α} :
    (∃ before u behind, x :: xs = before ++ u :: behind ∧ (∀ v ∈ before, p v) ∧ q u) ↔
      q x ∨ p x ∧ ∃ before u behind, xs = before ++ u :: behind ∧ (∀ v ∈ before, p v) ∧ q u :=
  exists_firstAt_cons_iff (q := fun _ => q) (n := 0)

/-- The first of some elements which has a property can be told from another list. -/
theorem exists_first_iff_of_forall₂ {α β : Type} {R : α → β → Prop} {p q : α → Prop}
    {p' q' : β → Prop} {xs : List α} {ys : List β} (h : List.Forall₂ R xs ys)
    (hp : ∀ x y, R x y → (p x ↔ p' y)) (hq : ∀ x y, R x y → (q x ↔ q' y)) :
    (∃ before x behind, xs = before ++ x :: behind ∧ (∀ v ∈ before, p v) ∧ q x) ↔
      ∃ before y behind, ys = before ++ y :: behind ∧ (∀ v ∈ before, p' v) ∧ q' y := by
  induction h with
  | nil => simp
  | cons hxy _ ih =>
    rw [exists_first_cons_iff, exists_first_cons_iff, ih, hp _ _ hxy, hq _ _ hxy]

/-! ## Places and pieces -/

section OptionRel

variable {α β γ : Type} {R : α → β → Prop} {x : Option α} {y : Option β}

theorem rel_eq_of_eq {x y : Option α} (h : x = y) : Option.Rel (· = ·) x y := by
  subst h
  rcases x with - | a
  · exact .none
  · exact .some rfl

theorem rel_getElem?_of_forall₂ {xs : List α} {ys : List β} (h : List.Forall₂ R xs ys) (i : Nat) :
    Option.Rel R xs[i]? ys[i]? := by
  induction h generalizing i with
  | nil => exact .none
  | cons hxy _ ih =>
    rcases i with - | i
    · exact .some hxy
    · exact ih i

/-- What stands at a place of one list and at a place of another one, if the same can be told of
    both elements. -/
theorem map_eq_of_rel {f : α → γ} {g : β → γ} (h : Option.Rel R x y)
    (hfg : ∀ u v, R u v → f u = g v) : x.map f = y.map g := by
  cases h with
  | some huv => exact congrArg some (hfg _ _ huv)
  | none => rfl

theorem map_eq_true_of_rel {f : α → Bool} {g : β → Bool} (h : Option.Rel R x y)
    (hfg : ∀ u v, R u v → f u → g v) (hx : x.map f = some true) : y.map g = some true := by
  cases h with
  | some huv => exact congrArg some (hfg _ _ huv (Option.some.inj hx))
  | none => cases hx

end OptionRel

/-- Elements which are changed place by place, and those to which they are related. -/
theorem forall₂_mapIdx {α β : Type} {R : α → β → Prop} {S : Nat → α → α → Prop} {f : Nat → β → β}
    {xs xs' : List α} {ys : List β} (h : List.Forall₂ R xs ys)
    (hS : ∀ i, Option.Rel (S i) xs[i]? xs'[i]?)
    (hf : ∀ i x x' y, R x y → S i x x' → R x' (f i y)) : List.Forall₂ R xs' (ys.mapIdx f) := by
  induction h generalizing xs' S f with
  | nil =>
    rcases xs' with - | ⟨x', xs'⟩
    · exact .nil
    · cases hS 0
  | cons hxy _ ih =>
    rcases xs' with - | ⟨x', xs'⟩
    · cases hS 0
    · rw [List.mapIdx_cons]
      refine .cons ?_ (ih (fun i => hS (i + 1)) fun i => hf (i + 1))
      cases hS 0 with
      | some hx => exact hf 0 _ _ _ hxy hx

theorem getElem?_concat_eq_some_iff {α : Type} {xs : List α} {x v : α} {k : Nat} :
    (xs ++ [x])[k]? = some v ↔ xs[k]? = some v ∨ k = xs.length ∧ x = v := by
  rcases Nat.lt_trichotomy k xs.length with hlt | rfl | hgt
  · rw [List.getElem?_append_left hlt]
    simp [Nat.ne_of_lt hlt]
  · simp
  · have hnone : (xs ++ [x])[k]? = none :=
      List.getElem?_eq_none (by rw [List.length_append, List.length_singleton]; omega)
    simp [hnone, List.getElem?_eq_none (Nat.le_of_lt hgt), Nat.ne_of_gt hgt]

theorem exists_map_eq_flatten {α β : Type} {f : α → β} {l : List α} {parts : List (List β)}
    (h : l.map f = parts.flatten) :
    ∃ ps : List (List α), l = ps.flatten ∧ ps.map (List.map f) = parts := by
  induction parts generalizing l with
  | nil => exact ⟨[], by simpa using h, rfl⟩
  | cons part parts ih =>
    obtain ⟨p, l', rfl, rfl, hl⟩ := List.map_eq_append_iff.1 h
    obtain ⟨ps, rfl, rfl⟩ := ih hl
    exact ⟨p :: ps, rfl, rfl⟩

end Interlock
