import Interlock.Proofs.Report.Verdicts
import Mathlib.Logic.Equiv.Basic

/-!
# The order of the actions

A joint action is judged in the order in which it is given: of two actions, the later one requests.
The order is without effect if the conflict rules are symmetric on these actions. Then the actions
may be rearranged, and the verdicts are rearranged with them.

* `Rearranges`: a list is a rearrangement of another one, by a permutation of the places.
  `exists_rearranges_of_perm`: so is every list with the same elements.
* `Report.inConflict_iff_of_symmetric`: under symmetric rules, it does not matter which of two
  actions requests.
* `Report.rearranges_map_verdicts`: what is the same in right verdicts on the same actions is
  rearranged with the actions. `Report.rearranges_verdicts`: under symmetric rules, these are the
  verdicts as a whole.
-/

namespace Interlock

/-- At each place of the second list stands what the first one has at the place to which the
    permutation sends it. -/
def Rearranges {α : Type} (σ : Equiv.Perm ℕ) (xs ys : List α) : Prop := ∀ i : ℕ, ys[i]? = xs[σ i]?

namespace Rearranges

variable {α β : Type} {σ : Equiv.Perm ℕ} {xs ys : List α}

theorem map (h : Rearranges σ xs ys) (f : α → β) : Rearranges σ (xs.map f) (ys.map f) := by
  intro i
  rw [List.getElem?_map, List.getElem?_map, h i]

theorem mem_of_mem (h : Rearranges σ xs ys) {y : α} (hy : y ∈ ys) : y ∈ xs := by
  obtain ⟨i, hi⟩ := List.getElem?_of_mem hy
  exact List.mem_of_getElem? ((h i).symm.trans hi)

end Rearranges

section Perm

variable {α : Type}

/-- The permutation of the places behind the first one, which stays where it is. -/
def behindFirst (σ : Equiv.Perm ℕ) : Equiv.Perm ℕ where
  toFun
    | 0 => 0
    | i + 1 => σ i + 1
  invFun
    | 0 => 0
    | i + 1 => σ.symm i + 1
  left_inv i := by cases i <;> simp
  right_inv i := by cases i <;> simp

/-- The elements of a list may be brought into any order. -/
theorem exists_rearranges_of_perm {xs ys : List α} (h : xs.Perm ys) : ∃ σ, Rearranges σ xs ys := by
  induction h with
  | nil => exact ⟨Equiv.refl ℕ, fun i => rfl⟩
  | cons x _ ih =>
    obtain ⟨σ, hσ⟩ := ih
    refine ⟨behindFirst σ, ?_⟩
    rintro (- | i)
    · rfl
    · exact hσ i
  | swap x y xs =>
    refine ⟨Equiv.swap 0 1, ?_⟩
    rintro (- | - | i)
    · rfl
    · rfl
    · rw [Equiv.swap_apply_of_ne_of_ne (by omega) (by omega)]
      rfl
  | trans _ _ ih ih' =>
    obtain ⟨σ, hσ⟩ := ih
    obtain ⟨τ, hτ⟩ := ih'
    exact ⟨τ.trans σ, fun i => (hτ i).trans (hσ (τ i))⟩

end Perm

namespace Report

variable {p : Policy} {rules : List Rule} {isFree : Vertex → Bool} {actions actions' : List Action}
  {report report' : Report} {σ : Equiv.Perm ℕ}

/-- On these actions, it does not matter for a conflict which of two actions requests. -/
def IsSymmetric (rules : List Rule) (actions : List Action) : Prop :=
  ∀ a ∈ actions, ∀ b ∈ actions, IsConflict rules a b → IsConflict rules b a

theorem inConflict_iff_of_symmetric (h : IsSymmetric rules actions) {i j : ℕ} :
    InConflict rules actions i j ↔ i ≠ j ∧
      ∃ a b, actions[i]? = some a ∧ actions[j]? = some b ∧ IsConflict rules a b := by
  constructor
  · intro h'
    refine ⟨h'.1, ?_⟩
    rcases Nat.lt_or_gt_of_ne h'.1 with hlt | hlt
    · obtain ⟨b, a, hb, ha, hconflict⟩ := (inConflict_iff_of_lt hlt).1 (inConflict_comm.1 h')
      exact ⟨a, b, ha, hb, h b (List.mem_of_getElem? hb) a (List.mem_of_getElem? ha) hconflict⟩
    · exact (inConflict_iff_of_lt hlt).1 h'
  · rintro ⟨hne, a, b, ha, hb, hconflict⟩
    rcases Nat.lt_or_gt_of_ne hne with hlt | hlt
    · refine inConflict_comm.1 ((inConflict_iff_of_lt hlt).2 ⟨b, a, hb, ha, ?_⟩)
      exact h a (List.mem_of_getElem? ha) b (List.mem_of_getElem? hb) hconflict
    · exact (inConflict_iff_of_lt hlt).2 ⟨a, b, ha, hb, hconflict⟩

theorem IsSymmetric.rearranges (h : IsSymmetric rules actions)
    (hσ : Rearranges σ actions actions') : IsSymmetric rules actions' :=
  fun a ha b hb => h a (hσ.mem_of_mem ha) b (hσ.mem_of_mem hb)

/-- The permutation takes conflicts to conflicts. -/
theorem exists_inConflict_of_rearranges (h : IsSymmetric rules actions)
    (hσ : Rearranges σ actions actions') (i : ℕ) :
    (∃ j, InConflict rules actions' i j) ↔ ∃ j, InConflict rules actions (σ i) j := by
  refine Iff.trans (exists_congr fun j => ?_) σ.surjective.exists.symm
  rw [inConflict_iff_of_symmetric h, inConflict_iff_of_symmetric (h.rearranges hσ), hσ i, hσ j,
    σ.injective.ne_iff]

/-- Two right verdicts on one action are the same if its conflicts are. -/
theorem IsVerdict.unique {i j : ℕ} {a : Action} {v w : Verdict}
    (hv : IsVerdict p rules isFree actions i a v) (hw : IsVerdict p rules isFree actions' j a w)
    (h : (∃ k, InConflict rules actions i k) ↔ ∃ k, InConflict rules actions' j k) : v = w := by
  have hoccupied := hv.occupied_eq hw
  have hblocked := hv.blocked_eq hw
  have hconflicting : v.conflicting = w.conflicting := by
    rw [Bool.eq_iff_iff, hv.conflicting, hw.conflicting, h]
  cases v
  cases w
  simp_all

/-- What is the same in right verdicts on the same actions is rearranged with the actions. -/
theorem rearranges_map_verdicts {β : Type} {f : Verdict → β} (hσ : Rearranges σ actions actions')
    (hreport : (judge p (RuleSet.ofList rules) isFree actions).result = .ok report)
    (hreport' : (judge p (RuleSet.ofList rules) isFree actions').result = .ok report')
    (hf : ∀ i a v w, IsVerdict p rules isFree actions (σ i) a v →
      IsVerdict p rules isFree actions' i a w → f v = f w) :
    Rearranges σ (report.verdicts.map f) (report'.verdicts.map f) := by
  exact fun i => (getElem?_map_verdicts_eq hreport hreport' (hσ i) (hf i)).symm

theorem rearranges_verdicts (h : IsSymmetric rules actions) (hσ : Rearranges σ actions actions')
    (hreport : (judge p (RuleSet.ofList rules) isFree actions).result = .ok report)
    (hreport' : (judge p (RuleSet.ofList rules) isFree actions').result = .ok report') :
    Rearranges σ report.verdicts report'.verdicts := by
  have hid := rearranges_map_verdicts (f := id) hσ hreport hreport' fun i a v w hv hw =>
    hv.unique hw (exists_inConflict_of_rearranges h hσ i).symm
  rwa [List.map_id, List.map_id] at hid

end Report

end Interlock
