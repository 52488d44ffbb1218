import Interlock.Proofs.Draft.Progress
import Interlock.Proofs.Draft.Soundness

/-!
# Binding a draft early and late

The actions of a rule can be bound while it is drafted, or when the finished rule is evaluated. The
two ways ask for the parts of a rule in different orders: a draft which is built looks for its
actions before it makes the predicate, and a rule has its predicate before it is given any action.
Whatever calls a draft got, this cannot be told from the outside, as the clauses of a draft which
passes its checks always make a predicate.

* `Draft.Coherent.build_eq`: a draft with a requesting action gives the bound rule that its rule
  gives for the actions of the draft, or fails with the same error.
* `Draft.build_congr`: without a second name, the restricting action does not matter.
* `Draft.build_agrees`: the two ways to an evaluation, after any calls.
-/

namespace Interlock

namespace Draft

variable {d : Draft} {n : Nat} {x : Action}

/-! ## Parts of a draft which is complete -/

/-- The actions that a check demands are those of the declared names. -/
theorem check_eq (hcheck : d.checkDeclarations = .ok ()) (hx : d.requesting = some x) :
    d.check = if d.restrictingName.isSome && d.restricting.isNone then
      .error { cause := .missingBinding Slot.restricting.role } else .ok () := by
  rw [check, hcheck, hx]
  rfl

/-- A draft whose declarations are in order gives the rule with its names and its clauses. -/
theorem Coherent.exists_toRule_eq (h : d.Coherent n) (hcheck : d.checkDeclarations = .ok ()) :
    ∃ r p, d.requestingName = some r ∧ d.predicate = .ok p ∧
      d.toRule = .ok ⟨r, d.restrictingName, p⟩ := by
  obtain ⟨-, hne, -, hname, -⟩ := checkDeclarations_eq_ok_iff.1 hcheck
  obtain ⟨r, hr⟩ := Option.ne_none_iff_exists'.1 hname
  refine ⟨r, _, hr, h.predicate_eq hne, ?_⟩
  rw [toRule, hcheck, h.predicate_eq hne, hr]
  rfl

/-! ## Two ways to a bound rule -/

/-- A draft is built into its rule, bound to the actions of the draft. -/
theorem Coherent.build_eq (h : d.Coherent n) (hx : d.requesting = some x) :
    d.build = d.toRule >>= fun r => r.bind x d.restricting := by
  rcases hcheck : d.checkDeclarations with err | u
  -- Both begin with the same check of the names.
  · rw [build, check, toRule, hcheck]
    rfl
  · obtain ⟨r, p, hr, hp, hrule⟩ := h.exists_toRule_eq hcheck
    rw [build, check_eq hcheck hx, hrule, hr, hx, hp]
    rcases hq : d.restrictingName with - | q
    · rfl
    · rcases hy : d.restricting with - | y
      -- The draft misses the action in its check, and the rule when it is bound.
      · rfl
      · rfl

/-! ## An action without a name -/

/-- A restricting action is looked at only for the name of its slot. -/
theorem build_congr (hq : d.restrictingName = none) (y : Option Action) :
    { d with restricting := y }.build = d.build := by
  cases d
  cases hq
  rfl

/-- A draft declares a single name just if its rule does. -/
theorem isSingle_of_toRule {r : Rule} (hr : d.toRule = .ok r) : d.isSingle = .ok r.isSingle := by
  obtain ⟨-, -, hrequesting, hrestricting, -⟩ := toRule_eq_ok_iff.1 hr
  rw [isSingle, hrequesting, hrestricting]
  rfl

/-- Whatever calls a draft got, if they bound a requesting action, it does not matter whether the
    draft is built and evaluated, or made into a rule and this evaluated for the actions of the
    draft: the results are the same, and so are the errors. The draft and its rule agree on whether
    they judge one action alone; and if no second name was declared, a second action, bound or not,
    makes no difference to any of this. -/
theorem build_agrees (calls : List Call) (hx : (empty.run calls).1.requesting = some x) :
    let d := (empty.run calls).1
    d.build >>= BoundRule.evaluate = d.toRule >>= (fun r => r.evaluate x d.restricting) ∧
      (∀ r, d.toRule = .ok r → d.isSingle = .ok r.isSingle) ∧
      (d.restrictingName = none → ∀ y : Option Action,
        let e := { d with restricting := y }
        e.build = d.build ∧ e.toRule = d.toRule ∧ e.isSingle = d.isSingle ∧
          e.toRule >>= (fun r => r.evaluate x y) =
            d.toRule >>= (fun r => r.evaluate x d.restricting)) := by
  intro d
  have hd : d.Coherent (0 + empty.taken calls) := coherent_empty.run calls
  have hevaluate {e : Draft} (he : e.Coherent (0 + empty.taken calls)) (hx : e.requesting = some x) :
      e.build >>= BoundRule.evaluate = e.toRule >>= fun r => r.evaluate x e.restricting := by
    rw [he.build_eq hx, bind_assoc]
    rfl
  refine ⟨hevaluate hd hx, fun r => isSingle_of_toRule, fun hq y => ?_⟩
  intro e
  refine ⟨build_congr hq y, rfl, rfl, ?_⟩
  have he : e.Coherent (0 + empty.taken calls) := { hd with }
  calc e.toRule >>= (fun r => r.evaluate x y)
    _ = e.build >>= BoundRule.evaluate := (hevaluate he hx).symm
    _ = d.build >>= BoundRule.evaluate := by rw [build_congr hq y]
    _ = d.toRule >>= fun r => r.evaluate x d.restricting := hevaluate hd hx

/-- Calls which build the rule against waiting, with a second action bound to no name. -/
def waitingCalls : List Call :=
  [.bind .restricting (.waiting 1), .declare "entry1" "a", .feed "a.orig", .feed "IS",
    .feed "a.dest", .bind .requesting (.waiting 0)]

/-- Calls which build the rule against equal cells, and bind only one of its two actions. -/
def halfBoundCalls : List Call :=
  [.declare "entry1" "a", .declare "entry2" "b", .bind .requesting (.waiting 0), .feed "a.dest",
    .feed "IS", .feed "b.dest"]

/-- The draft against waiting gives `true` in both ways, with its second action and without it. The
    other one lacks an action in both ways. -/
theorem build_agrees_waiting :
    let d := (empty.run waitingCalls).1
    let e := (empty.run halfBoundCalls).1
    d.requesting = some (.waiting 0) ∧ d.restricting = some (.waiting 1) ∧
      d.restrictingName = none ∧
      d.build >>= BoundRule.evaluate = .ok true ∧
      d.toRule >>= (fun r => r.evaluate (.waiting 0) (some (.waiting 1))) = .ok true ∧
      d.toRule >>= (fun r => r.evaluate (.waiting 0) none) = .ok true ∧
      (∀ r, d.toRule = .ok r → d.isSingle = .ok r.isSingle) ∧ (∃ r, d.toRule = .ok r) ∧
      e.build >>= BoundRule.evaluate = .error { cause := .missingBinding "restricting" } ∧
      e.toRule >>= (fun r => r.evaluate (.waiting 0) none) =
        .error { cause := .missingBinding "restricting" } := by
  intro d e
  obtain ⟨heq, hsingle, hframe⟩ := build_agrees waitingCalls (x := .waiting 0) rfl
  obtain ⟨-, -, -, hnone⟩ := hframe rfl none
  have hbuild : d.build >>= BoundRule.evaluate = .ok true := rfl
  have hmissing : e.build >>= BoundRule.evaluate =
    .error { cause := .missingBinding "restricting" } := rfl
  exact ⟨rfl, rfl, rfl, hbuild, heq.symm.trans hbuild, hnone.trans (heq.symm.trans hbuild), hsingle,
    ⟨_, rfl⟩, hmissing, (build_agrees halfBoundCalls (x := .waiting 0) rfl).1.symm.trans hmissing⟩

end Draft

end Interlock
