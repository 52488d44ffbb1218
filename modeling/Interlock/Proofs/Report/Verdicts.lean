import Interlock.Proofs.Report.Specification

/-!
# The verdicts of a report

A report has one verdict for each action, at the place of the action, and this verdict is right
among all actions of the step.

* `Report.exists_isVerdict`: the verdict on the action at a place.
* `Report.length_verdicts`: there are no other verdicts.
* `Report.rel_verdicts`: two reports at two places where related actions stand.
  `Report.getElem?_map_verdicts_eq`, `Report.getElem?_map_verdicts_mono`: what they say of it if the
  actions are the same.
* `Report.IsVerdict.occupied_eq`, `Report.IsVerdict.blocked_eq`: two right verdicts on one action
  agree as far as the action alone matters.
* `Report.exists_inConflict_iff`: with which actions one is in conflict, the earlier ones and the
  later ones apart.
-/

namespace Interlock

namespace Report

variable {p : Policy} {rules : List Rule} {isFree : Vertex → Bool} {actions : List Action}
  {report : Report}

/-- The report is made of the verdicts which the loop leaves for all actions. -/
theorem exists_judged_of_judge
    (h : (judge p (RuleSet.ofList rules) isFree actions).result = .ok report) :
    ∃ judged, report.verdicts = judged.map Prod.snd ∧ judged.map Prod.fst = actions ∧
      Judged p rules isFree judged := by
  simp only [judge, Traced.result_bind_eq_ok_iff] at h
  obtain ⟨judged, hjudge, -, -, hreport⟩ := h
  obtain ⟨hjudged, hfst⟩ := judged_of_judgeFrom hjudge (by simp [Judged])
  cases hreport
  exact ⟨judged, rfl, by simpa using hfst, hjudged⟩

theorem exists_isVerdict (h : (judge p (RuleSet.ofList rules) isFree actions).result = .ok report)
    {i : Nat} {a : Action} (ha : actions[i]? = some a) :
    ∃ v, report.verdicts[i]? = some v ∧ IsVerdict p rules isFree actions i a v := by
  obtain ⟨judged, hverdicts, rfl, hjudged⟩ := exists_judged_of_judge h
  obtain ⟨⟨a', v⟩, hv, rfl⟩ : ∃ e, judged[i]? = some e ∧ e.1 = a := by simpa using ha
  exact ⟨v, by simp [hverdicts, hv], hjudged i a' v hv⟩

theorem length_verdicts (h : (judge p (RuleSet.ofList rules) isFree actions).result = .ok report) :
    report.verdicts.length = actions.length := by
  obtain ⟨judged, hverdicts, rfl, -⟩ := exists_judged_of_judge h
  simp [hverdicts]

section TwoReports

variable {p' : Policy} {rules' : List Rule} {isFree' : Vertex → Bool} {actions' : List Action}
  {report' : Report} {i j : Nat}

/-- At two places where two joint actions have related actions, or none, their reports have right
    verdicts on them, or none. All else may be different. -/
theorem rel_verdicts {R : Action → Action → Prop}
    (h : (judge p (RuleSet.ofList rules) isFree actions).result = .ok report)
    (h' : (judge p' (RuleSet.ofList rules') isFree' actions').result = .ok report')
    (hij : Option.Rel R actions[i]? actions'[j]?) :
    Option.Rel (fun v w => ∃ a a', R a a' ∧ IsVerdict p rules isFree actions i a v ∧
      IsVerdict p' rules' isFree' actions' j a' w) report.verdicts[i]? report'.verdicts[j]? := by
  generalize ha : actions[i]? = x, ha' : actions'[j]? = y at hij
  cases hij with
  | some hrel =>
    obtain ⟨v, hv, hverdict⟩ := exists_isVerdict h ha
    obtain ⟨w, hw, hverdict'⟩ := exists_isVerdict h' ha'
    rw [hv, hw]
    exact .some ⟨_, _, hrel, hverdict, hverdict'⟩
  -- Behind the last action, there are no verdicts.
  | none =>
    rw [List.getElem?_eq_none_iff] at ha ha'
    rw [List.getElem?_eq_none (by rwa [length_verdicts h]),
      List.getElem?_eq_none (by rwa [length_verdicts h'])]
    exact .none

/-- What is the same in right verdicts on related actions is the same in the reports. -/
theorem getElem?_map_verdicts_eq_of_rel {β : Type} {f : Verdict → β} {R : Action → Action → Prop}
    (h : (judge p (RuleSet.ofList rules) isFree actions).result = .ok report)
    (h' : (judge p' (RuleSet.ofList rules') isFree' actions').result = .ok report')
    (hij : Option.Rel R actions[i]? actions'[j]?)
    (hf : ∀ a a' v w, R a a' → IsVerdict p rules isFree actions i a v →
      IsVerdict p' rules' isFree' actions' j a' w → f v = f w) :
    (report.verdicts.map f)[i]? = (report'.verdicts.map f)[j]? := by
  rw [List.getElem?_map, List.getElem?_map]
  exact map_eq_of_rel (rel_verdicts h h' hij) fun v w ⟨a, a', hrel, hv, hw⟩ =>
    hf a a' v w hrel hv hw

/-- What is the same in right verdicts on one action is the same in the reports. -/
theorem getElem?_map_verdicts_eq {β : Type} {f : Verdict → β}
    (h : (judge p (RuleSet.ofList rules) isFree actions).result = .ok report)
    (h' : (judge p (RuleSet.ofList rules') isFree actions').result = .ok report')
    (hij : actions'[j]? = actions[i]?)
    (hf : ∀ a v w, IsVerdict p rules isFree actions i a v →
      IsVerdict p rules' isFree actions' j a w → f v = f w) :
    (report.verdicts.map f)[i]? = (report'.verdicts.map f)[j]? := by
  refine getElem?_map_verdicts_eq_of_rel h h' (rel_eq_of_eq hij.symm) ?_
  rintro a _ v w rfl
  exact hf a v w

/-- A flag which goes over from right verdicts to right verdicts goes over from report to report. -/
theorem getElem?_map_verdicts_mono {f : Verdict → Bool}
    (h : (judge p (RuleSet.ofList rules) isFree actions).result = .ok report)
    (h' : (judge p (RuleSet.ofList rules') isFree actions').result = .ok report')
    (hij : actions'[j]? = actions[i]?)
    (hf : ∀ a v w, IsVerdict p rules isFree actions i a v →
      IsVerdict p rules' isFree actions' j a w → f v → f w) :
    (report.verdicts.map f)[i]? = some true → (report'.verdicts.map f)[j]? = some true := by
  rw [List.getElem?_map, List.getElem?_map]
  refine map_eq_true_of_rel (rel_verdicts h h' (rel_eq_of_eq hij.symm)) ?_
  rintro v w ⟨a, _, rfl, hv, hw⟩
  exact hf a v w hv hw

end TwoReports

section IsVerdict

variable {rules' : List Rule} {actions' : List Action} {i j : Nat} {a : Action} {v w : Verdict}

/-- Whether an action goes to a cell which is taken depends on the action alone. -/
theorem IsVerdict.occupied_eq (hv : IsVerdict p rules isFree actions i a v)
    (hw : IsVerdict p rules' isFree actions' j a w) : v.occupied = w.occupied := by
  rw [Bool.eq_iff_iff, hv.occupied, hw.occupied]

/-- Whether an action is blocked by itself does not depend on the other actions. -/
theorem IsVerdict.blocked_eq (hv : IsVerdict p rules isFree actions i a v)
    (hw : IsVerdict p rules isFree actions' j a w) : v.blocked = w.blocked := by
  rw [Bool.eq_iff_iff, hv.blocked, hw.blocked]

end IsVerdict

theorem inConflict_comm {i j : Nat} :
    InConflict rules actions i j ↔ InConflict rules actions j i := by
  rw [InConflict, InConflict, ne_comm, Nat.max_comm, Nat.min_comm]

theorem inConflict_iff_of_lt {i j : Nat} (h : j < i) : InConflict rules actions i j ↔
    ∃ a b, actions[i]? = some a ∧ actions[j]? = some b ∧ IsConflict rules a b := by
  rw [InConflict, Nat.max_eq_left (Nat.le_of_lt h), Nat.min_eq_right (Nat.le_of_lt h)]
  exact and_iff_right (Nat.ne_of_gt h)

/-- An action requests against the earlier ones, and the later ones request against it. -/
theorem exists_inConflict_iff {i : Nat} {a : Action} (ha : actions[i]? = some a) :
    (∃ j, InConflict rules actions i j) ↔
      (∃ j b, j < i ∧ actions[j]? = some b ∧ IsConflict rules a b) ∨
        ∃ k b, i < k ∧ actions[k]? = some b ∧ IsConflict rules b a := by
  constructor
  · rintro ⟨j, h⟩
    rcases Nat.lt_or_gt_of_ne h.1 with hlt | hlt
    · obtain ⟨b, a', hb, ha', hconflict⟩ := (inConflict_iff_of_lt hlt).1 (inConflict_comm.1 h)
      cases ha.symm.trans ha'
      exact .inr ⟨j, b, hlt, hb, hconflict⟩
    · obtain ⟨a', b, ha', hb, hconflict⟩ := (inConflict_iff_of_lt hlt).1 h
      cases ha.symm.trans ha'
      exact .inl ⟨j, b, hlt, hb, hconflict⟩
  · rintro (⟨j, b, hlt, hb, hconflict⟩ | ⟨k, b, hlt, hb, hconflict⟩)
    · exact ⟨j, (inConflict_iff_of_lt hlt).2 ⟨a, b, ha, hb, hconflict⟩⟩
    · exact ⟨k, inConflict_comm.1 ((inConflict_iff_of_lt hlt).2 ⟨b, a, hb, ha, hconflict⟩)⟩

end Report

end Interlock
