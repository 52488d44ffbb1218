import Interlock.Proofs.Draft.Soundness
import Interlock.Proofs.Report.Lenience
import Interlock.Proofs.Report.Queries

/-!
# What judgements record

A judgement puts its questions in a fixed order, and every question is a search which goes on until
a rule fires. So the events of a judgement can be read off the questions: each one leaves the
failures which were passed over on the way, and then the rule that fired, if there is one; this is
the rule which the rule set gives as the first one.

* `RuleSet.first`: the first rule which fires for a question. `RuleSet.trail`: the firings on a joint
  action, question by question.
* `RuleSet.record`: what a question leaves, with the failures which were passed over.
* `Report.events_judge`: a judgement which comes to a report records what its questions leave.
* `Report.flatMap_noted`, `Report.filter_flatMap_noted`: the firings among rules which do not fail,
  and among all rules where failures are left out.
* `Report.IsExplained`: the flags of a report, and the events, are those of the first rules.
-/

namespace Interlock

namespace RuleSet

/-! ## Questions and the rules for them -/

/-- The action which requests. -/
def Query.requesting : Query → Action
  | .blocks a => a
  | .conflicts a _ => a

/-- The action which restricts, if there is one. -/
def Query.restricting : Query → Option Action
  | .blocks _ => none
  | .conflicts _ b => some b

/-- The rules which are searched for an answer. -/
def rulesFor (s : RuleSet) : Query → List Rule
  | .blocks _ => s.applicability
  | .conflicts _ _ => s.conflict

/-- The first rule which fires for a question. -/
def first (s : RuleSet) : Query → Except Error (Option Rule)
  | .blocks a => (s.blockingRule a).result
  | .conflicts a b => (s.conflictingRule a b).result

theorem answer_eq_map_first (s : RuleSet) (q : Query) :
    s.answer q = (s.first q).map Option.isSome := by
  cases q with
  | blocks a =>
    rw [answer, blocks, Traced.result_bind, first]
    rcases (s.blockingRule a).result with e | o <;> rfl
  | conflicts a b =>
    rw [answer, conflicts, Traced.result_bind, first]
    rcases (s.conflictingRule a b).result with e | o <;> rfl

/-- The firing of the first rule, if there is one, for the action which requests. -/
def firing (s : RuleSet) (q : Query) : List Event :=
  match s.first q with
  | .ok (some r) => [.ruleFired r q.requesting]
  | _ => []

/-- The firings on a joint action: for every action, the one of the first rule which blocks it by
    itself, then those of the first rules which block it against each of the earlier actions. -/
def trail (s : RuleSet) (actions : List Action) : List Event :=
  (Query.all actions).flatMap s.firing

end RuleSet

namespace Report

open RuleSet

/-! ## What a search leaves -/

/-- What a rule leaves when it is tried, where failures do not end the search. -/
def noted (x : Action) (y : Option Action) (r : Rule) : List Event :=
  match r.evaluate x y with
  | .ok true => [.ruleFired r x]
  | .ok false => []
  | .error e => [.ruleFailed r x e]

/-- The rules which a search tries: those up to and with the first one which fires. -/
def reached (x : Action) (y : Option Action) (rules : List Rule) : List Rule :=
  rules.take (rules.findIdx (fun r => r.evaluate x y = .ok true) + 1)

theorem reached_cons (x : Action) (y : Option Action) (r : Rule) (rs : List Rule) :
    reached x y (r :: rs) = r :: if r.evaluate x y = .ok true then [] else reached x y rs := by
  rw [reached, List.findIdx_cons]
  by_cases h : r.evaluate x y = .ok true
  · simp [h]
  · simp [h, reached]

end Report

/-- What a question leaves. -/
def RuleSet.record (s : RuleSet) (q : Query) : List Event :=
  (Report.reached q.requesting q.restricting (s.rulesFor q)).flatMap
    (Report.noted q.requesting q.restricting)

namespace Report

open RuleSet

variable {p : Policy} {s : RuleSet} {x : Action} {y : Option Action} {rs : List Rule}

theorem events_fires {r : Rule} {v : Bool} (h : (fires p r x y).result = .ok v) :
    (fires p r x y).events = noted x y r := by
  rcases hr : r.evaluate x y with e | (- | -)
  · rcases hp : p.onFailure with _ | _
    · simp [fires, hr, hp, Traced.fail] at h
    · simp only [fires, hr, hp, noted]
      rfl
  · simp only [fires, hr, noted]
    rfl
  · simp only [fires, hr, noted]
    rfl

theorem events_anyFires {v : Bool} (h : (anyFires p x y rs).result = .ok v) :
    (anyFires p x y rs).events = (reached x y rs).flatMap (noted x y) := by
  induction rs with
  | nil => rfl
  | cons r rs ih =>
    rw [anyFires, Traced.result_bind_eq_ok_iff] at h
    obtain ⟨w, hw, h⟩ := h
    rw [anyFires, Traced.events_bind_of_ok hw, events_fires hw, reached_cons, List.flatMap_cons]
    have hfires := fires_eq_ok hw
    refine congrArg (noted x y r ++ ·) ?_
    rcases w with - | -
    · rw [if_neg fun hr => Bool.noConfusion (hfires.2 hr)]
      exact ih h
    · rw [if_pos (hfires.1 rfl)]
      rfl

theorem events_hits {a : Action} {bs : List Action} {hs : List Bool}
    (h : (hits p s a bs).result = .ok hs) :
    (hits p s a bs).events = (bs.map (Query.conflicts a)).flatMap s.record := by
  induction bs generalizing hs with
  | nil => rfl
  | cons b bs ih =>
    simp only [hits, Traced.result_bind_eq_ok_iff] at h
    obtain ⟨hit, hhit, hs', hhs, -⟩ := h
    rw [hits, Traced.events_bind_of_ok hhit, Traced.events_bind_of_ok hhs, events_anyFires hhit,
      ih hhs, Traced.events_pure, List.append_nil]
    rfl

/-- Each turn of the loop puts the questions on one action. -/
theorem events_judgeFrom {isFree : Vertex → Bool} {earlier judged : List (Action × Verdict)}
    {as : List Action} (h : (judgeFrom p s isFree earlier as).result = .ok judged) :
    (judgeFrom p s isFree earlier as).events =
      (Query.behind (earlier.map Prod.fst) as).flatMap s.record := by
  induction as generalizing earlier with
  | nil => rfl
  | cons a as ih =>
    simp only [judgeFrom, Traced.result_bind_eq_ok_iff] at h
    obtain ⟨blocked, hblocked, hs, hhits, h⟩ := h
    have hlength : (earlier.map Prod.fst).length = hs.length := (hits_eq_ok hhits).length_eq
    have hfst (v : Verdict) : (marked earlier hs ++ [(a, v)]).map Prod.fst =
        earlier.map Prod.fst ++ [a] := by
      rw [List.map_append, map_fst_marked hlength, List.map_singleton]
    have hrest := (ih h).trans (by rw [← marked, hfst])
    rw [judgeFrom, Traced.events_bind_of_ok hblocked, Traced.events_bind_of_ok hhits,
      events_anyFires hblocked, events_hits hhits, Query.behind_cons, Query.on,
      List.flatMap_append, List.flatMap_cons, List.append_assoc]
    exact congrArg₂ (· ++ ·) rfl (congrArg₂ (· ++ ·) rfl hrest)

/-- The questions leave everything that is recorded, but for the event at the end. -/
theorem events_judge {isFree : Vertex → Bool} {actions : List Action} {report : Report}
    (h : (judge p s isFree actions).result = .ok report) :
    (judge p s isFree actions).events = (Query.all actions).flatMap s.record ++
      [.jointActionJudged actions.length (report.applicable.count true)] := by
  simp only [judge, Traced.result_bind_eq_ok_iff] at h
  obtain ⟨judged, hjudged, -, -, h⟩ := h
  cases h
  rw [judge, Traced.events_bind_of_ok hjudged, events_judgeFrom hjudged]
  rfl

/-! ## Rules which do not fail -/

/-- Among rules which do not fail, a search leaves the firing of the first which fires. -/
theorem flatMap_noted (h : ∀ r ∈ rs, ∃ v, r.evaluate x y = .ok v) :
    (reached x y rs).flatMap (noted x y) =
      ((rs.find? fun r => r.evaluate x y = .ok true).map (.ruleFired · x)).toList := by
  induction rs with
  | nil => rfl
  | cons r rs ih =>
    rw [List.forall_mem_cons] at h
    obtain ⟨⟨v, hv⟩, hrs⟩ := h
    rw [reached_cons, List.flatMap_cons, List.find?_cons]
    rcases v with - | -
    · simpa [noted, hv] using ih hrs
    · simp [noted, hv]

/-- Without the failures, a search leaves what it does among the rules which do not fail. -/
theorem filter_flatMap_noted (h : ∀ r ∈ rs, r.isSingle ∨ y.isSome) :
    ((reached x y rs).flatMap (noted x y)).filter (·.level ≠ .warn) =
      (reached x y (rs.filter (·.Evaluates))).flatMap (noted x y) := by
  induction rs with
  | nil => rfl
  | cons r rs ih =>
    rw [List.forall_mem_cons] at h
    have hiff := Rule.evaluates_iff (x := x) h.1
    rw [reached_cons, List.flatMap_cons, List.filter_append]
    rcases hv : r.evaluate x y with e | (- | -)
    · have hr : ¬r.Evaluates := by simp [hiff, hv]
      rw [List.filter_cons_of_neg (by simpa using hr), if_neg (by simp), ih h.2]
      simp [noted, hv, Event.level]
    · have hr : r.Evaluates := by simp [hiff, hv]
      rw [List.filter_cons_of_pos (by simpa using hr), reached_cons, hv, if_neg (by simp),
        if_neg (by simp), ih h.2]
      simp [noted, hv]
    · have hr : r.Evaluates := by simp [hiff, hv]
      rw [List.filter_cons_of_pos (by simpa using hr), reached_cons, hv, if_pos rfl, if_pos rfl]
      simp [noted, hv, Event.level]

end Report

namespace RuleSet

open Report

variable {s : RuleSet} {rules : List Rule} {q : Query}

/-- The two searches of a rule set, among rules which do not fail. -/
theorem result_search_eq_find? {f : List Rule → Traced (Option Rule)} {x : Action}
    {y : Option Action} {event : Rule → Event} (hnil : f [] = return none)
    (hcons : ∀ r rs, f (r :: rs) = do
      if ← r.evaluate x y then
        .emit (event r)
        return some r
      else f rs) {rs : List Rule} (h : ∀ r ∈ rs, ∃ v, r.evaluate x y = .ok v) :
    (f rs).result = .ok (rs.find? fun r => r.evaluate x y = .ok true) := by
  induction rs with
  | nil =>
    rw [hnil]
    rfl
  | cons r rs ih =>
    rw [List.forall_mem_cons] at h
    obtain ⟨⟨v, hv⟩, hrs⟩ := h
    rw [hcons, Traced.result_liftM_bind, List.find?_cons, hv]
    rcases v with - | -
    · exact ih hrs
    · rfl

theorem first_eq_find? (h : ∀ r ∈ s.rulesFor q, ∃ v,
    r.evaluate q.requesting q.restricting = .ok v) :
    s.first q = .ok ((s.rulesFor q).find? fun r =>
      r.evaluate q.requesting q.restricting = .ok true) := by
  cases q with
  | blocks a => exact result_search_eq_find? rfl (fun _ _ => rfl) h
  | conflicts a b => exact result_search_eq_find? rfl (fun _ _ => rfl) h

/-- Where no rule fails, a question leaves the firing of the first rule. -/
theorem record_eq_firing (h : ∀ r ∈ s.rulesFor q, ∃ v,
    r.evaluate q.requesting q.restricting = .ok v) : s.record q = s.firing q := by
  rw [record, flatMap_noted h, firing, first_eq_find? h]
  generalize (s.rulesFor q).find? _ = found
  cases found <;> rfl

theorem rulesFor_ofList_filter (keep : Rule → Bool) :
    (ofList (rules.filter keep)).rulesFor q = ((ofList rules).rulesFor q).filter keep := by
  rw [ofList_filter]
  cases q <;> rfl

/-- A question comes with as many actions as the rules for it read. -/
theorem isSingle_or_isSome {r : Rule} (h : r ∈ (ofList rules).rulesFor q) :
    r.isSingle ∨ q.restricting.isSome := by
  cases q with
  | blocks a => exact .inl (isSingle_of_mem_applicability h)
  | conflicts a b => exact .inr rfl

theorem mem_of_mem_rulesFor {r : Rule} (h : r ∈ (ofList rules).rulesFor q) : r ∈ rules := by
  rw [ofList_eq] at h
  cases q <;> exact List.mem_of_mem_filter h

theorem exists_evaluate_of_mem_rulesFor (h : ∀ r ∈ rules, r.Evaluates) {r : Rule}
    (hr : r ∈ (ofList rules).rulesFor q) :
    ∃ v, r.evaluate q.requesting q.restricting = .ok v :=
  (Rule.evaluates_iff (isSingle_or_isSome hr)).1 (h r (mem_of_mem_rulesFor hr))

theorem exists_first_eq (h : ∀ r ∈ rules, r.Evaluates) (q : Query) :
    ∃ o, (ofList rules).first q = .ok o ∧ (ofList rules).answer q = .ok o.isSome := by
  have hfirst := first_eq_find? fun r => exists_evaluate_of_mem_rulesFor (q := q) h
  exact ⟨_, hfirst, by rw [answer_eq_map_first, hfirst]; rfl⟩

/-- Without the failures, a question leaves the firing of the first rule among those which do not
    fail. -/
theorem filter_record : ((ofList rules).record q).filter (·.level ≠ .warn) =
    (ofList (rules.filter (·.Evaluates))).firing q := by
  have hkept : ∀ r ∈ rules.filter (·.Evaluates), r.Evaluates := by simp
  rw [← record_eq_firing fun r => exists_evaluate_of_mem_rulesFor hkept, record, record,
    rulesFor_ofList_filter, filter_flatMap_noted fun r => isSingle_or_isSome]

end RuleSet

namespace Report

open RuleSet

/-! ## The report and its events -/

/-- A rule set explains a report and some events: the flags of the report are its answers; each
    answer tells whether there is a first rule which fires; and the events are the firings of these
    rules and, at the end, the number of applicable actions. -/
structure IsExplained (s : RuleSet) (actions : List Action) (report : Report)
    (events : List Event) : Prop where
  agrees : report.Agrees s actions
  first : ∀ q ∈ Query.all actions, ∃ o, s.first q = .ok o ∧ s.answer q = .ok o.isSome
  events_eq : events =
    s.trail actions ++ [.jointActionJudged actions.length (report.applicable.count true)]

variable {rules : List Rule} {isFree : Vertex → Bool} {actions : List Action} {report : Report}

/-- Where failures are passed over, it is as if the rules which fail were left out. -/
theorem result_judge_filter (checkOccupancy : Bool) :
    (judge ⟨.abort, checkOccupancy⟩ (ofList (rules.filter (·.Evaluates))) isFree actions).result =
      (judge ⟨.passOver, checkOccupancy⟩ (ofList rules) isFree actions).result := by
  rw [ofList_filter]
  refine result_judge_congr ?_ (fun a => ?_) (fun a b => ?_) isFree actions
  · rfl
  · exact result_anyFires_filter rfl fun r hr => .inl (isSingle_of_mem_applicability hr)
  · exact result_anyFires_filter rfl fun r _ => .inr rfl

/-- Rules which do not fail explain every report on them. -/
theorem isExplained_of_evaluates {p : Policy} (h : ∀ r ∈ rules, r.Evaluates)
    (hjudge : (judge p (ofList rules) isFree actions).result = .ok report) :
    report.IsExplained (ofList rules) actions (judge p (ofList rules) isFree actions).events where
  agrees := by
    obtain ⟨onFailure, checkOccupancy⟩ := p
    cases onFailure with
    | abort => exact agrees_of_judge rfl hjudge
    | passOver =>
      rw [← result_judge_filter, List.filter_eq_self.2 (by simpa using h)] at hjudge
      exact agrees_of_judge rfl hjudge
  first q _ := exists_first_eq h q
  events_eq := by
    have hrecord (q : Query) : (ofList rules).record q = (ofList rules).firing q :=
      record_eq_firing fun r => exists_evaluate_of_mem_rulesFor h
    rw [events_judge hjudge, trail, funext hrecord]

/-- Where failures are passed over, the rules which do not fail explain the report, and all events
    but the failures. -/
theorem isExplained_of_passOver {checkOccupancy : Bool}
    (hjudge : (judge ⟨.passOver, checkOccupancy⟩ (ofList rules) isFree actions).result =
      .ok report) :
    report.IsExplained (ofList (rules.filter (·.Evaluates))) actions
      ((judge ⟨.passOver, checkOccupancy⟩ (ofList rules) isFree actions).events.filter
        (·.level ≠ .warn)) where
  agrees := agrees_of_judge rfl ((result_judge_filter checkOccupancy).trans hjudge)
  first q _ := exists_first_eq (by simp) q
  events_eq := by
    rw [events_judge hjudge, List.filter_append, List.filter_flatMap, trail]
    simp only [filter_record]
    rfl

/-- The events of a judgement explain its report. Rules which were read of statements never fail,
    under either policy: the flags of the report are the answers of the rule set, and the events are
    the firings of the first rules, in the order of the questions, and the number of applicable
    actions at the end. Where failures are passed over, any rules do so without those which fail;
    and every rule which is reached and fails leaves its failure at its place. -/
theorem judge_isExplained (rules : List Rule) (isFree : Vertex → Bool) (actions : List Action) :
    ((∀ r ∈ rules, ∃ t, (Rule.read t).result = .ok r) → ∀ p, ∃ report : Report,
      (judge p (ofList rules) isFree actions).result = .ok report ∧
        report.IsExplained (ofList rules) actions
          (judge p (ofList rules) isFree actions).events) ∧
    ∀ checkOccupancy, ∃ report : Report,
      (judge ⟨.passOver, checkOccupancy⟩ (ofList rules) isFree actions).result = .ok report ∧
      report.IsExplained (ofList (rules.filter (·.Evaluates))) actions
        ((judge ⟨.passOver, checkOccupancy⟩ (ofList rules) isFree actions).events.filter
          (·.level ≠ .warn)) ∧
      (judge ⟨.passOver, checkOccupancy⟩ (ofList rules) isFree actions).events =
        (Query.all actions).flatMap (ofList rules).record ++
          [.jointActionJudged actions.length (report.applicable.count true)] := by
  refine ⟨fun hread p => ?_, fun checkOccupancy => ?_⟩
  · have hrules : ∀ r ∈ rules, r.Evaluates := fun r hr x y =>
      (Rule.IsBuilt.checked (.inl (hread r hr))).exists_evaluate_eq x (.inr rfl)
    obtain ⟨report, hreport⟩ := exists_judge_of_evaluates hrules p isFree actions
    exact ⟨report, hreport, isExplained_of_evaluates hrules hreport⟩
  · obtain ⟨report, hreport⟩ := exists_judge_eq (p := ⟨.passOver, checkOccupancy⟩)
      (s := ofList rules) (searches_of_passOver rfl) isFree actions
    exact ⟨report, hreport, isExplained_of_passOver hreport, events_judge hreport⟩

theorem judge_isExplained_meeting :
    (∀ r ∈ [Rule.sameCell], ∃ t, (Rule.read t).result = .ok r) ∧
      (∃ report : Report, report.IsExplained (ofList [Rule.sameCell]) meeting
        (judge {} (ofList [Rule.sameCell]) (fun _ => true) meeting).events) ∧
      (ofList [Rule.sameCell]).trail meeting =
        [.ruleFired .sameCell ⟨⟨1, 3⟩, ⟨1, 2⟩, 0, "Move", 2⟩] := by
  have hread : ∀ r ∈ [Rule.sameCell], ∃ t, (Rule.read t).result = .ok r :=
    List.forall_mem_singleton.2 ⟨Rule.sameCell.render, by decide +kernel⟩
  obtain ⟨report, -, h⟩ := (judge_isExplained [Rule.sameCell] (fun _ => true) meeting).1 hread {}
  exact ⟨hread, ⟨report, h⟩, rfl⟩

end Report

end Interlock
