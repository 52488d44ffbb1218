import Interlock.Proofs.Report.Search
import Interlock.Proofs.Report.Verdicts

/-!
# Reports and rule sets

A rule set answers whether it blocks an action by itself, or against another one, and a report is
made of such answers. The judgement puts its questions in a fixed order: for every action, first the
one about this action alone, then those against all earlier actions. Where failures end the
judgement, it fails with the first question which fails, and with no other; otherwise its flags are
the answers.

* `RuleSet.Query`: the questions. `RuleSet.Query.all`: those on a joint action, in their order.
* `RuleSet.FailsWith`: the first question which fails does so with this error.
* `Report.judgeFrom_eq_error_iff`: the loop fails with the first question which fails.
* `Report.Agrees`: the flags of a report are answers.
-/

namespace Interlock

namespace RuleSet

/-- What a rule set can be asked. -/
inductive Query where
  /-- An applicability rule blocks the action. -/
  | blocks (a : Action)
  /-- A conflict rule blocks an action against another one. -/
  | conflicts (requesting restricting : Action)

/-- What the rule set answers to a question. -/
def answer (s : RuleSet) : Query → Except Error Bool
  | .blocks a => (s.blocks a).result
  | .conflicts a b => (s.conflicts a b).result

namespace Query

/-- The questions on an action behind earlier ones: by itself, then against each of these. -/
def on (earlier : List Action) (a : Action) : List Query := .blocks a :: earlier.map (.conflicts a)

/-- The questions on some actions behind earlier ones, one action after the other. -/
def behind (earlier actions : List Action) : List Query :=
  (actions.zipIdx earlier.length).flatMap fun x => on ((earlier ++ actions).take x.2) x.1

/-- The questions on a joint action. -/
def all (actions : List Action) : List Query := behind [] actions

theorem behind_cons (earlier : List Action) (a : Action) (actions : List Action) :
    behind earlier (a :: actions) = on earlier a ++ behind (earlier ++ [a]) actions := by
  simp [behind, List.zipIdx_cons]

theorem mem_all_iff {actions : List Action} {q : Query} : q ∈ all actions ↔
    ∃ i a, actions[i]? = some a ∧ q ∈ on (actions.take i) a := by
  simp only [all, behind, List.mem_flatMap, Prod.exists, List.length_nil, List.nil_append,
    List.mem_zipIdx_iff_getElem?]
  exact exists_comm

theorem blocks_mem_all {actions : List Action} {i : Nat} {a : Action} (ha : actions[i]? = some a) :
    blocks a ∈ all actions :=
  mem_all_iff.2 ⟨i, a, ha, List.mem_cons_self⟩

theorem conflicts_mem_all {actions : List Action} {i j : Nat} {a b : Action}
    (ha : actions[i]? = some a) (hb : actions[j]? = some b) (hj : j < i) :
    conflicts a b ∈ all actions := by
  have hmem : b ∈ actions.take i := List.mem_of_getElem? (by rw [List.getElem?_take_of_lt hj, hb])
  exact mem_all_iff.2 ⟨i, a, ha, List.mem_cons_of_mem _ (List.mem_map_of_mem hmem)⟩

end Query

/-- The questions up to one of them are answered, and this one fails with the error. -/
def FailsWith (s : RuleSet) (queries : List Query) (e : Error) : Prop :=
  ∃ before q behind, queries = before ++ q :: behind ∧ (∀ u ∈ before, ∃ v, s.answer u = .ok v) ∧
    s.answer q = .error e

theorem failsWith_iff {s : RuleSet} {queries : List Query} {e : Error} :
    s.FailsWith queries e ↔ queries.mapM s.answer = .error e :=
  mapM_eq_error_iff.symm

/-! ## Answers are searches -/

/-- The two searches of a rule set differ only in the actions for which a rule is evaluated, and in
    what they record when they find one. -/
theorem result_search {f : List Rule → Traced (Option Rule)} {x : Action} {y : Option Action}
    {event : Rule → Event} (hnil : f [] = return none)
    (hcons : ∀ r rs, f (r :: rs) = do
      if ← r.evaluate x y then
        .emit (event r)
        return some r
      else f rs) (rs : List Rule) :
    (do return (← f rs).isSome : Traced Bool).result = rs.anyM fun r => r.evaluate x y := by
  induction rs with
  | nil =>
    rw [hnil]
    rfl
  | cons r rs ih =>
    rw [hcons, bind_assoc, Traced.result_liftM_bind, List.anyM_cons]
    rcases r.evaluate x y with e | (- | -)
    · rfl
    · exact ih
    · rfl

variable {p : Policy} {s : RuleSet}

theorem answer_blocks (hp : p.onFailure = .abort) (a : Action) :
    s.answer (.blocks a) = (Report.anyFires p a none s.applicability).result := by
  rw [Report.result_anyFires hp]
  exact result_search rfl (fun _ _ => rfl) s.applicability

theorem answer_conflicts (hp : p.onFailure = .abort) (a b : Action) :
    s.answer (.conflicts a b) = (Report.anyFires p a (some b) s.conflict).result := by
  rw [Report.result_anyFires hp]
  exact result_search rfl (fun _ _ => rfl) s.conflict

end RuleSet

namespace Report

open RuleSet

variable {p : Policy} {s : RuleSet} {isFree : Vertex → Bool} {e : Error}

/-! ## The first failure -/

theorem result_hits (hp : p.onFailure = .abort) (a : Action) (bs : List Action) :
    (hits p s a bs).result = bs.mapM fun b => s.answer (.conflicts a b) := by
  induction bs with
  | nil => rfl
  | cons b bs ih =>
    simp only [hits, Traced.result_bind, List.mapM_cons, answer_conflicts hp a b, ← ih]
    rfl

/-- The questions on one action are two searches of the loop. -/
theorem mapM_on (hp : p.onFailure = .abort) (earlier : List Action) (a : Action) :
    (Query.on earlier a).mapM s.answer = (do
      let blocked ← (anyFires p a none s.applicability).result
      let hs ← (hits p s a earlier).result
      return blocked :: hs) := by
  rw [Query.on, List.mapM_cons, List.mapM_map, answer_blocks hp, result_hits hp]
  rfl

theorem judgeFrom_eq_error_iff (hp : p.onFailure = .abort) {earlier : List (Action × Verdict)}
    {as : List Action} : (judgeFrom p s isFree earlier as).result = .error e ↔
      (Query.behind (earlier.map Prod.fst) as).mapM s.answer = .error e := by
  induction as generalizing earlier with
  | nil => simp [judgeFrom, Query.behind, pure, Except.pure]
  | cons a as ih =>
    rw [Query.behind_cons, mapM_append_eq_error_iff, mapM_on hp, judgeFrom]
    rcases hblocked : (anyFires p a none s.applicability).result with e' | blocked
    · simp [hblocked, bind, Except.bind]
    rcases hhits : (hits p s a (earlier.map Prod.fst)).result with e' | hs
    · simp [hblocked, hhits, bind, Except.bind]
    -- The questions on this action are answered. The others are those on the actions behind it,
    -- which the loop puts with one more action among the earlier ones.
    have hlength : (earlier.map Prod.fst).length = hs.length :=
      (mapM_eq_ok_iff.1 ((result_hits hp a _).symm.trans hhits)).length_eq
    have hrest (v : Verdict) : (judgeFrom p s isFree (marked earlier hs ++ [(a, v)]) as).result =
        .error e ↔ (Query.behind (earlier.map Prod.fst ++ [a]) as).mapM s.answer = .error e := by
      rw [ih, List.map_append, map_fst_marked hlength, List.map_singleton]
    simp only [Traced.result_bind, hblocked, hhits]
    refine (hrest _).trans ?_
    simp [bind, Except.bind, pure, Except.pure]

/-- Where failures end the judgement, it fails with the first question which fails. -/
theorem judge_eq_error_iff (hp : p.onFailure = .abort) {actions : List Action} :
    (judge p s isFree actions).result = .error e ↔ s.FailsWith (Query.all actions) e := by
  have hloop : (judgeFrom p s isFree [] actions).result = .error e ↔
      (Query.all actions).mapM s.answer = .error e := judgeFrom_eq_error_iff hp
  rw [failsWith_iff, ← hloop, judge, Traced.result_bind_eq_error_iff]
  -- Behind the loop, only the event is left.
  refine or_iff_left ?_
  rintro ⟨judged, -, h⟩
  cases h

/-! ## The flags -/

/-- The flags of a report are answers of the rule set: the one about each action by itself, and the
    disjunction of those about all pairs with this action, of which the later one requests. -/
structure Agrees (s : RuleSet) (actions : List Action) (report : Report) : Prop where
  blocked : ∀ (i : Nat) a, actions[i]? = some a →
    ∃ v, s.answer (.blocks a) = .ok v ∧ report.blocked[i]? = some v
  conflicting : ∀ (i : Nat) a, actions[i]? = some a → ∃ v : Bool, report.conflicting[i]? = some v ∧
    (v ↔ (∃ j b, j < i ∧ actions[j]? = some b ∧ s.answer (.conflicts a b) = .ok true) ∨
      ∃ k b, i < k ∧ actions[k]? = some b ∧ s.answer (.conflicts b a) = .ok true)

variable {rules : List Rule} {actions : List Action} {report : Report}

/-- If there is a report, then all questions were answered. -/
theorem exists_answer_of_judge (hp : p.onFailure = .abort)
    (h : (judge p s isFree actions).result = .ok report) {q : Query} (hq : q ∈ Query.all actions) :
    ∃ v, s.answer q = .ok v := by
  rcases hall : (Query.all actions).mapM s.answer with e | vs
  · cases h.symm.trans ((judge_eq_error_iff hp).2 (failsWith_iff.2 hall))
  · obtain ⟨v, -, hv⟩ := exists_of_mem_left (mapM_eq_ok_iff.1 hall) hq
    exact ⟨v, hv⟩

theorem isBlocked_iff (hp : p.onFailure = .abort) {a : Action} {v : Bool}
    (h : (RuleSet.ofList rules).answer (.blocks a) = .ok v) : IsBlocked rules a ↔ v := by
  rw [answer_blocks hp] at h
  exact ((anyFires_eq_ok h).trans exists_applicability_iff).symm

theorem isConflict_iff (hp : p.onFailure = .abort) {a b : Action}
    (h : ∃ v, (RuleSet.ofList rules).answer (.conflicts a b) = .ok v) :
    IsConflict rules a b ↔ (RuleSet.ofList rules).answer (.conflicts a b) = .ok true := by
  obtain ⟨v, hv⟩ := h
  rw [hv, Except.ok.injEq]
  rw [answer_conflicts hp] at hv
  exact ((anyFires_eq_ok hv).trans exists_conflict_iff).symm

theorem agrees_of_judge (hp : p.onFailure = .abort)
    (h : (judge p (RuleSet.ofList rules) isFree actions).result = .ok report) :
    report.Agrees (RuleSet.ofList rules) actions where
  blocked i a ha := by
    obtain ⟨v, hv⟩ := exists_answer_of_judge hp h (Query.blocks_mem_all ha)
    obtain ⟨w, hw, hverdict⟩ := exists_isVerdict h ha
    refine ⟨v, hv, ?_⟩
    have hflag : w.blocked = v := by
      rw [Bool.eq_iff_iff, hverdict.blocked, isBlocked_iff hp hv]
    simp [Report.blocked, hw, hflag]
  conflicting i a ha := by
    obtain ⟨w, hw, hverdict⟩ := exists_isVerdict h ha
    refine ⟨w.conflicting, by simp [Report.conflicting, hw], ?_⟩
    rw [hverdict.conflicting, exists_inConflict_iff ha]
    -- Each pair was asked about, so that its answer tells whether it is in conflict.
    refine or_congr ?_ ?_
    · refine exists_congr fun j => exists_congr fun b => and_congr_right fun hj =>
        and_congr_right fun hb => ?_
      exact isConflict_iff hp (exists_answer_of_judge hp h (Query.conflicts_mem_all ha hb hj))
    · refine exists_congr fun k => exists_congr fun b => and_congr_right fun hk =>
        and_congr_right fun hb => ?_
      exact isConflict_iff hp (exists_answer_of_judge hp h (Query.conflicts_mem_all hb ha hk))

/-- Where failures end the judgement, it comes to the same as asking the rule set about every
    action, and about every pair, in this order: it fails with an error just if the first question
    which fails does; and otherwise there is a report, whose flags are the answers. -/
theorem judge_agrees (rules : List Rule) (checkOccupancy : Bool) (isFree : Vertex → Bool)
    (actions : List Action) :
    (∀ e, (judge ⟨.abort, checkOccupancy⟩ (RuleSet.ofList rules) isFree actions).result =
        .error e ↔ (RuleSet.ofList rules).FailsWith (Query.all actions) e) ∧
    ((∃ e, (RuleSet.ofList rules).FailsWith (Query.all actions) e) ∨
      ∃ report, (judge ⟨.abort, checkOccupancy⟩ (RuleSet.ofList rules) isFree actions).result =
        .ok report ∧ report.Agrees (RuleSet.ofList rules) actions) := by
  refine ⟨fun e => judge_eq_error_iff rfl, ?_⟩
  rcases h : (judge ⟨.abort, checkOccupancy⟩ (RuleSet.ofList rules) isFree actions).result with
    e | report
  · exact .inl ⟨e, (judge_eq_error_iff rfl).1 h⟩
  · exact .inr ⟨report, rfl, agrees_of_judge rfl h⟩

end Report

end Interlock
