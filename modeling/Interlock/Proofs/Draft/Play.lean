import Interlock.Proofs.Draft.Step
import Interlock.Proofs.Predicate.Fold
import Interlock.Proofs.Statement.Meaning

/-!
# Drafts that take statements

What a draft comes to which takes the parts of clauses one by one. Every clause which is read of its
parts is closed, and nothing else happens to the draft: so the clauses are those which the texts
mean, in their order. The first one which cannot be read gives the error.

* `Draft.play_parts`, `Draft.play_texts`: the parts of a clause, and of a chain of them.
* `Draft.play_declarations`, `Draft.toRule_eq_ok_iff`: the declarations of names, and the rule of a
  finished draft.
-/

namespace Interlock

open Text

namespace Draft

variable {d e : Draft}

/-! ## Clauses -/

/-- The three parts of a comparison close a clause, with the connector which the draft holds. -/
theorem play_comparison {t : ClauseText} (hd : d.stage = .left)
    (ht : ∀ part ∈ t.parts, isBlankText part = false) :
    (d.play ([t.left, t.operator, t.right].map .feed)).result = (do
      let l ← Operand.read t.left
      let o ← Operator.read t.operator l.type
      let r ← Operand.read t.right
      (Clause.make l o r d.connector).map d.close) := by
  have hleft := ht t.left (by simp [ClauseText.parts])
  have hop := ht t.operator (by simp [ClauseText.parts])
  have hright := ht t.right (by simp [ClauseText.parts])
  simp only [List.map_cons, List.map_nil, play_cons]
  -- One part after the other is read, and the draft goes on from what it has taken so far.
  rw [after_feed_left hd hleft, bind_map]
  refine bind_congr fun l => ?_
  rw [after_feed_operator rfl rfl hop, bind_map]
  refine bind_congr fun o => ?_
  rw [after_feed_right rfl rfl rfl hright, bind_assoc]
  refine bind_congr fun r => ?_
  rw [bind_map]
  rcases Clause.make l o r d.connector with err | c
  · rfl
  · rfl

/-- The parts of a clause, which has no connector just if it is the first, close the clause that
    they mean. -/
theorem play_parts {t : ClauseText}
    (hd : d.stage = .left ∧ d.connector = none ∧ t.connector = none ∨
      d.stage = .connector ∧ t.connector ≠ none)
    (ht : ∀ part ∈ t.parts, isBlankText part = false) :
    (d.play (t.parts.map .feed)).result = t.read.map d.close := by
  rcases hk : t.connector with - | k
  -- A first clause consists of its comparison.
  · simp only [hk, ne_eq, not_true_eq_false, and_false, or_false, and_true] at hd
    have hparts : t.parts = [t.left, t.operator, t.right] := by simp [ClauseText.parts, hk]
    simp only [hparts, play_comparison hd.1 ht, hd.2, ClauseText.read, hk, map_bind]
    rfl
  -- Before any later one the connector is taken, and the draft holds it until the clause is closed.
  · simp only [hk, reduceCtorEq, and_false, false_or] at hd
    have hparts : t.parts = [k] ++ [t.left, t.operator, t.right] := by simp [ClauseText.parts, hk]
    have hread : t.connector.mapM Connector.read = (Connector.read k).map some := by rw [hk]; rfl
    rw [hparts, List.map_append, List.map_singleton, List.singleton_append, play_cons,
      after_feed_connector hd.1 (ht k (by simp [hparts])), ClauseText.read, hread, bind_map,
      map_bind, bind_map]
    refine bind_congr fun k' => ?_
    rw [play_comparison rfl ht]
    simp only [map_bind]
    rfl

/-- The parts of a clause close it, and then those of the clauses behind it go on from there. -/
theorem play_cons_texts {t : ClauseText} {texts : List ClauseText}
    (hd : d.stage = .left ∧ d.connector = none ∧ t.connector = none ∨
      d.stage = .connector ∧ t.connector ≠ none)
    (ht : ∀ part ∈ t.parts, isBlankText part = false)
    (hrest : ∀ c, ((d.close c).play ((texts.flatMap ClauseText.parts).map .feed)).result =
      (texts.mapM ClauseText.read).map (List.foldl close (d.close c))) :
    (d.play (((t :: texts).flatMap ClauseText.parts).map .feed)).result =
      ((t :: texts).mapM ClauseText.read).map (List.foldl close d) := by
  rw [List.flatMap_cons, List.map_append, play_append, play_parts hd ht, bind_map, List.mapM_cons,
    map_bind]
  refine bind_congr fun c => ?_
  rw [hrest, map_bind]
  rcases texts.mapM ClauseText.read with err | cs
  · rfl
  · rfl

/-- The parts of clauses with connectors close the clauses that they mean, behind another one. -/
theorem play_joined_texts {texts : List ClauseText} (hd : d.stage = .connector)
    (hk : ∀ t ∈ texts, t.connector ≠ none)
    (ht : ∀ t ∈ texts, ∀ part ∈ t.parts, isBlankText part = false) :
    (d.play ((texts.flatMap ClauseText.parts).map .feed)).result =
      (texts.mapM ClauseText.read).map (List.foldl close d) := by
  induction texts generalizing d with
  | nil => rfl
  | cons t texts ih =>
    rw [List.forall_mem_cons] at hk ht
    exact play_cons_texts (.inr ⟨hd, hk.1⟩) ht.1 fun c => ih rfl hk.2 ht.2

/-- The parts of a chain of clauses close the clauses that they mean. -/
theorem play_texts {t : ClauseText} {texts : List ClauseText} (hd : d.stage = .left)
    (hdk : d.connector = none) (hk : t.connector = none) (hks : ∀ u ∈ texts, u.connector ≠ none)
    (ht : ∀ u ∈ t :: texts, ∀ part ∈ u.parts, isBlankText part = false) :
    (d.play (((t :: texts).flatMap ClauseText.parts).map .feed)).result =
      ((t :: texts).mapM ClauseText.read).map (List.foldl close d) := by
  rw [List.forall_mem_cons] at ht
  exact play_cons_texts (.inl ⟨hd, hdk, hk⟩) ht.1 fun c => play_joined_texts rfl hks ht.2

theorem foldl_close (d : Draft) (c : Clause) (cs : List Clause) :
    (c :: cs).foldl close d =
      { d with
        stage := .connector, left := none, operator := none, connector := none,
        clauses := d.clauses ++ c :: cs } := by
  induction cs generalizing d c with
  | nil => rfl
  | cons c' cs ih =>
    rw [List.foldl_cons, ih]
    simp [close]

/-! ## Declarations -/

theorem after_declare (d : Draft) (slot : Slot) (name : String) :
    d.after (.declare slot.key name) =
      if (d.name? slot).isSome then
        .error { cause := .invalidContextMapping slot.key name "key already mapped" }
      else if isBlankText name then
        .error { cause := .invalidContextMapping slot.key name "blank name" }
      else if d.declares name then
        .error { cause := .invalidContextMapping slot.key name "name already mapped" }
      else .ok (d.setName slot name) := by
  rw [after, apply, declare, Slot.ofKey?_key]
  by_cases hname : (d.name? slot).isSome
  · simp [hname, Traced.fail, Except.map]
  · by_cases hblank : isBlankText name
    · simp [hname, hblank, Traced.fail, Except.map]
    · by_cases hdeclares : d.declares name
      · simp [hname, hblank, hdeclares, Traced.fail, Except.map]
      · simp [hname, hblank, hdeclares, Traced.emit, Except.map]

/-- The names of a context are declared, unless they are the same. -/
theorem play_declarations {r : String} {q : Option String} (hr : isBlankText r = false)
    (hq : ∀ n ∈ q, isBlankText n = false) : (empty.play (Statement.declarations r q)).result =
      if q = some r then
        .error { cause := .invalidContextMapping Slot.restricting.key r "name already mapped" }
      else .ok { empty with requestingName := some r, restrictingName := q } := by
  -- The first name is taken, and a second one unless it is the first one again.
  have hfirst : empty.after (.declare Slot.requesting.key r) =
      .ok { empty with requestingName := some r } := by
    rw [after_declare]
    simp [empty, name?, declares, setName, hr]
  rw [Statement.declarations, play_cons, hfirst]
  rcases q with - | n
  · rfl
  · have hsecond : ({ empty with requestingName := some r } : Draft).after
        (.declare Slot.restricting.key n) =
          if r = n then
            .error { cause := .invalidContextMapping Slot.restricting.key n "name already mapped" }
          else .ok { empty with requestingName := some r, restrictingName := some n } := by
      rw [after_declare]
      simp [empty, name?, declares, setName, hq n rfl]
    simp only [Option.map_some, Option.toList_some, bind, Except.bind, play_cons, hsecond]
    by_cases h : r = n
    · simp [h]
    · simp [h, Ne.symm h, play]

end Draft

/-! ## The finished rule -/

namespace Draft

theorem undeclared?_eq_none_iff {d : Draft} :
    d.undeclared? = none ↔ ∀ c ∈ d.clauses, ∀ n ∈ c.names, d.declares n := by
  simp only [undeclared?, List.find?_eq_none, List.mem_flatMap, Bool.not_eq_true',
    Bool.not_eq_false, forall_exists_index, and_imp]
  exact ⟨fun h c hc n hn => h n c hc hn, fun h n c hc hn => h c hc n hn⟩

theorem checkDeclarations_eq_ok_iff {d : Draft} : d.checkDeclarations = .ok () ↔
    d.stage.isTerminal ∧ d.clauses ≠ [] ∧ d.connector = none ∧ d.requestingName ≠ none ∧
      ∀ c ∈ d.clauses, ∀ n ∈ c.names, d.declares n := by
  rw [← undeclared?_eq_none_iff, checkDeclarations]
  split
  · next h =>
    simp only [Bool.or_eq_true, Bool.not_eq_true', List.isEmpty_iff] at h
    constructor
    · rintro ⟨⟩
    · rintro ⟨hstage, hne, hk, -⟩
      simp [hstage, hne, hk] at h
  · next h =>
    split
    · next hname => simp_all
    · next hname =>
      split
      · next hn => simp [hn]
      · next hn => simp_all [Option.isSome_iff_ne_none]

/-- The first name to which a clause refers though it is not declared. -/
theorem undeclared?_eq_some_iff {d : Draft} {n : String} : d.undeclared? = some n ↔
    ∃ before behind, d.clauses.flatMap Clause.names = before ++ n :: behind ∧
      (∀ m ∈ before, d.declares m) ∧ ¬d.declares n := by
  rw [undeclared?, List.find?_eq_some_iff_append]
  simp only [Bool.not_eq_true', Bool.not_not, Bool.not_eq_true]
  constructor
  · rintro ⟨hn, before, behind, hnames, hbefore⟩
    exact ⟨before, behind, hnames, hbefore, hn⟩
  · rintro ⟨before, behind, hnames, hbefore, hn⟩
    exact ⟨hn, before, behind, hnames, hbefore⟩

theorem declares_iff {d : Draft} {n : String} :
    d.declares n ↔ d.requestingName = some n ∨ d.restrictingName = some n := by
  simp [declares]

/-- A draft gives the rule with its names and clauses, if the last of these is closed and they refer
    to no other names. -/
theorem toRule_eq_ok_iff {d : Draft} {r : Rule} : d.toRule = .ok r ↔
    d.stage.isTerminal ∧ d.connector = none ∧ d.requestingName = some r.requesting ∧
      d.restrictingName = r.restricting ∧ d.clauses = r.predicate.clauses ∧
      ∀ c ∈ r.predicate.clauses, ∀ n ∈ c.names, n = r.requesting ∨ r.restricting = some n := by
  simp only [toRule, bind_eq_ok_iff, predicate, Predicate.make_eq_ok_iff]
  constructor
  · rintro ⟨⟨⟩, hcheck, p, hp, h⟩
    obtain ⟨hstage, -, hk, -, hnames⟩ := checkDeclarations_eq_ok_iff.1 hcheck
    split at h
    · cases h
    · next requesting hrequesting =>
      cases h
      refine ⟨hstage, hk, hrequesting, rfl, hp.symm, fun c hc n hn => ?_⟩
      rcases declares_iff.1 (hnames c (hp ▸ hc) n hn) with h | h
      · exact .inl (Option.some.inj (h.symm.trans hrequesting))
      · exact .inr h
  · rintro ⟨hstage, hk, hrequesting, hrestricting, hclauses, hnames⟩
    have hne : d.clauses ≠ [] := by
      rw [hclauses]
      exact r.predicate.clauses_ne_nil
    refine ⟨(), checkDeclarations_eq_ok_iff.2 ⟨hstage, hne, hk, by simp [hrequesting], ?_⟩,
      r.predicate, hclauses.symm, ?_⟩
    · intro c hc n hn
      rw [declares_iff, hrequesting, hrestricting]
      exact (hnames c (hclauses ▸ hc) n hn).imp (fun h => by rw [h]) id
    · split
      · next hnone => cases hnone.symm.trans hrequesting
      · next requesting hsome =>
        cases hsome.symm.trans hrequesting
        rw [hrestricting]
        rfl

/-- A draft which closed its last clause has a rule, unless the clauses refer to an undeclared
    name. -/
theorem toRule_eq_error_iff {d : Draft} {r : String} {err : Error} (hstage : d.stage.isTerminal)
    (hjoined : Joined d.clauses) (hk : d.connector = none) (hr : d.requestingName = some r) :
    d.toRule = .error err ↔
      ∃ n, d.undeclared? = some n ∧ err = { cause := .missingContextEntry n } := by
  have hne : d.clauses ≠ [] := Predicate.clauses_ne_nil ⟨d.clauses, hjoined⟩
  have hpredicate : d.predicate = .ok ⟨d.clauses, hjoined⟩ := Predicate.make_eq_ok_iff.2 rfl
  rcases hn : d.undeclared? with - | n
  · have hcheck : d.checkDeclarations = .ok () := by
      simp [checkDeclarations, hstage, hne, hk, hr, hn]
    simp [toRule, hcheck, hpredicate, hr, bind, Except.bind, pure, Except.pure]
  · have hcheck : d.checkDeclarations = .error { cause := .missingContextEntry n } := by
      simp [checkDeclarations, hstage, hne, hk, hr, hn]
    simp [toRule, hcheck, bind, Except.bind, eq_comm]

end Draft

end Interlock
