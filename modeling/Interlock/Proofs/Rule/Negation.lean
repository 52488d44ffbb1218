import Interlock.Proofs.Predicate.Negation
import Interlock.Proofs.Rule.RoundTrip
import Interlock.Proofs.Statement.Position

/-!
# Moving a `NOT`

In a statement, the `NOT` of a connector stands directly before a clause, and that of an operator
within it. As the two come to the same, a `NOT` may be moved from one place to the other. The
statement is still read, and its rule still fires for the same actions.

* `Clause.Moves`: the tokens of a clause, and of the clause with its connector and its comparison
  inverted. `Clause.Moves.spells`: what they spell.
* `Rule.invertTwiceAt`: the rule with some clauses inverted twice. `Rule.WrittenIn.invertTwiceAt`:
  it is spelled by the changed tokens.
* `Statement.extended`: a statement with one more clause. `Statement.read_extended`: in this clause
  the `NOT` may be moved.
* `Statement.MovesAt`: two statements, with the `NOT` of some clauses moved.
  `Statement.MovesAt.read_eq`: both are read.
-/

namespace Interlock

open Text

/-! ## Tokens of one clause -/

theorem Connector.Spells.unique {ws : List String} {k k' : Connector} (h : Spells ws k)
    (h' : Spells ws k') : k = k' := by
  rw [← ofWords?_eq_some_iff] at h h'
  exact Option.some.inj (h.symm.trans h')

theorem Comparison.Spells.unique {ws : List String} {c c' : Comparison} {n n' : Bool}
    (h : Spells ws c n) (h' : Spells ws c' n') : c = c' ∧ n = n' := by
  rw [← Operator.phrase?_eq_some_iff] at h h'
  simpa using h.symm.trans h'

namespace Clause

/-- The tokens of a clause with a connector, and of a clause between the same operands, whose
    connector and comparison are both the opposite ones. -/
inductive Moves : List Token.Kind → List Token.Kind → Prop
  | intro {ks ks' ws ws' : List String} {k : Connector} {c : Comparison} {n : Bool}
    {l r : Token.Kind} (hks : Connector.Spells ks k) (hks' : Connector.Spells ks' k.opposite)
    (hl : l.isOperand) (hws : Comparison.Spells ws c n) (hws' : Comparison.Spells ws' c !n)
    (hr : r.isOperand) :
    Moves (phraseKinds ks ++ l :: (phraseKinds ws ++ [r]))
      (phraseKinds ks' ++ l :: (phraseKinds ws' ++ [r]))

theorem Moves.spells {part part' : List Token.Kind} (h : Moves part part') {c : Clause}
    (hc : Spells part c) : Spells part' c.invertTwice := by
  obtain ⟨hks, hks', hl, hws, hws', hr⟩ := h
  obtain ⟨⟨hnil, -⟩ | ⟨k, hk, hspells⟩, hcompares⟩ := (spells_iff hl hr).1 hc
  · exact absurd hnil hks.ne_nil
  · obtain rfl := hspells.unique hks
    obtain ⟨rfl, rfl⟩ := hcompares.phrase.unique hws
    refine (spells_iff hl hr).2 ⟨.inr ⟨_, by rw [invertTwice, hk]; rfl, hks'⟩, ?_⟩
    exact ⟨hcompares.left, hws', hcompares.right, hcompares.wellTyped⟩

theorem names_invertTwiceAt (c : Clause) (places : Finset Nat) (i : Nat) :
    (c.invertTwiceAt places i).names = c.names := by
  rw [invertTwiceAt]
  split <;> rfl

/-- The tokens of some clauses, and of these clauses with those at the given places changed. -/
def MovesAt (places : Finset Nat) (parts parts' : List (List Token.Kind)) : Prop :=
  ∀ i, Option.Rel (fun part part' => if i ∈ places then Moves part part' else part' = part)
    parts[i]? parts'[i]?

theorem MovesAt.forall₂_spells {places : Finset Nat} {parts parts' : List (List Token.Kind)}
    (h : MovesAt places parts parts') {cs : List Clause} (hcs : List.Forall₂ Spells parts cs) :
    List.Forall₂ Spells parts' (cs.mapIdx (invertTwiceAt places)) := by
  refine forall₂_mapIdx hcs h fun i part part' c hc hpart => ?_
  split at hpart
  · next hi => exact invertTwiceAt_of_mem hi ▸ hpart.spells hc
  · next hi => exact invertTwiceAt_of_notMem hi ▸ hpart ▸ hc

/-- One clause may be changed, with those before and behind it as they are. -/
theorem movesAt_append {part part' : List Token.Kind} (h : Moves part part')
    (before behind : List (List Token.Kind)) :
    MovesAt {before.length} (before ++ part :: behind) (before ++ part' :: behind) := by
  have hsame {i : Nat} (hi : i ≠ before.length) (x : Option (List Token.Kind)) :
      Option.Rel (fun part part' => if i ∈ ({before.length} : Finset Nat) then
        Moves part part' else part' = part) x x := by
    rcases x with - | x
    · exact .none
    · exact .some (by rw [if_neg (by simpa using hi)])
  intro i
  rcases Nat.lt_trichotomy i before.length with hi | rfl | hi
  · rw [List.getElem?_append_left hi, List.getElem?_append_left hi]
    exact hsame (Nat.ne_of_lt hi) _
  · rw [List.getElem?_append_right (Nat.le_refl _), List.getElem?_append_right (Nat.le_refl _),
      Nat.sub_self]
    exact .some (by simpa using h)
  · rw [List.getElem?_append_right (Nat.le_of_lt hi), List.getElem?_append_right (Nat.le_of_lt hi)]
    obtain ⟨j, hj⟩ := Nat.exists_eq_add_of_lt hi
    have hindex : i - before.length = j + 1 := by omega
    rw [hindex]
    exact hsame (Nat.ne_of_gt hi) _

end Clause

/-! ## Rules -/

namespace Rule

variable {r : Rule} {places : Finset Nat}

/-- The rule with its clauses at the given places inverted twice. -/
def invertTwiceAt (places : Finset Nat) (r : Rule) : Rule :=
  r.withPredicate (r.predicate.invertTwiceAt places)

theorem evaluate_invertTwiceAt (h : 0 ∉ places) (r : Rule) (x : Action) (y : Option Action) :
    (r.invertTwiceAt places).evaluate x y = r.evaluate x y := by
  obtain ⟨bindings, hr, hbindings⟩ := r.exists_evaluate_withPredicate x y
  rw [hr, invertTwiceAt, hbindings]
  exact bind_congr fun b => Predicate.test_invertTwiceAt h r.predicate b

theorem WellNamed.invertTwiceAt (h : r.WellNamed) : (r.invertTwiceAt places).WellNamed := by
  refine ⟨h.distinct, fun c hc => ?_⟩
  obtain ⟨i, hi, rfl⟩ := List.mem_mapIdx.1 hc
  rw [Clause.names_invertTwiceAt]
  exact h.declared _ (List.getElem_mem hi)

/-- The clauses of the rule are spelled one after the other by the tokens of a text. -/
def SpelledIn (r : Rule) (parts : List (List Token.Kind)) (predicate : List Char) : Prop :=
  List.Forall₂ Clause.Spells parts r.predicate.clauses ∧
    Token.kinds predicate = parts.flatten ++ [.eof]

theorem WrittenIn.invertTwiceAt {a b b' : List Char} (h : r.WrittenIn a b)
    {parts parts' : List (List Token.Kind)} (hparts : r.SpelledIn parts b)
    (hmoves : Clause.MovesAt places parts parts')
    (hkinds : Token.kinds b' = parts'.flatten ++ [.eof]) :
    (r.invertTwiceAt places).WrittenIn a b' :=
  ⟨h.context, ⟨_, ⟨parts', hmoves.forall₂_spells hparts.1, rfl⟩, hkinds⟩, h.wellNamed.invertTwiceAt⟩

end Rule

/-! ## One more clause -/

namespace Statement

/-- The statement with one more clause behind it, and with what may follow. -/
def extended (t : String) (k : Connector) (left : String) (c : Comparison) (n : Bool)
    (rest : String) : String :=
  t ++ " " ++ k.render ++ " " ++ left ++ " " ++ c.phrase n ++ " " ++ rest

/-- The tokens of the further clause, up to its comparison, and of what follows. -/
theorem exists_kinds_extended {left : String} {l : Token.Kind}
    (hleft : Token.kinds left.toList = [l, .eof]) (hl : l.isOperand) (k : Connector)
    (c : Comparison) (n : Bool) (rest : String) :
    ∃ ks ws, Connector.Spells ks k ∧ Comparison.Spells ws c n ∧
      Token.kinds (k.render.toList ++ ' ' :: (left.toList ++
        ' ' :: ((c.phrase n).toList ++ ' ' :: rest.toList))) =
        phraseKinds ks ++ l :: (phraseKinds ws ++ Token.kinds rest.toList) := by
  obtain ⟨ks, hks, hkwords, hkrender⟩ := k.exists_render_eq
  obtain ⟨ws, hws, hwords, hphrase⟩ := c.exists_phrase_eq n
  have hclosed : Token.Closed left.toList := by
    intro k hk
    rw [hleft] at hk
    rcases List.mem_pair.1 hk with rfl | rfl
    · cases k <;> cases hl <;> rfl
    · rfl
  refine ⟨ks, ws, hks, hws, ?_⟩
  rw [hkrender, kinds_phrase hkwords hks.ne_nil, Token.kinds_append hclosed (stops_space _), hleft,
    Token.kinds_space, hphrase, kinds_phrase hwords hws.ne_nil]
  rfl

end Statement

namespace Clause

/-- Clauses which are spelled by the tokens of some clauses and of one more begin with these. -/
theorem exists_eq_append_of_spells {parts parts' : List (List Token.Kind)} {cs cs' : List Clause}
    (h : List.Forall₂ Spells parts cs) (h' : List.Forall₂ Spells parts' cs') {ks ws : List String}
    {l r : Token.Kind} {more : List Token.Kind} (hl : l.isOperand) (hr : r.isOperand)
    (heq : parts.flatten ++ (phraseKinds ks ++ l :: (phraseKinds ws ++ r :: more)) =
      parts'.flatten ++ [.eof]) :
    ∃ behind, parts' = parts ++ (phraseKinds ks ++ l :: (phraseKinds ws ++ [r])) :: behind ∧
      more = behind.flatten ++ [.eof] := by
  obtain ⟨xs, rfl, hxs⟩ := exists_shapes_of_spells h
  obtain ⟨ys, rfl, hys⟩ := exists_shapes_of_spells h'
  have hfits {zs : List Shape} {ds : List Clause}
      (hzs : List.Forall₂ (fun x c => x.Fits ∧ Spells x.kinds c) zs ds) : ∀ z ∈ zs, z.Fits :=
    fun z hz => by
      obtain ⟨d, -, hd⟩ := exists_of_mem_left hzs hz
      exact hd.1
  have hword {k : Token.Kind} (hk : k.isOperand) := Token.Kind.word?_eq_none_of_isOperand hk
  rw [← List.flatMap_def, ← List.flatMap_def] at heq
  obtain ⟨zs, rfl, htail⟩ := Chain.exists_eq_append_of_flatMap (hfits hxs) (hfits hys) heq
  have hzs : ∀ z ∈ zs, z.Fits := fun z hz => hfits hys z (List.mem_append_right _ hz)
  obtain ⟨z, zs, rfl, rfl, rfl, hphrase⟩ := Chain.exists_cons_of_flatMap hl hzs htail
  obtain ⟨rfl, rfl, rfl⟩ :=
    phraseKinds_append_inj (hword hr) (hword (hzs z (by simp)).right) hphrase
  exact ⟨zs.map Shape.kinds, by simp [Shape.kinds], by rw [List.flatMap_def]⟩

end Clause

/-- If there is a clause behind a statement, then its `NOT` may be moved. What was read in front of
    it stays as it is, and so does what is read behind it. -/
theorem Statement.read_extended {t left rest : String} {q r : Rule} {k : Connector} {c : Comparison}
    {n : Bool} {l m : Token.Kind} {more : List Token.Kind} (ht : (Rule.read t).result = .ok q)
    (hs : (Rule.read (extended t k left c n rest)).result = .ok r)
    (hleft : Token.kinds left.toList = [l, .eof]) (hl : l.isOperand)
    (hrest : Token.kinds rest.toList = m :: more) (hm : m.isOperand) :
    (Rule.read (extended t k.opposite left c (!n) rest)).result =
      .ok (r.invertTwiceAt {q.predicate.clauses.length}) := by
  obtain ⟨a, b, htext, hq⟩ := Rule.read_eq_ok_iff_writtenAs.1 ht
  have hextended (k : Connector) (n : Bool) : (extended t k left c n rest).toList =
      a ++ (separator ++ (b ++ ' ' :: (k.render.toList ++ ' ' :: (left.toList ++
        ' ' :: ((c.phrase n).toList ++ ' ' :: rest.toList))))) := by
    simp [extended, htext]
  have hkinds (s : List Char) : Token.kinds (b ++ ' ' :: s) =
      (Token.kinds b).dropLast ++ Token.kinds s := by
    rw [Token.kinds_append hq.closed_predicate (stops_space _), Token.kinds_space]
  -- Both statements are cut at the separator of the first one.
  obtain ⟨a', b', hcut, hr⟩ := Rule.read_eq_ok_iff_writtenAs.1 hs
  obtain ⟨rfl, rfl⟩ : a' = a ∧ b' = _ := by
    have hfirst := cutAt_separator hr.context b'
    rw [← hcut, hextended, cutAt_separator hq.context] at hfirst
    simpa [eq_comm] using hfirst
  obtain ⟨_, ⟨parts, hparts, rfl⟩, hb⟩ := hq.predicate
  obtain ⟨_, ⟨parts', hparts', rfl⟩, hb'⟩ := hr.predicate
  rw [hb, List.dropLast_concat] at hkinds
  obtain ⟨ks, ws, hks, hws, htail⟩ := exists_kinds_extended hleft hl k c n rest
  obtain ⟨ks', ws', hks', hws', htail'⟩ := exists_kinds_extended hleft hl k.opposite c (!n) rest
  obtain ⟨behind, rfl, hmore⟩ := Clause.exists_eq_append_of_spells hparts hparts' hl hm
    (by rw [← hb', hkinds, htail, hrest])
  have hmoves := Clause.movesAt_append ⟨hks, hks', hl, hws, hws', hm⟩ parts behind
  rw [hparts.length_eq] at hmoves
  rw [Rule.read_eq_ok_iff_writtenAs, hextended]
  refine ⟨a', _, rfl, hr.invertTwiceAt ⟨hparts', hb'⟩ hmoves ?_⟩
  rw [hkinds, htail', hrest, hmore]
  simp

/-! ## Whole statements -/

/-- The first statement spells the rule, and the second one differs from it in the clauses at the
    given places: there, a `NOT` stands before the clause in one of the two, and within the clause
    in the other one. Their blanks may differ, too. -/
def Statement.MovesAt (places : Finset Nat) (r : Rule) (s s' : String) : Prop :=
  ∃ context predicate predicate' parts parts', split s = .ok (context, predicate) ∧
    split s' = .ok (context, predicate') ∧ r.SpelledIn parts predicate.toList ∧
    Token.kinds predicate'.toList = parts'.flatten ++ [.eof] ∧ Clause.MovesAt places parts parts'

theorem Statement.MovesAt.read_eq {places : Finset Nat} {r : Rule} {s s' : String}
    (h : MovesAt places r s s') (hs : (Rule.read s).result = .ok r) :
    (Rule.read s').result = .ok (r.invertTwiceAt places) := by
  obtain ⟨context, predicate, predicate', parts, parts', hsplit, hsplit', hparts, hkinds, hmoves⟩ :=
    h
  rw [Rule.read_eq_ok_iff_split] at hs ⊢
  obtain ⟨_, _, hsame, hwritten⟩ := hs
  cases hsplit.symm.trans hsame
  exact ⟨context, predicate', hsplit', hwritten.invertTwiceAt hparts hmoves hkinds⟩

/-- The operator of a clause may be negated, or its negation taken away, if the same is done to the
    connector: in any clauses of a chain but the first one, and the chain has the same result, or
    the same error. So in a statement which is read, a `NOT` behind `AND` or `OR` may be moved into
    the clause, and one within a clause may be moved there, and the statement is still read, as a
    rule which comes to the same for all actions. -/
theorem Rule.test_and_read_invertTwiceAt :
    (∀ (p : Predicate) (places : Finset Nat), 0 ∉ places →
      ∀ b : Bindings, (p.invertTwiceAt places).test b = p.test b) ∧
    (∀ (s s' : String) (r : Rule) (places : Finset Nat), (Rule.read s).result = .ok r →
      0 ∉ places → Statement.MovesAt places r s s' →
      (Rule.read s').result = .ok (r.invertTwiceAt places) ∧
        ∀ x y, (r.invertTwiceAt places).evaluate x y = r.evaluate x y) ∧
    ∀ (t left rest : String) (q r : Rule) (k : Connector) (c : Comparison) (n : Bool)
      (l m : Token.Kind) (more : List Token.Kind),
      (Rule.read t).result = .ok q →
      Token.kinds left.toList = [l, .eof] → l.isOperand →
      Token.kinds rest.toList = m :: more → m.isOperand →
      (Rule.read (Statement.extended t k left c n rest)).result = .ok r →
      ∃ r', (Rule.read (Statement.extended t k.opposite left c (!n) rest)).result = .ok r' ∧
        ∀ x y, r'.evaluate x y = r.evaluate x y := by
  refine ⟨fun p places h b => Predicate.test_invertTwiceAt h p b,
    fun s s' r places hs h hmoves => ⟨hmoves.read_eq hs, evaluate_invertTwiceAt h r⟩, ?_⟩
  intro t left rest q r k c n l m more ht hleft hl hrest hm hs
  have hlength : 0 ∉ ({q.predicate.clauses.length} : Finset Nat) := by
    simpa [eq_comm] using q.predicate.clauses_ne_nil
  exact ⟨_, Statement.read_extended ht hs hleft hl hrest hm, evaluate_invertTwiceAt hlength r⟩

theorem Rule.supports_lessThan_number : Comparison.lessThan.supports .number := rfl

/-- Nothing may happen at one time. -/
def Rule.atOne : Rule where
  requesting := "a"
  restricting := none
  predicate :=
    { clauses := [
        { left := .reference "a" .time, operator := ⟨.is, false, .number, supports_is_number⟩,
          right := .literal (.number 1) }]
      joined := by simp [Joined] }

/-- The second clause is negated by its connector, and the third one by its operator. -/
def Rule.withTwoNots : Rule :=
  Rule.atOne.withPredicate
    { clauses := Rule.atOne.predicate.clauses ++ [
        { left := .reference "a" .agent, operator := ⟨.is, false, .number, supports_is_number⟩,
          right := .literal (.number 2), connector := some ⟨.and, true⟩ },
        { left := .reference "a" .time,
          operator := ⟨.lessThan, true, .number, supports_lessThan_number⟩,
          right := .literal (.number 5), connector := some ⟨.or, false⟩ }]
      joined := by simp [Joined, Rule.atOne] }

namespace Statement

/-- The predicate of a statement of the rule. -/
def twoNots : String := "a.time IS 1 AND NOT a.agent IS 2 OR a.time NOT LESS THAN 5"

/-- The same with each `NOT` in the other place, and a tab. -/
def twoNotsMoved : String := "a.time IS 1 AND a.agent IS NOT 2\tOR NOT a.time IS LESS THAN 5"

theorem movesAt_twoNots : MovesAt {1, 2} Rule.withTwoNots ("ACTION a IS BLOCKED IF " ++ twoNots)
    ("ACTION a IS BLOCKED IF " ++ twoNotsMoved) := by
  let clause (ks : List String) (field : String) (ws : List String) (n : Int64) :
      List Token.Kind := phraseKinds ks ++ .reference "a" field :: (phraseKinds ws ++ [.int n])
  refine ⟨"ACTION a IS BLOCKED", twoNots, twoNotsMoved,
    [clause [] "time" ["IS"] 1, clause ["AND", "NOT"] "agent" ["IS"] 2,
      clause ["OR"] "time" ["NOT", "LESS", "THAN"] 5],
    [clause [] "time" ["IS"] 1, clause ["AND"] "agent" ["IS", "NOT"] 2,
      clause ["OR", "NOT"] "time" ["IS", "LESS", "THAN"] 5],
    by decide +kernel, by decide +kernel, ⟨?_, by decide +kernel⟩, by decide +kernel, ?_⟩
  · refine .cons ?_ (.cons ?_ (.cons ?_ .nil))
    · exact .first rfl ⟨.reference rfl, .is, .number 1, ⟨rfl, rfl⟩⟩
    · exact .joined rfl .andNot ⟨.reference rfl, .is, .number 2, ⟨rfl, rfl⟩⟩
    · exact .joined rfl .or ⟨.reference rfl, .lessThan false true, .number 5, ⟨rfl, rfl⟩⟩
  · rintro (- | - | - | i)
    · exact .some rfl
    · exact .some (.intro .andNot .and rfl .is .isNot rfl)
    · exact .some (.intro .or .orNot rfl (.lessThan false true) (.lessThan true false) rfl)
    · exact .none

end Statement

/-- Both words are moved at once, and then the first one by itself. In the chain no name is bound,
    and the error stays. -/
theorem Rule.test_and_read_invertTwiceAt_twoNots :
    let begun := "ACTION a IS BLOCKED IF a.time IS 1"
    let rest := "2 OR a.time NOT LESS THAN 5"
    let moved := Statement.extended begun ⟨.and, false⟩ "a.agent" .is true rest
    (withTwoNots.predicate.invertTwiceAt {1, 2}).test .empty =
        .error { cause := .unknownContextKey "a.time" } ∧
      (Rule.read ("ACTION a IS BLOCKED IF " ++ Statement.twoNots)).result = .ok withTwoNots ∧
      (Rule.read ("ACTION a IS BLOCKED IF " ++ Statement.twoNotsMoved)).result =
        .ok (withTwoNots.invertTwiceAt {1, 2}) ∧
      (Rule.read begun).result = .ok atOne ∧
      Statement.extended begun ⟨.and, true⟩ "a.agent" .is false rest =
        "ACTION a IS BLOCKED IF " ++ Statement.twoNots ∧
      ∃ r', (Rule.read moved).result = .ok r' ∧
        ∀ x y, r'.evaluate x y = withTwoNots.evaluate x y := by
  intro begun rest moved
  obtain ⟨htest, hmoves, hextended⟩ := test_and_read_invertTwiceAt
  have hread : (Rule.read ("ACTION a IS BLOCKED IF " ++ Statement.twoNots)).result =
      .ok withTwoNots := by decide +kernel
  have hbegun : (Rule.read begun).result = .ok atOne := by decide +kernel
  have hsame : Statement.extended begun ⟨.and, true⟩ "a.agent" .is false rest =
      "ACTION a IS BLOCKED IF " ++ Statement.twoNots := by decide +kernel
  have hagent : Token.kinds "a.agent".toList = [.reference "a" "agent", .eof] := by decide +kernel
  have hrest : Token.kinds rest.toList = [.int 2, .word "OR", .reference "a" "time", .word "NOT",
      .word "LESS", .word "THAN", .int 5, .eof] := by decide +kernel
  exact ⟨htest _ _ (by decide) _, hread,
    (hmoves _ _ _ _ hread (by decide) Statement.movesAt_twoNots).1, hbegun, hsame,
    hextended begun "a.agent" rest _ _ ⟨.and, true⟩ .is false _ _ _ hbegun hagent rfl hrest rfl
      (hsame ▸ hread)⟩

end Interlock
