import Interlock.Proofs.Draft.Progress
import Interlock.Proofs.Statement.Diagnosis

/-!
# What reading statements records

A draft records every token that it takes, with the stages before and after it, and nothing of a
token which it refuses. The predicate of a statement is checked as a whole before any of its tokens
reaches the draft: so the events of a statement tell how far its reading came.

* `Stage.taking`: the events of tokens which are taken one after the other.
* `Draft.play_feed_cases`: a draft takes all tokens, or those in front of the first one which it
  refuses. `Draft.play_declarations_eq`: it takes the names of a context.
* `Chain.AreParts`: the operands and the phrases of a predicate. `Chain.areParts_of_read`: they are
  the parts of its clauses.
* `Statement.Leaves`: what a statement leaves in the record, and what its reading comes to.
-/

namespace Interlock

open Text

/-! ## Steps of traced results -/

theorem Traced.liftM_bind_of_ok {α β : Type} {x : Except Error α} {a : α} (h : x = .ok a)
    (f : α → Traced β) : (liftM x : Traced α) >>= f = f a := by
  subst h
  rfl

theorem Traced.liftM_bind_of_error {α β : Type} {x : Except Error α} {e : Error}
    (h : x = .error e) (f : α → Traced β) : (liftM x : Traced α) >>= f = .fail e := by
  subst h
  rfl

theorem Traced.mk_bind_of_ok {α β : Type} (events : List Event) (a : α) (f : α → Traced β) :
    (⟨events, .ok a⟩ : Traced α) >>= f = ⟨events ++ (f a).events, (f a).result⟩ := rfl

/-- What is recorded if these tokens are taken one after the other, from a stage on. Each token goes
    from the stage where the one before it went. -/
def Stage.taking (s : Stage) : List String → List Event
  | [] => []
  | token :: tokens => .tokenTaken token s s.next :: s.next.taking tokens

namespace Draft

variable {d e : Draft} {err : Error}

/-! ## What a draft records -/

theorem play_cons_of_emit {c : Call} {event : Event} (h : d.apply c = (e, .emit event))
    (cs : List Call) : d.play (c :: cs) = ⟨event :: (e.play cs).events, (e.play cs).result⟩ := by
  rw [play, h]
  rfl

theorem play_cons_of_fail {c : Call} (h : d.apply c = (e, .fail err)) (cs : List Call) :
    d.play (c :: cs) = .fail err := by
  rw [play, h]
  rfl

/-- A draft takes all tokens, or those in front of the first one which it refuses, and records the
    tokens which it takes. -/
theorem play_feed_cases (d : Draft) (tokens : List String) :
    (∃ e, d.play (tokens.map .feed) = ⟨d.stage.taking tokens, .ok e⟩) ∨
      ∃ before token behind e err, tokens = before ++ token :: behind ∧
        (d.play (before.map .feed)).result = .ok e ∧ (e.feed token).2.result = .error err ∧
        d.play (tokens.map .feed) = ⟨d.stage.taking before, .error err⟩ := by
  induction tokens generalizing d with
  | nil => exact .inl ⟨d, rfl⟩
  | cons token tokens ih =>
    rw [List.map_cons]
    rcases d.feed_cases token with ⟨err, hfail⟩ | ⟨e, hgrows, hemit⟩
    · refine .inr ⟨[], token, tokens, d, err, rfl, rfl, by rw [hfail]; rfl, ?_⟩
      rw [play_cons_of_fail (c := .feed token) hfail]
      rfl
    -- The token is taken, and the draft goes on from the stage behind it.
    · rw [hgrows.stage_eq] at hemit
      have hcons := play_cons_of_emit (c := .feed token) hemit
      rw [hcons, ← hgrows.stage_eq]
      rcases ih e with ⟨f, hplay⟩ | ⟨before, token', behind, f, err, rfl, hbefore, herr, hplay⟩
      · refine .inl ⟨f, ?_⟩
        rw [hplay, Stage.taking, ← hgrows.stage_eq]
      · refine .inr ⟨token :: before, token', behind, f, err, rfl, ?_, herr, ?_⟩
        · rw [List.map_cons, hcons]
          exact hbefore
        · rw [hplay, Stage.taking, ← hgrows.stage_eq]

/-- What is recorded of the names of a context. -/
def declared (requesting : String) (restricting : Option String) : List Event :=
  .nameDeclared Slot.requesting.key requesting ::
    (restricting.map fun name => .nameDeclared Slot.restricting.key name).toList

/-- The names of a context are taken, unless they are the same; then only the first one is. -/
theorem play_declarations_eq {r : String} {q : Option String} (hr : isBlankText r = false)
    (hq : ∀ n ∈ q, isBlankText n = false) : empty.play (Statement.declarations r q) =
      if q = some r then
        ⟨[.nameDeclared Slot.requesting.key r], .error
          { cause := .invalidContextMapping Slot.restricting.key r "name already mapped" }⟩
      else ⟨declared r q, .ok { empty with requestingName := some r, restrictingName := q }⟩ := by
  have hfirst : empty.apply (.declare Slot.requesting.key r) =
      ({ empty with requestingName := some r }, .emit (.nameDeclared Slot.requesting.key r)) := by
    simp [apply, declare, Slot.ofKey?_key, empty, name?, declares, setName, hr]
  rw [Statement.declarations, play_cons_of_emit hfirst]
  rcases q with - | n
  · rfl
  · by_cases h : n = r
    · subst h
      have hsecond : ({ empty with requestingName := some n } : Draft).apply
          (.declare Slot.restricting.key n) = ({ empty with requestingName := some n }, .fail
            { cause := .invalidContextMapping Slot.restricting.key n "name already mapped" }) := by
        simp [apply, declare, Slot.ofKey?_key, empty, name?, declares, hr]
      rw [if_pos rfl, Option.map_some, Option.toList_some, play_cons_of_fail hsecond]
      rfl
    · have hsecond : ({ empty with requestingName := some r } : Draft).apply
          (.declare Slot.restricting.key n) =
            ({ empty with requestingName := some r, restrictingName := some n },
              .emit (.nameDeclared Slot.restricting.key n)) := by
        simp [apply, declare, Slot.ofKey?_key, empty, name?, declares, setName, hq n rfl,
          Ne.symm h]
      rw [if_neg (by simpa using h), Option.map_some, Option.toList_some,
        play_cons_of_emit hsecond]
      rfl

end Draft

namespace Chain

/-! ## The parts of a predicate -/

/-- The parts which tokens spell: operands, with phrases of one or more words between them. -/
inductive AreParts : List Token → List String → Prop
  | last {t : Token} {rest : List Token} (ht : t.kind.isOperand) (hend : atEnd rest) :
    AreParts (t :: rest) [t.text]
  | cons {t : Token} {wts ts : List Token} {ws parts : List String} (ht : t.kind.isOperand)
    (hw : ArePhrase wts ws) (hne : ws ≠ []) (hrest : AreParts ts parts) :
    AreParts (t :: (wts ++ ts)) (t.text :: " ".intercalate ws :: parts)

theorem Compares.parts_eq {c : ClauseText} {ts wts : List Token} {l r : Token} {ws : List String}
    (h : Compares c ts l wts ws r) :
    c.parts = c.connector.toList ++ [l.text, " ".intercalate ws, r.text] := by
  obtain ⟨hleft, hop, hright⟩ : c.left = l.text ∧ c.operator = " ".intercalate ws ∧
    c.right = r.text := by simpa using h.text_eq
  rw [ClauseText.parts, hleft, hop, hright]

/-- Behind an operand, the parts of clauses with connectors are phrases and operands by turns. -/
theorem areParts_of_covers {r : Token} {cs : List ClauseText} {parts : List (List Token)}
    {rest : List Token} (hr : r.kind.isOperand) (h : List.Forall₂ Covers cs parts)
    (hall : ∀ c ∈ cs, c.connector ≠ none) (hend : atEnd rest) :
    AreParts (r :: (parts.flatten ++ rest)) (r.text :: cs.flatMap ClauseText.parts) := by
  induction h generalizing r with
  | nil => exact .last hr hend
  | @cons c part cs parts hcover _ ih =>
    rw [List.forall_mem_cons] at hall
    cases hcover with
    | first hk => exact absurd hk hall.1
    | @joined kts ts wts l r' ks ws k hk hkts hkne _ hc =>
      have hclause := AreParts.cons hr hkts hkne <|
        .cons hc.left hc.phrase hc.ne_nil (ih hc.right hall.2)
      simpa [hc.parts_eq, hk, hc.tokens_eq] using hclause

theorem length_flatMap_parts {cs : List ClauseText} (h : ∀ c ∈ cs, c.connector ≠ none) :
    (cs.flatMap ClauseText.parts).length = 4 * cs.length := by
  induction cs with
  | nil => rfl
  | cons c cs ih =>
    rw [List.forall_mem_cons] at h
    obtain ⟨k, hk⟩ := Option.ne_none_iff_exists'.1 h.1
    rw [List.flatMap_cons, List.length_append, ih h.2, ClauseText.parts, hk, List.length_cons]
    simp only [Option.toList_some, List.length_append, List.length_cons, List.length_nil]
    omega

/-- The parts of the clauses which are read are the operands and the phrases of the predicate. With
    one more connector, there would be four for each clause. -/
theorem areParts_of_read {ts : List Token} {texts : List ClauseText} (h : read ts = .ok texts) :
    AreParts ts (texts.flatMap ClauseText.parts) ∧
      (texts.flatMap ClauseText.parts).length + 1 = 4 * texts.length := by
  obtain ⟨⟨c, cs, rfl, hk, hall⟩, _, rest, hcovers, rfl, hend⟩ := read_eq_ok_iff.1 h
  rcases hcovers with - | ⟨hcover, hcs⟩
  cases hcover with
  | @first ts wts l r ws _ hc =>
    have hclause := AreParts.cons hc.left hc.phrase hc.ne_nil
      (areParts_of_covers hc.right hcs hall hend)
    constructor
    · simpa [hc.parts_eq, hk, hc.tokens_eq] using hclause
    · rw [List.flatMap_cons, List.length_append, length_flatMap_parts hall, hc.parts_eq, hk,
        List.length_cons]
      simp only [Option.toList_none, List.nil_append, List.length_cons, List.length_nil]
      omega
  | joined hck => cases hck.symm.trans hk

end Chain

namespace Statement

/-! ## What a statement leaves -/

/-- A predicate is a chain of so many clauses, and these are its operands and phrases. -/
structure HasParts (predicate : String) (clauses : Nat) (parts : List String) : Prop where
  chain : ∃ shapes, IsChainOf predicate shapes ∧ shapes.length = clauses
  areParts : Chain.AreParts (Token.ofSource predicate) parts
  length : parts.length + 1 = 4 * clauses

/-- What a statement leaves in the record, by how far its reading comes, and what it comes to. -/
inductive Leaves (s : String) : List Event → Except Error Rule → Prop
  /-- Nothing, if the statement does not fall into a context and a predicate. -/
  | statement (h : ∀ context predicate, ¬IsCutInto s context predicate) :
    Leaves s [] (.error { cause := .malformedStatement s pattern })
  /-- Nothing, if the context declares no names. -/
  | context {context predicate : String} (hs : IsCutInto s context predicate)
    (h : ∀ r q, Token.kinds context.toList ≠ contextKinds r q ++ [.eof]) :
    Leaves s [] (.error { cause := .malformedContext context contextPattern })
  /-- The first name, if the context declares it twice. -/
  | names {context predicate r : String} (hs : IsCutInto s context predicate)
    (h : Token.kinds context.toList = contextKinds r (some r) ++ [.eof]) :
    Leaves s [.nameDeclared Slot.requesting.key r] (.error
      { cause := .invalidContextMapping Slot.restricting.key r "name already mapped" })
  /-- The names, if the predicate is no chain of clauses. -/
  | predicate {r predicate message : String} {q : Option String} (hs : Introduces s r q predicate)
    (h : ∀ shapes, ¬IsChainOf predicate shapes) :
    Leaves s (Draft.declared r q)
      (.error { cause := .malformedPredicate predicate predicatePattern message })
  /-- The names, and the tokens in front of the first one which the draft refuses. -/
  | token {r predicate token : String} {q : Option String} {n : Nat} {before behind : List String}
    {d : Draft} {err : Error} (hs : Introduces s r q predicate)
    (hp : HasParts predicate n (before ++ token :: behind))
    (hd : (Draft.empty.play (declarations r q ++ before.map .feed)).result = .ok d)
    (h : (d.feed token).2.result = .error err)
    (herr : err.cause.category = .operand ∨ err.cause.category = .type) :
    Leaves s (Draft.declared r q ++ Stage.left.taking before) (.error err)
  /-- The names and all tokens, if one of them refers to a name which is not declared. -/
  | undeclared {r predicate name : String} {q : Option String} {n : Nat} {parts : List String}
    (hs : Introduces s r q predicate) (hp : HasParts predicate n parts)
    (h : ¬(name = r ∨ q = some name)) :
    Leaves s (Draft.declared r q ++ Stage.left.taking parts)
      (.error { cause := .missingContextEntry name })
  /-- The names, all tokens, and the rule. -/
  | rule {r predicate : String} {q : Option String} {parts : List String} {rule : Rule}
    (hs : Introduces s r q predicate)
    (hp : HasParts predicate rule.predicate.clauses.length parts) :
    Leaves s (Draft.declared r q ++ Stage.left.taking parts ++ [.ruleRead rule]) (.ok rule)

variable {s context predicate r : String} {q : Option String} {texts : List ClauseText}

theorem hasParts_of_read (h : Chain.read (Token.ofSource predicate) = .ok texts) :
    HasParts predicate texts.length (texts.flatMap ClauseText.parts) := by
  obtain ⟨hparts, hlength⟩ := Chain.areParts_of_read h
  obtain ⟨shapes, hchain, hshapes⟩ := exists_isChainOf h
  exact ⟨⟨shapes, hchain, hshapes.length_eq.symm⟩, hparts, hlength⟩

/-- The errors of clauses are about operands and types. -/
theorem category_of_offends {x : Clause.Shape} {cause : Cause}
    (h : Clause.Offends x cause) : cause.category = .operand ∨ cause.category = .type := by
  cases h with
  | left | right => exact .inl rfl
  | phrase | unsupported | incompatible => exact .inr rfl

/-- The draft which has taken the names of a context. -/
def named (r : String) (q : Option String) : Draft :=
  { Draft.empty with requestingName := some r, restrictingName := q }

/-- The predicate is checked, and then that draft takes its parts. -/
def feeding (r : String) (q : Option String) (predicate : String) : Traced Draft := do
  let clauses ← readPredicate predicate
  (named r q).play ((clauses.flatMap ClauseText.parts).map .feed)

/-- The draft takes the names of a context, and then the predicate. -/
theorem draft_read_eq (hsplit : split s = .ok (context, predicate))
    (hcontext : readContext context = .ok (r, q)) :
    Draft.read s = if q = some r then
        ⟨[.nameDeclared Slot.requesting.key r], .error
          { cause := .invalidContextMapping Slot.restricting.key r "name already mapped" }⟩
      else ⟨Draft.declared r q ++ (feeding r q predicate).events,
        (feeding r q predicate).result⟩ := by
  obtain ⟨hr, hq⟩ := isBlankText_of_kinds (readContext_eq_ok_iff.1 hcontext)
  have hread : Draft.read s = (do
      let d ← Draft.empty.play (declarations r q)
      let clauses ← readPredicate predicate
      d.play ((clauses.flatMap ClauseText.parts).map .feed)) :=
    (Traced.liftM_bind_of_ok hsplit _).trans (Traced.liftM_bind_of_ok hcontext _)
  rw [hread, Draft.play_declarations_eq hr hq]
  split <;> rfl

end Statement

namespace Rule

variable {s : String} {events : List Event} {err : Error} {d : Draft}

theorem read_of_draft_eq_error (h : Draft.read s = ⟨events, .error err⟩) :
    read s = ⟨events, .error err⟩ := by
  rw [read, h]
  rfl

theorem read_of_toRule_eq_error (h : Draft.read s = ⟨events, .ok d⟩) (hd : d.toRule = .error err) :
    read s = ⟨events, .error err⟩ := by
  rw [read, h, Traced.mk_bind_of_ok, Traced.liftM_bind_of_error hd]
  exact congrArg (Traced.mk · _) (List.append_nil events)

theorem read_of_toRule_eq_ok {r : Rule} (h : Draft.read s = ⟨events, .ok d⟩)
    (hd : d.toRule = .ok r) : read s = ⟨events ++ [.ruleRead r], .ok r⟩ := by
  rw [read, h, Traced.mk_bind_of_ok, Traced.liftM_bind_of_ok hd]
  rfl

end Rule

namespace Statement

variable {s context predicate r : String} {q : Option String} {texts : List ClauseText}

/-- A draft which takes the parts of all clauses gives their rule, or one of them refers to a name
    which is not declared. -/
theorem leaves_of_taken {d : Draft} (hs : Introduces s r q predicate)
    (htexts : Chain.read (Token.ofSource predicate) = .ok texts)
    (hplay : ((named r q).play ((texts.flatMap ClauseText.parts).map .feed)).result = .ok d)
    (hread : Draft.read s = ⟨Draft.declared r q ++
      Stage.left.taking (texts.flatMap ClauseText.parts), .ok d⟩) :
    Leaves s (Rule.read s).events (Rule.read s).result := by
  obtain ⟨shapes, hchain, hshapes⟩ := exists_isChainOf htexts
  obtain ⟨cs, hcs, rfl⟩ := map_eq_ok_iff.1 ((Draft.play_chain htexts rfl rfl).symm.trans hplay)
  have hmean := mapM_eq_ok_iff.1 hcs
  rcases hrule : (cs.foldl Draft.close (named r q)).toRule with err | rule
  · obtain ⟨-, name, -, -, -, hname, rfl⟩ :=
      (Draft.toRule_eq_error_iff_of_shapes hchain.1 hshapes hmean).1 hrule
    rw [Rule.read_of_toRule_eq_error hread hrule]
    exact .undeclared hs (hasParts_of_read htexts) hname
  · obtain ⟨-, -, -, -, hclauses, -⟩ := Draft.toRule_eq_ok_iff.1 hrule
    have hlength : rule.predicate.clauses.length = texts.length := by
      rcases cs with - | ⟨c, cs⟩
      · exact absurd hclauses.symm rule.predicate.clauses_ne_nil
      · rw [← hclauses, Draft.foldl_close, hmean.length_eq]
        rfl
    rw [Rule.read_of_toRule_eq_ok hread hrule]
    exact .rule hs (hlength ▸ hasParts_of_read htexts)

/-- A draft which refuses a part of a clause has taken the parts in front of it. -/
theorem leaves_of_refused {d : Draft} {before behind : List String} {token : String} {err : Error}
    (hs : Introduces s r q predicate)
    (htexts : Chain.read (Token.ofSource predicate) = .ok texts)
    (hparts : texts.flatMap ClauseText.parts = before ++ token :: behind)
    (hplay : ((named r q).play ((texts.flatMap ClauseText.parts).map .feed)).result = .error err)
    (hd : ((named r q).play (before.map .feed)).result = .ok d)
    (h : (d.feed token).2.result = .error err)
    (hread : Draft.read s = ⟨Draft.declared r q ++ Stage.left.taking before, .error err⟩) :
    Leaves s (Rule.read s).events (Rule.read s).result := by
  -- The draft refuses it because the clause cannot be read.
  have herr := map_eq_error_iff.1 ((Draft.play_chain htexts rfl rfl).symm.trans hplay)
  obtain ⟨shapes, -, hshapes⟩ := exists_isChainOf htexts
  obtain ⟨-, x, -, -, -, cause, hoffends, rfl⟩ :=
    (ClauseText.mapM_read_eq_error_iff hshapes).1 herr
  have hnamed : (Draft.empty.play (declarations r q ++ before.map .feed)).result = .ok d := by
    obtain ⟨context, -, hkinds, hne⟩ := hs
    obtain ⟨hr, hq⟩ := isBlankText_of_kinds hkinds
    rw [Draft.play_append, Draft.play_declarations hr hq, if_neg hne]
    exact hd
  rw [Rule.read_of_draft_eq_error hread]
  exact .token hs (hparts ▸ hasParts_of_read htexts) hnamed h (category_of_offends hoffends)

/-- A statement whose context declares two names, or one, leaves what its predicate does. -/
theorem leaves_of_introduces (hs : Introduces s r q predicate)
    (hread : Draft.read s =
      ⟨Draft.declared r q ++ (feeding r q predicate).events, (feeding r q predicate).result⟩) :
    Leaves s (Rule.read s).events (Rule.read s).result := by
  rcases hpredicate : readPredicate predicate with err | texts
  · obtain ⟨fault, hfault, rfl⟩ := readPredicate_eq_error_iff.1 hpredicate
    rw [feeding, Traced.liftM_bind_of_error hpredicate] at hread
    rw [Rule.read_of_draft_eq_error hread]
    refine (List.append_nil (Draft.declared r q)).symm ▸ .predicate hs fun shapes hp => ?_
    obtain ⟨texts, hchain, -⟩ := hp.exists_read
    cases hfault.symm.trans hchain
  · have htexts := readPredicate_eq_ok_iff.1 hpredicate
    rw [feeding, Traced.liftM_bind_of_ok hpredicate] at hread
    rcases (named r q).play_feed_cases (texts.flatMap ClauseText.parts) with
      ⟨d, hplay⟩ | ⟨before, token, behind, d, err, hparts, hd, herr, hplay⟩
    · rw [hplay] at hread
      exact leaves_of_taken hs htexts (by rw [hplay]) hread
    · rw [hplay] at hread
      exact leaves_of_refused hs htexts hparts (by rw [hplay]) hd herr hread

end Statement

/-- Reading a statement records how far it comes: the names which were declared; then the tokens
    which the draft took, which are none unless the whole predicate is a chain of clauses; and then
    the rule, if there is one. A rule of `k` clauses takes `4 * k - 1` tokens, and so does a
    statement whose clauses refer to a name that is not declared; every other error of a chain of
    clauses is that of the first token which the draft refuses. -/
theorem Rule.leaves_read (s : String) :
    Statement.Leaves s (Rule.read s).events (Rule.read s).result := by
  rcases hsplit : Statement.split s with err | ⟨context, predicate⟩
  · obtain ⟨hcut, rfl⟩ := Statement.split_eq_error_iff.1 hsplit
    rw [read_of_draft_eq_error (Traced.liftM_bind_of_error hsplit _)]
    exact .statement hcut
  have hcut := Statement.split_eq_ok_iff_isCutInto.1 hsplit
  rcases hcontext : Statement.readContext context with err | ⟨r, q⟩
  · obtain ⟨hkinds, rfl⟩ := Statement.readContext_eq_error_iff.1 hcontext
    have hread : Draft.read s = .fail _ :=
      (Traced.liftM_bind_of_ok hsplit _).trans (Traced.liftM_bind_of_error hcontext _)
    rw [read_of_draft_eq_error hread]
    exact .context hcut hkinds
  have hkinds := Statement.readContext_eq_ok_iff.1 hcontext
  have hread := Statement.draft_read_eq hsplit hcontext
  by_cases hne : q = some r
  · subst hne
    rw [if_pos rfl] at hread
    rw [read_of_draft_eq_error hread]
    exact .names hcut hkinds
  · rw [if_neg hne] at hread
    exact Statement.leaves_of_introduces ⟨context, hcut, hkinds, hne⟩ hread

end Interlock
