import Interlock.Proofs.Statement.Acceptance
import Interlock.Proofs.Statement.Offence

/-!
# Why statements are refused

A statement which is no rule has one thing wrong with it that comes first. It is not cut into two
parts, or its context declares no names, or the same name twice; or its predicate is no chain of
clauses, whatever is wrong with the clauses at its head; or one of the clauses offends; or it refers
to a name which is not declared.

* `Statement.IsCutInto`, `Statement.Introduces`, `Statement.IsChainOf`: what a statement has to be,
  told from its text and its tokens.
* `Statement.Fault`: what is wrong with a statement, where everything before it is right.
* `Draft.read_eq_error_iff`, `Draft.toRule_eq_error_iff_of_shapes`: the errors of the two halves of
  the reading. `Rule.read_eq_error_iff`: the error of a statement.

In the end, the error of a statement is what is wrong with it, and none of those which a draft can
give to a caller who misuses it.
-/

namespace Interlock

open Text

/-! ## Names -/

/-- The name to which a token refers, if it is a reference. -/
def Token.Kind.referent? : Token.Kind → Option String
  | .reference n _ => some n
  | _ => none

/-- The names to which the tokens of a clause refer, the left one first. -/
def Clause.Shape.names (x : Shape) : List String :=
  x.left.referent?.toList ++ x.right.referent?.toList

theorem Operand.Spells.name?_eq {k : Token.Kind} {o : Operand} (h : Spells k o) :
    o.name? = k.referent? := by
  cases h <;> rfl

theorem Clause.Spells.names_eq {x : Shape} {c : Clause} (h : Spells x.kinds c) (hx : x.Fits) :
    c.names = x.names := by
  obtain ⟨-, hc⟩ := (spells_iff hx.left hx.right).1 h
  rw [names, Shape.names, hc.left.name?_eq, hc.right.name?_eq]

theorem Clause.flatMap_names_eq {shapes : List Shape} {cs : List Clause}
    (h : List.Forall₂ (fun x c => x.Fits ∧ Spells x.kinds c) shapes cs) :
    cs.flatMap names = shapes.flatMap Shape.names := by
  induction h with
  | nil => rfl
  | cons hx _ ih => rw [List.flatMap_cons, List.flatMap_cons, ih, hx.2.names_eq hx.1]

/-! ## What can be wrong -/

namespace Statement

/-- The statement falls into a context and a predicate: what stands before and behind its first
    separator, without blanks at their ends. Neither is empty. -/
def IsCutInto (s context predicate : String) : Prop :=
  ∃ a b, trim s.toList = a ++ (separator ++ b) ∧
    (∀ a' b', trim s.toList = a' ++ (separator ++ b') → a.length ≤ a'.length) ∧
    trim a ≠ [] ∧ trim b ≠ [] ∧
    context = String.ofList (trim a) ∧ predicate = String.ofList (trim b)

/-- The statement introduces a predicate by a context which declares these names. They differ. -/
def Introduces (s r : String) (q : Option String) (predicate : String) : Prop :=
  ∃ context, IsCutInto s context predicate ∧
    Token.kinds context.toList = contextKinds r q ++ [.eof] ∧ q ≠ some r

/-- The tokens of a predicate are those of a chain of clauses. -/
def IsChainOf (predicate : String) (shapes : List Clause.Shape) : Prop :=
  Clause.AreChain shapes ∧
    Token.kinds predicate.toList = shapes.flatMap Clause.Shape.kinds ++ [.eof]

/-- What is wrong with a statement, where everything that is looked at before is right. -/
inductive Fault (s : String) : Cause → Prop
  /-- There is no separator, or nothing on one side of it. -/
  | statement (h : ∀ context predicate, ¬IsCutInto s context predicate) :
    Fault s (.malformedStatement s pattern)
  /-- The context does not declare names. -/
  | context {context predicate : String} (hs : IsCutInto s context predicate)
    (h : ∀ r q, Token.kinds context.toList ≠ contextKinds r q ++ [.eof]) :
    Fault s (.malformedContext context contextPattern)
  /-- The context declares one name twice. -/
  | names {context predicate r : String} (hs : IsCutInto s context predicate)
    (h : Token.kinds context.toList = contextKinds r (some r) ++ [.eof]) :
    Fault s (.invalidContextMapping Slot.restricting.key r "name already mapped")
  /-- The predicate is no chain of clauses. The message is about the first token which does not
      fit. -/
  | predicate {r predicate : String} {q : Option String} {fault : Chain.Fault}
    (hs : Introduces s r q predicate) (h : ∀ shapes, ¬IsChainOf predicate shapes)
    (hf : Chain.read (Token.ofSource predicate) = .error fault) :
    Fault s (.malformedPredicate predicate predicatePattern fault.message)
  /-- A clause offends, and none before it does. -/
  | clause {r predicate : String} {q : Option String} {before behind : List Clause.Shape}
    {x : Clause.Shape} {cause : Cause} (hs : Introduces s r q predicate)
    (hp : IsChainOf predicate (before ++ x :: behind))
    (hbefore : ∀ y ∈ before, ∀ cause, ¬Clause.Offends y cause) (h : Clause.Offends x cause) :
    Fault s cause
  /-- No clause offends, but one refers to a name which is not declared. -/
  | undeclared {r predicate n : String} {q : Option String} {shapes : List Clause.Shape}
    {before behind : List String} (hs : Introduces s r q predicate)
    (hp : IsChainOf predicate shapes) (hok : ∀ x ∈ shapes, ∀ cause, ¬Clause.Offends x cause)
    (hnames : shapes.flatMap Clause.Shape.names = before ++ n :: behind)
    (hbefore : ∀ m ∈ before, m = r ∨ q = some m) (hn : ¬(n = r ∨ q = some n)) :
    Fault s (.missingContextEntry n)

/-! ## The parts of a statement -/

variable {s context predicate r : String} {q : Option String} {err : Error}

theorem split_eq_ok_iff_isCutInto :
    split s = .ok (context, predicate) ↔ IsCutInto s context predicate := by
  simp only [split_eq_ok_iff, IsCutInto, cutAt_eq_some_iff, and_assoc]

theorem split_eq_error_iff : split s = .error err ↔
    (∀ context predicate, ¬IsCutInto s context predicate) ∧
      err = { cause := .malformedStatement s pattern } := by
  have hsingle : ∀ err, split s = .error err →
      err = { cause := .malformedStatement s pattern } := by
    intro err h
    rw [split] at h
    split at h
    · exact (Except.error.inj h).symm
    · simp only at h
      split at h
      · exact (Except.error.inj h).symm
      · cases h
  simp only [eq_error_iff_of_single hsingle, Prod.forall, ne_eq, split_eq_ok_iff_isCutInto]

theorem readContext_eq_error_iff : readContext context = .error err ↔
    (∀ r q, Token.kinds context.toList ≠ contextKinds r q ++ [.eof]) ∧
      err = { cause := .malformedContext context contextPattern } := by
  have hsingle : ∀ err, readContext context = .error err →
      err = { cause := .malformedContext context contextPattern } := by
    intro err h
    rw [readContext] at h
    split at h
    · cases h
    · exact (Except.error.inj h).symm
  simp only [eq_error_iff_of_single hsingle, Prod.forall, ne_eq, readContext_eq_ok_iff]

theorem readPredicate_eq_error_iff : readPredicate predicate = .error err ↔
    ∃ fault, Chain.read (Token.ofSource predicate) = .error fault ∧
      err = { cause := .malformedPredicate predicate predicatePattern fault.message } := by
  rw [readPredicate]
  rcases Chain.read (Token.ofSource predicate) with fault | texts
  · simp [eq_comm]
  · simp

theorem IsChainOf.exists_read {shapes : List Clause.Shape} (h : IsChainOf predicate shapes) :
    ∃ texts, Chain.read (Token.ofSource predicate) = .ok texts ∧
      List.Forall₂ (ClauseText.HasShape (Cursor.ofSource predicate)) texts shapes := by
  refine Chain.exists_read_of_areChain h.1 ?_
  rw [← h.2, ← Token.map_kind_ofSource]
  rfl

theorem exists_isChainOf {texts : List ClauseText}
    (h : Chain.read (Token.ofSource predicate) = .ok texts) :
    ∃ shapes, IsChainOf predicate shapes ∧
      List.Forall₂ (ClauseText.HasShape (Cursor.ofSource predicate)) texts shapes := by
  obtain ⟨shapes, hchain, hshapes, hkinds⟩ := Chain.exists_shapes_of_read h
  refine ⟨shapes, ⟨hchain, ?_⟩, hshapes⟩
  rw [← Token.map_kind_ofSource, ← hkinds]
  rfl

end Statement

/-! ## The error of a statement -/

/-- The steps of the reading, in whose order the faults of a statement count. -/
theorem Draft.read_eq_error_iff {s : String} {err : Error} : (Draft.read s).result = .error err ↔
    Statement.split s = .error err ∨
    ∃ context predicate, Statement.split s = .ok (context, predicate) ∧
      (Statement.readContext context = .error err ∨
      ∃ r q, Statement.readContext context = .ok (r, q) ∧
        (q = some r ∧ err =
            { cause := .invalidContextMapping Slot.restricting.key r "name already mapped" } ∨
        q ≠ some r ∧ (Statement.readPredicate predicate = .error err ∨
          ∃ texts, Statement.readPredicate predicate = .ok texts ∧
            texts.mapM ClauseText.read = .error err))) := by
  simp only [result_read, bind_eq_error_iff, Prod.exists]
  refine or_congr_right (exists_congr fun context => exists_congr fun predicate =>
    and_congr_right' (or_congr_right (exists_congr fun r => exists_congr fun q =>
      and_congr_right' ?_)))
  split
  · next hne => simp [hne, eq_comm]
  · next hne => simp [hne, bind_eq_error_iff, map_eq_error_iff]

/-- The draft of a statement has no rule if one of its clauses refers to an undeclared name. -/
theorem Draft.toRule_eq_error_iff_of_shapes {cur : Cursor} {texts : List ClauseText}
    {shapes : List Clause.Shape} {cs : List Clause} {r : String} {q : Option String} {err : Error}
    (hchain : Clause.AreChain shapes)
    (hshapes : List.Forall₂ (ClauseText.HasShape cur) texts shapes)
    (hmean : ClauseText.Mean texts cs) :
    (cs.foldl close { empty with requestingName := some r, restrictingName := q }).toRule =
        .error err ↔
      ∃ before n behind, shapes.flatMap Clause.Shape.names = before ++ n :: behind ∧
        (∀ m ∈ before, m = r ∨ q = some m) ∧ ¬(n = r ∨ q = some n) ∧
        err = { cause := .missingContextEntry n } := by
  have hspells := (List.forall₂_and_left _ _).2
    ⟨hchain.fits, (ClauseText.mean_iff_of_hasShape hshapes).1 hmean⟩
  have hjoined := (Clause.areChain_iff hspells).1 hchain
  have hnames := Clause.flatMap_names_eq hspells
  rcases cs with - | ⟨c, cs⟩
  · exact hjoined.elim
  · rw [foldl_close, toRule_eq_error_iff rfl hjoined rfl rfl]
    simp only [undeclared?_eq_some_iff, declares_iff, empty, List.nil_append, hnames,
      Option.some.injEq, @eq_comm String r]
    constructor
    · rintro ⟨n, ⟨before, behind, heq, hbefore, hn⟩, rfl⟩
      exact ⟨before, n, behind, heq, hbefore, hn, rfl⟩
    · rintro ⟨before, n, behind, heq, hbefore, hn, rfl⟩
      exact ⟨n, ⟨before, behind, heq, hbefore, hn⟩, rfl⟩

namespace Statement

variable {s : String} {err : Error} {cause : Cause}

/-- If there is no draft of a statement, its parts, its names, its shape or one of its clauses are
    wrong. -/
theorem exists_fault_of_read (h : (Draft.read s).result = .error err) :
    ∃ cause, Fault s cause ∧ err = { cause } := by
  rcases Draft.read_eq_error_iff.1 h with hsplit | ⟨context, predicate, hsplit, h⟩
  · obtain ⟨hcut, rfl⟩ := split_eq_error_iff.1 hsplit
    exact ⟨_, .statement hcut, rfl⟩
  have hcut := split_eq_ok_iff_isCutInto.1 hsplit
  rcases h with hcontext | ⟨r, q, hcontext, h⟩
  · obtain ⟨hkinds, rfl⟩ := readContext_eq_error_iff.1 hcontext
    exact ⟨_, .context hcut hkinds, rfl⟩
  have hkinds := readContext_eq_ok_iff.1 hcontext
  rcases h with ⟨rfl, rfl⟩ | ⟨hne, h⟩
  · exact ⟨_, .names hcut hkinds, rfl⟩
  have hs : Introduces s r q predicate := ⟨context, hcut, hkinds, hne⟩
  rcases h with hpredicate | ⟨texts, htexts, h⟩
  · obtain ⟨fault, hfault, rfl⟩ := readPredicate_eq_error_iff.1 hpredicate
    refine ⟨_, .predicate hs (fun shapes hp => ?_) hfault, rfl⟩
    obtain ⟨texts, hread, -⟩ := hp.exists_read
    cases hfault.symm.trans hread
  · obtain ⟨shapes, hp, hshapes⟩ := exists_isChainOf (readPredicate_eq_ok_iff.1 htexts)
    rw [ClauseText.mapM_read_eq_error_iff hshapes] at h
    obtain ⟨before, x, behind, rfl, hbefore, cause, hoffends, rfl⟩ := h
    exact ⟨cause, .clause hs hp hbefore hoffends, rfl⟩

/-- If there is a draft of a statement and no rule, it refers to a name which is not declared. -/
theorem exists_fault_of_toRule {d : Draft} (hd : (Draft.read s).result = .ok d)
    (h : d.toRule = .error err) : ∃ cause, Fault s cause ∧ err = { cause } := by
  obtain ⟨context, predicate, r, q, texts, cs, hsplit, hkinds, hne, hread, hmean, rfl⟩ :=
    Draft.read_eq_ok_iff.1 hd
  have hs : Introduces s r q predicate :=
    ⟨context, split_eq_ok_iff_isCutInto.1 hsplit, hkinds, hne⟩
  obtain ⟨shapes, hp, hshapes⟩ := exists_isChainOf hread
  rw [Draft.toRule_eq_error_iff_of_shapes hp.1 hshapes hmean] at h
  obtain ⟨before, n, behind, hnames, hbefore, hn, rfl⟩ := h
  have hok := (ClauseText.exists_mean_iff hshapes).1 ⟨cs, hmean⟩
  exact ⟨_, .undeclared hs hp hok hnames hbefore hn, rfl⟩

/-- The error of a predicate is that of the statement which introduces it. -/
theorem Introduces.draft_read_eq_error {r predicate : String} {q : Option String}
    (hs : Introduces s r q predicate) (h : readPredicate predicate = .error err ∨
      ∃ texts, readPredicate predicate = .ok texts ∧ texts.mapM ClauseText.read = .error err) :
    (Draft.read s).result = .error err := by
  obtain ⟨context, hcut, hkinds, hne⟩ := hs
  refine Draft.read_eq_error_iff.2 (.inr ⟨context, predicate, ?_, .inr ⟨r, q, ?_, ?_⟩⟩)
  · exact split_eq_ok_iff_isCutInto.2 hcut
  · exact readContext_eq_ok_iff.2 hkinds
  · exact .inr ⟨hne, h⟩

/-- What is wrong with a statement is its error. -/
theorem Fault.result_read (h : Fault s cause) : (Rule.read s).result = .error { cause } := by
  rw [Rule.result_read, bind_eq_error_iff]
  cases h with
  | statement h =>
    exact .inl (Draft.read_eq_error_iff.2 (.inl (split_eq_error_iff.2 ⟨h, rfl⟩)))
  | @context context predicate hs h =>
    refine .inl (Draft.read_eq_error_iff.2 (.inr ⟨context, predicate, ?_, .inl ?_⟩))
    · exact split_eq_ok_iff_isCutInto.2 hs
    · exact readContext_eq_error_iff.2 ⟨h, rfl⟩
  | @names context predicate r hs h =>
    refine .inl (Draft.read_eq_error_iff.2
      (.inr ⟨context, predicate, ?_, .inr ⟨r, some r, ?_, ?_⟩⟩))
    · exact split_eq_ok_iff_isCutInto.2 hs
    · exact readContext_eq_ok_iff.2 h
    · exact .inl ⟨rfl, rfl⟩
  | predicate hs h hf =>
    exact .inl (hs.draft_read_eq_error (.inl (readPredicate_eq_error_iff.2 ⟨_, hf, rfl⟩)))
  | @clause r predicate q before behind x cause hs hp hbefore h =>
    obtain ⟨texts, hread, hshapes⟩ := hp.exists_read
    refine .inl (hs.draft_read_eq_error (.inr ⟨texts, readPredicate_eq_ok_iff.2 hread, ?_⟩))
    rw [ClauseText.mapM_read_eq_error_iff hshapes]
    exact ⟨before, x, behind, rfl, hbefore, _, h, rfl⟩
  | @undeclared r predicate n q shapes before behind hs hp hok hnames hbefore hn =>
    obtain ⟨context, hcut, hkinds, hne⟩ := hs
    obtain ⟨texts, hread, hshapes⟩ := hp.exists_read
    obtain ⟨cs, hmean⟩ := (ClauseText.exists_mean_iff hshapes).2 hok
    refine .inr ⟨_, Draft.read_eq_ok_iff.2 ⟨context, predicate, r, q, texts, cs, ?_, hkinds, hne,
      hread, hmean, rfl⟩, ?_⟩
    · exact split_eq_ok_iff_isCutInto.2 hcut
    · rw [Draft.toRule_eq_error_iff_of_shapes hp.1 hshapes hmean]
      exact ⟨before, n, behind, hnames, hbefore, hn, rfl⟩

/-- Nothing that is wrong with a statement is a misuse of its draft. -/
theorem Fault.isDefect_eq_false (h : Fault s cause) : ({ cause } : Error).isDefect = false := by
  cases h with
  | clause hs hp hbefore h => cases h <;> rfl
  | _ => rfl

theorem Fault.ne_invalidConnector (h : Fault s cause) (token : String) :
    cause ≠ .invalidConnector token := by
  cases h with
  | clause hs hp hbefore h => cases h <;> simp
  | _ => simp

theorem Fault.ne_missingBinding (h : Fault s cause) (role : String) :
    cause ≠ .missingBinding role := by
  cases h with
  | clause hs hp hbefore h => cases h <;> simp
  | _ => simp

end Statement

/-- A statement is refused for what is wrong with it. -/
theorem Rule.read_eq_error_iff {s : String} {err : Error} : (Rule.read s).result = .error err ↔
    ∃ cause, Statement.Fault s cause ∧ err = { cause } := by
  constructor
  · intro h
    rw [result_read, bind_eq_error_iff] at h
    rcases h with h | ⟨d, hd, h⟩
    · exact Statement.exists_fault_of_read h
    · exact Statement.exists_fault_of_toRule hd h
  · rintro ⟨cause, h, rfl⟩
    exact h.result_read

/-- The error of a statement is what is wrong with it, without a place. It is no defect, and so none
    of the errors of a draft which was misused; nor is it one of a connector or of an action. -/
theorem Rule.error_of_read (s : String) (err : Error) :
    ((Rule.read s).result = .error err ↔ err.place = none ∧ Statement.Fault s err.cause) ∧
    ((Rule.read s).result = .error err → err.isDefect = false ∧
      (∀ token, err.cause ≠ .invalidConnector token) ∧ err.cause ≠ .emptyToken ∧
      (∀ stage token, err.cause ≠ .unexpectedToken stage token) ∧
      err.cause ≠ .incompletePredicate ∧ (∀ what, err.cause ≠ .preconditionViolation what) ∧
      ∀ role, err.cause ≠ .missingBinding role) := by
  constructor
  · rw [read_eq_error_iff]
    obtain ⟨cause, place⟩ := err
    constructor
    · rintro ⟨_, h, ⟨⟩⟩
      exact ⟨rfl, h⟩
    · rintro ⟨rfl, h⟩
      exact ⟨cause, h, rfl⟩
  · intro h
    obtain ⟨cause, hfault, rfl⟩ := read_eq_error_iff.1 h
    have hdefect := hfault.isDefect_eq_false
    refine ⟨hdefect, hfault.ne_invalidConnector, ?_, ?_, ?_, ?_, hfault.ne_missingBinding⟩
    · rintro rfl
      cases hdefect
    · rintro stage token rfl
      cases hdefect
    · rintro rfl
      cases hdefect
    · rintro what rfl
      cases hdefect

/-- A clause whose operator does not support its type, before words which are no connector. -/
def Statement.twoFaults : String := "ACTION a IS BLOCKED IF a.dest IS LESS THAN 3 XOR a.time IS 1"

/-- The words between the clauses give the error, though the clause before them offends. -/
theorem Rule.error_of_read_twoFaults :
    let err : Error :=
      { cause := .malformedPredicate "a.dest IS LESS THAN 3 XOR a.time IS 1"
          Statement.predicatePattern (Chain.Fault.invalidConnector "XOR").message }
    (Rule.read Statement.twoFaults).result = .error err ∧
      Statement.Fault Statement.twoFaults err.cause ∧ err.isDefect = false := by
  intro err
  have h : (Rule.read Statement.twoFaults).result = .error err := by decide +kernel
  obtain ⟨hiff, hnever⟩ := error_of_read Statement.twoFaults err
  exact ⟨h, (hiff.1 h).2, (hnever h).1⟩

end Interlock
