import Interlock.Connector
import Interlock.Token

/-!
# Chains of clauses

The predicate of a statement has to be a chain: an operand, a phrase of words and an operand, and
any number of times a connector and three more such parts. The tokens are checked against this shape
as a whole before any of them is read for what it means.

* `ClauseText`: the parts of one clause as they were written.
* `Chain.read`: the clauses of a sequence of tokens, or the first thing that does not fit.
-/

namespace Interlock

/-- The parts of one clause as they were written. Phrases have single spaces between their words. -/
structure ClauseText where
  connector : Option String
  left : String
  operator : String
  right : String
  deriving DecidableEq

/-- The parts in the order in which they were written. -/
def ClauseText.parts (c : ClauseText) : List String :=
  c.connector.toList ++ [c.left, c.operator, c.right]

namespace Chain

/-- The parts of a clause. -/
inductive Part where
  | operand
  | operator
  | connector
  deriving DecidableEq

/-- The name of a part in messages. -/
def Part.name : Part → String
  | operand => "operand"
  | operator => "operator"
  | connector => "connector"

/-- Why some tokens are no chain of clauses. -/
inductive Fault where
  /-- Another token stands where a part should begin. -/
  | expected (part : Part) (found : Token.Kind) (column : Nat)
  /-- The words between two clauses are no connector. -/
  | invalidConnector (phrase : String)
  deriving DecidableEq

/-- The message of a fault. -/
def Fault.message : Fault → String
  | expected part found column =>
    "expected " ++ part.name ++ ", found " ++ found.render ++ " at column " ++ column.repr
  | invalidConnector phrase => "invalid connector " ++ Text.quoted phrase

/-- The next token is not what should stand there. -/
def expected (part : Part) : List Token → Fault
  | t :: _ => .expected part t.kind t.span.column
  | [] => .expected part .eof 0

/-- The words at the head of some tokens, and the tokens behind them. -/
def takeWords : List Token → List String × List Token
  | [] => ([], [])
  | t :: ts =>
    match t.kind with
    | .word w => let (ws, rest) := takeWords ts; (w :: ws, rest)
    | _ => ([], t :: ts)

/-- The phrase at the head of some tokens: one or more words. -/
def readPhrase (part : Part) (ts : List Token) : Except Fault (String × List Token) :=
  match takeWords ts with
  | ([], _) => .error (expected part ts)
  | (ws, rest) => .ok (" ".intercalate ws, rest)

/-- The operand at the head of some tokens. -/
def readOperand : List Token → Except Fault (String × List Token)
  | t :: ts => if t.kind.isOperand then .ok (t.text, ts) else .error (expected .operand (t :: ts))
  | [] => .error (expected .operand [])

/-- The connector at the head of some tokens. -/
def readConnector (ts : List Token) : Except Fault (String × List Token) := do
  let (phrase, rest) ← readPhrase .connector ts
  match Connector.read phrase with
  | .ok _ => .ok (phrase, rest)
  | .error _ => .error (.invalidConnector phrase)

/-- The three parts of a clause at the head of some tokens, and the tokens behind them. -/
def readClause (connector : Option String) (ts : List Token) :
    Except Fault (ClauseText × List Token) := do
  let (left, ts) ← readOperand ts
  let (operator, ts) ← readPhrase .operator ts
  let (right, ts) ← readOperand ts
  return (⟨connector, left, operator, right⟩, ts)

theorem takeWords_rest_le (ts : List Token) : (takeWords ts).2.length ≤ ts.length := by
  induction ts with
  | nil => simp [takeWords]
  | cons t ts ih =>
    rw [takeWords]
    split
    · exact Nat.le_succ_of_le ih
    · simp

theorem readPhrase_rest_le {part : Part} {ts rest : List Token} {phrase : String}
    (h : readPhrase part ts = .ok (phrase, rest)) : rest.length ≤ ts.length := by
  have := takeWords_rest_le ts
  unfold readPhrase at h
  split at h
  · cases h
  · next heq => cases h; simpa [heq] using this

theorem readOperand_rest_lt {ts rest : List Token} {text : String}
    (h : readOperand ts = .ok (text, rest)) : rest.length < ts.length := by
  cases ts with
  | nil => cases h
  | cons t ts =>
    rw [readOperand] at h
    split at h
    · cases h; simp
    · cases h

theorem readConnector_rest_le {ts rest : List Token} {phrase : String}
    (h : readConnector ts = .ok (phrase, rest)) : rest.length ≤ ts.length := by
  unfold readConnector at h
  cases hp : readPhrase .connector ts with
  | error f => rw [hp] at h; cases h
  | ok p =>
    obtain ⟨phrase', rest'⟩ := p
    have hle := readPhrase_rest_le hp
    rw [hp] at h
    simp only [bind, Except.bind] at h
    split at h <;> cases h
    exact hle

theorem readClause_rest_lt {connector : Option String} {ts rest : List Token} {c : ClauseText}
    (h : readClause connector ts = .ok (c, rest)) : rest.length < ts.length := by
  unfold readClause at h
  cases h₁ : readOperand ts with
  | error f => rw [h₁] at h; cases h
  | ok p₁ =>
    have l₁ := readOperand_rest_lt h₁
    rw [h₁] at h
    simp only [bind, Except.bind] at h
    cases h₂ : readPhrase .operator p₁.2 with
    | error f => rw [h₂] at h; cases h
    | ok p₂ =>
      have l₂ := readPhrase_rest_le h₂
      rw [h₂] at h
      simp only at h
      cases h₃ : readOperand p₂.2 with
      | error f => rw [h₃] at h; cases h
      | ok p₃ =>
        have l₃ := readOperand_rest_lt h₃
        rw [h₃] at h
        cases h
        omega

/-- The tokens hold nothing but the end. -/
def atEnd : List Token → Bool
  | t :: _ => t.kind == .eof
  | [] => true

/-- The clauses behind a first one, each with its connector. -/
def readRest (ts : List Token) : Except Fault (List ClauseText) :=
  if atEnd ts then .ok []
  else match _hk : readConnector ts with
    | .error f => .error f
    | .ok (connector, rest) =>
      match _hc : readClause (some connector) rest with
      | .error f => .error f
      | .ok (clause, rest') => (readRest rest').map (clause :: ·)
termination_by ts.length
decreasing_by
  have := readConnector_rest_le _hk
  have := readClause_rest_lt _hc
  omega

/-- The clauses of a sequence of tokens. -/
def read (ts : List Token) : Except Fault (List ClauseText) := do
  let (clause, rest) ← readClause none ts
  let clauses ← readRest rest
  return clause :: clauses

end Chain

end Interlock
