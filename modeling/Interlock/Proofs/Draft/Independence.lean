import Interlock.Proofs.Draft.Log

/-!
# Calls which do not depend on each other

A draft has three parts: the predicate, the names, and the actions. Every call is about one of them.
It reads and changes that part alone, so it does not matter how the calls about one part and those
about another are interleaved.

* `Draft.Part`, `Draft.Call.part`: the parts of a draft, and which of them a call is about.
  `Draft.only`: a draft with one of its parts alone.
* `Draft.only_apply`, `Draft.only_apply_of_ne`: a call depends on its own part, and leaves the
  others as they were.
* `Draft.only_run`, `Draft.filter_log`: what becomes of a part, and what comes of the calls about
  it, is decided by these calls.

Together with `Draft.run_accepted` this says of which calls a draft keeps no trace, and of which it
keeps no order.
-/

namespace Interlock

namespace Draft

/-- The parts of a draft which calls are about. -/
inductive Part where
  /-- The tokens which were taken. -/
  | predicate
  /-- The names which were declared. -/
  | names
  /-- The actions which were bound. -/
  | actions
  deriving DecidableEq

/-- The part of a draft which a call is about. -/
def Call.part : Call → Part
  | .declare _ _ => .names
  | .feed _ => .predicate
  | .bind _ _ => .actions

/-- The draft with one part alone, and nothing in the others. -/
def only (d : Draft) : Part → Draft
  | .predicate =>
    { d with requestingName := none, restrictingName := none, requesting := none,
             restricting := none }
  | .names =>
    { empty with requestingName := d.requestingName, restrictingName := d.restrictingName }
  | .actions => { empty with requesting := d.requesting, restricting := d.restricting }

variable {d e : Draft} {c : Call} {p : Part}

/-- A draft is made up of its parts. -/
theorem eq_of_only_eq (h : ∀ p, d.only p = e.only p) : d = e := by
  have hpredicate := h .predicate
  have hnames := h .names
  have hactions := h .actions
  obtain ⟨_, _, _, _, _, _, _, _, _⟩ := d
  obtain ⟨_, _, _, _, _, _, _, _, _⟩ := e
  simp_all [only]

/-! ## One call -/

theorem only_feed (d : Draft) (token : String) :
    (d.only .predicate).feed token = ((d.feed token).1.only .predicate, (d.feed token).2) := by
  obtain ⟨stage, clauses, left, operator, connector, _, _, _, _⟩ := d
  simp only [feed, only]
  by_cases hblank : Text.isBlankText token
  · rw [if_pos hblank, if_pos hblank]
  · rw [if_neg hblank, if_neg hblank]
    cases stage with
    | left => rcases Operand.read token with err | o <;> rfl
    | operator =>
      rcases left with - | l
      · rfl
      · rcases h : Operator.read token l.type with err | o <;> simp [h, advance]
    | right =>
      rcases Operand.read token with err | r
      · rfl
      · rcases left with - | l
        · rfl
        · rcases operator with - | o
          · rfl
          · rcases h : Clause.make l o r connector with err | c <;> simp [h, advance]
    | connector => rcases Connector.read token with err | k <;> rfl

theorem only_declare (d : Draft) (key name : String) :
    (d.only .names).declare key name =
      ((d.declare key name).1.only .names, (d.declare key name).2) := by
  simp only [declare]
  rcases Slot.ofKey? key with - | slot
  · rfl
  · have hname : (d.only .names).name? slot = d.name? slot := by cases slot <;> rfl
    have hdeclares : (d.only .names).declares name = d.declares name := rfl
    simp only [hname, hdeclares]
    split_ifs
    · rfl
    · rfl
    · rfl
    · cases slot <;> rfl

/-- A call depends on its own part of the draft. -/
theorem only_apply (hc : c.part = p) :
    (d.only p).apply c = ((d.apply c).1.only p, (d.apply c).2) := by
  subst hc
  cases c with
  | declare key name => exact only_declare d key name
  | feed token => exact only_feed d token
  | bind slot a => cases slot <;> rfl

/-- A call leaves the other parts of the draft as they were. -/
theorem only_apply_of_ne (hc : c.part ≠ p) : (d.apply c).1.only p = d.only p := by
  cases c with
  | declare key name =>
    rcases declare_cases d key name with ⟨err, heq⟩ | ⟨slot, heq⟩
    · rw [apply, heq]
    · rw [apply, heq]
      cases p with
      | names => exact absurd rfl hc
      | predicate => cases slot <;> rfl
      | actions => cases slot <;> rfl
  | feed token =>
    rcases feed_cases d token with ⟨err, heq⟩ | ⟨e, he, heq⟩
    · rw [apply, heq]
    · rw [apply, heq]
      cases p with
      | predicate => exact absurd rfl hc
      | names => cases he <;> rfl
      | actions => cases he <;> rfl
  | bind slot a =>
    cases p with
    | actions => exact absurd rfl hc
    | predicate => cases slot <;> rfl
    | names => cases slot <;> rfl

/-! ## Sequences of calls -/

/-- The calls about a part. -/
def Call.about (p : Part) (cs : List Call) : List Call := cs.filter fun c => c.part = p

/-- The entries of a log which are about a part. -/
def logAbout (d : Draft) (p : Part) (cs : List Call) : List (Call × Traced Unit) :=
  (d.log cs).filter fun entry => entry.1.part = p

variable {cs : List Call}

theorem Call.about_cons (hc : c.part = p) : about p (c :: cs) = c :: about p cs :=
  List.filter_cons_of_pos (by simpa using hc)

theorem Call.about_cons_of_ne (hc : c.part ≠ p) : about p (c :: cs) = about p cs :=
  List.filter_cons_of_neg (by simpa using hc)

theorem logAbout_cons (hc : c.part = p) :
    d.logAbout p (c :: cs) = (c, (d.apply c).2) :: (d.apply c).1.logAbout p cs :=
  List.filter_cons_of_pos (by simpa using hc)

theorem logAbout_cons_of_ne (hc : c.part ≠ p) :
    d.logAbout p (c :: cs) = (d.apply c).1.logAbout p cs :=
  List.filter_cons_of_neg (by simpa using hc)

/-- A part of the draft is what the calls about it make of it. -/
theorem only_run (d : Draft) (p : Part) (cs : List Call) :
    (d.run cs).1.only p = ((d.only p).run (Call.about p cs)).1 := by
  induction cs generalizing d with
  | nil => rfl
  | cons c cs ih =>
    by_cases hc : c.part = p
    · rw [run_cons, ih, Call.about_cons hc, run_cons, only_apply hc]
    · rw [run_cons, ih, Call.about_cons_of_ne hc, only_apply_of_ne hc]

/-- What comes of the calls about a part is what comes of them alone. -/
theorem logAbout_eq (d : Draft) (p : Part) (cs : List Call) :
    d.logAbout p cs = (d.only p).log (Call.about p cs) := by
  induction cs generalizing d with
  | nil => rfl
  | cons c cs ih =>
    by_cases hc : c.part = p
    · rw [logAbout_cons hc, ih, Call.about_cons hc, log_cons, only_apply hc]
    · rw [logAbout_cons_of_ne hc, ih, Call.about_cons_of_ne hc, only_apply_of_ne hc]

/-- A call which fails leaves the draft as it was. So the calls which fail may be left out: the same
    draft comes of the others, and the same comes of each. And two sequences in which the calls
    about each part follow each other in the same way, however these are interleaved, come to the
    same draft, and each call to the same result. -/
theorem atomic_and_independent :
    (∀ (d : Draft) (c : Call) (err : Error), (d.apply c).2.result = .error err →
      (d.apply c).1 = d) ∧
    (∀ (d : Draft) (cs : List Call), (d.run (d.accepted cs)).1 = (d.run cs).1 ∧
      d.log (d.accepted cs) = (d.log cs).filter fun entry => entry.2.result.isOk) ∧
    (∀ (d : Draft) (cs cs' : List Call), (∀ p, Call.about p cs = Call.about p cs') →
      (d.run cs).1 = (d.run cs').1 ∧ ∀ p, d.logAbout p cs = d.logAbout p cs') := by
  refine ⟨fun d c err => apply_of_error, fun d cs => ⟨run_accepted d cs, log_accepted d cs⟩,
    fun d cs cs' h => ⟨eq_of_only_eq fun p => ?_, fun p => ?_⟩⟩
  · rw [only_run, only_run, h]
  · rw [logAbout_eq, logAbout_eq, h]

/-- Tokens, of which one is refused, before names, of which another is. -/
def separateCalls : List Call :=
  [.feed "a.dest", .feed "OVERLAPS WITH", .feed "IS", .feed "b.dest",
    .declare "entry1" "a", .declare "entry2" "a", .declare "entry2" "b"]

/-- The same calls, with the names between the tokens. -/
def mixedCalls : List Call :=
  [.declare "entry1" "a", .feed "a.dest", .declare "entry2" "a", .feed "OVERLAPS WITH",
    .declare "entry2" "b", .feed "IS", .feed "b.dest"]

/-- The refused token leaves the draft as it was, and both sequences come to the same draft and the
    same results, with the refused calls and without them. -/
theorem atomic_and_independent_mixed :
    let d := (empty.run [.feed "a.dest"]).1
    (d.apply (.feed "OVERLAPS WITH")).2.result =
      .error { cause := .unsupportedOperandType "OVERLAPS WITH" .vertex } ∧
    (d.apply (.feed "OVERLAPS WITH")).1 = d ∧
    (empty.run (empty.accepted mixedCalls)).1 = (empty.run mixedCalls).1 ∧
    (∀ p, Call.about p mixedCalls = Call.about p separateCalls) ∧
    (empty.run mixedCalls).1 = (empty.run separateCalls).1 ∧
    ∀ p, empty.logAbout p mixedCalls = empty.logAbout p separateCalls := by
  have habout : ∀ p, Call.about p mixedCalls = Call.about p separateCalls := by
    intro p
    cases p <;> rfl
  obtain ⟨hrun, hlog⟩ := atomic_and_independent.2.2 empty mixedCalls separateCalls habout
  exact ⟨rfl, atomic_and_independent.1 _ _ _ rfl, (atomic_and_independent.2.1 _ _).1, habout, hrun,
    hlog⟩

end Draft

end Interlock
