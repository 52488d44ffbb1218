import Interlock.Proofs.Rule.RoundTrip
import Interlock.Proofs.Rule.Evaluation

/-!
# Names do not matter

A rule reads its actions by the names which it declares. What these names are does not matter as
long as they differ, nor does it matter which of them was bound first: a reference finds the action
of its name, under whatever name.

* `Rule.rename`: a rule under other names, in its declarations and in all references.
* `Bindings.Carries`: what is bound to a name is bound to the other name for it. `Carries.bind`:
  this goes on if one more name is bound, unless its other name was taken.
* `Predicate.test_rename`: so chains under other names have the same results.
* `Rule.evaluate_rename`, `Rule.evaluate_exchange`: rules under other names, and rules whose two
  names have exchanged their roles.
* `Rule.evaluate_renamed`: both, for all rules which are read of a statement.
-/

namespace Interlock

/-! ## Other names -/

section Rename

variable (σ : String → String)

/-- An operand under other names. -/
def Operand.rename : Operand → Operand
  | literal v => literal v
  | reference n f => reference (σ n) f

/-- A clause under other names. -/
def Clause.rename (c : Clause) : Clause :=
  { c with left := c.left.rename σ, right := c.right.rename σ }

theorem Joined.rename {cs : List Clause} (h : Joined cs) : Joined (cs.map (Clause.rename σ)) := by
  rcases cs with - | ⟨c, cs⟩
  · exact h
  · exact ⟨h.1, List.forall_mem_map.2 h.2⟩

/-- A chain of clauses under other names. -/
def Predicate.rename (p : Predicate) : Predicate :=
  ⟨p.clauses.map (Clause.rename σ), p.joined.rename σ⟩

/-- A rule under other names: those which it declares and those to which it refers. -/
def Rule.rename (r : Rule) : Rule where
  requesting := σ r.requesting
  restricting := r.restricting.map σ
  predicate := r.predicate.rename σ

end Rename

theorem Operand.rename_id (o : Operand) : o.rename id = o := by
  cases o <;> rfl

theorem Predicate.rename_id (p : Predicate) : p.rename id = p := by
  have hclause (c : Clause) : c.rename id = c := by
    rw [Clause.rename, Operand.rename_id, Operand.rename_id]
  have hclauses : p.clauses.map (Clause.rename id) = p.clauses :=
    (List.map_congr_left fun c _ => hclause c).trans (List.map_id _)
  simp only [rename, hclauses]

/-! ## Bindings under other names -/

variable {σ : String → String} {b b' : Bindings}

/-- What is bound to a name is bound to the other name for it. -/
def Bindings.Carries (σ : String → String) (b b' : Bindings) : Prop :=
  ∀ n a, b.action? n = some a → b'.action? (σ n) = some a

/-- One more name may be bound, unless a name which was bound before goes by the same other name. -/
theorem Bindings.Carries.bind (h : Carries σ b b') {n : String}
    (hσ : ∀ m, b.Binds m → σ m = σ n → m = n) (a : Action) :
    Carries σ (b.bind n a) (b'.bind (σ n) a) := by
  intro m x hm
  rw [action?_bind] at hm ⊢
  by_cases hmn : m = n
  · rw [if_pos hmn] at hm
    rw [if_pos (congrArg σ hmn), hm]
  · rw [if_neg hmn] at hm
    rw [if_neg fun heq => hmn (hσ m ⟨x, hm⟩ heq), h m x hm]

/-- Two different names may be bound in either order. -/
theorem Bindings.action?_bind_comm {m n : String} (hne : m ≠ n) (b : Bindings) (x y : Action)
    (k : String) : ((b.bind m x).bind n y).action? k = ((b.bind n y).bind m x).action? k := by
  simp only [action?_bind]
  by_cases hm : k = m
  · rw [if_pos hm, if_pos hm, if_neg (hm ▸ hne)]
  · rw [if_neg hm, if_neg hm]

theorem Bindings.carries_empty : Carries σ empty empty := nofun

theorem Operand.value_rename (h : Bindings.Carries σ b b') {o : Operand}
    (ho : ∀ n ∈ o.name?, b.Binds n) : (o.rename σ).value b' = o.value b := by
  cases o with
  | literal v => rfl
  | reference n f =>
    obtain ⟨a, ha⟩ := ho n rfl
    rw [rename, value, value, Bindings.resolve, Bindings.resolve, ha, h n a ha]

theorem Clause.evaluate_rename (h : Bindings.Carries σ b b') {c : Clause}
    (hc : ∀ n ∈ c.names, b.Binds n) : (c.rename σ).evaluate b' = c.evaluate b := by
  have hleft : ∀ n ∈ c.left.name?, b.Binds n := fun n hn =>
    hc n (List.mem_append_left _ (by simpa using hn))
  have hright : ∀ n ∈ c.right.name?, b.Binds n := fun n hn =>
    hc n (List.mem_append_right _ (by simpa using hn))
  rw [evaluate, evaluate, rename, Operand.value_rename h hleft, Operand.value_rename h hright]

/-- Clauses under other names have the same values, and other names change no connector. -/
theorem Predicate.test_rename (h : Bindings.Carries σ b b') {p : Predicate}
    (hp : ∀ c ∈ p.clauses, ∀ n ∈ c.names, b.Binds n) : (p.rename σ).test b' = p.test b := by
  obtain ⟨ks, hks⟩ := p.exists_connectors_eq
  have hks' : (p.rename σ).clauses.map Clause.connector = none :: ks.map some := by
    rw [← hks, rename, List.map_map]
    rfl
  have hvalues : (p.rename σ).clauses.mapM (Clause.evaluate b') =
      p.clauses.mapM (Clause.evaluate b) := by
    rw [rename, List.mapM_map]
    exact mapM_congr fun c hc => Clause.evaluate_rename h (hp c hc)
  rw [test_eq hks', test_eq hks, hvalues]

/-! ## Rules under other names -/

namespace Rule

variable {r : Rule}

/-- Under other names a rule is bound to the same actions, if it has two of them just when it
    declares two names. -/
theorem exists_bind_rename (hσ : ∀ q ∈ r.restricting, σ q = σ r.requesting → q = r.requesting)
    {x : Action} {y : Option Action} {b : Bindings} (h : r.bind x y = .ok ⟨b, r.predicate⟩) :
    ∃ b', (r.rename σ).bind x y = .ok ⟨b', r.predicate.rename σ⟩ ∧ Bindings.Carries σ b b' := by
  have hempty : ∀ m, ¬Bindings.empty.Binds m := by
    rintro m ⟨a, ha⟩
    cases ha
  have hfirst : Bindings.Carries σ (Bindings.empty.bind r.requesting x)
      (Bindings.empty.bind (σ r.requesting) x) :=
    Bindings.carries_empty.bind (fun m hm => absurd hm (hempty m)) x
  rcases hq : r.restricting with - | q
  · rw [bind_of_none hq] at h
    cases h
    exact ⟨_, bind_of_none (by simp [rename, hq]) x y, hfirst⟩
  · rcases y with - | y
    · simp [bind, hq] at h
    · rw [bind_of_some hq] at h
      cases h
      refine ⟨_, bind_of_some (by simp [rename, hq]) x y, hfirst.bind (fun m hm heq => ?_) y⟩
      -- Only the first name is bound before the second one.
      obtain ⟨a, hm⟩ := hm
      obtain rfl : m = r.requesting := by
        rw [Bindings.action?_bind] at hm
        by_contra hne
        rw [if_neg hne] at hm
        cases hm
      exact (hσ q hq heq.symm).symm

/-- A rule has the same result under other names, if it has two of them just when it declares two
    names. -/
theorem evaluate_rename
    (hr : ∀ c ∈ r.predicate.clauses, ∀ n ∈ c.names, n = r.requesting ∨ r.restricting = some n)
    (hσ : ∀ q ∈ r.restricting, σ q = σ r.requesting → q = r.requesting) (x : Action)
    (y : Option Action) : (r.rename σ).evaluate x y = r.evaluate x y := by
  by_cases hy : r.isSingle ∨ y.isSome
  · obtain ⟨b, hb, hbinds⟩ := r.exists_bind_eq x hy
    obtain ⟨b', hb', hcarries⟩ := exists_bind_rename hσ hb
    rw [evaluate, evaluate, hb, hb']
    exact Predicate.test_rename hcarries fun c hc n hn => hbinds n (hr c hc n hn)
  · rw [not_or] at hy
    obtain rfl : y = none := by simpa using hy.2
    rw [evaluate_none hy.1, evaluate_none (by simpa [isSingle, rename] using hy.1)]

/-- The rule whose second name is `q`, with the roles of its names exchanged. -/
def exchange (r : Rule) (q : String) : Rule where
  requesting := q
  restricting := some r.requesting
  predicate := r.predicate

/-- If the names of a rule exchange their roles, so do its actions. -/
theorem evaluate_exchange
    (hr : ∀ c ∈ r.predicate.clauses, ∀ n ∈ c.names, n = r.requesting ∨ r.restricting = some n)
    {q : String} (hq : r.restricting = some q) (hne : q ≠ r.requesting) (x y : Action) :
    (r.exchange q).evaluate y (some x) = r.evaluate x (some y) := by
  obtain ⟨b, hb, hbinds⟩ := r.exists_bind_eq x (y := some y) (.inr rfl)
  have hexchange : (r.exchange q).bind y (some x) =
      .ok ⟨(Bindings.empty.bind q y).bind r.requesting x, r.predicate⟩ := bind_of_some rfl y x
  rw [evaluate, evaluate, hb, hexchange]
  rw [bind_of_some hq] at hb
  cases hb
  have hcarries : Bindings.Carries id ((Bindings.empty.bind r.requesting x).bind q y)
      ((Bindings.empty.bind q y).bind r.requesting x) :=
    fun n a hn => (Bindings.action?_bind_comm hne _ y x n).trans hn
  have htest := Predicate.test_rename hcarries fun c hc n hn => hbinds n (hr c hc n hn)
  rwa [Predicate.rename_id] at htest

/-- The other names of a rule: the first one for the name which it declares first, and the second
    one for the name which it declares second, if it does. -/
def otherName (r : Rule) (first second : String) (n : String) : String :=
  if n = r.requesting then first else if r.restricting = some n then second else n

theorem otherName_requesting (first second : String) :
    r.otherName first second r.requesting = first :=
  if_pos rfl

theorem otherName_restricting {q : String} (hq : r.restricting = some q) (hne : q ≠ r.requesting)
    (first second : String) : r.otherName first second q = second := by
  rw [otherName, if_neg hne, if_pos hq]

/-- What a rule which was read of a statement says of two actions does not depend on its names. They
    may be replaced by two other names, or by each other, in the declarations and in all references
    at once; and in a conflict rule they may exchange their roles, if the actions do. -/
theorem evaluate_renamed {s : String} (h : (Rule.read s).result = .ok r) :
    (∀ first second, first ≠ second →
      (r.rename (r.otherName first second)).requesting = first ∧
      (r.rename (r.otherName first second)).restricting = r.restricting.map (fun _ => second) ∧
      ∀ x y, (r.rename (r.otherName first second)).evaluate x y = r.evaluate x y) ∧
    ∀ q, r.restricting = some q → ∀ x y,
      (r.exchange q).evaluate y (some x) = r.evaluate x (some y) := by
  obtain ⟨hdistinct, hdeclared⟩ := (wellFormed_of_read h).wellNamed
  have hne {q : String} (hq : r.restricting = some q) : q ≠ r.requesting := by
    rintro rfl
    exact hdistinct hq
  refine ⟨fun first second hsecond => ⟨otherName_requesting _ _, ?_, ?_⟩, fun q hq => ?_⟩
  · exact Option.map_congr fun q hq => otherName_restricting hq (hne hq) _ _
  · refine evaluate_rename hdeclared fun q hq heq => ?_
    -- The two names stay different, so that there is nothing to show.
    rw [otherName_requesting, otherName_restricting hq (hne hq)] at heq
    exact absurd heq.symm hsecond
  · exact evaluate_exchange hdeclared hq (hne hq)

theorem supports_moreThan_number : Comparison.moreThan.supports .number := rfl

/-- An agent may not move in behind another one, unless that one is late. -/
def movingIn : Rule where
  requesting := "a"
  restricting := some "b"
  predicate :=
    { clauses := [
        { left := .reference "a" .destination,
          operator := ⟨.is, false, .vertex, supports_is_vertex⟩, right := .reference "b" .origin },
        { left := .reference "b" .time,
          operator := ⟨.moreThan, false, .number, supports_moreThan_number⟩,
          right := .reference "a" .time, connector := some ⟨.and, true⟩ }]
      joined := by simp [Joined] }

/-- The rule can tell its actions apart, also if its names are replaced by each other, or exchange
    their roles. -/
theorem evaluate_renamed_movingIn :
    let x : Action := ⟨⟨0, 0⟩, ⟨0, 1⟩, 1, "Move(E)", 0⟩
    let y : Action := ⟨⟨0, 1⟩, ⟨0, 2⟩, 1, "Move(E)", 1⟩
    (Rule.read movingIn.render).result = .ok movingIn ∧
      (movingIn.rename (movingIn.otherName "b" "a")).render =
        "ACTION b IS BLOCKED BY ACTION a IF b.dest IS a.orig AND NOT a.time IS MORE THAN b.time" ∧
      (movingIn.rename (movingIn.otherName "b" "a")).evaluate x (some y) = .ok true ∧
      (movingIn.rename (movingIn.otherName "b" "a")).evaluate y (some x) = .ok false ∧
      (movingIn.exchange "b").evaluate y (some x) = .ok true ∧
      (movingIn.exchange "b").evaluate x (some y) = .ok false := by
  intro x y
  have hread : (Rule.read movingIn.render).result = .ok movingIn := by decide +kernel
  obtain ⟨hrename, hexchange⟩ := evaluate_renamed hread
  obtain ⟨-, -, hother⟩ := hrename "b" "a" (by decide)
  exact ⟨hread, by decide, (hother x (some y)).trans rfl, (hother y (some x)).trans rfl,
    (hexchange "b" rfl x y).trans rfl, (hexchange "b" rfl y x).trans rfl⟩

end Rule

end Interlock
