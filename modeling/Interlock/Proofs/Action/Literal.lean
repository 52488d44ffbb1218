import Interlock.Proofs.Result
import Interlock.Proofs.Text.Lines
import Interlock.Proofs.Token.Shape
import Interlock.Shell

/-!
# Literals and their actions

A literal says of some fields which values they have. It may say so in any order and with either
spelling of a field, more than once or not at all. The last value counts, and an action of which
nothing is said is presumed to stay at the corner of the grid.

* `Value.IsWrittenAs`, `Pair.IsWrittenAs`, `IsLiteral`: the texts of values, of pairs of a field and
  a value, and of literals.
* `IsDescribedBy`: what is said of the fields of an action, and what is presumed where nothing is
  said. `IsDescribedBy.unique`: this is one action. `isDescribedBy_of_subset_pairs`: pairs of an
  action describe it, in any order, if they leave out nothing but what is presumed.
* `Parts.exists_put?`, `Parts.exists_putAll?`: a pair sets the value of its field, and pairs set it
  to the last one. `read_of_isLiteral`: a literal is read as the action which it describes.
* `AreLiterals`: literals with blanks, or nothing, between them. `Shell.readActions_literal`: the
  first of them is read by itself. `Shell.count_of_readActions`: one action is read for each closing
  bracket. `Shell.readActions_eq_ok_iff_of_areLiterals`: so names which hold one are in the way.
-/

namespace Interlock

open Text

/-! ## Texts of values -/

namespace Value

/-- A value is written as a text: a string as itself, if it has no blanks in it; a number as a
    decimal; a cell as the decimals of its row and its column. Edges are not written. -/
def IsWrittenAs (text : List Char) : Value → Prop
  | string t => text = t.toList ∧ ∀ c ∈ text, ¬isBlank c
  | number n => IsDecimal text n.toInt
  | vertex v => ∃ row col, text = row ++ ',' :: col ∧
      IsDecimal row v.row.toInt ∧ IsDecimal col v.col.toInt
  | edge _ => False

/-- The shortest text of a value. -/
def shortest : Value → List Char
  | string t => t.toList
  | number n => n.toInt.repr.toList
  | vertex v => v.row.toInt.repr.toList ++ ',' :: v.col.toInt.repr.toList
  | edge _ => []

variable {v : Value} {text : List Char}

/-- A character of a text stands in a string or is a digit, a sign or a comma. -/
theorem IsWrittenAs.mem (h : v.IsWrittenAs text) {c : Char} (hc : c ∈ text) :
    (∃ t, v = .string t ∧ c ∈ t.toList) ∨ c.isDigit ∨ c = '+' ∨ c = '-' ∨ c = ',' := by
  have hdecimal {s : List Char} {i : Int} (hs : IsDecimal s i) (hc : c ∈ s) :
      c.isDigit ∨ c = '+' ∨ c = '-' ∨ c = ',' := by
    rcases hs.forall_mem c hc with hc | hc | hc <;> simp [hc]
  cases v with
  | string t => exact .inl ⟨t, rfl, h.1 ▸ hc⟩
  | number n => exact .inr (hdecimal h hc)
  | vertex v =>
    obtain ⟨row, col, rfl, hrow, hcol⟩ := h
    rcases List.mem_append.1 hc with hc | hc
    · exact .inr (hdecimal hrow hc)
    · rcases List.mem_cons.1 hc with rfl | hc
      · exact .inr (.inr (.inr (.inr rfl)))
      · exact .inr (hdecimal hcol hc)
  | edge e => exact h.elim

theorem IsWrittenAs.not_isBlank (h : v.IsWrittenAs text) : ∀ c ∈ text, ¬isBlank c := by
  intro c hc
  rcases h.mem hc with ⟨t, rfl, -⟩ | hdigit | rfl | rfl | rfl
  · exact h.2 c hc
  · exact fun hblank => Token.not_isBare_of_isBlank hblank (Token.isBare_of_isDigit hdigit)
  all_goals decide

end Value

/-! ## Spellings of fields -/

namespace Field

/-- The spellings of a field, the canonical one first. -/
def spellings : Field → List String
  | origin => ["orig", "origin"]
  | destination => ["dest", "destination"]
  | edge => ["edge"]
  | time => ["time"]
  | name => ["name"]
  | agent => ["agent"]

theorem ofSpelling?_eq_some_iff {s : String} {f : Field} :
    ofSpelling? s = some f ↔ s ∈ f.spellings := by
  constructor
  · intro h
    unfold ofSpelling? at h
    split at h <;> cases h <;> simp [spellings]
  · cases f <;> simp +contextual [spellings, ofSpelling?, or_imp]

/-- A spelling is made of small letters. -/
theorem isName_of_mem_spellings {s : String} {f : Field} (h : s ∈ f.spellings) :
    Token.isName s.toList := by
  revert s
  cases f <;> decide

theorem isLower_of_mem_spellings {s : String} {f : Field} (h : s ∈ f.spellings) :
    ∀ c ∈ s.toList, c.isLower :=
  (Token.isName_iff.1 (isName_of_mem_spellings h)).2

end Field

namespace Action

/-! ## Texts of pairs -/

/-- A field of an action, and the value which it is said to have. -/
structure Pair where
  field : Field
  value : Value
  deriving DecidableEq

/-- A pair is written with a spelling of the field and a text of the value, which has the type of
    the field. -/
def Pair.IsWrittenAs (p : Pair) (text : List Char) : Prop :=
  p.value.type = p.field.type ∧ ∃ key ∈ p.field.spellings, ∃ value,
    text = key.toList ++ '=' :: value ∧ p.value.IsWrittenAs value

/-- The text of a literal between its brackets: pairs with blanks between them, and perhaps at the
    ends. -/
inductive IsBody : List Char → List Pair → Prop
  | nil {gap : List Char} (hgap : ∀ c ∈ gap, isBlank c) : IsBody gap []
  | cons {gap text rest : List Char} {p : Pair} {ps : List Pair} (hgap : ∀ c ∈ gap, isBlank c)
    (hp : p.IsWrittenAs text) (hstops : Stops (!isBlank ·) rest) (hrest : IsBody rest ps) :
    IsBody (gap ++ (text ++ rest)) (p :: ps)

/-- A literal gives some pairs, in order. -/
def IsLiteral (s : List Char) (ps : List Pair) : Prop :=
  ∃ body, s = '[' :: (body ++ [']']) ∧ IsBody body ps

theorem Pair.IsWrittenAs.ne_nil {p : Pair} {text : List Char} (h : p.IsWrittenAs text) :
    text ≠ [] := by
  obtain ⟨-, key, -, value, rfl, -⟩ := h
  simp

theorem Pair.IsWrittenAs.not_isBlank {p : Pair} {text : List Char} (h : p.IsWrittenAs text) :
    ∀ c ∈ text, ¬isBlank c := by
  obtain ⟨-, key, hkey, value, rfl, hvalue⟩ := h
  rw [List.forall_mem_append, List.forall_mem_cons]
  refine ⟨fun c hc hblank => ?_, by decide, hvalue.not_isBlank⟩
  have hlower := Field.isLower_of_mem_spellings hkey c hc
  exact Token.not_isBare_of_isBlank hblank (Token.isBare_of_isLower hlower)

/-- The words of a body are the pairs. -/
theorem IsBody.forall₂_words {body : List Char} {ps : List Pair} (h : IsBody body ps) :
    List.Forall₂ Pair.IsWrittenAs ps (words body) := by
  induction h with
  | nil hgap =>
    have hwords := words_blank_append hgap []
    rw [List.append_nil] at hwords
    rw [hwords]
    exact .nil
  | cons hgap hp hstops _ ih =>
    rw [words_blank_append hgap, words_append hp.ne_nil hp.not_isBlank hstops]
    exact .cons hp ih

/-- No string which the pairs give, be it the last one of its field or not, holds the bracket at
    which a literal ends. -/
def HoldNoBracket (ps : List Pair) : Prop :=
  ∀ p ∈ ps, ∀ t, p.value = .string t → ']' ∉ t.toList

theorem notMem_of_isBlank {gap : List Char} (hgap : ∀ c ∈ gap, isBlank c) : ']' ∉ gap :=
  fun hmem => absurd (hgap _ hmem) (by decide)

theorem count_of_isBlank {gap : List Char} (hgap : ∀ c ∈ gap, isBlank c) : gap.count ']' = 0 :=
  List.count_eq_zero_of_not_mem (notMem_of_isBlank hgap)

/-- Brackets stand in no value but a string. -/
theorem Pair.IsWrittenAs.notMem_iff {p : Pair} {text : List Char} (h : p.IsWrittenAs text) :
    ']' ∉ text ↔ ∀ t, p.value = .string t → ']' ∉ t.toList := by
  obtain ⟨-, key, hkey, value, rfl, hvalue⟩ := h
  have hkey : ']' ∉ key.toList :=
    fun hmem => absurd (Field.isLower_of_mem_spellings hkey _ hmem) (by decide)
  constructor
  · intro hnot t ht hmem
    rw [ht] at hvalue
    exact hnot (by simp [hvalue.1, hmem])
  · intro h hmem
    obtain hmem : ']' ∈ value := by simpa [hkey] using hmem
    rcases hvalue.mem hmem with ⟨t, ht, hmem⟩ | hother
    · exact h t ht hmem
    · exact absurd hother (by decide)

theorem IsBody.notMem_iff {body : List Char} {ps : List Pair} (h : IsBody body ps) :
    ']' ∉ body ↔ HoldNoBracket ps := by
  induction h with
  | nil hgap => exact iff_of_true (notMem_of_isBlank hgap) (List.forall_mem_nil _)
  | cons hgap hp _ _ ih =>
    rw [HoldNoBracket, List.forall_mem_cons, ← hp.notMem_iff, ← HoldNoBracket, ← ih]
    simp [notMem_of_isBlank hgap]

/-! ## What pairs say of an action -/

/-- The value which the last pair of the field gives. -/
def lastValue? (f : Field) (ps : List Pair) : Option Value :=
  (ps.filter (·.field = f)).getLast?.map Pair.value

@[simp] theorem lastValue?_nil (f : Field) : lastValue? f [] = none := rfl

theorem lastValue?_cons (f : Field) (p : Pair) (ps : List Pair) :
    lastValue? f (p :: ps) =
      (lastValue? f ps).or (if p.field = f then some p.value else none) := by
  unfold lastValue?
  by_cases h : p.field = f
  · rw [List.filter_cons_of_pos (by simpa using h), if_pos h, List.getLast?_cons]
    generalize List.getLast? _ = last
    cases last <;> rfl
  · rw [List.filter_cons_of_neg (by simpa using h), if_neg h, Option.or_none]

theorem exists_mem_of_lastValue? {f : Field} {ps : List Pair} {v : Value}
    (h : lastValue? f ps = some v) : ∃ p ∈ ps, p.field = f ∧ p.value = v := by
  obtain ⟨p, hp, rfl⟩ := Option.map_eq_some_iff.1 h
  obtain ⟨hmem, hf⟩ := List.mem_filter.1 (List.mem_of_getLast? hp)
  exact ⟨p, hmem, by simpa using hf, rfl⟩

theorem lastValue?_eq_none_iff {f : Field} {ps : List Pair} :
    lastValue? f ps = none ↔ ∀ p ∈ ps, p.field ≠ f := by
  simp [lastValue?]

/-- The value which a field is presumed to have. An action has the name `NoOp`, starts at the corner
    of the grid, stays where it starts, and its time and its agent are zero. -/
def presumed (a : Action) : Field → Value
  | .origin => .vertex .origin
  | .destination => .vertex a.origin
  | .edge => .edge a.edge
  | .time | .agent => .number 0
  | .name => .string "NoOp"

/-- Each field has the value which is said last of it, or else the one which is presumed. -/
def IsDescribedBy (a : Action) (ps : List Pair) : Prop :=
  ∀ f, a.field f = (lastValue? f ps).getD (a.presumed f)

/-- What is said of an action in full. Its edge is given by its ends. -/
def pairs (a : Action) : List Pair :=
  [.name, .origin, .destination, .time, .agent].map fun f => ⟨f, a.field f⟩

theorem mem_pairs {a : Action} {p : Pair} :
    p ∈ a.pairs ↔ p.field ≠ .edge ∧ p.value = a.field p.field := by
  obtain ⟨f, v⟩ := p
  cases f <;> simp [pairs]

/-- The pairs of an action can be written with every spelling: only a name may hold blanks. -/
theorem isWrittenAs_of_mem_pairs {a : Action} (ha : ∀ c ∈ a.name.toList, ¬isBlank c) {p : Pair}
    (hp : p ∈ a.pairs) {key : String} (hkey : key ∈ p.field.spellings) :
    p.IsWrittenAs (key.toList ++ '=' :: p.value.shortest) := by
  obtain ⟨hf, hvalue⟩ := mem_pairs.1 hp
  refine ⟨hvalue ▸ a.type_field p.field, key, hkey, _, rfl, ?_⟩
  rw [hvalue]
  cases heq : p.field with
  | name => exact ⟨rfl, ha⟩
  | origin | destination => exact ⟨_, _, rfl, isDecimal_repr _, isDecimal_repr _⟩
  | time | agent => exact isDecimal_repr _
  | edge => exact absurd heq hf

/-- Some pairs of an action describe it if the others say what is presumed. -/
theorem isDescribedBy_of_subset_pairs {a : Action} {ps : List Pair} (hps : ps ⊆ a.pairs)
    (hrest : ∀ p ∈ a.pairs, p ∈ ps ∨ p.value = a.presumed p.field) : a.IsDescribedBy ps := by
  intro f
  rcases hlast : lastValue? f ps with - | v
  · rw [Option.getD_none]
    by_cases hf : f = .edge
    · subst hf
      rfl
    · rcases hrest ⟨f, a.field f⟩ (mem_pairs.2 ⟨hf, rfl⟩) with hmem | h
      · exact absurd rfl (lastValue?_eq_none_iff.1 hlast _ hmem)
      · exact h
  · obtain ⟨p, hp, rfl, rfl⟩ := exists_mem_of_lastValue? hlast
    exact (mem_pairs.1 (hps hp)).2.symm

/-- An action is known by its fields. -/
theorem eq_of_field_eq {a b : Action} (h : ∀ f, a.field f = b.field f) : a = b := by
  cases a
  cases b
  rw [Action.mk.injEq]
  exact ⟨Value.vertex.inj (h .origin), Value.vertex.inj (h .destination),
    Value.number.inj (h .time), Value.string.inj (h .name), Value.number.inj (h .agent)⟩

/-- The origin comes first, since the destination is presumed to be the same. -/
theorem IsDescribedBy.unique {a b : Action} {ps : List Pair} (ha : a.IsDescribedBy ps)
    (hb : b.IsDescribedBy ps) : a = b := by
  have horigin : a.origin = b.origin := Value.vertex.inj ((ha .origin).trans (hb .origin).symm)
  have hother (f : Field) (hf : a.presumed f = b.presumed f) : a.field f = b.field f := by
    rw [ha f, hb f, hf]
  have hdestination : a.destination = b.destination :=
    Value.vertex.inj (hother .destination (congrArg Value.vertex horigin))
  refine eq_of_field_eq fun f => hother f ?_
  cases f with
  | destination => exact congrArg Value.vertex horigin
  | edge => exact congrArg Value.edge (congrArg₂ Edge.mk horigin hdestination)
  | _ => rfl

/-! ## Reading pairs -/

theorem readVertex_eq_ok_iff {text : List Char} {v : Vertex} :
    readVertex text = .ok v ↔ (Value.vertex v).IsWrittenAs text := by
  rw [readVertex]
  constructor
  · intro h
    split at h
    · cases h
    · next row col hcut =>
      obtain ⟨-, rfl⟩ := cutWhere_eq_some_iff.1 hcut
      split at h <;> cases h
      next hrow hcol =>
      exact ⟨row, col, rfl, int32?_eq_some_iff.1 hrow, int32?_eq_some_iff.1 hcol⟩
  · rintro ⟨row, col, rfl, hrow, hcol⟩
    have hcomma : ',' ∉ row := fun hmem => absurd (hrow.forall_mem ',' hmem) (by decide)
    rw [cutWhere_append hcomma]
    simp only [int32?_eq_some_iff.2 hrow, int32?_eq_some_iff.2 hcol]

theorem readNumber_eq_ok_iff {key : String} {text : List Char} {n : Int64} :
    readNumber key text = .ok n ↔ (Value.number n).IsWrittenAs text := by
  have hiff : int64? text = some n ↔ (Value.number n).IsWrittenAs text := int64?_eq_some_iff
  rw [readNumber, ← hiff]
  rcases int64? text with - | m <;> simp

namespace Parts

/-- The value which was given for a field. -/
def value? (p : Parts) : Field → Option Value
  | .origin => p.origin.map .vertex
  | .destination => p.destination.map .vertex
  | .edge => none
  | .time => p.time.map .number
  | .name => p.name.map .string
  | .agent => p.agent.map .number

/-- A pair sets the value of its field, and of no other one. -/
theorem exists_put? (p : Parts) {q : Pair} {text : List Char} (h : q.IsWrittenAs text) :
    ∃ p', p.put? text = .ok p' ∧
      ∀ f, p'.value? f = if q.field = f then some q.value else p.value? f := by
  obtain ⟨htype, key, hkey, value, rfl, hvalue⟩ := h
  have hsign : '=' ∉ key.toList :=
    fun hmem => absurd (Field.isLower_of_mem_spellings hkey '=' hmem) (by decide)
  unfold put?
  rw [cutWhere_append hsign]
  simp only [String.ofList_toList, Field.ofSpelling?_eq_some_iff.2 hkey]
  obtain ⟨f, v⟩ := q
  match f, v, htype with
  | .name, .string t, _ =>
    exact ⟨_, rfl, fun g => by cases g <;> simp [value?, hvalue.1]⟩
  | .origin, .vertex c, _ =>
    rw [readVertex_eq_ok_iff.2 hvalue]
    exact ⟨_, rfl, fun g => by cases g <;> rfl⟩
  | .destination, .vertex c, _ =>
    rw [readVertex_eq_ok_iff.2 hvalue]
    exact ⟨_, rfl, fun g => by cases g <;> rfl⟩
  | .time, .number n, _ =>
    rw [readNumber_eq_ok_iff.2 hvalue]
    exact ⟨_, rfl, fun g => by cases g <;> rfl⟩
  | .agent, .number n, _ =>
    rw [readNumber_eq_ok_iff.2 hvalue]
    exact ⟨_, rfl, fun g => by cases g <;> rfl⟩
  | .edge, .edge e, _ => exact hvalue.elim

/-- Pairs set the value of each field to the last one, and of no other field. -/
theorem exists_putAll? {ps : List Pair} {texts : List (List Char)}
    (h : List.Forall₂ Pair.IsWrittenAs ps texts) (p : Parts) :
    ∃ p', p.putAll? texts = .ok p' ∧ ∀ f, p'.value? f = (lastValue? f ps).or (p.value? f) := by
  induction h generalizing p with
  | nil => exact ⟨p, rfl, fun f => by simp⟩
  | @cons q text ps texts hq _ ih =>
    obtain ⟨p₁, hput, hvalue₁⟩ := p.exists_put? hq
    obtain ⟨p₂, hputAll, hvalue₂⟩ := ih p₁
    refine ⟨p₂, by rw [putAll?, hput]; exact hputAll, fun f => ?_⟩
    rw [hvalue₂, hvalue₁, lastValue?_cons, Option.or_assoc]
    split <;> simp

theorem isDescribedBy_toAction {p : Parts} {ps : List Pair}
    (h : ∀ f, p.value? f = lastValue? f ps) : p.toAction.IsDescribedBy ps := by
  intro f
  rw [← h f]
  cases f with
  | edge => rfl
  | _ => exact (Option.getD_map _ _ _).symm

end Parts

/-! ## Reading literals -/

theorem unbracket?_literal (body : List Char) :
    unbracket? ('[' :: (body ++ [']'])) = some body := by
  simp [unbracket?]

theorem trim_literal (body : List Char) :
    trim ('[' :: (body ++ [']'])) = '[' :: (body ++ [']']) :=
  trim_append (a := ['[']) (b := [']']) (by decide) (by decide) body

/-- A literal is refused for what it says, and the error tells its text. -/
theorem exists_cause_of_read {text : String} {e : Error} (h : read text = .error e) :
    ∃ reason, e.cause = .invalidAction text reason := by
  unfold read at h
  split at h
  · cases h
    exact ⟨_, rfl⟩
  · split at h
    · cases h
      exact ⟨_, rfl⟩
    · cases h

theorem read_of_isLiteral {a : Action} {before s behind : List Char} {ps : List Pair}
    (hbefore : ∀ c ∈ before, isBlank c) (hbehind : ∀ c ∈ behind, isBlank c)
    (hs : IsLiteral s ps) (ha : a.IsDescribedBy ps) :
    read (String.ofList (before ++ (s ++ behind))) = .ok a := by
  obtain ⟨body, rfl, hbody⟩ := hs
  obtain ⟨p, hput, hvalue⟩ := ({} : Parts).exists_putAll? hbody.forall₂_words
  have hdescribed : p.toAction.IsDescribedBy ps := by
    refine Parts.isDescribedBy_toAction fun f => ?_
    rw [hvalue]
    cases f <;> exact Option.or_none
  unfold read
  rw [String.toList_ofList, trim_blank_append hbefore, trim_append_of_blank hbehind, trim_literal,
    unbracket?_literal]
  simp only [hput, hdescribed.unique ha]

/-! ## Reading lists of literals -/

/-- A text lists actions: literals which give some pairs and describe them, with blanks between the
    literals or nothing. No name of these actions holds the bracket at which a literal ends. -/
inductive AreLiterals : List Char → List (List Pair) → List Action → Prop
  | nil {gap : List Char} (hgap : ∀ c ∈ gap, isBlank c) : AreLiterals gap [] []
  | cons {gap s rest : List Char} {ps : List Pair} {pss : List (List Pair)} {a : Action}
    {as : List Action} (hgap : ∀ c ∈ gap, isBlank c) (hs : IsLiteral s ps)
    (ha : a.IsDescribedBy ps) (hname : ']' ∉ a.name.toList) (hrest : AreLiterals rest pss as) :
    AreLiterals (gap ++ (s ++ rest)) (ps :: pss) (a :: as)

section Brackets

variable {gap s : List Char} {pss : List (List Pair)} {as : List Action}

theorem count_literal_append (hgap : ∀ c ∈ gap, isBlank c) (body rest : List Char) :
    (gap ++ ('[' :: (body ++ [']']) ++ rest)).count ']' =
      body.count ']' + (rest.count ']' + 1) := by
  simp [count_of_isBlank hgap]

/-- Each literal has a closing bracket. -/
theorem AreLiterals.length_le_count (h : AreLiterals s pss as) : as.length ≤ s.count ']' := by
  induction h with
  | nil => exact Nat.zero_le _
  | cons hgap hs _ _ _ ih =>
    obtain ⟨body, rfl, -⟩ := hs
    rw [count_literal_append hgap, List.length_cons]
    omega

/-- There are no other closing brackets just if no name which is given holds one. -/
theorem AreLiterals.count_eq_length_iff (h : AreLiterals s pss as) :
    s.count ']' = as.length ↔ ∀ ps ∈ pss, HoldNoBracket ps := by
  induction h with
  | nil hgap => simp [count_of_isBlank hgap]
  | cons hgap hs _ _ hrest ih =>
    obtain ⟨body, rfl, hbody⟩ := hs
    have hle := hrest.length_le_count
    rw [count_literal_append hgap, List.length_cons, List.forall_mem_cons, ← hbody.notMem_iff,
      ← List.count_eq_zero, ← ih]
    omega

end Brackets

end Action

namespace Shell

theorem readActions_blank_append {gap : List Char} (hgap : ∀ c ∈ gap, isBlank c) (s : List Char) :
    readActions (gap ++ s) = readActions s := by
  rw [readActions, readActions, trimStart, List.dropWhile_append_of_pos hgap]
  rfl

/-- A literal reaches to the first bracket. -/
theorem readActions_literal {body : List Char} (hbody : ']' ∉ body) (rest : List Char) :
    readActions ('[' :: (body ++ ']' :: rest)) = do
      let a ← Action.read (String.ofList ('[' :: (body ++ [']'])))
      return a :: (← readActions rest) := by
  have hcut := cutWhere_append hbody rest
  have hstart : trimStart ('[' :: (body ++ ']' :: rest)) = '[' :: (body ++ ']' :: rest) := rfl
  rw [readActions, hstart, readActionsFrom, if_neg (by decide)]
  split
  · next hnone => cases hnone.symm.trans hcut
  · next body' rest' hsome =>
    cases hsome.symm.trans hcut
    rfl

theorem readActions_nil : readActions [] = .ok [] := by
  rw [readActions, trimStart, List.dropWhile_nil, readActionsFrom]

/-- As many actions are read as there are closing brackets. -/
theorem count_of_readActionsFrom {s : List Char} {as : List Action}
    (h : readActionsFrom s = .ok as) : s.count ']' = as.length := by
  fun_induction readActionsFrom s generalizing as with
  | case1 =>
    cases h
    rfl
  | case2 => cases h
  | case3 => cases h
  | case4 c cs hopen body rest hcut ih =>
    obtain ⟨a, -, h⟩ := bind_eq_ok_iff.1 h
    obtain ⟨as', hrest, h⟩ := bind_eq_ok_iff.1 h
    cases h
    obtain rfl : c = '[' := by simpa using hopen
    obtain ⟨hbody, rfl⟩ := cutWhere_eq_some_iff.1 hcut
    obtain ⟨gap, hgap, hblank⟩ := exists_trimStart rest
    have hcount := ih hrest
    rw [hgap]
    simp [List.count_eq_zero_of_not_mem hbody, Action.count_of_isBlank hblank, hcount]

theorem count_of_readActions {s : List Char} {as : List Action} (h : readActions s = .ok as) :
    s.count ']' = as.length := by
  obtain ⟨gap, hgap, hblank⟩ := exists_trimStart s
  rw [hgap, List.count_append, Action.count_of_isBlank hblank, count_of_readActionsFrom h,
    Nat.zero_add]

theorem readActions_of_areLiterals {s : List Char} {pss : List (List Action.Pair)}
    {as : List Action} (h : Action.AreLiterals s pss as)
    (hpss : ∀ ps ∈ pss, Action.HoldNoBracket ps) : readActions s = .ok as := by
  induction h with
  | @nil gap hgap =>
    have hgap' := readActions_blank_append hgap []
    rw [List.append_nil] at hgap'
    rw [hgap', readActions_nil]
  | @cons gap s rest ps pss a as hgap hs ha _ _ ih =>
    rw [List.forall_mem_cons] at hpss
    have hnone : ∀ c ∈ [], isBlank c := List.forall_mem_nil _
    have hread := Action.read_of_isLiteral hnone hnone hs ha
    obtain ⟨body, rfl, hbody⟩ := hs
    rw [List.nil_append, List.append_nil] at hread
    have htext : '[' :: (body ++ [']']) ++ rest = '[' :: (body ++ ']' :: rest) := by simp
    rw [readActions_blank_append hgap, htext, readActions_literal (hbody.notMem_iff.2 hpss.1),
      hread, ih hpss.2]
    rfl

/-- A list of literals is read as its actions just if no name which is given in it holds a closing
    bracket. -/
theorem readActions_eq_ok_iff_of_areLiterals {s : List Char} {pss : List (List Action.Pair)}
    {as : List Action} (h : Action.AreLiterals s pss as) :
    readActions s = .ok as ↔ ∀ ps ∈ pss, Action.HoldNoBracket ps :=
  ⟨fun hread => h.count_eq_length_iff.1 (count_of_readActions hread),
    readActions_of_areLiterals h⟩

end Shell

namespace Action

/-- Literals keep their actions. A literal is read as the action which it describes, whatever the
    order and the spelling of its pairs, with any blanks around it; and so are literals one after
    another, just if no name which is given in them holds a closing bracket, not even one which
    another name overrides. An action without blanks in its name can be written with every
    spelling, and its pairs describe it in any order, as often as they stand there, even if those
    are left out which say what is presumed. -/
theorem read_literal :
    (∀ {a : Action} {before s behind : List Char} {ps : List Pair},
      (∀ c ∈ before, isBlank c) → (∀ c ∈ behind, isBlank c) → IsLiteral s ps →
      a.IsDescribedBy ps → read (String.ofList (before ++ (s ++ behind))) = .ok a) ∧
    (∀ {s : List Char} {pss : List (List Pair)} {as : List Action}, AreLiterals s pss as →
      (Shell.readActions s = .ok as ↔ ∀ ps ∈ pss, HoldNoBracket ps)) ∧
    ∀ a : Action, (∀ c ∈ a.name.toList, ¬isBlank c) →
      (∀ p ∈ a.pairs, ∀ key ∈ p.field.spellings,
        p.IsWrittenAs (key.toList ++ '=' :: p.value.shortest)) ∧
      ∀ ps ⊆ a.pairs, (∀ p ∈ a.pairs, p ∈ ps ∨ p.value = a.presumed p.field) →
        a.IsDescribedBy ps := by
  refine ⟨read_of_isLiteral, Shell.readActions_eq_ok_iff_of_areLiterals, fun a ha => ⟨?_, ?_⟩⟩
  · exact fun p hp key hkey => isWrittenAs_of_mem_pairs ha hp hkey
  · exact fun ps => isDescribedBy_of_subset_pairs

/-- An action which stays in a far corner of the grid, under a name full of marks. -/
def cornered : Action :=
  let corner : Vertex := ⟨Int32.minValue, Int32.maxValue⟩
  ⟨corner, corner, 0, "a=['b']", Int64.minValue⟩

theorem read_literal_cornered :
    read "\u3000[ agent=-9223372036854775808\torigin=-2147483648,2147483647 name=a=['b']]\n" =
      .ok cornered ∧
    Shell.readActions "[time=1 time=+02][name=] []".toList =
      .ok [⟨.origin, .origin, 2, "NoOp", 0⟩, ⟨.origin, .origin, 0, "", 0⟩,
        ⟨.origin, .origin, 0, "NoOp", 0⟩] := by
  obtain ⟨hread, hreadAll, hpairs⟩ := read_literal
  have hnone : ∀ c ∈ [], isBlank c := List.forall_mem_nil _
  have hgap (b : Char) (hb : isBlank b) : ∀ c ∈ [b], isBlank c := List.forall_mem_singleton.2 hb
  have hspace := hgap ' ' (by decide)
  constructor
  · -- The destination and the time are what is presumed, so that they are left out.
    have hcornered : ∀ c ∈ cornered.name.toList, ¬isBlank c := by simp [cornered, isBlank]
    obtain ⟨hwritten, hdescribed⟩ := hpairs cornered hcornered
    have hpair (f : Field) (hf : f ≠ .edge) :=
      hwritten ⟨f, cornered.field f⟩ (mem_pairs.2 ⟨hf, rfl⟩)
    have htab := hgap '\t' (by decide)
    have hwide := hgap '\u3000' (by decide)
    have hfeed := hgap '\n' (by decide)
    have hname := IsBody.cons hspace (hpair .name (by decide) "name" (by decide)) stops_nil
      (.nil hnone)
    have horigin := IsBody.cons htab (hpair .origin (by decide) "origin" (by decide))
      (stops_cons.2 (by decide)) hname
    have hagent := IsBody.cons hspace (hpair .agent (by decide) "agent" (by decide))
      (stops_cons.2 (by decide)) horigin
    exact (congrArg read (by decide)).trans <|
      hread hwide hfeed ⟨_, rfl, hagent⟩ (hdescribed _ (by simp [pairs]) (by decide))
  · -- The second time counts, the name is empty, and of the last action nothing is said.
    have htime (n : Int64) (text : List Char) (h : int64? text = some n) :
        (⟨.time, .number n⟩ : Pair).IsWrittenAs ("time".toList ++ '=' :: text) :=
      ⟨rfl, "time", List.mem_cons_self, text, rfl, int64?_eq_some_iff.1 h⟩
    have hname : (⟨.name, .string ""⟩ : Pair).IsWrittenAs "name=".toList :=
      ⟨rfl, "name", by decide, [], rfl, rfl, List.forall_mem_nil _⟩
    have hlast := IsBody.cons hspace (htime 2 ['+', '0', '2'] rfl) stops_nil (.nil hnone)
    have htwice := IsBody.cons hnone (htime 1 ['1'] rfl) (stops_cons.2 (by decide)) hlast
    have hnamed := IsBody.cons hnone hname stops_nil (.nil hnone)
    have hliterals := AreLiterals.cons hnone ⟨_, rfl, htwice⟩
      (a := ⟨.origin, .origin, 2, "NoOp", 0⟩) (fun f => by cases f <;> rfl) (by decide) <|
      .cons hnone ⟨_, rfl, hnamed⟩ (a := ⟨.origin, .origin, 0, "", 0⟩)
        (fun f => by cases f <;> rfl) (by decide) <|
      .cons hspace ⟨[], rfl, .nil hnone⟩ (a := ⟨.origin, .origin, 0, "NoOp", 0⟩)
        (fun f => by cases f <;> rfl) (by decide) <| .nil hnone
    exact (congrArg Shell.readActions (by decide)).trans <|
      (hreadAll hliterals).2 (by simp [HoldNoBracket])

/-- A closing bracket in a name which another name overrides. -/
def overridden : List Char := "[name=x] name=y]".toList

/-- By itself the literal is read as the action which it describes, whose name holds no bracket; in
    a list of literals it is refused. -/
theorem read_overridden :
    let a : Action := ⟨.origin, .origin, 0, "y", 0⟩
    read (String.ofList overridden) = .ok a ∧
      AreLiterals overridden [[⟨.name, .string "x]"⟩, ⟨.name, .string "y"⟩]] [a] ∧
      Shell.readActions overridden =
        .error (Shell.invalid "action list" "expected '[', found \"name=y]\"") := by
  have hnone : ∀ c ∈ [], isBlank c := List.forall_mem_nil _
  have hspace : ∀ c ∈ [' '], isBlank c := List.forall_mem_singleton.2 isBlank_space
  have hname (t : String) (ht : t.toList.all (!isBlank ·)) :
      (⟨.name, .string t⟩ : Pair).IsWrittenAs ("name".toList ++ '=' :: t.toList) :=
    ⟨rfl, "name", List.mem_cons_self, _, rfl, rfl, by simpa using ht⟩
  have hlast := IsBody.cons hspace (hname "y" (by decide)) stops_nil (.nil hnone)
  have hbody := IsBody.cons hnone (hname "x]" (by decide)) (stops_cons.2 (by decide)) hlast
  refine ⟨by decide +kernel, ?_, by decide +kernel⟩
  exact .cons hnone ⟨_, rfl, hbody⟩ (fun f => by cases f <;> rfl) (by decide) (.nil hnone)

end Action

end Interlock
