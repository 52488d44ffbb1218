import Interlock.Proofs.Action.Literal
import Interlock.Proofs.Text.Decimal
import Interlock.Shell.Brackets
import Mathlib.Algebra.Ring.Parity

/-!
# Open brackets and lists of actions

Two scanners look at the brackets of a command. The one which reads actions takes a literal up to
the first closing bracket, and knows no quotes. The one which tells whether more of a line has to
follow counts brackets, but not those between quotes. They agree that the line goes on if a literal
has no end. If all literals have one, they agree unless a name has a bracket or a quote in it.

* `depthFrom_cons`, `depthFrom_append`: what one character and one text do to the count.
  `natAbs_depthFrom_lt`: it is a number of 32 bits. `le_depthFrom`, `depthFrom_eq_self_iff`: what a
  text without closing brackets does.
* `HoldsLiterals`: a text holds the literals with some texts between their brackets, and nothing
  else. `readActions_eq_ok_iff`, `exists_open_of_missing`: what the reader of actions says of such
  texts.
* `scan_literal`, `HoldsLiterals.scan_eq`: the brackets of a literal cancel, so that only what
  stands between them counts. `IsSheltered`: that it counts nothing.
* `isIncomplete_command`: a command goes on if a literal in it has no end; and if its actions are
  read, it goes on unless the brackets in them stand between quotes, and the quotes come in pairs.
  `isIncomplete_command_openName`: it may go on although its actions are read.
-/

namespace Interlock.Shell

open Text

/-! ## Counting brackets -/

/-- The text ends between quotes, given whether it starts between some. -/
def inQuotes (quoted : Bool) : List Char → Bool
  | [] => quoted
  | c :: cs => inQuotes (if c = '\'' then !quoted else quoted) cs

/-- What a character adds to the number of open brackets. -/
def weight (quoted : Bool) (c : Char) : Int :=
  if quoted then 0 else if c = '[' then 1 else if c = ']' then -1 else 0

variable {q : Bool} {d : Int} {s t : List Char}

theorem inQuotes_append (q : Bool) (s t : List Char) :
    inQuotes q (s ++ t) = inQuotes (inQuotes q s) t := by
  induction s generalizing q with
  | nil => rfl
  | cons c s ih => exact ih _

/-- Quotes come in pairs just if a text ends as it starts. -/
theorem inQuotes_eq_iff : inQuotes q s = q ↔ Even (s.count '\'') := by
  induction s generalizing q with
  | nil => simp [inQuotes]
  | cons c s ih =>
    rw [inQuotes]
    by_cases hc : c = '\''
    · rw [if_pos hc, hc, List.count_cons_self, Nat.even_add_one, ← ih (q := !q)]
      cases q <;> simp
    · rw [if_neg hc, List.count_cons_of_ne hc]
      exact ih

theorem weight_open (q : Bool) : weight q '[' = 1 - q.toNat := by cases q <;> rfl

theorem weight_close (q : Bool) : weight q ']' = q.toNat - 1 := by cases q <;> rfl

theorem depthFrom_cons (q : Bool) (d : Int) (c : Char) (s : List Char) :
    depthFrom q d (c :: s) = depthFrom (inQuotes q [c]) (d + weight q c) s := by
  rw [depthFrom.eq_def]
  split <;> cases q <;> simp_all [inQuotes, weight, Int.sub_eq_add_neg]

/-- The number of brackets before a text is added to the one of the text. -/
theorem depthFrom_eq_add (q : Bool) (d : Int) (s : List Char) :
    depthFrom q d s = d + depthFrom q 0 s := by
  induction s generalizing q d with
  | nil => simp [depthFrom]
  | cons c s ih =>
    rw [depthFrom_cons, ih, depthFrom_cons, ih _ (0 + weight q c)]
    omega

theorem depthFrom_append (q : Bool) (d : Int) (s t : List Char) :
    depthFrom q d (s ++ t) = depthFrom (inQuotes q s) (depthFrom q d s) t := by
  induction s generalizing q d with
  | nil => rfl
  | cons c s ih =>
    rw [List.cons_append, depthFrom_cons, ih, depthFrom_cons]
    rfl

/-- The number is at most the length of the text. -/
theorem natAbs_depthFrom_le (q : Bool) (s : List Char) : (depthFrom q 0 s).natAbs ≤ s.length := by
  induction s generalizing q with
  | nil => simp [depthFrom]
  | cons c s ih =>
    have hweight : (weight q c).natAbs ≤ 1 := by
      unfold weight
      split_ifs <;> decide
    have hrest := ih (inQuotes q [c])
    rw [depthFrom_cons, depthFrom_eq_add, List.length_cons]
    omega

/-- At every place in a text with less than 2³¹ characters, the number fits in 32 bits. -/
theorem natAbs_depthFrom_lt (hsize : s.length < 2 ^ 31) {before : List Char} (hs : before <+: s) :
    (depthFrom false 0 before).natAbs < 2 ^ 31 :=
  Nat.lt_of_le_of_lt (natAbs_depthFrom_le false before) (Nat.lt_of_le_of_lt hs.length_le hsize)

/-! ## Texts without closing brackets -/

theorem weight_nonneg {c : Char} (hc : c ≠ ']') : 0 ≤ weight q c := by
  unfold weight
  rw [if_neg hc]
  split_ifs <;> decide

theorem weight_eq_zero_iff {c : Char} (hc : c ≠ ']') : weight q c = 0 ↔ (c = '[' → q) := by
  unfold weight
  rw [if_neg hc]
  split_ifs <;> simp_all

theorem le_depthFrom (hs : ']' ∉ s) : d ≤ depthFrom q d s := by
  induction s generalizing q d with
  | nil => exact Int.le_refl d
  | cons c s ih =>
    rw [List.mem_cons, not_or] at hs
    have hweight : 0 ≤ weight q c := weight_nonneg (Ne.symm hs.1)
    have hrest : d + weight q c ≤ depthFrom (inQuotes q [c]) (d + weight q c) s := ih hs.2
    rw [depthFrom_cons]
    omega

/-- No bracket is opened just if each of them stands between quotes. -/
theorem depthFrom_eq_self_iff (hs : ']' ∉ s) :
    depthFrom q d s = d ↔ ∀ before behind, s = before ++ '[' :: behind → inQuotes q before := by
  induction s generalizing q d with
  | nil => simp [depthFrom]
  | cons c s ih =>
    rw [List.mem_cons, not_or] at hs
    have hweight : 0 ≤ weight q c := weight_nonneg (Ne.symm hs.1)
    have hrest : d + weight q c ≤ depthFrom (inQuotes q [c]) (d + weight q c) s :=
      le_depthFrom hs.2
    have hsplit : depthFrom q d (c :: s) = d ↔
        weight q c = 0 ∧ depthFrom (inQuotes q [c]) (d + weight q c) s = d + weight q c := by
      rw [depthFrom_cons]
      omega
    rw [hsplit, weight_eq_zero_iff (Ne.symm hs.1), ih hs.2]
    -- The bracket is the first character, or it stands behind that one.
    constructor
    · rintro ⟨hfirst, hrest⟩ before behind heq
      rcases List.cons_eq_append_iff.1 heq with ⟨rfl, heq⟩ | ⟨before, rfl, rfl⟩
      · exact hfirst (List.cons.inj heq).1
      · exact hrest before behind rfl
    · intro h
      refine ⟨fun hc => h [] s (by rw [hc]; rfl), fun before behind heq => ?_⟩
      exact h (c :: before) behind (by rw [heq]; rfl)

/-! ## Texts without brackets and quotes -/

/-- The characters which mean something to the count. -/
def marks : List Char := ['\'', '[', ']']

theorem mem_marks {c : Char} : c ∈ marks ↔ c = '\'' ∨ c = '[' ∨ c = ']' := by simp [marks]

theorem scan_append_of_plain (hs : ∀ c ∈ s, c ∉ marks) (q : Bool) (d : Int) (t : List Char) :
    depthFrom q d (s ++ t) = depthFrom q d t ∧ inQuotes q (s ++ t) = inQuotes q t := by
  induction s with
  | nil => exact ⟨rfl, rfl⟩
  | cons c s ih =>
    rw [List.forall_mem_cons] at hs
    obtain ⟨hquote, hopen, hclose⟩ : c ≠ '\'' ∧ c ≠ '[' ∧ c ≠ ']' := by simpa [mem_marks] using hs.1
    have hstep : inQuotes q [c] = q := if_neg hquote
    have hweight : weight q c = 0 := by simp [weight, hopen, hclose]
    rw [List.cons_append, depthFrom_cons, hstep, hweight, Int.add_zero, inQuotes, if_neg hquote]
    exact ih hs.2

theorem notMem_marks_of_isBlank (hs : ∀ c ∈ s, isBlank c) : ∀ c ∈ s, c ∉ marks := by
  intro c hc hmark
  have hblank := hs c hc
  obtain rfl | rfl | rfl := mem_marks.1 hmark
  all_goals exact absurd hblank (by decide)

/-! ## Lists of literals -/

/-- A text holds literals with blanks between them, or nothing. These texts are what stands between
    the brackets of a literal, which ends at the first closing one. -/
inductive HoldsLiterals : List Char → List (List Char) → Prop
  | nil {gap : List Char} (hgap : ∀ c ∈ gap, isBlank c) : HoldsLiterals gap []
  | cons {gap body rest : List Char} {bodies : List (List Char)} (hgap : ∀ c ∈ gap, isBlank c)
    (hbody : ']' ∉ body) (hrest : HoldsLiterals rest bodies) :
    HoldsLiterals (gap ++ '[' :: (body ++ ']' :: rest)) (body :: bodies)

/-- The action of the literal with a text between its brackets. -/
def readLiteral (body : List Char) : Except Error Action :=
  Action.read (String.ofList ('[' :: (body ++ [']'])))

variable {bodies : List (List Char)} {actions : List Action}

theorem HoldsLiterals.blank_append (h : HoldsLiterals s bodies) {gap : List Char}
    (hgap : ∀ c ∈ gap, isBlank c) : HoldsLiterals (gap ++ s) bodies := by
  cases h with
  | nil hgap' => exact .nil (List.forall_mem_append.2 ⟨hgap, hgap'⟩)
  | cons hgap' hbody hrest =>
    rw [← List.append_assoc]
    exact .cons (List.forall_mem_append.2 ⟨hgap, hgap'⟩) hbody hrest

theorem HoldsLiterals.literal_append (h : HoldsLiterals s bodies) {body : List Char}
    (hbody : ']' ∉ body) : HoldsLiterals ('[' :: (body ++ ']' :: s)) (body :: bodies) := by
  have hnone : ∀ c ∈ [], isBlank c := List.forall_mem_nil _
  exact HoldsLiterals.cons hnone hbody h

theorem HoldsLiterals.notMem_flatten (h : HoldsLiterals s bodies) : ']' ∉ bodies.flatten := by
  induction h with
  | nil => exact List.not_mem_nil
  | cons _ hbody _ ih => simp [hbody, ih]

theorem readActions_of_holdsLiterals (h : HoldsLiterals s bodies) :
    readActions s = bodies.mapM readLiteral := by
  induction h with
  | @nil gap hgap =>
    have hnil := readActions_blank_append hgap []
    rwa [List.append_nil, readActions_nil] at hnil
  | cons hgap hbody _ ih =>
    rw [readActions_blank_append hgap, readActions_literal hbody, ih, List.mapM_cons]
    rfl

/-- A literal without an end. -/
theorem readActions_open {body : List Char} (hbody : ']' ∉ body) :
    readActions ('[' :: body) = .error (invalid "action list" "missing ']'") := by
  have hcut := cutWhere_eq_none_iff.2 hbody
  have hstart : trimStart ('[' :: body) = '[' :: body := rfl
  rw [readActions, hstart, readActionsFrom, if_neg (by decide)]
  split
  · rfl
  · next hsome => cases hsome.symm.trans hcut

/-- If the actions of a text are read, it holds their literals. -/
theorem exists_holdsLiterals (h : readActionsFrom s = .ok actions) :
    ∃ bodies, HoldsLiterals s bodies := by
  fun_induction readActionsFrom s generalizing actions with
  | case1 => exact ⟨[], .nil (List.forall_mem_nil _)⟩
  | case2 => cases h
  | case3 => cases h
  | case4 c cs hopen body rest hcut ih =>
    obtain ⟨a, -, h⟩ := bind_eq_ok_iff.1 h
    obtain ⟨as, hrest, -⟩ := bind_eq_ok_iff.1 h
    obtain ⟨bodies, hbodies⟩ := ih hrest
    obtain rfl : c = '[' := by simpa using hopen
    obtain ⟨hbody, rfl⟩ := cutWhere_eq_some_iff.1 hcut
    obtain ⟨gap, hgap, hblank⟩ := exists_trimStart rest
    rw [hgap]
    exact ⟨body :: bodies, (hbodies.blank_append hblank).literal_append hbody⟩

/-- If an end is missing, it is the one of the last literal. -/
theorem exists_open_of_missing
    (h : readActionsFrom s = .error (invalid "action list" "missing ']'")) :
    ∃ front body bodies, s = front ++ '[' :: body ∧ HoldsLiterals front bodies ∧ ']' ∉ body := by
  fun_induction readActionsFrom s with
  | case1 => cases h
  | case2 => simp [invalid, ← String.toList_inj] at h
  | case3 c cs hopen hcut =>
    obtain rfl : c = '[' := by simpa using hopen
    exact ⟨[], cs, [], rfl, .nil (List.forall_mem_nil _), cutWhere_eq_none_iff.1 hcut⟩
  | case4 c cs hopen body rest hcut ih =>
    rcases bind_eq_error_iff.1 h with h | ⟨a, -, h⟩
    · obtain ⟨reason, hcause⟩ := Action.exists_cause_of_read h
      cases hcause
    · rcases bind_eq_error_iff.1 h with h | ⟨as, -, h⟩
      · obtain ⟨front, last, bodies, hrest, hfront, hlast⟩ := ih h
        obtain rfl : c = '[' := by simpa using hopen
        obtain ⟨hbody, rfl⟩ := cutWhere_eq_some_iff.1 hcut
        obtain ⟨gap, hgap, hblank⟩ := exists_trimStart rest
        rw [hrest] at hgap
        refine ⟨'[' :: (body ++ ']' :: (gap ++ front)), last, body :: bodies, ?_,
          (hfront.blank_append hblank).literal_append hbody, hlast⟩
        simp [hgap]
      · cases h

theorem readActions_eq_ok_iff : readActions s = .ok actions ↔
    ∃ bodies, HoldsLiterals s bodies ∧ bodies.mapM readLiteral = .ok actions := by
  constructor
  · intro h
    obtain ⟨bodies, hbodies⟩ := exists_holdsLiterals h
    obtain ⟨gap, hgap, hblank⟩ := exists_trimStart s
    have hs : HoldsLiterals s bodies := hgap ▸ hbodies.blank_append hblank
    exact ⟨bodies, hs, (readActions_of_holdsLiterals hs).symm.trans h⟩
  · rintro ⟨bodies, hs, h⟩
    rw [readActions_of_holdsLiterals hs, h]

/-! ## Counting the brackets of literals -/

/-- The end of a literal takes away what its beginning adds, up to the quotes which it opens or
    closes. -/
theorem scan_literal (q : Bool) (d : Int) (body rest : List Char) :
    depthFrom q d ('[' :: (body ++ ']' :: rest)) =
        depthFrom (inQuotes q body) (depthFrom q d body + (inQuotes q body).toNat - q.toNat) rest ∧
      inQuotes q ('[' :: (body ++ ']' :: rest)) = inQuotes (inQuotes q body) rest := by
  have hopen : inQuotes q ['['] = q := rfl
  have hclose : inQuotes (inQuotes q body) [']'] = inQuotes q body := rfl
  constructor
  · rw [depthFrom_cons, hopen, weight_open, depthFrom_append, depthFrom_cons, hclose, weight_close,
      depthFrom_eq_add q (d + _) body, depthFrom_eq_add q d body]
    congr 1
    omega
  · rw [inQuotes, inQuotes_append]
    rfl

/-- What is left of literals is what stands between their brackets. -/
theorem HoldsLiterals.scan_eq (h : HoldsLiterals s bodies) (q : Bool) (d : Int) :
    depthFrom q d s = depthFrom q d bodies.flatten + (inQuotes q s).toNat - q.toNat ∧
      inQuotes q s = inQuotes q bodies.flatten := by
  induction h generalizing q d with
  | nil hgap =>
    obtain ⟨hdepth, hquotes⟩ := scan_append_of_plain (notMem_marks_of_isBlank hgap) q d []
    rw [List.append_nil] at hdepth hquotes
    simp [hdepth, hquotes, depthFrom, inQuotes]
  | @cons gap body rest bodies hgap _ _ ih =>
    have hplain := notMem_marks_of_isBlank hgap
    obtain ⟨hdepth, hquotes⟩ := scan_append_of_plain hplain q d ('[' :: (body ++ ']' :: rest))
    obtain ⟨hliteral, hliteral'⟩ := scan_literal q d body rest
    obtain ⟨ihdepth, ihquotes⟩ := ih (inQuotes q body) (depthFrom q d body)
    rw [hdepth, hquotes, hliteral, hliteral', List.flatten_cons, depthFrom_append, inQuotes_append]
    refine ⟨?_, ihquotes⟩
    rw [depthFrom_eq_add] at ihdepth ⊢
    omega

/-- Quotes come in pairs, and opening brackets stand between them. -/
structure IsSheltered (s : List Char) : Prop where
  paired : Even (s.count '\'')
  between : ∀ before behind, s = before ++ '[' :: behind → Odd (before.count '\'')

theorem HoldsLiterals.isIncomplete_eq_false_iff (h : HoldsLiterals s bodies) :
    isIncomplete s = false ↔ IsSheltered bodies.flatten := by
  obtain ⟨hdepth, hquotes⟩ := h.scan_eq false 0
  have hle : 0 ≤ depthFrom false 0 bodies.flatten := le_depthFrom h.notMem_flatten
  have hiff : isIncomplete s = false ↔
      inQuotes false bodies.flatten = false ∧ depthFrom false 0 bodies.flatten = 0 := by
    rw [isIncomplete, hdepth, hquotes, decide_eq_false_iff_not]
    cases inQuotes false bodies.flatten <;> simp <;> omega
  have hodd (before : List Char) : inQuotes false before ↔ Odd (before.count '\'') := by
    rw [← Nat.not_even_iff_odd, ← inQuotes_eq_iff (q := false), Bool.not_eq_false]
  rw [hiff, inQuotes_eq_iff, depthFrom_eq_self_iff h.notMem_flatten]
  simp only [hodd]
  exact ⟨fun h => ⟨h.1, h.2⟩, fun h => ⟨h.paired, h.between⟩⟩

/-- The last bracket stays open, whatever quotes stand before it or behind it. -/
theorem HoldsLiterals.isIncomplete_append_open (h : HoldsLiterals s bodies) {body : List Char}
    (hbody : ']' ∉ body) : isIncomplete (s ++ '[' :: body) := by
  obtain ⟨hdepth, -⟩ := h.scan_eq false 0
  have hle : 0 ≤ depthFrom false 0 bodies.flatten := le_depthFrom h.notMem_flatten
  have hopen : 1 ≤ depthFrom false 0 s + weight (inQuotes false s) '[' := by
    rw [weight_open, hdepth, Bool.toNat_false]
    omega
  rw [isIncomplete, decide_eq_true_eq, depthFrom_append, depthFrom_cons]
  exact Int.lt_of_lt_of_le (by omega) (le_depthFrom hbody)

/-! ## Commands -/

/-- What stands before the actions of a command: its name and, in `:eval`, the number of a rule. -/
inductive IsHead : List Char → Prop
  | check : IsHead ":check ".toList
  | eval {number : List Char} {n : Int} (hn : IsDecimal number n) :
    IsHead (":eval ".toList ++ (number ++ [' ']))

theorem IsHead.notMem_marks {head : List Char} (h : IsHead head) : ∀ c ∈ head, c ∉ marks := by
  have hname {s : List Char} (h : s.all (· ∉ marks)) : ∀ c ∈ s, c ∉ marks := by simpa using h
  cases h with
  | check => exact hname (by decide)
  | eval hn =>
    rw [List.forall_mem_append, List.forall_mem_append]
    refine ⟨hname (by decide), fun c hc hmark => ?_, hname (by decide)⟩
    have hnumber := hn.forall_mem c hc
    obtain rfl | rfl | rfl := mem_marks.1 hmark
    all_goals exact absurd hnumber (by decide)

/-- A command goes on if the last literal in it has no end. If its actions are read, it holds their
    literals; and then the command goes on unless all opening brackets between the brackets of the
    literals stand between quotes, and the quotes come in pairs. The command is so short that its
    brackets can be counted in 32 bits, at whichever place the count has arrived. -/
theorem isIncomplete_command {head : List Char} (hhead : IsHead head) {args : List Char}
    (hsize : (head ++ args).length < 2 ^ 31) :
    (∀ before, before <+: head ++ args → (depthFrom false 0 before).natAbs < 2 ^ 31) ∧
    (∀ actions, readActions args = .ok actions → ∃ bodies, HoldsLiterals args bodies ∧
      bodies.mapM readLiteral = .ok actions ∧
      (isIncomplete (head ++ args) = false ↔ IsSheltered bodies.flatten)) ∧
    (readActions args = .error (invalid "action list" "missing ']'") →
      isIncomplete (head ++ args)) := by
  have hargs : isIncomplete (head ++ args) = isIncomplete args := by
    rw [isIncomplete, (scan_append_of_plain hhead.notMem_marks false 0 args).1, isIncomplete]
  rw [hargs]
  refine ⟨fun before => natAbs_depthFrom_lt hsize, fun actions h => ?_, fun h => ?_⟩
  · obtain ⟨bodies, hbodies, hread⟩ := readActions_eq_ok_iff.1 h
    exact ⟨bodies, hbodies, hread, hbodies.isIncomplete_eq_false_iff⟩
  · obtain ⟨front, body, bodies, hfront, hbodies, hbody⟩ := exists_open_of_missing h
    obtain ⟨gap, hgap, hblank⟩ := exists_trimStart args
    rw [hgap, hfront, ← List.append_assoc]
    exact (hbodies.blank_append hblank).isIncomplete_append_open hbody

/-- The bracket in one name is hidden by a quote, which is closed in the other name. A quote does
    not hide that a literal has no end. -/
theorem isIncomplete_command_quoted :
    IsHead ":eval +1 ".toList ∧
      readActions "[name='[] [name=']".toList =
        .ok [⟨.origin, .origin, 0, "'[", 0⟩, ⟨.origin, .origin, 0, "'", 0⟩] ∧
      (∃ bodies, HoldsLiterals "[name='[] [name=']".toList bodies ∧
        IsSheltered bodies.flatten) ∧
      readActions "['".toList = .error (invalid "action list" "missing ']'") ∧
      isIncomplete ":eval +1 ['".toList := by
  have hnumber : integer? ['+', '1'] = some 1 := by decide
  have hhead : IsHead ":eval +1 ".toList := .eval (integer?_eq_some_iff.1 hnumber)
  have hfirst : ']' ∉ "name='[".toList := by decide
  have hsecond : ']' ∉ "name='".toList := by decide
  have hspace : ∀ c ∈ [' '], isBlank c := List.forall_mem_singleton.2 isBlank_space
  have hlast := (HoldsLiterals.nil (List.forall_mem_nil _)).literal_append hsecond
  have hliterals := (hlast.blank_append hspace).literal_append hfirst
  have hread : readActions "[name='[] [name=']".toList =
      .ok [⟨.origin, .origin, 0, "'[", 0⟩, ⟨.origin, .origin, 0, "'", 0⟩] :=
    readActions_of_holdsLiterals hliterals
  have hquote : ']' ∉ ['\''] := by decide
  have hopen : readActions "['".toList = .error (invalid "action list" "missing ']'") :=
    readActions_open hquote
  have hsize : (":eval +1 ".toList ++ "[name='[] [name=']".toList).length < 2 ^ 31 := by decide
  have hsize' : (":eval +1 ".toList ++ "['".toList).length < 2 ^ 31 := by decide
  obtain ⟨-, haccepted, -⟩ := isIncomplete_command hhead hsize
  obtain ⟨bodies, hbodies, -, hiff⟩ := haccepted _ hread
  obtain ⟨-, -, hmissing⟩ := isIncomplete_command hhead hsize'
  exact ⟨hhead, hread, ⟨bodies, hbodies, hiff.1 (by decide)⟩, hopen, hmissing hopen⟩

/-- A command goes on behind a literal which has its end, and whose action is read. -/
theorem isIncomplete_command_openName :
    IsHead ":check ".toList ∧
      readActions "[name=[]".toList = .ok [⟨.origin, .origin, 0, "[", 0⟩] ∧
      isIncomplete ":check [name=[]".toList := by
  have hbody : ']' ∉ "name=[".toList := by decide
  have hliterals := (HoldsLiterals.nil (List.forall_mem_nil _)).literal_append hbody
  exact ⟨.check, readActions_of_holdsLiterals hliterals, by decide⟩

end Interlock.Shell
