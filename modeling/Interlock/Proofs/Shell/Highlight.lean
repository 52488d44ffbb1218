import Interlock.Proofs.Text.Lines
import Interlock.Proofs.Token.Tiling
import Interlock.Shell.Highlight

/-!
# Colours change no text

A terminal takes control sequences out of what it is sent and shows the rest. A line with colours is
shown as the line itself: its parts are found again by the places of its tokens, none is lost and
none comes twice. And what is in a colour is just what stands in the texts of the tokens which have
one.

* `Highlight.shown`: what a terminal shows. `Highlight.segments`: what it shows in colours.
* `IsColor`: a control sequence which begins a colour. `isColor_of_color?`: those of the tokens.
* `shown_paint`, `segments_paint`: a text in a colour is shown as it is, and is one segment.
* `shown_stitch`, `segments_stitch`: the same for a line with its tokens in colours.
* `shown_command`: the same for a command.
* `shown_line`: every line is shown as it is, and its segments are its tokens.
-/

namespace Interlock.Highlight

open Text

/-! ## Terminals -/

/-- The character with which control sequences begin. -/
def escape : Char := '\x1b'

/-- What is shown of a text, which may begin inside a control sequence. A sequence goes on up to the
    next `m`. -/
def shownFrom (inside : Bool) : List Char → List Char
  | [] => []
  | c :: cs =>
    if inside then shownFrom (c != 'm') cs
    else if c = escape then shownFrom true cs
    else c :: shownFrom false cs

/-- A text without its control sequences. -/
def shown (s : List Char) : List Char := shownFrom false s

/-- A control sequence without its first character, and what stands behind it. -/
def sequence? (s : List Char) : Option (String × List Char) :=
  (cutWhere (· == 'm') s).map fun (code, text) => (String.ofList (escape :: (code ++ ['m'])), text)

/-- The control sequences of a text, each with what stands between it and the next one. -/
def sequences (s : List Char) : List (String × List Char) :=
  (s.splitOn escape).tail.filterMap sequence?

/-- The parts of a text which are in a colour: those behind a control sequence which does not end
    the colours. -/
def segments (s : List Char) : List (String × List Char) := (sequences s).filter (·.1 ≠ reset)

/-! ## Colours -/

/-- The control sequences which begin a colour. -/
def colors : List String :=
  ["\x1b[1;32m", "\x1b[1m", "\x1b[32m", "\x1b[36m", "\x1b[33m", "\x1b[35m", "\x1b[31m"]

theorem mem_colors_of_color? {k : Token.Kind} {c : String} (h : color? k = some c) :
    c ∈ colors := by
  unfold color? at h
  split at h
  · split_ifs at h <;> cases h <;> decide
  all_goals cases h
  all_goals decide

/-- A control sequence which begins a colour is complete, and is not the one which ends it. -/
theorem exists_code_of_mem_colors {c : String} (h : c ∈ colors) :
    c ≠ reset ∧ ∃ code, c.toList = escape :: (code ++ ['m']) ∧ escape ∉ code ∧ 'm' ∉ code := by
  have hcode : ∀ c ∈ colors, c ≠ reset ∧
      c.toList = escape :: (c.toList.tail.dropLast ++ ['m']) ∧
      escape ∉ c.toList.tail.dropLast ∧ 'm' ∉ c.toList.tail.dropLast := by
    decide
  obtain ⟨hreset, hc⟩ := hcode c h
  exact ⟨hreset, _, hc⟩

/-! ## What is shown of painted texts -/

variable {a s text : List Char}

theorem shown_append (ha : escape ∉ a) (s : List Char) : shown (a ++ s) = a ++ shown s := by
  induction a with
  | nil => rfl
  | cons c a ih =>
    rw [List.mem_cons, not_or] at ha
    rw [List.cons_append, shown, shownFrom, if_neg Bool.false_ne_true, if_neg (Ne.symm ha.1)]
    exact congrArg (c :: ·) (ih ha.2)

theorem shown_of_notMem (hs : escape ∉ s) : shown s = s := by
  have h := shown_append hs []
  rwa [List.append_nil, shown, shown, shownFrom, List.append_nil] at h

theorem shownFrom_code (ha : 'm' ∉ a) (s : List Char) :
    shownFrom true (a ++ 'm' :: s) = shown s := by
  induction a with
  | nil => rfl
  | cons c a ih =>
    rw [List.mem_cons, not_or] at ha
    have hc : (c != 'm') = true := by simpa using Ne.symm ha.1
    rw [List.cons_append, shownFrom, if_pos rfl, hc, ih ha.2]

theorem shown_sequence (ha : 'm' ∉ a) (s : List Char) :
    shown (escape :: (a ++ 'm' :: s)) = shown s :=
  shownFrom_code ha s

/-- A text in a colour stands between two control sequences. -/
theorem paint_eq {c : String} {code : List Char} (hc : c.toList = escape :: (code ++ ['m']))
    (text s : List Char) : paint (some c) text ++ s =
      escape :: (code ++ 'm' :: text ++ escape :: (['[', '0'] ++ 'm' :: s)) := by
  have hreset : reset.toList = [escape, '[', '0', 'm'] := by decide
  simp [paint, hc, hreset]

/-- A text in a colour is shown as it is. -/
theorem shown_paint {c : String} (hc : c ∈ colors) (ht : escape ∉ text) (s : List Char) :
    shown (paint (some c) text ++ s) = text ++ shown s := by
  obtain ⟨-, code, hcode, -, hend⟩ := exists_code_of_mem_colors hc
  rw [paint_eq hcode, List.append_assoc, List.cons_append, shown_sequence hend, shown_append ht,
    shown_sequence (by decide)]

/-! ## What is in colours -/

/-- The first piece of a text goes on with what stands before it. -/
theorem splitOn_append {first : List Char} {pieces : List (List Char)} (ha : escape ∉ a)
    (hs : s.splitOn escape = first :: pieces) :
    (a ++ s).splitOn escape = (a ++ first) :: pieces := by
  induction a with
  | nil => exact hs
  | cons c a ih =>
    rw [List.mem_cons, not_or] at ha
    have hc : ¬(c == escape) = true := by simpa using Ne.symm ha.1
    rw [List.cons_append, List.splitOn_cons_eq_if_modifyHead, if_neg hc, ih ha.2]
    rfl

theorem exists_splitOn_eq (s : List Char) :
    ∃ first pieces, s.splitOn escape = first :: pieces :=
  List.exists_cons_of_ne_nil (List.splitOn_ne_nil escape s)

theorem segments_append (ha : escape ∉ a) (s : List Char) : segments (a ++ s) = segments s := by
  obtain ⟨first, pieces, hs⟩ := exists_splitOn_eq s
  rw [segments, segments, sequences, sequences, splitOn_append ha hs, hs]
  rfl

theorem segments_of_notMem (hs : escape ∉ s) : segments s = [] := by
  rw [segments, sequences, List.splitOn_eq_singleton hs]
  rfl

theorem sequence?_code {code : List Char} (hcode : 'm' ∉ code) (text : List Char) :
    sequence? (code ++ 'm' :: text) = some (String.ofList (escape :: (code ++ ['m'])), text) := by
  rw [sequence?, cutWhere_append hcode]
  rfl

/-- A text in a colour is one segment. -/
theorem segments_paint {c : String} (hc : c ∈ colors) (ht : escape ∉ text) (s : List Char) :
    segments (paint (some c) text ++ s) = (c, text) :: segments s := by
  obtain ⟨hreset, code, hcode, hescape, hend⟩ := exists_code_of_mem_colors hc
  obtain ⟨first, pieces, hs⟩ := exists_splitOn_eq s
  -- The colour begins one piece, which is all of the text, and its end begins the next one.
  have hpiece : escape ∉ code ++ 'm' :: text := by
    simp [hescape, ht, show escape ≠ 'm' by decide]
  have hrest : (['[', '0'] ++ 'm' :: s).splitOn escape = (['[', '0'] ++ 'm' :: first) :: pieces :=
    splitOn_append (a := ['[', '0', 'm']) (by decide) hs
  have hpieces : (paint (some c) text ++ s).splitOn escape =
      [] :: (code ++ 'm' :: text) :: (['[', '0'] ++ 'm' :: first) :: pieces := by
    rw [paint_eq hcode, List.splitOn_cons_eq_if_modifyHead, if_pos (beq_self_eq_true escape),
      List.splitOn_append_cons_self_of_not_mem hpiece, hrest]
  have hcolor : sequence? (code ++ 'm' :: text) = some (c, text) := by
    rw [sequence?_code hend, ← hcode, String.ofList_toList]
  have hend : sequence? (['[', '0'] ++ 'm' :: first) = some (reset, first) :=
    sequence?_code (by decide) first
  rw [segments, segments, sequences, sequences, hpieces, hs, List.tail_cons, List.tail_cons,
    List.filterMap_cons_some hcolor, List.filterMap_cons_some hend,
    List.filter_cons_of_pos (by simpa using hreset), List.filter_cons_of_neg (by simp)]

/-! ## Tokens in colours -/

/-- The segment which a token becomes, if it has a colour. -/
def segment? (t : Token) : Option (String × List Char) :=
  (color? t.kind).map fun c => (c, t.text.toList)

variable {t : Token} {ts : List Token}

theorem shown_token (ht : escape ∉ t.text.toList) (s : List Char) :
    shown (paint (color? t.kind) t.text.toList ++ s) = t.text.toList ++ shown s := by
  rcases hc : color? t.kind with - | c
  · exact shown_append ht s
  · exact shown_paint (mem_colors_of_color? hc) ht s

theorem segments_token (ht : escape ∉ t.text.toList) (s : List Char) :
    segments (paint (color? t.kind) t.text.toList ++ s) = (segment? t).toList ++ segments s := by
  rw [segment?]
  rcases hc : color? t.kind with - | c
  · exact segments_append ht s
  · exact segments_paint (mem_colors_of_color? hc) ht s

theorem part_append (a b c : List Char) :
    part (a ++ (b ++ c)) (byteSize a) (byteSize (a ++ b)) = b := by
  rw [part, slice_append]
  rfl

theorem part_eq_rest (a b : List Char) : part (a ++ b) (byteSize a) (byteSize (a ++ b)) = b := by
  have h := part_append a b []
  rwa [List.append_nil] at h

/-- The places of a token are those of the gap before it and of its text. -/
theorem stitch_cons {before gap behind : List Char}
    (hs : s = before ++ (gap ++ (t.text.toList ++ behind)))
    (hstart : t.span.start = byteSize (before ++ gap))
    (hstop : t.span.stop = byteSize (before ++ gap ++ t.text.toList)) :
    stitch s (byteSize before) (t :: ts) = gap ++ (paint (color? t.kind) t.text.toList ++
      stitch s (byteSize (before ++ gap ++ t.text.toList)) ts) := by
  have hgap : part s (byteSize before) t.span.start = gap := by
    rw [hs, hstart, part_append]
  have htext : part s t.span.start t.span.stop = t.text.toList := by
    rw [hs, hstart, hstop, ← List.append_assoc before, part_append]
  rw [stitch, hgap, htext, hstop, List.append_assoc]

/-- A line with its tokens in colours is shown as what is left of it, and its segments are the
    tokens with a colour. The induction is on the tokens, which tile the line. -/
theorem shown_stitch (hs : escape ∉ s) {before : List Char} (h : Token.Tiles s before ts)
    {rest : List Char} (hrest : s = before ++ rest) :
    shown (stitch s (byteSize before) (ts.takeWhile (·.kind ≠ .eof))) = rest ∧
      segments (stitch s (byteSize before) (ts.takeWhile (·.kind ≠ .eof))) =
        (ts.takeWhile (·.kind ≠ .eof)).filterMap segment? := by
  have hnone {before rest : List Char} (hrest : s = before ++ rest) :
      shown (stitch s (byteSize before) []) = rest ∧
        segments (stitch s (byteSize before) []) = [] := by
    have hmem : escape ∉ rest := fun hmem => hs (hrest ▸ List.mem_append_right _ hmem)
    have hstitch : stitch s (byteSize before) [] = rest := by rw [stitch, hrest, part_eq_rest]
    rw [hstitch]
    exact ⟨shown_of_notMem hmem, segments_of_notMem hmem⟩
  induction h generalizing rest with
  | nil => exact hnone hrest
  | @cons before gap t ts _ hstart hstop _ hts ih =>
    by_cases ht : t.kind = .eof
    · rw [List.takeWhile_cons_of_neg (by simpa using ht)]
      exact hnone hrest
    · obtain ⟨behind, hbehind⟩ := hts.exists_eq_append
      obtain ⟨hshown, hsegments⟩ := ih hbehind
      have hs' : s = before ++ (gap ++ (t.text.toList ++ behind)) := by
        rw [hbehind, List.append_assoc, List.append_assoc]
      obtain rfl : gap ++ (t.text.toList ++ behind) = rest :=
        List.append_cancel_left (hs'.symm.trans hrest)
      rw [hs'] at hs
      simp only [List.mem_append, not_or] at hs
      rw [List.takeWhile_cons_of_pos (by simpa using ht), stitch_cons hs' hstart hstop,
        shown_append hs.2.1, shown_token hs.2.2.1, hshown, segments_append hs.2.1,
        segments_token hs.2.2.1, hsegments]
      refine ⟨rfl, ?_⟩
      rcases hsegment : segment? t with - | segment
      · rw [List.filterMap_cons_none hsegment]
        rfl
      · rw [List.filterMap_cons_some hsegment]
        rfl

/-- The tokens before the first end are all tokens of a line but the last. -/
theorem filterMap_ofSource (s : String) :
    ((Token.ofSource s).takeWhile (·.kind ≠ .eof)).filterMap segment? =
      (Token.ofSource s).filterMap segment? := by
  obtain ⟨ts, hts, hne⟩ := (Cursor.ofSource s).exists_tokens_eq
  have hall : ∀ t ∈ ts, decide (t.kind ≠ .eof) := by simpa using hne
  rw [Token.ofSource, hts, List.takeWhile_append_of_pos hall, List.takeWhile_cons_of_neg (by simp),
    List.append_nil, List.filterMap_append, List.filterMap_cons_none rfl, List.filterMap_nil,
    List.append_nil]

/-! ## Commands -/

theorem shown_command (hs : escape ∉ s) : shown (command s) = s := by
  obtain ⟨blanks, rest, rfl, hblanks, hrest⟩ := exists_run isBlank s
  obtain ⟨word, behind, rfl, hword, hbehind⟩ := exists_run (!isBlank ·) rest
  have hstart : byteSize (blanks ++ (word ++ behind)) -
      byteSize (trimStart (blanks ++ (word ++ behind))) = byteSize blanks := by
    rw [trimStart, dropWhile_append_of_stops hblanks hrest, byteSize_append blanks,
      Nat.add_sub_cancel]
  simp only [List.mem_append, not_or] at hs
  simp only [command, hstart, part_eq_rest, takeWhile_append_of_stops hword hbehind]
  have hfirst : part (blanks ++ (word ++ behind)) 0 (byteSize blanks) = blanks :=
    part_append [] blanks (word ++ behind)
  have hlast := part_eq_rest (blanks ++ word) behind
  rw [List.append_assoc] at hlast
  rw [← byteSize_append, part_append, hfirst, hlast, List.append_assoc, shown_append hs.1,
    shown_paint (by decide) hs.2.1, shown_of_notMem hs.2.2]

/-! ## Lines -/

/-- The token has a colour: it is neither a name nor the end. -/
def isColored (t : Token) : Bool :=
  match t.kind with
  | .name _ | .eof => false
  | _ => true

theorem isColored_eq (t : Token) : isColored t = (color? t.kind).isSome := by
  obtain ⟨k, text, span⟩ := t
  cases k with
  | word w =>
    simp only [color?]
    split_ifs <;> rfl
  | _ => rfl

theorem map_snd_filterMap_segment? (ts : List Token) :
    (ts.filterMap segment?).map Prod.snd = (ts.filter isColored).map (·.text.toList) := by
  induction ts with
  | nil => rfl
  | cons t ts ih =>
    rcases hc : color? t.kind with - | c
    · rw [List.filterMap_cons_none (by rw [segment?, hc]; rfl),
        List.filter_cons_of_neg (by simp [isColored_eq, hc]), ih]
    · rw [List.filterMap_cons_some (by rw [segment?, hc]; rfl),
        List.filter_cons_of_pos (by simp [isColored_eq, hc]), List.map_cons, List.map_cons, ih]

/-- Colours change no text. A line which holds no control sequence of its own is shown as it is
    under its colours; and unless it is blank or a command, what is in a colour are just the texts
    of its tokens but the names, in their order and each in the colour of its kind. -/
theorem shown_line {s : String} (hs : escape ∉ s.toList) :
    shown (line s).toList = s.toList ∧
      (isBlankText s = false → (trimStart s.toList).head? ≠ some ':' →
        (segments (line s).toList).map Prod.snd =
          ((Token.ofSource s).filter isColored).map (·.text.toList) ∧
        segments (line s).toList = (Token.ofSource s).filterMap segment?) := by
  have hstatement := shown_stitch hs (Token.tiles_ofSource s) rfl
  unfold line
  split
  · next hblank =>
    refine ⟨shown_of_notMem hs, fun hne => ?_⟩
    rw [isBlankText_iff.2 hblank] at hne
    cases hne
  · next rest hcolon =>
    rw [String.toList_ofList]
    refine ⟨shown_command hs, fun _ hne => absurd ?_ hne⟩
    rw [hcolon, List.head?_cons]
  · rw [String.toList_ofList]
    refine ⟨hstatement.1, fun _ _ => ?_⟩
    have hsegments := hstatement.2.trans (filterMap_ofSource s)
    exact ⟨(congrArg _ hsegments).trans (map_snd_filterMap_segment? _), hsegments⟩

/-- A line with blanks of one and of three bytes, faulty tokens of one and of more bytes, and two
    literals side by side, the second of which has no end. -/
def oddLine : String := " ACTION a\u3000IF b.dest é 'x=''7 "

theorem shown_line_oddLine :
    shown (line oddLine).toList = oddLine.toList ∧
      segments (line oddLine).toList =
        [("\x1b[1;32m", "ACTION".toList), ("\x1b[1;32m", "IF".toList),
          ("\x1b[36m", "b.dest".toList), ("\x1b[31m", "é".toList), ("\x1b[31m", "'x='".toList),
          ("\x1b[31m", "'7 ".toList)] := by
  have hescape : escape ∉ oddLine.toList := by decide +kernel
  obtain ⟨hshown, hsegments⟩ := shown_line hescape
  obtain ⟨-, htokens⟩ := hsegments (by decide +kernel) (by decide +kernel)
  exact ⟨hshown, htokens.trans (by decide +kernel)⟩

end Interlock.Highlight
