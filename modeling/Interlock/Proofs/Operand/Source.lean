import Interlock.Proofs.Statement.Acceptance
import Interlock.Proofs.Statement.Offence
import Interlock.Proofs.Token.Run

/-!
# Operands and their source

The tokens of a source are scanned once for the shape of a predicate. The operands are then read
from their texts alone, each of which is scanned again. Both agree, as a token hangs on nothing but
its text: so an operand which fits the shape is refused for one reason only, an unknown field.

* `Token.text_span`: the text of a token is the part of the source which its span covers.
* `Operand.IsPassedOn`: an operand of a source, and why it may be refused.
* `Token.TextsDecide`: what is said of a token by its text. `Token.textsDecide`: this holds in every
  source.
-/

namespace Interlock

open Text

namespace Token

variable {source : String} {t : Token}

theorem text_span (ht : t ∈ ofSource source) : t.span.text source = t.text := by
  rw [Span.text, (tiles_ofSource source).slice_eq ht, Option.getD_some, String.ofList_toList]

theorem size_span (ht : t ∈ ofSource source) : t.span.size = byteSize t.text.toList := by
  obtain ⟨gap, -, -, hstart, hstop, -⟩ := (tiles_ofSource source).exists_of_mem ht
  rw [Span.size, hstart, hstop, byteSize_append _ t.text.toList, Nat.add_sub_cancel_left]

end Token

namespace Operand

/-- The text is that of an operand among the tokens of a source. It is refused if it refers to an
    unknown field, and for no other reason. -/
def IsPassedOn (source text : String) : Prop :=
  ∃ t ∈ Token.ofSource source, t.kind.isOperand ∧ text = t.span.text source ∧
    ∀ err, read text = .error err ↔ ∃ n f, t.kind = .reference n f ∧
      Field.ofSpelling? f = none ∧ err = { cause := .invalidOperand (n ++ "." ++ f) }

theorem isPassedOn_text {source : String} {t : Token} (ht : t ∈ Token.ofSource source)
    (hk : t.kind.isOperand) : IsPassedOn source t.text :=
  ⟨t, ht, hk, (Token.text_span ht).symm, fun _ => read_text_eq_error_iff ht hk⟩

end Operand

namespace Token

/-- What the tokens of a source are is decided by their texts. -/
structure TextsDecide (source : String) : Prop where
  /-- The text of a token is, by itself, a source with that token alone. -/
  alone : ∀ t ∈ ofSource source, ofSource (t.span.text source) =
    (if t.kind = .eof then [] else [⟨t.kind, t.span.text source, ⟨0, t.span.size, 1⟩⟩]) ++
      [endOf (t.span.text source)]
  /-- A longest run outside of literals is a token, and has the kind of its shape. -/
  run : ∀ before run behind, IsRunIn source.toList before run behind → ∃ k : Kind, k.IsOfRun run ∧
    ⟨k, .ofList run, ⟨byteSize before, byteSize (before ++ run), before.length + 1⟩⟩ ∈
      ofSource source
  /-- There are no other tokens which begin like a run. -/
  isRun : ∀ t ∈ ofSource source, (∃ c ∈ t.text.toList.head?, isBare c) →
    ∃ before behind, IsRunIn source.toList before t.text.toList behind ∧
      t.span.start = byteSize before
  /-- An operand which is found among the tokens is refused only for its field. -/
  operand : ∀ ts rest text, ts <:+ ofSource source → Chain.readOperand ts = .ok (text, rest) →
    Operand.IsPassedOn source text
  /-- So are the operands of the clauses of a predicate. -/
  clause : ∀ texts, Statement.readPredicate source = .ok texts → ∀ c ∈ texts,
    Operand.IsPassedOn source c.left ∧ Operand.IsPassedOn source c.right

theorem isPassedOn_of_readOperand {source : String} {ts rest : List Token} {text : String}
    (hts : ts <:+ ofSource source) (h : Chain.readOperand ts = .ok (text, rest)) :
    Operand.IsPassedOn source text := by
  rcases ts with - | ⟨t, ts⟩
  · cases h
  rw [Chain.readOperand] at h
  split at h
  · next hk =>
    cases h
    exact Operand.isPassedOn_text (hts.mem List.mem_cons_self) hk
  · cases h

theorem isPassedOn_of_readPredicate {source : String} {texts : List ClauseText} {c : ClauseText}
    (h : Statement.readPredicate source = .ok texts) (hc : c ∈ texts) :
    Operand.IsPassedOn source c.left ∧ Operand.IsPassedOn source c.right := by
  obtain ⟨shapes, -, hshapes, -⟩ :=
    Chain.exists_shapes_of_read (Statement.readPredicate_eq_ok_iff.1 h)
  obtain ⟨x, -, hx⟩ := exists_of_mem_left hshapes hc
  obtain ⟨l, hl, hleft, hltext⟩ := hx.left
  obtain ⟨r, hr, hright, hrtext⟩ := hx.right
  rw [← hltext, ← hrtext]
  exact ⟨Operand.isPassedOn_text hl (hleft ▸ hx.fits.left),
    Operand.isPassedOn_text hr (hright ▸ hx.fits.right)⟩

/-- In every source, the texts of the tokens decide what these are. -/
theorem textsDecide (source : String) : TextsDecide source where
  alone t ht := by rw [text_span ht, size_span ht, ofSource_text ht]
  run before run behind h := by
    have hmem := mem_tokens_of_isRunIn (c := Cursor.ofSource source) h
    refine ⟨_, isOfRun_classify h.ne_nil, ?_⟩
    simpa [ofSource, Cursor.ofSource, Cursor.advance, Nat.add_comm] using hmem
  isRun t ht h := by
    obtain ⟨d, hd, hbare⟩ := h
    obtain ⟨ds, htext⟩ := List.head?_eq_some_iff.1 hd
    obtain ⟨before, behind, hrun, hstart⟩ := exists_isRunIn_of_mem ht htext hbare
    refine ⟨before, behind, hrun, ?_⟩
    simpa [Cursor.ofSource, Cursor.advance] using hstart
  operand ts rest text := isPassedOn_of_readOperand
  clause texts h c := isPassedOn_of_readPredicate h

/-- A literal ends at its next quote even if there is a fault in it, and has this fault by itself.
    The digits behind it are an integer, for all their leading zeros, and the operand behind these
    is passed on, although its field is unknown. -/
theorem textsDecide_faultyLiteral :
    ofSource "'a=b'" = [⟨.invalid (.notAllowed '='), "'a=b'", ⟨0, 5, 1⟩⟩, endOf "'a=b'"] ∧
    ⟨.int 7, "007", ⟨6, 9, 7⟩⟩ ∈ ofSource "'a=b' 007 a.sped" ∧
    Operand.IsPassedOn "'a=b' 007 a.sped" "a.sped" := by
  have h := textsDecide "'a=b' 007 a.sped"
  have htokens : ofSource "'a=b' 007 a.sped" =
      [⟨.invalid (.notAllowed '='), "'a=b'", ⟨0, 5, 1⟩⟩, ⟨.int 7, "007", ⟨6, 9, 7⟩⟩,
        ⟨.reference "a" "sped", "a.sped", ⟨10, 16, 11⟩⟩, endOf "'a=b' 007 a.sped"] := by
    decide +kernel
  refine ⟨?_, ?_, ?_⟩
  · have hmem : ⟨.invalid (.notAllowed '='), "'a=b'", ⟨0, 5, 1⟩⟩ ∈ ofSource "'a=b' 007 a.sped" := by
      rw [htokens]
      exact List.mem_cons_self
    exact h.alone _ hmem
  · have hrun : IsRunIn "'a=b' 007 a.sped".toList "'a=b' ".toList "007".toList " a.sped".toList :=
      ⟨rfl, by decide, List.all_eq_true.1 rfl, stops_cons.2 (by decide), stops_cons.2 (by decide),
        by decide⟩
    obtain ⟨k, hk, hmem⟩ := h.run _ _ _ hrun
    obtain rfl : k = .int 7 := (hk.int_iff 7).2 ⟨List.all_eq_true.1 rfl, by decide, by decide⟩
    exact hmem
  · have hsuffix : [⟨.reference "a" "sped", "a.sped", ⟨10, 16, 11⟩⟩, endOf "'a=b' 007 a.sped"] <:+
        ofSource "'a=b' 007 a.sped" := by
      rw [htokens]
      exact ⟨[_, _], rfl⟩
    exact h.operand _ _ _ hsuffix rfl

end Token

end Interlock
