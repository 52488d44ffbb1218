import Interlock.Proofs.Lists
import Interlock.Proofs.Statement.Chain

/-!
# The shapes of clauses

Whether some tokens are a chain of clauses is a matter of their shape: where operands stand, and
that the words between clauses are connectors. What the operands and the phrases mean has no part in
it.

* `Clause.Shape`: the shape of a clause. `Clause.AreChain`: some shapes are those of a chain.
* `ClauseText.HasShape`: the parts of a clause were written by tokens of a shape.
* `Chain.exists_shapes_of_read`, `Chain.exists_read_of_areChain`: a chain is read just where the
  tokens have the shapes of one.
-/

namespace Interlock

open Text

/-- The shape of a clause: the words of its connector, none for a first clause, and what stands on
    both sides of its phrase. -/
structure Clause.Shape where
  joint : List String
  left : Token.Kind
  phrase : List String
  right : Token.Kind

theorem Token.Kind.ne_eof_of_isOperand {k : Token.Kind} (h : k.isOperand) : k ≠ .eof := by
  rintro rfl
  cases h

namespace Clause

/-- The kinds of the tokens of a clause. -/
def Shape.kinds (x : Shape) : List Token.Kind :=
  phraseKinds x.joint ++ x.left :: (phraseKinds x.phrase ++ [x.right])

/-- The tokens are those of a clause: two operands with a phrase between them, and in front of them
    one of the connectors or nothing. -/
structure Shape.Fits (x : Shape) : Prop where
  joint : x.joint = [] ∨ ∃ k, Connector.Spells x.joint k
  left : x.left.isOperand
  ne_nil : x.phrase ≠ []
  right : x.right.isOperand

theorem Shape.Fits.ne_eof {x : Shape} (h : x.Fits) : ∀ k ∈ x.kinds, k ≠ .eof := by
  have hphrase {ws : List String} : ∀ k ∈ phraseKinds ws, k ≠ .eof := by
    intro k hk
    obtain ⟨w, -, rfl⟩ := List.mem_map.1 hk
    simp
  simp only [kinds, List.mem_append, List.mem_cons, List.not_mem_nil, or_false]
  rintro k (hk | rfl | hk | rfl)
  · exact hphrase k hk
  · exact Token.Kind.ne_eof_of_isOperand h.left
  · exact hphrase k hk
  · exact Token.Kind.ne_eof_of_isOperand h.right

/-- The clauses form a chain: every one but the first has a connector. -/
structure AreChain (xs : List Shape) : Prop where
  fits : ∀ x ∈ xs, x.Fits
  joined : ∃ x ys, xs = x :: ys ∧ x.joint = [] ∧ ∀ y ∈ ys, y.joint ≠ []

end Clause

namespace ClauseText

variable {cur : Cursor} {t : ClauseText} {x : Clause.Shape} {ts : List Token}

/-- The words among the tokens of a text are words. -/
theorem areWords_of_arePhrase {ws : List String} (h : Chain.ArePhrase ts ws)
    (hmem : ∀ x ∈ ts, x ∈ cur.tokens) : AreWords ws := by
  intro w hw
  have hk : Token.Kind.word w ∈ ts.map Token.kind := h ▸ List.mem_map_of_mem hw
  obtain ⟨x, hx, hxw⟩ := List.mem_map.1 hk
  have hkind : x.kind ∈ Token.kinds cur.rest :=
    Token.map_kind_tokens cur ▸ List.mem_map_of_mem (hmem x hx)
  exact hxw ▸ Token.wellFormed_of_mem_kinds hkind

/-- The parts of a clause were written by tokens of a shape, which are tokens of a source. -/
structure HasShape (cur : Cursor) (t : ClauseText) (x : Clause.Shape) : Prop where
  fits : x.Fits
  joint : AreWords x.joint
  connector : t.connector = if x.joint = [] then none else some (" ".intercalate x.joint)
  left : ∃ l ∈ cur.tokens, l.kind = x.left ∧ l.text = t.left
  phrase : AreWords x.phrase
  operator : t.operator = " ".intercalate x.phrase
  right : ∃ r ∈ cur.tokens, r.kind = x.right ∧ r.text = t.right

/-! ## The tokens of one clause -/

/-- The tokens of the parts of a clause have a shape. -/
theorem exists_hasShape (h : Chain.Covers t ts) (hmem : ∀ y ∈ ts, y ∈ cur.tokens) :
    ∃ x, HasShape cur t x ∧ ts.map Token.kind = x.kinds := by
  have hcompares {kts cts wts : List Token} {l r : Token} {ks ws : List String}
      (hts : ts = kts ++ cts) (hkts : Chain.ArePhrase kts ks)
      (hks : ks = [] ∨ ∃ k, Connector.Spells ks k)
      (hk : t.connector = if ks = [] then none else some (" ".intercalate ks))
      (h : Chain.Compares t cts l wts ws r) :
      ∃ x, HasShape cur t x ∧ ts.map Token.kind = x.kinds := by
    obtain ⟨rfl, hl, hphrase, hne, hr, htext⟩ := h
    obtain ⟨hleft, hop, hright⟩ : t.left = l.text ∧ t.operator = " ".intercalate ws ∧
      t.right = r.text := by simpa using htext
    subst hts
    refine ⟨⟨ks, l.kind, ws, r.kind⟩, ⟨⟨hks, hl, hne, hr⟩, ?_, hk, ?_, ?_, hop, ?_⟩, ?_⟩
    · exact areWords_of_arePhrase hkts fun y hy => hmem y (by simp [hy])
    · exact ⟨l, hmem l (by simp), rfl, hleft.symm⟩
    · exact areWords_of_arePhrase hphrase fun y hy => hmem y (by simp [hy])
    · exact ⟨r, hmem r (by simp), rfl, hright.symm⟩
    · rw [List.map_append, List.map_cons, List.map_append, show kts.map Token.kind = _ from hkts,
        show wts.map Token.kind = _ from hphrase]
      rfl
  cases h with
  | @first ts wts l r ws hk hts => exact @hcompares [] ts wts l r [] ws rfl rfl (.inl rfl) hk hts
  | @joined kts ts wts l r ks ws k hk hkts hne hread hts =>
    have hks : AreWords ks := areWords_of_arePhrase hkts fun y hy => hmem y (by simp [hy])
    exact hcompares rfl hkts (.inr ⟨k, (Connector.read_eq_ok_iff hks).1 hread⟩)
      (by rw [if_neg hne, hk]) hts

/-- Tokens which have the shape of a clause are those of its parts. -/
theorem exists_covers (hx : x.Fits) (hts : ts.map Token.kind = x.kinds)
    (hmem : ∀ y ∈ ts, y ∈ cur.tokens) : ∃ t, Chain.Covers t ts ∧ HasShape cur t x := by
  obtain ⟨joint, left, phrase, right⟩ := x
  obtain ⟨hjoint, hleft, hne, hright⟩ := hx
  obtain ⟨kts, cts, rfl, hkts, hcts⟩ := List.map_eq_append_iff.1 hts
  obtain ⟨l, cts', rfl, rfl, hcts'⟩ := List.map_eq_cons_iff.1 hcts
  obtain ⟨wts, rts, rfl, hwts, hrts⟩ := List.map_eq_append_iff.1 hcts'
  obtain ⟨r, rfl, rfl⟩ := List.map_eq_singleton_iff.1 hrts
  have hks : AreWords joint := areWords_of_arePhrase hkts fun y hy => hmem y (by simp [hy])
  have hws : AreWords phrase := areWords_of_arePhrase hwts fun y hy => hmem y (by simp [hy])
  let t : ClauseText := ⟨if joint = [] then none else some (" ".intercalate joint), l.text,
    " ".intercalate phrase, r.text⟩
  have hcompares : Chain.Compares t (l :: (wts ++ [r])) l wts phrase r :=
    ⟨rfl, hleft, hwts, hne, hright, rfl⟩
  refine ⟨t, ?_, ⟨hjoint, hleft, hne, hright⟩, hks, rfl, ⟨l, hmem l (by simp), rfl, rfl⟩, hws, rfl,
    ⟨r, hmem r (by simp), rfl, rfl⟩⟩
  rcases hjoint with rfl | ⟨k, hk⟩
  · obtain rfl : kts = [] := List.map_eq_nil_iff.1 hkts
    exact .first rfl hcompares
  · exact .joined (if_neg hk.ne_nil) hkts hk.ne_nil ((Connector.read_eq_ok_iff hks).2 hk) hcompares

theorem HasShape.connector_eq_none_iff (h : HasShape cur t x) :
    t.connector = none ↔ x.joint = [] := by
  rw [h.connector]
  split <;> simp [*]

end ClauseText

/-! ## The tokens of a chain -/

namespace Chain

variable {cur : Cursor} {texts : List ClauseText} {parts : List (List Token)}
  {shapes : List Clause.Shape}

theorem exists_forall₂_hasShape (h : List.Forall₂ Covers texts parts)
    (hmem : ∀ y ∈ parts.flatten, y ∈ cur.tokens) :
    ∃ shapes, List.Forall₂ (ClauseText.HasShape cur) texts shapes ∧
      parts.map (List.map Token.kind) = shapes.map Clause.Shape.kinds := by
  induction h with
  | nil => exact ⟨[], .nil, rfl⟩
  | cons ht _ ih =>
    simp only [List.flatten_cons, List.mem_append, or_imp, forall_and] at hmem
    obtain ⟨x, hx, hkinds⟩ := ClauseText.exists_hasShape ht hmem.1
    obtain ⟨shapes, hshapes, hrest⟩ := ih hmem.2
    exact ⟨x :: shapes, .cons hx hshapes, by rw [List.map_cons, hkinds, hrest, List.map_cons]⟩

theorem exists_forall₂_covers (hfits : ∀ x ∈ shapes, x.Fits)
    (hkinds : parts.map (List.map Token.kind) = shapes.map Clause.Shape.kinds)
    (hmem : ∀ y ∈ parts.flatten, y ∈ cur.tokens) :
    ∃ texts, List.Forall₂ Covers texts parts ∧
      List.Forall₂ (ClauseText.HasShape cur) texts shapes := by
  induction shapes generalizing parts with
  | nil =>
    obtain rfl := List.map_eq_nil_iff.1 hkinds
    exact ⟨[], .nil, .nil⟩
  | cons x shapes ih =>
    obtain ⟨part, parts, rfl, hpart, hparts⟩ := List.map_eq_cons_iff.1 hkinds
    simp only [List.flatten_cons, List.mem_append, or_imp, forall_and] at hmem
    rw [List.forall_mem_cons] at hfits
    obtain ⟨t, ht, htx⟩ := ClauseText.exists_covers hfits.1 hpart hmem.1
    obtain ⟨texts, htexts, hshapes⟩ := ih hfits.2 hparts hmem.2
    exact ⟨t :: texts, .cons ht htexts, .cons htx hshapes⟩

/-- The tokens of a text which is read as a chain have the shapes of one. -/
theorem exists_shapes_of_read (h : read cur.tokens = .ok texts) :
    ∃ shapes, Clause.AreChain shapes ∧ List.Forall₂ (ClauseText.HasShape cur) texts shapes ∧
      cur.tokens.map Token.kind = shapes.flatMap Clause.Shape.kinds ++ [.eof] := by
  obtain ⟨init, htokens, hinit⟩ := cur.exists_tokens_eq
  obtain ⟨hfirst, parts, rest, hcovers, heq, hend⟩ := read_eq_ok_iff.1 h
  have hmem : ∀ y ∈ parts.flatten, y ∈ cur.tokens := fun y hy => by
    rw [heq]
    exact List.mem_append_left _ hy
  obtain ⟨shapes, hshapes, hkinds⟩ := exists_forall₂_hasShape hcovers hmem
  have hfits : ∀ x ∈ shapes, x.Fits := fun x hx => by
    obtain ⟨t, -, ht⟩ := exists_of_mem_right hshapes hx
    exact ht.fits
  have hflatten : parts.flatten.map Token.kind = shapes.flatMap Clause.Shape.kinds := by
    rw [List.map_flatten, hkinds, List.flatMap_def]
  -- The parts of clauses hold no end, and one follows them. So they are cut off at the first end.
  let inside (t : Token) : Bool := t.kind != .eof
  have hparts : ∀ y ∈ parts.flatten, inside y := by
    intro y hy
    have hk : y.kind ∈ shapes.flatMap Clause.Shape.kinds := hflatten ▸ List.mem_map_of_mem hy
    obtain ⟨x, hx, hk⟩ := List.mem_flatMap.1 hk
    simpa [inside] using (hfits x hx).ne_eof _ hk
  have hstops : Stops inside rest := by
    rcases rest with - | ⟨y, rest⟩
    · exact stops_nil
    · exact stops_cons.2 (by simpa [inside, atEnd] using hend)
  have hstops' : Stops inside [(cur.advance cur.rest []).endToken] :=
    stops_cons.2 (by simp [inside])
  have heq' : parts.flatten = init :=
    eq_of_append_of_stops hparts hstops (by simpa [inside] using hinit) hstops'
      (heq.symm.trans htokens)
  have hjoined := exists_cons_iff_of_forall₂ hshapes fun _ _ hx => hx.connector_eq_none_iff
  refine ⟨shapes, ⟨hfits, hjoined.1 hfirst⟩, hshapes, ?_⟩
  rw [htokens, ← heq', List.map_append, hflatten, List.map_singleton, Cursor.kind_endToken]

/-- A text whose tokens have the shapes of a chain is read as one. -/
theorem exists_read_of_areChain (h : Clause.AreChain shapes)
    (hkinds : cur.tokens.map Token.kind = shapes.flatMap Clause.Shape.kinds ++ [.eof]) :
    ∃ texts, read cur.tokens = .ok texts ∧
      List.Forall₂ (ClauseText.HasShape cur) texts shapes := by
  obtain ⟨init, htokens, -⟩ := cur.exists_tokens_eq
  rw [htokens, List.map_append, List.map_singleton, Cursor.kind_endToken, List.flatMap_def]
    at hkinds
  obtain ⟨parts, rfl, hparts⟩ := exists_map_eq_flatten (List.append_cancel_right hkinds)
  have hmem : ∀ y ∈ parts.flatten, y ∈ cur.tokens := fun y hy => by
    rw [htokens]
    exact List.mem_append_left _ hy
  obtain ⟨texts, hcovers, hshapes⟩ := exists_forall₂_covers h.fits hparts hmem
  refine ⟨texts, read_eq_ok_iff.2 ⟨?_, parts, [_], hcovers, htokens, ?_⟩, hshapes⟩
  · exact (exists_cons_iff_of_forall₂ hshapes fun _ _ hx => hx.connector_eq_none_iff).2 h.joined
  · simp [atEnd]

end Chain

end Interlock
