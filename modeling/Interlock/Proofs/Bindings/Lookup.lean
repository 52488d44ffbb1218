import Interlock.Proofs.Action.Literal
import Mathlib.Data.Finset.Card

/-!
# Looking up what is bound

Bindings are a map. Of the actions which were bound to a name the last one counts, but the names
keep the order in which each was bound for the first time. A field of a bound action is found by the
name and the field, or by a key with a dot between the two, which comes to the same.

* `Bindings.names_bind`, `Bindings.action?_bind`: what one call does.
* `Bindings.IsMapOf`: what the bindings of a sequence of calls should be.
* `Bindings.LooksUpAlike`: how the two ways of looking up should agree.
* `Bindings.isMapOf_ofList`: the bindings of every sequence of calls are so.
-/

namespace Interlock.Bindings

open Text

variable {pairs : List (String × Action)} {n : String} {a : Action}

/-! ## Calls -/

theorem map_fst_bindIn (n : String) (a : Action) (es : List (String × Action)) :
    (bindIn n a es).map Prod.fst =
      if n ∈ es.map Prod.fst then es.map Prod.fst else es.map Prod.fst ++ [n] := by
  induction es with
  | nil => rfl
  | cons e es ih =>
    rw [bindIn]
    by_cases h : e.1 = n
    · simp [h]
    · simp only [if_neg h, List.map_cons, ih, List.mem_cons, or_iff_right (Ne.symm h)]
      split <;> rfl

/-- A name which is new comes last. -/
theorem names_bind (b : Bindings) (n : String) (a : Action) :
    (b.bind n a).names = if n ∈ b.names then b.names else b.names ++ [n] :=
  map_fst_bindIn n a b.entries

theorem ofList_concat (pairs : List (String × Action)) (n : String) (a : Action) :
    ofList (pairs ++ [(n, a)]) = (ofList pairs).bind n a := by
  rw [ofList, List.foldl_append]
  rfl

/-! ## Names -/

theorem mem_names_ofList : n ∈ (ofList pairs).names ↔ n ∈ pairs.map Prod.fst := by
  induction pairs using List.reverseRecOn with
  | nil => rfl
  | append_singleton pairs p ih =>
    rw [ofList_concat, names_bind, List.map_append, List.mem_append, ← ih, List.map_singleton,
      List.mem_singleton]
    split
    · next h =>
      constructor
      · exact .inl
      · rintro (hn | rfl)
        · exact hn
        · exact h
    · rw [List.mem_append, List.mem_singleton]

/-- The names stand in the order of their first calls. -/
theorem pairwise_names_ofList (pairs : List (String × Action)) :
    (ofList pairs).names.Pairwise fun m n =>
      (pairs.map Prod.fst).idxOf m < (pairs.map Prod.fst).idxOf n := by
  induction pairs using List.reverseRecOn with
  | nil => exact .nil
  | append_singleton pairs p ih =>
    rw [ofList_concat, names_bind, List.map_append, List.map_singleton]
    -- One more call is later than all others, so that it comes first for a new name alone.
    have hkeep {m : String} (hm : m ∈ (ofList pairs).names) :
        (pairs.map Prod.fst ++ [p.1]).idxOf m = (pairs.map Prod.fst).idxOf m :=
      List.idxOf_append_of_mem (mem_names_ofList.1 hm)
    have hold : (ofList pairs).names.Pairwise fun m n =>
        (pairs.map Prod.fst ++ [p.1]).idxOf m < (pairs.map Prod.fst ++ [p.1]).idxOf n :=
      ih.imp_of_mem fun hm hn hlt => by rwa [hkeep hm, hkeep hn]
    split
    · exact hold
    · next h =>
      refine List.pairwise_append.2 ⟨hold, List.pairwise_singleton _ _, fun m hm n hn => ?_⟩
      obtain rfl := List.mem_singleton.1 hn
      rw [hkeep hm, List.idxOf_append_of_notMem fun hmem => h (mem_names_ofList.2 hmem)]
      have := List.idxOf_lt_length_iff.2 (mem_names_ofList.1 hm)
      omega

theorem nodup_names_ofList (pairs : List (String × Action)) : (ofList pairs).names.Nodup :=
  (pairwise_names_ofList pairs).imp fun hlt heq => by
    subst heq
    exact Nat.lt_irrefl _ hlt

theorem size_ofList (pairs : List (String × Action)) :
    (ofList pairs).size = (pairs.map Prod.fst).toFinset.card := by
  have hnames : (ofList pairs).names.toFinset = (pairs.map Prod.fst).toFinset := by
    ext n
    rw [List.mem_toFinset, List.mem_toFinset, mem_names_ofList]
  have hsize : (ofList pairs).size = (ofList pairs).names.length := (List.length_map _).symm
  rw [hsize, ← List.toFinset_card_of_nodup (nodup_names_ofList pairs), hnames]

/-! ## Actions -/

/-- The search for the action of a name begins at the last call. -/
theorem action?_ofList (pairs : List (String × Action)) (n : String) :
    (ofList pairs).action? n = (pairs.reverse.find? fun p => p.1 == n).map Prod.snd := by
  induction pairs using List.reverseRecOn with
  | nil => rfl
  | append_singleton pairs p ih =>
    rw [ofList_concat, action?_bind, ih, List.reverse_append, List.reverse_singleton,
      List.singleton_append, List.find?_cons]
    by_cases h : n = p.1
    · simp [h]
    · rw [if_neg h, beq_false_of_ne (Ne.symm h)]

theorem action?_ofList_eq_some_iff : (ofList pairs).action? n = some a ↔
    ∃ before behind, pairs = before ++ (n, a) :: behind ∧ ∀ p ∈ behind, p.1 ≠ n := by
  rw [action?_ofList, Option.map_eq_some_iff]
  constructor
  · rintro ⟨⟨m, a⟩, hfind, rfl⟩
    obtain ⟨hm, behind, before, hpairs, hbehind⟩ := List.find?_eq_some_iff_append.1 hfind
    obtain rfl : m = n := by simpa using hm
    refine ⟨before.reverse, behind.reverse, ?_, fun p hp => ?_⟩
    · rw [← List.reverse_inj, hpairs]
      simp
    · simpa using hbehind p (List.mem_reverse.1 hp)
  · rintro ⟨before, behind, rfl, hbehind⟩
    have hfind : (before ++ (n, a) :: behind).reverse.find? (fun p => p.1 == n) = some (n, a) := by
      refine List.find?_eq_some_iff_append.2 ⟨by simp, behind.reverse, before.reverse, by simp, ?_⟩
      simpa using hbehind
    exact ⟨(n, a), hfind, rfl⟩

theorem action?_ofList_eq_none_iff :
    (ofList pairs).action? n = none ↔ ∀ p ∈ pairs, p.1 ≠ n := by
  simp [action?_ofList]

/-- What some calls, each of which binds a name to an action, should come to. -/
structure IsMapOf (pairs : List (String × Action)) (b : Bindings) : Prop where
  /-- No name is listed twice. -/
  nodup : b.names.Nodup
  /-- The names are those which were bound. -/
  mem_names : ∀ n, n ∈ b.names ↔ n ∈ pairs.map Prod.fst
  /-- A name stands behind those which were bound earlier for the first time. -/
  ordered : b.names.Pairwise fun m n =>
    (pairs.map Prod.fst).idxOf m < (pairs.map Prod.fst).idxOf n
  /-- The size is the number of different names. -/
  size_eq : b.size = (pairs.map Prod.fst).toFinset.card
  /-- The action of a name is the one which was bound to it last. -/
  action?_eq_some_iff : ∀ n a, b.action? n = some a ↔
    ∃ before behind, pairs = before ++ (n, a) :: behind ∧ ∀ p ∈ behind, p.1 ≠ n
  /-- A name has no action if it was never bound. -/
  action?_eq_none_iff : ∀ n, b.action? n = none ↔ ∀ p ∈ pairs, p.1 ≠ n

/-! ## Fields -/

/-- How a field is looked up by its name and by a key with a dot. -/
structure LooksUpAlike (b : Bindings) : Prop where
  /-- A field of a bound action has a value. -/
  resolve_of_some : ∀ n a f, b.action? n = some a → b.resolve n f = .ok (a.field f)
  /-- A name which is not bound makes an unknown key. -/
  resolve_of_none : ∀ n f, b.action? n = none →
    b.resolve n f = .error { cause := .unknownContextKey (n ++ "." ++ f.spelling) }
  /-- A name and any spelling of a field make a key of the field. -/
  get_of_spells : ∀ n f s, '.' ∉ n.toList → s ∈ f.spellings →
    b.get (n ++ "." ++ s) = b.resolve n f
  /-- What stands behind the first dot of a key is a spelling, or the key is unknown. -/
  get_of_not_spells : ∀ n s, '.' ∉ n.toList → (∀ f : Field, s ∉ f.spellings) →
    b.get (n ++ "." ++ s) = .error { cause := .unknownContextKey (n ++ "." ++ s) }
  /-- A key without a dot is unknown. -/
  get_of_notMem : ∀ key : String, '.' ∉ key.toList →
    b.get key = .error { cause := .unknownContextKey key }

/-- The name of a key ends at the first dot. -/
theorem get_dotted (b : Bindings) (hn : '.' ∉ n.toList) (s : String) :
    b.get (n ++ "." ++ s) = match Field.ofSpelling? s with
      | none => .error { cause := .unknownContextKey (n ++ "." ++ s) }
      | some f => b.resolve n f := by
  have hcut : cutWhere (· == '.') (n ++ "." ++ s).toList = some (n.toList, s.toList) := by
    rw [String.toList_append, String.toList_append, List.append_assoc]
    exact cutWhere_append hn s.toList
  rw [get, hcut]
  rcases hf : Field.ofSpelling? s with - | f <;> simp [hf]

theorem looksUpAlike (b : Bindings) : b.LooksUpAlike where
  resolve_of_some n a f h := by rw [resolve, h]
  resolve_of_none n f h := by rw [resolve, h]
  get_of_spells n f s hn hs := by rw [get_dotted b hn, Field.ofSpelling?_eq_some_iff.2 hs]
  get_of_not_spells n s hn hs := by
    have hnone : Field.ofSpelling? s = none :=
      Option.eq_none_iff_forall_ne_some.2 fun f hf => hs f (Field.ofSpelling?_eq_some_iff.1 hf)
    rw [get_dotted b hn, hnone]
  get_of_notMem key h := by rw [get, cutWhere_eq_none_iff.2 h]

/-- The bindings of a sequence of calls are a map, one more call changes what is bound to its name
    alone, and fields are found alike in both ways. -/
theorem isMapOf_ofList (pairs : List (String × Action)) :
    IsMapOf pairs (ofList pairs) ∧
      (∀ n a, (ofList pairs).bind n a = ofList (pairs ++ [(n, a)]) ∧
        ∀ m, m ≠ n → ((ofList pairs).bind n a).action? m = (ofList pairs).action? m ∧
          ∀ f, ((ofList pairs).bind n a).resolve m f = (ofList pairs).resolve m f) ∧
      (ofList pairs).LooksUpAlike := by
  refine ⟨{ nodup := nodup_names_ofList pairs, mem_names := fun n => mem_names_ofList,
            ordered := pairwise_names_ofList pairs, size_eq := size_ofList pairs,
            action?_eq_some_iff := fun n a => action?_ofList_eq_some_iff,
            action?_eq_none_iff := fun n => action?_ofList_eq_none_iff },
    fun n a => ⟨(ofList_concat pairs n a).symm, fun m hm => ?_⟩, looksUpAlike _⟩
  have haction : ((ofList pairs).bind n a).action? m = (ofList pairs).action? m := by
    rw [action?_bind, if_neg hm]
  exact ⟨haction, fun f => by rw [resolve, resolve, haction]⟩

/-- Three calls, the last of which binds the first name to another action. -/
def rebinding : List (String × Action) :=
  [("a", ⟨⟨1, 0⟩, ⟨1, 1⟩, 5, "Move", 0⟩), ("b", ⟨⟨4, 4⟩, ⟨4, 5⟩, 5, "Move", 1⟩),
    ("a", ⟨⟨2, 2⟩, ⟨2, 3⟩, 6, "Push", 0⟩)]

/-- The name which was bound again stays in front, and has the action of the last call. -/
theorem isMapOf_ofList_rebinding :
    (ofList rebinding).names = ["a", "b"] ∧ (ofList rebinding).size = 2 ∧
      (ofList rebinding).get "a.destination" = .ok (.vertex ⟨2, 3⟩) ∧
      ((ofList rebinding).bind "b" ⟨⟨0, 0⟩, ⟨0, 0⟩, 0, "NoOp", 0⟩).resolve "a" .time =
        .ok (.number 6) ∧
      (ofList rebinding).get "c.dest" = .error { cause := .unknownContextKey "c.dest" } ∧
      (ofList rebinding).get "a.dest.row" =
        .error { cause := .unknownContextKey "a.dest.row" } := by
  obtain ⟨hmap, hbind, hlookup⟩ := isMapOf_ofList rebinding
  have haction : (ofList rebinding).action? "a" = some ⟨⟨2, 2⟩, ⟨2, 3⟩, 6, "Push", 0⟩ :=
    (hmap.action?_eq_some_iff _ _).2 ⟨[_, _], [], rfl, by simp⟩
  have hnone : (ofList rebinding).action? "c" = none :=
    (hmap.action?_eq_none_iff _).2 (by decide)
  refine ⟨rfl, hmap.size_eq.trans (by decide), ?_, ?_, ?_, ?_⟩
  · have hget := hlookup.get_of_spells "a" .destination "destination" (by decide) (by decide)
    exact hget.trans (hlookup.resolve_of_some _ _ _ haction)
  · rw [((hbind "b" _).2 "a" (by decide)).2 .time]
    exact hlookup.resolve_of_some _ _ _ haction
  · have hget := hlookup.get_of_spells "c" .destination "dest" (by decide) (by decide)
    exact hget.trans (hlookup.resolve_of_none _ _ hnone)
  · exact hlookup.get_of_not_spells "a" "dest.row" (by decide) fun f => by cases f <;> decide

end Interlock.Bindings
