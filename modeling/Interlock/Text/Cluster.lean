import Interlock.Text.ClusterBreak

/-!
# Clusters

A text is cut into clusters, each of which a reader takes for one character. Two neighbours are kept
together by their classes alone, but for three cases: halves of flags go in pairs, a pictograph
follows a joiner only behind another pictograph, and a consonant joins a conjunct only behind a
consonant that a linker follows.

* `joinsCluster`: a character belongs to the cluster which ends before it.
* `clusters`: the clusters of a text. `flatten_clusters`: nothing is lost;
  `ne_nil_of_mem_clusters`: no cluster is empty.
* `splitFirstCluster`, `splitLastCluster`: a text in two, of which one is a cluster at its end.
-/

namespace Interlock.Text

/-- A text, given backwards, ends in a consonant behind which stand extenders, one of them a
    linker. -/
def endsInLinked (before : List Char) : Bool :=
  (before.takeWhile isConjunctExtender).any isLinker &&
    match before.dropWhile isConjunctExtender with
    | [] => false
    | c :: _ => ClusterBreak.ofChar c == .consonant

/-- A text, given backwards, ends in a pictograph behind which stand extenders only. -/
def endsInPictograph (before : List Char) : Bool :=
  match before.dropWhile (ClusterBreak.ofChar · == .extender) with
  | [] => false
  | c :: _ => ClusterBreak.ofChar c == .pictograph

/-- A text, given backwards, ends in the first half of a flag. -/
def endsInHalfFlag (before : List Char) : Bool :=
  (before.takeWhile (ClusterBreak.ofChar · == .regional)).length % 2 == 1

/-- A character belongs to the cluster which ends before it. The text before it is given
    backwards. -/
def joinsCluster (before : List Char) (c : Char) : Bool :=
  match before with
  | [] => false
  | last :: earlier =>
    match ClusterBreak.ofChar last, ClusterBreak.ofChar c with
    | .carriageReturn, .lineFeed => true
    | .carriageReturn, _ | .lineFeed, _ | .control, _ => false
    | _, .carriageReturn | _, .lineFeed | _, .control => false
    | .hangulLead, .hangulLead | .hangulLead, .hangulVowel => true
    | .hangulLead, .hangulOpen | .hangulLead, .hangulClosed => true
    | .hangulOpen, .hangulVowel | .hangulOpen, .hangulTail => true
    | .hangulVowel, .hangulVowel | .hangulVowel, .hangulTail => true
    | .hangulClosed, .hangulTail | .hangulTail, .hangulTail => true
    | _, .extender | _, .joiner | _, .spacing => true
    | .leading, _ => true
    | _, .consonant => endsInLinked before
    | .joiner, .pictograph => endsInPictograph earlier
    | .regional, .regional => endsInHalfFlag before
    | _, _ => false

/-- The clusters of a text which stands behind another one, given backwards. The first of them is
    cut off from that text. -/
def clustersFrom (before : List Char) : List Char → List (List Char)
  | [] => []
  | c :: cs =>
    match clustersFrom (c :: before) cs with
    | (d :: l) :: ls =>
      if joinsCluster (c :: before) d then (c :: d :: l) :: ls else [c] :: (d :: l) :: ls
    | ls => [c] :: ls

/-- The clusters of a text. -/
def clusters (s : List Char) : List (List Char) := clustersFrom [] s

theorem flatten_clustersFrom (before s : List Char) : (clustersFrom before s).flatten = s := by
  induction s generalizing before with
  | nil => rfl
  | cons c cs ih =>
    have h := ih (c :: before)
    rw [clustersFrom]
    split
    · next d l ls hl =>
      rw [hl] at h
      split <;> simpa using h
    · simpa using h

theorem flatten_clusters (s : List Char) : (clusters s).flatten = s := flatten_clustersFrom [] s

theorem ne_nil_of_mem_clustersFrom {before s l : List Char} (h : l ∈ clustersFrom before s) :
    l ≠ [] := by
  induction s generalizing before l with
  | nil => simp [clustersFrom] at h
  | cons c cs ih =>
    rw [clustersFrom] at h
    split at h
    · next d k ls hl =>
      have hls : ∀ x ∈ ls, x ≠ [] := fun x hx => ih (hl ▸ List.mem_cons_of_mem _ hx)
      split at h
      · rcases List.mem_cons.1 h with rfl | h
        · simp
        · exact hls l h
      · rcases List.mem_cons.1 h with rfl | h
        · simp
        · rcases List.mem_cons.1 h with rfl | h
          · simp
          · exact hls l h
    · rcases List.mem_cons.1 h with rfl | h
      · simp
      · exact ih h

theorem ne_nil_of_mem_clusters {s l : List Char} (h : l ∈ clusters s) : l ≠ [] :=
  ne_nil_of_mem_clustersFrom h

/-- The first cluster of a text, and what stands behind it. -/
def splitFirstCluster (s : List Char) : List Char × List Char :=
  match clusters s with
  | [] => ([], [])
  | l :: ls => (l, ls.flatten)

/-- What stands before the last cluster of a text, and that cluster. -/
def splitLastCluster (s : List Char) : List Char × List Char :=
  ((clusters s).dropLast.flatten, ((clusters s).getLast?).getD [])

theorem splitFirstCluster_append (s : List Char) :
    (splitFirstCluster s).1 ++ (splitFirstCluster s).2 = s := by
  have h := flatten_clusters s
  rw [splitFirstCluster]
  split
  · next hc => simpa [hc] using h
  · next l ls hc => simpa [hc] using h

theorem splitLastCluster_append (s : List Char) :
    (splitLastCluster s).1 ++ (splitLastCluster s).2 = s := by
  have h := flatten_clusters s
  rcases List.eq_nil_or_concat (clusters s) with hc | ⟨ls, l, hc⟩
  · simpa [splitLastCluster, hc] using h
  · simpa [splitLastCluster, hc] using h

end Interlock.Text
