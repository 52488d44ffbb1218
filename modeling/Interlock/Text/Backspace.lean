import Interlock.Text.Cluster
import Interlock.Text.Offset

/-!
# Backspaces in a text

A backspace in a text that was read takes back the cluster before it, and that cluster alone: what
follows is not joined anew. The size of each cluster is kept in a byte, so that of a cluster of 256
bytes or more only the rest by 256 is taken back.

* `erase?`: a text with its backspaces carried out, unless one of them would cut a character.
* `erase?_of_not_mem`: a text without backspaces stays as it is.
-/

namespace Interlock.Text

/-- The character which takes back what stands before it. -/
def backspace : Char := '\x08'

/-- What is left of some clusters behind a kept text, which is given backwards with the sizes of its
    clusters. -/
def eraseFrom? (kept : List Char) (sizes : List UInt8) : List (List Char) → Option (List Char)
  | [] => some kept.reverse
  | cluster :: rest =>
    if cluster = [backspace] then
      match sizes with
      | [] => eraseFrom? kept [] rest
      | size :: sizes =>
        match splitAtByte size.toNat kept with
        | none => none
        | some (_, kept) => eraseFrom? kept sizes rest
    else eraseFrom? (cluster.reverse ++ kept) (UInt8.ofNat (byteSize cluster) :: sizes) rest

/-- A text with its backspaces carried out; none if one of them would cut a character. -/
def erase? (s : List Char) : Option (List Char) := eraseFrom? [] [] (clusters s)

theorem eraseFrom?_of_not_mem {kept : List Char} {sizes : List UInt8} {ls : List (List Char)}
    (h : [backspace] ∉ ls) : eraseFrom? kept sizes ls = some (kept.reverse ++ ls.flatten) := by
  induction ls generalizing kept sizes with
  | nil => simp [eraseFrom?]
  | cons l ls ih =>
    rw [List.mem_cons, not_or] at h
    simp [eraseFrom?, Ne.symm h.1, ih h.2]

theorem erase?_of_not_mem {s : List Char} (h : backspace ∉ s) : erase? s = some s := by
  have hc : [backspace] ∉ clusters s := fun hm =>
    h (flatten_clusters s ▸ List.mem_flatten.2 ⟨_, hm, List.mem_singleton_self _⟩)
  rw [erase?, eraseFrom?_of_not_mem hc, flatten_clusters]
  rfl

end Interlock.Text
