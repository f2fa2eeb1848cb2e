import ServiceContract.Decoder

/-!
# Trees and their first leaves

Compositions may be nested at will, and several leaves of a tree may accept one status. Look-up
takes the first of them, so a leaf that stands behind another for its status is never used, however
deep in the tree either stands. It follows that a tree is used in the order of its leaves alone,
however they are grouped. What is composed behind a tree changes nothing for the statuses that the
tree accepts, and what is composed in front of it decides on all that it accepts itself.

Main results:

* `DecoderTree.decoderFor?_eq_some_iff` — look-up gives a leaf exactly if it is the first to accept.
* `DecoderTree.decoderFor?_of_leaves`   — trees with the same leaves handle all statuses alike.
* `DecoderTree.tried_in_order`          — the same for any tree, alone and composed with others.
-/

namespace ServiceContract

/-- `leaf` accepts the status, and none of the leaves before it does. -/
def FirstToAccept (leaves : List StatusDecoder) (status : String) (leaf : StatusDecoder) : Prop :=
  leaf.status = status ∧
    ∃ before after, leaves = before ++ leaf :: after ∧ ∀ earlier ∈ before, earlier.status ≠ status

namespace DecoderTree

/-- Some leaf of the tree accepts the status. -/
def Accepts (tree : DecoderTree) (status : String) : Prop :=
  ∃ leaf ∈ tree.leaves, leaf.status = status

variable {a b : DecoderTree} {status : String}

/-! ## Look-up by leaves -/

/-- Look-up gives a leaf exactly if it is the first to accept the status. -/
theorem decoderFor?_eq_some_iff {leaf : StatusDecoder} :
    a.decoderFor? status = some leaf ↔ FirstToAccept a.leaves status leaf := by
  rw [decoderFor?_eq_find?, List.find?_eq_some_iff_append, FirstToAccept]
  simp only [decide_eq_true_eq, Bool.not_eq_true', decide_eq_false_iff_not]

/-- It gives none exactly if no leaf accepts the status. -/
theorem decoderFor?_eq_none_iff : a.decoderFor? status = none ↔ ¬ a.Accepts status := by
  rw [decoderFor?_eq_find?, List.find?_eq_none, Accepts]
  simp only [decide_eq_true_eq, not_exists, not_and]

theorem exists_decoderFor?_of_accepts (h : a.Accepts status) :
    ∃ leaf, a.decoderFor? status = some leaf :=
  Option.ne_none_iff_exists'.mp fun hnone => decoderFor?_eq_none_iff.mp hnone h

/-- Trees with the same leaves handle all statuses alike, however the leaves are grouped. -/
theorem decoderFor?_of_leaves (h : a.leaves = b.leaves) (status : String) :
    a.decoderFor? status = b.decoderFor? status := by
  rw [decoderFor?_eq_find?, decoderFor?_eq_find?, h]

/-! ## Compositions -/

/-- Grouping three trees either way leaves the order of their leaves. -/
theorem leaves_compose_assoc (a b c : DecoderTree) :
    (compose (compose a b) c).leaves = (compose a (compose b c)).leaves := by
  simp only [leaves, List.append_assoc]

/-- The first tree of a composition decides where it accepts the status. -/
theorem decoderFor?_compose_of_accepts (h : a.Accepts status) (b : DecoderTree) :
    (compose a b).decoderFor? status = a.decoderFor? status := by
  obtain ⟨leaf, hleaf⟩ := exists_decoderFor?_of_accepts h
  rw [decoderFor?_compose, hleaf, Option.some_or]

/-- Where it does not, the second decides, as if it were alone. -/
theorem decoderFor?_compose_of_not_accepts (h : ¬ a.Accepts status) (b : DecoderTree) :
    (compose a b).decoderFor? status = b.decoderFor? status := by
  rw [decoderFor?_compose, decoderFor?_eq_none_iff.mpr h, Option.none_or]

/-- How a tree handles statuses, alone and composed with other trees. -/
structure TriedInOrder (a : DecoderTree) : Prop where
  handled : ∀ status leaf, a.decoderFor? status = some leaf ↔ FirstToAccept a.leaves status leaf
  unhandled : ∀ status, a.decoderFor? status = none ↔ ¬ a.Accepts status
  /-- Three trees can be grouped either way. -/
  regrouped : ∀ b c, (compose (compose a b) c).leaves = (compose a (compose b c)).leaves ∧
    ∀ status, (compose (compose a b) c).decoderFor? status =
      (compose a (compose b c)).decoderFor? status
  /-- What is tried later changes nothing for the statuses that are accepted before. -/
  appended : ∀ b status, a.Accepts status →
    (compose a b).decoderFor? status = a.decoderFor? status
  /-- What is tried earlier makes a difference exactly where it accepts by another leaf. -/
  prepended : ∀ b status, (compose b a).decoderFor? status ≠ a.decoderFor? status ↔
    b.Accepts status ∧ b.decoderFor? status ≠ a.decoderFor? status

/-- Every tree handles a status by its first leaf for it, and composes accordingly. Several leaves
of a tree may accept one status, so nothing is asked of its statuses. How the tree is nested shows
in the order of its leaves and nowhere else. -/
theorem tried_in_order (a : DecoderTree) : a.TriedInOrder where
  handled _ _ := decoderFor?_eq_some_iff
  unhandled _ := decoderFor?_eq_none_iff
  regrouped b c := by
    have hleaves := leaves_compose_assoc a b c
    exact ⟨hleaves, decoderFor?_of_leaves hleaves⟩
  appended b _ haccepts := decoderFor?_compose_of_accepts haccepts b
  prepended b status := by
    by_cases haccepts : b.Accepts status
    · rw [decoderFor?_compose_of_accepts haccepts]
      exact (and_iff_right haccepts).symm
    · -- where `b` does not accept, the composition handles the status as `a` does
      rw [decoderFor?_compose_of_not_accepts haccepts]
      exact ⟨fun hne => absurd rfl hne, fun h => absurd h.1 haccepts⟩

/-- Of three leaves for one status the first is used, on whatever sides they are. -/
example :
    let order : DecoderTree := .single (.io "200" (.model "Order"))
    let caller : DecoderTree := .single (.io "200" .generic)
    let both : DecoderTree := .compose (.single (.basicError "404")) (.single (.constant "200" "t"))
    [compose order (compose both caller), compose both (compose order caller),
        compose (compose caller order) both].map (decoderFor? "200") =
      [some (.io "200" (.model "Order")), some (.constant "200" "t"), some (.io "200" .generic)] :=
  rfl

end DecoderTree

end ServiceContract
