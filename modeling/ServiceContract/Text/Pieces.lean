/-!
# Pieces of a text

`pieces` splits a text at a separator, which belongs to no piece.

## Results

* `pieces_ne_nil`      — there is always a piece.
* `length_pieces`      — there is one piece more than there are separators.
* `pieces_append_cons` — texts with a separator between them are split on their own.
* `pieces_eq_three_iff` — which texts have three pieces.
-/

namespace ServiceContract.Text

/-- The pieces of a text between the separators. -/
def pieces (separator : Char) : List Char → List (List Char)
  | [] => [[]]
  | c :: rest =>
    if c = separator then [] :: pieces separator rest
    else
      match pieces separator rest with
      | [] => [[c]]
      | piece :: later => (c :: piece) :: later

/-- There is always a piece. -/
theorem pieces_ne_nil (separator : Char) (s : List Char) : pieces separator s ≠ [] := by
  cases s with
  | nil => simp [pieces]
  | cons c rest =>
    unfold pieces
    split
    · simp
    · split <;> simp

/-- There is one piece more than there are separators. -/
theorem length_pieces (separator : Char) (s : List Char) :
    (pieces separator s).length = s.count separator + 1 := by
  induction s with
  | nil => rfl
  | cons c rest ih =>
    unfold pieces
    split
    · next h => simp [h, ih]
    · next h =>
      rw [List.count_cons_of_ne (by simpa using h), ← ih]
      split
      · next hnil => exact absurd hnil (pieces_ne_nil separator rest)
      · next hcons => simp [hcons]

/-- Texts with a separator between them are split on their own. -/
theorem pieces_append_cons (separator : Char) (a b : List Char) :
    pieces separator (a ++ separator :: b) = pieces separator a ++ pieces separator b := by
  induction a with
  | nil => simp [pieces]
  | cons c rest ih =>
    rw [List.cons_append, pieces, pieces, ih]
    split
    · rfl
    · cases h : pieces separator rest with
      | nil => exact absurd h (pieces_ne_nil separator rest)
      | cons piece later => rfl

/-- A separator belongs to no piece. -/
theorem separator_notMem {separator : Char} {s piece : List Char}
    (h : piece ∈ pieces separator s) : separator ∉ piece := by
  induction s generalizing piece with
  | nil =>
    rw [List.mem_singleton.mp h]
    exact List.not_mem_nil
  | cons c rest ih =>
    rw [pieces] at h
    split at h
    · rcases List.mem_cons.mp h with rfl | hrest
      · exact List.not_mem_nil
      · exact ih hrest
    · -- another character is put in front of the first piece
      next hc =>
      cases hpieces : pieces separator rest with
      | nil => exact absurd hpieces (pieces_ne_nil separator rest)
      | cons first later =>
        rw [hpieces] at h ih
        rcases List.mem_cons.mp h with rfl | hlater
        · have hfirst : separator ∉ first := ih List.mem_cons_self
          simp [hfirst, Ne.symm hc]
        · exact ih (List.mem_cons_of_mem _ hlater)

/-- A text without separators is one piece. -/
theorem pieces_of_notMem {separator : Char} {s : List Char} (h : separator ∉ s) :
    pieces separator s = [s] := by
  induction s with
  | nil => rfl
  | cons c rest ih =>
    rw [List.mem_cons, not_or] at h
    rw [pieces, if_neg (Ne.symm h.1), ih h.2]

/-- A text is its only piece exactly if it has no separator. -/
theorem pieces_eq_singleton_iff {separator : Char} {s piece : List Char} :
    pieces separator s = [piece] ↔ s = piece ∧ separator ∉ piece := by
  constructor
  · intro h
    -- there is one piece more than there are separators
    have hplain : separator ∉ s := by
      rw [← List.count_eq_zero]
      have hlength := length_pieces separator s
      rw [h, List.length_singleton] at hlength
      omega
    have hsame : s = piece := by
      rw [pieces_of_notMem hplain] at h
      exact List.singleton_inj.mp h
    exact ⟨hsame, hsame ▸ hplain⟩
  · rintro ⟨rfl, hplain⟩
    exact pieces_of_notMem hplain

/-- Texts without separators are the pieces of the text that joins them. -/
theorem pieces_intercalate {separator : Char} {segments : List (List Char)} (hne : segments ≠ [])
    (hplain : ∀ segment ∈ segments, separator ∉ segment) :
    pieces separator ([separator].intercalate segments) = segments := by
  induction segments with
  | nil => exact absurd rfl hne
  | cons segment rest ih =>
    obtain ⟨hsegment, hrest⟩ := List.forall_mem_cons.mp hplain
    cases rest with
    | nil =>
      rw [List.intercalate_singleton]
      exact pieces_of_notMem hsegment
    | cons next later =>
      have hlater := ih (List.cons_ne_nil _ _) hrest
      rw [List.intercalate_cons_cons, List.append_assoc, List.singleton_append,
        pieces_append_cons, pieces_of_notMem hsegment, hlater, List.singleton_append]

/-- The first piece ends at the first separator, and what follows is split on its own. -/
theorem pieces_eq_cons_iff {separator : Char} {s first : List Char} {rest : List (List Char)}
    (hrest : rest ≠ []) :
    pieces separator s = first :: rest ↔
      separator ∉ first ∧ ∃ t, s = first ++ separator :: t ∧ pieces separator t = rest := by
  constructor
  · intro h
    have hfirst : separator ∉ first := separator_notMem (h ▸ List.mem_cons_self)
    -- with no separator there would be one piece, and nothing left for the rest
    have hmem : separator ∈ s := by
      apply Classical.byContradiction
      intro hplain
      rw [pieces_of_notMem hplain, List.cons.injEq] at h
      exact hrest h.2.symm
    obtain ⟨before, t, rfl, hbefore⟩ := List.eq_append_cons_of_mem hmem
    rw [pieces_append_cons, pieces_of_notMem hbefore, List.singleton_append, List.cons.injEq] at h
    obtain ⟨rfl, htail⟩ := h
    exact ⟨hfirst, t, rfl, htail⟩
  · rintro ⟨hfirst, t, rfl, rfl⟩
    rw [pieces_append_cons, pieces_of_notMem hfirst, List.singleton_append]

/-- Three pieces are what stands before, between and after two separators. -/
theorem pieces_eq_three_iff {separator : Char} {s a b c : List Char} :
    pieces separator s = [a, b, c] ↔
      s = a ++ separator :: (b ++ separator :: c) ∧
        separator ∉ a ∧ separator ∉ b ∧ separator ∉ c := by
  rw [pieces_eq_cons_iff (List.cons_ne_nil _ _)]
  simp only [pieces_eq_cons_iff (List.cons_ne_nil _ _), pieces_eq_singleton_iff]
  constructor
  · rintro ⟨ha, t, rfl, hb, u, rfl, rfl, hc⟩
    exact ⟨rfl, ha, hb, hc⟩
  · rintro ⟨rfl, ha, hb, hc⟩
    exact ⟨ha, _, rfl, hb, _, rfl, rfl, hc⟩

end ServiceContract.Text
