/-!
# The pieces between marks

`pieces mark text` cuts a text at every occurrence of a mark. There is always one piece more than
there are marks, and pieces may be empty. The main statement is that cutting turns a mark between
two texts into a border between two lists of pieces (`pieces_append_mark`).
-/

namespace CsrfGuard.Text

/-- The pieces of a text between the occurrences of a mark. -/
def pieces (mark : Char) : List Char → List (List Char)
  | [] => [[]]
  | c :: rest =>
      if c = mark then [] :: pieces mark rest
      else
        match pieces mark rest with
        | [] => [[c]]
        | first :: others => (c :: first) :: others

theorem pieces_ne_nil (mark : Char) (chars : List Char) : pieces mark chars ≠ [] := by
  cases chars with
  | nil => simp [pieces]
  | cons c rest =>
      rw [pieces]
      split
      · simp
      · split <;> simp

/-- A mark between two texts is a border between their pieces. -/
theorem pieces_append_mark (mark : Char) (left right : List Char) :
    pieces mark (left ++ mark :: right) = pieces mark left ++ pieces mark right := by
  induction left with
  | nil => simp [pieces]
  | cons c rest ih =>
      rw [List.cons_append, pieces, pieces, ih]
      split
      · rfl
      · cases hrest : pieces mark rest with
        | nil => exact absurd hrest (pieces_ne_nil mark rest)
        | cons first others => rfl

/-- A text without the mark is one piece. -/
theorem pieces_of_not_mem {mark : Char} {chars : List Char} (hmark : mark ∉ chars) :
    pieces mark chars = [chars] := by
  induction chars with
  | nil => rfl
  | cons c rest ih =>
      rw [List.mem_cons, not_or] at hmark
      rw [pieces, ih hmark.2, if_neg (Ne.symm hmark.1)]

theorem not_mem_of_mem_pieces {mark : Char} {chars piece : List Char}
    (hpiece : piece ∈ pieces mark chars) : mark ∉ piece := by
  induction chars generalizing piece with
  | nil =>
      rw [pieces, List.mem_singleton] at hpiece
      simp [hpiece]
  | cons c rest ih =>
      rw [pieces] at hpiece
      split at hpiece
      · rcases List.mem_cons.mp hpiece with rfl | hrest
        · simp
        · exact ih hrest
      · next hc =>
        cases hrest : pieces mark rest with
        | nil => exact absurd hrest (pieces_ne_nil mark rest)
        | cons first others =>
            rw [hrest] at hpiece
            rcases List.mem_cons.mp hpiece with rfl | hothers
            · have hfirst := ih (hrest ▸ List.mem_cons_self)
              simp [Ne.symm hc, hfirst]
            · exact ih (hrest ▸ List.mem_cons_of_mem _ hothers)

end CsrfGuard.Text
