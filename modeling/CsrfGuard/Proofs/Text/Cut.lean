import CsrfGuard.Text.Pieces
import Mathlib.Data.List.TakeWhile

/-!
# Cuts in written text

Text that was put together with marks between its parts comes apart again at these marks, as long as
the marks do not occur in the parts: at the first mark (`cut_append_mark`) or at all of them
(`pieces_intercalate`).
-/

namespace CsrfGuard.Text

/-- What stands before the first occurrence of a mark, and what stands behind it. -/
def cut (mark : Char) (chars : List Char) : List Char × List Char :=
  (chars.takeWhile (· ≠ mark), (chars.dropWhile (· ≠ mark)).drop 1)

theorem cut_of_not_mem {mark : Char} {chars : List Char} (hmark : mark ∉ chars) :
    cut mark chars = (chars, []) := by
  have hall : ∀ c ∈ chars, decide (c ≠ mark) = true :=
    fun c hc => decide_eq_true (ne_of_mem_of_not_mem hc hmark)
  rw [cut, List.takeWhile_eq_self_iff.mpr hall, List.dropWhile_eq_nil_iff.mpr hall]
  rfl

theorem cut_append_mark {mark : Char} {front : List Char} (hmark : mark ∉ front)
    (back : List Char) : cut mark (front ++ mark :: back) = (front, back) := by
  have hall : ∀ c ∈ front, decide (c ≠ mark) = true :=
    fun c hc => decide_eq_true (ne_of_mem_of_not_mem hc hmark)
  rw [cut, List.takeWhile_append_of_pos hall, List.dropWhile_append_of_pos hall]
  simp

/-- Behind its first mark a text may grow: the cut is where it was. -/
theorem cut_append_of_mem {mark : Char} {chars : List Char} (hmark : mark ∈ chars)
    (more : List Char) :
    cut mark (chars ++ more) = ((cut mark chars).1, (cut mark chars).2 ++ more) := by
  obtain ⟨front, back, rfl, hfront⟩ := List.eq_append_cons_of_mem hmark
  rw [List.append_assoc, List.cons_append, cut_append_mark hfront, cut_append_mark hfront]

/-- Text without the mark ahead of another becomes part of the first piece of that. -/
theorem pieces_append_of_not_mem {mark : Char} {front : List Char} (hmark : mark ∉ front)
    {back first : List Char} {others : List (List Char)}
    (hback : pieces mark back = first :: others) :
    pieces mark (front ++ back) = (front ++ first) :: others := by
  induction front with
  | nil => exact hback
  | cons c rest ih =>
      rw [List.mem_cons, not_or] at hmark
      rw [List.cons_append, pieces, if_neg (Ne.symm hmark.1), ih hmark.2]
      rfl

/-- Two rows of texts with marks between them, one after the other, have a mark between them too. -/
theorem intercalate_append {mark : Char} {front back : List (List Char)} (hfront : front ≠ [])
    (hback : back ≠ []) :
    [mark].intercalate (front ++ back) =
      [mark].intercalate front ++ mark :: [mark].intercalate back := by
  induction front with
  | nil => exact absurd rfl hfront
  | cons first rest ih =>
      cases rest with
      | nil =>
          obtain ⟨next, others, rfl⟩ := List.exists_cons_of_ne_nil hback
          rw [List.singleton_append, List.intercalate_cons_cons, List.intercalate_singleton,
            List.append_assoc, List.singleton_append]
      | cons second others =>
          rw [List.cons_append, List.cons_append, List.intercalate_cons_cons,
            List.intercalate_cons_cons, ← List.cons_append, ih (by simp)]
          simp only [List.append_assoc]

/-- Texts that were put together with marks between them come apart at these marks. -/
theorem pieces_intercalate {mark : Char} {parts : List (List Char)} (hparts : parts ≠ [])
    (hmark : ∀ part ∈ parts, mark ∉ part) : pieces mark ([mark].intercalate parts) = parts := by
  induction parts with
  | nil => exact absurd rfl hparts
  | cons first rest ih =>
      have hfirst : mark ∉ first := hmark first List.mem_cons_self
      cases rest with
      | nil => rw [List.intercalate_singleton, pieces_of_not_mem hfirst]
      | cons second others =>
          rw [List.intercalate_cons_cons, List.append_assoc, List.singleton_append,
            pieces_append_mark, pieces_of_not_mem hfirst,
            ih (by simp) fun part hpart => hmark part (List.mem_cons_of_mem _ hpart)]
          rfl

end CsrfGuard.Text
