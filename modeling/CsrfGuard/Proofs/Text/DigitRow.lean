import CsrfGuard.Text.Numeral
import Mathlib.Data.List.TakeWhile
import Mathlib.Data.Nat.Digits.Defs

/-!
# Reading texts that consist of digits

A text may consist of digits and still be no number: a typographic digit ends it, and so do too
many digits. Of the texts that consist of digits in the wide sense exactly the *rows* are read,
which have decimal digits only and not too many of them, and a row is read as the number that it
stands for in base ten (`read_eq_ok_iff`).

Digits are neither blanks nor signs nor underscores. So nothing of such a text is taken off before
its digits are counted, and the leading digits end at the first typographic one.
-/

namespace CsrfGuard.Text

/-! ## Digits are no blanks -/

/-- The code points of the blank characters. -/
def blankCodes : List Nat :=
  [0x09, 0x0A, 0x0B, 0x0C, 0x0D, 0x1C, 0x1D, 0x1E, 0x1F, 0x20, 0x85, 0xA0, 0x1680, 0x2000, 0x2001,
    0x2002, 0x2003, 0x2004, 0x2005, 0x2006, 0x2007, 0x2008, 0x2009, 0x200A, 0x2028, 0x2029, 0x202F,
    0x205F, 0x3000]

theorem toNat_mem_blankCodes {c : Char} (hblank : isBlank c = true) : c.toNat ∈ blankCodes := by
  simp only [isBlank, Bool.or_eq_true, Bool.and_eq_true, decide_eq_true_eq, beq_iff_eq] at hblank
  simp only [blankCodes, List.mem_cons, List.not_mem_nil, or_false]
  omega

theorem isBlank_of_isDigit {c : Char} (hdigit : isDigit c = true) : isBlank c = false := by
  have hcodes : ∀ code ∈ blankCodes, isDigit (Char.ofNat code) = false := by decide +kernel
  by_contra hblank
  have hcode := hcodes _ (toNat_mem_blankCodes (Bool.of_not_eq_false hblank))
  rw [Char.ofNat_toNat, hdigit] at hcode
  cases hcode

namespace Numeral

theorem isPadding_of_isDigit {c : Char} (hdigit : isDigit c = true) : isPadding c = false := by
  rw [isPadding, isBlank_of_isDigit hdigit, Bool.false_and]

theorem dropWhileEnd_eq_self {drop : Char → Bool} {chars : List Char}
    (hkeep : ∀ c ∈ chars, drop c = false) : dropWhileEnd drop chars = chars := by
  have hback : chars.reverse.dropWhile drop = chars.reverse :=
    dropWhile_eq_self fun c hc => hkeep c (List.mem_reverse.mp (List.mem_of_mem_head? hc))
  rw [dropWhileEnd, hback, List.reverse_reverse]

/-! ## Rows of digits -/

def isDecimal (c : Char) : Bool := (digitValue? c).isSome

/-- The values of the decimal digits in a text. -/
def valuesOf (chars : List Char) : List Nat := chars.filterMap digitValue?

/-- Whether a text has decimal digits only, one at least and no more than are read. -/
def isRow (text : String) : Bool :=
  text ≠ "" && text.toList.all isDecimal && text.toList.length ≤ maxDigits

/-- The number that the decimal digits of a text stand for in base ten. -/
def rowValue (text : String) : Nat := Nat.ofDigits 10 (valuesOf text.toList).reverse

theorem isRow_iff {text : String} :
    isRow text = true ↔
      text ≠ "" ∧ (∀ c ∈ text.toList, isDecimal c = true) ∧ text.toList.length ≤ maxDigits := by
  simp only [isRow, Bool.and_eq_true, decide_eq_true_eq, List.all_eq_true, and_assoc]

theorem length_valuesOf {chars : List Char} (hall : ∀ c ∈ chars, isDecimal c = true) :
    (valuesOf chars).length = chars.length := by
  induction chars with
  | nil => rfl
  | cons c rest ih =>
      obtain ⟨value, hvalue⟩ := Option.isSome_iff_exists.mp (hall c List.mem_cons_self)
      have hrest := ih fun other hother => hall other (List.mem_cons_of_mem _ hother)
      rw [valuesOf, List.filterMap_cons_some hvalue, List.length_cons, List.length_cons]
      exact congrArg (· + 1) hrest

/-- Digit by digit from the left and all at once from the right comes to the same number. -/
theorem ofDigits_eq (digits : List Nat) : ofDigits digits = Nat.ofDigits 10 digits.reverse := by
  rw [Nat.ofDigits_eq_foldr, List.foldr_reverse, ofDigits]
  refine congrFun (congrFun (congrArg List.foldl (funext₂ fun number digit => ?_)) 0) digits
  simp only [Nat.cast_id]
  omega

theorem leadingDigits_eq {chars : List Char} (hline : '_' ∉ chars) :
    leadingDigits chars =
      some (valuesOf (chars.takeWhile isDecimal), chars.dropWhile isDecimal) := by
  induction chars with
  | nil => rfl
  | cons c rest ih =>
      rw [List.mem_cons, not_or] at hline
      cases hvalue : digitValue? c with
      | none =>
          have hother : ¬ isDecimal c = true := by simp [isDecimal, hvalue]
          rw [List.takeWhile_cons_of_neg hother, List.dropWhile_cons_of_neg hother]
          simp only [leadingDigits, hvalue, if_neg (Ne.symm hline.1)]
          rfl
      | some value =>
          have hdecimal : isDecimal c = true := by simp [isDecimal, hvalue]
          rw [List.takeWhile_cons_of_pos hdecimal, List.dropWhile_cons_of_pos hdecimal, valuesOf,
            List.filterMap_cons_some hvalue]
          simp only [leadingDigits, hvalue, ih hline.2]
          rfl

/-! ## What is read -/

/-- The ways in which a text can fail to be read. -/
theorem eq_of_read_error {text : String} {cause : GuardError} (hread : read text = .error cause) :
    cause = .notAnInteger text ∨ cause = .integerTooLong := by
  unfold read at hread
  dsimp only at hread
  split at hread
  · exact Or.inl (Except.error.inj hread).symm
  · split at hread
    · exact Or.inl (Except.error.inj hread).symm
    · split at hread
      · exact Or.inr (Except.error.inj hread).symm
      · split at hread
        · exact Or.inl (Except.error.inj hread).symm
        · cases hread

/-- Of a text that consists of digits nothing is taken off. -/
theorem takeSign_of_digits {chars : List Char} (hdigits : ∀ c ∈ chars, isDigit c = true) :
    takeSign (dropWhileEnd isPadding (chars.dropWhile isPadding)) = (false, chars) := by
  have hkeep : ∀ c ∈ chars, isPadding c = false := fun c hc => isPadding_of_isDigit (hdigits c hc)
  rw [dropWhile_eq_self fun c hc => hkeep c (List.mem_of_mem_head? hc), dropWhileEnd_eq_self hkeep]
  cases chars with
  | nil => rfl
  | cons c rest =>
      have hdigit := hdigits c List.mem_cons_self
      have hsigns : isDigit '-' = false ∧ isDigit '+' = false := by decide +kernel
      unfold takeSign
      split
      · next heq =>
          obtain ⟨rfl, -⟩ := List.cons.inj heq
          rw [hsigns.1] at hdigit
          cases hdigit
      · next heq =>
          obtain ⟨rfl, -⟩ := List.cons.inj heq
          rw [hsigns.2] at hdigit
          cases hdigit
      · rfl

/-- The steps of reading a text that consists of digits. -/
theorem read_of_digits {text : String} (hdigits : ∀ c ∈ text.toList, isDigit c = true) :
    read text =
      if (text.toList.head?.bind digitValue?).isNone then .error (.notAnInteger text)
      else if maxDigits < (valuesOf (text.toList.takeWhile isDecimal)).length then
        .error .integerTooLong
      else if text.toList.dropWhile isDecimal ≠ [] then .error (.notAnInteger text)
      else .ok (ofDigits (valuesOf (text.toList.takeWhile isDecimal))) := by
  have hline : '_' ∉ text.toList := fun hmem =>
    absurd (hdigits _ hmem) (by decide +kernel)
  unfold read
  rw [takeSign_of_digits hdigits]
  simp only [leadingDigits_eq hline]
  rfl

/-- Of the texts that consist of digits, exactly the rows are read. -/
theorem read_eq_ok_iff {text : String} (hne : text ≠ "")
    (hdigits : ∀ c ∈ text.toList, isDigit c = true) {number : Int} :
    read text = .ok number ↔ isRow text = true ∧ number = rowValue text := by
  rw [read_of_digits hdigits, isRow_iff]
  by_cases hall : ∀ c ∈ text.toList, isDecimal c = true
  · have hfront : text.toList.takeWhile isDecimal = text.toList :=
      List.takeWhile_eq_self_iff.mpr hall
    have hback : text.toList.dropWhile isDecimal = [] := List.dropWhile_eq_nil_iff.mpr hall
    have hhead : (text.toList.head?.bind digitValue?).isNone ≠ true := by
      cases hchars : text.toList with
      | nil => exact absurd (String.toList_eq_nil_iff.mp hchars) hne
      | cons c rest =>
          have hfirst := hall c (hchars ▸ List.mem_cons_self)
          simpa [isDecimal, Option.isSome_iff_ne_none] using hfirst
    rw [hfront, hback, if_neg hhead, length_valuesOf hall, ofDigits_eq]
    by_cases hlong : maxDigits < text.toList.length
    · rw [if_pos hlong]
      exact iff_of_false (by simp) fun hrow => hlong.not_ge hrow.1.2.2
    · rw [if_neg hlong, if_neg (not_not.mpr rfl), Except.ok.injEq, eq_comm]
      exact (and_iff_right ⟨hne, hall, Nat.le_of_not_lt hlong⟩).symm
  · -- A typographic digit is left over, whatever is wrong with the digits ahead of it.
    have hback : text.toList.dropWhile isDecimal ≠ [] := mt List.dropWhile_eq_nil_iff.mp hall
    refine iff_of_false ?_ fun hrow => hall hrow.1.2.1
    rw [if_pos hback]
    split_ifs <;> simp

end Numeral

end CsrfGuard.Text
