/-!
# Blank characters and trimming

A character is blank when Unicode gives it the white-space bidirectional class or the category of a
space, line or paragraph separator. `trim` takes the blanks off both ends of a text and leaves those
inside it. The main statements are that a trimmed text neither starts nor ends with a blank
(`head?_trimmed`, `getLast?_trimmed`) and that a text which does neither is left as it is
(`trimmed_eq_self`).
-/

namespace CsrfGuard.Text

/-- The blank characters: the ASCII controls from tab to carriage return and the four information
separators, the space, and the wider separators of Unicode. Zero-width characters such as U+200B
are not blank. -/
def isBlank (c : Char) : Bool :=
  let code := c.toNat
  (0x09 ≤ code && code ≤ 0x0D) || (0x1C ≤ code && code ≤ 0x20) || code == 0x85 || code == 0xA0 ||
    code == 0x1680 || (0x2000 ≤ code && code ≤ 0x200A) || code == 0x2028 || code == 0x2029 ||
    code == 0x202F || code == 0x205F || code == 0x3000

/-- A list of characters without the `drop`-characters at its end. -/
def dropWhileEnd (drop : Char → Bool) (chars : List Char) : List Char :=
  (chars.reverse.dropWhile drop).reverse

/-- A list of characters without the blanks at either end. -/
def trimmed (chars : List Char) : List Char :=
  dropWhileEnd isBlank (chars.dropWhile isBlank)

/-- A text without the blanks at either end. -/
def trim (text : String) : String :=
  String.ofList (trimmed text.toList)

/-! ## What trimming leaves -/

theorem head?_dropWhile_not {drop : Char → Bool} (chars : List Char) {c : Char}
    (hhead : (chars.dropWhile drop).head? = some c) : drop c = false := by
  induction chars with
  | nil => simp at hhead
  | cons first rest ih =>
      by_cases hfirst : drop first = true
      · rw [List.dropWhile_cons_of_pos hfirst] at hhead
        exact ih hhead
      · rw [List.dropWhile_cons_of_neg hfirst] at hhead
        simp only [List.head?_cons, Option.some.injEq] at hhead
        subst hhead
        simpa using hfirst

theorem dropWhile_eq_self {drop : Char → Bool} {chars : List Char}
    (hhead : ∀ c, chars.head? = some c → drop c = false) : chars.dropWhile drop = chars := by
  cases chars with
  | nil => rfl
  | cons first rest =>
      have hfirst := hhead first rfl
      rw [List.dropWhile_cons_of_neg (by simp [hfirst])]

theorem getLast?_trimmed (chars : List Char) {c : Char}
    (hlast : (trimmed chars).getLast? = some c) : isBlank c = false := by
  rw [trimmed, dropWhileEnd, List.getLast?_reverse] at hlast
  exact head?_dropWhile_not _ hlast

/-- A text that neither starts nor ends with a blank is its own trimmed form. -/
theorem trimmed_eq_self {chars : List Char}
    (hhead : ∀ c, chars.head? = some c → isBlank c = false)
    (hlast : ∀ c, chars.getLast? = some c → isBlank c = false) : trimmed chars = chars := by
  have hback : chars.reverse.dropWhile isBlank = chars.reverse :=
    dropWhile_eq_self fun c hc => hlast c (by rwa [List.head?_reverse] at hc)
  rw [trimmed, dropWhile_eq_self hhead, dropWhileEnd, hback, List.reverse_reverse]

theorem head?_dropWhileEnd {drop : Char → Bool} {chars : List Char} {c : Char}
    (hhead : (dropWhileEnd drop chars).head? = some c) : chars.head? = some c := by
  obtain ⟨dropped, hdropped⟩ : ∃ dropped, chars = dropWhileEnd drop chars ++ dropped := by
    refine ⟨(chars.reverse.takeWhile drop).reverse, ?_⟩
    rw [dropWhileEnd, ← List.reverse_append, List.takeWhile_append_dropWhile,
      List.reverse_reverse]
  rw [hdropped, List.head?_append, hhead]
  rfl

theorem head?_trimmed (chars : List Char) {c : Char}
    (hhead : (trimmed chars).head? = some c) : isBlank c = false :=
  head?_dropWhile_not chars (head?_dropWhileEnd hhead)

end CsrfGuard.Text
