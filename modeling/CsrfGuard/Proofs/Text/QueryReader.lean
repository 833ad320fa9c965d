import CsrfGuard.Proofs.Text.Cut
import CsrfGuard.Text.Percent

/-!
# Reading what was percent-encoded

A URL that was handed out comes back, and whoever receives it reads it: percent-escapes stand for
bytes, the bytes for characters, and in a query a plus sign stands for a space. A query is cut at
its ampersands and each piece at its first equals sign. The main statement is that names and values
of any kind can be read back from the query they were written as (`readQuery?_query`).

## Strategy

Character by character, the bytes that are read are those that were written
(`bytes?_escapeQueryChar`), so that components come back. No mark that cuts a query occurs in a
written component, as there are only unreserved characters and `componentMarks` in it
(`mem_escapeQuery`), so that the cuts are where they were made.
-/

namespace CsrfGuard.Text.Percent

/-! ## Readers -/

/-- The bytes of a text: a percent sign starts an escape, which must be complete, and every other
character stands for itself. -/
def bytes? : List Char → Option (List UInt8)
  | [] => some []
  | '%' :: high :: low :: rest => do
      let highValue ← Hex.value? high
      let lowValue ← Hex.value? low
      let bytes ← bytes? rest
      return UInt8.ofNat (highValue * 16 + lowValue) :: bytes
  | '%' :: _ => none
  | c :: rest => (bytes? rest).map (String.utf8EncodeChar c ++ ·)

/-- The text that percent-encoded text stands for, if its bytes are those of a text. -/
def read? (chars : List Char) : Option String := do
  let bytes ← bytes? chars
  let decoded ← bytes.toByteArray.utf8Decode?
  return String.ofList decoded.toList

def spaceOfPlus (c : Char) : Char := if c = '+' then ' ' else c

/-- A name or value of a query. -/
def readComponent? (chars : List Char) : Option String := read? (chars.map spaceOfPlus)

/-- A piece of a query: a name and, behind the first equals sign, its value, which is empty if there
is no equals sign. -/
def readPair? (piece : List Char) : Option (String × String) := do
  let name ← readComponent? (cut '=' piece).1
  let value ← readComponent? (cut '=' piece).2
  return (name, value)

/-- The names and values in a query, in their order. Nothing between two ampersands is no pair. -/
def readQuery? (chars : List Char) : Option (List (String × String)) :=
  ((pieces '&' chars).filter (· ≠ [])).mapM readPair?

/-! ## Characters -/

theorem bytes?_cons_of_ne {c : Char} (hpercent : c ≠ '%') (rest : List Char) :
    bytes? (c :: rest) = (bytes? rest).map (String.utf8EncodeChar c ++ ·) := by
  rw [bytes?]
  · exact fun _ _ _ hc _ => hpercent hc
  · exact fun hc => hpercent hc

theorem bytes?_ofByte (byte : UInt8) (rest : List Char) :
    bytes? ('%' :: Hex.ofByte byte ++ rest) = (bytes? rest).map (byte :: ·) := by
  have hbyte : byte.toNat < 256 := UInt8.toNat_lt byte
  have hsum : byte.toNat / 16 * 16 + byte.toNat % 16 = byte.toNat := by omega
  simp only [Hex.ofByte, List.cons_append, List.nil_append]
  rw [bytes?, Hex.value?_upperDigit_of_lt (by omega), Hex.value?_upperDigit_of_lt (by omega)]
  simp only [Option.bind_eq_bind, Option.bind_some, hsum, UInt8.ofNat_toNat]
  cases bytes? rest <;> rfl

theorem bytes?_escapedBytes (bytes : List UInt8) (rest : List Char) :
    bytes? ((bytes.flatMap fun byte => '%' :: Hex.ofByte byte) ++ rest) =
      (bytes? rest).map (bytes ++ ·) := by
  induction bytes with
  | nil => simp
  | cons byte others ih =>
      rw [List.flatMap_cons, List.append_assoc, bytes?_ofByte, ih, Option.map_map]
      rfl

theorem isUnreserved_upperDigit : ∀ value : Fin 16, isUnreserved (Hex.upperDigit value) = true := by
  decide

/-- The characters besides the unreserved ones that a written name or value is made of. -/
def componentMarks : List Char := '%' :: '+' :: queryMarks

/-- Whether a character can stand in a written name or value. -/
def isComponentChar (c : Char) : Bool := isUnreserved c || componentMarks.contains c

theorem isUnreserved_of_mem_ofByte {byte : UInt8} {c : Char} (hc : c ∈ Hex.ofByte byte) :
    isUnreserved c = true := by
  have hbyte : byte.toNat < 256 := UInt8.toNat_lt byte
  simp only [Hex.ofByte, List.mem_cons, List.not_mem_nil, or_false] at hc
  rcases hc with rfl | rfl
  · exact isUnreserved_upperDigit ⟨byte.toNat / 16, by omega⟩
  · exact isUnreserved_upperDigit ⟨byte.toNat % 16, by omega⟩

theorem isUnreserved_of_mem_encode {bytes : List UInt8} {c : Char} (hc : c ∈ Hex.encode bytes) :
    isUnreserved c = true := by
  obtain ⟨byte, -, hbyte⟩ := List.mem_flatMap.mp hc
  exact isUnreserved_of_mem_ofByte hbyte

theorem mem_escapeChar {c written : Char} (hwritten : written ∈ escapeChar c) :
    written = '%' ∨ isUnreserved written = true := by
  obtain ⟨byte, -, hbyte⟩ := List.mem_flatMap.mp hwritten
  exact (List.mem_cons.mp hbyte).imp_right isUnreserved_of_mem_ofByte

/-- No space is read out of an escape: a plus sign that is meant is itself escaped. -/
theorem map_spaceOfPlus_escapeChar (c : Char) : (escapeChar c).map spaceOfPlus = escapeChar c := by
  have hkept : ∀ written ∈ escapeChar c, spaceOfPlus written = written := by
    intro written hwritten
    refine if_neg ?_
    rintro rfl
    rcases mem_escapeChar hwritten with hpercent | hunreserved
    · exact absurd hpercent (by decide)
    · exact absurd hunreserved (by decide)
  exact (List.map_congr_left hkept).trans (List.map_id _)

/-- What is written for a character in a name or value is one character for a space and for one that
may stand for itself, and an escape for every other. -/
theorem escapeQuery_singleton_cases (c : Char) :
    c = ' ' ∧ escapeQuery queryMarks [c] = ['+'] ∨
      (isUnreserved c = true ∨ c ∈ queryMarks) ∧ escapeQuery queryMarks [c] = [c] ∨
      escapeQuery queryMarks [c] = escapeChar c := by
  simp only [escapeQuery, escape, List.flatMap_singleton]
  by_cases hspace : c = ' '
  · exact Or.inl ⟨hspace, if_pos hspace⟩
  · rw [if_neg hspace]
    by_cases hplain : isUnreserved c || queryMarks.contains c
    · rw [if_pos hplain]
      exact Or.inr (Or.inl ⟨by simpa using hplain, rfl⟩)
    · exact Or.inr (Or.inr (if_neg hplain))

theorem escapeQuery_cons (allowed : List Char) (c : Char) (rest : List Char) :
    escapeQuery allowed (c :: rest) = escapeQuery allowed [c] ++ escapeQuery allowed rest := by
  simp [escapeQuery]

theorem bytes?_escapeQueryChar (c : Char) (rest : List Char) :
    bytes? ((escapeQuery queryMarks [c]).map spaceOfPlus ++ rest) =
      (bytes? rest).map (String.utf8EncodeChar c ++ ·) := by
  rcases escapeQuery_singleton_cases c with ⟨rfl, hwritten⟩ | ⟨hplain, hwritten⟩ | hwritten
  · rw [hwritten]
    exact bytes?_cons_of_ne (by decide) rest
  · -- What stands for itself is neither of the two characters that are read as something else.
    have hpercent : c ≠ '%' := by
      rintro rfl
      exact absurd hplain (by decide)
    have hplus : c ≠ '+' := by
      rintro rfl
      exact absurd hplain (by decide)
    rw [hwritten, List.map_singleton, spaceOfPlus, if_neg hplus]
    exact bytes?_cons_of_ne hpercent rest
  · rw [hwritten, map_spaceOfPlus_escapeChar]
    exact bytes?_escapedBytes _ rest

/-- The bytes of a text are read as that text. -/
theorem read?_of_bytes? {chars decoded : List Char}
    (hbytes : bytes? chars = some (decoded.flatMap String.utf8EncodeChar)) :
    read? chars = some (String.ofList decoded) := by
  unfold read?
  rw [hbytes]
  change (decoded.utf8Encode.utf8Decode?).bind _ = _
  rw [List.utf8Decode?_utf8Encode]
  rfl

/-- Text without a percent sign stands for itself. -/
theorem read?_of_not_mem {chars : List Char} (hpercent : '%' ∉ chars) :
    read? chars = some (String.ofList chars) := by
  have hbytes : bytes? chars = some (chars.flatMap String.utf8EncodeChar) := by
    induction chars with
    | nil => rfl
    | cons c rest ih =>
        rw [List.mem_cons, not_or] at hpercent
        rw [bytes?_cons_of_ne (Ne.symm hpercent.1), ih hpercent.2]
        rfl
  exact read?_of_bytes? hbytes

/-! ## Names and values -/

theorem bytes?_escapeQuery (chars : List Char) :
    bytes? ((escapeQuery queryMarks chars).map spaceOfPlus) =
      some (chars.flatMap String.utf8EncodeChar) := by
  induction chars with
  | nil => rfl
  | cons c rest ih =>
      rw [escapeQuery_cons, List.map_append, bytes?_escapeQueryChar, ih]
      rfl

theorem readComponent?_escapeQuery (text : String) :
    readComponent? (escapeQuery queryMarks text.toList) = some text := by
  unfold readComponent?
  rw [read?_of_bytes? (bytes?_escapeQuery text.toList), String.ofList_toList]

theorem mem_escapeQuery {chars : List Char} {c : Char}
    (hc : c ∈ escapeQuery queryMarks chars) : isComponentChar c = true := by
  induction chars with
  | nil => simp [escapeQuery] at hc
  | cons first rest ih =>
      rw [escapeQuery_cons, List.mem_append] at hc
      refine hc.elim (fun hfirst => ?_) ih
      unfold isComponentChar
      rcases escapeQuery_singleton_cases first with ⟨-, hwritten⟩ | ⟨hplain, hwritten⟩ | hwritten
      · rw [hwritten, List.mem_singleton] at hfirst
        subst hfirst
        decide
      · rw [hwritten, List.mem_singleton] at hfirst
        subst hfirst
        simpa [componentMarks] using hplain.imp_right fun hmark => Or.inr (Or.inr hmark)
      · rw [hwritten] at hfirst
        rcases mem_escapeChar hfirst with rfl | hunreserved
        · decide
        · rw [hunreserved, Bool.true_or]

/-- What is no character of a component does not occur in one. -/
theorem not_mem_escapeQuery {mark : Char} (hmark : isComponentChar mark = false)
    (chars : List Char) : mark ∉ escapeQuery queryMarks chars := by
  intro hmem
  rw [mem_escapeQuery hmem] at hmark
  cases hmark

theorem escapeQuery_of_unreserved {chars : List Char}
    (hunreserved : ∀ c ∈ chars, isUnreserved c = true) : escapeQuery queryMarks chars = chars := by
  induction chars with
  | nil => rfl
  | cons c rest ih =>
      have hspace : c ≠ ' ' := by
        rintro rfl
        exact absurd (hunreserved ' ' List.mem_cons_self) (by decide)
      have hfirst : escapeQuery queryMarks [c] = [c] := by
        simp [escapeQuery, escape, hspace, hunreserved c List.mem_cons_self]
      rw [escapeQuery_cons, hfirst, ih fun other hother =>
        hunreserved other (List.mem_cons_of_mem _ hother)]
      rfl

/-! ## Queries -/

/-- A name and its value as they stand in a query. -/
def writtenPair (pair : String × String) : List Char :=
  escapeQuery queryMarks pair.1.toList ++ '=' :: escapeQuery queryMarks pair.2.toList

theorem query_eq_intercalate (pairs : List (String × String)) :
    query queryMarks pairs = ['&'].intercalate (pairs.map writtenPair) := rfl

theorem readPair?_writtenPair (pair : String × String) :
    readPair? (writtenPair pair) = some pair := by
  unfold readPair? writtenPair
  rw [cut_append_mark (not_mem_escapeQuery (by decide) _)]
  simp only [readComponent?_escapeQuery]
  rfl

theorem mem_writtenPair {pair : String × String} {c : Char} (hc : c ∈ writtenPair pair) :
    c = '=' ∨ isComponentChar c = true := by
  rcases List.mem_append.mp hc with hname | hvalue
  · exact Or.inr (mem_escapeQuery hname)
  · exact (List.mem_cons.mp hvalue).imp_right mem_escapeQuery

theorem mem_query {pairs : List (String × String)} {c : Char} (hc : c ∈ query queryMarks pairs) :
    c = '&' ∨ c = '=' ∨ isComponentChar c = true := by
  rw [query_eq_intercalate] at hc
  induction pairs with
  | nil => cases hc
  | cons first rest ih =>
      cases rest with
      | nil =>
          rw [List.map_singleton, List.intercalate_singleton] at hc
          exact Or.inr (mem_writtenPair hc)
      | cons second others =>
          rw [List.map_cons, List.map_cons, List.intercalate_cons_cons, List.mem_append,
            List.mem_append, List.mem_singleton] at hc
          rcases hc with (hfirst | hmark) | hrest
          · exact Or.inr (mem_writtenPair hfirst)
          · exact Or.inl hmark
          · exact ih hrest

theorem mapM_readPair?_map_writtenPair (pairs : List (String × String)) :
    (pairs.map writtenPair).mapM readPair? = some pairs := by
  induction pairs with
  | nil => rfl
  | cons pair rest ih =>
      rw [List.map_cons, List.mapM_cons, readPair?_writtenPair, ih]
      rfl

/-- Names and values come back from the query they were written as. -/
theorem readQuery?_query (pairs : List (String × String)) :
    readQuery? (query queryMarks pairs) = some pairs := by
  rw [query_eq_intercalate]
  cases pairs with
  | nil => rfl
  | cons pair rest =>
      have hmark : ∀ part ∈ (pair :: rest).map writtenPair, '&' ∉ part := by
        intro part hpart hmem
        obtain ⟨written, -, rfl⟩ := List.mem_map.mp hpart
        rcases mem_writtenPair hmem with hequals | hcomponent
        · exact absurd hequals (by decide)
        · exact absurd hcomponent (by decide)
      have hkept : ∀ part ∈ (pair :: rest).map writtenPair, decide (part ≠ []) = true := by
        intro part hpart
        obtain ⟨written, -, rfl⟩ := List.mem_map.mp hpart
        simp [writtenPair]
      unfold readQuery?
      rw [pieces_intercalate (by simp) hmark, List.filter_eq_self.mpr hkept]
      exact mapM_readPair?_map_writtenPair (pair :: rest)

example : readQuery? "amount=1+2&b%3D=%26&".toList = some [("amount", "1 2"), ("b=", "&")] := by
  decide +kernel

/-- One more name and value go to the end of a query, behind an ampersand if they are not the
first. -/
theorem query_append_singleton (pairs : List (String × String)) (pair : String × String) :
    query queryMarks (pairs ++ [pair]) =
      query queryMarks pairs ++ (if pairs = [] then [] else ['&']) ++ writtenPair pair := by
  simp only [query_eq_intercalate, List.map_append, List.map_singleton]
  rcases eq_or_ne pairs [] with rfl | hpairs
  · simp
  · rw [intercalate_append (by simpa using hpairs) (by simp), if_neg hpairs,
      List.intercalate_singleton, List.append_assoc, List.singleton_append]

end CsrfGuard.Text.Percent
