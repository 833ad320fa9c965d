import CsrfGuard.Proofs.Text.Cut
import CsrfGuard.Text.Capital
import CsrfGuard.Text.Markup

/-!
# Reading links, forms and texts out of markup

Whoever gets a page sees its text only. A reader goes through the text once, is inside a tag from an
angle bracket to the next, takes the quoted attributes of the tag apart and puts the characters back
for which there are references. What the page shows is read in the same way, from the end of a tag
to the next one. Escaped text has no mark in it that the readers go by (`not_mem_escape`) and comes
back as it was (`unescape_escape`).
-/

namespace CsrfGuard.Text.Markup

/-! ## Readers -/

/-- The text that escaped text stands for: the five character references are replaced. -/
def unescape : List Char → List Char
  | '&' :: 'a' :: 'm' :: 'p' :: ';' :: rest => '&' :: unescape rest
  | '&' :: 'l' :: 't' :: ';' :: rest => '<' :: unescape rest
  | '&' :: 'g' :: 't' :: ';' :: rest => '>' :: unescape rest
  | '&' :: '#' :: '3' :: '9' :: ';' :: rest => '\'' :: unescape rest
  | '&' :: '#' :: '3' :: '4' :: ';' :: rest => '"' :: unescape rest
  | c :: rest => c :: unescape rest
  | [] => []

/-- The insides of the tags in a text. `inside` is what has been read of a tag that has begun. -/
def tags (inside : Option (List Char)) : List Char → List (List Char)
  | [] => []
  | c :: rest =>
      match inside with
      | none => tags (if c = '<' then some [] else none) rest
      | some read => if c = '>' then read :: tags none rest else tags (some (read ++ [c])) rest

/-- The attributes of a tag that was cut at its quotation marks: the last word ahead of a quoted
value is the name, an equals sign behind it. -/
def attributes : List (List Char) → List (String × String)
  | name :: value :: rest =>
      let lastWord := (pieces ' ' name).getLastD []
      (String.ofList (cut '=' lastWord).1, String.ofList (unescape value)) :: attributes rest
  | _ => []

def tagName (tag : List Char) : String := String.ofList (cut ' ' tag).1

/-- Where a tag leads to, and by which method: a link is read, a form is sent by the method that it
names. -/
def target? (tag : List Char) : Option (String × String) :=
  let values := attributes (pieces '"' tag)
  if tagName tag = "a" then (values.lookup "href").map fun url => ("GET", url)
  else if tagName tag = "form" then
    (values.lookup "action").map fun url =>
      (inCapitals ((values.lookup "method").getD "get"), url)
  else none

def targetsIn (chars : List Char) : List (String × String) := (tags none chars).filterMap target?

/-- Where the links and forms of a text lead to, and by which method. -/
def targets (text : String) : List (String × String) := targetsIn text.toList

/-- What is shown behind the tag that a piece starts with, if the tag has the name. -/
def shown? (name : String) (piece : List Char) : Option String :=
  if tagName (cut '>' piece).1 = name then some (String.ofList (unescape (cut '>' piece).2))
  else none

/-- What is shown behind the tags of a name. What stands ahead of the first tag is in none. -/
def textsIn (name : String) (chars : List Char) : List String :=
  (pieces '<' chars).tail.filterMap (shown? name)

/-- What a text shows behind each of its tags of a name, up to the next tag. -/
def texts (name text : String) : List String := textsIn name text.toList

/-! ## Escaped text -/

/-- The characters for which there are references. -/
def referenced : List Char := ['&', '<', '>', '\'', '"']

theorem escapeChar_of_not_mem {c : Char} (hplain : c ∉ referenced) : escapeChar c = [c] := by
  unfold escapeChar
  split
  all_goals first
    | rfl
    | exact absurd (by decide) hplain

theorem unescape_cons_of_ne {c : Char} (hampersand : c ≠ '&') (rest : List Char) :
    unescape (c :: rest) = c :: unescape rest := by
  rw [unescape] <;> exact fun _ hc => absurd hc hampersand

theorem unescape_escapeChar (c : Char) (rest : List Char) :
    unescape (escapeChar c ++ rest) = c :: unescape rest := by
  by_cases hreferenced : c ∈ referenced
  · simp only [referenced, List.mem_cons, List.not_mem_nil, or_false] at hreferenced
    rcases hreferenced with rfl | rfl | rfl | rfl | rfl <;> rfl
  · rw [escapeChar_of_not_mem hreferenced]
    refine unescape_cons_of_ne ?_ rest
    rintro rfl
    exact hreferenced (by decide)

theorem unescape_escape_append (text : String) (rest : List Char) :
    unescape ((escape text).toList ++ rest) = text.toList ++ unescape rest := by
  rw [escape, String.toList_ofList]
  induction text.toList with
  | nil => rfl
  | cons c others ih =>
      rw [List.flatMap_cons, List.append_assoc, unescape_escapeChar, ih, List.cons_append]

theorem unescape_escape (text : String) : unescape (escape text).toList = text.toList := by
  have hwhole := unescape_escape_append text []
  rwa [List.append_nil, unescape, List.append_nil] at hwhole

/-- Text without an ampersand stands for itself. -/
theorem unescape_append_of_not_mem {front : List Char} (hampersand : '&' ∉ front)
    (rest : List Char) : unescape (front ++ rest) = front ++ unescape rest := by
  induction front with
  | nil => rfl
  | cons c others ih =>
      rw [List.mem_cons, not_or] at hampersand
      rw [List.cons_append, unescape_cons_of_ne (Ne.symm hampersand.1), ih hampersand.2,
        List.cons_append]

/-- The marks between which a tag stands. -/
def brackets : List Char := ['<', '>']

/-- The marks that the readers go by. -/
def marks : List Char := brackets ++ ['"']

theorem not_mem_escapeChar {mark : Char} (hmark : mark ∈ marks) (c : Char) :
    mark ∉ escapeChar c := by
  by_cases hreferenced : c ∈ referenced
  · have hall : (referenced.all fun c => marks.all fun mark => mark ∉ escapeChar c) = true := by
      decide
    simp only [List.all_eq_true, decide_eq_true_eq] at hall
    exact hall c hreferenced mark hmark
  · have hsubset : marks ⊆ referenced := by simp [marks, brackets, referenced]
    rw [escapeChar_of_not_mem hreferenced, List.mem_singleton]
    rintro rfl
    exact hreferenced (hsubset hmark)

theorem not_mem_escape {mark : Char} (hmark : mark ∈ marks) (text : String) :
    mark ∉ (escape text).toList := by
  rw [escape, String.toList_ofList, List.mem_flatMap]
  rintro ⟨c, -, hmem⟩
  exact not_mem_escapeChar hmark c hmem

/-! ## Text around tags -/

/-- What has been read of a tag that begins in a text and does not end there. -/
def unfinished (inside : Option (List Char)) : List Char → Option (List Char)
  | [] => inside
  | c :: rest =>
      match inside with
      | none => unfinished (if c = '<' then some [] else none) rest
      | some read => unfinished (if c = '>' then none else some (read ++ [c])) rest

theorem tags_append (inside : Option (List Char)) (front back : List Char) :
    tags inside (front ++ back) = tags inside front ++ tags (unfinished inside front) back := by
  induction front generalizing inside with
  | nil => rfl
  | cons c rest ih =>
      cases inside with
      | none => exact ih _
      | some read =>
          simp only [List.cons_append, tags, unfinished]
          split
          · rw [ih none, List.cons_append]
          · exact ih _

theorem unfinished_append (inside : Option (List Char)) (front back : List Char) :
    unfinished inside (front ++ back) = unfinished (unfinished inside front) back := by
  induction front generalizing inside with
  | nil => rfl
  | cons c rest ih =>
      cases inside with
      | none => exact ih _
      | some read => exact ih _

/-- A tag is read to its end. -/
theorem tags_inside {tag : List Char} (htag : '>' ∉ tag) (read back : List Char) :
    tags (some read) (tag ++ '>' :: back) = (read ++ tag) :: tags none back := by
  induction tag generalizing read with
  | nil => rw [List.nil_append, List.append_nil, tags, if_pos rfl]
  | cons c rest ih =>
      rw [List.mem_cons, not_or] at htag
      simp only [List.cons_append, tags, if_neg (Ne.symm htag.1)]
      rw [ih htag.2, List.append_assoc]
      rfl

theorem targetsIn_tag {tag : List Char} (htag : '>' ∉ tag) {target : String × String}
    (htarget : target? tag = some target) (back : List Char) :
    targetsIn ('<' :: (tag ++ '>' :: back)) = target :: targetsIn back := by
  change (tags (some []) (tag ++ '>' :: back)).filterMap target? = _
  rw [tags_inside htag, List.nil_append, List.filterMap_cons_some htarget]
  rfl

/-- Whether a text has no links or forms in it and no part of a tag at its end. -/
def IsPlain (chars : List Char) : Prop := unfinished none chars = none ∧ targetsIn chars = []

instance (chars : List Char) : Decidable (IsPlain chars) := inferInstanceAs (Decidable (_ ∧ _))

theorem targetsIn_append {front : List Char} (hplain : IsPlain front) (back : List Char) :
    targetsIn (front ++ back) = targetsIn back := by
  unfold targetsIn
  rw [tags_append, hplain.1, List.filterMap_append]
  exact (congrArg (· ++ _) hplain.2).trans (List.nil_append _)

theorem IsPlain.append {front back : List Char} (hfront : IsPlain front) (hback : IsPlain back) :
    IsPlain (front ++ back) :=
  ⟨by rw [unfinished_append, hfront.1, hback.1], (targetsIn_append hfront back).trans hback.2⟩

theorem isPlain_of_not_mem {chars : List Char} (hchars : '<' ∉ chars) : IsPlain chars := by
  induction chars with
  | nil => exact ⟨rfl, rfl⟩
  | cons c rest ih =>
      rw [List.mem_cons, not_or] at hchars
      have hfirst : IsPlain [c] := by
        simp [IsPlain, targetsIn, tags, unfinished, Ne.symm hchars.1]
      exact hfirst.append (ih hchars.2)

/-! ## Tags with an escaped value -/

/-- The inside of a tag whose last attribute has an escaped value. -/
def quotedTag (front value : String) : List Char :=
  front.toList ++ '"' :: ((escape value).toList ++ ['"'])

theorem not_mem_quotedTag {front : String} (hfront : ∀ bracket ∈ brackets, bracket ∉ front.toList)
    (value : String) : ∀ bracket ∈ brackets, bracket ∉ quotedTag front value := by
  intro bracket hbracket
  have hvalue := not_mem_escape (List.mem_append_left ['"'] hbracket) value
  have hquote : bracket ≠ '"' := ne_of_mem_of_not_mem hbracket (by decide)
  simp [quotedTag, hfront bracket hbracket, hvalue, hquote]

/-- The escaped value is one piece of its tag. -/
theorem pieces_quotedTag (front value : String) :
    pieces '"' (quotedTag front value) =
      pieces '"' front.toList ++ [(escape value).toList, []] := by
  have hone := pieces_of_not_mem (not_mem_escape (show '"' ∈ marks by decide) value)
  rw [quotedTag, pieces_append_mark, pieces_append_mark, hone]
  rfl

/-! ## Texts behind tags -/

variable {name : String}

/-- A bracket that opens a tag ends what is shown behind the one before. -/
theorem textsIn_append_tag (front back : List Char) :
    textsIn name (front ++ '<' :: back) = textsIn name front ++ textsIn name ('<' :: back) := by
  unfold textsIn
  rw [pieces_append_mark, List.tail_append_of_ne_nil (pieces_ne_nil '<' front),
    List.filterMap_append]
  rfl

/-- Text ahead of all tags is shown behind none. -/
theorem textsIn_append_of_not_mem {front : List Char} (hfront : '<' ∉ front) (back : List Char) :
    textsIn name (front ++ back) = textsIn name back := by
  obtain ⟨first, others, hback⟩ := List.exists_cons_of_ne_nil (pieces_ne_nil '<' back)
  unfold textsIn
  rw [pieces_append_of_not_mem hfront hback, hback]
  rfl

section

variable {tag : List Char} (htag : ∀ bracket ∈ brackets, bracket ∉ tag)
include htag

/-- Behind a tag comes what stands ahead of all tags in the rest. -/
theorem textsIn_tag {back first : List Char} {others : List (List Char)}
    (hback : pieces '<' back = first :: others) :
    textsIn name ('<' :: (tag ++ '>' :: back)) =
      (if tagName tag = name then [String.ofList (unescape first)] else []) ++
        textsIn name back := by
  obtain ⟨hopen, hclose, -⟩ : '<' ∉ tag ∧ '>' ∉ tag ∧ _ := by
    simpa only [brackets, List.forall_mem_cons] using htag
  have hbehind : pieces '<' ('>' :: back) = ('>' :: first) :: others :=
    pieces_append_of_not_mem (show '<' ∉ ['>'] by decide) hback
  have hpieces : pieces '<' ('<' :: (tag ++ '>' :: back)) =
      [] :: (tag ++ '>' :: first) :: others := by
    rw [pieces, if_pos rfl, pieces_append_of_not_mem hopen hbehind]
  unfold textsIn
  rw [hpieces, hback, List.tail_cons, List.tail_cons]
  by_cases hname : tagName tag = name
  · have hshown : shown? name (tag ++ '>' :: first) = some (String.ofList (unescape first)) := by
      rw [shown?, cut_append_mark hclose, if_pos hname]
    rw [List.filterMap_cons_some hshown, if_pos hname, List.singleton_append]
  · have hshown : shown? name (tag ++ '>' :: first) = none := by
      rw [shown?, cut_append_mark hclose, if_neg hname]
    rw [List.filterMap_cons_none hshown, if_neg hname, List.nil_append]

theorem textsIn_tag_of_ne (hname : tagName tag ≠ name) (back : List Char) :
    textsIn name ('<' :: (tag ++ '>' :: back)) = textsIn name back := by
  obtain ⟨first, others, hback⟩ := List.exists_cons_of_ne_nil (pieces_ne_nil '<' back)
  rw [textsIn_tag htag hback, if_neg hname, List.nil_append]

/-- A tag of the name shows what stands behind it, up to the next tag. -/
theorem textsIn_tag_of_eq (hname : tagName tag = name) {shown : List Char} (hshown : '<' ∉ shown)
    (back : List Char) :
    textsIn name ('<' :: (tag ++ '>' :: (shown ++ '<' :: back))) =
      String.ofList (unescape shown) :: textsIn name ('<' :: back) := by
  have hback : pieces '<' (shown ++ '<' :: back) = shown :: pieces '<' back := by
    rw [pieces_append_mark, pieces_of_not_mem hshown, List.singleton_append]
  rw [textsIn_tag htag hback, if_pos hname, textsIn_append_of_not_mem hshown,
    List.singleton_append]

end

end CsrfGuard.Text.Markup
