import CsrfGuard.EntryPoints
import CsrfGuard.Proofs.Text.Cut
import Mathlib.Data.Finset.Basic
import Mathlib.Data.Finset.Dedup

/-!
# The paths that a listing names

Entry points are listed as one text with commas between them or as a list of texts, and what comes
of a listing is a set of paths. The set is what one would read off the listing (`namedPaths_laws`):
a comma joins two listings, the two forms mean the same, blanks and empty fields do not count, and
what was listed in whatever order comes out again.

## Strategy

Reading a text has two parts, the cut at the commas and the trimming of what is between them. The
cut is undone by joining (`splitsAtCommas_iff`), and blanks that were put around a field are what
the trimming takes off (`trim_written`).
-/

namespace CsrfGuard

namespace Text

/-! ## Blanks around a text -/

/-- Whether a text neither starts nor ends with a blank. -/
structure IsTrimmed (text : String) : Prop where
  head : ∀ c ∈ text.toList.head?, isBlank c = false
  last : ∀ c ∈ text.toList.getLast?, isBlank c = false

instance (text : String) : Decidable (IsTrimmed text) :=
  decidable_of_iff
    (text.toList.head?.all (!isBlank ·) = true ∧ text.toList.getLast?.all (!isBlank ·) = true) <| by
    simp only [Option.all_eq_true, Bool.not_eq_true']
    exact ⟨fun both => ⟨both.1, both.2⟩, fun trimmed => ⟨trimmed.head, trimmed.last⟩⟩

theorem isTrimmed_trim (text : String) : IsTrimmed (trim text) where
  head c hc := head?_trimmed text.toList (by rwa [trim, String.toList_ofList] at hc)
  last c hc := getLast?_trimmed text.toList (by rwa [trim, String.toList_ofList] at hc)

theorem IsTrimmed.trim_eq {text : String} (trimmed : IsTrimmed text) : trim text = text := by
  rw [trim, trimmed_eq_self trimmed.head trimmed.last, String.ofList_toList]

theorem dropWhileEnd_append_of_pos {drop : Char → Bool} {front back : List Char}
    (hback : ∀ c ∈ back, drop c = true) :
    dropWhileEnd drop (front ++ back) = dropWhileEnd drop front := by
  rw [dropWhileEnd, dropWhileEnd, List.reverse_append,
    List.dropWhile_append_of_pos fun c hc => hback c (List.mem_reverse.mp hc)]

/-- Blanks around a text make no difference to what trimming leaves of it. -/
theorem trimmed_append_blanks {before after : List Char} (hbefore : ∀ c ∈ before, isBlank c = true)
    (hafter : ∀ c ∈ after, isBlank c = true) (chars : List Char) :
    trimmed (before ++ chars ++ after) = trimmed chars := by
  rw [trimmed, List.append_assoc, List.dropWhile_append_of_pos hbefore, List.dropWhile_append]
  split
  · -- Nothing but blanks: they go from the front, all of them.
    next hempty =>
      rw [List.isEmpty_iff] at hempty
      rw [List.dropWhile_eq_nil_iff.mpr hafter, trimmed, hempty]
  · rw [dropWhileEnd_append_of_pos hafter, trimmed]

/-! ## Cuts at all marks -/

theorem pieces_eq_splitOn (mark : Char) (chars : List Char) :
    pieces mark chars = chars.splitOn mark := by
  rw [List.splitOn_eq_splitOnP]
  induction chars with
  | nil => rfl
  | cons c rest ih =>
      rw [pieces, ih, List.splitOnP_cons_eq_if_modifyHead]
      by_cases hc : c = mark
      · rw [if_pos hc, if_pos (beq_iff_eq.mpr hc)]
      · rw [if_neg hc, if_neg (mt beq_iff_eq.mp hc)]
        cases hrest : List.splitOnP (· == mark) rest with
        | nil => exact absurd (ih.trans hrest) (pieces_ne_nil mark rest)
        | cons first others => rfl

end Text

open Text (IsTrimmed isBlank)

/-- The paths that a listing names. -/
def namedPaths (listing : Option EntryListing) : Finset String :=
  (EntryPoints.ofListing? listing).paths.toFinset

/-- The parts of a text between its commas: texts without a comma, which joined by commas make up
the text. -/
structure SplitsAtCommas (text : String) (parts : List String) : Prop where
  ne_nil : parts ≠ []
  not_mem : ∀ part ∈ parts, ',' ∉ part.toList
  joined : ",".intercalate parts = text

/-- A field of a listing that is one text: a path, or nothing, with blanks around it. -/
structure Field where
  before : List Char
  /-- The path, empty if the field is left blank. -/
  path : String
  after : List Char
  blank_before : ∀ c ∈ before, isBlank c = true
  blank_after : ∀ c ∈ after, isBlank c = true

namespace Field

def written (field : Field) : String :=
  String.ofList (field.before ++ field.path.toList ++ field.after)

/-- The paths in a row of fields. -/
def paths (fields : List Field) : Finset String := (fields.map path).toFinset.erase ""

end Field

namespace EntryPoints

/-! ## Membership -/

theorem mem_namedPaths_list {path : String} {entries : List String} :
    path ∈ namedPaths (some (.list entries)) ↔
      path ≠ "" ∧ ∃ entry ∈ entries, Text.trim entry = path :=
  List.mem_toFinset.trans mem_ofEntries

theorem mem_namedPaths_text {path text : String} :
    path ∈ namedPaths (some (.text text)) ↔
      path ≠ "" ∧ ∃ entry ∈ splitAtCommas text, Text.trim entry = path :=
  List.mem_toFinset.trans mem_ofEntries

/-- What a listing names is never empty and has no blanks at its ends. -/
theorem isTrimmed_of_mem_namedPaths {listing : Option EntryListing} {path : String}
    (hpath : path ∈ namedPaths listing) : path ≠ "" ∧ IsTrimmed path := by
  have hentries : ∀ entries : List String, path ∈ namedPaths (some (.list entries)) →
      path ≠ "" ∧ IsTrimmed path := by
    intro entries hmem
    obtain ⟨hne, entry, -, rfl⟩ := mem_namedPaths_list.mp hmem
    exact ⟨hne, Text.isTrimmed_trim entry⟩
  cases listing with
  | none => exact absurd hpath (Finset.notMem_empty path)
  | some listing =>
      cases listing with
      | text text => exact hentries (splitAtCommas text) hpath
      | list entries => exact hentries entries hpath

/-- Paths that are as trimming leaves them are named as they are. -/
theorem namedPaths_list_of_isTrimmed {entries : List String}
    (hentries : ∀ entry ∈ entries, entry ≠ "" ∧ IsTrimmed entry) :
    namedPaths (some (.list entries)) = entries.toFinset := by
  ext path
  rw [mem_namedPaths_list, List.mem_toFinset]
  constructor
  · rintro ⟨-, entry, hentry, rfl⟩
    rwa [(hentries entry hentry).2.trim_eq]
  · intro hpath
    obtain ⟨hne, trimmed⟩ := hentries path hpath
    exact ⟨hne, path, hpath, trimmed.trim_eq⟩

/-! ## Commas -/

theorem splitAtCommas_append_comma (front back : String) :
    splitAtCommas (front ++ "," ++ back) = splitAtCommas front ++ splitAtCommas back := by
  have hchars : (front ++ "," ++ back).toList = front.toList ++ ',' :: back.toList := by simp
  rw [splitAtCommas, hchars, Text.pieces_append_mark, List.map_append]
  rfl

/-- A text is cut at its commas in just one way. -/
theorem splitsAtCommas_iff {text : String} {parts : List String} :
    SplitsAtCommas text parts ↔ parts = splitAtCommas text := by
  constructor
  · rintro ⟨hne, hcomma, rfl⟩
    have hchars : (",".intercalate parts).toList = [','].intercalate (parts.map String.toList) :=
      String.toList_intercalate
    have hback : (parts.map String.toList).map String.ofList = parts := by simp
    rw [splitAtCommas, hchars, Text.pieces_intercalate (by simpa using hne), hback]
    intro part hpart
    obtain ⟨entry, hentry, rfl⟩ := List.mem_map.mp hpart
    exact hcomma entry hentry
  · rintro rfl
    refine ⟨?_, ?_, ?_⟩
    · exact fun hnil => Text.pieces_ne_nil ',' text.toList (List.map_eq_nil_iff.mp hnil)
    · intro part hpart
      obtain ⟨piece, hpiece, rfl⟩ := List.mem_map.mp hpart
      rw [String.toList_ofList]
      exact Text.not_mem_of_mem_pieces hpiece
    · have hback : (splitAtCommas text).map String.toList = text.toList.splitOn ',' := by
        simp [splitAtCommas, Text.pieces_eq_splitOn]
      apply String.toList_inj.mp
      rw [String.toList_intercalate, hback]
      exact List.intercalate_splitOn ','

/-! ## Fields -/

/-- Blanks around a path are taken off again. -/
theorem trim_written {field : Field} (trimmed : IsTrimmed field.path) :
    Text.trim field.written = field.path := by
  rw [Text.trim, Field.written, String.toList_ofList,
    Text.trimmed_append_blanks field.blank_before field.blank_after, ← Text.trim, trimmed.trim_eq]

/-- A comma is no blank, so that a field has one only if its path has. -/
theorem not_mem_written {field : Field} (hpath : ',' ∉ field.path.toList) :
    ',' ∉ field.written.toList := by
  have hcomma : isBlank ',' = false := by decide
  have hblanks : ∀ chars : List Char, (∀ c ∈ chars, isBlank c = true) → ',' ∉ chars := by
    intro chars hblank hmem
    rw [hblank ',' hmem] at hcomma
    cases hcomma
  rw [Field.written, String.toList_ofList, List.mem_append, List.mem_append]
  rintro ((hbefore | hinside) | hafter)
  · exact hblanks _ field.blank_before hbefore
  · exact hpath hinside
  · exact hblanks _ field.blank_after hafter

/-- Fields joined by commas name the paths in them. -/
theorem namedPaths_fields {fields : List Field}
    (hfields : ∀ field ∈ fields, ',' ∉ field.path.toList ∧ IsTrimmed field.path) :
    namedPaths (some (.text (",".intercalate (fields.map Field.written)))) =
      Field.paths fields := by
  ext path
  rw [mem_namedPaths_text, Field.paths, Finset.mem_erase, List.mem_toFinset, List.mem_map]
  refine and_congr_right fun hne => ?_
  -- No fields at all make up the empty text, which has one field, a blank one.
  rcases eq_or_ne fields [] with rfl | hnonempty
  · have hempty : splitAtCommas (",".intercalate (([] : List Field).map Field.written)) = [""] := by
      decide
    rw [hempty]
    simp only [List.mem_singleton, exists_eq_left, List.not_mem_nil, false_and, exists_false,
      iff_false]
    exact hne.symm
  · have hsplit : SplitsAtCommas (",".intercalate (fields.map Field.written))
        (fields.map Field.written) := by
      refine ⟨by simpa using hnonempty, fun part hpart => ?_, rfl⟩
      obtain ⟨field, hfield, rfl⟩ := List.mem_map.mp hpart
      exact not_mem_written (hfields field hfield).1
    rw [← splitsAtCommas_iff.mp hsplit]
    simp only [List.mem_map, exists_exists_and_eq_and]
    refine exists_congr fun field => and_congr_right fun hfield => ?_
    rw [trim_written (hfields field hfield).2]

/-! ## The laws of listings -/

/-- A comma between two texts joins what they name. A text names what the list of its parts names.
Nothing that is named is empty or has blanks around it, and the named paths, listed in any order,
name themselves. Any set of paths is named by its members, in any order, with any blanks around them
and any blank fields between them. -/
theorem namedPaths_laws :
    (∀ front back : String, namedPaths (some (.text (front ++ "," ++ back))) =
      namedPaths (some (.text front)) ∪ namedPaths (some (.text back))) ∧
    (∀ text : String, (∃! parts, SplitsAtCommas text parts) ∧
      ∀ parts, SplitsAtCommas text parts →
        namedPaths (some (.text text)) = namedPaths (some (.list parts))) ∧
    (∀ listing : Option EntryListing,
      (∀ path ∈ namedPaths listing, path ≠ "" ∧ IsTrimmed path) ∧
      ∀ entries : List String, entries.toFinset = namedPaths listing →
        namedPaths (some (.list entries)) = namedPaths listing) ∧
    ∀ paths : Finset String,
      (∀ path ∈ paths, path ≠ "" ∧ ',' ∉ path.toList ∧ IsTrimmed path) →
      ∀ fields : List Field, Field.paths fields = paths →
        namedPaths (some (.text (",".intercalate (fields.map Field.written)))) = paths := by
  refine ⟨fun front back => ?_, fun text => ⟨?_, ?_⟩, fun listing => ⟨?_, ?_⟩, ?_⟩
  · ext path
    rw [Finset.mem_union, mem_namedPaths_text, mem_namedPaths_text, mem_namedPaths_text,
      splitAtCommas_append_comma]
    simp only [List.mem_append, or_and_right, exists_or, and_or_left]
  · exact ⟨splitAtCommas text, splitsAtCommas_iff.mpr rfl, fun _ => splitsAtCommas_iff.mp⟩
  · intro parts hparts
    rw [splitsAtCommas_iff.mp hparts]
    rfl
  · exact fun path hpath => isTrimmed_of_mem_namedPaths hpath
  · intro entries hentries
    rw [← hentries]
    refine namedPaths_list_of_isTrimmed fun entry hentry => ?_
    exact isTrimmed_of_mem_namedPaths (hentries ▸ List.mem_toFinset.mpr hentry)
  · rintro paths hpaths fields rfl
    refine namedPaths_fields fun field hfield => ?_
    -- A field that is left blank has the empty text for a path.
    rcases eq_or_ne field.path "" with hempty | hne
    · rw [hempty]
      decide
    · have hlisted : field.path ∈ Field.paths fields :=
        Finset.mem_erase.mpr ⟨hne, List.mem_toFinset.mpr (List.mem_map.mpr ⟨field, hfield, rfl⟩)⟩
      exact (hpaths field.path hlisted).2

/-- Two paths among blanks, one of them an ideographic space, and blank fields. -/
def spacedFields : List Field :=
  [⟨[' '], "/health", ['\t'], List.forall_mem_singleton.mpr rfl, List.forall_mem_singleton.mpr rfl⟩,
    ⟨[], "", [], List.forall_mem_nil _, List.forall_mem_nil _⟩,
    ⟨[], "/", [], List.forall_mem_nil _, List.forall_mem_nil _⟩,
    ⟨['\u3000'], "", [' '], List.forall_mem_singleton.mpr rfl, List.forall_mem_singleton.mpr rfl⟩]

theorem namedPaths_laws_spaced :
    ",".intercalate (spacedFields.map Field.written) = " /health\t,,/,\u3000 " ∧
      namedPaths (some (.text (",".intercalate (spacedFields.map Field.written)))) =
        {"/", "/health"} ∧
      namedPaths (some (.list ["/health", "/"])) =
        namedPaths (some (.text (",".intercalate (spacedFields.map Field.written)))) := by
  obtain ⟨-, -, hagain, hfields⟩ := namedPaths_laws
  have hnamed := hfields {"/", "/health"} (by decide) spacedFields (by decide)
  exact ⟨by decide, hnamed, (hagain _).2 ["/health", "/"] (by rw [hnamed]; decide)⟩

end EntryPoints

end CsrfGuard
