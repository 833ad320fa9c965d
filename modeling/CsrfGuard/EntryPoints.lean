import CsrfGuard.Text.Blank
import CsrfGuard.Text.Pieces

/-!
# Entry points

An entry point is a path that may be asked for without a nonce, because it is where a visit starts.
A site lists its entry points as one text with commas between them or as a list of texts; blanks
around an entry do not count, and empty entries are dropped. Only membership in the outcome matters,
so the entries are kept in the order in which they were listed and shown sorted.
-/

namespace CsrfGuard

/-- The forms in which entry points may be listed. -/
inductive EntryListing where
  /-- One text with a comma between two entries. -/
  | text (entries : String)
  /-- One text for each entry; a comma is a character like any other. -/
  | list (entries : List String)
  deriving Repr, DecidableEq

/-- A set of paths, given by a list of its members. -/
structure EntryPoints where
  /-- The members, in no significant order and possibly listed more than once. -/
  paths : List String
  deriving Repr, DecidableEq

namespace EntryPoints

instance : Membership String EntryPoints where
  mem entryPoints path := path ∈ entryPoints.paths

instance (path : String) (entryPoints : EntryPoints) : Decidable (path ∈ entryPoints) :=
  inferInstanceAs (Decidable (path ∈ entryPoints.paths))

@[simp] theorem mem_mk {path : String} {paths : List String} :
    path ∈ (⟨paths⟩ : EntryPoints) ↔ path ∈ paths := Iff.rfl

/-- Entry by entry: blanks around it are taken off, and what is then empty is dropped. -/
def ofEntries (entries : List String) : EntryPoints :=
  ⟨(entries.map Text.trim).filter (· ≠ "")⟩

/-- The texts between the commas of a text. -/
def splitAtCommas (text : String) : List String :=
  (Text.pieces ',' text.toList).map String.ofList

def ofListing : EntryListing → EntryPoints
  | .text entries => ofEntries (splitAtCommas entries)
  | .list entries => ofEntries entries

/-- The entry points of a listing that may be missing; a missing one names none. -/
def ofListing? : Option EntryListing → EntryPoints
  | none => ⟨[]⟩
  | some listing => ofListing listing

/-- The members in ascending order of code points, each once. -/
def sorted (entryPoints : EntryPoints) : List String :=
  (entryPoints.paths.mergeSort fun left right => !decide (right < left)).eraseDups

/-! ## Membership -/

theorem mem_ofEntries {path : String} {entries : List String} :
    path ∈ ofEntries entries ↔ path ≠ "" ∧ ∃ entry ∈ entries, Text.trim entry = path := by
  simp only [ofEntries, mem_mk, List.mem_filter, List.mem_map, decide_eq_true_eq]
  exact And.comm

end EntryPoints

end CsrfGuard
