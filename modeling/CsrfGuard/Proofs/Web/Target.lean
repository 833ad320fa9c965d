import CsrfGuard.Link
import CsrfGuard.Proofs.Text.QueryReader
import CsrfGuard.Web.Address
import CsrfGuard.Web.Request

/-!
# Following a URL

Whoever is handed a URL of the same host can ask for it: the path and the query that it names become
those of a request. This file follows the URLs that are made of a plain path and of names and values
(`read?_written`). A nonce that is put on such a URL is one more value at the end
(`tag_written`), and sending the URL in a header leaves it as it is (`escapeReference_written`).
-/

namespace CsrfGuard.Web

open Text Text.Percent

/-- What a URL asks its own host for. -/
structure Target where
  path : String
  query : List (String × String)
  deriving Repr, DecidableEq

namespace Target

/-- Whether a URL that starts like this leads to a path on the same host: two slashes would be
followed by the name of another one. -/
def staysOnHost : List Char → Bool
  | '/' :: '/' :: _ => false
  | '/' :: _ => true
  | _ => false

/-- What a URL asks for; the anchor is for the client only. -/
def read? (url : String) : Option Target := do
  let (path, query) := cut '?' (cut '#' url.toList).1
  if staysOnHost path then
    let path ← Percent.read? path
    let query ← readQuery? query
    return ⟨path, query⟩
  else none

/-- The request that follows a URL by a method, with a form if the client has filled one in. -/
def request (target : Target) (host method : String) (form : List (String × String)) : Request where
  host
  sentMethod := method
  sentPath := target.path
  query := target.query
  form

/-- A value in the query of a URL is the value of its parameter, whatever is in the form. -/
theorem parameter?_request {target : Target} {name value : String}
    (hvalue : target.query.lookup name = some value) (host method : String)
    (form : List (String × String)) :
    (target.request host method form).parameter? name = some value := by
  simp only [Request.parameter?, request, hvalue]

/-! ## Written URLs -/

/-- A path and names with values, as a URL. -/
def written (path : List Char) (pairs : List (String × String)) : String :=
  String.ofList (Address.withQuery path (Percent.query queryMarks pairs))

/-- A path on the same host that can be written without escapes. -/
structure PlainPath (path : List Char) : Prop where
  staysOnHost : staysOnHost path = true
  plain : ∀ c ∈ path, c = '/' ∨ isUnreserved c = true

variable {path : List Char}

theorem PlainPath.not_mem (hpath : PlainPath path) {mark : Char} (hslash : mark ≠ '/')
    (hmark : isUnreserved mark = false) : mark ∉ path := by
  intro hmem
  rcases hpath.plain mark hmem with hsame | hunreserved
  · exact hslash hsame
  · rw [hmark] at hunreserved
    cases hunreserved

theorem query_eq_nil_iff {pairs : List (String × String)} :
    Percent.query queryMarks pairs = [] ↔ pairs = [] := by
  constructor
  · intro hquery
    have hread := readQuery?_query pairs
    rw [hquery] at hread
    exact (Option.some.inj hread).symm
  · rintro rfl
    rfl

theorem cut_written (hpath : PlainPath path) (pairs : List (String × String)) :
    cut '?' (written path pairs).toList = (path, Percent.query queryMarks pairs) := by
  have hmark : '?' ∉ path := hpath.not_mem (by decide) (by decide)
  rw [written, String.toList_ofList, Address.withQuery]
  split
  · next hquery => rw [hquery, cut_of_not_mem hmark]
  · exact cut_append_mark hmark _

/-- The marks between the parts of a written URL. -/
def urlMarks : List Char := ['/', '?', '&', '=']

theorem not_mem_written (hpath : PlainPath path) {mark : Char} (hmark : mark ∉ urlMarks)
    (hcomponent : isComponentChar mark = false) (pairs : List (String × String)) :
    mark ∉ (written path pairs).toList := by
  simp only [urlMarks, List.mem_cons, List.not_mem_nil, or_false, not_or] at hmark
  obtain ⟨hslash, hquestion, hampersand, hequals⟩ := hmark
  have hfront : mark ∉ path := hpath.not_mem hslash (Bool.or_eq_false_iff.mp hcomponent).1
  have hback : mark ∉ Percent.query queryMarks pairs := by
    intro hmem
    rcases mem_query hmem with hsame | hsame | hchar
    · exact hampersand hsame
    · exact hequals hsame
    · rw [hcomponent] at hchar
      cases hchar
  rw [written, String.toList_ofList, Address.withQuery]
  split
  · exact hfront
  · simp [hquestion, hfront, hback]

theorem written_ne_empty (hpath : PlainPath path) (pairs : List (String × String)) :
    written path pairs ≠ "" := by
  intro hempty
  have hchars : Address.withQuery path (Percent.query queryMarks pairs) = [] := by
    simpa [written] using congrArg String.toList hempty
  have hstays := hpath.staysOnHost
  unfold Address.withQuery at hchars
  split at hchars
  · rw [hchars] at hstays
    cases hstays
  · simp at hchars

theorem mark_mem_withQuery_iff (hpath : '?' ∉ path) (query : List Char) :
    '?' ∈ Address.withQuery path query ↔ query ≠ [] := by
  unfold Address.withQuery
  split
  · next hquery => simp [hpath, hquery]
  · next hquery => simp [hquery]

/-- A URL that was made of a path and of names and values asks for just these. -/
theorem read?_written (hpath : PlainPath path) (pairs : List (String × String)) :
    read? (written path pairs) = some ⟨String.ofList path, pairs⟩ := by
  have hanchor : '#' ∉ (written path pairs).toList :=
    not_mem_written hpath (by decide) (by decide) pairs
  have hpercent : '%' ∉ path := hpath.not_mem (by decide) (by decide)
  unfold read?
  rw [cut_of_not_mem hanchor, cut_written hpath]
  simp only [hpath.staysOnHost, read?_of_not_mem hpercent, readQuery?_query]
  rfl

/-! ## URLs with a nonce -/

theorem withQuery_of_ne_nil (path : List Char) {query : List Char} (hquery : query ≠ []) :
    Address.withQuery path query = path ++ '?' :: query := if_neg hquery

/-- A nonce on a URL is one more value at the end of its query. -/
theorem tag_written (hpath : PlainPath path) (pairs : List (String × String)) {param nonce : String}
    (hparam : ∀ c ∈ param.toList, isUnreserved c = true)
    (hnonce : ∀ c ∈ nonce.toList, isUnreserved c = true) (hne : nonce ≠ "") :
    Link.tag param (some nonce) (some (written path pairs)) =
      some (written path (pairs ++ [(param, nonce)])) := by
  have hmark : '?' ∉ path := hpath.not_mem (by decide) (by decide)
  have hpair : writtenPair (param, nonce) = Link.parameter param.toList nonce.toList := by
    rw [writtenPair, escapeQuery_of_unreserved hparam, escapeQuery_of_unreserved hnonce]
    rfl
  have hlonger : Percent.query queryMarks (pairs ++ [(param, nonce)]) ≠ [] := by
    simp [query_eq_nil_iff]
  have htagged : Address.withQuery path (Percent.query queryMarks (pairs ++ [(param, nonce)])) =
      (written path pairs).toList ++ (if '?' ∈ (written path pairs).toList then '&' else '?') ::
        Link.parameter param.toList nonce.toList := by
    rw [withQuery_of_ne_nil path hlonger, query_append_singleton, hpair, written,
      String.toList_ofList]
    simp only [mark_mem_withQuery_iff hmark, ne_eq, query_eq_nil_iff]
    -- The mark ahead of the nonce depends on whether there is a query already.
    rcases eq_or_ne pairs [] with rfl | hpairs
    · rfl
    · rw [withQuery_of_ne_nil path (mt query_eq_nil_iff.mp hpairs)]
      simp [hpairs]
  rw [Link.tag_eq_append param (written_ne_empty hpath pairs) hne, ← htagged]
  rfl

/-! ## URLs in headers -/

theorem escape_of_forall {allowed chars : List Char}
    (hall : ∀ c ∈ chars, (isUnreserved c || allowed.contains c) = true) :
    escape allowed chars = chars := by
  induction chars with
  | nil => rfl
  | cons c rest ih =>
      have hrest := ih fun other hother => hall other (List.mem_cons_of_mem _ hother)
      unfold escape at hrest ⊢
      rw [List.flatMap_cons, if_pos (hall c List.mem_cons_self), hrest]
      rfl

/-- What is sent in a header for a reference, by its cuts. -/
theorem escapeReference_eq (chars : List Char) :
    escapeReference chars =
      let reference := cut '#' (chars.filter (· ≠ '\t'))
      let parts := cut '?' reference.1
      escape ('%' :: pathMarks) parts.1 ++
        (if parts.2 = [] then [] else '?' :: escape ('%' :: '?' :: pathMarks) parts.2) ++
        (if reference.2 = [] then [] else '#' :: escape anchorMarks reference.2) := rfl

theorem escape_path (hpath : PlainPath path) : escape ('%' :: pathMarks) path = path := by
  refine escape_of_forall fun c hc => ?_
  rcases hpath.plain c hc with rfl | hunreserved
  · decide
  · rw [hunreserved, Bool.true_or]

theorem escape_query (pairs : List (String × String)) :
    escape ('%' :: '?' :: pathMarks) (Percent.query queryMarks pairs) =
      Percent.query queryMarks pairs := by
  have hmarks : componentMarks.all ('%' :: '?' :: pathMarks).contains = true := by decide
  refine escape_of_forall fun c hc => ?_
  rcases mem_query hc with rfl | rfl | hcomponent
  · decide
  · decide
  · rcases Bool.or_eq_true_iff.mp hcomponent with hunreserved | hmark
    · rw [hunreserved, Bool.true_or]
    · rw [List.all_eq_true.mp hmarks c (List.contains_iff_mem.mp hmark), Bool.or_true]

/-- A URL is sent in a header as it is. -/
theorem escapeReference_written (hpath : PlainPath path) (pairs : List (String × String)) :
    escapeReference (written path pairs).toList = (written path pairs).toList := by
  have htab : (written path pairs).toList.filter (· ≠ '\t') = (written path pairs).toList := by
    refine List.filter_eq_self.mpr fun c hc => decide_eq_true ?_
    rintro rfl
    exact not_mem_written hpath (by decide) (by decide) pairs hc
  have hanchor : cut '#' (written path pairs).toList = ((written path pairs).toList, []) :=
    cut_of_not_mem (not_mem_written hpath (by decide) (by decide) pairs)
  rw [escapeReference_eq, htab]
  simp only [hanchor, cut_written hpath, escape_path hpath, escape_query, if_true, List.append_nil]
  rw [written, String.toList_ofList, Address.withQuery]
  split <;> simp

end Target

/-! ## Addresses of pages -/

namespace Address

/-- Names and texts as the values of an address. -/
def texts (pairs : List (String × String)) : Values :=
  pairs.map fun pair => (pair.1, some (.text pair.2))

theorem value?_texts_eq_none {pairs : List (String × String)} {key : String}
    (hkey : ∀ pair ∈ pairs, pair.1 ≠ key) : value? (texts pairs) key = none := by
  have hlookup : (texts pairs).lookup key = none := by
    rw [List.lookup_eq_none_iff]
    intro entry hentry
    obtain ⟨pair, hpair, rfl⟩ := List.mem_map.mp hentry
    simpa using (hkey pair hpair).symm
  rw [value?, hlookup]
  rfl

theorem query_texts (pairs : List (String × String)) :
    query (texts pairs) = Percent.query queryMarks pairs := by
  have hpairs : (texts pairs).filterMap (fun entry => entry.2.map fun value =>
      (entry.1, value.written)) = pairs := by
    rw [texts, List.filterMap_map]
    exact List.filterMap_some
  rw [query, hpairs]

/-- The names that mean something else than a value in a query. -/
def reservedKeys : List String := endpointKey :: wholeKeys

/-- The address of a page is its path with the values as they are. -/
theorem build_of_page {endpoints : List Endpoint} {name path : String} {methods : List String}
    (hpage : endpoint? endpoints name = some ⟨name, .page path, methods⟩)
    (pairs : List (String × String)) (hkeys : ∀ pair ∈ pairs, pair.1 ∉ reservedKeys)
    (host : String) :
    build endpoints host name (texts pairs) = .ok (Target.written path.toList pairs) := by
  have hmissing : ∀ key ∈ reservedKeys, value? (texts pairs) key = none :=
    fun key hkey => value?_texts_eq_none fun pair hpair hsame => hkeys pair hpair (hsame ▸ hkey)
  have hanchor := hmissing anchorKey (by decide)
  have hmethod := hmissing methodKey (by decide)
  have hscheme := hmissing schemeKey (by decide)
  have hhost := hmissing hostKey (by decide)
  have hname : (texts pairs).any (·.1 = endpointKey) = false := by
    rw [List.any_eq_false]
    intro entry hentry
    obtain ⟨pair, hpair, rfl⟩ := List.mem_map.mp hentry
    have hother : pair.1 ≠ endpointKey :=
      fun hsame => hkeys pair hpair (hsame ▸ List.mem_cons_self)
    simpa using hother
  have hrest : (texts pairs).filter (fun entry => !wholeKeys.contains entry.1) = texts pairs := by
    rw [List.filter_eq_self]
    intro entry hentry
    obtain ⟨pair, hpair, rfl⟩ := List.mem_map.mp hentry
    have hother : pair.1 ∉ wholeKeys := mt (List.mem_cons_of_mem _) (hkeys pair hpair)
    simpa using hother
  have hnames : namesHost (texts pairs) = false := by
    simp only [namesHost, hhost, hscheme, Option.isSome_none]
  have hanswers : answersMethod (texts pairs) ⟨name, .page path, methods⟩ = true := by
    simp only [answersMethod, hmethod, Option.all_none]
  unfold build
  simp only [hname, hscheme, hnames, hrest, hpage, Option.filter, hanswers, hanchor]
  simp [ofPlace, query_texts, withAnchor, Target.written]

end Address

end CsrfGuard.Web
