/-!
# Links and the nonce on them

A link is a path, an anchor and a query. The query starts at the first question mark, and an anchor
is only looked for ahead of it, so that an anchor mark inside the query belongs to the query. A
nonce is put on a link as one more parameter at the end of the query; path and anchor stay as they
are. The main statements are that taking a link apart loses nothing (`render_parse`) and that a
parameter goes to the end of the written link (`render_addParameter`, `tag_eq_append`).
-/

namespace CsrfGuard

/-- A link taken apart at its marks. -/
structure Link where
  /-- What stands before the first mark. -/
  path : List Char
  /-- From an anchor mark ahead of the query on, the mark included; empty without such a mark. -/
  anchor : List Char
  /-- What stands behind the first question mark, if there is one. -/
  query : Option (List Char)
  deriving Repr, DecidableEq

namespace Link

def parse (chars : List Char) : Link :=
  let head := chars.takeWhile (· ≠ '?')
  { path := head.takeWhile (· ≠ '#')
    anchor := head.dropWhile (· ≠ '#')
    query := (chars.dropWhile (· ≠ '?')).tail? }

def render (link : Link) : List Char :=
  link.path ++ link.anchor ++
    match link.query with
    | none => []
    | some query => '?' :: query

/-- A parameter as it stands in a query. Neither name nor value is escaped. -/
def parameter (name value : List Char) : List Char :=
  name ++ '=' :: value

/-- The link with one more parameter at the end of its query, behind an ampersand if there is a
query already, be it empty. -/
def addParameter (link : Link) (name value : List Char) : Link :=
  { link with
    query := some <|
      match link.query with
      | none => parameter name value
      | some query => query ++ '&' :: parameter name value }

/-- The name under which a parameter is written on links. A parameter without a name is written
`None`. -/
def paramText (param : Option String) : String := param.getD "None"

/-- A URL with a nonce on it. A missing or empty URL stays as it is, and so does every URL when
there is no nonce or an empty one. -/
def tag (param : String) (nonce url : Option String) : Option String :=
  match url, nonce with
  | some url, some nonce =>
      if url = "" ∨ nonce = "" then some url
      else
        some (String.ofList ((parse url.toList).addParameter param.toList nonce.toList).render)
  | url, _ => url

/-! ## Nothing is lost -/

theorem dropWhile_ne_eq_cons {mark : Char} {chars : List Char} {first : Char} {rest : List Char}
    (hrest : chars.dropWhile (· ≠ mark) = first :: rest) : first = mark := by
  induction chars with
  | nil => simp at hrest
  | cons c others ih =>
      by_cases hc : c = mark
      · rw [List.dropWhile_cons_of_neg (by simp [hc])] at hrest
        exact (List.cons.inj hrest).1 ▸ hc
      · rw [List.dropWhile_cons_of_pos (by simp [hc])] at hrest
        exact ih hrest

theorem dropWhile_ne_eq_nil_iff {mark : Char} {chars : List Char} :
    chars.dropWhile (· ≠ mark) = [] ↔ mark ∉ chars := by
  induction chars with
  | nil => simp
  | cons c rest ih =>
      by_cases hc : c = mark
      · rw [List.dropWhile_cons_of_neg (by simp [hc])]
        simp [hc]
      · rw [List.dropWhile_cons_of_pos (by simp [hc]), ih]
        simp [Ne.symm hc]

/-- Path and anchor make up what stands before the query. -/
theorem path_append_anchor (chars : List Char) :
    (parse chars).path ++ (parse chars).anchor = chars.takeWhile (· ≠ '?') :=
  List.takeWhile_append_dropWhile

theorem render_parse (chars : List Char) : (parse chars).render = chars := by
  rw [render, path_append_anchor]
  have hwhole : chars.takeWhile (· ≠ '?') ++ chars.dropWhile (· ≠ '?') = chars :=
    List.takeWhile_append_dropWhile
  cases hrest : chars.dropWhile (· ≠ '?') with
  | nil =>
      simp only [parse, hrest, List.tail?_nil]
      rw [hrest] at hwhole
      exact hwhole
  | cons first rest =>
      have hfirst := dropWhile_ne_eq_cons hrest
      subst hfirst
      simp only [parse, hrest, List.tail?_cons]
      rw [hrest] at hwhole
      exact hwhole

/-- A link has a query exactly if it holds a question mark. -/
theorem query_parse_eq_none_iff (chars : List Char) :
    (parse chars).query = none ↔ '?' ∉ chars := by
  rw [← dropWhile_ne_eq_nil_iff, parse]
  cases chars.dropWhile (· ≠ '?') <;> simp

/-- A parameter goes to the end of the written link, behind the mark that starts a query or goes on
with one. -/
theorem render_addParameter (chars name value : List Char) :
    ((parse chars).addParameter name value).render =
      chars ++ (if '?' ∈ chars then '&' else '?') :: parameter name value := by
  have hrender := render_parse chars
  cases hquery : (parse chars).query with
  | none =>
      have hmark := (query_parse_eq_none_iff chars).mp hquery
      simp only [render, hquery, List.append_nil] at hrender
      simp [render, addParameter, hquery, hrender, hmark]
  | some query =>
      have hmark : '?' ∈ chars := by
        by_cases hmem : '?' ∈ chars
        · exact hmem
        · rw [(query_parse_eq_none_iff chars).mpr hmem] at hquery
          exact absurd hquery (by simp)
      simp only [render, hquery] at hrender
      simp only [render, addParameter, hquery, if_pos hmark]
      conv => rhs; rw [← hrender]
      simp

/-- Where there are a URL and a nonce, tagging is writing at the end of the URL. -/
theorem tag_eq_append (param : String) {url nonce : String} (hurl : url ≠ "")
    (hnonce : nonce ≠ "") :
    tag param (some nonce) (some url) = some (String.ofList <|
      url.toList ++ (if '?' ∈ url.toList then '&' else '?') ::
        parameter param.toList nonce.toList) := by
  unfold tag
  simp only [hurl, hnonce, or_self, if_false, render_addParameter]

end Link

end CsrfGuard
