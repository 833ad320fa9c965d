import CsrfGuard.Link
import CsrfGuard.Proofs.Text.QueryReader
import CsrfGuard.Web.Guard

/-!
# The nonce that is read off a URL

A nonce goes to the end of the query of a URL, and the guard goes by the first value of the nonce
parameter. The two agree on a URL that does not carry the parameter yet. On one that does, the guard
goes on reading what it read before: a URL keeps the nonce that was put on it first, however often
nonces are put on it afterwards (`nonce_of_tag`).

How the names and values in a query are read is left open here, except that characters which need no
escape stand for themselves (`ReadsPlain`).
-/

namespace CsrfGuard

/-- A nonce that was made is the row of digits of as many bytes as were asked for. -/
theorem NonceGenerator.of_generate_eq_ok {generator : NonceGenerator} {source : RandomSource}
    {calls : Nat} {nonce : String} (hgenerate : generator.generate source calls = .ok nonce) :
    ∃ bytes, bytes.length = generator.numBytes ∧ nonce.toList = Text.Hex.encode bytes := by
  unfold NonceGenerator.generate NonceGenerator.ofAnswer at hgenerate
  split at hgenerate
  · cases hgenerate
  · next bytes _ =>
      split at hgenerate
      · next hlength =>
          cases hgenerate
          exact ⟨bytes, hlength, String.toList_ofList⟩
      · cases hgenerate

/-- The digits of as many bytes as a generator asks for are not nothing, and none of them has to be
escaped. -/
theorem NonceGenerator.plain_of_encode (generator : NonceGenerator) {bytes : List UInt8}
    {nonce : String} (hlength : bytes.length = generator.numBytes)
    (hdigits : nonce.toList = Text.Hex.encode bytes) :
    nonce ≠ "" ∧ ∀ c ∈ nonce.toList, Text.Percent.isUnreserved c = true := by
  rw [hdigits]
  refine ⟨?_, fun c hc => Text.Percent.isUnreserved_of_mem_encode hc⟩
  rintro rfl
  have hcount := Text.Hex.length_encode bytes
  have hpos := generator.numBytes_pos
  rw [← hdigits, String.toList_empty, List.length_nil] at hcount
  omega

namespace Web

open Text Text.Percent

variable {component : List Char → String}

/-- Whether a way to read the names and values in a query takes what needs no escape as it is. -/
def ReadsPlain (component : List Char → String) : Prop :=
  ∀ chars : List Char, (∀ c ∈ chars, isUnreserved c = true) → component chars = String.ofList chars

/-- The names and values in a query, in their order: each piece between two ampersands that is not
empty, cut at its first equals sign. -/
def queryPairs (component : List Char → String) (query : List Char) : List (String × String) :=
  ((pieces '&' query).filter (· ≠ [])).map fun piece =>
    (component (cut '=' piece).1, component (cut '=' piece).2)

/-- The names and values that are sent when a URL is asked for. What stands behind an anchor mark is
not sent. -/
def sentPairs (component : List Char → String) (url : String) : List (String × String) :=
  queryPairs component (cut '?' (cut '#' url.toList).1).2

theorem queryPairs_append (component : List Char → String) (left right : List Char) :
    queryPairs component (left ++ '&' :: right) =
      queryPairs component left ++ queryPairs component right := by
  unfold queryPairs
  rw [pieces_append_mark, List.filter_append, List.map_append]

theorem not_mem_of_unreserved {chars : List Char} (hchars : ∀ c ∈ chars, isUnreserved c = true)
    {mark : Char} (hmark : isUnreserved mark = false) : mark ∉ chars := by
  intro hmem
  rw [hchars mark hmem] at hmark
  cases hmark

theorem not_mem_parameter {name value : List Char} (hname : ∀ c ∈ name, isUnreserved c = true)
    (hvalue : ∀ c ∈ value, isUnreserved c = true) {mark : Char} (hequals : mark ≠ '=')
    (hmark : isUnreserved mark = false) : mark ∉ Link.parameter name value := by
  rw [Link.parameter, List.mem_append, List.mem_cons]
  rintro (hfront | hsame | hback)
  · exact not_mem_of_unreserved hname hmark hfront
  · exact hequals hsame
  · exact not_mem_of_unreserved hvalue hmark hback

theorem queryPairs_parameter (hreads : ReadsPlain component) {name value : List Char}
    (hname : ∀ c ∈ name, isUnreserved c = true) (hvalue : ∀ c ∈ value, isUnreserved c = true) :
    queryPairs component (Link.parameter name value) =
      [(String.ofList name, String.ofList value)] := by
  have hequals : '=' ∉ name := not_mem_of_unreserved hname (by decide)
  have hampersand : '&' ∉ Link.parameter name value :=
    not_mem_parameter hname hvalue (by decide) (by decide)
  have hcut : cut '=' (Link.parameter name value) = (name, value) := cut_append_mark hequals value
  have hkept : [Link.parameter name value].filter (· ≠ []) = [Link.parameter name value] := by
    simp [Link.parameter]
  rw [queryPairs, pieces_of_not_mem hampersand, hkept, List.map_singleton, hcut, hreads name hname,
    hreads value hvalue]

/-- One more parameter on a URL is one more pair behind those that it sends along anyway. -/
theorem sentPairs_tag (hreads : ReadsPlain component) {url param nonce : String} (hurl : url ≠ "")
    (hanchor : '#' ∉ url.toList) (hparam : ∀ c ∈ param.toList, isUnreserved c = true)
    (hne : nonce ≠ "") (hnonce : ∀ c ∈ nonce.toList, isUnreserved c = true) :
    ∃ tagged, Link.tag param (some nonce) (some url) = some tagged ∧ tagged ≠ "" ∧
      '#' ∉ tagged.toList ∧
      sentPairs component tagged = sentPairs component url ++ [(param, nonce)] := by
  set added := Link.parameter param.toList nonce.toList with hadded
  have hpair : queryPairs component added = [(param, nonce)] := by
    rw [hadded, queryPairs_parameter hreads hparam hnonce, String.ofList_toList,
      String.ofList_toList]
  have hanchorAdded : '#' ∉ added := not_mem_parameter hparam hnonce (by decide) (by decide)
  set mark := if '?' ∈ url.toList then '&' else '?' with hmark
  have htag : Link.tag param (some nonce) (some url) =
      some (String.ofList (url.toList ++ mark :: added)) :=
    Link.tag_eq_append param hurl hne
  have hwhole : '#' ∉ url.toList ++ mark :: added := by
    have hother : '#' ≠ mark := by
      rw [hmark]
      split <;> decide
    simp [hanchor, hanchorAdded, hother]
  refine ⟨_, htag, ?_, ?_, ?_⟩
  · intro hempty
    simpa using congrArg String.toList hempty
  · rwa [String.toList_ofList]
  · rw [sentPairs, sentPairs, String.toList_ofList, cut_of_not_mem hwhole, cut_of_not_mem hanchor]
    -- Behind a query the parameter is one more piece; without one it is the whole query.
    by_cases hquery : '?' ∈ url.toList
    · calc queryPairs component (cut '?' (url.toList ++ mark :: added)).2
          = queryPairs component ((cut '?' url.toList).2 ++ '&' :: added) := by
            rw [hmark, if_pos hquery, cut_append_of_mem hquery]
        _ = queryPairs component (cut '?' url.toList).2 ++ [(param, nonce)] := by
            rw [queryPairs_append, hpair]
    · calc queryPairs component (cut '?' (url.toList ++ mark :: added)).2
          = queryPairs component added := by rw [hmark, if_neg hquery, cut_append_mark hquery]
        _ = queryPairs component (cut '?' url.toList).2 ++ [(param, nonce)] := by
            rw [hpair, cut_of_not_mem hquery]
            rfl

theorem lookup_append_singleton (pairs : List (String × String)) (name value : String) :
    (pairs ++ [(name, value)]).lookup name = some ((pairs.lookup name).getD value) := by
  rw [List.lookup_append]
  cases pairs.lookup name <;> simp

/-- The nonce that the guard takes from a request which carries a parameter in its query. -/
theorem nonce_guardedRequest {request : Request} {param value : String}
    (hvalue : request.query.lookup param = some value) :
    (guardedRequest request (some param)).nonce = some value := by
  simp only [guardedRequest, Option.bind_some, Request.parameter?, hvalue]

/-- A nonce that was made is put on a URL without an anchor. A request for the URL supplies the
first value that the URL carried for the parameter before, and this nonce if it carried none. So
another nonce put on the same URL changes nothing in what is supplied. -/
theorem nonce_of_tag (hreads : ReadsPlain component) {url param : String} (hurl : url ≠ "")
    (hanchor : '#' ∉ url.toList) (hparam : ∀ c ∈ param.toList, isUnreserved c = true)
    {generator : NonceGenerator} {source : RandomSource} {calls : Nat} {nonce : String}
    (hnonce : generator.generate source calls = .ok nonce) :
    ∃ tagged, Link.tag param (some nonce) (some url) = some tagged ∧
      (∀ request : Request, request.query = sentPairs component tagged →
        (guardedRequest request (some param)).nonce =
          some (((sentPairs component url).lookup param).getD nonce)) ∧
      ∀ calls newer, generator.generate source calls = .ok newer →
        ∃ again, Link.tag param (some newer) (some tagged) = some again ∧
          ∀ request : Request, request.query = sentPairs component again →
            (guardedRequest request (some param)).nonce =
              some (((sentPairs component url).lookup param).getD nonce) := by
  have hplain : ∀ calls made, generator.generate source calls = .ok made →
      made ≠ "" ∧ ∀ c ∈ made.toList, isUnreserved c = true := by
    intro calls made hmade
    obtain ⟨bytes, hlength, hdigits⟩ := NonceGenerator.of_generate_eq_ok hmade
    exact generator.plain_of_encode hlength hdigits
  obtain ⟨hne, hchars⟩ := hplain calls nonce hnonce
  obtain ⟨tagged, htag, htagged, htaggedAnchor, hpairs⟩ :=
    sentPairs_tag hreads hurl hanchor hparam hne hchars
  have hread : (sentPairs component tagged).lookup param =
      some (((sentPairs component url).lookup param).getD nonce) := by
    rw [hpairs]
    exact lookup_append_singleton _ param nonce
  refine ⟨tagged, htag, fun request hrequest => ?_, fun calls newer hnewer => ?_⟩
  · exact nonce_guardedRequest (hrequest ▸ hread)
  · obtain ⟨hnewerNe, hnewerChars⟩ := hplain calls newer hnewer
    obtain ⟨again, hagain, -, -, hagainPairs⟩ :=
      sentPairs_tag hreads htagged htaggedAnchor hparam hnewerNe hnewerChars
    refine ⟨again, hagain, fun request hrequest => nonce_guardedRequest ?_⟩
    rw [hrequest, hagainPairs, lookup_append_singleton, hread]
    rfl

/-- Names and values with their percent-escapes read, if all of them can be. -/
def percentDecoded (chars : List Char) : String :=
  (readComponent? chars).getD (String.ofList chars)

theorem readsPlain_percentDecoded : ReadsPlain percentDecoded := by
  intro chars hchars
  have hplus : chars.map spaceOfPlus = chars := by
    have hsame : ∀ c ∈ chars, spaceOfPlus c = c := by
      intro c hc
      refine if_neg ?_
      rintro rfl
      exact not_mem_of_unreserved hchars (by decide) hc
    exact (List.map_congr_left hsame).trans (List.map_id _)
  have hpercent : '%' ∉ chars := not_mem_of_unreserved hchars (by decide)
  rw [percentDecoded, readComponent?, hplus, read?_of_not_mem hpercent, Option.getD_some]

/-- A source that answers each call with its number, as often as bytes are asked for. -/
def numberingSource : RandomSource := ⟨fun call bytes => .ok (List.replicate bytes (.ofNat call))⟩

theorem nonce_of_tag_page :
    ReadsPlain percentDecoded ∧
      NonceGenerator.generate ⟨1, by decide⟩ numberingSource 0 = .ok "01" ∧
      ∃ tagged, Link.tag "CSRF_NONCE" (some "01") (some "/page?sum=1%2B1") = some tagged ∧
        ∀ request : Request, request.query = sentPairs percentDecoded tagged →
          (guardedRequest request (some "CSRF_NONCE")).nonce = some "01" := by
  have hparam : ∀ c ∈ "CSRF_NONCE".toList, isUnreserved c = true :=
    List.all_eq_true.mp (by decide)
  have hnonce : NonceGenerator.generate ⟨1, by decide⟩ numberingSource 0 = .ok "01" := by decide
  have hpairs : (sentPairs percentDecoded "/page?sum=1%2B1").lookup "CSRF_NONCE" = none := by
    decide +kernel
  obtain ⟨tagged, htag, hread, -⟩ := nonce_of_tag readsPlain_percentDecoded
    (show "/page?sum=1%2B1" ≠ "" by decide) (by decide) hparam hnonce
  rw [hpairs] at hread
  exact ⟨readsPlain_percentDecoded, hnonce, tagged, htag, hread⟩

/-- It is not the newest nonce that is supplied: a URL that carries one already keeps it. -/
theorem newest_nonce_not_supplied :
    ¬ ∀ (url param nonce tagged : String) (calls : Nat), url ≠ "" → '#' ∉ url.toList →
      (∀ c ∈ param.toList, isUnreserved c = true) →
      NonceGenerator.generate ⟨1, by decide⟩ numberingSource calls = .ok nonce →
      Link.tag param (some nonce) (some url) = some tagged →
      ∀ request : Request, request.query = sentPairs percentDecoded tagged →
        (guardedRequest request (some param)).nonce = some nonce := by
  intro hclaim
  let again : Request := ⟨"localhost", "GET", "/page",
    sentPairs percentDecoded "/page?CSRF_NONCE=01&CSRF_NONCE=02", []⟩
  have hnewest : (guardedRequest again (some "CSRF_NONCE")).nonce = some "02" :=
    hclaim "/page?CSRF_NONCE=01" "CSRF_NONCE" "02" "/page?CSRF_NONCE=01&CSRF_NONCE=02" 1
      (by decide) (by decide) (List.all_eq_true.mp (by decide)) (by decide) (by decide +kernel)
      again rfl
  have hfirst : (guardedRequest again (some "CSRF_NONCE")).nonce = some "01" := by decide +kernel
  rw [hfirst] at hnewest
  exact absurd hnewest (by decide)

end Web

end CsrfGuard
