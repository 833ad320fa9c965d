import CsrfGuard.Link.Encoder
import CsrfGuard.Proofs.Text.Cut

/-!
# What nonces add to a URL

A nonce on a URL is one more piece at the end of its query, and all that the URL held stays where it
was (`Link.pieces_of_tag`). Nonces laid over an encoder one after the other therefore come to a
single addition: the pairs of all layers that have a nonce, innermost first, go to the end of what
the encoder itself makes of a URL (`Encoder.encoded_under_layers`). Layers without a nonce may lie
anywhere and leave no trace.

## Strategy

One layer adds its pair (`tag_eq_withPairs`), and pairs may be added all at once or one lot after
the other (`withPairs_append`). The rest is an induction over the layers, from the innermost on.
-/

namespace CsrfGuard

open Text

namespace Link

/-- The pieces between the ampersands in the query of a URL; none if it has no query. -/
def queryPieces (url : List Char) : List (List Char) :=
  if '?' ∈ url then pieces '&' (cut '?' url).2 else []

/-- A nonce on a URL leaves what stands before the query as it is and adds one piece to the query,
behind those that are there. It is written behind the URL, which is otherwise unchanged. -/
theorem pieces_of_tag {url nonce param : String} (hurl : url ≠ "") (hne : nonce ≠ "")
    (hparam : '&' ∉ param.toList) (hnonce : '&' ∉ nonce.toList) :
    ∃ tagged, tag param (some nonce) (some url) = some tagged ∧
      (cut '?' tagged.toList).1 = (cut '?' url.toList).1 ∧
      queryPieces tagged.toList =
        queryPieces url.toList ++ [param.toList ++ '=' :: nonce.toList] ∧
      ∃ mark, tagged.toList = url.toList ++ mark :: (param.toList ++ '=' :: nonce.toList) := by
  let added := param.toList ++ '=' :: nonce.toList
  have hadded : pieces '&' added = [added] :=
    pieces_of_not_mem (by simp [added, hparam, hnonce])
  have htagged : tag param (some nonce) (some url) = some (String.ofList <|
      url.toList ++ (if '?' ∈ url.toList then '&' else '?') :: added) :=
    tag_eq_append param hurl hne
  refine ⟨_, htagged, ?_⟩
  rw [String.toList_ofList]
  by_cases hquery : '?' ∈ url.toList
  · -- The query goes on: the new piece stands behind an ampersand.
    have hmark : '?' ∈ url.toList ++ '&' :: added := List.mem_append_left _ hquery
    rw [if_pos hquery, cut_append_of_mem hquery]
    refine ⟨rfl, ?_, _, rfl⟩
    rw [queryPieces, queryPieces, if_pos hmark, if_pos hquery, cut_append_of_mem hquery,
      pieces_append_mark, hadded]
  · have hmark : '?' ∈ url.toList ++ '?' :: added := by simp
    rw [if_neg hquery, cut_append_mark hquery, cut_of_not_mem hquery]
    refine ⟨rfl, ?_, _, rfl⟩
    rw [queryPieces, queryPieces, if_pos hmark, if_neg hquery, cut_append_mark hquery, hadded,
      List.nil_append]

/-- An anchor mark may stand on either side of the question mark, and the query may be empty. -/
theorem pieces_of_tag_two_anchors :
    ∃ tagged, tag "n" (some "7") (some "/p#a?x#b&") = some tagged ∧
      (cut '?' tagged.toList).1 = "/p#a".toList ∧
      queryPieces tagged.toList = ["x#b".toList, [], "n=7".toList] := by
  obtain ⟨tagged, htagged, hfront, hpieces, -⟩ :=
    pieces_of_tag (show "/p#a?x#b&" ≠ "" by decide) (show "7" ≠ "" by decide)
      (show '&' ∉ "n".toList by decide) (by decide)
  exact ⟨tagged, htagged, hfront.trans (by decide), hpieces.trans (by decide)⟩

end Link

namespace Encoder

/-! ## Pairs -/

/-- One nonce laid over an encoder, which may be missing, and the parameter it goes by. -/
abbrev Layer := Option String × Option String

/-- What a layer adds to a URL: nothing without a nonce or with an empty one. -/
def Layer.pair? (layer : Layer) : Option (List Char) :=
  (layer.1.filter (· ≠ "")).map fun nonce =>
    (Link.paramText layer.2).toList ++ '=' :: nonce.toList

/-- The pairs that layers add, innermost first. -/
def pairsOf (layers : List Layer) : List (List Char) := layers.filterMap Layer.pair?

/-- A URL with pairs at its end, behind the mark that starts a query or goes on with one, and with
ampersands between them. A missing or empty URL stays as it is, and so does every URL if there are
no pairs. -/
def withPairs (pairs : List (List Char)) : Option String → Option String
  | none => none
  | some url =>
      if url = "" ∨ pairs = [] then some url
      else
        some (String.ofList <|
          url.toList ++ (if '?' ∈ url.toList then '&' else '?') :: ['&'].intercalate pairs)

theorem pairsOf_cons (layer : Layer) (rest : List Layer) :
    pairsOf (layer :: rest) = layer.pair?.toList ++ pairsOf rest := by
  unfold pairsOf
  cases hpair : layer.pair? with
  | none => rw [List.filterMap_cons_none hpair, Option.toList_none, List.nil_append]
  | some pair =>
      rw [List.filterMap_cons_some hpair, Option.toList_some, List.singleton_append]

theorem withPairs_nil (url : Option String) : withPairs [] url = url := by
  cases url <;> simp [withPairs]

theorem withPairs_eq_append {pairs : List (List Char)} {url : String} (hurl : url ≠ "")
    (hpairs : pairs ≠ []) :
    withPairs pairs (some url) = some (String.ofList <|
      url.toList ++ (if '?' ∈ url.toList then '&' else '?') :: ['&'].intercalate pairs) :=
  if_neg (not_or.mpr ⟨hurl, hpairs⟩)

/-- Pairs may be added all at once or one lot after the other: behind the first lot there is a query
for the second to go on with. -/
theorem withPairs_append (front back : List (List Char)) (url : Option String) :
    withPairs (front ++ back) url = withPairs back (withPairs front url) := by
  rcases eq_or_ne front [] with rfl | hfront
  · rw [List.nil_append, withPairs_nil]
  rcases eq_or_ne back [] with rfl | hback
  · rw [List.append_nil, withPairs_nil]
  cases url with
  | none => rfl
  | some url =>
      rcases eq_or_ne url "" with rfl | hurl
      · simp [withPairs]
      set mark := if '?' ∈ url.toList then '&' else '?' with hmark
      set longer := url.toList ++ mark :: ['&'].intercalate front with hlonger
      have hquery : '?' ∈ longer := by
        rw [hlonger, hmark]
        split <;> simp_all
      have hne : String.ofList longer ≠ "" := by
        intro hempty
        simpa [hlonger] using congrArg String.toList hempty
      calc withPairs (front ++ back) (some url)
          = some (String.ofList (longer ++ '&' :: ['&'].intercalate back)) := by
            rw [withPairs_eq_append hurl (by simp [hfront]), intercalate_append hfront hback,
              hlonger, List.append_assoc]
            rfl
        _ = withPairs back (some (String.ofList longer)) := by
            rw [withPairs_eq_append hne hback, String.toList_ofList, if_pos hquery]
        _ = withPairs back (withPairs front (some url)) := by
            rw [withPairs_eq_append hurl hfront]

/-- One layer adds its pair. -/
theorem tag_eq_withPairs (layer : Layer) (url : Option String) :
    Link.tag (Link.paramText layer.2) layer.1 url = withPairs layer.pair?.toList url := by
  obtain ⟨nonce, param⟩ := layer
  cases url with
  | none => rfl
  | some url =>
      cases nonce with
      | none => exact (withPairs_nil (some url)).symm
      | some nonce =>
          rcases eq_or_ne nonce "" with rfl | hnonce
          · simp [Link.tag, Layer.pair?, withPairs]
          rcases eq_or_ne url "" with rfl | hurl
          · simp [Link.tag, withPairs]
          have hpair : (Layer.pair? (some nonce, param)).toList =
              [(Link.paramText param).toList ++ '=' :: nonce.toList] := by
            simp only [Layer.pair?, Option.filter_some, decide_eq_true hnonce, if_true,
              Option.map_some, Option.toList_some]
          rw [hpair, Link.tag_eq_append _ hurl hnonce, withPairs_eq_append hurl (by simp),
            List.intercalate_singleton, Link.parameter]

/-! ## Layers -/

variable {α : Type}

/-- What the layers outside a layer make of its result is what all of them make of what it was
given. -/
theorem map_withPairs_tag (layer : Layer) (rest : List Layer)
    (inner : Except GuardError (Option String)) :
    (inner.map (Link.tag (Link.paramText layer.2) layer.1)).map (withPairs (pairsOf rest)) =
      inner.map (withPairs (pairsOf (layer :: rest))) := by
  cases inner with
  | error cause => rfl
  | ok url => simp only [Except.map, tag_eq_withPairs, pairsOf_cons, withPairs_append]

theorem map_withPairs_nil (result : Except GuardError (Option String)) :
    result.map (withPairs (pairsOf [])) = result := by
  cases result with
  | error cause => rfl
  | ok url => exact congrArg _ (withPairs_nil url)

/-- Either function of an encoder, which a layer changes by tagging what it answers, is changed by
all layers together by adding their pairs. -/
theorem encode_withNonces (encode : Encoder α → Option String → Except GuardError (Option String))
    (hlayer : ∀ inner nonce param url, encode (withNonce inner nonce param) url =
      (encode inner url).map (Link.tag (Link.paramText param) nonce))
    (base : Encoder α) (layers : List Layer) (url : Option String) :
    encode (base.withNonces layers) url = (encode base url).map (withPairs (pairsOf layers)) := by
  induction layers generalizing base with
  | nil => exact (map_withPairs_nil _).symm
  | cons layer rest ih =>
      calc encode ((base.withNonce layer.1 layer.2).withNonces rest) url
          = (encode (base.withNonce layer.1 layer.2) url).map (withPairs (pairsOf rest)) :=
            ih (base.withNonce layer.1 layer.2)
        _ = ((encode base url).map (Link.tag (Link.paramText layer.2) layer.1)).map
              (withPairs (pairsOf rest)) := by rw [hlayer]
        _ = (encode base url).map (withPairs (pairsOf (layer :: rest))) :=
            map_withPairs_tag layer rest (encode base url)

/-- The names that a layer never hands down because it is an object of a class: what every object
has, and what a class keeps of its text. -/
def objectNames : List String :=
  ["__class__", "__delattr__", "__dict__", "__dir__", "__doc__", "__eq__", "__firstlineno__",
    "__format__", "__ge__", "__getattr__", "__getattribute__", "__getstate__", "__gt__", "__hash__",
    "__init__", "__init_subclass__", "__le__", "__lt__", "__module__", "__ne__", "__new__",
    "__reduce__", "__reduce_ex__", "__repr__", "__setattr__", "__sizeof__",
    "__static_attributes__", "__str__", "__subclasshook__", "__weakref__"]

/-- The names of what a layer has of its own: the encoder below it, its nonce and parameter, the two
functions, and what it has as an object. Every other name it hands down. -/
def layerNames : List String :=
  ["encode_url", "encode_redirect_url", "response", "nonce", "param"] ++ objectNames

theorem lookup_withNonces (base : Encoder α) (layers : List Layer) {name : String}
    (hname : name ∉ layerNames) : (base.withNonces layers).lookup name = base.lookup name := by
  induction layers generalizing base with
  | nil => rfl
  | cons layer rest ih =>
      have hnonce : name ≠ "nonce" := ne_of_mem_of_not_mem (by decide) hname |>.symm
      have hparam : name ≠ "param" := ne_of_mem_of_not_mem (by decide) hname |>.symm
      refine (ih (base.withNonce layer.1 layer.2)).trans ?_
      simp only [lookup, withNonce, if_neg hnonce, if_neg hparam]

theorem withNonces_append_singleton (base : Encoder α) (inner : List Layer) (layer : Layer) :
    base.withNonces (inner ++ [layer]) = (base.withNonces inner).withNonce layer.1 layer.2 := by
  simp only [withNonces, List.foldl_append, List.foldl_cons, List.foldl_nil]

/-- Under any layers a URL, in a link or in a redirect, becomes what the encoder makes of it by
itself, with the pairs of the layers at its end. The outermost layer answers for its nonce and its
parameter, and the encoder for every name that is not a layer's own, also if it has no attribute of
this name. -/
theorem encoded_under_layers (base : Encoder α) (layers : List Layer) :
    (∀ url encoded, base.encodeUrl url = .ok encoded →
      (base.withNonces layers).encodeUrl url = .ok (withPairs (pairsOf layers) encoded)) ∧
      (∀ url encoded, base.encodeRedirectUrl url = .ok encoded →
        (base.withNonces layers).encodeRedirectUrl url =
          .ok (withPairs (pairsOf layers) encoded)) ∧
      (∀ name, name ∉ layerNames → (base.withNonces layers).lookup name = base.lookup name) ∧
      ∀ inner nonce param, layers = inner ++ [(nonce, param)] →
        (base.withNonces layers).lookup "nonce" = .ok (.nonce nonce) ∧
          (base.withNonces layers).lookup "param" = .ok (.param param) := by
  refine ⟨fun url encoded hencoded => ?_, fun url encoded hencoded => ?_,
    fun name hname => lookup_withNonces base layers hname, ?_⟩
  · rw [encode_withNonces encodeUrl (fun _ _ _ _ => rfl), hencoded]
    rfl
  · rw [encode_withNonces encodeRedirectUrl (fun _ _ _ _ => rfl), hencoded]
    rfl
  · rintro inner nonce param rfl
    rw [withNonces_append_singleton]
    exact ⟨rfl, rfl⟩

/-- Layers without a nonce between two others, over an encoder that starts a query in redirects. -/
theorem encoded_under_layers_four :
    let base : Encoder Nat := withSuffix ".html" "?to" [("status", 200)]
    let layers : List Layer := [(some "A1", some "p"), (none, some "q"), (some "", some "p"),
      (some "B2", none)]
    base.encodeUrl (some "/x") = .ok (some "/x.html") ∧
      base.encodeRedirectUrl (some "/x") = .ok (some "/x?to") ∧
      (base.withNonces layers).encodeUrl (some "/x") = .ok (some "/x.html?p=A1&None=B2") ∧
      (base.withNonces layers).encodeRedirectUrl (some "/x") = .ok (some "/x?to&p=A1&None=B2") ∧
      (base.withNonces layers).lookup "status" = .ok (.own 200) ∧
      (base.withNonces layers).lookup "headers" = .error (.attributeMissing "headers") ∧
      (base.withNonces layers).lookup "nonce" = .ok (.nonce (some "B2")) := by
  intro base layers
  have hlink : base.encodeUrl (some "/x") = .ok (some "/x.html") := by decide
  have hredirect : base.encodeRedirectUrl (some "/x") = .ok (some "/x?to") := by decide
  obtain ⟨hlinks, hredirects, hnames, houtermost⟩ := encoded_under_layers base layers
  exact ⟨hlink, hredirect, (hlinks _ _ hlink).trans (by decide),
    (hredirects _ _ hredirect).trans (by decide), (hnames _ (by decide)).trans (by decide),
    (hnames _ (by decide)).trans (by decide), (houtermost (layers.take 3) _ _ rfl).1⟩

end Encoder

end CsrfGuard
