import CsrfGuard.Proofs.Web.ReadBack
import CsrfGuard.Proofs.Web.Screening
import CsrfGuard.Proofs.Web.Target

/-!
# Visits with a nonce

A view only gets to see visits to which a nonce was issued, at least on a site with a guard, and
what the view makes of such a visit is all that becomes of the request (`receive_cases`). Nonces are
made of digits, so that they can be put on a URL as they are: the links and redirects of such a
visit are the URLs that were meant, with the nonce as one more value (`linkTo_written`,
`nonceRedirect_written`), unless the name of the parameter has a line break in it
(`nonceRedirect_eq`).
-/

namespace CsrfGuard.Web

open Text.Percent (isUnreserved)

/-! ## Nonces -/

/-- A nonce that was made is not empty, and nothing in it has to be escaped. -/
theorem nonceOfCall_of_reliable {surroundings : Surroundings} (reliable : surroundings.Reliable)
    (generator : NonceGenerator) (call : Nat) :
    nonceOfCall generator.numBytes surroundings.source call ≠ "" ∧
      ∀ c ∈ (nonceOfCall generator.numBytes surroundings.source call).toList,
        isUnreserved c = true := by
  obtain ⟨bytes, hanswer, hlength⟩ := reliable.answers call generator.numBytes
  refine generator.plain_of_encode hlength ?_
  simp only [nonceOfCall, hanswer, String.toList_ofList]

/-- The same holds of the nonce that a site issues to a request. -/
theorem Follows.nonce_of_passed {validator : Validator} {surroundings : Surroundings}
    {idleLimit : Int} {state : SiteState} {book : VisitorBook}
    {register : SessionRegister CacheNumber} {past : Nat → Past}
    (follows : Follows validator surroundings idleLimit state book register past)
    (reliable : surroundings.Reliable) {site : Site} (hguard : site.guard = some validator)
    (hwritable : site.cookieWritable = true) {client : Nat} {request : Request} {nonce : String}
    (hpassed : site.verdict? surroundings state client request = some (.passed nonce)) :
    nonce ≠ "" ∧ ∀ c ∈ nonce.toList, isUnreserved c = true := by
  have hverdict := (follows.enter reliable hguard hwritable client request).1
  rw [← Site.verdict?, hpassed, Option.some_inj, VisitorBook.receive] at hverdict
  dsimp only at hverdict
  split at hverdict
  · cases hverdict
    exact nonceOfCall_of_reliable reliable validator.generator _
  · cases hverdict

/-! ## Visits with a nonce -/

/-- A visit with a nonce that can be written into a URL as it is. Nothing is said of the parameter
that goes with the nonce. -/
structure Visit.HasNonce (visit : Visit) (param : Option String) (nonce : String) : Prop where
  issued_eq : visit.issued = some ⟨nonce, param⟩
  nonce_plain : ∀ c ∈ nonce.toList, isUnreserved c = true
  nonce_ne_empty : nonce ≠ ""

/-- The visit to which a request of a client comes once the guard has let it pass. -/
structure Visit.Admitted (visit : Visit) (param : Option String) (nonce : String)
    (request : Request) (cookie : Cookie) : Prop extends visit.HasNonce param nonce where
  request_eq : visit.request = request
  /-- The guard may have given the client another session, but no other transfers. -/
  transfers_eq : visit.exchange.cookie.transfers = cookie.transfers

section

variable {site : Site} {validator : Validator} {surroundings : Surroundings} {state : SiteState}
  {client : Nat} {request : Request} {α : Type} {view : View α}

theorem Exchange.transfers_currentSession (exchange : Exchange) (surroundings : Surroundings)
    (writable : Bool) (now : Int) (create : Bool) :
    (exchange.currentSession surroundings writable now create).2.cookie.transfers =
      exchange.cookie.transfers := by
  unfold Exchange.currentSession
  dsimp only
  split
  · rfl
  · split
    · rfl
    · split <;> rfl

theorem transfers_enter (site : Site) (surroundings : Surroundings) (now : Int) (request : Request)
    (exchange : Exchange) :
    (site.enter surroundings now request exchange).2.1.cookie.transfers =
      exchange.cookie.transfers := by
  unfold Site.enter screen
  split
  · rfl
  · have hkept := exchange.transfers_currentSession surroundings site.cookieWritable now true
    split <;> (next hcurrent => rw [hcurrent] at hkept; exact hkept)

theorem plain_of_screen {writable : Bool} {now : Int} {exchange : Exchange} {passed : Passed}
    (hresult : (screen validator surroundings writable now request exchange).result =
      .ok passed) : passed.nonce ≠ "" ∧ ∀ c ∈ passed.nonce.toList, isUnreserved c = true := by
  unfold screen at hresult
  split at hresult
  · cases hresult
  · obtain ⟨bytes, hlength, hdigits⟩ :=
      NonceGenerator.of_generate_eq_ok (Validator.generate_of_result_ok hresult)
    exact validator.generator.plain_of_encode hlength hdigits

/-- What the guard lets pass has a nonce. -/
theorem issued_of_enter (hguard : site.guard = some validator) {now : Int} {exchange : Exchange}
    {issued : Option IssuedNonce}
    (henter : (site.enter surroundings now request exchange).1 = .ok issued) :
    ∃ nonce, issued = some ⟨nonce, validator.nonceParam⟩ ∧ nonce ≠ "" ∧
      ∀ c ∈ nonce.toList, isUnreserved c = true := by
  unfold Site.enter at henter
  rw [hguard] at henter
  dsimp only at henter
  cases hresult : (screen validator surroundings site.cookieWritable now request
      exchange).result with
  | error cause =>
      rw [hresult] at henter
      cases henter
  | ok passed =>
      rw [hresult] at henter
      cases henter
      exact ⟨_, rfl, plain_of_screen hresult⟩

/-- All that can become of a request: it ends in an error at the guard, and its client keeps the
transfers that it had, or it is answered by the view, which sees a visit with a nonce and leaves the
client with the cookie of that visit. -/
theorem receive_cases (hguard : site.guard = some validator) (surroundings : Surroundings)
    (view : View α) (state : SiteState) (client : Nat) (request : Request) :
    let verdict := site.verdict? surroundings state client request
    let outcome := site.receive surroundings view state client request
    (∃ cause, (∀ nonce, verdict ≠ some (.passed nonce)) ∧ outcome.1.result = .error cause ∧
        (outcome.2.cookies client).transfers = (state.cookies client).transfers) ∨
      ∃ visit nonce, verdict = some (.passed nonce) ∧
        visit.Admitted validator.nonceParam nonce request (state.cookies client) ∧
        outcome.1.result = (view visit).1 ∧
        outcome.2.cookies client = (view visit).2.exchange.cookie := by
  intro verdict outcome
  have hkept := transfers_enter site surroundings state.now request
    ⟨state.cookies client, state.guardState⟩
  unfold verdict outcome Site.verdict? Site.receive
  split
  · next cause exchange records hentry =>
      rw [hentry] at hkept ⊢
      refine Or.inl ⟨cause, fun nonce hpassed => ?_, rfl, ?_⟩
      · cases cause <;> cases hpassed
      · simpa [SiteState.setCookie] using hkept
  · next issued exchange records hentry =>
      obtain ⟨nonce, rfl, hne, hplain⟩ := issued_of_enter hguard (congrArg Prod.fst hentry)
      rw [hentry] at hkept ⊢
      refine Or.inr ⟨⟨request, _, exchange, records⟩, nonce, rfl,
        ⟨⟨rfl, hplain, hne⟩, rfl, hkept⟩, rfl, ?_⟩
      simp [SiteState.setCookie]

/-- What one client does leaves the cookies of the others alone. -/
theorem cookies_receive_of_ne (site : Site) (surroundings : Surroundings) (view : View α)
    (state : SiteState) {other : Nat} (hother : other ≠ client) (request : Request) :
    (site.receive surroundings view state client request).2.cookies other =
      state.cookies other := by
  unfold Site.receive
  split <;> simp [SiteState.setCookie, hother]

/-- What a view has answered, it has answered to a visit with the nonce that was issued. -/
theorem visit_of_result_ok (hguard : site.guard = some validator) {reply : α}
    (hresult : (site.receive surroundings view state client request).1.result = .ok reply) :
    ∃ visit nonce, visit.request = request ∧
      visit.issued = some ⟨nonce, validator.nonceParam⟩ ∧
      site.verdict? surroundings state client request = some (.passed nonce) ∧
      (view visit).1 = .ok reply := by
  obtain ⟨cause, -, herror, -⟩ | ⟨visit, nonce, hpassed, admitted, hview, -⟩ :=
    receive_cases hguard surroundings view state client request
  · rw [herror] at hresult
    cases hresult
  · exact ⟨visit, nonce, admitted.request_eq, admitted.issued_eq, hpassed, hview ▸ hresult⟩

/-- A request that passes is answered by the view. -/
theorem admitted_of_passed (view : View α) (hguard : site.guard = some validator) {nonce : String}
    (hpassed : site.verdict? surroundings state client request = some (.passed nonce)) :
    ∃ visit : Visit, visit.Admitted validator.nonceParam nonce request (state.cookies client) ∧
      (site.receive surroundings view state client request).1.result = (view visit).1 ∧
      (site.receive surroundings view state client request).2.cookies client =
        (view visit).2.exchange.cookie := by
  obtain ⟨cause, hother, -⟩ | ⟨visit, found, hfound, admitted, hview, hcookie⟩ :=
    receive_cases hguard surroundings view state client request
  · exact absurd hpassed (hother nonce)
  · cases hpassed.symm.trans hfound
    exact ⟨visit, admitted, hview, hcookie⟩

end

/-! ## URLs with the nonce of a visit -/

theorem Visit.fitsHeader_iff {text : String} :
    Visit.fitsHeader text = true ↔ '\r' ∉ text.toList ∧ '\n' ∉ text.toList := by
  simp only [Visit.fitsHeader, Bool.not_eq_true', List.any_eq_false, Bool.or_eq_true, beq_iff_eq,
    not_or]
  exact ⟨fun hall => ⟨fun hmem => (hall _ hmem).1 rfl, fun hmem => (hall _ hmem).2 rfl⟩,
    fun hnone c hc => ⟨ne_of_mem_of_not_mem hc hnone.1, ne_of_mem_of_not_mem hc hnone.2⟩⟩

theorem Target.fitsHeader_written {path : List Char} (hpath : Target.PlainPath path)
    (pairs : List (String × String)) : Visit.fitsHeader (Target.written path pairs) = true :=
  Visit.fitsHeader_iff.mpr ⟨Target.not_mem_written hpath (by decide) (by decide) pairs,
    Target.not_mem_written hpath (by decide) (by decide) pairs⟩

namespace Visit.HasNonce

variable {visit : Visit} {param : Option String} {nonce : String}

theorem encoder_eq (hasNonce : visit.HasNonce param nonce) :
    visit.encoder = Encoder.plain.withNonce (some nonce) param := by
  unfold Visit.encoder
  rw [hasNonce.issued_eq]

theorem linkTo_eq (hasNonce : visit.HasNonce param nonce) (url : String) :
    visit.linkTo url =
      .ok ((Link.tag (Link.paramText param) (some nonce) (some url)).getD url) := by
  unfold Visit.linkTo Visit.encodeUrl
  rw [hasNonce.encoder_eq]
  rfl

/-- A URL with an anchor still has one with a nonce on it. -/
theorem mark_mem_linkTo (hasNonce : visit.HasNonce param nonce) {mark : Char} {url tagged : String}
    (hmark : mark ∈ url.toList) (htagged : visit.linkTo url = .ok tagged) :
    mark ∈ tagged.toList := by
  rw [hasNonce.linkTo_eq] at htagged
  cases htagged
  unfold Link.tag
  dsimp only
  split
  · exact hmark
  · rw [Option.getD_some, String.toList_ofList, Link.render_addParameter]
    exact List.mem_append_left _ hmark

/-- The nonce brings no line break into a redirect, but the name of its parameter may. -/
theorem nonceRedirect_eq (hasNonce : visit.HasNonce param nonce) {url : String} (hurl : url ≠ "")
    (hfits : Visit.fitsHeader url = true) (status : Int) :
    ∃ tagged, visit.nonceRedirect (some url) (.number status) =
      if Visit.fitsHeader (Link.paramText param) = true then .ok ⟨status, tagged⟩
      else .error .lineBreakInHeader := by
  set tagged := String.ofList (url.toList ++ (if '?' ∈ url.toList then '&' else '?') ::
    Link.parameter (Link.paramText param).toList nonce.toList) with htagged
  have hencoded : visit.encodeRedirectUrl (some url) = .ok (some tagged) := by
    rw [htagged, ← Link.tag_eq_append _ hurl hasNonce.nonce_ne_empty, Visit.encodeRedirectUrl,
      hasNonce.encoder_eq]
    rfl
  have hbreak : ∀ c, c ∉ url.toList → isUnreserved c = false → c ∉ ['?', '&', '='] →
      (c ∉ tagged.toList ↔ c ∉ (Link.paramText param).toList) := by
    intro c hother hreserved hmarks
    have hplain : c ∉ nonce.toList := not_mem_of_unreserved hasNonce.nonce_plain hreserved
    simp only [List.mem_cons, List.not_mem_nil, or_false, not_or] at hmarks
    rw [htagged, String.toList_ofList]
    split <;> simp [Link.parameter, hother, hplain, hmarks]
  have hsame : Visit.fitsHeader tagged = Visit.fitsHeader (Link.paramText param) := by
    obtain ⟨hreturn, hfeed⟩ := Visit.fitsHeader_iff.mp hfits
    rw [Bool.eq_iff_iff, Visit.fitsHeader_iff, Visit.fitsHeader_iff,
      hbreak '\r' hreturn (by decide) (by decide), hbreak '\n' hfeed (by decide) (by decide)]
  refine ⟨tagged, ?_⟩
  unfold Visit.nonceRedirect
  rw [hencoded]
  simp only [StatusChoice.status, bind, Except.bind, Option.getD_some, hsame]
  rfl

end Visit.HasNonce

/-- A visit with a nonce, and a parameter for it, that can be written into a URL as they are. -/
structure Visit.Issued (visit : Visit) (param nonce : String) : Prop where
  issued_eq : visit.issued = some ⟨nonce, some param⟩
  param_plain : ∀ c ∈ param.toList, isUnreserved c = true
  nonce_plain : ∀ c ∈ nonce.toList, isUnreserved c = true
  nonce_ne_empty : nonce ≠ ""

namespace Visit.Issued

variable {visit : Visit} {param nonce : String} {path : List Char}

theorem hasNonce (issued : visit.Issued param nonce) : visit.HasNonce (some param) nonce :=
  ⟨issued.issued_eq, issued.nonce_plain, issued.nonce_ne_empty⟩

theorem linkTo_written (issued : visit.Issued param nonce) (hpath : Target.PlainPath path)
    (pairs : List (String × String)) :
    visit.linkTo (Target.written path pairs) =
      .ok (Target.written path (pairs ++ [(param, nonce)])) := by
  rw [issued.hasNonce.linkTo_eq, Link.paramText, Option.getD_some,
    Target.tag_written hpath pairs issued.param_plain issued.nonce_plain issued.nonce_ne_empty]
  rfl

theorem nonceRedirect_written (issued : visit.Issued param nonce) (hpath : Target.PlainPath path)
    (pairs : List (String × String)) (status : Int) :
    visit.nonceRedirect (some (Target.written path pairs)) (.number status) =
      .ok ⟨status, Target.written path (pairs ++ [(param, nonce)])⟩ := by
  have hencoded : visit.encodeRedirectUrl (some (Target.written path pairs)) =
      .ok (some (Target.written path (pairs ++ [(param, nonce)]))) := by
    rw [← Target.tag_written hpath pairs issued.param_plain issued.nonce_plain
      issued.nonce_ne_empty, Visit.encodeRedirectUrl, issued.hasNonce.encoder_eq]
    rfl
  have hfits : Visit.fitsHeader (Target.written path (pairs ++ [(param, nonce)])) = true :=
    Target.fitsHeader_written hpath _
  unfold Visit.nonceRedirect
  rw [hencoded]
  exact if_pos hfits

end Visit.Issued

end CsrfGuard.Web
