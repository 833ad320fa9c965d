import CsrfGuard.Proofs.Demo.HandedOut
import CsrfGuard.Proofs.Text.DigitRow

/-!
# How the demonstration site answers a transfer

A transfer is posted with a text as its amount. Once the guard has let it pass, what becomes of it
depends on the text, blanks around it taken off, and on the name of the nonce parameter, but on
nothing else (`respond_of_transfer`):

```text
text            name of the parameter    answer              list of the client
row of digits   without a line break     leads on to /done   one number more
row of digits   with a line break        failure             one number more
other digits    any                      failure             as it was
anything else   any                      invalid amount      as it was
```

The third case is a gap between the test for an amount and the reading of it: the test lets
typographic digits through, and more digits than are read.

## Strategy

A posted transfer is answered by its view alone, which reads exactly the rows
(`transferView_of_row`, `transferView_of_not_row`). Its redirect can be sent unless the name of the
parameter prevents it (`doneRedirect_cases`).
-/

namespace CsrfGuard.Demo

open Web
open Text.Numeral (isRow rowValue)

variable {visit : Visit}

/-! ## Amounts -/

theorem isAmount_iff {amount : String} :
    isAmount amount = true ↔ amount ≠ "" ∧ ∀ c ∈ amount.toList, Text.isDigit c = true := by
  simp only [isAmount, Bool.and_eq_true, decide_eq_true_eq, List.all_eq_true]

theorem isAmount_of_isRow {amount : String} (hrow : isRow amount = true) :
    isAmount amount = true := by
  obtain ⟨hne, hall, -⟩ := Text.Numeral.isRow_iff.mp hrow
  refine isAmount_iff.mpr ⟨hne, fun c hc => ?_⟩
  obtain ⟨value, hvalue⟩ := Option.isSome_iff_exists.mp (hall c hc)
  exact Text.isDigit_of_digitValue? hvalue

@[simp]
theorem transfers_recordTransfer (visit : Visit) (amount : String) (number : Nat) :
    (recordTransfer visit amount number).exchange.cookie.transfers =
      visit.exchange.cookie.transfers ++ [number] := rfl

/-- A row of digits is put on the client's list as the number that it stands for. -/
theorem transferView_of_row (hrow : isRow (postedAmount visit.request) = true) :
    let amount := postedAmount visit.request
    let later := recordTransfer visit amount (rowValue amount)
    transferView visit = (doneRedirect later amount, later) := by
  have hamount := isAmount_of_isRow hrow
  obtain ⟨hne, hdigits⟩ := isAmount_iff.mp hamount
  have hread := (Text.Numeral.read_eq_ok_iff hne hdigits).mpr ⟨hrow, rfl⟩
  simp only [transferView, hamount, hread, Int.toNat_natCast, Bool.not_true, Bool.false_eq_true,
    if_false]

/-- Any other text leaves the visit as it is: it is refused, or cannot be read. -/
theorem transferView_of_not_row (hrow : isRow (postedAmount visit.request) = false) :
    (transferView visit).2 = visit ∧
      if isAmount (postedAmount visit.request) = true then
        ∃ cause, (transferView visit).1 = .error cause ∧
          ∀ refusals : Refusals, refusals.errorStatus cause = failureStatus
      else (transferView visit).1 = .ok ⟨400, .text "Invalid amount", none⟩ := by
  cases hamount : isAmount (postedAmount visit.request) with
  | false =>
      unfold transferView
      simp only [hamount]
      exact ⟨rfl, rfl⟩
  | true =>
      obtain ⟨hne, hdigits⟩ := isAmount_iff.mp hamount
      cases hread : Text.Numeral.read (postedAmount visit.request) with
      | ok number =>
          have hsome := ((Text.Numeral.read_eq_ok_iff hne hdigits).mp hread).1
          rw [hrow] at hsome
          cases hsome
      | error cause =>
          have hfailure : ∀ refusals : Refusals, refusals.errorStatus cause = failureStatus := by
            intro refusals
            rcases Text.Numeral.eq_of_read_error hread with rfl | rfl <;> rfl
          unfold transferView
          simp only [hamount, hread]
          exact ⟨rfl, cause, rfl, hfailure⟩

/-- The redirect of a transfer can be sent unless the parameter brings a line break into it. -/
theorem doneRedirect_cases {param : Option String} {nonce : String}
    (hasNonce : visit.HasNonce param nonce) (amount : String) :
    ∃ location, doneRedirect visit amount =
      if Visit.fitsHeader (Link.paramText param) = true then
        .ok ⟨302, .nothing, some location⟩
      else .error .lineBreakInHeader := by
  obtain ⟨tagged, htagged⟩ := hasNonce.nonceRedirect_eq
    (Target.written_ne_empty plainPath_done [(amountKey, amount)])
    (Target.fitsHeader_written plainPath_done [(amountKey, amount)]) 302
  refine ⟨String.ofList (Text.Percent.escapeReference tagged.toList), ?_⟩
  unfold doneRedirect
  rw [address_of_done]
  simp only [bind, Except.bind]
  rw [htagged]
  by_cases hfits : Visit.fitsHeader (Link.paramText param) = true
  · rw [if_pos hfits, if_pos hfits]
    rfl
  · rw [if_neg hfits, if_neg hfits]

namespace App

variable {app : App} {surroundings : Surroundings} {state : SiteState} {client : Nat}
  {request : Request}

section

variable {nonce : String} (hmethod : request.method = "POST")
  (hpath : request.routedPath = "/transfer")
  (hpassed : app.site.verdict? surroundings state client request = some (.passed nonce))

include hmethod hpath hpassed

/-- A transfer that passes is answered by its view, and the client keeps the list that the view
leaves. -/
theorem admitted_of_transfer :
    ∃ visit : Visit,
      visit.Admitted app.validator.nonceParam nonce request (state.cookies client) ∧
      (app.site.receive surroundings siteView state client request).1.result =
        (transferView visit).1 ∧
      ((app.respond surroundings state client request).2.2.cookies client).transfers =
        (transferView visit).2.exchange.cookie.transfers := by
  obtain ⟨visit, admitted, hresult, hcookie⟩ := admitted_of_passed siteView app.guard_site hpassed
  obtain rfl := admitted.request_eq
  rw [siteView_of_transfer hmethod hpath] at hresult hcookie
  exact ⟨visit, admitted, hresult, congrArg Cookie.transfers hcookie⟩

/-- A row of digits becomes the last number on the list, also where no redirect can be sent. -/
theorem respond_of_row (hrow : isRow (postedAmount request) = true) :
    ((app.respond surroundings state client request).2.2.cookies client).transfers =
        (state.cookies client).transfers ++ [rowValue (postedAmount request)] ∧
      if Visit.fitsHeader (Link.paramText app.validator.nonceParam) = true then
        ∃ location, (app.respond surroundings state client request).1 =
          ⟨302, .nothing, some location⟩
      else (app.respond surroundings state client request).1 = .bare failureStatus := by
  obtain ⟨visit, admitted, hresult, hlater⟩ := admitted_of_transfer hmethod hpath hpassed
  obtain rfl := admitted.request_eq
  rw [transferView_of_row hrow] at hresult hlater
  rw [transfers_recordTransfer, admitted.transfers_eq] at hlater
  refine ⟨hlater, ?_⟩
  have hasNonce : (recordTransfer visit (postedAmount visit.request)
      (rowValue (postedAmount visit.request))).HasNonce app.validator.nonceParam nonce :=
    ⟨admitted.issued_eq, admitted.nonce_plain, admitted.nonce_ne_empty⟩
  obtain ⟨location, hredirect⟩ := doneRedirect_cases hasNonce (postedAmount visit.request)
  split
  · next hfits =>
      rw [if_pos hfits] at hredirect
      exact ⟨location, respond_of_ok (hresult.trans hredirect)⟩
  · next hbreak =>
      rw [if_neg hbreak] at hredirect
      exact respond_of_error (hresult.trans hredirect)

/-- Any other text leaves the list as it was. -/
theorem respond_of_not_row (hrow : isRow (postedAmount request) = false) :
    ((app.respond surroundings state client request).2.2.cookies client).transfers =
        (state.cookies client).transfers ∧
      (app.respond surroundings state client request).1 =
        if isAmount (postedAmount request) = true then .bare failureStatus
        else ⟨400, .text "Invalid amount", none⟩ := by
  obtain ⟨visit, admitted, hresult, hlater⟩ := admitted_of_transfer hmethod hpath hpassed
  obtain rfl := admitted.request_eq
  obtain ⟨hkept, hreply⟩ := transferView_of_not_row hrow
  refine ⟨by rw [hlater, hkept, admitted.transfers_eq], ?_⟩
  split
  · next hamount =>
      rw [if_pos hamount] at hreply
      obtain ⟨cause, herror, hfailure⟩ := hreply
      exact (respond_of_error (hresult.trans herror)).trans (congrArg Reply.bare (hfailure _))
  · next hamount =>
      rw [if_neg hamount] at hreply
      exact respond_of_ok (hresult.trans hreply)

end

/-- The answer to a transfer that passes, for every text that may be posted as its amount. -/
theorem respond_of_transfer {nonce : String} (hmethod : request.method = "POST")
    (hpath : request.routedPath = "/transfer")
    (hpassed : app.site.verdict? surroundings state client request = some (.passed nonce)) :
    let amount := postedAmount request
    let before := (state.cookies client).transfers
    let answer := (app.respond surroundings state client request).1
    let later := ((app.respond surroundings state client request).2.2.cookies client).transfers
    if isRow amount = true then
      later = before ++ [rowValue amount] ∧
        if Visit.fitsHeader (Link.paramText app.validator.nonceParam) = true then
          ∃ location, answer = ⟨302, .nothing, some location⟩
        else answer = .bare failureStatus
    else
      later = before ∧
        answer =
          if isAmount amount = true then .bare failureStatus
          else ⟨400, .text "Invalid amount", none⟩ := by
  intro amount before answer later
  split
  · next hrow => exact respond_of_row hmethod hpath hpassed hrow
  · next hrow => exact respond_of_not_row hmethod hpath hpassed (Bool.eq_false_iff.mpr hrow)

/-- A transfer of an amount without a nonce, as a stranger posts it. -/
def postOf (amount : String) : Request where
  host := "localhost"
  sentMethod := "POST"
  sentPath := "/transfer"
  query := []
  form := [(amountKey, amount)]

theorem respond_of_transfer_fullwidth :
    ∃ app, build briefSettings strictConfig = .ok app ∧
      app.site.verdict? countingSurroundings (start briefSettings 0) 0 (postOf " ０７ ") =
        some (.passed "01") ∧
      let outcome := app.respond countingSurroundings (start briefSettings 0) 0 (postOf " ０７ ")
      (outcome.2.2.cookies 0).transfers = [7] ∧
        ∃ location, outcome.1 = ⟨302, .nothing, some location⟩ := by
  have hrun : (build briefSettings strictConfig).map (fun app =>
      (app.site.verdict? countingSurroundings (start briefSettings 0) 0 (postOf " ０７ "),
        Visit.fitsHeader (Link.paramText app.validator.nonceParam))) =
      .ok (some (.passed "01"), true) := by
    decide +kernel
  obtain ⟨app, hbuild, happ⟩ := exists_of_map_eq_ok hrun
  obtain ⟨hpassed, hfits⟩ := Prod.mk.inj happ
  have hrow : isRow (postedAmount (postOf " ０７ ")) = true := by decide +kernel
  have hvalue : rowValue (postedAmount (postOf " ０７ ")) = 7 := by decide +kernel
  have hanswer := respond_of_transfer (show (postOf " ０７ ").method = "POST" by decide +kernel)
    (show (postOf " ０７ ").routedPath = "/transfer" by decide +kernel) hpassed
  dsimp only at hanswer
  rw [if_pos hrow, if_pos hfits, hvalue] at hanswer
  exact ⟨app, hbuild, hpassed, hanswer⟩

/-- It is not so that every posted text is refused or accepted: a superscript is let through as a
digit and then cannot be read. -/
theorem superscript_fails :
    ¬ ∀ (settings : Settings) (config : SiteConfig) (app : App) (surroundings : Surroundings)
      (now : Int) (before : List VisitEvent) (client : Nat) (request : Request) (nonce : String),
      build settings config = .ok app → config.secretKey.getD settings.secretKey ≠ "" →
      surroundings.Reliable → request.method = "POST" → request.routedPath = "/transfer" →
      let state := app.site.after surroundings siteView (start settings now) before
      let before := (state.cookies client).transfers
      let answer := (app.respond surroundings state client request).1
      let later := ((app.respond surroundings state client request).2.2.cookies client).transfers
      app.site.verdict? surroundings state client request = some (.passed nonce) →
        answer = ⟨400, .text "Invalid amount", none⟩ ∧ later = before ∨
          answer.status = 302 ∧ later = before ++ [rowValue (postedAmount request)] := by
  intro hclaim
  have hrun : (build briefSettings strictConfig).map (fun app =>
      (app.site.verdict? countingSurroundings (start briefSettings 0) 0 (postOf "²"),
        (app.respond countingSurroundings (start briefSettings 0) 0 (postOf "²")).1)) =
      .ok (some (.passed "01"), .bare failureStatus) := by
    decide +kernel
  obtain ⟨app, hbuild, happ⟩ := exists_of_map_eq_ok hrun
  obtain ⟨hpassed, hanswer⟩ := Prod.mk.inj happ
  have hcases := hclaim briefSettings strictConfig app countingSurroundings 0 [] 0 (postOf "²") "01"
    hbuild (by decide) reliable_countingSurroundings (by decide +kernel) (by decide +kernel) hpassed
  rcases hcases with ⟨hrefused, -⟩ | ⟨hredirect, -⟩
  · exact absurd (hanswer.symm.trans hrefused) (by decide)
  · exact absurd ((congrArg Reply.status hanswer).symm.trans hredirect) (by decide)

end App

end CsrfGuard.Demo
