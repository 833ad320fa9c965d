import CsrfGuard.Proofs.Demo.TransferAnswer
import Mathlib.Data.List.DropRight

/-!
# The list of a client's transfers

The transfers of a client are kept in the client's cookie, next to the identifier of its session.
The guard writes into this cookie whenever it creates a session, and requests may end before they
come to a view. This file shows that the list comes through all of it: whatever has happened to the
site and its clients, it holds the amounts of the client's own accepted transfers since the client
last lost its cookie, in their order, and `/history` shows just that list (`transfers_of_run`).

## Strategy

What is *observed* of a happening is what can be seen from outside: who asked for what, the verdict
of the guard and the answer. The list is read off the observations (`amounts`). One happening
changes the list as its observation says (`transfers_react`), and the rest is an induction over the
happenings, the latest one last.

Transfers are accepted by the text that was posted and not by the answer. The two come to the same
unless the name of the nonce parameter has a line break in it: then a transfer is put on the list
although the redirect behind it cannot be sent (`status_of_accepted`).
-/

namespace CsrfGuard.Demo

open Web
open Text.Numeral (isRow rowValue)

/-! ## The view of the list -/

theorem viewOf_history (visit : Visit) : viewOf .history visit = (historyView visit, visit) := rfl

/-- Who asks for the list of transfers and is answered in the affirmative gets to see it, unless no
body was asked for. -/
theorem siteView_history {visit : Visit} {param : Option String} {nonce : String}
    (hasNonce : visit.HasNonce param nonce) (hpath : visit.request.routedPath = "/history") :
    ∃ reply, (siteView visit).1 = .ok reply ∧
      (reply.status = 200 →
        (∃ backUrl, reply.content = .page (.history visit.exchange.cookie.transfers backUrl)) ∨
          (visit.request.method = "HEAD" ∨ visit.request.method = "OPTIONS") ∧
            reply.content = .text "") := by
  have hentry : (Route.history, "history", "/history") ∈ Route.paths := by decide
  have hfind := Finding.find_of_path hentry visit.request.method
  rw [← hpath] at hfind
  split at hfind
  · obtain ⟨backUrl, hview, -⟩ := historyView_eq hasNonce
    rw [siteView_of_route hfind, routeView]
    split
    · next hoptions => exact ⟨.ok (.text ""), rfl, fun _ => Or.inr ⟨Or.inr hoptions, rfl⟩⟩
    · rw [viewOf_history, hview]
      dsimp only
      split
      · next hhead =>
          have hmethod : visit.request.method = "HEAD" := by
            by_contra hother
            rw [wantsHeadOnly_eq_false hother] at hhead
            cases hhead
          exact ⟨_, rfl, fun _ => Or.inr ⟨Or.inl hmethod, rfl⟩⟩
      · exact ⟨_, rfl, fun _ => Or.inl ⟨backUrl, rfl⟩⟩
  · unfold siteView
    rw [hfind]
    exact ⟨.bare 405, rfl, fun hstatus => absurd hstatus (by decide)⟩

/-! ## What happens and what is observed -/

/-- What can happen to the site: a request, or anything else. -/
inductive Happening where
  | request (client : Nat) (request : Request)
  | act (act : ClientAct)
  deriving Repr, DecidableEq

/-- A happening as it is seen from outside, a request with the verdict on it and its answer. -/
inductive Observation where
  | request (client : Nat) (request : Request) (verdict : Option Verdict) (answer : Reply)
  | act (act : ClientAct)
  deriving Repr, DecidableEq

namespace Observation

/-- Whether a client loses its cookie. -/
def isForgetting (client : Nat) : Observation → Bool
  | .act (.forget other) => other = client
  | _ => false

/-- Whether a client posts a transfer, whatever becomes of it. -/
def isTransfer (client : Nat) : Observation → Bool
  | .request other sent _ _ =>
      other = client ∧ sent.method = "POST" ∧ sent.routedPath = "/transfer"
  | .act _ => false

/-- Whether a request passes with an amount that can be read. -/
def isAccepted : Observation → Bool
  | .request _ sent verdict _ =>
      verdict.any Verdict.isPassed ∧ isRow (postedAmount sent) = true
  | .act _ => false

def status? : Observation → Option Int
  | .request _ _ _ answer => some answer.status
  | .act _ => none

def isRedirected (observed : Observation) : Bool := observed.status? = some 302

/-- The number that the decimal digits of the posted amount stand for. -/
def amount? : Observation → Option Nat
  | .request _ sent _ _ => some (rowValue (postedAmount sent))
  | .act _ => none

/-- The amounts of those transfers of a client that count, since the client last lost its cookie. -/
def amounts (client : Nat) (counts : Observation → Bool) (seen : List Observation) : List Nat :=
  ((seen.rtakeWhile fun observed => !observed.isForgetting client).filter fun observed =>
    observed.isTransfer client && counts observed).filterMap amount?

theorem amounts_append_singleton (client : Nat) (counts : Observation → Bool)
    (seen : List Observation) (last : Observation) :
    amounts client counts (seen ++ [last]) =
      if last.isForgetting client = true then []
      else amounts client counts seen ++
        if (last.isTransfer client && counts last) = true then last.amount?.toList else [] := by
  unfold amounts
  split
  · next hforget =>
      rw [List.rtakeWhile_concat_neg _ _ _ (by simp [hforget])]
      rfl
  · next hkeep =>
      rw [List.rtakeWhile_concat_pos _ _ _ (by simp [hkeep]), List.filter_append,
        List.filterMap_append]
      congr 1
      cases hcounts : last.isTransfer client && counts last with
      | false => simp [hcounts]
      | true => cases hamount : last.amount? <;> simp [hcounts, hamount]

/-- Amounts do not depend on how those happenings count that are no transfers of the client. -/
theorem amounts_congr {client : Nat} {counts others : Observation → Bool} {seen : List Observation}
    (hsame : ∀ observed ∈ seen, observed.isTransfer client = true →
      counts observed = others observed) :
    amounts client counts seen = amounts client others seen := by
  unfold amounts
  refine congrArg (List.filterMap amount?) (List.filter_congr fun observed hmem => ?_)
  cases htransfer : observed.isTransfer client with
  | false => rfl
  | true => exact hsame observed ((List.rtakeWhile_suffix _ seen).subset hmem) htransfer

end Observation

namespace App

variable (app : App) (surroundings : Surroundings)

def react (state : SiteState) : Happening → SiteState
  | .request client request => (app.respond surroundings state client request).2.2
  | .act act => state.act act

def after (state : SiteState) (happenings : List Happening) : SiteState :=
  happenings.foldl (app.react surroundings) state

def observation (state : SiteState) : Happening → Observation
  | .request client request =>
      .request client request (app.site.verdict? surroundings state client request)
        (app.respond surroundings state client request).1
  | .act act => .act act

/-- What is observed of happenings, each in the state that the ones before it have led to. -/
def observe (state : SiteState) : List Happening → List Observation
  | [] => []
  | happening :: rest =>
      app.observation surroundings state happening ::
        observe (app.react surroundings state happening) rest

theorem after_append_singleton (state : SiteState) (happenings : List Happening)
    (last : Happening) :
    app.after surroundings state (happenings ++ [last]) =
      app.react surroundings (app.after surroundings state happenings) last := by
  simp only [after, List.foldl_append, List.foldl_cons, List.foldl_nil]

theorem observe_append_singleton (state : SiteState) (happenings : List Happening)
    (last : Happening) :
    app.observe surroundings state (happenings ++ [last]) =
      app.observe surroundings state happenings ++
        [app.observation surroundings (app.after surroundings state happenings) last] := by
  induction happenings generalizing state with
  | nil => rfl
  | cons first rest ih =>
      rw [List.cons_append, observe, observe, ih, List.cons_append]
      rfl

variable {app surroundings}

theorem exists_of_mem_observe {state : SiteState} {happenings : List Happening}
    {observed : Observation} (hmem : observed ∈ app.observe surroundings state happenings) :
    ∃ state happening, observed = app.observation surroundings state happening := by
  induction happenings generalizing state with
  | nil => cases hmem
  | cons first rest ih =>
      rcases List.mem_cons.mp hmem with rfl | hrest
      · exact ⟨state, first, rfl⟩
      · exact ih hrest

/-! ## One happening -/

theorem isTransfer_observation {state : SiteState} {client other : Nat} {request : Request} :
    (app.observation surroundings state (.request other request)).isTransfer client = true ↔
      other = client ∧ request.method = "POST" ∧ request.routedPath = "/transfer" :=
  decide_eq_true_iff

theorem isAccepted_observation {state : SiteState} {client : Nat} {request : Request} :
    (app.observation surroundings state (.request client request)).isAccepted = true ↔
      (∃ nonce, app.site.verdict? surroundings state client request = some (.passed nonce)) ∧
        isRow (postedAmount request) = true := by
  have hpassed : ∀ verdict : Option Verdict,
      verdict.any Verdict.isPassed = true ↔ ∃ nonce, verdict = some (.passed nonce) := by
    rintro (_ | _ | nonce) <;> simp [Verdict.isPassed]
  rw [← hpassed]
  exact decide_eq_true_iff

/-- A request adds to the list of its client the amount of an accepted transfer, and nothing
otherwise. -/
theorem transfers_respond (state : SiteState) (client : Nat) (request : Request) :
    let observed := app.observation surroundings state (.request client request)
    ((app.respond surroundings state client request).2.2.cookies client).transfers =
      (state.cookies client).transfers ++
        if (observed.isTransfer client && observed.isAccepted) = true then
          [rowValue (postedAmount request)]
        else [] := by
  intro observed
  have hcounts : (observed.isTransfer client && observed.isAccepted) = true ↔
      (client = client ∧ request.method = "POST" ∧ request.routedPath = "/transfer") ∧
        (∃ nonce, app.site.verdict? surroundings state client request = some (.passed nonce)) ∧
        isRow (postedAmount request) = true := by
    rw [Bool.and_eq_true, isTransfer_observation, isAccepted_observation]
  obtain ⟨cause, hstopped, -, hkept⟩ | ⟨visit, nonce, hpassed, admitted, -, hcookie⟩ :=
    receive_cases app.guard_site surroundings siteView state client request
  · rw [if_neg fun hboth => (hcounts.mp hboth).2.1.elim hstopped, List.append_nil]
    exact hkept
  · by_cases htransfer : request.method = "POST" ∧ request.routedPath = "/transfer"
    · obtain ⟨hmethod, hpath⟩ := htransfer
      cases hrow : isRow (postedAmount request) with
      | true =>
          rw [if_pos (hcounts.mpr ⟨⟨rfl, hmethod, hpath⟩, ⟨nonce, hpassed⟩, hrow⟩)]
          exact (respond_of_row hmethod hpath hpassed hrow).1
      | false =>
          rw [if_neg (by simp [hcounts, hrow]), List.append_nil]
          exact (respond_of_not_row hmethod hpath hpassed hrow).1
    · rw [if_neg fun hboth => htransfer (hcounts.mp hboth).1.2, List.append_nil,
        ← admitted.transfers_eq]
      obtain rfl := admitted.request_eq
      rw [siteView_of_no_transfer htransfer] at hcookie
      exact congrArg Cookie.transfers hcookie

/-- Nothing but a request or a lost cookie does anything to the list of a client. -/
theorem transfers_act (state : SiteState) (act : ClientAct) (client : Nat) :
    ((state.act act).cookies client).transfers =
      if act = .forget client then [] else (state.cookies client).transfers := by
  cases act with
  | advance milliseconds => rfl
  | forget other =>
      by_cases hother : client = other
      · subst hother
        simp [SiteState.act, SiteState.setCookie, Cookie.empty]
      · simp [SiteState.act, SiteState.setCookie, hother, Ne.symm hother]
  | setSessionId other id =>
      by_cases hother : client = other
      · subst hother
        simp [SiteState.act, SiteState.setCookie]
      · simp [SiteState.act, SiteState.setCookie, hother]
  | invalidate other =>
      dsimp only [SiteState.act]
      split <;> simp

/-- What one happening does to the list of a client, told from its observation. -/
theorem transfers_react (state : SiteState) (happening : Happening) (client : Nat) :
    let observed := app.observation surroundings state happening
    ((app.react surroundings state happening).cookies client).transfers =
      if observed.isForgetting client = true then []
      else (state.cookies client).transfers ++
        if (observed.isTransfer client && observed.isAccepted) = true then
          observed.amount?.toList
        else [] := by
  intro observed
  cases happening with
  | request other request =>
      rw [if_neg (show ¬ observed.isForgetting client = true from Bool.false_ne_true)]
      by_cases hother : client = other
      · subst hother
        exact transfers_respond state client request
      · have hforeign : observed.isTransfer client = false :=
          Bool.eq_false_iff.mpr fun htransfer => hother (isTransfer_observation.mp htransfer).1.symm
        rw [hforeign, Bool.false_and, if_neg Bool.false_ne_true, List.append_nil]
        exact congrArg Cookie.transfers
          (cookies_receive_of_ne app.site surroundings siteView state hother request)
  | act act =>
      have hforget : observed.isForgetting client = true ↔ act = .forget client := by
        cases act <;> simp [observed, observation, Observation.isForgetting]
      have htransfer : observed.isTransfer client = false := rfl
      rw [htransfer, Bool.false_and, if_neg Bool.false_ne_true, List.append_nil]
      simp only [hforget]
      exact transfers_act state act client

/-! ## Answers -/

/-- An accepted transfer is answered by a redirect, or as a failure where none can be sent. -/
theorem status_of_accepted {state : SiteState} {happening : Happening} {client : Nat}
    (htransfer : (app.observation surroundings state happening).isTransfer client = true)
    (haccepted : (app.observation surroundings state happening).isAccepted = true) :
    (app.observation surroundings state happening).status? =
      some (if Visit.fitsHeader (Link.paramText app.validator.nonceParam) = true then 302
        else failureStatus) := by
  cases happening with
  | act act => cases htransfer
  | request other request =>
      obtain ⟨-, hmethod, hpath⟩ := isTransfer_observation.mp htransfer
      obtain ⟨⟨nonce, hpassed⟩, hrow⟩ := isAccepted_observation.mp haccepted
      obtain ⟨-, hanswer⟩ := respond_of_row hmethod hpath hpassed hrow
      refine congrArg some ?_
      split at hanswer
      · next hfits =>
          obtain ⟨location, hredirect⟩ := hanswer
          rw [hredirect, if_pos hfits]
      · next hbreak =>
          rw [hanswer, if_neg hbreak]
          rfl

/-- Any other transfer is not answered by a redirect. -/
theorem status_of_not_accepted {state : SiteState} {happening : Happening} {client : Nat}
    (htransfer : (app.observation surroundings state happening).isTransfer client = true)
    (hrefused : ¬ (app.observation surroundings state happening).isAccepted = true) :
    (app.observation surroundings state happening).status? ≠ some 302 := by
  cases happening with
  | act act => cases htransfer
  | request other request =>
      obtain ⟨-, hmethod, hpath⟩ := isTransfer_observation.mp htransfer
      rw [isAccepted_observation, not_and] at hrefused
      refine mt Option.some_inj.mp ?_
      obtain ⟨cause, -, herror, -⟩ | ⟨visit, nonce, hpassed, -⟩ :=
        receive_cases app.guard_site surroundings siteView state other request
      · rw [respond_of_error herror]
        exact surroundings.refusals.errorStatus_ne_of_lt cause (by decide)
      · have hrow := Bool.eq_false_iff.mpr (hrefused ⟨nonce, hpassed⟩)
        rw [(respond_of_not_row hmethod hpath hpassed hrow).2]
        split
        · exact (by decide : failureStatus ≠ 302)
        · exact (by decide : (400 : Int) ≠ 302)

/-- Where redirects can be sent, a transfer is accepted exactly if it is answered by one. -/
theorem isRedirected_eq_isAccepted
    (hfits : Visit.fitsHeader (Link.paramText app.validator.nonceParam) = true)
    {state : SiteState} {happening : Happening} {client : Nat}
    (htransfer : (app.observation surroundings state happening).isTransfer client = true) :
    (app.observation surroundings state happening).isRedirected =
      (app.observation surroundings state happening).isAccepted := by
  cases haccepted : (app.observation surroundings state happening).isAccepted with
  | true =>
      have hstatus := status_of_accepted htransfer haccepted
      rw [if_pos hfits] at hstatus
      exact decide_eq_true hstatus
  | false =>
      exact decide_eq_false (status_of_not_accepted htransfer (by simp [haccepted]))

/-- What `/history` shows is the list as it is in the client's cookie. -/
theorem respond_history {state : SiteState} {client : Nat} {request : Request}
    (hpath : request.routedPath = "/history")
    (hstatus : (app.respond surroundings state client request).1.status = 200) :
    (∃ backUrl, (app.respond surroundings state client request).1.content =
        .page (.history (state.cookies client).transfers backUrl)) ∨
      (request.method = "HEAD" ∨ request.method = "OPTIONS") ∧
        (app.respond surroundings state client request).1.content = .text "" := by
  obtain ⟨cause, -, herror, -⟩ | ⟨visit, nonce, -, admitted, hresult, -⟩ :=
    receive_cases app.guard_site surroundings siteView state client request
  · rw [respond_of_error herror] at hstatus
    exact absurd hstatus (surroundings.refusals.errorStatus_ne_of_lt cause (by decide))
  · obtain rfl := admitted.request_eq
    obtain ⟨reply, hreply, hshown⟩ := siteView_history admitted.toHasNonce hpath
    rw [respond_of_ok (hresult.trans hreply)] at hstatus ⊢
    rw [← admitted.transfers_eq]
    exact hshown hstatus

/-! ## Whole runs -/

/-- The list of a client holds the amounts of its accepted transfers. -/
theorem transfers_after (surroundings : Surroundings) (settings : Settings) (now : Int)
    (happenings : List Happening) (client : Nat) :
    ((app.after surroundings (start settings now) happenings).cookies client).transfers =
      Observation.amounts client Observation.isAccepted
        (app.observe surroundings (start settings now) happenings) := by
  -- The latest happening meets the state that all before it have led to, so it is split off last.
  induction happenings using List.reverseRecOn with
  | nil => rfl
  | append_singleton before last ih =>
      rw [after_append_singleton, observe_append_singleton, Observation.amounts_append_singleton,
        transfers_react, ih]

/-- Whatever has happened, the list of a client holds the amounts of those of its transfers that
were answered by a redirect since it last lost its cookie, in their order. Where no redirect can be
sent, it holds the amounts of those that were accepted, and these were answered as failures.
`/history` shows the list whenever it answers in the affirmative, one item for each amount in the
text of the page, unless it is asked for the head only or for the methods that it answers. -/
theorem transfers_of_run (app : App) (surroundings : Surroundings) (settings : Settings) (now : Int)
    (happenings : List Happening) (client : Nat) :
    let state := app.after surroundings (start settings now) happenings
    let seen := app.observe surroundings (start settings now) happenings
    let transfers := (state.cookies client).transfers
    (if Visit.fitsHeader (Link.paramText app.validator.nonceParam) = true then
        transfers = Observation.amounts client Observation.isRedirected seen
      else
        transfers = Observation.amounts client Observation.isAccepted seen ∧
          ∀ observed ∈ seen, observed.isTransfer client = true → observed.isAccepted = true →
            observed.status? = some failureStatus) ∧
      ∀ request, request.routedPath = "/history" →
        let answer := (app.respond surroundings state client request).1
        answer.status = 200 →
          (∃ backUrl, answer.content = .page (.history transfers backUrl)) ∧
              answer.content.body.map (Text.Markup.texts "li") = some (transfers.map toString) ∨
            (request.method = "HEAD" ∨ request.method = "OPTIONS") ∧
              answer.content = .text "" := by
  intro state seen transfers
  have hlist : transfers = Observation.amounts client Observation.isAccepted seen :=
    transfers_after surroundings settings now happenings client
  constructor
  · split
    · next hfits =>
        rw [hlist]
        refine Observation.amounts_congr fun observed hmem htransfer => ?_
        obtain ⟨before, happening, rfl⟩ := exists_of_mem_observe hmem
        exact (isRedirected_eq_isAccepted hfits htransfer).symm
    · next hbreak =>
        refine ⟨hlist, fun observed hmem htransfer haccepted => ?_⟩
        obtain ⟨before, happening, rfl⟩ := exists_of_mem_observe hmem
        rw [status_of_accepted htransfer haccepted, if_neg hbreak]
  · intro request hpath answer hstatus
    refine (respond_history hpath hstatus).imp_left ?_
    rintro ⟨backUrl, hshown⟩
    refine ⟨⟨backUrl, hshown⟩, ?_⟩
    rw [hshown]
    exact congrArg some (Page.texts_render_history transfers backUrl)

/-- Two clients transfer. The first loses its session, is let pass as a stranger and then fails for
want of a nonce; the second loses its cookie and starts over. -/
def twoTransferrers : List Happening :=
  [.request 0 (postOf "5"), .request 1 (postOf "7"), .act (.advance 1800001),
    .request 0 (postOf "8"), .request 0 (postOf "9"), .act (.forget 1), .request 1 (postOf "4")]

/-- The first client asks for its list, with the nonce that it got last. -/
def askForList : Request where
  host := "localhost"
  sentMethod := "GET"
  sentPath := "/history"
  query := [("CSRF_NONCE", "03")]
  form := []

theorem transfers_of_run_two_transferrers :
    ∃ app, build briefSettings strictConfig = .ok app ∧
      let state := app.after countingSurroundings (start briefSettings 0) twoTransferrers
      (state.cookies 0).transfers = [5, 8] ∧
        (app.respond countingSurroundings state 0 askForList).1.content.body.map
          (Text.Markup.texts "li") = some ["5", "8"] := by
  have hrun : (build briefSettings strictConfig).map (fun app =>
      (Visit.fitsHeader (Link.paramText app.validator.nonceParam),
        Observation.amounts 0 Observation.isRedirected
          (app.observe countingSurroundings (start briefSettings 0) twoTransferrers),
        (app.respond countingSurroundings
          (app.after countingSurroundings (start briefSettings 0) twoTransferrers) 0
            askForList).1.status)) =
      .ok (true, [5, 8], 200) := by
    decide +kernel
  obtain ⟨app, hbuild, happ⟩ := exists_of_map_eq_ok hrun
  obtain ⟨hfits, hamounts, hstatus⟩ := And.imp_right Prod.mk.inj (Prod.mk.inj happ)
  obtain ⟨hlist, hshown⟩ :=
    transfers_of_run app countingSurroundings briefSettings 0 twoTransferrers 0
  rw [if_pos hfits, hamounts] at hlist
  obtain ⟨-, hitems⟩ | ⟨hmethod, -⟩ := hshown askForList (by decide +kernel) hstatus
  · refine ⟨app, hbuild, hlist, hitems.trans ?_⟩
    rw [hlist]
    rfl
  · exact absurd hmethod (by decide +kernel)

/-- A configuration that names the nonce parameter so that no redirect can be sent. -/
def brokenNameConfig : SiteConfig := { nonceParam := some (some "a\nb") }

/-- A client that only asks which methods the list of transfers answers. -/
def askForMethods : Request where
  host := "localhost"
  sentMethod := "OPTIONS"
  sentPath := "/history"
  query := []
  form := []

/-- It is not so that a transfer which was answered as a failure never brings an amount, nor that
everyone who is answered in the affirmative gets to see the list. -/
theorem failed_transfer_listed :
    (¬ ∀ (settings : Settings) (config : SiteConfig) (app : App) (surroundings : Surroundings)
        (now : Int) (happenings : List Happening) (client : Nat),
        build settings config = .ok app → config.secretKey.getD settings.secretKey ≠ "" →
        ((app.after surroundings (start settings now) happenings).cookies client).transfers =
          Observation.amounts client Observation.isRedirected
            (app.observe surroundings (start settings now) happenings)) ∧
      ¬ ∀ (settings : Settings) (config : SiteConfig) (app : App) (surroundings : Surroundings)
        (now : Int) (happenings : List Happening) (client : Nat) (request : Request),
        build settings config = .ok app → config.secretKey.getD settings.secretKey ≠ "" →
        request.routedPath = "/history" →
        let state := app.after surroundings (start settings now) happenings
        let transfers := (state.cookies client).transfers
        let answer := (app.respond surroundings state client request).1
        answer.status = 200 → ∃ backUrl, answer.content = .page (.history transfers backUrl) := by
  constructor
  · intro hclaim
    have hrun : (build briefSettings brokenNameConfig).map (fun app =>
        (((app.after countingSurroundings (start briefSettings 0)
            [.request 0 (postOf "5")]).cookies 0).transfers,
          Observation.amounts 0 Observation.isRedirected
            (app.observe countingSurroundings (start briefSettings 0)
              [.request 0 (postOf "5")]))) = .ok ([5], []) := by
      decide +kernel
    obtain ⟨app, hbuild, happ⟩ := exists_of_map_eq_ok hrun
    obtain ⟨htransfers, hamounts⟩ := Prod.mk.inj happ
    have hsame := hclaim briefSettings brokenNameConfig app countingSurroundings 0
      [.request 0 (postOf "5")] 0 hbuild (by decide)
    rw [htransfers, hamounts] at hsame
    exact absurd hsame (by decide)
  · intro hclaim
    have hrun : (build briefSettings strictConfig).map (fun app =>
        (app.respond countingSurroundings (start briefSettings 0) 0 askForMethods).1) =
        .ok (.ok (.text "")) := by
      decide +kernel
    obtain ⟨app, hbuild, hanswer⟩ := exists_of_map_eq_ok hrun
    obtain ⟨backUrl, hshown⟩ := hclaim briefSettings strictConfig app countingSurroundings 0 [] 0
      askForMethods hbuild (by decide) (by decide +kernel) (congrArg Reply.status hanswer)
    exact Content.noConfusion ((congrArg Reply.content hanswer).symm.trans hshown)

end App

end CsrfGuard.Demo
