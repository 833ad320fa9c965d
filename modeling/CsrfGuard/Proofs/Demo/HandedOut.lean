import CsrfGuard.Proofs.Demo.Denials
import CsrfGuard.Proofs.Demo.PageLinks
import CsrfGuard.Proofs.Demo.Routing
import CsrfGuard.Proofs.Web.IssuedNonce
import CsrfGuard.Proofs.Web.ValidNonce

/-!
# The URLs that the demonstration site hands out

The demonstration site hands out URLs on its pages and in its redirects. This file shows that they
work (`passes_with_handedOut`): whoever is handed a URL can follow it by the method that goes with
it and is let pass, if it comes back in time and has not passed too often in the meantime. What a
transfer leads on to shows the amount that was posted, as can be read off its text.

## Strategy

A reply leads on by the links of a page, by the redirect of a transfer or not at all (`LeadsOn`),
and by which URLs is said once for all views (`leadsOn_viewOf`). Each of these URLs reads back as a
path with the nonce among its values (`CarriesNonce.read?`). The request that follows such a URL
therefore supplies the nonce that was issued with it, which is valid for as long as
`Follows.verdict?_of_issued` says.
-/

namespace CsrfGuard.Demo

open Web

/-! ## What a reply hands out -/

namespace Reply

/-- The URLs on the page that a reply shows, with the methods by which they are followed; a URL with
an anchor is not counted. -/
def onPage (reply : Reply) : List (String × String) :=
  match reply.content with
  | .page shown => (Text.Markup.targets shown.render).filter fun target => '#' ∉ target.2.toList
  | _ => []

/-- The URL to which a reply leads the client on, if it has the status of a redirect. -/
def onward (reply : Reply) : List (String × String) :=
  if reply.status = 302 then reply.location.toList.map fun url => ("GET", url) else []

/-- The URLs that a reply hands out. -/
def handedOut (reply : Reply) : List (String × String) := reply.onPage ++ reply.onward

theorem handedOut_eq_nil {reply : Reply} (hpage : ∀ shown, reply.content ≠ .page shown)
    (hstatus : reply.status ≠ 302) : reply.handedOut = [] := by
  obtain ⟨status, content, location⟩ := reply
  unfold handedOut onPage onward
  rw [if_neg hstatus]
  cases content with
  | page shown => exact absurd rfl (hpage shown)
  | text shown => rfl
  | nothing => rfl

theorem handedOut_page (shown : Page) :
    (Reply.ok (.page shown)).handedOut =
      shown.targets.filter fun target => '#' ∉ target.2.toList := by
  unfold handedOut onPage onward ok
  dsimp only
  rw [Page.targets_render, if_neg (by decide), List.append_nil]

theorem handedOut_redirect (url : String) :
    (⟨302, .nothing, some url⟩ : Reply).handedOut = [("GET", url)] := rfl

end Reply

/-! ## Views -/

theorem endpoint?_of_route : ∀ entry ∈ Route.paths,
    Address.endpoint? endpoints entry.2.1 = some ⟨entry.2.1, .page entry.2.2, entry.1.methods⟩ := by
  decide +kernel

theorem plainPath_of_route (entry : Route × String × String) (hentry : entry ∈ Route.paths) :
    Target.PlainPath entry.2.2.toList := by
  have hall : ∀ entry ∈ Route.paths, Target.staysOnHost entry.2.2.toList = true ∧
      (entry.2.2.toList.all fun c => c == '/' || Text.Percent.isUnreserved c) = true := by
    decide +kernel
  obtain ⟨hstays, hchars⟩ := hall entry hentry
  exact ⟨hstays, fun c hc => by simpa using List.all_eq_true.mp hchars c hc⟩

/-- The address of a page of the site. -/
theorem address_of_route (entry : Route × String × String) (hentry : entry ∈ Route.paths)
    (host : String) :
    Address.build endpoints host entry.2.1 [] = .ok (Target.written entry.2.2.toList []) :=
  Address.build_of_page (endpoint?_of_route entry hentry) [] (fun _ hpair => by cases hpair) host

section

variable {visit : Visit} {param nonce : String}

theorem nonceUrlFor_of_route (issued : visit.Issued param nonce)
    (entry : Route × String × String) (hentry : entry ∈ Route.paths) :
    visit.nonceUrlFor endpoints entry.2.1 [] =
      .ok (Target.written entry.2.2.toList [(param, nonce)]) := by
  unfold Visit.nonceUrlFor
  rw [address_of_route entry hentry]
  exact issued.linkTo_written (plainPath_of_route entry hentry) []

theorem indexView_eq (issued : visit.Issued param nonce) :
    indexView visit = .ok (.ok (.page (.index (Target.written "/transfer".toList [(param, nonce)])
      (Target.written "/history".toList [(param, nonce)])))) := by
  have htransfer : visit.nonceUrlFor endpoints "transfer" [] = _ :=
    nonceUrlFor_of_route issued (.transfer, "transfer", "/transfer") (by decide)
  have hhistory : visit.nonceUrlFor endpoints "history" [] = _ :=
    nonceUrlFor_of_route issued (.history, "history", "/history") (by decide)
  unfold indexView
  rw [htransfer, hhistory]
  rfl

theorem doneView_eq (issued : visit.Issued param nonce) :
    doneView visit = .ok (.ok (.page (.done ((visit.request.query.lookup amountKey).getD "")
      (Target.written "/".toList [(param, nonce)])))) := by
  have hindex : visit.nonceUrlFor endpoints "index" [] = _ :=
    nonceUrlFor_of_route issued (.index, "index", "/") (by decide)
  unfold doneView
  rw [hindex]
  rfl

/-- The list of transfers is always shown. The link on it has an anchor. -/
theorem historyView_eq {name : Option String} (hasNonce : visit.HasNonce name nonce) :
    ∃ backUrl, historyView visit =
        .ok (.ok (.page (.history visit.exchange.cookie.transfers backUrl))) ∧
      '#' ∈ backUrl.toList := by
  have hindex : Address.build endpoints visit.request.host "index" [] =
      .ok (Target.written "/".toList []) :=
    address_of_route (.index, "index", "/") (by decide) visit.request.host
  have hlink := hasNonce.linkTo_eq (Target.written "/".toList [] ++ "#top")
  refine ⟨_, ?_, hasNonce.mark_mem_linkTo ?_ hlink⟩
  · unfold historyView
    rw [hindex]
    simp only [bind, Except.bind]
    rw [hlink]
    rfl
  · simp

theorem plainPath_done : Target.PlainPath "/done".toList :=
  plainPath_of_route (.done, "done", "/done") (by decide)

theorem address_of_done (host amount : String) :
    Address.build endpoints host "done" [(amountKey, some (.text amount))] =
      .ok (Target.written "/done".toList [(amountKey, amount)]) := by
  have hkey : ∀ pair ∈ [(amountKey, amount)], pair.1 ∉ Address.reservedKeys := by
    intro pair hpair
    rw [List.mem_singleton.mp hpair]
    show amountKey ∉ Address.reservedKeys
    decide
  exact Address.build_of_page (endpoint?_of_route (.done, "done", "/done") (by decide))
    [(amountKey, amount)] hkey host

theorem doneRedirect_eq (issued : visit.Issued param nonce) (amount : String) :
    doneRedirect visit amount =
      .ok ⟨302, .nothing,
        some (Target.written "/done".toList [(amountKey, amount), (param, nonce)])⟩ := by
  unfold doneRedirect
  rw [address_of_done]
  simp only [bind, Except.bind]
  rw [issued.nonceRedirect_written plainPath_done]
  simp only [Target.escapeReference_written plainPath_done, String.ofList_toList]
  rfl

/-- A transfer is refused without being looked at further, or leads on to the page after it. -/
theorem transferView_cases (issued : visit.Issued param nonce) {reply : Reply}
    (hreply : (transferView visit).1 = .ok reply) :
    reply = ⟨400, .text "Invalid amount", none⟩ ∨
      reply = ⟨302, .nothing, some (Target.written "/done".toList
        [(amountKey, postedAmount visit.request), (param, nonce)])⟩ := by
  unfold transferView at hreply
  dsimp only at hreply
  split at hreply
  · exact Or.inl (Except.ok.inj hreply).symm
  · split at hreply
    · cases hreply
    · next number _ =>
        -- Putting the amount on the list of the client leaves the nonce of the visit as it is.
        have hlater : (recordTransfer visit (postedAmount visit.request) number.toNat).Issued param
            nonce := ⟨issued.issued_eq, issued.param_plain, issued.nonce_plain,
          issued.nonce_ne_empty⟩
        rw [doneRedirect_eq hlater] at hreply
        exact Or.inr (Except.ok.inj hreply).symm

/-- A URL that reads back as a path with a nonce as the only value of its parameter. -/
def CarriesNonce (param nonce url : String) : Prop :=
  ∃ path pairs, Target.PlainPath path ∧ pairs.lookup param = none ∧
    url = Target.written path (pairs ++ [(param, nonce)])

theorem carriesNonce_of_route (entry : Route × String × String) (hentry : entry ∈ Route.paths) :
    CarriesNonce param nonce (Target.written entry.2.2.toList [(param, nonce)]) :=
  ⟨entry.2.2.toList, [], plainPath_of_route entry hentry, rfl, rfl⟩

theorem carriesNonce_done (hamount : param ≠ amountKey) (amount : String) :
    CarriesNonce param nonce
      (Target.written "/done".toList [(amountKey, amount), (param, nonce)]) := by
  refine ⟨"/done".toList, [(amountKey, amount)],
    plainPath_of_route (.done, "done", "/done") (by decide), ?_, rfl⟩
  have hbeq : (param == amountKey) = false := by simpa using hamount
  simp [List.lookup_cons, hbeq]

theorem CarriesNonce.read? {url : String} (carries : CarriesNonce param nonce url) :
    ∃ target, Target.read? url = some target ∧ target.query.lookup param = some nonce := by
  obtain ⟨path, pairs, hpath, hlookup, rfl⟩ := carries
  refine ⟨_, Target.read?_written hpath _, ?_⟩
  simp [List.lookup_append, hlookup]

/-- How a reply to a request leads the client on: by the links on a page, by the redirect of a
transfer, or not at all. -/
inductive LeadsOn (param nonce : String) (request : Request) : Reply → Prop where
  | page {shown : Page}
      (hcarries : ∀ target ∈ shown.targets, '#' ∉ target.2.toList →
        CarriesNonce param nonce target.2) :
      LeadsOn param nonce request (.ok (.page shown))
  | redirect :
      LeadsOn param nonce request ⟨302, .nothing, some (Target.written "/done".toList
        [(amountKey, postedAmount request), (param, nonce)])⟩
  | nowhere {reply : Reply} (hpage : ∀ shown, reply.content ≠ .page shown)
      (hstatus : reply.status ≠ 302) : LeadsOn param nonce request reply

/-- The views lead the client on by URLs with the nonce of the visit. -/
theorem leadsOn_viewOf (issued : visit.Issued param nonce) {route : Route} {reply : Reply}
    (hreply : (viewOf route visit).1 = .ok reply) : LeadsOn param nonce visit.request reply := by
  cases route with
  | index =>
      have hindex : indexView visit = .ok reply := hreply
      rw [indexView_eq issued] at hindex
      cases hindex
      refine .page ?_
      simp only [Page.targets, List.mem_cons, List.not_mem_nil, or_false]
      rintro target (rfl | rfl) -
      · exact carriesNonce_of_route (.transfer, "transfer", "/transfer") (by decide)
      · exact carriesNonce_of_route (.history, "history", "/history") (by decide)
  | transfer =>
      rcases transferView_cases issued hreply with rfl | rfl
      · exact .nowhere (by simp) (by decide)
      · exact .redirect
  | done =>
      have hdone : doneView visit = .ok reply := hreply
      rw [doneView_eq issued] at hdone
      cases hdone
      refine .page ?_
      simp only [Page.targets, List.mem_singleton]
      rintro target rfl -
      exact carriesNonce_of_route (.index, "index", "/") (by decide)
  | history =>
      obtain ⟨backUrl, hhistory, hmark⟩ := historyView_eq issued.hasNonce
      have hsame : historyView visit = .ok reply := hreply
      rw [hhistory] at hsame
      cases hsame
      refine .page ?_
      simp only [Page.targets, List.mem_singleton]
      rintro target rfl hplain
      exact absurd hmark hplain
  | health =>
      cases hreply
      exact .nowhere (by simp [healthReply, Reply.ok]) (by decide)
  | staticFile =>
      cases hreply
      exact .nowhere (by simp [Reply.bare]) (by decide)

namespace LeadsOn

variable {request : Request} {reply : Reply}

/-- Without its body a reply leads on as before, or nowhere if it was a page. -/
theorem headOnly (leads : LeadsOn param nonce request reply) :
    LeadsOn param nonce request reply.headOnly := by
  cases leads with
  | page hcarries =>
      have hcontent : ∀ shown, (.text "" : Content) ≠ .page shown := by simp
      exact .nowhere hcontent (show (200 : Int) ≠ 302 by decide)
  | redirect => exact .redirect
  | nowhere hpage hstatus =>
      refine .nowhere ?_ ?_
      · unfold Reply.headOnly
        split <;> simp_all
      · unfold Reply.headOnly
        split <;> exact hstatus

theorem carriesNonce (leads : LeadsOn param nonce request reply) (hamount : param ≠ amountKey)
    {method url : String} (hurl : (method, url) ∈ reply.handedOut) :
    CarriesNonce param nonce url := by
  cases leads with
  | page hcarries =>
      rw [Reply.handedOut_page, List.mem_filter] at hurl
      exact hcarries _ hurl.1 (of_decide_eq_true hurl.2)
  | redirect =>
      rw [Reply.handedOut_redirect, List.mem_singleton, Prod.mk.injEq] at hurl
      obtain ⟨-, rfl⟩ := hurl
      exact carriesNonce_done hamount _
  | nowhere hpage hstatus =>
      rw [Reply.handedOut_eq_nil hpage hstatus] at hurl
      cases hurl

theorem eq_of_status (leads : LeadsOn param nonce request reply) (hstatus : reply.status = 302) :
    reply = ⟨302, .nothing, some (Target.written "/done".toList
      [(amountKey, postedAmount request), (param, nonce)])⟩ := by
  cases leads with
  | page hcarries => exact absurd hstatus (by simp [Reply.ok])
  | redirect => rfl
  | nowhere hpage hother => exact absurd hstatus hother

end LeadsOn

/-! ## The site -/

theorem leadsOn_siteView (issued : visit.Issued param nonce) {reply : Reply}
    (hreply : (siteView visit).1 = .ok reply) : LeadsOn param nonce visit.request reply := by
  unfold siteView at hreply
  split at hreply
  · next route _ =>
      unfold routeView at hreply
      split at hreply
      · cases hreply
        exact .nowhere (by simp [Reply.ok]) (by decide)
      · dsimp only at hreply
        split at hreply
        · cases hmade : (viewOf route visit).1 with
          | error cause =>
              rw [hmade] at hreply
              cases hreply
          | ok made =>
              -- The client wants no body and gets the reply without it.
              rw [hmade] at hreply
              cases hreply
              exact (leadsOn_viewOf issued hmade).headOnly
        · exact leadsOn_viewOf issued hreply
  · cases hreply
    exact .nowhere (by simp [Reply.bare]) (by decide)
  · cases hreply
    exact .nowhere (by simp [Reply.bare]) (by decide)
  · cases hreply
    exact .nowhere (by simp) (by simp)

/-- What a client gets that follows the redirect of a transfer. -/
theorem siteView_done (issued : visit.Issued param nonce)
    (hmethod : visit.request.sentMethod = "GET") (hpath : visit.request.sentPath = "/done") :
    (siteView visit).1 = .ok (.ok (.page (.done ((visit.request.query.lookup amountKey).getD "")
      (Target.written "/".toList [(param, nonce)])))) := by
  have hentry : (Route.done, "done", "/done") ∈ Route.paths := by decide
  have hcapitals : visit.request.method = "GET" := by
    rw [Request.method, hmethod]
    decide +kernel
  have hrouted : visit.request.routedPath = "/done" := by
    rw [Request.routedPath, Request.path, hpath]
    decide +kernel
  have hfind : Finding.find visit.request.routedPath visit.request.method = .route .done := by
    rw [hrouted, hcapitals, Finding.find_of_path hentry]
    exact if_pos (by decide)
  have hoptions : visit.request.method ≠ "OPTIONS" := hcapitals.trans_ne (by decide)
  have hhead : visit.request.method ≠ "HEAD" := hcapitals.trans_ne (by decide)
  rw [siteView_of_route hfind, routeView_eq_viewOf hoptions hhead]
  exact doneView_eq issued

end

namespace App

variable {settings : Settings} {config : SiteConfig} {app : App} {surroundings : Surroundings}

/-- A request that is answered by more than a status was issued a nonce, and the answer leads on by
URLs with this nonce. -/
theorem leadsOn_respond {param : String} (hparam : app.validator.nonceParam = some param)
    (hplain : ∀ c ∈ param.toList, Text.Percent.isUnreserved c = true)
    {state : SiteState} {client : Nat} {request : Request}
    (hnonce : ∀ nonce, app.site.verdict? surroundings state client request = some (.passed nonce) →
      nonce ≠ "" ∧ ∀ c ∈ nonce.toList, Text.Percent.isUnreserved c = true) :
    let answer := (app.respond surroundings state client request).1
    (answer.handedOut = [] ∧ answer.status ≠ 302) ∨
      ∃ nonce, app.site.verdict? surroundings state client request = some (.passed nonce) ∧
        LeadsOn param nonce request answer := by
  intro answer
  cases hresult : (app.site.receive surroundings siteView state client request).1.result with
  | error cause =>
      have hanswer : answer = errorReply surroundings.refusals cause := respond_of_error hresult
      have hstatus : answer.status ≠ 302 := by
        rw [hanswer]
        exact surroundings.refusals.errorStatus_ne_of_lt cause (by decide)
      rw [hanswer] at hstatus ⊢
      exact Or.inl ⟨Reply.handedOut_eq_nil (by simp [errorReply, Reply.bare]) hstatus, hstatus⟩
  | ok reply =>
      have hanswer : answer = reply := respond_of_ok hresult
      obtain ⟨visit, nonce, rfl, hissued, hpassed, hview⟩ :=
        visit_of_result_ok app.guard_site hresult
      obtain ⟨hne, hchars⟩ := hnonce nonce hpassed
      have issued : visit.Issued param nonce := ⟨hparam ▸ hissued, hplain, hchars, hne⟩
      rw [hanswer]
      exact Or.inr ⟨nonce, hpassed, leadsOn_siteView issued hview⟩

/-- The client that follows the redirect of a transfer in time gets to see the amount. -/
theorem respond_done {param nonce : String} (hparam : app.validator.nonceParam = some param)
    (hplain : ∀ c ∈ param.toList, Text.Percent.isUnreserved c = true)
    {state : SiteState} {client : Nat} {request : Request}
    (hmethod : request.sentMethod = "GET") (hpath : request.sentPath = "/done")
    (hpassed : app.site.verdict? surroundings state client request = some (.passed nonce))
    (hnonce : nonce ≠ "" ∧ ∀ c ∈ nonce.toList, Text.Percent.isUnreserved c = true) :
    ∃ backUrl, (app.respond surroundings state client request).1 =
      .ok (.page (.done ((request.query.lookup amountKey).getD "") backUrl)) := by
  obtain ⟨visit, admitted, hresult, -⟩ := admitted_of_passed siteView app.guard_site hpassed
  obtain rfl := admitted.request_eq
  have hissued := admitted.issued_eq
  have issued : visit.Issued param nonce := ⟨hparam ▸ hissued, hplain, hnonce.2, hnonce.1⟩
  refine ⟨Target.written "/".toList [(param, nonce)], ?_⟩
  exact respond_of_ok (hresult.trans (siteView_done issued hmethod hpath))

/-- Whatever happens to a site that could be built and can write cookies, there is a book that it
follows. -/
theorem follows_after (hwritable : app.cookieWritable = true) (reliable : surroundings.Reliable)
    (settings : Settings) (now : Int) (before : List VisitEvent) :
    ∃ book register past, Follows app.validator surroundings settings.idleMilliseconds
      (app.site.after surroundings siteView (start settings now) before) book register past := by
  have hstart : Follows app.validator surroundings settings.idleMilliseconds (start settings now)
      (.empty now) (.empty settings.idleMilliseconds) fun _ => none := Follows.initial ..
  obtain ⟨register, past, hfollows⟩ :=
    hstart.after reliable app.guard_site hwritable siteView_keepsGuard before
  exact ⟨_, register, past, hfollows⟩

theorem isUnreserved_of_word {c : Char} (hc : c.isAlphanum = true ∨ c = '_') :
    Text.Percent.isUnreserved c = true := by
  rcases hc with halphanum | rfl
  · simp [Text.Percent.isUnreserved, halphanum]
  · decide

/-- What a site that could be built has of what was set for it. -/
theorem settled_of_build (hbuild : build settings config = .ok app)
    (hkey : config.secretKey.getD settings.secretKey ≠ "") {window : Nat}
    (hwindow : (config.cacheSize.getD (.number settings.cacheSize)).read = .ok window) :
    app.cookieWritable = true ∧
      app.validator.nonceParam = config.nonceParam.getD (some settings.nonceParam) ∧
      app.validator.slot.capacity.size = window := by
  obtain ⟨generator, -, -, hcookies⟩ := of_build_eq_ok hbuild
  have hrules := rules_of_build hbuild hwindow ⟨fun _ _ => .ok []⟩
  refine ⟨?_, congrArg HouseRules.nonceParam hrules, congrArg HouseRules.window hrules⟩
  rw [hcookies]
  exact decide_eq_true hkey

/-- The URLs that the site hands out work. In every state that its clients can bring about, an
answer with links or with a redirect was given to a request that passed, and each of its URLs reads
back as a path and values, with the nonce just issued as the first value of its parameter. If the
same client asks for this path with these values by the method that goes with the URL, it is let
pass, as long as it has stayed in touch and has passed fewer times in the meantime than there are
valid nonces. After a transfer it is then shown the page with the amount that it posted, which is
all that the text of the page says in a paragraph. -/
theorem passes_with_handedOut (hbuild : build settings config = .ok app)
    (hkey : config.secretKey.getD settings.secretKey ≠ "") {window : Nat}
    (hwindow : (config.cacheSize.getD (.number settings.cacheSize)).read = .ok window)
    {param : String} (hparam : config.nonceParam.getD (some settings.nonceParam) = some param)
    (hword : ∀ c ∈ param.toList, c.isAlphanum = true ∨ c = '_') (hamount : param ≠ amountKey)
    (reliable : surroundings.Reliable) (now : Int) (before : List VisitEvent) (client : Nat)
    (request : Request) :
    let state := app.site.after surroundings siteView (start settings now) before
    let answer := (app.respond surroundings state client request).1
    let next := (app.respond surroundings state client request).2.2
    (answer.status = 302 → ∃ url, answer.onward = [("GET", url)]) ∧
      ∀ method url, (method, url) ∈ answer.handedOut → ∃ nonce target,
        app.site.verdict? surroundings state client request = some (.passed nonce) ∧
        Target.read? url = some target ∧ target.query.lookup param = some nonce ∧
        ∀ between, StaysInTouch client settings.idleMilliseconds 0 between →
          app.site.passes surroundings siteView client next between < window →
          ∀ host form,
            let last := app.site.after surroundings siteView next between
            let following := target.request host method form
            (∃ later, app.site.verdict? surroundings last client following =
              some (.passed later)) ∧
            (answer.status = 302 →
              let shown := (app.respond surroundings last client following).1
              (∃ backUrl, shown = .ok (.page (.done (postedAmount request) backUrl))) ∧
                shown.content.body.map (Text.Markup.texts "p") =
                  some ["Sent " ++ postedAmount request ++ "."]) := by
  intro state answer next
  obtain ⟨hwritable, hname, hroom⟩ := settled_of_build hbuild hkey hwindow
  rw [hparam] at hname
  have hplain : ∀ c ∈ param.toList, Text.Percent.isUnreserved c = true :=
    fun c hc => isUnreserved_of_word (hword c hc)
  have hguard : app.site.guard = some app.validator := rfl
  obtain ⟨book, register, past, follows⟩ := follows_after hwritable reliable settings now before
  have hleads : (answer.handedOut = [] ∧ answer.status ≠ 302) ∨ ∃ nonce,
      app.site.verdict? surroundings state client request = some (.passed nonce) ∧
        LeadsOn param nonce request answer :=
    leadsOn_respond hname hplain fun _ => follows.nonce_of_passed reliable hguard hwritable
  rcases hleads with ⟨hnone, hstatus⟩ | ⟨nonce, hpassed, leads⟩
  · refine ⟨fun hredirect => absurd hredirect hstatus, fun method url hurl => ?_⟩
    rw [hnone] at hurl
    cases hurl
  have hredirect := leads.eq_of_status
  constructor
  · intro hstatus
    rw [hredirect hstatus]
    exact ⟨_, rfl⟩
  intro method url hurl
  obtain ⟨target, hread, hlookup⟩ := (leads.carriesNonce hamount hurl).read?
  refine ⟨nonce, target, hpassed, hread, hlookup, ?_⟩
  intro between htouch hfew host form last following
  have hsupplied : app.validator.nonceParam.bind following.parameter? = some nonce := by
    rw [hname]
    exact Target.parameter?_request hlookup host method form
  obtain ⟨hne, -⟩ := follows.nonce_of_passed reliable hguard hwritable hpassed
  obtain ⟨later, hlater⟩ := follows.verdict?_of_issued reliable hguard hwritable
    siteView_keepsGuard hne hpassed htouch (hroom ▸ hfew) hsupplied
  refine ⟨⟨later, hlater⟩, ?_⟩
  intro hstatus shown
  -- The URL is now that of the page after a transfer, with the amount ahead of the nonce.
  rw [hredirect hstatus, Reply.handedOut_redirect, List.mem_singleton, Prod.mk.injEq] at hurl
  obtain ⟨rfl, rfl⟩ := hurl
  have hdone := Target.read?_written (plainPath_of_route (.done, "done", "/done") (by decide))
    [(amountKey, postedAmount request), (param, nonce)]
  cases hdone.symm.trans hread
  obtain ⟨_, _, hnext⟩ :=
    (follows.receive reliable hguard hwritable siteView_keepsGuard client request).2
  obtain ⟨_, _, hlast⟩ := hnext.after reliable hguard hwritable siteView_keepsGuard between
  obtain ⟨backUrl, hshown⟩ : ∃ backUrl, shown = .ok (.page (.done (postedAmount request) backUrl)) :=
    respond_done hname hplain rfl rfl hlater
      (hlast.nonce_of_passed reliable hguard hwritable hlater)
  refine ⟨⟨backUrl, hshown⟩, ?_⟩
  rw [hshown]
  exact congrArg some (Page.texts_render_done (postedAmount request) backUrl)

def postTen : Request where
  host := "localhost"
  sentMethod := "POST"
  sentPath := "/transfer"
  query := []
  form := [(amountKey, " 10 ")]

/-- Another client comes, the first one fails with a nonce that it never had and then stays away for
as long as it may. -/
def meantime : List VisitEvent :=
  [.request 1 (transferWith ""), .request 0 (transferWith "FF"), .wait 1800000]

theorem passes_with_handedOut_one_transfer :
    ∃ app, build briefSettings strictConfig = .ok app ∧
      let answer := app.respond countingSurroundings (start briefSettings 0) 0 postTen
      let last := app.site.after countingSurroundings siteView answer.2.2 meantime
      ("GET", "/done?amount=10&CSRF_NONCE=01") ∈ answer.1.handedOut ∧
        ∃ target, Target.read? "/done?amount=10&CSRF_NONCE=01" = some target ∧
          (∃ later, app.site.verdict? countingSurroundings last 0
            (target.request "localhost" "GET" []) = some (.passed later)) ∧
          (app.respond countingSurroundings last 0
            (target.request "localhost" "GET" [])).1.content.body.map (Text.Markup.texts "p") =
              some ["Sent 10."] := by
  have hrun : (build briefSettings strictConfig).map (fun app =>
      let answer := app.respond countingSurroundings (start briefSettings 0) 0 postTen
      (answer.1.status, answer.1.handedOut,
        app.site.passes countingSurroundings siteView 0 answer.2.2 meantime)) =
      .ok (302, [("GET", "/done?amount=10&CSRF_NONCE=01")], 0) := by
    decide +kernel
  cases hbuild : build briefSettings strictConfig with
  | error cause =>
      rw [hbuild] at hrun
      cases hrun
  | ok app =>
      rw [hbuild] at hrun
      obtain ⟨hstatus, hurls, hpasses⟩ :=
        And.imp_right Prod.mk.inj (Prod.mk.inj (Except.ok.inj hrun))
      have hwindow : (strictConfig.cacheSize.getD (.number briefSettings.cacheSize)).read =
          .ok ((1 : Nat) : Int) := by decide +kernel
      have hurl : ("GET", "/done?amount=10&CSRF_NONCE=01") ∈ (app.respond countingSurroundings
          (start briefSettings 0) 0 postTen).1.handedOut := by
        rw [hurls]
        exact List.mem_singleton_self _
      have hchars : ("CSRF_NONCE".toList.all fun c => c.isAlphanum || c == '_') = true := by decide
      have hword : ∀ c ∈ "CSRF_NONCE".toList, c.isAlphanum = true ∨ c = '_' :=
        fun c hc => by simpa using List.all_eq_true.mp hchars c hc
      have htouch : StaysInTouch 0 briefSettings.idleMilliseconds 0 meantime := by decide
      obtain ⟨-, hwork⟩ := passes_with_handedOut hbuild (by decide) hwindow rfl hword (by decide)
        reliable_countingSurroundings 0 [] 0 postTen
      obtain ⟨nonce, target, -, hread, -, hfollow⟩ := hwork _ _ hurl
      obtain ⟨hlater, hshown⟩ :=
        hfollow meantime htouch (lt_of_eq_of_lt hpasses Nat.zero_lt_one) "localhost" []
      exact ⟨app, rfl, hurl, target, hread, hlater, (hshown hstatus).2⟩

end App

end CsrfGuard.Demo
