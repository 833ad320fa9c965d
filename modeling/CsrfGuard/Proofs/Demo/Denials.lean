import CsrfGuard.Demo.App
import CsrfGuard.Proofs.Web.Options
import CsrfGuard.Proofs.Web.Screening

/-!
# Which requests the demonstration site denies

The demonstration site denies exactly the requests that its visitor book denies
(`verdicts_eq_verdicts_book`): whatever its settings and configuration, as long as the site can be
built, and whatever requests its clients make in whatever order, routed or not. What a view does
comes after the guard and leaves it alone (`siteView_keepsGuard`).

## Strategy

The rules are read off settings and configuration (`App.rules`), and a site that could be built
judges by them (`rules_of_build`). The rest is an induction over the events, by one step of the
simulation for each.
-/

namespace CsrfGuard.Demo

open Web

/-! ## Views leave the guard alone -/

theorem transferView_keepsGuard : View.KeepsGuard transferView := by
  intro visit
  unfold transferView
  dsimp only
  split
  · exact ⟨rfl, rfl⟩
  · split
    · exact ⟨rfl, rfl⟩
    · exact ⟨rfl, rfl⟩

theorem viewOf_keepsGuard (route : Route) : View.KeepsGuard (viewOf route) := by
  cases route with
  | transfer => exact transferView_keepsGuard
  | _ => exact fun _ => ⟨rfl, rfl⟩

theorem routeView_keepsGuard (route : Route) : View.KeepsGuard (routeView route) := by
  intro visit
  unfold routeView
  split
  · exact ⟨rfl, rfl⟩
  · dsimp only
    split
    · exact viewOf_keepsGuard route visit
    · exact viewOf_keepsGuard route visit

theorem siteView_keepsGuard : View.KeepsGuard siteView := by
  intro visit
  unfold siteView
  split
  · next route _ => exact routeView_keepsGuard route visit
  · exact ⟨rfl, rfl⟩
  · exact ⟨rfl, rfl⟩
  · exact ⟨rfl, rfl⟩

namespace App

/-! ## The rules of a site -/

/-- The entry points that settings and configuration name. -/
def entryPoints (settings : Settings) (config : SiteConfig) : EntryPoints :=
  .ofListing? <| config.entryPoints.getD <| some <| .text <|
    if settings.entryPoints = "" then defaultEntryPoints else settings.entryPoints

/-- The rules that settings and configuration make, apart from the number of valid nonces, which has
to be read. -/
def rules (settings : Settings) (config : SiteConfig) (window : Nat) (source : RandomSource) :
    HouseRules where
  idleLimit := settings.idleMilliseconds
  entryPoints := entryPoints settings config
  nonceParam := config.nonceParam.getD (some settings.nonceParam)
  window
  nonce := nonceOfCall settings.nonceBytes.toNat source

variable {settings : Settings} {config : SiteConfig} {app : App}

theorem numBytes_of_ofNumBytes {numBytes : Int} {generator : NonceGenerator}
    (hgenerator : NonceGenerator.ofNumBytes numBytes = .ok generator) :
    generator.numBytes = numBytes.toNat := by
  unfold NonceGenerator.ofNumBytes at hgenerator
  split at hgenerator
  · cases hgenerator
    rfl
  · cases hgenerator

/-- A site that could be built has the validator that was asked for, and can write cookies if it has
a key. -/
theorem of_build_eq_ok (hbuild : build settings config = .ok app) :
    ∃ generator, NonceGenerator.ofNumBytes settings.nonceBytes = .ok generator ∧
      GuardOptions.validator {} (completed config settings) settings generator =
        .ok app.validator ∧
      app.cookieWritable = decide (config.secretKey.getD settings.secretKey ≠ "") := by
  unfold build at hbuild
  obtain ⟨-, -, hbuild⟩ := bind_eq_ok_iff.mp hbuild
  obtain ⟨generator, hgenerator, hbuild⟩ := bind_eq_ok_iff.mp hbuild
  obtain ⟨validator, hvalidator, hbuild⟩ := bind_eq_ok_iff.mp hbuild
  cases hbuild
  exact ⟨generator, hgenerator, hvalidator, rfl⟩

/-- A site that could be built judges by the rules that were made for it. -/
theorem rules_of_build (hbuild : build settings config = .ok app) {window : Nat}
    (hwindow : (config.cacheSize.getD (.number settings.cacheSize)).read = .ok window)
    (source : RandomSource) :
    HouseRules.of app.validator source settings.idleMilliseconds =
      rules settings config window source := by
  obtain ⟨generator, hgenerator, hvalidator, -⟩ := of_build_eq_ok hbuild
  obtain ⟨hsize, -, -, hentries, hparam, hmakes⟩ :=
    GuardOptions.validator_eq_ok_iff.mp hvalidator
  have hroom : app.validator.slot.capacity.size = window :=
    Int.ofNat_inj.mp (Except.ok.inj (hsize.symm.trans hwindow))
  have hbytes : app.validator.generator.numBytes = settings.nonceBytes.toNat := by
    rw [hmakes]
    exact numBytes_of_ofNumBytes hgenerator
  unfold HouseRules.of rules
  rw [hroom, hentries, hparam, hbytes]
  rfl

def verdicts (app : App) (surroundings : Surroundings) (state : SiteState) :
    List VisitEvent → List (Option Verdict)
  | [] => []
  | .request client request :: rest =>
      app.site.verdict? surroundings state client request ::
        app.verdicts surroundings (app.respond surroundings state client request).2.2 rest
  | .wait milliseconds :: rest =>
      app.verdicts surroundings (state.act (.advance milliseconds)) rest
  | .forget client :: rest => app.verdicts surroundings (state.act (.forget client)) rest

theorem guard_site (app : App) : app.site.guard = some app.validator := rfl

variable {surroundings : Surroundings}

/-- A site and a book that know the same judge the same from then on. -/
theorem verdicts_of_follows (reliable : surroundings.Reliable)
    (hwritable : app.cookieWritable = true)
    {idleLimit : Int} {state : SiteState} {book : VisitorBook}
    {register : SessionRegister CacheNumber} {past : Nat → Past}
    (follows : Follows app.validator surroundings idleLimit state book register past)
    (events : List VisitEvent) :
    app.verdicts surroundings state events =
      (book.verdicts (.of app.validator surroundings.source idleLimit) events).map some := by
  induction events generalizing state book register past with
  | nil => rfl
  | cons event rest ih =>
      cases event with
      | request client request =>
          obtain ⟨hverdict, after, later, hnext⟩ :=
            follows.receive reliable app.guard_site hwritable siteView_keepsGuard client request
          rw [verdicts, VisitorBook.verdicts, List.map_cons, hverdict]
          exact congrArg _ (ih hnext)
      | wait milliseconds => exact ih (follows.wait milliseconds)
      | forget client => exact ih (follows.forget client)

theorem respond_of_ok {state : SiteState} {client : Nat} {request : Request} {reply : Reply}
    (hresult : (app.site.receive surroundings siteView state client request).1.result =
      .ok reply) : (app.respond surroundings state client request).1 = reply := by
  unfold respond
  dsimp only
  rw [hresult]

theorem respond_of_error {state : SiteState} {client : Nat} {request : Request} {cause : GuardError}
    (hresult : (app.site.receive surroundings siteView state client request).1.result =
      .error cause) :
    (app.respond surroundings state client request).1 =
      errorReply surroundings.refusals cause := by
  unfold respond
  dsimp only
  rw [hresult]

/-- A request that the guard denies is answered with the status that was set for it. -/
theorem respond_of_denied {state : SiteState} {client : Nat} {request : Request}
    (hdenied : app.site.verdict? surroundings state client request = some .denied)
    (hknown : app.validator.denyStatus ∈ surroundings.refusals) :
    (app.respond surroundings state client request).1 = .bare app.validator.denyStatus := by
  rw [respond_of_error (result_of_denied app.guard_site siteView hdenied)]
  simp only [errorReply, Refusals.errorStatus, if_pos hknown]

/-- The verdicts of the site on the requests of any number of clients, in any order and at any
times, are those of the visitor book. A request that is denied is answered with the status that
settings and configuration name, and one that passes is answered by the view. -/
theorem verdicts_eq_verdicts_book (hbuild : build settings config = .ok app)
    (hkey : config.secretKey.getD settings.secretKey ≠ "") {window : Nat}
    (hwindow : (config.cacheSize.getD (.number settings.cacheSize)).read = .ok window)
    {status : Int}
    (hstatus : (config.denyStatus.getD (.number settings.denyStatus)).read = .ok status)
    (hknown : status ∈ surroundings.refusals) (reliable : surroundings.Reliable) (now : Int)
    (events : List VisitEvent) :
    app.verdicts surroundings (start settings now) events =
        ((VisitorBook.empty now).verdicts (rules settings config window surroundings.source)
          events).map some ∧
      ∀ state client request,
        (app.site.verdict? surroundings state client request = some .denied →
          (app.respond surroundings state client request).1 = .bare status) ∧
        ∀ nonce, app.site.verdict? surroundings state client request = some (.passed nonce) →
          ∃ visit, visit.request = request ∧ visit.currentNonce = some nonce ∧
            (app.site.receive surroundings siteView state client request).1.result =
              (siteView visit).1 := by
  obtain ⟨generator, -, hvalidator, hcookies⟩ := of_build_eq_ok hbuild
  have hwritable : app.cookieWritable = true := by
    rw [hcookies]
    exact decide_eq_true hkey
  constructor
  · rw [← rules_of_build hbuild hwindow]
    exact verdicts_of_follows reliable hwritable (Follows.initial ..) events
  · intro state client request
    constructor
    · obtain ⟨-, hread, -⟩ := GuardOptions.validator_eq_ok_iff.mp hvalidator
      obtain rfl : app.validator.denyStatus = status := Except.ok.inj (hread.symm.trans hstatus)
      exact fun hdenied => respond_of_denied hdenied hknown
    · exact fun nonce hpassed => result_of_passed app.site siteView hpassed

/-! ## Two clients -/

/-- Settings for nonces of one byte. -/
def briefSettings : Settings := { Settings.standard with nonceBytes := 1 }

/-- A configuration that lets one nonce of a client be valid at a time. -/
def strictConfig : SiteConfig := { cacheSize := some (.text "1") }

/-- A source that counts its calls, and identifiers that get longer and longer. -/
def countingSurroundings : Surroundings where
  source := ⟨fun call bytes => .ok (List.replicate bytes (UInt8.ofNat call))⟩
  sessionId number := String.ofList (List.replicate (number + 1) 'a')

theorem reliable_countingSurroundings : countingSurroundings.Reliable where
  answers := fun _ _ => ⟨_, rfl, List.length_replicate⟩
  id_ne_empty := fun number hempty => by
    have hlist := congrArg String.toList hempty
    simp [countingSurroundings] at hlist
  id_injective := fun first second hsame => by
    have hlength := congrArg (fun id => id.toList.length) hsame
    simpa [countingSurroundings] using hlength

def transferWith (nonce : String) : Request where
  host := "localhost"
  sentMethod := "POST"
  sentPath := "/transfer"
  query := [("CSRF_NONCE", nonce)]
  form := []

/-- Two clients get a nonce each. The first uses its own once, fails with it a second time, and is a
stranger again after a long absence; the second fails with a nonce of the first. -/
def twoClients : List VisitEvent :=
  [.request 0 (transferWith ""), .request 1 (transferWith ""), .request 0 (transferWith "01"),
    .request 0 (transferWith "01"), .request 1 (transferWith "03"), .wait 1800001,
    .request 0 (transferWith "01")]

theorem verdicts_eq_verdicts_book_two_clients :
    ∃ app, build briefSettings strictConfig = .ok app ∧
      app.verdicts countingSurroundings (start briefSettings 0) twoClients =
        [some (.passed "01"), some (.passed "02"), some (.passed "03"), some .denied,
          some .denied, some (.passed "04")] := by
  have hok : (build briefSettings strictConfig).isOk = true := by decide +kernel
  cases hbuild : build briefSettings strictConfig with
  | error cause =>
      rw [hbuild] at hok
      cases hok
  | ok app =>
      have hwindow : (strictConfig.cacheSize.getD (.number briefSettings.cacheSize)).read =
          .ok ((1 : Nat) : Int) := by decide +kernel
      obtain ⟨hverdicts, -⟩ := verdicts_eq_verdicts_book hbuild (by decide) hwindow rfl
        (by decide) reliable_countingSurroundings 0 twoClients
      refine ⟨app, rfl, hverdicts.trans ?_⟩
      decide +kernel

end App

end CsrfGuard.Demo
