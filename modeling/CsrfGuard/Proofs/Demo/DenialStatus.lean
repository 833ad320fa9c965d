import CsrfGuard.Proofs.Demo.TransferList

/-!
# The status of a denial

The status of the answer to a denied request can be set in the configuration and, failing that, in
the environment. The site is built with any number (`build_of_status`), and it hands the number on
unchanged from where it was set to the error in which a denied request ends. Only then does it
matter what the number is: requests can be refused with some statuses only (`Refusals`), and with
any other the denial itself is a failure. So a client that is denied gets to see the status that was
set exactly if it is one of these (`answer_of_denied`).
-/

namespace CsrfGuard

/-- The variable that sets the status of the answer to a rejected request, and what is read where it
is not set. -/
def Settings.denialText (environment : String → Option String) : String :=
  (environment "NONCEGUARD_DENY_STATUS").getD "403"

/-- Settings have the status that the environment names. -/
theorem Settings.read_denialText {environment : String → Option String} {settings : Settings}
    (hload : load environment = .ok settings) :
    Text.Numeral.read (denialText environment) = .ok settings.denyStatus := by
  unfold load at hload
  obtain ⟨cacheSize, -, hload⟩ := bind_eq_ok_iff.mp hload
  obtain ⟨nonceBytes, -, hload⟩ := bind_eq_ok_iff.mp hload
  obtain ⟨denyStatus, hstatus, hload⟩ := bind_eq_ok_iff.mp hload
  obtain ⟨idleMinutes, -, hload⟩ := bind_eq_ok_iff.mp hload
  dsimp only at hload
  split at hload
  · cases hload
  · cases hload
    exact hstatus

namespace Demo

open Web

namespace App

variable {environment : String → Option String} {settings : Settings} {config : SiteConfig}
  {app : App}

/-- The status that the configuration names or else the environment, if it can be read. -/
def denial (environment : String → Option String) (config : SiteConfig) : Except GuardError Int :=
  match config.denyStatus with
  | some named => named.read
  | none => Text.Numeral.read (Settings.denialText environment)

/-- A site that could be built has the status that was named for it. -/
theorem denial_of_build (hload : Settings.load environment = .ok settings)
    (hbuild : build settings config = .ok app) :
    denial environment config = .ok app.validator.denyStatus := by
  obtain ⟨generator, -, hvalidator, -⟩ := of_build_eq_ok hbuild
  obtain ⟨-, hread, -⟩ := GuardOptions.validator_eq_ok_iff.mp hvalidator
  have hchoice : GuardOptions.denyStatusIn {} (completed config settings) settings =
      config.denyStatus.getD (.number settings.denyStatus) := rfl
  rw [hchoice] at hread
  unfold denial
  cases hnamed : config.denyStatus with
  | some named =>
      rw [hnamed] at hread
      exact hread
  | none =>
      rw [hnamed] at hread
      have hsame : settings.denyStatus = app.validator.denyStatus := Except.ok.inj hread
      rw [← hsame]
      exact Settings.read_denialText hload

/-- No number is refused: a site that can be built at all can be built with any status. -/
theorem build_of_status (hbuild : build settings config = .ok app) (status : Int) :
    build settings { config with denyStatus := some (.number status) } =
      .ok { app with validator := { app.validator with denyStatus := status } } := by
  unfold build at hbuild ⊢
  obtain ⟨done, hsetUp, hbuild⟩ := bind_eq_ok_iff.mp hbuild
  obtain ⟨generator, hgenerator, hbuild⟩ := bind_eq_ok_iff.mp hbuild
  obtain ⟨validator, hvalidator, hbuild⟩ := bind_eq_ok_iff.mp hbuild
  cases hbuild
  obtain ⟨hsize, -, hname, hentries, hparam, hmakes⟩ :=
    GuardOptions.validator_eq_ok_iff.mp hvalidator
  have hchanged : GuardOptions.validator {}
      (completed { config with denyStatus := some (.number status) } settings) settings generator =
        .ok { validator with denyStatus := status } :=
    GuardOptions.validator_eq_ok_iff.mpr ⟨hsize, rfl, hname, hentries, hparam, hmakes⟩
  exact bind_eq_ok_iff.mpr ⟨done, hsetUp, bind_eq_ok_iff.mpr ⟨generator, hgenerator,
    bind_eq_ok_iff.mpr ⟨_, hchanged, rfl⟩⟩⟩

/-- The status that is seen is the one that was set exactly if requests can be refused with it: the
status of a failure is one of these itself. -/
theorem status_eq_iff (refusals : Refusals) (status : Int) :
    (if status ∈ refusals then status else failureStatus) = status ↔ status ∈ refusals := by
  by_cases hknown : status ∈ refusals
  · rw [if_pos hknown]
    exact iff_of_true rfl hknown
  · rw [if_neg hknown]
    exact iff_of_false (fun hsame => hknown (hsame ▸ refusals.failure_mem)) hknown

/-- The answer to a denied request, whatever number is set for its status and whatever has happened
before. The request ends in a rejection with this number, and it is answered with it if requests can
be refused with it, but as a failure of the site if they cannot. -/
theorem answer_of_denied (hload : Settings.load environment = .ok settings)
    (hbuild : build settings config = .ok app) :
    ∃ status, denial environment config = .ok status ∧
      (∀ surroundings state client request,
        app.site.verdict? surroundings state client request = some .denied →
        let answer := (app.respond surroundings state client request).1
        (app.site.receive surroundings siteView state client request).1.result =
            .error (.rejected request.path status) ∧
          answer =
            .bare (if status ∈ surroundings.refusals then status else failureStatus) ∧
          (answer.status = status ↔ status ∈ surroundings.refusals)) ∧
      ∀ other : Int,
        ∃ built, build settings { config with denyStatus := some (.number other) } = .ok built ∧
          built.validator.denyStatus = other := by
  refine ⟨app.validator.denyStatus, denial_of_build hload hbuild, ?_, fun other => ?_⟩
  · intro surroundings state client request hdenied
    have hresult := result_of_denied app.guard_site siteView hdenied
    have hanswer : (app.respond surroundings state client request).1 =
        .bare (if app.validator.denyStatus ∈ surroundings.refusals then app.validator.denyStatus
          else failureStatus) := respond_of_error hresult
    refine ⟨hresult, hanswer, ?_⟩
    rw [hanswer]
    exact status_eq_iff surroundings.refusals app.validator.denyStatus
  · exact ⟨_, build_of_status hbuild other, rfl⟩

/-! ## Two statuses -/

/-- An environment that sets the status of denials and nothing else. -/
def denyingWith (status name : String) : Option String :=
  if name = "NONCEGUARD_DENY_STATUS" then some status else none

/-- A client that has posted a transfer posts another, without a nonce. -/
def secondTransfer : List Happening := [.request 0 (postOf "5")]

theorem answer_of_denied_teapot :
    ∃ settings app, Settings.load (denyingWith " 418") = .ok settings ∧
      build settings {} = .ok app ∧
      let state := app.after countingSurroundings (start settings 0) secondTransfer
      app.site.verdict? countingSurroundings state 0 (postOf "5") = some .denied ∧
        (app.respond countingSurroundings state 0 (postOf "5")).1 = .bare 418 := by
  have hload : Settings.load (denyingWith " 418") =
      .ok { Settings.standard with denyStatus := 418 } := by decide +kernel
  have hrun : (build { Settings.standard with denyStatus := 418 } {}).map (fun app =>
      app.site.verdict? countingSurroundings
        (app.after countingSurroundings (start { Settings.standard with denyStatus := 418 } 0)
          secondTransfer) 0 (postOf "5")) = .ok (some .denied) := by
    decide +kernel
  obtain ⟨app, hbuild, hdenied⟩ := exists_of_map_eq_ok hrun
  obtain ⟨status, hstatus, hanswers, -⟩ := answer_of_denied hload hbuild
  have hread : denial (denyingWith " 418") {} = .ok 418 := by decide +kernel
  cases hstatus.symm.trans hread
  exact ⟨_, app, hload, hbuild, hdenied, (hanswers _ _ _ _ hdenied).2.1⟩

/-- It is not so that a denied request is always answered with the status that was set: with the
status 402 it is answered as a failure. -/
theorem payment_required_not_answered :
    ¬ ∀ (environment : String → Option String) (settings : Settings) (config : SiteConfig)
      (app : App) (surroundings : Surroundings) (now : Int) (before : List Happening)
      (client : Nat) (request : Request) (status : Int),
      Settings.load environment = .ok settings → build settings config = .ok app →
      config.secretKey.getD settings.secretKey ≠ "" → surroundings.Reliable →
      denial environment config = .ok status →
      let state := app.after surroundings (start settings now) before
      app.site.verdict? surroundings state client request = some .denied →
        (app.respond surroundings state client request).1.status = status := by
  intro hclaim
  have hload : Settings.load (fun _ => none) = .ok Settings.standard := by decide +kernel
  have hrun : (build Settings.standard { denyStatus := some (.number 402) }).map (fun app =>
      let state := app.after countingSurroundings (start Settings.standard 0) secondTransfer
      (app.site.verdict? countingSurroundings state 0 (postOf "5"),
        (app.respond countingSurroundings state 0 (postOf "5")).1)) =
      .ok (some .denied, .bare failureStatus) := by
    decide +kernel
  obtain ⟨app, hbuild, happ⟩ := exists_of_map_eq_ok hrun
  obtain ⟨hdenied, hanswer⟩ := Prod.mk.inj happ
  have hstatus := hclaim (fun _ => none) Settings.standard { denyStatus := some (.number 402) } app
    countingSurroundings 0 secondTransfer 0 (postOf "5") 402 hload hbuild (by decide)
    reliable_countingSurroundings rfl hdenied
  exact absurd ((congrArg Reply.status hanswer).symm.trans hstatus) (by decide)

end App

end Demo

end CsrfGuard
