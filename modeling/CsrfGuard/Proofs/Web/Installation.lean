import CsrfGuard.Proofs.Web.Options
import CsrfGuard.Proofs.Web.StoreUse

/-!
# What a guard takes from its options

A guard goes by five values, and each is taken from the first of three places that names it: the
options of the guard, the configuration of the site, the settings (`GuardOptions.setup`). It also
works with a session store, which it may be handed. This file says what comes of all of them when
the guard is set up (`installed_by_options`). What is given is not always taken
(`blanks_not_taken`):

```text
given                                  taken
a size or a status of zero             as if it was not given
an empty parameter, attribute or text  as if it was not given
an empty list of entry points          as it was given
a store that holds no session          as if it was not given
```

A guard that cannot be made is not set up, so that the site then lets every request pass.
-/

namespace CsrfGuard.Web

/-! ## Three places -/

/-- The value of the first of three places that has one. -/
def firstNamed {α : Type} (option entry : Option α) (fallback : α) : α :=
  (option.or entry).getD fallback

/-- What a guard is set up with, numbers not yet read. -/
structure GuardSetup where
  entryPoints : Option EntryListing
  cacheSize : NumberOption
  nonceParam : Option String
  sessionAttribute : AttributeName
  denyStatus : NumberOption
  deriving Repr, DecidableEq

/-- Whether a validator is what a setup asks for. -/
structure GuardSetup.Describes (setup : GuardSetup) (generator : NonceGenerator)
    (validator : Validator) : Prop where
  capacity : setup.cacheSize.read = .ok validator.slot.capacity.size
  denyStatus : setup.denyStatus.read = .ok validator.denyStatus
  attributeName : validator.slot.attributeName = setup.sessionAttribute
  entryPoints : validator.entryPoints = .ofListing? setup.entryPoints
  nonceParam : validator.nonceParam = setup.nonceParam
  generator : validator.generator = generator

namespace GuardOptions

/-- Each value from the options, else from the configuration, else from the settings. -/
def setup (options : GuardOptions) (config : SiteConfig) (settings : Settings) : GuardSetup where
  entryPoints := firstNamed (options.entryPoints.map some) config.entryPoints
    (some (.text settings.entryPoints))
  cacheSize := firstNamed options.cacheSize config.cacheSize (.number settings.cacheSize)
  nonceParam := firstNamed (options.nonceParam.map some) config.nonceParam
    (some settings.nonceParam)
  sessionAttribute := firstNamed (options.sessionAttribute.map some) config.sessionAttribute
    (some settings.sessionAttribute)
  denyStatus := firstNamed options.denyStatus config.denyStatus (.number settings.denyStatus)

/-- The options without those that count as not given, zeros and empty texts. A listing of entry
points always counts. -/
def withoutBlanks (options : GuardOptions) : GuardOptions where
  entryPoints := options.entryPoints
  cacheSize := given NumberOption.isBlank options.cacheSize
  nonceParam := given (· = "") options.nonceParam
  sessionAttribute := given (· = "") options.sessionAttribute
  denyStatus := given NumberOption.isBlank options.denyStatus

variable {options : GuardOptions} {config : SiteConfig} {settings : Settings}
  {generator : NonceGenerator}

/-- The validator that is made is the one that the options ask for, blanks left out. -/
theorem validator_eq_ok_iff_describes {validator : Validator} :
    options.validator config settings generator = .ok validator ↔
      (options.withoutBlanks.setup config settings).Describes generator validator := by
  have hattribute : options.sessionAttributeIn config settings =
      (options.withoutBlanks.setup config settings).sessionAttribute := by
    dsimp only [sessionAttributeIn, withoutBlanks, setup, firstNamed]
    cases given (· = "") options.sessionAttribute <;> rfl
  have hparam : options.nonceParamIn config settings =
      (options.withoutBlanks.setup config settings).nonceParam := by
    dsimp only [nonceParamIn, withoutBlanks, setup, firstNamed]
    cases given (· = "") options.nonceParam <;> rfl
  have hentries : options.entryPointsIn config settings =
      .ofListing? (options.withoutBlanks.setup config settings).entryPoints := by
    dsimp only [entryPointsIn, withoutBlanks, setup, firstNamed]
    cases options.entryPoints <;> rfl
  rw [validator_eq_ok_iff, hattribute, hparam, hentries]
  constructor
  · rintro ⟨hsize, hstatus, hname, hlisted, hnamed, hmakes⟩
    exact ⟨hsize, hstatus, hname, hlisted, hnamed, hmakes⟩
  · rintro ⟨hsize, hstatus, hname, hlisted, hnamed, hmakes⟩
    exact ⟨hsize, hstatus, hname, hlisted, hnamed, hmakes⟩

/-- A capacity below one is refused before anything else is read. -/
theorem validator_of_capacity_lt {size : Int}
    (hsize : (options.withoutBlanks.setup config settings).cacheSize.read = .ok size)
    (hsmall : size < 1) :
    options.validator config settings generator = .error .capacityTooSmall := by
  have hread : (options.cacheSizeIn config settings).read = .ok size := hsize
  have hcapacity : Capacity.ofInt size = .error .capacityTooSmall := dif_neg (by omega)
  unfold GuardOptions.validator
  rw [hread]
  simp only [bind, Except.bind, CacheSlot.ofCapacity, hcapacity, Except.map]

end GuardOptions

/-! ## Setting up -/

namespace Site

variable {site : Site} {options : GuardOptions} {config : SiteConfig} {settings : Settings}
  {generator : NonceGenerator}

theorem install_eq_ok_iff {validator : Validator} :
    site.install options config settings generator =
        (.ok (), { site with guard := some validator }) ↔
      options.validator config settings generator = .ok validator := by
  unfold install
  cases hvalidator : options.validator config settings generator with
  | error cause => simp
  | ok made => simp

theorem install_of_error {cause : GuardError}
    (herror : options.validator config settings generator = .error cause) :
    site.install options config settings generator = (.error cause, site) := by
  unfold install
  rw [herror]

theorem eq_of_install_error {cause : GuardError} {later : Site}
    (hinstall : site.install options config settings generator = (.error cause, later)) :
    later = site := by
  cases hvalidator : options.validator config settings generator with
  | error other =>
      rw [install_of_error hvalidator] at hinstall
      exact (Prod.mk.inj hinstall).2.symm
  | ok made =>
      rw [install_eq_ok_iff.mpr hvalidator] at hinstall
      cases hinstall

end Site

/-! ## The store -/

/-- Whether a store is one that was made empty and has been used since, perhaps not at all. -/
def IsUsed (store : SessionStore CacheNumber) : Prop :=
  ∃ (idleLimit time : Int) (events : List (StoreEvent CacheNumber)),
    ((TimedStore.start idleLimit time).after events).store = store

theorem IsUsed.sound {store : SessionStore CacheNumber} (used : IsUsed store) : store.Sound := by
  obtain ⟨idleLimit, time, events, rfl⟩ := used
  exact TimedStore.sound_after (.empty idleLimit) events

/-- The store that a guard works with is the one it was handed, unless that holds no session. -/
theorem storeFor_some (settings : Settings) (handed : SessionStore CacheNumber) :
    storeFor settings (some handed) =
      if handed.size = 0 then .empty settings.idleMilliseconds else handed := by
  unfold storeFor
  by_cases hsize : handed.size = 0
  · rw [if_pos hsize, Option.filter_some_neg (by simpa using hsize), Option.getD_none]
  · rw [if_neg hsize, Option.filter_some_pos (by simpa using hsize), Option.getD_some]

theorem sound_storeFor (settings : Settings) {handed : Option (SessionStore CacheNumber)}
    (hhanded : ∀ store ∈ handed, IsUsed store) : (storeFor settings handed).Sound := by
  cases handed with
  | none => exact .empty settings.idleMilliseconds
  | some store =>
      rw [storeFor_some]
      split
      · exact .empty settings.idleMilliseconds
      · exact (hhanded store rfl).sound

/-- A site keeps to the store that it starts with: it gets from there to any later store by
operations of the store, keeps its idle time, and seats its clients by it. -/
theorem keeps_to_store (site : Site) (surroundings : Surroundings) (state : SiteState)
    (sound : state.guardState.store.Sound) (occurrences : List Occurrence) :
    let later := site.afterwards surroundings state occurrences
    state.timed.Leads later.timed ∧
      later.guardState.store.idleLimit = state.guardState.store.idleLimit ∧
      ∀ client, (Exchange.mk (later.cookies client) later.guardState).SeatedByStore surroundings
        later.now := by
  intro later
  have hleads : state.timed.Leads later.timed :=
    leads_afterwards site surroundings state occurrences
  refine ⟨hleads, hleads.idleLimit_eq, fun client => ?_⟩
  exact Exchange.seatedByStore (hleads.sound sound) surroundings later.now

/-! ## What comes of the options -/

/-- What is set up by options, a configuration and settings, blank options counting as not given.
The validator is the one that they describe; if there is none, and so if the capacity is too small,
the site stays as it is. A guard that is handed a store, whatever has become of it before, keeps to
it if it holds a session, and else to a new one with the idle time of the settings. -/
theorem installed_by_options (options : GuardOptions) (config : SiteConfig) (settings : Settings)
    (generator : NonceGenerator) (site : Site) :
    let asked := options.withoutBlanks.setup config settings
    let installation := site.install options config settings generator
    (∀ validator, installation = (.ok (), { site with guard := some validator }) ↔
        asked.Describes generator validator) ∧
      (∀ cause later, installation = (.error cause, later) → later = site) ∧
      (∀ size, asked.cacheSize.read = .ok size → size < 1 →
        installation = (.error .capacityTooSmall, site)) ∧
      ∀ handed : Option (SessionStore CacheNumber), (∀ store ∈ handed, IsUsed store) →
        let fresh : SessionStore CacheNumber := .empty settings.idleMilliseconds
        let kept :=
          match handed with
          | some store => if store.size = 0 then fresh else store
          | none => fresh
        ∀ validator surroundings now caches calls cookies occurrences,
          let start : SiteState := ⟨now, ⟨storeFor settings handed, caches, calls⟩, cookies⟩
          let later := Site.afterwards { site with guard := some validator } surroundings start
            occurrences
          TimedStore.Leads ⟨now, kept⟩ later.timed ∧
            later.guardState.store.idleLimit = kept.idleLimit ∧
            ∀ client, (Exchange.mk (later.cookies client) later.guardState).SeatedByStore
              surroundings later.now := by
  intro asked installation
  refine ⟨fun validator => ?_, fun cause later => Site.eq_of_install_error,
    fun size hsize hsmall => ?_, ?_⟩
  · exact Site.install_eq_ok_iff.trans GuardOptions.validator_eq_ok_iff_describes
  · exact Site.install_of_error (GuardOptions.validator_of_capacity_lt hsize hsmall)
  · intro handed hhanded fresh kept validator surroundings now caches calls cookies occurrences
      start later
    have hkept : storeFor settings handed = kept := by
      cases handed with
      | none => rfl
      | some store => exact storeFor_some settings store
    have hkeeps := keeps_to_store { site with guard := some validator } surroundings start
      (sound_storeFor settings hhanded) occurrences
    rw [← hkept]
    exact hkeeps

/-! ## A site without pages -/

def bareSite : Site := ⟨none, true, []⟩

/-- Room for two nonces, and a status that counts as not given. -/
def halfBlankOptions : GuardOptions :=
  { cacheSize := some (.number 2), denyStatus := some (.number 0) }

/-- No room for a nonce. -/
def crampedConfig : SiteConfig :=
  { cacheSize := some (.text "0"), denyStatus := some (.text "451") }

def bareValidator : Validator where
  slot := ⟨⟨2, by decide⟩, some "nonceguard.CSRF_NONCE"⟩
  entryPoints := ⟨[]⟩
  generator := ⟨16, by decide⟩
  nonceParam := some "CSRF_NONCE"
  denyStatus := 451

/-- A source that answers with zeros, and identifiers that get longer and longer. -/
def plainSurroundings : Surroundings where
  source := ⟨fun _ bytes => .ok (List.replicate bytes 0)⟩
  sessionId number := String.ofList (List.replicate (number + 1) 's')

/-- A store that holds a session and gives sessions up after a second. -/
def usedStore : SessionStore CacheNumber := ((SessionStore.empty 1000).create 0 "kept").2

/-- A client comes back with the identifier of a session that the store held already. -/
def comeback : List Occurrence := [.act (.advance 900), .act (.setSessionId 0 (some "kept"))]

theorem describes_bareValidator :
    (halfBlankOptions.withoutBlanks.setup crampedConfig .standard).Describes ⟨16, by decide⟩
      bareValidator where
  capacity := by decide +kernel
  denyStatus := by decide +kernel
  attributeName := rfl
  entryPoints := by decide +kernel
  nonceParam := rfl
  generator := rfl

theorem installed_by_options_bareSite :
    bareSite.install halfBlankOptions crampedConfig .standard ⟨16, by decide⟩ =
        (.ok (), { bareSite with guard := some bareValidator }) ∧
      bareSite.install {} crampedConfig .standard ⟨16, by decide⟩ =
        (.error .capacityTooSmall, bareSite) ∧
      let later := Site.afterwards { bareSite with guard := some bareValidator } plainSurroundings
        (.initial 0 (storeFor .standard (some usedStore))) comeback
      ((Exchange.mk (later.cookies 0) later.guardState).currentSession plainSurroundings true
        later.now true).1 = .ok (some 0) := by
  have hzero : (GuardOptions.setup (GuardOptions.withoutBlanks {}) crampedConfig
      .standard).cacheSize.read = .ok 0 := by
    decide +kernel
  obtain ⟨hmade, -, -, hstore⟩ := installed_by_options halfBlankOptions crampedConfig .standard
    ⟨16, by decide⟩ bareSite
  obtain ⟨-, -, hrefused, -⟩ := installed_by_options {} crampedConfig .standard ⟨16, by decide⟩
    bareSite
  have hused : ∀ store ∈ some usedStore, IsUsed store := by
    rintro _ ⟨⟩
    exact ⟨1000, 0, [.request (.create "kept")], rfl⟩
  obtain ⟨-, -, hseated⟩ := hstore (some usedStore) hused bareValidator plainSurroundings 0 [] 0
    (fun _ => .empty) comeback
  refine ⟨(hmade bareValidator).mpr describes_bareValidator, hrefused 0 hzero (by decide), ?_⟩
  exact (hseated 0).found 0 ⟨"kept", .create "kept" 0, rfl, by decide, by decide, rfl, by decide⟩
    true true

/-- It is not so that what is given is what is taken: a status of zero that is given is not taken, a
size of zero is not refused, and a store that is handed over empty is not used. -/
theorem blanks_not_taken :
    (¬ ∀ (options : GuardOptions) (config : SiteConfig) (settings : Settings)
        (generator : NonceGenerator) (site : Site) (validator : Validator),
        site.install options config settings generator =
            (.ok (), { site with guard := some validator }) →
          (options.setup config settings).Describes generator validator) ∧
      (¬ ∀ (options : GuardOptions) (config : SiteConfig) (settings : Settings)
        (generator : NonceGenerator) (site : Site) (size : Int),
        (options.setup config settings).cacheSize.read = .ok size → size < 1 →
          site.install options config settings generator = (.error .capacityTooSmall, site)) ∧
      ¬ ∀ (settings : Settings) (handed : SessionStore CacheNumber),
        (storeFor settings (some handed)).idleLimit = handed.idleLimit := by
  refine ⟨fun hclaim => ?_, fun hclaim => ?_, fun hclaim => ?_⟩
  · have hmade : bareSite.install halfBlankOptions crampedConfig .standard ⟨16, by decide⟩ =
        (.ok (), { bareSite with guard := some bareValidator }) :=
      Site.install_eq_ok_iff.mpr
        (GuardOptions.validator_eq_ok_iff_describes.mpr describes_bareValidator)
    have hstatus := (hclaim _ _ _ _ _ _ hmade).denyStatus
    exact absurd hstatus (by decide)
  · have hrefused := hclaim { cacheSize := some (.number 0) } {} .standard ⟨16, by decide⟩ bareSite 0
      rfl (by decide)
    have hmade : (bareSite.install { cacheSize := some (.number 0) } {} .standard
        ⟨16, by decide⟩).1 = .ok () := by
      decide +kernel
    rw [hrefused] at hmade
    cases hmade
  · have hidle := hclaim .standard (.empty 1000)
    exact absurd hidle (by decide)

end CsrfGuard.Web
