import CsrfGuard.Proofs.Session.Register
import CsrfGuard.Proofs.Validator.History
import CsrfGuard.Proofs.Web.VisitorBook
import CsrfGuard.Web.Site

/-!
# A guarded site follows its visitor book

The guard finds the session of a client by the identifier in the client's cookie, gives sessions up
as it goes, and lets the validator decide by the cache of the session it found or created. This file
shows that none of this can be seen: after any requests of any clients, the next request of a client
is judged as the visitor book judges it (`Follows.receive`).

## Strategy

`Follows` ties a site to a book through the two stand-ins of earlier files: the session store agrees
with a register, which gives no session up, and the caches remember the pasts of their sessions. A
client in the book has a cookie with the identifier of a session of its own; that session was last
used when the client was last seen, and its past is the list of nonces the client was issued.

A request is followed in two stages. First the client is *seated*: the guard has found the session
of the client or has created one (`Follows.seat`). Then the validator decides and the client leaves
with its cookie (`Seated.pass`, `Seated.leave`).
-/

namespace CsrfGuard.Web

/-! ## Cookies -/

theorem SiteState.sessionId_setCookie_self (state : SiteState) (client : Nat) (cookie : Cookie) :
    (state.setCookie client cookie).sessionId client = cookie.sessionId := by
  simp [sessionId, setCookie]

theorem SiteState.sessionId_setCookie_of_ne {state : SiteState} {client other : Nat}
    {cookie : Cookie} (hother : other ≠ client) :
    (state.setCookie client cookie).sessionId other = state.sessionId other := by
  simp [sessionId, setCookie, hother]

/-! ## Reliable surroundings -/

/-- Surroundings that do as they should: the source answers with as many bytes as it is asked for,
and session identifiers are not empty and all different. -/
structure Surroundings.Reliable (surroundings : Surroundings) : Prop where
  answers : ∀ call bytes, ∃ answer,
    surroundings.source.answer call bytes = .ok answer ∧ answer.length = bytes
  id_ne_empty : ∀ number, surroundings.sessionId number ≠ ""
  id_injective : Function.Injective surroundings.sessionId

/-- The nonce of a length that is made of the answer to a call, as long as the source answers. -/
def nonceOfCall (numBytes : Nat) (source : RandomSource) (call : Nat) : String :=
  match source.answer call numBytes with
  | .ok bytes => String.ofList (Text.Hex.encode bytes)
  | .error _ => ""

theorem generate_of_reliable {surroundings : Surroundings} (reliable : surroundings.Reliable)
    (generator : NonceGenerator) (calls : Nat) :
    generator.generate surroundings.source calls =
      .ok (nonceOfCall generator.numBytes surroundings.source (calls + 1)) := by
  obtain ⟨bytes, hanswer, hlength⟩ := reliable.answers (calls + 1) generator.numBytes
  simp only [NonceGenerator.generate, nonceOfCall, hanswer, NonceGenerator.ofAnswer, if_pos hlength]

def HouseRules.of (validator : Validator) (source : RandomSource) (idleLimit : Int) :
    HouseRules where
  idleLimit
  entryPoints := validator.entryPoints
  nonceParam := validator.nonceParam
  window := validator.slot.capacity.size
  nonce := nonceOfCall validator.generator.numBytes source

/-! ## The simulation -/

/-- A session is that of a visitor: last used when the visitor was last seen, and with the visitor's
nonces in its past. -/
def BelongsTo (store : SessionStore CacheNumber) (past : Nat → Past) (number : Nat)
    (visitor : Visitor) : Prop :=
  (store.session? number).map (·.lastAccessed) = some visitor.lastSeen ∧
    past number = some visitor.nonces

/-- A site and a visitor book that know the same of every client. -/
structure Follows (validator : Validator) (surroundings : Surroundings) (idleLimit : Int)
    (state : SiteState) (book : VisitorBook) (register : SessionRegister CacheNumber)
    (past : Nat → Past) : Prop where
  now_eq : book.now = state.now
  issued_eq : book.issued = state.guardState.calls
  idleLimit_eq : register.idleLimit = idleLimit
  agrees : Agrees state.now state.guardState.store register
  remembers : validator.slot.Remembers state.guardState.memory.vault past
  /-- No identifier has been given to a second session. -/
  registered : ∀ number < state.guardState.store.sessions.length,
    register.latest (surroundings.sessionId number) = some number
  known : ∀ client,
    book.visitors client = none ∧ state.sessionId client = none ∨
      ∃ visitor number, book.visitors client = some visitor ∧
        state.sessionId client = some (surroundings.sessionId number) ∧
        BelongsTo state.guardState.store past number visitor
  apart : ∀ first second, first ≠ second → state.sessionId first ≠ none →
    state.sessionId first ≠ state.sessionId second

/-- The guard's state once it has a session for a client that makes a request. Everything else is
still as the site and the book had it before. -/
structure Seated (validator : Validator) (surroundings : Surroundings) (idleLimit : Int)
    (state : SiteState) (book : VisitorBook) (client number : Nat) (guardState : GuardState)
    (register : SessionRegister CacheNumber) (past : Nat → Past) : Prop where
  idleLimit_eq : register.idleLimit = idleLimit
  agrees : Agrees state.now guardState.store register
  remembers : validator.slot.Remembers guardState.memory.vault past
  registered : ∀ number < guardState.store.sessions.length,
    register.latest (surroundings.sessionId number) = some number
  seen : (guardState.store.session? number).map (·.lastAccessed) = some state.now
  others : ∀ other, other ≠ client →
    book.visitors other = none ∧ state.sessionId other = none ∨
      ∃ visitor place, book.visitors other = some visitor ∧
        state.sessionId other = some (surroundings.sessionId place) ∧
        place ≠ number ∧ BelongsTo guardState.store past place visitor

variable {validator : Validator} {surroundings : Surroundings} {idleLimit : Int}
  {state : SiteState} {book : VisitorBook} {register : SessionRegister CacheNumber}
  {past : Nat → Past} {client number : Nat}

/-! ## Finding the session of a client -/

theorem currentSession_of_found {exchange : Exchange} {now : Int} {writable create : Bool}
    {store : SessionStore CacheNumber}
    (hget : exchange.state.store.get now exchange.cookie.sessionId = (some number, store)) :
    exchange.currentSession surroundings writable now create =
      (.ok (some number), { exchange with state := { exchange.state with store } }) := by
  simp only [Exchange.currentSession, hget]

theorem currentSession_of_missing (surroundings : Surroundings) {exchange : Exchange} {now : Int}
    {store : SessionStore CacheNumber}
    (hget : exchange.state.store.get now exchange.cookie.sessionId = (none, store)) :
    let id := surroundings.sessionId store.sessions.length
    exchange.currentSession surroundings true now true =
      (.ok (some store.sessions.length),
        { cookie := { exchange.cookie with sessionId := some id }
          state := { exchange.state with store := (store.create now id).2 } }) := by
  simp only [Exchange.currentSession, hget]
  rfl

namespace Follows

theorem place_ne (follows : Follows validator surroundings idleLimit state book register past)
    {other place : Nat} (hother : other ≠ client)
    (hid : state.sessionId client = some (surroundings.sessionId number))
    (hplace : state.sessionId other = some (surroundings.sessionId place)) : place ≠ number := by
  rintro rfl
  refine follows.apart other client hother (by simp [hplace]) ?_
  rw [hplace, hid]

/-- Clients stay apart when one of them gets a cookie that names no session of another. -/
theorem apart_setCookie
    (follows : Follows validator surroundings idleLimit state book register past) {cookie : Cookie}
    (hnew : ∀ other, other ≠ client → cookie.sessionId ≠ none →
      state.sessionId other ≠ cookie.sessionId) (first second : Nat) (hne : first ≠ second)
    (hsome : (state.setCookie client cookie).sessionId first ≠ none) :
    (state.setCookie client cookie).sessionId first ≠
      (state.setCookie client cookie).sessionId second := by
  rcases eq_or_ne first client with rfl | hfirst
  · rw [SiteState.sessionId_setCookie_self] at hsome ⊢
    rw [SiteState.sessionId_setCookie_of_ne hne.symm]
    exact (hnew second hne.symm hsome).symm
  · rw [SiteState.sessionId_setCookie_of_ne hfirst] at hsome ⊢
    rcases eq_or_ne second client with rfl | hsecond
    · rw [SiteState.sessionId_setCookie_self]
      intro hsame
      rw [hsame] at hsome
      exact hnew first hfirst hsome hsame
    · rw [SiteState.sessionId_setCookie_of_ne hsecond]
      exact follows.apart first second hne hsome

/-- A client is seated in a session once that session is marked as used, whatever else the store has
given up, if the other sessions are as they were. -/
theorem seated (follows : Follows validator surroundings idleLimit state book register past)
    {store : SessionStore CacheNumber} {after : SessionRegister CacheNumber}
    (hlimit : after.idleLimit = register.idleLimit) (hagrees : Agrees state.now store after)
    (hfind : ∀ place, validator.slot.find? ⟨store.sessions, state.guardState.caches⟩ place =
      validator.slot.find? state.guardState.memory.vault place)
    (hregistered : ∀ place < store.sessions.length,
      after.latest (surroundings.sessionId place) = some place)
    (hseen : (store.session? number).map (·.lastAccessed) = some state.now)
    (hother : ∀ other, other ≠ client → ∀ place,
      state.sessionId other = some (surroundings.sessionId place) →
      place < state.guardState.store.sessions.length →
      place ≠ number ∧ store.session? place = state.guardState.store.session? place) :
    Seated validator surroundings idleLimit state book client number
      { state.guardState with store } after past where
  idleLimit_eq := hlimit.trans follows.idleLimit_eq
  agrees := hagrees
  remembers := follows.remembers.congr hfind rfl
  registered := hregistered
  seen := hseen
  others := by
    intro other hne
    refine (follows.known other).imp_right ?_
    rintro ⟨visitor, place, hvisitor, hplace, hbelongs⟩
    have hplaced := follows.remembers.lt_of_past hbelongs.2
    obtain ⟨hapart, hsame⟩ := hother other hne place hplace hplaced
    refine ⟨visitor, place, hvisitor, hplace, hapart, ?_, hbelongs.2⟩
    change (store.session? place).map _ = _
    rw [hsame]
    exact hbelongs.1

theorem seat_returning (follows : Follows validator surroundings idleLimit state book register past)
    (reliable : surroundings.Reliable) {visitor : Visitor}
    (hid : state.sessionId client = some (surroundings.sessionId number))
    (hbelongs : BelongsTo state.guardState.store past number visitor)
    (hfresh : state.now - visitor.lastSeen ≤ idleLimit) :
    ∃ store after,
      (Exchange.mk (state.cookies client) state.guardState).currentSession surroundings true
          state.now true =
        (.ok (some number), ⟨state.cookies client, { state.guardState with store }⟩) ∧
      Seated validator surroundings idleLimit state book client number
        { state.guardState with store } after past := by
  obtain ⟨session, hsession, hlast⟩ := Option.map_eq_some_iff.mp hbelongs.1
  have hregister : register.sessions[number]? = some session := by
    rw [follows.agrees.sessions_eq]
    exact hsession
  have hlatest := follows.registered number (follows.remembers.lt_of_past hbelongs.2)
  have hregisterFresh : register.isFresh state.now number = true := by
    rw [SessionRegister.isFresh, hregister, Option.any_some, hlast, follows.idleLimit_eq]
    exact decide_eq_true hfresh
  -- What the register finds, the store finds too, whatever else it gives up on the way.
  have hget := SessionRegister.get_eq_some (reliable.id_ne_empty number) hlatest hregisterFresh
  obtain ⟨hfound, hagrees⟩ := follows.agrees.get (some (surroundings.sessionId number))
  rw [hget] at hfound hagrees
  rw [← hid] at hfound hagrees
  obtain ⟨store, hstore⟩ : ∃ store,
      state.guardState.store.get state.now (state.sessionId client) = (some number, store) :=
    ⟨_, Prod.ext hfound rfl⟩
  rw [hstore] at hagrees
  have hsessions : store.sessions =
      state.guardState.store.sessions.modify number (·.touch state.now) := by
    rw [← hagrees.sessions_eq, ← follows.agrees.sessions_eq]
    rfl
  refine ⟨store, _, currentSession_of_found hstore, follows.seated ?_ hagrees ?_ ?_ ?_ ?_⟩
  · rfl
  · intro place
    rw [hsessions]
    exact CacheSlot.find?_touch validator.slot state.guardState.memory.vault number place state.now
  · intro place hplace
    rw [hsessions, List.length_modify] at hplace
    exact follows.registered place hplace
  · rw [SessionStore.session?, hsessions, List.getElem?_modify, ← SessionStore.session?, hsession]
    simp [Session.touch]
  · intro other hne place hplace _
    have hapart := follows.place_ne hne hid hplace
    refine ⟨hapart, ?_⟩
    rw [SessionStore.session?, hsessions, List.getElem?_modify, SessionStore.session?]
    simp [hapart.symm]

/-- A client that cannot be found is seated in a new session. -/
theorem seat_new (follows : Follows validator surroundings idleLimit state book register past)
    (reliable : surroundings.Reliable)
    (hmissing : register.get state.now (state.sessionId client) = (none, register)) :
    let number := state.guardState.store.sessions.length
    ∃ store after,
      (Exchange.mk (state.cookies client) state.guardState).currentSession surroundings true
          state.now true =
        (.ok (some number),
          ⟨{ state.cookies client with sessionId := some (surroundings.sessionId number) },
            { state.guardState with store }⟩) ∧
      Seated validator surroundings idleLimit state book client number
        { state.guardState with store } after past := by
  intro number
  obtain ⟨hfound, hagrees⟩ := follows.agrees.get (state.sessionId client)
  rw [hmissing] at hfound hagrees
  obtain ⟨looked, hlooked⟩ : ∃ looked,
      state.guardState.store.get state.now (state.sessionId client) = (none, looked) :=
    ⟨_, Prod.ext hfound rfl⟩
  rw [hlooked] at hagrees
  -- The lookup may have given sessions up, but has changed none.
  have hsame : looked.sessions = state.guardState.store.sessions := by
    rw [← hagrees.sessions_eq, follows.agrees.sessions_eq]
  have hlength : looked.sessions.length = number := by rw [hsame]
  have hregister : register.sessions.length = number := by rw [follows.agrees.sessions_eq]
  obtain ⟨-, hcreated⟩ := hagrees.create (surroundings.sessionId number)
  have hsessions : (looked.create state.now (surroundings.sessionId number)).2.sessions =
      state.guardState.store.sessions ++
        [Session.create (surroundings.sessionId number) state.now] := by
    rw [← hsame]
    rfl
  have hcurrent := currentSession_of_missing surroundings
    (show (Exchange.mk (state.cookies client) state.guardState).state.store.get state.now
      (state.cookies client).sessionId = (none, looked) from hlooked)
  rw [hlength] at hcurrent
  refine ⟨_, _, hcurrent, follows.seated ?_ hcreated ?_ ?_ ?_ ?_⟩
  · rfl
  · intro place
    rw [hsessions]
    exact CacheSlot.find?_create validator.slot state.guardState.memory.vault _ state.now place
  · intro place hplace
    change Function.update register.latest (surroundings.sessionId number)
      (some register.sessions.length) _ = _
    rw [hsessions, List.length_append, List.length_singleton] at hplace
    rcases eq_or_ne place number with rfl | hne
    · rw [Function.update_self, hregister]
    · rw [Function.update_of_ne (reliable.id_injective.ne hne)]
      exact follows.registered place (by omega)
  · rw [SessionStore.session?, hsessions, List.getElem?_concat_length]
    rfl
  · intro other _ place _ hlt
    refine ⟨hlt.ne, ?_⟩
    rw [SessionStore.session?, hsessions, List.getElem?_append_left hlt, SessionStore.session?]

/-- A client that makes a request is seated in a session whose past is what the book has of it. -/
theorem seat (follows : Follows validator surroundings idleLimit state book register past)
    (reliable : surroundings.Reliable) (client : Nat) :
    ∃ number cookie guardState after,
      (Exchange.mk (state.cookies client) state.guardState).currentSession surroundings true
          state.now true = (.ok (some number), ⟨cookie, guardState⟩) ∧
      cookie.sessionId = some (surroundings.sessionId number) ∧
      past number = book.pastOf (.of validator surroundings.source idleLimit) client ∧
      guardState.calls = book.issued ∧
      Seated validator surroundings idleLimit state book client number guardState after past := by
  have hnew : past state.guardState.store.sessions.length = none := by
    by_contra hsome
    obtain ⟨added, hadded⟩ := Option.ne_none_iff_exists'.mp hsome
    exact (follows.remembers.lt_of_past hadded).ne rfl
  rcases follows.known client with
    ⟨hunknown, hid⟩ | ⟨visitor, number, hvisitor, hid, hbelongs⟩
  · -- The client has never come, or has lost its cookie.
    have hmissing : register.get state.now (state.sessionId client) = (none, register) := by
      rw [hid]
      rfl
    obtain ⟨store, after, hcurrent, hseated⟩ := follows.seat_new reliable hmissing
    refine ⟨_, _, _, after, hcurrent, rfl, ?_, follows.issued_eq.symm, hseated⟩
    simp [VisitorBook.pastOf, hunknown, hnew]
  · by_cases hfresh : state.now - visitor.lastSeen ≤ idleLimit
    · obtain ⟨store, after, hcurrent, hseated⟩ :=
        follows.seat_returning reliable hid hbelongs hfresh
      refine ⟨number, _, _, after, hcurrent, hid, ?_, follows.issued_eq.symm, hseated⟩
      simp only [VisitorBook.pastOf, hvisitor, follows.now_eq, HouseRules.of, if_pos hfresh]
      exact hbelongs.2
    · -- The client has a cookie, but stayed away for too long.
      have hmissing : register.get state.now (state.sessionId client) = (none, register) := by
        rw [hid]
        refine SessionRegister.get_eq_none fun found hfound => ?_
        rw [follows.registered number (follows.remembers.lt_of_past hbelongs.2),
          Option.some_inj] at hfound
        subst hfound
        obtain ⟨session, hsession, hlast⟩ := Option.map_eq_some_iff.mp hbelongs.1
        have hregister : register.sessions[number]? = some session := by
          rw [follows.agrees.sessions_eq]
          exact hsession
        rw [SessionRegister.isFresh, hregister, Option.any_some, hlast, follows.idleLimit_eq]
        exact decide_eq_false hfresh
      obtain ⟨store, after, hcurrent, hseated⟩ := follows.seat_new reliable hmissing
      refine ⟨_, _, _, after, hcurrent, rfl, ?_, follows.issued_eq.symm, hseated⟩
      simp only [VisitorBook.pastOf, hvisitor, follows.now_eq, HouseRules.of, if_neg hfresh]
      exact hnew

end Follows

/-! ## The decision -/

theorem lastAccessed_of_stamp {sessions others : List (Session CacheNumber)} {number : Nat}
    (hstamp : (others[number]?).map Session.stamp = (sessions[number]?).map Session.stamp) :
    (others[number]?).map (·.lastAccessed) = (sessions[number]?).map (·.lastAccessed) := by
  have hlast := congrArg (Option.map fun stamp => stamp.2.2) hstamp
  rw [Option.map_map, Option.map_map] at hlast
  exact hlast

namespace Seated

variable {guardState : GuardState}

/-- A seated client that leaves with its cookie is in the book with what its session remembers. -/
theorem leave (follows : Follows validator surroundings idleLimit state book register past)
    (reliable : surroundings.Reliable) {after : SessionRegister CacheNumber}
    {later : Nat → Past}
    (seated : Seated validator surroundings idleLimit state book client number guardState after
      later)
    {cookie : Cookie} {nonces : List String}
    (hid : cookie.sessionId = some (surroundings.sessionId number))
    (hpast : later number = some nonces) :
    Follows validator surroundings idleLimit { state.setCookie client cookie with guardState }
      { book.enter client nonces with issued := guardState.calls } after later := by
  have hself : (state.setCookie client cookie).sessionId client =
      some (surroundings.sessionId number) :=
    (SiteState.sessionId_setCookie_self ..).trans hid
  have hother : ∀ other, other ≠ client →
      (state.setCookie client cookie).sessionId other = state.sessionId other :=
    fun other hne => SiteState.sessionId_setCookie_of_ne hne
  have hothers : ∀ other, other ≠ client →
      state.sessionId other ≠ some (surroundings.sessionId number) := by
    intro other hne hsame
    rcases seated.others other hne with ⟨-, hnone⟩ | ⟨visitor, place, -, hplace, hapart, -⟩
    · rw [hnone] at hsame
      cases hsame
    · rw [hplace, Option.some_inj] at hsame
      exact hapart (reliable.id_injective hsame)
  refine ⟨follows.now_eq, rfl, seated.idleLimit_eq, seated.agrees, seated.remembers,
    seated.registered, ?_, ?_⟩
  · intro other
    rcases eq_or_ne other client with rfl | hne
    · refine Or.inr ⟨⟨book.now, nonces⟩, number, ?_, hself, ?_, hpast⟩
      · simp [VisitorBook.enter]
      · rw [follows.now_eq]
        exact seated.seen
    · refine (seated.others other hne).imp ?_ ?_
      · rintro ⟨hnone, hid⟩
        exact ⟨by simpa [VisitorBook.enter, hne] using hnone, (hother other hne).trans hid⟩
      · rintro ⟨visitor, place, hvisitor, hplace, -, hbelongs⟩
        exact ⟨visitor, place, by simpa [VisitorBook.enter, hne] using hvisitor,
          (hother other hne).trans hplace, hbelongs⟩
  · exact follows.apart_setCookie fun other hne _ => by
      rw [hid]
      exact hothers other hne

/-- The validator lets a request of a seated client pass exactly if the rules do. -/
theorem decide_ne_rejected_iff
    (seated : Seated validator surroundings idleLimit state book client number guardState register
      past) (request : Request) :
    validator.decide guardState.memory.vault (guardedRequest request validator.nonceParam)
        (some number) ≠ .rejected ↔
      (HouseRules.of validator surroundings.source idleLimit).Passes (past number) request := by
  have hentry : validator.isEntryPoint (guardedRequest request validator.nonceParam) = true ↔
      request.method = "GET" ∧ request.path ∈ validator.entryPoints := by
    rw [Validator.isEntryPoint_iff]
    simp [guardedRequest]
  unfold HouseRules.Passes
  by_cases hbypass : request.method = "GET" ∧ request.path ∈ validator.entryPoints
  · rw [(Validator.decide_eq_bypass_iff ..).mpr (hentry.mpr hbypass)]
    exact iff_of_true (by simp) (Or.inl hbypass)
  · have hno := Bool.eq_false_iff.mpr (mt hentry.mp hbypass)
    rw [Ne, Validator.decide_eq_rejected_iff seated.remembers hno, not_not]
    exact (or_iff_right hbypass).symm

/-- A seated client stays seated when only its own attributes and the caches change. -/
theorem withMemory
    (seated : Seated validator surroundings idleLimit state book client number guardState register
      past)
    {memory : GuardMemory} {later : Nat → Past}
    (hstamp : ∀ place : Nat, (memory.vault.sessions[place]?).map Session.stamp =
      (guardState.store.sessions[place]?).map Session.stamp)
    (hlength : memory.vault.sessions.length = guardState.store.sessions.length)
    (hremembers : validator.slot.Remembers memory.vault later)
    (hlater : ∀ place, place ≠ number → later place = past place) :
    Seated validator surroundings idleLimit state book client number
      (guardState.withMemory memory) { register with sessions := memory.vault.sessions } later where
  idleLimit_eq := seated.idleLimit_eq
  agrees := seated.agrees.withSessions hstamp
  remembers := hremembers
  registered := fun place hplace => seated.registered place (hplace.trans_eq hlength)
  seen := (lastAccessed_of_stamp (hstamp number)).trans seated.seen
  others := by
    intro other hne
    refine (seated.others other hne).imp_right ?_
    rintro ⟨visitor, place, hvisitor, hplace, hapart, hseen, hpast⟩
    refine ⟨visitor, place, hvisitor, hplace, hapart, ?_, (hlater place hapart).trans hpast⟩
    exact (lastAccessed_of_stamp (hstamp place)).trans hseen

/-- A client that is let pass is still seated, with one nonce more. -/
theorem pass
    (seated : Seated validator surroundings idleLimit state book client number guardState register
      past)
    (reliable : surroundings.Reliable) {request : Request}
    (hpasses : (HouseRules.of validator surroundings.source idleLimit).Passes (past number)
      request) :
    let nonce := nonceOfCall validator.generator.numBytes surroundings.source (guardState.calls + 1)
    let outcome := validator.process surroundings.source guardState.memory
      (guardedRequest request validator.nonceParam) (some number)
    ∃ decision after,
      outcome.result = .ok ⟨decision, nonce⟩ ∧ outcome.memory.calls = guardState.calls + 1 ∧
        Seated validator surroundings idleLimit state book client number
          (guardState.withMemory outcome.memory) after
          (Function.update past number (some ((past number).getD [] ++ [nonce]))) := by
  intro nonce outcome
  have hnumber : number < guardState.memory.vault.sessions.length := by
    obtain ⟨session, hsession, -⟩ := Option.map_eq_some_iff.mp seated.seen
    exact (List.getElem?_eq_some_iff.mp hsession).1
  have houtcome : outcome = validator.issue surroundings.source guardState.memory _ _ number :=
    Validator.process_of_ne_rejected ((seated.decide_ne_rejected_iff request).mpr hpasses)
  rw [Validator.issue_of_ok (generate_of_reliable reliable ..)] at houtcome
  rw [houtcome]
  refine ⟨_, _, rfl, rfl, seated.withMemory ?_ ?_ ?_ ?_⟩
  · exact CacheSlot.stamp_obtain validator.slot guardState.memory.vault number
  · exact CacheSlot.length_sessions_obtain validator.slot guardState.memory.vault number
  · exact seated.remembers.obtain_addNonce hnumber nonce
  · exact fun place hne => Function.update_of_ne hne ..

end Seated

/-! ## What happens to a site -/

/-- The verdict on a request, read off how the guard's part in answering it ended. A request that
ended in another error has none, nor has one that met no guard. -/
def Verdict.ofEntry? : Except GuardError (Option IssuedNonce) → Option Verdict
  | .ok issued => issued.map (.passed ·.nonce)
  | .error (.rejected _ _) => some .denied
  | .error _ => none

def Site.verdict? (site : Site) (surroundings : Surroundings) (state : SiteState) (client : Nat)
    (request : Request) : Option Verdict :=
  Verdict.ofEntry? (site.enter surroundings state.now request
    ⟨state.cookies client, state.guardState⟩).1

/-- A view that leaves the sessions of the site alone, and which of them the client has. -/
def View.KeepsGuard {α : Type} (view : View α) : Prop :=
  ∀ visit, (view visit).2.exchange.state = visit.exchange.state ∧
    (view visit).2.exchange.cookie.sessionId = visit.exchange.cookie.sessionId

theorem enter_of_currentSession {site : Site} (hguard : site.guard = some validator)
    (hwritable : site.cookieWritable = true) {exchange seated : Exchange} {now : Int}
    (request : Request)
    (hcurrent : exchange.currentSession surroundings true now true =
      (.ok (some number), seated)) :
    let outcome := validator.process surroundings.source seated.state.memory
      (guardedRequest request validator.nonceParam) (some number)
    site.enter surroundings now request exchange =
      (outcome.result.map fun passed => some ⟨passed.nonce, validator.nonceParam⟩,
        { seated with state := seated.state.withMemory outcome.memory }, outcome.records) := by
  simp only [Site.enter, hguard, hwritable, screen, hcurrent]

/-- The guard never rejects a request before it has a session. -/
theorem eq_cookieNotWritable_of_currentSession {exchange left : Exchange} {now : Int}
    {writable create : Bool} {cause : GuardError}
    (hcurrent : exchange.currentSession surroundings writable now create = (.error cause, left)) :
    cause = .cookieNotWritable := by
  unfold Exchange.currentSession at hcurrent
  dsimp only at hcurrent
  split at hcurrent
  · cases hcurrent
  · split at hcurrent
    · cases hcurrent
    · split at hcurrent
      · cases hcurrent
      · cases hcurrent
        rfl

theorem eq_of_enter_rejected {site : Site} (hguard : site.guard = some validator) {now : Int}
    {request : Request} {exchange : Exchange} {path : String} {status : Int}
    (henter : (site.enter surroundings now request exchange).1 = .error (.rejected path status)) :
    path = request.path ∧ status = validator.denyStatus := by
  unfold Site.enter screen at henter
  simp only [hguard] at henter
  split at henter
  · next hcurrent =>
      cases henter
      cases eq_cookieNotWritable_of_currentSession hcurrent
  · next session seated _ =>
      cases hresult : (validator.process surroundings.source seated.state.memory
          (guardedRequest request validator.nonceParam) session).result with
      | ok passed =>
          rw [hresult] at henter
          cases henter
      | error cause =>
          rw [hresult] at henter
          cases henter
          exact Validator.eq_of_rejected hresult

/-- A request that is denied ends in the rejection that was set, whatever the view. -/
theorem result_of_denied {site : Site} (hguard : site.guard = some validator) {α : Type}
    (view : View α) {request : Request}
    (hdenied : site.verdict? surroundings state client request = some .denied) :
    (site.receive surroundings view state client request).1.result =
      .error (.rejected request.path validator.denyStatus) := by
  unfold Site.verdict? at hdenied
  unfold Site.receive
  split
  · next cause exchange records hentry =>
      rw [hentry] at hdenied
      cases cause with
      | rejected path status =>
          obtain ⟨rfl, rfl⟩ := eq_of_enter_rejected hguard (congrArg Prod.fst hentry)
          rfl
      | _ => cases hdenied
  · next issued exchange records hentry =>
      rw [hentry] at hdenied
      cases issued <;> cases hdenied

/-- A request that passes is answered by the view, which finds the nonce that was issued. -/
theorem result_of_passed (site : Site) {α : Type} (view : View α) {request : Request}
    {nonce : String}
    (hpassed : site.verdict? surroundings state client request = some (.passed nonce)) :
    ∃ visit, visit.request = request ∧ visit.currentNonce = some nonce ∧
      (site.receive surroundings view state client request).1.result = (view visit).1 := by
  unfold Site.verdict? at hpassed
  unfold Site.receive
  split
  · next cause exchange records hentry =>
      rw [hentry] at hpassed
      cases cause <;> cases hpassed
  · next issued exchange records hentry =>
      rw [hentry] at hpassed
      refine ⟨⟨request, issued, exchange, records⟩, rfl, ?_, rfl⟩
      cases issued with
      | none => cases hpassed
      | some issued =>
          cases hpassed
          rfl

namespace Follows

/-- The guard's part in answering a request: the client is judged by the book, and is seated with
the nonces that the book then has for it. -/
theorem enter (follows : Follows validator surroundings idleLimit state book register past)
    (reliable : surroundings.Reliable) {site : Site} (hguard : site.guard = some validator)
    (hwritable : site.cookieWritable = true) (client : Nat) (request : Request) :
    let entry := site.enter surroundings state.now request ⟨state.cookies client, state.guardState⟩
    let judged := book.receive (.of validator surroundings.source idleLimit) client request
    Verdict.ofEntry? entry.1 = some judged.1 ∧
      ∃ number nonces after later,
        entry.2.1.cookie.sessionId = some (surroundings.sessionId number) ∧
        judged.2 = { book.enter client nonces with issued := entry.2.1.state.calls } ∧
        later number = some nonces ∧
        Seated validator surroundings idleLimit state book client number entry.2.1.state after
          later := by
  intro entry judged
  obtain ⟨number, cookie, guardState, seatedRegister, hcurrent, hid, hpast, hcalls, hseated⟩ :=
    follows.seat reliable client
  have hentry : entry = _ := enter_of_currentSession hguard hwritable request hcurrent
  by_cases hpasses : (HouseRules.of validator surroundings.source idleLimit).Passes
    (past number) request
  · obtain ⟨decision, after, hresult, hissued, hafter⟩ := hseated.pass reliable hpasses
    have hjudged : judged = _ := if_pos (hpast ▸ hpasses)
    rw [hentry, hjudged, hresult, ← hpast, ← hcalls]
    refine ⟨rfl, number, _, after, _, hid, ?_, Function.update_self .., hafter⟩
    simp only [GuardState.withMemory, hissued, HouseRules.of]
  · have hrejected := not_not.mp (mt (hseated.decide_ne_rejected_iff request).mp hpasses)
    have hjudged : judged = _ := if_neg (hpast ▸ hpasses)
    rw [hentry, hjudged, Validator.process_of_rejected hrejected, ← hpast]
    -- Who is turned away has been here before: a stranger always passes.
    obtain ⟨nonces, hnonces⟩ : ∃ nonces, past number = some nonces :=
      Option.ne_none_iff_exists'.mp fun hnone => hpasses (Or.inr (Or.inl hnone))
    refine ⟨rfl, number, nonces, seatedRegister, past, hid, ?_, hnonces, hseated⟩
    rw [hnonces]
    change book.enter client nonces = { book.enter client nonces with issued := guardState.calls }
    rw [hcalls]
    rfl

theorem initial (validator : Validator) (surroundings : Surroundings) (now idleLimit : Int) :
    Follows validator surroundings idleLimit (.initial now (.empty idleLimit)) (.empty now)
      (.empty idleLimit) fun _ => none where
  now_eq := rfl
  issued_eq := rfl
  idleLimit_eq := rfl
  agrees := Agrees.empty now idleLimit
  remembers := CacheSlot.remembers_of_vacant fun _ => rfl
  registered := fun _ hnumber => absurd hnumber (Nat.not_lt_zero _)
  known := fun _ => Or.inl ⟨rfl, rfl⟩
  apart := fun _ _ _ hsome => absurd rfl hsome

/-- A request is judged by the site as it is by the book, and leaves both with the same knowledge,
whatever the view makes of it. -/
theorem receive (follows : Follows validator surroundings idleLimit state book register past)
    (reliable : surroundings.Reliable) {site : Site} (hguard : site.guard = some validator)
    (hwritable : site.cookieWritable = true) {α : Type} {view : View α} (hview : view.KeepsGuard)
    (client : Nat) (request : Request) :
    let judged := book.receive (.of validator surroundings.source idleLimit) client request
    site.verdict? surroundings state client request = some judged.1 ∧
      ∃ after later, Follows validator surroundings idleLimit
        (site.receive surroundings view state client request).2 judged.2 after later := by
  intro judged
  obtain ⟨hverdict, number, nonces, after, later, hid, hbook, hpast, hseated⟩ :=
    follows.enter reliable hguard hwritable client request
  refine ⟨hverdict, after, later, ?_⟩
  unfold judged
  rw [hbook]
  unfold Site.receive
  split
  · next cause exchange records hentry =>
      rw [hentry] at hid hseated ⊢
      exact hseated.leave follows reliable hid hpast
  · next issued exchange records hentry =>
      rw [hentry] at hid hseated ⊢
      obtain ⟨hstate, hkept⟩ := hview ⟨request, issued, exchange, records⟩
      change Follows validator surroundings idleLimit
        { state.setCookie client (view ⟨request, issued, exchange, records⟩).2.exchange.cookie with
          guardState := (view ⟨request, issued, exchange, records⟩).2.exchange.state } _ _ _
      rw [hstate]
      exact hseated.leave follows reliable (hkept.trans hid) hpast

theorem wait (follows : Follows validator surroundings idleLimit state book register past)
    (milliseconds : Nat) :
    Follows validator surroundings idleLimit (state.act (.advance milliseconds))
      { book with now := book.now + milliseconds } register past where
  now_eq := by
    rw [follows.now_eq]
    rfl
  issued_eq := follows.issued_eq
  idleLimit_eq := follows.idleLimit_eq
  agrees := follows.agrees.later (Int.le_add_of_nonneg_right (Int.natCast_nonneg milliseconds))
  remembers := follows.remembers
  registered := follows.registered
  known := follows.known
  apart := follows.apart

/-- A client that has lost its cookie is one that has never come. -/
theorem forget (follows : Follows validator surroundings idleLimit state book register past)
    (client : Nat) :
    Follows validator surroundings idleLimit (state.act (.forget client)) (book.forget client)
      register past := by
  have hself : (state.act (.forget client)).sessionId client = none :=
    SiteState.sessionId_setCookie_self ..
  have hother : ∀ other, other ≠ client →
      (state.act (.forget client)).sessionId other = state.sessionId other :=
    fun other hne => SiteState.sessionId_setCookie_of_ne hne
  refine ⟨follows.now_eq, follows.issued_eq, follows.idleLimit_eq, follows.agrees,
    follows.remembers, follows.registered, ?_, ?_⟩
  · intro other
    rcases eq_or_ne other client with rfl | hne
    · exact Or.inl ⟨Function.update_self .., hself⟩
    · have hvisitor : (book.forget client).visitors other = book.visitors other :=
        Function.update_of_ne hne ..
      rw [hother other hne, hvisitor]
      exact follows.known other
  · exact follows.apart_setCookie fun _ _ hsome => absurd rfl hsome

end Follows

end CsrfGuard.Web
