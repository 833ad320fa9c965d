import CsrfGuard.Proofs.Session.Lifetime
import CsrfGuard.Proofs.Validator.Run
import CsrfGuard.Web.HelperCall

/-!
# What a site does with its session store

A site looks sessions up in its store and creates them there, ends them and sets their attributes,
and it does nothing else with the store: whatever has happened to the site and its clients, its
store is the one that it started with, after some of these operations (`leads_afterwards`). A client
gets the session that the store holds for it, unless it has been idle for longer than the store
allows, and else a new one from the store (`seatedByStore`).
-/

namespace CsrfGuard

/-! ## Operations on a store -/

/-- Whether an event is something that happens to a store by its own operations. To mark a session
as used without a lookup is nothing of the kind. -/
def StoreEvent.IsOperation {α : Type} : StoreEvent α → Prop
  | .touch _ _ => False
  | _ => True

namespace TimedStore

variable {α : Type} {first second third : TimedStore α}

/-- Whether operations lead from one store to another, the clock perhaps being set. -/
def Leads (first later : TimedStore α) : Prop :=
  ∃ events : List (StoreEvent α), (∀ event ∈ events, event.IsOperation) ∧
    first.after events = later

theorem after_append (state : TimedStore α) (front back : List (StoreEvent α)) :
    state.after (front ++ back) = (state.after front).after back := by
  induction front generalizing state with
  | nil => rfl
  | cons event rest ih => exact ih (state.react event)

namespace Leads

theorem refl (state : TimedStore α) : state.Leads state :=
  ⟨[], fun _ hevent => absurd hevent List.not_mem_nil, rfl⟩

theorem trans (hfirst : first.Leads second) (hsecond : second.Leads third) : first.Leads third := by
  obtain ⟨front, hfront, rfl⟩ := hfirst
  obtain ⟨back, hback, rfl⟩ := hsecond
  refine ⟨front ++ back, fun event hevent => ?_, after_append first front back⟩
  exact (List.mem_append.mp hevent).elim (hfront event) (hback event)

theorem of_event (state : TimedStore α) (event : StoreEvent α) (hoperation : event.IsOperation) :
    state.Leads (state.react event) := by
  refine ⟨[event], fun other hother => ?_, rfl⟩
  rw [List.mem_singleton.mp hother]
  exact hoperation

theorem idleLimit_eq (leads : first.Leads second) :
    second.store.idleLimit = first.store.idleLimit := by
  obtain ⟨events, -, rfl⟩ := leads
  exact idleLimit_after first events

theorem sound (leads : first.Leads second) (sound : first.store.Sound) : second.store.Sound := by
  obtain ⟨events, -, rfl⟩ := leads
  exact sound_after sound events

end Leads

end TimedStore

/-- A lookup that finds nothing changes no session. -/
theorem SessionStore.sessions_of_get_eq_none {α : Type} {store : SessionStore α} {now : Int}
    {id : Option String} (hnone : (store.get now id).1 = none) :
    (store.get now id).2.sessions = store.sessions := by
  rcases get_eq_self_or store now id with hsame | ⟨name, hname, rfl⟩
  · rw [hsame]
  · rcases get_cases store now hname with ⟨-, hget⟩ | ⟨number, -, ⟨-, hget⟩ | ⟨-, hget⟩⟩
    · rw [hget]
      rfl
    · rw [hget]
      rfl
    · rw [hget] at hnone
      cases hnone

theorem SessionStore.mem_held_create {α : Type} (store : SessionStore α) (now : Int)
    (id : String) : (id, store.sessions.length) ∈ (store.create now id).2.held :=
  mem_hold.mpr (Or.inr rfl)

theorem SessionStore.session?_create {α : Type} (store : SessionStore α) (now : Int)
    (id : String) :
    (store.create now id).2.session? store.sessions.length = some (.create id now) :=
  List.getElem?_concat_length

/-- Processing a request sets an attribute of a session, if it does anything to sessions. -/
theorem Validator.sessions_process (validator : Validator) (source : RandomSource)
    (memory : GuardMemory) (request : GuardedRequest) (session : Option Nat) :
    let later := (validator.process source memory request session).memory.vault.sessions
    later = memory.vault.sessions ∨
      ∃ number cache, later =
        memory.vault.sessions.modify number (·.set validator.slot.attributeName (some cache)) := by
  by_cases hrejected : validator.decide memory.vault request session = .rejected
  · rw [process_of_rejected hrejected]
    exact Or.inl rfl
  · cases session with
    | none =>
        rw [process_none_of_ne_rejected hrejected]
        exact Or.inl rfl
    | some number =>
        -- Whether a nonce can be made or not, the session has a cache afterwards.
        have hsessions :
            (validator.process source memory request (some number)).memory.vault.sessions =
              (validator.slot.obtain memory.vault number).2.1.sessions := by
          rw [process_of_ne_rejected hrejected]
          cases hgenerate : validator.generator.generate source memory.calls with
          | error cause => rw [issue_of_error hgenerate]
          | ok nonce => rw [issue_of_ok hgenerate]; rfl
        rw [hsessions]
        cases hfind : validator.slot.find? memory.vault number with
        | some found =>
            rw [CacheSlot.obtain_of_find?_eq_some hfind]
            exact Or.inl rfl
        | none =>
            rw [CacheSlot.obtain_of_find?_eq_none hfind]
            exact Or.inr ⟨number, _, rfl⟩

namespace Web

/-! ## One request -/

def Exchange.timed (exchange : Exchange) (now : Int) : TimedStore CacheNumber :=
  ⟨now, exchange.state.store⟩

def SiteState.timed (state : SiteState) : TimedStore CacheNumber :=
  ⟨state.now, state.guardState.store⟩

variable {surroundings : Surroundings} {now : Int} {exchange : Exchange} {site : Site}

theorem leads_currentSession (surroundings : Surroundings) (writable : Bool) (now : Int)
    (create : Bool) (exchange : Exchange) :
    (exchange.timed now).Leads
      ((exchange.currentSession surroundings writable now create).2.timed now) := by
  have hlooked : (exchange.timed now).Leads
      ⟨now, (exchange.state.store.get now exchange.cookie.sessionId).2⟩ :=
    .of_event _ (.request (.get exchange.cookie.sessionId)) trivial
  unfold Exchange.currentSession
  dsimp only
  split
  · exact hlooked
  · split
    · exact hlooked
    · refine hlooked.trans ?_
      split
      · exact .of_event _ (.request (.create _)) trivial
      · exact .of_event _ (.request (.create _)) trivial

theorem leads_withMemory {state : GuardState} {memory : GuardMemory}
    (hsessions : memory.vault.sessions = state.store.sessions ∨
      ∃ number name cache, memory.vault.sessions =
        state.store.sessions.modify number (·.set name (some cache))) :
    TimedStore.Leads ⟨now, state.store⟩ ⟨now, (state.withMemory memory).store⟩ := by
  rcases hsessions with hsame | ⟨number, name, cache, hchanged⟩
  · have hstore : (state.withMemory memory).store = state.store := by
      rw [GuardState.withMemory, hsame]
    rw [hstore]
    exact .refl _
  · have hstore : (state.withMemory memory).store =
        state.store.modify number (·.set name (some cache)) := by
      rw [GuardState.withMemory, hchanged]
      rfl
    rw [hstore]
    exact .of_event _ (.setAttribute number name (some cache)) trivial

theorem leads_enter (site : Site) (surroundings : Surroundings) (now : Int) (request : Request)
    (exchange : Exchange) :
    (exchange.timed now).Leads
      ((site.enter surroundings now request exchange).2.1.timed now) := by
  unfold Site.enter screen
  split
  · exact .refl _
  · next validator _ =>
      have hseated := leads_currentSession surroundings site.cookieWritable now true exchange
      split
      · next hcurrent =>
          rw [hcurrent] at hseated
          exact hseated
      · next session seated hcurrent =>
          rw [hcurrent] at hseated
          refine hseated.trans (leads_withMemory ?_)
          refine (validator.sessions_process surroundings.source seated.state.memory
            (guardedRequest request validator.nonceParam) session).imp_right ?_
          rintro ⟨number, cache, hchanged⟩
          exact ⟨number, _, cache, hchanged⟩

/-- A view that does nothing with the sessions of the site but by operations of their store. -/
def View.UsesStore {α : Type} (now : Int) (view : View α) : Prop :=
  ∀ visit : Visit, (visit.exchange.timed now).Leads ((view visit).2.exchange.timed now)

theorem leads_receive {α : Type} {view : View α} {state : SiteState}
    (hview : view.UsesStore state.now) (site : Site) (surroundings : Surroundings) (client : Nat)
    (request : Request) :
    state.timed.Leads (site.receive surroundings view state client request).2.timed := by
  have hentered := leads_enter site surroundings state.now request
    ⟨state.cookies client, state.guardState⟩
  unfold Site.receive
  split
  · next hentry =>
      rw [hentry] at hentered
      exact hentered
  · next issued exchange records hentry =>
      rw [hentry] at hentered
      exact hentered.trans (hview ⟨request, issued, exchange, records⟩)

/-! ## Helpers -/

theorem leads_perform (site : Site) (surroundings : Surroundings) (now : Int) (visit : Visit)
    (call : HelperCall) :
    (visit.exchange.timed now).Leads
      ((call.perform site surroundings now visit).2.exchange.timed now) := by
  cases call with
  | currentSession create =>
      exact leads_currentSession surroundings site.cookieWritable now create visit.exchange
  | _ => exact .refl _

theorem leads_performAll (site : Site) (surroundings : Surroundings) (now : Int) (visit : Visit)
    (calls : List HelperCall) :
    (visit.exchange.timed now).Leads
      ((HelperCall.performAll site surroundings now visit calls).2.exchange.timed now) := by
  induction calls generalizing visit with
  | nil => exact .refl _
  | cons call rest ih => exact (leads_perform site surroundings now visit call).trans (ih _)

theorem usesStore_callView (site : Site) (surroundings : Surroundings) (now : Int)
    (calls : List HelperCall) : (callView site surroundings now calls).UsesStore now :=
  fun visit => leads_performAll site surroundings now visit calls

/-! ## Runs -/

/-- What can happen to a site, its views calling helpers as they like. -/
inductive Occurrence where
  | request (client : Nat) (request : Request) (calls : List HelperCall)
  | act (act : ClientAct)
  deriving Repr, DecidableEq

namespace Site

def meet (site : Site) (surroundings : Surroundings) (state : SiteState) : Occurrence → SiteState
  | .request client request calls =>
      (site.receive surroundings (callView site surroundings state.now calls) state client
        request).2
  | .act act => state.act act

def afterwards (site : Site) (surroundings : Surroundings) (state : SiteState)
    (occurrences : List Occurrence) : SiteState :=
  occurrences.foldl (site.meet surroundings) state

end Site

theorem leads_act (state : SiteState) (act : ClientAct) :
    state.timed.Leads (state.act act).timed := by
  cases act with
  | advance milliseconds => exact .of_event _ (.wait milliseconds) trivial
  | forget client => exact .refl _
  | setSessionId client id => exact .refl _
  | invalidate client =>
      dsimp only [SiteState.act]
      split
      · next id _ => exact .of_event _ (.request (.invalidate id)) trivial
      · exact .refl _

theorem leads_meet (site : Site) (surroundings : Surroundings) (state : SiteState)
    (occurrence : Occurrence) :
    state.timed.Leads (site.meet surroundings state occurrence).timed := by
  cases occurrence with
  | request client request calls =>
      exact leads_receive (usesStore_callView site surroundings state.now calls) site surroundings
        client request
  | act act => exact leads_act state act

/-- Whatever happens to a site, operations lead from the store that it has to the one that it has
then. -/
theorem leads_afterwards (site : Site) (surroundings : Surroundings) (state : SiteState)
    (occurrences : List Occurrence) :
    state.timed.Leads (site.afterwards surroundings state occurrences).timed := by
  induction occurrences generalizing state with
  | nil => exact .refl _
  | cons first rest ih => exact (leads_meet site surroundings state first).trans (ih _)

/-! ## The session of a client -/

namespace Exchange

/-- Whether a session is held for the identifier in the cookie and has not been idle for too long. -/
def Finds (exchange : Exchange) (now : Int) (number : Nat) : Prop :=
  ∃ id session, exchange.cookie.sessionId = some id ∧ id ≠ "" ∧
    (id, number) ∈ exchange.state.store.held ∧
    exchange.state.store.session? number = some session ∧
    now - session.lastAccessed ≤ exchange.state.store.idleLimit

theorem get_eq_some_iff_finds {number : Nat} (sound : exchange.state.store.Sound) :
    (exchange.state.store.get now exchange.cookie.sessionId).1 = some number ↔
      exchange.Finds now number := by
  constructor
  · intro hget
    rcases SessionStore.get_eq_self_or exchange.state.store now exchange.cookie.sessionId with
      hself | ⟨id, hid, hcookie⟩
    · rw [hself] at hget
      cases hget
    · rw [hcookie] at hget
      obtain ⟨hheld, session, hsession, -, hidle⟩ :=
        TimedStore.of_get_eq_some (show (exchange.timed now).store.Sound from sound) hget
      exact ⟨id, session, hcookie, hid, hheld, hsession, hidle⟩
  · rintro ⟨id, session, hcookie, hid, hheld, hsession, hidle⟩
    have hfresh : exchange.state.store.isStale now number = false := by
      rw [← Bool.not_eq_true, SessionStore.isStale_iff hsession]
      omega
    have hfound : (exchange.state.store.purge now).numberOf? id = some number :=
      (SessionStore.numberOf?_eq_some_iff (SessionStore.nodup_purge sound.held_once)).mpr
        (SessionStore.mem_purge_of_not_stale hheld hfresh)
    rw [hcookie]
    rcases SessionStore.get_cases exchange.state.store now hid with
      ⟨hnone, -⟩ | ⟨other, hother, ⟨hstale, -⟩ | ⟨-, hget⟩⟩
    · rw [hfound] at hnone
      cases hnone
    · cases hfound.symm.trans hother
      cases hfresh.symm.trans hstale
    · cases hfound.symm.trans hother
      rw [hget]

/-- How a client comes by its session. One that the store has for its cookie is found; failing that,
a new one is created in the store if one is called for, whether or not the cookie can be written. -/
structure SeatedByStore (exchange : Exchange) (surroundings : Surroundings) (now : Int) : Prop where
  found : ∀ number, exchange.Finds now number → ∀ writable create,
    (exchange.currentSession surroundings writable now create).1 = .ok (some number)
  not_found : (∀ number, ¬ exchange.Finds now number) → ∀ writable,
    (exchange.currentSession surroundings writable now false).1 = .ok none
  created : (∀ number, ¬ exchange.Finds now number) → ∀ writable,
    let number := exchange.state.store.sessions.length
    let outcome := exchange.currentSession surroundings writable now true
    outcome.1 = (if writable then .ok (some number) else .error .cookieNotWritable) ∧
      (surroundings.sessionId number, number) ∈ outcome.2.state.store.held ∧
      outcome.2.state.store.session? number =
        some (.create (surroundings.sessionId number) now)

theorem seatedByStore (sound : exchange.state.store.Sound) (surroundings : Surroundings)
    (now : Int) : exchange.SeatedByStore surroundings now := by
  have hmissing : (∀ number, ¬ exchange.Finds now number) →
      (exchange.state.store.get now exchange.cookie.sessionId).1 = none := fun hnone =>
    Option.eq_none_iff_forall_ne_some.mpr fun number hget =>
      hnone number ((get_eq_some_iff_finds sound).mp hget)
  constructor
  · intro number hfinds writable create
    unfold currentSession
    dsimp only
    rw [(get_eq_some_iff_finds sound).mpr hfinds]
  · intro hnone writable
    unfold currentSession
    dsimp only
    rw [hmissing hnone]
    rfl
  · intro hnone writable
    have hmiss := hmissing hnone
    have hlooked := SessionStore.sessions_of_get_eq_none hmiss
    unfold currentSession
    dsimp only
    -- The new session has the number that was next before the lookup.
    generalize exchange.state.store.get now exchange.cookie.sessionId = result at hmiss hlooked ⊢
    obtain ⟨found, looked⟩ := result
    subst hmiss
    rw [← hlooked]
    cases writable with
    | false => exact ⟨rfl, SessionStore.mem_held_create .., SessionStore.session?_create ..⟩
    | true => exact ⟨rfl, SessionStore.mem_held_create .., SessionStore.session?_create ..⟩

end Exchange

end Web

end CsrfGuard
