import CsrfGuard.Proofs.Web.Screening

/-!
# How long a nonce stays valid

A nonce that a client was issued lets the client pass for as long as the client is not away for too
long and passes fewer times than there are valid nonces; what other clients do and how often the
client is denied does not matter (`verdict?_of_issued`).

## Strategy

All of this can be told from the visitor book. A book *keeps* a nonce for a client if the nonce is
among those issued to the client, with so many after it (`VisitorBook.Keeps`). One event changes
this by what the event is to the client (`Keeps.react`), a list of events by the passes of the
client (`Keeps.after`), and a site follows its book through all of them (`Follows.after`).
-/

namespace CsrfGuard.Web

/-! ## Events -/

def Verdict.isPassed : Verdict → Bool
  | .passed _ => true
  | .denied => false

namespace VisitEvent

/-- How often an event lets a client pass, which is once or not at all. -/
def passes (client : Nat) (judge : Request → Option Verdict) : VisitEvent → Nat
  | .request other sent =>
      if other = client ∧ (judge sent).any Verdict.isPassed = true then 1 else 0
  | .wait _ => 0
  | .forget _ => 0

end VisitEvent

/-- A client that keeps its cookie and is never away for longer than `limit`, also not at the end of
the events; at their beginning it has been away for `away` milliseconds. -/
def StaysInTouch (client : Nat) (limit : Int) : Int → List VisitEvent → Prop
  | away, [] => away ≤ limit
  | away, .request other _ :: rest =>
      if other = client then away ≤ limit ∧ StaysInTouch client limit 0 rest
      else StaysInTouch client limit away rest
  | away, .wait milliseconds :: rest => StaysInTouch client limit (away + milliseconds) rest
  | away, .forget other :: rest => other ≠ client ∧ StaysInTouch client limit away rest

instance decidableStaysInTouch (client : Nat) (limit : Int) :
    ∀ away events, Decidable (StaysInTouch client limit away events)
  | away, [] => inferInstanceAs (Decidable (away ≤ limit))
  | away, .request other _ :: rest =>
      have := decidableStaysInTouch client limit 0 rest
      have := decidableStaysInTouch client limit away rest
      inferInstanceAs (Decidable (if other = client then _ ∧ _ else _))
  | away, .wait milliseconds :: rest =>
      decidableStaysInTouch client limit (away + milliseconds) rest
  | away, .forget other :: rest =>
      have := decidableStaysInTouch client limit away rest
      inferInstanceAs (Decidable (other ≠ client ∧ _))

namespace Site

variable {α : Type} (site : Site) (surroundings : Surroundings) (view : View α)

/-- The state of a site after an event, requests being answered by a view. -/
def react (state : SiteState) : VisitEvent → SiteState
  | .request client request => (site.receive surroundings view state client request).2
  | .wait milliseconds => state.act (.advance milliseconds)
  | .forget client => state.act (.forget client)

def after (state : SiteState) (events : List VisitEvent) : SiteState :=
  events.foldl (site.react surroundings view) state

/-- How often a client passes among events. -/
def passes (client : Nat) (state : SiteState) : List VisitEvent → Nat
  | [] => 0
  | event :: rest =>
      event.passes client (site.verdict? surroundings state client) +
        passes client (site.react surroundings view state event) rest

end Site

namespace VisitorBook

def react (book : VisitorBook) (rules : HouseRules) : VisitEvent → VisitorBook
  | .request client request => (book.receive rules client request).2
  | .wait milliseconds => { book with now := book.now + milliseconds }
  | .forget client => book.forget client

def after (book : VisitorBook) (rules : HouseRules) (events : List VisitEvent) : VisitorBook :=
  events.foldl (·.react rules) book

def passes (client : Nat) (rules : HouseRules) (book : VisitorBook) : List VisitEvent → Nat
  | [] => 0
  | event :: rest =>
      event.passes client (fun request => some (book.receive rules client request).1) +
        passes client rules (book.react rules event) rest

/-! ## What a book keeps -/

/-- A client has been away for `away` milliseconds and has been issued a nonce, and `since` nonces
after it. -/
def Keeps (book : VisitorBook) (client : Nat) (nonce : String) (since : Nat) (away : Int) : Prop :=
  ∃ lastSeen front later, book.visitors client = some ⟨lastSeen, front ++ nonce :: later⟩ ∧
    later.length = since ∧ book.now - lastSeen = away

variable {book : VisitorBook} {rules : HouseRules} {client : Nat} {nonce : String} {since : Nat}
  {away : Int}

/-- Only what happens to the client itself counts. -/
theorem Keeps.congr (keeps : book.Keeps client nonce since away) {other : VisitorBook}
    (hnow : other.now = book.now) (hvisitor : other.visitors client = book.visitors client) :
    other.Keeps client nonce since away := by
  unfold Keeps at keeps ⊢
  rw [hnow, hvisitor]
  exact keeps

theorem keeps_enter (book : VisitorBook) (client : Nat) (nonce : String) (front later : List String)
    (issued : Nat) :
    VisitorBook.Keeps { book.enter client (front ++ nonce :: later) with issued } client nonce
      later.length 0 :=
  ⟨book.now, front, later, Function.update_self .., rfl, Int.sub_self _⟩

theorem Keeps.pastOf (keeps : book.Keeps client nonce since away) (haway : away ≤ rules.idleLimit) :
    ∃ front later, book.pastOf rules client = some (front ++ nonce :: later) ∧
      later.length = since := by
  obtain ⟨lastSeen, front, later, hfound, hlength, rfl⟩ := keeps
  refine ⟨front, later, ?_, hlength⟩
  simp only [VisitorBook.pastOf, hfound, if_pos haway]

/-- A request of another client leaves the book of this one as it is. -/
theorem Keeps.receive_other (keeps : book.Keeps client nonce since away) {other : Nat}
    (hother : other ≠ client) (request : Request) :
    (book.receive rules other request).2.Keeps client nonce since away := by
  unfold VisitorBook.receive
  dsimp only
  split
  · exact keeps.congr rfl (Function.update_of_ne hother.symm ..)
  · exact keeps.congr rfl (Function.update_of_ne hother.symm ..)

/-- A request of the client itself adds a nonce if it passes, and ends the absence either way. -/
theorem Keeps.receive_self (keeps : book.Keeps client nonce since away)
    (haway : away ≤ rules.idleLimit) (request : Request) :
    (book.receive rules client request).2.Keeps client nonce
      (since + if (book.receive rules client request).1.isPassed = true then 1 else 0) 0 := by
  obtain ⟨front, later, hpast, rfl⟩ := keeps.pastOf haway
  unfold VisitorBook.receive
  rw [hpast]
  dsimp only
  split
  · -- The new nonce goes behind those that the client has.
    have hkept := keeps_enter book client nonce front
      (later ++ [rules.nonce (book.issued + 1)]) (book.issued + 1)
    simpa [Verdict.isPassed] using hkept
  · exact keeps_enter book client nonce front later book.issued

theorem Keeps.react (keeps : book.Keeps client nonce since away) {event : VisitEvent}
    {rest : List VisitEvent} (htouch : StaysInTouch client rules.idleLimit away (event :: rest)) :
    ∃ later, (book.react rules event).Keeps client nonce
        (since +
          event.passes client fun request => some (book.receive rules client request).1) later ∧
      StaysInTouch client rules.idleLimit later rest := by
  cases event with
  | request other request =>
      unfold StaysInTouch at htouch
      split at htouch
      · next hself =>
          subst hself
          obtain ⟨haway, hrest⟩ := htouch
          refine ⟨0, ?_, hrest⟩
          simpa [VisitEvent.passes, react] using keeps.receive_self haway request
      · next hother =>
          have hzero : (VisitEvent.request other request).passes client
              (fun request => some (book.receive rules client request).1) = 0 :=
            if_neg fun hboth => hother hboth.1
          rw [hzero]
          exact ⟨away, keeps.receive_other hother request, htouch⟩
  | wait milliseconds =>
      obtain ⟨lastSeen, front, later, hfound, hlength, rfl⟩ := keeps
      refine ⟨_, ⟨lastSeen, front, later, hfound, hlength, ?_⟩, htouch⟩
      change book.now + milliseconds - lastSeen = _
      omega
  | forget other =>
      obtain ⟨hother, hrest⟩ := htouch
      have hkept : (book.react rules (.forget other)).visitors client = book.visitors client :=
        Function.update_of_ne hother.symm ..
      exact ⟨away, keeps.congr rfl hkept, hrest⟩

theorem Keeps.after (keeps : book.Keeps client nonce since away) {events : List VisitEvent}
    (htouch : StaysInTouch client rules.idleLimit away events) :
    ∃ later ≤ rules.idleLimit,
      (book.after rules events).Keeps client nonce (since + book.passes client rules events)
        later := by
  induction events generalizing book since away with
  | nil => exact ⟨away, htouch, keeps⟩
  | cons event rest ih =>
      obtain ⟨later, hkept, hrest⟩ := keeps.react htouch
      obtain ⟨last, hlast, hend⟩ := ih hkept hrest
      rw [Nat.add_assoc] at hend
      exact ⟨last, hlast, hend⟩

/-- A nonce that is kept lets its client pass while there is room for it in the window. -/
theorem Keeps.passes (keeps : book.Keeps client nonce since away)
    (haway : away ≤ rules.idleLimit) (hsince : since < rules.window) (hne : nonce ≠ "")
    {request : Request} (hsupplied : rules.nonceParam.bind request.parameter? = some nonce) :
    rules.Passes (book.pastOf rules client) request := by
  obtain ⟨front, later, hpast, rfl⟩ := keeps.pastOf haway
  rw [hpast]
  exact Or.inr (Or.inr ⟨_, rfl, nonce, hsupplied, hne,
    NonceCache.mem_recent_of_length_lt front hsince⟩)

theorem receive_of_passes {request : Request}
    (hpasses : rules.Passes (book.pastOf rules client) request) :
    (book.receive rules client request).1 = .passed (rules.nonce (book.issued + 1)) := by
  unfold VisitorBook.receive
  rw [if_pos hpasses]

/-- A client that has just been issued a nonce has it, and is there. -/
theorem keeps_of_passed {request : Request}
    (hpassed : (book.receive rules client request).1 = .passed nonce) :
    (book.receive rules client request).2.Keeps client nonce 0 0 := by
  unfold VisitorBook.receive at hpassed ⊢
  dsimp only at hpassed ⊢
  split at hpassed
  · next hpasses =>
      rw [if_pos hpasses]
      cases hpassed
      exact keeps_enter book client (rules.nonce (book.issued + 1)) _ [] _
  · cases hpassed

end VisitorBook

/-! ## A site and its book -/

namespace Follows

variable {validator : Validator} {surroundings : Surroundings} {idleLimit : Int}
  {state : SiteState} {book : VisitorBook} {register : SessionRegister CacheNumber}
  {past : Nat → Past} {site : Site} {α : Type} {view : View α}
  (follows : Follows validator surroundings idleLimit state book register past)
  (reliable : surroundings.Reliable) (hguard : site.guard = some validator)
  (hwritable : site.cookieWritable = true) (hview : view.KeepsGuard)

include follows reliable hguard hwritable hview

theorem react (event : VisitEvent) :
    ∃ after later, Follows validator surroundings idleLimit
      (site.react surroundings view state event)
      (book.react (.of validator surroundings.source idleLimit) event) after later := by
  cases event with
  | request client request =>
      exact (follows.receive reliable hguard hwritable hview client request).2
  | wait milliseconds => exact ⟨_, _, follows.wait milliseconds⟩
  | forget client => exact ⟨_, _, follows.forget client⟩

theorem after (events : List VisitEvent) :
    ∃ later remembered, Follows validator surroundings idleLimit
      (site.after surroundings view state events)
      (book.after (.of validator surroundings.source idleLimit) events) later remembered := by
  induction events generalizing state book register past with
  | nil => exact ⟨_, _, follows⟩
  | cons event rest ih =>
      obtain ⟨later, remembered, hnext⟩ := follows.react reliable hguard hwritable hview event
      exact ih hnext

theorem passes_eq (client : Nat) (events : List VisitEvent) :
    site.passes surroundings view client state events =
      book.passes client (.of validator surroundings.source idleLimit) events := by
  induction events generalizing state book register past with
  | nil => rfl
  | cons event rest ih =>
      have hjudge : site.verdict? surroundings state client = fun request =>
          some (book.receive (.of validator surroundings.source idleLimit) client request).1 :=
        funext fun request => (follows.receive reliable hguard hwritable hview client request).1
      obtain ⟨later, remembered, hnext⟩ := follows.react reliable hguard hwritable hview event
      rw [Site.passes, VisitorBook.passes, hjudge, ih hnext]

/-- After a client was issued a nonce, the client passes with it, if it has stayed in touch and has
passed fewer times than there are valid nonces. -/
theorem verdict?_of_issued {client : Nat} {request : Request} {nonce : String} (hne : nonce ≠ "")
    (hissued : site.verdict? surroundings state client request = some (.passed nonce))
    {events : List VisitEvent} (htouch : StaysInTouch client idleLimit 0 events)
    (hfew : site.passes surroundings view client
      (site.receive surroundings view state client request).2 events <
        validator.slot.capacity.size)
    {following : Request}
    (hsupplied : validator.nonceParam.bind following.parameter? = some nonce) :
    ∃ next, site.verdict? surroundings
      (site.after surroundings view (site.receive surroundings view state client request).2 events)
      client following = some (.passed next) := by
  obtain ⟨hverdict, later, remembered, hnext⟩ :=
    follows.receive reliable hguard hwritable hview client request
  rw [hissued, Option.some_inj] at hverdict
  have hidle : (HouseRules.of validator surroundings.source idleLimit).idleLimit = idleLimit := rfl
  have hkeeps := VisitorBook.keeps_of_passed hverdict.symm
  obtain ⟨away, haway, hkept⟩ := hkeeps.after (hidle ▸ htouch)
  -- The book counts the passes of the client as the site does.
  rw [Nat.zero_add, ← hnext.passes_eq reliable hguard hwritable hview] at hkept
  obtain ⟨_, _, hlast⟩ := hnext.after reliable hguard hwritable hview events
  have hpasses := hkept.passes haway hfew hne hsupplied
  rw [(hlast.receive reliable hguard hwritable hview client following).1,
    VisitorBook.receive_of_passes hpasses]
  exact ⟨_, rfl⟩

end Follows

end CsrfGuard.Web
