import CsrfGuard.Proofs.Session.Register

/-!
# For how long a session is held

The clock of a server may be set back, whoever has got hold of a session may mark it as used at any
time, and a new session may be given the identifier of an old one. After such events the order in
which a store holds its sessions says nothing about how long they have been idle. This file says
what a lookup and a creation do in every state that a store can get into, wherever in the order the
identifier stands and whatever is stale around it, and that a session is lost only when it is stale
or when its identifier is ended or given away (`lookups_and_creations_after`).

## Strategy

Two facts survive every event: each identifier is held once, and it stands for a session that was
created under it (`Sound`). Given the first, the list of what is held can be cut at the identifier
that is looked up, and both operations are described by such cuts: `Lookup` has one case for each
way in which a lookup ends, `Creation` one for each place at which a new session can go. What later
files need to know of an operation they take from these cases.
-/

namespace CsrfGuard

variable {α : Type}

/-- What can happen to a store and to the sessions that it has created. -/
inductive StoreEvent (α : Type) where
  /-- Time goes by, in milliseconds; the clock may also be set back. -/
  | wait (milliseconds : Int)
  | request (request : SessionRequest)
  /-- A session is marked as used without being looked up, be it held or not. -/
  | touch (number : Nat) (time : Int)
  | setAttribute (number : Nat) (name : AttributeName) (value : Option α)
  deriving Repr, DecidableEq

/-- Whether an event ends what is held under an identifier: the session itself is ended, or the
identifier is given to a new one. -/
def StoreEvent.Ends (event : StoreEvent α) (id : String) : Prop :=
  event = .request (.invalidate id) ∨ event = .request (.create id)

/-- A store at a time. -/
structure TimedStore (α : Type) where
  now : Int
  store : SessionStore α
  deriving Repr, DecidableEq

namespace TimedStore

def start (idleLimit now : Int) : TimedStore α := ⟨now, .empty idleLimit⟩

def react (state : TimedStore α) : StoreEvent α → TimedStore α
  | .wait milliseconds => { state with now := state.now + milliseconds }
  | .request request => { state with store := (state.store.perform state.now request).2 }
  | .touch number time => { state with store := state.store.touch number time }
  | .setAttribute number name value =>
      { state with store := state.store.modify number (·.set name value) }

def after (state : TimedStore α) : List (StoreEvent α) → TimedStore α
  | [] => state
  | event :: rest => (state.react event).after rest

def isStale (state : TimedStore α) (number : Nat) : Bool := state.store.isStale state.now number

end TimedStore

namespace SessionStore

/-! ## Cuts of a list of identifiers -/

section Cuts

variable {front back : List (String × Nat)} {id : String} {number old : Nat}

theorem sublist_cut (front back : List (String × Nat)) (entry : String × Nat) :
    (front ++ back).Sublist (front ++ entry :: back) :=
  (List.sublist_cons_self entry back).append_left front

theorem ne_of_nodup_cut (hnodup : ((front ++ (id, old) :: back).map (·.1)).Nodup) :
    ∀ entry ∈ front ++ back, entry.1 ≠ id := by
  have hperm : (front ++ (id, old) :: back).Perm ((id, old) :: (front ++ back)) :=
    List.perm_middle
  rw [(hperm.map _).nodup_iff, List.map_cons, List.nodup_cons] at hnodup
  intro entry hentry hid
  exact hnodup.1 (List.mem_map.mpr ⟨entry, hentry, hid⟩)

theorem filter_cut (hnodup : ((front ++ (id, old) :: back).map (·.1)).Nodup) :
    (front ++ (id, old) :: back).filter (·.1 ≠ id) = front ++ back := by
  have hothers : (front ++ back).filter (·.1 ≠ id) = front ++ back :=
    List.filter_eq_self.mpr fun entry hentry =>
      decide_eq_true (ne_of_nodup_cut hnodup entry hentry)
  rw [List.filter_append, List.filter_cons_of_neg (by simp), ← List.filter_append, hothers]

theorem hold_cut (hnodup : ((front ++ (id, old) :: back).map (·.1)).Nodup) :
    hold (front ++ (id, old) :: back) id number = front ++ (id, number) :: back := by
  have hothers := ne_of_nodup_cut hnodup
  have hsame : ∀ entries : List (String × Nat), (∀ entry ∈ entries, entry.1 ≠ id) →
      (entries.map fun entry => if entry.1 = id then (id, number) else entry) = entries :=
    fun entries hne => (List.map_congr_left fun entry hentry => if_neg (hne entry hentry)).trans
      (List.map_id _)
  rw [hold, if_pos (by simp), List.map_append, List.map_cons, if_pos rfl,
    hsame front fun entry hentry => hothers entry (List.mem_append_left _ hentry),
    hsame back fun entry hentry => hothers entry (List.mem_append_right _ hentry)]

theorem hold_of_not_held {held : List (String × Nat)} (hid : ∀ entry ∈ held, entry.1 ≠ id) :
    hold held id number = held ++ [(id, number)] := by
  have hany : held.any (·.1 = id) = false := by
    rw [List.any_eq_false]
    exact fun entry hentry => by simpa using hid entry hentry
  rw [hold, hany]
  rfl

end Cuts

/-! ## What lookups and creations do -/

/-- How a lookup of an identifier ends when `kept` is what is still held: the identifier is not
there; or its session is overdue and given up; or its session is found, gets the time of the lookup
as that of its last use, and is put at the end. -/
inductive Lookup (store : SessionStore α) (now : Int) (kept : List (String × Nat)) (id : String) :
    Option Nat × SessionStore α → Prop where
  | missing (hid : ∀ entry ∈ kept, entry.1 ≠ id) :
      Lookup store now kept id (none, { store with held := kept })
  | stale {front back : List (String × Nat)} {number : Nat}
      (hkept : kept = front ++ (id, number) :: back)
      (hoverdue : store.Overdue now number) :
      Lookup store now kept id (none, { store with held := front ++ back })
  | found {front back : List (String × Nat)} {number : Nat}
      (hkept : kept = front ++ (id, number) :: back)
      (hfresh : ¬ store.Overdue now number) :
      Lookup store now kept id
        (some number,
          { store with
            sessions := store.sessions.modify number fun session =>
              { session with lastAccessed := now }
            held := front ++ back ++ [(id, number)] })

/-- How a creation under an identifier ends when `kept` is what is still held: the new session, made
and last used at the time of the creation, goes to the end, or in the place of the session that had
the identifier before. -/
inductive Creation (store : SessionStore α) (now : Int) (kept : List (String × Nat)) (id : String) :
    Nat × SessionStore α → Prop where
  | appended (hid : ∀ entry ∈ kept, entry.1 ≠ id) :
      Creation store now kept id (store.sessions.length,
        { store with
          sessions := store.sessions ++
            [{ id := id, createdAt := now, lastAccessed := now, attributes := [] }]
          held := kept ++ [(id, store.sessions.length)] })
  | replaced {front back : List (String × Nat)} {old : Nat}
      (hkept : kept = front ++ (id, old) :: back) :
      Creation store now kept id (store.sessions.length,
        { store with
          sessions := store.sessions ++
            [{ id := id, createdAt := now, lastAccessed := now, attributes := [] }]
          held := front ++ (id, store.sessions.length) :: back })

variable {store : SessionStore α} {now : Int} {id : String} {number : Nat}

theorem not_held_of_numberOf?_eq_none (hnodup : store.heldIds.Nodup)
    (hnone : store.numberOf? id = none) : ∀ entry ∈ store.held, entry.1 ≠ id := by
  rintro ⟨_, number⟩ hentry rfl
  rw [(numberOf?_eq_some_iff hnodup).mpr hentry] at hnone
  cases hnone

/-- A lookup changes nothing, unless it is one of an identifier that is not empty. -/
theorem get_eq_self_or (store : SessionStore α) (now : Int) (id : Option String) :
    store.get now id = (none, store) ∨ ∃ name, name ≠ "" ∧ id = some name := by
  rcases id with _ | name
  · exact Or.inl rfl
  · rcases eq_or_ne name "" with rfl | hname
    · exact Or.inl rfl
    · exact Or.inr ⟨name, hname, rfl⟩

theorem lookup_get (hnodup : store.heldIds.Nodup) (now : Int) (hid : id ≠ "") :
    Lookup store now (store.purge now).held id (store.get now (some id)) := by
  have hpurged : (store.purge now).heldIds.Nodup := nodup_purge hnodup
  rcases get_cases store now hid with
    ⟨hnone, hget⟩ | ⟨number, hnumber, hcases⟩
  · -- What cannot be found is not held.
    rw [hget]
    exact .missing (not_held_of_numberOf?_eq_none hpurged hnone)
  · obtain ⟨front, back, hkept⟩ :=
      List.append_of_mem ((numberOf?_eq_some_iff hpurged).mp hnumber)
    -- The identifier is held once, so that taking it out leaves both sides of the cut whole.
    rw [heldIds, hkept] at hpurged
    have hrest : ((store.purge now).invalidate id).held = front ++ back := by
      rw [invalidate, hkept]
      exact filter_cut hpurged
    rcases hcases with ⟨hstale, hget⟩ | ⟨hfresh, hget⟩
    · have hstore : (store.purge now).invalidate id = { store with held := front ++ back } := by
        rw [← hrest]
        rfl
      rw [hget, hstore]
      exact .stale hkept (isStale_iff_overdue.mp hstale)
    · have hstore : ((store.purge now).touch number now).moveToEnd id number =
          { store.touch number now with held := front ++ back ++ [(id, number)] } := by
        rw [← hrest]
        rfl
      rw [hget, hstore]
      exact .found hkept (isStale_eq_false_iff.mp hfresh)

theorem get_eq_self_or_lookup (hnodup : store.heldIds.Nodup) (now : Int) (id : Option String) :
    store.get now id = (none, store) ∨
      ∃ name, Lookup store now (store.purge now).held name (store.get now id) := by
  refine (get_eq_self_or store now id).imp_right ?_
  rintro ⟨name, hname, rfl⟩
  exact ⟨name, lookup_get hnodup now hname⟩

/-- A lookup of whatever identifier leaves a session held that is not stale. -/
theorem Lookup.mem_held {kept : List (String × Nat)} {result : Option Nat × SessionStore α}
    (lookup : Lookup store now kept id result) {entry : String × Nat} (hentry : entry ∈ kept)
    (hfresh : ¬ store.Overdue now entry.2) : entry ∈ result.2.held := by
  cases lookup with
  | missing hid => exact hentry
  | @stale front back number hkept hoverdue =>
      rw [hkept, List.mem_append, List.mem_cons] at hentry
      rcases hentry with hfront | rfl | hback
      · exact List.mem_append_left _ hfront
      · exact absurd hoverdue hfresh
      · exact List.mem_append_right _ hback
  | @found front back number hkept _ =>
      rw [hkept, List.mem_append, List.mem_cons] at hentry
      rw [List.mem_append, List.mem_append, List.mem_singleton]
      rcases hentry with hfront | rfl | hback
      · exact Or.inl (Or.inl hfront)
      · exact Or.inr rfl
      · exact Or.inl (Or.inr hback)

/-- A lookup brings in no identifier. -/
theorem Lookup.mem_heldIds {kept : List (String × Nat)} {result : Option Nat × SessionStore α}
    (lookup : Lookup store now kept id result) {other : String}
    (hother : other ∈ result.2.heldIds) : other ∈ kept.map (·.1) := by
  cases lookup with
  | missing hid => exact hother
  | @stale front back number hkept _ =>
      rw [hkept]
      exact ((sublist_cut front back _).map _).subset hother
  | @found front back number hkept _ =>
      have hperm : (front ++ back ++ [(id, number)]).Perm (front ++ (id, number) :: back) :=
        (List.perm_append_singleton _ _).trans List.perm_middle.symm
      rw [hkept]
      exact (hperm.map _).subset hother

theorem creation_create (hnodup : store.heldIds.Nodup) (now : Int) (id : String) :
    Creation store now (store.purge now).held id (store.create now id) := by
  have hpurged : (store.purge now).heldIds.Nodup := nodup_purge hnodup
  rw [create]
  cases hfound : (store.purge now).numberOf? id with
  | none =>
      have hid := not_held_of_numberOf?_eq_none hpurged hfound
      rw [hold_of_not_held hid]
      exact .appended hid
  | some old =>
      obtain ⟨front, back, hkept⟩ :=
        List.append_of_mem ((numberOf?_eq_some_iff hpurged).mp hfound)
      rw [heldIds, hkept] at hpurged
      have hheld : hold (store.purge now).held id store.sessions.length =
          front ++ (id, store.sessions.length) :: back := by
        rw [hkept]
        exact hold_cut hpurged
      rw [hheld]
      exact .replaced hkept

/-- What is given up ahead of both: the stale sessions up to the first that is not. -/
theorem held_eq_append_purge (store : SessionStore α) (now : Int) :
    ∃ gone, store.held = gone ++ (store.purge now).held ∧
      (∀ entry ∈ gone, store.Overdue now entry.2) ∧
      ∀ entry ∈ (store.purge now).held.head?, ¬ store.Overdue now entry.2 := by
  let stale (entry : String × Nat) : Bool := store.isStale now entry.2
  refine ⟨store.held.takeWhile stale, List.takeWhile_append_dropWhile.symm, ?_, ?_⟩
  · intro entry hentry
    exact isStale_iff_overdue.mp (List.mem_takeWhile_imp (p := stale) hentry)
  · intro entry hentry
    have hhead := List.head?_dropWhile_not stale store.held
    change (store.held.dropWhile stale).head? = some entry at hentry
    rw [hentry] at hhead
    exact isStale_eq_false_iff.mp hhead

/-! ## What survives every event -/

/-- Each identifier is held once, and stands for a session that was created under it. -/
structure Sound (store : SessionStore α) : Prop where
  held_once : store.heldIds.Nodup
  own_id : ∀ id number, (id, number) ∈ store.held →
    ∃ session, store.session? number = some session ∧ session.id = id

namespace Sound

theorem empty (idleLimit : Int) : Sound (SessionStore.empty idleLimit : SessionStore α) where
  held_once := List.nodup_nil
  own_id := fun _ _ hheld => by cases hheld

theorem purge (sound : Sound store) (now : Int) : Sound (store.purge now) where
  held_once := nodup_purge sound.held_once
  own_id := fun id number hheld =>
    sound.own_id id number ((held_purge_suffix store now).subset hheld)

theorem invalidate (sound : Sound store) (id : String) : Sound (store.invalidate id) where
  held_once := nodup_invalidate sound.held_once
  own_id := fun other number hheld => sound.own_id other number (mem_invalidate.mp hheld).1

theorem modify (sound : Sound store) (number : Nat) {change : Session α → Session α}
    (hid : ∀ session, (change session).id = session.id) : Sound (store.modify number change) where
  held_once := sound.held_once
  own_id := by
    intro id other hheld
    obtain ⟨session, hsession, rfl⟩ := sound.own_id id other hheld
    rw [session?_modify, hsession]
    split
    · exact ⟨change session, rfl, hid session⟩
    · exact ⟨session, rfl, rfl⟩

theorem moveToEnd (sound : Sound store) (hheld : (id, number) ∈ store.held) :
    Sound (store.moveToEnd id number) where
  held_once := nodup_moveToEnd sound.held_once
  own_id := by
    intro other found hfound
    rcases mem_moveToEnd.mp hfound with ⟨hmem, -⟩ | hsame
    · exact sound.own_id other found hmem
    · cases hsame
      exact sound.own_id id number hheld

theorem get (sound : Sound store) (now : Int) (id : Option String) :
    Sound (store.get now id).2 := by
  rcases get_eq_self_or store now id with hsame | ⟨name, hname, rfl⟩
  · rw [hsame]
    exact sound
  have hpurged := sound.purge now
  rcases get_cases store now hname with
    ⟨-, hget⟩ | ⟨number, hnumber, ⟨-, hget⟩ | ⟨-, hget⟩⟩
  · rw [hget]
    exact hpurged
  · rw [hget]
    exact hpurged.invalidate name
  · have hheld := (numberOf?_eq_some_iff hpurged.held_once).mp hnumber
    have htouched : Sound ((store.purge now).touch number now) :=
      hpurged.modify number fun _ => rfl
    rw [hget]
    exact htouched.moveToEnd hheld

theorem create (sound : Sound store) (now : Int) (id : String) :
    Sound (store.create now id).2 where
  held_once := nodup_hold (nodup_purge sound.held_once)
  own_id := by
    intro other number hheld
    rcases mem_hold.mp hheld with ⟨hmem, -⟩ | hsame
    · obtain ⟨session, hsession, hid⟩ := (sound.purge now).own_id other number hmem
      have hlt := (List.getElem?_eq_some_iff.mp hsession).1
      exact ⟨session, (List.getElem?_append_left hlt).trans hsession, hid⟩
    · cases hsame
      exact ⟨.create id now, List.getElem?_concat_length, rfl⟩

theorem perform (sound : Sound store) (now : Int) (request : SessionRequest) :
    Sound (store.perform now request).2 := by
  cases request with
  | create id => exact sound.create now id
  | get id => exact sound.get now id
  | invalidate id => exact sound.invalidate id

end Sound

theorem idleLimit_perform (store : SessionStore α) (now : Int) (request : SessionRequest) :
    (store.perform now request).2.idleLimit = store.idleLimit := by
  cases request with
  | create id => rfl
  | invalidate id => rfl
  | get id =>
      change (store.get now id).2.idleLimit = store.idleLimit
      rcases get_eq_self_or store now id with hsame | ⟨name, hname, rfl⟩
      · rw [hsame]
      · rcases get_cases store now hname with
          ⟨-, hget⟩ | ⟨number, -, ⟨-, hget⟩ | ⟨-, hget⟩⟩
        all_goals
          rw [hget]
          rfl

end SessionStore

namespace TimedStore

variable {state : TimedStore α} {entry : String × Nat}

theorem sound_react (sound : state.store.Sound) (event : StoreEvent α) :
    (state.react event).store.Sound := by
  cases event with
  | wait milliseconds => exact sound
  | request request => exact sound.perform state.now request
  | touch number time => exact sound.modify number fun _ => rfl
  | setAttribute number name value =>
      exact sound.modify number fun session => congrArg Prod.fst (session.stamp_set name value)

theorem sound_after (sound : state.store.Sound) (events : List (StoreEvent α)) :
    (state.after events).store.Sound := by
  induction events generalizing state with
  | nil => exact sound
  | cons event rest ih => exact ih (sound_react sound event)

theorem idleLimit_react (state : TimedStore α) (event : StoreEvent α) :
    (state.react event).store.idleLimit = state.store.idleLimit := by
  cases event with
  | request request => exact state.store.idleLimit_perform state.now request
  | _ => rfl

theorem idleLimit_after (state : TimedStore α) (events : List (StoreEvent α)) :
    (state.after events).store.idleLimit = state.store.idleLimit := by
  induction events generalizing state with
  | nil => rfl
  | cons event rest ih => exact (ih _).trans (idleLimit_react state event)

/-! ## How a session is lost -/

/-- A session that is not stale is still held after any event that does not end it. -/
theorem mem_held_react (sound : state.store.Sound) (hheld : entry ∈ state.store.held)
    (hfresh : ¬ state.store.Overdue state.now entry.2) {event : StoreEvent α} (hends : ¬ event.Ends entry.1) :
    entry ∈ (state.react event).store.held := by
  have hkept : entry ∈ (state.store.purge state.now).held :=
    SessionStore.mem_purge_of_not_stale hheld (SessionStore.isStale_eq_false_iff.mpr hfresh)
  cases event with
  | wait milliseconds => exact hheld
  | touch number time => exact hheld
  | setAttribute number name value => exact hheld
  | request request =>
      cases request with
      | create id =>
          have hother : entry.1 ≠ id := by
            rintro rfl
            exact hends (Or.inr rfl)
          exact SessionStore.mem_hold.mpr (Or.inl ⟨hkept, hother⟩)
      | get id =>
          change entry ∈ (state.store.get state.now id).2.held
          rcases SessionStore.get_eq_self_or_lookup sound.held_once state.now id with
            hsame | ⟨name, hlookup⟩
          · rw [hsame]
            exact hheld
          · exact hlookup.mem_held hkept hfresh
      | invalidate id =>
          have hother : entry.1 ≠ id := by
            rintro rfl
            exact hends (Or.inl rfl)
          exact SessionStore.mem_invalidate.mpr ⟨hheld, hother⟩

/-- A session that is held no longer was lost at an event at which it was stale or which ended
it. -/
theorem lost_at (sound : state.store.Sound) (hheld : entry ∈ state.store.held)
    {events : List (StoreEvent α)} (hlost : entry ∉ (state.after events).store.held) :
    ∃ earlier event later, events = earlier ++ event :: later ∧
      entry ∈ (state.after earlier).store.held ∧
      entry ∉ (state.after (earlier ++ [event])).store.held ∧
      (event.Ends entry.1 ∨ (state.after earlier).store.Overdue (state.after earlier).now entry.2) := by
  induction events generalizing state with
  | nil => exact absurd hheld hlost
  | cons event rest ih =>
      -- Either the session outlives the first event, or it is lost there and then.
      by_cases hnext : entry ∈ (state.react event).store.held
      · obtain ⟨earlier, losing, later, rfl, hbefore, hafter, hcause⟩ :=
          ih (sound_react sound event) hnext hlost
        exact ⟨event :: earlier, losing, later, rfl, hbefore, hafter, hcause⟩
      · refine ⟨[], event, rest, rfl, hheld, hnext, ?_⟩
        by_contra hneither
        rw [not_or] at hneither
        exact hnext (mem_held_react sound hheld hneither.2 hneither.1)

/-- What a lookup finds has not been idle for longer than the limit. -/
theorem of_get_eq_some (sound : state.store.Sound) {id : String} {number : Nat}
    (hget : (state.store.get state.now (some id)).1 = some number) :
    (id, number) ∈ state.store.held ∧ ∃ session, state.store.session? number = some session ∧
      session.id = id ∧ state.now - session.lastAccessed ≤ state.store.idleLimit := by
  rcases eq_or_ne id "" with rfl | hid
  · cases hget
  have hlookup := SessionStore.lookup_get sound.held_once state.now hid
  generalize state.store.get state.now (some id) = result at hlookup hget
  cases hlookup with
  | missing hnot => cases hget
  | stale hkept hstale => cases hget
  | @found front back found hkept hfresh =>
      cases hget
      have hmem : (id, number) ∈ (state.store.purge state.now).held := by
        rw [hkept]
        exact List.mem_append_right _ List.mem_cons_self
      have hheld : (id, number) ∈ state.store.held :=
        (SessionStore.held_purge_suffix state.store state.now).subset hmem
      obtain ⟨session, hsession, hown⟩ := sound.own_id id number hheld
      have hidle : state.now - session.lastAccessed ≤ state.store.idleLimit := by
        by_contra hidle
        exact hfresh ⟨session, hsession, Int.not_le.mp hidle⟩
      exact ⟨hheld, session, hsession, hown, hidle⟩

/-- In every state that a store can get into, whatever has become of the clock, of the times of the
sessions and of their identifiers: a lookup and a creation first give up the longest run of
overdue sessions at the front, `gone`, and go on with what is still held, `kept`, as `Lookup` and `Creation`
say. What is found has not been idle for too long, and a session that is held at one time and no
longer at another was lost at an event that ended it, or at which it was stale. -/
theorem lookups_and_creations_after (idleLimit now : Int) (events : List (StoreEvent α)) :
    let state := (start idleLimit now : TimedStore α).after events
    state.store.Sound ∧
      (∃ gone kept, state.store.held = gone ++ kept ∧
        (∀ entry ∈ gone, state.store.Overdue state.now entry.2) ∧
        (∀ entry ∈ kept.head?, ¬ state.store.Overdue state.now entry.2) ∧
        (∀ id, id ≠ "" →
          state.store.Lookup state.now kept id (state.store.get state.now (some id))) ∧
        ∀ id, state.store.Creation state.now kept id (state.store.create state.now id)) ∧
      (∀ id number, (state.store.get state.now (some id)).1 = some number →
        (id, number) ∈ state.store.held ∧ ∃ session, state.store.session? number = some session ∧
          session.id = id ∧ state.now - session.lastAccessed ≤ idleLimit) ∧
      ∀ entry ∈ state.store.held, ∀ between, entry ∉ (state.after between).store.held →
        ∃ earlier event later, between = earlier ++ event :: later ∧
          entry ∈ (state.after earlier).store.held ∧
          entry ∉ (state.after (earlier ++ [event])).store.held ∧
          (event.Ends entry.1 ∨ (state.after earlier).store.Overdue (state.after earlier).now entry.2) := by
  intro state
  have sound : state.store.Sound := sound_after (SessionStore.Sound.empty idleLimit) events
  have hlimit : state.store.idleLimit = idleLimit := idleLimit_after _ events
  refine ⟨sound, ?_, ?_, fun entry hheld between hlost => lost_at sound hheld hlost⟩
  · obtain ⟨gone, hheld, hgone, hkept⟩ :=
      SessionStore.held_eq_append_purge state.store state.now
    refine ⟨gone, _, hheld, hgone, hkept, ?_, ?_⟩
    · exact fun id hid => SessionStore.lookup_get sound.held_once state.now hid
    · exact fun id => SessionStore.creation_create sound.held_once state.now id
  · intro id number hget
    rw [← hlimit]
    exact of_get_eq_some sound hget

/-- A stale session stays where it is behind one that is fresh. -/
example :
    ((start 60000 200000 : TimedStore Unit).after [.request (.create "a"), .request (.create "b"),
      .request (.create "c"), .touch 0 0, .touch 2 0, .request (.get (some "b"))]).store.heldIds =
        ["c", "b"] := by decide

end TimedStore

end CsrfGuard
