import CsrfGuard.Proofs.Session.Lifetime

/-!
# Sessions in the order of their last use

A store looks for stale sessions at the front only and stops at the first that is not stale. That
nothing stale stays behind rests on the order: as long as the clock is not set back, sessions are
marked as used by lookups only and every session gets an identifier of its own, the sessions are
held in the order of their last use. So all that is held after a lookup or a creation is fresh, and
no lookup ever comes upon a stale session (`inUseOrder_after`).

## Strategy

The invariant is `Ordered`: besides the order it says that no session was last used later than now,
so that a session which is used now may go to the end. What an operation leaves of the order is a
sublist of it (`Ordered.keep`), possibly with one session behind it that is used now
(`Ordered.putLast`).
-/

namespace CsrfGuard

variable {α : Type}

namespace StoreEvent

/-- Whether an event leaves the times of sessions to the store: the clock is not set back, and no
session is marked as used without being looked up. -/
def IsOrderly : StoreEvent α → Prop
  | .wait milliseconds => 0 ≤ milliseconds
  | .touch _ _ => False
  | .request _ => True
  | .setAttribute _ _ _ => True

instance : DecidablePred (IsOrderly : StoreEvent α → Prop)
  | .wait milliseconds => inferInstanceAs (Decidable (0 ≤ milliseconds))
  | .touch _ _ => inferInstanceAs (Decidable False)
  | .request _ => inferInstanceAs (Decidable True)
  | .setAttribute _ _ _ => inferInstanceAs (Decidable True)

/-- The identifier that an event gives to a new session, if it creates one. -/
def createdId? : StoreEvent α → Option String
  | .request (.create id) => some id
  | _ => none

/-- The identifiers that events give to new sessions. -/
def createdIds (events : List (StoreEvent α)) : List String := events.filterMap createdId?

end StoreEvent

namespace SessionStore

/-- When the session of a number was last used. -/
def lastUse? (store : SessionStore α) (number : Nat) : Option Int :=
  (store.session? number).map (·.lastAccessed)

/-- Whether the first of two sessions was last used no later than the second. -/
def UsedBefore (store : SessionStore α) (first second : String × Nat) : Prop :=
  ∃ earlier later, store.lastUse? first.2 = some earlier ∧ store.lastUse? second.2 = some later ∧
    earlier ≤ later

/-- The sessions are held by the time of their last use, the longest unused in front. -/
def InUseOrder (store : SessionStore α) : Prop := store.held.Pairwise store.UsedBefore

variable {store : SessionStore α} {now used : Int} {number : Nat}

theorem isStale_iff_of_lastUse (huse : store.lastUse? number = some used) :
    store.isStale now number = true ↔ store.idleLimit < now - used := by
  obtain ⟨session, hsession, rfl⟩ := Option.map_eq_some_iff.mp huse
  exact isStale_iff hsession

theorem lastUse?_touch_self (huse : store.lastUse? number = some used) :
    (store.touch number now).lastUse? number = some now := by
  obtain ⟨session, hsession, -⟩ := Option.map_eq_some_iff.mp huse
  rw [lastUse?, touch, session?_modify, if_pos rfl, hsession]
  rfl

theorem lastUse?_touch_of_ne {found : Nat} (hne : number ≠ found) :
    (store.touch number now).lastUse? found = store.lastUse? found := by
  rw [lastUse?, touch, session?_modify, if_neg hne, lastUse?]

/-- Two identifiers that are held stand for two sessions. -/
theorem Sound.number_ne (sound : store.Sound) {first second : String × Nat}
    (hfirst : first ∈ store.held) (hsecond : second ∈ store.held) (hid : first.1 ≠ second.1) :
    first.2 ≠ second.2 := by
  obtain ⟨session, hsession, hown⟩ := sound.own_id first.1 first.2 hfirst
  obtain ⟨found, hfound, hfoundOwn⟩ := sound.own_id second.1 second.2 hsecond
  intro hsame
  rw [hsame, hfound] at hsession
  cases hsession
  exact hid (hown.symm.trans hfoundOwn)

theorem Sound.number_ne_of_cut (sound : store.Sound) {front back : List (String × Nat)}
    {id : String} (hheld : store.held = front ++ (id, number) :: back) :
    ∀ entry ∈ front ++ back, number ≠ entry.2 := by
  intro entry hentry
  have honce := sound.held_once
  rw [heldIds, hheld] at honce
  have hmem : (id, number) ∈ store.held := by simp [hheld]
  have hother : entry ∈ store.held := by
    rw [hheld]
    exact (sublist_cut front back _).subset hentry
  exact sound.number_ne hmem hother (ne_of_nodup_cut honce entry hentry).symm

theorem lastUse?_append (huse : store.lastUse? number = some used) (session : Session α)
    (held : List (String × Nat)) :
    ({ store with sessions := store.sessions ++ [session], held } : SessionStore α).lastUse?
      number = some used := by
  obtain ⟨found, hfound, hused⟩ := Option.map_eq_some_iff.mp huse
  have hlt := (List.getElem?_eq_some_iff.mp hfound).1
  rw [lastUse?, session?, List.getElem?_append_left hlt]
  exact huse

theorem lastUse?_of_create (store : SessionStore α) (id : String) (now : Int)
    (held : List (String × Nat)) :
    ({ store with sessions := store.sessions ++ [Session.create id now], held } :
      SessionStore α).lastUse? store.sessions.length = some now := by
  rw [lastUse?, session?, List.getElem?_concat_length]
  rfl

/-- A session gets a place at the end if nothing is held under its identifier. -/
theorem create_of_not_held {id : String} (hnodup : store.heldIds.Nodup) (hid : id ∉ store.heldIds) :
    store.create now id = (store.sessions.length,
      { store with
        sessions := store.sessions ++ [Session.create id now]
        held := (store.purge now).held ++ [(id, store.sessions.length)] }) := by
  have hcreation := creation_create hnodup now id
  generalize store.create now id = result at hcreation
  cases hcreation with
  | appended _ => rfl
  | @replaced front back old hkept =>
      have hmem : (id, old) ∈ (store.purge now).held := by simp [hkept]
      exact absurd (List.mem_map.mpr ⟨_, (held_purge_suffix store now).subset hmem, rfl⟩) hid

end SessionStore

namespace TimedStore

/-- The sessions are held in the order of their last use, which for none of them is later than
now. -/
structure Ordered (state : TimedStore α) : Prop where
  sound : state.store.Sound
  in_order : state.store.InUseOrder
  not_later : ∀ entry ∈ state.store.held,
    ∃ used, state.store.lastUse? entry.2 = some used ∧ used ≤ state.now

variable {state : TimedStore α}

namespace Ordered

theorem start (idleLimit now : Int) : Ordered (TimedStore.start idleLimit now : TimedStore α) where
  sound := SessionStore.Sound.empty idleLimit
  in_order := List.Pairwise.nil
  not_later := fun _ hentry => by cases hentry

theorem wait (ordered : state.Ordered) {milliseconds : Int} (hforward : 0 ≤ milliseconds) :
    Ordered { state with now := state.now + milliseconds } where
  sound := ordered.sound
  in_order := ordered.in_order
  not_later := by
    intro entry hentry
    obtain ⟨used, huse, hle⟩ := ordered.not_later entry hentry
    exact ⟨used, huse, by change used ≤ state.now + milliseconds; omega⟩

/-- Fewer sessions, with the times that they had, are in order too. -/
theorem sublist (ordered : state.Ordered) {store : SessionStore α} {kept : List (String × Nat)}
    (hsublist : kept.Sublist state.store.held)
    (huse : ∀ entry ∈ kept, store.lastUse? entry.2 = state.store.lastUse? entry.2) :
    kept.Pairwise store.UsedBefore ∧
      ∀ entry ∈ kept, ∃ used, store.lastUse? entry.2 = some used ∧ used ≤ state.now := by
  constructor
  · refine (ordered.in_order.sublist hsublist).imp_of_mem ?_
    intro first second hfirst hsecond hbefore
    unfold SessionStore.UsedBefore
    rw [huse first hfirst, huse second hsecond]
    exact hbefore
  · intro entry hentry
    rw [huse entry hentry]
    exact ordered.not_later entry (hsublist.subset hentry)

theorem keep (ordered : state.Ordered) {store : SessionStore α} (hsound : store.Sound)
    (hsublist : store.held.Sublist state.store.held)
    (huse : ∀ entry ∈ store.held, store.lastUse? entry.2 = state.store.lastUse? entry.2) :
    Ordered { state with store } := by
  obtain ⟨horder, htimes⟩ := ordered.sublist hsublist huse
  exact ⟨hsound, horder, htimes⟩

/-- One more session may go behind them if it is used now. -/
theorem putLast (ordered : state.Ordered) {store : SessionStore α} (hsound : store.Sound)
    {kept : List (String × Nat)} {last : String × Nat} (hheld : store.held = kept ++ [last])
    (hsublist : kept.Sublist state.store.held)
    (huse : ∀ entry ∈ kept, store.lastUse? entry.2 = state.store.lastUse? entry.2)
    (hlast : store.lastUse? last.2 = some state.now) : Ordered { state with store } := by
  obtain ⟨horder, htimes⟩ := ordered.sublist hsublist huse
  refine ⟨hsound, ?_, ?_⟩
  · unfold SessionStore.InUseOrder
    rw [hheld, List.pairwise_append]
    refine ⟨horder, List.pairwise_singleton _ _, ?_⟩
    intro entry hentry final hfinal
    obtain ⟨used, hused, hle⟩ := htimes entry hentry
    rw [List.mem_singleton.mp hfinal]
    exact ⟨used, state.now, hused, hlast, hle⟩
  · intro entry hentry
    change entry ∈ store.held at hentry
    rw [hheld, List.mem_append, List.mem_singleton] at hentry
    rcases hentry with hkept | rfl
    · exact htimes entry hkept
    · exact ⟨state.now, hlast, Int.le_refl _⟩

/-- Behind a session that is fresh all are. -/
theorem fresh_of_purge (ordered : state.Ordered) {entry : String × Nat}
    (hentry : entry ∈ (state.store.purge state.now).held) :
    state.isStale entry.2 = false := by
  obtain ⟨-, -, -, hhead⟩ := SessionStore.held_eq_append_purge state.store state.now
  have horder := ordered.in_order.sublist
    (SessionStore.held_purge_suffix state.store state.now).sublist
  cases hkept : (state.store.purge state.now).held with
  | nil =>
      rw [hkept] at hentry
      cases hentry
  | cons first rest =>
      rw [hkept] at hentry horder hhead
      have hfirst : state.store.isStale state.now first.2 = false :=
        SessionStore.isStale_eq_false_iff.mpr (hhead first rfl)
      rcases List.mem_cons.mp hentry with rfl | hrest
      · exact hfirst
      · -- The first one is fresh, and was not used later than this one.
        obtain ⟨earlier, later, hearlier, hlater, hle⟩ := List.rel_of_pairwise_cons horder hrest
        rw [← Bool.not_eq_true, SessionStore.isStale_iff_of_lastUse hearlier] at hfirst
        rw [isStale, ← Bool.not_eq_true, SessionStore.isStale_iff_of_lastUse hlater]
        omega

/-! ### One event -/

theorem get (ordered : state.Ordered) (id : Option String) :
    Ordered { state with store := (state.store.get state.now id).2 } := by
  rcases SessionStore.get_eq_self_or_lookup ordered.sound.held_once state.now id with
    hsame | ⟨name, hlookup⟩
  · rw [hsame]
    exact ordered
  have hsound := ordered.sound.get state.now id
  have hsuffix := (SessionStore.held_purge_suffix state.store state.now).sublist
  generalize state.store.get state.now id = result at hlookup hsound ⊢
  cases hlookup with
  | missing hid => exact ordered.keep hsound hsuffix fun _ _ => rfl
  | @stale front back number hkept hstale =>
      rw [hkept] at hsuffix
      refine ordered.keep hsound (List.Sublist.trans ?_ hsuffix) fun _ _ => rfl
      exact SessionStore.sublist_cut front back _
  | @found front back number hkept hfresh =>
      have hothers := (ordered.sound.purge state.now).number_ne_of_cut hkept
      rw [hkept] at hsuffix
      have hsublist : (front ++ back).Sublist state.store.held :=
        (SessionStore.sublist_cut front back _).trans hsuffix
      -- Only the time of the session found changes, and that one goes to the end.
      obtain ⟨used, huse, -⟩ := ordered.not_later (name, number) (hsuffix.subset (by simp))
      exact ordered.putLast hsound rfl hsublist
        (fun entry hentry => SessionStore.lastUse?_touch_of_ne (hothers entry hentry))
        (SessionStore.lastUse?_touch_self huse)

theorem create (ordered : state.Ordered) {id : String} (hid : id ∉ state.store.heldIds) :
    Ordered { state with store := (state.store.create state.now id).2 } := by
  have hsound := ordered.sound.create state.now id
  have hsuffix := SessionStore.held_purge_suffix state.store state.now
  rw [SessionStore.create_of_not_held ordered.sound.held_once hid] at hsound ⊢
  refine ordered.putLast hsound rfl hsuffix.sublist ?_ ?_
  · intro entry hentry
    obtain ⟨used, huse, -⟩ := ordered.not_later entry (hsuffix.subset hentry)
    rw [huse]
    exact SessionStore.lastUse?_append huse _ _
  · exact SessionStore.lastUse?_of_create state.store id state.now _

theorem invalidate (ordered : state.Ordered) (id : String) :
    Ordered { state with store := state.store.invalidate id } :=
  ordered.keep (ordered.sound.invalidate id) List.filter_sublist fun _ _ => rfl

theorem setAttribute (ordered : state.Ordered) (number : Nat) (name : AttributeName)
    (value : Option α) :
    Ordered { state with store := state.store.modify number (·.set name value) } := by
  refine ordered.keep (ordered.sound.modify number fun session => ?_) (List.Sublist.refl _) ?_
  · exact congrArg Prod.fst (session.stamp_set name value)
  · intro entry _
    have hlast : ∀ session : Session α, (session.set name value).lastAccessed =
        session.lastAccessed := fun session => by cases value <;> rfl
    rw [SessionStore.lastUse?, SessionStore.session?_modify]
    split
    · rw [Option.map_map]
      exact Option.map_congr fun session _ => hlast session
    · rfl

theorem react (ordered : state.Ordered) {event : StoreEvent α} (horderly : event.IsOrderly)
    (hnew : ∀ id, event.createdId? = some id → id ∉ state.store.heldIds) :
    (state.react event).Ordered := by
  cases event with
  | wait milliseconds => exact ordered.wait horderly
  | touch number time => exact horderly.elim
  | setAttribute number name value => exact ordered.setAttribute number name value
  | request request =>
      cases request with
      | create id => exact ordered.create (hnew id rfl)
      | get id => exact ordered.get id
      | invalidate id => exact ordered.invalidate id

end Ordered

/-! ## Runs -/

/-- Nothing is held under an identifier that was not held before, unless it is given to a new
session. -/
theorem mem_heldIds_react (sound : state.store.Sound) {event : StoreEvent α} {id : String}
    (hid : id ∈ (state.react event).store.heldIds) :
    id ∈ state.store.heldIds ∨ event.createdId? = some id := by
  have hpurged : (state.store.purge state.now).heldIds ⊆ state.store.heldIds :=
    ((SessionStore.held_purge_suffix state.store state.now).sublist.map _).subset
  cases event with
  | wait milliseconds => exact Or.inl hid
  | touch number time => exact Or.inl hid
  | setAttribute number name value => exact Or.inl hid
  | request request =>
      cases request with
      | invalidate name => exact Or.inl ((List.filter_sublist.map _).subset hid)
      | create name =>
          obtain ⟨entry, hentry, rfl⟩ := List.mem_map.mp hid
          rcases SessionStore.mem_hold.mp hentry with ⟨hmem, -⟩ | rfl
          · exact Or.inl (hpurged (List.mem_map.mpr ⟨entry, hmem, rfl⟩))
          · exact Or.inr rfl
      | get name =>
          refine Or.inl ?_
          change id ∈ (state.store.get state.now name).2.heldIds at hid
          rcases SessionStore.get_eq_self_or_lookup sound.held_once state.now name with
            hsame | ⟨found, hlookup⟩
          · rwa [hsame] at hid
          · exact hpurged (hlookup.mem_heldIds hid)

theorem mem_heldIds_after (sound : state.store.Sound) {events : List (StoreEvent α)} {id : String}
    (hid : id ∈ (state.after events).store.heldIds) :
    id ∈ state.store.heldIds ∨ id ∈ StoreEvent.createdIds events := by
  induction events generalizing state with
  | nil => exact Or.inl hid
  | cons event rest ih =>
      rcases ih (sound_react sound event) hid with hnext | hcreated
      · refine (mem_heldIds_react sound hnext).imp_right fun hnew => ?_
        exact List.mem_filterMap.mpr ⟨event, List.mem_cons_self, hnew⟩
      · exact Or.inr ((List.sublist_cons_self event rest).filterMap _ |>.subset hcreated)

theorem Ordered.after (ordered : state.Ordered) {events : List (StoreEvent α)}
    (horderly : ∀ event ∈ events, event.IsOrderly)
    (hdistinct : (StoreEvent.createdIds events).Nodup)
    (hnew : ∀ id ∈ StoreEvent.createdIds events, id ∉ state.store.heldIds) :
    (state.after events).Ordered := by
  induction events generalizing state with
  | nil => exact ordered
  | cons event rest ih =>
      have hrest : (StoreEvent.createdIds rest).Sublist (StoreEvent.createdIds (event :: rest)) :=
        (List.sublist_cons_self event rest).filterMap _
      have hfirst : ∀ id, event.createdId? = some id →
          StoreEvent.createdIds (event :: rest) = id :: StoreEvent.createdIds rest :=
        fun id hid => List.filterMap_cons_some hid
      have hnext : (state.react event).Ordered := by
        refine ordered.react (horderly event List.mem_cons_self) fun id hid => hnew id ?_
        rw [hfirst id hid]
        exact List.mem_cons_self
      refine ih hnext (fun later hlater => horderly later (List.mem_cons_of_mem _ hlater))
        (hdistinct.sublist hrest) ?_
      -- An identifier that is still to come was not held before, and has not been given away now.
      intro id hid hheld
      rcases mem_heldIds_react ordered.sound hheld with hbefore | hcreated
      · exact hnew id (hrest.subset hid) hbefore
      · rw [hfirst id hcreated, List.nodup_cons] at hdistinct
        exact hdistinct.1 hid

/-! ## What is fresh -/

/-- All that is held after a lookup is fresh. -/
theorem Ordered.fresh_of_get (ordered : state.Ordered) {id : String} (hid : id ≠ "") :
    ∀ entry ∈ (state.react (.request (.get (some id)))).store.held,
      (state.react (.request (.get (some id)))).isStale entry.2 = false := by
  have hfresh : ∀ entry ∈ (state.store.purge state.now).held,
      state.store.isStale state.now entry.2 = false := fun _ => ordered.fresh_of_purge
  have hsuffix := SessionStore.held_purge_suffix state.store state.now
  have hlookup := SessionStore.lookup_get ordered.sound.held_once state.now hid
  change ∀ entry ∈ (state.store.get state.now (some id)).2.held,
    (state.store.get state.now (some id)).2.isStale state.now entry.2 = false
  generalize state.store.get state.now (some id) = result at hlookup
  intro entry hentry
  cases hlookup with
  | missing hnot => exact hfresh entry hentry
  | @stale front back number hkept hstale =>
      refine hfresh entry ?_
      rw [hkept]
      exact (SessionStore.sublist_cut front back _).subset hentry
  | @found front back number hkept hfound =>
      have hothers := (ordered.sound.purge state.now).number_ne_of_cut hkept
      rw [hkept] at hfresh hsuffix
      rcases List.mem_append.mp hentry with hother | hlast
      · have hsame : (state.store.touch number state.now).isStale state.now entry.2 =
            state.store.isStale state.now entry.2 :=
          SessionStore.isStale_touch_of_ne (hothers entry hother)
        refine Eq.trans hsame (hfresh entry ?_)
        exact (SessionStore.sublist_cut front back _).subset hother
      · -- The session found was fresh before, so that the limit is not negative.
        obtain ⟨used, huse, hle⟩ :=
          ordered.not_later (id, number) (hsuffix.subset (by simp))
        have hnow : (state.store.touch number state.now).lastUse? number = some state.now :=
          SessionStore.lastUse?_touch_self huse
        rw [← SessionStore.isStale_iff_overdue, SessionStore.isStale_iff_of_lastUse huse] at hfound
        rw [List.mem_singleton.mp hlast, ← Bool.not_eq_true]
        refine mt (SessionStore.isStale_iff_of_lastUse hnow).mp ?_
        change ¬ state.store.idleLimit < state.now - state.now
        omega

/-- After a creation only the new session can be stale, and it is if the limit is negative. -/
theorem Ordered.isStale_of_create (ordered : state.Ordered) {id : String}
    (hid : id ∉ state.store.heldIds) :
    ∀ entry ∈ (state.react (.request (.create id))).store.held,
      (state.react (.request (.create id))).isStale entry.2 = true ↔
        entry = (id, state.store.sessions.length) ∧ state.store.idleLimit < 0 := by
  have hsuffix := SessionStore.held_purge_suffix state.store state.now
  change ∀ entry ∈ (state.store.create state.now id).2.held,
    (state.store.create state.now id).2.isStale state.now entry.2 = true ↔ _
  rw [SessionStore.create_of_not_held ordered.sound.held_once hid]
  intro entry hentry
  rcases List.mem_append.mp hentry with hkept | hlast
  · obtain ⟨used, huse, -⟩ := ordered.not_later entry (hsuffix.subset hkept)
    have hfresh := ordered.fresh_of_purge hkept
    have hother : entry ≠ (id, state.store.sessions.length) := by
      rintro rfl
      exact hid (List.mem_map.mpr ⟨_, hsuffix.subset hkept, rfl⟩)
    rw [isStale, ← Bool.not_eq_true, SessionStore.isStale_iff_of_lastUse huse] at hfresh
    rw [SessionStore.isStale_iff_of_lastUse (SessionStore.lastUse?_append huse _ _)]
    exact iff_of_false hfresh fun hboth => hother hboth.1
  · rw [List.mem_singleton] at hlast
    subst hlast
    rw [SessionStore.isStale_iff_of_lastUse (SessionStore.lastUse?_of_create _ _ _ _)]
    simp

/-- After a run in which the clock is not set back, no session is marked as used without being
looked up and no two sessions are created under one identifier, the sessions are held in the order
of their last use. A lookup then does not come upon a stale session once it has given up those at
the front, and leaves nothing held that is stale; nor does a creation, except for the new session
if the limit is negative. -/
theorem inUseOrder_after (idleLimit now : Int) {events : List (StoreEvent α)}
    (horderly : ∀ event ∈ events, event.IsOrderly)
    (hdistinct : (StoreEvent.createdIds events).Nodup) :
    let state := (start idleLimit now : TimedStore α).after events
    state.store.InUseOrder ∧
      (∀ id, id ≠ "" →
        (∀ number, (state.store.purge state.now).numberOf? id = some number →
          (state.store.purge state.now).isStale state.now number = false) ∧
        let next := state.react (.request (.get (some id)))
        ∀ entry ∈ next.store.held, next.isStale entry.2 = false) ∧
      ∀ id, id ∉ StoreEvent.createdIds events →
        let next := state.react (.request (.create id))
        ∀ entry ∈ next.store.held, next.isStale entry.2 = true ↔
          entry = (id, state.store.sessions.length) ∧ idleLimit < 0 := by
  intro state
  have hstart : (start idleLimit now : TimedStore α).Ordered := Ordered.start idleLimit now
  have ordered : state.Ordered := hstart.after horderly hdistinct fun id _ hid => by cases hid
  have hlimit : state.store.idleLimit = idleLimit := idleLimit_after _ events
  refine ⟨ordered.in_order, fun id hid => ⟨fun number hnumber => ?_, ordered.fresh_of_get hid⟩, ?_⟩
  · have honce := (ordered.sound.purge state.now).held_once
    have hkept := (SessionStore.numberOf?_eq_some_iff honce).mp hnumber
    exact ordered.fresh_of_purge hkept
  · intro id hid next
    have hnot : id ∉ state.store.heldIds := by
      intro hheld
      rcases mem_heldIds_after hstart.sound hheld with hbefore | hcreated
      · cases hbefore
      · exact hid hcreated
    rw [← hlimit]
    exact ordered.isStale_of_create hnot

/-- Of two visitors the first comes back, and both are away for a while. -/
def returnOfTheFirst : List (StoreEvent Unit) :=
  [.request (.create "a"), .request (.create "b"), .wait 30000, .request (.get (some "a")),
    .wait 40000]

theorem inUseOrder_after_return :
    (∀ event ∈ returnOfTheFirst, event.IsOrderly) ∧
      (StoreEvent.createdIds returnOfTheFirst).Nodup ∧
      let state := (start 60000 0).after returnOfTheFirst
      state.store.heldIds = ["b", "a"] ∧ state.store.InUseOrder ∧
        state.isStale 1 = true ∧
        let next := state.react (.request (.get (some "a")))
        ∀ entry ∈ next.store.held, next.isStale entry.2 = false := by
  have horderly : ∀ event ∈ returnOfTheFirst, event.IsOrderly := by decide
  have hdistinct : (StoreEvent.createdIds returnOfTheFirst).Nodup := by decide
  obtain ⟨horder, hlookups, -⟩ := inUseOrder_after 60000 0 horderly hdistinct
  exact ⟨horderly, hdistinct, by decide, horder, by decide, (hlookups "a" (by decide)).2⟩

end TimedStore

end CsrfGuard
