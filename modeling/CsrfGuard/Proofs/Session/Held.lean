import CsrfGuard.Session.Store
import Mathlib.Data.List.Nodup
import Mathlib.Data.List.TakeWhile

/-!
# The identifiers that a store holds

Which sessions a store can still look up is a question of membership: an identifier is held at most
once, so that looking it up finds a number exactly if the two stand together in the list
(`numberOf?_eq_some_iff`). The lemmas say of each operation which entries are held after it, and
that each identifier is still held once; the order of the entries plays no part here.
-/

namespace CsrfGuard.SessionStore

variable {α : Type} {store : SessionStore α} {now : Int} {id : String} {number : Nat}
  {entry : String × Nat}

/-! ## Looking up -/

theorem lookup_eq_some_iff_mem {entries : List (String × Nat)}
    (hnodup : (entries.map (·.1)).Nodup) :
    entries.lookup id = some number ↔ (id, number) ∈ entries := by
  induction entries with
  | nil => simp
  | cons first rest ih =>
      obtain ⟨key, value⟩ := first
      rw [List.map_cons, List.nodup_cons] at hnodup
      by_cases hkey : id = key
      · subst hkey
        have hrest : (id, number) ∉ rest := fun hmem =>
          hnodup.1 (List.mem_map.mpr ⟨_, hmem, rfl⟩)
        simp [hrest, eq_comm]
      · have hbeq : (id == key) = false := by simpa using hkey
        simp [List.lookup_cons, hbeq, ih hnodup.2, hkey]

theorem numberOf?_eq_some_iff (hnodup : store.heldIds.Nodup) :
    store.numberOf? id = some number ↔ (id, number) ∈ store.held :=
  lookup_eq_some_iff_mem hnodup

/-! ## Staleness -/

theorem isStale_iff {session : Session α} (hsession : store.session? number = some session) :
    store.isStale now number = true ↔ store.idleLimit < now - session.lastAccessed := by
  simp [isStale, hsession]

/-- The session of a number was last used longer ago than the limit. -/
def Overdue (store : SessionStore α) (now : Int) (number : Nat) : Prop :=
  ∃ session, store.sessions[number]? = some session ∧
    store.idleLimit < now - session.lastAccessed

theorem isStale_iff_overdue : store.isStale now number = true ↔ store.Overdue now number := by
  simp [isStale, session?, Overdue, Option.any_eq_true]

theorem isStale_eq_false_iff : store.isStale now number = false ↔ ¬ store.Overdue now number := by
  rw [← isStale_iff_overdue, Bool.not_eq_true]

/-- What is stale stays stale as time goes by. -/
theorem isStale_of_le {later : Int} (hle : now ≤ later)
    (hstale : store.isStale now number = true) : store.isStale later number = true := by
  cases hsession : store.session? number with
  | none => simp [isStale, hsession] at hstale
  | some session =>
      rw [isStale_iff hsession] at hstale ⊢
      omega

theorem isStale_touch_of_ne {time : Int} {other : Nat} (hother : number ≠ other) :
    (store.touch number time).isStale now other = store.isStale now other := by
  rw [isStale, isStale, touch, session?_modify, if_neg hother]
  rfl

/-! ## The entries after each operation -/

theorem held_purge_suffix (store : SessionStore α) (now : Int) :
    (store.purge now).held <:+ store.held :=
  List.dropWhile_suffix _

theorem mem_purge_of_not_stale (hentry : entry ∈ store.held)
    (hfresh : store.isStale now entry.2 = false) : entry ∈ (store.purge now).held := by
  have hsplit : entry ∈ store.held.takeWhile (fun entry => store.isStale now entry.2) ++
      store.held.dropWhile (fun entry => store.isStale now entry.2) := by
    rwa [List.takeWhile_append_dropWhile]
  -- Only the entries before the first fresh one go, and all of those are stale.
  rcases List.mem_append.mp hsplit with hgone | hkept
  · have hstale := List.mem_takeWhile_imp hgone
    rw [hfresh] at hstale
    cases hstale
  · exact hkept

theorem mem_invalidate :
    entry ∈ (store.invalidate id).held ↔ entry ∈ store.held ∧ entry.1 ≠ id := by
  simp [invalidate]

theorem mem_moveToEnd :
    entry ∈ (store.moveToEnd id number).held ↔
      entry ∈ store.held ∧ entry.1 ≠ id ∨ entry = (id, number) := by
  simp [moveToEnd, invalidate]

theorem mem_hold {held : List (String × Nat)} :
    entry ∈ hold held id number ↔ entry ∈ held ∧ entry.1 ≠ id ∨ entry = (id, number) := by
  unfold hold
  split
  · next hany =>
      obtain ⟨old, hold, hid⟩ := List.any_eq_true.mp hany
      rw [decide_eq_true_eq] at hid
      rw [List.mem_map]
      constructor
      · rintro ⟨found, hfound, rfl⟩
        split
        · exact Or.inr rfl
        · next hne => exact Or.inl ⟨hfound, hne⟩
      · rintro (⟨hmem, hne⟩ | rfl)
        · exact ⟨entry, hmem, if_neg hne⟩
        · exact ⟨old, hold, if_pos hid⟩
  · next hnone =>
      have hne : ∀ found ∈ held, found.1 ≠ id := fun found hfound hid =>
        hnone (List.any_eq_true.mpr ⟨found, hfound, by simpa using hid⟩)
      rw [List.mem_append, List.mem_singleton]
      exact or_congr_left ⟨fun hmem => ⟨hmem, hne _ hmem⟩, fun hmem => hmem.1⟩

/-! ## Each identifier is held once -/

theorem nodup_purge (hnodup : store.heldIds.Nodup) : (store.purge now).heldIds.Nodup :=
  hnodup.sublist ((held_purge_suffix store now).sublist.map _)

theorem nodup_invalidate (hnodup : store.heldIds.Nodup) : (store.invalidate id).heldIds.Nodup :=
  hnodup.sublist (List.filter_sublist.map _)

theorem nodup_moveToEnd (hnodup : store.heldIds.Nodup) :
    (store.moveToEnd id number).heldIds.Nodup := by
  have hkept : (store.invalidate id).heldIds.Nodup := nodup_invalidate hnodup
  rw [heldIds, moveToEnd, List.map_append, List.nodup_append]
  refine ⟨hkept, List.nodup_singleton _, ?_⟩
  intro first hfirst second hsecond
  obtain ⟨entry, hentry, rfl⟩ := List.mem_map.mp hfirst
  rw [List.map_singleton, List.mem_singleton] at hsecond
  rw [hsecond]
  exact (mem_invalidate.mp hentry).2

theorem nodup_hold {held : List (String × Nat)} (hnodup : (held.map (·.1)).Nodup) :
    ((hold held id number).map (·.1)).Nodup := by
  unfold hold
  split
  · -- A number that takes the place of another leaves the identifiers as they are.
    have hsame : (held.map fun entry => if entry.1 = id then (id, number) else entry).map (·.1) =
        held.map (·.1) := by
      rw [List.map_map]
      refine List.map_congr_left fun entry _ => ?_
      by_cases hid : entry.1 = id <;> simp [hid]
    rwa [hsame]
  · next hnone =>
      rw [List.map_append, List.nodup_append]
      refine ⟨hnodup, List.nodup_singleton _, ?_⟩
      intro first hfirst second hsecond heq
      obtain ⟨entry, hentry, rfl⟩ := List.mem_map.mp hfirst
      rw [List.map_singleton, List.mem_singleton] at hsecond
      exact hnone (List.any_eq_true.mpr ⟨entry, hentry, by simp [heq, hsecond]⟩)

/-! ## The three ways a lookup can go -/

/-- A lookup gives up stale sessions first. Then it finds nothing, or a stale session which it gives
up too, or a session which it marks as used. -/
theorem get_cases (store : SessionStore α) (now : Int) (hid : id ≠ "") :
    (store.purge now).numberOf? id = none ∧ store.get now (some id) = (none, store.purge now) ∨
      ∃ number, (store.purge now).numberOf? id = some number ∧
        ((store.purge now).isStale now number = true ∧
            store.get now (some id) = (none, (store.purge now).invalidate id) ∨
          (store.purge now).isStale now number = false ∧
            store.get now (some id) =
              (some number, ((store.purge now).touch number now).moveToEnd id number)) := by
  cases hfound : (store.purge now).numberOf? id with
  | none => exact Or.inl ⟨rfl, by simp only [get, if_neg hid, hfound]⟩
  | some number =>
      refine Or.inr ⟨number, rfl, ?_⟩
      cases hstale : (store.purge now).isStale now number with
      | true => exact Or.inl ⟨rfl, by simp only [get, if_neg hid, hfound, hstale, if_true]⟩
      | false => exact Or.inr ⟨rfl, by simp [get, if_neg hid, hfound, hstale]⟩

end CsrfGuard.SessionStore
