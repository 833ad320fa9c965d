import CsrfGuard.Nonce.Cache
import Mathlib.Data.List.Dedup
import Mathlib.Data.List.DropRight

/-!
# The window of valid nonces

A cache only ever sees what is left of its additions after each eviction. This file shows that this
is as good as the whole history: after any additions the cache holds the last distinct ones, as many
as it has room for (`entries_addAll`).

## Strategy

The history is kept as the list of all additions, and `recent` cuts the window out of it. One more
addition moves its nonce to the end of the distinct ones (`dedup_append_singleton`), and the cut
before that addition takes nothing away that the cut behind it would have kept (`rtake_erase`).
-/

namespace CsrfGuard.NonceCache

/-- The last `window` distinct nonces of a history of additions, each at the place of its last
addition. -/
def recent (window : Nat) (added : List String) : List String := added.dedup.rtake window

/-! ## Lists without repetitions and their ends -/

theorem dedup_append_singleton {α : Type} [DecidableEq α] (items : List α) (item : α) :
    (items ++ [item]).dedup = items.dedup.erase item ++ [item] := by
  induction items with
  | nil => simp
  | cons first rest ih =>
      -- Of several occurrences the last one counts, so that the first item stays only if it is new.
      rw [List.cons_append]
      by_cases hfirst : first = item
      · subst hfirst
        rw [List.dedup_cons_of_mem (by simp), ih]
        by_cases hmem : first ∈ rest
        · rw [List.dedup_cons_of_mem hmem]
        · have hnot : first ∉ rest.dedup := mt List.mem_dedup.mp hmem
          rw [List.dedup_cons_of_notMem hmem, List.erase_cons_head, List.erase_of_not_mem hnot]
      · by_cases hmem : first ∈ rest
        · rw [List.dedup_cons_of_mem (List.mem_append_left _ hmem), ih,
            List.dedup_cons_of_mem hmem]
        · rw [List.dedup_cons_of_notMem (by simp [hmem, hfirst]), ih,
            List.dedup_cons_of_notMem hmem, List.erase_cons_tail (by simpa using hfirst),
            List.cons_append]

theorem rtake_append_of_le {α : Type} {front back : List α} {count : Nat}
    (hcount : count ≤ back.length) : (front ++ back).rtake count = back.rtake count := by
  have hsplit : (front ++ back).length - count = front.length + (back.length - count) := by
    rw [List.length_append]
    omega
  rw [List.rtake, List.rtake, hsplit, List.drop_append]
  simp

theorem mem_rtake_of_mem_back {α : Type} {front back : List α} {count : Nat}
    (hcount : back.length ≤ count) {item : α} (hitem : item ∈ back) :
    item ∈ (front ++ back).rtake count := by
  have hsplit : (front ++ back).length - count ≤ front.length := by
    rw [List.length_append]
    omega
  rw [List.rtake, List.drop_append_of_le_length hsplit]
  exact List.mem_append_right _ hitem

/-- An item may be taken out of the last `count + 1` items instead of out of all of them, if only
the last `count` are looked at afterwards. -/
theorem rtake_erase {α : Type} [DecidableEq α] {items : List α} (hnodup : items.Nodup) (item : α)
    (count : Nat) :
    ((items.rtake (count + 1)).erase item).rtake count = (items.erase item).rtake count := by
  set cut := items.length - (count + 1) with hcut
  have hsplit : items.take cut ++ items.rtake (count + 1) = items :=
    List.take_append_drop cut items
  have hlength : (items.rtake (count + 1)).length = items.length - cut := List.length_drop
  have hapart : List.Disjoint (items.take cut) (items.rtake (count + 1)) := by
    rw [← hsplit] at hnodup
    exact List.disjoint_of_nodup_append hnodup
  generalize items.rtake (count + 1) = back at *
  generalize hfront : items.take cut = front at *
  have hfrontLength : front.length = cut := by
    rw [← hfront, List.length_take]
    omega
  rw [← hsplit]
  -- Taken out of the front, the item leaves the back whole; taken out of the back, it leaves enough
  -- of it, unless there was no front to begin with.
  by_cases hmem : item ∈ front
  · have hpos := List.length_pos_of_mem hmem
    rw [List.erase_append_left _ hmem, List.erase_of_not_mem (hapart hmem),
      rtake_append_of_le (by omega)]
  · rw [List.erase_append_right _ hmem]
    rcases Nat.eq_zero_or_pos cut with hzero | hpos
    · rw [List.length_eq_zero_iff.mp (hfrontLength.trans hzero), List.nil_append]
    · have hshort := List.le_length_erase (a := item) (l := back)
      rw [rtake_append_of_le (by omega)]

/-! ## The cache after additions -/

/-- The window after one more addition, cut out of the window before it. -/
theorem recent_append_singleton {window : Nat} (hwindow : 0 < window) (added : List String)
    (nonce : String) :
    recent window (added ++ [nonce]) =
      lastEntries window ((recent window added).erase nonce ++ [nonce]) := by
  obtain ⟨count, rfl⟩ := Nat.exists_eq_succ_of_ne_zero hwindow.ne'
  calc recent (count + 1) (added ++ [nonce])
      = (added.dedup.erase nonce ++ [nonce]).rtake (count + 1) := by
        rw [recent, dedup_append_singleton]
    _ = (added.dedup.erase nonce).rtake count ++ [nonce] := List.rtake_concat_succ ..
    _ = ((recent (count + 1) added).erase nonce).rtake count ++ [nonce] := by
        rw [recent, rtake_erase (List.nodup_dedup added)]
    _ = lastEntries (count + 1) ((recent (count + 1) added).erase nonce ++ [nonce]) :=
        (List.rtake_concat_succ ..).symm

/-- A nonce is in the window for as long as fewer than `window` nonces have been added after it. -/
theorem mem_recent_of_length_lt {window : Nat} (front : List String) {nonce : String}
    {later : List String} (hlater : later.length < window) :
    nonce ∈ recent window (front ++ nonce :: later) := by
  have hmem : nonce ∈ (nonce :: later).dedup := List.mem_dedup.mpr List.mem_cons_self
  have hshort : (nonce :: later).dedup.length ≤ window :=
    (List.dedup_sublist (nonce :: later)).length_le.trans hlater
  obtain ⟨earlier, hearlier⟩ := List.suffix_union_right front (nonce :: later).dedup
  rw [recent, List.dedup_append, ← hearlier]
  exact mem_rtake_of_mem_back hshort hmem

theorem add_addAll (cache : NonceCache) (added : List String) (nonce : String) :
    (cache.addAll added).add nonce = cache.addAll (added ++ [nonce]) := by
  simp [addAll]

@[simp] theorem capacity_addAll (cache : NonceCache) (added : List String) :
    (cache.addAll added).capacity = cache.capacity := by
  induction added generalizing cache with
  | nil => rfl
  | cons nonce rest ih => exact ih (cache.add nonce)

/-- A cache that was empty holds the last distinct additions. -/
theorem entries_addAll (capacity : Capacity) (added : List String) :
    ((empty capacity).addAll added).entries = recent capacity.size added := by
  induction added using List.reverseRecOn with
  | nil => simp [addAll, empty, recent]
  | append_singleton earlier nonce ih =>
      rw [← add_addAll, entries_add, ih, capacity_addAll,
        recent_append_singleton capacity.size_pos]
      rfl

/-- Valid are the nonces within the window, except for the empty one. -/
theorem contains_addAll (capacity : Capacity) (added : List String) (supplied : Option String) :
    ((empty capacity).addAll added).contains supplied = true ↔
      ∃ nonce, supplied = some nonce ∧ nonce ≠ "" ∧ nonce ∈ recent capacity.size added := by
  cases supplied with
  | none => simp
  | some nonce => simp [contains_some, entries_addAll]

/-! ## The snapshot of a cache -/

theorem nodup_recent (window : Nat) (added : List String) : (recent window added).Nodup :=
  (List.nodup_dedup added).sublist (List.drop_sublist _ _)

theorem length_recent_le (window : Nat) (added : List String) :
    (recent window added).length ≤ window := by
  rw [recent, List.rtake, List.length_drop]
  omega

/-- As long as there is room for all distinct additions, the window is all of them. -/
theorem recent_of_length_le {window : Nat} {added : List String}
    (hroom : added.dedup.length ≤ window) : recent window added = added.dedup := by
  rw [recent, List.rtake, Nat.sub_eq_zero_of_le hroom, List.drop_zero]

theorem ofCapacity_size (capacity : Capacity) :
    ofCapacity capacity.size = .ok (empty capacity) := by
  have hpos : 0 < (capacity.size : Int).toNat := capacity.size_pos
  rw [ofCapacity, Capacity.ofInt, dif_pos hpos]
  rfl

/-- A cache for `size` nonces, `size` being at least one, can be made, and holds after any additions
the last `size` distinct ones, each at the place of its last addition. So it holds none twice and no
more than `size` of them, all of them while there are no more than that, and what is valid is what
it holds, except for the empty text. -/
theorem snapshot_of_additions {size : Int} (hsize : 1 ≤ size) :
    ∃ cache, ofCapacity size = .ok cache ∧ ∀ added : List String,
      let snapshot := (cache.addAll added).entries
      snapshot = added.dedup.rtake size.toNat ∧ snapshot.Nodup ∧ snapshot.length ≤ size.toNat ∧
        (added.dedup.length ≤ size.toNat → ∀ nonce ∈ added, nonce ∈ snapshot) ∧
        ∀ supplied, (cache.addAll added).contains supplied = true ↔
          ∃ nonce, supplied = some nonce ∧ nonce ≠ "" ∧ nonce ∈ snapshot := by
  obtain ⟨room, rfl⟩ := Int.eq_ofNat_of_zero_le (a := size) (by omega)
  let capacity : Capacity := ⟨room, by omega⟩
  refine ⟨empty capacity, ofCapacity_size capacity, fun added => ?_⟩
  intro snapshot
  have hsnapshot : snapshot = recent room added := entries_addAll capacity added
  refine ⟨hsnapshot, ?_, ?_, ?_, ?_⟩
  · rw [hsnapshot]
    exact nodup_recent room added
  · rw [hsnapshot]
    exact length_recent_le room added
  · intro hroom nonce hnonce
    have hall : recent room added = added.dedup := recent_of_length_le hroom
    rw [hsnapshot, hall]
    exact List.mem_dedup.mpr hnonce
  · intro supplied
    rw [hsnapshot]
    exact contains_addAll capacity added supplied

/-- A nonce that comes back takes the newest place, and the oldest goes when there is no room. -/
theorem snapshot_of_additions_refreshed :
    (1 : Int) ≤ 3 ∧ ∃ cache, ofCapacity 3 = .ok cache ∧
      (cache.addAll ["a", "b", "c", "a", "d"]).entries = ["c", "a", "d"] ∧
      (cache.addAll ["a", "b", "c", "a", "d"]).contains (some "b") = false := by
  have hsize : (1 : Int) ≤ 3 := by decide
  obtain ⟨cache, hcache, hall⟩ := snapshot_of_additions hsize
  obtain ⟨hsnapshot, -, -, -, hcontains⟩ := hall ["a", "b", "c", "a", "d"]
  have hheld : (cache.addAll ["a", "b", "c", "a", "d"]).entries = ["c", "a", "d"] := by
    rw [hsnapshot]
    decide
  refine ⟨hsize, cache, hcache, hheld, ?_⟩
  rw [← Bool.not_eq_true, hcontains, hheld]
  rintro ⟨nonce, hnonce, -, hmem⟩
  cases hnonce
  exact absurd hmem (by decide)

end CsrfGuard.NonceCache
