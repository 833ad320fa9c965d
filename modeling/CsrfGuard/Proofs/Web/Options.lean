import CsrfGuard.Web.Guard

/-!
# The validator that options call for

A guard is made of options, a configuration and settings, and making it can fail at several places.
One equation says when it succeeds and what comes out (`validator_eq_ok_iff`).
-/

namespace CsrfGuard

theorem bind_eq_ok_iff {ε α β : Type} {first : Except ε α} {next : α → Except ε β} {result : β} :
    (first >>= next) = .ok result ↔ ∃ value, first = .ok value ∧ next value = .ok result := by
  cases first with
  | error cause => simp [bind, Except.bind]
  | ok value => simp [bind, Except.bind]

theorem exists_of_map_eq_ok {ε α β : Type} {first : Except ε α} {next : α → β} {result : β}
    (hmap : first.map next = .ok result) : ∃ value, first = .ok value ∧ next value = result := by
  cases first with
  | error cause => cases hmap
  | ok value => exact ⟨value, rfl, Except.ok.inj hmap⟩

theorem Capacity.ofInt_eq_ok_iff {size : Int} {capacity : Capacity} :
    Capacity.ofInt size = .ok capacity ↔ size = capacity.size := by
  obtain ⟨count, hpositive⟩ := capacity
  unfold Capacity.ofInt
  split
  · simp only [Except.ok.injEq, Capacity.mk.injEq]
    omega
  · simp only [reduceCtorEq, false_iff]
    omega

theorem CacheSlot.ofCapacity_eq_ok_iff {size : Int} {name : AttributeName} {slot : CacheSlot} :
    CacheSlot.ofCapacity size name = .ok slot ↔
      size = slot.capacity.size ∧ slot.attributeName = name := by
  rw [← Capacity.ofInt_eq_ok_iff, CacheSlot.ofCapacity]
  cases Capacity.ofInt size with
  | error cause => simp [Except.map]
  | ok capacity =>
      obtain ⟨room, attributeName⟩ := slot
      simp [Except.map, eq_comm]

namespace Web.GuardOptions

/-- A validator can be made exactly if both numbers can be read and the capacity is at least one;
and it has what options, configuration and settings say. -/
theorem validator_eq_ok_iff {options : GuardOptions} {config : SiteConfig} {settings : Settings}
    {generator : NonceGenerator} {validator : Validator} :
    options.validator config settings generator = .ok validator ↔
      (options.cacheSizeIn config settings).read = .ok validator.slot.capacity.size ∧
        (options.denyStatusIn config settings).read = .ok validator.denyStatus ∧
        validator.slot.attributeName = options.sessionAttributeIn config settings ∧
        validator.entryPoints = options.entryPointsIn config settings ∧
        validator.nonceParam = options.nonceParamIn config settings ∧
        validator.generator = generator := by
  simp only [GuardOptions.validator, bind_eq_ok_iff, CacheSlot.ofCapacity_eq_ok_iff]
  constructor
  · rintro ⟨_, hsize, slot, ⟨rfl, hname⟩, status, hstatus, hvalidator⟩
    cases hvalidator
    exact ⟨hsize, hstatus, hname, rfl, rfl, rfl⟩
  · rintro ⟨hsize, hstatus, hname, hentries, hparam, hgenerator⟩
    refine ⟨_, hsize, validator.slot, ⟨rfl, hname⟩, _, hstatus, ?_⟩
    rw [← hentries, ← hparam, ← hgenerator]
    rfl

end Web.GuardOptions

end CsrfGuard
