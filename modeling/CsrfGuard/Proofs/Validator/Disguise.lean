import CsrfGuard.Proofs.Validator.Run
import Mathlib.Data.List.Basic
import Mathlib.Logic.Equiv.Defs

/-!
# A validator tells nonces apart and nothing else

What a validator decides and writes down may depend on which nonces are equal, but on nothing else
about them. So nothing that is written down tells anything about a nonce. To say this exactly, a run
is compared with the run that one gets if all random answers of the right length are exchanged for
others, equal ones for equal ones, and all nonces that come from outside with them: the second run
has the same decisions, errors and records, and its nonces are those of the first, exchanged
(`run_exchanged`).

## Strategy

Exchanging is an injective map on texts that keeps the empty text, a `Disguise`. A disguise goes
through everything a validator does: through a cache (`add_cache`, `contains_cache`), a vault, a
request and a step (`step_disguised`), hence through a run. A permutation of the byte strings of one
length is a disguise for the texts they are written as (`ByteString.disguise`), because writing a
byte string in digits loses nothing.
-/

namespace CsrfGuard

/-- Other texts for nonces: different ones stay different, and the empty one stays empty. -/
structure Disguise where
  apply : String → String
  injective : Function.Injective apply
  apply_empty : apply "" = ""

namespace Disguise

/-! ## What is disguised -/

def cache (disguise : Disguise) (cache : NonceCache) : NonceCache :=
  { cache with entries := cache.entries.map disguise.apply }

def vault (disguise : Disguise) (vault : Vault) : Vault :=
  { vault with caches := vault.caches.map disguise.cache }

def memory (disguise : Disguise) (memory : GuardMemory) : GuardMemory :=
  { memory with vault := disguise.vault memory.vault }

def request (disguise : Disguise) (request : GuardedRequest) : GuardedRequest :=
  { request with nonce := request.nonce.map disguise.apply }

def passed (disguise : Disguise) (passed : Passed) : Passed :=
  { passed with nonce := disguise.apply passed.nonce }

def answer (disguise : Disguise) : Validator.Answer → Validator.Answer
  | .passed passed => .passed (disguise.passed passed)
  | .decided decision => .decided decision
  | .entryPoint holds path => .entryPoint holds path
  | .done => .done

def action (disguise : Disguise) : Validator.Action → Validator.Action
  | .process request => .process (disguise.request request)
  | .check request => .check (disguise.request request)
  | .askEntryPoint request => .askEntryPoint (disguise.request request)
  | .attach => .attach
  | .add nonce => .add (disguise.apply nonce)
  | .reset => .reset

def step (disguise : Disguise) (step : Validator.Step) : Validator.Step :=
  { step with action := disguise.action step.action }

/-- An outcome with its nonces disguised: those in what it came to, if it did not fail, and those in
the memory. Failures and records stay as they are. -/
def outcome {α : Type} (disguise : Disguise) (onValue : α → α) (outcome : Outcome α) :
    Outcome α :=
  ⟨outcome.result.map onValue, disguise.memory outcome.memory, outcome.records⟩

/-- Whether a generator makes the disguised nonces of one source with another. -/
def Relates (disguise : Disguise) (generator : NonceGenerator)
    (source other : RandomSource) : Prop :=
  ∀ calls, generator.generate other calls = (generator.generate source calls).map disguise.apply

variable {disguise : Disguise} {validator : Validator} {source other : RandomSource}

/-! ## Caches and vaults -/

theorem add_cache (disguise : Disguise) (cache : NonceCache) (nonce : String) :
    (disguise.cache cache).add (disguise.apply nonce) = disguise.cache (cache.add nonce) := by
  have hentries : (cache.entries.map disguise.apply).erase (disguise.apply nonce) ++
      [disguise.apply nonce] = (cache.entries.erase nonce ++ [nonce]).map disguise.apply := by
    rw [List.map_append, List.map_erase disguise.injective, List.map_singleton]
  simp only [Disguise.cache, NonceCache.add, hentries, NonceCache.lastEntries, List.length_map,
    List.map_drop]

theorem apply_eq_empty_iff (disguise : Disguise) (nonce : String) :
    disguise.apply nonce = "" ↔ nonce = "" := by
  constructor
  · intro hempty
    exact disguise.injective (hempty.trans disguise.apply_empty.symm)
  · rintro rfl
    exact disguise.apply_empty

theorem contains_cache (disguise : Disguise) (cache : NonceCache)
    (supplied : Option String) :
    (disguise.cache cache).contains (supplied.map disguise.apply) = cache.contains supplied := by
  cases supplied with
  | none => rfl
  | some nonce =>
      have hmem : disguise.apply nonce ∈ cache.entries.map disguise.apply ↔
          nonce ∈ cache.entries := List.mem_map_of_injective disguise.injective
      rw [Bool.eq_iff_iff, Option.map_some, NonceCache.contains_some, NonceCache.contains_some,
        Ne, apply_eq_empty_iff]
      exact and_congr_right fun _ => hmem

theorem obtain_vault (disguise : Disguise) (slot : CacheSlot) (vault : Vault)
    (session : Nat) :
    slot.obtain (disguise.vault vault) session =
      ((slot.obtain vault session).1, disguise.vault (slot.obtain vault session).2.1,
        (slot.obtain vault session).2.2) := by
  -- Where the caches are kept does not depend on what is in them.
  have hsame : slot.find? (disguise.vault vault) session = slot.find? vault session := rfl
  cases hfind : slot.find? vault session with
  | some number =>
      rw [CacheSlot.obtain_of_find?_eq_some hfind,
        CacheSlot.obtain_of_find?_eq_some (hsame.trans hfind)]
  | none =>
      rw [CacheSlot.obtain_of_find?_eq_none hfind,
        CacheSlot.obtain_of_find?_eq_none (hsame.trans hfind)]
      simp [Disguise.vault, Disguise.cache, NonceCache.empty]

theorem addNonce_vault (disguise : Disguise) (vault : Vault) (number : CacheNumber)
    (nonce : String) :
    (disguise.vault vault).addNonce number (disguise.apply nonce) =
      disguise.vault (vault.addNonce number nonce) := by
  have hcaches : (vault.caches.map disguise.cache).modify number (·.add (disguise.apply nonce)) =
      (vault.caches.modify number (·.add nonce)).map disguise.cache := by
    refine List.ext_getElem? fun place => ?_
    simp only [List.getElem?_modify, List.getElem?_map]
    cases vault.caches[place]? with
    | none => rfl
    | some cache =>
        split
        · exact congrArg some (add_cache disguise cache nonce)
        · rfl
  simp only [Disguise.vault, Vault.addNonce, hcaches]

/-! ## Steps and runs -/

theorem decide_disguised (disguise : Disguise) (validator : Validator) (vault : Vault)
    (request : GuardedRequest) (session : Option Nat) :
    validator.decide (disguise.vault vault) (disguise.request request) session =
      validator.decide vault request session := by
  have hentry : validator.isEntryPoint (disguise.request request) =
      validator.isEntryPoint request := rfl
  have hcache : validator.cache? (disguise.vault vault) session =
      (validator.cache? vault session).map disguise.cache := by
    cases session with
    | none => rfl
    | some session =>
        have hsame : validator.slot.find? (disguise.vault vault) session =
            validator.slot.find? vault session := rfl
        simp only [Validator.cache?, Option.bind_some, CacheSlot.cache?, hsame]
        cases validator.slot.find? vault session with
        | none => rfl
        | some number => exact List.getElem?_map
  unfold Validator.decide
  rw [hentry, hcache]
  cases validator.cache? vault session with
  | none => rfl
  | some cache =>
      simp only [Option.map_some]
      rw [show (disguise.request request).nonce = request.nonce.map disguise.apply from rfl,
        contains_cache]

theorem issue_disguised (hrelates : disguise.Relates validator.generator source other)
    (memory : GuardMemory) (decision : Decision) (request : GuardedRequest) (session : Nat) :
    validator.issue other (disguise.memory memory) decision (disguise.request request) session =
      disguise.outcome disguise.passed
        (validator.issue source memory decision request session) := by
  have hother : validator.generator.generate other (disguise.memory memory).calls = _ :=
    hrelates memory.calls
  cases hmade : validator.generator.generate source memory.calls with
  | error cause =>
      rw [hmade] at hother
      rw [Validator.issue_of_error hmade, Validator.issue_of_error hother]
      simp only [Disguise.memory, obtain_vault, Disguise.outcome]
      rfl
  | ok nonce =>
      rw [hmade] at hother
      rw [Validator.issue_of_ok hmade, Validator.issue_of_ok hother]
      simp only [Disguise.memory, obtain_vault, addNonce_vault, Disguise.outcome]
      rfl

theorem process_disguised (hrelates : disguise.Relates validator.generator source other)
    (memory : GuardMemory) (request : GuardedRequest) (session : Option Nat) :
    validator.process other (disguise.memory memory) (disguise.request request) session =
      disguise.outcome disguise.passed (validator.process source memory request session) := by
  have hsame : validator.decide (disguise.memory memory).vault (disguise.request request) session =
      validator.decide memory.vault request session :=
    decide_disguised disguise validator memory.vault request session
  by_cases hdecide : validator.decide memory.vault request session = .rejected
  · rw [Validator.process_of_rejected hdecide, Validator.process_of_rejected (hsame.trans hdecide)]
    rfl
  · have hother := hdecide
    rw [← hsame] at hother
    cases session with
    | none =>
        rw [Validator.process_none_of_ne_rejected hdecide,
          Validator.process_none_of_ne_rejected hother]
        rfl
    | some session =>
        rw [Validator.process_of_ne_rejected hdecide, Validator.process_of_ne_rejected hother,
          hsame, issue_disguised hrelates]

/-- A step on disguised nonces has the outcome of the step, its nonces disguised. -/
theorem step_disguised (hrelates : disguise.Relates validator.generator source other)
    (memory : GuardMemory) (next : Validator.Step) :
    validator.step other (disguise.memory memory) (disguise.step next) =
      disguise.outcome disguise.answer (validator.step source memory next) := by
  obtain ⟨session, action⟩ := next
  cases action with
  | process request =>
      simp only [Disguise.step, Disguise.action, Validator.step,
        process_disguised hrelates]
      simp only [Disguise.outcome]
      cases (validator.process source memory request session).result <;> rfl
  | check request =>
      have hsame := decide_disguised disguise validator memory.vault request session
      simp only [Disguise.step, Disguise.action, Validator.step, Disguise.memory,
        hsame]
      rfl
  | askEntryPoint request => rfl
  | attach =>
      cases session with
      | none => rfl
      | some session =>
          simp only [Disguise.step, Disguise.action, Validator.step,
            Validator.withSession, Disguise.memory, obtain_vault]
          rfl
  | add nonce =>
      cases session with
      | none => rfl
      | some session =>
          simp only [Disguise.step, Disguise.action, Validator.step,
            Validator.withSession, Disguise.memory, obtain_vault, addNonce_vault]
          rfl
  | reset => cases session <;> rfl

theorem run_disguised (hrelates : disguise.Relates validator.generator source other)
    (memory : GuardMemory) (steps : List Validator.Step) :
    validator.run other (disguise.memory memory) (steps.map disguise.step) =
      (validator.run source memory steps).map (disguise.outcome disguise.answer) := by
  induction steps generalizing memory with
  | nil => rfl
  | cons first rest ih =>
      rw [List.map_cons, Validator.run, Validator.run, List.map_cons, step_disguised hrelates]
      exact congrArg _ (ih _)

end Disguise

/-! ## Exchanging byte strings -/

/-- The byte strings of a length. -/
abbrev ByteString (length : Nat) := { bytes : List UInt8 // bytes.length = length }

namespace ByteString

variable {length : Nat}

/-- A byte string exchanged for another if it has the right length. -/
def exchangeBytes (exchange : Equiv.Perm (ByteString length)) (bytes : List UInt8) : List UInt8 :=
  if hlength : bytes.length = length then (exchange ⟨bytes, hlength⟩).val else bytes

/-- The source that answers with the exchanged byte strings. -/
def exchangeSource (exchange : Equiv.Perm (ByteString length)) (source : RandomSource) :
    RandomSource where
  answer call bytes := (source.answer call bytes).map (exchangeBytes exchange)

/-- A text exchanged for another if it is a byte string of the right length in capital digits. -/
def exchangeText (exchange : Equiv.Perm (ByteString length)) (text : String) : String :=
  match Text.Hex.decode? text.toList with
  | none => text
  | some bytes =>
      if String.ofList (Text.Hex.encode bytes) = text then
        String.ofList (Text.Hex.encode (exchangeBytes exchange bytes))
      else text

variable {exchange : Equiv.Perm (ByteString length)}

theorem exchangeBytes_of_length {bytes : List UInt8} (hlength : bytes.length = length) :
    exchangeBytes exchange bytes = (exchange ⟨bytes, hlength⟩).val := dif_pos hlength

theorem length_exchangeBytes (exchange : Equiv.Perm (ByteString length)) (bytes : List UInt8) :
    (exchangeBytes exchange bytes).length = bytes.length := by
  by_cases hlength : bytes.length = length
  · rw [exchangeBytes_of_length hlength, hlength]
    exact (exchange ⟨bytes, hlength⟩).property
  · rw [exchangeBytes, dif_neg hlength]

theorem exchangeBytes_injective (exchange : Equiv.Perm (ByteString length)) :
    Function.Injective (exchangeBytes exchange) := by
  intro first second hsame
  have hlengths : first.length = second.length := by
    rw [← length_exchangeBytes exchange first, hsame, length_exchangeBytes]
  by_cases hlength : first.length = length
  · rw [exchangeBytes_of_length hlength,
      exchangeBytes_of_length (hlengths.symm.trans hlength)] at hsame
    exact congrArg Subtype.val (exchange.injective (Subtype.ext hsame))
  · have hother : ¬ second.length = length := hlengths ▸ hlength
    rwa [exchangeBytes, dif_neg hlength, exchangeBytes, dif_neg hother] at hsame

theorem encode_injective : Function.Injective Text.Hex.encode := by
  intro first second hsame
  have hdecoded := congrArg Text.Hex.decode? hsame
  rwa [Text.Hex.decode?_encode, Text.Hex.decode?_encode, Option.some_inj] at hdecoded

theorem exchangeText_encode (exchange : Equiv.Perm (ByteString length)) (bytes : List UInt8) :
    exchangeText exchange (String.ofList (Text.Hex.encode bytes)) =
      String.ofList (Text.Hex.encode (exchangeBytes exchange bytes)) := by
  simp only [exchangeText, String.toList_ofList, Text.Hex.decode?_encode, if_true]

theorem exchangeText_of_not_encode {text : String}
    (hnot : ∀ bytes, text ≠ String.ofList (Text.Hex.encode bytes)) :
    exchangeText exchange text = text := by
  unfold exchangeText
  split
  · rfl
  · next bytes _ => rw [if_neg (hnot bytes).symm]

theorem exchangeText_injective (exchange : Equiv.Perm (ByteString length)) :
    Function.Injective (exchangeText exchange) := by
  have hkept : ∀ {bytes text},
      (∀ bytes, text ≠ String.ofList (Text.Hex.encode bytes)) →
      exchangeText exchange (String.ofList (Text.Hex.encode bytes)) ≠
        exchangeText exchange text := by
    intro bytes text hnot hsame
    rw [exchangeText_encode, exchangeText_of_not_encode hnot] at hsame
    exact hnot _ hsame.symm
  intro first second hsame
  by_cases hfirst : ∃ bytes, first = String.ofList (Text.Hex.encode bytes)
  · obtain ⟨bytes, rfl⟩ := hfirst
    by_cases hsecond : ∃ bytes, second = String.ofList (Text.Hex.encode bytes)
    · obtain ⟨others, rfl⟩ := hsecond
      rw [exchangeText_encode, exchangeText_encode, String.ofList_inj] at hsame
      rw [exchangeBytes_injective exchange (encode_injective hsame)]
    · exact absurd hsame (hkept (not_exists.mp hsecond))
  · by_cases hsecond : ∃ bytes, second = String.ofList (Text.Hex.encode bytes)
    · obtain ⟨bytes, rfl⟩ := hsecond
      exact absurd hsame.symm (hkept (not_exists.mp hfirst))
    · rwa [exchangeText_of_not_encode (not_exists.mp hfirst),
        exchangeText_of_not_encode (not_exists.mp hsecond)] at hsame

/-- A disguise by exchanging byte strings. They must not be empty, since the empty text stays. -/
def disguise (exchange : Equiv.Perm (ByteString length)) (hpos : 1 ≤ length) : Disguise where
  apply := exchangeText exchange
  injective := exchangeText_injective exchange
  apply_empty := by
    have hshort : ¬ ([] : List UInt8).length = length := by
      rw [List.length_nil]
      omega
    have hencode := exchangeText_encode exchange []
    rwa [exchangeBytes, dif_neg hshort] at hencode

theorem relates_exchangeSource (generator : NonceGenerator)
    (exchange : Equiv.Perm (ByteString generator.numBytes)) (source : RandomSource) :
    (disguise exchange generator.numBytes_pos).Relates generator source
      (exchangeSource exchange source) := by
  intro calls
  simp only [NonceGenerator.generate, exchangeSource]
  cases source.answer (calls + 1) generator.numBytes with
  | error reason => rfl
  | ok bytes =>
      simp only [Except.map, NonceGenerator.ofAnswer, length_exchangeBytes]
      split
      · exact congrArg Except.ok (exchangeText_encode exchange bytes).symm
      · rfl

end ByteString

namespace Validator

/-- If the random answers of the right length are exchanged, and with them all nonces that come from
outside and those that are there already, then every step decides, fails and writes records as
before, and the nonces issued and held are the exchanged ones. -/
theorem run_exchanged (validator : Validator)
    (exchange : Equiv.Perm (ByteString validator.generator.numBytes)) (source : RandomSource)
    (memory : GuardMemory) (steps : List Step) :
    let disguise := ByteString.disguise exchange validator.generator.numBytes_pos
    let exchanged := validator.run (ByteString.exchangeSource exchange source)
      (disguise.memory memory) (steps.map disguise.step)
    exchanged = (validator.run source memory steps).map (disguise.outcome disguise.answer) ∧
      exchanged.map (·.records) = (validator.run source memory steps).map (·.records) ∧
      (memory.vault.caches = [] → disguise.memory memory = memory) := by
  intro disguise exchanged
  have hrelates : disguise.Relates validator.generator source
      (ByteString.exchangeSource exchange source) :=
    ByteString.relates_exchangeSource validator.generator exchange source
  have hrun : exchanged = _ := Disguise.run_disguised hrelates memory steps
  refine ⟨hrun, ?_, ?_⟩
  · rw [hrun, List.map_map]
    rfl
  · intro hnone
    simp only [Disguise.memory, Disguise.vault, hnone, List.map_nil]
    rw [← hnone]

end Validator

end CsrfGuard
