import CsrfGuard.Nonce.Generator
import Mathlib.Data.List.TakeDrop

/-!
# What a generator makes of the answers of its source

A generator calls its source once for each nonce, and what comes of a call is settled by the answer
to that call alone: an answer of as many bytes as were asked for is written down in capital digits,
in which it can be read again, and any other answer ends in an error (`outcomes_of_answers`). So two
answers that differ never make the same nonce, and a source that has failed does nothing to the
nonces that are made later.
-/

namespace CsrfGuard

namespace Text.Hex

/-- The digits in which nonces are written. -/
def capitals : List Char := "0123456789ABCDEF".toList

/-- Whether a text writes bytes down: in two capital digits for each byte, from which the bytes can
be read. -/
structure Writes (text : String) (bytes : List UInt8) : Prop where
  length_eq : text.length = 2 * bytes.length
  capital : ∀ c ∈ text.toList, c ∈ capitals
  reads : decode? text.toList = some bytes

theorem upperDigit_mem_capitals {value : Nat} (hvalue : value < 16) :
    upperDigit value ∈ capitals := by
  have hall : ∀ digit : Fin 16, upperDigit digit ∈ capitals := by decide
  exact hall ⟨value, hvalue⟩

theorem mem_capitals_of_mem_encode {bytes : List UInt8} {c : Char} (hc : c ∈ encode bytes) :
    c ∈ capitals := by
  obtain ⟨byte, -, hdigit⟩ := List.mem_flatMap.mp hc
  have hbyte : byte.toNat < 256 := UInt8.toNat_lt byte
  simp only [ofByte, List.mem_cons, List.not_mem_nil, or_false] at hdigit
  rcases hdigit with rfl | rfl
  · exact upperDigit_mem_capitals (by omega)
  · exact upperDigit_mem_capitals (by omega)

theorem writes_encode (bytes : List UInt8) : Writes (String.ofList (encode bytes)) bytes where
  length_eq := by rw [String.length_ofList, length_encode]
  capital := fun c hc => mem_capitals_of_mem_encode (by rwa [String.toList_ofList] at hc)
  reads := by rw [String.toList_ofList, decode?_encode]

/-- A text does not write two rows of bytes down. -/
theorem Writes.unique {text : String} {first second : List UInt8} (hfirst : Writes text first)
    (hsecond : Writes text second) : first = second :=
  Option.some.inj (hfirst.reads.symm.trans hsecond.reads)

end Text.Hex

namespace NonceGenerator

open Text.Hex (Writes)

variable {generator : NonceGenerator} {source : RandomSource}

theorem ofNumBytes_of_pos {numBytes : Nat} (hpos : 1 ≤ numBytes) :
    ofNumBytes numBytes = .ok ⟨numBytes, hpos⟩ :=
  dif_pos hpos

/-! ## One answer -/

theorem ofAnswer_of_length (generator : NonceGenerator) {bytes : List UInt8}
    (hlength : bytes.length = generator.numBytes) :
    ∃ nonce, generator.ofAnswer (.ok bytes) = .ok nonce ∧ Writes nonce bytes :=
  ⟨_, if_pos hlength, Text.Hex.writes_encode bytes⟩

theorem ofAnswer_of_length_ne {bytes : List UInt8} (hlength : bytes.length ≠ generator.numBytes) :
    generator.ofAnswer (.ok bytes) =
      .error (.wrongNonceLength bytes.length generator.numBytes) :=
  if_neg hlength

/-- A nonce is only made of an answer of the right length. -/
theorem of_ofAnswer_eq_ok {answer : Except String (List UInt8)} {nonce : String}
    (hnonce : generator.ofAnswer answer = .ok nonce) :
    ∃ bytes, answer = .ok bytes ∧ bytes.length = generator.numBytes ∧ Writes nonce bytes := by
  cases answer with
  | error reason => cases hnonce
  | ok bytes =>
      by_cases hlength : bytes.length = generator.numBytes
      · obtain ⟨made, hmade, hwrites⟩ := generator.ofAnswer_of_length hlength
        cases hmade.symm.trans hnonce
        exact ⟨bytes, rfl, hlength, hwrites⟩
      · rw [ofAnswer_of_length_ne hlength] at hnonce
        cases hnonce

/-! ## Calls in a row -/

theorem length_generateMany (calls count : Nat) :
    (generator.generateMany source calls count).length = count := by
  induction count generalizing calls with
  | zero => rfl
  | succ count ih => rw [generateMany, List.length_cons, ih]

/-- The outcome of each call is what is made of the answer to it. -/
theorem getElem?_generateMany (generator : NonceGenerator) (source : RandomSource) (calls : Nat)
    {index count : Nat} (hindex : index < count) :
    (generator.generateMany source calls count)[index]? =
      some (generator.ofAnswer (source.answer (calls + index + 1) generator.numBytes)) := by
  induction count generalizing calls index with
  | zero => exact absurd hindex (Nat.not_lt_zero index)
  | succ count ih =>
      cases index with
      | zero => rfl
      | succ index =>
          rw [generateMany, List.getElem?_cons_succ, ih (calls + 1) (Nat.lt_of_succ_lt_succ hindex),
            Nat.add_right_comm calls 1 index, Nat.add_assoc calls index 1]

/-- Earlier answers are forgotten: sources that answer alike from some call on make the same nonces
from then on. -/
theorem drop_generateMany {other : RandomSource} {earlier : Nat}
    (hsame : ∀ call, earlier < call →
      other.answer call generator.numBytes = source.answer call generator.numBytes) (count : Nat) :
    (generator.generateMany other 0 count).drop earlier =
      (generator.generateMany source 0 count).drop earlier := by
  apply List.ext_getElem?
  intro index
  rw [List.getElem?_drop, List.getElem?_drop]
  by_cases hcount : earlier + index < count
  · rw [generator.getElem?_generateMany other 0 hcount,
      generator.getElem?_generateMany source 0 hcount, hsame _ (by omega)]
  · rw [List.getElem?_eq_none (by rw [length_generateMany]; omega),
      List.getElem?_eq_none (by rw [length_generateMany]; omega)]

/-- What becomes of each call of a generator, whatever its source has answered and answers later. A
call makes a nonce exactly if its answer has as many bytes as were asked for; the nonce writes these
bytes down. Any other answer ends in the error that tells what is wrong with it. -/
theorem outcomes_of_answers {numBytes : Nat} (hpos : 1 ≤ numBytes) (source : RandomSource)
    (count : Nat) :
    ∃ generator, ofNumBytes numBytes = .ok generator ∧
      let answer (call : Nat) := source.answer call numBytes
      let outcomes := generator.generateMany source 0 count
      outcomes.length = count ∧
      (∀ index < count,
        ((∃ nonce, outcomes[index]? = some (.ok nonce)) ↔
          ∃ bytes, answer (index + 1) = .ok bytes ∧ bytes.length = numBytes) ∧
        (∀ nonce, outcomes[index]? = some (.ok nonce) →
          ∃ bytes, answer (index + 1) = .ok bytes ∧ bytes.length = numBytes ∧
            Writes nonce bytes) ∧
        (∀ bytes, answer (index + 1) = .ok bytes → bytes.length ≠ numBytes →
          outcomes[index]? = some (.error (.wrongNonceLength bytes.length numBytes))) ∧
        ∀ reason, answer (index + 1) = .error reason →
          outcomes[index]? = some (.error (.sourceFailed reason))) ∧
      (∀ first second nonce, outcomes[first]? = some (.ok nonce) →
        outcomes[second]? = some (.ok nonce) → answer (first + 1) = answer (second + 1)) ∧
      ∀ (other : RandomSource) (earlier : Nat),
        (∀ call, earlier < call → other.answer call numBytes = answer call) →
        (generator.generateMany other 0 count).drop earlier = outcomes.drop earlier := by
  let generator : NonceGenerator := ⟨numBytes, hpos⟩
  refine ⟨generator, ofNumBytes_of_pos hpos, ?_⟩
  intro answer outcomes
  have houtcome : ∀ index < count, outcomes[index]? =
      some (generator.ofAnswer (answer (index + 1))) := by
    intro index hindex
    have hcall := generator.getElem?_generateMany source 0 hindex
    rwa [Nat.zero_add] at hcall
  have hwritten : ∀ index nonce, outcomes[index]? = some (.ok nonce) →
      ∃ bytes, answer (index + 1) = .ok bytes ∧ bytes.length = numBytes ∧ Writes nonce bytes := by
    intro index nonce hnonce
    have hindex : index < count := by
      obtain ⟨hlt, -⟩ := List.getElem?_eq_some_iff.mp hnonce
      rwa [length_generateMany] at hlt
    rw [houtcome index hindex, Option.some_inj] at hnonce
    exact of_ofAnswer_eq_ok hnonce
  refine ⟨length_generateMany 0 count, fun index hindex => ⟨⟨?_, ?_⟩, hwritten index, ?_, ?_⟩,
    fun first second nonce hfirst hsecond => ?_, fun other earlier hsame => ?_⟩
  · rintro ⟨nonce, hnonce⟩
    obtain ⟨bytes, hanswer, hlength, -⟩ := hwritten index nonce hnonce
    exact ⟨bytes, hanswer, hlength⟩
  · rintro ⟨bytes, hanswer, hlength⟩
    obtain ⟨nonce, hnonce, -⟩ := generator.ofAnswer_of_length hlength
    exact ⟨nonce, by rw [houtcome index hindex, hanswer, hnonce]⟩
  · intro bytes hanswer hlength
    rw [houtcome index hindex, hanswer]
    exact congrArg some (ofAnswer_of_length_ne hlength)
  · intro reason hanswer
    rw [houtcome index hindex, hanswer]
    rfl
  · obtain ⟨bytes, hanswer, -, hwrites⟩ := hwritten first nonce hfirst
    obtain ⟨others, hother, -, hsame⟩ := hwritten second nonce hsecond
    rw [hanswer, hother, hwrites.unique hsame]
  · exact drop_generateMany hsame count

/-- A source that answers with two bytes, then with one, then not at all, then with two again. -/
def unsteadySource : RandomSource where
  answer call _ :=
    if call = 1 then .ok [0x00, 0x0F]
    else if call = 2 then .ok [0xA5]
    else if call = 3 then .error "entropy source unavailable"
    else .ok [0xA5, 0xFF]

theorem outcomes_of_answers_unsteady :
    1 ≤ 2 ∧ ∃ generator, ofNumBytes 2 = .ok generator ∧
      let outcomes := generator.generateMany unsteadySource 0 4
      (∃ nonce, outcomes[0]? = some (.ok nonce) ∧ Writes nonce [0x00, 0x0F]) ∧
        outcomes[1]? = some (.error (.wrongNonceLength 1 2)) ∧
        outcomes[2]? = some (.error (.sourceFailed "entropy source unavailable")) ∧
        ∃ nonce, outcomes[3]? = some (.ok nonce) ∧ Writes nonce [0xA5, 0xFF] := by
  obtain ⟨generator, hgenerator, -, hcalls, -⟩ :=
    outcomes_of_answers (show 1 ≤ 2 by decide) unsteadySource 4
  have hmade : ∀ index < 4, ∀ bytes, unsteadySource.answer (index + 1) 2 = .ok bytes →
      bytes.length = 2 → ∃ nonce,
        (generator.generateMany unsteadySource 0 4)[index]? = some (.ok nonce) ∧
          Writes nonce bytes := by
    intro index hindex bytes hanswer hlength
    obtain ⟨nonce, hnonce⟩ := (hcalls index hindex).1.mpr ⟨bytes, hanswer, hlength⟩
    obtain ⟨found, hfound, -, hwrites⟩ := (hcalls index hindex).2.1 nonce hnonce
    cases hanswer.symm.trans hfound
    exact ⟨nonce, hnonce, hwrites⟩
  refine ⟨by decide, generator, hgenerator, hmade 0 (by decide) _ rfl rfl, ?_, ?_,
    hmade 3 (by decide) _ rfl rfl⟩
  · exact (hcalls 1 (by decide)).2.2.1 [0xA5] rfl (by decide)
  · exact (hcalls 2 (by decide)).2.2.2 _ rfl

end NonceGenerator

end CsrfGuard
