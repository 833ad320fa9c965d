import CsrfGuard.Error
import CsrfGuard.Text.Hex

/-!
# Making nonces

A generator asks a random source for a fixed number of bytes and writes them in capital hexadecimal
digits. The source is outside the program: it may fail, and it may answer with too few or too many
bytes, both of which end in an error and not in a nonce. Its calls are numbered from one, and a
failed call counts as a call.
-/

namespace CsrfGuard

/-- A random source: what its call of a given number (from one) answers when asked for a number of
bytes, either bytes or the reason for which it failed. -/
structure RandomSource where
  answer : (call bytes : Nat) → Except String (List UInt8)

/-- A generator of nonces of a fixed length. -/
structure NonceGenerator where
  numBytes : Nat
  numBytes_pos : 1 ≤ numBytes := by decide
  deriving Repr, DecidableEq

namespace NonceGenerator

/-- The generator of nonces of a given number of bytes, which must be at least one. -/
def ofNumBytes (numBytes : Int) : Except GuardError NonceGenerator :=
  if hpos : 1 ≤ numBytes.toNat then .ok ⟨numBytes.toNat, hpos⟩ else .error .nonceTooShort

def length (generator : NonceGenerator) : Nat := generator.numBytes * 2

def ofAnswer (generator : NonceGenerator) :
    Except String (List UInt8) → Except GuardError String
  | .error reason => .error (.sourceFailed reason)
  | .ok bytes =>
      if bytes.length = generator.numBytes then .ok (String.ofList (Text.Hex.encode bytes))
      else .error (.wrongNonceLength bytes.length generator.numBytes)

/-- Makes the next nonce. `calls` is how often the source has been called so far. -/
def generate (generator : NonceGenerator) (source : RandomSource) (calls : Nat) :
    Except GuardError String :=
  generator.ofAnswer (source.answer (calls + 1) generator.numBytes)

/-- The outcomes of a number of calls in a row. -/
def generateMany (generator : NonceGenerator) (source : RandomSource) (calls : Nat) :
    Nat → List (Except GuardError String)
  | 0 => []
  | count + 1 =>
      generator.generate source calls :: generator.generateMany source (calls + 1) count

end NonceGenerator

end CsrfGuard
