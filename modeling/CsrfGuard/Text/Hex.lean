/-!
# Hexadecimal digits

A byte is written as two hexadecimal digits, the high half first. Nonces and percent-escapes use
capital letters, the escapes of quoted text use small ones; reading accepts both. The main statement
is that reading undoes writing (`decode?_encode`).
-/

namespace CsrfGuard.Text.Hex

/-- The capital digit for a value below sixteen. -/
def upperDigit (value : Nat) : Char :=
  Char.ofNat (if value < 10 then 0x30 + value else 0x37 + value)

/-- The small digit for a value below sixteen. -/
def lowerDigit (value : Nat) : Char :=
  Char.ofNat (if value < 10 then 0x30 + value else 0x57 + value)

/-- The value of a hexadecimal digit in either case. -/
def value? (c : Char) : Option Nat :=
  let code := c.toNat
  if 0x30 ≤ code ∧ code ≤ 0x39 then some (code - 0x30)
  else if 0x41 ≤ code ∧ code ≤ 0x46 then some (code - 0x37)
  else if 0x61 ≤ code ∧ code ≤ 0x66 then some (code - 0x57)
  else none

/-- The two capital digits of a byte. -/
def ofByte (byte : UInt8) : List Char :=
  [upperDigit (byte.toNat / 16), upperDigit (byte.toNat % 16)]

/-- Bytes as capital digits, two for each byte. -/
def encode (bytes : List UInt8) : List Char :=
  bytes.flatMap ofByte

/-- The bytes that a row of digits stands for, if its digits pair up. -/
def decode? : List Char → Option (List UInt8)
  | [] => some []
  | high :: low :: rest => do
      let highValue ← value? high
      let lowValue ← value? low
      let bytes ← decode? rest
      return UInt8.ofNat (highValue * 16 + lowValue) :: bytes
  | [_] => none

/-- The `width` last small digits of a number, leading zeros included. -/
def lowerDigits : Nat → Nat → List Char
  | 0, _ => []
  | width + 1, number => lowerDigits width (number / 16) ++ [lowerDigit (number % 16)]

/-! ## Reading undoes writing -/

theorem value?_upperDigit : ∀ value : Fin 16, value? (upperDigit value) = some value.val := by
  decide

theorem value?_upperDigit_of_lt {value : Nat} (hvalue : value < 16) :
    value? (upperDigit value) = some value :=
  value?_upperDigit ⟨value, hvalue⟩

theorem length_encode (bytes : List UInt8) : (encode bytes).length = 2 * bytes.length := by
  induction bytes with
  | nil => rfl
  | cons byte rest ih =>
      simp only [encode, List.flatMap_cons, List.length_append, List.length_cons] at ih ⊢
      rw [ih]
      simp only [ofByte, List.length_cons, List.length_nil]
      omega

/-- Reading what was written gives the bytes back. -/
theorem decode?_encode (bytes : List UInt8) : decode? (encode bytes) = some bytes := by
  induction bytes with
  | nil => rfl
  | cons byte rest ih =>
      have hbyte : byte.toNat < 256 := UInt8.toNat_lt byte
      have hsum : byte.toNat / 16 * 16 + byte.toNat % 16 = byte.toNat := by omega
      simp only [encode, List.flatMap_cons, ofByte, List.cons_append, List.nil_append] at ih ⊢
      rw [decode?, value?_upperDigit_of_lt (by omega), value?_upperDigit_of_lt (by omega), ih]
      simp only [Option.bind_eq_bind, Option.bind_some, hsum, UInt8.ofNat_toNat]
      rfl

end CsrfGuard.Text.Hex
