import Se05x.Der.Element

/-!
# Reading hexadecimal lines

Two lower-case digits an octet, and a line end after the last.
-/

set_option autoImplicit false

namespace Der

def hexDigit (value : Nat) : UInt8 :=
  if value < 10 then UInt8.ofNat (48 + value) else UInt8.ofNat (97 + (value - 10))

def hexValue (octet : UInt8) : Option Nat :=
  if 48 ≤ octet ∧ octet ≤ 57 then some (octet.toNat - 48)
  else if 97 ≤ octet ∧ octet ≤ 102 then some (octet.toNat - 97 + 10)
  else none

def readHexLine : Bytes → Option Bytes
  | [last] => if last = 10 then some [] else none
  | high :: low :: rest => do
    let first ← hexValue high
    let second ← hexValue low
    let others ← readHexLine rest
    return UInt8.ofNat (first * 16 + second) :: others
  | [] => none

/-- The digits of one octet. -/
def hexOctet (octet : UInt8) : Bytes := [hexDigit (octet.toNat / 16), hexDigit (octet.toNat % 16)]

theorem hexValue_digit {value : Nat} (small : value < 16) :
    hexValue (hexDigit value) = some value := by
  have all : ∀ value < 16, hexValue (hexDigit value) = some value := by decide
  exact all value small

theorem readHexLine_octets (data : Bytes) :
    readHexLine (data.flatMap hexOctet ++ [10]) = some data := by
  induction data with
  | nil => rfl
  | cons octet data ih =>
      have bound := octet.toNat_lt
      have high := @hexValue_digit (octet.toNat / 16) (by omega)
      have low := @hexValue_digit (octet.toNat % 16) (by omega)
      have whole : UInt8.ofNat (octet.toNat / 16 * 16 + octet.toNat % 16) = octet := by
        rw [Nat.div_add_mod', UInt8.ofNat_toNat]
      have shape : (octet :: data).flatMap hexOctet ++ [10] = hexDigit (octet.toNat / 16) ::
          hexDigit (octet.toNat % 16) :: (data.flatMap hexOctet ++ [10]) := rfl
      have step : readHexLine (hexDigit (octet.toNat / 16) :: hexDigit (octet.toNat % 16) ::
          (data.flatMap hexOctet ++ [10])) = some (octet :: data) := by
        rw [readHexLine, high, low, ih]
        simp only [Option.bind_eq_bind, Option.bind_some, pure, whole]
      rw [shape, step]

end Der
