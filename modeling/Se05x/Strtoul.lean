import Se05x.Target

/-!
# Unsigned numerals in base 0

`strtoul` as the C standard describes it in the C locale: leading white space, a sign, a
prefix that selects the base, and the longest run of digits of that base.
-/

set_option autoImplicit false

namespace Se05x

def isSpace (c : Char) : Bool := c ∈ [' ', '\t', '\n', '\x0b', '\x0c', '\r']

def digitValue (c : Char) : Option Nat :=
  if '0' ≤ c ∧ c ≤ '9' then some (c.toNat - '0'.toNat)
  else if 'a' ≤ c ∧ c ≤ 'z' then some (c.toNat - 'a'.toNat + 10)
  else if 'A' ≤ c ∧ c ≤ 'Z' then some (c.toNat - 'A'.toNat + 10)
  else none

def isDigitIn (base : Nat) (c : Char) : Bool := (digitValue c).any (· < base)

/-- Whether a minus sign was read, and what follows the optional sign. -/
def readSign : List Char → Bool × List Char
  | '-' :: text => (true, text)
  | '+' :: text => (false, text)
  | text => (false, text)

/-- A prefix `0x` that no hexadecimal digit follows is the octal numeral 0. -/
def readBase : List Char → Nat × List Char
  | '0' :: x :: digit :: text =>
    if (x = 'x' ∨ x = 'X') ∧ isDigitIn 16 digit then (16, digit :: text)
    else (8, '0' :: x :: digit :: text)
  | '0' :: text => (8, '0' :: text)
  | text => (10, text)

def numeral (base : Nat) (digits : List Char) : Nat :=
  digits.foldl (fun value c => value * base + (digitValue c).getD 0) 0

/-- `strtoul(text, nullptr, 0)`: a numeral out of range saturates, a minus sign negates. -/
def strtoul (target : Target) (text : String) : Nat :=
  let (negative, unsigned) := readSign (text.toList.dropWhile isSpace)
  let (base, digits) := readBase unsigned
  let value := numeral base (digits.takeWhile (isDigitIn base))
  if 2 ^ target.wordBits ≤ value then 2 ^ target.wordBits - 1
  else if negative then target.wrap (2 ^ target.wordBits - value)
  else value

example : strtoul .aarch64 " -0x10z" = 2 ^ 64 - 16 := by decide

end Se05x
