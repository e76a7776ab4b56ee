import Se05x.Der.Element

/-!
# Textual encoding

Base64 in lines of sixty-four characters between a header and a footer line.
-/

set_option autoImplicit false

namespace Der

def base64Digit (value : Nat) : UInt8 :=
  if value < 26 then UInt8.ofNat (65 + value)
  else if value < 52 then UInt8.ofNat (97 + (value - 26))
  else if value < 62 then UInt8.ofNat (48 + (value - 52))
  else if value = 62 then 43 else 47

def base64 : Bytes → Bytes
  | [] => []
  | [a] => [base64Digit (a.toNat / 4), base64Digit (a.toNat % 4 * 16), 61, 61]
  | [a, b] =>
    [base64Digit (a.toNat / 4), base64Digit (a.toNat % 4 * 16 + b.toNat / 16),
      base64Digit (b.toNat % 16 * 4), 61]
  | a :: b :: c :: rest =>
    base64Digit (a.toNat / 4) :: base64Digit (a.toNat % 4 * 16 + b.toNat / 16) ::
      base64Digit (b.toNat % 16 * 4 + c.toNat / 64) :: base64Digit (c.toNat % 64) :: base64 rest

/-- Break a text after every `width` characters and end each line. -/
def breakLines (width : Nat) : Nat → Bytes → Bytes
  | _, [] => []
  | 0, text => text
  | lines + 1, text => text.take width ++ 10 :: breakLines width lines (text.drop width)

def asciiBytes (text : String) : Bytes := text.toList.map fun letter => UInt8.ofNat letter.toNat

def pemText (header footer : String) (der : Bytes) : Bytes :=
  asciiBytes header ++ breakLines 64 (base64 der).length (base64 der) ++ asciiBytes footer

/-- The room a writer asks for: the base64 text with a terminator, a line end for every
sixty-four characters of it, the two lines around it, and a terminator. -/
def pemRoom (header footer : String) (der : Bytes) : Nat :=
  let encoded := if der.length = 0 then 0 else 4 * ((der.length + 2) / 3) + 1
  encoded + (asciiBytes header).length + (asciiBytes footer).length + encoded / 64 + 1

end Der
