import Se05x.Der.Pkcs10

/-!
# Signatures and public keys

An ECDSA signature and an RSA public key are two INTEGERs, an uncompressed point is two
coordinates of the field's length. Each encoding has a longest length, reached through the
headers around it.
-/

set_option autoImplicit false

namespace Der

/-- SEQUENCE { INTEGER, INTEGER } -/
def integerPair (first second : Nat) : Bytes :=
  element sequenceTag
    (element integerTag (naturalContent first) ++ element integerTag (naturalContent second))

def ecdsaSignature (r s : Nat) : Bytes := integerPair r s

def rsaPublicKey (modulus publicExponent : Nat) : Bytes := integerPair modulus publicExponent

structure UncompressedPoint (fieldBytes : Nat) where
  x : Vector UInt8 fieldBytes
  y : Vector UInt8 fieldBytes
deriving DecidableEq, Repr

def UncompressedPoint.octets {fieldBytes : Nat} (point : UncompressedPoint fieldBytes) : Bytes :=
  4 :: (point.x.toList ++ point.y.toList)

def subjectPublicKeyInfo (algorithm : AlgorithmIdentifier) (key : Bytes) : Bytes :=
  element sequenceTag
    (element sequenceTag algorithm.content ++ element bitStringTag (0 :: key))

/-- 1.2.840.10045.2.1 -/
def idEcPublicKey : Bytes := [0x2A, 0x86, 0x48, 0xCE, 0x3D, 0x02, 0x01]

/-- 1.2.840.113549.1.1.1 -/
def rsaEncryption : Bytes := [0x2A, 0x86, 0x48, 0x86, 0xF7, 0x0D, 0x01, 0x01, 0x01]

def ecPublicKeyInfo (curve : Bytes) {fieldBytes : Nat} (point : UncompressedPoint fieldBytes) :
    Bytes :=
  subjectPublicKeyInfo ⟨idEcPublicKey, some ⟨oidTag, curve⟩⟩ point.octets

def rsaPublicKeyInfo (modulus publicExponent : Nat) : Bytes :=
  subjectPublicKeyInfo ⟨rsaEncryption, some ⟨nullTag, []⟩⟩ (rsaPublicKey modulus publicExponent)

theorem bigEndian_append {value digit : Nat} (positive : value ≠ 0) (small : digit < 256) :
    bigEndian (256 * value + digit) = bigEndian value ++ [UInt8.ofNat digit] := by
  have digits : Nat.digits 256 (256 * value + digit) = digit :: Nat.digits 256 value := by
    rw [Nat.add_comm]
    exact Nat.digits_add 256 (by decide) digit value small (.inr positive)
  simp [bigEndian, digits]

theorem naturalContent_of_lt {value : Nat} (short : value < 128) :
    naturalContent value = [UInt8.ofNat value] := by
  by_cases zero : value = 0
  · subst zero
    simp [naturalContent, bigEndian]
  · have digits : bigEndian value = [UInt8.ofNat value] := by
      simp [bigEndian, Nat.digits_of_lt 256 value zero (by omega)]
    have octet : (UInt8.ofNat value).toNat = value :=
      UInt8.toNat_ofNat_of_lt' (by simp only [UInt8.size]; omega)
    simp [naturalContent, digits, octet, short]

theorem naturalContent_append {value digit : Nat} (positive : value ≠ 0) (small : digit < 256) :
    naturalContent (256 * value + digit) = naturalContent value ++ [UInt8.ofNat digit] := by
  rw [naturalContent, naturalContent, bigEndian_append positive small]
  cases octets : bigEndian value with
  | nil =>
      have zero := valueOf_bigEndian value
      rw [octets] at zero
      exact absurd zero.symm positive
  | cons first rest =>
      simp only [List.cons_append]
      split <;> rfl

/-- The last octet comes off whether or not the first one is there for the sign. -/
theorem naturalContent_of_le {value : Nat} (long : 128 ≤ value) :
    naturalContent value = naturalContent (value / 256) ++ [UInt8.ofNat (value % 256)] := by
  by_cases single : value < 256
  · have digits : bigEndian value = [UInt8.ofNat value] := by
      simp [bigEndian, Nat.digits_of_lt 256 value (by omega) single]
    have octet : (UInt8.ofNat value).toNat = value := UInt8.toNat_ofNat_of_lt' single
    have signed : ¬ value < 128 := by omega
    rw [Nat.div_eq_of_lt single, Nat.mod_eq_of_lt single, naturalContent_of_lt (by decide : 0 < 128)]
    simp [naturalContent, digits, octet, signed]
  · have parts := naturalContent_append (by omega : value / 256 ≠ 0)
      (Nat.mod_lt value (by decide : 0 < 256))
    rwa [Nat.div_add_mod] at parts

/-- The octets of an INTEGER hold one bit more than its value, the sign. -/
theorem naturalContent_length_le {value count : Nat} (bound : value < 2 ^ (8 * count + 7)) :
    (naturalContent value).length ≤ count + 1 := by
  induction count generalizing value with
  | zero => rw [naturalContent_of_lt bound, List.length_singleton]
  | succ count ih =>
      by_cases short : value < 128
      · rw [naturalContent_of_lt short, List.length_singleton]
        omega
      · have scaled : 2 ^ (8 * (count + 1) + 7) = 256 * 2 ^ (8 * count + 7) := by
          rw [show 8 * (count + 1) + 7 = 8 + (8 * count + 7) by omega, Nat.pow_add]
        have rest : (naturalContent (value / 256)).length ≤ count + 1 := ih (by omega)
        rw [naturalContent_of_le (by omega), List.length_append, List.length_singleton]
        omega

theorem naturalContent_length_le_of_bits {value bits : Nat} (bound : value < 2 ^ bits) :
    (naturalContent value).length ≤ bits / 8 + 1 :=
  naturalContent_length_le (bound.trans_le (Nat.pow_le_pow_right (by decide) (by omega)))

theorem integerPair_length_le {first second firstLength secondLength : Nat}
    (firstBound : (naturalContent first).length ≤ firstLength)
    (secondBound : (naturalContent second).length ≤ secondLength) :
    (integerPair first second).length ≤
      elementLength (elementLength firstLength + elementLength secondLength) := by
  rw [integerPair, element_length, List.length_append, element_length, element_length]
  exact elementLength_mono
    (Nat.add_le_add (elementLength_mono firstBound) (elementLength_mono secondBound))

theorem ecdsaSignature_length_le {r s bits : Nat} (rBound : r < 2 ^ bits) (sBound : s < 2 ^ bits) :
    (ecdsaSignature r s).length ≤ elementLength (2 * elementLength (bits / 8 + 1)) := by
  rw [Nat.two_mul]
  exact integerPair_length_le (naturalContent_length_le_of_bits rBound)
    (naturalContent_length_le_of_bits sBound)

theorem subjectPublicKeyInfo_length (algorithm : AlgorithmIdentifier) (key : Bytes) :
    (subjectPublicKeyInfo algorithm key).length =
      elementLength (elementLength algorithm.content.length + elementLength (key.length + 1)) := by
  simp [subjectPublicKeyInfo, element_length]

theorem UncompressedPoint.octets_length {fieldBytes : Nat} (point : UncompressedPoint fieldBytes) :
    point.octets.length = 2 * fieldBytes + 1 := by
  simp [octets]
  omega

theorem ecPublicKeyInfo_length (curve : Bytes) {fieldBytes : Nat}
    (point : UncompressedPoint fieldBytes) :
    (ecPublicKeyInfo curve point).length = elementLength
      (elementLength (9 + elementLength curve.length) + elementLength (2 * fieldBytes + 2)) := by
  have identifier : (element oidTag idEcPublicKey).length = 9 := by decide
  have algorithm : (AlgorithmIdentifier.content ⟨idEcPublicKey, some ⟨oidTag, curve⟩⟩).length =
      9 + elementLength curve.length := by
    rw [← element_length oidTag, ← identifier]
    exact List.length_append
  rw [ecPublicKeyInfo, subjectPublicKeyInfo_length, algorithm, point.octets_length]

/-- The headers, the algorithm and the longest exponent take 48 bytes beside the modulus. -/
theorem rsaPublicKeyInfo_length_le {modulus publicExponent modulusBytes : Nat}
    (sized : modulusBytes < 65536) (modulusBound : modulus < 2 ^ (8 * modulusBytes))
    (exponentBound : publicExponent < 2 ^ 64) :
    (rsaPublicKeyInfo modulus publicExponent).length ≤ modulusBytes + 48 := by
  have octets := naturalContent_length_le_of_bits modulusBound
  rw [Nat.mul_div_cancel_left _ (by decide : 0 < 8)] at octets
  have integers : elementLength (modulusBytes + 1) + elementLength (64 / 8 + 1) ≤
      modulusBytes + 17 := by
    have modulusElement := elementLength_le_add (Nat.le_refl (modulusBytes + 1)) (by omega)
    have exponentElement : elementLength (64 / 8 + 1) = 11 := by decide
    omega
  have key : (rsaPublicKey modulus publicExponent).length ≤ modulusBytes + 22 :=
    (integerPair_length_le octets (naturalContent_length_le_of_bits exponentBound)).trans
      (elementLength_le_add integers (by omega))
  have bits : elementLength ((rsaPublicKey modulus publicExponent).length + 1) ≤
      modulusBytes + 28 :=
    elementLength_le_add (Nat.succ_le_succ key) (by omega)
  have algorithm : elementLength
      (AlgorithmIdentifier.content ⟨rsaEncryption, some ⟨nullTag, []⟩⟩).length = 15 := by decide
  have parts : 15 + elementLength ((rsaPublicKey modulus publicExponent).length + 1) ≤
      modulusBytes + 43 := by omega
  rw [rsaPublicKeyInfo, subjectPublicKeyInfo_length, algorithm]
  exact elementLength_le_add parts (by omega)

end Der
