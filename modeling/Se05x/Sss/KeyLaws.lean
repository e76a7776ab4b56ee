import Se05x.Der.Pkcs10
import Se05x.Sss.Reference

/-!
# What the key operations are for

The laws that tie signing to verification and encryption to decryption, for the key pairs a
generation can draw.
-/

set_option autoImplicit false

namespace Se05x.SecureElement

open Der

/-- Modulus sizes that the programs use. -/
def rsaSizes : List Nat := [2048, 3072, 4096]

/-- A key pair as a generation of the programs draws it. -/
inductive Drawn (element : SecureElement) : element.Key → Prop where
  | ec {bits draw : Nat} : bits ∈ nistSizes → Drawn element (element.newKey .ecNistP bits draw)
  | rsa {bits draw : Nat} : bits ∈ rsaSizes → Drawn element (element.newKey .rsa bits draw)

structure KeyLaws (element : SecureElement) : Prop where
  verifies : ∀ {key algorithm digest signature}, element.Drawn key →
    element.sign key algorithm digest = some signature →
      element.verify key algorithm digest signature = true
  decrypts : ∀ {key algorithm plaintext ciphertext}, element.Drawn key →
    element.encrypt key algorithm plaintext = some ciphertext →
      element.decrypt key algorithm ciphertext = some plaintext
  expands : ∀ {key algorithm plaintext ciphertext}, element.Drawn key →
    element.encrypt key algorithm plaintext = some ciphertext →
      plaintext.length ≤ ciphertext.length
  exports : ∀ {key}, element.Drawn key → IsElement sequenceTag (element.publicKeyDer key)

namespace reference

theorem drawn_bits_le {key : reference.Key} (drawn : Drawn reference key) :
    ReferenceKey.bits key ≤ 4096 := by
  cases drawn with
  | @ec bits draw supported =>
      simp only [nistSizes, List.mem_cons, List.not_mem_nil, or_false] at supported
      change bits ≤ 4096
      omega
  | @rsa bits draw supported =>
      simp only [rsaSizes, List.mem_cons, List.not_mem_nil, or_false] at supported
      change bits ≤ 4096
      omega

/-- The length in front of a plaintext is read back. -/
theorem decrypt_encrypt {key : ReferenceKey} {algorithm : Algorithm} {plaintext ciphertext : Bytes}
    (small : key.bits ≤ 4096) (encrypted : key.encrypt algorithm plaintext = some ciphertext) :
    key.decrypt algorithm ciphertext = some plaintext ∧ plaintext.length ≤ ciphertext.length := by
  obtain ⟨room, same⟩ := Option.ite_none_right_eq_some.mp encrypted
  obtain rfl := Option.some.inj same
  have high : (UInt8.ofNat (plaintext.length / 256)).toNat = plaintext.length / 256 :=
    UInt8.toNat_ofNat_of_lt' (by simp only [UInt8.size]; omega)
  have low : (UInt8.ofNat plaintext.length).toNat = plaintext.length % 256 := UInt8.toNat_ofNat'
  have length : plaintext.length / 256 * 256 + plaintext.length % 256 = plaintext.length := by omega
  have padded : (plaintext ++ List.replicate (key.bits / 8 - 2 - plaintext.length) (0 : UInt8)).length +
      2 = key.bits / 8 := by
    rw [List.length_append, List.length_replicate]
    omega
  constructor
  · simp only [List.cons_append, ReferenceKey.decrypt, high, low, length]
    rw [if_pos padded, List.take_left]
  · simp only [List.length_cons, List.length_append]
    omega

theorem ecSpki_isElement {bits draw : Nat} (supported : bits ∈ nistSizes) :
    IsElement sequenceTag (ReferenceKey.ecSpki ⟨.ecNistP, bits, draw⟩) := by
  have short := @curveLaws.short bits draw supported
  rw [publicKeyDer_ec] at short
  have fits : ∀ count, ((ReferenceKey.ecSpki ⟨.ecNistP, bits, draw⟩).drop count).length <
      256 ^ 126 := by
    intro count
    rw [List.length_drop]
    exact ((Nat.sub_le _ _).trans short).trans_lt (by decide)
  simp only [nistSizes, List.mem_cons, List.not_mem_nil, or_false] at supported
  rcases supported with rfl | rfl | rfl
  · exact ⟨_, fits 2, by simp [ReferenceKey.ecSpki, ReferenceKey.ecHeader, ReferenceKey.bytes, element,
      lengthOctets, sequenceTag]⟩
  · exact ⟨_, fits 2, by simp [ReferenceKey.ecSpki, ReferenceKey.ecHeader, ReferenceKey.bytes, element,
      lengthOctets, sequenceTag]⟩
  · exact ⟨_, fits 3, by simp [ReferenceKey.ecSpki, ReferenceKey.ecHeader, ReferenceKey.bytes, element,
      lengthOctets, bigEndian, sequenceTag]⟩

theorem rsaSpki_element {modulusBytes : Nat} (small : modulusBytes ≤ 512) :
    ∃ content, content.length ≤ modulusBytes + 36 ∧
      ReferenceKey.rsaSpki modulusBytes = element sequenceTag content := by
  refine ⟨_, ?_, rfl⟩
  have modulus := element_length_le 0x02 (0 :: List.replicate modulusBytes 0xff)
    (by simp only [List.length_cons, List.length_replicate]; omega)
  have exponent := element_length_le 0x02 [0x01, 0x00, 0x01] (by decide)
  simp only [List.length_cons, List.length_replicate, List.length_nil] at modulus exponent
  have numbers := element_length_le 0x30 (element 0x02 (0 :: List.replicate modulusBytes 0xff) ++
    element 0x02 [0x01, 0x00, 0x01]) (by rw [List.length_append]; omega)
  rw [List.length_append] at numbers
  have key := element_length_le 0x03 (0 :: element 0x30 (element 0x02
    (0 :: List.replicate modulusBytes 0xff) ++ element 0x02 [0x01, 0x00, 0x01]))
    (by rw [List.length_cons]; omega)
  rw [List.length_cons] at key
  have algorithm : (element 0x30 (element 0x06
    [0x2a, 0x86, 0x48, 0x86, 0xf7, 0x0d, 0x01, 0x01, 0x01] ++ element 0x05 [])).length = 15 := by
    decide
  rw [List.length_append, algorithm]
  omega

theorem rsaSpki_isElement {modulusBytes : Nat} (small : modulusBytes ≤ 512) :
    IsElement sequenceTag (ReferenceKey.rsaSpki modulusBytes) := by
  obtain ⟨content, short, same⟩ := rsaSpki_element small
  exact ⟨content, (by omega : content.length < 65536).trans (by decide), same⟩

theorem rsaSpki_length_le {modulusBytes : Nat} (small : modulusBytes ≤ 512) :
    (ReferenceKey.rsaSpki modulusBytes).length ≤ modulusBytes + 40 := by
  obtain ⟨content, short, same⟩ := rsaSpki_element small
  have whole := element_length_le sequenceTag content (by omega)
  rw [same]
  omega

theorem keyLaws : KeyLaws reference where
  verifies := by
    intro key algorithm digest signature _ signed
    exact beq_iff_eq.mpr signed
  decrypts := by
    intro key algorithm plaintext ciphertext drawn encrypted
    exact (@decrypt_encrypt key algorithm _ _ (drawn_bits_le drawn) encrypted).1
  expands := by
    intro key algorithm plaintext ciphertext drawn encrypted
    exact (@decrypt_encrypt key algorithm _ _ (drawn_bits_le drawn) encrypted).2
  exports := by
    intro key drawn
    cases drawn with
    | ec supported =>
        rw [publicKeyDer_ec]
        exact ecSpki_isElement supported
    | @rsa bits draw supported =>
        have exported : reference.publicKeyDer (reference.newKey .rsa bits draw) =
            ReferenceKey.rsaSpki (bits / 8) := rfl
        rw [exported]
        refine rsaSpki_isElement ?_
        simp only [rsaSizes, List.mem_cons, List.not_mem_nil, or_false] at supported
        omega

end reference

end Se05x.SecureElement
