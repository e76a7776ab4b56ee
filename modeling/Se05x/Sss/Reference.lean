import Mathlib.Tactic.IntervalCases
import Se05x.Sss.SecureElement

/-!
# A reference secure element

Keys, outputs and encodings have the lengths of the real ones. A small multiplicative
group stands in for the curves, and padding for the RSA permutation.
-/

set_option autoImplicit false

namespace Se05x

open Der Interaction

structure ReferenceKey where
  cipherType : CipherType
  bits : Nat
  draw : Nat
deriving DecidableEq, Repr

namespace ReferenceKey

def bytes (key : ReferenceKey) : Nat := (key.bits + 7) / 8

/-- What precedes the uncompressed point in the public key's DER. -/
def ecHeader (bits : Nat) : Bytes :=
  if bits = 256 then
    [0x30, 0x59, 0x30, 0x13, 0x06, 0x07, 0x2a, 0x86, 0x48, 0xce, 0x3d, 0x02, 0x01, 0x06, 0x08,
      0x2a, 0x86, 0x48, 0xce, 0x3d, 0x03, 0x01, 0x07, 0x03, 0x42, 0x00]
  else if bits = 384 then
    [0x30, 0x76, 0x30, 0x10, 0x06, 0x07, 0x2a, 0x86, 0x48, 0xce, 0x3d, 0x02, 0x01, 0x06, 0x05,
      0x2b, 0x81, 0x04, 0x00, 0x22, 0x03, 0x62, 0x00]
  else
    [0x30, 0x81, 0x9b, 0x30, 0x10, 0x06, 0x07, 0x2a, 0x86, 0x48, 0xce, 0x3d, 0x02, 0x01, 0x06,
      0x05, 0x2b, 0x81, 0x04, 0x00, 0x23, 0x03, 0x81, 0x86, 0x00]

def rsaSpki (modulusBytes : Nat) : Bytes :=
  element 0x30 (element 0x30 (element 0x06
      [0x2a, 0x86, 0x48, 0x86, 0xf7, 0x0d, 0x01, 0x01, 0x01] ++ element 0x05 []) ++
    element 0x03 (0 :: element 0x30 (element 0x02 (0 :: List.replicate modulusBytes 0xff) ++
      element 0x02 [0x01, 0x00, 0x01])))

def publicValue (key : ReferenceKey) : Nat := 6 ^ (key.draw + 1) % 251

def ecSpki (key : ReferenceKey) : Bytes :=
  ecHeader key.bits ++ 4 :: List.replicate (2 * key.bytes - 1) 0 ++ [UInt8.ofNat key.publicValue]

def publicKeyDer (key : ReferenceKey) : Bytes :=
  if key.cipherType = .ecNistP then key.ecSpki else rsaSpki (key.bits / 8)

def signature (key : ReferenceKey) : Bytes :=
  if key.cipherType = .ecNistP then [0x30, 0x06, 0x02, 0x01, 0x01, 0x02, 0x01, 0x01]
  else List.replicate (key.bits / 8) 0x5a

def sign (key : ReferenceKey) (algorithm : Algorithm) (digest : Bytes) : Option Bytes :=
  if algorithm.hash.any (·.length == digest.length) then some key.signature else none

def encrypt (key : ReferenceKey) (_ : Algorithm) (plaintext : Bytes) : Option Bytes :=
  if plaintext.length + 66 ≤ key.bits / 8 then
    some (UInt8.ofNat (plaintext.length / 256) :: UInt8.ofNat plaintext.length :: plaintext ++
      List.replicate (key.bits / 8 - 2 - plaintext.length) 0)
  else none

def decrypt (key : ReferenceKey) (_ : Algorithm) (ciphertext : Bytes) : Option Bytes :=
  match ciphertext with
  | high :: low :: padded =>
    if padded.length + 2 = key.bits / 8 then some (padded.take (high.toNat * 256 + low.toNat))
    else none
  | _ => none

def derCurveBits (der : Bytes) : Option Nat :=
  [256, 384, 521].find? fun bits => (ecHeader bits).isPrefixOf der

def sharedX (key : ReferenceKey) (der : Bytes) : Option Bytes :=
  some (List.replicate (key.bytes - 1) 0 ++
    [UInt8.ofNat ((der.getLastD 0).toNat ^ (key.draw + 1) % 251)])

end ReferenceKey

def SecureElement.reference : SecureElement where
  Key := ReferenceKey
  newKey := .mk
  publicKeyDer := ReferenceKey.publicKeyDer
  sign := ReferenceKey.sign
  verify key algorithm digest signature := key.sign algorithm digest == some signature
  encrypt := ReferenceKey.encrypt
  decrypt := ReferenceKey.decrypt
  derCurveBits := ReferenceKey.derCurveBits
  sharedX := ReferenceKey.sharedX
  digest algorithm _ := List.replicate ((algorithm.hash.map Hash.length).getD 0) 0
  random draw numBytes := Vector.replicate numBytes (UInt8.ofNat draw)

namespace SecureElement.reference

abbrev State := SecureElement.State SecureElement.reference

/-- Files cannot be opened and the environment is empty. -/
def server : Server host State := fun state request =>
  match request with
  | .sss request => serve state request
  | .allocate _ => (.granted, state)
  | .readFile _ => (.cannotOpen, state)
  | .writeFile _ _ => (false, state)
  | .getenv _ => (none, state)
  | .bootOpen _ | .keyStoreAndObjectInit => (.success, state)
  | .printOut _ | .printError _ | .sessionClose | .logInfo _ | .logError _ | .logBytes _ _ =>
    ((), state)

theorem server_hosts : Hosts reference server where
  sss _ _ := rfl
  allocates _ _ := rfl

/-- A key store without objects. -/
def emptyState : State := ⟨fun _ => none, 0⟩

theorem sign_rsa {bits draw : Nat} {digest : Bytes} (sha256 : digest.length = 32) :
    reference.sign (reference.newKey .rsa bits draw) .rsassaPkcs1V15Sha256 digest =
      some (List.replicate (bits / 8) 0x5a) := by
  refine (if_pos ?_).trans rfl
  simp [Algorithm.hash, Hash.length, sha256]

theorem sign_ec {bits draw : Nat} {digest : Bytes} (sha256 : digest.length = 32) :
    reference.sign (reference.newKey .ecNistP bits draw) .sha256 digest =
      some (ReferenceKey.signature ⟨.ecNistP, bits, draw⟩) := by
  refine (if_pos ?_).trans rfl
  simp [Algorithm.hash, Hash.length, sha256]

theorem modulusSized : ModulusSized reference where
  sign := by
    intro bits draw algorithm digest signature signed
    obtain ⟨_, rfl⟩ : _ ∧ ReferenceKey.signature ⟨.rsa, bits, draw⟩ = signature := by
      simpa [reference, ReferenceKey.sign] using signed
    exact List.length_replicate
  encrypt := by
    intro bits draw algorithm plaintext ciphertext encrypted
    obtain ⟨room, ⟨⟩⟩ := Option.ite_none_right_eq_some.mp encrypted
    simp only [List.length_cons, List.length_append, List.length_replicate]
    change plaintext.length + 66 ≤ bits / 8 at room
    change plaintext.length + 1 + 1 + (bits / 8 - 2 - plaintext.length) = bits / 8
    omega
  decrypt := by
    intro bits draw algorithm ciphertext message decrypted
    match ciphertext, decrypted with
    | high :: low :: padded, decrypted =>
        obtain ⟨room, ⟨⟩⟩ := Option.ite_none_right_eq_some.mp decrypted
        change padded.length + 2 = bits / 8 at room
        rw [List.length_take]
        omega

theorem publicKeyDer_ec (bits draw : Nat) :
    reference.publicKeyDer (reference.newKey .ecNistP bits draw) =
      ReferenceKey.ecSpki ⟨.ecNistP, bits, draw⟩ := by
  change ReferenceKey.publicKeyDer ⟨.ecNistP, bits, draw⟩ = _
  rw [ReferenceKey.publicKeyDer, if_pos rfl]

theorem derCurveBits_ecHeader {bits : Nat} (supported : bits ∈ nistSizes) (point : Bytes) :
    ReferenceKey.derCurveBits (ReferenceKey.ecHeader bits ++ point) = some bits := by
  simp only [nistSizes, List.mem_cons, List.not_mem_nil, or_false] at supported
  rcases supported with rfl | rfl | rfl <;>
    simp [ReferenceKey.derCurveBits, ReferenceKey.ecHeader, List.isPrefixOf]

theorem publicValue_lt (key : ReferenceKey) : key.publicValue < 256 :=
  (Nat.mod_lt _ (by decide)).trans (by decide)

theorem ecSpki_getLastD (key : ReferenceKey) :
    (key.ecSpki.getLastD 0).toNat = key.publicValue := by
  rw [ReferenceKey.ecSpki, List.getLastD_concat, UInt8.toNat_ofNat_of_lt' (publicValue_lt key)]

theorem power_comm (left right : Nat) :
    (6 ^ left % 251) ^ right % 251 = (6 ^ right % 251) ^ left % 251 := by
  rw [← Nat.pow_mod, ← Nat.pow_mod, ← Nat.pow_mul, ← Nat.pow_mul, Nat.mul_comm]

theorem sharedX_ec (bits left right : Nat) :
    reference.sharedX (reference.newKey .ecNistP bits left)
        (reference.publicKeyDer (reference.newKey .ecNistP bits right)) =
      some (List.replicate ((bits + 7) / 8 - 1) 0 ++
        [UInt8.ofNat ((6 ^ (right + 1) % 251) ^ (left + 1) % 251)]) := by
  rw [publicKeyDer_ec]
  change ReferenceKey.sharedX ⟨.ecNistP, bits, left⟩ _ = _
  rw [ReferenceKey.sharedX, ecSpki_getLastD]
  rfl

theorem curveLaws : CurveLaws reference where
  named := by
    intro bits draw supported
    rw [publicKeyDer_ec, ReferenceKey.ecSpki, List.append_assoc]
    exact derCurveBits_ecHeader supported _
  short := by
    intro bits draw supported
    rw [publicKeyDer_ec, ReferenceKey.ecSpki, ReferenceKey.bytes]
    simp only [nistSizes, List.mem_cons, List.not_mem_nil, or_false] at supported
    rcases supported with rfl | rfl | rfl <;> simp [ReferenceKey.ecHeader]
  agreed := by
    intro bits left right supported
    refine ⟨_, ?_, sharedX_ec bits left right, ?_⟩
    · simp only [nistSizes, List.mem_cons, List.not_mem_nil, or_false] at supported
      rcases supported with rfl | rfl | rfl <;> simp
    · rw [sharedX_ec, power_comm]

end SecureElement.reference

end Se05x
