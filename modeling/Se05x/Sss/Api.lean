import Se05x.Der.Element
import Se05x.Sss.Status

/-!
# Secure subsystem calls

The calls the programs make to the secure element, with the fields they pass and the
outputs they read. A context or key object is a value: what its initialisation bound.
-/

set_option autoImplicit false

namespace Se05x

open Der

/-- Object identifiers of the secure element, `uint32_t`. -/
abbrev KeyId := Nat

inductive KeyPart where
  | defaultPart
  | publicPart
  | pair
deriving DecidableEq, Repr

inductive CipherType where
  | ecNistP
  | rsa
  | rsaCrt
  | aes
deriving DecidableEq, Repr

inductive ObjectMode where
  | persistent
  | transient
deriving DecidableEq, Repr

inductive Hash where
  | sha1
  | sha224
  | sha256
  | sha384
  | sha512
deriving DecidableEq, Repr

def Hash.length : Hash → Nat
  | .sha1 => 20
  | .sha224 => 28
  | .sha256 => 32
  | .sha384 => 48
  | .sha512 => 64

/-- `kAlgorithm_SSS_*`. A caller may set others than the programs name. -/
inductive Algorithm where
  | sha256
  | sha384
  | sha512
  | ecdsaSha256
  | rsassaPkcs1V15Sha256
  | rsaesPkcs1OaepSha256
  | ecdh
  | other (code : Nat) (hash : Option Hash)
deriving DecidableEq, Repr

/-- The hash an algorithm names. -/
def Algorithm.hash : Algorithm → Option Hash
  | .sha256 | .ecdsaSha256 | .rsassaPkcs1V15Sha256 | .rsaesPkcs1OaepSha256 => some .sha256
  | .sha384 => some .sha384
  | .sha512 => some .sha512
  | .ecdh => none
  | .other _ hash => hash

/-- A digest of this length can be signed under the algorithm. -/
def Algorithm.accepts (algorithm : Algorithm) (digest : Bytes) : Bool :=
  algorithm.hash.any fun hash => hash.length == digest.length

/-- Only SHA-256 has digests of 32 bytes. -/
theorem Algorithm.hash_of_accepts {algorithm : Algorithm} {digest : Bytes}
    (accepted : algorithm.accepts digest = true) (sized : digest.length = 32) :
    algorithm.hash = some .sha256 := by
  rw [accepts, sized] at accepted
  cases named : algorithm.hash with
  | none =>
      rw [named] at accepted
      cases accepted
  | some hash =>
      rw [named] at accepted
      cases hash with
      | sha256 => rfl
      | sha1 | sha224 | sha384 | sha512 => cases accepted

inductive Mode where
  | sign
  | verify
  | encrypt
  | decrypt
  | computeSharedSecret
  | digest
deriving DecidableEq, Repr

/-- `sss_object_t`: zeroed, initialised, or bound to an identifier. -/
inductive SssObject where
  | zeroed
  | initialised
  | existing (keyId : KeyId)
  | allocated (keyId : KeyId) (keyPart : KeyPart) (cipherType : CipherType) (keyByteLenMax : Nat)
      (mode : ObjectMode)
deriving DecidableEq, Repr

def SssObject.keyId : SssObject → Option KeyId
  | .zeroed | .initialised => none
  | .existing keyId => some keyId
  | .allocated keyId _ _ _ _ => some keyId

/-- `sss_asymmetric_t` and `sss_derive_key_t`. -/
structure KeyContext where
  keyObject : SssObject
  algorithm : Algorithm
  mode : Mode
deriving DecidableEq, Repr

/-- `sss_digest_t`. -/
structure DigestContext where
  algorithm : Algorithm
  mode : Mode
deriving DecidableEq, Repr

/-- The bytes a call left in an output buffer, never more than the capacity it was given. -/
abbrev Filled (capacity : Nat) := { bytes : Bytes // bytes.length ≤ capacity }

inductive SssCall where
  | rngContextInit
  | rngGetRandom (numBytes : Nat)
  | rngContextFree
  | keyObjectInit
  | keyObjectGetHandle (keyId : KeyId)
  | keyObjectAllocateHandle (keyId : KeyId) (keyPart : KeyPart) (cipherType : CipherType)
      (keyByteLenMax : Nat) (mode : ObjectMode)
  | keyObjectFree (keyObject : SssObject)
  | keyStoreEraseKey (keyObject : SssObject)
  | keyStoreGenerateKey (keyObject : SssObject) (keyBitLen : Nat)
  | keyStoreSetKey (keyObject : SssObject) (data : Bytes) (keyBitLen : Nat)
  | keyStoreGetKey (keyObject : SssObject) (capacity : Nat)
  | asymmetricContextInit (context : KeyContext)
  | asymmetricSignDigest (context : KeyContext) (digest : Bytes) (capacity : Nat)
  | asymmetricVerifyDigest (context : KeyContext) (digest signature : Bytes)
  | asymmetricEncrypt (context : KeyContext) (plaintext : Bytes) (capacity : Nat)
  | asymmetricDecrypt (context : KeyContext) (ciphertext : Bytes) (capacity : Nat)
  | asymmetricContextFree (context : Option KeyContext)
  | deriveKeyContextInit (context : KeyContext)
  | deriveKeyDh (context : KeyContext) (otherParty derived : SssObject)
  | deriveKeyContextFree (context : Option KeyContext)
  | digestContextInit (context : DigestContext)
  | digestOneGo (context : DigestContext) (message : Bytes) (capacity : Nat)
  | digestContextFree (context : Option DigestContext)
deriving DecidableEq, Repr

abbrev SssCall.Answer : SssCall → Type
  | .rngGetRandom numBytes => SssStatus × Vector UInt8 numBytes
  | .keyStoreGetKey _ capacity => SssStatus × Filled capacity
  | .asymmetricSignDigest _ _ capacity => SssStatus × Filled capacity
  | .asymmetricEncrypt _ _ capacity => SssStatus × Filled capacity
  | .asymmetricDecrypt _ _ capacity => SssStatus × Filled capacity
  | .digestOneGo _ _ capacity => SssStatus × Filled capacity
  | .rngContextFree | .keyObjectFree _ | .asymmetricContextFree _ | .deriveKeyContextFree _
  | .digestContextFree _ => Unit
  | _ => SssStatus

end Se05x
