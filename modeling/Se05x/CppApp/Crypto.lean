import Se05x.CppApp.Csr
import Se05x.CppApp.Exception
import Se05x.Host

/-!
# The C++ wrapper

Random numbers and the operations of the EC and RSA key handles. Every call of the secure
subsystem is checked; a failing one, or a failing allocation, throws.
-/

set_option autoImplicit false

namespace Se05x.CppApp

open Der Interaction

abbrev Cpp := ExceptT CppException (Program host)

def sss (request : SssCall) : Cpp request.Answer :=
  ExceptT.lift (ask (.sss request))

def constructed : Allocation → Cpp Unit
  | .granted => pure ()
  | .badAlloc => throw .badAlloc
  | .lengthError => throw .lengthError

/-- Construct a vector of `size` bytes. -/
def allocate (size : Nat) : Cpp Unit := do
  constructed (← ExceptT.lift (ask (.allocate size)))

def succeeded (st : SssStatus) : Bool := st == .success

def check (st : SssStatus) (place : String) : Cpp Unit :=
  if st = .success then pure () else throw (.crypto ("SSS call failed: " ++ place) st)

def eraseKey (keyId : KeyId) : Cpp Unit := do
  check (← sss .keyObjectInit) "key_object_init(erase)"
  check (← sss (.keyObjectGetHandle keyId)) "key_object_get_handle(erase)"
  check (← sss (.keyStoreEraseKey (.existing keyId))) "key_store_erase_key"

inductive EcCurve where
  | nistP256
  | nistP384
  | nistP521
deriving DecidableEq, Repr

def curveBits : EcCurve → Nat
  | .nistP256 => 256
  | .nistP384 => 384
  | .nistP521 => 521

def curveSigAlgo : EcCurve → Algorithm
  | .nistP256 => .sha256
  | .nistP384 => .sha384
  | .nistP521 => .sha512

inductive RsaBits where
  | rsa2048
  | rsa3072
  | rsa4096
deriving DecidableEq, Repr

def RsaBits.toNat : RsaBits → Nat
  | .rsa2048 => 2048
  | .rsa3072 => 3072
  | .rsa4096 => 4096

/-- Bind an object to an existing persisted key. -/
def openHandle (keyId : KeyId) : Cpp SssObject := do
  check (← sss .keyObjectInit) "key_object_init"
  check (← sss (.keyObjectGetHandle keyId)) "key_object_get_handle"
  return .existing keyId

def getRandom (numBytes : Nat) : Cpp Bytes := do
  check (← sss .rngContextInit) "rng_context_init"
  allocate numBytes
  let (st, out) ← sss (.rngGetRandom numBytes)
  sss .rngContextFree
  check st "rng_get_random"
  return out.toList

/-- An operation of an asymmetric context that fills a buffer of `size` bytes. -/
def asymmetricOutput (context : KeyContext) (initPlace : String) (size : Nat)
    (operation : Program host (SssStatus × Filled size)) (place : String) : Cpp Bytes := do
  check (← sss (.asymmetricContextInit context)) initPlace
  allocate size
  let (st, out) ← ExceptT.lift operation
  sss (.asymmetricContextFree (some context))
  check st place
  return out.val

def asymmetricVerify (context : KeyContext) (initPlace : String) (digest signature : Bytes) :
    Cpp Bool := do
  check (← sss (.asymmetricContextInit context)) initPlace
  let st ← sss (.asymmetricVerifyDigest context digest signature)
  sss (.asymmetricContextFree (some context))
  return succeeded st

structure EcKey where
  obj : SssObject
  sigAlgo : Algorithm
  curve : EcCurve
  owns : Bool
deriving DecidableEq, Repr

/-- `EcKey(Session &)`: the default member initialisers. -/
def EcKey.new : EcKey := ⟨.zeroed, .sha256, .nistP256, false⟩

namespace EcKey

def generate (keyId : KeyId) (curve : EcCurve) : Cpp EcKey := do
  let k := { new with curve := curve, sigAlgo := curveSigAlgo curve, owns := true }
  let bits := curveBits curve
  let bytes := (bits + 7) / 8
  check (← sss .keyObjectInit) "key_object_init"
  check (← sss (.keyObjectAllocateHandle keyId .pair .ecNistP (3 * bytes + 8) .persistent))
    "key_object_allocate_handle(EC)"
  let k := { k with obj := .allocated keyId .pair .ecNistP (3 * bytes + 8) .persistent }
  check (← sss (.keyStoreGenerateKey k.obj bits)) "key_store_generate_key(EC)"
  return k

/-- `open` leaves the curve as the member initialiser set it. -/
def «open» (keyId : KeyId) : Cpp EcKey := do
  let k := { new with owns := false }
  let k := { k with obj := ← openHandle keyId }
  return { k with sigAlgo := .sha256 }

def setSigAlgo (k : EcKey) (algorithm : Algorithm) : EcKey := { k with sigAlgo := algorithm }

def sign (k : EcKey) (digest : Bytes) : Cpp Bytes :=
  let context := ⟨k.obj, k.sigAlgo, .sign⟩
  asymmetricOutput context "asymmetric_context_init(EC sign)" 256
    (ask (.sss (.asymmetricSignDigest context digest 256))) "asymmetric_sign_digest(EC)"

def verify (k : EcKey) (digest signature : Bytes) : Cpp Bool :=
  asymmetricVerify ⟨k.obj, k.sigAlgo, .verify⟩ "asymmetric_context_init(EC verify)" digest signature

def ecdh (k : EcKey) (peerPubKeyDer : Bytes) : Cpp Bytes := do
  check (← sss .keyObjectInit) "key_object_init(peer)"
  check (← sss (.keyObjectAllocateHandle 0xEF009E01 .publicPart .ecNistP peerPubKeyDer.length
    .transient)) "key_object_allocate_handle(peer)"
  let peer := .allocated 0xEF009E01 .publicPart .ecNistP peerPubKeyDer.length .transient
  check (← sss (.keyStoreSetKey peer peerPubKeyDer (curveBits k.curve))) "key_store_set_key(peer)"
  check (← sss .keyObjectInit) "key_object_init(shared)"
  check (← sss (.keyObjectAllocateHandle 0xEF009E02 .defaultPart .aes 64 .transient))
    "key_object_allocate_handle(shared)"
  let shared := .allocated 0xEF009E02 .defaultPart .aes 64 .transient
  let dctx := ⟨k.obj, .ecdh, .computeSharedSecret⟩
  check (← sss (.deriveKeyContextInit dctx)) "derive_key_context_init"
  let st ← sss (.deriveKeyDh dctx peer shared)
  sss (.deriveKeyContextFree (some dctx))
  check st "derive_key_dh"
  allocate 64
  let (st, secret) ← sss (.keyStoreGetKey shared 64)
  check st "key_store_get_key(shared)"
  return secret.val

def publicKeyDer (k : EcKey) : Cpp Bytes := do
  allocate 256
  let (st, buf) ← sss (.keyStoreGetKey k.obj 256)
  check st "key_store_get_key(EC pub)"
  return buf.val

def makeCsr (mbedtls : Mbedtls) (target : Target) (k : EcKey) (subjectDn : String) : Cpp Bytes := do
  let spki ← k.publicKeyDer
  makeCsrImpl mbedtls target subjectDn spki k.sign true

end EcKey

structure RsaKey where
  obj : SssObject
  bits : Nat
  owns : Bool
deriving DecidableEq, Repr

def RsaKey.new : RsaKey := ⟨.zeroed, 2048, false⟩

namespace RsaKey

def generate (keyId : KeyId) (bits : RsaBits) : Cpp RsaKey := do
  let k := { new with bits := bits.toNat, owns := true }
  check (← sss .keyObjectInit) "key_object_init"
  check (← sss (.keyObjectAllocateHandle keyId .pair .rsa (k.bits / 8) .persistent))
    "key_object_allocate_handle(RSA)"
  let k := { k with obj := .allocated keyId .pair .rsa (k.bits / 8) .persistent }
  check (← sss (.keyStoreGenerateKey k.obj k.bits)) "key_store_generate_key(RSA)"
  return k

/-- `open` leaves the key size as the member initialiser set it. -/
def «open» (keyId : KeyId) : Cpp RsaKey := do
  let k := { new with owns := false }
  return { k with obj := ← openHandle keyId }

def sign (k : RsaKey) (digest : Bytes) : Cpp Bytes :=
  let context := ⟨k.obj, .rsassaPkcs1V15Sha256, .sign⟩
  asymmetricOutput context "asymmetric_context_init(RSA sign)" (k.bits / 8)
    (ask (.sss (.asymmetricSignDigest context digest (k.bits / 8)))) "asymmetric_sign_digest(RSA)"

def verify (k : RsaKey) (digest signature : Bytes) : Cpp Bool :=
  asymmetricVerify ⟨k.obj, .rsassaPkcs1V15Sha256, .verify⟩ "asymmetric_context_init(RSA verify)"
    digest signature

def encrypt (k : RsaKey) (plaintext : Bytes) : Cpp Bytes :=
  let context := ⟨k.obj, .rsaesPkcs1OaepSha256, .encrypt⟩
  asymmetricOutput context "asymmetric_context_init(RSA enc)" (k.bits / 8)
    (ask (.sss (.asymmetricEncrypt context plaintext (k.bits / 8)))) "asymmetric_encrypt(RSA)"

def decrypt (k : RsaKey) (ciphertext : Bytes) : Cpp Bytes :=
  let context := ⟨k.obj, .rsaesPkcs1OaepSha256, .decrypt⟩
  asymmetricOutput context "asymmetric_context_init(RSA dec)" (k.bits / 8)
    (ask (.sss (.asymmetricDecrypt context ciphertext (k.bits / 8)))) "asymmetric_decrypt(RSA)"

def publicKeyDer (k : RsaKey) : Cpp Bytes := do
  allocate (k.bits / 8 + 64)
  let (st, buf) ← sss (.keyStoreGetKey k.obj (k.bits / 8 + 64))
  check st "key_store_get_key(RSA pub)"
  return buf.val

def makeCsr (mbedtls : Mbedtls) (target : Target) (k : RsaKey) (subjectDn : String) : Cpp Bytes := do
  let spki ← k.publicKeyDer
  makeCsrImpl mbedtls target subjectDn spki k.sign false

end RsaKey

end Se05x.CppApp
