import Se05x.App.SignVerify

/-!
# Key generation, agreement and encryption

The demos that make keys erase what an earlier run left under the identifier first.
-/

set_option autoImplicit false

namespace Se05x.App

open Der Interaction

def demoEcKeygen : Program host SssStatus :=
  demo
    (do
      logInfo "=== EC Keygen (P-256) ==="
      eraseKeyIfExists demoKeyEcAlice
      let keyPair ← allocateKey .setKeyPair demoKeyEcAlice .pair .ecNistP ecKeypairMaxBytes
        .persistent
      ensure (← sss (.keyStoreGenerateKey keyPair ecKeyBits))
      logInfo "EC key pair generated (object ID 0xEF000001)"
      let (st, pubBuf) ← sss (.keyStoreGetKey keyPair ecPubBufLen)
      ensure st
      logBytes "EC public key (SPKI DER)" pubBuf.val
      logInfo "EC Keygen OK")
    (fun l => do
      ask (.sss (.keyObjectFree l.keyPair))
      reportFailure l "EC keygen FAILED")

def demoEcEcdh : Program host SssStatus :=
  demo
    (do
      logInfo "=== ECDH Key Agreement ==="
      getKeyHandle demoKeyEcAlice
      eraseKeyIfExists demoKeyEcBob
      let bob ← allocateKey .setBob demoKeyEcBob .pair .ecNistP ecKeypairMaxBytes .persistent
      ensure (← sss (.keyStoreGenerateKey bob ecKeyBits))
      logInfo "Bob key pair generated (ID 0xEF000002)"
      eraseKeyIfExists demoKeyEcShared
      let shared ← allocateKey .setShared demoKeyEcShared .defaultPart .aes 32 .transient
      let dctx := ⟨.existing demoKeyEcAlice, .ecdh, .computeSharedSecret⟩
      ensure (← sss (.deriveKeyContextInit dctx))
      modify fun l => { l with dctx := some dctx }
      ensure (← sss (.deriveKeyDh dctx bob shared))
      logInfo "ECDH computed"
      -- The status of this export is not kept: the element may refuse it.
      let (st, sharedBuf) ← sss (.keyStoreGetKey shared ecdhSharedBufLen)
      if st = .success then logBytes "Shared secret" sharedBuf.val
      else logInfo "Shared secret stored on SE (not exportable)"
      logInfo "ECDH OK")
    (fun l => do
      ask (.sss (.deriveKeyContextFree l.dctx))
      ask (.sss (.keyObjectFree l.shared))
      ask (.sss (.keyObjectFree l.bob))
      ask (.sss (.keyObjectFree l.keyPair))
      reportFailure l "ECDH FAILED")

def demoRsaKeygen : Program host SssStatus :=
  demo
    (do
      logInfo "=== RSA Keygen (2048-bit) ==="
      logInfo "NOTE: RSA 2048 keygen on SE051 may take several seconds..."
      eraseKeyIfExists demoKeyRsa
      let keyPair ← allocateKey .setKeyPair demoKeyRsa .pair .rsaCrt rsaKeypairMaxBytes .persistent
      ensure (← sss (.keyStoreGenerateKey keyPair rsaKeyBits))
      logInfo "RSA 2048 key pair generated (object ID 0xEF000010)")
    (fun l => do
      ask (.sss (.keyObjectFree l.keyPair))
      if l.status ≠ .success then ask (.logError "RSA keygen FAILED")
      else ask (.logInfo "RSA Keygen OK"))

def demoRsaEncDec : Program host SssStatus :=
  demo
    (do
      let plaintext := asciiBytes "Hello from SE051!"
      logInfo "=== RSA Encrypt / Decrypt (OAEP SHA-256) ==="
      getKeyHandle demoKeyRsa
      let encrypting := ⟨.existing demoKeyRsa, .rsaesPkcs1OaepSha256, .encrypt⟩
      openAsym encrypting
      let (st, ciphertext) ← sss (.asymmetricEncrypt encrypting plaintext rsaSigBufLen)
      ensure st
      logBytes "Ciphertext" ciphertext.val
      closeAsym
      let decrypting := ⟨.existing demoKeyRsa, .rsaesPkcs1OaepSha256, .decrypt⟩
      openAsym decrypting
      let (st, recovered) ← sss (.asymmetricDecrypt decrypting ciphertext.val rsaSigBufLen)
      ensure st
      logBytes "Decrypted" recovered.val
      if recovered.val.length ≠ plaintext.length ∨
          recovered.val.take plaintext.length ≠ plaintext then
        logError "Decrypted plaintext does NOT match!"
        throw .fail
      else
        logInfo "RSA Enc/Dec OK — plaintext matches")
    (fun l => do
      ask (.sss (.asymmetricContextFree l.asym))
      ask (.sss (.keyObjectFree l.keyPair))
      reportFailure l "RSA enc/dec FAILED")

end Se05x.App
