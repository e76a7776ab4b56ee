import Se05x.App.Demo

/-!
# Signing and verifying

The EC and the RSA demo hash a message on the element, sign the digest and verify the
signature, each with its own key, algorithm and signature buffer.
-/

set_option autoImplicit false

namespace Se05x.App

open Der Interaction

/-- `sss_asymmetric_context_init`. -/
def openAsym (context : KeyContext) : Body Unit := do
  ensure (← sss (.asymmetricContextInit context))
  modify (Locals.setAsym · (some context))

def closeAsym : Body Unit := do
  sss (.asymmetricContextFree (← get).asym)
  modify (Locals.setAsym · none)

def signVerify (heading : String) (keyId : KeyId) (message : Bytes) (algorithm : Algorithm)
    (sigBufLen : Nat) (sigLabel done failed : String) : Program host SssStatus :=
  demo
    (do
      logInfo heading
      getKeyHandle keyId
      ensure (← sss (.digestContextInit ⟨.sha256, .digest⟩))
      modify fun l => { l with digCtx := some ⟨.sha256, .digest⟩ }
      let (st, digest) ← sss (.digestOneGo ⟨.sha256, .digest⟩ message 32)
      ensure st
      logBytes "SHA-256 digest" digest.val
      let signing := ⟨.existing keyId, algorithm, .sign⟩
      openAsym signing
      let (st, sig) ← sss (.asymmetricSignDigest signing digest.val sigBufLen)
      ensure st
      logBytes sigLabel sig.val
      closeAsym
      let verifying := ⟨.existing keyId, algorithm, .verify⟩
      openAsym verifying
      ensure (← sss (.asymmetricVerifyDigest verifying digest.val sig.val))
      logInfo done)
    (fun l => do
      ask (.sss (.asymmetricContextFree l.asym))
      ask (.sss (.digestContextFree l.digCtx))
      ask (.sss (.keyObjectFree l.keyPair))
      reportFailure l failed)

def demoEcSignVerify : Program host SssStatus :=
  signVerify "=== EC Sign / Verify ===" demoKeyEcAlice (asciiBytes "SE051 ECDSA test message")
    .ecdsaSha256 ecSigBufLen "ECDSA signature" "EC Sign/Verify OK" "EC sign/verify FAILED"

def demoRsaSignVerify : Program host SssStatus :=
  signVerify "=== RSA Sign / Verify (PKCS#1 v1.5 SHA-256) ===" demoKeyRsa
    (asciiBytes "SE051 RSA PKCS1v15 test message") .rsassaPkcs1V15Sha256 rsaSigBufLen "RSA signature"
    "RSA Sign/Verify OK" "RSA sign/verify FAILED"

end Se05x.App
