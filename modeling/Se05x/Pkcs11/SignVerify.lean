import Se05x.Pkcs11.DemoCommon

/-!
# Signing and verifying

Each demo verifies the signature it has just made, over the same message.
-/

set_option autoImplicit false

namespace Se05x.Pkcs11

open Der Interaction

structure Curve where
  curveName : String
  ecParams : Bytes
  signMech : MechanismType
  mechName : String
  label : String
  id : Bytes
deriving DecidableEq, Repr

def curves : List Curve :=
  [⟨"P-256", ecP256, .ecdsaSha256, "CKM_ECDSA_SHA256", "sss:0xEF000030", [0xEF, 0x00, 0x00, 0x30]⟩,
    ⟨"P-384", ecP384, .ecdsaSha384, "CKM_ECDSA_SHA384", "sss:0xEF000031",
      [0xEF, 0x00, 0x00, 0x31]⟩,
    ⟨"P-521", ecP521, .ecdsaSha512, "CKM_ECDSA_SHA512", "sss:0xEF000032",
      [0xEF, 0x00, 0x00, 0x32]⟩]

def eccMsg : Bytes := asciiBytes "SE051 PKCS#11 ECC sign/verify test message"

/-- From the key pair of one curve to its `next` label. -/
def signAndVerifyEcc (session : SessionHandle) (signMech : MechanismType) : Body Unit := do
  let rvs ← signInit session ⟨signMech, .null⟩ .hPriv
  skipUnlessOk .next "    [SKIP] C_SignInit: " rvs
  let sig ← issue (.sign session eccMsg 132)
  requireOk .next "    [FAIL] C_Sign: " sig.rv
  printHex "    Signature r||s" sig.buffer.toList sig.length
  let rvv ← verifyInitAndVerify session ⟨signMech, .null⟩ .hPub eccMsg sig
  requireOk .next "    [FAIL] Verify: " rvv
  printf "    Signature: VALID\n"

def eccRound (session : SessionHandle) (curve : Curve) : Body Unit := do
  declare .hPub
  declare .hPriv
  printf s!"  [{curve.curveName} / {curve.mechName}]\n"
  let rvkg ← generateKeyPair session ⟨.ecKeyPairGen, .null⟩
    [.token true, .verify true, .ecParams curve.ecParams, .label curve.label, .id curve.id]
    [.token true, .sign true, .label curve.label, .id curve.id] .hPub .hPriv
  skipUnlessOk .loopEnd "    [SKIP] C_GenerateKeyPair: " rvkg
  printHandles fun h => s!"    C_GenerateKeyPair: hPub={h .hPub} hPriv={h .hPriv}\n"
  exportAndPrint session .hPub .ecPoint 200 "    EC point"
  (signAndVerifyEcc session curve.signMech).upTo .next
  destroy session .hPriv
  destroy session .hPub

def runEcc (session : SessionHandle) : Program cryptoki Int :=
  demo session "--- ECC Key Gen + Sign/Verify ---\n"
    (curves.forM fun curve => (eccRound session curve).upTo .loopEnd)
    []

def rsaMsg : Bytes := asciiBytes "SE051 PKCS#11 RSA sign/verify test message"

def generateKeyPairCall (hPub hPriv : String) : String :=
  s!"p11->C_GenerateKeyPair( session, &mechKG, {hPub}Tmpl, " ++
    s!"sizeof({hPub}Tmpl) / sizeof({hPub}Tmpl[0]), {hPriv}Tmpl, " ++
    s!"sizeof({hPriv}Tmpl) / sizeof({hPriv}Tmpl[0]), "

def pkcs1SignAndVerify (session : SessionHandle) : Body Unit := do
  printf "  [SHA-256 / CKM_SHA256_RSA_PKCS]\n"
  let signing ← signInit session ⟨.sha256RsaPkcs, .null⟩ .hPriv
  ckCheck "p11->C_SignInit(session, &mechPkcs, hPriv)" signing
  let sig ← issue (.sign session rsaMsg 256)
  ckCheck "p11->C_Sign(session, (CK_BYTE_PTR)kMsg, (CK_ULONG)(sizeof(kMsg)-1), sig, &sigLen)"
    sig.rv
  printHex "  PKCS#1 signature" sig.buffer.toList sig.length
  let verifying ← verifyInit session ⟨.sha256RsaPkcs, .null⟩ .hPub
  ckCheck "p11->C_VerifyInit(session, &mechPkcs, hPub)" verifying
  let verified ← issue (.verify session rsaMsg sig.buffer.toList sig.length)
  ckCheck "p11->C_Verify(session, (CK_BYTE_PTR)kMsg, (CK_ULONG)(sizeof(kMsg)-1), sig, sigLen)"
    verified
  printf "  PKCS#1 signature: VALID\n"

def pssSignAndVerify (session : SessionHandle) : Body Unit := do
  printf "  [SHA-256 / CKM_SHA256_RSA_PKCS_PSS]\n"
  let signing ← signInit session ⟨.sha256RsaPkcsPss, .pss .sha256 32⟩ .hPriv
  skipUnlessOk .cleanup "  [SKIP] PSS not supported: " signing
  let sig ← issue (.sign session rsaMsg 256)
  requireOk .cleanup "  [FAIL] C_Sign PSS: " sig.rv
  printHex "  PSS signature" sig.buffer.toList sig.length
  let rvs ← verifyInitAndVerify session ⟨.sha256RsaPkcsPss, .pss .sha256 32⟩ .hPub rsaMsg sig
  requireOk .cleanup "  [FAIL] PSS verify: " rvs
  printf "  PSS signature: VALID\n"

def runRsa (session : SessionHandle) : Program cryptoki Int :=
  demo session "--- RSA-2048 Key Gen + Sign/Verify ---\n"
    (do
      printf "  RSA-2048 keygen (slow, ~2-4 s on SE051)...\n"
      let made ← generateKeyPair session ⟨.rsaPkcsKeyPairGen, .null⟩
        [.token true, .verify true, .encrypt false, .modulusBits 2048, .publicExponent rsaE,
          .label "sss:0xEF000040", .id [0xEF, 0x00, 0x00, 0x40]]
        [.token true, .sign true, .decrypt false, .label "sss:0xEF000040",
          .id [0xEF, 0x00, 0x00, 0x40]] .hPub .hPriv
      ckCheck (generateKeyPairCall "pub" "priv" ++ "&hPub, &hPriv)") made
      printHandles fun h => s!"  hPub={h .hPub}  hPriv={h .hPriv}\n"
      exportAndPrint session .hPub .modulus 256 "  Modulus"
      pkcs1SignAndVerify session
      pssSignAndVerify session)
    [.hPriv, .hPub]

def hmacMsg : Bytes := asciiBytes "SE051 PKCS#11 HMAC test message"

def hmacKey32 : Bytes := List.replicate 32 0x0B

def hmacAlgs : List (MechanismType × String) :=
  [(.sha1Hmac, "CKM_SHA_1_HMAC"), (.sha256Hmac, "CKM_SHA256_HMAC"),
    (.sha384Hmac, "CKM_SHA384_HMAC"), (.sha512Hmac, "CKM_SHA512_HMAC")]

def hmacRound (session : SessionHandle) (alg : MechanismType × String) : Body Unit := do
  let rvs ← signInit session ⟨alg.1, .null⟩ .hKey
  skipUnlessOk .loopEnd s!"  [SKIP] {alg.2}: SignInit " rvs
  let mac ← issue (.sign session hmacMsg 64)
  requireOk .cleanup s!"  [FAIL] {alg.2}: Sign " mac.rv
  printHex s!"  {alg.2}" mac.buffer.toList mac.length
  let rvv ← verifyInitAndVerify session ⟨alg.1, .null⟩ .hKey hmacMsg mac
  requireOk .cleanup s!"  [FAIL] {alg.2} verify: " rvv
  printf s!"  {alg.2}: VALID\n"

def runHmac (session : SessionHandle) : Program cryptoki Int :=
  demo session "--- HMAC Sign/Verify ---\n"
    (do
      let made ← createObject session
        [.objectClass .secretKey, .keyType .genericSecret, .token true, .sign true, .verify true,
          .sensitive false, .value hmacKey32, .label "sss:0xEF000060",
          .id [0xEF, 0x00, 0x00, 0x60]] .hKey
      ckCheck ("p11->C_CreateObject(session, importTmpl, " ++
        "sizeof(importTmpl)/sizeof(importTmpl[0]), &hKey)") made
      printHandles fun h => s!"  HMAC key imported: hKey={h .hKey}\n"
      hmacAlgs.forM fun alg => (hmacRound session alg).upTo .loopEnd)
    [.hKey]

end Se05x.Pkcs11
