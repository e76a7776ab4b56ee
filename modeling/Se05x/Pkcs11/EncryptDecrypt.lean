import Se05x.Pkcs11.SignVerify

/-!
# Encrypting and decrypting

AES in two modes under one key, then RSA-OAEP. Every decryption is compared with what was
encrypted.
-/

set_option autoImplicit false

namespace Se05x.Pkcs11

open Der Interaction

def plain : Bytes := asciiBytes "SE051 PKCS#11 encrypt demo!!!!!!"
def plain16 : Bytes := asciiBytes "SE051 AES test!!"

/-- The length, then `memcmp` over it. -/
def roundtrips {capacity : Nat} (output : Output capacity) (original : Bytes) : Bool :=
  output.length = original.length ∧ output.buffer.toList.take original.length = original

/-- What the suite prints for one cipher mode. -/
structure CipherMode where
  name : String
  mechName : String
  mechanism : Mechanism
deriving DecidableEq, Repr

def aesEcbMode : CipherMode := ⟨"AES-ECB", "mechEcb", ⟨.aesEcb, .null⟩⟩
def aesCbcMode : CipherMode := ⟨"AES-CBC", "mechCbc", ⟨.aesCbc, .iv (List.replicate 16 0)⟩⟩

def aesDecrypt (session : SessionHandle) (mode : CipherMode) (ct : Output 64) : Body Unit := do
  let decrypting ← decryptInit session mode.mechanism .hAes
  ckCheck s!"p11->C_DecryptInit(session, &{mode.mechName}, hAes)" decrypting
  let pt2 ← issue (.decrypt session ct.buffer.toList ct.length 64)
  ckCheck "p11->C_Decrypt(session, ct, ctLen, pt2, &pt2Len)" pt2.rv
  if roundtrips pt2 plain16 then printf s!"  {mode.name} roundtrip: OK\n"
  else do
    markFailed s!"  [FAIL] {mode.name} roundtrip mismatch\n"
    throw .cleanup

def aesRoundtrip (session : SessionHandle) (mode : CipherMode) : Body Unit := do
  printf s!"  [{mode.name}]\n"
  let encrypting ← encryptInit session mode.mechanism .hAes
  ckCheck s!"p11->C_EncryptInit(session, &{mode.mechName}, hAes)" encrypting
  let ct ← issue (.encrypt session plain16 64)
  ckCheck "p11->C_Encrypt(session, (CK_BYTE_PTR)kPlain16, sizeof(kPlain16), ct, &ctLen)" ct.rv
  printHex "  CT" ct.buffer.toList ct.length
  aesDecrypt session mode ct

def oaep : Mechanism := ⟨.rsaPkcsOaep, .oaep .sha256⟩

/-- A decryption that fails to start gives the code of its start. -/
def oaepDecrypt (session : SessionHandle) (rsaCt : Output 256) : Body Unit := do
  let decrypting ← decryptInit session oaep .hRsaPriv
  if decrypting = ckrOk then do
    let rsaPt ← issue (.decrypt session rsaCt.buffer.toList rsaCt.length 256)
    if rsaPt.rv ≠ ckrOk then markFailed s!"  [FAIL] RSA OAEP Decrypt: {hex rsaPt.rv}\n"
    else if roundtrips rsaPt plain then printf "  RSA-OAEP roundtrip: OK\n"
    else markFailed "  [FAIL] RSA-OAEP plaintext mismatch\n"
  else markFailed s!"  [FAIL] RSA OAEP Decrypt: {hex decrypting}\n"

def oaepRoundtrip (session : SessionHandle) : Body Unit := do
  let encrypting ← encryptInit session oaep .hRsaPub
  if encrypting ≠ ckrOk then printf s!"  [SKIP] RSA OAEP EncryptInit: {hex encrypting}\n"
  else do
    let rsaCt ← issue (.encrypt session plain 256)
    if rsaCt.rv ≠ ckrOk then markFailed s!"  [FAIL] RSA OAEP Encrypt: {hex rsaCt.rv}\n"
    else do
      printHex "  RSA-OAEP CT" rsaCt.buffer.toList rsaCt.length
      oaepDecrypt session rsaCt

def rsaOaep (session : SessionHandle) : Body Unit := do
  printf "  [RSA-OAEP]\n"
  declare .hRsaPub
  declare .hRsaPriv
  printf "  RSA-2048 keygen (slow)...\n"
  let rvkg ← generateKeyPair session ⟨.rsaPkcsKeyPairGen, .null⟩
    [.token true, .encrypt true, .modulusBits 2048, .publicExponent rsaE, .label "sss:0xEF000051",
      .id [0xEF, 0x00, 0x00, 0x51]]
    [.token true, .decrypt true, .label "sss:0xEF000051", .id [0xEF, 0x00, 0x00, 0x51]]
    .hRsaPub .hRsaPriv
  skipUnlessOk .cleanup "  [SKIP] RSA keygen: " rvkg
  printHandles fun h => s!"  hRsaPub={h .hRsaPub} hRsaPriv={h .hRsaPriv}\n"
  oaepRoundtrip session
  destroy session .hRsaPriv
  destroy session .hRsaPub

def runEncryptDecrypt (session : SessionHandle) : Program cryptoki Int :=
  demo session "--- Encrypt / Decrypt ---\n"
    (do
      let made ← generateKey session ⟨.aesKeyGen, .null⟩
        [.token true, .encrypt true, .decrypt true, .sensitive false, .valueLen 16,
          .label "sss:0xEF000050", .id [0xEF, 0x00, 0x00, 0x50]] .hAes
      ckCheck "p11->C_GenerateKey(session, &mech, tmpl, sizeof(tmpl)/sizeof(tmpl[0]), &hAes)" made
      printHandles fun h => s!"  AES-128 key generated: hAes={h .hAes}\n"
      aesRoundtrip session aesEcbMode
      aesRoundtrip session aesCbcMode
      destroy session .hAes
      rsaOaep session)
    [.hAes]

end Se05x.Pkcs11
