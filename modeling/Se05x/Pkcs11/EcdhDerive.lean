import Se05x.Pkcs11.SignVerify

/-!
# ECDH key derivation

Two key pairs on the element, a shared secret derived from each side, and a comparison of
what the module exports of them.
-/

set_option autoImplicit false

namespace Se05x.Pkcs11

open Der Interaction

def ecdhKeyPair (session : SessionHandle) (label : String) (id : Bytes)
    (phPub phPriv : HandleVar) : Body CkRv :=
  generateKeyPair session ⟨.ecKeyPairGen, .null⟩
    [.token true, .ecParams ecP256, .label label, .id id]
    [.token true, .derive true, .label label, .id id] phPub phPriv

def derivedTmpl : Template :=
  [.objectClass .secretKey, .keyType .genericSecret, .token false, .sensitive false,
    .extractable true, .valueLen 32]

/-- Lengths, then `memcmp` over the length: past the buffer it would be undefined. -/
def sharedSecretsMatch (shared1 shared2 : Output 32) : Bool :=
  shared1.length = shared2.length ∧ shared1.bytes = shared2.buffer.toList.take shared1.length

def printAliceSecret (shared1 : Output 32) : Body Unit :=
  if shared1.rv = ckrOk then
    printHex "  Shared (Alice side)" shared1.buffer.toList shared1.length
  else printf "  (Alice shared secret not extractable — stored on SE)\n"

def exportAliceSecret (session : SessionHandle) : Body (Output 32) := do
  printHandles fun h => s!"  [OK]   C_DeriveKey (Alice): hShared1={h .hShared1}\n"
  let shared1 ← getAttributeValue session .hShared1 .value 32
  printAliceSecret shared1
  return shared1

def compareSecrets (session : SessionHandle) (shared1 : Output 32) : Body Unit := do
  printHandles fun h => s!"  [OK]   C_DeriveKey (Bob): hShared2={h .hShared2}\n"
  let shared2 ← getAttributeValue session .hShared2 .value 32
  if shared2.rv = ckrOk then do
    printHex "  Shared (Bob   side)" shared2.buffer.toList shared2.length
    if sharedSecretsMatch shared1 shared2 then printf "  Shared secrets MATCH: ECDH OK\n"
    else printf "  (Cannot compare — one side not extractable or mismatch)\n"
  else printf "  (Bob shared secret not extractable — stored on SE)\n"

def runEcdhDerive (session : SessionHandle) : Program cryptoki Int :=
  demo session "--- ECDH Key Derivation ---\n"
    (do
      let alice ← ecdhKeyPair session "sss:0xEF000070" [0xEF, 0x00, 0x00, 0x70] .hAlicePub
        .hAlicePriv
      ckCheck (generateKeyPairCall "alicePub" "alicePriv" ++ "&hAlicePub, &hAlicePriv)") alice
      printHandles fun h => s!"  Alice key pair: hPub={h .hAlicePub} hPriv={h .hAlicePriv}\n"
      let bob ← ecdhKeyPair session "sss:0xEF000071" [0xEF, 0x00, 0x00, 0x71] .hBobPub .hBobPriv
      ckCheck (generateKeyPairCall "bobPub" "bobPriv" ++ "&hBobPub, &hBobPriv)") bob
      printHandles fun h => s!"  Bob   key pair: hPub={h .hBobPub} hPriv={h .hBobPriv}\n"
      let bobEcPoint ← getAttributeValue session .hBobPub .ecPoint 200
      ckCheck "p11->C_GetAttributeValue(session, hBobPub, &bobEcPointAttr, 1)" bobEcPoint.rv
      printHex "  Bob EC point" bobEcPoint.buffer.toList bobEcPoint.length
      let aliceEcPoint ← getAttributeValue session .hAlicePub .ecPoint 200
      ckCheck "p11->C_GetAttributeValue(session, hAlicePub, &aliceEcPointAttr, 1)" aliceEcPoint.rv
      let derived1 ← deriveKey session
        ⟨.ecdh1Derive, .ecdh1 bobEcPoint.length bobEcPoint.buffer.toList⟩ .hAlicePriv derivedTmpl
        .hShared1
      skipUnlessOk .cleanup "  [SKIP] C_DeriveKey (Alice): " derived1
      let shared1 ← exportAliceSecret session
      let derived2 ← deriveKey session
        ⟨.ecdh1Derive, .ecdh1 aliceEcPoint.length aliceEcPoint.buffer.toList⟩ .hBobPriv derivedTmpl
        .hShared2
      skipUnlessOk .cleanup "  [SKIP] C_DeriveKey (Bob): " derived2
      compareSecrets session shared1)
    [.hShared2, .hShared1, .hBobPriv, .hBobPub, .hAlicePriv, .hAlicePub]

end Se05x.Pkcs11
