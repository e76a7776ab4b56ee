import Se05x.Pkcs11.DemoCommon

/-!
# Module info, random bytes and digests

The demos that create no object.
-/

set_option autoImplicit false

namespace Se05x.Pkcs11

open Der Interaction

def Version.text (version : Version) : String := s!"{version.major}.{version.minor}"

/-- `%.<precision>s`. -/
def clip (precision : Nat) (text : String) : String := String.ofList (text.toList.take precision)

/-- The well-known mechanisms whose names are printed. -/
def known : List (MechanismType × String) :=
  [(.rsaPkcsKeyPairGen, "CKM_RSA_PKCS_KEY_PAIR_GEN"),
    (.rsaPkcs, "CKM_RSA_PKCS"),
    (.sha256RsaPkcs, "CKM_SHA256_RSA_PKCS"),
    (.sha256RsaPkcsPss, "CKM_SHA256_RSA_PKCS_PSS"),
    (.rsaPkcsOaep, "CKM_RSA_PKCS_OAEP"),
    (.ecKeyPairGen, "CKM_EC_KEY_PAIR_GEN"),
    (.ecdsa, "CKM_ECDSA"),
    (.ecdsaSha256, "CKM_ECDSA_SHA256"),
    (.ecdh1Derive, "CKM_ECDH1_DERIVE"),
    (.aesKeyGen, "CKM_AES_KEY_GEN"),
    (.aesEcb, "CKM_AES_ECB"),
    (.aesCbc, "CKM_AES_CBC"),
    (.sha256Hmac, "CKM_SHA256_HMAC"),
    (.sha256, "CKM_SHA256"),
    (.genericSecretKeyGen, "CKM_GENERIC_SECRET_KEY_GEN")]

def className : ObjectClass → String
  | .publicKey => "PUBLIC_KEY"
  | .privateKey => "PRIVATE_KEY"
  | .secretKey => "SECRET_KEY"
  | .certificate => "CERTIFICATE"
  | .data => "DATA"
  | .other _ => "other"

def printMechanism (mechanism : Nat) : Body Unit :=
  match known.find? fun entry => entry.1.code == mechanism with
  | some entry => printf s!"      {hex mechanism}  {entry.2}\n"
  | none => pure ()

def printMechanisms (slot : SlotId) : Body Unit := do
  let mechCount ← issue (.countMechanisms slot)
  if mechCount.rv = ckrOk ∧ mechCount.count > 0 then do
    printf s!"    Mechanisms : {mechCount.count}\n"
    let mechBuf ← issue (.getMechanismList slot (min mechCount.count 128))
    if mechBuf.rv = ckrOk then
      (List.range mechBuf.count).forM fun m => do
        let mechanism ← Procedure.invoke (readCell .mechBuf mechBuf.cells m)
        printMechanism mechanism
    else pure ()
  else pure ()

def printSlotInfo (slotInfo : SlotInfo) : Body Unit :=
  if slotInfo.rv = ckrOk then do
    printf s!"    Slot desc  : {clip 64 slotInfo.slotDescription}\n"
    printf s!"    HW version : {slotInfo.hardwareVersion.text}  FW: {slotInfo.firmwareVersion.text}\n"
  else pure ()

def printTokenInfo (tokenInfo : TokenInfo) : Body Unit :=
  if tokenInfo.rv = ckrOk then do
    printf s!"    Token label: {clip 32 tokenInfo.label}\n"
    printf s!"    Manufacturer:{clip 32 tokenInfo.manufacturerID}\n"
    printf s!"    Model      : {clip 16 tokenInfo.model}\n"
  else pure ()

def printSlot {capacity : Nat} (slots : Vector (Option Nat) capacity) (i : Nat) : Body Unit := do
  let slot ← Procedure.invoke (readCell .slots slots i)
  printf s!"\n  == Slot {i} (ID {slot}) ==\n"
  printSlotInfo (← issue (.getSlotInfo slot))
  printTokenInfo (← issue (.getTokenInfo slot))
  printMechanisms slot

def printObject (session : SessionHandle) (handles : Vector (Option Nat) 64) (i : Nat) :
    Body Unit := do
  let handle ← Procedure.invoke (readCell .handles handles i)
  let cls ← issue (.getObjectClass session handle)
  let clsName := if cls.rv = ckrOk then className cls.cls else "unknown"
  printf s!"    handle={handle}  class={clsName}\n"

def runModuleInfo (session : SessionHandle) : Program cryptoki Int :=
  demo session "--- Module Info ---\n"
    (do
      let libInfo ← issue .getInfo
      ckCheck "p11->C_GetInfo(&libInfo)" libInfo.rv
      printf s!"  Manufacturer : {clip 32 libInfo.manufacturerID}\n"
      printf s!"  Description  : {clip 32 libInfo.libraryDescription}\n"
      printf s!"  Version      : {libInfo.libraryVersion.text}\n"
      printf s!"  PKCS#11 spec : {libInfo.cryptokiVersion.text}\n"
      let allSlotCount ← issue (.countSlots false)
      ckCheck "p11->C_GetSlotList(CK_FALSE, NULL_PTR, &allSlotCount)" allSlotCount.rv
      printf s!"  Slots total  : {allSlotCount.count}\n"
      let tokenSlotCount ← issue (.countSlots true)
      ckCheck "p11->C_GetSlotList(CK_TRUE, NULL_PTR, &tokenSlotCount)" tokenSlotCount.rv
      printf s!"  Slots w/token: {tokenSlotCount.count}\n"
      if tokenSlotCount.count = 0 then do
        printf "  (no token present — is the SE connected?)\n"
        throw .cleanup
      else do
        let slots ← issue (.getSlotList true (min tokenSlotCount.count 8))
        ckCheck "p11->C_GetSlotList(CK_TRUE, slots, &tokenSlotCount)" slots.rv
        (List.range slots.count).forM (printSlot slots.cells)
        printf "\n  == Objects in current session ==\n"
        let searching ← issue (.findObjectsInit session)
        ckCheck "p11->C_FindObjectsInit(session, NULL_PTR, 0)" searching
        let handles ← issue (.findObjects session 64)
        let _ ← issue (.findObjectsFinal session)
        printf s!"    Objects found: {handles.count}\n"
        (List.range handles.count).forM (printObject session handles.cells))
    []

def randomSizes : List Nat := [1, 16, 32, 64, 128, 512, 1024]

def runRandomGen (session : SessionHandle) : Program cryptoki Int :=
  demo session "--- Hardware RNG ---\n"
    (randomSizes.forM fun len => do
      let random ← issue (.generateRandom session len)
      ckCheck "p11->C_GenerateRandom(session, buf, len)" random.rv
      printHex ("random " ++ padLeft 4 ' ' (toString len) ++ " bytes") random.buffer.toList len)
    []

def digestMsg : Bytes := asciiBytes "SE051 PKCS#11 digest test"

def digestAlgs : List (MechanismType × String) :=
  [(.sha1, "SHA-1"), (.sha224, "SHA-224"), (.sha256, "SHA-256"), (.sha384, "SHA-384"),
    (.sha512, "SHA-512")]

def digestRound (session : SessionHandle) (alg : MechanismType × String) : Body Unit := do
  let rv ← issue (.digestInit session ⟨alg.1, .null⟩)
  skipUnlessOk .loopEnd s!"  [SKIP] {alg.2}: C_DigestInit " rv
  let digest ← issue (.digest session digestMsg 64)
  requireOk .cleanup s!"  [FAIL] {alg.2}: C_Digest " digest.rv
  printHex s!"{alg.2} digest" digest.buffer.toList digest.length

def runDigest (session : SessionHandle) : Program cryptoki Int :=
  demo session "--- Message Digest ---\n"
    (digestAlgs.forM fun alg => (digestRound session alg).upTo .loopEnd)
    []

end Se05x.Pkcs11
