import Se05x.Pkcs11.DemoCommon

/-!
# Key generation and import

Each object is destroyed in the block that made it.
-/

set_option autoImplicit false

namespace Se05x.Pkcs11

open Der Interaction

structure AesKey where
  len : Nat
  label : String
  id : Bytes
deriving DecidableEq, Repr

def aesKeys : List AesKey :=
  [⟨16, "sss:0xEF0000B0", [0xEF, 0x00, 0x00, 0xB0]⟩,
    ⟨24, "sss:0xEF0000B1", [0xEF, 0x00, 0x00, 0xB1]⟩,
    ⟨32, "sss:0xEF0000B2", [0xEF, 0x00, 0x00, 0xB2]⟩]

def generateKeyCall : String :=
  "p11->C_GenerateKey(session, &mech, tmpl, sizeof(tmpl)/sizeof(tmpl[0]), &hKey)"

def createObjectCall (h : String) : String :=
  s!"p11->C_CreateObject(session, tmpl, sizeof(tmpl)/sizeof(tmpl[0]), &{h})"

/-- Make a key, print its handle and destroy it again. -/
def makeAndDestroy (session : SessionHandle) (heading : String) (h : HandleVar) (call : String)
    (make : Body CkRv) (inspect : Body Unit) : Body Unit := do
  declare h
  printf heading
  ckCheck call (← make)
  inspect
  destroy session h

def runSymKeyGen (session : SessionHandle) : Program cryptoki Int :=
  demo session "--- Symmetric Key Generation ---\n"
    (do
      aesKeys.forM fun key =>
        makeAndDestroy session s!"  AES-{key.len * 8} ({key.label}):\n" .hKey generateKeyCall
          (generateKey session ⟨.aesKeyGen, .null⟩
            [.token true, .encrypt true, .decrypt true, .sensitive false, .valueLen key.len,
              .label key.label, .id key.id] .hKey)
          (printHandles fun h => s!"    hKey = {h .hKey}\n")
      makeAndDestroy session "  GenericSecret-256 (sss:0xEF0000B3):\n" .hKey generateKeyCall
        (generateKey session ⟨.genericSecretKeyGen, .null⟩
          [.token true, .sign true, .verify true, .valueLen 32, .label "sss:0xEF0000B3",
            .id [0xEF, 0x00, 0x00, 0xB3]] .hKey)
        (printHandles fun h => s!"    hKey = {h .hKey}\n"))
    []

def aesKeyBytes : Bytes :=
  [0x00, 0x01, 0x02, 0x03, 0x04, 0x05, 0x06, 0x07, 0x08, 0x09, 0x0A, 0x0B, 0x0C, 0x0D, 0x0E, 0x0F]

def secretKeyBytes : Bytes :=
  [0xDE, 0xAD, 0xBE, 0xEF, 0xCA, 0xFE, 0xBA, 0xBE, 0x01, 0x23, 0x45, 0x67, 0x89, 0xAB, 0xCD, 0xEF,
    0xFE, 0xDC, 0xBA, 0x98, 0x76, 0x54, 0x32, 0x10, 0x11, 0x22, 0x33, 0x44, 0x55, 0x66, 0x77, 0x88]

/-- An uncompressed point in an OCTET STRING. -/
def ecPointBytes : Bytes :=
  [0x04, 0x41, 0x04,
    0x60, 0xFE, 0xD4, 0xBA, 0x25, 0x5A, 0x9D, 0x31, 0xC9, 0x61, 0xEB, 0x74, 0xC6, 0x35, 0x6D, 0x68,
    0xC0, 0x49, 0xB8, 0x92, 0x3B, 0x61, 0xFA, 0x6C, 0xE6, 0x69, 0x62, 0x2E, 0x60, 0xF2, 0x9F, 0xB6,
    0x79, 0x03, 0xFE, 0x10, 0x08, 0xB8, 0xBC, 0x99, 0xA4, 0x1A, 0xE9, 0xE9, 0x56, 0x28, 0xBC, 0x64,
    0xF2, 0xF1, 0xB2, 0x0C, 0x2D, 0x7E, 0x9F, 0x51, 0x77, 0xA3, 0xC2, 0x94, 0xD4, 0x46, 0x22, 0x99]

def runImportObject (session : SessionHandle) : Program cryptoki Int :=
  demo session "--- Import Object (C_CreateObject) ---\n"
    (do
      makeAndDestroy session "  AES-128 import (sss:0xEF000082):\n" .hKey (createObjectCall "hKey")
        (createObject session
          [.objectClass .secretKey, .keyType .aes, .token true, .encrypt true, .decrypt true,
            .sensitive false, .value aesKeyBytes, .label "sss:0xEF000082",
            .id [0xEF, 0x00, 0x00, 0x82]] .hKey)
        (printHandles fun h => s!"    hKey = {h .hKey}\n")
      makeAndDestroy session "  GenericSecret-256 (sss:0xEF000083):\n" .hKey (createObjectCall "hKey")
        (createObject session
          [.objectClass .secretKey, .keyType .genericSecret, .token true, .sign true, .verify true,
            .sensitive false, .value secretKeyBytes, .label "sss:0xEF000083",
            .id [0xEF, 0x00, 0x00, 0x83]] .hKey)
        (printHandles fun h => s!"    hKey = {h .hKey}\n")
      makeAndDestroy session "  EC P-256 public key import (sss:0xEF000080):\n" .hPub
        (createObjectCall "hPub")
        (createObject session
          [.objectClass .publicKey, .keyType .ec, .token true, .verify true, .ecParams ecP256,
            .ecPoint ecPointBytes, .label "sss:0xEF000080", .id [0xEF, 0x00, 0x00, 0x80]] .hPub)
        (do
          printHandles fun h => s!"    hPub = {h .hPub}\n"
          exportAndPrint session .hPub .ecParams 16 "  EC_PARAMS readback"))
    []

end Se05x.Pkcs11
