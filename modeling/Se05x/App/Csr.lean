import Se05x.App.SignVerify

/-!
# Certification requests of the demos

Both demos write the request backwards with a running length, like the C++ program, but
with library writers for the raw parts and an early return after every failing one.
-/

set_option autoImplicit false

namespace Se05x.App

open Der Interaction

def asn1ContextSpecific : UInt8 := 0x80
def asn1Constructed : UInt8 := 0x20
def asn1Sequence : UInt8 := 0x10

def subject : String := "CN=SE051-Demo"

/-- `MBEDTLS_ASN1_CHK_ADD`. -/
def chkAdd (len : Nat) (result : Int × Buffer) : Except Exit (Nat × Buffer) :=
  if result.1 < 0 then .error (.leave result.1) else .ok (len + result.1.toNat, result.2)

variable (mbedtls : Mbedtls)

/-- The CertificationRequestInfo, in a buffer of the given size. -/
def buildCri (size : Nat) (spki : Bytes) : Except Exit Bytes := do
  let (len, p) ← chkAdd 0 (mbedtls.asn1WriteLen 0 (Buffer.zeroed size))
  let (len, p) ← chkAdd len (mbedtls.asn1WriteTag (asn1ContextSpecific ||| asn1Constructed ||| 0) p)
  let (len, p) ← chkAdd len (mbedtls.asn1WriteRawBuffer spki p)
  match mbedtls.x509StringToNames subject with
  | none => .error .fail
  | some names =>
    let (r, p) := mbedtls.x509WriteNames names p
    if r < 0 then .error .fail
    else
      let len := len + r.toNat
      let (len, p) ← chkAdd len (mbedtls.asn1WriteInt 0 p)
      let (len, p) ← chkAdd len (mbedtls.asn1WriteLen len p)
      let (len, p) ← chkAdd len (mbedtls.asn1WriteTag (asn1Constructed ||| asn1Sequence) p)
      return p.slice len

/-- The CertificationRequest around a signed CertificationRequestInfo. -/
def assembleCsr (size : Nat) (algorithmIdentifier : Writer) (cri sig : Bytes) :
    Except Exit Bytes := do
  let (len, p) ← chkAdd 0 (mbedtls.asn1WriteBitstring sig (sig.length * 8) (Buffer.zeroed size))
  let (len, p) ← chkAdd len (algorithmIdentifier p)
  let (len, p) ← chkAdd len (mbedtls.asn1WriteRawBuffer cri p)
  let (len, p) ← chkAdd len (mbedtls.asn1WriteLen len p)
  let (len, p) ← chkAdd len (mbedtls.asn1WriteTag (asn1Constructed ||| asn1Sequence) p)
  return p.slice len

/-- What differs between the two demos. -/
structure CsrDemo where
  name : String
  keyId : KeyId
  algorithm : Algorithm
  spkiSize : Nat
  sigSize : Nat
  criSize : Nat
  csrSize : Nat
  pemSize : Nat
  algorithmIdentifier : Writer
  derPath : String
  pemPath : String

def ecCsr : CsrDemo where
  name := "EC"
  keyId := demoKeyEcAlice
  algorithm := .ecdsaSha256
  spkiSize := ecPubBufLen
  sigSize := ecSigBufLen
  criSize := 512
  csrSize := 1024
  pemSize := 1024
  algorithmIdentifier := mbedtls.asn1WriteAlgorithmIdentifierExt ecdsaWithSha256 0 false
  derPath := "/tmp/ec_csr.der"
  pemPath := "/tmp/ec_csr.pem"

def rsaCsr : CsrDemo where
  name := "RSA"
  keyId := demoKeyRsa
  algorithm := .rsassaPkcs1V15Sha256
  spkiSize := rsaPubBufLen
  sigSize := rsaSigBufLen
  criSize := 1024
  csrSize := 2048
  pemSize := 2048
  algorithmIdentifier := mbedtls.asn1WriteAlgorithmIdentifier sha256WithRsaEncryption 0
  derPath := "/tmp/rsa_csr.der"
  pemPath := "/tmp/rsa_csr.pem"

/-- A file that cannot be opened is skipped. -/
def saveFile (path : String) (bytes : Bytes) : Body Unit := do
  let _ ← issue (.writeFile path bytes)

/-- A request too long for the PEM buffer is reported as written all the same. -/
def savePem (csrDemo : CsrDemo) (csr : Bytes) : Body Unit := do
  match mbedtls.pemWriteBuffer "-----BEGIN CERTIFICATE REQUEST-----\n"
      "-----END CERTIFICATE REQUEST-----\n" csr csrDemo.pemSize with
  | none => pure ()
  | some (pem, pemLen) =>
    let text := (pem.takeWhile (· ≠ 0)).map fun letter => Char.ofNat letter.toNat
    logInfo (csrDemo.name ++ " CSR PEM:\n" ++ String.ofList text)
    saveFile csrDemo.pemPath (pem.take pemLen)

def requestCsr (csrDemo : CsrDemo) : Program host SssStatus :=
  demo
    (do
      logInfo ("=== " ++ csrDemo.name ++ " CSR (PKCS#10) ===")
      getKeyHandle csrDemo.keyId
      let (st, spki) ← sss (.keyStoreGetKey (.existing csrDemo.keyId) csrDemo.spkiSize)
      ensure st
      let cri ← liftExcept (buildCri mbedtls csrDemo.criSize spki.val)
      match mbedtls.sha256Ret cri with
      | none => throw .fail
      | some hash =>
        let signing := ⟨.existing csrDemo.keyId, csrDemo.algorithm, .sign⟩
        openAsym signing
        let (st, sig) ← sss (.asymmetricSignDigest signing hash.toList csrDemo.sigSize)
        ensure st
        closeAsym
        let csr ← liftExcept
          (assembleCsr mbedtls csrDemo.csrSize csrDemo.algorithmIdentifier cri sig.val)
        logBytes (csrDemo.name ++ " CSR DER") csr
        saveFile csrDemo.derPath csr
        savePem mbedtls csrDemo csr
        logInfo (csrDemo.name ++ " CSR written to " ++ csrDemo.derPath ++ " and " ++
          csrDemo.pemPath)
        logInfo ("Verify: openssl req -in " ++ csrDemo.pemPath ++ " -noout -text")
        logInfo (csrDemo.name ++ " CSR OK")
        modify fun l => { l with status := .success })
    (fun l => do
      ask (.sss (.asymmetricContextFree l.asym))
      ask (.sss (.keyObjectFree l.keyPair))
      reportFailure l (csrDemo.name ++ " CSR FAILED"))

def demoEcCsr : Program host SssStatus := requestCsr mbedtls (ecCsr mbedtls)

def demoRsaCsr : Program host SssStatus := requestCsr mbedtls (rsaCsr mbedtls)

end Se05x.App
