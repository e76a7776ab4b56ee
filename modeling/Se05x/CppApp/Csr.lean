import Se05x.CppApp.Exception
import Se05x.Interaction.Program
import Se05x.Mbedtls
import Se05x.Target

/-!
# Certification request assembly

The request is written backwards into fixed buffers. A running length is kept by hand
beside the cursor and decides which slice is returned.
-/

set_option autoImplicit false

namespace Se05x.CppApp

open Der Interaction

def asn1ContextSpecific : UInt8 := 0x80
def asn1Constructed : UInt8 := 0x20
def asn1Sequence : UInt8 := 0x10

/-- The part of a `std::string` that a C function sees. -/
def cStr (text : String) : String := String.ofList (text.toList.takeWhile (· ≠ '\x00'))

/-- `CHK`: throw on a negative result, add it to the running length otherwise. -/
def chk (len : Int) (result : Int × Buffer) : Except CppException (Int × Buffer) :=
  if result.1 < 0 then .error (cryptoError "mbedtls ASN.1 write failed")
  else .ok (len + result.1, result.2)

variable (mbedtls : Mbedtls)

def buildCri (subjectDn : String) (spki : Bytes) : Except CppException Bytes := do
  let c := Buffer.zeroed 4096
  let len := 0
  let names ← match mbedtls.x509StringToNames (cStr subjectDn) with
    | none => .error (cryptoError ("invalid subject DN: " ++ subjectDn))
    | some names => .ok names
  let (len, c) ← chk len (mbedtls.asn1WriteLen 0 c)
  let (len, c) ← chk len (mbedtls.asn1WriteTag (asn1ContextSpecific ||| asn1Constructed ||| 0) c)
  if c.cursor < spki.length then
    .error (cryptoError "CSR buffer too small for public key")
  else
    let c := c.copyBefore spki
    let len := len + spki.length
    let (r, c) := mbedtls.x509WriteNames names c
    if r < 0 then
      .error (cryptoError "x509_write_names failed")
    else
      let len := len + r
      let (len, c) ← chk len (mbedtls.asn1WriteInt 0 c)
      let (len, c) ← chk len (mbedtls.asn1WriteLen len.toNat c)
      let (len, c) ← chk len (mbedtls.asn1WriteTag (asn1Constructed ||| asn1Sequence) c)
      return c.slice len.toNat

/-- The identifier is written with a length of its own, returned to the caller. -/
def writeSigAlgId (c : Buffer) (isEc : Bool) : Except CppException (Int × Buffer) := do
  let len := 0
  if isEc then
    let (len, c) ← chk len (mbedtls.asn1WriteOid ecdsaWithSha256 c)
    let (len, c) ← chk len (mbedtls.asn1WriteLen len.toNat c)
    chk len (mbedtls.asn1WriteTag (asn1Constructed ||| asn1Sequence) c)
  else
    chk len (mbedtls.asn1WriteAlgorithmIdentifier sha256WithRsaEncryption 0 c)

def pemHeader : String := "-----BEGIN CERTIFICATE REQUEST-----\n"
def pemFooter : String := "-----END CERTIFICATE REQUEST-----\n"

def toPem (der : Bytes) : Except CppException Bytes :=
  match mbedtls.pemWriteBuffer pemHeader pemFooter der (der.length * 2 + 256) with
  | none => .error (cryptoError "pem_write_buffer failed")
  | some (pem, olen) => .ok (pem.take olen)

/-- `assembleCsr` up to the DER it hands to `toPem`. The bit count is a `size_t`. -/
def assembleDer (target : Target) (cri signature : Bytes) (isEc : Bool) :
    Except CppException Bytes := do
  let c := Buffer.zeroed 8192
  let len := 0
  let (len, c) ← chk len
    (mbedtls.asn1WriteBitstring signature (target.wrap (signature.length * 8)) c)
  let (written, c) ← writeSigAlgId mbedtls c isEc
  let len := len + written
  if c.cursor < cri.length then
    .error (cryptoError "CSR buffer too small for CRI")
  else
    let c := c.copyBefore cri
    let len := len + cri.length
    let (len, c) ← chk len (mbedtls.asn1WriteLen len.toNat c)
    let (len, c) ← chk len (mbedtls.asn1WriteTag (asn1Constructed ||| asn1Sequence) c)
    return c.slice len.toNat

def assembleCsr (target : Target) (cri signature : Bytes) (isEc : Bool) :
    Except CppException Bytes := do
  let der ← assembleDer mbedtls target cri signature isEc
  toPem mbedtls der

/-- The signing function may call the environment; nothing else here does. -/
def makeCsrImpl {I : Interface} (target : Target) (subjectDn : String) (spki : Bytes)
    (sign : Bytes → ExceptT CppException (Program I) Bytes) (isEc : Bool) :
    ExceptT CppException (Program I) Bytes := do
  let cri ← liftExcept (buildCri mbedtls subjectDn spki)
  match mbedtls.sha256Ret cri with
  | none => throw (cryptoError "sha256 over CRI failed")
  | some digest =>
    let sig ← sign digest.toList
    liftExcept (assembleCsr mbedtls target cri sig isEc)

end Se05x.CppApp
