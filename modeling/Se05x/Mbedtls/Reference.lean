import Se05x.Mbedtls
import Se05x.Mbedtls.Sha256

/-!
# A library that behaves as documented

Writers that prepend whenever there is room, over a Name that is kept as its DER.
-/

set_option autoImplicit false

namespace Se05x.Mbedtls

open Der

def errAsn1BufTooSmall : Int := -0x6C
def errAsn1InvalidLength : Int := -0x64

def demoSubject : String := "CN=SE051-Demo"

/-- The Name of the one subject this library parses. -/
def demoName : Bytes :=
  element sequenceTag (element 0x31 (element sequenceTag
    (element oidTag [0x55, 0x04, 0x03] ++ element 0x0C (asciiBytes "SE051-Demo"))))

/-- The last byte loses its unused bits. -/
def maskLast (unused : Nat) (bytes : Bytes) : Bytes :=
  if unused = 0 then bytes
  else bytes.dropLast ++ bytes.getLast?.toList.map fun last =>
    UInt8.ofNat (last.toNat / 2 ^ unused * 2 ^ unused)

def bitstringContent (bytes : Bytes) (bits : Nat) : Bytes :=
  let count := (bits + 7) / 8
  let unused := count * 8 - bits
  UInt8.ofNat unused :: maskLast unused (bytes.take count)

def algorithmContent (oid : Bytes) (parLen : Nat) (hasPar : Bool) : Bytes :=
  let own := element oidTag oid ++ if hasPar && parLen == 0 then element nullTag [] else []
  sequenceTag :: (lengthOctets (own.length + parLen) ++ own)

def demo : Mbedtls where
  Names := Bytes
  x509StringToNames subject := if subject = demoSubject then some demoName else none
  x509WriteNames names := Writer.prepending names errAsn1BufTooSmall
  asn1WriteLen length :=
    if length < 2 ^ 32 then Writer.prepending (lengthOctets length) errAsn1BufTooSmall
    else fun buffer => (errAsn1InvalidLength, buffer)
  asn1WriteTag tag := Writer.prepending [tag] errAsn1BufTooSmall
  asn1WriteInt value :=
    Writer.prepending (element integerTag (naturalContent value)) errAsn1BufTooSmall
  asn1WriteOid oid := Writer.prepending (element oidTag oid) errAsn1BufTooSmall
  asn1WriteBitstring bytes bits :=
    Writer.prepending (element bitStringTag (bitstringContent bytes bits)) errAsn1BufTooSmall
  asn1WriteAlgorithmIdentifier oid parLen :=
    Writer.prepending (algorithmContent oid parLen true) errAsn1BufTooSmall
  asn1WriteAlgorithmIdentifierExt oid parLen hasPar :=
    Writer.prepending (algorithmContent oid parLen hasPar) errAsn1BufTooSmall
  asn1WriteRawBuffer bytes := Writer.prepending bytes errAsn1BufTooSmall
  sha256Ret data := some (Sha256.hash data)
  pemWriteBuffer header footer der capacity :=
    if pemRoom header footer der ≤ capacity then
      some (pemText header footer der ++ 0 ::
        List.replicate (capacity - (pemText header footer der).length - 1) 0,
        (pemText header footer der).length + 1)
    else none

/-- A Name is its DER. -/
def demoNameDer : demo.Names → Bytes := id

/-- Each listed writer is the one that prepends its encoding whenever it fits. -/
theorem demo_writer {writer : Writer} {der : Bytes}
    (encodes : demo.Encodes demoNameDer writer der) :
    writer = Writer.prepending der errAsn1BufTooSmall := by
  cases encodes with
  | names names => rfl
  | len bound => simp only [demo, bound, ↓reduceIte]
  | tag tag => rfl
  | int bound => rfl
  | oid oid => rfl
  | @bitstring bytes count bound =>
      have whole : (count * 8 + 7) / 8 = count := by omega
      simp [demo, bitstringContent, maskLast, whole]
  | algorithmIdentifier oid =>
      simp [demo, algorithmContent, AlgorithmIdentifier.content, Element.encoding, element]
  | algorithmIdentifierExt oid =>
      simp [demo, algorithmContent, AlgorithmIdentifier.content, element]
  | rawBuffer bytes => rfl

theorem demo_documented : demo.Documented demoNameDer := by
  intro writer der encodes
  rw [demo_writer encodes]
  exact Writer.prepending_prepends (by decide)

theorem demo_failsOnlyFull : demo.FailsOnlyFull demoNameDer := by
  intro writer der encodes
  rw [demo_writer encodes]
  exact Writer.prepending_failsOnlyFull (by decide)

theorem demo_pemDocumented : demo.PemDocumented := by
  intro header footer der capacity room
  exact ⟨_, if_pos room⟩

theorem demo_parses_demoSubject : demo.x509StringToNames demoSubject = some demoName := by
  simp [demo]

/-- The P-256 key with the curve's base point. -/
def demoSpki : Bytes :=
  [0x30, 0x59, 0x30, 0x13, 0x06, 0x07, 0x2A, 0x86, 0x48, 0xCE, 0x3D, 0x02, 0x01, 0x06, 0x08, 0x2A,
    0x86, 0x48, 0xCE, 0x3D, 0x03, 0x01, 0x07, 0x03, 0x42, 0x00, 0x04, 0x6B, 0x17, 0xD1, 0xF2, 0xE1,
    0x2C, 0x42, 0x47, 0xF8, 0xBC, 0xE6, 0xE5, 0x63, 0xA4, 0x40, 0xF2, 0x77, 0x03, 0x7D, 0x81, 0x2D,
    0xEB, 0x33, 0xA0, 0xF4, 0xA1, 0x39, 0x45, 0xD8, 0x98, 0xC2, 0x96, 0x4F, 0xE3, 0x42, 0xE2, 0xFE,
    0x1A, 0x7F, 0x9B, 0x8E, 0xE7, 0xEB, 0x4A, 0x7C, 0x0F, 0x9E, 0x16, 0x2B, 0xCE, 0x33, 0x57, 0x6B,
    0x31, 0x5E, 0xCE, 0xCB, 0xB6, 0x40, 0x68, 0x37, 0xBF, 0x51, 0xF5]

theorem demoName_length : demoName.length = 23 := by decide

/-- The digest of the request information with that subject and key. -/
def demoDigest : Vector UInt8 32 := Sha256.hash (infoEncoding demoName demoSpki)

theorem demo_sha256Ret (data : Bytes) : demo.sha256Ret data = some (Sha256.hash data) := rfl

theorem demo_hashes (data : Bytes) : (demo.sha256Ret data).isSome := rfl

end Se05x.Mbedtls
