import Se05x.Der.BackwardBuffer
import Se05x.Der.Pem
import Se05x.Der.Pkcs10

/-!
# The mbedTLS functions the programs use

The library is a parameter. `Encodes` lists, writer by writer, the DER of its argument;
`Documented` and `FailsOnlyFull` say what the programs may rely on.
-/

set_option autoImplicit false

namespace Se05x

open Der

structure Mbedtls where
  Names : Type
  x509StringToNames : String → Option Names
  x509WriteNames : Names → Writer
  asn1WriteLen : Nat → Writer
  asn1WriteTag : UInt8 → Writer
  asn1WriteInt : Nat → Writer
  asn1WriteOid : Bytes → Writer
  asn1WriteBitstring : Bytes → Nat → Writer
  asn1WriteAlgorithmIdentifier : Bytes → Nat → Writer
  asn1WriteAlgorithmIdentifierExt : Bytes → Nat → Bool → Writer
  asn1WriteRawBuffer : Bytes → Writer
  sha256Ret : Bytes → Option (Vector UInt8 32)
  /-- The buffer after the call and the length it reports. -/
  pemWriteBuffer : String → String → Bytes → Nat → Option (Bytes × Nat)

namespace Mbedtls

/-- The DER each writer is documented to put in front of the cursor. -/
inductive Encodes (mbedtls : Mbedtls) (nameDer : mbedtls.Names → Bytes) : Writer → Bytes → Prop where
  | names (names : mbedtls.Names) :
      Encodes mbedtls nameDer (mbedtls.x509WriteNames names) (nameDer names)
  | len {length : Nat} : length < 2 ^ 32 →
      Encodes mbedtls nameDer (mbedtls.asn1WriteLen length) (lengthOctets length)
  | tag (tag : UInt8) : Encodes mbedtls nameDer (mbedtls.asn1WriteTag tag) [tag]
  | int {value : Nat} : value < 2 ^ 31 →
      Encodes mbedtls nameDer (mbedtls.asn1WriteInt value)
        (element integerTag (naturalContent value))
  | oid (oid : Bytes) :
      Encodes mbedtls nameDer (mbedtls.asn1WriteOid oid) (element oidTag oid)
  | bitstring {bytes : Bytes} {count : Nat} : count ≤ bytes.length →
      Encodes mbedtls nameDer (mbedtls.asn1WriteBitstring bytes (count * 8))
        (element bitStringTag (0 :: bytes.take count))
  | algorithmIdentifier (oid : Bytes) :
      Encodes mbedtls nameDer (mbedtls.asn1WriteAlgorithmIdentifier oid 0)
        (element sequenceTag (AlgorithmIdentifier.content ⟨oid, some ⟨nullTag, []⟩⟩))
  | algorithmIdentifierExt (oid : Bytes) :
      Encodes mbedtls nameDer (mbedtls.asn1WriteAlgorithmIdentifierExt oid 0 false)
        (element sequenceTag (AlgorithmIdentifier.content ⟨oid, none⟩))
  | rawBuffer (bytes : Bytes) :
      Encodes mbedtls nameDer (mbedtls.asn1WriteRawBuffer bytes) bytes

/-- A writer prepends the DER of its argument and returns its length, or a negative value. -/
def Documented (mbedtls : Mbedtls) (nameDer : mbedtls.Names → Bytes) : Prop :=
  ∀ writer der, Encodes mbedtls nameDer writer der → writer.Prepends der

/-- A writer fails only for lack of room. -/
def FailsOnlyFull (mbedtls : Mbedtls) (nameDer : mbedtls.Names → Bytes) : Prop :=
  ∀ writer der, Encodes mbedtls nameDer writer der → writer.FailsOnlyFull der

/-- The text with its terminator is written, and counted, whenever the room is there. -/
def PemDocumented (mbedtls : Mbedtls) : Prop :=
  ∀ header footer der capacity, pemRoom header footer der ≤ capacity →
    ∃ rest, mbedtls.pemWriteBuffer header footer der capacity =
      some (pemText header footer der ++ 0 :: rest, (pemText header footer der).length + 1)

end Mbedtls

end Se05x
