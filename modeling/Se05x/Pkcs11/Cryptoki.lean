import Se05x.Der.Element
import Se05x.Interaction.Program

/-!
# Cryptoki

The calls of the PKCS#11 demo suite: the dynamic loader, the module's functions, and
standard output. An answer holds the return code and whatever the out-parameters hold
afterwards; a module may leave any values there, whatever code it returns.
-/

set_option autoImplicit false

namespace Se05x.Pkcs11

open Der Interaction

abbrev CkRv := Nat
abbrev SlotId := Nat
abbrev SessionHandle := Nat
abbrev ObjectHandle := Nat

def ckrOk : CkRv := 0
def ckInvalidHandle : ObjectHandle := 0

inductive MechanismType where
  | rsaPkcsKeyPairGen | rsaPkcs | rsaPkcsOaep | sha256RsaPkcs | sha256RsaPkcsPss
  | sha1 | sha1Hmac | sha224 | sha256 | sha256Hmac | sha384 | sha384Hmac | sha512 | sha512Hmac
  | genericSecretKeyGen | ecKeyPairGen | ecdsa | ecdsaSha256 | ecdsaSha384 | ecdsaSha512
  | ecdh1Derive | aesKeyGen | aesEcb | aesCbc
deriving DecidableEq, Repr

/-- The values of the standard's `CKM_` constants. -/
def MechanismType.code : MechanismType → Nat
  | .rsaPkcsKeyPairGen => 0x0
  | .rsaPkcs => 0x1
  | .rsaPkcsOaep => 0x9
  | .sha256RsaPkcs => 0x40
  | .sha256RsaPkcsPss => 0x43
  | .sha1 => 0x220
  | .sha1Hmac => 0x221
  | .sha256 => 0x250
  | .sha256Hmac => 0x251
  | .sha224 => 0x255
  | .sha384 => 0x260
  | .sha384Hmac => 0x261
  | .sha512 => 0x270
  | .sha512Hmac => 0x271
  | .genericSecretKeyGen => 0x350
  | .ecKeyPairGen => 0x1040
  | .ecdsa => 0x1041
  | .ecdsaSha256 => 0x1044
  | .ecdsaSha384 => 0x1045
  | .ecdsaSha512 => 0x1046
  | .ecdh1Derive => 0x1050
  | .aesKeyGen => 0x1080
  | .aesEcb => 0x1081
  | .aesCbc => 0x1082

inductive Parameter where
  | null
  | iv (bytes : Bytes)
  /-- `CK_RSA_PKCS_PSS_PARAMS` with `CKG_MGF1_SHA256`. -/
  | pss (hashAlg : MechanismType) (sLen : Nat)
  /-- `CK_RSA_PKCS_OAEP_PARAMS` with `CKG_MGF1_SHA256` and no source data. -/
  | oaep (hashAlg : MechanismType)
  /-- `CK_ECDH1_DERIVE_PARAMS` with `CKD_NULL` and no shared data. -/
  | ecdh1 (publicDataLen : Nat) (publicData : Bytes)
deriving DecidableEq, Repr

structure Mechanism where
  mechanism : MechanismType
  parameter : Parameter
deriving DecidableEq, Repr

inductive ObjectClass where
  | data | certificate | publicKey | privateKey | secretKey
  | other (code : Nat)
deriving DecidableEq, Repr

inductive KeyType where
  | ec | genericSecret | aes
deriving DecidableEq, Repr

inductive Attribute where
  | objectClass (value : ObjectClass)
  | keyType (value : KeyType)
  | token (value : Bool)
  | label (value : String)
  | id (value : Bytes)
  | value (value : Bytes)
  | valueLen (value : Nat)
  | sensitive (value : Bool)
  | extractable (value : Bool)
  | encrypt (value : Bool)
  | decrypt (value : Bool)
  | sign (value : Bool)
  | verify (value : Bool)
  | derive (value : Bool)
  | modulusBits (value : Nat)
  | publicExponent (value : Bytes)
  | ecParams (value : Bytes)
  | ecPoint (value : Bytes)
deriving DecidableEq, Repr

abbrev Template := List Attribute

inductive AttributeType where
  | ecParams | ecPoint | modulus | value
deriving DecidableEq, Repr

/-- A buffer and its length variable after the call. -/
structure Output (capacity : Nat) where
  rv : CkRv
  buffer : Vector UInt8 capacity
  length : Nat
deriving DecidableEq, Repr

/-- The bytes the length variable covers, up to the end of the buffer. -/
def Output.bytes {capacity : Nat} (output : Output capacity) : Bytes :=
  output.buffer.toList.take output.length

structure Counted where
  rv : CkRv
  count : Nat
deriving DecidableEq, Repr

/-- An array and its count variable after the call. Cells the module did not write hold
no value of their own. -/
structure Listed (capacity : Nat) where
  rv : CkRv
  cells : Vector (Option Nat) capacity
  count : Nat
deriving DecidableEq, Repr

structure Created where
  rv : CkRv
  handle : ObjectHandle
deriving DecidableEq, Repr

structure CreatedPair where
  rv : CkRv
  hPub : ObjectHandle
  hPriv : ObjectHandle
deriving DecidableEq, Repr

structure Version where
  major : Nat
  minor : Nat
deriving DecidableEq, Repr

structure Info where
  rv : CkRv
  manufacturerID : String
  libraryDescription : String
  libraryVersion : Version
  cryptokiVersion : Version
deriving DecidableEq, Repr

structure SlotInfo where
  rv : CkRv
  slotDescription : String
  hardwareVersion : Version
  firmwareVersion : Version
deriving DecidableEq, Repr

structure TokenInfo where
  rv : CkRv
  label : String
  manufacturerID : String
  model : String
deriving DecidableEq, Repr

structure ClassRead where
  rv : CkRv
  cls : ObjectClass
deriving DecidableEq, Repr

/-- The arrays lists are fetched into. -/
inductive LocalArray where
  | slots | mechBuf | handles
deriving DecidableEq, Repr

/-- An array cell as a read finds it. One nothing has written holds whatever the stack held,
and behind the room the list call was given nothing is certain any more. -/
inductive Cell where
  | written (value : Nat)
  | unwritten
  | outside
deriving DecidableEq, Repr

abbrev Cell.Answer : Cell → Type
  | written _ => Unit
  | unwritten | outside => Nat

/-- A call that fills an array or a buffer names how much room it has. A list call with a
null pointer asks for the count alone. -/
inductive CryptokiCall where
  | dlopen (path : String)
  | dlsym (name : String)
  | getFunctionList
  | dlclose
  | printf (text : String)
  | printError (text : String)
  | readCell (array : LocalArray) (cell : Cell)
  | cInitialize
  | cFinalize
  | getInfo
  | countSlots (tokenPresent : Bool)
  | getSlotList (tokenPresent : Bool) (count : Nat)
  | getSlotInfo (slot : SlotId)
  | getTokenInfo (slot : SlotId)
  | countMechanisms (slot : SlotId)
  | getMechanismList (slot : SlotId) (count : Nat)
  | openSession (slot : SlotId)
  | closeSession (session : SessionHandle)
  | generateRandom (session : SessionHandle) (length : Nat)
  | digestInit (session : SessionHandle) (mechanism : Mechanism)
  | digest (session : SessionHandle) (data : Bytes) (capacity : Nat)
  | generateKey (session : SessionHandle) (mechanism : Mechanism) (template : Template)
  | generateKeyPair (session : SessionHandle) (mechanism : Mechanism)
      (publicTemplate privateTemplate : Template)
  | createObject (session : SessionHandle) (template : Template)
  | deriveKey (session : SessionHandle) (mechanism : Mechanism) (base : ObjectHandle)
      (template : Template)
  | destroyObject (session : SessionHandle) (object : ObjectHandle)
  | getAttributeValue (session : SessionHandle) (object : ObjectHandle) (type : AttributeType)
      (capacity : Nat)
  /-- `C_GetAttributeValue` of `CKA_CLASS` into a `CK_OBJECT_CLASS`. -/
  | getObjectClass (session : SessionHandle) (object : ObjectHandle)
  | signInit (session : SessionHandle) (mechanism : Mechanism) (key : ObjectHandle)
  | sign (session : SessionHandle) (data : Bytes) (capacity : Nat)
  | verifyInit (session : SessionHandle) (mechanism : Mechanism) (key : ObjectHandle)
  | verify (session : SessionHandle) (data signature : Bytes) (signatureLen : Nat)
  | encryptInit (session : SessionHandle) (mechanism : Mechanism) (key : ObjectHandle)
  | encrypt (session : SessionHandle) (data : Bytes) (capacity : Nat)
  | decryptInit (session : SessionHandle) (mechanism : Mechanism) (key : ObjectHandle)
  | decrypt (session : SessionHandle) (data : Bytes) (dataLen : Nat) (capacity : Nat)
  | findObjectsInit (session : SessionHandle)
  | findObjects (session : SessionHandle) (maxObjectCount : Nat)
  | findObjectsFinal (session : SessionHandle)
deriving DecidableEq, Repr

namespace CryptokiCall

/-- `dlopen` tells the loader's error, if any, and `getFunctionList` the return code and
whether the list is there. -/
abbrev Answer : CryptokiCall → Type
  | dlopen _ => Option String
  | dlsym _ => Bool
  | getFunctionList => CkRv × Bool
  | dlclose | printf _ | printError _ => Unit
  | readCell _ cell => cell.Answer
  | getInfo => Info
  | countSlots _ | countMechanisms _ => Counted
  | getSlotList _ count | getMechanismList _ count => Listed count
  | getSlotInfo _ => SlotInfo
  | getTokenInfo _ => TokenInfo
  | openSession _ | generateKey _ _ _ | createObject _ _ | deriveKey _ _ _ _ => Created
  | generateKeyPair _ _ _ _ => CreatedPair
  | generateRandom _ length => Output length
  | digest _ _ capacity | sign _ _ capacity | encrypt _ _ capacity | decrypt _ _ _ capacity
  | getAttributeValue _ _ _ capacity => Output capacity
  | getObjectClass _ _ => ClassRead
  | findObjects _ maxObjectCount => Listed maxObjectCount
  | cInitialize | cFinalize | closeSession _ | digestInit _ _ | destroyObject _ _ | signInit _ _ _
  | verifyInit _ _ _ | verify _ _ _ _ | encryptInit _ _ _ | decryptInit _ _ _
  | findObjectsInit _ | findObjectsFinal _ => CkRv

end CryptokiCall

abbrev cryptoki : Interface := ⟨CryptokiCall, CryptokiCall.Answer⟩

def call (request : CryptokiCall) : Program cryptoki request.Answer := .call request .done

/-- The value of a cell, which the program reads once and then keeps. -/
def readCell (array : LocalArray) {capacity : Nat} (cells : Vector (Option Nat) capacity)
    (i : Nat) : Program cryptoki Nat :=
  match cells[i]? with
  | some (some value) => do
    call (.readCell array (.written value))
    return value
  | some none => call (.readCell array .unwritten)
  | none => call (.readCell array .outside)

end Se05x.Pkcs11
