import Mathlib.Logic.Function.Basic
import Se05x.Interaction.Contract
import Se05x.Pkcs11.DemoCommon

/-!
# Operations of a session

A session runs at most one operation of a kind. Its `Init` call starts it, and the call that
asks for its result ends it unless the result does not fit the buffer.
-/

set_option autoImplicit false

namespace Se05x.Pkcs11

open Der Interaction

def ckrBufferTooSmall : CkRv := 0x150

inductive Operation where
  | sign | verify | digest | encrypt | decrypt | search
deriving DecidableEq, Repr

inductive KeySize where
  | ec (fieldBits : Nat)
  | rsa (modulusBits : Nat)
deriving DecidableEq, Repr

/-- How long the result of an operation is. -/
inductive ResultSize where
  | fixed (length : Nat)
  /-- At most as long as the input. -/
  | input
  | unknown
deriving DecidableEq, Repr

/-- The result may be longer than the buffer. -/
def ResultSize.Exceeds : ResultSize → Nat → Nat → Prop
  | .fixed length, _, capacity => capacity < length
  | .input, inputLength, capacity => capacity < inputLength
  | .unknown, _, _ => True

def octets (bits : Nat) : Nat := (bits + 7) / 8

def curveBits (params : Bytes) : Option Nat :=
  if params = ecP256 then some 256
  else if params = ecP384 then some 384
  else if params = ecP521 then some 521
  else none

def Attribute.keySize : Attribute → Option KeySize
  | .ecParams params => (curveBits params).map .ec
  | .modulusBits bits => some (.rsa bits)
  | _ => none

/-- The size of a key pair made from this template of its public key. -/
def keySize (template : Template) : Option KeySize := template.findSome? Attribute.keySize

def digestSize : MechanismType → ResultSize
  | .sha1 => .fixed 20
  | .sha224 => .fixed 28
  | .sha256 => .fixed 32
  | .sha384 => .fixed 48
  | .sha512 => .fixed 64
  | _ => .unknown

def signatureSize : MechanismType → Option KeySize → ResultSize
  | .ecdsa, some (.ec bits) | .ecdsaSha256, some (.ec bits) | .ecdsaSha384, some (.ec bits)
  | .ecdsaSha512, some (.ec bits) => .fixed (2 * octets bits)
  | .rsaPkcs, some (.rsa bits) | .sha256RsaPkcs, some (.rsa bits)
  | .sha256RsaPkcsPss, some (.rsa bits) => .fixed (octets bits)
  | .sha1Hmac, _ => digestSize .sha1
  | .sha256Hmac, _ => digestSize .sha256
  | .sha384Hmac, _ => digestSize .sha384
  | .sha512Hmac, _ => digestSize .sha512
  | _, _ => .unknown

def ciphertextSize : MechanismType → Option KeySize → ResultSize
  | .aesEcb, _ | .aesCbc, _ => .input
  | .rsaPkcs, some (.rsa bits) | .rsaPkcsOaep, some (.rsa bits) => .fixed (octets bits)
  | _, _ => .unknown

abbrev KeySizes := ObjectHandle → Option KeySize

/-- What a call does to the operations of its session. -/
inductive Role where
  | other
  | start (session : SessionHandle) (operation : Operation) (size : KeySizes → ResultSize)
  | finish (session : SessionHandle) (operation : Operation) (inputLength capacity : Nat)
  | searching (session : SessionHandle)
  | endSearch (session : SessionHandle)
  | close (session : SessionHandle)

/-- A verification has no output. -/
def CryptokiCall.role : CryptokiCall → Role
  | .signInit session mechanism key =>
    .start session .sign fun keys => signatureSize mechanism.mechanism (keys key)
  | .verifyInit session _ _ => .start session .verify fun _ => .fixed 0
  | .digestInit session mechanism => .start session .digest fun _ => digestSize mechanism.mechanism
  | .encryptInit session mechanism key =>
    .start session .encrypt fun keys => ciphertextSize mechanism.mechanism (keys key)
  | .decryptInit session _ _ => .start session .decrypt fun _ => .input
  | .findObjectsInit session => .start session .search fun _ => .unknown
  | .sign session data capacity => .finish session .sign data.length capacity
  | .verify session data _ _ => .finish session .verify data.length 0
  | .digest session data capacity => .finish session .digest data.length capacity
  | .encrypt session data capacity => .finish session .encrypt data.length capacity
  | .decrypt session _ dataLen capacity => .finish session .decrypt dataLen capacity
  | .findObjects session _ => .searching session
  | .findObjectsFinal session => .endSearch session
  | .closeSession session => .close session
  | _ => .other

/-- The return code of a call that starts or finishes an operation. -/
def code : Event cryptoki → CkRv
  | ⟨.signInit _ _ _, rv⟩ | ⟨.verifyInit _ _ _, rv⟩ | ⟨.digestInit _ _, rv⟩
  | ⟨.encryptInit _ _ _, rv⟩ | ⟨.decryptInit _ _ _, rv⟩ | ⟨.findObjectsInit _, rv⟩
  | ⟨.verify _ _ _ _, rv⟩ => rv
  | ⟨.sign _ _ _, output⟩ | ⟨.digest _ _ _, output⟩ | ⟨.encrypt _ _ _, output⟩
  | ⟨.decrypt _ _ _ _, output⟩ => output.rv
  | _ => ckrOk

/-- The length reported for the result of an operation. -/
def resultLength : Event cryptoki → Nat
  | ⟨.sign _ _ _, output⟩ | ⟨.digest _ _ _, output⟩ | ⟨.encrypt _ _ _, output⟩
  | ⟨.decrypt _ _ _ _, output⟩ => output.length
  | _ => 0

/-- The handles a call made, with the sizes of their keys. -/
def sized : Event cryptoki → List (ObjectHandle × Option KeySize)
  | ⟨.generateKeyPair _ _ publicTemplate _, pair⟩ =>
    if pair.rv = ckrOk then
      [(pair.hPub, keySize publicTemplate), (pair.hPriv, keySize publicTemplate)]
    else []
  | ⟨.generateKey _ _ _, key⟩ | ⟨.createObject _ _, key⟩ | ⟨.deriveKey _ _ _ _, key⟩ =>
    if key.rv = ckrOk then [(key.handle, none)] else []
  | _ => []

/-- The active operations of all sessions, each with the size of its result. -/
structure Sessions where
  active : SessionHandle × Operation → Option ResultSize
  keys : KeySizes

namespace Sessions

def start : Sessions := ⟨fun _ => none, fun _ => none⟩

/-- No operation is active in any session. -/
def Idle (s : Sessions) : Prop := s.active = fun _ => none

def enter (s : Sessions) (session : SessionHandle) (operation : Operation) (size : ResultSize) :
    Sessions :=
  { s with active := Function.update s.active (session, operation) (some size) }

def leave (s : Sessions) (session : SessionHandle) (operation : Operation) : Sessions :=
  { s with active := Function.update s.active (session, operation) none }

/-- What is known of the keys when objects are made. -/
def learn (s : Sessions) (made : List (ObjectHandle × Option KeySize)) : Sessions :=
  { s with keys := made.foldl (fun keys entry => Function.update keys entry.1 entry.2) s.keys }

def next (s : Sessions) (event : Event cryptoki) : Sessions :=
  match event.request.role with
  | .other => s.learn (sized event)
  | .start session operation size =>
    if code event = ckrOk then s.enter session operation (size s.keys) else s
  | .finish session operation _ _ =>
    if code event = ckrBufferTooSmall then s else s.leave session operation
  | .searching _ => s
  | .endSearch session => s.leave session .search
  | .close session =>
    { s with active := fun slot => if slot.1 = session then none else s.active slot }

def Permits (s : Sessions) : Role → Prop
  | .start session operation _ => s.active (session, operation) = none
  | .finish session operation _ _ => s.active (session, operation) ≠ none
  | .searching session | .endSearch session => s.active (session, .search) ≠ none
  | .other | .close _ => True

/-- A buffer is refused only when the result may not fit it, and a result that is given
fits it. -/
def Conforms (s : Sessions) (event : Event cryptoki) : Prop :=
  match event.request.role with
  | .finish session operation inputLength capacity =>
    (code event = ckrBufferTooSmall →
      ∀ size, s.active (session, operation) = some size → size.Exceeds inputLength capacity) ∧
    (code event = ckrOk → resultLength event ≤ capacity)
  | _ => True

end Sessions

def operations : Contract cryptoki Sessions where
  allows s request := s.Permits request.role
  moves s event after := s.Conforms event ∧ after = s.next event

end Se05x.Pkcs11
