import Se05x.Host

/-!
# A secure element without outside failures

What each call answers as a function of the stored objects, the arguments and the output
capacity. The cryptographic functions are parameters.
-/

set_option autoImplicit false

namespace Se05x

open Der Interaction

structure SecureElement where
  Key : Type
  /-- The key pair a generation draws. -/
  newKey : CipherType → Nat → Nat → Key
  publicKeyDer : Key → Bytes
  sign : Key → Algorithm → Bytes → Option Bytes
  verify : Key → Algorithm → Bytes → Bytes → Bool
  encrypt : Key → Algorithm → Bytes → Option Bytes
  decrypt : Key → Algorithm → Bytes → Option Bytes
  /-- The curve size named by the DER of an EC public key. -/
  derCurveBits : Bytes → Option Nat
  /-- The shared x-coordinate of a key pair and a public key's DER. -/
  sharedX : Key → Bytes → Option Bytes
  digest : Algorithm → Bytes → Bytes
  random : Nat → (numBytes : Nat) → Vector UInt8 numBytes

inductive StoredObject (Key : Type) where
  | pair (key : Key)
  | publicKey (der : Bytes)
  | secret (bytes : Bytes)
deriving DecidableEq, Repr

namespace SecureElement

/-- The objects of the key store and how often randomness was drawn. -/
structure State (element : SecureElement) where
  objects : KeyId → Option (StoredObject element.Key)
  draws : Nat

variable {element : SecureElement}

def State.draw (state : State element) : State element := { state with draws := state.draws + 1 }

def State.lookup (state : State element) (keyObject : SssObject) :
    Option (StoredObject element.Key) :=
  keyObject.keyId.bind state.objects

def State.store (state : State element) (keyId : KeyId) (object : Option (StoredObject element.Key)) :
    State element :=
  { state with objects := fun other => if other = keyId then object else state.objects other }

/-- A result that does not fit the buffer fails the call. -/
def deliver (capacity : Nat) : Option Bytes → SssStatus × Filled capacity
  | none => (.fail, ⟨[], Nat.zero_le _⟩)
  | some bytes =>
    if fits : bytes.length ≤ capacity then (.success, ⟨bytes, fits⟩)
    else (.fail, ⟨[], Nat.zero_le _⟩)

def pairOf : Option (StoredObject element.Key) → Option element.Key
  | some (.pair key) => some key
  | _ => none

def exported (element : SecureElement) : Option (StoredObject element.Key) → Option Bytes
  | some (.pair key) => some (element.publicKeyDer key)
  | some (.publicKey der) => some der
  | some (.secret bytes) => some bytes
  | none => none

def statusOf (condition : Bool) : SssStatus := if condition then .success else .fail

def generateKey (state : State element) (keyBitLen : Nat) : SssObject → SssStatus × State element
  | .allocated keyId .pair cipherType _ _ =>
    (.success,
      (state.store keyId (some (.pair (element.newKey cipherType keyBitLen state.draws)))).draw)
  | _ => (.fail, state)

/-- An EC public key is accepted under the curve size its DER names. -/
def setKey (state : State element) (der : Bytes) (keyBitLen : Nat) :
    SssObject → SssStatus × State element
  | .allocated keyId .publicPart .ecNistP _ _ =>
    if element.derCurveBits der = some keyBitLen then
      (.success, state.store keyId (some (.publicKey der)))
    else (.fail, state)
  | _ => (.fail, state)

/-- The shared secret is stored if the derived object was allocated large enough for it. -/
def deriveKey (state : State element) (secret : Option Bytes) : SssObject → SssStatus × State element
  | .allocated keyId _ _ keyByteLenMax _ =>
    match secret with
    | none => (.fail, state)
    | some bytes =>
      if bytes.length ≤ keyByteLenMax then (.success, state.store keyId (some (.secret bytes)))
      else (.fail, state)
  | _ => (.fail, state)

def eraseKey (state : State element) (keyObject : SssObject) : SssStatus × State element :=
  match keyObject.keyId with
  | none => (.fail, state)
  | some keyId => (.success, state.store keyId none)

def agreed (state : State element) (context : KeyContext) (otherParty : SssObject) : Option Bytes :=
  match pairOf (state.lookup context.keyObject), element.exported (state.lookup otherParty) with
  | some key, some der => element.sharedX key der
  | _, _ => none

def serve (state : State element) : (request : SssCall) → request.Answer × State element
  | .rngContextInit => (.success, state)
  | .rngGetRandom numBytes =>
    ((.success, element.random state.draws numBytes), state.draw)
  | .rngContextFree => ((), state)
  | .keyObjectInit => (.success, state)
  | .keyObjectGetHandle keyId => (statusOf (state.objects keyId).isSome, state)
  | .keyObjectAllocateHandle _ _ _ _ _ => (.success, state)
  | .keyObjectFree _ => ((), state)
  | .keyStoreEraseKey keyObject => eraseKey state keyObject
  | .keyStoreGenerateKey keyObject keyBitLen => generateKey state keyBitLen keyObject
  | .keyStoreSetKey keyObject der keyBitLen => setKey state der keyBitLen keyObject
  | .keyStoreGetKey keyObject capacity =>
    (deliver capacity (element.exported (state.lookup keyObject)), state)
  | .asymmetricContextInit _ => (.success, state)
  | .asymmetricSignDigest context digest capacity =>
    (deliver capacity ((pairOf (state.lookup context.keyObject)).bind fun key =>
      element.sign key context.algorithm digest), state)
  | .asymmetricVerifyDigest context digest signature =>
    (statusOf ((pairOf (state.lookup context.keyObject)).any fun key =>
      element.verify key context.algorithm digest signature), state)
  | .asymmetricEncrypt context plaintext capacity =>
    (deliver capacity ((pairOf (state.lookup context.keyObject)).bind fun key =>
      element.encrypt key context.algorithm plaintext), state)
  | .asymmetricDecrypt context ciphertext capacity =>
    (deliver capacity ((pairOf (state.lookup context.keyObject)).bind fun key =>
      element.decrypt key context.algorithm ciphertext), state)
  | .asymmetricContextFree _ => ((), state)
  | .deriveKeyContextInit _ => (.success, state)
  | .deriveKeyDh context otherParty derived =>
    deriveKey state (agreed state context otherParty) derived
  | .deriveKeyContextFree _ => ((), state)
  | .digestContextInit _ => (.success, state)
  | .digestOneGo context message capacity =>
    (deliver capacity (some (element.digest context.algorithm message)), state)
  | .digestContextFree _ => ((), state)

/-- A host whose secure-subsystem calls reach this element and whose allocations succeed. -/
structure Hosts (element : SecureElement) (server : Server host (State element)) : Prop where
  sss : ∀ state request, server state (.sss request) = serve state request
  allocates : ∀ state size, server state (.allocate size) = (.granted, state)

/-- Signatures and ciphertexts have the length of the modulus; messages are no longer. -/
structure ModulusSized (element : SecureElement) : Prop where
  sign : ∀ {bits draw algorithm digest signature},
    element.sign (element.newKey .rsa bits draw) algorithm digest = some signature →
      signature.length = bits / 8
  encrypt : ∀ {bits draw algorithm plaintext ciphertext},
    element.encrypt (element.newKey .rsa bits draw) algorithm plaintext = some ciphertext →
      ciphertext.length = bits / 8
  decrypt : ∀ {bits draw algorithm ciphertext message},
    element.decrypt (element.newKey .rsa bits draw) algorithm ciphertext = some message →
      message.length ≤ bits / 8

/-- Sizes of the NIST curves over prime fields that the programs use. -/
def nistSizes : List Nat := [256, 384, 521]

/-- Pairs on one curve name its size in their DER and agree on one x-coordinate. -/
structure CurveLaws (element : SecureElement) : Prop where
  named : ∀ {bits draw}, bits ∈ nistSizes →
    element.derCurveBits (element.publicKeyDer (element.newKey .ecNistP bits draw)) = some bits
  short : ∀ {bits draw}, bits ∈ nistSizes →
    (element.publicKeyDer (element.newKey .ecNistP bits draw)).length ≤ 256
  agreed : ∀ {bits} (left right : Nat), bits ∈ nistSizes → ∃ x : Bytes, x.length = (bits + 7) / 8 ∧
    element.sharedX (element.newKey .ecNistP bits left)
      (element.publicKeyDer (element.newKey .ecNistP bits right)) = some x ∧
    element.sharedX (element.newKey .ecNistP bits right)
      (element.publicKeyDer (element.newKey .ecNistP bits left)) = some x

section Outputs

variable {capacity small large : Nat} {result : Option Bytes}

theorem deliver_fits {bytes : Bytes} (fits : bytes.length ≤ capacity) :
    deliver capacity (some bytes) = (.success, ⟨bytes, fits⟩) :=
  dif_pos fits

theorem deliver_full {bytes : Bytes} (full : capacity < bytes.length) :
    deliver capacity (some bytes) = (.fail, ⟨[], Nat.zero_le _⟩) :=
  dif_neg (Nat.not_le.mpr full)

end Outputs

theorem State.store_objects (state : State element) (keyId : KeyId)
    (object : Option (StoredObject element.Key)) : (state.store keyId object).objects keyId = object :=
  if_pos rfl

theorem State.store_other (state : State element) {keyId other : KeyId}
    (object : Option (StoredObject element.Key)) (distinct : other ≠ keyId) :
    (state.store keyId object).objects other = state.objects other :=
  if_neg distinct

end SecureElement

end Se05x
