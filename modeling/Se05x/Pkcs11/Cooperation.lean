import Se05x.Pkcs11.Operations
import Se05x.Pkcs11.Verdict

/-!
# A module that supports the suite

What a conforming module promises once it has the mechanisms the suite cannot do without.
A promise is only made to a call that is legal: in the open session, with a live key whose
template grants the use and suits the mechanism, with data the mechanism takes, and with room
for the result. Mechanisms and key pairs the suite can do without are left open.
-/

set_option autoImplicit false

namespace Se05x.Pkcs11

open Der Interaction

inductive KeyMaterial where
  | pair (size : KeySize)
  | aes
  | genericSecret
  | other
deriving DecidableEq, Repr

def KeyMaterial.size : KeyMaterial → Option KeySize
  | .pair size => some size
  | _ => none

/-- The two keys of a pair have one serial number. -/
structure KeyObject where
  serial : Nat
  material : KeyMaterial
  template : Template
deriving DecidableEq, Repr

/-- An operation in progress. -/
inductive Use where
  | keyed (mechanism : Mechanism) (key : ObjectHandle)
  | digesting (mechanism : Mechanism)
  | searching
deriving DecidableEq, Repr

/-- What was signed or encrypted, with which key, and the result. -/
structure Record where
  operation : Operation
  serial : Nat
  mechanism : Mechanism
  input : Bytes
  output : Bytes
deriving DecidableEq, Repr

structure Token where
  slots : List SlotId
  session : Option SessionHandle
  serial : Nat
  keys : ObjectHandle → Option KeyObject
  active : Operation → Option Use
  records : List Record

def suits : MechanismType → KeyMaterial → Bool
  | .ecdsa, .pair (.ec _) | .ecdsaSha256, .pair (.ec _) | .ecdsaSha384, .pair (.ec _)
  | .ecdsaSha512, .pair (.ec _) | .rsaPkcs, .pair (.rsa _) | .sha256RsaPkcs, .pair (.rsa _)
  | .sha256RsaPkcsPss, .pair (.rsa _) | .rsaPkcsOaep, .pair (.rsa _) | .aesEcb, .aes | .aesCbc, .aes
  | .sha1Hmac, .genericSecret | .sha256Hmac, .genericSecret | .sha384Hmac, .genericSecret
  | .sha512Hmac, .genericSecret => true
  | _, _ => false

/-- AES without padding takes whole blocks, and OAEP leaves room for its own sixty-six bytes. -/
def takes : MechanismType → KeyMaterial → Bytes → Bool
  | .aesEcb, .aes, data | .aesCbc, .aes, data => data.length % 16 == 0
  | .rsaPkcsOaep, .pair (.rsa bits), data => decide (data.length + 66 ≤ octets bits)
  | _, _, _ => false

def generated : MechanismType → KeyMaterial
  | .aesKeyGen => .aes
  | .genericSecretKeyGen => .genericSecret
  | _ => .other

def imported (template : Template) : KeyMaterial :=
  if .keyType .aes ∈ template then .aes
  else if .keyType .genericSecret ∈ template then .genericSecret
  else .other

def pairMaterial (publicTemplate : Template) : KeyMaterial :=
  ((keySize publicTemplate).map KeyMaterial.pair).getD .other

/-- The key pairs every supporting module makes. -/
def essential : MechanismType → KeyMaterial → Bool
  | .ecKeyPairGen, .pair (.ec 256) | .rsaPkcsKeyPairGen, .pair (.rsa 2048) => true
  | _, _ => false

namespace Token

def start : Token := ⟨[], none, 0, fun _ => none, fun _ => none, []⟩

def addKeys (t : Token) (entries : List (ObjectHandle × KeyMaterial × Template)) : Token :=
  { t with
    serial := t.serial + 1
    keys := entries.foldl (fun keys entry =>
      Function.update keys entry.1 (some ⟨t.serial, entry.2.1, entry.2.2⟩)) t.keys }

/-- The operation is started if the module says so. -/
def enter (t : Token) (operation : Operation) (use : Use) (rv : CkRv) : Token :=
  if rv = ckrOk then { t with active := Function.update t.active operation (some use) } else t

def leave (t : Token) (operation : Operation) : Token :=
  { t with active := Function.update t.active operation none }

/-- The record of a result, if there is one. -/
def recorded (t : Token) (operation : Operation) (rv : CkRv) (input output : Bytes) : Option Record :=
  match t.active operation with
  | some (.keyed mechanism handle) =>
    if rv = ckrOk then
      (t.keys handle).map fun key => ⟨operation, key.serial, mechanism, input, output⟩
    else none
  | _ => none

def finish (t : Token) (operation : Operation) (rv : CkRv) (input output : Bytes) : Token :=
  { t.leave operation with
    records := (t.recorded operation rv input output).toList ++ t.records }

def next (t : Token) : Event cryptoki → Token
  | ⟨.getSlotList _ _, slots⟩ => { t with slots := slots.cells.toList.filterMap id }
  | ⟨.openSession _, opened⟩ =>
    if opened.rv = ckrOk then { t with session := some opened.handle, active := fun _ => none } else t
  | ⟨.closeSession _, _⟩ => { t with session := none, active := fun _ => none }
  | ⟨.generateKey _ mechanism template, key⟩ =>
    if key.rv = ckrOk then t.addKeys [(key.handle, generated mechanism.mechanism, template)] else t
  | ⟨.createObject _ template, object⟩ =>
    if object.rv = ckrOk then t.addKeys [(object.handle, imported template, template)] else t
  | ⟨.deriveKey _ _ _ template, key⟩ =>
    if key.rv = ckrOk then t.addKeys [(key.handle, .genericSecret, template)] else t
  | ⟨.generateKeyPair _ _ publicTemplate privateTemplate, pair⟩ =>
    if pair.rv = ckrOk then
      t.addKeys [(pair.hPub, pairMaterial publicTemplate, publicTemplate),
        (pair.hPriv, pairMaterial publicTemplate, privateTemplate)]
    else t
  | ⟨.destroyObject _ object, _⟩ => { t with keys := Function.update t.keys object none }
  | ⟨.signInit _ mechanism key, rv⟩ => t.enter .sign (.keyed mechanism key) rv
  | ⟨.verifyInit _ mechanism key, rv⟩ => t.enter .verify (.keyed mechanism key) rv
  | ⟨.encryptInit _ mechanism key, rv⟩ => t.enter .encrypt (.keyed mechanism key) rv
  | ⟨.decryptInit _ mechanism key, rv⟩ => t.enter .decrypt (.keyed mechanism key) rv
  | ⟨.digestInit _ mechanism, rv⟩ => t.enter .digest (.digesting mechanism) rv
  | ⟨.findObjectsInit _, rv⟩ => t.enter .search .searching rv
  | ⟨.sign _ data _, sig⟩ => t.finish .sign sig.rv data sig.bytes
  | ⟨.encrypt _ data _, ct⟩ => t.finish .encrypt ct.rv data ct.bytes
  | ⟨.verify _ _ _ _, _⟩ => t.leave .verify
  | ⟨.decrypt _ _ _ _, _⟩ => t.leave .decrypt
  | ⟨.digest _ _ _, _⟩ => t.leave .digest
  | ⟨.findObjectsFinal _, _⟩ => t.leave .search
  | _ => t

/-- The key may be used so, and no such operation is in progress. -/
structure Grants (t : Token) (session : SessionHandle) (operation : Operation) (usage : Attribute)
    (mechanism : Mechanism) (handle : ObjectHandle) (key : KeyObject) : Prop where
  session : t.session = some session
  idle : t.active operation = none
  live : t.keys handle = some key
  usage : usage ∈ key.template
  suits : suits mechanism.mechanism key.material = true

/-- The operation is in progress with this key. -/
structure Running (t : Token) (session : SessionHandle) (operation : Operation)
    (mechanism : Mechanism) (key : KeyObject) : Prop where
  session : t.session = some session
  active : ∃ handle, t.active operation = some (.keyed mechanism handle) ∧ t.keys handle = some key

def Fresh (t : Token) (handles : List ObjectHandle) : Prop :=
  handles.Nodup ∧ ∀ handle ∈ handles, handle ≠ ckInvalidHandle ∧ t.keys handle = none

def Given {capacity : Nat} (output : Output capacity) : Prop :=
  output.rv = ckrOk ∧ output.length ≤ capacity

/-- Every call names the open session. An Init finds no operation of its kind in progress and a
live key whose template grants the use and suits the mechanism; the call after it has data the
mechanism takes and room for the result. What is verified was signed, and what is decrypted
was encrypted, with the other half of the key. -/
def Legal (t : Token) : CryptokiCall → Prop
  | .openSession slot => slot ∈ t.slots
  | .closeSession session | .generateRandom session _ | .createObject session _
  | .generateKeyPair session _ _ _ | .destroyObject session _ | .getObjectClass session _ =>
    t.session = some session
  | .generateKey session mechanism _ =>
    t.session = some session ∧ generated mechanism.mechanism ≠ .other
  | .deriveKey session _ handle _ | .getAttributeValue session handle _ _ =>
    t.session = some session ∧ ∃ key, t.keys handle = some key
  | .findObjectsInit session => t.session = some session ∧ t.active .search = none
  | .findObjects session _ | .findObjectsFinal session =>
    t.session = some session ∧ t.active .search = some .searching
  | .digestInit session _ => t.session = some session ∧ t.active .digest = none
  | .digest session data capacity => t.session = some session ∧ ∃ mechanism,
      t.active .digest = some (.digesting mechanism) ∧
      ¬(digestSize mechanism.mechanism).Exceeds data.length capacity
  | .signInit session mechanism handle =>
    ∃ key, t.Grants session .sign (.sign true) mechanism handle key
  | .sign session data capacity => ∃ mechanism key, t.Running session .sign mechanism key ∧
      ¬(signatureSize mechanism.mechanism key.material.size).Exceeds data.length capacity
  | .verifyInit session mechanism handle => ∃ key,
      t.Grants session .verify (.verify true) mechanism handle key ∧
      ∃ made ∈ t.records, made.operation = .sign ∧ made.serial = key.serial ∧
        made.mechanism = mechanism
  | .verify session data signature signatureLen => ∃ mechanism key,
      t.Running session .verify mechanism key ∧
      ⟨.sign, key.serial, mechanism, data, signature.take signatureLen⟩ ∈ t.records
  | .encryptInit session mechanism handle =>
    ∃ key, t.Grants session .encrypt (.encrypt true) mechanism handle key
  | .encrypt session data capacity => ∃ mechanism key,
      t.Running session .encrypt mechanism key ∧
      takes mechanism.mechanism key.material data = true ∧
      ¬(ciphertextSize mechanism.mechanism key.material.size).Exceeds data.length capacity
  | .decryptInit session mechanism handle => ∃ key,
      t.Grants session .decrypt (.decrypt true) mechanism handle key ∧
      ∃ made ∈ t.records, made.operation = .encrypt ∧ made.serial = key.serial ∧
        made.mechanism = mechanism
  | .decrypt session data dataLen capacity => ∃ mechanism key plaintext,
      t.Running session .decrypt mechanism key ∧ dataLen ≤ capacity ∧
      ⟨.encrypt, key.serial, mechanism, plaintext, data.take dataLen⟩ ∈ t.records
  | _ => True

/-- A module makes at least the essential key pairs, signs with RSA and encrypts with AES. What
it signs it verifies, and what it encrypts it decrypts. -/
def promises (t : Token) : Event cryptoki → Prop
  | ⟨.dlopen _, dlerror⟩ => dlerror = none
  | ⟨.dlsym _, found⟩ => found = true
  | ⟨.getFunctionList, list⟩ => list = (ckrOk, true)
  | ⟨.cInitialize, rv⟩ => rv = ckrOk
  | ⟨.getInfo, info⟩ => info.rv = ckrOk
  | ⟨.countSlots tokenPresent, slots⟩ =>
    slots.rv = ckrOk ∧ (tokenPresent = true → 0 < slots.count ∧ slots.count ≤ 8)
  | ⟨.getSlotList _ count, slots⟩ =>
    slots.rv = ckrOk ∧ (0 < count → ∃ slot, slots.cells[0]? = some (some slot))
  | ⟨.openSession slot, opened⟩ => slot ∈ t.slots → opened.rv = ckrOk
  | ⟨.generateRandom session _, random⟩ => t.session = some session → random.rv = ckrOk
  | ⟨.generateKey session mechanism _, key⟩ =>
    (t.session = some session → generated mechanism.mechanism ≠ .other → key.rv = ckrOk) ∧
      (key.rv = ckrOk → t.Fresh [key.handle])
  | ⟨.createObject session _, object⟩ =>
    (t.session = some session → object.rv = ckrOk) ∧ (object.rv = ckrOk → t.Fresh [object.handle])
  | ⟨.generateKeyPair session mechanism publicTemplate _, pair⟩ =>
    (t.session = some session → essential mechanism.mechanism (pairMaterial publicTemplate) = true →
      pair.rv = ckrOk) ∧ (pair.rv = ckrOk → t.Fresh [pair.hPub, pair.hPriv])
  | ⟨.deriveKey _ _ _ _, key⟩ => key.rv = ckrOk → t.Fresh [key.handle]
  | ⟨.getAttributeValue session handle .ecPoint capacity, point⟩ =>
    ∀ key bits, t.session = some session → t.keys handle = some key →
      key.material = .pair (.ec bits) → 2 * octets bits + 4 ≤ capacity → point.rv = ckrOk
  | ⟨.findObjectsInit session, rv⟩ =>
    t.session = some session → t.active .search = none → rv = ckrOk
  | ⟨.digest session data capacity, digest⟩ => ∀ mechanism, t.session = some session →
      t.active .digest = some (.digesting mechanism) →
      ¬(digestSize mechanism.mechanism).Exceeds data.length capacity → digest.rv = ckrOk
  | ⟨.signInit session mechanism handle, rv⟩ => ∀ key,
      t.Grants session .sign (.sign true) mechanism handle key →
      mechanism.mechanism = .sha256RsaPkcs → rv = ckrOk
  | ⟨.sign session data capacity, sig⟩ => ∀ mechanism key, t.Running session .sign mechanism key →
      ¬(signatureSize mechanism.mechanism key.material.size).Exceeds data.length capacity → Given sig
  | ⟨.verifyInit session mechanism handle, rv⟩ => ∀ key,
      t.Grants session .verify (.verify true) mechanism handle key →
      (∃ made ∈ t.records, made.operation = .sign ∧ made.serial = key.serial ∧
        made.mechanism = mechanism) → rv = ckrOk
  | ⟨.verify session data signature signatureLen, rv⟩ => ∀ mechanism key,
      t.Running session .verify mechanism key →
      ⟨.sign, key.serial, mechanism, data, signature.take signatureLen⟩ ∈ t.records → rv = ckrOk
  | ⟨.encryptInit session mechanism handle, rv⟩ => ∀ key,
      t.Grants session .encrypt (.encrypt true) mechanism handle key → key.material = .aes →
      rv = ckrOk
  | ⟨.encrypt session data capacity, ct⟩ => ∀ mechanism key,
      t.Running session .encrypt mechanism key → takes mechanism.mechanism key.material data = true →
      ¬(ciphertextSize mechanism.mechanism key.material.size).Exceeds data.length capacity → Given ct
  | ⟨.decryptInit session mechanism handle, rv⟩ => ∀ key,
      t.Grants session .decrypt (.decrypt true) mechanism handle key →
      (∃ made ∈ t.records, made.operation = .encrypt ∧ made.serial = key.serial ∧
        made.mechanism = mechanism) → rv = ckrOk
  | ⟨.decrypt session data dataLen capacity, pt⟩ => ∀ mechanism key plaintext,
      t.Running session .decrypt mechanism key → dataLen ≤ capacity →
      ⟨.encrypt, key.serial, mechanism, plaintext, data.take dataLen⟩ ∈ t.records →
      pt.rv = ckrOk ∧ pt.length = plaintext.length ∧ pt.bytes = plaintext
  | _ => True

end Token

/-- Only legal calls are made. The module keeps what it promises, and to the room it is given. -/
def cooperation : Contract cryptoki Token where
  allows t request := t.Legal request
  moves t event after := t.promises event ∧ withinRoom event = true ∧ after = t.next event

end Se05x.Pkcs11
