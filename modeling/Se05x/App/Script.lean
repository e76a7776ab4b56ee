import Se05x.App.CsrCleanupProperties
import Se05x.CppApp.Commands

/-!
# What the demos are for

Each demo as its reader sees it: what it does to the stored objects and the files, and
whether it succeeds. No calls, contexts, locals or buffers occur.
-/

set_option autoImplicit false

namespace Se05x.App

open Der Interaction SecureElement
open CppApp (Machine Platform)

variable {element : SecureElement}

/-- What a demo leaves behind, and whether it succeeds. -/
abbrev Scene (element : SecureElement) := Machine element → Bool × Machine element

/-- A scene that only the secure element takes part in. -/
def Scene.onStore (scene : State element → Bool × State element) : Scene element := fun machine =>
  ((scene machine.store).1, machine.withStore (scene machine.store).2)

/-- A scene that changes nothing. -/
def Scene.checking (holds : State element → Bool) : Scene element := fun machine =>
  (holds machine.store, machine)

section Scenes

variable (store : State element)

/-- A new key pair replaces what was stored under the identifier. -/
def generated (keyId : KeyId) (cipherType : CipherType) (bits : Nat) : State element :=
  (store.store keyId (some (.pair (element.newKey cipherType bits store.draws)))).draw

/-- Alice's new public key is exported. -/
def aliceGenerated : Bool × State element :=
  let made := generated store demoKeyEcAlice .ecNistP 256
  ((limited 200 (element.exported (made.objects demoKeyEcAlice))).isSome, made)

def rsaGenerated : Bool × State element := (true, generated store demoKeyRsa .rsaCrt 2048)

/-- The signature over the digest of the message verifies. -/
def signedAndVerified (keyId : KeyId) (message : Bytes) (algorithm : Algorithm) (room : Nat) :
    Bool :=
  (do
    let digest ← limited 32 (some (element.digest .sha256 message))
    let key ← store.pairAt keyId
    let signature ← limited room (element.sign key algorithm digest)
    return element.verify key algorithm digest signature).getD false

/-- Bob gets a new key pair, and the secret Alice shares with it is stored. -/
def agreedWithBob : Bool × State element :=
  if (store.objects demoKeyEcAlice).isSome then
    let cleared := (generated store demoKeyEcBob .ecNistP 256).store demoKeyEcShared none
    let bob := element.newKey .ecNistP 256 store.draws
    match limited 32 ((store.pairAt demoKeyEcAlice).bind fun alice =>
      element.sharedX alice (element.publicKeyDer bob)) with
    | none => (false, cleared)
    | some secret => (true, cleared.store demoKeyEcShared (some (.secret secret)))
  else (false, store)

/-- What was encrypted is decrypted again. -/
def recovers : Bool :=
  (do
    let key ← store.pairAt demoKeyRsa
    let ciphertext ← limited 256
      (element.encrypt key .rsaesPkcs1OaepSha256 (asciiBytes "Hello from SE051!"))
    let recovered ← limited 256 (element.decrypt key .rsaesPkcs1OaepSha256 ciphertext)
    return recovered == asciiBytes "Hello from SE051!").getD false

variable (mbedtls : Mbedtls) (name : Bytes)

/-- The files of a certification request for the stored key. -/
def requestFiles (csrDemo : CsrDemo) (isEc : Bool) : Option (List (String × Bytes)) := do
  let spki ← limited csrDemo.spkiSize (element.exported (store.objects csrDemo.keyId))
  let digest ← mbedtls.sha256Ret (infoEncoding name spki)
  let key ← store.pairAt csrDemo.keyId
  let signature ← limited csrDemo.sigSize (element.sign key csrDemo.algorithm digest.toList)
  return completeFiles csrDemo isEc name spki signature

end Scenes

variable (platform : Platform) (mbedtls : Mbedtls) (name : Bytes)

/-- A file that cannot be opened is skipped. -/
def save (machine : Machine element) (file : String × Bytes) : Machine element :=
  if platform.writable file.1 then machine.write platform file.1 file.2 else machine

def requested (csrDemo : CsrDemo) (isEc : Bool) : Scene element := fun machine =>
  match requestFiles machine.store mbedtls name csrDemo isEc with
  | none => (false, machine)
  | some files => (true, files.foldl (save platform) machine)

/-- The scenes in their order. -/
def script (element : SecureElement) : List (Scene element) :=
  [.onStore fun store => (true, store.draw),
    .onStore aliceGenerated,
    .checking fun store => signedAndVerified store demoKeyEcAlice
      (asciiBytes "SE051 ECDSA test message") .ecdsaSha256 128,
    .onStore agreedWithBob,
    requested platform mbedtls name (ecCsr mbedtls) true,
    .onStore rsaGenerated,
    .checking fun store => signedAndVerified store demoKeyRsa
      (asciiBytes "SE051 RSA PKCS1v15 test message") .rsassaPkcs1V15Sha256 256,
    .checking recovers,
    requested platform mbedtls name (rsaCsr mbedtls) false]

/-- The first scene that does not succeed is the last. -/
def perform : List (Scene element) → Scene element
  | [], machine => (true, machine)
  | scene :: scenes, machine =>
    if (scene machine).1 then perform scenes (scene machine).2 else scene machine

end Se05x.App
