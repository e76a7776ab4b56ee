import Se05x.CppApp.CsrProperties
import Se05x.CppApp.EcdhProperties
import Se05x.CppApp.Machine

/-!
# What the commands are for

Each command as its user sees it: what it computes from the stored objects and the files it
reads, what it leaves in the key store, and where its result goes. No calls, contexts or
buffers occur, and all failures are alike.
-/

set_option autoImplicit false

namespace Se05x

open Der

namespace SecureElement

variable {element : SecureElement}

def State.pairAt (store : State element) (keyId : KeyId) : Option element.Key :=
  pairOf (store.objects keyId)

/-- A result counts only if the room set aside for it suffices. -/
def limited (room : Nat) (result : Option Bytes) : Option Bytes :=
  result.filter fun bytes => decide (bytes.length ≤ room)

end SecureElement

namespace CppApp

open SecureElement

inductive Family where
  | ecc
  | rsa
deriving DecidableEq, Repr

def Family.isEc : Family → Bool
  | .ecc => true
  | .rsa => false

def Family.algorithm : Family → Algorithm
  | .ecc => .sha256
  | .rsa => .rsassaPkcs1V15Sha256

/-- Room for the public key of a key that is opened, not generated. -/
def Family.exportRoom : Family → Nat
  | .ecc => 256
  | .rsa => 320

/-- What can be provisioned. -/
inductive Kind where
  | ec (curve : EcCurve)
  | rsa (bits : RsaBits)
deriving DecidableEq, Repr

def Kind.cipherType : Kind → CipherType
  | .ec _ => .ecNistP
  | .rsa _ => .rsa

def Kind.bits : Kind → Nat
  | .ec curve => curveBits curve
  | .rsa bits => bits.toNat

def Kind.exportRoom : Kind → Nat
  | .ec _ => 256
  | .rsa bits => bits.toNat / 8 + 64

/-- A key kind that is not known is found out after the forced erase. -/
inductive Command where
  | random (count : Nat)
  | provision (keyId : KeyId) (force : Bool) (kind : Option Kind)
  | publicKey (family : Family) (keyId : KeyId)
  | sign (family : Family) (keyId : KeyId) (input : String)
  | verify (family : Family) (keyId : KeyId) (input signature : String)
  | agree (keyId : KeyId) (peer : String)
  | encrypt (keyId : KeyId) (input : String)
  | decrypt (keyId : KeyId) (input : String)
  | request (family : Family) (keyId : KeyId) (subject : String)
deriving DecidableEq, Repr

/-! ## Command lines -/

section CommandLine

variable (target : Target) (a : Args)

def Family.kind (a : Args) : Family → Option Kind
  | .ecc => (parseCurve (a.get "--curve")).toOption.map .ec
  | .rsa => (parseBits (a.get "--bits")).toOption.map .rsa

def Family.own (keyId : KeyId) (a : Args) : Family → Option Command
  | .ecc => if a.command = "ecdh" then some (.agree keyId (a.get "--peer")) else none
  | .rsa =>
    if a.command = "encrypt" then some (.encrypt keyId (a.get "--in"))
    else if a.command = "decrypt" then some (.decrypt keyId (a.get "--in"))
    else none

def Family.command (keyId : KeyId) (a : Args) (family : Family) : Option Command :=
  if a.command = "genkey" ∨ a.command = "provision" then
    some (.provision keyId (a.flag "--force") (family.kind a))
  else if a.command = "pub" then some (.publicKey family keyId)
  else if a.command = "sign" then some (.sign family keyId (a.get "--in"))
  else if a.command = "verify" then some (.verify family keyId (a.get "--in") (a.get "--sig"))
  else if a.command = "csr" then
    if a.get "--subject" = "" then none else some (.request family keyId (a.get "--subject"))
  else family.own keyId a

def Command.ofArgs : Option Command :=
  if a.group = "rng" then
    if a.positional = "" then none else some (.random (strtoul target a.positional))
  else if a.group = "ecc" then (parseId target a).toOption.bind (Family.ecc.command · a)
  else if a.group = "rsa" then (parseId target a).toOption.bind (Family.rsa.command · a)
  else none

end CommandLine

/-! ## Results -/

inductive Product where
  | bytes (data : Bytes)
  | text (text : Bytes)
  | verdict (valid : Bool)
deriving DecidableEq, Repr

def Product.exitCode : Product → Nat
  | .verdict false => 2
  | _ => 0

section Performing

variable (mbedtls : Mbedtls) (nameDer : mbedtls.Names → Bytes) {element : SecureElement}
  (read : String → Option Bytes) (store : State element)

def publicKeyOf (room : Nat) (keyId : KeyId) : Option Bytes :=
  limited room (element.exported (store.objects keyId))

def signed (family : Family) (keyId : KeyId) (digest : Bytes) : Option Bytes :=
  limited 256 ((store.pairAt keyId).bind fun key => element.sign key family.algorithm digest)

def verified (family : Family) (keyId : KeyId) (digest signature : Bytes) : Option Bool :=
  (store.objects keyId).map fun _ =>
    (store.pairAt keyId).any fun key => element.verify key family.algorithm digest signature

/-- The new key pair replaces what was stored under its identifier. -/
def provisioned (keyId : KeyId) (kind : Kind) : State element :=
  (store.store keyId (some (.pair (element.newKey kind.cipherType kind.bits store.draws)))).draw

/-- A peer on P-256 is imported before anything is derived with it. -/
def exchanged (keyId : KeyId) (der : Bytes) : Option Bytes × State element :=
  if (store.objects keyId).isSome ∧ element.derCurveBits der = some 256 then
    match limited 64 (((withPeer store der).pairAt keyId).bind fun key => element.sharedX key der) with
    | none => (none, withPeer store der)
    | some secret => (some secret, (withPeer store der).store 0xEF009E02 (some (.secret secret)))
  else (none, store)

/-- The request is signed over the digest of its information. -/
def requested (family : Family) (keyId : KeyId) (subject : String) : Option Bytes := do
  let spki ← publicKeyOf store family.exportRoom keyId
  let names ← mbedtls.x509StringToNames (cStr subject)
  let info ← limited 4096 (some (infoEncoding (nameDer names) spki))
  let digest ← mbedtls.sha256Ret info
  let signature ← signed store family keyId digest.toList
  return pemText pemHeader pemFooter
    (requestEncoding info (signatureAlgorithm family.isEc) signature) ++ [0]

def Command.perform : Command → Option Product × State element
  | .random count => (some (.bytes (element.random store.draws count).toList), store.draw)
  | .provision keyId force kind =>
    let cleared := if force then store.store keyId none else store
    match kind with
    | none => (none, cleared)
    | some kind =>
      let made := provisioned cleared keyId kind
      ((publicKeyOf made kind.exportRoom keyId).map .bytes, made)
  | .publicKey family keyId => ((publicKeyOf store family.exportRoom keyId).map .bytes, store)
  | .sign family keyId input =>
    ((read input).bind fun data => (signed store family keyId (sha256 mbedtls data)).map .bytes, store)
  | .verify family keyId input signature =>
    ((read input).bind fun data => (read signature).bind fun bytes =>
      (verified store family keyId (sha256 mbedtls data) bytes).map .verdict, store)
  | .agree keyId peer =>
    match read peer with
    | none => (none, store)
    | some der => ((exchanged store keyId der).1.map .bytes, (exchanged store keyId der).2)
  | .encrypt keyId input =>
    ((read input).bind fun data => (limited 256 ((store.pairAt keyId).bind fun key =>
      element.encrypt key .rsaesPkcs1OaepSha256 data)).map .bytes, store)
  | .decrypt keyId input =>
    ((read input).bind fun data => (limited 256 ((store.pairAt keyId).bind fun key =>
      element.decrypt key .rsaesPkcs1OaepSha256 data)).map .bytes, store)
  | .request family keyId subject =>
    ((requested mbedtls nameDer store family keyId subject).map .text, store)

end Performing

/-! ## Invocations -/

section Invoking

variable {element : SecureElement} (platform : Platform)

/-- The terminal gets hexadecimal digits, text, or a verdict. -/
def Machine.hand (machine : Machine element) (out : String) : Product → Option Unit × Machine element
  | .bytes data => machine.accept platform out data (hexLine data)
  | .text text => machine.accept platform out text (text.takeWhile (· ≠ 0))
  | .verdict valid =>
    (some (), machine.print (asciiBytes (if valid then "VERIFY OK\n" else "VERIFY FAILED\n")))

/-- The exit code, if the command succeeds. -/
def Machine.settle (machine : Machine element) (out : String) :
    Option Product × State element → Option Nat × Machine element
  | (none, store) => (none, machine.withStore store)
  | (some product, store) =>
    let handed := (machine.withStore store).hand platform out product
    (handed.1.map fun _ => product.exitCode, handed.2)

def Platform.connects (platform : Platform) (a : Args) : Bool :=
  let port := if a.get "--port" ≠ "" then some (a.get "--port")
    else platform.getenv "EX_SSS_BOOT_SSS_PORT"
  platform.boot port == .success && platform.keyStoreInit == .success

variable (mbedtls : Mbedtls) (nameDer : mbedtls.Names → Bytes) (target : Target)

def Machine.obey (machine : Machine element) (a : Args) :
    Option Command → Option Nat × Machine element
  | none => (none, machine)
  | some command =>
    machine.settle platform (a.get "--out")
      (command.perform mbedtls nameDer (machine.read platform) machine.store)

/-- One invocation: its exit code and what it leaves behind. -/
def Machine.invoke (machine : Machine element) (argv : List String) : Nat × Machine element :=
  let a := parseArgs argv
  let obeyed := if platform.connects a then
    machine.obey platform mbedtls nameDer a (Command.ofArgs target a) else (none, machine)
  (obeyed.1.getD 1, obeyed.2)

end Invoking

end CppApp

end Se05x
