import Se05x.CppApp.CryptoProperties

/-!
# Lifetime of secure-subsystem contexts

A ledger of the contexts a call has initialised and not yet freed, and the wrapper's
operations that initialise any.
-/

set_option autoImplicit false

namespace Se05x.CppApp

open Der Interaction

inductive SssContext where
  | rng
  | asymmetric (context : KeyContext)
  | deriveKey (context : KeyContext)
deriving DecidableEq, Repr

/-- The context a call has successfully initialised. -/
def initialised : Event host → Option SssContext
  | ⟨.sss .rngContextInit, st⟩ => if st = .success then some .rng else none
  | ⟨.sss (.asymmetricContextInit context), st⟩ =>
    if st = .success then some (.asymmetric context) else none
  | ⟨.sss (.deriveKeyContextInit context), st⟩ =>
    if st = .success then some (.deriveKey context) else none
  | _ => none

/-- The context a call works with. -/
def used : HostCall → Option SssContext
  | .sss (.rngGetRandom _) => some .rng
  | .sss (.asymmetricSignDigest context _ _) => some (.asymmetric context)
  | .sss (.asymmetricVerifyDigest context _ _) => some (.asymmetric context)
  | .sss (.asymmetricEncrypt context _ _) => some (.asymmetric context)
  | .sss (.asymmetricDecrypt context _ _) => some (.asymmetric context)
  | .sss (.deriveKeyDh context _ _) => some (.deriveKey context)
  | _ => none

def freed : HostCall → Option SssContext
  | .sss .rngContextFree => some .rng
  | .sss (.asymmetricContextFree context) => context.map .asymmetric
  | .sss (.deriveKeyContextFree context) => context.map .deriveKey
  | _ => none

/-- A vector of the requested size could not be constructed. -/
def refused : Event host → Bool
  | ⟨.allocate _, .granted⟩ => false
  | ⟨.allocate _, _⟩ => true
  | _ => false

structure Ledger where
  live : List SssContext
  refusal : Bool
deriving DecidableEq, Repr

def Ledger.record (ledger : Ledger) (event : Event host) : Ledger where
  live := (initialised event).toList ++ ((freed event.request).elim ledger.live ledger.live.erase)
  refusal := ledger.refusal || refused event

/-- Only a live context is used or freed; freeing ends its life. -/
def contexts : Contract host Ledger :=
  .recording (fun ledger request => ∀ context ∈ (used request).or (freed request),
    context ∈ ledger.live) Ledger.record

/-- Every context was used only while it lived and freed exactly once by the end. -/
def Released (trace : List (Event host)) : Prop :=
  ∃ ledger, contexts.Accepts ⟨[], false⟩ trace ledger ∧ ledger.live = []

inductive Operation where
  | getRandom (numBytes : Nat)
  | ecSign (k : EcKey) (digest : Bytes)
  | ecVerify (k : EcKey) (digest signature : Bytes)
  | ecdh (k : EcKey) (peerPubKeyDer : Bytes)
  | rsaSign (k : RsaKey) (digest : Bytes)
  | rsaVerify (k : RsaKey) (digest signature : Bytes)
  | rsaEncrypt (k : RsaKey) (plaintext : Bytes)
  | rsaDecrypt (k : RsaKey) (ciphertext : Bytes)

abbrev Operation.Result : Operation → Type
  | .ecVerify _ _ _ | .rsaVerify _ _ _ => Bool
  | _ => Bytes

def Operation.perform : (operation : Operation) → Cpp operation.Result
  | .getRandom numBytes => CppApp.getRandom numBytes
  | .ecSign k digest => k.sign digest
  | .ecVerify k digest signature => k.verify digest signature
  | .ecdh k peerPubKeyDer => k.ecdh peerPubKeyDer
  | .rsaSign k digest => k.sign digest
  | .rsaVerify k digest signature => k.verify digest signature
  | .rsaEncrypt k plaintext => k.encrypt plaintext
  | .rsaDecrypt k ciphertext => k.decrypt ciphertext

/-- Whether the operation constructs its output vector between `init` and `free`. -/
def Operation.sizesBufferWhileLive : Operation → Bool
  | .ecVerify _ _ _ | .rsaVerify _ _ _ | .ecdh _ _ => false
  | _ => true

/-- One call after the other, each with its own run; a call that throws is over. -/
def CallsRun (operations : List Operation) (traces : List (List (Event host))) : Prop :=
  List.Forall₂ (fun operation trace => ∃ outcome, operation.perform.run.Runs trace outcome)
    operations traces

end Se05x.CppApp
