import Se05x.App.Entry
import Se05x.Sss.Store

/-!
# Keys of this run and keys of earlier ones

A key store whose objects remember where they come from, and which of its objects the
demos may use and change.
-/

set_option autoImplicit false

namespace Se05x.App

open Interaction

inductive Provenance where
  | earlierRun
  | generated
  /-- Imported or derived in this run, or what a failing call left behind. -/
  | other
deriving DecidableEq, Repr

structure StoredKey (Object : Type) where
  object : Object
  provenance : Provenance

abbrev Keys (Object : Type) := KeyStore (StoredKey Object)

/-- The store as earlier runs left it. -/
def leftBehind {Object : Type} (store : KeyStore Object) : Keys Object :=
  fun keyId => (store keyId).map (⟨·, .earlierRun⟩)

def Generated {Object : Type} (keys : Keys Object) (keyId : KeyId) : Prop :=
  ∃ object, keys keyId = some ⟨object, .generated⟩

/-- The identifiers of the stored keys a call works with. -/
def uses : HostCall → List KeyId
  | .sss (.keyStoreGetKey keyObject _) => keyObject.keyId.toList
  | .sss (.asymmetricSignDigest context _ _) => context.keyObject.keyId.toList
  | .sss (.asymmetricVerifyDigest context _ _) => context.keyObject.keyId.toList
  | .sss (.asymmetricEncrypt context _ _) => context.keyObject.keyId.toList
  | .sss (.asymmetricDecrypt context _ _) => context.keyObject.keyId.toList
  | .sss (.deriveKeyDh context otherParty _) =>
    context.keyObject.keyId.toList ++ otherParty.keyId.toList
  | _ => []

def generates : Event host → Bool
  | ⟨.sss (.keyStoreGenerateKey _ _), st⟩ => st == .success
  | _ => false

def owned : List KeyId := [demoKeyEcAlice, demoKeyEcBob, demoKeyEcShared, demoKeyRsa]

/-- A call changes at most the object it is bound to. What a successful generation installs
is generated; nothing else becomes so. Only the derived secret may be used without being. -/
def freshKeys (Object : Type) : Contract host (Keys Object) where
  allows keys request := (∀ keyId ∈ request.target, keyId ∈ owned) ∧
    ∀ keyId ∈ uses request, keyId = demoKeyEcShared ∨ Generated keys keyId
  moves keys event after := (∀ keyId, event.request.target ≠ some keyId → after keyId = keys keyId) ∧
    ∀ keyId ∈ event.request.target,
      if generates event then Generated after keyId
      else after keyId = keys keyId ∨ ¬ Generated after keyId

end Se05x.App
