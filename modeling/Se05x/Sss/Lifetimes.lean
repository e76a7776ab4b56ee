import Mathlib.Data.Multiset.AddSub
import Se05x.Host
import Se05x.Interaction.Contract

/-!
# Live objects and contexts

What a program holds of the secure subsystem: the key objects it has initialised and the
contexts it has opened, until it gives them back.
-/

set_option autoImplicit false

namespace Se05x

open Der Interaction

inductive SssResource where
  /-- A random number context that was handed to its init, whatever the init answered. -/
  | rngContext
  /-- A random number context whose init succeeded. -/
  | rng
  | object (keyObject : SssObject)
  | asymmetric (context : KeyContext)
  | deriveKey (context : KeyContext)
  | digest (context : DigestContext)
deriving DecidableEq, Repr

abbrev Holdings := Multiset SssResource

/-- What a variable stands for: nothing while it is zeroed. -/
def SssObject.live : SssObject → Holdings
  | .zeroed => 0
  | object => {.object object}

def live {Context : Type} (resource : Context → SssResource) : Option Context → Holdings
  | none => 0
  | some context => {resource context}

/-- A context is freed while the object it was opened for is live. -/
def freed (resource : KeyContext → SssResource) : Option KeyContext → Holdings
  | none => 0
  | some context => {resource context, .object context.keyObject}

/-- What must be live for a call. A context works on the object it was opened for. To free a
variable that is zeroed does nothing; a random number context may be freed after an init that
failed, but not without one. -/
def SssCall.uses : SssCall → Holdings
  | .rngContextInit | .keyObjectInit | .digestContextInit _ => 0
  | .rngGetRandom _ => {.rng}
  | .rngContextFree => {.rngContext}
  | .keyObjectGetHandle _ | .keyObjectAllocateHandle _ _ _ _ _ => {.object .initialised}
  | .keyObjectFree keyObject => keyObject.live
  | .keyStoreEraseKey keyObject | .keyStoreGenerateKey keyObject _ | .keyStoreSetKey keyObject _ _
  | .keyStoreGetKey keyObject _ => {.object keyObject}
  | .asymmetricContextInit context | .deriveKeyContextInit context => {.object context.keyObject}
  | .asymmetricSignDigest context _ _ | .asymmetricVerifyDigest context _ _
  | .asymmetricEncrypt context _ _ | .asymmetricDecrypt context _ _ =>
    {.asymmetric context, .object context.keyObject}
  | .asymmetricContextFree context => freed .asymmetric context
  | .deriveKeyDh context otherParty derived =>
    {.deriveKey context, .object context.keyObject, .object otherParty, .object derived}
  | .deriveKeyContextFree context => freed .deriveKey context
  | .digestOneGo context _ _ => {.digest context}
  | .digestContextFree context => Se05x.live .digest context

/-- What is held after a call. Binding an object uses up the unbound one. -/
def Holdings.book (held : Holdings) : Event host → Holdings
  | ⟨.sss .rngContextInit, st⟩ =>
    .rngContext ::ₘ if st = .success then .rng ::ₘ held else held
  | ⟨.sss .rngContextFree, _⟩ => (held.erase .rngContext).erase .rng
  | ⟨.sss .keyObjectInit, st⟩ => if st = .success then .object .initialised ::ₘ held else held
  | ⟨.sss (.keyObjectGetHandle keyId), st⟩ =>
    if st = .success then .object (.existing keyId) ::ₘ held.erase (.object .initialised) else held
  | ⟨.sss (.keyObjectAllocateHandle keyId keyPart cipherType keyByteLenMax mode), st⟩ =>
    if st = .success then
      .object (.allocated keyId keyPart cipherType keyByteLenMax mode) ::ₘ
        held.erase (.object .initialised)
    else held
  | ⟨.sss (.keyObjectFree keyObject), _⟩ => held - keyObject.live
  | ⟨.sss (.asymmetricContextInit context), st⟩ =>
    if st = .success then .asymmetric context ::ₘ held else held
  | ⟨.sss (.asymmetricContextFree context), _⟩ => held - live .asymmetric context
  | ⟨.sss (.deriveKeyContextInit context), st⟩ =>
    if st = .success then .deriveKey context ::ₘ held else held
  | ⟨.sss (.deriveKeyContextFree context), _⟩ => held - live .deriveKey context
  | ⟨.sss (.digestContextInit context), st⟩ =>
    if st = .success then .digest context ::ₘ held else held
  | ⟨.sss (.digestContextFree context), _⟩ => held - live .digest context
  | _ => held

/-- Nothing is used, freed or bound that is not held. -/
def lifetimes : Contract host Holdings :=
  .recording (fun held request => match request with
    | .sss request => request.uses ⊆ held
    | _ => True) Holdings.book

end Se05x
