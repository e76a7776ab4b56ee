import Mathlib.Logic.Function.Basic
import Se05x.Host
import Se05x.Interaction.Contract

/-!
# The key store

Objects by identifier, and the calls that erase, install or overwrite one.
-/

set_option autoImplicit false

namespace Se05x

open Interaction

abbrev KeyStore (Object : Type) := KeyId → Option Object

variable {Object : Type}

namespace KeyStore

def erase (store : KeyStore Object) (keyId : KeyId) : KeyStore Object :=
  Function.update store keyId none

def install (store : KeyStore Object) (keyId : KeyId) (object : Object) : KeyStore Object :=
  Function.update store keyId (some object)

theorem install_eq_iff {store : KeyStore Object} {keyId : KeyId} {object : Object} :
    store.install keyId object = store ↔ store keyId = some object := by
  rw [install, Function.update_eq_self_iff, eq_comm]

theorem erase_eq_iff {store : KeyStore Object} {keyId : KeyId} :
    store.erase keyId = store ↔ store keyId = none := by
  rw [erase, Function.update_eq_self_iff, eq_comm]

end KeyStore

/-- The identifier whose object a call may create, overwrite or remove. -/
def SssCall.target : SssCall → Option KeyId
  | .keyStoreEraseKey keyObject => keyObject.keyId
  | .keyStoreGenerateKey keyObject _ => keyObject.keyId
  | .keyStoreSetKey keyObject _ _ => keyObject.keyId
  | .deriveKeyDh _ _ derived => derived.keyId
  | _ => none

def HostCall.target : HostCall → Option KeyId
  | .sss request => request.target
  | _ => none

/-- The event is an attempt to change the key store. -/
def mutates (event : Event host) : Bool := event.request.target.isSome

/-- A call that succeeds does what its name says; one that fails changes nothing. -/
def KeyStore.Moves (store : KeyStore Object) : Event host → KeyStore Object → Prop
  | ⟨.sss (.keyStoreEraseKey keyObject), .success⟩, after =>
    after = keyObject.keyId.elim store store.erase
  | ⟨.sss (.keyStoreGenerateKey keyObject _), .success⟩, after
  | ⟨.sss (.keyStoreSetKey keyObject _ _), .success⟩, after
  | ⟨.sss (.deriveKeyDh _ _ keyObject), .success⟩, after =>
    keyObject.keyId.elim (after = store) fun keyId => ∃ object, after = store.install keyId object
  | _, after => after = store

/-- The store after a call, where the object a call writes is determined by the call and the
store. -/
def KeyStore.change (written : KeyStore Object → SssCall → Object) (store : KeyStore Object) :
    Event host → KeyStore Object
  | ⟨.sss (.keyStoreEraseKey keyObject), .success⟩ => keyObject.keyId.elim store store.erase
  | ⟨.sss (.keyStoreGenerateKey keyObject keyBitLen), .success⟩ =>
    keyObject.keyId.elim store fun keyId =>
      store.install keyId (written store (.keyStoreGenerateKey keyObject keyBitLen))
  | ⟨.sss (.keyStoreSetKey keyObject data keyBitLen), .success⟩ =>
    keyObject.keyId.elim store fun keyId =>
      store.install keyId (written store (.keyStoreSetKey keyObject data keyBitLen))
  | ⟨.sss (.deriveKeyDh context otherParty derived), .success⟩ =>
    derived.keyId.elim store fun keyId =>
      store.install keyId (written store (.deriveKeyDh context otherParty derived))
  | _ => store

def keyStore (Object : Type) : Contract host (KeyStore Object) where
  allows _ _ := True
  moves := KeyStore.Moves

variable {store after : KeyStore Object} {trace : List (Event host)}

theorem KeyStore.moves_change {written : KeyStore Object → SssCall → Object} {event : Event host} :
    (keyStore Object).moves store event (store.change written event) := by
  have installs : ∀ (keyId : Option KeyId) (object : Object),
      keyId.elim ((keyId.elim store fun id => store.install id object) = store) fun id =>
        ∃ other, (keyId.elim store fun id => store.install id object) = store.install id other := by
    intro keyId object
    cases keyId with
    | none => rfl
    | some id => exact ⟨object, rfl⟩
  change store.Moves event (store.change written event)
  fun_cases KeyStore.change written store event with
  | case1 => rfl
  | case2 | case3 | case4 => exact installs _ _
  | case5 event noErase noGenerate noSet noDerive =>
      unfold KeyStore.Moves
      split
      · exact (noErase _ rfl).elim
      · exact (noGenerate _ _ rfl).elim
      · exact (noSet _ _ _ rfl).elim
      · exact (noDerive _ _ _ rfl).elim
      · rfl

theorem KeyStore.moves_erase_iff {keyId : KeyId} {st : SssStatus} :
    (keyStore Object).moves store ⟨.sss (.keyStoreEraseKey (.existing keyId)), st⟩ after ↔
      after = if st = .success then store.erase keyId else store := by
  cases st <;> rfl

theorem KeyStore.moves_iff_of_not_mutates {event : Event host} (quiet : mutates event = false) :
    (keyStore Object).moves store event after ↔ after = store := by
  have unbound : event.request.target = none := by simpa [mutates] using quiet
  obtain ⟨request, answer⟩ := event
  change store.Moves ⟨request, answer⟩ after ↔ _
  unfold Moves
  split <;> simp_all [HostCall.target, SssCall.target]

theorem KeyStore.change_of_not_mutates {written : KeyStore Object → SssCall → Object}
    {event : Event host} (quiet : mutates event = false) : store.change written event = store :=
  (moves_iff_of_not_mutates quiet).mp moves_change

/-- An object that a call does not aim at stays as it is. -/
theorem KeyStore.moves_frame {keyId : KeyId} {event : Event host}
    (moved : (keyStore Object).moves store event after) (apart : event.request.target ≠ some keyId) :
    after keyId = store keyId := by
  have installed : ∀ {target : Option KeyId}, target ≠ some keyId →
      target.elim (after = store) (fun other => ∃ object, after = store.install other object) →
      after keyId = store keyId := by
    intro target distinct written
    cases target with
    | none => exact congrFun written keyId
    | some other =>
        obtain ⟨object, rfl⟩ := written
        exact Function.update_of_ne (fun same => distinct (congrArg some same.symm)) _ _
  change store.Moves event after at moved
  unfold Moves at moved
  split at moved
  next keyObject =>
      have distinct : keyObject.keyId ≠ some keyId := apart
      rw [moved]
      cases named : keyObject.keyId with
      | none => rfl
      | some other =>
          rw [named] at distinct
          exact Function.update_of_ne (fun same => distinct (congrArg some same.symm)) _ _
  · exact installed apart moved
  · exact installed apart moved
  · exact installed apart moved
  · rw [moved]

/-- Only the attempts to change the store matter to it. -/
theorem KeyStore.history_filter_iff :
    (keyStore Object).History store (trace.filter mutates) after ↔
      (keyStore Object).History store trace after := by
  induction trace generalizing store with
  | nil => rfl
  | cons event trace ih =>
      cases kind : mutates event with
      | true => simp only [List.filter_cons_of_pos kind, Contract.history_cons_iff, ih]
      | false =>
          rw [List.filter_cons_of_neg (by rw [kind]; exact Bool.false_ne_true),
            Contract.history_cons_iff, ih]
          simp only [moves_iff_of_not_mutates kind, exists_eq_left]

end Se05x
