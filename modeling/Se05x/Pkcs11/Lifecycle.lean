import Se05x.Interaction.Ledger
import Se05x.Pkcs11.Cryptoki

/-!
# Life of a module

When each call may be made: the module is initialised before it is used and finalised at the
end, one session is opened and closed in between, and objects made in the session are
destroyed before it closes and not used afterwards.
-/

set_option autoImplicit false

namespace Se05x.Pkcs11

open Interaction

/-- What a call asks of the module's state. -/
inductive Kind where
  | host
  | loading
  | starting
  | stopping
  | general
  | opening
  | closing (session : SessionHandle)
  | working (session : SessionHandle) (used : List ObjectHandle)
  | creating (session : SessionHandle) (used : List ObjectHandle)
  | destroying (session : SessionHandle) (object : ObjectHandle)
deriving DecidableEq, Repr

def CryptokiCall.kind : CryptokiCall → Kind
  | .dlopen _ | .dlsym _ | .dlclose | .printf _ | .printError _ | .readCell _ _ => .host
  | .getFunctionList => .loading
  | .cInitialize => .starting
  | .cFinalize => .stopping
  | .getInfo | .countSlots _ | .getSlotList _ _ | .getSlotInfo _ | .getTokenInfo _
  | .countMechanisms _ | .getMechanismList _ _ => .general
  | .openSession _ => .opening
  | .closeSession session => .closing session
  | .generateRandom session _ | .digestInit session _ | .digest session _ _ | .sign session _ _
  | .verify session _ _ _ | .encrypt session _ _ | .decrypt session _ _ _
  | .findObjectsInit session | .findObjects session _ | .findObjectsFinal session =>
    .working session []
  | .getAttributeValue session object _ _ | .getObjectClass session object
  | .signInit session _ object | .verifyInit session _ object | .encryptInit session _ object
  | .decryptInit session _ object => .working session [object]
  | .generateKey session _ _ | .generateKeyPair session _ _ _ | .createObject session _ =>
    .creating session []
  | .deriveKey session _ base _ => .creating session [base]
  | .destroyObject session object => .destroying session object

/-- The return code of a call that starts, opens or creates, and the handle variables it was
given as they are afterwards. -/
def outcome : Event cryptoki → CkRv × List Nat
  | ⟨.cInitialize, rv⟩ => (rv, [])
  | ⟨.openSession _, opened⟩ => (opened.rv, [opened.handle])
  | ⟨.generateKey _ _ _, key⟩ | ⟨.createObject _ _, key⟩ | ⟨.deriveKey _ _ _ _, key⟩ =>
    (key.rv, [key.handle])
  | ⟨.generateKeyPair _ _ _ _, pair⟩ => (pair.rv, [pair.hPub, pair.hPriv])
  | _ => (ckrOk, [])

/-- The handles of the objects a call made. -/
def created (event : Event cryptoki) : List ObjectHandle :=
  match event.request.kind with
  | .creating _ _ => if (outcome event).1 = ckrOk then (outcome event).2 else []
  | _ => []

def destroyed (event : Event cryptoki) : List ObjectHandle :=
  match event.request.kind with
  | .destroying _ object => [object]
  | _ => []

def opened (event : Event cryptoki) : List SessionHandle :=
  match event.request.kind with
  | .opening => if (outcome event).1 = ckrOk then (outcome event).2 else []
  | _ => []

def closed (event : Event cryptoki) : List SessionHandle :=
  match event.request.kind with
  | .closing session => [session]
  | _ => []

/-- One entry for each successful `C_Initialize`. -/
def started (event : Event cryptoki) : List Unit :=
  match event.request.kind with
  | .starting => if (outcome event).1 = ckrOk then [()] else []
  | _ => []

/-- One entry for each `C_Finalize`. -/
def stopped (event : Event cryptoki) : List Unit :=
  match event.request.kind with
  | .stopping => [()]
  | _ => []

inductive Stage where
  | loaded
  | initialised
  | inSession (session : SessionHandle) (objects : Ledger ObjectHandle)
  | sessionClosed
  | finalised

namespace Stage

def objects : Stage → List ObjectHandle
  | .inSession _ objects => objects.held
  | _ => []

def next : Stage → Kind → CkRv × List Nat → Stage
  | .loaded, .starting, result => if result.1 = ckrOk then .initialised else .loaded
  | .initialised, .opening, result =>
    if result.1 = ckrOk then .inSession (result.2.headD 0) .empty else .initialised
  | .inSession session objects, .creating _ _, result =>
    if result.1 = ckrOk then .inSession session (result.2.foldl .acquire objects)
    else .inSession session objects
  | .inSession session objects, .destroying _ object, _ =>
    .inSession session (objects.release object)
  | .inSession _ _, .closing _, _ => .sessionClosed
  | .initialised, .stopping, _ | .sessionClosed, .stopping, _ => .finalised
  | stage, _, _ => stage

/-- Objects are destroyed once and in their session, not used after that, and all gone when
the session closes. After `C_Finalize` there is no call at all. -/
def permits : Stage → Kind → Prop
  | _, .host => True
  | .loaded, .loading | .loaded, .starting => True
  | .initialised, .general | .initialised, .opening | .initialised, .stopping => True
  | .inSession _ _, .general => True
  | .inSession session objects, .closing other => other = session ∧ objects.held = []
  | .inSession session objects, .working other used
  | .inSession session objects, .creating other used =>
    other = session ∧ ∀ object ∈ used, object ∉ objects.released
  | .inSession session objects, .destroying other object =>
    other = session ∧ object ∈ objects.held
  | .sessionClosed, .stopping => True
  | _, _ => False

end Stage

/-- A successful creating call gives handles that are not zero and not in use, and a failing
one leaves its handle variables, all zero before the call, as they are. -/
def Promised (stage : Stage) : Kind → CkRv × List Nat → Prop
  | .creating _ _, result =>
    if result.1 = ckrOk then
      result.2.Nodup ∧ ∀ handle ∈ result.2, handle ≠ ckInvalidHandle ∧ handle ∉ stage.objects
    else ∀ handle ∈ result.2, handle = ckInvalidHandle
  | _, _ => True

def lifecycle : Contract cryptoki Stage where
  allows stage request := stage.permits request.kind
  moves stage event after :=
    Promised stage event.request.kind (outcome event) ∧
      after = stage.next event.request.kind (outcome event)

end Se05x.Pkcs11
