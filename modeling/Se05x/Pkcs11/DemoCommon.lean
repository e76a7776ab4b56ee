import Se05x.Interaction.Procedure
import Se05x.Der.Pem
import Se05x.Pkcs11.Cryptoki

/-!
# The PKCS#11 demos' common ground

The locals a demo's cleanup reads, and the helpers and macros of `demo_common.h`.
-/

set_option autoImplicit false

namespace Se05x.Pkcs11

open Der Interaction

def ecP256 : Bytes := [0x06, 0x08, 0x2A, 0x86, 0x48, 0xCE, 0x3D, 0x03, 0x01, 0x07]
def ecP384 : Bytes := [0x06, 0x05, 0x2B, 0x81, 0x04, 0x00, 0x22]
def ecP521 : Bytes := [0x06, 0x05, 0x2B, 0x81, 0x04, 0x00, 0x23]

def rsaE : Bytes := [0x01, 0x00, 0x01]

/-- The handle variables of all demos, under their names there. -/
inductive HandleVar where
  | hKey | hPub | hPriv | hAes | hRsaPub | hRsaPriv
  | hAlicePub | hAlicePriv | hBobPub | hBobPriv | hShared1 | hShared2
deriving DecidableEq, Repr

structure Locals where
  rc : Int
  handles : HandleVar → ObjectHandle

namespace Locals

def start : Locals := ⟨0, fun _ => ckInvalidHandle⟩

def setHandle (l : Locals) (h : HandleVar) (value : ObjectHandle) : Locals :=
  { l with handles := fun other => if other = h then value else l.handles other }

def fail (l : Locals) : Locals := { l with rc := 1 }

@[simp] theorem setHandle_rc {l : Locals} {h : HandleVar} {value : ObjectHandle} :
    (l.setHandle h value).rc = l.rc := rfl

@[simp] theorem setHandle_self {l : Locals} {h : HandleVar} {value : ObjectHandle} :
    (l.setHandle h value).handles h = value := if_pos rfl

theorem setHandle_other {l : Locals} {h other : HandleVar} {value : ObjectHandle}
    (distinct : other ≠ h) : (l.setHandle h value).handles other = l.handles other :=
  if_neg distinct

@[simp] theorem fail_rc {l : Locals} : l.fail.rc = 1 := rfl

@[simp] theorem fail_handles {l : Locals} : l.fail.handles = l.handles := rfl

end Locals

/-- Where a demo jumps to. `continue` jumps to the end of the loop's body. -/
inductive Label where
  | cleanup
  | next
  | loopEnd
deriving DecidableEq, Repr

abbrev Body := Procedure cryptoki Locals Label

def issue (request : CryptokiCall) : Body request.Answer := Procedure.call (I := cryptoki) request

def printf (text : String) : Body Unit := issue (.printf text)

def padLeft (width : Nat) (filler : Char) (text : String) : String :=
  "".pushn filler (width - text.length) ++ text

def padRight (width : Nat) (text : String) : String :=
  text ++ "".pushn ' ' (width - text.length)

/-- `%08lX` behind a `0x`. -/
def hex (value : Nat) : String :=
  "0x" ++ padLeft 8 '0' (String.ofList ((Nat.toDigits 16 value).map Char.toUpper))

def printHex (label : String) (buffer : Bytes) (len : Nat) : Body Unit :=
  printf ("  " ++ padRight 26 label ++ "(" ++ padLeft 3 ' ' (toString len) ++ " B): " ++
    String.join ((buffer.take (min len 48)).map fun octet =>
      padLeft 2 '0' (String.ofList (Nat.toDigits 16 octet.toNat))) ++
    (if len > 48 then "...\n" else "\n"))

/-- Print a failure and set `rc = 1`. -/
def markFailed (text : String) : Body Unit := do
  printf text
  modify Locals.fail

/-- `rc = 1` and a jump, unless the call succeeded. -/
def requireOk (label : Label) (failure : String) (rv : CkRv) : Body Unit :=
  if rv ≠ ckrOk then do
    markFailed s!"{failure}{hex rv}\n"
    throw label
  else pure ()

/-- A jump that leaves `rc` as it is, unless the call succeeded. -/
def skipUnlessOk (label : Label) (skipped : String) (rv : CkRv) : Body Unit :=
  if rv ≠ ckrOk then do
    printf s!"{skipped}{hex rv}\n"
    throw label
  else pure ()

/-- `CK_CHECK`. -/
def ckCheck (call : String) (rv : CkRv) : Body Unit := do
  requireOk .cleanup s!"  [FAIL] {call}: " rv
  printf s!"  [OK]   {call}\n"

/-- `DESTROY`. -/
def destroy (session : SessionHandle) (h : HandleVar) : Body Unit := do
  let l ← get
  if l.handles h ≠ ckInvalidHandle then do
    let _ ← issue (.destroyObject session (l.handles h))
    modify (Locals.setHandle · h ckInvalidHandle)
  else pure ()

/-- A handle variable of an inner block comes into scope. -/
def declare (h : HandleVar) : Body Unit := modify (Locals.setHandle · h ckInvalidHandle)

/-- The out-parameter is set whatever the call returns. -/
def generateKey (session : SessionHandle) (mechanism : Mechanism) (template : Template)
    (phKey : HandleVar) : Body CkRv := do
  let key ← issue (.generateKey session mechanism template)
  modify (Locals.setHandle · phKey key.handle)
  return key.rv

def generateKeyPair (session : SessionHandle) (mechanism : Mechanism)
    (publicTemplate privateTemplate : Template) (phPub phPriv : HandleVar) : Body CkRv := do
  let pair ← issue (.generateKeyPair session mechanism publicTemplate privateTemplate)
  modify fun l => (l.setHandle phPub pair.hPub).setHandle phPriv pair.hPriv
  return pair.rv

def createObject (session : SessionHandle) (template : Template) (phObject : HandleVar) :
    Body CkRv := do
  let object ← issue (.createObject session template)
  modify (Locals.setHandle · phObject object.handle)
  return object.rv

def deriveKey (session : SessionHandle) (mechanism : Mechanism) (hBase : HandleVar)
    (template : Template) (phKey : HandleVar) : Body CkRv := do
  let l ← get
  let key ← issue (.deriveKey session mechanism (l.handles hBase) template)
  modify (Locals.setHandle · phKey key.handle)
  return key.rv

def getAttributeValue (session : SessionHandle) (h : HandleVar) (type : AttributeType)
    (capacity : Nat) : Body (Output capacity) := do
  let l ← get
  issue (.getAttributeValue session (l.handles h) type capacity)

def signInit (session : SessionHandle) (mechanism : Mechanism) (h : HandleVar) : Body CkRv := do
  let l ← get
  issue (.signInit session mechanism (l.handles h))

def verifyInit (session : SessionHandle) (mechanism : Mechanism) (h : HandleVar) : Body CkRv := do
  let l ← get
  issue (.verifyInit session mechanism (l.handles h))

def encryptInit (session : SessionHandle) (mechanism : Mechanism) (h : HandleVar) : Body CkRv := do
  let l ← get
  issue (.encryptInit session mechanism (l.handles h))

def decryptInit (session : SessionHandle) (mechanism : Mechanism) (h : HandleVar) : Body CkRv := do
  let l ← get
  issue (.decryptInit session mechanism (l.handles h))

/-- Print a line with the values of handle variables in it. -/
def printHandles (text : (HandleVar → ObjectHandle) → String) : Body Unit := do
  let l ← get
  printf (text l.handles)

/-- Print an attribute of an object if the module gives it. -/
def exportAndPrint (session : SessionHandle) (h : HandleVar) (type : AttributeType)
    (capacity : Nat) (label : String) : Body Unit := do
  let output ← getAttributeValue session h type capacity
  if output.rv = ckrOk then printHex label output.buffer.toList output.length else pure ()

/-- A verification that fails to start gives the code of its start. -/
def verifyInitAndVerify {capacity : Nat} (session : SessionHandle) (mechanism : Mechanism)
    (h : HandleVar) (data : Bytes) (sig : Output capacity) : Body CkRv := do
  let rv ← verifyInit session mechanism h
  if rv = ckrOk then issue (.verify session data sig.buffer.toList sig.length) else pure rv

/-- A demo function: its body up to the cleanup label, then the handles released there. The
other labels lie inside the body, so every jump out of it leads to `cleanup`. -/
def demo (session : SessionHandle) (heading : String) (body : Body Unit)
    (released : List HandleVar) : Program cryptoki Int := do
  let finished ← (do
    printf heading
    body.toEnd
    released.forM (destroy session)
    printf "\n" : Body Unit).start .start
  return finished.2.rc

end Se05x.Pkcs11
