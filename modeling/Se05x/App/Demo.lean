import Se05x.Host
import Se05x.Interaction.Procedure
import Se05x.Mbedtls

/-!
# The demo functions' common ground

Key identifiers and buffer sizes, the locals a cleanup label reads, and the ways out of a
demo's straight path.
-/

set_option autoImplicit false

namespace Se05x.App

open Der Interaction

def demoKeyEcAlice : KeyId := 0xEF000001
def demoKeyEcBob : KeyId := 0xEF000002
def demoKeyEcShared : KeyId := 0xEF000003
def demoKeyRsa : KeyId := 0xEF000010

def ecKeyBits : Nat := 256
def rsaKeyBits : Nat := 2048

def ecKeypairMaxBytes : Nat := 200
def rsaKeypairMaxBytes : Nat := 1600

def ecPubBufLen : Nat := 200
def ecSigBufLen : Nat := 128
def ecdhSharedBufLen : Nat := 64
def rsaPubBufLen : Nat := 512
def rsaSigBufLen : Nat := 256

inductive Exit where
  /-- `goto cleanup` with the status as it stands. -/
  | cleanup
  /-- `status = kStatus_SSS_Fail; goto cleanup`. -/
  | fail
  /-- The `return ret` inside `MBEDTLS_ASN1_CHK_ADD`. -/
  | leave (ret : Int)
deriving DecidableEq, Repr

/-- A context is absent while it is zeroed and after it has been freed. -/
structure Locals where
  status : SssStatus
  keyPair : SssObject
  bob : SssObject
  shared : SssObject
  asym : Option KeyContext
  dctx : Option KeyContext
  digCtx : Option DigestContext
deriving DecidableEq, Repr

def Locals.start : Locals := ⟨.fail, .zeroed, .zeroed, .zeroed, none, none, none⟩

def Locals.setKeyPair (l : Locals) (object : SssObject) : Locals := { l with keyPair := object }
def Locals.setBob (l : Locals) (object : SssObject) : Locals := { l with bob := object }
def Locals.setShared (l : Locals) (object : SssObject) : Locals := { l with shared := object }
def Locals.setAsym (l : Locals) (context : Option KeyContext) : Locals := { l with asym := context }

abbrev Body := Procedure host Locals Exit

def issue (request : HostCall) : Body request.Answer := Procedure.call (I := host) request

def sss (request : SssCall) : Body request.Answer := issue (.sss request)
def logInfo (text : String) : Body Unit := issue (.logInfo text)
def logError (text : String) : Body Unit := issue (.logError text)
def logBytes (label : String) (bytes : Bytes) : Body Unit := issue (.logBytes label bytes)

/-- `status = ...; ENSURE_OR_GO_CLEANUP(status == kStatus_SSS_Success)`. -/
def ensure (st : SssStatus) : Body Unit := do
  modify fun l => { l with status := st }
  if st = .success then pure () else throw .cleanup

/-- The body, then what follows the cleanup label. -/
def demo (body : Body Unit) (cleanup : Locals → Program host Unit) : Program host SssStatus := do
  let (outcome, l) ← body.start .start
  match outcome with
  | .ok () | .error .cleanup =>
    cleanup l
    return l.status
  | .error .fail =>
    cleanup { l with status := .fail }
    return .fail
  | .error (.leave ret) => return .other ret

def reportFailure (l : Locals) (text : String) : Program host Unit :=
  if l.status ≠ .success then ask (.logError text) else pure ()

/-- Errors are ignored. -/
def eraseKeyIfExists (keyId : KeyId) : Body Unit := do
  if (← sss .keyObjectInit) = .success then
    if (← sss (.keyObjectGetHandle keyId)) = .success then
      let _ ← sss (.keyStoreEraseKey (.existing keyId))
      sss (.keyObjectFree (.existing keyId))
    else
      sss (.keyObjectFree .initialised)

/-- Bind an object to a key that exists. -/
def getKeyHandle (keyId : KeyId) : Body Unit := do
  ensure (← sss .keyObjectInit)
  modify (Locals.setKeyPair · .initialised)
  ensure (← sss (.keyObjectGetHandle keyId))
  modify (Locals.setKeyPair · (.existing keyId))

/-- Bind an object to an identifier under which a key will be made. -/
def allocateKey (place : Locals → SssObject → Locals) (keyId : KeyId) (keyPart : KeyPart)
    (cipherType : CipherType) (keyByteLenMax : Nat) (mode : ObjectMode) : Body SssObject := do
  ensure (← sss .keyObjectInit)
  modify (place · .initialised)
  ensure (← sss (.keyObjectAllocateHandle keyId keyPart cipherType keyByteLenMax mode))
  let object := .allocated keyId keyPart cipherType keyByteLenMax mode
  modify (place · object)
  return object

def demoRng : Program host SssStatus :=
  demo
    (do
      logInfo "=== RNG Demo ==="
      ensure (← sss .rngContextInit)
      let (st, randomData) ← sss (.rngGetRandom 32)
      ensure st
      logBytes "SE RNG (32 bytes)" randomData.toList
      logInfo "RNG OK")
    (fun l => do
      ask (.sss .rngContextFree)
      reportFailure l "RNG demo FAILED")

end Se05x.App
