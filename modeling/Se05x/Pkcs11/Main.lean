import Se05x.Pkcs11.EcdhDerive
import Se05x.Pkcs11.EncryptDecrypt
import Se05x.Pkcs11.Keys
import Se05x.Pkcs11.Listings

/-!
# The PKCS#11 demo suite

Loading the module, the session, and the ten demos run in it.
-/

set_option autoImplicit false

namespace Se05x.Pkcs11

open Der Interaction

def printSection (title : String) : Program cryptoki Unit :=
  call (.printf s!"\n====  {padRight 46 title} ====\n")

def demos (session : SessionHandle) : List (String × Program cryptoki Int) :=
  [("run_module_info", runModuleInfo session),
    ("run_random_gen", runRandomGen session),
    ("run_digest", runDigest session),
    ("run_sym_key_gen", runSymKeyGen session),
    ("run_import_object", runImportObject session),
    ("run_ecc", runEcc session),
    ("run_rsa", runRsa session),
    ("run_ecdh_derive", runEcdhDerive session),
    ("run_hmac", runHmac session),
    ("run_encrypt_decrypt", runEncryptDecrypt session)]

/-- `RUN`, one demo after the other. -/
def runAll : List (String × Program cryptoki Int) → Int → Program cryptoki Int
  | [], rc => return rc
  | (name, fn) :: rest, rc => do
    printSection name
    let result ← fn
    if result ≠ 0 then do
      call (.printf "  [DEMO FAILED]\n")
      runAll rest 1
    else runAll rest rc

/-- From the open session to its end. -/
def inSession (session : SessionHandle) : Program cryptoki Int := do
  call (.printf s!"Session: {session}\n")
  let rc ← runAll (demos session) 0
  let verdict := if rc = 0 then "PASSED" else "FAILED (see above)"
  call (.printf s!"\n=== Demo suite {verdict} ===\n")
  let _ ← call (.closeSession session)
  return rc

/-- From the initialised module to the `finalize` label. The second slot list is used
whatever its call returns. -/
def inModule : Program cryptoki Int := do
  let slotCount ← call (.countSlots true)
  if slotCount.rv ≠ ckrOk ∨ slotCount.count = 0 then do
    call (.printError "No PKCS#11 slots with token present — is the SE connected?\n")
    call (.printError s!"C_GetSlotList: rv={hex slotCount.rv} count={slotCount.count}\n")
    return 1
  else do
    let slots ← call (.getSlotList true (min slotCount.count 8))
    let slot ← readCell .slots slots.cells 0
    call (.printf s!"Slots: {slots.count} (using ID {slot})\n")
    let opened ← call (.openSession slot)
    if opened.rv ≠ ckrOk then do
      call (.printError s!"C_OpenSession: {hex opened.rv}\n")
      return 1
    else inSession opened.handle

def findFunctionList : Program cryptoki Bool := do
  let getFnList ← call (.dlsym "C_GetFunctionList")
  if getFnList then do
    let p11 ← call .getFunctionList
    return p11.1 = ckrOk ∧ p11.2
  else return false

/-- From the loaded library to the `done` label. -/
def inLibrary (libPath : String) : Program cryptoki Int := do
  let found ← findFunctionList
  if found then do
    call (.printf "SE051 PKCS#11 Demo Suite\n")
    call (.printf s!"Library: {libPath}\n")
    let rv ← call .cInitialize
    if rv ≠ ckrOk then do
      call (.printError s!"C_Initialize: {hex rv}\n")
      return 1
    else do
      let rc ← inModule
      let _ ← call .cFinalize
      return rc
  else do
    call (.printError "C_GetFunctionList failed\n")
    return 1

def main (argv : List String) : Program cryptoki Int := do
  let libPath := argv[1]?.getD "libsss_pkcs11.so"
  match ← call (.dlopen libPath) with
  | some dlerror => do
    call (.printError s!"dlopen({libPath}): {dlerror}\n")
    return 1
  | none => do
    let rc ← inLibrary libPath
    call .dlclose
    return rc

end Se05x.Pkcs11
