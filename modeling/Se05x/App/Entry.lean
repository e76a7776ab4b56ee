import Se05x.App.Csr
import Se05x.App.Keys

/-!
# The demo application

The demos run one after the other until the first that does not succeed.
-/

set_option autoImplicit false

namespace Se05x.App

open Interaction

/-- The demos with their labels, in order. -/
def demos (mbedtls : Mbedtls) : List (Program host SssStatus × String) :=
  [(demoRng, "RNG"), (demoEcKeygen, "EC keygen"), (demoEcSignVerify, "EC sign/verify"),
    (demoEcEcdh, "EC ECDH"), (demoEcCsr mbedtls, "EC CSR"), (demoRsaKeygen, "RSA keygen"),
    (demoRsaSignVerify, "RSA sign/verify"), (demoRsaEncDec, "RSA enc/dec"),
    (demoRsaCsr mbedtls, "RSA CSR")]

/-- The `RUN` lines: abort at the first failure. -/
def runDemos : List (Program host SssStatus × String) → Program host SssStatus
  | [] => do
    ask (.logInfo "============================================")
    ask (.logInfo "SE051 Crypto Demo — ALL DEMOS PASSED")
    return .success
  | (fn, label) :: rest => do
    ask (.logInfo "--------------------------------------------")
    let status ← fn
    if status ≠ .success then
      ask (.logError ("DEMO ABORTED at: " ++ label))
      return status
    else
      runDemos rest

def exSssEntry (mbedtls : Mbedtls) : Program host SssStatus := do
  ask (.logInfo "SE051 Crypto Demo — starting")
  let status ← runDemos (demos mbedtls)
  if status ≠ .success then
    ask (.logError "SE051 Crypto Demo — FAILED")
    return status
  else
    return status

end Se05x.App
