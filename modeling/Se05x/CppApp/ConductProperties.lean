import Se05x.CppApp.MainProperties

/-!
# How an invocation conducts itself

For every behaviour of the environment: the session is opened and closed once, the secure
element is called only in between, only the named files are read, and the result goes out at
most once, after the last call.
-/

set_option autoImplicit false

namespace Se05x.CppApp

open Der Interaction

/-- How far an invocation has come, and whether it has handed out its result. -/
inductive Stage where
  | starting
  | opened
  | working
  | finishing (delivered : Bool)
  | closed (delivered : Bool)
deriving DecidableEq, Repr

/-- An input file that the arguments name. -/
def Args.NamesInput (a : Args) (path : String) : Prop :=
  path = a.get "--in" ∨ path = a.get "--sig" ∨ path = a.get "--peer"

/-- The result goes to the named file, or to standard output if none is named. -/
def Stage.allows (a : Args) : Stage → HostCall → Prop
  | _, .printError _ => True
  | .starting, .getenv _ | .starting, .bootOpen _ => True
  | .opened, .keyStoreAndObjectInit => True
  | .working, .sss _ | .working, .allocate _ | .working, .sessionClose => True
  | .working, .readFile path => a.NamesInput path
  | .working, .writeFile path _ => path = a.get "--out" ∧ path ≠ ""
  | .working, .printOut _ => a.get "--out" = "" ∨ a.command = "verify"
  | .finishing _, .sessionClose => True
  | _, _ => False

def Stage.next : Stage → Event host → Stage
  | .starting, ⟨.bootOpen _, st⟩ => if st = .success then .opened else .closed false
  | .opened, ⟨.keyStoreAndObjectInit, st⟩ => if st = .success then .working else .finishing false
  | .working, ⟨.writeFile _ _, created⟩ => .finishing created
  | .working, ⟨.printOut _, _⟩ => .finishing true
  | .working, ⟨.sessionClose, _⟩ => .closed false
  | .finishing delivered, ⟨.sessionClose, _⟩ => .closed delivered
  | stage, _ => stage

/-- The session is over, or was never opened. -/
def Stage.Over : Stage → Prop
  | .starting | .closed _ => True
  | _ => False

section Commands

variable {a : Args} {Value : Type} {mbedtls : Mbedtls} {target : Target}

/-- A call a command makes before it has a result. -/
def Works (a : Args) : HostCall → Prop
  | .sss _ | .allocate _ | .printError _ => True
  | .readFile path => a.NamesInput path
  | _ => False

/-- A command with an exit code other than 1 has delivered its result; no other has. -/
def Fits (outcome : Except CppException Nat) (stage : Stage) : Prop :=
  match outcome with
  | .ok rc => if rc = 1 then stage = .working else stage = .finishing true
  | .error _ => stage = .working ∨ stage = .finishing false

end Commands

/-! ## Invocations -/

section Invocations

variable {mbedtls : Mbedtls} {target : Target} {statusCode : SssStatus → Nat} {argv : List String}
  {a : Args} {trace : List (Event host)} {ending : Ending}

/-- The result is out exactly if the exit code is not 1, and then the session is over. -/
def Settled (ending : Ending) (stage : Stage) : Prop :=
  stage.Over ∧ (stage = .closed true ↔ ending.rc ≠ 1)

end Invocations

section Examples

/-- A verification that is asked for and refused. -/
def refusedSignature : List String :=
  ["se05x_crypto_app", "ecc", "verify", "--id", "0x10", "--in", "message", "--sig", "signature"]

def refusedContext : KeyContext := ⟨.existing 0x10, .sha256, .verify⟩

def refusedSignatureTrace : List (Event host) :=
  [⟨.getenv "EX_SSS_BOOT_SSS_PORT", none⟩, ⟨.bootOpen none, .success⟩,
    ⟨.keyStoreAndObjectInit, .success⟩, ⟨.sss .keyObjectInit, .success⟩,
    ⟨.sss (.keyObjectGetHandle 0x10), .success⟩, ⟨.readFile "message", .contents [0x61]⟩,
    ⟨.readFile "signature", .contents [0x30]⟩,
    ⟨.sss (.asymmetricContextInit refusedContext), .success⟩,
    ⟨.sss (.asymmetricVerifyDigest refusedContext (sha256 .demo [0x61]) [0x30]), .fail⟩,
    ⟨.sss (.asymmetricContextFree (some refusedContext)), ()⟩,
    ⟨.printOut (asciiBytes "VERIFY FAILED\n"), ()⟩, ⟨.sessionClose, ()⟩]

theorem refusedSignature_runs :
    (main .demo .aarch64 (fun _ => 0) refusedSignature).Runs refusedSignatureTrace ⟨2, none⟩ :=
  .call (.call (.call (.call (.call (.call (.call (.call (.call (.call (.call (.call
    .done)))))))))))

end Examples

end Se05x.CppApp
