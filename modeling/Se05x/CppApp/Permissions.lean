import Se05x.CppApp.CryptoProperties
import Se05x.CppApp.Main
import Se05x.Interaction.Confinement

/-!
# What the operations need to be allowed

The operations on a key handle touch no other key object and throw only for failed calls and
allocations; the commands add the output they make.
-/

set_option autoImplicit false

namespace Se05x

open Interaction

/-- The key object a call binds, erases or generates. The scratch objects of `ecdh` are no
key pairs and have fixed identifiers. -/
def HostCall.keyObject : HostCall → Option KeyId
  | .sss (.keyObjectGetHandle keyId) => some keyId
  | .sss (.keyObjectAllocateHandle keyId .pair _ _ _) => some keyId
  | .sss (.keyStoreEraseKey keyObject) => keyObject.keyId
  | .sss (.keyStoreGenerateKey keyObject _) => keyObject.keyId
  | _ => none

namespace CppApp

open Der

/-- The calls about no key object are allowed, and the exceptions for failed calls. -/
structure Permits (calls : HostCall → Prop) (errors : CppException → Prop) : Prop where
  keyless : ∀ request : SssCall, (HostCall.sss request).keyObject = none → calls (.sss request)
  allocate : ∀ size, calls (.allocate size)
  crypto : ∀ message status, errors (.crypto message status)
  allocation : ∀ answer, errors (allocationException answer)

structure PermitsOutput (calls : HostCall → Prop) (errors : CppException → Prop) : Prop where
  writeFile : ∀ path data, calls (.writeFile path data)
  printOut : ∀ text, calls (.printOut text)
  printError : ∀ text, calls (.printError text)
  cannotOpen : ∀ path, errors (.cannotOpenOutput path)

section Operations

variable {calls : HostCall → Prop} {errors : CppException → Prop} {mbedtls : Mbedtls}
  {target : Target}

theorem check_confined (crypto : ∀ message status, errors (.crypto message status))
    {st : SssStatus} {place : String} : Confined calls errors (check st place) := by
  rw [check]
  split
  · exact .returning
  · exact .throwing (crypto _ _)

/-- A call whose status is checked, before the rest. -/
theorem checked_confined {Value : Type} {source : Cpp SssStatus} {place : String}
    {continuation : Unit → Cpp Value} (crypto : ∀ message status, errors (.crypto message status))
    (issued : Confined calls errors source) (rest : Confined calls errors (continuation ())) :
    Confined calls errors (source >>= fun st => check st place >>= continuation) :=
  .bind issued fun _ => .bind (check_confined crypto) fun _ => rest

theorem openHandle_confined (crypto : ∀ message status, errors (.crypto message status))
    {keyId : KeyId} (initialised : calls (.sss .keyObjectInit))
    (bound : calls (.sss (.keyObjectGetHandle keyId))) :
    Confined calls errors (openHandle keyId) :=
  checked_confined crypto (.issuing initialised)
    (checked_confined crypto (.issuing bound) .returning)

theorem chk_fails (crypto : ∀ message status, errors (.crypto message status)) {len : Int}
    {result : Int × Buffer} : OnlyFails errors (chk len result) := by
  rw [chk]
  split
  · exact onlyFails_error_iff.mpr (crypto _ _)
  · exact onlyFails_ok

theorem buildCri_fails (crypto : ∀ message status, errors (.crypto message status))
    {subjectDn : String} {spki : Bytes} : OnlyFails errors (buildCri mbedtls subjectDn spki) := by
  rw [buildCri]
  cases mbedtls.x509StringToNames (cStr subjectDn) with
  | none => exact onlyFails_error_iff.mpr (crypto _ _)
  | some names =>
      refine .bind onlyFails_ok fun _ => ?_
      refine .bind (chk_fails crypto) fun _ => ?_
      refine .bind (chk_fails crypto) fun _ => ?_
      dsimp only
      split
      · exact onlyFails_error_iff.mpr (crypto _ _)
      split
      · exact onlyFails_error_iff.mpr (crypto _ _)
      · refine .bind (chk_fails crypto) fun _ => ?_
        refine .bind (chk_fails crypto) fun _ => ?_
        refine .bind (chk_fails crypto) fun _ => ?_
        exact onlyFails_ok

theorem writeSigAlgId_fails (crypto : ∀ message status, errors (.crypto message status))
    {c : Buffer} {isEc : Bool} : OnlyFails errors (writeSigAlgId mbedtls c isEc) := by
  cases isEc with
  | false => exact chk_fails crypto
  | true =>
      refine .bind (chk_fails crypto) fun _ => ?_
      refine .bind (chk_fails crypto) fun _ => ?_
      exact chk_fails crypto

theorem assembleCsr_fails (crypto : ∀ message status, errors (.crypto message status))
    {cri signature : Bytes} {isEc : Bool} :
    OnlyFails errors (assembleCsr mbedtls target cri signature isEc) := by
  have encoding : ∀ der, OnlyFails errors (toPem mbedtls der) := by
    intro der
    rw [toPem]
    split
    · exact onlyFails_error_iff.mpr (crypto _ _)
    · exact onlyFails_ok
  refine .bind (.bind (chk_fails crypto) fun _ => .bind (writeSigAlgId_fails crypto) fun _ => ?_)
    encoding
  dsimp only
  split
  · exact onlyFails_error_iff.mpr (crypto _ _)
  · refine .bind (chk_fails crypto) fun _ => ?_
    refine .bind (chk_fails crypto) fun _ => ?_
    exact onlyFails_ok

theorem allocate_confined (allocation : ∀ answer, errors (allocationException answer)) {size : Nat}
    (permitted : calls (.allocate size)) : Confined calls errors (allocate size) := by
  refine .bind (.issuing permitted) fun answer => ?_
  cases answer with
  | granted => exact .returning
  | badAlloc => exact .throwing (allocation .badAlloc)
  | lengthError => exact .throwing (allocation .lengthError)

variable (permits : Permits calls errors)

include permits

theorem getRandom_confined {numBytes : Nat} : Confined calls errors (getRandom numBytes) := by
  refine checked_confined permits.crypto (.issuing (permits.keyless _ rfl)) ?_
  refine .bind (allocate_confined permits.allocation (permits.allocate _)) fun _ => ?_
  refine .bind (.issuing (permits.keyless _ rfl)) fun _ => ?_
  exact .bind (.issuing (permits.keyless _ rfl)) fun _ =>
    .bind (check_confined permits.crypto) fun _ => .returning

theorem asymmetricOutput_confined {context : KeyContext} {initPlace place : String} {size : Nat}
    {operation : Program host (SssStatus × Filled size)}
    (working : Confined calls errors (ExceptT.lift operation)) :
    Confined calls errors (asymmetricOutput context initPlace size operation place) := by
  refine checked_confined permits.crypto (.issuing (permits.keyless _ rfl)) ?_
  refine .bind (allocate_confined permits.allocation (permits.allocate _)) fun _ => ?_
  refine .bind working fun _ => ?_
  exact .bind (.issuing (permits.keyless _ rfl)) fun _ =>
    .bind (check_confined permits.crypto) fun _ => .returning

theorem asymmetricVerify_confined {context : KeyContext} {initPlace : String}
    {digest signature : Bytes} :
    Confined calls errors (asymmetricVerify context initPlace digest signature) := by
  refine checked_confined permits.crypto (.issuing (permits.keyless _ rfl)) ?_
  exact .bind (.issuing (permits.keyless _ rfl)) fun _ =>
    .bind (.issuing (permits.keyless _ rfl)) fun _ => .returning

theorem export_confined {obj : SssObject} {capacity : Nat} {place : String} :
    Confined calls errors (do
      allocate capacity
      let (st, buf) ← sss (.keyStoreGetKey obj capacity)
      check st place
      return buf.val) :=
  .bind (allocate_confined permits.allocation (permits.allocate _)) fun _ =>
    .bind (.issuing (permits.keyless _ rfl)) fun _ =>
      .bind (check_confined permits.crypto) fun _ => .returning

theorem EcKey.sign_confined {k : EcKey} {digest : Bytes} : Confined calls errors (k.sign digest) :=
  asymmetricOutput_confined permits (.issuing (permits.keyless _ rfl))

theorem RsaKey.sign_confined {k : RsaKey} {digest : Bytes} :
    Confined calls errors (k.sign digest) :=
  asymmetricOutput_confined permits (.issuing (permits.keyless _ rfl))

theorem RsaKey.encrypt_confined {k : RsaKey} {plaintext : Bytes} :
    Confined calls errors (k.encrypt plaintext) :=
  asymmetricOutput_confined permits (.issuing (permits.keyless _ rfl))

theorem RsaKey.decrypt_confined {k : RsaKey} {ciphertext : Bytes} :
    Confined calls errors (k.decrypt ciphertext) :=
  asymmetricOutput_confined permits (.issuing (permits.keyless _ rfl))

theorem EcKey.ecdh_confined {k : EcKey} {peer : Bytes} : Confined calls errors (k.ecdh peer) := by
  refine checked_confined permits.crypto (.issuing (permits.keyless _ rfl)) ?_
  refine checked_confined permits.crypto (.issuing (permits.keyless _ rfl)) ?_
  refine checked_confined permits.crypto (.issuing (permits.keyless _ rfl)) ?_
  refine checked_confined permits.crypto (.issuing (permits.keyless _ rfl)) ?_
  refine checked_confined permits.crypto (.issuing (permits.keyless _ rfl)) ?_
  refine checked_confined permits.crypto (.issuing (permits.keyless _ rfl)) ?_
  refine .bind (.issuing (permits.keyless _ rfl)) fun _ => ?_
  refine .bind (.issuing (permits.keyless _ rfl)) fun _ => ?_
  exact .bind (check_confined permits.crypto) fun _ => export_confined permits

theorem makeCsrImpl_confined {subjectDn : String} {spki : Bytes} {sign : Bytes → Cpp Bytes}
    {isEc : Bool} (signing : ∀ digest, Confined calls errors (sign digest)) :
    Confined calls errors (makeCsrImpl mbedtls target subjectDn spki sign isEc) := by
  refine .bind (.ofExcept (buildCri_fails permits.crypto)) fun cri => ?_
  cases mbedtls.sha256Ret cri with
  | none => exact .throwing (permits.crypto _ _)
  | some digest => exact .bind (signing _) fun _ => .ofExcept (assembleCsr_fails permits.crypto)

theorem EcKey.makeCsr_confined {k : EcKey} {subjectDn : String} :
    Confined calls errors (k.makeCsr mbedtls target subjectDn) :=
  .bind (export_confined permits) fun _ =>
    makeCsrImpl_confined permits fun _ => EcKey.sign_confined permits

theorem RsaKey.makeCsr_confined {k : RsaKey} {subjectDn : String} :
    Confined calls errors (k.makeCsr mbedtls target subjectDn) :=
  .bind (export_confined permits) fun _ =>
    makeCsrImpl_confined permits fun _ => RsaKey.sign_confined permits

theorem EcKey.generate_confined {keyId : KeyId} {curve : EcCurve}
    (keyed : ∀ request, request.keyObject = some keyId → calls request) :
    Confined calls errors (EcKey.generate keyId curve) :=
  checked_confined permits.crypto (.issuing (permits.keyless _ rfl))
    (checked_confined permits.crypto (.issuing (keyed _ rfl))
      (checked_confined permits.crypto (.issuing (keyed _ rfl)) .returning))

theorem RsaKey.generate_confined {keyId : KeyId} {bits : RsaBits}
    (keyed : ∀ request, request.keyObject = some keyId → calls request) :
    Confined calls errors (RsaKey.generate keyId bits) :=
  checked_confined permits.crypto (.issuing (permits.keyless _ rfl))
    (checked_confined permits.crypto (.issuing (keyed _ rfl))
      (checked_confined permits.crypto (.issuing (keyed _ rfl)) .returning))

end Operations

section Output

variable {calls : HostCall → Prop} {errors : CppException → Prop} {a : Args}

theorem readFile_confined {path : String} (read : calls (.readFile path)) :
    Confined calls (fun _ => True) (readFile path) := by
  refine .bind (.issuing read) fun file => ?_
  cases file with
  | cannotOpen | failed what => exact .throwing trivial
  | contents bytes => exact .returning

variable (permits : PermitsOutput calls errors)

include permits

theorem writeFile_confined {path : String} {d : Bytes} :
    Confined calls errors (writeFile path d) := by
  refine .bind (.issuing (permits.writeFile path d)) fun opened => ?_
  cases opened with
  | false => exact .throwing (permits.cannotOpen path)
  | true => exact .returning

theorem emit_confined {d : Bytes} : Confined calls errors (emit a d) := by
  rw [emit]
  split
  · exact .bind (writeFile_confined permits) fun _ => .issuing (permits.printError _)
  · exact .issuing (permits.printOut _)

theorem emitText_confined {text : Bytes} : Confined calls errors (emitText a text) := by
  rw [emitText]
  split
  · exact .bind (writeFile_confined permits) fun _ => .issuing (permits.printError _)
  · exact .issuing (permits.printOut _)

theorem emitted_confined {source : Cpp Bytes} (confined : Confined calls errors source) :
    Confined calls errors (do emit a (← source); return 0) := by
  refine .bind confined fun data => ?_
  refine .bind (emit_confined permits) fun _ => ?_
  exact .returning

theorem textEmitted_confined {source : Cpp Bytes} (confined : Confined calls errors source) :
    Confined calls errors (do emitText a (← source); return 0) := by
  refine .bind confined fun text => ?_
  refine .bind (emitText_confined permits) fun _ => ?_
  exact .returning

theorem verified_confined {source : Cpp Bool} (confined : Confined calls errors source) :
    Confined calls errors (do
      let ok ← source
      printOut (asciiBytes (if ok then "VERIFY OK\n" else "VERIFY FAILED\n"))
      return if ok then 0 else 2) := by
  refine .bind confined fun ok => ?_
  refine .bind (.issuing (permits.printOut _)) fun _ => ?_
  exact .returning

end Output

section Provisioning

variable {calls : HostCall → Prop} {errors : CppException → Prop} {a : Args} {keyId : KeyId}
  {text : String}

theorem EcKey.provision_confined {curve : EcCurve} (permits : Permits calls errors)
    (output : PermitsOutput calls errors)
    (keyed : ∀ request, request.keyObject = some keyId → calls request) :
    Confined calls errors (do
      let k ← EcKey.generate keyId curve
      printError text
      emit a (← k.publicKeyDer)
      return 0) :=
  .bind (EcKey.generate_confined permits keyed) fun _ =>
    .bind (.issuing (output.printError text)) fun _ =>
      emitted_confined output (export_confined permits)

theorem RsaKey.provision_confined {bits : RsaBits} (permits : Permits calls errors)
    (output : PermitsOutput calls errors)
    (keyed : ∀ request, request.keyObject = some keyId → calls request) :
    Confined calls errors (do
      let k ← RsaKey.generate keyId bits
      printError text
      emit a (← k.publicKeyDer)
      return 0) :=
  .bind (RsaKey.generate_confined permits keyed) fun _ =>
    .bind (.issuing (output.printError text)) fun _ =>
      emitted_confined output (export_confined permits)

end Provisioning

end CppApp

end Se05x
