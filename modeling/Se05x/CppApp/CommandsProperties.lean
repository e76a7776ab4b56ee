import Se05x.CppApp.Commands
import Se05x.CppApp.RsaHandleProperties

/-!
# The program carries out the commands

The calls one invocation makes amount to the command its arguments stand for: same exit
code, same files and output, same key store.
-/

set_option autoImplicit false

namespace Se05x.CppApp

open Der Interaction SecureElement

/-! ## Operations on any object -/

section Operations

variable {element : SecureElement} {server : Server host (State element)} {state : State element}

theorem limited_eq_some_iff {room : Nat} {result : Option Bytes} {bytes : Bytes} :
    limited room result = some bytes ↔ result = some bytes ∧ bytes.length ≤ room := by
  rw [limited, Option.filter_eq_some_iff, decide_eq_true_iff]

theorem limited_some {room : Nat} {bytes : Bytes} (fits : bytes.length ≤ room) :
    limited room (some bytes) = some bytes :=
  limited_eq_some_iff.mpr ⟨rfl, fits⟩

theorem limited_some_full {room : Nat} {bytes : Bytes} (full : ¬ bytes.length ≤ room) :
    limited room (some bytes) = none := by
  rw [limited, Option.filter_some, if_neg (by simpa using full)]

theorem finished_toOption {place : String} {room : Nat} {result : Option Bytes} :
    (finished place (deliver room result)).toOption = limited room result := by
  cases result with
  | none => rfl
  | some bytes =>
      by_cases fits : bytes.length ≤ room
      · rw [finished_deliver_fits fits, limited_some fits]
        rfl
      · rw [finished_deliver_full (Nat.lt_of_not_le fits), limited_some_full fits]
        rfl

theorem EcKey.sign_serves (hosts : Hosts element server) (k : EcKey) (digest : Bytes) :
    (k.sign digest).run.exec server state =
      (finished "asymmetric_sign_digest(EC)" (deliver 256
        ((pairOf (state.lookup k.obj)).bind fun key => element.sign key k.sigAlgo digest)), state) := by
  refine asymmetricOutput_exec hosts ?_
  rw [ask_eq_call, Program.exec_call, hosts.sss]
  rfl

theorem RsaKey.sign_serves (hosts : Hosts element server) (k : RsaKey) (digest : Bytes) :
    (k.sign digest).run.exec server state =
      (finished "asymmetric_sign_digest(RSA)" (deliver (k.bits / 8)
        ((pairOf (state.lookup k.obj)).bind fun key =>
          element.sign key .rsassaPkcs1V15Sha256 digest)), state) := by
  refine asymmetricOutput_exec hosts ?_
  rw [ask_eq_call, Program.exec_call, hosts.sss]
  rfl

theorem RsaKey.encrypt_serves (hosts : Hosts element server) (k : RsaKey) (plaintext : Bytes) :
    (k.encrypt plaintext).run.exec server state =
      (finished "asymmetric_encrypt(RSA)" (deliver (k.bits / 8)
        ((pairOf (state.lookup k.obj)).bind fun key =>
          element.encrypt key .rsaesPkcs1OaepSha256 plaintext)), state) := by
  refine asymmetricOutput_exec hosts ?_
  rw [ask_eq_call, Program.exec_call, hosts.sss]
  rfl

theorem RsaKey.decrypt_serves (hosts : Hosts element server) (k : RsaKey) (ciphertext : Bytes) :
    (k.decrypt ciphertext).run.exec server state =
      (finished "asymmetric_decrypt(RSA)" (deliver (k.bits / 8)
        ((pairOf (state.lookup k.obj)).bind fun key =>
          element.decrypt key .rsaesPkcs1OaepSha256 ciphertext)), state) := by
  refine asymmetricOutput_exec hosts ?_
  rw [ask_eq_call, Program.exec_call, hosts.sss]
  rfl

theorem asymmetricVerify_serves (hosts : Hosts element server) {context : KeyContext}
    {initPlace : String} {digest signature : Bytes} :
    (asymmetricVerify context initPlace digest signature).run.exec server state =
      (.ok ((pairOf (state.lookup context.keyObject)).any fun key =>
        element.verify key context.algorithm digest signature), state) := by
  rw [asymmetricVerify_exec hosts]
  change (Except.ok (succeeded (statusOf _)), state) = _
  cases (pairOf (state.lookup context.keyObject)).any _ <;> rfl

theorem export_serves (hosts : Hosts element server) {obj : SssObject} {room : Nat}
    {place : String} :
    (do
      allocate room
      let (st, buf) ← sss (.keyStoreGetKey obj room)
      check st place
      return buf.val : Cpp Bytes).run.exec server state =
      (finished place (deliver room (element.exported (state.lookup obj))), state) := by
  rw [exec_allocate_bind hosts, exec_sss_bind hosts]
  exact exec_check_output _

theorem getRandom_serves (hosts : Hosts element server) {numBytes : Nat} :
    (getRandom numBytes).run.exec server state =
      (.ok (element.random state.draws numBytes).toList, state.draw) := by
  rw [getRandom, exec_sss_bind hosts]
  change (allocate numBytes >>= _).run.exec server state = _
  rw [exec_allocate_bind hosts, exec_sss_bind hosts, exec_sss_bind hosts]
  rfl

theorem store_absent {keyId : KeyId} (absent : state.objects keyId = none) :
    state.store keyId none = state := by
  have same : (state.store keyId none).objects = state.objects := by
    funext other
    by_cases equal : other = keyId
    · rw [equal, State.store_objects, absent]
    · rw [State.store_other _ _ equal]
  exact congrArg (fun objects => State.mk objects state.draws) same

section Returned

variable {Value : Type}

theorem returned_sss_bind (hosts : Hosts element server) {request : SssCall}
    {continuation : request.Answer → Cpp Value} :
    Program.returned server (@bind Cpp _ (no_index request.Answer) Value (sss request) continuation)
        state =
      Program.returned server (continuation (serve state request).1) (serve state request).2 := by
  rw [Program.returned, exec_sss_bind hosts]
  rfl

theorem returned_allocate_bind (hosts : Hosts element server) {size : Nat}
    {continuation : Unit → Cpp Value} :
    Program.returned server (allocate size >>= continuation) state =
      Program.returned server (continuation ()) state := by
  rw [Program.returned, exec_allocate_bind hosts]
  rfl

theorem returned_check_bind {st : SssStatus} {place : String} {continuation : Unit → Cpp Value} :
    Program.returned server (check st place >>= continuation) state =
      if st = .success then Program.returned server (continuation ()) state else (none, state) := by
  by_cases passed : st = .success
  · rw [if_pos passed, passed]
    rfl
  · rw [if_neg passed, Program.returned, exec_check_failed passed]
    rfl

end Returned

/-- Erasing a key that is not there fails and leaves the store without it. -/
theorem eraseKey_returned (hosts : Hosts element server) {keyId : KeyId} :
    (Program.returned server (eraseKey keyId) state).2 = state.store keyId none := by
  simp only [eraseKey, returned_sss_bind hosts, returned_check_bind, serve]
  cases stored : state.objects keyId with
  | none =>
      rw [store_absent stored]
      rfl
  | some object => rfl

theorem store_peer {der : Bytes} :
    state.store 0xEF009E01 (some (.publicKey der)) = withPeer state der := rfl

theorem agreed_imported {context : KeyContext} {room : Nat} {mode : ObjectMode} {der : Bytes} :
    agreed (withPeer state der) context
        (.allocated 0xEF009E01 .publicPart .ecNistP room mode) =
      (pairOf ((withPeer state der).lookup context.keyObject)).bind fun key =>
        element.sharedX key der := by
  rw [agreed]
  cases pairOf ((withPeer state der).lookup context.keyObject) <;> rfl

theorem deriveKey_limited {secret : Option Bytes} {keyId : KeyId} {keyPart : KeyPart}
    {cipherType : CipherType} {room : Nat} {mode : ObjectMode} :
    deriveKey state secret (.allocated keyId keyPart cipherType room mode) =
      match limited room secret with
      | none => (.fail, state)
      | some bytes => (.success, state.store keyId (some (.secret bytes))) := by
  cases secret with
  | none => rfl
  | some bytes =>
      by_cases fits : bytes.length ≤ room
      · rw [limited_some fits]
        exact if_pos fits
      · rw [limited_some_full fits]
        exact if_neg fits

/-- The import of the peer's key decides first. -/
theorem EcKey.ecdh_returned (hosts : Hosts element server) (k : EcKey) (der : Bytes) :
    Program.returned server (k.ecdh der) state =
      if element.derCurveBits der = some (curveBits k.curve) then
        match limited 64 ((pairOf ((withPeer state der).lookup k.obj)).bind fun key =>
          element.sharedX key der) with
        | none => (none, withPeer state der)
        | some secret => (some secret, (withPeer state der).store 0xEF009E02 (some (.secret secret)))
      else (none, state) := by
  simp only [EcKey.ecdh, returned_sss_bind hosts, returned_check_bind, returned_allocate_bind hosts,
    serve, setKey]
  by_cases named : element.derCurveBits der = some (curveBits k.curve)
  · simp only [if_pos named, store_peer, agreed_imported, deriveKey_limited, if_true]
    cases derived : limited 64 ((pairOf ((withPeer state der).lookup k.obj)).bind fun key =>
        element.sharedX key der) with
    | none => rfl
    | some secret =>
        have fits := (limited_eq_some_iff.mp derived).2
        have stored : ((withPeer state der).store 0xEF009E02 (some (.secret secret))).lookup
            (.allocated 0xEF009E02 .defaultPart .aes 64 .transient) = some (.secret secret) :=
          State.store_objects _ _ _
        simp only [stored, exported, deliver_fits fits, if_true]
        rfl
  · simp [named]

end Operations

/-! ## Commands -/

section Shapes

variable {element : SecureElement} {platform : Platform} {machine : Machine element} {a : Args}

theorem returned_exit {source : Cpp Unit} {code : Nat} :
    Program.returned platform.server (do source; return code) machine =
      ((Program.returned platform.server source machine).1.map fun _ => code,
        (Program.returned platform.server source machine).2) := by
  rw [Program.returned_bind]
  cases Program.returned platform.server source machine with
  | mk result after => cases result <;> rfl

theorem emitted_returned {source : Cpp Bytes} {result : Option Bytes} {store : State element}
    (made : Program.returned platform.server source machine = (result, machine.withStore store)) :
    Program.returned platform.server (do emit a (← source); return 0) machine =
      machine.settle platform (a.get "--out") (result.map .bytes, store) := by
  cases result with
  | none => exact Program.returned_bind_none made
  | some data =>
      rw [Program.returned_bind_some made, returned_exit, emit_returned]
      rfl

theorem textEmitted_returned {source : Cpp Bytes} {result : Option Bytes}
    (made : Program.returned platform.server source machine = (result, machine)) :
    Program.returned platform.server (do emitText a (← source); return 0) machine =
      machine.settle platform (a.get "--out") (result.map .text, machine.store) := by
  cases result with
  | none => exact Program.returned_bind_none made
  | some text =>
      rw [Program.returned_bind_some made, returned_exit, emitText_returned]
      rfl

section Handles

variable {Key : Type} {opening : Cpp Key} {k : Key} {keyId : KeyId} {input : String}
  (opened : Program.returned platform.server opening machine =
    ((machine.store.objects keyId).map fun _ => k, machine))

include opened

/-- An operation on an opened key and the contents of a file. -/
theorem filtered_returned {work : Key → Bytes → Cpp Bytes} {result : Bytes → Option Bytes}
    (worked : ∀ data, Program.returned platform.server (work k data) machine = (result data, machine))
    (absent : machine.store.objects keyId = none → ∀ data, result data = none) :
    Program.returned platform.server
        (do let k ← opening; let data ← readFile input; emit a (← work k data); return 0) machine =
      machine.settle platform (a.get "--out")
        ((machine.read platform input).bind fun data => (result data).map .bytes, machine.store) := by
  cases stored : machine.store.objects keyId with
  | none =>
      rw [stored] at opened
      rw [Program.returned_bind_none opened]
      simp only [absent stored, Option.map_none, Option.bind_fun_none]
      rfl
  | some object =>
      rw [stored] at opened
      rw [Program.returned_bind_some opened, Program.returned_bind, readFile_returned]
      cases machine.read platform input with
      | none => rfl
      | some data => exact emitted_returned (worked data)

theorem verified_returned {signature : String} {work : Key → Bytes → Bytes → Cpp Bool}
    {result : Bytes → Bytes → Option Bool}
    (worked : ∀ data bytes, machine.store.objects keyId ≠ none →
      Program.returned platform.server (work k data bytes) machine = (result data bytes, machine))
    (absent : machine.store.objects keyId = none → ∀ data bytes, result data bytes = none) :
    Program.returned platform.server
        (do
          let k ← opening
          let data ← readFile input
          let bytes ← readFile signature
          let ok ← work k data bytes
          printOut (asciiBytes (if ok then "VERIFY OK\n" else "VERIFY FAILED\n"))
          return if ok then 0 else 2) machine =
      machine.settle platform (a.get "--out")
        ((machine.read platform input).bind fun data => (machine.read platform signature).bind
          fun bytes => (result data bytes).map .verdict, machine.store) := by
  cases stored : machine.store.objects keyId with
  | none =>
      rw [stored] at opened
      rw [Program.returned_bind_none opened]
      simp only [absent stored, Option.map_none, Option.bind_fun_none]
      rfl
  | some object =>
      rw [stored] at opened
      rw [Program.returned_bind_some opened, Program.returned_bind, readFile_returned]
      cases machine.read platform input with
      | none => rfl
      | some data =>
          dsimp only
          rw [Program.returned_bind, readFile_returned]
          cases machine.read platform signature with
          | none => rfl
          | some bytes =>
              have ran := worked data bytes (by rw [stored]; nofun)
              dsimp only
              rw [Program.returned_bind, ran]
              change _ = machine.settle platform _ ((result data bytes).map .verdict, machine.store)
              cases result data bytes with
              | none => rfl
              | some valid => cases valid <;> rfl

end Handles

end Shapes

/-! ## Requests -/

section Requests

variable {I : Interface} {State : Type} {server : Server I State} {state : State}
  {mbedtls : Mbedtls} {nameDer : mbedtls.Names → Bytes} {target : Target}

theorem buildCri_toOption (documented : mbedtls.Documented nameDer)
    (full : mbedtls.FailsOnlyFull nameDer) {subjectDn : String} {spki : Bytes} :
    (buildCri mbedtls subjectDn spki).toOption =
      (mbedtls.x509StringToNames (cStr subjectDn)).bind fun names =>
        limited 4096 (some (infoEncoding (nameDer names) spki)) := by
  cases parsed : mbedtls.x509StringToNames (cStr subjectDn) with
  | none =>
      rw [buildCri, parsed]
      rfl
  | some names =>
      by_cases fits : (infoEncoding (nameDer names) spki).length ≤ 4096
      · rw [buildCri_fits documented full parsed fits, Option.bind_some, limited_some fits]
        rfl
      · rw [Option.bind_some, limited_some_full fits]
        cases built : buildCri mbedtls subjectDn spki with
        | error exception => rfl
        | ok cri =>
            obtain ⟨rfl, bound⟩ := buildCri_encoding documented parsed built
            exact absurd bound fits

theorem encodedSignature_short {signature : Bytes} (short : signature.length ≤ 256) :
    encodedSignature target signature = signature := by
  refine encodedSignature_eq_iff.mpr (short.trans_lt ?_)
  cases target <;> decide

/-- The request is the element's to refuse, or the buffer's. -/
theorem makeCsrImpl_returned (documented : mbedtls.Documented nameDer)
    (full : mbedtls.FailsOnlyFull nameDer) (pem : mbedtls.PemDocumented) {subjectDn : String}
    {spki : Bytes} {isEc : Bool} {sign : Bytes → ExceptT CppException (Program I) Bytes}
    {signature : Bytes → Option Bytes}
    (signs : ∀ digest, Program.returned server (sign digest) state = (signature digest, state))
    (short : ∀ {digest bytes}, signature digest = some bytes → bytes.length ≤ 256) :
    Program.returned server (makeCsrImpl mbedtls target subjectDn spki sign isEc) state =
      (do
        let names ← mbedtls.x509StringToNames (cStr subjectDn)
        let info ← limited 4096 (some (infoEncoding (nameDer names) spki))
        let digest ← mbedtls.sha256Ret info
        let bytes ← signature digest.toList
        return pemText pemHeader pemFooter
          (requestEncoding info (signatureAlgorithm isEc) bytes) ++ [0], state) := by
  have built := @buildCri_toOption _ _ documented full subjectDn spki
  rw [makeCsrImpl, Program.returned_bind, Program.returned_liftExcept, built]
  cases mbedtls.x509StringToNames (cStr subjectDn) with
  | none => rfl
  | some names =>
      simp only [Option.bind_some, Option.bind_eq_bind, pure]
      cases limit : limited 4096 (some (infoEncoding (nameDer names) spki)) with
      | none => rfl
      | some info =>
          have bound := (limited_eq_some_iff.mp limit).2
          simp only [Option.bind_some]
          cases mbedtls.sha256Ret info with
          | none => rfl
          | some digest =>
              simp only [Option.bind_some]
              rw [Program.returned_bind, signs]
              cases signed : signature digest.toList with
              | none => rfl
              | some bytes =>
                  have sized := short signed
                  have encoded : encodedSignature target bytes = bytes := encodedSignature_short sized
                  dsimp only
                  rw [Program.returned_liftExcept, assembleCsr_fits documented full pem bound
                    (by rw [encoded]; exact sized.trans (by decide)), encoded]
                  rfl

end Requests

section Commands

variable {element : SecureElement} {platform : Platform} {machine : Machine element} {a : Args}
  {mbedtls : Mbedtls} {nameDer : mbedtls.Names → Bytes} {target : Target} {keyId : KeyId}

theorem internal_of_keyed {request : HostCall} (keyed : request.keyObject = some keyId) :
    Internal request := by
  cases request with
  | sss | allocate => trivial
  | readFile | writeFile | printOut | printError | getenv | bootOpen | keyStoreAndObjectInit
  | sessionClose | logInfo | logError | logBytes => cases keyed

theorem liftExcept_returned {Value : Type} {outcome : Except CppException Value} {value : Value}
    (known : outcome = .ok value) :
    Program.returned platform.server (liftExcept outcome : Cpp Value) machine =
      (some value, machine) := by
  rw [Program.returned_liftExcept, known]
  rfl

theorem openHandle_internal : Confined Internal (fun _ => True) (openHandle keyId) :=
  openHandle_confined permits_internal.crypto trivial trivial

theorem ecOpen_returned : Program.returned platform.server (EcKey.open keyId) machine =
    ((machine.store.objects keyId).map fun _ => ⟨.existing keyId, .sha256, .nistP256, false⟩,
      machine) := by
  have confined : Confined Internal (fun _ => True) (EcKey.open keyId) :=
    .bind openHandle_internal fun _ => .returning
  cases stored : machine.store.objects keyId with
  | none =>
      have absent : (machine.store.objects keyId).isSome = false := by rw [stored]; rfl
      have thrown : (EcKey.open keyId).run.exec (alone element) machine.store = _ :=
        Program.exec_throwing_bind_error (openHandle_exec_absent alone_hosts absent)
      exact returned_unchanged confined thrown
  | some object =>
      exact returned_unchanged confined (EcKey.open_exec alone_hosts (by rw [stored]; rfl))

theorem rsaOpen_returned : Program.returned platform.server (RsaKey.open keyId) machine =
    ((machine.store.objects keyId).map fun _ => ⟨.existing keyId, 2048, false⟩, machine) := by
  have confined : Confined Internal (fun _ => True) (RsaKey.open keyId) :=
    .bind openHandle_internal fun _ => .returning
  cases stored : machine.store.objects keyId with
  | none =>
      have absent : (machine.store.objects keyId).isSome = false := by rw [stored]; rfl
      have thrown : (RsaKey.open keyId).run.exec (alone element) machine.store = _ :=
        Program.exec_throwing_bind_error (openHandle_exec_absent alone_hosts absent)
      exact returned_unchanged confined thrown
  | some object =>
      exact returned_unchanged confined (RsaKey.open_exec alone_hosts (by rw [stored]; rfl))

theorem pairAt_none (absent : machine.store.objects keyId = none) :
    machine.store.pairAt keyId = none := by
  rw [State.pairAt, absent]
  rfl

theorem signed_none {family : Family} {digest : Bytes}
    (absent : machine.store.objects keyId = none) :
    signed machine.store family keyId digest = none := by
  rw [signed, pairAt_none absent]
  rfl

theorem ecSign_returned {digest : Bytes} {curve : EcCurve} {owns : Bool} :
    Program.returned platform.server
        ((⟨.existing keyId, .sha256, curve, owns⟩ : EcKey).sign digest) machine =
      (signed machine.store .ecc keyId digest, machine) := by
  rw [returned_unchanged (EcKey.sign_confined permits_internal) (EcKey.sign_serves alone_hosts _ _),
    finished_toOption]
  rfl

/-- An opened RSA handle sets room for a 2048-bit modulus aside. -/
theorem modulus_room {obj : SssObject} {owns : Bool} :
    (⟨obj, 2048, owns⟩ : RsaKey).bits / 8 = 256 := by
  simp

theorem rsaSign_returned {digest : Bytes} {owns : Bool} :
    Program.returned platform.server
        ((⟨.existing keyId, 2048, owns⟩ : RsaKey).sign digest) machine =
      (signed machine.store .rsa keyId digest, machine) := by
  rw [returned_unchanged (RsaKey.sign_confined permits_internal)
    (RsaKey.sign_serves alone_hosts _ _), finished_toOption, modulus_room]
  rfl

theorem rsaEncrypt_returned {plaintext : Bytes} {owns : Bool} :
    Program.returned platform.server
        ((⟨.existing keyId, 2048, owns⟩ : RsaKey).encrypt plaintext) machine =
      (limited 256 ((machine.store.pairAt keyId).bind fun key =>
        element.encrypt key .rsaesPkcs1OaepSha256 plaintext), machine) := by
  rw [returned_unchanged (RsaKey.encrypt_confined permits_internal)
    (RsaKey.encrypt_serves alone_hosts _ _), finished_toOption, modulus_room]
  rfl

theorem rsaDecrypt_returned {ciphertext : Bytes} {owns : Bool} :
    Program.returned platform.server
        ((⟨.existing keyId, 2048, owns⟩ : RsaKey).decrypt ciphertext) machine =
      (limited 256 ((machine.store.pairAt keyId).bind fun key =>
        element.decrypt key .rsaesPkcs1OaepSha256 ciphertext), machine) := by
  rw [returned_unchanged (RsaKey.decrypt_confined permits_internal)
    (RsaKey.decrypt_serves alone_hosts _ _), finished_toOption, modulus_room]
  rfl

theorem verify_returned {family : Family} {initPlace : String} {digest signature : Bytes}
    (stored : machine.store.objects keyId ≠ none) :
    Program.returned platform.server (asymmetricVerify ⟨.existing keyId, family.algorithm, .verify⟩
        initPlace digest signature) machine =
      (verified machine.store family keyId digest signature, machine) := by
  rw [returned_unchanged (asymmetricVerify_confined permits_internal)
    (asymmetricVerify_serves alone_hosts), verified]
  obtain ⟨object, present⟩ := Option.ne_none_iff_exists'.mp stored
  rw [present]
  rfl

theorem verified_none {family : Family} {digest signature : Bytes}
    (absent : machine.store.objects keyId = none) :
    verified machine.store family keyId digest signature = none := by
  rw [verified, absent]
  rfl

theorem export_returned {room : Nat} {place : String} {obj : SssObject}
    (bound : obj.keyId = some keyId) :
    Program.returned platform.server (do
      allocate room
      let (st, buf) ← sss (.keyStoreGetKey obj room)
      check st place
      return buf.val : Cpp Bytes) machine = (publicKeyOf machine.store room keyId, machine) := by
  rw [returned_unchanged (export_confined permits_internal) (export_serves alone_hosts),
    finished_toOption, State.lookup, bound]
  rfl

theorem rsaExport_returned {owns : Bool} :
    Program.returned platform.server
        (⟨.existing keyId, 2048, owns⟩ : RsaKey).publicKeyDer machine =
      (publicKeyOf machine.store Family.rsa.exportRoom keyId, machine) := by
  rw [RsaKey.publicKeyDer]
  refine (export_returned rfl).trans ?_
  rw [modulus_room]
  rfl

theorem eraseKey_internal : Confined Internal (fun _ => True) (eraseKey keyId) :=
  checked_confined permits_internal.crypto (.issuing trivial)
    (checked_confined permits_internal.crypto (.issuing trivial)
      (.bind (.issuing trivial) fun _ => check_confined permits_internal.crypto))

theorem eraseIfForced_returned :
    Program.returned platform.server (eraseIfForced a keyId) machine =
      (some (), machine.withStore
        (if a.flag "--force" then machine.store.store keyId none else machine.store)) := by
  rw [eraseIfForced]
  by_cases forced : a.flag "--force"
  · rw [if_pos forced, if_pos forced, tryErase, Program.returned_swallow,
      returned_internal eraseKey_internal, eraseKey_returned alone_hosts]
  · rw [if_neg forced, if_neg forced]
    rfl

theorem ecGenerate_returned {curve : EcCurve} :
    Program.returned platform.server (EcKey.generate keyId curve) machine =
      (some ⟨.allocated keyId .pair .ecNistP (3 * ((curveBits curve + 7) / 8) + 8) .persistent,
          curveSigAlgo curve, curve, true⟩,
        machine.withStore (provisioned machine.store keyId (.ec curve))) := by
  rw [returned_internal (EcKey.generate_confined permits_internal fun _ => internal_of_keyed),
    Program.returned_of_exec (EcKey.generate_exec alone_hosts keyId curve)]
  rfl

theorem rsaGenerate_returned {bits : RsaBits} :
    Program.returned platform.server (RsaKey.generate keyId bits) machine =
      (some ⟨.allocated keyId .pair .rsa (bits.toNat / 8) .persistent, bits.toNat, true⟩,
        machine.withStore (provisioned machine.store keyId (.rsa bits))) := by
  rw [returned_internal (RsaKey.generate_confined permits_internal fun _ => internal_of_keyed),
    Program.returned_of_exec (RsaKey.generate_exec alone_hosts keyId bits)]
  rfl

theorem ecdh_returned {der : Bytes} (stored : machine.store.objects keyId ≠ none) :
    Program.returned platform.server
        ((⟨.existing keyId, .sha256, .nistP256, false⟩ : EcKey).ecdh der) machine =
      ((exchanged machine.store keyId der).1,
        machine.withStore (exchanged machine.store keyId der).2) := by
  rw [returned_internal (EcKey.ecdh_confined permits_internal),
    EcKey.ecdh_returned alone_hosts]
  have present := Option.isSome_iff_ne_none.mpr stored
  simp only [exchanged, present, true_and]
  rfl

/-- A command whose arguments name a key. -/
theorem identified_returned {continuation : KeyId → Cpp Nat}
    (identified : parseId target a = .ok keyId) :
    Program.returned platform.server (liftExcept (parseId target a) >>= continuation) machine =
      Program.returned platform.server (continuation keyId) machine :=
  Program.returned_bind_some (liftExcept_returned identified)

theorem unidentified_returned {continuation : KeyId → Cpp Nat} {exception : CppException}
    (unidentified : parseId target a = .error exception) :
    Program.returned platform.server (liftExcept (parseId target a) >>= continuation) machine =
      (none, machine) := by
  refine Program.returned_bind_none ?_
  rw [Program.returned_liftExcept, unidentified]
  rfl

theorem doEcc_unidentified {exception : CppException}
    (unidentified : parseId target a = .error exception) :
    Program.returned platform.server (doEcc mbedtls target a) machine = (none, machine) := by
  unfold doEcc
  dsimp only
  split
  · exact unidentified_returned unidentified
  split
  · exact unidentified_returned unidentified
  split
  · exact unidentified_returned unidentified
  split
  · exact unidentified_returned unidentified
  split
  · exact unidentified_returned unidentified
  split
  · exact unidentified_returned unidentified
  · rfl

theorem doRsa_unidentified {exception : CppException}
    (unidentified : parseId target a = .error exception) :
    Program.returned platform.server (doRsa mbedtls target a) machine = (none, machine) := by
  unfold doRsa
  dsimp only
  split
  · exact unidentified_returned unidentified
  split
  · exact unidentified_returned unidentified
  split
  · exact unidentified_returned unidentified
  split
  · exact unidentified_returned unidentified
  split
  · exact unidentified_returned unidentified
  split
  · exact unidentified_returned unidentified
  split
  · exact unidentified_returned unidentified
  · rfl

/-- Provisioning in either family: erase if forced, choose, generate, export. -/
theorem provision_returned {Choice Key : Type} {choice : Except CppException Choice}
    {kind : Choice → Kind} {generate : Choice → Cpp Key} {exporting : Key → Cpp Bytes} {text : String}
    (generates : ∀ (machine : Machine element) chosen, ∃ k,
      Program.returned platform.server (generate chosen) machine =
          (some k, machine.withStore (provisioned machine.store keyId (kind chosen))) ∧
        ∀ machine : Machine element, Program.returned platform.server (exporting k) machine =
          (publicKeyOf machine.store (kind chosen).exportRoom keyId, machine)) :
    Program.returned platform.server (do
        eraseIfForced a keyId
        let chosen ← liftExcept choice
        let k ← generate chosen
        printError text
        emit a (← exporting k)
        return 0) machine =
      machine.settle platform (a.get "--out")
        ((Command.provision keyId (a.flag "--force") (choice.toOption.map kind)).perform mbedtls
          nameDer (machine.read platform) machine.store) := by
  rw [Program.returned_bind_some eraseIfForced_returned, Program.returned_bind,
    Program.returned_liftExcept]
  cases choice with
  | error exception => rfl
  | ok chosen =>
      obtain ⟨k, generated, exported⟩ := generates (machine.withStore
        (if a.flag "--force" then machine.store.store keyId none else machine.store)) chosen
      refine (Program.returned_bind_some generated).trans ?_
      refine (Program.returned_bind_some printError_returned).trans ?_
      exact emitted_returned (exported _)

theorem getRandom_returned {count : Nat} :
    Program.returned platform.server (getRandom count) machine =
      (some (element.random machine.store.draws count).toList,
        machine.withStore machine.store.draw) := by
  rw [returned_internal (getRandom_confined permits_internal),
    Program.returned_of_exec (getRandom_serves alone_hosts)]
  rfl

theorem doRng_returned (rng : a.group = "rng") :
    Program.returned platform.server (doRng target a) machine =
      machine.obey platform mbedtls nameDer a (Command.ofArgs target a) := by
  rw [doRng, Command.ofArgs, if_pos rng]
  by_cases missing : a.positional = ""
  · rw [if_pos missing, if_pos missing]
    rfl
  · rw [if_neg missing, if_neg missing]
    exact emitted_returned getRandom_returned

theorem publicKeyOf_none {room : Nat} (absent : machine.store.objects keyId = none) :
    publicKeyOf machine.store room keyId = none := by
  rw [publicKeyOf, absent]
  rfl

theorem pub_returned {family : Family} {Key : Type} {opening : Cpp Key} {k : Key}
    {exporting : Key → Cpp Bytes}
    (opened : Program.returned platform.server opening machine =
      ((machine.store.objects keyId).map fun _ => k, machine))
    (exports : Program.returned platform.server (exporting k) machine =
      (publicKeyOf machine.store family.exportRoom keyId, machine)) :
    Program.returned platform.server (do let k ← opening; emit a (← exporting k); return 0) machine =
      machine.obey platform mbedtls nameDer a (some (.publicKey family keyId)) := by
  rw [Program.returned_bind, opened]
  cases stored : machine.store.objects keyId with
  | none =>
      rw [Machine.obey, Command.perform, publicKeyOf_none stored]
      rfl
  | some object => exact emitted_returned exports

theorem ecdhCommand_returned :
    Program.returned platform.server (do
        let k ← EcKey.open keyId
        let peer ← readFile (a.get "--peer")
        emit a (← k.ecdh peer)
        return 0) machine =
      machine.obey platform mbedtls nameDer a (some (.agree keyId (a.get "--peer"))) := by
  rw [Machine.obey, Command.perform, Program.returned_bind, ecOpen_returned]
  cases stored : machine.store.objects keyId with
  | none =>
      cases machine.read platform (a.get "--peer") with
      | none => rfl
      | some der =>
          simp only [exchanged, stored, Option.isSome_none, Bool.false_eq_true, false_and, if_false]
          rfl
  | some object =>
      refine (Program.returned_bind.trans ?_)
      rw [readFile_returned]
      cases machine.read platform (a.get "--peer") with
      | none => rfl
      | some der => exact emitted_returned (ecdh_returned (by rw [stored]; nofun))

theorem csr_returned {family : Family} {Key : Type} {opening : Cpp Key} {k : Key}
    {request : Key → String → Cpp Bytes}
    (opened : Program.returned platform.server opening machine =
      ((machine.store.objects keyId).map fun _ => k, machine))
    (requests : ∀ dn, Program.returned platform.server (request k dn) machine =
      (requested mbedtls nameDer machine.store family keyId dn, machine)) :
    Program.returned platform.server (do
        let k ← opening
        let dn ← liftExcept (subject a)
        emitText a (← request k dn)
        return 0) machine =
      machine.obey platform mbedtls nameDer a
        (if a.get "--subject" = "" then none
          else some (.request family keyId (a.get "--subject"))) := by
  by_cases unnamed : a.get "--subject" = ""
  · have refused : subject a = .error (.argument .subjectRequired) := if_pos unnamed
    rw [if_pos unnamed, Program.returned_bind, opened, refused]
    cases machine.store.objects keyId <;> rfl
  · have named : subject a = .ok (a.get "--subject") := if_neg unnamed
    rw [if_neg unnamed, Program.returned_bind, opened, named]
    cases stored : machine.store.objects keyId with
    | none =>
        rw [Machine.obey, Command.perform, requested, publicKeyOf_none stored]
        rfl
    | some object => exact textEmitted_returned (requests _)

theorem exec_ask_bind {Value : Type} {request : HostCall}
    {continuation : request.Answer → Program host Value} :
    (@bind (Program host) _ (no_index request.Answer) Value (ask request) continuation).exec
        platform.server machine =
      (continuation (platform.server machine request).1).exec platform.server
        (platform.server machine request).2 := rfl

theorem parseArgs_group_short {argv : List String} (short : argv.length < 2) :
    (parseArgs argv).group = "" := by
  match argv, short with
  | [], _ => rfl
  | [_], _ => rfl

theorem ofArgs_ungrouped (ungrouped : a.group = "") : Command.ofArgs target a = none := by
  have words : "" ≠ "rng" ∧ "" ≠ "ecc" ∧ "" ≠ "rsa" := by decide
  rw [Command.ofArgs, ungrouped, if_neg words.1, if_neg words.2.1, if_neg words.2.2]

theorem server_bootOpen {portName : Option String} :
    platform.server machine (.bootOpen portName) = (platform.boot portName, machine) := rfl

theorem server_keyStoreInit :
    platform.server machine .keyStoreAndObjectInit = (platform.keyStoreInit, machine) := rfl

theorem perform_exec {statusCode : SssStatus → Nat} {argv : List String} :
    let ran := (perform mbedtls target statusCode argv a).exec platform.server machine
    let returned := Program.returned platform.server (dispatch mbedtls target argv a) machine
    (ran.1.rc, ran.2) = (returned.1.getD 1, returned.2) := by
  dsimp only
  rw [perform, Program.exec_bind, Program.returned]
  cases (dispatch mbedtls target argv a).run.exec platform.server machine with
  | mk outcome after => cases outcome <;> rfl

theorem connectString_exec : (connectString a).exec platform.server machine =
    (if a.get "--port" ≠ "" then some (a.get "--port")
      else platform.getenv "EX_SSS_BOOT_SSS_PORT", machine) := by
  rw [connectString]
  by_cases named : a.get "--port" ≠ ""
  · rw [if_pos named, if_pos named]
    rfl
  · rw [if_neg named, if_neg named]
    rfl

section Keyed

variable (documented : mbedtls.Documented nameDer) (full : mbedtls.FailsOnlyFull nameDer)
  (pem : mbedtls.PemDocumented)

include documented full pem

theorem requested_returned {family : Family} {subject : String} {sign : Bytes → Cpp Bytes}
    {exporting : Cpp Bytes}
    (exports : Program.returned platform.server exporting machine =
      (publicKeyOf machine.store family.exportRoom keyId, machine))
    (signs : ∀ digest, Program.returned platform.server (sign digest) machine =
      (signed machine.store family keyId digest, machine)) :
    Program.returned platform.server (do
        let spki ← exporting
        makeCsrImpl mbedtls target subject spki sign family.isEc) machine =
      (requested mbedtls nameDer machine.store family keyId subject, machine) := by
  rw [requested, Program.returned_bind, exports]
  cases publicKeyOf machine.store family.exportRoom keyId with
  | none => rfl
  | some spki =>
      exact makeCsrImpl_returned documented full pem signs fun made =>
        (limited_eq_some_iff.mp made).2

theorem doEcc_returned (identified : parseId target a = .ok keyId) :
    Program.returned platform.server (doEcc mbedtls target a) machine =
      machine.obey platform mbedtls nameDer a (Family.ecc.command keyId a) := by
  rw [doEcc, Family.command]
  dsimp only
  by_cases provisioning : a.command = "genkey" ∨ a.command = "provision"
  · rw [if_pos provisioning, if_pos provisioning]
    refine (identified_returned identified).trans ?_
    exact provision_returned fun machine chosen =>
      ⟨_, ecGenerate_returned, fun _ => export_returned rfl⟩
  rw [if_neg provisioning, if_neg provisioning]
  by_cases exporting : a.command = "pub"
  · rw [if_pos exporting, if_pos exporting]
    exact (identified_returned identified).trans (pub_returned ecOpen_returned (export_returned rfl))
  rw [if_neg exporting, if_neg exporting]
  by_cases signing : a.command = "sign"
  · rw [if_pos signing, if_pos signing]
    refine (identified_returned identified).trans ?_
    exact filtered_returned ecOpen_returned (fun _ => ecSign_returned)
      fun absent _ => signed_none absent
  rw [if_neg signing, if_neg signing]
  by_cases verifying : a.command = "verify"
  · rw [if_pos verifying, if_pos verifying]
    refine (identified_returned identified).trans ?_
    exact verified_returned ecOpen_returned
      (fun _ _ stored => @verify_returned _ _ _ _ .ecc _ _ _ stored) fun absent _ _ => verified_none absent
  rw [if_neg verifying, if_neg verifying]
  by_cases agreeing : a.command = "ecdh"
  · have noRequest : a.command ≠ "csr" := by rw [agreeing]; decide
    rw [if_pos agreeing, if_neg noRequest, Family.own, if_pos agreeing]
    exact (identified_returned identified).trans ecdhCommand_returned
  rw [if_neg agreeing]
  by_cases requesting : a.command = "csr"
  · rw [if_pos requesting, if_pos requesting]
    refine (identified_returned identified).trans ?_
    exact csr_returned ecOpen_returned fun _ => @requested_returned _ _ _ _ _ _ keyId documented
      full pem .ecc _ _ _ (export_returned rfl) fun _ => ecSign_returned
  · rw [if_neg requesting, if_neg requesting, Family.own, if_neg agreeing]
    rfl

theorem doRsa_returned (identified : parseId target a = .ok keyId) :
    Program.returned platform.server (doRsa mbedtls target a) machine =
      machine.obey platform mbedtls nameDer a (Family.rsa.command keyId a) := by
  rw [doRsa, Family.command]
  dsimp only
  by_cases provisioning : a.command = "genkey" ∨ a.command = "provision"
  · rw [if_pos provisioning, if_pos provisioning]
    refine (identified_returned identified).trans ?_
    exact provision_returned fun machine chosen =>
      ⟨_, rsaGenerate_returned, fun _ => export_returned rfl⟩
  rw [if_neg provisioning, if_neg provisioning]
  by_cases exporting : a.command = "pub"
  · rw [if_pos exporting, if_pos exporting]
    exact (identified_returned identified).trans (pub_returned rsaOpen_returned rsaExport_returned)
  rw [if_neg exporting, if_neg exporting]
  by_cases signing : a.command = "sign"
  · rw [if_pos signing, if_pos signing]
    refine (identified_returned identified).trans ?_
    exact filtered_returned rsaOpen_returned (fun _ => rsaSign_returned)
      fun absent _ => signed_none absent
  rw [if_neg signing, if_neg signing]
  by_cases verifying : a.command = "verify"
  · rw [if_pos verifying, if_pos verifying]
    refine (identified_returned identified).trans ?_
    exact verified_returned rsaOpen_returned
      (fun _ _ stored => @verify_returned _ _ _ _ .rsa _ _ _ stored) fun absent _ _ => verified_none absent
  rw [if_neg verifying, if_neg verifying]
  by_cases encrypting : a.command = "encrypt"
  · have noRequest : a.command ≠ "csr" := by rw [encrypting]; decide
    rw [if_pos encrypting, if_neg noRequest, Family.own, if_pos encrypting]
    refine (identified_returned identified).trans ?_
    refine filtered_returned rsaOpen_returned (fun _ => rsaEncrypt_returned) ?_
    intro absent data
    rw [pairAt_none absent]
    rfl
  rw [if_neg encrypting]
  by_cases decrypting : a.command = "decrypt"
  · have noRequest : a.command ≠ "csr" := by rw [decrypting]; decide
    rw [if_pos decrypting, if_neg noRequest, Family.own, if_neg encrypting, if_pos decrypting]
    refine (identified_returned identified).trans ?_
    refine filtered_returned rsaOpen_returned (fun _ => rsaDecrypt_returned) ?_
    intro absent data
    rw [pairAt_none absent]
    rfl
  rw [if_neg decrypting]
  by_cases requesting : a.command = "csr"
  · rw [if_pos requesting, if_pos requesting]
    refine (identified_returned identified).trans ?_
    exact csr_returned rsaOpen_returned fun _ => @requested_returned _ _ _ _ _ _ keyId documented
      full pem .rsa _ _ _ rsaExport_returned fun _ => rsaSign_returned
  · rw [if_neg requesting, if_neg requesting, Family.own, if_neg encrypting, if_neg decrypting]
    rfl

theorem dispatch_obeys {argv : List String} :
    let ran := Program.returned platform.server (dispatch mbedtls target argv a) machine
    let obeyed := machine.obey platform mbedtls nameDer a (Command.ofArgs target a)
    (ran.1.getD 1, ran.2) = (obeyed.1.getD 1, obeyed.2) := by
  by_cases rng : a.group = "rng"
  · rw [dispatch, if_pos rng, doRng_returned rng]
  rw [dispatch, Command.ofArgs, if_neg rng, if_neg rng]
  by_cases ecc : a.group = "ecc"
  · rw [if_pos ecc, if_pos ecc]
    cases identified : parseId target a with
    | ok keyId =>
        rw [doEcc_returned documented full pem identified]
        rfl
    | error exception =>
        rw [doEcc_unidentified identified]
        rfl
  rw [if_neg ecc, if_neg ecc]
  by_cases rsa : a.group = "rsa"
  · rw [if_pos rsa, if_pos rsa]
    cases identified : parseId target a with
    | ok keyId =>
        rw [doRsa_returned documented full pem identified]
        rfl
    | error exception =>
        rw [doRsa_unidentified identified]
        rfl
  · rw [if_neg rsa, if_neg rsa]
    rfl

theorem launch_eq_invoke {statusCode : SssStatus → Nat} (argv : List String) :
    machine.launch platform mbedtls target statusCode argv =
      machine.invoke platform mbedtls nameDer target argv := by
  rw [Machine.launch, main, Machine.invoke]
  by_cases unusable : argv.length < 2 ∨ (parseArgs argv).group = ""
  · rw [if_pos unusable]
    have ungrouped : (parseArgs argv).group = "" := unusable.elim parseArgs_group_short id
    rw [ofArgs_ungrouped ungrouped]
    cases platform.connects (parseArgs argv) <;> rfl
  · rw [if_neg unusable, Program.exec_bind, connectString_exec, Platform.connects]
    dsimp only
    generalize (if (parseArgs argv).get "--port" ≠ "" then some ((parseArgs argv).get "--port")
      else platform.getenv "EX_SSS_BOOT_SSS_PORT") = port
    rw [exec_ask_bind, server_bootOpen]
    by_cases opened : platform.boot port = .success
    · rw [opened, if_neg (not_not.mpr rfl), exec_ask_bind, server_keyStoreInit]
      by_cases ready : platform.keyStoreInit = .success
      · rw [ready, if_neg (not_not.mpr rfl), inSession, Program.exec_bind]
        have performed := @perform_exec _ platform machine (parseArgs argv) mbedtls target statusCode argv
        have obeyed := @dispatch_obeys _ platform machine (parseArgs argv) _ _ target documented full pem argv
        exact performed.trans obeyed
      · rw [if_pos ready, beq_eq_false_iff_ne.mpr ready]
        rfl
    · rw [if_pos opened, beq_eq_false_iff_ne.mpr opened]
      rfl

/-- Whatever is invoked in whatever order, the calls of the program amount to the commands. The
machine grants every vector, also one of more random bytes than a real one can hold. -/
theorem launches_refine {statusCode : SssStatus → Nat} (invocations : List (List String)) :
    series (Machine.launch platform mbedtls target statusCode) machine invocations =
      series (Machine.invoke platform mbedtls nameDer target) machine invocations :=
  series_congr fun _ argv => launch_eq_invoke documented full pem argv

end Keyed

end Commands

section Examples

def abc : Bytes := [0x61, 0x62, 0x63]

/-- Files have the numbers of these paths, and nothing fails. -/
def demoPlatform : Platform where
  resolve path :=
    ["message", "signature", "ciphertext", "recovered", "publicA", "publicB", "secretA", "secretB",
      "request", "/tmp/ec_csr.der", "/tmp/ec_csr.pem", "/tmp/rsa_csr.der",
      "/tmp/rsa_csr.pem"].idxOf path
  writable _ := true
  getenv _ := none
  boot _ := .success
  keyStoreInit := .success

/-- Two EC keys, an RSA key, and a message. -/
def demoMachine : Machine reference where
  store := (twoPairs .nistP256).store 0x20 (some (.pair (reference.newKey .rsa 2048 2)))
  files file := if file = 0 then some abc else none
  output := []

abbrev Machine.demoLaunch (machine : Machine reference) (argv : List String) :
    Nat × Machine reference :=
  machine.launch demoPlatform Mbedtls.demo .aarch64 (fun _ => 0) argv

def signing : List String :=
  ["app", "ecc", "sign", "--id", "0x10", "--in", "message", "--out", "signature"]

def verifying : List String :=
  ["app", "ecc", "verify", "--id", "0x10", "--in", "message", "--sig", "signature"]

theorem launches_refine_signing :
    series Machine.demoLaunch demoMachine [signing, verifying] =
        series (Machine.invoke demoPlatform Mbedtls.demo Mbedtls.demoNameDer .aarch64) demoMachine
          [signing, verifying] ∧
      (series Machine.demoLaunch demoMachine [signing, verifying]).1 = [0, 0] :=
  ⟨launches_refine Mbedtls.demo_documented Mbedtls.demo_failsOnlyFull Mbedtls.demo_pemDocumented _, rfl⟩

end Examples

end Se05x.CppApp
