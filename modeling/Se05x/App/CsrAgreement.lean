import Se05x.App.CsrProperties

/-!
# The demos' requests and the C++ program's

From the same public key and the same signature the demos and the C++ program build the
same DER, and both hand the same digest to the signing operation.
-/

set_option autoImplicit false

namespace Se05x.App

open Der Interaction Procedure
open CppApp (signatureAlgorithm)

/-- The element returns this public key and this signature whenever it returns any. -/
def Returns (spki signature : Bytes) : Event host → Prop
  | ⟨.sss (.keyStoreGetKey _ _), reply⟩ => reply.1 = .success → reply.2.val = spki
  | ⟨.sss (.asymmetricSignDigest _ _ _), reply⟩ => reply.1 = .success → reply.2.val = signature
  | _ => True

/-- Only this digest is handed to the signing operation. -/
def Signs (digest : Option (Vector UInt8 32)) : HostCall → Prop
  | .sss (.asymmetricSignDigest _ handed _) => digest.map Vector.toList = some handed
  | _ => True

/-- Only this request is reported. -/
def Reports (der : Bytes) : HostCall → Prop
  | .logBytes _ bytes => bytes = der
  | _ => True

def signed : Event host → Bool
  | ⟨.sss (.asymmetricSignDigest _ _ _), reply⟩ => reply.1 == .success
  | _ => false

def reported : Event host → Bool
  | ⟨.logBytes _ _, _⟩ => true
  | _ => false

structure Progress where
  signed : Bool
  reported : Bool

def Progress.record (progress : Progress) (event : Event host) : Progress :=
  ⟨progress.signed || App.signed event, progress.reported || App.reported event⟩

def requesting (spki signature : Bytes) (digest : Option (Vector UInt8 32)) (der : Bytes) :
    Contract host Progress where
  allows _ request := Signs digest request ∧ Reports der request
  moves progress event after := Returns spki signature event ∧ after = progress.record event

section Passive

variable {request : HostCall} {answer : request.Answer}

theorem signs_of_passive {digest : Option (Vector UInt8 32)} (inert : passive request = true) :
    Signs digest request := by
  unfold Signs
  split
  · cases inert
  · trivial

theorem reports_of_passive {der : Bytes} (inert : passive request = true) : Reports der request := by
  unfold Reports
  split
  · cases inert
  · trivial

theorem signed_of_passive (inert : passive request = true) : signed ⟨request, answer⟩ = false := by
  unfold signed
  split
  · rename_i same
    cases same
    cases inert
  · rfl

theorem reported_of_passive (inert : passive request = true) :
    reported ⟨request, answer⟩ = false := by
  unfold reported
  split
  · rename_i same
    cases same
    cases inert
  · rfl

end Passive

section Runs

variable {mbedtls : Mbedtls} {csrDemo : CsrDemo} {spki signature info der : Bytes}

theorem requesting_leavesPassive {digest : Option (Vector UInt8 32)} :
    LeavesPassive (requesting spki signature digest der) := by
  intro progress request inert
  refine ⟨⟨signs_of_passive inert, reports_of_passive inert⟩, fun answer after moved => ?_⟩
  rw [moved.2, Progress.record, signed_of_passive inert, reported_of_passive inert, Bool.or_false,
    Bool.or_false]

/-- Every digest signed is that of the information, every request reported is the whole one,
and a signature that was returned ends in a report if the request can be assembled. -/
theorem requestCsr_wp
    (criBuilt : ∀ cri, buildCri mbedtls csrDemo.criSize spki = .ok cri → cri = info)
    (csrBuilt : ∀ csr, assembleCsr mbedtls csrDemo.csrSize csrDemo.algorithmIdentifier info
      signature = .ok csr → csr = der) :
    (requestCsr mbedtls csrDemo).wp (requesting spki signature (mbedtls.sha256Ret info) der)
      (fun _ progress => assembleCsr mbedtls csrDemo.csrSize csrDemo.algorithmIdentifier info
        signature = .ok der → progress.signed = true → progress.reported = true) ⟨false, false⟩ := by
  have leaves : LeavesPassive (requesting spki signature (mbedtls.sha256Ret info) der) :=
    requesting_leavesPassive
  refine demo_wp (fun l kept progress met => ?_) ?_
  · exact passive_program_wp leaves rfl fun _ => passive_program_wp leaves rfl fun _ =>
      reportFailure_wp leaves met
  refine passive_wp leaves rfl fun _ => getKeyHandle_wp leaves (fun _ _ => ?_) fun _ _ => nofun
  refine issue_wp ⟨trivial, trivial⟩ fun answer after moved => ?_
  obtain ⟨st, key⟩ := answer
  obtain ⟨exported, rfl⟩ := moved
  refine ensure_wp (fun passed _ _ => ?_) fun _ _ _ => nofun
  rw [exported passed]
  refine liftExcept_wp (fun cri built => ?_) fun _ _ => nofun
  rw [criBuilt cri built]
  cases hashed : mbedtls.sha256Ret info with
  | none => exact fun _ => nofun
  | some hash =>
      rw [hashed] at leaves
      refine openAsym_wp leaves (fun _ _ => ?_) fun _ _ => nofun
      refine issue_wp ⟨rfl, trivial⟩ fun answer after moved => ?_
      obtain ⟨st, sig⟩ := answer
      obtain ⟨returned, rfl⟩ := moved
      refine ensure_wp (fun passed _ _ => ?_) fun refused _ _ _ unsigned => ?_
      · rw [returned passed]
        refine closeAsym_wp leaves fun _ _ => ?_
        refine liftExcept_wp (fun csr assembled => ?_) fun _ failed assembled => ?_
        · rw [csrBuilt csr assembled]
          refine issue_wp ⟨trivial, rfl⟩ fun _ after moved => ?_
          obtain ⟨-, rfl⟩ := moved
          refine saveFile_wp leaves (savePem_wp leaves ?_)
          refine passive_wp leaves rfl fun _ => passive_wp leaves rfl fun _ =>
            passive_wp leaves rfl fun _ => ?_
          exact fun _ _ => rfl
        · rw [assembled] at failed
          cases failed
      · have signed : (st == .success) = true := unsigned
        exact absurd (beq_iff_eq.mp signed) refused

theorem requesting_history {digest : Option (Vector UInt8 32)} {trace : List (Event host)}
    {progress : Progress} (returns : ∀ event ∈ trace, Returns spki signature event) :
    (requesting spki signature digest der).History progress trace
      ⟨progress.signed || trace.any signed, progress.reported || trace.any reported⟩ := by
  induction trace generalizing progress with
  | nil =>
      rw [List.any_nil, List.any_nil, Bool.or_false, Bool.or_false]
      exact .nil
  | cons event trace ih =>
      have rest := @ih (progress.record event)
        fun other member => returns other (List.mem_cons_of_mem _ member)
      rw [List.any_cons, List.any_cons, ← Bool.or_assoc, ← Bool.or_assoc]
      exact .cons ⟨returns event List.mem_cons_self, rfl⟩ rest

end Runs

/-- What holds of every run of a demo that got this public key and this signature. -/
def EveryRun (demo : Program host SssStatus) (spki signature : Bytes)
    (holds : List (Event host) → Prop) : Prop :=
  ∀ trace status, demo.Runs trace status → (∀ event ∈ trace, Returns spki signature event) →
    holds trace

/-- The demo and the C++ program make one request from this key and this signature. -/
structure SameRequest (mbedtls : Mbedtls) (target : Target) (demo : Program host SssStatus)
    (isEc : Bool) (spki signature : Bytes) : Prop where
  /-- Whatever signing function the C++ program is given, it is handed the demo's digest. -/
  digest : ∀ cri, CppApp.buildCri mbedtls subject spki = .ok cri →
    (∀ (I : Interface) (sign : Bytes → ExceptT CppApp.CppException (Program I) Bytes),
      CppApp.makeCsrImpl mbedtls target subject spki sign isEc =
        match mbedtls.sha256Ret cri with
        | none => throw (CppApp.cryptoError "sha256 over CRI failed")
        | some digest => do
          liftExcept (CppApp.assembleCsr mbedtls target cri (← sign digest.toList) isEc)) ∧
    EveryRun demo spki signature fun trace =>
      ∀ event ∈ trace, Signs (mbedtls.sha256Ret cri) event.request
  request : ∀ cri der, CppApp.buildCri mbedtls subject spki = .ok cri →
    CppApp.assembleDer mbedtls target cri signature isEc = .ok der →
    EveryRun demo spki signature fun trace => ∀ event ∈ trace, Reports der event.request

/-- Both builders succeed, and a signature that was returned ends in a reported request. -/
structure BuildsRequest (mbedtls : Mbedtls) (target : Target) (csrDemo : CsrDemo) (isEc : Bool)
    (spki signature cri der : Bytes) : Prop where
  information : buildCri mbedtls csrDemo.criSize spki = .ok cri
  cppInformation : CppApp.buildCri mbedtls subject spki = .ok cri
  request : assembleCsr mbedtls csrDemo.csrSize csrDemo.algorithmIdentifier cri signature = .ok der
  cppRequest : CppApp.assembleDer mbedtls target cri signature isEc = .ok der
  reports : EveryRun (requestCsr mbedtls csrDemo) spki signature fun trace =>
    trace.any signed = true → trace.any reported = true

section Agreement

variable {mbedtls : Mbedtls} {nameDer : mbedtls.Names → Bytes} {target : Target} {csrDemo : CsrDemo}
  {isEc : Bool} {spki signature : Bytes}

theorem cStr_subject : CppApp.cStr subject = subject := by decide

theorem encodedSignature_short (short : signature.length ≤ 256) :
    CppApp.encodedSignature target signature = signature := by
  refine CppApp.encodedSignature_eq_iff.mpr (short.trans_lt ?_)
  cases target <;> decide

/-- What the demo's builders return are the encodings, whatever the C++ program does. -/
theorem requestCsr_everyRun (documented : mbedtls.Documented nameDer)
    (identifier : mbedtls.Encodes nameDer csrDemo.algorithmIdentifier
      (element sequenceTag (signatureAlgorithm isEc).content))
    (criSmall : csrDemo.criSize < 2 ^ 32) (csrSmall : csrDemo.csrSize < 2 ^ 32)
    {names : mbedtls.Names} (parsed : mbedtls.x509StringToNames subject = some names) :
    EveryRun (requestCsr mbedtls csrDemo) spki signature fun trace =>
      (∀ event ∈ trace,
        Signs (mbedtls.sha256Ret (infoEncoding (nameDer names) spki)) event.request ∧
          Reports (requestEncoding (infoEncoding (nameDer names) spki) (signatureAlgorithm isEc)
            signature) event.request) ∧
      (assembleCsr mbedtls csrDemo.csrSize csrDemo.algorithmIdentifier
          (infoEncoding (nameDer names) spki) signature =
        .ok (requestEncoding (infoEncoding (nameDer names) spki) (signatureAlgorithm isEc)
          signature) → trace.any signed = true → trace.any reported = true) := by
  intro trace status run returns
  have criBuilt : ∀ cri, buildCri mbedtls csrDemo.criSize spki = .ok cri →
      cri = infoEncoding (nameDer names) spki :=
    fun cri built => (buildCri_encoding documented criSmall parsed built).1
  have csrBuilt : ∀ csr, assembleCsr mbedtls csrDemo.csrSize csrDemo.algorithmIdentifier
      (infoEncoding (nameDer names) spki) signature = .ok csr →
      csr = requestEncoding (infoEncoding (nameDer names) spki) (signatureAlgorithm isEc)
        signature :=
    fun csr built => (assembleCsr_encoding documented csrSmall identifier built).1
  have met := requestCsr_wp criBuilt csrBuilt
  refine ⟨fun event member => ?_, run.ensures met (requesting_history returns)⟩
  obtain ⟨before, after, rfl⟩ := List.append_of_mem member
  have earlier : ∀ event ∈ before, Returns spki signature event :=
    fun event member => returns event (List.mem_append_left _ member)
  exact run.allowed met (requesting_history earlier)

theorem requestCsr_same (documented : mbedtls.Documented nameDer)
    (identifier : mbedtls.Encodes nameDer csrDemo.algorithmIdentifier
      (element sequenceTag (signatureAlgorithm isEc).content))
    (criSmall : csrDemo.criSize < 2 ^ 32) (csrSmall : csrDemo.csrSize < 2 ^ 32)
    (short : signature.length ≤ 256) :
    SameRequest mbedtls target (requestCsr mbedtls csrDemo) isEc spki signature where
  digest cri built := by
    obtain ⟨names, parsed⟩ := CppApp.buildCri_parsed built
    obtain ⟨rfl, -⟩ := CppApp.buildCri_encoding documented parsed built
    rw [cStr_subject] at parsed
    constructor
    · intro I sign
      rw [CppApp.makeCsrImpl, built]
      rfl
    · intro trace status run returns event member
      exact ((requestCsr_everyRun documented identifier criSmall csrSmall parsed trace status run
        returns).1 event member).1
  request cri der built assembled := by
    obtain ⟨names, parsed⟩ := CppApp.buildCri_parsed built
    obtain ⟨rfl, -⟩ := CppApp.buildCri_encoding documented parsed built
    obtain ⟨rfl, -⟩ := CppApp.assembleDer_encoding documented assembled
    rw [cStr_subject] at parsed
    rw [encodedSignature_short short]
    intro trace status run returns event member
    exact ((requestCsr_everyRun documented identifier criSmall csrSmall parsed trace status run
      returns).1 event member).2

/-- Encodings that fit the demo's buffers are built by both programs. -/
theorem requestCsr_builds (documented : mbedtls.Documented nameDer)
    (full : mbedtls.FailsOnlyFull nameDer)
    (identifier : mbedtls.Encodes nameDer csrDemo.algorithmIdentifier
      (element sequenceTag (signatureAlgorithm isEc).content))
    {names : mbedtls.Names} (parsed : mbedtls.x509StringToNames subject = some names)
    (criSize : csrDemo.criSize ≤ 4096) (csrSize : csrDemo.csrSize ≤ 8192)
    (short : signature.length ≤ 256)
    (infoFits : (infoEncoding (nameDer names) spki).length ≤ csrDemo.criSize)
    (requestFits : (requestEncoding (infoEncoding (nameDer names) spki) (signatureAlgorithm isEc)
      signature).length ≤ csrDemo.csrSize) :
    BuildsRequest mbedtls target csrDemo isEc spki signature (infoEncoding (nameDer names) spki)
      (requestEncoding (infoEncoding (nameDer names) spki) (signatureAlgorithm isEc) signature) := by
  have assembled := assembleCsr_fits documented full (by omega) identifier requestFits
  have cppParsed : mbedtls.x509StringToNames (CppApp.cStr subject) = some names := by
    rw [cStr_subject, parsed]
  have same : CppApp.encodedSignature target signature = signature := encodedSignature_short short
  have cppAssembled : CppApp.assembleDer mbedtls target (infoEncoding (nameDer names) spki)
      signature isEc = .ok (requestEncoding (infoEncoding (nameDer names) spki)
        (signatureAlgorithm isEc) (CppApp.encodedSignature target signature)) :=
    CppApp.assembleDer_fits documented full (by rw [same]; exact requestFits.trans csrSize)
  rw [same] at cppAssembled
  exact {
    information := buildCri_fits documented full (by omega) parsed infoFits
    cppInformation := CppApp.buildCri_fits documented full cppParsed (infoFits.trans criSize)
    request := assembled
    cppRequest := cppAssembled
    reports := fun trace status run returns =>
      (requestCsr_everyRun documented identifier (by omega) (by omega) parsed trace status run
        returns).2 assembled }

theorem requestCsr_matches (documented : mbedtls.Documented nameDer)
    (identifier : mbedtls.Encodes nameDer csrDemo.algorithmIdentifier
      (element sequenceTag (signatureAlgorithm isEc).content))
    (key : spki.length + 32 ≤ csrDemo.criSize) (short : signature.length ≤ 256)
    (room : csrDemo.criSize + signature.length + 26 ≤ csrDemo.csrSize)
    (criSize : csrDemo.criSize ≤ 1024) (csrSize : csrDemo.csrSize ≤ 2048) :
    SameRequest mbedtls target (requestCsr mbedtls csrDemo) isEc spki signature ∧
      (mbedtls.FailsOnlyFull nameDer → ∀ names, mbedtls.x509StringToNames subject = some names →
        (nameDer names).length = 23 →
        ∃ cri der, BuildsRequest mbedtls target csrDemo isEc spki signature cri der) := by
  refine ⟨requestCsr_same documented identifier (by omega) (by omega) short, ?_⟩
  intro full names parsed named
  have info : (infoEncoding (nameDer names) spki).length ≤ spki.length + 32 :=
    (infoEncoding_length_le (by omega)).trans (by omega)
  have request : (requestEncoding (infoEncoding (nameDer names) spki) (signatureAlgorithm isEc)
      signature).length ≤ _ := CppApp.csrEncoding_length_le (by omega) (by omega)
  exact ⟨_, _, requestCsr_builds documented full identifier parsed (by omega) (by omega) short
    (by omega) (by omega)⟩

/-- For every key and signature that fit the demos' buffers the demos and the C++ program
agree on the digest and the request, and with a Name of 23 bytes nothing runs out of room. -/
theorem demoCsr_matches_makeCsrImpl (documented : mbedtls.Documented nameDer) (target : Target)
    (spki signature : Bytes) :
    (spki.length ≤ ecPubBufLen → signature.length ≤ ecSigBufLen →
      SameRequest mbedtls target (demoEcCsr mbedtls) true spki signature ∧
      (mbedtls.FailsOnlyFull nameDer → ∀ names, mbedtls.x509StringToNames subject = some names →
        (nameDer names).length = 23 →
        ∃ cri der, BuildsRequest mbedtls target (ecCsr mbedtls) true spki signature cri der)) ∧
    (spki.length ≤ rsaPubBufLen → signature.length ≤ rsaSigBufLen →
      SameRequest mbedtls target (demoRsaCsr mbedtls) false spki signature ∧
      (mbedtls.FailsOnlyFull nameDer → ∀ names, mbedtls.x509StringToNames subject = some names →
        (nameDer names).length = 23 →
        ∃ cri der, BuildsRequest mbedtls target (rsaCsr mbedtls) false spki signature cri der)) := by
  constructor
  · intro key short
    have identifier : mbedtls.Encodes nameDer (ecCsr mbedtls).algorithmIdentifier
        (element sequenceTag (signatureAlgorithm true).content) :=
      .algorithmIdentifierExt ecdsaWithSha256
    have criSize : (ecCsr mbedtls).criSize = 512 := rfl
    have csrSize : (ecCsr mbedtls).csrSize = 1024 := rfl
    rw [ecPubBufLen] at key
    rw [ecSigBufLen] at short
    exact requestCsr_matches documented identifier (by omega) (by omega) (by omega) (by omega)
      (by omega)
  · intro key short
    have identifier : mbedtls.Encodes nameDer (rsaCsr mbedtls).algorithmIdentifier
        (element sequenceTag (signatureAlgorithm false).content) :=
      .algorithmIdentifier sha256WithRsaEncryption
    have criSize : (rsaCsr mbedtls).criSize = 1024 := rfl
    have csrSize : (rsaCsr mbedtls).csrSize = 2048 := rfl
    rw [rsaPubBufLen] at key
    rw [rsaSigBufLen] at short
    exact requestCsr_matches documented identifier (by omega) (by omega) (by omega) (by omega)
      (by omega)

end Agreement

/-- A P-256 key and a 2048-bit RSA key, on the 32-bit target. -/
theorem demoCsr_matches_reference :
    (SameRequest .demo .armhf (demoEcCsr .demo) true Mbedtls.demoSpki (List.replicate 72 0x30) ∧
      ∃ cri der, BuildsRequest .demo .armhf (ecCsr .demo) true Mbedtls.demoSpki
        (List.replicate 72 0x30) cri der) ∧
    (SameRequest .demo .armhf (demoRsaCsr .demo) false (List.replicate 294 0x30)
        (List.replicate 256 0x5a) ∧
      ∃ cri der, BuildsRequest .demo .armhf (rsaCsr .demo) false (List.replicate 294 0x30)
        (List.replicate 256 0x5a) cri der) := by
  have ec := (demoCsr_matches_makeCsrImpl Mbedtls.demo_documented .armhf Mbedtls.demoSpki
    (List.replicate 72 0x30)).1 (by decide) (by decide)
  have rsa := (demoCsr_matches_makeCsrImpl Mbedtls.demo_documented .armhf (List.replicate 294 0x30)
    (List.replicate 256 0x5a)).2 (by rw [List.length_replicate]; decide)
    (by rw [List.length_replicate]; decide)
  have parsed : Mbedtls.demo.x509StringToNames subject = some Mbedtls.demoName :=
    Mbedtls.demo_parses_demoSubject
  exact ⟨⟨ec.1, ec.2 Mbedtls.demo_failsOnlyFull _ parsed Mbedtls.demoName_length⟩,
    ⟨rsa.1, rsa.2 Mbedtls.demo_failsOnlyFull _ parsed Mbedtls.demoName_length⟩⟩

end Se05x.App
