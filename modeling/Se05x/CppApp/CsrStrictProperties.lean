import Se05x.CppApp.CsrProperties

/-!
# Requests read back strictly

The DER a request is encoded from, as a strict reader sees it.
-/

set_option autoImplicit false

namespace Se05x.CppApp

open Der Interaction

/-- What a strict reader finds in a request for this subject and key. -/
structure StrictlyReads (subject spki : Bytes) (isEc : Bool) (cri signature der : Bytes) :
    Prop where
  request : readCertificationRequest der = some ⟨cri, signatureAlgorithm isEc, 0, signature⟩
  layout : cri = infoEncoding subject spki
  info : IsElement sequenceTag subject → IsElement sequenceTag spki →
    readCertificationRequestInfo cri = some ⟨[0], subject, spki, []⟩

section Requests

variable {I : Interface} {mbedtls : Mbedtls} {target : Target} {subjectDn : String} {spki : Bytes}
  {sign : Bytes → ExceptT CppException (Program I) Bytes} {isEc : Bool} {trace : List (Event I)}
  {pem : Bytes}

/-- Every request the program returns is read back strictly: the information it signed
stands first, with the subject and the key verbatim, and the signature is the one the
signing function returned. The signature's bit count must fit a `size_t`. -/
theorem makeCsrImpl_strictly_reads {nameDer : mbedtls.Names → Bytes} {names : mbedtls.Names}
    (documented : mbedtls.Documented nameDer)
    (parsed : mbedtls.x509StringToNames (cStr subjectDn) = some names)
    (countable : ∀ digest signing signature, (sign digest).run.Runs signing (.ok signature) →
      signature.length < 2 ^ (target.wordBits - 3))
    (run : (makeCsrImpl mbedtls target subjectDn spki sign isEc).run.Runs trace (.ok pem)) :
    ∃ cri digest signature der, buildCri mbedtls subjectDn spki = .ok cri ∧
      mbedtls.sha256Ret cri = some digest ∧
      (sign digest.toList).run.Runs trace (.ok signature) ∧
      assembleDer mbedtls target cri signature isEc = .ok der ∧ toPem mbedtls der = .ok pem ∧
      StrictlyReads (nameDer names) spki isEc cri signature der := by
  obtain ⟨cri, digest, signature, der, built, hashed, signed, assembled, encoded⟩ :=
    makeCsrImpl_steps run
  obtain ⟨rfl, criBound⟩ := buildCri_encoding documented parsed built
  have read := assembleDer_read documented (infoEncoding_isElement criBound) assembled
  rw [encodedSignature_eq_iff.mpr (countable _ _ _ signed)] at read
  refine ⟨_, digest, signature, der, built, hashed, signed, assembled, encoded, read, rfl, ?_⟩
  intro subjectElement keyElement
  exact readCertificationRequestInfo_encoding subjectElement keyElement
    (criBound.trans_lt (by decide))

end Requests

/-- An environment that is never called. -/
def silent : Interface := ⟨Empty, Empty.elim⟩

/-- A signing function that answers every digest with the same bytes. -/
def constantSigner (signature : Bytes) : Bytes → ExceptT CppException (Program silent) Bytes :=
  fun _ => pure signature

theorem constantSigner_runs {signature digest : Bytes} {trace : List (Event silent)}
    {result : Except CppException Bytes} :
    (constantSigner signature digest).run.Runs trace result ↔ trace = [] ∧ result = .ok signature :=
  Program.runs_pure_iff

theorem demo_fits : (infoEncoding Mbedtls.demoName Mbedtls.demoSpki).length ≤ 4096 :=
  (infoEncoding_length_le (by decide)).trans (by decide)

theorem demo_parses : Mbedtls.demo.x509StringToNames (cStr Mbedtls.demoSubject) =
    some Mbedtls.demoName :=
  Mbedtls.demo_parses_demoSubject

/-- A signature whose bit count wraps is never the one in the request. -/
theorem StrictlyReads.signature_countable {mbedtls : Mbedtls} {nameDer : mbedtls.Names → Bytes}
    {names : mbedtls.Names} {target : Target} {subjectDn : String} {spki cri signature der : Bytes}
    {isEc : Bool} (documented : mbedtls.Documented nameDer)
    (parsed : mbedtls.x509StringToNames (cStr subjectDn) = some names)
    (built : buildCri mbedtls subjectDn spki = .ok cri)
    (assembled : assembleDer mbedtls target cri signature isEc = .ok der)
    (reads : StrictlyReads (nameDer names) spki isEc cri signature der) :
    signature.length < 2 ^ (target.wordBits - 3) := by
  obtain ⟨rfl, criBound⟩ := buildCri_encoding documented parsed built
  have read := assembleDer_read documented (infoEncoding_isElement criBound) assembled
  rw [reads.request] at read
  simp only [Option.some.injEq, CertificationRequest.mk.injEq, true_and] at read
  exact encodedSignature_eq_iff.mp read.symm

/-- The library of the demo subject returns a request for every short signature. -/
theorem demo_returns {target : Target} {signature : Bytes}
    (short : (encodedSignature target signature).length ≤ 512) :
    ∃ pem, (makeCsrImpl Mbedtls.demo target Mbedtls.demoSubject Mbedtls.demoSpki
      (constantSigner signature) true).run.Runs [] (.ok pem) :=
  ⟨_, makeCsrImpl_returns Mbedtls.demo_documented Mbedtls.demo_failsOnlyFull
    Mbedtls.demo_pemDocumented demo_parses demo_fits (Mbedtls.demo_sha256Ret _)
    (constantSigner_runs.mpr ⟨rfl, rfl⟩) short⟩

/-- The demo subject's request, signed with a short signature. -/
theorem makeCsrImpl_strictly_reads_demo :
    ∃ pem cri digest signature der,
      buildCri Mbedtls.demo Mbedtls.demoSubject Mbedtls.demoSpki = .ok cri ∧
      Mbedtls.demo.sha256Ret cri = some digest ∧
      (constantSigner [0x30, 0x06, 0x02, 0x01, 0x01, 0x02, 0x01, 0x01] digest.toList).run.Runs []
        (.ok signature) ∧
      assembleDer Mbedtls.demo .aarch64 cri signature true = .ok der ∧
      toPem Mbedtls.demo der = .ok pem ∧
      StrictlyReads Mbedtls.demoName Mbedtls.demoSpki true cri signature der := by
  obtain ⟨pem, run⟩ := @demo_returns .aarch64 [0x30, 0x06, 0x02, 0x01, 0x01, 0x02, 0x01, 0x01]
    (by decide)
  refine ⟨pem, @makeCsrImpl_strictly_reads _ _ _ _ _ _ _ _ _ id Mbedtls.demoName
    Mbedtls.demo_documented demo_parses ?_ run⟩
  intro digest signing signature signed
  obtain ⟨_, same⟩ := constantSigner_runs.mp signed
  cases same
  decide

/-- On the 32-bit target 2^29 bytes count as no bits, and the request carries no signature. -/
theorem makeCsrImpl_loses_long_signature :
    ∃ pem, (makeCsrImpl Mbedtls.demo .armhf Mbedtls.demoSubject Mbedtls.demoSpki
        (constantSigner (List.replicate (2 ^ 29) 0)) true).run.Runs [] (.ok pem) ∧
      ¬ ∃ cri digest signature der,
        buildCri Mbedtls.demo Mbedtls.demoSubject Mbedtls.demoSpki = .ok cri ∧
        Mbedtls.demo.sha256Ret cri = some digest ∧
        (constantSigner (List.replicate (2 ^ 29) 0) digest.toList).run.Runs [] (.ok signature) ∧
        assembleDer Mbedtls.demo .armhf cri signature true = .ok der ∧
        toPem Mbedtls.demo der = .ok pem ∧
        StrictlyReads Mbedtls.demoName Mbedtls.demoSpki true cri signature der := by
  have dropped : (encodedSignature .armhf (List.replicate (2 ^ 29) 0)).length ≤ 512 := by
    rw [encodedSignature, List.length_take, List.length_replicate, Target.wordBits, Nat.mod_self]
    exact (Nat.min_le_left _ _).trans (Nat.zero_le _)
  obtain ⟨pem, run⟩ := demo_returns dropped
  refine ⟨pem, run, ?_⟩
  intro steps
  obtain ⟨cri, digest, signature, der, built, _, signed, assembled, _, reads⟩ := steps
  obtain ⟨_, same⟩ := constantSigner_runs.mp signed
  have short := reads.signature_countable Mbedtls.demo_documented demo_parses built assembled
  rw [Except.ok.inj same, List.length_replicate] at short
  exact absurd short (Nat.lt_irrefl _)

end Se05x.CppApp
