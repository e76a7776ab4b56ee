import Se05x.CppApp.CsrStrictProperties
import Se05x.CppApp.Handles

/-!
# The hash of a certification request

The request is hashed with SHA-256 and names SHA-256; the secure element signs under the
algorithm the handle carries.
-/

set_option autoImplicit false

namespace Se05x.CppApp

open Der Interaction

/-- The hash a signature algorithm identifier names. -/
def oidHash (oid : Bytes) : Option Hash :=
  if oid = ecdsaWithSha256 ∨ oid = sha256WithRsaEncryption then some .sha256 else none

/-- Nothing fails except signing, and that exactly on a digest the algorithm does not accept. -/
def Undisturbed (spki : Filled 256) : Event host → Prop
  | ⟨.allocate _, answer⟩ => answer = .granted
  | ⟨.sss (.keyStoreGetKey _ _), answer⟩ => answer.1 = .success ∧ answer.2.val = spki.val
  | ⟨.sss (.asymmetricContextInit _), st⟩ => st = .success
  | ⟨.sss (.asymmetricSignDigest context digest _), answer⟩ =>
    answer.1 = .success ↔ context.algorithm.accepts digest = true
  | _ => True

variable {mbedtls : Mbedtls} {target : Target} {subjectDn : String} {spki : Filled 256}
  {nameDer : mbedtls.Names → Bytes}

/-- The information fits its buffer. -/
def CriFits (mbedtls : Mbedtls) (nameDer : mbedtls.Names → Bytes) (subjectDn : String)
    (spki : Bytes) : Prop :=
  ∃ names, mbedtls.x509StringToNames (cStr subjectDn) = some names ∧
    (infoEncoding (nameDer names) spki).length ≤ 4096

/-- The digest signed is the SHA-256 of the information in the request, the element was
asked to sign under an algorithm with that hash, and the request names it. -/
def HashesAgree (mbedtls : Mbedtls) (subjectDn : String) (spki : Bytes)
    (trace : List (Event host)) (pem : Bytes) : Prop :=
  ∃ cri digest context reply der algorithm signature,
    buildCri mbedtls subjectDn spki = .ok cri ∧ mbedtls.sha256Ret cri = some digest ∧
    (⟨.sss (.asymmetricSignDigest context digest.toList 256), reply⟩ : Event host) ∈ trace ∧
    context.algorithm.hash = some .sha256 ∧ toPem mbedtls der = .ok pem ∧
    readCertificationRequest der = some ⟨cri, algorithm, 0, signature⟩ ∧
    oidHash algorithm.oid = some .sha256

theorem EcKey.sign_run_ok {k : EcKey} {digest signature : Bytes} {trace : List (Event host)}
    (run : (k.sign digest).run.Runs trace (.ok signature)) :
    ∃ reply, (⟨.sss (.asymmetricSignDigest ⟨k.obj, k.sigAlgo, .sign⟩ digest 256), reply⟩ :
      Event host) ∈ trace ∧ reply.1 = .success := by
  obtain ⟨working, reply, worked, passed, _, rfl⟩ := asymmetricOutput_runs_ok run
  obtain ⟨answer, _, rfl, last⟩ := Program.runs_call_iff.mp worked
  obtain ⟨rfl, rfl⟩ := Program.runs_done_iff.mp last
  exact ⟨reply, by simp, passed⟩

theorem EcKey.publicKeyDer_wp (k : EcKey) :
    k.publicKeyDer.run.wp (.stateless (Undisturbed spki))
      (fun outcome _ => outcome = .ok spki.val) () := by
  simp only [EcKey.publicKeyDer, wp_allocate_bind, wp_sss_bind, wp_check_bind, wp_pure]
  simp +contextual [Undisturbed]

/-- Whatever algorithm the handle carries, a request that comes back names the hash it was
signed with. -/
theorem EcKey.makeCsr_agrees {k : EcKey} {trace : List (Event host)} {pem : Bytes}
    (documented : mbedtls.Documented nameDer)
    (run : (k.makeCsr mbedtls target subjectDn).run.Runs trace (.ok pem))
    (undisturbed : ∀ event ∈ trace, Undisturbed spki event) :
    HashesAgree mbedtls subjectDn spki.val trace pem := by
  obtain ⟨exporting, making, der, rfl, exported, made⟩ := Program.runs_throwing_bind_ok run
  have exports := exported.ensures_stateless
    (fun event member => undisturbed event (List.mem_append_left _ member))
    (EcKey.publicKeyDer_wp k)
  obtain rfl := Except.ok.inj exports
  obtain ⟨cri, digest, signature, der, built, hashed, signed, assembled, encoded⟩ :=
    makeCsrImpl_steps made
  obtain ⟨reply, asked, passed⟩ := EcKey.sign_run_ok signed
  have accepted := (undisturbed _ (List.mem_append_right _ asked)).mp passed
  obtain ⟨names, parsed⟩ := buildCri_parsed built
  obtain ⟨rfl, bound⟩ := buildCri_encoding documented parsed built
  refine ⟨_, digest, _, reply, der, signatureAlgorithm true, _, built, hashed,
    List.mem_append_right _ asked, Algorithm.hash_of_accepts accepted digest.length_toList, encoded,
    assembleDer_read documented (infoEncoding_isElement bound) assembled, ?_⟩
  exact if_pos (.inl rfl)

theorem EcKey.sign_wp {k : EcKey} {digest : Bytes}
    (accepted : k.sigAlgo.accepts digest = true) :
    (k.sign digest).run.wp (.stateless (Undisturbed spki))
      (fun outcome _ => ∃ signature, outcome = .ok signature ∧ signature.length ≤ 256) () := by
  simp only [EcKey.sign, asymmetricOutput, wp_sss_bind, wp_check_bind, wp_allocate_bind,
    wp_lift_bind, wp_pure, ask_eq_call, Program.wp_call, Program.wp_done]
  simp +contextual [Undisturbed, accepted]

/-- A handle that signs SHA-256 digests makes every request whose information fits. -/
theorem EcKey.makeCsr_succeeds {k : EcKey} {trace : List (Event host)}
    {outcome : Except CppException Bytes} (documented : mbedtls.Documented nameDer)
    (full : mbedtls.FailsOnlyFull nameDer) (pemDocumented : mbedtls.PemDocumented)
    (hashes : ∀ names, mbedtls.x509StringToNames (cStr subjectDn) = some names →
      (mbedtls.sha256Ret (infoEncoding (nameDer names) spki.val)).isSome)
    (fits : CriFits mbedtls nameDer subjectDn spki.val) (sha256 : k.sigAlgo.hash = some .sha256)
    (run : (k.makeCsr mbedtls target subjectDn).run.Runs trace outcome)
    (undisturbed : ∀ event ∈ trace, Undisturbed spki event) : ∃ pem, outcome = .ok pem := by
  obtain ⟨names, parsed, fits⟩ := fits
  obtain ⟨digest, hashed⟩ := Option.isSome_iff_exists.mp (hashes names parsed)
  have built := buildCri_fits documented full parsed fits
  have accepted : k.sigAlgo.accepts digest.toList = true := by
    rw [Algorithm.accepts, sha256, digest.length_toList]
    rfl
  have met : (k.makeCsr mbedtls target subjectDn).run.wp (.stateless (Undisturbed spki))
      (fun outcome _ => ∃ pem, outcome = .ok pem) () := by
    rw [EcKey.makeCsr, Program.wp_throwing_bind]
    refine Program.wp_mono (EcKey.publicKeyDer_wp k) ?_
    rintro _ _ rfl
    dsimp only
    rw [makeCsrImpl_signs built hashed, Program.wp_throwing_bind]
    refine Program.wp_mono (EcKey.sign_wp accepted) ?_
    rintro _ _ ⟨signature, rfl, short⟩
    dsimp only
    rw [Program.wp_liftExcept, assembleCsr_fits documented full pemDocumented fits
      ((encodedSignature_length_le target signature).trans (short.trans (by decide)))]
    exact ⟨_, rfl⟩
  exact run.ensures_stateless undisturbed met

theorem EcKey.sign_rejects {k : EcKey} {digest : Bytes}
    (rejected : k.sigAlgo.accepts digest = false) :
    ∃ trace error, (k.sign digest).run.Runs trace (.error error) ∧
      ∀ event ∈ trace, Undisturbed spki event := by
  refine ⟨[⟨.sss (.asymmetricContextInit ⟨k.obj, k.sigAlgo, .sign⟩), .success⟩,
    ⟨.allocate 256, .granted⟩,
    ⟨.sss (.asymmetricSignDigest ⟨k.obj, k.sigAlgo, .sign⟩ digest 256),
      (.fail, ⟨[], Nat.zero_le _⟩)⟩,
    ⟨.sss (.asymmetricContextFree (some ⟨k.obj, k.sigAlgo, .sign⟩)), ()⟩],
    .crypto "SSS call failed: asymmetric_sign_digest(EC)" .fail,
    .call (.call (.call (.call .done))), ?_⟩
  simp [Undisturbed, rejected]

/-- A handle that signs under another hash fails on every request. -/
theorem EcKey.makeCsr_fails {k : EcKey} {cri : Bytes} {digest : Vector UInt8 32}
    (built : buildCri mbedtls subjectDn spki.val = .ok cri)
    (hashed : mbedtls.sha256Ret cri = some digest)
    (rejected : k.sigAlgo.accepts digest.toList = false) :
    ∃ trace error, (k.makeCsr mbedtls target subjectDn).run.Runs trace (.error error) ∧
      ∀ event ∈ trace, Undisturbed spki event := by
  have exporting : k.publicKeyDer.run.Runs [⟨.allocate 256, .granted⟩,
      ⟨.sss (.keyStoreGetKey k.obj 256), (.success, spki)⟩] (.ok spki.val) := .call (.call .done)
  obtain ⟨trace, error, signing, undisturbed⟩ := EcKey.sign_rejects rejected
  have making : (makeCsrImpl mbedtls target subjectDn spki.val k.sign true).run.Runs trace
      (.error error) := by
    rw [makeCsrImpl_signs built hashed]
    exact Program.runs_throwing_bind_iff.mpr (.inr ⟨_, signing, rfl⟩)
  refine ⟨_, error, Program.runs_throwing_bind_iff.mpr
    (.inl ⟨_, trace, _, rfl, exporting, making⟩), ?_⟩
  intro event member
  rcases List.mem_append.mp member with exported | signed
  · simp only [List.mem_cons, List.not_mem_nil, or_false] at exported
    rcases exported with rfl | rfl
    · rfl
    · exact ⟨rfl, rfl⟩
  · exact undisturbed event signed

theorem Origin.sigAlgo_sha256_iff {origin : Origin} {curve : EcCurve} :
    (origin.sigAlgo curve).hash = some .sha256 ↔ origin = .open ∨ curve = .nistP256 := by
  cases origin <;> cases curve <;> decide

/-- Requests always name the hash they were signed with, and a fresh handle makes every
request whose information fits exactly if it was opened or generated on P-256. -/
theorem EcKey.makeCsr_hash_iff (documented : mbedtls.Documented nameDer)
    (full : mbedtls.FailsOnlyFull nameDer) (pemDocumented : mbedtls.PemDocumented)
    (hashes : ∀ names, mbedtls.x509StringToNames (cStr subjectDn) = some names →
      (mbedtls.sha256Ret (infoEncoding (nameDer names) spki.val)).isSome) (k : EcKey) :
    (∀ trace outcome, (k.makeCsr mbedtls target subjectDn).run.Runs trace outcome →
      (∀ event ∈ trace, Undisturbed spki event) →
        (∀ pem, outcome = .ok pem → HashesAgree mbedtls subjectDn spki.val trace pem) ∧
        (∀ origin curve, Fresh origin curve k → CriFits mbedtls nameDer subjectDn spki.val →
          ∃ pem, outcome = .ok pem)) ↔
      ∀ origin curve, Fresh origin curve k → CriFits mbedtls nameDer subjectDn spki.val →
        origin = .open ∨ curve = .nistP256 := by
  constructor
  · intro holds origin curve fresh fits
    obtain ⟨names, parsed, room⟩ := fits
    obtain ⟨digest, hashed⟩ := Option.isSome_iff_exists.mp (hashes names parsed)
    have built := buildCri_fits documented full parsed room
    cases accepted : k.sigAlgo.accepts digest.toList with
    | true =>
        have sha256 := Algorithm.hash_of_accepts accepted digest.length_toList
        rw [fresh.sigAlgo] at sha256
        exact Origin.sigAlgo_sha256_iff.mp sha256
    | false =>
        obtain ⟨trace, error, run, undisturbed⟩ := EcKey.makeCsr_fails built hashed accepted
        obtain ⟨pem, ⟨⟩⟩ :=
          (holds trace _ run undisturbed).2 origin curve fresh ⟨names, parsed, room⟩
  · intro suited trace outcome run undisturbed
    constructor
    · rintro pem rfl
      exact EcKey.makeCsr_agrees documented run undisturbed
    · intro origin curve fresh fits
      have sha256 := Origin.sigAlgo_sha256_iff.mpr (suited origin curve fresh fits)
      rw [← fresh.sigAlgo] at sha256
      exact EcKey.makeCsr_succeeds documented full pemDocumented hashes fits sha256 run undisturbed

section Examples

theorem demoSpki_short : Mbedtls.demoSpki.length ≤ 256 := by decide

theorem demo_criFits : CriFits Mbedtls.demo id Mbedtls.demoSubject Mbedtls.demoSpki :=
  ⟨Mbedtls.demoName, demo_parses, demo_fits⟩

theorem demo_hashes : ∀ names, Mbedtls.demo.x509StringToNames (cStr Mbedtls.demoSubject) =
    some names → (Mbedtls.demo.sha256Ret (infoEncoding (id names) Mbedtls.demoSpki)).isSome := by
  intro names parsed
  rw [demo_parses] at parsed
  cases parsed
  rw [id, Mbedtls.demo_sha256Ret]
  rfl

/-- The handle of a key generated under one identifier. -/
def generatedHandle (curve : EcCurve) : EcKey where
  obj := .allocated 0x10 .pair .ecNistP (3 * ((curveBits curve + 7) / 8) + 8) .persistent
  sigAlgo := curveSigAlgo curve
  curve := curve
  owns := true

/-- It comes from the run of `generate` in which every call succeeds. -/
theorem generatedHandle_fresh (curve : EcCurve) :
    Fresh .generate curve (generatedHandle curve) := by
  refine ⟨0x10, [⟨.sss .keyObjectInit, .success⟩, ⟨.sss (.keyObjectAllocateHandle 0x10 .pair .ecNistP
    (3 * ((curveBits curve + 7) / 8) + 8) .persistent), .success⟩,
    ⟨.sss (.keyStoreGenerateKey (generatedHandle curve).obj (curveBits curve)), .success⟩], ?_⟩
  exact .call (.call (.call .done))

/-- The demo subject's request from a handle just generated on P-256. -/
theorem makeCsr_hash_p256 :
    Fresh .generate .nistP256 (generatedHandle .nistP256) ∧
      CriFits Mbedtls.demo id Mbedtls.demoSubject Mbedtls.demoSpki ∧
      ∀ trace outcome, ((generatedHandle .nistP256).makeCsr Mbedtls.demo .aarch64
          Mbedtls.demoSubject).run.Runs trace outcome →
        (∀ event ∈ trace, Undisturbed ⟨Mbedtls.demoSpki, demoSpki_short⟩ event) →
          ∃ pem, outcome = .ok pem ∧
            HashesAgree Mbedtls.demo Mbedtls.demoSubject Mbedtls.demoSpki trace pem := by
  refine ⟨generatedHandle_fresh _, demo_criFits, ?_⟩
  intro trace outcome run undisturbed
  have holds := (@EcKey.makeCsr_hash_iff Mbedtls.demo .aarch64 Mbedtls.demoSubject
    ⟨Mbedtls.demoSpki, demoSpki_short⟩ id Mbedtls.demo_documented Mbedtls.demo_failsOnlyFull
    Mbedtls.demo_pemDocumented demo_hashes (generatedHandle .nistP256)).mpr
      fun origin curve fresh _ => Origin.sigAlgo_sha256_iff.mp (congrArg _ fresh.sigAlgo.symm)
  obtain ⟨agrees, succeeds⟩ := holds trace outcome run undisturbed
  obtain ⟨pem, rfl⟩ := succeeds .generate .nistP256 (generatedHandle_fresh _) demo_criFits
  exact ⟨pem, rfl, agrees pem rfl⟩

/-- From a handle just generated on P-384 the same request fails. -/
theorem makeCsr_fails_p384 :
    Fresh .generate .nistP384 (generatedHandle .nistP384) ∧
      CriFits Mbedtls.demo id Mbedtls.demoSubject Mbedtls.demoSpki ∧
      ∃ trace error, ((generatedHandle .nistP384).makeCsr Mbedtls.demo .aarch64
          Mbedtls.demoSubject).run.Runs trace (.error error) ∧
        ∀ event ∈ trace, Undisturbed ⟨Mbedtls.demoSpki, demoSpki_short⟩ event := by
  have built := buildCri_fits Mbedtls.demo_documented Mbedtls.demo_failsOnlyFull demo_parses demo_fits
  refine ⟨generatedHandle_fresh _, demo_criFits, EcKey.makeCsr_fails built (Mbedtls.demo_sha256Ret _) ?_⟩
  rw [Algorithm.accepts, Vector.length_toList]
  rfl

end Examples

end Se05x.CppApp
