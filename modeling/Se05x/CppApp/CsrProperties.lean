import Se05x.CppApp.Csr
import Se05x.Interaction.Throwing
import Se05x.Mbedtls.Reference

/-!
# What the assembled request is

Every step keeps the cursor and the running length in agreement, so the slices returned
are the encodings built so far. A failure needs an encoding that does not fit.
-/

set_option autoImplicit false

namespace Se05x.CppApp

open Der Interaction

/-- The signature algorithm a request for this kind of key names. -/
def signatureAlgorithm (isEc : Bool) : AlgorithmIdentifier :=
  if isEc then ⟨ecdsaWithSha256, none⟩ else ⟨sha256WithRsaEncryption, some ⟨nullTag, []⟩⟩

section Steps

variable {size : Nat} {c after : Buffer} {len total : Int} {base bytes der : Bytes}
  {writer : Writer}

theorem chk_tracks (prepends : writer.Prepends der) (tracks : Tracks size base c len bytes)
    (step : chk len (writer c) = .ok (total, after)) : Tracks size base after total (der ++ bytes) := by
  by_cases failed : (writer c).1 < 0
  · simp [chk, failed] at step
  · have moved := tracks.write prepends failed
    simp only [chk, failed, ↓reduceIte, Except.ok.injEq, Prod.mk.injEq] at step
    obtain ⟨rfl, rfl⟩ := step
    exact moved

theorem chk_fits (prepends : writer.Prepends der) (full : writer.FailsOnlyFull der)
    (tracks : Tracks size base c len bytes) (fits : der.length + (bytes.length + base.length) ≤ size) :
    ∃ total after, chk len (writer c) = .ok (total, after) ∧
      Tracks size base after total (der ++ bytes) := by
  have succeeded : ¬ (writer c).1 < 0 := by
    rw [tracks.write_fails_iff full]; omega
  exact ⟨_, _, by simp [chk, succeeded], tracks.write prepends succeeded⟩

end Steps

section Documented

variable {mbedtls : Mbedtls} {nameDer : mbedtls.Names → Bytes}

/-- A header put in front of everything written so far makes it one element. -/
theorem header_tracks (documented : mbedtls.Documented nameDer) {size : Nat} {c c₁ c₂ : Buffer}
    {len len₁ len₂ : Int} {base bytes : Bytes} {tag : UInt8} (small : size < 2 ^ 32)
    (tracks : Tracks size base c len bytes)
    (lengthStep : chk len (mbedtls.asn1WriteLen len.toNat c) = .ok (len₁, c₁))
    (tagStep : chk len₁ (mbedtls.asn1WriteTag tag c₁) = .ok (len₂, c₂)) :
    Tracks size base c₂ len₂ (element tag bytes) := by
  have bound := tracks.length_le
  rw [tracks.toNat_length] at lengthStep
  have afterLength := chk_tracks (documented _ _ (.len (by omega))) tracks lengthStep
  have afterTag := chk_tracks (documented _ _ (.tag tag)) afterLength tagStep
  exact afterTag

theorem header_fits (documented : mbedtls.Documented nameDer)
    (full : mbedtls.FailsOnlyFull nameDer) {size : Nat} {c : Buffer} {len : Int} {base bytes : Bytes}
    (tag : UInt8) (small : size < 2 ^ 32) (tracks : Tracks size base c len bytes)
    (fits : (element tag bytes).length + base.length ≤ size) :
    ∃ len₁ c₁ len₂ c₂, chk len (mbedtls.asn1WriteLen len.toNat c) = .ok (len₁, c₁) ∧
      chk len₁ (mbedtls.asn1WriteTag tag c₁) = .ok (len₂, c₂) ∧
      Tracks size base c₂ len₂ (element tag bytes) := by
  have bound := tracks.length_le
  simp only [element, List.length_cons, List.length_append] at fits
  rw [tracks.toNat_length]
  have length : mbedtls.Encodes nameDer (mbedtls.asn1WriteLen bytes.length)
      (lengthOctets bytes.length) := .len (by omega)
  obtain ⟨len₁, c₁, lengthStep, afterLength⟩ :=
    chk_fits (documented _ _ length) (full _ _ length) tracks (by omega)
  have tagWriter : mbedtls.Encodes nameDer (mbedtls.asn1WriteTag tag) [tag] := .tag tag
  obtain ⟨len₂, c₂, tagStep, afterTag⟩ :=
    chk_fits (documented _ _ tagWriter) (full _ _ tagWriter) afterLength
      (by simp only [List.length_append, List.length_singleton]; omega)
  exact ⟨len₁, c₁, len₂, c₂, lengthStep, tagStep, afterTag⟩

theorem attributes_tag : asn1ContextSpecific ||| asn1Constructed ||| 0 = attributesTag := rfl

theorem sequence_tag : asn1Constructed ||| asn1Sequence = sequenceTag := rfl

theorem versionDer : element integerTag (naturalContent 0) = element integerTag [0] := by
  simp [naturalContent, bigEndian]

/-- What `buildCri` returns is the encoding of the request information. -/
theorem buildCri_encoding (documented : mbedtls.Documented nameDer) {subjectDn : String}
    {spki cri : Bytes} {names : mbedtls.Names}
    (parsed : mbedtls.x509StringToNames (cStr subjectDn) = some names)
    (built : buildCri mbedtls subjectDn spki = .ok cri) :
    cri = infoEncoding (nameDer names) spki ∧ cri.length ≤ 4096 := by
  simp only [buildCri, parsed] at built
  obtain ⟨_, same, built⟩ := except_bind_ok built
  cases same
  obtain ⟨⟨len₁, c₁⟩, step₁, built⟩ := except_bind_ok built
  obtain ⟨⟨len₂, c₂⟩, step₂, built⟩ := except_bind_ok built
  have afterLength := chk_tracks (documented _ _ (.len (by decide))) (Tracks.zeroed 4096) step₁
  have afterAttributes := chk_tracks (documented _ _ (.tag _)) afterLength step₂
  dsimp only at built
  split at built
  · cases built
  · rename_i room
    have afterKey := afterAttributes.copy room
    split at built
    · cases built
    · rename_i named
      have afterName := afterKey.write (documented _ _ (.names names)) named
      obtain ⟨⟨len₃, c₃⟩, step₃, built⟩ := except_bind_ok built
      obtain ⟨⟨len₄, c₄⟩, step₄, built⟩ := except_bind_ok built
      obtain ⟨⟨len₅, c₅⟩, step₅, built⟩ := except_bind_ok built
      have afterVersion := chk_tracks (documented _ _ (.int (by decide))) afterName step₃
      have whole := header_tracks documented (by decide) afterVersion step₄ step₅
      cases built
      have shape := whole.slice
      have bound := whole.length_le
      rw [versionDer] at shape bound
      rw [shape]
      exact ⟨rfl, bound⟩

/-- `buildCri` succeeds whenever the finished encoding fits its buffer. -/
theorem buildCri_fits (documented : mbedtls.Documented nameDer)
    (full : mbedtls.FailsOnlyFull nameDer) {subjectDn : String} {spki : Bytes}
    {names : mbedtls.Names} (parsed : mbedtls.x509StringToNames (cStr subjectDn) = some names)
    (fits : (infoEncoding (nameDer names) spki).length ≤ 4096) :
    buildCri mbedtls subjectDn spki = .ok (infoEncoding (nameDer names) spki) := by
  have parts := fits
  simp only [infoEncoding, element, List.length_cons, List.length_append, List.length_nil] at parts
  have attributesLength : mbedtls.Encodes nameDer (mbedtls.asn1WriteLen 0) (lengthOctets 0) :=
    .len (by decide)
  have attributesHeader : mbedtls.Encodes nameDer (mbedtls.asn1WriteTag attributesTag)
      [attributesTag] := .tag attributesTag
  have version : mbedtls.Encodes nameDer (mbedtls.asn1WriteInt 0)
      (element integerTag (naturalContent 0)) := .int (by decide)
  have subject : mbedtls.Encodes nameDer (mbedtls.x509WriteNames names) (nameDer names) :=
    .names names
  obtain ⟨len₁, c₁, step₁, afterLength⟩ :=
    chk_fits (documented _ _ attributesLength) (full _ _ attributesLength) (Tracks.zeroed 4096)
      (by decide)
  obtain ⟨len₂, c₂, step₂, afterAttributes⟩ :=
    chk_fits (documented _ _ attributesHeader) (full _ _ attributesHeader) afterLength (by decide)
  change Tracks 4096 [] c₂ len₂ (element attributesTag []) at afterAttributes
  have room : ¬ c₂.cursor < spki.length := by
    have position := afterAttributes.cursor
    simp only [element, List.length_cons, List.length_append, List.length_nil] at position
    omega
  have afterKey := afterAttributes.copy room
  have named : ¬ (mbedtls.x509WriteNames names (c₂.copyBefore spki)).1 < 0 := by
    rw [afterKey.write_fails_iff (full _ _ subject)]
    simp only [element, List.length_cons, List.length_append, List.length_nil]
    omega
  have afterName := afterKey.write (documented _ _ subject) named
  obtain ⟨len₃, c₃, step₃, afterVersion⟩ :=
    chk_fits (documented _ _ version) (full _ _ version) afterName (by
      rw [versionDer]
      simp only [element, List.length_cons, List.length_append, List.length_nil]
      omega)
  rw [versionDer] at afterVersion
  obtain ⟨len₄, c₄, len₅, c₅, step₄, step₅, whole⟩ :=
    header_fits documented full sequenceTag (by decide) afterVersion fits
  simp only [buildCri, attributes_tag, sequence_tag, parsed, step₁, step₂, room, named, step₃,
    step₄, step₅, bind, Except.bind, pure, Except.pure, ↓reduceIte, whole.slice]
  rfl

/-- Either branch of `writeSigAlgId` leaves one AlgorithmIdentifier and its length. -/
theorem writeSigAlgId_tracks (documented : mbedtls.Documented nameDer) {size : Nat}
    {c after : Buffer} {len written : Int} {base bytes : Bytes} {isEc : Bool}
    (small : size < 2 ^ 32) (tracks : Tracks size base c len bytes)
    (wrote : writeSigAlgId mbedtls c isEc = .ok (written, after)) :
    Tracks size base after (len + written)
      (element sequenceTag (signatureAlgorithm isEc).content ++ bytes) := by
  apply tracks.join
  have start := tracks.restart
  cases isEc with
  | false =>
      simp only [writeSigAlgId, Bool.false_eq_true, ↓reduceIte] at wrote
      have identifier := documented _ _ (.algorithmIdentifier sha256WithRsaEncryption)
      have whole := chk_tracks identifier start wrote
      rwa [List.append_nil] at whole
  | true =>
      simp only [writeSigAlgId, ↓reduceIte] at wrote
      obtain ⟨⟨len₁, c₁⟩, step₁, wrote⟩ := except_bind_ok wrote
      obtain ⟨⟨len₂, c₂⟩, step₂, step₃⟩ := except_bind_ok wrote
      have afterOid := chk_tracks (documented _ _ (.oid ecdsaWithSha256)) start step₁
      exact header_tracks documented small afterOid step₂ step₃

theorem writeSigAlgId_fits (documented : mbedtls.Documented nameDer)
    (full : mbedtls.FailsOnlyFull nameDer) {size : Nat} {c : Buffer} {len : Int}
    {base bytes : Bytes} (isEc : Bool) (small : size < 2 ^ 32)
    (tracks : Tracks size base c len bytes)
    (fits : (element sequenceTag (signatureAlgorithm isEc).content).length +
      (bytes.length + base.length) ≤ size) :
    ∃ written after, writeSigAlgId mbedtls c isEc = .ok (written, after) := by
  have start := tracks.restart
  rw [← List.length_append] at fits
  cases isEc with
  | false =>
      have identifier : mbedtls.Encodes nameDer
          (mbedtls.asn1WriteAlgorithmIdentifier sha256WithRsaEncryption 0)
          (element sequenceTag (signatureAlgorithm false).content) :=
        .algorithmIdentifier sha256WithRsaEncryption
      obtain ⟨written, after, step, _⟩ :=
        chk_fits (documented _ _ identifier) (full _ _ identifier) start (by simpa using fits)
      exact ⟨written, after, by simpa [writeSigAlgId] using step⟩
  | true =>
      have content : (signatureAlgorithm true).content = element oidTag ecdsaWithSha256 ++ [] := rfl
      rw [content] at fits
      have inside := content_length_lt sequenceTag (element oidTag ecdsaWithSha256 ++ [])
      rw [List.append_nil] at fits inside
      have oid : mbedtls.Encodes nameDer (mbedtls.asn1WriteOid ecdsaWithSha256)
          (element oidTag ecdsaWithSha256) := .oid ecdsaWithSha256
      obtain ⟨len₁, c₁, step₁, afterOid⟩ :=
        chk_fits (documented _ _ oid) (full _ _ oid) start (by rw [List.length_nil]; omega)
      rw [List.append_nil] at afterOid
      obtain ⟨len₂, c₂, len₃, c₃, step₂, step₃, _⟩ :=
        header_fits documented full sequenceTag small afterOid fits
      exact ⟨len₃, c₃, by
        simp only [writeSigAlgId, sequence_tag, ↓reduceIte, step₁, step₂, step₃, bind, Except.bind]⟩

/-- The bytes of a signature that reach the BIT STRING: its bit count is a `size_t`. -/
def encodedSignature (target : Target) (signature : Bytes) : Bytes :=
  signature.take (signature.length % 2 ^ (target.wordBits - 3))

/-- A signature survives exactly when its bit count fits a `size_t`. -/
theorem encodedSignature_eq_iff {target : Target} {signature : Bytes} :
    encodedSignature target signature = signature ↔
      signature.length < 2 ^ (target.wordBits - 3) := by
  have wrapped : signature.length % 2 ^ (target.wordBits - 3) < 2 ^ (target.wordBits - 3) :=
    Nat.mod_lt _ (Nat.two_pow_pos _)
  constructor
  · intro same
    have length := congrArg List.length same
    rw [encodedSignature, List.length_take] at length
    omega
  · intro bound
    rw [encodedSignature, Nat.mod_eq_of_lt bound, List.take_length]

theorem encodedSignature_length_le (target : Target) (signature : Bytes) :
    (encodedSignature target signature).length ≤ signature.length := by
  rw [encodedSignature, List.length_take]
  exact Nat.min_le_right _ _

theorem bitstring_encodes (target : Target) (signature : Bytes) :
    mbedtls.Encodes nameDer
      (mbedtls.asn1WriteBitstring signature (target.wrap (signature.length * 8)))
      (element bitStringTag (0 :: encodedSignature target signature)) := by
  rw [target.wrap_bits]
  exact .bitstring (Nat.mod_le _ _)

/-- What `assembleCsr` hands to `toPem` is the encoding of the whole request. -/
theorem assembleDer_encoding (documented : mbedtls.Documented nameDer) {target : Target}
    {cri signature der : Bytes} {isEc : Bool}
    (built : assembleDer mbedtls target cri signature isEc = .ok der) :
    der = requestEncoding cri (signatureAlgorithm isEc) (encodedSignature target signature) ∧
      der.length ≤ 8192 := by
  simp only [assembleDer] at built
  obtain ⟨⟨len₁, c₁⟩, step₁, built⟩ := except_bind_ok built
  obtain ⟨⟨written, c₂⟩, step₂, built⟩ := except_bind_ok built
  have afterSignature :=
    chk_tracks (documented _ _ (bitstring_encodes target signature)) (Tracks.zeroed 8192) step₁
  have afterAlgorithm := writeSigAlgId_tracks documented (by decide) afterSignature step₂
  rw [List.append_nil] at afterAlgorithm
  dsimp only at built
  split at built
  · cases built
  · rename_i room
    have afterInfo := afterAlgorithm.copy room
    obtain ⟨⟨len₃, c₃⟩, step₃, built⟩ := except_bind_ok built
    obtain ⟨⟨len₄, c₄⟩, step₄, built⟩ := except_bind_ok built
    have whole := header_tracks documented (by decide) afterInfo step₃ step₄
    cases built
    have bound := whole.length_le
    rw [whole.slice]
    exact ⟨rfl, bound⟩

theorem assembleDer_fits (documented : mbedtls.Documented nameDer)
    (full : mbedtls.FailsOnlyFull nameDer) {target : Target} {cri signature : Bytes} {isEc : Bool}
    (fits : (requestEncoding cri (signatureAlgorithm isEc)
      (encodedSignature target signature)).length ≤ 8192) :
    assembleDer mbedtls target cri signature isEc =
      .ok (requestEncoding cri (signatureAlgorithm isEc) (encodedSignature target signature)) := by
  have inside := (content_length_lt sequenceTag _).trans_le fits
  simp only [List.length_append] at inside
  have bits : mbedtls.Encodes nameDer _ _ := bitstring_encodes target signature
  obtain ⟨len₁, c₁, step₁, afterSignature⟩ :=
    chk_fits (documented _ _ bits) (full _ _ bits) (Tracks.zeroed 8192)
      (by simp only [List.length_nil]; omega)
  rw [List.append_nil] at afterSignature
  obtain ⟨written, c₂, step₂⟩ :=
    writeSigAlgId_fits documented full isEc (by decide) afterSignature
      (by simp only [List.length_nil]; omega)
  have afterAlgorithm := writeSigAlgId_tracks documented (by decide) afterSignature step₂
  have room : ¬ c₂.cursor < cri.length := by
    have position := afterAlgorithm.cursor
    simp only [List.length_append, List.length_nil] at position
    omega
  have afterInfo := afterAlgorithm.copy room
  obtain ⟨len₃, c₃, len₄, c₄, step₃, step₄, whole⟩ :=
    header_fits documented full sequenceTag (by decide) afterInfo fits
  simp only [assembleDer, sequence_tag, step₁, step₂, room, step₃, step₄, bind, Except.bind,
    pure, Except.pure, ↓reduceIte, whole.slice]
  rfl

theorem signatureAlgorithm_read (isEc : Bool) :
    readAlgorithmIdentifier (signatureAlgorithm isEc).content = some (signatureAlgorithm isEc) := by
  apply readAlgorithmIdentifier_content
  · cases isEc <;> decide
  · intro parameters present
    cases isEc with
    | false =>
        cases present
        decide
    | true => cases present

theorem assembleDer_read (documented : mbedtls.Documented nameDer) {target : Target}
    {cri signature der : Bytes} {isEc : Bool} (info : IsElement sequenceTag cri)
    (built : assembleDer mbedtls target cri signature isEc = .ok der) :
    readCertificationRequest der =
      some ⟨cri, signatureAlgorithm isEc, 0, encodedSignature target signature⟩ := by
  obtain ⟨rfl, bound⟩ := assembleDer_encoding documented built
  exact readCertificationRequest_encoding info (signatureAlgorithm_read isEc)
    (bound.trans_lt (by decide))

theorem buildCri_parsed {subjectDn : String} {spki cri : Bytes}
    (built : buildCri mbedtls subjectDn spki = .ok cri) :
    ∃ names, mbedtls.x509StringToNames (cStr subjectDn) = some names := by
  cases parsed : mbedtls.x509StringToNames (cStr subjectDn) with
  | some names => exact ⟨names, rfl⟩
  | none =>
      simp only [buildCri, parsed] at built
      cases built

theorem infoEncoding_isElement {subject spki : Bytes}
    (bound : (infoEncoding subject spki).length ≤ 4096) :
    IsElement sequenceTag (infoEncoding subject spki) := by
  have inside := (content_length_lt sequenceTag _).trans_le bound
  exact ⟨_, inside.trans (by decide), rfl⟩

/-- The PEM buffer, twice the DER and 256 bytes, always suffices. -/
theorem toPem_text (pem : mbedtls.PemDocumented) (der : Bytes) :
    toPem mbedtls der = .ok (pemText pemHeader pemFooter der ++ [0]) := by
  have header : (asciiBytes pemHeader).length = 36 := by decide
  have footer : (asciiBytes pemFooter).length = 34 := by decide
  have room : pemRoom pemHeader pemFooter der ≤ der.length * 2 + 256 := by
    simp only [pemRoom, header, footer]
    split <;> omega
  obtain ⟨rest, written⟩ := pem pemHeader pemFooter der _ room
  have cut : (pemText pemHeader pemFooter der ++ 0 :: rest).take
      ((pemText pemHeader pemFooter der).length + 1) = pemText pemHeader pemFooter der ++ [0] := by
    rw [List.take_append]
    simp
  simp only [toPem, written, cut]

end Documented

theorem signatureAlgorithm_length (isEc : Bool) :
    (signatureAlgorithm isEc).content.length ≤ 13 := by
  cases isEc <;> decide

theorem csrEncoding_length_le {cri signature : Bytes} {isEc : Bool} (info : cri.length ≤ 4096)
    (short : signature.length ≤ 512) :
    (requestEncoding cri (signatureAlgorithm isEc) signature).length ≤
      cri.length + signature.length + 26 := by
  have algorithm := signatureAlgorithm_length isEc
  have whole := @requestEncoding_length_le cri signature (signatureAlgorithm isEc) (by omega)
  omega

section Composed

variable {I : Interface} {mbedtls : Mbedtls} {target : Target} {subjectDn : String} {spki : Bytes}
  {sign : Bytes → ExceptT CppException (Program I) Bytes} {isEc : Bool} {trace : List (Event I)}
  {pem : Bytes}

/-- A request that was returned came through every step, and only the signing function
called the environment. -/
theorem makeCsrImpl_steps
    (run : (makeCsrImpl mbedtls target subjectDn spki sign isEc).run.Runs trace (.ok pem)) :
    ∃ cri digest signature der, buildCri mbedtls subjectDn spki = .ok cri ∧
      mbedtls.sha256Ret cri = some digest ∧
      (sign digest.toList).run.Runs trace (.ok signature) ∧
      assembleDer mbedtls target cri signature isEc = .ok der ∧ toPem mbedtls der = .ok pem := by
  obtain ⟨first, second, cri, rfl, built, rest⟩ := Program.runs_throwing_bind_ok run
  obtain ⟨rfl, info⟩ := Program.runs_liftExcept_iff.mp built
  split at rest
  · simp at rest
  · rename_i digest hashed
    obtain ⟨signing, assembling, signature, rfl, signed, last⟩ := Program.runs_throwing_bind_ok rest
    obtain ⟨rfl, assembled⟩ := Program.runs_liftExcept_iff.mp last
    obtain ⟨der, built, encoded⟩ := except_bind_ok assembled.symm
    exact ⟨cri, digest, signature, der, info.symm, hashed, by simpa using signed, built, encoded⟩

/-- Once the information is built and hashed, the request is the signature's to make. -/
theorem makeCsrImpl_signs {cri : Bytes} {digest : Vector UInt8 32}
    (built : buildCri mbedtls subjectDn spki = .ok cri)
    (hashed : mbedtls.sha256Ret cri = some digest) :
    makeCsrImpl mbedtls target subjectDn spki sign isEc =
      (do liftExcept (assembleCsr mbedtls target cri (← sign digest.toList) isEc)) := by
  have info : (liftExcept (buildCri mbedtls subjectDn spki) : ExceptT CppException (Program I) Bytes) =
      pure cri := by
    rw [built]
    rfl
  rw [makeCsrImpl, info, pure_bind, hashed]

theorem assembleCsr_fits {nameDer : mbedtls.Names → Bytes} {cri signature : Bytes}
    (documented : mbedtls.Documented nameDer) (full : mbedtls.FailsOnlyFull nameDer)
    (pemDocumented : mbedtls.PemDocumented) (info : cri.length ≤ 4096)
    (short : (encodedSignature target signature).length ≤ 512) :
    assembleCsr mbedtls target cri signature isEc =
      .ok (pemText pemHeader pemFooter (requestEncoding cri (signatureAlgorithm isEc)
        (encodedSignature target signature)) ++ [0]) := by
  have assembled : assembleDer mbedtls target cri signature isEc =
      .ok (requestEncoding cri (signatureAlgorithm isEc) (encodedSignature target signature)) :=
    assembleDer_fits documented full ((csrEncoding_length_le info short).trans (by omega))
  have encoded := toPem_text pemDocumented
    (requestEncoding cri (signatureAlgorithm isEc) (encodedSignature target signature))
  simp only [assembleCsr, assembled, bind, Except.bind, encoded]

/-- A request whose information fits and whose signature is short is returned. -/
theorem makeCsrImpl_returns {nameDer : mbedtls.Names → Bytes} {names : mbedtls.Names}
    {digest : Vector UInt8 32} {signature : Bytes} (documented : mbedtls.Documented nameDer)
    (full : mbedtls.FailsOnlyFull nameDer) (pemDocumented : mbedtls.PemDocumented)
    (parsed : mbedtls.x509StringToNames (cStr subjectDn) = some names)
    (fits : (infoEncoding (nameDer names) spki).length ≤ 4096)
    (hashed : mbedtls.sha256Ret (infoEncoding (nameDer names) spki) = some digest)
    (signed : (sign digest.toList).run.Runs trace (.ok signature))
    (short : (encodedSignature target signature).length ≤ 512) :
    (makeCsrImpl mbedtls target subjectDn spki sign isEc).run.Runs trace
      (.ok (pemText pemHeader pemFooter (requestEncoding (infoEncoding (nameDer names) spki)
        (signatureAlgorithm isEc) (encodedSignature target signature)) ++ [0])) := by
  rw [makeCsrImpl_signs (buildCri_fits documented full parsed fits) hashed,
    Program.runs_throwing_bind_iff]
  refine .inl ⟨trace, [], signature, by simp, signed, Program.runs_liftExcept_iff.mpr ⟨rfl, ?_⟩⟩
  rw [assembleCsr_fits documented full pemDocumented fits short]

end Composed

end Se05x.CppApp
