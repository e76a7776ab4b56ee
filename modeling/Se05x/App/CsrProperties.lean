import Se05x.App.Csr
import Se05x.App.DemoProperties
import Se05x.CppApp.CsrProperties

/-!
# The requests the demos build

The builders of the demos write the same encodings as the C++ program, and they never run
out of room for what the secure element can put into the demos' buffers.
-/

set_option autoImplicit false

namespace Se05x.App

open Der Interaction Procedure
open CppApp (signatureAlgorithm)

section Steps

variable {size : Nat} {p after : Buffer} {len total : Nat} {base bytes der : Bytes}
  {writer : Writer}

theorem write_tracks (prepends : writer.Prepends der) (tracks : Tracks size base p len bytes)
    (succeeded : ¬ (writer p).1 < 0) :
    Tracks size base (writer p).2 ((len + (writer p).1.toNat : Nat)) (der ++ bytes) := by
  rw [Int.natCast_add, Int.toNat_of_nonneg (Int.not_lt.mp succeeded)]
  exact tracks.write prepends succeeded

theorem chkAdd_tracks (prepends : writer.Prepends der) (tracks : Tracks size base p len bytes)
    (step : chkAdd len (writer p) = .ok (total, after)) :
    Tracks size base after total (der ++ bytes) := by
  by_cases failed : (writer p).1 < 0
  · simp [chkAdd, failed] at step
  · have moved := write_tracks prepends tracks failed
    simp only [chkAdd, failed, ↓reduceIte, Except.ok.injEq, Prod.mk.injEq] at step
    obtain ⟨rfl, rfl⟩ := step
    exact moved

theorem chkAdd_fits (prepends : writer.Prepends der) (full : writer.FailsOnlyFull der)
    (tracks : Tracks size base p len bytes)
    (fits : der.length + (bytes.length + base.length) ≤ size) :
    ∃ total after, chkAdd len (writer p) = .ok (total, after) ∧
      Tracks size base after total (der ++ bytes) := by
  have succeeded : ¬ (writer p).1 < 0 := by
    rw [tracks.write_fails_iff full]; omega
  have step : chkAdd len (writer p) = .ok (len + (writer p).1.toNat, (writer p).2) := by
    simp [chkAdd, succeeded]
  exact ⟨_, _, step, chkAdd_tracks prepends tracks step⟩

end Steps

section Documented

variable {mbedtls : Mbedtls} {nameDer : mbedtls.Names → Bytes} {size : Nat} {spki cri sig der : Bytes}
  {names : mbedtls.Names}

theorem header_tracks (documented : mbedtls.Documented nameDer) {p p₁ p₂ : Buffer}
    {len len₁ len₂ : Nat} {base bytes : Bytes} {tag : UInt8} (small : size < 2 ^ 32)
    (tracks : Tracks size base p len bytes)
    (lengthStep : chkAdd len (mbedtls.asn1WriteLen len p) = .ok (len₁, p₁))
    (tagStep : chkAdd len₁ (mbedtls.asn1WriteTag tag p₁) = .ok (len₂, p₂)) :
    Tracks size base p₂ len₂ (element tag bytes) := by
  have bound := tracks.length_le
  obtain rfl : len = bytes.length := by simpa using tracks.length
  have afterLength := chkAdd_tracks (documented _ _ (.len (by omega))) tracks lengthStep
  exact chkAdd_tracks (documented _ _ (.tag tag)) afterLength tagStep

theorem header_fits (documented : mbedtls.Documented nameDer)
    (full : mbedtls.FailsOnlyFull nameDer) {p : Buffer} {len : Nat} {base bytes : Bytes}
    (tag : UInt8) (small : size < 2 ^ 32) (tracks : Tracks size base p len bytes)
    (fits : (element tag bytes).length + base.length ≤ size) :
    ∃ len₁ p₁ len₂ p₂, chkAdd len (mbedtls.asn1WriteLen len p) = .ok (len₁, p₁) ∧
      chkAdd len₁ (mbedtls.asn1WriteTag tag p₁) = .ok (len₂, p₂) ∧
      Tracks size base p₂ len₂ (element tag bytes) := by
  have bound := tracks.length_le
  simp only [element, List.length_cons, List.length_append] at fits
  obtain rfl : len = bytes.length := by simpa using tracks.length
  have length : mbedtls.Encodes nameDer (mbedtls.asn1WriteLen bytes.length)
      (lengthOctets bytes.length) := .len (by omega)
  obtain ⟨len₁, p₁, lengthStep, afterLength⟩ :=
    chkAdd_fits (documented _ _ length) (full _ _ length) tracks (by omega)
  have tagWriter : mbedtls.Encodes nameDer (mbedtls.asn1WriteTag tag) [tag] := .tag tag
  obtain ⟨len₂, p₂, tagStep, afterTag⟩ :=
    chkAdd_fits (documented _ _ tagWriter) (full _ _ tagWriter) afterLength
      (by simp only [List.length_append, List.length_singleton]; omega)
  exact ⟨len₁, p₁, len₂, p₂, lengthStep, tagStep, afterTag⟩

theorem buildCri_encoding (documented : mbedtls.Documented nameDer) (small : size < 2 ^ 32)
    (parsed : mbedtls.x509StringToNames subject = some names)
    (built : buildCri mbedtls size spki = .ok cri) :
    cri = infoEncoding (nameDer names) spki ∧ cri.length ≤ size := by
  simp only [buildCri, parsed] at built
  obtain ⟨⟨len₁, p₁⟩, step₁, built⟩ := except_bind_ok built
  obtain ⟨⟨len₂, p₂⟩, step₂, built⟩ := except_bind_ok built
  obtain ⟨⟨len₃, p₃⟩, step₃, built⟩ := except_bind_ok built
  have afterLength := chkAdd_tracks (documented _ _ (.len (by decide))) (Tracks.zeroed size) step₁
  have afterAttributes := chkAdd_tracks (documented _ _ (.tag _)) afterLength step₂
  have afterKey := chkAdd_tracks (documented _ _ (.rawBuffer spki)) afterAttributes step₃
  dsimp only at built
  split at built
  · cases built
  · rename_i named
    have afterName := write_tracks (documented _ _ (.names names)) afterKey named
    obtain ⟨⟨len₄, p₄⟩, step₄, built⟩ := except_bind_ok built
    obtain ⟨⟨len₅, p₅⟩, step₅, built⟩ := except_bind_ok built
    obtain ⟨⟨len₆, p₆⟩, step₆, built⟩ := except_bind_ok built
    have afterVersion := chkAdd_tracks (documented _ _ (.int (by decide))) afterName step₄
    have whole := header_tracks documented small afterVersion step₅ step₆
    cases built
    have shape := whole.slice
    have bound := whole.length_le
    rw [CppApp.versionDer] at shape bound
    rw [Int.toNat_natCast] at shape
    rw [shape]
    exact ⟨rfl, bound⟩

theorem buildCri_fits (documented : mbedtls.Documented nameDer)
    (full : mbedtls.FailsOnlyFull nameDer) (small : size < 2 ^ 32)
    (parsed : mbedtls.x509StringToNames subject = some names)
    (fits : (infoEncoding (nameDer names) spki).length ≤ size) :
    buildCri mbedtls size spki = .ok (infoEncoding (nameDer names) spki) := by
  have parts := fits
  simp only [infoEncoding, element, List.length_cons, List.length_append, List.length_nil] at parts
  have attributesLength : mbedtls.Encodes nameDer (mbedtls.asn1WriteLen 0) (lengthOctets 0) :=
    .len (by decide)
  have attributesHeader : mbedtls.Encodes nameDer (mbedtls.asn1WriteTag attributesTag)
      [attributesTag] := .tag attributesTag
  have key : mbedtls.Encodes nameDer (mbedtls.asn1WriteRawBuffer spki) spki := .rawBuffer spki
  have version : mbedtls.Encodes nameDer (mbedtls.asn1WriteInt 0)
      (element integerTag (naturalContent 0)) := .int (by decide)
  have name : mbedtls.Encodes nameDer (mbedtls.x509WriteNames names) (nameDer names) :=
    .names names
  obtain ⟨len₁, p₁, step₁, afterLength⟩ :=
    chkAdd_fits (documented _ _ attributesLength) (full _ _ attributesLength) (Tracks.zeroed size)
      (by simp only [List.length_nil]; omega)
  obtain ⟨len₂, p₂, step₂, afterAttributes⟩ :=
    chkAdd_fits (documented _ _ attributesHeader) (full _ _ attributesHeader) afterLength
      (by simp only [List.length_append, List.length_cons, List.length_nil]; omega)
  obtain ⟨len₃, p₃, step₃, afterKey⟩ :=
    chkAdd_fits (documented _ _ key) (full _ _ key) afterAttributes
      (by simp only [List.length_append, List.length_cons, List.length_nil]; omega)
  have named : ¬ (mbedtls.x509WriteNames names p₃).1 < 0 := by
    rw [afterKey.write_fails_iff (full _ _ name)]
    simp only [List.length_append, List.length_cons, List.length_nil]
    omega
  have afterName := write_tracks (documented _ _ name) afterKey named
  obtain ⟨len₄, p₄, step₄, afterVersion⟩ :=
    chkAdd_fits (documented _ _ version) (full _ _ version) afterName (by
      rw [CppApp.versionDer]
      simp only [element, List.length_cons, List.length_append, List.length_nil]
      omega)
  rw [CppApp.versionDer] at afterVersion
  obtain ⟨len₅, p₅, len₆, p₆, step₅, step₆, whole⟩ :=
    header_fits documented full sequenceTag small afterVersion fits
  have shape := whole.slice
  rw [Int.toNat_natCast] at shape
  have attributes : asn1ContextSpecific ||| asn1Constructed ||| 0 = attributesTag := rfl
  have sequence : asn1Constructed ||| asn1Sequence = sequenceTag := rfl
  simp only [buildCri, attributes, sequence, parsed, step₁, step₂, step₃, named, step₄, step₅,
    step₆, bind, Except.bind, pure, Except.pure, ↓reduceIte, shape]
  rfl

theorem assembleCsr_encoding (documented : mbedtls.Documented nameDer) (small : size < 2 ^ 32)
    {algorithmIdentifier : Writer} {algorithm : AlgorithmIdentifier}
    (identifier : mbedtls.Encodes nameDer algorithmIdentifier
      (element sequenceTag algorithm.content))
    (built : assembleCsr mbedtls size algorithmIdentifier cri sig = .ok der) :
    der = requestEncoding cri algorithm sig ∧ der.length ≤ size := by
  simp only [assembleCsr] at built
  obtain ⟨⟨len₁, p₁⟩, step₁, built⟩ := except_bind_ok built
  obtain ⟨⟨len₂, p₂⟩, step₂, built⟩ := except_bind_ok built
  obtain ⟨⟨len₃, p₃⟩, step₃, built⟩ := except_bind_ok built
  obtain ⟨⟨len₄, p₄⟩, step₄, built⟩ := except_bind_ok built
  obtain ⟨⟨len₅, p₅⟩, step₅, built⟩ := except_bind_ok built
  have afterSignature := chkAdd_tracks (documented _ _ (.bitstring (Nat.le_refl _)))
    (Tracks.zeroed size) step₁
  rw [List.take_length, List.append_nil] at afterSignature
  have afterAlgorithm := chkAdd_tracks (documented _ _ identifier) afterSignature step₂
  have afterInfo := chkAdd_tracks (documented _ _ (.rawBuffer cri)) afterAlgorithm step₃
  have whole := header_tracks documented small afterInfo step₄ step₅
  cases built
  have shape := whole.slice
  rw [Int.toNat_natCast] at shape
  have bound := whole.length_le
  rw [shape]
  exact ⟨rfl, bound⟩

theorem assembleCsr_fits (documented : mbedtls.Documented nameDer)
    (full : mbedtls.FailsOnlyFull nameDer) (small : size < 2 ^ 32)
    {algorithmIdentifier : Writer} {algorithm : AlgorithmIdentifier}
    (identifier : mbedtls.Encodes nameDer algorithmIdentifier
      (element sequenceTag algorithm.content))
    (fits : (requestEncoding cri algorithm sig).length ≤ size) :
    assembleCsr mbedtls size algorithmIdentifier cri sig =
      .ok (requestEncoding cri algorithm sig) := by
  have inside := (content_length_lt sequenceTag _).trans_le fits
  simp only [List.length_append] at inside
  have bits : mbedtls.Encodes nameDer (mbedtls.asn1WriteBitstring sig (sig.length * 8))
      (element bitStringTag (0 :: sig.take sig.length)) := .bitstring (Nat.le_refl _)
  rw [List.take_length] at bits
  have info : mbedtls.Encodes nameDer (mbedtls.asn1WriteRawBuffer cri) cri := .rawBuffer cri
  obtain ⟨len₁, p₁, step₁, afterSignature⟩ :=
    chkAdd_fits (documented _ _ bits) (full _ _ bits) (Tracks.zeroed size)
      (by simp only [List.length_nil]; omega)
  rw [List.append_nil] at afterSignature
  obtain ⟨len₂, p₂, step₂, afterAlgorithm⟩ :=
    chkAdd_fits (documented _ _ identifier) (full _ _ identifier) afterSignature
      (by simp only [List.length_nil]; omega)
  obtain ⟨len₃, p₃, step₃, afterInfo⟩ :=
    chkAdd_fits (documented _ _ info) (full _ _ info) afterAlgorithm
      (by simp only [List.length_append, List.length_nil]; omega)
  obtain ⟨len₄, p₄, len₅, p₅, step₄, step₅, whole⟩ :=
    header_fits documented full sequenceTag small afterInfo fits
  have shape := whole.slice
  rw [Int.toNat_natCast] at shape
  have sequence : asn1Constructed ||| asn1Sequence = sequenceTag := rfl
  simp only [assembleCsr, sequence, step₁, step₂, step₃, step₄, step₅, bind, Except.bind, pure,
    Except.pure, shape]
  rfl

end Documented

section Saving

variable {State : Type} {contract : Contract host State} {l : Locals} {state : State}
  {continuation : Unit → Body Unit} {post : Except Exit Unit → Locals → State → Prop}

theorem saveFile_wp (leaves : LeavesPassive contract) {path : String} {bytes : Bytes}
    (next : wp contract (continuation ()) post l state) :
    wp contract (saveFile path bytes >>= continuation) post l state := by
  rw [wp_bind]
  exact passive_wp leaves rfl fun _ => next

theorem savePem_wp (leaves : LeavesPassive contract) {mbedtls : Mbedtls} {csrDemo : CsrDemo}
    {csr : Bytes} (next : wp contract (continuation ()) post l state) :
    wp contract (savePem mbedtls csrDemo csr >>= continuation) post l state := by
  rw [wp_bind, savePem]
  split
  · exact next
  · exact passive_wp leaves rfl fun _ => passive_wp leaves rfl fun _ => next

end Saving

end Se05x.App
