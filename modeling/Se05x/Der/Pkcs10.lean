import Se05x.Der.Element

/-!
# Certification requests

The structure of a PKCS#10 request, read strictly: every element in its place with its
tag, and no byte after the last one.
-/

set_option autoImplicit false

namespace Der

def integerTag : UInt8 := 0x02
def bitStringTag : UInt8 := 0x03
def nullTag : UInt8 := 0x05
def oidTag : UInt8 := 0x06
def sequenceTag : UInt8 := 0x30
def attributesTag : UInt8 := 0xA0

/-- The value part of an object identifier or of a whole algorithm identifier. -/
structure AlgorithmIdentifier where
  oid : Bytes
  parameters : Option Element
deriving DecidableEq, Repr

structure CertificationRequestInfo where
  version : Bytes
  subject : Bytes
  subjectPKInfo : Bytes
  attributes : Bytes
deriving DecidableEq, Repr

structure CertificationRequest where
  info : Bytes
  signatureAlgorithm : AlgorithmIdentifier
  unusedBits : UInt8
  signature : Bytes
deriving DecidableEq, Repr

/-- 1.2.840.10045.4.3.2 -/
def ecdsaWithSha256 : Bytes := [0x2A, 0x86, 0x48, 0xCE, 0x3D, 0x04, 0x03, 0x02]

/-- 1.2.840.113549.1.1.11 -/
def sha256WithRsaEncryption : Bytes := [0x2A, 0x86, 0x48, 0x86, 0xF7, 0x0D, 0x01, 0x01, 0x0B]

def AlgorithmIdentifier.content (algorithm : AlgorithmIdentifier) : Bytes :=
  element oidTag algorithm.oid ++
    match algorithm.parameters with
    | none => []
    | some parameters => parameters.encoding

def readAlgorithmIdentifier (content : Bytes) : Option AlgorithmIdentifier :=
  match readElements 2 content with
  | some [oid] => if oid.tag = oidTag then some ⟨oid.content, none⟩ else none
  | some [oid, parameters] =>
    if oid.tag = oidTag then some ⟨oid.content, some parameters⟩ else none
  | _ => none

def readCertificationRequestInfo (bytes : Bytes) : Option CertificationRequestInfo :=
  match readWhole bytes with
  | none => none
  | some outer =>
    match readElements 4 outer.content with
    | some [version, subject, subjectPKInfo, attributes] =>
      if outer.tag = sequenceTag ∧ version.tag = integerTag ∧ subject.tag = sequenceTag ∧
          subjectPKInfo.tag = sequenceTag ∧ attributes.tag = attributesTag then
        some ⟨version.content, subject.encoding, subjectPKInfo.encoding, attributes.content⟩
      else none
    | _ => none

def readCertificationRequest (bytes : Bytes) : Option CertificationRequest :=
  match readWhole bytes with
  | none => none
  | some outer =>
    match readElements 3 outer.content with
    | some [info, algorithm, ⟨bitString, unusedBits :: signature⟩] =>
      if outer.tag = sequenceTag ∧ info.tag = sequenceTag ∧ algorithm.tag = sequenceTag ∧
          bitString = bitStringTag then
        (readAlgorithmIdentifier algorithm.content).map
          (⟨info.encoding, ·, unusedBits, signature⟩)
      else none
    | _ => none

/-- The encoding a request with these parts has. -/
def infoEncoding (subject subjectPKInfo : Bytes) : Bytes :=
  element sequenceTag
    (element integerTag [0] ++ (subject ++ (subjectPKInfo ++ element attributesTag [])))

def requestEncoding (info : Bytes) (algorithm : AlgorithmIdentifier) (signature : Bytes) : Bytes :=
  element sequenceTag
    (info ++ (element sequenceTag algorithm.content ++ element bitStringTag (0 :: signature)))

theorem content_length_lt (tag : UInt8) (content : Bytes) :
    content.length < (element tag content).length := by
  simp only [element, List.length_cons, List.length_append]
  omega

/-- The version, the attributes and the header take nine bytes. -/
theorem infoEncoding_length_le {subject subjectPKInfo : Bytes}
    (small : subject.length + subjectPKInfo.length + 5 < 65536) :
    (infoEncoding subject subjectPKInfo).length ≤ subject.length + subjectPKInfo.length + 9 := by
  have version : (element integerTag [0]).length = 3 := by decide
  have attributes : (element attributesTag []).length = 2 := by decide
  have content : (element integerTag [0] ++
      (subject ++ (subjectPKInfo ++ element attributesTag []))).length =
        subject.length + subjectPKInfo.length + 5 := by
    simp only [List.length_append, version, attributes]
    omega
  have whole := element_length_le sequenceTag _ (content.trans_lt small)
  rwa [content] at whole

/-- The headers of the request, its algorithm and its signature take thirteen bytes. -/
theorem requestEncoding_length_le {info signature : Bytes} {algorithm : AlgorithmIdentifier}
    (small : info.length + algorithm.content.length + signature.length + 9 < 65536) :
    (requestEncoding info algorithm signature).length ≤
      info.length + algorithm.content.length + signature.length + 13 := by
  have identifier := element_length_le sequenceTag algorithm.content (by omega)
  have bits := element_length_le bitStringTag (0 :: signature)
    (by rw [List.length_cons]; omega)
  rw [List.length_cons] at bits
  have content : (info ++ (element sequenceTag algorithm.content ++
      element bitStringTag (0 :: signature))).length ≤
        info.length + algorithm.content.length + signature.length + 9 := by
    simp only [List.length_append]
    omega
  have whole := element_length_le sequenceTag _ (content.trans_lt small)
  rw [requestEncoding]
  omega

/-- Reading the algorithm identifier whose parameters are absent or one element. -/
theorem readAlgorithmIdentifier_content {algorithm : AlgorithmIdentifier}
    (oidBound : algorithm.oid.length < 256 ^ 126)
    (parameters : ∀ value, algorithm.parameters = some value →
      LowTag value.tag ∧ value.content.length < 256 ^ 126) :
    readAlgorithmIdentifier algorithm.content = some algorithm := by
  obtain ⟨oid, parameter⟩ := algorithm
  have low : LowTag oidTag := by decide
  cases parameter with
  | none =>
      have only := readElements_element low oidBound 1 []
      simp only [List.append_nil] at only
      simp [readAlgorithmIdentifier, AlgorithmIdentifier.content, only, readElements]
  | some value =>
      obtain ⟨lowValue, bound⟩ := parameters value rfl
      have last := readElements_element lowValue bound 0 []
      simp only [List.append_nil] at last
      simp [readAlgorithmIdentifier, AlgorithmIdentifier.content, Element.encoding,
        readElements_element low oidBound, last, readElements]

/-- A subject and a key that are one SEQUENCE each come back verbatim. -/
theorem readCertificationRequestInfo_encoding {subject subjectPKInfo : Bytes}
    (subjectElement : IsElement sequenceTag subject)
    (keyElement : IsElement sequenceTag subjectPKInfo)
    (bound : (infoEncoding subject subjectPKInfo).length < 256 ^ 126) :
    readCertificationRequestInfo (infoEncoding subject subjectPKInfo) =
      some ⟨[0], subject, subjectPKInfo, []⟩ := by
  obtain ⟨name, nameBound, rfl⟩ := subjectElement
  obtain ⟨key, keyBound, rfl⟩ := keyElement
  have low : LowTag sequenceTag := by decide
  have inner := (content_length_lt sequenceTag _).trans bound
  have last : readElements 1 (element attributesTag [] ++ []) = some [⟨attributesTag, []⟩] := by
    rw [readElements_element (by decide) (by decide)]
    rfl
  rw [List.append_nil] at last
  simp only [readCertificationRequestInfo, infoEncoding, readWhole_element low inner]
  rw [readElements_element (by decide) (by decide), readElements_element low nameBound,
    readElements_element low keyBound, last]
  simp [Element.encoding]

theorem readCertificationRequest_encoding {info signature : Bytes}
    {algorithm : AlgorithmIdentifier} (infoElement : IsElement sequenceTag info)
    (read : readAlgorithmIdentifier algorithm.content = some algorithm)
    (bound : (requestEncoding info algorithm signature).length < 256 ^ 126) :
    readCertificationRequest (requestEncoding info algorithm signature) =
      some ⟨info, algorithm, 0, signature⟩ := by
  obtain ⟨content, infoBound, rfl⟩ := infoElement
  have low : LowTag sequenceTag := by decide
  have inner := (content_length_lt sequenceTag _).trans bound
  have parts : algorithm.content.length < 256 ^ 126 ∧
      ((0 : UInt8) :: signature).length < 256 ^ 126 := by
    have algorithmInside := content_length_lt sequenceTag algorithm.content
    have signatureInside := content_length_lt bitStringTag (0 :: signature)
    simp only [List.length_append] at inner
    omega
  have last : readElements 1 (element bitStringTag (0 :: signature) ++ []) =
      some [⟨bitStringTag, 0 :: signature⟩] := by
    rw [readElements_element (by decide) parts.2]
    rfl
  rw [List.append_nil] at last
  simp only [readCertificationRequest, requestEncoding, readWhole_element low inner]
  rw [readElements_element low infoBound, readElements_element low parts.1, last]
  simp [read, Element.encoding]

end Der
