import Se05x.CppApp.CsrStrictProperties

/-!
# When a request fits

The information is written in seven steps. Each keeps the distance from the cursor to the
end of the buffer equal to the running length, so the buffer decides at its last byte.
-/

set_option autoImplicit false

namespace Se05x.CppApp

open Der Interaction

/-- One write of `buildCri`, from the running length and the buffer. -/
abbrev CriStep := Int × Buffer → Except CppException (Int × Buffer)

def runSteps : List CriStep → CriStep
  | [], state => .ok state
  | step :: rest, state => do runSteps rest (← step state)

/-- `CHK` around a writer. -/
def CriStep.checked (writer : Int → Writer) : CriStep := fun state =>
  chk state.1 (writer state.1 state.2)

def CriStep.copying (spki : Bytes) : CriStep := fun state =>
  if state.2.cursor < spki.length then
    .error (cryptoError "CSR buffer too small for public key")
  else .ok (state.1 + spki.length, state.2.copyBefore spki)

def CriStep.naming (writer : Writer) : CriStep := fun state =>
  if (writer state.2).1 < 0 then .error (cryptoError "x509_write_names failed")
  else .ok (state.1 + (writer state.2).1, (writer state.2).2)

section Steps

variable (mbedtls : Mbedtls)

def criSteps (names : mbedtls.Names) (spki : Bytes) : List CriStep :=
  [.checked fun _ => mbedtls.asn1WriteLen 0,
    .checked fun _ => mbedtls.asn1WriteTag (asn1ContextSpecific ||| asn1Constructed ||| 0),
    .copying spki,
    .naming (mbedtls.x509WriteNames names),
    .checked fun _ => mbedtls.asn1WriteInt 0,
    .checked fun len => mbedtls.asn1WriteLen len.toNat,
    .checked fun _ => mbedtls.asn1WriteTag (asn1Constructed ||| asn1Sequence)]

end Steps

variable {mbedtls : Mbedtls} {nameDer : mbedtls.Names → Bytes} {names : mbedtls.Names}
  {subjectDn : String} {spki : Bytes}

theorem buildCri_steps (parsed : mbedtls.x509StringToNames (cStr subjectDn) = some names) :
    buildCri mbedtls subjectDn spki =
      (fun state : Int × Buffer => state.2.slice state.1.toNat) <$>
        runSteps (criSteps mbedtls names spki) (0, Buffer.zeroed 4096) := by
  rw [buildCri, parsed]
  simp only [criSteps, runSteps, map_bind]
  change (chk 0 _ >>= fun first => _) = _
  apply bind_congr
  intro first
  apply bind_congr
  intro second
  by_cases crowded : second.2.cursor < spki.length
  · rw [CriStep.copying, if_pos crowded, if_pos crowded]
    rfl
  rw [CriStep.copying, if_neg crowded, if_neg crowded]
  change _ = (do
    let state ← CriStep.naming (mbedtls.x509WriteNames names)
      (second.1 + spki.length, second.2.copyBefore spki)
    let state ← CriStep.checked (fun _ => mbedtls.asn1WriteInt 0) state
    let state ← CriStep.checked (fun len => mbedtls.asn1WriteLen len.toNat) state
    let state ← CriStep.checked (fun _ => mbedtls.asn1WriteTag (asn1Constructed ||| asn1Sequence))
      state
    return state.2.slice state.1.toNat)
  by_cases failed : (mbedtls.x509WriteNames names (second.2.copyBefore spki)).1 < 0
  · rw [CriStep.naming, if_pos failed, if_pos failed]
    rfl
  · rw [CriStep.naming, if_neg failed, if_neg failed]
    rfl

/-- The bytes written so far are the ones counted, and fill the buffer from the cursor on. -/
def Counted (state : Int × Buffer) : Prop := ∃ bytes, Tracks 4096 [] state.2 state.1 bytes

/-- A step that keeps the count, and throws nothing but a `CryptoError`. -/
structure CriStep.Sound (step : CriStep) : Prop where
  counts : ∀ {state after}, Counted state → step state = .ok after → Counted after
  throws : ∀ {state exception}, step state = .error exception → ∃ what, exception = cryptoError what

theorem chk_throws {len : Int} {result : Int × Buffer} {exception : CppException}
    (thrown : chk len result = .error exception) : ∃ what, exception = cryptoError what := by
  rw [chk] at thrown
  split at thrown
  · cases thrown
    exact ⟨_, rfl⟩
  · cases thrown

theorem CriStep.checked_sound {writer : Int → Writer}
    (prepends : ∀ len : Int, len ≤ 4096 → ∃ der, (writer len).Prepends der) :
    (checked writer).Sound where
  counts := by
    intro state after counted step
    obtain ⟨bytes, tracks⟩ := counted
    have bound : state.1 ≤ 4096 := by
      have within := tracks.length_le
      rw [tracks.length]
      omega
    obtain ⟨der, prepends⟩ := prepends state.1 bound
    exact ⟨der ++ bytes, chk_tracks prepends tracks step⟩
  throws := chk_throws

theorem CriStep.copying_sound : (copying spki).Sound where
  counts := by
    intro state after counted step
    obtain ⟨bytes, tracks⟩ := counted
    rw [copying] at step
    split at step
    · cases step
    · rename_i room
      cases step
      exact ⟨spki ++ bytes, tracks.copy room⟩
  throws := by
    intro state exception step
    rw [copying] at step
    split at step
    · cases step
      exact ⟨_, rfl⟩
    · cases step

theorem CriStep.naming_sound {writer : Writer} {der : Bytes} (prepends : writer.Prepends der) :
    (naming writer).Sound where
  counts := by
    intro state after counted step
    obtain ⟨bytes, tracks⟩ := counted
    rw [naming] at step
    split at step
    · cases step
    · rename_i succeeded
      cases step
      exact ⟨der ++ bytes, tracks.write prepends succeeded⟩
  throws := by
    intro state exception step
    rw [naming] at step
    split at step
    · cases step
      exact ⟨_, rfl⟩
    · cases step

theorem criSteps_sound (documented : mbedtls.Documented nameDer) :
    ∀ step ∈ criSteps mbedtls names spki, step.Sound := by
  have tag : ∀ octet, (CriStep.checked fun _ => mbedtls.asn1WriteTag octet).Sound := fun octet =>
    CriStep.checked_sound fun _ _ => ⟨_, documented _ _ (.tag octet)⟩
  simp only [criSteps, List.forall_mem_cons]
  refine ⟨?_, tag _, CriStep.copying_sound, ?_, ?_, ?_, tag _, nofun⟩
  · exact CriStep.checked_sound fun _ _ => ⟨_, documented _ _ (.len (by decide))⟩
  · exact CriStep.naming_sound (documented _ _ (.names names))
  · exact CriStep.checked_sound fun _ _ => ⟨_, documented _ _ (.int (by decide))⟩
  · exact CriStep.checked_sound fun len bound => ⟨_, documented _ _ (.len (by omega))⟩

theorem runSteps_sound {steps : List CriStep} (sound : ∀ step ∈ steps, step.Sound) :
    CriStep.Sound (runSteps steps) := by
  induction steps with
  | nil =>
      constructor
      · intro state after counted ended
        cases ended
        exact counted
      · intro state exception ended
        cases ended
  | cons step rest ih =>
      obtain ⟨first, others⟩ := List.forall_mem_cons.mp sound
      have later := ih others
      constructor
      · intro state after counted run
        obtain ⟨middle, stepped, run⟩ := except_bind_ok run
        exact later.counts (first.counts counted stepped) run
      · intro state exception run
        rw [runSteps] at run
        cases stepped : step state with
        | error error =>
            rw [stepped] at run
            cases run
            exact first.throws stepped
        | ok middle =>
            rw [stepped] at run
            exact later.throws run

/-- The information is built exactly if its encoding has at most 4096 bytes, with the cursor
and the length in agreement after every step; what follows it then always fits. -/
theorem buildCri_returns_iff (documented : mbedtls.Documented nameDer)
    (full : mbedtls.FailsOnlyFull nameDer) (pemDocumented : mbedtls.PemDocumented)
    (parsed : mbedtls.x509StringToNames (cStr subjectDn) = some names) :
    ((∃ cri, buildCri mbedtls subjectDn spki = .ok cri) ↔
      (infoEncoding (nameDer names) spki).length ≤ 4096) ∧
    (4096 < (infoEncoding (nameDer names) spki).length →
      ∃ what, buildCri mbedtls subjectDn spki = .error (cryptoError what)) ∧
    buildCri mbedtls subjectDn spki =
      (fun state : Int × Buffer => state.2.slice state.1.toNat) <$>
        runSteps (criSteps mbedtls names spki) (0, Buffer.zeroed 4096) ∧
    (∀ count len c,
      runSteps ((criSteps mbedtls names spki).take count) (0, Buffer.zeroed 4096) = .ok (len, c) →
        c.memory.length = 4096 ∧ c.cursor + len = c.memory.length) ∧
    ∀ target cri signature isEc, buildCri mbedtls subjectDn spki = .ok cri →
      signature.length ≤ 512 → ∃ der pem, assembleDer mbedtls target cri signature isEc = .ok der ∧
        toPem mbedtls der = .ok pem ∧ assembleCsr mbedtls target cri signature isEc = .ok pem := by
  have steps := @buildCri_steps mbedtls names subjectDn spki parsed
  have sound : ∀ step ∈ criSteps mbedtls names spki, step.Sound := criSteps_sound documented
  have start : Counted (0, Buffer.zeroed 4096) := ⟨[], Tracks.zeroed 4096⟩
  have returns : (∃ cri, buildCri mbedtls subjectDn spki = .ok cri) ↔
      (infoEncoding (nameDer names) spki).length ≤ 4096 := by
    constructor
    · intro returned
      obtain ⟨cri, built⟩ := returned
      obtain ⟨rfl, bound⟩ := buildCri_encoding documented parsed built
      exact bound
    · intro fits
      exact ⟨_, buildCri_fits documented full parsed fits⟩
  refine ⟨returns, ?_, steps, ?_, ?_⟩
  · intro long
    cases outcome : buildCri mbedtls subjectDn spki with
    | ok cri => exact absurd (returns.mp ⟨cri, outcome⟩) (Nat.not_le.mpr long)
    | error exception =>
        rw [steps] at outcome
        cases run : runSteps (criSteps mbedtls names spki) (0, Buffer.zeroed 4096) with
        | ok state =>
            rw [run] at outcome
            cases outcome
        | error thrown =>
            rw [run] at outcome
            cases outcome
            obtain ⟨what, rfl⟩ := (runSteps_sound sound).throws run
            exact ⟨what, rfl⟩
  · intro count len c run
    have kept : CriStep.Sound (runSteps ((criSteps mbedtls names spki).take count)) :=
      runSteps_sound fun step member => sound step (List.mem_of_mem_take member)
    obtain ⟨bytes, tracks⟩ := kept.counts start run
    have position := tracks.cursor
    have total := tracks.length
    have size := tracks.size
    dsimp only at position total size
    rw [List.length_nil] at position
    omega
  · intro target cri signature isEc built short
    obtain ⟨rfl, info⟩ := buildCri_encoding documented parsed built
    have brief := (encodedSignature_length_le target signature).trans short
    have assembled := @assembleDer_fits mbedtls nameDer documented full target _ signature isEc
      ((csrEncoding_length_le info brief).trans (by omega))
    exact ⟨_, _, assembled, toPem_text pemDocumented _,
      assembleCsr_fits documented full pemDocumented info brief⟩

/-- The demo subject's request, signed with a short signature. -/
theorem buildCri_returns_demo :
    ∃ cri der pem, buildCri Mbedtls.demo Mbedtls.demoSubject Mbedtls.demoSpki = .ok cri ∧
      assembleDer Mbedtls.demo .aarch64 cri [0x30, 0x06, 0x02, 0x01, 0x01, 0x02, 0x01, 0x01] true =
        .ok der ∧
      toPem Mbedtls.demo der = .ok pem := by
  obtain ⟨returns, _, _, _, fits⟩ := @buildCri_returns_iff Mbedtls.demo id Mbedtls.demoName
    Mbedtls.demoSubject Mbedtls.demoSpki Mbedtls.demo_documented Mbedtls.demo_failsOnlyFull
    Mbedtls.demo_pemDocumented demo_parses
  obtain ⟨cri, built⟩ := returns.mpr demo_fits
  obtain ⟨der, pem, assembled, encoded, _⟩ := fits .aarch64 cri
    [0x30, 0x06, 0x02, 0x01, 0x01, 0x02, 0x01, 0x01] true built (by decide)
  exact ⟨cri, der, pem, built, assembled, encoded⟩

end Se05x.CppApp
