import Se05x.Pkcs11.Reference
import Se05x.Pkcs11.Review
import Se05x.Pkcs11.SuiteProperties

/-!
# The exit status of the demo suite

A demo that returns zero leaves a sound review sound, and the suite adds the demos' flags
up.
-/

set_option autoImplicit false

namespace Se05x.Pkcs11

open Der Interaction Procedure

def reviewing : Contract cryptoki Review := .recording (fun _ _ => True) Review.note

theorem reviewing_history {trace : List (Event cryptoki)} :
    reviewing.History .start trace (review trace) :=
  Contract.history_recording_iff.mpr rfl

theorem reviewing_inert {request : CryptokiCall} {r : Review}
    (unnoted : ∀ answer, r.note ⟨request, answer⟩ = r) : Inert reviewing r request :=
  ⟨trivial, fun answer _ moved => moved.trans (unnoted answer)⟩

theorem reviewing_quiet : Quiet reviewing := fun _ _ => reviewing_inert fun _ => rfl

/-- While the flag is clear the review is as sound as it was. -/
def Passing (before : Review) (l : Locals) (r : Review) : Prop :=
  l.rc = 0 → before.Sound → r.Sound

/-- ... and the next decryption will be set beside this data. -/
def Encrypted (before : Review) (data : Bytes) (l : Locals) (r : Review) : Prop :=
  r.encrypted = data ∧ Passing before l r

/-- Entered under some condition, the body is left with the flag set or the review sound. -/
abbrev EndsPassing {Value : Type} (before : Review) (pre : Locals → Review → Prop)
    (body : Body Value) : Prop :=
  Carries reviewing (fun _ => Passing before) pre (fun _ => Passing before) body

abbrev KeepsPassing {Value : Type} (before : Review) (body : Body Value) : Prop :=
  EndsPassing before (Passing before) body

theorem Passing.failed {before : Review} {l : Locals} {r : Review} : Passing before l.fail r :=
  nofun

theorem Passing.handleFree {before : Review} : HandleFree (Passing before) :=
  fun _ _ _ _ passing => passing

namespace Reviewing

variable {before : Review} {data : Bytes} {left : Label → Locals → Review → Prop}
  {invariant : Locals → Review → Prop} {session : SessionHandle}

theorem unnoted {request : CryptokiCall}
    (same : ∀ (r : Review) answer, r.note ⟨request, answer⟩ = r) :
    Keeps reviewing left invariant (issue request) :=
  keeps_inert fun _ r _ => reviewing_inert (same r)

/-- What is noted of the call is no verification and no decryption. -/
theorem unjudged {request : CryptokiCall}
    (same : ∀ (r : Review) answer, r.Sound → (r.note ⟨request, answer⟩).Sound) :
    KeepsPassing before (issue request) :=
  keeps_issue fun _ r passing => ⟨trivial, fun answer _ moved clear sound =>
    moved ▸ same r answer (passing clear sound)⟩

theorem printing {text : String} : Keeps reviewing left invariant (printf text) :=
  keeps_printf reviewing_quiet

theorem printingHex {label : String} {buffer : Bytes} {len : Nat} :
    Keeps reviewing left invariant (printHex label buffer len) :=
  keeps_printHex reviewing_quiet

theorem checking {name : String} {rv : CkRv} : KeepsPassing before (ckCheck name rv) :=
  keeps_ckCheck reviewing_quiet fun _ _ _ => .failed

theorem requiring {label : Label} {failure : String} {rv : CkRv} :
    KeepsPassing before (requireOk label failure rv) :=
  keeps_requireOk reviewing_quiet fun _ _ _ => .failed

theorem skipping {label : Label} {skipped : String} {rv : CkRv} :
    KeepsPassing before (skipUnlessOk label skipped rv) :=
  keeps_skipUnlessOk reviewing_quiet fun _ _ passing => passing

theorem failing {pre : Locals → Review → Prop} {text : String} :
    EndsPassing before pre (markFailed text) :=
  carries_markFailed reviewing_quiet fun _ _ _ => .failed

theorem declaring {h : HandleVar} : KeepsPassing before (declare h) :=
  keeps_declare Passing.handleFree

theorem destroying {h : HandleVar} : KeepsPassing before (destroy session h) :=
  keeps_destroy Passing.handleFree fun _ => unnoted fun _ _ => rfl

theorem generating {mechanism : Mechanism} {template : Template} {h : HandleVar} :
    KeepsPassing before (generateKey session mechanism template h) :=
  keeps_generateKey Passing.handleFree (unnoted fun _ _ => rfl)

theorem creating {template : Template} {h : HandleVar} :
    KeepsPassing before (createObject session template h) :=
  keeps_createObject Passing.handleFree (unnoted fun _ _ => rfl)

theorem derivingKey {mechanism : Mechanism} {base : HandleVar} {template : Template}
    {h : HandleVar} : KeepsPassing before (deriveKey session mechanism base template h) :=
  keeps_deriveKey Passing.handleFree
    fun _ => unjudged fun _ _ sound => ⟨sound.verified, sound.decrypted⟩

theorem pairing {mechanism : Mechanism} {publicTemplate privateTemplate : Template}
    {phPub phPriv : HandleVar} :
    KeepsPassing before
      (generateKeyPair session mechanism publicTemplate privateTemplate phPub phPriv) :=
  keeps_generateKeyPair Passing.handleFree (unnoted fun _ _ => rfl)

theorem reading {h : HandleVar} {type : AttributeType} {capacity : Nat} :
    KeepsPassing before (getAttributeValue session h type capacity) := by
  refine .reading fun _ => unjudged fun _ _ sound => ?_
  cases type <;> exact ⟨sound.verified, sound.decrypted⟩

theorem startingSign {mechanism : Mechanism} {h : HandleVar} :
    Keeps reviewing left invariant (signInit session mechanism h) :=
  .reading fun _ => unnoted fun _ _ => rfl

theorem startingVerify {mechanism : Mechanism} {h : HandleVar} :
    Keeps reviewing left invariant (verifyInit session mechanism h) :=
  .reading fun _ => unnoted fun _ _ => rfl

theorem startingEncrypt {mechanism : Mechanism} {h : HandleVar} :
    Keeps reviewing left invariant (encryptInit session mechanism h) :=
  .reading fun _ => unnoted fun _ _ => rfl

theorem startingDecrypt {mechanism : Mechanism} {h : HandleVar} :
    Keeps reviewing left invariant (decryptInit session mechanism h) :=
  .reading fun _ => unnoted fun _ _ => rfl

theorem showing {text : (HandleVar → ObjectHandle) → String} :
    Keeps reviewing left invariant (printHandles text) :=
  keeps_printHandles reviewing_quiet

theorem exporting {h : HandleVar} {type : AttributeType} {capacity : Nat} {label : String} :
    KeepsPassing before (exportAndPrint session h type capacity label) :=
  keeps_exportAndPrint reviewing_quiet reading

theorem makingAndDestroying {heading : String} {h : HandleVar} {name : String}
    {make : Body CkRv} {inspect : Body Unit} (makes : KeepsPassing before make)
    (inspects : KeepsPassing before inspect) :
    KeepsPassing before (makeAndDestroy session heading h name make inspect) :=
  keeps_makeAndDestroy reviewing_quiet Passing.handleFree (fun _ _ _ => .failed) makes inspects
    fun _ => unnoted fun _ _ => rfl

/-- The call's success means that the review is still sound. -/
def Judges (before : Review) (body : Body CkRv) : Prop :=
  Carries reviewing (fun _ => Passing before) (Passing before)
    (fun rv l r => rv = ckrOk → Passing before l r) body

theorem verify_judges {message signature : Bytes} {signatureLen : Nat} :
    Judges before (issue (.verify session message signature signatureLen)) := by
  intro l r passing
  refine ⟨trivial, fun rv after moved succeeded clear sound => ?_⟩
  have kept := passing clear sound
  rw [moved]
  exact ⟨List.forall_mem_cons.mpr ⟨succeeded, kept.verified⟩, kept.decrypted⟩

theorem verifyInitAndVerify_judges {mechanism : Mechanism} {h : HandleVar} {message : Bytes}
    {capacity : Nat} {sig : Output capacity} :
    Judges before (verifyInitAndVerify session mechanism h message sig) := by
  refine .bind startingVerify fun rv => ?_
  refine .ite (fun started => ?_) fun refused => ?_
  · exact verify_judges
  · exact .returning fun _ _ _ succeeded => absurd succeeded refused

theorem requiring_judged {label : Label} {failure : String} {rv : CkRv} :
    EndsPassing before (fun l r => rv = ckrOk → Passing before l r)
      (requireOk label failure rv) :=
  carries_requireOk reviewing_quiet (fun succeeded _ _ judged => judged succeeded)
    fun _ _ _ _ => .failed

theorem checking_judged {name : String} {rv : CkRv} :
    EndsPassing before (fun l r => rv = ckrOk → Passing before l r) (ckCheck name rv) := by
  refine .bind requiring_judged fun _ => ?_
  exact printing

theorem roundtrips_iff {capacity : Nat} {output : Output capacity} {original : Bytes} :
    roundtrips output original = true ↔ output.text = textOf original := by
  rw [roundtrips, decide_eq_true_iff, Output.text, textOf, Output.bytes, Text.mk.injEq]
  refine and_congr_right fun same => ?_
  rw [same]

/-- What an encryption had as its data, the next decryption is set beside. -/
theorem encrypting {capacity : Nat} :
    Carries reviewing left (Passing before) (fun _ => Encrypted before data)
      (issue (.encrypt session data capacity)) := by
  intro l r passing
  refine ⟨trivial, fun output after moved => ?_⟩
  rw [moved]
  exact ⟨rfl, fun clear sound => ⟨(passing clear sound).verified, (passing clear sound).decrypted⟩⟩

/-- A decryption the suite accepts gave back what had been encrypted. -/
theorem decrypting {ciphertext : Bytes} {ciphertextLen capacity : Nat} :
    Carries reviewing left (Encrypted before data)
      (fun output l r => output.rv ≠ ckrOk ∨ roundtrips output data = true → Passing before l r)
      (issue (.decrypt session ciphertext ciphertextLen capacity)) := by
  intro l r encrypted
  obtain ⟨latest, passing⟩ := encrypted
  refine ⟨trivial, fun output after moved accepted clear sound => ?_⟩
  have kept := passing clear sound
  rw [moved]
  refine ⟨kept.verified, ?_⟩
  intro decryption noted
  by_cases succeeded : output.rv = ckrOk
  · simp only [Review.note, succeeded, ↓reduceIte] at noted
    cases List.mem_cons.mp noted with
    | inl same =>
        rw [same, latest]
        exact roundtrips_iff.mp (accepted.resolve_left (not_not.mpr succeeded))
    | inr earlier => exact kept.decrypted decryption earlier
  · simp only [Review.note, succeeded, ↓reduceIte] at noted
    exact kept.decrypted decryption noted

/-- A check between an encryption and its decryption. -/
theorem checking_encrypted {name : String} {rv : CkRv} :
    Carries reviewing (fun _ => Passing before) (Encrypted before data)
      (fun _ => Encrypted before data) (ckCheck name rv) :=
  keeps_ckCheck reviewing_quiet fun _ _ _ => .failed

end Reviewing

/-- A program that returns zero leaves a sound review sound. -/
def Reports (program : Program cryptoki Int) : Prop :=
  ∀ before, program.wp reviewing (fun rc after => rc = 0 → before.Sound → after.Sound) before

section Demos

open Reviewing

variable {session : SessionHandle} {before : Review}

theorem reports_demo {heading : String} {body : Body Unit} {released : List HandleVar}
    (kept : ∀ before, KeepsPassing before body) :
    Reports (demo session heading body released) :=
  fun before => demo_wp reviewing_quiet (fun _ sound => sound) (kept before)
    (.forM fun _ _ => destroying)

theorem listing : Lists reviewing (fun _ => Passing before) (Passing before) where
  cell _ _ := unnoted fun _ _ => rfl
  slotInfo _ := unnoted fun _ _ => rfl
  tokenInfo _ := unnoted fun _ _ => rfl
  counting _ := unnoted fun _ _ => rfl
  filling _ _ := unnoted fun _ _ => rfl

theorem reports_runModuleInfo : Reports (runModuleInfo session) := by
  refine reports_demo fun _ => ?_
  refine .bind (unnoted fun _ _ => rfl) fun answer => ?_
  refine .bind checking fun _ => ?_
  refine .bind printing fun _ => ?_
  refine .bind printing fun _ => ?_
  refine .bind printing fun _ => ?_
  refine .bind printing fun _ => ?_
  refine .bind (unnoted fun _ _ => rfl) fun answer => ?_
  refine .bind checking fun _ => ?_
  refine .bind printing fun _ => ?_
  refine .bind (unnoted fun _ _ => rfl) fun answer => ?_
  refine .bind checking fun _ => ?_
  refine .bind printing fun _ => ?_
  refine .ite (fun _ => ?_) fun _ => ?_
  · refine .bind printing fun _ => ?_
    exact .jumping fun _ _ => id
  · refine .bind (unnoted fun _ _ => rfl) fun answer => ?_
    refine .bind checking fun _ => ?_
    refine .bind (.forM fun _ _ => keeps_printSlot reviewing_quiet listing) fun _ => ?_
    refine .bind printing fun _ => ?_
    refine .bind (unnoted fun _ _ => rfl) fun answer => ?_
    refine .bind checking fun _ => ?_
    refine .bind (unnoted fun _ _ => rfl) fun answer => ?_
    refine .bind (unnoted fun _ _ => rfl) fun answer => ?_
    refine .bind printing fun _ => ?_
    refine .forM fun _ _ => ?_
    refine .bind (keeps_readCell fun _ => unnoted fun _ _ => rfl) fun _ => ?_
    refine .bind (unnoted fun _ _ => rfl) fun answer => ?_
    exact printing

theorem reports_runRandomGen : Reports (runRandomGen session) := by
  refine reports_demo fun _ => ?_
  refine .forM fun _ _ => ?_
  refine .bind (unnoted fun _ _ => rfl) fun answer => ?_
  refine .bind checking fun _ => ?_
  exact printingHex

theorem reports_runDigest : Reports (runDigest session) := by
  refine reports_demo fun _ => ?_
  refine .forM fun _ _ => ?_
  refine .upTo ?_ (fun _ _ => id) fun _ _ _ _ => id
  refine .bind (unnoted fun _ _ => rfl) fun answer => ?_
  refine .bind skipping fun _ => ?_
  refine .bind (unnoted fun _ _ => rfl) fun answer => ?_
  refine .bind requiring fun _ => ?_
  exact printingHex

theorem reports_runSymKeyGen : Reports (runSymKeyGen session) := by
  refine reports_demo fun _ => ?_
  refine .bind (.forM fun bits _ => ?_) fun _ => ?_
  · exact makingAndDestroying generating showing
  · exact makingAndDestroying generating showing

theorem reports_runImportObject : Reports (runImportObject session) := by
  refine reports_demo fun _ => ?_
  refine .bind (makingAndDestroying creating showing) fun _ => ?_
  refine .bind (makingAndDestroying creating showing) fun _ => ?_
  refine makingAndDestroying creating ?_
  refine .bind showing fun _ => ?_
  exact exporting

theorem signAndVerifyEcc_passing {signMech : MechanismType} :
    KeepsPassing before (signAndVerifyEcc session signMech) := by
  refine .bind startingSign fun rv => ?_
  refine .bind skipping fun _ => ?_
  refine .bind (unnoted fun _ _ => rfl) fun answer => ?_
  refine .bind requiring fun _ => ?_
  refine .bind printingHex fun _ => ?_
  refine .bind verifyInitAndVerify_judges fun rv => ?_
  refine .bind requiring_judged fun _ => ?_
  exact printing

theorem reports_runEcc : Reports (runEcc session) := by
  refine reports_demo fun before => ?_
  refine .forM fun curve _ => ?_
  refine .upTo ?_ (fun _ _ => id) fun _ _ _ _ => id
  refine .bind declaring fun _ => ?_
  refine .bind declaring fun _ => ?_
  refine .bind printing fun _ => ?_
  refine .bind pairing fun rv => ?_
  refine .bind skipping fun _ => ?_
  refine .bind showing fun _ => ?_
  refine .bind exporting fun _ => ?_
  have signed : KeepsPassing before ((signAndVerifyEcc session curve.signMech).upTo .next) :=
    .upTo signAndVerifyEcc_passing (fun _ _ => id) fun _ _ _ _ => id
  refine .bind signed fun _ => ?_
  refine .bind destroying fun _ => ?_
  exact destroying

theorem pkcs1SignAndVerify_passing : KeepsPassing before (pkcs1SignAndVerify session) := by
  refine .bind printing fun _ => ?_
  refine .bind startingSign fun rv => ?_
  refine .bind checking fun _ => ?_
  refine .bind (unnoted fun _ _ => rfl) fun answer => ?_
  refine .bind checking fun _ => ?_
  refine .bind printingHex fun _ => ?_
  refine .bind startingVerify fun rv => ?_
  refine .bind checking fun _ => ?_
  refine .bind verify_judges fun _ => ?_
  refine .bind checking_judged fun _ => ?_
  exact printing

theorem pssSignAndVerify_passing : KeepsPassing before (pssSignAndVerify session) := by
  refine .bind printing fun _ => ?_
  refine .bind startingSign fun rv => ?_
  refine .bind skipping fun _ => ?_
  refine .bind (unnoted fun _ _ => rfl) fun answer => ?_
  refine .bind requiring fun _ => ?_
  refine .bind printingHex fun _ => ?_
  refine .bind verifyInitAndVerify_judges fun rv => ?_
  refine .bind requiring_judged fun _ => ?_
  exact printing

theorem reports_runRsa : Reports (runRsa session) := by
  refine reports_demo fun _ => ?_
  refine .bind printing fun _ => ?_
  refine .bind pairing fun rv => ?_
  refine .bind checking fun _ => ?_
  refine .bind showing fun _ => ?_
  refine .bind exporting fun _ => ?_
  refine .bind pkcs1SignAndVerify_passing fun _ => ?_
  exact pssSignAndVerify_passing

theorem exportAliceSecret_passing : KeepsPassing before (exportAliceSecret session) := by
  refine .bind showing fun _ => ?_
  refine .bind reading fun shared1 => ?_
  have printed : KeepsPassing before (printAliceSecret shared1) := by
    refine .ite (fun exported => ?_) fun hidden => ?_
    · exact printingHex
    · exact printing
  refine .bind printed fun _ => ?_
  exact .returning fun _ _ => id

/-- The comparison prints either way and leaves the flag alone. -/
theorem compareSecrets_passing {shared1 : Output 32} :
    KeepsPassing before (compareSecrets session shared1) := by
  refine .bind showing fun _ => ?_
  refine .bind reading fun value => ?_
  refine .ite (fun exported => ?_) fun hidden => ?_
  · refine .bind printingHex fun _ => ?_
    refine .ite (fun agreed => ?_) fun differs => ?_
    · exact printing
    · exact printing
  · exact printing

theorem reports_runEcdhDerive : Reports (runEcdhDerive session) := by
  refine reports_demo fun _ => ?_
  refine .bind pairing fun rv => ?_
  refine .bind checking fun _ => ?_
  refine .bind showing fun _ => ?_
  refine .bind pairing fun rv => ?_
  refine .bind checking fun _ => ?_
  refine .bind showing fun _ => ?_
  refine .bind reading fun value => ?_
  refine .bind checking fun _ => ?_
  refine .bind printingHex fun _ => ?_
  refine .bind reading fun value => ?_
  refine .bind checking fun _ => ?_
  refine .bind derivingKey fun rv => ?_
  refine .bind skipping fun _ => ?_
  refine .bind exportAliceSecret_passing fun shared1 => ?_
  refine .bind derivingKey fun rv => ?_
  refine .bind skipping fun _ => ?_
  exact compareSecrets_passing

theorem hmacRound_passing {alg : MechanismType × String} :
    KeepsPassing before (hmacRound session alg) := by
  refine .bind startingSign fun rv => ?_
  refine .bind skipping fun _ => ?_
  refine .bind (unnoted fun _ _ => rfl) fun answer => ?_
  refine .bind requiring fun _ => ?_
  refine .bind printingHex fun _ => ?_
  refine .bind verifyInitAndVerify_judges fun rv => ?_
  refine .bind requiring_judged fun _ => ?_
  exact printing

theorem reports_runHmac : Reports (runHmac session) := by
  refine reports_demo fun _ => ?_
  refine .bind creating fun rv => ?_
  refine .bind checking fun _ => ?_
  refine .bind showing fun _ => ?_
  refine .forM fun _ _ => ?_
  exact .upTo hmacRound_passing (fun _ _ => id) fun _ _ _ _ => id

theorem aesDecrypt_passing {mode : CipherMode} {ct : Output 64} :
    EndsPassing before (Encrypted before plain16) (aesDecrypt session mode ct) := by
  refine .bind startingDecrypt fun rv => ?_
  refine .bind checking_encrypted fun _ => ?_
  refine .bind decrypting fun pt2 => ?_
  refine .bind (keeps_ckCheck reviewing_quiet fun _ _ _ => .failed) fun _ => ?_
  refine .ite (fun same => ?_) fun differs => ?_
  · intro l r accepted
    exact printf_wp reviewing_quiet (accepted (.inr same))
  · refine .bind failing fun _ => ?_
    exact .jumping fun _ _ => id

theorem aesRoundtrip_passing {mode : CipherMode} :
    KeepsPassing before (aesRoundtrip session mode) := by
  refine .bind printing fun _ => ?_
  refine .bind startingEncrypt fun rv => ?_
  refine .bind checking fun _ => ?_
  refine .bind encrypting fun ct => ?_
  refine .bind checking_encrypted fun _ => ?_
  refine .bind printingHex fun _ => ?_
  exact aesDecrypt_passing

theorem oaepDecrypt_passing {rsaCt : Output 256} :
    EndsPassing before (Encrypted before plain) (oaepDecrypt session rsaCt) := by
  refine .bind startingDecrypt fun rv => ?_
  refine .ite (fun started => ?_) fun refused => ?_
  · refine .bind decrypting fun rsaPt => ?_
    refine .ite (fun refused => ?_) fun decrypted => ?_
    · exact failing
    · refine .ite (fun same => ?_) fun differs => ?_
      · intro l r accepted
        exact printf_wp reviewing_quiet (accepted (.inr same))
      · exact failing
  · exact failing

theorem oaepRoundtrip_passing : KeepsPassing before (oaepRoundtrip session) := by
  refine .bind startingEncrypt fun rv => ?_
  refine .ite (fun refused => ?_) fun started => ?_
  · exact printing
  · refine .bind encrypting fun ct => ?_
    refine .ite (fun refused => ?_) fun encrypted => ?_
    · exact failing
    · refine .bind printingHex fun _ => ?_
      exact oaepDecrypt_passing

theorem rsaOaep_passing : KeepsPassing before (rsaOaep session) := by
  refine .bind printing fun _ => ?_
  refine .bind declaring fun _ => ?_
  refine .bind declaring fun _ => ?_
  refine .bind printing fun _ => ?_
  refine .bind pairing fun rv => ?_
  refine .bind skipping fun _ => ?_
  refine .bind showing fun _ => ?_
  refine .bind oaepRoundtrip_passing fun _ => ?_
  refine .bind destroying fun _ => ?_
  exact destroying

theorem reports_runEncryptDecrypt : Reports (runEncryptDecrypt session) := by
  refine reports_demo fun _ => ?_
  refine .bind generating fun rv => ?_
  refine .bind checking fun _ => ?_
  refine .bind showing fun _ => ?_
  refine .bind aesRoundtrip_passing fun _ => ?_
  refine .bind aesRoundtrip_passing fun _ => ?_
  refine .bind destroying fun _ => ?_
  exact rsaOaep_passing

theorem reports_demos : ∀ entry ∈ demos session, Reports entry.2 := by
  simp only [demos, List.forall_mem_cons, List.not_mem_nil, false_implies, implies_true, and_true]
  exact ⟨reports_runModuleInfo, reports_runRandomGen, reports_runDigest, reports_runSymKeyGen,
    reports_runImportObject, reports_runEcc, reports_runRsa, reports_runEcdhDerive,
    reports_runHmac, reports_runEncryptDecrypt⟩

end Demos

/-- The suite's flag is clear only if every demo's was. -/
theorem runAll_reports {table : List (String × Program cryptoki Int)}
    (each : ∀ entry ∈ table, Reports entry.2) (rc : Int) (r : Review) :
    (runAll table rc).wp reviewing
      (fun result after => result = 0 → rc = 0 ∧ (r.Sound → after.Sound)) r := by
  induction table generalizing rc r with
  | nil => exact fun clear => ⟨clear, id⟩
  | cons entry table ih =>
      obtain ⟨head, others⟩ := List.forall_mem_cons.mp each
      refine runAll_cons_wp reviewing_quiet (head r) fun result after reported => ?_
      refine Program.wp_mono (ih others _ after) fun last final kept zero => ?_
      obtain ⟨flag, sound⟩ := kept zero
      by_cases clear : result = 0
      · rw [if_neg (not_not.mpr clear)] at flag
        exact ⟨flag, fun start => sound (reported clear start)⟩
      · rw [if_pos clear] at flag
        exact absurd flag (by decide)

theorem call_unnoted {request : CryptokiCall} {r : Review} {Value : Type}
    {continuation : request.Answer → Program cryptoki Value} {ends : Value → Review → Prop}
    (unnoted : ∀ answer, r.note ⟨request, answer⟩ = r)
    (next : ∀ answer, (continuation answer).wp reviewing ends r) :
    (call request >>= continuation).wp reviewing ends r :=
  call_wp (reviewing_inert unnoted) next

theorem inSession_reports {session : SessionHandle} : Reports (inSession session) := by
  intro r
  refine inSession_wp reviewing_quiet (runAll_reports reports_demos 0 r) ?_
  intro rc after kept
  refine ⟨trivial, fun _ last unmoved clear => ?_⟩
  subst unmoved
  exact (kept clear).2

theorem inModule_reports : Reports inModule := by
  intro r
  refine call_unnoted (fun _ => rfl) fun slotCount => ?_
  by_cases missing : slotCount.rv ≠ ckrOk ∨ slotCount.count = 0
  · rw [if_pos missing]
    refine call_unnoted (fun _ => rfl) fun _ => call_unnoted (fun _ => rfl) fun _ => ?_
    exact fun clear => absurd clear (by decide)
  · rw [if_neg missing]
    refine call_unnoted (fun _ => rfl) fun slots => ?_
    refine readCell_wp (fun _ => reviewing_inert fun _ => rfl) fun slot => ?_
    refine call_unnoted (fun _ => rfl) fun _ => call_unnoted (fun _ => rfl) fun opened => ?_
    by_cases failed : opened.rv ≠ ckrOk
    · rw [if_pos failed]
      exact call_unnoted (fun _ => rfl) fun _ clear => absurd clear (by decide)
    · rw [if_neg failed]
      exact inSession_reports r

theorem unnoted_kept {held : Review → Prop} {request : CryptokiCall}
    (unnoted : ∀ r answer, Review.note r ⟨request, answer⟩ = r) : Kept reviewing held request :=
  .of_inert fun r _ => reviewing_inert (unnoted r)

theorem reports_surrounds {r : Review} :
    Surrounds reviewing (· = r) (· = r) (fun result after => result = 0 → r.Sound → after.Sound)
      (fun result after => result = 0 → r.Sound → after.Sound) where
  loading _ := unnoted_kept fun _ _ => rfl
  resolving _ := unnoted_kept fun _ _ => rfl
  listing := unnoted_kept fun _ _ => rfl
  printing _ := unnoted_kept fun _ _ => rfl
  reporting _ := unnoted_kept fun _ _ => rfl
  initializing := Kept.initializing (unnoted_kept fun _ _ => rfl)
  refused _ _ clear := absurd clear (by decide)
  finalizing _ := @unnoted_kept _ .cFinalize fun _ _ => rfl
  unloading _ := unnoted_kept fun _ _ => rfl

theorem main_reports {argv : List String} : Reports (main argv) := by
  intro r
  refine reports_surrounds.main_wp (fun entered same => ?_) rfl
  subst same
  exact inModule_reports entered

/-- No check the suite carried out was negative. -/
structure Review.NoNegative (r : Review) : Prop extends r.Sound where
  agree : r.SecretsAgree

/-- Of the checks behind a zero exit status only the comparison of the secrets may have
failed. -/
theorem main_zero_iff_secrets_agree {argv : List String} {trace : List (Event cryptoki)}
    (run : (main argv).Runs trace 0) :
    (review trace).NoNegative ↔ (review trace).SecretsAgree := by
  have sound : (review trace).Sound :=
    run.ensures (main_reports .start) reviewing_history rfl ⟨nofun, nofun⟩
  constructor
  · intro positive
    exact positive.agree
  · intro agree
    exact ⟨sound, agree⟩

theorem main_zero_iff_secrets_agree_equal : (review (exampleTrace fun _ => 7)).NoNegative := by
  refine (main_zero_iff_secrets_agree (exampleTrace_runs (by decide +kernel))).mpr ?_
  have same : (review (exampleTrace fun _ => 7)).alice = (review (exampleTrace fun _ => 7)).bob := by
    decide +kernel
  intro alice bob first second
  rw [same, second] at first
  exact Option.some.inj first.symm

/-- Both secrets are exported, they differ, and the suite reports success. -/
theorem main_zero_with_different_secrets :
    ∃ trace, (main ["pkcs11_demo"]).Runs trace 0 ∧ ¬(review trace).NoNegative := by
  refine ⟨exampleTrace UInt8.ofNat, exampleTrace_runs (by decide +kernel), ?_⟩
  intro positive
  have alice : (review (exampleTrace UInt8.ofNat)).alice = some ⟨32, List.replicate 32 1⟩ := by
    decide +kernel
  have bob : (review (exampleTrace UInt8.ofNat)).bob = some ⟨32, List.replicate 32 2⟩ := by
    decide +kernel
  exact absurd (positive.agree _ _ alice bob) (by decide)

end Se05x.Pkcs11
