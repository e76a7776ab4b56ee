import Se05x.Pkcs11.Ownership
import Se05x.Pkcs11.Reference
import Se05x.Pkcs11.SuiteProperties

/-!
# Every demo destroys what it makes

At every way to its cleanup label a demo's variables in use are a tail of those the cleanup
releases, and so the suite gives back everything it takes.
-/

set_option autoImplicit false

namespace Se05x.Pkcs11

open Interaction Procedure

/-- In the session with no object left. -/
def Between (session : SessionHandle) (stage : Stage) : Prop :=
  ∃ objects, stage = .inSession session objects ∧ objects.held = []

def Tidy (session : SessionHandle) (program : Program cryptoki Int) : Prop :=
  ∀ stage, Between session stage → program.wp lifecycle (fun _ => Between session) stage

section Demos

open Owning

variable {session : SessionHandle} {left : Label → Locals → Stage → Prop}

theorem Owns.between {l : Locals} {stage : Stage} (owns : Owns session [] l stage) :
    Between session stage := by
  obtain ⟨objects, rfl, holding⟩ := owns
  exact ⟨objects, rfl, holding.held⟩

theorem Between.owns {stage : Stage} (between : Between session stage) :
    Owns session [] .start stage := by
  obtain ⟨objects, rfl, gone⟩ := between
  exact ⟨objects, rfl, gone, fun h => by simp only [Locals.start, ne_eq, not_true_eq_false,
    List.not_mem_nil]⟩

theorem Owns.settled {vars released : List HandleVar} (tail : vars <:+ released) {l : Locals}
    {stage : Stage} (owns : Owns session vars l stage) : Settled session released l stage :=
  ⟨vars, tail, owns⟩

theorem tidy_demo {heading : String} {body : Body Unit} {released : List HandleVar}
    (distinct : released.Nodup)
    (carried : Carries lifecycle (fun _ => Settled session released) (Owns session [])
      (fun _ => Settled session released) body) :
    Tidy session (demo session heading body released) :=
  fun _ between => demo_wp lifecycle_quiet between.owns carried
    ((releasing distinct).weaken fun _ _ _ owns => owns.between)

/-- A demo that releases nothing at its end. -/
theorem tidy_keeping {heading : String} {body : Body Unit}
    (kept : Keeps lifecycle (fun _ => Settled session []) (Owns session []) body) :
    Tidy session (demo session heading body []) :=
  tidy_demo .nil (kept.weaken fun _ _ _ owns => owns.settled (List.suffix_refl _))

theorem tidy_runRandomGen : Tidy session (runRandomGen session) := by
  have settles : ∀ l stage, Owns session [] l stage → Settled session [] l stage :=
    fun _ _ => Owns.settled (List.suffix_refl _)
  refine tidy_keeping ?_
  refine .forM fun _ _ => ?_
  refine .bind (working rfl) fun random => ?_
  refine .bind (checking settles) fun _ => ?_
  exact printingHex

theorem tidy_runDigest : Tidy session (runDigest session) := by
  have stays : ∀ l stage, Owns session [] l stage → Owns session [] l stage := fun _ _ => id
  have round : ∀ alg : MechanismType × String,
      Keeps lifecycle (fun _ => Owns session []) (Owns session []) (digestRound session alg) := by
    intro alg
    refine .bind (working rfl) fun answer => ?_
    refine .bind (keeps_skipUnlessOk lifecycle_quiet stays) fun _ => ?_
    refine .bind (working rfl) fun answer => ?_
    refine .bind (requiring stays) fun _ => ?_
    exact printingHex
  refine tidy_keeping ?_
  refine .forM fun alg _ => ?_
  refine .upTo (round alg) stays ?_
  exact fun _ _ _ _ => Owns.settled (List.suffix_refl _)

theorem makeAndDestroy_keeps {heading : String} {h : HandleVar} {name : String}
    {make : Body CkRv} {inspect : Body Unit}
    (makes : Carries lifecycle left (Owns session []) (Made session [] [h]) make)
    (inspects : Keeps lifecycle left (Owns session [h]) inspect)
    (failing : ∀ l stage, Owns session [] l stage → left .cleanup l stage) :
    Keeps lifecycle left (Owns session []) (makeAndDestroy session heading h name make inspect) := by
  refine .bind (declaring List.not_mem_nil) fun _ => ?_
  refine .bind printing fun _ => ?_
  refine .bind makes fun _ => ?_
  refine .bind (checking_made failing) fun _ => ?_
  refine .bind inspects fun _ => ?_
  exact destroying

theorem tidy_runSymKeyGen : Tidy session (runSymKeyGen session) := by
  have settles : ∀ l stage, Owns session [] l stage → Settled session [] l stage :=
    fun _ _ => Owns.settled (List.suffix_refl _)
  refine tidy_keeping ?_
  refine .bind (.forM fun _ _ => ?_) fun _ => ?_
  · exact makeAndDestroy_keeps (generating List.not_mem_nil) showing settles
  · exact makeAndDestroy_keeps (generating List.not_mem_nil) showing settles

theorem tidy_runImportObject : Tidy session (runImportObject session) := by
  have settles : ∀ l stage, Owns session [] l stage → Settled session [] l stage :=
    fun _ _ => Owns.settled (List.suffix_refl _)
  have imported : ∀ heading name template text, Keeps lifecycle (fun _ => Settled session [])
      (Owns session []) (makeAndDestroy session heading .hKey name
        (createObject session template .hKey) (printHandles text)) :=
    fun _ _ _ _ => makeAndDestroy_keeps (creating List.not_mem_nil) showing settles
  refine tidy_keeping ?_
  refine .bind (imported _ _ _ _) fun _ => ?_
  refine .bind (imported _ _ _ _) fun _ => ?_
  have inspects : Keeps lifecycle (fun _ => Settled session []) (Owns session [.hPub]) (do
      printHandles fun h => s!"    hPub = {h .hPub}\n"
      exportAndPrint session .hPub .ecParams 16 "  EC_PARAMS readback") := by
    refine .bind showing fun _ => ?_
    exact exporting List.mem_cons_self
  exact makeAndDestroy_keeps (creating List.not_mem_nil) inspects settles

theorem verifyInitAndVerify_keeps {vars : List HandleVar} {h : HandleVar} {mechanism : Mechanism}
    {data : Der.Bytes} {capacity : Nat} {sig : Output capacity} (member : h ∈ vars) :
    Keeps lifecycle left (Owns session vars)
      (verifyInitAndVerify session mechanism h data sig) := by
  refine .bind (startingVerify member) fun rv => ?_
  refine .ite (fun started => ?_) fun refused => ?_
  · exact working rfl
  · exact .returning fun _ _ => id

theorem signAndVerifyEcc_keeps {signMech : MechanismType}
    (next : ∀ l stage, Owns session [.hPriv, .hPub] l stage → left .next l stage) :
    Keeps lifecycle left (Owns session [.hPriv, .hPub]) (signAndVerifyEcc session signMech) := by
  refine .bind (startingSign (by decide)) fun rv => ?_
  refine .bind (keeps_skipUnlessOk lifecycle_quiet next) fun _ => ?_
  refine .bind (working rfl) fun answer => ?_
  refine .bind (requiring next) fun _ => ?_
  refine .bind printingHex fun _ => ?_
  refine .bind (verifyInitAndVerify_keeps (by decide)) fun rv => ?_
  refine .bind (requiring next) fun _ => ?_
  exact printing

theorem tidy_runEcc : Tidy session (runEcc session) := by
  have stays : ∀ l stage, Owns session [] l stage → Owns session [] l stage := fun _ _ => id
  have round : ∀ curve, Keeps lifecycle (fun _ => Owns session []) (Owns session [])
      (eccRound session curve) := by
    intro curve
    refine .bind (declaring List.not_mem_nil) fun _ => ?_
    refine .bind (declaring List.not_mem_nil) fun _ => ?_
    refine .bind printing fun _ => ?_
    refine .bind (pairing (by decide) (by decide)) fun rv => ?_
    refine .bind (skipping_made stays) fun _ => ?_
    refine .bind showing fun _ => ?_
    refine .bind (exporting (by decide)) fun _ => ?_
    -- the inner part is only left for its own label
    have inner : Keeps lifecycle
        (fun label l stage => label = .next ∧ Owns session [.hPriv, .hPub] l stage)
        (Owns session [.hPriv, .hPub]) (signAndVerifyEcc session curve.signMech) :=
      signAndVerifyEcc_keeps fun _ _ owns => ⟨rfl, owns⟩
    have signed : Keeps lifecycle (fun _ => Owns session []) (Owns session [.hPriv, .hPub])
        ((signAndVerifyEcc session curve.signMech).upTo .next) :=
      .upTo inner (fun _ _ met => met.2) fun other apart _ _ met => absurd met.1 apart
    refine .bind signed fun _ => ?_
    refine .bind destroying fun _ => ?_
    exact destroying
  refine tidy_keeping ?_
  refine .forM fun curve _ => ?_
  refine .upTo (round curve) stays ?_
  exact fun _ _ _ _ => Owns.settled (List.suffix_refl _)

theorem pkcs1SignAndVerify_keeps
    (failing : ∀ l stage, Owns session [.hPriv, .hPub] l stage → left .cleanup l stage) :
    Keeps lifecycle left (Owns session [.hPriv, .hPub]) (pkcs1SignAndVerify session) := by
  refine .bind printing fun _ => ?_
  refine .bind (startingSign (by decide)) fun rv => ?_
  refine .bind (checking failing) fun _ => ?_
  refine .bind (working rfl) fun answer => ?_
  refine .bind (checking failing) fun _ => ?_
  refine .bind printingHex fun _ => ?_
  refine .bind (startingVerify (by decide)) fun rv => ?_
  refine .bind (checking failing) fun _ => ?_
  refine .bind (working rfl) fun answer => ?_
  refine .bind (checking failing) fun _ => ?_
  exact printing

theorem pssSignAndVerify_keeps
    (failing : ∀ l stage, Owns session [.hPriv, .hPub] l stage → left .cleanup l stage) :
    Keeps lifecycle left (Owns session [.hPriv, .hPub]) (pssSignAndVerify session) := by
  refine .bind printing fun _ => ?_
  refine .bind (startingSign (by decide)) fun rv => ?_
  refine .bind (keeps_skipUnlessOk lifecycle_quiet failing) fun _ => ?_
  refine .bind (working rfl) fun answer => ?_
  refine .bind (requiring failing) fun _ => ?_
  refine .bind printingHex fun _ => ?_
  refine .bind (verifyInitAndVerify_keeps (by decide)) fun rv => ?_
  refine .bind (requiring failing) fun _ => ?_
  exact printing

theorem tidy_runRsa : Tidy session (runRsa session) := by
  refine tidy_demo (by decide) ?_
  have both : ∀ l stage, Owns session [.hPriv, .hPub] l stage →
      Settled session [.hPriv, .hPub] l stage := fun _ _ => Owns.settled (List.suffix_refl _)
  refine .bind printing fun _ => ?_
  refine .bind (pairing (by decide) (by decide)) fun rv => ?_
  refine .bind (checking_made fun _ _ => Owns.settled List.nil_suffix) fun _ => ?_
  refine .bind showing fun _ => ?_
  refine .bind (exporting (by decide)) fun _ => ?_
  refine .bind (pkcs1SignAndVerify_keeps both) fun _ => ?_
  exact (pssSignAndVerify_keeps both).weaken fun _ => both

theorem tidy_runHmac : Tidy session (runHmac session) := by
  refine tidy_demo (by decide) ?_
  have one : ∀ l stage, Owns session [.hKey] l stage → Settled session [.hKey] l stage :=
    fun _ _ => Owns.settled (List.suffix_refl _)
  have round : ∀ alg, Keeps lifecycle (fun _ => Owns session [.hKey]) (Owns session [.hKey])
      (hmacRound session alg) := by
    intro alg
    have stays : ∀ l stage, Owns session [.hKey] l stage → Owns session [.hKey] l stage :=
      fun _ _ => id
    refine .bind (startingSign (by decide)) fun rv => ?_
    refine .bind (keeps_skipUnlessOk lifecycle_quiet stays) fun _ => ?_
    refine .bind (working rfl) fun answer => ?_
    refine .bind (requiring stays) fun _ => ?_
    refine .bind printingHex fun _ => ?_
    refine .bind (verifyInitAndVerify_keeps (by decide)) fun rv => ?_
    refine .bind (requiring stays) fun _ => ?_
    exact printing
  refine .bind (creating (by decide)) fun rv => ?_
  refine .bind (checking_made fun _ _ => Owns.settled List.nil_suffix) fun _ => ?_
  refine .bind showing fun _ => ?_
  refine .weaken (.forM fun alg _ => ?_) fun _ => one
  exact .upTo (round alg) (fun _ _ => id) fun _ _ => one

def ecdhHandles : List HandleVar :=
  [.hShared2, .hShared1, .hBobPriv, .hBobPub, .hAlicePriv, .hAlicePub]

theorem exportAliceSecret_keeps {vars : List HandleVar} (member : .hShared1 ∈ vars) :
    Keeps lifecycle left (Owns session vars) (exportAliceSecret session) := by
  refine .bind showing fun _ => ?_
  refine .bind (reading member) fun shared1 => ?_
  have printed : Keeps lifecycle left (Owns session vars) (printAliceSecret shared1) := by
    refine .ite (fun exported => ?_) fun hidden => ?_
    · exact printingHex
    · exact printing
  refine .bind printed fun _ => ?_
  exact .returning fun _ _ => id

theorem compareSecrets_keeps {vars : List HandleVar} {shared1 : Output 32}
    (member : .hShared2 ∈ vars) :
    Keeps lifecycle left (Owns session vars) (compareSecrets session shared1) := by
  refine .bind showing fun _ => ?_
  refine .bind (reading member) fun value => ?_
  refine .ite (fun exported => ?_) fun hidden => ?_
  · refine .bind printingHex fun _ => ?_
    refine .ite (fun agreed => ?_) fun differs => ?_
    · exact printing
    · exact printing
  · exact printing

theorem tidy_runEcdhDerive : Tidy session (runEcdhDerive session) := by
  refine tidy_demo (by decide) ?_
  have settles : ∀ {vars}, vars <:+ ecdhHandles → ∀ l stage, Owns session vars l stage →
      Settled session ecdhHandles l stage := fun tail _ _ => Owns.settled tail
  have alice : [.hAlicePriv, .hAlicePub] <:+ ecdhHandles := by decide
  have both : [.hBobPriv, .hBobPub, .hAlicePriv, .hAlicePub] <:+ ecdhHandles := by decide
  have first : [.hShared1, .hBobPriv, .hBobPub, .hAlicePriv, .hAlicePub] <:+ ecdhHandles := by decide
  refine .bind (pairing (by decide) (by decide)) fun rv => ?_
  refine .bind (checking_made (settles List.nil_suffix)) fun _ => ?_
  refine .bind showing fun _ => ?_
  refine .bind (pairing (by decide) (by decide)) fun rv => ?_
  refine .bind (checking_made (settles alice)) fun _ => ?_
  refine .bind showing fun _ => ?_
  refine .bind (reading (by decide)) fun value => ?_
  refine .bind (checking (settles both)) fun _ => ?_
  refine .bind printingHex fun _ => ?_
  refine .bind (reading (by decide)) fun value => ?_
  refine .bind (checking (settles both)) fun _ => ?_
  refine .bind (derivingKey (by decide) (by decide)) fun rv => ?_
  refine .bind (skipping_made (settles both)) fun _ => ?_
  refine .bind (exportAliceSecret_keeps (by decide)) fun _ => ?_
  refine .bind (derivingKey (by decide) (by decide)) fun rv => ?_
  refine .bind (skipping_made (settles first)) fun _ => ?_
  exact (compareSecrets_keeps (by decide)).weaken fun _ => settles (List.suffix_refl _)

theorem aesRoundtrip_keeps {mode : CipherMode}
    (failing : ∀ l stage, Owns session [.hAes] l stage → left .cleanup l stage) :
    Keeps lifecycle left (Owns session [.hAes]) (aesRoundtrip session mode) := by
  refine .bind printing fun _ => ?_
  refine .bind (startingEncrypt (by decide)) fun rv => ?_
  refine .bind (checking failing) fun _ => ?_
  refine .bind (working rfl) fun answer => ?_
  refine .bind (checking failing) fun _ => ?_
  refine .bind printingHex fun _ => ?_
  refine .bind (startingDecrypt (by decide)) fun rv => ?_
  refine .bind (checking failing) fun _ => ?_
  refine .bind (working rfl) fun answer => ?_
  refine .bind (checking failing) fun _ => ?_
  refine .ite (fun same => ?_) fun differs => ?_
  · exact printing
  · refine .bind marking fun _ => ?_
    exact .jumping failing

theorem oaepDecrypt_keeps {rsaCt : Output 256} :
    Keeps lifecycle left (Owns session [.hRsaPriv, .hRsaPub]) (oaepDecrypt session rsaCt) := by
  refine .bind (startingDecrypt (by decide)) fun rv => ?_
  refine .ite (fun started => ?_) fun refused => ?_
  · refine .bind (working rfl) fun answer => ?_
    refine .ite (fun refused => ?_) fun decrypted => ?_
    · exact marking
    · refine .ite (fun same => ?_) fun differs => ?_
      · exact printing
      · exact marking
  · exact marking

theorem oaepRoundtrip_keeps :
    Keeps lifecycle left (Owns session [.hRsaPriv, .hRsaPub]) (oaepRoundtrip session) := by
  refine .bind (startingEncrypt (by decide)) fun rv => ?_
  refine .ite (fun refused => ?_) fun started => ?_
  · exact printing
  · refine .bind (working rfl) fun answer => ?_
    refine .ite (fun refused => ?_) fun encrypted => ?_
    · exact marking
    · refine .bind printingHex fun _ => ?_
      exact oaepDecrypt_keeps

/-- The AES key is gone before the RSA pair is made, so its `DESTROY` at the end is idle. -/
theorem rsaOaep_keeps
    (skipping : ∀ l stage, Owns session [] l stage → left .cleanup l stage) :
    Keeps lifecycle left (Owns session []) (rsaOaep session) := by
  refine .bind printing fun _ => ?_
  refine .bind (declaring (by decide)) fun _ => ?_
  refine .bind (declaring (by decide)) fun _ => ?_
  refine .bind printing fun _ => ?_
  refine .bind (pairing (by decide) (by decide)) fun rv => ?_
  refine .bind (skipping_made skipping) fun _ => ?_
  refine .bind showing fun _ => ?_
  refine .bind oaepRoundtrip_keeps fun _ => ?_
  refine .bind destroying fun _ => ?_
  exact destroying

theorem tidy_runEncryptDecrypt : Tidy session (runEncryptDecrypt session) := by
  refine tidy_demo (by decide) ?_
  have one : ∀ l stage, Owns session [.hAes] l stage → Settled session [.hAes] l stage :=
    fun _ _ => Owns.settled (List.suffix_refl _)
  have none_left : ∀ l stage, Owns session [] l stage → Settled session [.hAes] l stage :=
    fun _ _ => Owns.settled List.nil_suffix
  refine .bind (generating (by decide)) fun rv => ?_
  refine .bind (checking_made none_left) fun _ => ?_
  refine .bind showing fun _ => ?_
  refine .bind (aesRoundtrip_keeps one) fun _ => ?_
  refine .bind (aesRoundtrip_keeps one) fun _ => ?_
  refine .bind destroying fun _ => ?_
  exact (rsaOaep_keeps none_left).weaken fun _ => none_left

/-- In the session before any object was made. -/
def Fresh (session : SessionHandle) (_ : Locals) (stage : Stage) : Prop :=
  stage = .inSession session .empty

theorem fresh_general {request : CryptokiCall} (kindOf : request.kind = .general) :
    Keeps lifecycle left (Fresh session) (issue request) := by
  refine keeps_inert fun l stage fresh => ?_
  subst fresh
  exact inert_general kindOf

/-- No object has been destroyed yet, so the listed ones may be asked about. -/
theorem fresh_working {request : CryptokiCall} {used : List ObjectHandle}
    (kindOf : request.kind = .working session used) :
    Keeps lifecycle left (Fresh session) (issue request) := by
  refine keeps_inert fun l stage fresh => ?_
  subst fresh
  exact inert_working kindOf fun _ _ => List.not_mem_nil

theorem fresh_cell {array : LocalArray} {cell : Cell} :
    Keeps lifecycle left (Fresh session) (issue (.readCell array cell)) :=
  keeps_inert fun _ _ _ => inert_host rfl

theorem fresh_lists : Lists lifecycle left (Fresh session) where
  cell _ _ := fresh_cell
  slotInfo _ := fresh_general rfl
  tokenInfo _ := fresh_general rfl
  counting _ := fresh_general rfl
  filling _ _ := fresh_general rfl

theorem printObject_keeps {handles : Vector (Option Nat) 64} {i : Nat} :
    Keeps lifecycle left (Fresh session) (printObject session handles i) := by
  refine .bind (keeps_readCell fun _ => fresh_cell) fun _ => ?_
  refine .bind (fresh_working rfl) fun answer => ?_
  exact printing

theorem demo_fresh {heading : String} {body : Body Unit} {stage : Stage}
    (kept : Keeps lifecycle (fun _ => Fresh session) (Fresh session) body)
    (fresh : Fresh session .start stage) :
    (demo session heading body []).wp lifecycle (fun _ => Between session) stage :=
  demo_wp lifecycle_quiet fresh kept (.returning fun _ _ fresh => ⟨.empty, fresh, rfl⟩)

theorem runModuleInfo_between {stage : Stage} (fresh : stage = .inSession session .empty) :
    (runModuleInfo session).wp lifecycle (fun _ => Between session) stage := by
  have still : ∀ l stage, Fresh session l stage → Fresh session l stage := fun _ _ => id
  have checked : ∀ name rv, Keeps lifecycle (fun _ => Fresh session) (Fresh session)
      (ckCheck name rv) := fun _ _ => keeps_ckCheck lifecycle_quiet fun _ _ => id
  refine demo_fresh ?_ fresh
  refine .bind (fresh_general rfl) fun _ => ?_
  refine .bind (checked _ _) fun _ => ?_
  refine .bind printing fun _ => ?_
  refine .bind printing fun _ => ?_
  refine .bind printing fun _ => ?_
  refine .bind printing fun _ => ?_
  refine .bind (fresh_general rfl) fun _ => ?_
  refine .bind (checked _ _) fun _ => ?_
  refine .bind printing fun _ => ?_
  refine .bind (fresh_general rfl) fun _ => ?_
  refine .bind (checked _ _) fun _ => ?_
  refine .bind printing fun _ => ?_
  refine .ite (fun _ => ?_) fun _ => ?_
  · refine .bind printing fun _ => ?_
    exact .jumping still
  refine .bind (fresh_general rfl) fun _ => ?_
  refine .bind (checked _ _) fun _ => ?_
  refine .bind (.forM fun _ _ => keeps_printSlot lifecycle_quiet fresh_lists) fun _ => ?_
  refine .bind printing fun _ => ?_
  refine .bind (fresh_working rfl) fun answer => ?_
  refine .bind (checked _ _) fun _ => ?_
  refine .bind (fresh_working rfl) fun answer => ?_
  refine .bind (fresh_working rfl) fun answer => ?_
  refine .bind printing fun _ => ?_
  refine .forM fun _ _ => ?_
  exact printObject_keeps

end Demos

section Suite

variable {session : SessionHandle}

theorem runAll_between {suite : List (String × Program cryptoki Int)}
    (tidy : ∀ entry ∈ suite, Tidy session entry.2) {rc : Int} :
    Tidy session (runAll suite rc) :=
  fun _ between => runAll_wp lifecycle_quiet tidy between

theorem runAll_demos_between {stage : Stage} (fresh : stage = .inSession session .empty) :
    (runAll (demos session) 0).wp lifecycle (fun _ => Between session) stage := by
  have others : ∀ entry ∈ (demos session).tail, Tidy session entry.2 := by
    simp only [demos, List.tail_cons, List.forall_mem_cons]
    exact ⟨tidy_runRandomGen, tidy_runDigest, tidy_runSymKeyGen, tidy_runImportObject, tidy_runEcc,
      tidy_runRsa, tidy_runEcdhDerive, tidy_runHmac, tidy_runEncryptDecrypt, nofun⟩
  refine runAll_cons_wp lifecycle_quiet (runModuleInfo_between fresh) ?_
  intro result reached between
  exact runAll_between others reached between

theorem inSession_over {stage : Stage} (fresh : stage = .inSession session .empty) :
    (inSession session).wp lifecycle (fun _ stage => stage = .sessionClosed) stage := by
  refine inSession_wp lifecycle_quiet (runAll_demos_between fresh) ?_
  intro rc reached between
  obtain ⟨objects, rfl, gone⟩ := between
  exact ⟨⟨rfl, gone⟩, fun _ _ moved => moved.2⟩

theorem inert_initialised {request : CryptokiCall} (kindOf : request.kind = .general) :
    Inert lifecycle .initialised request := by
  refine ⟨?_, fun answer after moved => ?_⟩
  · change Stage.permits _ request.kind
    rw [kindOf]
    trivial
  · have same := moved.2
    simp only [kindOf, Stage.next] at same
    exact same

/-- Where the `finalize` label is reached. -/
def Finalizable (stage : Stage) : Prop := stage = .initialised ∨ stage = .sessionClosed

theorem inModule_finalizable :
    inModule.wp lifecycle (fun _ => Finalizable) .initialised := by
  refine call_wp (inert_initialised rfl) fun slotCount => ?_
  split
  · exact call_wp (inert_host rfl) fun _ => call_wp (inert_host rfl) fun _ => .inl rfl
  · refine call_wp (inert_initialised rfl) fun slots => readCell_wp (fun _ => inert_host rfl) fun slot => ?_
    refine call_wp (inert_host rfl) fun _ => call_step trivial fun opened after moved => ?_
    have becomes := moved.2
    simp only [CryptokiCall.kind, outcome, Stage.next, List.headD_cons] at becomes
    split
    · rename_i failed
      rw [if_neg failed] at becomes
      exact call_wp (inert_host rfl) fun _ => .inl becomes
    · rename_i succeeded
      rw [if_pos (not_not.mp succeeded)] at becomes
      exact Program.wp_mono (inSession_over becomes) fun _ _ => .inr

theorem host_kept {held : Stage → Prop} {request : CryptokiCall}
    (kindOf : request.kind = .host) : Kept lifecycle held request :=
  .of_inert fun _ _ => inert_host kindOf

theorem loaded_surrounds :
    Surrounds lifecycle (· = .loaded) (· = .initialised) (fun _ => Finalizable)
      (fun _ stage => stage.Over) where
  loading _ := host_kept rfl
  resolving _ := host_kept rfl
  listing stage loaded := by
    subst loaded
    exact ⟨trivial, fun _ _ moved => moved.2⟩
  printing _ := host_kept rfl
  reporting _ := host_kept rfl
  initializing stage loaded := by
    subst loaded
    refine ⟨trivial, fun rv after moved => ?_⟩
    have becomes := moved.2
    simp only [CryptokiCall.kind, outcome, Stage.next] at becomes
    constructor
    · intro succeeded
      rwa [if_pos succeeded] at becomes
    · intro failed
      rwa [if_neg failed] at becomes
  refused stage loaded := by
    subst loaded
    exact ⟨rfl, rfl, rfl⟩
  finalizing rc stage finalizable := by
    cases finalizable with
    | inl same | inr same =>
        subst same
        exact ⟨trivial, fun _ _ moved => moved.2 ▸ ⟨rfl, rfl, rfl⟩⟩
  unloading _ := host_kept rfl

theorem main_over {argv : List String} :
    (main argv).wp lifecycle (fun _ stage => stage.Over) .loaded := by
  refine loaded_surrounds.main_wp (fun stage entered => ?_) rfl
  subst entered
  exact inModule_finalizable

/-- Whatever the module answers, as long as it keeps its promises about handles. What a list call
leaves in a cell of its array is any number; that a read behind the array may end the suite, if a
list call counts beyond the room it was given, is not part of this. -/
theorem main_gives_back {argv : List String} {trace : List (Event cryptoki)} {rc : Int}
    {last : Stage} (run : (main argv).Runs trace rc) (history : lifecycle.History .loaded trace last) :
    lifecycle.Accepts .loaded trace last ∧ last.Over ∧ GivesBack trace := by
  have accepted := run.accepted main_over history
  have ended := run.ensures main_over history
  exact ⟨accepted, ended, givesBack_of_accepts accepted ended⟩

end Suite

section Example

theorem objects_next {stage : Stage} {kind : Kind} {result : CkRv × List Nat} {handle : ObjectHandle}
    (member : handle ∈ (stage.next kind result).objects) :
    handle ∈ stage.objects ∨
      (∃ session used, kind = .creating session used) ∧ handle ∈ result.2 := by
  have acquired : ∀ {resources : List ObjectHandle} {objects : Ledger ObjectHandle},
      handle ∈ (resources.foldl Ledger.acquire objects).held →
        handle ∈ objects.held ∨ handle ∈ resources := by
    intro resources
    induction resources with
    | nil => exact .inl
    | cons first rest ih =>
        intro objects held
        rw [List.mem_cons]
        cases ih held with
        | inl before => exact (List.mem_insert_iff.mp before).elim (.inr ∘ .inl) .inl
        | inr later => exact .inr (.inr later)
  revert member
  fun_cases Stage.next stage kind result with
  | case5 => exact fun member => (acquired member).imp_right fun new => ⟨⟨_, _, rfl⟩, new⟩
  | case6 | case11 => exact .inl
  | case7 => exact fun member => .inl (List.mem_of_mem_erase member)
  | _ => exact nofun

theorem exampleModule_keeps {secret : Nat → UInt8} :
    lifecycle.KeptBy (exampleModule secret) fun s stage =>
      0 < s.nextHandle ∧ ∀ handle ∈ stage.objects, handle < s.nextHandle := by
  intro s stage request related
  obtain ⟨positive, below⟩ := related
  -- new handles lie between the old and the new counter
  have counts : s.nextHandle ≤ (exampleModule secret s request).2.nextHandle ∧
      ((∃ session used, request.kind = .creating session used) →
        (outcome ⟨request, (exampleModule secret s request).1⟩).1 = ckrOk ∧
        (outcome ⟨request, (exampleModule secret s request).1⟩).2.Nodup ∧
        ∀ handle ∈ (outcome ⟨request, (exampleModule secret s request).1⟩).2,
          s.nextHandle ≤ handle ∧ handle < (exampleModule secret s request).2.nextHandle) := by
    cases request <;>
      simp +arith [exampleModule, outcome, CryptokiCall.kind, ModuleState.create]
  obtain ⟨grows, fresh⟩ := counts
  refine ⟨_, ⟨?_, rfl⟩, Nat.lt_of_lt_of_le positive grows, fun handle member => ?_⟩
  · cases kindOf : request.kind with
    | creating session used =>
        obtain ⟨succeeded, distinct, within⟩ := fresh ⟨session, used, kindOf⟩
        rw [Promised, if_pos succeeded]
        refine ⟨distinct, fun handle member => ?_⟩
        have above := (within handle member).1
        exact ⟨Nat.ne_of_gt (Nat.lt_of_lt_of_le positive above),
          fun held => absurd (below handle held) (Nat.not_lt_of_ge above)⟩
    | _ => trivial
  · cases objects_next member with
    | inl before => exact Nat.lt_of_lt_of_le (below handle before) grows
    | inr new => exact ((fresh new.1).2.2 handle new.2).2

theorem main_gives_back_example : GivesBack (exampleTrace fun _ => 7) := by
  have start : 0 < ModuleState.start.nextHandle ∧
      ∀ handle ∈ Stage.objects .loaded, handle < ModuleState.start.nextHandle := ⟨by decide, nofun⟩
  obtain ⟨last, history⟩ := exampleModule_keeps.history start
  exact (main_gives_back (exampleTrace_runs (by decide +kernel)) history).2.2

end Example

end Se05x.Pkcs11
