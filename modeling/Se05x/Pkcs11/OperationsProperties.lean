import Se05x.Pkcs11.Operations
import Se05x.Pkcs11.Reference
import Se05x.Pkcs11.SuiteProperties

/-!
# No operation outlives its demo

Every operation the suite starts it finishes before it does anything else in the session, and
every buffer it gives is long enough for the result.
-/

set_option autoImplicit false

namespace Se05x.Pkcs11

open Interaction Procedure

theorem operations_quiet : Quiet operations := fun _ _ => ⟨trivial, fun _ _ moved => moved.2⟩

/-- A call that neither uses an operation nor makes an object. -/
theorem inert_other {s : Sessions} {request : CryptokiCall} (roleOf : request.role = .other)
    (makesNone : ∀ answer, sized ⟨request, answer⟩ = []) : Inert operations s request := by
  refine ⟨?_, fun answer after moved => ?_⟩
  · change s.Permits request.role
    rw [roleOf]
    trivial
  · have becomes := moved.2
    simp only [Sessions.next, roleOf, Sessions.learn, makesNone, List.foldl_nil] at becomes
    exact becomes

/-- No operation is active, and these variables hold keys of these sizes. -/
structure Calm (known : List (HandleVar × KeySize)) (l : Locals) (s : Sessions) : Prop where
  idle : s.Idle
  sizes : ∀ entry ∈ known, s.keys (l.handles entry.1) = some entry.2

/-- One operation is active. -/
structure Running (session : SessionHandle) (operation : Operation) (size : ResultSize)
    (known : List (HandleVar × KeySize)) (l : Locals) (s : Sessions) : Prop where
  only : s.active = Function.update (fun _ => none) (session, operation) (some size)
  sizes : ∀ entry ∈ known, s.keys (l.handles entry.1) = some entry.2

section

variable {session : SessionHandle} {operation : Operation} {size : ResultSize}
  {known : List (HandleVar × KeySize)} {l : Locals} {s : Sessions}

theorem Running.active (running : Running session operation size known l s) :
    s.active (session, operation) = some size := by
  rw [running.only, Function.update_self]

theorem Running.permitted (running : Running session operation size known l s) :
    s.active (session, operation) ≠ none :=
  running.active ▸ Option.some_ne_none _

theorem Running.leave (running : Running session operation size known l s) :
    Calm known l (s.leave session operation) := by
  refine ⟨?_, running.sizes⟩
  rw [Sessions.Idle, Sessions.leave, running.only, Function.update_idem]
  exact Function.update_eq_self (session, operation) fun _ => none

end

/-- What an `Init` call leaves. -/
def Started (session : SessionHandle) (operation : Operation) (size : ResultSize)
    (known : List (HandleVar × KeySize)) (rv : CkRv) (l : Locals) (s : Sessions) : Prop :=
  (rv = ckrOk → Running session operation size known l s) ∧ (rv ≠ ckrOk → Calm known l s)

namespace Operating

variable {session : SessionHandle} {operation : Operation} {size : ResultSize}
  {known : List (HandleVar × KeySize)} {left : Label → Locals → Sessions → Prop}
  {invariant : Locals → Sessions → Prop} {l : Locals} {s : Sessions}

theorem calm_fail (calm : Calm known l s) : Calm known l.fail s := ⟨calm.idle, calm.sizes⟩

theorem calm_forget (calm : Calm known l s) : Calm [] l s := ⟨calm.idle, nofun⟩

theorem calm_free : HandleFree (Calm []) := fun _ _ _ _ calm => ⟨calm.idle, nofun⟩

theorem printing {text : String} : Keeps operations left invariant (printf text) :=
  keeps_printf operations_quiet

theorem printingHex {label : String} {buffer : Der.Bytes} {len : Nat} :
    Keeps operations left invariant (printHex label buffer len) :=
  keeps_printHex operations_quiet

theorem showing {text : (HandleVar → ObjectHandle) → String} :
    Keeps operations left invariant (printHandles text) :=
  keeps_printHandles operations_quiet

theorem aside {request : CryptokiCall} (roleOf : request.role = .other)
    (makesNone : ∀ answer, sized ⟨request, answer⟩ = []) :
    Keeps operations left invariant (issue request) :=
  keeps_inert fun _ _ _ => inert_other roleOf makesNone

/-- A call that uses no operation. -/
theorem besides {request : CryptokiCall} (roleOf : request.role = .other) :
    Keeps operations left (Calm []) (issue request) := by
  refine keeps_issue fun l s calm => ⟨?_, fun answer after moved => ?_⟩
  · change s.Permits request.role
    rw [roleOf]
    trivial
  · have becomes := moved.2
    simp only [Sessions.next, roleOf] at becomes
    subst becomes
    exact ⟨calm.idle, nofun⟩

theorem starting {request : CryptokiCall} {sizeOf : KeySizes → ResultSize} (calm : Calm known l s)
    (roleOf : request.role = .start session operation sizeOf) (same : sizeOf s.keys = size)
    {post : Except Label request.Answer → Locals → Sessions → Prop}
    (next : ∀ answer after, Started session operation size known (code ⟨request, answer⟩) l after →
      post (.ok answer) l after) : (issue request).wp operations post l s := by
  obtain ⟨idle, sizes⟩ := calm
  refine ⟨?_, fun answer after moved => next answer after ?_⟩
  · change s.Permits request.role
    rw [roleOf, Sessions.Permits, idle]
  · have becomes := moved.2
    simp only [Sessions.next, roleOf, same] at becomes
    constructor
    · intro succeeded
      rw [if_pos succeeded] at becomes
      subst becomes
      refine ⟨?_, sizes⟩
      rw [Sessions.enter, idle]
    · intro failed
      rw [if_neg failed] at becomes
      subst becomes
      exact ⟨idle, sizes⟩

/-- The result fits, so the call ends the operation whatever it returns. -/
theorem finishing {request : CryptokiCall} {inputLength capacity : Nat}
    (roleOf : request.role = .finish session operation inputLength capacity)
    (fits : ¬size.Exceeds inputLength capacity) :
    Carries operations left (Running session operation size known)
      (fun answer l s => Calm known l s ∧
        (code ⟨request, answer⟩ = ckrOk → resultLength ⟨request, answer⟩ ≤ capacity))
      (issue request) := by
  intro l s running
  refine ⟨?_, fun answer after moved => ?_⟩
  · change s.Permits request.role
    rw [roleOf]
    exact running.permitted
  · obtain ⟨conforms, becomes⟩ := moved
    simp only [Sessions.Conforms, roleOf] at conforms
    have accepted : code ⟨request, answer⟩ ≠ ckrBufferTooSmall :=
      fun refused => fits (conforms.1 refused size running.active)
    simp only [Sessions.next, roleOf, if_neg accepted] at becomes
    subst becomes
    exact ⟨running.leave, conforms.2⟩

theorem ending {request : CryptokiCall} {inputLength capacity : Nat}
    (roleOf : request.role = .finish session operation inputLength capacity)
    (fits : ¬size.Exceeds inputLength capacity) :
    Carries operations left (Running session operation size known) (fun _ => Calm known)
      (issue request) :=
  (finishing roleOf fits).weaken fun _ _ _ ended => ended.1

theorem checking {name : String} {rv : CkRv}
    (failing : ∀ l s, Calm known l s → left .cleanup l s) :
    Keeps operations left (Calm known) (ckCheck name rv) :=
  keeps_ckCheck operations_quiet fun l s calm => failing l.fail s (calm_fail calm)

theorem requiring {label : Label} {failure : String} {rv : CkRv}
    (failing : ∀ l s, Calm known l s → left label l s) :
    Keeps operations left (Calm known) (requireOk label failure rv) :=
  keeps_requireOk operations_quiet fun l s calm => failing l.fail s (calm_fail calm)

/-- `CK_CHECK` of an `Init` call. -/
theorem checking_started {name : String} {rv : CkRv}
    (failing : ∀ l s, Calm known l s → left .cleanup l s) :
    Carries operations left (Started session operation size known rv)
      (fun _ => Running session operation size known) (ckCheck name rv) :=
  carries_ckCheck operations_quiet (fun succeeded _ _ started => started.1 succeeded)
    fun failed l s started => failing l.fail s (calm_fail (started.2 failed))

theorem skipping_started {label : Label} {skipped : String} {rv : CkRv}
    (skip : ∀ l s, Calm known l s → left label l s) :
    Carries operations left (Started session operation size known rv)
      (fun _ => Running session operation size known) (skipUnlessOk label skipped rv) :=
  carries_skipUnlessOk operations_quiet (fun succeeded _ _ started => started.1 succeeded)
    fun failed l s started => skip l s (started.2 failed)

theorem marking {text : String} : Keeps operations left (Calm known) (markFailed text) :=
  carries_markFailed operations_quiet fun _ _ => calm_fail

theorem startingSign {h : HandleVar} {mechanism : Mechanism}
    (sizes : ∀ l s, Calm known l s →
      signatureSize mechanism.mechanism (s.keys (l.handles h)) = size) :
    Carries operations left (Calm known) (Started session .sign size known)
      (signInit session mechanism h) :=
  .inspecting fun l s calm => starting calm rfl (sizes l s calm) fun _ _ started => started

theorem startingEncrypt {h : HandleVar} {mechanism : Mechanism}
    (sizes : ∀ l s, Calm known l s →
      ciphertextSize mechanism.mechanism (s.keys (l.handles h)) = size) :
    Carries operations left (Calm known) (Started session .encrypt size known)
      (encryptInit session mechanism h) :=
  .inspecting fun l s calm => starting calm rfl (sizes l s calm) fun _ _ started => started

theorem startingVerify {h : HandleVar} {mechanism : Mechanism} :
    Carries operations left (Calm known) (Started session .verify (.fixed 0) known)
      (verifyInit session mechanism h) :=
  .inspecting fun _ _ calm => starting calm rfl rfl fun _ _ started => started

theorem startingDecrypt {h : HandleVar} {mechanism : Mechanism} :
    Carries operations left (Calm known) (Started session .decrypt .input known)
      (decryptInit session mechanism h) :=
  .inspecting fun _ _ calm => starting calm rfl rfl fun _ _ started => started

theorem verifying {data sig : Der.Bytes} {sigLen : Nat} :
    Carries operations left (Running session .verify (.fixed 0) known) (fun _ => Calm known)
      (issue (.verify session data sig sigLen)) :=
  ending rfl (Nat.not_lt_zero 0)

theorem once_started {rv : CkRv} (succeeded : rv = ckrOk) {Value : Type} {body : Body Value}
    {ends : Value → Locals → Sessions → Prop}
    (carried : Carries operations left (Running session operation size known) ends body) :
    Carries operations left (Started session operation size known rv) ends body :=
  fun l s started => carried l s (started.1 succeeded)

theorem verifyInitAndVerify_calm {h : HandleVar} {mechanism : Mechanism} {data : Der.Bytes}
    {capacity : Nat} {sig : Output capacity} :
    Keeps operations left (Calm known) (verifyInitAndVerify session mechanism h data sig) := by
  refine .bind startingVerify fun rv => ?_
  refine .ite (fun succeeded => ?_) fun failed => ?_
  · exact once_started succeeded verifying
  · exact .returning fun _ _ started => started.2 failed

/-- A key pair of known size. -/
theorem pairing {mechanism : Mechanism} {publicTemplate privateTemplate : Template}
    {phPub phPriv : HandleVar} {key : KeySize} (keyOf : keySize publicTemplate = some key)
    (apart : phPub ≠ phPriv) :
    Carries operations left (Calm [])
      (fun rv l s => Calm [] l s ∧ (rv = ckrOk → Calm [(phPriv, key), (phPub, key)] l s))
      (generateKeyPair session mechanism publicTemplate privateTemplate phPub phPriv) := by
  intro l s calm
  refine wp_bind.mpr ⟨trivial, fun pair after moved => ?_⟩
  obtain rfl := moved.2
  refine ⟨⟨calm.idle, nofun⟩, fun succeeded => ⟨calm.idle, ?_⟩⟩
  have learnt : sized ⟨.generateKeyPair session mechanism publicTemplate privateTemplate, pair⟩ =
      [(pair.hPub, some key), (pair.hPriv, some key)] := by
    rw [sized, if_pos succeeded, keyOf]
  simp only [Sessions.next, CryptokiCall.role, Sessions.learn, learnt, List.foldl_cons,
    List.foldl_nil, List.forall_mem_cons, Locals.setHandle_self, Function.update_self, true_and]
  refine ⟨?_, nofun⟩
  rw [Locals.setHandle_other apart, Locals.setHandle_self, Function.update_apply]
  split
  · rfl
  · exact Function.update_self ..

theorem declaring {h : HandleVar} : Keeps operations left (Calm []) (declare h) :=
  keeps_declare calm_free

theorem destroying {h : HandleVar} : Keeps operations left (Calm []) (destroy session h) :=
  keeps_destroy calm_free fun _ => besides rfl

theorem generating {mechanism : Mechanism} {template : Template} {h : HandleVar} :
    Keeps operations left (Calm []) (generateKey session mechanism template h) :=
  keeps_generateKey calm_free (besides rfl)

theorem creating {template : Template} {h : HandleVar} :
    Keeps operations left (Calm []) (createObject session template h) :=
  keeps_createObject calm_free (besides rfl)

theorem derivingKey {mechanism : Mechanism} {base : HandleVar} {template : Template}
    {h : HandleVar} :
    Keeps operations left (Calm []) (deriveKey session mechanism base template h) :=
  keeps_deriveKey calm_free fun _ => besides rfl

theorem reading {h : HandleVar} {type : AttributeType} {capacity : Nat} :
    Keeps operations left invariant (getAttributeValue session h type capacity) :=
  .reading fun _ => aside rfl fun _ => rfl

theorem exporting {h : HandleVar} {type : AttributeType} {capacity : Nat} {label : String} :
    Keeps operations left invariant (exportAndPrint session h type capacity label) :=
  keeps_exportAndPrint operations_quiet reading

theorem skipping {label : Label} {skipped : String} {rv : CkRv}
    (skip : ∀ l s, Calm known l s → left label l s) :
    Keeps operations left (Calm known) (skipUnlessOk label skipped rv) :=
  keeps_skipUnlessOk operations_quiet skip

theorem searching {maxObjectCount : Nat} :
    Keeps operations left (Running session .search size known)
      (issue (.findObjects session maxObjectCount)) := by
  refine keeps_issue fun l s running => ⟨running.permitted, fun answer after moved => ?_⟩
  obtain rfl := moved.2
  exact running

theorem endingSearch :
    Carries operations left (Running session .search size known) (fun _ => Calm known)
      (issue (.findObjectsFinal session)) := by
  intro l s running
  refine ⟨running.permitted, fun answer after moved => ?_⟩
  obtain rfl := moved.2
  exact running.leave

end Operating

/-- Started with no operation active, the program makes only legal calls and ends so. -/
def EndsIdle (program : Program cryptoki Int) : Prop :=
  ∀ s, s.Idle → program.wp operations (fun _ => Sessions.Idle) s

section Demos

open Operating

variable {session : SessionHandle} {left : Label → Locals → Sessions → Prop}
  {known : List (HandleVar × KeySize)}

theorem endsIdle_demo {heading : String} {body : Body Unit} {released : List HandleVar}
    (carried : Keeps operations (fun _ => Calm []) (Calm []) body) :
    EndsIdle (demo session heading body released) :=
  fun _ idle => demo_wp operations_quiet ⟨idle, nofun⟩ carried
    ((Carries.forM fun _ _ => destroying).weaken fun _ _ _ calm => calm.idle)

theorem calm_lists : Lists operations left (Calm []) where
  cell _ _ := besides rfl
  slotInfo _ := besides rfl
  tokenInfo _ := besides rfl
  counting _ := besides rfl
  filling _ _ := besides rfl

theorem printObject_calm {handles : Vector (Option Nat) 64} {i : Nat} :
    Keeps operations left (Calm []) (printObject session handles i) := by
  refine .bind (keeps_readCell fun _ => besides rfl) fun _ => ?_
  refine .bind (besides rfl) fun answer => ?_
  exact printing

theorem endsIdle_runModuleInfo : EndsIdle (runModuleInfo session) := by
  have stays : ∀ l s, Calm [] l s → Calm [] l s := fun _ _ => id
  refine endsIdle_demo ?_
  refine .bind (besides rfl) fun answer => ?_
  refine .bind (checking stays) fun _ => ?_
  refine .bind printing fun _ => ?_
  refine .bind printing fun _ => ?_
  refine .bind printing fun _ => ?_
  refine .bind printing fun _ => ?_
  refine .bind (besides rfl) fun answer => ?_
  refine .bind (checking stays) fun _ => ?_
  refine .bind printing fun _ => ?_
  refine .bind (besides rfl) fun answer => ?_
  refine .bind (checking stays) fun _ => ?_
  refine .bind printing fun _ => ?_
  refine .ite (fun _ => ?_) fun _ => ?_
  · refine .bind printing fun _ => ?_
    exact .jumping stays
  refine .bind (besides rfl) fun answer => ?_
  refine .bind (checking stays) fun _ => ?_
  refine .bind (.forM fun _ _ => keeps_printSlot operations_quiet calm_lists) fun _ => ?_
  have starts : Carries operations (fun _ => Calm []) (Calm [])
      (fun rv => Started session .search .unknown [] rv) (issue (.findObjectsInit session)) :=
    fun _ _ calm => starting calm rfl rfl fun _ _ started => started
  refine .bind printing fun _ => ?_
  refine .bind starts fun _ => ?_
  refine .bind (checking_started stays) fun _ => ?_
  refine .bind searching fun _ => ?_
  refine .bind endingSearch fun _ => ?_
  refine .bind printing fun _ => ?_
  refine .forM fun _ _ => ?_
  exact printObject_calm

theorem endsIdle_runRandomGen : EndsIdle (runRandomGen session) := by
  refine endsIdle_demo ?_
  refine .forM fun _ _ => ?_
  refine .bind (besides rfl) fun random => ?_
  refine .bind (checking fun _ _ => id) fun _ => ?_
  exact printingHex

theorem digestAlgs_fit {inputLength : Nat} :
    ∀ alg ∈ digestAlgs, ¬(digestSize alg.1).Exceeds inputLength 64 := by
  simp only [digestAlgs, List.forall_mem_cons, digestSize, ResultSize.Exceeds]
  exact ⟨by decide, by decide, by decide, by decide, by decide, nofun⟩

theorem endsIdle_runDigest : EndsIdle (runDigest session) := by
  have stays : ∀ l s, Calm [] l s → Calm [] l s := fun _ _ => id
  refine endsIdle_demo ?_
  refine .forM fun alg member => ?_
  refine .upTo ?_ stays fun _ _ => stays
  have starts : Carries operations (fun _ => Calm []) (Calm [])
      (fun rv => Started session .digest (digestSize alg.1) [] rv)
      (issue (.digestInit session ⟨alg.1, .null⟩)) :=
    fun _ _ calm => starting calm rfl rfl fun _ _ started => started
  refine .bind starts fun _ => ?_
  refine .bind (skipping_started stays) fun _ => ?_
  refine .bind (ending rfl (digestAlgs_fit alg member)) fun _ => ?_
  refine .bind (requiring stays) fun _ => ?_
  exact printingHex

theorem makeAndDestroy_calm {heading : String} {h : HandleVar} {name : String} {make : Body CkRv}
    {inspect : Body Unit} (makes : Keeps operations (fun _ => Calm []) (Calm []) make)
    (inspects : Keeps operations (fun _ => Calm []) (Calm []) inspect) :
    Keeps operations (fun _ => Calm []) (Calm [])
      (makeAndDestroy session heading h name make inspect) :=
  keeps_makeAndDestroy operations_quiet calm_free (fun _ _ => calm_fail) makes inspects
    fun _ => besides rfl

theorem endsIdle_runSymKeyGen : EndsIdle (runSymKeyGen session) := by
  refine endsIdle_demo ?_
  refine .bind (.forM fun bits _ => ?_) fun _ => ?_
  · exact makeAndDestroy_calm generating showing
  · exact makeAndDestroy_calm generating showing

theorem endsIdle_runImportObject : EndsIdle (runImportObject session) := by
  refine endsIdle_demo ?_
  refine .bind (makeAndDestroy_calm creating showing) fun _ => ?_
  refine .bind (makeAndDestroy_calm creating showing) fun _ => ?_
  refine makeAndDestroy_calm creating ?_
  refine .bind showing fun _ => ?_
  exact exporting

theorem curves_fit : ∀ curve ∈ curves, ∃ bits, curveBits curve.ecParams = some bits ∧
    signatureSize curve.signMech (some (.ec bits)) = .fixed (2 * octets bits) ∧
    2 * octets bits ≤ 132 := by
  simp only [curves, List.forall_mem_cons]
  exact ⟨⟨256, by decide⟩, ⟨384, by decide⟩, ⟨521, by decide⟩, nofun⟩

theorem signAndVerifyEcc_calm {signMech : MechanismType} {key : KeySize} {length : Nat}
    (size : signatureSize signMech (some key) = .fixed length) (fits : length ≤ 132)
    (member : (.hPriv, key) ∈ known) (next : ∀ l s, Calm known l s → left .next l s) :
    Keeps operations left (Calm known) (signAndVerifyEcc session signMech) := by
  have sizes : ∀ l s, Calm known l s →
      signatureSize signMech (s.keys (l.handles .hPriv)) = .fixed length :=
    fun l s calm => (congrArg (signatureSize signMech) (calm.sizes _ member)).trans size
  refine .bind (startingSign sizes) fun rv => ?_
  refine .bind (skipping_started next) fun _ => ?_
  refine .bind (ending rfl (Nat.not_lt_of_ge fits)) fun _ => ?_
  refine .bind (requiring next) fun _ => ?_
  refine .bind printingHex fun _ => ?_
  refine .bind verifyInitAndVerify_calm fun rv => ?_
  refine .bind (requiring next) fun _ => ?_
  exact printing

theorem eccRound_calm {curve : Curve} (member : curve ∈ curves) :
    Keeps operations (fun _ => Calm []) (Calm []) (eccRound session curve) := by
  obtain ⟨bits, bitsOf, size, fits⟩ := curves_fit curve member
  have keyOf : keySize [.token true, .verify true, .ecParams curve.ecParams, .label curve.label,
      .id curve.id] = some (.ec bits) := by
    simp only [keySize, List.findSome?_cons, Attribute.keySize, bitsOf, Option.map_some]
  refine .bind declaring fun _ => ?_
  refine .bind declaring fun _ => ?_
  refine .bind printing fun _ => ?_
  refine .bind (pairing keyOf (by decide)) fun rv => ?_
  have made : Carries operations (fun _ => Calm [])
      (fun l s => Calm [] l s ∧ (rv = ckrOk → Calm [(.hPriv, .ec bits), (.hPub, .ec bits)] l s))
      (fun _ => Calm [(.hPriv, .ec bits), (.hPub, .ec bits)])
      (skipUnlessOk .loopEnd "    [SKIP] C_GenerateKeyPair: " rv) :=
    carries_skipUnlessOk operations_quiet (fun succeeded _ _ made => made.2 succeeded)
      fun _ _ _ made => made.1
  refine .bind made fun _ => ?_
  refine .bind showing fun _ => ?_
  refine .bind exporting fun _ => ?_
  have inner : Keeps operations (fun _ => Calm [(.hPriv, .ec bits), (.hPub, .ec bits)])
      (Calm [(.hPriv, .ec bits), (.hPub, .ec bits)]) (signAndVerifyEcc session curve.signMech) :=
    signAndVerifyEcc_calm size fits List.mem_cons_self fun _ _ => id
  have signed : Carries operations (fun _ => Calm [])
      (Calm [(.hPriv, .ec bits), (.hPub, .ec bits)]) (fun _ => Calm [])
      ((signAndVerifyEcc session curve.signMech).upTo .next) :=
    .upTo (inner.weaken fun _ _ _ => calm_forget) (fun _ _ => calm_forget)
      fun _ _ _ _ => calm_forget
  refine .bind signed fun _ => ?_
  refine .bind destroying fun _ => ?_
  exact destroying

theorem endsIdle_runEcc : EndsIdle (runEcc session) := by
  refine endsIdle_demo ?_
  refine .forM fun curve member => ?_
  exact .upTo (eccRound_calm member) (fun _ _ => id) fun _ _ _ _ => id

theorem pkcs1SignAndVerify_calm (member : (.hPriv, .rsa 2048) ∈ known)
    (failing : ∀ l s, Calm known l s → left .cleanup l s) :
    Keeps operations left (Calm known) (pkcs1SignAndVerify session) := by
  have sizes : ∀ l s, Calm known l s →
      signatureSize .sha256RsaPkcs (s.keys (l.handles .hPriv)) = .fixed 256 :=
    fun l s calm => congrArg (signatureSize .sha256RsaPkcs) (calm.sizes _ member)
  refine .bind printing fun _ => ?_
  refine .bind (startingSign sizes) fun rv => ?_
  refine .bind (checking_started failing) fun _ => ?_
  refine .bind (ending rfl (Nat.lt_irrefl 256)) fun _ => ?_
  refine .bind (checking failing) fun _ => ?_
  refine .bind printingHex fun _ => ?_
  refine .bind startingVerify fun rv => ?_
  refine .bind (checking_started failing) fun _ => ?_
  refine .bind verifying fun rv => ?_
  refine .bind (checking failing) fun _ => ?_
  exact printing

theorem pssSignAndVerify_calm (member : (.hPriv, .rsa 2048) ∈ known)
    (failing : ∀ l s, Calm known l s → left .cleanup l s) :
    Keeps operations left (Calm known) (pssSignAndVerify session) := by
  have sizes : ∀ l s, Calm known l s →
      signatureSize .sha256RsaPkcsPss (s.keys (l.handles .hPriv)) = .fixed 256 :=
    fun l s calm => congrArg (signatureSize .sha256RsaPkcsPss) (calm.sizes _ member)
  refine .bind printing fun _ => ?_
  refine .bind (startingSign sizes) fun rv => ?_
  refine .bind (skipping_started failing) fun _ => ?_
  refine .bind (ending rfl (Nat.lt_irrefl 256)) fun _ => ?_
  refine .bind (requiring failing) fun _ => ?_
  refine .bind printingHex fun _ => ?_
  refine .bind verifyInitAndVerify_calm fun rv => ?_
  refine .bind (requiring failing) fun _ => ?_
  exact printing

/-- The pair of a successful generation is of the size the template asks for. -/
theorem checking_pair {name : String} {rv : CkRv} {phPub phPriv : HandleVar} {key : KeySize} :
    Carries operations (fun _ => Calm [])
      (fun l s => Calm [] l s ∧ (rv = ckrOk → Calm [(phPriv, key), (phPub, key)] l s))
      (fun _ => Calm [(phPriv, key), (phPub, key)]) (ckCheck name rv) :=
  carries_ckCheck operations_quiet (fun succeeded _ _ made => made.2 succeeded)
    fun _ _ _ made => calm_fail made.1

theorem skipping_pair {label : Label} {skipped : String} {rv : CkRv} {phPub phPriv : HandleVar}
    {key : KeySize} :
    Carries operations (fun _ => Calm [])
      (fun l s => Calm [] l s ∧ (rv = ckrOk → Calm [(phPriv, key), (phPub, key)] l s))
      (fun _ => Calm [(phPriv, key), (phPub, key)]) (skipUnlessOk label skipped rv) :=
  carries_skipUnlessOk operations_quiet (fun succeeded _ _ made => made.2 succeeded)
    fun _ _ _ made => made.1

theorem endsIdle_runRsa : EndsIdle (runRsa session) := by
  have forget : ∀ l s, Calm [(.hPriv, .rsa 2048), (.hPub, .rsa 2048)] l s → Calm [] l s :=
    fun _ _ => calm_forget
  refine endsIdle_demo ?_
  refine .bind printing fun _ => ?_
  refine .bind (pairing rfl (by decide)) fun rv => ?_
  refine .bind checking_pair fun _ => ?_
  refine .bind showing fun _ => ?_
  refine .bind exporting fun _ => ?_
  refine .bind (pkcs1SignAndVerify_calm List.mem_cons_self forget) fun _ => ?_
  exact (pssSignAndVerify_calm List.mem_cons_self forget).weaken fun _ => forget

theorem hmacAlgs_fit : ∀ alg ∈ hmacAlgs, ∃ length, (∀ key, signatureSize alg.1 key = .fixed length) ∧
    length ≤ 64 := by
  simp only [hmacAlgs, List.forall_mem_cons]
  exact ⟨⟨20, fun _ => rfl, by decide⟩, ⟨32, fun _ => rfl, by decide⟩, ⟨48, fun _ => rfl, by decide⟩,
    ⟨64, fun _ => rfl, by decide⟩, nofun⟩

theorem endsIdle_runHmac : EndsIdle (runHmac session) := by
  have stays : ∀ l s, Calm [] l s → Calm [] l s := fun _ _ => id
  refine endsIdle_demo ?_
  refine .bind creating fun rv => ?_
  refine .bind (checking stays) fun _ => ?_
  refine .bind showing fun _ => ?_
  refine .forM fun alg member => ?_
  refine .upTo ?_ stays fun _ _ => stays
  obtain ⟨length, size, fits⟩ := hmacAlgs_fit alg member
  refine .bind (startingSign fun _ _ _ => size _) fun rv => ?_
  refine .bind (skipping_started stays) fun _ => ?_
  refine .bind (ending rfl (Nat.not_lt_of_ge fits)) fun _ => ?_
  refine .bind (requiring stays) fun _ => ?_
  refine .bind printingHex fun _ => ?_
  refine .bind verifyInitAndVerify_calm fun rv => ?_
  refine .bind (requiring stays) fun _ => ?_
  exact printing

theorem ecdhKeyPair_calm {label : String} {id : Der.Bytes} {phPub phPriv : HandleVar} :
    Keeps operations left (Calm []) (ecdhKeyPair session label id phPub phPriv) :=
  keeps_generateKeyPair calm_free (besides rfl)

theorem endsIdle_runEcdhDerive : EndsIdle (runEcdhDerive session) := by
  have stays : ∀ l s, Calm [] l s → Calm [] l s := fun _ _ => id
  have exported : Keeps operations (fun _ => Calm []) (Calm []) (exportAliceSecret session) := by
    refine .bind showing fun _ => ?_
    refine .bind reading fun shared1 => ?_
    have printed : Keeps operations (fun _ => Calm []) (Calm []) (printAliceSecret shared1) := by
      refine .ite (fun exported => ?_) fun hidden => ?_
      · exact printingHex
      · exact printing
    refine .bind printed fun _ => ?_
    exact .returning stays
  have compared : ∀ shared1, Keeps operations (fun _ => Calm []) (Calm [])
      (compareSecrets session shared1) := by
    intro shared1
    refine .bind showing fun _ => ?_
    refine .bind reading fun shared2 => ?_
    refine .ite (fun exported => ?_) fun hidden => ?_
    · refine .bind printingHex fun _ => ?_
      refine .ite (fun agreed => ?_) fun differs => ?_
      · exact printing
      · exact printing
    · exact printing
  refine endsIdle_demo ?_
  refine .bind ecdhKeyPair_calm fun _ => ?_
  refine .bind (checking stays) fun _ => ?_
  refine .bind showing fun _ => ?_
  refine .bind ecdhKeyPair_calm fun _ => ?_
  refine .bind (checking stays) fun _ => ?_
  refine .bind showing fun _ => ?_
  refine .bind reading fun value => ?_
  refine .bind (checking stays) fun _ => ?_
  refine .bind printingHex fun _ => ?_
  refine .bind reading fun value => ?_
  refine .bind (checking stays) fun _ => ?_
  refine .bind derivingKey fun rv => ?_
  refine .bind (skipping stays) fun _ => ?_
  refine .bind exported fun _ => ?_
  refine .bind derivingKey fun rv => ?_
  refine .bind (skipping stays) fun _ => ?_
  exact compared _

/-- The ciphertext a successful encryption gives fits its buffer, so the plaintext does. -/
theorem aesDecrypt_calm {mode : CipherMode} {ct : Output 64} (short : ct.length ≤ 64) :
    Keeps operations (fun _ => Calm []) (Calm []) (aesDecrypt session mode ct) := by
  refine .bind startingDecrypt fun rv => ?_
  refine .bind (checking_started fun _ _ => id) fun _ => ?_
  refine .bind (ending rfl (Nat.not_lt_of_ge short)) fun _ => ?_
  refine .bind (checking fun _ _ => id) fun _ => ?_
  refine .ite (fun _ => ?_) fun _ => ?_
  · exact printing
  · refine .bind marking fun _ => ?_
    exact .jumping fun _ _ => id

theorem aesRoundtrip_calm {mode : CipherMode}
    (size : ∀ key, ciphertextSize mode.mechanism.mechanism key = .input) :
    Keeps operations (fun _ => Calm []) (Calm []) (aesRoundtrip session mode) := by
  have fits : ¬ResultSize.input.Exceeds plain16.length 64 := Nat.not_lt_of_ge (by decide)
  refine .bind printing fun _ => ?_
  refine .bind (startingEncrypt fun _ _ _ => size _) fun rv => ?_
  refine .bind (checking_started fun _ _ => id) fun _ => ?_
  refine .bind (finishing rfl fits) fun ct => ?_
  have checked : Carries operations (fun _ => Calm [])
      (fun l s => Calm [] l s ∧ (ct.rv = ckrOk → ct.length ≤ 64))
      (fun _ l s => Calm [] l s ∧ ct.length ≤ 64)
      (ckCheck "p11->C_Encrypt(session, (CK_BYTE_PTR)kPlain16, sizeof(kPlain16), ct, &ctLen)" ct.rv) :=
    carries_ckCheck operations_quiet (fun succeeded _ _ ended => ⟨ended.1, ended.2 succeeded⟩)
      fun _ _ _ ended => calm_fail ended.1
  refine .bind checked fun _ => ?_
  refine .bind printingHex fun _ => ?_
  exact fun l s ended => aesDecrypt_calm ended.2 l s ended.1

theorem oaepDecrypt_calm {rsaCt : Output 256} (short : rsaCt.length ≤ 256) :
    Keeps operations left (Calm known) (oaepDecrypt session rsaCt) := by
  refine .bind startingDecrypt fun decrypting => ?_
  refine .ite (fun succeeded => ?_) fun failed => ?_
  · have decrypted : Carries operations left (Started session .decrypt .input known decrypting)
        (fun _ => Calm known)
        (issue (.decrypt session rsaCt.buffer.toList rsaCt.length 256)) :=
      once_started succeeded (ending rfl (Nat.not_lt_of_ge short))
    refine .bind decrypted fun _ => ?_
    refine .ite (fun refused => ?_) fun decrypted => ?_
    · exact marking
    · refine .ite (fun same => ?_) fun differs => ?_
      · exact printing
      · exact marking
  · exact fun l s started => marking l s (started.2 failed)

theorem oaepRoundtrip_calm (member : (.hRsaPub, .rsa 2048) ∈ known) :
    Keeps operations left (Calm known) (oaepRoundtrip session) := by
  have sizes : ∀ l s, Calm known l s →
      ciphertextSize .rsaPkcsOaep (s.keys (l.handles .hRsaPub)) = .fixed 256 :=
    fun l s calm => congrArg (ciphertextSize .rsaPkcsOaep) (calm.sizes _ member)
  refine .bind (startingEncrypt sizes) fun encrypting => ?_
  refine .ite (fun failed => ?_) fun succeeded => ?_
  · exact fun l s started => printing l s (started.2 failed)
  · have encrypted : Carries operations left
        (Started session .encrypt (.fixed 256) known encrypting)
        (fun rsaCt l s => Calm known l s ∧ (rsaCt.rv = ckrOk → rsaCt.length ≤ 256))
        (issue (.encrypt session plain 256)) :=
      once_started (not_not.mp succeeded) (finishing rfl (Nat.lt_irrefl 256))
    refine .bind encrypted fun rsaCt => ?_
    refine .ite (fun failed => ?_) fun succeeded => ?_
    · exact fun l s ended => marking l s ended.1
    · refine .bind printingHex fun _ => ?_
      exact fun l s ended => oaepDecrypt_calm (ended.2 (not_not.mp succeeded)) l s ended.1

theorem rsaOaep_calm : Keeps operations (fun _ => Calm []) (Calm []) (rsaOaep session) := by
  refine .bind printing fun _ => ?_
  refine .bind declaring fun _ => ?_
  refine .bind declaring fun _ => ?_
  refine .bind printing fun _ => ?_
  refine .bind (pairing rfl (by decide)) fun rv => ?_
  refine .bind skipping_pair fun _ => ?_
  refine .bind showing fun _ => ?_
  have crypted : Carries operations (fun _ => Calm [])
      (Calm [(.hRsaPriv, .rsa 2048), (.hRsaPub, .rsa 2048)]) (fun _ => Calm [])
      (oaepRoundtrip session) :=
    (oaepRoundtrip_calm (by decide)).weaken fun _ _ _ => calm_forget
  refine .bind crypted fun _ => ?_
  refine .bind destroying fun _ => ?_
  exact destroying

theorem endsIdle_runEncryptDecrypt : EndsIdle (runEncryptDecrypt session) := by
  refine endsIdle_demo ?_
  refine .bind generating fun rv => ?_
  refine .bind (checking fun _ _ => id) fun _ => ?_
  refine .bind showing fun _ => ?_
  refine .bind (aesRoundtrip_calm fun _ => rfl) fun _ => ?_
  refine .bind (aesRoundtrip_calm fun _ => rfl) fun _ => ?_
  refine .bind destroying fun _ => ?_
  exact rsaOaep_calm

theorem endsIdle_demos : ∀ entry ∈ demos session, EndsIdle entry.2 := by
  simp only [demos, List.forall_mem_cons]
  exact ⟨endsIdle_runModuleInfo, endsIdle_runRandomGen, endsIdle_runDigest, endsIdle_runSymKeyGen,
    endsIdle_runImportObject, endsIdle_runEcc, endsIdle_runRsa, endsIdle_runEcdhDerive,
    endsIdle_runHmac, endsIdle_runEncryptDecrypt, nofun⟩

end Demos

section Suite

variable {session : SessionHandle} {s : Sessions}

theorem endsIdle_runAll {suite : List (String × Program cryptoki Int)}
    (each : ∀ entry ∈ suite, EndsIdle entry.2) {rc : Int} : EndsIdle (runAll suite rc) :=
  fun _ idle => runAll_wp operations_quiet each idle

theorem endsIdle_inSession : EndsIdle (inSession session) := by
  intro s idle
  refine inSession_wp operations_quiet (endsIdle_runAll endsIdle_demos s idle) ?_
  intro rc after still
  refine ⟨trivial, fun _ closed moved => ?_⟩
  obtain rfl := moved.2
  refine funext fun slot => ?_
  change (if slot.1 = session then none else after.active slot) = none
  rw [still, ite_self]

theorem endsIdle_inModule : EndsIdle inModule := by
  intro s idle
  refine call_wp (inert_other rfl fun _ => rfl) fun slotCount => ?_
  split
  · exact call_wp (inert_other rfl fun _ => rfl) fun _ =>
      call_wp (inert_other rfl fun _ => rfl) fun _ => idle
  · refine call_wp (inert_other rfl fun _ => rfl) fun slots => ?_
    refine readCell_wp (fun _ => inert_other rfl fun _ => rfl) fun slot => ?_
    refine call_wp (operations_quiet s _) fun _ => ?_
    refine call_wp (inert_other rfl fun _ => rfl) fun opened => ?_
    split
    · exact call_wp (inert_other rfl fun _ => rfl) fun _ => idle
    · exact endsIdle_inSession s idle

theorem idle_kept {request : CryptokiCall} (roleOf : request.role = .other)
    (makesNone : ∀ answer, sized ⟨request, answer⟩ = []) :
    Kept operations Sessions.Idle request :=
  .of_inert fun _ _ => inert_other roleOf makesNone

theorem idle_surrounds : Surrounds operations Sessions.Idle Sessions.Idle (fun _ => Sessions.Idle)
    (fun _ => Sessions.Idle) where
  loading _ := idle_kept rfl fun _ => rfl
  resolving _ := idle_kept rfl fun _ => rfl
  listing := idle_kept rfl fun _ => rfl
  printing _ := idle_kept rfl fun _ => rfl
  reporting _ := idle_kept rfl fun _ => rfl
  initializing := Kept.initializing (idle_kept rfl fun _ => rfl)
  refused _ idle := idle
  finalizing _ := @idle_kept .cFinalize rfl fun _ => rfl
  unloading _ := idle_kept rfl fun _ => rfl

theorem endsIdle_main {argv : List String} : EndsIdle (main argv) :=
  fun _ idle => idle_surrounds.main_wp endsIdle_inModule idle

/-- Against every conforming module, a run that starts with no operation active makes only
legal calls and ends with none active. -/
def Undisturbed (program : Program cryptoki Int) : Prop :=
  ∀ first trace rc last, first.Idle → program.Runs trace rc → operations.History first trace last →
    operations.Accepts first trace last ∧ last.Idle

theorem EndsIdle.undisturbed {program : Program cryptoki Int} (ends : EndsIdle program) :
    Undisturbed program := by
  intro first trace rc last idle run history
  exact ⟨run.accepted (ends first idle) history, run.ensures (ends first idle) history⟩

/-- The suite as a whole, each of its demos, and the demos up to any point. -/
theorem operations_undisturbed :
    (∀ argv, Undisturbed (main argv)) ∧
      ∀ session, (∀ entry ∈ demos session, Undisturbed entry.2) ∧
        ∀ count, Undisturbed (runAll ((demos session).take count) 0) := by
  refine ⟨fun argv => endsIdle_main.undisturbed, fun session => ⟨?_, fun count => ?_⟩⟩
  · exact fun entry member => (endsIdle_demos entry member).undisturbed
  · refine (endsIdle_runAll fun entry member => ?_).undisturbed
    exact endsIdle_demos entry (List.mem_of_mem_take member)

/-- Every decryption is refused. -/
def refusingModule : Server cryptoki ModuleState := fun s request =>
  match request with
  | .decrypt _ _ _ capacity => (⟨0x40, Vector.replicate capacity 0, 0⟩, s)
  | other => exampleModule (fun _ => 7) s other

theorem refusingModule_conforms :
    operations.KeptBy refusingModule fun _ _ => True := by
  intro s sessions request _
  refine ⟨_, ⟨?_, rfl⟩, trivial⟩
  cases request <;>
    simp [Sessions.Conforms, CryptokiCall.role, code, resultLength, refusingModule, exampleModule,
      filled, ckrOk, ckrBufferTooSmall]

theorem operations_undisturbed_refusing :
    ∃ last : Sessions, operations.Accepts .start
      ((main ["pkcs11_demo"]).transcript refusingModule .start) last ∧ last.Idle := by
  obtain ⟨last, history⟩ := refusingModule_conforms.history trivial
  exact ⟨last, operations_undisturbed.1 _ _ _ _ _ rfl Program.runs_transcript history⟩

end Suite

end Se05x.Pkcs11
