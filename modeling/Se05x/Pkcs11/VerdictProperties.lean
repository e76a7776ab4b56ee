import Se05x.Pkcs11.Reference
import Se05x.Pkcs11.RoomProperties

/-!
# The exit status is the verdict

In every run the suite exits with 1 exactly if the module failed in something it needs. Each
demo's flag tells whether there was a failure since the demo began.
-/

set_option autoImplicit false

namespace Se05x.Pkcs11

open Interaction Procedure

theorem note_opened {seen : Observed} {event : Event cryptoki} (opened : seen.opened = true) :
    (seen.note event).opened = true := by
  unfold Observed.note
  split
  · split
    · rfl
    · exact opened
  · exact opened
  · exact opened
  · exact opened

/-- What holds of the handle variables and the calls so far. -/
abbrev Fact := (HandleVar → ObjectHandle) → Observed → Prop

def Fact.trivial : Fact := fun _ _ => True

structure Agrees (base : Bool) (fact : Fact) (l : Locals) (j : Judgement Observed) : Prop where
  flag : j.failed = (base || decide (l.rc ≠ 0))
  opened : j.memory.opened = true
  fact : fact l.handles j.memory

/-- The flag is still to be set if the last call has failed. -/
structure Owes (base : Bool) (fact : Fact) (bad : Bool) (l : Locals) (j : Judgement Observed) :
    Prop where
  passed : bad = false → Agrees base fact l j
  failed : bad = true → Agrees base fact l.fail j

section

variable {base : Bool} {fact becomes : Fact} {l : Locals} {j : Judgement Observed}

theorem Agrees.forget (agrees : Agrees base fact l j) : Agrees base .trivial l j :=
  ⟨agrees.flag, agrees.opened, True.intro⟩

theorem Agrees.settle {request : CryptokiCall} {answer : request.Answer}
    (agrees : Agrees base fact l j)
    (moves : fact l.handles j.memory → becomes l.handles (j.memory.note ⟨request, answer⟩)) :
    Owes base becomes (j.memory.fails ⟨request, answer⟩) l (verdict.judged j ⟨request, answer⟩) := by
  have opened := @note_opened _ ⟨request, answer⟩ agrees.opened
  refine ⟨fun passed => ⟨?_, opened, moves agrees.fact⟩, fun failed => ⟨?_, opened, moves agrees.fact⟩⟩
  · change (j.failed || j.memory.fails _) = _
    rw [passed, Bool.or_false, agrees.flag]
  · change (j.failed || j.memory.fails _) = _
    rw [failed, Bool.or_true, Locals.fail_rc]
    exact (Bool.or_true base).symm

end

namespace Judging

section Rules

variable {base : Bool} {fact becomes : Fact} {l : Locals} {j : Judgement Observed}
  {left : Label → Locals → Judgement Observed → Prop}

theorem judged_wp {request : CryptokiCall}
    {post : Except Label request.Answer → Locals → Judgement Observed → Prop}
    (next : ∀ answer, post (.ok answer) l (verdict.judged j ⟨request, answer⟩)) :
    (issue request).wp verdict.contract post l j := by
  refine ⟨True.intro, fun answer after moved => ?_⟩
  rw [moved]
  exact next answer

theorem judged_unmoved {event : Event cryptoki} (noted : j.memory.note event = j.memory)
    (passes : j.memory.fails event = false) : verdict.judged j event = j := by
  have memory : verdict.note j.memory event = j.memory := noted
  have flag : verdict.fails j.memory event = false := passes
  rw [Judge.judged, memory, flag, Bool.or_false]

theorem verdict_quiet : Quiet verdict.contract :=
  fun _ _ => ⟨True.intro, fun _ _ moved => moved.trans (judged_unmoved rfl rfl)⟩

/-- A call that cannot count against the module. -/
theorem harmless {request : CryptokiCall}
    (passes : ∀ l j answer, Agrees base fact l j → j.memory.fails ⟨request, answer⟩ = false)
    (moves : ∀ handles seen answer, fact handles seen →
      becomes handles (seen.note ⟨request, answer⟩)) :
    Carries verdict.contract left (Agrees base fact) (fun _ => Agrees base becomes)
      (issue request) :=
  fun l j agrees => judged_wp fun answer =>
    (agrees.settle (moves _ _ answer)).passed (passes l j answer agrees)

/-- A call whose failure counts. -/
theorem vital {request : CryptokiCall} {bad : request.Answer → Bool}
    (counts : ∀ l j answer, Agrees base fact l j → j.memory.fails ⟨request, answer⟩ = bad answer)
    (moves : ∀ handles seen answer, fact handles seen →
      becomes handles (seen.note ⟨request, answer⟩)) :
    Carries verdict.contract left (Agrees base fact) (fun answer => Owes base becomes (bad answer))
      (issue request) := by
  intro l j agrees
  refine judged_wp fun answer => ?_
  have settled := agrees.settle (moves _ _ answer)
  rw [counts l j answer agrees] at settled
  exact settled

theorem uncounted {request : CryptokiCall}
    (passes : ∀ (seen : Observed) answer, seen.fails ⟨request, answer⟩ = false)
    (noted : ∀ (seen : Observed) answer, seen.note ⟨request, answer⟩ = seen) :
    Keeps verdict.contract left (Agrees base fact) (issue request) :=
  harmless (fun _ _ _ _ => passes _ _) fun _ _ _ met => (noted _ _).symm ▸ met

theorem checking {name : String} {rv : CkRv}
    (failing : ∀ l j, Agrees base fact l j → left .cleanup l j) :
    Carries verdict.contract left (Owes base fact (refused rv)) (fun _ => Agrees base fact)
      (ckCheck name rv) :=
  carries_ckCheck verdict_quiet (fun ok _ _ owes => owes.passed (refused_eq_false_iff.mpr ok))
    fun bad _ _ owes => failing _ _ (owes.failed (refused_eq_true_iff.mpr bad))

theorem requiring {label : Label} {failure : String} {rv : CkRv}
    (failing : ∀ l j, Agrees base fact l j → left label l j) :
    Carries verdict.contract left (Owes base fact (refused rv)) (fun _ => Agrees base fact)
      (requireOk label failure rv) :=
  carries_requireOk verdict_quiet (fun ok _ _ owes => owes.passed (refused_eq_false_iff.mpr ok))
    fun bad _ _ owes => failing _ _ (owes.failed (refused_eq_true_iff.mpr bad))

theorem skipping {label : Label} {skipped : String} {rv : CkRv}
    (skip : ∀ l j, Agrees base fact l j → left label l j) :
    Keeps verdict.contract left (Agrees base fact) (skipUnlessOk label skipped rv) :=
  keeps_skipUnlessOk verdict_quiet skip

theorem marking {text : String} {bad : Bool} (failed : bad = true) :
    Carries verdict.contract left (Owes base fact bad) (fun _ => Agrees base fact)
      (markFailed text) :=
  carries_markFailed verdict_quiet fun _ _ owes => owes.failed failed

theorem trivial_free : HandleFree (Agrees base .trivial) :=
  fun _ _ _ _ agrees => ⟨agrees.flag, agrees.opened, True.intro⟩

theorem owes_free {bad : Bool} : HandleFree (Owes base .trivial bad) :=
  fun _ _ _ _ owes => ⟨fun passed => trivial_free _ _ _ _ (owes.passed passed),
    fun failed => trivial_free _ _ _ _ (owes.failed failed)⟩

variable {session : SessionHandle} {h : HandleVar}

theorem printing {text : String} {invariant : Locals → Judgement Observed → Prop} :
    Keeps verdict.contract left invariant (printf text) :=
  keeps_printf verdict_quiet

theorem printingHex {label : String} {buffer : Der.Bytes} {len : Nat}
    {invariant : Locals → Judgement Observed → Prop} :
    Keeps verdict.contract left invariant (printHex label buffer len) :=
  keeps_printHex verdict_quiet

theorem showing {text : (HandleVar → ObjectHandle) → String}
    {invariant : Locals → Judgement Observed → Prop} :
    Keeps verdict.contract left invariant (printHandles text) :=
  keeps_printHandles verdict_quiet

theorem declaring : Keeps verdict.contract left (Agrees base .trivial) (declare h) :=
  keeps_declare trivial_free

theorem destroying : Keeps verdict.contract left (Agrees base .trivial) (destroy session h) :=
  keeps_destroy trivial_free fun _ => uncounted (fun _ _ => rfl) fun _ _ => rfl

theorem generating {mechanism : Mechanism} {template : Template} :
    Carries verdict.contract left (Agrees base .trivial)
      (fun rv => Owes base .trivial (refused rv)) (generateKey session mechanism template h) := by
  refine .bind (vital (fun _ _ _ _ => rfl) fun _ _ _ met => met) fun key => ?_
  refine .bind (keeps_setHandle owes_free) fun _ => ?_
  exact .returning fun _ _ owes => owes

theorem creating {template : Template} :
    Carries verdict.contract left (Agrees base .trivial)
      (fun rv => Owes base .trivial (refused rv)) (createObject session template h) := by
  refine .bind (vital (fun _ _ _ _ => rfl) fun _ _ _ met => met) fun object => ?_
  refine .bind (keeps_setHandle owes_free) fun _ => ?_
  exact .returning fun _ _ owes => owes

theorem derivingKey {mechanism : Mechanism} {parent : HandleVar} {template : Template} :
    Keeps verdict.contract left (Agrees base .trivial)
      (deriveKey session mechanism parent template h) :=
  keeps_deriveKey trivial_free fun _ => uncounted (fun _ _ => rfl) fun _ _ => rfl

/-- The public handles in these variables are all of the exchange, or none is. -/
def Marked (exchanges : Bool) (vars : List HandleVar) : Fact :=
  fun handles seen => ∀ var ∈ vars, seen.exchanging (handles var) = exchanges

theorem marked_pair {exchanges : Bool} {vars : List HandleVar} {phPub phPriv : HandleVar}
    {mechanism : Mechanism} {publicTemplate privateTemplate : Template} {pair : CreatedPair}
    {seen : Observed} (marked : Marked exchanges vars l.handles seen)
    (same : identified publicTemplate exchangePairs = exchanges) (apart : phPub ≠ phPriv)
    (absent : phPub ∉ vars) (other_absent : phPriv ∉ vars) :
    Marked exchanges (phPub :: vars) ((l.setHandle phPub pair.hPub).setHandle phPriv pair.hPriv).handles
      (seen.note ⟨.generateKeyPair session mechanism publicTemplate privateTemplate, pair⟩) := by
  intro var member
  change Function.update seen.exchanging pair.hPub _ _ = exchanges
  rw [same, Function.update_apply]
  split
  · rfl
  · rename_i other
    cases List.mem_cons.mp member with
    | inl first =>
        subst first
        rw [Locals.setHandle_other apart, Locals.setHandle_self] at other
        exact absurd rfl other
    | inr later =>
        have notPriv : var ≠ phPriv := fun equal => other_absent (equal ▸ later)
        have notPub : var ≠ phPub := fun equal => absent (equal ▸ later)
        rw [Locals.setHandle_other notPriv, Locals.setHandle_other notPub]
        exact marked var later

/-- A key pair of the exchange, or of none. -/
theorem pairing {exchanges : Bool} {vars : List HandleVar} {mechanism : Mechanism}
    {publicTemplate privateTemplate : Template} {phPub phPriv : HandleVar}
    (same : identified publicTemplate exchangePairs = exchanges) (apart : phPub ≠ phPriv)
    (absent : phPub ∉ vars) (other_absent : phPriv ∉ vars) :
    Carries verdict.contract left (Agrees base (Marked exchanges vars))
      (fun rv => Owes base (Marked exchanges (phPub :: vars))
        (!identified publicTemplate optionalPairs && refused rv))
      (generateKeyPair session mechanism publicTemplate privateTemplate phPub phPriv) := by
  intro l j agrees
  refine wp_bind.mpr (judged_wp fun pair => ?_)
  have settled := @Agrees.settle base (Marked exchanges vars) .trivial l j
    (.generateKeyPair session mechanism publicTemplate privateTemplate) pair agrees fun _ => True.intro
  have marked := @marked_pair l session exchanges vars phPub phPriv mechanism publicTemplate
    privateTemplate pair j.memory agrees.fact same apart absent other_absent
  exact ⟨fun passed => ⟨(settled.passed passed).flag, (settled.passed passed).opened, marked⟩,
    fun failed => ⟨(settled.failed failed).flag, (settled.failed failed).opened, marked⟩⟩

end Rules

/-- The program returns other than 0 exactly if there was a failure in it. -/
def Judges (program : Program cryptoki Int) : Prop :=
  ∀ j : Judgement Observed, j.memory.opened = true →
    program.wp verdict.contract (fun rc after => after.memory.opened = true ∧
      after.failed = (j.failed || decide (rc ≠ 0))) j

section Demos

variable {session : SessionHandle} {base : Bool} {fact : Fact}

/-- Wherever a demo is left, its flag is settled. -/
abbrev Follows {Value : Type} (base : Bool) (pre : Locals → Judgement Observed → Prop)
    (ends : Value → Locals → Judgement Observed → Prop) (body : Body Value) : Prop :=
  Carries verdict.contract (fun _ => Agrees base .trivial) pre ends body

theorem stays : ∀ l j, Agrees base fact l j → Agrees base .trivial l j :=
  fun _ _ agrees => agrees.forget

theorem counted {request : CryptokiCall} {bad : request.Answer → Bool}
    (counts : ∀ l j answer, Agrees base fact l j → j.memory.fails ⟨request, answer⟩ = bad answer)
    (noted : ∀ (seen : Observed) answer, seen.note ⟨request, answer⟩ = seen) :
    Follows base (Agrees base fact) (fun answer => Owes base fact (bad answer)) (issue request) :=
  vital counts fun _ _ _ met => (noted _ _).symm ▸ met

/-- An attribute that is only shown, of a key pair that is not of the exchange. -/
theorem exporting {h : HandleVar} {type : AttributeType} {capacity : Nat} {label : String}
    (shown : ∀ l j, Agrees base fact l j →
      (decide (type = .ecPoint) && j.memory.exchanging (l.handles h)) = false) :
    Follows base (Agrees base fact) (fun _ => Agrees base fact)
      (exportAndPrint session h type capacity label) := by
  refine keeps_exportAndPrint verdict_quiet (.inspecting fun l j agrees => judged_wp fun output => ?_)
  refine (agrees.settle fun met => met).passed ?_
  change (decide (type = .ecPoint) && j.memory.exchanging (l.handles h) && refused output.rv) = false
  rw [shown l j agrees, Bool.false_and]

theorem startingSign {h : HandleVar} {mechanism : Mechanism} :
    Follows base (Agrees base fact)
      (fun rv => Owes base fact (decide (mechanism.mechanism = .sha256RsaPkcs) && refused rv))
      (signInit session mechanism h) :=
  .reading fun _ => counted (fun _ _ _ _ => rfl) fun _ _ => rfl

theorem signing {data : Der.Bytes} {capacity : Nat} :
    Follows base (Agrees base fact) (fun sig => Owes base fact (refused sig.rv))
      (issue (.sign session data capacity)) :=
  counted (fun _ _ _ _ => rfl) fun _ _ => rfl

theorem startingVerify {h : HandleVar} {mechanism : Mechanism} :
    Follows base (Agrees base fact) (fun rv => Owes base fact (refused rv))
      (verifyInit session mechanism h) :=
  .reading fun _ => counted (fun _ _ _ _ => rfl) fun _ _ => rfl

theorem verifying {data sig : Der.Bytes} {sigLen : Nat} :
    Follows base (Agrees base fact) (fun rv => Owes base fact (refused rv))
      (issue (.verify session data sig sigLen)) :=
  counted (fun _ _ _ _ => rfl) fun _ _ => rfl

/-- What was to be encrypted last. -/
def Encrypts (data : Der.Bytes) : Fact := fun _ seen => seen.encrypted = data

theorem startingEncrypt {h : HandleVar} {mechanism : Mechanism} :
    Follows base (Agrees base fact)
      (fun rv => Owes base fact (decide (mechanism.mechanism ≠ .rsaPkcsOaep) && refused rv))
      (encryptInit session mechanism h) :=
  .reading fun _ => counted (fun _ _ _ _ => rfl) fun _ _ => rfl

theorem encrypting {data : Der.Bytes} {capacity : Nat} :
    Follows base (Agrees base fact) (fun ct => Owes base (Encrypts data) (refused ct.rv))
      (issue (.encrypt session data capacity)) :=
  vital (fun _ _ _ _ => rfl) fun _ _ _ _ => rfl

theorem startingDecrypt {h : HandleVar} {mechanism : Mechanism} :
    Follows base (Agrees base fact) (fun rv => Owes base fact (refused rv))
      (decryptInit session mechanism h) :=
  .reading fun _ => counted (fun _ _ _ _ => rfl) fun _ _ => rfl

theorem decrypting {data ciphertext : Der.Bytes} {dataLen capacity : Nat} :
    Follows base (Agrees base (Encrypts data))
      (fun pt => Owes base (Encrypts data) (refused pt.rv || !roundtrips pt data))
      (issue (.decrypt session ciphertext dataLen capacity)) := by
  refine counted (fun l j pt agrees => ?_) fun _ _ => rfl
  have encrypted : j.memory.encrypted = data := agrees.fact
  rw [← encrypted]
  rfl

/-- The public point of a key pair of the exchange is needed. -/
theorem exchanging {h : HandleVar} {vars : List HandleVar} (member : h ∈ vars) {capacity : Nat} :
    Follows base (Agrees base (Marked true vars))
      (fun point => Owes base (Marked true vars) (refused point.rv))
      (getAttributeValue session h .ecPoint capacity) := by
  refine .inspecting fun l j agrees => judged_wp fun output => ?_
  have settled := @Agrees.settle base (Marked true vars) (Marked true vars) l j
    (.getAttributeValue session (l.handles h) .ecPoint capacity) output agrees fun met => met
  have counts : j.memory.fails
      ⟨.getAttributeValue session (l.handles h) .ecPoint capacity, output⟩ = refused output.rv := by
    change (j.memory.exchanging (l.handles h) && refused output.rv) = refused output.rv
    rw [agrees.fact h member, Bool.true_and]
  rw [counts] at settled
  exact settled

end Demos

/-! ## The suite -/

def exitStatus (failed : Bool) : Int := if failed then 1 else 0

section Suite

variable {session : SessionHandle} {j : Judgement Observed}

abbrev Exits (program : Program cryptoki Int) (j : Judgement Observed) : Prop :=
  program.wp verdict.contract (fun rc after => rc = exitStatus after.failed) j

end Suite

end Judging

open Judging

end Se05x.Pkcs11
