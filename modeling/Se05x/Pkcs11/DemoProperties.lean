import Se05x.Pkcs11.Main

/-!
# Reasoning about a PKCS#11 demo

Which helpers keep an invariant, whatever the contract: printing and checking a code touch
no more than the flag, creating and destroying no more than the handle variables.
-/

set_option autoImplicit false

namespace Se05x.Pkcs11

open Interaction Procedure

/-- The contract lets the call pass and takes no note of its answer. -/
def Inert {State : Type} (contract : Contract cryptoki State) (state : State)
    (request : CryptokiCall) : Prop :=
  contract.allows state request ∧
    ∀ answer after, contract.moves state ⟨request, answer⟩ after → after = state

def Quiet {State : Type} (contract : Contract cryptoki State) : Prop :=
  ∀ state text, Inert contract state (.printf text)

section Rules

variable {State Value : Type} {contract : Contract cryptoki State} {state : State} {l : Locals}

theorem call_step {request : CryptokiCall}
    {continuation : request.Answer → Program cryptoki Value} {ends : Value → State → Prop}
    (allowed : contract.allows state request)
    (next : ∀ answer after, contract.moves state ⟨request, answer⟩ after →
      (continuation answer).wp contract ends after) :
    (call request >>= continuation).wp contract ends state :=
  ⟨allowed, next⟩

theorem call_wp {request : CryptokiCall} {continuation : request.Answer → Program cryptoki Value}
    {ends : Value → State → Prop} (inert : Inert contract state request)
    (next : ∀ answer, (continuation answer).wp contract ends state) :
    (call request >>= continuation).wp contract ends state := by
  refine call_step inert.1 fun answer after moved => ?_
  rw [inert.2 answer after moved]
  exact next answer

theorem readCell_wp {array : LocalArray} {capacity : Nat}
    {cells : Vector (Option Nat) capacity} {i : Nat}
    {continuation : Nat → Program cryptoki Value} {ends : Value → State → Prop}
    (inert : ∀ cell, Inert contract state (.readCell array cell))
    (next : ∀ value, (continuation value).wp contract ends state) :
    (readCell array cells i >>= continuation).wp contract ends state := by
  rw [readCell]
  split
  · exact call_wp (inert _) fun _ => next _
  · exact call_wp (inert _) next
  · exact call_wp (inert _) next

theorem inert_wp {request : CryptokiCall}
    {post : Except Label request.Answer → Locals → State → Prop}
    (inert : Inert contract state request) (next : ∀ answer, post (.ok answer) l state) :
    (issue request).wp contract post l state := by
  obtain ⟨allowed, unmoved⟩ := inert
  refine ⟨allowed, fun answer after moved => ?_⟩
  rw [unmoved answer after moved]
  exact next answer

theorem printf_wp (quiet : Quiet contract) {text : String}
    {post : Except Label Unit → Locals → State → Prop} (next : post (.ok ()) l state) :
    (printf text).wp contract post l state :=
  inert_wp (quiet state text) fun _ => next

end Rules

section Triples

variable {State : Type} {contract : Contract cryptoki State}
  {left : Label → Locals → State → Prop} {pre invariant : Locals → State → Prop}
  {ends : Unit → Locals → State → Prop} {session : SessionHandle}

theorem keeps_issue {request : CryptokiCall}
    (step : ∀ l state, invariant l state → contract.allows state request ∧
      ∀ answer after, contract.moves state ⟨request, answer⟩ after → invariant l after) :
    Keeps contract left invariant (issue request) :=
  step

theorem keeps_inert {request : CryptokiCall}
    (inert : ∀ l state, invariant l state → Inert contract state request) :
    Keeps contract left invariant (issue request) :=
  fun l state kept => inert_wp (inert l state kept) fun _ => kept

theorem keeps_printf (quiet : Quiet contract) {text : String} :
    Keeps contract left invariant (printf text) :=
  keeps_inert fun _ state _ => quiet state text

theorem keeps_printHex (quiet : Quiet contract) {label : String} {buffer : Der.Bytes} {len : Nat} :
    Keeps contract left invariant (printHex label buffer len) :=
  keeps_printf quiet

theorem carries_markFailed (quiet : Quiet contract) {text : String}
    (failing : ∀ l state, pre l state → ends () l.fail state) :
    Carries contract left pre ends (markFailed text) := by
  refine .bind (keeps_printf quiet) fun _ => ?_
  exact .writing failing

theorem carries_requireOk (quiet : Quiet contract) {label : Label} {failure : String} {rv : CkRv}
    (passing : rv = ckrOk → ∀ l state, pre l state → ends () l state)
    (failing : rv ≠ ckrOk → ∀ l state, pre l state → left label l.fail state) :
    Carries contract left pre ends (requireOk label failure rv) := by
  refine .ite (fun failed => ?_) fun succeeded => ?_
  · have marked : Carries contract left pre (fun _ => left label) (markFailed s!"{failure}{hex rv}\n") :=
      carries_markFailed quiet (failing failed)
    exact .bind marked fun _ => .jumping fun _ _ met => met
  · exact .returning (passing (not_not.mp succeeded))

theorem carries_skipUnlessOk (quiet : Quiet contract) {label : Label} {skipped : String} {rv : CkRv}
    (passing : rv = ckrOk → ∀ l state, pre l state → ends () l state)
    (skipping : rv ≠ ckrOk → ∀ l state, pre l state → left label l state) :
    Carries contract left pre ends (skipUnlessOk label skipped rv) := by
  refine .ite (fun failed => ?_) fun succeeded => ?_
  · refine .bind (keeps_printf quiet) fun _ => ?_
    exact .jumping (skipping failed)
  · exact .returning (passing (not_not.mp succeeded))

theorem carries_ckCheck (quiet : Quiet contract) {name : String} {rv : CkRv}
    (passing : rv = ckrOk → ∀ l state, pre l state → ends () l state)
    (failing : rv ≠ ckrOk → ∀ l state, pre l state → left .cleanup l.fail state) :
    Carries contract left pre ends (ckCheck name rv) := by
  refine .bind (carries_requireOk quiet passing failing) fun _ => ?_
  exact keeps_printf quiet

theorem keeps_requireOk (quiet : Quiet contract) {label : Label} {failure : String} {rv : CkRv}
    (failing : ∀ l state, invariant l state → left label l.fail state) :
    Keeps contract left invariant (requireOk label failure rv) :=
  carries_requireOk quiet (fun _ _ _ kept => kept) fun _ => failing

theorem keeps_skipUnlessOk (quiet : Quiet contract) {label : Label} {skipped : String} {rv : CkRv}
    (skipping : ∀ l state, invariant l state → left label l state) :
    Keeps contract left invariant (skipUnlessOk label skipped rv) :=
  carries_skipUnlessOk quiet (fun _ _ _ kept => kept) fun _ => skipping

theorem keeps_ckCheck (quiet : Quiet contract) {name : String} {rv : CkRv}
    (failing : ∀ l state, invariant l state → left .cleanup l.fail state) :
    Keeps contract left invariant (ckCheck name rv) :=
  carries_ckCheck quiet (fun _ _ _ kept => kept) fun _ => failing

theorem keeps_exportAndPrint (quiet : Quiet contract) {h : HandleVar} {type : AttributeType}
    {capacity : Nat} {label : String}
    (step : Keeps contract left invariant (getAttributeValue session h type capacity)) :
    Keeps contract left invariant (exportAndPrint session h type capacity label) := by
  refine .bind step fun _ => ?_
  refine .ite (fun _ => ?_) fun _ => ?_
  · exact keeps_printHex quiet
  · exact .returning fun _ _ kept => kept

theorem keeps_printHandles (quiet : Quiet contract) {text : (HandleVar → ObjectHandle) → String} :
    Keeps contract left invariant (printHandles text) :=
  .reading fun _ => keeps_printf quiet

theorem keeps_readCell {array : LocalArray} {capacity : Nat}
    {cells : Vector (Option Nat) capacity} {i : Nat}
    (step : ∀ cell, Keeps contract left invariant (issue (.readCell array cell))) :
    Keeps contract left invariant (invoke (readCell array cells i) : Body Nat) := by
  rw [readCell]
  split
  · refine .bind (step _) fun _ => ?_
    exact .returning fun _ _ kept => kept
  · exact step _
  · exact step _

/-- The calls about slots and mechanisms, and reading a list of them, keep the invariant. -/
structure Lists (contract : Contract cryptoki State) (left : Label → Locals → State → Prop)
    (invariant : Locals → State → Prop) : Prop where
  cell : ∀ array cell, Keeps contract left invariant (issue (.readCell array cell))
  slotInfo : ∀ slot, Keeps contract left invariant (issue (.getSlotInfo slot))
  tokenInfo : ∀ slot, Keeps contract left invariant (issue (.getTokenInfo slot))
  counting : ∀ slot, Keeps contract left invariant (issue (.countMechanisms slot))
  filling : ∀ slot count, Keeps contract left invariant (issue (.getMechanismList slot count))

theorem keeps_nothing : Keeps contract left invariant (pure () : Body Unit) :=
  .returning fun _ _ kept => kept

theorem keeps_printMechanism (quiet : Quiet contract) {mechanism : Nat} :
    Keeps contract left invariant (printMechanism mechanism) := by
  rw [printMechanism]
  split
  · exact keeps_printf quiet
  · exact keeps_nothing

theorem keeps_printMechanisms (quiet : Quiet contract) (lists : Lists contract left invariant)
    {slot : SlotId} : Keeps contract left invariant (printMechanisms slot) := by
  refine .bind (lists.counting slot) fun _ => ?_
  refine .ite (fun _ => ?_) fun _ => ?_
  · refine .bind (keeps_printf quiet) fun _ => ?_
    refine .bind (lists.filling slot _) fun _ => ?_
    refine .ite (fun filled => ?_) fun failed => ?_
    · refine .forM fun _ _ => ?_
      refine .bind (keeps_readCell (lists.cell _)) fun _ => ?_
      exact keeps_printMechanism quiet
    · exact keeps_nothing
  · exact keeps_nothing

theorem keeps_printSlotInfo (quiet : Quiet contract) {slotInfo : SlotInfo} :
    Keeps contract left invariant (printSlotInfo slotInfo) := by
  refine .ite (fun known => ?_) fun unknown => ?_
  · refine .bind (keeps_printf quiet) fun _ => ?_
    exact keeps_printf quiet
  · exact keeps_nothing

theorem keeps_printTokenInfo (quiet : Quiet contract) {tokenInfo : TokenInfo} :
    Keeps contract left invariant (printTokenInfo tokenInfo) := by
  refine .ite (fun known => ?_) fun unknown => ?_
  · refine .bind (keeps_printf quiet) fun _ => ?_
    refine .bind (keeps_printf quiet) fun _ => ?_
    exact keeps_printf quiet
  · exact keeps_nothing

theorem keeps_printSlot (quiet : Quiet contract) (lists : Lists contract left invariant)
    {capacity : Nat} {slots : Vector (Option Nat) capacity} {i : Nat} :
    Keeps contract left invariant (printSlot slots i) := by
  refine .bind (keeps_readCell (lists.cell _)) fun slot => ?_
  refine .bind (keeps_printf quiet) fun _ => ?_
  refine .bind (lists.slotInfo slot) fun _ => ?_
  refine .bind (keeps_printSlotInfo quiet) fun _ => ?_
  refine .bind (lists.tokenInfo slot) fun _ => ?_
  refine .bind (keeps_printTokenInfo quiet) fun _ => ?_
  exact keeps_printMechanisms quiet lists

/-- A demo ends as its cleanup does, which starts wherever the body may be left. -/
theorem demo_wp (quiet : Quiet contract) {heading : String} {body : Body Unit}
    {released : List HandleVar} {returned : Int → State → Prop} {settled : Locals → State → Prop}
    {state : State} (entering : pre .start state)
    (carried : Carries contract (fun _ => settled) pre (fun _ => settled) body)
    (releases : Carries contract (fun _ l => returned l.rc) settled (fun _ l => returned l.rc)
      (released.forM (destroy session))) :
    (demo session heading body released).wp contract returned state := by
  rw [demo, Program.wp_bind, wp_start]
  refine wp_bind.mpr (printf_wp quiet (wp_bind.mpr (wp_toEnd.mpr ?_)))
  refine wp_mono (carried _ _ entering) fun outcome l reached met => ?_
  have holds : settled l reached := by
    cases outcome <;> exact met
  refine wp_bind.mpr (wp_mono (releases l reached holds) fun outcome l reached ended => ?_)
  cases outcome with
  | ok => exact printf_wp quiet ended
  | error => exact ended

end Triples

section HandleFree

variable {State : Type} {contract : Contract cryptoki State}
  {left : Label → Locals → State → Prop} {invariant : Locals → State → Prop}
  {session : SessionHandle}

/-- The invariant is not about the handle variables. -/
def HandleFree (invariant : Locals → State → Prop) : Prop :=
  ∀ l state h value, invariant l state → invariant (l.setHandle h value) state

theorem keeps_declare (free : HandleFree invariant) {h : HandleVar} :
    Keeps contract left invariant (declare h) :=
  .writing fun l state => free l state _ _

theorem keeps_setHandle (free : HandleFree invariant) {h : HandleVar} {value : ObjectHandle} :
    Keeps contract left invariant (modify (Locals.setHandle · h value)) :=
  .writing fun l state => free l state h value

theorem keeps_destroy (free : HandleFree invariant) {h : HandleVar}
    (step : ∀ object, Keeps contract left invariant (issue (.destroyObject session object))) :
    Keeps contract left invariant (destroy session h) := by
  refine .reading fun l => ?_
  refine .ite (fun held => ?_) fun none => ?_
  · refine .bind (step (l.handles h)) fun _ => ?_
    exact keeps_setHandle free
  · exact .returning fun _ _ kept => kept

theorem keeps_generateKey (free : HandleFree invariant) {mechanism : Mechanism}
    {template : Template} {h : HandleVar}
    (step : Keeps contract left invariant (issue (.generateKey session mechanism template))) :
    Keeps contract left invariant (generateKey session mechanism template h) := by
  refine .bind step fun key => ?_
  refine .bind (keeps_setHandle free) fun _ => ?_
  exact .returning fun _ _ kept => kept

theorem keeps_createObject (free : HandleFree invariant) {template : Template} {h : HandleVar}
    (step : Keeps contract left invariant (issue (.createObject session template))) :
    Keeps contract left invariant (createObject session template h) := by
  refine .bind step fun object => ?_
  refine .bind (keeps_setHandle free) fun _ => ?_
  exact .returning fun _ _ kept => kept

theorem keeps_deriveKey (free : HandleFree invariant) {mechanism : Mechanism}
    {base : HandleVar} {template : Template} {h : HandleVar}
    (step : ∀ object,
      Keeps contract left invariant (issue (.deriveKey session mechanism object template))) :
    Keeps contract left invariant (deriveKey session mechanism base template h) := by
  refine .reading fun l => ?_
  refine .bind (step (l.handles base)) fun key => ?_
  refine .bind (keeps_setHandle free) fun _ => ?_
  exact .returning fun _ _ kept => kept

theorem keeps_generateKeyPair (free : HandleFree invariant) {mechanism : Mechanism}
    {publicTemplate privateTemplate : Template} {phPub phPriv : HandleVar}
    (step : Keeps contract left invariant
      (issue (.generateKeyPair session mechanism publicTemplate privateTemplate))) :
    Keeps contract left invariant
      (generateKeyPair session mechanism publicTemplate privateTemplate phPub phPriv) := by
  refine .bind step fun pair => ?_
  have both : Keeps contract left invariant
      (modify fun l => (l.setHandle phPub pair.hPub).setHandle phPriv pair.hPriv) :=
    .writing fun l state kept => free _ state _ _ (free l state _ _ kept)
  refine .bind both fun _ => ?_
  exact .returning fun _ _ kept => kept

theorem keeps_makeAndDestroy (quiet : Quiet contract) (free : HandleFree invariant)
    {heading : String} {h : HandleVar} {name : String} {make : Body CkRv} {inspect : Body Unit}
    (failing : ∀ l state, invariant l state → left .cleanup l.fail state)
    (makes : Keeps contract left invariant make)
    (inspects : Keeps contract left invariant inspect)
    (step : ∀ object, Keeps contract left invariant (issue (.destroyObject session object))) :
    Keeps contract left invariant (makeAndDestroy session heading h name make inspect) := by
  refine .bind (keeps_declare free) fun _ => ?_
  refine .bind (keeps_printf quiet) fun _ => ?_
  refine .bind makes fun rv => ?_
  refine .bind (keeps_ckCheck quiet failing) fun _ => ?_
  refine .bind inspects fun _ => ?_
  exact keeps_destroy free step

end HandleFree

end Se05x.Pkcs11
