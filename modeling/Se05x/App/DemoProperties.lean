import Se05x.App.SignVerify

/-!
# Reasoning about a demo

One rule for each way a demo's body goes on, and one for the cleanup that follows it.
Calls that neither use nor change a stored key leave a contract's state alone.
-/

set_option autoImplicit false

namespace Se05x.App

open Der Interaction Procedure

/-- The call neither uses nor changes a stored key, and reports no bytes. -/
def passive : HostCall → Bool
  | .sss (.keyStoreEraseKey _) | .sss (.keyStoreGenerateKey _ _) | .sss (.keyStoreSetKey _ _ _)
  | .sss (.keyStoreGetKey _ _) | .sss (.asymmetricSignDigest _ _ _)
  | .sss (.asymmetricVerifyDigest _ _ _) | .sss (.asymmetricEncrypt _ _ _)
  | .sss (.asymmetricDecrypt _ _ _) | .sss (.deriveKeyDh _ _ _) | .logBytes _ _ => false
  | _ => true

def LeavesPassive {State : Type} (contract : Contract host State) : Prop :=
  ∀ state request, passive request = true → contract.allows state request ∧
    ∀ answer after, contract.moves state ⟨request, answer⟩ after → after = state

section Rules

variable {State Value : Type} {contract : Contract host State}
  {post : Except Exit Value → Locals → State → Prop} {l : Locals} {state : State}

@[simp] theorem wp_ensure {st : SssStatus} {post : Except Exit Unit → Locals → State → Prop} :
    wp contract (ensure st) post l state ↔
      (st = .success → post (.ok ()) { l with status := .success } state) ∧
        (st ≠ .success → post (.error .cleanup) { l with status := st } state) := by
  by_cases passed : st = .success
  · subst passed
    simp only [ensure, wp_bind, wp_modify, ↓reduceIte, wp_pure, true_implies, ne_eq,
      not_true_eq_false, false_implies, and_true]
  · rw [ensure, if_neg passed]
    simp only [wp_bind, wp_modify, wp_throw, passed, false_implies, ne_eq, not_false_eq_true,
      true_implies, true_and]

/-- The status a demo returns for the way its body ended. -/
def exitStatus : Except Exit Unit → Locals → SssStatus
  | .ok (), l | .error .cleanup, l => l.status
  | .error .fail, _ => .fail
  | .error (.leave ret), _ => .other ret

/-- A cleanup that leaves the state alone leaves the outcome to the body. -/
theorem demo_wp {body : Body Unit} {cleanup : Locals → Program host Unit}
    {ends : SssStatus → State → Prop}
    (cleaned : ∀ (l : Locals) (kept : State → Prop) state, kept state →
      (cleanup l).wp contract (fun _ => kept) state)
    (met : body.wp contract (fun outcome l => ends (exitStatus outcome l)) .start state) :
    (demo body cleanup).wp contract ends state := by
  rw [demo, Program.wp_bind, wp_start]
  refine wp_mono met ?_
  intro outcome l after reached
  rcases outcome with (_ | _ | ret) | _
  · exact Program.wp_bind.mpr (cleaned _ _ _ reached)
  · exact Program.wp_bind.mpr (cleaned _ _ _ reached)
  · exact reached
  · exact Program.wp_bind.mpr (cleaned _ _ _ reached)

end Rules

/-- The calls of a cleanup label are all passive, so the state they start from is the last. -/
theorem passive_program_wp {State : Type} {contract : Contract host State}
    (leaves : LeavesPassive contract) {state : State} {request : HostCall} {Value : Type}
    {continuation : request.Answer → Program host Value} {ends : Value → State → Prop}
    (inert : passive request = true) (next : ∀ answer, (continuation answer).wp contract ends state) :
    (ask request >>= continuation).wp contract ends state := by
  obtain ⟨allowed, unmoved⟩ := leaves state request inert
  refine ⟨allowed, fun answer after moved => ?_⟩
  rw [unmoved answer after moved]
  exact next answer

theorem reportFailure_wp {State : Type} {contract : Contract host State}
    (leaves : LeavesPassive contract) {state : State} {l : Locals} {text : String}
    {kept : State → Prop} (met : kept state) :
    (reportFailure l text).wp contract (fun _ => kept) state := by
  rw [reportFailure]
  split
  · exact passive_program_wp leaves rfl fun _ => met
  · exact met

section Steps

variable {State Value : Type} {contract : Contract host State} {l : Locals} {state : State}
  {post : Except Exit Value → Locals → State → Prop}

theorem issue_wp {request : HostCall} {continuation : request.Answer → Body Value}
    (allowed : contract.allows state request)
    (next : ∀ answer after, contract.moves state ⟨request, answer⟩ after →
      wp contract (continuation answer) post l after) :
    wp contract (issue request >>= continuation) post l state := by
  rw [wp_bind]
  exact ⟨allowed, next⟩

theorem passive_wp (leaves : LeavesPassive contract) {request : HostCall}
    {continuation : request.Answer → Body Value} (inert : passive request = true)
    (next : ∀ answer, wp contract (continuation answer) post l state) :
    wp contract (issue request >>= continuation) post l state := by
  obtain ⟨allowed, unmoved⟩ := leaves state request inert
  refine issue_wp allowed fun answer after moved => ?_
  rw [unmoved answer after moved]
  exact next answer

theorem passive_last_wp (leaves : LeavesPassive contract) {request : HostCall}
    {post : Except Exit request.Answer → Locals → State → Prop} (inert : passive request = true)
    (next : ∀ answer, post (.ok answer) l state) : wp contract (issue request) post l state := by
  obtain ⟨allowed, unmoved⟩ := leaves state request inert
  refine ⟨allowed, fun answer after moved => ?_⟩
  rw [unmoved answer after moved]
  exact next answer

/-- Every way to the cleanup label with a status that is not success. -/
def Fails (post : Except Exit Value → Locals → State → Prop) (state : State) : Prop :=
  ∀ l : Locals, l.status ≠ .success → post (.error .cleanup) l state

theorem ensure_wp {st : SssStatus} {continuation : Unit → Body Value}
    (next : st = .success → ∀ l, l.status = .success → wp contract (continuation ()) post l state)
    (failed : st ≠ .success → Fails post state) :
    wp contract (ensure st >>= continuation) post l state := by
  rw [wp_bind, wp_ensure]
  exact ⟨fun passed => next passed _ rfl, fun other => failed other _ other⟩

theorem ensurePassive_wp (leaves : LeavesPassive contract) {request : SssCall}
    {answered : request.Answer → SssStatus} {continuation : request.Answer → Unit → Body Value}
    (inert : passive (.sss request) = true)
    (next : ∀ answer l, l.status = .success →
      wp contract (continuation answer ()) post l state)
    (failed : Fails post state) :
    wp contract (sss request >>= fun answer => ensure (answered answer) >>= continuation answer) post
      l state :=
  passive_wp leaves inert fun answer => ensure_wp (fun _ => next answer) fun _ => failed

theorem modify_wp {update : Locals → Locals} {continuation : Unit → Body Value}
    (next : wp contract (continuation ()) post (update l) state) :
    wp contract (modify update >>= continuation) post l state := by
  rw [wp_bind]
  exact next

theorem liftExcept_wp {Outcome : Type} {outcome : Except Exit Outcome}
    {continuation : Outcome → Body Value}
    (next : ∀ value, outcome = .ok value → wp contract (continuation value) post l state)
    (failed : ∀ exit, outcome = .error exit → post (.error exit) l state) :
    wp contract (liftExcept outcome >>= continuation) post l state := by
  rw [wp_bind, wp_liftExcept]
  cases outcome with
  | ok value => exact next value rfl
  | error exit => exact failed exit rfl

theorem getKeyHandle_wp (leaves : LeavesPassive contract) {keyId : KeyId}
    {continuation : Unit → Body Value}
    (next : ∀ l, l.status = .success → wp contract (continuation ()) post l state)
    (failed : Fails post state) :
    wp contract (getKeyHandle keyId >>= continuation) post l state := by
  rw [wp_bind]
  refine ensurePassive_wp leaves rfl (fun _ _ _ => modify_wp ?_) failed
  exact ensurePassive_wp leaves rfl (fun _ _ status => next _ status) failed

theorem allocateKey_wp (leaves : LeavesPassive contract) {place : Locals → SssObject → Locals}
    {keyId : KeyId} {keyPart : KeyPart} {cipherType : CipherType} {keyByteLenMax : Nat}
    {mode : ObjectMode} {continuation : SssObject → Body Value}
    (next : ∀ l, wp contract
      (continuation (.allocated keyId keyPart cipherType keyByteLenMax mode)) post l state)
    (failed : Fails post state) :
    wp contract (allocateKey place keyId keyPart cipherType keyByteLenMax mode >>= continuation) post
      l state := by
  rw [wp_bind]
  refine ensurePassive_wp leaves rfl (fun _ _ _ => modify_wp ?_) failed
  exact ensurePassive_wp leaves rfl (fun _ _ _ => modify_wp (next _)) failed

theorem openAsym_wp (leaves : LeavesPassive contract) {context : KeyContext}
    {continuation : Unit → Body Value}
    (next : ∀ l, l.status = .success → wp contract (continuation ()) post l state)
    (failed : Fails post state) :
    wp contract (openAsym context >>= continuation) post l state := by
  rw [wp_bind]
  exact ensurePassive_wp leaves rfl (fun _ _ status => next _ status) failed

theorem closeAsym_wp (leaves : LeavesPassive contract) {continuation : Unit → Body Value}
    (next : ∀ l', l'.status = l.status → wp contract (continuation ()) post l' state) :
    wp contract (closeAsym >>= continuation) post l state := by
  rw [wp_bind]
  exact passive_wp leaves rfl fun _ => next _ rfl

end Steps

end Se05x.App
