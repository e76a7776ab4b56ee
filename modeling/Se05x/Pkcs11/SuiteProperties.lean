import Se05x.Pkcs11.DemoProperties

/-!
# Reasoning about the demo suite

What a property needs to hold from one demo to the next, through the session, and from
loading the module to its end, whatever the contract.
-/

set_option autoImplicit false

namespace Se05x.Pkcs11

open Interaction

section Kept

variable {State Value : Type} {contract : Contract cryptoki State} {held : State → Prop}
  {request : CryptokiCall}

/-- The contract lets the call pass, and its answer leaves the property as it was. -/
def Kept (contract : Contract cryptoki State) (held : State → Prop) (request : CryptokiCall) :
    Prop :=
  ∀ state, held state → contract.allows state request ∧
    ∀ answer after, contract.moves state ⟨request, answer⟩ after → held after

theorem Kept.of_inert (inert : ∀ state, held state → Inert contract state request) :
    Kept contract held request := by
  intro state met
  obtain ⟨allowed, unmoved⟩ := inert state met
  refine ⟨allowed, fun answer after moved => ?_⟩
  rw [unmoved answer after moved]
  exact met

theorem Kept.call_wp (kept : Kept contract held request) {state : State} (met : held state)
    {continuation : request.Answer → Program cryptoki Value} {ends : Value → State → Prop}
    (next : ∀ answer after, held after → (continuation answer).wp contract ends after) :
    (call request >>= continuation).wp contract ends state := by
  obtain ⟨allowed, still⟩ := kept state met
  exact call_step allowed fun answer after moved => next answer after (still answer after moved)

/-- Whether the module is initialised makes no difference to the property. -/
theorem Kept.initializing (kept : Kept contract held .cInitialize) (state : State)
    (met : held state) :
    contract.allows state .cInitialize ∧
      ∀ rv after, contract.moves state ⟨.cInitialize, rv⟩ after →
        (rv = ckrOk → held after) ∧ (rv ≠ ckrOk → held after) := by
  obtain ⟨allowed, still⟩ := kept state met
  refine ⟨allowed, fun rv after moved => ?_⟩
  have met := still rv after moved
  exact ⟨fun _ => met, fun _ => met⟩

end Kept

section Session

variable {State : Type} {contract : Contract cryptoki State} {session : SessionHandle}
  {suite : List (String × Program cryptoki Int)} {rc : Int} {state : State}
  {returned ends : Int → State → Prop}

/-- The suite goes on after every demo, with its flag set if the demo failed. -/
theorem runAll_cons_wp (quiet : Quiet contract) {entry : String × Program cryptoki Int}
    (first : entry.2.wp contract returned state)
    (rest : ∀ result after, returned result after →
      (runAll suite (if result ≠ 0 then 1 else rc)).wp contract ends after) :
    (runAll (entry :: suite) rc).wp contract ends state := by
  refine call_wp (quiet state _) fun _ => ?_
  rw [Program.wp_bind]
  refine Program.wp_mono first fun result after reached => ?_
  have next := rest result after reached
  by_cases failed : result ≠ 0
  · rw [if_pos failed] at next ⊢
    exact call_wp (quiet after _) fun _ => next
  · rw [if_neg failed] at next ⊢
    exact next

/-- What every demo keeps holds after all of them. -/
theorem runAll_wp (quiet : Quiet contract) {between : State → Prop}
    (each : ∀ entry ∈ suite, ∀ state, between state →
      entry.2.wp contract (fun _ => between) state)
    (entered : between state) : (runAll suite rc).wp contract (fun _ => between) state := by
  induction suite generalizing rc state with
  | nil => exact entered
  | cons entry suite ih =>
      obtain ⟨first, others⟩ := List.forall_mem_cons.mp each
      exact runAll_cons_wp quiet (first state entered) fun _ _ still => ih others still

theorem inSession_wp (quiet : Quiet contract)
    (ran : (runAll (demos session) 0).wp contract returned state)
    (closing : ∀ rc after, returned rc after →
      contract.allows after (.closeSession session) ∧ ∀ answer last,
        contract.moves after ⟨.closeSession session, answer⟩ last → ends rc last) :
    (inSession session).wp contract ends state := by
  refine call_wp (quiet state _) fun _ => ?_
  rw [Program.wp_bind]
  refine Program.wp_mono ran fun rc after reached => ?_
  obtain ⟨allowed, next⟩ := closing rc after reached
  exact call_wp (quiet after _) fun _ => call_step allowed next

end Session

section Suite

variable {State : Type} {contract : Contract cryptoki State} {outside inside : State → Prop}
  {finalizable ended : Int → State → Prop}

/-- What holds around the initialised module, in it, at the `finalize` label and at the end
of a suite that returns this status. -/
structure Surrounds (contract : Contract cryptoki State) (outside inside : State → Prop)
    (finalizable ended : Int → State → Prop) : Prop where
  loading : ∀ path, Kept contract outside (.dlopen path)
  resolving : ∀ symbol, Kept contract outside (.dlsym symbol)
  listing : Kept contract outside .getFunctionList
  printing : ∀ text, Kept contract outside (.printf text)
  reporting : ∀ text, Kept contract outside (.printError text)
  initializing : ∀ state, outside state → contract.allows state .cInitialize ∧
    ∀ rv after, contract.moves state ⟨.cInitialize, rv⟩ after →
      (rv = ckrOk → inside after) ∧ (rv ≠ ckrOk → outside after)
  refused : ∀ state, outside state → ended 1 state
  finalizing : ∀ rc state, finalizable rc state → contract.allows state .cFinalize ∧
    ∀ rv after, contract.moves state ⟨.cFinalize, rv⟩ after → ended rc after
  unloading : ∀ rc, Kept contract (ended rc) .dlclose

namespace Surrounds

variable {state : State}

theorem findFunctionList_wp (around : Surrounds contract outside inside finalizable ended)
    (met : outside state) : findFunctionList.wp contract (fun _ => outside) state := by
  refine (around.resolving _).call_wp met fun getFnList _ met => ?_
  cases getFnList with
  | false => exact met
  | true => exact around.listing.call_wp met fun _ _ met => met

theorem refuse_wp (around : Surrounds contract outside inside finalizable ended)
    (met : outside state) {text : String} :
    (call (.printError text) >>= fun _ => pure 1).wp contract ended state :=
  (around.reporting text).call_wp met fun _ after met => around.refused after met

theorem inLibrary_wp (around : Surrounds contract outside inside finalizable ended)
    (body : ∀ state, inside state → inModule.wp contract finalizable state)
    (met : outside state) {libPath : String} :
    (inLibrary libPath).wp contract ended state := by
  rw [inLibrary, Program.wp_bind]
  refine Program.wp_mono (around.findFunctionList_wp met) fun found state met => ?_
  cases found with
  | false => exact around.refuse_wp met
  | true =>
      refine (around.printing _).call_wp met fun _ _ met => ?_
      refine (around.printing _).call_wp met fun _ state met => ?_
      obtain ⟨allowed, initialized⟩ := around.initializing state met
      refine call_step allowed fun rv after moved => ?_
      obtain ⟨passed, failed⟩ := initialized rv after moved
      by_cases refused : rv ≠ ckrOk
      · rw [if_pos refused]
        exact around.refuse_wp (failed refused)
      · rw [if_neg refused, Program.wp_bind]
        have entered := passed (not_not.mp refused)
        refine Program.wp_mono (body after entered) fun rc state reached => ?_
        obtain ⟨allowed, finalized⟩ := around.finalizing rc state reached
        exact call_step allowed finalized

theorem main_wp (around : Surrounds contract outside inside finalizable ended)
    (body : ∀ state, inside state → inModule.wp contract finalizable state)
    (met : outside state) {argv : List String} : (main argv).wp contract ended state := by
  refine (around.loading _).call_wp met fun dlerror state met => ?_
  cases dlerror with
  | some text => exact around.refuse_wp met
  | none =>
      rw [Program.wp_bind]
      refine Program.wp_mono (around.inLibrary_wp body met) fun rc state reached => ?_
      exact (around.unloading rc).call_wp reached fun _ _ reached => reached

end Surrounds

end Suite

end Se05x.Pkcs11
