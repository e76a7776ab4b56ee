import Se05x.CppApp.Crypto
import Se05x.Interaction.Contract
import Se05x.Interaction.Throwing
import Se05x.Sss.SecureElement

/-!
# Runs of the C++ wrapper

How each primitive of the wrapper continues or throws, and the runs of its operations.
-/

set_option autoImplicit false

namespace Se05x.CppApp

open Der Interaction

/-- What a vector construction that is not granted throws. -/
def allocationException : Allocation → CppException
  | .lengthError => .lengthError
  | _ => .badAlloc

section Primitives

variable {Value : Type} {trace : List (Event host)} {outcome : Except CppException Value}

@[simp] theorem runs_sss_bind_iff {request : SssCall} {continuation : request.Answer → Cpp Value} :
    (@bind Cpp _ (no_index request.Answer) Value (sss request) continuation).run.Runs trace outcome ↔
      ∃ answer rest, trace = ⟨.sss request, answer⟩ :: rest ∧
        (continuation answer).run.Runs rest outcome :=
  Program.runs_call_iff

@[simp] theorem runs_check_bind_iff {st : SssStatus} {place : String}
    {continuation : Unit → Cpp Value} :
    (check st place >>= continuation).run.Runs trace outcome ↔
      st = .success ∧ (continuation ()).run.Runs trace outcome ∨
      st ≠ .success ∧ trace = [] ∧ outcome = .error (.crypto ("SSS call failed: " ++ place) st) := by
  by_cases passed : st = .success
  · subst passed
    simp [check]
  · have shape : (check st place >>= continuation) =
        throw (.crypto ("SSS call failed: " ++ place) st) := by
      rw [check, if_neg passed]
      rfl
    rw [shape, Program.runs_throw_iff]
    simp [passed]

theorem runs_check_iff {st : SssStatus} {place : String} {outcome : Except CppException Unit} :
    (check st place).run.Runs trace outcome ↔ trace = [] ∧ outcome =
      if st = .success then .ok () else .error (.crypto ("SSS call failed: " ++ place) st) := by
  by_cases passed : st = .success
  · rw [check, if_pos passed, if_pos passed]
    exact Program.runs_pure_iff
  · rw [check, if_neg passed, if_neg passed]
    exact Program.runs_throw_iff

@[simp] theorem runs_allocate_bind_iff {size : Nat} {continuation : Unit → Cpp Value} :
    (allocate size >>= continuation).run.Runs trace outcome ↔
      ∃ answer rest, trace = ⟨.allocate size, answer⟩ :: rest ∧
        (answer = .granted ∧ (continuation ()).run.Runs rest outcome ∨
          answer ≠ .granted ∧ rest = [] ∧ outcome = .error (allocationException answer)) := by
  refine Program.runs_call_iff.trans ?_
  refine exists_congr fun answer => exists_congr fun rest => and_congr_right fun _ => ?_
  cases answer with
  | granted =>
      constructor
      · intro run
        exact .inl ⟨rfl, run⟩
      · intro ran
        obtain ⟨_, run⟩ | ⟨refused, _⟩ := ran
        · exact run
        · exact absurd rfl refused
  | badAlloc =>
      constructor
      · intro run
        exact .inr ⟨nofun, Program.runs_done_iff.mp run⟩
      · intro ran
        obtain ⟨granted, _⟩ | ⟨_, rfl, rfl⟩ := ran
        · cases granted
        · exact .done
  | lengthError =>
      constructor
      · intro run
        exact .inr ⟨nofun, Program.runs_done_iff.mp run⟩
      · intro ran
        obtain ⟨granted, _⟩ | ⟨_, rfl, rfl⟩ := ran
        · cases granted
        · exact .done

/-- An operation that returned went through its context without a failure. -/
theorem asymmetricOutput_runs_ok {context : KeyContext} {initPlace place : String} {size : Nat}
    {operation : Program host (SssStatus × Filled size)} {bytes : Bytes}
    (run : (asymmetricOutput context initPlace size operation place).run.Runs trace (.ok bytes)) :
    ∃ working reply, operation.Runs working reply ∧ reply.1 = .success ∧ bytes = reply.2.val ∧
      trace = ⟨.sss (.asymmetricContextInit context), .success⟩ :: ⟨.allocate size, .granted⟩ ::
        (working ++ [⟨.sss (.asymmetricContextFree (some context)), ()⟩]) := by
  obtain ⟨st, _, rfl, checked⟩ := runs_sss_bind_iff.mp run
  rcases runs_check_bind_iff.mp checked with ⟨rfl, sizing⟩ | ⟨_, _, ⟨⟩⟩
  obtain ⟨answer, _, rfl, ⟨rfl, working⟩ | ⟨_, _, ⟨⟩⟩⟩ := runs_allocate_bind_iff.mp sizing
  obtain ⟨first, _, reply, rfl, worked, freeing⟩ := Program.runs_throwing_bind_ok working
  obtain ⟨reply, performed, ⟨⟩⟩ := Program.runs_lift_iff.mp worked
  obtain ⟨_, _, rfl, last⟩ := runs_sss_bind_iff.mp freeing
  rcases runs_check_bind_iff.mp last with ⟨passed, returned⟩ | ⟨_, _, ⟨⟩⟩
  obtain ⟨rfl, ⟨⟩⟩ := Program.runs_pure_iff.mp returned
  exact ⟨first, reply, performed, passed, rfl, rfl⟩

variable {State : Type} {contract : Contract host State} {state : State}
  {post : Except CppException Value → State → Prop}

@[simp] theorem wp_sss_bind {request : SssCall} {continuation : request.Answer → Cpp Value} :
    (@bind Cpp _ (no_index request.Answer) Value (sss request) continuation).run.wp contract post
        state ↔
      contract.allows state (.sss request) ∧
        ∀ answer after, contract.moves state ⟨.sss request, answer⟩ after →
          (continuation answer).run.wp contract post after := Iff.rfl

@[simp] theorem wp_check_bind {st : SssStatus} {place : String} {continuation : Unit → Cpp Value} :
    (check st place >>= continuation).run.wp contract post state ↔
      (st = .success → (continuation ()).run.wp contract post state) ∧
      (st ≠ .success → post (.error (.crypto ("SSS call failed: " ++ place) st)) state) := by
  by_cases passed : st = .success
  · subst passed
    simp [check]
  · have shape : (check st place >>= continuation) =
        throw (.crypto ("SSS call failed: " ++ place) st) := by
      rw [check, if_neg passed]
      rfl
    rw [shape]
    simp only [passed, false_implies, true_and, ne_eq, not_false_eq_true, true_implies]
    rfl

@[simp] theorem wp_allocate_bind {size : Nat} {continuation : Unit → Cpp Value} :
    (allocate size >>= continuation).run.wp contract post state ↔
      contract.allows state (.allocate size) ∧
        ∀ answer after, contract.moves state ⟨.allocate size, answer⟩ after →
          (answer = .granted → (continuation ()).run.wp contract post after) ∧
          (answer ≠ .granted → post (.error (allocationException answer)) after) := by
  refine and_congr_right fun _ => forall_congr' fun answer => forall_congr' fun after =>
    imp_congr_right fun _ => ?_
  cases answer with
  | granted => exact ⟨fun met => ⟨fun _ => met, nofun⟩, fun met => met.1 rfl⟩
  | badAlloc => exact ⟨fun met => ⟨nofun, fun _ => met⟩, fun met => met.2 nofun⟩
  | lengthError => exact ⟨fun met => ⟨nofun, fun _ => met⟩, fun met => met.2 nofun⟩

theorem wp_lift_bind {Reply : Type} {program : Program host Reply}
    {continuation : Reply → Cpp Value} :
    (ExceptT.lift program >>= continuation).run.wp contract post state ↔
      program.wp contract (fun reply => (continuation reply).run.wp contract post) state := by
  have shape : (ExceptT.lift program >>= continuation).run =
      program >>= fun reply => (continuation reply).run := by
    refine (Program.bind_assoc _ _ _).trans ?_
    rfl
  rw [shape, Program.wp_bind]

@[simp] theorem wp_pure {value : Value} :
    (pure value : Cpp Value).run.wp contract post state ↔ post (.ok value) state := Iff.rfl

end Primitives

/-! ## Against a secure element -/

section Served

open SecureElement

variable {element : SecureElement} {server : Server host (State element)} {Value : Type}
  {state : State element}

theorem exec_sss_bind (hosts : Hosts element server) {request : SssCall}
    {continuation : request.Answer → Cpp Value} :
    (@bind Cpp _ (no_index request.Answer) Value (sss request) continuation).run.exec server state =
      (continuation (serve state request).1).run.exec server (serve state request).2 := by
  have step : (sss request >>= continuation).run.exec server state =
      (continuation (server state (.sss request)).1).run.exec server
        (server state (.sss request)).2 := rfl
  rw [step, hosts.sss]

theorem exec_allocate_bind (hosts : Hosts element server) {size : Nat}
    {continuation : Unit → Cpp Value} :
    (allocate size >>= continuation).run.exec server state =
      (continuation ()).run.exec server state := by
  have step : (allocate size >>= continuation).run.exec server state =
      (constructed (server state (.allocate size)).1 >>= continuation).run.exec server
        (server state (.allocate size)).2 := rfl
  rw [step, hosts.allocates]
  rfl

@[simp] theorem exec_check_success {place : String} {continuation : Unit → Cpp Value} :
    (check .success place >>= continuation).run.exec server state =
      (continuation ()).run.exec server state := rfl

theorem exec_check_failed {st : SssStatus} {place : String} {continuation : Unit → Cpp Value}
    (failed : st ≠ .success) :
    (check st place >>= continuation).run.exec server state =
      (.error (.crypto ("SSS call failed: " ++ place) st), state) := by
  rw [check, if_neg failed]
  rfl

theorem exec_lift_bind {Reply : Type} {program : Program host Reply}
    {continuation : Reply → Cpp Value} :
    (ExceptT.lift program >>= continuation).run.exec server state =
      (continuation (program.exec server state).1).run.exec server (program.exec server state).2 := by
  have shape : (ExceptT.lift program >>= continuation).run =
      program >>= fun reply => (continuation reply).run := by
    refine (Program.bind_assoc _ _ _).trans ?_
    rfl
  rw [shape, Program.exec_bind]

@[simp] theorem exec_pure {value : Value} :
    (pure value : Cpp Value).run.exec server state = (.ok value, state) := rfl

/-- The result of a call whose output is returned once its status has been checked. -/
def finished (place : String) {capacity : Nat} (reply : SssStatus × Filled capacity) :
    Except CppException Bytes :=
  if reply.1 = .success then .ok reply.2.val
  else .error (.crypto ("SSS call failed: " ++ place) reply.1)

theorem exec_check_output {capacity : Nat} (reply : SssStatus × Filled capacity) {place : String} :
    (check reply.1 place >>= fun _ => (pure reply.2.val : Cpp Bytes)).run.exec server state =
      (finished place reply, state) := by
  by_cases passed : reply.1 = .success
  · rw [passed, exec_check_success, exec_pure, finished, if_pos passed]
  · rw [exec_check_failed passed, finished, if_neg passed]

theorem asymmetricOutput_exec (hosts : Hosts element server) {context : KeyContext}
    {initPlace place : String} {size : Nat} {operation : Program host (SssStatus × Filled size)}
    {reply : SssStatus × Filled size} (answered : operation.exec server state = (reply, state)) :
    (asymmetricOutput context initPlace size operation place).run.exec server state =
      (finished place reply, state) := by
  rw [asymmetricOutput, exec_sss_bind hosts]
  change (allocate size >>= _).run.exec server state = _
  rw [exec_allocate_bind hosts, exec_lift_bind, answered, exec_sss_bind hosts]
  exact exec_check_output reply

theorem asymmetricVerify_exec (hosts : Hosts element server) {context : KeyContext}
    {initPlace : String} {digest signature : Bytes} :
    (asymmetricVerify context initPlace digest signature).run.exec server state =
      (.ok (succeeded (serve state (.asymmetricVerifyDigest context digest signature)).1), state) := by
  rw [asymmetricVerify, exec_sss_bind hosts]
  change (sss (.asymmetricVerifyDigest context digest signature) >>= _).run.exec server state = _
  rw [exec_sss_bind hosts, exec_sss_bind hosts]
  rfl

theorem openHandle_exec (hosts : Hosts element server) {keyId : KeyId}
    (stored : (state.objects keyId).isSome) :
    (openHandle keyId).run.exec server state = (.ok (.existing keyId), state) := by
  rw [openHandle, exec_sss_bind hosts]
  change (sss (.keyObjectGetHandle keyId) >>= _).run.exec server state = _
  rw [exec_sss_bind hosts]
  have found : serve state (.keyObjectGetHandle keyId) = (.success, state) := by
    rw [serve, statusOf, stored]
    rfl
  rw [found]
  rfl

theorem openHandle_exec_absent (hosts : Hosts element server) {keyId : KeyId}
    (absent : (state.objects keyId).isSome = false) :
    (openHandle keyId).run.exec server state =
      (.error (.crypto "SSS call failed: key_object_get_handle" .fail), state) := by
  rw [openHandle, exec_sss_bind hosts]
  change (sss (.keyObjectGetHandle keyId) >>= _).run.exec server state = _
  rw [exec_sss_bind hosts]
  have missing : serve state (.keyObjectGetHandle keyId) = (.fail, state) := by
    rw [serve, statusOf, absent]
    rfl
  rw [missing]
  exact exec_check_failed nofun

theorem finished_deliver_fits {place : String} {capacity : Nat} {bytes : Bytes}
    (fits : bytes.length ≤ capacity) : finished place (deliver capacity (some bytes)) = .ok bytes := by
  rw [deliver_fits fits, finished, if_pos rfl]

theorem finished_deliver_full {place : String} {capacity : Nat} {bytes : Bytes}
    (full : capacity < bytes.length) : finished place (deliver capacity (some bytes)) =
      .error (.crypto ("SSS call failed: " ++ place) .fail) := by
  rw [deliver_full full, finished, if_neg nofun]

/-- Two buffers give the same outcome unless the result fits only the larger one. -/
theorem finished_deliver_eq_iff {place : String} {small large : Nat} {result : Option Bytes}
    (le : small ≤ large) :
    finished place (deliver large result) = finished place (deliver small result) ↔
      ∀ bytes, result = some bytes → bytes.length ≤ small ∨ large < bytes.length := by
  cases result with
  | none => exact ⟨fun _ => nofun, fun _ => rfl⟩
  | some bytes =>
      simp only [Option.some.injEq, forall_eq']
      by_cases fits : bytes.length ≤ small
      · rw [finished_deliver_fits fits, finished_deliver_fits (fits.trans le)]
        exact ⟨fun _ => .inl fits, fun _ => rfl⟩
      · rw [finished_deliver_full (Nat.lt_of_not_le fits)]
        by_cases full : large < bytes.length
        · rw [finished_deliver_full full]
          exact ⟨fun _ => .inr full, fun _ => rfl⟩
        · rw [finished_deliver_fits (Nat.le_of_not_lt full)]
          exact ⟨nofun, fun either => absurd either (not_or.mpr ⟨fits, full⟩)⟩

end Served

end Se05x.CppApp
