import Se05x.CppApp.ConductProperties
import Se05x.Interaction.Reporting

/-!
# What the exit code says

For every behaviour of the environment, an exit code other than 1 means that nothing failed
on the way but, at most, the erase that a forced key generation ignores; and the code 2
stands for a refused signature.
-/

set_option autoImplicit false

namespace Se05x

open Interaction

/-- What a call reports about itself. A verdict on a signature is no such report. -/
def SssCall.status : (request : SssCall) → request.Answer → Option SssStatus
  | .rngContextInit, st => some st
  | .rngGetRandom _, answer => some answer.1
  | .keyObjectInit, st => some st
  | .keyObjectGetHandle _, st => some st
  | .keyObjectAllocateHandle _ _ _ _ _, st => some st
  | .keyStoreEraseKey _, st => some st
  | .keyStoreGenerateKey _ _, st => some st
  | .keyStoreSetKey _ _ _, st => some st
  | .keyStoreGetKey _ _, answer => some answer.1
  | .asymmetricContextInit _, st => some st
  | .asymmetricSignDigest _ _ _, answer => some answer.1
  | .asymmetricEncrypt _ _ _, answer => some answer.1
  | .asymmetricDecrypt _ _ _, answer => some answer.1
  | .deriveKeyContextInit _, st => some st
  | .deriveKeyDh _ _ _, st => some st
  | .digestContextInit _, st => some st
  | .digestOneGo _ _ _, answer => some answer.1
  | .asymmetricVerifyDigest _ _ _, _ | .rngContextFree, _ | .keyObjectFree _, _
  | .asymmetricContextFree _, _ | .deriveKeyContextFree _, _ | .digestContextFree _, _ => none

namespace CppApp

open Der

/-- The call did what it was asked for. -/
def Served : Event host → Prop
  | ⟨.sss request, answer⟩ => ∀ st, request.status answer = some st → st = .success
  | ⟨.allocate _, answer⟩ => answer = .granted
  | ⟨.readFile _, answer⟩ => ∃ bytes, answer = .contents bytes
  | ⟨.writeFile _ _, opened⟩ => opened = true
  | ⟨.bootOpen _, st⟩ | ⟨.keyStoreAndObjectInit, st⟩ => st = .success
  | _ => True

/-- A signature was not accepted. -/
def Refuses : Event host → Prop
  | ⟨.sss (.asymmetricVerifyDigest _ _ _), st⟩ => st ≠ .success
  | _ => False

/-- The call asks for no verdict. -/
def Unjudged (request : HostCall) : Prop := ∀ answer, ¬ Refuses ⟨request, answer⟩

/-- The call changes at most these stored objects. -/
def Within (keyIds : List KeyId) (request : HostCall) : Prop :=
  ∀ keyId, request.target = some keyId → keyId ∈ keyIds

def Mild (keyIds : List KeyId) (request : HostCall) : Prop :=
  Within keyIds request ∧ Unjudged request

theorem within_of_untargeted {keyIds : List KeyId} {request : HostCall}
    (untargeted : request.target = none) : Within keyIds request := by
  intro keyId targeted
  rw [untargeted] at targeted
  cases targeted

theorem mild {keyIds : List KeyId} {request : HostCall} (untargeted : request.target = none)
    (unjudged : Unjudged request) : Mild keyIds request :=
  ⟨within_of_untargeted untargeted, unjudged⟩

theorem mild_of_target {keyIds : List KeyId} {request : HostCall} {keyId : KeyId}
    (targeted : request.target = some keyId) (member : keyId ∈ keyIds)
    (unjudged : Unjudged request) : Mild keyIds request := by
  refine ⟨?_, unjudged⟩
  intro other same
  rw [targeted] at same
  cases same
  exact member

theorem served_sss {request : SssCall} {answer : request.Answer} {st : SssStatus}
    (reports : request.status answer = some st) (passed : st = .success) :
    Served ⟨.sss request, answer⟩ := by
  intro other same
  rw [reports] at same
  cases same
  exact passed

/-! ## Operations -/

section Operations

variable {keyIds : List KeyId} {Value : Type} {mbedtls : Mbedtls} {target : Target}

theorem check_demands {st : SssStatus} {place : String} :
    Yields (fun _ => st = .success) (check st place) := by
  intro trace value run
  by_contra failed
  rw [check, if_neg failed] at run
  cases (Program.runs_throw_iff.mp run).2

theorem check_reports {st : SssStatus} {place : String} :
    Reports (Mild keyIds) Served (check st place) := by
  rw [check]
  split
  · exact .returning
  · exact .throwing

/-- A call whose status is checked, before the rest. -/
theorem checked_reports (request : SssCall) {statusOf : request.Answer → SssStatus}
    {place : request.Answer → String} {continuation : request.Answer → Unit → Cpp Value}
    (reports : ∀ answer, request.status answer = some (statusOf answer))
    (permitted : Mild keyIds (.sss request))
    (rest : ∀ answer, Reports (Mild keyIds) Served (continuation answer ())) :
    Reports (Mild keyIds) Served (@bind Cpp _ (no_index request.Answer) Value (sss request) fun answer =>
      check (statusOf answer) (place answer) >>= continuation answer) := by
  refine Reports.asking permitted ?_ ?_
  · intro answer
    refine .first ?_
    intro trace value run
    exact served_sss (reports answer) (check_demands trace value run)
  · intro answer
    exact check_reports.bind fun _ => rest answer

/-- An object is bound to an identifier under which something will be stored. -/
theorem allocated_reports {keyId : KeyId} {keyPart : KeyPart} {cipherType : CipherType} {room : Nat}
    {mode : ObjectMode} {initPlace place : String} {continuation : Unit → Cpp Value}
    (rest : Reports (Mild keyIds) Served (continuation ())) :
    Reports (Mild keyIds) Served (do
      check (← sss .keyObjectInit) initPlace
      let st ← sss (.keyObjectAllocateHandle keyId keyPart cipherType room mode)
      check st place >>= continuation) := by
  refine checked_reports .keyObjectInit (fun _ => rfl) (mild rfl fun _ => id) fun _ => ?_
  exact checked_reports (.keyObjectAllocateHandle _ _ _ _ _) (fun _ => rfl) (mild rfl fun _ => id)
    fun _ => rest

/-- A call that reports nothing. -/
theorem silent_reports (request : SssCall) (silent : ∀ answer, request.status answer = none)
    (permitted : Mild keyIds (.sss request)) : Reports (Mild keyIds) Served (sss request) := by
  refine .issuing permitted ?_
  intro answer st same
  rw [silent] at same
  cases same

theorem allocate_reports {size : Nat} : Reports (Mild keyIds) Served (allocate size) := by
  refine Reports.asking (mild rfl fun _ => id) ?_ ?_
  · intro answer
    cases answer with
    | granted => exact fun _ _ _ => rfl
    | badAlloc => exact .throwing
    | lengthError => exact .throwing
  · intro answer
    cases answer with
    | granted => exact .returning
    | badAlloc => exact .throwing
    | lengthError => exact .throwing

/-- The buffer of an operation is filled, its context freed, and then its status checked. -/
theorem filled_reports {Output : Type} {operation : Program host (SssStatus × Output)}
    {freeing : SssCall} {place : String} {result : Output → Value}
    (worked : ∀ trace reply, operation.Runs trace reply → ∀ event ∈ trace,
      Mild keyIds event.request ∧ (reply.1 = .success → Served event))
    (freed : Reports (Mild keyIds) Served (sss freeing)) :
    Reports (Mild keyIds) Served (do
      let (st, out) ← ExceptT.lift operation
      let _ ← sss freeing
      check st place
      return result out) := by
  refine Reports.working (fun trace reply run event member => (worked trace reply run event member).1)
    ?_ ?_
  · intro trace reply run
    refine .rest fun _ => .first ?_
    intro _ _ checked event member
    exact (worked trace reply run event member).2 (check_demands _ _ checked)
  · intro reply
    exact freed.bind fun _ => check_reports.bind fun _ => .returning

theorem asked_worked (request : SssCall) {statusOf : request.Answer → SssStatus}
    (reports : ∀ answer, request.status answer = some (statusOf answer))
    (permitted : Mild keyIds (.sss request)) (trace : List (Event host)) (reply : request.Answer)
    (run : (ask (.sss request)).Runs trace reply) : ∀ event ∈ trace,
      Mild keyIds event.request ∧ (statusOf reply = .success → Served event) := by
  obtain ⟨_, _, rfl, ended⟩ := Program.runs_call_iff.mp run
  obtain ⟨rfl, rfl⟩ := Program.runs_done_iff.mp ended
  exact List.forall_mem_singleton.mpr ⟨permitted, served_sss (reports _)⟩

theorem getRandom_reports {numBytes : Nat} : Reports (Mild keyIds) Served (getRandom numBytes) := by
  refine checked_reports .rngContextInit (fun _ => rfl) (mild rfl fun _ => id) fun _ => ?_
  refine allocate_reports.bind fun _ => ?_
  exact filled_reports (asked_worked (.rngGetRandom numBytes) (fun _ => rfl) (mild rfl fun _ => id))
    (silent_reports .rngContextFree (fun _ => rfl) (mild rfl fun _ => id))

theorem asymmetricOutput_reports {context : KeyContext} {initPlace place : String} {size : Nat}
    {operation : Program host (SssStatus × Filled size)}
    (worked : ∀ trace reply, operation.Runs trace reply → ∀ event ∈ trace,
      Mild keyIds event.request ∧ (reply.1 = .success → Served event)) :
    Reports (Mild keyIds) Served (asymmetricOutput context initPlace size operation place) := by
  refine checked_reports (.asymmetricContextInit context) (fun _ => rfl) (mild rfl fun _ => id)
    fun _ => ?_
  refine allocate_reports.bind fun _ => ?_
  exact filled_reports worked
    (silent_reports (.asymmetricContextFree (some context)) (fun _ => rfl) (mild rfl fun _ => id))

theorem export_reports {obj : SssObject} {capacity : Nat} {place : String} :
    Reports (Mild keyIds) Served (do
      allocate capacity
      let (st, buf) ← sss (.keyStoreGetKey obj capacity)
      check st place
      return buf.val) :=
  allocate_reports.bind fun _ =>
    checked_reports (.keyStoreGetKey obj capacity) (fun _ => rfl) (mild rfl fun _ => id)
      fun _ => .returning

theorem openHandle_reports {keyId : KeyId} : Reports (Mild keyIds) Served (openHandle keyId) :=
  checked_reports .keyObjectInit (fun _ => rfl) (mild rfl fun _ => id) fun _ =>
    checked_reports (.keyObjectGetHandle keyId) (fun _ => rfl) (mild rfl fun _ => id)
      fun _ => .returning

theorem EcKey.open_reports {keyId : KeyId} : Reports (Mild keyIds) Served (EcKey.open keyId) :=
  openHandle_reports.bind fun _ => .returning

theorem RsaKey.open_reports {keyId : KeyId} : Reports (Mild keyIds) Served (RsaKey.open keyId) :=
  openHandle_reports.bind fun _ => .returning

theorem EcKey.sign_reports {k : EcKey} {digest : Bytes} :
    Reports (Mild keyIds) Served (k.sign digest) := by
  refine asymmetricOutput_reports ?_
  exact asked_worked (.asymmetricSignDigest _ _ _) (fun _ => rfl) (mild rfl fun _ => id)

theorem RsaKey.sign_reports {k : RsaKey} {digest : Bytes} :
    Reports (Mild keyIds) Served (k.sign digest) := by
  refine asymmetricOutput_reports ?_
  exact asked_worked (.asymmetricSignDigest _ _ _) (fun _ => rfl) (mild rfl fun _ => id)

theorem RsaKey.encrypt_reports {k : RsaKey} {plaintext : Bytes} :
    Reports (Mild keyIds) Served (k.encrypt plaintext) := by
  refine asymmetricOutput_reports ?_
  exact asked_worked (.asymmetricEncrypt _ _ _) (fun _ => rfl) (mild rfl fun _ => id)

theorem RsaKey.decrypt_reports {k : RsaKey} {ciphertext : Bytes} :
    Reports (Mild keyIds) Served (k.decrypt ciphertext) := by
  refine asymmetricOutput_reports ?_
  exact asked_worked (.asymmetricDecrypt _ _ _) (fun _ => rfl) (mild rfl fun _ => id)

theorem EcKey.ecdh_reports {k : EcKey} {peer : Bytes}
    (scratch : [0xEF009E01, 0xEF009E02] ⊆ keyIds) : Reports (Mild keyIds) Served (k.ecdh peer) := by
  have imports : (0xEF009E01 : KeyId) ∈ keyIds := scratch List.mem_cons_self
  have derives : (0xEF009E02 : KeyId) ∈ keyIds := scratch (List.mem_cons_of_mem _ List.mem_cons_self)
  refine allocated_reports ?_
  refine checked_reports (.keyStoreSetKey _ _ _) (fun _ => rfl)
    (mild_of_target rfl imports fun _ => id) fun _ => ?_
  refine allocated_reports ?_
  refine checked_reports (.deriveKeyContextInit _) (fun _ => rfl) (mild rfl fun _ => id) fun _ => ?_
  refine Reports.asking (mild_of_target rfl derives fun _ => id) ?_ ?_
  · intro st
    refine .rest fun _ => .first ?_
    intro trace value run
    exact served_sss rfl (check_demands trace value run)
  · intro st
    refine (silent_reports (.deriveKeyContextFree _) (fun _ => rfl) (mild rfl fun _ => id)).bind
      fun _ => ?_
    exact check_reports.bind fun _ => export_reports

theorem makeCsrImpl_reports {subjectDn : String} {spki : Bytes} {sign : Bytes → Cpp Bytes}
    {isEc : Bool} (signing : ∀ digest, Reports (Mild keyIds) Served (sign digest)) :
    Reports (Mild keyIds) Served (makeCsrImpl mbedtls target subjectDn spki sign isEc) := by
  refine Reports.ofExcept.bind fun cri => ?_
  cases mbedtls.sha256Ret cri with
  | none => exact .throwing
  | some digest => exact (signing _).bind fun _ => .ofExcept

theorem EcKey.makeCsr_reports {k : EcKey} {subjectDn : String} :
    Reports (Mild keyIds) Served (k.makeCsr mbedtls target subjectDn) := by
  refine export_reports.bind fun _ => ?_
  exact makeCsrImpl_reports fun _ => EcKey.sign_reports

theorem RsaKey.makeCsr_reports {k : RsaKey} {subjectDn : String} :
    Reports (Mild keyIds) Served (k.makeCsr mbedtls target subjectDn) := by
  refine export_reports.bind fun _ => ?_
  exact makeCsrImpl_reports fun _ => RsaKey.sign_reports

theorem EcKey.generate_reports {keyId : KeyId} {curve : EcCurve} (own : keyId ∈ keyIds) :
    Reports (Mild keyIds) Served (EcKey.generate keyId curve) := by
  refine allocated_reports ?_
  refine checked_reports (.keyStoreGenerateKey _ _) (fun _ => rfl)
    (mild_of_target rfl own fun _ => id) fun _ => ?_
  exact .returning

theorem RsaKey.generate_reports {keyId : KeyId} {bits : RsaBits} (own : keyId ∈ keyIds) :
    Reports (Mild keyIds) Served (RsaKey.generate keyId bits) := by
  refine allocated_reports ?_
  refine checked_reports (.keyStoreGenerateKey _ _) (fun _ => rfl)
    (mild_of_target rfl own fun _ => id) fun _ => ?_
  exact .returning

end Operations

section Output

variable {keyIds : List KeyId} {a : Args}

theorem readFile_reports {path : String} : Reports (Mild keyIds) Served (readFile path) := by
  refine Reports.asking (mild rfl fun _ => id) ?_ ?_
  · intro file
    cases file with
    | cannotOpen | failed what => exact .throwing
    | contents bytes => exact fun _ _ _ => ⟨bytes, rfl⟩
  · intro file
    cases file with
    | cannotOpen | failed what => exact .throwing
    | contents bytes => exact .returning

theorem writeFile_reports {path : String} {d : Bytes} :
    Reports (Mild keyIds) Served (writeFile path d) := by
  refine Reports.asking (mild rfl fun _ => id) ?_ ?_
  · intro opened
    cases opened with
    | false => exact .throwing
    | true => exact fun _ _ _ => rfl
  · intro opened
    cases opened with
    | false => exact .throwing
    | true => exact .returning

theorem printError_reports {text : String} : Reports (Mild keyIds) Served (printError text) :=
  .issuing (mild rfl fun _ => id) fun _ => trivial

theorem printOut_reports {text : Bytes} : Reports (Mild keyIds) Served (printOut text) :=
  .issuing (mild rfl fun _ => id) fun _ => trivial

theorem emit_reports {d : Bytes} : Reports (Mild keyIds) Served (emit a d) := by
  rw [emit]
  split
  · exact writeFile_reports.bind fun _ => printError_reports
  · exact printOut_reports

theorem emitText_reports {text : Bytes} : Reports (Mild keyIds) Served (emitText a text) := by
  rw [emitText]
  split
  · exact writeFile_reports.bind fun _ => printError_reports
  · exact printOut_reports

end Output

/-! ## Commands -/

def SignatureRefused (trace : List (Event host)) : Prop := ∃ event ∈ trace, Refuses event

/-- Nothing failed but, at most, the erase before a forced key generation. -/
inductive Reliable (target : Target) (a : Args) (trace : List (Event host)) : Prop where
  | served : (∀ event ∈ trace, Served event) → Reliable target a trace
  | forced {keyId : KeyId} {before erasure after : List (Event host)}
      {outcome : Except CppException Unit} :
      a.command = "genkey" ∨ a.command = "provision" → a.flag "--force" = true →
      parseId target a = .ok keyId → (eraseKey keyId).run.Runs erasure outcome →
      trace = before ++ (erasure ++ after) → (∀ event ∈ before ++ after, Served event) →
      Reliable target a trace

/-- The stored objects that a command line lets the program change. -/
def Args.changes (target : Target) (a : Args) : List KeyId :=
  if a.group = "ecc" ∧ a.command = "ecdh" then [0xEF009E01, 0xEF009E02]
  else if (a.group = "ecc" ∨ a.group = "rsa") ∧ (a.command = "genkey" ∨ a.command = "provision") then
    (parseId target a).toOption.toList
  else []

/-- The code 2 stands for a refused signature; no code but 1 hides a failure. -/
structure Exits (target : Target) (a : Args) (trace : List (Event host))
    (outcome : Except CppException Nat) : Prop where
  within : ∀ event ∈ trace, Within (a.changes target) event.request
  refused : outcome = .ok 2 ↔ SignatureRefused trace
  known : ∀ rc, outcome = .ok rc → rc = 0 ∨ rc = 1 ∨ rc = 2
  reliable : ∀ rc, outcome = .ok rc → rc ≠ 1 → Reliable target a trace

section Commands

variable {mbedtls : Mbedtls} {target : Target} {a : Args} {trace : List (Event host)}

theorem changes_of_ecdh (grouped : a.group = "ecc") (agrees : a.command = "ecdh") :
    [0xEF009E01, 0xEF009E02] ⊆ a.changes target := by
  rw [Args.changes, if_pos ⟨grouped, agrees⟩]
  exact List.Subset.refl _

theorem changes_of_provisions {keyId : KeyId} (grouped : a.group = "ecc" ∨ a.group = "rsa")
    (provisions : a.command = "genkey" ∨ a.command = "provision")
    (parsed : parseId target a = .ok keyId) : keyId ∈ a.changes target := by
  have other : ¬ (a.group = "ecc" ∧ a.command = "ecdh") := by
    rintro ⟨_, agrees⟩
    rcases provisions with generates | provisions
    · exact absurd (generates.symm.trans agrees) (by decide)
    · exact absurd (provisions.symm.trans agrees) (by decide)
  rw [Args.changes, if_neg other, if_pos ⟨grouped, provisions⟩, parsed]
  exact List.mem_singleton_self keyId

theorem Reliable.surrounded {before after : List (Event host)} (reliable : Reliable target a trace)
    (first : ∀ event ∈ before, Served event) (last : ∀ event ∈ after, Served event) :
    Reliable target a (before ++ (trace ++ after)) := by
  cases reliable with
  | served all =>
      exact .served (List.forall_mem_append.mpr ⟨first, List.forall_mem_append.mpr ⟨all, last⟩⟩)
  | @forced keyId early erasure late outcome provisions forced identified erased same all =>
      obtain ⟨earlier, later⟩ := List.forall_mem_append.mp all
      refine @Reliable.forced _ _ _ _ (before ++ early) erasure (late ++ after) _ provisions forced
        identified erased ?_ ?_
      · rw [same]
        simp only [List.append_assoc]
      · exact List.forall_mem_append.mpr ⟨List.forall_mem_append.mpr ⟨first, earlier⟩,
          List.forall_mem_append.mpr ⟨later, last⟩⟩

theorem not_refused_of_mild {keyIds : List KeyId}
    (mild : ∀ event ∈ trace, Mild keyIds event.request) : ¬ SignatureRefused trace := by
  intro refused
  obtain ⟨event, member, refuses⟩ := refused
  exact (mild event member).2 event.answer refuses

theorem refused_append_iff {keyIds : List KeyId} {before after : List (Event host)}
    (mild : ∀ event ∈ before, Mild keyIds event.request) :
    SignatureRefused (before ++ after) ↔ SignatureRefused after := by
  constructor
  · intro refused
    obtain ⟨event, member, refuses⟩ := refused
    rcases List.mem_append.mp member with early | late
    · exact absurd ⟨event, early, refuses⟩ (not_refused_of_mild mild)
    · exact ⟨event, late, refuses⟩
  · intro refused
    obtain ⟨event, member, refuses⟩ := refused
    exact ⟨event, List.mem_append_right _ member, refuses⟩

theorem exits_of_reports {command : Cpp Nat} {outcome : Except CppException Nat}
    (reported : Reports (Mild (a.changes target)) Served command)
    (codes : Yields (fun rc => rc = 0 ∨ rc = 1) command)
    (run : command.run.Runs trace outcome) : Exits target a trace outcome where
  within event member := (reported.issued _ _ run event member).1
  refused := by
    refine iff_of_false ?_ (not_refused_of_mild (reported.issued _ _ run))
    intro same
    rw [same] at run
    rcases codes _ _ run with zero | one
    · cases zero
    · cases one
  known rc same := by
    rw [same] at run
    rcases codes _ _ run with zero | one
    · exact .inl zero
    · exact .inr (.inl one)
  reliable rc same _ := by
    rw [same] at run
    exact .served (reported.served _ _ run)

theorem Exits.stopped {exception : CppException}
    (within : ∀ event ∈ trace, Within (a.changes target) event.request)
    (unrefused : ¬ SignatureRefused trace) : Exits target a trace (.error exception) where
  within := within
  refused := by
    refine iff_of_false ?_ unrefused
    intro same
    cases same
  known rc same := by cases same
  reliable rc same := by cases same

/-- What comes before the rest and may fail reports it. -/
theorem exits_after {Value : Type} {source : Cpp Value} {continuation : Value → Cpp Nat}
    {outcome : Except CppException Nat} (reported : Reports (Mild (a.changes target)) Served source)
    (rest : ∀ value {trace outcome}, (continuation value).run.Runs trace outcome →
      Exits target a trace outcome)
    (run : (source >>= continuation).run.Runs trace outcome) : Exits target a trace outcome := by
  rcases Program.runs_throwing_bind_iff.mp run with
    ⟨before, after, value, rfl, started, ended⟩ | ⟨error, stopped, rfl⟩
  · have exits := rest value ended
    refine ⟨?_, ?_, exits.known, ?_⟩
    · exact List.forall_mem_append.mpr
        ⟨fun event member => (reported.issued _ _ started event member).1, exits.within⟩
    · rw [refused_append_iff (reported.issued _ _ started)]
      exact exits.refused
    · intro rc same other
      rw [← List.append_nil after]
      exact (exits.reliable rc same other).surrounded (reported.served _ _ started)
        (List.forall_mem_nil _)
  · have mild := reported.issued _ _ stopped
    exact .stopped (fun event member => (mild event member).1) (not_refused_of_mild mild)

theorem emitted_exits {source : Cpp Bytes} {outcome : Except CppException Nat}
    (reported : Reports (Mild (a.changes target)) Served source)
    (run : (do emit a (← source); return 0 : Cpp Nat).run.Runs trace outcome) :
    Exits target a trace outcome := by
  refine exits_of_reports (reported.bind fun _ => emit_reports.bind fun _ => .returning) ?_ run
  exact .rest fun _ => .rest fun _ => .returning (.inl rfl)

theorem textEmitted_exits {source : Cpp Bytes} {outcome : Except CppException Nat}
    (reported : Reports (Mild (a.changes target)) Served source)
    (run : (do emitText a (← source); return 0 : Cpp Nat).run.Runs trace outcome) :
    Exits target a trace outcome := by
  refine exits_of_reports (reported.bind fun _ => emitText_reports.bind fun _ => .returning) ?_ run
  exact .rest fun _ => .rest fun _ => .returning (.inl rfl)

theorem asymmetricVerify_verdict {context : KeyContext} {initPlace : String} {digest signature : Bytes}
    {outcome : Except CppException Bool}
    (run : (asymmetricVerify context initPlace digest signature).run.Runs trace outcome) :
    (∀ event ∈ trace, event.request.target = none) ∧ (outcome = .ok false ↔ SignatureRefused trace) ∧
      ∀ ok, outcome = .ok ok → ∀ event ∈ trace, Served event := by
  obtain ⟨st, _, rfl, initialised⟩ := runs_sss_bind_iff.mp run
  rcases runs_check_bind_iff.mp initialised with ⟨rfl, working⟩ | ⟨_, rfl, rfl⟩
  · obtain ⟨verdict, _, rfl, freeing⟩ := runs_sss_bind_iff.mp working
    obtain ⟨_, _, rfl, ended⟩ := runs_sss_bind_iff.mp freeing
    obtain ⟨rfl, rfl⟩ := Program.runs_pure_iff.mp ended
    simp only [List.forall_mem_cons, List.not_mem_nil, false_implies, implies_true, and_true]
    refine ⟨⟨rfl, rfl, rfl⟩, ?_, ?_⟩
    · by_cases accepted : verdict = .success
      · subst accepted
        refine iff_of_false (fun same => by cases same) ?_
        intro refused
        obtain ⟨event, member, refuses⟩ := refused
        simp only [List.mem_cons, List.not_mem_nil, or_false] at member
        rcases member with rfl | rfl | rfl
        · exact refuses
        · exact refuses rfl
        · exact refuses
      · refine iff_of_true ?_ ⟨_, List.mem_cons_of_mem _ List.mem_cons_self, accepted⟩
        rw [succeeded, beq_eq_false_iff_ne.mpr accepted]
    · intro ok _
      refine ⟨served_sss rfl rfl, ?_, ?_⟩
      · intro st reported
        cases reported
      · intro st reported
        cases reported
  · refine ⟨List.forall_mem_singleton.mpr rfl, iff_of_false (fun same => by cases same) ?_, ?_⟩
    · exact @not_refused_of_mild _ [] (List.forall_mem_singleton.mpr (mild rfl fun _ => id))
    · intro ok same
      cases same

theorem verified_exits {context : KeyContext} {initPlace : String} {digest signature : Bytes}
    {outcome : Except CppException Nat}
    (run : (do
      let ok ← asymmetricVerify context initPlace digest signature
      printOut (asciiBytes (if ok then "VERIFY OK\n" else "VERIFY FAILED\n"))
      return if ok then 0 else 2 : Cpp Nat).run.Runs trace outcome) :
    Exits target a trace outcome := by
  rcases Program.runs_throwing_bind_iff.mp run with
    ⟨before, after, ok, rfl, judged, ended⟩ | ⟨error, stopped, rfl⟩
  · obtain ⟨untargeted, refused, served⟩ := asymmetricVerify_verdict judged
    obtain ⟨_, _, rfl, last⟩ := Program.runs_call_iff.mp ended
    obtain ⟨rfl, rfl⟩ := Program.runs_pure_iff.mp last
    have verdict : SignatureRefused (before ++ [⟨.printOut (asciiBytes
        (if ok then "VERIFY OK\n" else "VERIFY FAILED\n")), ()⟩]) ↔ SignatureRefused before := by
      constructor
      · intro refusal
        obtain ⟨event, member, refuses⟩ := refusal
        rcases List.mem_append.mp member with early | late
        · exact ⟨event, early, refuses⟩
        · obtain rfl := List.mem_singleton.mp late
          exact refuses.elim
      · intro refusal
        obtain ⟨event, member, refuses⟩ := refusal
        exact ⟨event, List.mem_append_left _ member, refuses⟩
    refine ⟨?_, ?_, ?_, ?_⟩
    · refine List.forall_mem_append.mpr ⟨?_, List.forall_mem_singleton.mpr ?_⟩
      · exact fun event member => within_of_untargeted (untargeted event member)
      · exact within_of_untargeted rfl
    · rw [verdict, ← refused]
      cases ok <;> simp
    · intro rc same
      cases ok with
      | false => exact .inr (.inr (Except.ok.inj same).symm)
      | true => exact .inl (Except.ok.inj same).symm
    · intro rc same other
      refine .served (List.forall_mem_append.mpr ⟨served ok rfl, ?_⟩)
      exact List.forall_mem_singleton.mpr trivial
  · obtain ⟨untargeted, refused, _⟩ := asymmetricVerify_verdict stopped
    refine .stopped (fun event member => within_of_untargeted (untargeted event member)) ?_
    intro refusal
    cases refused.mpr refusal

theorem eraseKey_reports {keyIds : List KeyId} {keyId : KeyId} (own : keyId ∈ keyIds) :
    Reports (Mild keyIds) Served (eraseKey keyId) := by
  refine checked_reports .keyObjectInit (fun _ => rfl) (mild rfl fun _ => id) fun _ => ?_
  refine checked_reports (.keyObjectGetHandle keyId) (fun _ => rfl) (mild rfl fun _ => id)
    fun _ => ?_
  refine Reports.asking (mild_of_target rfl own fun _ => id) ?_ fun _ => check_reports
  intro st trace value run
  exact served_sss rfl (check_demands trace value run)

/-- The erase may fail; what follows it may not. -/
theorem provisioning_exits {Choice : Type} {choice : Except CppException Choice}
    {generation : KeyId → Choice → Cpp Nat} {outcome : Except CppException Nat}
    (grouped : a.group = "ecc" ∨ a.group = "rsa")
    (provisions : a.command = "genkey" ∨ a.command = "provision")
    (generates : ∀ keyId ∈ a.changes target, ∀ chosen,
      Reports (Mild (a.changes target)) Served (generation keyId chosen))
    (codes : ∀ keyId chosen, Yields (fun rc => rc = 0 ∨ rc = 1) (generation keyId chosen))
    (run : (do
      let id ← liftExcept (parseId target a)
      eraseIfForced a id
      let chosen ← liftExcept choice
      generation id chosen).run.Runs trace outcome) : Exits target a trace outcome := by
  rcases Program.runs_throwing_bind_iff.mp run with
    ⟨_, _, keyId, rfl, identified, continued⟩ | ⟨_, unidentified, rfl⟩
  · obtain ⟨rfl, parsed⟩ := Program.runs_liftExcept_iff.mp identified
    have own : keyId ∈ a.changes target := changes_of_provisions grouped provisions parsed.symm
    have reported : Reports (Mild (a.changes target)) Served (do
        let chosen ← liftExcept choice
        generation keyId chosen) := Reports.ofExcept.bind fun chosen => generates keyId own chosen
    have coded : Yields (fun rc => rc = 0 ∨ rc = 1) (do
        let chosen ← liftExcept choice
        generation keyId chosen) := .rest fun chosen => codes keyId chosen
    rw [List.nil_append]
    by_cases forced : a.flag "--force" = true
    · rw [eraseIfForced, if_pos forced] at continued
      rcases Program.runs_throwing_bind_iff.mp continued with
        ⟨erasure, after, _, rfl, erased, choosing⟩ | ⟨_, failed, _⟩
      · obtain ⟨⟨ended, erasing⟩, _⟩ := Program.runs_swallow_iff.mp erased
        have mild := (eraseKey_reports own).issued _ _ erasing
        have exits : Exits target a after outcome := exits_of_reports reported coded choosing
        refine ⟨?_, ?_, exits.known, ?_⟩
        · exact List.forall_mem_append.mpr ⟨fun event member => (mild event member).1, exits.within⟩
        · rw [refused_append_iff mild]
          exact exits.refused
        · intro rc same _
          rw [same] at choosing
          exact @Reliable.forced _ _ _ keyId [] erasure after ended provisions forced parsed.symm
            erasing rfl (reported.served _ _ choosing)
      · obtain ⟨_, ⟨⟩⟩ := Program.runs_swallow_iff.mp failed
    · rw [eraseIfForced, if_neg forced] at continued
      exact exits_of_reports reported coded continued
  · obtain ⟨rfl, _⟩ := Program.runs_liftExcept_iff.mp unidentified
    refine .stopped (List.forall_mem_nil _) ?_
    exact @not_refused_of_mild _ [] (List.forall_mem_nil _)

theorem generated_codes {Key : Type} {generate : Cpp Key} {exporting : Key → Cpp Bytes}
    {text : String} : Yields (fun rc => rc = 0 ∨ rc = 1) (do
      let k ← generate
      printError text
      emit a (← exporting k)
      return 0) :=
  .rest fun _ => .rest fun _ => .rest fun _ => .rest fun _ => .returning (.inl rfl)

theorem thrown_exits {exception : CppException} {outcome : Except CppException Nat}
    (run : (throw exception : Cpp Nat).run.Runs trace outcome) : Exits target a trace outcome :=
  exits_of_reports .throwing .throwing run

theorem doRng_exits {outcome : Except CppException Nat}
    (run : (doRng target a).run.Runs trace outcome) : Exits target a trace outcome := by
  rw [doRng] at run
  split at run
  · exact thrown_exits run
  · exact emitted_exits getRandom_reports run

theorem ecOpened_exits {continuation : EcKey → Cpp Nat} {outcome : Except CppException Nat}
    (rest : ∀ k {trace outcome}, (continuation k).run.Runs trace outcome →
      Exits target a trace outcome)
    (run : (liftExcept (parseId target a) >>= fun id => EcKey.open id >>= continuation).run.Runs
      trace outcome) : Exits target a trace outcome :=
  exits_after .ofExcept (fun _ _ _ => exits_after EcKey.open_reports rest) run

theorem rsaOpened_exits {continuation : RsaKey → Cpp Nat} {outcome : Except CppException Nat}
    (rest : ∀ k {trace outcome}, (continuation k).run.Runs trace outcome →
      Exits target a trace outcome)
    (run : (liftExcept (parseId target a) >>= fun id => RsaKey.open id >>= continuation).run.Runs
      trace outcome) : Exits target a trace outcome :=
  exits_after .ofExcept (fun _ _ _ => exits_after RsaKey.open_reports rest) run

theorem doEcc_exits (grouped : a.group = "ecc") {outcome : Except CppException Nat}
    (run : (doEcc mbedtls target a).run.Runs trace outcome) : Exits target a trace outcome := by
  rw [doEcc] at run
  dsimp only at run
  split at run
  next provisions =>
      refine provisioning_exits (.inl grouped) provisions (fun keyId own curve => ?_)
        (fun _ _ => generated_codes) run
      refine (EcKey.generate_reports own).bind fun key => ?_
      refine printError_reports.bind fun _ => ?_
      refine export_reports.bind fun der => ?_
      refine emit_reports.bind fun _ => ?_
      exact .returning
  split at run
  · exact ecOpened_exits (fun _ _ _ => emitted_exits export_reports) run
  split at run
  · refine ecOpened_exits (fun _ _ _ => ?_) run
    refine exits_after readFile_reports fun _ _ _ => ?_
    exact emitted_exits EcKey.sign_reports
  split at run
  · refine ecOpened_exits (fun _ _ _ => ?_) run
    refine exits_after readFile_reports fun _ _ _ => ?_
    refine exits_after readFile_reports fun _ _ _ => ?_
    exact verified_exits
  split at run
  next agrees =>
      refine ecOpened_exits (fun _ _ _ => ?_) run
      refine exits_after readFile_reports fun _ _ _ => ?_
      exact emitted_exits (EcKey.ecdh_reports (changes_of_ecdh grouped agrees))
  split at run
  · refine ecOpened_exits (fun _ _ _ => ?_) run
    refine exits_after .ofExcept fun _ _ _ => ?_
    exact textEmitted_exits EcKey.makeCsr_reports
  · exact thrown_exits run

theorem doRsa_exits (grouped : a.group = "rsa") {outcome : Except CppException Nat}
    (run : (doRsa mbedtls target a).run.Runs trace outcome) : Exits target a trace outcome := by
  rw [doRsa] at run
  dsimp only at run
  split at run
  next provisions =>
      refine provisioning_exits (.inr grouped) provisions (fun keyId own bits => ?_)
        (fun _ _ => generated_codes) run
      refine (RsaKey.generate_reports own).bind fun key => ?_
      refine printError_reports.bind fun _ => ?_
      refine export_reports.bind fun der => ?_
      refine emit_reports.bind fun _ => ?_
      exact .returning
  split at run
  · exact rsaOpened_exits (fun _ _ _ => emitted_exits export_reports) run
  split at run
  · refine rsaOpened_exits (fun _ _ _ => ?_) run
    refine exits_after readFile_reports fun _ _ _ => ?_
    exact emitted_exits RsaKey.sign_reports
  split at run
  · refine rsaOpened_exits (fun _ _ _ => ?_) run
    refine exits_after readFile_reports fun _ _ _ => ?_
    refine exits_after readFile_reports fun _ _ _ => ?_
    exact verified_exits
  split at run
  · refine rsaOpened_exits (fun _ _ _ => ?_) run
    refine exits_after readFile_reports fun _ _ _ => ?_
    exact emitted_exits RsaKey.encrypt_reports
  split at run
  · refine rsaOpened_exits (fun _ _ _ => ?_) run
    refine exits_after readFile_reports fun _ _ _ => ?_
    exact emitted_exits RsaKey.decrypt_reports
  split at run
  · refine rsaOpened_exits (fun _ _ _ => ?_) run
    refine exits_after .ofExcept fun _ _ _ => ?_
    exact textEmitted_exits RsaKey.makeCsr_reports
  · exact thrown_exits run

theorem dispatch_exits {argv : List String} {outcome : Except CppException Nat}
    (run : (dispatch mbedtls target argv a).run.Runs trace outcome) :
    Exits target a trace outcome := by
  rw [dispatch] at run
  split at run
  · exact doRng_exits run
  split at run
  next grouped => exact doEcc_exits grouped run
  split at run
  next grouped => exact doRsa_exits grouped run
  · refine exits_of_reports ?_ (.rest fun _ => .returning (.inr rfl)) run
    exact (Reports.issuing (mild rfl fun _ => id) fun _ => trivial).bind fun _ => .returning

end Commands

/-! ## Invocations -/

section Invocations

variable {mbedtls : Mbedtls} {target : Target} {statusCode : SssStatus → Nat} {argv : List String}
  {trace : List (Event host)} {ending : Ending}

/-- A call of the program itself, and it succeeded. -/
def Prepares (event : Event host) : Prop := Housekeeping event.request ∧ Served event

/-- The command was run in a session of its own, or not at all. -/
inductive Session (command : Cpp Nat) : List (Event host) → Ending → Prop where
  | failed {events : List (Event host)} : (∀ event ∈ events, Housekeeping event.request) →
      Session command events ⟨1, none⟩
  | held (before inner after : List (Event host)) {outcome : Except CppException Nat} :
      command.run.Runs inner outcome → (∀ event ∈ before, Prepares event) →
      (∀ event ∈ after, Prepares event) → Session command (before ++ (inner ++ after)) (.of outcome)

theorem Session.next {command : Cpp Nat} {event : Event host} (prepares : Prepares event)
    (session : Session command trace ending) : Session command (event :: trace) ending := by
  cases session with
  | failed own => exact .failed (List.forall_mem_cons.mpr ⟨prepares.1, own⟩)
  | held before inner after performed opening closing =>
      exact .held (event :: before) inner after performed
        (List.forall_mem_cons.mpr ⟨prepares, opening⟩) closing

theorem inSession_held {a : Args}
    (run : (inSession mbedtls target statusCode argv a).Runs trace ending) :
    Session (dispatch mbedtls target argv a) trace ending := by
  obtain ⟨_, _, ended, rfl, performed, closing⟩ := Program.runs_bind_iff.mp run
  obtain ⟨_, _, rfl, closed⟩ := Program.runs_call_iff.mp closing
  obtain ⟨rfl, rfl⟩ := Program.runs_done_iff.mp closed
  obtain ⟨inner, _, outcome, rfl, dispatched, reporting⟩ := Program.runs_bind_iff.mp performed
  have closes : Prepares ⟨.sessionClose, ()⟩ := ⟨trivial, trivial⟩
  cases outcome with
  | ok rc =>
      obtain ⟨rfl, rfl⟩ := Program.runs_done_iff.mp reporting
      rw [List.append_assoc]
      exact .held [] inner _ dispatched (List.forall_mem_nil _) (List.forall_mem_singleton.mpr closes)
  | error exception =>
      obtain ⟨_, _, rfl, reported⟩ := Program.runs_call_iff.mp reporting
      obtain ⟨rfl, rfl⟩ := Program.runs_done_iff.mp reported
      rw [List.append_assoc]
      exact .held [] inner _ dispatched (List.forall_mem_nil _)
        (List.forall_mem_cons.mpr ⟨⟨trivial, trivial⟩, List.forall_mem_singleton.mpr closes⟩)

theorem connectString_prepares {a : Args} {portName : Option String} {rest : List (Event host)}
    {command : Cpp Nat} (run : (connectString a).Runs trace portName)
    (session : Session command rest ending) : Session command (trace ++ rest) ending := by
  rw [connectString] at run
  split at run
  · obtain ⟨rfl, _⟩ := Program.runs_done_iff.mp run
    exact session
  · obtain ⟨_, _, rfl, asked⟩ := Program.runs_call_iff.mp run
    obtain ⟨rfl, _⟩ := Program.runs_done_iff.mp asked
    exact .next ⟨trivial, trivial⟩ session

theorem main_session (run : (main mbedtls target statusCode argv).Runs trace ending) :
    Session (dispatch mbedtls target argv (parseArgs argv)) trace ending := by
  rw [main] at run
  split at run
  · obtain ⟨_, _, rfl, shown⟩ := runs_ask_bind_iff.mp run
    obtain ⟨rfl, rfl⟩ := Program.runs_done_iff.mp shown
    exact .failed (List.forall_mem_singleton.mpr trivial)
  · obtain ⟨before, _, portName, rfl, named, opening⟩ := Program.runs_bind_iff.mp run
    refine connectString_prepares named ?_
    obtain ⟨opened, _, rfl, starting⟩ := runs_ask_bind_iff.mp opening
    split at starting
    · obtain ⟨_, _, rfl, reported⟩ := runs_ask_bind_iff.mp starting
      obtain ⟨rfl, rfl⟩ := Program.runs_done_iff.mp reported
      exact .failed (List.forall_mem_cons.mpr ⟨trivial, List.forall_mem_singleton.mpr trivial⟩)
    next succeeded =>
        obtain ⟨ready, _, rfl, preparing⟩ := runs_ask_bind_iff.mp starting
        split at preparing
        · obtain ⟨_, _, rfl, reported⟩ := runs_ask_bind_iff.mp preparing
          obtain ⟨_, _, rfl, closed⟩ := runs_ask_bind_iff.mp reported
          obtain ⟨rfl, rfl⟩ := Program.runs_done_iff.mp closed
          refine .failed ?_
          simp only [List.mem_cons, List.not_mem_nil, or_false, forall_eq_or_imp, forall_eq]
          exact ⟨trivial, trivial, trivial, trivial⟩
        next prepared =>
            exact .next ⟨trivial, not_not.mp succeeded⟩
              (.next ⟨trivial, not_not.mp prepared⟩ (inSession_held preparing))

end Invocations

section StoredObjects

variable {Object : Type} {mbedtls : Mbedtls} {target : Target} {statusCode : SssStatus → Nat}
  {argvs : List (List String)} {trace : List (Event host)} {store after : KeyStore Object}
  {keyId : KeyId}

/-- One invocation after another, each of which may be cut off before any call. -/
inductive Executions (mbedtls : Mbedtls) (target : Target) (statusCode : SssStatus → Nat) :
    List (List String) → List (Event host) → Prop where
  | nil : Executions mbedtls target statusCode [] []
  | cons {argv : List String} {argvs : List (List String)} {trace rest later : List (Event host)}
      {ending : Ending} : (main mbedtls target statusCode argv).Runs (trace ++ rest) ending →
      Executions mbedtls target statusCode argvs later →
      Executions mbedtls target statusCode (argv :: argvs) (trace ++ later)

theorem main_within {argv : List String} {ending : Ending}
    (run : (main mbedtls target statusCode argv).Runs trace ending) :
    ∀ event ∈ trace, Within ((parseArgs argv).changes target) event.request := by
  have own : ∀ event : Event host, Housekeeping event.request →
      Within ((parseArgs argv).changes target) event.request := by
    intro event housekeeping
    refine within_of_untargeted ?_
    obtain ⟨request, answer⟩ := event
    cases request with
    | sss request => exact housekeeping.elim
    | _ => rfl
  cases main_session run with
  | failed housekeeping => exact fun event member => own event (housekeeping event member)
  | held before inner after performed opening closing =>
      refine List.forall_mem_append.mpr ⟨?_, List.forall_mem_append.mpr ⟨?_, ?_⟩⟩
      · exact fun event member => own event (opening event member).1
      · exact (dispatch_exits performed).within
      · exact fun event member => own event (closing event member).1

theorem executions_within (executions : Executions mbedtls target statusCode argvs trace) :
    ∀ event ∈ trace, ∃ argv ∈ argvs, Within ((parseArgs argv).changes target) event.request := by
  induction executions with
  | nil => exact List.forall_mem_nil _
  | cons run _ ih =>
      refine List.forall_mem_append.mpr ⟨?_, ?_⟩
      · intro event member
        exact ⟨_, List.mem_cons_self, main_within run event (List.mem_append_left _ member)⟩
      · intro event member
        obtain ⟨argv, later, within⟩ := ih event member
        exact ⟨argv, List.mem_cons_of_mem _ later, within⟩

/-- Whatever the element answers, only objects that some command line names are changed. -/
theorem executions_frame (executions : Executions mbedtls target statusCode argvs trace)
    (history : (keyStore Object).History store trace after)
    (untouched : ∀ argv ∈ argvs, keyId ∉ (parseArgs argv).changes target) :
    after keyId = store keyId := by
  have apart : ∀ event ∈ trace, event.request.target ≠ some keyId := by
    intro event member targeted
    obtain ⟨argv, listed, within⟩ := executions_within executions event member
    exact untouched argv listed (within keyId targeted)
  clear executions untouched
  induction history with
  | nil => rfl
  | cons moved _ ih =>
      obtain ⟨first, others⟩ := List.forall_mem_cons.mp apart
      exact (ih others).trans (KeyStore.moves_frame moved first)

end StoredObjects

/-- A generation that is cut off just before the public key is exported. -/
def interruptedGeneration : List String :=
  ["se05x_crypto_app", "ecc", "genkey", "--id", "0x30", "--curve", "p256"]

def generatedObject : SssObject := .allocated 0x30 .pair .ecNistP 104 .persistent

def interruptedGenerationTrace : List (Event host) :=
  [⟨.getenv "EX_SSS_BOOT_SSS_PORT", none⟩, ⟨.bootOpen none, .success⟩,
    ⟨.keyStoreAndObjectInit, .success⟩, ⟨.sss .keyObjectInit, .success⟩,
    ⟨.sss (.keyObjectAllocateHandle 0x30 .pair .ecNistP 104 .persistent), .success⟩,
    ⟨.sss (.keyStoreGenerateKey generatedObject 256), .success⟩]

theorem interruptedGeneration_runs : ∃ rest ending,
    (main .demo .aarch64 (fun _ => 0) interruptedGeneration).Runs
      (interruptedGenerationTrace ++ rest) ending :=
  ⟨[⟨.printError ("[+] EC key provisioned (id=0x" ++ idText 0x30 ++ ")\n"), ()⟩,
      ⟨.allocate 256, .badAlloc⟩, ⟨.printError _, ()⟩, ⟨.sessionClose, ()⟩], _,
    .call (.call (.call (.call (.call (.call (.call (.call (.call (.call .done)))))))))⟩

theorem executions_frame_interrupted :
    (Function.update (fun _ => some 1) 0x30 (some 2) : KeyStore Nat) 0x10 = some 1 := by
  obtain ⟨rest, ending, generates⟩ := interruptedGeneration_runs
  have verifies : Executions .demo .aarch64 (fun _ => 0) [refusedSignature]
      (refusedSignatureTrace ++ []) := by
    refine @Executions.cons _ _ _ _ _ _ [] _ ⟨2, none⟩ ?_ .nil
    exact refusedSignature_runs
  refine @executions_frame Nat .demo .aarch64 (fun _ => 0) [interruptedGeneration, refusedSignature]
    (interruptedGenerationTrace ++ (refusedSignatureTrace ++ [])) (fun _ => some 1) _ 0x10
    (.cons generates verifies) ?_ ?_
  · refine KeyStore.history_filter_iff.mp ?_
    exact .cons ⟨2, rfl⟩ .nil
  · decide +kernel

end CppApp

end Se05x
