import Se05x.CppApp.Permissions
import Se05x.Mbedtls.Reference
import Se05x.Sss.Store

/-!
# Rejected invocations and the key store

Every command checks its arguments before it changes the key store, except that a forced
key generation erases first and checks the curve or the key size afterwards.
-/

set_option autoImplicit false

namespace Se05x.CppApp

open Der Interaction

/-- The call does not try to change the key store. -/
def Quiet (request : HostCall) : Prop := request.target = none

/-- The program rejects its arguments, or the input file they name cannot be read. -/
def Rejection : CppException → Prop
  | .argument _ | .inputFailed _ => True
  | _ => False

def NotRejection (exception : CppException) : Prop := ¬ Rejection exception

theorem permits_notRejection : Permits (fun _ => True) NotRejection where
  keyless _ _ := trivial
  allocate _ := trivial
  crypto _ _ := id
  allocation answer := by cases answer <;> exact id

theorem output_notRejection : PermitsOutput (fun _ => True) NotRejection where
  writeFile _ _ := trivial
  printOut _ := trivial
  printError _ := trivial
  cannotOpen _ := id

theorem EcKey.open_confined {keyId : KeyId} : Confined Quiet NotRejection (EcKey.open keyId) :=
  .bind (openHandle_confined permits_notRejection.crypto rfl rfl) fun _ => .returning

theorem RsaKey.open_confined {keyId : KeyId} : Confined Quiet NotRejection (RsaKey.open keyId) :=
  .bind (openHandle_confined permits_notRejection.crypto rfl rfl) fun _ => .returning

/-- A run that ends in a rejection has not tried to change the key store. -/
def RejectsQuietly {Value : Type} (source : Cpp Value) : Prop :=
  ∀ trace exception, source.run.Runs trace (.error exception) → Rejection exception →
    trace.filter mutates = []

section Rejections

variable {Value Result : Type} {source : Cpp Value} {continuation : Value → Cpp Result}
  {errors : CppException → Prop} {trace : List (Event host)}

theorem quiet_filter_eq_nil {outcome : Except CppException Value}
    (quiet : Confined Quiet errors source) (run : source.run.Runs trace outcome) :
    trace.filter mutates = [] := by
  refine List.filter_eq_nil_iff.mpr fun event issued => ?_
  rw [mutates, quiet.allowed run issued]
  exact Bool.false_ne_true

theorem rejectsQuietly_of_confined {calls : HostCall → Prop}
    (confined : Confined calls NotRejection source) : RejectsQuietly source :=
  fun _ _ run rejected => absurd rejected (confined.error run)

theorem rejectsQuietly_throw {exception : CppException} :
    RejectsQuietly (throw exception : Cpp Value) := by
  intro trace other run _
  obtain ⟨rfl, _⟩ := Program.runs_throw_iff.mp run
  rfl

theorem rejectsQuietly_bind (quiet : Confined Quiet errors source)
    (rest : ∀ value, RejectsQuietly (continuation value)) :
    RejectsQuietly (source >>= continuation) := by
  intro trace exception run rejected
  rcases Program.runs_throwing_bind_iff.mp run with
    ⟨first, second, value, rfl, before, after⟩ | ⟨_, stopped, ⟨⟩⟩
  · rw [List.filter_append, quiet_filter_eq_nil quiet before]
    rw [rest value second exception after rejected]
    rfl
  · exact quiet_filter_eq_nil quiet stopped

end Rejections

section Commands

variable {mbedtls : Mbedtls} {target : Target} {a : Args}

theorem liftExcept_quiet {Value : Type} {outcome : Except CppException Value} :
    Confined Quiet (fun _ => True) (liftExcept outcome : Cpp Value) :=
  .ofExcept fun _ _ => trivial

theorem rejectsQuietly_ecOpen {Result : Type} {continuation : EcKey → Cpp Result}
    (rest : ∀ k, RejectsQuietly (continuation k)) :
    RejectsQuietly (liftExcept (parseId target a) >>= fun id => EcKey.open id >>= continuation) :=
  rejectsQuietly_bind liftExcept_quiet fun _ => rejectsQuietly_bind EcKey.open_confined rest

theorem rejectsQuietly_rsaOpen {Result : Type} {continuation : RsaKey → Cpp Result}
    (rest : ∀ k, RejectsQuietly (continuation k)) :
    RejectsQuietly (liftExcept (parseId target a) >>= fun id => RsaKey.open id >>= continuation) :=
  rejectsQuietly_bind liftExcept_quiet fun _ => rejectsQuietly_bind RsaKey.open_confined rest

theorem emitted_rejectsQuietly {source : Cpp Bytes}
    (confined : Confined (fun _ => True) NotRejection source) :
    RejectsQuietly (do emit a (← source); return 0) :=
  rejectsQuietly_of_confined (emitted_confined output_notRejection confined)

theorem textEmitted_rejectsQuietly {source : Cpp Bytes}
    (confined : Confined (fun _ => True) NotRejection source) :
    RejectsQuietly (do emitText a (← source); return 0) :=
  rejectsQuietly_of_confined (textEmitted_confined output_notRejection confined)

theorem verified_rejectsQuietly {source : Cpp Bool}
    (confined : Confined (fun _ => True) NotRejection source) :
    RejectsQuietly (do
      let ok ← source
      printOut (asciiBytes (if ok then "VERIFY OK\n" else "VERIFY FAILED\n"))
      return if ok then 0 else 2) :=
  rejectsQuietly_of_confined (verified_confined output_notRejection confined)

theorem doRng_rejectsQuietly : RejectsQuietly (doRng target a) := by
  rw [doRng]
  split
  · exact rejectsQuietly_throw
  · exact emitted_rejectsQuietly (getRandom_confined permits_notRejection)

theorem doEcc_rejectsQuietly (onExisting : ¬ (a.command = "genkey" ∨ a.command = "provision")) :
    RejectsQuietly (doEcc mbedtls target a) := by
  rw [doEcc]
  dsimp only
  rw [if_neg onExisting]
  split
  · exact rejectsQuietly_ecOpen fun _ => emitted_rejectsQuietly (export_confined permits_notRejection)
  split
  · exact rejectsQuietly_ecOpen fun _ => rejectsQuietly_bind (readFile_confined rfl) fun _ =>
      emitted_rejectsQuietly (EcKey.sign_confined permits_notRejection)
  split
  · exact rejectsQuietly_ecOpen fun _ => rejectsQuietly_bind (readFile_confined rfl) fun _ =>
      rejectsQuietly_bind (readFile_confined rfl) fun _ =>
        verified_rejectsQuietly (asymmetricVerify_confined permits_notRejection)
  split
  · exact rejectsQuietly_ecOpen fun _ => rejectsQuietly_bind (readFile_confined rfl) fun _ =>
      emitted_rejectsQuietly (EcKey.ecdh_confined permits_notRejection)
  split
  · exact rejectsQuietly_ecOpen fun _ => rejectsQuietly_bind liftExcept_quiet fun _ =>
      textEmitted_rejectsQuietly (EcKey.makeCsr_confined permits_notRejection)
  · exact rejectsQuietly_throw

theorem doRsa_rejectsQuietly (onExisting : ¬ (a.command = "genkey" ∨ a.command = "provision")) :
    RejectsQuietly (doRsa mbedtls target a) := by
  rw [doRsa]
  dsimp only
  rw [if_neg onExisting]
  split
  · exact rejectsQuietly_rsaOpen fun _ => emitted_rejectsQuietly (export_confined permits_notRejection)
  split
  · exact rejectsQuietly_rsaOpen fun _ => rejectsQuietly_bind (readFile_confined rfl) fun _ =>
      emitted_rejectsQuietly (RsaKey.sign_confined permits_notRejection)
  split
  · exact rejectsQuietly_rsaOpen fun _ => rejectsQuietly_bind (readFile_confined rfl) fun _ =>
      rejectsQuietly_bind (readFile_confined rfl) fun _ =>
        verified_rejectsQuietly (asymmetricVerify_confined permits_notRejection)
  split
  · exact rejectsQuietly_rsaOpen fun _ => rejectsQuietly_bind (readFile_confined rfl) fun _ =>
      emitted_rejectsQuietly (RsaKey.encrypt_confined permits_notRejection)
  split
  · exact rejectsQuietly_rsaOpen fun _ => rejectsQuietly_bind (readFile_confined rfl) fun _ =>
      emitted_rejectsQuietly (RsaKey.decrypt_confined permits_notRejection)
  split
  · exact rejectsQuietly_rsaOpen fun _ => rejectsQuietly_bind liftExcept_quiet fun _ =>
      textEmitted_rejectsQuietly (RsaKey.makeCsr_confined permits_notRejection)
  · exact rejectsQuietly_throw

/-- The attempt to erase this key, and what it was answered. -/
def erasing (keyId : KeyId) (st : SssStatus) : Event host :=
  ⟨.sss (.keyStoreEraseKey (.existing keyId)), st⟩

theorem eraseKey_mutations {keyId : KeyId} {trace : List (Event host)}
    {outcome : Except CppException Unit} (run : (eraseKey keyId).run.Runs trace outcome) :
    trace.filter mutates = [] ∨ ∃ st, trace.filter mutates = [erasing keyId st] := by
  obtain ⟨_, _, rfl, initialised⟩ := runs_sss_bind_iff.mp run
  rcases runs_check_bind_iff.mp initialised with ⟨rfl, finding⟩ | ⟨_, rfl, _⟩
  · obtain ⟨_, _, rfl, found⟩ := runs_sss_bind_iff.mp finding
    rcases runs_check_bind_iff.mp found with ⟨rfl, erased⟩ | ⟨_, rfl, _⟩
    · obtain ⟨st, _, rfl, checked⟩ := runs_sss_bind_iff.mp erased
      have last := runs_check_iff.mp checked
      exact .inr ⟨st, by rw [last.1]; rfl⟩
    · exact .inl rfl
  · exact .inl rfl

theorem eraseIfForced_mutations {keyId : KeyId} {trace : List (Event host)}
    {outcome : Except CppException Unit} (run : (eraseIfForced a keyId).run.Runs trace outcome) :
    outcome = .ok () ∧ (trace.filter mutates = [] ∨
      a.flag "--force" = true ∧ ∃ st, trace.filter mutates = [erasing keyId st]) := by
  rw [eraseIfForced] at run
  split at run
  next forced =>
      obtain ⟨erased, swallowed⟩ := Program.runs_swallow_iff.mp run
      exact ⟨swallowed, (eraseKey_mutations erased.choose_spec).imp_right fun made => ⟨forced, made⟩⟩
  next =>
      obtain ⟨rfl, rfl⟩ := Program.runs_pure_iff.mp run
      exact ⟨rfl, .inl rfl⟩

/-- Key generation: the choice of a curve or a key size is checked after the erase. -/
theorem provisioning_mutations {Choice : Type} {choice : Except CppException Choice}
    {generation : KeyId → Choice → Cpp Nat}
    (confined : ∀ keyId chosen, Confined (fun _ => True) NotRejection (generation keyId chosen))
    {trace : List (Event host)} {exception : CppException}
    (run : (do
      let id ← liftExcept (parseId target a)
      eraseIfForced a id
      let chosen ← liftExcept choice
      generation id chosen).run.Runs trace (.error exception))
    (rejected : Rejection exception) :
    trace.filter mutates = [] ∨ ∃ keyId st, parseId target a = .ok keyId ∧
      a.flag "--force" = true ∧ choice = .error exception ∧
      trace.filter mutates = [erasing keyId st] := by
  rcases Program.runs_throwing_bind_iff.mp run with
    ⟨first, rest, keyId, rfl, identified, continued⟩ | ⟨_, unidentified, _⟩
  · obtain ⟨rfl, parsed⟩ := Program.runs_liftExcept_iff.mp identified
    rcases Program.runs_throwing_bind_iff.mp continued with
      ⟨second, rest, _, rfl, erased, choosing⟩ | ⟨_, failed, _⟩
    · obtain ⟨_, mutations⟩ := eraseIfForced_mutations erased
      rcases Program.runs_throwing_bind_iff.mp choosing with
        ⟨third, rest, chosen, rfl, _, generated⟩ | ⟨_, unknown, ⟨⟩⟩
      · exact absurd rejected ((confined keyId chosen).error generated)
      · obtain ⟨rfl, thrown⟩ := Program.runs_liftExcept_iff.mp unknown
        rw [List.nil_append, List.append_nil]
        refine mutations.imp_right ?_
        intro made
        obtain ⟨forced, st, only⟩ := made
        exact ⟨keyId, st, parsed.symm, forced, thrown.symm, only⟩
    · obtain ⟨swallowed, _⟩ := eraseIfForced_mutations failed
      cases swallowed
  · obtain ⟨rfl, _⟩ := Program.runs_liftExcept_iff.mp unidentified
    exact .inl rfl

end Commands

/-- A forced key generation that names an unknown curve or key size. -/
structure RejectedProvisioning (target : Target) (a : Args) (keyId : KeyId) : Prop where
  provisioning : a.command = "genkey" ∨ a.command = "provision"
  identified : parseId target a = .ok keyId
  forced : a.flag "--force" = true
  unknown : a.group = "ecc" ∧ (∃ exception, parseCurve (a.get "--curve") = .error exception) ∨
    a.group = "rsa" ∧ ∃ exception, parseBits (a.get "--bits") = .error exception

section Invocations

variable {mbedtls : Mbedtls} {target : Target} {statusCode : SssStatus → Nat} {argv : List String}
  {trace : List (Event host)}

theorem dispatch_mutations {a : Args} {exception : CppException}
    (run : (dispatch mbedtls target argv a).run.Runs trace (.error exception))
    (rejected : Rejection exception) :
    trace.filter mutates = [] ∨ ∃ keyId st, RejectedProvisioning target a keyId ∧
      trace.filter mutates = [erasing keyId st] := by
  rw [dispatch] at run
  split at run
  · exact .inl (doRng_rejectsQuietly _ _ run rejected)
  split at run
  next ecc =>
      by_cases provisioning : a.command = "genkey" ∨ a.command = "provision"
      · rw [doEcc] at run
        dsimp only at run
        rw [if_pos provisioning] at run
        refine (provisioning_mutations (fun keyId curve => ?_) run rejected).imp_right ?_
        · exact EcKey.provision_confined permits_notRejection output_notRejection fun _ _ => trivial
        · intro made
          obtain ⟨keyId, st, identified, forced, unknown, only⟩ := made
          exact ⟨keyId, st, ⟨provisioning, identified, forced, .inl ⟨ecc, _, unknown⟩⟩, only⟩
      · exact .inl (doEcc_rejectsQuietly provisioning _ _ run rejected)
  split at run
  next rsa =>
      by_cases provisioning : a.command = "genkey" ∨ a.command = "provision"
      · rw [doRsa] at run
        dsimp only at run
        rw [if_pos provisioning] at run
        refine (provisioning_mutations (fun keyId bits => ?_) run rejected).imp_right ?_
        · exact RsaKey.provision_confined permits_notRejection output_notRejection fun _ _ => trivial
        · intro made
          obtain ⟨keyId, st, identified, forced, unknown, only⟩ := made
          exact ⟨keyId, st, ⟨provisioning, identified, forced, .inr ⟨rsa, _, unknown⟩⟩, only⟩
      · exact .inl (doRsa_rejectsQuietly provisioning _ _ run rejected)
  · exact .inl (rejectsQuietly_of_confined (.bind .lifting fun _ => .returning) _ _ run rejected)

theorem runs_ask_bind_iff {Result : Type} {request : HostCall}
    {continuation : request.Answer → Program host Result} {result : Result} :
    (@bind (Program host) _ (no_index request.Answer) Result (ask request) continuation).Runs trace
        result ↔
      ∃ answer rest, trace = ⟨request, answer⟩ :: rest ∧ (continuation answer).Runs rest result :=
  Program.runs_call_iff

/-- A call of the program itself, outside the command. -/
def Housekeeping : HostCall → Prop
  | .getenv _ | .bootOpen _ | .keyStoreAndObjectInit | .sessionClose | .printError _ => True
  | _ => False

theorem Housekeeping.keyless {request : HostCall} (own : Housekeeping request) :
    request.target = none ∧ request.keyObject = none := by
  cases request with
  | getenv | bootOpen | keyStoreAndObjectInit | sessionClose | printError => exact ⟨rfl, rfl⟩
  | sss | allocate | readFile | writeFile | printOut | logInfo | logError | logBytes => exact own.elim

/-- How the program ends when its command ended so. -/
def Ending.of : Except CppException Nat → Ending
  | .ok rc => ⟨rc, none⟩
  | .error e => ⟨1, some e⟩

/-- No session, or one with one run of the command in it. -/
inductive MainRun (command : Cpp Nat) : List (Event host) → Ending → Prop where
  | unopened {events : List (Event host)} : (∀ event ∈ events, Housekeeping event.request) →
      MainRun command events ⟨1, none⟩
  | session (before inner after : List (Event host)) {outcome : Except CppException Nat} :
      command.run.Runs inner outcome →
      (∀ event ∈ before, Housekeeping event.request) →
      (∀ event ∈ after, Housekeeping event.request) →
      MainRun command (before ++ (inner ++ after)) (.of outcome)

theorem MainRun.next {command : Cpp Nat} {event : Event host} {ending : Ending}
    (own : Housekeeping event.request) (run : MainRun command trace ending) :
    MainRun command (event :: trace) ending := by
  cases run with
  | unopened quiet => exact .unopened (List.forall_mem_cons.mpr ⟨own, quiet⟩)
  | session before inner after performed quiet closing =>
      exact .session (event :: before) inner after performed
        (List.forall_mem_cons.mpr ⟨own, quiet⟩) closing

theorem MainRun.after {command : Cpp Nat} {before : List (Event host)} {ending : Ending}
    (own : ∀ event ∈ before, Housekeeping event.request) (run : MainRun command trace ending) :
    MainRun command (before ++ trace) ending := by
  induction before with
  | nil => exact run
  | cons event rest ih =>
      obtain ⟨first, others⟩ := List.forall_mem_cons.mp own
      exact .next first (ih others)

theorem connectString_housekeeping {a : Args} {portName : Option String}
    (run : (connectString a).Runs trace portName) : ∀ event ∈ trace, Housekeeping event.request := by
  rw [connectString] at run
  split at run
  · obtain ⟨rfl, _⟩ := Program.runs_done_iff.mp run
    exact List.forall_mem_nil _
  · obtain ⟨_, _, rfl, asked⟩ := Program.runs_call_iff.mp run
    obtain ⟨rfl, _⟩ := Program.runs_done_iff.mp asked
    exact List.forall_mem_singleton.mpr trivial

theorem inSession_runs {a : Args} {ending : Ending}
    (run : (inSession mbedtls target statusCode argv a).Runs trace ending) :
    MainRun (dispatch mbedtls target argv a) trace ending := by
  obtain ⟨_, _, ended, rfl, performed, closing⟩ := Program.runs_bind_iff.mp run
  obtain ⟨_, _, rfl, closed⟩ := Program.runs_call_iff.mp closing
  obtain ⟨rfl, rfl⟩ := Program.runs_done_iff.mp closed
  obtain ⟨inner, _, outcome, rfl, dispatched, reporting⟩ := Program.runs_bind_iff.mp performed
  have closes : Housekeeping .sessionClose := trivial
  cases outcome with
  | ok rc =>
      obtain ⟨rfl, rfl⟩ := Program.runs_done_iff.mp reporting
      rw [List.append_assoc]
      exact .session [] inner _ dispatched (List.forall_mem_nil _) (by simpa using closes)
  | error exception =>
      obtain ⟨_, _, rfl, reported⟩ := Program.runs_call_iff.mp reporting
      obtain ⟨rfl, rfl⟩ := Program.runs_done_iff.mp reported
      have reports : ∀ text, Housekeeping (.printError text) := fun _ => trivial
      rw [List.append_assoc]
      exact .session [] inner _ dispatched (List.forall_mem_nil _) (by simp [reports, closes])

theorem main_runs {ending : Ending}
    (run : (main mbedtls target statusCode argv).Runs trace ending) :
    MainRun (dispatch mbedtls target argv (parseArgs argv)) trace ending := by
  rw [main] at run
  split at run
  · obtain ⟨_, _, rfl, shown⟩ := runs_ask_bind_iff.mp run
    obtain ⟨rfl, rfl⟩ := Program.runs_done_iff.mp shown
    exact .next trivial (.unopened (List.forall_mem_nil _))
  · obtain ⟨before, _, portName, rfl, named, opening⟩ := Program.runs_bind_iff.mp run
    refine .after (connectString_housekeeping named) ?_
    obtain ⟨_, _, rfl, opened⟩ := runs_ask_bind_iff.mp opening
    refine .next trivial ?_
    split at opened
    · obtain ⟨_, _, rfl, reported⟩ := runs_ask_bind_iff.mp opened
      obtain ⟨rfl, rfl⟩ := Program.runs_done_iff.mp reported
      exact .next trivial (.unopened (List.forall_mem_nil _))
    · obtain ⟨_, _, rfl, prepared⟩ := runs_ask_bind_iff.mp opened
      refine .next trivial ?_
      split at prepared
      · obtain ⟨_, _, rfl, reported⟩ := runs_ask_bind_iff.mp prepared
        obtain ⟨_, _, rfl, closed⟩ := runs_ask_bind_iff.mp reported
        obtain ⟨rfl, rfl⟩ := Program.runs_done_iff.mp closed
        exact .next trivial (.next trivial (.unopened (List.forall_mem_nil _)))
      · exact inSession_runs prepared

theorem housekeeping_filter {events : List (Event host)}
    (own : ∀ event ∈ events, Housekeeping event.request) : events.filter mutates = [] := by
  refine List.filter_eq_nil_iff.mpr fun event issued => ?_
  rw [mutates, (own event issued).keyless.1]
  exact Bool.false_ne_true

/-- A reported exception ended one run of the command, and only that run changed the store. -/
theorem main_raisedBy {ending : Ending} {exception : CppException}
    (run : (main mbedtls target statusCode argv).Runs trace ending)
    (raised : ending.raised = some exception) :
    ∃ inner, (dispatch mbedtls target argv (parseArgs argv)).run.Runs inner (.error exception) ∧
      trace.filter mutates = inner.filter mutates := by
  cases main_runs run with
  | unopened => cases raised
  | @session before inner after outcome performed quiet closing =>
      cases outcome with
      | ok rc => cases raised
      | error error =>
          cases raised
          refine ⟨inner, performed, ?_⟩
          rw [List.filter_append, List.filter_append, housekeeping_filter quiet,
            housekeeping_filter closing, List.nil_append, List.append_nil]

theorem erasing_mem_iff {keyId : KeyId} {st : SssStatus} {mutations : List (Event host)}
    (same : trace.filter mutates = mutations) :
    erasing keyId st ∈ trace ↔ erasing keyId st ∈ mutations := by
  rw [← same, List.mem_filter]
  exact (and_iff_left rfl).symm

/-- A rejected invocation leaves the key store as it was, unless it erased a key first. -/
theorem main_rejected_keeps_store_iff {Object : Type} {store after : KeyStore Object}
    {ending : Ending} {exception : CppException}
    (run : (main mbedtls target statusCode argv).Runs trace ending)
    (raised : ending.raised = some exception) (rejected : Rejection exception)
    (history : (keyStore Object).History store trace after) :
    after = store ↔ ¬ ∃ keyId, RejectedProvisioning target (parseArgs argv) keyId ∧
      store keyId ≠ none ∧ erasing keyId .success ∈ trace := by
  obtain ⟨inner, dispatched, same⟩ := main_raisedBy run raised
  simp only [erasing_mem_iff same]
  rw [← KeyStore.history_filter_iff, same] at history
  rcases dispatch_mutations dispatched rejected with untouched | ⟨keyId, st, provisioning, only⟩
  · rw [untouched] at history ⊢
    refine iff_of_true (Contract.history_nil_iff.mp history) ?_
    intro made
    obtain ⟨_, _, _, issued⟩ := made
    cases issued
  · rw [only, Contract.history_cons_iff] at history
    obtain ⟨_, moved, rest⟩ := history
    obtain rfl := Contract.history_nil_iff.mp rest
    have moved := KeyStore.moves_erase_iff.mp moved
    rw [only]
    by_cases erased : st = .success
    · rw [moved, if_pos erased, KeyStore.erase_eq_iff, not_exists]
      constructor
      · intro absent other made
        obtain ⟨unknown, stored, issued⟩ := made
        obtain ⟨⟩ := unknown.identified.symm.trans provisioning.identified
        exact stored absent
      · intro kept
        by_contra stored
        exact kept keyId ⟨provisioning, stored, by rw [erased]; exact List.mem_singleton_self _⟩
    · rw [moved, if_neg erased]
      refine iff_of_true rfl ?_
      intro made
      obtain ⟨other, _, _, issued⟩ := made
      cases List.mem_singleton.mp issued
      exact erased rfl

end Invocations

section ForcedUnknownCurve

/-- An invocation that replaces the key 0x10 by one on a curve that does not exist. -/
def forcedUnknownCurve : List String :=
  ["se05x_crypto_app", "ecc", "genkey", "--id", "0x10", "--force", "--curve", "p999"]

def forcedUnknownCurveTrace : List (Event host) :=
  [⟨.getenv "EX_SSS_BOOT_SSS_PORT", none⟩, ⟨.bootOpen none, .success⟩,
    ⟨.keyStoreAndObjectInit, .success⟩, ⟨.sss .keyObjectInit, .success⟩,
    ⟨.sss (.keyObjectGetHandle 0x10), .success⟩, erasing 0x10 .success,
    ⟨.printError "[!] unknown curve: p999\n", ()⟩, ⟨.sessionClose, ()⟩]

theorem forcedUnknownCurve_runs : (main .demo .aarch64 (fun _ => 0) forcedUnknownCurve).Runs
    forcedUnknownCurveTrace ⟨1, some (.argument (.unknownCurve "p999"))⟩ :=
  .call (.call (.call (.call (.call (.call (.call (.call .done)))))))

def onlyKey : KeyStore Unit := fun keyId => if keyId = 0x10 then some () else none

theorem forcedUnknownCurve_history :
    (keyStore Unit).History onlyKey forcedUnknownCurveTrace (onlyKey.erase 0x10) := by
  refine KeyStore.history_filter_iff.mp ?_
  have erased : (keyStore Unit).moves onlyKey (erasing 0x10 .success) (onlyKey.erase 0x10) := rfl
  exact .cons erased .nil

theorem main_rejected_keeps_store_forced : onlyKey.erase 0x10 = onlyKey ↔
    ¬ ∃ keyId, RejectedProvisioning .aarch64 (parseArgs forcedUnknownCurve) keyId ∧
      onlyKey keyId ≠ none ∧ erasing keyId .success ∈ forcedUnknownCurveTrace :=
  main_rejected_keeps_store_iff forcedUnknownCurve_runs rfl trivial forcedUnknownCurve_history

/-- The program rejects its arguments and the key is gone. -/
theorem main_loses_rejected_key : ∃ (store after : KeyStore Unit) (trace : List (Event host))
    (ending : Ending) (exception : CppException),
    (main .demo .aarch64 (fun _ => 0) forcedUnknownCurve).Runs trace ending ∧
      ending.raised = some exception ∧ Rejection exception ∧
      (keyStore Unit).History store trace after ∧ after ≠ store := by
  refine ⟨onlyKey, _, _, _, _, forcedUnknownCurve_runs, rfl, trivial,
    forcedUnknownCurve_history, ?_⟩
  intro same
  cases KeyStore.erase_eq_iff.mp same

end ForcedUnknownCurve

end Se05x.CppApp
