import Se05x.CppApp.MainProperties
import Se05x.Interaction.Reaching
import Se05x.Mbedtls.Reference
import Se05x.StrtoulProperties

/-!
# Which key a command works on

The identifier is read with `strtoul` and cut to 32 bits; only the empty string is refused.
-/

set_option autoImplicit false

namespace Se05x

open Interaction

instance (request : SssCall) : Nonempty request.Answer := by
  cases request with
  | rngGetRandom numBytes => exact ⟨.success, Vector.replicate numBytes 0⟩
  | keyStoreGetKey | asymmetricSignDigest | asymmetricEncrypt | asymmetricDecrypt | digestOneGo =>
      exact ⟨.success, [], Nat.zero_le _⟩
  | rngContextFree | keyObjectFree | asymmetricContextFree | deriveKeyContextFree
  | digestContextFree => exact ⟨()⟩
  | rngContextInit | keyObjectInit | keyObjectGetHandle | keyObjectAllocateHandle
  | keyStoreEraseKey | keyStoreGenerateKey | keyStoreSetKey | asymmetricContextInit
  | asymmetricVerifyDigest | deriveKeyContextInit | deriveKeyDh | digestContextInit =>
      exact ⟨.success⟩

instance (request : HostCall) : Nonempty request.Answer := by
  cases request with
  | sss request => exact inferInstanceAs (Nonempty request.Answer)
  | allocate => exact ⟨.granted⟩
  | readFile => exact ⟨.cannotOpen⟩
  | writeFile => exact ⟨true⟩
  | getenv => exact ⟨none⟩
  | bootOpen | keyStoreAndObjectInit => exact ⟨.success⟩
  | printOut | printError | sessionClose | logInfo | logError | logBytes => exact ⟨()⟩

instance (request : host.Call) : Nonempty (host.Answer request) :=
  inferInstanceAs (Nonempty (HostCall.Answer request))

namespace CppApp

open Der

/-- The call binds, erases or generates no key object but these. -/
def OnlyKeys (keyIds : KeyId → Prop) (request : HostCall) : Prop :=
  ∀ keyId, request.keyObject = some keyId → keyIds keyId

theorem onlyKeys_of_keyless {keyIds : KeyId → Prop} {request : HostCall}
    (keyless : request.keyObject = none) : OnlyKeys keyIds request := by
  intro keyId named
  cases keyless.symm.trans named

theorem permits_onlyKeys {keyIds : KeyId → Prop} : Permits (OnlyKeys keyIds) fun _ => True where
  keyless _ := onlyKeys_of_keyless
  allocate _ := onlyKeys_of_keyless rfl
  crypto _ _ := trivial
  allocation _ := trivial

theorem output_onlyKeys {keyIds : KeyId → Prop} :
    PermitsOutput (OnlyKeys keyIds) fun _ => True where
  writeFile _ _ := onlyKeys_of_keyless rfl
  printOut _ := onlyKeys_of_keyless rfl
  printError _ := onlyKeys_of_keyless rfl
  cannotOpen _ := trivial

variable {mbedtls : Mbedtls} {target : Target} {a : Args}

/-- The identifier a command was given, if it was given one. -/
def Identified (target : Target) (a : Args) (keyId : KeyId) : Prop := parseId target a = .ok keyId

section Commands

variable {Result : Type}

theorem keyed_permitted {keyId : KeyId} (identified : Identified target a keyId) :
    ∀ request : HostCall, request.keyObject = some keyId →
      OnlyKeys (Identified target a) request := by
  intro request named other again
  cases named.symm.trans again
  exact identified

theorem identified_bind {continuation : KeyId → Cpp Result}
    (rest : ∀ keyId, Identified target a keyId →
      Confined (OnlyKeys (Identified target a)) (fun _ => True) (continuation keyId)) :
    Confined (OnlyKeys (Identified target a)) (fun _ => True)
      (liftExcept (parseId target a) >>= continuation) := by
  cases parsed : parseId target a with
  | error exception => exact .throwing trivial
  | ok keyId => exact rest keyId parsed

theorem ecOpen_confined {continuation : EcKey → Cpp Result}
    (rest : ∀ k, Confined (OnlyKeys (Identified target a)) (fun _ => True) (continuation k)) :
    Confined (OnlyKeys (Identified target a)) (fun _ => True)
      (liftExcept (parseId target a) >>= fun id => EcKey.open id >>= continuation) := by
  refine identified_bind fun keyId identified => ?_
  have opened : Confined (OnlyKeys (Identified target a)) (fun _ => True) (EcKey.open keyId) := by
    refine .bind ?_ fun _ => .returning
    exact openHandle_confined (fun _ _ => trivial) (onlyKeys_of_keyless rfl)
      (keyed_permitted identified _ rfl)
  exact .bind opened rest

theorem rsaOpen_confined {continuation : RsaKey → Cpp Result}
    (rest : ∀ k, Confined (OnlyKeys (Identified target a)) (fun _ => True) (continuation k)) :
    Confined (OnlyKeys (Identified target a)) (fun _ => True)
      (liftExcept (parseId target a) >>= fun id => RsaKey.open id >>= continuation) := by
  refine identified_bind fun keyId identified => ?_
  have opened : Confined (OnlyKeys (Identified target a)) (fun _ => True) (RsaKey.open keyId) := by
    refine .bind ?_ fun _ => .returning
    exact openHandle_confined (fun _ _ => trivial) (onlyKeys_of_keyless rfl)
      (keyed_permitted identified _ rfl)
  exact .bind opened rest

theorem readFile_keyless {keyIds : KeyId → Prop} {path : String} :
    Confined (OnlyKeys keyIds) (fun _ => True) (readFile path) :=
  readFile_confined (onlyKeys_of_keyless rfl)

theorem eraseIfForced_confined {keyId : KeyId} (identified : Identified target a keyId) :
    Confined (OnlyKeys (Identified target a)) (fun _ => True) (eraseIfForced a keyId) := by
  rw [eraseIfForced]
  split
  · refine .swallowing (checked_confined (fun _ _ => trivial) (.issuing (onlyKeys_of_keyless rfl)) ?_)
    refine checked_confined (fun _ _ => trivial) (.issuing (keyed_permitted identified _ rfl)) ?_
    exact .bind (.issuing (keyed_permitted identified _ rfl)) fun _ =>
      check_confined fun _ _ => trivial
  · exact .returning

/-- Whatever an EC command does, it does to the key its identifier gave. -/
theorem doEcc_confined :
    Confined (OnlyKeys (Identified target a)) (fun _ => True) (doEcc mbedtls target a) := by
  rw [doEcc]
  dsimp only
  split
  · refine identified_bind fun keyId identified => ?_
    refine .bind (eraseIfForced_confined identified) fun _ => ?_
    refine .bind (.ofExcept fun _ _ => trivial) fun curve => ?_
    exact EcKey.provision_confined permits_onlyKeys output_onlyKeys (keyed_permitted identified)
  split
  · refine ecOpen_confined fun key => ?_
    exact emitted_confined output_onlyKeys (export_confined permits_onlyKeys)
  split
  · refine ecOpen_confined fun key => ?_
    refine .bind readFile_keyless fun input => ?_
    exact emitted_confined output_onlyKeys (EcKey.sign_confined permits_onlyKeys)
  split
  · refine ecOpen_confined fun key => ?_
    refine .bind readFile_keyless fun message => ?_
    refine .bind readFile_keyless fun signature => ?_
    exact verified_confined output_onlyKeys (asymmetricVerify_confined permits_onlyKeys)
  split
  · refine ecOpen_confined fun key => ?_
    refine .bind readFile_keyless fun input => ?_
    exact emitted_confined output_onlyKeys (EcKey.ecdh_confined permits_onlyKeys)
  split
  · refine ecOpen_confined fun key => ?_
    refine .bind (.ofExcept fun _ _ => trivial) fun subject => ?_
    exact textEmitted_confined output_onlyKeys (EcKey.makeCsr_confined permits_onlyKeys)
  · exact .throwing trivial

theorem doRsa_confined :
    Confined (OnlyKeys (Identified target a)) (fun _ => True) (doRsa mbedtls target a) := by
  rw [doRsa]
  dsimp only
  split
  · refine identified_bind fun keyId identified => ?_
    refine .bind (eraseIfForced_confined identified) fun _ => ?_
    refine .bind (.ofExcept fun _ _ => trivial) fun bits => ?_
    exact RsaKey.provision_confined permits_onlyKeys output_onlyKeys (keyed_permitted identified)
  split
  · refine rsaOpen_confined fun key => ?_
    exact emitted_confined output_onlyKeys (export_confined permits_onlyKeys)
  split
  · refine rsaOpen_confined fun key => ?_
    refine .bind readFile_keyless fun input => ?_
    exact emitted_confined output_onlyKeys (RsaKey.sign_confined permits_onlyKeys)
  split
  · refine rsaOpen_confined fun key => ?_
    refine .bind readFile_keyless fun message => ?_
    refine .bind readFile_keyless fun signature => ?_
    exact verified_confined output_onlyKeys (asymmetricVerify_confined permits_onlyKeys)
  split
  · refine rsaOpen_confined fun key => ?_
    refine .bind readFile_keyless fun input => ?_
    exact emitted_confined output_onlyKeys (RsaKey.encrypt_confined permits_onlyKeys)
  split
  · refine rsaOpen_confined fun key => ?_
    refine .bind readFile_keyless fun input => ?_
    exact emitted_confined output_onlyKeys (RsaKey.decrypt_confined permits_onlyKeys)
  split
  · refine rsaOpen_confined fun key => ?_
    refine .bind (.ofExcept fun _ _ => trivial) fun subject => ?_
    exact textEmitted_confined output_onlyKeys (RsaKey.makeCsr_confined permits_onlyKeys)
  · exact .throwing trivial

end Commands

def eccCommands : List String := ["genkey", "provision", "pub", "sign", "verify", "ecdh", "csr"]

def rsaCommands : List String :=
  ["genkey", "provision", "pub", "sign", "verify", "encrypt", "decrypt", "csr"]

/-- The command is one of its group's. -/
def CommandKnown (a : Args) : Prop :=
  a.command ∈ if a.group = "ecc" then eccCommands else rsaCommands

/-- The curve, or the key size, is one the program knows. -/
def ChoiceKnown (a : Args) : Prop :=
  if a.group = "ecc" then ∃ curve, parseCurve (a.get "--curve") = .ok curve
  else ∃ bits, parseBits (a.get "--bits") = .ok bits

/-- The command stops at its arguments, before it looks for a key: it has no identifier, it is
unknown, or it makes a key of an unknown kind without erasing one first. -/
def Refused (a : Args) : Prop :=
  a.get "--id" = "" ∨ ¬ CommandKnown a ∨
    (a.command = "genkey" ∨ a.command = "provision") ∧ a.flag "--force" = false ∧ ¬ ChoiceKnown a

section Refusals

variable {Result Choice : Type} {keyId : KeyId}

/-- The command throws at once. -/
def Stops (source : Cpp Result) : Prop := ∃ exception, source.run = .done (.error exception)

/-- The command comes to this key object when the calls before it succeed. -/
abbrev Finds (keyId : KeyId) (source : Cpp Result) : Prop :=
  Reaches (fun request : HostCall => request.keyObject = some keyId) source.run

theorem parseId_empty (missing : a.get "--id" = "") :
    parseId target a = .error (.argument .idRequired) :=
  if_pos missing

theorem parseId_given (given : a.get "--id" ≠ "") :
    Identified target a (strtoul target (a.get "--id") % 2 ^ 32) :=
  if_neg given

theorem unidentified_stops {continuation : KeyId → Cpp Result} (missing : a.get "--id" = "") :
    Stops (liftExcept (parseId target a) >>= continuation) :=
  ⟨_, by rw [parseId_empty missing]; rfl⟩

theorem ecOpen_finds {continuation : EcKey → Cpp Result} (identified : Identified target a keyId) :
    Finds keyId (liftExcept (parseId target a) >>= fun id => EcKey.open id >>= continuation) := by
  rw [show parseId target a = .ok keyId from identified]
  exact .later SssStatus.success (.here rfl)

theorem rsaOpen_finds {continuation : RsaKey → Cpp Result} (identified : Identified target a keyId) :
    Finds keyId (liftExcept (parseId target a) >>= fun id => RsaKey.open id >>= continuation) := by
  rw [show parseId target a = .ok keyId from identified]
  exact .later SssStatus.success (.here rfl)

theorem unforced_erases_nothing (unforced : a.flag "--force" = false) :
    eraseIfForced a keyId = pure () := by
  rw [eraseIfForced, unforced]
  rfl

theorem provisioning_stops {choice : Except CppException Choice}
    {generation : KeyId → Choice → Cpp Result} (unforced : a.flag "--force" = false)
    (unknown : ¬ ∃ chosen, choice = .ok chosen) :
    Stops (do
      let id ← liftExcept (parseId target a)
      eraseIfForced a id
      let chosen ← liftExcept choice
      generation id chosen) := by
  cases choice with
  | ok chosen => exact absurd ⟨chosen, rfl⟩ unknown
  | error exception =>
      cases parseId target a with
      | error missing => exact ⟨missing, rfl⟩
      | ok keyId =>
          change Stops (eraseIfForced a keyId >>= _)
          rw [unforced_erases_nothing unforced]
          exact ⟨exception, rfl⟩

theorem provisioning_finds {choice : Except CppException Choice}
    {generation : KeyId → Choice → Cpp Result} (identified : Identified target a keyId)
    (continues : a.flag "--force" = true ∨ ∃ chosen, choice = .ok chosen)
    (generating : ∀ chosen, Finds keyId (generation keyId chosen)) :
    Finds keyId (do
      let id ← liftExcept (parseId target a)
      eraseIfForced a id
      let chosen ← liftExcept choice
      generation id chosen) := by
  rw [show parseId target a = .ok keyId from identified]
  cases forced : a.flag "--force" with
  | true =>
      have erasing : eraseIfForced a keyId = tryErase keyId := by
        rw [eraseIfForced, forced]
        rfl
      change Finds keyId (eraseIfForced a keyId >>= _)
      rw [erasing]
      exact .later SssStatus.success (.here rfl)
  | false =>
      obtain unforced | ⟨chosen, rfl⟩ := continues
      · cases forced.symm.trans unforced
      · change Finds keyId (eraseIfForced a keyId >>= _)
        rw [unforced_erases_nothing forced]
        exact generating chosen

theorem doEcc_stops (ecc : a.group = "ecc") (refused : Refused a) :
    Stops (doEcc mbedtls target a) := by
  rw [Refused, CommandKnown, ChoiceKnown, if_pos ecc, if_pos ecc] at refused
  rw [doEcc]
  dsimp only
  obtain missing | unknown | ⟨provisioning, unforced, unknown⟩ := refused
  · split
    · exact unidentified_stops missing
    repeat
      split
      · exact unidentified_stops missing
    exact ⟨_, rfl⟩
  · simp only [eccCommands, List.mem_cons, List.not_mem_nil, or_false, not_or] at unknown
    simp only [unknown, or_self, ↓reduceIte]
    exact ⟨_, rfl⟩
  · rw [if_pos provisioning]
    exact provisioning_stops unforced unknown

theorem doRsa_stops (rsa : a.group ≠ "ecc") (refused : Refused a) :
    Stops (doRsa mbedtls target a) := by
  rw [Refused, CommandKnown, ChoiceKnown, if_neg rsa, if_neg rsa] at refused
  rw [doRsa]
  dsimp only
  obtain missing | unknown | ⟨provisioning, unforced, unknown⟩ := refused
  · split
    · exact unidentified_stops missing
    repeat
      split
      · exact unidentified_stops missing
    exact ⟨_, rfl⟩
  · simp only [rsaCommands, List.mem_cons, List.not_mem_nil, or_false, not_or] at unknown
    simp only [unknown, or_self, ↓reduceIte]
    exact ⟨_, rfl⟩
  · rw [if_pos provisioning]
    exact provisioning_stops unforced unknown

/-- What is not refused goes on to look for its key. -/
theorem continues_of_not_refused (accepted : ¬ Refused a)
    (provisioning : a.command = "genkey" ∨ a.command = "provision") :
    a.flag "--force" = true ∨ ChoiceKnown a := by
  by_contra stops
  rw [not_or, Bool.not_eq_true] at stops
  exact accepted (.inr (.inr ⟨provisioning, stops⟩))

theorem doEcc_finds (ecc : a.group = "ecc") (accepted : ¬ Refused a)
    (identified : Identified target a keyId) : Finds keyId (doEcc mbedtls target a) := by
  have continues := continues_of_not_refused accepted
  have known : a.command ∈ eccCommands := by
    by_contra unknown
    refine accepted (.inr (.inl ?_))
    rwa [CommandKnown, if_pos ecc]
  simp only [ChoiceKnown, if_pos ecc] at continues
  rw [doEcc]
  dsimp only
  split
  · rename_i provisioning
    refine provisioning_finds identified (continues provisioning) fun chosen => ?_
    exact .later SssStatus.success (.here rfl)
  · rename_i onExisting
    repeat
      split
      · exact ecOpen_finds identified
    simp_all [eccCommands]

theorem doRsa_finds (rsa : a.group ≠ "ecc") (accepted : ¬ Refused a)
    (identified : Identified target a keyId) : Finds keyId (doRsa mbedtls target a) := by
  have continues := continues_of_not_refused accepted
  have known : a.command ∈ rsaCommands := by
    by_contra unknown
    refine accepted (.inr (.inl ?_))
    rwa [CommandKnown, if_neg rsa]
  simp only [ChoiceKnown, if_neg rsa] at continues
  rw [doRsa]
  dsimp only
  split
  · rename_i provisioning
    refine provisioning_finds identified (continues provisioning) fun chosen => ?_
    exact .later SssStatus.success (.here rfl)
  · rename_i onExisting
    repeat
      split
      · exact rsaOpen_finds identified
    simp_all [rsaCommands]

end Refusals

section Invocations

variable {statusCode : SssStatus → Nat} {argv : List String} {trace : List (Event host)}
  {ending : Ending} {keyId : KeyId}

/-- The program works on keys. -/
def KeyGroup (a : Args) : Prop := a.group = "ecc" ∨ a.group = "rsa"

/-- The identifier is a numeral and fits its type. -/
def IdDenotes (a : Args) (keyId : KeyId) : Prop :=
  Numeral (a.get "--id").toList keyId ∧ keyId < 2 ^ 32

/-- Every key object is the one the identifier denotes, and an identifier that denotes none
is rejected before any key object is bound, erased or generated. -/
structure IdRespected (a : Args) (trace : List (Event host)) (ending : Ending) : Prop where
  denoted : ∀ event ∈ trace, ∀ keyId, event.request.keyObject = some keyId → IdDenotes a keyId
  rejected : (¬ ∃ keyId, IdDenotes a keyId) →
    ending.rc = 1 ∧ ∀ event ∈ trace, event.request.keyObject = none

theorem parseId_denoted (denotes : IdDenotes a keyId) : Identified target a keyId := by
  obtain ⟨whole, small⟩ := denotes
  have given : a.get "--id" ≠ "" := by
    intro missing
    rw [missing] at whole
    cases whole
  have parsed : Identified target a _ := parseId_given given
  rwa [strtoul_small whole small, Nat.mod_eq_of_lt small] at parsed

theorem dispatch_identified (group : KeyGroup a) {inner : List (Event host)}
    {outcome : Except CppException Nat} {event : Event host}
    (run : (dispatch mbedtls target argv a).run.Runs inner outcome) (issued : event ∈ inner)
    (named : event.request.keyObject = some keyId) : Identified target a keyId := by
  obtain ecc | rsa := group
  · rw [dispatch, if_neg (by rw [ecc]; decide), if_pos ecc] at run
    exact doEcc_confined.allowed run issued keyId named
  · rw [dispatch, if_neg (by rw [rsa]; decide), if_neg (by rw [rsa]; decide), if_pos rsa] at run
    exact doRsa_confined.allowed run issued keyId named

theorem dispatch_stops (group : KeyGroup a) (refused : Refused a) :
    Stops (dispatch mbedtls target argv a) := by
  obtain ecc | rsa := group
  · rw [dispatch, if_neg (by rw [ecc]; decide), if_pos ecc]
    exact doEcc_stops ecc refused
  · rw [dispatch, if_neg (by rw [rsa]; decide), if_neg (by rw [rsa]; decide), if_pos rsa]
    exact doRsa_stops (by rw [rsa]; decide) refused

theorem dispatch_finds (group : KeyGroup a) (accepted : ¬ Refused a)
    (identified : Identified target a keyId) : Finds keyId (dispatch mbedtls target argv a) := by
  obtain ecc | rsa := group
  · rw [dispatch, if_neg (by rw [ecc]; decide), if_pos ecc]
    exact doEcc_finds ecc accepted identified
  · rw [dispatch, if_neg (by rw [rsa]; decide), if_neg (by rw [rsa]; decide), if_pos rsa]
    exact doRsa_finds (by rw [rsa]; decide) accepted identified

/-- The key objects of a run are those of its command. -/
theorem main_identified (group : KeyGroup (parseArgs argv))
    (run : (main mbedtls target statusCode argv).Runs trace ending) {event : Event host}
    (issued : event ∈ trace) (named : event.request.keyObject = some keyId) :
    Identified target (parseArgs argv) keyId := by
  have keyed : ∀ {request : HostCall}, Housekeeping request → request.keyObject ≠ some keyId := by
    intro request own same
    cases own.keyless.2.symm.trans same
  cases main_runs run with
  | unopened quiet => exact absurd named (keyed (quiet event issued))
  | session before inner after performed quiet closing =>
      rw [List.mem_append, List.mem_append] at issued
      obtain first | within | last := issued
      · exact absurd named (keyed (quiet event first))
      · exact dispatch_identified group performed within named
      · exact absurd named (keyed (closing event last))

theorem main_refuses (group : KeyGroup (parseArgs argv)) (refused : Refused (parseArgs argv))
    (run : (main mbedtls target statusCode argv).Runs trace ending) :
    ending.rc = 1 ∧ ∀ event ∈ trace, event.request.keyObject = none := by
  cases main_runs run with
  | unopened quiet => exact ⟨rfl, fun event issued => (quiet event issued).keyless.2⟩
  | session before inner after performed quiet closing =>
      obtain ⟨exception, stopped⟩ := dispatch_stops group refused
      rw [stopped] at performed
      obtain ⟨rfl, rfl⟩ := Program.runs_done_iff.mp performed
      refine ⟨rfl, fun event issued => ?_⟩
      rw [List.nil_append, List.mem_append] at issued
      obtain first | last := issued
      · exact (quiet event first).keyless.2
      · exact (closing event last).keyless.2

/-- Against a secure element that opens a session the command is performed. -/
theorem main_finds (group : KeyGroup (parseArgs argv)) (accepted : ¬ Refused (parseArgs argv))
    (identified : Identified target (parseArgs argv) keyId) :
    Reaches (fun request : HostCall => request.keyObject = some keyId)
      (main mbedtls target statusCode argv) := by
  have grouped : (parseArgs argv).group ≠ "" := by
    obtain ecc | rsa := group
    · rw [ecc]; decide
    · rw [rsa]; decide
  have long : ¬ argv.length < 2 := by
    intro short
    refine grouped ?_
    rw [parseArgs, List.drop_eq_nil_of_le (by omega)]
    rfl
  rw [main, if_neg (not_or.mpr ⟨long, grouped⟩)]
  refine .after fun portName => ?_
  refine .later SssStatus.success (.later SssStatus.success ?_)
  change Reaches _ (inSession mbedtls target statusCode argv (parseArgs argv))
  exact .bind (.bind (dispatch_finds group accepted identified))

/-- The command is refused before it looks for a key, or its identifier denotes one. -/
def IdSound (a : Args) : Prop := Refused a ∨ ∃ keyId, IdDenotes a keyId

theorem main_respects_id (group : KeyGroup (parseArgs argv)) (sound : IdSound (parseArgs argv))
    (run : (main mbedtls target statusCode argv).Runs trace ending) :
    IdRespected (parseArgs argv) trace ending := by
  constructor
  · intro event issued keyId named
    obtain refused | ⟨other, denotes⟩ := sound
    · cases ((main_refuses group refused run).2 event issued).symm.trans named
    · have identified := main_identified group run issued named
      cases identified.symm.trans (parseId_denoted denotes)
      exact denotes
  · intro undenoted
    obtain refused | denotes := sound
    · exact main_refuses group refused run
    · exact absurd denotes undenoted

/-- Every run of an invocation respects its identifier exactly if the command is refused
before it looks for a key or the identifier is a numeral below 2^32, and then invocations
with different numbers share no key object. -/
theorem main_respects_id_iff (group : KeyGroup (parseArgs argv)) :
    ((∀ trace ending, (main mbedtls target statusCode argv).Runs trace ending →
        IdRespected (parseArgs argv) trace ending) ↔ IdSound (parseArgs argv)) ∧
    ∀ other, KeyGroup (parseArgs other) → IdSound (parseArgs argv) → IdSound (parseArgs other) →
      ∀ value otherValue, Numeral ((parseArgs argv).get "--id").toList value →
        Numeral ((parseArgs other).get "--id").toList otherValue → value ≠ otherValue →
      ∀ trace ending otherTrace otherEnding,
        (main mbedtls target statusCode argv).Runs trace ending →
        (main mbedtls target statusCode other).Runs otherTrace otherEnding →
        ∀ event ∈ trace, ∀ otherEvent ∈ otherTrace, ∀ keyId,
          event.request.keyObject = some keyId → otherEvent.request.keyObject ≠ some keyId := by
  constructor
  · constructor
    · intro respected
      by_cases refused : Refused (parseArgs argv)
      · exact .inl refused
      · have given : (parseArgs argv).get "--id" ≠ "" := fun missing => refused (.inl missing)
        obtain ⟨trace, ending, run, event, issued, named⟩ :=
          @main_finds mbedtls target statusCode argv _ group refused (parseId_given given)
        exact .inr ⟨_, (respected trace ending run).denoted event issued _ named⟩
    · intro sound trace ending run
      exact main_respects_id group sound run
  · intro other otherGroup sound otherSound value otherValue whole otherWhole differ
      trace ending otherTrace otherEnding run otherRun event issued otherEvent otherIssued keyId
      named otherNamed
    have denoted := (main_respects_id group sound run).denoted event issued keyId named
    have otherDenoted :=
      (main_respects_id otherGroup otherSound otherRun).denoted otherEvent otherIssued keyId otherNamed
    exact differ ((whole.unique denoted.1).trans (otherDenoted.1.unique otherWhole))

end Invocations

section Examples

def smallId : List String := ["se05x_crypto_app", "ecc", "pub", "--id", "0x10"]

theorem main_respects_id_small :
    KeyGroup (parseArgs smallId) ∧ IdDenotes (parseArgs smallId) 0x10 ∧
      ∀ trace ending, (main .demo .aarch64 (fun _ => 0) smallId).Runs trace ending →
        IdRespected (parseArgs smallId) trace ending := by
  have text : ((parseArgs smallId).get "--id").toList = ['0', 'x', '1', '0'] := by decide
  have whole : Numeral ((parseArgs smallId).get "--id").toList 0x10 := by
    rw [text]
    exact .hexadecimal (.inl rfl) (List.all_eq_true.mp rfl)
  have group : KeyGroup (parseArgs smallId) := .inl (by decide)
  have denotes : IdDenotes (parseArgs smallId) 0x10 := ⟨whole, by decide⟩
  exact ⟨group, denotes, (main_respects_id_iff group).1.mpr (.inr ⟨0x10, denotes⟩)⟩

/-- An identifier that is 0x10 in its lower 32 bits. -/
def wrappedId : List String :=
  ["se05x_crypto_app", "ecc", "genkey", "--id", "0x100000010", "--force"]

theorem wrappedId_numeral :
    Numeral ((parseArgs wrappedId).get "--id").toList 0x100000010 := by
  have text : ((parseArgs wrappedId).get "--id").toList =
      ['0', 'x', '1', '0', '0', '0', '0', '0', '0', '1', '0'] := by decide
  rw [text]
  exact .hexadecimal (.inl rfl) (List.all_eq_true.mp rfl)

/-- The key 0x10 is erased and made anew, and the program reports success. -/
theorem main_takes_another_key :
    ∃ trace, (main .demo .aarch64 (fun _ => 0) wrappedId).Runs trace ⟨0, none⟩ ∧
      erasing 0x10 .success ∈ trace ∧ ¬ IdRespected (parseArgs wrappedId) trace ⟨0, none⟩ := by
  let key : SssObject := .allocated 0x10 .pair .ecNistP 104 .persistent
  have run : (main .demo .aarch64 (fun _ => 0) wrappedId).Runs
      [⟨.getenv "EX_SSS_BOOT_SSS_PORT", none⟩, ⟨.bootOpen none, .success⟩,
        ⟨.keyStoreAndObjectInit, .success⟩, ⟨.sss .keyObjectInit, .success⟩,
        ⟨.sss (.keyObjectGetHandle 0x10), .success⟩, erasing 0x10 .success,
        ⟨.sss .keyObjectInit, .success⟩,
        ⟨.sss (.keyObjectAllocateHandle 0x10 .pair .ecNistP 104 .persistent), .success⟩,
        ⟨.sss (.keyStoreGenerateKey key 256), .success⟩,
        ⟨.printError ("[+] EC key provisioned (id=0x" ++ idText 0x10 ++ ")\n"), ()⟩,
        ⟨.allocate 256, .granted⟩,
        ⟨.sss (.keyStoreGetKey key 256), (.success, ⟨[], Nat.zero_le _⟩)⟩,
        ⟨.printOut [10], ()⟩, ⟨.sessionClose, ()⟩] ⟨0, none⟩ :=
    .call (.call (.call (.call (.call (.call (.call (.call (.call (.call (.call (.call (.call (.call
      .done)))))))))))))
  refine ⟨_, run, by simp, ?_⟩
  intro respected
  obtain ⟨whole, _⟩ := respected.denoted (erasing 0x10 .success) (by simp) 0x10 rfl
  exact absurd (whole.unique wrappedId_numeral) (by decide)

end Examples

end CppApp

end Se05x
