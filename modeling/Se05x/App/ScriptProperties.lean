import Se05x.App.Entry
import Se05x.App.Script
import Se05x.CppApp.CommandsProperties
import Se05x.Interaction.Performing

/-!
# The demo application follows the script

On every secure element and from any machine, the run of the application leaves behind what
the script does and succeeds exactly if it does.
-/

set_option autoImplicit false

namespace Se05x.App

open Der Interaction Procedure SecureElement
open CppApp (Machine Platform limited_eq_some_iff limited_some limited_some_full)

section Rules

variable {State : Type} {server : Server host State} {l : Locals} {state : State}
  {result : SssStatus × State}

/-- The status a demo with this body returns, and the server's state then. -/
def settled (server : Server host State) (body : Body Unit) (l : Locals) (state : State) :
    SssStatus × State :=
  (exitStatus (body.ran server l state).1.1 (body.ran server l state).1.2,
    (body.ran server l state).2)

theorem demo_exec {body : Body Unit} {cleanup : Locals → Program host Unit}
    (quiet : ∀ l state, (cleanup l).exec server state = ((), state)) :
    (demo body cleanup).exec server state = settled server body .start state := by
  have run : (body.start .start).exec server state = body.ran server .start state := rfl
  rw [demo, Program.exec_bind, run, settled]
  obtain ⟨⟨outcome, l⟩, after⟩ := body.ran server .start state
  cases outcome with
  | ok =>
      simp only [Program.exec_bind, quiet]
      rfl
  | error exit =>
      cases exit with
      | cleanup | fail =>
          simp only [Program.exec_bind, quiet]
          rfl
      | leave => rfl

theorem settled_issue {request : HostCall} {continuation : request.Answer → Body Unit}
    (next : settled server (continuation (server state request).1) l (server state request).2 = result) :
    settled server (issue request >>= continuation) l state = result := by
  rw [← next, settled, ran_bind]
  rfl

theorem settled_ensure {st : SssStatus} {continuation : Unit → Body Unit}
    (next : st = .success → settled server (continuation ()) { l with status := .success } state = result)
    (failed : st ≠ .success → (st, state) = result) :
    settled server (ensure st >>= continuation) l state = result := by
  by_cases passed : st = .success
  · rw [← next passed, passed]
    rfl
  · rw [← failed passed, settled, ensure, if_neg passed]
    rfl

theorem settled_modify {update : Locals → Locals} {continuation : Unit → Body Unit}
    (next : settled server (continuation ()) (update l) state = result) :
    settled server (modify update >>= continuation) l state = result := by
  rw [← next]
  rfl

end Rules

section Machines

variable {element : SecureElement} {platform : Platform} {machine : Machine element} {l : Locals}
  {result : SssStatus × Machine element}

theorem ran_sss_bind {Value : Type} {request : SssCall} {continuation : request.Answer → Body Value} :
    (sss request >>= continuation).ran platform.server l machine =
      (continuation (platform.server machine (.sss request)).1).ran platform.server l
        (platform.server machine (.sss request)).2 :=
  ran_bind

theorem logInfo_settled {text : String} {continuation : Unit → Body Unit}
    (next : settled platform.server (continuation ()) l machine = result) :
    settled platform.server (logInfo text >>= continuation) l machine = result :=
  settled_issue next

theorem logBytes_settled {label : String} {bytes : Bytes} {continuation : Unit → Body Unit}
    (next : settled platform.server (continuation ()) l machine = result) :
    settled platform.server (logBytes label bytes >>= continuation) l machine = result :=
  settled_issue next

theorem sss_settled {request : SssCall} {continuation : request.Answer → Body Unit}
    (next : settled platform.server (continuation (serve machine.store request).1) l
      (machine.withStore (serve machine.store request).2) = result) :
    settled platform.server (sss request >>= continuation) l machine = result :=
  settled_issue next

/-- A checked call that the element answers without a change. -/
theorem checked_settled {request : SssCall} {answered : request.Answer → SssStatus}
    {continuation : request.Answer → Unit → Body Unit}
    (unchanged : (serve machine.store request).2 = machine.store)
    (next : answered (serve machine.store request).1 = .success → ∀ l : Locals, l.status = .success →
      settled platform.server (continuation (serve machine.store request).1 ()) l machine = result)
    (failed : answered (serve machine.store request).1 ≠ .success →
      (answered (serve machine.store request).1, machine) = result) :
    settled platform.server (sss request >>= fun answer =>
      ensure (answered answer) >>= continuation answer) l machine = result := by
  refine sss_settled ?_
  rw [unchanged]
  exact settled_ensure (fun passed => next passed _ rfl) failed

/-- A call the element always grants. -/
theorem granted_settled {request : SssCall} {answered : request.Answer → SssStatus}
    {continuation : request.Answer → Unit → Body Unit}
    (unchanged : (serve machine.store request).2 = machine.store)
    (granted : answered (serve machine.store request).1 = .success)
    (next : ∀ l : Locals, l.status = .success →
      settled platform.server (continuation (serve machine.store request).1 ()) l machine = result) :
    settled platform.server (sss request >>= fun answer =>
      ensure (answered answer) >>= continuation answer) l machine = result :=
  checked_settled unchanged (fun _ => next) fun failed => absurd granted failed

theorem getKeyHandle_settled {keyId : KeyId} {continuation : Unit → Body Unit}
    (found : (machine.store.objects keyId).isSome → ∀ l : Locals, l.status = .success →
      settled platform.server (continuation ()) l machine = result)
    (missing : machine.store.objects keyId = none → (.fail, machine) = result) :
    settled platform.server (getKeyHandle keyId >>= continuation) l machine = result := by
  rw [getKeyHandle]
  simp only [bind_assoc]
  refine @granted_settled _ _ _ _ _ .keyObjectInit id _ rfl rfl fun l _ => settled_modify ?_
  refine @checked_settled _ _ _ _ _ (.keyObjectGetHandle keyId) id _ rfl ?_ ?_
  · intro passed l status
    refine settled_modify (found ?_ _ status)
    cases stored : machine.store.objects keyId with
    | none =>
        change statusOf (machine.store.objects keyId).isSome = .success at passed
        rw [stored] at passed
        cases passed
    | some object => rfl
  · intro failed
    cases stored : machine.store.objects keyId with
    | none =>
        rw [← missing stored]
        change (statusOf (machine.store.objects keyId).isSome, machine) = _
        rw [stored]
        rfl
    | some object =>
        refine absurd ?_ failed
        change statusOf (machine.store.objects keyId).isSome = .success
        rw [stored]
        rfl

theorem eraseKeyIfExists_settled {keyId : KeyId} {continuation : Unit → Body Unit}
    (next : settled platform.server (continuation ()) l
      (machine.withStore (machine.store.store keyId none)) = result) :
    settled platform.server (eraseKeyIfExists keyId >>= continuation) l machine = result := by
  have erased : (eraseKeyIfExists keyId).ran platform.server l machine =
      ((.ok (), l), machine.withStore (machine.store.store keyId none)) := by
    have bound : (platform.server machine (.sss (.keyObjectGetHandle keyId))).1 =
        statusOf (machine.store.objects keyId).isSome := rfl
    rw [eraseKeyIfExists, ran_sss_bind]
    change (sss (.keyObjectGetHandle keyId) >>= _).ran platform.server l machine = _
    rw [ran_sss_bind, bound]
    cases stored : machine.store.objects keyId with
    | none =>
        rw [CppApp.store_absent stored]
        rfl
    | some object => rfl
  rw [← next, settled, ran_bind, erased]
  rfl

theorem allocateKey_settled {place : Locals → SssObject → Locals} {keyId : KeyId}
    {keyPart : KeyPart} {cipherType : CipherType} {keyByteLenMax : Nat} {mode : ObjectMode}
    {continuation : SssObject → Body Unit}
    (next : ∀ l, settled platform.server
      (continuation (.allocated keyId keyPart cipherType keyByteLenMax mode)) l machine = result) :
    settled platform.server (allocateKey place keyId keyPart cipherType keyByteLenMax mode >>=
      continuation) l machine = result := by
  rw [allocateKey]
  simp only [bind_assoc, pure_bind]
  refine @granted_settled _ _ _ _ _ .keyObjectInit id _ rfl rfl fun l _ => settled_modify ?_
  refine @granted_settled _ _ _ _ _ (.keyObjectAllocateHandle _ _ _ _ _) id _ rfl rfl fun l _ => ?_
  exact settled_modify (next _)

theorem logInfo_last {text : String} (status : l.status = .success) :
    settled platform.server (logInfo text) l machine = (.success, machine) := by
  rw [← status]
  rfl

end Machines

/-! ## The demos -/

section Demos

variable {element : SecureElement} {platform : Platform} {machine : Machine element}

/-- The status and the machine after a scene. -/
def shown (left : Bool × Machine element) : SssStatus × Machine element := (statusOf left.1, left.2)

/-- The demo does on every machine what the scene says. -/
def Follows (element : SecureElement) (platform : Platform) (fn : Program host SssStatus)
    (scene : Scene element) : Prop :=
  ∀ machine : Machine element, fn.exec platform.server machine = shown (scene machine)

theorem reportFailure_quiet {l : Locals} {text : String} :
    (reportFailure l text).exec platform.server machine = ((), machine) := by
  rw [reportFailure]
  split <;> rfl

theorem demoRng_follows :
    Follows element platform demoRng (.onStore fun store => (true, store.draw)) := by
  intro machine
  refine (demo_exec ?_).trans ?_
  · exact fun l machine => reportFailure_quiet
  refine logInfo_settled ?_
  refine @granted_settled _ _ _ _ _ .rngContextInit id _ rfl rfl fun l _ => sss_settled ?_
  refine settled_ensure (fun _ => logBytes_settled ?_) fun failed => absurd rfl failed
  rfl

theorem store_store {state : State element} {keyId : KeyId}
    {first second : Option (StoredObject element.Key)} :
    (state.store keyId first).store keyId second = state.store keyId second := by
  refine congrArg (fun objects => State.mk objects state.draws) (funext fun other => ?_)
  by_cases same : other = keyId <;> simp [State.store, same]

theorem generated_cleared {state : State element} {keyId : KeyId} {cipherType : CipherType}
    {bits : Nat} : generated (state.store keyId none) keyId cipherType bits =
      generated state keyId cipherType bits :=
  congrArg State.draw store_store

theorem generated_objects {state : State element} {keyId : KeyId} {cipherType : CipherType}
    {bits : Nat} : (generated state keyId cipherType bits).objects keyId =
      some (.pair (element.newKey cipherType bits state.draws)) :=
  State.store_objects state keyId _

theorem generated_other {state : State element} {keyId other : KeyId} {cipherType : CipherType}
    {bits : Nat} (distinct : other ≠ keyId) :
    (generated state keyId cipherType bits).objects other = state.objects other :=
  State.store_other state _ distinct

theorem delivered {room : Nat} {output : Option Bytes} (passed : (deliver room output).1 = .success) :
    limited room output = some (deliver room output).2.val := by
  cases output with
  | none => cases passed
  | some bytes =>
      by_cases fits : bytes.length ≤ room
      · rw [deliver_fits fits]
        exact limited_some fits
      · rw [deliver_full (Nat.lt_of_not_le fits)] at passed
        cases passed

theorem undelivered {room : Nat} {output : Option Bytes}
    (failed : (deliver room output).1 ≠ .success) :
    (deliver room output).1 = .fail ∧ limited room output = none := by
  cases output with
  | none => exact ⟨rfl, rfl⟩
  | some bytes =>
      by_cases fits : bytes.length ≤ room
      · rw [deliver_fits fits] at failed
        exact absurd rfl failed
      · rw [deliver_full (Nat.lt_of_not_le fits)]
        exact ⟨rfl, limited_some_full fits⟩

/-- A result of a key is limited as the result of the stored key is. -/
theorem limited_bind_some {Key : Type} {stored : Option Key} {operation : Key → Option Bytes}
    {room : Nat} {output : Bytes} (made : limited room (stored.bind operation) = some output) :
    ∃ key, stored = some key ∧ limited room (operation key) = some output := by
  cases stored with
  | none => cases made
  | some key => exact ⟨key, rfl, made⟩

theorem limited_bind_none {Key Value : Type} {stored : Option Key} {operation : Key → Option Bytes}
    {room : Nat} {rest : Key → Bytes → Option Value}
    (failed : limited room (stored.bind operation) = none) :
    (stored.bind fun key => (limited room (operation key)).bind (rest key)) = none := by
  cases stored with
  | none => rfl
  | some key =>
      rw [Option.bind_some] at failed ⊢
      rw [failed]
      rfl

theorem demoEcKeygen_follows : Follows element platform demoEcKeygen (.onStore aliceGenerated) := by
  intro machine
  refine (demo_exec ?_).trans ?_
  · exact fun l machine => reportFailure_quiet
  refine logInfo_settled (eraseKeyIfExists_settled (allocateKey_settled fun l => sss_settled ?_))
  refine settled_ensure (fun _ => logInfo_settled ?_) fun failed => absurd rfl failed
  change settled platform.server _ _ (machine.withStore
    (generated (machine.store.store demoKeyEcAlice none) demoKeyEcAlice .ecNistP 256)) = _
  rw [generated_cleared]
  rw [shown, Scene.onStore, aliceGenerated]
  refine @checked_settled _ _ _ _ _ (.keyStoreGetKey _ ecPubBufLen) Prod.fst _ rfl ?_ ?_
  · intro passed l status
    have exports : limited 200 (element.exported ((generated machine.store demoKeyEcAlice .ecNistP
        256).objects demoKeyEcAlice)) = some _ := delivered passed
    rw [exports]
    exact logBytes_settled (logInfo_last status)
  · intro failed
    obtain ⟨st, missing⟩ := undelivered failed
    have exports : limited 200 (element.exported ((generated machine.store demoKeyEcAlice .ecNistP
        256).objects demoKeyEcAlice)) = none := missing
    rw [exports]
    exact congrArg (·, _) st

theorem demoRsaKeygen_follows : Follows element platform demoRsaKeygen (.onStore rsaGenerated) := by
  intro machine
  refine (demo_exec ?_).trans ?_
  · intro l machine
    change (if l.status ≠ .success then ask (.logError "RSA keygen FAILED")
      else ask (.logInfo "RSA Keygen OK") : Program host Unit).exec platform.server machine = _
    split <;> rfl
  refine logInfo_settled (logInfo_settled (eraseKeyIfExists_settled (allocateKey_settled fun l =>
    sss_settled ?_)))
  refine settled_ensure (fun _ => ?_) fun failed => absurd rfl failed
  change settled platform.server _ _ (machine.withStore
    (generated (machine.store.store demoKeyRsa none) demoKeyRsa .rsaCrt 2048)) = _
  rw [generated_cleared]
  exact logInfo_last rfl

theorem openAsym_settled {context : KeyContext} {l : Locals} {continuation : Unit → Body Unit}
    {result : SssStatus × Machine element}
    (next : ∀ l : Locals, l.status = .success →
      settled platform.server (continuation ()) l machine = result) :
    settled platform.server (openAsym context >>= continuation) l machine = result := by
  rw [openAsym]
  simp only [bind_assoc]
  refine @granted_settled _ _ _ _ _ (.asymmetricContextInit context) id _ rfl rfl fun l status => ?_
  exact settled_modify (next _ status)

theorem closeAsym_settled {l : Locals} {continuation : Unit → Body Unit}
    {result : SssStatus × Machine element} (status : l.status = .success)
    (next : ∀ l : Locals, l.status = .success →
      settled platform.server (continuation ()) l machine = result) :
    settled platform.server (closeAsym >>= continuation) l machine = result := by
  rw [closeAsym]
  simp only [bind_assoc]
  exact sss_settled (settled_modify (next _ status))

/-- The second half of signing: the new signature is checked with the stored key. -/
theorem verifying_settled {keyId : KeyId} {algorithm : Algorithm} {digest signature : Bytes}
    {sigLabel done : String} {key : element.Key} {l : Locals}
    (stored : machine.store.pairAt keyId = some key) (status : l.status = .success) :
    settled platform.server (do
      logBytes sigLabel signature
      closeAsym
      openAsym ⟨.existing keyId, algorithm, .verify⟩
      ensure (← sss (.asymmetricVerifyDigest ⟨.existing keyId, algorithm, .verify⟩ digest signature))
      logInfo done) l machine =
      (statusOf (element.verify key algorithm digest signature), machine) := by
  have answered : (serve machine.store
      (.asymmetricVerifyDigest ⟨.existing keyId, algorithm, .verify⟩ digest signature)).1 =
        statusOf (element.verify key algorithm digest signature) := by
    change statusOf ((machine.store.pairAt keyId).any _) = _
    rw [stored]
    rfl
  refine logBytes_settled (closeAsym_settled status fun l _ => openAsym_settled fun l _ => ?_)
  refine @checked_settled _ _ _ _ _ (.asymmetricVerifyDigest _ digest signature) id _ rfl ?_ ?_
  · intro passed l status
    rw [← answered]
    exact (logInfo_last status).trans (congrArg (·, machine) passed.symm)
  · intro _
    exact congrArg (·, machine) answered

theorem signing_settled {keyId : KeyId} {algorithm : Algorithm} {digest : Bytes} {room : Nat}
    {sigLabel done : String} {l : Locals} :
    settled platform.server (do
      logBytes "SHA-256 digest" digest
      openAsym ⟨.existing keyId, algorithm, .sign⟩
      let (st, sig) ← sss (.asymmetricSignDigest ⟨.existing keyId, algorithm, .sign⟩ digest room)
      ensure st
      logBytes sigLabel sig.val
      closeAsym
      openAsym ⟨.existing keyId, algorithm, .verify⟩
      ensure (← sss (.asymmetricVerifyDigest ⟨.existing keyId, algorithm, .verify⟩ digest sig.val))
      logInfo done) l machine =
      (statusOf (((machine.store.pairAt keyId).bind fun key =>
        (limited room (element.sign key algorithm digest)).bind fun signature =>
          some (element.verify key algorithm digest signature)).getD false), machine) := by
  refine logBytes_settled (openAsym_settled fun l _ => ?_)
  refine @checked_settled _ _ _ _ _ (.asymmetricSignDigest _ digest room) Prod.fst _ rfl ?_ ?_
  · intro passed l status
    obtain ⟨key, stored, signed⟩ := limited_bind_some (delivered passed)
    rw [show machine.store.pairAt keyId = some key from stored, Option.bind_some, signed,
      Option.bind_some]
    exact verifying_settled stored status
  · intro failed
    obtain ⟨st, missing⟩ := undelivered failed
    have unsigned : limited room ((machine.store.pairAt keyId).bind fun key =>
        element.sign key algorithm digest) = none := missing
    rw [limited_bind_none unsigned]
    exact congrArg (·, machine) st

theorem signVerify_follows {heading : String} {keyId : KeyId} {message : Bytes}
    {algorithm : Algorithm} {sigBufLen : Nat} {sigLabel done failed : String} :
    Follows element platform
      (signVerify heading keyId message algorithm sigBufLen sigLabel done failed)
      (.checking fun store => signedAndVerified store keyId message algorithm sigBufLen) := by
  intro machine
  refine (demo_exec ?_).trans ?_
  · exact fun l machine => reportFailure_quiet
  rw [shown, Scene.checking, signedAndVerified]
  refine logInfo_settled (getKeyHandle_settled (fun _ l _ => ?_) fun missing => ?_)
  · refine @granted_settled _ _ _ _ _ (.digestContextInit _) id _ rfl rfl fun l _ => settled_modify ?_
    refine @checked_settled _ _ _ _ _ (.digestOneGo _ message 32) Prod.fst _ rfl ?_ ?_
    · intro passed l _
      have digested : limited 32 (some (element.digest .sha256 message)) = some _ := delivered passed
      rw [digested]
      exact signing_settled
    · intro failed
      obtain ⟨st, long⟩ := undelivered failed
      have undigested : limited 32 (some (element.digest .sha256 message)) = none := long
      rw [undigested]
      exact congrArg (·, machine) st
  · have absent : machine.store.pairAt keyId = none := by rw [State.pairAt, missing]; rfl
    rw [absent]
    cases limited 32 (some (element.digest .sha256 message)) <;> rfl

/-- What the new pair and the stored one agree on. -/
theorem agreed_generated {state : State element} {bobObject : SssObject}
    (bob : bobObject.keyId = some demoKeyEcBob) {mode : Mode} :
    agreed ((generated state demoKeyEcBob .ecNistP 256).store demoKeyEcShared none)
        ⟨.existing demoKeyEcAlice, .ecdh, mode⟩ bobObject =
      (state.pairAt demoKeyEcAlice).bind fun alice =>
        element.sharedX alice (element.publicKeyDer (element.newKey .ecNistP 256 state.draws)) := by
  let cleared := (generated state demoKeyEcBob .ecNistP 256).store demoKeyEcShared none
  have alice : cleared.objects demoKeyEcAlice = state.objects demoKeyEcAlice :=
    (State.store_other _ _ (by decide)).trans (generated_other (by decide))
  have pair : cleared.objects demoKeyEcBob =
      some (.pair (element.newKey .ecNistP 256 state.draws)) :=
    (State.store_other _ _ (by decide)).trans generated_objects
  have first : pairOf (cleared.lookup (.existing demoKeyEcAlice)) = state.pairAt demoKeyEcAlice :=
    congrArg pairOf alice
  have second : element.exported (cleared.lookup bobObject) =
      some (element.publicKeyDer (element.newKey .ecNistP 256 state.draws)) := by
    rw [State.lookup, bob, Option.bind_some, pair]
    rfl
  change agreed cleared _ _ = _
  rw [agreed, first, second]
  cases state.pairAt demoKeyEcAlice <;> rfl

theorem derived_generated {state : State element} {bobObject : SssObject}
    (bob : bobObject.keyId = some demoKeyEcBob) {mode : Mode} {keyId : KeyId} {keyPart : KeyPart}
    {cipherType : CipherType} {room : Nat} {objectMode : ObjectMode} :
    deriveKey ((generated state demoKeyEcBob .ecNistP 256).store demoKeyEcShared none)
        (agreed ((generated state demoKeyEcBob .ecNistP 256).store demoKeyEcShared none)
          ⟨.existing demoKeyEcAlice, .ecdh, mode⟩ bobObject)
        (.allocated keyId keyPart cipherType room objectMode) =
      match limited room ((state.pairAt demoKeyEcAlice).bind fun alice =>
        element.sharedX alice (element.publicKeyDer (element.newKey .ecNistP 256 state.draws))) with
      | none => (.fail, (generated state demoKeyEcBob .ecNistP 256).store demoKeyEcShared none)
      | some bytes =>
        (.success, ((generated state demoKeyEcBob .ecNistP 256).store demoKeyEcShared none).store keyId
          (some (.secret bytes))) := by
  rw [agreed_generated bob]
  exact CppApp.deriveKey_limited

/-- A derivation stores a secret that fits the derived object. -/
theorem deriveKeyDh_settled {context : KeyContext} {otherParty derived : SssObject} {l : Locals}
    {keyId : KeyId} {room : Nat} {secret : Option Bytes} {continuation : Unit → Body Unit}
    {result : SssStatus × Machine element}
    (served : deriveKey machine.store (agreed machine.store context otherParty) derived =
      match limited room secret with
      | none => (.fail, machine.store)
      | some bytes => (.success, machine.store.store keyId (some (.secret bytes))))
    (next : ∀ bytes, limited room secret = some bytes → ∀ l : Locals, l.status = .success →
      settled platform.server (continuation ()) l
        (machine.withStore (machine.store.store keyId (some (.secret bytes)))) = result)
    (failed : limited room secret = none → (.fail, machine) = result) :
    settled platform.server (sss (.deriveKeyDh context otherParty derived) >>= fun st =>
      ensure st >>= continuation) l machine = result := by
  have status := congrArg Prod.fst served
  have store := congrArg Prod.snd served
  refine sss_settled ?_
  change settled platform.server (ensure (deriveKey machine.store _ _).1 >>= continuation) l
    (machine.withStore (deriveKey machine.store _ _).2) = result
  rw [status, store]
  cases fits : limited room secret with
  | none => exact settled_ensure (fun passed => by cases passed) fun _ => failed fits
  | some bytes =>
      exact settled_ensure (fun _ => next bytes fits _ rfl) fun failed => absurd rfl failed

theorem demoEcEcdh_follows : Follows element platform demoEcEcdh (.onStore agreedWithBob) := by
  intro machine
  refine (demo_exec ?_).trans ?_
  · exact fun l machine => reportFailure_quiet
  rw [shown, Scene.onStore, agreedWithBob]
  refine logInfo_settled (getKeyHandle_settled (fun found l _ => ?_) fun missing => ?_)
  · rw [if_pos found]
    refine eraseKeyIfExists_settled (allocateKey_settled fun l => sss_settled ?_)
    refine settled_ensure (fun _ => logInfo_settled ?_) fun failed => absurd rfl failed
    change settled platform.server _ _ (machine.withStore
      (generated (machine.store.store demoKeyEcBob none) demoKeyEcBob .ecNistP 256)) = _
    rw [generated_cleared]
    refine eraseKeyIfExists_settled (allocateKey_settled fun l => ?_)
    refine @granted_settled _ _ _ _ _ (.deriveKeyContextInit _) id _ rfl rfl fun l _ => settled_modify ?_
    have served := @derived_generated element machine.store
      (.allocated demoKeyEcBob .pair .ecNistP ecKeypairMaxBytes .persistent) rfl .computeSharedSecret
      demoKeyEcShared .defaultPart .aes 32 .transient
    let cleared := machine.withStore
      ((generated machine.store demoKeyEcBob .ecNistP 256).store demoKeyEcShared none)
    change settled platform.server _ _ cleared = _
    refine @deriveKeyDh_settled element platform cleared _ _ _ _ _ _ _ _ _ served
      (fun secret made l status => ?_) fun none => ?_
    · dsimp only
      rw [made]
      refine logInfo_settled (sss_settled ?_)
      change settled platform.server (if (deliver _ _).1 = .success then _ else _) l _ = _
      split
      · exact logBytes_settled (logInfo_last status)
      · exact logInfo_settled (logInfo_last status)
    · dsimp only
      rw [none]
      rfl
  · have unbound : ¬ (machine.store.objects demoKeyEcAlice).isSome = true := by
      rw [missing]
      exact Bool.false_ne_true
    rw [if_neg unbound]
    rfl

/-- The lengths and then the bytes are compared. -/
theorem same_iff {recovered plaintext : Bytes} :
    (recovered.length ≠ plaintext.length ∨ recovered.take plaintext.length ≠ plaintext) ↔
      recovered ≠ plaintext := by
  constructor
  · intro differs same
    subst same
    rcases differs with length | bytes
    · exact length rfl
    · exact bytes List.take_length
  · intro differs
    by_cases length : recovered.length = plaintext.length
    · refine .inr fun same => differs ?_
      rw [← length, List.take_length] at same
      exact same
    · exact .inl length

theorem comparing_settled {recovered plaintext : Bytes} {l : Locals} (status : l.status = .success) :
    settled platform.server (do
      logBytes "Decrypted" recovered
      if recovered.length ≠ plaintext.length ∨ recovered.take plaintext.length ≠ plaintext then
        logError "Decrypted plaintext does NOT match!"
        throw .fail
      else
        logInfo "RSA Enc/Dec OK — plaintext matches") l machine =
      (statusOf (recovered == plaintext), machine) := by
  refine logBytes_settled ?_
  split
  next differs =>
      rw [beq_eq_false_iff_ne.mpr (same_iff.mp differs)]
      exact settled_issue rfl
  next agrees =>
      rw [beq_iff_eq.mpr (not_not.mp (mt same_iff.mpr agrees))]
      exact logInfo_last status

theorem recovering_settled {key : element.Key} {ciphertext plaintext : Bytes} {l : Locals}
    (stored : machine.store.pairAt demoKeyRsa = some key) (status : l.status = .success) :
    settled platform.server (do
      logBytes "Ciphertext" ciphertext
      closeAsym
      openAsym ⟨.existing demoKeyRsa, .rsaesPkcs1OaepSha256, .decrypt⟩
      let (st, recovered) ← sss (.asymmetricDecrypt
        ⟨.existing demoKeyRsa, .rsaesPkcs1OaepSha256, .decrypt⟩ ciphertext rsaSigBufLen)
      ensure st
      logBytes "Decrypted" recovered.val
      if recovered.val.length ≠ plaintext.length ∨
          recovered.val.take plaintext.length ≠ plaintext then
        logError "Decrypted plaintext does NOT match!"
        throw .fail
      else
        logInfo "RSA Enc/Dec OK — plaintext matches") l machine =
      (statusOf (((limited 256 (element.decrypt key .rsaesPkcs1OaepSha256 ciphertext)).bind
        fun recovered => some (recovered == plaintext)).getD false), machine) := by
  refine logBytes_settled (closeAsym_settled status fun l _ => openAsym_settled fun l _ => ?_)
  refine @checked_settled _ _ _ _ _ (.asymmetricDecrypt _ ciphertext rsaSigBufLen) Prod.fst _ rfl ?_ ?_
  · intro passed l status
    obtain ⟨other, same, decrypted⟩ := limited_bind_some (delivered passed)
    obtain rfl := Option.some.inj (stored.symm.trans same)
    have recovers : limited 256 (element.decrypt key .rsaesPkcs1OaepSha256 ciphertext) = some _ :=
      decrypted
    rw [recovers, Option.bind_some, Option.getD_some]
    exact comparing_settled status
  · intro failed
    obtain ⟨st, missing⟩ := undelivered failed
    have undecrypted : limited 256 ((machine.store.pairAt demoKeyRsa).bind fun key =>
        element.decrypt key .rsaesPkcs1OaepSha256 ciphertext) = none := missing
    rw [stored, Option.bind_some] at undecrypted
    rw [undecrypted]
    exact congrArg (·, machine) st

theorem demoRsaEncDec_follows : Follows element platform demoRsaEncDec (.checking recovers) := by
  intro machine
  refine (demo_exec ?_).trans ?_
  · exact fun l machine => reportFailure_quiet
  rw [shown, Scene.checking, recovers]
  refine logInfo_settled (getKeyHandle_settled (fun _ l _ => openAsym_settled fun l _ => ?_)
    fun missing => ?_)
  · refine @checked_settled _ _ _ _ _ (.asymmetricEncrypt _ _ rsaSigBufLen) Prod.fst _ rfl ?_ ?_
    · intro passed l status
      obtain ⟨key, found, encrypted⟩ := limited_bind_some (delivered passed)
      have stored : machine.store.pairAt demoKeyRsa = some key := found
      have encrypts : limited 256 (element.encrypt key .rsaesPkcs1OaepSha256
        (asciiBytes "Hello from SE051!")) = some _ := encrypted
      rw [stored, Option.bind_eq_bind, Option.bind_some, encrypts, Option.bind_eq_bind,
        Option.bind_some]
      exact recovering_settled stored status
    · intro failed
      obtain ⟨st, missing⟩ := undelivered failed
      have unencrypted : limited 256 ((machine.store.pairAt demoKeyRsa).bind fun key =>
        element.encrypt key .rsaesPkcs1OaepSha256 (asciiBytes "Hello from SE051!")) = none := missing
      refine (congrArg (·, machine) st).trans ?_
      change _ = (statusOf (((machine.store.pairAt demoKeyRsa).bind fun key => (limited 256
        (element.encrypt key _ _)).bind fun ciphertext => _).getD false), machine)
      rw [limited_bind_none unencrypted]
      rfl
  · have absent : machine.store.pairAt demoKeyRsa = none := by rw [State.pairAt, missing]; rfl
    rw [absent]
    rfl

section Requests

variable {mbedtls : Mbedtls} {csrDemo : CsrDemo} {isEc : Bool} {name : Bytes}

theorem saveFile_settled {path : String} {bytes : Bytes} {l : Locals}
    {continuation : Unit → Body Unit} {result : SssStatus × Machine element}
    (next : settled platform.server (continuation ()) l (save platform machine (path, bytes)) = result) :
    settled platform.server (saveFile path bytes >>= continuation) l machine = result := by
  rw [saveFile]
  simp only [bind_assoc]
  exact settled_issue next

theorem savePem_settled {csr : Bytes} {l : Locals} {continuation : Unit → Body Unit}
    {result : SssStatus × Machine element} (pemDocumented : mbedtls.PemDocumented)
    (room : pemRoom CppApp.pemHeader CppApp.pemFooter csr ≤ csrDemo.pemSize)
    (next : settled platform.server (continuation ()) l (save platform machine
      (csrDemo.pemPath, pemText CppApp.pemHeader CppApp.pemFooter csr ++ [0])) = result) :
    settled platform.server (savePem mbedtls csrDemo csr >>= continuation) l machine = result := by
  obtain ⟨rest, written⟩ :=
    pemDocumented CppApp.pemHeader CppApp.pemFooter csr csrDemo.pemSize room
  rw [CppApp.pemHeader, CppApp.pemFooter] at written
  have cut : (pemText CppApp.pemHeader CppApp.pemFooter csr ++ 0 :: rest).take
      ((pemText CppApp.pemHeader CppApp.pemFooter csr).length + 1) =
        pemText CppApp.pemHeader CppApp.pemFooter csr ++ [0] := by
    rw [List.take_append]
    simp
  rw [savePem, written]
  simp only [bind_assoc]
  refine logInfo_settled (saveFile_settled ?_)
  rw [CppApp.pemHeader, CppApp.pemFooter] at cut next
  rw [cut]
  exact next

/-- With the signature at hand, the request is assembled and both files are written. -/
theorem saving_settled (roomy : Roomy mbedtls csrDemo isEc name)
    (pemDocumented : mbedtls.PemDocumented) {spki : Filled csrDemo.spkiSize}
    {sig : Filled csrDemo.sigSize} {l : Locals} (status : l.status = .success) :
    settled platform.server (do
      closeAsym
      let csr ← liftExcept (assembleCsr mbedtls csrDemo.csrSize csrDemo.algorithmIdentifier
        (infoEncoding name spki.val) sig.val)
      logBytes (csrDemo.name ++ " CSR DER") csr
      saveFile csrDemo.derPath csr
      savePem mbedtls csrDemo csr
      logInfo (csrDemo.name ++ " CSR written to " ++ csrDemo.derPath ++ " and " ++ csrDemo.pemPath)
      logInfo ("Verify: openssl req -in " ++ csrDemo.pemPath ++ " -noout -text")
      logInfo (csrDemo.name ++ " CSR OK")
      modify fun l => { l with status := .success }) l machine =
      (.success, (completeFiles csrDemo isEc name spki.val sig.val).foldl (save platform) machine) := by
  refine closeAsym_settled status fun l _ => ?_
  rw [roomy.request spki.val sig.val spki.property sig.property]
  have room := roomy.pem spki.val sig.val spki.property sig.property
  refine logBytes_settled (saveFile_settled (savePem_settled pemDocumented room ?_))
  exact logInfo_settled (logInfo_settled (logInfo_settled rfl))

theorem requesting_settled (roomy : Roomy mbedtls csrDemo isEc name)
    (pemDocumented : mbedtls.PemDocumented) {spki : Filled csrDemo.spkiSize} {l : Locals} :
    settled platform.server (do
      let cri ← liftExcept (buildCri mbedtls csrDemo.criSize spki.val)
      match mbedtls.sha256Ret cri with
      | none => throw .fail
      | some hash =>
        openAsym ⟨.existing csrDemo.keyId, csrDemo.algorithm, .sign⟩
        let (st, sig) ← sss (.asymmetricSignDigest
          ⟨.existing csrDemo.keyId, csrDemo.algorithm, .sign⟩ hash.toList csrDemo.sigSize)
        ensure st
        closeAsym
        let csr ← liftExcept
          (assembleCsr mbedtls csrDemo.csrSize csrDemo.algorithmIdentifier cri sig.val)
        logBytes (csrDemo.name ++ " CSR DER") csr
        saveFile csrDemo.derPath csr
        savePem mbedtls csrDemo csr
        logInfo (csrDemo.name ++ " CSR written to " ++ csrDemo.derPath ++ " and " ++
          csrDemo.pemPath)
        logInfo ("Verify: openssl req -in " ++ csrDemo.pemPath ++ " -noout -text")
        logInfo (csrDemo.name ++ " CSR OK")
        modify fun l => { l with status := .success }) l machine =
      match (mbedtls.sha256Ret (infoEncoding name spki.val)).bind fun digest =>
        (machine.store.pairAt csrDemo.keyId).bind fun key =>
          (limited csrDemo.sigSize (element.sign key csrDemo.algorithm digest.toList)).bind
            fun signature => some (completeFiles csrDemo isEc name spki.val signature) with
      | none => (.fail, machine)
      | some files => (.success, files.foldl (save platform) machine) := by
  rw [roomy.information spki.val spki.property]
  change settled platform.server (match mbedtls.sha256Ret (infoEncoding name spki.val) with
    | none => _
    | some hash => _) l machine = _
  cases mbedtls.sha256Ret (infoEncoding name spki.val) with
  | none => rfl
  | some hash =>
      refine openAsym_settled fun l _ => ?_
      refine @checked_settled _ _ _ _ _ (.asymmetricSignDigest _ hash.toList csrDemo.sigSize) Prod.fst _
        rfl ?_ ?_
      · intro passed l status
        obtain ⟨key, found, made⟩ := limited_bind_some (delivered passed)
        have stored : machine.store.pairAt csrDemo.keyId = some key := found
        have signed : limited csrDemo.sigSize (element.sign key csrDemo.algorithm hash.toList) =
          some _ := made
        rw [Option.bind_some, stored, Option.bind_some, signed]
        exact saving_settled roomy pemDocumented status
      · intro failed
        obtain ⟨st, missing⟩ := undelivered failed
        have unsigned : limited csrDemo.sigSize ((machine.store.pairAt csrDemo.keyId).bind fun key =>
          element.sign key csrDemo.algorithm hash.toList) = none := missing
        rw [Option.bind_some, limited_bind_none unsigned]
        exact congrArg (·, machine) st

theorem requested_shown : shown (requested platform mbedtls name csrDemo isEc machine) =
    match requestFiles machine.store mbedtls name csrDemo isEc with
    | none => (.fail, machine)
    | some files => (.success, files.foldl (save platform) machine) := by
  rw [requested]
  cases requestFiles machine.store mbedtls name csrDemo isEc <;> rfl

theorem requestCsr_follows (roomy : Roomy mbedtls csrDemo isEc name)
    (pemDocumented : mbedtls.PemDocumented) :
    Follows element platform (requestCsr mbedtls csrDemo)
      (requested platform mbedtls name csrDemo isEc) := by
  intro machine
  refine (demo_exec ?_).trans ?_
  · exact fun l machine => reportFailure_quiet
  rw [requested_shown, requestFiles]
  refine logInfo_settled (getKeyHandle_settled (fun _ l _ => ?_) fun missing => ?_)
  · refine @checked_settled _ _ _ _ _ (.keyStoreGetKey _ csrDemo.spkiSize) Prod.fst _ rfl ?_ ?_
    · intro passed l _
      have exports : limited csrDemo.spkiSize (element.exported (machine.store.objects csrDemo.keyId)) =
        some _ := delivered passed
      rw [exports]
      exact requesting_settled roomy pemDocumented
    · intro failed
      obtain ⟨st, missing⟩ := undelivered failed
      have exports : limited csrDemo.spkiSize (element.exported (machine.store.objects csrDemo.keyId)) =
        none := missing
      rw [exports]
      exact congrArg (·, machine) st
  · rw [missing]
    rfl

end Requests

/-! ## The run -/

theorem runDemos_performs {list : List (Program host SssStatus × String)}
    {scenes : List (Scene element)}
    (follow : List.Forall₂ (fun entry scene => Follows element platform entry.1 scene) list scenes) :
    (runDemos list).exec platform.server machine = shown (perform scenes machine) := by
  induction follow generalizing machine with
  | nil => rfl
  | @cons entry scene list scenes first _ ih =>
      have step : (runDemos (entry :: list)).exec platform.server machine =
          (if (entry.1.exec platform.server machine).1 ≠ .success then do
              ask (.logError ("DEMO ABORTED at: " ++ entry.2))
              return (entry.1.exec platform.server machine).1
            else runDemos list : Program host SssStatus).exec platform.server
              (entry.1.exec platform.server machine).2 := by
        change (entry.1 >>= _).exec platform.server machine = _
        rw [Program.exec_bind]
      rw [step, first machine, perform]
      cases played : (scene machine).1 with
      | true =>
          rw [shown, played]
          exact ih
      | false =>
          rw [shown, played, if_neg Bool.false_ne_true, shown, played]
          rfl

theorem exSssEntry_follows {mbedtls : Mbedtls} {nameDer : mbedtls.Names → Bytes}
    {names : mbedtls.Names} (documented : mbedtls.Documented nameDer)
    (full : mbedtls.FailsOnlyFull nameDer) (pemDocumented : mbedtls.PemDocumented)
    (parsed : mbedtls.x509StringToNames subject = some names)
    (named : (nameDer names).length = 23) :
    Follows element platform (exSssEntry mbedtls)
      (perform (script platform mbedtls (nameDer names) element)) := by
  intro machine
  obtain ⟨⟨ec, _⟩, ⟨rsa, _⟩⟩ := demoCsr_finishes documented full pemDocumented parsed named
  have follow : List.Forall₂ (fun entry scene => Follows element platform entry.1 scene)
      (demos mbedtls) (script platform mbedtls (nameDer names) element) := by
    refine .cons demoRng_follows ?_
    refine .cons demoEcKeygen_follows ?_
    refine .cons signVerify_follows ?_
    refine .cons demoEcEcdh_follows ?_
    refine .cons (requestCsr_follows ec pemDocumented) ?_
    refine .cons demoRsaKeygen_follows ?_
    refine .cons signVerify_follows ?_
    refine .cons demoRsaEncDec_follows ?_
    refine .cons (requestCsr_follows rsa pemDocumented) ?_
    exact .nil
  have run := @runDemos_performs element platform machine _ _ follow
  rw [exSssEntry]
  change (runDemos (demos mbedtls) >>= _).exec platform.server machine = _
  rw [Program.exec_bind, run]
  split
  · rfl
  · rfl

/-- On every secure element the application is the performance of its script. -/
theorem exSssEntry_performs {mbedtls : Mbedtls} {nameDer : mbedtls.Names → Bytes}
    {names : mbedtls.Names} (documented : mbedtls.Documented nameDer)
    (full : mbedtls.FailsOnlyFull nameDer) (pemDocumented : mbedtls.PemDocumented)
    (parsed : mbedtls.x509StringToNames subject = some names)
    (named : (nameDer names).length = 23) (machine : Machine element) :
    (exSssEntry mbedtls).exec platform.server machine =
      shown (perform (script platform mbedtls (nameDer names) element) machine) :=
  exSssEntry_follows documented full pemDocumented parsed named machine

theorem exSssEntry_performs_reference :
    (exSssEntry .demo).exec CppApp.demoPlatform.server CppApp.demoMachine =
      shown (perform (script CppApp.demoPlatform .demo Mbedtls.demoName SecureElement.reference)
        CppApp.demoMachine) :=
  @exSssEntry_performs SecureElement.reference CppApp.demoPlatform .demo id Mbedtls.demoName
    Mbedtls.demo_documented Mbedtls.demo_failsOnlyFull Mbedtls.demo_pemDocumented
    Mbedtls.demo_parses_demoSubject Mbedtls.demoName_length CppApp.demoMachine

end Demos

end Se05x.App
