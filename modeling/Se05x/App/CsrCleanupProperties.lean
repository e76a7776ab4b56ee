import Se05x.App.CsrAgreement

/-!
# The way out of the request demos

The macro around each writer hides an exit past the cleanup label. The buffers are large
enough for it never to be taken.
-/

set_option autoImplicit false

namespace Se05x.App

open Der Interaction Procedure
open CppApp (signatureAlgorithm pemHeader pemFooter)

/-- What a run has bound and opened, what it got from the element, and what it saved. -/
structure Footprint where
  object : SssObject
  asym : Option KeyContext
  spki : Option Bytes
  signature : Option Bytes
  saved : List (String × Bytes)

namespace Footprint

def start : Footprint := ⟨.zeroed, none, none, none, []⟩

def record (footprint : Footprint) : Event host → Footprint
  | ⟨.sss .keyObjectInit, st⟩ =>
    if st = .success then { footprint with object := .initialised } else footprint
  | ⟨.sss (.keyObjectGetHandle keyId), st⟩ =>
    if st = .success then { footprint with object := .existing keyId } else footprint
  | ⟨.sss (.keyObjectFree object), _⟩ =>
    if object = footprint.object then { footprint with object := .zeroed } else footprint
  | ⟨.sss (.asymmetricContextInit context), st⟩ =>
    if st = .success then { footprint with asym := some context } else footprint
  | ⟨.sss (.asymmetricContextFree context), _⟩ =>
    if context = footprint.asym then { footprint with asym := none } else footprint
  | ⟨.sss (.keyStoreGetKey _ _), (st, spki)⟩ =>
    if st = .success then { footprint with spki := some spki.val } else footprint
  | ⟨.sss (.asymmetricSignDigest _ _ _), (st, sig)⟩ =>
    if st = .success then { footprint with signature := some sig.val } else footprint
  | ⟨.writeFile path bytes, _⟩ => { footprint with saved := footprint.saved ++ [(path, bytes)] }
  | _ => footprint

def of (trace : List (Event host)) : Footprint := trace.foldl record start

end Footprint

def footprints : Contract host Footprint := .recording (fun _ _ => True) Footprint.record

/-- What follows the cleanup label. -/
def cleanupEvents (csrDemo : CsrDemo) (l : Locals) (status : SssStatus) : List (Event host) :=
  [⟨.sss (.asymmetricContextFree l.asym), ()⟩, ⟨.sss (.keyObjectFree l.keyPair), ()⟩] ++
    if status ≠ .success then [⟨.logError (csrDemo.name ++ " CSR FAILED"), ()⟩] else []

/-- No writer runs out of room for a key and a signature that fit the demo's own buffers, and
neither does the PEM writer for the finished request. -/
structure Roomy (mbedtls : Mbedtls) (csrDemo : CsrDemo) (isEc : Bool) (name : Bytes) : Prop where
  information : ∀ spki : Bytes, spki.length ≤ csrDemo.spkiSize →
    buildCri mbedtls csrDemo.criSize spki = .ok (infoEncoding name spki)
  request : ∀ spki sig : Bytes, spki.length ≤ csrDemo.spkiSize → sig.length ≤ csrDemo.sigSize →
    assembleCsr mbedtls csrDemo.csrSize csrDemo.algorithmIdentifier (infoEncoding name spki) sig =
      .ok (requestEncoding (infoEncoding name spki) (signatureAlgorithm isEc) sig)
  pem : ∀ spki sig : Bytes, spki.length ≤ csrDemo.spkiSize → sig.length ≤ csrDemo.sigSize →
    pemRoom pemHeader pemFooter
      (requestEncoding (infoEncoding name spki) (signatureAlgorithm isEc) sig) ≤ csrDemo.pemSize

/-- The files a complete request is saved in. -/
def completeFiles (csrDemo : CsrDemo) (isEc : Bool) (name spki sig : Bytes) :
    List (String × Bytes) :=
  let der := requestEncoding (infoEncoding name spki) (signatureAlgorithm isEc) sig
  [(csrDemo.derPath, der), (csrDemo.pemPath, pemText pemHeader pemFooter der ++ [0])]

/-- The run came through the cleanup label, gave back all it took, and reports success only
for a complete request. -/
structure Finished (csrDemo : CsrDemo) (isEc : Bool) (name : Bytes) (trace : List (Event host))
    (status : SssStatus) : Prop where
  cleaned : ∃ before l, trace = before ++ cleanupEvents csrDemo l status
  object : (Footprint.of trace).object = .zeroed
  asym : (Footprint.of trace).asym = none
  complete : status = .success → ∃ spki sig, (Footprint.of trace).spki = some spki ∧
    (Footprint.of trace).signature = some sig ∧
    (Footprint.of trace).saved = completeFiles csrDemo isEc name spki sig

section Steps

variable {Value : Type} {post : Except Exit Value → Locals → Footprint → Prop} {l : Locals}
  {footprint : Footprint} {spki signature : Option Bytes} {saved : List (String × Bytes)}

/-- The locals know what is bound and open; this much has been fetched and saved. -/
structure At (spki signature : Option Bytes) (saved : List (String × Bytes)) (l : Locals)
    (footprint : Footprint) : Prop where
  object : footprint.object = l.keyPair
  asym : footprint.asym = l.asym
  spki : footprint.spki = spki
  signature : footprint.signature = signature
  saved : footprint.saved = saved

theorem At.restatus (met : At spki signature saved l footprint) (st : SssStatus) :
    At spki signature saved { l with status := st } footprint :=
  ⟨met.object, met.asym, met.spki, met.signature, met.saved⟩

/-- The jump to the cleanup label is accepted wherever the locals know what is held. -/
def Jumps (post : Except Exit Value → Locals → Footprint → Prop) : Prop :=
  ∀ {spki signature saved l footprint}, At spki signature saved l footprint →
    l.status ≠ .success → post (.error .cleanup) l footprint

theorem quiet_step {request : HostCall} {continuation : request.Answer → Body Value}
    (unrecorded : ∀ footprint answer, Footprint.record footprint ⟨request, answer⟩ = footprint)
    (next : ∀ answer, wp footprints (continuation answer) post l footprint) :
    wp footprints (issue request >>= continuation) post l footprint := by
  refine issue_wp trivial fun answer after moved => ?_
  have same : after = footprint := moved.trans (unrecorded footprint answer)
  rw [same]
  exact next answer

/-- The check changes no local but the status. -/
theorem ensure_step {st : SssStatus} {continuation : Unit → Body Value}
    (next : st = .success →
      wp footprints (continuation ()) post { l with status := .success } footprint)
    (failed : st ≠ .success → post (.error .cleanup) { l with status := st } footprint) :
    wp footprints (ensure st >>= continuation) post l footprint := by
  rw [wp_bind, wp_ensure]
  exact ⟨next, failed⟩

/-- The call changes the footprint only when it succeeds. -/
def Takes (source : Body SssStatus) (taken : Footprint → Footprint) : Prop :=
  ∀ (post : Except Exit SssStatus → Locals → Footprint → Prop) l footprint,
    (∀ st, post (.ok st) l (if st = .success then taken footprint else footprint)) →
      wp footprints source post l footprint

/-- A checked call that takes something, and the assignment that remembers it. -/
theorem taking_step {source : Body SssStatus} {update : Locals → Locals}
    {taken : Footprint → Footprint} {continuation : Unit → Body Value} (jumps : Jumps post)
    (met : At spki signature saved l footprint)
    (takes : Takes source taken)
    (next : wp footprints (continuation ()) post (update { l with status := .success })
      (taken footprint)) :
    wp footprints (source >>= fun st => ensure st >>= fun _ => modify update >>= continuation) post l
      footprint := by
  rw [wp_bind]
  refine takes _ _ _ fun st => ?_
  refine ensure_step (fun passed => ?_) fun failed => ?_
  · rw [if_pos passed]
    exact modify_wp next
  · rw [if_neg failed]
    exact jumps (met.restatus st) failed

theorem getKeyHandle_step {keyId : KeyId} {continuation : Unit → Body Value} (jumps : Jumps post)
    (met : At spki signature saved l footprint)
    (next : ∀ l footprint, At spki signature saved l footprint →
      wp footprints (continuation ()) post l footprint) :
    wp footprints (getKeyHandle keyId >>= continuation) post l footprint := by
  have init : Takes (sss .keyObjectInit) fun footprint => { footprint with object := .initialised } :=
    fun _ _ _ each => ⟨trivial, fun st _ moved => by rw [moved]; exact each st⟩
  have bound : Takes (sss (.keyObjectGetHandle keyId))
      fun footprint => { footprint with object := .existing keyId } :=
    fun _ _ _ each => ⟨trivial, fun st _ moved => by rw [moved]; exact each st⟩
  rw [getKeyHandle]
  simp only [bind_assoc]
  refine taking_step jumps met init ?_
  have initialised : At spki signature saved
      (Locals.setKeyPair { l with status := .success } .initialised)
      { footprint with object := .initialised } :=
    ⟨rfl, met.asym, met.spki, met.signature, met.saved⟩
  refine taking_step jumps initialised bound (next _ _ ?_)
  exact ⟨rfl, met.asym, met.spki, met.signature, met.saved⟩

theorem openAsym_step {context : KeyContext} {continuation : Unit → Body Value}
    (jumps : Jumps post) (met : At spki signature saved l footprint)
    (next : ∀ l footprint, At spki signature saved l footprint →
      wp footprints (continuation ()) post l footprint) :
    wp footprints (openAsym context >>= continuation) post l footprint := by
  have opened : Takes (sss (.asymmetricContextInit context))
      fun footprint => { footprint with asym := some context } :=
    fun _ _ _ each => ⟨trivial, fun st _ moved => by rw [moved]; exact each st⟩
  rw [openAsym]
  simp only [bind_assoc]
  refine taking_step jumps met opened (next _ _ ?_)
  exact ⟨met.object, rfl, met.spki, met.signature, met.saved⟩

theorem closeAsym_step {continuation : Unit → Body Value}
    (met : At spki signature saved l footprint)
    (next : ∀ l footprint, At spki signature saved l footprint →
      wp footprints (continuation ()) post l footprint) :
    wp footprints (closeAsym >>= continuation) post l footprint := by
  have freed : footprint.record ⟨.sss (.asymmetricContextFree l.asym), ()⟩ =
      { footprint with asym := none } := if_pos met.asym.symm
  rw [closeAsym]
  simp only [bind_assoc]
  refine issue_wp trivial fun answer after moved => modify_wp (next _ _ ?_)
  have same : after = { footprint with asym := none } := moved.trans freed
  rw [same]
  exact ⟨met.object, rfl, met.spki, met.signature, met.saved⟩

theorem save_step {path : String} {bytes : Bytes} {continuation : Unit → Body Value}
    (met : At spki signature saved l footprint)
    (next : ∀ footprint, At spki signature (saved ++ [(path, bytes)]) l footprint →
      wp footprints (continuation ()) post l footprint) :
    wp footprints (saveFile path bytes >>= continuation) post l footprint := by
  rw [saveFile]
  simp only [bind_assoc]
  refine issue_wp trivial fun answer after moved => next _ ?_
  rw [show after = _ from moved]
  exact ⟨met.object, met.asym, met.spki, met.signature, congrArg (· ++ _) met.saved⟩

theorem savePem_step {mbedtls : Mbedtls} {csrDemo : CsrDemo} {csr : Bytes}
    {continuation : Unit → Body Value} (pemDocumented : mbedtls.PemDocumented)
    (room : pemRoom pemHeader pemFooter csr ≤ csrDemo.pemSize)
    (met : At spki signature saved l footprint)
    (next : ∀ footprint,
      At spki signature (saved ++ [(csrDemo.pemPath, pemText pemHeader pemFooter csr ++ [0])]) l
        footprint → wp footprints (continuation ()) post l footprint) :
    wp footprints (savePem mbedtls csrDemo csr >>= continuation) post l footprint := by
  obtain ⟨rest, written⟩ := pemDocumented pemHeader pemFooter csr csrDemo.pemSize room
  rw [pemHeader, pemFooter] at written
  have cut : (pemText pemHeader pemFooter csr ++ 0 :: rest).take
      ((pemText pemHeader pemFooter csr).length + 1) = pemText pemHeader pemFooter csr ++ [0] := by
    rw [List.take_append]
    simp
  rw [savePem, written]
  simp only [bind_assoc]
  refine quiet_step (fun _ _ => rfl) fun _ => ?_
  rw [← cut] at next
  exact save_step met next

end Steps

section Body

variable {mbedtls : Mbedtls} {csrDemo : CsrDemo} {isEc : Bool} {name : Bytes}

/-- The body reaches its end with a complete request or jumps to the label, and the locals
know what is held. -/
def BodyEnds (csrDemo : CsrDemo) (isEc : Bool) (name : Bytes) :
    Except Exit Unit → Locals → Footprint → Prop
  | .ok (), l, footprint => l.status = .success ∧ ∃ spki sig,
    At (some spki) (some sig) (completeFiles csrDemo isEc name spki sig) l footprint
  | .error .cleanup, l, footprint => l.status ≠ .success ∧
    ∃ spki signature saved, At spki signature saved l footprint
  | .error .fail, l, footprint => ∃ spki signature saved, At spki signature saved l footprint
  | .error (.leave _), _, _ => False

theorem bodyEnds_jumps : Jumps (BodyEnds csrDemo isEc name) :=
  fun met failed => ⟨failed, _, _, _, met⟩

/-- The calls that follow the cleanup label. -/
def csrCleanup (csrDemo : CsrDemo) (l : Locals) : Program host Unit := do
  ask (.sss (.asymmetricContextFree l.asym))
  ask (.sss (.keyObjectFree l.keyPair))
  reportFailure l (csrDemo.name ++ " CSR FAILED")

theorem requestCsr_body (roomy : Roomy mbedtls csrDemo isEc name)
    (pemDocumented : mbedtls.PemDocumented) :
    ∃ body, requestCsr mbedtls csrDemo = demo body (csrCleanup csrDemo) ∧
      wp footprints body (BodyEnds csrDemo isEc name) .start .start := by
  have jumps := @bodyEnds_jumps csrDemo isEc name
  have start : At none none [] .start .start := ⟨rfl, rfl, rfl, rfl, rfl⟩
  refine ⟨_, rfl, ?_⟩
  refine quiet_step (fun _ _ => rfl) fun _ => getKeyHandle_step jumps start fun l footprint bound => ?_
  refine issue_wp trivial fun answer after moved => ?_
  obtain ⟨st, spki⟩ := answer
  refine ensure_step (fun passed => ?_) fun failed => ?_
  · have fetched : At (some spki.val) none [] l after := by
      rw [show after = _ from moved, Footprint.record, if_pos passed]
      exact ⟨bound.object, bound.asym, rfl, bound.signature, bound.saved⟩
    rw [roomy.information spki.val spki.property]
    refine liftExcept_wp (fun cri built => ?_) (by nofun)
    cases built
    cases mbedtls.sha256Ret (infoEncoding name spki.val) with
    | none => exact ⟨_, _, _, fetched.restatus .success⟩
    | some hash =>
        refine openAsym_step jumps (fetched.restatus .success) fun l footprint opened => ?_
        refine issue_wp trivial fun answer after moved => ?_
        obtain ⟨st, sig⟩ := answer
        refine ensure_step (fun passed => ?_) fun failed => ?_
        · have signed : At (some spki.val) (some sig.val) [] l after := by
            rw [show after = _ from moved, Footprint.record, if_pos passed]
            exact ⟨opened.object, opened.asym, opened.spki, rfl, opened.saved⟩
          refine closeAsym_step (signed.restatus .success) fun l footprint closed => ?_
          rw [roomy.request spki.val sig.val spki.property sig.property]
          refine liftExcept_wp (fun csr built => ?_) (by nofun)
          cases built
          have room := roomy.pem spki.val sig.val spki.property sig.property
          refine quiet_step (fun _ _ => rfl) fun _ => save_step closed fun footprint saved => ?_
          refine savePem_step pemDocumented room saved fun footprint both => ?_
          refine quiet_step (fun _ _ => rfl) fun _ => quiet_step (fun _ _ => rfl) fun _ =>
            quiet_step (fun _ _ => rfl) fun _ => ?_
          exact ⟨rfl, spki.val, sig.val, both.restatus .success⟩
        · rw [show after = footprint from moved.trans (if_neg failed)]
          exact jumps (opened.restatus st) failed
  · rw [show after = footprint from moved.trans (if_neg failed)]
    exact jumps (bound.restatus st) failed

/-- The cleanup frees exactly what the locals name. -/
theorem csrCleanup_runs {l : Locals} {trace : List (Event host)}
    (run : (csrCleanup csrDemo l).Runs trace ()) : trace = cleanupEvents csrDemo l l.status := by
  obtain ⟨_, _, rfl, freeing⟩ := Program.runs_call_iff.mp run
  obtain ⟨_, _, rfl, reporting⟩ := Program.runs_call_iff.mp freeing
  change (reportFailure l (csrDemo.name ++ " CSR FAILED")).Runs _ () at reporting
  rw [reportFailure] at reporting
  rw [cleanupEvents]
  split at reporting
  · rename_i failed
    obtain ⟨_, _, rfl, ended⟩ := Program.runs_call_iff.mp reporting
    obtain ⟨rfl, _⟩ := Program.runs_done_iff.mp ended
    rw [if_pos failed]
    rfl
  · rename_i passed
    obtain ⟨rfl, _⟩ := Program.runs_done_iff.mp reporting
    rw [if_neg passed]
    rfl

theorem cleanupEvents_footprint {footprint : Footprint} {l : Locals} {status : SssStatus}
    {spki signature : Option Bytes} {saved : List (String × Bytes)}
    (known : At spki signature saved l footprint) :
    (cleanupEvents csrDemo l status).foldl Footprint.record footprint =
      { footprint with object := .zeroed, asym := none } := by
  have closed : footprint.record ⟨.sss (.asymmetricContextFree l.asym), ()⟩ =
      { footprint with asym := none } := if_pos known.asym.symm
  have unbound : Footprint.record { footprint with asym := none }
      ⟨.sss (.keyObjectFree l.keyPair), ()⟩ = { footprint with object := .zeroed, asym := none } :=
    if_pos known.object.symm
  rw [cleanupEvents, List.foldl_append, List.foldl_cons, List.foldl_cons, List.foldl_nil, closed,
    unbound]
  split <;> rfl

theorem finished_of_cleanup {before trace : List (Event host)} {l : Locals}
    {spki signature : Option Bytes} {saved : List (String × Bytes)}
    (known : At spki signature saved l (Footprint.of before))
    (run : (csrCleanup csrDemo l).Runs trace ())
    (complete : l.status = .success → ∃ key sig, spki = some key ∧ signature = some sig ∧
      saved = completeFiles csrDemo isEc name key sig) :
    Finished csrDemo isEc name (before ++ trace) l.status := by
  obtain rfl := csrCleanup_runs run
  have final : Footprint.of (before ++ cleanupEvents csrDemo l l.status) =
      { Footprint.of before with object := .zeroed, asym := none } := by
    rw [Footprint.of, List.foldl_append]
    exact cleanupEvents_footprint known
  refine ⟨⟨before, l, rfl⟩, by rw [final], by rw [final], ?_⟩
  intro passed
  obtain ⟨key, sig, fetched, signed, both⟩ := complete passed
  rw [final]
  exact ⟨key, sig, known.spki.trans fetched, known.signature.trans signed, known.saved.trans both⟩

theorem requestCsr_finished (roomy : Roomy mbedtls csrDemo isEc name)
    (pemDocumented : mbedtls.PemDocumented) {trace : List (Event host)} {status : SssStatus}
    (run : (requestCsr mbedtls csrDemo).Runs trace status) :
    Finished csrDemo isEc name trace status := by
  obtain ⟨body, shape, met⟩ := requestCsr_body roomy pemDocumented
  rw [shape, demo] at run
  obtain ⟨before, after, result, rfl, ran, cleaning⟩ := Program.runs_bind_iff.mp run
  obtain ⟨outcome, l⟩ := result
  have reached : BodyEnds csrDemo isEc name outcome l (Footprint.of before) :=
    ran.ensures met (Contract.history_recording_iff.mpr rfl)
  cases outcome with
  | ok =>
      obtain ⟨cleaned, ended, _, rfl, freed, last⟩ := Program.runs_bind_iff.mp cleaning
      obtain ⟨rfl, rfl⟩ := Program.runs_done_iff.mp last
      obtain ⟨_, spki, sig, known⟩ := reached
      rw [List.append_nil]
      exact finished_of_cleanup known freed fun _ => ⟨spki, sig, rfl, rfl, rfl⟩
  | error jump =>
      cases jump with
      | cleanup =>
          obtain ⟨cleaned, ended, _, rfl, freed, last⟩ := Program.runs_bind_iff.mp cleaning
          obtain ⟨rfl, rfl⟩ := Program.runs_done_iff.mp last
          obtain ⟨failed, _, _, _, known⟩ := reached
          rw [List.append_nil]
          exact finished_of_cleanup known freed fun passed => absurd passed failed
      | fail =>
          obtain ⟨cleaned, ended, _, rfl, freed, last⟩ := Program.runs_bind_iff.mp cleaning
          obtain ⟨rfl, rfl⟩ := Program.runs_done_iff.mp last
          obtain ⟨_, _, _, known⟩ := reached
          rw [List.append_nil]
          exact finished_of_cleanup (known.restatus .fail) freed fun passed =>
            absurd passed SssStatus.fail_ne_success
      | leave ret => exact reached.elim

end Body

section Demos

variable {mbedtls : Mbedtls} {nameDer : mbedtls.Names → Bytes} {names : mbedtls.Names}
  {csrDemo : CsrDemo} {isEc : Bool}

theorem roomy_of_sizes (documented : mbedtls.Documented nameDer)
    (full : mbedtls.FailsOnlyFull nameDer)
    (identifier : mbedtls.Encodes nameDer csrDemo.algorithmIdentifier
      (element sequenceTag (signatureAlgorithm isEc).content))
    (parsed : mbedtls.x509StringToNames subject = some names) (named : (nameDer names).length = 23)
    (criRoom : csrDemo.spkiSize + 32 ≤ csrDemo.criSize) (criSize : csrDemo.criSize ≤ 1024)
    (sigSize : csrDemo.sigSize ≤ 256)
    (csrRoom : csrDemo.spkiSize + csrDemo.sigSize + 58 ≤ csrDemo.csrSize)
    (csrSize : csrDemo.csrSize ≤ 2048)
    (pemRoom : 3 * (csrDemo.spkiSize + csrDemo.sigSize) / 2 + 200 ≤ csrDemo.pemSize) :
    Roomy mbedtls csrDemo isEc (nameDer names) := by
  have info : ∀ spki : Bytes, spki.length ≤ csrDemo.spkiSize →
      (infoEncoding (nameDer names) spki).length ≤ spki.length + 32 :=
    fun spki key => (infoEncoding_length_le (by omega)).trans (by omega)
  have request : ∀ spki sig : Bytes, spki.length ≤ csrDemo.spkiSize →
      sig.length ≤ csrDemo.sigSize →
      (requestEncoding (infoEncoding (nameDer names) spki) (signatureAlgorithm isEc) sig).length ≤
        csrDemo.spkiSize + csrDemo.sigSize + 58 := by
    intro spki sig key short
    have known := info spki key
    have whole := @CppApp.csrEncoding_length_le (infoEncoding (nameDer names) spki) sig isEc
      (by omega) (by omega)
    omega
  refine ⟨?_, ?_, ?_⟩
  · intro spki key
    have known := info spki key
    exact buildCri_fits documented full (by omega) parsed (by omega)
  · intro spki sig key short
    exact assembleCsr_fits documented full (by omega) identifier
      ((request spki sig key short).trans csrRoom)
  · intro spki sig key short
    have whole := request spki sig key short
    have header : (asciiBytes pemHeader).length = 36 := by decide
    have footer : (asciiBytes pemFooter).length = 34 := by decide
    simp only [Der.pemRoom, header, footer]
    split <;> omega

/-- No writer of the two request demos takes the hidden exit, whatever key and signature the
element returns, so every run comes through the cleanup label. -/
theorem demoCsr_finishes (documented : mbedtls.Documented nameDer)
    (full : mbedtls.FailsOnlyFull nameDer) (pemDocumented : mbedtls.PemDocumented)
    (parsed : mbedtls.x509StringToNames subject = some names)
    (named : (nameDer names).length = 23) :
    (Roomy mbedtls (ecCsr mbedtls) true (nameDer names) ∧ ∀ trace status,
      (demoEcCsr mbedtls).Runs trace status →
        Finished (ecCsr mbedtls) true (nameDer names) trace status) ∧
    (Roomy mbedtls (rsaCsr mbedtls) false (nameDer names) ∧ ∀ trace status,
      (demoRsaCsr mbedtls).Runs trace status →
        Finished (rsaCsr mbedtls) false (nameDer names) trace status) := by
  have ec : Roomy mbedtls (ecCsr mbedtls) true (nameDer names) :=
    roomy_of_sizes documented full (.algorithmIdentifierExt ecdsaWithSha256) parsed named
      (by simp [ecCsr, ecPubBufLen]) (by simp [ecCsr]) (by simp [ecCsr, ecSigBufLen])
      (by simp [ecCsr, ecPubBufLen, ecSigBufLen]) (by simp [ecCsr])
      (by simp [ecCsr, ecPubBufLen, ecSigBufLen])
  have rsa : Roomy mbedtls (rsaCsr mbedtls) false (nameDer names) :=
    roomy_of_sizes documented full (.algorithmIdentifier sha256WithRsaEncryption) parsed named
      (by simp [rsaCsr, rsaPubBufLen]) (by simp [rsaCsr]) (by simp [rsaCsr, rsaSigBufLen])
      (by simp [rsaCsr, rsaPubBufLen, rsaSigBufLen]) (by simp [rsaCsr])
      (by simp [rsaCsr, rsaPubBufLen, rsaSigBufLen])
  exact ⟨⟨ec, fun _ _ => requestCsr_finished ec pemDocumented⟩,
    ⟨rsa, fun _ _ => requestCsr_finished rsa pemDocumented⟩⟩

theorem demoCsr_demo_finishes :
    (Roomy Mbedtls.demo (ecCsr Mbedtls.demo) true Mbedtls.demoName ∧ ∀ trace status,
      (demoEcCsr Mbedtls.demo).Runs trace status →
        Finished (ecCsr Mbedtls.demo) true Mbedtls.demoName trace status) ∧
    (Roomy Mbedtls.demo (rsaCsr Mbedtls.demo) false Mbedtls.demoName ∧ ∀ trace status,
      (demoRsaCsr Mbedtls.demo).Runs trace status →
        Finished (rsaCsr Mbedtls.demo) false Mbedtls.demoName trace status) :=
  @demoCsr_finishes Mbedtls.demo id Mbedtls.demoName Mbedtls.demo_documented
    Mbedtls.demo_failsOnlyFull Mbedtls.demo_pemDocumented Mbedtls.demo_parses_demoSubject
    Mbedtls.demoName_length

end Demos

end Se05x.App
