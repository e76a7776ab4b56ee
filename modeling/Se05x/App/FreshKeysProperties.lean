import Se05x.App.CsrProperties
import Se05x.App.FreshKeys

/-!
# The demos work on keys of their own run

Each demo is given the keys generated before it and says which there are after it. The
demos in order then never use a key of an earlier run.
-/

set_option autoImplicit false

namespace Se05x.App

open Der Interaction Procedure

variable {Object : Type} {keys after : Keys Object}

theorem target_of_passive {request : HostCall} (inert : passive request = true) :
    request.target = none := by
  cases request with
  | sss request => cases request <;> first | rfl | cases inert
  | _ => rfl

theorem uses_of_passive {request : HostCall} (inert : passive request = true) :
    uses request = [] := by
  cases request with
  | sss request => cases request <;> first | rfl | cases inert
  | _ => rfl

/-- A call without a target changes nothing. -/
theorem moves_untargeted {event : Event host} (untargeted : event.request.target = none)
    (moved : (freshKeys Object).moves keys event after) : after = keys := by
  funext keyId
  exact moved.1 keyId (by rw [untargeted]; exact nofun)

theorem freshKeys_leavesPassive : LeavesPassive (freshKeys Object) := by
  intro keys request inert
  refine ⟨⟨?_, ?_⟩, fun answer after moved => moves_untargeted (target_of_passive inert) moved⟩
  · intro keyId bound
    rw [target_of_passive inert] at bound
    cases bound
  · intro keyId used
    rw [uses_of_passive inert] at used
    cases used

/-- All these identifiers hold keys generated in this run. -/
def Fresh (keyIds : List KeyId) (keys : Keys Object) : Prop := ∀ keyId ∈ keyIds, Generated keys keyId

section Steps

variable {Value : Type} {post : Except Exit Value → Locals → Keys Object → Prop} {l : Locals}
  {keyIds : List KeyId}

theorem Fresh.frame {keyId : KeyId} (fresh : Fresh keyIds keys) (apart : keyId ∉ keyIds)
    (kept : ∀ other, other ≠ keyId → after other = keys other) : Fresh keyIds after := by
  intro other member
  have distinct : other ≠ keyId := by
    rintro rfl
    exact apart member
  rw [Generated, kept other distinct]
  exact fresh other member

/-- A call that uses generated keys or the derived secret, and changes nothing. -/
theorem use_wp {request : HostCall} {continuation : request.Answer → Body Value}
    (untargeted : request.target = none)
    (permitted : ∀ keyId ∈ uses request, keyId = demoKeyEcShared ∨ Generated keys keyId)
    (next : ∀ answer, wp (freshKeys Object) (continuation answer) post l keys) :
    wp (freshKeys Object) (issue request >>= continuation) post l keys := by
  refine issue_wp ⟨?_, permitted⟩ fun answer after moved => ?_
  · intro keyId bound
    rw [untargeted] at bound
    cases bound
  · rw [moves_untargeted untargeted moved]
    exact next answer

/-- A call on an owned identifier leaves every other identifier alone. -/
theorem change_wp {request : HostCall} {keyId : KeyId} {continuation : request.Answer → Body Value}
    (targeted : request.target = some keyId) (own : keyId ∈ owned)
    (permitted : ∀ keyId ∈ uses request, keyId = demoKeyEcShared ∨ Generated keys keyId)
    (next : ∀ answer after, (∀ other, other ≠ keyId → after other = keys other) →
      (generates ⟨request, answer⟩ = true → Generated after keyId) →
      wp (freshKeys Object) (continuation answer) post l after) :
    wp (freshKeys Object) (issue request >>= continuation) post l keys := by
  refine issue_wp ⟨?_, permitted⟩ fun answer after moved => next answer after ?_ ?_
  · intro other bound
    cases targeted.symm.trans bound
    exact own
  · intro other distinct
    refine moved.1 other ?_
    rw [targeted]
    rintro ⟨⟩
    exact distinct rfl
  · intro generated
    have installed := moved.2 keyId targeted
    rwa [if_pos generated] at installed

theorem logBytes_wp {label : String} {bytes : Bytes} {continuation : Unit → Body Value}
    (next : wp (freshKeys Object) (continuation ()) post l keys) :
    wp (freshKeys Object) (logBytes label bytes >>= continuation) post l keys :=
  use_wp rfl (fun _ used => nomatch used) fun _ => next

/-- Whatever the erase was answered, at most the key it names has changed. -/
theorem eraseKeyIfExists_wp {keyId : KeyId} {continuation : Unit → Body Value}
    (own : keyId ∈ owned)
    (next : ∀ l after, (∀ other, other ≠ keyId → after other = keys other) →
      wp (freshKeys Object) (continuation ()) post l after) :
    wp (freshKeys Object) (eraseKeyIfExists keyId >>= continuation) post l keys := by
  have leaves : LeavesPassive (freshKeys Object) := freshKeys_leavesPassive
  rw [wp_bind, eraseKeyIfExists]
  refine passive_wp leaves rfl fun _ => ?_
  split
  · refine passive_wp leaves rfl fun _ => ?_
    split
    · refine change_wp rfl own (fun _ used => nomatch used) fun _ after kept _ => ?_
      exact passive_last_wp leaves rfl fun _ => next _ after kept
    · exact passive_last_wp leaves rfl fun _ => next _ keys fun _ _ => rfl
  · exact next _ keys fun _ _ => rfl

theorem generateKey_wp {keyPart : KeyPart} {cipherType : CipherType} {keyByteLenMax : Nat}
    {mode : ObjectMode} {keyId : KeyId} {keyBitLen : Nat} {continuation : Unit → Body Value}
    (own : keyId ∈ owned) (apart : keyId ∉ keyIds) (fresh : Fresh keyIds keys)
    (next : ∀ l after, l.status = .success → Fresh (keyId :: keyIds) after →
      wp (freshKeys Object) (continuation ()) post l after)
    (failed : ∀ after, Fails post after) :
    wp (freshKeys Object)
      (sss (.keyStoreGenerateKey (.allocated keyId keyPart cipherType keyByteLenMax mode) keyBitLen)
        >>= fun st => ensure st >>= continuation) post l keys := by
  refine change_wp rfl own (fun _ used => nomatch used) fun st after kept installed => ?_
  refine ensure_wp (fun passed l status => next l after status ?_) fun _ => failed after
  intro other member
  rcases List.mem_cons.mp member with rfl | earlier
  · exact installed (beq_iff_eq.mpr passed)
  · exact fresh.frame apart kept other earlier

theorem permitted_existing {request : HostCall} {keyId : KeyId} (used : uses request = [keyId])
    (generated : Generated keys keyId) :
    ∀ keyId ∈ uses request, keyId = demoKeyEcShared ∨ Generated keys keyId := by
  intro other member
  rw [used] at member
  cases List.mem_singleton.mp member
  exact .inr generated

end Steps

section Demos

/-- With these keys generated before it, a demo that succeeds leaves those generated. -/
def Refreshes (Object : Type) (demo : Program host SssStatus) (earlier later : List KeyId) : Prop :=
  ∀ keys : Keys Object, Fresh earlier keys →
    demo.wp (freshKeys Object) (fun status after => status = .success → Fresh later after) keys

/-- A demo that fails promises nothing. -/
theorem failing {later : List KeyId} : Fails (fun outcome l (after : Keys Object) =>
    exitStatus outcome l = .success → Fresh later after) keys :=
  fun _ failed succeeded => absurd succeeded failed

theorem demoRng_refreshes : Refreshes Object demoRng [] [] := by
  intro keys fresh
  have leaves : LeavesPassive (freshKeys Object) := freshKeys_leavesPassive
  refine demo_wp (fun l kept after met => ?_) ?_
  · exact passive_program_wp leaves rfl fun _ => reportFailure_wp leaves met
  refine passive_wp leaves rfl fun _ => ?_
  refine ensurePassive_wp leaves rfl (fun _ _ _ => ?_) failing
  refine passive_wp leaves rfl fun _ => ensure_wp (fun _ _ _ => ?_) fun _ => failing
  exact logBytes_wp (passive_last_wp leaves rfl fun _ _ => fresh)

theorem demoEcKeygen_refreshes : Refreshes Object demoEcKeygen [] [demoKeyEcAlice] := by
  intro keys fresh
  have leaves : LeavesPassive (freshKeys Object) := freshKeys_leavesPassive
  refine demo_wp (fun l kept after met => ?_) ?_
  · exact passive_program_wp leaves rfl fun _ => reportFailure_wp leaves met
  refine passive_wp leaves rfl fun _ => eraseKeyIfExists_wp (by decide) fun _ _ _ => ?_
  refine allocateKey_wp leaves (fun _ => ?_) failing
  refine generateKey_wp (by decide) (List.not_mem_nil) (fun _ => nofun) (fun _ _ _ generated => ?_)
    fun _ => failing
  refine passive_wp leaves rfl fun _ => ?_
  refine use_wp rfl (permitted_existing rfl (generated _ List.mem_cons_self)) fun _ => ?_
  refine ensure_wp (fun _ _ _ => ?_) fun _ => failing
  exact logBytes_wp (passive_last_wp leaves rfl fun _ _ => generated)

theorem signVerify_refreshes {heading : String} {keyId : KeyId} {message : Bytes}
    {algorithm : Algorithm} {sigBufLen : Nat} {sigLabel done failed : String} {keyIds : List KeyId}
    (earlier : keyId ∈ keyIds) :
    Refreshes Object (signVerify heading keyId message algorithm sigBufLen sigLabel done failed)
      keyIds keyIds := by
  intro keys fresh
  have leaves : LeavesPassive (freshKeys Object) := freshKeys_leavesPassive
  refine demo_wp (fun l kept after met => ?_) ?_
  · exact passive_program_wp leaves rfl fun _ => passive_program_wp leaves rfl fun _ =>
      passive_program_wp leaves rfl fun _ => reportFailure_wp leaves met
  refine passive_wp leaves rfl fun _ => getKeyHandle_wp leaves (fun _ _ => ?_) failing
  refine ensurePassive_wp leaves rfl (fun _ _ _ => modify_wp ?_) failing
  refine passive_wp leaves rfl fun _ => ensure_wp (fun _ _ _ => logBytes_wp ?_) fun _ => failing
  refine openAsym_wp leaves (fun _ _ => ?_) failing
  refine use_wp rfl (permitted_existing rfl (fresh keyId earlier)) fun _ => ?_
  refine ensure_wp (fun _ _ _ => logBytes_wp ?_) fun _ => failing
  refine closeAsym_wp leaves fun _ _ => openAsym_wp leaves (fun _ _ => ?_) failing
  refine use_wp rfl (permitted_existing rfl (fresh keyId earlier)) fun _ => ?_
  refine ensure_wp (fun _ _ _ => ?_) fun _ => failing
  exact passive_last_wp leaves rfl fun _ _ => fresh

theorem demoEcEcdh_refreshes :
    Refreshes Object demoEcEcdh [demoKeyEcAlice] [demoKeyEcBob, demoKeyEcAlice] := by
  intro keys fresh
  have leaves : LeavesPassive (freshKeys Object) := freshKeys_leavesPassive
  refine demo_wp (fun l kept after met => ?_) ?_
  · exact passive_program_wp leaves rfl fun _ => passive_program_wp leaves rfl fun _ =>
      passive_program_wp leaves rfl fun _ => passive_program_wp leaves rfl fun _ =>
        reportFailure_wp leaves met
  refine passive_wp leaves rfl fun _ => getKeyHandle_wp leaves (fun _ _ => ?_) failing
  refine eraseKeyIfExists_wp (by decide) fun _ _ apart => ?_
  have fresh := fresh.frame (by decide) apart
  refine allocateKey_wp leaves (fun _ => ?_) failing
  refine generateKey_wp (by decide) (by decide) fresh (fun _ _ _ fresh => ?_) fun _ => failing
  refine passive_wp leaves rfl fun _ => eraseKeyIfExists_wp (by decide) fun _ _ apart => ?_
  have fresh := fresh.frame (by decide) apart
  refine allocateKey_wp leaves (fun _ => ?_) failing
  refine ensurePassive_wp leaves rfl (fun _ _ _ => modify_wp ?_) failing
  refine change_wp rfl (by decide) ?_ fun _ _ apart _ => ?_
  · intro keyId used
    rcases List.mem_cons.mp used with rfl | used
    · exact .inr (fresh _ (by decide))
    · cases List.mem_singleton.mp used
      exact .inr (fresh _ (by decide))
  have fresh := fresh.frame (by decide) apart
  refine ensure_wp (fun _ _ _ => passive_wp leaves rfl fun _ => ?_) fun _ => failing
  refine use_wp rfl (fun keyId used => .inl (List.mem_singleton.mp used)) fun answer => ?_
  obtain ⟨st, sharedBuf⟩ := answer
  dsimp only
  split
  · exact logBytes_wp (passive_last_wp leaves rfl fun _ _ => fresh)
  · exact passive_wp leaves rfl fun _ => passive_last_wp leaves rfl fun _ _ => fresh

theorem demoRsaKeygen_refreshes {keyIds : List KeyId} (apart : demoKeyRsa ∉ keyIds) :
    Refreshes Object demoRsaKeygen keyIds (demoKeyRsa :: keyIds) := by
  intro keys fresh
  have leaves : LeavesPassive (freshKeys Object) := freshKeys_leavesPassive
  refine demo_wp (fun l kept after met => passive_program_wp leaves rfl fun _ => ?_) ?_
  · split
    · exact passive_program_wp leaves rfl fun _ => met
    · exact passive_program_wp leaves rfl fun _ => met
  refine passive_wp leaves rfl fun _ => passive_wp leaves rfl fun _ => ?_
  refine eraseKeyIfExists_wp (by decide) fun _ _ kept => ?_
  refine allocateKey_wp leaves (fun _ => ?_) failing
  refine generateKey_wp (by decide) apart (fresh.frame apart kept) (fun _ _ _ generated => ?_)
    fun _ => failing
  exact passive_last_wp leaves rfl fun _ _ => generated

theorem demoRsaEncDec_refreshes {keyIds : List KeyId} (earlier : demoKeyRsa ∈ keyIds) :
    Refreshes Object demoRsaEncDec keyIds keyIds := by
  intro keys fresh
  have leaves : LeavesPassive (freshKeys Object) := freshKeys_leavesPassive
  refine demo_wp (fun l kept after met => ?_) ?_
  · exact passive_program_wp leaves rfl fun _ => passive_program_wp leaves rfl fun _ =>
      reportFailure_wp leaves met
  refine passive_wp leaves rfl fun _ => getKeyHandle_wp leaves (fun _ _ => ?_) failing
  refine openAsym_wp leaves (fun _ _ => ?_) failing
  refine use_wp rfl (permitted_existing rfl (fresh _ earlier)) fun _ => ?_
  refine ensure_wp (fun _ _ _ => logBytes_wp ?_) fun _ => failing
  refine closeAsym_wp leaves fun _ _ => openAsym_wp leaves (fun _ _ => ?_) failing
  refine use_wp rfl (permitted_existing rfl (fresh _ earlier)) fun _ => ?_
  refine ensure_wp (fun _ _ _ => logBytes_wp ?_) fun _ => failing
  split
  · exact passive_wp leaves rfl fun _ => nofun
  · exact passive_last_wp leaves rfl fun _ _ => fresh

theorem requestCsr_refreshes {mbedtls : Mbedtls} {csrDemo : CsrDemo} {keyIds : List KeyId}
    (earlier : csrDemo.keyId ∈ keyIds) :
    Refreshes Object (requestCsr mbedtls csrDemo) keyIds keyIds := by
  intro keys fresh
  have leaves : LeavesPassive (freshKeys Object) := freshKeys_leavesPassive
  refine demo_wp (fun l kept after met => ?_) ?_
  · exact passive_program_wp leaves rfl fun _ => passive_program_wp leaves rfl fun _ =>
      reportFailure_wp leaves met
  refine passive_wp leaves rfl fun _ => getKeyHandle_wp leaves (fun _ _ => ?_) failing
  refine use_wp rfl (permitted_existing rfl (fresh _ earlier)) fun _ => ?_
  refine ensure_wp (fun _ _ _ => ?_) fun _ => failing
  refine liftExcept_wp (fun cri _ => ?_) ?_
  · cases mbedtls.sha256Ret cri with
    | none => exact nofun
    | some hash =>
        refine openAsym_wp leaves (fun _ _ => ?_) failing
        refine use_wp rfl (permitted_existing rfl (fresh _ earlier)) fun _ => ?_
        refine ensure_wp (fun _ _ _ => closeAsym_wp leaves fun _ _ => ?_) fun _ => failing
        refine liftExcept_wp (fun csr _ => logBytes_wp ?_) fun _ _ _ => fresh
        refine saveFile_wp leaves (savePem_wp leaves ?_)
        refine passive_wp leaves rfl fun _ => passive_wp leaves rfl fun _ => ?_
        exact passive_wp leaves rfl fun _ => fun _ => fresh
  · exact fun _ _ _ => fresh

/-- Demos each of which finds generated what it needs. -/
inductive RefreshesInTurn (Object : Type) :
    List (Program host SssStatus × String) → List KeyId → List KeyId → Prop where
  | nil {keyIds : List KeyId} : RefreshesInTurn Object [] keyIds keyIds
  | cons {fn : Program host SssStatus} {label : String}
      {rest : List (Program host SssStatus × String)} {earlier between later : List KeyId} :
      Refreshes Object fn earlier between → RefreshesInTurn Object rest between later →
      RefreshesInTurn Object ((fn, label) :: rest) earlier later

theorem runDemos_refreshes {list : List (Program host SssStatus × String)}
    {earlier later : List KeyId} (inTurn : RefreshesInTurn Object list earlier later) :
    Refreshes Object (runDemos list) earlier later := by
  have leaves : LeavesPassive (freshKeys Object) := freshKeys_leavesPassive
  induction inTurn with
  | nil =>
      intro keys fresh
      exact passive_program_wp leaves rfl fun _ => passive_program_wp leaves rfl fun _ _ => fresh
  | cons refreshes _ ih =>
      intro keys fresh
      refine passive_program_wp leaves rfl fun _ => ?_
      rw [Program.wp_bind]
      refine Program.wp_mono (refreshes keys fresh) fun status after generated => ?_
      split
      next failed => exact passive_program_wp leaves rfl fun _ passed => absurd passed failed
      next passed => exact ih after (generated (not_not.mp passed))

theorem demos_refreshInTurn (mbedtls : Mbedtls) : RefreshesInTurn Object (demos mbedtls) []
    [demoKeyRsa, demoKeyEcBob, demoKeyEcAlice] := by
  have alice : demoKeyEcAlice ∈ [demoKeyEcBob, demoKeyEcAlice] :=
    List.mem_cons_of_mem _ List.mem_cons_self
  refine .cons demoRng_refreshes ?_
  refine .cons demoEcKeygen_refreshes ?_
  refine .cons (signVerify_refreshes (by decide)) ?_
  refine .cons demoEcEcdh_refreshes ?_
  refine .cons (requestCsr_refreshes alice) ?_
  refine .cons (demoRsaKeygen_refreshes (by decide)) ?_
  refine .cons (signVerify_refreshes (by decide)) ?_
  refine .cons (demoRsaEncDec_refreshes (by decide)) ?_
  exact .cons (requestCsr_refreshes List.mem_cons_self) .nil

theorem exSssEntry_refreshes (mbedtls : Mbedtls) : Refreshes Object (exSssEntry mbedtls) []
    [demoKeyRsa, demoKeyEcBob, demoKeyEcAlice] := by
  intro keys fresh
  have leaves : LeavesPassive (freshKeys Object) := freshKeys_leavesPassive
  refine passive_program_wp leaves rfl fun _ => ?_
  rw [Program.wp_bind]
  refine Program.wp_mono (runDemos_refreshes (demos_refreshInTurn mbedtls) keys fresh) ?_
  intro status after generated
  split
  next failed => exact passive_program_wp leaves rfl fun _ passed => absurd passed failed
  next => exact generated

end Demos

def SameOutside (first last : Keys Object) : Prop := ∀ keyId ∉ owned, last keyId = first keyId

/-- Calls that are allowed leave every identifier outside the four alone. -/
theorem accepted_outside {first last : Keys Object} {trace : List (Event host)}
    (accepted : (freshKeys Object).Accepts first trace last) : SameOutside first last := by
  have refl : ∀ keys : Keys Object, SameOutside keys keys := fun _ _ _ => rfl
  refine accepted.relates refl ?_ ?_
  · intro first second last early late keyId outside
    exact (late keyId outside).trans (early keyId outside)
  · intro first event second allowed moved keyId outside
    exact moved.1 keyId fun bound => outside (allowed.1 keyId bound)

/-- At every point of every run the store differs from the one found only at the four
identifiers, and the next call uses only keys generated in this run (or the derived secret);
a run that succeeds leaves generated keys. -/
theorem exSssEntry_keeps_fresh (mbedtls : Mbedtls) (store : KeyStore Object)
    {before rest : List (Event host)} {status : SssStatus} {middle : Keys Object}
    (run : (exSssEntry mbedtls).Runs (before ++ rest) status)
    (history : (freshKeys Object).History (leftBehind store) before middle) :
    (∀ keyId ∉ owned, middle keyId = leftBehind store keyId) ∧
    (∀ event, rest.head? = some event → ∀ keyId ∈ uses event.request,
      keyId = demoKeyEcShared ∨ Generated middle keyId) ∧
    (rest = [] → status = .success →
      Generated middle demoKeyEcAlice ∧ Generated middle demoKeyEcBob ∧
        Generated middle demoKeyRsa) := by
  have met := exSssEntry_refreshes mbedtls (leftBehind store) fun _ => nofun
  refine ⟨accepted_outside (run.accepted_before met history), ?_, ?_⟩
  · intro event next
    obtain ⟨later, rfl⟩ := List.head?_eq_some_iff.mp next
    exact (run.allowed met history).2
  · rintro rfl passed
    rw [List.append_nil] at run
    have generated := run.ensures met history passed
    exact ⟨generated _ (by decide), generated _ (by decide), generated _ (by decide)⟩

section FirstKey

/-- A first run on an empty element, up to the generation of Alice's key. -/
def untilFirstKey : List (Event host) :=
  [⟨.logInfo "SE051 Crypto Demo — starting", ()⟩,
    ⟨.logInfo "--------------------------------------------", ()⟩,
    ⟨.logInfo "=== RNG Demo ===", ()⟩, ⟨.sss .rngContextInit, .success⟩,
    ⟨.sss (.rngGetRandom 32), (.success, Vector.replicate 32 0)⟩,
    ⟨.logBytes "SE RNG (32 bytes)" (Vector.replicate 32 0).toList, ()⟩, ⟨.logInfo "RNG OK", ()⟩,
    ⟨.sss .rngContextFree, ()⟩, ⟨.logInfo "--------------------------------------------", ()⟩,
    ⟨.logInfo "=== EC Keygen (P-256) ===", ()⟩, ⟨.sss .keyObjectInit, .fail⟩,
    ⟨.sss .keyObjectInit, .success⟩,
    ⟨.sss (.keyObjectAllocateHandle demoKeyEcAlice .pair .ecNistP 200 .persistent), .success⟩,
    ⟨.sss (.keyStoreGenerateKey (.allocated demoKeyEcAlice .pair .ecNistP 200 .persistent) 256),
      .success⟩,
    ⟨.logInfo "EC key pair generated (object ID 0xEF000001)", ()⟩]

/-- The export of the public key fails, and the run ends. -/
def afterFirstKey : List (Event host) :=
  [⟨.sss (.keyStoreGetKey (.allocated demoKeyEcAlice .pair .ecNistP 200 .persistent) 200),
      (.fail, ⟨[], Nat.zero_le _⟩)⟩,
    ⟨.sss (.keyObjectFree (.allocated demoKeyEcAlice .pair .ecNistP 200 .persistent)), ()⟩,
    ⟨.logError "EC keygen FAILED", ()⟩, ⟨.logError "DEMO ABORTED at: EC keygen", ()⟩,
    ⟨.logError "SE051 Crypto Demo — FAILED", ()⟩]

theorem firstKey_runs : (exSssEntry .demo).Runs (untilFirstKey ++ afterFirstKey) .fail :=
  .call (.call (.call (.call (.call (.call (.call (.call (.call (.call (.call (.call (.call (.call
    (.call (.call (.call (.call (.call (.call .done)))))))))))))))))))

def onlyAlice : Keys Unit :=
  Function.update (leftBehind fun _ => none) demoKeyEcAlice (some ⟨(), .generated⟩)

theorem moves_same {event : Event host} (untargeted : event.request.target = none) :
    (freshKeys Object).moves keys event keys := by
  refine ⟨fun _ _ => rfl, fun keyId bound => ?_⟩
  rw [untargeted] at bound
  cases bound

theorem history_untargeted {before after : List (Event host)} {last : Keys Object}
    (untargeted : ∀ event ∈ before, event.request.target = none)
    (history : (freshKeys Object).History keys after last) :
    (freshKeys Object).History keys (before ++ after) last := by
  induction before with
  | nil => exact history
  | cons event before ih =>
      obtain ⟨first, rest⟩ := List.forall_mem_cons.mp untargeted
      exact .cons (moves_same first) (ih rest)

theorem firstKey_history :
    (freshKeys Unit).History (leftBehind fun _ => none) untilFirstKey onlyAlice := by
  have generated : (freshKeys Unit).moves (leftBehind fun _ => none)
      ⟨.sss (.keyStoreGenerateKey (.allocated demoKeyEcAlice .pair .ecNistP 200 .persistent) 256),
        .success⟩ onlyAlice := by
    refine ⟨fun keyId other => ?_, fun keyId bound => ?_⟩
    · have distinct : keyId ≠ demoKeyEcAlice := fun same => other (congrArg some same.symm)
      exact Function.update_of_ne distinct _ _
    · cases bound
      exact ⟨(), Function.update_self _ _ _⟩
  have untargeted : ∀ event ∈ untilFirstKey.take 13, event.request.target = none := by
    decide
  rw [← List.take_append_drop 13 untilFirstKey]
  refine history_untargeted untargeted ?_
  refine .cons generated ?_
  exact .cons (moves_same rfl) .nil

theorem exSssEntry_keeps_fresh_firstKey :
    demoKeyEcAlice = demoKeyEcShared ∨ Generated onlyAlice demoKeyEcAlice :=
  (exSssEntry_keeps_fresh .demo _ firstKey_runs firstKey_history).2.1 _ rfl demoKeyEcAlice (by decide)

end FirstKey

end Se05x.App
