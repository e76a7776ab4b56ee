import Se05x.CppApp.ContextLifetime

/-!
# Contexts are released unless a buffer is refused

The operations that size their output buffer between initialising and freeing a context
leave it live when that buffer cannot be constructed.
-/

set_option autoImplicit false

namespace Se05x.CppApp

open Der Interaction

section Ledgers

variable {before after ledger : Ledger} {event : Event host} {context : SssContext}

@[simp] theorem contexts_moves_iff :
    contexts.moves before event after ↔ after = before.record event := Iff.rfl

theorem contexts_allows_unused {request : HostCall} (unused : used request = none)
    (kept : freed request = none) : contexts.allows ledger request := by
  intro context mentioned
  simp [unused, kept] at mentioned

theorem contexts_allows_live {request : HostCall}
    (mentioned : (used request).or (freed request) = some context)
    (live : context ∈ ledger.live) : contexts.allows ledger request := by
  intro other found
  rw [mentioned, Option.mem_some] at found
  exact found ▸ live

theorem Ledger.record_silent (uninitialised : initialised event = none)
    (kept : freed event.request = none) (granted : refused event = false) :
    ledger.record event = ledger := by
  simp [Ledger.record, uninitialised, kept, granted]

theorem Ledger.record_freed (uninitialised : initialised event = none)
    (ended : freed event.request = some context) (granted : refused event = false) :
    (Ledger.mk (context :: ledger.live) ledger.refusal).record event = ledger := by
  simp [Ledger.record, uninitialised, ended, granted]

theorem Ledger.record_refused (uninitialised : initialised event = none)
    (kept : freed event.request = none) (full : refused event = true) :
    (Ledger.mk (context :: ledger.live) ledger.refusal).record event =
      ⟨context :: ledger.live, true⟩ := by
  simp [Ledger.record, uninitialised, kept, full]

/-- Without a live context a refused buffer leaves nothing behind. -/
theorem Ledger.record_live (uninitialised : initialised event = none)
    (kept : freed event.request = none) : (ledger.record event).live = ledger.live := by
  simp [Ledger.record, uninitialised, kept]

theorem Ledger.foldl_record_refusal (trace : List (Event host)) (ledger : Ledger) :
    (trace.foldl Ledger.record ledger).refusal = (ledger.refusal || trace.any refused) := by
  induction trace generalizing ledger with
  | nil => simp
  | cons event trace ih =>
      rw [List.foldl_cons, ih, List.any_cons]
      exact Bool.or_assoc ..

theorem refused_of_not_granted {size : Nat} {answer : Allocation} (failed : answer ≠ .granted) :
    refused ⟨.allocate size, answer⟩ = true := by
  cases answer with
  | granted => exact absurd rfl failed
  | badAlloc => rfl
  | lengthError => rfl

section Calls

variable {Value : Type} {post : Except CppException Value → Ledger → Prop} {request : SssCall}
  {continuation : request.Answer → Cpp Value}

theorem wp_silent_bind (unused : used (.sss request) = none) (kept : freed (.sss request) = none)
    (silent : ∀ answer, initialised ⟨.sss request, answer⟩ = none)
    (rest : ∀ answer, (continuation answer).run.wp contexts post ledger) :
    (sss request >>= continuation).run.wp contexts post ledger := by
  refine wp_sss_bind.mpr ⟨contexts_allows_unused unused kept, fun answer after moved => ?_⟩
  rw [contexts_moves_iff.mp moved, Ledger.record_silent (silent answer) kept rfl]
  exact rest answer

/-- A call that initialises a context if it succeeds, and its check. -/
theorem wp_init_bind (unused : used (.sss request) = none) (kept : freed (.sss request) = none)
    (rest : ∀ answer, (continuation answer).run.wp contexts post
      ⟨(initialised ⟨.sss request, answer⟩).toList ++ ledger.live, ledger.refusal⟩) :
    (sss request >>= continuation).run.wp contexts post ledger := by
  refine wp_sss_bind.mpr ⟨contexts_allows_unused unused kept, fun answer after moved => ?_⟩
  have recorded : ledger.record ⟨.sss request, answer⟩ =
      ⟨(initialised ⟨.sss request, answer⟩).toList ++ ledger.live, ledger.refusal⟩ := by
    simp [Ledger.record, kept, refused]
  rw [contexts_moves_iff.mp moved, recorded]
  exact rest answer

theorem wp_live_bind (works : used (.sss request) = some context)
    (kept : freed (.sss request) = none)
    (silent : ∀ answer, initialised ⟨.sss request, answer⟩ = none) (live : context ∈ ledger.live)
    (rest : ∀ answer, (continuation answer).run.wp contexts post ledger) :
    (sss request >>= continuation).run.wp contexts post ledger := by
  have mentioned : (used (.sss request)).or (freed (.sss request)) = some context := by
    rw [works, Option.some_or]
  refine wp_sss_bind.mpr ⟨contexts_allows_live mentioned live, fun answer after moved => ?_⟩
  rw [contexts_moves_iff.mp moved, Ledger.record_silent (silent answer) kept rfl]
  exact rest answer

theorem wp_free_bind (unused : used (.sss request) = none)
    (ended : freed (.sss request) = some context)
    (silent : ∀ answer, initialised ⟨.sss request, answer⟩ = none)
    (rest : ∀ answer, (continuation answer).run.wp contexts post ledger) :
    (sss request >>= continuation).run.wp contexts post
      ⟨context :: ledger.live, ledger.refusal⟩ := by
  have mentioned : (used (.sss request)).or (freed (.sss request)) = some context := by
    rw [unused, Option.none_or, ended]
  refine wp_sss_bind.mpr
    ⟨contexts_allows_live mentioned List.mem_cons_self, fun answer after moved => ?_⟩
  rw [contexts_moves_iff.mp moved, Ledger.record_freed (silent answer) ended rfl]
  exact rest answer

end Calls

end Ledgers

/-- The ledger is as before, or one context is left and a buffer was refused. -/
def Settles (before after : Ledger) : Prop :=
  after = before ∨ ∃ context, after = ⟨context :: before.live, true⟩

/-- A buffer is sized while a context is live. -/
theorem wp_sized_bind {Value : Type} {size : Nat} {continuation : Unit → Cpp Value}
    {context : SssContext} {ledger : Ledger}
    (rest : (continuation ()).run.wp contexts (fun _ => Settles ledger)
      ⟨context :: ledger.live, ledger.refusal⟩) :
    (allocate size >>= continuation).run.wp contexts (fun _ => Settles ledger)
      ⟨context :: ledger.live, ledger.refusal⟩ := by
  refine wp_allocate_bind.mpr ⟨contexts_allows_unused rfl rfl, fun answer after moved => ?_⟩
  rw [contexts_moves_iff.mp moved]
  constructor
  · intro granted
    subst granted
    rwa [Ledger.record_silent rfl rfl rfl]
  · intro failed
    exact .inr ⟨context, Ledger.record_refused rfl rfl (refused_of_not_granted failed)⟩

theorem getRandom_settles (numBytes : Nat) (ledger : Ledger) :
    (getRandom numBytes).run.wp contexts (fun _ => Settles ledger) ledger := by
  refine wp_init_bind rfl rfl fun st => wp_check_bind.mpr ⟨?_, ?_⟩
  · intro passed
    subst passed
    refine wp_sized_bind (wp_live_bind rfl rfl (fun _ => rfl) List.mem_cons_self fun reply => ?_)
    refine wp_free_bind rfl rfl (fun _ => rfl) fun _ => ?_
    exact wp_check_bind.mpr ⟨fun _ => .inl rfl, fun _ => .inl rfl⟩
  · intro failed
    have uninitialised : initialised ⟨.sss .rngContextInit, st⟩ = none := if_neg failed
    rw [uninitialised]
    exact .inl rfl

/-- An operation that works with the live context leaves the ledger alone. -/
def WorksWith (context : KeyContext) {Reply : Type} (operation : Program host Reply) : Prop :=
  ∀ ledger : Ledger, .asymmetric context ∈ ledger.live →
    operation.wp contexts (fun _ after => after = ledger) ledger

theorem worksWith_ask {context : KeyContext} {request : HostCall}
    (works : used request = some (.asymmetric context)) (kept : freed request = none)
    (silent : ∀ answer, initialised ⟨request, answer⟩ = none ∧ refused ⟨request, answer⟩ = false) :
    WorksWith context (ask request) := by
  intro ledger live
  refine ⟨contexts_allows_live (by rw [works, Option.some_or]) live, fun answer after moved => ?_⟩
  rw [contexts_moves_iff.mp moved]
  exact Ledger.record_silent (silent answer).1 kept (silent answer).2

theorem asymmetricOutput_settles {context : KeyContext} {initPlace place : String} {size : Nat}
    {operation : Program host (SssStatus × Filled size)} (works : WorksWith context operation)
    (ledger : Ledger) :
    (asymmetricOutput context initPlace size operation place).run.wp contexts
      (fun _ => Settles ledger) ledger := by
  refine wp_init_bind rfl rfl fun st => wp_check_bind.mpr ⟨?_, ?_⟩
  · intro passed
    subst passed
    refine wp_sized_bind (wp_lift_bind.mpr (Program.wp_mono (works _ List.mem_cons_self) ?_))
    intro reply after same
    subst same
    refine wp_free_bind rfl rfl (fun _ => rfl) fun _ => ?_
    exact wp_check_bind.mpr ⟨fun _ => .inl rfl, fun _ => .inl rfl⟩
  · intro failed
    have uninitialised : initialised ⟨.sss (.asymmetricContextInit context), st⟩ = none :=
      if_neg failed
    rw [uninitialised]
    exact .inl rfl

/-- The contexts are as before. -/
def KeepsLive (before after : Ledger) : Prop :=
  after.live = before.live

theorem asymmetricVerify_keepsLive (context : KeyContext) (initPlace : String)
    (digest signature : Bytes) (ledger : Ledger) :
    (asymmetricVerify context initPlace digest signature).run.wp contexts
      (fun _ => KeepsLive ledger) ledger := by
  refine wp_init_bind rfl rfl fun st => wp_check_bind.mpr ⟨?_, ?_⟩
  · intro passed
    subst passed
    refine wp_live_bind rfl rfl (fun _ => rfl) List.mem_cons_self fun reply => ?_
    exact wp_free_bind rfl rfl (fun _ => rfl) fun _ => rfl
  · intro failed
    have uninitialised : initialised ⟨.sss (.asymmetricContextInit context), st⟩ = none :=
      if_neg failed
    rw [uninitialised]
    rfl

theorem EcKey.ecdh_keepsLive (k : EcKey) (peerPubKeyDer : Bytes) (ledger : Ledger) :
    (k.ecdh peerPubKeyDer).run.wp contexts (fun _ => KeepsLive ledger) ledger := by
  rw [EcKey.ecdh]
  refine wp_silent_bind rfl rfl (fun _ => rfl) fun st =>
    wp_check_bind.mpr ⟨fun _ => ?_, fun _ => rfl⟩
  refine wp_silent_bind rfl rfl (fun _ => rfl) fun st =>
    wp_check_bind.mpr ⟨fun _ => ?_, fun _ => rfl⟩
  refine wp_silent_bind rfl rfl (fun _ => rfl) fun st =>
    wp_check_bind.mpr ⟨fun _ => ?_, fun _ => rfl⟩
  refine wp_silent_bind rfl rfl (fun _ => rfl) fun st =>
    wp_check_bind.mpr ⟨fun _ => ?_, fun _ => rfl⟩
  refine wp_silent_bind rfl rfl (fun _ => rfl) fun st =>
    wp_check_bind.mpr ⟨fun _ => ?_, fun _ => rfl⟩
  refine wp_init_bind rfl rfl fun st => wp_check_bind.mpr ⟨?_, ?_⟩
  · intro passed
    subst passed
    refine wp_live_bind rfl rfl (fun _ => rfl) List.mem_cons_self fun reply => ?_
    refine wp_free_bind rfl rfl (fun _ => rfl) fun _ => ?_
    refine wp_check_bind.mpr ⟨fun _ => wp_allocate_bind.mpr ?_, fun _ => rfl⟩
    refine ⟨contexts_allows_unused rfl rfl, fun answer after moved => ?_⟩
    rw [contexts_moves_iff.mp moved]
    have kept : KeepsLive ledger (ledger.record ⟨.allocate 64, answer⟩) :=
      Ledger.record_live rfl rfl
    refine ⟨fun _ => wp_silent_bind rfl rfl (fun _ => rfl) fun reply => ?_, fun _ => kept⟩
    exact wp_check_bind.mpr ⟨fun _ => kept, fun _ => kept⟩
  · intro failed
    have uninitialised : initialised ⟨.sss (.deriveKeyContextInit ⟨k.obj, .ecdh,
        .computeSharedSecret⟩), st⟩ = none := if_neg failed
    rw [uninitialised]
    rfl

theorem Operation.perform_settles {operation : Operation}
    (sizes : operation.sizesBufferWhileLive = true) (ledger : Ledger) :
    operation.perform.run.wp contexts (fun _ => Settles ledger) ledger := by
  cases operation with
  | getRandom numBytes => exact getRandom_settles numBytes ledger
  | ecSign k digest =>
      exact asymmetricOutput_settles (worksWith_ask rfl rfl fun _ => ⟨rfl, rfl⟩) ledger
  | rsaSign k digest =>
      exact asymmetricOutput_settles (worksWith_ask rfl rfl fun _ => ⟨rfl, rfl⟩) ledger
  | rsaEncrypt k plaintext =>
      exact asymmetricOutput_settles (worksWith_ask rfl rfl fun _ => ⟨rfl, rfl⟩) ledger
  | rsaDecrypt k ciphertext =>
      exact asymmetricOutput_settles (worksWith_ask rfl rfl fun _ => ⟨rfl, rfl⟩) ledger
  | ecVerify | ecdh | rsaVerify => cases sizes

theorem Operation.perform_keepsLive {operation : Operation}
    (sizes : operation.sizesBufferWhileLive = false) (ledger : Ledger) :
    operation.perform.run.wp contexts (fun _ => KeepsLive ledger) ledger := by
  cases operation with
  | ecVerify k digest signature => exact asymmetricVerify_keepsLive _ _ digest signature ledger
  | ecdh k peerPubKeyDer => exact k.ecdh_keepsLive peerPubKeyDer ledger
  | rsaVerify k digest signature => exact asymmetricVerify_keepsLive _ _ digest signature ledger
  | getRandom | ecSign | rsaSign | rsaEncrypt | rsaDecrypt => cases sizes

theorem contexts_history (trace : List (Event host)) (ledger : Ledger) :
    contexts.History ledger trace (trace.foldl Ledger.record ledger) :=
  Contract.history_recording_iff.mpr rfl

theorem Released.live {trace : List (Event host)} (released : Released trace) :
    (trace.foldl Ledger.record ⟨[], false⟩).live = [] := by
  obtain ⟨ledger, reached, ended⟩ := released
  obtain rfl := Contract.history_recording_iff.mp reached.history
  exact ended

/-- One call releases its contexts unless the buffer it sizes while one is live is refused. -/
theorem Operation.released_iff {operation : Operation} {trace : List (Event host)}
    {outcome : Except CppException operation.Result}
    (run : operation.perform.run.Runs trace outcome) :
    Released trace ↔
      (operation.sizesBufferWhileLive = true → ∀ event ∈ trace, refused event = false) := by
  have history := contexts_history trace ⟨[], false⟩
  have recorded := Ledger.foldl_record_refusal trace ⟨[], false⟩
  cases sizes : operation.sizesBufferWhileLive with
  | false =>
      have met := Operation.perform_keepsLive sizes ⟨[], false⟩
      have kept := run.ensures met history
      exact ⟨fun _ => nofun, fun _ => ⟨_, run.accepted met history, kept⟩⟩
  | true =>
      have met := Operation.perform_settles sizes ⟨[], false⟩
      rcases run.ensures met history with same | ⟨context, left⟩
      · rw [same] at recorded
        have granted : ∀ event ∈ trace, refused event = false := by
          simpa using recorded
        exact ⟨fun _ _ => granted, fun _ => ⟨_, run.accepted met history, congrArg Ledger.live same⟩⟩
      · constructor
        · intro released
          have ended := released.live
          rw [left] at ended
          cases ended
        · intro granted
          rw [left] at recorded
          have failed : trace.any refused = true := by
            simpa using recorded.symm
          obtain ⟨event, member, full⟩ := List.any_eq_true.mp failed
          rw [granted rfl event member] at full
          cases full

/-- In every sequence of calls, each call releases its contexts exactly when no buffer it
sizes while a context is live is refused. -/
theorem callsRun_released_iff {operations : List Operation} {traces : List (List (Event host))}
    (run : CallsRun operations traces) :
    (∀ trace ∈ traces, Released trace) ↔
      List.Forall₂ (fun (operation : Operation) trace => operation.sizesBufferWhileLive = true →
        ∀ event ∈ trace, refused event = false) operations traces := by
  induction run with
  | nil => simp
  | cons first _ ih =>
      obtain ⟨outcome, first⟩ := first
      rw [List.forall_mem_cons, List.forall₂_cons, ih, Operation.released_iff first]

/-- A call for two random bytes that meets no failure. -/
def twoRandomBytes : List (Event host) :=
  [⟨.sss .rngContextInit, .success⟩, ⟨.allocate 2, .granted⟩,
    ⟨.sss (.rngGetRandom 2), (.success, ⟨#[1, 2], rfl⟩)⟩, ⟨.sss .rngContextFree, ()⟩]

theorem twoRandomBytes_run : CallsRun [.getRandom 2] [twoRandomBytes] := by
  have run : (getRandom 2).run.Runs twoRandomBytes (.ok [1, 2]) :=
    .call (.call (.call (.call .done)))
  exact .cons ⟨_, run⟩ .nil

theorem twoRandomBytes_released : Released twoRandomBytes := by
  have released := (callsRun_released_iff twoRandomBytes_run).mpr (.cons ?_ .nil)
  · exact released twoRandomBytes (List.mem_singleton_self _)
  · intro _
    simp [twoRandomBytes, refused]

/-- A byte count beyond the maximal vector size throws between `init` and `free`. -/
theorem getRandom_leaks_context :
    CallsRun [.getRandom (2 ^ 64 - 1)]
        [[⟨.sss .rngContextInit, .success⟩, ⟨.allocate (2 ^ 64 - 1), .lengthError⟩]] ∧
      ¬ Released [⟨.sss .rngContextInit, .success⟩, ⟨.allocate (2 ^ 64 - 1), .lengthError⟩] := by
  have run : (getRandom (2 ^ 64 - 1)).run.Runs
      [⟨.sss .rngContextInit, .success⟩, ⟨.allocate (2 ^ 64 - 1), .lengthError⟩]
      (.error .lengthError) := .call (.call .done)
  refine ⟨.cons ⟨_, run⟩ .nil, ?_⟩
  intro released
  have ended := released.live
  cases ended

end Se05x.CppApp
