import Se05x.CppApp.CryptoProperties
import Se05x.Sss.Reference
import Se05x.Sss.Store

/-!
# What a key agreement leaves behind

The peer's key and the shared secret are written under two fixed identifiers, and nothing
takes them away again, however the derivation ends.
-/

set_option autoImplicit false

namespace Se05x.CppApp

open Der Interaction

abbrev EcKey.importPeer (k : EcKey) (der : Bytes) : SssCall :=
  .keyStoreSetKey (.allocated 0xEF009E01 .publicPart .ecNistP der.length .transient) der
    (curveBits k.curve)

abbrev EcKey.deriveShared (k : EcKey) (der : Bytes) : SssCall :=
  .deriveKeyDh ⟨k.obj, .ecdh, .computeSharedSecret⟩
    (.allocated 0xEF009E01 .publicPart .ecNistP der.length .transient)
    (.allocated 0xEF009E02 .defaultPart .aes 64 .transient)

/-- The peer's key was imported. -/
def EcKey.Imported (k : EcKey) (der : Bytes) (trace : List (Event host)) : Prop :=
  (⟨.sss (k.importPeer der), SssStatus.success⟩ : Event host) ∈ trace

/-- The shared secret was derived. -/
def EcKey.Derived (k : EcKey) (der : Bytes) (trace : List (Event host)) : Prop :=
  (⟨.sss (k.deriveShared der), SssStatus.success⟩ : Event host) ∈ trace

/-- The calls so far, in order. -/
def tracing : Contract host (List (Event host)) :=
  .recording (fun _ _ => True) fun trace event => trace ++ [event]

theorem tracing_history {trace : List (Event host)} : tracing.History [] trace trace := by
  refine Contract.history_recording_iff.mpr ?_
  have appended : ∀ before : List (Event host),
      trace.foldl (fun trace event => trace ++ [event]) before = before ++ trace := by
    induction trace with
    | nil => exact fun before => (List.append_nil before).symm
    | cons event trace ih =>
        intro before
        rw [List.foldl_cons, ih, List.append_assoc, List.singleton_append]
  exact (appended []).symm

section Frame

variable {Object : Type} {written : KeyStore Object → SssCall → Object} {store : KeyStore Object}
  {k : EcKey} {der : Bytes}

/-- How far a run has come: the store by now, and which of the two objects are written. -/
structure EcKey.Stage (written : KeyStore Object → SssCall → Object) (store : KeyStore Object)
    (k : EcKey) (der : Bytes) (reached : KeyStore Object) (imported derived : Prop)
    (trace : List (Event host)) : Prop where
  reaches : trace.foldl (KeyStore.change written) store = reached
  imports : k.Imported der trace ↔ imported
  derives : k.Derived der trace ↔ derived

variable {reached : KeyStore Object} {imported derived : Prop} {trace : List (Event host)}

theorem EcKey.Stage.start : Stage written store k der store False False [] :=
  ⟨rfl, iff_false_intro List.not_mem_nil, iff_false_intro List.not_mem_nil⟩

theorem foldl_change_append {event : Event host}
    (reaches : trace.foldl (KeyStore.change written) store = reached) :
    (trace ++ [event]).foldl (KeyStore.change written) store = reached.change written event := by
  rw [List.foldl_append, reaches]
  rfl

theorem mem_append_of_ne {event other : Event host} (apart : other ≠ event) :
    other ∈ trace ++ [event] ↔ other ∈ trace := by
  rw [List.mem_append, List.mem_singleton]
  exact or_iff_left apart

theorem derivation_ne_import {first : (k.deriveShared der).Answer}
    {second : (k.importPeer der).Answer} :
    (⟨.sss (k.deriveShared der), first⟩ : Event host) ≠ ⟨.sss (k.importPeer der), second⟩ := by
  intro same
  cases congrArg Event.request same

theorem mutates_or_ne {event other : Event host} (quiet : mutates event = false)
    (loud : mutates other = true) : other ≠ event := by
  intro same
  rw [same, quiet] at loud
  cases loud

namespace EcKey.Stage

/-- A call that writes neither object. -/
theorem append (stage : Stage written store k der reached imported derived trace)
    {event : Event host} (unwritten : reached.change written event = reached)
    (noImport : ⟨.sss (k.importPeer der), SssStatus.success⟩ ≠ event)
    (noDerivation : ⟨.sss (k.deriveShared der), SssStatus.success⟩ ≠ event) :
    Stage written store k der reached imported derived (trace ++ [event]) :=
  ⟨(foldl_change_append stage.reaches).trans unwritten,
    (mem_append_of_ne noImport).trans stage.imports,
    (mem_append_of_ne noDerivation).trans stage.derives⟩

theorem quietly (stage : Stage written store k der reached imported derived trace)
    {event : Event host} (quiet : mutates event = false) :
    Stage written store k der reached imported derived (trace ++ [event]) :=
  stage.append (KeyStore.change_of_not_mutates quiet) (mutates_or_ne quiet rfl)
    (mutates_or_ne quiet rfl)

theorem with_import (stage : Stage written store k der reached False False trace) :
    Stage written store k der
      (reached.install 0xEF009E01 (written reached (k.importPeer der))) True False
      (trace ++ [⟨.sss (k.importPeer der), SssStatus.success⟩]) := by
  refine ⟨foldl_change_append stage.reaches, iff_true_intro ?_, ?_⟩
  · exact List.mem_append_right _ (List.mem_singleton.mpr rfl)
  · exact (mem_append_of_ne derivation_ne_import).trans stage.derives

theorem with_derivation (stage : Stage written store k der reached True False trace) :
    Stage written store k der
      (reached.install 0xEF009E02 (written reached (k.deriveShared der))) True True
      (trace ++ [⟨.sss (k.deriveShared der), SssStatus.success⟩]) := by
  refine ⟨foldl_change_append stage.reaches, ?_, iff_true_intro ?_⟩
  · exact (mem_append_of_ne derivation_ne_import.symm).trans stage.imports
  · exact List.mem_append_right _ (List.mem_singleton.mpr rfl)

end EcKey.Stage

/-- The store at the end is that of the beginning exactly when nothing was imported, or what
was written was there before. -/
def EcKey.Settled (written : KeyStore Object → SssCall → Object) (store : KeyStore Object)
    (k : EcKey) (der : Bytes) (trace : List (Event host)) : Prop :=
  trace.foldl (KeyStore.change written) store = store ↔
    ¬k.Imported der trace ∨
      store 0xEF009E01 = some (written store (k.importPeer der)) ∧
        (¬k.Derived der trace ∨ store 0xEF009E02 = some (written store (k.deriveShared der)))

theorem EcKey.Stage.untouched (stage : Stage written store k der store False False trace) :
    k.Settled written store der trace :=
  iff_of_true stage.reaches (.inl stage.imports.mp)

theorem EcKey.Stage.with_peer
    (stage : Stage written store k der
      (store.install 0xEF009E01 (written store (k.importPeer der))) True False trace) :
    k.Settled written store der trace := by
  rw [Settled, stage.reaches, KeyStore.install_eq_iff, stage.imports, stage.derives]
  simp only [not_true_eq_false, not_false_eq_true, true_or, and_true, false_or]

/-- With both objects written, each must have been there. -/
theorem EcKey.Stage.with_secret {between : KeyStore Object}
    (wrote : between = store.install 0xEF009E01 (written store (k.importPeer der)))
    (stage : Stage written store k der
      (between.install 0xEF009E02 (written between (k.deriveShared der))) True True trace) :
    k.Settled written store der trace := by
  rw [Settled, stage.reaches, stage.imports, stage.derives]
  simp only [not_true_eq_false, false_or]
  constructor
  · intro same
    have peer : store 0xEF009E01 = some (written store (k.importPeer der)) := by
      have there := congrFun same 0xEF009E01
      rw [wrote] at there
      exact there.symm
    have unchanged : between = store := wrote.trans (KeyStore.install_eq_iff.mpr peer)
    rw [unchanged] at same
    exact ⟨peer, KeyStore.install_eq_iff.mp same⟩
  · intro kept
    obtain ⟨peer, secret⟩ := kept
    rw [wrote, KeyStore.install_eq_iff.mpr peer]
    exact KeyStore.install_eq_iff.mpr secret

/-- A call of the rest of the operation that leaves the objects alone. -/
theorem wp_quietly {Value : Type} {request : SssCall} {continuation : request.Answer → Cpp Value}
    {post : Except CppException Value → List (Event host) → Prop}
    (stage : EcKey.Stage written store k der reached imported derived trace)
    (quiet : ∀ answer, mutates ⟨.sss request, answer⟩ = false)
    (next : ∀ answer after, EcKey.Stage written store k der reached imported derived after →
      (continuation answer).run.wp tracing post after) :
    (@bind Cpp _ (no_index request.Answer) Value (sss request) continuation).run.wp tracing post
      trace := by
  refine wp_sss_bind.mpr ⟨trivial, fun answer after moved => ?_⟩
  obtain rfl := moved
  exact next answer _ (stage.quietly (quiet answer))

namespace EcKey

theorem Stage.import_refused (stage : Stage written store k der reached imported derived trace)
    {st : SssStatus} (failed : st ≠ .success) :
    Stage written store k der reached imported derived
      (trace ++ [⟨.sss (k.importPeer der), st⟩]) := by
  refine stage.append ?_ ?_ derivation_ne_import
  · cases st with
    | success => exact absurd rfl failed
    | _ => rfl
  · intro same
    cases same
    exact failed rfl

theorem Stage.derivation_refused (stage : Stage written store k der reached imported derived trace)
    {st : SssStatus} (failed : st ≠ .success) :
    Stage written store k der reached imported derived
      (trace ++ [⟨.sss (k.deriveShared der), st⟩]) := by
  refine stage.append ?_ derivation_ne_import.symm ?_
  · cases st with
    | success => exact absurd rfl failed
    | _ => rfl
  · intro same
    cases same
    exact failed rfl

theorem ecdh_settles : (k.ecdh der).run.wp tracing
    (fun _ trace => k.Settled written store der trace) [] := by
  have start : Stage written store k der store False False [] := .start
  refine wp_quietly start (fun _ => rfl) fun _ _ stage => ?_
  refine wp_check_bind.mpr ⟨fun _ => ?_, fun _ => stage.untouched⟩
  refine wp_quietly stage (fun _ => rfl) fun _ _ stage => ?_
  refine wp_check_bind.mpr ⟨fun _ => ?_, fun _ => stage.untouched⟩
  refine wp_sss_bind.mpr ⟨trivial, fun st _ moved => ?_⟩
  obtain rfl := moved
  refine wp_check_bind.mpr ⟨fun succeeded => ?_, fun failed => (stage.import_refused failed).untouched⟩
  subst succeeded
  -- from here on the peer's key is in the store
  refine wp_quietly stage.with_import (fun _ => rfl) fun _ _ stage => ?_
  refine wp_check_bind.mpr ⟨fun _ => ?_, fun _ => stage.with_peer⟩
  refine wp_quietly stage (fun _ => rfl) fun _ _ stage => ?_
  refine wp_check_bind.mpr ⟨fun _ => ?_, fun _ => stage.with_peer⟩
  refine wp_quietly stage (fun _ => rfl) fun _ _ stage => ?_
  refine wp_check_bind.mpr ⟨fun _ => ?_, fun _ => stage.with_peer⟩
  refine wp_sss_bind.mpr ⟨trivial, fun st _ moved => ?_⟩
  obtain rfl := moved
  by_cases derives : st = .success
  · subst derives
    refine wp_quietly stage.with_derivation (fun _ => rfl) fun _ _ stage => ?_
    refine wp_check_bind.mpr ⟨fun _ => ?_, fun _ => stage.with_secret rfl⟩
    refine wp_allocate_bind.mpr ⟨trivial, fun answer _ moved => ?_⟩
    obtain rfl := moved
    have allocated := stage.quietly (rfl : mutates ⟨.allocate 64, answer⟩ = false)
    refine ⟨fun _ => ?_, fun _ => allocated.with_secret rfl⟩
    refine wp_quietly allocated (fun _ => rfl) fun reply _ stage => ?_
    exact wp_check_bind.mpr ⟨fun _ => stage.with_secret rfl, fun _ => stage.with_secret rfl⟩
  · refine wp_quietly (stage.derivation_refused derives) (fun _ => rfl) fun _ _ stage => ?_
    exact wp_check_bind.mpr ⟨fun succeeded => absurd succeeded derives, fun _ => stage.with_peer⟩

/-- Over every run, whatever the calls answer and whether it returns or throws. -/
theorem ecdh_keeps_store_iff {outcome : Except CppException Bytes}
    (run : (k.ecdh der).run.Runs trace outcome) :
    trace.foldl (KeyStore.change written) store = store ↔
      ¬k.Imported der trace ∨
        store 0xEF009E01 = some (written store (k.importPeer der)) ∧
          (¬k.Derived der trace ∨ store 0xEF009E02 = some (written store (k.deriveShared der))) :=
  run.ensures ecdh_settles tracing_history

end EcKey

end Frame

section Example

open SecureElement

def aliceKey : EcKey := ⟨.existing 0x10, .sha256, .nistP256, false⟩

def bobDer : Bytes := reference.publicKeyDer (reference.newKey .ecNistP 256 1)

def agreeing : reference.State :=
  reference.emptyState.store 0x10 (some (.pair (reference.newKey .ecNistP 256 0)))

def agreementTrace : List (Event host) :=
  (aliceKey.ecdh bobDer).run.transcript reference.server agreeing

theorem agreement_runs : ∃ secret, (aliceKey.ecdh bobDer).run.Runs agreementTrace (.ok secret) := by
  have returns : ∃ secret,
      ((aliceKey.ecdh bobDer).run.exec reference.server agreeing).1 = .ok secret := ⟨_, rfl⟩
  obtain ⟨secret, returned⟩ := returns
  exact ⟨secret, returned ▸ Program.runs_transcript⟩

/-- A store with a user's key under the identifier of the peer's. -/
def userStore : KeyStore String := fun keyId =>
  if keyId = 0x10 then some "alice" else if keyId = 0xEF009E01 then some "user" else none

def writes (_ : KeyStore String) : SssCall → String
  | .keyStoreSetKey _ _ _ => "peer"
  | .deriveKeyDh _ _ _ => "secret"
  | _ => "generated"

/-- A peer key the element does not accept leaves the store alone. -/
theorem EcKey.ecdh_keeps_store_refused :
    ((aliceKey.ecdh []).run.transcript reference.server agreeing).foldl
      (KeyStore.change writes) userStore = userStore := by
  refine (EcKey.ecdh_keeps_store_iff Program.runs_transcript).mpr (.inl ?_)
  have calls : (aliceKey.ecdh []).run.transcript reference.server agreeing =
      [⟨.sss .keyObjectInit, SssStatus.success⟩,
        ⟨.sss (.keyObjectAllocateHandle 0xEF009E01 .publicPart .ecNistP 0 .transient),
          SssStatus.success⟩,
        ⟨.sss (aliceKey.importPeer []), SssStatus.fail⟩] := rfl
  rw [calls]
  intro imported
  simp only [EcKey.Imported, List.mem_cons, Event.mk.injEq, HostCall.sss.injEq, reduceCtorEq,
    false_and, heq_eq_eq, and_false, List.not_mem_nil, or_false] at imported

/-- The user's key is lost, and the shared secret stays behind. -/
theorem EcKey.ecdh_overwrites_and_leaks :
    ∃ trace secret, (aliceKey.ecdh bobDer).run.Runs trace (.ok secret) ∧
      userStore 0xEF009E01 = some "user" ∧
      trace.foldl (KeyStore.change writes) userStore 0xEF009E01 = some "peer" ∧
      userStore 0xEF009E02 = none ∧
      trace.foldl (KeyStore.change writes) userStore 0xEF009E02 = some "secret" := by
  obtain ⟨secret, run⟩ := agreement_runs
  exact ⟨agreementTrace, secret, run, rfl, rfl, rfl, rfl⟩

end Example

end Se05x.CppApp
