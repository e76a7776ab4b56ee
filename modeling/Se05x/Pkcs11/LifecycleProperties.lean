import Se05x.Pkcs11.DemoProperties
import Se05x.Pkcs11.Lifecycle

/-!
# Objects, sessions and the module over a run

Accepted traces balance: what was created was destroyed, what was opened was closed. The
demos hold at each point exactly the objects of the handle variables in use there.
-/

set_option autoImplicit false

namespace Se05x.Pkcs11

open Interaction Procedure
open scoped List

namespace Stage

def sessions : Stage → List SessionHandle
  | .inSession session _ => [session]
  | _ => []

/-- One entry while the module is initialised. -/
def running : Stage → List Unit
  | .initialised | .inSession _ _ | .sessionClosed => [()]
  | _ => []

/-- How many sessions may still be opened. -/
def openings : Stage → Nat
  | .loaded | .initialised => 1
  | _ => 0

/-- How often the module may still be initialised. -/
def starts : Stage → Nat
  | .loaded => 1
  | _ => 0

end Stage

/-- An event that takes nothing and gives nothing back. -/
structure Idle (event : Event cryptoki) : Prop where
  created : created event = []
  destroyed : destroyed event = []
  opened : opened event = []
  closed : closed event = []
  started : started event = []
  stopped : stopped event = []

/-- What an allowed move can be. -/
inductive Move : Stage → Event cryptoki → Stage → Prop where
  | idle {stage : Stage} {event : Event cryptoki} : Idle event → Move stage event stage
  | start {event : Event cryptoki} : event.request.kind = .starting → (outcome event).1 = ckrOk →
      Move .loaded event .initialised
  | opening {event : Event cryptoki} : event.request.kind = .opening → (outcome event).1 = ckrOk →
      Move .initialised event (.inSession ((outcome event).2.headD 0) .empty)
  | create {session : SessionHandle} {objects : Ledger ObjectHandle} {used : List ObjectHandle}
      {event : Event cryptoki} : event.request.kind = .creating session used →
      (outcome event).1 = ckrOk → (outcome event).2.Nodup →
      (∀ handle ∈ (outcome event).2, handle ∉ objects.held) →
      Move (.inSession session objects) event
        (.inSession session ((outcome event).2.foldl .acquire objects))
  | destroy {session : SessionHandle} {objects : Ledger ObjectHandle} {object : ObjectHandle}
      {event : Event cryptoki} : event.request.kind = .destroying session object →
      object ∈ objects.held →
      Move (.inSession session objects) event (.inSession session (objects.release object))
  | close {session : SessionHandle} {objects : Ledger ObjectHandle} {event : Event cryptoki} :
      event.request.kind = .closing session → objects.held = [] →
      Move (.inSession session objects) event .sessionClosed
  | stop {stage : Stage} {event : Event cryptoki} : event.request.kind = .stopping →
      stage = .initialised ∨ stage = .sessionClosed → Move stage event .finalised

theorem idle_of_kind {event : Event cryptoki}
    (idle : event.request.kind = .host ∨ event.request.kind = .loading ∨
      event.request.kind = .general ∨ ∃ session used, event.request.kind = .working session used) :
    Idle event := by
  obtain kindOf | kindOf | kindOf | ⟨_, _, kindOf⟩ := idle <;>
    constructor <;> simp only [created, destroyed, opened, closed, started, stopped, kindOf]

theorem idle_of_failure {event : Event cryptoki} (failed : (outcome event).1 ≠ ckrOk)
    (trial : event.request.kind = .starting ∨ event.request.kind = .opening ∨
      ∃ session used, event.request.kind = .creating session used) : Idle event := by
  obtain kindOf | kindOf | ⟨_, _, kindOf⟩ := trial <;>
    constructor <;>
      simp only [created, destroyed, opened, closed, started, stopped, kindOf, failed, ↓reduceIte]

theorem next_host {stage : Stage} {result : CkRv × List Nat} :
    stage.next .host result = stage := by
  cases stage <;> rfl

theorem move_of_moves {first second : Stage} {event : Event cryptoki}
    (allowed : lifecycle.allows first event.request) (moved : lifecycle.moves first event second) :
    Move first event second := by
  obtain ⟨promised, rfl⟩ := moved
  change first.permits event.request.kind at allowed
  cases kindOf : event.request.kind with
  | host =>
      rw [next_host]
      exact .idle (idle_of_kind (.inl kindOf))
  | loading =>
      rw [kindOf] at allowed
      cases first with
      | loaded => exact .idle (idle_of_kind (.inr (.inl kindOf)))
      | _ => exact allowed.elim
  | starting =>
      rw [kindOf] at allowed
      cases first with
      | loaded =>
          by_cases succeeded : (outcome event).1 = ckrOk
          · rw [Stage.next, if_pos succeeded]
            exact .start kindOf succeeded
          · rw [Stage.next, if_neg succeeded]
            exact .idle (idle_of_failure succeeded (.inl kindOf))
      | _ => exact allowed.elim
  | stopping =>
      rw [kindOf] at allowed
      cases first with
      | initialised => exact .stop kindOf (.inl rfl)
      | sessionClosed => exact .stop kindOf (.inr rfl)
      | _ => exact allowed.elim
  | general =>
      rw [kindOf] at allowed
      cases first with
      | initialised | inSession => exact .idle (idle_of_kind (.inr (.inr (.inl kindOf))))
      | _ => exact allowed.elim
  | opening =>
      rw [kindOf] at allowed
      cases first with
      | initialised =>
          by_cases succeeded : (outcome event).1 = ckrOk
          · rw [Stage.next, if_pos succeeded]
            exact .opening kindOf succeeded
          · rw [Stage.next, if_neg succeeded]
            exact .idle (idle_of_failure succeeded (.inr (.inl kindOf)))
      | _ => exact allowed.elim
  | closing other =>
      rw [kindOf] at allowed
      cases first with
      | inSession session objects =>
          obtain ⟨rfl, gone⟩ := allowed
          exact .close kindOf gone
      | _ => exact allowed.elim
  | working other used =>
      rw [kindOf] at allowed
      cases first with
      | inSession => exact .idle (idle_of_kind (.inr (.inr (.inr ⟨_, _, kindOf⟩))))
      | _ => exact allowed.elim
  | creating other used =>
      rw [kindOf] at allowed promised
      cases first with
      | inSession session objects =>
          obtain ⟨rfl, -⟩ := allowed
          rw [Promised] at promised
          by_cases succeeded : (outcome event).1 = ckrOk
          · rw [if_pos succeeded] at promised
            rw [Stage.next, if_pos succeeded]
            exact .create kindOf succeeded promised.1 fun handle member =>
              (promised.2 handle member).2
          · rw [Stage.next, if_neg succeeded]
            exact .idle (idle_of_failure succeeded (.inr (.inr ⟨_, _, kindOf⟩)))
      | _ => exact allowed.elim
  | destroying other object =>
      rw [kindOf] at allowed
      cases first with
      | inSession session objects =>
          obtain ⟨rfl, held⟩ := allowed
          exact .destroy kindOf held
      | _ => exact allowed.elim

section Balance

variable {first second last : Stage} {event : Event cryptoki} {trace : List (Event cryptoki)}

theorem Move.objects (move : Move first event second) :
    second.objects ++ destroyed event ~ first.objects ++ created event := by
  cases move with
  | idle idle => rw [idle.destroyed, idle.created]
  | create kindOf succeeded distinct fresh =>
      simp only [created, destroyed, kindOf, succeeded, ↓reduceIte, List.append_nil, Stage.objects]
      rw [Ledger.foldl_acquire_held distinct fresh]
      exact (List.reverse_perm _).append_right _ |>.trans List.perm_append_comm
  | destroy kindOf held =>
      simp only [created, destroyed, kindOf, List.append_nil, Stage.objects]
      exact Ledger.release_perm held
  | close kindOf gone =>
      simp only [created, destroyed, kindOf, List.append_nil, Stage.objects, gone, List.Perm.refl]
  | start kindOf _ | opening kindOf _ =>
      simp only [created, destroyed, kindOf, Stage.objects, Ledger.empty_held, List.Perm.refl]
  | stop kindOf before =>
      cases before with
      | inl same | inr same =>
          simp only [created, destroyed, kindOf, same, Stage.objects, List.Perm.refl]

theorem outcome_opening (kindOf : event.request.kind = .opening) :
    (outcome event).2 = [(outcome event).2.headD 0] := by
  obtain ⟨request, answer⟩ := event
  cases request <;> first
    | rfl
    | exact absurd kindOf nofun

theorem Move.sessions (move : Move first event second) :
    second.sessions ++ closed event ~ first.sessions ++ opened event := by
  cases move with
  | idle idle => rw [idle.closed, idle.opened]
  | opening kindOf succeeded =>
      simp only [closed, opened, kindOf, succeeded, ↓reduceIte, List.append_nil, Stage.sessions,
        List.nil_append]
      rw [← outcome_opening kindOf]
  | close kindOf _ | start kindOf _ | create kindOf _ _ _ | destroy kindOf _ =>
      simp only [closed, opened, kindOf, Stage.sessions, List.append_nil, List.nil_append,
        List.Perm.refl]
  | stop kindOf before =>
      cases before with
      | inl same | inr same =>
          simp only [closed, opened, kindOf, same, Stage.sessions, List.Perm.refl]

theorem Move.running (move : Move first event second) :
    second.running ++ stopped event ~ first.running ++ started event := by
  cases move with
  | idle idle => rw [idle.stopped, idle.started]
  | start kindOf succeeded =>
      simp only [stopped, started, kindOf, succeeded, ↓reduceIte, Stage.running, List.append_nil,
        List.nil_append, List.Perm.refl]
  | opening kindOf _ | close kindOf _ | create kindOf _ _ _ | destroy kindOf _ =>
      simp only [stopped, started, kindOf, Stage.running, List.append_nil, List.Perm.refl]
  | stop kindOf before =>
      cases before with
      | inl same | inr same =>
          simp only [stopped, started, kindOf, same, Stage.running, List.append_nil,
            List.nil_append, List.Perm.refl]

theorem Move.openings (move : Move first event second) :
    second.openings + (opened event).length ≤ first.openings := by
  cases move with
  | idle idle => rw [idle.opened]; exact Nat.le_refl _
  | opening kindOf succeeded =>
      simp only [opened, kindOf, succeeded, ↓reduceIte, Stage.openings]
      rw [outcome_opening kindOf]
      exact Nat.le_refl _
  | start kindOf _ | close kindOf _ | create kindOf _ _ _ | destroy kindOf _ =>
      simp only [opened, kindOf, Stage.openings, List.length_nil, Nat.le_refl]
  | stop kindOf _ =>
      simp only [opened, kindOf]
      exact Nat.zero_le _

theorem Move.starts (move : Move first event second) :
    second.starts + (started event).length ≤ first.starts := by
  cases move with
  | idle idle => rw [idle.started]; exact Nat.le_refl _
  | start kindOf succeeded =>
      simp only [started, kindOf, succeeded, ↓reduceIte, Stage.starts, List.length_singleton,
        Nat.zero_add, Nat.le_refl]
  | opening kindOf _ | close kindOf _ | create kindOf _ _ _ | destroy kindOf _ =>
      simp only [started, kindOf, Stage.starts, List.length_nil, Nat.le_refl]
  | stop kindOf _ =>
      simp only [started, kindOf]
      exact Nat.zero_le _

/-- Everything a run took it gave back, one session and one start at most. -/
structure GivesBack (trace : List (Event cryptoki)) : Prop where
  objects : trace.flatMap destroyed ~ trace.flatMap created
  sessions : trace.flatMap closed = trace.flatMap opened
  one_session : (trace.flatMap opened).length ≤ 1
  starts : trace.flatMap stopped = trace.flatMap started
  one_start : (trace.flatMap started).length ≤ 1

def Stage.Over (stage : Stage) : Prop :=
  stage.objects = [] ∧ stage.sessions = [] ∧ stage.running = []

theorem eq_of_perm_of_length_le_one {Entry : Type} {left right : List Entry}
    (permuted : left ~ right) (short : right.length ≤ 1) : left = right := by
  match right, short with
  | [], _ => exact permuted.eq_nil
  | [entry], _ => exact List.perm_singleton.mp permuted

theorem givesBack_of_accepts (accepted : lifecycle.Accepts .loaded trace last)
    (ended : last.Over) : GivesBack trace := by
  obtain ⟨noObjects, noSessions, stoppedAll⟩ := ended
  have objects := accepted.balances fun allowed moved => (move_of_moves allowed moved).objects
  have sessions := accepted.balances fun allowed moved => (move_of_moves allowed moved).sessions
  have running := accepted.balances fun allowed moved => (move_of_moves allowed moved).running
  have openings := accepted.affords fun allowed moved => (move_of_moves allowed moved).openings
  have starts := accepted.affords fun allowed moved => (move_of_moves allowed moved).starts
  rw [noObjects] at objects
  rw [noSessions] at sessions
  rw [stoppedAll] at running
  have one_session : (trace.flatMap opened).length ≤ 1 := (Nat.le_add_left _ _).trans openings
  have one_start : (trace.flatMap started).length ≤ 1 := (Nat.le_add_left _ _).trans starts
  exact ⟨objects, eq_of_perm_of_length_le_one sessions one_session, one_session,
    eq_of_perm_of_length_le_one running one_start, one_start⟩

end Balance

end Se05x.Pkcs11
