import Se05x.Interaction.Program

/-!
# Contracts between a program and its environment

A contract tells which calls are allowed in a state and how the state may move with each
answer. The state may be ghost: what it records need not be visible to either side.
-/

set_option autoImplicit false

namespace Interaction

structure Contract (I : Interface) (State : Type) where
  allows : State → I.Call → Prop
  moves : State → Event I → State → Prop

variable {I : Interface} {State Result Next : Type} {contract : Contract I State}

namespace Contract

/-- The states an environment passes through while it keeps its side. -/
inductive History (contract : Contract I State) : State → List (Event I) → State → Prop where
  | nil {state : State} : History contract state [] state
  | cons {first second last : State} {event : Event I} {trace : List (Event I)} :
      contract.moves first event second → History contract second trace last →
      History contract first (event :: trace) last

@[simp] theorem history_nil_iff {first last : State} :
    contract.History first [] last ↔ last = first := by
  constructor
  · intro history
    cases history
    rfl
  · intro same
    subst same
    exact .nil

@[simp] theorem history_cons_iff {first last : State} {event : Event I}
    {trace : List (Event I)} :
    contract.History first (event :: trace) last ↔
      ∃ second, contract.moves first event second ∧ contract.History second trace last := by
  constructor
  · intro history
    cases history with
    | cons moved rest => exact ⟨_, moved, rest⟩
  · intro history
    obtain ⟨second, moved, rest⟩ := history
    exact .cons moved rest

/-- A history in which every call was allowed in the state it was issued in. -/
inductive Accepts (contract : Contract I State) : State → List (Event I) → State → Prop where
  | nil {state : State} : Accepts contract state [] state
  | cons {first second last : State} {event : Event I} {trace : List (Event I)} :
      contract.allows first event.request → contract.moves first event second →
      Accepts contract second trace last → Accepts contract first (event :: trace) last

theorem Accepts.history {first last : State} {trace : List (Event I)}
    (accepted : contract.Accepts first trace last) : contract.History first trace last := by
  induction accepted with
  | nil => exact .nil
  | cons _ moved _ ih => exact .cons moved ih

/-- A relation every allowed move respects holds between the ends of an accepted trace. -/
theorem Accepts.relates {relation : State → State → Prop} {first last : State}
    {trace : List (Event I)} (accepted : contract.Accepts first trace last)
    (refl : ∀ state, relation state state)
    (trans : ∀ {first second last}, relation first second → relation second last →
      relation first last)
    (step : ∀ {first event second}, contract.allows first event.request →
      contract.moves first event second → relation first second) : relation first last := by
  induction accepted with
  | nil => exact refl _
  | cons allowed moved _ ih => exact trans (step allowed moved) ih

/-- The contract of a state that only records what has happened. -/
def recording (allows : State → I.Call → Prop) (record : State → Event I → State) :
    Contract I State where
  allows := allows
  moves state event after := after = record state event

theorem history_recording_iff {allows : State → I.Call → Prop} {record : State → Event I → State}
    {first last : State} {trace : List (Event I)} :
    (recording allows record).History first trace last ↔ last = trace.foldl record first := by
  induction trace generalizing first with
  | nil => exact history_nil_iff
  | cons event trace ih =>
      rw [history_cons_iff]
      constructor
      · intro history
        obtain ⟨_, rfl, rest⟩ := history
        exact ih.mp rest
      · intro recorded
        exact ⟨_, rfl, ih.mpr recorded⟩

/-- The contract of an environment that answers each call on its own. -/
def stateless (answers : Event I → Prop) : Contract I Unit where
  allows _ _ := True
  moves _ event _ := answers event

@[simp] theorem stateless_allows {answers : Event I → Prop} {state : Unit} {request : I.Call} :
    (stateless answers).allows state request := trivial

@[simp] theorem stateless_moves_iff {answers : Event I → Prop} {event : Event I}
    {before after : Unit} : (stateless answers).moves before event after ↔ answers event := Iff.rfl

theorem history_stateless {answers : Event I → Prop} {trace : List (Event I)}
    (permitted : ∀ event ∈ trace, answers event) : (stateless answers).History () trace () := by
  induction trace with
  | nil => exact .nil
  | cons event trace ih =>
      exact .cons (permitted event List.mem_cons_self)
        (ih fun other member => permitted other (List.mem_cons_of_mem _ member))

/-- A server keeps the environment's side while its states stay related to the contract's. -/
def KeptBy {Servers : Type} (contract : Contract I State) (server : Server I Servers)
    (related : Servers → State → Prop) : Prop :=
  ∀ s state request, related s state → ∃ after,
    contract.moves state ⟨request, (server s request).1⟩ after ∧ related (server s request).2 after

theorem KeptBy.history_related {Servers : Type} {server : Server I Servers}
    {related : Servers → State → Prop} (kept : contract.KeptBy server related)
    {program : Program I Result} {s : Servers} {state : State} (start : related s state) :
    ∃ last, contract.History state (program.transcript server s) last ∧
      related (program.exec server s).2 last := by
  induction program generalizing s state with
  | done value => exact ⟨state, .nil, start⟩
  | call request next ih =>
      obtain ⟨after, moved, still⟩ := kept s state request start
      obtain ⟨last, rest, ended⟩ := ih _ still
      exact ⟨last, .cons moved rest, ended⟩

theorem KeptBy.history {Servers : Type} {server : Server I Servers}
    {related : Servers → State → Prop} (kept : contract.KeptBy server related)
    {program : Program I Result} {s : Servers} {state : State} (start : related s state) :
    ∃ last, contract.History state (program.transcript server s) last := by
  obtain ⟨last, history, _⟩ := @history_related _ _ _ _ _ _ _ kept program _ _ start
  exact ⟨last, history⟩

end Contract

namespace Program

/-- From this state the program only issues allowed calls, and it returns with this
postcondition whatever the answers the contract permits. -/
def wp (contract : Contract I State) : Program I Result → (Result → State → Prop) → State → Prop
  | .done value, post, state => post value state
  | .call request next, post, state =>
    contract.allows state request ∧
      ∀ answer after, contract.moves state ⟨request, answer⟩ after →
        (next answer).wp contract post after

@[simp] theorem wp_done {value : Result} {post : Result → State → Prop} {state : State} :
    (Program.done value : Program I Result).wp contract post state ↔ post value state := Iff.rfl

@[simp] theorem wp_call {request : I.Call} {next : I.Answer request → Program I Result}
    {post : Result → State → Prop} {state : State} :
    (Program.call request next).wp contract post state ↔
      contract.allows state request ∧
        ∀ answer after, contract.moves state ⟨request, answer⟩ after →
          (next answer).wp contract post after := Iff.rfl

@[simp] theorem wp_bind {program : Program I Result} {continuation : Result → Program I Next}
    {post : Next → State → Prop} {state : State} :
    (program >>= continuation).wp contract post state ↔
      program.wp contract (fun value => (continuation value).wp contract post) state := by
  induction program generalizing state with
  | done value => rfl
  | call request next ih => simp only [call_bind, wp_call, ih]

theorem wp_mono {program : Program I Result} {weak strong : Result → State → Prop} {state : State}
    (met : program.wp contract strong state)
    (weaker : ∀ value after, strong value after → weak value after) :
    program.wp contract weak state := by
  induction program generalizing state with
  | done value => exact weaker _ _ met
  | call request next ih => exact ⟨met.1, fun answer after moved => ih _ (met.2 answer after moved)⟩

/-- What a program ensures holds at the end of each of its runs. -/
theorem Runs.ensures {program : Program I Result} {post : Result → State → Prop} {value : Result}
    {trace : List (Event I)} {state last : State} (run : program.Runs trace value)
    (met : program.wp contract post state) (history : contract.History state trace last) :
    post value last := by
  induction run generalizing state with
  | done =>
      cases history
      exact met
  | call _ ih =>
      cases history with
      | cons moved rest => exact ih (met.2 _ _ moved) rest

theorem Runs.ensures_stateless {answers : Event I → Prop} {program : Program I Result}
    {post : Result → Prop} {value : Result} {trace : List (Event I)} (run : program.Runs trace value)
    (permitted : ∀ event ∈ trace, answers event)
    (met : program.wp (.stateless answers) (fun value _ => post value) ()) : post value :=
  run.ensures met (Contract.history_stateless permitted)

theorem Runs.ensures_always {program : Program I Result} {post : Result → Prop} {value : Result}
    {trace : List (Event I)} (run : program.Runs trace value)
    (met : program.wp (.stateless fun _ => True) (fun value _ => post value) ()) : post value :=
  run.ensures_stateless (fun _ _ => trivial) met

/-- Every call of a run was allowed in the state it was issued in. -/
theorem Runs.allowed {program : Program I Result} {post : Result → State → Prop} {value : Result}
    {before after : List (Event I)} {event : Event I} {state middle : State}
    (run : program.Runs (before ++ event :: after) value)
    (met : program.wp contract post state) (history : contract.History state before middle) :
    contract.allows middle event.request := by
  induction before generalizing program state with
  | nil =>
      cases history
      cases run with
      | call _ => exact met.1
  | cons first before ih =>
      cases history with
      | cons moved rest =>
          cases run with
          | call run => exact ih run (met.2 _ _ moved) rest

/-- So far every call was allowed in the state it was issued in. -/
theorem Runs.accepted_before {program : Program I Result} {post : Result → State → Prop}
    {value : Result} {before after : List (Event I)} {state middle : State}
    (run : program.Runs (before ++ after) value) (met : program.wp contract post state)
    (history : contract.History state before middle) : contract.Accepts state before middle := by
  induction before generalizing program state with
  | nil =>
      cases history
      exact .nil
  | cons first before ih =>
      cases history with
      | cons moved rest =>
          cases run with
          | call run => exact .cons met.1 moved (ih run (met.2 _ _ moved) rest)

theorem Runs.accepted {program : Program I Result} {post : Result → State → Prop} {value : Result}
    {trace : List (Event I)} {state last : State} (run : program.Runs trace value)
    (met : program.wp contract post state) (history : contract.History state trace last) :
    contract.Accepts state trace last := by
  rw [← List.append_nil trace] at run
  exact run.accepted_before met history

end Program

end Interaction
