/-!
# Programs that call their environment

A program over an interface issues calls and continues with their answers. It has no
behaviour of its own: every property is about the answers an environment may give.
-/

set_option autoImplicit false

namespace Interaction

/-- The calls a program may issue and the answers each may get. -/
structure Interface where
  Call : Type
  Answer : Call → Type

structure Event (I : Interface) where
  request : I.Call
  answer : I.Answer request

inductive Program (I : Interface) (Result : Type) where
  | done (value : Result)
  | call (request : I.Call) (next : I.Answer request → Program I Result)

namespace Program

variable {I : Interface} {Result Next : Type}

def bind : Program I Result → (Result → Program I Next) → Program I Next
  | .done value, continuation => continuation value
  | .call request next, continuation =>
    .call request fun answer => (next answer).bind continuation

instance : Monad (Program I) where
  pure := .done
  bind := Program.bind

/-- Issue one call and return its answer. -/
def issue (request : I.Call) : Program I (I.Answer request) := .call request .done

@[simp] theorem pure_eq_done (value : Result) : (pure value : Program I Result) = .done value := rfl

@[simp] theorem done_bind (value : Result) (continuation : Result → Program I Next) :
    (Program.done value >>= continuation) = continuation value := rfl

@[simp] theorem call_bind (request : I.Call) (next : I.Answer request → Program I Result)
    (continuation : Result → Program I Next) :
    (Program.call request next >>= continuation) =
      .call request fun answer => next answer >>= continuation := rfl

@[simp] theorem issue_bind (request : I.Call) (continuation : I.Answer request → Program I Next) :
    (issue request >>= continuation) = .call request continuation := rfl

theorem bind_done (program : Program I Result) : program >>= Program.done = program := by
  induction program with
  | done value => rfl
  | call request next ih => exact congrArg _ (funext ih)

theorem bind_assoc {Last : Type} (program : Program I Result) (first : Result → Program I Next)
    (second : Next → Program I Last) :
    program >>= first >>= second = program >>= fun value => first value >>= second := by
  induction program with
  | done value => rfl
  | call request next ih => exact congrArg _ (funext ih)

instance : LawfulMonad (Program I) :=
  LawfulMonad.mk' (Program I) bind_done (fun _ _ => rfl) bind_assoc

/-- The program may issue these calls, get these answers, and return this value. -/
inductive Runs : Program I Result → List (Event I) → Result → Prop where
  | done {value : Result} : Runs (.done value) [] value
  | call {request : I.Call} {next : I.Answer request → Program I Result} {answer : I.Answer request}
      {trace : List (Event I)} {value : Result} :
      Runs (next answer) trace value → Runs (.call request next) (⟨request, answer⟩ :: trace) value

@[simp] theorem runs_done_iff {value result : Result} {trace : List (Event I)} :
    Runs (.done value : Program I Result) trace result ↔ trace = [] ∧ result = value := by
  constructor
  · intro run
    cases run
    exact ⟨rfl, rfl⟩
  · intro run
    obtain ⟨rfl, rfl⟩ := run
    exact .done

@[simp] theorem runs_call_iff {request : I.Call} {next : I.Answer request → Program I Result}
    {trace : List (Event I)} {result : Result} :
    Runs (.call request next) trace result ↔
      ∃ answer rest, trace = ⟨request, answer⟩ :: rest ∧ Runs (next answer) rest result := by
  constructor
  · intro run
    cases run with
    | call rest => exact ⟨_, _, rfl, rest⟩
  · intro parts
    obtain ⟨answer, rest, rfl, run⟩ := parts
    exact .call run

theorem runs_bind_iff {program : Program I Result} {continuation : Result → Program I Next}
    {trace : List (Event I)} {result : Next} :
    Runs (program >>= continuation) trace result ↔
      ∃ first second value, trace = first ++ second ∧ Runs program first value ∧
        Runs (continuation value) second result := by
  induction program generalizing trace with
  | done value =>
      simp only [done_bind, runs_done_iff]
      constructor
      · intro run
        exact ⟨[], trace, value, rfl, ⟨rfl, rfl⟩, run⟩
      · intro parts
        obtain ⟨_, second, _, rfl, ⟨rfl, rfl⟩, run⟩ := parts
        exact run
  | call request next ih =>
      simp only [call_bind, runs_call_iff, ih]
      constructor
      · intro run
        obtain ⟨answer, _, rfl, first, second, value, rfl, before, after⟩ := run
        exact ⟨⟨request, answer⟩ :: first, second, value, rfl, ⟨answer, first, rfl, before⟩, after⟩
      · intro run
        obtain ⟨_, second, value, rfl, ⟨answer, first, rfl, before⟩, after⟩ := run
        exact ⟨answer, first ++ second, rfl, first, second, value, rfl, before, after⟩

/-- What is left of a run once its first part is known. -/
theorem Runs.rest {program : Program I Result} {continuation : Result → Program I Next}
    {first second : List (Event I)} {value : Result} {result : Next}
    (part : program.Runs first value)
    (whole : (program >>= continuation).Runs (first ++ second) result) :
    (continuation value).Runs second result := by
  induction part with
  | done => exact whole
  | call _ ih =>
      obtain ⟨answer, rest, same, run⟩ := runs_call_iff.mp whole
      cases same
      exact ih run

end Program

/-- An environment that answers every call and keeps a state. -/
abbrev Server (I : Interface) (State : Type) :=
  State → (request : I.Call) → I.Answer request × State

namespace Program

variable {I : Interface} {Result Next State : Type}

/-- The value the program returns against a server, and the server's last state. -/
def exec (server : Server I State) : Program I Result → State → Result × State
  | .done value, state => (value, state)
  | .call request next, state =>
    (next (server state request).1).exec server (server state request).2

@[simp] theorem exec_done (server : Server I State) (value : Result) (state : State) :
    (Program.done value : Program I Result).exec server state = (value, state) := rfl

@[simp] theorem exec_call (server : Server I State) (request : I.Call)
    (next : I.Answer request → Program I Result) (state : State) :
    (Program.call request next).exec server state =
      (next (server state request).1).exec server (server state request).2 := rfl

/-- The calls the program issues against a server and the answers it gets. -/
def transcript (server : Server I State) : Program I Result → State → List (Event I)
  | .done _, _ => []
  | .call request next, state =>
    ⟨request, (server state request).1⟩ ::
      (next (server state request).1).transcript server (server state request).2

theorem runs_transcript {server : Server I State} {program : Program I Result} {state : State} :
    program.Runs (program.transcript server state) (program.exec server state).1 := by
  induction program generalizing state with
  | done value => exact .done
  | call request next ih => exact .call (ih _)

@[simp] theorem exec_bind (server : Server I State) (program : Program I Result)
    (continuation : Result → Program I Next) (state : State) :
    (program >>= continuation).exec server state =
      (continuation (program.exec server state).1).exec server (program.exec server state).2 := by
  induction program generalizing state with
  | done value => rfl
  | call request next ih => exact ih _ _

end Program

end Interaction
