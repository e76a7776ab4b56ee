import Se05x.Interaction.Contract

/-!
# Programs that throw

Runs of programs with exceptions, step by step: a sequence either passes a value on or
stops at the first exception.
-/

set_option autoImplicit false

namespace Interaction

theorem except_bind_ok {Error Value Result : Type}
    {source : Except Error Value} {continuation : Value → Except Error Result} {result : Result}
    (success : (source >>= continuation) = .ok result) :
    ∃ value, source = .ok value ∧ continuation value = .ok result := by
  cases source with
  | error error => cases success
  | ok value => exact ⟨value, rfl, success⟩

namespace Program

variable {I : Interface} {Error Value Result : Type} {trace : List (Event I)}

@[simp] theorem runs_pure_iff {value : Value} {result : Except Error Value} :
    (pure value : ExceptT Error (Program I) Value).run.Runs trace result ↔
      trace = [] ∧ result = .ok value :=
  runs_done_iff

@[simp] theorem runs_throw_iff {error : Error} {result : Except Error Value} :
    (throw error : ExceptT Error (Program I) Value).run.Runs trace result ↔
      trace = [] ∧ result = .error error :=
  runs_done_iff

theorem runs_liftExcept_iff {source result : Except Error Value} :
    (liftExcept source : ExceptT Error (Program I) Value).run.Runs trace result ↔
      trace = [] ∧ result = source := by
  cases source with
  | error error => exact runs_throw_iff
  | ok value => exact runs_pure_iff

theorem runs_lift_iff {program : Program I Value} {result : Except Error Value} :
    (ExceptT.lift program : ExceptT Error (Program I) Value).run.Runs trace result ↔
      ∃ value, program.Runs trace value ∧ result = .ok value := by
  have shape : (ExceptT.lift program : ExceptT Error (Program I) Value).run =
      program >>= fun value => Program.done (.ok value) := rfl
  rw [shape, runs_bind_iff]
  constructor
  · intro parts
    obtain ⟨first, second, value, rfl, run, last⟩ := parts
    obtain ⟨rfl, rfl⟩ := runs_done_iff.mp last
    exact ⟨value, by simpa using run, rfl⟩
  · intro parts
    obtain ⟨value, run, rfl⟩ := parts
    exact ⟨trace, [], value, by simp, run, .done⟩

/-- The exception of the first part is the exception of the whole. -/
theorem runs_throwing_bind_iff {source : ExceptT Error (Program I) Value}
    {continuation : Value → ExceptT Error (Program I) Result} {result : Except Error Result} :
    (source >>= continuation).run.Runs trace result ↔
      (∃ first second value, trace = first ++ second ∧ source.run.Runs first (.ok value) ∧
        (continuation value).run.Runs second result) ∨
      ∃ error, source.run.Runs trace (.error error) ∧ result = .error error := by
  rw [ExceptT.run_bind, runs_bind_iff]
  constructor
  · intro parts
    obtain ⟨first, second, outcome, rfl, run, rest⟩ := parts
    cases outcome with
    | ok value => exact .inl ⟨first, second, value, rfl, run, rest⟩
    | error error =>
        obtain ⟨rfl, rfl⟩ := runs_done_iff.mp rest
        exact .inr ⟨error, by simpa using run, rfl⟩
  · intro parts
    obtain ⟨first, second, value, rfl, run, rest⟩ | ⟨error, run, rfl⟩ := parts
    · exact ⟨first, second, .ok value, rfl, run, rest⟩
    · exact ⟨trace, [], .error error, by simp, run, .done⟩

theorem runs_throwing_bind_ok {source : ExceptT Error (Program I) Value}
    {continuation : Value → ExceptT Error (Program I) Result} {result : Result}
    (run : (source >>= continuation).run.Runs trace (.ok result)) :
    ∃ first second value, trace = first ++ second ∧ source.run.Runs first (.ok value) ∧
      (continuation value).run.Runs second (.ok result) := by
  rcases runs_throwing_bind_iff.mp run with passed | ⟨_, _, stopped⟩
  · exact passed
  · cases stopped

theorem Runs.throwing_bind {source : ExceptT Error (Program I) Value}
    {continuation : Value → ExceptT Error (Program I) Result} {first second : List (Event I)}
    {value : Value} {result : Except Error Result} (part : source.run.Runs first (.ok value))
    (rest : (continuation value).run.Runs second result) :
    (source >>= continuation).run.Runs (first ++ second) result :=
  runs_throwing_bind_iff.mpr (.inl ⟨first, second, value, rfl, part, rest⟩)

theorem Runs.throwing_rest {source : ExceptT Error (Program I) Value}
    {continuation : Value → ExceptT Error (Program I) Result} {first second : List (Event I)}
    {value : Value} {result : Except Error Result} (part : source.run.Runs first (.ok value))
    (whole : (source >>= continuation).run.Runs (first ++ second) result) :
    (continuation value).run.Runs second result := by
  rw [ExceptT.run_bind] at whole
  exact part.rest whole

theorem run_swallow {source : ExceptT Error (Program I) Unit} :
    (tryCatch source fun _ => pure ()).run = source.run >>= fun _ => Program.done (.ok ()) := by
  refine congrArg (Program.bind source.run) (funext fun outcome => ?_)
  cases outcome <;> rfl

/-- An exception that is caught and dropped leaves its calls behind. -/
theorem runs_swallow_iff {source : ExceptT Error (Program I) Unit} {result : Except Error Unit} :
    (tryCatch source fun _ => pure ()).run.Runs trace result ↔
      (∃ outcome, source.run.Runs trace outcome) ∧ result = .ok () := by
  rw [run_swallow, runs_bind_iff]
  constructor
  · intro parts
    obtain ⟨first, second, outcome, rfl, run, last⟩ := parts
    obtain ⟨rfl, rfl⟩ := runs_done_iff.mp last
    exact ⟨⟨outcome, by simpa using run⟩, rfl⟩
  · intro parts
    obtain ⟨⟨outcome, run⟩, rfl⟩ := parts
    exact ⟨trace, [], outcome, by simp, run, .done⟩

theorem wp_throwing_bind {State : Type} {contract : Contract I State} {state : State}
    {source : ExceptT Error (Program I) Value}
    {continuation : Value → ExceptT Error (Program I) Result}
    {post : Except Error Result → State → Prop} :
    (source >>= continuation).run.wp contract post state ↔
      source.run.wp contract (fun outcome after => match outcome with
        | .ok value => (continuation value).run.wp contract post after
        | .error error => post (.error error) after) state := by
  rw [ExceptT.run_bind, wp_bind]
  refine iff_of_eq (congrArg (fun ends => source.run.wp contract ends state) ?_)
  funext outcome after
  cases outcome <;> rfl

theorem wp_liftExcept {State : Type} {contract : Contract I State} {state : State}
    {source : Except Error Value} {post : Except Error Value → State → Prop} :
    (liftExcept source : ExceptT Error (Program I) Value).run.wp contract post state ↔
      post source state := by
  cases source <;> rfl

theorem exec_throwing_bind {State : Type} {server : Server I State} {state : State}
    {source : ExceptT Error (Program I) Value}
    {continuation : Value → ExceptT Error (Program I) Result} :
    (source >>= continuation).run.exec server state =
      match source.run.exec server state with
      | (.ok value, after) => (continuation value).run.exec server after
      | (.error error, after) => (.error error, after) := by
  rw [ExceptT.run_bind, exec_bind]
  cases source.run.exec server state with
  | mk outcome after => cases outcome <;> rfl

theorem exec_throwing_bind_ok {State : Type} {server : Server I State} {state after : State}
    {source : ExceptT Error (Program I) Value}
    {continuation : Value → ExceptT Error (Program I) Result} {value : Value}
    (passed : source.run.exec server state = (.ok value, after)) :
    (source >>= continuation).run.exec server state =
      (continuation value).run.exec server after := by
  rw [exec_throwing_bind, passed]

theorem exec_throwing_bind_error {State : Type} {server : Server I State} {state after : State}
    {source : ExceptT Error (Program I) Value}
    {continuation : Value → ExceptT Error (Program I) Result} {error : Error}
    (thrown : source.run.exec server state = (.error error, after)) :
    (source >>= continuation).run.exec server state = (.error error, after) := by
  rw [exec_throwing_bind, thrown]

end Program

end Interaction
