import Se05x.Interaction.Throwing

/-!
# Programs that report failures

A program with exceptions reports failures when every event of a run that returns a value
went well: it has looked at each answer and thrown for the bad ones.
-/

set_option autoImplicit false

namespace Interaction

variable {I : Interface} {Error Value Result : Type} {calls : I.Call → Prop}
  {served : Event I → Prop} {source : ExceptT Error (Program I) Value}
  {continuation : Value → ExceptT Error (Program I) Result}

/-- Only such values are returned. -/
def Yields (values : Value → Prop) (source : ExceptT Error (Program I) Value) : Prop :=
  ∀ trace value, source.run.Runs trace (.ok value) → values value

/-- Only certain calls are issued, and a value is returned only if all of them were served. -/
structure Reports (calls : I.Call → Prop) (served : Event I → Prop)
    (source : ExceptT Error (Program I) Value) : Prop where
  issued : ∀ trace outcome, source.run.Runs trace outcome → ∀ event ∈ trace, calls event.request
  served : ∀ trace value, source.run.Runs trace (.ok value) → ∀ event ∈ trace, served event

namespace Yields

theorem returning {value : Value} {values : Value → Prop} (member : values value) :
    Yields values (pure value : ExceptT Error (Program I) Value) := by
  intro trace other run
  obtain ⟨_, ⟨⟩⟩ := Program.runs_pure_iff.mp run
  exact member

theorem throwing {error : Error} {values : Value → Prop} :
    Yields values (throw error : ExceptT Error (Program I) Value) := by
  intro trace value run
  cases (Program.runs_throw_iff.mp run).2

/-- A condition on returning at all may come from the first part. -/
theorem first {condition : Prop} (demanded : Yields (fun _ => condition) source) :
    Yields (fun _ => condition) (source >>= continuation) := by
  intro trace value run
  obtain ⟨_, _, _, _, before, _⟩ := Program.runs_throwing_bind_ok run
  exact demanded _ _ before

theorem rest {values : Result → Prop} (yielded : ∀ value, Yields values (continuation value)) :
    Yields values (source >>= continuation) := by
  intro trace value run
  obtain ⟨_, _, passed, _, _, after⟩ := Program.runs_throwing_bind_ok run
  exact yielded passed _ _ after

end Yields

namespace Reports

theorem returning {value : Value} :
    Reports calls served (pure value : ExceptT Error (Program I) Value) where
  issued trace outcome run := by
    obtain ⟨rfl, _⟩ := Program.runs_pure_iff.mp run
    exact List.forall_mem_nil _
  served trace result run := by
    obtain ⟨rfl, _⟩ := Program.runs_pure_iff.mp run
    exact List.forall_mem_nil _

theorem ofExcept {outcome : Except Error Value} :
    Reports calls served (liftExcept outcome : ExceptT Error (Program I) Value) where
  issued trace result run := by
    obtain ⟨rfl, _⟩ := Program.runs_liftExcept_iff.mp run
    exact List.forall_mem_nil _
  served trace value run := by
    obtain ⟨rfl, _⟩ := Program.runs_liftExcept_iff.mp run
    exact List.forall_mem_nil _

theorem throwing {error : Error} :
    Reports calls served (throw error : ExceptT Error (Program I) Value) :=
  @ofExcept I Error Value calls served (.error error)

theorem bind (first : Reports calls served source)
    (rest : ∀ value, Reports calls served (continuation value)) :
    Reports calls served (source >>= continuation) where
  issued trace outcome run := by
    rcases Program.runs_throwing_bind_iff.mp run with
      ⟨before, after, value, rfl, started, ended⟩ | ⟨error, stopped, _⟩
    · exact List.forall_mem_append.mpr
        ⟨first.issued _ _ started, (rest value).issued _ _ ended⟩
    · exact first.issued _ _ stopped
  served trace result run := by
    obtain ⟨before, after, value, rfl, started, ended⟩ := Program.runs_throwing_bind_ok run
    exact List.forall_mem_append.mpr ⟨first.served _ _ started, (rest value).served _ _ ended⟩

/-- A part whose result decides whether the rest returns. -/
theorem working {program : Program I Value}
    (issued : ∀ trace value, program.Runs trace value → ∀ event ∈ trace, calls event.request)
    (demanded : ∀ trace value, program.Runs trace value →
      Yields (fun _ => ∀ event ∈ trace, served event) (continuation value))
    (rest : ∀ value, Reports calls served (continuation value)) :
    Reports calls served (ExceptT.lift program >>= continuation) where
  issued trace outcome run := by
    rcases Program.runs_throwing_bind_iff.mp run with
      ⟨before, after, value, rfl, started, ended⟩ | ⟨error, stopped, _⟩
    · obtain ⟨_, worked, ⟨⟩⟩ := Program.runs_lift_iff.mp started
      exact List.forall_mem_append.mpr
        ⟨issued _ _ worked, (rest value).issued _ _ ended⟩
    · obtain ⟨_, _, ⟨⟩⟩ := Program.runs_lift_iff.mp stopped
  served trace result run := by
    obtain ⟨before, after, value, rfl, started, ended⟩ := Program.runs_throwing_bind_ok run
    obtain ⟨_, worked, ⟨⟩⟩ := Program.runs_lift_iff.mp started
    exact List.forall_mem_append.mpr
      ⟨demanded _ _ worked _ _ ended, (rest value).served _ _ ended⟩

/-- A call whose answer decides whether the rest returns. -/
theorem asking {request : I.Call}
    {continuation : I.Answer request → ExceptT Error (Program I) Result}
    (permitted : calls request)
    (demanded : ∀ answer, Yields (fun _ => served ⟨request, answer⟩) (continuation answer))
    (rest : ∀ answer, Reports calls served (continuation answer)) :
    Reports calls served (ExceptT.lift (Program.issue request) >>= continuation) := by
  refine working ?_ ?_ rest
  · intro trace answer run
    obtain ⟨_, _, rfl, ended⟩ := Program.runs_call_iff.mp run
    obtain ⟨rfl, _⟩ := Program.runs_done_iff.mp ended
    exact List.forall_mem_singleton.mpr permitted
  · intro trace answer run result value continued
    obtain ⟨_, _, rfl, ended⟩ := Program.runs_call_iff.mp run
    obtain ⟨rfl, rfl⟩ := Program.runs_done_iff.mp ended
    exact List.forall_mem_singleton.mpr (demanded _ _ _ continued)

/-- A call that cannot fail. -/
theorem issuing {request : I.Call} (permitted : calls request)
    (always : ∀ answer, served ⟨request, answer⟩) :
    Reports calls served (ExceptT.lift (Program.issue request) : ExceptT Error (Program I) _) where
  issued trace outcome run := by
    obtain ⟨answer, after, rfl, ended⟩ := Program.runs_call_iff.mp run
    obtain ⟨rfl, _⟩ := Program.runs_done_iff.mp ended
    exact List.forall_mem_singleton.mpr permitted
  served trace result run := by
    obtain ⟨answer, after, rfl, ended⟩ := Program.runs_call_iff.mp run
    obtain ⟨rfl, _⟩ := Program.runs_done_iff.mp ended
    exact List.forall_mem_singleton.mpr (always answer)

end Reports

end Interaction
