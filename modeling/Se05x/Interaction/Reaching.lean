import Se05x.Interaction.Program

/-!
# Calls a program can reach

When every call has some answer, every program has a run, and what one of its parts can
reach it can reach.
-/

set_option autoImplicit false

namespace Interaction

variable {I : Interface} [∀ request, Nonempty (I.Answer request)] {Value Result : Type}
  {calls : I.Call → Prop}

theorem Program.exists_run (program : Program I Value) :
    ∃ trace value, program.Runs trace value := by
  induction program with
  | done value => exact ⟨[], value, .done⟩
  | call request next ih =>
      obtain ⟨answer⟩ : Nonempty (I.Answer request) := inferInstance
      obtain ⟨trace, value, run⟩ := ih answer
      exact ⟨_, value, .call run⟩

omit [∀ request, Nonempty (I.Answer request)] in
/-- Some run of the program issues a call of this kind. -/
def Reaches (calls : I.Call → Prop) (program : Program I Value) : Prop :=
  ∃ trace value, program.Runs trace value ∧ ∃ event ∈ trace, calls event.request

namespace Reaches

theorem here {request : I.Call} {next : I.Answer request → Program I Value}
    (issued : calls request) : Reaches calls (.call request next) := by
  obtain ⟨answer⟩ : Nonempty (I.Answer request) := inferInstance
  obtain ⟨trace, value, run⟩ := (next answer).exists_run
  exact ⟨_, value, .call run, _, List.mem_cons_self, issued⟩

omit [∀ request, Nonempty (I.Answer request)] in
theorem later {request : I.Call} {next : I.Answer request → Program I Value}
    (answer : I.Answer request) (reached : Reaches calls (next answer)) :
    Reaches calls (.call request next) := by
  obtain ⟨trace, value, run, event, member, issued⟩ := reached
  exact ⟨_, value, .call run, event, List.mem_cons_of_mem _ member, issued⟩

theorem bind {program : Program I Value} {continuation : Value → Program I Result}
    (reached : Reaches calls program) : Reaches calls (program >>= continuation) := by
  obtain ⟨first, value, run, event, member, issued⟩ := reached
  obtain ⟨second, result, rest⟩ := (continuation value).exists_run
  exact ⟨first ++ second, result, Program.runs_bind_iff.mpr ⟨first, second, value, rfl, run, rest⟩,
    event, List.mem_append_left _ member, issued⟩

theorem after {program : Program I Value} {continuation : Value → Program I Result}
    (reached : ∀ value, Reaches calls (continuation value)) :
    Reaches calls (program >>= continuation) := by
  obtain ⟨first, value, run⟩ := program.exists_run
  obtain ⟨second, result, rest, event, member, issued⟩ := reached value
  exact ⟨first ++ second, result, Program.runs_bind_iff.mpr ⟨first, second, value, rfl, run, rest⟩,
    event, List.mem_append_right _ member, issued⟩

end Reaches

end Interaction
