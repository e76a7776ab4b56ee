import Se05x.Interaction.Throwing

/-!
# Confined programs

A program that throws is confined when it issues only certain calls, whatever they are
answered, and stops only with certain exceptions.
-/

set_option autoImplicit false

namespace Interaction

variable {I : Interface} {Error Value Result : Type} {errors : Error → Prop}

/-- A computation stops only with certain exceptions. -/
def OnlyFails (errors : Error → Prop) (outcome : Except Error Value) : Prop :=
  ∀ error, outcome = .error error → errors error

@[simp] theorem onlyFails_ok {value : Value} :
    OnlyFails errors (.ok value : Except Error Value) := nofun

@[simp] theorem onlyFails_error_iff {error : Error} :
    OnlyFails errors (.error error : Except Error Value) ↔ errors error := by
  constructor
  · intro only
    exact only error rfl
  · intro permitted other thrown
    cases thrown
    exact permitted

theorem OnlyFails.bind {outcome : Except Error Value} {continuation : Value → Except Error Result}
    (first : OnlyFails errors outcome) (rest : ∀ value, OnlyFails errors (continuation value)) :
    OnlyFails errors (outcome >>= continuation) := by
  cases outcome with
  | ok value => exact rest value
  | error error => exact onlyFails_error_iff.mpr (first error rfl)

def confining (calls : I.Call → Prop) : Contract I Unit where
  allows _ request := calls request
  moves _ _ _ := True

def Confined (calls : I.Call → Prop) (errors : Error → Prop)
    (source : ExceptT Error (Program I) Value) : Prop :=
  source.run.wp (confining calls) (fun outcome _ => OnlyFails errors outcome) ()

variable {calls : I.Call → Prop} {source : ExceptT Error (Program I) Value} {trace : List (Event I)}

theorem confining_history : (confining calls).History () trace () := by
  induction trace with
  | nil => exact .nil
  | cons event trace ih => exact .cons trivial ih

/-- What every call of a kind keeps, a program that issues no other keeps. -/
theorem Program.wp_of_confining {State : Type} {contract : Contract I State}
    {invariant : State → Prop} {program : Program I Value} {state : State}
    (confined : program.wp (confining calls) (fun _ _ => True) ())
    (keeps : ∀ request, calls request → ∀ state, invariant state → contract.allows state request ∧
      ∀ answer after, contract.moves state ⟨request, answer⟩ after → invariant after)
    (entered : invariant state) : program.wp contract (fun _ => invariant) state := by
  induction program generalizing state with
  | done value => exact entered
  | call request next ih =>
      obtain ⟨permitted, rest⟩ := confined
      obtain ⟨allowed, kept⟩ := keeps request permitted state entered
      exact ⟨allowed, fun answer after moved =>
        ih answer (rest answer () trivial) (kept answer after moved)⟩

namespace Confined

theorem error {error : Error} (confined : Confined calls errors source)
    (run : source.run.Runs trace (.error error)) : errors error :=
  run.ensures confined confining_history error rfl

theorem allowed {outcome : Except Error Value} {event : Event I}
    (confined : Confined calls errors source) (run : source.run.Runs trace outcome)
    (issued : event ∈ trace) : calls event.request := by
  obtain ⟨before, after, rfl⟩ := List.append_of_mem issued
  exact run.allowed confined confining_history

theorem returning {value : Value} :
    Confined calls errors (pure value : ExceptT Error (Program I) Value) :=
  onlyFails_ok

theorem throwing {error : Error} (permitted : errors error) :
    Confined calls errors (throw error : ExceptT Error (Program I) Value) :=
  onlyFails_error_iff.mpr permitted

theorem ofExcept {outcome : Except Error Value} (permitted : OnlyFails errors outcome) :
    Confined calls errors (liftExcept outcome : ExceptT Error (Program I) Value) :=
  Program.wp_liftExcept.mpr permitted

theorem issuing {request : I.Call} (permitted : calls request) :
    Confined calls errors (ExceptT.lift (Program.issue request) : ExceptT Error (Program I) _) :=
  ⟨permitted, fun _ _ _ => onlyFails_ok⟩

theorem lifting {program : Program I Value} :
    Confined (fun _ => True) errors (ExceptT.lift program : ExceptT Error (Program I) Value) := by
  induction program with
  | done value => exact .returning
  | call request next ih => exact ⟨trivial, fun answer _ _ => ih answer⟩

theorem bind {continuation : Value → ExceptT Error (Program I) Result}
    (first : Confined calls errors source)
    (rest : ∀ value, Confined calls errors (continuation value)) :
    Confined calls errors (source >>= continuation) := by
  refine Program.wp_throwing_bind.mpr (Program.wp_mono first ?_)
  intro outcome _ permitted
  cases outcome with
  | ok value => exact rest value
  | error error => exact onlyFails_error_iff.mpr (permitted error rfl)

/-- An exception that is caught and dropped is none. -/
theorem swallowing {source : ExceptT Error (Program I) Unit}
    (confined : Confined calls (fun _ => True) source) :
    Confined calls errors (tryCatch source fun _ => pure ()) := by
  rw [Confined, Program.run_swallow, Program.wp_bind]
  exact Program.wp_mono confined fun _ _ _ => onlyFails_ok

end Confined

end Interaction
