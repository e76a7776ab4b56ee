import Se05x.Interaction.Procedure

/-!
# Judging a run by its calls

A judge reads the calls of a run one after another. What it remembers of the earlier ones
decides whether the next one counts as a failure.
-/

set_option autoImplicit false

namespace Interaction

structure Judge (I : Interface) (Memory : Type) where
  note : Memory → Event I → Memory
  fails : Memory → Event I → Bool

/-- What the judge remembers, and whether there was a failure. -/
structure Judgement (Memory : Type) where
  memory : Memory
  failed : Bool

variable {I : Interface} {Memory Result : Type} {judge : Judge I Memory} {memory : Memory}
  {trace : List (Event I)}

namespace Judge

def judged (judge : Judge I Memory) (sofar : Judgement Memory) (event : Event I) :
    Judgement Memory :=
  ⟨judge.note sofar.memory event, sofar.failed || judge.fails sofar.memory event⟩

/-- Every call is allowed. -/
def contract (judge : Judge I Memory) : Contract I (Judgement Memory) :=
  .recording (fun _ _ => True) judge.judged

/-- No call fails in the light of the calls before it. -/
def Faultless (judge : Judge I Memory) (memory : Memory) (trace : List (Event I)) : Prop :=
  ∀ before event after, trace = before ++ event :: after →
    judge.fails (before.foldl judge.note memory) event = false

theorem faultless_nil : judge.Faultless memory [] := by
  intro before event after split
  cases before <;> cases split

theorem faultless_cons_iff {event : Event I} :
    judge.Faultless memory (event :: trace) ↔
      judge.fails memory event = false ∧ judge.Faultless (judge.note memory event) trace := by
  constructor
  · intro faultless
    refine ⟨faultless [] event trace rfl, fun before other after split => ?_⟩
    exact faultless (event :: before) other after (congrArg (event :: ·) split)
  · intro both before other after split
    obtain ⟨first, rest⟩ := both
    cases before with
    | nil =>
        cases split
        exact first
    | cons head before =>
        cases split
        exact rest before other after rfl

theorem judged_trace {sofar : Judgement Memory} :
    (trace.foldl judge.judged sofar).failed = false ↔
      sofar.failed = false ∧ judge.Faultless sofar.memory trace := by
  induction trace generalizing sofar with
  | nil => exact ⟨fun met => ⟨met, faultless_nil⟩, And.left⟩
  | cons event trace ih =>
      rw [List.foldl_cons, ih, faultless_cons_iff, ← and_assoc]
      exact and_congr_left' Bool.or_eq_false_iff

end Judge

/-- What a program ensures of its judgement holds of its run. -/
theorem Program.Runs.judged {program : Program I Result} {value : Result}
    {post : Result → Judgement Memory → Prop} (run : program.Runs trace value)
    (met : program.wp judge.contract post ⟨memory, false⟩) :
    ∃ last, post value last ∧ (last.failed = false ↔ judge.Faultless memory trace) := by
  refine ⟨_, run.ensures met (Contract.history_recording_iff.mpr rfl), ?_⟩
  rw [Judge.judged_trace]
  exact and_iff_right rfl

end Interaction
