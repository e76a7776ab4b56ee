import Se05x.Interaction.Confinement

/-!
# Programs against servers

What a program returns against a server when all exceptions are alike, servers that answer
some calls from one part of their state, and one step after another.
-/

set_option autoImplicit false

namespace Interaction

variable {I : Interface} {Error Value Result State : Type} {server : Server I State} {state : State}

namespace Program

/-- The value a program that throws returns, if it returns one, and the server's last state. -/
def returned (server : Server I State) (source : ExceptT Error (Program I) Value) (state : State) :
    Option Value × State :=
  ((source.run.exec server state).1.toOption, (source.run.exec server state).2)

@[simp] theorem returned_pure {value : Value} :
    returned server (pure value : ExceptT Error (Program I) Value) state = (some value, state) := rfl

@[simp] theorem returned_throw {error : Error} :
    returned server (throw error : ExceptT Error (Program I) Value) state = (none, state) := rfl

theorem returned_liftExcept {outcome : Except Error Value} :
    returned server (liftExcept outcome : ExceptT Error (Program I) Value) state =
      (outcome.toOption, state) := by
  cases outcome <;> rfl

theorem returned_lift {program : Program I Value} :
    returned server (ExceptT.lift program : ExceptT Error (Program I) Value) state =
      (some (program.exec server state).1, (program.exec server state).2) := by
  have shape : (ExceptT.lift program : ExceptT Error (Program I) Value).run =
      program >>= fun value => Program.done (.ok value) := rfl
  rw [returned, shape, exec_bind]
  rfl

theorem returned_of_exec {source : ExceptT Error (Program I) Value} {outcome : Except Error Value}
    {after : State} (ran : source.run.exec server state = (outcome, after)) :
    returned server source state = (outcome.toOption, after) := by
  rw [returned, ran]

section Sequence

variable {source : ExceptT Error (Program I) Value}
  {continuation : Value → ExceptT Error (Program I) Result} {after : State}

theorem returned_bind : returned server (source >>= continuation) state =
    match returned server source state with
    | (some value, after) => returned server (continuation value) after
    | (none, after) => (none, after) := by
  rw [returned, exec_throwing_bind, returned]
  cases source.run.exec server state with
  | mk outcome after => cases outcome <;> rfl

theorem returned_bind_some {value : Value} (first : returned server source state = (some value, after)) :
    returned server (source >>= continuation) state = returned server (continuation value) after := by
  rw [returned_bind, first]

theorem returned_bind_none (first : returned server source state = (none, after)) :
    returned server (source >>= continuation) state = (none, after) := by
  rw [returned_bind, first]

/-- An exception that is caught and dropped counts as a return. -/
theorem returned_swallow {source : ExceptT Error (Program I) Unit} :
    returned server (tryCatch source fun _ => pure ()) state =
      (some (), (returned server source state).2) := by
  rw [returned, run_swallow, exec_bind]
  rfl

end Sequence

end Program

/-- A part of a larger state that can be read and replaced. -/
structure Part (Whole Piece : Type) where
  get : Whole → Piece
  put : Piece → Whole → Whole
  put_get : ∀ whole, put (get whole) whole = whole
  get_put : ∀ piece whole, get (put piece whole) = piece
  put_put : ∀ first second whole, put second (put first whole) = put second whole

section Parts

variable {Whole Piece : Type} {part : Part Whole Piece} {calls : I.Call → Prop}
  {inner : Server I Piece} {outer : Server I Whole} {whole : Whole}

/-- Calls of a kind are answered from one part of the state, which alone they change. -/
def AnswersFrom (part : Part Whole Piece) (calls : I.Call → Prop) (inner : Server I Piece)
    (outer : Server I Whole) : Prop :=
  ∀ whole request, calls request →
    outer whole request =
      ((inner (part.get whole) request).1, part.put (inner (part.get whole) request).2 whole)

/-- A program that issues only such calls runs as it does against the part. -/
theorem AnswersFrom.exec {program : Program I Result} (answers : AnswersFrom part calls inner outer)
    (confined : program.wp (confining calls) (fun _ _ => True) ()) :
    program.exec outer whole =
      ((program.exec inner (part.get whole)).1,
        part.put (program.exec inner (part.get whole)).2 whole) := by
  induction program generalizing whole with
  | done value => rw [Program.exec_done, Program.exec_done, part.put_get]
  | call request next ih =>
      obtain ⟨permitted, rest⟩ := confined
      rw [Program.exec_call, Program.exec_call, answers whole request permitted,
        ih _ (rest _ () trivial), part.get_put, part.put_put]

theorem AnswersFrom.returned {errors : Error → Prop} {source : ExceptT Error (Program I) Value}
    (answers : AnswersFrom part calls inner outer) (confined : Confined calls errors source) :
    Program.returned outer source whole =
      ((Program.returned inner source (part.get whole)).1,
        part.put (Program.returned inner source (part.get whole)).2 whole) := by
  rw [Program.returned, answers.exec (Program.wp_mono confined fun _ _ _ => trivial)]
  rfl

end Parts

/-! ## One step after another -/

section Series

variable {Input Output : Type} {step other : State → Input → Output × State} {inputs : List Input}

/-- The outputs of the steps, and the state after the last. -/
def series (step : State → Input → Output × State) (state : State) : List Input → List Output × State
  | [] => ([], state)
  | input :: inputs =>
    ((step state input).1 :: (series step (step state input).2 inputs).1,
      (series step (step state input).2 inputs).2)

theorem series_congr (same : ∀ state input, step state input = other state input) :
    series step state inputs = series other state inputs := by
  induction inputs generalizing state with
  | nil => rfl
  | cons input inputs ih => rw [series, series, same, ih]

/-- What every step of a series keeps, the series keeps. -/
theorem series_keeps {invariant : State → Prop}
    (keeps : ∀ input ∈ inputs, ∀ state, invariant state → invariant (step state input).2)
    (start : invariant state) : invariant (series step state inputs).2 := by
  induction inputs generalizing state with
  | nil => exact start
  | cons input inputs ih =>
      exact ih (fun other member => keeps other (List.mem_cons_of_mem _ member))
        (keeps input List.mem_cons_self state start)

end Series

end Interaction
