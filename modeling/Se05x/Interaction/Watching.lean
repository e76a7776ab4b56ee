import Se05x.Interaction.Contract

/-!
# Watched runs

A program is watched for a condition on its environment's steps. When it ends well exactly if
every step so far has met the condition, its good runs are those all of whose steps meet it.
-/

set_option autoImplicit false

namespace Interaction

/-- A state of the environment, whether every step so far met the condition, and a record of
what has happened. -/
@[ext]
structure Watch (State Record : Type) where
  state : State
  kept : Prop
  record : Record

variable {I : Interface} {State Record Result : Type} {contract : Contract I State}
  {meets : State → Event I → Prop} {recording : Record → Event I → Record}

namespace Contract

/-- The environment keeps its side, and each of its steps meets the condition. -/
def meeting (contract : Contract I State) (meets : State → Event I → Prop) :
    Contract I State where
  allows := contract.allows
  moves state event after := contract.moves state event after ∧ meets state event

def watching (contract : Contract I State) (meets : State → Event I → Prop)
    (recording : Record → Event I → Record) : Contract I (Watch State Record) where
  allows w := contract.allows w.state
  moves w event after := contract.moves w.state event after.state ∧
    after.kept = (w.kept ∧ meets w.state event) ∧ after.record = recording w.record event

variable {first last : State} {trace : List (Event I)} {kept : Prop} {record : Record}

theorem History.of_meeting (history : (contract.meeting meets).History first trace last) :
    contract.History first trace last := by
  induction history with
  | nil => exact .nil
  | cons moved rest ih => exact .cons moved.1 ih

theorem History.meeting (history : contract.History first trace last)
    (met : ∀ event ∈ trace, ∀ state, meets state event) :
    (contract.meeting meets).History first trace last := by
  induction history with
  | nil => exact .nil
  | cons moved rest ih =>
      obtain ⟨first_met, others⟩ := List.forall_mem_cons.mp met
      exact .cons ⟨moved, first_met _⟩ (ih others)

theorem History.watched (history : contract.History first trace last) (kept : Prop) :
    ∃ still, (contract.watching meets recording).History ⟨first, kept, record⟩ trace
        ⟨last, still, trace.foldl recording record⟩ ∧
      (still → kept ∧ (contract.meeting meets).History first trace last) := by
  induction history generalizing kept record with
  | nil => exact ⟨kept, .nil, fun holds => ⟨holds, .nil⟩⟩
  | @cons first second last event trace moved rest ih =>
      obtain ⟨still, watched, sound⟩ :=
        @ih (recording record event) (kept ∧ meets first event)
      refine ⟨still, .cons ⟨moved, rfl, rfl⟩ watched, fun holds => ?_⟩
      obtain ⟨⟨before, met⟩, others⟩ := sound holds
      exact ⟨before, .cons ⟨moved, met⟩ others⟩

theorem History.watched_kept (history : (contract.meeting meets).History first trace last) :
    (contract.watching meets recording).History ⟨first, True, record⟩ trace
      ⟨last, True, trace.foldl recording record⟩ := by
  induction history generalizing record with
  | nil => exact .nil
  | cons moved rest ih =>
      refine .cons ⟨moved.1, ?_, rfl⟩ ih
      exact (eq_true ⟨trivial, moved.2⟩).symm

end Contract

theorem Program.Runs.meets_iff {program : Program I Result} {value : Result}
    {trace : List (Event I)} {first last : State} {start : Record} (good : State → Record → Prop)
    (run : program.Runs trace value) (history : contract.History first trace last)
    (met : program.wp (contract.watching meets recording)
      (fun _ w => good w.state w.record ↔ w.kept) ⟨first, True, start⟩) :
    good last (trace.foldl recording start) ↔
      (contract.meeting meets).History first trace last := by
  constructor
  · intro holds
    obtain ⟨still, watched, sound⟩ := history.watched True
    exact (sound ((run.ensures met watched).mp holds)).2
  · intro steps
    exact (run.ensures met steps.watched_kept).mpr trivial

end Interaction
