import Se05x.Interaction.Procedure

/-!
# Procedures against a server

What a procedure returns or where it jumps to, with the locals and the server's state then.
-/

set_option autoImplicit false

namespace Interaction

namespace Procedure

variable {I : Interface} {Locals Jump Value Next State : Type} {server : Server I State}
  {locals : Locals} {state : State}

def ran (server : Server I State) (body : Procedure I Locals Jump Value) (locals : Locals)
    (state : State) : (Except Jump Value × Locals) × State :=
  (body.start locals).exec server state

theorem ran_bind {body : Procedure I Locals Jump Value}
    {continuation : Value → Procedure I Locals Jump Next} :
    ran server (body >>= continuation) locals state =
      match ran server body locals state with
      | ((.ok value, after), reached) => ran server (continuation value) after reached
      | ((.error label, after), reached) => ((.error label, after), reached) := by
  change (body.start locals >>= _).exec server state = _
  rw [Program.exec_bind, ran]
  obtain ⟨⟨outcome, after⟩, reached⟩ := (body.start locals).exec server state
  cases outcome <;> rfl

end Procedure

end Interaction
