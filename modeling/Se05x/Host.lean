import Se05x.Interaction.Program
import Se05x.Sss.Api

/-!
# Host environment

What the programs reach outside themselves: the secure element, files and streams, the
process environment, and the allocator of the C++ runtime.
-/

set_option autoImplicit false

namespace Se05x

open Der Interaction

/-- How constructing a `std::vector` of a given size ends. -/
inductive Allocation where
  | granted
  | badAlloc
  | lengthError
deriving DecidableEq, Repr

/-- What reading a whole file through a stream gives. -/
inductive InputFile where
  | cannotOpen
  | failed (what : String)
  | contents (bytes : Bytes)
deriving DecidableEq, Repr

inductive HostCall where
  | sss (request : SssCall)
  | allocate (size : Nat)
  | readFile (path : String)
  | writeFile (path : String) (data : Bytes)
  | printOut (text : Bytes)
  | printError (text : String)
  | getenv (name : String)
  | bootOpen (portName : Option String)
  | keyStoreAndObjectInit
  | sessionClose
  | logInfo (text : String)
  | logError (text : String)
  | logBytes (label : String) (bytes : Bytes)
deriving DecidableEq, Repr

/-- A file is written only if it could be opened. Whether all of it was then written has no answer:
none of the programs asks. -/
abbrev HostCall.Answer : HostCall → Type
  | .sss request => request.Answer
  | .allocate _ => Allocation
  | .readFile _ => InputFile
  | .writeFile _ _ => Bool
  | .getenv _ => Option String
  | .bootOpen _ | .keyStoreAndObjectInit => SssStatus
  | .printOut _ | .printError _ | .sessionClose | .logInfo _ | .logError _ | .logBytes _ _ => Unit

abbrev host : Interface := ⟨HostCall, HostCall.Answer⟩

def ask (request : HostCall) : Program host request.Answer := .call request .done

@[simp] theorem ask_eq_call (request : HostCall) : ask request = .call request .done := rfl

end Se05x
