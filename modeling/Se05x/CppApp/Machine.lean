import Mathlib.Logic.Function.Basic
import Se05x.CppApp.Permissions
import Se05x.Interaction.Serving

/-!
# A computer with a secure element

Files, standard output and the stored objects, as one invocation after another finds them.
-/

set_option autoImplicit false

namespace Se05x.CppApp

open Der Interaction SecureElement

/-- What stays the same from one invocation to the next. Two paths may name one file. -/
structure Platform where
  resolve : String → Nat
  writable : String → Bool
  getenv : String → Option String
  boot : Option String → SssStatus
  keyStoreInit : SssStatus

structure Machine (element : SecureElement) where
  store : State element
  files : Nat → Option Bytes
  output : Bytes

variable {element : SecureElement} {platform : Platform} {machine : Machine element}

namespace Machine

def read (platform : Platform) (machine : Machine element) (path : String) : Option Bytes :=
  machine.files (platform.resolve path)

/-- The file a path names is replaced or created. -/
def write (platform : Platform) (machine : Machine element) (path : String) (data : Bytes) :
    Machine element :=
  { machine with files := Function.update machine.files (platform.resolve path) (some data) }

def print (machine : Machine element) (text : Bytes) : Machine element :=
  { machine with output := machine.output ++ text }

def withStore (machine : Machine element) (store : State element) : Machine element :=
  { machine with store := store }

def stores (element : SecureElement) : Part (Machine element) (State element) where
  get := store
  put store machine := machine.withStore store
  put_get _ := rfl
  get_put _ _ := rfl
  put_put _ _ _ := rfl

end Machine

def inputFile : Option Bytes → InputFile
  | none => .cannotOpen
  | some bytes => .contents bytes

/-- Vector constructions succeed at every size, and an opened file takes all that is written to it.
What goes to standard error is not kept. -/
def Platform.server (platform : Platform) : Server host (Machine element) := fun machine request =>
  match request with
  | .sss request => ((serve machine.store request).1, machine.withStore (serve machine.store request).2)
  | .allocate _ => (.granted, machine)
  | .readFile path => (inputFile (machine.read platform path), machine)
  | .writeFile path data =>
    (platform.writable path,
      if platform.writable path then machine.write platform path data else machine)
  | .printOut text => ((), machine.print text)
  | .getenv name => (platform.getenv name, machine)
  | .bootOpen portName => (platform.boot portName, machine)
  | .keyStoreAndObjectInit => (platform.keyStoreInit, machine)
  | .printError _ | .sessionClose | .logInfo _ | .logError _ | .logBytes _ _ => ((), machine)

/-- One run of the program: its exit code and what it leaves behind. -/
def Machine.launch (platform : Platform) (mbedtls : Mbedtls) (target : Target)
    (statusCode : SssStatus → Nat) (machine : Machine element) (argv : List String) :
    Nat × Machine element :=
  let ran := (main mbedtls target statusCode argv).exec platform.server machine
  (ran.1.rc, ran.2)

/-- The element without a computer: only its own calls and allocations matter. -/
def alone (element : SecureElement) : Server host (State element) := fun state request =>
  match request with
  | .sss request => serve state request
  | .allocate _ => (.granted, state)
  | .readFile _ => (.cannotOpen, state)
  | .writeFile _ _ => (false, state)
  | .getenv _ => (none, state)
  | .bootOpen _ | .keyStoreAndObjectInit => (.success, state)
  | .printOut _ | .printError _ | .sessionClose | .logInfo _ | .logError _ | .logBytes _ _ =>
    ((), state)

theorem alone_hosts : Hosts element (alone element) where
  sss _ _ := rfl
  allocates _ _ := rfl

/-- A call of the element or of the allocator. -/
def Internal : HostCall → Prop
  | .sss _ | .allocate _ => True
  | _ => False

theorem permits_internal : Permits Internal (fun _ => True) where
  keyless _ _ := trivial
  allocate _ := trivial
  crypto _ _ := trivial
  allocation _ := trivial

theorem internal_answersFrom :
    AnswersFrom (Machine.stores element) Internal (alone element) platform.server := by
  intro machine request permitted
  cases request with
  | sss | allocate => rfl
  | readFile | writeFile | printOut | printError | getenv | bootOpen | keyStoreAndObjectInit
  | sessionClose | logInfo | logError | logBytes => exact permitted.elim

/-- An operation on key handles runs on a machine as it does on the element alone. -/
theorem returned_internal {Value : Type} {source : Cpp Value}
    (confined : Confined Internal (fun _ => True) source) :
    Program.returned platform.server source machine =
      ((Program.returned (alone element) source machine.store).1,
        machine.withStore (Program.returned (alone element) source machine.store).2) :=
  internal_answersFrom.returned confined

theorem returned_unchanged {Value : Type} {source : Cpp Value}
    {outcome : Except CppException Value} (confined : Confined Internal (fun _ => True) source)
    (ran : source.run.exec (alone element) machine.store = (outcome, machine.store)) :
    Program.returned platform.server source machine = (outcome.toOption, machine) := by
  rw [returned_internal confined, Program.returned_of_exec ran]
  rfl

/-! ## Files and streams -/

theorem readFile_returned {path : String} :
    Program.returned platform.server (readFile path) machine =
      (machine.read platform path, machine) := by
  rw [readFile, Program.returned_bind, Program.returned_lift, ask_eq_call]
  simp only [Program.exec_call, Program.exec_done, Platform.server]
  cases machine.read platform path <;> rfl

theorem printOut_returned {text : Bytes} :
    Program.returned platform.server (printOut text) machine = (some (), machine.print text) := rfl

theorem printError_returned {text : String} :
    Program.returned platform.server (printError text) machine = (some (), machine) := rfl

theorem writeFile_returned {path : String} {data : Bytes} :
    Program.returned platform.server (writeFile path data) machine =
      if platform.writable path then (some (), machine.write platform path data)
      else (none, machine) := by
  have step : Program.returned platform.server (writeFile path data) machine =
      Program.returned platform.server
        (if platform.writable path then pure () else throw (.cannotOpenOutput path) : Cpp Unit)
        (if platform.writable path then machine.write platform path data else machine) := rfl
  rw [step]
  cases platform.writable path <;> rfl

def hexLine (data : Bytes) : Bytes :=
  data.flatMap (fun b => asciiBytes (hexText 2 b.toNat)) ++ asciiBytes "\n"

/-- A result goes to a file if one is named, and to standard output otherwise. -/
def Machine.accept (platform : Platform) (machine : Machine element) (out : String)
    (filed shown : Bytes) : Option Unit × Machine element :=
  if out = "" then (some (), machine.print shown)
  else if platform.writable out then (some (), machine.write platform out filed)
  else (none, machine)

theorem written_returned {path text : String} {data : Bytes} :
    Program.returned platform.server (do writeFile path data; printError text) machine =
      if platform.writable path then (some (), machine.write platform path data)
      else (none, machine) := by
  by_cases writable : platform.writable path
  · have opened := writeFile_returned.trans (@if_pos _ _ writable _
      (some (), machine.write platform path data) (none, machine))
    rw [Program.returned_bind_some opened, printError_returned, if_pos writable]
  · have refused := writeFile_returned.trans (@if_neg _ _ writable _
      (some (), machine.write platform path data) (none, machine))
    rw [Program.returned_bind_none refused, if_neg writable]

theorem emit_returned {a : Args} {data : Bytes} :
    Program.returned platform.server (emit a data) machine =
      machine.accept platform (a.get "--out") data (hexLine data) := by
  rw [emit, Machine.accept]
  by_cases named : a.get "--out" = ""
  · rw [if_neg (not_not.mpr named), if_pos named]
    exact printOut_returned
  · rw [if_pos named, if_neg named]
    exact written_returned

theorem emitText_returned {a : Args} {text : Bytes} :
    Program.returned platform.server (emitText a text) machine =
      machine.accept platform (a.get "--out") text (text.takeWhile (· ≠ 0)) := by
  rw [emitText, Machine.accept]
  by_cases named : a.get "--out" = ""
  · rw [if_neg (not_not.mpr named), if_pos named]
    exact printOut_returned
  · rw [if_pos named, if_neg named]
    exact written_returned

end Se05x.CppApp
